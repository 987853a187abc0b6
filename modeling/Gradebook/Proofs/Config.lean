import Gradebook.Config
import Gradebook.Proofs.Files
import Gradebook.Proofs.Json.Durable

namespace Gradebook

namespace Config

/-!
# Configurations that are saved and loaded

A configuration is loaded as it was saved, whatever characters its texts are made of.  The
only deliberate ambiguity is on the reading side: an option that is absent and one that is
null are the same.  The file that is written states all fields, so it does not depend on it.

A file that can be loaded can also be saved: it stands in a folder, and saving it replaces it.
-/

/-! ## The text of a configuration -/

/-- A configuration is read from its fields as it was written. -/
theorem reader_toJson (config : Config) :
    reader (.text Json.maximalDepth) config.toJson.written = .ok config := by
  rcases config with ⟨baseUrl, apiToken, username⟩
  simp only [toJson, Json.written, Json.writtenMembers, reader, Json.recordReader,
    Json.foldMembers, Json.Key.text, Fields.read, Json.nullable_ofOption, Outcome.ok_bind]
  rfl

theorem readText_toJson (config : Config) :
    Json.readText reader config.toJson.pretty = .ok config :=
  (Json.readText_pretty reader config.toJson).trans (reader_toJson config)

/-! ## The file -/

variable {config : Config} {files after : Files} {path : FilePath}

theorem saveTo_eq_ok_iff : config.saveTo files path = .ok after ↔
    ∃ prepared, files.createParents path = some prepared ∧
      prepared.write path (.text config.toJson.pretty) = some after := by
  rw [saveTo]
  cases files.createParents path with
  | none => simp
  | some prepared =>
      cases written : prepared.write path (.text config.toJson.pretty) with
      | none => simp [written]
      | some after => simp [written]

/-- What is saved is loaded. -/
theorem loadFrom_saveTo (saved : config.saveTo files path = .ok after) :
    loadFrom after path = .ok config := by
  rcases saveTo_eq_ok_iff.1 saved with ⟨prepared, _, written⟩
  have found := Files.find?_write written
  simp only [loadFrom, found, Files.readText?_eq_some_iff.2 found, readText_toJson,
    Except.mapError]

/-- A file can be saved anew. -/
theorem exists_saveTo {content : FileContent} (config : Config)
    (found : files.find? path = some (.file content)) :
    ∃ after, config.saveTo files path = .ok after := by
  rcases Files.exists_write_of_find? (.text config.toJson.pretty) found with ⟨after, written⟩
  exact ⟨after, saveTo_eq_ok_iff.2 ⟨files, Files.createParents_of_find? found, written⟩⟩

/-- Saving and loading cancel.  A configuration that is saved is loaded again, whatever was
under the path before.  What is loaded from a file can be saved over it, and is loaded again as
it was loaded first. -/
theorem saved_is_loaded (files : Files) (path : FilePath) (config : Config) :
    (∀ after, config.saveTo files path = .ok after → loadFrom after path = .ok config) ∧
      ∀ content, files.find? path = some (.file content) → loadFrom files path = .ok config →
        ∃ after, config.saveTo files path = .ok after ∧ loadFrom after path = .ok config := by
  constructor
  · intro after saved
    exact loadFrom_saveTo saved
  · intro content found _
    rcases exists_saveTo config found with ⟨after, saved⟩
    exact ⟨after, saved, loadFrom_saveTo saved⟩

/-- A configuration with texts that have to be written otherwise than they are. -/
def quoted : Config := ⟨"", some "a\"b\\c\n\x01\x7fé😀", none⟩

/-- The same configuration written by hand, with a field that is unknown. -/
def handwritten : String :=
  "\x7b \"base_url\":\"\", \"api_token\":\"a\\u0022b\\\\c\\n\\u0001\\u007f\\u00e9\\ud83d\\ude00\", \"x\":[1] \x7d"

/-- A file system in which only this text stands. -/
def handwrittenFile : Files :=
  ⟨.folder [("grade.json", .file (.text handwritten))], []⟩

theorem quoted_is_loaded :
    (∃ after, quoted.saveTo .empty (.ofText "new/folder/grade.json") = .ok after ∧
      loadFrom after (.ofText "new/folder/grade.json") = .ok quoted) ∧
    loadFrom handwrittenFile (.ofText "grade.json") = .ok quoted ∧
    ∃ after, quoted.saveTo handwrittenFile (.ofText "grade.json") = .ok after ∧
      loadFrom after (.ofText "grade.json") = .ok quoted := by
  have loaded : loadFrom handwrittenFile (.ofText "grade.json") = .ok quoted := by decide +kernel
  have found : handwrittenFile.readText? (.ofText "grade.json") = some handwritten := by
    decide +kernel
  have saved : (quoted.saveTo .empty (.ofText "new/folder/grade.json")).isOk = true := by
    decide +kernel
  rcases Outcome.exists_of_isOk saved with ⟨after, saved⟩
  refine ⟨⟨after, saved, (saved_is_loaded _ _ _).1 after saved⟩, loaded, ?_⟩
  exact (saved_is_loaded _ _ _).2 _ (Files.readText?_eq_some_iff.1 found) loaded

end Config

end Gradebook
