import Gradebook.Files
import Gradebook.Proofs.FilePath
import Mathlib.Tactic.SplitIfs

namespace Gradebook

/-!
# Files that are written and read again

A file is found under the path under which it was written.  This needs more than finding what
was put at a place of the tree, since a path is followed anew when the file is read: every
folder on the way, also one that the path leads out of again, is still a folder when a file
has been put at a place where none was.

Where a file can be found, it can be written: its folder is there, so nothing has to be
created on the way.
-/

/-! ## Trees -/

namespace FileNode

variable {node new : FileNode} {entries : List (String × FileNode)}

theorem lookup_putEntry (name other : String) (new : FileNode)
    (entries : List (String × FileNode)) :
    (putEntry name new entries).lookup other =
      if other = name then some new else entries.lookup other := by
  have lookup_cons : ∀ (key : String) (node : FileNode) (rest : List (String × FileNode)),
      ((key, node) :: rest).lookup other =
        if other = key then some node else rest.lookup other := by
    intro key node rest
    rw [List.lookup_cons]
    split_ifs with same
    · rw [same, beq_self_eq_true]
    · rw [beq_false_of_ne same]
  induction entries with
  | nil => rw [putEntry, lookup_cons]
  | cons entry rest inductionHypothesis =>
      rcases entry with ⟨key, node⟩
      rw [putEntry]
      split_ifs with same found found
      · rw [lookup_cons, if_pos found]
      · rw [lookup_cons, if_neg found, lookup_cons, same, if_neg found]
      · rw [lookup_cons, inductionHypothesis, found, if_neg (Ne.symm same), if_pos rfl]
      · rw [lookup_cons, inductionHypothesis, if_neg found, lookup_cons]

theorem below?_cons (entries : List (String × FileNode)) (name : String) (rest : List String) :
    (folder entries).below? (name :: rest) =
      (entries.lookup name).bind fun node => node.below? rest := by
  rw [below?]
  cases entries.lookup name with
  | none => rfl
  | some node => rfl

theorem put_cons (new : FileNode) (entries : List (String × FileNode)) (name : String)
    (rest : List String) : put new (folder entries) (name :: rest) =
      folder (putEntry name (put new ((entries.lookup name).getD (folder [])) rest) entries) := by
  rw [put]

/-- Whether a folder stands at a place below a node. -/
def HasFolder (node : FileNode) (place : List String) : Prop :=
  ∃ entries, node.below? place = some (.folder entries)

theorem hasFolder_cons {name : String} {rest : List String} :
    (folder entries).HasFolder (name :: rest) ↔
      ∃ node, entries.lookup name = some node ∧ node.HasFolder rest := by
  simp only [HasFolder, below?_cons, Option.bind_eq_some_iff]
  exact ⟨fun ⟨inner, node, found, there⟩ => ⟨node, found, inner, there⟩,
    fun ⟨node, found, inner, there⟩ => ⟨inner, node, found, there⟩⟩

/-- A file that is put where no folder stands leaves all folders in place. -/
theorem hasFolder_put {content : FileContent} {place other : List String}
    (free : ¬ node.HasFolder place) (there : node.HasFolder other) :
    (put (file content) node place).HasFolder other := by
  induction place generalizing node other with
  | nil =>
      -- a node that is no folder holds none either
      cases node with
      | folder entries => exact absurd ⟨entries, rfl⟩ free
      | file old =>
          rcases there with ⟨entries, there⟩
          cases other <;> cases there
  | cons name rest inductionHypothesis =>
      cases node with
      | file old => exact there
      | folder entries =>
          rw [put_cons]
          cases other with
          | nil => exact ⟨_, rfl⟩
          | cons first more =>
              rcases hasFolder_cons.1 there with ⟨node, found, inside⟩
              apply hasFolder_cons.2
              rw [lookup_putEntry]
              split_ifs with same
              · subst same
                refine ⟨_, rfl, ?_⟩
                rw [found, Option.getD_some]
                apply inductionHypothesis _ inside
                exact fun holds => free (hasFolder_cons.2 ⟨node, found, holds⟩)
              · exact ⟨node, found, inside⟩

/-- What is put into a folder stands there. -/
theorem below?_put_self {place : List String} {name : String} (there : node.HasFolder place) :
    (put new node (place ++ [name])).below? (place ++ [name]) = some new := by
  induction place generalizing node with
  | nil =>
      rcases there with ⟨entries, here⟩
      cases here
      rw [List.nil_append, put_cons, below?_cons, lookup_putEntry, if_pos rfl, put,
        Option.bind_some, below?]
  | cons first rest inductionHypothesis =>
      cases node with
      | file old =>
          rcases there with ⟨entries, there⟩
          cases there
      | folder entries =>
          rcases hasFolder_cons.1 there with ⟨inner, found, inside⟩
          rw [List.cons_append, put_cons, below?_cons, lookup_putEntry, if_pos rfl, found,
            Option.getD_some, Option.bind_some]
          exact inductionHypothesis inside

end FileNode

/-! ## Paths in a tree -/

namespace Files

variable {files : Files} {path : FilePath} {place target : List String} {names : List String}
  {name : String}

theorem isFolder_iff : files.isFolder place = true ↔ files.root.HasFolder place := by
  rw [isFolder, node?, FileNode.HasFolder]
  cases files.root.below? place with
  | none => simp
  | some node => cases node <;> simp [FileNode.isFolder]

theorem follow_cons_eq_some_iff : files.follow place (name :: names) = some target ↔
    files.isFolder place = true ∧ files.follow (step place name) names = some target := by
  rw [follow]
  split_ifs with here <;> simp [here]

/-- The last name of a path is looked for in a folder. -/
theorem exists_of_follow_append (inside : name ≠ FilePath.parentName)
    (followed : files.follow place (names ++ [name]) = some target) :
    ∃ folder, files.isFolder folder = true ∧ target = folder ++ [name] := by
  induction names generalizing place with
  | nil =>
      rcases follow_cons_eq_some_iff.1 followed with ⟨here, last⟩
      cases last
      exact ⟨place, here, if_neg inside⟩
  | cons first rest inductionHypothesis =>
      exact inductionHypothesis (follow_cons_eq_some_iff.1 followed).2

/-- A file that is put where no folder stands changes no way. -/
theorem follow_put {content : FileContent} {free : List String}
    (unoccupied : files.isFolder free = false)
    (followed : files.follow place names = some target) :
    (files.put free (.file content)).follow place names = some target := by
  induction names generalizing place with
  | nil => exact followed
  | cons first rest inductionHypothesis =>
      rcases follow_cons_eq_some_iff.1 followed with ⟨here, later⟩
      apply follow_cons_eq_some_iff.2
      refine ⟨?_, inductionHypothesis later⟩
      apply isFolder_iff.2
      apply FileNode.hasFolder_put _ (isFolder_iff.1 here)
      exact fun there => Bool.eq_false_iff.1 unoccupied (isFolder_iff.2 there)

/-- Nothing has to be created on a way that can be followed. -/
theorem createFrom_of_follow (followed : files.follow place (names ++ [name]) = some target) :
    files.createFrom place names = some files := by
  induction names generalizing place with
  | nil => rfl
  | cons first rest inductionHypothesis =>
      have later := (follow_cons_eq_some_iff.1 followed).2
      have there : files.isFolder (step place first) = true := by
        cases rest with
        | nil => exact (follow_cons_eq_some_iff.1 later).1
        | cons second more => exact (follow_cons_eq_some_iff.1 later).1
      rcases isFolder_iff.1 there with ⟨entries, stands⟩
      rw [createFrom]
      simp only [node?, stands]
      exact inductionHypothesis later

/-! ## Writing and reading -/

theorem place?_eq_some_iff : files.place? path = some target ↔
    path.isValid = true ∧ files.follow (files.start path) path.names = some target := by
  rw [place?]
  split_ifs with valid <;> simp [valid]

theorem write_eq_some_iff {content : FileContent} {after : Files} :
    files.write path content = some after ↔ path.folderOnly = false ∧
      ∃ place, files.place? path = some place ∧ files.isFolder place = false ∧
        files.put place (.file content) = after := by
  rw [write]
  cases path.folderOnly with
  | true => simp
  | false => simp [Option.bind_eq_some_iff]

/-- A file is found as it was written. -/
theorem find?_write {content : FileContent} {after : Files}
    (written : files.write path content = some after) :
    after.find? path = some (.file content) := by
  rcases write_eq_some_iff.1 written with ⟨leaf, place, led, unoccupied, rfl⟩
  rcases place?_eq_some_iff.1 led with ⟨valid, followed⟩
  rcases FilePath.exists_holds leaf with ⟨folder, name, holds⟩
  have again : (files.put place (.file content)).place? path = some place :=
    place?_eq_some_iff.2 ⟨valid, follow_put unoccupied followed⟩
  have stands : (files.put place (.file content)).node? place = some (.file content) := by
    rw [holds.names] at followed
    rcases exists_of_follow_append holds.inside followed with ⟨around, there, rfl⟩
    exact FileNode.below?_put_self (isFolder_iff.1 there)
  rw [find?, again]
  simp [stands, leaf]

theorem readText?_eq_some_iff {text : String} :
    files.readText? path = some text ↔ files.find? path = some (.file (.text text)) := by
  rw [readText?]
  cases files.find? path with
  | none => simp
  | some node =>
      cases node with
      | folder entries => simp
      | file content => cases content <;> simp

theorem leaf_of_find? {content : FileContent} (found : files.find? path = some (.file content)) :
    path.folderOnly = false ∧
      ∃ place, files.place? path = some place ∧ files.node? place = some (.file content) := by
  simp only [find?, Option.bind_eq_bind, Option.bind_eq_some_iff] at found
  rcases found with ⟨place, led, node, stands, found⟩
  split_ifs at found with folder
  cases found
  refine ⟨?_, place, led, stands⟩
  simpa [FileNode.isFolder] using folder

/-- A file that is there can be written. -/
theorem exists_write_of_find? {old : FileContent} (content : FileContent)
    (found : files.find? path = some (.file old)) :
    ∃ after, files.write path content = some after := by
  rcases leaf_of_find? found with ⟨leaf, place, led, stands⟩
  have unoccupied : files.isFolder place = false := by
    rw [isFolder, stands]
    rfl
  exact ⟨_, write_eq_some_iff.2 ⟨leaf, place, led, unoccupied, rfl⟩⟩

/-- Its folder is there already. -/
theorem createParents_of_find? {content : FileContent}
    (found : files.find? path = some (.file content)) : files.createParents path = some files := by
  rcases leaf_of_find? found with ⟨leaf, place, led, _⟩
  rcases place?_eq_some_iff.1 led with ⟨valid, followed⟩
  rcases FilePath.exists_holds leaf with ⟨folder, name, holds⟩
  have start : files.start folder = files.start path := by
    rw [Files.start, Files.start, holds.absolute]
  rw [holds.names, ← start] at followed
  rw [createParents, holds.parent]
  simp only [createFolders, holds.valid valid, if_true]
  exact createFrom_of_follow followed

end Files

end Gradebook
