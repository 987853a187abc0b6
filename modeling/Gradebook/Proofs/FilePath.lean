import Gradebook.FilePath
import Mathlib.Data.List.DropRight

namespace Gradebook

namespace FilePath

/-!
# The folder of a path

A path that can lead to a file ends in a name.  Without this name it is the path of a
folder, which follows all names but the last, starts where the path starts and is valid if
the path is.  The texts of the two differ by more than that name where idle parts stand in
front of it.
-/

variable {path folder : FilePath}

/-! ## Parts -/

theorem text_eq_intercalate (path : FilePath) : path.text = "/".intercalate path.parts := by
  apply String.toList_inj.1
  rw [String.toList_intercalate, parts, List.map_map, Text.splitAt_eq_splitOn]
  have unchanged : String.toList ∘ String.ofList = id := funext fun _ => String.toList_ofList
  rw [unchanged, List.map_id]
  exact (List.intercalate_splitOn '/').symm

theorem not_mem_of_mem_parts {part : String} (listed : part ∈ path.parts) : '/' ∉ part.toList := by
  rcases List.mem_map.1 listed with ⟨piece, split, rfl⟩
  rw [String.toList_ofList]
  exact Text.not_mem_of_mem_splitAt split

theorem parts_intercalate {parts : List String} (nonempty : parts ≠ [])
    (plain : ∀ part ∈ parts, '/' ∉ part.toList) :
    FilePath.parts ⟨"/".intercalate parts⟩ = parts := by
  have plainPieces : ∀ piece ∈ parts.map String.toList, '/' ∉ piece := by
    intro piece listed
    rcases List.mem_map.1 listed with ⟨part, here, rfl⟩
    exact plain part here
  have pieces : parts.map String.toList ≠ [] := fun empty => nonempty (List.map_eq_nil_iff.1 empty)
  have slash : "/".toList = ['/'] := rfl
  rw [FilePath.parts, String.toList_intercalate, Text.splitAt_eq_splitOn, slash,
    List.splitOn_intercalate '/' plainPieces pieces, List.map_map]
  have unchanged : String.ofList ∘ String.toList = id := funext fun _ => String.ofList_toList
  rw [unchanged, List.map_id]

/-! ## Paths that end in a name -/

theorem exists_name_of_folderOnly (leaf : path.folderOnly = false) :
    ∃ before name, path.parts = before ++ [name] ∧ isIdle name = false ∧ name ≠ parentName := by
  rw [folderOnly] at leaf
  cases last : path.parts.getLast? with
  | none =>
      rw [last] at leaf
      cases leaf
  | some name =>
      simp only [last, Bool.or_eq_false_iff, decide_eq_false_iff_not] at leaf
      rcases List.getLast?_eq_some_iff.1 last with ⟨before, split⟩
      exact ⟨before, name, split, leaf⟩

theorem trimEnd_append_name {before : List String} {name : String} (visible : isIdle name = false) :
    trimEnd (before ++ [name]) = before ++ [name] :=
  List.rdropWhile_concat_neg isIdle before name (Bool.eq_false_iff.1 visible)

/-- What is trimmed leads nowhere. -/
theorem exists_idle (parts : List String) :
    ∃ idle, parts = trimEnd parts ++ idle ∧ ∀ part ∈ idle, isIdle part = true :=
  ⟨parts.rtakeWhile isIdle, List.rdropWhile_append_rtakeWhile.symm,
    fun _ => List.mem_rtakeWhile_imp⟩

/-- The parts that a path without its last name has. -/
theorem parent?_of_parts {before : List String} {name : String}
    (split : path.parts = before ++ [name]) (visible : isIdle name = false) :
    path.parent? = some ⟨if (trimEnd before).isEmpty && path.isAbsolute then "/"
      else "/".intercalate (trimEnd before)⟩ := by
  rw [parent?, split, trimEnd_append_name visible]
  split
  · next empty => exact absurd empty (List.append_ne_nil_of_right_ne_nil before nofun)
  · next first more same => rw [← same, List.dropLast_concat]

/-- Idle parts are no names. -/
theorem names_of_parts {before : List String} {name : String}
    (split : path.parts = before ++ [name]) (visible : isIdle name = false) :
    path.names = (trimEnd before).filter (fun part => !isIdle part) ++ [name] := by
  rcases exists_idle before with ⟨idle, trimmed, allIdle⟩
  have unnamed : idle.filter (fun part => !isIdle part) = [] := by
    apply List.filter_eq_nil_iff.2
    intro part listed
    rw [allIdle part listed]
    decide
  have named : [name].filter (fun part => !isIdle part) = [name] :=
    List.filter_cons_of_pos (by rw [visible]; rfl)
  rw [names, split, List.filter_append, named]
  conv_lhs => rw [trimmed]
  rw [List.filter_append, unnamed, List.append_nil]

/-! ## The folder -/

/-- How the path of a folder goes with the path of something in it. -/
structure Holds (folder path : FilePath) (name : String) : Prop where
  parent : path.parent? = some folder
  names : path.names = folder.names ++ [name]
  inside : name ≠ parentName
  absolute : folder.isAbsolute = path.isAbsolute
  valid : path.isValid = true → folder.isValid = true

theorem isAbsolute_iff : path.isAbsolute = true ↔ ['/'] <+: path.text.toList :=
  String.startsWith_string_iff

theorem isAbsolute_append {more : String} (nonempty : folder.text ≠ "")
    (goesOn : path.text = folder.text ++ more) : folder.isAbsolute = path.isAbsolute := by
  rw [Bool.eq_iff_iff, isAbsolute_iff, isAbsolute_iff, goesOn, String.toList_append]
  cases text : folder.text.toList with
  | nil => exact absurd (String.toList_eq_nil_iff.1 text) nonempty
  | cons c rest =>
      rw [List.cons_append, List.cons_prefix_cons, List.cons_prefix_cons]
      simp only [List.nil_prefix, and_true]

theorem isValid_append {more name : String} (goesOn : path.text = folder.text ++ more)
    (names : path.names = folder.names ++ [name]) (valid : path.isValid = true) :
    folder.isValid = true := by
  simp only [isValid, goesOn, names, String.utf8ByteSize_append, String.toList_append,
    List.contains_append, Bool.and_eq_true, decide_eq_true_eq, Bool.not_eq_true',
    Bool.or_eq_false_iff, List.all_append] at valid ⊢
  rcases valid with ⟨⟨size, plain, _⟩, short, _⟩
  exact ⟨⟨by omega, plain⟩, short⟩

/-- The last part that is left over is a name. -/
theorem intercalate_trimEnd_ne_empty {parts : List String} (left : trimEnd parts ≠ [])
    (plain : ∀ part ∈ trimEnd parts, '/' ∉ part.toList) :
    "/".intercalate (trimEnd parts) ≠ "" := by
  intro empty
  have alone := parts_intercalate left plain
  rw [empty] at alone
  have visible := List.rdropWhile_last_not isIdle parts left
  apply visible
  change isIdle ((trimEnd parts).getLast left) = true
  simp only [← alone]
  rfl

/-- A path that ends in a name has a folder. -/
theorem exists_holds (leaf : path.folderOnly = false) :
    ∃ folder name, Holds folder path name := by
  rcases exists_name_of_folderOnly leaf with ⟨before, name, split, visible, inside⟩
  have parent := parent?_of_parts split visible
  have names := names_of_parts split visible
  by_cases top : trimEnd before = []
  · rw [top] at parent names
    by_cases absolute : path.isAbsolute = true
    · rw [absolute] at parent
      rcases isAbsolute_iff.1 absolute with ⟨rest, goesOn⟩
      have text : path.text = "/" ++ String.ofList rest := by
        apply String.toList_inj.1
        rw [← goesOn, String.toList_append, String.toList_ofList, String.toList_ofList]
      exact ⟨⟨"/"⟩, name, parent, names, inside, isAbsolute_append (by decide) text,
        isValid_append text names⟩
    · have relative := Bool.eq_false_iff.2 absolute
      rw [relative] at parent
      have text : path.text = "" ++ path.text := String.empty_append.symm
      have here : FilePath.isAbsolute ⟨""⟩ = false :=
        Bool.eq_false_iff.2 fun slash => absurd (isAbsolute_iff.1 slash) (by decide)
      exact ⟨⟨""⟩, name, parent, names, inside, here.trans relative.symm,
        isValid_append text names⟩
  · have plain : ∀ part ∈ trimEnd before, '/' ∉ part.toList := by
      intro part listed
      apply not_mem_of_mem_parts
      rw [split]
      exact List.mem_append_left _ ((List.rdropWhile_prefix isIdle before).subset listed)
    rcases exists_idle before with ⟨idle, trimmed, _⟩
    have text : path.text = "/".intercalate (trimEnd before) ++
        ("/" ++ "/".intercalate (idle ++ [name])) := by
      rw [text_eq_intercalate, split]
      conv_lhs => rw [trimmed]
      rw [List.append_assoc, String.intercalate_append_of_ne_nil top
        (List.append_ne_nil_of_right_ne_nil idle (List.cons_ne_nil name [])), String.append_assoc]
    have folderNames : path.names = FilePath.names ⟨"/".intercalate (trimEnd before)⟩ ++ [name] := by
      rw [names, FilePath.names, parts_intercalate top plain]
    rw [List.isEmpty_eq_false_iff.2 top] at parent
    exact ⟨⟨"/".intercalate (trimEnd before)⟩, name, parent, folderNames, inside,
      isAbsolute_append (intercalate_trimEnd_ne_empty top plain) text,
      isValid_append text folderNames⟩

end FilePath

end Gradebook
