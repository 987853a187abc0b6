import Gradebook.Dict
import Mathlib.Data.List.Nodup

namespace Gradebook

/-!
# Dictionaries as finite maps

A dictionary is determined by what `Dict.get?` answers for every key, and each
operation has one law in terms of `get?`.  After this module nothing looks into
the list of entries again, except to tell that an ascending list is already the
list of its own dictionary.

The laws need the order of the entries in two places only: an entry that stands
in the list is the one that is found, and equal answers mean equal lists.
-/

namespace Dict

variable {κ α β : Type} [BEq κ] [LawfulBEq κ]

/-! ## Lists of entries -/

theorem mem_of_lookup {entries : List (κ × α)} {key : κ} {value : α}
    (found : entries.lookup key = some value) : (key, value) ∈ entries := by
  rw [List.lookup_eq_some_iff] at found
  obtain ⟨before, after, rfl, _⟩ := found
  exact List.mem_append_right before List.mem_cons_self

/-- In a list whose keys do not repeat, looking up a key is the same as finding
the entry. -/
theorem lookup_eq_some_iff {entries : List (κ × α)} {key : κ} {value : α}
    (distinct : (entries.map Prod.fst).Nodup) :
    entries.lookup key = some value ↔ (key, value) ∈ entries := by
  refine ⟨mem_of_lookup, fun member => ?_⟩
  obtain ⟨before, after, rfl⟩ := List.append_of_mem member
  rw [List.map_append, List.map_cons, List.nodup_middle, List.nodup_cons] at distinct
  rw [List.lookup_eq_some_iff]
  refine ⟨before, after, rfl, fun entry earlier => ?_⟩
  have listed := List.mem_map_of_mem (f := Prod.fst) earlier
  have differs : key ≠ entry.1 := fun equal =>
    distinct.1 (List.mem_append_left _ (equal ▸ listed))
  exact bne_iff_ne.2 differs

theorem lookup_eq_none_iff {entries : List (String × α)} {key : String} :
    entries.lookup key = none ↔ key ∉ entries.map Prod.fst := by
  rw [List.lookup_eq_none_iff]
  constructor
  · intro differs listed
    obtain ⟨entry, member, rfl⟩ := List.mem_map.1 listed
    exact bne_iff_ne.1 (differs entry member) rfl
  · intro unlisted entry member
    exact bne_iff_ne.2 fun equal => unlisted (equal ▸ List.mem_map_of_mem member)

theorem lookup_map_snd (change : String → α → β) (entries : List (String × α)) (key : String) :
    (entries.map fun (k, v) => (k, change k v)).lookup key =
      (entries.lookup key).map (change key) := by
  induction entries with
  | nil => rfl
  | cons entry rest inductionHypothesis =>
      obtain ⟨k, v⟩ := entry
      by_cases same : key = k
      · subst same
        simp only [List.map_cons, List.lookup_cons_self, Option.map_some]
      · have differs : (key == k) = false := beq_false_of_ne same
        simp only [List.map_cons, List.lookup_cons, differs, inductionHypothesis]

theorem lookup_filter_of_pos (listed : String → Prop) [DecidablePred listed]
    {entries : List (String × α)} {key : String} (kept : listed key) :
    (entries.filter fun entry => listed entry.1).lookup key = entries.lookup key := by
  induction entries with
  | nil => rfl
  | cons entry rest inductionHypothesis =>
      obtain ⟨k, v⟩ := entry
      by_cases same : key = k
      · subst same
        simp only [List.filter_cons, kept, decide_true, if_true, List.lookup_cons_self]
      · by_cases keeps : listed k <;>
          simp only [List.filter_cons, keeps, decide_true, decide_false, if_true,
            Bool.false_eq_true, if_false, List.lookup_cons, beq_false_of_ne same,
            inductionHypothesis]

theorem nodup_of_ascending {entries : List (String × α)}
    (ascending : (entries.map Prod.fst).Pairwise (· < ·)) : (entries.map Prod.fst).Nodup := by
  apply List.Pairwise.imp _ ascending
  intro before after increasing equal
  exact String.lt_irrefl after (equal ▸ increasing)

/-- Two ascending lists with the same entries are equal. -/
theorem eq_of_ascending {left right : List (String × α)}
    (leftAscending : (left.map Prod.fst).Pairwise (· < ·))
    (rightAscending : (right.map Prod.fst).Pairwise (· < ·))
    (same : ∀ key, left.lookup key = right.lookup key) : left = right := by
  have sameMembers : ∀ entry, entry ∈ left ↔ entry ∈ right := fun entry => by
    rw [← lookup_eq_some_iff (nodup_of_ascending leftAscending), same,
      lookup_eq_some_iff (nodup_of_ascending rightAscending)]
  have permutation : left.Perm right :=
    (List.perm_ext_iff_of_nodup (List.Nodup.of_map Prod.fst (nodup_of_ascending leftAscending))
      (List.Nodup.of_map Prod.fst (nodup_of_ascending rightAscending))).2 sameMembers
  -- ascending in the keys is ascending in the entries, and that leaves one order
  exact permutation.eq_of_pairwise
    (fun _ _ _ _ before after => absurd (String.lt_trans before after) (String.lt_irrefl _))
    ((List.pairwise_map (f := Prod.fst)).1 leftAscending)
    ((List.pairwise_map (f := Prod.fst)).1 rightAscending)

theorem lookup_insertEntry (key other : String) (value : α) (entries : List (String × α)) :
    (insertEntry key value entries).lookup other =
      if other = key then some value else entries.lookup other := by
  induction entries with
  | nil =>
      by_cases same : other = key
      · simp only [insertEntry, same, List.lookup_cons_self, if_true]
      · simp only [insertEntry, List.lookup_cons, beq_false_of_ne same, same, if_false]
  | cons entry rest inductionHypothesis =>
      obtain ⟨k, v⟩ := entry
      unfold insertEntry
      by_cases before : key < k
      · rw [if_pos before]
        by_cases same : other = key
        · simp only [same, List.lookup_cons_self, if_true]
        · rw [List.lookup_cons, beq_false_of_ne same, if_neg same]
      · rw [if_neg before]
        by_cases after : k < key
        · rw [if_pos after]
          by_cases here : other = k
          · have differs : other ≠ key := fun equal =>
              String.lt_irrefl _ (here.symm.trans equal ▸ after)
            simp only [here, List.lookup_cons_self, here ▸ differs, if_false]
          · rw [List.lookup_cons, List.lookup_cons, beq_false_of_ne here]
            exact inductionHypothesis
        · rw [if_neg after]
          have equal : key = k :=
            String.le_antisymm (String.not_lt.1 after) (String.not_lt.1 before)
          subst equal
          by_cases same : other = key
          · simp only [same, List.lookup_cons_self, if_true]
          · simp only [List.lookup_cons, beq_false_of_ne same, same, if_false]

/-- Of a list with an entry under a new key all is kept but this entry. -/
theorem filter_insertEntry {key : String} {value : α} {entries : List (String × α)}
    {keep : String × α → Bool} (unlisted : key ∉ entries.map Prod.fst)
    (dropped : ¬ keep (key, value) = true) (others : ∀ entry ∈ entries, keep entry = true) :
    (insertEntry key value entries).filter keep = entries := by
  induction entries with
  | nil => exact List.filter_cons_of_neg dropped
  | cons entry rest inductionHypothesis =>
      rcases entry with ⟨k, v⟩
      rw [List.map_cons, List.mem_cons, not_or] at unlisted
      unfold insertEntry
      split_ifs with before after
      · rw [List.filter_cons_of_neg dropped, List.filter_eq_self.2 others]
      · rw [List.filter_cons_of_pos (others _ List.mem_cons_self)]
        have later := inductionHypothesis unlisted.2 fun entry listed =>
          others entry (List.mem_cons_of_mem _ listed)
        rw [later]
      · have same := String.le_antisymm (String.not_lt.1 after) (String.not_lt.1 before)
        exact absurd same unlisted.1

/-! ## The laws of the operations -/

/-- A dictionary is what it answers. -/
@[ext]
theorem ext {left right : Dict α} (same : ∀ key, left.get? key = right.get? key) :
    left = right := by
  have entries := eq_of_ascending left.ascending right.ascending same
  cases left
  cases right
  cases entries
  rfl

theorem get?_eq_some_iff {dict : Dict α} {key : String} {value : α} :
    dict.get? key = some value ↔ (key, value) ∈ dict.entries :=
  lookup_eq_some_iff (nodup_of_ascending dict.ascending)

theorem get?_eq_none_iff {dict : Dict α} {key : String} :
    dict.get? key = none ↔ key ∉ dict.keys :=
  lookup_eq_none_iff

theorem mem_keys_of_get? {dict : Dict α} {key : String} {value : α}
    (found : dict.get? key = some value) : key ∈ dict.keys :=
  List.mem_map_of_mem (f := Prod.fst) (get?_eq_some_iff.1 found)

@[simp]
theorem get?_empty (key : String) : (empty : Dict α).get? key = none :=
  rfl

theorem get?_insert (dict : Dict α) (key other : String) (value : α) :
    (dict.insert key value).get? other = if other = key then some value else dict.get? other :=
  lookup_insertEntry key other value dict.entries

@[simp]
theorem get?_insert_self (dict : Dict α) (key : String) (value : α) :
    (dict.insert key value).get? key = some value := by
  rw [get?_insert, if_pos rfl]

theorem get?_insert_of_ne (dict : Dict α) {key other : String} (value : α)
    (differs : other ≠ key) : (dict.insert key value).get? other = dict.get? other := by
  rw [get?_insert, if_neg differs]

theorem get?_modify (dict : Dict α) (key other : String) (change : α → α) :
    (dict.modify key change).get? other =
      (dict.get? other).map fun value => if other = key then change value else value :=
  lookup_map_snd (fun k v => if k = key then change v else v) dict.entries other

@[simp]
theorem get?_modify_self (dict : Dict α) (key : String) (change : α → α) :
    (dict.modify key change).get? key = (dict.get? key).map change := by
  simp only [get?_modify, if_true]

theorem get?_modify_of_ne (dict : Dict α) {key other : String} (change : α → α)
    (differs : other ≠ key) : (dict.modify key change).get? other = dict.get? other := by
  simp only [get?_modify, differs, if_false, Option.map_id']

@[simp]
theorem get?_map (dict : Dict α) (change : α → β) (key : String) :
    (dict.map change).get? key = (dict.get? key).map change :=
  lookup_map_snd (fun _ v => change v) dict.entries key

theorem map_insert (change : α → β) (dict : Dict α) (key : String) (value : α) :
    (dict.insert key value).map change = (dict.map change).insert key (change value) := by
  ext other
  simp only [get?_map, get?_insert]
  split_ifs <;> rfl

/-- Putting in what already stands there changes nothing. -/
theorem insert_of_get? {dict : Dict α} {key : String} {value : α}
    (found : dict.get? key = some value) : dict.insert key value = dict := by
  ext other
  rw [get?_insert]
  split
  · next same => rw [same, found]
  · rfl

theorem insert_insert (dict : Dict α) (key : String) (first second : α) :
    (dict.insert key first).insert key second = dict.insert key second := by
  ext other
  simp only [get?_insert]
  split_ifs <;> rfl

theorem modify_insert_self (dict : Dict α) (key : String) (value : α) (change : α → α) :
    (dict.insert key value).modify key change = dict.insert key (change value) := by
  ext other
  simp only [get?_modify, get?_insert]
  split_ifs with same
  · rfl
  · rw [Option.map_id']

theorem contains_eq_isSome (dict : Dict α) (key : String) :
    dict.contains key = (dict.get? key).isSome :=
  rfl

theorem contains_iff_exists {dict : Dict α} {key : String} :
    dict.contains key = true ↔ ∃ value, dict.get? key = some value :=
  Option.isSome_iff_exists

theorem get?_of_not_contains {dict : Dict α} {key : String}
    (absent : dict.contains key = false) : dict.get? key = none :=
  Option.isNone_iff_eq_none.1 (Option.isSome_eq_false_iff.1 absent)

theorem contains_insert_self (dict : Dict α) (key : String) (value : α) :
    (dict.insert key value).contains key = true := by
  rw [contains_eq_isSome, get?_insert_self, Option.isSome_some]

theorem contains_insert_of_contains {dict : Dict α} {key other : String} {value : α}
    (present : dict.contains other = true) : (dict.insert key value).contains other = true := by
  rw [contains_eq_isSome] at present ⊢
  rw [get?_insert]
  split_ifs
  · rfl
  · exact present

/-- A value that is put in only where none stands. -/
theorem get?_insert_of_missing (dict : Dict α) (key other : String) (value : α) :
    (if dict.contains key then dict else dict.insert key value).get? other =
      if other = key then some ((dict.get? other).getD value) else dict.get? other := by
  cases present : dict.contains key with
  | true =>
      rcases contains_iff_exists.1 present with ⟨held, found⟩
      rw [if_pos rfl]
      split_ifs with same
      · rw [same, found, Option.getD_some]
      · rfl
  | false =>
      rw [if_neg Bool.false_ne_true, get?_insert]
      split_ifs with same
      · rw [same, get?_of_not_contains present, Option.getD_none]
      · rfl

theorem contains_modify (dict : Dict α) (key other : String) (change : α → α) :
    (dict.modify key change).contains other = dict.contains other := by
  rw [contains_eq_isSome, contains_eq_isSome, get?_modify, Option.isSome_map]

/-! ## Dictionaries of lists -/

theorem get?_foldl_insert (dict : Dict α) (entries : List (String × α)) (key : String) :
    (entries.foldl (fun dict (key, value) => dict.insert key value) dict).get? key =
      (entries.reverse.lookup key).or (dict.get? key) := by
  induction entries generalizing dict with
  | nil => simp only [List.foldl_nil, List.reverse_nil, List.lookup_nil, Option.none_or]
  | cons entry rest inductionHypothesis =>
      obtain ⟨k, v⟩ := entry
      rw [List.foldl_cons, inductionHypothesis, List.reverse_cons, List.lookup_append,
        Option.or_assoc]
      congr 1
      by_cases same : key = k
      · subst same
        simp only [get?_insert_self, List.lookup_cons_self, Option.some_or]
      · simp only [get?_insert_of_ne dict v same, List.lookup_cons, beq_false_of_ne same,
          List.lookup_nil, Option.none_or]

/-- The last entry for a key counts. -/
theorem get?_ofList (entries : List (String × α)) (key : String) :
    (ofList entries).get? key = entries.reverse.lookup key := by
  rw [ofList, get?_foldl_insert, get?_empty, Option.or_none]

/-- Every entry of a dictionary stood in the list that it was made of. -/
theorem mem_of_mem_ofList {entries : List (String × α)} {entry : String × α}
    (listed : entry ∈ (ofList entries).entries) : entry ∈ entries := by
  have found := get?_eq_some_iff.2 listed
  rw [get?_ofList] at found
  exact List.mem_reverse.1 (mem_of_lookup found)

/-- Every key of a list is one of the dictionary that is made of it. -/
theorem mem_keys_ofList {entries : List (String × α)} {key : String}
    (listed : key ∈ entries.map Prod.fst) : key ∈ (ofList entries).keys := by
  apply Decidable.byContradiction
  intro unlisted
  have missing := get?_eq_none_iff.2 unlisted
  rw [get?_ofList, lookup_eq_none_iff, List.map_reverse, List.mem_reverse] at missing
  exact missing listed

theorem get?_ofList_of_nodup {entries : List (String × α)}
    (distinct : (entries.map Prod.fst).Nodup) (key : String) :
    (ofList entries).get? key = entries.lookup key := by
  have reversed : (entries.reverse.map Prod.fst).Nodup := by
    rw [List.map_reverse]
    exact List.nodup_reverse.2 distinct
  rw [get?_ofList]
  apply Option.ext
  intro value
  rw [lookup_eq_some_iff reversed, lookup_eq_some_iff distinct, List.mem_reverse]

/-- An ascending list is the list of its own dictionary. -/
theorem entries_ofList {entries : List (String × α)}
    (ascending : (entries.map Prod.fst).Pairwise (· < ·)) : (ofList entries).entries = entries :=
  eq_of_ascending (ofList entries).ascending ascending
    (get?_ofList_of_nodup (nodup_of_ascending ascending))

theorem ofList_entries (dict : Dict α) : ofList dict.entries = dict := by
  ext key
  rw [get?_ofList_of_nodup (nodup_of_ascending dict.ascending)]
  rfl

end Dict

end Gradebook
