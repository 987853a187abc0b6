namespace Gradebook

/-!
# Text-keyed dictionaries

A dictionary is the list of its entries in strictly increasing key order.  The
order is part of the type, so two dictionaries with the same entries are the
same value, and everything that walks over one (a printer, a sum, a rendered
summary) meets the keys in code point order.

Main statements: inserting and modifying keep the keys strictly increasing;
`Dict.ofList` keeps the last of several entries for one key.
-/

/-- A finite map from text to `α`, listed by strictly increasing key. -/
structure Dict (α : Type) where
  entries : List (String × α)
  ascending : (entries.map Prod.fst).Pairwise (· < ·)

namespace Dict

variable {α β : Type}

/-! ## Entry lists -/

/-- Put a value under a key of an ascending entry list, replacing the value
that stood there. -/
def insertEntry (key : String) (value : α) : List (String × α) → List (String × α)
  | [] => [(key, value)]
  | (k, v) :: rest =>
    if key < k then (key, value) :: (k, v) :: rest
    else if k < key then (k, v) :: insertEntry key value rest
    else (key, value) :: rest

theorem mem_keys_insertEntry {key k : String} {value : α} {entries : List (String × α)}
    (h : k ∈ (insertEntry key value entries).map Prod.fst) :
    k = key ∨ k ∈ entries.map Prod.fst := by
  induction entries with
  | nil => simpa [insertEntry] using h
  | cons entry rest ih =>
    obtain ⟨k', v'⟩ := entry
    unfold insertEntry at h
    split at h
    · simpa using h
    · split at h
      · simp only [List.map_cons, List.mem_cons] at h ⊢
        rcases h with h | h
        · exact .inr (.inl h)
        · rcases ih h with h | h
          · exact .inl h
          · exact .inr (.inr h)
      · simp only [List.map_cons, List.mem_cons] at h ⊢
        rcases h with h | h
        · exact .inl h
        · exact .inr (.inr h)

theorem ascending_insertEntry {key : String} {value : α} {entries : List (String × α)}
    (h : (entries.map Prod.fst).Pairwise (· < ·)) :
    ((insertEntry key value entries).map Prod.fst).Pairwise (· < ·) := by
  induction entries with
  | nil => simp [insertEntry]
  | cons entry rest ih =>
    obtain ⟨k, v⟩ := entry
    simp only [List.map_cons, List.pairwise_cons] at h
    obtain ⟨first, tail⟩ := h
    unfold insertEntry
    split
    · next before =>
      simp only [List.map_cons, List.pairwise_cons, List.mem_cons]
      refine ⟨?_, first, tail⟩
      rintro k' (rfl | member)
      · exact before
      · exact String.lt_trans before (first k' member)
    · next notBefore =>
      split
      · next after =>
        simp only [List.map_cons, List.pairwise_cons]
        refine ⟨fun k' member => ?_, ih tail⟩
        rcases mem_keys_insertEntry member with rfl | member
        · exact after
        · exact first k' member
      · next notAfter =>
        have same : key = k :=
          String.le_antisymm (String.not_lt.1 notAfter) (String.not_lt.1 notBefore)
        simp only [List.map_cons, List.pairwise_cons]
        exact ⟨same ▸ first, tail⟩

/-! ## Operations -/

/-- The dictionary without entries. -/
def empty : Dict α := ⟨[], .nil⟩

instance : EmptyCollection (Dict α) := ⟨empty⟩

instance : Inhabited (Dict α) := ⟨empty⟩

/-- The value under a key, if there is one. -/
def get? (dict : Dict α) (key : String) : Option α :=
  dict.entries.lookup key

/-- Whether a key has a value. -/
def contains (dict : Dict α) (key : String) : Bool :=
  (dict.get? key).isSome

/-- The keys, strictly increasing. -/
def keys (dict : Dict α) : List String :=
  dict.entries.map Prod.fst

/-- Put a value under a key, replacing the value that stood there. -/
def insert (dict : Dict α) (key : String) (value : α) : Dict α :=
  ⟨insertEntry key value dict.entries, ascending_insertEntry dict.ascending⟩

/-- Change the value under a key; without such a key nothing changes. -/
def modify (dict : Dict α) (key : String) (change : α → α) : Dict α where
  entries := dict.entries.map fun (k, v) => (k, if k = key then change v else v)
  ascending := by
    have keys_eq : (dict.entries.map fun (k, v) => (k, if k = key then change v else v)).map
        Prod.fst = dict.entries.map Prod.fst := by
      rw [List.map_map]; rfl
    rw [keys_eq]; exact dict.ascending

/-- Apply a function to every value. -/
def map (change : α → β) (dict : Dict α) : Dict β where
  entries := dict.entries.map fun (k, v) => (k, change v)
  ascending := by
    have keys_eq : (dict.entries.map fun (k, v) => (k, change v)).map Prod.fst =
        dict.entries.map Prod.fst := by
      rw [List.map_map]; rfl
    rw [keys_eq]; exact dict.ascending

/-- The dictionary of a list of entries, in which the last entry for a key
wins. -/
def ofList (entries : List (String × α)) : Dict α :=
  entries.foldl (fun dict (key, value) => dict.insert key value) empty

end Dict

end Gradebook
