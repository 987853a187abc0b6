import Gradebook.Submission

namespace Gradebook

/-!
# The service's store

The service holds, under the key of each submission, its record and its grading
properties.  A store is an association list without repeated keys.
-/

/-- A submission with its grading properties, as the service holds them. -/
structure StoredSubmission where
  lecture : UInt64
  assignment : UInt64
  submission : Submission
  properties : Json

namespace StoredSubmission

/-- The key under which the submission belongs. -/
def key (stored : StoredSubmission) : SubmissionKey :=
  ⟨stored.lecture, stored.assignment, stored.submission.id⟩

/-- The fields of a stored submission read so far. -/
structure Fields where
  lecture : Option UInt64 := none
  assignment : Option UInt64 := none
  submission : Option Submission := none
  properties : Option Json := none

/-- Read one member of a stored submission. -/
def Fields.read (origin : Json.Origin) (fields : Fields) (name : String)
    (value : Json.Document) : Except Json.ReadError Fields :=
  match name with
  | "lecture_id" => do
    let lecture ← Json.once name fields.lecture (Json.naturalReader origin value)
    return { fields with lecture }
  | "assignment_id" => do
    let assignment ← Json.once name fields.assignment (Json.naturalReader origin value)
    return { fields with assignment }
  | "submission" => do
    let submission ← Json.once name fields.submission (Submission.reader origin value)
    return { fields with submission }
  | "properties" => do
    let properties ← Json.once name fields.properties (Json.keep origin value)
    return { fields with properties }
  | _ => do
    Json.skip value
    return fields

/-- The stored submission that the fields make. -/
def Fields.toStored (fields : Fields) : Except Json.ReadError StoredSubmission := do
  let lecture ← Json.required "lecture_id" fields.lecture
  let assignment ← Json.required "assignment_id" fields.assignment
  let submission ← Json.required "submission" fields.submission
  let properties ← Json.required "properties" fields.properties
  return ⟨lecture, assignment, submission, properties⟩

/-- Read a stored submission from the list of its fields. -/
def ofElements (elements : Json.Elements) : Except Json.ReadError StoredSubmission := do
  let expected := "struct StoredSubmission with 4 elements"
  let (lecture, elements) ← elements.nextRequired Json.naturalReader 0 expected
  let (assignment, elements) ← elements.nextRequired Json.naturalReader 1 expected
  let (submission, elements) ← elements.nextRequired Submission.reader 2 expected
  let (properties, elements) ← elements.nextRequired Json.keep 3 expected
  elements.finish
  return ⟨lecture, assignment, submission, properties⟩

/-- Read a stored submission, all of whose fields have to be there. -/
def reader : Json.Reader StoredSubmission :=
  Json.recordReader "StoredSubmission"
    (fun origin members ending => do
      let fields ← Json.foldMembers (Fields.read origin) ending {} members
      fields.toStored)
    ofElements

/-- The stored submission with its fields in the order in which they are
declared. -/
def toJson (stored : StoredSubmission) : Json :=
  .object [("lecture_id", .number (.natural stored.lecture)),
    ("assignment_id", .number (.natural stored.assignment)),
    ("submission", stored.submission.toJson), ("properties", stored.properties)]

end StoredSubmission

/-- The submissions of a service. -/
structure Store where
  entries : List (SubmissionKey × StoredSubmission)
  distinct : (entries.map Prod.fst).Nodup

namespace Store

/-- The store without submissions. -/
def empty : Store := ⟨[], .nil⟩

instance : Inhabited Store := ⟨empty⟩

/-- Put a submission under a key, in place of the one that stood there. -/
def putEntry (key : SubmissionKey) (stored : StoredSubmission) :
    List (SubmissionKey × StoredSubmission) → List (SubmissionKey × StoredSubmission)
  | [] => [(key, stored)]
  | (k, old) :: rest =>
    if k = key then (key, stored) :: rest else (k, old) :: putEntry key stored rest

theorem mem_keys_putEntry {key k : SubmissionKey} {stored : StoredSubmission}
    {entries : List (SubmissionKey × StoredSubmission)}
    (h : k ∈ (putEntry key stored entries).map Prod.fst) :
    k = key ∨ k ∈ entries.map Prod.fst := by
  induction entries with
  | nil => simpa [putEntry] using h
  | cons entry rest ih =>
    obtain ⟨k', old⟩ := entry
    unfold putEntry at h
    split at h
    · simp only [List.map_cons, List.mem_cons] at h ⊢
      rcases h with h | h
      · exact .inl h
      · exact .inr (.inr h)
    · simp only [List.map_cons, List.mem_cons] at h ⊢
      rcases h with h | h
      · exact .inr (.inl h)
      · rcases ih h with h | h
        · exact .inl h
        · exact .inr (.inr h)

theorem distinct_putEntry {key : SubmissionKey} {stored : StoredSubmission}
    {entries : List (SubmissionKey × StoredSubmission)}
    (h : (entries.map Prod.fst).Nodup) :
    ((putEntry key stored entries).map Prod.fst).Nodup := by
  induction entries with
  | nil => simp [putEntry]
  | cons entry rest ih =>
    obtain ⟨k, old⟩ := entry
    simp only [List.map_cons, List.nodup_cons] at h
    unfold putEntry
    split
    · next same =>
      simp only [List.map_cons, List.nodup_cons]
      exact ⟨same ▸ h.1, h.2⟩
    · next other =>
      simp only [List.map_cons, List.nodup_cons]
      refine ⟨fun member => ?_, ih h.2⟩
      rcases mem_keys_putEntry member with same | old
      · exact other same
      · exact h.1 old

/-- Put a submission under its own key. -/
def insert (store : Store) (stored : StoredSubmission) : Store :=
  ⟨putEntry stored.key stored store.entries, distinct_putEntry store.distinct⟩

/-- The store of a list of submissions; the last one for a key counts. -/
def ofList (submissions : List StoredSubmission) : Store :=
  submissions.foldl insert empty

/-- Read a store from the text of an array of stored submissions. -/
def ofSeed (text : String) : Except Json.ReadError Store := do
  let submissions ← Json.readText (Json.sequenceReader StoredSubmission.reader) text
  return ofList submissions

/-- The submission under a key. -/
def get? (store : Store) (key : SubmissionKey) : Option StoredSubmission :=
  store.entries.lookup key

/-- The number of submissions. -/
def size (store : Store) : Nat :=
  store.entries.length

/-- Whether the store has no submissions. -/
def isEmpty (store : Store) : Bool :=
  store.size = 0

/-- Change the submission under a key, which stays under that key. -/
def modify (store : Store) (key : SubmissionKey)
    (change : StoredSubmission → StoredSubmission) : Store where
  entries := store.entries.map fun (k, stored) => (k, if k = key then change stored else stored)
  distinct := by
    have keys_eq : (store.entries.map fun (k, stored) =>
        (k, if k = key then change stored else stored)).map Prod.fst =
        store.entries.map Prod.fst := by
      rw [List.map_map]; rfl
    rw [keys_eq]; exact store.distinct

/-- Replace the grading properties of a submission, unless it is unknown. -/
def setProperties? (store : Store) (key : SubmissionKey) (properties : Json) : Option Store :=
  match store.get? key with
  | some _ => some (store.modify key fun stored => { stored with properties })
  | none => none

/-- Replace the record of a submission, unless it is unknown. -/
def setSubmission? (store : Store) (key : SubmissionKey) (submission : Submission) :
    Option Store :=
  match store.get? key with
  | some _ => some (store.modify key fun stored => { stored with submission })
  | none => none

end Store

end Gradebook
