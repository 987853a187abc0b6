import Gradebook.Proofs.Digits
import Gradebook.Proofs.Outcome
import Gradebook.Service.Route

namespace Gradebook

/-!
# Paths that are understood

The client writes the three numbers of a submission into a path, and the service
reads them out of it.  The paths of a client lead to the submission that they were
made for.
-/

/-! ## Segments -/

namespace Text

/-- Segments with a slash in front of each. -/
def joined (segments : List (List Char)) : List Char :=
  segments.flatMap ('/' :: ·)

theorem splitAt_of_not_mem {separator : Char} {text : List Char} (absent : separator ∉ text) :
    splitAt separator text = [text] := by
  rw [splitAt_eq_splitOn]
  exact List.splitOn_eq_singleton absent

theorem splitAt_append {separator : Char} {text : List Char} (absent : separator ∉ text)
    (rest : List Char) :
    splitAt separator (text ++ separator :: rest) = text :: splitAt separator rest := by
  rw [splitAt_eq_splitOn, splitAt_eq_splitOn]
  exact List.splitOn_append_cons_self_of_not_mem absent rest

/-- A path is split into the segments of which it was made. -/
theorem splitAt_joined {segments : List (List Char)} (absent : ∀ segment ∈ segments, '/' ∉ segment) :
    splitAt '/' (joined segments) = [] :: segments := by
  induction segments with
  | nil => rfl
  | cons segment rest inductionHypothesis =>
      have later := inductionHypothesis fun other listed =>
        absent other (List.mem_cons_of_mem segment listed)
      have here := absent segment List.mem_cons_self
      have unfolded : joined (segment :: rest) = '/' :: (segment ++ joined rest) := rfl
      rw [unfolded, splitAt, if_pos rfl]
      cases rest with
      | nil => rw [joined, List.flatMap_nil, List.append_nil, splitAt_of_not_mem here]
      | cons next others =>
          have slash : joined (next :: others) = '/' :: (next ++ joined others) := rfl
          rw [slash] at later ⊢
          rw [splitAt, if_pos rfl] at later
          rw [splitAt_append here, (List.cons.inj later).2]

end Text

/-! ## Paths of a client -/

namespace SubmissionKey

/-- The path under which the service is mounted. -/
def mount : String := "/services/grader"

/-- The segments of the path of a submission's record. -/
def segments (key : SubmissionKey) : List (List Char) :=
  ["services".toList, "grader".toList, "lectures".toList, Nat.toDigits 10 key.lecture.toNat,
    "assignments".toList, Nat.toDigits 10 key.assignment.toNat, "submissions".toList,
    Nat.toDigits 10 key.submission.toNat]

theorem submissionPath_eq (key : SubmissionKey) :
    (mount ++ key.submissionPath).toList = Text.joined key.segments := by
  have digits : ∀ n : Nat, (toString n).toList = Nat.toDigits 10 n := fun _ => Nat.toList_repr
  have base : mount.toList = '/' :: ("services".toList ++ '/' :: "grader".toList) := rfl
  have lectures : "/lectures/".toList = '/' :: ("lectures".toList ++ ['/']) := rfl
  have assignments : "/assignments/".toList = '/' :: ("assignments".toList ++ ['/']) := rfl
  have submissions : "/submissions/".toList = '/' :: ("submissions".toList ++ ['/']) := rfl
  simp only [submissionPath, String.toList_append, digits, base, lectures, assignments,
    submissions, Text.joined, segments, List.flatMap_cons, List.flatMap_nil, List.append_assoc,
    List.cons_append, List.nil_append, List.append_nil]

theorem propertiesPath_eq (key : SubmissionKey) :
    (mount ++ key.propertiesPath).toList =
      Text.joined (key.segments ++ ["properties".toList]) := by
  rw [propertiesPath, ← String.append_assoc, String.toList_append, submissionPath_eq,
    Text.joined, Text.joined, List.flatMap_append]
  rfl

/-- Neither the names nor the digits in a path have a meaning of their own in a
URL. -/
theorem plain_of_mem_segments {key : SubmissionKey} {segment : List Char}
    (listed : segment ∈ key.segments ++ ["properties".toList]) :
    ∀ c ∈ segment, c ≠ '/' ∧ c ≠ '?' ∧ c ≠ '#' ∧ c ≠ '%' := by
  have names : ∀ name : String, name.toList.all Char.isAlpha = true →
      ∀ c ∈ name.toList, c ≠ '/' ∧ c ≠ '?' ∧ c ≠ '#' ∧ c ≠ '%' := by
    intro name letters c listed
    have letter := List.all_eq_true.1 letters c listed
    refine ⟨?_, ?_, ?_, ?_⟩ <;>
      · rintro rfl
        exact absurd letter (by decide)
  have digits : ∀ n, ∀ c ∈ Nat.toDigits 10 n, c ≠ '/' ∧ c ≠ '?' ∧ c ≠ '#' ∧ c ≠ '%' := by
    intro n c listed
    have digit := Decimal.isDigit_of_mem_toDigits listed
    refine ⟨?_, ?_, ?_, ?_⟩ <;>
      · rintro rfl
        exact absurd digit (by decide)
  simp only [segments, List.cons_append, List.nil_append, List.mem_cons, List.not_mem_nil,
    or_false] at listed
  rcases listed with rfl | rfl | rfl | rfl | rfl | rfl | rfl | rfl | rfl
  · exact names "services" (by decide)
  · exact names "grader" (by decide)
  · exact names "lectures" (by decide)
  · exact digits _
  · exact names "assignments" (by decide)
  · exact digits _
  · exact names "submissions" (by decide)
  · exact digits _
  · exact names "properties" (by decide)

/-- The numbers of a key as they stand in a path. -/
def written (key : SubmissionKey) : PathKey where
  lecture := toString key.lecture.toNat
  assignment := toString key.assignment.toNat
  submission := toString key.submission.toNat

end SubmissionKey

/-! ## What the service makes of them -/

namespace PathKey

theorem decoded_toString (parameter : String) (n : Nat) :
    decoded parameter (toString n) = .ok (toString n) := by
  have unescaped : '%' ∉ (toString n).toList := by
    intro listed
    have digit := Decimal.isDigit_of_mem_toDigits (n := n) (Nat.toList_repr ▸ listed)
    exact absurd digit (by decide)
  rw [decoded, decode?, if_neg unescaped]

/-- The service reads the key that the client wrote. -/
theorem toKey_written (key : SubmissionKey) : toKey key.written = .ok key := by
  simp only [toKey, SubmissionKey.written, decoded_toString, number, Outcome.ok_bind,
    Decimal.natural64?_toString]
  rfl

end PathKey

namespace Route

variable {target : String} {segments : List (List Char)}

theorem mem_joined {c : Char} (listed : c ∈ Text.joined segments) :
    c = '/' ∨ ∃ segment ∈ segments, c ∈ segment := by
  obtain ⟨segment, listedSegment, listed⟩ := List.mem_flatMap.1 listed
  exact (List.mem_cons.1 listed).imp_right fun inside => ⟨segment, listedSegment, inside⟩

/-- A target without a query is split into its segments. -/
theorem split_path (text : target.toList = Text.joined segments) (nonempty : segments ≠ [])
    (plain : ∀ segment ∈ segments, ∀ c ∈ segment, c ≠ '/' ∧ c ≠ '?' ∧ c ≠ '#' ∧ c ≠ '%') :
    Text.splitAt '/' (path target) = [] :: segments := by
  have whole : (Text.joined segments).takeWhile (fun c => c ≠ '?' ∧ c ≠ '#') =
      Text.joined segments := by
    rw [List.takeWhile_eq_self_iff]
    intro c listed
    rw [decide_eq_true_eq]
    rcases mem_joined listed with rfl | ⟨segment, listedSegment, inside⟩
    · decide
    · have other := plain segment listedSegment c inside
      exact ⟨other.2.1, other.2.2.1⟩
  have relative : path target = Text.joined segments := by
    rw [path, text, whole]
    cases segments with
    | nil => exact absurd rfl nonempty
    | cons segment rest => rfl
  rw [relative]
  exact Text.splitAt_joined fun segment listed slash => (plain segment listed '/' slash).1 rfl

theorem ofList_toDigits (n : Nat) : String.ofList (Nat.toDigits 10 n) = toString n := by
  apply String.toList_inj.1
  rw [String.toList_ofList]
  exact Nat.toList_repr.symm

theorem ofTarget?_submission (key : SubmissionKey) :
    ofTarget? (SubmissionKey.mount ++ key.submissionPath) = some (.submission key.written) := by
  have split := split_path key.submissionPath_eq (List.cons_ne_nil _ _) fun segment listed =>
    SubmissionKey.plain_of_mem_segments (List.mem_append_left _ listed)
  have nonempty : toString key.submission.toNat ≠ "" := by
    intro empty
    have digits : Nat.toDigits 10 key.submission.toNat = [] := by
      rw [← Nat.toList_repr]
      exact congrArg String.toList empty
    exact Nat.toDigits_ne_nil digits
  rw [ofTarget?, split]
  simp only [SubmissionKey.segments, List.map_cons, List.map_nil, String.ofList_toList,
    ofList_toDigits]
  change (if toString key.submission.toNat = "" then none else _) = _
  rw [if_neg nonempty]
  rfl

theorem ofTarget?_properties (key : SubmissionKey) :
    ofTarget? (SubmissionKey.mount ++ key.propertiesPath) = some (.properties key.written) := by
  have split := split_path key.propertiesPath_eq (List.cons_ne_nil _ _) fun _ listed =>
    SubmissionKey.plain_of_mem_segments listed
  rw [ofTarget?, split]
  simp only [SubmissionKey.segments, List.cons_append, List.nil_append, List.map_cons,
    List.map_nil, String.ofList_toList, ofList_toDigits]
  rfl

end Route

end Gradebook
