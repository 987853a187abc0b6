namespace Gradebook

namespace Text

/-!
# Splitting texts
-/

/-- The pieces of a text between the occurrences of a separator; there is one
piece more than there are separators. -/
def splitAt (separator : Char) : List Char → List (List Char)
  | [] => [[]]
  | c :: rest =>
    if c = separator then [] :: splitAt separator rest
    else
      match splitAt separator rest with
      | [] => [[c]]
      | first :: more => (c :: first) :: more

theorem splitAt_eq_splitOn (separator : Char) (text : List Char) :
    splitAt separator text = text.splitOn separator := by
  induction text with
  | nil => rfl
  | cons c rest inductionHypothesis =>
      rw [splitAt, inductionHypothesis, List.splitOn_cons_eq_if_modifyHead]
      by_cases here : c = separator
      · rw [if_pos here, if_pos (beq_iff_eq.2 here)]
      · rw [if_neg here, if_neg fun same => here (beq_iff_eq.1 same)]
        cases pieces : rest.splitOn separator with
        | nil => exact absurd pieces (List.splitOn_ne_nil separator rest)
        | cons first more => rfl

/-- No piece holds the separator. -/
theorem not_mem_of_mem_splitAt {separator : Char} {text piece : List Char}
    (listed : piece ∈ splitAt separator text) : separator ∉ piece := by
  induction text generalizing piece with
  | nil =>
      rw [List.mem_singleton.1 listed]
      exact List.not_mem_nil
  | cons c rest inductionHypothesis =>
      rw [splitAt] at listed
      split at listed
      · rcases List.mem_cons.1 listed with rfl | later
        · exact List.not_mem_nil
        · exact inductionHypothesis later
      · next other =>
        split at listed
        · rw [List.mem_singleton.1 listed, List.mem_singleton]
          exact Ne.symm other
        · next first more pieces =>
          rw [pieces] at inductionHypothesis
          rcases List.mem_cons.1 listed with rfl | later
          · rw [List.mem_cons, not_or]
            exact ⟨Ne.symm other, inductionHypothesis List.mem_cons_self⟩
          · exact inductionHypothesis (List.mem_cons_of_mem first later)

end Text

end Gradebook
