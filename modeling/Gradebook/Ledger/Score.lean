import Gradebook.Decimal.Layout

namespace Gradebook

/-!
# Scores

What a score may be: finite, and within the point budget where one is given.
The comparisons are those of doubles, so a budget that is not a number excludes
nothing by itself.
-/

/-- Why a score is refused. -/
inductive ScoreError
  | outOfRange (score max : Float)
  | negativeExtraCredit (extraCredit : Float)
  | notFinite
deriving DecidableEq

namespace Score

/-- A score as people read it. -/
def text (score : Float) : String :=
  Decimal.Layout.plain.write score

/-- Check a manual score against a point budget. -/
def check (score points : Float) : Except ScoreError Unit :=
  if !score.isFinite then .error .notFinite
  else if score < 0 || points < score then .error (.outOfRange score points)
  else .ok ()

/-- Check extra credit. -/
def checkExtra (extraCredit : Float) : Except ScoreError Unit :=
  if !extraCredit.isFinite then .error .notFinite
  else if extraCredit < 0 then .error (.negativeExtraCredit extraCredit)
  else .ok ()

end Score

/-- The message of a refused score. -/
def ScoreError.message : ScoreError → String
  | .outOfRange score max =>
    "score " ++ Score.text score ++ " is outside the range 0..=" ++ Score.text max
  | .negativeExtraCredit extraCredit =>
    "extra credit must not be negative (got " ++ Score.text extraCredit ++ ")"
  | .notFinite => "score must be a finite number"

end Gradebook
