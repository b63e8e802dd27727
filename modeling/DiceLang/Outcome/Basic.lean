import DiceLang.Decimal.Layout
import DiceLang.Vocabulary

/-!
# Outcomes

What an evaluated expression came to: a number, the faces of a dice term, the outcomes of the
operands, and an explanation, which is the expression with the faces in place of its dice. The
functions here build the outcome of an expression from those of its parts; nothing is rolled. An
outcome is shown as its explanation and its result. Results are written in full, without an exponent
and with no more digits than tell them apart from all other doubles.
-/

namespace DiceLang

/-- The result of an expression and how it was reached. -/
structure Outcome where
  result : Float
  /-- The faces in the order they were rolled, for dice and for groups directly around them. -/
  rolls : Option (List UInt64)
  /-- The outcomes of the operands in the order of their evaluation. -/
  children : List Outcome
  explanation : String

/-- The sum of faces, added from the left to positive zero. -/
def total (faces : List UInt64) : Float :=
  faces.foldl (fun sum face => sum + face.toFloat) 0.0

namespace Keep

/-- How many of the available faces an amount keeps: what is left of it without its fraction, but
never more than there are, and none if it is below 1 or no number. -/
def count (amount : Float) (available : Nat) : Nat :=
  if 1.0 ≤ amount then min amount.toUInt64.toNat available else 0

/-- The faces in ascending order. -/
def ascending (faces : List UInt64) : List UInt64 :=
  faces.mergeSort fun left right => decide (left ≤ right)

/-- The part of a row from one position up to another, if the row has both. -/
def slice? (start stop : Nat) (faces : List UInt64) : Option (List UInt64) :=
  if start ≤ stop ∧ stop ≤ faces.length then some ((faces.take stop).drop start) else none

/-- The given number of faces from one end of their order, in ascending order. If there are fewer
faces, all of them are the highest ones, but no part of the order holds the lowest ones. -/
def select? (which : Keep) (count : Nat) (faces : List UInt64) : Option (List UInt64) :=
  let sorted := ascending faces
  match which with
  | highest => slice? (sorted.length - count) sorted.length sorted
  | lowest => slice? 0 count sorted

end Keep

namespace Outcome

/-- The outcome of a number. -/
def ofNum (value : UInt64) : Outcome :=
  ⟨value.toFloat, none, [], Word.text value⟩

/-- The outcome of a dice term that showed the given faces. -/
def ofFaces (faces : List UInt64) : Outcome :=
  ⟨total faces, some faces, [], "[" ++ " + ".intercalate (faces.map Word.text) ++ "]"⟩

/-- The outcome of an operator applied to two outcomes. -/
def combine (op : Operator) (left right : Outcome) : Outcome :=
  ⟨op.apply left.result right.result, none, [left, right],
    left.explanation ++ " " ++ String.singleton op.symbol ++ " " ++ right.explanation⟩

/-- The outcome of keeping some of the faces of a dice term. If the part to keep did not exist,
nothing would be kept. -/
def keep (which : Keep) (rolled amount : Outcome) : Outcome :=
  let faces := rolled.rolls.getD []
  let kept := which.select? (Keep.count amount.result faces.length) faces
  ⟨total (kept.getD []), none, [rolled, amount],
    rolled.explanation ++ which.symbol ++ amount.explanation⟩

/-- The outcome of an expression in parentheses. It shows the faces of dice directly inside. -/
def group (inner : Outcome) : Outcome :=
  ⟨inner.result, inner.rolls, [inner], "(" ++ inner.explanation ++ ")"⟩

/-- Results never have an exponent, whole results have no point, and of two equally close decimals
the larger one is written. -/
def resultLayout : Decimal.Layout where
  tie := .up
  isPlain _ := true
  leastFraction := 0

/-- A result in words or digits. -/
def resultText (result : Float) : String :=
  match resultLayout.numeral? result with
  | some numeral => String.ofList numeral.text
  | none =>
    match Decimal.Magnitude.ofFloat result with
    | .notANumber => "NaN"
    | _ => if Decimal.isSigned result then "-inf" else "inf"

/-- The outcome in one line. -/
def text (outcome : Outcome) : String :=
  outcome.explanation ++ " = " ++ resultText outcome.result

end Outcome

end DiceLang
