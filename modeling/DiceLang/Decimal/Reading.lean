import DiceLang.Decimal.Numeral
import DiceLang.Word

/-!
# Understanding numerals

A numeral is understood as a word if it is a plain run of digits that fits, and as a double in
any case that does not overflow. For a double the first digits are taken as a word, as many as
fit, and the word is scaled by a power of ten. Both steps round, so the double is not always the
one closest to the numeral.
-/

namespace DiceLang.Decimal

/-- The greatest power of ten by which a double is scaled at once. -/
def greatestPower : Nat := 308

/-- A power of ten as a double. -/
def powerOfTen (power : Nat) : Float :=
  Float.ofScientific 1 false power

/-- Scales a size by a power of ten. A size that leaves the doubles upwards is refused. Far below
their range it takes several steps until the size becomes zero, and so many are allowed. -/
def scale? : Nat → Float → Int → Option Float
  | steps, size, exponent =>
    if exponent.natAbs ≤ greatestPower then
      if 0 ≤ exponent then
        let scaled := size * powerOfTen exponent.natAbs
        if scaled.isInf then none else some scaled
      else
        some (size / powerOfTen exponent.natAbs)
    else if size == 0 then
      some size
    else if 0 ≤ exponent then
      none
    else
      match steps with
      | 0 => none
      | steps + 1 => scale? steps (size / powerOfTen greatestPower) (exponent + greatestPower)

/-- The first digits of a numeral, as many as fit into a word. -/
structure Significand where
  word : UInt64
  /-- The power of ten to scale it by. -/
  exponent : Int
  /-- Whether a digit did not fit. -/
  full : Bool
deriving DecidableEq

namespace Significand

/-- Ten times the word and a digit more, if that is a word. -/
def append? (word : UInt64) (digit : Char) : Option UInt64 :=
  let value := word.toNat * 10 + (Word.ofDigit digit).toNat
  if value ≤ Word.largest then some (UInt64.ofNat value) else none

/-- Takes in a digit before the point. One that does not fit, and all after it, only count as
places. -/
def addWhole (significand : Significand) (digit : Char) : Significand :=
  match significand.full, append? significand.word digit with
  | false, some word => { significand with word := word }
  | _, _ => { significand with exponent := significand.exponent + 1, full := true }

/-- Takes in a digit after the point. One that does not fit, and all after it, are dropped. -/
def addFraction (significand : Significand) (digit : Char) : Significand :=
  match significand.full, append? significand.word digit with
  | false, some word => ⟨word, significand.exponent - 1, false⟩
  | _, _ => { significand with full := true }

/-- The digits of a numeral, without its exponent. A digit after the point may still fit where
one before it did not. -/
def ofNumeral (numeral : Numeral) : Significand :=
  let whole := numeral.whole.foldl addWhole ⟨0, 0, false⟩
  numeral.fraction.foldl addFraction { whole with full := false }

end Significand

namespace Numeral

/-- The double that the numeral is understood as. A negative zero keeps its sign. From a word,
four steps of scaling lead below all doubles. -/
def toFloat? (numeral : Numeral) : Option Float :=
  let significand := Significand.ofNumeral numeral
  let exponent := significand.exponent + numeral.exponent.getD 0
  (scale? 4 significand.word.toFloat exponent).map fun size =>
    if numeral.negative then -size else size

/-- The word that the numeral denotes: digits alone, without a sign, a point or an exponent. -/
def toWord? (numeral : Numeral) : Option UInt64 :=
  if numeral.negative = false ∧ numeral.fraction = [] ∧ numeral.exponent = none then
    let value := natOfDigits numeral.whole
    if value ≤ Word.largest then some (UInt64.ofNat value) else none
  else
    none

end Numeral

end DiceLang.Decimal
