import DiceLang.Decimal.Numeral
import DiceLang.Decimal.Shortest

/-!
# Doubles as numerals

How the digits of a double are set out: which numbers are written with an exponent, how many
digits follow the point at least, and which digits are taken when two choices are equally close.
-/

namespace DiceLang.Decimal

/-- The decisions of a way to write doubles. -/
structure Layout where
  /-- Which of two equally close decimals is written. -/
  tie : Tie
  /-- Whether a number with this exponent of its leading digit is written without an exponent. -/
  isPlain : Int → Bool
  /-- How many digits follow the point at least, where there is no exponent. -/
  leastFraction : Nat

namespace Layout

/-- Fills digits up with zeros on the right. -/
def padded (digits : List Char) (width : Nat) : List Char :=
  digits ++ List.replicate (width - digits.length) '0'

/-- The digits set around the point, the first of them at the given power of ten. -/
def plain (layout : Layout) (negative : Bool) (digits : List Char) (leading : Int) : Numeral :=
  if leading < 0 then
    let fraction := List.replicate (-leading - 1).toNat '0' ++ digits
    ⟨negative, ['0'], padded fraction layout.leastFraction, none⟩
  else
    let width := leading.toNat + 1
    ⟨negative, padded (digits.take width) width, padded (digits.drop width) layout.leastFraction,
      none⟩

/-- The digits with the point after the first, and the power of ten of that one. -/
def scientific (negative : Bool) (digits : List Char) (leading : Int) : Numeral :=
  ⟨negative, digits.take 1, digits.drop 1, some leading⟩

/-- A numeral for a decimal. -/
def ofScaled (layout : Layout) (negative : Bool) (decimal : Scaled) : Numeral :=
  let digits := Nat.toDigits 10 decimal.digits
  let leading := decimal.exponent + digits.length - 1
  if layout.isPlain leading then
    layout.plain negative digits leading
  else
    scientific negative digits leading

/-- The numeral of a finite double. Zero keeps its sign. -/
def numeral? (layout : Layout) (x : Float) : Option Numeral :=
  match Magnitude.ofFloat x with
  | .finite size =>
    if size.significand = 0 then
      some (layout.ofScaled (isSigned x) ⟨0, 0⟩)
    else
      some (layout.ofScaled (isSigned x) (size.shortest layout.tie))
  | _ => none

end Layout

end DiceLang.Decimal
