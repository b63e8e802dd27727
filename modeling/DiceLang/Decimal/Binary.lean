/-!
# Doubles taken apart

A finite double is a sign and a natural number times a power of two. That number stands for all
reals that are rounded to it: those between the halfway points to its two neighbours. The points
themselves belong to it exactly if its significand is even.
-/

namespace DiceLang.Decimal

/-- The size of a finite double, `significand * 2 ^ exponent`. -/
structure Binary where
  significand : Nat
  exponent : Int
  /-- Whether the next smaller double is only half as far away as the next larger one. -/
  closeBelow : Bool
deriving DecidableEq

/-- A double without its sign. -/
inductive Magnitude where
  | notANumber
  | infinite
  | finite (size : Binary)

namespace Magnitude

/-- How many significands there are for each exponent: they take fifty-two bits. -/
def fractionCount : Nat := 0x10000000000000

/-- The eleven bits of the exponent of a double. -/
def exponentBits (x : Float) : Nat :=
  x.toBits.toNat / fractionCount % 0x800

/-- The fifty-two bits of the significand of a double. -/
def fractionBits (x : Float) : Nat :=
  x.toBits.toNat % fractionCount

/-- The size of a double. The least exponent is for the numbers around zero, whose leading bit is
not implied; the greatest is for infinities and for what is no number. -/
def ofFloat (x : Float) : Magnitude :=
  if exponentBits x = 0x7FF then
    if fractionBits x = 0 then infinite else notANumber
  else if exponentBits x = 0 then
    finite ⟨fractionBits x, -1074, false⟩
  else
    finite ⟨fractionCount + fractionBits x, (exponentBits x : Int) - 1075,
      fractionBits x = 0 && exponentBits x ≠ 1⟩

end Magnitude

/-- Whether the sign bit of a double is set. -/
def isSigned (x : Float) : Bool :=
  0x8000000000000000 ≤ x.toBits.toNat

end DiceLang.Decimal
