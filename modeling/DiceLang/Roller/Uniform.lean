import DiceLang.Roller.Basic

/-!
# Random rollers

A generator turns a 64-bit state into a stream of 64-bit draws. A draw becomes a face by taking
the high word of its product with the number of sides. Some faces would be hit by one draw more
than others, so draws whose low word falls into the surplus are rejected and drawn again.
-/

namespace DiceLang

namespace Generator

/-- The low word of a product. -/
def lowWord (left right : UInt64) : UInt64 :=
  left * right

/-- The high word of a product. -/
def highWord (left right : UInt64) : UInt64 :=
  UInt64.ofNat (left.toNat * right.toNat / UInt64.size)

/-- The state after one draw. -/
def advance (state : UInt64) : UInt64 :=
  state + 0x2d358dccaa6c78a5

/-- The draw that belongs to an advanced state. -/
def draw (state : UInt64) : UInt64 :=
  let partner := state ^^^ 0x8bb84b93962eacc9
  lowWord state partner ^^^ highWord state partner

end Generator

namespace Roller

open Generator

/-- Whether a draw lies outside the surplus, which has `2 ^ 64 % sides` low words. -/
def isFair (sides draw : UInt64) : Bool :=
  let low := lowWord draw sides
  !(low < sides && low < (0 - sides) % sides)

/-- The face for a draw: the draws are spread evenly from 1 to the number of sides. -/
def faceOf (sides draw : UInt64) : UInt64 :=
  1 + highWord draw sides

/-- Draws until a draw is fair, but at most so many times. -/
def drawFace (sides : UInt64) : Nat → EStateM Fault UInt64 UInt64
  | 0 => throw .noFairDraw
  | attempts + 1 => fun state =>
    let next := advance state
    if isFair sides (draw next) then
      .ok (faceOf sides (draw next)) next
    else
      drawFace sides attempts next

/-- Rolls fair dice from a generator whose state is the roller's state. Every state of the
generator may be tried once. A die without sides lands on 1, and nothing is drawn for it. -/
def uniform : Roller UInt64 where
  rollDie sides := if sides = 0 then pure 1 else drawFace sides UInt64.size

end Roller

end DiceLang
