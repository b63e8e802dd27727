import DiceLang.Decimal.Binary

/-!
# The fewest digits that identify a double

Decimals with a given last place form a grid. From coarse grids to fine ones, the first that has
a point among the reals that are rounded to the double gives the fewest digits, and of two such
points the closer one is taken. All comparisons are exact, between natural numbers.
-/

namespace DiceLang.Decimal

/-- Which of two equally close decimals is taken. -/
inductive Tie where
  | toEven
  | up
deriving DecidableEq

/-- The decimal `digits * 10 ^ exponent`. -/
structure Scaled where
  digits : Nat
  exponent : Int
deriving DecidableEq

/-- A double and the ends of the reals that are rounded to it, measured in a unit in which they
and the distance between the points of some grid are all natural. -/
structure Grid where
  low : Nat
  value : Nat
  high : Nat
  /-- Whether the ends belong to it. -/
  closed : Bool
  /-- The distance between neighbouring points. -/
  step : Nat

namespace Grid

/-- The grid of the multiples of `10 ^ place`. The unit is a quarter of the last bit of the
significand, divided further by whatever makes the step natural. -/
def ofPlace (size : Binary) (place : Int) : Grid :=
  let quarter := Nat.pow 2 (size.exponent - 2).toNat * Nat.pow 10 (-place).toNat
  { low := (4 * size.significand - if size.closeBelow then 1 else 2) * quarter
    value := 4 * size.significand * quarter
    high := (4 * size.significand + 2) * quarter
    closed := size.significand % 2 = 0
    step := Nat.pow 2 (2 - size.exponent).toNat * Nat.pow 10 place.toNat }

/-- Whether the given multiple of the step is rounded to the double. -/
def identifies (grid : Grid) (multiple : Nat) : Bool :=
  let point := multiple * grid.step
  if grid.closed then
    grid.low ≤ point && point ≤ grid.high
  else
    grid.low < point && point < grid.high

/-- Of two neighbouring points the one closer to the double. -/
def closer (grid : Grid) (tie : Tie) (below : Nat) : Nat :=
  match compare (2 * grid.value) ((2 * below + 1) * grid.step), tie with
  | .lt, _ => below
  | .gt, _ => below + 1
  | .eq, .up => below + 1
  | .eq, .toEven => if below % 2 = 0 then below else below + 1

/-- The best point of the grid that identifies the double, if one does. Only the two points next
to the double need to be tried. -/
def best? (grid : Grid) (tie : Tie) : Option Nat :=
  let below := grid.value / grid.step
  match grid.identifies below, grid.identifies (below + 1) with
  | true, true => some (grid.closer tie below)
  | true, false => some below
  | false, true => some (below + 1)
  | false, false => none

end Grid

namespace Binary

/-- Tries so many grids, each ten times finer than the one before. -/
def search (size : Binary) (tie : Tie) : Nat → Int → Option Scaled
  | 0, _ => none
  | grids + 1, place =>
    match (Grid.ofPlace size place).best? tie with
    | some digits => some ⟨digits, place⟩
    | none => size.search tie grids (place - 1)

/-- A place above the leading digit, from the number of bits and the logarithm of two. -/
def leadingPlace (size : Binary) : Int :=
  ((size.significand.log2 : Int) + 1 + size.exponent) * 30103 / 100000 + 1

/-- All digits of the size. -/
def exact (size : Binary) : Scaled :=
  if 0 ≤ size.exponent then
    ⟨size.significand * Nat.pow 2 size.exponent.toNat, 0⟩
  else
    ⟨size.significand * Nat.pow 5 (-size.exponent).toNat, size.exponent⟩

/-- The shortest decimal that is rounded to the double. Seventeen digits are always enough, and
the search starts at most two places above the first of them. -/
def shortest (size : Binary) (tie : Tie) : Scaled :=
  (size.search tie 20 size.leadingPlace).getD size.exact

end Binary

end DiceLang.Decimal
