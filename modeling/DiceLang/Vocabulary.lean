import DiceLang.Word

/-!
# Operators, keep modifiers and dice terms

The vocabulary that tokens, expressions and rollers share: the four arithmetic operators with their
precedence, the two modifiers that keep only some faces of a dice term, and the dice terms
themselves, which are a number of equal dice that are rolled together.
-/

namespace DiceLang

/-- How tightly a piece of an expression holds together, from loosest to tightest. -/
inductive Precedence where
  /-- Sums and differences. -/
  | sum
  /-- Products and quotients. -/
  | product
  /-- Numbers, dice and groups, which no operator takes apart. -/
  | primary
deriving DecidableEq

namespace Precedence

/-- The position in the order, counted from the loosest. -/
def rank : Precedence → Nat
  | sum => 0
  | product => 1
  | primary => 2

/-- What the operands of a chain of this precedence are at least. -/
def tighter : Precedence → Precedence
  | sum => product
  | product => primary
  | primary => primary

end Precedence

/-- The arithmetic operators. -/
inductive Operator where
  | add
  | sub
  | mul
  | div
deriving DecidableEq

namespace Operator

/-- The character that writes the operator. -/
def symbol : Operator → Char
  | add => '+'
  | sub => '-'
  | mul => '*'
  | div => '/'

/-- Products and quotients bind tighter than sums and differences. -/
def precedence : Operator → Precedence
  | add | sub => .sum
  | mul | div => .product

/-- The operation on results. Quotients are exact up to rounding, never truncated. -/
def apply : Operator → Float → Float → Float
  | add, left, right => left + right
  | sub, left, right => left - right
  | mul, left, right => left * right
  | div, left, right => left / right

end Operator

/-- Which end of the sorted faces a keep modifier takes. -/
inductive Keep where
  | highest
  | lowest
deriving DecidableEq

namespace Keep

/-- The letters that write the modifier in full. -/
def symbol : Keep → String
  | highest => "kh"
  | lowest => "kl"

end Keep

/-- So many dice with so many sides each. -/
structure Dice where
  count : UInt64
  sides : UInt64
deriving DecidableEq

namespace Dice

/-- The term as it is written, always with its count. -/
def text (dice : Dice) : String :=
  Word.text dice.count ++ "d" ++ Word.text dice.sides

/-- Whether every throw of the dice shows the same: none are thrown, or each can only land on
one face. A die without sides counts as one that lands on 1. -/
def isFixed (dice : Dice) : Bool :=
  dice.sides ≤ 1 || dice.count == 0

end Dice

end DiceLang
