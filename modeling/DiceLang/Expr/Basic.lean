import DiceLang.Vocabulary

/-!
# Dice expressions

The tree of a dice expression, how it is written, and what can be told from it before anything is
rolled: how many dice it rolls, in which order, and whether its value can vary.
-/

namespace DiceLang

/-- An arithmetic expression over numbers and dice. -/
inductive Expr where
  | num (value : UInt64)
  | dice (dice : Dice)
  | binary (op : Operator) (left right : Expr)
  /-- The sum of some of the faces of the dice. How many is what the amount comes to. -/
  | keep (which : Keep) (dice : Dice) (amount : Expr)
  /-- An expression in parentheses. -/
  | group (inner : Expr)
deriving DecidableEq

namespace Expr

/-- The dice terms from left to right as they are written. The dice of a keep modifier stand
before the dice of its amount. -/
def diceTerms : Expr → List Dice
  | num _ => []
  | dice term => [term]
  | binary _ left right => left.diceTerms ++ right.diceTerms
  | keep _ term amount => term :: amount.diceTerms
  | group inner => inner.diceTerms

/-- How many dice an evaluation rolls, clamped to the largest word. -/
def rollCount : Expr → UInt64
  | num _ => 0
  | dice term => term.count
  | binary _ left right => Word.add left.rollCount right.rollCount
  | keep _ term amount => Word.add term.count amount.rollCount
  | group inner => inner.rollCount

/-- Whether every evaluation comes to the same: all dice terms are fixed. -/
def isDeterministic : Expr → Bool
  | num _ => true
  | dice term => term.isFixed
  | binary _ left right => left.isDeterministic && right.isDeterministic
  | keep _ term amount => term.isFixed && amount.isDeterministic
  | group inner => inner.isDeterministic

/-- How tightly the written form of the expression holds together. -/
def precedence : Expr → Precedence
  | binary op _ _ => op.precedence
  | _ => .primary

/-- The expression as it is written. No parentheses are added: they appear exactly where the tree has
a group. Operators stand between spaces, keep modifiers directly between the dice and the amount. -/
def text : Expr → String
  | num value => Word.text value
  | dice term => term.text
  | binary op left right => left.text ++ " " ++ String.singleton op.symbol ++ " " ++ right.text
  | keep which term amount => term.text ++ which.symbol ++ amount.text
  | group inner => "(" ++ inner.text ++ ")"

end Expr

end DiceLang
