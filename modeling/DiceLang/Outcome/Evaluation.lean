import DiceLang.Expr.Basic
import DiceLang.Outcome.Basic
import DiceLang.Roller.Basic

/-!
# Evaluating expressions

An expression is evaluated from left to right and from the inside out, so that a roller with a
fixed sequence of faces hands them out in the order in which the dice are written. Every dice
term that was thrown is put on record when its last die has landed.
-/

namespace DiceLang

/-- A dice term and the faces it showed. -/
structure Throw where
  dice : Dice
  faces : List UInt64
deriving DecidableEq

/-- A roller's state and the dice terms thrown with it so far, the latest last. -/
structure Table (σ : Type) where
  state : σ
  throws : List Throw

namespace Table

variable {σ : Type}

/-- A table on which nothing has been thrown. -/
def fresh (state : σ) : Table σ := ⟨state, []⟩

/-- Throws a dice term. A term that could not be thrown to the end leaves no record. -/
def throwDice (roller : Roller σ) (dice : Dice) : EStateM Fault (Table σ) (List UInt64) :=
  fun table =>
    match roller.rollDice dice table.state with
    | .ok faces state => .ok faces ⟨state, table.throws ++ [⟨dice, faces⟩]⟩
    | .error fault state => .error fault { table with state := state }

end Table

variable {σ : Type}

/-- Throws the dice and takes their sum. -/
def Dice.roll (roller : Roller σ) (dice : Dice) : EStateM Fault (Table σ) Outcome := do
  let faces ← Table.throwDice roller dice
  return Outcome.ofFaces faces

/-- Evaluates an expression with the dice that the roller throws. -/
def Expr.eval (roller : Roller σ) : Expr → EStateM Fault (Table σ) Outcome
  | num value => return Outcome.ofNum value
  | dice term => term.roll roller
  | binary op left right => do
    let left ← left.eval roller
    let right ← right.eval roller
    return Outcome.combine op left right
  | keep which term amount => do
    let rolled ← term.roll roller
    let amount ← amount.eval roller
    return Outcome.keep which rolled amount
  | group inner => do
    let inner ← inner.eval roller
    return Outcome.group inner

end DiceLang
