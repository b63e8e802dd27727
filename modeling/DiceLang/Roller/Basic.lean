import DiceLang.Vocabulary

/-!
# Rollers

A roller is a source of faces. It has a state of its own, answers one die at a time from the
number of sides, and may fail; the state that a failed roll leaves behind still counts.
-/

namespace DiceLang

/-- Why a roller could not answer. -/
inductive Fault where
  /-- A scripted roller has no value left. -/
  | scriptFinished
  /-- A random roller rejected every draw it may make. -/
  | noFairDraw
deriving DecidableEq

namespace Fault

/-- The fault in words. -/
def message : Fault → String
  | scriptFinished => "iterator is finished"
  | noFairDraw => "no fair draw"

end Fault

/-- A source of faces over states of type `σ`. -/
structure Roller (σ : Type) where
  /-- Rolls one die with the given number of sides. -/
  rollDie : UInt64 → EStateM Fault σ UInt64

namespace Roller

variable {σ : Type}

/-- Rolls so many dice with the given sides, one after the other. -/
def rollEach (roller : Roller σ) (sides : UInt64) : Nat → EStateM Fault σ (List UInt64)
  | 0 => pure []
  | count + 1 => do
    let face ← roller.rollDie sides
    let faces ← roller.rollEach sides count
    return face :: faces

/-- Rolls every die of a term. The faces are in the order in which they were rolled. -/
def rollDice (roller : Roller σ) (dice : Dice) : EStateM Fault σ (List UInt64) :=
  roller.rollEach dice.sides dice.count.toNat

/-- Hands out the values of a list in order, whatever the sides. Once the list is used up, every
further roll is a fault. -/
def scripted : Roller (List UInt64) where
  rollDie _ := fun
    | [] => .error .scriptFinished []
    | face :: rest => .ok face rest

/-- Always rolls the face that is its state. -/
def constant : Roller UInt64 where
  rollDie _ := get

/-- Always rolls the highest face. -/
def highest : Roller Unit where
  rollDie sides := pure sides

/-- Counts its calls, from 1, and answers the count wrapped into the faces of the die. A die
without sides is taken as one-sided, so it shows 1. -/
def cycling : Roller UInt64 where
  rollDie sides := do
    modify (· + 1)
    let calls ← get
    return calls % max sides 1 + 1

/-- One die that was rolled: its sides and the face it showed. -/
structure Toss where
  sides : UInt64
  face : UInt64
deriving DecidableEq

/-- A roller's state together with everything that was rolled with it. -/
structure Observed (σ : Type) where
  state : σ
  tosses : List Toss

/-- Rolls as the given roller does, and keeps a record of every die that it answered. -/
def observed (roller : Roller σ) : Roller (Observed σ) where
  rollDie sides := fun seen =>
    match roller.rollDie sides seen.state with
    | .ok face state => .ok face ⟨state, seen.tosses ++ [⟨sides, face⟩]⟩
    | .error fault state => .error fault { seen with state := state }

end Roller

end DiceLang
