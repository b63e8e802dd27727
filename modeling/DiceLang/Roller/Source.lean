import DiceLang.Roller.Script
import DiceLang.Roller.Uniform

/-!
# Rollers chosen while running

Which roller an expression is rolled with can be a matter of input. A source is any of the
rollers of this library together with its state, and rolling with it is rolling with that one.
-/

namespace DiceLang

/-- One of the library's rollers in some state. -/
inductive Source where
  /-- A scripted roller that can be asked whether it has values left. -/
  | lookahead (script : Script)
  /-- Always the same face. -/
  | constant (face : UInt64)
  /-- Always the highest face. -/
  | highest
  /-- Fair dice from a generator state. -/
  | uniform (state : UInt64)
  /-- A cycling roller that keeps record of the dice it rolled. -/
  | cycling (observed : Roller.Observed UInt64)

namespace Source

/-- A scripted roller that has not been asked yet. -/
def script (values : List UInt64) : Source := lookahead (.ofList values)

/-- Fair dice from a seed. -/
def ofSeed (seed : UInt64) : Source := uniform seed

/-- A cycling roller that has not been asked yet. -/
def freshCycling : Source := cycling ⟨0, []⟩

/-- Keeps the kind of source around the state that a roll leaves. -/
def within {σ : Type} (wrap : σ → Source) (rolled : EStateM.Result Fault σ UInt64) :
    EStateM.Result Fault Source UInt64 :=
  match rolled with
  | .ok face state => .ok face (wrap state)
  | .error fault state => .error fault (wrap state)

/-- Rolls with whichever roller the source holds. -/
def roller : Roller Source where
  rollDie sides := fun
    | lookahead script => within lookahead (Roller.lookahead.rollDie sides script)
    | constant face => within constant (Roller.constant.rollDie sides face)
    | highest => within (fun _ => highest) (Roller.highest.rollDie sides ())
    | uniform state => within uniform (Roller.uniform.rollDie sides state)
    | cycling observed => within cycling (Roller.cycling.observed.rollDie sides observed)

/-- Whether a scripted roller has values left, for which it is looked into. The others never run out
and do not say. -/
def canRoll : Source → Option Bool × Source
  | lookahead script => (some script.canRoll.1, lookahead script.canRoll.2)
  | other => (none, other)

/-- Whether a scripted roller has values left. -/
def canRoll? (source : Source) : Option Bool := source.canRoll.1

/-- The sides that a cycling roller was asked for so far. The others keep no record. -/
def asked? : Source → Option (List UInt64)
  | cycling observed => some (observed.tosses.map Roller.Toss.sides)
  | _ => none

end Source

end DiceLang
