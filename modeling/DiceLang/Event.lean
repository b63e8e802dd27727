import DiceLang.Expr.Parser
import DiceLang.Outcome.Evaluation

/-!
# Events

What is worth telling about a roll while it happens, each with its weight, a message and named
details. A roll reports its events in the order in which they came about.
-/

namespace DiceLang

/-- Something that happened during a roll. -/
inductive Event where
  /-- The tokens from this one on were not part of the expression. -/
  | ignoredInput (token : Token)
  /-- The expression would roll more dice than it may. -/
  | overLimit (expr : Expr) (limit : UInt64)
  | evaluating (expr : Expr)
  | thrown (throw : Throw)
deriving DecidableEq

namespace Event

/-- How much attention an event deserves. -/
inductive Level where
  | warning
  | debug
  | trace
deriving DecidableEq

/-- The level in capitals. -/
def Level.name : Level → String
  | warning => "WARN"
  | debug => "DEBUG"
  | trace => "TRACE"

/-- How much attention the event deserves. -/
def level : Event → Level
  | ignoredInput _ => .warning
  | overLimit _ _ => .debug
  | evaluating _ => .debug
  | thrown _ => .trace

/-- What happened, without its details. -/
def message : Event → String
  | ignoredInput _ => "ignoring trailing input after complete expression"
  | overLimit _ _ => "rejecting expression over the roll limit"
  | evaluating _ => "evaluating expression"
  | thrown _ => "rolled dice"

/-- Faces in the order they were rolled, between brackets. -/
def facesText (faces : List UInt64) : String :=
  "[" ++ ", ".intercalate (faces.map Word.text) ++ "]"

/-- The details of the event by name. -/
def details : Event → List (String × String)
  | ignoredInput token => [("lexeme", token.lexeme), ("offset", token.offset.repr)]
  | overLimit expr limit =>
    [("count", Word.text expr.rollCount), ("expr", expr.text), ("max", Word.text limit)]
  | evaluating expr =>
    [("deterministic", if expr.isDeterministic then "true" else "false"), ("expr", expr.text)]
  | thrown throw => [("dice", throw.dice.text), ("rolls", facesText throw.faces)]

end Event

end DiceLang
