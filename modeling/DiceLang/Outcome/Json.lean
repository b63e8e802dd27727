import DiceLang.Decimal.Reading
import DiceLang.Json.Parser
import DiceLang.Outcome.Basic

/-!
# Outcomes as documents

An outcome is an object with its four parts in a fixed order. Rolls that it does not have and an
empty list of children are left out. A result that is no finite number is written as `null`,
which cannot be read back.

Reading also takes a list of the four parts, and ignores fields that it does not know. It is
bounded in how deeply the lists and objects that it looks into may be nested.
-/

namespace DiceLang.Outcome

/-! ## Writing -/

/-- Results have an exponent below `1e-5` and from `1e16` on. Otherwise at least one digit follows
the point. Of two equally close decimals the one with an even last digit is written. -/
def numeralLayout : Decimal.Layout where
  tie := .toEven
  isPlain leading := -5 ≤ leading && leading ≤ 15
  leastFraction := 1

/-- The document for a result. -/
def resultDocument (result : Float) : Json :=
  match numeralLayout.numeral? result with
  | some numeral => .number numeral
  | none => .null

/-- The document for a word. -/
def wordDocument (word : UInt64) : Json :=
  .number (.ofNat word.toNat)

/-- The field for rolls, if there are any to show. An empty list is shown. -/
def rollsField : Option (List UInt64) → List (Option String × Json)
  | none => []
  | some rolls => [(some "rolls", .list (rolls.map wordDocument))]

/-- The field for children, unless there are none. -/
def childrenField : List Json → List (Option String × Json)
  | [] => []
  | children => [(some "children", .list children)]

mutual

/-- The document for an outcome. -/
def toJson : Outcome → Json
  | ⟨result, rolls, children, explanation⟩ =>
    .object ((some "result", resultDocument result) :: rollsField rolls ++
      childrenField (childrenToJson children) ++ [(some "explanation", .text (some explanation))])

/-- The documents for a list of outcomes. -/
def childrenToJson : List Outcome → List Json
  | [] => []
  | child :: rest => child.toJson :: childrenToJson rest

end

/-- The outcome as a compact text. -/
def toJsonText (outcome : Outcome) : String :=
  outcome.toJson.render

/-! ## Reading -/

/-- The result in a document. -/
def result? : Json → Option Float
  | .number numeral => numeral.toFloat?
  | _ => none

/-- The word in a document. -/
def word? : Json → Option UInt64
  | .number numeral => numeral.toWord?
  | _ => none

/-- The explanation in a document. -/
def explanation? : Json → Option String
  | .text value => value
  | _ => none

/-- The rolls in a document, where `null` stands for none. A list needs room for one more level. -/
def rolls? (room : Nat) : Json → Option (Option (List UInt64))
  | .null => some none
  | .list items => if room = 0 then none else some <$> items.mapM word?
  | _ => none

/-- The four parts of an outcome as they stand in a document. Two of them may be missing. -/
structure Parts where
  result : Json
  rolls : Option Json
  children : Option Json
  explanation : Json

/-- The value of a field, which must not occur twice. -/
def field? (key : String) (fields : List (Option String × Json)) : Option (Option Json) :=
  match fields.filter fun field => field.1 == some key with
  | [] => some none
  | [field] => some (some field.2)
  | _ => none

/-- The parts of an outcome, from an object whose keys are all texts, or from a list of four. -/
def Parts.ofJson? : Json → Option Parts
  | .object fields =>
    if fields.all fun field => field.1.isSome then do
      let result ← (← field? "result" fields)
      let rolls ← field? "rolls" fields
      let children ← field? "children" fields
      let explanation ← (← field? "explanation" fields)
      return ⟨result, rolls, children, explanation⟩
    else
      none
  | .list [result, rolls, children, explanation] =>
    some ⟨result, some rolls, some children, explanation⟩
  | _ => none

mutual

/-- The outcome in a document, if it nests no more lists and objects than there is room for. -/
def ofJson? : Nat → Json → Option Outcome
  | 0, _ => none
  | room + 1, document => do
    let parts ← Parts.ofJson? document
    let result ← result? parts.result
    let rolls ← parts.rolls.elim (some none) (rolls? room)
    let children ← parts.children.elim (some []) (children? room)
    let explanation ← explanation? parts.explanation
    return ⟨result, rolls, children, explanation⟩

/-- The children in a document. Like the rolls, their list needs room for one more level. -/
def children? : Nat → Json → Option (List Outcome)
  | room + 1, .list items => items.mapM (ofJson? room)
  | _, _ => none

end

/-- How many lists and objects may be nested in a text that is read. -/
def readingRoom : Nat := 127

/-- The outcome that a text holds. -/
def ofJsonText? (text : String) : Option Outcome := do
  ofJson? readingRoom (← Json.parse text)

end DiceLang.Outcome
