import DiceLang.Vocabulary

/-!
# Tokens

The smallest pieces of a dice expression. A token remembers the text it was read from and where
it starts, counted in characters, so that an error can point at it.
-/

namespace DiceLang

/-- What a token is, with the value of a number. -/
inductive Token.Kind where
  | number (value : UInt64)
  | dice
  | operator (op : Operator)
  | keep (which : Keep)
  | parenOpen
  | parenClose
  /-- The end of the text. -/
  | ending
deriving DecidableEq

/-- A piece of an expression at its place in the text. -/
structure Token where
  kind : Token.Kind
  /-- The text that the token was read from. -/
  lexeme : String
  /-- How many characters stand before it. -/
  offset : Nat
deriving DecidableEq

namespace Token

namespace Kind

/-- The name under which messages speak of the kind. A number's value is no part of it. -/
def name : Kind → String
  | number _ => "NUMBER"
  | dice => "DICE"
  | operator .add => "PLUS"
  | operator .sub => "MINUS"
  | operator .mul => "STAR"
  | operator .div => "SLASH"
  | keep .highest => "KEEP_HIGHEST"
  | keep .lowest => "KEEP_LOWEST"
  | parenOpen => "PAREN_OPEN"
  | parenClose => "PAREN_CLOSE"
  | ending => "EOF"

/-- The value of a number, and nothing for the other kinds. -/
def literal? : Kind → Option UInt64
  | number value => some value
  | dice | operator _ | keep _ | parenOpen | parenClose | ending => none

@[simp]
theorem literal?_eq_some {kind : Kind} {value : UInt64} :
    kind.literal? = some value ↔ kind = number value := by
  cases kind <;> simp [literal?]

@[simp]
theorem literal?_eq_none {kind : Kind} :
    kind.literal? = none ↔ ∀ value, kind ≠ number value := by
  cases kind <;> simp [literal?]

end Kind

/-- The token that marks the end of a text of the given length. -/
def endingAt (offset : Nat) : Token :=
  ⟨.ending, "", offset⟩

end Token

end DiceLang
