import DiceLang.Expr.Basic
import DiceLang.Token.Basic

/-!
# Reading expressions from tokens

An expression is a chain of factors joined by `+` and `-`, a factor is a chain of primaries
joined by `*` and `/`, and all four operators group to the left. A primary is a number, a dice
term with an optional keep modifier, or an expression in parentheses.

The reader looks at most two tokens ahead and never goes back. It does not need an ending token:
the last token of a list is never moved past, so reading beyond the end sees it again and again.
-/

namespace DiceLang

/-- The kinds of token that the grammar can insist on. -/
inductive Expectation where
  | number
  | dice
  | parenClose
deriving DecidableEq

namespace Expectation

/-- The name under which messages speak of the kind. -/
def name : Expectation → String
  | number => "NUMBER"
  | dice => "DICE"
  | parenClose => "PAREN_CLOSE"

end Expectation

/-- A token that does not fit where it stands. -/
inductive ParseError where
  /-- No operand starts with this token. -/
  | unexpected (found : Token.Kind) (offset : Nat)
  /-- The grammar leaves only one kind of token here, and this is another. -/
  | expected (wanted : Expectation) (found : Token.Kind) (offset : Nat)
deriving DecidableEq

namespace ParseError

/-- The token that does not fit. -/
def found : ParseError → Token.Kind
  | unexpected found _ => found
  | expected _ found _ => found

/-- Where the token starts in the text. -/
def offset : ParseError → Nat
  | unexpected _ offset => offset
  | expected _ _ offset => offset

/-- The error in words. -/
def message : ParseError → String
  | unexpected found offset =>
    "unexpected token " ++ found.name ++ " at position " ++ offset.repr
  | expected wanted found offset =>
    "expected " ++ wanted.name ++ " but found " ++ found.name ++ " at position " ++ offset.repr

end ParseError

/-- The tokens that are still to be read. -/
abbrev Cursor := List Token

namespace Cursor

/-- The next token. An empty list reads as one ending token. -/
def next : Cursor → Token
  | [] => Token.endingAt 0
  | token :: _ => token

/-- The token after the next one, or the next one again if it is the last. -/
def second : Cursor → Token
  | _ :: token :: _ => token
  | tokens => next tokens

/-- The tokens after the next one. The last token stays. -/
def advance : Cursor → Cursor
  | _ :: token :: rest => token :: rest
  | tokens => tokens

end Cursor

/-- How an attempt to read something from a cursor ends. -/
inductive Attempt (α : Type) where
  /-- Something was read, and this is left. -/
  | done (value : α) (rest : Cursor)
  | failed (error : ParseError)
  /-- The bound on the depth of the reader was too small to tell. -/
  | exhausted

namespace Attempt

/-- Reads on from where an attempt has arrived. -/
def andThen {α β : Type} (attempt : Attempt α) (next : α → Cursor → Attempt β) : Attempt β :=
  match attempt with
  | done value rest => next value rest
  | failed error => failed error
  | exhausted => exhausted

@[simp]
theorem andThen_done {α β : Type} (value : α) (rest : Cursor) (next : α → Cursor → Attempt β) :
    (done value rest).andThen next = next value rest :=
  rfl

@[simp]
theorem andThen_failed {α β : Type} (error : ParseError) (next : α → Cursor → Attempt β) :
    (failed error : Attempt α).andThen next = failed error :=
  rfl

@[simp]
theorem andThen_exhausted {α β : Type} (next : α → Cursor → Attempt β) :
    (exhausted : Attempt α).andThen next = exhausted :=
  rfl

end Attempt

namespace Expr

open Cursor

/-- Takes a token of one kind. -/
def expect (wanted : Expectation) (kind : Token.Kind) (tokens : Cursor) : Attempt Unit :=
  if (next tokens).kind = kind then
    .done () (advance tokens)
  else
    .failed (.expected wanted (next tokens).kind (next tokens).offset)

/-- Takes a number. -/
def expectNumber (tokens : Cursor) : Attempt UInt64 :=
  match (next tokens).kind.literal? with
  | some value => .done value (advance tokens)
  | none => .failed (.expected .number (next tokens).kind (next tokens).offset)

/-- Takes the optional count and the sides of a dice term. A missing count is 1. -/
def readDice (tokens : Cursor) : Attempt Dice :=
  let counted : UInt64 × Cursor :=
    match (next tokens).kind.literal? with
    | some count => (count, advance tokens)
    | none => (1, tokens)
  (expect .dice .dice counted.2).andThen fun _ rest =>
    (expectNumber rest).andThen fun sides rest => .done ⟨counted.1, sides⟩ rest

mutual

/-- Reads an expression whose operators all have at least the given precedence. -/
def read : Nat → Precedence → Cursor → Attempt Expr
  | 0, _, _ => .exhausted
  | depth + 1, .primary, tokens => readPrimary depth tokens
  | depth + 1, level, tokens =>
    (read depth level.tighter tokens).andThen fun first rest => readChain depth level first rest

/-- Extends an expression by the operators of one precedence that follow it. -/
def readChain : Nat → Precedence → Expr → Cursor → Attempt Expr
  | 0, _, _, _ => .exhausted
  | depth + 1, level, left, tokens =>
    match (next tokens).kind with
    | .operator op =>
      if op.precedence = level then
        (read depth level.tighter (advance tokens)).andThen fun right rest =>
          readChain depth level (binary op left right) rest
      else
        .done left tokens
    | _ => .done left tokens

/-- Reads a number, a dice term or a group. A number directly before `d` is a dice count. -/
def readPrimary : Nat → Cursor → Attempt Expr
  | 0, _ => .exhausted
  | depth + 1, tokens =>
    match (next tokens).kind with
    | .dice => (readDice tokens).andThen fun term rest => readKeep depth term rest
    | .number value =>
      if (second tokens).kind = .dice then
        (readDice tokens).andThen fun term rest => readKeep depth term rest
      else
        .done (num value) (advance tokens)
    | .parenOpen =>
      (read depth .sum (advance tokens)).andThen fun inner rest =>
        (expect .parenClose .parenClose rest).andThen fun _ rest => .done (group inner) rest
    | .operator _ | .keep _ | .parenClose | .ending =>
      .failed (.unexpected (next tokens).kind (next tokens).offset)

/-- Reads the keep modifier that may follow a dice term. -/
def readKeep : Nat → Dice → Cursor → Attempt Expr
  | 0, _, _ => .exhausted
  | depth + 1, term, tokens =>
    match (next tokens).kind with
    | .keep which =>
      (readPrimary depth (advance tokens)).andThen fun amount rest =>
        .done (keep which term amount) rest
    | _ => .done (dice term) tokens

end

/-- A depth that suffices to read any expression from so many tokens. -/
def depthBound (tokens : List Token) : Nat :=
  4 * tokens.length + 8

/-- An expression and the tokens that follow it. -/
structure Parsed where
  expr : Expr
  rest : Cursor
deriving DecidableEq

/-- The first token that is not part of the expression, unless it is the end of the text. -/
def Parsed.ignored? (parsed : Parsed) : Option Token :=
  if (next parsed.rest).kind = .ending then none else some (next parsed.rest)

/-- Reads the expression at the front of a list of tokens. If the last token is an opening
parenthesis, reading may open one group in another without end, because that token is never moved
past; then the parenthesis is refused. -/
def parse (tokens : List Token) : Except ParseError Parsed :=
  match read (depthBound tokens) .sum tokens with
  | .done expr rest => .ok ⟨expr, rest⟩
  | .failed error => .error error
  | .exhausted => .error (.unexpected .parenOpen ((tokens.getLastD (Token.endingAt 0)).offset))

end Expr

end DiceLang
