import DiceLang.Text.Quoted
import DiceLang.Text.Reader
import DiceLang.Token.Basic

/-!
# Reading tokens from text

An expression is a sequence of lexemes with blanks anywhere between them. A run of digits is
always taken whole, and a `k` must be followed by `h` or `l`. Reading skips what fits nowhere and
goes on to the end, so there may be many failures; the one that starts first is told.
-/

namespace DiceLang

/-- The character at which reading got stuck, or `none` if the text ended too early, and how many
characters stand before it. -/
structure Misfit where
  character : Option Char
  offset : Nat
deriving DecidableEq

/-- A misfit together with the whole text it is in. -/
structure LexError extends Misfit where
  expression : String
deriving DecidableEq

namespace LexError

/-- What was found, without its place. -/
def summary (error : LexError) : String :=
  match error.character with
  | some character => "unexpected character " ++ Text.quoted character
  | none => "unexpected end of input"

/-- A line that points at the character with the given number of characters before it. -/
def caret (offset : Nat) : String :=
  String.ofList (List.replicate offset ' ') ++ "^"

/-- What was found and where, then the text, then a line that points into it. -/
def message (error : LexError) : String :=
  error.summary ++ " at position " ++ error.offset.repr ++ "\n" ++ error.expression ++ "\n" ++
    caret error.offset

end LexError

namespace Token

open Text Reader

/-- A run of digits. -/
def number : Reader Kind := do
  let digits ← repeatedOnce (satisfying Char.isDigit)
  return .number (Word.ofDigits digits)

/-- A character that is read as a token of the given kind. -/
def letter (c : Char) (kind : Kind) : Reader Kind := do
  let _ ← just c
  return kind

/-- A keep modifier that is written in full. Behind its `k` nothing else is tried, so that a failure
tells of what follows the `k`. -/
def keepModifier : Reader Kind := do
  let _ ← just 'k'
  choice [letter 'h' (.keep .highest), letter 'l' (.keep .lowest)]

/-- The other tokens that are written with one character. -/
def signs : List (Reader Kind) :=
  [letter 'h' (.keep .highest), letter 'l' (.keep .lowest), letter '+' (.operator .add),
    letter '-' (.operator .sub), letter '*' (.operator .mul), letter '/' (.operator .div),
    letter '(' .parenOpen, letter ')' .parenClose]

/-- A token of any kind but the ending. -/
def token : Reader Kind :=
  choice (number :: letter 'd' .dice :: keepModifier :: signs)

/-- A token with its place and the blanks around it. -/
def item : Reader (Kind × Span) :=
  padded (spanned token)

/-- All tokens of a text. Characters that fit nowhere are skipped. -/
def items : Reader (List (Kind × Span)) := do
  let found ← padded (repeated (recovering item))
  ended
  return found

/-- What was read at a place of a text, as a token. -/
def located (text : List Char) (found : Kind × Span) : Token :=
  ⟨found.1, String.ofList ((slice? text found.2).getD []), charOffset text found.2.start⟩

/-- The failure that starts first. -/
def earliest? (failures : List Failure) : Option Failure :=
  failures.minOn? fun failure => failure.span.start

/-- The tokens of an expression, closed by an ending token, or the first misfit in it. -/
def lex (expression : String) : Except LexError (List Token) :=
  let text := expression.toList
  let reading := items (.start text)
  match earliest? (failures reading) with
  | some failure =>
    .error ⟨⟨failure.found, charOffset text failure.span.start⟩, expression⟩
  | none => .ok (((value? reading).getD []).map (located text) ++ [endingAt text.length])

end Token

end DiceLang
