import DiceLang.Json.Basic

/-!
# Reading documents

A document is one value with blanks around it. Reading is strict: no comma before a closing
bracket, no leading zeros, no control characters inside a text, nothing after the value.
-/

namespace DiceLang.Json

open Decimal (natOfDigits)

/-- The characters that may stand between the pieces of a document. -/
def isBlank (c : Char) : Bool :=
  c == ' ' || c == '\n' || c == '\t' || c == '\r'

/-- What follows the blanks at the front. -/
def skipBlanks (input : List Char) : List Char :=
  input.dropWhile isBlank

/-- What follows the given characters, if the text starts with them. -/
def skip? : List Char → List Char → Option (List Char)
  | [], input => some input
  | c :: rest, d :: input => if c = d then skip? rest input else none
  | _ :: _, [] => none

/-! ## Texts -/

/-- A part of a text: a character, or one half of a surrogate pair. -/
inductive TextPart where
  | char (c : Char)
  | high (code : Nat)
  | low (code : Nat)
deriving DecidableEq

/-- The part that a code of four hexadecimal digits stands for. -/
def TextPart.ofCode (code : Nat) : TextPart :=
  if 0xD800 ≤ code ∧ code < 0xDC00 then
    high code
  else if 0xDC00 ≤ code ∧ code < 0xE000 then
    low code
  else
    char (Char.ofNat code)

/-- The characters of a text, unless one half of a pair stands alone. -/
def TextPart.join : List TextPart → Option (List Char)
  | [] => some []
  | char c :: rest => (c :: ·) <$> join rest
  | high first :: low second :: rest =>
    (Char.ofNat (0x10000 + (first - 0xD800) * 0x400 + (second - 0xDC00)) :: ·) <$> join rest
  | high _ :: _ => none
  | low _ :: _ => none

/-- The value of a hexadecimal digit in either case. -/
def hexDigit? (c : Char) : Option Nat :=
  if '0' ≤ c ∧ c ≤ '9' then
    some (c.toNat - '0'.toNat)
  else if 'a' ≤ c ∧ c ≤ 'f' then
    some (c.toNat - 'a'.toNat + 10)
  else if 'A' ≤ c ∧ c ≤ 'F' then
    some (c.toNat - 'A'.toNat + 10)
  else
    none

/-- The code that four hexadecimal digits spell. -/
def hexCode? (a b c d : Char) : Option Nat := do
  return (((← hexDigit? a) * 16 + (← hexDigit? b)) * 16 + (← hexDigit? c)) * 16 + (← hexDigit? d)

/-- The character that a letter after a backslash stands for. -/
def unescape? : Char → Option Char
  | '"' => some '"'
  | '\\' => some '\\'
  | '/' => some '/'
  | 'b' => some '\x08'
  | 'f' => some '\x0c'
  | 'n' => some '\n'
  | 'r' => some '\r'
  | 't' => some '\t'
  | _ => none

/-- The parts of a text up to its closing quote, and what follows it. -/
def readParts : List Char → Option (List TextPart × List Char)
  | [] => none
  | '"' :: rest => some ([], rest)
  | '\\' :: 'u' :: a :: b :: c :: d :: rest => do
    let code ← hexCode? a b c d
    let (parts, rest) ← readParts rest
    return (.ofCode code :: parts, rest)
  | '\\' :: letter :: rest => do
    let c ← unescape? letter
    let (parts, rest) ← readParts rest
    return (.char c :: parts, rest)
  | c :: rest =>
    if c.toNat < 0x20 then
      none
    else do
      let (parts, rest) ← readParts rest
      return (.char c :: parts, rest)

/-- A text whose opening quote has been read. -/
def readText (input : List Char) : Option (Option String × List Char) := do
  let (parts, rest) ← readParts input
  return ((TextPart.join parts).map String.ofList, rest)

/-! ## Numbers -/

/-- The digits at the front, of which there must be one, and what follows them. -/
def readDigits (input : List Char) : Option (List Char × List Char) :=
  match input.span Char.isDigit with
  | ([], _) => none
  | (digits, rest) => some (digits, rest)

/-- The digits before the point. A zero stands alone. -/
def readWhole : List Char → Option (List Char × List Char)
  | '0' :: c :: rest => if c.isDigit then none else some (['0'], c :: rest)
  | input => readDigits input

/-- The digits after the point, if there is one. -/
def readFraction : List Char → Option (List Char × List Char)
  | '.' :: rest => readDigits rest
  | input => some ([], input)

/-- The value of an exponent after its mark. -/
def readSignedExponent : List Char → Option (Int × List Char)
  | '-' :: rest => (fun (digits, rest) => (-(natOfDigits digits : Int), rest)) <$> readDigits rest
  | '+' :: rest => (fun (digits, rest) => ((natOfDigits digits : Int), rest)) <$> readDigits rest
  | input => (fun (digits, rest) => ((natOfDigits digits : Int), rest)) <$> readDigits input

/-- The exponent, if there is one. -/
def readExponent : List Char → Option (Option Int × List Char)
  | 'e' :: rest => (fun (exponent, rest) => (some exponent, rest)) <$> readSignedExponent rest
  | 'E' :: rest => (fun (exponent, rest) => (some exponent, rest)) <$> readSignedExponent rest
  | input => some (none, input)

/-- A number without its sign. -/
def readUnsigned (negative : Bool) (input : List Char) :
    Option (Decimal.Numeral × List Char) := do
  let (whole, rest) ← readWhole input
  let (fraction, rest) ← readFraction rest
  let (exponent, rest) ← readExponent rest
  return (⟨negative, whole, fraction, exponent⟩, rest)

/-- A number. -/
def readNumeral : List Char → Option (Decimal.Numeral × List Char)
  | '-' :: rest => readUnsigned true rest
  | input => readUnsigned false input

/-! ## Values -/

mutual

/-- A value at the front of a text, and what follows it. The first argument bounds the depth of
the reader, not of the document. -/
def readValue : Nat → List Char → Option (Json × List Char)
  | 0, _ => none
  | depth + 1, input =>
    match skipBlanks input with
    | '\x7b' :: rest =>
      match skipBlanks rest with
      | '\x7d' :: rest => some (object [], rest)
      | rest => do
        let (fields, rest) ← readFields depth rest
        return (object fields, rest)
    | '[' :: rest =>
      match skipBlanks rest with
      | ']' :: rest => some (list [], rest)
      | rest => do
        let (items, rest) ← readItems depth rest
        return (list items, rest)
    | '"' :: rest => do
      let (value, rest) ← readText rest
      return (Json.text value, rest)
    | 'n' :: rest => (fun rest => (null, rest)) <$> skip? ['u', 'l', 'l'] rest
    | 't' :: rest => (fun rest => (bool true, rest)) <$> skip? ['r', 'u', 'e'] rest
    | 'f' :: rest => (fun rest => (bool false, rest)) <$> skip? ['a', 'l', 's', 'e'] rest
    | rest => do
      let (numeral, rest) ← readNumeral rest
      return (number numeral, rest)

/-- The items of a list, at least one, and what follows its closing bracket. -/
def readItems : Nat → List Char → Option (List Json × List Char)
  | 0, _ => none
  | depth + 1, input => do
    let (item, rest) ← readValue depth input
    match skipBlanks rest with
    | ']' :: rest => some ([item], rest)
    | ',' :: rest => do
      let (items, rest) ← readItems depth rest
      return (item :: items, rest)
    | _ => none

/-- The fields of an object, at least one, and what follows its closing brace. -/
def readFields : Nat → List Char → Option (List (Option String × Json) × List Char)
  | 0, _ => none
  | depth + 1, input => do
    let rest ← skip? ['"'] (skipBlanks input)
    let (key, rest) ← readText rest
    let rest ← skip? [':'] (skipBlanks rest)
    let (value, rest) ← readValue depth rest
    match skipBlanks rest with
    | '\x7d' :: rest => some ([(key, value)], rest)
    | ',' :: rest => do
      let (fields, rest) ← readFields depth rest
      return ((key, value) :: fields, rest)
    | _ => none

end

/-- The document that a text holds, with nothing but blanks around it. Every step of the reader
takes a character or is followed by one that does, so twice the length is depth enough. -/
def parse (input : String) : Option Json := do
  let (document, rest) ← readValue (2 * input.toList.length + 2) input.toList
  if skipBlanks rest = [] then some document else none

end DiceLang.Json
