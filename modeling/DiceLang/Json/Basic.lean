import DiceLang.Decimal.Numeral

/-!
# Documents

The values that a JSON text can hold, and how they are written. Numbers stay as they are written,
because how a numeral is understood is up to whoever reads the document. Documents are written
without blanks. In texts only the quote, the backslash and the control characters below the space
are escaped, and five of those have a letter of their own.
-/

namespace DiceLang

/-- A JSON value. A text is `none` if it holds one half of a surrogate pair without the other: it
is well written, but it is no sequence of characters. Fields keep their order and may repeat. -/
inductive Json where
  | null
  | bool (value : Bool)
  | number (numeral : Decimal.Numeral)
  | text (value : Option String)
  | list (items : List Json)
  | object (fields : List (Option String × Json))

namespace Json

/-- The two hexadecimal digits of a number below 256, in lower case. -/
def hexPair (n : Nat) : List Char :=
  [Nat.digitChar (n / 16), Nat.digitChar (n % 16)]

/-- A character inside a text. -/
def escape : Char → List Char
  | '"' => ['\\', '"']
  | '\\' => ['\\', '\\']
  | '\x08' => ['\\', 'b']
  | '\x0c' => ['\\', 'f']
  | '\n' => ['\\', 'n']
  | '\r' => ['\\', 'r']
  | '\t' => ['\\', 't']
  | c => if c.toNat < 0x20 then ['\\', 'u', '0', '0'] ++ hexPair c.toNat else [c]

/-- A text between quotes. What is no sequence of characters is written as a lone surrogate. -/
def quote : Option String → List Char
  | some value => '"' :: (value.toList.flatMap escape ++ ['"'])
  | none => ['"', '\\', 'u', 'd', '8', '0', '0', '"']

mutual

/-- The document as characters. -/
def write : Json → List Char
  | null => ['n', 'u', 'l', 'l']
  | bool true => ['t', 'r', 'u', 'e']
  | bool false => ['f', 'a', 'l', 's', 'e']
  | number numeral => numeral.text
  | text value => quote value
  | list [] => ['[', ']']
  | list (first :: rest) => '[' :: (write first ++ writeItems rest)
  | object [] => ['\x7b', '\x7d']
  | object ((key, value) :: rest) => '\x7b' :: (quote key ++ ':' :: write value ++ writeFields rest)

/-- The rest of a list after its first item. -/
def writeItems : List Json → List Char
  | [] => [']']
  | item :: rest => ',' :: (write item ++ writeItems rest)

/-- The rest of an object after its first field. -/
def writeFields : List (Option String × Json) → List Char
  | [] => ['\x7d']
  | (key, value) :: rest => ',' :: (quote key ++ ':' :: write value ++ writeFields rest)

end

/-- The document as a text. -/
def render (document : Json) : String :=
  String.ofList (write document)

end Json

end DiceLang
