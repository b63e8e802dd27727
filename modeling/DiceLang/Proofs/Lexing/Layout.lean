import Mathlib.Data.List.Chain
import DiceLang.Proofs.Lexing.Numbers
import DiceLang.Proofs.Reading.Walk
import DiceLang.Text.CharClass

/-!
# The layout of a text

A layout cuts a text into lexemes with blanks around them. It says nothing about how a text is
read: any cut will do, as long as two runs of digits do not touch. The tokens of a text are the
lexemes of its layout, each where it stands.
-/

namespace DiceLang.Token

/-- The ways to write a token of each kind, apart from the ending. -/
inductive Lexeme : List Char → Kind → Prop where
  /-- A run of digits denotes a number, or the largest word if that does not fit. -/
  | number {digits : List Char} (some : digits ≠ []) (isDigit : ∀ c ∈ digits, c.isDigit = true) :
    Lexeme digits (.number (Word.saturate (Decimal.natOfDigits digits)))
  | dice : Lexeme ['d'] .dice
  | keepHighest : Lexeme ['k', 'h'] (.keep .highest)
  | keepLowest : Lexeme ['k', 'l'] (.keep .lowest)
  | bareHighest : Lexeme ['h'] (.keep .highest)
  | bareLowest : Lexeme ['l'] (.keep .lowest)
  | operator (op : Operator) : Lexeme [op.symbol] (.operator op)
  | parenOpen : Lexeme ['('] .parenOpen
  | parenClose : Lexeme [')'] .parenClose

/-- A lexeme with the blanks before it. -/
structure Piece where
  gap : List Char
  lexeme : List Char
  kind : Kind

namespace Piece

/-- The characters of the piece. -/
def text (piece : Piece) : List Char :=
  piece.gap ++ piece.lexeme

/-- The piece is a run of digits. -/
def IsNumber (piece : Piece) : Prop :=
  ∃ value, piece.kind = .number value

/-- Of two neighbours, the second one does not continue the digits of the first. -/
def Apart (left right : Piece) : Prop :=
  left.IsNumber → right.IsNumber → right.gap ≠ []

/-- The tokens of pieces before which so many characters stand. -/
def tokens (offset : Nat) : List Piece → List Token
  | [] => []
  | piece :: pieces =>
    ⟨piece.kind, String.ofList piece.lexeme, offset + piece.gap.length⟩ ::
      tokens (offset + piece.text.length) pieces

end Piece

/-- A text in pieces, with the blanks after the last one. -/
structure Layout where
  pieces : List Piece
  tail : List Char

namespace Layout

/-- The characters of the text. -/
def text (layout : Layout) : List Char :=
  layout.pieces.flatMap Piece.text ++ layout.tail

/-- The tokens of the text, each with the number of characters before it, and the ending after all
characters. -/
def tokens (layout : Layout) : List Token :=
  Piece.tokens 0 layout.pieces ++ [endingAt layout.text.length]

/-- A text begins with the blanks and the lexeme of its first piece. -/
theorem text_cons (piece : Piece) (pieces : List Piece) (tail : List Char) :
    text ⟨piece :: pieces, tail⟩ = piece.gap ++ (piece.lexeme ++ text ⟨pieces, tail⟩) := by
  simp [text, Piece.text]

/-- Only blanks stand between the lexemes, and some do between two runs of digits. -/
structure WellSpaced (layout : Layout) : Prop where
  lexemes : ∀ piece ∈ layout.pieces, Lexeme piece.lexeme piece.kind
  gaps : ∀ piece ∈ layout.pieces, ∀ c ∈ piece.gap, Text.isBlank c = true
  tail : ∀ c ∈ layout.tail, Text.isBlank c = true
  apart : layout.pieces.IsChain Piece.Apart

end Layout

section Lexeme

variable {chars : List Char} {kind : Kind}

/-- Every lexeme has a character. -/
theorem Lexeme.ne_nil (lexeme : Lexeme chars kind) : chars ≠ [] := by
  cases lexeme with
  | number some isDigit => exact some
  | _ => simp

/-- No lexeme has a blank in it. -/
theorem Lexeme.isBlank_eq_false (lexeme : Lexeme chars kind) {c : Char} (member : c ∈ chars) :
    Text.isBlank c = false := by
  cases lexeme with
  | number some isDigit => exact Text.isBlank_eq_false_of_isDigit (isDigit c member)
  | keepHighest | keepLowest =>
    simp only [List.mem_cons, List.not_mem_nil, or_false] at member
    rcases member with rfl | rfl <;> decide
  | operator op =>
    rw [List.mem_singleton] at member
    subst member
    cases op <;> decide
  | _ =>
    rw [List.mem_singleton] at member
    subst member
    decide

/-- A lexeme that begins with a digit is a number. -/
theorem Lexeme.number_of_isDigit {c : Char} (lexeme : Lexeme (c :: chars) kind)
    (isDigit : c.isDigit = true) : ∃ value, kind = .number value := by
  cases lexeme with
  | number => exact ⟨_, rfl⟩
  | operator op => cases op <;> cases isDigit
  | _ => cases isDigit

/-- A number begins with a digit. -/
theorem Lexeme.exists_digit {value : UInt64} (lexeme : Lexeme chars (.number value)) :
    ∃ c rest, chars = c :: rest ∧ c.isDigit = true := by
  cases lexeme with
  | number some isDigit =>
    match chars, some with
    | c :: rest, _ => exact ⟨c, rest, rfl, isDigit c List.mem_cons_self⟩

/-- A number has nothing but digits in it. -/
theorem Lexeme.isDigit_of_number {value : UInt64} (lexeme : Lexeme chars (.number value)) {c : Char}
    (member : c ∈ chars) : c.isDigit = true := by
  cases lexeme with
  | number some isDigit => exact isDigit c member

/-- No lexeme spells an ending. -/
theorem Lexeme.kind_ne_ending (lexeme : Lexeme chars kind) : kind ≠ .ending := by
  cases lexeme <;> simp

/-- A written word is a lexeme of that number. -/
theorem lexeme_text (word : UInt64) : Lexeme (Word.text word).toList (.number word) := by
  have lexeme := Lexeme.number (Word.text_toList_ne_nil word) fun c => Word.isDigit_of_mem_text
  rwa [Word.saturate_natOfDigits_text] at lexeme

/-- The letters of a keep modifier are a lexeme of it. -/
theorem lexeme_symbol (which : Keep) : Lexeme which.symbol.toList (.keep which) := by
  cases which with
  | highest => exact .keepHighest
  | lowest => exact .keepLowest

end Lexeme

/-- The text does not begin with a digit. -/
def StartsApart (chars : List Char) : Prop :=
  ∀ c ∈ chars.head?, c.isDigit = false

theorem startsApart_nil : StartsApart [] :=
  fun _ isFirst => by cases isFirst

/-- A text that begins with a blank does not begin with a digit. -/
theorem startsApart_of_isBlank {c : Char} {rest : List Char} (blank : Text.isBlank c = true) :
    StartsApart (c :: rest) := by
  intro first isFirst
  rw [List.head?_cons, Option.mem_some_iff] at isFirst
  subst isFirst
  cases digit : c.isDigit with
  | false => rfl
  | true => rw [Text.isBlank_eq_false_of_isDigit digit] at blank; cases blank

section WellSpaced

variable {piece : Piece} {pieces : List Piece} {tail : List Char}

/-- A layout is well spaced when its first piece is, apart from the next one, and the rest is. -/
theorem wellSpaced_cons :
    Layout.WellSpaced ⟨piece :: pieces, tail⟩ ↔
      Lexeme piece.lexeme piece.kind ∧ (∀ c ∈ piece.gap, Text.isBlank c = true) ∧
        (∀ next ∈ pieces.head?, piece.Apart next) ∧ Layout.WellSpaced ⟨pieces, tail⟩ := by
  constructor
  · rintro ⟨lexemes, gaps, blankTail, apart⟩
    rw [List.forall_mem_cons] at lexemes gaps
    rw [List.isChain_cons] at apart
    exact ⟨lexemes.1, gaps.1, apart.1, lexemes.2, gaps.2, blankTail, apart.2⟩
  · rintro ⟨lexeme, gap, next, lexemes, gaps, blankTail, apart⟩
    exact ⟨List.forall_mem_cons.mpr ⟨lexeme, lexemes⟩, List.forall_mem_cons.mpr ⟨gap, gaps⟩,
      blankTail, List.isChain_cons.mpr ⟨next, apart⟩⟩

/-- What follows a run of digits in a well-spaced layout does not continue it. -/
theorem Layout.WellSpaced.startsApart (spaced : Layout.WellSpaced ⟨piece :: pieces, tail⟩)
    (number : piece.IsNumber) : StartsApart (Layout.text ⟨pieces, tail⟩) := by
  obtain ⟨-, -, apart, rest⟩ := wellSpaced_cons.mp spaced
  cases pieces with
  | nil =>
    cases tail with
    | nil => exact startsApart_nil
    | cons c tail => exact startsApart_of_isBlank (rest.tail c List.mem_cons_self)
  | cons next pieces =>
    obtain ⟨lexeme, gap, -, -⟩ := wellSpaced_cons.mp rest
    obtain ⟨nextGap, nextLexeme, nextKind⟩ := next
    cases nextGap with
    | cons c nextGap => exact startsApart_of_isBlank (gap c List.mem_cons_self)
    | nil =>
      cases nextLexeme with
      | nil => exact absurd rfl lexeme.ne_nil
      | cons c chars =>
        intro first isFirst
        simp only [Layout.text, Piece.text, List.flatMap_cons, List.nil_append, List.cons_append,
          List.head?_cons, Option.mem_some_iff] at isFirst
        subst isFirst
        cases digit : c.isDigit with
        | false => rfl
        | true => exact absurd rfl (apart _ rfl number (lexeme.number_of_isDigit digit))

end WellSpaced

end DiceLang.Token
