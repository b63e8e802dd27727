import DiceLang.Proofs.Lexing.Exactness
import DiceLang.Proofs.Reading.Language
import DiceLang.Roll

/-!
# Written expressions read back

The written form of an expression has a layout that follows its tree, so its tokens are known
whether or not the grammar would group them that way. The grammar does so exactly when the
expression is canonical: then its own kinds spell it, and it is read back. No other expression is
ever read, from whatever tokens.
-/

namespace DiceLang

open Token

/-- The pieces of a dice term, the first of them behind a gap. -/
def Dice.pieces (gap : List Char) (term : Dice) : List Piece :=
  [⟨gap, (Word.text term.count).toList, .number term.count⟩, ⟨[], ['d'], .dice⟩,
    ⟨[], (Word.text term.sides).toList, .number term.sides⟩]

/-- The kinds of the tokens of a dice term. -/
def Dice.kinds (term : Dice) : List Kind :=
  [.number term.count, .dice, .number term.sides]

namespace Expr

/-- The pieces of a written expression, the first of them behind a gap. -/
def pieces (gap : List Char) : Expr → List Piece
  | num value => [⟨gap, (Word.text value).toList, .number value⟩]
  | dice term => term.pieces gap
  | binary op left right =>
    left.pieces gap ++ ⟨[' '], [op.symbol], .operator op⟩ :: right.pieces [' ']
  | keep which term amount =>
    term.pieces gap ++ ⟨[], which.symbol.toList, .keep which⟩ :: amount.pieces []
  | group inner => ⟨gap, ['('], .parenOpen⟩ :: inner.pieces [] ++ [⟨[], [')'], .parenClose⟩]

/-- The kinds of the tokens of a written expression. -/
def kinds : Expr → List Kind
  | num value => [.number value]
  | dice term => term.kinds
  | binary op left right => left.kinds ++ .operator op :: right.kinds
  | keep which term amount => term.kinds ++ .keep which :: amount.kinds
  | group inner => .parenOpen :: inner.kinds ++ [.parenClose]

@[simp]
theorem map_kind_pieces (gap : List Char) (expr : Expr) :
    (expr.pieces gap).map Piece.kind = expr.kinds := by
  induction expr generalizing gap with
  | num value => rfl
  | dice term => rfl
  | binary op left right leftHypothesis rightHypothesis =>
    simp [pieces, kinds, leftHypothesis, rightHypothesis]
  | keep which term amount inductionHypothesis =>
    simp [pieces, kinds, Dice.pieces, Dice.kinds, inductionHypothesis]
  | group inner inductionHypothesis => simp [pieces, kinds, inductionHypothesis]

/-- The pieces make up the written form behind the gap. -/
theorem flatMap_text_pieces (gap : List Char) (expr : Expr) :
    (expr.pieces gap).flatMap Piece.text = gap ++ expr.text.toList := by
  induction expr generalizing gap with
  | num value => simp [pieces, text, Piece.text]
  | dice term => simp [pieces, text, Dice.pieces, Dice.text, Piece.text]
  | binary op left right leftHypothesis rightHypothesis =>
    simp [pieces, text, Piece.text, leftHypothesis, rightHypothesis]
  | keep which term amount inductionHypothesis =>
    simp [pieces, text, Dice.pieces, Dice.text, Piece.text, inductionHypothesis]
  | group inner inductionHypothesis => simp [pieces, text, Piece.text, inductionHypothesis]

section wellSpaced

variable {left right : List Piece} {gap chars : List Char} {kind : Kind}

/-- Pieces that a lexeme other than a number joins are well spaced together. -/
theorem wellSpaced_join (leftSpaced : Layout.WellSpaced ⟨left, []⟩) (lexeme : Lexeme chars kind)
    (blank : ∀ c ∈ gap, Text.isBlank c = true) (noNumber : ∀ value, kind ≠ .number value)
    (rightSpaced : Layout.WellSpaced ⟨right, []⟩) :
    Layout.WellSpaced ⟨left ++ ⟨gap, chars, kind⟩ :: right, []⟩ where
  lexemes := List.forall_mem_append.mpr
    ⟨leftSpaced.lexemes, List.forall_mem_cons.mpr ⟨lexeme, rightSpaced.lexemes⟩⟩
  gaps := List.forall_mem_append.mpr
    ⟨leftSpaced.gaps, List.forall_mem_cons.mpr ⟨blank, rightSpaced.gaps⟩⟩
  tail := leftSpaced.tail
  apart := by
    have free : ¬ Piece.IsNumber ⟨gap, chars, kind⟩ := fun isNumber =>
      noNumber isNumber.choose isNumber.choose_spec
    rw [List.isChain_append, List.isChain_cons]
    refine ⟨leftSpaced.apart, ⟨fun _ _ isNumber => absurd isNumber free, rightSpaced.apart⟩, ?_⟩
    intro last _ next isNext _ isNumber
    rw [List.head?_cons, Option.mem_some_iff] at isNext
    exact absurd (isNext ▸ isNumber) free

/-- No pieces at all are well spaced. -/
theorem wellSpaced_nil : Layout.WellSpaced ⟨[], []⟩ :=
  ⟨by simp, by simp, by simp, .nil⟩

/-- A single piece is well spaced. -/
theorem wellSpaced_single (lexeme : Lexeme chars kind)
    (blank : ∀ c ∈ gap, Text.isBlank c = true) :
    Layout.WellSpaced ⟨[⟨gap, chars, kind⟩], []⟩ :=
  ⟨by simpa using lexeme, by simpa using blank, by simp, .singleton _⟩

/-- The pieces of a dice term are well spaced. -/
theorem wellSpaced_dice (blank : ∀ c ∈ gap, Text.isBlank c = true) (term : Dice) :
    Layout.WellSpaced ⟨term.pieces gap, []⟩ := by
  have count := wellSpaced_single (lexeme_text term.count) blank
  have sides := wellSpaced_single (lexeme_text term.sides) (List.forall_mem_nil _)
  exact wellSpaced_join count .dice (List.forall_mem_nil _) (by simp) sides

/-- The pieces of a written expression are well spaced. -/
theorem wellSpaced_pieces (blank : ∀ c ∈ gap, Text.isBlank c = true) (expr : Expr) :
    Layout.WellSpaced ⟨expr.pieces gap, []⟩ := by
  have space : ∀ c ∈ [' '], Text.isBlank c = true := List.forall_mem_singleton.mpr (by decide)
  induction expr generalizing gap with
  | num value => exact wellSpaced_single (lexeme_text value) blank
  | dice term => exact wellSpaced_dice blank term
  | binary op left right leftHypothesis rightHypothesis =>
    exact wellSpaced_join (leftHypothesis blank) (.operator op) space (by simp)
      (rightHypothesis space)
  | keep which term amount inductionHypothesis =>
    exact wellSpaced_join (wellSpaced_dice blank term) (lexeme_symbol which)
      (List.forall_mem_nil _) (by simp) (inductionHypothesis (List.forall_mem_nil _))
  | group inner inductionHypothesis =>
    have opened := wellSpaced_join wellSpaced_nil .parenOpen blank (by simp)
      (inductionHypothesis (List.forall_mem_nil _))
    exact wellSpaced_join opened .parenClose (List.forall_mem_nil _) (by simp) wellSpaced_nil

end wellSpaced

/-- The tokens of a written expression have its kinds, and the ending closes them. -/
theorem lex_text (expr : Expr) :
    ∃ front last, lex expr.text = .ok (front ++ [last]) ∧ front.map Token.kind = expr.kinds ∧
      last.kind = .ending := by
  refine ⟨Piece.tokens 0 (expr.pieces []), endingAt (0 + expr.text.toList.length), ?_, ?_, rfl⟩
  · rw [lex_eq_ok_iff_laidOut]
    refine ⟨⟨expr.pieces [], []⟩, wellSpaced_pieces (List.forall_mem_nil _) expr, ?_, rfl⟩
    rw [Layout.text, flatMap_text_pieces, List.nil_append, List.append_nil]
  · rw [map_kind_tokens, map_kind_pieces]

/-- What is spelled at a precedence is spelled at every looser one. -/
theorem Spells.loosen {level tight : Precedence} {kinds : List Kind} {expr : Expr}
    (looser : level.rank ≤ tight.rank) (spelled : Spells tight kinds expr) :
    Spells level kinds expr := by
  cases tight with
  | sum =>
    cases level with
    | sum => exact spelled
    | product | primary => simp [Precedence.rank] at looser
  | product =>
    cases level with
    | sum => exact .tighter (by simp) spelled
    | product => exact spelled
    | primary => simp [Precedence.rank] at looser
  | primary =>
    cases level with
    | sum => exact .tighter (by simp) (.tighter (by simp [Precedence.tighter]) spelled)
    | product => exact .tighter (by simp) spelled
    | primary => exact spelled

/-- The kinds of a canonical expression spell it as tightly as it holds together. -/
theorem spells_kinds {expr : Expr} (canonical : expr.Canonical) :
    Spells expr.precedence expr.kinds expr := by
  induction expr with
  | num value => exact .num value
  | dice term => exact .dice (.counted term.count term.sides)
  | binary op left right leftHypothesis rightHypothesis =>
    obtain ⟨leftCanonical, rightCanonical, leftRank, rightRank⟩ := canonical
    have loose : op.precedence ≠ .primary := by cases op <;> simp [Operator.precedence]
    have leftSpelled := (leftHypothesis leftCanonical).loosen leftRank
    have rightSpelled : Spells op.precedence.tighter right.kinds right :=
      (rightHypothesis rightCanonical).loosen (by rw [rank_tighter loose]; exact rightRank)
    exact .chain leftSpelled rightSpelled
  | keep which term amount inductionHypothesis =>
    obtain ⟨amountCanonical, primary⟩ := canonical
    have amountSpelled := inductionHypothesis amountCanonical
    rw [primary] at amountSpelled
    exact .keep which (.counted term.count term.sides) amountSpelled
  | group inner inductionHypothesis =>
    exact .group ((inductionHypothesis canonical).loosen (Nat.zero_le _))

/-- Whatever is read, from any tokens, is canonical. -/
theorem parse_canonical {tokens : List Token} {parsed : Parsed}
    (ok : parse tokens = .ok parsed) : parsed.expr.Canonical := by
  have faithful := (faithfulAt (depthBound tokens)).read .sum tokens
  rw [parse_eq_ok ok] at faithful
  obtain ⟨seen, walk, complete⟩ := faithful
  exact complete.spelled.canonical

/-- A text reads as an expression exactly if its tokens do. -/
theorem ofText_eq_ok_iff {text : String} {parsed : Parsed} :
    ofText text = .ok parsed ↔ ∃ tokens, lex text = .ok tokens ∧ parse tokens = .ok parsed := by
  unfold ofText
  cases lexed : lex text with
  | error error => simp
  | ok tokens => cases answer : parse tokens <;> simp [answer]

/-- A canonical expression is read back from its written form, and nothing is left over. -/
theorem ofText_text {expr : Expr} (canonical : expr.Canonical) :
    ∃ last : Token, last.kind = .ending ∧ ofText expr.text = .ok ⟨expr, [last]⟩ := by
  obtain ⟨front, last, lexed, kinds, isEnding⟩ := lex_text expr
  have spelled : Spells .sum (front.map Token.kind) expr := by
    rw [kinds]
    exact (spells_kinds canonical).loosen (Nat.zero_le _)
  refine ⟨last, isEnding, ?_⟩
  rw [ofText, lexed]
  simp only [parse_complete spelled isEnding]

/-- Writing and reading are inverse exactly on the canonical expressions: an expression is read
back from its written form if and only if it is canonical, and whatever is read from any tokens is
canonical. -/
theorem text_reads_back_iff_canonical :
    (∀ expr : Expr, (ofText expr.text).map Parsed.expr = .ok expr ↔ expr.Canonical) ∧
    ∀ tokens parsed, parse tokens = .ok parsed → parsed.expr.Canonical := by
  refine ⟨fun expr => ⟨?_, ?_⟩, fun tokens parsed => parse_canonical⟩
  · intro readBack
    unfold ofText at readBack
    split at readBack
    · cases readBack
    · split at readBack
      · cases readBack
      · rename_i parsed ok
        have same : parsed.expr = expr := Except.ok.inj readBack
        rw [← same]
        exact parse_canonical ok
  · intro canonical
    obtain ⟨last, -, read⟩ := ofText_text canonical
    rw [read]
    rfl

/-- A keep modifier in the amount of another one reads back, and a sum in its place does not. -/
theorem text_reads_back_iff_canonical_amount :
    (ofText (keep .highest ⟨2, 6⟩ (keep .lowest ⟨1, 4⟩ (num 2))).text).map Parsed.expr =
      .ok (keep .highest ⟨2, 6⟩ (keep .lowest ⟨1, 4⟩ (num 2))) ∧
    (ofText (keep .highest ⟨2, 6⟩ (binary .add (num 1) (num 2))).text).map Parsed.expr ≠
      .ok (keep .highest ⟨2, 6⟩ (binary .add (num 1) (num 2))) := by
  constructor
  · refine (text_reads_back_iff_canonical.1 _).mpr ⟨⟨trivial, rfl⟩, rfl⟩
  · intro readBack
    have canonical := (text_reads_back_iff_canonical.1 _).mp readBack
    cases canonical.2

end Expr

end DiceLang
