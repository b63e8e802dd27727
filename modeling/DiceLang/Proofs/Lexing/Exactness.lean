import DiceLang.Proofs.Lexing.Recovery

/-!
# Scanning is exact

Scanning a text answers its lexemes in order and nothing else: exactly the texts with a layout can
be scanned, and every layout of a text has the tokens that scanning answers. Nothing of the text is
lost but its blanks, and the tokens stand where they were written.
-/

namespace DiceLang.Token

/-- Behind so many characters, the text has a layout with these tokens. -/
def LaidOut (offset : Nat) (chars : List Char) (tokens : List Token) : Prop :=
  ∃ layout : Layout, layout.WellSpaced ∧ layout.text = chars ∧
    tokens = Piece.tokens offset layout.pieces ++ [endingAt (offset + chars.length)]

namespace LaidOut

variable {offset : Nat} {chars rest : List Char} {kind : Kind} {tokens : List Token}

/-- An empty text is laid out with its ending alone. -/
theorem empty : LaidOut offset [] [endingAt offset] :=
  ⟨⟨[], []⟩, ⟨by simp, by simp, by simp, .nil⟩, rfl, rfl⟩

/-- Blanks before a text only move its tokens. -/
theorem gap {gap : List Char} (blank : ∀ c ∈ gap, Text.isBlank c = true)
    (laidOut : LaidOut (offset + gap.length) rest tokens) : LaidOut offset (gap ++ rest) tokens := by
  obtain ⟨⟨pieces, tail⟩, spaced, rfl, rfl⟩ := laidOut
  cases pieces with
  | nil =>
    refine ⟨⟨[], gap ++ tail⟩, ⟨by simp, by simp, ?_, .nil⟩, rfl, ?_⟩
    · exact List.forall_mem_append.mpr ⟨blank, spaced.tail⟩
    · simp [Layout.text, Piece.tokens, Nat.add_assoc]
  | cons piece pieces =>
    obtain ⟨lexeme, gapBlank, apart, others⟩ := wellSpaced_cons.mp spaced
    refine ⟨⟨{ piece with gap := gap ++ piece.gap } :: pieces, tail⟩, ?_, ?_, ?_⟩
    · exact wellSpaced_cons.mpr
        ⟨lexeme, List.forall_mem_append.mpr ⟨blank, gapBlank⟩, fun next isNext number nextNumber =>
          apart next isNext number nextNumber, others⟩
    · simp [Layout.text, Piece.text]
    · simp [Layout.text, Piece.tokens, Piece.text, Nat.add_assoc]

/-- A lexeme before a text is one more token, if the text does not continue its digits. -/
theorem lexeme (spelled : Lexeme chars kind)
    (separate : (∃ value, kind = .number value) → StartsApart rest)
    (laidOut : LaidOut (offset + chars.length) rest tokens) :
    LaidOut offset (chars ++ rest) (⟨kind, String.ofList chars, offset⟩ :: tokens) := by
  obtain ⟨⟨pieces, tail⟩, spaced, rfl, rfl⟩ := laidOut
  refine ⟨⟨⟨[], chars, kind⟩ :: pieces, tail⟩, ?_, ?_, ?_⟩
  · refine wellSpaced_cons.mpr ⟨spelled, by simp, ?_, spaced⟩
    intro next isNext number nextNumber noGap
    obtain ⟨value, isNumber⟩ := nextNumber
    cases pieces with
    | nil => cases isNext
    | cons first pieces =>
      rw [List.head?_cons, Option.mem_some_iff] at isNext
      subst isNext
      have nextSpelled := (wellSpaced_cons.mp spaced).1
      rw [isNumber] at nextSpelled
      obtain ⟨c, digits, shape, isDigit⟩ := nextSpelled.exists_digit
      have notDigit := separate number c (by simp [Layout.text, Piece.text, noGap, shape])
      rw [isDigit] at notDigit
      cases notDigit
  · simp [Layout.text, Piece.text]
  · simp [Piece.tokens, Piece.text, Nat.add_assoc]

end LaidOut

section scan

variable {offset : Nat} {chars : List Char} {tokens : List Token}

/-- What is scanned behind a lexeme is scanned with the lexeme before it. -/
theorem scan_of_laidOut (laidOut : LaidOut offset chars tokens) :
    scan offset chars = .ok tokens := by
  obtain ⟨⟨pieces, tail⟩, spaced, rfl, rfl⟩ := laidOut
  induction pieces generalizing offset with
  | nil =>
    have skipped : scan offset (tail ++ []) = _ := scan_gap spaced.tail offset
    rw [List.append_nil] at skipped
    simp [Layout.text, Piece.tokens, skipped, scan]
  | cons piece pieces inductionHypothesis =>
    obtain ⟨lexeme, gap, apart, others⟩ := wellSpaced_cons.mp spaced
    rw [Layout.text_cons, scan_gap gap, scan_lexeme lexeme spaced.startsApart,
      inductionHypothesis others]
    simp [Except.map, Piece.tokens, Piece.text, Nat.add_assoc]

/-- What is scanned has a layout. -/
theorem laidOut_of_scan (ok : scan offset chars = .ok tokens) : LaidOut offset chars tokens := by
  induction chars using openingInduction generalizing offset tokens with
  | blank gap blank =>
    rw [← List.append_nil gap, scan_gap blank, scan] at ok
    cases ok
    have laidOut : LaidOut offset (gap ++ []) [endingAt (offset + gap.length)] := .gap blank .empty
    rwa [List.append_nil] at laidOut
  | stuck gap front rest blank stuck unread =>
    rw [scan_gap blank, scan_stuck stuck unread] at ok
    cases ok
  | lexeme gap chars rest kind blank spelled apart inductionHypothesis =>
    rw [scan_gap blank, scan_lexeme spelled apart] at ok
    cases scanned : scan (offset + gap.length + chars.length) rest with
    | ok others =>
      rw [scanned] at ok
      cases ok
      exact .gap blank (.lexeme spelled apart (inductionHypothesis scanned))
    | error misfit =>
      rw [scanned] at ok
      cases ok

end scan

section Piece

variable {pieces : List Piece} {offset : Nat}

/-- The tokens of some pieces have the kinds of the pieces. -/
@[simp]
theorem map_kind_tokens (offset : Nat) (pieces : List Piece) :
    (Piece.tokens offset pieces).map Token.kind = pieces.map Piece.kind := by
  induction pieces generalizing offset with
  | nil => rfl
  | cons piece pieces inductionHypothesis => simp [Piece.tokens, inductionHypothesis]

/-- The tokens of some pieces have the lexemes of the pieces. -/
@[simp]
theorem map_lexeme_tokens (offset : Nat) (pieces : List Piece) :
    (Piece.tokens offset pieces).map Token.lexeme =
      pieces.map fun piece => String.ofList piece.lexeme := by
  induction pieces generalizing offset with
  | nil => rfl
  | cons piece pieces inductionHypothesis => simp [Piece.tokens, inductionHypothesis]

/-- The tokens of some pieces are written as lexemes of their kinds. -/
theorem lexeme_of_mem_tokens (lexemes : ∀ piece ∈ pieces, Lexeme piece.lexeme piece.kind)
    {token : Token} (member : token ∈ Piece.tokens offset pieces) :
    Lexeme token.lexeme.toList token.kind := by
  induction pieces generalizing offset with
  | nil => cases member
  | cons piece pieces inductionHypothesis =>
    rw [List.forall_mem_cons] at lexemes
    rcases List.mem_cons.mp member with rfl | later
    · rw [String.toList_ofList]
      exact lexemes.1
    · exact inductionHypothesis lexemes.2 later

/-- The tokens of some pieces stand behind what is before the pieces. -/
theorem offset_le_of_mem_tokens {token : Token} (member : token ∈ Piece.tokens offset pieces) :
    offset ≤ token.offset := by
  induction pieces generalizing offset with
  | nil => cases member
  | cons piece pieces inductionHypothesis =>
    rcases List.mem_cons.mp member with rfl | later
    · exact Nat.le_add_right offset _
    · exact Nat.le_trans (Nat.le_add_right offset _) (inductionHypothesis later)

/-- Every token of a text stands behind the one before it, and the ending behind all of them. -/
theorem pairwise_offset_tokens (some : ∀ piece ∈ pieces, piece.lexeme ≠ []) {last : Nat}
    (behind : offset + (pieces.flatMap Piece.text).length ≤ last) :
    (Piece.tokens offset pieces ++ [endingAt last]).Pairwise fun first second =>
      first.offset < second.offset := by
  induction pieces generalizing offset with
  | nil => simp [Piece.tokens]
  | cons piece pieces inductionHypothesis =>
    rw [List.forall_mem_cons] at some
    have positive := List.length_pos_iff.mpr some.1
    simp only [List.flatMap_cons, List.length_append, Piece.text] at behind
    have length : piece.text.length = piece.gap.length + piece.lexeme.length := by
      simp [Piece.text]
    rw [Piece.tokens, List.cons_append, List.pairwise_cons]
    refine ⟨fun token member => ?_, inductionHypothesis some.2 (by omega)⟩
    rcases List.mem_append.mp member with later | isLast
    · have := offset_le_of_mem_tokens later
      simp only
      omega
    · rw [List.mem_singleton.mp isLast]
      simp only [endingAt]
      omega

end Piece

namespace LaidOut

variable {offset : Nat} {chars : List Char} {tokens : List Token}

/-- The tokens of a text are closed by the ending, and none before it is one. -/
theorem terminated (laidOut : LaidOut offset chars tokens) : Terminated tokens := by
  obtain ⟨layout, spaced, -, rfl⟩ := laidOut
  refine ⟨_, _, rfl, rfl, fun token member => ?_⟩
  exact (lexeme_of_mem_tokens spaced.lexemes member).kind_ne_ending

/-- Every token of a text but its ending is written as a lexeme of its kind. -/
theorem lexeme_of_mem (laidOut : LaidOut offset chars tokens) {token : Token}
    (member : token ∈ tokens) (notEnding : token.kind ≠ .ending) :
    Lexeme token.lexeme.toList token.kind := by
  obtain ⟨layout, spaced, -, rfl⟩ := laidOut
  rcases List.mem_append.mp member with inPieces | isLast
  · exact lexeme_of_mem_tokens spaced.lexemes inPieces
  · rw [List.mem_singleton.mp isLast] at notEnding
    exact absurd rfl notEnding

/-- The tokens of a text stand one behind the other. -/
theorem pairwise_offset (laidOut : LaidOut offset chars tokens) :
    tokens.Pairwise fun first second => first.offset < second.offset := by
  obtain ⟨layout, spaced, rfl, rfl⟩ := laidOut
  refine pairwise_offset_tokens (fun piece member => (spaced.lexemes piece member).ne_nil) ?_
  simp [Layout.text]

/-- The lexemes of a text are all of it but the blanks. -/
theorem join_lexemes (laidOut : LaidOut offset chars tokens) :
    String.join (tokens.map Token.lexeme) =
      String.ofList (chars.filter fun c => !Text.isBlank c) := by
  obtain ⟨⟨pieces, tail⟩, spaced, rfl, rfl⟩ := laidOut
  apply String.toList_injective
  have noTail : tail.filter (fun c => !Text.isBlank c) = [] :=
    List.filter_eq_nil_iff.mpr fun c member => by simp [spaced.tail c member]
  have lexemes : ∀ piece ∈ pieces,
      piece.text.filter (fun c => !Text.isBlank c) = piece.lexeme := by
    intro piece member
    have noGap : piece.gap.filter (fun c => !Text.isBlank c) = [] :=
      List.filter_eq_nil_iff.mpr fun c inGap => by simp [spaced.gaps piece member c inGap]
    have all : piece.lexeme.filter (fun c => !Text.isBlank c) = piece.lexeme :=
      List.filter_eq_self.mpr fun c inLexeme => by
        simp [(spaced.lexemes piece member).isBlank_eq_false inLexeme]
    rw [Piece.text, List.filter_append, noGap, all, List.nil_append]
  rw [String.toList_join, String.toList_ofList, Layout.text, List.filter_append, noTail,
    List.filter_flatMap, List.append_nil, List.map_append, map_lexeme_tokens,
    List.flatMap_append, List.flatMap_map]
  simp only [String.toList_ofList, List.map_singleton, endingAt, List.flatMap_singleton,
    String.toList_empty, List.append_nil]
  exact List.flatMap_congr fun piece member => (lexemes piece member).symm

end LaidOut

/-- Scanning answers these tokens for a text exactly when the text is laid out with them. -/
theorem lex_eq_ok_iff_laidOut {text : String} {tokens : List Token} :
    lex text = .ok tokens ↔ LaidOut 0 text.toList tokens := by
  rw [lex_eq_scan]
  constructor
  · intro ok
    cases scanned : scan 0 text.toList with
    | ok others =>
      rw [scanned] at ok
      cases ok
      exact laidOut_of_scan scanned
    | error misfit =>
      rw [scanned] at ok
      cases ok
  · intro laidOut
    rw [scan_of_laidOut laidOut]
    rfl

/-- Scanning is exact. A text is answered with tokens exactly when it can be cut into lexemes that
blanks keep apart, and then with the tokens of any such cut. They stand one behind the other, only
the last one is an ending, and they hold all of the text but its blanks. -/
theorem lex_exact (text : String) :
    (∀ tokens, lex text = .ok tokens ↔ ∃ layout : Layout, layout.WellSpaced ∧
      layout.text = text.toList ∧ tokens = layout.tokens) ∧
    ∀ tokens, lex text = .ok tokens →
      (tokens.Pairwise fun first second => first.offset < second.offset) ∧ Terminated tokens ∧
      String.join (tokens.map Token.lexeme) =
        String.ofList (text.toList.filter fun c => !Text.isBlank c) := by
  constructor
  · intro tokens
    rw [lex_eq_ok_iff_laidOut]
    constructor
    · rintro ⟨layout, spaced, whole, rfl⟩
      refine ⟨layout, spaced, whole, ?_⟩
      rw [Layout.tokens, whole, Nat.zero_add]
    · rintro ⟨layout, spaced, whole, rfl⟩
      refine ⟨layout, spaced, whole, ?_⟩
      rw [Layout.tokens, whole, Nat.zero_add]
  · intro tokens ok
    have laidOut := lex_eq_ok_iff_laidOut.mp ok
    exact ⟨laidOut.pairwise_offset, laidOut.terminated, laidOut.join_lexemes⟩

/-- Two numbers with a blank between them are two tokens, of which the second stands behind two
characters. -/
theorem lex_exact_two_numbers :
    lex "1 2" = .ok [⟨.number 1, "1", 0⟩, ⟨.number 2, "2", 2⟩, endingAt 3] := by
  have first : Lexeme ['1'] (.number 1) :=
    .number (List.cons_ne_nil _ _) (List.forall_mem_singleton.mpr rfl)
  have second : Lexeme ['2'] (.number 2) :=
    .number (List.cons_ne_nil _ _) (List.forall_mem_singleton.mpr rfl)
  have space : Text.isBlank ' ' = true := by decide
  have spaced : Layout.WellSpaced
      ⟨[⟨[], ['1'], .number 1⟩, ⟨[' '], ['2'], .number 2⟩], []⟩ := by
    constructor
    · simp [first, second]
    · simp [space]
    · simp
    · exact .cons_cons (fun _ _ => by simp) (.singleton _)
  exact ((lex_exact "1 2").1 _).mpr ⟨_, spaced, rfl, rfl⟩

end DiceLang.Token
