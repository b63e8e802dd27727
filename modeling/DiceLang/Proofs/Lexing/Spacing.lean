import Mathlib.Logic.Relation
import DiceLang.Proofs.Lexing.Misfits

/-!
# Spacing

The blanks of a text only keep its lexemes apart. They can be inserted wherever no token is torn
apart, replaced by others, and deleted where no two runs of digits meet: the text is cut into the
same lexemes, and only the places of its tokens change.

A text is taken apart at the place of a change. What stands before that place and what stands behind
it are texts of their own, and they can be joined again with other blanks between them.
-/

namespace DiceLang.Token

/-- The lexeme of a piece and its kind, without the blanks before it. -/
def Piece.word (piece : Piece) : List Char × Kind :=
  (piece.lexeme, piece.kind)

/-- The text can be cut into these lexemes, each of its kind, with blanks around them. -/
def CutsInto (words : List (List Char × Kind)) (chars : List Char) : Prop :=
  ∃ layout : Layout, layout.WellSpaced ∧ layout.text = chars ∧ layout.pieces.map Piece.word = words

/-- The lexeme of a token and its kind, wherever it stands. -/
def word (token : Token) : List Char × Kind :=
  (token.lexeme.toList, token.kind)

/-- The tokens of some pieces have their lexemes and kinds. -/
theorem map_word_tokens (offset : Nat) (pieces : List Piece) :
    (Piece.tokens offset pieces).map word = pieces.map Piece.word := by
  induction pieces generalizing offset with
  | nil => rfl
  | cons piece pieces inductionHypothesis =>
    simp [Piece.tokens, inductionHypothesis, word, Piece.word]

/-- A token is told by its word, but for its place. -/
theorem map_kind_lexeme_of_map_word {tokens others : List Token}
    (same : others.map word = tokens.map word) :
    others.map Token.kind = tokens.map Token.kind ∧
      others.map Token.lexeme = tokens.map Token.lexeme := by
  have kinds := congrArg (List.map Prod.snd) same
  have lexemes := congrArg (List.map fun word => String.ofList word.1) same
  simp only [List.map_map, Function.comp_def, word, String.ofList_toList] at kinds lexemes
  exact ⟨kinds, lexemes⟩

/-- The tokens of a text are one for each of its lexemes, and the ending. -/
theorem LaidOut.cutsInto {offset : Nat} {chars : List Char} {tokens : List Token}
    (laidOut : LaidOut offset chars tokens) :
    ∃ words, CutsInto words chars ∧ tokens.map word = words ++ [([], .ending)] := by
  obtain ⟨layout, spaced, whole, rfl⟩ := laidOut
  refine ⟨_, ⟨layout, spaced, whole, rfl⟩, ?_⟩
  simp [map_word_tokens, word, endingAt]

/-- A text that can be cut into lexemes is scanned to the tokens of these. -/
theorem exists_lex_of_cutsInto {text : String} {words : List (List Char × Kind)}
    (cuts : CutsInto words text.toList) :
    ∃ tokens, lex text = .ok tokens ∧ tokens.map word = words ++ [([], .ending)] := by
  obtain ⟨layout, spaced, whole, rfl⟩ := cuts
  refine ⟨_, lex_eq_ok_iff_laidOut.mpr ⟨layout, spaced, whole, rfl⟩, ?_⟩
  simp [map_word_tokens, word, endingAt]

namespace CutsInto

variable {words early late : List (List Char × Kind)} {chars rest front gap : List Char}
  {kind : Kind}

/-- Where a text stands does not matter for how it is cut. -/
theorem iff_scan (offset : Nat) :
    CutsInto words chars ↔
      ∃ tokens, scan offset chars = .ok tokens ∧ tokens.map word = words ++ [([], .ending)] := by
  constructor
  · rintro ⟨layout, spaced, whole, rfl⟩
    refine ⟨_, scan_of_laidOut ⟨layout, spaced, whole, rfl⟩, ?_⟩
    simp [map_word_tokens, word, endingAt]
  · rintro ⟨tokens, scanned, same⟩
    obtain ⟨others, cuts, sameOthers⟩ := (laidOut_of_scan scanned).cutsInto
    rw [same] at sameOthers
    rwa [List.append_cancel_right sameOthers]

/-- Blanks before a text do not matter. -/
theorem gap_append (blank : ∀ c ∈ gap, Text.isBlank c = true) :
    CutsInto words (gap ++ rest) ↔ CutsInto words rest := by
  rw [iff_scan 0, iff_scan (0 + gap.length), scan_gap blank]

/-- A lexeme before a text is one more lexeme, if the text does not continue its digits. -/
theorem lexeme_append (lexeme : Lexeme chars kind)
    (apart : (∃ value, kind = .number value) → StartsApart rest) (cuts : CutsInto words rest) :
    CutsInto ((chars, kind) :: words) (chars ++ rest) := by
  obtain ⟨tokens, scanned, same⟩ := (iff_scan (0 + chars.length)).mp cuts
  refine (iff_scan 0).mpr ⟨⟨kind, String.ofList chars, 0⟩ :: tokens, ?_, ?_⟩
  · rw [scan_lexeme lexeme apart, scanned]
    rfl
  · simp [same, word]

/-- Blanks alone hold no lexeme. -/
theorem of_blank (blank : ∀ c ∈ gap, Text.isBlank c = true) : CutsInto [] gap :=
  ⟨⟨[], gap⟩, ⟨by simp, by simp, blank, .nil⟩, rfl, rfl⟩

/-- Two texts are joined to one with the lexemes of both, if no digits meet. -/
theorem append (first : CutsInto early front) (second : CutsInto late rest)
    (apart : (∃ c ∈ front.getLast?, c.isDigit = true) → StartsApart rest) :
    CutsInto (early ++ late) (front ++ rest) := by
  obtain ⟨⟨pieces, tail⟩, spaced, rfl, rfl⟩ := first
  induction pieces with
  | nil => exact (gap_append spaced.tail).mpr second
  | cons piece pieces inductionHypothesis =>
    obtain ⟨lexeme, gap, -, others⟩ := wellSpaced_cons.mp spaced
    rw [Layout.text_cons] at apart
    rw [Layout.text_cons, List.append_assoc, List.append_assoc, List.map_cons, List.cons_append]
    refine (gap_append gap).mpr (lexeme_append lexeme ?_ (inductionHypothesis others ?_))
    · intro number
      have apartOthers := spaced.startsApart number
      cases behind : Layout.text ⟨pieces, tail⟩ with
      | cons c chars =>
        rw [behind] at apartOthers
        exact apartOthers.of_head? rfl
      | nil =>
        -- Nothing follows the number in its own text, so it is the number that meets the other one.
        obtain ⟨value, isNumber⟩ := number
        obtain ⟨last, isLast⟩ := Option.ne_none_iff_exists'.mp
          (List.getLast?_eq_none_iff.not.mpr lexeme.ne_nil)
        have isDigit := (isNumber ▸ lexeme).isDigit_of_number (List.mem_of_getLast? isLast)
        exact apart ⟨last, by simp [behind, isLast], isDigit⟩
    · rintro ⟨last, isLast, isDigit⟩
      refine apart ⟨last, ?_, isDigit⟩
      rw [Option.mem_def] at isLast ⊢
      simp [List.getLast?_append, isLast]

end CutsInto

/-- The place behind so many characters is in the middle of one of the tokens. -/
def Inside (tokens : List Token) (place : Nat) : Prop :=
  ∃ token ∈ tokens, token.offset < place ∧ place < token.offset + token.lexeme.length

/-- Of two places in a text, the second is not before the first, or a character stands behind it in
what is before the first. -/
theorem append_cases {first second front rest : List Char} (whole : first ++ second = front ++ rest) :
    (∃ further, front = first ++ further ∧ second = further ++ rest) ∨
      ∃ c left, first = front ++ c :: left ∧ rest = c :: left ++ second := by
  rcases List.append_eq_append_iff.mp whole with further | ⟨left, rfl, rfl⟩
  · exact .inl further
  · cases left with
    | nil => exact .inl ⟨[], by simp, rfl⟩
    | cons c left => exact .inr ⟨c, left, rfl, rfl⟩

/-- A well-spaced text can be taken apart at any place that is not in the middle of a token. No blank
stands behind a place in the middle of a token. -/
theorem Layout.WellSpaced.cut {layout : Layout} {front rest : List Char}
    (spaced : layout.WellSpaced) (whole : layout.text = front ++ rest) (offset : Nat) :
    (∃ early late, CutsInto early front ∧ CutsInto late rest ∧
      layout.pieces.map Piece.word = early ++ late) ∨
    Inside (Piece.tokens offset layout.pieces) (offset + front.length) ∧
      ∀ c ∈ rest.head?, Text.isBlank c = false := by
  obtain ⟨pieces, tail⟩ := layout
  induction pieces generalizing offset front with
  | nil =>
    have blank : ∀ c ∈ front ++ rest, Text.isBlank c = true := whole ▸ spaced.tail
    rw [List.forall_mem_append] at blank
    exact .inl ⟨[], [], .of_blank blank.1, .of_blank blank.2, rfl⟩
  | cons piece pieces inductionHypothesis =>
    by_cases blank : ∀ c ∈ front, Text.isBlank c = true
    · exact .inl ⟨[], _, .of_blank blank,
        (CutsInto.gap_append blank).mp ⟨_, spaced, whole, rfl⟩, rfl⟩
    obtain ⟨lexeme, gap, -, others⟩ := wellSpaced_cons.mp spaced
    rw [Layout.text_cons] at whole
    rcases append_cases whole with ⟨begun, rfl, inLexeme⟩ | ⟨c, left, inGap, -⟩
    · rcases append_cases inLexeme with ⟨further, rfl, later⟩ | ⟨c, left, torn, rfl⟩
      · -- The place is behind the first lexeme.
        rcases inductionHypothesis (offset + piece.text.length) others later with
          ⟨early, late, cutsEarly, cutsLate, words⟩ | ⟨⟨token, member, around⟩, noBlank⟩
        · have apart (number : piece.IsNumber) : StartsApart further := by
            have apartOthers := spaced.startsApart number
            rw [later] at apartOthers
            simpa using apartOthers.replace startsApart_nil
          refine .inl ⟨piece.word :: early, late, ?_, cutsLate, by simp [words]⟩
          exact (CutsInto.gap_append gap).mpr (.lexeme_append lexeme apart cutsEarly)
        · refine .inr ⟨⟨token, List.mem_cons_of_mem _ member, ?_⟩, noBlank⟩
          rw [Piece.text, List.length_append] at around
          rw [List.length_append, List.length_append]
          omega
      · -- The place is in the middle of the first lexeme.
        have some : begun ≠ [] := by
          rintro rfl
          exact blank (by simpa using gap)
        have length := congrArg List.length torn
        rw [List.length_append, List.length_cons] at length
        have positive := List.length_pos_iff.mpr some
        refine .inr ⟨⟨_, List.mem_cons_self, ?_, ?_⟩, ?_⟩
        · simp only [List.length_append]
          omega
        · simp only [List.length_append, String.length_ofList]
          omega
        · intro first isFirst
          rw [List.cons_append, List.head?_cons, Option.mem_some_iff] at isFirst
          subst isFirst
          exact lexeme.isBlank_eq_false (torn ▸ by simp)
    · rw [inGap, List.forall_mem_append] at gap
      exact absurd gap.1 blank

/-- One change of the blanks of a text. -/
inductive Respaced : String → String → Prop where
  /-- Blanks are inserted where no token is torn apart: before, after or between the tokens. -/
  | insert {front run rest : List Char} {tokens : List Token}
    (lexed : lex (String.ofList (front ++ rest)) = .ok tokens)
    (between : ¬ Inside tokens front.length) (blank : ∀ c ∈ run, Text.isBlank c = true)
    (some : run ≠ []) :
    Respaced (String.ofList (front ++ rest)) (String.ofList (front ++ (run ++ rest)))
  /-- Blanks are replaced by others. -/
  | replace {front old run rest : List Char} (blankOld : ∀ c ∈ old, Text.isBlank c = true)
    (someOld : old ≠ []) (blank : ∀ c ∈ run, Text.isBlank c = true) (some : run ≠ []) :
    Respaced (String.ofList (front ++ (old ++ rest))) (String.ofList (front ++ (run ++ rest)))
  /-- Blanks that do not separate two runs of digits are deleted. -/
  | delete {front old rest : List Char} (blankOld : ∀ c ∈ old, Text.isBlank c = true)
    (someOld : old ≠ [])
    (apart : ¬ ((∃ c ∈ front.getLast?, c.isDigit = true) ∧ ∃ c ∈ rest.head?, c.isDigit = true)) :
    Respaced (String.ofList (front ++ (old ++ rest))) (String.ofList (front ++ rest))

section Respaced

variable {words : List (List Char × Kind)} {front old run rest : List Char} {text other : String}
  {tokens : List Token}

/-- A text that begins with some blanks does not begin with a digit. -/
theorem startsApart_append (blank : ∀ c ∈ run, Text.isBlank c = true) (some : run ≠ [])
    (rest : List Char) : StartsApart (run ++ rest) := by
  match run, some with
  | c :: run, _ => exact startsApart_of_isBlank (blank c List.mem_cons_self)

/-- A text can be taken apart before a blank. -/
theorem CutsInto.exists_cut (cuts : CutsInto words (front ++ (old ++ rest)))
    (blankOld : ∀ c ∈ old, Text.isBlank c = true) (someOld : old ≠ []) :
    ∃ early late, CutsInto early front ∧ CutsInto late (old ++ rest) ∧ words = early ++ late := by
  obtain ⟨layout, spaced, whole, rfl⟩ := cuts
  refine (spaced.cut whole 0).resolve_right ?_
  rintro ⟨-, noBlank⟩
  match old, someOld with
  | c :: old, _ =>
    have isBlank := blankOld c List.mem_cons_self
    rw [noBlank c rfl] at isBlank
    cases isBlank

/-- A scanned text can be taken apart between its tokens. -/
theorem CutsInto.exists_cut_of_lex (cuts : CutsInto words (front ++ rest))
    (lexed : lex (String.ofList (front ++ rest)) = .ok tokens)
    (between : ¬ Inside tokens front.length) :
    ∃ early late, CutsInto early front ∧ CutsInto late rest ∧ words = early ++ late := by
  obtain ⟨layout, spaced, whole, rfl⟩ := cuts
  refine (spaced.cut whole 0).resolve_right ?_
  rintro ⟨⟨token, member, around⟩, -⟩
  have laidOut : LaidOut 0 (String.ofList (front ++ rest)).toList _ :=
    ⟨layout, spaced, by rw [whole, String.toList_ofList], rfl⟩
  rw [lex_eq_ok_iff_laidOut.mpr laidOut, Except.ok.injEq] at lexed
  rw [Nat.zero_add] at around
  exact between ⟨token, lexed ▸ List.mem_append_left _ member, around⟩

/-- A change of its blanks leaves a text with the same lexemes. -/
theorem Respaced.cutsInto (respaced : Respaced text other) (cuts : CutsInto words text.toList) :
    CutsInto words other.toList := by
  cases respaced with
  | insert lexed between blank some =>
    rw [String.toList_ofList] at cuts ⊢
    obtain ⟨early, late, cutsFront, cutsRest, rfl⟩ := cuts.exists_cut_of_lex lexed between
    exact cutsFront.append ((CutsInto.gap_append blank).mpr cutsRest)
      fun _ => startsApart_append blank some _
  | replace blankOld someOld blank some =>
    rw [String.toList_ofList] at cuts ⊢
    obtain ⟨early, late, cutsFront, cutsRest, rfl⟩ := cuts.exists_cut blankOld someOld
    rw [CutsInto.gap_append blankOld] at cutsRest
    exact cutsFront.append ((CutsInto.gap_append blank).mpr cutsRest)
      fun _ => startsApart_append blank some _
  | delete blankOld someOld apart =>
    rw [String.toList_ofList] at cuts ⊢
    obtain ⟨early, late, cutsFront, cutsRest, rfl⟩ := cuts.exists_cut blankOld someOld
    rw [CutsInto.gap_append blankOld] at cutsRest
    refine cutsFront.append cutsRest fun endsInDigit c isFirst => ?_
    rw [← Bool.not_eq_true]
    exact fun isDigit => apart ⟨endsInDigit, c, isFirst, isDigit⟩

/-- However its blanks are changed, a scanned text is scanned again, to tokens with the same lexemes
and kinds. -/
theorem exists_lex_of_respaced (respaced : Relation.ReflTransGen Respaced text other)
    (lexed : lex text = .ok tokens) :
    ∃ others, lex other = .ok others ∧ others.map Token.kind = tokens.map Token.kind ∧
      others.map Token.lexeme = tokens.map Token.lexeme := by
  obtain ⟨words, cuts, same⟩ := (lex_eq_ok_iff_laidOut.mp lexed).cutsInto
  have cutsOther : CutsInto words other.toList := by
    induction respaced with
    | refl => exact cuts
    | tail earlier last inductionHypothesis => exact last.cutsInto inductionHypothesis
  obtain ⟨others, lexedOther, sameOther⟩ := exists_lex_of_cutsInto cutsOther
  exact ⟨others, lexedOther, map_kind_lexeme_of_map_word (sameOther.trans same.symm)⟩

end Respaced

end DiceLang.Token
