import DiceLang.Proofs.Lexing.Attempts
import DiceLang.Proofs.Lexing.Scan

/-!
# Reading one token

Whatever the order in which the kinds of token are tried, one attempt does what the text says: a
lexeme is read whole as its kind, and where a text is stuck, the character that comes next is blamed
and none that stands before or behind it.
-/

namespace DiceLang.Token

open Text Text.Progress Text.Reader

variable {chars front rest text : List Char} {kind other : Kind} {c d : Char}

/-- A character is read where it stands. -/
theorem reads_just (c : Char) : Reads (just c) [c] rest c :=
  fun _ sound whole =>
    ⟨_, satisfying_of_rest whole (beq_self_eq_true c), sound.reaches_past whole⟩

/-- A letter is read as its kind. -/
theorem reads_letter (c : Char) (kind : Kind) : Reads (letter c kind) [c] rest kind :=
  (reads_just c).map

/-- Everything but the character stops its reader. -/
theorem misses_just (others : ∀ d ∈ text.head?, d ≠ c) : Misses (just c) text :=
  misses_satisfying fun d isFirst => beq_false_of_ne (others d isFirst)

/-- Everything but the letter stops its reader. -/
theorem misses_letter (others : ∀ d ∈ text.head?, d ≠ c) : Misses (letter c kind) text :=
  .bind (misses_just others)

/-- A text that does not go on with the letter stops its reader. -/
theorem misses_letter_of_ne_cons (others : ∀ rest, text ≠ c :: rest) :
    Misses (letter c kind) text := by
  refine misses_letter fun d isFirst => ?_
  rintro rfl
  obtain ⟨rest, whole⟩ := List.head?_eq_some_iff.mp isFirst
  exact others rest whole

/-- Everything but a digit stops the reader of numbers. -/
theorem misses_number (apart : StartsApart text) : Misses number text :=
  .bind (misses_repeatedOnce apart)

/-- Everything but a `k` stops the reader of keep modifiers. -/
theorem misses_keepModifier (others : ∀ d ∈ text.head?, d ≠ 'k') : Misses keepModifier text :=
  .bind (misses_just others)

/-- The readers of signs are for characters that spell a kind alone. -/
theorem letter_of_mem_signs {reader : Reader Kind} (member : reader ∈ signs) :
    ∃ c kind, reader = letter c kind ∧ Kind.ofChar? c = some kind := by
  simp only [signs, List.mem_cons, List.not_mem_nil, or_false] at member
  rcases member with rfl | rfl | rfl | rfl | rfl | rfl | rfl | rfl
  all_goals exact ⟨_, _, rfl, rfl⟩

/-- A character that spells a kind alone is tried. -/
theorem letter_mem_of_ofChar (spelled : Kind.ofChar? c = some kind) :
    letter c kind ∈ letter 'd' .dice :: keepModifier :: signs := by
  unfold Kind.ofChar? at spelled
  split at spelled <;> cases spelled <;> simp [signs]

/-- A letter is read as what it spells alone, and no other letter is. -/
theorem reads_or_misses_letter (spelled : Kind.ofChar? c = some kind)
    (spelledToo : Kind.ofChar? d = some other) :
    Reads (letter d other) [c] rest kind ∨ Misses (letter d other) ([c] ++ rest) := by
  by_cases same : c = d
  · subst same
    cases spelled.symm.trans spelledToo
    exact .inl (reads_letter c kind)
  · exact .inr (misses_letter fun first isFirst => by cases isFirst; exact same)

/-- A character that spells a kind alone is read as that kind. -/
theorem reads_token_of_ofChar (spelled : Kind.ofChar? c = some kind) :
    Reads token [c] rest kind := by
  obtain ⟨noDigit, noKeep⟩ := apart_of_ofChar spelled
  refine .choice_tail (misses_number fun first isFirst => by cases isFirst; exact noDigit) ?_
  refine reads_choice ?_ ⟨_, letter_mem_of_ofChar spelled, reads_letter c kind⟩
  rw [List.forall_mem_cons, List.forall_mem_cons]
  refine ⟨reads_or_misses_letter spelled rfl, .inr ?_, fun reader member => ?_⟩
  · exact misses_keepModifier fun first isFirst => by cases isFirst; exact noKeep
  · obtain ⟨d, other, rfl, spelledToo⟩ := letter_of_mem_signs member
    exact reads_or_misses_letter spelled spelledToo

/-- Nothing but a keep modifier begins with a `k`, so the others are stopped by it. -/
theorem misses_before_keepModifier (rest : List Char) :
    Misses number ('k' :: rest) ∧ Misses (letter 'd' .dice) ('k' :: rest) ∧
      ∀ reader ∈ signs, Misses reader ('k' :: rest) := by
  refine ⟨misses_number ?_, misses_letter ?_, fun reader member => ?_⟩
  · intro first isFirst
    cases isFirst
    rfl
  · intro first isFirst
    cases isFirst
    decide
  · obtain ⟨d, other, rfl, spelled⟩ := letter_of_mem_signs member
    refine misses_letter fun first isFirst => ?_
    cases isFirst
    exact (apart_of_ofChar spelled).2.symm

/-- Behind a `k` a letter decides which keep modifier is read. -/
theorem reads_token_keep
    (reads : Reads (choice [letter 'h' (.keep .highest), letter 'l' (.keep .lowest)]) [c] rest kind) :
    Reads token ['k', c] rest kind := by
  obtain ⟨noNumber, noDice, -⟩ := misses_before_keepModifier ([c] ++ rest)
  exact .choice_tail noNumber (.choice_tail noDice (.choice_head ((reads_just 'k').bind reads)))

/-- Every lexeme is read as its kind, if what follows does not continue its digits. -/
theorem reads_token (lexeme : Lexeme chars kind)
    (apart : (∃ value, kind = .number value) → StartsApart rest) : Reads token chars rest kind := by
  cases lexeme with
  | number some isDigit =>
    rw [← Word.ofDigits_eq_saturate]
    exact .choice_head (reads_repeatedOnce some isDigit (apart ⟨_, rfl⟩)).map
  | keepHighest => exact reads_token_keep (.choice_head (reads_letter 'h' _))
  | keepLowest =>
    refine reads_token_keep (.choice_tail (misses_letter fun first isFirst => ?_) ?_)
    · cases isFirst
      decide
    · exact .choice_head (reads_letter 'l' _)
  | operator op => cases op <;> exact reads_token_of_ofChar rfl
  | _ => exact reads_token_of_ofChar rfl

/-- A text that does not begin like a lexeme stops the reader of tokens. -/
theorem misses_token (noDigit : StartsApart text) (noKeep : ∀ c ∈ text.head?, c ≠ 'k')
    (noKind : ∀ c ∈ text.head?, Kind.ofChar? c = none) : Misses token text := by
  have noLetter : ∀ d other, Kind.ofChar? d = some other → Misses (letter d other) text := by
    intro d other spelled
    refine misses_letter fun c isFirst => ?_
    rintro rfl
    cases (noKind c isFirst).symm.trans spelled
  refine misses_choice (List.cons_ne_nil _ _) ?_
  rw [List.forall_mem_cons, List.forall_mem_cons, List.forall_mem_cons]
  refine ⟨misses_number noDigit, noLetter 'd' _ rfl, misses_keepModifier noKeep, ?_⟩
  intro reader member
  obtain ⟨d, other, rfl, spelled⟩ := letter_of_mem_signs member
  exact noLetter d other spelled

/-- Where a text is stuck, reading a token fails, and what comes next is blamed. -/
theorem fails_token (stuck : Stuck front rest) : Fails token front rest := by
  cases stuck with
  | ended =>
    refine (misses_token ?_ ?_ ?_).fails <;> intro c isFirst <;> cases isFirst
  | misplaced noKeep noBlank noDigit noKind =>
    refine (misses_token ?_ ?_ ?_).fails <;> intro c isFirst <;> cases isFirst
    · exact noDigit
    · exact noKeep
    · exact noKind
  | halfKeep noHighest noLowest =>
    obtain ⟨noNumber, noDice, noSign⟩ := misses_before_keepModifier rest
    have neither : Misses (choice [letter 'h' (.keep .highest), letter 'l' (.keep .lowest)]) rest := by
      refine misses_choice (List.cons_ne_nil _ _) ?_
      rw [List.forall_mem_cons, List.forall_mem_singleton]
      exact ⟨misses_letter_of_ne_cons noHighest, misses_letter_of_ne_cons noLowest⟩
    exact .choice_tail noNumber
      (.choice_tail noDice (.choice_head ((reads_just 'k').fails neither.fails) noSign))

end DiceLang.Token
