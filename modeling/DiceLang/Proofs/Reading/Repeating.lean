import DiceLang.Proofs.Reading.Calls

/-!
# Reading past the end

The last token of a list is never moved past, so a reader that goes on there sees it again. It might
as well be repeated any number of times: the cursor of one list walks over the copies while the
cursor of the other one stays where it is, and at every step both see the same two tokens.
-/

namespace DiceLang

namespace Cursor

/-- Two cursors with the same tokens up to the last one, which each of them holds at least once. -/
inductive Alike (last : Token) : Cursor → Cursor → Prop where
  | repeated (copies others : Nat) :
      Alike last (List.replicate (copies + 1) last) (List.replicate (others + 1) last)
  | cons (token : Token) {tokens others : Cursor} (alike : Alike last tokens others) :
      Alike last (token :: tokens) (token :: others)

namespace Alike

variable {last : Token} {tokens others : Cursor}

/-- Copies of the last token behind it make a cursor that is alike. -/
theorem of_append (ends : tokens.getLast? = some last) (copies : Nat) :
    Alike last (tokens ++ List.replicate copies last) tokens := by
  obtain ⟨front, rfl⟩ := List.getLast?_eq_some_iff.mp ends
  rw [List.append_assoc]
  induction front with
  | nil => exact .repeated copies 0
  | cons token front inductionHypothesis => exact .cons token (inductionHypothesis (by simp))

/-- The next token is the same. -/
theorem next_eq (alike : Alike last tokens others) : next tokens = next others := by
  cases alike <;> rfl

/-- Advancing keeps cursors alike. -/
theorem advance (alike : Alike last tokens others) :
    Alike last (advance tokens) (advance others) := by
  cases alike with
  | repeated copies others =>
    have stays (copies : Nat) : ∃ fewer, Cursor.advance (List.replicate (copies + 1) last) =
        List.replicate (fewer + 1) last := by
      cases copies with
      | zero => exact ⟨0, rfl⟩
      | succ fewer => exact ⟨fewer, rfl⟩
    obtain ⟨fewer, same⟩ := stays copies
    obtain ⟨fewerOthers, othersSame⟩ := stays others
    rw [same, othersSame]
    exact .repeated fewer fewerOthers
  | cons token alike =>
    cases alike with
    | repeated copies others => exact .repeated copies others
    | cons token alike => exact .cons token alike

/-- The token after the next one is the same. -/
theorem second_eq (alike : Alike last tokens others) : second tokens = second others := by
  rw [← next_advance, ← next_advance, alike.advance.next_eq]

end Alike

end Cursor

open Cursor

/-- Two attempts that end the same, with alike cursors left. -/
inductive Attempt.Alike {α : Type} (last : Token) : Attempt α → Attempt α → Prop where
  | done (value : α) {rest other : Cursor} (alike : Cursor.Alike last rest other) :
      Alike last (.done value rest) (.done value other)
  | failed (error : ParseError) : Alike last (.failed error) (.failed error)
  | exhausted : Alike last .exhausted .exhausted

/-- Alike attempts go on alike when the steps after them do. -/
theorem Attempt.Alike.andThen {α β : Type} {last : Token} {attempt other : Attempt α}
    {goOn otherGoOn : α → Cursor → Attempt β} (first : Attempt.Alike last attempt other)
    (second : ∀ value rest otherRest, Cursor.Alike last rest otherRest →
      Attempt.Alike last (goOn value rest) (otherGoOn value otherRest)) :
    Attempt.Alike last (attempt.andThen goOn) (other.andThen otherGoOn) := by
  cases first with
  | done value alike => exact second value _ _ alike
  | failed error => exact .failed error
  | exhausted => exact .exhausted

namespace Expr

section Tokens

variable {last : Token} {tokens others : Cursor}

theorem expect_alike (alike : Alike last tokens others) (wanted : Expectation)
    (kind : Token.Kind) :
    Attempt.Alike last (expect wanted kind tokens) (expect wanted kind others) := by
  rw [expect, expect, alike.next_eq]
  split
  · exact .done () alike.advance
  · exact .failed _

theorem expectNumber_alike (alike : Alike last tokens others) :
    Attempt.Alike last (expectNumber tokens) (expectNumber others) := by
  rw [expectNumber, expectNumber, alike.next_eq]
  split
  · exact .done _ alike.advance
  · exact .failed _

/-- A dice term is read alike. -/
theorem readDice_alike (alike : Alike last tokens others) :
    Attempt.Alike last (readDice tokens) (readDice others) := by
  have further (count : UInt64) {tokens others : Cursor} (alike : Alike last tokens others) :
      Attempt.Alike last
        ((expect .dice .dice tokens).andThen fun _ rest =>
          (expectNumber rest).andThen fun sides rest => .done (⟨count, sides⟩ : Dice) rest)
        ((expect .dice .dice others).andThen fun _ rest =>
          (expectNumber rest).andThen fun sides rest => .done (⟨count, sides⟩ : Dice) rest) :=
    (expect_alike alike .dice .dice).andThen fun _ _ _ alike =>
      (expectNumber_alike alike).andThen fun sides _ _ alike => .done (⟨count, sides⟩ : Dice) alike
  rw [readDice, readDice, alike.next_eq]
  cases (next others).kind.literal? with
  | some count => exact further count alike.advance
  | none => exact further 1 alike

end Tokens

/-- Two calls of the same reader with alike cursors. -/
inductive Call.Alike (last : Token) : Call → Call → Prop where
  | read (level : Precedence) {tokens others : Cursor} (alike : Cursor.Alike last tokens others) :
      Alike last (.read level tokens) (.read level others)
  | chain (level : Precedence) (left : Expr) {tokens others : Cursor}
      (alike : Cursor.Alike last tokens others) :
      Alike last (.chain level left tokens) (.chain level left others)
  | primary {tokens others : Cursor} (alike : Cursor.Alike last tokens others) :
      Alike last (.primary tokens) (.primary others)
  | keep (term : Dice) {tokens others : Cursor} (alike : Cursor.Alike last tokens others) :
      Alike last (.keep term tokens) (.keep term others)

/-- Two plans that end alike, make alike calls, and are alike again after alike answers. -/
inductive Plan.Alike (last : Token) : Plan → Plan → Prop where
  | ends {attempt other : Attempt Expr} (alike : Attempt.Alike last attempt other) :
      Alike last (.ends attempt) (.ends other)
  | calls {call other : Call} {goOn otherGoOn : Expr → Cursor → Plan}
      (alike : Call.Alike last call other)
      (further : ∀ expr rest otherRest, Cursor.Alike last rest otherRest →
        Alike last (goOn expr rest) (otherGoOn expr otherRest)) :
      Alike last (.calls call goOn) (.calls other otherGoOn)

namespace Plan.Alike

variable {last : Token}

theorem after {α : Type} {attempt other : Attempt α} {goOn otherGoOn : α → Cursor → Plan}
    (alike : Attempt.Alike last attempt other)
    (further : ∀ value rest otherRest, Cursor.Alike last rest otherRest →
      Plan.Alike last (goOn value rest) (otherGoOn value otherRest)) :
    Plan.Alike last (.after attempt goOn) (.after other otherGoOn) := by
  cases alike with
  | done value alike => exact further value _ _ alike
  | failed error => exact .ends (.failed error)
  | exhausted => exact .ends .exhausted

theorem lastCall {call other : Call} (alike : Call.Alike last call other) (made : Expr → Expr) :
    Plan.Alike last (.last call made) (.last other made) :=
  .calls alike fun expr _ _ alike => .ends (.done (made expr) alike)

/-- Alike plans run alike when alike calls are answered alike. -/
theorem run {answer : Call → Attempt Expr} {plan other : Plan}
    (answers : ∀ call other, Call.Alike last call other →
      Attempt.Alike last (answer call) (answer other))
    (alike : Plan.Alike last plan other) :
    Attempt.Alike last (plan.run answer) (other.run answer) := by
  induction alike with
  | ends alike => exact alike
  | calls alike further inductionHypothesis =>
    exact (answers _ _ alike).andThen inductionHypothesis

end Plan.Alike

namespace Call.Alike

variable {last : Token} {call other : Call}

/-- Alike calls have alike plans. -/
theorem plan (alike : Call.Alike last call other) : Plan.Alike last call.plan other.plan := by
  have dice {tokens others : Cursor} (alike : Cursor.Alike last tokens others) :
      Plan.Alike last (.after (readDice tokens) fun term rest => .last (.keep term rest) id)
        (.after (readDice others) fun term rest => .last (.keep term rest) id) :=
    .after (readDice_alike alike) fun term _ _ alike => .lastCall (.keep term alike) id
  cases alike with
  | read level alike =>
    rw [Call.plan, Call.plan]
    split
    · exact .lastCall (.primary alike) id
    · exact .calls (.read level.tighter alike) fun first _ _ alike =>
        .lastCall (.chain level first alike) id
  | chain level left alike =>
    rw [Call.plan, Call.plan, alike.next_eq]
    split
    · split
      · exact .calls (.read level.tighter alike.advance) fun right _ _ alike =>
          .lastCall (.chain level _ alike) id
      · exact .ends (.done left alike)
    · exact .ends (.done left alike)
  | primary alike =>
    rw [Call.plan, Call.plan, alike.next_eq, alike.second_eq]
    split
    · exact dice alike
    · split
      · exact dice alike
      · exact .ends (.done _ alike.advance)
    · refine .calls (.read .sum alike.advance) fun inner _ _ alike => .ends ?_
      exact (expect_alike alike _ _).andThen fun _ _ _ alike => .done (group inner) alike
    all_goals exact .ends (.failed _)
  | keep term alike =>
    rw [Call.plan, Call.plan, alike.next_eq]
    split
    · exact .lastCall (.primary alike.advance) _
    · exact .ends (.done _ alike)

/-- Alike calls are answered alike at every depth. -/
theorem answer (depth : Nat) (alike : Call.Alike last call other) :
    Attempt.Alike last (call.answer depth) (other.answer depth) := by
  induction depth generalizing call other with
  | zero =>
    rw [answer_zero, answer_zero]
    exact .exhausted
  | succ depth inductionHypothesis =>
    rw [answer_succ, answer_succ]
    exact alike.plan.run fun _ _ => inductionHypothesis

end Call.Alike

/-- What parsing tells of the tokens: the expression and the token behind it that is ignored, or the
error. -/
def reading (tokens : List Token) : Except ParseError (Expr × Option Token) :=
  (parse tokens).map fun parsed => (parsed.expr, parsed.ignored?)

/-- Copies of the last token do not change what parsing tells. -/
theorem reading_append_copies {tokens : List Token} {last : Token}
    (ends : tokens.getLast? = some last) (notOpening : last.kind ≠ .parenOpen) (copies : Nat) :
    reading (tokens ++ List.replicate copies last) = reading tokens := by
  have grounded : Grounded tokens := by simpa [Grounded, ends] using notOpening
  have groundedCopies : Grounded (tokens ++ List.replicate copies last) := by
    cases copies <;> simpa [Grounded, ends, List.getLast?_replicate] using notOpening
  have deeper : depthBound tokens ≤ depthBound (tokens ++ List.replicate copies last) := by
    simp only [depthBound, List.length_append]
    omega
  have settled := read_depthBound_ne_exhausted groundedCopies
  have alike : Attempt.Alike last _ _ := Call.Alike.answer
    (depthBound (tokens ++ List.replicate copies last))
    (.read .sum (Cursor.Alike.of_append ends copies))
  simp only [Call.answer, Call.read_eq_of_depthBound_le grounded deeper] at alike
  simp only [reading, parse]
  generalize read (depthBound (tokens ++ _)) _ _ = attempt at alike settled ⊢
  generalize read (depthBound tokens) _ _ = other at alike ⊢
  cases alike with
  | done expr alike => simp [Except.map, Parsed.ignored?, alike.next_eq]
  | failed error => rfl
  | exhausted => exact absurd rfl settled

/-- Past the end, the last token is read as if it were repeated, unless it opens a group, and an
empty list is read as a single ending token. -/
theorem reading_past_end :
    (∀ (tokens : List Token) (last : Token), tokens.getLast? = some last →
      last.kind ≠ .parenOpen → ∀ copies,
        reading (tokens ++ List.replicate copies last) = reading tokens) ∧
    ∀ lexeme, reading [] = reading [⟨.ending, lexeme, 0⟩] := by
  refine ⟨fun tokens last => reading_append_copies, fun lexeme => rfl⟩

/-- Some dice whose keep modifier is the last token. -/
def openKeep : List Token :=
  [⟨.dice, "d", 0⟩, ⟨.number 6, "6", 1⟩, ⟨.keep .lowest, "kl", 2⟩]

/-- The modifier itself stands where its amount is missing, however often it is repeated. -/
theorem reading_past_end_openKeep :
    reading (openKeep ++ List.replicate 3 ⟨.keep .lowest, "kl", 2⟩) =
      .error (.unexpected (.keep .lowest) 2) := by
  rw [reading_past_end.1 openKeep ⟨.keep .lowest, "kl", 2⟩ rfl (by decide) 3]
  rfl

end Expr

end DiceLang
