import DiceLang.Proofs.NormalForm

/-!
# Redundant parentheses

Parentheses matter only where a text is read. Once there is a tree, its groups can be put in and
taken out anywhere, around operands, dice and keep amounts alike: the dice, the result and all that
is told without rolling stay the same. In a text nothing but the parentheses themselves goes away
with the groups, so the tree without groups stands for all trees that differ in their groups alone.
-/

namespace DiceLang

open Roller

namespace Text

/-- Whether the character is a parenthesis. -/
def isParen (c : Char) : Bool :=
  c == '(' || c == ')'

/-- The text with every parenthesis deleted. -/
def withoutParens (text : String) : String :=
  String.ofList (text.toList.filter fun c => !isParen c)

@[simp]
theorem withoutParens_append (text more : String) :
    withoutParens (text ++ more) = withoutParens text ++ withoutParens more := by
  simp [withoutParens]

/-- A text without parentheses stays as it is. -/
theorem withoutParens_eq_self {text : String} (free : ∀ c ∈ text.toList, isParen c = false) :
    withoutParens text = text := by
  have kept : text.toList.filter (fun c => !isParen c) = text.toList :=
    List.filter_eq_self.mpr fun c member => by rw [free c member]; rfl
  rw [withoutParens, kept, String.ofList_toList]

/-- No digit is a parenthesis. -/
theorem isParen_of_isDigit {c : Char} (isDigit : c.isDigit = true) : isParen c = false := by
  rw [isParen, Bool.or_eq_false_iff, beq_eq_false_iff_ne, beq_eq_false_iff_ne]
  constructor <;> rintro rfl <;> cases isDigit

theorem withoutParens_word (word : UInt64) : withoutParens (Word.text word) = Word.text word :=
  withoutParens_eq_self fun _ member => isParen_of_isDigit (Word.isDigit_of_mem_text member)

/-- A dice term is written without parentheses. -/
theorem withoutParens_dice (term : Dice) : withoutParens term.text = term.text := by
  have letter : withoutParens "d" = "d" := by decide
  simp only [Dice.text, withoutParens_append, withoutParens_word, letter]

/-- An operator between two texts has no parentheses of its own. -/
theorem withoutParens_operator (op : Operator) (left right : String) :
    withoutParens (left ++ " " ++ String.singleton op.symbol ++ " " ++ right) =
      withoutParens left ++ " " ++ String.singleton op.symbol ++ " " ++ withoutParens right := by
  have space : withoutParens " " = " " := by decide
  have symbol : withoutParens (String.singleton op.symbol) = String.singleton op.symbol := by
    cases op <;> decide
  simp only [withoutParens_append, space, symbol]

/-- A keep modifier between two texts has no parentheses of its own. -/
theorem withoutParens_keep (which : Keep) (left right : String) :
    withoutParens (left ++ which.symbol ++ right) =
      withoutParens left ++ which.symbol ++ withoutParens right := by
  have symbol : withoutParens which.symbol = which.symbol := by cases which <;> decide
  simp only [withoutParens_append, symbol]

/-- The parentheses around a text go away with those in it. -/
theorem withoutParens_group (inner : String) :
    withoutParens ("(" ++ inner ++ ")") = withoutParens inner := by
  have opening : withoutParens "(" = "" := by decide
  have closing : withoutParens ")" = "" := by decide
  simp only [withoutParens_append, opening, closing, String.empty_append, String.append_empty]

/-- No parenthesis stands between faces. -/
theorem isParen_of_mem_furtherFaces {faces : List UInt64} {c : Char}
    (member : c ∈ furtherFaces faces) : isParen c = false := by
  obtain ⟨face, -, inFace⟩ := List.mem_flatMap.mp member
  simp only [List.mem_cons] at inFace
  rcases inFace with rfl | rfl | rfl | digit
  · rfl
  · rfl
  · rfl
  · exact isParen_of_isDigit (Word.isDigit_of_mem_text digit)

/-- Faces are shown without parentheses. -/
theorem withoutParens_ofFaces (faces : List UInt64) :
    withoutParens (Outcome.ofFaces faces).explanation = (Outcome.ofFaces faces).explanation := by
  have opening : withoutParens "[" = "[" := by decide
  have closing : withoutParens "]" = "]" := by decide
  have between : withoutParens (" + ".intercalate (faces.map Word.text)) =
      " + ".intercalate (faces.map Word.text) := by
    refine withoutParens_eq_self fun c member => ?_
    cases faces with
    | nil => simp at member
    | cons face faces =>
      rw [toList_intercalate_faces] at member
      rcases List.mem_append.mp member with digit | further
      · exact isParen_of_isDigit (Word.isDigit_of_mem_text digit)
      · exact isParen_of_mem_furtherFaces further
  simp only [Outcome.ofFaces, withoutParens_append, opening, closing, between]

end Text

namespace Expr

open Text

/-- The expression with every group replaced by what stands in it. -/
def ungrouped : Expr → Expr
  | num value => num value
  | dice term => dice term
  | binary op left right => binary op left.ungrouped right.ungrouped
  | keep which term amount => keep which term amount.ungrouped
  | group inner => inner.ungrouped

@[simp]
theorem diceTerms_ungrouped (expr : Expr) : expr.ungrouped.diceTerms = expr.diceTerms := by
  induction expr with
  | num value => rfl
  | dice term => rfl
  | binary op left right leftHypothesis rightHypothesis =>
    rw [ungrouped, diceTerms, leftHypothesis, rightHypothesis, diceTerms]
  | keep which term amount inductionHypothesis =>
    rw [ungrouped, diceTerms, inductionHypothesis, diceTerms]
  | group inner inductionHypothesis => exact inductionHypothesis

@[simp]
theorem demand_ungrouped (expr : Expr) : expr.ungrouped.demand = expr.demand := by
  rw [demand, diceTerms_ungrouped, demand]

/-- Without its parentheses the written form is that of the expression without groups. -/
theorem withoutParens_text (expr : Expr) : withoutParens expr.text = expr.ungrouped.text := by
  induction expr with
  | num value => exact withoutParens_word value
  | dice term => exact withoutParens_dice term
  | binary op left right leftHypothesis rightHypothesis =>
    rw [text, withoutParens_operator, leftHypothesis, rightHypothesis, ungrouped, text]
  | keep which term amount inductionHypothesis =>
    rw [text, withoutParens_keep, withoutParens_dice, inductionHypothesis, ungrouped, text]
  | group inner inductionHypothesis =>
    rw [text, withoutParens_group, inductionHypothesis, ungrouped]

/-- Groups do not change what the faces come to. -/
theorem result_outcome_ungrouped (expr : Expr) (faces : List UInt64) :
    (expr.ungrouped.outcome faces).result = (expr.outcome faces).result := by
  induction expr generalizing faces with
  | num value => rfl
  | dice term => rfl
  | binary op left right leftHypothesis rightHypothesis =>
    simp only [ungrouped, outcome, Outcome.combine, demand_ungrouped, leftHypothesis,
      rightHypothesis]
  | keep which term amount inductionHypothesis =>
    simp only [ungrouped, outcome, Outcome.keep, inductionHypothesis]
  | group inner inductionHypothesis => exact inductionHypothesis faces

/-- Without its parentheses an explanation is that of the expression without groups. -/
theorem withoutParens_explanation (expr : Expr) (faces : List UInt64) :
    withoutParens (expr.outcome faces).explanation =
      (expr.ungrouped.outcome faces).explanation := by
  induction expr generalizing faces with
  | num value => exact withoutParens_word value
  | dice term => exact withoutParens_ofFaces faces
  | binary op left right leftHypothesis rightHypothesis =>
    simp only [ungrouped, outcome, Outcome.combine, withoutParens_operator, demand_ungrouped,
      leftHypothesis, rightHypothesis]
  | keep which term amount inductionHypothesis =>
    simp only [ungrouped, outcome, Outcome.keep, withoutParens_keep, withoutParens_ofFaces,
      inductionHypothesis]
  | group inner inductionHypothesis =>
    simp only [ungrouped, outcome, Outcome.group, withoutParens_group, inductionHypothesis]

end Expr

/-- An action that fails leaves the same as any other that plays the same terms. -/
theorem Table.Plays.error_congr {σ α β : Type} {roller : Roller σ} {terms : List Dice}
    {value : List UInt64 → α} {other : List UInt64 → β} {action : EStateM Fault (Table σ) α}
    {further : EStateM Fault (Table σ) β} (plays : Plays roller terms value action)
    (playsOther : Plays roller terms other further) {before after : Table σ} {fault : Fault}
    (failed : action before = .error fault after) : further before = .error fault after := by
  rw [plays before, Answers.result_eq_error_iff] at failed
  rw [playsOther before, Answers.result_eq_error_iff]
  exact failed

namespace Expr

section alike

variable {σ : Type} {roller : Roller σ} {expr other : Expr} {before after : Table σ}
  {tosses : List Toss} {outcome : Outcome}

/-- Expressions with the same dice terms roll the same dice. -/
theorem Rolls.of_diceTerms_eq (rolls : expr.Rolls roller before tosses outcome after)
    (same : expr.diceTerms = other.diceTerms) :
    other.Rolls roller before tosses (other.outcome (tosses.map Toss.face)) after := by
  obtain ⟨answered, -, thrown⟩ := rolls_iff.mp rolls
  rw [demand, same] at answered
  rw [same] at thrown
  exact rolls_iff.mpr ⟨answered, rfl, thrown⟩

/-- Redundant parentheses change nothing but the text. Two expressions that are equal without their
groups have the same roll count, both are deterministic or neither is, and their written forms are
equal without parentheses. Evaluated with any roller from the same state, both ask for the same dice
and leave the roller in the same state, and they come to the same result with explanations that are
equal without parentheses, or to the same fault. -/
theorem groups_change_only_text (same : expr.ungrouped = other.ungrouped) :
    expr.rollCount = other.rollCount ∧ expr.isDeterministic = other.isDeterministic ∧
      Text.withoutParens expr.text = Text.withoutParens other.text ∧
      ∀ (σ : Type) (roller : Roller σ) (before : Table σ),
        (∃ tosses after outcome otherOutcome,
          expr.eval roller before = .ok outcome after ∧
          other.eval roller before = .ok otherOutcome after ∧
          expr.Rolls roller before tosses outcome after ∧
          other.Rolls roller before tosses otherOutcome after ∧
          outcome.result = otherOutcome.result ∧
          Text.withoutParens outcome.explanation = Text.withoutParens otherOutcome.explanation) ∨
        ∃ fault after, expr.eval roller before = .error fault after ∧
          other.eval roller before = .error fault after := by
  have sameTerms : expr.diceTerms = other.diceTerms := by
    rw [← diceTerms_ungrouped, same, diceTerms_ungrouped]
  refine ⟨rollCount_congr sameTerms, isDeterministic_congr sameTerms, ?_, ?_⟩
  · rw [withoutParens_text, same, withoutParens_text]
  · intro σ roller before
    cases evaluated : expr.eval roller before with
    | ok outcome after =>
      obtain ⟨tosses, rolls⟩ := eval_eq_ok_iff.mp evaluated
      have otherRolls := rolls.of_diceTerms_eq sameTerms
      refine .inl ⟨tosses, after, outcome, _, rfl, eval_eq_ok_iff.mpr ⟨tosses, otherRolls⟩, rolls,
        otherRolls, ?_, ?_⟩
      · rw [(rolls_iff.mp rolls).2.1, ← result_outcome_ungrouped, same, result_outcome_ungrouped]
      · rw [(rolls_iff.mp rolls).2.1, withoutParens_explanation, same, withoutParens_explanation]
    | error fault after =>
      have playsOther := other.plays roller
      rw [← sameTerms] at playsOther
      exact .inr ⟨fault, after, rfl, (expr.plays roller).error_congr playsOther evaluated⟩

/-- `2d6kh(1d4) + 1d8` -/
def regroupedSum : Expr :=
  binary .add (keep .highest ⟨2, 6⟩ (group (dice ⟨1, 4⟩))) (dice ⟨1, 8⟩)

/-- `2d6kh(1d4) + 1d8` and `2d6kh1d4 + (1d8)` come to the same with the same faces. -/
theorem groups_change_only_text_keptSum :
    regroupedSum.ungrouped = keptSum.ungrouped ∧ regroupedSum.text ≠ keptSum.text ∧
      ∃ outcome otherOutcome after,
        regroupedSum.eval scripted (.fresh [3, 5, 1, 7]) = .ok outcome after ∧
        keptSum.eval scripted (.fresh [3, 5, 1, 7]) = .ok otherOutcome after ∧
        outcome.result = otherOutcome.result := by
  have same : regroupedSum.ungrouped = keptSum.ungrouped := rfl
  refine ⟨same, by decide, ?_⟩
  have alike := (groups_change_only_text same).2.2.2 _ scripted (.fresh [3, 5, 1, 7])
  rcases alike with ⟨-, after, outcome, otherOutcome, rolled, otherRolled, -, -, result, -⟩ |
    ⟨fault, after, failed, -⟩
  · exact ⟨outcome, otherOutcome, after, rolled, otherRolled, result⟩
  · cases failed

end alike

end Expr

end DiceLang
