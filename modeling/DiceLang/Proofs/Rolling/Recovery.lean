import DiceLang.Proofs.Lexing.Numbers
import DiceLang.Proofs.Rolling.Replay

/-!
# Recovering the faces

The faces can be read back from an explanation by anyone who knows the expression. Faces are written
without padding, but each ends before a character that is no digit, and all faces of a term end
before a bracket that stands nowhere else in them. So an explanation never runs on into what follows
it, and outcomes of one expression with the same explanation saw the same faces.
-/

namespace DiceLang

open Roller

/-- Different words are written differently. -/
theorem Word.text_injective : Function.Injective Word.text := by
  intro left right same
  rw [← saturate_natOfDigits_text left, same, saturate_natOfDigits_text]

/-- The faces behind the first one, each behind a plus sign. -/
def Text.furtherFaces (faces : List UInt64) : List Char :=
  faces.flatMap fun face => ' ' :: '+' :: ' ' :: (Word.text face).toList

namespace Text

variable {faces others : List UInt64} {rest more : List Char}

/-- No digit stands behind a face. -/
theorem furtherFaces_apart (faces : List UInt64) (rest : List Char) :
    ∀ c ∈ (furtherFaces faces ++ ']' :: rest).head?, c.isDigit = false := by
  intro c isFirst
  cases faces <;>
    simp only [furtherFaces, List.flatMap_nil, List.flatMap_cons, List.nil_append,
      List.cons_append, List.head?_cons, Option.mem_some_iff] at isFirst <;>
    subst isFirst <;> decide

/-- Two texts that go on with the same face go on with the same text behind it. -/
theorem face_append_inj {face other : UInt64}
    (same : (Word.text face).toList ++ (furtherFaces faces ++ ']' :: rest) =
      (Word.text other).toList ++ (furtherFaces others ++ ']' :: more)) :
    face = other ∧ furtherFaces faces ++ ']' :: rest = furtherFaces others ++ ']' :: more := by
  obtain ⟨sameFace, sameRest⟩ := Decimal.isDigit_append_inj
    (fun c => Word.isDigit_of_mem_text) (furtherFaces_apart faces rest)
    (fun c => Word.isDigit_of_mem_text) (furtherFaces_apart others more) same
  exact ⟨Word.text_injective (String.toList_injective sameFace), sameRest⟩

/-- The faces up to a bracket are read off in one way. -/
theorem furtherFaces_append_inj
    (same : furtherFaces faces ++ ']' :: rest = furtherFaces others ++ ']' :: more) :
    faces = others ∧ rest = more := by
  induction faces generalizing others with
  | nil =>
    cases others with
    | nil => exact ⟨rfl, (List.cons.inj same).2⟩
    | cons other others => simp [furtherFaces] at same
  | cons face faces inductionHypothesis =>
    cases others with
    | nil => simp [furtherFaces] at same
    | cons other others =>
      simp only [furtherFaces, List.flatMap_cons, List.cons_append, List.append_assoc,
        List.cons.injEq, true_and] at same
      obtain ⟨rfl, sameRest⟩ := face_append_inj same
      obtain ⟨rfl, rfl⟩ := inductionHypothesis sameRest
      exact ⟨rfl, rfl⟩

/-- Faces joined by plus signs are the first one and then the further ones. -/
theorem toList_intercalate_faces (face : UInt64) (faces : List UInt64) :
    (" + ".intercalate ((face :: faces).map Word.text)).toList =
      (Word.text face).toList ++ furtherFaces faces := by
  induction faces generalizing face with
  | nil => simp [furtherFaces]
  | cons next faces inductionHypothesis =>
    rw [List.map_cons, List.map_cons, String.intercalate_cons_cons, ← List.map_cons,
      String.toList_append, String.toList_append, inductionHypothesis, furtherFaces,
      furtherFaces, List.flatMap_cons]
    simp

end Text

namespace Outcome

variable {faces others : List UInt64} {rest more : List Char}

theorem explanation_ofFaces_nil_append (rest : List Char) :
    (ofFaces []).explanation.toList ++ rest = '[' :: ']' :: rest := by
  simp [ofFaces]

theorem explanation_ofFaces_cons_append (face : UInt64) (faces : List UInt64) (rest : List Char) :
    (ofFaces (face :: faces)).explanation.toList ++ rest =
      '[' :: ((Word.text face).toList ++ (Text.furtherFaces faces ++ ']' :: rest)) := by
  rw [ofFaces, String.toList_append, String.toList_append, Text.toList_intercalate_faces]
  simp

/-- A face does not begin with a bracket. -/
theorem text_append_ne_bracket (face : UInt64) (rest more : List Char) :
    (Word.text face).toList ++ rest ≠ ']' :: more := by
  intro same
  cases shape : (Word.text face).toList with
  | nil => exact Word.text_toList_ne_nil face shape
  | cons c digits =>
    have isDigit : c.isDigit = true :=
      Word.isDigit_of_mem_text (by rw [shape]; exact List.mem_cons_self)
    rw [shape] at same
    rw [(List.cons.inj same).1] at isDigit
    cases isDigit

/-- The faces of a dice term are read off its explanation in one way. -/
theorem explanation_ofFaces_append_inj
    (same : (ofFaces faces).explanation.toList ++ rest =
      (ofFaces others).explanation.toList ++ more) : faces = others ∧ rest = more := by
  cases faces with
  | nil =>
    cases others with
    | nil => exact ⟨rfl, List.append_cancel_left same⟩
    | cons other others =>
      rw [explanation_ofFaces_nil_append, explanation_ofFaces_cons_append] at same
      exact absurd (List.cons.inj same).2.symm (text_append_ne_bracket other _ rest)
  | cons face faces =>
    cases others with
    | nil =>
      rw [explanation_ofFaces_nil_append, explanation_ofFaces_cons_append] at same
      exact absurd (List.cons.inj same).2 (text_append_ne_bracket face _ more)
    | cons other others =>
      rw [explanation_ofFaces_cons_append, explanation_ofFaces_cons_append] at same
      obtain ⟨rfl, sameRest⟩ := Text.face_append_inj (List.cons.inj same).2
      obtain ⟨rfl, rfl⟩ := Text.furtherFaces_append_inj sameRest
      exact ⟨rfl, rfl⟩

end Outcome

namespace Expr

variable {expr : Expr} {faces others : List UInt64} {rest more : List Char}

/-- The faces are read off the explanation in one way, whatever follows it. -/
theorem explanation_append_inj (enough : faces.length = expr.demand.length)
    (otherEnough : others.length = expr.demand.length)
    (same : (expr.outcome faces).explanation.toList ++ rest =
      (expr.outcome others).explanation.toList ++ more) : faces = others ∧ rest = more := by
  induction expr generalizing faces others rest more with
  | num value =>
    rw [List.length_eq_zero_iff.mp enough, List.length_eq_zero_iff.mp otherEnough]
    exact ⟨rfl, List.append_cancel_left same⟩
  | dice term => exact Outcome.explanation_ofFaces_append_inj same
  | binary op left right leftHypothesis rightHypothesis =>
    rw [demand_binary] at enough otherEnough
    obtain ⟨early, late, rfl, leftEnough, rightEnough⟩ := exists_split enough
    obtain ⟨otherEarly, otherLate, rfl, otherLeft, otherRight⟩ := exists_split otherEnough
    rw [outcome_binary_append leftEnough, outcome_binary_append otherLeft] at same
    simp only [Outcome.combine, String.toList_append, List.append_assoc] at same
    obtain ⟨rfl, sameRest⟩ := leftHypothesis leftEnough otherLeft same
    have behindSymbol := List.append_cancel_left
      (List.append_cancel_left (List.append_cancel_left sameRest))
    obtain ⟨rfl, rfl⟩ := rightHypothesis rightEnough otherRight behindSymbol
    exact ⟨rfl, rfl⟩
  | keep which term amount inductionHypothesis =>
    rw [demand_keep] at enough otherEnough
    obtain ⟨early, late, rfl, termEnough, amountEnough⟩ := exists_split enough
    obtain ⟨otherEarly, otherLate, rfl, otherTerm, otherAmount⟩ := exists_split otherEnough
    rw [outcome_keep_append termEnough, outcome_keep_append otherTerm] at same
    simp only [Outcome.keep, String.toList_append, List.append_assoc] at same
    obtain ⟨rfl, sameRest⟩ := Outcome.explanation_ofFaces_append_inj same
    obtain ⟨rfl, rfl⟩ :=
      inductionHypothesis amountEnough otherAmount (List.append_cancel_left sameRest)
    exact ⟨rfl, rfl⟩
  | group inner inductionHypothesis =>
    simp only [outcome, Outcome.group, String.toList_append, List.append_assoc] at same
    obtain ⟨rfl, sameRest⟩ :=
      inductionHypothesis enough otherEnough (List.append_cancel_left same)
    exact ⟨rfl, List.append_cancel_left sameRest⟩

/-- Outcomes of an expression with the same explanation saw the same faces. -/
theorem faces_eq_of_explanation_eq (enough : faces.length = expr.demand.length)
    (otherEnough : others.length = expr.demand.length)
    (same : (expr.outcome faces).explanation = (expr.outcome others).explanation) :
    faces = others := by
  have atEnd : (expr.outcome faces).explanation.toList ++ [] =
      (expr.outcome others).explanation.toList ++ [] := by
    rw [same]
  exact (explanation_append_inj enough otherEnough atEnd).1

section runs

variable {σ τ : Type} {roller : Roller σ} {otherRoller : Roller τ} {before after : Table σ}
  {otherBefore otherAfter : Table τ} {tosses otherTosses : List Toss} {outcome other : Outcome}

/-- Two evaluations of an expression are explained alike exactly if they saw the same faces. -/
theorem Rolls.explanation_eq_iff (rolls : expr.Rolls roller before tosses outcome after)
    (otherRolls : expr.Rolls otherRoller otherBefore otherTosses other otherAfter) :
    outcome.explanation = other.explanation ↔
      tosses.map Toss.face = otherTosses.map Toss.face := by
  constructor
  · intro same
    rw [(rolls_iff.mp rolls).2.1, (rolls_iff.mp otherRolls).2.1] at same
    exact faces_eq_of_explanation_eq rolls.length_faces otherRolls.length_faces same
  · intro same
    rw [otherRolls.outcome_eq rolls same]

end runs

/-- An explanation is an unambiguous record of the rolls. Any faces, one for each die of the
expression, are rolled to their end, and for any two such sequences the explanations are equal if
and only if the faces are. The same holds for any two evaluations, whatever the rollers: with the
expression, an explanation tells every face in order. -/
theorem explained_alike_iff_faces_eq (expr : Expr) :
    (∀ faces others, faces.length = expr.diceTotal → others.length = expr.diceTotal →
      ∃ outcome other thrown otherThrown,
        expr.eval scripted (.fresh faces) = .ok outcome ⟨[], thrown⟩ ∧
        expr.eval scripted (.fresh others) = .ok other ⟨[], otherThrown⟩ ∧
        (outcome.explanation = other.explanation ↔ faces = others)) ∧
    ∀ (σ τ : Type) (roller : Roller σ) (otherRoller : Roller τ) before tosses outcome after
      otherBefore otherTosses other otherAfter,
      expr.Rolls roller before tosses outcome after →
      expr.Rolls otherRoller otherBefore otherTosses other otherAfter →
        (outcome.explanation = other.explanation ↔
          tosses.map Toss.face = otherTosses.map Toss.face) := by
  constructor
  · intro faces others enough otherEnough
    rw [← length_demand] at enough otherEnough
    obtain ⟨tosses, shown, rolls⟩ := rolls_scripted enough [] []
    obtain ⟨otherTosses, otherShown, otherRolls⟩ := rolls_scripted otherEnough [] []
    have told := rolls.explanation_eq_iff otherRolls
    rw [shown, otherShown] at told
    rw [List.append_nil] at rolls otherRolls
    exact ⟨_, _, _, _, eval_eq_ok_iff.mpr ⟨tosses, rolls⟩,
      eval_eq_ok_iff.mpr ⟨otherTosses, otherRolls⟩, told⟩
  · intro _ _ _ _ _ _ _ _ _ _ _ _ rolls otherRolls
    exact rolls.explanation_eq_iff otherRolls

end Expr

end DiceLang
