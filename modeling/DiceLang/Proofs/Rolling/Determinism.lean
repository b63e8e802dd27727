import Mathlib.Data.List.Forall2
import DiceLang.Proofs.Rolling.Recovery
import DiceLang.Proofs.Rolling.Replay

/-!
# Deterministic expressions

Whether an expression is deterministic is told from its dice terms alone, without rolling. The test
is exact: it passes if and only if the dice can only fall in one way, and since the faces can be read
off the explanation, that is so if and only if all legal throws are explained alike. If the test
fails, the lowest faces and the highest ones already tell two throws apart.
-/

namespace DiceLang

open Roller

/-- A dice term is fixed exactly if none of its dice has two faces. -/
theorem Dice.isFixed_iff {term : Dice} :
    term.isFixed = true ↔ ∀ sides ∈ term.demand, sides.toNat ≤ 1 := by
  rw [isFixed, Bool.or_eq_true, decide_eq_true_eq, beq_iff_eq, UInt64.le_iff_toNat_le, demand]
  constructor
  · rintro fixed sides member
    obtain ⟨some, rfl⟩ := List.mem_replicate.mp member
    rcases fixed with one | none
    · exact one
    · rw [none] at some
      exact absurd rfl some
  · intro forced
    by_cases none : term.count = 0
    · exact .inr none
    · refine .inl (forced _ (List.mem_replicate.mpr ⟨?_, rfl⟩))
      intro zero
      exact none (UInt64.toNat_inj.mp zero)

namespace Expr

/-- There is one face for each die of the expression, in the order of rolling, and each is one that
the die can show. A die without sides shows 1. -/
def Legal (expr : Expr) (faces : List UInt64) : Prop :=
  List.Forall₂ (fun sides face => 1 ≤ face.toNat ∧ face.toNat ≤ max sides.toNat 1) expr.demand faces

/-- The expression comes to this outcome if its dice show these faces: some roller answers them, and
this is the outcome. -/
def ComesTo (expr : Expr) (faces : List UInt64) (outcome : Outcome) : Prop :=
  ∃ (σ : Type) (roller : Roller σ) (before : Table σ) (tosses : List Toss) (after : Table σ),
    expr.Rolls roller before tosses outcome after ∧ tosses.map Toss.face = faces

variable {expr : Expr} {faces others : List UInt64} {outcome : Outcome}

/-- What the expression comes to is decided by the faces, and faces for all dice suffice. -/
theorem comesTo_iff :
    expr.ComesTo faces outcome ↔
      faces.length = expr.demand.length ∧ outcome = expr.outcome faces := by
  constructor
  · rintro ⟨σ, roller, before, tosses, after, rolls, rfl⟩
    exact ⟨rolls.length_faces, (rolls_iff.mp rolls).2.1⟩
  · rintro ⟨enough, rfl⟩
    obtain ⟨tosses, shown, rolls⟩ := rolls_scripted enough [] []
    exact ⟨_, scripted, _, tosses, _, rolls, shown⟩

theorem Legal.length (legal : expr.Legal faces) : faces.length = expr.demand.length :=
  (List.Forall₂.length_eq legal).symm

/-- A rule that gives every die a face it can show makes legal faces. -/
theorem legal_map {rule : UInt64 → UInt64}
    (possible : ∀ sides, 1 ≤ (rule sides).toNat ∧ (rule sides).toNat ≤ max sides.toNat 1) :
    expr.Legal (expr.demand.map rule) := by
  rw [Legal, List.forall₂_map_right_iff, List.forall₂_same]
  exact fun sides _ => possible sides

/-- Every die shows its lowest face. -/
theorem legal_lowest : expr.Legal (expr.demand.map fun _ => 1) :=
  legal_map fun _ => ⟨Nat.le_refl 1, Nat.le_max_right _ _⟩

/-- The highest face of a die. -/
def highestFace (sides : UInt64) : UInt64 :=
  if sides.toNat ≤ 1 then 1 else sides

/-- Every die shows its highest face. -/
theorem legal_highest : expr.Legal (expr.demand.map highestFace) := by
  refine legal_map fun sides => ?_
  unfold highestFace
  split
  · exact ⟨Nat.le_refl 1, Nat.le_max_right _ _⟩
  · omega

/-- An expression is deterministic exactly if none of its dice has two faces. -/
theorem isDeterministic_iff :
    expr.isDeterministic = true ↔ ∀ sides ∈ expr.demand, sides.toNat ≤ 1 := by
  induction expr with
  | num value => simp [isDeterministic, demand, diceTerms, Dice.demandAll]
  | dice term =>
    rw [isDeterministic, Dice.isFixed_iff, demand, diceTerms, Dice.demandAll_cons]
    simp [Dice.demandAll]
  | binary op left right leftHypothesis rightHypothesis =>
    rw [isDeterministic, Bool.and_eq_true, leftHypothesis, rightHypothesis, demand_binary,
      List.forall_mem_append]
  | keep which term amount inductionHypothesis =>
    rw [isDeterministic, Bool.and_eq_true, Dice.isFixed_iff, inductionHypothesis, demand_keep,
      List.forall_mem_append]
  | group inner inductionHypothesis => exact inductionHypothesis

/-- If the lowest faces are the highest ones, no die has two faces. -/
theorem forced_of_lowest_eq_highest
    (same : (expr.demand.map fun _ => 1) = expr.demand.map highestFace) :
    ∀ sides ∈ expr.demand, sides.toNat ≤ 1 := by
  intro sides member
  have alike : (1 : UInt64) = highestFace sides := List.map_inj_left.mp same sides member
  unfold highestFace at alike
  split at alike
  · assumption
  · rw [← alike]
    decide

/-- Dice with one face each show it. -/
theorem Legal.eq_of_forced (forced : ∀ sides ∈ expr.demand, sides.toNat ≤ 1)
    (legal : expr.Legal faces) : faces = expr.demand.map fun _ => 1 := by
  unfold Legal at legal
  generalize expr.demand = demand at forced legal
  induction legal with
  | nil => rfl
  | @cons sides face demand faces possible others inductionHypothesis =>
    rw [List.forall_mem_cons] at forced
    have one : face = 1 := by
      apply UInt64.toNat_inj.mp
      have : (1 : UInt64).toNat = 1 := rfl
      omega
    rw [one, List.map_cons, ← inductionHypothesis forced.2]

/-- The test for deterministic expressions is exact. There is an outcome for all legal faces. The test
passes if and only if all legal faces are explained alike, and then all legal faces lead to the same
outcome, with its result, its rolls and its children. -/
theorem deterministic_iff_explained_alike (expr : Expr) :
    (∀ faces, expr.Legal faces → ∃ outcome, expr.ComesTo faces outcome) ∧
    (expr.isDeterministic = true ↔
      ∀ faces others outcome other, expr.Legal faces → expr.Legal others →
        expr.ComesTo faces outcome → expr.ComesTo others other →
          outcome.explanation = other.explanation) ∧
    (expr.isDeterministic = true →
      ∀ faces others outcome other, expr.Legal faces → expr.Legal others →
        expr.ComesTo faces outcome → expr.ComesTo others other → outcome = other) := by
  have alike : expr.isDeterministic = true →
      ∀ faces others outcome other, expr.Legal faces → expr.Legal others →
        expr.ComesTo faces outcome → expr.ComesTo others other → outcome = other := by
    intro deterministic faces others outcome other legal otherLegal comes otherComes
    have forced := isDeterministic_iff.mp deterministic
    rw [(comesTo_iff.mp comes).2, (comesTo_iff.mp otherComes).2, legal.eq_of_forced forced,
      otherLegal.eq_of_forced forced]
  refine ⟨fun faces legal => ⟨_, comesTo_iff.mpr ⟨legal.length, rfl⟩⟩, ⟨?_, ?_⟩, alike⟩
  · intro deterministic faces others outcome other legal otherLegal comes otherComes
    rw [alike deterministic faces others outcome other legal otherLegal comes otherComes]
  · intro explained
    have same := explained _ _ _ _ legal_lowest legal_highest
      (comesTo_iff.mpr ⟨legal_lowest.length, rfl⟩) (comesTo_iff.mpr ⟨legal_highest.length, rfl⟩)
    rw [isDeterministic_iff]
    exact forced_of_lowest_eq_highest
      (faces_eq_of_explanation_eq legal_lowest.length legal_highest.length same)

end Expr

end DiceLang
