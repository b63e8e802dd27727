import DiceLang.Proofs.Rolling.Evaluating

/-!
# Replaying a roll

An evaluation knows its roller by the faces alone. Whatever hands out the faces of an evaluation once
more, in order and whatever the sides, brings about the same outcome, and hands out nothing else. A
scripted roller does so for any script that begins with them.
-/

namespace DiceLang

open Roller

variable {σ τ : Type}

namespace Roller

/-- From one state to another the roller hands out these faces, whatever it is asked for. -/
inductive Deals (roller : Roller σ) : σ → List UInt64 → σ → Prop where
  | done {state : σ} : Deals roller state [] state
  | deal {state next final : σ} {face : UInt64} {faces : List UInt64}
      (rolled : ∀ sides, roller.rollDie sides state = .ok face next)
      (others : Deals roller next faces final) : Deals roller state (face :: faces) final

/-- A scripted roller hands out its script from the front. -/
theorem scripted_deals (faces rest : List UInt64) : scripted.Deals (faces ++ rest) faces rest := by
  induction faces with
  | nil => exact .done
  | cons face faces inductionHypothesis => exact .deal (fun _ => rfl) inductionHypothesis

/-- A roller that hands out the faces of some dice answers them. -/
theorem Deals.ask_eq {roller : Roller σ} {tosses : List Toss} {start stop : σ}
    (deals : roller.Deals start (tosses.map Toss.face) stop) :
    roller.ask (tosses.map Toss.sides) start = ⟨tosses, stop, none⟩ := by
  induction tosses generalizing start with
  | nil =>
    cases deals
    rfl
  | cons toss tosses inductionHypothesis =>
    cases deals with
    | deal rolled others =>
      rw [List.map_cons, ask_cons_of_ok (rolled toss.sides), inductionHypothesis others]
      rfl

end Roller

namespace Expr

variable {roller : Roller σ} {expr : Expr} {before after : Table σ} {tosses : List Toss}
  {outcome : Outcome}

/-- Handing out the faces of an evaluation once more repeats it. -/
theorem Rolls.replay {other : Roller τ} {start stop : τ}
    (rolls : expr.Rolls roller before tosses outcome after)
    (deals : other.Deals start (tosses.map Toss.face) stop) (throws : List Throw) :
    expr.Rolls other ⟨start, throws⟩ tosses outcome
      ⟨stop, throws ++ Throw.complete expr.diceTerms (tosses.map Toss.face)⟩ := by
  rw [rolls_iff]
  refine ⟨?_, (rolls_iff.mp rolls).2.1, rfl⟩
  rw [← rolls.sides_eq]
  exact deals.ask_eq

/-- A script that begins with a face for every die is rolled to the end of these faces. -/
theorem rolls_scripted {faces : List UInt64} (enough : faces.length = expr.demand.length)
    (rest : List UInt64) (throws : List Throw) :
    ∃ tosses, tosses.map Toss.face = faces ∧
      expr.Rolls scripted ⟨faces ++ rest, throws⟩ tosses (expr.outcome faces)
        ⟨rest, throws ++ Throw.complete expr.diceTerms faces⟩ := by
  have sides : ((expr.demand.zip faces).map fun die => Toss.mk die.1 die.2).map Toss.sides =
      expr.demand := by
    rw [List.map_map]
    exact List.map_fst_zip (Nat.le_of_eq enough.symm)
  have shown : ((expr.demand.zip faces).map fun die => Toss.mk die.1 die.2).map Toss.face =
      faces := by
    rw [List.map_map]
    exact List.map_snd_zip (Nat.le_of_eq enough)
  refine ⟨_, shown, ?_⟩
  rw [rolls_iff, shown]
  refine ⟨?_, rfl, rfl⟩
  have deals := scripted_deals faces rest
  conv at deals => arg 3; rw [← shown]
  have answered := deals.ask_eq
  rwa [sides] at answered

/-- Evaluations that saw the same faces came to the same outcome. -/
theorem Rolls.outcome_eq {other : Roller τ} {otherBefore otherAfter : Table τ}
    {otherTosses : List Toss} {otherOutcome : Outcome}
    (rolls : expr.Rolls roller before tosses outcome after)
    (otherRolls : expr.Rolls other otherBefore otherTosses otherOutcome otherAfter)
    (same : otherTosses.map Toss.face = tosses.map Toss.face) : otherOutcome = outcome := by
  rw [(rolls_iff.mp rolls).2.1, (rolls_iff.mp otherRolls).2.1, same]

/-- An evaluation depends on its roller only through the faces. If it came to an outcome after some
dice, then a script that begins with their faces leads to the same outcome and leaves exactly the
rest of the script, and so does any other source that hands out these faces, be it endless. Any two
rollers that answer the same faces lead to the same outcome. -/
theorem outcome_depends_on_faces (evaluated : expr.eval roller before = .ok outcome after) :
    ∃ tosses thrown, expr.Rolls roller before tosses outcome after ∧
      after.throws = before.throws ++ thrown ∧
      (∀ rest throws, expr.eval scripted ⟨tosses.map Toss.face ++ rest, throws⟩ =
        .ok outcome ⟨rest, throws ++ thrown⟩) ∧
      (∀ (ι : Type) (source : Roller ι) start stop throws,
        source.Deals start (tosses.map Toss.face) stop →
          expr.eval source ⟨start, throws⟩ = .ok outcome ⟨stop, throws ++ thrown⟩) ∧
      ∀ (τ : Type) (other : Roller τ) otherBefore otherTosses otherOutcome otherAfter,
        expr.Rolls other otherBefore otherTosses otherOutcome otherAfter →
          otherTosses.map Toss.face = tosses.map Toss.face → otherOutcome = outcome := by
  obtain ⟨tosses, rolls⟩ := eval_eq_ok_iff.mp evaluated
  refine ⟨tosses, Throw.complete expr.diceTerms (tosses.map Toss.face), rolls,
    (rolls_iff.mp rolls).2.2, ?_, ?_, ?_⟩
  · intro rest throws
    exact eval_eq_ok_iff.mpr ⟨tosses, rolls.replay (scripted_deals _ rest) throws⟩
  · intro ι source start stop throws deals
    exact eval_eq_ok_iff.mpr ⟨tosses, rolls.replay deals throws⟩
  · intro τ other otherBefore otherTosses otherOutcome otherAfter otherRolls same
    exact rolls.outcome_eq otherRolls same

/-- What a roller that counts its calls answers for `2d6kh1d4` can be replayed. -/
theorem outcome_depends_on_faces_cycling :
    ∃ outcome after,
      (keep .highest ⟨2, 6⟩ (dice ⟨1, 4⟩)).eval cycling (.fresh 0) = .ok outcome after ∧
      ∃ tosses thrown,
        (keep .highest ⟨2, 6⟩ (dice ⟨1, 4⟩)).Rolls cycling (.fresh 0) tosses outcome after ∧
        after.throws = [] ++ thrown ∧
        (∀ rest throws, (keep .highest ⟨2, 6⟩ (dice ⟨1, 4⟩)).eval scripted
            ⟨tosses.map Toss.face ++ rest, throws⟩ = .ok outcome ⟨rest, throws ++ thrown⟩) ∧
        (∀ (ι : Type) (source : Roller ι) start stop throws,
          source.Deals start (tosses.map Toss.face) stop →
            (keep .highest ⟨2, 6⟩ (dice ⟨1, 4⟩)).eval source ⟨start, throws⟩ =
              .ok outcome ⟨stop, throws ++ thrown⟩) ∧
        ∀ (τ : Type) (other : Roller τ) otherBefore otherTosses otherOutcome otherAfter,
          (keep .highest ⟨2, 6⟩ (dice ⟨1, 4⟩)).Rolls other otherBefore otherTosses otherOutcome
              otherAfter →
            otherTosses.map Toss.face = tosses.map Toss.face → otherOutcome = outcome :=
  ⟨_, _, rfl, outcome_depends_on_faces rfl⟩

end Expr

end DiceLang
