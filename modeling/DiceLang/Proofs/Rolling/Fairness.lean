import Mathlib.Algebra.Order.Floor.Div
import Mathlib.Data.Set.Card
import Mathlib.Order.Interval.Finset.Nat
import DiceLang.Proofs.Rolling.Explanation
import DiceLang.Roller.Uniform

/-!
# Random dice are fair

A random die shows the face of the first draw that is not rejected. Every face from 1 to the number
of sides is the face of equally many draws that are not rejected, so among fair draws no face is more
likely than another.

The faces are counted on the line of the products of draws and sides. Draws with the same high word
have their products in a window as long as the word is large. Rejecting the lowest of them cuts the
window down to a multiple of the sides, and such a window holds as many products wherever it begins.
-/

namespace DiceLang

namespace Generator

@[simp]
theorem toNat_lowWord (left right : UInt64) :
    (lowWord left right).toNat = left.toNat * right.toNat % UInt64.size :=
  UInt64.toNat_mul left right

@[simp]
theorem toNat_highWord (left right : UInt64) :
    (highWord left right).toNat = left.toNat * right.toNat / UInt64.size := by
  rw [highWord, UInt64.toNat_ofNat']
  refine Nat.mod_eq_of_lt (Nat.div_lt_of_lt_mul ?_)
  exact Nat.mul_lt_mul'' left.toNat_lt right.toNat_lt

/-- The states follow each other at a fixed distance. -/
theorem iterate_advance (count : Nat) (state : UInt64) :
    advance^[count] state = state + UInt64.ofNat count * 0x2d358dccaa6c78a5 := by
  induction count with
  | zero => simp
  | succ count inductionHypothesis =>
    rw [Function.iterate_succ_apply', inductionHypothesis, advance, UInt64.ofNat_add,
      UInt64.add_mul, UInt64.add_assoc]
    rfl

/-- After as many draws as there are words, the states begin again. -/
theorem iterate_advance_add_size (count : Nat) (state : UInt64) :
    advance^[count + UInt64.size] state = advance^[count] state := by
  rw [iterate_advance, iterate_advance, UInt64.ofNat_add]
  simp [UInt64.size]

end Generator

namespace Roller

open Generator

variable {sides state face next drawn : UInt64}

/-! ## The first fair draw -/

/-- From the state on, so many draws are rejected and the next one is not. -/
structure FirstFair (sides state : UInt64) (rejected : Nat) : Prop where
  fair : isFair sides (draw (advance^[rejected + 1] state)) = true
  before : ∀ earlier < rejected, isFair sides (draw (advance^[earlier + 1] state)) = false

theorem firstFair_zero_iff :
    FirstFair sides state 0 ↔ isFair sides (draw (advance state)) = true := by
  constructor
  · intro first
    simpa only [zero_add, Function.iterate_one] using first.fair
  · intro fair
    refine ⟨by simpa only [zero_add, Function.iterate_one] using fair, ?_⟩
    exact fun _ sooner => absurd sooner (Nat.not_lt_zero _)

/-- One draw more is rejected if the first one is, and from there on one less. -/
theorem firstFair_succ_iff {rejected : Nat} :
    FirstFair sides state (rejected + 1) ↔
      isFair sides (draw (advance state)) = false ∧ FirstFair sides (advance state) rejected := by
  have later (count : Nat) : advance^[count + 1 + 1] state = advance^[count + 1] (advance state) :=
    Function.iterate_succ_apply advance (count + 1) state
  constructor
  · intro first
    have unfair := first.before 0 (Nat.succ_pos _)
    rw [zero_add, Function.iterate_one] at unfair
    refine ⟨unfair, later rejected ▸ first.fair, fun earlier sooner => ?_⟩
    exact later earlier ▸ first.before (earlier + 1) (Nat.succ_lt_succ sooner)
  · rintro ⟨unfair, first⟩
    refine ⟨(later rejected).symm ▸ first.fair, fun earlier sooner => ?_⟩
    cases earlier with
    | zero => simpa only [zero_add, Function.iterate_one] using unfair
    | succ earlier =>
      exact (later earlier).symm ▸ first.before earlier (Nat.lt_of_succ_lt_succ sooner)

theorem drawFace_succ (sides state : UInt64) (attempts : Nat) :
    drawFace sides (attempts + 1) state =
      if isFair sides (draw (advance state)) = true then
        .ok (faceOf sides (draw (advance state))) (advance state)
      else
        drawFace sides attempts (advance state) := by
  simp only [drawFace]

/-- A die that is drawn for shows the face of the first fair draw, if it comes within the
attempts. -/
theorem drawFace_eq_ok_iff {attempts : Nat} :
    drawFace sides attempts state = .ok face next ↔
      ∃ rejected < attempts, FirstFair sides state rejected ∧
        next = advance^[rejected + 1] state ∧ face = faceOf sides (draw next) := by
  induction attempts generalizing state with
  | zero =>
    constructor
    · intro drawn
      cases drawn
    · rintro ⟨rejected, few, -⟩
      cases few
  | succ attempts inductionHypothesis =>
    rw [drawFace_succ]
    by_cases fair : isFair sides (draw (advance state)) = true
    · rw [if_pos fair, EStateM.Result.ok.injEq]
      constructor
      · rintro ⟨shown, rfl⟩
        refine ⟨0, Nat.succ_pos _, firstFair_zero_iff.mpr fair, ?_, shown.symm⟩
        rw [zero_add, Function.iterate_one]
      · rintro ⟨rejected, -, first, rfl, shown⟩
        cases rejected with
        | zero =>
          rw [zero_add, Function.iterate_one] at shown ⊢
          exact ⟨shown.symm, rfl⟩
        | succ rejected =>
          rw [(firstFair_succ_iff.mp first).1] at fair
          cases fair
    · rw [if_neg fair, inductionHypothesis]
      constructor
      · rintro ⟨rejected, few, first, arrived, shown⟩
        refine ⟨rejected + 1, Nat.succ_lt_succ few, ?_, ?_, shown⟩
        · exact firstFair_succ_iff.mpr ⟨Bool.eq_false_iff.mpr fair, first⟩
        · rwa [Function.iterate_succ_apply]
      · rintro ⟨rejected, few, first, arrived, shown⟩
        cases rejected with
        | zero => exact absurd (firstFair_zero_iff.mp first) fair
        | succ rejected =>
          refine ⟨rejected, Nat.lt_of_succ_lt_succ few, (firstFair_succ_iff.mp first).2, ?_, shown⟩
          rwa [Function.iterate_succ_apply] at arrived

/-- If a fair draw comes at all, it comes before the states begin again. -/
theorem FirstFair.lt_size {rejected : Nat} (first : FirstFair sides state rejected) :
    rejected < UInt64.size := by
  by_contra late
  obtain ⟨earlier, rfl⟩ := Nat.exists_eq_add_of_le' (Nat.le_of_not_lt late)
  have unfair := first.before earlier (Nat.lt_add_of_pos_right (by decide))
  have fair := first.fair
  rw [Nat.add_right_comm, iterate_advance_add_size, unfair] at fair
  cases fair

/-- A random die is answered if and only if a fair draw comes at all, and then by the first one. The
number of attempts is no bound. -/
theorem rollDie_uniform_eq_ok_iff (some : sides ≠ 0) :
    uniform.rollDie sides state = .ok face next ↔
      ∃ rejected, FirstFair sides state rejected ∧ next = advance^[rejected + 1] state ∧
        face = faceOf sides (draw next) := by
  have drawn : uniform.rollDie sides = drawFace sides UInt64.size := if_neg some
  rw [drawn, drawFace_eq_ok_iff]
  constructor
  · rintro ⟨rejected, -, answered⟩
    exact ⟨rejected, answered⟩
  · rintro ⟨rejected, first, answered⟩
    exact ⟨rejected, first.lt_size, first, answered⟩

/-- For a die without sides nothing is drawn. -/
theorem rollDie_uniform_zero (state : UInt64) : uniform.rollDie 0 state = .ok 1 state :=
  rfl

/-! ## Faces are in range -/

theorem toNat_pos (some : sides ≠ 0) : 0 < sides.toNat :=
  Nat.pos_of_ne_zero fun zero => some (UInt64.toNat_inj.mp zero)

/-- A draw has one face for each high word of its product. -/
theorem toNat_faceOf (some : sides ≠ 0) (drawn : UInt64) :
    (faceOf sides drawn).toNat = 1 + drawn.toNat * sides.toNat / UInt64.size ∧
      (faceOf sides drawn).toNat ≤ sides.toNat := by
  have below : drawn.toNat * sides.toNat / UInt64.size < sides.toNat :=
    Nat.div_lt_of_lt_mul (Nat.mul_lt_mul_of_pos_right drawn.toNat_lt (toNat_pos some))
  have large := sides.toNat_lt
  have face : (faceOf sides drawn).toNat = 1 + drawn.toNat * sides.toNat / UInt64.size := by
    rw [faceOf, UInt64.toNat_add, toNat_highWord]
    exact Nat.mod_eq_of_lt (by simp only [UInt64.toNat_one]; omega)
  omega

/-- A random die only shows faces that it has. A die without sides shows 1. -/
theorem rollDie_uniform_range (rolled : uniform.rollDie sides state = .ok face next) :
    1 ≤ face.toNat ∧ face.toNat ≤ max sides.toNat 1 := by
  by_cases none : sides = 0
  · subst none
    cases rolled
    decide
  · obtain ⟨rejected, -, -, rfl⟩ := (rollDie_uniform_eq_ok_iff none).mp rolled
    obtain ⟨same, most⟩ := toNat_faceOf none (draw next)
    exact ⟨same ▸ Nat.le_add_right 1 _, le_max_of_le_left most⟩

/-- Whatever dice are asked for, each answer is a face of its die. -/
theorem ask_uniform_range (asked : List UInt64) (state : UInt64) :
    ∀ toss ∈ (uniform.ask asked state).tosses,
      1 ≤ toss.face.toNat ∧ toss.face.toNat ≤ max toss.sides.toNat 1 := by
  induction asked generalizing state with
  | nil => exact List.forall_mem_nil _
  | cons sides asked inductionHypothesis =>
    cases rolled : uniform.rollDie sides state with
    | ok face next =>
      rw [ask_cons_of_ok rolled, Answers.tosses_behind, List.singleton_append, List.forall_mem_cons]
      exact ⟨rollDie_uniform_range rolled, inductionHypothesis next⟩
    | error fault next =>
      rw [ask_cons_of_error rolled]
      exact List.forall_mem_nil _

/-! ## Faces are equally likely -/

/-- A draw is fair if its low word is not among the first ones that are too many. -/
theorem isFair_iff (some : sides ≠ 0) :
    isFair sides drawn = true ↔
      UInt64.size % sides.toNat ≤ drawn.toNat * sides.toNat % UInt64.size := by
  have positive := toNat_pos some
  have large := sides.toNat_lt
  have surplus : ((0 - sides) % sides).toNat = UInt64.size % sides.toNat := by
    have wrapped : 2 ^ 64 - sides.toNat < 2 ^ 64 := Nat.sub_lt (by decide) positive
    rw [UInt64.toNat_mod, UInt64.toNat_sub, UInt64.toNat_zero, Nat.add_zero,
      Nat.mod_eq_of_lt wrapped, ← Nat.mod_eq_sub_mod (Nat.le_of_lt large), UInt64.size]
  have few : UInt64.size % sides.toNat < sides.toNat := Nat.mod_lt _ positive
  rw [isFair, Bool.not_eq_true', Bool.and_eq_false_iff, decide_eq_false_iff_not,
    decide_eq_false_iff_not, UInt64.lt_iff_toNat_lt, UInt64.lt_iff_toNat_lt, surplus, toNat_lowWord]
  omega

/-- A window whose length is a multiple of a step holds that many multiples of it, one after the
other. -/
theorem multiples_in_window {step : Nat} (positive : 0 < step) (start count : Nat) :
    {factor | start ≤ factor * step ∧ factor * step < start + count * step} =
      Set.Ico (start ⌈/⌉ step) (start ⌈/⌉ step + count) := by
  ext factor
  have begins (factor : Nat) : start ⌈/⌉ step ≤ factor ↔ start ≤ factor * step := by
    rw [ceilDiv_le_iff_le_mul positive, Nat.mul_comm]
  rw [Set.mem_ofPred_eq, Set.mem_Ico, begins]
  refine and_congr_right fun _ => ?_
  by_cases early : factor < count
  · have short : factor * step < count * step := Nat.mul_lt_mul_of_pos_right early positive
    omega
  · obtain ⟨further, rfl⟩ := Nat.exists_eq_add_of_le' (Nat.le_of_not_lt early)
    rw [Nat.add_mul, Nat.add_lt_add_iff_right, Nat.add_lt_add_iff_right, ← Nat.not_le, ← begins,
      Nat.not_le]

/-- The fair draws for a face have their products in one window. -/
theorem fair_face_iff (some : sides ≠ 0) (positive : 1 ≤ face.toNat) :
    isFair sides drawn = true ∧ faceOf sides drawn = face ↔
      (face.toNat - 1) * UInt64.size + UInt64.size % sides.toNat ≤ drawn.toNat * sides.toNat ∧
        drawn.toNat * sides.toNat < (face.toNat - 1) * UInt64.size + UInt64.size := by
  have few : UInt64.size % sides.toNat < sides.toNat := Nat.mod_lt _ (toNat_pos some)
  have large := sides.toNat_lt
  rw [isFair_iff some, ← UInt64.toNat_inj, (toNat_faceOf some drawn).1]
  generalize drawn.toNat * sides.toNat = product
  generalize UInt64.size % sides.toNat = surplus at *
  simp only [UInt64.size] at *
  omega

/-- Every face that a die has is the face of equally many fair draws. -/
theorem ncard_fair_face (positive : 1 ≤ face.toNat) (inRange : face.toNat ≤ sides.toNat) :
    {drawn | isFair sides drawn = true ∧ faceOf sides drawn = face}.ncard =
      UInt64.size / sides.toNat := by
  have some : sides ≠ 0 := by
    rintro rfl
    exact absurd (Nat.le_trans positive inRange) (by decide)
  have whole : UInt64.size % sides.toNat + UInt64.size / sides.toNat * sides.toNat =
      UInt64.size := by
    rw [Nat.mul_comm]
    exact Nat.mod_add_div _ _
  have window := multiples_in_window (toNat_pos some)
    ((face.toNat - 1) * UInt64.size + UInt64.size % sides.toNat) (UInt64.size / sides.toNat)
  rw [Nat.add_assoc, whole] at window
  have counted : UInt64.toNat '' {drawn | isFair sides drawn = true ∧ faceOf sides drawn = face} =
      {factor | (face.toNat - 1) * UInt64.size + UInt64.size % sides.toNat ≤ factor * sides.toNat ∧
        factor * sides.toNat < (face.toNat - 1) * UInt64.size + UInt64.size} := by
    ext number
    simp only [Set.mem_image, Set.mem_ofPred_eq, fair_face_iff some positive]
    constructor
    · rintro ⟨drawn, within, rfl⟩
      exact within
    · intro within
      -- A product in the window is one of a word, because the window lies below the last of them.
      have word : number < UInt64.size := by
        by_contra large
        have atLeast : UInt64.size * sides.toNat ≤ number * sides.toNat :=
          Nat.mul_le_mul_right _ (Nat.le_of_not_lt large)
        simp only [UInt64.size] at *
        omega
      have same : (UInt64.ofNat number).toNat = number := by
        rw [UInt64.toNat_ofNat']
        exact Nat.mod_eq_of_lt word
      exact ⟨UInt64.ofNat number, by rwa [same], same⟩
  rw [← Set.ncard_image_of_injective _ fun _ _ => UInt64.toNat_inj.mp, counted, window, ← Finset.coe_Ico,
    Set.ncard_coe_finset, Nat.card_Ico, Nat.add_sub_cancel_left]

end Roller

namespace Expr

open Roller Generator

variable {expr : Expr} {before after : Table UInt64} {outcome node : Outcome}
  {faces : List UInt64} {path : List Nat}

/-- Wherever an outcome of random dice shows faces, they are faces of the dice term at the same
place. -/
theorem faces_of_uniform (evaluated : expr.eval uniform before = .ok outcome after)
    (found : outcome.node? path = some node) (shown : node.rolls = some faces) :
    ∃ part term, expr.node? path = some part ∧ part.bareDice? = some term ∧
      faces.length = term.count.toNat ∧
      ∀ face ∈ faces, 1 ≤ face.toNat ∧ face.toNat ≤ max term.sides.toNat 1 := by
  obtain ⟨tosses, rolls⟩ := eval_eq_ok_iff.mp evaluated
  obtain ⟨part, earlier, own, later, start, stop, samePath, -, partRolls⟩ :=
    rolls.mirrors.node found
  have shows := partRolls.shows
  rw [shows.faces, Option.map_eq_some_iff] at shown
  obtain ⟨term, bare, rfl⟩ := shown
  have asked := partRolls.sides_eq
  rw [demand, diceTerms_of_bareDice bare, Dice.demandAll, List.flatMap_singleton, Dice.demand]
    at asked
  have answered := (rolls_iff.mp partRolls).1
  refine ⟨part, term, samePath, bare, by rw [List.length_map, shows.count term bare], ?_⟩
  rw [List.forall_mem_map]
  intro toss member
  have sides : toss.sides = term.sides := by
    have listed := List.mem_map_of_mem (f := Toss.sides) member
    rw [asked] at listed
    exact List.eq_of_mem_replicate listed
  have range := ask_uniform_range part.demand start.state
  rw [answered] at range
  rw [← sides]
  exact range toss member

/-- Random dice are in range and fair. A die with sides is answered if and only if a fair draw comes
at all, with the face of the first one, which is a face of the die; and over all words that can be
drawn, each face of the die is the face of equally many fair draws. A die without sides shows 1, and
nothing is drawn. So wherever an outcome shows faces, they are as many as the dice term at the same
place counts, and each is one of its faces. -/
theorem random_dice_are_fair :
    (∀ sides state face next : UInt64, sides ≠ 0 →
      (uniform.rollDie sides state = .ok face next ↔
        ∃ rejected, FirstFair sides state rejected ∧ next = advance^[rejected + 1] state ∧
          face = faceOf sides (draw next)) ∧
      (uniform.rollDie sides state = .ok face next →
        1 ≤ face.toNat ∧ face.toNat ≤ sides.toNat)) ∧
    (∀ sides face : UInt64, 1 ≤ face.toNat → face.toNat ≤ sides.toNat →
      {drawn | isFair sides drawn = true ∧ faceOf sides drawn = face}.ncard =
        UInt64.size / sides.toNat) ∧
    (∀ state, uniform.rollDie 0 state = .ok 1 state) ∧
    ∀ (expr : Expr) before outcome after, expr.eval uniform before = .ok outcome after →
      ∀ path node faces, outcome.node? path = some node → node.rolls = some faces →
        ∃ part term, expr.node? path = some part ∧ part.bareDice? = some term ∧
          faces.length = term.count.toNat ∧
          ∀ face ∈ faces, 1 ≤ face.toNat ∧ face.toNat ≤ max term.sides.toNat 1 := by
  refine ⟨?_, fun _ _ => ncard_fair_face, rollDie_uniform_zero, ?_⟩
  · intro sides state face next some
    refine ⟨rollDie_uniform_eq_ok_iff some, fun rolled => ?_⟩
    have range := rollDie_uniform_range rolled
    rwa [Nat.max_eq_left (toNat_pos some)] at range
  · intro expr before outcome after evaluated path node faces found shown
    exact faces_of_uniform evaluated found shown

/-- One die with six sides from a fresh generator. -/
theorem random_dice_are_fair_singleDie :
    ∃ outcome after, (dice ⟨1, 6⟩).eval uniform (.fresh 0) = .ok outcome after ∧
      outcome.rolls = some [4] ∧
      ∃ part term, (dice ⟨1, 6⟩).node? [] = some part ∧ part.bareDice? = some term ∧
        [(4 : UInt64)].length = term.count.toNat ∧
        ∀ face ∈ [(4 : UInt64)], 1 ≤ face.toNat ∧ face.toNat ≤ max term.sides.toNat 1 := by
  have rolled : uniform.rollDie 6 0 = .ok 4 (advance 0) :=
    (rollDie_uniform_eq_ok_iff (by decide)).mpr
      ⟨0, firstFair_zero_iff.mpr (by decide), by rw [zero_add, Function.iterate_one], by decide⟩
  have answered : uniform.ask (dice ⟨1, 6⟩).demand 0 = ⟨[⟨6, 4⟩], advance 0, none⟩ :=
    ask_cons_of_ok rolled []
  have rolls : (dice ⟨1, 6⟩).Rolls uniform (.fresh 0) [⟨6, 4⟩] (Outcome.ofFaces [4])
      ⟨advance 0, [⟨⟨1, 6⟩, [4]⟩]⟩ := rolls_iff.mpr ⟨answered, rfl, rfl⟩
  have evaluated := eval_eq_ok_iff.mpr ⟨_, rolls⟩
  exact ⟨_, _, evaluated, rfl, random_dice_are_fair.2.2.2 _ _ _ _ evaluated [] _ [4] rfl rfl⟩

end Expr

end DiceLang
