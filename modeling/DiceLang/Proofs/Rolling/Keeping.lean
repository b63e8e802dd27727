import DiceLang.Outcome.Basic
import DiceLang.Proofs.Doubles

/-!
# Keep modifiers

A keep modifier sums faces from one end of their order. How many is told by the value of its amount,
whatever double that is, and never more than there are, so the part to keep always exists. It is
made of the extreme faces, and the faces that are dropped are the others.
-/

namespace DiceLang

namespace Keep

open Decimal

/-- How many of the available faces an amount keeps, told by its value: as many as it is without its
fraction, all if that is too many, and none if it is negative or no number. -/
def wholeCount (amount : Float) (available : Nat) : Nat :=
  if isSigned amount then 0
  else
    match Magnitude.ofFloat amount with
    | .notANumber => 0
    | .infinite => available
    | .finite size => min ⌊size.value⌋₊ available

/-- An amount below one, or one that is no number, keeps nothing. -/
theorem count_of_not_one_le {amount : Float} (below : ¬ 1.0 ≤ amount) (available : Nat) :
    count amount available = 0 :=
  if_neg below

theorem count_le (amount : Float) (available : Nat) : count amount available ≤ available := by
  rw [count]
  split
  · exact Nat.min_le_right _ _
  · exact Nat.zero_le _

/-- If the faces can be counted in words, comparing and converting an amount tells how many of them
it keeps. -/
theorem count_eq_wholeCount {available : Nat} (countable : available ≤ Word.largest)
    (amount : Float) : count amount available = wholeCount amount available := by
  by_cases atLeast : 1.0 ≤ amount
  · obtain ⟨unsigned, infinite | ⟨size, finite, -⟩⟩ := (one_le_iff amount).mp atLeast
    · simp only [count, wholeCount, if_pos atLeast, toNat_toUInt64 unsigned, unsigned, infinite]
      exact Nat.min_eq_right countable
    · simp only [count, wholeCount, if_pos atLeast, toNat_toUInt64 unsigned, unsigned, finite]
      rw [Nat.min_assoc, Nat.min_eq_right countable]
      rfl
  · rw [count_of_not_one_le atLeast, wholeCount]
    rw [one_le_iff] at atLeast
    cases signed : isSigned amount with
    | true => rfl
    | false =>
      cases magnitude : Magnitude.ofFloat amount with
      | notANumber => rfl
      | infinite => exact absurd ⟨signed, .inl magnitude⟩ atLeast
      | finite size =>
        have below : size.value < 1 :=
          not_le.mp fun large => atLeast ⟨signed, .inr ⟨size, magnitude, large⟩⟩
        simp [Nat.floor_eq_zero.mpr below]

section order

variable {faces others : List UInt64} {count : Nat}

theorem ascending_perm (faces : List UInt64) : (ascending faces).Perm faces :=
  List.mergeSort_perm faces _

@[simp]
theorem length_ascending (faces : List UInt64) : (ascending faces).length = faces.length :=
  (ascending_perm faces).length_eq

theorem pairwise_ascending (faces : List UInt64) : (ascending faces).Pairwise (· ≤ ·) := by
  have transitive (low middle high : UInt64) (first : decide (low ≤ middle) = true)
      (second : decide (middle ≤ high) = true) : decide (low ≤ high) = true :=
    decide_eq_true (UInt64.le_trans (of_decide_eq_true first) (of_decide_eq_true second))
  have comparable (left right : UInt64) :
      (decide (left ≤ right) || decide (right ≤ left)) = true := by
    simpa using UInt64.le_total left right
  have sorted := List.pairwise_mergeSort transitive comparable faces
  exact sorted.imp of_decide_eq_true

/-- The order of the faces does not depend on how they were rolled. -/
theorem ascending_congr (same : faces.Perm others) : ascending faces = ascending others := by
  refine List.Perm.eq_of_pairwise (fun _ _ _ _ => UInt64.le_antisymm) (pairwise_ascending faces)
    (pairwise_ascending others) ?_
  exact (ascending_perm faces).trans (same.trans (ascending_perm others).symm)

/-- A cut through the order divides the faces. -/
theorem cut_perm (faces : List UInt64) (position : Nat) :
    ((ascending faces).take position ++ (ascending faces).drop position).Perm faces := by
  rw [List.take_append_drop]
  exact ascending_perm faces

/-- In front of a cut through the order stand the lower faces. -/
theorem le_of_mem_cut {position : Nat} {low high : UInt64}
    (front : low ∈ (ascending faces).take position)
    (behind : high ∈ (ascending faces).drop position) : low ≤ high := by
  have sorted := pairwise_ascending faces
  rw [← List.take_append_drop position (ascending faces), List.pairwise_append] at sorted
  exact sorted.2.2 low front high behind

/-- The highest faces are those behind a cut. -/
theorem select?_highest (count : Nat) (faces : List UInt64) :
    highest.select? count faces = some ((ascending faces).drop (faces.length - count)) := by
  simp only [select?, slice?, length_ascending, Nat.sub_le, Nat.le_refl, and_self, if_true]
  rw [← length_ascending, List.take_length]

/-- The lowest faces are those in front of a cut. -/
theorem select?_lowest (enough : count ≤ faces.length) :
    lowest.select? count faces = some ((ascending faces).take count) := by
  simp only [select?, slice?, length_ascending, Nat.zero_le, enough, and_self, if_true,
    List.drop_zero]

/-- As many faces are selected as are asked for. -/
theorem length_of_select? {which : Keep} {kept : List UInt64} (enough : count ≤ faces.length)
    (selected : which.select? count faces = some kept) : kept.length = count := by
  cases which with
  | highest =>
    rw [select?_highest, Option.some.injEq] at selected
    rw [← selected, List.length_drop, length_ascending]
    omega
  | lowest =>
    rw [select?_lowest enough, Option.some.injEq] at selected
    rw [← selected, List.length_take, length_ascending]
    omega

/-- What is selected does not depend on how the faces were rolled. -/
theorem select?_congr (same : faces.Perm others) (which : Keep) (count : Nat) :
    which.select? count faces = which.select? count others := by
  simp only [select?, ascending_congr same]

/-- Whether a face is kept before another one. Of equal faces it does not matter which. -/
def Prefers : Keep → UInt64 → UInt64 → Prop
  | highest, face, other => other ≤ face
  | lowest, face, other => face ≤ other

/-- The faces are divided into some that are kept, in ascending order, and some that are dropped,
and none that is dropped should have been kept instead. -/
structure Divides (which : Keep) (faces kept dropped : List UInt64) : Prop where
  whole : (kept ++ dropped).Perm faces
  sorted : kept.Pairwise (· ≤ ·)
  extreme : ∀ face ∈ kept, ∀ other ∈ dropped, which.Prefers face other

theorem Divides.length_dropped {which : Keep} {kept dropped : List UInt64}
    (divides : which.Divides faces kept dropped) :
    dropped.length = faces.length - kept.length := by
  have whole := divides.whole.length_eq
  rw [List.length_append] at whole
  omega

/-- As many faces as there are can be selected, and they are the extreme ones. -/
theorem exists_divides (which : Keep) (enough : count ≤ faces.length) :
    ∃ kept dropped, which.select? count faces = some kept ∧
      which.Divides faces kept dropped := by
  have sorted := pairwise_ascending faces
  cases which with
  | highest =>
    exact ⟨_, _, select?_highest count faces,
      List.perm_append_comm.trans (cut_perm faces (faces.length - count)),
      sorted.sublist (List.drop_sublist _ _),
      fun face isKept other isDropped => le_of_mem_cut isDropped isKept⟩
  | lowest =>
    exact ⟨_, _, select?_lowest enough, cut_perm faces count,
      sorted.sublist (List.take_sublist _ _),
      fun face isKept other isDropped => le_of_mem_cut isKept isDropped⟩

/-- The highest faces and as many of the lowest as are left make up all faces. -/
theorem exists_high_append_low (count : Nat) (faces : List UInt64) :
    ∃ high low, highest.select? count faces = some high ∧
      lowest.select? (faces.length - count) faces = some low ∧ (high ++ low).Perm faces :=
  ⟨_, _, select?_highest count faces, select?_lowest (Nat.sub_le _ _),
    List.perm_append_comm.trans (cut_perm faces _)⟩

end order

end Keep

/-- The result of a keep modifier is the sum of the faces that it selects, if it selects any. -/
theorem Outcome.result_keep {which : Keep} {faces kept : List UInt64} {amount : Outcome}
    (selected : which.select? (Keep.count amount.result faces.length) faces = some kept) :
    (keep which (ofFaces faces) amount).result = total kept := by
  simp only [keep, ofFaces, Option.getD_some, selected]

/-- Keep modifiers sum exactly the extreme faces. Whatever double the amount comes to, the part to
keep exists. It has as many faces as the amount is without its fraction, but at most all, and none
for an amount below one or one that is no number. None of the faces that are dropped should have
been kept instead, and the result adds those that are kept up in ascending order, from positive
zero. So the result does not depend on the order in which the faces were rolled, and what is kept
from both ends with counts that add up to their number makes up all faces. -/
theorem keep_sums_extreme_faces (which : Keep) (faces : List UInt64) (amount : Outcome) :
    ∃ kept dropped,
      which.select? (Keep.count amount.result faces.length) faces = some kept ∧
      (¬ 1.0 ≤ amount.result → kept = []) ∧
      (faces.length ≤ Word.largest →
        kept.length = Keep.wholeCount amount.result faces.length) ∧
      dropped.length = faces.length - kept.length ∧
      which.Divides faces kept dropped ∧
      (Outcome.keep which (.ofFaces faces) amount).result =
        kept.foldl (fun sum face => sum + face.toFloat) 0.0 ∧
      (∀ others, others.Perm faces →
        (Outcome.keep which (.ofFaces others) amount).result =
          (Outcome.keep which (.ofFaces faces) amount).result) ∧
      ∀ count ≤ faces.length, ∃ high low,
        Keep.highest.select? count faces = some high ∧ high.length = count ∧
        Keep.lowest.select? (faces.length - count) faces = some low ∧
        low.length = faces.length - count ∧ (high ++ low).Perm faces := by
  have available := Keep.count_le amount.result faces.length
  obtain ⟨kept, dropped, selected, divides⟩ := Keep.exists_divides which available
  have keptLength := Keep.length_of_select? available selected
  refine ⟨kept, dropped, selected, ?_, ?_, divides.length_dropped, divides,
    Outcome.result_keep selected, ?_, ?_⟩
  · intro below
    rw [Keep.count_of_not_one_le below] at keptLength
    exact List.length_eq_zero_iff.mp keptLength
  · intro countable
    rw [keptLength, Keep.count_eq_wholeCount countable]
  · intro others same
    rw [Outcome.result_keep selected]
    rw [← Keep.select?_congr same, ← same.length_eq] at selected
    exact Outcome.result_keep selected
  · intro count enough
    -- Both cut the order at the same position, so no face is in both parts or in none.
    obtain ⟨high, low, selectedHigh, selectedLow, whole⟩ := Keep.exists_high_append_low count faces
    exact ⟨high, low, selectedHigh, Keep.length_of_select? enough selectedHigh, selectedLow,
      Keep.length_of_select? (Nat.sub_le _ _) selectedLow, whole⟩

end DiceLang
