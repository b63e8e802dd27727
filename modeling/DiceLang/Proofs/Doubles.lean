import Mathlib
import DiceLang.Decimal.Binary
import DiceLang.Word

/-!
# The value of a double

A finite double stands for a rational number, which its bits tell. Whether it is at least 1 and
which word it becomes without its fraction are questions about that number: the comparison goes by
exponents and significands, and the conversion shifts the significand, but both answer as the
numbers do.
-/

namespace DiceLang.Decimal

open Float.Model UnpackedFloat

/-- The number that a size stands for. -/
def Binary.value (size : Binary) : ℚ :=
  size.significand * 2 ^ size.exponent

/-- Every significand is below the next power of two, and only the least exponent is for numbers
that leave out the leading bit. -/
structure Binary.Normal (size : Binary) : Prop where
  bounded : size.significand < 2 ^ 53
  leading : 2 ^ 52 ≤ size.significand ∨ size.exponent = -1074

/-- The sign of a double whose sign bit is set or not. -/
def signOf (signed : Bool) : Sign :=
  if signed then .negative else .positive

/-- A double with this sign bit and this magnitude is unpacked so. -/
inductive Unpacks (signed : Bool) : Magnitude → UnpackedFloat → Prop where
  | notANumber : Unpacks signed .notANumber .notANumber
  | infinite : Unpacks signed .infinite (.infinity (signOf signed))
  | zero {size : Binary} (zero : size.significand = 0) :
    Unpacks signed (.finite size) (.zero (signOf signed))
  | finite {size : Binary} (normal : size.Normal) (positive : 0 < size.significand) :
    Unpacks signed (.finite size)
      (.finite (signOf signed) size.significand size.exponent positive)

/-- Equal significands and exponents make up equal numbers. -/
theorem Unpacks.of_eq {signed : Bool} {size : Binary} {mantissa : Nat} {exponent : Int}
    (normal : size.Normal) (sameSignificand : mantissa = size.significand)
    (sameExponent : exponent = size.exponent) (positive : 0 < mantissa) :
    Unpacks signed (.finite size) (.finite (signOf signed) mantissa exponent positive) := by
  subst sameSignificand sameExponent
  exact .finite normal positive

section bits

variable (x : Float)

theorem toNat_unpackExponent :
    (@unpackExponent .binary64 x.toModel.toBits.toBitVec).toNat = Magnitude.exponentBits x := by
  simp [unpackExponent_def, BitVec.extractLsb'_toNat, Nat.shiftRight_eq_div_pow, Float.toBits,
    Magnitude.exponentBits, Magnitude.fractionCount]

theorem toNat_unpackMantissa :
    (@unpackMantissa .binary64 x.toModel.toBits.toBitVec).toNat = Magnitude.fractionBits x := by
  simp [unpackMantissa_def, Float.toBits, Magnitude.fractionBits, Magnitude.fractionCount]

theorem sign_unpackSign :
    Sign.ofBitVec (@unpackSign .binary64 x.toModel.toBits.toBitVec) = signOf (isSigned x) := by
  have bound := x.toBits.toNat_lt
  have bit : (@unpackSign .binary64 x.toModel.toBits.toBitVec).toNat =
      x.toBits.toNat / 0x8000000000000000 % 2 := by
    simp [unpackSign_def, BitVec.extractLsb'_toNat, Nat.shiftRight_eq_div_pow, Float.toBits]
  cases signed : isSigned x with
  | false =>
    have clear : @unpackSign .binary64 x.toModel.toBits.toBitVec = 0#1 := by
      rw [isSigned, decide_eq_false_iff_not] at signed
      apply BitVec.eq_of_toNat_eq
      rw [bit, BitVec.toNat_ofNat]
      omega
    rw [Sign.ofBitVec, if_pos clear]
    rfl
  | true =>
    have set : @unpackSign .binary64 x.toModel.toBits.toBitVec ≠ 0#1 := by
      rw [isSigned, decide_eq_true_eq] at signed
      intro clear
      rw [clear, BitVec.toNat_ofNat] at bit
      omega
    rw [Sign.ofBitVec, if_neg set]
    rfl

/-- A double is unpacked as its bits tell. -/
theorem unpacks : Unpacks (isSigned x) (Magnitude.ofFloat x) x.toModel.unpack := by
  have exponent := toNat_unpackExponent x
  have fraction := toNat_unpackMantissa x
  have allOnes : @unpackExponent .binary64 x.toModel.toBits.toBitVec = -1#11 ↔
      Magnitude.exponentBits x = 0x7FF := by
    rw [← BitVec.toNat_inj, exponent]
    rfl
  have noneExponent : @unpackExponent .binary64 x.toModel.toBits.toBitVec = 0#11 ↔
      Magnitude.exponentBits x = 0 := by
    rw [← BitVec.toNat_inj, exponent]
    rfl
  have noFraction : @unpackMantissa .binary64 x.toModel.toBits.toBitVec = 0#52 ↔
      Magnitude.fractionBits x = 0 := by
    rw [← BitVec.toNat_inj, fraction]
    rfl
  have bounded : Magnitude.fractionBits x < 2 ^ 52 := Nat.mod_lt _ (by decide)
  rw [Magnitude.ofFloat, Float.Model.unpack, UnpackedFloat.unpack]
  simp only [allOnes, noneExponent, noFraction, sign_unpackSign]
  split
  · split
    · exact .infinite
    · exact .notANumber
  · split
    · split
      · exact .zero ‹_›
      · refine .of_eq ⟨Nat.lt_trans bounded (by decide), .inr rfl⟩ fraction ?_ _
        rw [exponent, ‹Magnitude.exponentBits x = 0›]
        rfl
    · refine .of_eq ⟨?_, .inl ?_⟩ ?_ ?_ _
      · exact Nat.add_lt_add_left bounded (2 ^ 52)
      · exact Nat.le_add_right (2 ^ 52) _
      · rw [BitVec.toNat_append, fraction]
        exact (Nat.shiftLeft_add_eq_or_of_lt bounded 1).symm
      · rw [exponent]
        rfl

end bits

section value

/-- One as it is unpacked: the least significand with a leading bit, scaled down to it. -/
theorem unpack_one :
    (1.0 : Float).toModel.unpack = .finite .positive (2 ^ 52) (-52) (by decide) :=
  rfl

variable {size : Binary}

/-- The number in terms of the least significand with a leading bit. -/
theorem Binary.value_eq (size : Binary) :
    size.value = size.significand / 2 ^ 52 * 2 ^ (size.exponent + 52) := by
  rw [value, zpow_add₀ (by norm_num)]
  field_simp

/-- A normal size is at least one exactly if its exponent is greater than that of one, or is the
same and its significand is not smaller. -/
theorem Binary.Normal.one_le_value_iff (normal : size.Normal) :
    1 ≤ size.value ↔ -52 < size.exponent ∨ size.exponent = -52 ∧ 2 ^ 52 ≤ size.significand := by
  rw [Binary.value_eq]
  rcases lt_trichotomy size.exponent (-52) with below | same | above
  · have half : (2 : ℚ) ^ (size.exponent + 52) ≤ 2 ^ (-1 : ℤ) :=
      zpow_le_zpow_right₀ (by norm_num) (by omega)
    have bounded : (size.significand : ℚ) < 2 ^ 53 := by exact_mod_cast normal.bounded
    have less : (size.significand : ℚ) / 2 ^ 52 * 2 ^ (size.exponent + 52) < 1 := by
      calc (size.significand : ℚ) / 2 ^ 52 * 2 ^ (size.exponent + 52)
        _ ≤ size.significand / 2 ^ 52 * 2 ^ (-1 : ℤ) :=
          mul_le_mul_of_nonneg_left half (by positivity)
        _ < 1 := by norm_num; linarith
    exact iff_of_false (not_le.mpr less) (by omega)
  · rw [same, neg_add_cancel, zpow_zero, mul_one, one_le_div (by norm_num)]
    norm_cast
    simp
  · -- Above the least exponent the leading bit is there, and it alone is worth one or more.
    have leading : (2 : ℚ) ^ 52 ≤ size.significand := by
      exact_mod_cast normal.leading.resolve_right (by omega)
    have whole : (1 : ℚ) ≤ size.significand / 2 ^ 52 := by linarith
    have scale : (1 : ℚ) ≤ 2 ^ (size.exponent + 52) := one_le_zpow₀ (by norm_num) (by omega)
    exact iff_of_true (one_le_mul_of_one_le_of_one_le whole scale) (.inl above)

/-- A double is at least one exactly if its value is, and the infinite one without a sign is. -/
theorem one_le_iff (x : Float) :
    1.0 ≤ x ↔ isSigned x = false ∧ (Magnitude.ofFloat x = .infinite ∨
      ∃ size, Magnitude.ofFloat x = .finite size ∧ 1 ≤ size.value) := by
  have compared : 1.0 ≤ x ↔
      UnpackedFloat.le (.finite .positive (2 ^ 52) (-52) (by decide)) x.toModel.unpack = true := by
    rw [← unpack_one]
    exact decide_eq_true_iff
  rw [compared]
  have unpacked := unpacks x
  generalize Magnitude.ofFloat x = magnitude at *
  generalize x.toModel.unpack = shape at *
  cases unpacked with
  | notANumber => simp [UnpackedFloat.le, UnpackedFloat.compare]
  | infinite =>
    cases isSigned x <;> simp [UnpackedFloat.le, UnpackedFloat.compare, signOf]
  | zero zero =>
    cases isSigned x <;> simp [UnpackedFloat.le, UnpackedFloat.compare, Binary.value, zero]
  | @finite size normal positive =>
    cases isSigned x with
    | true => simp [UnpackedFloat.le, UnpackedFloat.compare, signOf]
    | false =>
      have ordered : ((compare (-52) size.exponent).then
          (compare (2 ^ 52) size.significand)).isLE = true ↔ 1 ≤ size.value := by
        rw [normal.one_le_value_iff, Ordering.isLE_then_iff_or, compare_lt_iff_lt,
          compare_eq_iff_eq, Std.isLE_compare, eq_comm]
      simpa [UnpackedFloat.le, UnpackedFloat.compare, signOf] using ordered

/-- Shifting a significand to the right divides it by a power of two. -/
theorem mantissa_shiftRight (extended : ExtendedMantissa) (places : Nat) :
    (extended >>> places).mantissa = extended.mantissa / 2 ^ places := by
  induction places with
  | zero => simp [HShiftRight.hShiftRight, Nat.repeat]
  | succ places inductionHypothesis =>
    calc (extended >>> (places + 1)).mantissa
      _ = (extended >>> places).mantissa / 2 := rfl
      _ = extended.mantissa / 2 ^ (places + 1) := by
        rw [inductionHypothesis, Nat.div_div_eq_div_mul, Nat.pow_succ]

/-- Rounding to a whole number shifts to the left or to the right. -/
theorem roundToInt_eq (significand : Nat) (exponent : Int) :
    roundToInt .positive significand exponent =
      (significand * 2 ^ exponent.toNat / 2 ^ (-exponent).toNat : Nat) := by
  have shift : (0 - (exponent - ((exponent - 0).toNat : Int))).toNat = (-exponent).toNat := by
    omega
  calc roundToInt .positive significand exponent
    _ = ((ExtendedMantissa.mk (significand <<< (exponent - 0).toNat) false false >>>
          (0 - (exponent - ((exponent - 0).toNat : Int))).toNat).mantissa : Int) := rfl
    _ = (significand * 2 ^ exponent.toNat / 2 ^ (-exponent).toNat : Nat) := by
      rw [mantissa_shiftRight, shift, Nat.shiftLeft_eq, Int.sub_zero]

/-- Without its fraction a positive number is rounded down. -/
theorem roundToInt_eq_floor (size : Binary) :
    roundToInt .positive size.significand size.exponent = (⌊size.value⌋₊ : Int) := by
  rw [roundToInt_eq, Binary.value]
  obtain ⟨places, positive | negative⟩ := Int.eq_nat_or_neg size.exponent
  · rw [positive, zpow_natCast]
    have whole : ⌊(size.significand : ℚ) * 2 ^ places⌋₊ = size.significand * 2 ^ places := by
      exact_mod_cast Nat.floor_natCast (R := ℚ) (size.significand * 2 ^ places)
    simp [whole]
  · rw [negative, zpow_neg, zpow_natCast, ← div_eq_mul_inv]
    have fraction : ⌊(size.significand : ℚ) / 2 ^ places⌋₊ = size.significand / 2 ^ places := by
      exact_mod_cast Nat.floor_div_eq_div (K := ℚ) size.significand (2 ^ places)
    simp [fraction]

/-- The word nearest to a number from below, or the largest word. -/
theorem toNat_ofNatClamp (n : Nat) : (UInt64.ofNatClamp n).toNat = min n Word.largest := by
  rw [UInt64.ofNatClamp]
  split
  · rename_i fits
    simp only [UInt64.toNat_ofNatLT, Word.largest]
    omega
  · rename_i large
    simp only [UInt64.toNat_ofNatLT, Word.largest]
    omega

/-- A double without a sign becomes the word of its value without the fraction, or the largest
word. -/
theorem toNat_toUInt64 {x : Float} (unsigned : isSigned x = false) :
    x.toUInt64.toNat =
      match Magnitude.ofFloat x with
      | .notANumber => 0
      | .infinite => Word.largest
      | .finite size => min ⌊size.value⌋₊ Word.largest := by
  have unpacked := unpacks x
  rw [unsigned] at unpacked
  have clamped : x.toUInt64.toNat =
      min (UnpackedFloat.toInt 0 (UInt64.size - 1) x.toModel.unpack).toNat Word.largest :=
    toNat_ofNatClamp _
  rw [clamped]
  generalize Magnitude.ofFloat x = magnitude at *
  generalize x.toModel.unpack = shape at *
  cases unpacked with
  | notANumber => simp [UnpackedFloat.toInt]
  | infinite => simp [UnpackedFloat.toInt, signOf, Word.largest]
  | zero zero => simp [UnpackedFloat.toInt, Binary.value, zero]
  | finite normal positive => simp [UnpackedFloat.toInt, signOf, roundToInt_eq_floor]

end value

end DiceLang.Decimal
