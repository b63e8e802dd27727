/-!
# Saturating words

Literals, dice counts, sides and faces are 64-bit words. Whatever does not fit is clamped to the
largest word, so that a count or a literal can be too small but never wraps to a different one.
-/

namespace DiceLang.Word

/-- The largest word, as a natural number. -/
def largest : Nat := UInt64.size - 1

/-- The word nearest to a natural number from below. -/
def saturate (n : Nat) : UInt64 := UInt64.ofNat (min n largest)

/-- The sum of two words, clamped. -/
def add (left right : UInt64) : UInt64 := saturate (left.toNat + right.toNat)

/-- The product of two words, clamped. -/
def mul (left right : UInt64) : UInt64 := saturate (left.toNat * right.toNat)

/-- The value of a decimal digit. -/
def ofDigit (digit : Char) : UInt64 := saturate (digit.toNat - '0'.toNat)

/-- The word that a run of decimal digits denotes. It is clamped at every digit, so a run of any
length is read with words alone. -/
def ofDigits (digits : List Char) : UInt64 :=
  digits.foldl (fun word digit => add (mul word 10) (ofDigit digit)) 0

/-- The decimal digits of a word, without leading zeros. -/
def text (word : UInt64) : String := word.toNat.repr

@[simp]
theorem toNat_saturate (n : Nat) : (saturate n).toNat = min n largest := by
  rw [saturate, UInt64.toNat_ofNat']
  exact Nat.mod_eq_of_lt (by simp only [largest, UInt64.size]; omega)

theorem toNat_le_largest (word : UInt64) : word.toNat ≤ largest := by
  have := word.toNat_lt
  simp only [largest, UInt64.size]
  omega

@[simp]
theorem saturate_toNat (word : UInt64) : saturate word.toNat = word := by
  apply UInt64.toNat_inj.mp
  rw [toNat_saturate, Nat.min_eq_left (toNat_le_largest word)]

theorem toNat_add (left right : UInt64) :
    (add left right).toNat = min (left.toNat + right.toNat) largest :=
  toNat_saturate _

theorem toNat_mul (left right : UInt64) :
    (mul left right).toNat = min (left.toNat * right.toNat) largest :=
  toNat_saturate _

end DiceLang.Word
