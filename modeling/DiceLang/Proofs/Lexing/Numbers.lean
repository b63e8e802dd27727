import DiceLang.Decimal.Numeral
import DiceLang.Word

/-!
# Numbers in a text

A run of digits is read with words alone, clamping at every digit. That comes to the same as
reading it without any bound and clamping once at the end. The digits of a word read back as that
word.
-/

namespace DiceLang

namespace Text

variable {property : Char → Bool} {front rest : List Char}

/-- Characters with a property that nothing continues are the run of such characters at the
front. -/
theorem takeWhile_append (all : ∀ c ∈ front, property c = true)
    (apart : ∀ c ∈ rest.head?, property c = false) : (front ++ rest).takeWhile property = front := by
  rw [List.takeWhile_append_of_pos all]
  cases rest with
  | nil => simp
  | cons first rest => simp [apart first rfl]

/-- Behind characters with a property that nothing continues is what follows the run of such
characters. -/
theorem dropWhile_append (all : ∀ c ∈ front, property c = true)
    (apart : ∀ c ∈ rest.head?, property c = false) : (front ++ rest).dropWhile property = rest := by
  rw [List.dropWhile_append_of_pos all]
  cases rest with
  | nil => simp
  | cons first rest => simp [apart first rfl]

/-- What follows a run of characters that is taken whole does not continue it. -/
theorem head?_dropWhile (property : Char → Bool) (text : List Char) :
    ∀ c ∈ (text.dropWhile property).head?, property c = false := by
  intro c isFirst
  have stopped := List.head?_dropWhile_not property text
  rw [isFirst] at stopped
  simpa using stopped

end Text

namespace Decimal

/-- The digits of a number denote it. -/
@[simp]
theorem natOfDigits_toDigits (n : Nat) : natOfDigits (Nat.toDigits 10 n) = n := by
  have same : natOfDigits (Nat.toDigits 10 n) = Nat.ofDigitChars 10 (Nat.toDigits 10 n) 0 := by
    rw [Nat.ofDigitChars_eq_foldl, natOfDigits]
    simp only [Nat.mul_comm 10]
  rw [same, Nat.ofDigitChars_ten_toDigits]

/-- A number is written in digits. -/
theorem isDigit_of_mem_toDigits {n : Nat} {c : Char} (member : c ∈ Nat.toDigits 10 n) :
    c.isDigit = true :=
  Nat.isDigit_of_mem_toDigits (by decide) (by decide) member

section run

variable {digits rest : List Char}

/-- Where digits end is seen from what follows them, so two texts that begin with digits agree in
the digits and behind them. -/
theorem isDigit_append_inj {others more : List Char}
    (isDigit : ∀ c ∈ digits, c.isDigit = true) (apart : ∀ c ∈ rest.head?, c.isDigit = false)
    (otherDigit : ∀ c ∈ others, c.isDigit = true) (otherApart : ∀ c ∈ more.head?, c.isDigit = false)
    (same : digits ++ rest = others ++ more) : digits = others ∧ rest = more := by
  constructor
  · have taken := congrArg (List.takeWhile Char.isDigit) same
    rwa [Text.takeWhile_append isDigit apart,
      Text.takeWhile_append otherDigit otherApart] at taken
  · have dropped := congrArg (List.dropWhile Char.isDigit) same
    rwa [Text.dropWhile_append isDigit apart,
      Text.dropWhile_append otherDigit otherApart] at dropped

end run

end Decimal

namespace Word

/-- One more digit behind a clamped number clamps to the same as behind the number itself. -/
theorem add_mul_saturate (n : Nat) (digit : Char) :
    add (mul (saturate n) 10) (ofDigit digit) =
      saturate (n * 10 + (digit.toNat - '0'.toNat)) := by
  apply UInt64.toNat_inj.mp
  rw [toNat_add, toNat_mul, ofDigit, toNat_saturate, toNat_saturate, toNat_saturate]
  have ten : (10 : UInt64).toNat = 10 := rfl
  rw [ten]
  generalize digit.toNat - '0'.toNat = value
  simp only [largest, UInt64.size]
  omega

/-- Clamping at every digit is clamping once. -/
theorem ofDigits_eq_saturate (digits : List Char) :
    ofDigits digits = saturate (Decimal.natOfDigits digits) := by
  have general (n : Nat) : digits.foldl (fun word digit => add (mul word 10) (ofDigit digit))
      (saturate n) = saturate (digits.foldl
        (fun value digit => value * 10 + (digit.toNat - '0'.toNat)) n) := by
    induction digits generalizing n with
    | nil => rfl
    | cons digit digits inductionHypothesis =>
      rw [List.foldl_cons, add_mul_saturate, inductionHypothesis, List.foldl_cons]
  exact general 0

/-- A word is written in digits. -/
theorem isDigit_of_mem_text {word : UInt64} {c : Char} (member : c ∈ (text word).toList) :
    c.isDigit = true := by
  rw [text, Nat.toList_repr] at member
  exact Decimal.isDigit_of_mem_toDigits member

/-- A word is written with at least one digit. -/
theorem text_toList_ne_nil (word : UInt64) : (text word).toList ≠ [] := by
  rw [text, Nat.toList_repr]
  exact Nat.toDigits_ne_nil

/-- What is written for a word reads back as that word. -/
@[simp]
theorem saturate_natOfDigits_text (word : UInt64) :
    saturate (Decimal.natOfDigits (text word).toList) = word := by
  rw [text, Nat.toList_repr, Decimal.natOfDigits_toDigits, saturate_toNat]

end Word

end DiceLang
