import Mathlib.Data.List.TakeDrop
import DiceLang.Decimal.Reading
import DiceLang.Json.Parser
import DiceLang.Proofs.Lexing.Numbers

/-!
# Written numbers read back

A numeral whose digits stand as a document asks for is read back part by part: what follows each
part shows that it has ended. The digits of a natural number stand so, because they do not begin
with a zero that something follows.
-/

namespace DiceLang

namespace Decimal

/-- Only the digits of zero begin with a zero. -/
theorem eq_zero_of_toDigits_eq_cons {n : Nat} {rest : List Char}
    (begins : Nat.toDigits 10 n = '0' :: rest) : n = 0 := by
  induction n using Nat.strongRecOn generalizing rest with
  | ind n inductionHypothesis =>
    rcases Nat.lt_or_ge n 10 with small | large
    · rw [Nat.toDigits_of_lt_base small, List.cons.injEq] at begins
      exact Nat.digitChar_eq_zero.mp begins.1
    · rw [Nat.toDigits_of_base_le (by decide) large, List.append_eq_cons_iff] at begins
      rcases begins with ⟨empty, -⟩ | ⟨more, begins, -⟩
      · exact absurd empty Nat.toDigits_ne_nil
      · have := inductionHypothesis (n / 10) (by omega) begins
        omega

namespace Numeral

/-- A numeral as a document may hold it: there are digits before the point, a zero stands alone
there, and what follows the point are digits too. -/
structure WellFormed (numeral : Numeral) : Prop where
  whole_ne_nil : numeral.whole ≠ []
  isDigit_whole : ∀ c ∈ numeral.whole, c.isDigit = true
  zero_alone : ∀ rest, numeral.whole = '0' :: rest → rest = []
  isDigit_fraction : ∀ c ∈ numeral.fraction, c.isDigit = true

/-- The numeral of a natural number is well-formed. -/
theorem ofNat_wellFormed (n : Nat) : (ofNat n).WellFormed where
  whole_ne_nil := Nat.toDigits_ne_nil
  isDigit_whole _ member := isDigit_of_mem_toDigits member
  zero_alone rest begins := by
    have isZero : n = 0 := eq_zero_of_toDigits_eq_cons begins
    subst isZero
    simpa [ofNat] using begins.symm
  isDigit_fraction := by simp [ofNat]

/-- The text of a numeral, part by part from its front. -/
theorem text_eq (numeral : Numeral) :
    numeral.text = (if numeral.negative then ['-'] else []) ++ (numeral.whole ++
      ((if numeral.fraction = [] then [] else '.' :: numeral.fraction) ++
        numeral.exponent.elim [] exponentText)) := by
  rw [text, List.append_assoc, List.append_assoc]
  cases numeral.exponent <;> rfl

/-- Whether a numeral can begin with the character: it is a sign or a digit. -/
def CanBegin (c : Char) : Prop :=
  c = '-' ∨ c.isDigit = true

/-- A well-formed numeral begins with a sign or a digit. -/
theorem WellFormed.text_eq_cons {numeral : Numeral} (wellFormed : numeral.WellFormed) :
    ∃ c more, numeral.text = c :: more ∧ CanBegin c := by
  rw [text_eq]
  cases numeral.negative with
  | true => exact ⟨'-', _, rfl, Or.inl rfl⟩
  | false =>
    obtain ⟨digit, digits, isWhole⟩ := List.exists_cons_of_ne_nil wellFormed.whole_ne_nil
    rw [isWhole]
    exact ⟨digit, _, rfl, Or.inr (wellFormed.isDigit_whole digit (by simp [isWhole]))⟩

/-- The numeral of a word denotes that word. -/
@[simp]
theorem toWord?_ofNat (word : UInt64) : (ofNat word.toNat).toWord? = some word := by
  simp [toWord?, ofNat, Word.toNat_le_largest]

end Numeral

end Decimal

namespace Json

open Decimal (Numeral)

/-- Whether a numeral in front of the text ends there: nothing that could continue it follows. -/
def EndsNumeral (rest : List Char) : Prop :=
  ∀ c ∈ rest.head?, c.isDigit = false ∧ c ≠ '.' ∧ c ≠ 'e' ∧ c ≠ 'E'

section digits

variable {digits rest : List Char}

/-- Digits that nothing continues are read in full. -/
theorem readDigits_append (nonempty : digits ≠ []) (isDigit : ∀ c ∈ digits, c.isDigit = true)
    (apart : ∀ c ∈ rest.head?, c.isDigit = false) :
    readDigits (digits ++ rest) = some (digits, rest) := by
  rw [readDigits, List.span_eq_takeWhile_dropWhile,
    Text.takeWhile_append isDigit apart, Text.dropWhile_append isDigit apart]
  cases digits with
  | nil => exact absurd rfl nonempty
  | cons => rfl

/-- The digits of an exponent are read as its size. -/
theorem readDigits_toDigits (n : Nat) (apart : ∀ c ∈ rest.head?, c.isDigit = false) :
    readDigits (Nat.toDigits 10 n ++ rest) = some (Nat.toDigits 10 n, rest) :=
  readDigits_append Nat.toDigits_ne_nil (fun _ => Decimal.isDigit_of_mem_toDigits) apart

/-- Digits before the point that do not continue a zero are read in full. -/
theorem readWhole_append (nonempty : digits ≠ []) (isDigit : ∀ c ∈ digits, c.isDigit = true)
    (zeroAlone : ∀ more, digits = '0' :: more → more = [])
    (apart : ∀ c ∈ rest.head?, c.isDigit = false) :
    readWhole (digits ++ rest) = some (digits, rest) := by
  have plain := readDigits_append nonempty isDigit apart
  rw [readWhole.eq_def]
  split
  next c more begins =>
    cases digits with
    | nil => exact absurd rfl nonempty
    | cons digit others =>
      obtain ⟨rfl, follows⟩ := List.cons.inj begins
      obtain rfl := zeroAlone others rfl
      obtain rfl : rest = c :: more := follows
      rw [if_neg (by simp [apart c rfl])]
  next => exact plain

end digits

section numeral

variable {rest : List Char}

/-- The digits after the point are read up to what follows them. -/
theorem readFraction_append {fraction : List Char} (isDigit : ∀ c ∈ fraction, c.isDigit = true)
    (apart : ∀ c ∈ rest.head?, c.isDigit = false ∧ c ≠ '.') :
    readFraction ((if fraction = [] then [] else '.' :: fraction) ++ rest) =
      some (fraction, rest) := by
  split
  next isEmpty =>
    subst isEmpty
    rw [List.nil_append, readFraction.eq_def]
    split
    next more => exact absurd rfl (apart '.' rfl).2
    next => rfl
  next nonempty =>
    exact readDigits_append nonempty isDigit fun c atHead => (apart c atHead).1

/-- An exponent is read with its sign. -/
theorem readSignedExponent_append (exponent : Int) (apart : ∀ c ∈ rest.head?, c.isDigit = false) :
    readSignedExponent ((if exponent < 0 then '-' else '+') ::
      (Nat.toDigits 10 exponent.natAbs ++ rest)) = some (exponent, rest) := by
  split
  all_goals
    rw [readSignedExponent, readDigits_toDigits exponent.natAbs apart]
    simp only [Option.map_eq_map, Option.map_some, Decimal.natOfDigits_toDigits, Option.some.injEq,
      Prod.mk.injEq, and_true]
    omega

/-- What is written for an exponent, or for none, is read back. -/
theorem readExponent_append (exponent : Option Int) (ends : EndsNumeral rest) :
    readExponent (exponent.elim [] Numeral.exponentText ++ rest) = some (exponent, rest) := by
  cases exponent with
  | none =>
    rw [Option.elim_none, List.nil_append, readExponent.eq_def]
    split
    next more => exact absurd rfl (ends 'e' rfl).2.2.1
    next more => exact absurd rfl (ends 'E' rfl).2.2.2
    next => rfl
  | some exponent =>
    have signed := readSignedExponent_append exponent fun c atHead => (ends c atHead).1
    simp only [Option.elim_some, Numeral.exponentText, List.cons_append, readExponent, signed]
    rfl

/-- An exponent, or what follows if there is none, continues neither the digits before it nor
a point. -/
theorem exponent_apart (exponent : Option Int) (ends : EndsNumeral rest) :
    ∀ c ∈ (exponent.elim [] Numeral.exponentText ++ rest).head?,
      c.isDigit = false ∧ c ≠ '.' := by
  intro c atHead
  cases exponent with
  | none => exact ⟨(ends c atHead).1, (ends c atHead).2.1⟩
  | some exponent =>
    obtain rfl : 'e' = c := by simpa [Numeral.exponentText] using atHead
    decide

/-- A fraction and an exponent, or what follows if there are none, do not continue the digits
before the point. -/
theorem fraction_apart (fraction : List Char) {more : List Char}
    (apart : ∀ c ∈ more.head?, c.isDigit = false ∧ c ≠ '.') :
    ∀ c ∈ ((if fraction = [] then [] else '.' :: fraction) ++ more).head?, c.isDigit = false := by
  intro c atHead
  split at atHead
  next => exact (apart c atHead).1
  next =>
    obtain rfl : '.' = c := by simpa using atHead
    decide

/-- A number without its sign is read back part by part. -/
theorem readUnsigned_append {numeral : Numeral} (wellFormed : numeral.WellFormed)
    (ends : EndsNumeral rest) :
    readUnsigned numeral.negative (numeral.whole ++
      ((if numeral.fraction = [] then [] else '.' :: numeral.fraction) ++
        (numeral.exponent.elim [] Numeral.exponentText ++ rest))) = some (numeral, rest) := by
  have apart := exponent_apart numeral.exponent ends
  have wholeRead := readWhole_append wellFormed.whole_ne_nil wellFormed.isDigit_whole
    wellFormed.zero_alone (fraction_apart numeral.fraction apart)
  have fractionRead := readFraction_append wellFormed.isDigit_fraction apart
  simp only [readUnsigned, wholeRead, fractionRead, readExponent_append numeral.exponent ends,
    Option.bind_eq_bind, Option.bind_some, Option.pure_def]

/-- A well-formed numeral is read back from its text, whatever follows, if it ends there. -/
theorem readNumeral_text {numeral : Numeral} (wellFormed : numeral.WellFormed)
    (ends : EndsNumeral rest) : readNumeral (numeral.text ++ rest) = some (numeral, rest) := by
  have unsigned := readUnsigned_append wellFormed ends
  rw [Numeral.text_eq, List.append_assoc, List.append_assoc, List.append_assoc]
  cases sign : numeral.negative with
  | true =>
    rw [sign] at unsigned
    exact unsigned
  | false =>
    rw [sign] at unsigned
    rw [readNumeral.eq_def]
    split
    next more begins =>
      -- The first character is a digit, so it is no sign.
      obtain ⟨digit, digits, isWhole⟩ := List.exists_cons_of_ne_nil wellFormed.whole_ne_nil
      rw [isWhole] at begins
      obtain rfl := (List.cons.inj begins).1
      exact absurd (wellFormed.isDigit_whole '-' (by simp [isWhole])) (by decide)
    next => exact unsigned

end numeral

end Json

end DiceLang
