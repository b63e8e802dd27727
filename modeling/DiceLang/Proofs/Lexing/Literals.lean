import Mathlib.Data.Nat.Digits.Defs
import DiceLang.Proofs.Lexing.Exactness

/-!
# Number literals

A number token carries what its digits denote by their places, or the largest word if that does not
fit. However long the run of digits is, and whatever zeros it begins with, a literal can be too
small but is never a remainder. A written word fits, so it is scanned to that word again.
-/

namespace DiceLang

namespace Decimal

/-- The natural number that digits denote by their places: the last digit counts ones, the one
before it tens, and so on. -/
def placeValue (digits : List Char) : Nat :=
  Nat.ofDigits 10 (digits.reverse.map fun digit => digit.toNat - '0'.toNat)

/-- One more digit moves the others up by one place. -/
theorem placeValue_concat (digits : List Char) (digit : Char) :
    placeValue (digits ++ [digit]) = placeValue digits * 10 + (digit.toNat - '0'.toNat) := by
  rw [placeValue, List.reverse_concat, List.map_cons, Nat.ofDigits_cons, placeValue]
  omega

/-- Reading digits from the left comes to their value by places. -/
theorem natOfDigits_eq_placeValue (digits : List Char) :
    natOfDigits digits = placeValue digits := by
  -- from the back: the last digit is the last step of the reading and the first of the places
  induction digits using List.reverseRecOn with
  | nil => rfl
  | append_singleton digits digit inductionHypothesis =>
    rw [placeValue_concat, ← inductionHypothesis, natOfDigits, List.foldl_append]
    rfl

end Decimal

namespace Token

/-- A number is what its digits denote by their places, clamped once. -/
theorem Lexeme.toNat_eq {digits : List Char} {value : UInt64}
    (lexeme : Lexeme digits (.number value)) :
    value.toNat = min (Decimal.placeValue digits) (2 ^ 64 - 1) := by
  cases lexeme with
  | number some isDigit =>
    rw [Word.toNat_saturate, Decimal.natOfDigits_eq_placeValue]
    rfl

/-- A text that is one lexeme is scanned to the token of that lexeme alone. -/
theorem lex_of_lexeme {text : String} {kind : Kind} (lexeme : Lexeme text.toList kind) :
    lex text = .ok [⟨kind, text, 0⟩, endingAt text.length] := by
  have laidOut : LaidOut 0 (text.toList ++ []) _ :=
    .lexeme lexeme (fun _ => startsApart_nil) .empty
  rw [List.append_nil, String.ofList_toList, Nat.zero_add, String.length_toList] at laidOut
  exact lex_eq_ok_iff_laidOut.mpr laidOut

/-- Number literals saturate and never wrap. A run of digits of any length is scanned to one number,
which is what the digits denote by their places or else the largest word. So is every number token,
wherever it stands in a text. A written word is scanned to that word. -/
theorem number_literals_saturate :
    (∀ digits : String, digits ≠ "" → (∀ c ∈ digits.toList, c.isDigit = true) →
      ∃ value : UInt64, value.toNat = min (Decimal.placeValue digits.toList) (2 ^ 64 - 1) ∧
        lex digits = .ok [⟨.number value, digits, 0⟩, endingAt digits.length]) ∧
    (∀ text tokens, lex text = .ok tokens → ∀ token ∈ tokens, ∀ value,
      token.kind = .number value →
        (∀ c ∈ token.lexeme.toList, c.isDigit = true) ∧
          value.toNat = min (Decimal.placeValue token.lexeme.toList) (2 ^ 64 - 1)) ∧
    ∀ word : UInt64, lex (Word.text word) =
      .ok [⟨.number word, Word.text word, 0⟩, endingAt (Word.text word).length] := by
  refine ⟨fun digits some isDigit => ?_, fun text tokens ok token member value number => ?_,
    fun word => ?_⟩
  · have notNil : digits.toList ≠ [] := fun nil => some (String.toList_eq_nil_iff.mp nil)
    have lexeme := Lexeme.number notNil isDigit
    exact ⟨_, lexeme.toNat_eq, lex_of_lexeme lexeme⟩
  · have lexeme := (lex_eq_ok_iff_laidOut.mp ok).lexeme_of_mem member (by simp [number])
    rw [number] at lexeme
    exact ⟨fun c => lexeme.isDigit_of_number, lexeme.toNat_eq⟩
  · exact lex_of_lexeme (lexeme_text word)

/-- One more than the largest word is scanned to the largest word, alone behind leading zeros and as
the sides of a dice term. -/
theorem number_literals_saturate_beyond_largest :
    lex "00018446744073709551616" =
        .ok [⟨.number 18446744073709551615, "00018446744073709551616", 0⟩, endingAt 23] ∧
      lex "2d18446744073709551616" =
        .ok [⟨.number 2, "2", 0⟩, ⟨.dice, "d", 1⟩,
          ⟨.number 18446744073709551615, "18446744073709551616", 2⟩, endingAt 22] ∧
      (18446744073709551615 : UInt64).toNat =
        min (Decimal.placeValue "18446744073709551616".toList) (2 ^ 64 - 1) := by
  obtain ⟨alone, within, -⟩ := number_literals_saturate
  obtain ⟨value, clamped, scanned⟩ := alone "00018446744073709551616" (by decide)
    (List.all_eq_true.mp rfl)
  have largest : value = 18446744073709551615 := UInt64.toNat_inj.mp (clamped.trans (by decide))
  rw [largest] at scanned
  have two : Lexeme ['2'] (.number 2) :=
    .number (List.cons_ne_nil _ _) (List.forall_mem_singleton.mpr rfl)
  have beyond : Lexeme "18446744073709551616".toList (.number 18446744073709551615) :=
    .number (List.cons_ne_nil _ _) (List.all_eq_true.mp rfl)
  have letter : StartsApart ('d' :: "18446744073709551616".toList) := by simp [StartsApart]
  have inTerm : lex "2d18446744073709551616" =
      .ok [⟨.number 2, "2", 0⟩, ⟨.dice, "d", 1⟩,
        ⟨.number 18446744073709551615, "18446744073709551616", 2⟩, endingAt 22] :=
    lex_eq_ok_iff_laidOut.mpr (.lexeme two (fun _ => letter)
      (.lexeme .dice (by simp) (.lexeme beyond (fun _ => startsApart_nil) .empty)))
  exact ⟨scanned, inTerm, (within _ _ inTerm _ (.tail _ (.tail _ (.head _))) _ rfl).2⟩

end Token

end DiceLang
