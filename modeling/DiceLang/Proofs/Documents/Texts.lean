import DiceLang.Json.Parser

/-!
# Written texts read back

Every character is written so that the reader takes it for itself, whatever follows, and so a
text is read back up to its closing quote. One half of a surrogate pair, which is how a text that
is no sequence of characters is written, is read back as such a text.
-/

namespace DiceLang.Json

variable {rest : List Char}

/-- A digit of a base up to sixteen is understood as the number it stands for. -/
theorem hexDigit?_digitChar {n : Nat} (small : n < 16) : hexDigit? (Nat.digitChar n) = some n := by
  decide +revert

/-- The code of a control character is understood as that code. -/
theorem hexCode?_hexPair {n : Nat} (small : n < 256) :
    hexCode? '0' '0' (Nat.digitChar (n / 16)) (Nat.digitChar (n % 16)) = some n := by
  have zero : hexDigit? '0' = some 0 := by decide
  have high : hexDigit? (Nat.digitChar (n / 16)) = some (n / 16) := hexDigit?_digitChar (by omega)
  have low : hexDigit? (Nat.digitChar (n % 16)) = some (n % 16) := hexDigit?_digitChar (by omega)
  simp only [hexCode?, zero, high, low, Option.bind_eq_bind, Option.bind_some, Option.pure_def]
  congr 1
  omega

/-- A character that is neither a quote nor a backslash nor a control character stands for
itself. -/
theorem readParts_plain {c : Char} (noQuote : c ≠ '"') (noBackslash : c ≠ '\\')
    (noControl : 0x20 ≤ c.toNat) :
    readParts (c :: rest) = (readParts rest).map fun result => (.char c :: result.1, result.2) := by
  rw [readParts.eq_def]
  split
  next empty => cases empty
  next begins => exact absurd (List.cons.inj begins).1 noQuote
  next begins => exact absurd (List.cons.inj begins).1 noBackslash
  next begins => exact absurd (List.cons.inj begins).1 noBackslash
  next begins =>
    obtain ⟨rfl, rfl⟩ := List.cons.inj begins
    rw [if_neg (by omega), Option.map_eq_bind]
    rfl

/-- A control character is written as its code. -/
theorem readParts_control {c : Char} (control : c.toNat < 0x20) :
    readParts (['\\', 'u', '0', '0'] ++ hexPair c.toNat ++ rest) =
      (readParts rest).map fun result => (.char c :: result.1, result.2) := by
  have code : hexCode? '0' '0' (Nat.digitChar (c.toNat / 16)) (Nat.digitChar (c.toNat % 16)) =
      some c.toNat := hexCode?_hexPair (by omega)
  have part : TextPart.ofCode c.toNat = .char c := by
    rw [TextPart.ofCode, if_neg (by omega), if_neg (by omega), Char.ofNat_toNat]
  simp only [hexPair, List.cons_append, List.nil_append, readParts, code, Option.bind_eq_bind,
    Option.bind_some, part, Option.pure_def, Option.map_eq_bind]
  rfl

/-- A written character is read as itself, and the reader goes on behind it. -/
theorem readParts_escape (c : Char) :
    readParts (escape c ++ rest) =
      (readParts rest).map fun result => (.char c :: result.1, result.2) := by
  rw [escape.eq_def]
  split
  case h_8 noQuote noBackslash _ _ _ _ _ =>
    split
    next control => exact readParts_control control
    next noControl => exact readParts_plain noQuote noBackslash (by omega)
  all_goals
    rw [Option.map_eq_bind]
    rfl

/-- A written text is read up to its closing quote. -/
theorem readParts_flatMap_escape (characters : List Char) :
    readParts (characters.flatMap escape ++ '"' :: rest) =
      some (characters.map TextPart.char, rest) := by
  induction characters with
  | nil => rfl
  | cons c characters inductionHypothesis =>
    rw [List.flatMap_cons, List.append_assoc, readParts_escape, inductionHypothesis]
    rfl

/-- Characters are joined to themselves. -/
@[simp]
theorem join_map_char (characters : List Char) :
    TextPart.join (characters.map TextPart.char) = some characters := by
  induction characters with
  | nil => rfl
  | cons c characters inductionHypothesis =>
    rw [List.map_cons, TextPart.join, inductionHypothesis]
    rfl

/-- Every text begins with a quote. -/
theorem quote_eq (value : Option String) : quote value = '"' :: (quote value).tail := by
  cases value <;> rfl

/-- Behind its opening quote a text is read back, whatever follows. -/
theorem readText_quote (value : Option String) :
    readText ((quote value).tail ++ rest) = some (value, rest) := by
  cases value with
  | none => rfl
  | some value =>
    rw [quote, List.tail_cons, List.append_assoc, List.singleton_append, readText,
      readParts_flatMap_escape]
    simp

end DiceLang.Json
