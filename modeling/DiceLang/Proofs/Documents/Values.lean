import DiceLang.Proofs.Documents.Numerals
import DiceLang.Proofs.Documents.Texts

/-!
# Written documents read back

A document whose numerals are well-formed is read back from its text. The three readers call each
other, each with one less depth, so what they do with written documents is proved of all three at
once, by induction on the depth. Twice the length of what is written is depth enough.
-/

namespace DiceLang.Json

open Decimal (Numeral)

/-- A document all of whose numerals are well-formed. -/
inductive WellFormed : Json → Prop
  | null : WellFormed null
  | bool {value : Bool} : WellFormed (bool value)
  | number {numeral : Numeral} : numeral.WellFormed → WellFormed (number numeral)
  | text {value : Option String} : WellFormed (text value)
  | list {items : List Json} : (∀ item ∈ items, WellFormed item) → WellFormed (list items)
  | object {fields : List (Option String × Json)} :
      (∀ field ∈ fields, WellFormed field.2) → WellFormed (object fields)

section front

variable {c : Char} {rest : List Char}

/-- Nothing is skipped in front of a character that is no blank. -/
theorem skipBlanks_cons (notBlank : isBlank c = false) : skipBlanks (c :: rest) = c :: rest := by
  simp [skipBlanks, notBlank]

/-- What begins a numeral begins nothing else. -/
theorem ne_of_canBegin {d : Char} (begins : Numeral.CanBegin c) (noSign : d ≠ '-')
    (noDigit : d.isDigit = false) : c ≠ d := by
  rintro rfl
  rcases begins with isSign | isDigit
  · exact noSign isSign
  · rw [noDigit] at isDigit
    cases isDigit

theorem not_isBlank_of_canBegin (begins : Numeral.CanBegin c) : isBlank c = false := by
  simp [isBlank, ne_of_canBegin begins]

/-- A value that begins like a numeral is read as a number. -/
theorem readValue_numeral (begins : Numeral.CanBegin c) (depth : Nat) :
    readValue (depth + 1) (c :: rest) =
      (readNumeral (c :: rest)).map fun result => (number result.1, result.2) := by
  have other {d : Char} {more : List Char} (noSign : d ≠ '-') (noDigit : d.isDigit = false) :
      c :: rest ≠ d :: more :=
    fun same => ne_of_canBegin begins noSign noDigit (List.cons.inj same).1
  rw [readValue, skipBlanks_cons (not_isBlank_of_canBegin begins)]
  split
  case h_7 =>
    rw [Option.map_eq_bind]
    rfl
  all_goals
    next same => exact absurd same (other (by decide) (by decide))

/-- A bracket and a character that does not end the list are followed by items. -/
theorem readValue_items (notBlank : isBlank c = false) (noEnd : c ≠ ']') (depth : Nat) :
    readValue (depth + 1) ('[' :: c :: rest) =
      (readItems depth (c :: rest)).map fun result => (list result.1, result.2) := by
  rw [readValue, skipBlanks_cons (show isBlank '[' = false by decide)]
  simp only [skipBlanks_cons notBlank]
  split
  next begins => exact absurd (List.cons.inj begins).1 noEnd
  next =>
    rw [Option.map_eq_bind]
    rfl

/-- A brace and a character that does not end the object are followed by fields. -/
theorem readValue_fields (notBlank : isBlank c = false) (noEnd : c ≠ '\x7d') (depth : Nat) :
    readValue (depth + 1) ('\x7b' :: c :: rest) =
      (readFields depth (c :: rest)).map fun result => (object result.1, result.2) := by
  rw [readValue, skipBlanks_cons (show isBlank '\x7b' = false by decide)]
  simp only [skipBlanks_cons notBlank]
  split
  next begins => exact absurd (List.cons.inj begins).1 noEnd
  next =>
    rw [Option.map_eq_bind]
    rfl

/-- What is written for a document begins with a character that is neither a blank nor the end of
a list. -/
theorem WellFormed.write_eq_cons {document : Json} (wellFormed : document.WellFormed) :
    ∃ c more, write document = c :: more ∧ isBlank c = false ∧ c ≠ ']' := by
  cases wellFormed with
  | null => exact ⟨'n', _, rfl, by decide, by decide⟩
  | @bool value => cases value <;> exact ⟨_, _, rfl, by decide, by decide⟩
  | number wellFormed =>
    obtain ⟨c, more, isText, begins⟩ := wellFormed.text_eq_cons
    exact ⟨c, more, isText, not_isBlank_of_canBegin begins,
      ne_of_canBegin begins (by decide) (by decide)⟩
  | @text value => exact ⟨'"', _, quote_eq value, by decide, by decide⟩
  | @list items => cases items <;> exact ⟨'[', _, rfl, by decide, by decide⟩
  | @object fields => cases fields <;> exact ⟨'\x7b', _, rfl, by decide, by decide⟩

/-- A numeral ends before what separates or closes. -/
theorem endsNumeral_cons (delimiter : c ∈ [',', ']', '\x7d']) : EndsNumeral (c :: rest) := by
  intro d atHead
  obtain rfl : c = d := Option.some.inj atHead
  simp only [List.mem_cons, List.not_mem_nil, or_false] at delimiter
  rcases delimiter with rfl | rfl | rfl <;> decide

end front

/-- With so much depth, the readers give back whatever the writers have been given: a value that
ends before what follows, and the rest of a list or an object after its opening bracket. -/
structure ReadBack (depth : Nat) : Prop where
  value {document : Json} {rest : List Char} : document.WellFormed → EndsNumeral rest →
    2 * (write document).length ≤ depth →
    readValue depth (write document ++ rest) = some (document, rest)
  items {first : Json} {more : List Json} {rest : List Char} :
    (∀ item ∈ first :: more, item.WellFormed) →
    2 * ((write first).length + (writeItems more).length) ≤ depth →
    readItems depth (write first ++ writeItems more ++ rest) = some (first :: more, rest)
  fields {key : Option String} {value : Json} {more : List (Option String × Json)}
    {rest : List Char} : (∀ field ∈ (key, value) :: more, field.2.WellFormed) →
    2 * ((quote key).length + (write value).length + (writeFields more).length) ≤ depth →
    readFields depth (quote key ++ ':' :: write value ++ writeFields more ++ rest) =
      some ((key, value) :: more, rest)

section step

variable {depth : Nat} {input rest : List Char}

/-- A list ends with an item that a bracket follows. -/
theorem readItems_last {item : Json} (itemRead : readValue depth input = some (item, ']' :: rest)) :
    readItems (depth + 1) input = some ([item], rest) := by
  simp [readItems, itemRead, skipBlanks, isBlank]

/-- A list goes on after an item that a comma follows. -/
theorem readItems_comma {item : Json} (itemRead : readValue depth input = some (item, ',' :: rest)) :
    readItems (depth + 1) input =
      (readItems depth rest).map fun result => (item :: result.1, result.2) := by
  simp only [readItems, itemRead, Option.bind_eq_bind, Option.bind_some,
    skipBlanks_cons (show isBlank ',' = false by decide), Option.map_eq_bind]
  rfl

variable {key : Option String} {value : Json}

/-- An object ends with a field that a brace follows. -/
theorem readFields_last (valueRead : readValue depth input = some (value, '\x7d' :: rest)) :
    readFields (depth + 1) (quote key ++ ':' :: input) = some ([(key, value)], rest) := by
  rw [readFields, quote_eq]
  simp [skipBlanks, isBlank, skip?, readText_quote, valueRead]

/-- An object goes on after a field that a comma follows. -/
theorem readFields_comma (valueRead : readValue depth input = some (value, ',' :: rest)) :
    readFields (depth + 1) (quote key ++ ':' :: input) =
      (readFields depth rest).map fun result => ((key, value) :: result.1, result.2) := by
  rw [readFields, quote_eq, List.cons_append, skipBlanks_cons (show isBlank '"' = false by decide)]
  simp only [skip?, if_true, Option.bind_eq_bind, Option.bind_some, readText_quote,
    skipBlanks_cons (show isBlank ':' = false by decide), valueRead,
    skipBlanks_cons (show isBlank ',' = false by decide), Option.map_eq_bind]
  rfl

/-- One more level of depth reads back a list after its opening bracket. -/
theorem readItems_write (readBack : ReadBack depth) {first : Json} {more : List Json}
    (wellFormed : ∀ item ∈ first :: more, item.WellFormed)
    (enough : 2 * ((write first).length + (writeItems more).length) ≤ depth + 1) :
    readItems (depth + 1) (write first ++ writeItems more ++ rest) = some (first :: more, rest) := by
  obtain ⟨firstWellFormed, moreWellFormed⟩ := List.forall_mem_cons.mp wellFormed
  rw [List.append_assoc]
  cases more with
  | nil =>
    simp only [writeItems, List.length_singleton] at enough
    exact readItems_last
      (readBack.value firstWellFormed (endsNumeral_cons (by simp)) (by omega))
  | cons second more =>
    simp only [writeItems, List.length_cons, List.length_append] at enough
    -- The comma is not read again, so what is left of the length suffices for one level less.
    have moreRead :
        readItems depth (write second ++ writeItems more ++ rest) = some (second :: more, rest) :=
      readBack.items moreWellFormed (by omega)
    rw [writeItems, List.cons_append, readItems_comma
      (readBack.value firstWellFormed (endsNumeral_cons (by simp)) (by omega)), moreRead,
      Option.map_some]

/-- One more level of depth reads back an object after its opening brace. -/
theorem readFields_write (readBack : ReadBack depth) {more : List (Option String × Json)}
    (wellFormed : ∀ field ∈ (key, value) :: more, field.2.WellFormed)
    (enough : 2 * ((quote key).length + (write value).length + (writeFields more).length) ≤
      depth + 1) :
    readFields (depth + 1) (quote key ++ ':' :: write value ++ writeFields more ++ rest) =
      some ((key, value) :: more, rest) := by
  obtain ⟨(valueWellFormed : value.WellFormed), moreWellFormed⟩ :=
    List.forall_mem_cons.mp wellFormed
  rw [List.append_assoc, List.append_assoc, List.cons_append]
  cases more with
  | nil =>
    simp only [writeFields, List.length_singleton] at enough
    exact readFields_last
      (readBack.value valueWellFormed (endsNumeral_cons (by simp)) (by omega))
  | cons second more =>
    obtain ⟨nextKey, next⟩ := second
    simp only [writeFields, List.length_cons, List.length_append] at enough
    have moreRead :
        readFields depth (quote nextKey ++ ':' :: write next ++ writeFields more ++ rest) =
          some ((nextKey, next) :: more, rest) :=
      readBack.fields moreWellFormed (by omega)
    rw [writeFields, List.cons_append, readFields_comma
      (readBack.value valueWellFormed (endsNumeral_cons (by simp)) (by omega)), moreRead,
      Option.map_some]

/-- One more level of depth reads back a list. -/
theorem readValue_write_list (readBack : ReadBack depth) {items : List Json}
    (wellFormed : ∀ item ∈ items, item.WellFormed)
    (enough : 2 * (write (list items)).length ≤ depth + 1) :
    readValue (depth + 1) (write (list items) ++ rest) = some (list items, rest) := by
  cases items with
  | nil => rfl
  | cons first more =>
    obtain ⟨c, others, isWritten, notBlank, noEnd⟩ :=
      WellFormed.write_eq_cons (wellFormed first (by simp))
    simp only [write, List.length_cons, List.length_append] at enough
    have itemsRead :
        readItems depth (write first ++ writeItems more ++ rest) = some (first :: more, rest) :=
      readBack.items wellFormed (by omega)
    rw [write, List.cons_append]
    rw [isWritten, List.cons_append, List.cons_append] at itemsRead ⊢
    rw [readValue_items notBlank noEnd, itemsRead, Option.map_some]

/-- One more level of depth reads back an object. -/
theorem readValue_write_object (readBack : ReadBack depth) {fields : List (Option String × Json)}
    (wellFormed : ∀ field ∈ fields, field.2.WellFormed)
    (enough : 2 * (write (object fields)).length ≤ depth + 1) :
    readValue (depth + 1) (write (object fields) ++ rest) = some (object fields, rest) := by
  cases fields with
  | nil => rfl
  | cons first more =>
    obtain ⟨key, value⟩ := first
    simp only [write, List.length_cons, List.length_append] at enough
    have fieldsRead :
        readFields depth (quote key ++ ':' :: write value ++ writeFields more ++ rest) =
          some ((key, value) :: more, rest) :=
      readBack.fields wellFormed (by omega)
    rw [write, List.cons_append]
    rw [quote_eq, List.cons_append, List.cons_append, List.cons_append] at fieldsRead ⊢
    rw [readValue_fields (by decide) (by decide), fieldsRead, Option.map_some]

/-- One more level of depth reads back a value. -/
theorem readValue_write (readBack : ReadBack depth) {document : Json}
    (wellFormed : document.WellFormed) (ends : EndsNumeral rest)
    (enough : 2 * (write document).length ≤ depth + 1) :
    readValue (depth + 1) (write document ++ rest) = some (document, rest) := by
  cases wellFormed with
  | null => rfl
  | @bool value => cases value <;> rfl
  | @number numeral wellFormed =>
    obtain ⟨c, more, isText, begins⟩ := wellFormed.text_eq_cons
    have numeralRead := readNumeral_text wellFormed ends
    rw [write]
    rw [isText, List.cons_append] at numeralRead ⊢
    rw [readValue_numeral begins, numeralRead, Option.map_some]
  | @text value =>
    rw [write, quote_eq, List.cons_append, readValue,
      skipBlanks_cons (show isBlank '"' = false by decide)]
    simp only [readText_quote, Option.bind_eq_bind, Option.bind_some, Option.pure_def]
  | list wellFormed => exact readValue_write_list readBack wellFormed enough
  | object wellFormed => exact readValue_write_object readBack wellFormed enough

end step

/-- Whatever the depth, the readers give back what the writers have been given. -/
theorem readBack (depth : Nat) : ReadBack depth := by
  induction depth with
  | zero =>
    constructor
    · intro document rest wellFormed _ enough
      obtain ⟨c, more, isWritten, -⟩ := wellFormed.write_eq_cons
      simp [isWritten] at enough
    · intro first more rest wellFormed enough
      obtain ⟨c, others, isWritten, -⟩ := (wellFormed first (by simp)).write_eq_cons
      rw [isWritten, List.length_cons] at enough
      omega
    · intro key value more rest _ enough
      rw [quote_eq, List.length_cons] at enough
      omega
  | succ depth inductionHypothesis =>
    exact ⟨readValue_write inductionHypothesis, readItems_write inductionHypothesis,
      readFields_write inductionHypothesis⟩

/-- A document whose numerals are well-formed is read back from its text. -/
theorem parse_render {document : Json} (wellFormed : document.WellFormed) :
    parse document.render = some document := by
  have atEnd : EndsNumeral [] := by simp [EndsNumeral]
  have valueRead :
      readValue (2 * (write document).length + 2) (write document ++ []) = some (document, []) :=
    (readBack _).value wellFormed atEnd (by omega)
  rw [List.append_nil] at valueRead
  rw [parse, render, String.toList_ofList, valueRead]
  rfl

end DiceLang.Json
