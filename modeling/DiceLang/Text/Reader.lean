import DiceLang.Text.CharClass

/-!
# Readers that recover

A reader takes characters from the front of a text or fails. Places in the text are counted in bytes
of its encoding. While readers are tried one after the other, the failure that reaches the furthest
is kept, because it says best what is wrong. A reader can recover from a failure: it skips characters
until it succeeds, and the failure is reported. So one run over a text can tell of several failures.
-/

namespace DiceLang.Text

variable {α β : Type}

/-! ## Places in a text -/

/-- How many bytes the characters take up. -/
def byteLength : List Char → Nat
  | [] => 0
  | c :: rest => c.utf8Size + byteLength rest

/-- The text before a place and the text behind it, unless the place is beyond the end or inside a
character. -/
def cut? (place : Nat) : List Char → Option (List Char × List Char)
  | [] => if place = 0 then some ([], []) else none
  | c :: rest =>
    if place = 0 then some ([], c :: rest)
    else if c.utf8Size ≤ place then (cut? (place - c.utf8Size) rest).map (.map (c :: ·) id)
    else none

/-- How many characters stand before a place. A place that is none is answered itself. -/
def charOffset (text : List Char) (place : Nat) : Nat :=
  match cut? place text with
  | some (front, _) => front.length
  | none => place

/-- The bytes from one place up to another. -/
structure Span where
  start : Nat
  stop : Nat
deriving DecidableEq

/-- The characters in a span, if it begins and ends between characters. -/
def slice? (text : List Char) (span : Span) : Option (List Char) :=
  if span.start ≤ span.stop then do
    let (_, behind) ← cut? span.start text
    let (inside, _) ← cut? (span.stop - span.start) behind
    return inside
  else none

@[simp]
theorem byteLength_append (front rest : List Char) :
    byteLength (front ++ rest) = byteLength front + byteLength rest := by
  induction front with
  | nil => simp [byteLength]
  | cons c front inductionHypothesis => simp [byteLength, inductionHypothesis, Nat.add_assoc]

/-- A text without bytes has no characters. -/
theorem byteLength_pos {chars : List Char} (some : chars ≠ []) : 0 < byteLength chars := by
  cases chars with
  | nil => exact absurd rfl some
  | cons c rest => exact Nat.lt_of_lt_of_le c.utf8Size_pos (Nat.le_add_right _ _)

/-- Behind the bytes of its front, a text is cut into the front and what follows. -/
@[simp]
theorem cut?_append (front rest : List Char) :
    cut? (byteLength front) (front ++ rest) = some (front, rest) := by
  induction front with
  | nil => cases rest <;> rfl
  | cons c front inductionHypothesis =>
    have positive : byteLength (c :: front) ≠ 0 :=
      Nat.ne_of_gt (byteLength_pos (List.cons_ne_nil c front))
    rw [List.cons_append, cut?, if_neg positive, byteLength, if_pos (Nat.le_add_right _ _),
      Nat.add_sub_cancel_left, inductionHypothesis]
    rfl

/-- As many characters stand before a place as the front has that ends there. -/
@[simp]
theorem charOffset_append (front rest : List Char) :
    charOffset (front ++ rest) (byteLength front) = front.length := by
  simp [charOffset]

/-- The span behind a front holds the characters that stand there. -/
theorem slice?_append (front inside rest : List Char) :
    slice? (front ++ (inside ++ rest)) ⟨byteLength front, byteLength (front ++ inside)⟩ =
      some inside := by
  simp [slice?]

/-! ## Reading -/

/-- Where a reader was stopped: the character that it found there, or `none` at the end of the text,
and the place of that character. -/
structure Failure where
  found : Option Char
  span : Span
deriving DecidableEq

/-- How far a text has been read. -/
structure Progress where
  /-- How many bytes have been read. -/
  offset : Nat
  /-- What has not been read. -/
  rest : List Char
  /-- The failure that reaches the furthest of those that are not recovered from. -/
  furthest? : Option Failure
  /-- The failures that reading has recovered from, the first one first. -/
  reported : List Failure

namespace Progress

/-- Before anything has been read. -/
def start (text : List Char) : Progress :=
  ⟨0, text, none, []⟩

/-- Behind some characters, before the rest. -/
def past (chars rest : List Char) (progress : Progress) : Progress :=
  { progress with offset := progress.offset + byteLength chars, rest := rest }

/-- The failure of a reader that is stopped here by what comes next. -/
def blocked (progress : Progress) : Failure where
  found := progress.rest.head?
  span := ⟨progress.offset, progress.offset + byteLength (progress.rest.take 1)⟩

/-- Keeps a failure if it starts behind the one that has been kept. -/
def note (failure : Failure) (progress : Progress) : Progress :=
  match progress.furthest? with
  | some other =>
    if other.span.start < failure.span.start then { progress with furthest? := some failure }
    else progress
  | none => { progress with furthest? := some failure }

/-- Goes back to an earlier place, but keeps the furthest failure. -/
def rewind (before after : Progress) : Progress :=
  { before with furthest? := after.furthest? }

/-- Forgets the furthest failure. -/
def cleared (progress : Progress) : Progress :=
  { progress with furthest? := none }

/-- Reports a failure that has been recovered from. -/
def report (failure : Failure) (progress : Progress) : Progress :=
  { progress with reported := progress.reported ++ [failure] }

section note

variable {progress : Progress} {chars more rest others : List Char} {failure : Failure}

/-- A failure that is not further than the one that is kept is not noted. -/
theorem note_of_le {other : Failure} (kept : progress.furthest? = some other)
    (le : failure.span.start ≤ other.span.start) : progress.note failure = progress := by
  simp only [note, kept, if_neg (Nat.not_lt.mpr le)]

/-- A failure is noted once. -/
theorem note_note (failure : Failure) (progress : Progress) :
    (progress.note failure).note failure = progress.note failure := by
  cases kept : progress.furthest? with
  | none => exact note_of_le (by rw [note, kept]) (Nat.le_refl _)
  | some other =>
    by_cases further : other.span.start < failure.span.start
    · exact note_of_le (by simp only [note, kept, if_pos further]) (Nat.le_refl _)
    · simp only [note, kept, if_neg further]

/-- Going back from where a failure was noted leaves it noted. -/
@[simp]
theorem rewind_note (failure : Failure) (progress : Progress) :
    progress.rewind (progress.note failure) = progress.note failure := by
  unfold note
  repeat' split
  all_goals rfl

/-- Noting a failure does not move. -/
@[simp]
theorem note_rest (failure : Failure) (progress : Progress) :
    (progress.note failure).rest = progress.rest := by
  rw [← rewind_note]
  rfl

/-- What comes next does not depend on the failure that is kept. -/
@[simp]
theorem blocked_note (failure : Failure) (progress : Progress) :
    (progress.note failure).blocked = progress.blocked := by
  rw [← rewind_note]
  rfl

/-- Behind no characters is where reading is. -/
theorem past_nil (whole : progress.rest = rest) : progress.past [] rest = progress := by
  subst whole
  rfl

/-- Behind some characters and then some more is behind all of them. -/
@[simp]
theorem past_past (progress : Progress) :
    (progress.past chars others).past more rest = progress.past (chars ++ more) rest := by
  simp [past, Nat.add_assoc]

end note

end Progress

/-- A reader answers a value from the front of what has not been read, or it fails. Whoever tries
something else after a failure goes back to the place before it. -/
abbrev Reader (α : Type) := EStateM Unit Progress α

namespace Reader

/-- Fails and keeps what stopped it. -/
def stopped : Reader α := fun progress =>
  .error () (progress.note progress.blocked)

/-- Reads a character with a property. -/
def satisfying (property : Char → Bool) : Reader Char := fun progress =>
  match progress.rest with
  | c :: rest => if property c then .ok c (progress.past [c] rest) else stopped progress
  | [] => stopped progress

/-- Reads a given character. -/
def just (c : Char) : Reader Char :=
  satisfying (· == c)

/-- Succeeds at the end of the text only. -/
def ended : Reader Unit := fun progress =>
  match progress.rest with
  | [] => .ok () progress
  | _ :: _ => stopped progress

/-- The first of some readers that succeeds, each tried at the same place. -/
def choice : List (Reader α) → Reader α
  | [] => fun progress => .error () progress
  | reader :: others => fun before =>
    match reader before with
    | .ok value after => .ok value after
    | .error () after => choice others (.rewind before after)

/-- What a reader answers one after the other until it fails or reads nothing, and the progress that
it makes. -/
def many (reader : Reader α) (before : Progress) : List α × Progress :=
  match reader before with
  | .ok value after =>
    if after.rest.length < before.rest.length then (many reader after).map (value :: ·) id
    else ([value], after)
  | .error () after => ([], .rewind before after)
termination_by before.rest.length

/-- What is read first is answered first, if something was taken for it. -/
theorem many_of_ok {reader : Reader α} {value : α} {before after : Progress}
    (read : reader before = .ok value after)
    (shorter : after.rest.length < before.rest.length) :
    many reader before = (many reader after).map (value :: ·) id := by
  rw [many, read]
  exact if_pos shorter

/-- Nothing is read behind a failure. -/
theorem many_of_error {reader : Reader α} {before after : Progress}
    (failed : reader before = .error () after) : many reader before = ([], before.rewind after) := by
  rw [many, failed]

/-- Reads as often as a reader succeeds. -/
def repeated (reader : Reader α) : Reader (List α) := fun before =>
  match many reader before with
  | (values, after) => .ok values after

/-- Reads as often as a reader succeeds, and fails if it never does. -/
def repeatedOnce (reader : Reader α) : Reader (List α) := do
  let first ← reader
  let others ← repeated reader
  return first :: others

/-- Skips blanks. -/
def blanks : Reader Unit := fun progress =>
  .ok () (progress.past (progress.rest.takeWhile isBlank) (progress.rest.dropWhile isBlank))

/-- A reader with blanks around what it reads. -/
def padded (reader : Reader α) : Reader α := do
  blanks
  let value ← reader
  blanks
  return value

/-- A reader that tells also from where to where it has read. -/
def spanned (reader : Reader α) : Reader (α × Span) := fun before =>
  match reader before with
  | .ok value after => .ok (value, ⟨before.offset, after.offset⟩) after
  | .error () after => .error () after

/-- Skips characters until a reader succeeds, which reports the failure. If the text ends before, the
failure stays. What stops the attempts in between is forgotten. -/
def retry (reader : Reader α) (failure : Failure) (before : Progress) :
    EStateM.Result Unit Progress α :=
  match _unread : before.rest with
  | [] => .error () { before with furthest? := some failure }
  | c :: rest =>
    let skipped := (before.note before.blocked).past [c] rest
    match reader skipped with
    | .ok value after => .ok value (after.report failure)
    | .error () _ => retry reader failure skipped.cleared
termination_by before.rest.length
decreasing_by
  simp_all [Progress.past, Progress.cleared]

/-- A reader that recovers from its failure, if it succeeds behind some characters that are skipped. -/
def recovering (reader : Reader α) : Reader α := fun before =>
  match reader before with
  | .ok value after => .ok value after
  | .error () after =>
    match after.furthest? with
    | none => .error () (.rewind before after)
    | some failure =>
      match retry reader failure before.cleared with
      | .ok value last => .ok value last
      | .error () last => .error () (.rewind before last)

end Reader

/-- The value that has been read, if reading did not fail. -/
def value? : EStateM.Result Unit Progress α → Option α
  | .ok value _ => some value
  | .error () _ => none

/-- The failures that reading leaves behind: those that it recovered from and, if it failed in the
end, the furthest of the others. -/
def failures : EStateM.Result Unit Progress α → List Failure
  | .ok _ last => last.reported
  | .error () last => last.reported ++ last.furthest?.toList

end DiceLang.Text
