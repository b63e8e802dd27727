import DiceLang.Proofs.Lexing.Numbers
import DiceLang.Text.Reader

/-!
# Attempts to read

What can be said of one reader without saying how it works: in front of some text it answers a value
behind some characters, or it is stopped at once, or it fails behind some characters. Each way of
putting readers together keeps these three, as long as the failure that is kept is not further than
the place that has been reached.
-/

namespace DiceLang.Text

variable {α β : Type}

namespace Progress

variable {progress before middle after : Progress} {chars more rest : List Char}

/-- The failure that is kept started before this place, or it is the one of what comes next. -/
def Sound (progress : Progress) : Prop :=
  ∀ failure ∈ progress.furthest?,
    failure.span.start < progress.offset ∨ failure = progress.blocked

/-- Keeps the failure of what comes next, whatever has been kept before. -/
def blamed (progress : Progress) : Progress :=
  { progress with furthest? := some progress.blocked }

/-- What comes next is further than any failure before. -/
theorem Sound.note_blocked (sound : progress.Sound) :
    progress.note progress.blocked = progress.blamed := by
  obtain ⟨offset, rest, furthest?, reported⟩ := progress
  cases furthest? with
  | none => rfl
  | some failure =>
    rcases sound failure rfl with before | same
    · exact if_pos before
    · have noFurther : ¬ failure.span.start < offset := by
        rw [same]
        exact Nat.lt_irrefl _
      rw [note_of_le rfl (Nat.not_lt.mp noFurther), blamed, ← same]

theorem sound_blamed : progress.blamed.Sound := by
  intro failure kept
  cases kept
  exact .inr rfl

theorem sound_cleared : progress.cleared.Sound := by
  intro failure kept
  cases kept

/-- The place is behind these characters, with nothing reported on the way. -/
structure Reaches (before : Progress) (chars rest : List Char) (after : Progress) : Prop where
  offset : after.offset = before.offset + byteLength chars
  rest : after.rest = rest
  reported : after.reported = before.reported
  sound : after.Sound

/-- Behind characters that have been read the failure that is kept stays behind. -/
theorem Sound.reaches_past (sound : progress.Sound) (whole : progress.rest = chars ++ rest) :
    progress.Reaches chars rest (progress.past chars rest) where
  offset := rfl
  rest := rfl
  reported := rfl
  sound := by
    cases chars with
    | nil =>
      have here : progress.past [] rest = progress := past_nil whole
      rw [here]
      exact sound
    | cons c chars =>
      intro failure kept
      left
      have positive := byteLength_pos (List.cons_ne_nil c chars)
      have known := sound failure kept
      simp only [past]
      rcases known with before | rfl
      · omega
      · simp only [blocked]
        omega

namespace Reaches

/-- What keeps the failure of what comes next is at the same place. -/
theorem blamed (reached : before.Reaches chars rest after) :
    before.Reaches chars rest after.blamed :=
  ⟨reached.offset, reached.rest, reached.reported, sound_blamed⟩

/-- Reading starts over from where what comes next was blamed. -/
theorem of_blamed (reached : before.blamed.Reaches chars rest after) :
    before.Reaches chars rest after :=
  ⟨reached.offset, reached.rest, reached.reported, reached.sound⟩

theorem trans (first : before.Reaches chars (more ++ rest) middle)
    (second : middle.Reaches more rest after) : before.Reaches (chars ++ more) rest after where
  offset := by rw [second.offset, first.offset, byteLength_append, Nat.add_assoc]
  rest := second.rest
  reported := second.reported.trans first.reported
  sound := second.sound

/-- Behind some characters reading is further. -/
theorem lt_offset (reached : before.Reaches chars rest after) (some : chars ≠ []) :
    before.offset < after.offset := by
  rw [reached.offset]
  exact Nat.lt_add_of_pos_right (byteLength_pos some)

/-- Behind some characters less is left to read. -/
theorem shorter (reached : before.Reaches chars rest after) (some : chars ≠ [])
    (whole : before.rest = chars ++ rest) : after.rest.length < before.rest.length := by
  have positive := List.length_pos_iff.mpr some
  rw [reached.rest, whole, List.length_append]
  omega

end Reaches

/-- A character is skipped after what comes next was blamed. -/
theorem reaches_skipped {c : Char} (whole : progress.rest = c :: rest) :
    progress.Reaches [c] rest (progress.blamed.past [c] rest) := by
  have same : progress.blamed.rest = [c] ++ rest := whole
  exact (sound_blamed.reaches_past same).of_blamed

end Progress

open Progress

namespace Reader

variable {reader : Reader α} {readers : List (Reader α)} {chars front rest : List Char} {value : α}
  {progress : Progress}

/-- In front of the text the reader is stopped at once. -/
def Misses (reader : Reader α) (text : List Char) : Prop :=
  ∀ progress : Progress, progress.rest = text →
    reader progress = .error () (progress.note progress.blocked)

/-- In front of the characters and the rest the reader takes the characters and answers the value. -/
def Reads (reader : Reader α) (chars rest : List Char) (value : α) : Prop :=
  ∀ progress : Progress, progress.Sound → progress.rest = chars ++ rest →
    ∃ after, reader progress = .ok value after ∧ progress.Reaches chars rest after

/-- In front of the characters and the rest the reader fails, and what comes behind the characters is
blamed for it. -/
def Fails (reader : Reader α) (chars rest : List Char) : Prop :=
  ∀ progress : Progress, progress.Sound → progress.rest = chars ++ rest →
    ∃ after, reader progress = .error () after ∧
      after.furthest? = some (progress.past chars rest).blocked

/-- A reader that is stopped at once fails there. -/
theorem Misses.fails (misses : Misses reader rest) : Fails reader [] rest := by
  intro progress sound whole
  refine ⟨progress.blamed, ?_, ?_⟩
  · rw [misses progress whole, sound.note_blocked]
  · have here : progress.past [] rest = progress := past_nil whole
    rw [here]
    rfl

/-- A reader is not stopped where it reads. -/
theorem Reads.not_misses (reads : Reads reader chars rest value) :
    ¬ Misses reader (chars ++ rest) := by
  intro misses
  obtain ⟨after, read, -⟩ := reads (.start (chars ++ rest)) (fun _ kept => by cases kept) rfl
  rw [misses _ rfl] at read
  cases read

section satisfying

variable {property : Char → Bool} {c : Char}

/-- A character without the property stops the reader, and so does the end. -/
theorem misses_satisfying {text : List Char} (lacks : ∀ c ∈ text.head?, property c = false) :
    Misses (satisfying property) text := by
  intro progress whole
  cases text with
  | nil => simp only [satisfying, whole, stopped]
  | cons c rest =>
    have lacking := lacks c rfl
    simp only [satisfying, whole, lacking, stopped, Bool.false_eq_true, if_false]

/-- A character with the property is taken. -/
theorem satisfying_of_rest (whole : progress.rest = c :: rest) (holds : property c = true) :
    satisfying property progress = .ok c (progress.past [c] rest) := by
  simp only [satisfying, whole, holds, if_true]

/-- All characters with the property are taken, and what comes behind them is blamed. -/
theorem many_satisfying (all : ∀ c ∈ front, property c = true)
    (apart : ∀ c ∈ rest.head?, property c = false) (whole : progress.rest = front ++ rest) :
    many (satisfying property) progress =
      (front, (progress.past front rest).note (progress.past front rest).blocked) := by
  induction front generalizing progress with
  | nil =>
    have here : progress.past [] rest = progress := past_nil whole
    rw [many_of_error (misses_satisfying apart progress whole), here, rewind_note]
  | cons c front inductionHypothesis =>
    rw [List.forall_mem_cons] at all
    rw [List.cons_append] at whole
    have shorter : (progress.past [c] (front ++ rest)).rest.length < progress.rest.length := by
      simp [whole, past]
    have others := inductionHypothesis all.2 (rfl : (progress.past [c] (front ++ rest)).rest = _)
    rw [past_past] at others
    rw [many_of_ok (satisfying_of_rest whole all.1) shorter, others]
    rfl

/-- A run of characters with the property is read whole. -/
theorem reads_repeatedOnce (some : front ≠ []) (all : ∀ c ∈ front, property c = true)
    (apart : ∀ c ∈ rest.head?, property c = false) :
    Reads (repeatedOnce (satisfying property)) front rest front := by
  intro progress sound whole
  cases front with
  | nil => exact absurd rfl some
  | cons c front =>
    rw [List.forall_mem_cons] at all
    refine ⟨(progress.past (c :: front) rest).blamed, ?_, (sound.reaches_past whole).blamed⟩
    have others := many_satisfying all.2 apart
      (rfl : (progress.past [c] (front ++ rest)).rest = front ++ rest)
    rw [past_past, List.singleton_append, (sound.reaches_past whole).sound.note_blocked] at others
    have first := satisfying_of_rest whole all.1
    rw [List.append_eq] at first
    simp only [repeatedOnce, repeated, bind, EStateM.bind, first, others]
    rfl

/-- A run of characters with the property that is empty stops the reader. -/
theorem misses_repeatedOnce {text : List Char} (lacks : ∀ c ∈ text.head?, property c = false) :
    Misses (repeatedOnce (satisfying property)) text := by
  intro progress whole
  simp only [repeatedOnce, bind, EStateM.bind, misses_satisfying lacks progress whole]

end satisfying

/-! ## Reading on -/

section bind

variable {next : α → Reader β} {value' : β} {more : List Char}

/-- A reader that is stopped at once is stopped whatever is read behind it. -/
theorem Misses.bind {text : List Char} (misses : Misses reader text) :
    Misses (reader >>= next) text := by
  intro progress whole
  simp only [Bind.bind, EStateM.bind, misses progress whole]

/-- What is read behind a value is read behind the characters of that value. -/
theorem Reads.bind (first : Reads reader chars (more ++ rest) value)
    (second : Reads (next value) more rest value') :
    Reads (reader >>= next) (chars ++ more) rest value' := by
  intro progress sound whole
  rw [List.append_assoc] at whole
  obtain ⟨middle, readFirst, reachedFirst⟩ := first progress sound whole
  obtain ⟨after, readSecond, reachedSecond⟩ :=
    second middle reachedFirst.sound reachedFirst.rest
  refine ⟨after, ?_, reachedFirst.trans reachedSecond⟩
  simp only [Bind.bind, EStateM.bind, readFirst, readSecond]

/-- What is made of a value takes no characters. -/
theorem Reads.map {make : α → β} (reads : Reads reader chars rest value) :
    Reads (do let found ← reader; return make found) chars rest (make value) := by
  intro progress sound whole
  obtain ⟨after, read, reached⟩ := reads progress sound whole
  refine ⟨after, ?_, reached⟩
  simp only [Bind.bind, EStateM.bind, read]
  rfl

/-- What fails behind a value fails behind the characters of that value. -/
theorem Reads.fails (first : Reads reader chars (front ++ rest) value)
    (second : Fails (next value) front rest) : Fails (reader >>= next) (chars ++ front) rest := by
  intro progress sound whole
  rw [List.append_assoc] at whole
  obtain ⟨middle, readFirst, reached⟩ := first progress sound whole
  obtain ⟨after, failed, blamed⟩ := second middle reached.sound reached.rest
  refine ⟨after, ?_, ?_⟩
  · simp only [Bind.bind, EStateM.bind, readFirst, failed]
  · rw [blamed]
    simp [blocked, past, reached.offset, Nat.add_assoc]

end bind

/-! ## Alternatives -/

section choice

variable {text : List Char}

/-- Alternatives that are all stopped at once do not move, and note nothing that is not noted. -/
theorem choice_of_all_miss (misses : ∀ reader ∈ readers, Misses reader text)
    (whole : progress.rest = text) (noted : progress.note progress.blocked = progress) :
    choice readers progress = .error () progress := by
  induction readers with
  | nil => rfl
  | cons reader readers inductionHypothesis =>
    rw [List.forall_mem_cons] at misses
    have back : progress.rewind progress = progress := rfl
    simp only [choice, misses.1 progress whole, noted, back, inductionHypothesis misses.2]

/-- Alternatives that are all stopped at once are stopped together. -/
theorem misses_choice (some : readers ≠ []) (misses : ∀ reader ∈ readers, Misses reader text) :
    Misses (choice readers) text := by
  intro progress whole
  cases readers with
  | nil => exact absurd rfl some
  | cons reader readers =>
    rw [List.forall_mem_cons] at misses
    simp only [choice, misses.1 progress whole, rewind_note]
    exact choice_of_all_miss misses.2 (by rw [note_rest, whole]) (by rw [blocked_note, note_note])

/-- The first alternative is taken if it reads. -/
theorem Reads.choice_head (reads : Reads reader chars rest value) :
    Reads (choice (reader :: readers)) chars rest value := by
  intro progress sound whole
  obtain ⟨after, read, reached⟩ := reads progress sound whole
  exact ⟨after, by simp only [choice, read], reached⟩

/-- Behind a reader that is stopped at once the others are tried. -/
theorem Reads.choice_tail (first : Misses reader (chars ++ rest))
    (others : Reads (choice readers) chars rest value) :
    Reads (choice (reader :: readers)) chars rest value := by
  intro progress sound whole
  obtain ⟨after, read, reached⟩ := others progress.blamed sound_blamed whole
  have back : progress.rewind progress.blamed = progress.blamed := rfl
  refine ⟨after, ?_, reached.of_blamed⟩
  simp only [choice, first progress whole, sound.note_blocked, back, read]

/-- If each of some readers reads the same or is stopped at once, and one reads, they do so
together. -/
theorem reads_choice
    (each : ∀ reader ∈ readers, Reads reader chars rest value ∨ Misses reader (chars ++ rest))
    (found : ∃ reader ∈ readers, Reads reader chars rest value) :
    Reads (choice readers) chars rest value := by
  induction readers with
  | nil =>
    obtain ⟨reader, member, -⟩ := found
    cases member
  | cons reader readers inductionHypothesis =>
    rw [List.forall_mem_cons] at each
    rcases each.1 with reads | misses
    · exact reads.choice_head
    · obtain ⟨other, member, reads⟩ := found
      rcases List.mem_cons.mp member with rfl | later
      · -- No reader reads where it is stopped.
        exact absurd misses reads.not_misses
      · exact .choice_tail misses (inductionHypothesis each.2 ⟨other, later, reads⟩)

/-- Behind a reader that is stopped at once the others fail. -/
theorem Fails.choice_tail (first : Misses reader (front ++ rest))
    (others : Fails (choice readers) front rest) : Fails (choice (reader :: readers)) front rest := by
  intro progress sound whole
  obtain ⟨after, failed, blamed⟩ := others progress.blamed sound_blamed whole
  have back : progress.rewind progress.blamed = progress.blamed := rfl
  refine ⟨after, ?_, blamed⟩
  simp only [choice, first progress whole, sound.note_blocked, back, failed]

/-- A failure behind some characters is further than that of the others, which are stopped at
once. -/
theorem Fails.choice_head (fails : Fails reader front rest)
    (others : ∀ other ∈ readers, Misses other (front ++ rest)) :
    Fails (choice (reader :: readers)) front rest := by
  intro progress sound whole
  obtain ⟨after, failed, blamed⟩ := fails progress sound whole
  -- The others are tried at the same place, and what stops them there is not noted any more.
  refine ⟨progress.rewind after, ?_, blamed⟩
  simp only [choice, failed]
  refine choice_of_all_miss others whole (note_of_le blamed ?_)
  exact Nat.le_add_right _ _

end choice

/-- The end is not in front of any text. -/
theorem misses_ended {text : List Char} (unread : text ≠ []) : Misses ended text := by
  intro progress whole
  cases text with
  | nil => exact absurd rfl unread
  | cons c rest => simp only [ended, whole, stopped]

/-! ## Going on -/

section going

variable {gap values : List Char} {c : Char} {failure : Failure} {before after : Progress}

/-- Blanks are skipped together. -/
theorem blanks_of_rest (blank : ∀ c ∈ gap, isBlank c = true)
    (apart : ∀ c ∈ rest.head?, isBlank c = false) (whole : progress.rest = gap ++ rest) :
    blanks progress = .ok () (progress.past gap rest) := by
  rw [blanks, whole, takeWhile_append blank apart, dropWhile_append blank apart]

/-- At the end of the text there is nothing to skip. -/
theorem retry_of_nil (whole : progress.rest = []) :
    retry reader failure progress = .error () { progress with furthest? := some failure } := by
  obtain ⟨offset, unread, furthest?, reported⟩ := progress
  cases whole
  rw [retry]

/-- A retry ends with the first success, which reports the failure. -/
theorem retry_of_ok (sound : progress.Sound) (whole : progress.rest = c :: rest)
    (read : reader (progress.blamed.past [c] rest) = .ok value after) :
    retry reader failure progress = .ok value (after.report failure) := by
  obtain ⟨offset, unread, furthest?, reported⟩ := progress
  cases whole
  rw [retry]
  simp only [sound.note_blocked, read]

/-- A retry goes on behind the character that has been skipped. -/
theorem retry_of_error (sound : progress.Sound) (whole : progress.rest = c :: rest)
    (failed : reader (progress.blamed.past [c] rest) = .error () after) :
    retry reader failure progress = retry reader failure (progress.past [c] rest).cleared := by
  obtain ⟨offset, unread, furthest?, reported⟩ := progress
  cases whole
  rw [retry]
  simp only [sound.note_blocked, failed]
  rfl

/-- A reader that does not fail has nothing to recover from. -/
theorem recovering_of_ok (read : reader before = .ok value after) :
    recovering reader before = .ok value after := by
  simp only [recovering, read]

/-- A reader recovers as its retry does. -/
theorem recovering_of_retry {last : Progress} (failed : reader before = .error () after)
    (blamed : after.furthest? = some failure)
    (retried : retry reader failure before.cleared = .ok value last) :
    recovering reader before = .ok value last := by
  simp only [recovering, failed, blamed, retried]

/-- A reader whose retry does not succeed is back where it was. -/
theorem recovering_of_error {last : Progress} (failed : reader before = .error () after)
    (blamed : after.furthest? = some failure)
    (retried : retry reader failure before.cleared = .error () last) :
    recovering reader before = .error () (before.rewind last) := by
  simp only [recovering, failed, blamed, retried]

end going

end Reader

/-- What is made of a value does not change the failures. -/
@[simp]
theorem failures_map (make : α → β) (reader : Reader α) (progress : Progress) :
    failures ((make <$> reader) progress) = failures (reader progress) := by
  simp only [Functor.map, EStateM.map]
  cases reader progress <;> rfl

/-- What is made of a value is made of the one that was read. -/
@[simp]
theorem value?_map (make : α → β) (reader : Reader α) (progress : Progress) :
    value? ((make <$> reader) progress) = (value? (reader progress)).map make := by
  simp only [Functor.map, EStateM.map]
  cases reader progress <;> rfl

end DiceLang.Text
