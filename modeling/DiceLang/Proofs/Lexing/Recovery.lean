import DiceLang.Proofs.Lexing.Lexemes

/-!
# Recovering comes to scanning

Reading with recovery goes over a text with many attempts: each alternative is tried, what is
stopped is skipped and tried again, and several failures may be reported, in bytes. All of this
comes to one scan from left to right. As long as lexemes follow each other, nothing is reported.
Where a text is stuck, the attempt there blames the character that scanning stops at, attempts
before that character cannot succeed, and whatever is blamed later starts behind it.
-/

namespace DiceLang.Token

open Text Text.Progress Text.Reader

/-! ## One attempt -/

section item

variable {gap chars front rest : List Char} {kind : Kind} {progress : Progress} {failure : Failure}

/-- A lexeme is read with its span and with the blanks around it. -/
theorem item_of_lexeme (sound : progress.Sound) (blank : ∀ c ∈ gap, isBlank c = true)
    (lexeme : Lexeme chars kind) (apart : (∃ value, kind = .number value) → StartsApart rest)
    (whole : progress.rest = gap ++ (chars ++ rest)) :
    ∃ others left after, rest = others ++ left ∧ (∀ c ∈ others, isBlank c = true) ∧
      item progress = .ok (kind, ⟨progress.offset + byteLength gap,
        progress.offset + byteLength (gap ++ chars)⟩) after ∧
      progress.Reaches (gap ++ chars ++ others) left after := by
  have noBlank : ∀ c ∈ (chars ++ rest).head?, isBlank c = false := by
    intro c isFirst
    cases chars with
    | nil => exact absurd rfl lexeme.ne_nil
    | cons first chars =>
      cases isFirst
      exact lexeme.isBlank_eq_false List.mem_cons_self
  have skipped := blanks_of_rest blank noBlank whole
  have behindGap := sound.reaches_past whole
  obtain ⟨middle, read, reached⟩ := reads_token lexeme apart _ behindGap.sound rfl
  have behindToken := behindGap.trans reached
  have behindBlanks := behindToken.sound.reaches_past (behindToken.rest.trans
    (List.takeWhile_append_dropWhile (p := isBlank)).symm)
  have skippedBehind :
      blanks middle = .ok () (middle.past (rest.takeWhile isBlank) (rest.dropWhile isBlank)) := by
    rw [blanks, behindToken.rest]
  refine ⟨_, _, _, List.takeWhile_append_dropWhile.symm, List.all_eq_true.mp List.all_takeWhile,
    ?_, Reaches.trans (by rwa [List.takeWhile_append_dropWhile]) behindBlanks⟩
  simp only [item, padded, bind, EStateM.bind, skipped, spanned, read, skippedBehind,
    behindToken.offset]
  rfl

/-- Where a text is stuck, an attempt fails, and what comes next is blamed. -/
theorem fails_item (blank : ∀ c ∈ gap, isBlank c = true) (stuck : Stuck front rest) :
    Fails item (gap ++ front) rest := by
  intro progress sound whole
  rw [List.append_assoc] at whole
  have skipped := blanks_of_rest blank stuck.isBlank_eq_false whole
  obtain ⟨after, failed, blamed⟩ :=
    fails_token stuck _ (sound.reaches_past whole).sound rfl
  refine ⟨after, ?_, by rw [blamed, past_past]⟩
  simp only [item, padded, bind, EStateM.bind, skipped, spanned, failed]

/-- No retry succeeds before the place where a text is stuck. -/
theorem retry_gap (blank : ∀ c ∈ gap, isBlank c = true) (stuck : Stuck front rest)
    (whole : progress.rest = gap ++ (front ++ rest)) :
    retry item failure progress.cleared =
      retry item failure (progress.past gap (front ++ rest)).cleared := by
  induction gap generalizing progress with
  | nil =>
    have here : progress.past [] (front ++ rest) = progress := past_nil whole
    rw [here]
  | cons c gap inductionHypothesis =>
    rw [List.forall_mem_cons] at blank
    -- Behind one blank the next attempt runs into the same text as the first.
    have here : progress.cleared.rest = c :: (gap ++ (front ++ rest)) := whole
    have skipped := reaches_skipped here
    obtain ⟨after, failed, -⟩ :=
      fails_item blank.2 stuck _ skipped.sound (List.append_assoc _ _ _).symm
    rw [retry_of_error sound_cleared whole failed]
    have later := inductionHypothesis blank.2
      (rfl : (progress.past [c] (gap ++ (front ++ rest))).rest = _)
    rw [past_past] at later
    exact later

/-- A retry ends in one of two ways. Either the failure stays, or it is reported and reading is
behind the character that was skipped first and at least one more. -/
theorem retry_cases (sound : progress.Sound) (failure : Failure) :
    (∃ last, retry item failure progress = .error () last ∧ last.furthest? = some failure) ∨
    ∃ value after, retry item failure progress = .ok value after ∧ after.Sound ∧
      after.reported = progress.reported ++ [failure] ∧
      after.rest.length < progress.rest.length ∧
      progress.offset + byteLength (progress.rest.take 1) < after.offset := by
  induction whole : progress.rest generalizing progress with
  | nil => exact .inl ⟨_, retry_of_nil whole, rfl⟩
  | cons c rest inductionHypothesis =>
    have skipped := reaches_skipped whole
    have size : progress.offset + byteLength ((c :: rest).take 1) = _ := skipped.offset.symm
    rw [size]
    cases opening rest with
    | @lexeme gap chars rest kind blank lexeme apart =>
      obtain ⟨others, left, after, rfl, -, read, reached⟩ :=
        item_of_lexeme skipped.sound blank lexeme apart rfl
      have some : gap ++ chars ++ others ≠ [] := by simp [lexeme.ne_nil]
      refine .inr ⟨_, _, retry_of_ok sound whole read, reached.sound, ?_, ?_, reached.lt_offset some⟩
      · simp [report, reached.reported, skipped.reported]
      · have shorter := reached.shorter some (by simp [skipped.rest])
        exact Nat.lt_succ_of_lt shorter
    | @stuck gap front rest blank stuck =>
      obtain ⟨after, failed, -⟩ :=
        fails_item blank stuck _ skipped.sound (List.append_assoc _ _ _).symm
      rw [retry_of_error sound whole failed]
      have here : (progress.past [c] (gap ++ (front ++ rest))).cleared.rest = _ := rfl
      rcases inductionHypothesis sound_cleared here with stays | recovered
      · exact .inl stays
      · obtain ⟨value, last, read, sound, reported, shorter, further⟩ := recovered
        refine .inr ⟨value, last, read, sound, reported, Nat.lt_succ_of_lt shorter, ?_⟩
        exact Nat.lt_of_le_of_lt (Nat.le_add_right _ _) further

end item

/-! ## What is left -/

/-- Reads what is left of a text when the next token or the end comes next, or blanks before it. -/
def remaining : Reader (List (Kind × Span)) := do
  let found ← repeated (recovering item)
  blanks
  ended
  return found

section remaining

variable {gap chars front rest : List Char} {kind : Kind} {found : Kind × Span}
  {progress before after : Progress}

/-- A token that has been read comes before those that are left. -/
theorem remaining_of_ok (read : recovering item before = .ok found after)
    (shorter : after.rest.length < before.rest.length) :
    remaining before = ((found :: ·) <$> remaining) after := by
  simp only [remaining, repeated, bind, EStateM.bind, Functor.map, EStateM.map,
    many_of_ok read shorter]
  cases many (recovering item) after with
  | mk others last =>
    have skipped : blanks last = .ok () (last.past _ _) := rfl
    simp only [Prod.map_apply, id, skipped]
    cases ended (last.past (last.rest.takeWhile isBlank) (last.rest.dropWhile isBlank)) <;> rfl

/-- If no token can be read, nothing but blanks may be left. -/
theorem remaining_of_error (failed : recovering item before = .error () after)
    (blank : ∀ c ∈ gap, isBlank c = true) (apart : ∀ c ∈ rest.head?, isBlank c = false)
    (whole : before.rest = gap ++ rest) :
    remaining before = (do ended; return []) ((before.rewind after).past gap rest) := by
  have skipped : blanks (before.rewind after) = .ok () ((before.rewind after).past gap rest) :=
    blanks_of_rest blank apart whole
  simp only [remaining, repeated, bind, EStateM.bind, many_of_error failed, skipped]

/-- A lexeme is one token before those that are left behind it. -/
theorem remaining_of_lexeme (sound : progress.Sound) (blank : ∀ c ∈ gap, isBlank c = true)
    (lexeme : Lexeme chars kind) (apart : (∃ value, kind = .number value) → StartsApart rest)
    (whole : progress.rest = gap ++ (chars ++ rest)) :
    ∃ others left after, rest = others ++ left ∧ (∀ c ∈ others, isBlank c = true) ∧
      remaining progress = (((kind, ⟨progress.offset + byteLength gap,
        progress.offset + byteLength (gap ++ chars)⟩) :: ·) <$> remaining) after ∧
      progress.Reaches (gap ++ chars ++ others) left after := by
  obtain ⟨others, left, after, rfl, blankBehind, read, reached⟩ :=
    item_of_lexeme sound blank lexeme apart whole
  have shorter := reached.shorter (by simp [lexeme.ne_nil]) (by simp [whole])
  exact ⟨others, left, after, rfl, blankBehind, remaining_of_ok (recovering_of_ok read) shorter,
    reached⟩

/-- If only blanks are left, reading ends with nothing reported. -/
theorem remaining_of_blank (sound : progress.Sound) (blank : ∀ c ∈ gap, isBlank c = true)
    (whole : progress.rest = gap ++ ([] ++ [])) :
    ∃ last, remaining progress = .ok [] last ∧ last.reported = progress.reported := by
  obtain ⟨after, failed, blamed⟩ :=
    fails_item blank .ended progress sound (whole.trans (List.append_assoc _ _ _).symm)
  have stays := recovering_of_error failed blamed ((retry_gap blank .ended whole).trans
    (retry_of_nil rfl))
  rw [remaining_of_error stays blank (List.head?_nil ▸ fun _ isFirst => by cases isFirst) whole]
  exact ⟨_, rfl, rfl⟩

/-- Where a text is stuck, the next character is blamed. The failure stays, or it is reported and
reading goes on behind that character. -/
theorem remaining_of_stuck (sound : progress.Sound) (blank : ∀ c ∈ gap, isBlank c = true)
    (stuck : Stuck front rest) (unread : front ++ rest ≠ [])
    (whole : progress.rest = gap ++ (front ++ rest)) :
    failures (remaining progress) =
        progress.reported ++ [(progress.past (gap ++ front) rest).blocked] ∨
      ∃ found after, remaining progress = ((found :: ·) <$> remaining) after ∧ after.Sound ∧
        after.reported = progress.reported ++ [(progress.past (gap ++ front) rest).blocked] ∧
        after.rest.length < progress.rest.length ∧
        (progress.past (gap ++ front) rest).blocked.span.start < after.offset := by
  obtain ⟨middle, failed, blamed⟩ :=
    fails_item blank stuck progress sound (whole.trans (List.append_assoc _ _ _).symm)
  have start : (progress.past (gap ++ front) rest).blocked.span.start =
      progress.offset + byteLength gap + byteLength front := by
    simp [past, blocked, Nat.add_assoc]
  generalize (progress.past (gap ++ front) rest).blocked = failure at blamed start ⊢
  have skipped : retry item failure progress.cleared = _ := retry_gap blank stuck whole
  have cleared : (progress.past gap (front ++ rest)).cleared.Sound := sound_cleared
  rcases retry_cases cleared failure with
    ⟨last, retried, stays⟩ | ⟨found, after, retried, behind, reported, shorter, further⟩
  · left
    -- Reading is back before the gap, so the missing end is blamed at a place that is not further.
    have stopped := recovering_of_error failed blamed (skipped.trans retried)
    have kept : ((progress.rewind (progress.rewind last)).past gap (front ++ rest)).furthest? =
      some failure := stays
    rw [remaining_of_error stopped blank stuck.isBlank_eq_false whole,
      (misses_ended unread).bind _ rfl, note_of_le kept]
    · rw [failures, kept]
      rfl
    · rw [start]
      exact Nat.le_add_right _ _
  · right
    have shorterBefore : after.rest.length < progress.rest.length := by
      rw [whole, List.length_append]
      exact Nat.lt_of_lt_of_le shorter (Nat.le_add_left _ _)
    have read := recovering_of_retry failed blamed (skipped.trans retried)
    refine ⟨found, after, remaining_of_ok read shorterBefore, behind, reported, shorterBefore, ?_⟩
    rw [start]
    exact Nat.lt_of_le_of_lt (Nat.add_le_add_left stuck.byteLength_le _) further

/-- Everything that is reported from here on starts here or behind. -/
def ReportsOnward (progress : Progress) : Prop :=
  ∃ new, failures (remaining progress) = progress.reported ++ new ∧
    ∀ failure ∈ new, progress.offset ≤ failure.span.start

/-- Where a text is stuck, the failure there is the first one that is told, and all others start
behind it. -/
theorem failures_of_stuck (sound : progress.Sound) (blank : ∀ c ∈ gap, isBlank c = true)
    (stuck : Stuck front rest) (unread : front ++ rest ≠ [])
    (whole : progress.rest = gap ++ (front ++ rest))
    (onward : ∀ after : Progress, after.Sound → after.rest.length < progress.rest.length →
      ReportsOnward after) :
    ∃ later, failures (remaining progress) =
        progress.reported ++ (progress.past (gap ++ front) rest).blocked :: later ∧
      ∀ failure ∈ later,
        (progress.past (gap ++ front) rest).blocked.span.start < failure.span.start := by
  rcases remaining_of_stuck sound blank stuck unread whole with
    stays | ⟨found, after, read, behind, reported, shorter, further⟩
  · exact ⟨[], stays, List.forall_mem_nil _⟩
  · obtain ⟨later, told, starts⟩ := onward after behind shorter
    refine ⟨later, ?_, fun failure member => Nat.lt_of_lt_of_le further (starts failure member)⟩
    rw [read, failures_map, told, reported, List.append_assoc, List.singleton_append]

/-- Whatever is left of a text, reading it reports nothing that starts before it. -/
theorem reportsOnward (sound : progress.Sound) : ReportsOnward progress := by
  -- Behind a failure any shorter text may be left, so the induction is on what is left in length.
  induction length : progress.rest.length using Nat.strongRecOn generalizing progress with
  | ind length inductionHypothesis =>
    subst length
    generalize whole : progress.rest = text
    cases opening text with
    | @lexeme gap chars rest kind blank lexeme apart =>
      obtain ⟨others, left, after, rfl, -, read, reached⟩ :=
        remaining_of_lexeme sound blank lexeme apart whole
      have some : gap ++ chars ++ others ≠ [] := by simp [lexeme.ne_nil]
      have shorter := reached.shorter some (by simp [whole])
      obtain ⟨new, told, starts⟩ := inductionHypothesis _ shorter reached.sound rfl
      refine ⟨new, by rw [read, failures_map, told, reached.reported], fun failure member => ?_⟩
      exact Nat.le_trans (Nat.le_of_lt (reached.lt_offset some)) (starts failure member)
    | @stuck gap front rest blank stuck =>
      by_cases unread : front ++ rest = []
      · obtain ⟨rfl, rfl⟩ := List.append_eq_nil_iff.mp unread
        obtain ⟨last, read, reported⟩ := remaining_of_blank sound blank whole
        exact ⟨[], by rw [read, failures, reported, List.append_nil], List.forall_mem_nil _⟩
      · obtain ⟨later, told, starts⟩ := failures_of_stuck sound blank stuck unread whole
          fun after behind shorter => inductionHypothesis _ shorter behind rfl
        refine ⟨_ :: later, told, List.forall_mem_cons.mpr ⟨?_, fun failure member => ?_⟩⟩
        · exact Nat.le_add_right _ _
        · exact Nat.le_trans (Nat.le_add_right _ _) (Nat.le_of_lt (starts failure member))

end remaining

/-! ## The whole text -/

/-- What reading comes to, behind some reported failures, is what scanning comes to. If tokens are
scanned, the same are found and no more failures are told. If a misfit is scanned, it is the first
failure that is told, and all others start behind it. -/
def Agrees (source : List Char) (reported : List Failure)
    (reading : EStateM.Result Unit Progress (List (Kind × Span))) :
    Except Misfit (List Token) → Prop
  | .ok tokens => failures reading = reported ∧ ∃ found, value? reading = some found ∧
      found.map (located source) ++ [endingAt source.length] = tokens
  | .error misfit => ∃ first later, failures reading = reported ++ first :: later ∧
      ⟨first.found, charOffset source first.span.start⟩ = misfit ∧
      ∀ failure ∈ later, first.span.start < failure.span.start

section Agrees

variable {source front gap chars rest : List Char} {progress after : Progress} {kind : Kind}

/-- One more token before those that are read is one more before those that are scanned. -/
theorem Agrees.cons {reported : List Failure} {scanned : Except Misfit (List Token)}
    (agrees : Agrees source reported (remaining after) scanned) (found : Kind × Span) :
    Agrees source reported (((found :: ·) <$> remaining) after)
      (scanned.map (located source found :: ·)) := by
  cases scanned with
  | ok tokens =>
    obtain ⟨told, others, read, rfl⟩ := agrees
    exact ⟨by rw [failures_map, told], found :: others, by rw [value?_map, read]; rfl, rfl⟩
  | error misfit =>
    obtain ⟨first, later, told, same, behind⟩ := agrees
    exact ⟨first, later, by rw [failures_map, told], same, behind⟩

/-- A lexeme is located where it stands, counted in characters. -/
theorem located_of_lexeme (kind : Kind) :
    located (front ++ (gap ++ (chars ++ rest))) (kind, ⟨byteLength front + byteLength gap,
      byteLength front + byteLength (gap ++ chars)⟩) =
      ⟨kind, String.ofList chars, front.length + gap.length⟩ := by
  have start : byteLength front + byteLength gap = byteLength (front ++ gap) :=
    (byteLength_append _ _).symm
  have stop : byteLength front + byteLength (gap ++ chars) = byteLength ((front ++ gap) ++ chars) := by
    simp
  rw [located, start, stop, ← List.append_assoc front, slice?_append, charOffset_append,
    List.length_append]
  rfl

/-- If only blanks are left, nothing is read and nothing is scanned. -/
theorem agrees_of_blank (sound : progress.Sound) (blank : ∀ c ∈ gap, isBlank c = true)
    (whole : progress.rest = gap ++ ([] ++ [])) :
    Agrees (front ++ (gap ++ ([] ++ []))) progress.reported (remaining progress)
      (scan front.length (gap ++ ([] ++ []))) := by
  obtain ⟨last, read, reported⟩ := remaining_of_blank sound blank whole
  rw [read, scan_gap blank, List.append_nil, scan]
  refine ⟨reported, [], rfl, ?_⟩
  simp

/-- Where a text is stuck, the failure that is told first is the misfit that is scanned. -/
theorem agrees_of_stuck (sound : progress.Sound) (place : progress.offset = byteLength front)
    (blank : ∀ c ∈ gap, isBlank c = true) {half : List Char} (stuck : Stuck half rest)
    (unread : half ++ rest ≠ []) (whole : progress.rest = gap ++ (half ++ rest)) :
    Agrees (front ++ (gap ++ (half ++ rest))) progress.reported (remaining progress)
      (scan front.length (gap ++ (half ++ rest))) := by
  obtain ⟨later, told, behind⟩ :=
    failures_of_stuck sound blank stuck unread whole fun after behind _ => reportsOnward behind
  rw [scan_gap blank, scan_stuck stuck unread]
  refine ⟨_, later, told, ?_, behind⟩
  have start : (progress.past (gap ++ half) rest).blocked.span.start =
      byteLength (front ++ gap ++ half) := by
    simp [past, blocked, place, Nat.add_assoc]
  rw [start, ← List.append_assoc, ← List.append_assoc, charOffset_append, List.length_append,
    List.length_append]
  rfl

/-- Reading and scanning agree on what is left of a text, wherever they are. -/
theorem agrees_remaining (sound : progress.Sound) (place : progress.offset = byteLength front) :
    Agrees (front ++ progress.rest) progress.reported (remaining progress)
      (scan front.length progress.rest) := by
  induction length : progress.rest.length using Nat.strongRecOn generalizing progress front with
  | ind length inductionHypothesis =>
    subst length
    generalize whole : progress.rest = unread
    cases opening unread with
    | @lexeme gap chars rest kind blank lexeme apart =>
      obtain ⟨others, left, after, rfl, blankBehind, read, reached⟩ :=
        remaining_of_lexeme sound blank lexeme apart whole
      have shorter := reached.shorter (by simp [lexeme.ne_nil]) (by simp [whole])
      have placeBehind : after.offset = byteLength (front ++ (gap ++ chars ++ others)) := by
        rw [reached.offset, place, ← byteLength_append]
      have characters : (front ++ (gap ++ chars ++ others)).length =
          front.length + gap.length + chars.length + others.length := by
        simp [Nat.add_assoc]
      have text : front ++ (gap ++ chars ++ others) ++ left =
          front ++ (gap ++ (chars ++ (others ++ left))) := by
        simp
      have agrees := inductionHypothesis _ shorter reached.sound placeBehind rfl
      rw [reached.rest, reached.reported, characters, text] at agrees
      have more := agrees.cons (kind, ⟨progress.offset + byteLength gap,
        progress.offset + byteLength (gap ++ chars)⟩)
      rw [place, located_of_lexeme] at more
      rw [read, place, scan_gap blank, scan_lexeme lexeme apart,
        scan_gap blankBehind]
      exact more
    | @stuck gap half rest blank stuck =>
      by_cases unread : half ++ rest = []
      · obtain ⟨rfl, rfl⟩ := List.append_eq_nil_iff.mp unread
        exact agrees_of_blank sound blank whole
      · exact agrees_of_stuck sound place blank stuck unread whole

end Agrees

/-- Behind the blanks in front of a text, what is left is to be read. -/
theorem items_of_blanks {before after : Progress} (skipped : blanks before = .ok () after) :
    items before = remaining after := by
  simp only [items, padded, remaining, bind, EStateM.bind, skipped, repeated]
  cases many (recovering item) after with
  | mk found last =>
    have skippedLast : blanks last = .ok () (last.past _ _) := rfl
    simp only [skippedLast]
    rfl

/-- What is read from a text agrees with what is scanned. -/
theorem agrees_items (text : List Char) : Agrees text [] (items (.start text)) (scan 0 text) := by
  have whole : text = text.takeWhile isBlank ++ text.dropWhile isBlank :=
    List.takeWhile_append_dropWhile.symm
  have blank : ∀ c ∈ text.takeWhile isBlank, isBlank c = true :=
    List.all_eq_true.mp List.all_takeWhile
  have apart := head?_dropWhile isBlank text
  generalize text.takeWhile isBlank = gap at whole blank
  generalize text.dropWhile isBlank = rest at whole apart
  subst whole
  have sound : (start (gap ++ rest)).Sound := fun _ kept => by cases kept
  have reached := sound.reaches_past rfl
  have place : ((start (gap ++ rest)).past gap rest).offset = byteLength gap := Nat.zero_add _
  rw [items_of_blanks (blanks_of_rest blank apart rfl), scan_gap blank, Nat.zero_add]
  exact agrees_remaining reached.sound place

/-- Of failures that start one behind the other the first one is told. -/
theorem earliest?_cons {first : Failure} {later : List Failure}
    (behind : ∀ failure ∈ later, first.span.start < failure.span.start) :
    earliest? (first :: later) = some first := by
  rw [earliest?, List.minOn?_cons_eq_some_minOn, List.minOn_eq_head]
  · rfl
  · exact List.forall_mem_cons.mpr ⟨Nat.le_refl _, fun failure member =>
      Nat.le_of_lt (behind failure member)⟩

/-- Reading with recovery comes to one scan from left to right: the same tokens, or the first misfit
of all. -/
theorem lex_eq_scan (text : String) :
    lex text = (scan 0 text.toList).mapError fun misfit => ⟨misfit, text⟩ := by
  have agrees := agrees_items text.toList
  cases scanned : scan 0 text.toList with
  | ok tokens =>
    rw [scanned] at agrees
    obtain ⟨told, found, read, rfl⟩ := agrees
    simp only [lex, told, read]
    rfl
  | error misfit =>
    rw [scanned] at agrees
    obtain ⟨first, later, told, rfl, behind⟩ := agrees
    rw [List.nil_append] at told
    simp only [lex, told, earliest?_cons behind]
    rfl

end DiceLang.Token
