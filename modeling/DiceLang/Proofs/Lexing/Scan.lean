import DiceLang.Proofs.Lexing.Layout
import DiceLang.Token.Lexer

/-!
# Scanning from left to right

The simple law of reading tokens: a text is gone through once, characters are counted, and the first
one that fits nowhere ends it. Nothing is skipped but blanks, and nothing is tried twice. What scanning
does with a text follows the layout of the text: blanks are passed over, lexemes become tokens, and
only a text that is stuck is not scanned on.
-/

namespace DiceLang.Token

/-- The kind that a single character spells on its own, digits excepted. -/
def Kind.ofChar? : Char → Option Kind
  | 'd' => some dice
  | 'h' => some (keep .highest)
  | 'l' => some (keep .lowest)
  | '+' => some (operator .add)
  | '-' => some (operator .sub)
  | '*' => some (operator .mul)
  | '/' => some (operator .div)
  | '(' => some parenOpen
  | ')' => some parenClose
  | _ => none

/-- The tokens of a text, of which `offset` characters have been read already. -/
def scan (offset : Nat) : List Char → Except Misfit (List Token)
  | [] => .ok [endingAt offset]
  | 'k' :: 'h' :: rest => do
    let tokens ← scan (offset + 2) rest
    return ⟨.keep .highest, "kh", offset⟩ :: tokens
  | 'k' :: 'l' :: rest => do
    let tokens ← scan (offset + 2) rest
    return ⟨.keep .lowest, "kl", offset⟩ :: tokens
  | 'k' :: rest => .error ⟨rest.head?, offset + 1⟩
  | c :: rest =>
    if Text.isBlank c then
      scan (offset + 1) rest
    else if c.isDigit then do
      let digits := c :: rest.takeWhile Char.isDigit
      let tokens ← scan (offset + digits.length) (rest.dropWhile Char.isDigit)
      return ⟨.number (Word.ofDigits digits), String.ofList digits, offset⟩ :: tokens
    else
      match Kind.ofChar? c with
      | some kind => do
        let tokens ← scan (offset + 1) rest
        return ⟨kind, String.singleton c, offset⟩ :: tokens
      | none => .error ⟨some c, offset⟩
termination_by text => text.length
decreasing_by
  all_goals
    have := (List.dropWhile_sublist Char.isDigit (l := rest)).length_le
    simp only [List.length_cons]
    omega

/-- A character that spells a kind alone is a lexeme of that kind. -/
theorem lexeme_of_ofChar {c : Char} {kind : Kind} (spelled : Kind.ofChar? c = some kind) :
    Lexeme [c] kind := by
  unfold Kind.ofChar? at spelled
  split at spelled <;> cases spelled
  · exact .dice
  · exact .bareHighest
  · exact .bareLowest
  · exact .operator .add
  · exact .operator .sub
  · exact .operator .mul
  · exact .operator .div
  · exact .parenOpen
  · exact .parenClose

/-- A character that spells a kind alone is no digit and no `k`. -/
theorem apart_of_ofChar {c : Char} {kind : Kind} (spelled : Kind.ofChar? c = some kind) :
    c.isDigit = false ∧ c ≠ 'k' := by
  unfold Kind.ofChar? at spelled
  split at spelled <;> cases spelled <;> decide

/-- A character alone spells no number. -/
theorem not_number_of_ofChar {c : Char} {kind : Kind} (spelled : Kind.ofChar? c = some kind) :
    ¬ ∃ value, kind = .number value := by
  rintro ⟨value, rfl⟩
  unfold Kind.ofChar? at spelled
  split at spelled <;> cases spelled

section scan

variable {chars rest : List Char} {kind : Kind}

/-- Any character but `k` is skipped, begins a run of digits, or is looked up alone. -/
theorem scan_cons {c : Char} (other : c ≠ 'k') (offset : Nat) :
    scan offset (c :: rest) =
      if Text.isBlank c then
        scan (offset + 1) rest
      else if c.isDigit then
        let digits := c :: rest.takeWhile Char.isDigit
        (scan (offset + digits.length) (rest.dropWhile Char.isDigit)).map
          (⟨.number (Word.ofDigits digits), String.ofList digits, offset⟩ :: ·)
      else
        match Kind.ofChar? c with
        | some kind =>
          (scan (offset + 1) rest).map (⟨kind, String.singleton c, offset⟩ :: ·)
        | none => .error ⟨some c, offset⟩ := by
  rw [scan]
  · rfl
  all_goals simp [other]

/-- A blank is skipped. -/
theorem scan_blank {c : Char} (blank : Text.isBlank c = true) (offset : Nat) :
    scan offset (c :: rest) = scan (offset + 1) rest := by
  have other : c ≠ 'k' := by
    rintro rfl
    revert blank
    decide
  rw [scan_cons other, if_pos blank]

/-- Blanks are skipped together. -/
theorem scan_gap {gap : List Char} (blank : ∀ c ∈ gap, Text.isBlank c = true) (offset : Nat) :
    scan offset (gap ++ rest) = scan (offset + gap.length) rest := by
  induction gap generalizing offset with
  | nil => rfl
  | cons c gap inductionHypothesis =>
    rw [List.forall_mem_cons] at blank
    rw [List.cons_append, scan_blank blank.1, inductionHypothesis blank.2, List.length_cons]
    congr 1
    omega

/-- A run of digits is taken whole. -/
theorem scan_digits {c : Char} {digits : List Char}
    (isDigit : ∀ d ∈ c :: digits, d.isDigit = true) (apart : StartsApart rest) (offset : Nat) :
    scan offset (c :: digits ++ rest) =
      (scan (offset + (c :: digits).length) rest).map
        (⟨.number (Word.ofDigits (c :: digits)), String.ofList (c :: digits), offset⟩ :: ·) := by
  rw [List.forall_mem_cons] at isDigit
  have other : c ≠ 'k' := by
    rintro rfl
    cases isDigit.1
  rw [List.cons_append, scan_cons other,
    if_neg (by simp [Text.isBlank_eq_false_of_isDigit isDigit.1]), if_pos isDigit.1]
  simp only [Text.takeWhile_append isDigit.2 apart,
    Text.dropWhile_append isDigit.2 apart]

/-- A lexeme is taken whole, whatever follows, if that does not continue its digits. -/
theorem scan_lexeme (lexeme : Lexeme chars kind)
    (apart : (∃ value, kind = .number value) → StartsApart rest) (offset : Nat) :
    scan offset (chars ++ rest) =
      (scan (offset + chars.length) rest).map (⟨kind, String.ofList chars, offset⟩ :: ·) := by
  cases lexeme with
  | number some isDigit =>
    rw [← Word.ofDigits_eq_saturate]
    match chars, some with
    | c :: digits, _ => exact scan_digits isDigit (apart ⟨_, rfl⟩) offset
  | keepHighest | keepLowest =>
    rw [List.cons_append, List.cons_append, scan]
    rfl
  | operator op =>
    cases op <;>
    · rw [List.cons_append, scan_cons (by decide), if_neg (by decide), if_neg (by decide)]
      rfl
  | _ =>
    rw [List.cons_append, scan_cons (by decide), if_neg (by decide), if_neg (by decide)]
    rfl

end scan

/-! ## How a text can begin -/

/-- Behind the front no token can be read on: the text has ended, the next character begins no
lexeme, or what follows a `k` does not make it a keep modifier. -/
inductive Stuck : List Char → List Char → Prop where
  | ended : Stuck [] []
  | misplaced {c : Char} {rest : List Char} (noKeep : c ≠ 'k') (noBlank : Text.isBlank c = false)
    (noDigit : c.isDigit = false) (noKind : Kind.ofChar? c = none) : Stuck [] (c :: rest)
  | halfKeep {rest : List Char} (noHighest : ∀ others, rest ≠ 'h' :: others)
    (noLowest : ∀ others, rest ≠ 'l' :: others) : Stuck ['k'] rest

/-- Where a text is stuck, no blank stands first. -/
theorem Stuck.isBlank_eq_false {front rest : List Char} (stuck : Stuck front rest) :
    ∀ c ∈ (front ++ rest).head?, Text.isBlank c = false := by
  intro c isFirst
  cases stuck with
  | ended => cases isFirst
  | misplaced noKeep noBlank noDigit noKind =>
    cases isFirst
    exact noBlank
  | halfKeep noHighest noLowest =>
    cases isFirst
    decide

/-- Where a text is stuck, at most one character has been read of what could be a token. -/
theorem Stuck.byteLength_le {front rest : List Char} (stuck : Stuck front rest) :
    Text.byteLength front ≤ Text.byteLength ((front ++ rest).take 1) := by
  cases stuck with
  | ended | misplaced => exact Nat.zero_le _
  | halfKeep => exact Nat.le_refl _

/-- Whether a text is stuck is seen from the next character alone. -/
theorem Stuck.of_cons {c : Char} {front rest more : List Char} (stuck : Stuck front (c :: rest)) :
    Stuck front (c :: more) := by
  cases stuck with
  | misplaced noKeep noBlank noDigit noKind => exact .misplaced noKeep noBlank noDigit noKind
  | halfKeep noHighest noLowest =>
    refine .halfKeep (fun others same => noHighest rest ?_) (fun others same => noLowest rest ?_)
    all_goals
      cases same
      rfl

/-- Scanning ends where a text is stuck, unless nothing is left of it. -/
theorem scan_stuck {front rest : List Char} (stuck : Stuck front rest)
    (unread : front ++ rest ≠ []) (offset : Nat) :
    scan offset (front ++ rest) = .error ⟨rest.head?, offset + front.length⟩ := by
  cases stuck with
  | ended => exact absurd rfl unread
  | misplaced noKeep noBlank noDigit noKind =>
    rw [List.nil_append, scan_cons noKeep, if_neg (by simp [noBlank]), if_neg (by simp [noDigit])]
    simp only [noKind]
    rfl
  | halfKeep noHighest noLowest =>
    rw [List.singleton_append, scan]
    · rfl
    · exact fun others => noHighest others
    · exact fun others => noLowest others

/-- What stands first in a text: behind some blanks it goes on with a lexeme or is stuck. -/
inductive Opening : List Char → Prop where
  | lexeme {gap chars rest : List Char} {kind : Kind} (blank : ∀ c ∈ gap, Text.isBlank c = true)
    (lexeme : Lexeme chars kind) (apart : (∃ value, kind = .number value) → StartsApart rest) :
    Opening (gap ++ (chars ++ rest))
  | stuck {gap front rest : List Char} (blank : ∀ c ∈ gap, Text.isBlank c = true)
    (stuck : Stuck front rest) : Opening (gap ++ (front ++ rest))

/-- A blank before a text does not change what stands first. -/
theorem Opening.blank {c : Char} {text : List Char} (isBlank : Text.isBlank c = true)
    (opening : Opening text) : Opening (c :: text) := by
  cases opening with
  | lexeme blank lexeme apart =>
    exact .lexeme (List.forall_mem_cons.mpr ⟨isBlank, blank⟩) lexeme apart
  | stuck blank stuck => exact .stuck (List.forall_mem_cons.mpr ⟨isBlank, blank⟩) stuck

/-- Every text begins in one of these ways. -/
theorem opening (text : List Char) : Opening text := by
  have noGap : ∀ c ∈ [], Text.isBlank c = true := List.forall_mem_nil _
  fun_induction scan 0 text with
  | case1 => exact .stuck noGap .ended
  | case2 _ rest => exact .lexeme noGap .keepHighest fun number => by cases number.choose_spec
  | case3 _ rest => exact .lexeme noGap .keepLowest fun number => by cases number.choose_spec
  | case4 _ rest noHighest noLowest => exact .stuck noGap (.halfKeep noHighest noLowest)
  | case5 _ c rest noHighest noLowest other blank inductionHypothesis =>
    exact inductionHypothesis.blank blank
  | case6 _ c rest noHighest noLowest other noBlank isDigit digits =>
    have allDigits : ∀ d ∈ c :: rest.takeWhile Char.isDigit, d.isDigit = true :=
      List.forall_mem_cons.mpr ⟨isDigit, List.all_eq_true.mp List.all_takeWhile⟩
    have begins := Opening.lexeme noGap (.number (by simp) allDigits)
      fun _ => Text.head?_dropWhile Char.isDigit rest
    rwa [List.cons_append, List.takeWhile_append_dropWhile] at begins
  | case7 _ c rest noHighest noLowest other noBlank noDigit kind spelled =>
    exact .lexeme noGap (lexeme_of_ofChar spelled)
      fun number => absurd number (not_number_of_ofChar spelled)
  | case8 _ c rest noHighest noLowest other noBlank noDigit noKind =>
    exact .stuck noGap
      (.misplaced other (by simpa using noBlank) (by simpa using noDigit) noKind)

/-- What holds of blanks and of every text that is stuck behind blanks holds of all texts, if it is
kept by blanks and a lexeme before a text. -/
@[elab_as_elim]
theorem openingInduction {motive : List Char → Prop}
    (blank : ∀ gap, (∀ c ∈ gap, Text.isBlank c = true) → motive gap)
    (stuck : ∀ gap front rest, (∀ c ∈ gap, Text.isBlank c = true) → Stuck front rest →
      front ++ rest ≠ [] → motive (gap ++ (front ++ rest)))
    (lexeme : ∀ gap chars rest kind, (∀ c ∈ gap, Text.isBlank c = true) → Lexeme chars kind →
      ((∃ value, kind = .number value) → StartsApart rest) → motive rest →
      motive (gap ++ (chars ++ rest)))
    (text : List Char) : motive text := by
  induction length : text.length using Nat.strongRecOn generalizing text with
  | ind length inductionHypothesis =>
    subst length
    cases opening text with
    | @lexeme gap chars rest kind gapBlank spelled apart =>
      have positive := List.length_pos_iff.mpr spelled.ne_nil
      have shorter : rest.length < (gap ++ (chars ++ rest)).length := by
        simp only [List.length_append]
        omega
      exact lexeme gap chars rest kind gapBlank spelled apart
        (inductionHypothesis _ shorter rest rfl)
    | @stuck gap front rest gapBlank isStuck =>
      by_cases unread : front ++ rest = []
      · rw [unread, List.append_nil]
        exact blank gap gapBlank
      · exact stuck gap front rest gapBlank isStuck unread

end DiceLang.Token
