import Mathlib.Order.Bounds.Defs
import DiceLang.Proofs.Lexing.Exactness

/-!
# The first misfit

A text that cannot be scanned is blamed on one character: the first one that no continuation can make
good. Up to there the text is the front of some text that can be scanned, and what follows does not
matter. If the text itself is such a front, it ends too early, which happens only in the middle of a
keep modifier.
-/

namespace DiceLang.Token

/-- The text can be scanned to its end. -/
def Readable (chars : List Char) : Prop :=
  ∃ layout : Layout, layout.WellSpaced ∧ layout.text = chars

section Readable

variable {chars rest : List Char} {kind : Kind} {c : Char}

/-- Where a text stands does not matter for whether it can be scanned. -/
theorem readable_iff_scan (offset : Nat) :
    Readable chars ↔ ∃ tokens, scan offset chars = .ok tokens := by
  constructor
  · rintro ⟨layout, spaced, rfl⟩
    exact ⟨_, scan_of_laidOut ⟨layout, spaced, rfl, rfl⟩⟩
  · rintro ⟨tokens, scanned⟩
    obtain ⟨layout, spaced, whole, -⟩ := laidOut_of_scan scanned
    exact ⟨layout, spaced, whole⟩

/-- The empty text can be scanned. -/
theorem readable_nil : Readable [] :=
  (readable_iff_scan 0).mpr ⟨_, scan_of_laidOut .empty⟩

/-- Blanks before a text do not matter. -/
theorem readable_gap_append (blank : ∀ c ∈ chars, Text.isBlank c = true) :
    Readable (chars ++ rest) ↔ Readable rest := by
  rw [readable_iff_scan 0, readable_iff_scan (0 + chars.length), scan_gap blank]

/-- A lexeme before a text does not matter, if the text does not continue its digits. -/
theorem readable_lexeme_append (lexeme : Lexeme chars kind)
    (apart : (∃ value, kind = .number value) → StartsApart rest) :
    Readable (chars ++ rest) ↔ Readable rest := by
  rw [readable_iff_scan 0, readable_iff_scan (0 + chars.length), scan_lexeme lexeme apart]
  cases scan (0 + chars.length) rest <;> simp [Except.map]

/-- A text that is stuck cannot be scanned, unless nothing is left of it. -/
theorem not_readable_of_stuck (stuck : Stuck chars rest) (unread : chars ++ rest ≠ []) :
    ¬ Readable (chars ++ rest) := by
  rw [readable_iff_scan 0, scan_stuck stuck unread]
  rintro ⟨tokens, scanned⟩
  cases scanned

end Readable

/-- A text breaks off between these two parts. The front is that of a text that can be scanned, but not
of one that goes on with the next character. If there is none, the front ends in half a keep
modifier. -/
structure BreaksAt (front rest : List Char) : Prop where
  goesOn : ∃ more, StartsApart more ∧ Readable (front ++ more)
  blocked : ∀ c ∈ rest.head?, ∀ more, ¬ Readable (front ++ c :: more)
  half : rest = [] → ∃ before, front = before ++ ['k'] ∧ Readable before

/-- Whether a text continues digits depends on its first character alone. -/
theorem StartsApart.of_head? {chars others : List Char} (apart : StartsApart chars)
    (same : others.head? = chars.head?) : StartsApart others := by
  intro c isFirst
  exact apart c (same ▸ isFirst)

/-- What goes on after a front goes on as apart as the front does. -/
theorem StartsApart.replace {front rest more : List Char} (apart : StartsApart (front ++ rest))
    (apartMore : StartsApart more) : StartsApart (front ++ more) := by
  cases front with
  | nil => exact apartMore
  | cons c front => exact apart.of_head? rfl

namespace BreaksAt

variable {front rest chars : List Char} {kind : Kind} {c : Char}

/-- Where a text is stuck, it breaks off, unless nothing is left of it. A `k` could still be made a
keep modifier, but not by what follows it. -/
theorem of_stuck (stuck : Stuck front rest) (unread : front ++ rest ≠ []) : BreaksAt front rest where
  goesOn := by
    cases stuck with
    | ended => exact absurd rfl unread
    | misplaced => exact ⟨[], startsApart_nil, readable_nil⟩
    | halfKeep =>
      refine ⟨['h'], fun _ isFirst => ?_, ?_⟩
      · cases isFirst
        rfl
      · exact (readable_lexeme_append .keepHighest (fun number => by cases number.choose_spec)).mpr
          readable_nil
  blocked := by
    intro c isFirst more
    obtain ⟨others, rfl⟩ := List.head?_eq_some_iff.mp isFirst
    exact not_readable_of_stuck stuck.of_cons (by simp)
  half := by
    rintro rfl
    cases stuck with
    | ended => exact absurd rfl unread
    | halfKeep => exact ⟨[], rfl, readable_nil⟩

/-- Blanks before a text do not move its break. -/
theorem gap (blank : ∀ c ∈ chars, Text.isBlank c = true) (breaks : BreaksAt front rest) :
    BreaksAt (chars ++ front) rest where
  goesOn := by
    obtain ⟨more, apart, readable⟩ := breaks.goesOn
    rw [← readable_gap_append blank, ← List.append_assoc] at readable
    exact ⟨more, apart, readable⟩
  blocked := by
    intro d isFirst more readable
    rw [List.append_assoc, readable_gap_append blank] at readable
    exact breaks.blocked d isFirst more readable
  half := by
    intro ended
    obtain ⟨before, rfl, readable⟩ := breaks.half ended
    exact ⟨chars ++ before, (List.append_assoc _ _ _).symm, (readable_gap_append blank).mpr readable⟩

/-- A lexeme before a text does not move its break. -/
theorem lexeme (spelled : Lexeme chars kind)
    (apart : (∃ value, kind = .number value) → StartsApart (front ++ rest))
    (breaks : BreaksAt front rest) : BreaksAt (chars ++ front) rest where
  goesOn := by
    obtain ⟨more, apartMore, readable⟩ := breaks.goesOn
    refine ⟨more, apartMore, ?_⟩
    rw [List.append_assoc]
    exact (readable_lexeme_append spelled fun number => (apart number).replace apartMore).mpr
      readable
  blocked := by
    intro c isFirst more readable
    rw [List.append_assoc] at readable
    refine breaks.blocked c isFirst more ((readable_lexeme_append spelled ?_).mp readable)
    intro number
    refine (apart number).of_head? ?_
    rw [List.head?_append, List.head?_append, List.head?_cons, isFirst]
  half := by
    intro ended
    obtain ⟨before, rfl, readable⟩ := breaks.half ended
    refine ⟨chars ++ before, (List.append_assoc _ _ _).symm, ?_⟩
    refine (readable_lexeme_append spelled fun number => ?_).mpr readable
    have apartBefore := apart number
    rw [List.append_assoc] at apartBefore
    simpa using apartBefore.replace startsApart_nil

/-- Only the end of a text is made good by what follows it. -/
theorem extend (breaks : BreaksAt front (c :: rest)) (more : List Char) :
    BreaksAt front (c :: rest ++ more) where
  goesOn := breaks.goesOn
  blocked := breaks.blocked
  half := by simp

/-- No text that can be scanned begins like this one and its misfit. -/
theorem not_readable (breaks : BreaksAt front (c :: rest)) (more : List Char) :
    ¬ Readable (front ++ c :: more) :=
  breaks.blocked c rfl more

/-- A text does not break off again before it breaks off. -/
theorem eq_of_append {further : List Char} (breaks : BreaksAt front (further ++ rest))
    (breaksFurther : BreaksAt (front ++ further) rest) : further = [] := by
  cases further with
  | nil => rfl
  | cons c further =>
    obtain ⟨more, -, readable⟩ := breaksFurther.goesOn
    rw [List.append_assoc, List.cons_append] at readable
    exact absurd readable (breaks.not_readable _)

/-- A text breaks off at one place only. -/
theorem unique {others more : List Char} (same : front ++ rest = others ++ more)
    (breaks : BreaksAt front rest) (breaksAgain : BreaksAt others more) :
    front = others ∧ rest = more := by
  rcases List.append_eq_append_iff.mp same with ⟨further, rfl, rfl⟩ | ⟨further, rfl, rfl⟩
  · have none := breaks.eq_of_append breaksAgain
    subst none
    exact ⟨(List.append_nil _).symm, rfl⟩
  · have none := breaksAgain.eq_of_append breaks
    subst none
    exact ⟨List.append_nil _, rfl⟩

end BreaksAt

/-- Behind so many characters, the text breaks off at the misfit. -/
def Blamed (offset : Nat) (chars : List Char) (misfit : Misfit) : Prop :=
  ∃ front rest, chars = front ++ rest ∧ misfit = ⟨rest.head?, offset + front.length⟩ ∧
    BreaksAt front rest

namespace Blamed

variable {offset : Nat} {chars rest : List Char} {kind : Kind} {c : Char} {misfit : Misfit}

/-- Blanks before a text only move its misfit. -/
theorem gap (blank : ∀ c ∈ chars, Text.isBlank c = true)
    (blamed : Blamed (offset + chars.length) rest misfit) : Blamed offset (chars ++ rest) misfit := by
  obtain ⟨front, others, rfl, rfl, breaks⟩ := blamed
  refine ⟨chars ++ front, others, (List.append_assoc _ _ _).symm, ?_, breaks.gap blank⟩
  rw [List.length_append, Nat.add_assoc]

/-- A lexeme before a text only moves its misfit. -/
theorem lexeme (spelled : Lexeme chars kind)
    (apart : (∃ value, kind = .number value) → StartsApart rest)
    (blamed : Blamed (offset + chars.length) rest misfit) :
    Blamed offset (chars ++ rest) misfit := by
  obtain ⟨front, others, rfl, rfl, breaks⟩ := blamed
  refine ⟨chars ++ front, others, (List.append_assoc _ _ _).symm, ?_, breaks.lexeme spelled apart⟩
  rw [List.length_append, Nat.add_assoc]

end Blamed

/-- Scanning fails where the text breaks off. -/
theorem blamed_of_scan {offset : Nat} {chars : List Char} {misfit : Misfit}
    (failed : scan offset chars = .error misfit) : Blamed offset chars misfit := by
  induction chars using openingInduction generalizing offset with
  | blank gap blank =>
    rw [← List.append_nil gap, scan_gap blank, scan] at failed
    cases failed
  | stuck gap front rest blank stuck unread =>
    rw [scan_gap blank, scan_stuck stuck unread] at failed
    cases failed
    exact .gap blank ⟨front, rest, rfl, rfl, .of_stuck stuck unread⟩
  | lexeme gap chars rest kind blank spelled apart inductionHypothesis =>
    rw [scan_gap blank, scan_lexeme spelled apart] at failed
    cases scanned : scan (offset + gap.length + chars.length) rest with
    | ok tokens =>
      rw [scanned] at failed
      cases failed
    | error other =>
      rw [scanned] at failed
      cases failed
      exact .gap blank (.lexeme spelled apart (inductionHypothesis scanned))

/-- Some continuation of the text can be scanned. -/
def Viable (chars : List Char) : Prop :=
  ∃ more tokens, lex (String.ofList (chars ++ more)) = .ok tokens

section lex

variable {chars front rest : List Char} {c : Char} {text : String}

/-- A text can be scanned if scanning answers it with tokens. -/
theorem exists_lex_iff : (∃ tokens, lex text = .ok tokens) ↔ Readable text.toList := by
  rw [readable_iff_scan 0]
  simp only [lex_eq_ok_iff_laidOut]
  exact exists_congr fun tokens => ⟨scan_of_laidOut, laidOut_of_scan⟩

theorem viable_iff : Viable chars ↔ ∃ more, Readable (chars ++ more) := by
  simp only [Viable, exists_lex_iff, String.toList_ofList]

/-- A text that is not scanned breaks off at its misfit. -/
theorem breaksAt_of_lex {error : LexError} (failed : lex text = .error error) :
    ∃ front rest, text.toList = front ++ rest ∧ error = ⟨⟨rest.head?, front.length⟩, text⟩ ∧
      BreaksAt front rest := by
  rw [lex_eq_scan] at failed
  cases scanned : scan 0 text.toList with
  | ok tokens =>
    rw [scanned] at failed
    cases failed
  | error misfit =>
    rw [scanned] at failed
    cases failed
    obtain ⟨front, rest, whole, rfl, breaks⟩ := blamed_of_scan scanned
    exact ⟨front, rest, whole, by rw [Nat.zero_add], breaks⟩

/-- A text that breaks off at a character is answered with it. -/
theorem lex_of_breaksAt (whole : text.toList = front ++ c :: rest)
    (breaks : BreaksAt front (c :: rest)) :
    lex text = .error ⟨⟨some c, front.length⟩, text⟩ := by
  cases answer : lex text with
  | ok tokens =>
    have readable := exists_lex_iff.mp ⟨tokens, answer⟩
    rw [whole] at readable
    exact absurd readable (breaks.not_readable rest)
  | error error =>
    obtain ⟨others, more, wholeAgain, rfl, breaksAgain⟩ := breaksAt_of_lex answer
    obtain ⟨rfl, rfl⟩ := breaks.unique (whole.symm.trans wholeAgain) breaksAgain
    rfl

/-- A text cannot be continued from its misfit on. -/
theorem isGreatest_viable (breaks : BreaksAt front rest) :
    IsGreatest {length | length ≤ (front ++ rest).length ∧ Viable ((front ++ rest).take length)}
      front.length := by
  constructor
  · obtain ⟨more, -, readable⟩ := breaks.goesOn
    refine ⟨by simp, viable_iff.mpr ⟨more, ?_⟩⟩
    rwa [List.take_left]
  · rintro length ⟨within, viable⟩
    refine Nat.le_of_not_lt fun beyond => ?_
    obtain ⟨more, readable⟩ := viable_iff.mp viable
    cases rest with
    | nil =>
      rw [List.append_nil] at within
      omega
    | cons c rest =>
      have positive : length - front.length = length - front.length - 1 + 1 := by omega
      rw [List.take_append, List.take_of_length_le (Nat.le_of_lt beyond), positive,
        List.take_succ_cons, List.append_assoc, List.cons_append] at readable
      exact breaks.not_readable _ readable

/-- The first misfit is told, and its place is right. If a text is not scanned, the error holds the
text and as offset the length of the longest front that some continuation makes good. The character
is the one behind that front. There is none exactly if the front is the whole text, which is so
exactly if the text can be continued but ends in a `k` that begins no lexeme. Whatever follows a
misfit, it stays the one that is told. -/
theorem lex_blames_first_misfit {error : LexError} (failed : lex text = .error error) :
    error.expression = text ∧
    IsGreatest {length | length ≤ text.toList.length ∧ Viable (text.toList.take length)}
      error.offset ∧
    error.character = text.toList[error.offset]? ∧
    (error.character = none ↔ error.offset = text.toList.length) ∧
    (error.offset = text.toList.length ↔
      Viable text.toList ∧ ∃ before tokens, text.toList = before ++ ['k'] ∧
        lex (String.ofList before) = .ok tokens) ∧
    ∀ c, error.character = some c →
      ∀ more, lex (text ++ more) = .error ⟨⟨some c, error.offset⟩, text ++ more⟩ := by
  obtain ⟨front, rest, whole, rfl, breaks⟩ := breaksAt_of_lex failed
  have atEnd : front.length = text.toList.length ↔ rest = [] := by
    rw [whole, List.length_append, ← List.length_eq_zero_iff]
    omega
  refine ⟨rfl, ?_, ?_, ?_, ?_, ?_⟩
  · rw [whole]
    exact isGreatest_viable breaks
  · rw [whole, List.head?_eq_getElem?, List.getElem?_append_right (Nat.le_refl _), Nat.sub_self]
  · rw [atEnd, List.head?_eq_none_iff]
  · rw [atEnd]
    constructor
    · rintro rfl
      obtain ⟨before, rfl, readable⟩ := breaks.half rfl
      obtain ⟨more, -, continued⟩ := breaks.goesOn
      rw [List.append_nil] at whole
      obtain ⟨tokens, scanned⟩ := exists_lex_iff.mpr (by rwa [String.toList_ofList] :
        Readable (String.ofList before).toList)
      exact ⟨viable_iff.mpr ⟨more, whole ▸ continued⟩, before, tokens, whole, scanned⟩
    · rintro ⟨viable, -⟩
      obtain ⟨more, readable⟩ := viable_iff.mp viable
      cases rest with
      | nil => rfl
      | cons c rest =>
        rw [whole, List.append_assoc, List.cons_append] at readable
        exact absurd readable (breaks.not_readable _)
  · intro c isFirst more
    obtain ⟨others, rfl⟩ := List.head?_eq_some_iff.mp isFirst
    have wholeMore : (text ++ more).toList = front ++ c :: (others ++ more.toList) := by
      simp [whole]
    exact lex_of_breaksAt wholeMore (breaks.extend more.toList)

/-- In `6 kd@` the `d` is told, because it does not go on with the keep modifier. -/
theorem lex_blames_first_misfit_halfKeep :
    lex "6 kd@" = .error ⟨⟨some 'd', 3⟩, "6 kd@"⟩ ∧
    IsGreatest {length | length ≤ "6 kd@".toList.length ∧ Viable ("6 kd@".toList.take length)} 3 ∧
    ∀ more, lex ("6 kd@" ++ more) = .error ⟨⟨some 'd', 3⟩, "6 kd@" ++ more⟩ := by
  have half : BreaksAt ['k'] ['d', '@'] := .of_stuck (.halfKeep (by simp) (by simp)) (by simp)
  have number : Lexeme ['6'] (.number 6) :=
    .number (List.cons_ne_nil _ _) (List.forall_mem_singleton.mpr rfl)
  have spaced : BreaksAt ([' '] ++ ['k']) ['d', '@'] :=
    half.gap (List.forall_mem_singleton.mpr (by decide))
  have breaks : BreaksAt ['6', ' ', 'k'] ['d', '@'] :=
    spaced.lexeme number fun _ => startsApart_of_isBlank (by decide)
  have failed : lex "6 kd@" = .error ⟨⟨some 'd', 3⟩, "6 kd@"⟩ := lex_of_breaksAt rfl breaks
  obtain ⟨-, greatest, -, -, -, stays⟩ := lex_blames_first_misfit failed
  exact ⟨failed, greatest, stays 'd' rfl⟩

end lex

end DiceLang.Token
