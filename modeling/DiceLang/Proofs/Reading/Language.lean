import Mathlib.Order.Bounds.Defs
import DiceLang.Proofs.Reading.Completeness
import DiceLang.Proofs.Reading.Depth

/-!
# The language that is read

On a terminated list, reading an expression is exactly the grammar: it answers what a front of the
list spells, it finds whatever is spelled up to the ending, and it refuses a list at the first
token that no expression can have there.
-/

namespace DiceLang

/-- The error at a token that cannot follow. What is missing there depends on the kind of the token
before it and on nothing else. -/
def ParseError.behind (before : Option Token.Kind) (token : Token) : ParseError :=
  match before with
  | some .dice => .expected .number token.kind token.offset
  | some (.number _) | some .parenClose => .expected .parenClose token.kind token.offset
  | none | some (.operator _) | some (.keep _) | some .parenOpen | some .ending =>
    .unexpected token.kind token.offset

/-- No token asks for a `d` behind it. -/
theorem ParseError.behind_ne_dice {before : Option Token.Kind} {token : Token}
    {found : Token.Kind} {offset : Nat} :
    behind before token ≠ .expected .dice found offset := by
  unfold behind
  split <;> simp

namespace Expr

open Cursor

/-- A token that follows leads to the place that its kind tells. -/
theorem Frontier.complaint_of_step {frontier next : Frontier} {kind : Token.Kind}
    (stepped : frontier.step kind = some next) (token : Token) :
    next.position.complaint token = .behind (some kind) token := by
  obtain ⟨opened, position⟩ := frontier
  cases kind with
  | ending => cases stepped
  | number value | dice =>
    cases position <;> cases stepped <;> rfl
  | operator op | keep which | parenOpen | parenClose =>
    simp only [Frontier.step] at stepped
    split at stepped
    · cases stepped
      rfl
    · cases stepped

/-- The place that a sequence leads to can be told from its last token. -/
theorem Reaches.complaint_eq {kinds : List Token.Kind} {frontier : Frontier}
    (reaches : Reaches kinds frontier) (token : Token) :
    frontier.position.complaint token = .behind kinds.getLast? token := by
  rcases List.eq_nil_or_concat kinds with rfl | ⟨before, kind, rfl⟩
  · cases reaches.unique .nil
    rfl
  · rw [List.concat_eq_append] at reaches ⊢
    rw [List.getLast?_concat]
    obtain ⟨middle, -, stepped⟩ := Frontier.run_concat_eq_some (reaches 0)
    exact Frontier.complaint_of_step stepped token

section parse

variable {tokens : List Token} {parsed : Parsed} {error : ParseError}

/-- An expression is answered when the reader is done with it. -/
theorem parse_eq_ok (ok : parse tokens = .ok parsed) :
    read (depthBound tokens) .sum tokens = .done parsed.expr parsed.rest := by
  unfold parse at ok
  split at ok
  · rename_i expr rest done
    rw [done, ← Except.ok.inj ok]
  · cases ok
  · cases ok

/-- On a grounded list, an error is answered when the reader fails with it. -/
theorem parse_eq_error (grounded : Grounded tokens) (failed : parse tokens = .error error) :
    read (depthBound tokens) .sum tokens = .failed error := by
  unfold parse at failed
  split at failed
  · cases failed
  · rename_i found failure
    rw [failure, Except.error.inj failed]
  · rename_i exhausted
    exact absurd exhausted (read_depthBound_ne_exhausted grounded)

/-- What is read has been walked over, and nothing is missing in it. -/
theorem walk_of_parse (ok : parse tokens = .ok parsed) :
    ∃ seen, Walk tokens seen parsed.rest ∧
      Complete .sum (seen.map Token.kind) parsed.expr (next parsed.rest).kind := by
  have faithful := (faithfulAt (depthBound tokens)).read .sum tokens
  rwa [parse_eq_ok ok] at faithful

/-- On a grounded list, what is spelled by a walk is read, if what follows is no part of it. -/
theorem parse_of_walk {seen : List Token} {rest : Cursor} {expr : Expr} (grounded : Grounded tokens)
    (walk : Walk tokens seen rest) (spelled : Spells .sum (seen.map Token.kind) expr)
    (follows : Follows .sum (next rest).kind) : parse tokens = .ok ⟨expr, rest⟩ := by
  rcases spelled.reads tokens seen rest (depthBound tokens) walk rfl follows with exhausted | done
  · exact absurd exhausted (read_depthBound_ne_exhausted grounded)
  · rw [parse, done]

/-- A walk over a terminated list that takes no ending stops at a token of the list. -/
theorem front_of_walk {seen : List Token} {rest : Cursor}
    (terminated : Token.Terminated tokens) (walk : Walk tokens seen rest)
    (free : .ending ∉ seen.map Token.kind) :
    ∃ token more, rest = token :: more ∧ tokens = seen ++ token :: more := by
  have others : ∀ token ∈ seen, token.kind ≠ .ending := fun token member isEnding =>
    free (isEnding ▸ List.mem_map_of_mem member)
  obtain ⟨parts, restTerminated⟩ := terminated.eq_append_of_walk walk others
  cases rest with
  | nil => exact absurd rfl restTerminated.ne_nil
  | cons token more => exact ⟨token, more, rfl, parts⟩

/-- What is read from a terminated list stands at its front, and an ending at the latest stops
it. -/
theorem parse_sound (terminated : Token.Terminated tokens) (ok : parse tokens = .ok parsed) :
    ∃ seen token more, parsed.rest = token :: more ∧ tokens = seen ++ token :: more ∧
      Complete .sum (seen.map Token.kind) parsed.expr token.kind := by
  obtain ⟨seen, walk, complete⟩ := walk_of_parse ok
  obtain ⟨token, more, rest, parts⟩ := front_of_walk terminated walk complete.spelled.ending_not_mem
  rw [rest] at complete
  exact ⟨seen, token, more, rest, parts, complete⟩

/-- What is refused in a terminated list is one of its tokens, and what stands before it could
still become an expression. -/
theorem parse_pending (terminated : Token.Terminated tokens) (failed : parse tokens = .error error) :
    ∃ seen token more, tokens = seen ++ token :: more ∧
      Pending .sum (seen.map Token.kind) token error := by
  have faithful := (faithfulAt (depthBound tokens)).read .sum tokens
  rw [parse_eq_error (.of_terminated terminated) failed] at faithful
  obtain ⟨seen, rest, walk, pending⟩ := faithful
  rw [List.nil_append] at pending
  obtain ⟨after, whole, spelled⟩ := pending.viable
  have free : .ending ∉ seen.map Token.kind := fun member =>
    spelled.ending_not_mem (List.mem_append_left after member)
  obtain ⟨token, more, rfl, parts⟩ := front_of_walk terminated walk free
  exact ⟨seen, token, more, parts, pending⟩

/-- What is spelled up to an ending is read, and only the ending is left. -/
theorem parse_complete {front : List Token} {last : Token} {expr : Expr}
    (spelled : Spells .sum (front.map Token.kind) expr) (isEnding : last.kind = .ending) :
    parse (front ++ [last]) = .ok ⟨expr, [last]⟩ := by
  have free : ∀ token ∈ front, token.kind ≠ .ending := fun token member same =>
    spelled.ending_not_mem (same ▸ List.mem_map_of_mem member)
  have terminated : Token.Terminated (front ++ [last]) := ⟨front, last, rfl, isEnding, free⟩
  exact parse_of_walk (.of_terminated terminated) (.of_append front (by simp)) spelled
    (.inr (.inl isEnding))

/-- Reading a list stops at a token, behind a front that leads to the frontier. -/
structure StopsAt (tokens front : List Token) (token : Token) (more : List Token)
    (frontier : Frontier) : Prop where
  parts : tokens = front ++ token :: more
  reaches : Reaches (front.map Token.kind) frontier
  blocked : frontier.step token.kind = none
  /-- Either the front is the expression, or something is missing in it, which the error tells. -/
  answer : (∃ expr, Spells .sum (front.map Token.kind) expr ∧
      parse tokens = .ok ⟨expr, token :: more⟩) ∨
    (frontier.position.isSettled → frontier.opened ≠ 0) ∧
      parse tokens = .error (frontier.position.complaint token)

/-- Reading a terminated list stops at one of its tokens. -/
theorem exists_stopsAt (terminated : Token.Terminated tokens) :
    ∃ front token more frontier, StopsAt tokens front token more frontier := by
  cases answer : parse tokens with
  | ok parsed =>
    obtain ⟨front, token, more, rest, parts, complete⟩ := parse_sound terminated answer
    obtain ⟨position, -, reaches, blocked⟩ := complete.stops.of_sum
    refine ⟨front, token, more, _, parts, reaches, blocked, .inl ⟨_, complete.spelled, ?_⟩⟩
    rw [answer, ← rest]
  | error error =>
    obtain ⟨front, token, more, parts, pending⟩ := parse_pending terminated answer
    obtain ⟨frontier, reaches, refuses, inside, rfl⟩ := pending.blocked
    exact ⟨front, token, more, frontier, parts, reaches, by simpa using refuses 0,
      .inr ⟨inside, answer⟩⟩

/-- In what can stand for an operand, nothing is missing. -/
theorem StopsAt.not_missing {front more : List Token} {token : Token} {frontier : Frontier}
    (stops : StopsAt tokens front token more frontier)
    (isOperand : IsOperand (front.map Token.kind)) :
    ¬ (frontier.position.isSettled → frontier.opened ≠ 0) := by
  intro missing
  obtain ⟨position, settled, reaches⟩ := isOperand
  rw [stops.reaches.unique reaches] at missing
  exact missing settled rfl

end parse

/-- Whatever can stand for an operand spells an expression. Reading finds it: it cannot stop before the
ending, and there nothing is missing. -/
theorem IsOperand.spells {kinds : List Token.Kind} (isOperand : IsOperand kinds) :
    ∃ expr, Spells .sum kinds expr := by
  obtain ⟨position, settled, reaches⟩ := isOperand
  let tokens := kinds.map fun kind => (⟨kind, "", 0⟩ : Token)
  have same : tokens.map Token.kind = kinds := by simp [tokens, Function.comp_def]
  have free : ∀ token ∈ tokens, token.kind ≠ .ending := fun token member isEnding =>
    reaches.ending_not_mem (same ▸ isEnding ▸ List.mem_map_of_mem member)
  have terminated : Token.Terminated (tokens ++ [Token.endingAt 0]) := ⟨tokens, _, rfl, rfl, free⟩
  obtain ⟨front, token, more, frontier, stops⟩ := exists_stopsAt terminated
  have parts := congrArg (List.map Token.kind) stops.parts
  rw [List.map_append, List.map_append, same] at parts
  have whole : front.map Token.kind = kinds :=
    stops.reaches.front_unique stops.blocked reaches (Frontier.step_ending _) parts.symm
  rcases stops.answer with ⟨expr, spelled, -⟩ | ⟨missing, -⟩
  · exact ⟨expr, whole ▸ spelled⟩
  · rw [← whole] at reaches
    exact absurd missing (stops.not_missing ⟨position, settled, reaches⟩)

/-- A sequence of kinds spells at most one expression. -/
theorem Spells.expr_unique {kinds : List Token.Kind} {first second : Expr}
    (spelled : Spells .sum kinds first) (spelledAgain : Spells .sum kinds second) :
    first = second := by
  let front := kinds.map fun kind => (⟨kind, "", 0⟩ : Token)
  have same : front.map Token.kind = kinds := by simp [front, Function.comp_def]
  rw [← same] at spelled spelledAgain
  have read := parse_complete spelled (rfl : (Token.endingAt 0).kind = .ending)
  rw [parse_complete spelledAgain rfl] at read
  simpa using read.symm

/-- Reading is exact for the grammar. What is read from a terminated list is spelled by a front of
it, and a warning is due about the token behind that front exactly when this is not the ending.
Whatever is spelled up to an ending is read without a warning. No sequence spells two expressions. -/
theorem parse_accepts_exactly_grammar :
    (∀ tokens parsed, Token.Terminated tokens → parse tokens = .ok parsed →
      ∃ consumed token, tokens = consumed ++ parsed.rest ∧
        Spells .sum (consumed.map Token.kind) parsed.expr ∧
        tokens[consumed.length]? = some token ∧
        parsed.ignored? = if token.kind = .ending then none else some token) ∧
    (∀ front last expr, last.kind = .ending → Spells .sum (front.map Token.kind) expr →
      ∃ parsed, parse (front ++ [last]) = .ok parsed ∧ parsed.expr = expr ∧
        parsed.ignored? = none) ∧
    ∀ kinds first second, Spells .sum kinds first → Spells .sum kinds second → first = second := by
  refine ⟨?_, ?_, fun _ _ _ => Spells.expr_unique⟩
  · intro tokens parsed terminated ok
    obtain ⟨consumed, token, more, rest, parts, complete⟩ := parse_sound terminated ok
    refine ⟨consumed, token, by rw [rest, parts], complete.spelled, ?_, ?_⟩
    · rw [parts]
      simp
    · simp only [Parsed.ignored?, rest, next]
  · intro front last expr isEnding spelled
    refine ⟨⟨expr, [last]⟩, parse_complete spelled isEnding, rfl, ?_⟩
    simp [Parsed.ignored?, next, isEnding]

/-- In `1)` the number is read, and the warning is about the parenthesis. -/
theorem parse_accepts_exactly_grammar_trailing :
    ∃ consumed token,
      [⟨.number 1, "1", 0⟩, ⟨.parenClose, ")", 1⟩, Token.endingAt 2] =
        consumed ++ [⟨.parenClose, ")", 1⟩, Token.endingAt 2] ∧
      Spells .sum (consumed.map Token.kind) (num 1) ∧
      [⟨.number 1, "1", 0⟩, ⟨.parenClose, ")", 1⟩, Token.endingAt 2][consumed.length]? =
        some token ∧
      Parsed.ignored? ⟨num 1, [⟨.parenClose, ")", 1⟩, Token.endingAt 2]⟩ =
        if token.kind = .ending then none else some token :=
  parse_accepts_exactly_grammar.1 _ ⟨num 1, [⟨.parenClose, ")", 1⟩, Token.endingAt 2]⟩
    ⟨[⟨.number 1, "1", 0⟩, ⟨.parenClose, ")", 1⟩], Token.endingAt 2, rfl, rfl, by decide⟩ rfl

/-- A front that can be continued, but not with the token behind it, is the longest that can. -/
theorem isGreatest_viable {tokens front more : List Token} {token : Token} {frontier : Frontier}
    (parts : tokens = front ++ token :: more) (viable : Viable .sum (front.map Token.kind))
    (reaches : Reaches (front.map Token.kind) frontier)
    (blocked : frontier.step token.kind = none) :
    IsGreatest {length | length ≤ tokens.length ∧
      Viable .sum ((tokens.take length).map Token.kind)} front.length := by
  subst parts
  constructor
  · exact ⟨by simp, by simpa using viable⟩
  · rintro length ⟨-, longer⟩
    refine Nat.le_of_not_lt fun beyond => ?_
    have positive : length - front.length = length - front.length - 1 + 1 := by omega
    rw [List.take_append, List.take_of_length_le (Nat.le_of_lt beyond), positive,
      List.take_succ_cons, List.map_append, List.map_cons] at longer
    exact reaches.not_viable blocked longer

/-- Reading points at the first token that cannot fit. The longest front of a list that some tokens
could complete is read if it is an expression; otherwise the token behind it is refused, for what
the token before it asks for. No dice are ever asked for. -/
theorem parse_blames_first_misfit {tokens : List Token} (terminated : Token.Terminated tokens) :
    (∃ length, IsGreatest {length | length ≤ tokens.length ∧
        Viable .sum ((tokens.take length).map Token.kind)} length ∧
      ((∃ expr, Spells .sum ((tokens.take length).map Token.kind) expr) →
        ∃ parsed, parse tokens = .ok parsed) ∧
      ((¬ ∃ expr, Spells .sum ((tokens.take length).map Token.kind) expr) →
        ∃ token, tokens[length]? = some token ∧ parse tokens =
          .error (.behind ((tokens.take length).map Token.kind).getLast? token))) ∧
      ∀ found offset, parse tokens ≠ .error (.expected .dice found offset) := by
  cases answer : parse tokens with
  | ok parsed =>
    obtain ⟨seen, token, more, -, rfl, complete⟩ := parse_sound terminated answer
    obtain ⟨position, -, reaches, blocked⟩ := complete.stops.of_sum
    have viable : Viable .sum (seen.map Token.kind) :=
      ⟨[], parsed.expr, by simpa using complete.spelled⟩
    refine ⟨⟨seen.length, isGreatest_viable rfl viable reaches blocked, ?_, ?_⟩, by simp⟩
    · exact fun _ => ⟨parsed, rfl⟩
    · intro incomplete
      exact absurd ⟨parsed.expr, by simpa using complete.spelled⟩ incomplete
  | error error =>
    obtain ⟨seen, token, more, rfl, pending⟩ := parse_pending terminated answer
    obtain ⟨frontier, reaches, refuses, inside, rfl⟩ := pending.blocked
    have blocked : frontier.step token.kind = none := by simpa using refuses 0
    refine ⟨⟨seen.length, isGreatest_viable rfl pending.viable reaches blocked, ?_, ?_⟩, ?_⟩
    · rintro ⟨expr, spelled⟩
      obtain ⟨position, settled, reachesEnd⟩ := spelled.reaches
      rw [List.take_left] at reachesEnd
      rw [reaches.unique reachesEnd] at inside
      exact absurd rfl (inside settled)
    · intro _
      refine ⟨token, by simp, ?_⟩
      rw [List.take_left, reaches.complaint_eq]
    · intro found offset same
      rw [Except.error.injEq, reaches.complaint_eq] at same
      exact ParseError.behind_ne_dice same

/-- The tokens of `2d+`. -/
def sidelessDice : List Token :=
  [⟨.number 2, "2", 0⟩, ⟨.dice, "d", 1⟩, ⟨.operator .add, "+", 2⟩, Token.endingAt 3]

/-- In `2d+` some front is the longest that can be completed, and what it lacks decides the
error. -/
theorem parse_blames_first_misfit_sidelessDice :
    Token.Terminated sidelessDice ∧
    (∃ length, IsGreatest {length | length ≤ sidelessDice.length ∧
        Viable .sum ((sidelessDice.take length).map Token.kind)} length ∧
      ((∃ expr, Spells .sum ((sidelessDice.take length).map Token.kind) expr) →
        ∃ parsed, parse sidelessDice = .ok parsed) ∧
      ((¬ ∃ expr, Spells .sum ((sidelessDice.take length).map Token.kind) expr) →
        ∃ token, sidelessDice[length]? = some token ∧ parse sidelessDice =
          .error (.behind ((sidelessDice.take length).map Token.kind).getLast? token))) ∧
      ∀ found offset, parse sidelessDice ≠ .error (.expected .dice found offset) :=
  have terminated : Token.Terminated sidelessDice :=
    ⟨[⟨.number 2, "2", 0⟩, ⟨.dice, "d", 1⟩, ⟨.operator .add, "+", 2⟩], Token.endingAt 3, rfl, rfl,
      by decide⟩
  ⟨terminated, parse_blames_first_misfit terminated⟩

end Expr

end DiceLang
