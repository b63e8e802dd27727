import DiceLang.Expr.Grammar
import DiceLang.Expr.Parser

/-!
# What may follow

Which kinds of token can follow a sequence depends on little: how many groups are open, and
whether the sequence waits for an operand, for the sides of some dice, or may be complete. A
frontier is that information, and one step tells how a further token changes it.

The precedence of operators plays no part here. The grammar groups sequences into trees by
precedence, but every sequence that one order of operators makes is made by any other order too.
-/

namespace DiceLang.Expr

/-- How a sequence of tokens ends, as far as it decides what may follow. -/
inductive Position where
  /-- Only an operand can follow. -/
  | beforeOperand
  /-- Only the sides of dice can follow. -/
  | beforeSides
  /-- A number has been read that may turn out to be the count of some dice. -/
  | afterNumber
  /-- Some dice have been read, which a keep modifier may follow. -/
  | afterDice
  /-- A group has been closed. -/
  | afterGroup
deriving DecidableEq

/-- Whether the last operand is complete. -/
def Position.isSettled : Position → Bool
  | beforeOperand | beforeSides => false
  | afterNumber | afterDice | afterGroup => true

/-- The end of a sequence of tokens inside of so many open groups. -/
structure Frontier where
  opened : Nat
  position : Position
deriving DecidableEq

namespace Frontier

/-- The frontier after one more token, if that token can follow. -/
def step (frontier : Frontier) (kind : Token.Kind) : Option Frontier :=
  match kind with
  | .number _ =>
    match frontier.position with
    | .beforeOperand => some { frontier with position := .afterNumber }
    | .beforeSides => some { frontier with position := .afterDice }
    | .afterNumber | .afterDice | .afterGroup => none
  | .dice =>
    match frontier.position with
    | .beforeOperand | .afterNumber => some { frontier with position := .beforeSides }
    | .beforeSides | .afterDice | .afterGroup => none
  | .operator _ =>
    if frontier.position.isSettled then
      some { frontier with position := .beforeOperand }
    else
      none
  | .keep _ =>
    if frontier.position = .afterDice then
      some { frontier with position := .beforeOperand }
    else
      none
  | .parenOpen =>
    if frontier.position = .beforeOperand then
      some ⟨frontier.opened + 1, .beforeOperand⟩
    else
      none
  | .parenClose =>
    if frontier.position.isSettled ∧ frontier.opened ≠ 0 then
      some ⟨frontier.opened - 1, .afterGroup⟩
    else
      none
  | .ending => none

/-- The frontier after further tokens, if each of them can follow. -/
def run (frontier : Frontier) (kinds : List Token.Kind) : Option Frontier :=
  kinds.foldlM step frontier

@[simp]
theorem run_nil (frontier : Frontier) : frontier.run [] = some frontier :=
  rfl

@[simp]
theorem run_cons (frontier : Frontier) (kind : Token.Kind) (kinds : List Token.Kind) :
    frontier.run (kind :: kinds) = (frontier.step kind).bind fun next => next.run kinds :=
  rfl

theorem run_append (frontier : Frontier) (first second : List Token.Kind) :
    frontier.run (first ++ second) = (frontier.run first).bind fun next => next.run second := by
  simp only [run, List.foldlM_append]
  rfl

/-- The last of some tokens is a step of its own. -/
theorem run_concat_eq_some {frontier next : Frontier} {front : List Token.Kind}
    {kind : Token.Kind} (ran : frontier.run (front ++ [kind]) = some next) :
    ∃ middle, frontier.run front = some middle ∧ middle.step kind = some next := by
  rw [run_append, Option.bind_eq_some_iff] at ran
  obtain ⟨middle, ranFront, stepped⟩ := ran
  rw [run_cons, Option.bind_eq_some_iff] at stepped
  obtain ⟨_, stepped, ⟨⟩⟩ := stepped
  exact ⟨middle, ranFront, stepped⟩

/-- No ending can follow anything. -/
@[simp]
theorem step_ending (frontier : Frontier) : frontier.step .ending = none :=
  rfl

/-- A token fits nowhere at this place, however many groups are open around it. -/
def Refuses (frontier : Frontier) (kind : Token.Kind) : Prop :=
  ∀ around, step ⟨around + frontier.opened, frontier.position⟩ kind = none

end Frontier

/-- Where an operand is due, the sequence leads to the frontier, counted from the groups that
are open around it. -/
def Reaches (kinds : List Token.Kind) (frontier : Frontier) : Prop :=
  ∀ around, Frontier.run ⟨around, .beforeOperand⟩ kinds =
    some ⟨around + frontier.opened, frontier.position⟩

/-- Some tokens after the sequence make it an expression of the precedence. -/
def Viable (level : Precedence) (kinds : List Token.Kind) : Prop :=
  ∃ more expr, Spells level (kinds ++ more) expr

section Reaches

variable {kinds first second : List Token.Kind} {frontier next : Frontier} {opened : Nat}

theorem Reaches.nil : Reaches [] ⟨0, .beforeOperand⟩ :=
  fun _ => rfl

/-- A token that can follow in every surroundings extends what has been reached. -/
theorem Reaches.snoc {kind : Token.Kind} (reaches : Reaches kinds frontier)
    (step : ∀ around, Frontier.step ⟨around + frontier.opened, frontier.position⟩ kind =
      some ⟨around + next.opened, next.position⟩) : Reaches (kinds ++ [kind]) next := by
  intro around
  rw [Frontier.run_append, reaches around]
  simp [step around]

/-- Where an operand is due, any sequence that begins with an operand can follow. -/
theorem Reaches.append (reachesFirst : Reaches first ⟨opened, .beforeOperand⟩)
    (reachesSecond : Reaches second frontier) :
    Reaches (first ++ second) ⟨opened + frontier.opened, frontier.position⟩ := by
  intro around
  rw [Frontier.run_append, reachesFirst around, Option.bind_some, reachesSecond (around + opened),
    Nat.add_assoc]

/-- An operator can follow a complete operand, and calls for another. -/
theorem Reaches.operator {position : Position} (settled : position.isSettled)
    (reaches : Reaches kinds ⟨opened, position⟩) (op : Operator) :
    Reaches (kinds ++ [.operator op]) ⟨opened, .beforeOperand⟩ :=
  reaches.snoc fun _ => if_pos settled

/-- A closing parenthesis can follow a complete operand inside of a group. -/
theorem Reaches.parenClose {position : Position} (settled : position.isSettled)
    (reaches : Reaches kinds ⟨opened + 1, position⟩) :
    Reaches (kinds ++ [.parenClose]) ⟨opened, .afterGroup⟩ :=
  reaches.snoc fun around => if_pos ⟨settled, Nat.succ_ne_zero (around + opened)⟩

/-- A frontier is determined by the sequence that leads to it. -/
theorem Reaches.unique (reaches : Reaches kinds frontier) (reachesNext : Reaches kinds next) :
    frontier = next := by
  have same := (reaches 0).symm.trans (reachesNext 0)
  obtain ⟨opened, position⟩ := frontier
  obtain ⟨nextOpened, nextPosition⟩ := next
  simpa using same

end Reaches

/-- Where a sequence leads on, each of its tokens can follow those before it. -/
theorem Reaches.step_ne_none {before after : List Token.Kind} {kind : Token.Kind}
    {frontier middle : Frontier} (reaches : Reaches (before ++ kind :: after) frontier)
    (reachesMiddle : Reaches before middle) : middle.step kind ≠ none := by
  intro blocked
  have run := reaches 0
  rw [Frontier.run_append, reachesMiddle 0] at run
  simp [blocked] at run

section misfit

variable {front other more further : List Token.Kind} {kind otherKind : Token.Kind}
  {frontier next : Frontier}

/-- A sequence does not lead beyond a token that cannot follow. -/
theorem Reaches.eq_of_append (reaches : Reaches front frontier)
    (blocked : frontier.step kind = none) {rest : List Token.Kind}
    (reachesNext : Reaches (front ++ further) next) (same : kind :: more = further ++ rest) :
    further = [] := by
  cases further with
  | nil => rfl
  | cons first further =>
    rw [List.cons_append, List.cons.injEq] at same
    exact absurd (same.1 ▸ blocked) (reachesNext.step_ne_none reaches)

/-- In a sequence, there is only one first token that cannot follow those before it. -/
theorem Reaches.front_unique (reaches : Reaches front frontier)
    (blocked : frontier.step kind = none) (reachesOther : Reaches other next)
    (blockedOther : next.step otherKind = none)
    (same : front ++ kind :: more = other ++ otherKind :: further) : front = other := by
  rcases List.append_eq_append_iff.mp same with ⟨between, rfl, rest⟩ | ⟨between, rfl, rest⟩
  · rw [reaches.eq_of_append blocked reachesOther rest, List.append_nil]
  · rw [reachesOther.eq_of_append blockedOther reaches rest, List.append_nil]

end misfit

/-- A sequence that leads anywhere holds no ending. -/
theorem Reaches.ending_not_mem {kinds : List Token.Kind} {frontier : Frontier}
    (reaches : Reaches kinds frontier) : .ending ∉ kinds := by
  intro member
  obtain ⟨before, after, rfl⟩ := List.append_of_mem member
  have run := reaches 0
  rw [Frontier.run_append] at run
  cases ran : Frontier.run ⟨0, .beforeOperand⟩ before <;> simp [ran] at run

/-- A dice term leads to the place after some dice. -/
theorem SpellsDice.reaches {kinds : List Token.Kind} {term : Dice}
    (spelled : SpellsDice kinds term) : Reaches kinds ⟨0, .afterDice⟩ := by
  cases spelled <;> exact fun _ => rfl

/-- The sequence can stand for an operand: it leaves as many groups open as there were, and ends in a
complete operand. -/
def IsOperand (kinds : List Token.Kind) : Prop :=
  ∃ position : Position, position.isSettled ∧ Reaches kinds ⟨0, position⟩

namespace IsOperand

variable {kinds left right : List Token.Kind}

/-- Two operands with an operator between them are an operand. -/
theorem join (isLeft : IsOperand left) (op : Operator) (isRight : IsOperand right) :
    IsOperand (left ++ .operator op :: right) := by
  obtain ⟨leftPosition, leftSettled, reachesLeft⟩ := isLeft
  obtain ⟨rightPosition, rightSettled, reachesRight⟩ := isRight
  have reachesOperator := reachesLeft.operator leftSettled op
  exact ⟨rightPosition, rightSettled, by simpa using reachesOperator.append reachesRight⟩

/-- Dice with a keep modifier and an operand behind it are an operand. -/
theorem keep (reachesDice : Reaches left ⟨0, .afterDice⟩) (which : Keep)
    (isAmount : IsOperand right) : IsOperand (left ++ .keep which :: right) := by
  obtain ⟨position, settled, reachesAmount⟩ := isAmount
  have reachesKeep : Reaches (left ++ [.keep which]) ⟨0, .beforeOperand⟩ :=
    reachesDice.snoc fun _ => rfl
  exact ⟨position, settled, by simpa using reachesKeep.append reachesAmount⟩

/-- An operand in parentheses is an operand. -/
theorem group (isInner : IsOperand kinds) : IsOperand (.parenOpen :: kinds ++ [.parenClose]) := by
  obtain ⟨position, settled, reachesInner⟩ := isInner
  have reachesOpen : Reaches [.parenOpen] ⟨1, .beforeOperand⟩ := fun _ => rfl
  exact ⟨.afterGroup, rfl, (reachesOpen.append reachesInner).parenClose settled⟩

end IsOperand

/-- What spells an expression can stand for an operand. -/
theorem Spells.reaches {level : Precedence} {kinds : List Token.Kind} {expr : Expr}
    (spelled : Spells level kinds expr) : IsOperand kinds := by
  induction spelled with
  | num value => exact ⟨.afterNumber, rfl, fun _ => rfl⟩
  | dice spelled => exact ⟨.afterDice, rfl, spelled.reaches⟩
  | keep which spelled amountSpelled inductionHypothesis =>
    exact .keep spelled.reaches which inductionHypothesis
  | group innerSpelled inductionHypothesis => exact inductionHypothesis.group
  | tighter loose spelled inductionHypothesis => exact inductionHypothesis
  | @chain op leftKinds rightKinds left right leftSpelled rightSpelled leftHypothesis
      rightHypothesis =>
    exact leftHypothesis.join op rightHypothesis

/-- No ending is a part of an expression. -/
theorem Spells.ending_not_mem {level : Precedence} {kinds : List Token.Kind} {expr : Expr}
    (spelled : Spells level kinds expr) : .ending ∉ kinds := by
  obtain ⟨position, -, reaches⟩ := spelled.reaches
  exact reaches.ending_not_mem

/-- A sequence that a token cannot follow has no continuation that begins with that token. -/
theorem Reaches.not_viable {level : Precedence} {kinds more : List Token.Kind}
    {kind : Token.Kind} {frontier : Frontier} (reaches : Reaches kinds frontier)
    (blocked : frontier.step kind = none) : ¬ Viable level (kinds ++ kind :: more) := by
  rintro ⟨rest, expr, spelled⟩
  obtain ⟨position, -, reachesAll⟩ := spelled.reaches
  rw [List.append_assoc, List.cons_append] at reachesAll
  exact reachesAll.step_ne_none reaches blocked

end DiceLang.Expr
