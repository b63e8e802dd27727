import DiceLang.Proofs.Reading.Frontier
import DiceLang.Proofs.Reading.Walk

/-!
# Readers are faithful to the grammar

What a reader has walked over when it is done spells the expression that it answers, and the next
token cannot continue it. When it fails, what it has walked over could still be continued to an
expression, but not with the next token, and the error says what was missing there.

Each reader is called at a place that the grammar knows: a context tells what has been read before
a part of an expression, and how the whole can be completed after it. A failure inside a part is a
failure of the whole, seen through the context.
-/

namespace DiceLang.Expr

open Cursor

/-- The operands of a chain are one step tighter than the chain. -/
theorem rank_tighter {level : Precedence} (loose : level ≠ .primary) :
    level.tighter.rank = level.rank + 1 := by
  cases level with
  | sum => rfl
  | product => rfl
  | primary => exact absurd rfl loose

/-- The complaint about a token that cannot follow at a position. -/
def Position.complaint (position : Position) (token : Token) : ParseError :=
  match position with
  | beforeOperand => .unexpected token.kind token.offset
  | beforeSides => .expected .number token.kind token.offset
  | afterNumber | afterDice | afterGroup => .expected .parenClose token.kind token.offset

/-- After a complete operand, the next kind cannot go on from there unless it belongs to what
surrounds an expression of the precedence: it closes a group or is a looser operator. -/
def Stops (level : Precedence) (kinds : List Token.Kind) (next : Token.Kind) : Prop :=
  ∃ position : Position, position.isSettled ∧ Reaches kinds ⟨0, position⟩ ∧
    ((∀ around, Frontier.step ⟨around, position⟩ next = none) ∨ next = .parenClose ∨
      ∃ op, next = .operator op ∧ op.precedence.rank < level.rank)

/-- The kinds spell the expression, and the next one is not a part of it. -/
structure Complete (level : Precedence) (kinds : List Token.Kind) (expr : Expr)
    (next : Token.Kind) : Prop where
  spelled : Spells level kinds expr
  stops : Stops level kinds next

/-- The kinds are no expression yet but can become one, only not with the token that follows; the
error is the complaint about that token. -/
structure Pending (level : Precedence) (kinds : List Token.Kind) (token : Token)
    (error : ParseError) : Prop where
  viable : Viable level kinds
  blocked : ∃ frontier, Reaches kinds frontier ∧ frontier.Refuses token.kind ∧
    (frontier.position.isSettled → frontier.opened ≠ 0) ∧
    error = frontier.position.complaint token

/-- After the kinds before it, an expression of the inner precedence stands as a part of one of the
outer precedence. -/
structure Context (inner outer : Precedence) (before : List Token.Kind) : Prop where
  opens : ∃ opened, Reaches before ⟨opened, .beforeOperand⟩
  completes : ∀ kinds expr, Spells inner kinds expr →
    ∃ after whole, Spells outer (before ++ kinds ++ after) whole

namespace Stops

variable {level : Precedence} {before kinds : List Token.Kind} {next : Token.Kind}

/-- A complete primary is stopped by all that cannot make it a longer primary: a number that is no
count, and dice that no keep modifier follows. -/
theorem of_primary {position : Position} (settled : position.isSettled)
    (reaches : Reaches kinds ⟨0, position⟩) (noCount : position = .afterNumber → next ≠ .dice)
    (noKeep : position = .afterDice → ∀ which, next ≠ .keep which) :
    Stops .primary kinds next := by
  refine ⟨position, settled, reaches, ?_⟩
  cases next with
  | operator op =>
    refine .inr (.inr ⟨op, rfl, ?_⟩)
    cases op <;> simp [Operator.precedence, Precedence.rank]
  | parenClose => exact .inr (.inl rfl)
  | _ => exact .inl fun around => by cases position <;> simp_all [Frontier.step, Position.isSettled]

/-- What stops an operand also stops it behind an operator or a modifier. -/
theorem after (opens : Reaches before ⟨0, .beforeOperand⟩) (stops : Stops level kinds next) :
    Stops level (before ++ kinds) next := by
  obtain ⟨position, settled, reaches, stopped⟩ := stops
  exact ⟨position, settled, by simpa using opens.append reaches, stopped⟩

/-- A kind that stops the operands of a chain, and is none of its operators, stops the chain. -/
theorem loosen (loose : level ≠ .primary) (stops : Stops level.tighter kinds next)
    (other : ∀ op, next = .operator op → op.precedence ≠ level) : Stops level kinds next := by
  obtain ⟨position, settled, reaches, stopped⟩ := stops
  refine ⟨position, settled, reaches, ?_⟩
  rcases stopped with refused | closes | ⟨op, rfl, looser⟩
  · exact .inl refused
  · exact .inr (.inl closes)
  · have different := other op rfl
    refine .inr (.inr ⟨op, rfl, ?_⟩)
    cases level <;> cases op <;>
      simp_all [Precedence.rank, Precedence.tighter, Operator.precedence]

/-- Where nothing surrounds a sum, what stops it cannot follow at all. -/
theorem of_sum (stops : Stops .sum kinds next) :
    ∃ position : Position, position.isSettled ∧ Reaches kinds ⟨0, position⟩ ∧
      Frontier.step ⟨0, position⟩ next = none := by
  obtain ⟨position, settled, reaches, stopped⟩ := stops
  refine ⟨position, settled, reaches, ?_⟩
  rcases stopped with refused | rfl | ⟨op, -, looser⟩
  · exact refused 0
  · cases position <;> simp [Frontier.step]
  · exact absurd looser (Nat.not_lt_zero _)

end Stops

namespace Context

/-- A chain begins with its first operand. -/
theorem first {level : Precedence} (loose : level ≠ .primary) : Context level.tighter level [] where
  opens := ⟨0, .nil⟩
  completes kinds expr spelled := ⟨[], expr, by simpa using Spells.tighter loose spelled⟩

/-- A chain goes on with an operator and the next operand. -/
theorem further {op : Operator} {kinds : List Token.Kind} {left : Expr}
    (spelled : Spells op.precedence kinds left) :
    Context op.precedence.tighter op.precedence (kinds ++ [.operator op]) where
  opens := by
    obtain ⟨position, settled, reaches⟩ := spelled.reaches
    exact ⟨0, reaches.operator settled op⟩
  completes rightKinds right rightSpelled :=
    ⟨[], binary op left right, by simpa using Spells.chain spelled rightSpelled⟩

/-- A keep modifier goes on with its amount. -/
theorem amount {kinds : List Token.Kind} {term : Dice} (which : Keep)
    (spelled : SpellsDice kinds term) : Context .primary .primary (kinds ++ [.keep which]) where
  opens := ⟨0, spelled.reaches.snoc fun _ => rfl⟩
  completes amountKinds amount amountSpelled :=
    ⟨[], keep which term amount, by simpa using Spells.keep which spelled amountSpelled⟩

/-- A group goes on with what stands in it. -/
theorem inner : Context .sum .primary [.parenOpen] where
  opens := ⟨1, fun _ => rfl⟩
  completes _ expr spelled := ⟨[.parenClose], group expr, Spells.group spelled⟩

end Context

/-- What is pending in a part is pending in the whole. -/
theorem Pending.inContext {inner outer : Precedence} {before kinds : List Token.Kind}
    {token : Token} {error : ParseError} (pending : Pending inner kinds token error)
    (context : Context inner outer before) : Pending outer (before ++ kinds) token error where
  viable := by
    obtain ⟨more, expr, spelled⟩ := pending.viable
    obtain ⟨after, whole, spelledWhole⟩ := context.completes _ _ spelled
    exact ⟨more ++ after, whole, by simpa using spelledWhole⟩
  blocked := by
    obtain ⟨frontier, reaches, refuses, inside, rfl⟩ := pending.blocked
    obtain ⟨opened, opens⟩ := context.opens
    refine ⟨_, opens.append reaches, fun around => ?_, fun settled => ?_, rfl⟩
    · rw [← Nat.add_assoc]
      exact refuses (around + opened)
    · have := inside settled
      simp only
      omega

/-- A reader that is called after the given kinds answers the expression that these and what it
has walked over spell, or the error that is pending after them. -/
def Faithful (level : Precedence) (before : List Token.Kind) (tokens : Cursor) :
    Attempt Expr → Prop
  | .done expr rest => ∃ seen, Walk tokens seen rest ∧
    Complete level (before ++ seen.map Token.kind) expr (next rest).kind
  | .failed error => ∃ seen rest, Walk tokens seen rest ∧
    Pending level (before ++ seen.map Token.kind) (next rest) error
  | .exhausted => True

section Faithful

variable {inner outer level : Precedence} {before : List Token.Kind}
  {tokens middle : Cursor} {opening : List Token}

/-- What is faithful after a walk is faithful from where the walk began. -/
theorem Faithful.of_walk {attempt : Attempt Expr} (walk : Walk tokens opening middle)
    (faithful : Faithful level (before ++ opening.map Token.kind) middle attempt) :
    Faithful level before tokens attempt := by
  cases attempt with
  | done expr rest =>
    obtain ⟨seen, further, complete⟩ := faithful
    exact ⟨opening ++ seen, walk.trans further, by simpa using complete⟩
  | failed error =>
    obtain ⟨seen, rest, further, pending⟩ := faithful
    exact ⟨opening ++ seen, rest, walk.trans further, by simpa using pending⟩
  | exhausted => trivial

/-- Reading a part and going on from there is faithful when going on is. -/
theorem Faithful.andThen {attempt : Attempt Expr} {goOn : Expr → Cursor → Attempt Expr}
    (walk : Walk tokens opening middle)
    (context : Context inner outer (before ++ opening.map Token.kind))
    (part : Faithful inner [] middle attempt)
    (whole : ∀ expr rest seen, Walk middle seen rest →
      Complete inner (seen.map Token.kind) expr (next rest).kind →
      Faithful outer (before ++ opening.map Token.kind ++ seen.map Token.kind) rest
        (goOn expr rest)) :
    Faithful outer before tokens (attempt.andThen goOn) := by
  refine Faithful.of_walk walk ?_
  cases attempt with
  | done expr rest =>
    obtain ⟨seen, further, complete⟩ := part
    exact Faithful.of_walk further (whole expr rest seen further (by simpa using complete))
  | failed error =>
    obtain ⟨seen, rest, further, pending⟩ := part
    exact ⟨seen, rest, further, (by simpa using pending : Pending _ _ _ _).inContext context⟩
  | exhausted => trivial

end Faithful

end DiceLang.Expr
