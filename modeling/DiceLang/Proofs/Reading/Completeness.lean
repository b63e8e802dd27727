import DiceLang.Proofs.Reading.Soundness

/-!
# The readers find what the grammar spells

Tokens that spell an expression, followed by one that belongs to what surrounds it, are read as
just that expression, unless the depth is exhausted. The induction is on how the expression is
spelled. A chain is spelled from its last operator and read from its first operand, so for a chain
more is shown: reading what spells its left part leads into the loop with that part in hand.
-/

namespace DiceLang

/-- The attempt answers this value and arrives there, if it has the depth. -/
def Attempt.Settles {α : Type} (attempt : Attempt α) (value : α) (rest : Cursor) : Prop :=
  attempt = .exhausted ∨ attempt = .done value rest

/-- Steps after an attempt settle when the attempt does and the steps do from there. -/
theorem Attempt.Settles.andThen {α β : Type} {attempt : Attempt α}
    {goOn : α → Cursor → Attempt β} {value : α} {middle rest : Cursor} {answer : β}
    (first : attempt.Settles value middle) (second : (goOn value middle).Settles answer rest) :
    (attempt.andThen goOn).Settles answer rest := by
  rcases first with exhausted | done
  · exact .inl (by rw [exhausted, andThen_exhausted])
  · rwa [done, andThen_done]

namespace Expr

open Cursor

/-- The kinds that can follow a complete expression of the precedence in a larger one, or at its
end. -/
def Follows (level : Precedence) (kind : Token.Kind) : Prop :=
  kind = .parenClose ∨ kind = .ending ∨
    ∃ op, kind = .operator op ∧ op.precedence.rank < level.rank

namespace Follows

variable {level : Precedence} {kind : Token.Kind}

/-- What follows a chain follows its operands. -/
theorem tighten (loose : level ≠ .primary) (follows : Follows level kind) :
    Follows level.tighter kind := by
  rcases follows with closes | ends | ⟨op, operator, looser⟩
  · exact .inl closes
  · exact .inr (.inl ends)
  · refine .inr (.inr ⟨op, operator, ?_⟩)
    rw [rank_tighter loose]
    omega

/-- The operators of a chain follow its operands. -/
theorem operator {op : Operator} : Follows op.precedence.tighter (.operator op) := by
  refine .inr (.inr ⟨op, rfl, ?_⟩)
  cases op <;> simp [Operator.precedence, Precedence.tighter, Precedence.rank]

/-- No dice follow an expression. -/
theorem ne_dice (follows : Follows level kind) : kind ≠ .dice := by
  rcases follows with rfl | rfl | ⟨op, rfl, -⟩ <;> simp

/-- No keep modifier follows a complete expression. -/
theorem ne_keep (follows : Follows level kind) (which : Keep) : kind ≠ .keep which := by
  rcases follows with rfl | rfl | ⟨op, rfl, -⟩ <;> simp

/-- What follows a chain is none of its operators. -/
theorem other_precedence {op : Operator} (follows : Follows level (.operator op)) :
    op.precedence ≠ level := by
  rintro rfl
  rcases follows with closes | ends | ⟨other, same, looser⟩
  · cases closes
  · cases ends
  · rw [Token.Kind.operator.injEq] at same
    exact absurd looser (by simp [same])

end Follows

/-- Whatever of these kinds is read, up to a token that can follow, is read as the expression. -/
def Reads (level : Precedence) (kinds : List Token.Kind) (expr : Expr) : Prop :=
  ∀ tokens seen rest depth, Walk tokens seen rest → seen.map Token.kind = kinds →
    Follows level (next rest).kind → (read depth level tokens).Settles expr rest

/-- Whatever of these kinds is read leads to reading the chain on after the expression. -/
def LeadsOn (level : Precedence) (kinds : List Token.Kind) (expr : Expr) : Prop :=
  ∀ tokens seen rest depth, Walk tokens seen rest → seen.map Token.kind = kinds →
    Follows level.tighter (next rest).kind →
    read depth level tokens = .exhausted ∨
      ∃ less, read depth level tokens = readChain less level expr rest

section Chain

variable {level : Precedence} {kinds : List Token.Kind} {expr : Expr}

/-- A chain that is followed by none of its operators is done. -/
theorem readChain_settles {tokens : Cursor} (depth : Nat)
    (follows : Follows level (next tokens).kind) :
    (readChain depth level expr tokens).Settles expr tokens := by
  cases depth with
  | zero => exact .inl rfl
  | succ depth =>
    right
    rw [readChain]
    split
    · rename_i op operator
      rw [operator] at follows
      rw [if_neg follows.other_precedence]
    · rfl

/-- What leads on to the loop is read as soon as the loop has an end. -/
theorem LeadsOn.reads (loose : level ≠ .primary) (leads : LeadsOn level kinds expr) :
    Reads level kinds expr := by
  intro tokens seen rest depth walk same follows
  rcases leads tokens seen rest depth walk same (follows.tighten loose) with exhausted | ⟨less, led⟩
  · exact .inl exhausted
  · rw [led]
    exact readChain_settles less follows

/-- A single operand leads on to the loop. -/
theorem Reads.leadsOn (loose : level ≠ .primary) (reads : Reads level.tighter kinds expr) :
    LeadsOn level kinds expr := by
  intro tokens seen rest depth walk same follows
  cases depth with
  | zero => exact .inl rfl
  | succ depth =>
    rw [read_loose loose]
    rcases reads tokens seen rest depth walk same follows with exhausted | done
    · rw [exhausted]
      exact .inl rfl
    · rw [done]
      exact .inr ⟨depth, rfl⟩

/-- A chain, one of its operators and an operand lead on to the loop together. -/
theorem LeadsOn.chain {op : Operator} {leftKinds rightKinds : List Token.Kind} {left right : Expr}
    (leads : LeadsOn op.precedence leftKinds left)
    (reads : Reads op.precedence.tighter rightKinds right) :
    LeadsOn op.precedence (leftKinds ++ .operator op :: rightKinds) (binary op left right) := by
  intro tokens seen rest depth walk same follows
  obtain ⟨leftSeen, others, rfl, leftSame, othersSame⟩ := List.map_eq_append_iff.mp same
  obtain ⟨token, rightSeen, rfl, operator, rightSame⟩ := List.map_eq_cons_iff.mp othersSame
  obtain ⟨middle, leftWalk, further⟩ := walk.split
  obtain ⟨rfl, rightWalk⟩ := further.head_eq
  have middleFollows : Follows op.precedence.tighter (next middle).kind := by
    rw [operator]
    exact .operator
  rcases leads tokens leftSeen middle depth leftWalk leftSame middleFollows with
    exhausted | ⟨less, led⟩
  · exact .inl exhausted
  · cases less with
    | zero => exact .inl led
    | succ less =>
      rw [led, readChain]
      simp only [operator, if_true]
      rcases reads (advance middle) rightSeen rest less rightWalk rightSame follows with
        exhausted | done
      · rw [exhausted]
        exact .inl rfl
      · rw [done]
        exact .inr ⟨less, rfl⟩

end Chain

section Primary

variable {kinds : List Token.Kind} {term : Dice} {tokens rest : Cursor} {seen : List Token}

/-- A primary is read if reading it settles at every depth that lets it begin. -/
theorem Reads.of_readPrimary {expr : Expr}
    (settles : ∀ tokens seen rest depth, Walk tokens seen rest → seen.map Token.kind = kinds →
      Follows .primary (next rest).kind → (readPrimary (depth + 1) tokens).Settles expr rest) :
    Reads .primary kinds expr := by
  intro tokens seen rest depth walk same follows
  match depth with
  | 0 => exact .inl rfl
  | 1 => exact .inl rfl
  | depth + 2 =>
    rw [read]
    exact settles tokens seen rest depth walk same follows

/-- A number with nothing behind it that makes it a count is read as a literal. -/
theorem reads_num (value : UInt64) : Reads .primary [.number value] (num value) := by
  refine Reads.of_readPrimary fun tokens seen rest depth walk same follows => .inr ?_
  obtain ⟨token, rfl, number⟩ := List.map_eq_singleton_iff.mp same
  obtain ⟨rfl, arrived⟩ := walk.head_eq
  cases arrived
  rw [next_advance] at follows
  rw [readPrimary]
  simp [number, follows.ne_dice]

/-- What spells a dice term is read as that term, whatever follows. -/
theorem readDice_eq_done (spelled : SpellsDice kinds term) (walk : Walk tokens seen rest)
    (same : seen.map Token.kind = kinds) :
    StartsDice tokens ∧ readDice tokens = .done term rest := by
  cases spelled with
  | counted count sides =>
    obtain ⟨first, others, rfl, number, othersSame⟩ := List.map_eq_cons_iff.mp same
    obtain ⟨second, others, rfl, dice, othersSame⟩ := List.map_eq_cons_iff.mp othersSame
    obtain ⟨third, rfl, sidesNumber⟩ := List.map_eq_singleton_iff.mp othersSame
    obtain ⟨rfl, further⟩ := walk.head_eq
    obtain ⟨rfl, last⟩ := further.head_eq
    obtain ⟨rfl, arrived⟩ := last.head_eq
    cases arrived
    rw [next_advance] at dice sidesNumber
    refine ⟨.counted count number dice, ?_⟩
    simp [readDice, expect, expectNumber, Token.Kind.literal?, number, dice, sidesNumber]
  | single sides =>
    obtain ⟨first, others, rfl, dice, othersSame⟩ := List.map_eq_cons_iff.mp same
    obtain ⟨second, rfl, sidesNumber⟩ := List.map_eq_singleton_iff.mp othersSame
    obtain ⟨rfl, further⟩ := walk.head_eq
    obtain ⟨rfl, arrived⟩ := further.head_eq
    cases arrived
    rw [next_advance] at sidesNumber
    refine ⟨.single dice, ?_⟩
    simp [readDice, expect, expectNumber, Token.Kind.literal?, dice, sidesNumber]

/-- Where a dice term is spelled, reading a primary goes on with its keep modifier. -/
theorem readPrimary_of_dice (spelled : SpellsDice kinds term) (walk : Walk tokens seen rest)
    (same : seen.map Token.kind = kinds) (depth : Nat) :
    readPrimary (depth + 1) tokens = readKeep depth term rest := by
  obtain ⟨starts, done⟩ := readDice_eq_done spelled walk same
  rw [readPrimary]
  cases starts with
  | single dice => simp [dice, done]
  | counted count number dice => simp [number, dice, done]

/-- Dice without a keep modifier are read as they are. -/
theorem reads_dice (spelled : SpellsDice kinds term) : Reads .primary kinds (dice term) := by
  refine Reads.of_readPrimary fun tokens seen rest depth walk same follows => ?_
  rw [readPrimary_of_dice spelled walk same]
  cases depth with
  | zero => exact .inl rfl
  | succ depth =>
    right
    rw [readKeep]
    split
    · rename_i which modifier
      exact absurd modifier (follows.ne_keep which)
    · rfl

/-- Dice with a keep modifier are read with the amount behind it. -/
theorem reads_keep {amountKinds : List Token.Kind} {amount : Expr} (which : Keep)
    (spelled : SpellsDice kinds term) (reads : Reads .primary amountKinds amount) :
    Reads .primary (kinds ++ .keep which :: amountKinds) (keep which term amount) := by
  refine Reads.of_readPrimary fun tokens seen rest depth walk same follows => ?_
  obtain ⟨diceSeen, others, rfl, diceSame, othersSame⟩ := List.map_eq_append_iff.mp same
  obtain ⟨token, amountSeen, rfl, modifier, amountSame⟩ := List.map_eq_cons_iff.mp othersSame
  obtain ⟨middle, diceWalk, further⟩ := walk.split
  obtain ⟨rfl, amountWalk⟩ := further.head_eq
  rw [readPrimary_of_dice spelled diceWalk diceSame]
  cases depth with
  | zero => exact .inl rfl
  | succ depth =>
    rw [readKeep]
    simp only [modifier]
    have amountReads := reads (advance middle) amountSeen rest (depth + 1) amountWalk amountSame
      follows
    rw [read] at amountReads
    exact amountReads.andThen (.inr rfl)

/-- A group is read as what stands in it, up to the parenthesis that closes it. -/
theorem reads_group {inner : Expr} (reads : Reads .sum kinds inner) :
    Reads .primary (.parenOpen :: kinds ++ [.parenClose]) (group inner) := by
  refine Reads.of_readPrimary fun tokens seen rest depth walk same follows => ?_
  obtain ⟨opening, others, rfl, opens, othersSame⟩ := List.map_eq_cons_iff.mp same
  obtain ⟨innerSeen, others, rfl, innerSame, lastSame⟩ := List.map_eq_append_iff.mp othersSame
  obtain ⟨closing, rfl, closes⟩ := List.map_eq_singleton_iff.mp lastSame
  obtain ⟨rfl, further⟩ := walk.head_eq
  obtain ⟨middle, innerWalk, last⟩ := further.split
  obtain ⟨rfl, arrived⟩ := last.head_eq
  cases arrived
  rw [readPrimary]
  simp only [opens]
  have innerReads := reads (advance tokens) innerSeen middle depth innerWalk innerSame (.inl closes)
  refine innerReads.andThen (.inr ?_)
  simp [expect, closes]

end Primary

/-- What the grammar spells is read as what it spells, and above the primaries it leads on to the
loop. -/
theorem Spells.reads_and_leadsOn {level : Precedence} {kinds : List Token.Kind} {expr : Expr}
    (spelled : Spells level kinds expr) :
    Reads level kinds expr ∧ (level ≠ .primary → LeadsOn level kinds expr) := by
  induction spelled with
  | num value => exact ⟨reads_num value, fun loose => absurd rfl loose⟩
  | dice spelled => exact ⟨reads_dice spelled, fun loose => absurd rfl loose⟩
  | keep which spelled amountSpelled inductionHypothesis =>
    exact ⟨reads_keep which spelled inductionHypothesis.1, fun loose => absurd rfl loose⟩
  | group innerSpelled inductionHypothesis =>
    exact ⟨reads_group inductionHypothesis.1, fun loose => absurd rfl loose⟩
  | tighter loose spelled inductionHypothesis =>
    have leads := inductionHypothesis.1.leadsOn loose
    exact ⟨leads.reads loose, fun _ => leads⟩
  | @chain op leftKinds rightKinds left right leftSpelled rightSpelled leftHypothesis
      rightHypothesis =>
    have loose : op.precedence ≠ .primary := by cases op <;> simp [Operator.precedence]
    have leads := (leftHypothesis.2 loose).chain rightHypothesis.1
    exact ⟨leads.reads loose, fun _ => leads⟩

/-- What the grammar spells is read as what it spells. -/
theorem Spells.reads {level : Precedence} {kinds : List Token.Kind} {expr : Expr}
    (spelled : Spells level kinds expr) : Reads level kinds expr :=
  spelled.reads_and_leadsOn.1

end Expr

end DiceLang
