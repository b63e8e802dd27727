import DiceLang.Expr.Basic
import DiceLang.Token.Basic

/-!
# The grammar of expressions

Which sequences of kinds of token spell an expression, and which expression it is. This says
nothing about how one is read: it is a relation between a sequence and a tree, with one rule for
each form an expression can take.

The trees that have a sequence are the canonical ones. Canonical is said here of the tree alone:
wherever an operator would take an operand apart, the operand is a group.
-/

namespace DiceLang.Expr

/-- The ways to write a dice term. A count that is left out is 1. -/
inductive SpellsDice : List Token.Kind → Dice → Prop where
  | counted (count sides : UInt64) :
    SpellsDice [.number count, .dice, .number sides] ⟨count, sides⟩
  | single (sides : UInt64) : SpellsDice [.dice, .number sides] ⟨1, sides⟩

/-- The ways to write an expression that holds together at least as tightly as a precedence. -/
inductive Spells : Precedence → List Token.Kind → Expr → Prop where
  | num (value : UInt64) : Spells .primary [.number value] (num value)
  | dice {kinds : List Token.Kind} {term : Dice} (spelled : SpellsDice kinds term) :
    Spells .primary kinds (dice term)
  | keep {kinds amountKinds : List Token.Kind} {term : Dice} {amount : Expr} (which : Keep)
    (spelled : SpellsDice kinds term) (amountSpelled : Spells .primary amountKinds amount) :
    Spells .primary (kinds ++ .keep which :: amountKinds) (keep which term amount)
  | group {kinds : List Token.Kind} {inner : Expr} (innerSpelled : Spells .sum kinds inner) :
    Spells .primary (.parenOpen :: kinds ++ [.parenClose]) (group inner)
  /-- Something tighter stands for a chain without operators. -/
  | tighter {level : Precedence} {kinds : List Token.Kind} {expr : Expr}
    (loose : level ≠ .primary) (spelled : Spells level.tighter kinds expr) :
    Spells level kinds expr
  /-- A chain is continued on the right by an operator and something tighter. -/
  | chain {op : Operator} {leftKinds rightKinds : List Token.Kind} {left right : Expr}
    (leftSpelled : Spells op.precedence leftKinds left)
    (rightSpelled : Spells op.precedence.tighter rightKinds right) :
    Spells op.precedence (leftKinds ++ .operator op :: rightKinds) (binary op left right)

/-- The expression has groups wherever the grammar needs them: the left operand of an operator
holds together at least as tightly as the operator, the right one more tightly, and a keep
amount is a primary. -/
def Canonical : Expr → Prop
  | num _ => True
  | dice _ => True
  | binary op left right =>
    left.Canonical ∧ right.Canonical ∧
      op.precedence.rank ≤ left.precedence.rank ∧ op.precedence.rank < right.precedence.rank
  | keep _ _ amount => amount.Canonical ∧ amount.precedence = .primary
  | group inner => inner.Canonical

/-- What the grammar spells at a precedence holds together at least that tightly. -/
theorem Spells.rank_le {level : Precedence} {kinds : List Token.Kind} {expr : Expr}
    (spelled : Spells level kinds expr) : level.rank ≤ expr.precedence.rank := by
  induction spelled with
  | num value => simp [Expr.precedence]
  | dice spelled => simp [Expr.precedence]
  | keep which spelled amountSpelled inductionHypothesis => simp [Expr.precedence]
  | group innerSpelled inductionHypothesis => simp [Expr.precedence]
  | @tighter level kinds expr loose spelled inductionHypothesis =>
    refine Nat.le_trans ?_ inductionHypothesis
    cases level <;> simp [Precedence.rank, Precedence.tighter]
  | chain leftSpelled rightSpelled leftHypothesis rightHypothesis => simp [Expr.precedence]

/-- The grammar spells only canonical expressions. -/
theorem Spells.canonical {level : Precedence} {kinds : List Token.Kind} {expr : Expr}
    (spelled : Spells level kinds expr) : expr.Canonical := by
  induction spelled with
  | num value => trivial
  | dice spelled => trivial
  | @keep kinds amountKinds term amount which spelled amountSpelled inductionHypothesis =>
    refine ⟨inductionHypothesis, ?_⟩
    have tight := amountSpelled.rank_le
    cases shape : amount.precedence <;> simp_all [Precedence.rank]
  | group innerSpelled inductionHypothesis => exact inductionHypothesis
  | tighter loose spelled inductionHypothesis => exact inductionHypothesis
  | @chain op leftKinds rightKinds left right leftSpelled rightSpelled leftHypothesis
      rightHypothesis =>
    refine ⟨leftHypothesis, rightHypothesis, leftSpelled.rank_le, ?_⟩
    refine Nat.lt_of_lt_of_le ?_ rightSpelled.rank_le
    cases op <;> simp [Operator.precedence, Precedence.rank, Precedence.tighter]

end DiceLang.Expr
