import DiceLang.Proofs.Rolling.Evaluating
import DiceLang.Proofs.RoundTrip

/-!
# The dice that are rolled

An evaluation asks its roller for the dice that the written expression shows, from left to right.
They are read off the tokens of the written form, where a dice term is a `d` between two numbers.
Their number is known before anything is rolled. It is counted with saturating words on the way
up the expression, which comes to the same as clamping the true number once.
-/

namespace DiceLang

namespace Token.Kind

/-- The dice term that three tokens in a row spell, if they do. -/
def diceTerm? (before middle behind : Kind) : Option Dice :=
  if middle = .dice then do return ⟨← before.literal?, ← behind.literal?⟩ else none

/-- The dice terms in a row of tokens, from left to right. -/
def diceTerms : List Kind → List Dice
  | before :: middle :: behind :: rest =>
    (diceTerm? before middle behind).toList ++ diceTerms (middle :: behind :: rest)
  | _ => []

variable {separator : Kind}

/-- Nothing that is no number begins a dice term. -/
theorem diceTerms_cons (noNumber : separator.literal? = none) (kinds : List Kind) :
    diceTerms (separator :: kinds) = diceTerms kinds := by
  rcases kinds with _ | ⟨second, _ | ⟨third, rest⟩⟩
  · rfl
  · rfl
  · simp [diceTerms, diceTerm?, noNumber]

/-- A token that is neither a number nor a `d` belongs to no dice term. -/
theorem diceTerms_append_cons (noNumber : separator.literal? = none) (noDice : separator ≠ .dice)
    (left right : List Kind) :
    diceTerms (left ++ separator :: right) = diceTerms left ++ diceTerms right := by
  induction left with
  | nil => exact diceTerms_cons noNumber right
  | cons first left inductionHypothesis =>
    -- Three tokens from the first one on may reach to the separator or behind it.
    rcases left with _ | ⟨second, _ | ⟨third, rest⟩⟩
    · cases right with
      | nil => rfl
      | cons behind right =>
        simpa [diceTerms, diceTerm?, noDice] using diceTerms_cons noNumber (behind :: right)
    · simpa [diceTerms, diceTerm?, noNumber] using inductionHypothesis
    · simpa [diceTerms] using inductionHypothesis

end Token.Kind

namespace Expr

open Token.Kind

/-- The dice terms in the tokens of a written expression are those of the expression. -/
theorem diceTerms_kinds (expr : Expr) : Token.Kind.diceTerms expr.kinds = expr.diceTerms := by
  induction expr with
  | num value => rfl
  | dice term => rfl
  | binary op left right leftHypothesis rightHypothesis =>
    rw [kinds, diceTerms_append_cons rfl (by simp), leftHypothesis, rightHypothesis, diceTerms]
  | keep which term amount inductionHypothesis =>
    rw [kinds, diceTerms_append_cons rfl (by simp), inductionHypothesis]
    rfl
  | group inner inductionHypothesis =>
    rw [kinds, diceTerms_append_cons rfl (by simp), diceTerms_cons rfl, inductionHypothesis]
    simp [Token.Kind.diceTerms, diceTerms]

/-- The dice terms of an expression can be read off its written form. -/
theorem diceTerms_text (expr : Expr) :
    ∃ tokens, Token.lex expr.text = .ok tokens ∧
      Token.Kind.diceTerms (tokens.map Token.kind) = expr.diceTerms := by
  obtain ⟨front, last, lexed, kinds, isEnding⟩ := lex_text expr
  refine ⟨front ++ [last], lexed, ?_⟩
  rw [List.map_append, List.map_singleton, kinds, isEnding,
    diceTerms_append_cons rfl (by simp), diceTerms_kinds]
  simp [Token.Kind.diceTerms]

/-- Counting with clamped sums on the way comes to clamping the number of dice once. -/
theorem toNat_rollCount (expr : Expr) :
    expr.rollCount.toNat = min expr.diceTotal Word.largest := by
  induction expr with
  | num value => rfl
  | dice term => exact (Nat.min_eq_left (Word.toNat_le_largest term.count)).symm
  | binary op left right leftHypothesis rightHypothesis =>
    rw [rollCount, Word.toNat_add, leftHypothesis, rightHypothesis, diceTotal]
    omega
  | keep which term amount inductionHypothesis =>
    have bound := Word.toNat_le_largest term.count
    rw [rollCount, Word.toNat_add, inductionHypothesis, diceTotal]
    omega
  | group inner inductionHypothesis => exact inductionHypothesis

/-- An evaluation rolls the dice as they are written. Whatever the roller, and whatever it answers,
it is asked for the dice of the terms in the written form, from left to right and each term as often
as it counts, unless it faults itself. The number of these dice, clamped to a word, is the roll
count. -/
theorem rolls_dice_as_written (expr : Expr) :
    ∃ tokens asked, Token.lex expr.text = .ok tokens ∧
      asked = (Token.Kind.diceTerms (tokens.map Token.kind)).flatMap
        (fun term => List.replicate term.count.toNat term.sides) ∧
      (∀ (σ : Type) (roller : Roller σ) (before : Table σ),
        (∃ outcome after tosses, expr.eval roller before = .ok outcome after ∧
          expr.Rolls roller before tosses outcome after ∧ tosses.map Roller.Toss.sides = asked) ∨
        ∃ fault after, expr.eval roller before = .error fault after ∧
          roller.FaultsIn asked before.state fault after.state) ∧
      asked.length = expr.diceTotal ∧ expr.rollCount.toNat = min asked.length Word.largest := by
  obtain ⟨tokens, lexed, terms⟩ := expr.diceTerms_text
  refine ⟨tokens, expr.demand, lexed, ?_, ?_, expr.length_demand, ?_⟩
  · rw [terms]
    rfl
  · intro σ roller before
    cases evaluated : expr.eval roller before with
    | ok outcome after =>
      obtain ⟨tosses, rolls⟩ := eval_eq_ok_iff.mp evaluated
      exact .inl ⟨outcome, after, tosses, rfl, rolls, rolls.sides_eq⟩
    | error fault after => exact .inr ⟨fault, after, rfl, faultsIn_of_eval evaluated⟩
  · rw [length_demand, toNat_rollCount]

end Expr

end DiceLang
