import DiceLang.Proofs.Rolling.Determinism
import DiceLang.Proofs.Rolling.Explanation
import DiceLang.Proofs.Rolling.Written

/-!
# Written forms are normal forms

An expression is written without adding parentheses, so its written form may group otherwise than
its tree. It is valid nevertheless, because what can stand for an operand does so in any surroundings.
What is read back has the same tokens, and whatever can be told from the tokens is the same for both:
the written form itself, the dice, and how faces are explained. Only the result may differ.
-/

namespace DiceLang

open Roller

namespace Token.Kind

/-- If a token is a `d`, the one before it is its count. -/
def Counts (before kind : Kind) : Prop :=
  kind = dice → ∃ count, before = number count

/-- A count stands directly before every `d`. -/
def Counted (kinds : List Kind) : Prop :=
  (ending :: kinds).IsChain Counts

/-- A token that is neither a number nor a `d` keeps what stands before it apart from what stands
behind it. -/
theorem counted_append_cons {separator : Kind} (noNumber : ∀ value, separator ≠ number value)
    (noDice : separator ≠ dice) {left right : List Kind} :
    Counted (left ++ separator :: right) ↔ Counted left ∧ Counted right := by
  have behind : (separator :: right).IsChain Counts ↔ Counted right := by
    rw [Counted, List.isChain_cons, List.isChain_cons]
    simp [Counts, noNumber]
  rw [Counted, ← List.cons_append, List.isChain_append, behind]
  simp [Counted, Counts, noDice]

/-- How a token is written in an expression. -/
def written : Kind → List Char
  | number value => (Word.text value).toList
  | dice => ['d']
  | operator op => [' ', op.symbol, ' ']
  | keep which => which.symbol.toList
  | parenOpen => ['(']
  | parenClose => [')']
  | ending => []

end Token.Kind

namespace Expr

open Token.Kind

/-- The written form of an expression can be told from its kinds. -/
theorem flatMap_written_kinds (expr : Expr) : expr.kinds.flatMap written = expr.text.toList := by
  induction expr with
  | num value => simp [kinds, text, written]
  | dice term => simp [kinds, text, Dice.kinds, Dice.text, written]
  | binary op left right leftHypothesis rightHypothesis =>
    simp [kinds, text, written, leftHypothesis, rightHypothesis]
  | keep which term amount inductionHypothesis =>
    simp [kinds, text, Dice.kinds, Dice.text, written, inductionHypothesis]
  | group inner inductionHypothesis => simp [kinds, text, written, inductionHypothesis]

/-- The kinds of an expression can stand for an operand, however its operators group. -/
theorem isOperand_kinds (expr : Expr) : IsOperand expr.kinds := by
  induction expr with
  | num value => exact ⟨.afterNumber, rfl, fun _ => rfl⟩
  | dice term => exact ⟨.afterDice, rfl, fun _ => rfl⟩
  | binary op left right leftHypothesis rightHypothesis =>
    exact leftHypothesis.join op rightHypothesis
  | keep which term amount inductionHypothesis =>
    exact .keep (fun _ => rfl) which inductionHypothesis
  | group inner inductionHypothesis => exact inductionHypothesis.group

/-- A dice term is written with its count. -/
theorem counted_dice (term : Dice) : Counted term.kinds := by
  simp [Dice.kinds, Counted, Counts]

/-- Every dice term is written with its count. -/
theorem counted_kinds (expr : Expr) : Counted expr.kinds := by
  induction expr with
  | num value => simp [kinds, Counted, Counts]
  | dice term => exact counted_dice term
  | binary op left right leftHypothesis rightHypothesis =>
    exact (counted_append_cons (by simp) (by simp)).mpr ⟨leftHypothesis, rightHypothesis⟩
  | keep which term amount inductionHypothesis =>
    exact (counted_append_cons (by simp) (by simp)).mpr ⟨counted_dice term, inductionHypothesis⟩
  | group inner inductionHypothesis =>
    have opened : Counted ([] ++ .parenOpen :: inner.kinds) :=
      (counted_append_cons (by simp) (by simp)).mpr ⟨by simp [Counted], inductionHypothesis⟩
    exact (counted_append_cons (by simp) (by simp)).mpr ⟨opened, by simp [Counted]⟩

/-- A dice term with its count has the kinds that spell it. -/
theorem SpellsDice.kinds_eq {kinds : List Token.Kind} {term : Dice}
    (spelled : SpellsDice kinds term) (counted : Counted kinds) : term.kinds = kinds := by
  cases spelled with
  | counted count sides => rfl
  | single sides => simp [Counted, Counts] at counted

/-- Where every dice term has its count, an expression has the kinds that spell it. -/
theorem Spells.kinds_eq {level : Precedence} {kinds : List Token.Kind} {expr : Expr}
    (spelled : Spells level kinds expr) (counted : Counted kinds) : expr.kinds = kinds := by
  induction spelled with
  | num value => rfl
  | dice spelled => exact spelled.kinds_eq counted
  | keep which spelled amountSpelled inductionHypothesis =>
    obtain ⟨termCounted, amountCounted⟩ := (counted_append_cons (by simp) (by simp)).mp counted
    rw [Expr.kinds, spelled.kinds_eq termCounted, inductionHypothesis amountCounted]
  | @group kinds inner innerSpelled inductionHypothesis =>
    obtain ⟨opened, -⟩ := (counted_append_cons (by simp) (by simp)).mp counted
    obtain ⟨-, innerCounted⟩ :=
      (@counted_append_cons .parenOpen (by simp) (by simp) [] kinds).mp opened
    rw [Expr.kinds, inductionHypothesis innerCounted]
  | tighter loose spelled inductionHypothesis => exact inductionHypothesis counted
  | chain leftSpelled rightSpelled leftHypothesis rightHypothesis =>
    obtain ⟨leftCounted, rightCounted⟩ := (counted_append_cons (by simp) (by simp)).mp counted
    rw [Expr.kinds, leftHypothesis leftCounted, rightHypothesis rightCounted]

/-- The written form of any expression is read to its end, as an expression with the same kinds. -/
theorem exists_ofText_text (expr : Expr) :
    ∃ parsed, ofText expr.text = .ok parsed ∧ parsed.ignored? = none ∧
      parsed.expr.kinds = expr.kinds := by
  obtain ⟨front, last, lexed, kinds, isEnding⟩ := lex_text expr
  obtain ⟨other, spelled⟩ := expr.isOperand_kinds.spells
  have same := spelled.kinds_eq expr.counted_kinds
  rw [← kinds] at spelled
  refine ⟨⟨other, [last]⟩, ?_, by simp [Parsed.ignored?, Cursor.next, isEnding], same⟩
  exact ofText_eq_ok_iff.mpr ⟨_, lexed, parse_complete spelled isEnding⟩

section congr

variable {expr other : Expr} {faces : List UInt64}

/-- Expressions with the same kinds are written alike. -/
theorem text_congr (same : expr.kinds = other.kinds) : expr.text = other.text := by
  apply String.toList_injective
  rw [← flatMap_written_kinds, ← flatMap_written_kinds, same]

/-- Expressions with the same kinds have the same dice terms. -/
theorem diceTerms_congr (same : expr.kinds = other.kinds) : expr.diceTerms = other.diceTerms := by
  rw [← diceTerms_kinds, ← diceTerms_kinds, same]

/-- How many dice are rolled is told by the dice terms. -/
theorem rollCount_congr (same : expr.diceTerms = other.diceTerms) :
    expr.rollCount = other.rollCount := by
  apply UInt64.toNat_inj.mp
  rw [toNat_rollCount, toNat_rollCount, ← length_demand, ← length_demand, demand, demand, same]

/-- Whether the dice can fall in more than one way is told by the dice terms. -/
theorem isDeterministic_congr (same : expr.diceTerms = other.diceTerms) :
    expr.isDeterministic = other.isDeterministic := by
  rw [Bool.eq_iff_iff, isDeterministic_iff, isDeterministic_iff, demand, demand, same]

/-- How faces are explained is told by the written form and the dice terms. -/
theorem explanation_congr (sameText : expr.text = other.text)
    (sameTerms : expr.diceTerms = other.diceTerms)
    (enough : faces.length = (Dice.demandAll expr.diceTerms).length) :
    (expr.outcome faces).explanation = (other.outcome faces).explanation := by
  have atEnd : Text.Closes [] := fun c isFirst => by cases isFirst
  have filled := fill_text atEnd enough []
  have enoughOther := enough
  rw [sameTerms] at enoughOther
  rw [sameText, sameTerms, fill_text atEnd enoughOther] at filled
  exact String.toList_injective (List.append_cancel_right filled).symm

end congr

end Expr

/-- What is played is told by the dice terms and by what is made of the faces. -/
theorem Table.Plays.congr {σ α : Type} {roller : Roller σ} {terms : List Dice}
    {value other : List UInt64 → α} {action further : EStateM Fault (Table σ) α}
    (plays : Plays roller terms value action) (playsOther : Plays roller terms other further)
    (same : ∀ faces, faces.length = (Dice.demandAll terms).length → value faces = other faces) :
    action = further := by
  funext table
  rw [plays table, playsOther table]
  cases faulted : (roller.ask (Dice.demandAll terms) table.state).fault? with
  | none =>
    rw [Answers.result_of_complete faulted, Answers.result_of_complete faulted,
      same _ (length_faces_of_complete faulted)]
  | some fault => rw [Answers.result_of_fault faulted, Answers.result_of_fault faulted]

namespace Expr

/-- The written form of any expression is valid and a normal form, even if no text is read as that
expression itself. It is read to its end without a warning, as an expression that is canonical and
written the same, so that nothing changes when it is written and read again. Both have the same roll
count and the same dice terms from left to right, and both are deterministic or neither is. Rolled
with any roller, both throw the same dice and come to outcomes with the same explanation, or to the
same fault; and so they do for any faces. -/
theorem text_is_normal_form (expr : Expr) :
    ∃ parsed, ofText expr.text = .ok parsed ∧ parsed.ignored? = none ∧
      parsed.expr.Canonical ∧ parsed.expr.text = expr.text ∧
      parsed.expr.rollCount = expr.rollCount ∧
      parsed.expr.isDeterministic = expr.isDeterministic ∧
      parsed.expr.diceTerms = expr.diceTerms ∧
      (∀ (σ : Type) (roller : Roller σ),
        (do return (← parsed.expr.eval roller).explanation) =
          (do return (← expr.eval roller).explanation)) ∧
      ∀ faces outcome, expr.ComesTo faces outcome →
        ∃ other, parsed.expr.ComesTo faces other ∧ other.explanation = outcome.explanation := by
  obtain ⟨parsed, read, whole, same⟩ := expr.exists_ofText_text
  obtain ⟨tokens, -, answered⟩ := ofText_eq_ok_iff.mp read
  have sameText := text_congr same
  have sameTerms := diceTerms_congr same
  refine ⟨parsed, read, whole, parse_canonical answered, sameText, rollCount_congr sameTerms,
    isDeterministic_congr sameTerms, sameTerms, ?_, ?_⟩
  · intro σ roller
    have plays := (parsed.expr.plays roller).map Outcome.explanation
    rw [sameTerms] at plays
    refine plays.congr ((expr.plays roller).map Outcome.explanation) fun faces enough => ?_
    exact explanation_congr sameText sameTerms (by rw [enough, sameTerms])
  · intro faces outcome comes
    obtain ⟨enough, rfl⟩ := comesTo_iff.mp comes
    rw [demand, ← sameTerms] at enough
    exact ⟨_, comesTo_iff.mpr ⟨enough, rfl⟩, explanation_congr sameText sameTerms enough⟩

end Expr

end DiceLang
