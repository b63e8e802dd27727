import DiceLang.Expr.Basic
import DiceLang.Proofs.Lexing.Numbers
import DiceLang.Proofs.Nodes
import DiceLang.Proofs.Rolling.Tree

/-!
# Explanations

An explanation is the written expression with the faces in place of the dice. The faces are filled
in by looking at the characters of the written form alone, so the two ways of writing that meet here
share nothing: wherever a run of digits, a `d` and another run of digits stand in a row, the next
dice that were thrown take their place, and everything else stays.
-/

namespace DiceLang

open Roller

namespace Text

/-- What follows the run of digits that begins a text, if one does. -/
def behindDigits? : List Char → Option (List Char)
  | [] => none
  | c :: rest => if c.isDigit then some (rest.dropWhile Char.isDigit) else none

/-- What follows the dice term that begins a text, if one does: a run of digits, a `d` and another
run of digits. -/
def behindDice? (chars : List Char) : Option (List Char) :=
  match behindDigits? chars with
  | some ('d' :: sides) => behindDigits? sides
  | _ => none

/-- A run of digits has a character of its own. -/
theorem length_lt_of_behindDigits {chars rest : List Char}
    (found : behindDigits? chars = some rest) : rest.length < chars.length := by
  cases chars with
  | nil => cases found
  | cons c chars =>
    obtain ⟨-, same⟩ := Option.ite_none_right_eq_some.mp found
    rw [← Option.some.inj same]
    have shorter := (List.dropWhile_sublist Char.isDigit (l := chars)).length_le
    simp only [List.length_cons]
    omega

/-- A dice term has characters of its own. -/
theorem length_lt_of_behindDice {chars rest : List Char} (found : behindDice? chars = some rest) :
    rest.length < chars.length := by
  unfold behindDice? at found
  split at found
  · rename_i sides count
    have outer := length_lt_of_behindDigits count
    have inner := length_lt_of_behindDigits found
    simp only [List.length_cons] at outer
    omega
  · cases found

/-- The text with its dice terms replaced by the given fillings, from left to right. -/
def fill : List (List Char) → List Char → List Char
  | [], chars => chars
  | _ :: _, [] => []
  | filling :: fillings, c :: rest =>
    match _found : behindDice? (c :: rest) with
    | some behind => filling ++ fill fillings behind
    | none => c :: fill (filling :: fillings) rest
termination_by _ chars => chars.length
decreasing_by
  · exact length_lt_of_behindDice _found
  · exact Nat.lt_succ_self _

section fill

variable {digits rest : List Char} {fillings : List (List Char)}

/-- Where no dice term begins, a character stays. -/
theorem fill_of_no_dice {c : Char} (noDice : behindDice? (c :: rest) = none) :
    fill fillings (c :: rest) = c :: fill fillings rest := by
  cases fillings with
  | nil => simp [fill]
  | cons filling fillings =>
    rw [fill]
    split
    · rename_i found
      rw [noDice] at found
      cases found
    · rfl

/-- Characters other than digits stay. -/
theorem fill_cons {c : Char} (noDigit : c.isDigit = false) :
    fill fillings (c :: rest) = c :: fill fillings rest :=
  fill_of_no_dice (by simp [behindDice?, behindDigits?, noDigit])

/-- Characters in a row of which none is a digit stay. -/
theorem fill_skip {chars : List Char} (noDigit : ∀ c ∈ chars, c.isDigit = false) :
    fill fillings (chars ++ rest) = chars ++ fill fillings rest := by
  induction chars with
  | nil => rfl
  | cons c chars inductionHypothesis =>
    rw [List.forall_mem_cons] at noDigit
    rw [List.cons_append, fill_cons noDigit.1, inductionHypothesis noDigit.2, List.cons_append]

/-- Behind digits that nothing continues is what follows them. -/
theorem behindDigits_append (some : digits ≠ []) (isDigit : ∀ c ∈ digits, c.isDigit = true)
    (apart : ∀ c ∈ rest.head?, c.isDigit = false) :
    behindDigits? (digits ++ rest) = .some rest := by
  match digits, some with
  | c :: digits, _ =>
    rw [List.forall_mem_cons] at isDigit
    rw [List.cons_append, behindDigits?, if_pos isDigit.1,
      Text.dropWhile_append isDigit.2 apart]

/-- Neither a digit nor a `d` begins the text, so that it does not continue a number. -/
def Closes (rest : List Char) : Prop :=
  ∀ c ∈ rest.head?, c.isDigit = false ∧ c ≠ 'd'

theorem Closes.apart (closes : Closes rest) : ∀ c ∈ rest.head?, c.isDigit = false :=
  fun c isFirst => (closes c isFirst).1

theorem closes_cons {c : Char} (noDigit : c.isDigit = false) (noDice : c ≠ 'd') :
    Closes (c :: rest) := by
  intro first isFirst
  rw [List.head?_cons, Option.mem_some_iff] at isFirst
  subst isFirst
  exact ⟨noDigit, noDice⟩

/-- A number stays. -/
theorem fill_digits (isDigit : ∀ c ∈ digits, c.isDigit = true) (closes : Closes rest) :
    fill fillings (digits ++ rest) = digits ++ fill fillings rest := by
  induction digits with
  | nil => rfl
  | cons c digits inductionHypothesis =>
    have behind := behindDigits_append (List.cons_ne_nil c digits) isDigit closes.apart
    have noDice : behindDice? (c :: (digits ++ rest)) = none := by
      rw [List.cons_append] at behind
      unfold behindDice?
      rw [behind]
      split
      · rename_i sides same
        cases same
        exact absurd rfl (closes 'd' rfl).2
      · rfl
    rw [List.forall_mem_cons] at isDigit
    rw [List.cons_append, fill_of_no_dice noDice, inductionHypothesis isDigit.2, List.cons_append]

/-- A dice term gives way to the next filling. -/
theorem fill_dice {count sides filling : List Char}
    (someCount : count ≠ []) (countDigit : ∀ c ∈ count, c.isDigit = true)
    (someSides : sides ≠ []) (sidesDigit : ∀ c ∈ sides, c.isDigit = true)
    (apart : ∀ c ∈ rest.head?, c.isDigit = false) :
    fill (filling :: fillings) (count ++ 'd' :: (sides ++ rest)) =
      filling ++ fill fillings rest := by
  have found : behindDice? (count ++ 'd' :: (sides ++ rest)) = some rest := by
    unfold behindDice?
    rw [behindDigits_append someCount countDigit (by simp)]
    exact behindDigits_append someSides sidesDigit apart
  match count, someCount with
  | c :: count, _ =>
    rw [List.cons_append] at found ⊢
    rw [fill]
    split
    · rename_i behind same
      rw [found] at same
      rw [Option.some.inj same]
    · rename_i same
      rw [found] at same
      cases same

end fill

/-- The text with its dice terms replaced by the given fillings, from left to right. -/
def filled (fillings : List String) (text : String) : String :=
  String.ofList (fill (fillings.map String.toList) text.toList)

end Text

/-- The faces as an explanation shows them, in the order in which they were rolled. -/
def Throw.shown (throw : Throw) : String :=
  "[" ++ " + ".intercalate (throw.faces.map Word.text) ++ "]"

namespace Expr

open Text

/-- The sub-expression that a path of operand indices leads to. -/
def node? : List Nat → Expr → Option Expr
  | [], expr => some expr
  | index :: path, expr => expr.operands[index]?.bind (node? path)

section fill

variable {rest : List Char}

/-- A written dice term gives way to what was thrown for it. -/
theorem fill_dice_text (term : Dice) (filling : List Char) (fillings : List (List Char))
    (apart : ∀ c ∈ rest.head?, c.isDigit = false) :
    fill (filling :: fillings) (term.text.toList ++ rest) = filling ++ fill fillings rest := by
  have shape : term.text.toList ++ rest =
      (Word.text term.count).toList ++ 'd' :: ((Word.text term.sides).toList ++ rest) := by
    simp [Dice.text]
  rw [shape]
  exact fill_dice (Word.text_toList_ne_nil _) (fun c => Word.isDigit_of_mem_text)
    (Word.text_toList_ne_nil _) (fun c => Word.isDigit_of_mem_text) apart

/-- A written expression gives way to the explanation of its outcome, whatever closes it. -/
theorem fill_text {expr : Expr} {faces : List UInt64} (closes : Closes rest)
    (enough : faces.length = expr.demand.length) (more : List (List Char)) :
    fill ((Throw.complete expr.diceTerms faces).map (fun throw => throw.shown.toList) ++ more)
        (expr.text.toList ++ rest) =
      (expr.outcome faces).explanation.toList ++ fill more rest := by
  induction expr generalizing faces rest more with
  | num value => exact fill_digits (fun c => Word.isDigit_of_mem_text) closes
  | dice term =>
    rw [demand, diceTerms, Dice.length_demandAll_singleton, ← Dice.length_demand] at enough
    have whole := Throw.complete_cons_of_length enough [] []
    rw [List.append_nil] at whole
    rw [diceTerms, whole]
    exact fill_dice_text term _ more closes.apart
  | binary op left right leftHypothesis rightHypothesis =>
    rw [demand_binary] at enough
    obtain ⟨early, late, rfl, leftEnough, rightEnough⟩ := exists_split enough
    have noDigit : ∀ c ∈ [' ', op.symbol, ' '], c.isDigit = false := by
      cases op <;> simp [Operator.symbol]
    have shape : (binary op left right).text.toList ++ rest =
        left.text.toList ++ ([' ', op.symbol, ' '] ++ (right.text.toList ++ rest)) := by
      simp [text]
    have closesLeft : Closes ([' ', op.symbol, ' '] ++ (right.text.toList ++ rest)) :=
      closes_cons (by decide) (by decide)
    rw [diceTerms, Throw.complete_append_of_length leftEnough, List.map_append, List.append_assoc,
      shape, leftHypothesis closesLeft leftEnough, fill_skip noDigit,
      rightHypothesis closes rightEnough, outcome_binary_append leftEnough]
    simp [Outcome.combine]
  | keep which term amount inductionHypothesis =>
    rw [demand_keep] at enough
    obtain ⟨early, late, rfl, termEnough, amountEnough⟩ := exists_split enough
    have shape : (keep which term amount).text.toList ++ rest =
        term.text.toList ++ (which.symbol.toList ++ (amount.text.toList ++ rest)) := by
      simp [text]
    have noDigit : ∀ c ∈ which.symbol.toList, c.isDigit = false := by
      cases which <;> simp [Keep.symbol]
    have closesTerm : Closes (which.symbol.toList ++ (amount.text.toList ++ rest)) := by
      cases which <;> exact closes_cons (by decide) (by decide)
    rw [diceTerms, Throw.complete_cons_of_length termEnough, List.map_cons, List.cons_append,
      shape, fill_dice_text term _ _ closesTerm.apart, fill_skip noDigit,
      inductionHypothesis closes amountEnough, outcome_keep_append termEnough]
    simp [Outcome.keep, Outcome.ofFaces, Throw.shown]
  | group inner inductionHypothesis =>
    have shape : (group inner).text.toList ++ rest =
        '(' :: (inner.text.toList ++ ')' :: rest) := by
      simp [text]
    rw [diceTerms, shape, fill_cons (by decide),
      inductionHypothesis (closes_cons (by decide) (by decide)) enough, fill_cons (by decide)]
    simp [outcome, Outcome.group]

end fill

variable {roller : Roller σ} {expr : Expr} {before after : Table σ} {tosses : List Toss}
  {outcome : Outcome} {thrown : List Throw}

/-- An evaluation came to this outcome after these dice, and its explanation is the written
expression in which every dice term, from left to right, is replaced by what was thrown for it. -/
structure Explains (roller : Roller σ) (expr : Expr) (before : Table σ) (tosses : List Toss)
    (outcome : Outcome) (after : Table σ) (thrown : List Throw) : Prop where
  rolls : expr.Rolls roller before tosses outcome after
  record : after.throws = before.throws ++ thrown
  covers : Throw.Covers expr.diceTerms (tosses.map Toss.face) thrown
  explanation : outcome.explanation = filled (thrown.map Throw.shown) expr.text

/-- What an evaluation puts on record fills in the written expression. -/
theorem Rolls.explains (rolls : expr.Rolls roller before tosses outcome after) :
    expr.Explains roller before tosses outcome after
      (Throw.complete expr.diceTerms (tosses.map Toss.face)) where
  rolls := rolls
  record := (rolls_iff.mp rolls).2.2
  covers := Throw.covers_complete rolls.length_faces
  explanation := by
    have atEnd : Closes [] := fun c isFirst => by cases isFirst
    have whole := fill_text atEnd rolls.length_faces []
    rw [List.append_nil, List.append_nil] at whole
    rw [filled, List.map_map, Function.comp_def, whole, ← (rolls_iff.mp rolls).2.1]
    simp [fill]

/-- Of outcomes that mirror expressions, each mirrors the expression at its place. -/
theorem MirrorsEach.get {exprs : List Expr} {outcomes : List Outcome}
    (each : MirrorsEach roller exprs before tosses outcomes after) {index : Nat} {child : Outcome}
    (found : outcomes[index]? = some child) :
    ∃ operand earlier own later start stop, exprs[index]? = some operand ∧
      tosses = earlier ++ own ++ later ∧ Mirrors roller operand start own child stop := by
  induction outcomes generalizing exprs before tosses index with
  | nil => cases found
  | cons first outcomes inductionHypothesis =>
    cases each with
    | @cons operand rest before middle after own more outcome outcomes mirrors others =>
      cases index with
      | zero =>
        cases found
        exact ⟨operand, [], own, more, _, _, rfl, rfl, mirrors⟩
      | succ index =>
        obtain ⟨other, earlier, deeper, later, start, stop, same, rfl, mirrored⟩ :=
          inductionHypothesis others found
        exact ⟨other, own ++ earlier, deeper, later, start, stop, same, by simp, mirrored⟩

/-- At every node of an outcome tree that mirrors an expression stands what the sub-expression at the
same place came to, with the dice of that sub-expression. -/
theorem Mirrors.node (mirrors : Mirrors roller expr before tosses outcome after)
    {path : List Nat} {node : Outcome} (found : outcome.node? path = some node) :
    ∃ part earlier own later start stop, expr.node? path = some part ∧
      tosses = earlier ++ own ++ later ∧ part.Rolls roller start own node stop := by
  induction path generalizing expr before tosses outcome after with
  | nil =>
    cases found
    refine ⟨expr, [], tosses, [], before, after, rfl, by simp, ?_⟩
    cases mirrors with
    | leaf shows => exact shows.rolls
    | inner shows => exact shows.rolls
  | cons index path inductionHypothesis =>
    obtain ⟨child, atIndex, foundBelow⟩ := Option.bind_eq_some_iff.mp found
    cases mirrors with
    | leaf shows single childless =>
      rw [childless] at atIndex
      cases atIndex
    | inner shows compound children =>
      obtain ⟨operand, first, inner, last, _, _, sameIndex, rfl, mirrored⟩ := children.get atIndex
      obtain ⟨part, earlier, own, later, start, stop, samePath, rfl, rolls⟩ :=
        inductionHypothesis mirrored foundBelow
      refine ⟨part, first ++ earlier, own, later ++ last, start, stop, ?_, by simp, rolls⟩
      rw [node?, sameIndex]
      exact samePath

/-- The explanation is the written expression with its dice filled in. Whatever the roller, as long
as it answers, every dice term of the written form gives way to the faces that were thrown for it,
in decimal between brackets, and all other characters stay. The same holds at every node of the
outcome tree for the sub-expression at its place and the dice of that sub-expression. -/
theorem explanation_is_filled_text (evaluated : expr.eval roller before = .ok outcome after) :
    ∃ tosses thrown, expr.Explains roller before tosses outcome after thrown ∧
      ∀ path node, outcome.node? path = some node →
        ∃ part earlier own later start stop partThrown, expr.node? path = some part ∧
          tosses = earlier ++ own ++ later ∧
          part.Explains roller start own node stop partThrown := by
  obtain ⟨tosses, rolls⟩ := eval_eq_ok_iff.mp evaluated
  refine ⟨tosses, _, rolls.explains, ?_⟩
  intro path node found
  obtain ⟨part, earlier, own, later, start, stop, samePath, split, partRolls⟩ :=
    rolls.mirrors.node found
  exact ⟨part, earlier, own, later, start, stop, _, samePath, split, partRolls.explains⟩

/-- The dice of `2d6kh1d4 + (1d8)` are filled in as they fall. -/
theorem explanation_is_filled_text_keptSum :
    ∃ outcome after, keptSum.eval scripted (.fresh [3, 5, 1, 7]) = .ok outcome after ∧
      keptSum.text = "2d6kh1d4 + (1d8)" ∧ outcome.explanation = "[3 + 5]kh[1] + ([7])" ∧
      ∃ tosses thrown,
        keptSum.Explains scripted (.fresh [3, 5, 1, 7]) tosses outcome after thrown ∧
        ∀ path node, outcome.node? path = some node →
          ∃ part earlier own later start stop partThrown, keptSum.node? path = some part ∧
            tosses = earlier ++ own ++ later ∧
            part.Explains scripted start own node stop partThrown :=
  ⟨_, _, rfl, by decide, by decide, explanation_is_filled_text rfl⟩

end Expr

end DiceLang
