import DiceLang.Proofs.Rolling.Evaluating

/-!
# The outcome tree

The tree of outcomes has the shape of the expression: the children of a node are the outcomes of the
operands, in the order in which these were evaluated. Faces are shown where the dice are, which is at
a dice term and at the groups directly around it, and they are shown as they were rolled, although a
keep modifier sorts them. So every face stands in exactly one leaf, and reading the leaves from left
to right gives the dice as the roller answered them.
-/

namespace DiceLang

open Roller

variable {σ : Type}

namespace Outcome

mutual

/-- The faces in the nodes without children, depth-first from left to right. -/
def leafFaces : Outcome → List UInt64
  | ⟨_, rolls, [], _⟩ => rolls.getD []
  | ⟨_, _, child :: rest, _⟩ => child.leafFaces ++ leafFacesOfAll rest

/-- The faces in the leaves below a row of nodes. -/
def leafFacesOfAll : List Outcome → List UInt64
  | [] => []
  | child :: rest => child.leafFaces ++ leafFacesOfAll rest

end

@[simp]
theorem leafFaces_ofNum (value : UInt64) : (ofNum value).leafFaces = [] := by
  simp [ofNum, leafFaces]

@[simp]
theorem leafFaces_ofFaces (faces : List UInt64) : (ofFaces faces).leafFaces = faces := by
  simp [ofFaces, leafFaces]

@[simp]
theorem leafFaces_combine (op : Operator) (left right : Outcome) :
    (combine op left right).leafFaces = left.leafFaces ++ right.leafFaces := by
  simp [combine, leafFaces, leafFacesOfAll]

@[simp]
theorem leafFaces_keep (which : Keep) (rolled amount : Outcome) :
    (keep which rolled amount).leafFaces = rolled.leafFaces ++ amount.leafFaces := by
  simp [keep, leafFaces, leafFacesOfAll]

@[simp]
theorem leafFaces_group (inner : Outcome) : (group inner).leafFaces = inner.leafFaces := by
  simp [group, leafFaces, leafFacesOfAll]

end Outcome

namespace Expr

/-- What is evaluated for the expression, in order. The dice of a keep modifier come before its
amount. -/
def operands : Expr → List Expr
  | num _ => []
  | dice _ => []
  | binary _ left right => [left, right]
  | keep _ term amount => [dice term, amount]
  | group inner => [inner]

/-- The dice term that the expression is, apart from parentheses around it. -/
def bareDice? : Expr → Option Dice
  | num _ => none
  | dice term => some term
  | binary _ _ _ => none
  | keep _ _ _ => none
  | group inner => inner.bareDice?

/-- An evaluation came to this outcome after these dice, and the outcome shows their faces exactly if
the expression is a dice term in any number of parentheses. -/
structure Shows (roller : Roller σ) (expr : Expr) (before : Table σ) (tosses : List Toss)
    (outcome : Outcome) (after : Table σ) : Prop where
  rolls : expr.Rolls roller before tosses outcome after
  faces : outcome.rolls = expr.bareDice?.map fun _ => tosses.map Toss.face
  count : ∀ term, expr.bareDice? = some term → tosses.length = term.count.toNat

mutual

/-- The outcome tree mirrors the expression, at its root and at every node below. -/
inductive Mirrors (roller : Roller σ) :
    Expr → Table σ → List Toss → Outcome → Table σ → Prop where
  /-- Without operands there are no children. -/
  | leaf {expr : Expr} {before after : Table σ} {tosses : List Toss} {outcome : Outcome}
      (shows : expr.Shows roller before tosses outcome after) (single : expr.operands = [])
      (childless : outcome.children = []) : Mirrors roller expr before tosses outcome after
  /-- The children are the outcomes of the operands, and the dice are theirs. -/
  | inner {expr : Expr} {before after : Table σ} {tosses : List Toss} {outcome : Outcome}
      (shows : expr.Shows roller before tosses outcome after) (compound : expr.operands ≠ [])
      (children : MirrorsEach roller expr.operands before tosses outcome.children after) :
      Mirrors roller expr before tosses outcome after

/-- The outcomes mirror expressions that were evaluated one after the other. -/
inductive MirrorsEach (roller : Roller σ) :
    List Expr → Table σ → List Toss → List Outcome → Table σ → Prop where
  | nil {table : Table σ} : MirrorsEach roller [] table [] [] table
  | cons {expr : Expr} {rest : List Expr} {before middle after : Table σ}
      {tosses more : List Toss} {outcome : Outcome} {outcomes : List Outcome}
      (first : Mirrors roller expr before tosses outcome middle)
      (others : MirrorsEach roller rest middle more outcomes after) :
      MirrorsEach roller (expr :: rest) before (tosses ++ more) (outcome :: outcomes) after

end

/-- Dice in parentheses are the only dice of the expression. -/
theorem diceTerms_of_bareDice {expr : Expr} {term : Dice} (bare : expr.bareDice? = some term) :
    expr.diceTerms = [term] := by
  induction expr with
  | num value => cases bare
  | dice other =>
    cases bare
    rfl
  | binary op left right leftHypothesis rightHypothesis => cases bare
  | keep which other amount inductionHypothesis => cases bare
  | group inner inductionHypothesis => exact inductionHypothesis bare

/-- An outcome shows faces exactly if it is one of dice in parentheses, and then all faces. -/
theorem rolls_outcome (expr : Expr) (faces : List UInt64) :
    (expr.outcome faces).rolls = expr.bareDice?.map fun _ => faces := by
  induction expr with
  | group inner inductionHypothesis => exact inductionHypothesis
  | num _ | dice _ | binary _ _ _ _ _ | keep _ _ _ _ => rfl

/-- The leaves of an outcome show the faces that it was made of. -/
theorem leafFaces_outcome {expr : Expr} {faces : List UInt64}
    (enough : faces.length = expr.demand.length) : (expr.outcome faces).leafFaces = faces := by
  induction expr generalizing faces with
  | num value =>
    rw [List.length_eq_zero_iff.mp enough, outcome, Outcome.leafFaces_ofNum]
  | dice term => rw [outcome, Outcome.leafFaces_ofFaces]
  | binary op left right leftHypothesis rightHypothesis =>
    rw [demand_binary] at enough
    obtain ⟨early, late, rfl, leftEnough, rightEnough⟩ := exists_split enough
    rw [outcome_binary_append leftEnough, Outcome.leafFaces_combine, leftHypothesis leftEnough,
      rightHypothesis rightEnough]
  | keep which term amount inductionHypothesis =>
    rw [demand_keep] at enough
    obtain ⟨early, late, rfl, termEnough, amountEnough⟩ := exists_split enough
    rw [outcome_keep_append termEnough, Outcome.leafFaces_keep, Outcome.leafFaces_ofFaces,
      inductionHypothesis amountEnough]
  | group inner inductionHypothesis =>
    rw [outcome, Outcome.leafFaces_group, inductionHypothesis enough]

variable {roller : Roller σ} {expr first second : Expr} {before after : Table σ}
  {tosses : List Toss} {outcome : Outcome}

theorem Rolls.shows (rolls : expr.Rolls roller before tosses outcome after) :
    expr.Shows roller before tosses outcome after where
  rolls := rolls
  faces := by rw [(rolls_iff.mp rolls).2.1, rolls_outcome]
  count term bare := by
    have sides := congrArg List.length rolls.sides_eq
    rwa [List.length_map, demand, diceTerms_of_bareDice bare, Dice.length_demandAll_singleton]
      at sides

/-- An expression whose dice are those of two others rolls as these do one after the other. -/
theorem Rolls.split (terms : expr.diceTerms = first.diceTerms ++ second.diceTerms)
    (rolls : expr.Rolls roller before tosses outcome after) :
    ∃ firstTosses secondTosses middle, tosses = firstTosses ++ secondTosses ∧
      first.Rolls roller before firstTosses (first.outcome (firstTosses.map Toss.face)) middle ∧
      second.Rolls roller middle secondTosses (second.outcome (secondTosses.map Toss.face))
        after := by
  obtain ⟨answered, -, throws⟩ := rolls_iff.mp rolls
  rw [demand, terms, Dice.demandAll_append] at answered
  obtain ⟨firstTosses, secondTosses, state, rfl, firstAnswered, secondAnswered⟩ :=
    ask_append_eq answered
  have enough : (firstTosses.map Toss.face).length = (Dice.demandAll first.diceTerms).length := by
    have same := length_faces_of_complete (congrArg Answers.fault? firstAnswered)
    rwa [firstAnswered] at same
  rw [terms, List.map_append, Throw.complete_append_of_length enough, ← List.append_assoc]
    at throws
  refine ⟨firstTosses, secondTosses, ⟨state, _⟩, rfl, rolls_iff.mpr ⟨firstAnswered, rfl, rfl⟩,
    rolls_iff.mpr ⟨secondAnswered, rfl, throws⟩⟩

/-- An expression without operands is mirrored by a leaf. -/
theorem Rolls.mirrors_leaf (rolls : expr.Rolls roller before tosses outcome after)
    (single : expr.operands = []) (childless : ∀ faces, (expr.outcome faces).children = []) :
    Mirrors roller expr before tosses outcome after := by
  refine .leaf rolls.shows single ?_
  rw [(rolls_iff.mp rolls).2.1, childless]

theorem Rolls.mirrors_dice {term : Dice}
    (rolls : (dice term).Rolls roller before tosses outcome after) :
    Mirrors roller (dice term) before tosses outcome after :=
  rolls.mirrors_leaf rfl fun _ => rfl

/-- An expression with two operands is mirrored if both operands are. -/
theorem Rolls.mirrors_pair (rolls : expr.Rolls roller before tosses outcome after)
    (pair : expr.operands = [first, second])
    (terms : expr.diceTerms = first.diceTerms ++ second.diceTerms)
    (children : ∀ faces more, faces.length = first.demand.length →
      (expr.outcome (faces ++ more)).children = [first.outcome faces, second.outcome more])
    (firstMirrored : ∀ {before tosses outcome after},
      first.Rolls roller before tosses outcome after →
        Mirrors roller first before tosses outcome after)
    (secondMirrored : ∀ {before tosses outcome after},
      second.Rolls roller before tosses outcome after →
        Mirrors roller second before tosses outcome after) :
    Mirrors roller expr before tosses outcome after := by
  obtain ⟨firstTosses, secondTosses, middle, rfl, firstRolls, secondRolls⟩ := rolls.split terms
  refine .inner rolls.shows (by simp [pair]) ?_
  rw [pair, (rolls_iff.mp rolls).2.1, List.map_append, children _ _ firstRolls.length_faces]
  have others : MirrorsEach roller [second] middle (secondTosses ++ []) _ after :=
    .cons (secondMirrored secondRolls) .nil
  rw [List.append_nil] at others
  exact .cons (firstMirrored firstRolls) others

/-- What is evaluated is mirrored. -/
theorem Rolls.mirrors (rolls : expr.Rolls roller before tosses outcome after) :
    Mirrors roller expr before tosses outcome after := by
  induction expr generalizing before tosses outcome after with
  | num value => exact rolls.mirrors_leaf rfl fun _ => rfl
  | dice term => exact rolls.mirrors_dice
  | binary op left right leftHypothesis rightHypothesis =>
    refine rolls.mirrors_pair rfl rfl ?_ leftHypothesis rightHypothesis
    intro faces more enough
    rw [outcome_binary_append enough]
    rfl
  | keep which term amount inductionHypothesis =>
    refine rolls.mirrors_pair rfl rfl ?_ Rolls.mirrors_dice inductionHypothesis
    intro faces more enough
    rw [demand, diceTerms, Dice.length_demandAll_singleton, ← Dice.length_demand] at enough
    rw [outcome_keep_append enough]
    rfl
  | group inner inductionHypothesis =>
    obtain ⟨answered, same, throws⟩ := rolls_iff.mp rolls
    have innerRolls : inner.Rolls roller before tosses (inner.outcome (tosses.map Toss.face)) after :=
      rolls_iff.mpr ⟨answered, rfl, throws⟩
    have only : MirrorsEach roller [inner] before (tosses ++ []) _ after :=
      .cons (inductionHypothesis innerRolls) .nil
    rw [List.append_nil] at only
    refine .inner rolls.shows (by simp [operands]) ?_
    rw [same]
    exact only

/-- The outcome tree mirrors the expression at every node: faces are shown exactly at dice terms in
any number of parentheses, as they were rolled, and the children are the outcomes of the operands in
the order of their evaluation. No face is lost, doubled or moved: the leaves from left to right show
the faces that the roller answered. -/
theorem outcome_mirrors_expression (evaluated : expr.eval roller before = .ok outcome after) :
    ∃ tosses, Mirrors roller expr before tosses outcome after ∧
      outcome.leafFaces = tosses.map Toss.face := by
  obtain ⟨tosses, rolls⟩ := eval_eq_ok_iff.mp evaluated
  refine ⟨tosses, rolls.mirrors, ?_⟩
  rw [(rolls_iff.mp rolls).2.1, leafFaces_outcome rolls.length_faces]

/-- `2d6kh1d4 + (1d8)` -/
def keptSum : Expr :=
  binary .add (keep .highest ⟨2, 6⟩ (dice ⟨1, 4⟩)) (group (dice ⟨1, 8⟩))

/-- The outcome of a keep modifier, with its dice and its amount, beside one of dice in
parentheses. -/
theorem outcome_mirrors_expression_keptSum :
    ∃ outcome after, keptSum.eval scripted (.fresh [3, 5, 1, 7]) = .ok outcome after ∧
      ∃ tosses, Mirrors scripted keptSum (.fresh [3, 5, 1, 7]) tosses outcome after ∧
        outcome.leafFaces = tosses.map Toss.face :=
  ⟨_, _, rfl, outcome_mirrors_expression rfl⟩

end Expr

end DiceLang
