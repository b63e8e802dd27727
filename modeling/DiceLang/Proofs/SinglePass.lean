import DiceLang.Proofs.Rolling.Limit

/-!
# Chains in a single pass

Operands that are joined by operators without parentheses need no tree. A single pass from left to
right keeps the product under way and the sum that waits for it: a `*` or `/` goes on with the
product, a `+` or `-` first puts the product into the sum and begins a new one.

The same pass over expressions instead of numbers builds the tree that is read from such a text.
Evaluating commutes with every step of the pass, so rolling the text comes to what a pass over the
results comes to, with the same operations on the same doubles in the same order.
-/

namespace DiceLang

open Roller Token

/-- Where a single pass over a chain stands. -/
structure Tally (α : Type) where
  /-- What was added up before the last `+` or `-`, with that operator. -/
  sum? : Option (α × Operator)
  /-- What was multiplied since then. -/
  product : α

namespace Tally

variable {α : Type}

/-- A pass that has seen the first operand. -/
def start (first : α) : Tally α :=
  ⟨none, first⟩

/-- What the pass comes to if nothing follows: the product put into the sum. -/
def close (apply : Operator → α → α → α) (tally : Tally α) : α :=
  match tally.sum? with
  | none => tally.product
  | some (sum, op) => apply op sum tally.product

/-- Takes in an operator and the operand behind it. -/
def push (apply : Operator → α → α → α) (tally : Tally α) (op : Operator) (operand : α) : Tally α :=
  match op with
  | .add | .sub => ⟨some (tally.close apply, op), operand⟩
  | .mul | .div => { tally with product := apply op tally.product operand }

end Tally

/-- An operator between blanks and the operand behind it, which the grammar takes as a primary. -/
structure Chain.Step where
  op : Operator
  operand : Expr
  before : List Char
  behind : List Char
  primary : ∃ kinds, Expr.Spells .primary kinds operand
  blankBefore : ∀ c ∈ before, Text.isBlank c = true
  blankBehind : ∀ c ∈ behind, Text.isBlank c = true

/-- A first operand and any number of operators and operands behind it, without parentheses other
than those of the operands. -/
structure Chain where
  first : Expr
  primary : ∃ kinds, Expr.Spells .primary kinds first
  steps : List Chain.Step

namespace Chain

variable {σ : Type}

/-- The step as it is written. -/
def Step.text (step : Step) : String :=
  String.ofList step.before ++ String.singleton step.op.symbol ++ String.ofList step.behind ++
    step.operand.text

/-- The written operands, joined by the operators. -/
def text (chain : Chain) : String :=
  chain.first.text ++ String.join (chain.steps.map Step.text)

/-- Takes in the next operator, rolls the operand behind it and takes in its result. -/
def Step.accumulate (roller : Roller σ) (tally : Tally Float) (step : Step) :
    EStateM Fault (Table σ) (Tally Float) := do
  let operand ← step.operand.eval roller
  return tally.push Operator.apply step.op operand.result

/-- Rolls the operands from left to right with the same roller and takes their results into a
single pass. -/
def accumulate (roller : Roller σ) (chain : Chain) : EStateM Fault (Table σ) Float := do
  let first ← chain.first.eval roller
  let tally ← chain.steps.foldlM (Step.accumulate roller) (.start first.result)
  return tally.close Operator.apply

/-- Takes in the next operator and the operand behind it as it stands. -/
def Step.extend (tally : Tally Expr) (step : Step) : Tally Expr :=
  tally.push .binary step.op step.operand

/-- The expression that a pass over the operands themselves builds. -/
def expr (chain : Chain) : Expr :=
  (chain.steps.foldl Step.extend (.start chain.first)).close .binary

end Chain

namespace Tally

section push

variable {α : Type} {apply : Operator → α → α → α} {op : Operator}

theorem push_of_sum (loose : op.precedence = .sum) (tally : Tally α) (operand : α) :
    tally.push apply op operand = ⟨some (tally.close apply, op), operand⟩ := by
  cases op with
  | add | sub => rfl
  | mul | div => cases loose

theorem push_of_product (tight : op.precedence = .product) (tally : Tally α) (operand : α) :
    tally.push apply op operand = ⟨tally.sum?, apply op tally.product operand⟩ := by
  cases op with
  | add | sub => cases tight
  | mul | div => rfl

end push

section eval

variable {σ : Type} (roller : Roller σ)

/-- Evaluates the expressions of a pass, the sum before the product. -/
def eval (tally : Tally Expr) : EStateM Fault (Table σ) (Tally Float) :=
  match tally.sum? with
  | none => do
    let product ← tally.product.eval roller
    return ⟨none, product.result⟩
  | some (sum, op) => do
    let sum ← sum.eval roller
    let product ← tally.product.eval roller
    return ⟨some (sum.result, op), product.result⟩

/-- The expression that a pass comes to is evaluated as the pass is. -/
theorem eval_close (tally : Tally Expr) :
    Outcome.result <$> (tally.close .binary).eval roller =
      close Operator.apply <$> tally.eval roller := by
  obtain ⟨_ | ⟨sum, op⟩, product⟩ := tally
  · simp [close, eval]
  · simp [close, eval, Expr.eval, Outcome.combine]

/-- A further operand is evaluated behind all others, and its result is taken into the pass over
their results. -/
theorem eval_push (tally : Tally Expr) (op : Operator) (operand : Expr) :
    (tally.push .binary op operand).eval roller = (do
      let results ← tally.eval roller
      let operand ← operand.eval roller
      return results.push Operator.apply op operand.result) := by
  cases level : op.precedence with
  | primary => cases op <;> cases level
  | sum =>
    -- The whole pass so far becomes the sum, so this is the case that needs `eval_close`.
    simp only [push_of_sum level]
    calc (eval roller ⟨some (tally.close .binary, op), operand⟩)
      _ = Outcome.result <$> (tally.close .binary).eval roller >>= fun sum =>
            (do return ⟨some (sum, op), (← operand.eval roller).result⟩) := by
        rw [bind_map_left]
        rfl
      _ = close Operator.apply <$> tally.eval roller >>= fun sum =>
            (do return ⟨some (sum, op), (← operand.eval roller).result⟩) := by
        rw [eval_close]
      _ = _ := bind_map_left ..
  | product =>
    simp only [push_of_product level]
    obtain ⟨_ | ⟨sum, waiting⟩, product⟩ := tally
    · simp [eval, Expr.eval, Outcome.combine]
    · simp [eval, Expr.eval, Outcome.combine]

end eval

/-- What these kinds of token spell, if a pass over expressions has come to their end. -/
inductive Spells : Tally Expr → List Kind → Prop where
  | product {kinds : List Kind} {product : Expr} (spelled : Expr.Spells .product kinds product) :
    Spells ⟨none, product⟩ kinds
  | sum {sumKinds productKinds : List Kind} {op : Operator} {sum product : Expr}
    (loose : op.precedence = .sum) (sumSpelled : Expr.Spells .sum sumKinds sum)
    (productSpelled : Expr.Spells .product productKinds product) :
    Spells ⟨some (sum, op), product⟩ (sumKinds ++ .operator op :: productKinds)

section Spells

variable {tally : Tally Expr} {kinds operandKinds : List Kind} {operand : Expr}

/-- The kinds so far spell the expression that the pass comes to. -/
theorem Spells.close (spelled : tally.Spells kinds) :
    Expr.Spells .sum kinds (tally.close .binary) := by
  cases spelled with
  | product spelled => exact .tighter (by simp) spelled
  | @sum sumKinds productKinds op sum product loose sumSpelled productSpelled =>
    rw [← loose] at sumSpelled ⊢
    refine .chain sumSpelled ?_
    rw [loose]
    exact productSpelled

/-- With an operator and a primary behind them, the kinds spell what the pass then stands at. -/
theorem Spells.push (spelled : tally.Spells kinds)
    (operandSpelled : Expr.Spells .primary operandKinds operand) (op : Operator) :
    (tally.push .binary op operand).Spells (kinds ++ .operator op :: operandKinds) := by
  cases level : op.precedence with
  | primary => cases op <;> cases level
  | sum =>
    rw [push_of_sum level]
    exact .sum level spelled.close (.tighter (by simp) operandSpelled)
  | product =>
    have further {left : Expr} {leftKinds : List Kind}
        (leftSpelled : Expr.Spells .product leftKinds left) :
        Expr.Spells .product (leftKinds ++ .operator op :: operandKinds)
          (.binary op left operand) := by
      rw [← level] at leftSpelled ⊢
      refine .chain leftSpelled ?_
      rw [level]
      exact operandSpelled
    rw [push_of_product level]
    cases spelled with
    | product spelled => exact .product (further spelled)
    | sum loose sumSpelled productSpelled =>
      rw [List.append_assoc, List.cons_append]
      exact .sum loose sumSpelled (further productSpelled)

end Spells

end Tally

/-- A primary is spelled by the kinds of its written form. -/
theorem Expr.spells_kinds_of_primary {expr : Expr} (primary : ∃ kinds, Spells .primary kinds expr) :
    Spells .primary expr.kinds expr := by
  obtain ⟨kinds, spelled⟩ := primary
  have tight := spelled.rank_le
  have own := spells_kinds spelled.canonical
  cases level : expr.precedence with
  | primary => rwa [level] at own
  | sum | product => simp [level, Precedence.rank] at tight

namespace Chain

/-- The kinds of the tokens of a step. -/
def Step.kinds (step : Step) : List Kind :=
  .operator step.op :: step.operand.kinds

/-- The pieces of a written step. -/
def Step.pieces (step : Step) : List Piece :=
  ⟨step.before, [step.op.symbol], .operator step.op⟩ :: step.operand.pieces step.behind

/-- The kinds of the tokens of a chain. -/
def kinds (chain : Chain) : List Kind :=
  chain.first.kinds ++ chain.steps.flatMap Step.kinds

/-- The pieces of a written chain. -/
def pieces (chain : Chain) : List Piece :=
  chain.first.pieces [] ++ chain.steps.flatMap Step.pieces

theorem Step.flatMap_text_pieces (step : Step) :
    step.pieces.flatMap Piece.text = step.text.toList := by
  simp [pieces, text, Piece.text, Expr.flatMap_text_pieces]

/-- The pieces make up the written chain. -/
theorem flatMap_text_pieces (chain : Chain) :
    chain.pieces.flatMap Piece.text = chain.text.toList := by
  rw [pieces, List.flatMap_append, Expr.flatMap_text_pieces, List.flatMap_assoc, text,
    String.toList_append, String.toList_join, List.flatMap_map]
  simp only [Step.flatMap_text_pieces, List.nil_append]

theorem Step.map_kind_pieces (step : Step) : step.pieces.map Piece.kind = step.kinds := by
  simp [pieces, kinds]

theorem map_kind_pieces (chain : Chain) : chain.pieces.map Piece.kind = chain.kinds := by
  simp [pieces, kinds, List.map_flatMap, Step.map_kind_pieces]

/-- Steps behind well spaced pieces leave them well spaced. -/
theorem wellSpaced_steps {left : List Piece} (leftSpaced : Layout.WellSpaced ⟨left, []⟩)
    (steps : List Step) : Layout.WellSpaced ⟨left ++ steps.flatMap Step.pieces, []⟩ := by
  induction steps generalizing left with
  | nil => simpa using leftSpaced
  | cons step steps inductionHypothesis =>
    have next := Expr.wellSpaced_join leftSpaced (.operator step.op) step.blankBefore (by simp)
      (Expr.wellSpaced_pieces step.blankBehind step.operand)
    have whole := inductionHypothesis next
    rwa [List.append_assoc] at whole

/-- The tokens of a written chain have its kinds. -/
theorem lex_text (chain : Chain) :
    ∃ front last, lex chain.text = .ok (front ++ [last]) ∧ front.map Token.kind = chain.kinds ∧
      last.kind = .ending := by
  refine ⟨Piece.tokens 0 chain.pieces, endingAt (0 + chain.text.toList.length), ?_, ?_, rfl⟩
  · rw [lex_eq_ok_iff_laidOut]
    have first := Expr.wellSpaced_pieces (List.forall_mem_nil _) chain.first
    refine ⟨⟨chain.pieces, []⟩, wellSpaced_steps first chain.steps, ?_, rfl⟩
    rw [Layout.text, flatMap_text_pieces, List.append_nil]
  · rw [map_kind_tokens, map_kind_pieces]

/-- The kinds of further steps spell what a pass over their operands then stands at. -/
theorem spells_foldl_extend {tally : Tally Expr} {kinds : List Kind} (spelled : tally.Spells kinds)
    (steps : List Step) :
    (steps.foldl Step.extend tally).Spells (kinds ++ steps.flatMap Step.kinds) := by
  induction steps generalizing tally kinds with
  | nil => simpa using spelled
  | cons step steps inductionHypothesis =>
    have further := inductionHypothesis
      (spelled.push (Expr.spells_kinds_of_primary step.primary) step.op)
    rwa [List.append_assoc] at further

/-- The kinds of a chain spell the expression that a pass over its operands builds. -/
theorem spells_expr (chain : Chain) : Expr.Spells .sum chain.kinds chain.expr := by
  have first : (Tally.start chain.first).Spells chain.first.kinds :=
    .product (.tighter (by simp) (Expr.spells_kinds_of_primary chain.primary))
  exact (spells_foldl_extend first chain.steps).close

/-- A written chain is read to its end as that expression. -/
theorem ofText_text (chain : Chain) :
    ∃ last : Token, last.kind = .ending ∧ Expr.ofText chain.text = .ok ⟨chain.expr, [last]⟩ := by
  obtain ⟨front, last, lexed, kinds, isEnding⟩ := chain.lex_text
  have spelled := chain.spells_expr
  rw [← kinds] at spelled
  exact ⟨last, isEnding, Expr.ofText_eq_ok_iff.mpr ⟨_, lexed, Expr.parse_complete spelled isEnding⟩⟩

section roll

variable {σ : Type}

/-- Evaluating what a pass has built is a pass over the results. -/
theorem eval_foldl_extend (roller : Roller σ) (tally : Tally Expr) (steps : List Step) :
    (steps.foldl Step.extend tally).eval roller =
      tally.eval roller >>= steps.foldlM (Step.accumulate roller) := by
  induction steps generalizing tally with
  | nil => simp
  | cons step steps inductionHypothesis =>
    rw [List.foldl_cons, inductionHypothesis, Step.extend, Tally.eval_push]
    simp [Step.accumulate]

/-- The expression that is read evaluates to what the pass over the results comes to. -/
theorem result_eval_expr (roller : Roller σ) (chain : Chain) :
    Outcome.result <$> chain.expr.eval roller = chain.accumulate roller := by
  rw [expr, Tally.eval_close, eval_foldl_extend]
  simp [accumulate, Tally.eval, Tally.start]

/-- Precedence and left associativity hold in chains of any length, however the operators are
spaced. The text of a chain is read to its end. Rolled with any roller, and with a limit that its
dice do not exceed, it comes to what a single pass over the operands comes to, which rolls them from
left to right with the same roller, multiplies and divides at once and puts the product into the sum
at the next `+` or `-` and at the end. The result is the same double, and the same dice are thrown.
If the roller faults, it does so in both. -/
theorem rolls_as_accumulated (chain : Chain) :
    ∃ parsed, Expr.ofText chain.text = .ok parsed ∧ parsed.ignored? = none ∧
      ∀ (σ : Type) (options : Options σ),
        (∀ limit, options.limit = some limit → parsed.expr.rollCount ≤ limit) →
          (∃ outcome after,
            chain.accumulate options.roller (.fresh options.state) = .ok outcome.result after ∧
            rollWith options chain.text = ⟨.ok outcome, after.state,
              .evaluating parsed.expr :: after.throws.map .thrown⟩) ∨
          ∃ fault after,
            chain.accumulate options.roller (.fresh options.state) = .error fault after ∧
            rollWith options chain.text = ⟨.error (.faulted fault), after.state,
              .evaluating parsed.expr :: after.throws.map .thrown⟩ := by
  obtain ⟨last, isEnding, read⟩ := chain.ofText_text
  have whole : (⟨chain.expr, [last]⟩ : Expr.Parsed).ignored? = none := by
    simp [Expr.Parsed.ignored?, Cursor.next, isEnding]
  refine ⟨_, read, whole, ?_⟩
  intro σ options within
  have allowed : options.exceeded? chain.expr = none := Options.exceeded?_eq_none_iff.mpr within
  rw [rollWith_of_allowed read allowed, whole, ← result_eval_expr]
  cases evaluated : chain.expr.eval options.roller (.fresh options.state) with
  | ok outcome after => exact .inl ⟨outcome, after, bind_of_ok evaluated, rfl⟩
  | error fault after => exact .inr ⟨fault, after, bind_of_error evaluated, rfl⟩

/-- The chain `1 - 2d6kh1*(3)`, in which a kept die is multiplied before anything is subtracted. -/
def keptProduct : Chain where
  first := .num 1
  primary := ⟨_, .num 1⟩
  steps :=
    [{ op := .sub, operand := .keep .highest ⟨2, 6⟩ (.num 1), before := [' '], behind := [' ']
       primary := ⟨_, .keep .highest (.counted 2 6) (.num 1)⟩
       blankBefore := List.forall_mem_singleton.mpr rfl
       blankBehind := List.forall_mem_singleton.mpr rfl },
     { op := .mul, operand := .group (.num 3), before := [], behind := []
       primary := ⟨_, .group (.tighter (by decide) (.tighter (by decide) (.num 3)))⟩
       blankBefore := List.forall_mem_nil _
       blankBehind := List.forall_mem_nil _ }]

/-- With the faces 4 and 6 the chain comes to 1 less what is kept of them times 3, and both faces are
used up. -/
theorem rolls_as_accumulated_keptProduct :
    keptProduct.text = "1 - 2d6kh1*(3)" ∧
    ∃ outcome, (rollWith (.new scripted [4, 6]) "1 - 2d6kh1*(3)").answer = .ok outcome ∧
      (rollWith (.new scripted [4, 6]) "1 - 2d6kh1*(3)").state = [] ∧
      outcome.result = (1 : UInt64).toFloat -
        (Outcome.keep .highest (.ofFaces [4, 6]) (.ofNum 1)).result * (3 : UInt64).toFloat := by
  have written : keptProduct.text = "1 - 2d6kh1*(3)" := by decide
  obtain ⟨parsed, -, -, rolled⟩ := keptProduct.rolls_as_accumulated
  rw [written] at rolled
  refine ⟨written, ?_⟩
  rcases rolled (List UInt64) (.new scripted [4, 6]) (by simp [Options.new]) with
    ⟨outcome, after, accumulated, report⟩ | ⟨fault, after, accumulated, -⟩
  · obtain ⟨result, rfl⟩ := EStateM.Result.ok.inj accumulated
    exact ⟨outcome, by rw [report], by rw [report], result.symm⟩
  · cases accumulated

end roll

end Chain

end DiceLang
