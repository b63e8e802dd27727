import DiceLang.Outcome.Evaluation
import DiceLang.Proofs.Rolling.Asking

/-!
# What an evaluation does

An evaluation throws the dice terms of its expression in the order in which they are written, and
makes the outcome of the faces they show. Nothing else enters: the dice that are asked for are known
before, the roller answers them or faults, and the outcome is a function of the faces alone.

That an action plays so is kept by doing one action after another, so it holds of an evaluation by
following the expression.
-/

namespace DiceLang

open Roller

variable {σ α β : Type}

/-- The dice of a term, each by its sides. -/
def Dice.demand (term : Dice) : List UInt64 :=
  List.replicate term.count.toNat term.sides

@[simp]
theorem Dice.length_demand (term : Dice) : term.demand.length = term.count.toNat :=
  List.length_replicate

/-- The dice of some terms, one term after the other. -/
def Dice.demandAll (terms : List Dice) : List UInt64 :=
  terms.flatMap Dice.demand

@[simp]
theorem Dice.demandAll_cons (term : Dice) (terms : List Dice) :
    demandAll (term :: terms) = term.demand ++ demandAll terms :=
  rfl

theorem Dice.length_demandAll_singleton (term : Dice) :
    (demandAll [term]).length = term.count.toNat := by
  rw [demandAll, List.flatMap_singleton, length_demand]

@[simp]
theorem Dice.demandAll_append (terms more : List Dice) :
    demandAll (terms ++ more) = demandAll terms ++ demandAll more :=
  List.flatMap_append

/-- The throws that some faces complete, if the terms are thrown in order. -/
def Throw.complete : List Dice → List UInt64 → List Throw
  | [], _ => []
  | term :: terms, faces =>
    if term.count.toNat ≤ faces.length then
      ⟨term, faces.take term.count.toNat⟩ :: complete terms (faces.drop term.count.toNat)
    else
      []

/-- Faces for all of the terms complete the throws of further terms with what is left. -/
theorem Throw.complete_append_of_length {terms : List Dice} {faces : List UInt64}
    (enough : faces.length = (Dice.demandAll terms).length) (more : List Dice)
    (further : List UInt64) :
    complete (terms ++ more) (faces ++ further) = complete terms faces ++ complete more further := by
  induction terms generalizing faces with
  | nil =>
    rw [List.length_eq_zero_iff.mp enough]
    rfl
  | cons term terms inductionHypothesis =>
    rw [Dice.demandAll_cons, List.length_append, Dice.length_demand] at enough
    have first : term.count.toNat ≤ faces.length := by omega
    have rest : complete (terms ++ more) (faces.drop term.count.toNat ++ further) =
        complete terms (faces.drop term.count.toNat) ++ complete more further :=
      inductionHypothesis (by rw [List.length_drop]; omega)
    simp only [List.cons_append, complete, List.length_append, first, Nat.le_add_right_of_le,
      ↓reduceIte, List.take_append_of_le_length, List.drop_append_of_le_length, rest]

/-- Faces for a term before others complete its throw. -/
theorem Throw.complete_cons_of_length {term : Dice} {faces : List UInt64}
    (enough : faces.length = term.demand.length) (more : List Dice) (further : List UInt64) :
    complete (term :: more) (faces ++ further) = ⟨term, faces⟩ :: complete more further := by
  rw [Dice.length_demand] at enough
  rw [complete, if_pos (by simp [enough]), List.take_left' enough, List.drop_left' enough]

/-- Too few faces for the terms complete no throw of further terms. -/
theorem Throw.complete_append_of_lt {terms : List Dice} {faces : List UInt64}
    (few : faces.length < (Dice.demandAll terms).length) (more : List Dice) :
    complete (terms ++ more) faces = complete terms faces := by
  induction terms generalizing faces with
  | nil => cases few
  | cons term terms inductionHypothesis =>
    rw [Dice.demandAll_cons, List.length_append, Dice.length_demand] at few
    rw [List.cons_append, complete, complete]
    split
    · rename_i first
      rw [inductionHypothesis]
      rw [List.length_drop]
      omega
    · rfl

/-- The throws are of these terms, each shows as many faces as its term counts, and one after the
other they show these faces. -/
structure Throw.Covers (terms : List Dice) (faces : List UInt64) (throws : List Throw) : Prop where
  terms : throws.map Throw.dice = terms
  counts : ∀ throw ∈ throws, throw.faces.length = throw.dice.count.toNat
  faces : throws.flatMap Throw.faces = faces

/-- No throw covers no term. -/
theorem Throw.Covers.nil : Covers [] [] [] :=
  ⟨rfl, List.forall_mem_nil _, rfl⟩

/-- One more throw in front covers one more term, with its faces in front. -/
theorem Throw.Covers.cons {throw : Throw} {terms : List Dice} {faces : List UInt64}
    {throws : List Throw} (whole : throw.faces.length = throw.dice.count.toNat)
    (others : Covers terms faces throws) :
    Covers (throw.dice :: terms) (throw.faces ++ faces) (throw :: throws) where
  terms := by rw [List.map_cons, others.terms]
  counts := List.forall_mem_cons.mpr ⟨whole, others.counts⟩
  faces := by rw [List.flatMap_cons, others.faces]

/-- Faces for all of the terms complete all throws. -/
theorem Throw.covers_complete {terms : List Dice} {faces : List UInt64}
    (enough : faces.length = (Dice.demandAll terms).length) :
    Covers terms faces (complete terms faces) := by
  induction terms generalizing faces with
  | nil =>
    rw [List.length_eq_zero_iff.mp enough]
    exact .nil
  | cons term terms inductionHypothesis =>
    rw [Dice.demandAll_cons, List.length_append, Dice.length_demand] at enough
    have first : term.count.toNat ≤ faces.length := by omega
    have whole : (⟨term, faces.take term.count.toNat⟩ : Throw).faces.length = term.count.toNat :=
      List.length_take_of_le first
    have others : Covers terms (faces.drop term.count.toNat) _ :=
      inductionHypothesis (by rw [List.length_drop]; omega)
    have all := Covers.cons whole others
    rw [List.take_append_drop] at all
    rwa [complete, if_pos first]

namespace Table

/-- The table after asking for the dice of some terms. -/
def played (table : Table σ) (terms : List Dice) (answers : Answers σ) : Table σ :=
  ⟨answers.state, table.throws ++ Throw.complete terms answers.faces⟩

/-- Terms that were thrown to the end before others were are on record before them. -/
theorem played_played {terms : List Dice} {answers : Answers σ}
    (enough : answers.faces.length = (Dice.demandAll terms).length) (table : Table σ)
    (more : List Dice) (later : Answers σ) :
    (table.played terms answers).played more later =
      table.played (terms ++ more) (later.behind answers.tosses) := by
  have both := Throw.complete_append_of_length enough more later.faces
  simp only [played, Answers.faces_behind, Answers.state_behind, Answers.map_face_tosses, both,
    List.append_assoc]

/-- The action asks for the dice of these terms in order and for no others, whatever they show. It
makes its value of the faces and puts the terms that were thrown to the end on record. -/
def Plays (roller : Roller σ) (terms : List Dice) (value : List UInt64 → α)
    (action : EStateM Fault (Table σ) α) : Prop :=
  ∀ table, action table =
    (roller.ask (Dice.demandAll terms) table.state).result value
      (table.played terms (roller.ask (Dice.demandAll terms) table.state))

namespace Plays

variable {roller : Roller σ} {terms more : List Dice} {value : List UInt64 → α}
  {action : EStateM Fault (Table σ) α}

/-- Nothing is thrown for a value that is there already. -/
theorem pure (roller : Roller σ) (result : α) :
    Plays roller [] (fun _ => result) (pure result) := by
  intro table
  simp [played, Throw.complete, Dice.demandAll, ask, Answers.result]
  rfl

/-- Throwing a term plays that term. -/
theorem throwDice (roller : Roller σ) (term : Dice) :
    Plays roller [term] id (Table.throwDice roller term) := by
  intro table
  rw [Table.throwDice, Roller.rollDice, rollEach_eq, ← Dice.demand, Dice.demandAll_cons]
  simp only [Dice.demandAll, List.flatMap_nil, List.append_nil]
  cases faulted : (roller.ask term.demand table.state).fault? with
  | none =>
    have enough := length_faces_of_complete faulted
    rw [Dice.length_demand] at enough
    simp [Answers.result_of_complete faulted, played, Throw.complete, ← enough]
  | some fault =>
    have few := (ask_of_fault faulted).1
    rw [Dice.length_demand] at few
    simp [Answers.result_of_fault faulted, played, Throw.complete, few]

/-- One action after another plays the terms of both, and the second makes its value of the faces
that the first left over. -/
theorem bind {next : α → EStateM Fault (Table σ) β} {further : α → List UInt64 → β}
    (first : Plays roller terms value action)
    (second : ∀ a, Plays roller more (further a) (next a)) :
    Plays roller (terms ++ more)
      (fun faces => further (value (faces.take (Dice.demandAll terms).length))
        (faces.drop (Dice.demandAll terms).length))
      (action >>= next) := by
  intro table
  have early := first table
  rw [Dice.demandAll_append, ask_append]
  cases faulted : (roller.ask (Dice.demandAll terms) table.state).fault? with
  | some fault =>
    rw [Answers.result_of_fault faulted] at early
    rw [bind_of_error early, Answers.andThen_of_fault faulted, Answers.result_of_fault faulted]
    rw [played, played, Throw.complete_append_of_lt (ask_of_fault faulted).1]
  | none =>
    rw [Answers.result_of_complete faulted] at early
    rw [bind_of_ok early, second, Answers.andThen_of_complete faulted]
    have enough := length_faces_of_complete faulted
    rw [Answers.result_behind, played_played enough]
    simp only [Answers.map_face_tosses, List.take_left' enough, List.drop_left' enough]
    rfl

/-- A function of the value is a function of the faces. -/
theorem map (plays : Plays roller terms value action) (f : α → β) :
    Plays roller terms (fun faces => f (value faces)) (do return f (← action)) := by
  intro table
  have done := plays table
  cases faulted : (roller.ask (Dice.demandAll terms) table.state).fault? with
  | none =>
    rw [Answers.result_of_complete faulted] at done ⊢
    exact bind_of_ok done
  | some fault =>
    rw [Answers.result_of_fault faulted] at done ⊢
    exact bind_of_error done

end Plays

end Table

/-- Throwing a term for its sum plays that term. -/
theorem Dice.plays (roller : Roller σ) (term : Dice) :
    Table.Plays roller [term] Outcome.ofFaces (term.roll roller) :=
  (Table.Plays.throwDice roller term).map Outcome.ofFaces

namespace Expr

/-- The dice that the expression shows, from left to right. -/
def demand (expr : Expr) : List UInt64 :=
  Dice.demandAll expr.diceTerms

/-- The outcome of the expression if its dice show these faces. -/
def outcome : Expr → List UInt64 → Outcome
  | num value, _ => Outcome.ofNum value
  | dice _, faces => Outcome.ofFaces faces
  | binary op left right, faces =>
    Outcome.combine op (left.outcome (faces.take left.demand.length))
      (right.outcome (faces.drop left.demand.length))
  | keep which term amount, faces =>
    Outcome.keep which (Outcome.ofFaces (faces.take term.count.toNat))
      (amount.outcome (faces.drop term.count.toNat))
  | group inner, faces => Outcome.group (inner.outcome faces)

/-- An evaluation plays the dice terms of its expression, and its outcome is made of the faces. -/
theorem plays (roller : Roller σ) (expr : Expr) :
    Table.Plays roller expr.diceTerms expr.outcome (expr.eval roller) := by
  induction expr with
  | num value => exact .pure roller (Outcome.ofNum value)
  | dice term => exact term.plays roller
  | binary op left right leftHypothesis rightHypothesis =>
    exact leftHypothesis.bind fun leftOutcome => rightHypothesis.map (Outcome.combine op leftOutcome)
  | keep which term amount inductionHypothesis =>
    have both := (term.plays roller).bind fun rolled =>
      inductionHypothesis.map (Outcome.keep which rolled)
    rw [Dice.length_demandAll_singleton] at both
    exact both
  | group inner inductionHypothesis => exact inductionHypothesis.map Outcome.group

theorem demand_binary (op : Operator) (left right : Expr) :
    (binary op left right).demand = left.demand ++ right.demand :=
  Dice.demandAll_append left.diceTerms right.diceTerms

theorem demand_keep (which : Keep) (term : Dice) (amount : Expr) :
    (keep which term amount).demand = term.demand ++ amount.demand :=
  Dice.demandAll_cons term amount.diceTerms

/-- Faces for two rows of dice are faces for the first row and then faces for the second. -/
theorem exists_split {faces first second : List UInt64}
    (enough : faces.length = (first ++ second).length) :
    ∃ early late, faces = early ++ late ∧ early.length = first.length ∧
      late.length = second.length := by
  rw [List.length_append] at enough
  refine ⟨faces.take first.length, faces.drop first.length, ?_, ?_, ?_⟩
  · rw [List.take_append_drop]
  · rw [List.length_take]
    omega
  · rw [List.length_drop]
    omega

/-- The left operand takes the faces of its dice, and the right one those behind them. -/
theorem outcome_binary_append {left : Expr} {faces : List UInt64}
    (enough : faces.length = left.demand.length) (op : Operator) (right : Expr)
    (more : List UInt64) :
    (binary op left right).outcome (faces ++ more) =
      Outcome.combine op (left.outcome faces) (right.outcome more) := by
  rw [outcome, List.take_left' enough, List.drop_left' enough]

/-- The dice of a keep modifier take their faces, and the amount those behind them. -/
theorem outcome_keep_append {term : Dice} {faces : List UInt64}
    (enough : faces.length = term.demand.length) (which : Keep) (amount : Expr)
    (more : List UInt64) :
    (keep which term amount).outcome (faces ++ more) =
      Outcome.keep which (Outcome.ofFaces faces) (amount.outcome more) := by
  rw [Dice.length_demand] at enough
  rw [outcome, List.take_left' enough, List.drop_left' enough]

/-- The sum of the counts of all dice terms, without a bound. -/
def diceTotal : Expr → Nat
  | num _ => 0
  | dice term => term.count.toNat
  | binary _ left right => left.diceTotal + right.diceTotal
  | keep _ term amount => term.count.toNat + amount.diceTotal
  | group inner => inner.diceTotal

/-- There are as many dice as the terms count. -/
theorem length_demand (expr : Expr) : expr.demand.length = expr.diceTotal := by
  induction expr with
  | num value => rfl
  | dice term => exact Dice.length_demandAll_singleton term
  | binary op left right leftHypothesis rightHypothesis =>
    rw [demand_binary, List.length_append, leftHypothesis, rightHypothesis, diceTotal]
  | keep which term amount inductionHypothesis =>
    rw [demand_keep, List.length_append, Dice.length_demand, inductionHypothesis, diceTotal]
  | group inner inductionHypothesis => exact inductionHypothesis

end Expr

/-- The table with the dice that were answered so far on record beside the state. -/
def Table.watched (table : Table σ) (seen : List Toss) : Table (Observed σ) :=
  ⟨⟨table.state, seen⟩, table.throws⟩

namespace Expr

/-- An evaluation from one table to another comes to an outcome after the roller answered just these
dice, all of them put on record as they were rolled. -/
def Rolls (roller : Roller σ) (expr : Expr) (before : Table σ) (tosses : List Toss)
    (outcome : Outcome) (after : Table σ) : Prop :=
  expr.eval roller.observed (before.watched []) = .ok outcome (after.watched tosses)

variable {roller : Roller σ} {expr : Expr} {before after : Table σ} {tosses : List Toss}
  {outcome : Outcome} {fault : Fault}

/-- Keeping a record does not disturb an evaluation. -/
theorem eval_watched (roller : Roller σ) (expr : Expr) (table : Table σ) (seen : List Toss) :
    expr.eval roller.observed (table.watched seen) =
      (roller.ask expr.demand table.state).result expr.outcome
        ((table.played expr.diceTerms (roller.ask expr.demand table.state)).watched
          (seen ++ (roller.ask expr.demand table.state).tosses)) := by
  rw [expr.plays roller.observed (table.watched seen), ← demand]
  simp only [Table.watched, ask_observed]
  rfl

/-- An evaluation comes to an outcome exactly if the roller answers every die of the expression. The
outcome is that of the faces, and every term of the expression is put on record with its faces. -/
theorem rolls_iff :
    expr.Rolls roller before tosses outcome after ↔
      roller.ask expr.demand before.state = ⟨tosses, after.state, none⟩ ∧
        outcome = expr.outcome (tosses.map Toss.face) ∧
        after.throws = before.throws ++ Throw.complete expr.diceTerms (tosses.map Toss.face) := by
  rw [Rolls, eval_watched, Answers.result_eq_ok_iff]
  obtain ⟨answered, state, fault?⟩ := roller.ask expr.demand before.state
  obtain ⟨left, throws⟩ := after
  simp only [Answers.faces, Table.watched, Table.played, List.nil_append, Table.mk.injEq,
    Observed.mk.injEq, Answers.mk.injEq]
  constructor
  · rintro ⟨rfl, rfl, ⟨rfl, rfl⟩, rfl⟩
    exact ⟨⟨rfl, rfl, rfl⟩, rfl, rfl⟩
  · rintro ⟨⟨rfl, rfl, rfl⟩, rfl, rfl⟩
    exact ⟨rfl, rfl, ⟨rfl, rfl⟩, rfl⟩

/-- What comes to an outcome does so with a record of its dice, and the other way round. -/
theorem eval_eq_ok_iff :
    expr.eval roller before = .ok outcome after ↔
      ∃ tosses, expr.Rolls roller before tosses outcome after := by
  simp only [rolls_iff]
  rw [expr.plays roller before, ← demand, Answers.result_eq_ok_iff]
  obtain ⟨answered, state, fault?⟩ := roller.ask expr.demand before.state
  obtain ⟨left, throws⟩ := after
  simp only [Answers.faces, Table.played, Table.mk.injEq, Answers.mk.injEq]
  constructor
  · rintro ⟨rfl, rfl, rfl, rfl⟩
    exact ⟨answered, ⟨rfl, rfl, rfl⟩, rfl, rfl⟩
  · rintro ⟨tosses, ⟨rfl, rfl, rfl⟩, rfl, rfl⟩
    exact ⟨rfl, rfl, rfl, rfl⟩

/-- What comes to no outcome met a fault of the roller at one of its dice. -/
theorem faultsIn_of_eval (failed : expr.eval roller before = .error fault after) :
    roller.FaultsIn expr.demand before.state fault after.state := by
  rw [expr.plays roller before, ← demand, Answers.result_eq_error_iff] at failed
  obtain ⟨faulted, rfl⟩ := failed
  exact (ask_of_fault faulted).2

/-- The dice that an evaluation rolls are those of the expression. -/
theorem Rolls.sides_eq (rolls : expr.Rolls roller before tosses outcome after) :
    tosses.map Toss.sides = expr.demand := by
  have answered := (rolls_iff.mp rolls).1
  have same := sides_of_complete (congrArg Answers.fault? answered)
  rwa [answered] at same

/-- There is one face for each die of the expression. -/
theorem Rolls.length_faces (rolls : expr.Rolls roller before tosses outcome after) :
    (tosses.map Toss.face).length = expr.demand.length := by
  rw [← rolls.sides_eq, List.length_map, List.length_map]

end Expr

end DiceLang
