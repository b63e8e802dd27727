import DiceLang.Proofs.Rolling.Tree
import DiceLang.Roller.Script

/-!
# Sessions with a scripted roller

A scripted roller can be kept across any number of operations. Whatever these are, each takes the
next values of the script, as many as it rolls dice, and fails if there are not so many, which uses
the script up. Looking into the script in between changes how it is kept, but not what is left of
it, and nothing else matters to an operation.
-/

namespace DiceLang

open Roller

variable {σ τ α : Type}

namespace Roller

/-- What comes of a roll, with its state seen through a view. -/
def viewed (view : σ → τ) : EStateM.Result Fault σ α → EStateM.Result Fault τ α
  | .ok value state => .ok value (view state)
  | .error fault state => .error fault (view state)

/-- What comes of asking for dice, with the state seen through a view. -/
def Answers.viewed (view : σ → τ) (answers : Answers σ) : Answers τ :=
  ⟨answers.tosses, view answers.state, answers.fault?⟩

/-- Seen through a view of its states, a roller that rolls each die as another one does answers any
dice as that one does. -/
theorem ask_viewed {roller : Roller σ} {other : Roller τ} {view : σ → τ}
    (alike : ∀ sides state,
      other.rollDie sides (view state) = viewed view (roller.rollDie sides state))
    (asked : List UInt64) (state : σ) :
    other.ask asked (view state) = (roller.ask asked state).viewed view := by
  induction asked generalizing state with
  | nil => rfl
  | cons sides asked inductionHypothesis =>
    have same := alike sides state
    cases rolled : roller.rollDie sides state with
    | ok face next =>
      rw [rolled] at same
      rw [ask_cons_of_ok rolled, ask_cons_of_ok same, inductionHypothesis]
      rfl
    | error fault next =>
      rw [rolled] at same
      rw [ask_cons_of_error rolled, ask_cons_of_error same]
      rfl

/-- A script answers dice from its front, and finishes if there are too many. -/
theorem ask_scripted (asked values : List UInt64) :
    (scripted.ask asked values).faces = values.take asked.length ∧
      (scripted.ask asked values).state = values.drop asked.length ∧
      (scripted.ask asked values).fault? =
        if asked.length ≤ values.length then none else some .scriptFinished := by
  induction asked generalizing values with
  | nil => simp [ask, Answers.faces]
  | cons sides asked inductionHypothesis =>
    cases values with
    | nil =>
      have finished : scripted.rollDie sides [] = .error .scriptFinished [] := rfl
      rw [ask_cons_of_error finished]
      simp [Answers.faces]
    | cons value values =>
      have rolled : scripted.rollDie sides (value :: values) = .ok value values := rfl
      obtain ⟨faces, state, fault?⟩ := inductionHypothesis values
      rw [ask_cons_of_ok rolled]
      simp [faces, state, fault?]

/-- A script that is looked into is rolled as the list of the values that are left. -/
theorem rollDie_lookahead (sides : UInt64) (script : Script) :
    scripted.rollDie sides script.left = viewed Script.left (lookahead.rollDie sides script) := by
  have value := script.next_fst
  have others := script.left_next_snd
  cases taken : script.next with
  | mk first? rest =>
    simp only [taken] at value others
    cases left : script.left with
    | nil =>
      simp only [left, List.head?_nil, List.tail_nil] at value others
      simp only [lookahead, taken, value, viewed, others]
      rfl
    | cons face faces =>
      simp only [left, List.head?_cons, List.tail_cons] at value others
      simp only [lookahead, taken, value, viewed, others]
      rfl

/-- A script that is looked into answers dice from the front of what is left, and finishes if there
are too many. -/
theorem ask_lookahead (asked : List UInt64) (script : Script) :
    (lookahead.ask asked script).faces = script.left.take asked.length ∧
      (lookahead.ask asked script).state.left = script.left.drop asked.length ∧
      (lookahead.ask asked script).fault? =
        if asked.length ≤ script.left.length then none else some .scriptFinished := by
  have plain := ask_scripted asked script.left
  rw [ask_viewed rollDie_lookahead] at plain
  exact plain

end Roller

/-- What can be done with a scripted roller. -/
inductive Operation where
  /-- Roll a single die. -/
  | die (sides : UInt64)
  /-- Roll the dice of a term for their faces. -/
  | dice (term : Dice)
  /-- Roll the dice of a term for their sum. -/
  | sum (term : Dice)
  /-- Evaluate an expression. -/
  | eval (expr : Expr)
  /-- Ask whether a value is left. -/
  | canRoll

/-- What an operation answers. -/
inductive Answer where
  | face (shown : UInt64)
  | faces (shown : List UInt64)
  | outcome (result : Outcome)
  | canRoll (more : Bool)

/-- The faces that an answer shows, in order. -/
def Answer.shown : Answer → List UInt64
  | face shown => [shown]
  | faces shown => shown
  | outcome result => result.leafFaces
  | canRoll _ => []

/-- Acts on a fresh table, of which only the state of the roller is kept. -/
def Table.onFresh (action : EStateM Fault (Table σ) α) : EStateM Fault σ α :=
  fun state => Roller.viewed Table.state (action (.fresh state))

namespace Operation

/-- Carries the operation out. -/
def perform : Operation → EStateM Fault Script Answer
  | die sides => do return .face (← lookahead.rollDie sides)
  | dice term => do return .faces (← lookahead.rollDice term)
  | sum term => do return .outcome (← Table.onFresh (term.roll lookahead))
  | eval expr => do return .outcome (← Table.onFresh (expr.eval lookahead))
  | canRoll => fun script => .ok (.canRoll script.canRoll.1) script.canRoll.2

/-- How many dice the operation rolls. -/
def need : Operation → Nat
  | die _ => 1
  | dice term => term.count.toNat
  | sum term => term.count.toNat
  | eval expr => expr.diceTotal
  | canRoll => 0

/-- What the operation answers if enough values are left, which are these. -/
def answer : Operation → List UInt64 → Answer
  | die _, left => .face (left.headD 0)
  | dice term, left => .faces (left.take term.count.toNat)
  | sum term, left => .outcome (.ofFaces (left.take term.count.toNat))
  | eval expr, left => .outcome (expr.outcome (left.take expr.diceTotal))
  | canRoll, left => .canRoll (!left.isEmpty)

end Operation

/-- The action takes so many values off the front of a script and makes its answer of what was left,
or it uses the script up because not so many are left. -/
def Script.Takes (count : Nat) (answer : List UInt64 → α) (action : EStateM Fault Script α) : Prop :=
  ∀ script : Script,
    (count ≤ script.left.length →
      ∃ after, action script = .ok (answer script.left) after ∧
        after.left = script.left.drop count) ∧
    (script.left.length < count →
      ∃ after, action script = .error .scriptFinished after ∧ after.left = [])

namespace Script.Takes

variable {count : Nat} {answer : List UInt64 → α} {action : EStateM Fault Script α}

/-- A function of what an action answers is a function of what was left. -/
theorem map {β : Type} (takes : Takes count answer action) (f : α → β) :
    Takes count (fun left => f (answer left)) (do return f (← action)) := by
  intro script
  constructor
  · intro enough
    obtain ⟨after, done, rest⟩ := (takes script).1 enough
    exact ⟨after, bind_of_ok done, rest⟩
  · intro short
    obtain ⟨after, failed, rest⟩ := (takes script).2 short
    exact ⟨after, bind_of_error failed, rest⟩

/-- An action that asks for dice and makes its value of their faces takes one value for each. -/
theorem of_ask {asked : List UInt64} {value : List UInt64 → α}
    (asks : ∀ script, action script =
      (lookahead.ask asked script).result value (lookahead.ask asked script).state) :
    Takes asked.length (fun left => value (left.take asked.length)) action := by
  intro script
  obtain ⟨faces, rest, fault?⟩ := ask_lookahead asked script
  rw [asks]
  constructor
  · intro enough
    rw [if_pos enough] at fault?
    rw [Answers.result_of_complete fault?, faces]
    exact ⟨_, rfl, rest⟩
  · intro short
    rw [if_neg (Nat.not_le_of_lt short)] at fault?
    rw [Answers.result_of_fault fault?]
    rw [List.drop_eq_nil_of_le (Nat.le_of_lt short)] at rest
    exact ⟨_, rfl, rest⟩

/-- What is played on a fresh table takes one value for each die of the terms. -/
theorem onFresh {terms : List Dice} {value : List UInt64 → α}
    {action : EStateM Fault (Table Script) α} (plays : Table.Plays lookahead terms value action) :
    Takes (Dice.demandAll terms).length
      (fun left => value (left.take (Dice.demandAll terms).length)) (Table.onFresh action) := by
  refine of_ask fun script => ?_
  rw [Table.onFresh, plays]
  cases faulted : (lookahead.ask (Dice.demandAll terms) script).fault? <;>
    simp [Table.fresh, Answers.result, faulted, viewed, Table.played]

end Script.Takes

namespace Operation

/-- Every operation takes as many values as it rolls dice. -/
theorem takes (operation : Operation) :
    Script.Takes operation.need operation.answer operation.perform := by
  cases operation with
  | die sides =>
    have asks (script : Script) : lookahead.rollDie sides script =
        (lookahead.ask [sides] script).result (fun faces => faces.headD 0)
          (lookahead.ask [sides] script).state := by
      cases rolled : lookahead.rollDie sides script with
      | ok face next =>
        rw [ask_cons_of_ok rolled]
        rfl
      | error fault next =>
        rw [ask_cons_of_error rolled]
        rfl
    have first (left : List UInt64) : (left.take 1).headD 0 = left.headD 0 := by
      cases left <;> rfl
    have rolls := (Script.Takes.of_ask asks).map Answer.face
    simp only [List.length_singleton, first] at rolls
    exact rolls
  | dice term =>
    have rolls := Script.Takes.of_ask (rollEach_eq lookahead term.sides term.count.toNat)
    rw [List.length_replicate] at rolls
    exact rolls.map Answer.faces
  | sum term =>
    have rolls := Script.Takes.onFresh (term.plays lookahead)
    rw [Dice.length_demandAll_singleton] at rolls
    exact rolls.map Answer.outcome
  | eval expr =>
    have rolls := Script.Takes.onFresh (expr.plays lookahead)
    rw [← Expr.demand, expr.length_demand] at rolls
    exact rolls.map Answer.outcome
  | canRoll =>
    intro script
    refine ⟨fun _ => ⟨script.look, ?_, script.left_look⟩, fun short => by cases short⟩
    rw [answer, ← script.canRoll_fst]
    rfl

/-- The answer shows the values that the operation takes. -/
theorem shown_answer {operation : Operation} {left : List UInt64}
    (enough : operation.need ≤ left.length) :
    (operation.answer left).shown = left.take operation.need := by
  cases operation with
  | die sides =>
    cases left with
    | nil => cases enough
    | cons value left => rfl
  | dice term => rfl
  | sum term => exact Outcome.leafFaces_ofFaces _
  | eval expr =>
    refine Expr.leafFaces_outcome ?_
    rw [expr.length_demand]
    exact List.length_take_of_le enough
  | canRoll => rfl

/-- Carries the operation out whether or not it fails. -/
def attempt (operation : Operation) (script : Script) : Except Fault Answer × Script :=
  match operation.perform script with
  | .ok answer after => (.ok answer, after)
  | .error fault after => (.error fault, after)

variable {operation : Operation} {script : Script}

theorem attempt_of_enough (enough : operation.need ≤ script.left.length) :
    (operation.attempt script).1 = .ok (operation.answer script.left) := by
  obtain ⟨after, done, -⟩ := (operation.takes script).1 enough
  simp only [attempt, done]

theorem attempt_of_short (short : script.left.length < operation.need) :
    (operation.attempt script).1 = .error .scriptFinished := by
  obtain ⟨after, failed, -⟩ := (operation.takes script).2 short
  simp only [attempt, failed]

/-- An operation takes its values off the script, or all that are left. -/
theorem left_attempt (operation : Operation) (script : Script) :
    (operation.attempt script).2.left = script.left.drop operation.need := by
  rcases Nat.lt_or_ge script.left.length operation.need with short | enough
  · obtain ⟨after, failed, used⟩ := (operation.takes script).2 short
    simp only [attempt, failed, used, List.drop_eq_nil_of_le (Nat.le_of_lt short)]
  · obtain ⟨after, done, rest⟩ := (operation.takes script).1 enough
    simp only [attempt, done, rest]

theorem attempt_canRoll (script : Script) :
    (attempt canRoll script).1 = .ok (.canRoll (!script.left.isEmpty)) :=
  attempt_of_enough (Nat.zero_le _)

/-- How a script is kept does not matter to an operation. -/
theorem attempt_congr {other : Script} (same : script.left = other.left) :
    (operation.attempt script).1 = (operation.attempt other).1 := by
  rcases Nat.lt_or_ge script.left.length operation.need with short | enough
  · rw [attempt_of_short short, attempt_of_short (same ▸ short)]
  · rw [attempt_of_enough enough, attempt_of_enough (same ▸ enough), same]

end Operation

/-- Carries operations out one after the other on the same roller, also after one has failed. -/
def session : List Operation → Script → List (Except Fault Answer) × Script
  | [], script => ([], script)
  | operation :: operations, script =>
    let (answer, after) := operation.attempt script
    let (answers, last) := session operations after
    (answer :: answers, last)

/-- How many dice the operations roll together. -/
def Operation.needOfAll : List Operation → Nat
  | [] => 0
  | operation :: operations => operation.need + needOfAll operations

section session

open Operation

variable {operations more : List Operation} {script other : Script}

theorem length_session (operations : List Operation) (script : Script) :
    (session operations script).1.length = operations.length := by
  induction operations generalizing script with
  | nil => rfl
  | cons operation operations inductionHypothesis =>
    exact congrArg (· + 1) (inductionHypothesis _)

/-- A session can be held in two parts. -/
theorem session_append (operations more : List Operation) (script : Script) :
    session (operations ++ more) script =
      ((session operations script).1 ++ (session more (session operations script).2).1,
        (session more (session operations script).2).2) := by
  induction operations generalizing script with
  | nil => rfl
  | cons operation operations inductionHypothesis =>
    simp only [List.cons_append, session, inductionHypothesis]

theorem needOfAll_append (operations more : List Operation) :
    needOfAll (operations ++ more) = needOfAll operations + needOfAll more := by
  induction operations with
  | nil => exact (Nat.zero_add _).symm
  | cons operation operations inductionHypothesis =>
    rw [List.cons_append, needOfAll, needOfAll, inductionHypothesis, Nat.add_assoc]

/-- A session takes the values for all its dice off the script, or all that are left. -/
theorem left_session (operations : List Operation) (script : Script) :
    (session operations script).2.left = script.left.drop (needOfAll operations) := by
  induction operations generalizing script with
  | nil => rfl
  | cons operation operations inductionHypothesis =>
    simp only [session, inductionHypothesis, left_attempt, List.drop_drop, needOfAll]

/-- How a script is kept does not matter to a session. -/
theorem session_congr (same : script.left = other.left) :
    (session operations script).1 = (session operations other).1 := by
  induction operations generalizing script other with
  | nil => rfl
  | cons operation operations inductionHypothesis =>
    have rest : (operation.attempt script).2.left = (operation.attempt other).2.left := by
      rw [left_attempt, left_attempt, same]
    have later := inductionHypothesis rest
    simp only [session, later, attempt_congr same]

/-- If the values suffice, the answers show them once each and in order. -/
theorem shown_session (enough : needOfAll operations ≤ script.left.length) :
    ∃ given : List Answer, (session operations script).1 = given.map .ok ∧
      given.flatMap Answer.shown = script.left.take (needOfAll operations) := by
  induction operations generalizing script with
  | nil => exact ⟨[], rfl, rfl⟩
  | cons operation operations inductionHypothesis =>
    rw [needOfAll] at enough
    have first : operation.need ≤ script.left.length := by omega
    have others : needOfAll operations ≤ (operation.attempt script).2.left.length := by
      rw [left_attempt, List.length_drop]
      omega
    obtain ⟨given, answers, shown⟩ := inductionHypothesis others
    refine ⟨operation.answer script.left :: given, ?_, ?_⟩
    · simp only [session, answers, attempt_of_enough first, List.map_cons]
    · rw [List.flatMap_cons, shown_answer first, shown, left_attempt, needOfAll, List.take_add]

/-- What an operation answers is decided by what the operations before it left. -/
theorem session_getElem? (earlier later : List Operation) (operation : Operation)
    (script : Script) :
    (session (earlier ++ operation :: later) script).1[earlier.length]? =
      some (operation.attempt (session earlier script).2).1 := by
  rw [session_append, ← length_session earlier script, List.getElem?_append_right (Nat.le_refl _),
    Nat.sub_self]
  rfl

/-- An operation takes the next values off a script, as many as it rolls dice, and shows them; or it
fails because not so many are left, and then it leaves none. -/
structure Operation.Serves (operation : Operation) (left : List UInt64)
    (answer : Except Fault Answer) (rest : List UInt64) : Prop where
  enough : operation.need ≤ left.length →
    (∃ given, answer = .ok given ∧ given.shown = left.take operation.need) ∧
      rest = left.drop operation.need
  short : left.length < operation.need → answer = .error .scriptFinished ∧ rest = []

theorem Operation.attempt_serves (operation : Operation) (script : Script) :
    operation.Serves script.left (operation.attempt script).1
      (operation.attempt script).2.left where
  enough := fun enough =>
    ⟨⟨_, attempt_of_enough enough, shown_answer enough⟩, left_attempt operation script⟩
  short := fun short =>
    ⟨attempt_of_short short, by rw [left_attempt, List.drop_eq_nil_of_le (Nat.le_of_lt short)]⟩

/-- Once an operation has failed, exactly the operations that roll a die fail. -/
theorem session_of_used {earlier : List Operation} {operation : Operation}
    (short : (session earlier script).2.left.length < operation.need)
    (middle others : List Operation) (next : Operation) :
    ∃ further, (session (earlier ++ operation :: (middle ++ next :: others)) script).1[
        (earlier ++ operation :: middle).length]? = some further ∧
      (next.need = 0 → ∃ given, further = .ok given) ∧
      (next.need ≠ 0 → further = .error .scriptFinished) := by
  have regrouped : earlier ++ operation :: (middle ++ next :: others) =
      (earlier ++ operation :: middle) ++ next :: others := by simp
  have used : (session (earlier ++ operation :: middle) script).2.left = [] := by
    rw [left_session, List.length_drop] at short
    rw [left_session, List.drop_eq_nil_iff, needOfAll_append, needOfAll]
    omega
  rw [regrouped, session_getElem?]
  refine ⟨_, rfl, fun none => ⟨_, attempt_of_enough ?_⟩, fun some => attempt_of_short ?_⟩
  · rw [none]
    exact Nat.zero_le _
  · rw [used]
    exact Nat.pos_of_ne_zero some

/-- Asking whether a value is left changes no other answer. -/
theorem session_canRoll (earlier later : List Operation) (script : Script) :
    ∃ first second, first.length = earlier.length ∧
      (session (earlier ++ .canRoll :: later) script).1 =
        first ++ .ok (.canRoll (!(session earlier script).2.left.isEmpty)) :: second ∧
      (session (earlier ++ later) script).1 = first ++ second := by
  have same : (session later (attempt .canRoll (session earlier script).2).2).1 =
      (session later (session earlier script).2).1 := by
    refine session_congr ?_
    rw [left_attempt, need, List.drop_zero]
  refine ⟨(session earlier script).1, (session later (session earlier script).2).1,
    length_session earlier script, ?_, ?_⟩
  · simp only [session_append, session, same, attempt_canRoll]
  · rw [session_append]

/-- A script that is kept across any operations hands out its values once each and in order. If they
suffice for all dice, the answers show them one after the other, and the others are left. Each
operation takes the block of values behind those of the operations before it, in the size that it
needs. It fails exactly if not so many are left; then nothing is, and of all later operations those
fail that roll a die. Asking whether a value is left answers just that, and without the question all
other operations answer the same. -/
theorem script_serves_each_value_once (values : List UInt64) (operations : List Operation) :
    ∃ answers last, session operations (.ofList values) = (answers, last) ∧
      answers.length = operations.length ∧ last.left = values.drop (needOfAll operations) ∧
      (needOfAll operations ≤ values.length →
        ∃ given : List Answer, answers = given.map .ok ∧
          given.flatMap Answer.shown = values.take (needOfAll operations)) ∧
      ∀ earlier operation later, operations = earlier ++ operation :: later →
        ∃ left answer rest, left = values.drop (needOfAll earlier) ∧
          (session earlier (.ofList values)).2.left = left ∧
          answers[earlier.length]? = some answer ∧
          (session (earlier ++ [operation]) (.ofList values)).2.left = rest ∧
          operation.Serves left answer rest ∧
          (left.length < operation.need → ∀ middle next others, later = middle ++ next :: others →
            ∃ further, answers[(earlier ++ operation :: middle).length]? = some further ∧
              (next.need = 0 → ∃ given, further = .ok given) ∧
              (next.need ≠ 0 → further = .error .scriptFinished)) ∧
          (operation = .canRoll → answer = .ok (.canRoll (!left.isEmpty)) ∧ rest = left ∧
            ∃ first second, first.length = earlier.length ∧ answers = first ++ answer :: second ∧
              (session (earlier ++ later) (.ofList values)).1 = first ++ second) := by
  refine ⟨_, _, rfl, length_session _ _, left_session _ _,
    @shown_session operations (.ofList values), ?_⟩
  rintro earlier operation later rfl
  have start := left_session earlier (.ofList values)
  have serves := operation.attempt_serves (session earlier (.ofList values)).2
  have stop : (session (earlier ++ [operation]) (.ofList values)).2 =
      (operation.attempt (session earlier (.ofList values)).2).2 := by
    rw [session_append]
    rfl
  rw [Script.left_ofList] at start
  rw [← stop, start] at serves
  refine ⟨_, _, _, rfl, start, session_getElem? _ _ _ _, rfl, serves, ?_, ?_⟩
  · rintro short middle next others rfl
    rw [← start] at short
    exact session_of_used short middle others next
  · rintro rfl
    have unasked := session_canRoll earlier later (.ofList values)
    rw [start] at unasked
    rw [stop, left_attempt, need, List.drop_zero, attempt_canRoll, start]
    exact ⟨rfl, rfl, unasked⟩

end session

end DiceLang
