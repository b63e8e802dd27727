import DiceLang.Roller.Basic

/-!
# Asking a roller

Whatever rolls dice asks a roller for one die after the other. Asking for a list of dice keeps
everything that comes of it together: the dice that were answered, the state that is left, and the
fault if there was one. A list that is asked for in two parts is asked for as a whole, unless the
roller faults in the first part.
-/

namespace DiceLang

namespace Roller

variable {σ τ α β : Type}

/-- What came of asking for some dice. -/
structure Answers (σ : Type) where
  /-- The dice that were answered, in order. -/
  tosses : List Toss
  state : σ
  /-- Why not all dice were answered, if so. -/
  fault? : Option Fault

namespace Answers

/-- The faces that the dice showed, in order. -/
def faces (answers : Answers σ) : List UInt64 :=
  answers.tosses.map Toss.face

/-- The answers with some earlier dice before them. -/
def behind (earlier : List Toss) (answers : Answers σ) : Answers σ :=
  { answers with tosses := earlier ++ answers.tosses }

/-- Asks on, unless the roller has faulted. -/
def andThen (answers : Answers σ) (next : σ → Answers σ) : Answers σ :=
  match answers.fault? with
  | none => (next answers.state).behind answers.tosses
  | some _ => answers

/-- How a computation ends that makes its value of the faces and leaves a state of its own. -/
def result (answers : Answers σ) (value : List UInt64 → α) (left : τ) :
    EStateM.Result Fault τ α :=
  match answers.fault? with
  | none => .ok (value answers.faces) left
  | some fault => .error fault left

variable {answers : Answers σ} {fault : Fault}

@[simp]
theorem tosses_behind (earlier : List Toss) (answers : Answers σ) :
    (answers.behind earlier).tosses = earlier ++ answers.tosses :=
  rfl

@[simp]
theorem state_behind (earlier : List Toss) (answers : Answers σ) :
    (answers.behind earlier).state = answers.state :=
  rfl

@[simp]
theorem fault?_behind (earlier : List Toss) (answers : Answers σ) :
    (answers.behind earlier).fault? = answers.fault? :=
  rfl

theorem map_face_tosses (answers : Answers σ) : answers.tosses.map Toss.face = answers.faces :=
  rfl

@[simp]
theorem faces_behind (earlier : List Toss) (answers : Answers σ) :
    (answers.behind earlier).faces = earlier.map Toss.face ++ answers.faces :=
  List.map_append

theorem andThen_of_complete (complete : answers.fault? = none) (next : σ → Answers σ) :
    answers.andThen next = (next answers.state).behind answers.tosses := by
  simp only [andThen, complete]

theorem andThen_of_fault (faulted : answers.fault? = some fault) (next : σ → Answers σ) :
    answers.andThen next = answers := by
  simp only [andThen, faulted]

theorem result_of_complete (complete : answers.fault? = none) (value : List UInt64 → α) (left : τ) :
    answers.result value left = .ok (value answers.faces) left := by
  simp only [result, complete]

theorem result_of_fault (faulted : answers.fault? = some fault) (value : List UInt64 → α)
    (left : τ) : answers.result value left = .error fault left := by
  simp only [result, faulted]

/-- A computation succeeds exactly if all dice are answered. -/
theorem result_eq_ok_iff {value : List UInt64 → α} {left after : τ} {made : α} :
    answers.result value left = .ok made after ↔
      answers.fault? = none ∧ value answers.faces = made ∧ left = after := by
  cases faulted : answers.fault? with
  | none => simp [result_of_complete faulted]
  | some fault => simp [result_of_fault faulted]

/-- A computation fails exactly if the roller faults. -/
theorem result_eq_error_iff {value : List UInt64 → α} {left after : τ} :
    answers.result value left = .error fault after ↔
      answers.fault? = some fault ∧ left = after := by
  cases faulted : answers.fault? with
  | none => simp [result_of_complete faulted]
  | some other => simp [result_of_fault faulted]

theorem result_behind (earlier : List Toss) (answers : Answers σ) (value : List UInt64 → α)
    (left : τ) :
    (answers.behind earlier).result value left =
      answers.result (fun faces => value (earlier.map Toss.face ++ faces)) left := by
  simp only [result, fault?_behind, faces_behind]

theorem andThen_assoc (answers : Answers σ) (next further : σ → Answers σ) :
    (answers.andThen next).andThen further =
      answers.andThen fun state => (next state).andThen further := by
  obtain ⟨tosses, state, fault?⟩ := answers
  cases fault? with
  | some fault => rfl
  | none =>
    cases more : (next state).fault? with
    | none => simp [andThen, behind, more]
    | some fault => simp [andThen, behind, more]

end Answers

/-- Asks for a single die. -/
def askOne (roller : Roller σ) (sides : UInt64) (state : σ) : Answers σ :=
  match roller.rollDie sides state with
  | .ok face next => ⟨[⟨sides, face⟩], next, none⟩
  | .error fault next => ⟨[], next, some fault⟩

/-- Asks for dice with the given sides, one after the other, until the roller faults. -/
def ask (roller : Roller σ) : List UInt64 → σ → Answers σ
  | [], state => ⟨[], state, none⟩
  | sides :: rest, state => (roller.askOne sides state).andThen (roller.ask rest)

/-- Asked for these dice from a state on, the roller answers some and faults at the next one, which
leaves it in another state. -/
inductive FaultsIn (roller : Roller σ) : List UInt64 → σ → Fault → σ → Prop where
  | now {sides : UInt64} {rest : List UInt64} {state left : σ} {fault : Fault}
      (failed : roller.rollDie sides state = .error fault left) :
      FaultsIn roller (sides :: rest) state fault left
  | later {sides face : UInt64} {rest : List UInt64} {state next left : σ} {fault : Fault}
      (rolled : roller.rollDie sides state = .ok face next)
      (others : FaultsIn roller rest next fault left) :
      FaultsIn roller (sides :: rest) state fault left

variable {roller : Roller σ} {asked more : List UInt64} {sides face : UInt64} {state next : σ}
  {fault : Fault}

theorem ask_cons_of_ok (rolled : roller.rollDie sides state = .ok face next)
    (rest : List UInt64) :
    roller.ask (sides :: rest) state = (roller.ask rest next).behind [⟨sides, face⟩] := by
  simp only [ask, askOne, rolled, Answers.andThen]

theorem ask_cons_of_error (failed : roller.rollDie sides state = .error fault next)
    (rest : List UInt64) : roller.ask (sides :: rest) state = ⟨[], next, some fault⟩ := by
  simp only [ask, askOne, failed, Answers.andThen]

/-- A roller that answers every die does not fault at any. -/
theorem not_faultsIn {left : σ}
    (steady : ∀ sides state, ∃ face next, roller.rollDie sides state = .ok face next) :
    ¬ roller.FaultsIn asked state fault left := by
  intro faults
  induction faults with
  | @now sides rest state left fault failed =>
    obtain ⟨face, next, rolled⟩ := steady sides state
    rw [rolled] at failed
    cases failed
  | later rolled others inductionHypothesis => exact inductionHypothesis

/-- Either all dice are answered as they were asked for, or the roller faults on the way. -/
theorem ask_spec (roller : Roller σ) (asked : List UInt64) (state : σ) :
    ((roller.ask asked state).fault? = none ∧
      (roller.ask asked state).tosses.map Toss.sides = asked) ∨
    ∃ fault, (roller.ask asked state).fault? = some fault ∧
      (roller.ask asked state).tosses.length < asked.length ∧
      roller.FaultsIn asked state fault (roller.ask asked state).state := by
  induction asked generalizing state with
  | nil => exact .inl ⟨rfl, rfl⟩
  | cons sides asked inductionHypothesis =>
    cases rolled : roller.rollDie sides state with
    | ok face next =>
      rw [ask_cons_of_ok rolled]
      rcases inductionHypothesis next with ⟨complete, same⟩ | ⟨fault, faulted, few, others⟩
      · exact .inl ⟨complete, by simp [same]⟩
      · exact .inr ⟨fault, faulted, by simpa using few, .later rolled others⟩
    | error fault next =>
      rw [ask_cons_of_error rolled]
      exact .inr ⟨fault, rfl, Nat.succ_pos _, .now rolled⟩

/-- Without a fault every die is answered. -/
theorem sides_of_complete (complete : (roller.ask asked state).fault? = none) :
    (roller.ask asked state).tosses.map Toss.sides = asked := by
  rcases roller.ask_spec asked state with ⟨-, same⟩ | ⟨fault, faulted, -, -⟩
  · exact same
  · rw [complete] at faulted
    cases faulted

/-- Without a fault there is one face for each die. -/
theorem length_faces_of_complete (complete : (roller.ask asked state).fault? = none) :
    (roller.ask asked state).faces.length = asked.length := by
  have same := congrArg List.length (sides_of_complete complete)
  simpa [Answers.faces] using same

/-- With a fault there are fewer faces than dice, and the fault is the roller's own. -/
theorem ask_of_fault (faulted : (roller.ask asked state).fault? = some fault) :
    (roller.ask asked state).faces.length < asked.length ∧
      roller.FaultsIn asked state fault (roller.ask asked state).state := by
  rcases roller.ask_spec asked state with ⟨complete, -⟩ | ⟨other, same, few, own⟩
  · rw [complete] at faulted
    cases faulted
  · rw [faulted, Option.some.injEq] at same
    exact ⟨by simpa [Answers.faces] using few, same ▸ own⟩

/-- Dice can be asked for in two parts. -/
theorem ask_append (roller : Roller σ) (asked more : List UInt64) (state : σ) :
    roller.ask (asked ++ more) state = (roller.ask asked state).andThen (roller.ask more) := by
  induction asked generalizing state with
  | nil => rfl
  | cons sides asked inductionHypothesis =>
    have later : roller.ask (asked ++ more) =
        fun state => (roller.ask asked state).andThen (roller.ask more) :=
      funext inductionHypothesis
    rw [List.cons_append, ask, later, ← Answers.andThen_assoc, ← ask]

/-- Two parts that are answered in full are so one after the other. -/
theorem ask_append_eq {tosses : List Toss} {stop : σ}
    (answered : roller.ask (asked ++ more) state = ⟨tosses, stop, none⟩) :
    ∃ first second middle, tosses = first ++ second ∧
      roller.ask asked state = ⟨first, middle, none⟩ ∧
      roller.ask more middle = ⟨second, stop, none⟩ := by
  rw [ask_append] at answered
  cases early : roller.ask asked state with
  | mk first middle fault? =>
    rw [early] at answered
    cases fault? with
    | some fault => cases answered
    | none =>
      cases late : roller.ask more middle with
      | mk second stop fault? =>
        rw [Answers.andThen_of_complete rfl, late] at answered
        cases answered
        exact ⟨first, second, middle, rfl, rfl, late⟩

/-- A step that succeeds hands its value on. -/
theorem bind_of_ok {action : EStateM Fault τ α} {further : α → EStateM Fault τ β} {start stop : τ}
    {value : α} (ok : action start = .ok value stop) :
    (action >>= further) start = further value stop := by
  simp only [bind, EStateM.bind, ok]

/-- A step that fails is the last one. -/
theorem bind_of_error {action : EStateM Fault τ α} {further : α → EStateM Fault τ β}
    {start stop : τ} (failed : action start = .error fault stop) :
    (action >>= further) start = .error fault stop := by
  simp only [bind, EStateM.bind, failed]

/-- Rolling equal dice is asking for them. -/
theorem rollEach_eq (roller : Roller σ) (sides : UInt64) (count : Nat) (state : σ) :
    roller.rollEach sides count state =
      (roller.ask (List.replicate count sides) state).result id
        (roller.ask (List.replicate count sides) state).state := by
  induction count generalizing state with
  | zero => rfl
  | succ count inductionHypothesis =>
    rw [rollEach, List.replicate_succ]
    cases rolled : roller.rollDie sides state with
    | error fault next =>
      rw [bind_of_error rolled, ask_cons_of_error rolled, Answers.result_of_fault rfl]
    | ok face next =>
      rw [bind_of_ok rolled, ask_cons_of_ok rolled]
      have tail := inductionHypothesis next
      cases faulted : (roller.ask (List.replicate count sides) next).fault? with
      | none =>
        rw [Answers.result_of_complete faulted] at tail
        rw [bind_of_ok tail, Answers.result_of_complete (by simpa using faulted)]
        rfl
      | some fault =>
        rw [Answers.result_of_fault faulted] at tail
        rw [bind_of_error tail, Answers.result_of_fault (by simpa using faulted)]
        rfl

theorem observed_of_ok (rolled : roller.rollDie sides state = .ok face next) (seen : List Toss) :
    roller.observed.rollDie sides ⟨state, seen⟩ = .ok face ⟨next, seen ++ [⟨sides, face⟩]⟩ := by
  simp only [observed, rolled]

theorem observed_of_error (failed : roller.rollDie sides state = .error fault next)
    (seen : List Toss) : roller.observed.rollDie sides ⟨state, seen⟩ = .error fault ⟨next, seen⟩ := by
  simp only [observed, failed]

/-- Keeping a record does not change what is answered, and all that is answered is on record. -/
theorem ask_observed (roller : Roller σ) (asked : List UInt64) (state : σ) (seen : List Toss) :
    roller.observed.ask asked ⟨state, seen⟩ =
      ⟨(roller.ask asked state).tosses,
        ⟨(roller.ask asked state).state, seen ++ (roller.ask asked state).tosses⟩,
        (roller.ask asked state).fault?⟩ := by
  induction asked generalizing state seen with
  | nil => simp [ask]
  | cons sides asked inductionHypothesis =>
    cases rolled : roller.rollDie sides state with
    | ok face next =>
      rw [ask_cons_of_ok rolled, ask_cons_of_ok (observed_of_ok rolled seen), inductionHypothesis]
      simp [Answers.behind]
    | error fault next =>
      rw [ask_cons_of_error rolled, ask_cons_of_error (observed_of_error rolled seen)]
      simp

end Roller

end DiceLang
