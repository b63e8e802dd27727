import DiceLang.Proofs.Reading.Depth

/-!
# The calls of the readers

The readers call each other. What one of them does with the answers of the calls that it makes is
its plan, which is a tree: it ends, or it makes a call and goes on with the answer. A call that may
use some depth runs its plan with the calls in it one level less deep, so what holds of every plan
holds of every reader, and the calls that are made can be spoken of.

More depth changes no answer, and depth is only exhausted by a chain of calls that is as long as the
depth. The cursor only moves onward, and it stays on the last token at the latest.
-/

namespace DiceLang

namespace Cursor

/-- A cursor that has only moved onward, and not past the last token. -/
structure Onward (before after : Cursor) : Prop where
  suffix : after <:+ before
  last : after.getLast? = before.getLast?

namespace Onward

variable {before middle after : Cursor}

theorem refl (tokens : Cursor) : Onward tokens tokens :=
  ⟨List.suffix_refl tokens, rfl⟩

theorem trans (first : Onward before middle) (second : Onward middle after) :
    Onward before after :=
  ⟨second.suffix.trans first.suffix, second.last.trans first.last⟩

theorem advance (tokens : Cursor) : Onward tokens (advance tokens) := by
  match tokens with
  | [] => exact .refl _
  | [_] => exact .refl _
  | token :: other :: rest => exact ⟨List.suffix_cons token _, rfl⟩

theorem of_walk {seen : List Token} (walk : Walk before seen after) : Onward before after := by
  induction walk with
  | stay => exact .refl _
  | take further inductionHypothesis => exact (Onward.advance _).trans inductionHypothesis

theorem grounded (onward : Onward before after) (grounded : Grounded before) : Grounded after := by
  rw [Grounded, onward.last]
  exact grounded

/-- A cursor at a token of another kind has moved. -/
theorem length_lt (onward : Onward before after) (other : (next after).kind ≠ (next before).kind) :
    after.length < before.length := by
  refine Nat.lt_of_le_of_ne onward.suffix.length_le fun same => other ?_
  rw [onward.suffix.eq_of_length same]

/-- Where only one token is left, the cursor stays. -/
theorem eq_of_singleton {token : Token} (onward : Onward [token] after) : after = [token] := by
  refine onward.suffix.eq_of_length (Nat.le_antisymm onward.suffix.length_le ?_)
  refine List.length_pos_iff.mpr fun none => ?_
  have last := onward.last
  simp [none] at last

end Onward

end Cursor

/-- Two steps are done when the second is done from where the first has arrived. -/
theorem Attempt.andThen_eq_done_iff {α β : Type} {attempt : Attempt α}
    {goOn : α → Cursor → Attempt β} {answer : β} {rest : Cursor} :
    attempt.andThen goOn = .done answer rest ↔
      ∃ value middle, attempt = .done value middle ∧ goOn value middle = .done answer rest := by
  cases attempt <;> simp [and_assoc]

/-- Nothing is left to do with what was read. -/
@[simp]
theorem Attempt.andThen_self {α : Type} (attempt : Attempt α) :
    (attempt.andThen fun value rest => .done value rest) = attempt := by
  cases attempt <;> rfl

namespace Expr

open Cursor

/-- A call of one of the readers, apart from the depth that it may use. -/
inductive Call where
  | read (level : Precedence) (tokens : Cursor)
  | chain (level : Precedence) (left : Expr) (tokens : Cursor)
  | primary (tokens : Cursor)
  | keep (term : Dice) (tokens : Cursor)

/-- What is left to do for a call: nothing, or to go on with the answer of a further call. -/
inductive Plan where
  | ends (attempt : Attempt Expr)
  | calls (call : Call) (goOn : Expr → Cursor → Plan)

namespace Plan

/-- Carries a plan out, given the answers of all calls. -/
def run (answer : Call → Attempt Expr) : Plan → Attempt Expr
  | ends attempt => attempt
  | calls call goOn => (answer call).andThen fun expr rest => (goOn expr rest).run answer

/-- Goes on with what was read without a call. -/
def after {α : Type} (attempt : Attempt α) (goOn : α → Cursor → Plan) : Plan :=
  match attempt with
  | .done value rest => goOn value rest
  | .failed error => ends (.failed error)
  | .exhausted => ends .exhausted

/-- Makes a call and ends as it does, with something made of its answer. -/
def last (call : Call) (made : Expr → Expr) : Plan :=
  calls call fun expr rest => ends (.done (made expr) rest)

/-- Given the answers, the plan comes to this call. -/
inductive Asks (answer : Call → Attempt Expr) : Plan → Call → Prop where
  | now {call : Call} {goOn : Expr → Cursor → Plan} : Asks answer (calls call goOn) call
  | later {call made : Call} {goOn : Expr → Cursor → Plan} {expr : Expr} {rest : Cursor}
      (done : answer call = .done expr rest) (further : Asks answer (goOn expr rest) made) :
      Asks answer (calls call goOn) made

/-- Given the answers, the plan comes to the second call after the first one has been answered. -/
inductive AsksInTurn (answer : Call → Attempt Expr) : Plan → Call → Call → Prop where
  | now {call made : Call} {goOn : Expr → Cursor → Plan} {expr : Expr} {rest : Cursor}
      (done : answer call = .done expr rest) (further : Asks answer (goOn expr rest) made) :
      AsksInTurn answer (calls call goOn) call made
  | later {call first second : Call} {goOn : Expr → Cursor → Plan} {expr : Expr} {rest : Cursor}
      (done : answer call = .done expr rest)
      (further : AsksInTurn answer (goOn expr rest) first second) :
      AsksInTurn answer (calls call goOn) first second

end Plan

namespace Call

/-- Where the call begins to read. -/
def cursor : Call → Cursor
  | read _ tokens => tokens
  | chain _ _ tokens => tokens
  | primary tokens => tokens
  | keep _ tokens => tokens

/-- What the call answers if it may use so much depth. -/
def answer (depth : Nat) : Call → Attempt Expr
  | read level tokens => Expr.read depth level tokens
  | chain level left tokens => Expr.readChain depth level left tokens
  | primary tokens => Expr.readPrimary depth tokens
  | keep term tokens => Expr.readKeep depth term tokens

/-- What the call does, apart from the depth. -/
def plan : Call → Plan
  | read level tokens =>
    if level = .primary then
      .last (primary tokens) id
    else
      .calls (read level.tighter tokens) fun first rest => .last (chain level first rest) id
  | chain level left tokens =>
    match (next tokens).kind with
    | .operator op =>
      if op.precedence = level then
        .calls (read level.tighter (advance tokens)) fun right rest =>
          .last (chain level (binary op left right) rest) id
      else
        .ends (.done left tokens)
    | _ => .ends (.done left tokens)
  | primary tokens =>
    match (next tokens).kind with
    | .dice => .after (readDice tokens) fun term rest => .last (keep term rest) id
    | .number value =>
      if (second tokens).kind = .dice then
        .after (readDice tokens) fun term rest => .last (keep term rest) id
      else
        .ends (.done (num value) (advance tokens))
    | .parenOpen =>
      .calls (read .sum (advance tokens)) fun inner rest =>
        .ends ((expect .parenClose .parenClose rest).andThen fun _ rest => .done (group inner) rest)
    | .operator _ | .keep _ | .parenClose | .ending =>
      .ends (.failed (.unexpected (next tokens).kind (next tokens).offset))
  | keep term tokens =>
    match (next tokens).kind with
    | .keep which => .last (primary (advance tokens)) (Expr.keep which term)
    | _ => .ends (.done (dice term) tokens)

/-- Answered with so much depth, the first call leads to the second one, which is left with so
much. -/
inductive LeadsTo : Nat → Call → Nat → Call → Prop where
  | here {depth : Nat} {call : Call} : LeadsTo depth call depth call
  | through {depth less : Nat} {call made last : Call} (asks : call.plan.Asks (answer depth) made)
      (further : LeadsTo depth made less last) : LeadsTo (depth + 1) call less last

end Call

/-! ## What a plan does -/

namespace Plan

variable {answer other : Call → Attempt Expr} {plan : Plan} {call made second : Call}
  {expr : Expr} {start rest : Cursor}

@[simp]
theorem run_ends (attempt : Attempt Expr) : (ends attempt).run answer = attempt :=
  rfl

@[simp]
theorem run_calls (call : Call) (goOn : Expr → Cursor → Plan) :
    (calls call goOn).run answer =
      (answer call).andThen fun expr rest => (goOn expr rest).run answer :=
  rfl

@[simp]
theorem run_after {α : Type} (attempt : Attempt α) (goOn : α → Cursor → Plan) :
    (after attempt goOn).run answer =
      attempt.andThen fun value rest => (goOn value rest).run answer := by
  cases attempt <;> rfl

@[simp]
theorem run_last (call : Call) (made : Expr → Expr) :
    (last call made).run answer =
      (answer call).andThen fun expr rest => .done (made expr) rest :=
  rfl

@[simp]
theorem not_asks_ends (attempt : Attempt Expr) : ¬ (ends attempt).Asks answer made :=
  nofun

@[simp]
theorem asks_calls_iff {goOn : Expr → Cursor → Plan} :
    (calls call goOn).Asks answer made ↔
      made = call ∨
        ∃ expr rest, answer call = .done expr rest ∧ (goOn expr rest).Asks answer made := by
  constructor
  · rintro (_ | ⟨done, further⟩)
    · exact .inl rfl
    · exact .inr ⟨_, _, done, further⟩
  · rintro (rfl | ⟨expr, rest, done, further⟩)
    · exact .now
    · exact .later done further

@[simp]
theorem asks_after_iff {α : Type} {attempt : Attempt α} {goOn : α → Cursor → Plan} :
    (after attempt goOn).Asks answer made ↔
      ∃ value rest, attempt = .done value rest ∧ (goOn value rest).Asks answer made := by
  cases attempt <;> simp [after, and_assoc]

@[simp]
theorem asks_last_iff {ending : Expr → Expr} : (last call ending).Asks answer made ↔ made = call := by
  simp [last]

@[simp]
theorem not_asksInTurn_ends (attempt : Attempt Expr) :
    ¬ (ends attempt).AsksInTurn answer made second :=
  nofun

@[simp]
theorem asksInTurn_calls_iff {goOn : Expr → Cursor → Plan} :
    (calls call goOn).AsksInTurn answer made second ↔
      ∃ expr rest, answer call = .done expr rest ∧
        (made = call ∧ (goOn expr rest).Asks answer second ∨
          (goOn expr rest).AsksInTurn answer made second) := by
  constructor
  · rintro (⟨done, further⟩ | ⟨done, further⟩)
    · exact ⟨_, _, done, .inl ⟨rfl, further⟩⟩
    · exact ⟨_, _, done, .inr further⟩
  · rintro ⟨expr, rest, done, ⟨rfl, further⟩ | further⟩
    · exact .now done further
    · exact .later done further

@[simp]
theorem asksInTurn_after_iff {α : Type} {attempt : Attempt α} {goOn : α → Cursor → Plan} :
    (after attempt goOn).AsksInTurn answer made second ↔
      ∃ value rest, attempt = .done value rest ∧
        (goOn value rest).AsksInTurn answer made second := by
  cases attempt <;> simp [after, and_assoc]

@[simp]
theorem not_asksInTurn_last {ending : Expr → Expr} :
    ¬ (last call ending).AsksInTurn answer made second := by
  simp [last]

/-- A plan that has the answers of all its calls is not changed by further answers. -/
theorem run_of_agrees (agrees : ∀ call, answer call ≠ .exhausted → other call = answer call)
    (settled : plan.run answer ≠ .exhausted) : plan.run other = plan.run answer := by
  induction plan with
  | ends attempt => rfl
  | calls call goOn inductionHypothesis =>
    rw [run_calls] at settled
    have answered : answer call ≠ .exhausted := by
      intro exhausted
      rw [exhausted] at settled
      exact settled rfl
    rw [run_calls, run_calls, agrees call answered]
    cases answeredWith : answer call with
    | done expr rest =>
      rw [answeredWith] at settled
      exact inductionHypothesis expr rest settled
    | failed error => rfl
    | exhausted => rfl

/-- From the cursor on, the plan only moves onward, and it needs no depth but for its calls. -/
def Forward (start : Cursor) : Plan → Prop
  | ends attempt =>
    attempt ≠ .exhausted ∧ ∀ expr rest, attempt = .done expr rest → Onward start rest
  | calls call goOn => Onward start call.cursor ∧ ∀ expr rest, Forward rest (goOn expr rest)

theorem Forward.done (onward : Onward start rest) (expr : Expr) :
    Forward start (ends (.done expr rest)) := by
  refine ⟨by simp, fun _ _ same => ?_⟩
  cases same
  exact onward

theorem Forward.failed (error : ParseError) : Forward start (ends (.failed error)) :=
  ⟨by simp, by simp⟩

theorem Forward.last (onward : Onward start call.cursor) (made : Expr → Expr) :
    Forward start (last call made) :=
  ⟨onward, fun expr rest => .done (.refl rest) (made expr)⟩

/-- A forward plan exhausts the depth exactly if one of its calls does. -/
theorem Forward.run_eq_exhausted_iff (forward : Forward start plan) :
    plan.run answer = .exhausted ↔ ∃ made, plan.Asks answer made ∧ answer made = .exhausted := by
  induction plan generalizing start with
  | ends attempt =>
    constructor
    · intro exhausted
      exact absurd exhausted forward.1
    · rintro ⟨made, asks, -⟩
      cases asks
  | calls call goOn inductionHypothesis =>
    rw [run_calls]
    constructor
    · intro exhausted
      cases answered : answer call with
      | done expr rest =>
        rw [answered, Attempt.andThen_done] at exhausted
        obtain ⟨made, asks, gaveUp⟩ := (inductionHypothesis expr rest (forward.2 _ _)).mp exhausted
        exact ⟨made, .later answered asks, gaveUp⟩
      | failed error =>
        rw [answered] at exhausted
        cases exhausted
      | exhausted => exact ⟨call, .now, answered⟩
    · rintro ⟨made, asks, gaveUp⟩
      cases asks with
      | now => rw [gaveUp, Attempt.andThen_exhausted]
      | later answered further =>
        rw [answered, Attempt.andThen_done]
        exact (inductionHypothesis _ _ (forward.2 _ _)).mpr ⟨made, further, gaveUp⟩

section Onward

variable (moves : ∀ call expr rest, answer call = .done expr rest → Onward call.cursor rest)

include moves

/-- A forward plan arrives onward from where it begins. -/
theorem Forward.onward_of_done (forward : Forward start plan)
    (done : plan.run answer = .done expr rest) : Onward start rest := by
  induction plan generalizing start with
  | ends attempt => exact forward.2 _ _ done
  | calls call goOn inductionHypothesis =>
    obtain ⟨value, middle, answered, further⟩ := Attempt.andThen_eq_done_iff.mp done
    have called := forward.1.trans (moves _ _ _ answered)
    exact called.trans (inductionHypothesis value middle (forward.2 _ _) further)

/-- The calls of a forward plan begin onward from where it begins. -/
theorem Forward.onward_of_asks (forward : Forward start plan) (asks : plan.Asks answer made) :
    Onward start made.cursor := by
  induction asks generalizing start with
  | now => exact forward.1
  | later answered further inductionHypothesis =>
    exact (forward.1.trans (moves _ _ _ answered)).trans (inductionHypothesis (forward.2 _ _))

/-- If a forward plan is done, so were its calls, and it arrives onward from where they did. -/
theorem Forward.done_of_asks (forward : Forward start plan) (asks : plan.Asks answer made)
    (done : plan.run answer = .done expr rest) :
    ∃ value middle, answer made = .done value middle ∧ Onward middle rest := by
  induction asks generalizing start with
  | now =>
    obtain ⟨value, middle, answered, further⟩ := Attempt.andThen_eq_done_iff.mp done
    exact ⟨value, middle, answered, (forward.2 _ _).onward_of_done moves further⟩
  | later answered further inductionHypothesis =>
    rw [run_calls, answered, Attempt.andThen_done] at done
    exact inductionHypothesis (forward.2 _ _) done

end Onward

end Plan

/-! ## What a call does -/

namespace Call

variable {call made : Call} {depth less : Nat} {expr : Expr} {rest : Cursor}

@[simp]
theorem answer_zero (call : Call) : call.answer 0 = .exhausted := by
  cases call <;> simp [answer, Expr.read, readChain, readPrimary, readKeep]

/-- A call runs its plan with one level less. -/
theorem answer_succ (depth : Nat) (call : Call) :
    call.answer (depth + 1) = call.plan.run (answer depth) := by
  cases call with
  | read level tokens => cases level <;> simp [answer, plan, Expr.read]
  | chain level left tokens =>
    cases kind : (next tokens).kind with
    | operator op =>
      by_cases same : op.precedence = level <;> simp [answer, plan, readChain, kind, same]
    | _ => simp [answer, plan, readChain, kind]
  | primary tokens =>
    cases kind : (next tokens).kind with
    | number value =>
      by_cases isDice : (second tokens).kind = .dice <;>
        simp [answer, plan, readPrimary, kind, isDice]
    | _ => simp [answer, plan, readPrimary, kind]
  | keep term tokens =>
    cases kind : (next tokens).kind <;> simp [answer, plan, readKeep, kind]

/-- The plan of a call moves onward from where the call begins. -/
theorem forward (call : Call) : call.plan.Forward call.cursor := by
  have dice {tokens : Cursor} (starts : StartsDice tokens) : Plan.Forward tokens
      (.after (readDice tokens) fun term rest => .last (keep term rest) id) := by
    obtain ⟨settled, walks⟩ := starts.readDice
    cases taken : readDice tokens with
    | done term rest =>
      obtain ⟨seen, walk⟩ := walks term rest taken
      exact Plan.Forward.last (.of_walk walk) id
    | failed error => exact Plan.Forward.failed error
    | exhausted => exact absurd taken settled
  cases call with
  | read level tokens =>
    rw [plan]
    split
    · exact .last (.refl tokens) id
    · exact ⟨.refl tokens, fun first rest => .last (.refl rest) id⟩
  | chain level left tokens =>
    rw [plan]
    split
    · split
      · exact ⟨.advance tokens, fun right rest => .last (.refl rest) id⟩
      · exact .done (.refl tokens) left
    · exact .done (.refl tokens) left
  | primary tokens =>
    rw [plan]
    split
    · rename_i isDice
      exact dice (.single isDice)
    · rename_i value number
      split
      · rename_i isDice
        exact dice (.counted value number isDice)
      · exact .done (.advance tokens) _
    · refine ⟨.advance tokens, fun inner rest => ?_⟩
      simp only [expect]
      split
      · exact .done (.advance rest) _
      · exact .failed _
    all_goals exact .failed _
  | keep term tokens =>
    rw [plan]
    split
    · exact .last (.advance tokens) _
    · exact .done (.refl tokens) _

/-- A call that is done has only moved onward. -/
theorem onward_of_done (depth : Nat) (call : Call) (expr : Expr) (rest : Cursor)
    (done : call.answer depth = .done expr rest) : Onward call.cursor rest := by
  induction depth generalizing call expr rest with
  | zero => simp at done
  | succ depth inductionHypothesis =>
    rw [answer_succ] at done
    exact call.forward.onward_of_done inductionHypothesis done

/-- One more level of depth changes no answer. -/
theorem answer_succ_eq (settled : call.answer depth ≠ .exhausted) :
    call.answer (depth + 1) = call.answer depth := by
  induction depth generalizing call with
  | zero => simp at settled
  | succ depth inductionHypothesis =>
    rw [answer_succ] at settled
    rw [answer_succ, answer_succ depth]
    exact Plan.run_of_agrees (fun _ => inductionHypothesis) settled

/-- More depth changes no answer. -/
theorem answer_eq_of_le {more : Nat} (settled : call.answer depth ≠ .exhausted)
    (enough : depth ≤ more) : call.answer more = call.answer depth := by
  induction enough with
  | refl => rfl
  | step further inductionHypothesis =>
    rw [answer_succ_eq (inductionHypothesis ▸ settled), inductionHypothesis]

/-- Deeper than the bound, an expression at the front of grounded tokens is read the same. -/
theorem read_eq_of_depthBound_le {tokens : Cursor} (grounded : Grounded tokens)
    (enough : depthBound tokens ≤ depth) :
    Expr.read depth .sum tokens = Expr.read (depthBound tokens) .sum tokens :=
  have settled : (read .sum tokens).answer (depthBound tokens) ≠ .exhausted :=
    read_depthBound_ne_exhausted grounded
  answer_eq_of_le settled enough

/-! ### The calls that a call leads to -/

/-- A call exhausts the depth exactly if it leads to a call for which none is left. -/
theorem answer_eq_exhausted_iff :
    call.answer depth = .exhausted ↔ ∃ made, LeadsTo depth call 0 made := by
  induction depth generalizing call with
  | zero => exact ⟨fun _ => ⟨call, .here⟩, fun _ => answer_zero call⟩
  | succ depth inductionHypothesis =>
    rw [answer_succ, call.forward.run_eq_exhausted_iff]
    constructor
    · rintro ⟨middle, asks, exhausted⟩
      obtain ⟨made, further⟩ := inductionHypothesis.mp exhausted
      exact ⟨made, .through asks further⟩
    · rintro ⟨made, further⟩
      cases further with
      | through asks further => exact ⟨_, asks, inductionHypothesis.mpr ⟨made, further⟩⟩

/-- A call leads onward only. -/
theorem LeadsTo.onward (reached : LeadsTo depth call less made) :
    Onward call.cursor made.cursor := by
  induction reached with
  | here => exact .refl _
  | through asks further inductionHypothesis =>
    exact ((forward _).onward_of_asks (onward_of_done _) asks).trans inductionHypothesis

/-- If a call is done, so are the calls that it leads to, and it arrives onward from where they
did. -/
theorem LeadsTo.done (reached : LeadsTo depth call less made)
    (done : call.answer depth = .done expr rest) :
    ∃ value middle, made.answer less = .done value middle ∧ Onward middle rest := by
  induction reached generalizing expr rest with
  | here => exact ⟨expr, rest, done, .refl rest⟩
  | through asks further inductionHypothesis =>
    rw [answer_succ] at done
    obtain ⟨_, _, answered, onward⟩ := (forward _).done_of_asks (onward_of_done _) asks done
    obtain ⟨value, middle, same, onwardYet⟩ := inductionHypothesis answered
    exact ⟨value, middle, same, onwardYet.trans onward⟩

end Call

end Expr

end DiceLang
