import DiceLang.Proofs.Reading.Calls

/-!
# Reading comes to its end

What makes reading end is not that every token that is read leaves fewer tokens: the last one never
goes away. A primary begins at a later token than all primaries that were begun before it, be it
because a dice term or an opening parenthesis lies between them, or an operator, with which no
primary begins. The end of the one and the beginning of the other can be at the same token only if
that is an operator in the last place. Then the second primary is refused before it makes a call.
-/

namespace DiceLang.Expr

open Cursor Call

/-- In answering a call, a primary is begun inside of another one. -/
inductive BeginsInside (depth : Nat) (call : Call) (earlier later : Cursor) : Prop where
  | intro {left less : Nat} (outer : LeadsTo depth call left (primary earlier))
      (inner : LeadsTo left (primary earlier) less (primary later)) (deeper : less < left)

/-- In answering a call, a reader makes two calls in turn. There is a primary in the first one, which
arrives somewhere, and a primary in the second one. -/
inductive BeginsBehind (depth : Nat) (call : Call) (earlier arrived later : Cursor) : Prop where
  | intro {left less lesser : Nat} {caller first second : Call} {expr : Expr}
      (reached : LeadsTo depth call (left + 1) caller)
      (turn : caller.plan.AsksInTurn (answer left) first second)
      (done : first.answer left = .done expr arrived)
      (before : LeadsTo left first less (primary earlier))
      (behind : LeadsTo left second lesser (primary later))

/-- With so much depth, reading an expression from the tokens comes to its end. -/
structure ComesToEnd (tokens : Cursor) (depth : Nat) : Prop where
  /-- An expression or an error is the answer, and it is the same with every such depth. -/
  answers :
    (∃ parsed, parse tokens = .ok parsed ∧
      read depth .sum tokens = .done parsed.expr parsed.rest) ∨
    ∃ error, parse tokens = .error error ∧ read depth .sum tokens = .failed error
  /-- No call is left without depth. -/
  spared : ∀ left call, LeadsTo depth (.read .sum tokens) left call → left ≠ 0
  /-- No call begins before the one that it is made in, or past the last token. -/
  begins : ∀ left call less made, LeadsTo depth (.read .sum tokens) left call →
    LeadsTo left call less made → Onward call.cursor made.cursor
  /-- No call arrives before its beginning, or past the last token. -/
  arrives : ∀ left call expr rest, LeadsTo depth (.read .sum tokens) left call →
    call.answer left = .done expr rest → Onward call.cursor rest
  /-- A primary inside of another one begins at a later token. -/
  inside : ∀ earlier later, BeginsInside depth (.read .sum tokens) earlier later →
    later <:+ earlier ∧ later.length < earlier.length
  /-- A primary behind another one begins at a later token, too. -/
  behind : ∀ earlier arrived later,
    BeginsBehind depth (.read .sum tokens) earlier arrived later →
    later <:+ earlier ∧ later.length < earlier.length
  /-- It even begins at a later token than the one where the other has arrived, or it is refused at
  once. -/
  moves : ∀ earlier arrived later,
    BeginsBehind depth (.read .sum tokens) earlier arrived later →
    later <:+ arrived ∧ (later.length < arrived.length ∨ ∀ depth,
      readPrimary (depth + 1) later = .failed (.unexpected (next later).kind (next later).offset))

/-! ## Where calls begin -/

/-- A number is taken where one is next. -/
theorem expectNumber_eq_done_iff {tokens rest : Cursor} {value : UInt64} :
    expectNumber tokens = .done value rest ↔
      (next tokens).kind = .number value ∧ advance tokens = rest := by
  cases kind : (next tokens).kind <;> simp [expectNumber, kind, Token.Kind.literal?]

/-- A dice term takes a token away, because its letter is no number: it differs from the count before
it, and from the sides behind it. -/
theorem StartsDice.length_lt {tokens rest : Cursor} {term : Dice} (starts : StartsDice tokens)
    (done : Expr.readDice tokens = .done term rest) : rest.length < tokens.length := by
  have shorter (other : (second tokens).kind ≠ (next tokens).kind) :
      (advance tokens).length < tokens.length :=
    (Onward.advance tokens).length_lt (by rwa [next_advance])
  cases starts with
  | single dice =>
    have sides : Expr.readDice tokens =
        (expectNumber (advance tokens)).andThen fun sides rest => .done ⟨1, sides⟩ rest := by
      simp [Expr.readDice, expect, dice, Token.Kind.literal?]
    rw [sides, Attempt.andThen_eq_done_iff] at done
    obtain ⟨value, middle, taken, ⟨⟩⟩ := done
    obtain ⟨number, rfl⟩ := expectNumber_eq_done_iff.mp taken
    rw [next_advance] at number
    exact Nat.lt_of_le_of_lt (length_advance_le _) (shorter (by simp [dice, number]))
  | counted count number dice =>
    have sides : Expr.readDice tokens = (expectNumber (advance (advance tokens))).andThen
        fun sides rest => .done ⟨count, sides⟩ rest := by
      simp [Expr.readDice, expect, number, dice, Token.Kind.literal?]
    rw [sides, Attempt.andThen_eq_done_iff] at done
    obtain ⟨value, middle, taken, ⟨⟩⟩ := done
    obtain ⟨-, rfl⟩ := expectNumber_eq_done_iff.mp taken
    exact Nat.lt_of_le_of_lt (Nat.le_trans (length_advance_le _) (length_advance_le _))
      (shorter (by simp [dice, number]))

variable {tokens : Cursor} {answers : Call → Attempt Expr} {made first second : Call}

/-- The calls in a primary begin at a later token than the primary. -/
theorem length_lt_of_asks (grounded : Grounded tokens)
    (asks : (primary tokens).plan.Asks answers made) : made.cursor.length < tokens.length := by
  cases kind : (next tokens).kind with
  | dice =>
    simp only [plan, kind, Plan.asks_after_iff, Plan.asks_last_iff] at asks
    obtain ⟨term, rest, taken, rfl⟩ := asks
    exact (StartsDice.single kind).length_lt taken
  | number value =>
    by_cases isDice : (second tokens).kind = .dice
    · simp only [plan, kind, isDice, if_true, Plan.asks_after_iff, Plan.asks_last_iff] at asks
      obtain ⟨term, rest, taken, rfl⟩ := asks
      exact (StartsDice.counted value kind isDice).length_lt taken
    · simp [plan, kind, isDice] at asks
  | parenOpen =>
    simp only [plan, kind, Plan.asks_calls_iff, Plan.not_asks_ends, and_false, exists_false,
      or_false] at asks
    subst asks
    rcases advance_cases tokens (by simp [kind]) with shorter | ⟨-, single⟩
    · exact shorter ▸ Nat.lt_succ_self _
    · exact absurd kind (grounded _ (by rw [single]; rfl))
  | operator _ | keep _ | parenClose | ending => simp [plan, kind] at asks

/-- A chain makes calls from behind an operator on. -/
theorem onward_of_chain_asks {level : Precedence} {left : Expr}
    (moves : ∀ call expr rest, answers call = .done expr rest → Onward call.cursor rest)
    (asks : (chain level left tokens).plan.Asks answers made) :
    (∃ op, (next tokens).kind = .operator op) ∧ Onward (advance tokens) made.cursor := by
  rw [plan] at asks
  split at asks
  · rename_i op operator
    split at asks
    · refine ⟨⟨op, operator⟩, Plan.Forward.onward_of_asks moves ?_ asks⟩
      exact ⟨.refl _, fun right rest => .last (.refl rest) id⟩
    · simp at asks
  · simp at asks

/-- No primary that is done begins with an operator. -/
theorem not_operator_of_primary_done {depth : Nat} {expr : Expr} {rest : Cursor}
    (done : (primary tokens).answer depth = .done expr rest) (op : Operator) :
    (next tokens).kind ≠ .operator op := by
  intro operator
  cases depth with
  | zero => simp at done
  | succ depth => simp [answer, readPrimary, operator] at done

/-- Where two calls are made in turn, the second one extends the answer of the first one to a
chain. -/
theorem eq_chain_of_asksInTurn {call : Call}
    (turn : call.plan.AsksInTurn answers first second) :
    ∃ level left expr rest, answers first = .done expr rest ∧ second = chain level left rest := by
  cases call with
  | read level tokens =>
    rw [plan] at turn
    split at turn
    · simp at turn
    · simp only [Plan.asksInTurn_calls_iff, Plan.asks_last_iff, Plan.not_asksInTurn_last,
        or_false] at turn
      obtain ⟨expr, rest, done, rfl, rfl⟩ := turn
      exact ⟨level, expr, expr, rest, done, rfl⟩
  | chain level left tokens =>
    rw [plan] at turn
    split at turn
    · split at turn
      · simp only [Plan.asksInTurn_calls_iff, Plan.asks_last_iff, Plan.not_asksInTurn_last,
          or_false] at turn
        obtain ⟨expr, rest, done, rfl, rfl⟩ := turn
        exact ⟨level, _, expr, rest, done, rfl⟩
      · simp at turn
    · simp at turn
  | primary tokens =>
    rw [plan] at turn
    split at turn
    · simp at turn
    · split at turn <;> simp at turn
    all_goals simp at turn
  | keep term tokens =>
    rw [plan] at turn
    split at turn <;> simp at turn

/-! ## Primaries one after another -/

section Order

variable {depth : Nat} {call : Call} {earlier arrived later : Cursor}

/-- A primary inside of another one begins at a later token. -/
theorem BeginsInside.progress (inside : BeginsInside depth call earlier later)
    (grounded : Grounded call.cursor) : later <:+ earlier ∧ later.length < earlier.length := by
  obtain ⟨outer, inner, deeper⟩ := inside
  refine ⟨inner.onward.suffix, ?_⟩
  cases inner with
  | here => exact absurd deeper (Nat.lt_irrefl _)
  | through asks further =>
    exact Nat.lt_of_le_of_lt further.onward.suffix.length_le
      (length_lt_of_asks (outer.onward.grounded grounded) asks)

/-- Between a primary and the next one in turn is an operator, at which the first of the two calls
has arrived. -/
theorem BeginsBehind.operator (behind : BeginsBehind depth call earlier arrived later) :
    (∃ op, (next arrived).kind = .operator op) ∧ Onward (advance arrived) later := by
  obtain ⟨-, turn, done, -, behind⟩ := behind
  obtain ⟨level, left, expr, rest, same, rfl⟩ := eq_chain_of_asksInTurn turn
  cases done.symm.trans same
  cases behind with
  | through asks further =>
    obtain ⟨operator, onward⟩ := onward_of_chain_asks (onward_of_done _) asks
    exact ⟨operator, onward.trans further.onward⟩

/-- What is read in a call of two in turn ends before the operator between them, with which no
primary begins. -/
theorem BeginsBehind.length_lt (behind : BeginsBehind depth call earlier arrived later) :
    arrived <:+ earlier ∧ arrived.length < earlier.length := by
  obtain ⟨⟨op, operator⟩, -⟩ := behind.operator
  obtain ⟨-, -, done, before, -⟩ := behind
  obtain ⟨value, middle, primaryDone, onward⟩ := before.done done
  have moved := (onward_of_done _ _ _ _ primaryDone).trans onward
  refine ⟨moved.suffix, moved.length_lt ?_⟩
  rw [operator]
  exact (not_operator_of_primary_done primaryDone op).symm

/-- A primary behind another one begins at a later token than the one where the first of the calls
in turn has arrived, or it is refused at once. -/
theorem BeginsBehind.progress (behind : BeginsBehind depth call earlier arrived later) :
    later <:+ arrived ∧ (later.length < arrived.length ∨ ∀ depth, readPrimary (depth + 1) later =
      .failed (.unexpected (next later).kind (next later).offset)) := by
  obtain ⟨⟨op, operator⟩, onward⟩ := behind.operator
  refine ⟨onward.suffix.trans (Onward.advance arrived).suffix, ?_⟩
  rcases advance_cases arrived (by simp [operator]) with shorter | ⟨stuck, single⟩
  · have bounded := onward.suffix.length_le
    exact .inl (by omega)
  · -- The operator is the last token, so the primary begins with it.
    rw [stuck, single] at onward
    obtain rfl : later = arrived := onward.eq_of_singleton.trans single.symm
    exact .inr fun depth => by simp [readPrimary, operator]

end Order

/-- On tokens of which the last one opens no group, reading comes to its end, and the bound on its
depth, which is in proportion to the number of tokens, is never reached. -/
theorem reading_comes_to_end {tokens : Cursor} {depth : Nat} (grounded : Grounded tokens)
    (enough : depthBound tokens ≤ depth) : ComesToEnd tokens depth := by
  have same := read_eq_of_depthBound_le grounded enough
  have settled := read_depthBound_ne_exhausted grounded
  refine ⟨?answers, ?spared, fun _ _ _ _ _ inner => inner.onward,
    fun _ _ _ _ _ => onward_of_done _ _ _ _, fun _ _ inside => inside.progress grounded,
    fun _ _ _ behind => ?behind, fun _ _ _ behind => behind.progress⟩
  case answers =>
    rw [same, parse]
    cases answered : read (depthBound tokens) .sum tokens with
    | done expr rest => exact .inl ⟨⟨expr, rest⟩, rfl, rfl⟩
    | failed error => exact .inr ⟨error, rfl, rfl⟩
    | exhausted => exact absurd answered settled
  case spared =>
    rintro _ made reached rfl
    refine settled ?_
    rw [← same]
    exact answer_eq_exhausted_iff.mpr ⟨made, reached⟩
  case behind =>
    obtain ⟨suffix, shorter⟩ := behind.length_lt
    have onward := behind.progress.1
    exact ⟨onward.trans suffix, Nat.lt_of_le_of_lt onward.length_le shorter⟩

/-- A sum whose operator is the last token: the operator is read again where the right operand
should begin. -/
def openSum : List Token :=
  [⟨.number 1, "1", 0⟩, ⟨.operator .add, "+", 1⟩]

/-- The end of a reading that is stuck at its last token. -/
theorem reading_comes_to_end_openSum :
    (Grounded openSum ∧ depthBound openSum ≤ 16) ∧ ComesToEnd openSum 16 :=
  have grounded : Grounded openSum := by simp [Grounded, openSum]
  have enough : depthBound openSum ≤ 16 := by decide
  ⟨⟨grounded, enough⟩, reading_comes_to_end grounded enough⟩

/-- In that reading, the primary that is refused begins where the first operand ends. -/
example : BeginsBehind 16 (.read .sum openSum) openSum [⟨.operator .add, "+", 1⟩]
    [⟨.operator .add, "+", 1⟩] :=
  .intro .here (.now rfl .now) rfl (.through .now (.through .now .here))
    (.through .now (.through .now (.through .now .here)))

end DiceLang.Expr
