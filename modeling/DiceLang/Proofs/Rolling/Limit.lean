import DiceLang.Proofs.Rolling.Written
import DiceLang.Roll

/-!
# The limit on dice

A text is rolled only if it can be read and shows no more dice than allowed. The dice are counted in
words, but a limit below the largest word is held against their true number, because a clamped count
is still over it. Whatever is refused leaves the roller as it was, and what is let through asks the
roller for exactly the dice that were counted.
-/

namespace DiceLang

open Roller

variable {σ : Type}

namespace Options

/-- The same options with a record of the dice that the roller answers. -/
def watched (options : Options σ) : Options (Observed σ) :=
  ⟨options.roller.observed, ⟨options.state, []⟩, options.limit⟩

variable {options : Options σ} {expr : Expr} {limit : UInt64}

/-- A limit below the largest word is exceeded by the true number of dice. -/
theorem exceeded?_of_lt (limited : options.limit = some limit)
    (below : limit.toNat < Word.largest) (expr : Expr) :
    options.exceeded? expr = if limit.toNat < expr.diceTotal then some limit else none := by
  have excess : limit < expr.rollCount ↔ limit.toNat < expr.diceTotal := by
    rw [UInt64.lt_iff_toNat_lt, expr.toNat_rollCount]
    omega
  simp only [exceeded?, limited, Option.filter, decide_eq_true_eq, excess]

/-- An expression is allowed exactly if its roll count is within the limit, if there is one. -/
theorem exceeded?_eq_none_iff :
    options.exceeded? expr = none ↔
      ∀ limit, options.limit = some limit → expr.rollCount ≤ limit := by
  simp only [exceeded?, Option.filter_eq_none_iff, decide_eq_true_eq, UInt64.not_lt]

/-- Nothing exceeds the largest word, or a limit that is not there. -/
theorem exceeded?_eq_none
    (unlimited : ∀ limit, options.limit = some limit → limit.toNat = Word.largest) (expr : Expr) :
    options.exceeded? expr = none := by
  refine exceeded?_eq_none_iff.mpr fun limit limited => ?_
  rw [UInt64.le_iff_toNat_le, unlimited limit limited]
  exact Word.toNat_le_largest expr.rollCount

end Options

/-- The report with the dice that were answered on record beside the state. -/
def Report.watched (report : Report σ) (tosses : List Toss) : Report (Observed σ) :=
  ⟨report.answer, ⟨report.state, tosses⟩, report.events⟩

/-- A record beside the state goes along with an evaluation. -/
theorem Report.ofEvaluation_watched (events : List Event) (answers : Answers σ)
    (value : List UInt64 → Outcome) (table : Table σ) (seen : List Toss) :
    ofEvaluation events (answers.result value (table.watched seen)) =
      (ofEvaluation events (answers.result value table)).watched seen := by
  obtain ⟨tosses, state, fault?⟩ := answers
  cases fault? <;> rfl

/-- The report on an evaluation that began after some events, read off what the roller answered. -/
structure Report.Accounts (report : Report σ) (before : List Event) (expr : Expr)
    (answers : Answers σ) : Prop where
  state : report.state = answers.state
  events : report.events = before ++ (Throw.complete expr.diceTerms answers.faces).map .thrown
  complete : answers.fault? = none → report.answer = .ok (expr.outcome answers.faces)
  faulted : ∀ fault, answers.fault? = some fault → report.answer = .error (.faulted fault)

/-- An evaluation that plays its terms on a fresh table is reported as the roller answered. -/
theorem Report.Accounts.ofEvaluation (before : List Event) (expr : Expr) (state : σ)
    (answers : Answers σ) :
    (ofEvaluation before
      (answers.result expr.outcome ((Table.fresh state).played expr.diceTerms answers))).Accounts
        before expr answers := by
  cases faulted : answers.fault? with
  | none =>
    rw [Answers.result_of_complete faulted]
    refine ⟨rfl, rfl, fun _ => rfl, fun fault same => ?_⟩
    rw [faulted] at same
    cases same
  | some fault =>
    rw [Answers.result_of_fault faulted]
    refine ⟨rfl, rfl, fun same => ?_, fun other same => ?_⟩
    · rw [faulted] at same
      cases same
    · rw [faulted, Option.some.injEq] at same
      rw [← same]
      rfl

section rollWith

variable {options : Options σ} {text : String} {parsed : Expr.Parsed}

/-- A text that cannot be read is refused. -/
theorem rollWith_of_unread {error : TextError} (unread : Expr.ofText text = .error error) :
    rollWith options text = ⟨.error (.refused (.text error)), options.state, []⟩ := by
  rw [rollWith, unread]

/-- An expression over the limit is refused with its roll count. -/
theorem rollWith_of_exceeded {limit : UInt64} (read : Expr.ofText text = .ok parsed)
    (excess : options.exceeded? parsed.expr = some limit) :
    rollWith options text =
      ⟨.error (.refused (.tooManyRolls parsed.expr.rollCount limit)), options.state,
        parsed.ignored?.toList.map Event.ignoredInput ++ [.overLimit parsed.expr limit]⟩ := by
  simp only [rollWith, read, rollParsed, excess]

/-- Any other expression is evaluated. -/
theorem rollWith_of_allowed (read : Expr.ofText text = .ok parsed)
    (allowed : options.exceeded? parsed.expr = none) :
    rollWith options text =
      .ofEvaluation
        (parsed.ignored?.toList.map Event.ignoredInput ++ [.evaluating parsed.expr])
        (parsed.expr.eval options.roller (.fresh options.state)) := by
  simp only [rollWith, read, rollParsed, allowed]

/-- What is evaluated is reported as the roller answered, and exactly its answers go on record. -/
theorem rollWith_accounts (read : Expr.ofText text = .ok parsed)
    (allowed : options.exceeded? parsed.expr = none) :
    (rollWith options text).Accounts
        (parsed.ignored?.toList.map Event.ignoredInput ++ [.evaluating parsed.expr]) parsed.expr
        (options.roller.ask parsed.expr.demand options.state) ∧
      rollWith options.watched text =
        (rollWith options text).watched
          (options.roller.ask parsed.expr.demand options.state).tosses := by
  have plain := parsed.expr.plays options.roller (.fresh options.state)
  have watched : parsed.expr.eval options.watched.roller (.fresh options.watched.state) = _ :=
    parsed.expr.eval_watched options.roller (.fresh options.state) []
  have watchedAllowed : options.watched.exceeded? parsed.expr = none := allowed
  rw [rollWith_of_allowed read allowed, rollWith_of_allowed read watchedAllowed, watched, plain,
    List.nil_append, Report.ofEvaluation_watched, ← Expr.demand]
  exact ⟨.ofEvaluation _ _ _ _, rfl⟩

/-- What is evaluated asks the roller for all dice of the expression, unless the roller faults. -/
theorem rolls_of_allowed (read : Expr.ofText text = .ok parsed)
    (allowed : options.exceeded? parsed.expr = none) :
    ∃ tosses, rollWith options.watched text = (rollWith options text).watched tosses ∧
      ((∃ outcome, (rollWith options text).answer = .ok outcome ∧
          tosses.map Toss.sides = parsed.expr.demand) ∨
        ∃ fault, (rollWith options text).answer = .error (.faulted fault) ∧
          options.roller.FaultsIn parsed.expr.demand options.state fault
            (rollWith options text).state) := by
  obtain ⟨accounts, watched⟩ := rollWith_accounts read allowed
  refine ⟨_, watched, ?_⟩
  cases faulted : (options.roller.ask parsed.expr.demand options.state).fault? with
  | none => exact .inl ⟨_, accounts.complete faulted, sides_of_complete faulted⟩
  | some fault =>
    refine .inr ⟨fault, accounts.faulted fault faulted, ?_⟩
    rw [accounts.state]
    exact (ask_of_fault faulted).2

/-- Only an evaluation rolls dice. With a record of its dice a roll goes as without: a refusal leaves
the record empty, and an expression that is let through is asked for in full or faults. -/
theorem rollWith_watched (options : Options σ) (text : String) :
    ∃ tosses, rollWith options.watched text = (rollWith options text).watched tosses ∧
      (∀ refusal, (rollWith options text).answer = .error (.refused refusal) →
        tosses = [] ∧ (rollWith options text).state = options.state) ∧
      ∀ parsed, Expr.ofText text = .ok parsed → options.exceeded? parsed.expr = none →
        (∃ outcome, (rollWith options text).answer = .ok outcome ∧
            tosses.map Toss.sides = parsed.expr.demand) ∨
          ∃ fault, (rollWith options text).answer = .error (.faulted fault) ∧
            options.roller.FaultsIn parsed.expr.demand options.state fault
              (rollWith options text).state := by
  cases read : Expr.ofText text with
  | error error =>
    have unread : rollWith options.watched text = _ := rollWith_of_unread read
    rw [unread, rollWith_of_unread read]
    exact ⟨[], rfl, fun _ _ => ⟨rfl, rfl⟩, by simp⟩
  | ok parsed =>
    cases exceeded : options.exceeded? parsed.expr with
    | some limit =>
      have excess : rollWith options.watched text = _ := rollWith_of_exceeded read exceeded
      rw [excess, rollWith_of_exceeded read exceeded]
      refine ⟨[], rfl, fun _ _ => ⟨rfl, rfl⟩, ?_⟩
      intro other same allowed
      cases same
      rw [exceeded] at allowed
      cases allowed
    | none =>
      obtain ⟨tosses, watched, ends⟩ := rolls_of_allowed read exceeded
      refine ⟨tosses, watched, ?_, ?_⟩
      · intro refusal refused
        rcases ends with ⟨outcome, answer, -⟩ | ⟨fault, answer, -⟩ <;> simp [answer] at refused
      · intro other same _
        cases same
        exact ends

/-- Too many dice are told of exactly if the expression exceeds the limit. -/
theorem answer_eq_tooManyRolls_iff {count allowed : UInt64} :
    (rollWith options text).answer = .error (.refused (.tooManyRolls count allowed)) ↔
      ∃ parsed, Expr.ofText text = .ok parsed ∧ options.exceeded? parsed.expr = some allowed ∧
        parsed.expr.rollCount = count := by
  cases read : Expr.ofText text with
  | error error => simp [rollWith_of_unread read]
  | ok parsed =>
    cases exceeded : options.exceeded? parsed.expr with
    | some limit => simp [rollWith_of_exceeded read exceeded, exceeded, and_comm]
    | none =>
      obtain ⟨-, -, ⟨outcome, answer, -⟩ | ⟨fault, answer, -⟩⟩ := rolls_of_allowed read exceeded
      · simp [answer, exceeded]
      · simp [answer, exceeded]

/-- The limit on dice is exact, and what is refused rolls nothing. Whatever the text, the roller and
the limit: after a refusal no die is on record and the roller is as it was, so even one that notes in
its state whatever it is asked has nothing to note. A limit below the largest word refuses exactly
the expressions that show more dice, however many those are, and tells their number clamped to a
word; within the limit there is an outcome, for which the roller answered all dice of the expression,
unless it faults itself. Without a limit, and with the largest one, no expression has too many
dice. -/
theorem limit_is_exact (options : Options σ) (text : String) :
    ∃ report tosses, rollWith options text = report ∧
      rollWith options.watched text = report.watched tosses ∧
      (∀ refusal, report.answer = .error (.refused refusal) →
        tosses = [] ∧ report.state = options.state) ∧
      (∀ limit, options.limit = some limit → limit.toNat < Word.largest →
        (∀ count allowed, report.answer = .error (.refused (.tooManyRolls count allowed)) ↔
          ∃ parsed, Expr.ofText text = .ok parsed ∧ limit.toNat < parsed.expr.diceTotal ∧
            count.toNat = min parsed.expr.diceTotal Word.largest ∧ allowed = limit) ∧
        ∀ parsed, Expr.ofText text = .ok parsed → parsed.expr.diceTotal ≤ limit.toNat →
          (∃ outcome, report.answer = .ok outcome ∧ tosses.length = parsed.expr.diceTotal) ∨
            ∃ fault, report.answer = .error (.faulted fault) ∧
              options.roller.FaultsIn parsed.expr.demand options.state fault report.state) ∧
      ((∀ limit, options.limit = some limit → limit.toNat = Word.largest) →
        ∀ count allowed, report.answer ≠ .error (.refused (.tooManyRolls count allowed))) := by
  obtain ⟨tosses, watched, unrolled, rolled⟩ := rollWith_watched options text
  refine ⟨_, tosses, rfl, watched, unrolled, ?_, ?_⟩
  · intro limit limited below
    constructor
    · intro count allowed
      rw [answer_eq_tooManyRolls_iff]
      refine exists_congr fun parsed => and_congr_right fun _ => ?_
      rw [Options.exceeded?_of_lt limited below, Option.ite_none_right_eq_some,
        ← parsed.expr.toNat_rollCount]
      constructor
      · rintro ⟨⟨more, ⟨⟩⟩, rfl⟩
        exact ⟨more, rfl, rfl⟩
      · rintro ⟨more, same, rfl⟩
        exact ⟨⟨more, rfl⟩, (UInt64.toNat_inj.mp same).symm⟩
    · intro parsed read within
      have notExceeded : options.exceeded? parsed.expr = none := by
        rw [Options.exceeded?_of_lt limited below, if_neg (by omega)]
      refine (rolled parsed read notExceeded).imp_left ?_
      rintro ⟨outcome, answer, sides⟩
      refine ⟨outcome, answer, ?_⟩
      rw [← parsed.expr.length_demand, ← sides, List.length_map]
  · intro unlimited count allowed told
    obtain ⟨parsed, -, exceeded, -⟩ := answer_eq_tooManyRolls_iff.mp told
    rw [Options.exceeded?_eq_none unlimited] at exceeded
    cases exceeded

end rollWith

/-- Two dice are one too many for a limit of one, and are rolled under a limit of two. -/
theorem limit_is_exact_twoDice :
    (rollWith ((Options.new highest ()).maxRolls 1) "2d6").answer =
      .error (.refused (.tooManyRolls 2 1)) ∧
    ∃ outcome, (rollWith ((Options.new highest ()).maxRolls 2) "2d6").answer = .ok outcome := by
  have canonical : (Expr.dice ⟨2, 6⟩).Canonical := trivial
  have written : (Expr.dice ⟨2, 6⟩).text = "2d6" := by decide
  have excess : (1 : UInt64).toNat < (Expr.dice ⟨2, 6⟩).diceTotal := by decide
  have clamped : (2 : UInt64).toNat = min (Expr.dice ⟨2, 6⟩).diceTotal Word.largest := by decide
  have within : (Expr.dice ⟨2, 6⟩).diceTotal ≤ (2 : UInt64).toNat := by decide
  obtain ⟨last, -, read⟩ := Expr.ofText_text canonical
  rw [written] at read
  constructor
  · obtain ⟨_, _, rfl, -, -, limited, -⟩ :=
      limit_is_exact ((Options.new highest ()).maxRolls 1) "2d6"
    exact ((limited 1 rfl (by decide)).1 2 1).mpr ⟨_, read, excess, clamped, rfl⟩
  · obtain ⟨_, _, rfl, -, -, limited, -⟩ :=
      limit_is_exact ((Options.new highest ()).maxRolls 2) "2d6"
    rcases (limited 2 rfl (by decide)).2 _ read within with
      ⟨outcome, answer, -⟩ | ⟨fault, -, faults⟩
    · exact ⟨outcome, answer⟩
    · exact absurd faults (not_faultsIn fun sides state => ⟨sides, state, rfl⟩)

end DiceLang
