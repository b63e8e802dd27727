import DiceLang.Proofs.Rolling.Limit
import DiceLang.Proofs.Rolling.Session

/-!
# The events of a roll

The events of a roll tell what happened, in order and no more: a warning about input that was
ignored, then whether the expression is evaluated or refused, and after an evaluation has begun one
event for each dice term that was thrown to the end. If the roller faults, the term at which it does
so is not told of, nor any behind it.
-/

namespace DiceLang

open Roller

variable {σ : Type}

namespace Throw

/-- The throws are those of the terms that the faces suffice for. There is a term behind these for
which they do not, although some of its dice may have landed. -/
def BreakOff (terms : List Dice) (faces : List UInt64) (throws : List Throw) : Prop :=
  ∃ completed term others early landed, terms = completed ++ term :: others ∧
    faces = early ++ landed ∧ Covers completed early throws ∧ landed.length < term.count.toNat

/-- Too few faces for the terms complete the throws up to one of them. -/
theorem breakOff_complete {terms : List Dice} {faces : List UInt64}
    (few : faces.length < (Dice.demandAll terms).length) :
    BreakOff terms faces (complete terms faces) := by
  induction terms generalizing faces with
  | nil => cases few
  | cons term terms inductionHypothesis =>
    rw [Dice.demandAll_cons, List.length_append, Dice.length_demand] at few
    rw [complete]
    split
    · rename_i first
      have fewLeft : (faces.drop term.count.toNat).length < (Dice.demandAll terms).length := by
        rw [List.length_drop]
        omega
      obtain ⟨completed, next, others, early, landed, rfl, parts, covers, short⟩ :=
        inductionHypothesis fewLeft
      have whole :
          (⟨term, faces.take term.count.toNat⟩ : Throw).faces.length = term.count.toNat :=
        List.length_take_of_le first
      refine ⟨term :: completed, next, others, faces.take term.count.toNat ++ early, landed, rfl, ?_,
        .cons whole covers, short⟩
      rw [List.append_assoc, ← parts, List.take_append_drop]
    · rename_i short
      exact ⟨[], term, terms, [], faces, rfl, rfl, .nil, Nat.lt_of_not_le short⟩

end Throw

namespace Event

/-- The warning that is due about the token behind an expression. -/
def warnings (behind : Token) : List Event :=
  if behind.kind = .ending then [] else [.ignoredInput behind]

/-- The events of a roll weigh less and less: at most one warning, then one for the developer, then
any number of traces. -/
theorem map_level {verdict : Event} (debug : verdict.level = .debug) (behind : Token)
    (thrown : List Throw) :
    (warnings behind ++ verdict :: thrown.map Event.thrown).map level =
      List.replicate (warnings behind).length .warning ++ .debug ::
        List.replicate thrown.length .trace := by
  have traces : (thrown.map Event.thrown).map level = List.replicate thrown.length .trace := by
    rw [List.map_map]
    exact List.map_const'
  rw [List.map_append, List.map_cons, debug, traces]
  congr 1
  unfold warnings
  split <;> rfl

end Event

/-- The events of a roll whose text reads as the expression with this token behind it, while the
roller answered these dice. First there may be a warning about the token, then comes the verdict on
the expression, and last what was thrown. -/
structure Report.Tells (report : Report σ) (limit? : Option UInt64) (expr : Expr) (behind : Token)
    (tosses : List Toss) (verdict : Event) (thrown : List Throw) : Prop where
  events : report.events = Event.warnings behind ++ verdict :: thrown.map Event.thrown
  levels : report.events.map Event.level =
    List.replicate (Event.warnings behind).length .warning ++ .debug ::
      List.replicate thrown.length .trace
  /-- An expression over the limit is refused before anything is thrown. -/
  refused : ∀ limit, limit? = some limit → limit < expr.rollCount →
    verdict = .overLimit expr limit ∧ thrown = [] ∧ tosses = []
  /-- Any other is evaluated, to the end or up to a fault. -/
  evaluated : (∀ limit, limit? = some limit → ¬ limit < expr.rollCount) →
    verdict = .evaluating expr ∧
      ((∃ outcome, report.answer = .ok outcome ∧
          Throw.Covers expr.diceTerms (tosses.map Toss.face) thrown) ∨
        ∃ fault, report.answer = .error (.faulted fault) ∧
          Throw.BreakOff expr.diceTerms (tosses.map Toss.face) thrown)

section rollWith

variable {options : Options σ} {text : String} {parsed : Expr.Parsed}

/-- The limit is exceeded by more dice than it allows. -/
theorem Options.exceeded?_eq_some_iff {limit : UInt64} {expr : Expr} :
    options.exceeded? expr = some limit ↔
      options.limit = some limit ∧ limit < expr.rollCount := by
  simp [exceeded?, Option.filter_eq_some_iff]

/-- The token behind an expression is ignored with a warning unless it is the ending. -/
theorem Expr.map_ignoredInput {token : Token} {more : Cursor} (behind : parsed.rest = token :: more) :
    parsed.ignored?.toList.map Event.ignoredInput = Event.warnings token := by
  simp only [Parsed.ignored?, behind, Cursor.next, Event.warnings]
  split <;> rfl

/-- The report on a roll tells of what the roller answered. -/
theorem rollWith_tells {token : Token} {more : Cursor} (read : Expr.ofText text = .ok parsed)
    (behind : parsed.rest = token :: more) :
    ∃ tosses verdict thrown,
      rollWith options.watched text = (rollWith options text).watched tosses ∧
      (rollWith options text).Tells options.limit parsed.expr token tosses verdict thrown := by
  have ignored := Expr.map_ignoredInput behind
  cases exceeded : options.exceeded? parsed.expr with
  | some limit =>
    have excess : rollWith options.watched text = _ := rollWith_of_exceeded read exceeded
    have events : (rollWith options text).events =
        Event.warnings token ++ .overLimit parsed.expr limit :: [].map Event.thrown := by
      rw [rollWith_of_exceeded read exceeded, ← ignored, List.map_nil]
    obtain ⟨limited, above⟩ := Options.exceeded?_eq_some_iff.mp exceeded
    refine ⟨[], .overLimit parsed.expr limit, [], ?_, ?_⟩
    · rw [excess, rollWith_of_exceeded read exceeded]
      rfl
    refine ⟨events, ?_, ?_, fun within => absurd above (within limit limited)⟩
    · rw [events]
      exact Event.map_level rfl token []
    · intro other same _
      rw [limited, Option.some.injEq] at same
      exact ⟨by rw [same], rfl, rfl⟩
  | none =>
    obtain ⟨accounts, watched⟩ := rollWith_accounts read exceeded
    have events := accounts.events
    rw [ignored, List.append_assoc, List.singleton_append] at events
    refine ⟨_, .evaluating parsed.expr, _, watched, events, ?_, ?_, fun _ => ⟨rfl, ?_⟩⟩
    · rw [events]
      exact Event.map_level rfl token _
    · intro limit limited above
      have some := Options.exceeded?_eq_some_iff.mpr ⟨limited, above⟩
      rw [exceeded] at some
      cases some
    · cases faulted : (options.roller.ask parsed.expr.demand options.state).fault? with
      | none =>
        exact .inl ⟨_, accounts.complete faulted,
          Throw.covers_complete (length_faces_of_complete faulted)⟩
      | some fault =>
        exact .inr ⟨fault, accounts.faulted fault faulted,
          Throw.breakOff_complete (ask_of_fault faulted).1⟩

/-- A report and the record beside it are told apart. -/
theorem Report.watched_inj {report other : Report σ} {tosses seen : List Toss} :
    report.watched tosses = other.watched seen ↔ report = other ∧ tosses = seen := by
  cases report
  cases other
  simp [watched, and_assoc, and_comm, and_left_comm]

/-- Only what is evaluated makes the roller fault. -/
theorem allowed_of_faulted {fault : Fault}
    (faulted : (rollWith options text).answer = .error (.faulted fault)) :
    ∃ parsed, Expr.ofText text = .ok parsed ∧ options.exceeded? parsed.expr = none := by
  cases read : Expr.ofText text with
  | error error =>
    rw [rollWith_of_unread read] at faulted
    cases faulted
  | ok parsed =>
    cases exceeded : options.exceeded? parsed.expr with
    | some limit =>
      rw [rollWith_of_exceeded read exceeded] at faulted
      cases faulted
    | none => exact ⟨parsed, rfl, exceeded⟩

/-- A script that runs out has handed out all of its values. -/
theorem faces_of_finished {values : List UInt64} {limit? : Option UInt64} {report : Report Script}
    {tosses : List Toss} {fault : Fault}
    (rolled : rollWith (Options.watched ⟨lookahead, .ofList values, limit?⟩) text =
      report.watched tosses)
    (faulted : report.answer = .error (.faulted fault)) :
    fault = .scriptFinished ∧ tosses.map Toss.face = values := by
  obtain ⟨seen, watched, -⟩ := rollWith_watched ⟨lookahead, .ofList values, limit?⟩ text
  rw [watched, Report.watched_inj] at rolled
  obtain ⟨rfl, rfl⟩ := rolled
  obtain ⟨parsed, read, allowed⟩ := allowed_of_faulted faulted
  obtain ⟨accounts, rolled⟩ := rollWith_accounts read allowed
  rw [watched, Report.watched_inj] at rolled
  obtain ⟨faces, -, fault?⟩ := ask_lookahead parsed.expr.demand (.ofList values)
  rw [Script.left_ofList] at faces fault?
  rw [rolled.2, Answers.map_face_tosses, faces]
  split at fault?
  · rw [accounts.complete fault?] at faulted
    cases faulted
  · rename_i short
    rw [accounts.faulted _ fault?] at faulted
    cases faulted
    exact ⟨rfl, List.take_of_length_le (Nat.le_of_not_le short)⟩

/-- The events of a roll tell the truth, and all of it. There are none if the text cannot be read.
Otherwise a warning comes first, exactly if the token behind the expression is not the ending. Then
comes the verdict: an expression over the limit is refused, any other is evaluated. Behind the latter
stands one event for each dice term, from left to right, with the faces that it showed, and these
together are all that the roller answered. If the roller faults, the terms are those that were thrown
to the end before, and a script that runs out has handed out all of its values. -/
theorem events_tell_the_roll (options : Options σ) (text : String) :
    (∀ error, Expr.ofText text = .error error → (rollWith options text).events = []) ∧
    (∀ parsed, Expr.ofText text = .ok parsed →
      ∃ tokens consumed token tosses verdict thrown, Token.lex text = .ok tokens ∧
        tokens = consumed ++ parsed.rest ∧ tokens[consumed.length]? = some token ∧
        Expr.Spells .sum (consumed.map Token.kind) parsed.expr ∧
        rollWith options.watched text = (rollWith options text).watched tosses ∧
        (rollWith options text).Tells options.limit parsed.expr token tosses verdict thrown) ∧
    ∀ values limit? (report : Report Script) tosses fault,
      rollWith (Options.watched ⟨lookahead, .ofList values, limit?⟩) text = report.watched tosses →
        report.answer = .error (.faulted fault) →
          fault = .scriptFinished ∧ tosses.map Toss.face = values := by
  refine ⟨?_, ?_, fun values limit? report tosses fault => faces_of_finished⟩
  · intro error unread
    rw [rollWith_of_unread unread]
  · intro parsed read
    obtain ⟨tokens, lexed, answered⟩ := Expr.ofText_eq_ok_iff.mp read
    have terminated := (Token.lex_eq_ok_iff_laidOut.mp lexed).terminated
    obtain ⟨consumed, token, more, rest, parts, complete⟩ := Expr.parse_sound terminated answered
    obtain ⟨tosses, verdict, thrown, watched, tells⟩ := rollWith_tells read rest
    refine ⟨tokens, consumed, token, tosses, verdict, thrown, lexed, ?_, ?_, complete.spelled,
      watched, tells⟩
    · rw [rest, parts]
    · rw [parts]
      simp

end rollWith

end DiceLang
