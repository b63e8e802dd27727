import DiceLang.Proofs.Reading.Language

/-!
# Lists without an ending

An ending is never taken as a part of an expression, so in a terminated list no token is taken
twice. In another list the last token may be, because it is never moved past. Twice in a row, an
expression only holds parentheses: hence a closing parenthesis at the end of the list closes all
groups that are open there, though it is written only once.
-/

namespace DiceLang

namespace Cursor

variable {tokens rest : Cursor} {seen : List Token}

/-- A walk sees tokens from the front of a list or, having seen all of them, the last one again. -/
theorem Walk.seen_cases (walk : Walk tokens seen rest) (nonempty : tokens ≠ []) :
    seen <+: tokens ∨ ∃ last copies, tokens.getLast? = some last ∧
      seen = tokens ++ List.replicate (copies + 1) last := by
  induction walk with
  | stay tokens => exact .inl tokens.nil_prefix
  | @take tokens rest seen further inductionHypothesis =>
    match tokens with
    | [] => exact absurd rfl nonempty
    | [token] =>
      -- The walk stays here, so the token that was taken is seen once more by what follows.
      rcases inductionHypothesis nonempty with front | ⟨last, copies, ends, rfl⟩
      · rcases List.prefix_cons_iff.mp front with rfl | ⟨others, rfl, none⟩
        · exact .inl (List.prefix_refl _)
        · exact .inr ⟨token, 0, rfl, by rw [List.prefix_nil.mp none]; rfl⟩
      · cases ends
        exact .inr ⟨token, copies + 1, rfl, rfl⟩
    | token :: other :: others =>
      rcases inductionHypothesis (by simp [advance]) with front | ⟨last, copies, ends, rfl⟩
      · exact .inl (List.cons_prefix_cons.mpr ⟨rfl, front⟩)
      · exact .inr ⟨last, copies, by simpa [advance] using ends, rfl⟩

/-- The last token can be taken any number of times. -/
theorem Walk.replicate (last : Token) (copies : Nat) :
    Walk [last] (List.replicate copies last) [last] := by
  induction copies with
  | zero => exact .stay _
  | succ copies inductionHypothesis => exact .take inductionHypothesis

end Cursor

namespace Expr

open Cursor

/-! ## Counting groups -/

/-- How many groups the expression is written with. -/
def groups : Expr → Nat
  | num _ => 0
  | dice _ => 0
  | binary _ left right => left.groups + right.groups
  | keep _ _ amount => amount.groups
  | group inner => inner.groups + 1

/-- What spells an expression closes each of its groups. -/
theorem Spells.count_parenClose {level : Precedence} {kinds : List Token.Kind} {expr : Expr}
    (spelled : Spells level kinds expr) : kinds.count .parenClose = expr.groups := by
  have noneInDice {kinds : List Token.Kind} {term : Dice} (spelled : SpellsDice kinds term) :
      kinds.count .parenClose = 0 := by
    cases spelled <;> rfl
  induction spelled with
  | num value => rfl
  | dice spelled => exact noneInDice spelled
  | keep which spelled amountSpelled inductionHypothesis =>
    simp [noneInDice spelled, inductionHypothesis, groups]
  | group innerSpelled inductionHypothesis => simp [inductionHypothesis, groups]
  | tighter loose spelled inductionHypothesis => exact inductionHypothesis
  | chain leftSpelled rightSpelled leftHypothesis rightHypothesis =>
    simp [leftHypothesis, rightHypothesis, groups]

/-- Closing parentheses behind some tokens spell no expression that a front of the tokens spells. -/
theorem Spells.not_front {level : Precedence} {kinds front : List Token.Kind} {expr : Expr}
    {closings : Nat}
    (spelled : Spells level (kinds ++ List.replicate (closings + 1) .parenClose) expr)
    (isFront : front <+: kinds) : ¬ Spells level front expr := by
  intro frontSpelled
  have fewer := isFront.sublist.count_le (a := Token.Kind.parenClose)
  have same := frontSpelled.count_parenClose.trans spelled.count_parenClose.symm
  rw [List.count_append, List.count_replicate_self] at same
  omega

/-! ## Tokens that are taken twice -/

namespace Frontier

variable {frontier middle next : Frontier} {kind : Token.Kind}

/-- Only a parenthesis can follow itself. -/
theorem parenthesis_of_step_twice (first : frontier.step kind = some middle)
    (second : middle.step kind = some next) : kind = .parenOpen ∨ kind = .parenClose := by
  obtain ⟨opened, position⟩ := frontier
  cases kind with
  | parenOpen => exact .inl rfl
  | parenClose => exact .inr rfl
  | ending => cases first
  | number value | dice => cases position <;> cases first <;> cases second
  | operator op | keep which =>
    cases position <;> cases first <;> cases second

/-- A closing parenthesis takes one of the open groups away. -/
theorem step_parenClose_eq_some (stepped : frontier.step .parenClose = some next) :
    next.position = .afterGroup ∧ frontier.opened = next.opened + 1 := by
  simp only [step, Option.ite_none_right_eq_some, Option.some.injEq] at stepped
  obtain ⟨⟨-, inside⟩, rfl⟩ := stepped
  exact ⟨rfl, (Nat.succ_pred inside).symm⟩

/-- After a closed group, a closing parenthesis has been read. -/
theorem eq_parenClose_of_afterGroup (stepped : frontier.step kind = some next)
    (closed : next.position = .afterGroup) : kind = .parenClose := by
  obtain ⟨opened, position⟩ := frontier
  cases kind with
  | parenClose => rfl
  | _ => cases position <;> cases stepped <;> cases closed

/-- Closing parentheses take as many of the open groups away. -/
theorem run_replicate_parenClose {closings : Nat}
    (ran : frontier.run (List.replicate closings .parenClose) = some next) :
    frontier.opened = next.opened + closings := by
  induction closings generalizing frontier with
  | zero =>
    cases ran
    rfl
  | succ closings inductionHypothesis =>
    rw [List.replicate_succ, run_cons, Option.bind_eq_some_iff] at ran
    obtain ⟨middle, stepped, further⟩ := ran
    rw [(step_parenClose_eq_some stepped).2, inductionHypothesis further]
    rfl

end Frontier

/-- The tokens end in a group that is closed inside of others that are open. -/
def Unclosed (tokens : List Token) : Prop :=
  ∃ opened, Reaches (tokens.map Token.kind) ⟨opened + 1, .afterGroup⟩

/-- What leads to the end of a group ends in a closing parenthesis. -/
theorem Reaches.ends_in_parenClose {kinds : List Token.Kind} {opened : Nat}
    (reaches : Reaches kinds ⟨opened, .afterGroup⟩) : ∃ front, kinds = front ++ [.parenClose] := by
  rcases kinds.eq_nil_or_concat with rfl | ⟨front, kind, rfl⟩
  · cases reaches.unique .nil
  · rw [List.concat_eq_append] at reaches ⊢
    obtain ⟨middle, -, stepped⟩ := Frontier.run_concat_eq_some (reaches 0)
    exact ⟨front, by rw [Frontier.eq_parenClose_of_afterGroup stepped rfl]⟩

/-- Closing parentheses complete what is open. -/
theorem Reaches.close {kinds : List Token.Kind} {position : Position} {opened : Nat}
    (settled : position.isSettled) (reaches : Reaches kinds ⟨opened, position⟩) :
    IsOperand (kinds ++ List.replicate opened .parenClose) := by
  induction opened generalizing kinds position with
  | zero => exact ⟨position, settled, by simpa using reaches⟩
  | succ opened inductionHypothesis =>
    have closed := inductionHypothesis rfl (reaches.parenClose settled)
    rwa [List.append_assoc, List.singleton_append, ← List.replicate_succ] at closed

/-- An expression with a token in it twice in a row, other than an opening parenthesis, has closing
parentheses there. -/
theorem IsOperand.reaches_front {front : List Token.Kind} {kind : Token.Kind} {copies : Nat}
    (isOperand : IsOperand (front ++ [kind] ++ List.replicate (copies + 1) kind))
    (notOpening : kind ≠ .parenOpen) :
    Reaches (front ++ [kind]) ⟨copies + 1, .afterGroup⟩ := by
  obtain ⟨position, settled, reaches⟩ := isOperand
  intro around
  have ran := reaches around
  rw [Frontier.run_append, Option.bind_eq_some_iff] at ran
  obtain ⟨middle, ranFront, ranCopies⟩ := ran
  rw [ranFront]
  obtain ⟨before, -, stepped⟩ := Frontier.run_concat_eq_some ranFront
  -- Behind its first copy, the token is taken again at least once.
  have again := ranCopies
  rw [List.replicate_succ, Frontier.run_cons, Option.bind_eq_some_iff] at again
  obtain ⟨next, steppedAgain, -⟩ := again
  obtain rfl := (Frontier.parenthesis_of_step_twice stepped steppedAgain).resolve_left notOpening
  have closed := (Frontier.step_parenClose_eq_some stepped).1
  have opened := Frontier.run_replicate_parenClose ranCopies
  obtain ⟨middleOpened, middlePosition⟩ := middle
  cases closed
  cases opened
  rfl

section parse

variable {tokens : List Token} {parsed : Parsed}

/-- Where groups are left open, parsing closes all of them with the last token. -/
theorem parse_of_reaches {opened : Nat}
    (reaches : Reaches (tokens.map Token.kind) ⟨opened + 1, .afterGroup⟩) :
    ∃ parsed, parse tokens = .ok parsed ∧
      Spells .sum (tokens.map Token.kind ++ List.replicate (opened + 1) .parenClose)
        parsed.expr := by
  obtain ⟨expr, spelled⟩ := (reaches.close rfl).spells
  obtain ⟨front, ends⟩ := reaches.ends_in_parenClose
  obtain ⟨front, others, rfl, -, single⟩ := List.map_eq_append_iff.mp ends
  obtain ⟨last, rfl, closes⟩ := List.map_eq_singleton_iff.mp single
  have grounded : Grounded (front ++ [last]) := by simp [Grounded, closes]
  have walk : Walk (front ++ [last]) (front ++ List.replicate (opened + 2) last) [last] :=
    (Walk.of_append front (by simp)).trans (.replicate last _)
  have same : (front ++ List.replicate (opened + 2) last).map Token.kind =
      (front ++ [last]).map Token.kind ++ List.replicate (opened + 1) .parenClose := by
    simp [closes, List.replicate_succ]
  exact ⟨⟨expr, [last]⟩, parse_of_walk grounded walk (same ▸ spelled) (.inl closes), spelled⟩

/-- Unless groups are left open, what is read is spelled by a front of the tokens. -/
theorem spelled_by_front (grounded : Grounded tokens) (closed : ¬ Unclosed tokens)
    (ok : parse tokens = .ok parsed) :
    ∃ consumed, consumed <+: tokens ∧ Spells .sum (consumed.map Token.kind) parsed.expr := by
  have nonempty : tokens ≠ [] := by
    rintro rfl
    cases ok
  obtain ⟨seen, walk, complete⟩ := walk_of_parse ok
  rcases walk.seen_cases nonempty with front | ⟨last, copies, ends, rfl⟩
  · exact ⟨seen, front, complete.spelled⟩
  · obtain ⟨front, rfl⟩ := List.getLast?_eq_some_iff.mp ends
    have isOperand := complete.spelled.reaches
    simp only [List.map_append, List.map_singleton, List.map_replicate] at isOperand
    refine absurd ⟨copies, ?_⟩ closed
    simpa using isOperand.reaches_front (grounded last ends)

end parse

/-- On grounded tokens, what is read is always spelled by a front of them, so that no token is taken
twice, exactly if they do not end in a group that is closed inside of open ones. If they do, parsing
closes all of the open ones with the last token. -/
theorem spelled_by_front_iff {tokens : List Token} (grounded : Grounded tokens) :
    ((∀ parsed, parse tokens = .ok parsed →
      ∃ consumed, consumed <+: tokens ∧ Spells .sum (consumed.map Token.kind) parsed.expr) ↔
        ¬ Unclosed tokens) ∧
    ∀ opened, Reaches (tokens.map Token.kind) ⟨opened + 1, .afterGroup⟩ →
      ∃ parsed, parse tokens = .ok parsed ∧
        Spells .sum (tokens.map Token.kind ++ List.replicate (opened + 1) .parenClose)
          parsed.expr := by
  refine ⟨⟨?_, fun closed parsed => spelled_by_front grounded closed⟩,
    fun opened => parse_of_reaches⟩
  rintro once ⟨opened, reaches⟩
  obtain ⟨parsed, ok, spelled⟩ := parse_of_reaches reaches
  obtain ⟨consumed, front, frontSpelled⟩ := once parsed ok
  exact spelled.not_front (front.map Token.kind) frontSpelled

/-- A closed group without an ending behind it. -/
def closedGroup : List Token :=
  [⟨.parenOpen, "(", 0⟩, ⟨.number 6, "6", 1⟩, ⟨.parenClose, ")", 2⟩]

/-- A group that is closed is closed once. -/
theorem spelled_by_front_iff_closedGroup :
    Grounded closedGroup ∧ ¬ Unclosed closedGroup ∧ ∀ parsed, parse closedGroup = .ok parsed →
      ∃ consumed, consumed <+: closedGroup ∧
        Spells .sum (consumed.map Token.kind) parsed.expr := by
  have grounded : Grounded closedGroup := by simp [Grounded, closedGroup]
  have closes : Reaches (closedGroup.map Token.kind) ⟨0, .afterGroup⟩ := fun _ => rfl
  have closed : ¬ Unclosed closedGroup := by
    rintro ⟨opened, reaches⟩
    cases reaches.unique closes
  exact ⟨grounded, closed, (spelled_by_front_iff grounded).1.mpr closed⟩

/-- Two opening parentheses, of which one is closed. -/
def halfClosed : List Token :=
  [⟨.parenOpen, "(", 0⟩, ⟨.parenOpen, "(", 1⟩, ⟨.number 6, "6", 2⟩, ⟨.parenClose, ")", 3⟩]

/-- One parenthesis closes both groups. -/
theorem halfClosed_spelled_by_no_front :
    Grounded halfClosed ∧ ∃ parsed, parse halfClosed = .ok parsed ∧
      ¬ ∃ consumed, consumed <+: halfClosed ∧
        Spells .sum (consumed.map Token.kind) parsed.expr := by
  refine ⟨by simp [Grounded, halfClosed],
    ⟨group (group (num 6)), [⟨.parenClose, ")", 3⟩]⟩, rfl, ?_⟩
  rintro ⟨consumed, front, spelled⟩
  have fewer := (front.map Token.kind).sublist.count_le (a := Token.Kind.parenClose)
  rw [spelled.count_parenClose] at fewer
  exact absurd fewer (by decide)

end Expr

end DiceLang
