import DiceLang.Proofs.Reading.Soundness

/-!
# The depth suffices

The depth that a reader may use is only a bound on its recursion. Reading a token takes four calls
at most, from an expression down to the primary that begins with it, so a bound in proportion to
the number of tokens is never reached.

The last token of a list needs care, because it is never moved past: a reader that insists on an
operand behind it sees the same token again. Then it fails at once, unless the token opens a group,
which is the one token behind which the same thing is read again. A list is grounded when it does
not end in that token.
-/

namespace DiceLang

/-- Steps after an attempt exhaust no depth if neither the attempt nor the step after it does. -/
theorem Attempt.andThen_ne_exhausted {α β : Type} {attempt : Attempt α}
    {goOn : α → Cursor → Attempt β} (first : attempt ≠ .exhausted)
    (second : ∀ value rest, attempt = .done value rest → goOn value rest ≠ .exhausted) :
    attempt.andThen goOn ≠ .exhausted := by
  cases attempt with
  | done value rest => exact second value rest rfl
  | failed error => simp
  | exhausted => exact absurd rfl first

namespace Cursor

/-- The tokens do not end in one that opens a group. -/
def Grounded (tokens : Cursor) : Prop :=
  ∀ last ∈ tokens.getLast?, last.kind ≠ .parenOpen

variable {tokens rest : Cursor} {seen : List Token}

/-- A terminated list is grounded. -/
theorem Grounded.of_terminated (terminated : Token.Terminated tokens) : Grounded tokens := by
  obtain ⟨front, last, rfl, isEnding, -⟩ := terminated
  simp [Grounded, isEnding]

/-- Advancing takes one token away, unless it is stuck at the last one. -/
theorem advance_cases (tokens : Cursor) (some : (next tokens).kind ≠ .ending) :
    tokens.length = (advance tokens).length + 1 ∨
      advance tokens = tokens ∧ tokens = [next tokens] := by
  match tokens with
  | [] => exact absurd rfl some
  | [_] => exact .inr ⟨rfl, rfl⟩
  | _ :: _ :: _ => exact .inl rfl

/-- Advancing keeps the last token. -/
theorem Grounded.advance (grounded : Grounded tokens) : Grounded (advance tokens) := by
  match tokens with
  | [] => exact grounded
  | [_] => exact grounded
  | _ :: _ :: _ => simpa [Grounded, Cursor.advance] using grounded

/-- A walk keeps the last token. -/
theorem Grounded.of_walk (grounded : Grounded tokens) (walk : Walk tokens seen rest) :
    Grounded rest := by
  induction walk with
  | stay => exact grounded
  | take further inductionHypothesis => exact inductionHypothesis grounded.advance

end Cursor

namespace Expr

open Cursor

/-- A reader that is done has walked to where it arrives. -/
theorem Faithful.walk {level : Precedence} {before : List Token.Kind} {tokens rest : Cursor}
    {attempt : Attempt Expr} {expr : Expr} (faithful : Faithful level before tokens attempt)
    (done : attempt = .done expr rest) : ∃ seen, Walk tokens seen rest := by
  subst done
  obtain ⟨seen, walk, -⟩ := faithful
  exact ⟨seen, walk⟩

/-- Reading a dice term where one begins neither exhausts any depth nor goes backwards. -/
theorem StartsDice.readDice {tokens : Cursor} (starts : StartsDice tokens) :
    readDice tokens ≠ .exhausted ∧
      ∀ term rest, readDice tokens = .done term rest → ∃ seen, Walk tokens seen rest := by
  obtain ⟨count, opening, middle, walk, -, -, same⟩ := starts.opening
  rw [same]
  unfold expectNumber
  split
  · refine ⟨by simp, fun term rest done => ?_⟩
    simp only [Attempt.andThen_done, Attempt.done.injEq] at done
    exact ⟨_, done.2 ▸ walk.trans (.single middle)⟩
  · simp

/-- A kind with which no operand begins is refused by every reader that is deep enough to see
it. -/
theorem read_of_no_operand {tokens : Cursor} {depth : Nat} {level : Precedence}
    (deep : 4 ≤ depth + level.rank) (noDice : (next tokens).kind ≠ .dice)
    (noNumber : ∀ value, (next tokens).kind ≠ .number value)
    (noOpening : (next tokens).kind ≠ .parenOpen) :
    read depth level tokens = .failed (.unexpected (next tokens).kind (next tokens).offset) := by
  have primary (depth : Nat) : readPrimary (depth + 1) tokens =
      .failed (.unexpected (next tokens).kind (next tokens).offset) := by
    rw [readPrimary]
    split <;> simp_all
  cases level with
  | primary =>
    have enough : 2 ≤ depth := Nat.le_of_add_le_add_right (b := 2) deep
    obtain ⟨less, rfl⟩ := Nat.exists_eq_add_of_le' enough
    exact primary less
  | product =>
    have enough : 3 ≤ depth := Nat.le_of_add_le_add_right (b := 1) deep
    obtain ⟨less, rfl⟩ := Nat.exists_eq_add_of_le' enough
    simp [read, Precedence.tighter, primary]
  | sum =>
    obtain ⟨less, rfl⟩ := Nat.exists_eq_add_of_le' deep
    simp [read, Precedence.tighter, primary]

/-- So deep, no reader gives up on a grounded list. The looser the precedence, the more calls lie
between the reader and the primary that it begins with. -/
structure DeepEnough (depth : Nat) : Prop where
  read : ∀ level tokens, Grounded tokens → 4 * tokens.length + 5 ≤ depth + level.rank →
    read depth level tokens ≠ .exhausted
  readChain : ∀ level left tokens, level ≠ .primary → Grounded tokens →
    4 * tokens.length + 3 ≤ depth → readChain depth level left tokens ≠ .exhausted
  readPrimary : ∀ tokens, Grounded tokens → 4 * tokens.length + 2 ≤ depth →
    readPrimary depth tokens ≠ .exhausted
  readKeep : ∀ term tokens, Grounded tokens → 4 * tokens.length + 1 ≤ depth →
    readKeep depth term tokens ≠ .exhausted

section Step

variable {depth : Nat}

theorem DeepEnough.read_succ (enough : DeepEnough depth) {level : Precedence} {tokens : Cursor}
    (grounded : Grounded tokens) (deep : 4 * tokens.length + 5 ≤ depth + 1 + level.rank) :
    Expr.read (depth + 1) level tokens ≠ .exhausted := by
  by_cases loose : level = .primary
  · subst loose
    simp only [Precedence.rank] at deep
    exact enough.readPrimary tokens grounded (by omega)
  · rw [read_loose loose]
    have rank := rank_tighter loose
    refine Attempt.andThen_ne_exhausted (enough.read _ _ grounded (by omega)) ?_
    intro first rest done
    obtain ⟨seen, walk⟩ := ((faithfulAt depth).read _ _).walk done
    have shorter := walk.length_le
    have bounded : level.rank ≤ 1 := by cases level <;> simp_all [Precedence.rank]
    exact enough.readChain _ _ _ loose (grounded.of_walk walk) (by omega)

theorem DeepEnough.readChain_succ (enough : DeepEnough depth) {level : Precedence} {left : Expr}
    {tokens : Cursor} (loose : level ≠ .primary) (grounded : Grounded tokens)
    (deep : 4 * tokens.length + 3 ≤ depth + 1) :
    Expr.readChain (depth + 1) level left tokens ≠ .exhausted := by
  rw [Expr.readChain]
  split
  · rename_i op operator
    split
    · rcases advance_cases tokens (by simp [operator]) with shorter | ⟨stuck, single⟩
      · have rank := rank_tighter loose
        refine Attempt.andThen_ne_exhausted
          (enough.read _ _ grounded.advance (by omega)) ?_
        intro right rest done
        obtain ⟨seen, walk⟩ := ((faithfulAt depth).read _ _).walk done
        have shorterYet := walk.length_le
        exact enough.readChain _ _ _ loose (grounded.advance.of_walk walk) (by omega)
      · -- The operator is the last token, so it stands where its right operand should begin.
        have one : tokens.length = 1 := congrArg List.length single
        rw [stuck, read_of_no_operand (by omega) (by simp [operator]) (by simp [operator])
          (by simp [operator])]
        simp
    · simp
  · simp

theorem DeepEnough.readKeep_succ (enough : DeepEnough depth) {term : Dice} {tokens : Cursor}
    (grounded : Grounded tokens) (deep : 4 * tokens.length + 1 ≤ depth + 1) :
    Expr.readKeep (depth + 1) term tokens ≠ .exhausted := by
  rw [Expr.readKeep]
  split
  · rename_i which modifier
    refine Attempt.andThen_ne_exhausted ?_ (by simp)
    rcases advance_cases tokens (by simp [modifier]) with shorter | ⟨stuck, single⟩
    · exact enough.readPrimary _ grounded.advance (by omega)
    · -- The modifier is the last token, so it stands where its amount should begin.
      have one : tokens.length = 1 := congrArg List.length single
      have refused : Expr.read (depth + 1) .primary tokens = _ :=
        read_of_no_operand (by omega) (by simp [modifier]) (by simp [modifier])
          (by simp [modifier])
      rw [stuck]
      intro exhausted
      rw [Expr.read, exhausted] at refused
      cases refused
  · simp

theorem DeepEnough.readPrimary_succ (enough : DeepEnough depth) {tokens : Cursor}
    (grounded : Grounded tokens) (deep : 4 * tokens.length + 2 ≤ depth + 1) :
    Expr.readPrimary (depth + 1) tokens ≠ .exhausted := by
  have dice (starts : StartsDice tokens) :
      ((Expr.readDice tokens).andThen fun term rest => Expr.readKeep depth term rest) ≠
        .exhausted := by
    refine Attempt.andThen_ne_exhausted starts.readDice.1 ?_
    intro term rest done
    obtain ⟨seen, walk⟩ := starts.readDice.2 term rest done
    have shorter := walk.length_le
    exact enough.readKeep _ _ (grounded.of_walk walk) (by omega)
  rw [Expr.readPrimary]
  split
  · rename_i isDice
    exact dice (.single isDice)
  · rename_i value number
    split
    · rename_i isDice
      exact dice (.counted value number isDice)
    · simp
  · rename_i opening
    have closes (rest : Cursor) (inner : Expr) :
        ((expect .parenClose .parenClose rest).andThen fun _ rest => .done (group inner) rest) ≠
          .exhausted := by
      unfold expect
      split <;> simp
    refine Attempt.andThen_ne_exhausted ?_ fun inner rest _ => closes rest inner
    rcases advance_cases tokens (by simp [opening]) with shorter | ⟨-, single⟩
    · exact enough.read _ _ grounded.advance (by simp only [Precedence.rank]; omega)
    · exact absurd opening (grounded _ (by rw [single]; rfl))
  all_goals simp

end Step

/-- Every depth suffices for the lists that it is deep enough for. -/
theorem deepEnough (depth : Nat) : DeepEnough depth := by
  induction depth with
  | zero =>
    refine ⟨fun level tokens _ deep => ?_, fun _ _ _ _ _ deep => ?_, fun _ _ deep => ?_,
      fun _ _ _ deep => ?_⟩
    · cases level <;> simp only [Precedence.rank] at deep <;> omega
    all_goals omega
  | succ depth inductionHypothesis =>
    exact ⟨fun _ _ => inductionHypothesis.read_succ,
      fun _ _ _ => inductionHypothesis.readChain_succ, fun _ => inductionHypothesis.readPrimary_succ,
      fun _ _ => inductionHypothesis.readKeep_succ⟩

/-- The bound on the depth is not reached on a grounded list. -/
theorem read_depthBound_ne_exhausted {tokens : Cursor} (grounded : Grounded tokens) :
    read (depthBound tokens) .sum tokens ≠ .exhausted :=
  (deepEnough _).read _ _ grounded (by simp only [depthBound, Precedence.rank]; omega)

end Expr

end DiceLang
