import DiceLang.Proofs.Reading.Faithful

/-!
# Every reader is faithful

The readers call each other, so they are shown to be faithful together, by induction on the depth
that they may use. A reader that exhausts its depth has nothing to be faithful to, which is why
this holds at every depth. The lists of tokens are arbitrary.
-/

namespace DiceLang

namespace Attempt

/-- It does not matter which two of three steps are taken together. -/
theorem andThen_assoc {α β γ : Type} (attempt : Attempt α) (first : α → Cursor → Attempt β)
    (second : β → Cursor → Attempt γ) :
    (attempt.andThen first).andThen second =
      attempt.andThen fun value rest => (first value rest).andThen second := by
  cases attempt <;> rfl

end Attempt

namespace Expr

open Cursor

/-- At most so deep, every reader is faithful. A chain is read on from its first operands, and a
keep modifier from its dice. -/
structure FaithfulAt (depth : Nat) : Prop where
  read : ∀ level tokens, Faithful level [] tokens (read depth level tokens)
  readChain : ∀ level before left tokens, level ≠ .primary → Spells level before left →
    Stops level.tighter before (next tokens).kind →
    Faithful level before tokens (readChain depth level left tokens)
  readPrimary : ∀ tokens, Faithful .primary [] tokens (readPrimary depth tokens)
  readKeep : ∀ before term tokens, SpellsDice before term →
    Faithful .primary before tokens (readKeep depth term tokens)

/-- Whether a dice term begins here, with or without a count. -/
inductive StartsDice (tokens : Cursor) : Prop where
  | single (dice : (next tokens).kind = .dice)
  | counted (count : UInt64) (number : (next tokens).kind = .number count)
    (dice : (second tokens).kind = .dice)

/-- Where a dice term begins, the tokens up to its sides fix the count, and reading the term is
taking a number after them. -/
theorem StartsDice.opening {tokens : Cursor} (starts : StartsDice tokens) :
    ∃ count opening middle, Walk tokens opening middle ∧
      Reaches (opening.map Token.kind) ⟨0, .beforeSides⟩ ∧
      (∀ sides, SpellsDice (opening.map Token.kind ++ [.number sides]) ⟨count, sides⟩) ∧
      readDice tokens =
        (expectNumber middle).andThen fun sides rest => .done ⟨count, sides⟩ rest := by
  cases starts with
  | single dice =>
    refine ⟨1, _, _, .single tokens, ?_, ?_, by simp [readDice, expect, dice, Token.Kind.literal?]⟩
    · rw [List.map_singleton, dice]
      exact fun _ => rfl
    · simpa [dice] using SpellsDice.single
  | counted count number dice =>
    refine ⟨count, _, _, .take (.single (advance tokens)), ?_, ?_,
      by simp [readDice, expect, number, dice, Token.Kind.literal?]⟩
    · rw [List.map_cons, List.map_singleton, next_advance, number, dice]
      exact fun _ => rfl
    · simpa [number, dice] using SpellsDice.counted count

/-- Where the sides of some dice are due, reading them and going on is faithful when going on
is. -/
theorem faithful_sides {tokens middle : Cursor} {opening : List Token} {count : UInt64}
    {goOn : Dice → Cursor → Attempt Expr} (walk : Walk tokens opening middle)
    (opens : Reaches (opening.map Token.kind) ⟨0, .beforeSides⟩)
    (spells : ∀ sides, SpellsDice (opening.map Token.kind ++ [.number sides]) ⟨count, sides⟩)
    (whole : ∀ before term rest, SpellsDice before term →
      Faithful .primary before rest (goOn term rest)) :
    Faithful .primary [] tokens
      ((expectNumber middle).andThen fun sides rest => goOn ⟨count, sides⟩ rest) := by
  unfold expectNumber
  split
  · rename_i sides literal
    have number := Token.Kind.literal?_eq_some.mp literal
    refine Faithful.of_walk (walk.trans (.single middle)) (whole _ _ _ ?_)
    simpa [number] using spells sides
  · rename_i literal
    have noNumber := Token.Kind.literal?_eq_none.mp literal
    refine ⟨opening, middle, walk, ⟨[.number 0], _, .dice (spells 0)⟩, ?_⟩
    refine ⟨⟨0, .beforeSides⟩, opens, fun around => ?_, by simp [Position.isSettled], rfl⟩
    cases kind : (next middle).kind with
    | number value => exact absurd kind (noNumber value)
    | _ => rfl

/-- Reading a dice term where one begins and going on is faithful when going on is. -/
theorem faithful_dice {tokens : Cursor} {goOn : Dice → Cursor → Attempt Expr}
    (starts : StartsDice tokens)
    (whole : ∀ before term rest, SpellsDice before term →
      Faithful .primary before rest (goOn term rest)) :
    Faithful .primary [] tokens ((readDice tokens).andThen goOn) := by
  obtain ⟨count, opening, middle, walk, opens, spells, same⟩ := starts.opening
  rw [same, Attempt.andThen_assoc]
  exact faithful_sides walk opens spells whole

/-- After what stands in a group, closing the group is faithful. -/
theorem faithful_close {kinds : List Token.Kind} {inner : Expr} {tokens : Cursor}
    (complete : Complete .sum kinds inner (next tokens).kind) :
    Faithful .primary (.parenOpen :: kinds) tokens
      ((expect .parenClose .parenClose tokens).andThen fun _ rest => .done (group inner) rest) := by
  obtain ⟨spelled, position, settled, reaches, stopped⟩ := complete
  have opens : Reaches [.parenOpen] ⟨1, .beforeOperand⟩ := fun _ => rfl
  have reachesInner : Reaches (.parenOpen :: kinds) ⟨1, position⟩ := opens.append reaches
  unfold expect
  split
  · rename_i closing
    have reachesGroup : Reaches (.parenOpen :: kinds ++ [.parenClose]) ⟨0, .afterGroup⟩ :=
      reachesInner.parenClose settled
    refine ⟨[next tokens], .single tokens, ?_, ?_⟩
    · simpa [closing] using Spells.group spelled
    · rw [List.map_singleton, closing]
      exact .of_primary rfl reachesGroup (fun wrong => by cases wrong) (fun wrong => by cases wrong)
  · rename_i notClosing
    refine ⟨[], tokens, .stay tokens, ⟨[.parenClose], group inner, ?_⟩, ?_⟩
    · simpa using Spells.group spelled
    · refine ⟨⟨1, position⟩, by simpa using reachesInner, fun around => ?_, by simp, ?_⟩
      · rcases stopped with refused | closes | ⟨op, -, looser⟩
        · exact refused (around + 1)
        · exact absurd closes notClosing
        · exact absurd looser (Nat.not_lt_zero _)
      · cases position <;> simp_all [Position.isSettled, Position.complaint]

/-- Above the primaries, reading begins with one tighter operand and goes on with the chain. -/
theorem read_loose {level : Precedence} (loose : level ≠ .primary) (depth : Nat)
    (tokens : Cursor) :
    read (depth + 1) level tokens =
      (read depth level.tighter tokens).andThen fun first rest =>
        readChain depth level first rest := by
  cases level with
  | sum => rfl
  | product => rfl
  | primary => exact absurd rfl loose

section Step

variable {depth : Nat}

/-- Reading at a precedence is faithful one level deeper. -/
theorem FaithfulAt.read_succ (faithful : FaithfulAt depth) (level : Precedence)
    (tokens : Cursor) : Faithful level [] tokens (Expr.read (depth + 1) level tokens) := by
  by_cases loose : level = .primary
  · subst loose
    exact faithful.readPrimary tokens
  · rw [read_loose loose]
    refine Faithful.andThen (.stay tokens) (.first loose) (faithful.read _ _) ?_
    intro first rest seen walk complete
    exact faithful.readChain _ _ _ _ loose (.tighter loose complete.spelled) complete.stops

/-- Reading a chain on is faithful one level deeper. -/
theorem FaithfulAt.readChain_succ (faithful : FaithfulAt depth) {level : Precedence}
    {before : List Token.Kind} {left : Expr} {tokens : Cursor} (loose : level ≠ .primary)
    (spelled : Spells level before left) (stops : Stops level.tighter before (next tokens).kind) :
    Faithful level before tokens (Expr.readChain (depth + 1) level left tokens) := by
  have ends (other : ∀ op, (next tokens).kind = .operator op → op.precedence ≠ level) :
      Faithful level before tokens (.done left tokens) :=
    ⟨[], .stay tokens, by simpa using spelled, by simpa using stops.loosen loose other⟩
  rw [Expr.readChain]
  split
  · rename_i op operator
    by_cases same : op.precedence = level
    · subst same
      rw [if_pos rfl]
      have context : Context op.precedence.tighter op.precedence
          (before ++ [next tokens].map Token.kind) := by
        simpa [operator] using Context.further spelled
      refine Faithful.andThen (.single tokens) context (faithful.read _ _) ?_
      intro right rest seen walk complete
      have opens : Reaches (before ++ [.operator op]) ⟨0, .beforeOperand⟩ := by
        obtain ⟨position, settled, reaches⟩ := spelled.reaches
        exact reaches.operator settled op
      refine faithful.readChain _ _ _ _ loose ?_ ?_
      · simpa [operator] using Spells.chain spelled complete.spelled
      · simpa [operator] using complete.stops.after opens
    · rw [if_neg same]
      refine ends fun other kind => ?_
      rw [operator, Token.Kind.operator.injEq] at kind
      rwa [← kind]
  · rename_i noOperator
    exact ends fun op kind => absurd kind (noOperator op)

/-- Reading a primary is faithful one level deeper. -/
theorem FaithfulAt.readPrimary_succ (faithful : FaithfulAt depth) (tokens : Cursor) :
    Faithful .primary [] tokens (Expr.readPrimary (depth + 1) tokens) := by
  rw [Expr.readPrimary]
  split
  · rename_i dice
    exact faithful_dice (.single dice) faithful.readKeep
  · rename_i value number
    by_cases dice : (second tokens).kind = .dice
    · rw [if_pos dice]
      exact faithful_dice (.counted value number dice) faithful.readKeep
    · rw [if_neg dice]
      have reaches : Reaches ([next tokens].map Token.kind) ⟨0, .afterNumber⟩ := by
        rw [List.map_singleton, number]
        exact fun _ => rfl
      have stops : Stops .primary ([next tokens].map Token.kind) (next (advance tokens)).kind :=
        .of_primary rfl reaches (fun _ => by rwa [next_advance]) (fun wrong => by cases wrong)
      exact ⟨[next tokens], .single tokens, by simpa [number] using Spells.num value, stops⟩
  · rename_i opening
    have context : Context .sum .primary ([] ++ [next tokens].map Token.kind) := by
      simpa [opening] using Context.inner
    refine Faithful.andThen (.single tokens) context (faithful.read _ _) ?_
    intro inner rest seen walk complete
    simpa [opening] using faithful_close complete
  all_goals
    rename_i found
    refine ⟨[], tokens, .stay tokens, ⟨[.number 0], num 0, .num 0⟩, ?_⟩
    refine ⟨⟨0, .beforeOperand⟩, .nil, fun around => ?_, by simp [Position.isSettled], rfl⟩
    rw [found]
    rfl

/-- Reading a keep modifier is faithful one level deeper. -/
theorem FaithfulAt.readKeep_succ (faithful : FaithfulAt depth) {before : List Token.Kind}
    {term : Dice} {tokens : Cursor} (spelled : SpellsDice before term) :
    Faithful .primary before tokens (Expr.readKeep (depth + 1) term tokens) := by
  rw [Expr.readKeep]
  split
  · rename_i which modifier
    have context : Context .primary .primary (before ++ [next tokens].map Token.kind) := by
      simpa [modifier] using Context.amount which spelled
    refine Faithful.andThen (.single tokens) context (faithful.readPrimary _) ?_
    intro amount rest seen walk complete
    have opens : Reaches (before ++ [.keep which]) ⟨0, .beforeOperand⟩ :=
      spelled.reaches.snoc fun _ => rfl
    refine ⟨[], .stay rest, ?_, ?_⟩
    · simpa [modifier] using Spells.keep which spelled complete.spelled
    · simpa [modifier] using complete.stops.after opens
  · rename_i noModifier
    have stops : Stops .primary before (next tokens).kind :=
      .of_primary rfl spelled.reaches (fun wrong => by cases wrong) (fun _ => noModifier)
    exact ⟨[], .stay tokens, by simpa using Spells.dice spelled, by simpa using stops⟩

end Step

/-- However deep they may go, all readers are faithful. -/
theorem faithfulAt (depth : Nat) : FaithfulAt depth := by
  induction depth with
  | zero => exact ⟨fun _ _ => trivial, fun _ _ _ _ _ _ _ => trivial, fun _ => trivial,
      fun _ _ _ _ => trivial⟩
  | succ depth inductionHypothesis =>
    exact ⟨inductionHypothesis.read_succ, fun _ _ _ _ => inductionHypothesis.readChain_succ,
      inductionHypothesis.readPrimary_succ, fun _ _ _ => inductionHypothesis.readKeep_succ⟩

end Expr

end DiceLang
