import DiceLang.Expr.Parser

/-!
# Walks over tokens

A reader sees one token at a time and then advances. A walk is the record of what was seen
between two cursors. The last token of a list is never moved past, so a walk may see it any
number of times. On a list that an ending token closes this cannot happen before the ending is
reached: there, a walk over other tokens is a front of the list.
-/

namespace DiceLang

/-- The list is closed by an ending token, and no other token of it is one. -/
def Token.Terminated (tokens : List Token) : Prop :=
  ∃ front last, tokens = front ++ [last] ∧ last.kind = .ending ∧
    ∀ token ∈ front, token.kind ≠ .ending

namespace Cursor

/-- Between two cursors the given tokens are taken, one after the other. -/
inductive Walk : Cursor → List Token → Cursor → Prop where
  | stay (tokens : Cursor) : Walk tokens [] tokens
  | take {tokens rest : Cursor} {seen : List Token} (further : Walk (advance tokens) seen rest) :
    Walk tokens (next tokens :: seen) rest

variable {tokens middle rest : Cursor} {seen more : List Token}

/-- Looking one token further is the same as looking at the next token after advancing. -/
@[simp]
theorem next_advance (tokens : Cursor) : next (advance tokens) = second tokens := by
  match tokens with
  | [] => rfl
  | [_] => rfl
  | _ :: _ :: _ => rfl

/-- Advancing never adds a token. -/
theorem length_advance_le (tokens : Cursor) : (advance tokens).length ≤ tokens.length := by
  match tokens with
  | [] => exact Nat.le_refl _
  | [_] => exact Nat.le_refl _
  | _ :: _ :: _ => exact Nat.le_succ _

namespace Walk

/-- One token is taken by advancing once. -/
theorem single (tokens : Cursor) : Walk tokens [next tokens] (advance tokens) :=
  .take (.stay _)

/-- Walks compose where they meet. -/
theorem trans (first : Walk tokens seen middle) (second : Walk middle more rest) :
    Walk tokens (seen ++ more) rest := by
  induction first with
  | stay => exact second
  | take further inductionHypothesis => exact .take (inductionHypothesis second)

/-- A walk over two stretches of tokens passes a cursor between them. -/
theorem split (walk : Walk tokens (seen ++ more) rest) :
    ∃ middle, Walk tokens seen middle ∧ Walk middle more rest := by
  induction seen generalizing tokens with
  | nil => exact ⟨tokens, .stay tokens, walk⟩
  | cons token seen inductionHypothesis =>
    cases walk with
    | take further =>
      obtain ⟨middle, before, after⟩ := inductionHypothesis further
      exact ⟨middle, .take before, after⟩

/-- A walk that takes a token at once has it as its next one. -/
theorem head_eq {token : Token} (walk : Walk tokens (token :: seen) rest) :
    next tokens = token ∧ Walk (advance tokens) seen rest := by
  cases walk with
  | take further => exact ⟨rfl, further⟩

/-- A walk never adds a token. -/
theorem length_le (walk : Walk tokens seen rest) : rest.length ≤ tokens.length := by
  induction walk with
  | stay => exact Nat.le_refl _
  | take further inductionHypothesis =>
    exact Nat.le_trans inductionHypothesis (length_advance_le _)

/-- Every front of a list can be walked over, up to its last token. -/
theorem of_append (seen : List Token) (left : rest ≠ []) : Walk (seen ++ rest) seen rest := by
  induction seen with
  | nil => exact .stay rest
  | cons token seen inductionHypothesis =>
    have advanced : advance (token :: (seen ++ rest)) = seen ++ rest := by
      cases follow : seen ++ rest with
      | nil => exact absurd (List.append_eq_nil_iff.mp follow).2 left
      | cons => rfl
    rw [← advanced] at inductionHypothesis
    exact .take inductionHypothesis

end Walk

end Cursor

namespace Token.Terminated

open Cursor

variable {tokens rest : Cursor} {seen : List Token}

/-- A terminated list has a token. -/
theorem ne_nil (terminated : Terminated tokens) : tokens ≠ [] := by
  obtain ⟨front, last, rfl, -, -⟩ := terminated
  simp

/-- A terminated list whose next token is not the ending is moved past that token, and what
follows is terminated again. -/
theorem advance (terminated : Terminated tokens) (notEnding : (next tokens).kind ≠ .ending) :
    tokens = next tokens :: advance tokens ∧ Terminated (Cursor.advance tokens) := by
  obtain ⟨front, last, rfl, isEnding, free⟩ := terminated
  match front with
  | [] => exact absurd isEnding notEnding
  | [token] => exact ⟨rfl, [], last, rfl, isEnding, by simp⟩
  | token :: follower :: front =>
    exact ⟨rfl, follower :: front, last, rfl, isEnding,
      fun other member => free other (List.mem_cons_of_mem token member)⟩

/-- On a terminated list, a walk over tokens that are not endings is a front of the list. -/
theorem eq_append_of_walk (terminated : Terminated tokens) (walk : Walk tokens seen rest)
    (free : ∀ token ∈ seen, token.kind ≠ .ending) : tokens = seen ++ rest ∧ Terminated rest := by
  induction walk with
  | stay => exact ⟨rfl, terminated⟩
  | @take tokens rest seen further inductionHypothesis =>
    have step := terminated.advance (free _ List.mem_cons_self)
    have follow := inductionHypothesis step.2
      fun token member => free token (List.mem_cons_of_mem _ member)
    refine ⟨?_, follow.2⟩
    rw [List.cons_append, ← follow.1]
    exact step.1

end Token.Terminated

end DiceLang
