import DiceLang.Expr.Grammar

/-!
# Chains of operands

The grammar continues a chain on the right, one operator at a time. Seen as a whole, a chain is
its first operand and any number of links behind it, each an operator of the precedence with the
operand that follows it, and its tree takes the links in from left to right.
-/

namespace DiceLang.Expr

/-- An operator and the operand behind it, with the kinds that spell the operand. -/
structure Link where
  op : Operator
  kinds : List Token.Kind
  operand : Expr

namespace Link

/-- The link belongs to a chain of the precedence. -/
def Fits (level : Precedence) (link : Link) : Prop :=
  link.op.precedence = level ∧ Spells level.tighter link.kinds link.operand

/-- The kinds of the operator and its operand. -/
def spelling (link : Link) : List Token.Kind :=
  .operator link.op :: link.kinds

/-- The tree of a chain that ends with the link. -/
def attach (left : Expr) (link : Link) : Expr :=
  binary link.op left link.operand

end Link

/-- An expression continued by links is an expression again. -/
theorem Spells.links {level : Precedence} {kinds : List Token.Kind} {first : Expr}
    {links : List Link} (spelled : Spells level kinds first)
    (fits : ∀ link ∈ links, link.Fits level) :
    Spells level (kinds ++ links.flatMap Link.spelling) (links.foldl Link.attach first) := by
  induction links generalizing kinds first with
  | nil => simpa using spelled
  | cons link links inductionHypothesis =>
    obtain ⟨rfl, operandSpelled⟩ := fits link List.mem_cons_self
    have further := inductionHypothesis (.chain spelled operandSpelled)
      fun other member => fits other (List.mem_cons_of_mem link member)
    simpa [Link.spelling, Link.attach] using further

/-- Above the primaries, an expression is a first operand that is followed by any number of links,
grouped to the left. -/
theorem spells_iff_links {level : Precedence} {kinds : List Token.Kind} {expr : Expr}
    (loose : level ≠ .primary) :
    Spells level kinds expr ↔ ∃ firstKinds first, ∃ links : List Link,
      Spells level.tighter firstKinds first ∧
      (∀ link ∈ links, Link.Fits level link) ∧
      kinds = firstKinds ++ links.flatMap Link.spelling ∧
      expr = links.foldl Link.attach first := by
  constructor
  · intro spelled
    induction spelled with
    | tighter loose spelled inductionHypothesis =>
      exact ⟨_, _, [], spelled, by simp, by simp, rfl⟩
    | @chain op leftKinds rightKinds left right leftSpelled rightSpelled leftHypothesis
        rightHypothesis =>
      obtain ⟨firstKinds, first, links, firstSpelled, fits, rfl, rfl⟩ := leftHypothesis loose
      refine ⟨firstKinds, first, links ++ [⟨op, rightKinds, right⟩], firstSpelled, ?_, ?_, ?_⟩
      · intro link member
        rcases List.mem_append.mp member with earlier | last
        · exact fits link earlier
        · rw [List.mem_singleton.mp last]
          exact ⟨rfl, rightSpelled⟩
      · simp [Link.spelling]
      · simp [Link.attach]
    | _ => exact absurd rfl loose
  · rintro ⟨firstKinds, first, links, firstSpelled, fits, rfl, rfl⟩
    exact (Spells.tighter loose firstSpelled).links fits

end DiceLang.Expr
