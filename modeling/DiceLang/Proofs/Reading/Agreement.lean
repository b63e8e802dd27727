import DiceLang.Proofs.Reading.Language

/-!
# Only the kinds of tokens are read

Terminated lists with the same kinds are read alike. Reading stops at the first token that cannot
follow those before it, and this is at the same index in both lists. Whether that is the end of an
expression or an error is decided by the kinds before it. Only the offset that an error tells is that
of the token itself.
-/

namespace DiceLang

/-- The same error about a token at another place. -/
def ParseError.moved (error : ParseError) (offset : Nat) : ParseError :=
  match error with
  | unexpected found _ => unexpected found offset
  | expected wanted found _ => expected wanted found offset

namespace Expr

section complaint

variable {position : Position} {token other : Token}

/-- A complaint tells the token that it is about, and its place. -/
theorem Position.complaint_found_offset (position : Position) (token : Token) :
    (position.complaint token).found = token.kind ∧
      (position.complaint token).offset = token.offset := by
  cases position <;> exact ⟨rfl, rfl⟩

/-- Complaints about tokens of one kind at one position differ in the place only. -/
theorem Position.complaint_moved (position : Position) (same : token.kind = other.kind) :
    (position.complaint token).moved other.offset = position.complaint other := by
  cases position <;> simp only [complaint, ParseError.moved, same]

end complaint

/-- What is read from one list as an expression is read from the other as the same expression, with
as many tokens left over. What is refused in the one is refused in the other with the same error, about
the tokens at the same index. -/
structure ReadAlike (tokens others : List Token) : Prop where
  whole : ∀ parsed, parse tokens = .ok parsed →
    ∃ rest, parse others = .ok ⟨parsed.expr, rest⟩ ∧ rest.length = parsed.rest.length
  refused : ∀ error, parse tokens = .error error →
    ∃ (index : Nat) (token other : Token), tokens[index]? = some token ∧
      others[index]? = some other ∧ error.found = token.kind ∧ error.offset = token.offset ∧
      parse others = .error (error.moved other.offset)

section parse

variable {tokens others : List Token}

/-- Terminated lists with the same kinds are read alike. -/
theorem readAlike_of_map_kind_eq (terminated : Token.Terminated tokens)
    (terminatedOther : Token.Terminated others)
    (same : tokens.map Token.kind = others.map Token.kind) : ReadAlike tokens others := by
  obtain ⟨front, token, more, frontier, stops⟩ := exists_stopsAt terminated
  obtain ⟨otherFront, other, otherMore, otherFrontier, stopsOther⟩ := exists_stopsAt terminatedOther
  have parts := same
  rw [stops.parts, stopsOther.parts, List.map_append, List.map_append, List.map_cons,
    List.map_cons] at parts
  have sameFront := stops.reaches.front_unique stops.blocked stopsOther.reaches
    stopsOther.blocked parts
  rw [sameFront, List.append_cancel_left_eq, List.cons.injEq] at parts
  have sameFrontier := stopsOther.reaches
  rw [← sameFront] at sameFrontier
  obtain rfl := stops.reaches.unique sameFrontier
  have sameLength : otherFront.length = front.length := by
    simpa using (congrArg List.length sameFront).symm
  constructor
  · intro parsed ok
    rcases stops.answer with ⟨expr, spelled, read⟩ | ⟨-, failed⟩
    · rcases stopsOther.answer with ⟨otherExpr, spelledOther, readOther⟩ | ⟨missing, -⟩
      · rw [read, Except.ok.injEq] at ok
        rw [← sameFront] at spelledOther
        rw [← ok, spelled.expr_unique spelledOther]
        exact ⟨_, readOther, by simpa using (congrArg List.length parts.2).symm⟩
      · exact absurd missing (stops.not_missing spelled.reaches)
    · rw [failed] at ok
      cases ok
  · intro error failed
    rcases stops.answer with ⟨expr, spelled, read⟩ | ⟨missing, refused⟩
    · rw [read] at failed
      cases failed
    · rcases stopsOther.answer with ⟨otherExpr, spelledOther, -⟩ | ⟨-, refusedOther⟩
      · exact absurd missing (stopsOther.not_missing spelledOther.reaches)
      · rw [refused, Except.error.injEq] at failed
        subst failed
        obtain ⟨found, offset⟩ := frontier.position.complaint_found_offset token
        refine ⟨front.length, token, other, by simp [stops.parts], ?_, found, offset, ?_⟩
        · rw [stopsOther.parts, ← sameLength]
          simp
        · rw [refusedOther, frontier.position.complaint_moved parts.1]

end parse

end Expr

end DiceLang
