import DiceLang.Proofs.Lexing.Spacing
import DiceLang.Proofs.Reading.Agreement
import DiceLang.Proofs.Rolling.Limit

/-!
# Spacing never changes the meaning

A text whose blanks are changed has the same lexemes and kinds, reading looks at the kinds alone, and
rolling looks at nothing but the expression. So the change is seen only in the offsets at which errors
and warnings point, and these are still the offsets of the same tokens.
-/

namespace DiceLang

open Token

/-- Rolled with the same roller, from the same state and under the same limit, both texts give the
same answer and leave the roller in the same state. -/
def RollAlike (text other : String) : Prop :=
  ∀ (σ : Type) (options : Options σ),
    (rollWith options other).answer = (rollWith options text).answer ∧
      (rollWith options other).state = (rollWith options text).state

/-- How an evaluation ends does not depend on what was told before it. -/
theorem Report.ofEvaluation_congr {σ : Type} (before others : List Event)
    (result : EStateM.Result Fault (Table σ) Outcome) :
    (ofEvaluation before result).answer = (ofEvaluation others result).answer ∧
      (ofEvaluation before result).state = (ofEvaluation others result).state := by
  cases result <;> exact ⟨rfl, rfl⟩

/-- Texts that are read as the same expression are rolled alike, whatever is left over. -/
theorem rollAlike_of_expr_eq {text other : String} {parsed parsedOther : Expr.Parsed}
    (read : Expr.ofText text = .ok parsed) (readOther : Expr.ofText other = .ok parsedOther)
    (same : parsedOther.expr = parsed.expr) : RollAlike text other := by
  intro σ options
  cases exceeded : options.exceeded? parsed.expr with
  | some limit =>
    rw [rollWith_of_exceeded read exceeded, rollWith_of_exceeded readOther (same ▸ exceeded), same]
    exact ⟨rfl, rfl⟩
  | none =>
    rw [rollWith_of_allowed read exceeded, rollWith_of_allowed readOther (same ▸ exceeded), same]
    exact Report.ofEvaluation_congr _ _ _

/-- Spacing never changes the meaning of a text. Blanks may be inserted before, after and between the
tokens, replaced by others, and deleted where they do not separate two runs of digits, any number of
times: the text that comes of it has tokens with the same kinds and lexemes. If the one text is read
as an expression, so is the other, with as many tokens left over, and with any roller and limit both
give the same answer. If the one is refused, the other is refused with the same error, which points at
the token with the same index, wherever that stands now. -/
theorem spacing_keeps_meaning {text other : String} {tokens : List Token}
    (lexed : lex text = .ok tokens) (respaced : Relation.ReflTransGen Respaced text other) :
    ∃ others, lex other = .ok others ∧ others.map Token.kind = tokens.map Token.kind ∧
      others.map Token.lexeme = tokens.map Token.lexeme ∧ Expr.ReadAlike tokens others ∧
      ((∃ parsed, Expr.parse tokens = .ok parsed) → RollAlike text other) := by
  obtain ⟨others, lexedOther, kinds, lexemes⟩ := exists_lex_of_respaced respaced lexed
  have alike := Expr.readAlike_of_map_kind_eq (lex_eq_ok_iff_laidOut.mp lexed).terminated
    (lex_eq_ok_iff_laidOut.mp lexedOther).terminated kinds.symm
  refine ⟨others, lexedOther, kinds, lexemes, alike, ?_⟩
  rintro ⟨parsed, read⟩
  obtain ⟨rest, readOther, -⟩ := alike.whole parsed read
  have readText := Expr.ofText_eq_ok_iff.mpr ⟨tokens, lexed, read⟩
  exact rollAlike_of_expr_eq readText (Expr.ofText_eq_ok_iff.mpr ⟨others, lexedOther, readOther⟩) rfl

/-- Without its blanks, `1 + 2` means the same. -/
theorem spacing_keeps_meaning_sum :
    ∃ tokens, lex "1 + 2" = .ok tokens ∧ Relation.ReflTransGen Respaced "1 + 2" "1+2" ∧
      ∃ others, lex "1+2" = .ok others ∧ others.map Token.kind = tokens.map Token.kind ∧
        others.map Token.lexeme = tokens.map Token.lexeme ∧ Expr.ReadAlike tokens others ∧
        ((∃ parsed, Expr.parse tokens = .ok parsed) → RollAlike "1 + 2" "1+2") := by
  have written : (Expr.binary .add (.num 1) (.num 2)).text = "1 + 2" := by decide
  obtain ⟨front, last, lexed, -, -⟩ := Expr.lex_text (.binary .add (.num 1) (.num 2))
  rw [written] at lexed
  have space : ∀ c ∈ [' '], Text.isBlank c = true := List.forall_mem_singleton.mpr (by decide)
  have before : Respaced "1 + 2" "1+ 2" :=
    @Respaced.delete ['1'] [' '] ['+', ' ', '2'] space (by simp) (by simp)
  have after : Respaced "1+ 2" "1+2" :=
    @Respaced.delete ['1', '+'] [' '] ['2'] space (by simp) (by simp)
  have respaced := (Relation.ReflTransGen.single before).tail after
  exact ⟨_, lexed, respaced, spacing_keeps_meaning lexed respaced⟩

end DiceLang
