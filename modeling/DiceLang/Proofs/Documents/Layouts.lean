import DiceLang.Decimal.Layout
import DiceLang.Proofs.Documents.Numerals

/-!
# The numerals of doubles are well-formed

However a layout sets out the digits of a double, a document may hold the numeral. The only danger
is a zero in front of further digits. The decimal that is written for a double other than zero is
a point that is rounded to it, and zero is never such a point, so the digits do not begin with a
zero.
-/

namespace DiceLang.Decimal

namespace Grid

variable {grid : Grid}

/-- The best point of a grid is rounded to the double. -/
theorem identifies_of_best? {tie : Tie} {multiple : Nat} (best : grid.best? tie = some multiple) :
    grid.identifies multiple = true := by
  have oneOfTwo : grid.closer tie (grid.value / grid.step) = grid.value / grid.step ∨
      grid.closer tie (grid.value / grid.step) = grid.value / grid.step + 1 := by
    rw [closer.eq_def]
    grind
  rw [best?] at best
  split at best
  next below above =>
    obtain rfl := Option.some.inj best
    rcases oneOfTwo with same | same
    · rwa [same]
    · rwa [same]
  next below _ =>
    obtain rfl := Option.some.inj best
    exact below
  next _ above =>
    obtain rfl := Option.some.inj best
    exact above
  next => cases best

/-- Zero is not rounded to any double but zero. -/
theorem identifies_zero {size : Binary} (nonzero : size.significand ≠ 0) (place : Int) :
    (ofPlace size place).identifies 0 = false := by
  have lowPositive : 0 < (ofPlace size place).low := by
    refine Nat.mul_pos ?_ (Nat.mul_pos (Nat.pow_pos (by decide)) (Nat.pow_pos (by decide)))
    split <;> omega
  rw [identifies, Nat.zero_mul]
  split
  · simp only [Bool.and_eq_false_iff, decide_eq_false_iff_not]
    omega
  · simp

end Grid

namespace Binary

variable {size : Binary} {tie : Tie}

/-- A search never ends at zero, unless the double is zero. -/
theorem digits_ne_zero_of_search (nonzero : size.significand ≠ 0) {grids : Nat} {place : Int}
    {decimal : Scaled} (found : size.search tie grids place = some decimal) :
    decimal.digits ≠ 0 := by
  induction grids generalizing place with
  | zero => cases found
  | succ grids inductionHypothesis =>
    rw [search] at found
    split at found
    next digits best =>
      obtain rfl := Option.some.inj found
      intro isZero
      have identified := Grid.identifies_of_best? best
      rw [show digits = 0 from isZero, Grid.identifies_zero nonzero place] at identified
      cases identified
    next => exact inductionHypothesis found

/-- All digits of a double other than zero are not zero. -/
theorem exact_digits_ne_zero (nonzero : size.significand ≠ 0) : size.exact.digits ≠ 0 := by
  have positive (base power : Nat) (large : 0 < base) : Nat.pow base power ≠ 0 :=
    Nat.pos_iff_ne_zero.mp (Nat.pow_pos large)
  rw [exact]
  split
  · exact Nat.mul_ne_zero nonzero (positive 2 _ (by decide))
  · exact Nat.mul_ne_zero nonzero (positive 5 _ (by decide))

/-- The shortest decimal of a double other than zero is not zero. -/
theorem shortest_digits_ne_zero (nonzero : size.significand ≠ 0) :
    (size.shortest tie).digits ≠ 0 := by
  rw [shortest]
  cases found : size.search tie 20 size.leadingPlace with
  | none => exact exact_digits_ne_zero nonzero
  | some decimal => exact digits_ne_zero_of_search nonzero found

end Binary

namespace Layout

variable {digits : List Char}

/-- Filling digits up leaves digits. -/
theorem isDigit_of_mem_padded {width : Nat} (isDigit : ∀ c ∈ digits, c.isDigit = true) :
    ∀ c ∈ padded digits width, c.isDigit = true := by
  intro c member
  rcases List.mem_append.mp member with member | member
  · exact isDigit c member
  · rw [(List.mem_replicate.mp member).2]
    decide

/-- Digits around the point are well-formed, if they do not begin with a zero before it. -/
theorem plain_wellFormed (layout : Layout) (negative : Bool) {leading : Int}
    (nonempty : digits ≠ []) (isDigit : ∀ c ∈ digits, c.isDigit = true)
    (zeroAlone : ∀ more, digits = '0' :: more → more = [] ∧ leading ≤ 0) :
    (layout.plain negative digits leading).WellFormed := by
  simp only [plain]
  split
  · refine ⟨by simp, by simp, by simp, isDigit_of_mem_padded ?_⟩
    intro c member
    rcases List.mem_append.mp member with member | member
    · rw [(List.mem_replicate.mp member).2]
      decide
    · exact isDigit c member
  · obtain ⟨first, more, rfl⟩ := List.exists_cons_of_ne_nil nonempty
    refine ⟨by simp [padded], isDigit_of_mem_padded fun c member => isDigit c
      (List.mem_of_mem_take member), ?_, isDigit_of_mem_padded fun c member => isDigit c
      (List.mem_of_mem_drop member)⟩
    intro rest begins
    rw [padded, List.take_succ_cons, List.cons_append, List.cons.injEq] at begins
    obtain ⟨rfl, rfl⟩ := begins
    obtain ⟨rfl, low⟩ := zeroAlone more rfl
    have noWidth : leading.toNat = 0 := by omega
    simp [noWidth]

/-- Digits with the point after the first are well-formed. -/
theorem scientific_wellFormed (negative : Bool) (leading : Int) (nonempty : digits ≠ [])
    (isDigit : ∀ c ∈ digits, c.isDigit = true) :
    (scientific negative digits leading).WellFormed := by
  obtain ⟨first, more, rfl⟩ := List.exists_cons_of_ne_nil nonempty
  obtain ⟨firstDigit, moreDigits⟩ := List.forall_mem_cons.mp isDigit
  exact ⟨by simp [scientific], by simpa [scientific] using firstDigit, by simp [scientific],
    by simpa [scientific] using moreDigits⟩

/-- A decimal is set out in a well-formed numeral, if zero is written without places. -/
theorem ofScaled_wellFormed (layout : Layout) (negative : Bool) {decimal : Scaled}
    (zeroPlain : decimal.digits = 0 → decimal.exponent = 0) :
    (layout.ofScaled negative decimal).WellFormed := by
  have nonempty : Nat.toDigits 10 decimal.digits ≠ [] := Nat.toDigits_ne_nil
  have isDigit : ∀ c ∈ Nat.toDigits 10 decimal.digits, c.isDigit = true :=
    fun _ => isDigit_of_mem_toDigits
  rw [ofScaled]
  split
  · refine plain_wellFormed layout negative nonempty isDigit fun more begins => ?_
    have isZero := eq_zero_of_toDigits_eq_cons begins
    rw [isZero, Nat.toDigits_zero, List.cons.injEq] at begins
    simp [isZero, zeroPlain isZero, begins.2.symm]
  · exact scientific_wellFormed negative _ nonempty isDigit

/-- Every numeral that a layout writes for a double is well-formed. -/
theorem wellFormed_of_numeral? {layout : Layout} {x : Float} {numeral : Numeral}
    (written : layout.numeral? x = some numeral) : numeral.WellFormed := by
  rw [numeral?] at written
  split at written
  next size _ =>
    split at written
    next =>
      obtain rfl := Option.some.inj written
      exact ofScaled_wellFormed layout _ fun _ => rfl
    next nonzero =>
      obtain rfl := Option.some.inj written
      exact ofScaled_wellFormed layout _ fun isZero =>
        absurd isZero (Binary.shortest_digits_ne_zero nonzero)
  next => cases written

end Layout

end DiceLang.Decimal
