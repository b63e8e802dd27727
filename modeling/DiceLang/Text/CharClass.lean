/-!
# Classes of characters

A property of characters that no short rule decides is kept as a list of ranges of code
points, and a character has the property when one of the ranges covers it. Blank are the characters
that may stand between the tokens of an expression and mean nothing: the twenty-five code points
with the Unicode property White_Space.
-/

namespace DiceLang.Text

/-- The code points from `first` up to `last`, both included. -/
structure CharRange where
  first : Nat
  last : Nat
deriving DecidableEq

namespace CharRange

/-- Whether the character's code point lies in the range. -/
def covers (range : CharRange) (c : Char) : Bool :=
  range.first ≤ c.toNat && c.toNat ≤ range.last

/-- Whether some range of the list covers the character. -/
def anyCovers (ranges : List CharRange) (c : Char) : Bool :=
  ranges.any fun range => range.covers c

end CharRange

/-- The code points with the property White_Space, in ascending order. -/
def blankRanges : List CharRange :=
  [⟨0x09, 0x0D⟩, ⟨0x20, 0x20⟩, ⟨0x85, 0x85⟩, ⟨0xA0, 0xA0⟩, ⟨0x1680, 0x1680⟩,
   ⟨0x2000, 0x200A⟩, ⟨0x2028, 0x2029⟩, ⟨0x202F, 0x202F⟩, ⟨0x205F, 0x205F⟩, ⟨0x3000, 0x3000⟩]

/-- Whether the character only separates tokens. -/
def isBlank (c : Char) : Bool :=
  CharRange.anyCovers blankRanges c

/-- No digit is blank, so a run of digits is never cut by skipping blanks. -/
theorem isBlank_eq_false_of_isDigit {c : Char} (h : c.isDigit = true) : isBlank c = false := by
  simp only [Char.isDigit, Bool.and_eq_true, decide_eq_true_eq, UInt32.le_iff_toNat_le] at h
  have lower : 48 ≤ c.toNat := h.1
  have upper : c.toNat ≤ 57 := h.2
  simp only [isBlank, CharRange.anyCovers, blankRanges, List.any_cons, List.any_nil,
    CharRange.covers, Bool.or_false, Bool.or_eq_false_iff, Bool.and_eq_false_iff,
    decide_eq_false_iff_not]
  omega

end DiceLang.Text
