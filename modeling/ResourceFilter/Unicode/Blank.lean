import ResourceFilter.Unicode.RangeSet

/-! # Blank and control characters

The characters with the Unicode property White_Space, the control characters, and trimming: a text
without the blanks at its two ends.
-/

set_option autoImplicit false

namespace ResourceFilter.Unicode

/-- The code points with the property White_Space. -/
def blankRanges : RangeSet where
  ranges := [
    (0x9, 0xd), (0x20, 0x20), (0x85, 0x85), (0xa0, 0xa0), (0x1680, 0x1680), (0x2000, 0x200a),
    (0x2028, 0x2029), (0x202f, 0x202f), (0x205f, 0x205f), (0x3000, 0x3000)]

/-- Whether a character has the property White_Space. -/
def isBlank (c : Char) : Bool :=
  blankRanges.covers c.toNat

/-- Whether a character is a control, general category Cc. -/
def isControl (c : Char) : Bool :=
  c.toNat < 0x20 || (0x7f ≤ c.toNat && c.toNat ≤ 0x9f)

/-- The text without the blanks in front of it and behind it. -/
def trimmed (text : List Char) : List Char :=
  ((text.dropWhile isBlank).reverse.dropWhile isBlank).reverse

/-- The string without the blanks in front of it and behind it. -/
def trim (text : String) : String :=
  String.ofList (trimmed text.toList)

/-- Every character that counts as white space among ASCII characters is blank. -/
theorem isBlank_of_isWhitespace {c : Char} (white : c.isWhitespace = true) : isBlank c = true := by
  simp only [Char.isWhitespace, Bool.or_eq_true, decide_eq_true_eq] at white
  rcases white with ((rfl | rfl) | rfl) | rfl <;> decide

end ResourceFilter.Unicode
