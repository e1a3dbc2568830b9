import DocQuery.Text.CodeTable

/-!
# White space

The characters with the Unicode property White_Space: the five control characters from the
tabulator to the carriage return, the space, the next-line control, the no-break spaces, the
typographic spaces, and the line and paragraph separators.

- `isBlank`: the class itself.
- `isBlank_of_isWhitespace`: it extends the white space of the ASCII range.
-/

namespace DocQuery.Text

/-- The code points with the property White_Space. -/
def blankCodes : CodeTable :=
  [(0x9, 0xD), (0x20, 0x20), (0x85, 0x85), (0xA0, 0xA0), (0x1680, 0x1680), (0x2000, 0x200A),
   (0x2028, 0x2029), (0x202F, 0x202F), (0x205F, 0x205F), (0x3000, 0x3000)]

/-- Whether the character is white space. -/
def isBlank (c : Char) : Bool := blankCodes.covers c.toNat

theorem blankCodes_ascending : blankCodes.Ascending := by decide +kernel

/-- Space, tabulator, carriage return and line feed are white space. -/
theorem isBlank_of_isWhitespace {c : Char} (h : c.isWhitespace = true) : isBlank c = true := by
  simp only [Char.isWhitespace, Bool.or_eq_true, decide_eq_true_eq] at h
  rcases h with ((rfl | rfl) | rfl) | rfl <;> decide

end DocQuery.Text
