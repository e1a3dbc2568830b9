import DocQuery.Text.Combining
import DocQuery.Text.Printable

/-!
# Quoted text

Text from outside is shown between quotation marks, with escapes for what could be mistaken for
the marks, could not be seen, or would change the layout of the line.

- `escapeCode`: a character by its code point, as `\u{301}`.
- `encodeChar`: one character as it stands between quotation marks.
- `encode`: a whole text between quotation marks.
- `quotedChar`, `quotedText`: a character between single marks, a text between double marks.
-/

namespace DocQuery.Text.Quoted

/-- A character by its code point, in lower-case hexadecimal digits without leading zeros. -/
def escapeCode (c : Char) : List Char :=
  ['\\', 'u', '\x7b'] ++ Nat.toDigits 16 c.toNat ++ ['\x7d']

/-- One character as it stands between quotation marks of the kind `mark`. The mark itself and
the backslash take a backslash; NUL, tabulator, line feed and carriage return have names; what
cannot be printed, or would be drawn together with its neighbour, is shown by its code point. -/
def encodeChar (mark : Char) (c : Char) : List Char :=
  if c = '\x00' then ['\\', '0']
  else if c = '\t' then ['\\', 't']
  else if c = '\n' then ['\\', 'n']
  else if c = '\r' then ['\\', 'r']
  else if c = mark ∨ c = '\\' then ['\\', c]
  else if isCombining c || !isPrintable c then escapeCode c
  else [c]

/-- A text between quotation marks of the kind `mark`. -/
def encode (mark : Char) (cs : List Char) : List Char :=
  mark :: cs.flatMap (encodeChar mark) ++ [mark]

/-- A character between single quotation marks. -/
def quotedChar (c : Char) : String := String.ofList (encode '\'' [c])

/-- A text between double quotation marks. -/
def quotedText (s : String) : String := String.ofList (encode '"' s.toList)

/-! ## The written form -/

@[simp] theorem encode_nil (mark : Char) : encode mark [] = [mark, mark] := rfl

/-- A printable character other than the mark and the backslash is shown as it is. -/
theorem encodeChar_of_isPrintable {mark c : Char} (hp : isPrintable c = true)
    (hg : isCombining c = false) (hm : c ≠ mark) (hb : c ≠ '\\') :
    encodeChar mark c = [c] := by
  have h0 : c ≠ '\x00' := by rintro rfl; exact absurd hp (by decide)
  have ht : c ≠ '\t' := by rintro rfl; exact absurd hp (by decide)
  have hn : c ≠ '\n' := by rintro rfl; exact absurd hp (by decide)
  have hr : c ≠ '\r' := by rintro rfl; exact absurd hp (by decide)
  simp [encodeChar, h0, ht, hn, hr, hm, hb, hp, hg]

end DocQuery.Text.Quoted
