/-
Blank characters, and the removal of blanks at the end of a line.
-/

namespace PCFTyping.Text

/-- The blank characters: the layout controls, the separators of files,
groups, records and units, the spaces of every width, and the separators of
lines and paragraphs. A zero-width space is no blank. -/
def isBlank (c : Char) : Bool :=
  let n := c.toNat
  (0x09 ≤ n && n ≤ 0x0D) || (0x1C ≤ n && n ≤ 0x20) || n == 0x85 || n == 0xA0 ||
  n == 0x1680 || (0x2000 ≤ n && n ≤ 0x200A) || n == 0x2028 || n == 0x2029 ||
  n == 0x202F || n == 0x205F || n == 0x3000

/-- A text without the blanks at its end. -/
def trimEnd (s : String) : String :=
  String.ofList ((s.toList.reverse.dropWhile isBlank).reverse)

end PCFTyping.Text
