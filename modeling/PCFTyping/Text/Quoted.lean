import PCFTyping.Text.Printable

/-!
Quoted texts: a text between two quotation marks, with the characters that
would not survive there written as escapes.
-/

namespace PCFTyping.Text

/-- `n` in base sixteen, with zeros in front up to `width` digits. -/
def hex (width n : Nat) : List Char :=
  let digits := Nat.toDigits 16 n
  List.replicate (width - digits.length) '0' ++ digits

/-- The mark around a quoted text: the double one when the text holds a single
one and no double one, the single one otherwise. -/
def quotationMark (cs : List Char) : Char :=
  if cs.contains '\x27' && !cs.contains '\x22' then '\x22' else '\x27'

/-- One character between two marks. The mark itself and the backslash take a
backslash in front; line feed, carriage return and tab have a letter; any other
character that is not printable is written as its code point in two, four or
eight hexadecimal digits, whichever is the least that holds it. -/
def escape (mark c : Char) : List Char :=
  if c = mark ∨ c = '\\' then ['\\', c]
  else if c = '\n' then ['\\', 'n']
  else if c = '\r' then ['\\', 'r']
  else if c = '\t' then ['\\', 't']
  else if isPrintable c then [c]
  else if c.toNat < 0x100 then '\\' :: 'x' :: hex 2 c.toNat
  else if c.toNat < 0x10000 then '\\' :: 'u' :: hex 4 c.toNat
  else '\\' :: 'U' :: hex 8 c.toNat

/-- A text in quotation marks. -/
def quoted (s : String) : String :=
  let mark := quotationMark s.toList
  String.ofList (mark :: s.toList.flatMap (escape mark) ++ [mark])

end PCFTyping.Text
