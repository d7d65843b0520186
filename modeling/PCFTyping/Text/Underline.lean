import PCFTyping.Text.Blank

/-!
Slices of a line, and a line with one slice of it underlined.

All offsets count characters. The underline has at least one mark and does not
run past the end of the line.
-/

namespace PCFTyping.Text

/-- Where a slice of a text starts and where it stops, the stop not included. -/
structure Span where
  start : Nat
  stop : Nat
deriving DecidableEq, Repr, Inhabited

/-- How many characters a span covers. -/
def Span.width (span : Span) : Nat := span.stop - span.start

/-- The characters of a text that a span covers. -/
def slice (s : String) (span : Span) : String :=
  String.ofList ((s.toList.drop span.start).take span.width)

/-- The blank that stands below a character: a tab below a tab, so that the
columns keep in step, and a space below anything else. -/
def blankBelow (c : Char) : Char := if c = '\t' then '\t' else ' '

/-- How many marks underline `width` characters from `start` on in a line of
`length` characters. -/
def markCount (length start width : Nat) : Nat := max 1 (min width (length - start))

/-- Two lines: `line` behind a margin, and below it a row of marks under the
span, followed by a space and the caption. -/
def underline (margin line : String) (span : Span) (caption : String) : String :=
  let below := (margin.toList ++ line.toList.take span.start).map blankBelow
  let marks := List.replicate (markCount line.length span.start span.width) '^'
  margin ++ trimEnd line ++ "\n" ++ String.ofList (below ++ marks) ++ " " ++ caption

end PCFTyping.Text
