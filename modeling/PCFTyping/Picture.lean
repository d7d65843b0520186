import PCFTyping.Layout

/-!
Pictures: a line of text with parts of it underlined.

There is no source text to point at, so the written form of the whole term
stands in for one.
-/

namespace PCFTyping

open Text (Span)

/-- One underlined node on the written form of a whole term. -/
structure Mark where
  text : String
  span : Span
  caption : String
deriving DecidableEq, Repr

namespace Mark

/-- Underlines a node of a root. The root is written first; then the node must
be one of its objects. -/
def of (root node : Part) (caption : String) : Except Stop Mark := do
  let layout ← root.layout
  match node.label?.bind layout.span? with
  | some span => return { text := layout.text, span, caption }
  | none => throw .notPlaced

/-- What stands in front of a quoted line. -/
def margin : String := "  |"

/-- The quoted line and its underline. -/
def illustrate (mark : Mark) : String := Text.underline margin mark.text mark.span mark.caption

end Mark

/-- An introduction, any number of underlined nodes, and some last lines. -/
structure Picture where
  intro : String
  marks : List Mark
  footer : List String
deriving DecidableEq, Repr

/-- A picture as text: an empty line follows the introduction. -/
def Picture.text (picture : Picture) : String :=
  "\n".intercalate ([picture.intro, ""] ++ picture.marks.map Mark.illustrate ++ picture.footer)

end PCFTyping
