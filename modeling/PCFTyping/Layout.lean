import PCFTyping.Term.Path
import PCFTyping.Text.Underline
import PCFTyping.Ty.Render

/-!
A term on one line, and where on the line each of its sub-terms stands.

`Term.place` writes a term at the end of a layout. A node that is completely
written gets a span, from the width before it to the width after it, unless its
label has one already: an object that appears again keeps the span of its first
appearance. Writing stops at the first sub-term without a layout and at the
first binder whose declared type has no written form; the text and the spans
up to there stay. A binder's declared type is written out before the binder's
keyword, so such a binder leaves nothing behind.

A line is put together from pieces. A primitive type may be written as
something other than a text; as a piece it cannot be measured, so writing stops
there too, and with that piece on it the line can never again be read off.
-/

namespace PCFTyping

open Text (Span)

/-- A line in the making: the text, its length, the number of its pieces, the
first piece that is no text with the number of pieces before it, and the spans
of the objects on the line. -/
structure Layout where
  text : String
  width : Nat
  pieces : Nat
  flaw : Option (Nat × Scalar)
  spans : List (Label × Span)
deriving Repr

/-- Work on a line. When it stops early, the line keeps what is on it. -/
abbrev Placing := EStateM Stop Layout

namespace Layout

/-- A line with nothing on it. -/
def empty : Layout := { text := "", width := 0, pieces := 0, flaw := none, spans := [] }

/-- The line with a text added at its end. -/
def append (layout : Layout) (s : String) : Layout :=
  { layout with
    text := layout.text ++ s
    width := layout.width + s.length
    pieces := layout.pieces + 1 }

/-- The line with a piece added that is no text. -/
def spoil (layout : Layout) (value : Scalar) : Layout :=
  { layout with
    pieces := layout.pieces + 1
    flaw := layout.flaw.or (some (layout.pieces, value)) }

/-- The text of the whole line, if all of its pieces are texts. -/
def line (layout : Layout) : Except Stop String :=
  match layout.flaw with
  | none => .ok layout.text
  | some (before, value) => .error (.notText (.joined before) value)

/-- The span of the object with a label. -/
def span? (layout : Layout) (label : Label) : Option Span := layout.spans.lookup label

/-- The line with a span noted for a label that has none yet. -/
def record (layout : Layout) (label : Label) (span : Span) : Layout :=
  if (layout.span? label).isSome then layout
  else { layout with spans := (label, span) :: layout.spans }

end Layout

/-! ### Placing terms -/

namespace Placing

/-- Writes a text at the end of the line. -/
def emit (s : String) : Placing Unit := modify (·.append s)

/-- Writes a node and notes where it stands once it is complete. -/
def node (label : Label) (content : Placing Unit) : Placing Unit := do
  let start := (← get).width
  content
  modify fun layout => layout.record label ⟨start, layout.width⟩

/-- Writes out a declared type, which stays off the line for now. -/
def declared (type : Ty) : Placing Scalar := MonadExcept.ofExcept type.written

/-- Writes a plain value at the end of the line; only a text can be measured. -/
def emitScalar : Scalar → Placing Unit
  | .text s => emit s
  | value => do
    modify (·.spoil value)
    throw (.notText .measured value)

end Placing

/-- The word for a built-in function. -/
def Builtin.word : Builtin → String
  | successor => "Succ"
  | predecessor => "Pred"
  | isZero => "IsZero"

/-- The word for a projection. -/
def Side.word : Side → String
  | first => "fst"
  | second => "snd"

open Placing in
/-- Writes a term at the end of the line. -/
def Term.place : Term → Placing Unit
  | ident label name => node label (emit name.text)
  | number label value => node label (emit (toString value))
  | truth label value => node label (emit (if value then "true" else "false"))
  | builtin label op => node label (emit op.word)
  | fn label param domain body => node label do
    let shown ← declared domain
    emit "fn "
    emit param.text
    emit ":"
    emitScalar shown
    emit " => "
    body.place
  | app label callee argument => node label do
    callee.place
    emit " ("
    argument.place
    emit ")"
  | recur label name type body => node label do
    let shown ← declared type
    emit name.text
    emit ":"
    emitScalar shown
    emit " => "
    body.place
  | cond label condition thenBranch elseBranch => node label do
    emit "if ("
    condition.place
    emit ") then ("
    thenBranch.place
    emit ") else ("
    elseBranch.place
    emit ")"
  | letIn label name type binding body => node label do
    let shown ← declared type
    emit "let "
    emit name.text
    emit ": "
    emitScalar shown
    emit " = "
    binding.place
    emit " in "
    body.place
  | pair label first second => node label do
    emit "("
    first.place
    emit ", "
    second.place
    emit ")"
  | proj label side inner => node label do
    emit (side.word ++ " (")
    inner.place
    emit ")"
  | t@(bareProj _ _) | t@(bare _) => throw (.noLayout t.kindName)

/-- Writes a part at the end of the line; only terms have a layout. -/
def Part.place : Part → Placing Unit
  | .term t => t.place
  | part => throw (.noLayout part.kindName)

/-- Writes a part at the end of the line and gives the whole line. -/
def Part.write (part : Part) : Placing String := do
  part.place
  MonadExcept.ofExcept (← get).line

/-- A line of its own for a part. -/
def Part.layout (part : Part) : Except Stop Layout :=
  match part.place.run .empty with
  | .ok _ layout => .ok layout
  | .error stop _ => .error stop

/-- The new objects of a term with their places on the line, in the order of
their first appearance. -/
def Layout.placements (layout : Layout) (seen : List Label) (t : Term) : List (Term × Span) :=
  (t.newObjects seen).filterMap fun object => (layout.span? object.label).map (object, ·)

/-- A term as text. -/
def Term.render (t : Term) : Except Stop String := (Part.term t).layout.map (·.text)

end PCFTyping
