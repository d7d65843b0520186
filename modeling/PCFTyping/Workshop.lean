import PCFTyping.Term.Shown
import PCFTyping.Ty.Numbering

/-!
Building types and terms from offered parts.

Every part that does not fit is refused, and the refusal shows it. The demands
on the parts of a term are tested in the order name, declared type, sub-terms
from left to right, and the first that fails counts. Each finished term gets a
label of its own, so only handing over the same term twice makes it appear
twice.
-/

namespace PCFTyping

/-- What building draws on: the numbers of types and the next free label. -/
structure Workshop where
  numbering : Numbering
  nextLabel : Label

/-- Work that builds types and terms. -/
abbrev Build := EStateM Stop Workshop

namespace Workshop

/-- Where building starts: the four named types are known. -/
def initial : Workshop := { numbering := .initial, nextLabel := 0 }

/-! ### Demands on parts -/

/-- Refuses a part. -/
def refuse {α : Type} (part : Part) : Build α := do
  throw (.refused (← MonadExcept.ofExcept part.shown))

def requireName (value : Scalar) : Build Name :=
  match Name.ofScalar? value with
  | some name => pure name
  | none => refuse (.plain value)

def requireType : Part → Build Ty
  | .type t => pure t
  | part => refuse part

def requireTerm : Part → Build Term
  | .term t => pure t
  | part => refuse part

/-! ### Types -/

/-- Makes a type and keeps its number. -/
def make (work : Numbered Ty) : Build Ty := fun workshop =>
  let (type, numbering) := work.run workshop.numbering
  .ok type { workshop with numbering }

def prim (name : Scalar) : Build Ty := make (Numbering.mkPrim name)

def base (key : Scalar) : Build Ty := make (Numbering.mkBase key)

/-- Refuses two parts at once and shows both, in explicit form. -/
def refuseBoth {α : Type} (left right : Part) : Build α := do
  let left ← MonadExcept.ofExcept left.explicit
  let right ← MonadExcept.ofExcept right.explicit
  throw (.refused ("(" ++ left ++ ", " ++ right ++ ")"))

def arrow (domain range : Part) : Build Ty :=
  match domain, range with
  | .type domain, .type range => make (Numbering.mkArrow domain range)
  | domain, range => refuseBoth domain range

def pairType (first second : Part) : Build Ty :=
  match first, second with
  | .type first, .type second => make (Numbering.mkPair first second)
  | first, second => refuseBoth first second

/-- An error type. Its kind must be one of the known words; anything may be
guilty or in disagreement. -/
def error (kind : Scalar) (guilty : Part) (mismatch : Mismatch) : Build Ty :=
  let known := match kind with
    | .text word => FailureKind.ofName? word
    | _ => none
  match known with
  | some kind => make (Numbering.mkError ⟨kind, guilty, mismatch⟩)
  | none => refuse (.plain kind)

/-! ### Terms -/

/-- Finishes a term by giving it a label of its own. -/
def finish (term : Label → Term) : Build Term := fun workshop =>
  .ok (term workshop.nextLabel) { workshop with nextLabel := workshop.nextLabel + 1 }

def ident (name : Scalar) : Build Term := do
  let name ← requireName name
  finish (.ident · name)

/-- A number literal; truth values are not numbers here. -/
def number : Scalar → Build Term
  | .int value => finish (.number · value)
  | value => refuse (.plain value)

/-- A truth literal; numbers are not truth values here. -/
def truth : Scalar → Build Term
  | .bool value => finish (.truth · value)
  | value => refuse (.plain value)

def builtin (op : Builtin) : Build Term := finish (.builtin · op)

def fn (param : Scalar) (domain body : Part) : Build Term := do
  let param ← requireName param
  let domain ← requireType domain
  let body ← requireTerm body
  finish (.fn · param domain body)

def app (callee argument : Part) : Build Term := do
  let callee ← requireTerm callee
  let argument ← requireTerm argument
  finish (.app · callee argument)

def recur (name : Scalar) (declared body : Part) : Build Term := do
  let name ← requireName name
  let declared ← requireType declared
  let body ← requireTerm body
  finish (.recur · name declared body)

/-- A conditional. Its three parts are tested together, and a refusal does not
say which of them is no term. -/
def cond (condition thenBranch elseBranch : Part) : Build Term :=
  match condition, thenBranch, elseBranch with
  | .term condition, .term thenBranch, .term elseBranch =>
      finish (.cond · condition thenBranch elseBranch)
  | _, _, _ => throw (.refused "")

def letIn (name : Scalar) (declared binding body : Part) : Build Term := do
  let name ← requireName name
  let declared ← requireType declared
  let binding ← requireTerm binding
  let body ← requireTerm body
  finish (.letIn · name declared binding body)

def pair (first second : Part) : Build Term := do
  let first ← requireTerm first
  let second ← requireTerm second
  finish (.pair · first second)

def proj (side : Side) (inner : Part) : Build Term := do
  let inner ← requireTerm inner
  finish (.proj · side inner)

def bareProj (inner : Part) : Build Term := do
  let inner ← requireTerm inner
  finish (.bareProj · inner)

def bare : Build Term := finish .bare

end Workshop

end PCFTyping
