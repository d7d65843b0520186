import PCFTyping.FailureKind
import PCFTyping.Scalar

/-!
Types, terms and the values that can be offered in their place.

The three are defined together: a term carries the declared types of its
binders, an error type may carry the term at fault, and whatever a caller hands
over is a `Part`, that is a type, a term or a plain value.

* Every type carries its class number. Two types are equal exactly when their
  numbers are (`Ty.sameClass`), however large they are; the numbers are given
  out by `PCFTyping.Ty.Numbering`.
* Every term carries a label, its identity. Two sub-terms with one label are
  one and the same object, seen twice.
-/

namespace PCFTyping

/-- A name that a term may bind or mention: any text but the empty one. -/
structure Name where
  text : String
  nonempty : text ≠ ""
deriving DecidableEq, Repr

/-- Reads a name off a plain value. -/
def Name.ofScalar? : Scalar → Option Name
  | .text value => if h : value ≠ "" then some ⟨value, h⟩ else none
  | _ => none

/-- The identity of a term. -/
abbrev Label := Nat

/-- The built-in functions. -/
inductive Builtin where
  | successor
  | predecessor
  | isZero
deriving DecidableEq, Repr

/-- Which component of a pair a projection takes. -/
inductive Side where
  | first
  | second
deriving DecidableEq, Repr

mutual

/-- A type, with the number of its equality class. `base` is the bare type,
which has a key to be told apart by and no written form. -/
inductive Ty where
  | prim (number : Nat) (name : Scalar)
  | base (number : Nat) (key : Scalar)
  | arrow (number : Nat) (domain range : Ty)
  | pair (number : Nat) (first second : Ty)
  | error (number : Nat) (failure : Failure)

/-- What an error type has to say: what went wrong, who is to blame (the null
value when nobody is) and which types disagreed. -/
structure Failure where
  kind : FailureKind
  guilty : Part
  mismatch : Mismatch

/-- A disagreement between what was needed and what was found. -/
inductive Mismatch where
  | unstated
  | between (need got : Part)

/-- A term. The last two shapes stand outside the language: no rule judges
them and no layout is known for them. -/
inductive Term where
  | ident (label : Label) (name : Name)
  | number (label : Label) (value : Int)
  | truth (label : Label) (value : Bool)
  | builtin (label : Label) (op : Builtin)
  | fn (label : Label) (param : Name) (domain : Ty) (body : Term)
  | app (label : Label) (callee argument : Term)
  | recur (label : Label) (name : Name) (declared : Ty) (body : Term)
  | cond (label : Label) (condition thenBranch elseBranch : Term)
  | letIn (label : Label) (name : Name) (declared : Ty) (binding body : Term)
  | pair (label : Label) (first second : Term)
  | proj (label : Label) (side : Side) (inner : Term)
  | bareProj (label : Label) (inner : Term)
  | bare (label : Label)

/-- Whatever can be offered as a part of a type, of a term or of a scope. -/
inductive Part where
  | plain (value : Scalar)
  | type (t : Ty)
  | term (t : Term)

end

instance : Inhabited Part := ⟨.plain .null⟩

/-! ### Induction

Neither principle descends into what an error type carries, nor from a term
into its declared types. -/

/-- Induction on the parts of a type. -/
@[elab_as_elim, induction_eliminator]
theorem Ty.ind {motive : Ty → Prop}
    (prim : ∀ number name, motive (.prim number name))
    (base : ∀ number key, motive (.base number key))
    (arrow : ∀ number domain range, motive domain → motive range →
      motive (.arrow number domain range))
    (pair : ∀ number first second, motive first → motive second →
      motive (.pair number first second))
    (error : ∀ number failure, motive (.error number failure)) : (type : Ty) → motive type
  | .prim number name => prim number name
  | .base number key => base number key
  | .arrow number domain range => arrow number domain range
      (Ty.ind prim base arrow pair error domain) (Ty.ind prim base arrow pair error range)
  | .pair number first second => pair number first second
      (Ty.ind prim base arrow pair error first) (Ty.ind prim base arrow pair error second)
  | .error number failure => error number failure

/-- Induction on the sub-terms of a term. -/
@[elab_as_elim, induction_eliminator]
theorem Term.ind {motive : Term → Prop}
    (ident : ∀ label name, motive (.ident label name))
    (number : ∀ label value, motive (.number label value))
    (truth : ∀ label value, motive (.truth label value))
    (builtin : ∀ label op, motive (.builtin label op))
    (fn : ∀ label param domain body, motive body → motive (.fn label param domain body))
    (app : ∀ label callee argument, motive callee → motive argument →
      motive (.app label callee argument))
    (recur : ∀ label name declared body, motive body → motive (.recur label name declared body))
    (cond : ∀ label condition thenBranch elseBranch, motive condition → motive thenBranch →
      motive elseBranch → motive (.cond label condition thenBranch elseBranch))
    (letIn : ∀ label name declared binding body, motive binding → motive body →
      motive (.letIn label name declared binding body))
    (pair : ∀ label first second, motive first → motive second →
      motive (.pair label first second))
    (proj : ∀ label side inner, motive inner → motive (.proj label side inner))
    (bareProj : ∀ label inner, motive inner → motive (.bareProj label inner))
    (bare : ∀ label, motive (.bare label)) : (term : Term) → motive term := by
  let rec go : (term : Term) → motive term
    | .ident label name => ident label name
    | .number label value => number label value
    | .truth label value => truth label value
    | .builtin label op => builtin label op
    | .fn label param domain body => fn label param domain body (go body)
    | .app label callee argument => app label callee argument (go callee) (go argument)
    | .recur label name declared body => recur label name declared body (go body)
    | .cond label condition thenBranch elseBranch =>
        cond label condition thenBranch elseBranch (go condition) (go thenBranch) (go elseBranch)
    | .letIn label name declared binding body =>
        letIn label name declared binding body (go binding) (go body)
    | .pair label first second => pair label first second (go first) (go second)
    | .proj label side inner => proj label side inner (go inner)
    | .bareProj label inner => bareProj label inner (go inner)
    | .bare label => bare label
  exact go

/-! ### Types -/

namespace Ty

/-- The number of the class that a type belongs to. -/
def number : Ty → Nat
  | prim number _ | base number _ | arrow number _ _ | pair number _ _ | error number _ => number

/-- Equality of types: one comparison of numbers. -/
def sameClass (s t : Ty) : Bool := s.number == t.number

/-- Whether a type says that something makes no sense. Parts are not looked at. -/
def isError : Ty → Bool
  | error _ _ => true
  | _ => false

/-- What messages call the shape of a type. -/
def kindName : Ty → String
  | prim _ _ => "Primitive"
  | base _ _ => "PCFType"
  | arrow _ _ _ => "FunctionType"
  | pair _ _ _ => "PairType"
  | error _ _ => "Error"

end Ty

/-! ### Terms -/

namespace Term

/-- The identity of a term. -/
def label : Term → Label
  | ident label _ | number label _ | truth label _ | builtin label _ | fn label _ _ _
  | app label _ _ | recur label _ _ _ | cond label _ _ _ | letIn label _ _ _ _ | pair label _ _
  | proj label _ _ | bareProj label _ | bare label => label

/-- What messages call the shape of a term. -/
def kindName : Term → String
  | ident _ _ => "Identifier"
  | number _ _ => "NumberLiteral"
  | truth _ _ => "BoolLiteral"
  | builtin _ .successor => "Successor"
  | builtin _ .predecessor => "Predecessor"
  | builtin _ .isZero => "IsZero"
  | fn _ _ _ _ => "Function"
  | app _ _ _ => "Application"
  | recur _ _ _ _ => "RecursiveDef"
  | cond _ _ _ _ => "Conditional"
  | letIn _ _ _ _ _ => "Let"
  | pair _ _ _ => "Pair"
  | proj _ .first _ => "First"
  | proj _ .second _ => "Second"
  | bareProj _ _ => "Projection"
  | bare _ => "Term"

/-- The name that a term goes by: identifiers, recursive definitions and
let-terms have one. A function has a parameter and no name. -/
def name? : Term → Option Name
  | ident _ name | recur _ name _ _ | letIn _ name _ _ _ => some name
  | _ => none

end Term

/-! ### Parts -/

namespace Part

/-- What messages call the kind of a part. -/
def kindName : Part → String
  | plain value => value.kindName
  | type t => t.kindName
  | term t => t.kindName

/-- The identity of a part, which only terms have. -/
def label? : Part → Option Label
  | term t => some t.label
  | _ => none

/-- The name that a part goes by, which only some terms have. -/
def name? : Part → Option Name
  | term t => t.name?
  | _ => none

end Part

end PCFTyping
