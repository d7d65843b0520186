import PCFTyping.Fault
import PCFTyping.Ty.Numbering

/-!
The typing rules, one for each shape of term.

Terms are fully annotated, so one pass from the top down finds the type. The
first failure ends it: nothing else is looked at, and no rule sees an error
type among its premises.

The bound term of a let, the components of a pair and the term that a
projection takes apart are judged in the empty scope. The bodies of functions,
of recursive definitions and of lets are judged in the extended scope, all else
in the scope of the whole.
-/

namespace PCFTyping

/-- Why the rules give no type. -/
inductive Halt where
  /-- A rule does not apply; the scope is the one in force there. -/
  | fault (scope : Scope) (fault : Fault)
  /-- An error type came out of a declared type or out of the scope. -/
  | inherited (number : Nat) (failure : Failure)
  /-- There is no rule for a term of this shape. -/
  | noRule (t : Term)
  /-- What the scope has for this identifier is no type. -/
  | notAType (ident : Term)

/-- Judging makes new types. -/
abbrev Judging := EStateM Halt Numbering

namespace Judging

/-- Makes a new type. -/
def make (work : Numbered Ty) : Judging Ty := fun numbering =>
  let (type, numbering) := work.run numbering
  .ok type numbering

/-- Accepts a type that was declared somewhere, unless it is an error type. -/
def settle : Ty → Judging Ty
  | .error number failure => throw (.inherited number failure)
  | type => pure type

/-- Takes the type of a callee apart. -/
def expectArrow (scope : Scope) (callee : Term) : Ty → Judging (Ty × Ty)
  | .arrow _ domain range => pure (domain, range)
  | got => throw (.fault scope (.notAFunction callee got))

/-- Takes the type of a pair apart. -/
def expectPair (scope : Scope) (expr : Term) : Ty → Judging (Ty × Ty)
  | .pair _ first second => pure (first, second)
  | got => throw (.fault scope (.notAPair expr got))

/-- Compares the type that a place needs with the type found there. -/
def expectSame (scope : Scope) (demand : Demand) (expr : Term) (need got : Ty) : Judging Unit :=
  if need.sameClass got then pure () else throw (.fault scope (.mismatch demand expr need got))

end Judging

/-- The type of a built-in function. -/
def Builtin.type : Builtin → Ty
  | successor | predecessor => .intToInt
  | isZero => .intToBool

/-- The component of a pair on one side. -/
def Side.component {α : Type} : Side → α × α → α
  | first, components => components.1
  | second, components => components.2

open Judging in
/-- The type of a term in a scope. -/
def Term.judge : Term → Scope → Judging Ty
  | t@(ident _ name), scope =>
    match scope.lookup name.text with
    | none => throw (.fault scope (.unbound t))
    | some (.type type) => settle type
    | some _ => throw (.notAType t)
  | number _ _, _ => pure .integer
  | truth _ _, _ => pure .boolean
  | builtin _ op, _ => pure op.type
  | fn _ param domain body, scope => do
    let range ← body.judge (scope.extend param.text domain)
    make (Numbering.mkArrow domain range)
  | app _ callee argument, scope => do
    let (domain, range) ← expectArrow scope callee (← callee.judge scope)
    let got ← argument.judge scope
    expectSame scope .argument argument domain got
    settle range
  | recur _ name declared body, scope => do
    let inner := scope.extend name.text declared
    let got ← body.judge inner
    expectSame inner .recursion body declared got
    pure declared
  | t@(cond _ condition thenBranch elseBranch), scope => do
    let conditionType ← condition.judge scope
    let thenType ← thenBranch.judge scope
    let elseType ← elseBranch.judge scope
    expectSame scope .condition condition .boolean conditionType
    if thenType.sameClass elseType then pure thenType
    else throw (.fault scope (.branches t thenBranch elseBranch thenType elseType))
  | letIn _ name declared binding body, scope => do
    let got ← binding.judge .empty
    expectSame .empty .binding binding declared got
    body.judge (scope.extend name.text declared)
  | pair _ first second, _ => do
    let firstType ← first.judge .empty
    let secondType ← second.judge .empty
    make (Numbering.mkPair firstType secondType)
  | proj _ side inner, _ => do
    let components ← expectPair .empty inner (← inner.judge .empty)
    settle (side.component components)
  | t@(bareProj _ _), _ | t@(bare _), _ => throw (.noRule t)

end PCFTyping
