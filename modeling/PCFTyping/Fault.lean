import PCFTyping.Picture
import PCFTyping.Scope.Basic

/-!
What a report can be told, and what the checker finds.

A `Complaint` is told about any parts whatever and is turned into a picture of
the whole term. A `Fault` is what the checker itself finds: it names terms and
types, and it determines both the complaint (`Fault.complaint`) and the error
type (`Fault.failure`) that come of it.
-/

namespace PCFTyping

/-! ### Complaints -/

/-- Something to say about one or two nodes of a term. -/
inductive Complaint where
  | unbound (ident : Part)
  | notAFunction (callee got : Part)
  | notAPair (expr got : Part)
  | badType (intro : String) (expr need got : Part)
  | branches (thenBranch thenType elseBranch elseType : Part)

/-- The name that a part goes by, which the part may lack. -/
def Part.requireName (part : Part) : Except Stop String :=
  match part.name? with
  | some name => .ok name.text
  | none => .error (.lacks part.kindName "name")

/-- The picture of a complaint about a root. The words come first, then the
underlined nodes, then the scope. -/
def Complaint.picture (setting : Setting) (root : Part) : Complaint → Except Stop Picture
  | unbound ident => do
    let name ← ident.requireName
    let mark ← Mark.of root ident "not bound here"
    return ⟨"I don't see what '" ++ name ++ "' refers to.", [mark], ← setting.footer⟩
  | notAFunction callee got => do
    let shown ← got.shown
    let mark ← Mark.of root callee ("Found to be " ++ shown)
    return ⟨"Dunno how to call " ++ shown ++ " as a function.", [mark], ← setting.footer⟩
  | notAPair expr got => do
    let shown ← got.shown
    let mark ← Mark.of root expr ("Found to be " ++ shown)
    return ⟨"Only a pair can be taken apart, but this is " ++ shown ++ ".", [mark],
      ← setting.footer⟩
  | badType intro expr need got => do
    let found ← got.shown
    let needed ← need.shown
    let mark ← Mark.of root expr ("This " ++ found ++ " needs to be a(n) " ++ needed ++ ".")
    return ⟨intro, [mark], ← setting.footer⟩
  | branches thenBranch thenType elseBranch elseType => do
    let thenMark ← Mark.of root thenBranch (← thenType.shown)
    let elseMark ← Mark.of root elseBranch (← elseType.shown)
    return ⟨"Types for these branches need to match, but they do not.", [thenMark, elseMark],
      ← setting.footer⟩

/-! ### Faults -/

/-- The places where a term must have a type known beforehand. -/
inductive Demand where
  | argument
  | recursion
  | binding
  | condition
deriving DecidableEq, Repr

namespace Demand

/-- How a complaint about a place begins. -/
def intro : Demand → String
  | argument => "Type-checking found a disagreement over an argument."
  | recursion => "This recursive definition does not produce its declared type."
  | binding => "This let-binding does not match its declared type."
  | condition => "The condition of an if-expression must be a Boolean."

/-- The kind of failure at a place. A bad condition counts with the bad
branches. -/
def kind : Demand → FailureKind
  | argument => .argumentTypeMismatch
  | recursion => .recursionTypeMismatch
  | binding => .letTypeMismatch
  | condition => .conditionalBranchMismatch

end Demand

/-- Why a rule does not apply. -/
inductive Fault where
  | unbound (ident : Term)
  | notAFunction (callee : Term) (got : Ty)
  | mismatch (demand : Demand) (expr : Term) (need got : Ty)
  | branches (cond thenBranch elseBranch : Term) (thenType elseType : Ty)
  | notAPair (expr : Term) (got : Ty)

namespace Fault

/-- What a report is told about a fault. -/
def complaint : Fault → Complaint
  | unbound ident => .unbound (.term ident)
  | notAFunction callee got => .notAFunction (.term callee) (.type got)
  | mismatch demand expr need got =>
      .badType demand.intro (.term expr) (.type need) (.type got)
  | branches _ thenBranch elseBranch thenType elseType =>
      .branches (.term thenBranch) (.type thenType) (.term elseBranch) (.type elseType)
  | notAPair expr got => .notAPair (.term expr) (.type got)

/-- What the error type that comes of a fault carries. Branches that differ
are the fault of the whole conditional. -/
def failure : Fault → Failure
  | unbound ident => ⟨.unboundIdentifier, .term ident, .unstated⟩
  | notAFunction callee _ => ⟨.notAFunction, .term callee, .unstated⟩
  | mismatch demand expr need got =>
      ⟨demand.kind, .term expr, .between (.type need) (.type got)⟩
  | branches cond _ _ _ _ => ⟨.conditionalBranchMismatch, .term cond, .unstated⟩
  | notAPair expr _ => ⟨.notAPair, .term expr, .unstated⟩

end Fault

end PCFTyping
