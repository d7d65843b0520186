import PCFTyping.Picture

/-!
Reports: the issues that have been filed, and how many are too many.
-/

namespace PCFTyping

/-- An entry of a report: a picture, or a plain value that somebody filed. -/
inductive Issue where
  | picture (p : Picture)
  | other (value : Scalar)
deriving DecidableEq, Repr

/-- An issue as text; only pictures have one. -/
def Issue.text : Issue → Except Stop String
  | picture p => .ok p.text
  | other value => .error (.lacks value.kindName "as_text")

/-- The issues filed so far, the oldest first. Filing the issue that brings
their number to the limit is stopped; a number beyond the limit is not. -/
structure Report where
  verbose : Bool
  limit : Option Int
  issues : List Issue

namespace Report

/-- A report that keeps quiet and has no limit. -/
def quiet : Report := { verbose := false, limit := none, issues := [] }

/-- An empty report with offered settings: quiet unless told otherwise, and
with a limit of three unless told otherwise. Only a whole number is a limit. -/
def ofSettings (verbose limit : Option Scalar) : Report :=
  { verbose := (verbose.getD (.int 0)).truthy
    limit := (limit.getD (.int 3)).whole?
    issues := [] }

/-- Whether nothing has been filed. -/
def ok (report : Report) : Bool := report.issues.isEmpty

/-- Whether something has been filed. -/
def sick (report : Report) : Bool := !report.ok

/-- How many issues have been filed. -/
def count (report : Report) : Nat := report.issues.length

/-- The report with one more issue. -/
def add (report : Report) (issue : Issue) : Report :=
  { report with issues := report.issues ++ [issue] }

/-- Whether the number of issues is the limit. -/
def atLimit (report : Report) : Bool := report.limit == some (report.count : Int)

/-- The report without issues; its settings stay. -/
def reset (report : Report) : Report := { report with issues := [] }

end Report

end PCFTyping
