import PCFTyping.Scalar

/-!
Why a piece of work ends without a result.
-/

namespace PCFTyping

/-- What a text is needed for. -/
inductive TextUse where
  /-- To be shown inside a sentence. -/
  | shown
  /-- To be shown in explicit form. -/
  | explicit
  /-- To be continued by another text. -/
  | continued
  /-- To be added to another text. -/
  | added
  /-- To be measured as a piece of a line. -/
  | measured
  /-- To be joined with the other pieces of a line; the pieces before it are
  counted. -/
  | joined (before : Nat)
deriving DecidableEq, Repr

/-- A cause for stopping. An ill-typed term is no such cause: it has an error
type for its result. -/
inductive Stop where
  /-- A value does not fit where it was offered; the text shows it. -/
  | refused (shown : String)
  /-- The checker met something it has no account of. -/
  | unfinished (hint : Scalar)
  /-- Issues were left where none should be. -/
  | issuesRemain (message : String)
  /-- No layout is known for values of this kind. -/
  | noLayout (kind : String)
  /-- No rule judges terms of this kind. -/
  | noRule (kind : String)
  /-- A value of this kind has no such feature. -/
  | lacks (kind feature : String)
  /-- The bare type has no written form. -/
  | abstractType
  /-- A text is needed, and this value is none. -/
  | notText (use : TextUse) (value : Scalar)
  /-- The report reached its limit. -/
  | tooManyIssues
  /-- The node to underline was not placed on the line. -/
  | notPlaced
deriving DecidableEq, Repr

/-- What is said about a value of some kind that stands where a text is needed. -/
def TextUse.message (kind : String) : TextUse → String
  | shown => "__str__ returned non-string (type " ++ kind ++ ")"
  | explicit => "__repr__ returned non-string (type " ++ kind ++ ")"
  | continued => "unsupported operand type(s) for +: '" ++ kind ++ "' and 'str'"
  | added => "can only concatenate str (not \"" ++ kind ++ "\") to str"
  | measured => "object of type '" ++ kind ++ "' has no len()"
  | joined before =>
      "sequence item " ++ toString before ++ ": expected str instance, " ++ kind ++ " found"

/-- What is said about a cause. -/
def Stop.message : Stop → String
  | refused shown => shown
  | unfinished hint => hint.display
  | issuesRemain message => message
  | noLayout kind => "'Render' object has no attribute 'visit_" ++ kind ++ "'"
  | noRule kind => "'TypeChecker' object has no attribute 'visit_" ++ kind ++ "'"
  | lacks kind feature => "'" ++ kind ++ "' object has no attribute '" ++ feature ++ "'"
  | abstractType => "<class 'pcf.static.domain.PCFType'>"
  | notText use value => use.message value.kindName
  | tooManyIssues => ""
  | notPlaced => ""

/-- The text that a plain value is, where one is needed. -/
def Scalar.requireText (use : TextUse) : Scalar → Except Stop String
  | .text value => .ok value
  | value => .error (.notText use value)

/-- Only a text passes for a text. -/
theorem Scalar.requireText_eq_ok_iff {use : TextUse} {value : Scalar} {s : String} :
    value.requireText use = .ok s ↔ value = .text s := by
  cases value <;> simp [requireText]

end PCFTyping
