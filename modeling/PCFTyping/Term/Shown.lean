import PCFTyping.Layout
import PCFTyping.Text.Quoted

/-!
Parts as text: as they are shown inside a sentence, and in the explicit form
that tells texts, types and terms apart.
-/

namespace PCFTyping

/-- A part as it is shown inside a sentence. -/
def Part.shown : Part → Except Stop String
  | plain value => .ok value.display
  | type t => t.render
  | term t => t.render

/-- A term in its explicit form: its shape and its text, in angle brackets. -/
def Term.explicit (t : Term) : Except Stop String := do
  return "<" ++ t.kindName ++ ": " ++ (← t.render) ++ ">"

/-- A part in its explicit form: a text is quoted, a term says its shape. -/
def Part.explicit : Part → Except Stop String
  | plain (.text value) => .ok (Text.quoted value)
  | plain value => .ok value.display
  | type t => do (← t.written).requireText .explicit
  | term t => t.explicit

/-! ### Explanations -/

/-- What an error type has to say: the kind of failure, the guilty part if
there is one, and the types that disagree if they are known. -/
def Failure.explain (failure : Failure) : Except Stop String := do
  let blame ← match failure.guilty with
    | .plain .null => pure ""
    | guilty => pure (" at " ++ (← guilty.shown))
  let disagreement ← match failure.mismatch with
    | .unstated => pure ""
    | .between need got => pure (": needed " ++ (← need.shown) ++ " but got " ++ (← got.shown))
  return failure.kind.name ++ blame ++ disagreement

/-- What a display says about a type: the explanation of an error, the written
form of anything else. -/
def Ty.verdict : Ty → Except Stop Scalar
  | .error _ failure => return .text (← failure.explain)
  | t => t.written

end PCFTyping
