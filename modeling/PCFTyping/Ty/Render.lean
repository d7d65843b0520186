import PCFTyping.Stop
import PCFTyping.Term.Basic

/-!
The written form of a type.

An arrow is written without parentheses on either side, a pair in parentheses
with a comma, and an error type as one word whatever it carries. The bare type
has no written form, so neither has any type that contains it.

A primitive type is written as its name, whatever plain value that is. Both
sides of an arrow must be texts; a pair shows its components as they are.
`Ty.render` is the written form where it has to be a text.
-/

namespace PCFTyping.Ty

/-- Writes a type. Anything but a primitive type is written as a text. -/
def written : Ty → Except Stop Scalar
  | prim _ name => .ok name
  | base _ _ => .error .abstractType
  | arrow _ domain range => do
    let left ← (← domain.written).requireText .continued
    let right ← (← range.written).requireText .added
    return .text (left ++ " -> " ++ right)
  | pair _ first second => do
    let left ← first.written
    let right ← second.written
    return .text ("(" ++ left.display ++ ", " ++ right.display ++ ")")
  | error _ _ => .ok (.text "Error")

/-- Writes a type as a text. -/
def render (type : Ty) : Except Stop String := do (← type.written).requireText .shown

/-- A type can be shown exactly when its written form is a text. -/
theorem render_eq_ok_iff {type : Ty} {s : String} :
    type.render = .ok s ↔ type.written = .ok (.text s) := by
  unfold render
  cases type.written with
  | error stop => simp [bind, Except.bind]
  | ok value => simp [bind, Except.bind, Scalar.requireText_eq_ok_iff]

end PCFTyping.Ty
