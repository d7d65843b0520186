import PCFTyping.Stop
import PCFTyping.Term.Basic

/-!
Equality of parts, and the classes it makes of a list.
-/

namespace PCFTyping

namespace Part

/-- Two types are equal when their class is, two plain values when their key
is, two terms when they are one object; parts of different kinds never are. -/
def same : Part → Part → Bool
  | plain v, plain w => v.key == w.key
  | type s, type t => s.sameClass t
  | term s, term t => s.label == t.label
  | _, _ => false

/-- The class number of a part, which only types have. -/
def requireNumber : Part → Except Stop Nat
  | type t => .ok t.number
  | part => .error (.lacks part.kindName "equivalence_class")

/-- Compares the class numbers of two parts, the left one read first. -/
def equivalent (a b : Part) : Except Stop Bool := do
  let left ← a.requireNumber
  let right ← b.requireNumber
  return left == right

end Part

/-- Numbers the classes of a list of parts in the order of their first
members; `leaders` are the first members of the classes known so far. -/
def classNumbers (leaders : List Part) : List Part → List Nat
  | [] => []
  | part :: rest =>
    match leaders.findIdx? (part.same ·) with
    | some number => number :: classNumbers leaders rest
    | none => leaders.length :: classNumbers (leaders ++ [part]) rest

end PCFTyping
