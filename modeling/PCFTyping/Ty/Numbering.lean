import PCFTyping.Term.Basic

/-!
Class numbers for types.

A numbering lists the distinct nodes that types have been made of so far. A
node says which shape a type has and, for its parts, only their numbers; the
number of a type is the place of its node in the list. Equal types have equal
nodes and so one number, and comparing two types costs one comparison of
numbers whatever their size.

Types are made by `Numbering.mkPrim`, `mkBase`, `mkArrow`, `mkPair` and
`mkError` only, which look their node up and add it at the end when it is new.
`Numbering.initial` holds the four named types.
-/

namespace PCFTyping

/-- What makes a type one of its class: its shape, its key if it has one, and
the numbers of its parts. All error types are alike. -/
inductive NodeKey where
  | prim (key : Scalar.Key)
  | base (key : Scalar.Key)
  | arrow (domain range : Nat)
  | pair (first second : Nat)
  | error
deriving DecidableEq, Repr

/-- The nodes known so far, the oldest first, each once. -/
structure Numbering where
  keys : List NodeKey
  nodup : keys.Nodup

/-- Work that may make new types. -/
abbrev Numbered := StateM Numbering

namespace Numbering

/-- The place of a node: of a new one, the next free place. -/
def number (numbering : Numbering) (key : NodeKey) : Nat := numbering.keys.idxOf key

/-- A numbering that knows one more node, if it is new. -/
def insert (numbering : Numbering) (key : NodeKey) : Numbering :=
  if h : key ∈ numbering.keys then numbering
  else
    { keys := numbering.keys ++ [key]
      nodup := by
        rw [List.nodup_append]
        refine ⟨numbering.nodup, by simp, ?_⟩
        intro a ha b hb e
        exact h (List.mem_singleton.mp hb ▸ e ▸ ha) }

/-- Looks a node up, adding it when it is new, and gives its number. -/
def intern (key : NodeKey) : Numbered Nat := fun numbering =>
  (numbering.number key, numbering.insert key)

/-- Nothing that was known is moved or forgotten. -/
theorem keys_insert (numbering : Numbering) (key : NodeKey) :
    (numbering.insert key).keys =
      if key ∈ numbering.keys then numbering.keys else numbering.keys ++ [key] := by
  unfold insert
  split <;> rfl

/-- The number of a node is the place where the node is then found. -/
theorem getElem?_number_insert (numbering : Numbering) (key : NodeKey) :
    (numbering.insert key).keys[numbering.number key]? = some key := by
  rw [keys_insert, number]
  split
  · rename_i known
    rw [List.getElem?_eq_getElem (List.idxOf_lt_length_of_mem known), List.getElem_idxOf]
  · rename_i fresh
    rw [List.idxOf_eq_length fresh]
    simp

/-! ### Making types -/

/-- A primitive type, known by its name. -/
def mkPrim (name : Scalar) : Numbered Ty := return .prim (← intern (.prim name.key)) name

/-- The bare type with a key. -/
def mkBase (key : Scalar) : Numbered Ty := return .base (← intern (.base key.key)) key

/-- The type of functions from one type to another. -/
def mkArrow (domain range : Ty) : Numbered Ty :=
  return .arrow (← intern (.arrow domain.number range.number)) domain range

/-- The type of pairs. -/
def mkPair (first second : Ty) : Numbered Ty :=
  return .pair (← intern (.pair first.number second.number)) first second

/-- An error type. What it carries plays no part in its number. -/
def mkError (failure : Failure) : Numbered Ty := return .error (← intern .error) failure

end Numbering

/-! ### The named types -/

namespace Ty

def integer : Ty := .prim 0 (.text "Integer")

def boolean : Ty := .prim 1 (.text "Boolean")

/-- The type of the successor and the predecessor function. -/
def intToInt : Ty := .arrow 2 integer integer

/-- The type of the test for zero. -/
def intToBool : Ty := .arrow 3 integer boolean

end Ty

namespace Numbering

/-- Nothing known yet. -/
def empty : Numbering := { keys := [], nodup := by simp }

/-- What is known when work begins: the four named types. -/
def initial : Numbering :=
  { keys := [.prim (.text "Integer"), .prim (.text "Boolean"), .arrow 0 0, .arrow 0 1]
    nodup := by decide }

/-- The named types are those that are made first. -/
theorem run_named_empty :
    (do
      let integer ← mkPrim (.text "Integer")
      let boolean ← mkPrim (.text "Boolean")
      return (integer, boolean, ← mkArrow integer integer, ← mkArrow integer boolean) :
        Numbered _).run empty =
      ((Ty.integer, Ty.boolean, Ty.intToInt, Ty.intToBool), initial) := rfl

end Numbering

end PCFTyping
