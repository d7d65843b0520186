import PCFTyping.Term.Basic

/-!
Sub-terms and the paths that lead to them.

A path lists, from the root down, which child to step to. Declared types and
what error types carry are not sub-terms. `Term.occurrences` lists every place
in a term in pre-order; one object may be found at several places.
-/

namespace PCFTyping

/-- The way from a term down to one of its sub-terms: child numbers, from zero. -/
abbrev Path := List Nat

namespace Term

/-- The immediate sub-terms, from left to right. -/
def children : Term → List Term
  | ident _ _ | number _ _ | truth _ _ | builtin _ _ | bare _ => []
  | fn _ _ _ body | recur _ _ _ body => [body]
  | app _ callee argument => [callee, argument]
  | cond _ condition thenBranch elseBranch => [condition, thenBranch, elseBranch]
  | letIn _ _ _ binding body => [binding, body]
  | pair _ first second => [first, second]
  | proj _ _ inner | bareProj _ inner => [inner]

/-- The sub-term at the end of a path, if the path stays inside the term. -/
def follow? : Term → Path → Option Term
  | t, [] => some t
  | t, i :: rest => t.children[i]?.bind (follow? · rest)

/-- Places of a child, seen from its parent. -/
def underChild (i : Nat) (places : List (Path × Term)) : List (Path × Term) :=
  places.map fun place => (i :: place.1, place.2)

/-- Every place of a term with the sub-term there, in pre-order: a term before
its children, the children from left to right. -/
def occurrences : Term → List (Path × Term)
  | t@(ident _ _) | t@(number _ _) | t@(truth _ _) | t@(builtin _ _) | t@(bare _) => [([], t)]
  | t@(fn _ _ _ body) | t@(recur _ _ _ body) => ([], t) :: underChild 0 body.occurrences
  | t@(app _ callee argument) =>
      ([], t) :: (underChild 0 callee.occurrences ++ underChild 1 argument.occurrences)
  | t@(cond _ condition thenBranch elseBranch) =>
      ([], t) :: (underChild 0 condition.occurrences ++ underChild 1 thenBranch.occurrences ++
        underChild 2 elseBranch.occurrences)
  | t@(letIn _ _ _ binding body) =>
      ([], t) :: (underChild 0 binding.occurrences ++ underChild 1 body.occurrences)
  | t@(pair _ first second) =>
      ([], t) :: (underChild 0 first.occurrences ++ underChild 1 second.occurrences)
  | t@(proj _ _ inner) | t@(bareProj _ inner) => ([], t) :: underChild 0 inner.occurrences

/-- The first path, in pre-order, that leads to the object with a label. -/
def pathOf? (t : Term) (label : Label) : Option Path :=
  (t.occurrences.find? fun place => place.2.label == label).map (·.1)

end Term

/-- Where in a term the guilty part of a failure is first found. -/
def Failure.path? (failure : Failure) (root : Term) : Option Path :=
  failure.guilty.label?.bind root.pathOf?

/-- Drops from a list of terms every object that was seen before: one whose
label is among `seen`, or that stands earlier in the list. -/
def firstAppearances (seen : List Label) : List Term → List Term
  | [] => []
  | t :: rest =>
    if t.label ∈ seen then firstAppearances seen rest
    else t :: firstAppearances (t.label :: seen) rest

/-- The objects of a term that are not among `seen`, each once, in the order
of their first places. -/
def Term.newObjects (seen : List Label) (t : Term) : List Term :=
  firstAppearances seen (t.occurrences.map (·.2))

end PCFTyping
