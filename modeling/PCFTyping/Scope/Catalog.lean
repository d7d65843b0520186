import PCFTyping.Scope.Basic

/-!
Scopes kept under numbers, so that each can be extended, asked and compared
later on.
-/

namespace PCFTyping

/-- Scopes in the order in which they were made; the number of a scope is its
place. -/
structure Catalog where
  scopes : List Scope

namespace Catalog

/-- Number zero is the empty scope. -/
def initial : Catalog := { scopes := [.empty] }

/-- The scope with a number. -/
def get? (catalog : Catalog) (number : Nat) : Option Scope := catalog.scopes[number]?

/-- Keeps a scope under the next free number. -/
def push (catalog : Catalog) (scope : Scope) : Catalog × Nat :=
  ({ scopes := catalog.scopes ++ [scope] }, catalog.scopes.length)

/-- Whether two numbers stand for one scope. There is a single empty scope;
any other scope is one of its own. -/
def same (catalog : Catalog) (i j : Nat) : Bool :=
  i == j || match catalog.get? i, catalog.get? j with
    | some s, some t => s.isEmpty && t.isEmpty
    | _, _ => false

end Catalog

end PCFTyping
