import PCFTyping.Term.Shown

/-!
Scopes: which names are bound, and to which types.

A scope is a stack of bindings on top of an outermost scope. A name means the
innermost binding of it, or else what the outermost scope says. Extending a
scope leaves the extended one as it is.

`Scope.bindings` lists the names that the stack binds, each once with its
innermost binding and in the order of these bindings, the outermost first.
-/

namespace PCFTyping

/-- What lies below all bindings: nothing, or a table kept by the caller. The
last entry of a name in the table counts. -/
inductive Outermost where
  | empty
  | custom (table : List (String × Part))

/-- What the outermost scope has for a name. The null value means nothing. -/
def Outermost.lookup (name : String) : Outermost → Option Part
  | empty => none
  | custom table =>
    match table.reverse.lookup name with
    | none | some (.plain .null) => none
    | some part => some part

/-- A stack of bindings, the innermost first. -/
structure Scope where
  outermost : Outermost
  frames : List (String × Ty)

namespace Scope

/-- The scope in which nothing is bound. -/
def empty : Scope := { outermost := .empty, frames := [] }

/-- The scope of a table kept by the caller. -/
def custom (table : List (String × Part)) : Scope := { outermost := .custom table, frames := [] }

/-- A scope with one more binding. -/
def extend (scope : Scope) (name : String) (type : Ty) : Scope :=
  { scope with frames := (name, type) :: scope.frames }

/-- What a name means. Only an outermost scope can give anything but a type. -/
def lookup (scope : Scope) (name : String) : Option Part :=
  match scope.frames.lookup name with
  | some type => some (.type type)
  | none => scope.outermost.lookup name

/-- What a plain value means as a name; no value but a text is a name. -/
def lookupScalar (scope : Scope) : Scalar → Option Part
  | .text name => scope.lookup name
  | _ => none

/-- The bindings of a stack that are not shadowed. -/
def visible : List (String × Ty) → List (String × Ty)
  | [] => []
  | binding :: rest => (visible rest).filter (·.1 ≠ binding.1) ++ [binding]

/-- The visible bindings of the stack, the outermost first. -/
def bindings (scope : Scope) : List (String × Ty) := visible scope.frames

/-- Nothing is bound in the empty scope. -/
@[simp] theorem lookup_empty (name : String) : empty.lookup name = none := rfl

/-- The innermost binding of a name hides all others, and no other name is
touched. -/
theorem lookup_extend (scope : Scope) (bound : String) (type : Ty) (name : String) :
    (scope.extend bound type).lookup name =
      if name = bound then some (.type type) else scope.lookup name := by
  by_cases h : name = bound
  · simp [lookup, extend, h]
  · have hne : (name == bound) = false := beq_eq_false_iff_ne.mpr h
    simp [lookup, extend, List.lookup_cons, hne, h]

/-- A new binding of a name takes the place of the old one, at the end. -/
@[simp] theorem bindings_extend (scope : Scope) (bound : String) (type : Ty) :
    (scope.extend bound type).bindings =
      scope.bindings.filter (·.1 ≠ bound) ++ [(bound, type)] := rfl

/-- Whether this is the one scope without bindings and without a table. -/
def isEmpty (scope : Scope) : Bool :=
  match scope.outermost, scope.frames with
  | .empty, [] => true
  | _, _ => false

/-! ### Offered bindings -/

/-- Extends a scope by a name and a type that a caller offers. Any text is a
name here, the empty one included. -/
def extend? (scope : Scope) (name : Scalar) (type : Part) : Except Stop Scope :=
  match name, type with
  | .text name, .type type => .ok (scope.extend name type)
  | .text _, part => do throw (.refused (← part.shown))
  | name, _ => .error (.refused name.display)

/-- The scope of a mapping, whose order is kept. -/
def ofMapping? (items : List (String × Part)) : Except Stop Scope :=
  items.foldlM (fun scope item => scope.extend? (.text item.1) item.2) empty

/-! ### Texts -/

/-- The visible bindings as text, each a name and a type with a colon. -/
def entries (scope : Scope) : Except Stop String := do
  let shown ← scope.bindings.mapM fun binding => return binding.1 ++ ":" ++ (← binding.2.render)
  return ", ".intercalate shown

/-- A scope as text: its visible bindings, or what its outermost scope is. -/
def describe (scope : Scope) : Except Stop String :=
  match scope.frames, scope.outermost with
  | [], .empty => .ok "<empty>"
  | [], .custom _ => .ok "<custom>"
  | _, _ => return "<" ++ (← scope.entries) ++ ">"

/-- The last lines of a picture: what was in scope. -/
def footer (scope : Scope) : Except Stop (List String) :=
  if scope.bindings.isEmpty then .ok ["Nothing was in scope."]
  else return ["In scope: " ++ (← scope.entries)]

end Scope

/-! ### Offered scopes -/

/-- What a caller offers as a scope: a scope, or a plain value instead. -/
inductive Setting where
  | scope (s : Scope)
  | stray (value : Scalar)

/-- The last lines of a picture, as far as there is a scope to speak of. -/
def Setting.footer : Setting → Except Stop (List String)
  | .scope s => s.footer
  | .stray value => .error (.lacks value.kindName "bindings")

end PCFTyping
