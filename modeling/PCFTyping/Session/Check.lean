import PCFTyping.Judge
import PCFTyping.Session.Basic

/-!
Checking a whole term in a session.

An ill-typed term has an error type for its result, and the report hears of it
once. An error type that came out of a declared type or out of the scope is
passed on without a word. A verbose report announces the term before the check
and the verdict after it. A term that cannot be announced is not checked, and
the session keeps it for `giveUpUnannounced`.
-/

namespace PCFTyping.Session

/-- The hint for an identifier that the scope has no type for, only something
else. -/
def notATypeHint (ident : Term) : Scalar :=
  .text ("Failed to return a type from <class 'pcf.syntax." ++ ident.kindName ++ "'>")

/-- Judges a term with the types numbered so far. -/
def judge (t : Term) (scope : Scope) : Act (Except Halt Ty) := fun session =>
  match (t.judge scope).run session.workshop.numbering with
  | .ok type numbering =>
      .ok (.ok type) { session with workshop := { session.workshop with numbering } }
  | .error halt numbering =>
      .ok (.error halt) { session with workshop := { session.workshop with numbering } }

/-- What comes of a term: its type, an error type that was found or that comes
of a fault, or an end to the check. -/
def settle (root : Term) : Except Halt Ty → Act Ty
  | .ok type => pure type
  | .error (.inherited number failure) => pure (.error number failure)
  | .error (.fault scope fault) => do
    tell (.scope scope) (.term root) fault.complaint
    build (Workshop.make (Numbering.mkError fault.failure))
  | .error (.noRule t) => throw (.noRule t.kindName)
  | .error (.notAType ident) => giveUp (.term root) (notATypeHint ident)

/-- Announces a result. An error is explained even if nobody listens. -/
def announce : Ty → Act Unit
  | .error _ failure => do
    let text ← MonadExcept.ofExcept failure.explain
    info [.plain (.text "  :"), .plain (.text text)]
  | type => info [.plain (.text "  :"), .type type]

/-- Notes the term whose announcement is due, or that none is. -/
def setUnannounced (t : Option Term) : Act Unit := modify fun session =>
  { session with unannounced := t }

/-- Checks an offered term in an offered scope. -/
def check (term : Part) (setting : Setting) : Act Ty := do
  let t ← build (Workshop.requireTerm term)
  let scope ← match setting with
    | .scope scope => pure scope
    | .stray value => build (Workshop.refuse (.plain value))
  setUnannounced (some t)
  info [.plain (.text "Type-Check"), .term t]
  setUnannounced none
  let type ← settle t (← judge t scope)
  announce type
  return type

/-- Checks like `check`, but leaves the term kept from an earlier check alone. -/
def checkAside (term : Part) (setting : Setting) : Act Ty := fun session =>
  match (check term setting).run session with
  | .ok type after => .ok type { after with unannounced := session.unannounced }
  | .error stop after => .error stop { after with unannounced := session.unannounced }

/-- Gives up between two checks: the root is the term kept from a check that
could not be announced, or else nothing. -/
def giveUpUnannounced {α : Type} (hint : Scalar) : Act α := do
  match (← get).unannounced with
  | some t => giveUp (.term t) hint
  | none => giveUp (.plain .null) hint

end PCFTyping.Session
