import PCFTyping.Proofs.Ty.Shape
import PCFTyping.Scope.Basic
import PCFTyping.Ty.Numbering

/-!
The typing rules as a relation.

`HasType scope t τ` says that a term has a type of shape `τ` in a scope. There
is one rule for each shape of term, and none for the two shapes outside the
language. Side conditions compare shapes, so they are structural; nothing is
said about numbers, about tables or about the order in which premises are
looked at.

* `HasType.unique`: a term has at most one type in a scope.
-/

namespace PCFTyping

namespace Shape

def integer : Shape := .prim (.text "Integer")

def boolean : Shape := .prim (.text "Boolean")

end Shape

/-- A term has a type in a scope. The bound term of a let, the components of a
pair and the term of a projection are typed in the empty scope. -/
inductive HasType : Scope → Term → Shape → Prop where
  | ident {scope label name type} :
      scope.lookup name.text = some (.type type) → HasType scope (.ident label name) type.shape
  | number {scope label value} : HasType scope (.number label value) .integer
  | truth {scope label value} : HasType scope (.truth label value) .boolean
  | successor {scope label} : HasType scope (.builtin label .successor) (.arrow .integer .integer)
  | predecessor {scope label} :
      HasType scope (.builtin label .predecessor) (.arrow .integer .integer)
  | isZero {scope label} : HasType scope (.builtin label .isZero) (.arrow .integer .boolean)
  | fn {scope label param domain body range} :
      HasType (scope.extend param.text domain) body range →
      HasType scope (.fn label param domain body) (.arrow domain.shape range)
  | app {scope label callee argument domain range} :
      HasType scope callee (.arrow domain range) → HasType scope argument domain →
      HasType scope (.app label callee argument) range
  | recur {scope label name declared body} :
      HasType (scope.extend name.text declared) body declared.shape →
      HasType scope (.recur label name declared body) declared.shape
  | cond {scope label condition thenBranch elseBranch τ} :
      HasType scope condition .boolean → HasType scope thenBranch τ → HasType scope elseBranch τ →
      HasType scope (.cond label condition thenBranch elseBranch) τ
  | letIn {scope label name declared binding body τ} :
      HasType .empty binding declared.shape → HasType (scope.extend name.text declared) body τ →
      HasType scope (.letIn label name declared binding body) τ
  | pair {scope label first second σ τ} :
      HasType .empty first σ → HasType .empty second τ →
      HasType scope (.pair label first second) (.pair σ τ)
  | first {scope label inner σ τ} :
      HasType .empty inner (.pair σ τ) → HasType scope (.proj label .first inner) σ
  | second {scope label inner σ τ} :
      HasType .empty inner (.pair σ τ) → HasType scope (.proj label .second inner) τ

/-- A term has at most one type. -/
theorem HasType.unique {scope : Scope} {t : Term} {τ τ' : Shape} (h : HasType scope t τ)
    (h' : HasType scope t τ') : τ = τ' := by
  induction h generalizing τ' with
  | ident hlook =>
    cases h' with
    | ident hlook' =>
      rw [hlook] at hlook'
      cases hlook'
      rfl
  | number | truth | successor | predecessor | isZero =>
    cases h'
    rfl
  | fn _ ih =>
    cases h' with
    | fn hbody => rw [ih hbody]
  | app _ _ ihf _ =>
    cases h' with
    | app hcallee _ =>
      cases ihf hcallee
      rfl
  | recur _ _ =>
    cases h'
    rfl
  | cond _ _ _ _ iht _ =>
    cases h' with
    | cond _ hthen _ => exact iht hthen
  | letIn _ _ _ ihb =>
    cases h' with
    | letIn _ hbody => exact ihb hbody
  | pair _ _ ihf ihs =>
    cases h' with
    | pair hfirst hsecond => rw [ihf hfirst, ihs hsecond]
  | first _ ih =>
    cases h' with
    | first hinner =>
      cases ih hinner
      rfl
  | second _ ih =>
    cases h' with
    | second hinner =>
      cases ih hinner
      rfl

end PCFTyping
