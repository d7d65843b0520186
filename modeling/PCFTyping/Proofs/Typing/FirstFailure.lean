import PCFTyping.Proofs.Typing.Premises
import PCFTyping.Proofs.Typing.Rules

/-!
Where a term first fails to type.

A rule looks at its premises in order and goes on to the next one only if the
earlier ones gave a type and, for the argument of an application and the body
of a let, the right one. `Enters` is one such step down, `Reaches` a whole way
down along a path, and `Breaks` says that a rule has the types it needs and
that its own side condition fails. A term fails at the path `p` when the
checker reaches a node there that breaks (`FailsAt`).

A node is stuck when it has no type although all that it enters has one. A node
that breaks is stuck, and so is one that there is no rule for.

* `FailsAt.not_hasType`: a term that fails has no type.
* `Reaches.unique`: the checker reaches at most one stuck node, along one path.
* `FailsAt.unique`: there is one path at which a term fails, and one reason.

All of them rest on the same fact, read off the rules: a premise is entered only
after all earlier ones were found to have a type (`Enters.earlier_hasType`), and
a node breaks only after all that it entered was (`Breaks.entered_hasType`).
-/

namespace PCFTyping

/-- One step of the checking order: the rule for a term gets as far as judging
its child with a number, in the scope that the rule gives it. -/
inductive Enters : Scope → Term → Nat → Scope → Term → Prop where
  | fnBody {scope label param domain body} :
      Enters scope (.fn label param domain body) 0 (scope.extend param.text domain) body
  | callee {scope label callee argument} :
      Enters scope (.app label callee argument) 0 scope callee
  | argument {scope label callee argument domain range} :
      HasType scope callee (.arrow domain range) →
      Enters scope (.app label callee argument) 1 scope argument
  | recurBody {scope label name declared body} :
      Enters scope (.recur label name declared body) 0 (scope.extend name.text declared) body
  | condition {scope label condition thenBranch elseBranch} :
      Enters scope (.cond label condition thenBranch elseBranch) 0 scope condition
  | thenBranch {scope label condition thenBranch elseBranch κ} :
      HasType scope condition κ →
      Enters scope (.cond label condition thenBranch elseBranch) 1 scope thenBranch
  | elseBranch {scope label condition thenBranch elseBranch κ τ} :
      HasType scope condition κ → HasType scope thenBranch τ →
      Enters scope (.cond label condition thenBranch elseBranch) 2 scope elseBranch
  | binding {scope label name declared binding body} :
      Enters scope (.letIn label name declared binding body) 0 .empty binding
  | letBody {scope label name declared binding body} :
      HasType .empty binding declared.shape →
      Enters scope (.letIn label name declared binding body) 1
        (scope.extend name.text declared) body
  | first {scope label first second} : Enters scope (.pair label first second) 0 .empty first
  | second {scope label first second σ} :
      HasType .empty first σ → Enters scope (.pair label first second) 1 .empty second
  | inner {scope label side inner} : Enters scope (.proj label side inner) 0 .empty inner

/-- The checker gets from a term down along a path to a sub-term, which it
judges in the last of the two scopes. -/
inductive Reaches : Scope → Term → Path → Scope → Term → Prop where
  | here {scope t} : Reaches scope t [] scope t
  | down {scope t i s u path last v} :
      Enters scope t i s u → Reaches s u path last v → Reaches scope t (i :: path) last v

/-- What a failure comes down to: its kind, the guilty term, and the shapes of
the type needed and the type found where two types disagree. -/
structure Blame where
  kind : FailureKind
  guilty : Term
  mismatch : Option (Shape × Shape)

/-- The rule for a term has all the types that its side condition is about, and
the condition fails. A condition that is no Boolean counts before branches that
differ, and both only when all three parts have a type. -/
inductive Breaks : Scope → Term → Blame → Prop where
  | unbound {scope label name} :
      scope.lookup name.text = none →
      Breaks scope (.ident label name) ⟨.unboundIdentifier, .ident label name, none⟩
  | notAFunction {scope label callee argument σ} :
      HasType scope callee σ → (∀ domain range, σ ≠ .arrow domain range) →
      Breaks scope (.app label callee argument) ⟨.notAFunction, callee, none⟩
  | argument {scope label callee argument domain range σ} :
      HasType scope callee (.arrow domain range) → HasType scope argument σ → domain ≠ σ →
      Breaks scope (.app label callee argument)
        ⟨.argumentTypeMismatch, argument, some (domain, σ)⟩
  | recursion {scope label name declared body σ} :
      HasType (scope.extend name.text declared) body σ → declared.shape ≠ σ →
      Breaks scope (.recur label name declared body)
        ⟨.recursionTypeMismatch, body, some (declared.shape, σ)⟩
  | condition {scope label condition thenBranch elseBranch κ σ τ} :
      HasType scope condition κ → HasType scope thenBranch σ → HasType scope elseBranch τ →
      .boolean ≠ κ →
      Breaks scope (.cond label condition thenBranch elseBranch)
        ⟨.conditionalBranchMismatch, condition, some (.boolean, κ)⟩
  | branches {scope label condition thenBranch elseBranch σ τ} :
      HasType scope condition .boolean → HasType scope thenBranch σ →
      HasType scope elseBranch τ → σ ≠ τ →
      Breaks scope (.cond label condition thenBranch elseBranch)
        ⟨.conditionalBranchMismatch, .cond label condition thenBranch elseBranch, none⟩
  | binding {scope label name declared binding body σ} :
      HasType .empty binding σ → declared.shape ≠ σ →
      Breaks scope (.letIn label name declared binding body)
        ⟨.letTypeMismatch, binding, some (declared.shape, σ)⟩
  | notAPair {scope label side inner σ} :
      HasType .empty inner σ → (∀ first second, σ ≠ .pair first second) →
      Breaks scope (.proj label side inner) ⟨.notAPair, inner, none⟩

/-- The checker reaches a node at the end of a path, and the node breaks. -/
def FailsAt (scope : Scope) (t : Term) (path : Path) (blame : Blame) : Prop :=
  ∃ last v, Reaches scope t path last v ∧ Breaks last v blame

/-! ### One step down -/

namespace Enters

variable {scope s s' : Scope} {t u u' : Term} {i j : Nat}

/-- A step down is to a premise, at its place. -/
theorem premise (h : Enters scope t i s u) : (t.premises scope)[i]? = some (s, u) := by
  cases h <;> rfl

/-- A typed term has typed premises. -/
theorem hasType {τ : Shape} (h : Enters scope t i s u) (ht : HasType scope t τ) :
    ∃ σ, HasType s u σ := by
  cases h <;> cases ht <;> exact ⟨_, ‹_›⟩

/-- All premises before the one entered have a type. -/
theorem earlier_hasType (h : Enters scope t j s u) (h' : Enters scope t i s' u') (hlt : i < j) :
    ∃ σ, HasType s' u' σ := by
  cases h with
  | fnBody | callee | recurBody | condition | binding | first | inner =>
    exact (Nat.not_lt_zero i hlt).elim
  | argument hcallee =>
    cases h' with
    | callee => exact ⟨_, hcallee⟩
    | argument => exact (Nat.lt_irrefl 1 hlt).elim
  | thenBranch hcondition =>
    cases h' with
    | condition => exact ⟨_, hcondition⟩
    | thenBranch | elseBranch => omega
  | elseBranch hcondition hthen =>
    cases h' with
    | condition => exact ⟨_, hcondition⟩
    | thenBranch => exact ⟨_, hthen⟩
    | elseBranch => exact (Nat.lt_irrefl 2 hlt).elim
  | letBody hbinding =>
    cases h' with
    | binding => exact ⟨_, hbinding⟩
    | letBody => exact (Nat.lt_irrefl 1 hlt).elim
  | second hfirst =>
    cases h' with
    | first => exact ⟨_, hfirst⟩
    | second => exact (Nat.lt_irrefl 1 hlt).elim

end Enters

/-- A path that the checker takes leads to the sub-term it reaches. -/
theorem Reaches.follow? {scope last : Scope} {t v : Term} {path : Path}
    (h : Reaches scope t path last v) : t.follow? path = some v := by
  induction h with
  | here => rfl
  | down hstep _ ih =>
    rw [Term.follow?, Term.children_of_premises hstep.premise]
    exact ih

/-! ### A node that breaks -/

namespace Breaks

variable {scope s : Scope} {t u : Term} {i : Nat} {blame blame' : Blame}

/-- All premises that are entered at a node that breaks have a type. -/
theorem entered_hasType (h : Breaks scope t blame) (h' : Enters scope t i s u) :
    ∃ σ, HasType s u σ := by
  cases h with
  | unbound => cases h'
  | notAFunction hcallee hnot =>
    cases h' with
    | callee => exact ⟨_, hcallee⟩
    | argument harrow => exact (hnot _ _ (hcallee.unique harrow)).elim
  | argument hcallee hargument _ =>
    cases h' with
    | callee => exact ⟨_, hcallee⟩
    | argument => exact ⟨_, hargument⟩
  | recursion hbody _ =>
    cases h'
    exact ⟨_, hbody⟩
  | condition hcondition hthen helse _ | branches hcondition hthen helse _ =>
    cases h' with
    | condition => exact ⟨_, hcondition⟩
    | thenBranch => exact ⟨_, hthen⟩
    | elseBranch => exact ⟨_, helse⟩
  | binding hbinding hne =>
    cases h' with
    | binding => exact ⟨_, hbinding⟩
    | letBody hdeclared => exact (hne (hdeclared.unique hbinding)).elim
  | notAPair hinner _ =>
    cases h'
    exact ⟨_, hinner⟩

/-- A node that breaks has no type. -/
theorem not_hasType {τ : Shape} (h : Breaks scope t blame) : ¬ HasType scope t τ := by
  intro ht
  cases h with
  | unbound hnone =>
    cases ht with
    | ident hlook =>
      rw [hnone] at hlook
      cases hlook
  | notAFunction hcallee hnot =>
    cases ht with
    | app harrow _ => exact hnot _ _ (hcallee.unique harrow)
  | argument hcallee hargument hne =>
    cases ht with
    | app harrow hdomain =>
      cases hcallee.unique harrow
      exact hne (hdomain.unique hargument)
  | recursion hbody hne =>
    cases ht with
    | recur hdeclared => exact hne (hdeclared.unique hbody)
  | condition hcondition _ _ hne =>
    cases ht with
    | cond hboolean _ _ => exact hne (hboolean.unique hcondition)
  | branches _ hthen helse hne =>
    cases ht with
    | cond _ hthen' helse' => exact hne ((hthen.unique hthen').trans (helse'.unique helse))
  | binding hbinding hne =>
    cases ht with
    | letIn hdeclared _ => exact hne (hdeclared.unique hbinding)
  | notAPair hinner hnot =>
    cases ht with
    | first hpair => exact hnot _ _ (hinner.unique hpair)
    | second hpair => exact hnot _ _ (hinner.unique hpair)

/-- A node breaks for one reason. -/
theorem unique (h : Breaks scope t blame) (h' : Breaks scope t blame') : blame = blame' := by
  cases h with
  | unbound =>
    cases h'
    rfl
  | notAFunction hcallee hnot =>
    cases h' with
    | notAFunction => rfl
    | argument harrow _ _ => exact (hnot _ _ (hcallee.unique harrow)).elim
  | argument hcallee hargument _ =>
    cases h' with
    | notAFunction hσ hnot => exact (hnot _ _ (hσ.unique hcallee)).elim
    | argument hcallee' hargument' _ =>
      cases hcallee.unique hcallee'
      cases hargument.unique hargument'
      rfl
  | recursion hbody _ =>
    cases h' with
    | recursion hbody' _ => rw [hbody.unique hbody']
  | condition hcondition _ _ hne =>
    cases h' with
    | condition hcondition' _ _ _ => rw [hcondition.unique hcondition']
    | branches hboolean _ _ _ => exact (hne (hboolean.unique hcondition)).elim
  | branches hboolean _ _ _ =>
    cases h' with
    | condition hcondition _ _ hne => exact (hne (hboolean.unique hcondition)).elim
    | branches => rfl
  | binding hbinding _ =>
    cases h' with
    | binding hbinding' _ => rw [hbinding.unique hbinding']
  | notAPair =>
    cases h'
    rfl

end Breaks

/-! ### The whole way -/

/-- A node at which the checker can neither go on nor go down: it has no type,
and all that its rule enters has one. -/
structure Stuck (scope : Scope) (t : Term) : Prop where
  untyped : ∀ τ, ¬ HasType scope t τ
  entered : ∀ i s u, Enters scope t i s u → ∃ σ, HasType s u σ

theorem Breaks.stuck {scope : Scope} {t : Term} {blame : Blame} (h : Breaks scope t blame) :
    Stuck scope t :=
  ⟨fun _ => h.not_hasType, fun _ _ _ => h.entered_hasType⟩

namespace Reaches

variable {scope last last' : Scope} {t v v' : Term} {path path' : Path}

/-- A term has no type if a node without one is reached in it. -/
theorem not_hasType (h : Reaches scope t path last v) (hv : ∀ σ, ¬ HasType last v σ) {τ : Shape} :
    ¬ HasType scope t τ := by
  induction h generalizing τ with
  | here => exact hv τ
  | down hstep _ ih =>
    intro ht
    obtain ⟨σ, hσ⟩ := hstep.hasType ht
    exact ih hv hσ

/-- **The checker gets stuck at one place.** Of two ways down that part, one
enters a premise that the other has found to have a type. -/
theorem unique (h : Reaches scope t path last v) (hv : Stuck last v)
    (h' : Reaches scope t path' last' v') (hv' : Stuck last' v') :
    path = path' ∧ last = last' ∧ v = v' := by
  induction h generalizing path' with
  | here =>
    cases h' with
    | here => exact ⟨rfl, rfl, rfl⟩
    | down hstep' hbelow' =>
      obtain ⟨σ, hσ⟩ := hv.entered _ _ _ hstep'
      exact (hbelow'.not_hasType hv'.untyped hσ).elim
  | @down _ _ i _ _ _ _ _ hstep hbelow ih =>
    cases h' with
    | here =>
      obtain ⟨σ, hσ⟩ := hv'.entered _ _ _ hstep
      exact (hbelow.not_hasType hv.untyped hσ).elim
    | @down _ _ j _ _ _ _ _ hstep' hbelow' =>
      rcases Nat.lt_trichotomy i j with hlt | rfl | hlt
      · obtain ⟨σ, hσ⟩ := hstep'.earlier_hasType hstep hlt
        exact (hbelow.not_hasType hv.untyped hσ).elim
      · cases hstep.premise.symm.trans hstep'.premise
        obtain ⟨rfl, hsame⟩ := ih hv hbelow'
        exact ⟨rfl, hsame⟩
      · obtain ⟨σ, hσ⟩ := hstep.earlier_hasType hstep' hlt
        exact (hbelow'.not_hasType hv'.untyped hσ).elim

end Reaches

namespace FailsAt

variable {scope : Scope} {t : Term} {path path' : Path} {blame blame' : Blame}

theorem here (h : Breaks scope t blame) : FailsAt scope t [] blame := ⟨scope, t, .here, h⟩

theorem down {s : Scope} {u : Term} {i : Nat} (hstep : Enters scope t i s u)
    (h : FailsAt s u path blame) : FailsAt scope t (i :: path) blame := by
  obtain ⟨last, v, hreach, hbreak⟩ := h
  exact ⟨last, v, .down hstep hreach, hbreak⟩

/-- A term that fails has no type. -/
theorem not_hasType {τ : Shape} (h : FailsAt scope t path blame) : ¬ HasType scope t τ := by
  obtain ⟨last, v, hreach, hbreak⟩ := h
  exact hreach.not_hasType hbreak.stuck.untyped

/-- **A term fails at one path and for one reason.** -/
theorem unique (h : FailsAt scope t path blame) (h' : FailsAt scope t path' blame') :
    path = path' ∧ blame = blame' := by
  obtain ⟨last, v, hreach, hbreak⟩ := h
  obtain ⟨last', v', hreach', hbreak'⟩ := h'
  obtain ⟨rfl, rfl, rfl⟩ := hreach.unique hbreak.stuck hreach' hbreak'.stuck
  exact ⟨rfl, hbreak.unique hbreak'⟩

end FailsAt

end PCFTyping
