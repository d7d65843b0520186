import PCFTyping.Proofs.Ty.Shape
import PCFTyping.Scope.Basic
import PCFTyping.Term.Path

/-!
What a judgement is about: the types it is given, and the judgements that its
rule asks for.

`Term.premises` lists the sub-terms that the rule for a term judges, in order
and each in its own scope. A type is `Given` when a binder of the term declares
it or the scope has it for some name. Whatever is asked of the given types, of
the scope and of the shapes of a term holds of its premises too, so a proof by
induction on terms passes each of these on with one lemma.
-/

namespace PCFTyping

/-! ### Premises -/

namespace Term

/-- The judgements that the rule for a term asks for. There is no rule for the
shapes outside the language. -/
def premises (scope : Scope) : Term → List (Scope × Term)
  | ident _ _ | number _ _ | truth _ _ | builtin _ _ | bareProj _ _ | bare _ => []
  | fn _ param domain body => [(scope.extend param.text domain, body)]
  | app _ callee argument => [(scope, callee), (scope, argument)]
  | recur _ name declared body => [(scope.extend name.text declared, body)]
  | cond _ condition thenBranch elseBranch =>
      [(scope, condition), (scope, thenBranch), (scope, elseBranch)]
  | letIn _ name declared binding body =>
      [(.empty, binding), (scope.extend name.text declared, body)]
  | pair _ first second => [(.empty, first), (.empty, second)]
  | proj _ _ inner => [(.empty, inner)]

/-- The declared types of the binders of a term. -/
def declared : Term → List Ty
  | ident _ _ | number _ _ | truth _ _ | builtin _ _ | bare _ => []
  | fn _ _ type body | recur _ _ type body => type :: body.declared
  | app _ a b | pair _ a b => a.declared ++ b.declared
  | cond _ a b c => a.declared ++ (b.declared ++ c.declared)
  | letIn _ _ type binding body => type :: (binding.declared ++ body.declared)
  | proj _ _ inner | bareProj _ inner => inner.declared

/-- Every node of a term has one of the fourteen shapes of the language. -/
def InLanguage : Term → Prop
  | ident _ _ | number _ _ | truth _ _ | builtin _ _ => True
  | fn _ _ _ body | recur _ _ _ body => body.InLanguage
  | app _ a b | pair _ a b | letIn _ _ _ a b => a.InLanguage ∧ b.InLanguage
  | cond _ a b c => a.InLanguage ∧ b.InLanguage ∧ c.InLanguage
  | proj _ _ inner => inner.InLanguage
  | bareProj _ _ | bare _ => False

/-- The place of a premise is the place of its term among the children. -/
theorem children_of_premises {t u : Term} {scope s : Scope} {i : Nat}
    (h : (t.premises scope)[i]? = some (s, u)) : t.children[i]? = some u := by
  have hpairs : ((t.premises scope).map Prod.snd)[i]? = some u := by
    rw [List.getElem?_map, h]
    rfl
  cases t <;> first | exact hpairs | simp [premises] at h

theorem mem_children_of_premises {t u : Term} {scope s : Scope} (h : (s, u) ∈ t.premises scope) :
    u ∈ t.children := by
  obtain ⟨i, hi⟩ := List.mem_iff_getElem?.mp h
  exact List.mem_of_getElem? (children_of_premises hi)

/-- A rule passes its scope on, drops it, or extends it by a declared type. -/
theorem scope_of_premises {t u : Term} {scope s : Scope} (h : (s, u) ∈ t.premises scope) :
    s = scope ∨ s = .empty ∨ ∃ name type, type ∈ t.declared ∧ s = scope.extend name type := by
  cases t <;> simp only [premises, List.mem_cons, List.not_mem_nil, or_false,
    Prod.mk.injEq] at h
  case fn | recur => exact .inr (.inr ⟨_, _, List.mem_cons_self, h.1⟩)
  case app => rcases h with h | h <;> exact .inl h.1
  case cond => rcases h with h | h | h <;> exact .inl h.1
  case letIn =>
    rcases h with h | h
    · exact .inr (.inl h.1)
    · exact .inr (.inr ⟨_, _, List.mem_cons_self, h.1⟩)
  case pair => rcases h with h | h <;> exact .inr (.inl h.1)
  case proj => exact .inr (.inl h.1)

theorem declared_of_children {t u : Term} (h : u ∈ t.children) {type : Ty}
    (htype : type ∈ u.declared) : type ∈ t.declared := by
  cases t <;> simp only [children, List.mem_cons, List.not_mem_nil, or_false] at h
  case fn | recur | proj | bareProj => simp [declared, ← h, htype]
  case app | letIn | pair => rcases h with rfl | rfl <;> simp [declared, htype]
  case cond => rcases h with rfl | rfl | rfl <;> simp [declared, htype]

theorem InLanguage.child {t u : Term} (ht : t.InLanguage) (h : u ∈ t.children) :
    u.InLanguage := by
  cases t <;> simp only [children, List.mem_cons, List.not_mem_nil, or_false] at h <;>
    simp only [InLanguage] at ht
  case fn | recur | proj => exact h ▸ ht
  case app | letIn | pair =>
    rcases h with rfl | rfl
    · exact ht.1
    · exact ht.2
  case cond =>
    rcases h with rfl | rfl | rfl
    · exact ht.1
    · exact ht.2.1
    · exact ht.2.2

/-- A sub-term, at any depth, or the term itself. -/
def Within (u t : Term) : Prop := ∃ path, t.follow? path = some u

theorem Within.refl (t : Term) : t.Within t := ⟨[], rfl⟩

theorem Within.child {t u v : Term} (hv : v.Within u) (h : u ∈ t.children) : v.Within t := by
  obtain ⟨path, hpath⟩ := hv
  obtain ⟨i, hi⟩ := List.mem_iff_getElem?.mp h
  refine ⟨i :: path, ?_⟩
  rw [follow?, hi]
  exact hpath

/-- What children take over from their term, sub-terms take over. -/
theorem Within.induction {motive : Term → Prop} {t u : Term} (h : u.Within t)
    (hchild : ∀ t u, u ∈ t.children → motive t → motive u) (ht : motive t) : motive u := by
  obtain ⟨path, hpath⟩ := h
  induction path generalizing t with
  | nil =>
    cases hpath
    exact ht
  | cons i rest ih =>
    rw [follow?] at hpath
    obtain ⟨c, hc, hrest⟩ := Option.bind_eq_some_iff.mp hpath
    exact ih (hchild t c (List.mem_of_getElem? hc) ht) hrest

end Term

/-! ### Given types -/

namespace Scope

/-- A property of every type that the scope has for some name. -/
def All (P : Ty → Prop) (scope : Scope) : Prop :=
  ∀ name type, scope.lookup name = some (.type type) → P type

theorem All.mono {P Q : Ty → Prop} {scope : Scope} (h : scope.All P)
    (hPQ : ∀ type, P type → Q type) : scope.All Q :=
  fun name type hfound => hPQ type (h name type hfound)

theorem All.extend {P : Ty → Prop} {scope : Scope} (h : scope.All P) (bound : String) {type : Ty}
    (htype : P type) : (scope.extend bound type).All P := by
  intro name found hfound
  rw [lookup_extend] at hfound
  split at hfound
  · cases hfound
    exact htype
  · exact h name found hfound

theorem all_empty (P : Ty → Prop) : empty.All P := by
  intro name type h
  cases h

/-- The scope has nothing but types. -/
def OnlyTypes (scope : Scope) : Prop :=
  ∀ name part, scope.lookup name = some part → ∃ type, part = .type type

theorem OnlyTypes.extend {scope : Scope} (h : scope.OnlyTypes) (bound : String) (type : Ty) :
    (scope.extend bound type).OnlyTypes := by
  intro name part hpart
  rw [lookup_extend] at hpart
  split at hpart
  · cases hpart
    exact ⟨type, rfl⟩
  · exact h name part hpart

theorem onlyTypes_empty : empty.OnlyTypes := by
  intro name part h
  cases h

theorem OnlyTypes.premise {scope s : Scope} {t u : Term} (h : scope.OnlyTypes)
    (hpremise : (s, u) ∈ t.premises scope) : s.OnlyTypes := by
  rcases Term.scope_of_premises hpremise with rfl | rfl | ⟨name, type, -, rfl⟩
  · exact h
  · exact onlyTypes_empty
  · exact h.extend name type

end Scope

/-- A property of every type that a judgement starts from: the declared types
of the term and the types of the scope. -/
structure GivenTypes (P : Ty → Prop) (t : Term) (scope : Scope) : Prop where
  declared : ∀ type ∈ t.declared, P type
  bound : scope.All P

namespace GivenTypes

variable {P Q : Ty → Prop} {t u : Term} {scope s : Scope}

theorem mono (h : GivenTypes P t scope) (hPQ : ∀ type, P type → Q type) :
    GivenTypes Q t scope where
  declared := fun type htype => hPQ type (h.declared type htype)
  bound := h.bound.mono hPQ

theorem and (h : GivenTypes P t scope) (h' : GivenTypes Q t scope) :
    GivenTypes (fun type => P type ∧ Q type) t scope where
  declared := fun type htype => ⟨h.declared type htype, h'.declared type htype⟩
  bound := fun name type hfound => ⟨h.bound name type hfound, h'.bound name type hfound⟩

/-- A premise is given no type that was not given before: a binder puts its own
declared type into the scope. -/
theorem premise (h : GivenTypes P t scope) (hpremise : (s, u) ∈ t.premises scope) :
    GivenTypes P u s where
  declared := fun type htype =>
    h.declared type (Term.declared_of_children (Term.mem_children_of_premises hpremise) htype)
  bound := by
    rcases Term.scope_of_premises hpremise with rfl | rfl | ⟨name, type, htype, rfl⟩
    · exact h.bound
    · exact Scope.all_empty P
    · exact h.bound.extend name (h.declared type htype)

end GivenTypes

end PCFTyping
