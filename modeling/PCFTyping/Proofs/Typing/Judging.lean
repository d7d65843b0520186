import PCFTyping.Judge
import PCFTyping.Proofs.Ty.Classes
import PCFTyping.Proofs.Typing.Premises

/-!
What judging can do.

The first part describes each step that the rules are made of, once. The second
says what a whole judgement keeps: a property of types that holds of the named
types, passes to parts and to new arrows and pairs, and is not lost as the
table grows (`Stable`), holds of every type that a judgement gives or complains
about as soon as it holds of the given types (`Term.judge_keeps`). Being known
to the table, being free of errors and being renderable are such properties.
-/

namespace PCFTyping

/-! ### The steps of a judgement -/

namespace Judging

variable {numbering : Numbering}

theorem make_ensures (work : Numbered Ty) :
    Completes (make work) numbering fun type after => work.run numbering = (type, after) :=
  rfl

theorem settle_ensures (type : Ty) :
    Ensures (settle type) numbering
      (fun t after => after = numbering ∧ t = type ∧ type.isError = false)
      (fun halt after => after = numbering ∧
        ∃ number failure, type = .error number failure ∧ halt = .inherited number failure) := by
  cases type with
  | error number failure => exact ⟨rfl, number, failure, rfl, rfl⟩
  | _ => exact ⟨rfl, rfl, rfl⟩

theorem expectArrow_ensures (scope : Scope) (callee : Term) (type : Ty) :
    Ensures (expectArrow scope callee type) numbering
      (fun parts after => after = numbering ∧ ∃ number, type = .arrow number parts.1 parts.2)
      (fun halt after => after = numbering ∧ halt = .fault scope (.notAFunction callee type) ∧
        ∀ domain range, type.shape ≠ .arrow domain range) := by
  cases type with
  | arrow number domain range => exact ⟨rfl, number, rfl⟩
  | _ => exact ⟨rfl, rfl, by simp [Ty.shape]⟩

theorem expectPair_ensures (scope : Scope) (expr : Term) (type : Ty) :
    Ensures (expectPair scope expr type) numbering
      (fun parts after => after = numbering ∧ ∃ number, type = .pair number parts.1 parts.2)
      (fun halt after => after = numbering ∧ halt = .fault scope (.notAPair expr type) ∧
        ∀ first second, type.shape ≠ .pair first second) := by
  cases type with
  | pair number first second => exact ⟨rfl, number, rfl⟩
  | _ => exact ⟨rfl, rfl, by simp [Ty.shape]⟩

theorem expectSame_ensures (scope : Scope) (demand : Demand) (expr : Term) (need got : Ty) :
    Ensures (expectSame scope demand expr need got) numbering
      (fun _ after => after = numbering ∧ need.sameClass got = true)
      (fun halt after => after = numbering ∧
        halt = .fault scope (.mismatch demand expr need got) ∧ need.sameClass got = false) := by
  unfold expectSame
  split
  · rename_i same
    exact ⟨rfl, same⟩
  · rename_i different
    exact ⟨rfl, rfl, Bool.eq_false_iff.mpr different⟩

end Judging

/-! ### Properties of types that the rules keep -/

/-- A property of types, perhaps about their numbers in a table, that the rules
keep. -/
structure Stable (P : Numbering → Ty → Prop) : Prop where
  mono : ∀ {earlier later : Numbering} {t : Ty}, earlier.Extends later → P earlier t → P later t
  named : ∀ {numbering : Numbering} {t : Ty}, Numbering.initial.Extends numbering →
    t ∈ [Ty.integer, Ty.boolean, Ty.intToInt, Ty.intToBool] → P numbering t
  arrow_parts : ∀ {numbering : Numbering} {number : Nat} {domain range : Ty},
    P numbering (.arrow number domain range) → P numbering domain ∧ P numbering range
  pair_parts : ∀ {numbering : Numbering} {number : Nat} {first second : Ty},
    P numbering (.pair number first second) → P numbering first ∧ P numbering second
  make_arrow : ∀ {numbering after : Numbering} {domain range t : Ty}, P numbering domain →
    P numbering range → (Numbering.mkArrow domain range).run numbering = (t, after) → P after t
  make_pair : ∀ {numbering after : Numbering} {first second t : Ty}, P numbering first →
    P numbering second → (Numbering.mkPair first second).run numbering = (t, after) → P after t

namespace Stable

/-- Being known to the table. -/
theorem knows : Stable Numbering.Knows where
  mono := fun hle h => h.mono hle
  named := fun hle h => (Numbering.initial_knows h).mono hle
  arrow_parts := fun h => (Ty.everywhere_arrow.mp h).2
  pair_parts := fun h => (Ty.everywhere_pair.mp h).2
  make_arrow := by
    intro numbering after domain range t hd hr hrun
    have hmakes := (Numbering.makes_arrow hd hr).2
    rw [hrun] at hmakes
    exact hmakes
  make_pair := by
    intro numbering after first second t hf hs hrun
    have hmakes := (Numbering.makes_pair hf hs).2
    rw [hrun] at hmakes
    exact hmakes

/-- A property of each part by itself that no arrow, no pair and neither
primitive type of the language lacks. -/
theorem everywhere {P : Ty → Prop} (harrow : ∀ number domain range, P (.arrow number domain range))
    (hpair : ∀ number first second, P (.pair number first second)) (hinteger : P .integer)
    (hboolean : P .boolean) : Stable fun _ t => t.Everywhere P where
  mono := fun _ h => h
  named := by
    intro _ t _ h
    have hprim : Ty.integer.Everywhere P ∧ Ty.boolean.Everywhere P :=
      ⟨Ty.everywhere_prim.mpr hinteger, Ty.everywhere_prim.mpr hboolean⟩
    simp only [List.mem_cons, List.not_mem_nil, or_false] at h
    rcases h with rfl | rfl | rfl | rfl
    · exact hprim.1
    · exact hprim.2
    · exact Ty.everywhere_arrow.mpr ⟨harrow _ _ _, hprim.1, hprim.1⟩
    · exact Ty.everywhere_arrow.mpr ⟨harrow _ _ _, hprim.1, hprim.2⟩
  arrow_parts := fun h => (Ty.everywhere_arrow.mp h).2
  pair_parts := fun h => (Ty.everywhere_pair.mp h).2
  make_arrow := by
    intro numbering after domain range t hd hr hrun
    cases hrun
    exact Ty.everywhere_arrow.mpr ⟨harrow _ _ _, hd, hr⟩
  make_pair := by
    intro numbering after first second t hf hs hrun
    cases hrun
    exact Ty.everywhere_pair.mpr ⟨hpair _ _ _, hf, hs⟩

theorem errorFree : Stable fun _ t => t.ErrorFree :=
  everywhere (fun _ _ _ => rfl) (fun _ _ _ => rfl) rfl rfl

theorem renderable : Stable fun _ t => t.Renderable :=
  everywhere (fun _ _ _ => trivial) (fun _ _ _ => trivial) ⟨_, rfl⟩ ⟨_, rfl⟩

theorem and {P Q : Numbering → Ty → Prop} (hP : Stable P) (hQ : Stable Q) :
    Stable fun numbering t => P numbering t ∧ Q numbering t where
  mono := fun hle h => ⟨hP.mono hle h.1, hQ.mono hle h.2⟩
  named := fun hle h => ⟨hP.named hle h, hQ.named hle h⟩
  arrow_parts := fun h => ⟨⟨(hP.arrow_parts h.1).1, (hQ.arrow_parts h.2).1⟩,
    (hP.arrow_parts h.1).2, (hQ.arrow_parts h.2).2⟩
  pair_parts := fun h => ⟨⟨(hP.pair_parts h.1).1, (hQ.pair_parts h.2).1⟩,
    (hP.pair_parts h.1).2, (hQ.pair_parts h.2).2⟩
  make_arrow := fun hd hr hrun => ⟨hP.make_arrow hd.1 hr.1 hrun, hQ.make_arrow hd.2 hr.2 hrun⟩
  make_pair := fun hf hs hrun => ⟨hP.make_pair hf.1 hs.1 hrun, hQ.make_pair hf.2 hs.2 hrun⟩

end Stable

/-! ### What a judgement keeps -/

namespace Fault

/-- The types that a fault speaks of. -/
def types : Fault → List Ty
  | unbound _ => []
  | notAFunction _ got | notAPair _ got => [got]
  | mismatch _ _ need got => [need, got]
  | branches _ _ _ thenType elseType => [thenType, elseType]

/-- The terms that a fault speaks of. -/
def terms : Fault → List Term
  | unbound t | notAFunction t _ | mismatch _ t _ _ | notAPair t _ => [t]
  | branches t thenBranch elseBranch _ _ => [t, thenBranch, elseBranch]

/-- A fault found in a term: its types have a property, its terms are sub-terms
and only an identifier is unbound. -/
structure Concerns (P : Ty → Prop) (t : Term) (fault : Fault) : Prop where
  types : ∀ type ∈ fault.types, P type
  terms : ∀ u ∈ fault.terms, u.Within t
  ident : ∀ u, fault = .unbound u → ∃ label name, u = .ident label name

theorem Concerns.mono {P Q : Ty → Prop} {t : Term} {fault : Fault} (h : fault.Concerns P t)
    (hPQ : ∀ type, P type → Q type) : fault.Concerns Q t where
  types := fun type htype => hPQ type (h.types type htype)
  terms := h.terms
  ident := h.ident

end Fault

/-- What is known when a judgement gives no type. -/
def Halt.Concerns (P : Ty → Prop) (scope : Scope) (t : Term) : Halt → Prop
  | .fault s found => s.All P ∧ found.Concerns P t
  | .inherited number failure => P (.error number failure)
  | .noRule _ => ¬ t.InLanguage
  | .notAType _ => ¬ scope.OnlyTypes

/-- What is known when a premise gives no type is known of the whole. -/
theorem Halt.Concerns.premise {P : Ty → Prop} {scope s : Scope} {t u : Term} {halt : Halt}
    (h : halt.Concerns P s u) (hpremise : (s, u) ∈ t.premises scope) :
    halt.Concerns P scope t := by
  have hchild := Term.mem_children_of_premises hpremise
  cases halt with
  | fault inForce found =>
    refine ⟨h.1, h.2.types, ?_, h.2.ident⟩
    intro v hv
    exact (h.2.terms v hv).child hchild
  | inherited number failure => exact h
  | noRule v => exact fun ht => h (ht.child hchild)
  | notAType v => exact fun hscope => h (hscope.premise hpremise)

/-- A judgement ends early, in a table grown from the one it started in. -/
def Halted (P : Numbering → Ty → Prop) (start : Numbering) (scope : Scope) (t : Term)
    (halt : Halt) (after : Numbering) : Prop :=
  start.Extends after ∧ halt.Concerns (P after) scope t

/-- The rule for a term has got as far as the table `now`. -/
structure Underway (P : Numbering → Ty → Prop) (scope : Scope) (t : Term)
    (start now : Numbering) : Prop where
  named : Numbering.initial.Extends now
  grown : start.Extends now
  given : GivenTypes (P now) t scope

/-- The judgement of a term keeps a property, whatever the scope and the table. -/
def Term.Keeps (P : Numbering → Ty → Prop) (t : Term) : Prop :=
  ∀ (scope : Scope) (start : Numbering), Underway P scope t start start →
    Ensures (t.judge scope) start (fun type after => start.Extends after ∧ P after type)
      (Halted P start scope t)

namespace Underway

open Judging

variable {P : Numbering → Ty → Prop} {scope s : Scope} {t u : Term} {start now : Numbering}
  {α β : Type} {done : β → Numbering → Prop}

/-- The rule judges a premise and goes on with its type. Types found before
keep the property. -/
theorem premise (stable : Stable P) (h : Underway P scope t start now) (hu : u.Keeps P)
    (hpremise : (s, u) ∈ t.premises scope) {next : Ty → Judging β}
    (hnext : ∀ type after, Underway P scope t start after → P after type →
      (∀ old, P now old → P after old) → Ensures (next type) after done (Halted P start scope t)) :
    Ensures (u.judge s >>= next) now done (Halted P start scope t) := by
  refine (hu s now ⟨h.named, .refl _, h.given.premise hpremise⟩).bind ?_ ?_
  · intro halt after hhalt
    exact ⟨h.grown.trans hhalt.1, hhalt.2.premise hpremise⟩
  · rintro type after ⟨hgrow, htype⟩
    have hkeep : ∀ old, P now old → P after old := fun old hold => stable.mono hgrow hold
    exact hnext type after ⟨h.named.trans hgrow, h.grown.trans hgrow, h.given.mono hkeep⟩ htype
      hkeep

/-- The rule finds a fault, or goes on in the same table. -/
theorem step (h : Underway P scope t start now) {work : Judging α} {fault : Fault}
    {good : α → Numbering → Prop} {bad : Halt → Numbering → Prop} {next : α → Judging β}
    (hwork : Ensures work now (fun a after => after = now ∧ good a after)
      (fun halt after => after = now ∧ halt = .fault s fault ∧ bad halt after))
    (hscope : s.All (P now)) (hfault : fault.Concerns (P now) t)
    (hnext : ∀ a, good a now → Ensures (next a) now done (Halted P start scope t)) :
    Ensures (work >>= next) now done (Halted P start scope t) := by
  apply hwork.bind
  · rintro halt after ⟨rfl, rfl, -⟩
    exact ⟨h.grown, hscope, hfault⟩
  · rintro a after ⟨rfl, hgood⟩
    exact hnext a hgood

/-- The rule ends with a type it was given or found. -/
theorem settle (h : Underway P scope t start now) {type : Ty} (htype : P now type) :
    Ensures (Judging.settle type) now (fun t after => start.Extends after ∧ P after t)
      (Halted P start scope t) := by
  apply (settle_ensures type).mono
  · rintro t after ⟨rfl, rfl, -⟩
    exact ⟨h.grown, htype⟩
  · rintro halt after ⟨rfl, number, failure, rfl, rfl⟩
    exact ⟨h.grown, htype⟩

end Underway

/-- A fault at a child of a term. -/
theorem Fault.Concerns.of_children {P : Ty → Prop} {t : Term} {fault : Fault}
    (htypes : ∀ type ∈ fault.types, P type) (hterms : ∀ u ∈ fault.terms, u = t ∨ u ∈ t.children)
    (hident : ∀ u, fault ≠ .unbound u) : fault.Concerns P t where
  types := htypes
  terms := by
    intro u hu
    rcases hterms u hu with rfl | hchild
    · exact Term.Within.refl u
    · exact (Term.Within.refl u).child hchild
  ident := fun u hu => (hident u hu).elim

open Judging in
/-- **What the given types have, every type of a judgement has**, whether the
judgement gives it or complains about it. -/
theorem Term.judge_keeps {P : Numbering → Ty → Prop} (stable : Stable P) (t : Term) :
    t.Keeps P := by
  induction t with
  | ident label name =>
    intro scope start h
    rw [Term.judge]
    split
    · refine ⟨.refl _, h.given.bound, ?_, ?_, ?_⟩
      · simp [Fault.types]
      · simp [Fault.terms, Within.refl]
      · rintro u ⟨⟩
        exact ⟨label, name, rfl⟩
    · rename_i type found
      exact h.settle (h.given.bound _ _ found)
    · rename_i part hpart found
      refine ⟨.refl _, ?_⟩
      intro hscope
      obtain ⟨type, rfl⟩ := hscope _ _ found
      exact hpart type rfl
  | number label value =>
    intro scope start h
    exact ⟨.refl _, stable.named h.named (by simp)⟩
  | truth label value =>
    intro scope start h
    exact ⟨.refl _, stable.named h.named (by simp)⟩
  | builtin label op =>
    intro scope start h
    refine ⟨.refl _, stable.named h.named ?_⟩
    cases op <;> simp [Builtin.type]
  | fn label param domain body ih =>
    intro scope start h
    rw [Term.judge]
    apply h.premise stable ih (by simp [premises])
    intro range now h hrange _
    have hdomain := h.given.declared domain List.mem_cons_self
    apply (make_ensures _).mono
    intro type after hrun
    refine ⟨h.grown.trans ?_, stable.make_arrow hdomain hrange hrun⟩
    cases hrun
    exact now.extends_insert _
  | app label callee argument ihf iha =>
    intro scope start h
    rw [Term.judge]
    apply h.premise stable ihf (by simp [premises])
    intro calleeType now h hcallee _
    refine h.step (expectArrow_ensures scope callee calleeType) h.given.bound
      (.of_children (by simpa [Fault.types] using hcallee) (by simp [Fault.terms, children])
        (by simp)) ?_
    rintro ⟨domain, range⟩ ⟨number, rfl⟩
    obtain ⟨hdomain, hrange⟩ := stable.arrow_parts hcallee
    apply h.premise stable iha (by simp [premises])
    intro got after h hgot hkeep
    refine h.step (expectSame_ensures scope .argument argument domain got) h.given.bound
      (.of_children (by simp [Fault.types, hkeep domain hdomain, hgot])
        (by simp [Fault.terms, children]) (by simp)) ?_
    intro _ _
    exact h.settle (hkeep range hrange)
  | recur label name declared body ih =>
    intro scope start h
    rw [Term.judge]
    apply h.premise stable ih (by simp [premises])
    intro got now h hgot _
    have hdeclared := h.given.declared declared List.mem_cons_self
    refine h.step (expectSame_ensures _ .recursion body declared got)
      (h.given.bound.extend _ hdeclared)
      (.of_children (by simp [Fault.types, hdeclared, hgot])
        (by simp [Fault.terms, children]) (by simp)) ?_
    intro _ _
    exact ⟨h.grown, hdeclared⟩
  | cond label condition thenBranch elseBranch ihc iht ihe =>
    intro scope start h
    rw [Term.judge]
    apply h.premise stable ihc (by simp [premises])
    intro conditionType now₁ h hcondition _
    apply h.premise stable iht (by simp [premises])
    intro thenType now₂ h hthen hkeep₂
    apply h.premise stable ihe (by simp [premises])
    intro elseType now₃ h helse hkeep₃
    have hcondition := hkeep₃ _ (hkeep₂ _ hcondition)
    have hthen := hkeep₃ _ hthen
    have hboolean := stable.named h.named (t := .boolean) (by simp)
    refine h.step (expectSame_ensures scope .condition condition .boolean conditionType)
      h.given.bound (.of_children (by simp [Fault.types, hboolean, hcondition])
        (by simp [Fault.terms, children]) (by simp)) ?_
    intro _ _
    split
    · exact ⟨h.grown, hthen⟩
    · exact ⟨h.grown, h.given.bound, .of_children (by simp [Fault.types, hthen, helse])
        (by simp [Fault.terms, children]) (by simp)⟩
  | letIn label name declared binding body ihb ih =>
    intro scope start h
    rw [Term.judge]
    apply h.premise stable ihb (by simp [premises])
    intro got now h hgot _
    have hdeclared := h.given.declared declared List.mem_cons_self
    refine h.step (expectSame_ensures .empty .binding binding declared got)
      (Scope.all_empty _) (.of_children (by simp [Fault.types, hdeclared, hgot])
        (by simp [Fault.terms, children]) (by simp)) ?_
    intro _ _
    -- The rule ends with the judgement of the body; a premise is followed by something.
    rw [← bind_pure (body.judge _)]
    apply h.premise stable ih (by simp [premises])
    intro type after h htype _
    exact ⟨h.grown, htype⟩
  | pair label first second ihf ihs =>
    intro scope start h
    rw [Term.judge]
    apply h.premise stable ihf (by simp [premises])
    intro firstType now₁ h hfirst _
    apply h.premise stable ihs (by simp [premises])
    intro secondType now₂ h hsecond hkeep
    apply (make_ensures _).mono
    intro type after hrun
    refine ⟨h.grown.trans ?_, stable.make_pair (hkeep _ hfirst) hsecond hrun⟩
    cases hrun
    exact now₂.extends_insert _
  | proj label side inner ih =>
    intro scope start h
    rw [Term.judge]
    apply h.premise stable ih (by simp [premises])
    intro innerType now h hinner _
    refine h.step (expectPair_ensures .empty inner innerType) (Scope.all_empty _)
      (.of_children (by simpa [Fault.types] using hinner) (by simp [Fault.terms, children])
        (by simp)) ?_
    rintro ⟨first, second⟩ ⟨number, rfl⟩
    obtain ⟨hfirst, hsecond⟩ := stable.pair_parts hinner
    cases side with
    | first => exact h.settle hfirst
    | second => exact h.settle hsecond
  | bareProj label inner ih =>
    intro scope start h
    exact ⟨.refl _, fun h => h⟩
  | bare label =>
    intro scope start h
    exact ⟨.refl _, fun h => h⟩

end PCFTyping
