import PCFTyping.Proofs.Typing.FirstFailure
import PCFTyping.Proofs.Typing.Judging

/-!
Judging follows the rules.

* `Term.judge_sound`: a judgement that gives a type has derived it, and one
  that gives none stopped where the checking order first meets the cause. In
  particular a fault is the one of the node at which the term fails.
* `Term.judge_complete`: a type that can be derived is given.

Both are about given types that the table knows, so that comparing numbers is
comparing shapes. Completeness also asks that no error type occurs in them: the
rules treat an error type as any other, and judging passes it on.
-/

namespace PCFTyping

/-! ### Soundness -/

/-- What a fault comes down to. -/
def Fault.blame : Fault → Blame
  | unbound ident => ⟨.unboundIdentifier, ident, none⟩
  | notAFunction callee _ => ⟨.notAFunction, callee, none⟩
  | mismatch demand expr need got => ⟨demand.kind, expr, some (need.shape, got.shape)⟩
  | branches cond _ _ _ _ => ⟨.conditionalBranchMismatch, cond, none⟩
  | notAPair expr _ => ⟨.notAPair, expr, none⟩

/-- The node at which a judgement stops: one that breaks, one that no rule is
for, an identifier that the scope has no type for, only something else, or one
whose type is an error that was there before. -/
def Halt.ArisesAt (scope : Scope) (t : Term) : Halt → Prop
  | .fault _ found => Breaks scope t found.blame
  | .noRule u => u = t ∧ ((∃ label inner, t = .bareProj label inner) ∨ ∃ label, t = .bare label)
  | .notAType u => u = t ∧ ∃ label name part, t = .ident label name ∧
      scope.lookup name.text = some part ∧ ∀ type, part ≠ .type type
  | .inherited _ _ => True

/-- A judgement stops where the checking order first meets the cause. -/
def Halt.Explained (scope : Scope) (t : Term) (halt : Halt) : Prop :=
  ∃ path last v, Reaches scope t path last v ∧ halt.ArisesAt last v

theorem Halt.ArisesAt.explained {scope : Scope} {t : Term} {halt : Halt}
    (h : halt.ArisesAt scope t) : halt.Explained scope t :=
  ⟨[], scope, t, .here, h⟩

theorem Halt.Explained.down {scope s : Scope} {t u : Term} {i : Nat} {halt : Halt}
    (h : halt.Explained s u) (hstep : Enters scope t i s u) : halt.Explained scope t := by
  obtain ⟨path, last, v, hreach, harises⟩ := h
  exact ⟨i :: path, last, v, .down hstep hreach, harises⟩

/-- Judging a term is sound, whatever the scope and the table. -/
def Term.Sound (t : Term) : Prop :=
  ∀ (scope : Scope) (start : Numbering), Underway Numbering.Knows scope t start start →
    Ensures (t.judge scope) start (fun type _ => HasType scope t type.shape)
      (fun halt _ => halt.Explained scope t)

/-- Types that the table knows are compared by shape. -/
theorem Judging.expectSame_known {now : Numbering} (scope : Scope) (demand : Demand) (expr : Term)
    {need got : Ty} (hneed : now.Knows need) (hgot : now.Knows got) :
    Ensures (expectSame scope demand expr need got) now
      (fun _ after => after = now ∧ need.shape = got.shape)
      (fun halt after => after = now ∧ halt = .fault scope (.mismatch demand expr need got) ∧
        need.shape ≠ got.shape) := by
  have hclass := hneed.sameClass_iff hgot
  apply (expectSame_ensures scope demand expr need got).mono
  · rintro _ after ⟨rfl, hsame⟩
    exact ⟨rfl, hclass.mp hsame⟩
  · rintro halt after ⟨rfl, rfl, hdifferent⟩
    refine ⟨rfl, rfl, ?_⟩
    rw [ne_eq, ← hclass, hdifferent]
    exact Bool.false_ne_true

/-- The rule enters a premise and goes on with a type that it has. -/
theorem Underway.enter {scope s : Scope} {t u : Term} {i : Nat} {start now : Numbering} {β : Type}
    {done : β → Numbering → Prop} (h : Underway Numbering.Knows scope t start now) (hu : u.Sound)
    (hstep : Enters scope t i s u) {next : Ty → Judging β}
    (hnext : ∀ type after, Underway Numbering.Knows scope t start after → after.Knows type →
      HasType s u type.shape → (∀ old, now.Knows old → after.Knows old) →
      Ensures (next type) after done (fun halt _ => halt.Explained scope t)) :
    Ensures (u.judge s >>= next) now done (fun halt _ => halt.Explained scope t) := by
  have hpremise := List.mem_of_getElem? hstep.premise
  have hready : Underway Numbering.Knows s u now now :=
    ⟨h.named, .refl _, h.given.premise hpremise⟩
  apply ((u.judge_keeps .knows s now hready).and (hu s now hready)).bind
  · rintro halt after ⟨-, hexplained⟩
    exact hexplained.down hstep
  · rintro type after ⟨⟨hgrow, hknown⟩, htyped⟩
    have hkeep : ∀ old, now.Knows old → after.Knows old := fun old hold => hold.mono hgrow
    exact hnext type after ⟨h.named.trans hgrow, h.grown.trans hgrow, h.given.mono hkeep⟩ hknown
      htyped hkeep

open Judging in
/-- **Soundness.** A judgement gives only types that the rules derive, and
stops only where the checking order first meets the cause. -/
theorem Term.judge_sound (t : Term) : t.Sound := by
  induction t with
  | ident label name =>
    intro scope start h
    rw [Term.judge]
    split
    · rename_i hnone
      exact Halt.ArisesAt.explained (Breaks.unbound hnone)
    · rename_i type found
      apply (settle_ensures type).mono
      · rintro t after ⟨rfl, rfl, -⟩
        exact .ident found
      · rintro halt after ⟨rfl, number, failure, rfl, rfl⟩
        exact Halt.ArisesAt.explained trivial
    · rename_i part hpart found
      exact Halt.ArisesAt.explained ⟨rfl, label, name, part, rfl, found, hpart⟩
  | number label value =>
    intro scope start h
    exact HasType.number
  | truth label value =>
    intro scope start h
    exact HasType.truth
  | builtin label op =>
    intro scope start h
    cases op with
    | successor => exact HasType.successor
    | predecessor => exact HasType.predecessor
    | isZero => exact HasType.isZero
  | fn label param domain body ih =>
    intro scope start h
    rw [Term.judge]
    apply h.enter ih .fnBody
    intro range now h _ hbody _
    apply (make_ensures _).mono
    rintro type after ⟨⟩
    exact .fn hbody
  | app label callee argument ihf iha =>
    intro scope start h
    rw [Term.judge]
    apply h.enter ihf .callee
    intro calleeType now h hknown hcallee _
    apply (expectArrow_ensures scope callee calleeType).bind
    · rintro halt after ⟨rfl, rfl, hnot⟩
      exact Halt.ArisesAt.explained (Breaks.notAFunction hcallee hnot)
    rintro ⟨domain, range⟩ after ⟨rfl, number, rfl⟩
    obtain ⟨hdomain, -⟩ := Stable.knows.arrow_parts hknown
    apply h.enter iha (.argument hcallee)
    intro got after h hgot hargument hkeep
    apply (expectSame_known scope .argument argument (hkeep domain hdomain) hgot).bind
    · rintro halt last ⟨rfl, rfl, hne⟩
      exact Halt.ArisesAt.explained (Breaks.argument hcallee hargument hne)
    rintro _ last ⟨rfl, hsame⟩
    apply (settle_ensures range).mono
    · rintro type last ⟨rfl, rfl, -⟩
      exact .app hcallee (hsame ▸ hargument)
    · rintro halt last ⟨rfl, number, failure, rfl, rfl⟩
      exact Halt.ArisesAt.explained trivial
  | recur label name declared body ih =>
    intro scope start h
    rw [Term.judge]
    apply h.enter ih .recurBody
    intro got now h hgot hbody _
    have hdeclared := h.given.declared declared List.mem_cons_self
    apply (expectSame_known _ .recursion body hdeclared hgot).bind
    · rintro halt after ⟨rfl, rfl, hne⟩
      exact Halt.ArisesAt.explained (Breaks.recursion hbody hne)
    rintro _ after ⟨rfl, hsame⟩
    exact HasType.recur (hsame ▸ hbody)
  | cond label condition thenBranch elseBranch ihc iht ihe =>
    intro scope start h
    rw [Term.judge]
    apply h.enter ihc .condition
    intro conditionType now₁ h hknown hcondition _
    apply h.enter iht (.thenBranch hcondition)
    intro thenType now₂ h hknownThen hthen hkeep₂
    apply h.enter ihe (.elseBranch hcondition hthen)
    intro elseType now₃ h hknownElse helse hkeep₃
    have hboolean := Stable.knows.named h.named (t := .boolean) (by simp)
    refine (expectSame_known scope .condition condition hboolean
      (hkeep₃ _ (hkeep₂ _ hknown))).bind ?_ ?_
    · rintro halt after ⟨rfl, rfl, hne⟩
      exact Halt.ArisesAt.explained (Breaks.condition hcondition hthen helse hne)
    rintro _ after ⟨rfl, hsame⟩
    rw [← hsame] at hcondition
    -- Both branches have a type by now, so what is left to compare is their numbers.
    have hclass := (hkeep₃ _ hknownThen).sameClass_iff hknownElse
    split
    · rename_i hbranches
      exact HasType.cond hcondition hthen (hclass.mp hbranches ▸ helse)
    · rename_i hbranches
      have hne : thenType.shape ≠ elseType.shape := fun heq => hbranches (hclass.mpr heq)
      exact Halt.ArisesAt.explained (Breaks.branches hcondition hthen helse hne)
  | letIn label name declared binding body ihb ih =>
    intro scope start h
    rw [Term.judge]
    apply h.enter ihb .binding
    intro got now h hgot hbinding _
    have hdeclared := h.given.declared declared List.mem_cons_self
    apply (expectSame_known .empty .binding binding hdeclared hgot).bind
    · rintro halt after ⟨rfl, rfl, hne⟩
      exact Halt.ArisesAt.explained (Breaks.binding hbinding hne)
    rintro _ after ⟨rfl, hsame⟩
    rw [← hsame] at hbinding
    rw [← bind_pure (body.judge _)]
    apply h.enter ih (.letBody hbinding)
    intro type last h _ hbody _
    exact HasType.letIn hbinding hbody
  | pair label first second ihf ihs =>
    intro scope start h
    rw [Term.judge]
    apply h.enter ihf .first
    intro firstType now₁ h _ hfirst _
    apply h.enter ihs (.second hfirst)
    intro secondType now₂ h _ hsecond _
    apply (make_ensures _).mono
    rintro type after ⟨⟩
    exact .pair hfirst hsecond
  | proj label side inner ih =>
    intro scope start h
    rw [Term.judge]
    apply h.enter ih .inner
    intro innerType now h _ hinner _
    apply (expectPair_ensures .empty inner innerType).bind
    · rintro halt after ⟨rfl, rfl, hnot⟩
      exact Halt.ArisesAt.explained (Breaks.notAPair hinner hnot)
    rintro ⟨first, second⟩ after ⟨rfl, number, rfl⟩
    apply (settle_ensures _).mono
    · rintro type last ⟨rfl, rfl, -⟩
      cases side with
      | first => exact .first hinner
      | second => exact .second hinner
    · rintro halt last ⟨rfl, number, failure, -, rfl⟩
      exact Halt.ArisesAt.explained trivial
  | bareProj label inner ih =>
    intro scope start h
    exact Halt.ArisesAt.explained ⟨rfl, .inl ⟨label, inner, rfl⟩⟩
  | bare label =>
    intro scope start h
    exact Halt.ArisesAt.explained ⟨rfl, .inr ⟨label, rfl⟩⟩

/-! ### Completeness -/

/-- What completeness asks of the given types. -/
def Proper (numbering : Numbering) (t : Ty) : Prop := numbering.Knows t ∧ t.ErrorFree

theorem Stable.proper : Stable Proper := Stable.knows.and Stable.errorFree

/-- The judgement of a term in a scope gives a type of this shape, whatever the
table. -/
def Term.Gives (t : Term) (scope : Scope) (τ : Shape) : Prop :=
  ∀ start : Numbering, Underway Proper scope t start start →
    Completes (t.judge scope) start fun type _ => type.shape = τ

/-- The rule judges a premise that has a type and goes on with it. -/
theorem Underway.obtain {scope s : Scope} {t u : Term} {σ : Shape} {start now : Numbering}
    {β : Type} {done : β → Numbering → Prop} (h : Underway Proper scope t start now)
    (hu : u.Gives s σ) (hpremise : (s, u) ∈ t.premises scope) {next : Ty → Judging β}
    (hnext : ∀ type after, Underway Proper scope t start after → Proper after type →
      type.shape = σ → (∀ old, Proper now old → Proper after old) →
      Completes (next type) after done) :
    Completes (u.judge s >>= next) now done := by
  have hready : Underway Proper s u now now := ⟨h.named, .refl _, h.given.premise hpremise⟩
  apply ((u.judge_keeps .proper s now hready).and (hu now hready)).bind (fun _ _ hs => hs.2)
  rintro type after ⟨⟨hgrow, hproper⟩, hshape⟩
  have hkeep : ∀ old, Proper now old → Proper after old :=
    fun old hold => Stable.proper.mono hgrow hold
  exact hnext type after ⟨h.named.trans hgrow, h.grown.trans hgrow, h.given.mono hkeep⟩ hproper
    hshape hkeep

/-- A proper type is no error, so it settles. -/
theorem Proper.settles {now : Numbering} {type : Ty} (h : Proper now type) :
    Completes (Judging.settle type) now fun t _ => t.shape = type.shape := by
  apply (Judging.settle_ensures type).mono
  · rintro t after ⟨-, rfl, -⟩
    rfl
  · rintro halt after ⟨-, number, failure, rfl, -⟩
    exact Bool.noConfusion h.2.isError

open Judging in
/-- A projection takes the component on its side. -/
theorem Term.gives_proj {scope : Scope} {label : Label} {side : Side} {inner : Term} {σ τ : Shape}
    (h : inner.Gives .empty (.pair σ τ)) :
    (Term.proj label side inner).Gives scope (side.component (σ, τ)) := by
  intro start hstart
  rw [Term.judge]
  apply hstart.obtain h (by simp [premises])
  intro innerType now _ hproper hshape _
  obtain ⟨number, first, second, rfl, rfl, rfl⟩ := Ty.eq_pair_of_shape hshape
  obtain ⟨hfirst, hsecond⟩ := Stable.proper.pair_parts hproper
  apply (expectPair_ensures _ _ _).bind (fun _ _ hs => (hs.2.2 _ _ rfl).elim)
  rintro ⟨first', second'⟩ after ⟨rfl, number', ⟨⟩⟩
  cases side with
  | first => exact hfirst.settles
  | second => exact hsecond.settles

open Judging in
/-- **Completeness.** A judgement gives every type that the rules derive. -/
theorem Term.judge_complete {scope : Scope} {t : Term} {τ : Shape} (h : HasType scope t τ) :
    t.Gives scope τ := by
  induction h with
  | ident hlook =>
    intro start hstart
    rw [Term.judge, hlook]
    exact (hstart.given.bound _ _ hlook).settles
  | number | truth | successor | predecessor | isZero =>
    intro start _
    rfl
  | fn _ ih =>
    intro start hstart
    rw [Term.judge]
    apply hstart.obtain ih (by simp [premises])
    rintro range now _ _ rfl _
    apply (make_ensures _).mono
    rintro type after ⟨⟩
    rfl
  | app _ _ ihf iha =>
    intro start hstart
    rw [Term.judge]
    apply hstart.obtain ihf (by simp [premises])
    intro calleeType now hnow hproper hshape _
    obtain ⟨number, domain, range, rfl, rfl, rfl⟩ := Ty.eq_arrow_of_shape hshape
    obtain ⟨hdomain, hrange⟩ := Stable.proper.arrow_parts hproper
    apply (expectArrow_ensures _ _ _).bind (fun _ _ hs => (hs.2.2 _ _ rfl).elim)
    rintro ⟨domain', range'⟩ after ⟨rfl, number', ⟨⟩⟩
    apply hnow.obtain iha (by simp [premises])
    intro got after _ hgot hsame hkeep
    refine (expectSame_known _ _ _ (hkeep _ hdomain).1 hgot.1).bind
      (fun _ _ hs => hs.2.2 hsame.symm) ?_
    rintro _ last ⟨rfl, -⟩
    exact (hkeep _ hrange).settles
  | recur _ ih =>
    intro start hstart
    rw [Term.judge]
    apply hstart.obtain ih (by simp [premises])
    intro got now hnow hgot hsame _
    have hdeclared := hnow.given.declared _ List.mem_cons_self
    apply (expectSame_known _ _ _ hdeclared.1 hgot.1).bind (fun _ _ hs => hs.2.2 hsame.symm)
    rintro _ last ⟨rfl, -⟩
    rfl
  | cond _ _ _ ihc iht ihe =>
    intro start hstart
    rw [Term.judge]
    apply hstart.obtain ihc (by simp [premises])
    intro conditionType now₁ hnow₁ hcondition hboolean _
    apply hnow₁.obtain iht (by simp [premises])
    intro thenType now₂ hnow₂ hthen hthenShape hkeep₂
    apply hnow₂.obtain ihe (by simp [premises])
    intro elseType now₃ hnow₃ helse helseShape hkeep₃
    have hnamed := Stable.knows.named hnow₃.named (t := .boolean) (by simp)
    refine (expectSame_known _ _ _ hnamed (hkeep₃ _ (hkeep₂ _ hcondition)).1).bind
      (fun _ _ hs => hs.2.2 hboolean.symm) ?_
    rintro _ last ⟨rfl, -⟩
    have hbranches : thenType.sameClass elseType = true :=
      ((hkeep₃ _ hthen).1.sameClass_iff helse.1).mpr (hthenShape.trans helseShape.symm)
    rw [if_pos hbranches]
    exact hthenShape
  | letIn _ _ ihb ih =>
    intro start hstart
    rw [Term.judge]
    apply hstart.obtain ihb (by simp [premises])
    intro got now hnow hgot hsame _
    have hdeclared := hnow.given.declared _ List.mem_cons_self
    apply (expectSame_known _ _ _ hdeclared.1 hgot.1).bind (fun _ _ hs => hs.2.2 hsame.symm)
    rintro _ last ⟨rfl, -⟩
    rw [← bind_pure (judge _ _)]
    apply hnow.obtain ih (by simp [premises])
    intro type after _ _ hshape _
    exact hshape
  | pair _ _ ihf ihs =>
    intro start hstart
    rw [Term.judge]
    apply hstart.obtain ihf (by simp [premises])
    rintro firstType now₁ hnow₁ _ rfl _
    apply hnow₁.obtain ihs (by simp [premises])
    rintro secondType now₂ _ _ rfl _
    apply (make_ensures _).mono
    rintro type after ⟨⟩
    rfl
  | first _ ih => exact gives_proj ih
  | second _ ih => exact gives_proj ih

end PCFTyping
