import PCFTyping.Proofs.Tandem
import PCFTyping.Proofs.Typing.Judging

/-!
Two judgements that agree.

Take two terms that differ in their labels and in the spelling of their
declared types only (`Term.Alike`), and two scopes that agree on the names that
the terms can ask for (`Term.visible`). `Term.judge_agrees` says that the two
judgements then go the same way: both give types, or both find a fault at the
same path, each in the scope in force there (`Term.judgedAt?`).

How far types may differ is a parameter. A `Congruent` relation is one that the
rules cannot tell from equality. Equality itself is congruent when both
judgements start from one table (`Congruent.equal`), and having one shape is
congruent whatever the tables, as long as they know the types
(`Congruent.sameShape`).
-/

namespace PCFTyping

/-! ### Names that matter -/

namespace Term

/-- The names that a judgement can ask the scope for. The bound term of a let,
the components of a pair and the term of a projection do not see the scope. -/
def visible : Term → List String
  | ident _ name => [name.text]
  | number _ _ | truth _ _ | builtin _ _ | pair _ _ _ | proj _ _ _ | bareProj _ _ | bare _ => []
  | fn _ bound _ body | recur _ bound _ body | letIn _ bound _ _ body =>
      body.visible.filter (· ≠ bound.text)
  | app _ callee argument => callee.visible ++ argument.visible
  | cond _ condition thenBranch elseBranch =>
      condition.visible ++ (thenBranch.visible ++ elseBranch.visible)

/-- The sub-term at the end of a path and the scope in force there. Bodies of
binders are in the extended scope; the bound term of a let, the components of a
pair and the term of a projection are in the empty one. -/
def judgedAt? (scope : Scope) (t : Term) : Path → Option (Scope × Term)
  | [] => some (scope, t)
  | i :: rest => (t.premises scope)[i]?.bind fun premise => judgedAt? premise.1 premise.2 rest

theorem follow?_of_judgedAt? {scope inForce : Scope} {t u : Term} {path : Path}
    (h : t.judgedAt? scope path = some (inForce, u)) : t.follow? path = some u := by
  induction path generalizing scope t with
  | nil =>
    cases h
    rfl
  | cons i rest ih =>
    rw [judgedAt?] at h
    obtain ⟨⟨s, c⟩, hpremise, hrest⟩ := Option.bind_eq_some_iff.mp h
    rw [follow?, children_of_premises hpremise]
    exact ih hrest

theorem judgedAt?_append {scope inForce : Scope} {t u : Term} {path : Path}
    (h : t.judgedAt? scope path = some (inForce, u)) (rest : Path) :
    t.judgedAt? scope (path ++ rest) = u.judgedAt? inForce rest := by
  induction path generalizing scope t with
  | nil =>
    cases h
    rfl
  | cons i path ih =>
    rw [judgedAt?] at h
    obtain ⟨⟨s, c⟩, hpremise, hbelow⟩ := Option.bind_eq_some_iff.mp h
    rw [List.cons_append, judgedAt?, hpremise]
    exact ih hbelow

end Term

/-! ### Alike -/

/-- Terms of one structure, with the same names and literals. Labels are free,
and declared types are related. -/
inductive Term.Alike (R : Ty → Ty → Prop) : Term → Term → Prop where
  | ident {label label' name} : Alike R (.ident label name) (.ident label' name)
  | number {label label' value} : Alike R (.number label value) (.number label' value)
  | truth {label label' value} : Alike R (.truth label value) (.truth label' value)
  | builtin {label label' op} : Alike R (.builtin label op) (.builtin label' op)
  | fn {label label' param domain domain' body body'} :
      R domain domain' → Alike R body body' →
      Alike R (.fn label param domain body) (.fn label' param domain' body')
  | app {label label' callee callee' argument argument'} :
      Alike R callee callee' → Alike R argument argument' →
      Alike R (.app label callee argument) (.app label' callee' argument')
  | recur {label label' name declared declared' body body'} :
      R declared declared' → Alike R body body' →
      Alike R (.recur label name declared body) (.recur label' name declared' body')
  | cond {label label' condition condition' thenBranch thenBranch' elseBranch elseBranch'} :
      Alike R condition condition' → Alike R thenBranch thenBranch' →
      Alike R elseBranch elseBranch' →
      Alike R (.cond label condition thenBranch elseBranch)
        (.cond label' condition' thenBranch' elseBranch')
  | letIn {label label' name declared declared' binding binding' body body'} :
      R declared declared' → Alike R binding binding' → Alike R body body' →
      Alike R (.letIn label name declared binding body)
        (.letIn label' name declared' binding' body')
  | pair {label label' first first' second second'} :
      Alike R first first' → Alike R second second' →
      Alike R (.pair label first second) (.pair label' first' second')
  | proj {label label' side inner inner'} :
      Alike R inner inner' → Alike R (.proj label side inner) (.proj label' side inner')
  | bareProj {label label' inner inner'} :
      Alike R inner inner' → Alike R (.bareProj label inner) (.bareProj label' inner')
  | bare {label label'} : Alike R (.bare label) (.bare label')

namespace Term.Alike

variable {R R' : Ty → Ty → Prop}

theorem mono {t t' : Term} (h : t.Alike R t') (hR : ∀ s s', R s s' → R' s s') : t.Alike R' t' := by
  induction h with
  | ident => exact .ident
  | number => exact .number
  | truth => exact .truth
  | builtin => exact .builtin
  | fn hdomain _ ih => exact .fn (hR _ _ hdomain) ih
  | app _ _ ihf iha => exact .app ihf iha
  | recur hdeclared _ ih => exact .recur (hR _ _ hdeclared) ih
  | cond _ _ _ ihc iht ihe => exact .cond ihc iht ihe
  | letIn hdeclared _ _ ihb ih => exact .letIn (hR _ _ hdeclared) ihb ih
  | pair _ _ ihf ihs => exact .pair ihf ihs
  | proj _ ih => exact .proj ih
  | bareProj _ ih => exact .bareProj ih
  | bare => exact .bare

/-- A term is like itself when its declared types are. -/
theorem refl {t : Term} (h : ∀ type ∈ t.declared, R type type) : t.Alike R t := by
  induction t with
  | ident label name => exact .ident
  | number label value => exact .number
  | truth label value => exact .truth
  | builtin label op => exact .builtin
  | fn label param domain body ih =>
    simp only [declared, List.forall_mem_cons] at h
    exact .fn h.1 (ih h.2)
  | app label callee argument ihf iha =>
    simp only [declared, List.forall_mem_append] at h
    exact .app (ihf h.1) (iha h.2)
  | recur label name declared body ih =>
    simp only [Term.declared, List.forall_mem_cons] at h
    exact .recur h.1 (ih h.2)
  | cond label condition thenBranch elseBranch ihc iht ihe =>
    simp only [declared, List.forall_mem_append] at h
    exact .cond (ihc h.1) (iht h.2.1) (ihe h.2.2)
  | letIn label name declared binding body ihb ih =>
    simp only [Term.declared, List.forall_mem_cons, List.forall_mem_append] at h
    exact .letIn h.1 (ihb h.2.1) (ih h.2.2)
  | pair label first second ihf ihs =>
    simp only [declared, List.forall_mem_append] at h
    exact .pair (ihf h.1) (ihs h.2)
  | proj label side inner ih => exact .proj (ih h)
  | bareProj label inner ih => exact .bareProj (ih h)
  | bare label => exact .bare

end Term.Alike

namespace Fault

/-- The term that a fault blames. -/
def guilty : Fault → Term
  | unbound t | notAFunction t _ | mismatch _ t _ _ | branches t _ _ _ _ | notAPair t _ => t

theorem failure_guilty (fault : Fault) : fault.failure.guilty = .term fault.guilty := by
  cases fault <;> rfl

/-- Faults of one sort about related types. Branches that differ are those of
the guilty conditional. -/
inductive Alike (R : Ty → Ty → Prop) : Fault → Fault → Prop where
  | unbound {ident ident'} : Alike R (.unbound ident) (.unbound ident')
  | notAFunction {callee callee' got got'} :
      R got got' → Alike R (.notAFunction callee got) (.notAFunction callee' got')
  | mismatch {demand expr expr' need need' got got'} :
      R need need' → R got got' →
      Alike R (.mismatch demand expr need got) (.mismatch demand expr' need' got')
  | branches {label label' condition condition' thenBranch thenBranch' elseBranch elseBranch'
      thenType thenType' elseType elseType'} :
      R thenType thenType' → R elseType elseType' →
      Alike R
        (.branches (.cond label condition thenBranch elseBranch) thenBranch elseBranch thenType
          elseType)
        (.branches (.cond label' condition' thenBranch' elseBranch') thenBranch' elseBranch'
          thenType' elseType')
  | notAPair {expr expr' got got'} :
      R got got' → Alike R (.notAPair expr got) (.notAPair expr' got')

/-- Faults of one sort that blame one term and speak of the same types. -/
theorem Alike.eq {fault fault' : Fault} (h : fault.Alike Eq fault')
    (hguilty : fault.guilty = fault'.guilty) : fault = fault' := by
  cases h with
  | unbound =>
    cases hguilty
    rfl
  | notAFunction hgot | notAPair hgot | mismatch hneed hgot | branches hneed hgot =>
    cases hguilty
    subst_vars
    rfl

end Fault

/-- What two scopes have for a name: nothing, related types, or in both of them
something else. -/
inductive SameMeaning (R : Ty → Ty → Prop) : Option Part → Option Part → Prop where
  | nothing : SameMeaning R none none
  | type {type type'} : R type type' → SameMeaning R (some (.type type)) (some (.type type'))
  | other {part part'} : (∀ type, part ≠ .type type) → (∀ type, part' ≠ .type type) →
      SameMeaning R (some part) (some part')

theorem SameMeaning.mono {R R' : Ty → Ty → Prop} {found found' : Option Part}
    (h : SameMeaning R found found') (hR : ∀ s s', R s s' → R' s s') :
    SameMeaning R' found found' := by
  cases h with
  | nothing => exact .nothing
  | type htype => exact .type (hR _ _ htype)
  | other hpart hpart' => exact .other hpart hpart'

theorem SameMeaning.refl {R : Ty → Ty → Prop} (found : Option Part)
    (hR : ∀ type, found = some (.type type) → R type type) : SameMeaning R found found := by
  cases found with
  | none => exact .nothing
  | some part =>
    cases part with
    | type type => exact .type (hR type rfl)
    | plain value => exact .other nofun nofun
    | term t => exact .other nofun nofun

namespace Scope

/-- Two scopes agree on some names. -/
def Agrees (R : Ty → Ty → Prop) (names : List String) (scope scope' : Scope) : Prop :=
  ∀ name ∈ names, SameMeaning R (scope.lookup name) (scope'.lookup name)

namespace Agrees

variable {R R' : Ty → Ty → Prop} {names names' : List String} {scope scope' : Scope}

theorem mono (h : scope.Agrees R names scope') (hR : ∀ s s', R s s' → R' s s') :
    scope.Agrees R' names scope' :=
  fun name hname => (h name hname).mono hR

theorem subset (h : scope.Agrees R names scope') (hnames : names' ⊆ names) :
    scope.Agrees R names' scope' :=
  fun name hname => h name (hnames hname)

/-- Below a binder the bound name has the declared type on both sides. -/
theorem extend {bound : String} {type type' : Ty}
    (h : scope.Agrees R (names.filter (· ≠ bound)) scope') (htype : R type type') :
    (scope.extend bound type).Agrees R names (scope'.extend bound type') := by
  intro name hname
  rw [lookup_extend, lookup_extend]
  by_cases hbound : name = bound
  · rw [if_pos hbound, if_pos hbound]
    exact .type htype
  · rw [if_neg hbound, if_neg hbound]
    exact h name (List.mem_filter.mpr ⟨hname, decide_eq_true hbound⟩)

theorem empty (R : Ty → Ty → Prop) (names : List String) :
    Scope.empty.Agrees R names Scope.empty :=
  fun _ _ => .nothing

end Agrees

end Scope

/-! ### Relations that the rules respect -/

/-- Types of one outer form, whose parts are related. -/
def Ty.SameForm (R : Ty → Ty → Prop) : Ty → Ty → Prop
  | .prim _ _, .prim _ _ | .base _ _, .base _ _ | .error _ _, .error _ _ => True
  | .arrow _ domain range, .arrow _ domain' range' => R domain domain' ∧ R range range'
  | .pair _ first second, .pair _ first' second' => R first first' ∧ R second second'
  | _, _ => False

/-- The rules cannot tell related types apart, as long as the two tables are
related as well. -/
structure Congruent (T : Numbering → Numbering → Prop)
    (R : Numbering → Numbering → Ty → Ty → Prop) : Prop where
  mono : ∀ {earlier later earlier' later' : Numbering} {s s' : Ty}, earlier.Extends later →
    earlier'.Extends later' → R earlier earlier' s s' → R later later' s s'
  named : ∀ {now now' : Numbering} {t : Ty}, T now now' →
    t ∈ [Ty.integer, Ty.boolean, Ty.intToInt, Ty.intToBool] → R now now' t t
  form : ∀ {now now' : Numbering} {s s' : Ty}, R now now' s s' → s.SameForm (R now now') s'
  sameClass : ∀ {now now' : Numbering} {s s' t t' : Ty}, R now now' s s' → R now now' t t' →
    s.sameClass t = s'.sameClass t'
  make_arrow : ∀ {now now' after after' : Numbering} {domain domain' range range' t t' : Ty},
    T now now' → R now now' domain domain' → R now now' range range' →
    (Numbering.mkArrow domain range).run now = (t, after) →
    (Numbering.mkArrow domain' range').run now' = (t', after') →
    T after after' ∧ R after after' t t'
  make_pair : ∀ {now now' after after' : Numbering} {first first' second second' t t' : Ty},
    T now now' → R now now' first first' → R now now' second second' →
    (Numbering.mkPair first second).run now = (t, after) →
    (Numbering.mkPair first' second').run now' = (t', after') →
    T after after' ∧ R after after' t t'

/-- Types of one shape, each known to a table of its own. -/
def SameShape (now now' : Numbering) (s s' : Ty) : Prop :=
  now.Knows s ∧ now'.Knows s' ∧ s.shape = s'.shape

/-- Types from two tables that are one type: they have one shape, and they are
equal in every table that has grown out of both. -/
structure OneType (now now' : Numbering) (s s' : Ty) : Prop where
  shape : s.shape = s'.shape
  sameClass : ∀ later : Numbering, now.Extends later → now'.Extends later →
    s.sameClass s' = true

theorem SameShape.oneType {now now' : Numbering} {s s' : Ty} (h : SameShape now now' s s') :
    OneType now now' s s' where
  shape := h.2.2
  sameClass := fun _ hlater hlater' =>
    ((h.1.mono hlater).sameClass_iff (h.2.1.mono hlater')).mpr h.2.2

namespace Congruent

/-- From one table, types that are the same stay the same. -/
theorem equal : Congruent (fun now now' => now = now') (fun _ _ s s' => s = s') where
  mono := fun _ _ h => h
  named := fun _ _ => rfl
  form := by
    rintro now now' s _ rfl
    cases s <;> simp [Ty.SameForm]
  sameClass := by
    rintro now now' s _ t _ rfl rfl
    rfl
  make_arrow := by
    rintro now _ after after' domain _ range _ t t' rfl rfl rfl hrun hrun'
    cases hrun
    cases hrun'
    exact ⟨rfl, rfl⟩
  make_pair := by
    rintro now _ after after' first _ second _ t t' rfl rfl rfl hrun hrun'
    cases hrun
    cases hrun'
    exact ⟨rfl, rfl⟩

/-- Whatever the tables, types of one shape stay of one shape. -/
theorem sameShape : Congruent
    (fun now now' => Numbering.initial.Extends now ∧ Numbering.initial.Extends now')
    SameShape where
  mono := fun hgrow hgrow' h => ⟨h.1.mono hgrow, h.2.1.mono hgrow', h.2.2⟩
  named := fun h ht => ⟨Stable.knows.named h.1 ht, Stable.knows.named h.2 ht, rfl⟩
  form := by
    rintro now now' s s' ⟨hs, hs', hshape⟩
    cases s <;> cases s' <;> simp only [Ty.shape, reduceCtorEq] at hshape <;>
      simp only [Ty.SameForm]
    case arrow.arrow =>
      obtain ⟨hdomain, hrange⟩ := Shape.arrow.inj hshape
      have hparts := Stable.knows.arrow_parts hs
      have hparts' := Stable.knows.arrow_parts hs'
      exact ⟨⟨hparts.1, hparts'.1, hdomain⟩, hparts.2, hparts'.2, hrange⟩
    case pair.pair =>
      obtain ⟨hfirst, hsecond⟩ := Shape.pair.inj hshape
      have hparts := Stable.knows.pair_parts hs
      have hparts' := Stable.knows.pair_parts hs'
      exact ⟨⟨hparts.1, hparts'.1, hfirst⟩, hparts.2, hparts'.2, hsecond⟩
  sameClass := by
    rintro now now' s s' t t' ⟨hs, hs', hsshape⟩ ⟨ht, ht', htshape⟩
    rw [Bool.eq_iff_iff, hs.sameClass_iff ht, hs'.sameClass_iff ht', hsshape, htshape]
  make_arrow := by
    rintro now now' after after' domain domain' range range' t t' ⟨hnamed, hnamed'⟩
      ⟨hd, hd', hdshape⟩ ⟨hr, hr', hrshape⟩ hrun hrun'
    have hknown := Stable.knows.make_arrow hd hr hrun
    have hknown' := Stable.knows.make_arrow hd' hr' hrun'
    cases hrun
    cases hrun'
    refine ⟨⟨hnamed.trans (now.extends_insert _), hnamed'.trans (now'.extends_insert _)⟩, hknown,
      hknown', ?_⟩
    rw [Ty.shape, Ty.shape, hdshape, hrshape]
  make_pair := by
    rintro now now' after after' first first' second second' t t' ⟨hnamed, hnamed'⟩
      ⟨hf, hf', hfshape⟩ ⟨hs, hs', hsshape⟩ hrun hrun'
    have hknown := Stable.knows.make_pair hf hs hrun
    have hknown' := Stable.knows.make_pair hf' hs' hrun'
    cases hrun
    cases hrun'
    refine ⟨⟨hnamed.trans (now.extends_insert _), hnamed'.trans (now'.extends_insert _)⟩, hknown,
      hknown', ?_⟩
    rw [Ty.shape, Ty.shape, hfshape, hsshape]

/-- A property that the rules keep may be asked of the types on both sides. -/
theorem both {T : Numbering → Numbering → Prop} {R : Numbering → Numbering → Ty → Ty → Prop}
    {P : Numbering → Ty → Prop} (hR : Congruent T R) (hP : Stable P)
    (hT : ∀ {now now' : Numbering}, T now now' →
      Numbering.initial.Extends now ∧ Numbering.initial.Extends now') :
    Congruent T (fun now now' s s' => R now now' s s' ∧ P now s ∧ P now' s') where
  mono := fun hgrow hgrow' h =>
    ⟨hR.mono hgrow hgrow' h.1, hP.mono hgrow h.2.1, hP.mono hgrow' h.2.2⟩
  named := fun h ht => ⟨hR.named h ht, hP.named (hT h).1 ht, hP.named (hT h).2 ht⟩
  form := by
    rintro now now' s s' ⟨hrelated, hs, hs'⟩
    have hform := hR.form hrelated
    cases s <;> cases s' <;> simp only [Ty.SameForm] at hform ⊢
    case arrow.arrow =>
      have hparts := hP.arrow_parts hs
      have hparts' := hP.arrow_parts hs'
      exact ⟨⟨hform.1, hparts.1, hparts'.1⟩, hform.2, hparts.2, hparts'.2⟩
    case pair.pair =>
      have hparts := hP.pair_parts hs
      have hparts' := hP.pair_parts hs'
      exact ⟨⟨hform.1, hparts.1, hparts'.1⟩, hform.2, hparts.2, hparts'.2⟩
  sameClass := fun hs ht => hR.sameClass hs.1 ht.1
  make_arrow := by
    intro now now' after after' domain domain' range range' t t' htables hd hr hrun hrun'
    obtain ⟨htables, htype⟩ := hR.make_arrow htables hd.1 hr.1 hrun hrun'
    exact ⟨htables, htype, hP.make_arrow hd.2.1 hr.2.1 hrun, hP.make_arrow hd.2.2 hr.2.2 hrun'⟩
  make_pair := by
    intro now now' after after' first first' second second' t t' htables hf hs hrun hrun'
    obtain ⟨htables, htype⟩ := hR.make_pair htables hf.1 hs.1 hrun hrun'
    exact ⟨htables, htype, hP.make_pair hf.2.1 hs.2.1 hrun, hP.make_pair hf.2.2 hs.2.2 hrun'⟩

end Congruent

/-! ### The steps of two judgements -/

namespace Judging

variable {T : Numbering → Numbering → Prop} {R : Numbering → Numbering → Ty → Ty → Prop}
  {now now' : Numbering} {scope scope' : Scope}

theorem settle_agrees (hR : Congruent T R) {type type' : Ty} (htype : R now now' type type') :
    Tandem (settle type) now (settle type') now'
      (fun t after t' after' => after = now ∧ after' = now' ∧ R now now' t t')
      (fun halt after halt' after' => after = now ∧ after' = now' ∧
        ∃ number failure number' failure', R now now' (.error number failure)
          (.error number' failure') ∧ halt = .inherited number failure ∧
          halt' = .inherited number' failure') := by
  have hform := hR.form htype
  cases type <;> cases type' <;> simp only [Ty.SameForm] at hform <;>
    first
    | exact ⟨rfl, rfl, htype⟩
    | exact ⟨rfl, rfl, _, _, _, _, htype, rfl, rfl⟩

theorem expectArrow_agrees (hR : Congruent T R) (callee callee' : Term) {type type' : Ty}
    (htype : R now now' type type') :
    Tandem (expectArrow scope callee type) now (expectArrow scope' callee' type') now'
      (fun parts after parts' after' => after = now ∧ after' = now' ∧
        R now now' parts.1 parts'.1 ∧ R now now' parts.2 parts'.2)
      (fun halt after halt' after' => after = now ∧ after' = now' ∧
        halt = .fault scope (.notAFunction callee type) ∧
        halt' = .fault scope' (.notAFunction callee' type')) := by
  have hform := hR.form htype
  cases type <;> cases type' <;> simp only [Ty.SameForm] at hform <;>
    first
    | exact ⟨rfl, rfl, rfl, rfl⟩
    | exact ⟨rfl, rfl, hform⟩

theorem expectPair_agrees (hR : Congruent T R) (expr expr' : Term) {type type' : Ty}
    (htype : R now now' type type') :
    Tandem (expectPair scope expr type) now (expectPair scope' expr' type') now'
      (fun parts after parts' after' => after = now ∧ after' = now' ∧
        R now now' parts.1 parts'.1 ∧ R now now' parts.2 parts'.2)
      (fun halt after halt' after' => after = now ∧ after' = now' ∧
        halt = .fault scope (.notAPair expr type) ∧
        halt' = .fault scope' (.notAPair expr' type')) := by
  have hform := hR.form htype
  cases type <;> cases type' <;> simp only [Ty.SameForm] at hform <;>
    first
    | exact ⟨rfl, rfl, rfl, rfl⟩
    | exact ⟨rfl, rfl, hform⟩

theorem expectSame_agrees (hR : Congruent T R) (demand : Demand) (expr expr' : Term)
    {need need' got got' : Ty} (hneed : R now now' need need') (hgot : R now now' got got') :
    Tandem (expectSame scope demand expr need got) now (expectSame scope' demand expr' need' got')
        now'
      (fun _ after _ after' => after = now ∧ after' = now' ∧ need.sameClass got = true)
      (fun halt after halt' after' => after = now ∧ after' = now' ∧
        halt = .fault scope (.mismatch demand expr need got) ∧
        halt' = .fault scope' (.mismatch demand expr' need' got')) := by
  unfold expectSame
  rw [← hR.sameClass hneed hgot]
  split
  · rename_i hsame
    exact ⟨rfl, rfl, hsame⟩
  · exact ⟨rfl, rfl, rfl, rfl⟩

end Judging

/-! ### Two whole judgements -/

/-- Two judgements give no type for like reasons: a fault of one sort at one
path, in the scope in force there, or an error type that was there before. -/
def Halt.Corresponds (R : Ty → Ty → Prop) (scope : Scope) (t : Term) (scope' : Scope) (t' : Term) :
    Halt → Halt → Prop
  | .fault inForce found, .fault inForce' found' => found.Alike R found' ∧
      ∃ path, t.judgedAt? scope path = some (inForce, found.guilty) ∧
        t'.judgedAt? scope' path = some (inForce', found'.guilty)
  | .inherited number failure, .inherited number' failure' =>
      R (.error number failure) (.error number' failure')
  | .noRule _, .noRule _ | .notAType _, .notAType _ => True
  | _, _ => False

/-- Reasons at premises with one number are reasons at the whole terms. -/
theorem Halt.Corresponds.premise {R : Ty → Ty → Prop} {scope s scope' s' : Scope}
    {t u t' u' : Term} {halt halt' : Halt} {i : Nat} (h : halt.Corresponds R s u s' u' halt')
    (hpremise : (t.premises scope)[i]? = some (s, u))
    (hpremise' : (t'.premises scope')[i]? = some (s', u')) :
    halt.Corresponds R scope t scope' t' halt' := by
  cases halt <;> cases halt' <;> try exact h
  obtain ⟨halike, path, hpath, hpath'⟩ := h
  refine ⟨halike, i :: path, ?_, ?_⟩
  · rw [Term.judgedAt?, hpremise]
    exact hpath
  · rw [Term.judgedAt?, hpremise']
    exact hpath'

/-- The tables two judgements have got to, from those they started in. -/
structure Grown (T : Numbering → Numbering → Prop) (start start' now now' : Numbering) : Prop where
  left : start.Extends now
  right : start'.Extends now'
  tables : T now now'

/-- The rules for two like terms have got as far as the tables `now` and
`now'`. -/
structure Abreast (T : Numbering → Numbering → Prop) (R : Numbering → Numbering → Ty → Ty → Prop)
    (scope : Scope) (t : Term) (scope' : Scope) (t' : Term)
    (start start' now now' : Numbering) : Prop where
  grown : Grown T start start' now now'
  terms : t.Alike (R now now') t'
  scopes : scope.Agrees (R now now') t.visible scope'

/-- Two judgements both end early. -/
def HaltedAbreast (T : Numbering → Numbering → Prop) (R : Numbering → Numbering → Ty → Ty → Prop)
    (scope : Scope) (t : Term) (scope' : Scope) (t' : Term) (start start' : Numbering)
    (halt : Halt) (after : Numbering) (halt' : Halt) (after' : Numbering) : Prop :=
  Grown T start start' after after' ∧ halt.Corresponds (R after after') scope t scope' t' halt'

/-- The judgements of a term and of any term like it go the same way. -/
def Term.Agrees (T : Numbering → Numbering → Prop) (R : Numbering → Numbering → Ty → Ty → Prop)
    (t : Term) : Prop :=
  ∀ (t' : Term) (scope scope' : Scope) (start start' : Numbering),
    Abreast T R scope t scope' t' start start' start start' →
    Tandem (t.judge scope) start (t'.judge scope') start'
      (fun type after type' after' => Grown T start start' after after' ∧ R after after' type type')
      (HaltedAbreast T R scope t scope' t' start start')

namespace Abreast

open Judging

variable {T : Numbering → Numbering → Prop} {R : Numbering → Numbering → Ty → Ty → Prop}
  {scope s scope' s' : Scope} {t u t' u' : Term} {start start' now now' : Numbering} {i : Nat}
  {α β : Type}

/-- Both rules judge the premise with some number and go on with its type. -/
theorem premise (hR : Congruent T R) (h : Abreast T R scope t scope' t' start start' now now')
    (hu : u.Agrees T R) (hterms : u.Alike (R now now') u')
    (hscopes : s.Agrees (R now now') u.visible s') (i : Nat)
    (hpremise : (t.premises scope)[i]? = some (s, u))
    (hpremise' : (t'.premises scope')[i]? = some (s', u')) {next next' : Ty → Judging α}
    {done : α → Numbering → α → Numbering → Prop}
    (hnext : ∀ type after type' after',
      Abreast T R scope t scope' t' start start' after after' → R after after' type type' →
      (∀ old old', R now now' old old' → R after after' old old') →
      Tandem (next type) after (next' type') after' done
        (HaltedAbreast T R scope t scope' t' start start')) :
    Tandem (u.judge s >>= next) now (u'.judge s' >>= next') now' done
      (HaltedAbreast T R scope t scope' t' start start') := by
  have hgrow : ∀ {after after'}, Grown T now now' after after' →
      Grown T start start' after after' := fun hafter =>
    ⟨h.grown.left.trans hafter.left, h.grown.right.trans hafter.right, hafter.tables⟩
  refine (hu u' s s' now now' ⟨⟨.refl _, .refl _, h.grown.tables⟩, hterms, hscopes⟩).bind ?_ ?_
  · rintro halt after halt' after' ⟨hafter, hhalt⟩
    exact ⟨hgrow hafter, hhalt.premise hpremise hpremise'⟩
  · rintro type after type' after' ⟨hafter, htype⟩
    have hkeep : ∀ old old', R now now' old old' → R after after' old old' :=
      fun old old' hold => hR.mono hafter.left hafter.right hold
    exact hnext type after type' after'
      ⟨hgrow hafter, h.terms.mono hkeep, h.scopes.mono hkeep⟩ htype hkeep

/-- Both rules find a fault of their own, or both go on in the same tables. -/
theorem step (h : Abreast T R scope t scope' t' start start' now now')
    {work work' : Judging β} {fault fault' : Fault} {good : β → β → Prop}
    {next next' : β → Judging α} {done : α → Numbering → α → Numbering → Prop}
    (hwork : Tandem work now work' now'
      (fun b after b' after' => after = now ∧ after' = now' ∧ good b b')
      (fun halt after halt' after' => after = now ∧ after' = now' ∧ halt = .fault s fault ∧
        halt' = .fault s' fault'))
    (halike : fault.Alike (R now now') fault') (path : Path)
    (hpath : t.judgedAt? scope path = some (s, fault.guilty))
    (hpath' : t'.judgedAt? scope' path = some (s', fault'.guilty))
    (hnext : ∀ b b', good b b' → Tandem (next b) now (next' b') now' done
      (HaltedAbreast T R scope t scope' t' start start')) :
    Tandem (work >>= next) now (work' >>= next') now' done
      (HaltedAbreast T R scope t scope' t' start start') := by
  apply hwork.bind
  · rintro halt after halt' after' ⟨rfl, rfl, rfl, rfl⟩
    exact ⟨h.grown, halike, path, hpath, hpath'⟩
  · rintro b after b' after' ⟨rfl, rfl, hgood⟩
    exact hnext b b' hgood

/-- Both rules end with types they were given or found. -/
theorem settle (hR : Congruent T R) (h : Abreast T R scope t scope' t' start start' now now')
    {type type' : Ty} (htype : R now now' type type') :
    Tandem (Judging.settle type) now (Judging.settle type') now'
      (fun t after t' after' => Grown T start start' after after' ∧ R after after' t t')
      (HaltedAbreast T R scope t scope' t' start start') := by
  apply (settle_agrees hR htype).mono
  · rintro t after t' after' ⟨rfl, rfl, ht⟩
    exact ⟨h.grown, ht⟩
  · rintro halt after halt' after' ⟨rfl, rfl, number, failure, number', failure', herror, rfl, rfl⟩
    exact ⟨h.grown, herror⟩

end Abreast

open Judging in
/-- **Judging looks at nothing but the structure of a term, its types and the
visible names.** -/
theorem Term.judge_agrees {T : Numbering → Numbering → Prop}
    {R : Numbering → Numbering → Ty → Ty → Prop} (hR : Congruent T R) (t : Term) :
    t.Agrees T R := by
  induction t with
  | ident label name =>
    intro t' scope scope' start start' h
    cases h.terms with
    | ident =>
      have hname := h.scopes name.text List.mem_cons_self
      rw [Term.judge, Term.judge]
      generalize scope.lookup name.text = found at hname
      generalize scope'.lookup name.text = found' at hname
      cases hname with
      | nothing => exact ⟨h.grown, .unbound, [], rfl, rfl⟩
      | type htype => exact h.settle hR htype
      | @other part part' hpart hpart' =>
        cases part <;> cases part' <;>
          first
          | exact (hpart _ rfl).elim
          | exact (hpart' _ rfl).elim
          | exact ⟨h.grown, trivial⟩
  | number label value =>
    intro t' scope scope' start start' h
    cases h.terms with
    | number => exact ⟨h.grown, hR.named h.grown.tables (by simp)⟩
  | truth label value =>
    intro t' scope scope' start start' h
    cases h.terms with
    | truth => exact ⟨h.grown, hR.named h.grown.tables (by simp)⟩
  | builtin label op =>
    intro t' scope scope' start start' h
    cases h.terms with
    | builtin =>
      refine ⟨h.grown, hR.named h.grown.tables ?_⟩
      cases op <;> simp [Builtin.type]
  | fn label param domain body ih =>
    intro t' scope scope' start start' h
    cases h.terms with
    | fn hdomain hbody =>
      rw [Term.judge, Term.judge]
      refine h.premise hR ih hbody (h.scopes.extend hdomain) 0 rfl rfl ?_
      intro range now range' now' h hrange hkeep
      obtain ⟨htables, htype⟩ := hR.make_arrow h.grown.tables (hkeep _ _ hdomain) hrange rfl rfl
      exact ⟨⟨h.grown.left.trans (now.extends_insert _),
        h.grown.right.trans (now'.extends_insert _), htables⟩, htype⟩
  | app label callee argument ihf iha =>
    intro t' scope scope' start start' h
    cases h.terms with
    | @app _ label' _ callee' _ argument' hcallee hargument =>
      rw [Term.judge, Term.judge]
      refine h.premise hR ihf hcallee (h.scopes.subset (by simp [visible])) 0 rfl rfl ?_
      intro calleeType now calleeType' now' h hcalleeType hkeep
      refine h.step (expectArrow_agrees hR callee callee' hcalleeType) (.notAFunction hcalleeType)
        [0] rfl rfl ?_
      rintro ⟨domain, range⟩ ⟨domain', range'⟩ ⟨hdomain, hrange⟩
      refine h.premise hR iha (hargument.mono hkeep) (h.scopes.subset (by simp [visible])) 1 rfl
        rfl ?_
      intro got after got' after' h hgot hkeep
      have hdomain := hkeep _ _ hdomain
      refine h.step (expectSame_agrees hR .argument argument argument' hdomain hgot)
        (.mismatch hdomain hgot) [1] rfl rfl ?_
      intro _ _ _
      exact h.settle hR (hkeep _ _ hrange)
  | recur label name declared body ih =>
    intro t' scope scope' start start' h
    cases h.terms with
    | @recur _ label' _ _ declared' _ body' hdeclared hbody =>
      rw [Term.judge, Term.judge]
      refine h.premise hR ih hbody (h.scopes.extend hdeclared) 0 rfl rfl ?_
      intro got now got' now' h hgot hkeep
      have hdeclared := hkeep _ _ hdeclared
      refine h.step (expectSame_agrees hR .recursion body body' hdeclared hgot)
        (.mismatch hdeclared hgot) [0] rfl rfl ?_
      intro _ _ _
      exact ⟨h.grown, hdeclared⟩
  | cond label condition thenBranch elseBranch ihc iht ihe =>
    intro t' scope scope' start start' h
    cases h.terms with
    | @cond _ label' _ condition' _ thenBranch' _ elseBranch' hcondition hthen helse =>
      rw [Term.judge, Term.judge]
      refine h.premise hR ihc hcondition (h.scopes.subset (by simp [visible])) 0 rfl rfl ?_
      intro conditionType now₁ conditionType' now₁' h hconditionType hkeep₁
      refine h.premise hR iht (hthen.mono hkeep₁) (h.scopes.subset (by simp [visible])) 1 rfl
        rfl ?_
      intro thenType now₂ thenType' now₂' h hthenType hkeep₂
      refine h.premise hR ihe ((helse.mono hkeep₁).mono hkeep₂)
        (h.scopes.subset (by simp [visible])) 2 rfl rfl ?_
      intro elseType now₃ elseType' now₃' h helseType hkeep₃
      have hboolean := hR.named h.grown.tables (t := .boolean) (by simp)
      have hconditionType := hkeep₃ _ _ (hkeep₂ _ _ hconditionType)
      have hthenType := hkeep₃ _ _ hthenType
      refine h.step (expectSame_agrees hR .condition condition condition' hboolean hconditionType)
        (.mismatch hboolean hconditionType) [0] rfl rfl ?_
      intro _ _ _
      rw [hR.sameClass hthenType helseType]
      split
      · exact ⟨h.grown, hthenType⟩
      · exact ⟨h.grown, .branches hthenType helseType, [], rfl, rfl⟩
  | letIn label name declared binding body ihb ih =>
    intro t' scope scope' start start' h
    cases h.terms with
    | @letIn _ label' _ _ declared' _ binding' _ body' hdeclared hbinding hbody =>
      rw [Term.judge, Term.judge]
      refine h.premise hR ihb hbinding (.empty _ _) 0 rfl rfl ?_
      intro got now got' now' h hgot hkeep
      have hdeclared := hkeep _ _ hdeclared
      refine h.step (expectSame_agrees hR .binding binding binding' hdeclared hgot)
        (.mismatch hdeclared hgot) [0] rfl rfl ?_
      intro _ _ _
      -- The rule ends with the judgement of the body; a premise is followed by something.
      rw [← bind_pure (body.judge _), ← bind_pure (body'.judge _)]
      refine h.premise hR ih (hbody.mono hkeep) (h.scopes.extend hdeclared) 1 rfl rfl ?_
      intro type after type' after' h htype _
      exact ⟨h.grown, htype⟩
  | pair label first second ihf ihs =>
    intro t' scope scope' start start' h
    cases h.terms with
    | pair hfirst hsecond =>
      rw [Term.judge, Term.judge]
      refine h.premise hR ihf hfirst (.empty _ _) 0 rfl rfl ?_
      intro firstType now₁ firstType' now₁' h hfirstType hkeep₁
      refine h.premise hR ihs (hsecond.mono hkeep₁) (.empty _ _) 1 rfl rfl ?_
      intro secondType now₂ secondType' now₂' h hsecondType hkeep₂
      obtain ⟨htables, htype⟩ := hR.make_pair h.grown.tables (hkeep₂ _ _ hfirstType) hsecondType
        rfl rfl
      exact ⟨⟨h.grown.left.trans (now₂.extends_insert _),
        h.grown.right.trans (now₂'.extends_insert _), htables⟩, htype⟩
  | proj label side inner ih =>
    intro t' scope scope' start start' h
    cases h.terms with
    | @proj _ label' _ _ inner' hinner =>
      rw [Term.judge, Term.judge]
      refine h.premise hR ih hinner (.empty _ _) 0 rfl rfl ?_
      intro innerType now innerType' now' h hinnerType _
      refine h.step (expectPair_agrees hR inner inner' hinnerType) (.notAPair hinnerType) [0] rfl
        rfl ?_
      rintro ⟨first, second⟩ ⟨first', second'⟩ ⟨hfirst, hsecond⟩
      cases side with
      | first => exact h.settle hR hfirst
      | second => exact h.settle hR hsecond
  | bareProj label inner ih =>
    intro t' scope scope' start start' h
    cases h.terms with
    | bareProj _ => exact ⟨h.grown, trivial⟩
  | bare label =>
    intro t' scope scope' start start' h
    cases h.terms with
    | bare => exact ⟨h.grown, trivial⟩

/-- One term in two scopes that have the same for all visible names: both
judgements give the same type, or both find the same fault at one path. -/
theorem Term.judge_of_lookup_eq {t : Term} {scope scope' : Scope} (start : Numbering)
    (h : ∀ name ∈ t.visible, scope.lookup name = scope'.lookup name) :
    Tandem (t.judge scope) start (t.judge scope') start
      (fun type after type' after' => after = after' ∧ type = type')
      (fun halt after halt' after' => after = after' ∧
        halt.Corresponds Eq scope t scope' t halt') := by
  have hscopes : scope.Agrees Eq t.visible scope' := by
    intro name hname
    rw [h name hname]
    exact .refl _ fun _ _ => rfl
  have hstart : Grown (fun now now' => now = now') start start start start :=
    ⟨.refl _, .refl _, rfl⟩
  refine (t.judge_agrees .equal t scope scope' start start ⟨hstart, .refl fun _ _ => rfl,
    hscopes⟩).mono ?_ ?_
  · rintro type after type' after' ⟨hgrown, htype⟩
    exact ⟨hgrown.tables, htype⟩
  · rintro halt after halt' after' ⟨hgrown, hhalt⟩
    exact ⟨hgrown.tables, hhalt⟩

/-- One judgement from two tables that know the given types: both give types of
one shape, or both find a fault of one sort at one path. -/
theorem Term.judge_of_knows {t : Term} {scope : Scope} {start start' : Numbering}
    (hnamed : Numbering.initial.Extends start) (hnamed' : Numbering.initial.Extends start')
    (hgiven : GivenTypes start.Knows t scope) (hgiven' : GivenTypes start'.Knows t scope) :
    Tandem (t.judge scope) start (t.judge scope) start'
      (fun type after type' after' => SameShape after after' type type')
      (fun halt after halt' after' =>
        halt.Corresponds (SameShape after after') scope t scope t halt') := by
  have hscopes : scope.Agrees (SameShape start start') t.visible scope := by
    intro name hname
    refine .refl _ ?_
    intro type hfound
    exact ⟨hgiven.bound name type hfound, hgiven'.bound name type hfound, rfl⟩
  have hterms : t.Alike (SameShape start start') t := by
    refine .refl ?_
    intro type htype
    exact ⟨hgiven.declared type htype, hgiven'.declared type htype, rfl⟩
  refine (t.judge_agrees .sameShape t scope scope start start'
    ⟨⟨.refl _, .refl _, hnamed, hnamed'⟩, hterms, hscopes⟩).mono ?_ ?_
  · rintro type after type' after' ⟨-, htype⟩
    exact htype
  · rintro halt after halt' after' ⟨-, hhalt⟩
    exact hhalt

end PCFTyping
