import PCFTyping.Proofs.Session.Pictures

/-!
Only visible names matter to a check.

A check asks its scope for the visible names of the term and for no others. Two
scopes that have the same for these names lead to one result, and to issues
that differ in the lines about the scope at most (`Session.check_agrees`). If
the result is no error, every visible name is bound (`Term.judge_binds`).
`Session.check_of_visible` draws the conclusions: what more a scope binds, what
is shadowed in it and in which order it binds different names is of no account.
-/

namespace PCFTyping

/-! ### Scopes that have the same for a name -/

namespace Scope

/-- A scope in which every name means a renderable type or nothing. -/
structure Readable (scope : Scope) : Prop where
  onlyTypes : scope.OnlyTypes
  renderable : scope.All Ty.Renderable

/-- Bindings in the middle of a stack do not matter to a name that they do not
bind or that is bound further in. -/
theorem lookup_between {outermost : Outermost} {inner extra outer : List (String × Ty)}
    {name : String} (h : ∀ binding ∈ extra, binding.1 ≠ name ∨ name ∈ inner.map Prod.fst) :
    lookup ⟨outermost, inner ++ extra ++ outer⟩ name = lookup ⟨outermost, inner ++ outer⟩ name := by
  suffices hframes : (inner ++ extra ++ outer).lookup name = (inner ++ outer).lookup name by
    simp only [lookup, hframes]
  rw [List.append_assoc, List.lookup_append, List.lookup_append, List.lookup_append]
  cases hinner : inner.lookup name with
  | some type => rfl
  | none =>
    have hunbound : extra.lookup name = none := by
      rw [List.lookup_eq_none_iff] at hinner ⊢
      intro binding hbinding
      rcases h binding hbinding with hne | hbound
      · exact bne_iff_ne.mpr hne.symm
      · obtain ⟨further, hmem, rfl⟩ := List.mem_map.mp hbound
        exact (bne_iff_ne.mp (hinner further hmem) rfl).elim
    rw [hunbound]
    rfl

/-- A name sees its own bindings only. -/
theorem lookup_of_filter_eq {scope scope' : Scope} {name : String}
    (houtermost : scope.outermost = scope'.outermost)
    (hframes : scope.frames.filter (·.1 = name) = scope'.frames.filter (·.1 = name)) :
    scope.lookup name = scope'.lookup name := by
  have hfilter : ∀ frames : List (String × Ty),
      (frames.filter (·.1 = name)).lookup name = frames.lookup name := by
    intro frames
    induction frames with
    | nil => rfl
    | cons binding rest ih =>
      obtain ⟨bound, type⟩ := binding
      by_cases hbound : bound = name
      · simp [hbound]
      · have hne : (name == bound) = false := beq_eq_false_iff_ne.mpr (Ne.symm hbound)
        simp [hbound, hne, List.lookup_cons, ih]
  rw [lookup, lookup, houtermost, ← hfilter, hframes, hfilter]

end Scope

/-! ### Visible names are bound -/

/-- A scope has a type for each of some names. -/
def Scope.Binds (scope : Scope) (names : List String) : Prop :=
  ∀ name ∈ names, ∃ type, scope.lookup name = some (.type type)

/-- What is bound below a binder is bound outside, the bound name apart. -/
theorem Scope.Binds.of_extend {scope : Scope} {bound : String} {type : Ty} {names : List String}
    (h : (scope.extend bound type).Binds names) : scope.Binds (names.filter (· ≠ bound)) := by
  intro name hname
  obtain ⟨hmem, hne⟩ := List.mem_filter.mp hname
  obtain ⟨found, hfound⟩ := h name hmem
  rw [lookup_extend, if_neg (of_decide_eq_true hne)] at hfound
  exact ⟨found, hfound⟩

theorem Scope.Binds.nil {scope : Scope} : scope.Binds [] :=
  List.forall_mem_nil _

theorem Scope.Binds.append {scope : Scope} {names names' : List String} (h : scope.Binds names)
    (h' : scope.Binds names') : scope.Binds (names ++ names') :=
  List.forall_mem_append.mpr ⟨h, h'⟩

/-- A judgement that gives a type has found every visible name in its scope. -/
theorem Term.judge_binds (t : Term) (scope : Scope) (start : Numbering) :
    Ensures (t.judge scope) start (fun _ _ => scope.Binds t.visible) (fun _ _ => True) := by
  have hdrop : ∀ (halt : Halt) (after : Numbering), True → True := fun _ _ h => h
  induction t generalizing scope start with
  | ident label name =>
    rw [Term.judge]
    split
    · exact trivial
    · rename_i type hfound
      refine (Ensures.trivial _ start).mono ?_ hdrop
      intro _ _ _ other hother
      cases List.mem_singleton.mp hother
      exact ⟨type, hfound⟩
    · exact trivial
  | number label value | truth label value | builtin label op => exact Scope.Binds.nil
  | fn label param domain body ih =>
    rw [Term.judge]
    apply (ih _ start).bind hdrop
    intro range now hbody
    exact (Ensures.trivial _ now).mono (fun _ _ _ => hbody.of_extend) hdrop
  | app label callee argument ihf iha =>
    rw [Term.judge]
    apply (ihf scope start).bind hdrop
    intro calleeType now hcallee
    apply (Ensures.trivial _ now).bind hdrop
    intro parts now _
    apply (iha scope now).bind hdrop
    intro got now hargument
    exact (Ensures.trivial _ now).mono (fun _ _ _ => hcallee.append hargument) hdrop
  | recur label name declared body ih =>
    rw [Term.judge]
    apply (ih _ start).bind hdrop
    intro got now hbody
    exact (Ensures.trivial _ now).mono (fun _ _ _ => hbody.of_extend) hdrop
  | cond label condition thenBranch elseBranch ihc iht ihe =>
    rw [Term.judge]
    apply (ihc scope start).bind hdrop
    intro conditionType now hcondition
    apply (iht scope now).bind hdrop
    intro thenType now hthen
    apply (ihe scope now).bind hdrop
    intro elseType now helse
    exact (Ensures.trivial _ now).mono (fun _ _ _ => hcondition.append (hthen.append helse)) hdrop
  | letIn label name declared binding body ihb ih =>
    rw [Term.judge]
    apply (Ensures.trivial _ start).bind hdrop
    intro got now _
    apply (Ensures.trivial _ now).bind hdrop
    intro _ now _
    exact (ih _ now).mono (fun _ _ hbody => hbody.of_extend) hdrop
  | pair label first second ihf ihs | proj label side inner ih =>
    exact (Ensures.trivial _ start).mono (fun _ _ _ => Scope.Binds.nil) hdrop
  | bareProj label inner ih | bare label => exact trivial

/-! ### One verdict in two scopes -/

namespace Term.Judged

variable {t : Term} {scope scope' : Scope} {start after : Numbering}

/-- Where one scope leads to a type, so does the other. -/
theorem found_of_lookup_eq {verdict : Except Halt Ty} {type : Ty}
    (hsame : ∀ name ∈ t.visible, scope.lookup name = scope'.lookup name)
    (h : t.Judged scope start verdict after) (hfound : Session.Found verdict type) :
    ∃ verdict', Session.Found verdict' type ∧ t.Judged scope' start verdict' after := by
  have htandem := t.judge_of_lookup_eq start hsame
  cases hfound with
  | derived =>
    obtain ⟨type', after', hrun, rfl, rfl⟩ := htandem.of_ok h
    exact ⟨.ok type, .derived, hrun⟩
  | inherited =>
    obtain ⟨halt', after', hrun, rfl, hcorresponds⟩ := htandem.of_error h
    cases halt' with
    | inherited number' failure' =>
      cases hcorresponds
      exact ⟨_, .inherited, hrun⟩
    | fault | noRule | notAType => exact hcorresponds.elim

/-- Where one scope leads to a fault, the other leads to the same one. -/
theorem fault_of_lookup_eq {inForce : Scope} {fault : Fault}
    (hsame : ∀ name ∈ t.visible, scope.lookup name = scope'.lookup name)
    (h : t.Judged scope start (.error (.fault inForce fault)) after) :
    ∃ inForce', t.Judged scope' start (.error (.fault inForce' fault)) after := by
  obtain ⟨halt', after', hrun, rfl, hcorresponds⟩ :=
    (t.judge_of_lookup_eq start hsame).of_error h
  cases halt' with
  | fault inForce' fault' =>
    obtain ⟨halike, path, hpath, hpath'⟩ := hcorresponds
    have hguilty : fault.guilty = fault'.guilty := Option.some.inj
      ((follow?_of_judgedAt? hpath).symm.trans (follow?_of_judgedAt? hpath'))
    cases halike.eq hguilty
    exact ⟨inForce', hrun⟩
  | inherited | noRule | notAType => exact hcorresponds.elim

end Term.Judged

/-! ### One check in two scopes -/

/-- An issue without its last lines, which are about the scope. -/
def Issue.withoutFooter : Issue → Issue
  | picture p => picture { p with footer := [] }
  | issue => issue

namespace Session

variable {session : Session} {t : Term} {scope scope' : Scope}

/-- The new issues of two later moments are alike, the lines about the scope
apart. -/
def SameNews (before after after' : Session) : Prop :=
  ∃ new new' : List Issue,
    after.report = { before.report with issues := before.report.issues ++ new } ∧
    after'.report = { before.report with issues := before.report.issues ++ new' } ∧
    new.map Issue.withoutFooter = new'.map Issue.withoutFooter

/-- A term is checked in two scopes with one outcome: the same result or the
same cause for stopping, and the same news. -/
def SameCheck (session : Session) (t : Term) (scope scope' : Scope) : Prop :=
  Tandem (check (.term t) (.scope scope)) session (check (.term t) (.scope scope')) session
    (fun result after result' after' => result' = result ∧ SameNews session after after')
    (fun stop after stop' after' => stop' = stop ∧ SameNews session after after')

theorem SameNews.of_speaks {after after' : Session} {numbering numbering' : Numbering}
    (h : (session.withTable numbering).Speaks after)
    (h' : (session.withTable numbering').Speaks after') : session.SameNews after after' := by
  refine ⟨[], [], ?_, ?_, rfl⟩
  · rw [h.report, List.append_nil]
    rfl
  · rw [h'.report, List.append_nil]
    rfl

theorem SameNews.of_pictures {after after' : Session} {numbering numbering' : Numbering}
    {picture : Picture} {footer : List String}
    (h : ((session.withTable numbering).withPicture picture).Speaks after)
    (h' : ((session.withTable numbering').withPicture { picture with footer }).Speaks after') :
    session.SameNews after after' :=
  ⟨[.picture picture], [.picture { picture with footer }], h.report, h'.report, rfl⟩

/-- Scopes that agree on the visible names lead to the same outcome. -/
theorem check_agrees (ht : t.Writable) (hscope : scope.Readable) (hscope' : scope'.Readable)
    (hnamed : Numbering.initial.Extends session.workshop.numbering)
    (hsame : ∀ name ∈ t.visible, scope.lookup name = scope'.lookup name) :
    SameCheck session t scope scope' := by
  obtain ⟨verdict, numbering, hjudged⟩ := t.exists_judged scope session.workshop.numbering
  have hready : ∀ {s : Scope}, s.Readable → Underway (fun _ type => type.Renderable) s t
      session.workshop.numbering session.workshop.numbering :=
    fun hs => ⟨hnamed, .refl _, ht.declared, hs.renderable⟩
  have hwords : session.report.verbose = true → Succeeds (Part.term t).shown :=
    fun _ => ht.render_ok
  rcases hjudged.found_or_pictured .renderable (fun _ _ h => h) (hready hscope) ht.inLanguage
    hscope.onlyTypes with
    ⟨type, hfound, hrenderable⟩ | ⟨inForce, fault, picture, rfl, hfault, hpicture⟩
  · obtain ⟨verdict', hfound', hjudged'⟩ := hjudged.found_of_lookup_eq hsame hfound
    have htype : session.report.verbose = true → type.isError = false → Succeeds type.render :=
      fun _ _ => hrenderable.render_ok
    refine .of_ensures (check_passes hfound hwords htype hjudged)
      (check_passes hfound' hwords htype hjudged') ?_ ?_ ?_ ?_
    · rintro result after result' after' ⟨rfl, hspeaks, -⟩ ⟨rfl, hspeaks', -⟩
      exact ⟨rfl, .of_speaks hspeaks hspeaks'⟩
    · rintro stop after stop' after' ⟨hspeaks, number, failure, rfl, hstop⟩
        ⟨hspeaks', _, _, ⟨⟩, hstop'⟩
      cases hstop.symm.trans hstop'
      exact ⟨rfl, .of_speaks hspeaks hspeaks'⟩
    · rintro result after stop after' ⟨-, -, hexplained⟩ ⟨-, number, failure, rfl, hstop⟩
      obtain ⟨text, htext⟩ := hexplained _ _ rfl
      cases htext.symm.trans hstop
    · rintro stop after result after' ⟨-, number, failure, rfl, hstop⟩ ⟨-, -, hexplained⟩
      obtain ⟨text, htext⟩ := hexplained _ _ rfl
      cases htext.symm.trans hstop
  · obtain ⟨inForce', hjudged'⟩ := hjudged.fault_of_lookup_eq hsame
    have hhalted' := ((t.judge_keeps .renderable scope' _ (hready hscope')).of_error hjudged').2
    obtain ⟨footer, hfooter⟩ := Scope.footer_ok hhalted'.1
    have hpicture' : fault.complaint.picture (.scope inForce') (.term t) =
        .ok { picture with footer } := Complaint.picture_of_footer hpicture hfooter
    have hlimit : (session.withPicture { picture with footer }).report.atLimit =
        (session.withPicture picture).report.atLimit := by
      simp [withPicture, Report.atLimit, Report.count, Report.add]
    refine .of_ensures (check_files ht hfault hpicture hjudged)
      (check_files ht hfault hpicture' hjudged') ?_ ?_ ?_ ?_
    · rintro result after result' after' ⟨rfl, hspeaks, -⟩ ⟨rfl, hspeaks', -⟩
      exact ⟨rfl, .of_pictures hspeaks hspeaks'⟩
    · rintro stop after stop' after' ⟨rfl, hspeaks, -⟩ ⟨rfl, hspeaks', -⟩
      exact ⟨rfl, .of_pictures hspeaks hspeaks'⟩
    · rintro result after stop after' ⟨-, -, hroom⟩ ⟨-, -, hfull⟩
      simp [hlimit, hroom] at hfull
    · rintro stop after result after' ⟨-, -, hfull⟩ ⟨-, -, hroom⟩
      simp [hlimit, hfull] at hroom

/-- A check that gives a type other than an error has found every visible name
in its scope. -/
theorem check_binds (ht : t.Writable) (hscope : scope.Readable)
    (hnamed : Numbering.initial.Extends session.workshop.numbering) {type : Ty} {after : Session}
    (hrun : (check (.term t) (.scope scope)).run session = .ok type after)
    (hnoError : type.isError = false) : scope.Binds t.visible := by
  obtain ⟨verdict, numbering, hjudged⟩ := t.exists_judged scope session.workshop.numbering
  rcases hjudged.found_or_pictured .renderable (fun _ _ h => h)
    ⟨hnamed, .refl _, ht.declared, hscope.renderable⟩ ht.inLanguage hscope.onlyTypes with
    ⟨found, hfound, hrenderable⟩ | ⟨inForce, fault, picture, rfl, hfault, hpicture⟩
  · obtain ⟨rfl, -⟩ := (check_passes hfound (fun _ => ht.render_ok)
      (fun _ _ => hrenderable.render_ok) hjudged).of_ok hrun
    cases hfound with
    | derived => exact (t.judge_binds scope _).of_ok hjudged
    | inherited => cases hnoError
  · obtain ⟨rfl, -⟩ := (check_files ht hfault hpicture hjudged).of_ok hrun
    cases hnoError

/-- **Only visible names matter.** Scopes that agree on the visible names of a
term lead to one outcome of its check, and a check that gives a type other than
an error has found all of them bound. So it makes no difference which other
names a scope binds, what it shadows and how it orders the bindings of
different names; more bindings never change a type other than an error; and for
a pair or a projection no two scopes differ. -/
theorem check_of_visible (hterm : t.InLanguage) (htypes : ∀ type ∈ t.declared, type.Renderable)
    (hnamed : Numbering.initial.Extends session.workshop.numbering)
    (hscope : scope.Readable) (hscope' : scope'.Readable) :
    ((∀ name ∈ t.visible, scope.lookup name = scope'.lookup name) →
      SameCheck session t scope scope') ∧
    (∀ type after, (check (.term t) (.scope scope)).run session = .ok type after →
      type.isError = false →
      scope.Binds t.visible ∧
        ((∀ name, scope.lookup name = none ∨ scope.lookup name = scope'.lookup name) →
          SameCheck session t scope scope')) ∧
    (∀ outermost inner extra outer, scope = ⟨outermost, inner ++ outer⟩ →
      scope' = ⟨outermost, inner ++ extra ++ outer⟩ →
      (∀ binding ∈ extra, binding.1 ∉ t.visible ∨ binding.1 ∈ inner.map Prod.fst) →
      SameCheck session t scope scope') ∧
    (scope.outermost = scope'.outermost →
      (∀ name, scope.frames.filter (·.1 = name) = scope'.frames.filter (·.1 = name)) →
      SameCheck session t scope scope') ∧
    ((∃ label first second, t = .pair label first second) ∨
        (∃ label side inner, t = .proj label side inner) →
      SameCheck session t scope scope') := by
  have ht : t.Writable := ⟨hterm, htypes⟩
  have hagree := check_agrees ht hscope hscope' hnamed
  refine ⟨hagree, ?_, ?_, ?_, ?_⟩
  · intro type after hrun hnoError
    have hbinds := check_binds ht hscope hnamed hrun hnoError
    refine ⟨hbinds, fun hmore => hagree ?_⟩
    intro name hname
    obtain ⟨bound, hbound⟩ := hbinds name hname
    exact (hmore name).resolve_left (by simp [hbound])
  · rintro outermost inner extra outer rfl rfl hextra
    refine hagree fun name hname => (Scope.lookup_between ?_).symm
    intro binding hbinding
    by_cases hbound : binding.1 = name
    · cases hbound
      exact .inr ((hextra binding hbinding).resolve_left (absurd hname))
    · exact .inl hbound
  · intro houtermost hframes
    exact hagree fun name _ => Scope.lookup_of_filter_eq houtermost (hframes name)
  · rintro (⟨label, first, second, rfl⟩ | ⟨label, side, inner, rfl⟩)
    · exact hagree nofun
    · exact hagree nofun

/-- A call of `f` is checked where `f` has a second, shadowed binding and `y`
is bound as well: nothing changes. -/
theorem check_of_visible_call :
    let f : Name := ⟨"f", by decide⟩
    let call : Term := .app 2 (.ident 0 f) (.number 1 3)
    let scope : Scope := ⟨.empty, [("f", .intToBool)]⟩
    let scope' : Scope := ⟨.empty, [("f", .intToBool), ("y", .integer), ("f", .boolean)]⟩
    SameCheck (start .quiet []) call scope scope' ∧ scope.Binds ["f"] := by
  intro f call scope scope'
  have hnamed : Numbering.initial.Extends (start .quiet []).workshop.numbering := .refl _
  have htypes : ∀ type ∈ [Ty.integer, Ty.boolean, Ty.intToInt, Ty.intToBool], type.Renderable :=
    fun type => Stable.renderable.named hnamed
  have hextend : ∀ {s : Scope} {type : Ty} (name : String),
      type ∈ [Ty.integer, Ty.boolean, Ty.intToInt, Ty.intToBool] → s.Readable →
      (s.extend name type).Readable := fun name htype hs =>
    ⟨hs.onlyTypes.extend name _, hs.renderable.extend name (htypes _ htype)⟩
  have hempty : Scope.empty.Readable := ⟨Scope.onlyTypes_empty, Scope.all_empty _⟩
  have hscope : scope.Readable := hextend "f" (by simp) hempty
  have hscope' : scope'.Readable :=
    hextend "f" (by simp) (hextend "y" (by simp) (hextend "f" (by simp) hempty))
  have hterm : call.InLanguage := by simp [call, Term.InLanguage]
  have hdeclared : ∀ type ∈ call.declared, type.Renderable := by simp [call, Term.declared]
  obtain ⟨-, hbinds, hextra, -, -⟩ := check_of_visible hterm hdeclared hnamed hscope hscope'
  refine ⟨?_, ?_⟩
  · exact hextra .empty [("f", .intToBool)] [("y", .integer), ("f", .boolean)] [] rfl rfl
      (by decide)
  · exact (hbinds .boolean _ rfl rfl).1

end Session

end PCFTyping
