import PCFTyping.Proofs.Foreign
import PCFTyping.Proofs.Session.Verdict

/-!
Terms that never get a verdict.

If no error is among the given types, a judgement ends with a type or at the one
node where the checking order gets stuck (`Term.Judged.upshot`). Such a node
breaks, is foreign, or is an identifier that the scope has something else for
than a type.

A term with a foreign node has no type, so the checker gets to a foreign node,
or some other node breaks first. In both cases the check stops without a result
and without news. Which of the two happens is settled by the checking order, in
which at most one node is stuck (`Reaches.unique`).

A verbose report does not get that far, since the term cannot be announced
(`Session.check_unannounced`).
-/

namespace PCFTyping

/-- An identifier that the scope has something for, but no type. -/
def Term.Stray (scope : Scope) (u : Term) : Prop :=
  ∃ label name part, u = .ident label name ∧ scope.lookup name.text = some part ∧
    ∀ type, part ≠ .type type

/-- How a judgement ends if no error is among the given types. -/
inductive Upshot (scope : Scope) (t : Term) : Except Halt Ty → Prop where
  | typed {type} : HasType scope t type.shape → type.ErrorFree → Upshot scope t (.ok type)
  | breaks {inForce fault path} : inForce.All Ty.Renderable → fault.Concerns Ty.Renderable t →
      FailsAt scope t path fault.blame → Upshot scope t (.error (.fault inForce fault))
  | foreign {path last v} : Reaches scope t path last v → v.foreign = true →
      Upshot scope t (.error (.noRule v))
  | stray {path last v} : Reaches scope t path last v → v.Stray last →
      Upshot scope t (.error (.notAType v))

theorem Term.Judged.upshot {t : Term} {scope : Scope} {start after : Numbering}
    {verdict : Except Halt Ty} (hnamed : Numbering.initial.Extends start)
    (hgiven : GivenTypes (fun type => start.Knows type ∧ type.Renderable ∧ type.ErrorFree) t scope)
    (h : t.Judged scope start verdict after) : Upshot scope t verdict := by
  have hknown := hgiven.mono fun _ hp => hp.1
  have hsound := t.judge_sound scope start ⟨hnamed, .refl _, hknown⟩
  have hstable := Stable.knows.and (Stable.renderable.and Stable.errorFree)
  have hkeeps := t.judge_keeps hstable scope start ⟨hnamed, .refl _, hgiven⟩
  cases verdict with
  | ok type => exact .typed (hsound.of_ok h) (hkeeps.of_ok h).2.2.2
  | error halt =>
    obtain ⟨path, last, v, hreach, harises⟩ := hsound.of_error h
    have hconcerns := (hkeeps.of_error h).2
    cases halt with
    | fault inForce fault =>
      exact .breaks (hconcerns.1.mono fun _ hp => hp.2.1) (hconcerns.2.mono fun _ hp => hp.2.1)
        ⟨last, v, hreach, harises⟩
    | inherited number failure => cases hconcerns.2.2.isError
    | noRule u =>
      obtain ⟨rfl, ⟨label, inner, rfl⟩ | ⟨label, rfl⟩⟩ := harises
      · exact .foreign hreach rfl
      · exact .foreign hreach rfl
    | notAType u =>
      obtain ⟨rfl, hstray⟩ := harises
      exact .stray hreach hstray

/-- On its way the checker comes into no scope with anything but types, unless
it started in one. -/
theorem Reaches.onlyTypes {scope last : Scope} {t v : Term} {path : Path}
    (h : Reaches scope t path last v) (hscope : scope.OnlyTypes) : last.OnlyTypes := by
  induction h with
  | here => exact hscope
  | down hstep _ ih => exact ih (hscope.premise (List.mem_of_getElem? hstep.premise))

theorem Term.Stray.not_onlyTypes {scope : Scope} {u : Term} (h : u.Stray scope) :
    ¬ scope.OnlyTypes := by
  intro hscope
  obtain ⟨label, name, part, rfl, hpart, hnot⟩ := h
  obtain ⟨type, rfl⟩ := hscope name.text part hpart
  exact hnot type rfl

namespace Session

variable {session : Session} {t first : Term} {scope : Scope}

/-- A term that cannot be announced is not checked: the console is left with
the words before it. -/
theorem check_unannounced (scope : Scope) {stop : Stop} (hverbose : session.report.verbose = true)
    (hshown : (Part.term t).shown = .error stop) :
    Ensures (check (.term t) (.scope scope)) session (fun _ _ => False)
      (fun cause after => cause = stop ∧ after.report = session.report ∧
        after.console = session.console ++ "Type-Check ") := by
  have hintro := @infoLine_ensures { session with unannounced := some t } "Type-Check" (.term t)
  apply hintro.bind
  · rintro cause after ⟨-, hcause, rfl⟩
    cases hshown.symm.trans hcause
    exact ⟨rfl, rfl, rfl⟩
  · rintro _ now ⟨shown, hsaid, -⟩
    cases hshown.symm.trans (hsaid hverbose)

/-- A quiet check whose verdict cannot be settled leaves nothing behind but new
types. -/
theorem check_unsettled {verdict : Except Halt Ty} {numbering : Numbering} {stop : Stop}
    (hquiet : session.report.verbose = false)
    (hjudged : t.Judged scope session.workshop.numbering verdict numbering)
    (hsettle : ∀ now, (settle t verdict).run now = .error stop now) :
    Ensures (check (.term t) (.scope scope)) session (fun _ _ => False)
      (fun cause after => cause = stop ∧ after.report = session.report ∧
        after.console = session.console) := by
  apply check_proceeds hjudged
  · intro cause after hverbose
    rw [hquiet] at hverbose
    cases hverbose
  intro _
  have hstop : Ensures (settle t verdict) ((session.announcing t).withTable numbering)
      (fun _ _ => False)
      (fun cause after => cause = stop ∧ after = (session.announcing t).withTable numbering) := by
    rw [Ensures, hsettle]
    exact ⟨rfl, rfl⟩
  apply hstop.bind
  · rintro cause after ⟨rfl, rfl⟩
    refine ⟨rfl, rfl, ?_⟩
    simp [withTable, announcing, saying, remark, hquiet]
  · exact fun _ _ h => h.elim

/-- The quiet check of a term with a foreign node stops where the checker gets
stuck. -/
theorem check_foreign_quietly (hquiet : session.report.verbose = false)
    (hfirst : t.firstForeign? = some first) (hscope : scope.OnlyTypes)
    (hnamed : Numbering.initial.Extends session.workshop.numbering)
    (hgiven : GivenTypes (fun type => session.workshop.numbering.Knows type ∧
      type.Renderable ∧ type.ErrorFree) t scope) :
    Ensures (check (.term t) (.scope scope)) session (fun _ _ => False)
      (fun stop after => (after.report = session.report ∧ after.console = session.console) ∧
        ((∃ path last v, Reaches scope t path last v ∧ v.foreign = true ∧
          stop = .noRule v.kindName) ∨
        ∃ path blame, FailsAt scope t path blame ∧ stop = .noLayout first.kindName)) := by
  obtain ⟨verdict, numbering, hjudged⟩ := t.exists_judged scope session.workshop.numbering
  cases hjudged.upshot hnamed hgiven with
  | typed htype _ => cases hfirst.symm.trans (Term.inLanguage_iff.mp htype.inLanguage)
  | stray hreach hstray => exact (hstray.not_onlyTypes (hreach.onlyTypes hscope)).elim
  | @foreign path last v hreach hv =>
    refine (check_unsettled hquiet hjudged fun now => rfl).mono (fun _ _ h => h) ?_
    rintro cause after ⟨rfl, hunchanged⟩
    exact ⟨hunchanged, .inl ⟨path, last, v, hreach, hv, rfl⟩⟩
  | @breaks inForce fault path hinForce hfault hfails =>
    have hlegible : ∀ type ∈ t.declared, type.Legible :=
      fun type htype => (hgiven.declared type htype).2.1.legible
    have hsettle : ∀ now, (settle t (.error (.fault inForce fault))).run now =
        .error (.noLayout first.kindName) now := by
      intro now
      simp only [settle, tell, fault.picture_of_foreign hfirst hlegible hinForce hfault]
      rfl
    refine (check_unsettled hquiet hjudged hsettle).mono (fun _ _ h => h) ?_
    rintro cause after ⟨rfl, hunchanged⟩
    exact ⟨hunchanged, .inr ⟨path, fault.blame, hfails, rfl⟩⟩

/-- **A term with a foreign node never gets a verdict.** Its check always stops,
and nothing is filed. A verbose report cannot announce the term: the cause is
the first foreign node in pre-order, and `Type-Check ` is left on the console.
For a quiet report it depends on the checking order. If it leads to a foreign
node, that one lacks a rule; if a node breaks before, the picture of the fault
cannot be drawn, again for the first foreign node. One of the two is the case. -/
theorem check_of_foreign (hforeign : ∃ u : Term, u.Within t ∧ u.foreign = true)
    (hscope : scope.OnlyTypes)
    (hnamed : Numbering.initial.Extends session.workshop.numbering)
    (hgiven : GivenTypes (fun type => session.workshop.numbering.Knows type ∧
      type.Renderable ∧ type.ErrorFree) t scope) :
    ∃ first stop after, t.firstForeign? = some first ∧
      (check (.term t) (.scope scope)).run session = .error stop after ∧
      after.report = session.report ∧
      (session.report.verbose = true → stop = .noLayout first.kindName ∧
        after.console = session.console ++ "Type-Check ") ∧
      (session.report.verbose = false → after.console = session.console ∧
        ((∃ path last v, Reaches scope t path last v ∧ v.foreign = true) ∨
          ∃ path blame, FailsAt scope t path blame) ∧
        (∀ path last v, Reaches scope t path last v → v.foreign = true →
          stop = .noRule v.kindName) ∧
        ∀ path blame, FailsAt scope t path blame → stop = .noLayout first.kindName) := by
  obtain ⟨first, hfirst⟩ : ∃ first, t.firstForeign? = some first := by
    obtain ⟨u, hu, hforeign⟩ := hforeign
    refine Option.ne_none_iff_exists'.mp fun hnone => ?_
    rw [Term.firstForeign?_eq_none_iff.mp hnone u hu] at hforeign
    cases hforeign
  have hlegible : ∀ type ∈ t.declared, type.Legible :=
    fun type htype => (hgiven.declared type htype).2.1.legible
  cases hverbose : session.report.verbose with
  | true =>
    have hshown := Term.shown_of_foreign hfirst hlegible
    obtain ⟨stop, after, hrun, rfl, hreport, hconsole⟩ :=
      (check_unannounced scope hverbose hshown).exists_error
    exact ⟨first, _, after, hfirst, hrun, hreport, fun _ => ⟨rfl, hconsole⟩, nofun⟩
  | false =>
    obtain ⟨stop, after, hrun, ⟨hreport, hconsole⟩, hcause⟩ :=
      (check_foreign_quietly hverbose hfirst hscope hnamed hgiven).exists_error
    refine ⟨first, stop, after, hfirst, hrun, hreport, nofun, fun _ => ⟨hconsole, ?_⟩⟩
    rcases hcause with ⟨path, last, v, hreach, hv, rfl⟩ | ⟨path, blame, hfails, rfl⟩
    · refine ⟨.inl ⟨path, last, v, hreach, hv⟩, ?_, ?_⟩
      · intro path' last' v' hreach' hv'
        obtain ⟨-, -, rfl⟩ := hreach.unique (Term.stuck_of_foreign hv) hreach'
          (Term.stuck_of_foreign hv')
        rfl
      · rintro path' blame ⟨last', v', hreach', hbreak⟩
        obtain ⟨-, rfl, rfl⟩ := hreach.unique (Term.stuck_of_foreign hv) hreach' hbreak.stuck
        cases hbreak.not_foreign.symm.trans hv
    · refine ⟨.inr ⟨path, blame, hfails⟩, ?_, fun _ _ _ => rfl⟩
      intro path' last' v' hreach' hv'
      obtain ⟨last, v, hreach, hbreak⟩ := hfails
      obtain ⟨-, rfl, rfl⟩ := hreach.unique hbreak.stuck hreach' (Term.stuck_of_foreign hv')
      cases hbreak.not_foreign.symm.trans hv'

/-- The argument of a call is foreign, and has a foreign node below it. The
checker gets there if the callee is a function; otherwise the call breaks. -/
theorem check_of_foreign_argument :
    let foreign : Term := .bareProj 2 (.bare 1)
    (∃ stop after, (check (.term (.app 3 (.builtin 0 .successor) foreign)) (.scope .empty)).run
        (start .quiet []) = .error stop after ∧ after.report = .quiet ∧
      stop.message = "'TypeChecker' object has no attribute 'visit_Projection'") ∧
    ∃ stop after, (check (.term (.app 3 (.number 0 1) foreign)) (.scope .empty)).run
        (start .quiet []) = .error stop after ∧ after.report = .quiet ∧
      stop.message = "'Render' object has no attribute 'visit_Projection'" := by
  intro foreign
  have hnamed : Numbering.initial.Extends (start .quiet []).workshop.numbering := .refl _
  constructor
  · obtain ⟨first, stop, after, -, hrun, hreport, -, hquiet⟩ := check_of_foreign
      (t := .app 3 (.builtin 0 .successor) foreign) ⟨foreign, ⟨[1], rfl⟩, rfl⟩
      Scope.onlyTypes_empty hnamed ⟨nofun, Scope.all_empty _⟩
    obtain ⟨-, -, hnoRule, -⟩ := hquiet rfl
    have hreach : Reaches .empty (.app 3 (.builtin 0 .successor) foreign) [1] .empty foreign :=
      .down (.argument .successor) .here
    rw [hnoRule [1] .empty foreign hreach rfl] at hrun
    exact ⟨_, after, hrun, hreport, rfl⟩
  · obtain ⟨first, stop, after, hfirst, hrun, hreport, -, hquiet⟩ := check_of_foreign
      (t := .app 3 (.number 0 1) foreign) ⟨foreign, ⟨[1], rfl⟩, rfl⟩
      Scope.onlyTypes_empty hnamed ⟨nofun, Scope.all_empty _⟩
    obtain ⟨-, -, -, hnoLayout⟩ := hquiet rfl
    have hfails : FailsAt .empty (.app 3 (.number 0 1) foreign) []
        ⟨.notAFunction, .number 0 1, none⟩ := .here (.notAFunction .number nofun)
    obtain rfl : foreign = first := Option.some.inj hfirst
    rw [hnoLayout [] _ hfails] at hrun
    exact ⟨_, after, hrun, hreport, rfl⟩

end Session

end PCFTyping
