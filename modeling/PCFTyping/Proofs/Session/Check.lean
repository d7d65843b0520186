import PCFTyping.Proofs.Telling
import PCFTyping.Session.Check

/-!
What a check does to a session.

A check announces the term, judges it, settles what came of the judgement and
announces the result. The first part describes each of these steps once, the
second puts them together, one lemma for each way in which the judgement can
end:

* `Session.check_passes`: a type is passed on, and the report hears nothing;
* `Session.check_files`: one picture is filed, and the result is the error type
  of the fault, unless the picture is one too many;
* `Session.check_of_no_rule`: without a rule or a type there is no result;
* `Session.check_of_halt`: whatever stops a judgement, no other type comes out.

All of them are about terms and types that can be announced.
`Session.check_proceeds`, from which they follow, is about any term and also
says what is on the console.
-/

namespace PCFTyping

/-! ### The steps of a check -/

namespace Session

variable {session : Session}

/-- Nothing has changed but what is on the console and which announcement is
due. -/
def Speaks (before after : Session) : Prop :=
  ∃ text due, after = { before with console := text, unannounced := due }

theorem Speaks.refl (session : Session) : session.Speaks session :=
  ⟨session.console, session.unannounced, rfl⟩

theorem Speaks.trans {a b c : Session} (hab : a.Speaks b) (hbc : b.Speaks c) : a.Speaks c := by
  obtain ⟨_, _, rfl⟩ := hab
  obtain ⟨text, due, rfl⟩ := hbc
  exact ⟨text, due, rfl⟩

theorem Speaks.report {after : Session} (h : session.Speaks after) :
    after.report = session.report := by
  obtain ⟨_, _, rfl⟩ := h
  rfl

theorem Speaks.workshop {after : Session} (h : session.Speaks after) :
    after.workshop = session.workshop := by
  obtain ⟨_, _, rfl⟩ := h
  rfl

/-- The session with another table of types. -/
def withTable (session : Session) (numbering : Numbering) : Session :=
  { session with workshop := { session.workshop with numbering } }

/-- The session with one more picture in the report. -/
def withPicture (session : Session) (picture : Picture) : Session :=
  { session with report := session.report.add (.picture picture) }

/-- The session with more on its console. -/
def saying (session : Session) (s : String) : Session :=
  { session with console := session.console ++ s }

/-- What a report has to say aloud: a line of two parts if it is verbose. -/
def remark (session : Session) (words shown : String) : String :=
  if session.report.verbose then words ++ " " ++ shown ++ "\n" else ""

/-- What is not said does not matter. -/
theorem remark_congr (words : String) {shown shown' : String}
    (h : session.report.verbose = true → shown = shown') :
    session.remark words shown = session.remark words shown' := by
  unfold remark
  split
  · rename_i hverbose
    rw [h hverbose]
  · rfl

/-- The session once a term is announced. -/
def announcing (session : Session) (t : Term) : Session :=
  { session.saying (session.remark "Type-Check" t.text) with unannounced := none }

theorem speaks_saying (session : Session) (s : String) : session.Speaks (session.saying s) :=
  ⟨session.console ++ s, session.unannounced, rfl⟩

/-- A quiet report says nothing. A verbose one says the words, then the part,
which may turn out to have no text. -/
theorem infoLine_ensures (words : String) (part : Part) :
    Ensures (info [.plain (.text words), part]) session
      (fun _ after => ∃ shown, (session.report.verbose = true → part.shown = .ok shown) ∧
        after = session.saying (session.remark words shown))
      (fun stop after => session.report.verbose = true ∧ part.shown = .error stop ∧
        after = session.saying (words ++ " ")) := by
  apply (Completes.get session).bind
  rintro now after ⟨rfl, rfl⟩
  split
  · rename_i hverbose
    cases hshown : part.shown with
    | ok shown =>
      have hrun : (writeParts [.plain (.text words), part]).run after =
          .ok () (((((after.saying words).saying " ").saying shown)).saying ("" ++ "\n")) := by
        simp only [writeParts, writeRest, hshown]
        rfl
      rw [Ensures, hrun]
      refine ⟨shown, fun _ => rfl, ?_⟩
      simp [saying, remark, hverbose, String.append_assoc]
    | error stop =>
      have hrun : (writeParts [.plain (.text words), part]).run after =
          .error stop ((after.saying words).saying " ") := by
        simp only [writeParts, writeRest, hshown]
        rfl
      rw [Ensures, hrun]
      refine ⟨hverbose, rfl, ?_⟩
      simp [saying, String.append_assoc]
  · rename_i hquiet
    refine ⟨"", fun hverbose => (hquiet hverbose).elim, ?_⟩
    simp [saying, remark, hquiet]

/-- Filing stops exactly when the issue brings the report to its limit, and
then too the issue is filed. -/
theorem file_ensures (issue : Issue) :
    Ensures (file issue) session
      (fun _ after => after = { session with report := session.report.add issue } ∧
        (session.report.add issue).atLimit = false)
      (fun stop after => stop = .tooManyIssues ∧
        after = { session with report := session.report.add issue } ∧
        (session.report.add issue).atLimit = true) := by
  apply (Completes.modify _ session).bind
  rintro _ now rfl
  apply (Completes.get _).bind
  rintro current now ⟨rfl, rfl⟩
  split
  · rename_i hlimit
    exact ⟨rfl, rfl, hlimit⟩
  · rename_i hlimit
    exact ⟨rfl, Bool.eq_false_iff.mpr hlimit⟩

/-- A picture that can be drawn is filed, and this may be one too many. -/
theorem tell_ensures {setting : Setting} {root : Part} {complaint : Complaint} {picture : Picture}
    (h : complaint.picture setting root = .ok picture) :
    Ensures (tell setting root complaint) session
      (fun _ after => after = session.withPicture picture ∧
        (session.withPicture picture).report.atLimit = false)
      (fun stop after => stop = .tooManyIssues ∧ after = session.withPicture picture ∧
        (session.withPicture picture).report.atLimit = true) := by
  apply (Succeeds.completes ⟨picture, h⟩ session).bind
  rintro drawn now ⟨hdrawn, rfl⟩
  rw [h] at hdrawn
  cases hdrawn
  exact file_ensures (.picture picture)

/-- Giving up gives no result, even if the picture cannot be drawn. -/
theorem giveUp_ensures {α : Type} (root : Part) (hint : Scalar) :
    Ensures (giveUp root hint : Act α) session (fun _ _ => False) (fun _ _ => True) := by
  apply (Ensures.trivial _ session).bind (fun _ _ hs => hs)
  intro picture now _
  apply (Ensures.trivial _ now).bind (fun _ _ hs => hs)
  intro _ now _
  apply (Ensures.trivial _ now).bind (fun _ _ hs => hs)
  intro _ now _
  exact True.intro

/-- An error is explained even if nobody listens; any other type is written out
for a verbose report only. -/
theorem announce_ensures (type : Ty) :
    Ensures (announce type) session
      (fun _ after => (∀ number failure, type = .error number failure → Succeeds failure.explain) ∧
        ∃ words, (session.report.verbose = true → type.verdict = .ok (.text words)) ∧
          after = session.saying (session.remark "  :" words))
      (fun stop after => session.Speaks after ∧
        ((∃ number failure, type = .error number failure ∧ failure.explain = .error stop) ∨
          (session.report.verbose = true ∧ type.isError = false ∧ type.render = .error stop))) := by
  cases type with
  | error number failure =>
    rw [announce]
    apply (Ensures.ofExcept failure.explain session).bind
    · rintro stop after ⟨hstop, rfl⟩
      exact ⟨.refl after, .inl ⟨number, failure, rfl, hstop⟩⟩
    rintro text now ⟨htext, rfl⟩
    apply (infoLine_ensures "  :" _).mono
    · rintro _ after ⟨shown, hshown, rfl⟩
      refine ⟨?_, shown, ?_, rfl⟩
      · rintro _ _ ⟨⟩
        exact ⟨text, htext⟩
      · intro hverbose
        cases hshown hverbose
        simp [Ty.verdict, htext, bind, Except.bind, pure, Except.pure, Scalar.display]
    · rintro stop after ⟨-, hstop, -⟩
      cases hstop
  | _ =>
    apply (infoLine_ensures "  :" _).mono
    · rintro _ after ⟨shown, hshown, rfl⟩
      exact ⟨by rintro _ _ ⟨⟩, shown, fun hverbose => Ty.render_eq_ok_iff.mp (hshown hverbose), rfl⟩
    · rintro stop after ⟨hverbose, hstop, rfl⟩
      exact ⟨speaks_saying _ _, .inr ⟨hverbose, rfl, hstop⟩⟩

/-- The announcement of a result that can be written out, and the result. -/
theorem conclude_ensures (type : Ty)
    (h : session.report.verbose = true → type.isError = false → Succeeds type.render) :
    Ensures (announce type >>= fun _ => pure type) session
      (fun result after => result = type ∧ session.Speaks after ∧
        ∀ number failure, type = .error number failure → Succeeds failure.explain)
      (fun stop after => session.Speaks after ∧
        ∃ number failure, type = .error number failure ∧ failure.explain = .error stop) := by
  apply (announce_ensures type).bind
  · rintro stop after ⟨hspeaks, hexplain | ⟨hverbose, hproper, hrender⟩⟩
    · exact ⟨hspeaks, hexplain⟩
    · obtain ⟨s, hs⟩ := h hverbose hproper
      cases hrender.symm.trans hs
  · rintro _ after ⟨hexplained, words, -, rfl⟩
    exact ⟨rfl, speaks_saying _ _, hexplained⟩

/-! ### The whole check -/

end Session

/-- How the judgement of a term ends, and the table it leaves. -/
def Term.Judged (t : Term) (scope : Scope) (start : Numbering) :
    Except Halt Ty → Numbering → Prop
  | .ok type, after => (t.judge scope).run start = .ok type after
  | .error halt, after => (t.judge scope).run start = .error halt after

theorem Term.exists_judged (t : Term) (scope : Scope) (start : Numbering) :
    ∃ verdict after, t.Judged scope start verdict after := by
  cases h : (t.judge scope).run start with
  | ok type after => exact ⟨.ok type, after, h⟩
  | error halt after => exact ⟨.error halt, after, h⟩

/-- A judgement ends in one way. -/
theorem Term.Judged.unique {t : Term} {scope : Scope} {start after after' : Numbering}
    {verdict verdict' : Except Halt Ty} (h : t.Judged scope start verdict after)
    (h' : t.Judged scope start verdict' after') : verdict = verdict' ∧ after = after' := by
  cases verdict <;> cases verdict' <;> cases h.symm.trans h' <;> exact ⟨rfl, rfl⟩

namespace Session

variable {session : Session} {t : Term} {scope : Scope} {verdict : Except Halt Ty}
  {numbering : Numbering}

theorem judge_completes (h : t.Judged scope session.workshop.numbering verdict numbering) :
    Completes (judge t scope) session fun result after => result = verdict ∧
      after = { session with workshop := { session.workshop with numbering } } := by
  have hrun : (judge t scope).run session =
      .ok verdict { session with workshop := { session.workshop with numbering } } := by
    cases verdict with
    | ok type | error halt =>
      rw [Term.Judged] at h
      simp only [EStateM.run, judge] at h ⊢
      rw [h]
  rw [Completes, Ensures, hrun]
  exact ⟨rfl, rfl⟩

/-- A check comes down to what is made of the verdict, once the judgement has
left its table, unless the term cannot even be announced. -/
theorem check_proceeds {done : Ty → Session → Prop} {stopped : Stop → Session → Prop}
    (hjudged : t.Judged scope session.workshop.numbering verdict numbering)
    (hunsaid : ∀ stop after, session.report.verbose = true → (Part.term t).shown = .error stop →
      session.Speaks after → stopped stop after)
    (h : (session.report.verbose = true → t.Legible) →
      Ensures (settle t verdict >>= fun type => announce type >>= fun _ => pure type)
        ((session.announcing t).withTable numbering) done stopped) :
    Ensures (check (.term t) (.scope scope)) session done stopped := by
  have hintro := @infoLine_ensures { session with unannounced := some t } "Type-Check" (.term t)
  apply hintro.bind
  · rintro stop after ⟨hverbose, hstop, rfl⟩
    exact hunsaid stop _ hverbose hstop ⟨_, _, rfl⟩
  rintro _ now ⟨shown, hshown, rfl⟩
  have hlegible : session.report.verbose = true → t.Legible ∧ shown = t.text :=
    fun hverbose => Term.render_eq_ok_iff.mp (hshown hverbose)
  have hnow : { session.saying (session.remark "Type-Check" shown) with unannounced := none } =
      session.announcing t := by
    rw [announcing, remark_congr "Type-Check" fun hverbose => (hlegible hverbose).2]
  have hready : Ensures (judge t scope >>= fun verdict => settle t verdict >>= fun type =>
      announce type >>= fun _ => pure type) (session.announcing t) done stopped := by
    have hjudged : t.Judged scope (session.announcing t).workshop.numbering verdict numbering :=
      hjudged
    apply (judge_completes hjudged).bind
    rintro _ after ⟨rfl, rfl⟩
    exact h fun hverbose => (hlegible hverbose).1
  rw [← hnow] at hready
  exact hready

/-- The check of a term that can be announced. -/
theorem check_ensures {done : Ty → Session → Prop} {stopped : Stop → Session → Prop}
    (hwords : session.report.verbose = true → Succeeds (Part.term t).shown)
    (hjudged : t.Judged scope session.workshop.numbering verdict numbering)
    (h : ∀ now : Session, (session.withTable numbering).Speaks now →
      Ensures (settle t verdict >>= fun type => announce type >>= fun _ => pure type) now done
        stopped) :
    Ensures (check (.term t) (.scope scope)) session done stopped := by
  apply check_proceeds hjudged
  · intro stop after hverbose hstop _
    obtain ⟨s, hs⟩ := hwords hverbose
    cases hstop.symm.trans hs
  · exact fun _ => h _ ⟨_, _, rfl⟩

/-- What a verdict passes on: the type that the rules give, or the error type
that was come across. -/
inductive Found : Except Halt Ty → Ty → Prop where
  | derived {type} : Found (.ok type) type
  | inherited {number failure} :
      Found (.error (.inherited number failure)) (.error number failure)

/-- A type that is found is passed on, and the report hears nothing. The check
stops exactly if the type is an error that cannot be explained. -/
theorem check_passes {type : Ty} (hfound : Found verdict type)
    (hterm : session.report.verbose = true → Succeeds (Part.term t).shown)
    (htype : session.report.verbose = true → type.isError = false → Succeeds type.render)
    (hjudged : t.Judged scope session.workshop.numbering verdict numbering) :
    Ensures (check (.term t) (.scope scope)) session
      (fun result after => result = type ∧ (session.withTable numbering).Speaks after ∧
        ∀ number failure, type = .error number failure → Succeeds failure.explain)
      (fun stop after => (session.withTable numbering).Speaks after ∧
        ∃ number failure, type = .error number failure ∧ failure.explain = .error stop) := by
  apply check_ensures hterm hjudged
  intro now hnow
  have hsettle : settle t verdict = pure type := by
    cases hfound with
    | derived | inherited => rfl
  rw [hsettle, pure_bind]
  have hreport : now.report = session.report := hnow.report
  rw [← hreport] at htype
  apply (conclude_ensures type htype).mono
  · rintro result after ⟨rfl, hspeaks, hexplained⟩
    exact ⟨rfl, hnow.trans hspeaks, hexplained⟩
  · rintro stop after ⟨hspeaks, herror⟩
    exact ⟨hnow.trans hspeaks, herror⟩

/-- What `check_passes` says about the report. -/
theorem check_of_found {type : Ty} (hfound : Found verdict type)
    (hterm : session.report.verbose = true → Succeeds (Part.term t).shown)
    (htype : session.report.verbose = true → type.isError = false → Succeeds type.render)
    (hjudged : t.Judged scope session.workshop.numbering verdict numbering) :
    Ensures (check (.term t) (.scope scope)) session
      (fun result after => result = type ∧ after.report = session.report)
      (fun stop after => after.report = session.report ∧
        ∃ number failure, type = .error number failure ∧ failure.explain = .error stop) := by
  apply (check_passes hfound hterm htype hjudged).mono
  · rintro result after ⟨rfl, hspeaks, -⟩
    exact ⟨rfl, hspeaks.report⟩
  · rintro stop after ⟨hspeaks, herror⟩
    exact ⟨hspeaks.report, herror⟩

/-- A type that is found and is no error is the result. -/
theorem check_of_found_type {type : Ty} (hfound : Found verdict type)
    (hproper : type.isError = false)
    (hterm : session.report.verbose = true → Succeeds (Part.term t).shown)
    (htype : session.report.verbose = true → Succeeds type.render)
    (hjudged : t.Judged scope session.workshop.numbering verdict numbering) :
    Completes (check (.term t) (.scope scope)) session fun result after =>
      result = type ∧ after.report = session.report := by
  have hpassed := check_of_found hfound hterm (fun hverbose _ => htype hverbose) hjudged
  apply hpassed.mono (fun _ _ h => h)
  rintro stop after ⟨-, number, failure, rfl, -⟩
  cases hproper

/-- A fault found in a writable term is filed, and becomes the result unless
its picture is one too many. -/
theorem check_files {inForce : Scope} {fault : Fault} {picture : Picture} (ht : t.Writable)
    (hfault : fault.Concerns Ty.Renderable t)
    (hpicture : fault.complaint.picture (.scope inForce) (.term t) = .ok picture)
    (hjudged : t.Judged scope session.workshop.numbering (.error (.fault inForce fault))
      numbering) :
    Ensures (check (.term t) (.scope scope)) session
      (fun result after => result = .error (numbering.number .error) fault.failure ∧
        ((session.withTable (numbering.insert .error)).withPicture picture).Speaks after ∧
        (session.withPicture picture).report.atLimit = false)
      (fun stop after => stop = .tooManyIssues ∧
        ((session.withTable numbering).withPicture picture).Speaks after ∧
        (session.withPicture picture).report.atLimit = true) := by
  apply check_ensures (fun _ => ht.render_ok) hjudged
  rintro now ⟨text, due, rfl⟩
  rw [settle, bind_assoc]
  apply (tell_ensures hpicture).bind
  · rintro stop after ⟨rfl, rfl, hlimit⟩
    exact ⟨rfl, ⟨text, due, rfl⟩, hlimit⟩
  rintro _ told ⟨rfl, hlimit⟩
  obtain ⟨explanation, hexplain⟩ := fault.explain_ok ht hfault
  apply (conclude_ensures (.error _ fault.failure) nofun).mono
  · rintro result after ⟨rfl, ⟨text, due, rfl⟩, -⟩
    exact ⟨rfl, ⟨text, due, rfl⟩, hlimit⟩
  · rintro stop after ⟨-, number, failure, ⟨⟩, hstop⟩
    rw [hexplain] at hstop
    cases hstop

/-- Without a limit no picture is one too many. -/
theorem check_of_fault {inForce : Scope} {fault : Fault} (ht : t.Writable)
    (hscope : inForce.All Ty.Renderable) (hfault : fault.Concerns Ty.Renderable t)
    (hlimit : session.report.limit = none)
    (hjudged : t.Judged scope session.workshop.numbering (.error (.fault inForce fault))
      numbering) :
    Completes (check (.term t) (.scope scope)) session fun result after =>
      (∃ number, result = .error number fault.failure) ∧
        ∃ picture, after.report = session.report.add (.picture picture) := by
  obtain ⟨picture, hpicture⟩ := fault.picture_ok ht hscope hfault
  apply (check_files ht hfault hpicture hjudged).mono
  · rintro result after ⟨rfl, hspeaks, -⟩
    exact ⟨⟨_, rfl⟩, picture, hspeaks.report⟩
  · rintro stop after ⟨-, -, hfull⟩
    simp [Report.atLimit, withPicture, Report.add, hlimit] at hfull

/-- A term that no rule is for, and an identifier that the scope has something
else for than a type, leave a check without a result. -/
theorem check_of_no_rule {halt : Halt} (ht : session.report.verbose = true →
      Succeeds (Part.term t).shown)
    (hhalt : ∃ u, halt = .noRule u ∨ halt = .notAType u)
    (hjudged : t.Judged scope session.workshop.numbering (.error halt) numbering) :
    Ensures (check (.term t) (.scope scope)) session (fun _ _ => False) (fun _ _ => True) := by
  apply check_ensures ht hjudged
  intro now _
  obtain ⟨u, rfl | rfl⟩ := hhalt
  · exact True.intro
  · exact (giveUp_ensures _ _).bind (fun _ _ hs => hs) (fun _ _ hs => hs.elim)

/-- Whatever stops a judgement, no type but an error comes out of the check. -/
theorem check_of_halt {halt : Halt} (hquiet : session.report.verbose = false)
    (hjudged : t.Judged scope session.workshop.numbering (.error halt) numbering) :
    Ensures (check (.term t) (.scope scope)) session (fun type _ => type.isError = true)
      (fun _ _ => True) := by
  have hquietly : session.report.verbose = true → Succeeds (Part.term t).shown := by simp [hquiet]
  have hconclude : ∀ (number : Nat) (failure : Failure) (later : Session),
      Ensures (announce (.error number failure) >>= fun _ => pure (Ty.error number failure)) later
        (fun type _ => type.isError = true) (fun _ _ => True) := by
    intro number failure later
    refine (conclude_ensures (.error number failure) nofun).mono ?_ (fun _ _ _ => trivial)
    rintro result after ⟨rfl, -⟩
    rfl
  cases halt with
  | inherited number failure =>
    apply check_ensures hquietly hjudged
    exact fun now _ => hconclude number failure now
  | fault inForce fault =>
    apply check_ensures hquietly hjudged
    intro now _
    rw [settle, bind_assoc]
    apply (Ensures.trivial _ now).bind (fun _ _ hs => hs)
    intro _ told _
    exact hconclude _ _ _
  | noRule u =>
    exact (check_of_no_rule hquietly ⟨u, .inl rfl⟩ hjudged).mono (fun _ _ h => h.elim)
      (fun _ _ h => h)
  | notAType u =>
    exact (check_of_no_rule hquietly ⟨u, .inr rfl⟩ hjudged).mono (fun _ _ h => h.elim)
      (fun _ _ h => h)

/-- A type other than an error that comes out of a quiet check is the one that
the rules give. -/
theorem judged_of_check {type : Ty} {after : Session} (hquiet : session.report.verbose = false)
    (hrun : (check (.term t) (.scope scope)).run session = .ok type after)
    (hnoError : type.isError = false) :
    t.Judged scope session.workshop.numbering (.ok type) after.workshop.numbering := by
  have hloud : session.report.verbose ≠ true := by simp [hquiet]
  obtain ⟨verdict, numbering, hjudged⟩ := t.exists_judged scope session.workshop.numbering
  cases verdict with
  | ok derived =>
    have hpassed := check_passes .derived (absurd · hloud) (absurd · hloud) hjudged
    obtain ⟨rfl, hspeaks, -⟩ := hpassed.of_ok hrun
    rw [hspeaks.workshop]
    exact hjudged
  | error halt =>
    have herror := (check_of_halt hquiet hjudged).of_ok hrun
    rw [herror] at hnoError
    cases hnoError

/-- A type other than an error that the rules give comes out of a quiet check. -/
theorem check_of_judged {type : Ty} (hquiet : session.report.verbose = false)
    (hjudged : t.Judged scope session.workshop.numbering (.ok type) numbering)
    (hnoError : type.isError = false) :
    ∃ after, (check (.term t) (.scope scope)).run session = .ok type after ∧
      after.workshop.numbering = numbering := by
  have hloud : session.report.verbose ≠ true := by simp [hquiet]
  have hpassed := check_passes .derived (absurd · hloud) (absurd · hloud) hjudged
  cases hrun : (check (.term t) (.scope scope)).run session with
  | ok result after =>
    obtain ⟨rfl, hspeaks, -⟩ := hpassed.of_ok hrun
    refine ⟨after, rfl, ?_⟩
    rw [hspeaks.workshop]
    rfl
  | error stop after =>
    obtain ⟨-, number, failure, rfl, -⟩ := hpassed.of_error hrun
    cases hnoError

end Session

end PCFTyping
