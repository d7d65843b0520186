import PCFTyping.Proofs.Session.Complaining
import PCFTyping.Proofs.Session.Issues

/-!
A report after a check, however the check ends.

Nothing is assumed of the term, of the scope and of the types in them. A check
may then stop while it announces the term, judges it, draws a picture, files
the picture, gives up or announces the result. `Ending` lists the ways in which
a check can end, each with the picture that the report gains.

There is one lemma for each way in which the judgement can end; what they say
together is `Session.check_ends_somehow`. Nothing is filed before its picture is
complete, and once it is filed only the limit and giving up can stop the check:
a fault that was drawn can be explained (`Fault.explain_of_picture`).
-/

namespace PCFTyping

/-- The ways in which a check can end: with a type that the judgement passes on,
with an error type made of a fault, or without a result. The report gains a
picture in three of them. -/
inductive Ending (start : Numbering) (t : Term) (scope : Scope) :
    Except Stop Ty → Option Picture → Prop where
  | found {verdict after type} : t.Judged scope start verdict after → Session.Found verdict type →
      (type.isError = true → WasGiven t scope type) → Ending start t scope (.ok type) none
  | made {inForce fault after number picture} :
      t.Judged scope start (.error (.fault inForce fault)) after →
      Ending start t scope (.ok (.error number fault.failure)) (some picture)
  | full {picture} : Ending start t scope (.error .tooManyIssues) (some picture)
  | gaveUp {hint picture} : Ending start t scope (.error (.unfinished hint)) (some picture)
  | noRule {kind} : Ending start t scope (.error (.noRule kind)) none
  | unwritable {stop} : stop.Unwritable → Ending start t scope (.error stop) none

namespace Session

variable {session : Session} {t : Term} {scope inForce : Scope} {fault : Fault}
  {verdict : Except Halt Ty} {numbering : Numbering}

/-- The report has its old issues and perhaps a new picture; its settings are
the same. -/
def Adds (before : Session) (new : Option Picture) (after : Session) : Prop :=
  after.report =
    { before.report with issues := before.report.issues ++ (new.map Issue.picture).toList }

theorem adds_none {after : Session} (h : after.report = session.report) :
    session.Adds none after := by
  rw [Adds, h, Option.map_none, Option.toList_none, List.append_nil]

/-- A check ends in one of the ways, and the report gains what goes with it. -/
def Accounted (session : Session) (t : Term) (scope : Scope) (outcome : Except Stop Ty)
    (after : Session) : Prop :=
  ∃ new, Ending session.workshop.numbering t scope outcome new ∧ session.Adds new after

theorem Accounted.unwritable {stop : Stop} {after : Session} (hstop : stop.Unwritable)
    (hreport : after.report = session.report) :
    session.Accounted t scope (.error stop) after :=
  ⟨none, .unwritable hstop, adds_none hreport⟩

/-! ### Giving up -/

/-- All issues are pictures. -/
def OnlyPictures (issues : List Issue) : Prop :=
  ∀ issue ∈ issues, ∃ picture, issue = .picture picture

theorem OnlyPictures.exists_pictures {issues : List Issue} (h : OnlyPictures issues) :
    ∃ pictures : List Picture, issues = pictures.map .picture := by
  induction issues with
  | nil => exact ⟨[], rfl⟩
  | cons issue rest ih =>
    obtain ⟨picture, rfl⟩ := h issue List.mem_cons_self
    obtain ⟨pictures, rfl⟩ := ih fun issue hissue => h issue (List.mem_cons_of_mem _ hissue)
    exact ⟨picture :: pictures, rfl⟩

/-- Giving up gives no result. The picture is filed if it can be drawn, and
nothing else is. -/
theorem giveUp_accounted {α : Type} {now : Session} (hnow : now.report = session.report)
    (h : OnlyPictures session.report.issues) (hint : Scalar) :
    Ensures (giveUp (.term t) hint : Act α) now (fun _ _ => False)
      (fun stop after => session.Accounted t scope (.error stop) after) := by
  cases hpicture : unfinishedPicture (.term t) hint with
  | error stop =>
    have hdrawn : FailsOnly Stop.Unwritable (unfinishedPicture (.term t) hint) :=
      (Mark.of_failsOnly (.refl t) "").bind fun _ => .pure _
    rw [giveUp, hpicture]
    exact .unwritable (hdrawn stop hpicture) hnow
  | ok picture =>
    obtain ⟨earlier, hearlier⟩ := h.exists_pictures
    rw [← hnow] at hearlier
    have hadds : session.Adds (some picture) (now.withPicture picture) := by
      rw [Adds, ← hnow]
      rfl
    apply (giveUp_ends hpicture hearlier).mono (fun _ _ hs => hs)
    rintro stop after ⟨hfull, hroom⟩
    cases hlimit : (now.withPicture picture).report.atLimit with
    | true =>
      obtain ⟨rfl, rfl⟩ := hfull hlimit
      exact ⟨some picture, .full, hadds⟩
    | false =>
      obtain ⟨rfl, rfl⟩ := hroom hlimit
      exact ⟨some picture, .gaveUp, hadds⟩

/-! ### Each way in which a judgement can end -/

/-- A term that cannot be announced adds nothing. -/
theorem Accounted.unannounced {stop : Stop} {after : Session}
    (hstop : (Part.term t).shown = .error stop) (hspeaks : session.Speaks after) :
    session.Accounted t scope (.error stop) after :=
  .unwritable ((Part.term t).shown_failsOnly stop hstop) hspeaks.report

/-- A type that is found is passed on, and the report gains nothing. -/
theorem check_accounted_of_found {type : Ty} (hfound : Found verdict type)
    (hgiven : type.isError = true → WasGiven t scope type)
    (hjudged : t.Judged scope session.workshop.numbering verdict numbering) :
    Ensures (check (.term t) (.scope scope)) session
      (fun result after => session.Accounted t scope (.ok result) after)
      (fun stop after => session.Accounted t scope (.error stop) after) := by
  apply check_proceeds hjudged
  · exact fun _ _ _ hstop hspeaks => .unannounced hstop hspeaks
  intro _
  have hsettle : settle t verdict = pure type := by
    cases hfound with
    | derived | inherited => rfl
  rw [hsettle, pure_bind]
  apply (announce_ensures type).bind
  · rintro stop after ⟨hspeaks, ⟨number, failure, rfl, hexplain⟩ | ⟨-, -, hrender⟩⟩
    · have hshown : FailsOnly Stop.Unwritable failure.explain :=
        failure.explain_failsOnly failure.guilty.shown_failsOnly
          fun need got _ => ⟨need.shown_failsOnly, got.shown_failsOnly⟩
      exact .unwritable (hshown stop hexplain) hspeaks.report
    · exact .unwritable ((Part.type type).shown_failsOnly stop hrender) hspeaks.report
  · rintro _ after ⟨-, words, -, rfl⟩
    exact ⟨none, .found hjudged hfound hgiven, adds_none rfl⟩

/-- The picture of a fault is filed if it can be drawn. -/
theorem check_accounted_of_fault {P : Ty → Prop} (hfault : fault.Concerns P t)
    (hjudged : t.Judged scope session.workshop.numbering (.error (.fault inForce fault))
      numbering) :
    Ensures (check (.term t) (.scope scope)) session
      (fun result after => session.Accounted t scope (.ok result) after)
      (fun stop after => session.Accounted t scope (.error stop) after) := by
  apply check_proceeds hjudged
  · exact fun _ _ _ hstop hspeaks => .unannounced hstop hspeaks
  intro _
  rw [settle, bind_assoc]
  cases hdrawn : fault.complaint.picture (.scope inForce) (.term t) with
  | error stop =>
    rw [tell, hdrawn]
    exact .unwritable (Fault.unwritable_of_picture hfault stop hdrawn) rfl
  | ok picture =>
    apply (tell_ensures hdrawn).bind
    · rintro stop after ⟨rfl, rfl, -⟩
      exact ⟨some picture, .full, rfl⟩
    rintro _ told ⟨rfl, -⟩
    obtain ⟨explanation, hexplain⟩ := Fault.explain_of_picture hfault hdrawn
    apply (conclude_ensures (.error _ fault.failure) (by rintro - ⟨⟩)).mono
    · rintro result after ⟨rfl, hspeaks, -⟩
      exact ⟨some picture, .made hjudged, hspeaks.report⟩
    · rintro stop after ⟨-, number, failure, ⟨⟩, hstop⟩
      cases hexplain.symm.trans hstop

/-- Every check ends in one of the ways. -/
theorem check_ends_somehow (hnamed : Numbering.initial.Extends session.workshop.numbering)
    (hpictures : OnlyPictures session.report.issues) :
    Ensures (check (.term t) (.scope scope)) session
      (fun result after => session.Accounted t scope (.ok result) after)
      (fun stop after => session.Accounted t scope (.error stop) after) := by
  have hkeeps := t.judge_keeps (@Ty.Inherits.stable t scope) scope session.workshop.numbering
    ⟨hnamed, .refl _, WasGiven.inherits⟩
  obtain ⟨verdict, numbering, hjudged⟩ := t.exists_judged scope session.workshop.numbering
  cases verdict with
  | ok type =>
    have hinherits := (hkeeps.of_ok hjudged).2
    exact check_accounted_of_found .derived hinherits.self hjudged
  | error halt =>
    have hconcerns := (hkeeps.of_error hjudged).2
    cases halt with
    | inherited number failure =>
      exact check_accounted_of_found .inherited (Ty.Everywhere.self hconcerns) hjudged
    | fault inForce fault => exact check_accounted_of_fault hconcerns.2 hjudged
    | noRule u =>
      apply check_proceeds hjudged
      · exact fun _ _ _ hstop hspeaks => .unannounced hstop hspeaks
      · exact fun _ => ⟨none, .noRule, adds_none rfl⟩
    | notAType ident =>
      apply check_proceeds hjudged
      · exact fun _ _ _ hstop hspeaks => .unannounced hstop hspeaks
      · intro _
        refine (giveUp_accounted ?_ hpictures _).bind (fun _ _ hs => hs) ?_
        · rfl
        · exact fun _ _ hnever => hnever.elim

end Session

/-! ### What a check adds to the report -/

/-- The check makes this error type of a fault that it finds. -/
def Term.MakesError (t : Term) (scope : Scope) (start : Numbering) (result : Ty) : Prop :=
  ∃ inForce fault after number, t.Judged scope start (.error (.fault inForce fault)) after ∧
    result = .error number fault.failure

/-- The check comes across this type, which was there before. -/
def Term.PassesOn (t : Term) (scope : Scope) (start : Numbering) (result : Ty) : Prop :=
  (∃ verdict after, t.Judged scope start verdict after ∧ Session.Found verdict result) ∧
    WasGiven t scope result

/-- What a judgement passes on, the check does not make. -/
theorem Term.MakesError.not_found {t : Term} {scope : Scope} {start after : Numbering}
    {verdict : Except Halt Ty} {type result : Ty} (h : t.MakesError scope start result)
    (hjudged : t.Judged scope start verdict after) : ¬ Session.Found verdict type := by
  obtain ⟨inForce, fault, last, number, hfault, -⟩ := h
  cases (hjudged.unique hfault).1
  nofun

namespace Ending

variable {start : Numbering} {t : Term} {scope : Scope} {new : Option Picture}

/-- A result comes with a picture if it was made, and with none otherwise. -/
theorem of_result {result : Ty} (h : Ending start t scope (.ok result) new) :
    (new.isSome = true ↔ t.MakesError scope start result) ∧
      (new = none ↔ result.isError = false ∨ t.PassesOn scope start result) := by
  cases h with
  | @found verdict after type hjudged hfound hgiven =>
    constructor
    · simpa using fun hmakes => Term.MakesError.not_found hmakes hjudged hfound
    · cases herror : result.isError with
      | false => simp
      | true => simpa using ⟨⟨verdict, after, hjudged, hfound⟩, hgiven herror⟩
  | @made inForce fault after number picture hjudged =>
    have hmakes : t.MakesError scope start (.error number fault.failure) :=
      ⟨inForce, fault, after, number, hjudged, rfl⟩
    constructor
    · simpa using hmakes
    · simp only [reduceCtorEq, false_iff]
      rintro (⟨⟨⟩⟩ | ⟨⟨verdict, last, hjudged', hfound⟩, -⟩)
      exact hmakes.not_found hjudged' hfound

/-- The causes that come with a picture, and those that come with none. -/
theorem of_stop {stop : Stop} (h : Ending start t scope (.error stop) new) :
    (new.isSome = true ↔ stop = .tooManyIssues ∨ ∃ hint, stop = .unfinished hint) ∧
      (new = none ↔ (∃ kind, stop = .noRule kind) ∨ stop.Unwritable) := by
  cases h with
  | full | gaveUp => simpa using nofun
  | noRule => simp
  | unwritable hstop =>
    constructor
    · cases hstop <;> simp
    · simpa using .inr hstop

end Ending

namespace Session

variable {session : Session} {t : Term} {scope : Scope}

/-- **However a check ends, the report is consistent.** The earlier issues are
still there, and at most one picture follows them. If there is a result, the
picture is there exactly if the check made the result of a fault, and it is not
there exactly if the result is no error or was there before the check. If there
is no result, the picture is there exactly if the report reached its limit or
the checker gave up, and it is not there exactly if there was no rule or
something had no text. -/
theorem check_adds_at_most_one (hnamed : Numbering.initial.Extends session.workshop.numbering)
    (hpictures : OnlyPictures session.report.issues) :
    Ensures (check (.term t) (.scope scope)) session
      (fun result after => ∃ new : Option Picture, session.Adds new after ∧
        (new.isSome = true ↔ t.MakesError scope session.workshop.numbering result) ∧
        (new = none ↔ result.isError = false ∨
          t.PassesOn scope session.workshop.numbering result))
      (fun stop after => ∃ new : Option Picture, session.Adds new after ∧
        (new.isSome = true ↔ stop = .tooManyIssues ∨ ∃ hint, stop = .unfinished hint) ∧
        (new = none ↔ (∃ kind, stop = .noRule kind) ∨ stop.Unwritable)) := by
  apply (check_ends_somehow hnamed hpictures).mono
  · rintro result after ⟨new, hending, hadds⟩
    exact ⟨new, hadds, hending.of_result⟩
  · rintro stop after ⟨new, hending, hadds⟩
    exact ⟨new, hadds, hending.of_stop⟩

/-- A verbose report with one picture in it, and a scope that has a number for
the identifier: the checker gives up, and a second picture is there. -/
theorem check_adds_at_most_one_given_up :
    let x : Name := ⟨"x", by decide⟩
    let earlier : Picture := ⟨"Earlier.", [], []⟩
    let session := start { verbose := true, limit := some 3, issues := [.picture earlier] } []
    ∃ hint picture after, (check (.term (.ident 0 x))
        (.scope (.custom [("x", .plain (.int 5))]))).run session =
          .error (.unfinished hint) after ∧
      after.report.issues = [.picture earlier, .picture picture] := by
  intro x earlier session
  have hnamed : Numbering.initial.Extends session.workshop.numbering := .refl _
  have hpictures : OnlyPictures session.report.issues :=
    fun issue hissue => ⟨earlier, List.mem_singleton.mp hissue⟩
  obtain ⟨hint, after, hrun⟩ : ∃ hint after, (check (.term (.ident 0 x))
      (.scope (.custom [("x", .plain (.int 5))]))).run session =
        .error (.unfinished hint) after := ⟨_, _, rfl⟩
  obtain ⟨new, hadds, hsome, -⟩ := (check_adds_at_most_one hnamed hpictures).of_error hrun
  obtain ⟨picture, rfl⟩ := Option.isSome_iff_exists.mp (hsome.mpr (.inr ⟨hint, rfl⟩))
  exact ⟨hint, picture, after, hrun, congrArg Report.issues hadds⟩

end Session

end PCFTyping
