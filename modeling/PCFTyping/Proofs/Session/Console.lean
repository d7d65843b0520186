import PCFTyping.Proofs.Session.Finding

/-!
What a report has to do with a check.

For types without errors, a report only decides two things: whether the check is
told aloud, and whether it is stopped by the limit. What is found is settled by
the term, the scope and the table (`Finding.same`), so two reports with any
settings and any issues in them are told the same. On the console there is
nothing, or the announcement of the term and, if the check gets that far, the
verdict (`Session.check_tells`).
-/

namespace PCFTyping

/-- One table leads to one result. -/
theorem Finding.unique {numbering : Numbering} {t : Term} {scope : Scope} {result result' : Ty}
    {news news' : List Issue} (h : Finding numbering t scope result news)
    (h' : Finding numbering t scope result' news') : result = result' := by
  cases h with
  | typed hjudged =>
    cases h' with
    | typed hjudged' =>
      cases (hjudged.unique hjudged').1
      rfl
    | faulty hjudged' => cases (hjudged.unique hjudged').1
  | faulty hjudged =>
    cases h' with
    | typed hjudged' => cases (hjudged.unique hjudged').1
    | faulty hjudged' =>
      obtain ⟨⟨⟩, rfl⟩ := hjudged.unique hjudged'
      rfl

/-- What is found can be displayed. -/
theorem Finding.verdict_ok {numbering : Numbering} {t : Term} {scope : Scope} {result : Ty}
    {news : List Issue} (ht : t.Writable) (h : Finding numbering t scope result news) :
    ∃ words, result.verdict = .ok (.text words) := by
  cases h with
  | typed _ hrenderable herrorFree _ =>
    obtain ⟨words, hwords⟩ := hrenderable.render_ok
    exact ⟨words, Ty.verdict_of_render herrorFree.isError hwords⟩
  | @faulty inForce fault picture path after hjudged hfault hpicture hfails =>
    obtain ⟨words, hwords⟩ := fault.explain_ok ht hfault
    refine ⟨words, ?_⟩
    rw [Ty.verdict, hwords]
    rfl

namespace Session

variable {session session' : Session} {t : Term} {scope : Scope} {result : Ty} {news : List Issue}

/-- The announcement of a result that can be displayed. -/
theorem conclude_tells {words : String} (h : result.verdict = .ok (.text words)) :
    Completes (announce result >>= fun _ => pure result) session fun _ after =>
      after.console = session.console ++ session.remark "  :" words := by
  apply (announce_ensures result).bind
  · rintro stop after ⟨-, ⟨number, failure, rfl, hstop⟩ | ⟨-, hproper, hstop⟩⟩
    · rw [Ty.verdict, hstop] at h
      cases h
    · have hwritten : result.written = .ok (.text words) := by
        cases result with
        | error => cases hproper
        | _ => exact h
      cases hstop.symm.trans (Ty.render_eq_ok_iff.mpr hwritten)
  · rintro _ after ⟨-, shown, hshown, rfl⟩
    rw [remark_congr "  :" fun hverbose => ?_]
    · rfl
    · cases h.symm.trans (hshown hverbose)
      rfl

/-- What the console shows of a check: the announcement of the term, and the
verdict once there is a result. -/
theorem check_tells (ht : Checkable session.workshop.numbering t scope)
    (h : Finding session.workshop.numbering t scope result news) {words : String}
    (hwords : result.verdict = .ok (.text words)) :
    Ensures (check (.term t) (.scope scope)) session
      (fun _ after => after.console = session.console ++ session.remark "Type-Check" t.text ++
        session.remark "  :" words)
      (fun _ after => after.console = session.console ++ session.remark "Type-Check" t.text) := by
  have hunsaid : ∀ {stop after}, session.report.verbose = true →
      (Part.term t).shown = .error stop → session.Speaks after →
      after.console = session.console ++ session.remark "Type-Check" t.text := by
    intro stop after _ hstop _
    obtain ⟨s, hs⟩ := ht.writable.render_ok
    cases hstop.symm.trans hs
  cases h with
  | typed hjudged hrenderable herrorFree htype =>
    apply check_proceeds hjudged (fun _ _ => hunsaid)
    exact fun _ => (conclude_tells hwords).mono fun _ _ hconsole => hconsole
  | faulty hjudged hfault hpicture hfails =>
    apply check_proceeds hjudged (fun _ _ => hunsaid)
    intro _
    rw [settle, bind_assoc]
    apply (tell_ensures hpicture).bind
    · rintro stop after ⟨-, rfl, -⟩
      rfl
    rintro _ told ⟨rfl, -⟩
    exact (conclude_tells hwords).mono fun _ _ hconsole => hconsole

/-- **A report is told and does not take part.** Two checks of one term, with
reports that differ in their settings and in the issues filed before, give the
same result and file the same picture or none, if neither is stopped. A check is
stopped by the limit only. A quiet report leaves the console as it is; for a
verbose one there is one line with the term and, if there is a result, one with
the verdict. -/
theorem check_same_whatever_report (ht : Checkable session.workshop.numbering t scope)
    (ht' : Checkable session'.workshop.numbering t scope) :
    (∀ result after result' after',
      (check (.term t) (.scope scope)).run session = .ok result after →
      (check (.term t) (.scope scope)).run session' = .ok result' after' →
      result.shape = result'.shape ∧ result.blame? = result'.blame? ∧
      (session.workshop.numbering = session'.workshop.numbering → result = result') ∧
      ∃ news, (news = [] ∨ ∃ picture, news = [.picture picture]) ∧
        session.Gains news after ∧ session'.Gains news after') ∧
    ∃ line, t.render = .ok line ∧
      Ensures (check (.term t) (.scope scope)) session
        (fun result after => ∃ words, result.verdict = .ok (.text words) ∧
          after.console = session.console ++ if session.report.verbose = true
            then "Type-Check " ++ line ++ "\n" ++ "  : " ++ words ++ "\n" else "")
        (fun stop after => stop = .tooManyIssues ∧
          after.console = session.console ++ if session.report.verbose = true
            then "Type-Check " ++ line ++ "\n" else "") := by
  obtain ⟨found, news, hfinding⟩ := ht.exists_finding
  have hfinds := check_finds ht hfinding
  constructor
  · intro result after result' after' hrun hrun'
    obtain ⟨found', news', hfinding'⟩ := ht'.exists_finding
    obtain ⟨rfl, hgains, -⟩ := hfinds.of_ok hrun
    obtain ⟨rfl, hgains', -⟩ := (check_finds ht' hfinding').of_ok hrun'
    obtain ⟨hshape, hblame, rfl⟩ := Finding.same ht ht' hfinding hfinding'
    refine ⟨hshape, hblame, ?_, news, ?_, hgains, hgains'⟩
    · intro htables
      rw [← htables] at hfinding'
      exact hfinding.unique hfinding'
    · exact hfinding.news_cases.imp (·.2) (·.2)
  · refine ⟨t.text, Term.render_eq_ok_iff.mpr ⟨ht.writable.legible, rfl⟩, ?_⟩
    obtain ⟨words, hwords⟩ := hfinding.verdict_ok ht.writable
    refine (hfinds.and (check_tells ht hfinding hwords)).mono ?_ ?_
    · rintro result after ⟨⟨rfl, -⟩, hconsole⟩
      refine ⟨words, hwords, ?_⟩
      rw [hconsole, remark, remark, String.append_assoc]
      split
      · simp only [String.append_assoc]
        rfl
      · rfl
    · rintro stop after ⟨⟨rfl, -⟩, hconsole⟩
      exact ⟨rfl, hconsole⟩

/-- The successor of a truth value, for a verbose report with an issue in it and
for a quiet empty one: the same error, the same picture for both, and two lines
on the console of the first. -/
theorem check_same_whatever_report_successor :
    let t : Term := .app 2 (.builtin 0 .successor) (.truth 1 true)
    let loud := start { verbose := true, limit := some 5, issues := [.other (.int 7)] } []
    ∃ result after after' picture words,
      (check (.term t) (.scope .empty)).run loud = .ok result after ∧
      (check (.term t) (.scope .empty)).run (start .quiet []) = .ok result after' ∧
      result.isError = true ∧
      after.report.issues = [.other (.int 7), .picture picture] ∧
      after'.report.issues = [.picture picture] ∧
      result.verdict = .ok (.text words) ∧
      after.console = "Type-Check " ++ "Succ (true)" ++ "\n" ++ "  : " ++ words ++ "\n" := by
  intro t loud
  have ht : Checkable Numbering.initial t .empty :=
    ⟨.refl _, by simp [t, Term.InLanguage], Scope.onlyTypes_empty,
      by simp [t, Term.declared], Scope.all_empty _⟩
  obtain ⟨number, failure, after, hrun, hcount⟩ : ∃ number failure after,
      (check (.term t) (.scope .empty)).run loud = .ok (.error number failure) after ∧
        after.report.count = 2 := ⟨_, _, _, rfl, rfl⟩
  obtain ⟨result', after', hrun'⟩ : ∃ result after,
      (check (.term t) (.scope .empty)).run (start .quiet []) = .ok result after := ⟨_, _, rfl⟩
  have htables : loud.workshop.numbering = (start .quiet []).workshop.numbering := rfl
  obtain ⟨hsame, line, hline, htells⟩ := @check_same_whatever_report loud
    (start .quiet []) t .empty ht ht
  obtain ⟨-, -, hequal, news, hnews, hgains, hgains'⟩ := hsame _ _ _ _ hrun hrun'
  obtain ⟨words, hwords, hconsole⟩ := htells.of_ok hrun
  obtain rfl : line = "Succ (true)" := (Except.ok.inj hline).symm
  obtain rfl := hequal htables
  -- One issue was there before, so of the two cases for the news the first is out.
  obtain rfl | ⟨picture, rfl⟩ := hnews
  · rw [hgains.report] at hcount
    cases hcount
  · exact ⟨_, after, after', picture, words, hrun, hrun', rfl, congrArg Report.issues hgains.report,
      congrArg Report.issues hgains'.report, hwords, hconsole⟩

end Session

end PCFTyping
