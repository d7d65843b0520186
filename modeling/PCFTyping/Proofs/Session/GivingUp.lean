import PCFTyping.Proofs.Session.Complaining
import PCFTyping.Proofs.Session.Finding
import PCFTyping.Proofs.Session.NoVerdict
import PCFTyping.Proofs.Session.Pictures
import PCFTyping.Proofs.Underlines

/-!
When a check is given up, and what is left behind then.

A scope may have something else than a type for a name. The checker has no
account of an identifier with such a name and gives up on the whole term. Both
this and a failure to type need a node at which the checking order gets stuck,
and there is at most one. So a check is given up exactly if the checking order
leads to such an identifier, and a term that fails is never given up on
(`Session.check_gives_up_iff_stray`).

* `Mark.of_self`: the mark of the whole term is below the whole line.
* `Fault.picture_ne_unfinished`: the picture of a fault is another one.
* `Session.check_leaves`: what the check files, says and stops with.
-/

namespace PCFTyping

/-! ### Where the checker gets stuck -/

namespace Term.Stray

variable {scope : Scope} {u : Term}

/-- Such an identifier has no type, and nothing is entered below it. -/
theorem stuck (h : u.Stray scope) : Stuck scope u := by
  obtain ⟨label, name, part, rfl, hpart, hnot⟩ := h
  constructor
  · intro τ htype
    cases htype with
    | ident hlook => exact hnot _ (Option.some.inj (hpart.symm.trans hlook))
  · intro i s v hstep
    cases hstep

/-- It is not unbound. -/
theorem not_breaks {blame : Blame} (h : u.Stray scope) : ¬ Breaks scope u blame := by
  obtain ⟨label, name, part, rfl, hpart, -⟩ := h
  intro hbreak
  cases hbreak with
  | unbound hnone => cases hpart.symm.trans hnone

end Term.Stray

/-- A term fails, or the checker gets to an identifier that has something else
than a type, but not both. -/
theorem FailsAt.not_stray {scope last : Scope} {t u : Term} {path path' : Path} {blame : Blame}
    (h : FailsAt scope t path blame) (hreach : Reaches scope t path' last u) :
    ¬ u.Stray last := by
  intro hstray
  obtain ⟨last', v, hreach', hbreak⟩ := h
  obtain ⟨-, rfl, rfl⟩ := hreach.unique hstray.stuck hreach' hbreak.stuck
  exact hstray.not_breaks hbreak

/-- The checker gets to no foreign node in a term of the language. -/
theorem Reaches.not_foreign {scope last : Scope} {t u : Term} {path : Path}
    (h : Reaches scope t path last u) (hterm : t.InLanguage) : u.foreign = false :=
  Term.firstForeign?_eq_none_iff.mp (Term.inLanguage_iff.mp hterm) u ⟨path, h.follow?⟩

/-- If the checker gets to something else than a type, the judgement says so. -/
theorem Term.judged_of_stray {scope last : Scope} {t u : Term} {path : Path} {start : Numbering}
    (hterm : t.InLanguage) (hnamed : Numbering.initial.Extends start)
    (hgiven : GivenTypes (fun type => start.Knows type ∧ type.Renderable ∧ type.ErrorFree) t scope)
    (hreach : Reaches scope t path last u) (hstray : u.Stray last) :
    ∃ after, t.Judged scope start (.error (.notAType u)) after := by
  obtain ⟨verdict, after, hjudged⟩ := t.exists_judged scope start
  cases hjudged.upshot hnamed hgiven with
  | typed htype _ => exact (hreach.not_hasType hstray.stuck.untyped htype).elim
  | breaks _ _ hfails => exact (hfails.not_stray hreach hstray).elim
  | foreign hreach' hforeign => cases (hreach'.not_foreign hterm).symm.trans hforeign
  | stray hreach' hstray' =>
    obtain ⟨-, -, rfl⟩ := hreach.unique hstray.stuck hreach' hstray'.stuck
    exact ⟨after, hjudged⟩

/-! ### The picture -/

/-- A term stands on its own line from the first column to the last. -/
theorem Mark.of_self {t : Term} (ht : t.Legible) (hobjects : Term.Coherent [t])
    (caption : String) :
    Mark.of (.term t) (.term t) caption = .ok ⟨t.text, t.columnsFrom 0, caption⟩ := by
  have hself : Term.Coherent [t, t] := by simpa [Term.Coherent] using hobjects
  obtain ⟨mark, hmark⟩ := ht.mark_ok (.refl t) caption
  obtain ⟨layout, hlayout, htext, hcaption, -⟩ := of_term_eq_ok hmark
  rw [(Term.layout_lays hlayout).2.1] at htext
  obtain ⟨-, -, left, right, hline, hspan⟩ := stands_node hself hmark
  -- The text of the term fills its line, so nothing is left of it.
  have hleft : left.length = 0 := by
    have hlength := congrArg String.length hline
    simp only [String.length_append, htext] at hlength
    omega
  rw [hleft] at hspan
  rw [hmark, ← htext, ← hspan, ← hcaption]

/-- The picture of an unfinished part: the whole line is underlined, and a hint
follows. -/
def Session.unfinishedAt (line hint : String) : Picture :=
  ⟨"This term hits an unfinished part of the type-checker.", [⟨line, ⟨0, line.length⟩, ""⟩],
    ["", "Hint: " ++ hint]⟩

theorem Session.unfinishedPicture_eq {t : Term} (ht : t.Legible) (hobjects : Term.Coherent [t])
    (hint : Scalar) :
    unfinishedPicture (.term t) hint = .ok (unfinishedAt t.text hint.display) := by
  rw [unfinishedPicture, Mark.of_self ht hobjects, Term.columnsFrom, Nat.zero_add]
  rfl

/-- A scope is listed on one line. -/
theorem Scope.length_footer {scope : Scope} {lines : List String} (h : scope.footer = .ok lines) :
    lines.length = 1 := by
  unfold footer at h
  split at h
  · cases h
    rfl
  · obtain ⟨entries, -, hlines⟩ := bind_eq_ok_iff.mp h
    cases hlines
    rfl

/-- Below a fault there is one line, and below an unfinished part there are
two. -/
theorem Fault.picture_ne_unfinished {fault : Fault} {scope : Scope} {root root' : Part}
    {hint : Scalar} {picture : Picture}
    (h : fault.complaint.picture (.scope scope) root = .ok picture) :
    Session.unfinishedPicture root' hint ≠ .ok picture := by
  intro hunfinished
  have hone := Scope.length_footer (Complaint.footer_of_picture h)
  obtain ⟨mark, -, hpicture⟩ := bind_eq_ok_iff.mp hunfinished
  cases hpicture
  cases hone

namespace Session

variable {session : Session} {t : Term} {scope : Scope} {picture : Picture}
  {earlier : List Picture}

/-! ### The check -/

/-- The check of a term is given up: it stops, and what it has filed is the
picture of an unfinished part. -/
def GivesUp (session : Session) (t : Term) (scope : Scope) : Prop :=
  ∃ hint picture stop after, (check (.term t) (.scope scope)).run session = .error stop after ∧
    unfinishedPicture (.term t) hint = .ok picture ∧
    after.report = session.report.add (.picture picture)

/-- What is left behind by giving up. The picture is filed. If it is one too
many, nothing is said; otherwise the session complains about all pictures, with
words that three picks decide. -/
structure Leaves (session : Session) (earlier : List Picture) (picture : Picture) (hint : Scalar)
    (stop : Stop) (after : Session) : Prop where
  report : after.report = session.report.add (.picture picture)
  full : session.AtBrink → stop = .tooManyIssues ∧ after.console = session.console ∧
    after.picks = session.picks
  room : ¬ session.AtBrink → stop = .unfinished hint ∧
    after.console = session.console ++ lament session.picks (earlier ++ [picture]) ∧
    after.picks = session.picks.drop 3

/-- A quiet check whose judgement gets to something else than a type. -/
theorem check_leaves {u : Term} {numbering : Numbering} (hquiet : session.report.verbose = false)
    (hearlier : session.report.issues = earlier.map .picture)
    (hdrawn : unfinishedPicture (.term t) (notATypeHint u) = .ok picture)
    (hjudged : t.Judged scope session.workshop.numbering (.error (.notAType u)) numbering) :
    Ensures (check (.term t) (.scope scope)) session (fun _ _ => False)
      (session.Leaves earlier picture (notATypeHint u)) := by
  apply check_proceeds hjudged
  · intro stop after hverbose
    rw [hquiet] at hverbose
    cases hverbose
  intro _
  have hsilent : (session.announcing t).console = session.console := by
    simp [announcing, saying, remark, hquiet]
  have hissues : ((session.announcing t).withTable numbering).report.issues =
      earlier.map .picture := hearlier
  have hlimit := session.atLimit_iff picture
  refine (giveUp_ends hdrawn hissues).bind ?_ (fun _ _ hnever => hnever.elim)
  intro stop after hends
  by_cases hbrink : session.AtBrink
  · obtain ⟨rfl, rfl⟩ := hends.1 (hlimit.mpr hbrink)
    exact ⟨rfl, fun _ => ⟨rfl, hsilent, rfl⟩, fun hroom => (hroom hbrink).elim⟩
  · obtain ⟨rfl, rfl⟩ := hends.2 (Bool.eq_false_iff.mpr (mt hlimit.mp hbrink))
    refine ⟨rfl, fun hfull => (hbrink hfull).elim, fun _ => ⟨rfl, ?_, rfl⟩⟩
    rw [← hsilent]
    rfl

/-- A check is given up only if the checking order leads to something else than
a type. -/
theorem stray_of_givesUp (hquiet : session.report.verbose = false) (hterm : t.InLanguage)
    (hnamed : Numbering.initial.Extends session.workshop.numbering)
    (hgiven : GivenTypes (fun type => session.workshop.numbering.Knows type ∧
      type.Renderable ∧ type.ErrorFree) t scope) (h : session.GivesUp t scope) :
    ∃ path last u, Reaches scope t path last u ∧ u.Stray last := by
  obtain ⟨hint, picture, stop, after, hrun, hdrawn, hreport⟩ := h
  obtain ⟨verdict, numbering, hjudged⟩ := t.exists_judged scope session.workshop.numbering
  have hwritable : t.Writable := ⟨hterm, fun type htype => (hgiven.declared type htype).2.1⟩
  cases hjudged.upshot hnamed hgiven with
  | typed _ herrorFree =>
    have hloud : session.report.verbose ≠ true := by simp [hquiet]
    exact ((check_of_found_type .derived herrorFree.isError (absurd · hloud) (absurd · hloud)
      hjudged).of_error hrun).elim
  | breaks hinForce hfault _ =>
    obtain ⟨other, hother⟩ := Fault.picture_ok hwritable hinForce hfault
    obtain ⟨-, hspeaks, -⟩ := (check_files hwritable hfault hother hjudged).of_error hrun
    have hsame : session.report.add (.picture other) = session.report.add (.picture picture) :=
      hspeaks.report.symm.trans hreport
    obtain rfl : other = picture := by simpa [Report.add] using hsame
    exact (Fault.picture_ne_unfinished hother hdrawn).elim
  | foreign hreach hforeign => cases (hreach.not_foreign hterm).symm.trans hforeign
  | @stray path last u hreach hstray => exact ⟨path, last, u, hreach, hstray⟩

/-- The hint about an identifier. -/
def strayHint : String := "Failed to return a type from <class 'pcf.syntax.Identifier'>"

theorem notATypeHint_of_stray {last : Scope} {u : Term} (h : u.Stray last) :
    notATypeHint u = .text strayHint := by
  obtain ⟨label, name, part, rfl, -⟩ := h
  rfl

/-- **A check is given up over what is no type, and over nothing else.** Take a
quiet check of a term whose given types are renderable and free of errors; a
name may mean anything else instead. Labels are the identities of objects. The
check is given up exactly if the checking order leads to an identifier with such
a name, and a term that fails somewhere is not given up on. One picture is new:
it underlines the whole line and ends with the hint. If that brings the report
to its limit, the check stops there and nothing is said. Otherwise it stops with
the hint, after a complaint about all pictures of the report, for which three
picks are used up. -/
theorem check_gives_up_iff_stray (hquiet : session.report.verbose = false) (hterm : t.InLanguage)
    (hobjects : Term.Coherent [t])
    (hnamed : Numbering.initial.Extends session.workshop.numbering)
    (hgiven : GivenTypes (fun type => session.workshop.numbering.Knows type ∧
      type.Renderable ∧ type.ErrorFree) t scope)
    (hearlier : session.report.issues = earlier.map .picture) :
    (session.GivesUp t scope ↔ ∃ path last u, Reaches scope t path last u ∧ u.Stray last) ∧
    ((∃ path blame, FailsAt scope t path blame) → ¬ session.GivesUp t scope) ∧
    (session.GivesUp t scope → ∃ line stop after, t.render = .ok line ∧
      (check (.term t) (.scope scope)).run session = .error stop after ∧
      session.Leaves earlier (unfinishedAt line strayHint) (.text strayHint) stop after) := by
  have hlegible : t.Legible :=
    Term.Writable.legible ⟨hterm, fun type htype => (hgiven.declared type htype).2.1⟩
  have hdrawn : unfinishedPicture (.term t) (.text strayHint) =
      .ok (unfinishedAt t.text strayHint) := unfinishedPicture_eq hlegible hobjects _
  have hstray : session.GivesUp t scope →
      ∃ path last u, Reaches scope t path last u ∧ u.Stray last :=
    stray_of_givesUp hquiet hterm hnamed hgiven
  have hleaves : (∃ path last u, Reaches scope t path last u ∧ u.Stray last) →
      ∃ stop after, (check (.term t) (.scope scope)).run session = .error stop after ∧
        session.Leaves earlier (unfinishedAt t.text strayHint) (.text strayHint) stop after := by
    rintro ⟨path, last, u, hreach, hu⟩
    obtain ⟨numbering, hjudged⟩ := Term.judged_of_stray hterm hnamed hgiven hreach hu
    rw [← notATypeHint_of_stray hu] at hdrawn ⊢
    exact (check_leaves hquiet hearlier hdrawn hjudged).exists_error
  refine ⟨⟨hstray, ?_⟩, ?_, ?_⟩
  · intro h
    obtain ⟨stop, after, hrun, hafter⟩ := hleaves h
    exact ⟨_, _, stop, after, hrun, hdrawn, hafter.report⟩
  · rintro ⟨path, blame, hfails⟩ hgivesUp
    obtain ⟨path', last, u, hreach, hu⟩ := hstray hgivesUp
    exact hfails.not_stray hreach hu
  · intro hgivesUp
    obtain ⟨stop, after, hrun, hafter⟩ := hleaves (hstray hgivesUp)
    exact ⟨t.text, stop, after, Term.render_eq_ok_iff.mpr ⟨hlegible, rfl⟩, hrun, hafter⟩

/-- The scope has numbers for `x` and `y`. The callee binds `x` itself, so the
checker gets as far as the argument. It says so if there is room for one more
picture, and stops at once if there is not; and it never gets there if the
callee is no function. -/
theorem check_gives_up_iff_stray_argument :
    let x : Name := ⟨"x", by decide⟩
    let y : Name := ⟨"y", by decide⟩
    let t : Term := .app 3 (.fn 1 x .integer (.ident 0 x)) (.ident 2 y)
    let scope : Scope := .custom [("x", .plain (.int 5)), ("y", .plain (.int 7))]
    let earlier : Picture := ⟨"Earlier.", [], []⟩
    let picture := unfinishedAt "fn x:Integer => x (y)" strayHint
    let session (limit : Int) :=
      start { verbose := false, limit := some limit, issues := [.picture earlier] } [2, -1, 6, 0]
    (∃ after, (check (.term t) (.scope scope)).run (session 3) =
        .error (.unfinished (.text strayHint)) after ∧
      after.report.issues = [.picture earlier, .picture picture] ∧
      after.console = lament [2, -1, 6, 0] [earlier, picture] ∧ after.picks = [0]) ∧
    (∃ after, (check (.term t) (.scope scope)).run (session 2) = .error .tooManyIssues after ∧
      after.report.issues = [.picture earlier, .picture picture] ∧ after.console = "") ∧
    ¬ (session 3).GivesUp (.app 3 (.number 1 4) (.ident 2 y)) scope := by
  intro x y t scope earlier picture session
  have hbound : ∀ P, scope.All P := by
    intro P name type hlook
    cases hx : name == "x" <;> cases hy : name == "y" <;>
      simp [scope, Scope.lookup, Scope.custom, Outermost.lookup, List.lookup_cons, hx, hy] at hlook
  have hearlier (limit : Int) : (session limit).report.issues = [earlier].map .picture := rfl
  have hstable := Stable.knows.and (Stable.renderable.and Stable.errorFree)
  have hgiven : GivenTypes (fun type => Numbering.initial.Knows type ∧ type.Renderable ∧
      type.ErrorFree) t scope := by
    refine ⟨?_, hbound _⟩
    intro type htype
    obtain rfl : type = .integer := by simpa [t, Term.declared] using htype
    exact hstable.named (.refl _) (by simp)
  have hobjects : Term.Coherent [t] := by
    simp [Term.coherent_iff, t, Term.objects, Term.occurrences, Term.underChild, Term.label]
  have hterm : t.InLanguage := by simp [t, Term.InLanguage]
  have hx : HasType (scope.extend "x" .integer) (.ident 0 x) Ty.integer.shape := .ident rfl
  have hreach : Reaches scope t [1] scope (.ident 2 y) := .down (.argument (.fn hx)) .here
  have hstray : (Term.ident 2 y).Stray scope := ⟨2, y, .plain (.int 7), rfl, rfl, by simp⟩
  have hgives (limit : Int) : ∃ line stop after, t.render = .ok line ∧
      (check (.term t) (.scope scope)).run (session limit) = .error stop after ∧
      (session limit).Leaves [earlier] (unfinishedAt line strayHint) (.text strayHint) stop
        after := by
    obtain ⟨hiff, -, hleaves⟩ := check_gives_up_iff_stray (by rfl) hterm hobjects (.refl _)
      hgiven (hearlier limit)
    exact hleaves (hiff.mpr ⟨[1], scope, _, hreach, hstray⟩)
  refine ⟨?_, ?_, ?_⟩
  · obtain ⟨line, stop, after, hline, hrun, hleaves⟩ := hgives 3
    obtain rfl : line = "fn x:Integer => x (y)" := (Except.ok.inj hline).symm
    obtain ⟨rfl, hconsole, hpicks⟩ := hleaves.room (by rintro ⟨⟩)
    exact ⟨after, hrun, congrArg Report.issues hleaves.report, hconsole, hpicks⟩
  · obtain ⟨line, stop, after, hline, hrun, hleaves⟩ := hgives 2
    obtain rfl : line = "fn x:Integer => x (y)" := (Except.ok.inj hline).symm
    obtain ⟨rfl, hconsole, -⟩ := hleaves.full rfl
    exact ⟨after, hrun, congrArg Report.issues hleaves.report, hconsole⟩
  · have hfails : FailsAt scope (.app 3 (.number 1 4) (.ident 2 y)) []
        ⟨.notAFunction, .number 1 4, none⟩ :=
      .here (.notAFunction .number (by simp [Shape.integer]))
    refine (check_gives_up_iff_stray (by rfl) ?_ ?_ (.refl _) ⟨?_, hbound _⟩ (hearlier 3)).2.1
      ⟨[], _, hfails⟩
    · simp [Term.InLanguage]
    · simp [Term.coherent_iff, Term.objects, Term.occurrences, Term.underChild, Term.label]
    · simp [Term.declared]

end Session

end PCFTyping
