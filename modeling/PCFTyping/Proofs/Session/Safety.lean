import PCFTyping.Proofs.Session.Issues

/-!
What can stop a check.

The types that a term declares and that its scope has are renderable here, and
they may have errors in them. Then a judgement never lacks a rule or a type, and
whatever it finds can be told (`Term.Judged.tellable`): every node to underline
has a span, every type in the words and every scope below the picture has a
text. What remains is the limit of the report, and the explanation of an error
that was there before the check. Such an error may blame anything, and a check
asks for its explanation even if nobody listens; `Session.check_stops_unheard`
is a quiet check that stops for this reason.
-/

namespace PCFTyping

/-- There is something to say about a judgement that gives no type: the nodes
to underline have spans on the line of the whole, and the picture and the
explanation can be completed. An error that was there before is not commented
on. -/
def Halt.Tellable (t : Term) : Halt → Prop
  | .fault inForce found =>
      (∃ layout, (Part.term t).layout = .ok layout ∧
        ∀ u ∈ found.terms, ∃ span, layout.span? u.label = some span) ∧
      Succeeds inForce.footer ∧
      Succeeds (found.complaint.picture (.scope inForce) (.term t)) ∧
      Succeeds found.failure.explain
  | .inherited _ _ => True
  | .noRule _ | .notAType _ => False

/-- A judgement stops over nothing that cannot be told. -/
theorem Term.Judged.tellable {t : Term} {scope : Scope} {start after : Numbering} {halt : Halt}
    (hterm : t.InLanguage) (hscope : scope.OnlyTypes)
    (hnamed : Numbering.initial.Extends start) (hgiven : GivenTypes Ty.Renderable t scope)
    (h : t.Judged scope start (.error halt) after) : halt.Tellable t := by
  have hwritable : t.Writable := ⟨hterm, hgiven.declared⟩
  rcases h.found_or_fault .renderable ⟨hnamed, .refl _, hgiven⟩ hterm hscope with
    ⟨type, hfound, -⟩ | ⟨inForce, fault, ⟨⟩, hinForce, hfault⟩
  · cases hfound with
    | inherited => trivial
  · obtain ⟨layout, hlayout, hcovers⟩ := hwritable.layout_ok
    exact ⟨⟨layout, hlayout, fun u hu => hcovers u (hfault.terms u hu)⟩, Scope.footer_ok hinForce,
      fault.picture_ok hwritable hinForce hfault, fault.explain_ok hwritable hfault⟩

/-- A renderable type can be displayed, an error as soon as it can be
explained. -/
theorem Ty.Renderable.verdict_ok {type : Ty} (h : type.Renderable)
    (hexplained : ∀ number failure, type = .error number failure → Succeeds failure.explain) :
    Succeeds type.verdict := by
  cases type with
  | error number failure => exact (hexplained number failure rfl).bind fun _ => .pure _
  | _ =>
    obtain ⟨s, hs⟩ := h.render_ok
    exact ⟨.text s, render_eq_ok_iff.mp hs⟩

namespace Session

variable {session : Session} {t : Term} {scope : Scope}

/-- What can stop the check of a term: the report is at its limit then, or an
error that was there before has no explanation. -/
inductive Hindrance (session : Session) (t : Term) (scope : Scope) : Stop → Session → Prop where
  | limit {after : Session} : session.report.limit = some (after.report.count : Int) →
      Hindrance session t scope .tooManyIssues after
  | unexplained {number : Nat} {failure : Failure} {stop : Stop} {after : Session} :
      WasGiven t scope (.error number failure) → failure.explain = .error stop →
      Hindrance session t scope stop after

theorem check_ends (hterm : t.InLanguage) (hscope : scope.OnlyTypes)
    (hnamed : Numbering.initial.Extends session.workshop.numbering)
    (hgiven : GivenTypes Ty.Renderable t scope) :
    Ensures (check (.term t) (.scope scope)) session (fun result _ => Succeeds result.verdict)
      (Hindrance session t scope) := by
  obtain ⟨verdict, numbering, hjudged⟩ := t.exists_judged scope session.workshop.numbering
  have hwritable : t.Writable := ⟨hterm, hgiven.declared⟩
  have hready : Underway (fun _ type => type.Renderable ∧ type.Inherits t scope) scope t
      session.workshop.numbering session.workshop.numbering :=
    ⟨hnamed, .refl _, hgiven.and WasGiven.inherits⟩
  rcases hjudged.found_or_pictured (Stable.renderable.and Ty.Inherits.stable) (fun _ _ h => h.1)
    hready hterm hscope with
    ⟨type, hfound, hrenderable, hinherits⟩ | ⟨inForce, fault, picture, rfl, hfault, hpicture⟩
  · refine (check_passes hfound (fun _ => hwritable.render_ok)
      (fun _ _ => hrenderable.render_ok) hjudged).mono ?_ ?_
    · rintro result after ⟨rfl, -, hexplained⟩
      exact hrenderable.verdict_ok hexplained
    · rintro stop after ⟨-, number, failure, rfl, hstop⟩
      exact .unexplained (hinherits.self rfl) hstop
  · refine (check_files hwritable hfault hpicture hjudged).mono ?_ ?_
    · rintro result after ⟨rfl, -, -⟩
      exact (fault.explain_ok hwritable hfault).bind fun _ => .pure _
    · rintro stop after ⟨rfl, hspeaks, hfull⟩
      apply Hindrance.limit
      rw [hspeaks.report]
      exact eq_of_beq hfull

/-- **A check stops for one of two reasons.** Either the picture of its fault
brings the report to the limit, or an error that was there before the check
cannot be explained. So if those errors can be explained, only the limit can
stop a check, and without a limit it gives a result. Any result can be
displayed, and whatever ends a judgement without a type can be told. -/
theorem check_stops_only (hterm : t.InLanguage) (hscope : scope.OnlyTypes)
    (hnamed : Numbering.initial.Extends session.workshop.numbering)
    (hgiven : GivenTypes Ty.Renderable t scope) :
    Ensures (check (.term t) (.scope scope)) session (fun result _ => Succeeds result.verdict)
      (Hindrance session t scope) ∧
    ((∀ number failure, WasGiven t scope (.error number failure) → Succeeds failure.explain) →
      session.report.limit = none →
      ∃ result after, (check (.term t) (.scope scope)).run session = .ok result after) ∧
    ∀ halt after, (t.judge scope).run session.workshop.numbering = .error halt after →
      halt.Tellable t := by
  have hends := check_ends hterm hscope hnamed hgiven
  refine ⟨hends, ?_, ?_⟩
  · intro hexplained hlimit
    cases hrun : (check (.term t) (.scope scope)).run session with
    | ok result after => exact ⟨result, after, rfl⟩
    | error stop after =>
      cases hends.of_error hrun with
      | limit hfull => cases hlimit.symm.trans hfull
      | unexplained hwas hstop =>
        obtain ⟨text, htext⟩ := hexplained _ _ hwas
        cases htext.symm.trans hstop
  · intro halt after hhalt
    exact Term.Judged.tellable hterm hscope hnamed hgiven hhalt

/-- The branches of a conditional differ by an error that was declared: the
error can be explained, so the check gives a result. -/
theorem check_stops_only_declared_error :
    let x : Name := ⟨"x", by decide⟩
    let declared : Ty := .error 4 ⟨.notAPair, .term (.number 0 5), .unstated⟩
    let session := (start .quiet []).withTable (Numbering.initial.insert .error)
    let t : Term := .cond 6 (.truth 1 true) (.builtin 2 .successor) (.fn 4 x (.pair 5 declared
      .integer) (.number 3 1))
    ∃ result after, (check (.term t) (.scope .empty)).run session = .ok result after ∧
      Succeeds result.verdict := by
  intro x declared session t
  have hnamed : Numbering.initial.Extends session.workshop.numbering :=
    Numbering.initial.extends_insert _
  have hgiven : GivenTypes Ty.Renderable t .empty := by
    refine ⟨?_, Scope.all_empty _⟩
    intro type htype
    obtain rfl : type = .pair 5 declared .integer := by simpa [t, Term.declared] using htype
    simp [Ty.Renderable, declared, Ty.integer, Ty.HasWords]
  have hterm : t.InLanguage := by simp [t, Term.InLanguage]
  obtain ⟨hends, hreturns, -⟩ := check_stops_only hterm Scope.onlyTypes_empty hnamed hgiven
  have hexplained : ∀ number failure, WasGiven t .empty (.error number failure) →
      Succeeds failure.explain := by
    rintro number failure ⟨type, hpart, htype | ⟨name, hfound⟩⟩
    · obtain rfl : type = .pair 5 declared .integer := by simpa [t, Term.declared] using htype
      obtain ⟨-, rfl⟩ : number = 4 ∧ failure = ⟨.notAPair, .term (.number 0 5), .unstated⟩ := by
        simpa [Ty.parts, declared, Ty.integer] using hpart
      exact ⟨_, rfl⟩
    · cases hfound
  obtain ⟨result, after, hrun⟩ := hreturns hexplained rfl
  exact ⟨result, after, hrun, hends.of_ok hrun⟩

/-- A function declares an error that blames a term without a layout. The check
comes across it and stops, although nothing is to be said aloud. -/
theorem check_stops_unheard :
    let x : Name := ⟨"x", by decide⟩
    let session := (start .quiet []).withTable (Numbering.initial.insert .error)
    let t : Term := .fn 2 x (.error 4 ⟨.notAPair, .term (.bare 0), .unstated⟩) (.ident 1 x)
    t.InLanguage ∧ GivenTypes Ty.Renderable t .empty ∧ session.report.verbose = false ∧
      session.report.limit = none ∧
      ∃ after, (check (.term t) (.scope .empty)).run session =
        .error (.noLayout "Term") after := by
  intro x session t
  refine ⟨trivial, ⟨?_, Scope.all_empty _⟩, rfl, rfl, _, rfl⟩
  intro type htype
  cases List.mem_singleton.mp htype
  exact Ty.everywhere_error.mpr trivial

end Session

end PCFTyping
