import PCFTyping.Proofs.Session.Check
import PCFTyping.Proofs.Typing.Adequacy

/-!
What a check says about a term.

The types that a check starts from are the declared types of the term and the
types of the scope. They were made with the table of the session, so the table
knows them, as `Bench.sound_run` says of any run of constructions, and the named
types are the first in it.

* `Session.check_iff_hasType`: a quiet check gives the type that the rules
  derive, and only that one.
* `Session.check_error_iff_failsAt`: a check gives an error exactly if the term
  fails somewhere, and the error is about the one place where it fails first.
-/

namespace PCFTyping

/-- What an error type carries, with types up to structural equality. An error
type that was not made by a check may blame no term at all. -/
def Failure.blame? (failure : Failure) : Option Blame :=
  match failure.guilty, failure.mismatch with
  | .term guilty, .unstated => some ⟨failure.kind, guilty, none⟩
  | .term guilty, .between (.type need) (.type got) =>
      some ⟨failure.kind, guilty, some (need.shape, got.shape)⟩
  | _, _ => none

/-- An error type carries what its fault comes down to. -/
theorem Fault.failure_blame? (fault : Fault) : fault.failure.blame? = some fault.blame := by
  cases fault <;> rfl

/-- A term of the language in a scope of types is found to have a type, or a
fault is found in it. -/
theorem Term.Judged.found_or_fault {P : Numbering → Ty → Prop} (stable : Stable P) {t : Term}
    {scope : Scope} {start after : Numbering} {verdict : Except Halt Ty}
    (hready : Underway P scope t start start) (hterm : t.InLanguage) (hscope : scope.OnlyTypes)
    (h : t.Judged scope start verdict after) :
    (∃ type, Session.Found verdict type ∧ P after type) ∨
      ∃ inForce fault, verdict = .error (.fault inForce fault) ∧ inForce.All (P after) ∧
        fault.Concerns (P after) t := by
  have hkeeps := t.judge_keeps stable scope start hready
  cases verdict with
  | ok type => exact .inl ⟨type, .derived, (hkeeps.of_ok h).2⟩
  | error halt =>
    have hconcerns := (hkeeps.of_error h).2
    cases halt with
    | fault inForce fault => exact .inr ⟨inForce, fault, rfl, hconcerns⟩
    | inherited number failure => exact .inl ⟨.error number failure, .inherited, hconcerns⟩
    | noRule u => exact (hconcerns hterm).elim
    | notAType u => exact (hconcerns hscope).elim

/-- If the given types are renderable, the fault can be drawn. -/
theorem Term.Judged.found_or_pictured {P : Numbering → Ty → Prop} (stable : Stable P)
    (hwords : ∀ numbering type, P numbering type → type.Renderable) {t : Term} {scope : Scope}
    {start after : Numbering} {verdict : Except Halt Ty}
    (hready : Underway P scope t start start) (hterm : t.InLanguage) (hscope : scope.OnlyTypes)
    (h : t.Judged scope start verdict after) :
    (∃ type, Session.Found verdict type ∧ P after type) ∨
      ∃ inForce fault picture, verdict = .error (.fault inForce fault) ∧
        fault.Concerns Ty.Renderable t ∧
        fault.complaint.picture (.scope inForce) (.term t) = .ok picture := by
  refine (h.found_or_fault stable hready hterm hscope).imp_right ?_
  rintro ⟨inForce, fault, rfl, hinForce, hfault⟩
  have hwritable : t.Writable :=
    ⟨hterm, fun type htype => hwords _ type (hready.given.declared type htype)⟩
  have hfault := hfault.mono (hwords after)
  obtain ⟨picture, hpicture⟩ := fault.picture_ok hwritable (hinForce.mono (hwords after)) hfault
  exact ⟨inForce, fault, picture, rfl, hfault, hpicture⟩

namespace Session

variable {session : Session} {t : Term} {scope : Scope}

/-- A quiet check gives no type that the rules do not derive, whatever errors
the given types have in them. -/
theorem hasType_of_check (hquiet : session.report.verbose = false)
    (hnamed : Numbering.initial.Extends session.workshop.numbering)
    (hgiven : GivenTypes session.workshop.numbering.Knows t scope) {type : Ty} {after : Session}
    (hrun : (check (.term t) (.scope scope)).run session = .ok type after)
    (hnoError : type.isError = false) : HasType scope t type.shape := by
  have hjudged := judged_of_check hquiet hrun hnoError
  exact (t.judge_sound scope _ ⟨hnamed, .refl _, hgiven⟩).of_ok hjudged

/-- A quiet check gives the type that the rules derive. -/
theorem check_of_hasType (hquiet : session.report.verbose = false)
    (hnamed : Numbering.initial.Extends session.workshop.numbering)
    (hgiven : GivenTypes (Proper session.workshop.numbering) t scope) {τ : Shape}
    (h : HasType scope t τ) :
    ∃ type after, (check (.term t) (.scope scope)).run session = .ok type after ∧
      type.isError = false ∧ type.shape = τ := by
  have hloud : session.report.verbose ≠ true := by simp [hquiet]
  have hready : Underway Proper scope t session.workshop.numbering session.workshop.numbering :=
    ⟨hnamed, .refl _, hgiven⟩
  obtain ⟨type, numbering, hrun, hshape⟩ := (Term.judge_complete h _ hready).exists_ok
  have hnoError := ((t.judge_keeps .proper scope _ hready).of_ok hrun).2.2.isError
  have hjudged : t.Judged scope session.workshop.numbering (.ok type) numbering := hrun
  have hpassed := check_of_found_type .derived hnoError (absurd · hloud) (absurd · hloud) hjudged
  obtain ⟨_, after, hcheck, rfl, -⟩ := hpassed.exists_ok
  exact ⟨_, after, hcheck, hnoError, hshape⟩

/-- **A quiet check is sound and complete.** It gives a type other than an
error exactly if the rules derive that type, and the rules derive at most one.
Nothing is asked of the report's limit, of the names of types or of the other
things that the scope may have. -/
theorem check_iff_hasType (hquiet : session.report.verbose = false)
    (hnamed : Numbering.initial.Extends session.workshop.numbering)
    (hgiven : GivenTypes (fun type => session.workshop.numbering.Knows type ∧ type.ErrorFree) t
      scope) :
    (∀ τ, (∃ type after, (check (.term t) (.scope scope)).run session = .ok type after ∧
        type.isError = false ∧ type.shape = τ) ↔ HasType scope t τ) ∧
      ∀ σ τ, HasType scope t σ → HasType scope t τ → σ = τ := by
  constructor
  · intro τ
    constructor
    · rintro ⟨type, after, hrun, hnoError, rfl⟩
      exact hasType_of_check hquiet hnamed (hgiven.mono fun _ h => h.1) hrun hnoError
    · exact check_of_hasType hquiet hnamed hgiven
  · exact fun σ τ => HasType.unique

/-- A function applied to the successor calls it: the check gives the type that
the rules derive. -/
theorem check_iff_hasType_apply :
    let f : Name := ⟨"f", by decide⟩
    let call : Term := .app 2 (.ident 0 f) (.number 1 3)
    ∃ type after, (check (.term (.app 5 (.fn 3 f .intToInt call) (.builtin 4 .successor)))
        (.scope .empty)).run (start .quiet []) = .ok type after ∧
      type.isError = false ∧ type.shape = .integer := by
  intro f call
  have hnamed : Numbering.initial.Extends (start .quiet []).workshop.numbering := .refl _
  have hf : HasType (Scope.empty.extend "f" .intToInt) (.ident 0 f) Ty.intToInt.shape := .ident rfl
  have hcall : HasType (Scope.empty.extend "f" .intToInt) call .integer := .app hf .number
  refine ((check_iff_hasType rfl hnamed ⟨?_, Scope.all_empty _⟩).1 .integer).mpr
    (.app (.fn hcall) .successor)
  intro type htype
  obtain rfl : type = .intToInt := by simpa [Term.declared, call] using htype
  exact Stable.proper.named hnamed (by simp)

/-- A check of a writable term finds its type or the fault that makes it fail. -/
theorem check_hasType_or_failsAt (hterm : t.InLanguage) (hscope : scope.OnlyTypes)
    (hnamed : Numbering.initial.Extends session.workshop.numbering)
    (hlimit : session.report.limit = none)
    (hgiven : GivenTypes (fun type => session.workshop.numbering.Knows type ∧
      type.Renderable ∧ type.ErrorFree) t scope) :
    Completes (check (.term t) (.scope scope)) session fun result _ =>
      (result.isError = false ∧ HasType scope t result.shape) ∨
        ∃ (number : Nat) (fault : Fault) (path : Path), result = .error number fault.failure ∧
          FailsAt scope t path fault.blame := by
  obtain ⟨verdict, numbering, hjudged⟩ := t.exists_judged scope session.workshop.numbering
  have hwritable : t.Writable := ⟨hterm, fun type htype => (hgiven.declared type htype).2.1⟩
  have hsound := t.judge_sound scope _ ⟨hnamed, .refl _, hgiven.mono fun _ h => h.1⟩
  have hstable := Stable.knows.and (Stable.renderable.and Stable.errorFree)
  rcases hjudged.found_or_fault hstable ⟨hnamed, .refl _, hgiven⟩ hterm hscope with
    ⟨type, hfound, -, hrenderable, herrorFree⟩ | ⟨inForce, fault, rfl, hinForce, hfault⟩
  · refine (check_of_found_type hfound herrorFree.isError (fun _ => hwritable.render_ok)
      (fun _ => hrenderable.render_ok) hjudged).mono ?_
    rintro result after ⟨rfl, -⟩
    cases hfound with
    | derived => exact .inl ⟨herrorFree.isError, hsound.of_ok hjudged⟩
    | inherited => cases herrorFree.isError
  · refine (check_of_fault hwritable (hinForce.mono fun _ h => h.2.1)
      (hfault.mono fun _ h => h.2.1) hlimit hjudged).mono ?_
    rintro result after ⟨⟨number, rfl⟩, -⟩
    obtain ⟨path, last, v, hreach, hbreak⟩ := hsound.of_error hjudged
    exact .inr ⟨number, fault, path, rfl, last, v, hreach, hbreak⟩

/-- **The first failure wins, and it is the right one.** A check gives an error
exactly if some node of the term fails first in the checking order. There is
one such path, it leads to a node of the term, and the error has the kind, the
guilty term and the two disagreeing types of the rule that fails there. -/
theorem check_error_iff_failsAt (hterm : t.InLanguage) (hscope : scope.OnlyTypes)
    (hnamed : Numbering.initial.Extends session.workshop.numbering)
    (hlimit : session.report.limit = none)
    (hgiven : GivenTypes (fun type => session.workshop.numbering.Knows type ∧
      type.Renderable ∧ type.ErrorFree) t scope) :
    ((∃ result after, (check (.term t) (.scope scope)).run session = .ok result after ∧
        result.isError = true) ↔ ∃ path blame, FailsAt scope t path blame) ∧
      ∀ path blame, FailsAt scope t path blame →
        (∃ number failure after, (check (.term t) (.scope scope)).run session =
            .ok (.error number failure) after ∧ failure.blame? = some blame) ∧
          (∃ node, t.follow? path = some node) ∧
          ∀ path' blame', FailsAt scope t path' blame' → path' = path ∧ blame' = blame := by
  obtain ⟨result, after, hrun, houtcome⟩ :=
    (check_hasType_or_failsAt hterm hscope hnamed hlimit hgiven).exists_ok
  -- There is one run, so one failure found in it speaks for every place where the term fails.
  have hfails : ∀ {path blame}, FailsAt scope t path blame →
      ∃ number failure, result = .error number failure ∧ failure.blame? = some blame := by
    intro path blame hfail
    rcases houtcome with ⟨-, htyped⟩ | ⟨number, fault, found, rfl, hfound⟩
    · exact (hfail.not_hasType htyped).elim
    · obtain ⟨-, rfl⟩ := hfound.unique hfail
      exact ⟨number, fault.failure, rfl, fault.failure_blame?⟩
  refine ⟨⟨?_, ?_⟩, ?_⟩
  · rintro ⟨result', after', hrun', herror⟩
    obtain ⟨rfl, rfl⟩ := EStateM.Result.ok.inj (hrun.symm.trans hrun')
    rcases houtcome with ⟨hnoError, -⟩ | ⟨number, fault, path, -, hfail⟩
    · rw [herror] at hnoError
      cases hnoError
    · exact ⟨path, fault.blame, hfail⟩
  · rintro ⟨path, blame, hfail⟩
    obtain ⟨number, failure, rfl, -⟩ := hfails hfail
    exact ⟨_, after, hrun, rfl⟩
  · intro path blame hfail
    obtain ⟨number, failure, rfl, hblame⟩ := hfails hfail
    refine ⟨⟨number, failure, after, hrun, hblame⟩, ?_, fun _ _ hother => hother.unique hfail⟩
    obtain ⟨last, node, hreach, -⟩ := hfail
    exact ⟨node, hreach.follow?⟩

/-- Here the condition is no Boolean and `z` is unbound, but the let in the
second branch comes before both. -/
theorem check_error_iff_failsAt_let :
    let y : Name := ⟨"y", by decide⟩
    let z : Name := ⟨"z", by decide⟩
    ∃ number failure after, (check (.term (.cond 5 (.number 0 0) (.number 1 1)
        (.letIn 4 y .integer (.truth 2 true) (.ident 3 z)))) (.scope .empty)).run
          (start .quiet []) = .ok (.error number failure) after ∧
      failure.blame? = some ⟨.letTypeMismatch, .truth 2 true, some (.integer, .boolean)⟩ := by
  intro y z
  have hnamed : Numbering.initial.Extends (start .quiet []).workshop.numbering := .refl _
  have hfail : FailsAt .empty (.cond 5 (.number 0 0) (.number 1 1)
      (.letIn 4 y .integer (.truth 2 true) (.ident 3 z))) [2]
      ⟨.letTypeMismatch, .truth 2 true, some (.integer, .boolean)⟩ :=
    .down (.elseBranch .number .number) (.here (.binding .truth (by decide)))
  refine ((check_error_iff_failsAt ?_ ?_ hnamed rfl ⟨?_, Scope.all_empty _⟩).2 [2] _ hfail).1
  · simp [Term.InLanguage]
  · exact Scope.onlyTypes_empty
  · intro type htype
    obtain rfl : type = .integer := by simpa [Term.declared] using htype
    exact (Stable.knows.and (Stable.renderable.and Stable.errorFree)).named hnamed (by simp)

end Session

end PCFTyping
