import PCFTyping.Proofs.Session.Verdict
import PCFTyping.Proofs.Typing.Agreement

/-!
What a check finds.

For types without errors, a check finds either a type and has nothing to file,
or a fault, whose error type is the result and whose picture is filed
(`Finding`). The report has no say in this. It only stops the check when the
picture brings it to its limit (`Session.check_finds`).

Nor does it matter what was made or checked before. A later table may number
the types of the result otherwise, but their shapes, what is blamed and the
picture stay the same (`Finding.same`).
-/

namespace PCFTyping

/-- A term that can be checked in a scope with a table: the term is in the
language, the scope has nothing but types, and all given types are known,
renderable and free of errors. -/
structure Checkable (numbering : Numbering) (t : Term) (scope : Scope) : Prop where
  named : Numbering.initial.Extends numbering
  inLanguage : t.InLanguage
  onlyTypes : scope.OnlyTypes
  given : GivenTypes (fun type => numbering.Knows type ∧ type.Renderable ∧ type.ErrorFree) t scope

/-- The rules derive no type for the term. -/
def IllTyped (scope : Scope) (t : Term) : Prop := ∀ τ, ¬ HasType scope t τ

/-- The term that an error type blames, if the type is an error that blames
one, with all that the error says about it. -/
def Ty.blame? : Ty → Option Blame
  | .error _ failure => failure.blame?
  | _ => none

/-- The result of a check and what it files, as far as they are settled by the
term, the scope and the table. -/
inductive Finding (numbering : Numbering) (t : Term) (scope : Scope) :
    Ty → List Issue → Prop where
  | typed {type : Ty} {after : Numbering} :
      t.Judged scope numbering (.ok type) after → type.Renderable → type.ErrorFree →
      HasType scope t type.shape → Finding numbering t scope type []
  | faulty {inForce : Scope} {fault : Fault} {picture : Picture} {path : Path}
      {after : Numbering} :
      t.Judged scope numbering (.error (.fault inForce fault)) after →
      fault.Concerns Ty.Renderable t →
      fault.complaint.picture (.scope inForce) (.term t) = .ok picture →
      FailsAt scope t path fault.blame →
      Finding numbering t scope (.error (after.number .error) fault.failure) [.picture picture]

namespace Checkable

variable {numbering later : Numbering} {t : Term} {scope : Scope}

theorem mono (h : Checkable numbering t scope) (hgrow : numbering.Extends later) :
    Checkable later t scope where
  named := h.named.trans hgrow
  inLanguage := h.inLanguage
  onlyTypes := h.onlyTypes
  given := h.given.mono fun _ hp => ⟨hp.1.mono hgrow, hp.2⟩

theorem writable (h : Checkable numbering t scope) : t.Writable :=
  ⟨h.inLanguage, fun type htype => (h.given.declared type htype).2.1⟩

theorem known (h : Checkable numbering t scope) : GivenTypes numbering.Knows t scope :=
  h.given.mono fun _ hp => hp.1

/-- A judgement finds a type other than an error, or a fault that can be drawn. -/
theorem finding_of_judged {verdict : Except Halt Ty} {after : Numbering}
    (h : Checkable numbering t scope) (hjudged : t.Judged scope numbering verdict after) :
    (∃ type, verdict = .ok type ∧ type.isError = false ∧ Finding numbering t scope type []) ∨
    ∃ inForce fault picture, verdict = .error (.fault inForce fault) ∧
      fault.complaint.picture (.scope inForce) (.term t) = .ok picture ∧
      Finding numbering t scope (.error (after.number .error) fault.failure)
        [.picture picture] := by
  have hsound := t.judge_sound scope _ ⟨h.named, .refl _, h.known⟩
  have hstable := Stable.knows.and (Stable.renderable.and Stable.errorFree)
  rcases hjudged.found_or_pictured hstable (fun _ _ hp => hp.2.1) ⟨h.named, .refl _, h.given⟩
    h.inLanguage h.onlyTypes with
    ⟨type, hfound, -, hrenderable, herrorFree⟩ | ⟨inForce, fault, picture, rfl, hfault, hpicture⟩
  · cases hfound with
    | derived =>
      exact .inl ⟨type, rfl, herrorFree.isError,
        .typed hjudged hrenderable herrorFree (hsound.of_ok hjudged)⟩
    | inherited => cases herrorFree.isError
  · obtain ⟨path, last, v, hreach, hbreak⟩ := hsound.of_error hjudged
    exact .inr ⟨inForce, fault, picture, rfl, hpicture,
      .faulty hjudged hfault hpicture ⟨last, v, hreach, hbreak⟩⟩

theorem exists_finding (h : Checkable numbering t scope) :
    ∃ result news, Finding numbering t scope result news := by
  obtain ⟨verdict, after, hjudged⟩ := t.exists_judged scope numbering
  rcases h.finding_of_judged hjudged with ⟨type, -, -, hfinding⟩ | ⟨_, fault, _, -, -, hfinding⟩
  · exact ⟨type, [], hfinding⟩
  · exact ⟨_, _, hfinding⟩

end Checkable

/-! ### One finding from two tables -/

/-- Faults of one sort with one culprit look the same as soon as their types
do. -/
theorem Fault.Alike.picture_eq {R : Ty → Ty → Prop} {fault fault' : Fault}
    (h : fault.Alike R fault') (hguilty : fault.guilty = fault'.guilty)
    (hrender : ∀ s ∈ fault.types, ∀ s' ∈ fault'.types, R s s' → s.render = s'.render)
    (setting : Setting) (root : Part) :
    fault.complaint.picture setting root = fault'.complaint.picture setting root := by
  cases h with
  | unbound =>
    cases hguilty
    rfl
  | notAFunction hgot | notAPair hgot =>
    cases hguilty
    have hgot := hrender _ (by simp [types]) _ (by simp [types]) hgot
    simp only [complaint, Complaint.picture, Part.shown, hgot]
  | mismatch hneed hgot | branches hneed hgot =>
    cases hguilty
    have hneed := hrender _ (by simp [types]) _ (by simp [types]) hneed
    have hgot := hrender _ (by simp [types]) _ (by simp [types]) hgot
    simp only [complaint, Complaint.picture, Part.shown, hneed, hgot]

namespace Finding

variable {numbering numbering' : Numbering} {t : Term} {scope : Scope} {result result' : Ty}
  {news news' : List Issue}

/-- There is one picture for an ill-typed term, and none for any other. -/
theorem news_cases (h : Finding numbering t scope result news) :
    (¬ IllTyped scope t ∧ news = []) ∨
      (IllTyped scope t ∧ ∃ picture, news = [.picture picture]) := by
  cases h with
  | typed _ _ _ htype => exact .inl ⟨fun hill => hill _ htype, rfl⟩
  | faulty _ _ _ hfails => exact .inr ⟨fun _ => hfails.not_hasType, _, rfl⟩

/-- Two tables that know the given types lead to one picture. -/
theorem picture_eq {inForce inForce' : Scope} {fault fault' : Fault} {after after' : Numbering}
    (ht : Checkable numbering t scope) (ht' : Checkable numbering' t scope)
    (hjudged : t.Judged scope numbering (.error (.fault inForce fault)) after)
    (hjudged' : t.Judged scope numbering' (.error (.fault inForce' fault')) after')
    (hfault : fault.Concerns Ty.Renderable t) (hfault' : fault'.Concerns Ty.Renderable t) :
    fault.complaint.picture (.scope inForce) (.term t) =
      fault'.complaint.picture (.scope inForce') (.term t) := by
  obtain ⟨halt, _, hrun, hcorresponds⟩ :=
    (Term.judge_of_knows ht.named ht'.named ht.known ht'.known).of_error hjudged
  obtain ⟨rfl, rfl⟩ := EStateM.Result.error.inj (hrun.symm.trans hjudged')
  obtain ⟨halike, path, hpath, hpath'⟩ := hcorresponds
  -- Both judgements are of one term in one scope, so the path leads to one place.
  obtain ⟨rfl, hguilty⟩ := Prod.mk.inj (Option.some.inj (hpath.symm.trans hpath'))
  refine halike.picture_eq hguilty ?_ _ _
  intro s hs s' hs' hshape
  exact (hfault.types s hs).render_eq_of_shape_eq (hfault'.types s' hs') hshape.2.2

/-- What is found does not depend on what the table knows beyond the given
types. -/
theorem same (ht : Checkable numbering t scope) (ht' : Checkable numbering' t scope)
    (h : Finding numbering t scope result news) (h' : Finding numbering' t scope result' news') :
    result.shape = result'.shape ∧ result.blame? = result'.blame? ∧ news = news' := by
  cases h with
  | typed hjudged _ herrorFree htype =>
    cases h' with
    | typed hjudged' _ herrorFree' htype' =>
      have hblame : ∀ {type : Ty}, type.ErrorFree → type.blame? = none := by
        intro type herrorFree
        cases type with
        | error => cases herrorFree.isError
        | _ => rfl
      exact ⟨htype.unique htype', (hblame herrorFree).trans (hblame herrorFree').symm, rfl⟩
    | faulty _ _ _ hfails => exact (hfails.not_hasType htype).elim
  | @faulty inForce fault picture path after hjudged hfault hpicture hfails =>
    cases h' with
    | typed _ _ _ htype => exact (hfails.not_hasType htype).elim
    | @faulty inForce' fault' picture' path' after' hjudged' hfault' hpicture' hfails' =>
      refine ⟨rfl, ?_, ?_⟩
      · rw [Ty.blame?, Ty.blame?, fault.failure_blame?, fault'.failure_blame?,
          (hfails.unique hfails').2]
      · rw [picture_eq ht ht' hjudged hjudged' hfault hfault', hpicture'] at hpicture
        cases hpicture
        rfl

end Finding

/-! ### The report's say -/

namespace Session

variable {session : Session} {t : Term} {scope : Scope} {result : Ty} {news : List Issue}

/-- The report is one issue short of its limit. -/
def AtBrink (session : Session) : Prop :=
  session.report.limit = some ((session.report.count + 1 : Nat) : Int)

/-- One more picture brings a report at the brink to its limit, and no other. -/
theorem atLimit_iff (session : Session) (picture : Picture) :
    (session.withPicture picture).report.atLimit = true ↔ session.AtBrink := by
  simp [withPicture, Report.atLimit, Report.add, Report.count, AtBrink]

/-- Some issues are new, and new types may have been made. -/
structure Gains (before : Session) (news : List Issue) (after : Session) : Prop where
  table : before.workshop.numbering.Extends after.workshop.numbering
  report : after.report = { before.report with issues := before.report.issues ++ news }

theorem Gains.of_speaks {after : Session} {numbering : Numbering} {news : List Issue}
    (hgrow : session.workshop.numbering.Extends numbering)
    (h : Speaks { session.withTable numbering with
      report := { session.report with issues := session.report.issues ++ news } } after) :
    session.Gains news after := by
  obtain ⟨text, due, rfl⟩ := h
  exact ⟨hgrow, rfl⟩

/-- A check files what it finds. It stops exactly if it finds a fault and the
report is at the brink, and what was found is filed all the same. -/
theorem check_finds (ht : Checkable session.workshop.numbering t scope)
    (h : Finding session.workshop.numbering t scope result news) :
    Ensures (check (.term t) (.scope scope)) session
      (fun found after => found = result ∧ session.Gains news after ∧
        ¬ (IllTyped scope t ∧ session.AtBrink))
      (fun stop after => stop = .tooManyIssues ∧ session.Gains news after ∧
        IllTyped scope t ∧ session.AtBrink) := by
  have hkeeps := t.judge_keeps .knows scope _ ⟨ht.named, .refl _, ht.known⟩
  cases h with
  | typed hjudged hrenderable herrorFree htype =>
    refine (check_passes .derived (fun _ => ht.writable.render_ok)
      (fun _ _ => hrenderable.render_ok) hjudged).mono ?_ ?_
    · rintro found after ⟨rfl, hspeaks, -⟩
      refine ⟨rfl, .of_speaks (hkeeps.of_ok hjudged).1 ?_, fun hill => hill.1 _ htype⟩
      rw [List.append_nil]
      exact hspeaks
    · rintro stop after ⟨-, number, failure, rfl, -⟩
      cases herrorFree.isError
  | @faulty inForce fault picture path numbering hjudged hfault hpicture hfails =>
    have hgrow := (hkeeps.of_error hjudged).1
    have hlimit := session.atLimit_iff picture
    refine (check_files ht.writable hfault hpicture hjudged).mono ?_ ?_
    · rintro found after ⟨rfl, hspeaks, hroom⟩
      refine ⟨rfl, .of_speaks (hgrow.trans (numbering.extends_insert _)) hspeaks, ?_⟩
      rintro ⟨-, hbrink⟩
      rw [hlimit.mpr hbrink] at hroom
      cases hroom
    · rintro stop after ⟨rfl, hspeaks, hfull⟩
      exact ⟨rfl, .of_speaks hgrow hspeaks, fun _ => hfails.not_hasType, hlimit.mp hfull⟩

end Session

end PCFTyping
