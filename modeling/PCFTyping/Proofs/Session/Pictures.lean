import PCFTyping.Proofs.Session.Verdict
import PCFTyping.Proofs.Typing.Agreement

/-!
The picture that comes with an error.

A fault makes two things, the error type that a check gives and the picture
that it files. `Session.check_error_pictured` says that they are about the same
place: the picture quotes the whole term, underlines the guilty part, or the
two branches of a guilty conditional, and lists the scope in force there.
-/

namespace PCFTyping

/-! ### What is on a picture -/

namespace Complaint

variable {setting setting' : Setting} {root : Part} {complaint : Complaint} {picture : Picture}

/-- The scope decides nothing but the last lines of a picture. -/
theorem picture_eq (complaint : Complaint) (setting : Setting) (root : Part) :
    complaint.picture setting root = do
      let blank ← complaint.picture (.scope .empty) root
      let footer ← setting.footer
      return { blank with footer } := by
  have hempty : (Setting.scope .empty).footer = .ok ["Nothing was in scope."] := rfl
  cases complaint <;> simp only [Complaint.picture, hempty, bind_assoc, pure_bind] <;> rfl

/-- A picture ends with the lines of its scope. -/
theorem footer_of_picture (h : complaint.picture setting root = .ok picture) :
    setting.footer = .ok picture.footer := by
  rw [picture_eq] at h
  obtain ⟨blank, -, hpicture⟩ := bind_eq_ok_iff.mp h
  obtain ⟨footer, hfooter, hpicture⟩ := bind_eq_ok_iff.mp hpicture
  cases hpicture
  exact hfooter

/-- In another scope the same is drawn above other last lines. -/
theorem picture_of_footer (h : complaint.picture setting root = .ok picture)
    {footer : List String} (hfooter : setting'.footer = .ok footer) :
    complaint.picture setting' root = .ok { picture with footer } := by
  rw [picture_eq] at h ⊢
  obtain ⟨blank, hblank, hpicture⟩ := bind_eq_ok_iff.mp h
  obtain ⟨_, -, hpicture⟩ := bind_eq_ok_iff.mp hpicture
  cases hpicture
  rw [hblank, hfooter]
  rfl

end Complaint

namespace Fault

/-- The terms that the picture of a fault underlines. -/
def underlined : Fault → List Term
  | branches _ thenBranch elseBranch _ _ => [thenBranch, elseBranch]
  | fault => [fault.guilty]

/-- The picture of a fault quotes the line of the whole and marks the spans of
the underlined terms. -/
theorem marks_of_picture {fault : Fault} {setting : Setting} {t : Term} {picture : Picture}
    {layout : Layout} (hlayout : (Part.term t).layout = .ok layout)
    (h : fault.complaint.picture setting (.term t) = .ok picture) :
    (∀ mark ∈ picture.marks, mark.text = layout.text) ∧
      picture.marks.map (fun mark => some mark.span) =
        fault.underlined.map fun u => layout.span? u.label := by
  have hmark : ∀ {u : Term} {caption : String} {mark : Mark},
      Mark.of (.term t) (.term u) caption = .ok mark →
        mark.text = layout.text ∧ some mark.span = layout.span? u.label := by
    intro u caption mark hof
    obtain ⟨layout', hlayout', htext, -, hspan⟩ := Mark.of_term_eq_ok hof
    cases hlayout.symm.trans hlayout'
    exact ⟨htext, hspan.symm⟩
  cases fault with
  | unbound u | notAFunction u got | notAPair u got =>
    simp only [complaint, Complaint.picture, bind_eq_ok_iff] at h
    obtain ⟨_, -, mark, hof, _, -, ⟨⟩⟩ := h
    simp [underlined, guilty, hmark hof]
  | mismatch demand u need got =>
    simp only [complaint, Complaint.picture, bind_eq_ok_iff] at h
    obtain ⟨_, -, _, -, mark, hof, _, -, ⟨⟩⟩ := h
    simp [underlined, guilty, hmark hof]
  | branches cond thenBranch elseBranch thenType elseType =>
    simp only [complaint, Complaint.picture, bind_eq_ok_iff] at h
    obtain ⟨_, -, thenMark, hthen, _, -, elseMark, helse, _, -, ⟨⟩⟩ := h
    simp [underlined, hmark hthen, hmark helse]

end Fault

/-- The paths of what is underlined when the guilty part stands at a path: the
part itself, or its second and third child when it is blamed for branches that
differ. -/
def Failure.underlined (failure : Failure) (path : Path) : List Path :=
  match failure.kind, failure.mismatch with
  | .conditionalBranchMismatch, .unstated => [path ++ [1], path ++ [2]]
  | _, _ => [path]

/-- A fault underlines the terms at these paths. -/
theorem Fault.underlined_paths {R : Ty → Ty → Prop} {fault fault' : Fault} {t : Term}
    {scope inForce : Scope} {path : Path} (h : fault.Alike R fault')
    (hpath : t.judgedAt? scope path = some (inForce, fault.guilty)) :
    (fault.failure.underlined path).map t.follow? = fault.underlined.map some := by
  have hguilty := Term.follow?_of_judgedAt? hpath
  cases h with
  | unbound | notAFunction | notAPair =>
    simp [Failure.underlined, failure, underlined, hguilty]
  | @mismatch demand =>
    cases demand <;> simp [Failure.underlined, failure, Demand.kind, underlined, hguilty]
  | branches =>
    have hthen := Term.follow?_of_judgedAt? (Term.judgedAt?_append hpath [1])
    have helse := Term.follow?_of_judgedAt? (Term.judgedAt?_append hpath [2])
    simp [Failure.underlined, failure, underlined, hthen, helse]

/-- A fault is found in the scope in force at the guilty term: the judgement is
compared with itself. -/
theorem Term.Judged.fault_at {t : Term} {scope inForce : Scope} {start after : Numbering}
    {fault : Fault} (h : t.Judged scope start (.error (.fault inForce fault)) after) :
    fault.Alike Eq fault ∧ ∃ path, t.judgedAt? scope path = some (inForce, fault.guilty) := by
  obtain ⟨halt, after', hrun, -, hcorresponds⟩ :=
    (t.judge_of_lookup_eq start fun name _ => rfl).of_error h
  cases h.symm.trans hrun
  obtain ⟨halike, path, hpath, -⟩ := hcorresponds
  exact ⟨halike, path, hpath⟩

/-- The underlined columns, path by path. -/
theorem Term.spans_of_unshared {t : Term} {layout : Layout} {paths : List Path}
    {terms : List Term} (hlayout : (Part.term t).layout = .ok layout) (hunshared : t.Unshared)
    (hpaths : paths.map t.follow? = terms.map some) :
    terms.map (fun u => layout.span? u.label) = paths.map (t.columnsAt? 0) := by
  induction paths generalizing terms with
  | nil =>
    cases terms with
    | nil => rfl
    | cons u rest => cases hpaths
  | cons path paths ih =>
    cases terms with
    | nil => cases hpaths
    | cons u rest =>
      obtain ⟨hpath, hpaths⟩ := List.cons.inj hpaths
      rw [List.map_cons, List.map_cons, ih hpaths, span?_of_unshared hlayout hunshared hpath]

namespace Session

variable {session : Session} {t : Term} {scope : Scope}

/-- An error that a check gives comes of a fault, and the picture of the fault
is what is new in the report. -/
theorem check_error_of_fault (ht : t.Writable)
    (hnamed : Numbering.initial.Extends session.workshop.numbering)
    (hgiven : GivenTypes (fun type => type.Renderable ∧ type.ErrorFree) t scope) {number : Nat}
    {failure : Failure} {after : Session}
    (hrun : (check (.term t) (.scope scope)).run session = .ok (.error number failure) after) :
    ∃ inForce fault picture numbering,
      t.Judged scope session.workshop.numbering (.error (.fault inForce fault)) numbering ∧
      fault.failure = failure ∧
      fault.complaint.picture (.scope inForce) (.term t) = .ok picture ∧
      after.report = session.report.add (.picture picture) := by
  obtain ⟨verdict, numbering, hjudged⟩ := t.exists_judged scope session.workshop.numbering
  have hkeeps := t.judge_keeps (Stable.renderable.and .errorFree) scope _ ⟨hnamed, .refl _, hgiven⟩
  cases verdict with
  | ok type =>
    obtain ⟨hrenderable, herrorFree⟩ := (hkeeps.of_ok hjudged).2
    obtain ⟨rfl, -⟩ := (check_of_found .derived (fun _ => ht.render_ok)
      (fun _ _ => hrenderable.render_ok) hjudged).of_ok hrun
    cases herrorFree.isError
  | error halt =>
    have hconcerns := (hkeeps.of_error hjudged).2
    have hrule : ∀ u, ¬ (halt = .noRule u ∨ halt = .notAType u) := fun u hhalt =>
      (check_of_no_rule (fun _ => ht.render_ok) ⟨u, hhalt⟩ hjudged).of_ok hrun
    cases halt with
    | inherited number failure => cases hconcerns.2.isError
    | noRule u => exact (hrule u (.inl rfl)).elim
    | notAType u => exact (hrule u (.inr rfl)).elim
    | fault inForce fault =>
      have hfault := hconcerns.2.mono fun _ h => h.1
      obtain ⟨picture, hpicture⟩ := fault.picture_ok ht (hconcerns.1.mono fun _ h => h.1) hfault
      obtain ⟨herror, hspeaks, -⟩ := (check_files ht hfault hpicture hjudged).of_ok hrun
      cases herror
      exact ⟨inForce, fault, picture, numbering, hjudged, rfl, hpicture, hspeaks.report⟩

/-- **An error and its picture agree.** A check that gives an error files one
picture. Every line quoted in it is the text of the whole term. The guilty part
stands at a path where some scope is in force, and the picture lists this
scope. What is underlined are the spans of the guilty part or, if it is a
conditional blamed for its branches, of the branches, the first one first. If
no object occurs twice in the term, the underlined columns are those at the
very path. -/
theorem check_error_pictured (hterm : t.InLanguage)
    (hnamed : Numbering.initial.Extends session.workshop.numbering)
    (hgiven : GivenTypes (fun type => type.Renderable ∧ type.ErrorFree) t scope) {number : Nat}
    {failure : Failure} {after : Session}
    (hrun : (check (.term t) (.scope scope)).run session = .ok (.error number failure) after) :
    ∃ picture guilty path inForce layout,
      after.report = session.report.add (.picture picture) ∧
      failure.guilty = .term guilty ∧
      t.judgedAt? scope path = some (inForce, guilty) ∧
      inForce.footer = .ok picture.footer ∧
      (Part.term t).layout = .ok layout ∧
      (∀ mark ∈ picture.marks, t.render = .ok mark.text) ∧
      picture.marks.map (fun mark => some mark.span) = (failure.underlined path).map
        (fun place => (t.follow? place).bind fun u => layout.span? u.label) ∧
      (failure.kind = .conditionalBranchMismatch → failure.mismatch = .unstated →
        ∃ label condition thenBranch elseBranch,
          guilty = .cond label condition thenBranch elseBranch) ∧
      (t.Unshared → picture.marks.map (fun mark => some mark.span) =
        (failure.underlined path).map (t.columnsAt? 0)) := by
  have hwritable : t.Writable := ⟨hterm, fun type htype => (hgiven.declared type htype).1⟩
  obtain ⟨inForce, fault, picture, numbering, hjudged, rfl, hpicture, hreport⟩ :=
    check_error_of_fault hwritable hnamed hgiven hrun
  obtain ⟨layout, hlayout, -⟩ := hwritable.layout_ok
  obtain ⟨halike, path, hpath⟩ := hjudged.fault_at
  obtain ⟨htexts, hspans⟩ := fault.marks_of_picture hlayout hpicture
  have hpaths := fault.underlined_paths halike hpath
  refine ⟨picture, fault.guilty, path, inForce, layout, hreport, fault.failure_guilty, hpath,
    Complaint.footer_of_picture hpicture, hlayout, ?_, ?_, ?_, ?_⟩
  · intro mark hmark
    rw [Term.render, hlayout, htexts mark hmark]
    rfl
  · have hbind := congrArg (List.map fun found => found.bind fun u => layout.span? u.label) hpaths
    rw [List.map_map, List.map_map] at hbind
    exact hspans.trans hbind.symm
  · intro hkind hmismatch
    cases halike with
    | branches => exact ⟨_, _, _, _, rfl⟩
    | unbound | notAFunction | notAPair => cases hkind
    | mismatch => cases hmismatch
  · intro hunshared
    rw [hspans]
    exact Term.spans_of_unshared hlayout hunshared hpaths

/-- The branches of a conditional below a binder differ: both are underlined
where they stand, and the parameter is in scope. -/
theorem check_error_pictured_branches :
    let x : Name := ⟨"x", by decide⟩
    let branches : Term := .cond 5 (.truth 0 true) (.ident 1 x)
      (.app 4 (.builtin 2 .isZero) (.ident 3 x))
    let t : Term := .fn 6 x .integer branches
    ∃ number failure after picture path inForce,
      (check (.term t) (.scope .empty)).run (start .quiet []) =
        .ok (.error number failure) after ∧
      failure.kind = .conditionalBranchMismatch ∧
      after.report.issues = [.picture picture] ∧
      t.judgedAt? .empty path = some (inForce, branches) ∧
      inForce.footer = .ok picture.footer ∧
      picture.marks.map (fun mark => some mark.span) =
        [path ++ [1], path ++ [2]].map (t.columnsAt? 0) := by
  intro x branches t
  obtain ⟨number, after, hrun⟩ : ∃ number after,
      (check (.term t) (.scope .empty)).run (start .quiet []) =
        .ok (.error number ⟨.conditionalBranchMismatch, .term branches, .unstated⟩) after :=
    ⟨_, _, rfl⟩
  have hnamed : Numbering.initial.Extends (start .quiet []).workshop.numbering := .refl _
  have hgiven : GivenTypes (fun type => type.Renderable ∧ type.ErrorFree) t .empty := by
    refine ⟨?_, Scope.all_empty _⟩
    intro type htype
    obtain rfl : type = .integer := by simpa [Term.declared, t, branches] using htype
    exact (Stable.renderable.and .errorFree).named hnamed (by simp)
  have hterm : t.InLanguage := by simp [Term.InLanguage, t, branches]
  obtain ⟨picture, guilty, path, inForce, layout, hreport, ⟨⟩, hpath, hfooter, -, -, -, -,
    hcolumns⟩ := check_error_pictured hterm hnamed hgiven hrun
  refine ⟨number, _, after, picture, path, inForce, hrun, rfl, ?_, hpath, hfooter, ?_⟩
  · rw [hreport]
    rfl
  · exact hcolumns (by decide)

end Session

end PCFTyping
