import PCFTyping.Proofs.Session.Consistency
import PCFTyping.Proofs.Session.PicturesAlike

/-!
What equal types hide.

All error types are equal, so equal types may differ in what the errors inside
them blame. Take two terms and two scopes that differ in nothing but equal types
(`EqualTypes`). `Session.check_of_equal_types` says that their checks go the same
way: both pass a type on, and the two types are equal; or both find a fault at
one path, make equal error types of it and file one picture.

What is hidden matters in one way. A check that comes across an error asks for
its explanation, and explaining it may fail; `Session.check_of_hidden_blame` is
such a pair of checks.
-/

namespace PCFTyping

/-! ### Two judgements -/

/-- Types of one shape that can be rendered, each known to a table of its own. -/
def SameLook (now now' : Numbering) (s s' : Ty) : Prop :=
  SameShape now now' s s' ∧ s.Renderable ∧ s'.Renderable

namespace SameLook

variable {now now' : Numbering} {s s' : Ty}

theorem congruent : Congruent
    (fun now now' => Numbering.initial.Extends now ∧ Numbering.initial.Extends now') SameLook :=
  Congruent.sameShape.both .renderable fun h => h

theorem render_eq (h : SameLook now now' s s') : s.render = s'.render :=
  h.2.1.render_eq_of_shape_eq h.2.2 h.1.2.2

/-- In a table that has grown out of the other, types of one shape are equal. -/
theorem sameClass (h : SameLook now now' s s') (hgrow : now.Extends now') :
    s.sameClass s' = true :=
  ((h.1.1.mono hgrow).sameClass_iff h.1.2.1).mpr h.1.2.2

theorem isError_eq (h : SameLook now now' s s') : s.isError = s'.isError := by
  have hform := congruent.form h
  cases s <;> cases s' <;> first | rfl | exact hform.elim

end SameLook

/-- A judgement only adds to the table. -/
theorem Term.Judged.grows {P : Numbering → Ty → Prop} (stable : Stable P) {t : Term}
    {scope : Scope} {start after : Numbering} {verdict : Except Halt Ty}
    (hready : Underway P scope t start start) (h : t.Judged scope start verdict after) :
    start.Extends after := by
  have hkeeps := t.judge_keeps stable scope start hready
  cases verdict with
  | ok type => exact (hkeeps.of_ok h).1
  | error halt => exact (hkeeps.of_error h).1

/-- Two judgements that go the same way: both come to types that look the same,
or to a fault of one sort at one path. -/
inductive SameWay (now now' : Numbering) (scope : Scope) (t : Term) (scope' : Scope) (t' : Term) :
    Except Halt Ty → Except Halt Ty → Prop where
  | found {verdict verdict' type type'} : Session.Found verdict type →
      Session.Found verdict' type' → SameLook now now' type type' →
      SameWay now now' scope t scope' t' verdict verdict'
  | fault {inForce fault inForce' fault' path} :
      SameFault (SameLook now now') scope t scope' t' inForce fault inForce' fault' path →
      SameWay now now' scope t scope' t' (.error (.fault inForce fault))
        (.error (.fault inForce' fault'))

/-- Alike terms of the language are judged the same way in scopes of types that
agree. -/
theorem Term.judged_same_way {t t' : Term} {scope scope' : Scope}
    {start start' after : Numbering} {verdict : Except Halt Ty}
    (hnamed : Numbering.initial.Extends start) (hnamed' : Numbering.initial.Extends start')
    (hterm : t.InLanguage) (honly : scope.OnlyTypes) (hbound : scope.All Ty.Renderable)
    (hterms : t.Alike (SameLook start start') t')
    (hscopes : scope.Agrees (SameLook start start') t.visible scope')
    (hjudged : t.Judged scope start verdict after) :
    ∃ verdict' after', t'.Judged scope' start' verdict' after' ∧ start'.Extends after' ∧
      SameWay after after' scope t scope' t' verdict verdict' := by
  have htandem := t.judge_agrees SameLook.congruent t' scope scope' start start'
    ⟨⟨.refl _, .refl _, hnamed, hnamed'⟩, hterms, hscopes⟩
  have hkeeps := t.judge_keeps .renderable scope start
    ⟨hnamed, .refl _, hterms.declared fun _ _ h => h.2.1, hbound⟩
  cases verdict with
  | ok type =>
    obtain ⟨type', after', hrun, hgrown, htype⟩ := htandem.of_ok hjudged
    exact ⟨.ok type', after', hrun, hgrown.right, .found .derived .derived htype⟩
  | error halt =>
    obtain ⟨halt', after', hrun, hgrown, hcorresponds⟩ := htandem.of_error hjudged
    refine ⟨.error halt', after', hrun, hgrown.right, ?_⟩
    cases halt with
    | inherited number failure =>
      cases halt' with
      | inherited number' failure' => exact .found .inherited .inherited hcorresponds
      | _ => exact hcorresponds.elim
    | fault inForce fault =>
      cases halt' with
      | fault inForce' fault' =>
        obtain ⟨halike, path, hpath, hpath'⟩ := hcorresponds
        exact .fault ⟨halike, hpath, hpath'⟩
      | _ => exact hcorresponds.elim
    | noRule u => exact ((hkeeps.of_error hjudged).2 hterm).elim
    | notAType u => exact ((hkeeps.of_error hjudged).2 honly).elim

/-! ### Two checks -/

/-- Equal types that can be rendered, each known to a table of its own. -/
structure EqualTypes (now now' : Numbering) (s s' : Ty) : Prop where
  equal : s.sameClass s' = true
  known : now.Knows s
  known' : now'.Knows s'
  renderable : s.Renderable
  renderable' : s'.Renderable

theorem EqualTypes.sameLook {now now' : Numbering} {s s' : Ty} (h : EqualTypes now now' s s')
    (hgrow : now.Extends now') : SameLook now now' s s' :=
  ⟨⟨h.known, h.known', ((h.known.mono hgrow).sameClass_iff h.known').mp h.equal⟩, h.renderable,
    h.renderable'⟩

/-- Error types that are made one after the other are equal. -/
theorem Numbering.sameClass_of_made {numbering numbering' : Numbering}
    (h : (numbering.insert .error).Extends numbering') (failure failure' : Failure) :
    (Ty.error (numbering.number .error) failure).sameClass
      (.error (numbering'.number .error) failure') = true := by
  have hknown := (numbering.makes_error failure).2.mono (h.trans (numbering'.extends_insert .error))
  have hknown' := (numbering'.makes_error failure').2
  exact (hknown.sameClass_iff hknown').mpr rfl

namespace Session

variable {session : Session} {t : Term} {scope inForce : Scope} {fault : Fault} {type : Ty}
  {verdict : Except Halt Ty} {numbering : Numbering} {picture : Picture}

theorem Found.unique {type' : Ty} (h : Found verdict type) (h' : Found verdict type') :
    type = type' := by
  cases h <;> cases h' <;> rfl

/-- The table that a check leaves, whether or not there is a result. -/
def tableAfter (session : Session) (t : Term) (scope : Scope) : Numbering :=
  match (check (.term t) (.scope scope)).run session with
  | .ok _ after => after.workshop.numbering
  | .error _ after => after.workshop.numbering

theorem tableAfter_of_ensures {P : Numbering → Prop}
    (h : Ensures (check (.term t) (.scope scope)) session
      (fun _ after => P after.workshop.numbering) (fun _ after => P after.workshop.numbering)) :
    P (session.tableAfter t scope) := by
  unfold tableAfter
  split
  · rename_i hrun
    exact h.of_ok hrun
  · rename_i hrun
    exact h.of_error hrun

/-- A check passes a type on, and the report gains nothing. If the type is an
error, it was there before, and the check stops if the error cannot be
explained. -/
structure Passes (session : Session) (t : Term) (scope : Scope) (type : Ty) : Prop where
  given : type.isError = true → WasGiven t scope type
  returns : (∀ number failure, type = .error number failure → Succeeds failure.explain) →
    Completes (check (.term t) (.scope scope)) session fun result after =>
      result = type ∧ session.Adds none after
  stops : ∀ number failure stop, type = .error number failure → failure.explain = .error stop →
    ∃ after, (check (.term t) (.scope scope)).run session = .error stop after ∧
      session.Adds none after

/-- A result is the type that is passed on. -/
theorem Passes.of_ok (h : session.Passes t scope type) {result : Ty} {after : Session}
    (hrun : (check (.term t) (.scope scope)).run session = .ok result after) :
    result = type ∧ session.Adds none after := by
  refine (h.returns ?_).of_ok hrun
  rintro number failure rfl
  cases hexplain : failure.explain with
  | ok text => exact ⟨text, rfl⟩
  | error stop =>
    obtain ⟨_, hstop, -⟩ := h.stops number failure stop rfl hexplain
    cases hrun.symm.trans hstop

/-- A check makes an error type and files a picture. -/
abbrev Files (session : Session) (t : Term) (scope : Scope) (type : Ty) (picture : Picture) :
    Prop :=
  Completes (check (.term t) (.scope scope)) session fun result after =>
    result = type ∧ session.Adds (some picture) after

/-- A type that is found is passed on, and the check leaves the table of the
judgement. -/
theorem passes_of_found (hquiet : session.report.verbose = false) (hfound : Found verdict type)
    (hgiven : type.isError = true → WasGiven t scope type)
    (hjudged : t.Judged scope session.workshop.numbering verdict numbering) :
    session.Passes t scope type ∧ session.tableAfter t scope = numbering := by
  have hloud : session.report.verbose ≠ true := by simp [hquiet]
  have hpassed := check_passes hfound (absurd · hloud) (absurd · hloud) hjudged
  refine ⟨⟨hgiven, ?_, ?_⟩, ?_⟩
  · intro hexplained
    apply hpassed.mono
    · rintro result after ⟨rfl, hspeaks, -⟩
      exact ⟨rfl, adds_none hspeaks.report⟩
    · rintro stop after ⟨-, number, failure, htype, hstop⟩
      obtain ⟨text, htext⟩ := hexplained number failure htype
      cases htext.symm.trans hstop
  · rintro number failure stop rfl hstop
    cases hrun : (check (.term t) (.scope scope)).run session with
    | ok result after =>
      obtain ⟨-, -, hexplained⟩ := hpassed.of_ok hrun
      obtain ⟨text, htext⟩ := hexplained number failure rfl
      cases htext.symm.trans hstop
    | error stop' after =>
      obtain ⟨hspeaks, number', failure', ⟨⟩, hstop'⟩ := hpassed.of_error hrun
      cases hstop.symm.trans hstop'
      exact ⟨after, rfl, adds_none hspeaks.report⟩
  · apply tableAfter_of_ensures (P := (· = numbering))
    apply hpassed.mono
    · rintro result after ⟨-, hspeaks, -⟩
      rw [hspeaks.workshop]
      rfl
    · rintro stop after ⟨hspeaks, -⟩
      rw [hspeaks.workshop]
      rfl

/-- A fault is filed, and the check leaves a table that knows the error type. -/
theorem files_of_fault (hlimit : session.report.limit = none) (ht : t.Writable)
    (hfault : fault.Concerns Ty.Renderable t)
    (hpicture : fault.complaint.picture (.scope inForce) (.term t) = .ok picture)
    (hjudged : t.Judged scope session.workshop.numbering (.error (.fault inForce fault))
      numbering) :
    session.Files t scope (.error (numbering.number .error) fault.failure) picture ∧
      session.tableAfter t scope = numbering.insert .error := by
  have hfiled := check_files ht hfault hpicture hjudged
  have hroom : (session.withPicture picture).report.atLimit = false := by
    simp [withPicture, Report.atLimit, Report.add, hlimit]
  constructor
  · apply hfiled.mono
    · rintro result after ⟨rfl, hspeaks, -⟩
      exact ⟨rfl, hspeaks.report⟩
    · rintro stop after ⟨-, -, hfull⟩
      cases hfull.symm.trans hroom
  · apply tableAfter_of_ensures (P := (· = numbering.insert .error))
    apply hfiled.mono
    · rintro result after ⟨-, hspeaks, -⟩
      rw [hspeaks.workshop]
      rfl
    · rintro stop after ⟨-, -, hfull⟩
      cases hfull.symm.trans hroom

/-- The given types are renderable and known to the table. -/
abbrev KnowsGiven (session : Session) (t : Term) (scope : Scope) : Prop :=
  GivenTypes (fun type => session.workshop.numbering.Knows type ∧ type.Renderable) t scope

/-- A check passes on what the judgement finds, or files its fault. It leaves the
table of the judgement, which then also knows the error type. -/
theorem passes_or_files (hquiet : session.report.verbose = false)
    (hlimit : session.report.limit = none)
    (hnamed : Numbering.initial.Extends session.workshop.numbering) (hterm : t.InLanguage)
    (hscope : scope.OnlyTypes) (hready : session.KnowsGiven t scope)
    (hjudged : t.Judged scope session.workshop.numbering verdict numbering) :
    (∃ type, Found verdict type ∧ session.Passes t scope type ∧
      session.tableAfter t scope = numbering) ∨
    ∃ inForce fault picture, verdict = .error (.fault inForce fault) ∧
      fault.complaint.picture (.scope inForce) (.term t) = .ok picture ∧
      session.Files t scope (.error (numbering.number .error) fault.failure) picture ∧
      session.tableAfter t scope = numbering.insert .error := by
  have hwritable : t.Writable := ⟨hterm, fun type htype => (hready.declared type htype).2⟩
  have hgiven := hready.and (@WasGiven.inherits t scope)
  rcases hjudged.found_or_pictured ((Stable.knows.and .renderable).and Ty.Inherits.stable)
    (fun _ _ h => h.1.2) ⟨hnamed, .refl _, hgiven⟩ hterm hscope with
    ⟨type, hfound, -, hinherits⟩ | ⟨inForce, fault, picture, rfl, hfault, hpicture⟩
  · exact .inl ⟨type, hfound, passes_of_found hquiet hfound hinherits.self hjudged⟩
  · exact .inr ⟨inForce, fault, picture, rfl, hpicture,
      files_of_fault hlimit hwritable hfault hpicture hjudged⟩

/-- A check leaves a table that has grown out of that of the judgement. -/
theorem extends_tableAfter (hnamed : Numbering.initial.Extends session.workshop.numbering)
    (hterm : t.InLanguage) (hscope : scope.OnlyTypes) (hready : session.KnowsGiven t scope)
    (hjudged : t.Judged scope session.workshop.numbering verdict numbering) :
    numbering.Extends (session.tableAfter t scope) := by
  have hwritable : t.Writable := ⟨hterm, fun type htype => (hready.declared type htype).2⟩
  apply tableAfter_of_ensures (P := numbering.Extends)
  rcases hjudged.found_or_pictured (Stable.knows.and .renderable) (fun _ _ h => h.2)
    ⟨hnamed, .refl _, hready⟩ hterm hscope with
    ⟨type, hfound, -, hrenderable⟩ | ⟨inForce, fault, picture, rfl, hfault, hpicture⟩
  · refine (check_passes hfound (fun _ => hwritable.render_ok)
      (fun _ _ => hrenderable.render_ok) hjudged).mono ?_ ?_
    · rintro result after ⟨-, hspeaks, -⟩
      rw [hspeaks.workshop]
      exact .refl _
    · rintro stop after ⟨hspeaks, -⟩
      rw [hspeaks.workshop]
      exact .refl _
  · refine (check_files hwritable hfault hpicture hjudged).mono ?_ ?_
    · rintro result after ⟨-, hspeaks, -⟩
      rw [hspeaks.workshop]
      exact numbering.extends_insert _
    · rintro stop after ⟨-, hspeaks, -⟩
      rw [hspeaks.workshop]
      exact .refl _

end Session

/-- Errors of one kind about equal types, which blame the terms at one path. -/
structure Failure.Alike (scope : Scope) (t : Term) (scope' : Scope) (t' : Term)
    (failure failure' : Failure) : Prop where
  kind : failure.kind = failure'.kind
  mismatch : failure.mismatch.Alike (fun s s' => s.sameClass s' = true) failure'.mismatch
  place : ∃ path inForce guilty inForce' guilty',
    failure.guilty = .term guilty ∧ t.judgedAt? scope path = some (inForce, guilty) ∧
    failure'.guilty = .term guilty' ∧ t'.judgedAt? scope' path = some (inForce', guilty')

namespace Session

variable {session session' : Session} {t t' : Term} {scope scope' : Scope}

/-- **What is hidden inside equal types hardly matters.** Take two terms and two
scopes that differ in nothing but equal types, and check one after the other.
Either both checks pass a type on and file nothing. The two types are equal, and
both or neither are errors. A check only stops here, if it does, because an error
that was there before cannot be explained. Or both checks find a fault at one
path. Then they give equal error types of one kind, about equal types, and file
pictures with the same words; if the terms share their sub-terms alike, the
pictures are the same. -/
theorem check_of_equal_types (hquiet : session.report.verbose = false)
    (hquiet' : session'.report.verbose = false) (hlimit : session.report.limit = none)
    (hlimit' : session'.report.limit = none)
    (hnamed : Numbering.initial.Extends session.workshop.numbering)
    (hlater : (session.tableAfter t scope).Extends session'.workshop.numbering)
    (hterm : t.InLanguage) (hempty : scope.outermost = .empty)
    (hterms : t.Alike (EqualTypes session.workshop.numbering session'.workshop.numbering) t')
    (hscopes : scope.Alike (EqualTypes session.workshop.numbering session'.workshop.numbering)
      scope') :
    (∃ type type', type.sameClass type' = true ∧ type.isError = type'.isError ∧
      session.Passes t scope type ∧ session'.Passes t' scope' type') ∨
    ∃ number failure picture number' failure' picture',
      (Ty.error number failure).sameClass (.error number' failure') = true ∧
      failure.Alike scope t scope' t' failure' ∧
      session.Files t scope (.error number failure) picture ∧
      session'.Files t' scope' (.error number' failure') picture' ∧
      picture.Like (fun _ _ => True) picture' ∧ (t.SharesLike t' → picture = picture') := by
  obtain ⟨verdict, numbering, hjudged⟩ := t.exists_judged scope session.workshop.numbering
  have hready : session.KnowsGiven t scope :=
    ⟨hterms.declared fun _ _ h => ⟨h.known, h.renderable⟩,
      hscopes.all hempty fun _ _ h => ⟨h.known, h.renderable⟩⟩
  have honly := Scope.onlyTypes_of_empty hempty
  have hgrow : numbering.Extends session'.workshop.numbering :=
    (extends_tableAfter hnamed hterm honly hready hjudged).trans hlater
  have hgrown : session.workshop.numbering.Extends numbering :=
    hjudged.grows (Stable.knows.and .renderable) ⟨hnamed, .refl _, hready⟩
  have hbetween := hgrown.trans hgrow
  -- The second check starts from a table in which equal types have one shape.
  have hterms' := hterms.mono fun _ _ h => h.sameLook hbetween
  have hscopes' := hscopes.mono fun _ _ h => h.sameLook hbetween
  obtain ⟨verdict', numbering', hjudged', hgrown', hway⟩ := Term.judged_same_way hnamed
    (hnamed.trans hbetween) hterm honly (hready.bound.mono fun _ h => h.2) hterms'
    (fun name _ => hscopes'.meaning hempty name) hjudged
  have hempty' : scope'.outermost = .empty := hscopes.outermost.symm.trans hempty
  have hready' : session'.KnowsGiven t' scope' :=
    ⟨hterms.symm.declared fun _ _ h => ⟨h.known', h.renderable'⟩,
      hscopes.symm.all hempty' fun _ _ h => ⟨h.known', h.renderable'⟩⟩
  have hleft := passes_or_files hquiet hlimit hnamed hterm honly hready hjudged
  have hright := passes_or_files hquiet' hlimit' (hnamed.trans hbetween) (hterms.inLanguage hterm)
    (Scope.onlyTypes_of_empty hempty') hready' hjudged'
  have hlast : numbering.Extends numbering' := hgrow.trans hgrown'
  cases hway with
  | found hfound hfound' hlook =>
    refine .inl ⟨_, _, hlook.sameClass hlast, hlook.isError_eq, ?_, ?_⟩
    · rcases hleft with ⟨type, htype, hpasses, -⟩ | ⟨_, _, _, rfl, -⟩
      · rw [hfound.unique htype]
        exact hpasses
      · cases hfound
    · rcases hright with ⟨type', htype', hpasses', -⟩ | ⟨_, _, _, rfl, -⟩
      · rw [hfound'.unique htype']
        exact hpasses'
      · cases hfound'
  | @fault inForce fault inForce' fault' path hsame =>
    rcases hleft with ⟨_, ⟨⟩, -⟩ | ⟨_, _, picture, ⟨⟩, hpicture, hfiles, htable⟩
    rcases hright with ⟨_, ⟨⟩, -⟩ | ⟨_, _, picture', ⟨⟩, hpicture', hfiles', -⟩
    rw [htable] at hlater
    have hequal := Numbering.sameClass_of_made (hlater.trans hgrown') fault.failure fault'.failure
    have hlike := hsame.picture_like (fun _ _ h => h.render_eq)
      (hterms'.mono fun _ _ h => SameLook.congruent.mono hgrown hgrown' h)
      (hscopes'.mono fun _ _ h => SameLook.congruent.mono hgrown hgrown' h) hpicture hpicture'
    obtain ⟨hkind, hmismatch⟩ := (hsame.alike.mono fun _ _ h => h.sameClass hlast).failure_like
    refine .inr ⟨_, _, picture, _, _, picture', hequal, ⟨hkind, hmismatch, ?_⟩, hfiles, hfiles',
      hlike.mono fun _ _ _ => trivial, ?_⟩
    · exact ⟨path, inForce, fault.guilty, inForce', fault'.guilty, fault.failure_guilty,
        hsame.place, fault'.failure_guilty, hsame.place'⟩
    · exact fun hshares => (hlike.mono fun _ _ hspans => hspans.same hshares).eq

/-- A function that takes pairs is called with a truth value. The first component
of the pair is an error, in one scope without blame and in the other with a
number to blame: both checks return, with equal results and equal reports. -/
theorem check_of_equal_types_argument :
    let f : Name := ⟨"f", by decide⟩
    let t : Term := .app 2 (.ident 0 f) (.truth 1 true)
    let bound (failure : Failure) : Scope :=
      Scope.empty.extend "f" (.arrow 6 (.pair 5 (.error 4 failure) .integer) .integer)
    let scope := bound ⟨.notAPair, .plain .null, .unstated⟩
    let scope' := bound ⟨.notAFunction, .term (.number 7 1), .unstated⟩
    let session := (start .quiet []).withTable
      (((Numbering.initial.insert .error).insert (.pair 4 0)).insert (.arrow 5 0))
    ∃ result after result' after',
      (check (.term t) (.scope scope)).run session = .ok result after ∧
      (check (.term t) (.scope scope')).run session = .ok result' after' ∧
      result.sameClass result' = true ∧ after.report.issues = after'.report.issues := by
  intro f t bound scope scope' session
  have hequal : ∀ failure failure', EqualTypes session.workshop.numbering
      session.workshop.numbering
      (.arrow 6 (.pair 5 (.error 4 failure) .integer) .integer)
      (.arrow 6 (.pair 5 (.error 4 failure') .integer) .integer) := by
    have hknown : ∀ failure, session.workshop.numbering.Knows
        (.arrow 6 (.pair 5 (.error 4 failure) .integer) .integer) := fun _ =>
      Ty.everywhere_arrow.mpr ⟨rfl, Ty.everywhere_pair.mpr ⟨rfl, Ty.everywhere_error.mpr rfl,
        Ty.everywhere_prim.mpr rfl⟩, Ty.everywhere_prim.mpr rfl⟩
    have hrenderable : ∀ failure,
        (Ty.arrow 6 (.pair 5 (.error 4 failure) .integer) .integer).Renderable := by
      simp [Ty.Renderable, Ty.integer, Ty.HasWords]
    exact fun failure failure' =>
      ⟨rfl, hknown failure, hknown failure', hrenderable failure, hrenderable failure'⟩
  have hnamed : Numbering.initial.Extends session.workshop.numbering :=
    ((Numbering.initial.extends_insert _).trans (Numbering.extends_insert _ _)).trans
      (Numbering.extends_insert _ _)
  have hlater : (session.tableAfter t scope).Extends session.workshop.numbering := .refl _
  have hscopes : scope.Alike (EqualTypes session.workshop.numbering session.workshop.numbering)
      scope' := (Scope.Alike.empty _).extend "f" (hequal _ _)
  have hterms : t.Alike (EqualTypes session.workshop.numbering session.workshop.numbering) t :=
    .app .ident .truth
  obtain ⟨result, after, hrun⟩ : ∃ result after,
      (check (.term t) (.scope scope)).run session = .ok result after := ⟨_, _, rfl⟩
  obtain ⟨result', after', hrun'⟩ : ∃ result' after',
      (check (.term t) (.scope scope')).run session = .ok result' after' := ⟨_, _, rfl⟩
  refine ⟨result, after, result', after', hrun, hrun', ?_⟩
  rcases check_of_equal_types rfl rfl rfl rfl hnamed hlater ⟨trivial, trivial⟩ rfl hterms
    hscopes with
    ⟨type, type', hsame, -, hpasses, hpasses'⟩ |
    ⟨number, failure, picture, number', failure', picture', hsame, -, hfiles, hfiles', -, hpictures⟩
  · obtain ⟨rfl, hadds⟩ := hpasses.of_ok hrun
    obtain ⟨rfl, hadds'⟩ := hpasses'.of_ok hrun'
    rw [hadds, hadds']
    exact ⟨hsame, rfl⟩
  · obtain ⟨rfl, hadds⟩ := hfiles.of_ok hrun
    obtain ⟨rfl, hadds'⟩ := hfiles'.of_ok hrun'
    rw [hadds, hadds', hpictures (.refl t)]
    exact ⟨hsame, rfl⟩

/-- Two functions declare equal error types for their parameter, and the second
one blames a term without a layout. The first check gives the error, the second
stops over its explanation. -/
theorem check_of_hidden_blame :
    let x : Name := ⟨"x", by decide⟩
    let session := (start .quiet []).withTable (Numbering.initial.insert .error)
    let t : Term := .fn 1 x (.error 4 ⟨.notAPair, .plain .null, .unstated⟩) (.ident 0 x)
    let t' : Term := .fn 1 x (.error 4 ⟨.notAPair, .term (.bare 2), .unstated⟩) (.ident 0 x)
    t.InLanguage ∧
      t.Alike (EqualTypes session.workshop.numbering session.workshop.numbering) t' ∧
      (∃ result after, (check (.term t) (.scope .empty)).run session = .ok result after ∧
        result.isError = true) ∧
      ∃ after, (check (.term t') (.scope .empty)).run session =
        .error (.noLayout "Term") after := by
  intro x session t t'
  have hknown : ∀ failure, session.workshop.numbering.Knows (.error 4 failure) :=
    fun _ => Ty.everywhere_error.mpr rfl
  have hrenderable : ∀ failure, (Ty.error 4 failure).Renderable :=
    fun _ => Ty.everywhere_error.mpr trivial
  refine ⟨trivial, .fn ?_ .ident, ⟨_, _, rfl, rfl⟩, _, rfl⟩
  exact ⟨rfl, hknown _, hknown _, hrenderable _, hrenderable _⟩

end Session

end PCFTyping
