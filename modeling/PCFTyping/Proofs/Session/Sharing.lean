import PCFTyping.Proofs.Assembly
import PCFTyping.Proofs.Session.Console
import PCFTyping.Proofs.Session.Hidden

/-!
What is shared does not matter.

Take two terms that are one term when written out in full: alike, with declared
types of one shape. Which of their sub-terms are one object is free. They are
judged the same way (`Term.judged_same_way`), and what their checks find agrees
in all that is said (`SameFinding`): the same type, or errors of one kind with
one guilty text, about the same types, and pictures with the same words, whose
underlines are as wide as each other. Only the column in which an underline
starts, and the first path to the guilty term, may depend on what is shared; if
no object occurs twice, they are the same too.
-/

namespace PCFTyping

/-! ### Findings that say the same -/

/-- Errors of two terms that say the same: they blame the nodes at one path, which
have one text, and speak of types that are the same. -/
structure Failure.SaysLike (T : Ty → Ty → Prop) (t t' : Term) (failure failure' : Failure) :
    Prop where
  kind : failure.kind = failure'.kind
  guilty : failure.guilty.shown = failure'.guilty.shown
  mismatch : failure.mismatch.Alike T failure'.mismatch
  place : ∃ path u u', failure.guilty = .term u ∧ t.follow? path = some u ∧
    failure'.guilty = .term u' ∧ t'.follow? path = some u'
  firstPath : t.Unshared → t'.Unshared → failure.path? t = failure'.path? t'

/-- What two checks find is the same, up to where underlines start. -/
inductive SameFinding (T : Ty → Ty → Prop) (t t' : Term) :
    Ty → List Issue → Ty → List Issue → Prop where
  | typed {type type' : Ty} : type.isError = false → type'.isError = false → T type type' →
      SameFinding T t t' type [] type' []
  | failed {number number' : Nat} {failure failure' : Failure} {picture picture' : Picture} :
      failure.SaysLike T t t' failure' →
      picture.Like (fun span span' => span.width = span'.width) picture' →
      (t.Unshared → t'.Unshared → picture = picture') →
      SameFinding T t t' (.error number failure) [.picture picture] (.error number' failure')
        [.picture picture']

section Faults

variable {R T : Ty → Ty → Prop} {scope inForce inForce' : Scope} {t t' : Term}
  {fault fault' : Fault} {path : Path}

/-- Faults of one sort at one path of alike terms blame one text. -/
theorem SameFault.guilty_render_eq (hR : ∀ s s', R s s' → s.render = s'.render)
    (h : SameFault R scope t scope t' inForce fault inForce' fault' path)
    (hterms : t.Alike R t') (ht : t.Legible) (ht' : t'.Legible) :
    fault.guilty.render = fault'.guilty.render := by
  have hplace := Term.follow?_of_judgedAt? h.place
  have hplace' := Term.follow?_of_judgedAt? h.place'
  exact (hterms.follow? hplace hplace').render_eq hR (ht.within ⟨path, hplace⟩)
    (ht'.within ⟨path, hplace'⟩)

/-- They make errors that say the same. -/
theorem SameFault.saysLike (h : SameFault R scope t scope t' inForce fault inForce' fault' path)
    (hT : ∀ s s', R s s' → T s s') (hguilty : fault.guilty.render = fault'.guilty.render) :
    fault.failure.SaysLike T t t' fault'.failure := by
  obtain ⟨hkind, hmismatch⟩ := (h.alike.mono hT).failure_like
  have hplace := Term.follow?_of_judgedAt? h.place
  have hplace' := Term.follow?_of_judgedAt? h.place'
  refine ⟨hkind, ?_, hmismatch, ⟨path, fault.guilty, fault'.guilty, fault.failure_guilty, hplace,
    fault'.failure_guilty, hplace'⟩, ?_⟩
  · rw [fault.failure_guilty, fault'.failure_guilty]
    exact hguilty
  · intro hunshared hunshared'
    rw [Failure.path?, Failure.path?, fault.failure_guilty, fault'.failure_guilty]
    exact (hunshared.pathOf?_eq hplace).trans (hunshared'.pathOf?_eq hplace').symm

end Faults

theorem Checkable.knowsGiven {session : Session} {t : Term} {scope : Scope}
    (h : Checkable session.workshop.numbering t scope) : session.KnowsGiven t scope :=
  h.given.mono fun _ hp => ⟨hp.1, hp.2.1⟩

namespace Session

variable {session session' : Session} {t t' : Term} {scope : Scope}

/-- A check files its news and gives its result. It is stopped instead if there
are news and the report is at the brink, and they are filed all the same. -/
def Yields (session : Session) (t : Term) (scope : Scope) (result : Ty) (news : List Issue) :
    Prop :=
  Ensures (check (.term t) (.scope scope)) session
    (fun found after => found = result ∧ session.Gains news after ∧
      ¬ (news ≠ [] ∧ session.AtBrink))
    (fun stop after => stop = .tooManyIssues ∧ session.Gains news after ∧ news ≠ [] ∧
      session.AtBrink)

theorem yields_of_finding {result : Ty} {news : List Issue}
    (ht : Checkable session.workshop.numbering t scope)
    (h : Finding session.workshop.numbering t scope result news) :
    session.Yields t scope result news := by
  have hnews : IllTyped scope t ↔ news ≠ [] := by
    rcases h.news_cases with ⟨htyped, rfl⟩ | ⟨hill, picture, rfl⟩
    · simp [htyped]
    · simp [hill]
  refine (check_finds ht h).mono ?_ ?_
  · rintro found after ⟨hfound, hgains, hroom⟩
    exact ⟨hfound, hgains, fun h => hroom ⟨hnews.mpr h.1, h.2⟩⟩
  · rintro stop after ⟨hstop, hgains, hill, hbrink⟩
    exact ⟨hstop, hgains, hnews.mp hill, hbrink⟩

/-- **What is shared does not matter.** Two terms that are alike, with declared
types of one shape, are checked in one scope, in two sessions with any settings.
What the checks find says the same, and it has one text for its verdict. -/
theorem check_of_sharing (ht : Checkable session.workshop.numbering t scope)
    (ht' : Checkable session'.workshop.numbering t' scope)
    (hterms : t.Alike (fun s s' => s.shape = s'.shape) t')
    (hobjects : Term.Coherent [t]) (hobjects' : Term.Coherent [t']) :
    ∃ result news result' news' words,
      session.Yields t scope result news ∧ session'.Yields t' scope result' news' ∧
      SameFinding (OneType (session.tableAfter t scope) (session'.tableAfter t' scope)) t t'
        result news result' news' ∧
      result.verdict = .ok (.text words) ∧ result'.verdict = .ok (.text words) := by
  have hlooks : t.Alike (SameLook session.workshop.numbering session'.workshop.numbering) t' :=
    (hterms.and_declared ht.given.declared ht'.given.declared).mono fun _ _ h =>
      ⟨⟨h.2.1.1, h.2.2.1, h.1⟩, h.2.1.2.1, h.2.2.2.1⟩
  have hscopes : scope.Agrees
      (SameLook session.workshop.numbering session'.workshop.numbering) t.visible scope := by
    intro name _
    refine .refl _ fun type htype => ?_
    have hleft := ht.given.bound name type htype
    have hright := ht'.given.bound name type htype
    exact ⟨⟨hleft.1, hright.1, rfl⟩, hleft.2.1, hright.2.1⟩
  obtain ⟨verdict, after, hjudged⟩ := t.exists_judged scope session.workshop.numbering
  obtain ⟨verdict', after', hjudged', hgrown', hway⟩ := Term.judged_same_way ht.named ht'.named
    ht.inLanguage ht.onlyTypes (ht.given.bound.mono fun _ h => h.2.1) hlooks hscopes hjudged
  have hlater := extends_tableAfter ht.named ht.inLanguage ht.onlyTypes ht.knowsGiven hjudged
  have hlater' :=
    extends_tableAfter ht'.named ht'.inLanguage ht'.onlyTypes ht'.knowsGiven hjudged'
  have hone : ∀ s s', SameLook after after' s s' →
      OneType (session.tableAfter t scope) (session'.tableAfter t' scope) s s' :=
    fun s s' h => (Congruent.sameShape.mono hlater hlater' h.1).oneType
  have hleft := ht.finding_of_judged hjudged
  have hright := ht'.finding_of_judged hjudged'
  cases hway with
  | found hfound hfound' hlook =>
    rcases hleft with ⟨type, rfl, hnoError, hfinding⟩ | ⟨_, _, _, rfl, -⟩
    · rcases hright with ⟨type', rfl, hnoError', hfinding'⟩ | ⟨_, _, _, rfl, -⟩
      · cases hfound
        cases hfound'
        obtain ⟨words, hwords⟩ := hlook.2.1.render_ok
        exact ⟨_, [], _, [], words, yields_of_finding ht hfinding,
          yields_of_finding ht' hfinding', .typed hnoError hnoError' (hone _ _ hlook),
          Ty.verdict_of_render hnoError hwords,
          Ty.verdict_of_render hnoError' (hlook.render_eq ▸ hwords)⟩
      · cases hfound'
    · cases hfound
  | @fault inForce fault inForce' fault' path hsame =>
    rcases hleft with ⟨_, ⟨⟩, -⟩ | ⟨_, _, picture, ⟨⟩, hpicture, hfinding⟩
    rcases hright with ⟨_, ⟨⟩, -⟩ | ⟨_, _, picture', ⟨⟩, hpicture', hfinding'⟩
    -- What is shadowed in the scope may be unknown, so only what is written is compared there.
    have hwritten := hsame.mono fun _ _ h => h.render_eq
    have hterms' := hlooks.mono fun _ _ h => h.render_eq
    have hguilty := hwritten.guilty_render_eq (fun _ _ h => h) hterms' ht.writable.legible
      ht'.writable.legible
    have hscope := Scope.Alike.refl (R := fun s s' => s.render = s'.render) (fun _ => rfl) scope
    have hlike := hwritten.picture_like (fun _ _ h => h) hterms' hscope hpicture hpicture'
    obtain ⟨words, hwords⟩ := hfinding.verdict_ok ht.writable
    refine ⟨_, _, _, _, words, yields_of_finding ht hfinding, yields_of_finding ht' hfinding',
      .failed (hsame.saysLike hone hguilty) ?_ ?_, hwords, ?_⟩
    · exact hlike.mono fun _ _ hspan => hspan.width hobjects hobjects'
    · intro hunshared hunshared'
      exact (hlike.mono fun _ _ hspan => hspan.same (hunshared.sharesLike hunshared')).eq
    · rw [Ty.verdict, ← hwritten.alike.explain_eq (fun _ _ h => h) hguilty]
      exact hwords

/-- The unbound argument of a call is one object with the body of the callee, or
a copy of it. Both errors blame the same text, and the underlines are of one
width; but the first one is below the body, which comes first on the line. -/
theorem check_of_sharing_argument :
    let x : Name := ⟨"x", by decide⟩
    let shared : Term := .app 2 (.fn 1 x .integer (.ident 0 x)) (.ident 0 x)
    let copied : Term := .app 3 (.fn 1 x .integer (.ident 0 x)) (.ident 2 x)
    ∃ number failure after picture number' failure' after' picture',
      (check (.term shared) (.scope .empty)).run (start .quiet []) =
        .ok (.error number failure) after ∧ after.report.issues = [.picture picture] ∧
      (check (.term copied) (.scope .empty)).run (start .quiet []) =
        .ok (.error number' failure') after' ∧ after'.report.issues = [.picture picture'] ∧
      failure.guilty.shown = failure'.guilty.shown ∧
      picture.Like (fun span span' => span.width = span'.width) picture' ∧
      failure.path? shared = some [0, 0] ∧ failure'.path? copied = some [1] ∧
      picture.marks.map (·.span.start) = [16] ∧ picture'.marks.map (·.span.start) = [19] := by
  intro x shared copied
  have hcheckable : ∀ t : Term, t.InLanguage → t.declared = [.integer] →
      Checkable (start .quiet []).workshop.numbering t .empty := by
    intro t hterm hdeclared
    refine ⟨.refl _, hterm, Scope.onlyTypes_empty, ?_, Scope.all_empty _⟩
    rw [hdeclared]
    intro type htype
    cases List.mem_singleton.mp htype
    exact (Stable.knows.and (Stable.renderable.and Stable.errorFree)).named (.refl _) (by simp)
  have hshared : Term.Coherent [shared] := Shelf.coherent_run
    [.ident (.text "x"), .fn (.text "x") (.type .integer) 0, .app 1 0]
    (List.cons_subset.mpr ⟨List.mem_of_getElem? (i := 2) rfl, List.nil_subset _⟩)
  have hcopied : Term.Coherent [copied] := Shelf.coherent_run
    [.ident (.text "x"), .fn (.text "x") (.type .integer) 0, .ident (.text "x"), .app 1 2]
    (List.cons_subset.mpr ⟨List.mem_of_getElem? (i := 3) rfl, List.nil_subset _⟩)
  obtain ⟨result, news, result', news', words, hyields, hyields', hsame, -⟩ := check_of_sharing
    (hcheckable shared (by simp [shared, Term.InLanguage]) rfl)
    (hcheckable copied (by simp [copied, Term.InLanguage]) rfl)
    (.app (.fn rfl .ident) .ident) hshared hcopied
  obtain ⟨number, failure, after, picture, hrun, hissues, hpath, hstart⟩ :
      ∃ number failure after picture, (check (.term shared) (.scope .empty)).run
          (start .quiet []) = .ok (.error number failure) after ∧
        after.report.issues = [.picture picture] ∧ failure.path? shared = some [0, 0] ∧
        picture.marks.map (·.span.start) = [16] := ⟨_, _, _, _, rfl, rfl, rfl, by decide⟩
  obtain ⟨number', failure', after', picture', hrun', hissues', hpath', hstart'⟩ :
      ∃ number failure after picture, (check (.term copied) (.scope .empty)).run
          (start .quiet []) = .ok (.error number failure) after ∧
        after.report.issues = [.picture picture] ∧ failure.path? copied = some [1] ∧
        picture.marks.map (·.span.start) = [19] := ⟨_, _, _, _, rfl, rfl, rfl, by decide⟩
  obtain ⟨rfl, hgains, -⟩ := hyields.of_ok hrun
  obtain ⟨rfl, hgains', -⟩ := hyields'.of_ok hrun'
  rw [hgains.report] at hissues
  rw [hgains'.report] at hissues'
  cases hsame with
  | typed hnoError => cases hnoError
  | failed hsays hlike _ =>
    cases hissues
    cases hissues'
    exact ⟨_, _, _, _, _, _, _, _, hrun, by rw [hgains.report]; rfl, hrun',
      by rw [hgains'.report]; rfl, hsays.guilty, hlike, hpath, hpath', hstart, hstart'⟩

end Session

end PCFTyping
