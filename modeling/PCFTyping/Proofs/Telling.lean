import PCFTyping.Proofs.Columns
import PCFTyping.Proofs.Typing.Judging

/-!
What can be told about a fault.

A fault is told by a picture, whose last lines list the scope, and explained in
one line. What goes into them are the texts of types and terms and the marks of
sub-terms, so each can only fail where one of these does
(`Fault.picture_failsOnly`, `Failure.explain_failsOnly`). Two conclusions are
drawn.

* Everything can be told about a writable term and renderable types
  (`Fault.picture_ok`, `Fault.explain_ok`).
* In general a picture fails only over something without a text
  (`Fault.unwritable_of_picture`), and a fault that can be drawn can be
  explained (`Fault.explain_of_picture`).
-/

namespace PCFTyping

/-! ### Texts and marks -/

/-- A part that cannot be shown has something without a text in it. -/
theorem Part.shown_failsOnly (part : Part) : FailsOnly Stop.Unwritable part.shown := by
  intro stop h
  cases part with
  | plain value => cases h
  | type type =>
    simp only [shown, Ty.render, bind_eq_error_iff] at h
    rcases h with hwritten | ⟨value, -, htext⟩
    · exact Ty.unwritable_of_written hwritten
    · exact Scalar.unwritable_of_requireText htext
  | term t =>
    simp only [shown, Term.render] at h
    cases hlayout : (Part.term t).layout with
    | ok layout =>
      rw [hlayout] at h
      cases h
    | error cause =>
      rw [hlayout] at h
      cases h
      exact (Term.unwritable_of_layout hlayout).2

/-- A type that is no error is displayed as it is written. -/
theorem Ty.verdict_of_render {type : Ty} {words : String} (hnoError : type.isError = false)
    (h : type.render = .ok words) : type.verdict = .ok (.text words) := by
  cases type with
  | error => cases hnoError
  | _ => exact render_eq_ok_iff.mp h

/-- An underlined node has a span on the line of the whole. -/
theorem Mark.of_term_eq_ok {t u : Term} {caption : String} {mark : Mark}
    (h : Mark.of (.term t) (.term u) caption = .ok mark) :
    ∃ layout, (Part.term t).layout = .ok layout ∧ mark.text = layout.text ∧
      mark.caption = caption ∧ layout.span? u.label = some mark.span := by
  unfold Mark.of at h
  obtain ⟨layout, hlayout, hmark⟩ := bind_eq_ok_iff.mp h
  refine ⟨layout, hlayout, ?_⟩
  simp only [Part.label?, Option.bind_some] at hmark
  split at hmark
  · rename_i span hspan
    cases hmark
    exact ⟨rfl, rfl, hspan⟩
  · cases hmark

/-- A sub-term is underlined unless the whole has something without a text in
it. -/
theorem Mark.of_failsOnly {t u : Term} (hu : u.Within t) (caption : String) :
    FailsOnly Stop.Unwritable (Mark.of (.term t) (.term u) caption) := by
  intro stop h
  cases hlayout : (Part.term t).layout with
  | ok layout =>
    obtain ⟨mark, hmark⟩ := (Term.layout_lays hlayout).1.mark_ok hu caption
    cases h.symm.trans hmark
  | error cause =>
    rw [Mark.of, hlayout] at h
    cases h
    exact (Term.unwritable_of_layout hlayout).2

/-! ### Scopes -/

namespace Scope

variable {scope : Scope}

/-- A visible binding is what its name means. -/
theorem lookup_of_mem_bindings {name : String} {type : Ty}
    (h : (name, type) ∈ scope.bindings) : scope.lookup name = some (.type type) := by
  suffices hframes : scope.frames.lookup name = some type by simp [lookup, hframes]
  unfold bindings at h
  generalize scope.frames = frames at h
  induction frames with
  | nil => cases h
  | cons binding rest ih =>
    obtain ⟨bound, boundType⟩ := binding
    rcases List.mem_append.mp h with hrest | hlast
    · obtain ⟨hmem, hne⟩ := List.mem_filter.mp hrest
      have hne : (name == bound) = false := by simpa using hne
      rw [List.lookup_cons, hne]
      exact ih hmem
    · cases List.mem_singleton.mp hlast
      simp

/-- A scope can be listed as far as its types can be shown. -/
theorem footer_failsOnly {P : Stop → Prop}
    (h : scope.All fun type => FailsOnly P (Part.type type).shown) :
    FailsOnly P scope.footer := by
  have hentries : FailsOnly P scope.entries := by
    refine FailsOnly.bind (.mapM ?_) fun _ => .pure _
    intro binding hbinding
    exact FailsOnly.bind (h _ _ (lookup_of_mem_bindings hbinding)) fun _ => .pure _
  unfold footer
  split
  · exact nofun
  · exact hentries.bind fun _ => .pure _

/-- A scope of renderable types can be listed below a picture. -/
theorem footer_ok (h : scope.All Ty.Renderable) : Succeeds scope.footer := by
  refine succeeds_iff_failsOnly.mpr (footer_failsOnly ?_)
  exact h.mono fun type htype => Succeeds.failsOnly htype.render_ok

end Scope

/-! ### Explanations -/

/-- A failure can be explained as far as the guilty part and the types that
disagree can be shown. -/
theorem Failure.explain_failsOnly {P : Stop → Prop} {failure : Failure}
    (hguilty : FailsOnly P failure.guilty.shown)
    (hmismatch : ∀ need got, failure.mismatch = .between need got →
      FailsOnly P need.shown ∧ FailsOnly P got.shown) : FailsOnly P failure.explain := by
  obtain ⟨kind, guilty, mismatch⟩ := failure
  unfold explain
  cases mismatch with
  | unstated =>
    dsimp only
    split
    · exact .pure _
    · exact hguilty.bind fun _ => .pure _
  | between need got =>
    obtain ⟨hneed, hgot⟩ := hmismatch need got rfl
    have hend : ∀ blame : String, FailsOnly P (do
        return kind.name ++ blame ++ (": needed " ++ (← need.shown) ++ " but got " ++
          (← got.shown))) :=
      fun blame => hneed.bind fun _ => hgot.bind fun _ => .pure _
    dsimp only
    split
    · exact hend ""
    · exact hguilty.bind fun _ => hend _

namespace Fault

variable {P : Stop → Prop} {t : Term} {scope : Scope} {fault : Fault}

theorem explain_failsOnly (hterms : ∀ u ∈ fault.terms, FailsOnly P (Part.term u).shown)
    (htypes : ∀ type ∈ fault.types, FailsOnly P (Part.type type).shown) :
    FailsOnly P fault.failure.explain := by
  cases fault with
  | unbound u | notAFunction u _ | notAPair u _ | branches u _ _ _ _ =>
    exact Failure.explain_failsOnly (hterms u (by simp [terms])) (by rintro _ _ ⟨⟩)
  | mismatch demand u need got =>
    refine Failure.explain_failsOnly (hterms u (by simp [terms])) ?_
    rintro _ _ ⟨⟩
    exact ⟨htypes need (by simp [types]), htypes got (by simp [types])⟩

/-- The explanation of a fault found in a writable term. -/
theorem explain_ok (ht : t.Writable) (h : fault.Concerns Ty.Renderable t) :
    Succeeds fault.failure.explain := by
  refine succeeds_iff_failsOnly.mpr (explain_failsOnly ?_ ?_)
  · exact fun u hu => Succeeds.failsOnly (ht.within (h.terms u hu)).render_ok
  · exact fun type htype => Succeeds.failsOnly (h.types type htype).render_ok

/-! ### Pictures -/

/-- The picture of a fault can be drawn as far as its types can be shown, its
terms underlined and its scope listed. -/
theorem picture_failsOnly (hident : ∀ u, fault = .unbound u → ∃ label name, u = .ident label name)
    (hmark : ∀ u ∈ fault.terms, ∀ caption, FailsOnly P (Mark.of (.term t) (.term u) caption))
    (hshown : ∀ type ∈ fault.types, FailsOnly P (Part.type type).shown)
    (hfooter : FailsOnly P scope.footer) :
    FailsOnly P (fault.complaint.picture (.scope scope) (.term t)) := by
  cases fault with
  | unbound ident =>
    obtain ⟨label, name, rfl⟩ := hident ident rfl
    refine FailsOnly.bind nofun fun _ => ?_
    exact (hmark _ (by simp [terms]) _).bind fun _ => hfooter.bind fun _ => .pure _
  | notAFunction callee got =>
    refine (hshown got (by simp [types])).bind fun _ => ?_
    exact (hmark _ (by simp [terms]) _).bind fun _ => hfooter.bind fun _ => .pure _
  | mismatch demand expr need got =>
    refine (hshown got (by simp [types])).bind fun _ => ?_
    refine (hshown need (by simp [types])).bind fun _ => ?_
    exact (hmark _ (by simp [terms]) _).bind fun _ => hfooter.bind fun _ => .pure _
  | branches cond thenBranch elseBranch thenType elseType =>
    refine (hshown thenType (by simp [types])).bind fun _ => ?_
    refine (hmark thenBranch (by simp [terms]) _).bind fun _ => ?_
    refine (hshown elseType (by simp [types])).bind fun _ => ?_
    refine (hmark elseBranch (by simp [terms]) _).bind fun _ => ?_
    exact hfooter.bind fun _ => .pure _
  | notAPair expr got =>
    refine (hshown got (by simp [types])).bind fun _ => ?_
    exact (hmark _ (by simp [terms]) _).bind fun _ => hfooter.bind fun _ => .pure _

/-- The picture of a fault found in a writable term. -/
theorem picture_ok (ht : t.Writable) (hscope : scope.All Ty.Renderable)
    (h : fault.Concerns Ty.Renderable t) :
    Succeeds (fault.complaint.picture (.scope scope) (.term t)) := by
  refine succeeds_iff_failsOnly.mpr (picture_failsOnly h.ident ?_ ?_ ?_)
  · exact fun u hu caption => Succeeds.failsOnly (ht.legible.mark_ok (h.terms u hu) caption)
  · exact fun type htype => Succeeds.failsOnly (h.types type htype).render_ok
  · exact (Scope.footer_ok hscope).failsOnly

/-- The picture of a fault fails only over something without a text. -/
theorem unwritable_of_picture {Q : Ty → Prop} (h : fault.Concerns Q t) :
    FailsOnly Stop.Unwritable (fault.complaint.picture (.scope scope) (.term t)) := by
  refine picture_failsOnly h.ident ?_ ?_ ?_
  · exact fun u hu caption => Mark.of_failsOnly (h.terms u hu) caption
  · exact fun type _ => (Part.type type).shown_failsOnly
  · exact Scope.footer_failsOnly fun _ type _ => (Part.type type).shown_failsOnly

/-- A picture quotes the whole term, so the whole has a text. -/
theorem legible_of_picture {setting : Setting} {picture : Picture}
    (h : fault.complaint.picture setting (.term t) = .ok picture) : t.Legible := by
  have hmarked : ∀ {u : Term} {caption : String} {mark : Mark},
      Mark.of (.term t) (.term u) caption = .ok mark → t.Legible := by
    intro u caption mark hmark
    obtain ⟨layout, hlayout, -⟩ := Mark.of_term_eq_ok hmark
    exact (Term.layout_lays hlayout).1
  cases fault with
  | unbound u | notAFunction u got | notAPair u got | branches u _ _ _ _ =>
    simp only [complaint, Complaint.picture, bind_eq_ok_iff] at h
    obtain ⟨_, -, mark, hmark, -⟩ := h
    exact hmarked hmark
  | mismatch demand u need got =>
    simp only [complaint, Complaint.picture, bind_eq_ok_iff] at h
    obtain ⟨_, -, _, -, mark, hmark, -⟩ := h
    exact hmarked hmark

/-- A fault that can be drawn can be explained: the picture quotes the whole
term and shows the types that disagree. -/
theorem explain_of_picture {Q : Ty → Prop} (h : fault.Concerns Q t) {setting : Setting}
    {picture : Picture} (hpicture : fault.complaint.picture setting (.term t) = .ok picture) :
    Succeeds fault.failure.explain := by
  have hlegible := legible_of_picture hpicture
  have hguilty : ∀ u ∈ fault.terms, FailsOnly (fun _ => False) (Part.term u).shown :=
    fun u hu => Succeeds.failsOnly (hlegible.within (h.terms u hu)).render_ok
  refine succeeds_iff_failsOnly.mpr ?_
  cases fault with
  | unbound u | notAFunction u got | notAPair u got | branches u _ _ _ _ =>
    exact Failure.explain_failsOnly (hguilty u (by simp [terms])) (by rintro _ _ ⟨⟩)
  | mismatch demand u need got =>
    simp only [complaint, Complaint.picture, bind_eq_ok_iff] at hpicture
    obtain ⟨_, hgot, _, hneed, -⟩ := hpicture
    refine Failure.explain_failsOnly (hguilty u (by simp [terms])) ?_
    rintro _ _ ⟨⟩
    exact ⟨Succeeds.failsOnly ⟨_, hneed⟩, Succeeds.failsOnly ⟨_, hgot⟩⟩

end Fault

end PCFTyping
