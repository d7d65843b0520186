import PCFTyping.Proofs.Likeness
import PCFTyping.Proofs.Session.Pictures
import PCFTyping.Proofs.Underlines

/-!
Pictures that look alike.

Faults of one sort are drawn with the same words as soon as related types have
one written form and their places look alike: the terms have one text and the
scopes in force one listing (`SameFault.picture_like`). Where the underlines
start may depend on which sub-terms are shared, and on nothing else. How wide
they are does not even depend on that, as long as labels are the identities of
objects (`SpanLike`).
-/

namespace PCFTyping

open Text (Span)

variable {R : Ty → Ty → Prop}

/-! ### Marks and pictures -/

/-- Marks with one text and one caption, whose spans are related. -/
structure Mark.Like (S : Span → Span → Prop) (mark mark' : Mark) : Prop where
  text : mark.text = mark'.text
  caption : mark.caption = mark'.caption
  span : S mark.span mark'.span

/-- Pictures that say the same about spans that are related. -/
structure Picture.Like (S : Span → Span → Prop) (picture picture' : Picture) : Prop where
  intro : picture.intro = picture'.intro
  marks : List.Forall₂ (Mark.Like S) picture.marks picture'.marks
  footer : picture.footer = picture'.footer

namespace Picture.Like

variable {S S' : Span → Span → Prop} {picture picture' : Picture}

theorem mono (h : picture.Like S picture') (hS : ∀ span span', S span span' → S' span span') :
    picture.Like S' picture' where
  intro := h.intro
  marks := h.marks.imp fun _ _ hmark => ⟨hmark.text, hmark.caption, hS _ _ hmark.span⟩
  footer := h.footer

theorem eq (h : picture.Like Eq picture') : picture = picture' := by
  obtain ⟨intro, marks, footer⟩ := picture
  obtain ⟨intro', marks', footer'⟩ := picture'
  obtain ⟨rfl, hmarks, rfl⟩ := h
  have hmarks : List.Forall₂ Eq marks marks' := by
    refine hmarks.imp ?_
    rintro ⟨text, span, caption⟩ ⟨text', span', caption'⟩ ⟨⟨⟩, ⟨⟩, ⟨⟩⟩
    rfl
  rw [List.forall₂_eq_eq_eq] at hmarks
  rw [hmarks]

end Picture.Like

/-- Where one node stands in two terms. The spans are the same if the terms share
alike, and as wide as each other if labels are identities. -/
structure SpanLike (t t' : Term) (span span' : Span) : Prop where
  same : t.SharesLike t' → span = span'
  width : Term.Coherent [t] → Term.Coherent [t'] → span.width = span'.width

/-- If labels are identities, a mark is as wide as the text of its node. -/
theorem Mark.width_eq {t u : Term} {caption : String} {mark : Mark}
    (hobjects : Term.Coherent [t]) (hu : u.Within t)
    (h : Mark.of (.term t) (.term u) caption = .ok mark) :
    mark.span.width = u.text.length := by
  obtain ⟨v, hv, hlabel, -, hstands⟩ := stands h
  obtain rfl : v = u := hobjects t (by simp) t (by simp) v u hv hu hlabel
  exact hstands.width_eq

/-- Nodes at the end of one path are underlined alike. -/
theorem Mark.like_of_alike (hR : ∀ s s', R s s' → s.render = s'.render) {t t' u u' : Term}
    (h : t.Alike R t') {path : Path} (hu : t.follow? path = some u)
    (hu' : t'.follow? path = some u') {caption : String} {mark mark' : Mark}
    (hmark : Mark.of (.term t) (.term u) caption = .ok mark)
    (hmark' : Mark.of (.term t') (.term u') caption = .ok mark') :
    mark.Like (SpanLike t t') mark' := by
  obtain ⟨layout, hlayout, htext, hcaption, hspan⟩ := Mark.of_term_eq_ok hmark
  obtain ⟨layout', hlayout', htext', hcaption', hspan'⟩ := Mark.of_term_eq_ok hmark'
  refine ⟨?_, hcaption.trans hcaption'.symm, ?_, ?_⟩
  · rw [htext, htext', (Term.layout_lays hlayout).2.1, (Term.layout_lays hlayout').2.1,
      h.text_eq hR]
  · intro hshares
    have hsame := h.span?_eq hR hshares hlayout hlayout' hu hu'
    rw [hspan, hspan'] at hsame
    exact Option.some.inj hsame
  · intro hobjects hobjects'
    rw [width_eq hobjects ⟨path, hu⟩ hmark, width_eq hobjects' ⟨path, hu'⟩ hmark',
      (h.follow? hu hu').text_eq hR]

/-- Alike terms go by one name, or by none. -/
theorem Term.Alike.requireName_eq {t t' : Term} (h : t.Alike R t') :
    (Part.term t).requireName = (Part.term t').requireName := by
  cases h with
  | @builtin _ _ op => cases op <;> rfl
  | @proj _ _ side => cases side <;> rfl
  | _ => rfl

/-- Disagreements about related types. -/
inductive Mismatch.Alike (R : Ty → Ty → Prop) : Mismatch → Mismatch → Prop where
  | unstated : Alike R .unstated .unstated
  | between {need need' got got'} : R need need' → R got got' →
      Alike R (.between (.type need) (.type got)) (.between (.type need') (.type got'))

/-- Terms that paths lead to in two terms. -/
theorem Term.counterparts {t t' : Term} {paths : List Path} {terms terms' : List Term}
    (h : paths.map t.follow? = terms.map some) (h' : paths.map t'.follow? = terms'.map some) :
    List.Forall₂ (fun u u' => ∃ path, t.follow? path = some u ∧ t'.follow? path = some u')
      terms terms' := by
  induction paths generalizing terms terms' with
  | nil =>
    obtain rfl := List.map_eq_nil_iff.mp h.symm
    obtain rfl := List.map_eq_nil_iff.mp h'.symm
    exact .nil
  | cons path paths ih =>
    cases terms with
    | nil => cases h
    | cons u rest =>
      cases terms' with
      | nil => cases h'
      | cons u' rest' =>
        obtain ⟨hu, hrest⟩ := List.cons.inj h
        obtain ⟨hu', hrest'⟩ := List.cons.inj h'
        exact .cons ⟨path, hu, hu'⟩ (ih hrest hrest')

/-! ### Faults -/

namespace Fault.Alike

variable {fault fault' : Fault}

theorem mono {R' : Ty → Ty → Prop} (h : fault.Alike R fault') (hR : ∀ s s', R s s' → R' s s') :
    fault.Alike R' fault' := by
  cases h with
  | unbound => exact .unbound
  | notAFunction hgot => exact .notAFunction (hR _ _ hgot)
  | mismatch hneed hgot => exact .mismatch (hR _ _ hneed) (hR _ _ hgot)
  | branches hthen helse => exact .branches (hR _ _ hthen) (hR _ _ helse)
  | notAPair hgot => exact .notAPair (hR _ _ hgot)

theorem symm (h : fault.Alike R fault') : fault'.Alike (fun s' s => R s s') fault := by
  cases h with
  | unbound => exact .unbound
  | notAFunction hgot => exact .notAFunction hgot
  | mismatch hneed hgot => exact .mismatch hneed hgot
  | branches hthen helse => exact .branches hthen helse
  | notAPair hgot => exact .notAPair hgot

/-- Faults of one sort make errors of one kind about related types. -/
theorem failure_like (h : fault.Alike R fault') :
    fault.failure.kind = fault'.failure.kind ∧
      fault.failure.mismatch.Alike R fault'.failure.mismatch := by
  cases h with
  | unbound | notAFunction | notAPair | branches => exact ⟨rfl, .unstated⟩
  | mismatch hneed hgot => exact ⟨rfl, .between hneed hgot⟩

theorem underlined_eq (h : fault.Alike R fault') (path : Path) :
    fault.failure.underlined path = fault'.failure.underlined path := by
  cases h with
  | unbound | notAFunction | notAPair | branches => rfl
  | @mismatch demand => cases demand <;> rfl

/-- Faults of one sort that blame terms with one text are explained alike. -/
theorem explain_eq (hR : ∀ s s', R s s' → s.render = s'.render) (h : fault.Alike R fault')
    (hguilty : fault.guilty.render = fault'.guilty.render) :
    fault.failure.explain = fault'.failure.explain := by
  cases h with
  | unbound | notAFunction | notAPair | branches =>
    simp only [guilty] at hguilty
    simp only [failure, Failure.explain, Part.shown, hguilty]
  | mismatch hneed hgot =>
    simp only [guilty] at hguilty
    simp only [failure, Failure.explain, Part.shown, hguilty, hR _ _ hneed, hR _ _ hgot]

/-- Faults of one sort at alike places look alike. -/
theorem picture_like {S : Span → Span → Prop} (hR : ∀ s s', R s s' → s.render = s'.render)
    (h : fault.Alike R fault') (hguilty : fault.guilty.Alike R fault'.guilty)
    {setting setting' : Setting} (hfooter : setting.footer = setting'.footer) {t t' : Term}
    (hmarks : List.Forall₂ (fun u u' => ∀ caption mark mark',
      Mark.of (.term t) (.term u) caption = .ok mark →
      Mark.of (.term t') (.term u') caption = .ok mark' → mark.Like S mark')
      fault.underlined fault'.underlined) {picture picture' : Picture}
    (hpicture : fault.complaint.picture setting (.term t) = .ok picture)
    (hpicture' : fault'.complaint.picture setting' (.term t') = .ok picture') :
    picture.Like S picture' := by
  have hshown : ∀ {s s' : Ty}, R s s' → (Part.type s).shown = (Part.type s').shown :=
    fun hs => hR _ _ hs
  cases h with
  | @unbound ident ident' =>
    have hname : (Part.term ident).requireName = (Part.term ident').requireName :=
      Term.Alike.requireName_eq hguilty
    obtain ⟨hmark, -⟩ := List.forall₂_cons.mp hmarks
    simp only [complaint, Complaint.picture, hname, hfooter, bind_eq_ok_iff] at hpicture hpicture'
    obtain ⟨name, hfound, mark, hof, footer, hlines, ⟨⟩⟩ := hpicture
    obtain ⟨name', hfound', mark', hof', footer', hlines', ⟨⟩⟩ := hpicture'
    cases hfound.symm.trans hfound'
    cases hlines.symm.trans hlines'
    exact ⟨rfl, .cons (hmark _ _ _ hof hof') .nil, rfl⟩
  | notAFunction hgot | notAPair hgot =>
    obtain ⟨hmark, -⟩ := List.forall₂_cons.mp hmarks
    simp only [complaint, Complaint.picture, hshown hgot, hfooter, bind_eq_ok_iff]
      at hpicture hpicture'
    obtain ⟨shown, hfound, mark, hof, footer, hlines, ⟨⟩⟩ := hpicture
    obtain ⟨shown', hfound', mark', hof', footer', hlines', ⟨⟩⟩ := hpicture'
    cases hfound.symm.trans hfound'
    cases hlines.symm.trans hlines'
    exact ⟨rfl, .cons (hmark _ _ _ hof hof') .nil, rfl⟩
  | mismatch hneed hgot =>
    obtain ⟨hmark, -⟩ := List.forall₂_cons.mp hmarks
    simp only [complaint, Complaint.picture, hshown hneed, hshown hgot, hfooter, bind_eq_ok_iff]
      at hpicture hpicture'
    obtain ⟨found, hfound, needed, hneeded, mark, hof, footer, hlines, ⟨⟩⟩ := hpicture
    obtain ⟨found', hfound', needed', hneeded', mark', hof', footer', hlines', ⟨⟩⟩ := hpicture'
    cases hfound.symm.trans hfound'
    cases hneeded.symm.trans hneeded'
    cases hlines.symm.trans hlines'
    exact ⟨rfl, .cons (hmark _ _ _ hof hof') .nil, rfl⟩
  | branches hthen helse =>
    obtain ⟨hmark, hmarks⟩ := List.forall₂_cons.mp hmarks
    obtain ⟨hsecond, -⟩ := List.forall₂_cons.mp hmarks
    simp only [complaint, Complaint.picture, hshown hthen, hshown helse, hfooter, bind_eq_ok_iff]
      at hpicture hpicture'
    obtain ⟨first, hfirst, mark, hof, last, hlast, second, hof₂, footer, hlines, ⟨⟩⟩ := hpicture
    obtain ⟨first', hfirst', mark', hof', last', hlast', second', hof₂', footer', hlines', ⟨⟩⟩ :=
      hpicture'
    cases hfirst.symm.trans hfirst'
    cases hlast.symm.trans hlast'
    cases hlines.symm.trans hlines'
    exact ⟨rfl, .cons (hmark _ _ _ hof hof') (.cons (hsecond _ _ _ hof₂ hof₂') .nil), rfl⟩

end Fault.Alike

/-- Two faults of one sort, at one path of two terms. -/
structure SameFault (R : Ty → Ty → Prop) (scope : Scope) (t : Term) (scope' : Scope) (t' : Term)
    (inForce : Scope) (fault : Fault) (inForce' : Scope) (fault' : Fault) (path : Path) : Prop where
  alike : fault.Alike R fault'
  place : t.judgedAt? scope path = some (inForce, fault.guilty)
  place' : t'.judgedAt? scope' path = some (inForce', fault'.guilty)

theorem SameFault.mono {R' : Ty → Ty → Prop} {scope scope' inForce inForce' : Scope} {t t' : Term}
    {fault fault' : Fault} {path : Path}
    (h : SameFault R scope t scope' t' inForce fault inForce' fault' path)
    (hR : ∀ s s', R s s' → R' s s') :
    SameFault R' scope t scope' t' inForce fault inForce' fault' path :=
  ⟨h.alike.mono hR, h.place, h.place'⟩

/-- Faults of one sort at one path of alike terms look alike. -/
theorem SameFault.picture_like (hR : ∀ s s', R s s' → s.render = s'.render)
    {scope scope' inForce inForce' : Scope} {t t' : Term} {fault fault' : Fault} {path : Path}
    (h : SameFault R scope t scope' t' inForce fault inForce' fault' path)
    (hterms : t.Alike R t') (hscopes : scope.Alike R scope') {picture picture' : Picture}
    (hpicture : fault.complaint.picture (.scope inForce) (.term t) = .ok picture)
    (hpicture' : fault'.complaint.picture (.scope inForce') (.term t') = .ok picture') :
    picture.Like (SpanLike t t') picture' := by
  obtain ⟨hinForce, hguilty⟩ := hterms.judgedAt? hscopes h.place h.place'
  have hpaths := Fault.underlined_paths h.alike h.place
  have hpaths' := Fault.underlined_paths h.alike.symm h.place'
  rw [← h.alike.underlined_eq path] at hpaths'
  have hfooter : (Setting.scope inForce).footer = (Setting.scope inForce').footer :=
    hinForce.footer_eq hR
  refine h.alike.picture_like hR hguilty hfooter ?_ hpicture hpicture'
  refine (Term.counterparts hpaths hpaths').imp ?_
  rintro u u' ⟨place, hu, hu'⟩ caption mark mark' hmark hmark'
  exact Mark.like_of_alike hR hterms hu hu' hmark hmark'

end PCFTyping
