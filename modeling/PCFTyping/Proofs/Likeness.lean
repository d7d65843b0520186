import Mathlib.Data.List.Forall2
import PCFTyping.Proofs.Occurrences
import PCFTyping.Proofs.Typing.Agreement

/-!
Two terms that look alike.

Terms are alike when they have one structure, the same names and literals, and
related declared types (`Term.Alike`); scopes are alike when they bind the same
names in the same order to related types (`Scope.Alike`). If related types have
one written form, then

* alike terms have one text (`Term.Alike.text_eq`), and their sub-terms stand in
  the same columns (`Term.Alike.columns_like`);
* an object has the same span in both, as long as both terms share the same
  sub-terms (`Term.Alike.span?_eq`), as two terms do in which no object occurs
  twice (`Term.Unshared.sharesLike`);
* alike scopes have one listing (`Scope.Alike.footer_eq`).

At the end of one path there are alike terms (`Term.Alike.follow?`), in alike
scopes if they are judged there (`Term.Alike.judgedAt?`).
-/

namespace PCFTyping

open Text (Span)

variable {R R' : Ty → Ty → Prop}

/-! ### Terms -/

namespace Term

/-- Two places of one term hold one object exactly if they do so in the other. -/
def SharesLike (t t' : Term) : Prop :=
  ∀ (path path' : Path) (u v u' v' : Term), t.follow? path = some u → t.follow? path' = some v →
    t'.follow? path = some u' → t'.follow? path' = some v' →
      (u.label = v.label ↔ u'.label = v'.label)

theorem SharesLike.refl (t : Term) : t.SharesLike t := by
  intro path path' u v u' v' hu hv hu' hv'
  cases hu.symm.trans hu'
  cases hv.symm.trans hv'
  exact Iff.rfl

/-- Terms in which no object occurs twice share alike, that is nothing. -/
theorem Unshared.sharesLike {t t' : Term} (h : t.Unshared) (h' : t'.Unshared) :
    t.SharesLike t' := by
  intro path path' u v u' v' hu hv hu' hv'
  constructor
  · intro hlabel
    obtain rfl := h.path_eq hu hv hlabel
    cases hu'.symm.trans hv'
    rfl
  · intro hlabel
    obtain rfl := h'.path_eq hu' hv' hlabel
    cases hu.symm.trans hv
    rfl

/-- Columns that are the same, with labels that belong together. -/
def EntryLike (L : Label → Label → Prop) (entry entry' : Label × Span) : Prop :=
  L entry.1 entry'.1 ∧ entry.2 = entry'.2

/-- What is listed for a label is listed for its counterpart. -/
theorem lookup_eq_of_like {label label' : Label} {entries entries' : List (Label × Span)}
    (h : List.Forall₂ (EntryLike fun other other' => label = other ↔ label' = other')
      entries entries') : entries.lookup label = entries'.lookup label' := by
  induction h with
  | nil => rfl
  | @cons entry entry' _ _ hentry _ ih =>
    have hsame : (label == entry.1) = (label' == entry'.1) := by
      rw [Bool.eq_iff_iff, beq_iff_eq, beq_iff_eq]
      exact hentry.1
    rw [List.lookup_cons, List.lookup_cons, hsame, hentry.2, ih]

namespace Alike

variable {t t' : Term}

theorem symm (h : t.Alike R t') : t'.Alike (fun s' s => R s s') t := by
  induction h with
  | ident => exact .ident
  | number => exact .number
  | truth => exact .truth
  | builtin => exact .builtin
  | fn hdomain _ ih => exact .fn hdomain ih
  | app _ _ ihf iha => exact .app ihf iha
  | recur hdeclared _ ih => exact .recur hdeclared ih
  | cond _ _ _ ihc iht ihe => exact .cond ihc iht ihe
  | letIn hdeclared _ _ ihb ih => exact .letIn hdeclared ihb ih
  | pair _ _ ihf ihs => exact .pair ihf ihs
  | proj _ ih => exact .proj ih
  | bareProj _ ih => exact .bareProj ih
  | bare => exact .bare

theorem inLanguage (h : t.Alike R t') (ht : t.InLanguage) : t'.InLanguage := by
  induction h with
  | ident | number | truth | builtin => trivial
  | fn _ _ ih | recur _ _ ih | proj _ ih => exact ih ht
  | app _ _ ihf iha | pair _ _ ihf iha | letIn _ _ _ ihf iha => exact ⟨ihf ht.1, iha ht.2⟩
  | cond _ _ _ ihc iht ihe => exact ⟨ihc ht.1, iht ht.2.1, ihe ht.2.2⟩
  | bareProj | bare => exact ht.elim

/-- What related types have, the declared types have. -/
theorem declared {P : Ty → Prop} (h : t.Alike R t') (hR : ∀ s s', R s s' → P s) :
    ∀ type ∈ t.declared, P type := by
  induction h with
  | ident | number | truth | builtin | bare => exact nofun
  | fn htype _ ih | recur htype _ ih => exact List.forall_mem_cons.mpr ⟨hR _ _ htype, ih⟩
  | app _ _ ihf iha | pair _ _ ihf iha => exact List.forall_mem_append.mpr ⟨ihf, iha⟩
  | cond _ _ _ ihc iht ihe =>
    exact List.forall_mem_append.mpr ⟨ihc, List.forall_mem_append.mpr ⟨iht, ihe⟩⟩
  | letIn htype _ _ ihb ih =>
    exact List.forall_mem_cons.mpr ⟨hR _ _ htype, List.forall_mem_append.mpr ⟨ihb, ih⟩⟩
  | proj _ ih | bareProj _ ih => exact ih

/-- What the declared types have on each side may be asked of related types. -/
theorem and_declared {P P' : Ty → Prop} (h : t.Alike R t') (hP : ∀ type ∈ t.declared, P type)
    (hP' : ∀ type ∈ t'.declared, P' type) : t.Alike (fun s s' => R s s' ∧ P s ∧ P' s') t' := by
  induction h with
  | ident => exact .ident
  | number => exact .number
  | truth => exact .truth
  | builtin => exact .builtin
  | fn htype _ ih =>
    simp only [Term.declared, List.forall_mem_cons] at hP hP'
    exact .fn ⟨htype, hP.1, hP'.1⟩ (ih hP.2 hP'.2)
  | app _ _ ihf iha =>
    simp only [Term.declared, List.forall_mem_append] at hP hP'
    exact .app (ihf hP.1 hP'.1) (iha hP.2 hP'.2)
  | recur htype _ ih =>
    simp only [Term.declared, List.forall_mem_cons] at hP hP'
    exact .recur ⟨htype, hP.1, hP'.1⟩ (ih hP.2 hP'.2)
  | cond _ _ _ ihc iht ihe =>
    simp only [Term.declared, List.forall_mem_append] at hP hP'
    exact .cond (ihc hP.1 hP'.1) (iht hP.2.1 hP'.2.1) (ihe hP.2.2 hP'.2.2)
  | letIn htype _ _ ihb ih =>
    simp only [Term.declared, List.forall_mem_cons, List.forall_mem_append] at hP hP'
    exact .letIn ⟨htype, hP.1, hP'.1⟩ (ihb hP.2.1 hP'.2.1) (ih hP.2.2 hP'.2.2)
  | pair _ _ ihf ihs =>
    simp only [Term.declared, List.forall_mem_append] at hP hP'
    exact .pair (ihf hP.1 hP'.1) (ihs hP.2 hP'.2)
  | proj _ ih => exact .proj (ih hP hP')
  | bareProj _ ih => exact .bareProj (ih hP hP')
  | bare => exact .bare

theorem children_like (h : t.Alike R t') : List.Forall₂ (Alike R) t.children t'.children := by
  cases h with
  | ident | number | truth | builtin | bare => exact .nil
  | fn _ hbody | recur _ hbody | proj hbody | bareProj hbody => exact .cons hbody .nil
  | app hfirst hsecond | pair hfirst hsecond | letIn _ hfirst hsecond =>
    exact .cons hfirst (.cons hsecond .nil)
  | cond hcondition hthen helse => exact .cons hcondition (.cons hthen (.cons helse .nil))

/-- One path leads to alike terms. -/
theorem follow? (h : t.Alike R t') {path : Path} {u u' : Term} (hu : t.follow? path = some u)
    (hu' : t'.follow? path = some u') : u.Alike R u' := by
  induction path generalizing t t' with
  | nil =>
    cases hu
    cases hu'
    exact h
  | cons i rest ih =>
    rw [Term.follow?] at hu hu'
    obtain ⟨child, hchild, hrest⟩ := Option.bind_eq_some_iff.mp hu
    obtain ⟨child', hchild', hrest'⟩ := Option.bind_eq_some_iff.mp hu'
    obtain ⟨hlt, rfl⟩ := List.getElem?_eq_some_iff.mp hchild
    obtain ⟨hlt', rfl⟩ := List.getElem?_eq_some_iff.mp hchild'
    exact ih (h.children_like.get hlt hlt') hrest hrest'

section Text

variable (hR : ∀ s s', R s s' → s.render = s'.render)
include hR

theorem words_eq {s s' : Ty} (h : R s s') : s.words = s'.words := by
  rw [Ty.words, Ty.words, hR s s' h]

theorem text_eq (h : t.Alike R t') : t.text = t'.text := by
  induction h with
  | ident | number | truth | builtin | bare | bareProj => rfl
  | fn htype _ ih | recur htype _ ih => simp only [text, words_eq hR htype, ih]
  | app _ _ ihf iha | pair _ _ ihf iha => simp only [text, ihf, iha]
  | cond _ _ _ ihc iht ihe => simp only [text, ihc, iht, ihe]
  | letIn htype _ _ ihb ih => simp only [text, words_eq hR htype, ihb, ih]
  | proj _ ih => simp only [text, ih]

/-- Alike terms that have a text are written alike. -/
theorem render_eq (h : t.Alike R t') (ht : t.Legible) (ht' : t'.Legible) :
    t.render = t'.render := by
  rw [render_eq_ok_iff.mpr ⟨ht, rfl⟩, render_eq_ok_iff.mpr ⟨ht', rfl⟩, h.text_eq hR]

theorem leftOf_eq (h : t.Alike R t') (i : Nat) : t.leftOf i = t'.leftOf i := by
  have htext : ∀ {u u' : Term}, u.Alike R u' → u.text = u'.text := fun h => h.text_eq hR
  cases h with
  | ident | number | truth | builtin | bareProj | bare => rfl
  | fn htype | recur htype =>
    have hwords := words_eq hR htype
    cases i <;> simp only [leftOf, hwords]
  | app hcallee | pair hcallee =>
    have hcallee := htext hcallee
    rcases i with _ | _ | i <;> simp only [leftOf, hcallee]
  | cond hcondition hthen =>
    have hcondition := htext hcondition
    have hthen := htext hthen
    rcases i with _ | _ | _ | i <;> simp only [leftOf, hcondition, hthen]
  | letIn htype hbinding =>
    have hwords := words_eq hR htype
    have hbinding := htext hbinding
    rcases i with _ | _ | i <;> simp only [leftOf, hwords, hbinding]
  | proj => cases i <;> rfl

theorem self_like (h : t.Alike R t') {L : Label → Label → Prop} (hlabel : L t.label t'.label)
    (start : Nat) : List.Forall₂ (EntryLike L) [(t.label, t.columnsFrom start)]
      [(t'.label, t'.columnsFrom start)] := by
  refine .cons ⟨hlabel, ?_⟩ .nil
  rw [columnsFrom, columnsFrom, h.text_eq hR]

/-- The columns of alike terms are the same, and they are listed in one order
with labels from the ends of one path. -/
theorem columns_like (h : t.Alike R t') {L : Label → Label → Prop}
    (hL : ∀ path u u', t.follow? path = some u → t'.follow? path = some u' →
      L u.label u'.label) (start : Nat) :
    List.Forall₂ (EntryLike L) (t.columns start) (t'.columns start) := by
  -- A path below a child goes on from the child's number.
  induction t generalizing t' start with
  | ident | number | truth | builtin =>
    have hself := h.self_like hR (hL [] _ _ rfl rfl) start
    cases h
    exact hself
  | bareProj | bare =>
    cases h
    exact .nil
  | fn _ _ _ body ih | recur _ _ _ body ih | proj _ _ body ih =>
    have hself := h.self_like hR (hL [] _ _ rfl rfl) start
    have hleft := h.leftOf_eq hR
    cases h
    rename_i hbody
    rw [columns, columns, hleft 0]
    exact List.rel_append (ih hbody (fun path => hL (0 :: path)) _) hself
  | app _ first second ihf ihs | pair _ first second ihf ihs | letIn _ _ _ first second ihf ihs =>
    have hself := h.self_like hR (hL [] _ _ rfl rfl) start
    have hleft := h.leftOf_eq hR
    cases h
    rename_i hfirst hsecond
    rw [columns, columns, hleft 0, hleft 1]
    exact List.rel_append (ihf hfirst (fun path => hL (0 :: path)) _)
      (List.rel_append (ihs hsecond (fun path => hL (1 :: path)) _) hself)
  | cond _ condition thenBranch elseBranch ihc iht ihe =>
    have hself := h.self_like hR (hL [] _ _ rfl rfl) start
    have hleft := h.leftOf_eq hR
    cases h
    rename_i hcondition hthen helse
    rw [columns, columns, hleft 0, hleft 1, hleft 2]
    exact List.rel_append (ihc hcondition (fun path => hL (0 :: path)) _)
      (List.rel_append (iht hthen (fun path => hL (1 :: path)) _)
        (List.rel_append (ihe helse (fun path => hL (2 :: path)) _) hself))

/-- An object has the same span in two alike terms that share alike. -/
theorem span?_eq (h : t.Alike R t') (hshares : t.SharesLike t') {layout layout' : Layout}
    (hlayout : (Part.term t).layout = .ok layout) (hlayout' : (Part.term t').layout = .ok layout')
    {path : Path} {u u' : Term} (hu : t.follow? path = some u) (hu' : t'.follow? path = some u') :
    layout.span? u.label = layout'.span? u'.label := by
  obtain ⟨-, -, -, hspans⟩ := layout_lays hlayout
  obtain ⟨-, -, -, hspans'⟩ := layout_lays hlayout'
  rw [hspans, hspans']
  refine lookup_eq_of_like (h.columns_like hR ?_ 0)
  intro path' v v' hv hv'
  exact hshares path path' u v u' v' hu hv hu' hv'

end Text

end Alike

end Term

/-! ### Scopes -/

/-- Work on each item that comes to the same, item by item. -/
theorem mapM_eq_of_forall₂ {ε α β : Type} {f : α → Except ε β} {items items' : List α}
    (h : List.Forall₂ (fun item item' => f item = f item') items items') :
    items.mapM f = items'.mapM f := by
  induction h with
  | nil => rfl
  | cons hitem _ ih => rw [List.mapM_cons, List.mapM_cons, hitem, ih]

/-- One name with related types. -/
def BindingLike (R : Ty → Ty → Prop) (binding binding' : String × Ty) : Prop :=
  binding.1 = binding'.1 ∧ R binding.2 binding'.2

/-- Scopes that bind the same names, in one order and over one outermost scope,
to related types. -/
structure Scope.Alike (R : Ty → Ty → Prop) (scope scope' : Scope) : Prop where
  outermost : scope.outermost = scope'.outermost
  frames : List.Forall₂ (BindingLike R) scope.frames scope'.frames

namespace Scope

/-- Stacks of bindings that are alike have alike bindings in sight. -/
theorem visible_like {frames frames' : List (String × Ty)}
    (h : List.Forall₂ (BindingLike R) frames frames') :
    List.Forall₂ (BindingLike R) (visible frames) (visible frames') := by
  induction h with
  | nil => exact .nil
  | @cons binding binding' _ _ hbinding _ ih =>
    refine List.rel_append (List.rel_filter ?_ ih) (.cons hbinding .nil)
    intro other other' hother
    simp [hother.1, hbinding.1]

/-- Alike bindings are looked up alike. -/
theorem lookup_like {frames frames' : List (String × Ty)}
    (h : List.Forall₂ (BindingLike R) frames frames') (name : String) :
    Option.Rel R (frames.lookup name) (frames'.lookup name) := by
  induction h with
  | nil => exact .none
  | @cons binding binding' _ _ hbinding _ ih =>
    rw [List.lookup_cons, List.lookup_cons, hbinding.1]
    split
    · exact .some hbinding.2
    · exact ih

/-- A stack of bindings over nothing has types only. -/
theorem onlyTypes_of_empty {scope : Scope} (h : scope.outermost = .empty) : scope.OnlyTypes := by
  intro name part hfound
  unfold lookup at hfound
  split at hfound
  · exact ⟨_, (Option.some.inj hfound).symm⟩
  · rw [h] at hfound
    cases hfound

namespace Alike

variable {scope scope' : Scope}

theorem mono (h : scope.Alike R scope') (hR : ∀ s s', R s s' → R' s s') :
    scope.Alike R' scope' where
  outermost := h.outermost
  frames := h.frames.imp fun _ _ hbinding => ⟨hbinding.1, hR _ _ hbinding.2⟩

theorem symm (h : scope.Alike R scope') : scope'.Alike (fun s' s => R s s') scope where
  outermost := h.outermost.symm
  frames := (h.frames.imp fun _ _ hbinding => ⟨hbinding.1.symm, hbinding.2⟩).flip

/-- A scope is like itself, also in what is shadowed there. -/
theorem refl (hR : ∀ s, R s s) (scope : Scope) : scope.Alike R scope :=
  ⟨rfl, List.forall₂_same.mpr fun binding _ => ⟨rfl, hR binding.2⟩⟩

theorem empty (R : Ty → Ty → Prop) : Scope.empty.Alike R Scope.empty := ⟨rfl, .nil⟩

theorem extend (h : scope.Alike R scope') (name : String) {type type' : Ty} (htype : R type type') :
    (scope.extend name type).Alike R (scope'.extend name type') :=
  ⟨h.outermost, .cons ⟨rfl, htype⟩ h.frames⟩

/-- Over nothing, alike scopes have related types for a name, or none. -/
theorem meaning (h : scope.Alike R scope') (hempty : scope.outermost = .empty) (name : String) :
    SameMeaning R (scope.lookup name) (scope'.lookup name) := by
  have hrelated := lookup_like h.frames name
  unfold Scope.lookup
  rw [← h.outermost, hempty]
  revert hrelated
  generalize scope.frames.lookup name = found
  generalize scope'.frames.lookup name = found'
  rintro (htype | _)
  · exact .type htype
  · exact .nothing

/-- What related types have, the types of the scope have. -/
theorem all {P : Ty → Prop} (h : scope.Alike R scope') (hempty : scope.outermost = .empty)
    (hR : ∀ s s', R s s' → P s) : scope.All P := by
  intro name type hfound
  have hmeaning := h.meaning hempty name
  rw [hfound] at hmeaning
  generalize scope'.lookup name = found' at hmeaning
  cases hmeaning with
  | type htype => exact hR _ _ htype
  | other hnot => exact (hnot type rfl).elim

/-- Alike scopes are listed alike. -/
theorem footer_eq (h : scope.Alike R scope') (hR : ∀ s s', R s s' → s.render = s'.render) :
    scope.footer = scope'.footer := by
  have hvisible : List.Forall₂ (BindingLike R) scope.bindings scope'.bindings :=
    visible_like h.frames
  have hentries : scope.entries = scope'.entries := by
    rw [entries, entries, mapM_eq_of_forall₂ (hvisible.imp ?_)]
    intro binding binding' hbinding
    rw [hbinding.1, hR _ _ hbinding.2]
  have hisEmpty : scope.bindings.isEmpty = scope'.bindings.isEmpty := by
    rw [Bool.eq_iff_iff, List.isEmpty_iff_length_eq_zero, List.isEmpty_iff_length_eq_zero,
      hvisible.length_eq]
  rw [footer, footer, hentries, hisEmpty]

end Alike

end Scope

/-! ### At the end of a path -/

namespace Term.Alike

variable {t t' : Term} {scope scope' : Scope}

/-- The rules for alike terms in alike scopes ask for alike judgements. -/
theorem premises_like (h : t.Alike R t') (hscope : scope.Alike R scope') :
    List.Forall₂ (fun premise premise' => premise.1.Alike R premise'.1 ∧
      premise.2.Alike R premise'.2) (t.premises scope) (t'.premises scope') := by
  have hempty := Scope.Alike.empty R
  cases h with
  | ident | number | truth | builtin | bareProj | bare => exact .nil
  | fn htype hbody | recur htype hbody => exact .cons ⟨hscope.extend _ htype, hbody⟩ .nil
  | app hcallee hargument => exact .cons ⟨hscope, hcallee⟩ (.cons ⟨hscope, hargument⟩ .nil)
  | cond hcondition hthen helse =>
    exact .cons ⟨hscope, hcondition⟩ (.cons ⟨hscope, hthen⟩ (.cons ⟨hscope, helse⟩ .nil))
  | letIn htype hbinding hbody =>
    exact .cons ⟨hempty, hbinding⟩ (.cons ⟨hscope.extend _ htype, hbody⟩ .nil)
  | pair hfirst hsecond => exact .cons ⟨hempty, hfirst⟩ (.cons ⟨hempty, hsecond⟩ .nil)
  | proj hinner => exact .cons ⟨hempty, hinner⟩ .nil

/-- One path leads to alike terms in alike scopes. -/
theorem judgedAt? (h : t.Alike R t') (hscope : scope.Alike R scope') {path : Path}
    {inForce inForce' : Scope} {u u' : Term} (hu : t.judgedAt? scope path = some (inForce, u))
    (hu' : t'.judgedAt? scope' path = some (inForce', u')) :
    inForce.Alike R inForce' ∧ u.Alike R u' := by
  induction path generalizing t t' scope scope' with
  | nil =>
    cases hu
    cases hu'
    exact ⟨hscope, h⟩
  | cons i rest ih =>
    rw [Term.judgedAt?] at hu hu'
    obtain ⟨⟨s, c⟩, hpremise, hrest⟩ := Option.bind_eq_some_iff.mp hu
    obtain ⟨⟨s', c'⟩, hpremise', hrest'⟩ := Option.bind_eq_some_iff.mp hu'
    obtain ⟨hlt, hget⟩ := List.getElem?_eq_some_iff.mp hpremise
    obtain ⟨hlt', hget'⟩ := List.getElem?_eq_some_iff.mp hpremise'
    have hlike := (h.premises_like hscope).get hlt hlt'
    rw [List.get_eq_getElem, List.get_eq_getElem, hget, hget'] at hlike
    exact ih hlike.2 hlike.1 hrest hrest'

end Term.Alike

end PCFTyping
