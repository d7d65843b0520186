import PCFTyping.Proofs.Placing

/-!
Where on the line a sub-term stands.

A legible term has a line of its own. There it stands from the first column on,
and every one of its sub-terms has a span (`Term.Legible.layout_ok`), so any of
them can be underlined. If no object occurs twice in a term, the span of an
object is where its one occurrence stands (`Term.Legible.span?_of_unshared`).

A term is writable when it is in the language and its declared types are
renderable; this is one way of being legible.
-/

namespace PCFTyping

open Text (Span)

/-! ### Columns and paths -/

namespace Term

theorem mem_columns_self {t : Term} (h : t.InLanguage) (start : Nat) :
    (t.label, t.columnsFrom start) ∈ t.columns start := by
  cases t with
  | bareProj | bare => exact h.elim
  | _ => simp [columns, label]

/-- The columns of a child are listed with those of its term. -/
theorem columns_of_child {t child : Term} {i : Nat} (h : t.InLanguage)
    (hchild : t.children[i]? = some child) (start : Nat) :
    child.columns (start + (t.leftOf i).length) ⊆ t.columns start := by
  intro column hcolumn
  obtain ⟨hlt, rfl⟩ := List.getElem?_eq_some_iff.mp hchild
  cases t with
  | ident | number | truth | builtin => exact (Nat.not_lt_zero i hlt).elim
  | bareProj | bare => exact h.elim
  | fn | recur | proj =>
    obtain rfl : i = 0 := Nat.lt_one_iff.mp hlt
    exact List.mem_append_left _ hcolumn
  | app | letIn | pair =>
    obtain rfl | rfl : i = 0 ∨ i = 1 := Nat.le_one_iff_eq_zero_or_eq_one.mp (Nat.le_of_lt_succ hlt)
    · exact List.mem_append_left _ hcolumn
    · exact List.mem_append_right _ (List.mem_append_left _ hcolumn)
  | cond =>
    obtain rfl | rfl | rfl : i = 0 ∨ i = 1 ∨ i = 2 := by
      simp only [children, List.length_cons, List.length_nil] at hlt
      omega
    · exact List.mem_append_left _ hcolumn
    · exact List.mem_append_right _ (List.mem_append_left _ hcolumn)
    · exact List.mem_append_right _ (List.mem_append_right _ (List.mem_append_left _ hcolumn))

/-- The columns at a path are listed with the label of the sub-term there. -/
theorem mem_columns_of_follow? {t u : Term} {path : Path} (h : t.InLanguage)
    (hpath : t.follow? path = some u) (start : Nat) :
    ∃ span, t.columnsAt? start path = some span ∧ (u.label, span) ∈ t.columns start := by
  induction path generalizing t start with
  | nil =>
    cases hpath
    exact ⟨_, rfl, mem_columns_self h start⟩
  | cons i rest ih =>
    rw [follow?] at hpath
    obtain ⟨child, hchild, hrest⟩ := Option.bind_eq_some_iff.mp hpath
    obtain ⟨span, hspan, hmem⟩ := ih (h.child (List.mem_of_getElem? hchild)) hrest
      (start + (t.leftOf i).length)
    refine ⟨span, ?_, columns_of_child h hchild start hmem⟩
    rw [columnsAt?, hchild]
    exact hspan

/-- No object occurs twice in a term. -/
def Unshared (t : Term) : Prop := (t.occurrences.map fun place => place.2.label).Nodup

instance (t : Term) : Decidable t.Unshared :=
  inferInstanceAs (Decidable (t.occurrences.map fun place => place.2.label).Nodup)

theorem labels_underChild (i : Nat) (places : List (Path × Term)) :
    (underChild i places).map (fun place => place.2.label) =
      places.map fun place => place.2.label := by
  simp [underChild]

/-- Columns are listed for every place of a term. -/
theorem columns_labels_perm {t : Term} (h : t.InLanguage) (start : Nat) :
    ((t.columns start).map (·.1)).Perm (t.occurrences.map fun place => place.2.label) := by
  -- A term comes last in the one list and first in the other.
  have hself : ∀ {below below' : List Label} {label : Label}, below.Perm below' →
      (below ++ [label]).Perm (label :: below') :=
    fun hbelow => (List.perm_append_singleton _ _).trans (hbelow.cons _)
  induction t generalizing start with
  | ident | number | truth | builtin => exact .refl _
  | fn label _ _ body ih | recur label _ _ body ih | proj label _ body ih =>
    have hbody := ih (h.child (by simp [children]))
    simp only [columns, occurrences, List.map_append, List.map_cons, List.map_nil,
      labels_underChild]
    exact hself (hbody _)
  | app label first second ihf ihs | letIn label _ _ first second ihf ihs
  | pair label first second ihf ihs =>
    have hfirst := ihf (h.child (by simp [children]))
    have hsecond := ihs (h.child (by simp [children]))
    simp only [columns, occurrences, List.map_append, List.map_cons, List.map_nil,
      labels_underChild]
    rw [← List.append_assoc]
    exact hself ((hfirst _).append (hsecond _))
  | cond label condition thenBranch elseBranch ihc iht ihe =>
    have hcondition := ihc (h.child (by simp [children]))
    have hthen := iht (h.child (by simp [children]))
    have helse := ihe (h.child (by simp [children]))
    simp only [columns, occurrences, List.map_append, List.map_cons, List.map_nil,
      labels_underChild]
    rw [← List.append_assoc, ← List.append_assoc]
    exact hself (((hcondition _).append (hthen _)).append (helse _))
  | bareProj label inner ih => exact h.elim
  | bare label => exact h.elim

/-- The columns of an object that occurs once are the first listed for it. -/
theorem lookup_columns_of_unshared {t u : Term} {path : Path} (h : t.InLanguage)
    (hunshared : t.Unshared) (hpath : t.follow? path = some u) (start : Nat) :
    (t.columns start).lookup u.label = t.columnsAt? start path := by
  obtain ⟨span, hspan, hmem⟩ := mem_columns_of_follow? h hpath start
  have hnodup : ((t.columns start).map (·.1)).Nodup :=
    (columns_labels_perm h start).nodup_iff.mpr hunshared
  obtain ⟨before, after, hsplit⟩ := List.append_of_mem hmem
  rw [hspan, List.lookup_eq_some_iff]
  refine ⟨before, after, hsplit, ?_⟩
  intro entry hentry
  rw [hsplit, List.map_append, List.nodup_append] at hnodup
  have hne := hnodup.2.2 entry.1 (List.mem_map_of_mem hentry) u.label (by simp)
  simpa using hne.symm

end Term

/-! ### The line of a term -/

/-- Every sub-term of a term has a span. -/
def Layout.Covers (layout : Layout) (t : Term) : Prop :=
  ∀ u : Term, u.Within t → ∃ span, layout.span? u.label = some span

/-- A line on which the columns of a term were noted covers the term. -/
theorem Layout.Covers.of_columns {before after : Layout} {t : Term} {start : Nat}
    (h : t.InLanguage)
    (hspans : ∀ label, after.span? label =
      (before.span? label).or ((t.columns start).lookup label)) : after.Covers t := by
  rintro u ⟨path, hpath⟩
  obtain ⟨span, -, hmem⟩ := Term.mem_columns_of_follow? h hpath start
  rw [hspans]
  cases hbefore : before.span? u.label with
  | some noted => exact ⟨noted, Option.some_or⟩
  | none =>
    rw [Option.none_or]
    cases hlookup : (t.columns start).lookup u.label with
    | some found => exact ⟨found, rfl⟩
    | none =>
      have hne := List.lookup_eq_none_iff.mp hlookup _ hmem
      simp at hne

namespace Term

variable {t u : Term} {layout : Layout} {stop : Stop}

/-- A term that has a line of its own is legible, and its text is on the line. -/
theorem layout_lays (h : (Part.term t).layout = .ok layout) :
    t.Legible ∧ layout.text = t.text ∧ layout.Covers t ∧
      ∀ label, layout.span? label = (t.columns 0).lookup label := by
  have hplace := t.place_lays .empty rfl
  simp only [Part.layout, Part.place] at h
  split at h
  · rename_i result after hrun
    cases h
    obtain ⟨hlegible, -, htext, hspans⟩ := hplace.of_ok hrun
    exact ⟨hlegible, htext.trans String.empty_append, .of_columns hlegible.inLanguage hspans,
      hspans⟩
  · cases h

/-- A term without a line of its own has something without a text in it. -/
theorem unwritable_of_layout (h : (Part.term t).layout = .error stop) :
    ¬ t.Legible ∧ stop.Unwritable := by
  have hplace := t.place_lays .empty rfl
  simp only [Part.layout, Part.place] at h
  split at h
  · cases h
  · rename_i stopped after hrun
    cases h
    obtain ⟨hnot, -, hstop⟩ := hplace.of_error hrun
    exact ⟨hnot, hstop⟩

namespace Legible

/-- The line of a legible term covers it. -/
theorem layout_ok (h : t.Legible) : ∃ layout, (Part.term t).layout = .ok layout ∧
    layout.Covers t := by
  cases hlayout : (Part.term t).layout with
  | ok layout => exact ⟨layout, rfl, (layout_lays hlayout).2.2.1⟩
  | error stop => exact ((unwritable_of_layout hlayout).1 h).elim

theorem render_ok (h : t.Legible) : ∃ s, t.render = .ok s := ⟨t.text, render_eq_ok_iff.mpr ⟨h, rfl⟩⟩

/-- Any sub-term of a legible term can be underlined. -/
theorem mark_ok (h : t.Legible) (hu : u.Within t) (caption : String) :
    ∃ mark, Mark.of (.term t) (.term u) caption = .ok mark := by
  obtain ⟨layout, hlayout, hcovers⟩ := h.layout_ok
  obtain ⟨span, hspan⟩ := hcovers u hu
  refine ⟨⟨layout.text, span, caption⟩, ?_⟩
  simp only [Mark.of, hlayout, Part.label?, Option.bind_some, hspan, bind, Except.bind, pure,
    Except.pure]

end Legible

/-- If no object occurs twice, the span of an object is where it stands. -/
theorem span?_of_unshared (hlayout : (Part.term t).layout = .ok layout) (hunshared : t.Unshared)
    {path : Path} (hpath : t.follow? path = some u) :
    layout.span? u.label = t.columnsAt? 0 path := by
  obtain ⟨hlegible, -, -, hspans⟩ := layout_lays hlayout
  rw [hspans]
  exact lookup_columns_of_unshared hlegible.inLanguage hunshared hpath 0

/-! ### Writable terms -/

/-- Every node of a term can be written, whatever is made of its types. -/
structure Writable (t : Term) : Prop where
  inLanguage : t.InLanguage
  declared : ∀ type ∈ t.declared, type.Renderable

namespace Writable

theorem child (h : t.Writable) (hu : u ∈ t.children) : u.Writable where
  inLanguage := h.inLanguage.child hu
  declared := fun type htype => h.declared type (declared_of_children hu htype)

theorem within (h : t.Writable) (hu : u.Within t) : u.Writable :=
  hu.induction (fun _ _ hchild hv => hv.child hchild) h

theorem legible (h : t.Writable) : t.Legible :=
  ⟨h.inLanguage, fun type htype => (h.declared type htype).legible⟩

theorem layout_ok (h : t.Writable) : ∃ layout, (Part.term t).layout = .ok layout ∧
    layout.Covers t :=
  h.legible.layout_ok

theorem render_ok (h : t.Writable) : ∃ s, t.render = .ok s := h.legible.render_ok

end Writable

end Term

end PCFTyping
