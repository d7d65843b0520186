import PCFTyping.Proofs.Underlines

/-!
Which appearance of an object its span is about.

A span is noted when an object is complete, so the columns of a term are listed
after those of its children (`Term.columns`). The places of a term are listed in
pre-order (`Term.occurrences`), and there the first place of an object is looked
for. Both orders lead to the same columns (`Term.lookup_columns`), because an
object is no part of itself and no two of its places are nested.

Where sub-terms stand is a matter of paths alone.

* A child stands inside its term, and something of the term is left beside it
  (`Term.length_of_child`).
* Between two children there is something (`Term.length_between`).
* So no two paths lead to the same columns (`Term.columnsAt?_inj`).

`Term.spans_of_first_appearances` puts this together.
-/

namespace PCFTyping

open Text (Span)

/-- One span is inside another and is not the whole of it. -/
def Text.Span.StrictlyWithin (inner outer : Span) : Prop :=
  outer.start ≤ inner.start ∧ inner.stop ≤ outer.stop ∧ inner ≠ outer

namespace Term

variable {t u a b : Term} {i j start : Nat} {path path' : Path} {span : Span}

/-! ### Two orders of one list -/

/-- What a term takes over from its children, every term has. -/
theorem children_induction {motive : Term → Prop}
    (h : ∀ t : Term, (∀ child ∈ t.children, motive child) → motive t) (t : Term) : motive t := by
  induction t with
  | ident | number | truth | builtin | bare => exact h _ nofun
  | fn _ _ _ _ ih | recur _ _ _ _ ih | proj _ _ _ ih | bareProj _ _ ih =>
    exact h _ (by simpa [children] using ih)
  | app _ _ _ ihf ihs | letIn _ _ _ _ _ ihf ihs | pair _ _ _ ihf ihs =>
    exact h _ (by simpa [children] using ⟨ihf, ihs⟩)
  | cond _ _ _ _ ihc iht ihe => exact h _ (by simpa [children] using ⟨ihc, iht, ihe⟩)

/-- A sub-term of a child has fewer places than the term. -/
theorem length_objects_lt (ha : a ∈ t.children) (hu : u.Within a) :
    u.objects.length < t.objects.length := by
  have hstep : ∀ {t a : Term}, a ∈ t.children → a.objects.length < t.objects.length := by
    intro t a ha
    obtain ⟨before, after, hsplit⟩ := List.append_of_mem ha
    rw [objects_eq t, hsplit]
    simp only [List.flatMap_append, List.flatMap_cons, List.length_cons, List.length_append]
    omega
  have hle : u.objects.length ≤ a.objects.length :=
    hu.induction (fun _ _ hv hle => Nat.le_trans (Nat.le_of_lt (hstep hv)) hle) (Nat.le_refl _)
  exact Nat.lt_of_le_of_lt hle (hstep ha)

/-- Labels are the identities of objects, so no object is a part of itself. -/
theorem Coherent.label_ne (h : Coherent [t]) (ha : a ∈ t.children) (hu : u.Within a) :
    u.label ≠ t.label := by
  intro hlabel
  obtain rfl : u = t := h t (by simp) t (by simp) u t (hu.child ha) (.refl t) hlabel
  exact Nat.lt_irrefl _ (length_objects_lt ha hu)

theorem Coherent.child (h : Coherent [t]) (ha : a ∈ t.children) : Coherent [a] := by
  intro s hs s' hs' u u' hu hu' hlabel
  cases List.mem_singleton.mp hs
  cases List.mem_singleton.mp hs'
  exact h t (by simp) t (by simp) u u' (hu.child ha) (hu'.child ha) hlabel

/-- Where no object occurs twice, a label stands for one term. -/
theorem Unshared.coherent (h : t.Unshared) : Coherent [t] := by
  intro s hs s' hs' u u' hu hu' hlabel
  cases List.mem_singleton.mp hs
  cases List.mem_singleton.mp hs'
  obtain ⟨path, hu⟩ := hu
  obtain ⟨path', hu'⟩ := hu'
  obtain rfl := h.path_eq hu hu' hlabel
  exact Option.some.inj (hu.symm.trans hu')

/-- The columns of the children come first, those of the term itself come last. -/
theorem columns_eq (h : t.InLanguage) (start : Nat) :
    t.columns start =
      (t.children.mapIdx fun i child => child.columns (start + (t.leftOf i).length)).flatten ++
        [(t.label, t.columnsFrom start)] := by
  cases t with
  | bareProj | bare => exact h.elim
  | _ => simp [columns, children, label]

/-- Every place has columns. -/
theorem columnsAt?_of_follow? (h : t.follow? path = some u) (start : Nat) :
    ∃ left, t.columnsAt? start path = some (u.columnsFrom left) ∧
      ∀ rest, t.columnsAt? start (path ++ rest) = u.columnsAt? left rest := by
  induction path generalizing t start with
  | nil =>
    cases h
    exact ⟨start, rfl, fun rest => rfl⟩
  | cons i path ih =>
    rw [follow?] at h
    obtain ⟨child, hchild, hpath⟩ := Option.bind_eq_some_iff.mp h
    obtain ⟨left, hcolumns, hbelow⟩ := ih hpath (start + (t.leftOf i).length)
    refine ⟨left, ?_, ?_⟩
    · rw [columnsAt?, hchild]
      exact hcolumns
    · intro rest
      rw [List.cons_append, columnsAt?, hchild]
      exact hbelow rest

/-- The columns of the places of an object, in pre-order. -/
def columnsOf (t : Term) (start : Nat) (label : Label) : List Span :=
  t.occurrences.filterMap fun place =>
    if place.2.label = label then t.columnsAt? start place.1 else none

/-- What is not in a term has no columns there. -/
theorem columnsOf_eq_nil {label : Label} (h : ∀ u : Term, u.Within t → u.label ≠ label)
    (start : Nat) : t.columnsOf start label = [] := by
  refine List.filterMap_eq_nil_iff.mpr ?_
  intro place hplace
  rw [if_neg (h place.2 ⟨place.1, mem_occurrences_iff.mp hplace⟩)]

/-- An object that is not the term itself has the places that it has in the
children. -/
theorem columnsOf_children (t : Term) (start : Nat) (label : Label) :
    t.columnsOf start label = (if t.label = label then [t.columnsFrom start] else []) ++
      (t.children.mapIdx fun i child =>
        child.columnsOf (start + (t.leftOf i).length) label).flatten := by
  have hself : t.columnsAt? start [] = some (t.columnsFrom start) := rfl
  rw [columnsOf, occurrences_eq, ← List.singleton_append, List.filterMap_append,
    List.filterMap_flatten]
  congr 1
  · split <;> rename_i hlabel <;> simp [hlabel, hself]
  · congr 1
    refine List.ext_getElem? fun i => ?_
    rw [List.getElem?_map, List.getElem?_mapIdx, List.getElem?_mapIdx]
    cases hchild : t.children[i]? with
    | none => rfl
    | some child =>
      have hbelow : ∀ path, t.columnsAt? start (i :: path) =
          child.columnsAt? (start + (t.leftOf i).length) path := by
        intro path
        rw [columnsAt?, hchild, Option.bind_some]
      simp [columnsOf, underChild, hbelow]

/-- The columns that are listed for a label are those of the places of its object.
No two of them are nested, so it does not matter whether a term comes before its
children. -/
theorem filterMap_columns (h : t.InLanguage) (hobjects : Coherent [t]) (start : Nat)
    (label : Label) :
    (t.columns start).filterMap (fun entry => if label == entry.1 then some entry.2 else none) =
      t.columnsOf start label := by
  induction t using children_induction generalizing start with
  | h t ih =>
    have hbelow : (t.children.mapIdx fun i child =>
        child.columns (start + (t.leftOf i).length)).map (List.filterMap fun entry =>
          if label == entry.1 then some entry.2 else none) =
        t.children.mapIdx fun i child => child.columnsOf (start + (t.leftOf i).length) label := by
      refine List.ext_getElem? fun i => ?_
      rw [List.getElem?_map, List.getElem?_mapIdx, List.getElem?_mapIdx]
      cases hchild : t.children[i]? with
      | none => rfl
      | some child =>
        have hmem := List.mem_of_getElem? hchild
        exact congrArg some (ih child hmem (h.child hmem) (hobjects.child hmem) _)
    rw [columns_eq h, columnsOf_children, List.filterMap_append, List.filterMap_flatten, hbelow]
    by_cases hlabel : t.label = label
    · -- The term itself is the only place of its object.
      subst hlabel
      have hnone : (t.children.mapIdx fun i child =>
          child.columnsOf (start + (t.leftOf i).length) t.label).flatten = [] := by
        refine List.flatten_eq_nil_iff.mpr ?_
        intro list hlist
        obtain ⟨i, hi, rfl⟩ := List.mem_mapIdx.mp hlist
        exact columnsOf_eq_nil (fun u hu => hobjects.label_ne (List.getElem_mem hi) hu) _
      simp [hnone]
    · simp [hlabel, Ne.symm hlabel]

/-- The first of the columns of an object are those of its first place. -/
theorem head?_columnsOf (t : Term) (start : Nat) (label : Label) :
    (t.columnsOf start label).head? = (t.pathOf? label).bind (t.columnsAt? start) := by
  have hplaces : ∀ place ∈ t.occurrences, ∃ span, t.columnsAt? start place.1 = some span := by
    intro place hplace
    obtain ⟨left, hcolumns, -⟩ := columnsAt?_of_follow? (mem_occurrences_iff.mp hplace) start
    exact ⟨_, hcolumns⟩
  rw [columnsOf, List.head?_filterMap, pathOf?]
  generalize t.occurrences = places at hplaces
  induction places with
  | nil => rfl
  | cons place places ih =>
    obtain ⟨⟨span, hspan⟩, hplaces⟩ := List.forall_mem_cons.mp hplaces
    rw [List.find?_cons, List.findSome?_cons]
    by_cases hlabel : place.2.label = label
    · simp [hlabel, hspan]
    · have hne : (place.2.label == label) = false := beq_eq_false_iff_ne.mpr hlabel
      simp only [hlabel, hne, if_false]
      exact ih hplaces

/-- The columns listed first for a label are those of the first place. -/
theorem lookup_columns (h : t.InLanguage) (hobjects : Coherent [t]) (start : Nat) (label : Label) :
    (t.columns start).lookup label = (t.pathOf? label).bind (t.columnsAt? start) := by
  rw [List.lookup_eq_findSome?, ← List.head?_filterMap, filterMap_columns h hobjects,
    head?_columnsOf]

/-- The first place of a sub-term has the sub-term there. -/
theorem Coherent.exists_pathOf? (h : Coherent [t]) (hu : u.Within t) :
    ∃ path, t.pathOf? u.label = some path ∧ t.follow? path = some u := by
  obtain ⟨path, hpath⟩ := hu
  obtain ⟨first, v, hfirst, hv, hlabel⟩ := Term.exists_pathOf? hpath
  obtain rfl : v = u := h t (by simp) t (by simp) v u ⟨first, hv⟩ ⟨path, hpath⟩ hlabel
  exact ⟨first, hfirst, hv⟩

/-! ### Where sub-terms stand -/

/-- A child stands inside its term, and is not all of it. -/
theorem length_of_child (h : t.InLanguage) (ha : t.children[i]? = some a) :
    (t.leftOf i).length + a.text.length ≤ t.text.length ∧ a.text.length < t.text.length := by
  have hclose : ")".length = 1 := rfl
  have hcolon : ":".length = 1 := rfl
  have hlet : "let ".length = 4 := rfl
  obtain ⟨hlt, rfl⟩ := List.getElem?_eq_some_iff.mp ha
  cases t with
  | ident | number | truth | builtin => exact (Nat.not_lt_zero i hlt).elim
  | bareProj | bare => exact h.elim
  | fn | recur | proj =>
    obtain rfl : i = 0 := Nat.lt_one_iff.mp hlt
    simp only [children, List.getElem_cons_zero, leftOf, text, String.length_append]
    omega
  | app | letIn | pair =>
    obtain rfl | rfl : i = 0 ∨ i = 1 := Nat.le_one_iff_eq_zero_or_eq_one.mp (Nat.le_of_lt_succ hlt)
    all_goals
      simp only [children, List.getElem_cons_zero, List.getElem_cons_succ, leftOf, text,
        String.length_append, String.length_empty]
      omega
  | cond =>
    obtain rfl | rfl | rfl : i = 0 ∨ i = 1 ∨ i = 2 := by
      simp only [children, List.length_cons, List.length_nil] at hlt
      omega
    all_goals
      simp only [children, List.getElem_cons_zero, List.getElem_cons_succ, leftOf, text,
        String.length_append]
      omega

/-- Between two children there is something. -/
theorem length_between (ha : t.children[i]? = some a) (hb : t.children[j]? = some b)
    (hlt : i < j) : (t.leftOf i).length + a.text.length < (t.leftOf j).length := by
  have happ : " (".length = 2 := rfl
  have hthen : ") then (".length = 8 := rfl
  have helse : ") else (".length = 8 := rfl
  have hin : " in ".length = 4 := rfl
  have hcomma : ", ".length = 2 := rfl
  obtain ⟨hi, rfl⟩ := List.getElem?_eq_some_iff.mp ha
  obtain ⟨hj, rfl⟩ := List.getElem?_eq_some_iff.mp hb
  cases t with
  | ident | number | truth | builtin | bare => exact (Nat.not_lt_zero i hi).elim
  | fn | recur | proj | bareProj =>
    obtain rfl : j = 0 := Nat.lt_one_iff.mp hj
    exact (Nat.not_lt_zero i hlt).elim
  | app | letIn | pair =>
    obtain ⟨rfl, rfl⟩ : i = 0 ∧ j = 1 := by
      simp only [children, List.length_cons, List.length_nil] at hj
      omega
    simp only [children, List.getElem_cons_zero, leftOf, String.length_append,
      String.length_empty]
    omega
  | cond =>
    obtain ⟨rfl, rfl⟩ | ⟨rfl, rfl⟩ | ⟨rfl, rfl⟩ :
        i = 0 ∧ j = 1 ∨ i = 0 ∧ j = 2 ∨ i = 1 ∧ j = 2 := by
      simp only [children, List.length_cons, List.length_nil] at hj
      omega
    all_goals
      simp only [children, List.getElem_cons_zero, List.getElem_cons_succ, leftOf,
        String.length_append]
      omega

/-- What is at the end of a path stands inside the whole, and a proper sub-term
is not all of it. -/
theorem columnsAt?_bounds (h : t.InLanguage) (hspan : t.columnsAt? start path = some span) :
    start ≤ span.start ∧ span.start ≤ span.stop ∧ span.stop ≤ start + t.text.length ∧
      (path ≠ [] → span.stop - span.start < t.text.length) := by
  induction path generalizing t start with
  | nil =>
    cases hspan
    simp [columnsFrom]
  | cons i path ih =>
    rw [columnsAt?] at hspan
    obtain ⟨child, hchild, hbelow⟩ := Option.bind_eq_some_iff.mp hspan
    obtain ⟨hle, hlt⟩ := length_of_child h hchild
    obtain ⟨hstart, hspan, hstop, -⟩ := ih (h.child (List.mem_of_getElem? hchild)) hbelow
    refine ⟨by omega, hspan, by omega, fun _ => by omega⟩

/-- Columns of a proper sub-term are strictly inside those of the whole. -/
theorem columnsAt?_strictlyWithin (h : t.InLanguage)
    (hspan : t.columnsAt? start path = some span) (hpath : path ≠ []) :
    span.StrictlyWithin (t.columnsFrom start) := by
  obtain ⟨hstart, -, hstop, hproper⟩ := columnsAt?_bounds h hspan
  refine ⟨hstart, hstop, ?_⟩
  rintro rfl
  have hwidth := hproper hpath
  simp only [columnsFrom] at hwidth
  omega

/-- No two paths lead to the same columns. -/
theorem columnsAt?_inj (h : t.InLanguage) (hspan : t.columnsAt? start path = some span)
    (hspan' : t.columnsAt? start path' = some span) : path = path' := by
  induction path generalizing t start path' with
  | nil =>
    cases hspan
    by_contra hne
    exact (columnsAt?_strictlyWithin h hspan' (Ne.symm hne)).2.2 rfl
  | cons i rest ih =>
    cases path' with
    | nil =>
      cases hspan'
      exact ((columnsAt?_strictlyWithin h hspan (by simp)).2.2 rfl).elim
    | cons j rest' =>
      rw [columnsAt?] at hspan hspan'
      obtain ⟨a, ha, hbelow⟩ := Option.bind_eq_some_iff.mp hspan
      obtain ⟨b, hb, hbelow'⟩ := Option.bind_eq_some_iff.mp hspan'
      have hlanguage := h.child (List.mem_of_getElem? ha)
      have hin := columnsAt?_bounds hlanguage hbelow
      have hin' := columnsAt?_bounds (h.child (List.mem_of_getElem? hb)) hbelow'
      -- Columns inside two different children are not the same.
      rcases Nat.lt_trichotomy i j with hlt | rfl | hlt
      · have hbetween := length_between ha hb hlt
        omega
      · cases ha.symm.trans hb
        rw [ih hlanguage hbelow hbelow']
      · have hbetween := length_between hb ha hlt
        omega

/-! ### Spans -/

theorem follow?_append (h : t.follow? path = some u) (rest : Path) :
    t.follow? (path ++ rest) = u.follow? rest := by
  induction path generalizing t with
  | nil =>
    cases h
    rfl
  | cons i path ih =>
    rw [follow?] at h
    obtain ⟨child, hchild, hpath⟩ := Option.bind_eq_some_iff.mp h
    rw [List.cons_append, follow?, hchild]
    exact ih hpath

/-- If no object occurs twice, a sub-term and what is below it have the spans
that they stand in. -/
theorem Unshared.spans_below {layout : Layout} (hunshared : t.Unshared)
    (hlayout : (Part.term t).layout = .ok layout) (hu : t.follow? path = some u) :
    ∃ left, layout.span? u.label = some (u.columnsFrom left) ∧
      ∀ (rest : Path) (v : Term), u.follow? rest = some v →
        layout.span? v.label = u.columnsAt? left rest := by
  obtain ⟨left, hcolumns, hbelow⟩ := columnsAt?_of_follow? hu 0
  refine ⟨left, ?_, ?_⟩
  · rw [span?_of_unshared hlayout hunshared hu, hcolumns]
  · intro rest v hv
    rw [span?_of_unshared hlayout hunshared ((follow?_append hu rest).trans hv), hbelow]

/-- **A span is that of the first appearance.** Take a term of the language whose
declared types are renderable and in which a label stands for one object. It has
a line, which is its text. Every object in it has a span there, namely the columns
of its first place in pre-order, and the columns of a place are found by adding up
what stands to the left of it. Suppose that no object occurs twice. Then the span
of a proper sub-term is strictly inside the span of every term that it is a part
of. The spans of two children of one term are in the order of the children, with
at least one character between them. So different sub-terms have different
spans. -/
theorem spans_of_first_appearances (hterm : t.InLanguage)
    (htypes : ∀ type ∈ t.declared, type.Renderable) (hobjects : Coherent [t]) :
    ∃ layout, (Part.term t).layout = .ok layout ∧ layout.text = t.text ∧
      (∀ u : Term, u.Within t → ∃ path span, t.pathOf? u.label = some path ∧
        t.follow? path = some u ∧ t.columnsAt? 0 path = some span ∧
        layout.span? u.label = some span) ∧
      (t.Unshared →
        (∀ (path rest : Path) (u v : Term), t.follow? path = some u → rest ≠ [] →
          u.follow? rest = some v →
          ∃ outer inner, layout.span? u.label = some outer ∧
            layout.span? v.label = some inner ∧ inner.StrictlyWithin outer) ∧
        (∀ (path : Path) (u a b : Term) (i j : Nat), t.follow? path = some u →
          u.children[i]? = some a → u.children[j]? = some b → i < j →
          ∃ left right, layout.span? a.label = some left ∧ layout.span? b.label = some right ∧
            left.stop < right.start) ∧
        ∀ u v : Term, u.Within t → v.Within t →
          layout.span? u.label = layout.span? v.label → u = v) := by
  have hwritable : t.Writable := ⟨hterm, htypes⟩
  obtain ⟨layout, hlayout, -⟩ := hwritable.layout_ok
  obtain ⟨-, htext, -, hspans⟩ := layout_lays hlayout
  refine ⟨layout, hlayout, htext, ?_, fun hunshared => ⟨?_, ?_, ?_⟩⟩
  · intro u hu
    obtain ⟨path, hpath, hfollow⟩ := hobjects.exists_pathOf? hu
    obtain ⟨left, hcolumns, -⟩ := columnsAt?_of_follow? hfollow 0
    refine ⟨path, _, hpath, hfollow, hcolumns, ?_⟩
    rw [hspans, lookup_columns hterm hobjects, hpath, Option.bind_some, hcolumns]
  · intro path rest u v hu hrest hv
    have hlanguage := (hwritable.within ⟨path, hu⟩).inLanguage
    obtain ⟨left, houter, hbelow⟩ := hunshared.spans_below hlayout hu
    obtain ⟨right, hinner, -⟩ := columnsAt?_of_follow? hv left
    exact ⟨_, _, houter, (hbelow rest v hv).trans hinner,
      columnsAt?_strictlyWithin hlanguage hinner hrest⟩
  · intro path u a b i j hu ha hb hlt
    obtain ⟨left, -, hbelow⟩ := hunshared.spans_below hlayout hu
    have hbetween := length_between ha hb hlt
    have hchild : ∀ {i : Nat} {a : Term}, u.children[i]? = some a →
        layout.span? a.label = some (a.columnsFrom (left + (u.leftOf i).length)) := by
      intro i a ha
      rw [hbelow [i] a (by rw [follow?, ha]; rfl), columnsAt?, ha]
      rfl
    refine ⟨_, _, hchild ha, hchild hb, ?_⟩
    simp only [columnsFrom]
    omega
  · rintro u v ⟨path, hu⟩ ⟨path', hv⟩ hsame
    rw [span?_of_unshared hlayout hunshared hu, span?_of_unshared hlayout hunshared hv] at hsame
    obtain ⟨left, hcolumns, -⟩ := columnsAt?_of_follow? hu 0
    obtain rfl := columnsAt?_inj hterm hcolumns (hsame.symm.trans hcolumns)
    exact Option.some.inj (hu.symm.trans hv)

/-- An identifier is the body of a function and also its argument. Its span is
that of the body, which is deeper in the term but comes first. Two numbers of one
text have different spans. -/
theorem spans_of_first_appearances_twice :
    let x : Name := ⟨"x", by decide⟩
    let shared : Term := .app 2 (.fn 1 x .integer (.ident 0 x)) (.ident 0 x)
    let unshared : Term := .app 2 (.number 0 7) (.number 1 7)
    (∃ layout, (Part.term shared).layout = .ok layout ∧ shared.pathOf? 0 = some [0, 0] ∧
      shared.follow? [1] = some (.ident 0 x) ∧ layout.span? 0 = some ⟨16, 17⟩) ∧
    ∃ layout, (Part.term unshared).layout = .ok layout ∧ layout.span? 0 ≠ layout.span? 1 := by
  intro x shared unshared
  have hinteger : Ty.integer.Renderable := Ty.everywhere_prim.mpr ⟨_, rfl⟩
  have hcoherent : Coherent [shared] := by
    have hobjects : [shared].flatMap objects =
        [shared, .fn 1 x .integer (.ident 0 x), .ident 0 x, .ident 0 x] := rfl
    rw [coherent_iff, hobjects]
    simp [shared, label]
  constructor
  · obtain ⟨layout, hlayout, -, hfirst, -⟩ := spans_of_first_appearances (t := shared)
      (by simp [shared, InLanguage]) (by simpa [shared, declared] using hinteger) hcoherent
    obtain ⟨path, span, hpath, -, hcolumns, hspan⟩ := hfirst (.ident 0 x) ⟨[1], rfl⟩
    obtain rfl : [0, 0] = path := Option.some.inj hpath
    have hbody : shared.columnsAt? 0 [0, 0] = some ⟨16, 17⟩ := by decide +kernel
    obtain rfl : ⟨16, 17⟩ = span := Option.some.inj (hbody.symm.trans hcolumns)
    exact ⟨layout, hlayout, hpath, rfl, hspan⟩
  · have hunshared : unshared.Unshared := by decide
    obtain ⟨layout, hlayout, -, -, hspans⟩ := spans_of_first_appearances (t := unshared)
      (by simp [unshared, InLanguage]) (by simp [unshared, declared]) hunshared.coherent
    refine ⟨layout, hlayout, ?_⟩
    intro hsame
    cases (hspans hunshared).2.2 (.number 0 7) (.number 1 7) ⟨[0], rfl⟩ ⟨[1], rfl⟩ hsame

end Term

end PCFTyping
