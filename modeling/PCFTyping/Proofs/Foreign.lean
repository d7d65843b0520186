import PCFTyping.Proofs.Obstacles
import PCFTyping.Proofs.Telling
import PCFTyping.Proofs.Typing.FirstFailure

/-!
Nodes outside the language.

A term of one of the last two shapes is foreign: there is no rule for it and no
layout. A term is in the language exactly if no node of it is foreign
(`Term.inLanguage_iff`); otherwise one of its foreign nodes is the first in
pre-order (`Term.firstForeign?`).

* If all declared types have a text, writing a term out stops at its first
  foreign node (`Term.firstObstacle?_of_foreign`), so neither the term nor the
  picture of any fault in it can be completed (`Term.shown_of_foreign`,
  `Fault.picture_of_foreign`).
* Checking gets stuck at a foreign node (`Term.stuck_of_foreign`), if it gets
  there at all, and a term with a foreign node has no type
  (`HasType.inLanguage`).
-/

namespace PCFTyping

namespace Term

/-! ### The first foreign node -/

/-- The first foreign node of a term in pre-order. -/
def firstForeign? (t : Term) : Option Term := t.objects.find? foreign

/-- A term comes before its children, and these from left to right. -/
theorem firstForeign?_eq (t : Term) :
    t.firstForeign? = if t.foreign then some t else t.children.findSome? firstForeign? := by
  rw [firstForeign?, objects_eq, List.find?_cons, List.find?_flatMap]
  cases t.foreign with
  | true => rfl
  | false => rfl

theorem firstForeign?_eq_none_iff {t : Term} :
    t.firstForeign? = none ↔ ∀ u : Term, u.Within t → u.foreign = false := by
  simp [firstForeign?, mem_objects_iff]

theorem inLanguage_iff_children {t : Term} :
    t.InLanguage ↔ t.foreign = false ∧ ∀ u ∈ t.children, u.InLanguage := by
  cases t <;> simp [InLanguage, foreign, children]

/-- A term is in the language exactly if it has no foreign node. -/
theorem inLanguage_iff {t : Term} : t.InLanguage ↔ t.firstForeign? = none := by
  induction t <;> rw [inLanguage_iff_children, firstForeign?_eq] <;>
    simp_all [foreign, children]

end Term

/-- A term with a type is in the language. -/
theorem HasType.inLanguage {scope : Scope} {t : Term} {τ : Shape} (h : HasType scope t τ) :
    t.InLanguage := by
  induction h <;> simp_all [Term.InLanguage]

/-- The checker cannot get past a foreign node. -/
theorem Term.stuck_of_foreign {scope : Scope} {t : Term} (h : t.foreign = true) :
    Stuck scope t := by
  constructor
  · intro τ htype
    cases htype <;> cases h
  · intro i s u hstep
    cases hstep <;> cases h

/-- There are rules for the nodes that break. -/
theorem Breaks.not_foreign {scope : Scope} {t : Term} {blame : Blame} (h : Breaks scope t blame) :
    t.foreign = false := by
  cases h <;> rfl

/-! ### Writing stops -/

namespace Term

variable {t first : Term}

/-- If all declared types have a text, only foreign nodes are obstacles, and the
first of them counts. -/
theorem firstObstacle?_of_foreign (hfirst : t.firstForeign? = some first)
    (htypes : ∀ type ∈ t.declared, type.Legible) :
    ∃ path, t.firstObstacle? = some (path, .noLayout first.kindName) := by
  have hcause : ∀ {u : Term} {stop : Stop}, u.Within t → u.obstacle? = some stop →
      u.foreign = true ∧ stop = .noLayout u.kindName := by
    intro u stop hu hstop
    rcases obstacle?_eq_some_iff.mp hstop with hforeign | ⟨⟨type, htype, hbare⟩, -⟩
    · exact hforeign
    · have hlegible := htypes type (mem_declared_iff.mpr ⟨u, hu, htype⟩)
      rw [Ty.hasBare_of_written hlegible.written_words] at hbare
      cases hbare
  have hsome : t.firstObstacle? ≠ none := by
    rw [firstObstacle?_ne_none_iff]
    exact .inl ⟨first, mem_objects_iff.mp (List.mem_of_find?_eq_some hfirst),
      List.find?_some hfirst⟩
  obtain ⟨found, hfound⟩ := Option.ne_none_iff_exists'.mp hsome
  -- The place of the first obstacle is the first one with a foreign node.
  obtain ⟨earlier, ⟨path, u⟩, later, hplaces, hplace, hearlier⟩ :=
    List.findSome?_eq_some_iff.mp hfound
  obtain ⟨stop, hstop, rfl⟩ := Option.map_eq_some_iff.mp hplace
  obtain ⟨hforeign, rfl⟩ := hcause ⟨path, mem_occurrences_iff.mp (by simp [hplaces])⟩ hstop
  have hu : t.firstForeign? = some u := by
    rw [firstForeign?, objects, hplaces, List.find?_eq_some_iff_append]
    refine ⟨hforeign, earlier.map (·.2), later.map (·.2), by simp, ?_⟩
    intro v hv
    obtain ⟨place, hplace, rfl⟩ := List.mem_map.mp hv
    have hnone := Option.map_eq_none_iff.mp (hearlier place hplace)
    rw [Bool.not_eq_true', ← Bool.not_eq_true]
    intro hforeign
    cases hnone.symm.trans (obstacle?_eq_some_iff.mpr (.inl ⟨hforeign, rfl⟩))
  cases hfirst.symm.trans hu
  exact ⟨path, hfound⟩

/-! ### What cannot be shown -/

theorem layout_of_foreign (hfirst : t.firstForeign? = some first)
    (htypes : ∀ type ∈ t.declared, type.Legible) :
    (Part.term t).layout = .error (.noLayout first.kindName) := by
  obtain ⟨path, hobstacle⟩ := firstObstacle?_of_foreign hfirst htypes
  have hplace := t.place_halts fun type htype => (htypes type htype).stopsAtBare
  rw [halfway?, hobstacle] at hplace
  have hhalts := hplace.ensures .empty
  simp only [Part.layout, Part.place]
  cases hrun : t.place.run .empty with
  | ok _ layout => cases (hhalts.of_ok hrun).1
  | error stop layout =>
    obtain ⟨half, ⟨⟩, -⟩ := hhalts.of_error hrun
    rfl

theorem shown_of_foreign (hfirst : t.firstForeign? = some first)
    (htypes : ∀ type ∈ t.declared, type.Legible) :
    (Part.term t).shown = .error (.noLayout first.kindName) := by
  rw [Part.shown, render, layout_of_foreign hfirst htypes]
  rfl

end Term

/-- No fault in a term with a foreign node can be drawn: the picture quotes the
whole term. -/
theorem Fault.picture_of_foreign {t first : Term} {scope : Scope} {fault : Fault}
    (hfirst : t.firstForeign? = some first) (htypes : ∀ type ∈ t.declared, type.Legible)
    (hscope : scope.All Ty.Renderable) (hfault : fault.Concerns Ty.Renderable t) :
    fault.complaint.picture (.scope scope) (.term t) = .error (.noLayout first.kindName) := by
  have hcause : FailsOnly (· = .noLayout first.kindName)
      (fault.complaint.picture (.scope scope) (.term t)) := by
    refine picture_failsOnly hfault.ident ?_ ?_ (Scope.footer_ok hscope).failsOnly
    · intro u hu caption stop hstop
      rw [Mark.of, Term.layout_of_foreign hfirst htypes] at hstop
      cases hstop
      rfl
    · exact fun type htype => Succeeds.failsOnly (hfault.types type htype).render_ok
  cases hpicture : fault.complaint.picture (.scope scope) (.term t) with
  | ok picture =>
    have hnone := Term.inLanguage_iff.mp (legible_of_picture hpicture).inLanguage
    cases hfirst.symm.trans hnone
  | error stop => rw [hcause stop hpicture]

end PCFTyping
