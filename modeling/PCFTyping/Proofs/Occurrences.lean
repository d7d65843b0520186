import Mathlib.Data.List.Nodup
import PCFTyping.Proofs.Columns

/-!
The places of a term.

`Term.occurrences` lists the places of a term in pre-order, each with the
sub-term there, and `Term.follow?` walks along one path. They agree
(`Term.mem_occurrences_iff`): what is listed is what the paths lead to. The
sub-terms alone are listed as the term itself, followed by those of its children
(`Term.objects_eq`).

If no object occurs twice, an object tells its place (`Term.Unshared.path_eq`),
and the first path to it is the only one (`Term.Unshared.pathOf?_eq`).
-/

namespace PCFTyping

namespace Term

variable {t u u' : Term} {path path' : Path}

/-! ### Places and paths -/

/-- The term itself comes first, then the places of its children. -/
theorem occurrences_eq (t : Term) :
    t.occurrences =
      ([], t) :: (t.children.mapIdx fun i child => underChild i child.occurrences).flatten := by
  cases t <;> simp [occurrences, children]

/-- A place is that of the term itself or a place of one of its children. -/
theorem mem_occurrences_cases :
    (path, u) ∈ t.occurrences ↔ (path = [] ∧ u = t) ∨
      ∃ i child rest, t.children[i]? = some child ∧ (rest, u) ∈ child.occurrences ∧
        path = i :: rest := by
  rw [occurrences_eq, List.mem_cons, Prod.mk.injEq]
  refine or_congr_right ?_
  simp only [List.mem_flatten, List.mem_mapIdx, underChild]
  constructor
  · rintro ⟨_, ⟨i, hi, rfl⟩, hplace⟩
    obtain ⟨⟨rest, v⟩, hmem, ⟨⟩⟩ := List.mem_map.mp hplace
    exact ⟨i, t.children[i], rest, List.getElem?_eq_getElem hi, hmem, rfl⟩
  · rintro ⟨i, child, rest, hchild, hmem, rfl⟩
    obtain ⟨hi, rfl⟩ := List.getElem?_eq_some_iff.mp hchild
    exact ⟨_, ⟨i, hi, rfl⟩, List.mem_map_of_mem hmem⟩

/-- Every place is listed with the sub-term at the end of its path. -/
theorem mem_occurrences_iff : (path, u) ∈ t.occurrences ↔ t.follow? path = some u := by
  induction path generalizing t with
  | nil =>
    rw [mem_occurrences_cases, follow?]
    simp [eq_comm]
  | cons i rest ih =>
    rw [mem_occurrences_cases, follow?, Option.bind_eq_some_iff]
    constructor
    · rintro (⟨⟨⟩, -⟩ | ⟨_, child, _, hchild, hmem, ⟨⟩⟩)
      exact ⟨child, hchild, ih.mp hmem⟩
    · rintro ⟨child, hchild, hrest⟩
      exact .inr ⟨i, child, rest, hchild, ih.mpr hrest, rfl⟩

/-! ### Objects -/

/-- The sub-terms of a term in pre-order, an object as often as it occurs. -/
def objects (t : Term) : List Term := t.occurrences.map (·.2)

theorem mem_objects_iff : u ∈ t.objects ↔ u.Within t := by
  simp only [objects, List.mem_map, Within, ← mem_occurrences_iff]
  constructor
  · rintro ⟨⟨path, v⟩, hmem, rfl⟩
    exact ⟨path, hmem⟩
  · rintro ⟨path, hmem⟩
    exact ⟨(path, u), hmem, rfl⟩

theorem objects_underChild (i : Nat) (t : Term) :
    (underChild i t.occurrences).map (·.2) = t.objects := by
  simp [underChild, objects]

/-- A term comes before its children, and these from left to right. -/
theorem objects_eq (t : Term) : t.objects = t :: t.children.flatMap objects := by
  cases t <;> simp [objects, occurrences, children, objects_underChild]

/-- A sub-term is the term itself or a sub-term of one of its children. -/
theorem within_iff : u.Within t ↔ u = t ∨ ∃ child ∈ t.children, u.Within child := by
  rw [← mem_objects_iff, objects_eq]
  simp [mem_objects_iff]

/-- There is a first path to an object that occurs, and the object is at its
end. -/
theorem exists_pathOf? (hu : t.follow? path = some u) :
    ∃ first v, t.pathOf? u.label = some first ∧ t.follow? first = some v ∧
      v.label = u.label := by
  rw [pathOf?]
  cases hfind : t.occurrences.find? fun place => place.2.label == u.label with
  | none =>
    have hnone := List.find?_eq_none.mp hfind (path, u) (mem_occurrences_iff.mpr hu)
    simp at hnone
  | some place =>
    have hlabel : place.2.label = u.label := by simpa using List.find?_some hfind
    have hplace := mem_occurrences_iff.mp (List.mem_of_find?_eq_some hfind)
    exact ⟨place.1, place.2, rfl, hplace, hlabel⟩

/-! ### Terms in which no object occurs twice -/

/-- An object that occurs once tells its place. -/
theorem Unshared.path_eq (h : t.Unshared) (hu : t.follow? path = some u)
    (hu' : t.follow? path' = some u') (hlabel : u.label = u'.label) : path = path' := by
  have hplace : (path, u) = (path', u') := List.inj_on_of_nodup_map h
    (mem_occurrences_iff.mpr hu) (mem_occurrences_iff.mpr hu') hlabel
  exact congrArg Prod.fst hplace

/-- The first path to an object that occurs once is the only one. -/
theorem Unshared.pathOf?_eq (h : t.Unshared) (hu : t.follow? path = some u) :
    t.pathOf? u.label = some path := by
  obtain ⟨first, v, hfirst, hv, hlabel⟩ := exists_pathOf? hu
  rw [hfirst, h.path_eq hv hu hlabel]

end Term

end PCFTyping
