import Mathlib.Data.List.Nodup
import PCFTyping.Scope.Basic

/-!
What the list of bindings says about a scope.

A lookup goes from the innermost binding outwards and stops at the first hit.
`Scope.bindings` is filled the other way round, and a binding that is met again
is moved to the end.

* Both see the same bindings (`Scope.lookup_eq`, `Scope.mem_names_bindings`).
* A name is listed once (`Scope.nodup_bindings`), in the order of the innermost
  bindings (`Scope.bindings_in_order`).
* A list in which no name is repeated is the list of bindings of the scope that
  is made of it (`Scope.ofMapping?_ok`, `Scope.bindings_ofBindings`).

So a scope can be made again from its bindings. What is lost is the bindings
that nobody can see (`Scope.tidy`).
-/

namespace PCFTyping

namespace Scope

variable {scope scope' : Scope} {frames items : List (String × Ty)} {name : String}

/-! ### Names -/

/-- Every name of a stack is visible, and no other. -/
theorem mem_names_visible : name ∈ (visible frames).map (·.1) ↔ name ∈ frames.map (·.1) := by
  induction frames with
  | nil => rfl
  | cons binding rest ih =>
    by_cases hname : name = binding.1
    · simp [visible, hname]
    · have hfilter : name ∈ ((visible rest).filter (·.1 ≠ binding.1)).map (·.1) ↔
          name ∈ (visible rest).map (·.1) := by
        simp only [List.mem_map, List.mem_filter, decide_eq_true_eq]
        constructor
        · rintro ⟨entry, ⟨hentry, -⟩, rfl⟩
          exact ⟨entry, hentry, rfl⟩
        · rintro ⟨entry, hentry, rfl⟩
          exact ⟨entry, ⟨hentry, hname⟩, rfl⟩
      simp only [visible, List.map_append, List.mem_append, hfilter, ih]
      simp [hname]

theorem mem_names_bindings :
    name ∈ scope.bindings.map (·.1) ↔ name ∈ scope.frames.map (·.1) :=
  mem_names_visible

/-- A name that is bound further in comes later. -/
theorem visible_in_order (frames : List (String × Ty)) :
    ((visible frames).map (·.1)).Pairwise fun earlier later =>
      (frames.map (·.1)).idxOf later < (frames.map (·.1)).idxOf earlier := by
  induction frames with
  | nil => exact .nil
  | cons binding rest ih =>
    have hkept : ∀ entry ∈ ((visible rest).filter (·.1 ≠ binding.1)).map (·.1),
        binding.1 ≠ entry := by
      intro entry hentry
      obtain ⟨kept, hkept, rfl⟩ := List.mem_map.mp hentry
      exact Ne.symm (of_decide_eq_true (List.mem_filter.mp hkept).2)
    have hrest : (((visible rest).filter (·.1 ≠ binding.1)).map (·.1)).Pairwise
        fun earlier later => (rest.map (·.1)).idxOf later < (rest.map (·.1)).idxOf earlier :=
      ih.sublist (List.filter_sublist.map _)
    rw [visible, List.map_append, List.pairwise_append]
    refine ⟨?_, List.pairwise_singleton _ _, ?_⟩
    · -- One more binding on top of the others moves all of these by one.
      refine hrest.imp_of_mem ?_
      intro earlier later hearlier hlater hlt
      rw [List.map_cons, List.idxOf_cons_ne _ (hkept later hlater),
        List.idxOf_cons_ne _ (hkept earlier hearlier)]
      exact Nat.succ_lt_succ hlt
    · intro earlier hearlier later hlater
      cases List.mem_singleton.mp hlater
      rw [List.map_cons, List.idxOf_cons_self, List.idxOf_cons_ne _ (hkept earlier hearlier)]
      exact Nat.succ_pos _

theorem bindings_in_order (scope : Scope) :
    (scope.bindings.map (·.1)).Pairwise fun earlier later =>
      (scope.frames.map (·.1)).idxOf later < (scope.frames.map (·.1)).idxOf earlier :=
  visible_in_order scope.frames

/-- No name is listed twice. -/
theorem nodup_bindings (scope : Scope) : (scope.bindings.map (·.1)).Nodup := by
  refine scope.bindings_in_order.imp ?_
  rintro earlier _ hlt rfl
  exact Nat.lt_irrefl _ hlt

/-! ### Lookups -/

theorem lookup_filter_ne {bound : String} (hne : name ≠ bound) (items : List (String × Ty)) :
    (items.filter (·.1 ≠ bound)).lookup name = items.lookup name := by
  induction items with
  | nil => rfl
  | cons entry rest ih =>
    by_cases hentry : entry.1 = bound
    · have hbeq : (name == entry.1) = false := beq_eq_false_iff_ne.mpr (hentry ▸ hne)
      rw [List.filter_cons_of_neg (by simpa using hentry), List.lookup_cons, hbeq]
      exact ih
    · rw [List.filter_cons_of_pos (by simpa using hentry), List.lookup_cons, List.lookup_cons, ih]

/-- A name has the same type in a stack and among its visible bindings. -/
theorem lookup_visible (name : String) (frames : List (String × Ty)) :
    (visible frames).lookup name = frames.lookup name := by
  induction frames with
  | nil => rfl
  | cons binding rest ih =>
    obtain ⟨bound, type⟩ := binding
    rw [visible, List.lookup_append]
    by_cases hname : name = bound
    · subst hname
      have hnone : ((visible rest).filter (·.1 ≠ name)).lookup name = none := by
        rw [List.lookup_eq_none_iff]
        intro entry hentry
        exact bne_iff_ne.mpr (Ne.symm (of_decide_eq_true (List.mem_filter.mp hentry).2))
      rw [hnone]
      simp
    · have hbeq : (name == bound) = false := beq_eq_false_iff_ne.mpr hname
      rw [lookup_filter_ne hname, ih, List.lookup_cons, List.lookup_cons, hbeq]
      simp

/-- A name means what is listed for it, or else what the outermost scope has. -/
theorem lookup_eq (scope : Scope) (name : String) :
    scope.lookup name =
      ((scope.bindings.lookup name).map .type).or (scope.outermost.lookup name) := by
  rw [lookup, bindings, lookup_visible]
  cases scope.frames.lookup name with
  | none => rfl
  | some type => rfl

/-! ### Scopes from lists -/

/-- A list of names and types, as a caller offers it. -/
def offered (items : List (String × Ty)) : List (String × Part) :=
  items.map fun item => (item.1, .type item.2)

/-- The bindings of a list over an outermost scope, the first of them
outermost. -/
def ofBindings (outermost : Outermost) (items : List (String × Ty)) : Scope :=
  { outermost, frames := items.reverse }

/-- Offered types are accepted one after another. -/
theorem ofMapping?_ok (items : List (String × Ty)) :
    ofMapping? (offered items) = .ok (ofBindings .empty items) := by
  suffices hfold : ∀ frames : List (String × Ty),
      (offered items).foldlM (fun scope item => scope.extend? (.text item.1) item.2)
        ({ outermost := .empty, frames } : Scope) =
        (.ok { outermost := .empty, frames := items.reverse ++ frames } : Except Stop Scope) by
    have h := hfold []
    rwa [List.append_nil] at h
  induction items with
  | nil => exact fun _ => rfl
  | cons item rest ih =>
    intro frames
    have hrest := ih ((item.1, item.2) :: frames)
    rw [List.reverse_cons, List.append_assoc]
    exact hrest

/-- Where no name is repeated, nothing is hidden. -/
theorem visible_of_nodup (h : (frames.map (·.1)).Nodup) : visible frames = frames.reverse := by
  induction frames with
  | nil => rfl
  | cons binding rest ih =>
    obtain ⟨hfresh, hrest⟩ := List.nodup_cons.mp h
    have hkept : rest.reverse.filter (·.1 ≠ binding.1) = rest.reverse := by
      refine List.filter_eq_self.mpr ?_
      intro entry hentry
      refine decide_eq_true ?_
      intro hname
      exact hfresh (List.mem_map.mpr ⟨entry, List.mem_reverse.mp hentry, hname⟩)
    rw [visible, ih hrest, hkept, List.reverse_cons]

theorem bindings_ofBindings (outermost : Outermost) (h : (items.map (·.1)).Nodup) :
    (ofBindings outermost items).bindings = items := by
  have hnodup : (items.reverse.map (·.1)).Nodup := by
    rw [List.map_reverse]
    exact List.nodup_reverse.mpr h
  rw [ofBindings, bindings, visible_of_nodup hnodup, List.reverse_reverse]

/-! ### Tidy scopes -/

/-- A scope without the bindings that are hidden by others. -/
def tidy (scope : Scope) : Scope := ofBindings scope.outermost scope.bindings

theorem bindings_tidy (scope : Scope) : scope.tidy.bindings = scope.bindings :=
  bindings_ofBindings _ scope.nodup_bindings

theorem tidy_tidy (scope : Scope) : scope.tidy.tidy = scope.tidy :=
  congrArg (ofBindings scope.outermost) scope.bindings_tidy

theorem lookup_tidy (scope : Scope) (name : String) :
    scope.tidy.lookup name = scope.lookup name := by
  rw [lookup_eq, lookup_eq, bindings_tidy]
  rfl

/-- One name means the same in scopes that are the same when tidied. -/
theorem lookup_of_tidy_eq (h : scope.tidy = scope'.tidy) (name : String) :
    scope.lookup name = scope'.lookup name := by
  rw [← lookup_tidy, h, lookup_tidy]

theorem tidy_extend (h : scope.tidy = scope'.tidy) (name : String) (type : Ty) :
    (scope.extend name type).tidy = (scope'.extend name type).tidy := by
  have hbindings : scope.bindings = scope'.bindings := by
    rw [← bindings_tidy, h, bindings_tidy]
  have houtermost : scope.tidy.outermost = scope'.tidy.outermost := by rw [h]
  unfold tidy
  rw [bindings_extend, bindings_extend, hbindings]
  exact congrArg (ofBindings · _) houtermost

theorem entries_tidy (scope : Scope) : scope.tidy.entries = scope.entries := by
  rw [entries, entries, bindings_tidy]

theorem footer_tidy (scope : Scope) : scope.tidy.footer = scope.footer := by
  rw [footer, footer, bindings_tidy, entries_tidy]

/-- The text of a scope with bindings lists them. -/
theorem describe_eq (h : scope.bindings ≠ []) :
    scope.describe = do return "<" ++ (← scope.entries) ++ ">" := by
  obtain ⟨outermost, frames⟩ := scope
  cases frames with
  | nil => exact (h rfl).elim
  | cons binding rest => cases outermost <;> rfl

theorem describe_tidy (scope : Scope) : scope.tidy.describe = scope.describe := by
  by_cases hbindings : scope.bindings = []
  · obtain ⟨outermost, frames⟩ := scope
    cases frames with
    | nil => rfl
    | cons binding rest => simp [bindings, visible] at hbindings
  · have htidy : scope.tidy.bindings ≠ [] := by rwa [bindings_tidy]
    rw [describe_eq htidy, describe_eq hbindings, entries_tidy]

end Scope

end PCFTyping
