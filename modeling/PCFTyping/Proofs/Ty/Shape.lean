import PCFTyping.Ty.Render

/-!
Shapes and parts of types.

The shape of a type is what is left of it without class numbers and without
what error types carry: equal shapes are structural equality, which `Ty.Equals`
spells out kind by kind (`Ty.shape_eq_iff`). `Ty.parts` lists
a type with all its parts, all the way down, and `Ty.Everywhere` asks something
of each of them. What an error type carries is not part of it.

* `Ty.ErrorFree`: no error type occurs in the type.
* `Ty.Renderable`: no bare type occurs in it, and its primitive types are named
  by texts. `Ty.Renderable.render_ok` says that such a type has a written form.
-/

namespace PCFTyping

/-- A type up to structural equality. -/
inductive Shape where
  | prim (key : Scalar.Key)
  | base (key : Scalar.Key)
  | arrow (domain range : Shape)
  | pair (first second : Shape)
  | error
deriving DecidableEq, Repr

namespace Ty

/-- Forgets numbers, the spelling of keys and what error types carry. -/
def shape : Ty → Shape
  | prim _ name => .prim name.key
  | base _ key => .base key.key
  | arrow _ domain range => .arrow domain.shape range.shape
  | pair _ first second => .pair first.shape second.shape
  | error _ _ => .error

/-- Structural equality. Primitive types are equal if their names are, bare types
if their keys are, arrows and pairs if their parts are; all error types are
equal, and types of two kinds never are. -/
inductive Equals : Ty → Ty → Prop where
  | prim {number number' name name'} : name.Equals name' →
      Equals (.prim number name) (.prim number' name')
  | base {number number' key key'} : key.Equals key' →
      Equals (.base number key) (.base number' key')
  | arrow {number number' domain domain' range range'} : Equals domain domain' →
      Equals range range' → Equals (.arrow number domain range) (.arrow number' domain' range')
  | pair {number number' first first' second second'} : Equals first first' →
      Equals second second' → Equals (.pair number first second) (.pair number' first' second')
  | error {number number' failure failure'} :
      Equals (.error number failure) (.error number' failure')

/-- **Types have one shape exactly if they are structurally equal.** -/
theorem shape_eq_iff {s t : Ty} : s.shape = t.shape ↔ s.Equals t := by
  constructor
  · intro h
    induction s generalizing t with
    | prim number name =>
      cases t with
      | prim number' name' => exact .prim (Scalar.key_eq_iff.mp (Shape.prim.inj h))
      | _ => cases h
    | base number key =>
      cases t with
      | base number' key' => exact .base (Scalar.key_eq_iff.mp (Shape.base.inj h))
      | _ => cases h
    | arrow number domain range ihd ihr =>
      cases t with
      | arrow number' domain' range' =>
        obtain ⟨hdomain, hrange⟩ := Shape.arrow.inj h
        exact .arrow (ihd hdomain) (ihr hrange)
      | _ => cases h
    | pair number first second ihf ihs =>
      cases t with
      | pair number' first' second' =>
        obtain ⟨hfirst, hsecond⟩ := Shape.pair.inj h
        exact .pair (ihf hfirst) (ihs hsecond)
      | _ => cases h
    | error number failure =>
      cases t with
      | error number' failure' => exact .error
      | _ => cases h
  · intro h
    induction h with
    | prim hname => rw [shape, shape, Scalar.key_eq_iff.mpr hname]
    | base hkey => rw [shape, shape, Scalar.key_eq_iff.mpr hkey]
    | arrow _ _ hdomain hrange => rw [shape, shape, hdomain, hrange]
    | pair _ _ hfirst hsecond => rw [shape, shape, hfirst, hsecond]
    | error => rfl

/-- The shape tells whether a type is an error. -/
theorem isError_eq_of_shape_eq {s t : Ty} (h : s.shape = t.shape) : s.isError = t.isError := by
  cases shape_eq_iff.mp h <;> rfl

/-- Only an arrow has the shape of an arrow. -/
theorem eq_arrow_of_shape {t : Ty} {domain range : Shape} (h : t.shape = .arrow domain range) :
    ∃ number d r, t = .arrow number d r ∧ d.shape = domain ∧ r.shape = range := by
  cases t with
  | arrow number d r =>
    obtain ⟨hd, hr⟩ := Shape.arrow.inj h
    exact ⟨number, d, r, rfl, hd, hr⟩
  | _ => cases h

/-- Only a pair has the shape of a pair. -/
theorem eq_pair_of_shape {t : Ty} {first second : Shape} (h : t.shape = .pair first second) :
    ∃ number f s, t = .pair number f s ∧ f.shape = first ∧ s.shape = second := by
  cases t with
  | pair number f s =>
    obtain ⟨hf, hs⟩ := Shape.pair.inj h
    exact ⟨number, f, s, rfl, hf, hs⟩
  | _ => cases h

/-- Types that messages name differently have different shapes. -/
theorem kindName_eq_of_shape_eq {s t : Ty} (h : s.shape = t.shape) : s.kindName = t.kindName := by
  cases shape_eq_iff.mp h <;> rfl

/-! ### Parts -/

/-- A type and all its parts. -/
def parts : Ty → List Ty
  | t@(prim _ _) | t@(base _ _) | t@(error _ _) => [t]
  | t@(arrow _ a b) | t@(pair _ a b) => t :: (a.parts ++ b.parts)

/-- A property of a type and of all its parts. -/
def Everywhere (P : Ty → Prop) (t : Ty) : Prop := ∀ part ∈ t.parts, P part

section Everywhere

variable {P Q : Ty → Prop}

@[simp] theorem everywhere_prim {number : Nat} {name : Scalar} :
    (prim number name).Everywhere P ↔ P (.prim number name) := by
  simp [Everywhere, parts]

@[simp] theorem everywhere_base {number : Nat} {key : Scalar} :
    (base number key).Everywhere P ↔ P (.base number key) := by
  simp [Everywhere, parts]

@[simp] theorem everywhere_error {number : Nat} {failure : Failure} :
    (error number failure).Everywhere P ↔ P (.error number failure) := by
  simp [Everywhere, parts]

@[simp] theorem everywhere_arrow {number : Nat} {domain range : Ty} :
    (arrow number domain range).Everywhere P ↔
      P (.arrow number domain range) ∧ domain.Everywhere P ∧ range.Everywhere P := by
  simp [Everywhere, parts, or_imp, forall_and]

@[simp] theorem everywhere_pair {number : Nat} {first second : Ty} :
    (pair number first second).Everywhere P ↔
      P (.pair number first second) ∧ first.Everywhere P ∧ second.Everywhere P := by
  simp [Everywhere, parts, or_imp, forall_and]

theorem Everywhere.mono {t : Ty} (h : t.Everywhere P) (hPQ : ∀ part, P part → Q part) :
    t.Everywhere Q :=
  fun part hpart => hPQ part (h part hpart)

/-- A type stands before its parts. -/
theorem parts_eq_cons (t : Ty) : t.parts = t :: t.parts.tail := by
  cases t <;> rfl

theorem mem_parts_self (t : Ty) : t ∈ t.parts := by
  rw [parts_eq_cons]
  exact List.mem_cons_self

theorem Everywhere.self {t : Ty} (h : t.Everywhere P) : P t := h t t.mem_parts_self

end Everywhere

/-- No error type occurs in a type. -/
def ErrorFree (t : Ty) : Prop := t.Everywhere fun part => part.isError = false

/-- Whether a type has words of its own: the bare type has none, and a
primitive type has them when its name is a text. -/
def HasWords : Ty → Prop
  | prim _ name => ∃ s, name = .text s
  | base _ _ => False
  | arrow _ _ _ | pair _ _ _ | error _ _ => True

/-- Every part of a type has words. -/
def Renderable (t : Ty) : Prop := t.Everywhere HasWords

theorem ErrorFree.isError {t : Ty} (h : t.ErrorFree) : t.isError = false := h.self

/-- A renderable type has a written form, and this is a text. -/
theorem Renderable.render_ok {t : Ty} (h : t.Renderable) : ∃ s, t.render = .ok s := by
  simp only [render_eq_ok_iff]
  unfold Renderable at h
  induction t with
  | prim number name =>
    obtain ⟨s, rfl⟩ := h.self
    exact ⟨s, rfl⟩
  | base number key => exact h.self.elim
  | arrow number domain range ihd ihr =>
    simp only [everywhere_arrow] at h
    obtain ⟨left, hleft⟩ := ihd h.2.1
    obtain ⟨right, hright⟩ := ihr h.2.2
    refine ⟨left ++ " -> " ++ right, ?_⟩
    simp [written, hleft, hright, Scalar.requireText, bind, Except.bind, pure, Except.pure]
  | pair number first second ihf ihs =>
    simp only [everywhere_pair] at h
    obtain ⟨left, hleft⟩ := ihf h.2.1
    obtain ⟨right, hright⟩ := ihs h.2.2
    refine ⟨"(" ++ left ++ ", " ++ right ++ ")", ?_⟩
    simp [written, hleft, hright, Scalar.display, bind, Except.bind, pure, Except.pure]
  | error number failure => exact ⟨"Error", rfl⟩

/-- Renderable types of one shape have one written form. -/
theorem Renderable.render_eq_of_shape_eq {s t : Ty} (hs : s.Renderable) (ht : t.Renderable)
    (h : s.shape = t.shape) : s.render = t.render := by
  suffices hwritten : s.written = t.written by rw [render, render, hwritten]
  unfold Renderable at hs ht
  induction s generalizing t with
  | prim number name =>
    cases t with
    | prim number' name' =>
      obtain ⟨text, rfl⟩ := hs.self
      obtain ⟨text', rfl⟩ := ht.self
      obtain rfl : text = text' := by simpa [shape, Scalar.key] using h
      rfl
    | _ => cases h
  | base number key => exact hs.self.elim
  | arrow number domain range ihd ihr =>
    obtain ⟨number', domain', range', rfl, hdomain, hrange⟩ := eq_arrow_of_shape h.symm
    simp only [everywhere_arrow] at hs ht
    rw [written, written, ihd hs.2.1 ht.2.1 hdomain.symm, ihr hs.2.2 ht.2.2 hrange.symm]
  | pair number first second ihf ihs =>
    obtain ⟨number', first', second', rfl, hfirst, hsecond⟩ := eq_pair_of_shape h.symm
    simp only [everywhere_pair] at hs ht
    rw [written, written, ihf hs.2.1 ht.2.1 hfirst.symm, ihs hs.2.2 ht.2.2 hsecond.symm]
  | error number failure =>
    cases t with
    | error number' failure' => rfl
    | _ => cases h

end Ty

end PCFTyping
