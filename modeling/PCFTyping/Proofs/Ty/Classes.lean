import PCFTyping.Proofs.Outcome
import PCFTyping.Proofs.Ty.Shape
import PCFTyping.Term.Equality
import PCFTyping.Workshop

/-!
Class numbers decide structural equality.

A table `Numbering.Knows` a type when the number of the type, and of each of
its parts, is the place of its node in the table. Two types that one table
knows have one number exactly when they have one shape
(`Numbering.Knows.number_eq_iff`): the table lists each node once, and a node
names the parts by numbers that the induction already covers. Nothing known is
ever lost, since a table only grows at its end (`Numbering.Extends`).

A `Bench` is a workshop with the types made in it so far, and `Bench.run`
performs any list of constructions, each of which asks for its parts by their
place among the types made before. `Bench.equivalent_iff_shape_eq` is the main
statement, about every such run.
-/

namespace PCFTyping

/-- What a table lists for a type: its shape with the numbers of its parts. -/
def Ty.node : Ty → NodeKey
  | .prim _ name => .prim name.key
  | .base _ key => .base key.key
  | .arrow _ domain range => .arrow domain.number range.number
  | .pair _ first second => .pair first.number second.number
  | .error _ _ => .error

namespace Numbering

/-! ### Growing tables -/

/-- A later table lists what an earlier one does, at the same places. -/
def Extends (earlier later : Numbering) : Prop := earlier.keys <+: later.keys

theorem Extends.refl (numbering : Numbering) : numbering.Extends numbering := List.prefix_rfl

theorem Extends.trans {a b c : Numbering} (hab : a.Extends b) (hbc : b.Extends c) : a.Extends c :=
  List.IsPrefix.trans hab hbc

theorem extends_insert (numbering : Numbering) (key : NodeKey) :
    numbering.Extends (numbering.insert key) := by
  rw [Extends, keys_insert]
  split
  · exact List.prefix_rfl
  · exact List.prefix_append _ _

/-- The number of a type is the place of its node. -/
def Places (numbering : Numbering) (t : Ty) : Prop := numbering.keys[t.number]? = some t.node

theorem Places.mono {earlier later : Numbering} {t : Ty} (h : earlier.Places t)
    (hle : earlier.Extends later) : later.Places t := by
  obtain ⟨hlt, hget⟩ := List.getElem?_eq_some_iff.mp h
  have hlater := List.prefix_iff_getElem?.mp hle t.number hlt
  rw [Places, hlater, hget]

/-- A type that takes its number from a table is placed in the table after. -/
theorem places_insert {numbering : Numbering} {t : Ty} (h : t.number = numbering.number t.node) :
    (numbering.insert t.node).Places t := by
  rw [Places, h]
  exact getElem?_number_insert numbering t.node

/-- Every part of a type is placed. -/
def Knows (numbering : Numbering) (t : Ty) : Prop := t.Everywhere numbering.Places

theorem Knows.mono {earlier later : Numbering} {t : Ty} (h : earlier.Knows t)
    (hle : earlier.Extends later) : later.Knows t :=
  Ty.Everywhere.mono h fun _ hpart => hpart.mono hle

/-! ### One number, one shape -/

/-- No node is listed twice, so numbers tell nodes apart. -/
theorem Places.number_eq_iff_node_eq {numbering : Numbering} {s t : Ty} (hs : numbering.Places s)
    (ht : numbering.Places t) : s.number = t.number ↔ s.node = t.node := by
  obtain ⟨hlt, -⟩ := List.getElem?_eq_some_iff.mp hs
  rw [← List.getElem?_inj hlt numbering.nodup, hs, ht, Option.some.injEq]

/-- Types that one table knows have one number exactly when they have one
shape. -/
theorem Knows.number_eq_iff {numbering : Numbering} {s t : Ty} (hs : numbering.Knows s)
    (ht : numbering.Knows t) : s.number = t.number ↔ s.shape = t.shape := by
  rw [hs.self.number_eq_iff_node_eq ht.self]
  unfold Knows at hs ht
  -- Nodes of unlike constructors differ, and so do their shapes; for like ones
  -- the parts are compared, by number in the node and by shape in the shape.
  induction s generalizing t with
  | prim number name => cases t <;> simp [Ty.node, Ty.shape]
  | base number key => cases t <;> simp [Ty.node, Ty.shape]
  | error number failure => cases t <;> simp [Ty.node, Ty.shape]
  | arrow number domain range ihd ihr =>
    cases t with
    | arrow number' domain' range' =>
      simp only [Ty.everywhere_arrow] at hs ht
      simp only [Ty.node, Ty.shape, NodeKey.arrow.injEq, Shape.arrow.injEq]
      rw [hs.2.1.self.number_eq_iff_node_eq ht.2.1.self, ihd hs.2.1 ht.2.1,
        hs.2.2.self.number_eq_iff_node_eq ht.2.2.self, ihr hs.2.2 ht.2.2]
    | _ => simp [Ty.node, Ty.shape]
  | pair number first second ihf ihs =>
    cases t with
    | pair number' first' second' =>
      simp only [Ty.everywhere_pair] at hs ht
      simp only [Ty.node, Ty.shape, NodeKey.pair.injEq, Shape.pair.injEq]
      rw [hs.2.1.self.number_eq_iff_node_eq ht.2.1.self, ihf hs.2.1 ht.2.1,
        hs.2.2.self.number_eq_iff_node_eq ht.2.2.self, ihs hs.2.2 ht.2.2]
    | _ => simp [Ty.node, Ty.shape]

theorem Knows.sameClass_iff {numbering : Numbering} {s t : Ty} (hs : numbering.Knows s)
    (ht : numbering.Knows t) : s.sameClass t = true ↔ s.shape = t.shape := by
  rw [Ty.sameClass, beq_iff_eq, hs.number_eq_iff ht]

/-! ### What a construction adds -/

/-- The four named types are known from the start. -/
theorem initial_knows {t : Ty} (h : t ∈ [Ty.integer, Ty.boolean, Ty.intToInt, Ty.intToBool]) :
    initial.Knows t := by
  simp only [List.mem_cons, List.not_mem_nil, or_false] at h
  rcases h with rfl | rfl | rfl | rfl <;>
    simp [Knows, Ty.integer, Ty.boolean, Ty.intToInt, Ty.intToBool, Places, Ty.number, Ty.node,
      initial, Scalar.key]

/-- Work that makes a type: the table grows and knows the type afterwards. -/
def Makes (numbering : Numbering) (work : Numbered Ty) : Prop :=
  numbering.Extends (work.run numbering).2 ∧ (work.run numbering).2.Knows (work.run numbering).1

/-- It is enough that the parts are placed already, and that the type takes its
number from the table. -/
theorem makes_of_run {numbering : Numbering} {work : Numbered Ty} {t : Ty}
    (hrun : work.run numbering = (t, numbering.insert t.node))
    (hnumber : t.number = numbering.number t.node)
    (hparts : ∀ part ∈ t.parts.tail, numbering.Places part) : numbering.Makes work := by
  have hgrow := numbering.extends_insert t.node
  rw [Makes, hrun]
  refine ⟨hgrow, ?_⟩
  intro part hpart
  rw [t.parts_eq_cons, List.mem_cons] at hpart
  rcases hpart with rfl | hpart
  · exact places_insert hnumber
  · exact (hparts part hpart).mono hgrow

theorem makes_prim (numbering : Numbering) (name : Scalar) : numbering.Makes (mkPrim name) :=
  makes_of_run (t := .prim _ name) rfl rfl (by simp [Ty.parts])

theorem makes_base (numbering : Numbering) (key : Scalar) : numbering.Makes (mkBase key) :=
  makes_of_run (t := .base _ key) rfl rfl (by simp [Ty.parts])

theorem makes_error (numbering : Numbering) (failure : Failure) :
    numbering.Makes (mkError failure) :=
  makes_of_run (t := .error _ failure) rfl rfl (by simp [Ty.parts])

theorem makes_arrow {numbering : Numbering} {domain range : Ty} (hd : numbering.Knows domain)
    (hr : numbering.Knows range) : numbering.Makes (mkArrow domain range) := by
  refine makes_of_run (t := .arrow _ domain range) rfl rfl ?_
  intro part hpart
  rcases List.mem_append.mp hpart with h | h
  · exact hd part h
  · exact hr part h

theorem makes_pair {numbering : Numbering} {first second : Ty} (hf : numbering.Knows first)
    (hs : numbering.Knows second) : numbering.Makes (mkPair first second) := by
  refine makes_of_run (t := .pair _ first second) rfl rfl ?_
  intro part hpart
  rcases List.mem_append.mp hpart with h | h
  · exact hf part h
  · exact hs part h

end Numbering

namespace Workshop

/-- A type made in a workshop is known to its table afterwards. -/
theorem make_ensures {workshop : Workshop} {work : Numbered Ty}
    (h : workshop.numbering.Makes work) :
    Ensures (make work) workshop
      (fun t after => workshop.numbering.Extends after.numbering ∧ after.numbering.Knows t)
      (fun _ after => after = workshop) :=
  h

/-- Refusing leaves the workshop as it is. -/
theorem refuse_ensures {α : Type} {workshop : Workshop} {part : Part} {done : α → Workshop → Prop} :
    Ensures (refuse part) workshop done (fun _ after => after = workshop) := by
  unfold refuse
  apply (Ensures.ofExcept _ _).bind (fun _ _ h => h.2)
  rintro shown after ⟨-, rfl⟩
  exact Ensures.throw rfl

theorem refuseBoth_ensures {α : Type} {workshop : Workshop} {left right : Part}
    {done : α → Workshop → Prop} :
    Ensures (refuseBoth left right) workshop done (fun _ after => after = workshop) := by
  unfold refuseBoth
  apply (Ensures.ofExcept _ _).bind (fun _ _ h => h.2)
  rintro left after ⟨-, rfl⟩
  apply (Ensures.ofExcept _ _).bind (fun _ _ h => h.2)
  rintro right after ⟨-, rfl⟩
  exact Ensures.throw rfl

end Workshop

/-! ### Runs of constructions -/

/-- A workshop with the types made in it so far, the oldest first. -/
structure Bench where
  workshop : Workshop
  made : List Ty

/-- A request for a type. Its parts are given by their places among the types
made so far, so that one type may be a part of many. -/
inductive Construction where
  | prim (name : Scalar)
  | base (key : Scalar)
  | arrow (domain range : Nat)
  | pair (first second : Nat)
  | error (kind : Scalar) (guilty : Part) (mismatch : Mismatch)

namespace Bench

/-- The named types are made first. -/
def start : Bench :=
  { workshop := .initial, made := [.integer, .boolean, .intToInt, .intToBool] }

/-- The type at a place. There is none where nothing was made yet. -/
def part (bench : Bench) (place : Nat) : Part :=
  match bench.made[place]? with
  | some t => .type t
  | none => .plain .null

/-- What the workshop does about a request. -/
def work (bench : Bench) : Construction → Build Ty
  | .prim name => Workshop.prim name
  | .base key => Workshop.base key
  | .arrow domain range => Workshop.arrow (bench.part domain) (bench.part range)
  | .pair first second => Workshop.pairType (bench.part first) (bench.part second)
  | .error kind guilty mismatch => Workshop.error kind guilty mismatch

/-- Performs a construction. A refused one makes nothing. -/
def perform (bench : Bench) (request : Construction) : Bench :=
  match (bench.work request).run bench.workshop with
  | .ok t workshop => { workshop, made := bench.made ++ [t] }
  | .error _ workshop => { bench with workshop }

/-- Performs constructions one after another. -/
def run (requests : List Construction) : Bench := requests.foldl perform start

/-- The table holds the named types and knows every type made. -/
structure Sound (bench : Bench) : Prop where
  named : Numbering.initial.Extends bench.workshop.numbering
  known : ∀ t ∈ bench.made, bench.workshop.numbering.Knows t

theorem sound_start : start.Sound where
  named := Numbering.Extends.refl _
  known := fun _ ht => Numbering.initial_knows ht

theorem Sound.part_known {bench : Bench} (h : bench.Sound) {place : Nat} {t : Ty}
    (ht : bench.part place = .type t) : bench.workshop.numbering.Knows t := by
  unfold part at ht
  split at ht
  · rename_i found
    cases ht
    exact h.known t (List.mem_of_getElem? found)
  · cases ht

/-- A construction in a sound bench makes a known type or nothing at all. -/
theorem Sound.work_ensures {bench : Bench} (h : bench.Sound) (request : Construction) :
    Ensures (bench.work request) bench.workshop
      (fun t after => bench.workshop.numbering.Extends after.numbering ∧ after.numbering.Knows t)
      (fun _ after => after = bench.workshop) := by
  cases request with
  | prim name => exact Workshop.make_ensures (Numbering.makes_prim _ _)
  | base key => exact Workshop.make_ensures (Numbering.makes_base _ _)
  | arrow domain range =>
    simp only [work, Workshop.arrow]
    split
    · rename_i d r hd hr
      exact Workshop.make_ensures (Numbering.makes_arrow (h.part_known hd) (h.part_known hr))
    · exact Workshop.refuseBoth_ensures
  | pair first second =>
    simp only [work, Workshop.pairType]
    split
    · rename_i f s hf hs
      exact Workshop.make_ensures (Numbering.makes_pair (h.part_known hf) (h.part_known hs))
    · exact Workshop.refuseBoth_ensures
  | error kind guilty mismatch =>
    simp only [work, Workshop.error]
    split
    · exact Workshop.make_ensures (Numbering.makes_error _ _)
    · exact Workshop.refuse_ensures

theorem Sound.perform {bench : Bench} (h : bench.Sound) (request : Construction) :
    (bench.perform request).Sound := by
  have hwork := h.work_ensures request
  unfold Bench.perform
  split
  · rename_i t after hrun
    obtain ⟨hgrow, hknown⟩ := hwork.of_ok hrun
    refine ⟨h.named.trans hgrow, ?_⟩
    intro s hs
    rcases List.mem_append.mp hs with hold | hnew
    · exact (h.known s hold).mono hgrow
    · exact List.mem_singleton.mp hnew ▸ hknown
  · rename_i stop after hrun
    have hsame : after = bench.workshop := hwork.of_error hrun
    subst hsame
    exact h

/-- Every run of constructions keeps the table sound. -/
theorem sound_run (requests : List Construction) : (run requests).Sound := by
  suffices h : ∀ bench : Bench, bench.Sound → (requests.foldl Bench.perform bench).Sound from
    h start sound_start
  induction requests with
  | nil => exact fun _ h => h
  | cons request rest ih => exact fun bench h => ih (bench.perform request) (h.perform request)

/-- **Class numbers decide structural equality, whatever was built before.**
Take any run of constructions. Comparing the numbers of two types made in it
tells whether they have one shape, that is, whether they are structurally equal;
so types of different kinds are never equal, equality is an equivalence
relation, and which types are equal is the same in every other run that makes
types of these shapes. -/
theorem equivalent_iff_shape_eq (requests : List Construction) {s t : Ty}
    (hs : s ∈ (run requests).made) (ht : t ∈ (run requests).made) :
    (Part.type s).equivalent (.type t) = .ok (decide (s.shape = t.shape)) ∧
      (s.sameClass t = true ↔ s.shape = t.shape) ∧
      (s.sameClass t = true ↔ s.Equals t) ∧
      (s.kindName ≠ t.kindName → s.sameClass t = false) ∧
      Equivalence (fun a b : { type // type ∈ (run requests).made } =>
        a.1.sameClass b.1 = true) ∧
      ∀ (others : List Construction) (s' t' : Ty), s' ∈ (run others).made →
        t' ∈ (run others).made → s'.shape = s.shape → t'.shape = t.shape →
        s'.sameClass t' = s.sameClass t := by
  have hclass : ∀ {requests : List Construction} {a b : Ty}, a ∈ (run requests).made →
      b ∈ (run requests).made → (a.sameClass b = true ↔ a.shape = b.shape) := by
    intro requests a b ha hb
    have hsound := sound_run requests
    exact (hsound.known a ha).sameClass_iff (hsound.known b hb)
  refine ⟨?_, hclass hs ht, (hclass hs ht).trans Ty.shape_eq_iff, ?_, ?_, ?_⟩
  · have hdecide : s.sameClass t = decide (s.shape = t.shape) := by
      rw [Bool.eq_iff_iff, hclass hs ht, decide_eq_true_iff]
    exact congrArg Except.ok hdecide
  · intro hkind
    rw [Bool.eq_false_iff, ne_eq, hclass hs ht]
    exact fun hshape => hkind (Ty.kindName_eq_of_shape_eq hshape)
  · constructor
    · intro a
      exact (hclass a.2 a.2).mpr rfl
    · intro a b hab
      exact (hclass b.2 a.2).mpr ((hclass a.2 b.2).mp hab).symm
    · intro a b c hab hbc
      exact (hclass a.2 c.2).mpr (((hclass a.2 b.2).mp hab).trans ((hclass b.2 c.2).mp hbc))
  · intro others s' t' hs' ht' hshapeS hshapeT
    rw [Bool.eq_iff_iff, hclass hs' ht', hclass hs ht, hshapeS, hshapeT]

/-- The truth value and the number one are one key, so two arrows made from
them separately are one type. An arrow made from the other truth value is
another type, and so is a pair of the same parts. -/
theorem equivalent_iff_shape_eq_shared_key :
    ∃ s t v u : Ty, [s, t, v, u] = (run [.prim (.bool true), .prim (.int 1), .prim (.bool false),
        .arrow 4 0, .arrow 5 0, .arrow 6 0, .pair 5 0]).made.drop 7 ∧
      (Part.type s).equivalent (.type t) = .ok true ∧
      (Part.type s).equivalent (.type v) = .ok false ∧ ¬ s.Equals v ∧
      t.sameClass u = false := by
  have h := @equivalent_iff_shape_eq [.prim (.bool true), .prim (.int 1), .prim (.bool false),
    .arrow 4 0, .arrow 5 0, .arrow 6 0, .pair 5 0]
  refine ⟨.arrow 6 (.prim 4 (.bool true)) .integer, .arrow 6 (.prim 4 (.int 1)) .integer,
    .arrow 7 (.prim 5 (.bool false)) .integer, .pair 8 (.prim 4 (.int 1)) .integer, rfl, ?_⟩
  obtain ⟨hone, -⟩ := h (List.mem_of_getElem? (i := 7) rfl) (List.mem_of_getElem? (i := 8) rfl)
  obtain ⟨hfalse, -, hequals, -⟩ :=
    h (List.mem_of_getElem? (i := 7) rfl) (List.mem_of_getElem? (i := 9) rfl)
  obtain ⟨-, -, -, hkind, -⟩ :=
    h (List.mem_of_getElem? (i := 8) rfl) (List.mem_of_getElem? (i := 10) rfl)
  exact ⟨hone, hfalse, fun hsame => Bool.false_ne_true (hequals.mpr hsame), hkind (by decide)⟩

end Bench

end PCFTyping
