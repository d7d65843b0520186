import PCFTyping.Proofs.Ty.Classes

/-!
Which types are written alike.

An arrow is written without parentheses on either side, so the written form of a
type does not say how its arrows are grouped. Nothing else is lost.

* `Shape.rightward` groups all arrows to the right, at every depth. This does
  not change the written form (`Shape.spelling_rightward`).
* With arrows grouped to the right the written form can be read back. A type
  that is no arrow is read off the front of any text (`Shape.SelfDelimiting`),
  an arrow as long as no blank comes next (`Shape.Delimited`). There is one
  lemma for each shape, and `Shape.readable` is about all of them.

So two types are written alike exactly if they come to the same when grouped to
the right (`Shape.spelling_eq_iff`), and `Ty.written_alike` is the statement
about the types themselves.
-/

namespace PCFTyping

namespace Shape

variable {s t d r f g : Shape}

/-! ### Grouping -/

/-- Whether a shape is that of an arrow. -/
def isArrow : Shape → Bool
  | arrow _ _ => true
  | _ => false

/-- An arrow from a shape to another, with the arrows of the former regrouped to
the right. -/
def arrowTo : Shape → Shape → Shape
  | arrow p q, r => arrow p (q.arrowTo r)
  | s, r => arrow s r

/-- All arrows grouped to the right: an arrow out of an arrow from `p` to `q`
becomes one from `p`. -/
def rightward : Shape → Shape
  | arrow domain range => domain.rightward.arrowTo range.rightward
  | pair first second => pair first.rightward second.rightward
  | s => s

/-- No arrow has an arrow for its domain. -/
def RightNested : Shape → Prop
  | arrow domain range => domain.isArrow = false ∧ domain.RightNested ∧ range.RightNested
  | pair first second => first.RightNested ∧ second.RightNested
  | _ => True

/-- Made of the two primitive types of the language and of error types. -/
def Standard : Shape → Prop
  | prim key => key = .text "Integer" ∨ key = .text "Boolean"
  | base _ => False
  | arrow a b | pair a b => a.Standard ∧ b.Standard
  | error => True

theorem arrowTo_of_isArrow_false (h : s.isArrow = false) : s.arrowTo r = arrow s r := by
  cases s with
  | arrow p q => cases h
  | _ => rfl

theorem RightNested.arrowTo (hs : s.RightNested) (hr : r.RightNested) :
    (s.arrowTo r).RightNested := by
  induction s with
  | arrow p q _ ih => exact ⟨hs.1, hs.2.1, ih hs.2.2⟩
  | prim | base | pair | error => exact ⟨rfl, hs, hr⟩

theorem Standard.arrowTo (hs : s.Standard) (hr : r.Standard) : (s.arrowTo r).Standard := by
  induction s with
  | arrow p q _ ih => exact ⟨hs.1, ih hs.2⟩
  | prim | base | pair | error => exact ⟨hs, hr⟩

theorem rightNested_rightward (s : Shape) : s.rightward.RightNested := by
  induction s with
  | arrow domain range ihd ihr => exact ihd.arrowTo ihr
  | pair first second ihf ihs => exact ⟨ihf, ihs⟩
  | prim | base | error => trivial

theorem Standard.rightward (h : s.Standard) : s.rightward.Standard := by
  induction s with
  | arrow domain range ihd ihr => exact (ihd h.1).arrowTo (ihr h.2)
  | pair first second ihf ihs => exact ⟨ihf h.1, ihs h.2⟩
  | prim | base | error => exact h

/-- What is grouped to the right already stays as it is. -/
theorem RightNested.rightward_eq (h : s.RightNested) : s.rightward = s := by
  induction s with
  | arrow domain range ihd ihr =>
    rw [rightward, ihd h.2.1, ihr h.2.2, arrowTo_of_isArrow_false h.1]
  | pair first second ihf ihs => rw [rightward, ihf h.1, ihs h.2]
  | prim | base | error => rfl

/-! ### Spelling -/

/-- The characters that a shape is written with. -/
def spelling : Shape → List Char
  | prim (.text name) => name.toList
  | prim _ | base _ => []
  | arrow domain range => domain.spelling ++ " -> ".toList ++ range.spelling
  | pair first second =>
      "(".toList ++ first.spelling ++ ", ".toList ++ second.spelling ++ ")".toList
  | error => "Error".toList

theorem spelling_arrowTo (s r : Shape) : (s.arrowTo r).spelling = (arrow s r).spelling := by
  induction s with
  | arrow p q _ ih =>
    rw [arrowTo, spelling, ih]
    simp only [spelling, List.append_assoc]
  | prim | base | pair | error => rfl

/-- The written form does not say how arrows are grouped. -/
theorem spelling_rightward (s : Shape) : s.rightward.spelling = s.spelling := by
  induction s with
  | arrow domain range ihd ihr => rw [rightward, spelling_arrowTo, spelling, spelling, ihd, ihr]
  | pair first second ihf ihs => rw [rightward, spelling, spelling, ihf, ihs]
  | prim | base | error => rfl

/-! ### Reading back -/

/-- A shape that is read off the front of any text, by itself and by anything
else that is no arrow. -/
def SelfDelimiting (s : Shape) : Prop :=
  ∀ ⦃t : Shape⦄ ⦃rest rest' : List Char⦄, t.Standard → t.RightNested → t.isArrow = false →
    s.spelling ++ rest = t.spelling ++ rest' → s = t ∧ rest = rest'

/-- A shape that is read off the front of a text in which no blank comes next. -/
def Delimited (s : Shape) : Prop :=
  ∀ ⦃t : Shape⦄ ⦃rest rest' : List Char⦄, t.Standard → t.RightNested → rest.head? ≠ some ' ' →
    rest'.head? ≠ some ' ' → s.spelling ++ rest = t.spelling ++ rest' → s = t ∧ rest = rest'

theorem selfDelimiting_prim {key : Scalar.Key} (h : (prim key).Standard) :
    (prim key).SelfDelimiting := by
  intro t rest rest' hstandard _ harrow heq
  cases t with
  | prim key' =>
    obtain rfl | rfl := h <;> obtain rfl | rfl := hstandard
    · exact ⟨rfl, List.append_cancel_left heq⟩
    · simp [spelling] at heq
    · simp [spelling] at heq
    · exact ⟨rfl, List.append_cancel_left heq⟩
  | pair | error => obtain rfl | rfl := h <;> simp [spelling] at heq
  | base => exact hstandard.elim
  | arrow => cases harrow

theorem selfDelimiting_error : error.SelfDelimiting := by
  intro t rest rest' hstandard _ harrow heq
  cases t with
  | prim key' => obtain rfl | rfl := hstandard <;> simp [spelling] at heq
  | pair => simp [spelling] at heq
  | error => exact ⟨rfl, List.append_cancel_left heq⟩
  | base => exact hstandard.elim
  | arrow => cases harrow

/-- A comma ends the first component of a pair and a parenthesis the second. -/
theorem selfDelimiting_pair (hf : f.Delimited) (hg : g.Delimited) :
    (pair f g).SelfDelimiting := by
  intro t rest rest' hstandard hnested harrow heq
  cases t with
  | prim key' => obtain rfl | rfl := hstandard <;> simp [spelling] at heq
  | pair f' g' =>
    have hinside : f.spelling ++ (", ".toList ++ (g.spelling ++ (")".toList ++ rest))) =
        f'.spelling ++ (", ".toList ++ (g'.spelling ++ (")".toList ++ rest'))) := by
      simpa [spelling] using heq
    obtain ⟨rfl, hsecond⟩ := hf hstandard.1 hnested.1 (by simp) (by simp) hinside
    have hsecond := List.append_cancel_left hsecond
    obtain ⟨rfl, hclose⟩ := hg hstandard.2 hnested.2 (by simp) (by simp) hsecond
    exact ⟨rfl, List.append_cancel_left hclose⟩
  | error => simp [spelling] at heq
  | base => exact hstandard.elim
  | arrow => cases harrow

/-- What delimits itself is no domain of an arrow unless a blank comes next. -/
theorem SelfDelimiting.delimited (h : s.SelfDelimiting) : s.Delimited := by
  intro t rest rest' hstandard hnested hends _ heq
  cases harrow : t.isArrow with
  | false => exact h hstandard hnested harrow heq
  | true =>
    cases t with
    | arrow d' r' =>
      rw [spelling, List.append_assoc, List.append_assoc] at heq
      obtain ⟨-, rfl⟩ := h hstandard.1 hnested.2.1 hnested.1 heq
      simp at hends
    | _ => cases harrow

theorem delimited_arrow (hd : d.SelfDelimiting) (hr : r.Delimited) : (arrow d r).Delimited := by
  intro t rest rest' hstandard hnested hends hends' heq
  rw [spelling, List.append_assoc, List.append_assoc] at heq
  cases harrow : t.isArrow with
  | false =>
    obtain ⟨-, rfl⟩ := hd hstandard hnested harrow heq
    simp at hends'
  | true =>
    cases t with
    | arrow d' r' =>
      rw [spelling, List.append_assoc, List.append_assoc] at heq
      obtain ⟨rfl, hrange⟩ := hd hstandard.1 hnested.2.1 hnested.1 heq
      have hrange := List.append_cancel_left hrange
      obtain ⟨rfl, rfl⟩ := hr hstandard.2 hnested.2.2 hends hends' hrange
      exact ⟨rfl, rfl⟩
    | _ => cases harrow

/-- With arrows grouped to the right, the written form can be read back. -/
theorem readable (hs : s.Standard) (hn : s.RightNested) :
    (s.isArrow = false → s.SelfDelimiting) ∧ s.Delimited := by
  induction s with
  | prim key => exact ⟨fun _ => selfDelimiting_prim hs, (selfDelimiting_prim hs).delimited⟩
  | base key => exact hs.elim
  | arrow domain range ihd ihr =>
    exact ⟨nofun, delimited_arrow ((ihd hs.1 hn.2.1).1 hn.1) (ihr hs.2 hn.2.2).2⟩
  | pair first second ihf ihs =>
    have hpair := selfDelimiting_pair (ihf hs.1 hn.1).2 (ihs hs.2 hn.2).2
    exact ⟨fun _ => hpair, hpair.delimited⟩
  | error => exact ⟨fun _ => selfDelimiting_error, selfDelimiting_error.delimited⟩

/-- Two shapes are spelled alike exactly if they are the same when grouped to the
right. -/
theorem spelling_eq_iff (hs : s.Standard) (ht : t.Standard) :
    s.spelling = t.spelling ↔ s.rightward = t.rightward := by
  constructor
  · intro h
    have hrightward : s.rightward.spelling ++ [] = t.rightward.spelling ++ [] := by
      rw [spelling_rightward, spelling_rightward, h]
    have hread := (readable hs.rightward s.rightNested_rightward).2
    exact (hread ht.rightward t.rightNested_rightward (by simp) (by simp) hrightward).1
  · intro h
    rw [← spelling_rightward s, h, spelling_rightward]

end Shape

namespace Ty

/-- Made of the two primitive types of the language and of error types. -/
def Standard (t : Ty) : Prop := t.shape.Standard

theorem Standard.renderable {t : Ty} (h : t.Standard) : t.Renderable := by
  unfold Standard at h
  unfold Renderable
  induction t with
  | prim number name =>
    cases name with
    | text s => exact everywhere_prim.mpr ⟨s, rfl⟩
    | null | bool | int | tenths => simp [shape, Scalar.key, Shape.Standard] at h
  | base number key => exact h.elim
  | arrow number domain range ihd ihr => exact everywhere_arrow.mpr ⟨trivial, ihd h.1, ihr h.2⟩
  | pair number first second ihf ihs => exact everywhere_pair.mpr ⟨trivial, ihf h.1, ihs h.2⟩
  | error number failure => exact everywhere_error.mpr trivial

/-- A renderable type is written as its shape is spelled. -/
theorem Renderable.render_eq {t : Ty} (h : t.Renderable) :
    t.render = .ok (String.ofList t.shape.spelling) := by
  rw [render_eq_ok_iff]
  unfold Renderable at h
  induction t with
  | prim number name =>
    obtain ⟨s, rfl⟩ := h.self
    simp [written, shape, Scalar.key, Shape.spelling]
  | base number key => exact h.self.elim
  | arrow number domain range ihd ihr =>
    simp only [everywhere_arrow] at h
    simp only [written, ihd h.2.1, ihr h.2.2, Scalar.requireText, shape, Shape.spelling, bind,
      Except.bind, pure, Except.pure, String.ofList_append, String.ofList_toList]
  | pair number first second ihf ihs =>
    simp only [everywhere_pair] at h
    simp only [written, ihf h.2.1, ihs h.2.2, Scalar.display, shape, Shape.spelling, bind,
      Except.bind, pure, Except.pure, String.ofList_append, String.ofList_toList]
  | error number failure => simp [written, shape, Shape.spelling]

theorem Standard.render_eq_iff {a b : Ty} (ha : a.Standard) (hb : b.Standard) {x y : String}
    (hx : a.render = .ok x) (hy : b.render = .ok y) :
    x = y ↔ a.shape.rightward = b.shape.rightward := by
  obtain rfl : String.ofList a.shape.spelling = x :=
    Except.ok.inj (ha.renderable.render_eq.symm.trans hx)
  obtain rfl : String.ofList b.shape.spelling = y :=
    Except.ok.inj (hb.renderable.render_eq.symm.trans hy)
  rw [String.ofList_inj, Shape.spelling_eq_iff ha hb]

/-- **Types are written alike exactly if they differ in the grouping of arrows
at most.** Two types made of the primitive types of the language, of error types,
arrows and pairs have written forms. These are the same exactly if the types come
to the same when all arrows are grouped to the right at every depth. If no arrow
of either type has an arrow for its domain, the written forms are the same
exactly if the types are equal. -/
theorem written_alike {a b : Ty} (ha : a.Standard) (hb : b.Standard) :
    ∃ x y, a.render = .ok x ∧ b.render = .ok y ∧
      (x = y ↔ a.shape.rightward = b.shape.rightward) ∧
      ∀ numbering : Numbering, numbering.Knows a → numbering.Knows b →
        a.shape.RightNested → b.shape.RightNested → (x = y ↔ a.sameClass b = true) := by
  have hx := ha.renderable.render_eq
  have hy := hb.renderable.render_eq
  have halike := ha.render_eq_iff hb hx hy
  refine ⟨_, _, hx, hy, halike, ?_⟩
  intro numbering hknownA hknownB hnestedA hnestedB
  rw [halike, hnestedA.rightward_eq, hnestedB.rightward_eq, hknownA.sameClass_iff hknownB]

/-- A function of functions is written like a function that gives a function,
though the two are not equal. Of the named types, no two are written alike. -/
theorem written_alike_functions :
    let takes : Ty := .arrow 4 .intToInt .integer
    let gives : Ty := .arrow 5 .integer .intToInt
    (∃ x, takes.render = .ok x ∧ gives.render = .ok x ∧ takes.sameClass gives = false) ∧
      ∃ x y, Ty.intToInt.render = .ok x ∧ Ty.intToBool.render = .ok y ∧ x ≠ y := by
  intro takes gives
  have hinteger : Ty.integer.Standard := .inl rfl
  have hboolean : Ty.boolean.Standard := .inr rfl
  constructor
  · obtain ⟨x, y, hx, hy, hsame, -⟩ := written_alike (a := takes) (b := gives)
      ⟨⟨hinteger, hinteger⟩, hinteger⟩ ⟨hinteger, hinteger, hinteger⟩
    obtain rfl := hsame.mpr rfl
    exact ⟨x, hx, hy, rfl⟩
  · obtain ⟨x, y, hx, hy, -, hequal⟩ := written_alike (a := .intToInt) (b := .intToBool)
      ⟨hinteger, hinteger⟩ ⟨hinteger, hboolean⟩
    have hiff := hequal .initial (Numbering.initial_knows (by simp))
      (Numbering.initial_knows (by simp)) ⟨rfl, trivial, trivial⟩ ⟨rfl, trivial, trivial⟩
    refine ⟨x, y, hx, hy, ?_⟩
    rw [ne_eq, hiff]
    decide

end Ty

end PCFTyping
