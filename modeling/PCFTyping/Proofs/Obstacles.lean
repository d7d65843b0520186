import PCFTyping.Proofs.Occurrences
import PCFTyping.Ty.Numbering

/-!
Where writing a term stops.

A node may have one of two obstacles: it is foreign, of a shape that has no
layout, or the bare type occurs in the type that it declares
(`Term.obstacle?`). The obstacle that counts is the one at the first place in
pre-order (`Term.firstObstacle?`).

* Writing gets as far as that place (`Term.place_halts`). What it leaves on the
  line is `Term.before`, put together from what each node on the way down writes
  to the left of the next one.
* The node at that place leaves nothing, since a declared type is written out
  before the keyword of its binder.
* A term without an obstacle is written to its end.

This is about types that only the bare type keeps from being written as a text
(`Ty.StopsAtBare`). Types that have a text are of this sort, and so are types
whose primitive types are named by texts.
-/

namespace PCFTyping

/-! ### The bare type in a type -/

namespace Ty

/-- Whether a type is the bare type. -/
def isBare : Ty → Bool
  | base _ _ => true
  | _ => false

/-- Whether the bare type occurs in a type. -/
def hasBare (type : Ty) : Bool := type.parts.any isBare

/-- A primitive type is named by a text; no other type has a name. -/
def NameIsText : Ty → Prop
  | prim _ name => ∃ s, name = .text s
  | _ => True

/-- All primitive types in a type are named by texts. -/
def NamedByTexts (type : Ty) : Prop := type.Everywhere NameIsText

/-- Only the bare type keeps a type from being written as a text. -/
structure StopsAtBare (type : Ty) : Prop where
  stops : type.hasBare = true → type.written = .error .abstractType
  legible : type.hasBare = false → type.Legible

theorem hasBare_iff {type : Ty} : type.hasBare = true ↔ ∃ part ∈ type.parts, part.isBare = true := by
  rw [hasBare, List.any_eq_true]

theorem hasBare_arrow (number : Nat) (domain range : Ty) :
    (arrow number domain range).hasBare = (domain.hasBare || range.hasBare) := by
  simp [hasBare, parts, isBare]

theorem hasBare_pair (number : Nat) (first second : Ty) :
    (pair number first second).hasBare = (first.hasBare || second.hasBare) := by
  simp [hasBare, parts, isBare]

/-- A type with the bare type in it has no written form. -/
theorem hasBare_of_written {type : Ty} {value : Scalar} (h : type.written = .ok value) :
    type.hasBare = false := by
  induction type generalizing value with
  | prim number name => rfl
  | base number key => cases h
  | arrow number domain range ihd ihr =>
    simp only [written, bind_eq_ok_iff] at h
    obtain ⟨_, hdomain, _, -, _, hrange, -⟩ := h
    rw [hasBare_arrow, ihd hdomain, ihr hrange]
    rfl
  | pair number first second ihf ihs =>
    simp only [written, bind_eq_ok_iff] at h
    obtain ⟨_, hfirst, _, hsecond, -⟩ := h
    rw [hasBare_pair, ihf hfirst, ihs hsecond]
    rfl
  | error number failure => rfl

theorem Legible.stopsAtBare {type : Ty} (h : type.Legible) : type.StopsAtBare := by
  have hnone := hasBare_of_written h.written_words
  constructor
  · intro hbare
    rw [hnone] at hbare
    cases hbare
  · exact fun _ => h

/-- What is named by texts and has no bare type in it is renderable. -/
theorem NamedByTexts.renderable {type : Ty} (h : type.NamedByTexts)
    (hbare : type.hasBare = false) : type.Renderable := by
  intro part hpart
  have hname := h part hpart
  cases part with
  | prim number name => exact hname
  | base number key =>
    have hsome := hasBare_iff.mpr ⟨_, hpart, rfl⟩
    rw [hbare] at hsome
    cases hsome
  | arrow | pair | error => exact trivial

theorem NamedByTexts.stopsAtBare {type : Ty} (h : type.NamedByTexts) : type.StopsAtBare := by
  refine ⟨?_, fun hbare => (h.renderable hbare).legible⟩
  unfold NamedByTexts at h
  intro hbare
  induction type with
  | prim number name => cases hbare
  | base number key => rfl
  | arrow number domain range ihd ihr =>
    simp only [everywhere_arrow] at h
    rw [hasBare_arrow, Bool.or_eq_true] at hbare
    by_cases hdomain : domain.hasBare = true
    · rw [written, ihd h.2.1 hdomain]
      rfl
    · have hleft : domain.Legible :=
        (NamedByTexts.renderable h.2.1 (Bool.eq_false_iff.mpr hdomain)).legible
      rw [written, hleft.written_words, ihr h.2.2 (hbare.resolve_left hdomain)]
      rfl
  | pair number first second ihf ihs =>
    simp only [everywhere_pair] at h
    rw [hasBare_pair, Bool.or_eq_true] at hbare
    by_cases hfirst : first.hasBare = true
    · rw [written, ihf h.2.1 hfirst]
      rfl
    · have hleft : first.Legible :=
        (NamedByTexts.renderable h.2.1 (Bool.eq_false_iff.mpr hfirst)).legible
      rw [written, hleft.written_words, ihs h.2.2 (hbare.resolve_left hfirst)]
      rfl
  | error number failure => cases hbare

end Ty

/-! ### Obstacles in a term -/

namespace Term

variable {t u : Term} {path : Path} {stop : Stop}

/-- A node that there is no rule and no layout for. -/
def foreign : Term → Bool
  | bareProj _ _ | bare _ => true
  | _ => false

/-- The type that a node declares, if it is a binder. -/
def ownType? : Term → Option Ty
  | fn _ _ type _ | recur _ _ type _ | letIn _ _ type _ _ => some type
  | _ => none

/-- What keeps a node from being written, whatever its children are. -/
def obstacle? (t : Term) : Option Stop :=
  if t.foreign then some (.noLayout t.kindName)
  else if t.ownType?.any Ty.hasBare then some .abstractType
  else none

/-- The first place in pre-order with an obstacle, and the obstacle there. -/
def firstObstacle? (t : Term) : Option (Path × Stop) :=
  t.occurrences.findSome? fun place => place.2.obstacle?.map (place.1, ·)

/-- What stands to the left of the sub-term at the end of a path: each node on
the way has written what is to the left of the child that the path goes to. -/
def before : Term → Path → String
  | _, [] => ""
  | t, i :: rest => t.leftOf i ++ (t.children[i]?.map (before · rest)).getD ""

theorem obstacle?_eq_some_iff : t.obstacle? = some stop ↔
    (t.foreign = true ∧ stop = .noLayout t.kindName) ∨
      (∃ type, t.ownType? = some type ∧ type.hasBare = true) ∧ stop = .abstractType := by
  unfold obstacle?
  cases t with
  | fn _ _ type _ | recur _ _ type _ | letIn _ _ type _ _ =>
    cases hbare : type.hasBare <;> simp [foreign, ownType?, hbare, @eq_comm _ stop]
  | _ => simp [foreign, ownType?, @eq_comm _ stop]

/-- Types are declared in pre-order. -/
theorem declared_eq_filterMap (t : Term) : t.declared = t.objects.filterMap ownType? := by
  induction t with
  | ident | number | truth | builtin | bare => rfl
  | fn _ _ _ _ ih | recur _ _ _ _ ih | proj _ _ _ ih | bareProj _ _ ih =>
    rw [objects_eq]
    simp [declared, ownType?, children, List.filterMap_cons, ih]
  | app _ _ _ ihf ihs | letIn _ _ _ _ _ ihf ihs | pair _ _ _ ihf ihs =>
    rw [objects_eq]
    simp [declared, ownType?, children, List.filterMap_cons, ihf, ihs]
  | cond _ _ _ _ ihc iht ihe =>
    rw [objects_eq]
    simp [declared, ownType?, children, List.filterMap_cons, ihc, iht, ihe]

theorem mem_declared_iff {type : Ty} :
    type ∈ t.declared ↔ ∃ u : Term, u.Within t ∧ u.ownType? = some type := by
  rw [declared_eq_filterMap, List.mem_filterMap]
  simp only [mem_objects_iff]

theorem firstObstacle?_eq_none_iff :
    t.firstObstacle? = none ↔ ∀ u : Term, u.Within t → u.obstacle? = none := by
  simp only [firstObstacle?, List.findSome?_eq_none_iff, Option.map_eq_none_iff]
  constructor
  · rintro h u ⟨path, hpath⟩
    exact h (path, u) (mem_occurrences_iff.mpr hpath)
  · rintro h ⟨path, u⟩ hplace
    exact h u ⟨path, mem_occurrences_iff.mp hplace⟩

theorem obstacle?_of_firstObstacle? (h : t.firstObstacle? = some (path, stop)) :
    ∃ u, t.follow? path = some u ∧ u.obstacle? = some stop := by
  obtain ⟨⟨_, u⟩, hplace, hfound⟩ := List.exists_of_findSome?_eq_some h
  obtain ⟨_, hstop, ⟨⟩⟩ := Option.map_eq_some_iff.mp hfound
  exact ⟨u, mem_occurrences_iff.mp hplace, hstop⟩

/-- There is an obstacle in a term exactly if a node is foreign or the bare type
occurs in a declared type. -/
theorem firstObstacle?_ne_none_iff : t.firstObstacle? ≠ none ↔
    (∃ u : Term, u.Within t ∧ u.foreign = true) ∨ ∃ type ∈ t.declared, type.hasBare = true := by
  have hsome : t.firstObstacle? ≠ none ↔ ∃ u : Term, u.Within t ∧ ∃ stop, u.obstacle? = some stop := by
    simp [firstObstacle?_eq_none_iff, Option.ne_none_iff_exists']
  simp only [hsome, obstacle?_eq_some_iff, mem_declared_iff]
  constructor
  · rintro ⟨u, hu, _, ⟨hforeign, -⟩ | ⟨⟨type, htype, hbare⟩, -⟩⟩
    · exact .inl ⟨u, hu, hforeign⟩
    · exact .inr ⟨type, ⟨u, hu, htype⟩, hbare⟩
  · rintro (⟨u, hu, hforeign⟩ | ⟨type, ⟨u, hu, htype⟩, hbare⟩)
    · exact ⟨u, hu, _, .inl ⟨hforeign, rfl⟩⟩
    · exact ⟨u, hu, _, .inr ⟨⟨type, htype, hbare⟩, rfl⟩⟩

end Term

/-! ### Writing up to an obstacle -/

/-- A cause for stopping, and what of a term was written before. -/
structure Halfway where
  left : String
  stop : Stop

/-- The same cause, seen from the beginning of a larger term. -/
def Halfway.behind (s : String) (halfway : Halfway) : Halfway :=
  { halfway with left := s ++ halfway.left }

/-- Where writing a term stops. -/
def Term.halfway? (t : Term) : Option Halfway :=
  t.firstObstacle?.map fun found => ⟨t.before found.1, found.2⟩

/-- A text was added to a line, and nothing that is no text. -/
def Layout.Grows (before : Layout) (s : String) (after : Layout) : Prop :=
  after.text = before.text ++ s ∧ after.flaw = before.flaw

/-- Work on a term of which `left` is on the line already. It gets done and adds
a text, or it stops with a known beginning of the term on the line. -/
def Halts (left : String) (halfway : Option Halfway) (work : Placing Unit) (s : String) : Prop :=
  ∀ start layout : Layout, start.Grows left layout → Ensures work layout
    (fun _ after => halfway = none ∧ start.Grows (left ++ s) after)
    (fun stop after => ∃ half, halfway = some ⟨half, stop⟩ ∧ start.Grows half after)

namespace Layout.Grows

variable {a b c : Layout} {s s' : String}

theorem refl (a : Layout) : a.Grows "" a := ⟨String.append_empty.symm, rfl⟩

theorem trans (hab : a.Grows s b) (hbc : b.Grows s' c) : a.Grows (s ++ s') c := by
  constructor
  · rw [hbc.1, hab.1, String.append_assoc]
  · rw [hbc.2, hab.2]

/-- Noting a span adds nothing. -/
theorem record (h : a.Grows s b) (label : Label) (span : Text.Span) :
    a.Grows s (b.record label span) := by
  unfold Layout.record
  split <;> exact h

end Layout.Grows

namespace Halts

variable {halfway halfway' : Option Halfway} {work first second : Placing Unit}
  {left s s' : String} {t : Term}

/-- Work on a term that is yet to be begun. -/
theorem ensures (h : Halts "" halfway work s) (layout : Layout) :
    Ensures work layout (fun _ after => halfway = none ∧ layout.Grows s after)
      (fun stop after => ∃ half, halfway = some ⟨half, stop⟩ ∧ layout.Grows half after) := by
  have hwork := h layout layout (.refl layout)
  rw [String.empty_append] at hwork
  exact hwork

theorem emit (s : String) : Halts left none (Placing.emit s) s := by
  intro start layout hleft
  have hgrows : layout.Grows s (layout.append s) := ⟨rfl, rfl⟩
  exact ⟨rfl, hleft.trans hgrows⟩

/-- What the first part stops over comes before what the second part does. -/
theorem seq (hfirst : Halts left halfway first s) (hsecond : Halts (left ++ s) halfway' second s') :
    Halts left (halfway.or halfway') (first >>= fun _ => second) (s ++ s') := by
  intro start layout hleft
  apply (hfirst start layout hleft).bind
  · rintro stop after ⟨half, rfl, hgrows⟩
    exact ⟨half, rfl, hgrows⟩
  · rintro _ middle ⟨rfl, hgrows⟩
    rw [← String.append_assoc]
    exact hsecond start middle hgrows

/-- A child is written like any term, and stops behind what is to the left of it. -/
theorem child (h : Halts "" t.halfway? t.place t.text) (left : String) :
    Halts left (t.halfway?.map (·.behind left)) t.place t.text := by
  intro start layout hleft
  apply (h.ensures layout).mono
  · rintro _ after ⟨hnone, hgrows⟩
    rw [hnone]
    exact ⟨rfl, hleft.trans hgrows⟩
  · rintro stop after ⟨half, hhalf, hgrows⟩
    rw [hhalf]
    exact ⟨left ++ half, rfl, hleft.trans hgrows⟩

theorem node (h : Halts left halfway work s) (label : Label) :
    Halts left halfway (Placing.node label work) s := by
  intro start layout hleft
  apply (Completes.get layout).bind
  rintro _ now ⟨-, rfl⟩
  apply (h start now hleft).bind (fun _ _ hstop => hstop)
  rintro _ middle ⟨hnone, hgrows⟩
  apply (Completes.modify _ middle).mono
  rintro _ after rfl
  exact ⟨hnone, hgrows.record _ _⟩

/-- A declared type is written out first, and nothing is on the line if the bare
type occurs in it. -/
theorem declared {type : Ty} {next : Scalar → Placing Unit} (htype : type.StopsAtBare)
    (hbare : type.hasBare = true → halfway = some ⟨left, .abstractType⟩)
    (hnext : type.hasBare = false → Halts left halfway (next (.text type.words)) s) :
    Halts left halfway (Placing.declared type >>= next) s := by
  intro start layout hleft
  have hwritten := Ensures.ofExcept type.written layout
  by_cases h : type.hasBare = true
  · apply hwritten.bind
    · rintro stop after ⟨hstop, rfl⟩
      cases hstop.symm.trans (htype.stops h)
      exact ⟨left, hbare h, hleft⟩
    · rintro value after ⟨hvalue, -⟩
      cases hvalue.symm.trans (htype.stops h)
  · have hclear := Bool.eq_false_iff.mpr h
    have hwords := (htype.legible hclear).written_words
    apply hwritten.bind
    · rintro stop after ⟨hstop, -⟩
      cases hstop.symm.trans hwords
    · rintro value after ⟨hvalue, rfl⟩
      cases hvalue.symm.trans hwords
      exact hnext hclear start after hleft

end Halts

namespace Term

variable {t child : Term} {stop : Stop}

/-- The obstacles of a child, seen from the beginning of the term. -/
theorem findSome?_underChild {i : Nat} (h : t.children[i]? = some child) :
    ((underChild i child.occurrences).findSome? fun place =>
        place.2.obstacle?.map fun stop => (⟨t.before place.1, stop⟩ : Halfway)) =
      child.halfway?.map (·.behind (t.leftOf i)) := by
  simp only [underChild, halfway?, firstObstacle?, List.map_findSome?, List.findSome?_map]
  congr 1
  funext place
  simp [before, h, Halfway.behind, Function.comp_def]

/-- Where writing stops among the children of a term, the leftmost child first. -/
def halfwayBelow? (t : Term) : Option Halfway :=
  (t.children.mapIdx fun i child =>
    child.halfway?.map (·.behind (t.leftOf i))).foldr Option.or none

/-- A node with an obstacle of its own leaves nothing on the line. -/
theorem halfway?_of_obstacle (h : t.obstacle? = some stop) : t.halfway? = some ⟨"", stop⟩ := by
  rw [halfway?, firstObstacle?, occurrences_eq, List.findSome?_cons]
  simp [h, before]

/-- A node without an obstacle of its own has the obstacles of its children. -/
theorem halfway?_of_children (h : t.obstacle? = none) : t.halfway? = t.halfwayBelow? := by
  have hbelow : t.halfway? = t.occurrences.tail.findSome? fun place =>
      place.2.obstacle?.map fun stop => ⟨t.before place.1, stop⟩ := by
    simp only [halfway?, firstObstacle?, List.map_findSome?]
    rw [occurrences_eq, List.findSome?_cons]
    simp [h, Function.comp_def]
  rw [hbelow, halfwayBelow?]
  cases t <;> simp [occurrences, children, List.findSome?_append, findSome?_underChild]

end Term

namespace Halts

variable {t : Term} {type : Ty} {halfway : Option Halfway} {work : Placing Unit}
  {next : Scalar → Placing Unit} {s : String}

/-- A node without an obstacle of its own stops where its children do. -/
theorem children (hself : t.obstacle? = none) (h : Halts "" halfway work s)
    (htext : t.text = s) (hbelow : t.halfwayBelow? = halfway) :
    Halts "" t.halfway? (Placing.node t.label work) t.text := by
  rw [Term.halfway?_of_children hself, htext, hbelow]
  exact h.node t.label

/-- A binder stops over its declared type, or else where its children do. -/
theorem binder (hown : t.ownType? = some type) (htype : type.StopsAtBare)
    (h : Halts "" halfway (next (.text type.words)) s) (htext : t.text = s)
    (hbelow : t.halfwayBelow? = halfway) :
    Halts "" t.halfway? (Placing.node t.label (Placing.declared type >>= next)) t.text := by
  have hself : t.obstacle? = if type.hasBare then some .abstractType else none := by
    cases t <;> simp_all [Term.obstacle?, Term.foreign, Term.ownType?]
  refine (Halts.declared htype ?_ ?_).node t.label
  · intro hbare
    apply Term.halfway?_of_obstacle
    rw [hself, if_pos hbare]
  · intro hclear
    have hnone : t.obstacle? = none := by simp [hself, hclear]
    rw [Term.halfway?_of_children hnone, htext, hbelow]
    exact h

end Halts

/-- **Writing a term stops at its first obstacle**, and what is to the left of it
is on the line. -/
theorem Term.place_halts (t : Term) (h : ∀ type ∈ t.declared, type.StopsAtBare) :
    Halts "" t.halfway? t.place t.text := by
  induction t with
  | ident label name => exact (Halts.emit _).node label
  | number label value => exact (Halts.emit _).node label
  | truth label value => exact (Halts.emit _).node label
  | builtin label op => exact (Halts.emit _).node label
  | fn label param domain body ih =>
    simp only [declared, List.forall_mem_cons] at h
    rw [place]
    apply Halts.binder (t := .fn label param domain body) rfl h.1 (.seq (.emit _) (.seq (.emit _)
      (.seq (.emit _) (.seq (.emit _) (.seq (.emit _) ((ih h.2).child _))))))
    · simp only [text, String.append_assoc]
    · simp [halfwayBelow?, children, leftOf]
  | app label callee argument ihf iha =>
    simp only [declared, List.forall_mem_append] at h
    rw [place]
    apply Halts.children (t := .app label callee argument) rfl (.seq ((ihf h.1).child _)
      (.seq (.emit _) (.seq ((iha h.2).child _) (.emit _))))
    · simp only [text, String.append_assoc]
    · simp [halfwayBelow?, children, leftOf]
  | recur label name declared body ih =>
    simp only [Term.declared, List.forall_mem_cons] at h
    rw [place]
    apply Halts.binder (t := .recur label name declared body) rfl h.1 (.seq (.emit _)
      (.seq (.emit _) (.seq (.emit _) (.seq (.emit _) ((ih h.2).child _)))))
    · simp only [text, String.append_assoc]
    · simp [halfwayBelow?, children, leftOf]
  | cond label condition thenBranch elseBranch ihc iht ihe =>
    simp only [declared, List.forall_mem_append] at h
    rw [place]
    apply Halts.children (t := .cond label condition thenBranch elseBranch) rfl (.seq (.emit _)
      (.seq ((ihc h.1).child _) (.seq (.emit _) (.seq ((iht h.2.1).child _) (.seq (.emit _)
        (.seq ((ihe h.2.2).child _) (.emit _)))))))
    · simp only [text, String.append_assoc]
    · simp [halfwayBelow?, children, leftOf]
  | letIn label name declared binding body ihb ih =>
    simp only [Term.declared, List.forall_mem_cons, List.forall_mem_append] at h
    rw [place]
    apply Halts.binder (t := .letIn label name declared binding body) rfl h.1 (.seq (.emit _)
      (.seq (.emit _) (.seq (.emit _) (.seq (.emit _) (.seq (.emit _) (.seq ((ihb h.2.1).child _)
        (.seq (.emit _) ((ih h.2.2).child _))))))))
    · simp only [text, String.append_assoc]
    · simp [halfwayBelow?, children, leftOf]
  | pair label first second ihf ihs =>
    simp only [declared, List.forall_mem_append] at h
    rw [place]
    apply Halts.children (t := .pair label first second) rfl (.seq (.emit _)
      (.seq ((ihf h.1).child _) (.seq (.emit _) (.seq ((ihs h.2).child _) (.emit _)))))
    · simp only [text, String.append_assoc]
    · simp [halfwayBelow?, children, leftOf]
  | proj label side inner ih =>
    rw [place]
    apply Halts.children (t := .proj label side inner) rfl (.seq (.emit _)
      (.seq ((ih h).child _) (.emit _)))
    · simp only [text, String.append_assoc]
    · simp [halfwayBelow?, children, leftOf]
  | bareProj label inner ih =>
    exact fun start layout hleft => ⟨"", halfway?_of_obstacle rfl, hleft⟩
  | bare label =>
    exact fun start layout hleft => ⟨"", halfway?_of_obstacle rfl, hleft⟩

/-! ### Many terms on one line -/

namespace Term

variable {t : Term} {layout : Layout}

/-- A term without an obstacle is added to the line, any other one up to its
first obstacle. -/
theorem write_halts (h : ∀ type ∈ t.declared, type.StopsAtBare) (hline : layout.flaw = none) :
    Ensures (Part.term t).write layout
      (fun whole after => t.firstObstacle? = none ∧ whole = after.text ∧
        layout.Grows t.text after)
      (fun stop after => ∃ path, t.firstObstacle? = some (path, stop) ∧
        layout.Grows (t.before path) after) := by
  apply ((t.place_halts h).ensures layout).bind
  · rintro stop after ⟨half, hhalfway, hgrows⟩
    obtain ⟨⟨path, _⟩, hfirst, ⟨⟩⟩ := Option.map_eq_some_iff.mp hhalfway
    exact ⟨path, hfirst, hgrows⟩
  rintro _ placed ⟨hnone, hgrows⟩
  apply (Completes.get placed).bind
  rintro now after ⟨rfl, rfl⟩
  have hwhole : after.line = .ok after.text := by
    rw [Layout.line, hgrows.2, hline]
  rw [hwhole]
  exact ⟨Option.map_eq_none_iff.mp hnone, rfl, hgrows⟩

/-- **Writing stops at the first obstacle, and what is to the left of it stays.**
Take any term whose primitive types are named by texts, and any line that has
nothing but texts on it. Writing the term on the line stops exactly if a node of
the term is foreign or the bare type occurs in a type that it declares. The
cause is the first such element in pre-order, where a declared type comes before
the children of its binder. What the line then has more than before is what the
nodes above that place have written to the left of it, and nothing of the node
itself. In both cases the line again has nothing but texts on it. -/
theorem write_stops_at_first_obstacle (hline : layout.flaw = none)
    (hnames : ∀ type ∈ t.declared, type.NamedByTexts) :
    ((∃ stop after, (Part.term t).write.run layout = .error stop after) ↔
      (∃ u : Term, u.Within t ∧ u.foreign = true) ∨
        ∃ type ∈ t.declared, ∃ part ∈ type.parts, part.isBare = true) ∧
    Ensures (Part.term t).write layout
      (fun whole after => whole = layout.text ++ t.text ∧ after.text = whole ∧
        after.flaw = none)
      (fun stop after => ∃ path u, t.firstObstacle? = some (path, stop) ∧
        t.follow? path = some u ∧
        ((u.foreign = true ∧ stop = .noLayout u.kindName) ∨
          (∃ type, u.ownType? = some type ∧ type.hasBare = true) ∧ stop = .abstractType) ∧
        after.text = layout.text ++ t.before path ∧ after.flaw = none) := by
  have hwrite := write_halts (fun type htype => (hnames type htype).stopsAtBare) hline
  constructor
  · simp only [← Ty.hasBare_iff, ← firstObstacle?_ne_none_iff]
    constructor
    · rintro ⟨stop, after, hrun⟩
      obtain ⟨path, hfirst, -⟩ := hwrite.of_error hrun
      rw [hfirst]
      exact Option.some_ne_none _
    · intro hsome
      cases hrun : (Part.term t).write.run layout with
      | ok whole after => exact (hsome (hwrite.of_ok hrun).1).elim
      | error stop after => exact ⟨stop, after, rfl⟩
  · apply hwrite.mono
    · rintro whole after ⟨-, rfl, htext, hflaw⟩
      exact ⟨htext, rfl, hflaw.trans hline⟩
    · rintro stop after ⟨path, hfirst, htext, hflaw⟩
      obtain ⟨u, hu, hstop⟩ := obstacle?_of_firstObstacle? hfirst
      exact ⟨path, u, hfirst, hu, obstacle?_eq_some_iff.mp hstop, htext, hflaw.trans hline⟩

/-- A let declares a type with the bare type in it, and its body is foreign. On a
line that is in use, what is left of the term is all that stands before the let.
The next term goes on from there, up to a foreign node of its own. -/
theorem write_stops_at_first_obstacle_let :
    let x : Name := ⟨"x", by decide⟩
    let declared : Ty := .pair 6 .integer (.base 5 .null)
    let t : Term := .app 7 (.fn 1 x .integer (.ident 0 x))
      (.pair 6 (.number 2 5) (.letIn 5 x declared (.number 3 1) (.bare 4)))
    let next : Term := .app 11 (.builtin 8 .successor) (.bareProj 10 (.bare 9))
    ∃ half rest,
      (Part.term t).write.run (Layout.empty.append "Old.") = .error .abstractType half ∧
      half.text = "Old.fn x:Integer => x ((5, " ∧
      (Part.term next).write.run half = .error (.noLayout "Projection") rest ∧
      rest.text = "Old.fn x:Integer => x ((5, Succ (" := by
  intro x declared t next
  have hinteger : Ty.integer.NamedByTexts := Ty.everywhere_prim.mpr ⟨_, rfl⟩
  have hnames : ∀ type ∈ t.declared, type.NamedByTexts := by
    intro type htype
    obtain rfl | rfl : type = .integer ∨ type = declared := by
      simpa [t, Term.declared] using htype
    · exact hinteger
    · exact Ty.everywhere_pair.mpr ⟨trivial, hinteger, Ty.everywhere_base.mpr trivial⟩
  have hbare : ∃ type ∈ t.declared, ∃ part ∈ type.parts, part.isBare = true :=
    ⟨declared, by simp [t, Term.declared], .base 5 .null, by simp [declared, Ty.parts], rfl⟩
  have hline : (Layout.empty.append "Old.").flaw = none := rfl
  obtain ⟨hstops, hwrite⟩ := write_stops_at_first_obstacle hline hnames
  obtain ⟨stop, half, hrun⟩ := hstops.mpr (.inr hbare)
  obtain ⟨path, -, hfirst, -, -, htext, hflaw⟩ := hwrite.of_error hrun
  obtain ⟨rfl, rfl⟩ : [1, 1] = path ∧ .abstractType = stop := Prod.mk.inj (Option.some.inj hfirst)
  have hnext : ∀ type ∈ next.declared, type.NamedByTexts := by simp [next, Term.declared]
  obtain ⟨hstops', hwrite'⟩ := write_stops_at_first_obstacle hflaw hnext
  obtain ⟨stop', rest, hrun'⟩ := hstops'.mpr (.inl ⟨.bareProj 10 (.bare 9), ⟨[1], rfl⟩, rfl⟩)
  obtain ⟨path', -, hfirst', -, -, htext', -⟩ := hwrite'.of_error hrun'
  obtain ⟨rfl, rfl⟩ : [1] = path' ∧ .noLayout "Projection" = stop' :=
    Prod.mk.inj (Option.some.inj hfirst')
  have hhalf : half.text = "Old.fn x:Integer => x ((5, " := htext.trans (by decide +kernel)
  refine ⟨half, rest, hrun, hhalf, hrun', ?_⟩
  rw [htext', hhalf]
  decide +kernel

end Term

end PCFTyping
