import PCFTyping.Proofs.Lines
import PCFTyping.Proofs.Occurrences
import PCFTyping.Proofs.Ty.Classes

/-!
Labels are the identities of terms.

A `Shelf` is a workshop with the terms made in it. Terms are requested one after
another, each with its sub-terms named by their places on the shelf, so a term
may be handed over any number of times. A finished term has a label that none of
the terms before it has, and nothing else gives out labels. So among all terms
made in a run, and all of their sub-terms, a label stands for one term
(`Shelf.coherent_run`), whatever was requested and refused.
-/

namespace PCFTyping

/-! ### One term more -/

namespace Term.Coherent

variable {terms terms' : List Term} {t : Term} {next : Label}

theorem subset (h : Coherent terms) (hsub : terms' ⊆ terms) : Coherent terms' :=
  fun t ht t' ht' => h t (hsub ht) t' (hsub ht')

/-- A term with a new label, made from terms at hand, may join them. -/
theorem concat (h : Coherent terms)
    (hlabels : ∀ s ∈ terms, ∀ u : Term, u.Within s → u.label < t.label)
    (hchildren : ∀ u ∈ t.children, u ∈ terms) : Coherent (terms ++ [t]) := by
  have hcases : ∀ s ∈ terms ++ [t], ∀ u : Term, u.Within s →
      u = t ∨ ∃ s ∈ terms, u.Within s := by
    intro s hs u hu
    rcases List.mem_append.mp hs with hold | hnew
    · exact .inr ⟨s, hold, hu⟩
    · cases List.mem_singleton.mp hnew
      rcases within_iff.mp hu with rfl | ⟨child, hchild, hu⟩
      · exact .inl rfl
      · exact .inr ⟨child, hchildren child hchild, hu⟩
  intro s hs s' hs' u u' hu hu' hlabel
  rcases hcases s hs u hu with rfl | ⟨old, hold, hu⟩
  · rcases hcases s' hs' u' hu' with rfl | ⟨old', hold', hu'⟩
    · rfl
    · exact (Nat.ne_of_gt (hlabels old' hold' u' hu') hlabel).elim
  · rcases hcases s' hs' u' hu' with rfl | ⟨old', hold', hu'⟩
    · exact (Nat.ne_of_lt (hlabels old hold u hu) hlabel).elim
    · exact h old hold old' hold' u u' hu hu' hlabel

end Term.Coherent

/-! ### Runs of requests -/

/-- A workshop with the terms made in it so far, the oldest first. -/
structure Shelf where
  workshop : Workshop
  made : List Term

/-- A request for a term. Its sub-terms are given by their places among the terms
made so far, so that one term may be a part of many. -/
inductive Assembly where
  | ident (name : Scalar)
  | number (value : Scalar)
  | truth (value : Scalar)
  | builtin (op : Builtin)
  | fn (param : Scalar) (domain : Part) (body : Nat)
  | app (callee argument : Nat)
  | recur (name : Scalar) (declared : Part) (body : Nat)
  | cond (condition thenBranch elseBranch : Nat)
  | letIn (name : Scalar) (declared : Part) (binding body : Nat)
  | pair (first second : Nat)
  | proj (side : Side) (inner : Nat)
  | bareProj (inner : Nat)
  | bare

namespace Shelf

/-- Nothing is made yet. -/
def start : Shelf := { workshop := .initial, made := [] }

/-- The term at a place. There is none where nothing was made yet. -/
def part (shelf : Shelf) (place : Nat) : Part :=
  match shelf.made[place]? with
  | some t => .term t
  | none => .plain .null

/-- What the workshop does about a request. -/
def work (shelf : Shelf) : Assembly → Build Term
  | .ident name => Workshop.ident name
  | .number value => Workshop.number value
  | .truth value => Workshop.truth value
  | .builtin op => Workshop.builtin op
  | .fn param domain body => Workshop.fn param domain (shelf.part body)
  | .app callee argument => Workshop.app (shelf.part callee) (shelf.part argument)
  | .recur name declared body => Workshop.recur name declared (shelf.part body)
  | .cond condition thenBranch elseBranch =>
      Workshop.cond (shelf.part condition) (shelf.part thenBranch) (shelf.part elseBranch)
  | .letIn name declared binding body =>
      Workshop.letIn name declared (shelf.part binding) (shelf.part body)
  | .pair first second => Workshop.pair (shelf.part first) (shelf.part second)
  | .proj side inner => Workshop.proj side (shelf.part inner)
  | .bareProj inner => Workshop.bareProj (shelf.part inner)
  | .bare => Workshop.bare

/-- Performs a request. A refused one makes nothing. -/
def perform (shelf : Shelf) (request : Assembly) : Shelf :=
  match (shelf.work request).run shelf.workshop with
  | .ok t workshop => { workshop, made := shelf.made ++ [t] }
  | .error _ workshop => { shelf with workshop }

/-- Performs requests one after another. -/
def run (requests : List Assembly) : Shelf := requests.foldl perform start

/-! ### What a request makes -/

theorem mem_made_of_part {shelf : Shelf} {place : Nat} {t : Term}
    (h : shelf.part place = .term t) : t ∈ shelf.made := by
  rw [part] at h
  split at h
  · rename_i found hfound
    cases h
    exact List.mem_of_getElem? hfound
  · cases h

/-- Work that makes a term from terms of the shelf and gives it the next label,
or that makes nothing and leaves the workshop as it is. -/
def Makes (shelf : Shelf) (work : Build Term) : Prop :=
  Ensures work shelf.workshop
    (fun t after => t.label = shelf.workshop.nextLabel ∧
      after.nextLabel = shelf.workshop.nextLabel + 1 ∧ ∀ u ∈ t.children, u ∈ shelf.made)
    (fun _ after => after = shelf.workshop)

namespace Makes

variable {shelf : Shelf}

theorem finish {f : Label → Term} (hlabel : ∀ label, (f label).label = label)
    (hchildren : ∀ label, ∀ u ∈ (f label).children, u ∈ shelf.made) :
    shelf.Makes (Workshop.finish f) :=
  ⟨hlabel _, rfl, hchildren _⟩

theorem leaf {f : Label → Term} (hlabel : ∀ label, (f label).label = label)
    (hchildren : ∀ label, (f label).children = []) : shelf.Makes (Workshop.finish f) :=
  .finish hlabel fun label => by simp [hchildren label]

/-- A refusal makes nothing, whatever was to follow. -/
theorem refuse {α : Type} (part : Part) (next : α → Build Term) :
    shelf.Makes (Workshop.refuse part >>= next) := by
  have hrefuse : Ensures (Workshop.refuse part : Build α) shelf.workshop (fun _ _ => False)
      (fun _ after => after = shelf.workshop) := Workshop.refuse_ensures
  exact hrefuse.bind (fun _ _ hstop => hstop) (fun _ _ h => h.elim)

theorem name (value : Scalar) {next : Name → Build Term} (h : ∀ name, shelf.Makes (next name)) :
    shelf.Makes (Workshop.requireName value >>= next) := by
  rw [Workshop.requireName]
  split
  · exact h _
  · exact refuse _ _

theorem type (part : Part) {next : Ty → Build Term} (h : ∀ type, shelf.Makes (next type)) :
    shelf.Makes (Workshop.requireType part >>= next) := by
  cases part with
  | type t => exact h t
  | _ => exact refuse _ _

/-- A place holds a term of the shelf, or nothing that passes for a term. -/
theorem term (place : Nat) {next : Term → Build Term}
    (h : ∀ t ∈ shelf.made, shelf.Makes (next t)) :
    shelf.Makes (Workshop.requireTerm (shelf.part place) >>= next) := by
  cases hpart : shelf.part place with
  | term t => exact h t (mem_made_of_part hpart)
  | _ => exact refuse _ _

end Makes

theorem makes_work (shelf : Shelf) (request : Assembly) : shelf.Makes (shelf.work request) := by
  cases request with
  | ident name => exact .name _ fun name => .leaf (fun _ => rfl) (fun _ => rfl)
  | number value =>
    cases value with
    | int value => exact Makes.leaf (f := (.number · value)) (fun _ => rfl) (fun _ => rfl)
    | _ => exact Workshop.refuse_ensures
  | truth value =>
    cases value with
    | bool value => exact Makes.leaf (f := (.truth · value)) (fun _ => rfl) (fun _ => rfl)
    | _ => exact Workshop.refuse_ensures
  | builtin op => exact Makes.leaf (f := (.builtin · op)) (fun _ => rfl) (fun _ => rfl)
  | fn param domain body =>
    refine .name _ fun param => .type _ fun domain => .term _ fun body hbody => ?_
    exact .finish (fun _ => rfl) (by simpa [Term.children] using hbody)
  | app callee argument =>
    refine .term _ fun callee hcallee => .term _ fun argument hargument => ?_
    exact .finish (fun _ => rfl) (by simpa [Term.children] using ⟨hcallee, hargument⟩)
  | recur name declared body =>
    refine .name _ fun name => .type _ fun declared => .term _ fun body hbody => ?_
    exact .finish (fun _ => rfl) (by simpa [Term.children] using hbody)
  | cond condition thenBranch elseBranch =>
    simp only [work, Workshop.cond]
    split
    · rename_i c t e hc ht he
      have hmade := And.intro (mem_made_of_part hc)
        (And.intro (mem_made_of_part ht) (mem_made_of_part he))
      exact .finish (fun _ => rfl) (by simpa [Term.children] using hmade)
    · exact Ensures.throw rfl
  | letIn name declared binding body =>
    refine .name _ fun name => .type _ fun declared => .term _ fun binding hbinding =>
      .term _ fun body hbody => ?_
    exact .finish (fun _ => rfl) (by simpa [Term.children] using ⟨hbinding, hbody⟩)
  | pair first second =>
    refine .term _ fun first hfirst => .term _ fun second hsecond => ?_
    exact .finish (fun _ => rfl) (by simpa [Term.children] using ⟨hfirst, hsecond⟩)
  | proj side inner =>
    refine .term _ fun inner hinner => ?_
    exact .finish (fun _ => rfl) (by simpa [Term.children] using hinner)
  | bareProj inner =>
    refine .term _ fun inner hinner => ?_
    exact .finish (fun _ => rfl) (by simpa [Term.children] using hinner)
  | bare => exact Makes.leaf (f := .bare) (fun _ => rfl) (fun _ => rfl)

/-! ### What a run makes -/

/-- The labels of all that is made are given out, and each stands for one term. -/
structure Orderly (shelf : Shelf) : Prop where
  labels : ∀ t ∈ shelf.made, ∀ u : Term, u.Within t → u.label < shelf.workshop.nextLabel
  coherent : Term.Coherent shelf.made

theorem orderly_start : start.Orderly := ⟨nofun, nofun⟩

theorem Orderly.perform {shelf : Shelf} (h : shelf.Orderly) (request : Assembly) :
    (shelf.perform request).Orderly := by
  have hmakes := shelf.makes_work request
  unfold Shelf.perform
  split
  · rename_i t after hrun
    obtain ⟨hlabel, hnext, hchildren⟩ := hmakes.of_ok hrun
    have hold : ∀ s ∈ shelf.made, ∀ u : Term, u.Within s → u.label < after.nextLabel := by
      intro s hs u hu
      rw [hnext]
      exact Nat.lt_succ_of_lt (h.labels s hs u hu)
    constructor
    · intro s hs u hu
      rcases List.mem_append.mp hs with hs | hs
      · exact hold s hs u hu
      · cases List.mem_singleton.mp hs
        rcases Term.within_iff.mp hu with rfl | ⟨child, hchild, hu⟩
        · rw [hnext, hlabel]
          exact Nat.lt_succ_self _
        · exact hold child (hchildren child hchild) u hu
    · exact h.coherent.concat (hlabel ▸ h.labels) hchildren
  · rename_i stop after hrun
    have hsame : after = shelf.workshop := hmakes.of_error hrun
    subst hsame
    exact h

theorem orderly_run (requests : List Assembly) : (run requests).Orderly := by
  suffices h : ∀ shelf : Shelf, shelf.Orderly → (requests.foldl Shelf.perform shelf).Orderly from
    h start orderly_start
  induction requests with
  | nil => exact fun _ h => h
  | cons request rest ih => exact fun shelf h => ih (shelf.perform request) (h.perform request)

/-- **Labels are identities.** Among the terms made in any run of requests, and
all of their sub-terms, a label stands for one term. -/
theorem coherent_run (requests : List Assembly) {terms : List Term}
    (h : terms ⊆ (run requests).made) : Term.Coherent terms :=
  (orderly_run requests).coherent.subset h

end Shelf

end PCFTyping
