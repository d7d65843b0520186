import PCFTyping.Picture
import PCFTyping.Proofs.Outcome
import PCFTyping.Proofs.Typing.Premises
import PCFTyping.Term.Shown

/-!
Writing a term out.

`Term.text` is the text of a term, put together from the texts of its parts,
and `Term.columnsAt?` says between which columns the sub-term at a path stands:
it adds up the lengths of all that is to the left of it. Neither knows of
labels. `Term.columns` pairs the columns of every sub-term with its label, in
the order in which sub-terms are completed.

A term is legible when it is in the language and its declared types have a text
for their written form. `Term.place_lays` says what comes of writing any term at
the end of any line.

* If the term is legible, writing gets done. It adds the text of the term and
  notes for each label that has no span yet the first columns listed for it.
* Otherwise it stops half-way, because something has no text.
* In both cases the line stays in order (`Layout.Leads`): the text only grows,
  a span once noted stays, and each new one is where its object stands.
-/

namespace PCFTyping

open Text (Span)

/-! ### What has a text -/

/-- The written form of a type is a text. -/
def Ty.Legible (type : Ty) : Prop := Succeeds type.render

theorem Ty.Renderable.legible {type : Ty} (h : type.Renderable) : type.Legible := h.render_ok

/-- The written form of a type, where it is a text. -/
def Ty.words (type : Ty) : String := type.render.toOption.getD ""

theorem Ty.words_of_written {type : Ty} {s : String} (h : type.written = .ok (.text s)) :
    type.words = s := by
  rw [words, render_eq_ok_iff.mpr h]
  rfl

theorem Ty.Legible.written_words {type : Ty} (h : type.Legible) :
    type.written = .ok (.text type.words) := by
  obtain ⟨s, hs⟩ := h
  rw [render_eq_ok_iff] at hs
  rw [words_of_written hs, hs]

/-- Every node of a term has a text. -/
structure Term.Legible (t : Term) : Prop where
  inLanguage : t.InLanguage
  declared : ∀ type ∈ t.declared, type.Legible

theorem Term.Legible.child {t u : Term} (h : t.Legible) (hu : u ∈ t.children) : u.Legible where
  inLanguage := h.inLanguage.child hu
  declared := fun type htype => h.declared type (Term.declared_of_children hu htype)

theorem Term.Legible.within {t u : Term} (h : t.Legible) (hu : u.Within t) : u.Legible :=
  hu.induction (fun _ _ hchild hv => hv.child hchild) h

theorem Term.legible_iff {t : Term} :
    t.Legible ↔ t.InLanguage ∧ ∀ type ∈ t.declared, type.Legible :=
  ⟨fun h => ⟨h.inLanguage, h.declared⟩, fun h => ⟨h.1, h.2⟩⟩

/-- A cause for stopping that lies in something without a text. -/
inductive Stop.Unwritable : Stop → Prop where
  | noLayout {kind : String} : Unwritable (.noLayout kind)
  | abstractType : Unwritable .abstractType
  | notText {use : TextUse} {value : Scalar} : Unwritable (.notText use value)

theorem Scalar.unwritable_of_requireText {use : TextUse} {value : Scalar} {stop : Stop}
    (h : value.requireText use = .error stop) : stop.Unwritable := by
  cases value with
  | text s => cases h
  | _ =>
    cases h
    exact .notText

theorem Ty.unwritable_of_written {type : Ty} {stop : Stop} (h : type.written = .error stop) :
    stop.Unwritable := by
  induction type with
  | prim number name => cases h
  | base number key =>
    cases h
    exact .abstractType
  | arrow number domain range ihd ihr =>
    simp only [written, bind_eq_error_iff] at h
    rcases h with hdomain | ⟨_, -, hleft | ⟨_, -, hrange | ⟨_, -, hright | ⟨_, -, hnone⟩⟩⟩⟩
    · exact ihd hdomain
    · exact Scalar.unwritable_of_requireText hleft
    · exact ihr hrange
    · exact Scalar.unwritable_of_requireText hright
    · cases hnone
  | pair number first second ihf ihs =>
    simp only [written, bind_eq_error_iff] at h
    rcases h with hfirst | ⟨_, -, hsecond | ⟨_, -, hnone⟩⟩
    · exact ihf hfirst
    · exact ihs hsecond
    · cases hnone
  | error number failure => cases h

/-! ### Text and columns -/

namespace Term

/-- The text of a legible term. -/
def text : Term → String
  | ident _ name => name.text
  | number _ value => toString value
  | truth _ value => if value then "true" else "false"
  | builtin _ op => op.word
  | fn _ param domain body => "fn " ++ param.text ++ ":" ++ domain.words ++ " => " ++ body.text
  | app _ callee argument => callee.text ++ " (" ++ argument.text ++ ")"
  | recur _ name declared body => name.text ++ ":" ++ declared.words ++ " => " ++ body.text
  | cond _ condition thenBranch elseBranch =>
      "if (" ++ condition.text ++ ") then (" ++ thenBranch.text ++ ") else (" ++
        elseBranch.text ++ ")"
  | letIn _ name declared binding body =>
      "let " ++ name.text ++ ": " ++ declared.words ++ " = " ++ binding.text ++ " in " ++ body.text
  | pair _ first second => "(" ++ first.text ++ ", " ++ second.text ++ ")"
  | proj _ side inner => side.word ++ " (" ++ inner.text ++ ")"
  | bareProj _ _ | bare _ => ""

/-- What stands to the left of a child in the text of a term. -/
def leftOf : Term → Nat → String
  | fn _ param domain _, 0 => "fn " ++ param.text ++ ":" ++ domain.words ++ " => "
  | app _ callee _, 1 => callee.text ++ " ("
  | recur _ name declared _, 0 => name.text ++ ":" ++ declared.words ++ " => "
  | cond _ _ _ _, 0 => "if ("
  | cond _ condition _ _, 1 => "if (" ++ condition.text ++ ") then ("
  | cond _ condition thenBranch _, 2 =>
      "if (" ++ condition.text ++ ") then (" ++ thenBranch.text ++ ") else ("
  | letIn _ name declared _ _, 0 => "let " ++ name.text ++ ": " ++ declared.words ++ " = "
  | letIn _ name declared binding _, 1 =>
      "let " ++ name.text ++ ": " ++ declared.words ++ " = " ++ binding.text ++ " in "
  | pair _ _ _, 0 => "("
  | pair _ first _, 1 => "(" ++ first.text ++ ", "
  | proj _ side _, 0 => side.word ++ " ("
  | _, _ => ""

/-- The columns of a whole term that starts in a column. -/
def columnsFrom (t : Term) (start : Nat) : Span := ⟨start, start + t.text.length⟩

/-- The columns of the sub-term at the end of a path. -/
def columnsAt? (t : Term) (start : Nat) : Path → Option Span
  | [] => some (t.columnsFrom start)
  | i :: rest => t.children[i]?.bind fun child =>
      child.columnsAt? (start + (t.leftOf i).length) rest

/-- The columns of every sub-term with its label, a term after its children. -/
def columns : Term → Nat → List (Label × Span)
  | t@(ident label _), start | t@(number label _), start | t@(truth label _), start
  | t@(builtin label _), start => [(label, t.columnsFrom start)]
  | t@(fn label _ _ body), start | t@(recur label _ _ body), start =>
      body.columns (start + (t.leftOf 0).length) ++ [(label, t.columnsFrom start)]
  | t@(app label callee argument), start =>
      callee.columns (start + (t.leftOf 0).length) ++
        (argument.columns (start + (t.leftOf 1).length) ++ [(label, t.columnsFrom start)])
  | t@(cond label condition thenBranch elseBranch), start =>
      condition.columns (start + (t.leftOf 0).length) ++
        (thenBranch.columns (start + (t.leftOf 1).length) ++
          (elseBranch.columns (start + (t.leftOf 2).length) ++ [(label, t.columnsFrom start)]))
  | t@(letIn label _ _ binding body), start =>
      binding.columns (start + (t.leftOf 0).length) ++
        (body.columns (start + (t.leftOf 1).length) ++ [(label, t.columnsFrom start)])
  | t@(pair label first second), start =>
      first.columns (start + (t.leftOf 0).length) ++
        (second.columns (start + (t.leftOf 1).length) ++ [(label, t.columnsFrom start)])
  | t@(proj label _ inner), start =>
      inner.columns (start + (t.leftOf 0).length) ++ [(label, t.columnsFrom start)]
  | bareProj _ _, _ | bare _, _ => []

/-- A term stands on a line between two columns. -/
def StandsAt (t : Term) (line : String) (span : Span) : Prop :=
  ∃ left right : String, line = left ++ (t.text ++ right) ∧ span = t.columnsFrom left.length

theorem StandsAt.append {t : Term} {line : String} {span : Span} (h : t.StandsAt line span)
    (s : String) : t.StandsAt (line ++ s) span := by
  obtain ⟨left, right, rfl, rfl⟩ := h
  exact ⟨left, right ++ s, by simp only [String.append_assoc], rfl⟩

end Term

/-! ### Lines in order -/

namespace Layout

/-- A span once noted stays. -/
def Keeps (before after : Layout) : Prop :=
  ∀ label span, before.span? label = some span → after.span? label = some span

theorem Keeps.trans {a b c : Layout} (hab : a.Keeps b) (hbc : b.Keeps c) : a.Keeps c :=
  fun label span h => hbc label span (hab label span h)

theorem span?_record (layout : Layout) (label : Label) (span : Span) (other : Label) :
    (layout.record label span).span? other =
      (layout.span? other).or (if other = label then some span else none) := by
  unfold record
  split
  · rename_i hsome
    by_cases h : other = label
    · subst h
      obtain ⟨noted, hnoted⟩ := Option.isSome_iff_exists.mp hsome
      simp [hnoted]
    · simp [h]
  · rename_i hnone
    have hnone : layout.span? label = none := by simpa using hnone
    by_cases h : other = label
    · subst h
      rw [hnone]
      simp [span?]
    · have hne : (other == label) = false := beq_eq_false_iff_ne.mpr h
      simp [span?, List.lookup_cons, hne, h]

/-- Noting a span changes nothing on the line. -/
theorem line_record (layout : Layout) (label : Label) (span : Span) :
    (layout.record label span).text = layout.text ∧
      (layout.record label span).width = layout.width := by
  unfold record
  split <;> exact ⟨rfl, rfl⟩

/-- The width of a line is the length of its text. -/
def Measured (layout : Layout) : Prop := layout.width = layout.text.length

/-- A line leads to a later one: the text has grown at its end and is measured,
spans have stayed, and what is new among them are the columns of legible terms
of some sort. -/
structure Leads (objects : Term → Prop) (before after : Layout) : Prop where
  text : ∃ s, after.text = before.text ++ s
  measured : after.Measured
  keeps : before.Keeps after
  noted : ∀ label span, after.span? label = some span → before.span? label = some span ∨
    ∃ u, objects u ∧ u.label = label ∧ u.Legible ∧ u.StandsAt after.text span

namespace Leads

variable {objects objects' : Term → Prop} {a b c : Layout}

theorem refl (h : a.Measured) : a.Leads objects a where
  text := ⟨"", by simp⟩
  measured := h
  keeps := fun _ _ hspan => hspan
  noted := fun _ _ hspan => .inl hspan

theorem trans (hab : a.Leads objects b) (hbc : b.Leads objects c) : a.Leads objects c where
  text := by
    obtain ⟨s, hs⟩ := hab.text
    obtain ⟨s', hs'⟩ := hbc.text
    exact ⟨s ++ s', by rw [hs', hs, String.append_assoc]⟩
  measured := hbc.measured
  keeps := hab.keeps.trans hbc.keeps
  noted := by
    intro label span hspan
    rcases hbc.noted label span hspan with hspan | hnew
    · rcases hab.noted label span hspan with hspan | ⟨u, hu, hlabel, hlegible, hstands⟩
      · exact .inl hspan
      · obtain ⟨s, hs⟩ := hbc.text
        exact .inr ⟨u, hu, hlabel, hlegible, hs ▸ hstands.append s⟩
    · exact .inr hnew

theorem mono (h : a.Leads objects b) (hobjects : ∀ u, objects u → objects' u) :
    a.Leads objects' b where
  text := h.text
  measured := h.measured
  keeps := h.keeps
  noted := fun label span hspan => (h.noted label span hspan).imp_right
    fun ⟨u, hu, hrest⟩ => ⟨u, hobjects u hu, hrest⟩

/-- A line that has grown at its end and has no new spans. -/
theorem of_spans_eq {s : String} (htext : b.text = a.text ++ s) (hmeasured : b.Measured)
    (hspans : b.spans = a.spans) : a.Leads objects b where
  text := ⟨s, htext⟩
  measured := hmeasured
  keeps := fun label span hspan => by rw [span?, hspans]; exact hspan
  noted := fun label span hspan => .inl (by rw [span?, ← hspans]; exact hspan)

/-- A term that was written at the end of a line stands there. -/
theorem record {t : Term} (h : a.Leads objects b) (ha : a.Measured) (ht : objects t)
    (hlegible : t.Legible) (htext : b.text = a.text ++ t.text) :
    a.Leads objects (b.record t.label ⟨a.width, b.width⟩) := by
  obtain ⟨hline, hwidth⟩ := b.line_record t.label ⟨a.width, b.width⟩
  constructor
  · exact ⟨t.text, hline.trans htext⟩
  · rw [Measured, hwidth, hline]
    exact h.measured
  · intro label span hspan
    rw [span?_record, h.keeps label span hspan, Option.some_or]
  · intro label span hspan
    rw [span?_record] at hspan
    rw [hline]
    cases hold : b.span? label with
    | some noted =>
      rw [hold, Option.some_or] at hspan
      exact h.noted label span (hold.trans hspan)
    | none =>
      rw [hold, Option.none_or] at hspan
      by_cases hlabel : label = t.label
      · rw [if_pos hlabel, Option.some.injEq] at hspan
        subst hspan
        refine .inr ⟨t, ht, hlabel.symm, hlegible, a.text, "", by simpa using htext, ?_⟩
        have hend := h.measured
        rw [Measured] at ha hend
        rw [Term.columnsFrom, ha, hend, htext, String.length_append]
      · rw [if_neg hlabel] at hspan
        cases hspan

end Leads

end Layout

/-! ### Writing -/

/-- Work on a line that gets done exactly under a condition. It then adds a
text and notes columns for the labels that have no span yet. Done or not, it
leaves the line in order, and it stops only over something without a text. -/
def Lays (objects : Term → Prop) (work : Placing Unit) (s : String)
    (columns : Nat → List (Label × Span)) (possible : Prop) : Prop :=
  ∀ layout : Layout, layout.Measured → Ensures work layout
    (fun _ after => possible ∧ layout.Leads objects after ∧ after.text = layout.text ++ s ∧
      ∀ label, after.span? label = (layout.span? label).or ((columns layout.width).lookup label))
    (fun stop after => ¬ possible ∧ layout.Leads objects after ∧ stop.Unwritable)

namespace Lays

variable {objects objects' : Term → Prop} {work first second content : Placing Unit}
  {s s' : String} {columns columns' : Nat → List (Label × Span)} {possible possible' : Prop}

theorem emit (s : String) : Lays objects (Placing.emit s) s (fun _ => []) True := by
  intro layout hlayout
  refine ⟨trivial, .of_spans_eq rfl ?_ rfl, rfl, fun label => Option.or_none.symm⟩
  rw [Layout.Measured] at hlayout ⊢
  simp [Layout.append, hlayout, String.length_append]

theorem seq (hfirst : Lays objects first s columns possible)
    (hsecond : Lays objects second s' columns' possible') :
    Lays objects (first >>= fun _ => second) (s ++ s')
      (fun start => columns start ++ columns' (start + s.length)) (possible ∧ possible') := by
  intro layout hlayout
  refine (hfirst layout hlayout).bind ?_ ?_
  · rintro stop after ⟨hnot, hleads, hstop⟩
    exact ⟨fun h => hnot h.1, hleads, hstop⟩
  rintro _ middle ⟨hpossible, hleads, htext, hspans⟩
  have hwidth : middle.width = layout.width + s.length := by
    rw [hleads.measured, hlayout, htext, String.length_append]
  refine (hsecond middle hleads.measured).mono ?_ ?_
  · rintro _ after ⟨hpossible', hleads', htext', hspans'⟩
    refine ⟨⟨hpossible, hpossible'⟩, hleads.trans hleads', ?_, ?_⟩
    · rw [htext', htext, String.append_assoc]
    · intro label
      rw [hspans', hspans, hwidth, Option.or_assoc, List.lookup_append]
  · rintro stop after ⟨hnot, hleads', hstop⟩
    exact ⟨fun h => hnot h.2, hleads.trans hleads', hstop⟩

theorem mono (h : Lays objects work s columns possible) (hobjects : ∀ u, objects u → objects' u) :
    Lays objects' work s columns possible := by
  intro layout hlayout
  refine (h layout hlayout).mono ?_ ?_
  · rintro _ after ⟨hpossible, hleads, hrest⟩
    exact ⟨hpossible, hleads.mono hobjects, hrest⟩
  · rintro stop after ⟨hnot, hleads, hstop⟩
    exact ⟨hnot, hleads.mono hobjects, hstop⟩

/-- The written form of a type goes on the line if it is a text. -/
theorem emitScalar {type : Ty} {value : Scalar} (h : type.written = .ok value) :
    Lays objects (Placing.emitScalar value) type.words (fun _ => []) type.Legible := by
  have hspoil : ∀ value : Scalar, type.written = .ok value → (∀ s, value ≠ .text s) →
      Lays objects (do modify (·.spoil value); throw (.notText .measured value)) type.words
        (fun _ => []) type.Legible := by
    intro value hwritten hvalue layout hlayout
    refine ⟨?_, .of_spans_eq (s := "") (String.append_empty).symm hlayout rfl, .notText⟩
    intro hlegible
    rw [hlegible.written_words] at hwritten
    cases hwritten
    exact hvalue _ rfl
  cases value with
  | text s =>
    rw [Ty.words_of_written h]
    intro layout hlayout
    obtain ⟨-, hrest⟩ := @emit objects s layout hlayout
    exact ⟨⟨s, Ty.render_eq_ok_iff.mpr h⟩, hrest⟩
  | _ => exact hspoil _ h nofun

/-- A declared type is written out first; the rest is done with its form. -/
theorem declared {type : Ty} {next : Scalar → Placing Unit} (htype : possible → type.Legible)
    (hnext : ∀ value, type.written = .ok value → Lays objects (next value) s columns possible) :
    Lays objects (Placing.declared type >>= next) s columns possible := by
  intro layout hlayout
  refine (Ensures.ofExcept type.written layout).bind ?_ ?_
  · rintro stop after ⟨hstop, rfl⟩
    refine ⟨?_, .refl hlayout, Ty.unwritable_of_written hstop⟩
    intro hpossible
    rw [(htype hpossible).written_words] at hstop
    cases hstop
  · rintro value after ⟨hvalue, rfl⟩
    exact hnext value hvalue after hlayout

/-- A node is written by its content, and noted once it is complete. -/
theorem node {t : Term} (h : Lays objects content s columns possible) (ht : objects t)
    (htext : t.text = s) (hlegible : t.Legible ↔ possible)
    (hcolumns : ∀ start, t.columns start = columns start ++ [(t.label, t.columnsFrom start)]) :
    Lays objects (Placing.node t.label content) t.text t.columns t.Legible := by
  subst htext
  intro layout hlayout
  apply (Completes.get layout).bind
  rintro start now ⟨rfl, rfl⟩
  refine (h now hlayout).bind ?_ ?_
  · rintro stop after ⟨hnot, hleads, hstop⟩
    exact ⟨fun hpossible => hnot (hlegible.mp hpossible), hleads, hstop⟩
  rintro _ middle ⟨hpossible, hleads, htext, hspans⟩
  apply (Completes.modify _ middle).mono
  rintro _ after rfl
  have hpossible := hlegible.mpr hpossible
  obtain ⟨hline, -⟩ := middle.line_record t.label ⟨now.width, middle.width⟩
  refine ⟨hpossible, hleads.record hlayout ht hpossible htext, hline.trans htext, ?_⟩
  have hwidth : middle.width = now.width + t.text.length := by
    rw [hleads.measured, hlayout, htext, String.length_append]
  intro other
  rw [Layout.span?_record, hspans, hwidth, Option.or_assoc, hcolumns, List.lookup_append]
  by_cases hother : other = t.label
  · simp [hother, Term.columnsFrom]
  · have hne : (other == t.label) = false := beq_eq_false_iff_ne.mpr hother
    simp [List.lookup_cons, hne, hother]

end Lays

/-- What is written for a child is written inside the term. -/
theorem Lays.child {t u : Term} (h : Lays (·.Within u) u.place u.text u.columns u.Legible)
    (hchild : u ∈ t.children) : Lays (·.Within t) u.place u.text u.columns u.Legible :=
  h.mono fun _ hv => hv.child hchild

/-- **Writing a term** adds its text and notes the first columns of every label
if the term is legible, and otherwise stops with the line in order. -/
theorem Term.place_lays (t : Term) : Lays (·.Within t) t.place t.text t.columns t.Legible := by
  induction t with
  | ident label name =>
    refine .node (t := .ident label name) (.emit _) (.refl _) rfl ?_ (fun _ => rfl)
    simp [legible_iff, InLanguage, declared]
  | number label value =>
    refine .node (t := .number label value) (.emit _) (.refl _) rfl ?_ (fun _ => rfl)
    simp [legible_iff, InLanguage, declared]
  | truth label value =>
    refine .node (t := .truth label value) (.emit _) (.refl _) rfl ?_ (fun _ => rfl)
    simp [legible_iff, InLanguage, declared]
  | builtin label op =>
    refine .node (t := .builtin label op) (.emit _) (.refl _) rfl ?_ (fun _ => rfl)
    simp [legible_iff, InLanguage, declared]
  | fn label param domain body ih =>
    have hbody := ih.child (t := .fn label param domain body) (by simp [children])
    rw [place]
    refine .node (t := .fn label param domain body) (.declared (fun h => h.2.2.2.1)
      fun shown hshown => .seq (.emit _) (.seq (.emit _) (.seq (.emit _)
        (.seq (.emitScalar hshown) (.seq (.emit _) hbody))))) (.refl _) ?_ ?_ ?_
    · simp only [text, String.append_assoc]
    · simp [legible_iff, InLanguage, declared, and_left_comm]
    · intro start
      simp [columns, leftOf, columnsFrom, text, Term.label, Nat.add_assoc]
  | app label callee argument ihf iha =>
    have hcallee := ihf.child (t := .app label callee argument) (by simp [children])
    have hargument := iha.child (t := .app label callee argument) (by simp [children])
    rw [place]
    refine .node (t := .app label callee argument)
      (.seq hcallee (.seq (.emit _) (.seq hargument (.emit _)))) (.refl _) ?_ ?_ ?_
    · simp only [text, String.append_assoc]
    · simp [legible_iff, InLanguage, declared, or_imp, forall_and, and_assoc, and_left_comm]
    · intro start
      simp [columns, leftOf, columnsFrom, text, Term.label, Nat.add_assoc]
  | recur label name declared body ih =>
    have hbody := ih.child (t := .recur label name declared body) (by simp [children])
    rw [place]
    refine .node (t := .recur label name declared body) (.declared (fun h => h.2.2.1)
      fun shown hshown => .seq (.emit _) (.seq (.emit _) (.seq (.emitScalar hshown)
        (.seq (.emit _) hbody)))) (.refl _) ?_ ?_ ?_
    · simp only [text, String.append_assoc]
    · simp [legible_iff, InLanguage, Term.declared, and_left_comm]
    · intro start
      simp [columns, leftOf, columnsFrom, text, Term.label, Nat.add_assoc]
  | cond label condition thenBranch elseBranch ihc iht ihe =>
    have hcondition := ihc.child (t := .cond label condition thenBranch elseBranch)
      (by simp [children])
    have hthen := iht.child (t := .cond label condition thenBranch elseBranch) (by simp [children])
    have helse := ihe.child (t := .cond label condition thenBranch elseBranch) (by simp [children])
    rw [place]
    refine .node (t := .cond label condition thenBranch elseBranch)
      (.seq (.emit _) (.seq hcondition (.seq (.emit _) (.seq hthen (.seq (.emit _)
        (.seq helse (.emit _))))))) (.refl _) ?_ ?_ ?_
    · simp only [text, String.append_assoc]
    · simp [legible_iff, InLanguage, declared, or_imp, forall_and, and_assoc, and_left_comm]
    · intro start
      simp [columns, leftOf, columnsFrom, text, Term.label, Nat.add_assoc]
  | letIn label name declared binding body ihb ih =>
    have hbinding := ihb.child (t := .letIn label name declared binding body) (by simp [children])
    have hbody := ih.child (t := .letIn label name declared binding body) (by simp [children])
    rw [place]
    refine .node (t := .letIn label name declared binding body)
      (.declared (fun h => h.2.2.2.1) fun shown hshown => .seq (.emit _) (.seq (.emit _)
        (.seq (.emit _) (.seq (.emitScalar hshown) (.seq (.emit _) (.seq hbinding
          (.seq (.emit _) hbody))))))) (.refl _) ?_ ?_ ?_
    · simp only [text, String.append_assoc]
    · simp [legible_iff, InLanguage, Term.declared, or_imp, forall_and, and_assoc, and_left_comm]
    · intro start
      simp [columns, leftOf, columnsFrom, text, Term.label, Nat.add_assoc]
  | pair label first second ihf ihs =>
    have hfirst := ihf.child (t := .pair label first second) (by simp [children])
    have hsecond := ihs.child (t := .pair label first second) (by simp [children])
    rw [place]
    refine .node (t := .pair label first second)
      (.seq (.emit _) (.seq hfirst (.seq (.emit _) (.seq hsecond (.emit _))))) (.refl _) ?_ ?_ ?_
    · simp only [text, String.append_assoc]
    · simp [legible_iff, InLanguage, declared, or_imp, forall_and, and_assoc, and_left_comm]
    · intro start
      simp [columns, leftOf, columnsFrom, text, Term.label, Nat.add_assoc]
  | proj label side inner ih =>
    have hinner := ih.child (t := .proj label side inner) (by simp [children])
    rw [place]
    refine .node (t := .proj label side inner) (.seq (.emit _) (.seq hinner (.emit _))) (.refl _)
      ?_ ?_ ?_
    · simp only [text, String.append_assoc]
    · simp [legible_iff, InLanguage, declared]
    · intro start
      simp [columns, leftOf, columnsFrom, text, Term.label, Nat.add_assoc]
  | bareProj label inner ih =>
    intro layout hlayout
    exact ⟨fun h => h.inLanguage, .refl hlayout, .noLayout⟩
  | bare label =>
    intro layout hlayout
    exact ⟨fun h => h.inLanguage, .refl hlayout, .noLayout⟩

/-- A term has a text exactly if it is legible. -/
theorem Term.render_eq_ok_iff {t : Term} {s : String} :
    t.render = .ok s ↔ t.Legible ∧ s = t.text := by
  have hplace := t.place_lays .empty rfl
  simp only [render, Part.layout, Part.place]
  cases hrun : t.place.run .empty with
  | ok result after =>
    obtain ⟨hlegible, -, htext, -⟩ := hplace.of_ok hrun
    have htext : after.text = t.text := htext.trans String.empty_append
    simp [Except.map, hlegible, htext, eq_comm]
  | error stop after =>
    obtain ⟨hnot, -⟩ := hplace.of_error hrun
    simp [Except.map, hnot]

end PCFTyping
