import PCFTyping.Proofs.Columns

/-!
Many terms on one line.

Terms are written on one line, one after another, and the next one follows even
where writing the one before stopped half-way. What one term does to the line is
said by `Layout.write_ensures`, and any number of them by
`Layout.writeAll_leads`: the line stays in order. `Layout.writeAll_in_order`
draws the conclusions, about the text of the line and about every span on it,
those of the parts of a term that was never completed included.

Objects may appear again, within a term and in a later one. A label is the
identity of an object, so among the terms that are written it stands for one
term only (`Term.Coherent`).
-/

namespace PCFTyping

open Text (Span)

/-! ### A term where it stands -/

/-- A number is written with one character at least. -/
theorem toString_int_length_pos (value : Int) : 0 < (toString value).length := by
  cases value with
  | ofNat n =>
    have hdigits : toString (Int.ofNat n) = String.ofList (Nat.toDigits 10 n) := rfl
    rw [hdigits, String.length_ofList]
    exact Nat.length_toDigits_pos
  | negSucc n =>
    have hsign : toString (Int.negSucc n) = "-" ++ Nat.repr (n + 1) := rfl
    have hone : "-".length = 1 := rfl
    rw [hsign, String.length_append, hone]
    omega

namespace Term

/-- No legible term has an empty text. -/
theorem Legible.text_length_pos {t : Term} (h : t.Legible) : 0 < t.text.length := by
  -- Every shape with sub-terms is written with one of these.
  have hclose : ")".length = 1 := rfl
  have hcolon : ":".length = 1 := rfl
  have hlet : "let ".length = 4 := rfl
  cases t with
  | ident label name =>
    rw [← String.length_toList, List.length_pos_iff, ne_eq, String.toList_eq_nil_iff]
    exact name.nonempty
  | number label value => exact toString_int_length_pos value
  | truth label value =>
    simp only [text]
    cases value <;> decide
  | builtin label op =>
    simp only [text]
    cases op <;> decide
  | bareProj | bare => exact h.inLanguage.elim
  | _ =>
    simp only [text, String.length_append]
    omega

/-- The columns of a term are as many as the characters of its text. -/
theorem StandsAt.width_eq {t : Term} {line : String} {span : Span} (h : t.StandsAt line span) :
    span.width = t.text.length := by
  obtain ⟨left, right, -, rfl⟩ := h
  rw [Span.width, columnsFrom, Nat.add_sub_cancel_left]

/-- What stands between the columns of a term is its text. -/
theorem StandsAt.slice_eq {t : Term} {line : String} {span : Span} (h : t.StandsAt line span) :
    Text.slice line span = t.text := by
  have hwidth : span.width = t.text.toList.length := h.width_eq.trans String.length_toList.symm
  obtain ⟨left, right, rfl, rfl⟩ := h
  have hstart : (t.columnsFrom left.length).start = left.toList.length :=
    String.length_toList.symm
  rw [Text.slice, hwidth, hstart, String.toList_append, String.toList_append, List.drop_left,
    List.take_left, String.ofList_toList]

/-- The columns of a legible term are some, and they are on the line. -/
theorem StandsAt.bounds {t : Term} {line : String} {span : Span} (h : t.StandsAt line span)
    (hlegible : t.Legible) : span.start < span.stop ∧ span.stop ≤ line.length := by
  obtain ⟨left, right, rfl, rfl⟩ := h
  have hpositive := hlegible.text_length_pos
  simp only [columnsFrom, String.length_append]
  omega

/-- Among the sub-terms of some terms, a label stands for one term. -/
def Coherent (terms : List Term) : Prop :=
  ∀ t ∈ terms, ∀ t' ∈ terms, ∀ u u' : Term, u.Within t → u'.Within t' → u.label = u'.label → u = u'

end Term

/-! ### One term more -/

namespace Layout

/-- The line after a term was written on it, whether or not this got done. -/
def write (layout : Layout) (t : Term) : Layout :=
  match (Part.term t).write.run layout with
  | .ok _ after => after
  | .error _ after => after

/-- The line after terms were written on it one after another. -/
def writeAll (layout : Layout) (terms : List Term) : Layout := terms.foldl write layout

theorem writeAll_concat (layout : Layout) (terms : List Term) (t : Term) :
    layout.writeAll (terms ++ [t]) = (layout.writeAll terms).write t := by
  rw [writeAll, List.foldl_append]
  rfl

/-- A term is written if it is legible, and the whole line is given if all of
its pieces are texts. -/
theorem write_ensures {layout : Layout} (h : layout.Measured) (t : Term) :
    Ensures (Part.term t).write layout
      (fun whole after => layout.Leads (·.Within t) after ∧ t.Legible ∧
        after.text = layout.text ++ t.text ∧ whole = after.text ∧ after.Covers t)
      (fun _ after => layout.Leads (·.Within t) after) := by
  refine (t.place_lays layout h).bind (fun _ _ hstop => hstop.2.1) ?_
  rintro _ placed ⟨hlegible, hleads, htext, hspans⟩
  apply (Completes.get placed).bind
  rintro now after ⟨rfl, rfl⟩
  refine (Ensures.ofExcept after.line after).mono ?_ ?_
  · rintro whole last ⟨hline, rfl⟩
    refine ⟨hleads, hlegible, htext, ?_, .of_columns hlegible.inLanguage hspans⟩
    unfold line at hline
    split at hline
    · exact (Except.ok.inj hline).symm
    · cases hline
  · rintro stop last ⟨-, rfl⟩
    exact hleads

theorem write_leads {layout : Layout} (h : layout.Measured) (t : Term) :
    layout.Leads (·.Within t) (layout.write t) := by
  have hwrite := write_ensures h t
  unfold write
  split
  · rename_i whole after hrun
    exact (hwrite.of_ok hrun).1
  · rename_i stop after hrun
    exact hwrite.of_error hrun

/-! ### Any number of terms -/

theorem writeAll_leads {layout : Layout} (h : layout.Measured) (terms : List Term) :
    layout.Leads (fun u => ∃ t ∈ terms, u.Within t) (layout.writeAll terms) := by
  induction terms generalizing layout with
  | nil => exact .refl h
  | cons t rest ih =>
    have hfirst := write_leads h t
    have hrest := ih hfirst.measured
    refine (hfirst.mono ?_).trans (hrest.mono ?_)
    · exact fun u hu => ⟨t, List.mem_cons_self, hu⟩
    · rintro u ⟨later, hlater, hu⟩
      exact ⟨later, List.mem_cons_of_mem t hlater, hu⟩

/-- **A line stays in order, whatever is written on it.** Write any terms on one
line, some of which may stop half-way. Then the width is the length of the text.
Whatever is written later, the text stays at the beginning of the line and every
span stays as it is. A term that is written to its end adds the text that it has
alone, and every one of its objects has a span. Each span covers some
characters of the text, and these are the text that an object with its label
has alone; if a label stands for one object, they are the text of that object. -/
theorem writeAll_in_order (terms : List Term) :
    let line := empty.writeAll terms
    line.width = line.text.length ∧
    (∀ more, (∃ s, (line.writeAll more).text = line.text ++ s) ∧
      line.Keeps (line.writeAll more)) ∧
    (∀ t whole after, (Part.term t).write.run line = .ok whole after →
      ∃ s, t.render = .ok s ∧ whole = line.text ++ s ∧
        (empty.writeAll (terms ++ [t])).text = whole ∧
        (empty.writeAll (terms ++ [t])).Covers t) ∧
    (∀ label span, line.span? label = some span →
      span.start < span.stop ∧ span.stop ≤ line.text.length ∧
        ∃ t ∈ terms, ∃ u : Term, u.Within t ∧ u.label = label ∧
          u.render = .ok (Text.slice line.text span)) ∧
    (Term.Coherent terms → ∀ t ∈ terms, ∀ (u : Term) span, u.Within t →
      line.span? u.label = some span → u.render = .ok (Text.slice line.text span)) := by
  intro line
  have hempty : empty.Measured := rfl
  have hleads : empty.Leads (fun u => ∃ t ∈ terms, u.Within t) line := writeAll_leads hempty terms
  have hspans : ∀ label span, line.span? label = some span →
      span.start < span.stop ∧ span.stop ≤ line.text.length ∧
        ∃ t ∈ terms, ∃ u : Term, u.Within t ∧ u.label = label ∧
          u.render = .ok (Text.slice line.text span) := by
    intro label span hspan
    -- Nothing was noted on the empty line, so a term that was written stands there.
    rcases hleads.noted label span hspan with hnone | ⟨u, ⟨t, ht, hu⟩, hlabel, hlegible, hstands⟩
    · cases hnone
    · obtain ⟨hlt, hle⟩ := hstands.bounds hlegible
      refine ⟨hlt, hle, t, ht, u, hu, hlabel, ?_⟩
      rw [hstands.slice_eq]
      exact Term.render_eq_ok_iff.mpr ⟨hlegible, rfl⟩
  refine ⟨hleads.measured, ?_, ?_, hspans, ?_⟩
  · intro more
    have hmore := writeAll_leads hleads.measured more
    exact ⟨hmore.text, hmore.keeps⟩
  · intro t whole after hrun
    obtain ⟨-, hlegible, htext, rfl, hcovers⟩ := (write_ensures hleads.measured t).of_ok hrun
    have hafter : empty.writeAll (terms ++ [t]) = after := by
      rw [writeAll_concat, write, hrun]
    rw [hafter]
    exact ⟨t.text, Term.render_eq_ok_iff.mpr ⟨hlegible, rfl⟩, htext, rfl, hcovers⟩
  · intro hcoherent t ht u span hu hspan
    obtain ⟨-, -, t', ht', u', hu', hlabel, hrender⟩ := hspans u.label span hspan
    rw [hcoherent t ht t' ht' u u' hu hu' hlabel.symm]
    exact hrender

/-- An identifier applied to itself, then a pair of the same identifier and a
term without a layout, where writing stops. The identifier keeps its first
span, the pair never gets one, and the text of the next term goes to the end. -/
theorem writeAll_in_order_half_way :
    let x : Name := ⟨"x", by decide⟩
    let line := empty.writeAll
      [.app 1 (.ident 0 x) (.ident 0 x), .pair 3 (.ident 0 x) (.bare 2)]
    line.text = "x (x)(x, " ∧ line.span? 3 = none ∧ line.span? 0 = some ⟨0, 1⟩ ∧
      (Term.ident 0 x).render = .ok (Text.slice line.text ⟨0, 1⟩) ∧
      ∃ s, (Term.number 4 7).render = .ok s ∧ "x (x)(x, 7" = line.text ++ s := by
  intro x line
  let app : Term := .app 1 (.ident 0 x) (.ident 0 x)
  let pair : Term := .pair 3 (.ident 0 x) (.bare 2)
  -- Four objects are written, and no two of them have one label.
  have hobjects : ∀ t ∈ [app, pair], ∀ u : Term, u.Within t →
      u ∈ [app, pair, .ident 0 x, .bare 2] := by
    intro t ht u hu
    have ht : t ∈ [app, pair, .ident 0 x, .bare 2] := List.mem_append_left _ ht
    refine hu.induction ?_ ht
    intro parent child hchild hparent
    simp only [List.mem_cons, List.not_mem_nil, or_false] at hparent
    rcases hparent with rfl | rfl | rfl | rfl <;>
      simp_all [Term.children, app, pair]
  have hcoherent : Term.Coherent [app, pair] := by
    intro t ht t' ht' u u' hu hu' hlabel
    have hmem := hobjects t ht u hu
    have hmem' := hobjects t' ht' u' hu'
    simp only [List.mem_cons, List.not_mem_nil, or_false] at hmem hmem'
    rcases hmem with rfl | rfl | rfl | rfl <;> rcases hmem' with rfl | rfl | rfl | rfl <;>
      first
      | rfl
      | cases hlabel
  obtain ⟨-, -, happends, -, hspans⟩ := writeAll_in_order [app, pair]
  have hspan : line.span? 0 = some ⟨0, 1⟩ := by decide
  have hident := hspans hcoherent app List.mem_cons_self (.ident 0 x) ⟨0, 1⟩ ⟨[0], rfl⟩ hspan
  obtain ⟨s, hs, hwhole, -⟩ := happends (.number 4 7) "x (x)(x, 7" _ rfl
  exact ⟨by decide, by decide, hspan, hident, s, hs, hwhole⟩

end Layout

end PCFTyping
