import PCFTyping.Proofs.Lines
import PCFTyping.Proofs.Occurrences
import PCFTyping.Proofs.Telling

/-!
What an underline is drawn below.

A node is underlined on the line of a whole term, between the columns noted for
its label. A label is noted for the sub-terms of the whole and for nothing else,
and where it is noted some sub-term with this label stands
(`Term.stands_of_span?`). If labels are the identities of objects
(`Term.Coherent`), this sub-term is the node itself.

Columns that a term stands between are some, and they end before the line does.
So the row of marks below them is neither widened to a single mark nor cut short
at the end of the line (`Text.markCount_eq_width`), and there is one mark for
each character of the node. `Mark.of_underlines_node` puts this together.
-/

namespace PCFTyping

open Text (Span)

/-! ### Rows below a line -/

namespace Text

/-- Columns that are some and on the line get one mark each. -/
theorem markCount_eq_width {length : Nat} {span : Span} (hsome : span.start < span.stop)
    (hline : span.stop ≤ length) : markCount length span.start span.width = span.width := by
  unfold markCount Span.width
  omega

/-- Below a tab there is a tab, and a space below anything else. -/
theorem getElem?_map_blankBelow {row : List Char} {i : Nat} (h : i < row.length) :
    (row.map blankBelow)[i]? = some (if row[i]? = some '\t' then '\t' else ' ') := by
  simp [List.getElem?_eq_getElem h, blankBelow]

end Text

namespace Term

/-! ### Spans of objects -/

/-- A span on the line of a term is where a sub-term with its label stands. -/
theorem stands_of_span? {t : Term} {layout : Layout} {label : Label} {span : Span}
    (hlayout : (Part.term t).layout = .ok layout) (hspan : layout.span? label = some span) :
    ∃ u : Term, u.Within t ∧ u.label = label ∧ u.Legible ∧ u.StandsAt layout.text span := by
  have hplace := t.place_lays .empty rfl
  simp only [Part.layout, Part.place] at hlayout
  split at hlayout
  · rename_i result after hrun
    cases hlayout
    obtain ⟨-, hleads, -⟩ := hplace.of_ok hrun
    rcases hleads.noted label span hspan with hnone | hstands
    · cases hnone
    · exact hstands
  · cases hlayout

/-- A label stands for one term exactly if it does so among the listed
sub-terms. -/
theorem coherent_iff {terms : List Term} :
    Coherent terms ↔ ∀ u ∈ terms.flatMap objects, ∀ u' ∈ terms.flatMap objects,
      u.label = u'.label → u = u' := by
  simp only [List.mem_flatMap, mem_objects_iff]
  constructor
  · rintro h u ⟨t, ht, hu⟩ u' ⟨t', ht', hu'⟩ hlabel
    exact h t ht t' ht' u u' hu hu' hlabel
  · intro h t ht t' ht' u u' hu hu' hlabel
    exact h u ⟨t, ht, hu⟩ u' ⟨t', ht', hu'⟩ hlabel

end Term

/-! ### Marks -/

namespace Mark

variable {root node : Term} {caption : String} {mark : Mark}

/-- A mark is where a sub-term with the label of the node stands. -/
theorem stands (h : Mark.of (.term root) (.term node) caption = .ok mark) :
    ∃ u : Term, u.Within root ∧ u.label = node.label ∧ u.Legible ∧
      u.StandsAt mark.text mark.span := by
  obtain ⟨layout, hlayout, htext, -, hspan⟩ := of_term_eq_ok h
  rw [htext]
  exact Term.stands_of_span? hlayout hspan

/-- If labels are identities, a mark is where the node itself stands. -/
theorem stands_node (hobjects : Term.Coherent [root, node])
    (h : Mark.of (.term root) (.term node) caption = .ok mark) :
    node.Within root ∧ node.Legible ∧ node.StandsAt mark.text mark.span := by
  obtain ⟨u, hwithin, hlabel, hlegible, hstands⟩ := stands h
  obtain rfl : u = node :=
    hobjects root (by simp) node (by simp) u node hwithin (.refl node) hlabel
  exact ⟨hwithin, hlegible, hstands⟩

/-- A node without a span is not on the line. -/
theorem of_eq_notPlaced (hroot : root.Legible)
    (h : ∀ mark, Mark.of (.term root) (.term node) caption ≠ .ok mark) :
    Mark.of (.term root) (.term node) caption = .error .notPlaced := by
  obtain ⟨layout, hlayout, -⟩ := hroot.layout_ok
  cases hspan : layout.span? node.label with
  | some span =>
    refine (h ⟨layout.text, span, caption⟩ ?_).elim
    simp only [Mark.of, hlayout, Part.label?, Option.bind_some, hspan, bind, Except.bind]
    rfl
  | none =>
    simp only [Mark.of, hlayout, Part.label?, Option.bind_some, hspan, bind, Except.bind]
    rfl

/-- What stands in front of the marks, below the margin and the start of the line. -/
def blanks (mark : Mark) : List Char :=
  ((margin ++ mark.text).toList.take (3 + mark.span.start)).map Text.blankBelow

theorem illustrate_eq (mark : Mark) :
    mark.illustrate = margin ++ Text.trimEnd mark.text ++ "\n" ++
      String.ofList (mark.blanks ++
        List.replicate (Text.markCount mark.text.length mark.span.start mark.span.width) '^') ++
      " " ++ mark.caption := by
  have hmargin : margin.toList.length = 3 := rfl
  rw [blanks, String.toList_append, ← hmargin, List.take_length_add_append]
  rfl

theorem length_blanks (h : mark.span.start ≤ mark.text.length) :
    mark.blanks.length = 3 + mark.span.start := by
  have hmargin : margin.length = 3 := rfl
  rw [blanks, List.length_map, List.length_take, String.length_toList, String.length_append,
    hmargin]
  omega

theorem getElem?_blanks {i : Nat} (h : i < mark.blanks.length) :
    mark.blanks[i]? =
      some (if (margin ++ mark.text).toList[i]? = some '\t' then '\t' else ' ') := by
  rw [blanks, List.length_map] at h
  have hi : i < 3 + mark.span.start := Nat.lt_of_lt_of_le h (List.length_take_le _ _)
  rw [blanks, Text.getElem?_map_blankBelow h, List.getElem?_take_of_lt hi]

/-- **An underline is below the node and nothing else.** Take a term of the
language whose declared types are renderable, and any node. The node cannot be
underlined exactly if it is not the term itself or one of its sub-terms.
Otherwise the quoted line is the text of the whole and the underlined slice is
the text of the node. There is a mark for each of its characters, at least one,
and neither bound on the number of marks changes it. In front of them are as
many blanks as the margin and the columns before the slice have, a tab where the
line has a tab and a space anywhere else. -/
theorem of_underlines_node (hroot : root.InLanguage)
    (htypes : ∀ type ∈ root.declared, type.Renderable)
    (hobjects : Term.Coherent [root, node]) (caption : String) :
    (Mark.of (.term root) (.term node) caption = .error .notPlaced ↔ ¬ node.Within root) ∧
    (node.Within root → ∃ (mark : Mark) (shown : String) (blanks : List Char),
      Mark.of (.term root) (.term node) caption = .ok mark ∧
      root.render = .ok mark.text ∧
      node.render = .ok shown ∧ Text.slice mark.text mark.span = shown ∧
      mark.illustrate = margin ++ Text.trimEnd mark.text ++ "\n" ++
        String.ofList (blanks ++ List.replicate shown.length '^') ++ " " ++ caption ∧
      0 < shown.length ∧
      Text.markCount mark.text.length mark.span.start mark.span.width = mark.span.width ∧
      blanks.length = 3 + mark.span.start ∧
      ∀ i < blanks.length, blanks[i]? =
        some (if (margin ++ mark.text).toList[i]? = some '\t' then '\t' else ' ')) := by
  have hlegible : root.Legible := Term.Writable.legible ⟨hroot, htypes⟩
  constructor
  · constructor
    · intro herror hwithin
      obtain ⟨mark, hmark⟩ := hlegible.mark_ok hwithin caption
      cases herror.symm.trans hmark
    · intro hnot
      refine of_eq_notPlaced hlegible ?_
      intro mark hmark
      exact hnot (stands_node hobjects hmark).1
  · intro hwithin
    obtain ⟨mark, hmark⟩ := hlegible.mark_ok hwithin caption
    obtain ⟨-, hnode, hstands⟩ := stands_node hobjects hmark
    obtain ⟨layout, hlayout, htext, hcaption, -⟩ := of_term_eq_ok hmark
    obtain ⟨hsome, hline⟩ := hstands.bounds hnode
    have hcount := Text.markCount_eq_width hsome hline
    refine ⟨mark, node.text, mark.blanks, hmark, ?_, Term.render_eq_ok_iff.mpr ⟨hnode, rfl⟩,
      hstands.slice_eq, ?_, hnode.text_length_pos, hcount, ?_, fun i => getElem?_blanks⟩
    · rw [htext, Term.render, hlayout]
      rfl
    · rw [illustrate_eq, hcount, hstands.width_eq, hcaption]
    · exact length_blanks (by omega)

/-- An argument is underlined behind a name with a tab in it. Another identifier
of the same name is no node of the term. -/
theorem of_underlines_node_behind_tab :
    let f : Name := ⟨"a\tb", by decide⟩
    let y : Name := ⟨"yy", by decide⟩
    let root : Term := .app 2 (.ident 0 f) (.ident 1 y)
    (∃ mark, Mark.of (.term root) (.term (.ident 1 y)) "here" = .ok mark ∧
      Text.slice mark.text mark.span = "yy" ∧
      mark.illustrate = "  |a\tb (yy)\n    \t   ^^ here") ∧
    Mark.of (.term root) (.term (.ident 3 y)) "here" = .error .notPlaced := by
  intro f y root
  have hroot : root.InLanguage := by simp [root, Term.InLanguage]
  have htypes : ∀ type ∈ root.declared, type.Renderable := by simp [root, Term.declared]
  have hcoherent : ∀ label ∈ [1, 3], Term.Coherent [root, .ident label y] := by
    simp [Term.coherent_iff, root, Term.objects, Term.occurrences, Term.underChild, Term.label]
  obtain ⟨-, hmarked⟩ := of_underlines_node hroot htypes (hcoherent 1 (by simp)) "here"
  obtain ⟨hnot, -⟩ := of_underlines_node hroot htypes (hcoherent 3 (by simp)) "here"
  constructor
  · obtain ⟨mark, shown, blanks, hmark, -, hshown, hslice, -⟩ := hmarked ⟨[1], rfl⟩
    obtain rfl : shown = "yy" := by cases hshown; rfl
    refine ⟨mark, hmark, hslice, ?_⟩
    cases hmark
    decide
  · refine hnot.mpr ?_
    rw [← Term.mem_objects_iff]
    simp [root, Term.objects, Term.occurrences, Term.underChild]

end Mark

end PCFTyping
