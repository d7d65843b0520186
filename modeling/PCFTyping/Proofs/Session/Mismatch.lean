import PCFTyping.Proofs.Session.Pictures
import PCFTyping.Proofs.Ty.Grouping

/-!
What is said about two types that disagree.

A check that finds a type other than the one needed names both, in the
explanation of the error and below the underlined term.

* The types are never equal (`Breaks.mismatch_ne`).
* Both texts show the written forms of the two types (`Fault.explain_mismatch`,
  `Fault.caption_of_mismatch`).

An arrow is written without parentheses, so different types may be written
alike. `Session.check_mismatch_alike` is such a case, and
`Session.check_mismatch_told` says that there are no others than those in which
arrows are grouped in different ways.
-/

namespace PCFTyping

/-! ### Disagreements -/

/-- Types that are found to disagree are not the same. -/
theorem Breaks.mismatch_ne {scope : Scope} {t : Term} {blame : Blame} {need got : Shape}
    (h : Breaks scope t blame) (hmismatch : blame.mismatch = some (need, got)) : need ≠ got := by
  cases h with
  | argument _ _ hne | recursion _ hne | condition _ _ _ hne | binding _ hne =>
    cases hmismatch
    exact hne
  | unbound | notAFunction | branches | notAPair => cases hmismatch

theorem Stable.standard : Stable fun _ type => type.Standard where
  mono := fun _ h => h
  named := by
    intro _ type _ h
    simp only [List.mem_cons, List.not_mem_nil, or_false] at h
    rcases h with rfl | rfl | rfl | rfl <;>
      simp [Ty.Standard, Shape.Standard, Ty.shape, Ty.integer, Ty.boolean, Ty.intToInt,
        Ty.intToBool, Scalar.key]
  arrow_parts := fun h => h
  pair_parts := fun h => h
  make_arrow := by
    intro numbering after domain range type hd hr hrun
    cases hrun
    exact ⟨hd, hr⟩
  make_pair := by
    intro numbering after first second type hf hs hrun
    cases hrun
    exact ⟨hf, hs⟩

namespace Fault

variable {fault : Fault} {demand : Demand} {expr : Term} {need got : Ty} {x y words : String}

/-- Only a type that is not the one needed comes with a disagreement. -/
theorem of_failure_mismatch {needed found : Part}
    (h : fault.failure.mismatch = .between needed found) :
    ∃ demand expr need got, fault = .mismatch demand expr need got ∧ needed = .type need ∧
      found = .type got := by
  cases fault with
  | mismatch demand expr need got =>
    cases h
    exact ⟨demand, expr, need, got, rfl, rfl, rfl⟩
  | unbound | notAFunction | branches | notAPair => cases h

theorem explain_mismatch (demand : Demand) (hexpr : expr.render = .ok words) (hneed : need.render = .ok x)
    (hgot : got.render = .ok y) :
    (mismatch demand expr need got).failure.explain =
      .ok (demand.kind.name ++ " at " ++ words ++ ": needed " ++ x ++ " but got " ++ y) := by
  simp [Failure.explain, failure, Part.shown, hexpr, hneed, hgot, bind, Except.bind, pure,
    Except.pure, String.append_assoc]

theorem caption_of_mismatch {setting : Setting} {t : Term} {picture : Picture}
    (hneed : need.render = .ok x) (hgot : got.render = .ok y)
    (h : (mismatch demand expr need got).complaint.picture setting (.term t) = .ok picture) :
    ∃ mark, picture.marks = [mark] ∧
      mark.caption = "This " ++ y ++ " needs to be a(n) " ++ x ++ "." := by
  simp only [complaint, Complaint.picture, bind_eq_ok_iff] at h
  obtain ⟨found, hfound, needed, hneeded, mark, hof, _, -, ⟨⟩⟩ := h
  cases hgot.symm.trans hfound
  cases hneed.symm.trans hneeded
  obtain ⟨_, -, -, hcaption, -⟩ := Mark.of_term_eq_ok hof
  exact ⟨mark, rfl, hcaption⟩

end Fault

/-! ### What a check says -/

namespace Session

variable {session after : Session} {t : Term} {number : Nat} {failure : Failure}
  {needed found : Part}

/-- **A disagreement is told with two different texts, unless the types differ in
the grouping of arrows only.** Take a term of the language whose declared types
are made of the primitive types, arrows and pairs, and check it in the empty
scope. If the result is an error that says which types disagree, these are types
and they are not equal. The explanation names both and the guilty term, and the
picture that is filed has one underlined place, whose caption names both. The two
written forms are the same exactly if the types come to the same when all arrows
are grouped to the right. -/
theorem check_mismatch_told (hterm : t.InLanguage)
    (hnamed : Numbering.initial.Extends session.workshop.numbering)
    (hdeclared : ∀ type ∈ t.declared, session.workshop.numbering.Knows type ∧ type.Standard ∧
      type.ErrorFree)
    (hrun : (check (.term t) (.scope .empty)).run session = .ok (.error number failure) after)
    (hmismatch : failure.mismatch = .between needed found) :
    ∃ (need got : Ty) (guilty : Term) (x y words : String) (picture : Picture) (mark : Mark),
      needed = .type need ∧ found = .type got ∧ failure.guilty = .term guilty ∧
      need.sameClass got = false ∧
      need.render = .ok x ∧ got.render = .ok y ∧ guilty.render = .ok words ∧
      (Ty.error number failure).verdict = .ok (.text
        (failure.kind.name ++ " at " ++ words ++ ": needed " ++ x ++ " but got " ++ y)) ∧
      after.report = session.report.add (.picture picture) ∧ picture.marks = [mark] ∧
      mark.caption = "This " ++ y ++ " needs to be a(n) " ++ x ++ "." ∧
      (x = y ↔ need.shape.rightward = got.shape.rightward) := by
  have hgiven : GivenTypes (fun type => session.workshop.numbering.Knows type ∧ type.Standard ∧
      type.ErrorFree) t .empty := ⟨hdeclared, Scope.all_empty _⟩
  have hwritable : t.Writable :=
    ⟨hterm, fun type htype => (hdeclared type htype).2.1.renderable⟩
  obtain ⟨inForce, fault, picture, numbering, hjudged, rfl, hpicture, hreport⟩ :=
    check_error_of_fault hwritable hnamed
      (hgiven.mono fun _ h => ⟨h.2.1.renderable, h.2.2⟩) hrun
  obtain ⟨demand, expr, need, got, rfl, rfl, rfl⟩ := Fault.of_failure_mismatch hmismatch
  -- The two types are known to the table after the check and are not the same.
  have hkeeps := t.judge_keeps (Stable.knows.and (Stable.standard.and .errorFree)) .empty _
    ⟨hnamed, .refl _, hgiven⟩
  obtain ⟨-, -, hfault⟩ := hkeeps.of_error hjudged
  obtain ⟨hneedKnown, hneed, -⟩ := hfault.types need (by simp [Fault.types])
  obtain ⟨hgotKnown, hgot, -⟩ := hfault.types got (by simp [Fault.types])
  obtain ⟨path, last, v, -, hbreak⟩ :=
    (t.judge_sound .empty _ ⟨hnamed, .refl _, hgiven.mono fun _ h => h.1⟩).of_error hjudged
  have hdiffer : need.sameClass got = false := by
    rw [Bool.eq_false_iff, ne_eq, hneedKnown.sameClass_iff hgotKnown]
    exact hbreak.mismatch_ne rfl
  -- The texts are those of the two types and of the guilty term.
  have hx := hneed.renderable.render_eq
  have hy := hgot.renderable.render_eq
  obtain ⟨words, hwords⟩ := (hwritable.within (hfault.terms expr (by simp [Fault.terms]))).render_ok
  obtain ⟨mark, hmarks, hcaption⟩ := Fault.caption_of_mismatch hx hy hpicture
  refine ⟨need, got, expr, _, _, words, picture, mark, rfl, rfl, rfl, hdiffer, hx, hy, hwords, ?_,
    hreport, hmarks, hcaption, hneed.render_eq_iff hgot hx hy⟩
  rw [Ty.verdict, Fault.explain_mismatch demand hwords hx hy]
  rfl

/-- A name is declared as a number and bound to a truth value. The two types
have different texts. -/
theorem check_mismatch_told_binding :
    let y : Name := ⟨"y", by decide⟩
    let t : Term := .letIn 2 y .integer (.truth 0 true) (.ident 1 y)
    ∃ number failure after needed found,
      (check (.term t) (.scope .empty)).run (start .quiet []) =
        .ok (.error number failure) after ∧
      failure.mismatch = .between (.type .integer) (.type .boolean) ∧
      Ty.integer.render = .ok needed ∧ Ty.boolean.render = .ok found ∧ needed ≠ found := by
  intro y t
  obtain ⟨number, after, hrun⟩ : ∃ number after,
      (check (.term t) (.scope .empty)).run (start .quiet []) =
        .ok (.error number ⟨.letTypeMismatch, .term (.truth 0 true),
          .between (.type .integer) (.type .boolean)⟩) after :=
    ⟨_, _, rfl⟩
  have hnamed : Numbering.initial.Extends (start .quiet []).workshop.numbering := .refl _
  have hdeclared : ∀ type ∈ t.declared, (start .quiet []).workshop.numbering.Knows type ∧
      type.Standard ∧ type.ErrorFree := by
    intro type htype
    obtain rfl : type = .integer := by simpa [t, Term.declared] using htype
    exact (Stable.knows.and (Stable.standard.and .errorFree)).named hnamed (by simp)
  obtain ⟨_, _, _, needed, found, _, _, _, ⟨⟩, ⟨⟩, ⟨⟩, -, hneeded, hfound, -, -, -, -, -, halike⟩ :=
    check_mismatch_told (by simp [t, Term.InLanguage]) hnamed hdeclared hrun rfl
  refine ⟨number, _, after, needed, found, hrun, rfl, hneeded, hfound, ?_⟩
  rw [ne_eq, halike]
  decide

/-- A recursive definition is declared as a function of functions, and its body
is a function that gives a function. The types are not equal, but their texts
are the same in the verdict and in the caption. -/
theorem check_mismatch_alike :
    ∃ number failure need got after picture mark,
      (do
        let declared ← build (Workshop.arrow (.type .intToInt) (.type .integer))
        let successor ← build (Workshop.builtin .successor)
        let body ← build (Workshop.fn (.text "a") (.type .integer) (.term successor))
        let t ← build (Workshop.recur (.text "x") (.type declared) (.term body))
        check (.term t) (.scope .empty)).run (start .quiet []) =
          .ok (.error number failure) after ∧
      failure.mismatch = .between (.type need) (.type got) ∧ need.sameClass got = false ∧
      need.render = got.render ∧
      (Ty.error number failure).verdict = .ok (.text ("RecursionTypeMismatch at " ++
        "fn a:Integer => Succ: needed Integer -> Integer -> Integer but got " ++
        "Integer -> Integer -> Integer")) ∧
      after.report.issues = [.picture picture] ∧ picture.marks = [mark] ∧
      mark.caption =
        "This Integer -> Integer -> Integer needs to be a(n) Integer -> Integer -> Integer." := by
  exact ⟨_, _, _, _, _, _, _, rfl, rfl, rfl, rfl, rfl, rfl, rfl, rfl⟩

end Session

end PCFTyping
