import PCFTyping.Proofs.Session.Visibility

/-!
A let and the call of a function.

The let of a term `e` for a name `x` in a body `b`, and the call of the function
of `x` with body `b` and argument `e`, come down to the same two judgements. The
let judges `e` first and in the empty scope, the call judges `e` last and in the
scope of the whole; the body is judged with `x` bound in both
(`Term.judged_letIn_iff`, `Term.judged_call_iff`). What `e` finds in the empty
scope it finds in any scope, and in any table (`Term.Judged.elsewhere`). The way
back is open if `e` asks the scope for no name.

`Session.check_let_as_call` says the same of checks.
-/

namespace PCFTyping

/-! ### The two judgements behind both forms -/

namespace Judging

variable {now after : Numbering}

theorem settle_eq_ok_iff {type result : Ty} :
    (settle type).run now = .ok result after ↔
      type.isError = false ∧ result = type ∧ after = now := by
  constructor
  · intro hrun
    obtain ⟨rfl, rfl, hnoError⟩ := (settle_ensures type).of_ok hrun
    exact ⟨hnoError, rfl, rfl⟩
  · rintro ⟨hnoError, rfl, rfl⟩
    cases result with
    | error => cases hnoError
    | _ => rfl

theorem expectArrow_eq_ok_iff {scope : Scope} {callee : Term} {type : Ty} {parts : Ty × Ty} :
    (expectArrow scope callee type).run now = .ok parts after ↔
      (∃ number, type = .arrow number parts.1 parts.2) ∧ after = now := by
  constructor
  · intro hrun
    obtain ⟨rfl, harrow⟩ := (expectArrow_ensures scope callee type).of_ok hrun
    exact ⟨harrow, rfl⟩
  · rintro ⟨⟨number, rfl⟩, rfl⟩
    rfl

theorem expectSame_eq_ok_iff {scope : Scope} {demand : Demand} {expr : Term} {need got : Ty}
    {done : Unit} :
    (expectSame scope demand expr need got).run now = .ok done after ↔
      need.sameClass got = true ∧ after = now := by
  constructor
  · intro hrun
    obtain ⟨rfl, hsame⟩ := (expectSame_ensures scope demand expr need got).of_ok hrun
    exact ⟨hsame, rfl⟩
  · rintro ⟨hsame, rfl⟩
    rw [expectSame, if_pos hsame]
    rfl

end Judging

namespace Term

variable {scope : Scope} {label inner : Label} {name : Name} {declared type : Ty}
  {binding body : Term} {start after : Numbering}

open Judging in
/-- A let judges the bound term, then the body. -/
theorem judged_letIn_iff :
    (letIn label name declared binding body).Judged scope start (.ok type) after ↔
      ∃ got now, binding.Judged .empty start (.ok got) now ∧ declared.sameClass got = true ∧
        body.Judged (scope.extend name.text declared) now (.ok type) after := by
  simp only [Judged, judge, run_bind_eq_ok_iff, expectSame_eq_ok_iff]
  constructor
  · rintro ⟨got, now, hbinding, _, _, ⟨hsame, rfl⟩, hbody⟩
    exact ⟨got, _, hbinding, hsame, hbody⟩
  · rintro ⟨got, now, hbinding, hsame, hbody⟩
    exact ⟨got, now, hbinding, (), now, ⟨hsame, rfl⟩, hbody⟩

open Judging in
/-- A function judges its body and makes its own type. -/
theorem judged_fn_iff :
    (fn label name declared body).Judged scope start (.ok type) after ↔
      ∃ range now, body.Judged (scope.extend name.text declared) start (.ok range) now ∧
        (Numbering.mkArrow declared range).run now = (type, after) := by
  simp only [Judged, judge, run_bind_eq_ok_iff]
  refine exists_congr fun range => exists_congr fun now => and_congr_right fun _ => ?_
  constructor
  · rintro ⟨⟩
    rfl
  · rintro ⟨⟩
    rfl

open Judging in
/-- An application judges the callee, then the argument. -/
theorem judged_app_iff {callee argument : Term} :
    (app label callee argument).Judged scope start (.ok type) after ↔
      ∃ number domain now got, callee.Judged scope start (.ok (.arrow number domain type)) now ∧
        argument.Judged scope now (.ok got) after ∧ domain.sameClass got = true ∧
        type.isError = false := by
  simp only [Judged, judge, run_bind_eq_ok_iff, expectArrow_eq_ok_iff, expectSame_eq_ok_iff,
    settle_eq_ok_iff]
  constructor
  · rintro ⟨_, _, hcallee, ⟨domain, range⟩, now, ⟨⟨number, rfl⟩, rfl⟩, got, _, hargument, _, _,
      ⟨hsame, rfl⟩, hnoError, rfl, rfl⟩
    exact ⟨number, domain, now, got, hcallee, hargument, hsame, hnoError⟩
  · rintro ⟨number, domain, now, got, hcallee, hargument, hsame, hnoError⟩
    exact ⟨_, now, hcallee, (domain, type), now, ⟨⟨number, rfl⟩, rfl⟩, got, after, hargument, (),
      after, ⟨hsame, rfl⟩, hnoError, rfl, rfl⟩

/-- The call of a function judges the body, makes the type of the function and
judges the argument. -/
theorem judged_call_iff :
    (app label (fn inner name declared body) binding).Judged scope start (.ok type) after ↔
      ∃ now got, body.Judged (scope.extend name.text declared) start (.ok type) now ∧
        binding.Judged scope (now.insert (.arrow declared.number type.number)) (.ok got) after ∧
        declared.sameClass got = true ∧ type.isError = false := by
  simp only [judged_app_iff, judged_fn_iff]
  constructor
  · rintro ⟨number, domain, _, got, ⟨range, now, hbody, hmade⟩, hargument, hsame, hnoError⟩
    cases hmade
    exact ⟨now, got, hbody, hargument, hsame, hnoError⟩
  · rintro ⟨now, got, hbody, hargument, hsame, hnoError⟩
    exact ⟨_, declared, _, got, ⟨type, now, hbody, rfl⟩, hargument, hsame, hnoError⟩

end Term

/-! ### One term in another scope and another table -/

/-- A premise that is judged once the table has grown. -/
theorem Underway.readies {scope s : Scope} {t u : Term} {start now : Numbering}
    (h : Underway Numbering.Knows scope t start start) (hgrow : start.Extends now)
    (hpremise : (s, u) ∈ t.premises scope) : Underway Numbering.Knows s u now now :=
  ⟨h.named.trans hgrow, .refl _, (h.given.mono fun _ hknown => hknown.mono hgrow).premise hpremise⟩

namespace Term.Judged

variable {t : Term} {scope scope' : Scope} {start start' after : Numbering} {type : Ty}

/-- A term that has a type in the empty scope asks for no name. -/
theorem visible_eq_nil (h : t.Judged .empty start (.ok type) after) : t.visible = [] := by
  have hbinds := (t.judge_binds .empty start).of_ok h
  refine List.eq_nil_iff_forall_not_mem.mpr fun name hname => ?_
  obtain ⟨found, hfound⟩ := hbinds name hname
  cases hfound

/-- A judgement that gives a type gives one of the same shape in every scope
that has the same for the visible names, whatever the table. -/
theorem elsewhere (h : t.Judged scope start (.ok type) after)
    (hready : Underway Numbering.Knows scope t start start)
    (hready' : Underway Numbering.Knows scope' t start' start')
    (hsame : ∀ name ∈ t.visible, scope.lookup name = scope'.lookup name) :
    ∃ type' after', t.Judged scope' start' (.ok type') after' ∧ start'.Extends after' ∧
      SameShape after after' type type' := by
  have hscopes : scope.Agrees (SameShape start start') t.visible scope' := by
    intro name hname
    have hfound := hready'.given.bound name
    rw [← hsame name hname] at hfound ⊢
    exact .refl _ fun type htype => ⟨hready.given.bound name type htype, hfound type htype, rfl⟩
  have hterms : t.Alike (SameShape start start') t := .refl fun type htype =>
    ⟨hready.given.declared type htype, hready'.given.declared type htype, rfl⟩
  have hagrees := t.judge_agrees .sameShape t scope scope' start start'
    ⟨⟨.refl _, .refl _, hready.named, hready'.named⟩, hterms, hscopes⟩
  obtain ⟨type', after', hrun, hgrown, hshape⟩ := hagrees.of_ok h
  exact ⟨type', after', hrun, hgrown.right, hshape⟩

end Term.Judged

/-! ### From one form to the other -/

section Forms

variable {scope : Scope} {label inner outer : Label} {name : Name} {declared type : Ty}
  {binding body : Term} {start start' after : Numbering}

/-- The argument of the call is given no type that the let is not given. -/
theorem Underway.argument {now : Numbering}
    (h : Underway Numbering.Knows scope (.letIn label name declared binding body) start start)
    (hgrow : start.Extends now) : Underway Numbering.Knows scope binding now now := by
  have hgiven := h.given.mono fun _ hknown => hknown.mono hgrow
  refine ⟨h.named.trans hgrow, .refl _, fun type htype => ?_, hgiven.bound⟩
  exact hgiven.declared type (Term.declared_of_children (by simp [Term.children]) htype)

theorem Term.Judged.call_of_letIn
    (h : (letIn label name declared binding body).Judged scope start (.ok type) after)
    (hnoError : type.isError = false)
    (hready : Underway Numbering.Knows scope (.letIn label name declared binding body) start start)
    (hready' : Underway Numbering.Knows scope (.letIn label name declared binding body) start'
      start') :
    ∃ type' after', (app outer (fn inner name declared body) binding).Judged scope start'
        (.ok type') after' ∧ SameShape after after' type type' := by
  obtain ⟨got, now, hbinding, hsame, hbody⟩ := judged_letIn_iff.mp h
  have hstart := hready.readies (.refl _) (s := .empty) (u := binding) (by simp [premises])
  obtain ⟨hgrow, -⟩ := (binding.judge_keeps .knows .empty start hstart).of_ok hbinding
  -- The call judges the body first, so the body starts from the table that the call is given.
  obtain ⟨type', now', hbody', hgrow', htype⟩ := hbody.elsewhere
    (hready.readies hgrow (by simp [premises])) (hready'.readies (.refl _) (by simp [premises]))
    fun _ _ => rfl
  have hmade := hgrow'.trans (now'.extends_insert (.arrow declared.number type'.number))
  obtain ⟨got', after', hbinding', hgrow'', hgot⟩ := hbinding.elsewhere hstart
    (hready'.argument hmade) (by simp [hbinding.visible_eq_nil])
  have hknown := (hready.given.declared declared List.mem_cons_self).mono hgrow
  have hknown' := (hready'.given.declared declared List.mem_cons_self).mono (hmade.trans hgrow'')
  have hsame' := Congruent.sameShape.sameClass ⟨hknown, hknown', rfl⟩ hgot
  have htype := Congruent.sameShape.mono (.refl _)
    ((now'.extends_insert (.arrow declared.number type'.number)).trans hgrow'') htype
  refine ⟨type', after', judged_call_iff.mpr ⟨now', got', hbody', hbinding', ?_, ?_⟩, htype⟩
  · exact hsame'.symm.trans hsame
  · exact (Ty.isError_eq_of_shape_eq htype.2.2).symm.trans hnoError

theorem Term.Judged.letIn_of_call
    (h : (app outer (fn inner name declared body) binding).Judged scope start (.ok type) after)
    (hclosed : binding.visible = [])
    (hready : Underway Numbering.Knows scope (.letIn label name declared binding body) start start)
    (hready' : Underway Numbering.Knows scope (.letIn label name declared binding body) start'
      start') :
    ∃ type' after', (letIn label name declared binding body).Judged scope start' (.ok type')
        after' ∧ SameShape after after' type type' := by
  obtain ⟨now, got, hbody, hbinding, hsame, -⟩ := judged_call_iff.mp h
  have hstart := hready.readies (.refl _) (s := scope.extend name.text declared) (u := body)
    (by simp [premises])
  obtain ⟨hgrow, -⟩ := (body.judge_keeps .knows _ start hstart).of_ok hbody
  have hmake := now.extends_insert (.arrow declared.number type.number)
  have hcall := hready.argument (hgrow.trans hmake)
  obtain ⟨hgrow', -⟩ := (binding.judge_keeps .knows _ _ hcall).of_ok hbinding
  -- The let judges the bound term first, so that one starts from the table that the let is given.
  obtain ⟨got', now', hbinding', hgrow'', hgot⟩ := hbinding.elsewhere hcall
    (hready'.readies (.refl _) (s := .empty) (by simp [premises])) (by simp [hclosed])
  obtain ⟨type', after', hbody', hgrow''', htype⟩ := hbody.elsewhere hstart
    (hready'.readies hgrow'' (by simp [premises])) fun _ _ => rfl
  have hknown := (hready.given.declared declared List.mem_cons_self).mono
    ((hgrow.trans hmake).trans hgrow')
  have hknown' := (hready'.given.declared declared List.mem_cons_self).mono hgrow''
  have hsame' := Congruent.sameShape.sameClass ⟨hknown, hknown', rfl⟩ hgot
  refine ⟨type', after', judged_letIn_iff.mpr ⟨got', now', hbinding', ?_, hbody'⟩, ?_⟩
  · exact hsame'.symm.trans hsame
  · exact Congruent.sameShape.mono (hmake.trans hgrow') (.refl _) htype

end Forms

/-! ### Checks of the two forms -/

namespace Session

/-- Two checks give one type, which is no error. -/
structure SameType (type : Ty) (after : Session) (type' : Ty) (after' : Session) : Prop where
  noError : type'.isError = false
  oneType : OneType after.workshop.numbering after'.workshop.numbering type type'

/-- A type of the same shape comes out of a quiet check as the same type. -/
theorem check_gives_same_type {session after : Session} {t : Term} {scope : Scope}
    {type type' : Ty} {numbering : Numbering} (hquiet : session.report.verbose = false)
    (hnoError : type.isError = false)
    (hjudged : t.Judged scope session.workshop.numbering (.ok type') numbering)
    (hshape : SameShape after.workshop.numbering numbering type type') :
    ∃ after', (check (.term t) (.scope scope)).run session = .ok type' after' ∧
      SameType type after type' after' := by
  have hnoError' : type'.isError = false :=
    (Ty.isError_eq_of_shape_eq hshape.2.2).symm.trans hnoError
  obtain ⟨after', hrun, rfl⟩ := check_of_judged hquiet hjudged hnoError'
  exact ⟨after', hrun, hnoError', hshape.oneType⟩

/-- **A let is the call of a function.** If the quiet check of a let gives a
type other than an error, the check of the function of the same name, declared
type and body, called with the bound term, gives that type as well. The other
way round this holds if the bound term asks the scope for no name. The two
checks may be of different sessions, at any time. -/
theorem check_let_as_call {session session' : Session} {scope : Scope} {label : Label}
    (inner outer : Label) {name : Name} {declared : Ty} {binding body : Term}
    (hquiet : session.report.verbose = false) (hquiet' : session'.report.verbose = false)
    (hnamed : Numbering.initial.Extends session.workshop.numbering)
    (hnamed' : Numbering.initial.Extends session'.workshop.numbering)
    (hgiven : GivenTypes session.workshop.numbering.Knows
      (.letIn label name declared binding body) scope)
    (hgiven' : GivenTypes session'.workshop.numbering.Knows
      (.letIn label name declared binding body) scope) :
    (∀ type after, (check (.term (.letIn label name declared binding body)) (.scope scope)).run
        session = .ok type after → type.isError = false →
      ∃ type' after', (check (.term (.app outer (.fn inner name declared body) binding))
          (.scope scope)).run session' = .ok type' after' ∧ SameType type after type' after') ∧
    (binding.visible = [] → ∀ type after,
      (check (.term (.app outer (.fn inner name declared body) binding)) (.scope scope)).run
        session = .ok type after → type.isError = false →
      ∃ type' after', (check (.term (.letIn label name declared binding body))
          (.scope scope)).run session' = .ok type' after' ∧ SameType type after type' after') := by
  have hready : Underway Numbering.Knows scope (.letIn label name declared binding body) _ _ :=
    ⟨hnamed, .refl _, hgiven⟩
  have hready' : Underway Numbering.Knows scope (.letIn label name declared binding body) _ _ :=
    ⟨hnamed', .refl _, hgiven'⟩
  constructor
  · intro type after hrun hnoError
    have hjudged := judged_of_check hquiet hrun hnoError
    obtain ⟨type', numbering, hcall, hshape⟩ := hjudged.call_of_letIn hnoError hready hready'
    exact ⟨type', check_gives_same_type hquiet' hnoError hcall hshape⟩
  · intro hclosed type after hrun hnoError
    have hjudged := judged_of_check hquiet hrun hnoError
    obtain ⟨type', numbering, hlet, hshape⟩ := hjudged.letIn_of_call hclosed hready hready'
    exact ⟨type', check_gives_same_type hquiet' hnoError hlet hshape⟩

/-- The bound term names its own parameter `y`, which the scope has for
something else, and the bound name hides that of the scope. -/
theorem check_let_as_call_shadowing :
    let x : Name := ⟨"x", by decide⟩
    let y : Name := ⟨"y", by decide⟩
    let test : Term := .fn 3 y .integer (.app 2 (.builtin 0 .isZero) (.ident 1 y))
    let body : Term := .app 6 (.ident 4 x) (.number 5 3)
    let scope : Scope := ⟨.empty, [("y", .boolean), ("x", .boolean)]⟩
    ∃ after type' after',
      (check (.term (.letIn 7 x .intToBool test body)) (.scope scope)).run (start .quiet []) =
        .ok .boolean after ∧
      (check (.term (.app 9 (.fn 8 x .intToBool body) test)) (.scope scope)).run
        (start .quiet []) = .ok type' after' ∧
      SameType .boolean after type' after' ∧ SameType type' after' .boolean after := by
  intro x y test body scope
  have hnamed : Numbering.initial.Extends (start .quiet []).workshop.numbering := .refl _
  have hknown : ∀ type ∈ [Ty.integer, Ty.boolean, Ty.intToInt, Ty.intToBool],
      (start .quiet []).workshop.numbering.Knows type := fun type => Stable.knows.named hnamed
  have hgiven : GivenTypes (start .quiet []).workshop.numbering.Knows
      (.letIn 7 x .intToBool test body) scope := by
    refine ⟨?_, ((Scope.all_empty _).extend "x" (hknown _ (by simp))).extend "y"
      (hknown _ (by simp))⟩
    intro type htype
    have hdeclared : type = .intToBool ∨ type = .integer := by
      simpa [Term.declared, test, body] using htype
    exact hknown type (by rcases hdeclared with rfl | rfl <;> simp)
  obtain ⟨hcall, hlet⟩ := check_let_as_call 8 9 rfl rfl hnamed hnamed hgiven hgiven
  obtain ⟨type', after', hrun', hsame⟩ := hcall .boolean _ rfl rfl
  obtain ⟨type, after, hrun, hsame'⟩ := hlet rfl type' after' hrun' hsame.noError
  obtain ⟨rfl, rfl⟩ := EStateM.Result.ok.inj hrun
  exact ⟨_, type', after', hrun, hrun', hsame, hsame'⟩

end Session

end PCFTyping
