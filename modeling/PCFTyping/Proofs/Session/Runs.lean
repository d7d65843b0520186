import PCFTyping.Proofs.Session.Finding

/-!
Many checks with one report.

A run is a list of steps, each a check or a reset, and types may be made in
between. It goes on when a step stops. What a run makes of its report is told
by single checks, each alone with an unlimited report of its own
(`Session.news`): the report holds the news of all checks since the last reset
(`Session.Holds`). `Session.performAll_keeps_to_limit` adds when a check of a
run stops, and that any other gives the result that it gives alone.
-/

namespace PCFTyping

/-! ### Steps -/

/-- A step of a run. A check is made by the checker of the session, or aside by
another one that shares the report. Making a type adds its node to the table. -/
inductive Step where
  | check (aside : Bool) (t : Term) (scope : Scope)
  | make (node : NodeKey)
  | reset

namespace Step

/-- What is done at a step; a check has a result. -/
def act : Step → Act (Option Ty)
  | check false t scope => do return some (← Session.check (.term t) (.scope scope))
  | check true t scope => do return some (← Session.checkAside (.term t) (.scope scope))
  | make node => do
    modify fun session => session.withTable (session.workshop.numbering.insert node)
    return none
  | reset => do
    Session.reset
    return none

/-- The steps since the last reset, with one step more. -/
def keep (kept : List Step) : Step → List Step
  | check aside t scope => kept ++ [check aside t scope]
  | make node => kept ++ [make node]
  | reset => []

/-- If the step is a check, its term is checkable. -/
def Checkable (numbering : Numbering) : Step → Prop
  | check _ t scope => PCFTyping.Checkable numbering t scope
  | make _ | reset => True

theorem Checkable.mono {numbering later : Numbering} {step : Step}
    (h : step.Checkable numbering) (hgrow : numbering.Extends later) : step.Checkable later := by
  cases step with
  | check aside t scope => exact PCFTyping.Checkable.mono h hgrow
  | make | reset => trivial

end Step

/-- The steps since the last reset. -/
def sinceReset (steps : List Step) : List Step := steps.foldl Step.keep []

theorem foldl_keep_of_no_reset {kept steps : List Step} (h : Step.reset ∉ steps) :
    steps.foldl Step.keep kept = kept ++ steps := by
  induction steps generalizing kept with
  | nil => exact (List.append_nil kept).symm
  | cons step rest ih =>
    rw [List.mem_cons, not_or] at h
    obtain ⟨hstep, hrest⟩ := h
    cases step with
    | reset => exact (hstep rfl).elim
    | check | make =>
      rw [List.foldl_cons, ih hrest, Step.keep, List.append_assoc]
      rfl

namespace Session

/-- The session after a step, whether or not the step stopped. -/
def perform (session : Session) (step : Step) : Session :=
  match step.act.run session with
  | .ok _ after => after
  | .error _ after => after

/-- The session after a run. -/
def performAll (session : Session) (steps : List Step) : Session := steps.foldl perform session

/-- Every check of a run is of a term that is checkable when its turn comes. -/
def Ready (session : Session) : List Step → Prop
  | [] => True
  | step :: rest => step.Checkable session.workshop.numbering ∧ (session.perform step).Ready rest

/-- The session with a quiet and unlimited report of its own. -/
def alone (session : Session) : Session := { session with report := .quiet }

/-- What a step files when it is alone. -/
def news (session : Session) (step : Step) : List Issue :=
  (session.alone.perform step).report.issues

/-- The step stops. -/
def Stops (session : Session) (step : Step) : Prop :=
  ∃ stop after, step.act.run session = .error stop after

variable {session now fresh : Session} {step : Step} {t : Term} {scope : Scope}

theorem performAll_append (session : Session) (steps more : List Step) :
    session.performAll (steps ++ more) = (session.performAll steps).performAll more :=
  List.foldl_append

theorem ready_append {steps more : List Step} :
    session.Ready (steps ++ more) ↔
      session.Ready steps ∧ (session.performAll steps).Ready more := by
  induction steps generalizing session with
  | nil => exact ⟨fun h => ⟨trivial, h⟩, fun h => h.2⟩
  | cons step rest ih =>
    rw [List.cons_append, Ready, Ready, ih, and_assoc]
    rfl

theorem perform_of_ensures {P : Session → Prop}
    (h : Ensures step.act session (fun _ after => P after) (fun _ after => P after)) :
    P (session.perform step) := by
  unfold perform
  cases hrun : step.act.run session with
  | ok result after => exact h.of_ok hrun
  | error stop after => exact h.of_error hrun

/-- A check aside differs in nothing but the announcement that is due. -/
theorem checkAside_ensures {term : Part} {setting : Setting} {done : Ty → Session → Prop}
    {stopped : Stop → Session → Prop} (h : Ensures (check term setting) session done stopped)
    (hdone : ∀ type after due, done type after → done type { after with unannounced := due })
    (hstopped : ∀ stop after due, stopped stop after →
      stopped stop { after with unannounced := due }) :
    Ensures (checkAside term setting) session done stopped := by
  unfold Ensures at h ⊢
  simp only [EStateM.run, checkAside] at h ⊢
  split at h <;> rename_i hrun <;> rw [hrun]
  · exact hdone _ _ _ h
  · exact hstopped _ _ _ h

/-! ### One step -/

section Check

variable {result : Ty} {found : List Issue}

/-- A check, be it aside or not, files what it finds and stops at the brink. -/
theorem act_finds (aside : Bool) (ht : Checkable session.workshop.numbering t scope)
    (h : Finding session.workshop.numbering t scope result found) :
    Ensures (Step.check aside t scope).act session
      (fun given after => given = some result ∧ session.Gains found after ∧
        ¬ (IllTyped scope t ∧ session.AtBrink))
      (fun stop after => stop = .tooManyIssues ∧ session.Gains found after ∧
        IllTyped scope t ∧ session.AtBrink) := by
  have hcheck := check_finds ht h
  cases aside with
  | false =>
    apply hcheck.bind (fun _ _ hs => hs)
    rintro _ after ⟨rfl, hrest⟩
    exact ⟨rfl, hrest⟩
  | true =>
    refine (checkAside_ensures hcheck ?_ ?_).bind (fun _ _ hs => hs) ?_
    · rintro _ after due ⟨rfl, hgains, hroom⟩
      exact ⟨rfl, ⟨hgains.table, hgains.report⟩, hroom⟩
    · rintro stop after due ⟨rfl, hgains, hfull⟩
      exact ⟨rfl, ⟨hgains.table, hgains.report⟩, hfull⟩
    · rintro _ after ⟨rfl, hrest⟩
      exact ⟨rfl, hrest⟩

theorem perform_gains (aside : Bool) (ht : Checkable session.workshop.numbering t scope)
    (h : Finding session.workshop.numbering t scope result found) :
    session.Gains found (session.perform (.check aside t scope)) := by
  apply perform_of_ensures
  exact (act_finds aside ht h).mono (fun _ _ hd => hd.2.1) (fun _ _ hs => hs.2.1)

/-- Alone, a check files what it finds. -/
theorem news_eq (aside : Bool) (ht : Checkable session.workshop.numbering t scope)
    (h : Finding session.workshop.numbering t scope result found) :
    session.news (.check aside t scope) = found := by
  have hgains : session.alone.Gains found (session.alone.perform (.check aside t scope)) :=
    perform_gains aside ht h
  rw [news, hgains.report]
  rfl

/-- Alone, a check gives what it finds. -/
theorem check_alone (ht : Checkable session.workshop.numbering t scope)
    (h : Finding session.workshop.numbering t scope result found) :
    ∃ after, (check (.term t) (.scope scope)).run session.alone = .ok result after := by
  have hcheck : Ensures (check (.term t) (.scope scope)) session.alone _ _ := check_finds ht h
  cases hrun : (check (.term t) (.scope scope)).run session.alone with
  | ok given after =>
    obtain ⟨rfl, -⟩ := hcheck.of_ok hrun
    exact ⟨after, rfl⟩
  | error stop after => cases (hcheck.of_error hrun).2.2.2

/-- There is one new picture for the check of an ill-typed term, and none for
any other. -/
theorem news_cases (aside : Bool) (ht : Checkable session.workshop.numbering t scope) :
    (¬ IllTyped scope t ∧ session.news (.check aside t scope) = []) ∨
      (IllTyped scope t ∧ ∃ picture, session.news (.check aside t scope) = [.picture picture]) := by
  obtain ⟨result, found, hfinding⟩ := ht.exists_finding
  rw [news_eq aside ht hfinding]
  exact hfinding.news_cases

/-- A check stops at the brink, and otherwise gives the result that it gives
alone, in this session or in any other. -/
theorem act_ensures (aside : Bool) (ht : Checkable session.workshop.numbering t scope)
    (hfresh : Checkable fresh.workshop.numbering t scope) :
    Ensures (Step.check aside t scope).act session
      (fun given _ => ¬ (IllTyped scope t ∧ session.AtBrink) ∧ ∃ result, given = some result ∧
        (∃ after, (check (.term t) (.scope scope)).run session.alone = .ok result after) ∧
        ∃ first after, (check (.term t) (.scope scope)).run fresh.alone = .ok first after ∧
          result.shape = first.shape ∧ result.blame? = first.blame?)
      (fun stop _ => stop = .tooManyIssues ∧ IllTyped scope t ∧ session.AtBrink) := by
  obtain ⟨result, found, hfinding⟩ := ht.exists_finding
  obtain ⟨first, filed, hfirst⟩ := hfresh.exists_finding
  obtain ⟨hshape, hblame, -⟩ := Finding.same ht hfresh hfinding hfirst
  obtain ⟨after', hrun'⟩ := check_alone hfresh hfirst
  refine (act_finds aside ht hfinding).mono ?_ ?_
  · rintro given after ⟨rfl, -, hroom⟩
    exact ⟨hroom, result, rfl, check_alone ht hfinding, first, after', hrun', hshape, hblame⟩
  · rintro stop after ⟨rfl, -, hfull⟩
    exact ⟨rfl, hfull⟩

end Check

/-- A step stops exactly if it is the check of an ill-typed term and the report
is at the brink. -/
theorem stops_iff (hstep : step.Checkable session.workshop.numbering) :
    session.Stops step ↔
      ∃ aside t scope, step = .check aside t scope ∧ IllTyped scope t ∧ session.AtBrink := by
  constructor
  · rintro ⟨stop, after, hrun⟩
    cases step with
    | make node | reset => cases hrun
    | check aside t scope =>
      obtain ⟨result, found, hfinding⟩ := Checkable.exists_finding hstep
      exact ⟨aside, t, scope, rfl, ((act_finds aside hstep hfinding).of_error hrun).2.2⟩
  · rintro ⟨aside, t, scope, rfl, hfull⟩
    obtain ⟨result, found, hfinding⟩ := Checkable.exists_finding hstep
    cases hrun : (Step.check aside t scope).act.run session with
    | ok result after => exact (((act_finds aside hstep hfinding).of_ok hrun).2.2 hfull).elim
    | error stop after => exact ⟨stop, after, hrun⟩

/-! ### Whole runs -/

theorem perform_extends (hstep : step.Checkable session.workshop.numbering) :
    session.workshop.numbering.Extends (session.perform step).workshop.numbering := by
  cases step with
  | make node => exact session.workshop.numbering.extends_insert node
  | reset => exact .refl _
  | check aside t scope =>
    obtain ⟨result, found, hfinding⟩ := Checkable.exists_finding hstep
    exact (perform_gains aside hstep hfinding).table

/-- What is checkable at the beginning of a run is so when its turn comes. -/
theorem ready_of_checkable {steps : List Step}
    (h : ∀ step ∈ steps, step.Checkable session.workshop.numbering) : session.Ready steps := by
  induction steps generalizing session with
  | nil => trivial
  | cons step rest ih =>
    rw [List.forall_mem_cons] at h
    exact ⟨h.1, ih fun later hlater => (h.2 later hlater).mono (perform_extends h.1)⟩

theorem performAll_extends {steps : List Step} (h : session.Ready steps) :
    session.workshop.numbering.Extends (session.performAll steps).workshop.numbering := by
  induction steps generalizing session with
  | nil => exact .refl _
  | cons step rest ih => exact (perform_extends h.1).trans (ih h.2)

/-- What was checkable when its turn came is so at the end of the run. -/
theorem checkable_of_ready {steps : List Step} (h : session.Ready steps) :
    ∀ step ∈ steps, step.Checkable (session.performAll steps).workshop.numbering := by
  induction steps generalizing session with
  | nil => exact nofun
  | cons step rest ih =>
    rw [List.forall_mem_cons]
    exact ⟨h.1.mono (performAll_extends h), ih h.2⟩

/-- The report has certain settings, and what the kept steps would each file
alone in a fresh session. -/
def Holds (now : Session) (settings : Report) (fresh : Session) (kept : List Step) : Prop :=
  now.report = { settings with issues := kept.flatMap fresh.news }

section Holds

variable {settings : Report} {kept : List Step}

/-- A step adds its news, or clears the report. -/
theorem Holds.perform (h : now.Holds settings fresh kept)
    (hstep : step.Checkable now.workshop.numbering)
    (hfresh : step.Checkable fresh.workshop.numbering) :
    (now.perform step).Holds settings fresh (step.keep kept) := by
  unfold Holds at h ⊢
  cases step with
  | reset =>
    have hreset : now.perform .reset = { now with report := now.report.reset } := rfl
    rw [hreset, h]
    rfl
  | make node =>
    have hmake : (now.perform (.make node)).report = now.report := rfl
    have hnews : fresh.news (.make node) = [] := rfl
    rw [hmake, h, Step.keep, List.flatMap_append, List.flatMap_singleton, hnews, List.append_nil]
  | check aside t scope =>
    obtain ⟨result, found, hfinding⟩ := Checkable.exists_finding hstep
    obtain ⟨first, filed, hfirst⟩ := Checkable.exists_finding hfresh
    obtain ⟨-, -, rfl⟩ := Finding.same hfresh hstep hfirst hfinding
    rw [(perform_gains aside hstep hfinding).report, h, Step.keep, List.flatMap_append,
      List.flatMap_singleton, news_eq aside hfresh hfirst]

theorem Holds.performAll {steps : List Step} (h : now.Holds settings fresh kept)
    (hready : now.Ready steps) (hfresh : ∀ step ∈ steps, step.Checkable fresh.workshop.numbering) :
    (now.performAll steps).Holds settings fresh (steps.foldl Step.keep kept) := by
  induction steps generalizing now kept with
  | nil => exact h
  | cons step rest ih =>
    rw [List.forall_mem_cons] at hfresh
    exact ih (h.perform hready.1 hfresh.1) hready.2 hfresh.2

theorem Holds.start (hclear : session.report.issues = []) :
    session.Holds session.report fresh [] := by
  rw [Holds, List.flatMap_nil, ← hclear]

theorem Holds.atBrink_iff (h : now.Holds settings fresh kept) :
    now.AtBrink ↔ settings.limit = some (((kept.flatMap fresh.news).length + 1 : Nat) : Int) := by
  rw [AtBrink, Report.count, h]

end Holds

/-- Once a check has stopped, the report is beyond its limit until the next
reset. -/
theorem not_stops_twice {before middle : List Step} {first second : Step}
    (hclear : session.report.issues = []) (hready : session.Ready (before ++ first :: middle))
    (hsecond : second.Checkable
      (session.performAll (before ++ first :: middle)).workshop.numbering)
    (hmiddle : Step.reset ∉ middle) (hfirst : (session.performAll before).Stops first) :
    ¬ (session.performAll (before ++ first :: middle)).Stops second := by
  have hfresh := checkable_of_ready hready
  rw [performAll_append] at hsecond hfresh ⊢
  simp only [List.forall_mem_append, List.forall_mem_cons] at hfresh
  obtain ⟨hbeforeFresh, hfirstFresh, hmiddleFresh⟩ := hfresh
  obtain ⟨hbeforeReady, hfirstReady, hmiddleReady⟩ := ready_append.mp hready
  have hheld := (Holds.start hclear).performAll hbeforeReady hbeforeFresh
  have hlater := (hheld.perform hfirstReady hfirstFresh).performAll hmiddleReady hmiddleFresh
  obtain ⟨aside, t, scope, rfl, hill, hbrink⟩ := (stops_iff hfirstReady).mp hfirst
  obtain ⟨-, picture, hpicture⟩ := (news_cases aside hfirstFresh).resolve_left fun h => h.1 hill
  rw [Step.keep, foldl_keep_of_no_reset hmiddle] at hlater
  intro hstops
  obtain ⟨_, _, _, -, -, hbrink'⟩ := (stops_iff hsecond).mp hstops
  -- The picture of the first check is one of the issues before the second.
  rw [hheld.atBrink_iff] at hbrink
  have hcount := hbrink.symm.trans (hlater.atBrink_iff.mp hbrink')
  simp only [List.flatMap_append, List.flatMap_singleton, hpicture, List.length_append,
    List.length_singleton, Option.some.injEq, Int.natCast_inj] at hcount
  omega

/-- Nothing stops at a report without a limit above zero. -/
theorem not_stops_of_no_limit (hlimit : ∀ limit, session.report.limit = some limit → limit ≤ 0)
    (hstep : step.Checkable session.workshop.numbering) : ¬ session.Stops step := by
  rw [stops_iff hstep]
  rintro ⟨aside, t, scope, -, -, hbrink⟩
  have hpositive := hlimit _ hbrink
  omega

/-- **A report's limit over a whole run.** The report holds one picture for
each ill-typed term checked since the last reset, in order and the same as if
it had been checked alone in any fresh session. The next step stops exactly if
it is the check of an ill-typed term and its picture brings the number of issues
to the limit; any other check gives the result that it gives alone. Two stops
have a reset between them, and without a limit above zero nothing stops. -/
theorem performAll_keeps_to_limit {steps : List Step} (hclear : session.report.issues = [])
    (hready : session.Ready steps) :
    (∀ fresh : Session, (∀ step ∈ steps, step.Checkable fresh.workshop.numbering) →
      (session.performAll steps).report =
        { session.report with issues := (sinceReset steps).flatMap fresh.news }) ∧
    (∀ (fresh : Session) aside t scope, Checkable fresh.workshop.numbering t scope →
      (¬ IllTyped scope t ∧ fresh.news (.check aside t scope) = []) ∨
        (IllTyped scope t ∧ ∃ picture, fresh.news (.check aside t scope) = [.picture picture])) ∧
    (∀ (fresh : Session) aside t scope,
      Checkable (session.performAll steps).workshop.numbering t scope →
      Checkable fresh.workshop.numbering t scope →
      Ensures (Step.check aside t scope).act (session.performAll steps)
        (fun given _ => ¬ (IllTyped scope t ∧ (session.performAll steps).AtBrink) ∧
          ∃ result, given = some result ∧
            (∃ after, (check (.term t) (.scope scope)).run (session.performAll steps).alone =
              .ok result after) ∧
            ∃ first after, (check (.term t) (.scope scope)).run fresh.alone = .ok first after ∧
              result.shape = first.shape ∧ result.blame? = first.blame?)
        (fun stop _ => stop = .tooManyIssues ∧ IllTyped scope t ∧
          (session.performAll steps).AtBrink)) ∧
    ¬ (session.performAll steps).Stops .reset ∧
    (∀ before first middle second rest, steps = before ++ first :: (middle ++ second :: rest) →
      Step.reset ∉ middle → (session.performAll before).Stops first →
      ¬ (session.performAll (before ++ first :: middle)).Stops second) ∧
    ((∀ limit, session.report.limit = some limit → limit ≤ 0) →
      ∀ before next rest, steps = before ++ next :: rest →
        ¬ (session.performAll before).Stops next) := by
  refine ⟨fun fresh hfresh => (Holds.start hclear).performAll hready hfresh,
    fun fresh aside t scope => news_cases aside, fun fresh aside t scope => act_ensures aside,
    ?_, ?_, ?_⟩
  · rintro ⟨stop, after, hrun⟩
    cases hrun
  · rintro before first middle second rest rfl hmiddle hfirst
    rw [← List.cons_append, ← List.append_assoc, ready_append] at hready
    exact not_stops_twice hclear hready.1 hready.2.1 hmiddle hfirst
  · rintro hlimit before next rest rfl
    obtain ⟨hbefore, hnext, -⟩ := ready_append.mp hready
    have hheld := (Holds.start hclear).performAll hbefore (checkable_of_ready hbefore)
    refine not_stops_of_no_limit ?_ hnext
    rw [hheld]
    exact hlimit

/-- A limit of one: the check of an ill-typed term stops, the same check right
after it does not, and both have filed their picture. -/
theorem performAll_keeps_to_limit_one :
    let session := start { verbose := false, limit := some 1, issues := [] } []
    let step : Step := .check false (.app 2 (.builtin 0 .successor) (.truth 1 true)) .empty
    session.Stops step ∧ ¬ (session.performAll [step]).Stops step ∧
      (session.performAll [step, step]).report.issues = session.news step ++ session.news step := by
  intro session step
  have hstep : step.Checkable session.workshop.numbering :=
    ⟨.refl _, by simp [Term.InLanguage], Scope.onlyTypes_empty, by simp [Term.declared],
      Scope.all_empty _⟩
  have hsteps : ∀ each ∈ [step, step], each.Checkable session.workshop.numbering := by
    simp [hstep]
  have hstops : session.Stops step := ⟨_, _, rfl⟩
  obtain ⟨hreport, -, -, -, honce, -⟩ :=
    performAll_keeps_to_limit rfl (ready_of_checkable hsteps)
  refine ⟨hstops, honce [] step [] step [] rfl List.not_mem_nil hstops, ?_⟩
  rw [hreport session hsteps]
  simp [sinceReset, Step.keep, step]

end Session

end PCFTyping
