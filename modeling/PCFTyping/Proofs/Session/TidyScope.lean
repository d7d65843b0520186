import PCFTyping.Proofs.Scope.Bindings
import PCFTyping.Proofs.Tandem
import PCFTyping.Session.Check

/-!
Nobody can tell a scope from the scope made again from its bindings.

Two scopes that are the same when tidied have the same for every name, and this
stays so below binders. What is left of the difference is the scope that a fault
is reported with, and there only the list of bindings is read.

* `Term.judge_likewise`: both judgements come to the same, up to hidden bindings
  in the scope of a fault (`Judging.Likewise`).
* `Session.check_of_tidy_eq`: both checks do the same.

`Scope.told_by_bindings` puts this together with what the list of bindings says
about a scope.
-/

namespace PCFTyping

variable {α β : Type} {scope scope' : Scope}

/-- A halt, with hidden bindings left out of the scope of a fault. -/
def Halt.tidy : Halt → Halt
  | fault scope cause => .fault scope.tidy cause
  | halt => halt

/-! ### Judgements -/

namespace Judging

/-- Two judgements that come to the same, up to hidden bindings in the scope of
a fault. -/
def Likewise (left right : Judging α) : Prop :=
  ∀ start, Tandem left start right start
    (fun a after a' after' => a = a' ∧ after = after')
    (fun halt after halt' after' => halt.tidy = halt'.tidy ∧ after = after')

theorem Likewise.refl (work : Judging α) : work.Likewise work := by
  intro start
  cases hrun : work.run start with
  | ok a after => exact Tandem.of_runs_ok hrun hrun ⟨rfl, rfl⟩
  | error halt after => exact Tandem.of_runs_error hrun hrun ⟨rfl, rfl⟩

theorem Likewise.bind {left right : Judging α} {next next' : α → Judging β}
    (h : left.Likewise right) (hnext : ∀ a, (next a).Likewise (next' a)) :
    (left >>= next).Likewise (right >>= next') := by
  intro start
  refine (h start).bind (fun _ _ _ _ hhalts => hhalts) ?_
  rintro a now _ _ ⟨rfl, rfl⟩
  exact hnext a now

/-- A fault is reported with the scope in force, hidden bindings or not. -/
theorem likewise_fault (h : scope.tidy = scope'.tidy) (fault : Fault) :
    Likewise (throw (.fault scope fault) : Judging α) (throw (.fault scope' fault)) :=
  fun _ => ⟨congrArg (Halt.fault · fault) h, rfl⟩

theorem expectArrow_likewise (h : scope.tidy = scope'.tidy) (callee : Term) (type : Ty) :
    (expectArrow scope callee type).Likewise (expectArrow scope' callee type) := by
  cases type with
  | arrow number domain range => exact .refl _
  | prim | base | pair | error => exact likewise_fault h _

theorem expectSame_likewise (h : scope.tidy = scope'.tidy) (demand : Demand) (expr : Term)
    (need got : Ty) :
    (expectSame scope demand expr need got).Likewise (expectSame scope' demand expr need got) := by
  unfold expectSame
  split
  · exact .refl _
  · exact likewise_fault h _

end Judging

open Judging in
/-- A term is judged alike in scopes that are the same when tidied. -/
theorem Term.judge_likewise (t : Term) (h : scope.tidy = scope'.tidy) :
    (t.judge scope).Likewise (t.judge scope') := by
  induction t generalizing scope scope' with
  | ident label name =>
    rw [judge, judge, Scope.lookup_of_tidy_eq h]
    split
    · exact likewise_fault h _
    · exact .refl _
    · exact .refl _
  | number | truth | builtin | bareProj | bare => exact .refl _
  | fn label param domain body ih =>
    exact (ih (Scope.tidy_extend h _ _)).bind fun range => .refl _
  | app label callee argument ihf iha =>
    refine (ihf h).bind fun calleeType => ?_
    refine (expectArrow_likewise h callee calleeType).bind fun parts => ?_
    refine (iha h).bind fun got => ?_
    exact (expectSame_likewise h _ _ _ _).bind fun _ => .refl _
  | recur label name declared body ih =>
    have hinner := Scope.tidy_extend h name.text declared
    refine (ih hinner).bind fun got => ?_
    exact (expectSame_likewise hinner _ _ _ _).bind fun _ => .refl _
  | cond label condition thenBranch elseBranch ihc iht ihe =>
    refine (ihc h).bind fun conditionType => ?_
    refine (iht h).bind fun thenType => ?_
    refine (ihe h).bind fun elseType => ?_
    refine (expectSame_likewise h _ _ _ _).bind fun _ => ?_
    split
    · exact .refl _
    · exact likewise_fault h _
  | letIn label name declared binding body ihb ih =>
    -- The bound term is judged in the empty scope on both sides.
    refine (Likewise.refl (binding.judge .empty)).bind fun got => ?_
    refine (Likewise.refl _).bind fun _ => ?_
    exact ih (Scope.tidy_extend h _ _)
  | pair | proj => exact .refl _

/-! ### Checks -/

/-- A picture lists the bindings of a scope and no more. -/
theorem Complaint.picture_tidy (complaint : Complaint) (scope : Scope) (root : Part) :
    complaint.picture (.scope scope.tidy) root = complaint.picture (.scope scope) root := by
  have hfooter : (Setting.scope scope.tidy).footer = (Setting.scope scope).footer :=
    scope.footer_tidy
  cases complaint <;> rw [picture, picture, hfooter]

namespace Session

theorem settle_tidy (root : Term) (halt : Halt) :
    settle root (.error halt.tidy) = settle root (.error halt) := by
  cases halt with
  | fault scope fault => simp only [Halt.tidy, settle, tell, Complaint.picture_tidy]
  | inherited | noRule | notAType => rfl

/-- What makes nothing of hidden bindings goes on in the same way. -/
theorem judge_bind_eq {next : Except Halt Ty → Act α} (t : Term) (h : scope.tidy = scope'.tidy)
    (hnext : ∀ halt : Halt, next (.error halt.tidy) = next (.error halt)) :
    (judge t scope >>= next) = (judge t scope' >>= next) := by
  funext session
  cases hleft : (t.judge scope).run session.workshop.numbering with
  | ok type now =>
    obtain ⟨_, _, hright, rfl, rfl⟩ := (t.judge_likewise h _).of_ok hleft
    simp only [bind, EStateM.bind, judge, hleft, hright]
  | error halt now =>
    obtain ⟨halt', _, hright, hhalt, rfl⟩ := (t.judge_likewise h _).of_error hleft
    simp only [bind, EStateM.bind, judge, hleft, hright]
    rw [← hnext halt, hhalt, hnext halt']

/-- Checks in scopes that are the same when tidied do the same. -/
theorem check_of_tidy_eq (part : Part) (h : scope.tidy = scope'.tidy) :
    check part (.scope scope) = check part (.scope scope') := by
  unfold check
  refine bind_congr fun t => ?_
  simp only [pure_bind]
  refine bind_congr fun _ => bind_congr fun _ => bind_congr fun _ => ?_
  refine judge_bind_eq t h ?_
  intro halt
  rw [settle_tidy]

end Session

/-- **A scope is told by its bindings.** Take any stack of bindings on any
outermost scope. The bindings list every name of the stack once, in the order of
the innermost bindings: of two names, the one that is bound further in comes
later. A name means what is listed for it, or else what the outermost scope has
for it. A list of types for different names is accepted as a mapping, and is the
list of bindings of the scope made of it. If there is nothing below the stack,
the scope made of its bindings cannot be told from it: it has the same for every
name, the same bindings and the same text, and a check of anything in any session
does the same, whether it gives a result, files an issue, says something or
stops. -/
theorem Scope.told_by_bindings (scope : Scope) :
    (scope.bindings.map (·.1)).Nodup ∧
      (∀ name, name ∈ scope.bindings.map (·.1) ↔ name ∈ scope.frames.map (·.1)) ∧
      ((scope.bindings.map (·.1)).Pairwise fun earlier later =>
        (scope.frames.map (·.1)).idxOf later < (scope.frames.map (·.1)).idxOf earlier) ∧
      (∀ name, scope.lookup name =
        ((scope.bindings.lookup name).map .type).or (scope.outermost.lookup name)) ∧
      (∀ items : List (String × Ty), (items.map (·.1)).Nodup →
        ∃ made, ofMapping? (offered items) = .ok made ∧ made.bindings = items) ∧
      (scope.outermost = .empty →
        ∃ made, ofMapping? (offered scope.bindings) = .ok made ∧
          (∀ name, made.lookup name = scope.lookup name) ∧
          made.bindings = scope.bindings ∧ made.describe = scope.describe ∧
          ∀ part, Session.check part (.scope made) = Session.check part (.scope scope)) := by
  refine ⟨scope.nodup_bindings, fun _ => mem_names_bindings, scope.bindings_in_order,
    scope.lookup_eq, ?_, ?_⟩
  · intro items hitems
    exact ⟨_, ofMapping?_ok items, bindings_ofBindings _ hitems⟩
  · intro hempty
    have hmade : ofBindings .empty scope.bindings = scope.tidy := by rw [tidy, hempty]
    refine ⟨scope.tidy, ?_, scope.lookup_tidy, scope.bindings_tidy, scope.describe_tidy, ?_⟩
    · rw [ofMapping?_ok, hmade]
    · intro part
      exact Session.check_of_tidy_eq part scope.tidy_tidy

/-- A name is bound again when another one has been bound in between. It moves
behind that one, and the scope made of the bindings has one binding less. A
mapping keeps its order. -/
theorem Scope.told_by_bindings_again :
    let scope := ((Scope.empty.extend "x" .integer).extend "y" .boolean).extend "x" .boolean
    scope.bindings = [("y", .boolean), ("x", .boolean)] ∧
      scope.lookup "x" = some (.type .boolean) ∧
      (∃ made, ofMapping? (offered [("b", .integer), ("a", .boolean)]) = .ok made ∧
        made.bindings = [("b", .integer), ("a", .boolean)]) ∧
      ∃ made, ofMapping? (offered scope.bindings) = .ok made ∧
        made.frames.length < scope.frames.length ∧ made.describe = scope.describe ∧
        ∀ part, Session.check part (.scope made) = Session.check part (.scope scope) := by
  intro scope
  have hmapping : ofMapping? (offered scope.bindings) =
      .ok ((Scope.empty.extend "y" .boolean).extend "x" .boolean) := rfl
  obtain ⟨-, -, -, hlookup, hitems, hmade⟩ := Scope.told_by_bindings scope
  obtain ⟨made, hmake, -, -, hdescribe, hcheck⟩ := hmade rfl
  cases hmapping.symm.trans hmake
  exact ⟨rfl, hlookup "x", hitems _ (by decide), _, hmapping, by decide, hdescribe, hcheck⟩

end PCFTyping
