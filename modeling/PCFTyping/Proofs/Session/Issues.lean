import PCFTyping.Proofs.Session.Verdict

/-!
What a check adds to the report.

An error type can be the result of a check in two ways. A fault makes a new
one, and files one picture. Or the error was there before, inside a declared
type of the term or a type of the scope, and then it is passed on in silence.
Every error in a type that a judgement gives is of the second sort
(`Ty.Inherits`), so a check that starts from types without errors files a
picture exactly if its result is an error.
-/

namespace PCFTyping

/-- A type was there before the check: it is a part of a declared type or of a
type of the scope. -/
def WasGiven (t : Term) (scope : Scope) (part : Ty) : Prop :=
  ∃ type, part ∈ type.parts ∧
    (type ∈ t.declared ∨ ∃ name, scope.lookup name = some (.type type))

/-- Every error in a type was there before the check. -/
def Ty.Inherits (t : Term) (scope : Scope) (type : Ty) : Prop :=
  type.Everywhere fun part => part.isError = true → WasGiven t scope part

namespace WasGiven

variable {t : Term} {scope : Scope}

/-- The given types themselves have no other errors. -/
theorem inherits : GivenTypes (Ty.Inherits t scope) t scope where
  declared := fun type htype _ hpart _ => ⟨type, hpart, .inl htype⟩
  bound := fun name type hlook _ hpart _ => ⟨type, hpart, .inr ⟨name, hlook⟩⟩

theorem errorFree {part : Ty} (h : WasGiven t scope part)
    (hgiven : GivenTypes Ty.ErrorFree t scope) : part.isError = false := by
  obtain ⟨type, hpart, hdeclared | ⟨name, hlook⟩⟩ := h
  · exact hgiven.declared type hdeclared part hpart
  · exact hgiven.bound name type hlook part hpart

end WasGiven

namespace Ty.Inherits

variable {t : Term} {scope : Scope}

/-- Judging adds no errors to a type. -/
theorem stable : Stable fun _ type => type.Inherits t scope :=
  .everywhere (fun _ _ _ => nofun) (fun _ _ _ => nofun) nofun nofun

theorem errorFree {type : Ty} (h : type.Inherits t scope)
    (hgiven : GivenTypes Ty.ErrorFree t scope) : type.ErrorFree := by
  intro part hpart
  cases herror : part.isError with
  | false => rfl
  | true => exact herror.symm.trans ((h part hpart herror).errorFree hgiven)

end Ty.Inherits

namespace Session

variable {session : Session} {t : Term} {scope : Scope}

/-- **One issue for an ill-typed term.** A check files at most one issue and
none if its result is no error; it only ever stops because an error that was
there before cannot be explained. An error that comes without an issue was
there before. So if no error was, the check gives an error exactly if it files
an issue, and any other result is free of errors. -/
theorem check_files_at_most_one (hterm : t.InLanguage) (hscope : scope.OnlyTypes)
    (hnamed : Numbering.initial.Extends session.workshop.numbering)
    (hlimit : session.report.limit = none) (hgiven : GivenTypes Ty.Renderable t scope) :
    ∃ new : List Issue, new.length ≤ 1 ∧
      Ensures (check (.term t) (.scope scope)) session
        (fun result after =>
          after.report = { session.report with issues := session.report.issues ++ new } ∧
          (result.isError = false → new = []) ∧
          (result.isError = true → new = [] → WasGiven t scope result))
        (fun stop after => after.report = session.report ∧ new = [] ∧
          ∃ number failure, WasGiven t scope (.error number failure) ∧
            failure.explain = .error stop) ∧
      (GivenTypes Ty.ErrorFree t scope →
        ∃ result after, (check (.term t) (.scope scope)).run session = .ok result after ∧
          (result.isError = true ↔ new.length = 1) ∧
          (result.isError = false → result.ErrorFree)) := by
  obtain ⟨verdict, numbering, hjudged⟩ := t.exists_judged scope session.workshop.numbering
  have hwritable : t.Writable := ⟨hterm, hgiven.declared⟩
  have hready : Underway (fun _ type => type.Renderable ∧ type.Inherits t scope) scope t
      session.workshop.numbering session.workshop.numbering :=
    ⟨hnamed, .refl _, hgiven.and WasGiven.inherits⟩
  rcases hjudged.found_or_fault (Stable.renderable.and Ty.Inherits.stable) hready hterm hscope with
    ⟨type, hfound, hrenderable, hinherits⟩ | ⟨inForce, fault, rfl, hinForce, hfault⟩
  · refine ⟨[], Nat.zero_le 1, ?_, ?_⟩
    · refine (check_of_found hfound (fun _ => hwritable.render_ok)
        (fun _ _ => hrenderable.render_ok) hjudged).mono ?_ ?_
      · rintro result after ⟨rfl, hreport⟩
        refine ⟨?_, fun _ => rfl, fun herror _ => hinherits.self herror⟩
        rw [hreport, List.append_nil]
      · rintro stop after ⟨hreport, number, failure, rfl, hexplain⟩
        exact ⟨hreport, rfl, number, failure, hinherits.self rfl, hexplain⟩
    · intro hclean
      have herrorFree := hinherits.errorFree hclean
      obtain ⟨_, after, hrun, rfl, -⟩ := (check_of_found_type hfound herrorFree.isError
        (fun _ => hwritable.render_ok) (fun _ => hrenderable.render_ok) hjudged).exists_ok
      refine ⟨_, after, hrun, ?_, fun _ => herrorFree⟩
      simp [herrorFree.isError]
  -- The picture is the new issue, and only the run can tell which one it is.
  · obtain ⟨_, after, hrun, ⟨number, rfl⟩, picture, hreport⟩ := (check_of_fault hwritable
      (hinForce.mono fun _ h => h.1) (hfault.mono fun _ h => h.1) hlimit
      hjudged).exists_ok
    refine ⟨[.picture picture], Nat.le_refl 1, ?_, ?_⟩
    · rw [Ensures, hrun]
      exact ⟨hreport, by simp [Ty.isError], by simp⟩
    · intro _
      exact ⟨_, after, hrun, by simp [Ty.isError], by simp [Ty.isError]⟩

/-- The successor of a truth value, told aloud to a report that has an issue
already: the result is an error, and one picture is new. -/
theorem check_files_at_most_one_successor :
    let earlier : Report := { verbose := true, limit := none, issues := [.other (.int 7)] }
    ∃ picture result after, (check (.term (.app 2 (.builtin 0 .successor) (.truth 1 true)))
        (.scope .empty)).run (start earlier []) = .ok result after ∧
      result.isError = true ∧ after.report.issues = [.other (.int 7), .picture picture] := by
  intro earlier
  have hnamed : Numbering.initial.Extends (start earlier []).workshop.numbering := .refl _
  have hnone : ∀ P, GivenTypes P (.app 2 (.builtin 0 .successor) (.truth 1 true)) .empty :=
    fun P => ⟨by simp [Term.declared], Scope.all_empty P⟩
  obtain ⟨new, -, hfiled, hclean⟩ := check_files_at_most_one (by simp [Term.InLanguage])
    Scope.onlyTypes_empty hnamed rfl (hnone _)
  obtain ⟨result, after, hrun, hone, -⟩ := hclean (hnone _)
  obtain ⟨hreport, -⟩ := hfiled.of_ok hrun
  -- That the result is an error, and what is filed last, is read off the run.
  obtain ⟨number, failure, picture, told, htold, hlast⟩ : ∃ number failure picture told,
      (check (.term (.app 2 (.builtin 0 .successor) (.truth 1 true))) (.scope .empty)).run
          (start earlier []) = .ok (.error number failure) told ∧
        told.report.issues.getLast? = some (.picture picture) := ⟨_, _, _, _, rfl, rfl⟩
  obtain ⟨rfl, rfl⟩ := EStateM.Result.ok.inj (hrun.symm.trans htold)
  obtain ⟨issue, rfl⟩ := List.length_eq_one_iff.mp (hone.mp rfl)
  obtain rfl : issue = .picture picture := by simpa [hreport] using hlast
  exact ⟨picture, _, _, hrun, rfl, congrArg Report.issues hreport⟩

end Session

end PCFTyping
