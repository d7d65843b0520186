import PCFTyping.Proofs.Outcome

/-!
Two pieces of work side by side.

`Tandem` says of two pieces of work, each started in a state of its own, that
both get done or both stop, and how the results, the causes and the states of
the two then relate. Its rules follow the ways of putting work together, as
those of `Ensures` do for a single piece of work.
-/

namespace PCFTyping

variable {ε σ α β γ δ : Type}

/-- Both pieces of work end with `done`, or both stop with `stopped`. -/
def Tandem (left : EStateM ε σ α) (state : σ) (right : EStateM ε σ β) (state' : σ)
    (done : α → σ → β → σ → Prop) (stopped : ε → σ → ε → σ → Prop) : Prop :=
  match left.run state, right.run state' with
  | .ok a after, .ok b after' => done a after b after'
  | .error e after, .error e' after' => stopped e after e' after'
  | _, _ => False

namespace Tandem

variable {left : EStateM ε σ α} {right : EStateM ε σ β} {state state' : σ}
  {done done' : α → σ → β → σ → Prop} {stopped stopped' : ε → σ → ε → σ → Prop}

/-- When one is done, so is the other. -/
theorem of_ok {a : α} {after : σ} (h : Tandem left state right state' done stopped)
    (hrun : left.run state = .ok a after) :
    ∃ b after', right.run state' = .ok b after' ∧ done a after b after' := by
  unfold Tandem at h
  rw [hrun] at h
  cases hright : right.run state' with
  | ok b after' =>
    rw [hright] at h
    exact ⟨b, after', rfl, h⟩
  | error e' after' =>
    rw [hright] at h
    exact h.elim

/-- When one stops, so does the other. -/
theorem of_error {e : ε} {after : σ} (h : Tandem left state right state' done stopped)
    (hrun : left.run state = .error e after) :
    ∃ e' after', right.run state' = .error e' after' ∧ stopped e after e' after' := by
  unfold Tandem at h
  rw [hrun] at h
  cases hright : right.run state' with
  | ok b after' =>
    rw [hright] at h
    exact h.elim
  | error e' after' =>
    rw [hright] at h
    exact ⟨e', after', rfl, h⟩

theorem of_runs_ok {a : α} {b : β} {after after' : σ} (hleft : left.run state = .ok a after)
    (hright : right.run state' = .ok b after') (h : done a after b after') :
    Tandem left state right state' done stopped := by
  rw [Tandem, hleft, hright]
  exact h

theorem of_runs_error {e e' : ε} {after after' : σ} (hleft : left.run state = .error e after)
    (hright : right.run state' = .error e' after') (h : stopped e after e' after') :
    Tandem left state right state' done stopped := by
  rw [Tandem, hleft, hright]
  exact h

/-- What is known of each piece of work by itself, as long as the two ends
exclude each other. -/
theorem of_ensures {lone : α → σ → Prop} {halted : ε → σ → Prop} {lone' : β → σ → Prop}
    {halted' : ε → σ → Prop} (h : Ensures left state lone halted)
    (h' : Ensures right state' lone' halted')
    (hdone : ∀ a after b after', lone a after → lone' b after' → done a after b after')
    (hstopped : ∀ e after e' after', halted e after → halted' e' after' →
      stopped e after e' after')
    (hleft : ∀ a after e' after', lone a after → ¬ halted' e' after')
    (hright : ∀ e after b after', halted e after → ¬ lone' b after') :
    Tandem left state right state' done stopped := by
  cases hrun : left.run state with
  | ok a after =>
    have ha := h.of_ok hrun
    cases hrun' : right.run state' with
    | ok b after' => exact of_runs_ok hrun hrun' (hdone _ _ _ _ ha (h'.of_ok hrun'))
    | error e' after' => exact (hleft _ _ _ _ ha (h'.of_error hrun')).elim
  | error e after =>
    have he := h.of_error hrun
    cases hrun' : right.run state' with
    | ok b after' => exact (hright _ _ _ _ he (h'.of_ok hrun')).elim
    | error e' after' => exact of_runs_error hrun hrun' (hstopped _ _ _ _ he (h'.of_error hrun'))

theorem mono (h : Tandem left state right state' done stopped)
    (hdone : ∀ a after b after', done a after b after' → done' a after b after')
    (hstopped : ∀ e after e' after', stopped e after e' after' → stopped' e after e' after') :
    Tandem left state right state' done' stopped' := by
  cases hleft : left.run state with
  | ok a after =>
    obtain ⟨b, after', hright, hab⟩ := h.of_ok hleft
    exact of_runs_ok hleft hright (hdone _ _ _ _ hab)
  | error e after =>
    obtain ⟨e', after', hright, hee⟩ := h.of_error hleft
    exact of_runs_error hleft hright (hstopped _ _ _ _ hee)

/-- Work followed by more work, on both sides. -/
theorem bind {next : α → EStateM ε σ γ} {next' : β → EStateM ε σ δ}
    {last : γ → σ → δ → σ → Prop} (h : Tandem left state right state' done stopped)
    (hstopped : ∀ e after e' after', stopped e after e' after' → stopped' e after e' after')
    (hnext : ∀ a after b after', done a after b after' →
      Tandem (next a) after (next' b) after' last stopped') :
    Tandem (left >>= next) state (right >>= next') state' last stopped' := by
  cases hleft : left.run state with
  | ok a after =>
    obtain ⟨b, after', hright, hab⟩ := h.of_ok hleft
    have hlast := hnext a after b after' hab
    unfold Tandem at hlast ⊢
    simpa only [EStateM.run_bind, hleft, hright] using hlast
  | error e after =>
    obtain ⟨e', after', hright, hee⟩ := h.of_error hleft
    have hlast := hstopped e after e' after' hee
    unfold Tandem
    simpa only [EStateM.run_bind, hleft, hright] using hlast

end Tandem

end PCFTyping
