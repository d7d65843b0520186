/-
How a piece of work ends.

Writing and explaining give a text or a cause for giving none; `Succeeds` says
that there is a result. Judging, placing, building and acting carry a state as
well and may stop early, and what they did to the state up to there stays done.
`Ensures` says of such work, started in one state, what holds when it is done
and what holds when it stops. The rules of both follow the ways of putting work
together, so that a function is described once and its callers use the
description.
-/

namespace PCFTyping

variable {ε σ α β : Type}

/-! ### Results -/

/-- There is a result. -/
def Succeeds (result : Except ε α) : Prop := ∃ a, result = .ok a

/-- If there is no result, the cause is of some sort. -/
def FailsOnly (P : ε → Prop) (result : Except ε α) : Prop := ∀ e, result = .error e → P e

namespace FailsOnly

variable {P : ε → Prop}

theorem pure (a : α) : FailsOnly P (Pure.pure a : Except ε α) := nofun

theorem bind {result : Except ε α} {next : α → Except ε β} (h : FailsOnly P result)
    (hnext : ∀ a, FailsOnly P (next a)) : FailsOnly P (result >>= next) := by
  cases result with
  | ok a => exact hnext a
  | error e =>
    rintro _ ⟨⟩
    exact h e rfl

theorem mapM {f : α → Except ε β} {items : List α} (h : ∀ item ∈ items, FailsOnly P (f item)) :
    FailsOnly P (items.mapM f) := by
  induction items with
  | nil => exact nofun
  | cons item rest ih =>
    rw [List.mapM_cons]
    have hrest := ih fun item hitem => h item (List.mem_cons_of_mem _ hitem)
    exact (h item List.mem_cons_self).bind fun _ => hrest.bind fun _ => .pure _

end FailsOnly

/-- There is a result when no cause is left for there being none. -/
theorem succeeds_iff_failsOnly {result : Except ε α} :
    Succeeds result ↔ FailsOnly (fun _ => False) result := by
  cases result with
  | ok a => simp [Succeeds, FailsOnly]
  | error e => simp [Succeeds, FailsOnly]

namespace Succeeds

theorem pure (a : α) : Succeeds (Pure.pure a : Except ε α) := ⟨a, rfl⟩

theorem bind {result : Except ε α} {next : α → Except ε β} (h : Succeeds result)
    (hnext : ∀ a, Succeeds (next a)) : Succeeds (result >>= next) := by
  obtain ⟨a, rfl⟩ := h
  exact hnext a

theorem failsOnly {result : Except ε α} {P : ε → Prop} (h : Succeeds result) :
    FailsOnly P result := by
  obtain ⟨a, rfl⟩ := h
  exact nofun

end Succeeds

/-- A result put together from two has both of them behind it. -/
theorem bind_eq_ok_iff {result : Except ε α} {next : α → Except ε β} {b : β} :
    (result >>= next) = .ok b ↔ ∃ a, result = .ok a ∧ next a = .ok b := by
  cases result with
  | ok a => simp [bind, Except.bind]
  | error e => simp [bind, Except.bind]

/-- A cause for giving no result lies in the first part or in the second. -/
theorem bind_eq_error_iff {result : Except ε α} {next : α → Except ε β} {e : ε} :
    (result >>= next) = .error e ↔ result = .error e ∨ ∃ a, result = .ok a ∧ next a = .error e := by
  cases result with
  | ok a => simp [bind, Except.bind]
  | error e => simp [bind, Except.bind]

/-! ### Work that carries a state -/

/-- Work that starts in `state` ends with `done`, or stops with `stopped`. -/
def Ensures (work : EStateM ε σ α) (state : σ) (done : α → σ → Prop) (stopped : ε → σ → Prop) :
    Prop :=
  match work.run state with
  | .ok a after => done a after
  | .error e after => stopped e after

/-- Work put together from two pieces gets done when both of them do. -/
theorem run_bind_eq_ok_iff {work : EStateM ε σ α} {next : α → EStateM ε σ β} {state after : σ}
    {b : β} :
    (work >>= next).run state = .ok b after ↔
      ∃ a now, work.run state = .ok a now ∧ (next a).run now = .ok b after := by
  rw [EStateM.run_bind]
  cases work.run state with
  | ok a now =>
    constructor
    · exact fun hnext => ⟨a, now, rfl, hnext⟩
    · rintro ⟨_, _, ⟨⟩, hnext⟩
      exact hnext
  | error e now => simp

/-- Work that gets done, and what holds then. -/
abbrev Completes (work : EStateM ε σ α) (state : σ) (done : α → σ → Prop) : Prop :=
  Ensures work state done fun _ _ => False

namespace Ensures

variable {work : EStateM ε σ α} {next : α → EStateM ε σ β} {state : σ}
  {done done' : α → σ → Prop} {stopped stopped' : ε → σ → Prop}

theorem of_ok {a : α} {after : σ} (h : Ensures work state done stopped)
    (hrun : work.run state = .ok a after) : done a after := by
  rw [Ensures, hrun] at h
  exact h

theorem of_error {e : ε} {after : σ} (h : Ensures work state done stopped)
    (hrun : work.run state = .error e after) : stopped e after := by
  rw [Ensures, hrun] at h
  exact h

/-- Work that does not get done stops. -/
theorem exists_error (h : Ensures work state (fun _ _ => False) stopped) :
    ∃ e after, work.run state = .error e after ∧ stopped e after := by
  cases hrun : work.run state with
  | ok a after => exact (h.of_ok hrun).elim
  | error e after => exact ⟨e, after, rfl, h.of_error hrun⟩

/-- Work ends somehow. -/
theorem trivial (work : EStateM ε σ α) (state : σ) :
    Ensures work state (fun _ _ => True) (fun _ _ => True) := by
  unfold Ensures
  split <;> exact True.intro

theorem mono (h : Ensures work state done stopped) (hdone : ∀ a after, done a after → done' a after)
    (hstopped : ∀ e after, stopped e after → stopped' e after) :
    Ensures work state done' stopped' := by
  unfold Ensures at h ⊢
  split <;> rename_i hrun <;> rw [hrun] at h
  · exact hdone _ _ h
  · exact hstopped _ _ h

theorem and (h : Ensures work state done stopped) (h' : Ensures work state done' stopped') :
    Ensures work state (fun a after => done a after ∧ done' a after)
      (fun e after => stopped e after ∧ stopped' e after) := by
  unfold Ensures at h h' ⊢
  split <;> rename_i hrun <;> rw [hrun] at h h' <;> exact ⟨h, h'⟩

/-! ### Putting work together -/

theorem throw {e : ε} (h : stopped e state) :
    Ensures (MonadExcept.throw e : EStateM ε σ α) state done stopped :=
  h

/-- Work followed by more work. What holds when the first part stops must be
enough for the whole. -/
theorem bind {last : β → σ → Prop} (h : Ensures work state done stopped)
    (hstopped : ∀ e after, stopped e after → stopped' e after)
    (hnext : ∀ a after, done a after → Ensures (next a) after last stopped') :
    Ensures (work >>= next) state last stopped' := by
  cases hrun : work.run state with
  | ok a after =>
    have hlast := hnext a after (h.of_ok hrun)
    unfold Ensures at hlast ⊢
    simpa only [EStateM.run_bind, hrun] using hlast
  | error e after =>
    have hstop := hstopped e after (h.of_error hrun)
    unfold Ensures
    simpa only [EStateM.run_bind, hrun] using hstop

/-- A result, or a cause, that is known beforehand. -/
theorem ofExcept (result : Except ε α) (state : σ) :
    Ensures (MonadExcept.ofExcept result : EStateM ε σ α) state
      (fun a after => result = .ok a ∧ after = state)
      (fun e after => result = .error e ∧ after = state) := by
  cases result with
  | ok a => exact ⟨rfl, rfl⟩
  | error e => exact ⟨rfl, rfl⟩

end Ensures

/-! ### Work that gets done -/

namespace Completes

variable {work : EStateM ε σ α} {next : α → EStateM ε σ β} {state : σ}
  {done done' : α → σ → Prop} {stopped : ε → σ → Prop}

theorem exists_ok (h : Completes work state done) :
    ∃ a after, work.run state = .ok a after ∧ done a after := by
  cases hrun : work.run state with
  | ok a after => exact ⟨a, after, rfl, h.of_ok hrun⟩
  | error e after => exact (h.of_error hrun).elim

theorem mono (h : Completes work state done) (hdone : ∀ a after, done a after → done' a after) :
    Ensures work state done' stopped :=
  Ensures.mono h hdone fun _ _ hs => hs.elim

theorem bind {last : β → σ → Prop} (h : Completes work state done)
    (hnext : ∀ a after, done a after → Ensures (next a) after last stopped) :
    Ensures (work >>= next) state last stopped :=
  Ensures.bind h (fun _ _ hs => hs.elim) hnext

theorem modify (f : σ → σ) (state : σ) :
    Completes (modify f : EStateM ε σ Unit) state fun _ after => after = f state :=
  rfl

theorem get (state : σ) :
    Completes (MonadState.get : EStateM ε σ σ) state fun now after =>
      now = state ∧ after = state :=
  ⟨rfl, rfl⟩

end Completes

theorem Succeeds.completes {result : Except ε α} (h : Succeeds result) (state : σ) :
    Completes (MonadExcept.ofExcept result : EStateM ε σ α) state fun a after =>
      result = .ok a ∧ after = state := by
  obtain ⟨a, rfl⟩ := h
  exact ⟨rfl, rfl⟩

end PCFTyping
