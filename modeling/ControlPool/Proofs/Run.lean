import ControlPool.Pool.Run
import ControlPool.Proofs.Drain

/-!
# What a run does to the pending entries

A step that offers a transaction, by itself or in a peer's message, does to the pool what the
insertion of that transaction does, and no other step but a drain touches the pending entries. The
configuration never changes, and a recovery that stays as it is when it is asked changes only by a
step that changes it.
-/

namespace ControlPool

/-- The transaction that a peer's message offers. -/
def PeerMessage.offer? (message : PeerMessage) : Option Transaction :=
  match message.entries with
  | ⟨.broadcast, data⟩ :: _ => Transaction.ofJsonText? data
  | _ => none

namespace Pool

variable {ρ : Type}

/-- The transaction that a step offers to the pool. -/
def Step.offer? : Step ρ → Option Transaction
  | .insert tx => some tx
  | .handle message => message.offer?
  | _ => none

/-- An insertion offers its transaction. -/
@[simp] theorem Step.offer?_insert (tx : Transaction) :
    (Step.insert tx : Step ρ).offer? = some tx := rfl

/-- A step of a run that offers a transaction, with the steps before it and since. -/
structure Submission (steps : List (Step ρ)) where
  before : List (Step ρ)
  step : Step ρ
  since : List (Step ρ)
  steps_eq : steps = before ++ step :: since
  transaction : Transaction
  offers : step.offer? = some transaction

/-- Whether a transaction is offered at an earlier step than another. -/
def Submission.Earlier {steps : List (Step ρ)} (first second : Submission steps) : Prop :=
  first.before.length < second.before.length

/-- Between the steps of an earlier submission and a later one stand other steps. -/
theorem Submission.exists_between {steps : List (Step ρ)} {first second : Submission steps}
    (h : first.Earlier second) :
    ∃ between, second.before = first.before ++ first.step :: between ∧
      first.since = between ++ second.step :: second.since := by
  have hsteps := first.steps_eq.symm.trans second.steps_eq
  rcases List.append_eq_append_iff.mp hsteps with ⟨more, hbefore, hrest⟩ | ⟨more, hbefore, -⟩
  · cases more with
    | nil =>
      rw [Earlier, hbefore, List.append_nil] at h
      exact absurd h (Nat.lt_irrefl _)
    | cons step between =>
      have hstep : first.step = step := (List.cons.inj hrest).1
      exact ⟨between, by rw [hbefore, hstep], (List.cons.inj hrest).2⟩
  · rw [Earlier, hbefore, List.length_append] at h
    omega

/-- The failure that an answer reports. -/
def Answer.failure? : Answer → Option PoolError
  | .inserted (.error failure) => some failure
  | .handled (.error failure) => some failure
  | _ => none

variable [SignerRecovery ρ]

/-- A message that offers a transaction is handled by inserting it. -/
theorem handle_of_offer {message : PeerMessage} {tx : Transaction} (pool : Pool ρ)
    (h : message.offer? = some tx) :
    pool.handle message = ((pool.insert tx).1.map some, (pool.insert tx).2) := by
  rw [PeerMessage.offer?] at h
  split at h
  · next data rest hentries => simp only [handle, hentries, h]
  · cases h

/-- A message that offers nothing leaves the pool as it is. -/
theorem handle_of_no_offer {message : PeerMessage} (pool : Pool ρ) (h : message.offer? = none) :
    (pool.handle message).2 = pool := by
  rw [PeerMessage.offer?] at h
  rw [handle]
  split at h
  · next data rest hentries => simp only [hentries, h]
  · next hother =>
    split
    · rfl
    · rfl
    · next data rest hentries => exact absurd hentries (hother data rest)

/-- An answer to a message that offers nothing does not depend on the pool. -/
theorem handle_answer_of_no_offer {message : PeerMessage} (h : message.offer? = none)
    (pool other : Pool ρ) : (pool.handle message).1 = (other.handle message).1 := by
  rw [PeerMessage.offer?] at h
  rw [handle, handle]
  split at h
  · next data rest hentries => simp only [hentries, h]
  · next hother =>
    split
    · rfl
    · rfl
    · next data rest hentries => exact absurd hentries (hother data rest)

/-- The answer to a message that offers nothing is no refusal. -/
theorem rejection?_handle_of_no_offer {message : PeerMessage} (pool : Pool ρ)
    (h : message.offer? = none) :
    (Answer.handled (pool.handle message).1).failure?.bind PoolError.rejection? = none := by
  rw [PeerMessage.offer?] at h
  rw [handle]
  split at h
  · next data rest hentries => simp only [hentries, h]; rfl
  · next hother =>
    split
    · rfl
    · rfl
    · next data rest hentries => exact absurd hentries (hother data rest)

/-- An offered transaction is inserted. -/
theorem step_of_offer {step : Step ρ} {tx : Transaction} (pool : Pool ρ)
    (h : step.offer? = some tx) : (pool.step step).2 = (pool.insert tx).2 := by
  cases step with
  | insert offered =>
    obtain rfl : offered = tx := Option.some.inj h
    rfl
  | handle message => rw [Pool.step, handle_of_offer pool h]
  | drain => cases h
  | surround surroundings => cases h
  | recovery change => cases h

/-- A step that offers a transaction reports the failure of its insertion. -/
theorem failure?_step_of_offer {step : Step ρ} {tx : Transaction} (pool : Pool ρ)
    (h : step.offer? = some tx) :
    (pool.step step).1.failure? = (Answer.inserted (pool.insert tx).1).failure? := by
  cases step with
  | insert offered =>
    obtain rfl : offered = tx := Option.some.inj h
    rfl
  | handle message =>
    rw [Pool.step, handle_of_offer pool h]
    cases (pool.insert tx).1 <;> rfl
  | drain => cases h
  | surround surroundings => cases h
  | recovery change => cases h

/-- A step that offers a transaction which is heard reports the failure of the judgement. -/
theorem failure?_step_of_hearing {pool : Pool ρ} {step : Step ρ} {tx : Transaction}
    {hearing : Hearing} (hoffer : step.offer? = some tx) (h : pool.hearing? tx = some hearing) :
    (pool.step step).1.failure? = hearing.judge.2 := by
  rw [failure?_step_of_offer pool hoffer, insert_answer_of_hearing h]
  cases hearing.judge.2 <;> rfl

/-- A step that neither offers a transaction nor drains keeps the registry. -/
theorem step_registry_of_no_offer {step : Step ρ} (pool : Pool ρ) (h : step.offer? = none)
    (hdrain : step ≠ .drain) : (pool.step step).2.registry = pool.registry := by
  cases step with
  | insert tx => cases h
  | handle message => rw [Pool.step, handle_of_no_offer pool h]
  | drain => exact absurd rfl hdrain
  | surround surroundings => rfl
  | recovery change => rfl

/-- A drain leaves nothing pending. -/
theorem step_drain_entries (pool : Pool ρ) : (pool.step .drain).2.registry.entries = [] := rfl

/-- No step changes the configuration. -/
theorem step_config (pool : Pool ρ) (step : Step ρ) : (pool.step step).2.config = pool.config := by
  cases hoffer : step.offer? with
  | some tx => rw [step_of_offer pool hoffer, insert_config]
  | none =>
    cases step with
    | insert tx => cases hoffer
    | handle message => rw [Pool.step, handle_of_no_offer pool hoffer]
    | drain => rfl
    | surround surroundings => rfl
    | recovery change => rfl

/-- A steady recovery changes only if it is made to. -/
theorem step_recovery_of_steady {pool : Pool ρ} (hsteady : Steady pool.recovery) {step : Step ρ}
    (hstep : ∀ change, step ≠ .recovery change) :
    (pool.step step).2.recovery = pool.recovery := by
  cases hoffer : step.offer? with
  | some tx => rw [step_of_offer pool hoffer, insert_recovery_of_steady hsteady]
  | none =>
    cases step with
    | insert tx => cases hoffer
    | handle message => rw [Pool.step, handle_of_no_offer pool hoffer]
    | drain => exact drain_recovery_of_steady hsteady
    | surround surroundings => rfl
    | recovery change => exact absurd rfl (hstep change)

/-- The pool after steps. -/
def after (pool : Pool ρ) (steps : List (Step ρ)) : Pool ρ := (pool.run steps).2

/-- Nothing has happened after no steps. -/
@[simp] theorem after_nil (pool : Pool ρ) : pool.after [] = pool := rfl

/-- The steps after the first one start from where it ends. -/
@[simp] theorem after_cons (pool : Pool ρ) (step : Step ρ) (steps : List (Step ρ)) :
    pool.after (step :: steps) = (pool.step step).2.after steps := rfl

/-- The later of two runs starts from where the earlier ends. -/
theorem after_append (pool : Pool ρ) (before since : List (Step ρ)) :
    pool.after (before ++ since) = (pool.after before).after since := by
  induction before generalizing pool with
  | nil => rfl
  | cons step before ih => rw [List.cons_append, after_cons, after_cons, ih]

/-- No run changes the configuration. -/
theorem after_config (pool : Pool ρ) (steps : List (Step ρ)) :
    (pool.after steps).config = pool.config := by
  induction steps generalizing pool with
  | nil => rfl
  | cons step steps ih => rw [after_cons, ih, step_config]

/-- Whether no step changes the recovery. -/
def KeepsRecovery (steps : List (Step ρ)) : Prop := ∀ change, Step.recovery change ∉ steps

/-- A steady recovery outlasts a run that does not change it. -/
theorem after_recovery_of_steady {pool : Pool ρ} (hsteady : Steady pool.recovery)
    {steps : List (Step ρ)} (hkeeps : KeepsRecovery steps) :
    (pool.after steps).recovery = pool.recovery := by
  induction steps generalizing pool with
  | nil => rfl
  | cons step steps ih =>
    have hstep := step_recovery_of_steady hsteady
      fun change heq => hkeeps change (heq ▸ List.mem_cons_self)
    rw [after_cons, ih (by rw [hstep]; exact hsteady)
      fun change hmem => hkeeps change (List.mem_cons_of_mem _ hmem), hstep]

/-- A steady recovery outlasts the first part of such a run. -/
theorem after_recovery_of_part {pool : Pool ρ} (hsteady : Steady pool.recovery)
    {steps before since : List (Step ρ)} (hkeeps : KeepsRecovery steps)
    (hsteps : steps = before ++ since) : (pool.after before).recovery = pool.recovery := by
  apply after_recovery_of_steady hsteady
  intro change hmem
  apply hkeeps change
  rw [hsteps]
  exact List.mem_append_left _ hmem

end Pool

end ControlPool
