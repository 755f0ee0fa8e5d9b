import ControlPool.Session
import ControlPool.Proofs.Run

/-!
# What a step of a session does to its pool

A step that offers a transaction, by itself or in a peer's message, does to the pool of a session
what the insertion of that transaction does, and answers with its failure. Apart from drains and
extractions no other step touches the pending entries or the counters.
-/

namespace ControlPool.Session

variable {ρ : Type}

/-- The transaction that a step offers to the pool. -/
def Step.offer? : Step ρ → Option Transaction
  | .insert tx => some tx
  | .handle message => message.offer?
  | _ => none

/-- The reason of the refusal that an answer reports. -/
def Answer.refusal? : Answer → Option Reason
  | .pool answer => (answer.failure?.bind PoolError.rejection?).map Rejection.reason
  | _ => none

/-- The number of payloads of a kind that an answer reports as extracted. -/
def Answer.extracted (kind : Kind) : Answer → Nat
  | .extraction (.ok (.found data)) => StateMap.bucketSize data.state kind
  | _ => 0

variable [SignerRecovery ρ]

/-- The session after steps. -/
def after (session : Session ρ) (steps : List (Step ρ)) : Session ρ := (session.run steps).2

/-- The answers to steps. -/
def answers (session : Session ρ) (steps : List (Step ρ)) : List Answer :=
  (session.run steps).1.map (·.1)

/-- The steps after the first one start from where it ends. -/
@[simp] theorem after_cons (session : Session ρ) (step : Step ρ) (steps : List (Step ρ)) :
    session.after (step :: steps) = (session.step step).2.after steps := rfl

/-- A step that offers a transaction inserts it and answers with its failure, if it fails. -/
theorem step_of_offer {session : Session ρ} {step : Step ρ} {tx : Transaction}
    (h : step.offer? = some tx) :
    ∃ answer, (session.step step).1 = .pool answer ∧
      answer.failure? = (Pool.Answer.inserted (session.pool.insert tx).1).failure? ∧
      (session.step step).2.pool = (session.pool.insert tx).2 := by
  have hpool (step : Pool.Step ρ) (h : step.offer? = some tx) :
      ∃ answer, (session.stepPool step).1 = .pool answer ∧
        answer.failure? = (Pool.Answer.inserted (session.pool.insert tx).1).failure? ∧
        (session.stepPool step).2.pool = (session.pool.insert tx).2 :=
    ⟨_, rfl, Pool.failure?_step_of_offer session.pool h, Pool.step_of_offer session.pool h⟩
  cases step with
  | insert offered => exact hpool (.insert offered) h
  | handle message => exact hpool (.handle message) h
  | _ => cases h

/-- A step that neither offers a transaction nor drains nor extracts touches neither the pending
entries nor the counters, and answers with no refusal and no payloads. -/
theorem step_of_idle {session : Session ρ} {step : Step ρ} (h : step.offer? = none)
    (hdrain : step ≠ .drain) (hextract : ∀ header txs, step ≠ .extract header txs) :
    (session.step step).2.pool.registry = session.pool.registry ∧
      (session.step step).2.pool.tally = session.pool.tally ∧
      (session.step step).1.refusal? = none ∧
      ∀ kind, (session.step step).1.extracted kind = 0 := by
  cases step with
  | insert tx => cases h
  | handle message =>
    have hpool : (session.step (.handle message)).2.pool = session.pool :=
      Pool.handle_of_no_offer session.pool h
    rw [hpool]
    refine ⟨rfl, rfl, ?_, fun _ => rfl⟩
    exact congrArg (Option.map Rejection.reason)
      (Pool.rejection?_handle_of_no_offer session.pool h)
  | drain => exact absurd rfl hdrain
  | extract header txs => exact absurd rfl (hextract header txs)
  | commit root =>
    rw [Session.step]
    cases session.extracted <;> exact ⟨rfl, rfl, rfl, fun _ => rfl⟩
  | _ => exact ⟨rfl, rfl, rfl, fun _ => rfl⟩

end ControlPool.Session
