import ControlPool.Proofs.Contribution
import ControlPool.Proofs.SessionRun
import Mathlib.Algebra.Ring.Nat

/-!
# What the counters say about a session

The counters are written apart from the registry: whether a message counts as admitted or as a
duplicate is read off the report, after all messages of the transaction were filed. The messages of
one transaction have different kinds, so their identities differ unless two texts collide, and then
the counters agree with the registry, also where a later key was refused. Every entry that was
admitted has been drained or is pending, every refusal that was answered is counted once under its
reason, and every payload that was extracted is counted under its kind.
-/

namespace ControlPool

namespace Pool

variable {ρ : Type} [SignerRecovery ρ]

/-- The admitted messages of a transaction that find their identity pending. -/
def known (pool : Pool ρ) (tx : Transaction) : List Message :=
  (pool.admitted tx).filter fun message => pool.registry.contains message.identity

end Pool

namespace Session

variable {ρ : Type}

/-- The number of a counter. -/
def count (session : Session ρ) (counter : Counter) : Nat := session.pool.tally.count counter

/-- What happens from one session to a later one is in the accounts: what is admitted is drained or
pending, and the messages that were known, the refusals and the payloads that were answered are
counted. -/
structure Accounts (before : Session ρ) (known : List Message) (answers : List Answer)
    (after : Session ρ) : Prop where
  balance : after.count .admitted + before.count .drained + before.pool.pending =
    before.count .admitted + after.count .drained + after.pool.pending
  duplicates : after.count .duplicates = before.count .duplicates + known.length
  rejected : ∀ reason, after.count (.rejected reason) =
    before.count (.rejected reason) + answers.countP (·.refusal? = some reason)
  extracted : ∀ kind, after.count (.extracted kind) =
    before.count (.extracted kind) + (answers.map (·.extracted kind)).sum

/-- The accounts of two parts of a run are those of the whole. -/
theorem Accounts.trans {first second third : Session ρ} {known later : List Message}
    {answers others : List Answer} (h : Accounts first known answers second)
    (hlater : Accounts second later others third) :
    Accounts first (known ++ later) (answers ++ others) third where
  balance := by
    have hbalance := h.balance
    have hbalance' := hlater.balance
    omega
  duplicates := by
    rw [hlater.duplicates, h.duplicates, List.length_append, Nat.add_assoc]
  rejected reason := by
    rw [hlater.rejected, h.rejected, List.countP_append, Nat.add_assoc]
  extracted kind := by
    rw [hlater.extracted, h.extracted, List.map_append, List.sum_append, Nat.add_assoc]

variable [SignerRecovery ρ]

/-- The messages that are admitted by a step. -/
def admittedBy (session : Session ρ) (step : Step ρ) : List Message :=
  step.offer?.elim [] session.pool.admitted

/-- Whether at no step of a run the texts of two admitted messages collide. -/
def Collisionless (session : Session ρ) (steps : List (Step ρ)) : Prop :=
  ∀ before step since, steps = before ++ step :: since →
    Pool.Collisionless ((session.after before).admittedBy step)

namespace Accounts

/-- A drain is in the accounts. -/
theorem of_drain (session : Session ρ) :
    Accounts session [] [(session.step .drain).1] (session.step .drain).2 := by
  have hcount (counter : Counter) : (session.step .drain).2.count counter =
      session.count counter + if counter = .drained then session.pool.pending else 0 := rfl
  have hpending : (session.step .drain).2.pool.pending = 0 := rfl
  constructor
  · rw [hcount, hcount, hpending]
    simp only [reduceCtorEq, if_true, if_false]
    omega
  · exact hcount .duplicates
  · exact fun reason => hcount (.rejected reason)
  · exact fun kind => hcount (.extracted kind)

end Accounts

namespace Sample

open Pool.Sample

/-- A session in which the validator holds its role. -/
def session : Session SignerTable :=
  new config ⟨150, default⟩ (RoleTable.empty.addMember .validator validator) table

end Sample

end Session

end ControlPool
