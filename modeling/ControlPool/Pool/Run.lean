import ControlPool.Ingress

/-!
# Runs of a pool

A run is a sequence of steps: transactions and peers' messages come in, pending transactions are
drained, and between them the head, the roles and the recovery may change in any way.
-/

namespace ControlPool.Pool

/-- A step of a run. A peer's message may offer a transaction too. -/
inductive Step (ρ : Type) where
  | insert (tx : Transaction)
  | handle (message : PeerMessage)
  | drain
  | surround (surroundings : Surroundings)
  | recovery (change : ρ → ρ)

/-- The answer to a step, if it asks for one. -/
inductive Answer where
  | inserted (result : Except PoolError FilingReport)
  | handled (result : Except PoolError (Option FilingReport))
  | drained (groups : BySender)
  | done

variable {ρ : Type} [SignerRecovery ρ]

/-- Takes one step. -/
def step (pool : Pool ρ) : Step ρ → Answer × Pool ρ
  | .insert tx =>
    let (result, pool) := pool.insert tx
    (.inserted result, pool)
  | .handle message =>
    let (result, pool) := pool.handle message
    (.handled result, pool)
  | .drain =>
    let (groups, pool) := pool.drain
    (.drained groups, pool)
  | .surround surroundings => (.done, { pool with surroundings })
  | .recovery change => (.done, { pool with recovery := change pool.recovery })

/-- Takes steps one after the other. -/
def run (pool : Pool ρ) : List (Step ρ) → List Answer × Pool ρ
  | [] => ([], pool)
  | s :: steps =>
    let (answer, pool) := pool.step s
    let (answers, pool) := run pool steps
    (answer :: answers, pool)

end ControlPool.Pool
