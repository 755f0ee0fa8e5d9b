import ControlPool.Proofs.Inclusion

/-!
# What is filed is not lost

A message that is filed stays pending until the next drain, which finds its sender again and hands
its transaction out. A block at a boundary that holds the drained transactions holds an entry for
the kind and the sender of the message if the sender is the signer of the transaction. Whatever else
stands in the block can replace the payload of the entry but not remove it, and it makes no
difference how the pool finds senders or what the steps of the run answered.
-/

namespace ControlPool.Pool

variable {ρ : Type} [SignerRecovery ρ]

/-- The next drain hands out the transaction of a filed message for the sender of the message. -/
theorem Filing.mem_of_drain {pool : Pool ρ} {steps : List (Step ρ)} (filing : Filing pool steps)
    (hsteady : Steady pool.recovery) (hkeeps : KeepsRecovery steps) :
    filing.transaction ∈ (pool.after steps).drain.1.of filing.message.sender := by
  have hrecovery : (pool.after steps).recovery = pool.recovery :=
    after_recovery_of_steady hsteady hkeeps
  obtain ⟨entry, hentry, htransaction, -⟩ := filing.exists_entry
  rw [of_drain_of_steady (by rw [hrecovery]; exact hsteady), after_config, hrecovery,
    List.mem_filter, decide_eq_true_eq]
  refine ⟨?_, filing.senderOf?_eq hsteady hkeeps⟩
  rw [htransaction]
  exact List.mem_map_of_mem hentry

/-- Every filed message whose sender signed its transaction is handed out by the next drain, and a
block at a boundary with the drained transactions holds an entry for its kind and its sender. -/
theorem filing_reaches_state (pool : Pool ρ) (steps : List (Step ρ)) (filing : Filing pool steps)
    (block : Block) (hsteady : Steady pool.recovery) (hkeeps : KeepsRecovery steps)
    (hsigned : signer? pool.recovery filing.transaction = some filing.message.sender)
    (hboundary : pool.config.schedule.isBoundary block.header.number = true)
    (hdrained : ∀ tx ∈ (pool.after steps).drain.1.all, tx ∈ block.transactions) :
    filing.transaction ∈ (pool.after steps).drain.1.of filing.message.sender ∧
      ∃ data payload, (block.extract pool.config.schedule pool.recovery).1 = .ok (.found data) ∧
        data.state.payload? filing.message.kind filing.message.sender = some payload := by
  have hof := filing.mem_of_drain hsteady hkeeps
  refine ⟨hof, ?_⟩
  exact block.exists_payload_of_mem hsteady hboundary
    (hdrained _ (mem_all_iff.mpr ⟨_, hof⟩)) (filing.mem_stateEntries hsigned)

namespace Sample

/-- A run in which the public key is filed, then reported as a duplicate beside a refused key. -/
def repeated : List (Step SignerTable) := [.insert announced, .insert halfRefused]

/-- A block in which an unsigned transaction and a key that was never offered stand around the
drained ones. -/
def crowded : Block :=
  ⟨⟨200, default, default⟩, Transaction.carrying 1 3 (.ofList [("publickey2", [8])]) ::
    (((new config surroundings table).after repeated).drain.1.all ++
      [signed 4 [("publickey7", [9])]])⟩

end Sample

/-- The public key that the first step files is drained and has an entry in the crowded block. -/
theorem publicKey_reaches_state :
    Sample.announced ∈ ((new Sample.config Sample.surroundings Sample.table).after
        Sample.repeated).drain.1.of Sample.validator ∧
      ∃ data payload,
        (Sample.crowded.extract Sample.config.schedule Sample.table).1 = .ok (.found data) ∧
        data.state.payload? .publicKey Sample.validator = some payload :=
  filing_reaches_state (new Sample.config Sample.surroundings Sample.table) Sample.repeated
    (Sample.publicKeyFiling [.insert Sample.halfRefused] (by simp)) Sample.crowded
    Sample.table.steady (by simp [KeepsRecovery, Sample.repeated]) (by rfl) (by decide)
    (fun tx htx => List.mem_cons_of_mem _ (List.mem_append_left _ htx))

end ControlPool.Pool
