import ControlPool.Proofs.Offer
import ControlPool.Proofs.Provenance

/-!
# What inclusion in a block implies

A block of drained transactions holds a payload only if a step of the run offered the transaction
that carries it. Extraction does not judge the keys again: it also files those at and behind the
first refused key of a transaction that is pending for an earlier key. All other payloads come from
keys that were admitted for the kind and the sender under which they are found.
-/

namespace ControlPool.Pool

variable {ρ : Type} [SignerRecovery ρ]

/-- Every payload that a block of drained transactions holds was admitted for its kind and sender
by a step of the run since the last drain, or overlooked by a step that failed. -/
theorem extracted_entry_admitted_or_overlooked (config : Config) (surroundings : Surroundings)
    (recovery : ρ) (steps : List (Step ρ)) (block : Block) (data : BlockData)
    (entry : StateEntry) (hpolicy : config.senderPolicy = .recoveredOnly)
    (hsteady : Steady recovery) (hkeeps : KeepsRecovery steps)
    (hdrained : ∀ tx ∈ block.transactions,
      tx ∈ ((new config surroundings recovery).after steps).drain.1.all)
    (hfound : (block.extract config.schedule recovery).1 = .ok (.found data))
    (hpayload : data.state.payload? entry.kind entry.sender = some entry.payload) :
    ∃ offer : Offer (new config surroundings recovery) steps, .drain ∉ offer.since ∧
      offer.transaction ∈ block.transactions ∧ (offer.Admits entry ∨ offer.Overlooks entry) := by
  have hrecovery : ((new config surroundings recovery).after steps).recovery = recovery :=
    after_recovery_of_steady hsteady hkeeps
  rw [Block.state_of_extract hsteady hfound, payload?_fileAll_stateEntries] at hpayload
  obtain ⟨tx, htx, hentry⟩ := List.mem_flatMap.mp (List.mem_of_getLast? hpayload)
  rw [Transaction.mem_payloadsAt_iff] at hentry
  obtain ⟨arrival, hpending, harrival, -⟩ :=
    (mem_all_drain_of_steady (by rw [hrecovery]; exact hsteady)).mp (hdrained tx htx)
  obtain ⟨filing, hfiling, -⟩ := exists_filing rfl hpending
  have hsame : filing.transaction = tx := hfiling.trans harrival
  obtain ⟨offer, hfiles⟩ := filing.exists_offer
  rw [← hsame, ← hfiles.transaction_eq] at hentry
  refine ⟨offer, hfiles.undrained, ?_, ?_⟩
  · rw [hfiles.transaction_eq, hsame]
    exact htx
  · obtain ⟨key, -⟩ := hfiles.exists_key
    exact offer.admits_or_overlooks ⟨key⟩
      (offer.signer?_of_recoveredOnly hsteady hkeeps hpolicy) hentry

namespace Sample

/-- The pool after steps, from an empty one. -/
def poolAfter (steps : List (Step SignerTable)) : Pool SignerTable :=
  (new config surroundings table).after steps

/-- The last of the steps inserts a transaction. -/
theorem poolAfter_insert (steps : List (Step SignerTable)) (tx : Transaction) :
    poolAfter (steps ++ [.insert tx]) = ((poolAfter steps).insert tx).2 := by
  rw [poolAfter, after_append]
  rfl

/-- A block at a boundary with what a drain after steps hands out. -/
def blockAfter (steps : List (Step SignerTable)) : Block :=
  ⟨⟨200, default, default⟩, (poolAfter steps).drain.1.all⟩

/-- The transactions of the block are listed by the drain. -/
theorem lists_blockAfter (steps : List (Step SignerTable)) :
    ((new config surroundings table).after steps).drain.1.Lists (blockAfter steps).transactions :=
  ⟨_, .refl _, rfl⟩

/-- What the block holds after the half refused transaction. -/
def halfRefusedData : BlockData :=
  ⟨200, StateMap.fresh.fileAll [⟨.publicKey, validator, [1]⟩, ⟨.rollCall, validator, [2]⟩], 0, 0⟩

end Sample

/-- A block holds the roll call that was refused in the only step of the run. -/
theorem refused_rollCall_extracted :
    ((Sample.blockAfter [.insert Sample.halfRefused]).extract Sample.config.schedule
        Sample.table).1 = .ok (.found Sample.halfRefusedData) ∧
      Sample.halfRefusedData.state.payload? .rollCall Sample.validator = some [2] ∧
      ∀ offer : Offer (new Sample.config Sample.surroundings Sample.table)
        [.insert Sample.halfRefused], ¬offer.Admits ⟨.rollCall, Sample.validator, [2]⟩ := by
  refine ⟨by rfl, by rfl, ?_⟩
  intro offer hadmits
  obtain ⟨⟨before, step, since, hsteps, tx, hoffers⟩, hearing, hhears⟩ := offer
  obtain ⟨-, admitted, hkind, -⟩ := hadmits
  cases before with
  | cons first before => simp at hsteps
  | nil =>
    obtain rfl : .insert Sample.halfRefused = step := (List.cons.inj hsteps).1
    obtain rfl : Sample.halfRefused = tx := Option.some.inj hoffers
    have hadmitted : (new Sample.config Sample.surroundings Sample.table).admitted
        Sample.halfRefused = [⟨.publicKey, 2, Sample.validator, [1]⟩] := by decide +kernel
    have hmessage := mem_admitted_iff.mpr ⟨hearing, hhears, admitted, rfl⟩
    rw [after_nil, hadmitted, List.mem_singleton] at hmessage
    have hpublic : admitted.message.kind = .publicKey := congrArg Message.kind hmessage
    rw [hkind] at hpublic
    cases hpublic

/-- The refused roll call in a block is overlooked by the step that failed. -/
theorem extracted_rollCall_overlooked :
    ∃ offer : Offer (new Sample.config Sample.surroundings Sample.table)
        [.insert Sample.halfRefused], .drain ∉ offer.since ∧
      offer.transaction ∈ (Sample.blockAfter [.insert Sample.halfRefused]).transactions ∧
      (offer.Admits ⟨.rollCall, Sample.validator, [2]⟩ ∨
        offer.Overlooks ⟨.rollCall, Sample.validator, [2]⟩) :=
  extracted_entry_admitted_or_overlooked Sample.config Sample.surroundings Sample.table
    [.insert Sample.halfRefused] (Sample.blockAfter [.insert Sample.halfRefused])
    Sample.halfRefusedData ⟨.rollCall, Sample.validator, [2]⟩ rfl Sample.table.steady
    (by simp [KeepsRecovery]) (fun tx htx => htx) (by rfl) (by rfl)

end ControlPool.Pool
