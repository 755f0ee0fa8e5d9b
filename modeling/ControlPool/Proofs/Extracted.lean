import ControlPool.Proofs.Insertion
import ControlPool.Proofs.Scan

/-!
# What a block holds under a steady recovery

A steady recovery reads each transaction on its own, so the state of a block at a boundary is that
of the classified keys of its readable transactions, each under the signer of its transaction.
-/

namespace ControlPool

variable {ρ : Type} [SignerRecovery ρ]

/-- What a steady recovery lets a scan read of a transaction. -/
def Transaction.readingOf (recovery : ρ) (tx : Transaction) : Reading :=
  tx.payload?.bind fun payload => (signer? recovery tx).map (·, payload)

/-- The entries that a transaction leaves in the state if the recovery is steady. -/
def Transaction.stateEntries (recovery : ρ) (tx : Transaction) : List StateEntry :=
  if tx.isControl then (tx.readingOf recovery).entries else []

/-- The entries that transactions leave in the state if the recovery is steady. -/
def stateEntries (recovery : ρ) (txs : List Transaction) : List StateEntry :=
  txs.flatMap (·.stateEntries recovery)

/-- A steady recovery reads a transaction and stays as it is. -/
theorem Transaction.reading_of_steady {recovery : ρ} (hsteady : Steady recovery)
    (tx : Transaction) : tx.reading recovery = (tx.readingOf recovery, recovery) := by
  have hasked := hsteady.findSender .recoveredOnly tx
  rw [Transaction.reading, Transaction.readingOf, ← senderOf?_recoveredOnly, senderOf?]
  cases tx.payload? with
  | none => rfl
  | some payload =>
    rcases hfound : findSender .recoveredOnly recovery tx with ⟨_ | sender, asked⟩
    all_goals
      rw [hfound] at hasked
      obtain rfl : asked = recovery := hasked
      rfl

/-- A steady recovery reads each transaction on its own. -/
theorem readings_of_steady {recovery : ρ} (hsteady : Steady recovery) (txs : List Transaction) :
    readings recovery txs =
      ((txs.filter (·.isControl)).map (Transaction.readingOf recovery), recovery) := by
  induction txs with
  | nil => rfl
  | cons tx txs ih =>
    rw [readings, List.filter_cons]
    cases tx.isControl
    · exact ih
    · simp [tx.reading_of_steady hsteady, ih]

/-- The readings of a steady recovery have the entries of the transactions. -/
theorem flatMap_entries_readings {recovery : ρ} (hsteady : Steady recovery)
    (txs : List Transaction) :
    (readings recovery txs).1.flatMap Reading.entries = stateEntries recovery txs := by
  rw [readings_of_steady hsteady, stateEntries]
  induction txs with
  | nil => rfl
  | cons tx txs ih =>
    rw [List.filter_cons, List.flatMap_cons, Transaction.stateEntries, ← ih]
    cases tx.isControl <;> rfl

/-- Under a steady recovery a block at a boundary holds nothing if its transactions leave no
entries, and else the state with these entries. -/
theorem Block.extract_of_steady (block : Block) {schedule : Schedule} {recovery : ρ}
    (hsteady : Steady recovery) (hboundary : schedule.isBoundary block.header.number = true) :
    (block.extract schedule recovery).1 =
      if stateEntries recovery block.transactions = [] then
        .error (.nothingFound block.header.number)
      else .ok (.found
        ⟨block.header.number, StateMap.fresh.fileAll (stateEntries recovery block.transactions),
          ((block.transactions.filter (·.isControl)).map (·.readingOf recovery)).countP
            Option.isNone,
          (((block.transactions.filter (·.isControl)).map (·.readingOf recovery)).flatMap
            Reading.strays).length⟩) := by
  rw [block.extract_of_boundary recovery hboundary, flatMap_entries_readings hsteady,
    readings_of_steady hsteady]

/-- The state that is found in a block is that of the entries which its transactions leave. -/
theorem Block.state_of_extract {block : Block} {schedule : Schedule} {recovery : ρ}
    (hsteady : Steady recovery) {data : BlockData}
    (h : (block.extract schedule recovery).1 = .ok (.found data)) :
    data.state = StateMap.fresh.fileAll (stateEntries recovery block.transactions) := by
  rw [Block.state_eq_fileAll h, flatMap_entries_readings hsteady]

/-- An entry comes from a key of a control transaction that its sender signed. -/
theorem Transaction.mem_stateEntries_iff {recovery : ρ} {tx : Transaction} {entry : StateEntry} :
    entry ∈ tx.stateEntries recovery ↔
      tx.isControl = true ∧ ∃ payload, tx.payload? = some payload ∧
        signer? recovery tx = some entry.sender ∧
        ∃ key, (key, entry.payload) ∈ payload.entries ∧
          Kind.classify? key = some entry.kind := by
  rw [Transaction.stateEntries, Transaction.readingOf]
  constructor
  · intro h
    split at h
    · next hcontrol =>
      cases hpayload : tx.payload? with
      | none => rw [hpayload] at h; cases h
      | some payload =>
        cases hsigner : signer? recovery tx with
        | none => rw [hpayload, hsigner] at h; cases h
        | some sender =>
          rw [hpayload, hsigner] at h
          obtain ⟨⟨key, value⟩, hkey, hkind⟩ := List.mem_filterMap.mp h
          obtain ⟨kind, hclassify, rfl⟩ := Option.map_eq_some_iff.mp hkind
          exact ⟨hcontrol, payload, rfl, rfl, key, hkey, hclassify⟩
    · cases h
  · intro hsigned
    obtain ⟨hcontrol, payload, hpayload, hsigner, key, hkey, hclassify⟩ := hsigned
    rw [if_pos hcontrol, hpayload, hsigner]
    exact List.mem_filterMap.mpr ⟨(key, entry.payload), hkey, by rw [hclassify]; rfl⟩

/-- An entry of transactions is an entry of one of them. -/
theorem mem_stateEntries_iff {recovery : ρ} {txs : List Transaction} {entry : StateEntry} :
    entry ∈ stateEntries recovery txs ↔ ∃ tx ∈ txs, entry ∈ tx.stateEntries recovery :=
  List.mem_flatMap

/-- The payloads that a transaction leaves under a kind and a sender. -/
def Transaction.payloadsAt (recovery : ρ) (kind : Kind) (sender : Address) (tx : Transaction) :
    List (List UInt8) :=
  (tx.stateEntries recovery).filterMap (StateEntry.payloadAt? kind sender)

/-- The payload under a kind and a sender is the last one that the transactions leave there. -/
theorem payload?_fileAll_stateEntries (recovery : ρ) (txs : List Transaction) (kind : Kind)
    (sender : Address) :
    (StateMap.fresh.fileAll (stateEntries recovery txs)).payload? kind sender =
      (txs.flatMap (·.payloadsAt recovery kind sender)).getLast? := by
  rw [StateMap.payload?_fileAll, StateMap.payload?_fresh, Option.or_none, stateEntries,
    List.filterMap_flatMap]
  rfl

/-- A transaction leaves a payload under a kind and a sender exactly if it leaves that entry. -/
theorem Transaction.mem_payloadsAt_iff {recovery : ρ} {kind : Kind} {sender : Address}
    {tx : Transaction} {payload : List UInt8} :
    payload ∈ tx.payloadsAt recovery kind sender ↔
      ⟨kind, sender, payload⟩ ∈ tx.stateEntries recovery := by
  simp only [payloadsAt, List.mem_filterMap, StateEntry.payloadAt?_eq_some_iff,
    exists_eq_right]

/-- A transaction leaves nothing under a sender who is not its signer. -/
theorem Transaction.payloadsAt_eq_nil {recovery : ρ} {sender : Address} {tx : Transaction}
    (hsigner : signer? recovery tx ≠ some sender) (kind : Kind) :
    tx.payloadsAt recovery kind sender = [] := by
  rw [List.eq_nil_iff_forall_not_mem]
  intro payload hpayload
  obtain ⟨-, -, -, hsigned, -⟩ := mem_stateEntries_iff.mp (mem_payloadsAt_iff.mp hpayload)
  exact hsigner hsigned

/-- Transactions that leave nothing under a kind and a sender may be left out. -/
theorem flatMap_payloadsAt_filter {recovery : ρ} {kind : Kind} {sender : Address}
    {test : Transaction → Bool}
    (htest : ∀ tx, test tx = false → tx.payloadsAt recovery kind sender = [])
    (txs : List Transaction) :
    (txs.filter test).flatMap (·.payloadsAt recovery kind sender) =
      txs.flatMap (·.payloadsAt recovery kind sender) := by
  induction txs with
  | nil => rfl
  | cons tx txs ih =>
    rw [List.filter_cons, List.flatMap_cons, ← ih]
    split
    · rw [List.flatMap_cons]
    · next hother => rw [htest tx (Bool.eq_false_iff.mpr hother), List.nil_append]

/-- In a block at a boundary a payload is found wherever one of its transactions leaves an entry. -/
theorem Block.exists_payload_of_mem (block : Block) {schedule : Schedule} {recovery : ρ}
    (hsteady : Steady recovery) (hboundary : schedule.isBoundary block.header.number = true)
    {tx : Transaction} (htx : tx ∈ block.transactions) {entry : StateEntry}
    (hentry : entry ∈ tx.stateEntries recovery) :
    ∃ data payload, (block.extract schedule recovery).1 = .ok (.found data) ∧
      data.state.payload? entry.kind entry.sender = some payload := by
  have hsome : stateEntries recovery block.transactions ≠ [] :=
    List.ne_nil_of_mem (mem_stateEntries_iff.mpr ⟨tx, htx, hentry⟩)
  have hleft : entry.payload ∈
      block.transactions.flatMap (·.payloadsAt recovery entry.kind entry.sender) :=
    List.mem_flatMap.mpr ⟨tx, htx, Transaction.mem_payloadsAt_iff.mpr hentry⟩
  obtain ⟨payload, hlast⟩ := Option.isSome_iff_exists.mp
    (List.getLast?_isSome.mpr (List.ne_nil_of_mem hleft))
  rw [block.extract_of_steady hsteady hboundary, if_neg hsome]
  refine ⟨_, payload, rfl, ?_⟩
  rw [payload?_fileAll_stateEntries]
  exact hlast

end ControlPool
