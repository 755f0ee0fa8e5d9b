import ControlPool.Proofs.Boundary
import ControlPool.Proofs.Scan

/-!
# What an extraction reports

A block that is not at a boundary is left alone. At a boundary the recovery is asked once about each
control transaction whose body can be read, in block order, and about no other; its answers may
change from one question to the next. The keys of the bodies whose signer is found are the signed
keys of the block. They are either classified or stray. The block holds nothing if all are stray,
and else under each kind and sender the value of the last signed key of that kind and sender.
-/

namespace ControlPool

/-- The control transactions among transactions. -/
def controls (txs : List Transaction) : List Transaction := txs.filter (·.isControl)

/-- The control transactions among transactions whose body can be read, with their bodies. -/
def legible (txs : List Transaction) : List (Transaction × Payload) :=
  (controls txs).filterMap fun tx => tx.payload?.map (tx, ·)

/-- A transaction is among the control transactions if it is one. -/
theorem controls_cons (tx : Transaction) (txs : List Transaction) :
    controls (tx :: txs) = if tx.isControl then tx :: controls txs else controls txs :=
  List.filter_cons

/-- A control transaction is legible if its body can be read. -/
theorem legible_cons (tx : Transaction) (txs : List Transaction) :
    legible (tx :: txs) =
      if tx.isControl then (tx.payload?.map (tx, ·)).toList ++ legible txs else legible txs := by
  rw [legible, controls_cons]
  split
  · cases hpayload : tx.payload? <;> simp [legible, hpayload]
  · rfl

/-- A body that was read, with the signer of its transaction if one was found. -/
structure SignedBody where
  signer? : Option Address
  payload : Payload

/-- A key of a body whose signer was found. -/
structure SignedKey where
  sender : Address
  key : String
  value : List UInt8

/-- The keys of a body, in key order, if its signer was found. -/
def SignedBody.keys (body : SignedBody) : List SignedKey :=
  match body.signer? with
  | none => []
  | some sender => body.payload.entries.map fun entry => ⟨sender, entry.1, entry.2⟩

/-- The kind to which a key is classified. -/
def SignedKey.kind? (key : SignedKey) : Option Kind := Kind.classify? key.key

/-- What a body with its signer is to a scan. -/
def SignedBody.reading (body : SignedBody) : Reading := body.signer?.map (·, body.payload)

/-- The entry that a key becomes if it is classified. -/
def SignedKey.written? (key : SignedKey) : Option StateEntry :=
  key.kind?.map (⟨·, key.sender, key.value⟩)

/-- The entries of a body are those of its keys. -/
theorem SignedBody.entries_reading (body : SignedBody) :
    body.reading.entries = body.keys.filterMap SignedKey.written? := by
  obtain ⟨_ | sender, payload⟩ := body
  · rfl
  · change payload.entries.filterMap _ = (payload.entries.map _).filterMap _
    rw [List.filterMap_map]
    rfl

/-- The stray keys of a body are those of its keys that are not classified. -/
theorem SignedBody.strays_reading (body : SignedBody) :
    body.reading.strays = (body.keys.filter (·.kind?.isNone)).map (·.key) := by
  obtain ⟨_ | sender, payload⟩ := body
  · rfl
  · change (payload.entries.map _).filter _ = ((payload.entries.map _).filter _).map _
    rw [List.filter_map, List.filter_map, List.map_map]
    rfl

/-- A key has its value under a kind and a sender if they are its own. -/
theorem SignedKey.bind_payloadAt? (key : SignedKey) (kind : Kind) (sender : Address) :
    key.written?.bind (StateEntry.payloadAt? kind sender) =
      (Option.guard (fun key : SignedKey => key.kind? = some kind ∧ key.sender = sender) key).map
        (·.value) := by
  obtain ⟨signer, name, value⟩ := key
  rw [written?]
  cases hkind : kind? ⟨signer, name, value⟩ <;>
    simp [StateEntry.payloadAt?, Option.guard, hkind, apply_ite]

variable {ρ : Type} [SignerRecovery ρ]

/-- Asks for the signers of transactions with readable bodies one after the other. -/
def askSigners (recovery : ρ) : List (Transaction × Payload) → List SignedBody × ρ
  | [] => ([], recovery)
  | (tx, payload) :: rest =>
    let (answer, recovery) := SignerRecovery.recover recovery tx
    let (bodies, recovery) := askSigners recovery rest
    (⟨answer.toOption, payload⟩ :: bodies, recovery)

/-- The readable bodies of a block with their signers. -/
def Block.signedBodies (block : Block) (recovery : ρ) : List SignedBody :=
  (askSigners recovery (legible block.transactions)).1

/-- The keys of a block whose bodies can be read and whose signers are found, in block order and
then in key order. -/
def Block.signedKeys (block : Block) (recovery : ρ) : List SignedKey :=
  (block.signedBodies recovery).flatMap SignedBody.keys

/-- The signature is asked only if the body can be read. -/
theorem Transaction.reading_eq (tx : Transaction) (recovery : ρ) :
    tx.reading recovery =
      match tx.payload? with
      | none => (none, recovery)
      | some payload =>
        ((SignerRecovery.recover recovery tx).1.toOption.map (·, payload),
          (SignerRecovery.recover recovery tx).2) := by
  rw [reading]
  cases tx.payload? with
  | none => rfl
  | some payload =>
    have hfind : findSender .recoveredOnly recovery tx = recoverSigner recovery tx := rfl
    simp only [hfind, recoverSigner]
    rcases SignerRecovery.recover recovery tx with ⟨_ | signer, asked⟩ <;> rfl

/-- What readings yield is what the readable bodies with their signers yield, if a reading that is
missing yields nothing. -/
theorem flatMap_readings {β : Type} {f : Reading → List β} (hmissing : f none = [])
    (recovery : ρ) (txs : List Transaction) :
    (readings recovery txs).1.flatMap f =
      (askSigners recovery (legible txs)).1.flatMap fun body => f body.reading := by
  induction txs generalizing recovery with
  | nil => rfl
  | cons tx txs ih =>
    cases hcontrol : tx.isControl with
    | false => simp [readings, legible_cons, hcontrol, ih]
    | true =>
      cases hpayload : tx.payload? with
      | none => simp [readings, legible_cons, hcontrol, tx.reading_eq, hpayload, hmissing, ih]
      | some payload =>
        simp [readings, legible_cons, hcontrol, tx.reading_eq, hpayload, askSigners,
          SignedBody.reading, ih]

/-- A reading is missing for each control transaction whose body cannot be read, and for each
readable body without a signer. -/
theorem countP_isNone_readings (recovery : ρ) (txs : List Transaction) :
    (readings recovery txs).1.countP Option.isNone =
      (controls txs).countP (·.payload?.isNone) +
        (askSigners recovery (legible txs)).1.countP (·.signer?.isNone) := by
  induction txs generalizing recovery with
  | nil => rfl
  | cons tx txs ih =>
    cases hcontrol : tx.isControl with
    | false => simp [readings, controls_cons, legible_cons, hcontrol, ih]
    | true =>
      cases hpayload : tx.payload? with
      | none =>
        have hrest := ih recovery
        simp [readings, controls_cons, legible_cons, hcontrol, tx.reading_eq, hpayload, hrest]
        omega
      | some payload =>
        have hrest := ih (SignerRecovery.recover recovery tx).2
        simp [readings, controls_cons, legible_cons, hcontrol, tx.reading_eq, hpayload, askSigners,
          List.countP_cons, hrest]
        omega

/-- A recovery that writes down the transactions it is asked about, first one first. -/
structure Recorded (ρ : Type) where
  inner : ρ
  asked : List Transaction

instance : SignerRecovery (Recorded ρ) where
  recover recorded tx :=
    ((SignerRecovery.recover recorded.inner tx).1,
      ⟨(SignerRecovery.recover recorded.inner tx).2, recorded.asked ++ [tx]⟩)

/-- Reading one transaction asks about it if it has a readable body. -/
theorem Transaction.reading_recorded (tx : Transaction) (recovery : ρ) (before : List Transaction) :
    tx.reading (⟨recovery, before⟩ : Recorded ρ) =
      ((tx.reading recovery).1,
        ⟨(tx.reading recovery).2, before ++ (tx.payload?.map fun _ => tx).toList⟩) := by
  rw [reading_eq, reading_eq]
  cases tx.payload? with
  | none => simp
  | some payload => rfl

/-- Reading transactions asks about those with readable bodies, each once and in their order. -/
theorem readings_recorded (recovery : ρ) (before : List Transaction) (txs : List Transaction) :
    readings (⟨recovery, before⟩ : Recorded ρ) txs =
      ((readings recovery txs).1,
        ⟨(readings recovery txs).2, before ++ (legible txs).map (·.1)⟩) := by
  induction txs generalizing recovery before with
  | nil => simp [readings, legible, controls]
  | cons tx txs ih =>
    cases hcontrol : tx.isControl with
    | false => simp [readings, legible_cons, hcontrol, ih]
    | true =>
      simp only [readings, hcontrol, if_true, tx.reading_recorded, ih, legible_cons]
      cases tx.payload? <;> simp

/-- Extraction asks whatever its readings ask, and nothing off the boundaries. -/
theorem Block.extract_recovery (block : Block) (schedule : Schedule) (recovery : ρ) :
    (block.extract schedule recovery).2 =
      if schedule.isBoundary block.header.number then (readings recovery block.transactions).2
      else recovery := by
  rw [extract, Scan.addTransactions_eq]
  split
  · simp only
    split <;> rfl
  · rfl

/-- Extraction is the same with a recovery that is recorded, and it asks about the transactions with
readable bodies, each once and in block order, if the block is at a boundary, and else about none.
-/
theorem Block.extract_recorded (block : Block) (schedule : Schedule) (recovery : ρ)
    (before : List Transaction) :
    block.extract schedule (⟨recovery, before⟩ : Recorded ρ) =
      ((block.extract schedule recovery).1,
        ⟨(block.extract schedule recovery).2,
          before ++ if schedule.isBoundary block.header.number then
            (legible block.transactions).map (·.1) else []⟩) := by
  apply Prod.ext
  · by_cases hboundary : schedule.isBoundary block.header.number = true
    · rw [block.extract_of_boundary _ hboundary, block.extract_of_boundary _ hboundary,
        readings_recorded]
    · rw [extract, extract, if_neg hboundary, if_neg hboundary]
  · rw [block.extract_recovery, block.extract_recovery, readings_recorded]
    split <;> simp

/-- What the data of a block say of it: control transactions without a readable body or a signer are
counted as skipped, signed keys without a kind as unclassified, and under a kind and a sender stands
the value of their last signed key, or nothing. -/
structure BlockData.Reports (data : BlockData) (block : Block) (recovery : ρ) : Prop where
  height : data.height = block.header.number
  skipped : data.skipped = (controls block.transactions).countP (·.payload?.isNone) +
    (block.signedBodies recovery).countP (·.signer?.isNone)
  unclassified : data.unclassified = (block.signedKeys recovery).countP (·.kind?.isNone)
  classified : (block.signedKeys recovery).countP (·.kind?.isSome) + data.unclassified =
    (block.signedKeys recovery).length
  buckets : ∀ kind, (data.state.bucket? kind).isSome = true
  payloads : ∀ kind sender, data.state.payload? kind sender =
    ((block.signedKeys recovery).filter fun key =>
      key.kind? = some kind ∧ key.sender = sender).getLast?.map (·.value)

/-- The entries of a block are those of its classified keys. -/
theorem Block.flatMap_entries_readings (block : Block) (recovery : ρ) :
    (readings recovery block.transactions).1.flatMap Reading.entries =
      (block.signedKeys recovery).filterMap SignedKey.written? := by
  rw [flatMap_readings rfl, signedKeys,
    List.filterMap_flatMap]
  simp only [SignedBody.entries_reading]
  rfl

/-- The stray keys of a block are its signed keys that are not classified. -/
theorem Block.length_strays_readings (block : Block) (recovery : ρ) :
    ((readings recovery block.transactions).1.flatMap Reading.strays).length =
      (block.signedKeys recovery).countP (·.kind?.isNone) := by
  rw [flatMap_readings rfl, signedKeys,
    List.countP_flatMap, List.length_flatMap]
  simp only [SignedBody.strays_reading, List.length_map, ← List.countP_eq_length_filter]
  rfl

/-- A block has entries exactly if one of its signed keys is classified. -/
theorem Block.flatMap_entries_readings_eq_nil_iff (block : Block) (recovery : ρ) :
    (readings recovery block.transactions).1.flatMap Reading.entries = [] ↔
      ∀ key ∈ block.signedKeys recovery, key.kind? = none := by
  rw [block.flatMap_entries_readings, List.filterMap_eq_nil_iff]
  simp only [SignedKey.written?, Option.map_eq_none_iff]

/-- The payloads of the signed keys of a kind and a sender, in the order of the keys. -/
theorem Block.filterMap_payloadAt?_readings (block : Block) (recovery : ρ) (kind : Kind)
    (sender : Address) :
    ((readings recovery block.transactions).1.flatMap Reading.entries).filterMap
        (StateEntry.payloadAt? kind sender) =
      ((block.signedKeys recovery).filter fun key =>
        key.kind? = some kind ∧ key.sender = sender).map (·.value) := by
  rw [block.flatMap_entries_readings, List.filterMap_filterMap]
  simp only [SignedKey.bind_payloadAt?]
  rw [← List.map_filterMap, List.filterMap_eq_filter]

/-- What is found in a block at a boundary is what the data of the block say of it. -/
theorem Block.reports_of_found {block : Block} {schedule : Schedule} {recovery : ρ}
    {data : BlockData} (h : (block.extract schedule recovery).1 = .ok (.found data)) :
    data.Reports block recovery := by
  have hboundary : schedule.isBoundary block.header.number = true := by
    by_contra hbetween
    rw [extract, if_neg hbetween] at h
    cases h
  rw [block.extract_of_boundary recovery hboundary] at h
  split at h
  · cases h
  · obtain rfl := Extraction.found.inj (Except.ok.inj h)
    refine ⟨rfl, ?_, block.length_strays_readings recovery, ?_, ?_, fun kind sender => ?_⟩
    · exact countP_isNone_readings recovery block.transactions
    · rw [block.length_strays_readings,
        List.length_eq_countP_add_countP fun key : SignedKey => key.kind?.isSome]
      exact congrArg _ (List.countP_congr fun key _ => by simp)
    · exact StateMap.isSome_bucket?_fileAll_fresh _
    · rw [StateMap.payload?_fileAll, StateMap.payload?_fresh, Option.or_none,
        block.filterMap_payloadAt?_readings, List.getLast?_map]

/-- A block is left alone exactly if its height is no multiple of the interval. Otherwise nothing is
found in it exactly if none of its signed keys is classified, and else data that report of it; and
the recovery is asked about each control transaction with a readable body once, in block order, and
about no other. -/
theorem Block.extraction_reports_signed_keys (block : Block) (schedule : Schedule) (recovery : ρ)
    (before : List Transaction) :
    ((block.extract schedule recovery).1 = .ok .offBoundary ↔
      ¬schedule.interval.toNat ∣ block.header.number.toNat) ∧
    (schedule.interval.toNat ∣ block.header.number.toNat →
      ((block.extract schedule recovery).1 = .error (.nothingFound block.header.number) ↔
        ∀ key ∈ block.signedKeys recovery, key.kind? = none) ∧
      ((∃ key ∈ block.signedKeys recovery, key.kind?.isSome) →
        ∃ data, (block.extract schedule recovery).1 = .ok (.found data) ∧
          data.Reports block recovery) ∧
      block.extract schedule (⟨recovery, before⟩ : Recorded ρ) =
        ((block.extract schedule recovery).1,
          ⟨(block.extract schedule recovery).2,
            before ++ (legible block.transactions).map (·.1)⟩)) := by
  refine ⟨?_, fun hdvd => ?_⟩
  · rw [← Schedule.isBoundary_iff]
    by_cases hboundary : schedule.isBoundary block.header.number = true
    · rw [block.extract_of_boundary recovery hboundary]
      split <;> simp [hboundary]
    · rw [extract, if_neg hboundary]
      exact iff_of_true rfl hboundary
  · have hboundary := Schedule.isBoundary_iff.mpr hdvd
    have hextract := block.extract_of_boundary recovery hboundary
    refine ⟨?_, fun hclassified => ?_, ?_⟩
    · rw [hextract, ← block.flatMap_entries_readings_eq_nil_iff]
      split
      · next hnone => exact iff_of_true rfl hnone
      · next hsome => exact iff_of_false (by simp) hsome
    · have hsome : (readings recovery block.transactions).1.flatMap Reading.entries ≠ [] := by
        rw [Ne, block.flatMap_entries_readings_eq_nil_iff]
        obtain ⟨key, hkey, hkind⟩ := hclassified
        exact fun hnone => by simp [hnone key hkey] at hkind
      rw [if_neg hsome] at hextract
      exact ⟨_, hextract, block.reports_of_found hextract⟩
    · rw [block.extract_recorded, if_pos hboundary]

namespace Outcome.Sample

/-- Epochs of a hundred heights. -/
def schedule : Schedule := ⟨100⟩

/-- The signer of the signature that is known. -/
def signer : Address := .replicate 20 0x22

/-- A recovery that answers one question. -/
def recovery : Metered SignerTable := ⟨⟨[([1], signer)]⟩, some 1⟩

/-- A transaction with two public keys and a key of no kind. -/
def announced : Transaction :=
  { Transaction.carrying 1 0
      (.ofList [("publickey2", [1]), ("publickey9", [2]), ("weather", [3])]) with
    signature := [1] }

/-- A transaction with a heartbeat that comes after the recovery has stopped. -/
def unanswered : Transaction :=
  { Transaction.carrying 1 2 (.ofList [("heartbeat2", [4])]) with signature := [1] }

/-- A block at a boundary with both, behind a transaction that carries no control messages, and with
one between them that has no readable body. -/
def block : Block :=
  ⟨⟨200, default, default⟩,
    [{ announced with marks := [] }, announced, { announced with data := [] }, unanswered]⟩

end Outcome.Sample

open Outcome.Sample in
/-- The second public key and the stray key are reported, and two transactions are skipped; two were
asked about. -/
theorem extraction_reports_public_key :
    (block.extract schedule (⟨recovery, []⟩ : Recorded _)).2.asked = [announced, unanswered] ∧
      ∃ data, (block.extract schedule recovery).1 = .ok (.found data) ∧
        data.skipped = 2 ∧ data.unclassified = 1 ∧
        data.state.payload? .publicKey signer = some [2] ∧
        data.state.payload? .heartbeat signer = none := by
  obtain ⟨-, hboundary⟩ := block.extraction_reports_signed_keys schedule recovery []
  obtain ⟨-, hfound, hrecorded⟩ := hboundary (by decide)
  have hsigned : block.signedKeys recovery =
      [⟨signer, "publickey2", [1]⟩, ⟨signer, "publickey9", [2]⟩, ⟨signer, "weather", [3]⟩] := by rfl
  obtain ⟨data, hdata, hreports⟩ := hfound
    ⟨⟨signer, "publickey2", [1]⟩, by rw [hsigned]; exact List.mem_cons_self, by rfl⟩
  refine ⟨by rw [hrecorded]; rfl, data, hdata, hreports.skipped.trans (by rfl), ?_, ?_, ?_⟩
  · rw [hreports.unclassified, hsigned]
    rfl
  · rw [hreports.payloads, hsigned]
    rfl
  · rw [hreports.payloads, hsigned]
    rfl

end ControlPool
