import ControlPool.Extraction

/-!
# What a scan finds

A scan reads the sender and the body of each control transaction, or skips it. The keys that it
classifies become entries of the state, in block order and within a transaction in key order, and of
the entries of one kind and sender the last stays. A block at a boundary holds nothing exactly if no
key is classified.
-/

namespace ControlPool

/-- A payload under a kind and a sender. -/
structure StateEntry where
  kind : Kind
  sender : Address
  payload : List UInt8
  deriving DecidableEq

/-- The payload of an entry, if it is that of a kind and a sender. -/
def StateEntry.payloadAt? (kind : Kind) (sender : Address) (entry : StateEntry) :
    Option (List UInt8) :=
  if entry.kind = kind ∧ entry.sender = sender then some entry.payload else none

/-- An entry has a payload under a kind and a sender exactly if it is that entry. -/
theorem StateEntry.payloadAt?_eq_some_iff {entry : StateEntry} {kind : Kind} {sender : Address}
    {payload : List UInt8} :
    entry.payloadAt? kind sender = some payload ↔ entry = ⟨kind, sender, payload⟩ := by
  obtain ⟨kind', sender', payload'⟩ := entry
  simp [payloadAt?, and_assoc]

namespace StateMap

/-- The payload under a kind and a sender. -/
def payload? (state : StateMap) (kind : Kind) (sender : Address) : Option (List UInt8) :=
  (state.bucket? kind).bind (·.get? sender)

/-- Files entries one after the other. -/
def fileAll (state : StateMap) (entries : List StateEntry) : StateMap :=
  entries.foldl (fun state entry => state.file entry.kind entry.sender entry.payload) state

/-- Filing fills the bucket of the kind. -/
theorem bucket?_file (state : StateMap) (kind other : Kind) (sender : Address)
    (payload : List UInt8) :
    (state.file kind sender payload).bucket? other =
      if kind = other then some (((state.bucket? kind).getD .empty).insert sender payload)
      else state.bucket? other := by
  rw [bucket?, file]
  by_cases hsame : kind = other
  · subst hsame
    rw [if_pos rfl]
    exact OrderedMap.get?_insert_self _ _ _
  · rw [if_neg hsame]
    exact OrderedMap.get?_insert_of_ne _ _ (Ne.symm hsame)

/-- A payload that was filed is found, and those of other kinds and senders are as before. -/
theorem payload?_file (state : StateMap) (entry : StateEntry) (kind : Kind) (sender : Address) :
    (state.file entry.kind entry.sender entry.payload).payload? kind sender =
      (entry.payloadAt? kind sender).or (state.payload? kind sender) := by
  rw [payload?, bucket?_file, StateEntry.payloadAt?, payload?]
  by_cases hkind : entry.kind = kind
  · subst hkind
    by_cases hsender : entry.sender = sender
    · subst hsender
      simp
    · rw [if_pos rfl, Option.bind_some, OrderedMap.get?_insert_of_ne _ _ (Ne.symm hsender)]
      cases state.bucket? entry.kind <;> simp [hsender, OrderedMap.get?, OrderedMap.empty]
  · simp [hkind]

/-- Of the payloads filed under a kind and a sender the last one is found. -/
theorem payload?_fileAll (state : StateMap) (entries : List StateEntry) (kind : Kind)
    (sender : Address) :
    (state.fileAll entries).payload? kind sender =
      (entries.filterMap (StateEntry.payloadAt? kind sender)).getLast?.or
        (state.payload? kind sender) := by
  induction entries generalizing state with
  | nil => rfl
  | cons entry entries ih =>
    have hrest := ih (state.file entry.kind entry.sender entry.payload)
    rw [payload?_file] at hrest
    rw [fileAll, List.foldl_cons, ← fileAll, hrest]
    cases hentry : entry.payloadAt? kind sender with
    | none => simp [hentry]
    | some payload =>
      cases hlast : (entries.filterMap (StateEntry.payloadAt? kind sender)).getLast? <;>
        simp [hentry, List.getLast?_cons, hlast]

/-- Buckets stay when entries are filed. -/
theorem isSome_bucket?_fileAll {state : StateMap} {kind : Kind}
    (h : (state.bucket? kind).isSome = true) (entries : List StateEntry) :
    ((state.fileAll entries).bucket? kind).isSome = true := by
  induction entries generalizing state with
  | nil => exact h
  | cons entry entries ih =>
    rw [fileAll, List.foldl_cons]
    apply ih
    rw [bucket?_file]
    split
    · rfl
    · exact h

/-- A fresh state has an empty bucket for every kind. -/
theorem bucket?_fresh (kind : Kind) : fresh.bucket? kind = some .empty := by
  cases kind <;> rfl

/-- The state that entries leave has a bucket for every kind. -/
theorem isSome_bucket?_fileAll_fresh (entries : List StateEntry) (kind : Kind) :
    ((fresh.fileAll entries).bucket? kind).isSome = true :=
  isSome_bucket?_fileAll (by rw [bucket?_fresh]; rfl) entries

/-- A fresh state has no payloads. -/
theorem payload?_fresh (kind : Kind) (sender : Address) : fresh.payload? kind sender = none := by
  rw [payload?, bucket?_fresh]
  rfl

/-- A payload in the state that entries leave comes from one of them. -/
theorem mem_of_payload?_fileAll {entries : List StateEntry} {kind : Kind} {sender : Address}
    {payload : List UInt8} (h : (fresh.fileAll entries).payload? kind sender = some payload) :
    ⟨kind, sender, payload⟩ ∈ entries := by
  rw [payload?_fileAll, payload?_fresh, Option.or_none] at h
  obtain ⟨entry, hentry, hpayload⟩ := List.mem_filterMap.mp (List.mem_of_getLast? h)
  rwa [StateEntry.payloadAt?_eq_some_iff.mp hpayload] at hentry

end StateMap

/-- What a scan reads of a control transaction: its sender and its body, if both can be read. -/
abbrev Reading := Option (Address × Payload)

namespace Reading

/-- The entries that the classified keys become. -/
def entries : Reading → List StateEntry
  | none => []
  | some (sender, payload) => payload.entries.filterMap fun entry =>
    (Kind.classify? entry.1).map (⟨·, sender, entry.2⟩)

/-- An entry of a reading is that of a key of the body, and of the sender. -/
theorem exists_of_mem_entries {reading : Reading} {entry : StateEntry}
    (h : entry ∈ reading.entries) :
    ∃ payload, reading = some (entry.sender, payload) ∧
      ∃ key, (key, entry.payload) ∈ payload.entries := by
  cases reading with
  | none => cases h
  | some found =>
    obtain ⟨sender, payload⟩ := found
    obtain ⟨⟨key, value⟩, hkey, hkind⟩ := List.mem_filterMap.mp h
    obtain ⟨kind, -, rfl⟩ := Option.map_eq_some_iff.mp hkind
    exact ⟨payload, rfl, key, hkey⟩

/-- The keys in which no tag occurs. -/
def strays : Reading → List String
  | none => []
  | some (_, payload) => (payload.entries.map (·.1)).filter fun key => (Kind.classify? key).isNone

end Reading

section

variable {ρ : Type} [SignerRecovery ρ]

/-- Reads one control transaction. -/
def Transaction.reading (tx : Transaction) (recovery : ρ) : Reading × ρ :=
  match tx.payload? with
  | none => (none, recovery)
  | some payload =>
    match findSender .recoveredOnly recovery tx with
    | (.ok sender, recovery) => (some (sender.address, payload), recovery)
    | (.error _, recovery) => (none, recovery)

/-- Reads the control transactions among transactions, one after the other. -/
def readings (recovery : ρ) : List Transaction → List Reading × ρ
  | [] => ([], recovery)
  | tx :: txs =>
    if tx.isControl then
      let (reading, recovery) := tx.reading recovery
      let (rest, recovery) := readings recovery txs
      (reading :: rest, recovery)
    else readings recovery txs

/-- A body that is read is that of the transaction. -/
theorem Transaction.payload?_of_reading {tx : Transaction} {recovery : ρ} {sender : Address}
    {payload : Payload} (h : (tx.reading recovery).1 = some (sender, payload)) :
    tx.payload? = some payload := by
  rw [Transaction.reading] at h
  split at h
  · cases h
  · next body hbody =>
    split at h
    · obtain ⟨-, rfl⟩ := Prod.mk.inj (Option.some.inj h)
      exact hbody
    · cases h

/-- There are at most as many readings as transactions, and the bodies that are read are theirs. -/
theorem readings_bound (recovery : ρ) (txs : List Transaction) :
    (readings recovery txs).1.length ≤ txs.length ∧
      ∀ sender payload, some (sender, payload) ∈ (readings recovery txs).1 →
        ∃ tx ∈ txs, tx.payload? = some payload := by
  induction txs generalizing recovery with
  | nil => exact ⟨Nat.le_refl _, fun _ _ hread => nomatch hread⟩
  | cons tx txs ih =>
    have hskip (found : Payload) (h : ∃ tx ∈ txs, tx.payload? = some found) :
        ∃ other ∈ tx :: txs, other.payload? = some found := by
      obtain ⟨other, hother, hbody⟩ := h
      exact ⟨other, List.mem_cons_of_mem _ hother, hbody⟩
    rw [readings]
    split
    · obtain ⟨hlength, hbodies⟩ := ih (tx.reading recovery).2
      refine ⟨Nat.succ_le_succ hlength, fun sender payload hread => ?_⟩
      rcases List.mem_cons.mp hread with hfirst | hrest
      · exact ⟨tx, List.mem_cons_self, Transaction.payload?_of_reading hfirst.symm⟩
      · exact hskip payload (hbodies sender payload hrest)
    · obtain ⟨hlength, hbodies⟩ := ih recovery
      exact ⟨Nat.le_succ_of_le hlength,
        fun sender payload hread => hskip payload (hbodies sender payload hread)⟩

end

namespace Scan

/-- Goes on with a reading. -/
def addReading (scan : Scan) : Reading → Scan
  | none => scan.skip
  | some (sender, payload) => scan.addPayload sender payload

/-- The scan after filing entries and counting stray keys and skipped transactions. -/
def advance (scan : Scan) (entries : List StateEntry) (strays : List String) (skipped : Nat) :
    Scan where
  state := scan.state.fileAll entries
  classified := scan.classified + entries.length
  unclassified := scan.unclassified + strays.length
  skipped := scan.skipped + skipped

/-- Advancing twice is advancing by both parts. -/
theorem advance_advance (scan : Scan) (first second : List StateEntry)
    (strays strays' : List String) (skipped skipped' : Nat) :
    (scan.advance first strays skipped).advance second strays' skipped' =
      scan.advance (first ++ second) (strays ++ strays') (skipped + skipped') := by
  simp only [advance, StateMap.fileAll, List.foldl_append, List.length_append, Nat.add_assoc]

/-- A reading advances the scan by its entries and its stray keys, or counts as skipped. -/
theorem addReading_eq (scan : Scan) (reading : Reading) :
    scan.addReading reading =
      scan.advance reading.entries reading.strays (if reading.isNone then 1 else 0) := by
  rcases reading with _ | ⟨sender, payload⟩
  · rfl
  · rw [addReading, addPayload, Reading.entries, Reading.strays]
    induction payload.entries generalizing scan with
    | nil => rfl
    | cons entry rest ih =>
      rw [List.foldl_cons, ih, addKey]
      cases hkind : Kind.classify? entry.1 with
      | none =>
        simp only [advance, List.filterMap_cons, hkind, Option.map_none, List.map_cons,
          List.filter_cons, Option.isNone_none, if_true, List.length_cons]
        congr 1
        omega
      | some kind =>
        simp only [advance, List.filterMap_cons, hkind, Option.map_some, List.map_cons,
          List.filter_cons, Option.isNone_some, Bool.false_eq_true, if_false, List.length_cons]
        congr 1
        omega

/-- Readings advance the scan by all their entries. -/
theorem foldl_addReading (scan : Scan) (readings : List Reading) :
    readings.foldl addReading scan =
      scan.advance (readings.flatMap Reading.entries) (readings.flatMap Reading.strays)
        (readings.countP Option.isNone) := by
  induction readings generalizing scan with
  | nil => rfl
  | cons reading readings ih =>
    rw [List.foldl_cons, ih, addReading_eq, advance_advance, List.flatMap_cons, List.flatMap_cons,
      List.countP_cons, Nat.add_comm (readings.countP Option.isNone)]

variable {ρ : Type} [SignerRecovery ρ]

/-- Scanning a transaction goes on with its reading. -/
theorem addTransaction_eq (scan : Scan) (recovery : ρ) (tx : Transaction) :
    scan.addTransaction recovery tx =
      (scan.addReading (tx.reading recovery).1, (tx.reading recovery).2) := by
  rw [addTransaction, Transaction.reading]
  cases tx.payload? with
  | none => rfl
  | some payload =>
    rcases findSender .recoveredOnly recovery tx with ⟨_ | sender, asked⟩ <;> rfl

/-- Scanning transactions goes on with their readings. -/
theorem addTransactions_eq (scan : Scan) (recovery : ρ) (txs : List Transaction) :
    scan.addTransactions recovery txs =
      ((readings recovery txs).1.foldl addReading scan, (readings recovery txs).2) := by
  induction txs generalizing scan recovery with
  | nil => rfl
  | cons tx txs ih =>
    rw [addTransactions, readings]
    split
    · rw [addTransaction_eq]
      exact ih _ _
    · exact ih scan recovery

end Scan

section

variable {ρ : Type} [SignerRecovery ρ]

/-- A block at a boundary holds nothing if its readings have no entries, and else the state with
these entries. -/
theorem Block.extract_of_boundary (block : Block) {schedule : Schedule} (recovery : ρ)
    (hboundary : schedule.isBoundary block.header.number = true) :
    (block.extract schedule recovery).1 =
      if (readings recovery block.transactions).1.flatMap Reading.entries = [] then
        .error (.nothingFound block.header.number)
      else .ok (.found
        ⟨block.header.number,
          StateMap.fresh.fileAll
            ((readings recovery block.transactions).1.flatMap Reading.entries),
          (readings recovery block.transactions).1.countP Option.isNone,
          ((readings recovery block.transactions).1.flatMap Reading.strays).length⟩) := by
  simp only [extract, hboundary, if_true, Scan.addTransactions_eq, Scan.foldl_addReading,
    Scan.advance, Scan.start, Nat.zero_add, List.length_eq_zero_iff]
  split <;> rfl

/-- The state that is found in a block is that of the entries of its readings. -/
theorem Block.state_eq_fileAll {block : Block} {schedule : Schedule} {recovery : ρ}
    {data : BlockData} (h : (block.extract schedule recovery).1 = .ok (.found data)) :
    data.state = StateMap.fresh.fileAll
      ((readings recovery block.transactions).1.flatMap Reading.entries) := by
  by_cases hboundary : schedule.isBoundary block.header.number = true
  · rw [block.extract_of_boundary recovery hboundary] at h
    split at h
    · cases h
    · obtain rfl := Extraction.found.inj (Except.ok.inj h)
      rfl
  · rw [extract, if_neg hboundary] at h
    cases h

end

end ControlPool
