import ControlPool.Proofs.Filing

/-!
# Where pending entries come from

Every entry that is pending after a run was filed by a step after the last drain. That step offered
the entry's transaction, which was in order then, and the entry's identity is that of a message
which was admitted under a key of the transaction, at the head and with the roles and the sender of
that moment. Whether the step answered with a report or with the failure of a later key makes no
difference.
-/

namespace ControlPool

namespace Pool

variable {ρ : Type} [SignerRecovery ρ]

/-- What vouches for a pending entry at the moment when its transaction was offered: the transaction
was in order and its sender found, a key of its body was admitted behind keys that were admitted
too, and the entry is kept under the identity of that key's message for the epoch after that of the
head, which was not pending before. -/
structure Voucher (config : Config) (moment : Pool ρ) (entry : Arrival) where
  head : Head
  sender : Address
  payload : Payload
  before : List (String × List UInt8)
  key : String
  value : List UInt8
  after : List (String × List UInt8)
  admission : Admission
  small : entry.transaction.encode.length ≤ config.sizeLimit.toNat
  marked : entry.transaction.marks.head? = some Transaction.controlMark
  reads : entry.transaction.payload? = some payload
  entries_eq : payload.entries = before ++ (key, value) :: after
  head_eq : moment.surroundings.head = .ok head
  found : senderOf? config.senderPolicy moment.recovery entry.transaction = some sender
  decided : decideKey config.schedule moment.surroundings.roles sender key head = .ok admission
  judged : ∀ earlier ∈ before, ∃ admission,
    decideKey config.schedule moment.surroundings.roles sender earlier.1 head = .ok admission
  epoch_eq : admission.epoch.toNat = head.height.toNat / config.interval.toNat + 1
  identity_eq : entry.identity = messageIdentity admission.kind admission.epoch sender
  absent : entry.identity ∉ moment.registry.identities

/-- A filed message vouches for the entries of its transaction under its identity. -/
theorem voucher_of_mem_filed {pool : Pool ρ} {entry : Arrival} {message : Message}
    (hfiled : message ∈ pool.filed entry.transaction)
    (hidentity : message.identity = entry.identity) :
    Nonempty (Voucher pool.config pool entry) := by
  obtain ⟨hearing, hhears, key, rfl⟩ := mem_admitted_iff.mp (mem_admitted_of_mem_filed hfiled)
  have hdecided := key.decided
  have hjudged := key.admits_before
  simp only [Hearing.Admits, Hearing.decide, hhears.schedule_eq, hhears.roles_eq]
    at hdecided hjudged
  refine ⟨{
    head := hearing.head
    sender := hearing.sender
    payload := hearing.payload
    before := key.before
    key := key.key
    value := key.value
    after := key.after
    admission := key.admission
    small := ?_
    marked := ?_
    reads := hhears.reads
    entries_eq := key.entries_eq
    head_eq := hhears.head_eq
    found := hhears.found
    decided := hdecided
    judged := hjudged
    epoch_eq := ?_
    identity_eq := hidentity.symm
    absent := ?_ }⟩
  · rw [Transaction.length_encode]
    exact hhears.small
  · simpa [Transaction.isControl] using hhears.marked
  · rw [(decideKey_eq_ok_iff.mp hdecided).1]
    exact Schedule.toNat_upcomingEpoch _ _ pool.config.two_le_interval
  · rw [← hidentity]
    exact Registry.identity_notMem_of_mem_newcomers hfiled

/-- Every pending entry is vouched for by a step of the run since the last drain, whatever happened
to the head, the roles and the recovery and whatever the steps answered. -/
theorem pending_entry_vouched (config : Config) (surroundings : Surroundings) (recovery : ρ)
    (steps : List (Step ρ)) (entry : Arrival)
    (hpending : entry ∈ ((new config surroundings recovery).after steps).registry.entries) :
    ∃ before step since, steps = before ++ step :: since ∧ .drain ∉ since ∧
      step.offer? = some entry.transaction ∧
      Nonempty (Voucher config ((new config surroundings recovery).after before) entry) := by
  obtain ⟨filing, htx, hidentity⟩ := exists_filing rfl hpending
  refine ⟨filing.before, filing.step, filing.since, filing.steps_eq, filing.undrained, ?_, ?_⟩
  · rw [← htx]
    exact filing.offers
  · have hfiled := filing.filed
    rw [htx] at hfiled
    have hvoucher := voucher_of_mem_filed hfiled hidentity
    rwa [after_config] at hvoucher

namespace Sample

/-- An address that holds the role of the validators and no other. -/
def validator : Address := .replicate 20 0x11

/-- A recovery that knows one signature of the validator. -/
def table : SignerTable := ⟨[([7], validator)]⟩

/-- The standard configuration, with senders taken from signatures only. -/
def config : Config := ⟨{ Settings.standard with senderPolicy := .recoveredOnly }, by decide⟩

/-- A head in the second epoch, far from the next boundary, and the roles. -/
def surroundings : Surroundings :=
  ⟨.ok ⟨150, default⟩, fun _ role => .ok (if role = .validator then [validator] else [])⟩

/-- A transaction that the validator signed. -/
def signed (nonce : UInt64) (entries : List (String × List UInt8)) : Transaction :=
  { Transaction.carrying 1 nonce (.ofList entries) with signature := [7] }

/-- A transaction with a public key. -/
def announced : Transaction := signed 0 [("publickey2", [1])]

/-- The transaction is filed if it comes first and no drain follows. -/
def publicKeyFiling (since : List (Step SignerTable)) (hsince : .drain ∉ since) :
    Filing (new config surroundings table) (.insert announced :: since) where
  before := []
  step := .insert announced
  since := since
  steps_eq := rfl
  undrained := hsince
  transaction := announced
  offers := rfl
  message := ⟨.publicKey, 2, validator, [1]⟩
  filed := by
    have hadmitted : (new config surroundings table).admitted announced =
        [⟨.publicKey, 2, validator, [1]⟩] := by decide +kernel
    have hempty : (new config surroundings table).registry.identities = [] := rfl
    rw [after_nil, filed, hadmitted, hempty,
      Registry.newcomers_cons_of_notMem _ List.not_mem_nil]
    exact List.mem_cons_self

/-- A transaction whose first key is admitted and whose second is refused. -/
def halfRefused : Transaction := signed 0 [("publickey2", [1]), ("rollcall2", [2])]

end Sample

/-- The entry of a transaction that was answered with a failure is vouched for. -/
theorem pending_entry_vouched_halfRefused :
    ((new Sample.config Sample.surroundings Sample.table).insert Sample.halfRefused).1 =
        .error (.rejected (.outsideWindow 150 (some 200))) ∧
      ∃ before step since, [Step.insert Sample.halfRefused] = before ++ step :: since ∧
        .drain ∉ since ∧ step.offer? = some Sample.halfRefused ∧
        Nonempty (Voucher Sample.config
          ((new Sample.config Sample.surroundings Sample.table).after before)
          ⟨messageIdentity .publicKey 2 Sample.validator, Sample.halfRefused, 0⟩) := by
  refine ⟨by decide +kernel, ?_⟩
  apply pending_entry_vouched Sample.config Sample.surroundings Sample.table
    [.insert Sample.halfRefused]
    ⟨messageIdentity .publicKey 2 Sample.validator, Sample.halfRefused, 0⟩
  have hentries : ((new Sample.config Sample.surroundings Sample.table).after
      [.insert Sample.halfRefused]).registry.entries =
      [⟨messageIdentity .publicKey 2 Sample.validator, Sample.halfRefused, 0⟩] := by rfl
  rw [hentries]
  exact List.mem_cons_self

end Pool

end ControlPool
