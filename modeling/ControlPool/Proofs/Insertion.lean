import ControlPool.Proofs.Arrivals
import ControlPool.Proofs.Judgement

/-!
# What an insertion does

A transaction is turned away before its keys are judged, and then only the recovery may have
changed, or it gets a hearing, and then its admitted messages are filed whether or not a later key
is refused. The configuration and the surroundings are never changed.
-/

namespace ControlPool

section Recovery

variable {ρ : Type} [SignerRecovery ρ]

/-- Whether a recovery stays as it is when it is asked, so that it always answers alike. -/
def Steady (recovery : ρ) : Prop := ∀ tx, (SignerRecovery.recover recovery tx).2 = recovery

/-- A table of signers is steady. -/
theorem SignerTable.steady (table : SignerTable) : Steady table := fun _ => rfl

/-- Finding a sender does not change a steady recovery. -/
theorem Steady.findSender {recovery : ρ} (hsteady : Steady recovery) (policy : SenderPolicy)
    (tx : Transaction) : (findSender policy recovery tx).2 = recovery := by
  have hrecover : (recoverSigner recovery tx).2 = recovery := by
    have hasked := hsteady tx
    rw [recoverSigner]
    split <;> (next h => rw [h] at hasked; exact hasked)
  unfold ControlPool.findSender
  split
  · rfl
  · exact hrecover

/-- The signer that a recovery names. -/
def signer? (recovery : ρ) (tx : Transaction) : Option Address :=
  (SignerRecovery.recover recovery tx).1.toOption

/-- The address of the sender that is found under a policy. -/
def senderOf? (policy : SenderPolicy) (recovery : ρ) (tx : Transaction) : Option Address :=
  (findSender policy recovery tx).1.toOption.map (·.address)

/-- The sender is the embedded one if there is one and it is taken, and the signer otherwise. -/
theorem senderOf?_eq (policy : SenderPolicy) (recovery : ρ) (tx : Transaction) :
    senderOf? policy recovery tx =
      if policy = .embeddedFirst then tx.sender.or (signer? recovery tx)
      else signer? recovery tx := by
  have hrecovered : (recoverSigner recovery tx).1.toOption.map (·.address) =
      signer? recovery tx := by
    rw [recoverSigner, signer?]
    rcases SignerRecovery.recover recovery tx with ⟨_ | address, asked⟩ <;> rfl
  rw [senderOf?]
  cases policy with
  | recoveredOnly => exact hrecovered
  | embeddedFirst =>
    unfold findSender
    cases tx.sender with
    | none => exact hrecovered
    | some address => rfl

/-- If the signature is always asked, the sender is the signer. -/
theorem senderOf?_recoveredOnly (recovery : ρ) (tx : Transaction) :
    senderOf? .recoveredOnly recovery tx = signer? recovery tx :=
  senderOf?_eq .recoveredOnly recovery tx

end Recovery

/-- A stage of an insertion, in the order in which they are passed: size, mark and body are checked,
the sender is found, the head is read and the keys are judged. -/
inductive Stage where
  | form
  | sender
  | head
  | key
  deriving DecidableEq

/-- The stage of an insertion at which an error arises. -/
def PoolError.stage? : PoolError → Option Stage
  | tooLarge .. => some .form
  | wrongMark .. => some .form
  | malformed .. => some .form
  | senderUnknown .. => some .sender
  | headUnavailable .. => some .head
  | rejected .. => some .key
  | rolesUnavailable .. => some .key
  | _ => none

/-- Size, mark and body are in order exactly if the transaction is small enough and marked and its
body writes the payload. -/
theorem Pool.bodyOf_eq_ok_iff {limit : UInt64} {tx : Transaction} {payload : Payload} :
    bodyOf limit tx = .ok payload ↔
      tx.encodedLength ≤ limit.toNat ∧ tx.isControl = true ∧ tx.payload? = some payload := by
  rw [bodyOf]
  by_cases hsize : limit.toNat < tx.encodedLength
  · simp [hsize, Nat.not_le.mpr hsize]
  · rw [if_neg hsize]
    cases tx.isControl
    · simp
    · cases tx.payload? <;> simp [Nat.not_lt.mp hsize]

/-- A transaction whose size, mark or body is not in order fails at that stage. -/
theorem Pool.stage?_of_bodyOf {limit : UInt64} {tx : Transaction} {failure : PoolError}
    (h : bodyOf limit tx = .error failure) : failure.stage? = some .form := by
  rw [bodyOf] at h
  split at h
  · cases h; rfl
  split at h
  · split at h
    · cases h
    · cases h; rfl
  · cases h; rfl

/-- A sender that is not found is the only way to fail when it is looked for. -/
theorem stage?_of_findSender {ρ : Type} [SignerRecovery ρ] {policy : SenderPolicy} {recovery : ρ}
    {tx : Transaction} {failure : PoolError}
    (h : (findSender policy recovery tx).1 = .error failure) :
    failure.stage? = some .sender := by
  have hrecover (hfailed : (recoverSigner recovery tx).1 = .error failure) :
      failure.stage? = some .sender := by
    rw [recoverSigner] at hfailed
    split at hfailed
    · cases hfailed
    · cases hfailed; rfl
  unfold findSender at h
  split at h
  · cases h
  · exact hrecover h

/-- The checks that a kind asks for fail for a key only. -/
theorem stage?_of_judgeKind {schedule : Schedule} {roles : RoleOracle} {sender : Address}
    {head : Head} {kind : Kind} {failure : PoolError}
    (h : judgeKind schedule roles sender head kind = .error failure) :
    failure.stage? = some .key := by
  have hrole (hfailed : checkRole roles head.height kind sender = .error failure) :
      failure.stage? = some .key := by
    rw [checkRole] at hfailed
    split at hfailed
    · cases hfailed; rfl
    · split at hfailed
      · cases hfailed
      · cases hfailed; rfl
  cases kind with
  | publicKey => exact hrole h
  | privateKey => exact hrole h
  | rollCall =>
    rw [judgeKind, checkWindow] at h
    split at h
    · exact hrole h
    · cases h; rfl
  | heartbeat =>
    rw [judgeKind] at h
    cases hmember : checkRole roles head.height .heartbeat sender with
    | error found =>
      rw [hmember] at h
      cases h
      exact hrole hmember
    | ok _ =>
      rw [hmember] at h
      change checkSelection schedule sender head.hash = .error failure at h
      rw [checkSelection] at h
      split at h
      · cases h
      · cases h; rfl

/-- A key that is not admitted fails as a key. -/
theorem stage?_of_decideKey {schedule : Schedule} {roles : RoleOracle} {sender : Address}
    {key : String} {head : Head} {failure : PoolError}
    (h : decideKey schedule roles sender key head = .error failure) :
    failure.stage? = some .key := by
  simp only [decideKey] at h
  split at h
  · cases h; rfl
  · split at h
    · cases h; rfl
    · next kind _ =>
      cases hjudge : judgeKind schedule roles sender head kind with
      | ok _ => rw [hjudge] at h; cases h
      | error found =>
        rw [hjudge] at h
        cases h
        exact stage?_of_judgeKind hjudge

/-- A hearing fails for a key only. -/
theorem Hearing.stage?_of_judge {hearing : Hearing} {failure : PoolError}
    (h : hearing.judge.2 = some failure) : failure.stage? = some .key := by
  obtain ⟨refused, rfl⟩ := judge_failure_iff.mp h
  exact stage?_of_decideKey refused.decided

namespace Pool

variable {ρ : Type} [SignerRecovery ρ]

/-- The hearing of a transaction, unless it is turned away before its keys are judged. -/
def hearing? (pool : Pool ρ) (tx : Transaction) : Option Hearing :=
  match bodyOf pool.config.sizeLimit tx,
    (findSender pool.config.senderPolicy pool.recovery tx).1, pool.surroundings.head with
  | .ok payload, .ok sender, .ok head =>
    some ⟨pool.config.schedule, pool.surroundings.roles, head, sender.address, payload⟩
  | _, _, _ => none

/-- A transaction gets a hearing: it is in order, its sender is found and the head is known. -/
structure Hears (pool : Pool ρ) (tx : Transaction) (hearing : Hearing) : Prop where
  small : tx.encodedLength ≤ pool.config.sizeLimit.toNat
  marked : tx.isControl = true
  reads : tx.payload? = some hearing.payload
  found : senderOf? pool.config.senderPolicy pool.recovery tx = some hearing.sender
  head_eq : pool.surroundings.head = .ok hearing.head
  schedule_eq : hearing.schedule = pool.config.schedule
  roles_eq : hearing.roles = pool.surroundings.roles

/-- The hearing of a transaction is the one that meets the conditions. -/
theorem hearing?_eq_some_iff {pool : Pool ρ} {tx : Transaction} {hearing : Hearing} :
    pool.hearing? tx = some hearing ↔ pool.Hears tx hearing := by
  constructor
  · intro h
    rw [hearing?] at h
    split at h
    · next payload sender head hbody hsender hhead =>
      obtain ⟨hsmall, hmarked, hreads⟩ := bodyOf_eq_ok_iff.mp hbody
      simp only [Option.some.injEq] at h
      subst h
      refine ⟨hsmall, hmarked, hreads, ?_, hhead, rfl, rfl⟩
      rw [senderOf?, hsender]
      rfl
    · cases h
  · intro h
    have hbody := bodyOf_eq_ok_iff.mpr ⟨h.small, h.marked, h.reads⟩
    have hfound := h.found
    rw [senderOf?] at hfound
    cases hsender : (findSender pool.config.senderPolicy pool.recovery tx).1 with
    | error failure => rw [hsender] at hfound; cases hfound
    | ok sender =>
      rw [hsender] at hfound
      have haddress : sender.address = hearing.sender := Option.some.inj hfound
      rw [hearing?, hbody, hsender, h.head_eq, ← h.schedule_eq, ← h.roles_eq]
      simp only [haddress]

/-- With a hearing an insertion settles what the judgement says. -/
theorem insert_of_hearing {pool : Pool ρ} {tx : Transaction} {hearing : Hearing}
    (h : pool.hearing? tx = some hearing) :
    pool.insert tx =
      settle { pool with
        recovery := (findSender pool.config.senderPolicy pool.recovery tx).2 }
        tx hearing.judge.1 hearing.judge.2 := by
  rw [hearing?] at h
  split at h
  · next payload sender head hbody hsender hhead =>
    simp only [Option.some.injEq] at h
    subst h
    simp only [insert, hbody, insertPayload]
    rcases hfound : findSender pool.config.senderPolicy pool.recovery tx with ⟨found, recovery⟩
    rw [hfound] at hsender
    simp only at hsender
    subst hsender
    simp only [hhead, Hearing.judge, Hearing.judgeEntries]
  · cases h

/-- Without a hearing an insertion of a transaction whose size, mark and body are in order asks the
recovery and fails because the sender is not found or the head is not known. -/
theorem insert_turned_away_of_bodyOf {pool : Pool ρ} {tx : Transaction} {payload : Payload}
    (hbody : bodyOf pool.config.sizeLimit tx = .ok payload) (h : pool.hearing? tx = none) :
    (∃ failure, failure.stage? = some .sender ∧ pool.insert tx = (.error failure,
        { pool with recovery := (findSender pool.config.senderPolicy pool.recovery tx).2 })) ∨
      ∃ failure, failure.stage? = some .head ∧ pool.insert tx = (.error failure,
        { pool with recovery := (findSender pool.config.senderPolicy pool.recovery tx).2 }) := by
  simp only [insert, hbody, insertPayload]
  rcases hfound : findSender pool.config.senderPolicy pool.recovery tx with ⟨found, recovery⟩
  cases found with
  | error failure =>
    exact .inl ⟨failure, stage?_of_findSender (congrArg Prod.fst hfound), rfl⟩
  | ok sender =>
    right
    cases hhead : pool.surroundings.head with
    | error text => exact ⟨.headUnavailable text, rfl, rfl⟩
    | ok head =>
      rw [hearing?, hbody, hfound, hhead] at h
      cases h

/-- Without a hearing an insertion fails at one of the first three stages, and from the second one
on it has asked the recovery. -/
theorem insert_turned_away {pool : Pool ρ} {tx : Transaction} (h : pool.hearing? tx = none) :
    (∃ failure, failure.stage? = some .form ∧ pool.insert tx = (.error failure, pool)) ∨
      (∃ failure, failure.stage? = some .sender ∧ pool.insert tx = (.error failure,
        { pool with recovery := (findSender pool.config.senderPolicy pool.recovery tx).2 })) ∨
      ∃ failure, failure.stage? = some .head ∧ pool.insert tx = (.error failure,
        { pool with recovery := (findSender pool.config.senderPolicy pool.recovery tx).2 }) := by
  cases hbody : bodyOf pool.config.sizeLimit tx with
  | error failure =>
    exact .inl ⟨failure, stage?_of_bodyOf hbody, by rw [insert, hbody]⟩
  | ok payload => exact .inr (insert_turned_away_of_bodyOf hbody h)

/-- Without a hearing an insertion fails and at most asks the recovery. -/
theorem insert_of_no_hearing {pool : Pool ρ} {tx : Transaction} (h : pool.hearing? tx = none) :
    ∃ failure recovery, pool.insert tx = (.error failure, { pool with recovery }) ∧
      (recovery = pool.recovery ∨
        recovery = (findSender pool.config.senderPolicy pool.recovery tx).2) := by
  rcases insert_turned_away h with
    ⟨failure, -, hinsert⟩ | ⟨failure, -, hinsert⟩ | ⟨failure, -, hinsert⟩
  · exact ⟨failure, _, hinsert, .inl rfl⟩
  · exact ⟨failure, _, hinsert, .inr rfl⟩
  · exact ⟨failure, _, hinsert, .inr rfl⟩

/-- The messages of a transaction that are admitted. -/
def admitted (pool : Pool ρ) (tx : Transaction) : List Message :=
  match pool.hearing? tx with
  | some hearing => hearing.judge.1
  | none => []

/-- The messages of a transaction that are admitted and not pending, in the order in which they
are filed. -/
def filed (pool : Pool ρ) (tx : Transaction) : List Message :=
  Registry.newcomers pool.registry.identities (pool.admitted tx)

/-- An admitted message is that of an admitted key in the hearing of its transaction. -/
theorem mem_admitted_iff {pool : Pool ρ} {tx : Transaction} {message : Message} :
    message ∈ pool.admitted tx ↔ ∃ hearing, pool.Hears tx hearing ∧
      ∃ key : AdmittedKey hearing, key.message = message := by
  simp only [← hearing?_eq_some_iff, ← Hearing.mem_judge_iff, admitted]
  cases pool.hearing? tx <;> simp

/-- A filed message is admitted. -/
theorem mem_admitted_of_mem_filed {pool : Pool ρ} {tx : Transaction} {message : Message}
    (h : message ∈ pool.filed tx) : message ∈ pool.admitted tx :=
  (Registry.newcomers_sublist _ _).subset h

/-- With a hearing an insertion files the messages that are admitted. -/
theorem insert_registry_of_hearing {pool : Pool ρ} {tx : Transaction} {hearing : Hearing}
    (h : pool.hearing? tx = some hearing) :
    (pool.insert tx).2.registry = (pool.registry.insertAll tx hearing.judge.1).2 := by
  rw [insert_of_hearing h, settle]

/-- With a hearing an insertion asks for the sender once. -/
theorem insert_recovery_of_hearing {pool : Pool ρ} {tx : Transaction} {hearing : Hearing}
    (h : pool.hearing? tx = some hearing) :
    (pool.insert tx).2.recovery =
      (findSender pool.config.senderPolicy pool.recovery tx).2 := by
  rw [insert_of_hearing h, settle]

/-- An insertion puts an entry for each filed message behind those that were there. -/
theorem insert_registry (pool : Pool ρ) (tx : Transaction) :
    (pool.insert tx).2.registry =
      ⟨pool.registry.entries ++
          Registry.arrivals tx pool.registry.nextNumber (pool.filed tx),
        pool.registry.nextNumber + (pool.filed tx).length⟩ := by
  rw [filed, admitted]
  cases hhearing : pool.hearing? tx with
  | none =>
    obtain ⟨failure, recovery, hinsert, -⟩ := insert_of_no_hearing hhearing
    simp [hinsert, Registry.newcomers, Registry.arrivals]
  | some hearing =>
    rw [insert_registry_of_hearing hhearing]
    exact Registry.insertAll_registry _ _ _

/-- An insertion changes nothing but the registry, the tally and the recovery, and this only if it
asks it. -/
theorem exists_insert_eq (pool : Pool ρ) (tx : Transaction) :
    ∃ recovery registry tally, (pool.insert tx).2 = { pool with recovery, registry, tally } ∧
      (recovery = pool.recovery ∨
        recovery = (findSender pool.config.senderPolicy pool.recovery tx).2) := by
  cases hhearing : pool.hearing? tx with
  | none =>
    obtain ⟨failure, recovery, hinsert, hrecovery⟩ := insert_of_no_hearing hhearing
    exact ⟨recovery, pool.registry, pool.tally, by rw [hinsert], hrecovery⟩
  | some hearing =>
    rw [insert_of_hearing hhearing, settle]
    exact ⟨_, _, _, rfl, .inr rfl⟩

/-- An insertion keeps the configuration. -/
theorem insert_config (pool : Pool ρ) (tx : Transaction) :
    (pool.insert tx).2.config = pool.config := by
  obtain ⟨recovery, registry, tally, hinsert, -⟩ := pool.exists_insert_eq tx
  rw [hinsert]

/-- An insertion keeps the surroundings. -/
theorem insert_surroundings (pool : Pool ρ) (tx : Transaction) :
    (pool.insert tx).2.surroundings = pool.surroundings := by
  obtain ⟨recovery, registry, tally, hinsert, -⟩ := pool.exists_insert_eq tx
  rw [hinsert]

/-- An insertion keeps a steady recovery. -/
theorem insert_recovery_of_steady {pool : Pool ρ} (hsteady : Steady pool.recovery)
    (tx : Transaction) : (pool.insert tx).2.recovery = pool.recovery := by
  obtain ⟨recovery, registry, tally, hinsert, hrecovery⟩ := pool.exists_insert_eq tx
  rw [hinsert]
  rcases hrecovery with hkept | hasked
  · exact hkept
  · exact hasked.trans (hsteady.findSender pool.config.senderPolicy tx)

/-- With a hearing an insertion answers with the failure of the judgement or the report. -/
theorem insert_answer_of_hearing {pool : Pool ρ} {tx : Transaction} {hearing : Hearing}
    (h : pool.hearing? tx = some hearing) :
    (pool.insert tx).1 = match hearing.judge.2 with
      | some failure => .error failure
      | none => .ok (pool.registry.insertAll tx hearing.judge.1).1 := by
  rw [insert_of_hearing h]
  rfl

/-- If no key is refused and the messages have different identities none of which is pending, the
report names no duplicate and each message gets an entry. -/
theorem insert_of_new {pool : Pool ρ} {tx : Transaction} {hearing : Hearing}
    {messages : List Message} (h : pool.hearing? tx = some hearing)
    (hjudge : hearing.judge = (messages, none))
    (hnodup : (messages.map Message.identity).Nodup)
    (hnew : ∀ message ∈ messages, message.identity ∉ pool.registry.identities) :
    (pool.insert tx).1 = .ok ⟨messages.map Message.identity, []⟩ ∧
      (pool.insert tx).2.registry =
        ⟨pool.registry.entries ++ Registry.arrivals tx pool.registry.nextNumber messages,
          pool.registry.nextNumber + messages.length⟩ := by
  rw [insert_answer_of_hearing h, insert_registry_of_hearing h, hjudge,
    Registry.insertAll_of_new tx hnodup hnew]
  exact ⟨rfl, rfl⟩

/-- A report is the answer exactly if there is a hearing in which no key is refused. -/
theorem insert_eq_ok_iff {pool : Pool ρ} {tx : Transaction} {report : FilingReport} :
    (pool.insert tx).1 = .ok report ↔
      ∃ hearing, pool.hearing? tx = some hearing ∧ hearing.judge.2 = none ∧
        (pool.registry.insertAll tx hearing.judge.1).1 = report := by
  cases hhearing : pool.hearing? tx with
  | none =>
    obtain ⟨failure, recovery, hinsert, -⟩ := insert_of_no_hearing hhearing
    simp [hinsert]
  | some hearing =>
    rw [insert_answer_of_hearing hhearing]
    cases hjudge : hearing.judge.2 <;> simp [hjudge]

/-- A report names the identities of the filed messages as accepted. -/
theorem accepted_eq {pool : Pool ρ} {tx : Transaction} {report : FilingReport}
    (h : (pool.insert tx).1 = .ok report) :
    report.accepted = (pool.filed tx).map Message.identity := by
  obtain ⟨hearing, hhearing, -, rfl⟩ := insert_eq_ok_iff.mp h
  rw [filed, admitted, hhearing]
  exact Registry.insertAll_accepted _ _ _

end Pool

end ControlPool
