import ControlPool.Proofs.Noninterference
import ControlPool.Proofs.Overwriting
import Mathlib.Data.List.Perm.Subperm

/-!
# What one transaction contributes

All keys of a transaction are judged against one epoch, and for that epoch each kind has one key. So
the messages of a transaction have different kinds, there are at most four of them, and a payload
with more keys has one that is refused. The identities of messages of different kinds differ unless
two texts collide. Then a message finds its identity pending only if it was pending before, and a
report names every key of the payload once, as accepted or as a duplicate.
-/

namespace ControlPool

namespace Hearing

variable {hearing : Hearing}

/-- All admitted messages of a hearing are for the upcoming epoch. -/
theorem epoch_of_mem_judge {message : Message} (h : message ∈ hearing.judge.1) :
    message.epoch = hearing.schedule.upcomingEpoch hearing.head.height := by
  obtain ⟨admitted, rfl⟩ := mem_judge_iff.mp h
  exact (decideKey_eq_ok_iff.mp admitted.decided).1

/-- There are no more admitted messages in a hearing than kinds. -/
theorem length_judge_le (hearing : Hearing) : hearing.judge.1.length ≤ 4 := by
  have hnodup : (hearing.judge.1.map Message.kind).Nodup := by
    rw [List.Nodup, List.pairwise_map]
    exact hearing.pairwise_kind_judge
  have hkinds : hearing.judge.1.map Message.kind ⊆ Kind.all := fun kind _ => kind.mem_all
  have hlength := (List.subperm_of_subset hnodup hkinds).length_le
  rwa [List.length_map] at hlength

/-- Entries that are judged without a failure become the messages, in their order. -/
theorem map_messageOf?_of_judgeEntries {entries : List (String × List UInt8)}
    (h : (hearing.judgeEntries entries).2 = none) :
    entries.map hearing.messageOf? = (hearing.judgeEntries entries).1.map some := by
  induction entries with
  | nil => rfl
  | cons entry entries ih =>
    cases hdecide : hearing.decide entry.1 with
    | error failure =>
      rw [hearing.judgeEntries_cons_of_refused hdecide entry.2] at h
      cases h
    | ok admission =>
      rw [hearing.judgeEntries_cons_of_admitted hdecide entry.2] at h ⊢
      rw [List.map_cons, ih h, messageOf?, hdecide]
      rfl

/-- A payload without a refused key has no more keys than there are kinds. -/
theorem length_entries_le_of_judge (h : hearing.judge.2 = none) :
    hearing.payload.entries.length ≤ 4 := by
  have hlengths := congrArg List.length (map_messageOf?_of_judgeEntries h)
  rw [List.length_map, List.length_map] at hlengths
  rw [hlengths]
  exact hearing.length_judge_le

end Hearing

/-- A report itemizes messages if it names the identity of each of them once: as accepted if it is
not pending in the registry, as a duplicate if it is, and in the order of the messages. -/
structure FilingReport.Itemizes (report : FilingReport) (registry : Registry)
    (messages : List Message) : Prop where
  nodup : (messages.map Message.identity).Nodup
  perm : (report.accepted ++ report.duplicates).Perm (messages.map Message.identity)
  accepted_eq : report.accepted =
    (messages.map Message.identity).filter fun identity => !registry.contains identity
  duplicates_eq : report.duplicates = (messages.map Message.identity).filter registry.contains

/-- The report on filing messages with different identities itemizes them. -/
theorem Registry.itemizes_insertAll (registry : Registry) (tx : Transaction)
    {messages : List Message} (h : (messages.map Message.identity).Nodup) :
    (registry.insertAll tx messages).1.Itemizes registry messages := by
  have haccepted : (registry.insertAll tx messages).1.accepted =
      (messages.map Message.identity).filter fun identity => !registry.contains identity := by
    rw [insertAll_accepted, newcomers_of_nodup h, List.filter_map]
    simp only [Function.comp_def, contains_eq]
  have hduplicates := registry.insertAll_duplicates_of_nodup tx h
  refine ⟨h, ?_, haccepted, hduplicates⟩
  rw [haccepted, hduplicates]
  exact List.perm_append_comm.trans (List.filter_append_perm registry.contains _)

namespace Pool

variable {ρ : Type} [SignerRecovery ρ]

/-- The admitted messages of a transaction have different kinds and one epoch. -/
theorem pairwise_admitted (pool : Pool ρ) (tx : Transaction) :
    (pool.admitted tx).Pairwise fun a b => a.kind ≠ b.kind ∧ a.epoch = b.epoch := by
  unfold admitted
  cases pool.hearing? tx with
  | none => exact .nil
  | some hearing =>
    apply hearing.pairwise_kind_judge.imp_of_mem
    intro first second hfirst hsecond hkind
    have hepoch := Hearing.epoch_of_mem_judge hfirst
    rw [← Hearing.epoch_of_mem_judge hsecond] at hepoch
    exact ⟨hkind, hepoch⟩

/-- A transaction has no more messages admitted than there are kinds. -/
theorem length_admitted_le (pool : Pool ρ) (tx : Transaction) :
    (pool.admitted tx).length ≤ 4 := by
  unfold admitted
  cases pool.hearing? tx with
  | none => exact Nat.zero_le 4
  | some hearing => exact hearing.length_judge_le

/-- The admitted messages of a transaction have different identities unless two texts collide. -/
theorem nodup_identity_admitted {pool : Pool ρ} {tx : Transaction}
    (h : Collisionless (pool.admitted tx)) : ((pool.admitted tx).map Message.identity).Nodup := by
  rw [List.Nodup, List.pairwise_map]
  apply (pool.pairwise_admitted tx).imp_of_mem
  intro first second hfirst hsecond hdifferent hsame
  exact hdifferent.1 (identityText_eq_iff.mp (h first hfirst second hsecond hsame)).1

/-- What is filed is pending from then on. -/
theorem pending_insert (pool : Pool ρ) (tx : Transaction) :
    (pool.insert tx).2.pending = pool.pending + (pool.filed tx).length := by
  rw [pending, pending, Registry.size, Registry.size, insert_registry, List.length_append,
    ← (pool.filed tx).length_map Message.identity, ← Registry.map_identity_arrivals tx,
    List.length_map]

/-- An insertion makes at most one message of each kind pending. -/
theorem pending_insert_le (pool : Pool ρ) (tx : Transaction) :
    (pool.insert tx).2.pending ≤ pool.pending + 4 := by
  have hfiled : (pool.filed tx).length ≤ (pool.admitted tx).length :=
    (Registry.newcomers_sublist _ _).length_le
  have hadmitted := pool.length_admitted_le tx
  rw [pending_insert]
  omega

/-- A transaction with more keys than there are kinds is turned away or has a key refused. -/
theorem exists_failure_of_length {pool : Pool ρ} {tx : Transaction} {payload : Payload}
    (hpayload : tx.payload? = some payload) (hlength : 4 < payload.entries.length) :
    ∃ failure, (pool.insert tx).1 = .error failure := by
  cases hanswer : (pool.insert tx).1 with
  | error failure => exact ⟨failure, rfl⟩
  | ok report =>
    obtain ⟨hearing, hhearing, hjudge, -⟩ := insert_eq_ok_iff.mp hanswer
    have hreads := (hearing?_eq_some_iff.mp hhearing).reads
    rw [hpayload] at hreads
    rw [Option.some.inj hreads] at hlength
    have hfew := Hearing.length_entries_le_of_judge hjudge
    omega

/-- With a report as the answer all keys of a transaction were admitted, and unless two texts
collide the report itemizes their messages. -/
theorem contribution_of_ok {pool : Pool ρ} {tx : Transaction} {report : FilingReport}
    (h : (pool.insert tx).1 = .ok report) :
    (∃ hearing, pool.Hears tx hearing ∧
        hearing.payload.entries.map hearing.messageOf? = (pool.admitted tx).map some) ∧
      (Collisionless (pool.admitted tx) → report.Itemizes pool.registry (pool.admitted tx)) := by
  obtain ⟨hearing, hhearing, hjudge, hreport⟩ := insert_eq_ok_iff.mp h
  have hadmitted : pool.admitted tx = hearing.judge.1 := by
    unfold admitted
    rw [hhearing]
  constructor
  · refine ⟨hearing, hearing?_eq_some_iff.mp hhearing, ?_⟩
    rw [hadmitted]
    exact Hearing.map_messageOf?_of_judgeEntries hjudge
  · intro hcollisionless
    rw [← hreport, ← hadmitted]
    exact pool.registry.itemizes_insertAll tx (nodup_identity_admitted hcollisionless)

/-- The messages that one insertion admits have different kinds and one epoch, it makes at most four
of them pending, and with more than four keys it fails. If it answers with a report, every key was
admitted, and the report itemizes the messages of the keys, in their order, by what was pending
before the insertion, unless two texts collide. -/
theorem insert_contributes_once_per_kind (pool : Pool ρ) (tx : Transaction) :
    ((pool.admitted tx).Pairwise fun a b => a.kind ≠ b.kind ∧ a.epoch = b.epoch) ∧
      (pool.insert tx).2.pending ≤ pool.pending + 4 ∧
      (∀ payload, tx.payload? = some payload → 4 < payload.entries.length →
        ∃ failure, (pool.insert tx).1 = .error failure) ∧
      ∀ report, (pool.insert tx).1 = .ok report →
        (∃ hearing, pool.Hears tx hearing ∧
          hearing.payload.entries.map hearing.messageOf? = (pool.admitted tx).map some) ∧
        (Collisionless (pool.admitted tx) →
          report.Itemizes pool.registry (pool.admitted tx)) :=
  ⟨pool.pairwise_admitted tx, pool.pending_insert_le tx,
    fun _ hpayload hlength => exists_failure_of_length hpayload hlength,
    fun _ h => contribution_of_ok h⟩

namespace Sample

/-- A transaction with a key of each kind and one more. -/
def overfull : Transaction :=
  signed 2 [("publickey2", [1]), ("privatekey2", [2]), ("heartbeat2", [3]), ("rollcall2", [4]),
    ("rollcall3", [5])]

/-- Both keys of the second transaction are admitted. -/
theorem admitted_announcedAgain :
    (poolAfter [.insert announced]).admitted announcedAgain = validatorMessages := by
  unfold admitted
  rw [hearing?_announcedAgain]
  decide +kernel

/-- The texts of the two keys do not collide. -/
theorem collisionless_announcedAgain :
    Collisionless ((poolAfter [.insert announced]).admitted announcedAgain) := by
  rw [admitted_announcedAgain]
  exact collisionless_of_nodup nodup_identity_validatorMessages

end Sample

/-- The private key of the second transaction is accepted and its public key a duplicate, because
that of the first one is pending, and the transaction with a fifth key fails. -/
theorem insert_itemizes_announcedAgain :
    ((Sample.poolAfter [.insert Sample.announced]).insert Sample.announcedAgain).1 =
        .ok ⟨[messageIdentity .privateKey 2 Sample.validator],
          [messageIdentity .publicKey 2 Sample.validator]⟩ ∧
      FilingReport.Itemizes ⟨[messageIdentity .privateKey 2 Sample.validator],
          [messageIdentity .publicKey 2 Sample.validator]⟩
        (Sample.poolAfter [.insert Sample.announced]).registry
        ((Sample.poolAfter [.insert Sample.announced]).admitted Sample.announcedAgain) ∧
      ∃ failure, ((Sample.poolAfter [.insert Sample.announced]).insert Sample.overfull).1 =
        .error failure := by
  refine ⟨Sample.insert_announcedAgain, ?_, ?_⟩
  · obtain ⟨-, -, -, hreport⟩ := insert_contributes_once_per_kind
      (Sample.poolAfter [.insert Sample.announced]) Sample.announcedAgain
    exact (hreport _ Sample.insert_announcedAgain).2 Sample.collisionless_announcedAgain
  · obtain ⟨-, -, hoverfull, -⟩ := insert_contributes_once_per_kind
      (Sample.poolAfter [.insert Sample.announced]) Sample.overfull
    exact hoverfull _ rfl (by decide)

end Pool

end ControlPool
