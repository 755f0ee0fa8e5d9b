import ControlPool.Proofs.Partition
import ControlPool.Proofs.Survival

/-!
# Runs in which pool and scan agree

In a clean run every offered transaction is answered with a report without duplicates, at heads of
one epoch and with the signer as sender. Then every key of a pending transaction was filed, and at
most one for each kind and sender, so a block of the drained transactions in any order holds exactly
the filed messages, and a block holds nothing if nothing was filed.
-/

namespace ControlPool.Pool

variable {ρ : Type} [SignerRecovery ρ]

/-- A run of a pool without entries in which everything that is offered is filed: nothing is
drained, the recovery always answers alike, every transaction is answered with a report without
duplicates at a head of one epoch, and its sender is its signer. -/
structure CleanRun (pool : Pool ρ) (steps : List (Step ρ)) (epoch : UInt64) : Prop where
  empty : pool.registry.entries = []
  steady : Steady pool.recovery
  keeps : KeepsRecovery steps
  undrained : .drain ∉ steps
  answered : ∀ submission : Submission steps, ∃ report,
    ((pool.after submission.before).insert submission.transaction).1 = .ok report ∧
      report.duplicates = []
  within : ∀ (submission : Submission steps) (head : Head),
    (pool.after submission.before).surroundings.head = .ok head →
      pool.config.schedule.epochAt head.height = epoch
  signed : ∀ (submission : Submission steps) (sender : Address),
    senderOf? pool.config.senderPolicy pool.recovery submission.transaction = some sender →
      signer? pool.recovery submission.transaction = some sender

namespace CleanRun

variable {pool : Pool ρ} {steps : List (Step ρ)} {epoch : UInt64}

/-- In a clean run no key is refused. -/
theorem not_refused (clean : CleanRun pool steps epoch) (offer : Offer pool steps) :
    ¬Nonempty (RefusedKey offer.hearing) := by
  intro hrefused
  obtain ⟨refused⟩ := hrefused
  obtain ⟨report, hanswer, -⟩ := clean.answered offer.toSubmission
  obtain ⟨hearing, hhearing, hjudge, -⟩ := insert_eq_ok_iff.mp hanswer
  rw [hearing?_eq_some_iff.mpr offer.hears] at hhearing
  rw [← Option.some.inj hhearing, Hearing.judge_failure_iff.mpr ⟨refused, rfl⟩] at hjudge
  cases hjudge

/-- In a clean run every admitted message is filed. -/
theorem filed_eq (clean : CleanRun pool steps epoch) (offer : Offer pool steps) :
    (pool.after offer.before).filed offer.transaction =
      (pool.after offer.before).admitted offer.transaction := by
  obtain ⟨report, hanswer, hduplicates⟩ := clean.answered offer.toSubmission
  obtain ⟨hearing, hhearing, -, rfl⟩ := insert_eq_ok_iff.mp hanswer
  rw [filed, admitted, hhearing]
  exact Registry.newcomers_of_duplicates_eq_nil hduplicates

/-- In a clean run the sender of a hearing is the signer. -/
theorem signer?_eq (clean : CleanRun pool steps epoch) (offer : Offer pool steps) :
    signer? pool.recovery offer.transaction = some offer.hearing.sender :=
  clean.signed offer.toSubmission _ (offer.senderOf?_eq clean.steady clean.keeps)

/-- In a clean run all messages are for the epoch after that of the heads. -/
theorem message_epoch (clean : CleanRun pool steps epoch) (filing : Filing pool steps) :
    filing.message.epoch = epoch + 1 := by
  obtain ⟨offer, hfiles⟩ := filing.exists_offer
  obtain ⟨key, hmessage⟩ := hfiles.exists_key
  have hepoch : key.admission.epoch =
      offer.hearing.schedule.upcomingEpoch offer.hearing.head.height :=
    (decideKey_eq_ok_iff.mp key.decided).1
  have hwithin := clean.within offer.toSubmission _ offer.hears.head_eq
  rw [offer.hears.schedule_eq, after_config, Schedule.upcomingEpoch, hwithin] at hepoch
  rw [← hmessage]
  exact hepoch

/-- In a clean run at most one message is filed for a kind and a sender. -/
theorem message_eq (clean : CleanRun pool steps epoch) {first second : Filing pool steps}
    (hkind : first.message.kind = second.message.kind)
    (hsender : first.message.sender = second.message.sender) :
    first.message = second.message := by
  apply Filing.message_eq
  rw [Message.identity, Message.identity, hkind, hsender, clean.message_epoch first,
    clean.message_epoch second]

/-- In a clean run every key of a filed transaction is admitted. -/
theorem exists_admittedKey (clean : CleanRun pool steps epoch) (offer : Offer pool steps)
    {key : String} {value : List UInt8} (hkey : (key, value) ∈ offer.hearing.payload.entries) :
    ∃ admitted : AdmittedKey offer.hearing, admitted.key = key ∧ admitted.value = value := by
  rcases offer.hearing.admitted_or_refused hkey with hadmitted | ⟨refused, -⟩
  · exact hadmitted
  · exact absurd ⟨refused⟩ (clean.not_refused offer)

/-- In a clean run a filed transaction is read completely. -/
theorem readingOf (clean : CleanRun pool steps epoch) (filing : Filing pool steps) :
    ∃ reading, filing.transaction.readingOf pool.recovery = some reading ∧
      Reading.strays (some reading) = [] := by
  obtain ⟨offer, hfiles⟩ := filing.exists_offer
  refine ⟨(offer.hearing.sender, offer.hearing.payload), ?_, ?_⟩
  · rw [← hfiles.transaction_eq, Transaction.readingOf, offer.hears.reads, Option.bind_some,
      clean.signer?_eq offer]
    rfl
  · rw [Reading.strays, List.filter_eq_nil_iff]
    intro key hkey
    obtain ⟨entry, hentry, rfl⟩ := List.mem_map.mp hkey
    obtain ⟨admitted, hadmitted, -⟩ := clean.exists_admittedKey offer hentry
    rw [← hadmitted, admitted.classify?_key]
    exact Bool.false_ne_true

/-- In a clean run a filed message is left in the state by its transaction. -/
theorem mem_stateEntries (clean : CleanRun pool steps epoch) (filing : Filing pool steps) :
    ⟨filing.message.kind, filing.message.sender, filing.message.payload⟩ ∈
      filing.transaction.stateEntries pool.recovery :=
  filing.mem_stateEntries
    (clean.signed filing.toSubmission _ (filing.senderOf?_eq clean.steady clean.keeps))

/-- In a clean run all entries that a filed transaction leaves in the state are filed messages. -/
theorem exists_filing_of_mem (clean : CleanRun pool steps epoch) (filing : Filing pool steps)
    {entry : StateEntry} (hentry : entry ∈ filing.transaction.stateEntries pool.recovery) :
    ∃ other : Filing pool steps, other.message.kind = entry.kind ∧
      other.message.sender = entry.sender ∧ other.message.payload = entry.payload := by
  obtain ⟨offer, hfiles⟩ := filing.exists_offer
  obtain ⟨key, -⟩ := hfiles.exists_key
  rw [← hfiles.transaction_eq] at hentry
  rcases offer.admits_or_overlooks ⟨key⟩ (clean.signer?_eq offer) hentry with
    ⟨hsender, admitted, hkind, hvalue⟩ | ⟨-, -, refused, -⟩
  · have hfiled : admitted.message ∈ (pool.after offer.before).filed offer.transaction := by
      rw [clean.filed_eq offer]
      exact mem_admitted_iff.mpr ⟨offer.hearing, offer.hears, admitted, rfl⟩
    exact ⟨⟨offer.toSubmission, hfiles.undrained, admitted.message, hfiled⟩, hkind, hsender,
      hvalue⟩
  · exact absurd ⟨refused⟩ (clean.not_refused offer)

/-- In a clean run a block with the drained transactions holds those of the filings. -/
theorem mem_transactions_iff (clean : CleanRun pool steps epoch) {txs : List Transaction}
    (hperm : txs.Perm (pool.after steps).drain.1.all) {tx : Transaction} :
    tx ∈ txs ↔ ∃ filing : Filing pool steps, filing.transaction = tx := by
  have hrecovery : (pool.after steps).recovery = pool.recovery :=
    after_recovery_of_steady clean.steady clean.keeps
  rw [hperm.mem_iff]
  constructor
  · intro hdrained
    obtain ⟨entry, hentry, rfl, -⟩ :=
      (mem_all_drain_of_steady (by rw [hrecovery]; exact clean.steady)).mp hdrained
    obtain ⟨filing, hof⟩ := exists_filing clean.empty hentry
    exact ⟨filing, hof.1⟩
  · intro hfiled
    obtain ⟨filing, rfl⟩ := hfiled
    exact mem_all_iff.mpr ⟨_, filing.mem_of_drain clean.steady clean.keeps⟩

/-- In a clean run the state holds a payload exactly if it is that of a filed message. -/
theorem payload?_eq_some_iff (clean : CleanRun pool steps epoch) {txs : List Transaction}
    (hperm : txs.Perm (pool.after steps).drain.1.all) {kind : Kind} {sender : Address}
    {payload : List UInt8} :
    (StateMap.fresh.fileAll (stateEntries pool.recovery txs)).payload? kind sender =
        some payload ↔
      ∃ filing : Filing pool steps, filing.message.kind = kind ∧
        filing.message.sender = sender ∧ filing.message.payload = payload := by
  rw [payload?_fileAll_stateEntries]
  have hfiled {found : List UInt8}
      (hfound : found ∈ txs.flatMap (·.payloadsAt pool.recovery kind sender)) :
      ∃ filing : Filing pool steps, filing.message.kind = kind ∧
        filing.message.sender = sender ∧ filing.message.payload = found := by
    obtain ⟨tx, htx, hentry⟩ := List.mem_flatMap.mp hfound
    obtain ⟨filing, rfl⟩ := (clean.mem_transactions_iff hperm).mp htx
    exact clean.exists_filing_of_mem filing (Transaction.mem_payloadsAt_iff.mp hentry)
  constructor
  · intro hlast
    exact hfiled (List.mem_of_getLast? hlast)
  · intro hmessage
    obtain ⟨filing, rfl, rfl, rfl⟩ := hmessage
    have hown : filing.message.payload ∈ txs.flatMap (·.payloadsAt pool.recovery
        filing.message.kind filing.message.sender) :=
      List.mem_flatMap.mpr ⟨filing.transaction,
        (clean.mem_transactions_iff hperm).mpr ⟨filing, rfl⟩,
        Transaction.mem_payloadsAt_iff.mpr (clean.mem_stateEntries filing)⟩
    obtain ⟨last, hlast⟩ := Option.isSome_iff_exists.mp
      (List.getLast?_isSome.mpr (List.ne_nil_of_mem hown))
    -- The last payload may stand in another copy, but it is filed for the same kind and sender.
    obtain ⟨other, hkind, hsender, hpayload⟩ := hfiled (List.mem_of_getLast? hlast)
    rw [hlast, ← hpayload, clean.message_eq hkind hsender]

/-- In a clean run nothing is skipped or passed over in the block. -/
theorem readings_complete (clean : CleanRun pool steps epoch) {txs : List Transaction}
    (hperm : txs.Perm (pool.after steps).drain.1.all) :
    ((txs.filter (·.isControl)).map (·.readingOf pool.recovery)).countP Option.isNone = 0 ∧
      ((txs.filter (·.isControl)).map (·.readingOf pool.recovery)).flatMap Reading.strays =
        [] := by
  have hread {reading : Reading}
      (h : reading ∈ (txs.filter (·.isControl)).map (·.readingOf pool.recovery)) :
      reading.isNone = false ∧ reading.strays = [] := by
    obtain ⟨tx, htx, rfl⟩ := List.mem_map.mp h
    obtain ⟨filing, rfl⟩ := (clean.mem_transactions_iff hperm).mp (List.mem_filter.mp htx).1
    obtain ⟨found, hfound, hstrays⟩ := clean.readingOf filing
    rw [hfound]
    exact ⟨rfl, hstrays⟩
  constructor
  · rw [List.countP_eq_zero]
    intro reading hreading
    rw [(hread hreading).1]
    exact Bool.false_ne_true
  · rw [List.flatMap_eq_nil_iff]
    intro reading hreading
    exact (hread hreading).2

/-- A clean run that files nothing leaves nothing to drain. -/
theorem drain_entries_eq_nil (clean : CleanRun pool steps epoch)
    (hnone : IsEmpty (Filing pool steps)) : (pool.after steps).drain.1.entries = [] := by
  have hpending : (pool.after steps).registry.entries = [] := by
    rw [List.eq_nil_iff_forall_not_mem]
    intro entry hentry
    obtain ⟨filing, -⟩ := exists_filing clean.empty hentry
    exact hnone.false filing
  rw [drain_groups, hpending]
  rfl

end CleanRun

/-- After a clean run a block of the drained transactions, in any order, holds exactly the filed
messages; if there are none, nothing is drained and nothing is found. -/
theorem extract_of_cleanRun (pool : Pool ρ) (steps : List (Step ρ)) (epoch : UInt64)
    (block : Block) (clean : CleanRun pool steps epoch)
    (hboundary : pool.config.schedule.isBoundary block.header.number = true)
    (hperm : block.transactions.Perm (pool.after steps).drain.1.all) :
    (Nonempty (Filing pool steps) →
      ∃ data, (block.extract pool.config.schedule pool.recovery).1 = .ok (.found data) ∧
        data.skipped = 0 ∧ data.unclassified = 0 ∧
        (∀ kind, (data.state.bucket? kind).isSome = true) ∧
        ∀ kind sender payload, data.state.payload? kind sender = some payload ↔
          ∃ filing : Filing pool steps, filing.message.kind = kind ∧
            filing.message.sender = sender ∧ filing.message.payload = payload) ∧
    (IsEmpty (Filing pool steps) →
      (pool.after steps).drain.1.entries = [] ∧
        (block.extract pool.config.schedule pool.recovery).1 =
          .error (.nothingFound block.header.number)) := by
  rw [block.extract_of_steady clean.steady hboundary]
  constructor
  · intro hfiled
    obtain ⟨filing⟩ := hfiled
    have hentry := clean.mem_stateEntries filing
    have hsome : stateEntries pool.recovery block.transactions ≠ [] :=
      List.ne_nil_of_mem (List.mem_flatMap.mpr
        ⟨filing.transaction, (clean.mem_transactions_iff hperm).mpr ⟨filing, rfl⟩, hentry⟩)
    obtain ⟨hskipped, hstrays⟩ := clean.readings_complete hperm
    rw [if_neg hsome]
    refine ⟨_, rfl, hskipped, congrArg List.length hstrays, ?_, ?_⟩
    · exact StateMap.isSome_bucket?_fileAll_fresh _
    · intro kind sender payload
      exact clean.payload?_eq_some_iff hperm
  · intro hnone
    have hdrained := clean.drain_entries_eq_nil hnone
    refine ⟨hdrained, ?_⟩
    have hblock : block.transactions = [] := by
      rw [BySender.all, hdrained] at hperm
      exact hperm.eq_nil
    rw [hblock]
    rfl

namespace Sample

/-- What a submission of the run of two validators comes behind and offers. -/
theorem submission_gathering
    (submission : Submission (gathering : List (Step SignerTable))) :
    (submission.before = [] ∧ submission.transaction = neighbouring) ∨
      submission.before = [.insert neighbouring] ∧ submission.transaction = announcedAgain := by
  obtain ⟨before, step, since, hsteps, tx, hoffers⟩ := submission
  rcases List.cons_eq_append_iff.mp hsteps with ⟨rfl, hfirst⟩ | ⟨between, rfl, hrest⟩
  · obtain rfl : step = .insert neighbouring := (List.cons.inj hfirst).1
    exact .inl ⟨rfl, (Option.some.inj hoffers).symm⟩
  · rcases List.cons_eq_append_iff.mp hrest with ⟨rfl, hsecond⟩ | ⟨more, rfl, hnone⟩
    · obtain rfl : step = .insert announcedAgain := (List.cons.inj hsecond).1
      exact .inr ⟨rfl, (Option.some.inj hoffers).symm⟩
    · simp at hnone

/-- The run of two validators is clean. -/
theorem cleanRun_gathering : CleanRun shared gathering 1 where
  empty := rfl
  steady := SignerTable.steady _
  keeps := by simp [KeepsRecovery, gathering]
  undrained := by simp [gathering]
  answered := by
    intro submission
    rcases submission_gathering submission with ⟨hbefore, htx⟩ | ⟨hbefore, htx⟩
    · rw [hbefore, htx]
      exact ⟨_, namesBoth_shared.insert_neighbouring.1, rfl⟩
    · rw [hbefore, htx]
      exact ⟨_, namesBoth_shared.insert_announcedAgain.1, rfl⟩
  within := by
    intro submission head hhead
    rcases submission_gathering submission with ⟨hbefore, -⟩ | ⟨hbefore, -⟩
    all_goals
      rw [hbefore] at hhead
      obtain rfl : ⟨150, default⟩ = head := Except.ok.inj hhead
      decide
  signed := by
    intro submission sender hsender
    rwa [← senderOf?_recoveredOnly]

/-- A drain hands out the transaction with two keys twice, and the other validator's behind it. -/
theorem all_drain_gathering :
    (shared.after gathering).drain.1.all = [announcedAgain, announcedAgain, neighbouring] := by
  rw [drain_eq_foldl, attributed_shared]
  rfl

/-- A block in which the other validator's transaction stands between. -/
def interleaved : Block :=
  ⟨⟨200, default, default⟩, [announcedAgain, neighbouring, announcedAgain]⟩

end Sample

open Sample in
/-- After the run of two validators a block with what is drained, in another order, holds the three
filed messages and nothing else. -/
theorem extract_of_cleanRun_gathering :
    (shared.after gathering).drain.1.all = [announcedAgain, announcedAgain, neighbouring] ∧
      ∃ data, (interleaved.extract Sample.config.schedule shared.recovery).1 = .ok (.found data) ∧
        data.skipped = 0 ∧ data.unclassified = 0 ∧
        (∀ kind, (data.state.bucket? kind).isSome = true) ∧
        ∀ kind sender payload, data.state.payload? kind sender = some payload ↔
          ∃ filing : Filing shared gathering, filing.message.kind = kind ∧
            filing.message.sender = sender ∧ filing.message.payload = payload := by
  refine ⟨all_drain_gathering, ?_⟩
  have hperm : interleaved.transactions.Perm (shared.after gathering).drain.1.all := by
    rw [all_drain_gathering]
    exact .cons _ (.swap _ _ _)
  have hregistry : (shared.after gathering).registry = ⟨gathered, 3⟩ :=
    namesBoth_shared.insert_announcedAgain.2
  have hentry : ⟨messageIdentity .publicKey 2 neighbour, neighbouring, 0⟩ ∈
      (shared.after gathering).registry.entries := by
    rw [hregistry]
    exact List.mem_cons_self
  have hfiled : Nonempty (Filing shared gathering) :=
    (exists_filing rfl hentry).nonempty
  exact (extract_of_cleanRun shared gathering 1 interleaved cleanRun_gathering (by decide)
    hperm).1 hfiled

end ControlPool.Pool
