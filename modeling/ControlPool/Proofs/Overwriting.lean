import ControlPool.Proofs.Partition

/-!
# Which payload stays

The registry keeps the first message of an identity and a scan the last payload of a kind and a
sender. Where senders are recovered from signatures, a block of drained transactions holds for each
filed message the payload that comes last among those of its kind in the pending transactions of its
sender. It is that of the message itself unless a transaction that was filed later, for another
message, carries a key of the kind too or the step that filed the message overlooked such a key.
-/

namespace ControlPool

/-- Of entries that arrive together the last one yields what each of them yields. -/
theorem Registry.getLast?_flatMap_arrivals {β : Type} (f : Transaction → List β)
    {messages : List Message} (hmessages : messages ≠ []) (tx : Transaction) (number : Nat) :
    ((arrivals tx number messages).flatMap (f ·.transaction)).getLast? = (f tx).getLast? := by
  induction messages generalizing number with
  | nil => exact absurd rfl hmessages
  | cons message messages ih =>
    rw [arrivals, List.flatMap_cons, List.getLast?_append]
    by_cases hrest : messages = []
    · rw [hrest]
      rfl
    · rw [ih hrest]
      exact Option.or_self

namespace Pool

variable {ρ : Type} [SignerRecovery ρ]

/-- Where senders are recovered from signatures, the listed transactions of a drain leave under a
kind and a sender the payloads of the pending ones, in order of arrival. -/
theorem flatMap_payloadsAt_of_lists {pool : Pool ρ} (hsteady : Steady pool.recovery)
    (hpolicy : pool.config.senderPolicy = .recoveredOnly) {txs : List Transaction}
    (hlists : pool.drain.1.Lists txs) (kind : Kind) (sender : Address) :
    txs.flatMap (·.payloadsAt pool.recovery kind sender) =
      pool.registry.entries.flatMap (·.transaction.payloadsAt pool.recovery kind sender) := by
  rw [flatMap_of_lists hlists sender, of_drain_of_steady hsteady, hpolicy]
  · rw [← List.flatMap_map (fun entry : Arrival => entry.transaction)]
    refine flatMap_payloadsAt_filter (fun tx hother => ?_) _
    rw [decide_eq_false_iff_not, senderOf?_recoveredOnly] at hother
    exact Transaction.payloadsAt_eq_nil hother kind
  · intro other hother tx htx
    rw [of_drain_of_steady hsteady, hpolicy, List.mem_filter, decide_eq_true_eq,
      senderOf?_recoveredOnly] at htx
    apply Transaction.payloadsAt_eq_nil
    rw [htx.2]
    exact fun hsame => hother (Option.some.inj hsame)

namespace Filing

variable {pool : Pool ρ} {steps : List (Step ρ)}

/-- Whether a payload comes from a transaction that was filed later, for another message, under the
kind and the sender of a filed message. -/
def Superseded (filing : Filing pool steps) (recovery : ρ) (payload : List UInt8) : Prop :=
  ∃ later : Filing pool steps, filing.Earlier later.toSubmission ∧
    later.message.identity ≠ filing.message.identity ∧
    ⟨filing.message.kind, filing.message.sender, payload⟩ ∈
      later.transaction.stateEntries recovery

/-- Whether the step that filed a message overlooked a payload under its kind and its sender. -/
def Overlooked (filing : Filing pool steps) (payload : List UInt8) : Prop :=
  ∃ offer : Offer pool steps, offer.Files filing ∧
    offer.Overlooks ⟨filing.message.kind, filing.message.sender, payload⟩

/-- The transaction of a filing leaves its message in the state, and what else it leaves under the
kind and the sender of the message is overlooked. -/
theorem exists_payloadsAt (filing : Filing pool steps) (hsteady : Steady pool.recovery)
    (hkeeps : KeepsRecovery steps) (hpolicy : pool.config.senderPolicy = .recoveredOnly) :
    ∃ payload, (filing.transaction.payloadsAt pool.recovery filing.message.kind
        filing.message.sender).getLast? = some payload ∧
      (payload = filing.message.payload ∨ filing.Overlooked payload) := by
  obtain ⟨offer, hfiles⟩ := filing.exists_offer
  obtain ⟨key, hmessage⟩ := hfiles.exists_key
  have hsigner := offer.signer?_of_recoveredOnly hsteady hkeeps hpolicy
  have hown := offer.mem_stateEntries_of_key hsigner key
  have hsender : offer.hearing.sender = filing.message.sender := by rw [← hmessage]; rfl
  rw [hfiles.transaction_eq, hmessage, hsender, ← Transaction.mem_payloadsAt_iff] at hown
  obtain ⟨payload, hlast⟩ := Option.isSome_iff_exists.mp
    (List.getLast?_isSome.mpr (List.ne_nil_of_mem hown))
  refine ⟨payload, hlast, ?_⟩
  have hentry := Transaction.mem_payloadsAt_iff.mp (List.mem_of_getLast? hlast)
  rw [← hfiles.transaction_eq] at hentry
  rcases offer.admits_or_overlooks ⟨key⟩ hsigner hentry with ⟨-, admitted, hkind, hvalue⟩ | hover
  · have hsame : admitted.message = key.message :=
      admitted.message_eq key (by rw [hkind, hmessage])
    left
    rw [← hmessage, ← hsame]
    exact hvalue.symm
  · exact .inr ⟨offer, hfiles, hover⟩

/-- The last payload that the pending transactions leave under the kind and the sender of a filed
message is its own, one of a transaction that was filed later, or one that was overlooked. -/
theorem getLast?_payloadsAt (filing : Filing pool steps) (hsteady : Steady pool.recovery)
    (hkeeps : KeepsRecovery steps) (hpolicy : pool.config.senderPolicy = .recoveredOnly) :
    ∃ payload, ((pool.after steps).registry.entries.flatMap
        (·.transaction.payloadsAt pool.recovery filing.message.kind
          filing.message.sender)).getLast? = some payload ∧
      (payload = filing.message.payload ∨ filing.Superseded pool.recovery payload ∨
        filing.Overlooked payload) := by
  obtain ⟨later, hentries, hlater⟩ := filing.entries_eq
  obtain ⟨own, hown, hcause⟩ := filing.exists_payloadsAt hsteady hkeeps hpolicy
  rw [hentries, List.flatMap_append, List.flatMap_append, List.getLast?_append,
    List.getLast?_append, Registry.getLast?_flatMap_arrivals _ (List.ne_nil_of_mem filing.filed),
    hown]
  -- What later filings leave comes last; if they leave nothing, the transaction itself decides.
  cases hlast : (later.flatMap (·.transaction.payloadsAt pool.recovery filing.message.kind
      filing.message.sender)).getLast? with
  | none => exact ⟨own, rfl, hcause.imp_right .inr⟩
  | some payload =>
    refine ⟨payload, rfl, .inr (.inl ?_)⟩
    obtain ⟨entry, hentry, hpayload⟩ := List.mem_flatMap.mp (List.mem_of_getLast? hlast)
    obtain ⟨other, hearlier, htransaction, -⟩ := hlater entry hentry
    rw [Transaction.mem_payloadsAt_iff, ← htransaction] at hpayload
    exact ⟨other, hearlier, (identity_ne_of_earlier hearlier).symm, hpayload⟩

end Filing

/-- For every filed message a block of drained transactions holds the payload that comes last in
order of arrival under its kind and its sender: its own unless a transaction that was filed later,
for another message, carries another, or one was overlooked when the message was filed. -/
theorem extracted_payload_of_filing (config : Config) (surroundings : Surroundings) (recovery : ρ)
    (steps : List (Step ρ)) (block : Block)
    (filing : Filing (new config surroundings recovery) steps)
    (hpolicy : config.senderPolicy = .recoveredOnly) (hsteady : Steady recovery)
    (hkeeps : KeepsRecovery steps)
    (hboundary : config.schedule.isBoundary block.header.number = true)
    (hlists : ((new config surroundings recovery).after steps).drain.1.Lists
      block.transactions) :
    ∃ data payload, (block.extract config.schedule recovery).1 = .ok (.found data) ∧
      data.state.payload? filing.message.kind filing.message.sender = some payload ∧
      (((new config surroundings recovery).after steps).registry.entries.flatMap
        (·.transaction.payloadsAt recovery filing.message.kind
          filing.message.sender)).getLast? = some payload ∧
      (payload = filing.message.payload ∨ filing.Superseded recovery payload ∨
        filing.Overlooked payload) := by
  obtain ⟨payload, hlast, hcause⟩ := filing.getLast?_payloadsAt hsteady hkeeps hpolicy
  have hrecovery : ((new config surroundings recovery).after steps).recovery = recovery :=
    after_recovery_of_steady hsteady hkeeps
  have hdrained := flatMap_payloadsAt_of_lists (by rw [hrecovery]; exact hsteady)
    (by rw [after_config]; exact hpolicy) hlists filing.message.kind filing.message.sender
  rw [hrecovery] at hdrained
  have hpayload : (StateMap.fresh.fileAll (stateEntries recovery block.transactions)).payload?
      filing.message.kind filing.message.sender = some payload := by
    rw [payload?_fileAll_stateEntries, hdrained]
    exact hlast
  have hsome : stateEntries recovery block.transactions ≠ [] := by
    intro hnone
    rw [hnone, StateMap.fileAll, List.foldl_nil, StateMap.payload?_fresh] at hpayload
    cases hpayload
  rw [block.extract_of_steady hsteady hboundary, if_neg hsome]
  exact ⟨_, payload, rfl, hpayload, hlast, hcause⟩

namespace Sample

/-- A run that inserts the public key, and then a private key and another public key. -/
def twice : List (Step SignerTable) := [.insert announced, .insert announcedAgain]

/-- What a block holds after the run. -/
def twiceData : BlockData :=
  ⟨200, StateMap.fresh.fileAll
    [⟨.publicKey, validator, [1]⟩, ⟨.privateKey, validator, [3]⟩, ⟨.publicKey, validator, [2]⟩],
    0, 0⟩

/-- The first transaction is filed for its public key. -/
def firstFiling : Filing (new config surroundings table) twice :=
  publicKeyFiling [.insert announcedAgain] (by simp)

/-- The registry after the first transaction. -/
def registryOnce : Registry :=
  Registry.empty.push (messageIdentity .publicKey 2 validator) announced

/-- The registry after both. -/
def registryTwice : Registry :=
  registryOnce.push (messageIdentity .privateKey 2 validator) announcedAgain

/-- The hearing of the second transaction. -/
def secondHearing : Hearing :=
  ⟨config.schedule, surroundings.roles, ⟨150, default⟩, validator,
    .ofList [("privatekey2", [3]), ("publickey2", [2])]⟩

/-- The second transaction is heard. -/
theorem hearing?_announcedAgain :
    (poolAfter [.insert announced]).hearing? announcedAgain = some secondHearing := by rfl

/-- Of the second transaction the private key is filed and the public key is a duplicate. -/
theorem insertAll_announcedAgain :
    (poolAfter [.insert announced]).registry.insertAll announcedAgain secondHearing.judge.1 =
      (⟨[messageIdentity .privateKey 2 validator], [messageIdentity .publicKey 2 validator]⟩,
        registryTwice) := by
  have honce : (poolAfter [.insert announced]).registry = registryOnce := by rfl
  have hjudge : secondHearing.judge.1 = validatorMessages := by decide +kernel
  have hidentities : registryOnce.identities = [messageIdentity .publicKey 2 validator] :=
    Registry.identities_push _ _ _
  rw [honce, hjudge]
  apply Registry.insertAll_new_known
  · rw [hidentities]
    exact (List.nodup_cons.mp nodup_identity_validatorMessages).1
  · rw [hidentities, List.mem_singleton]
    rfl

/-- The second insertion reports the duplicate. -/
theorem insert_announcedAgain :
    ((poolAfter [.insert announced]).insert announcedAgain).1 =
      .ok ⟨[messageIdentity .privateKey 2 validator],
        [messageIdentity .publicKey 2 validator]⟩ := by
  have hjudge : secondHearing.judge.2 = none := by decide +kernel
  rw [insert_answer_of_hearing hearing?_announcedAgain, insertAll_announcedAgain, hjudge]

/-- The block holds both transactions, in their order. -/
theorem blockAfter_twice :
    blockAfter twice = ⟨⟨200, default, default⟩, [announced, announcedAgain]⟩ := by
  have hafter : poolAfter twice =
      ((poolAfter [.insert announced]).insert announcedAgain).2 :=
    poolAfter_insert [.insert announced] announcedAgain
  have hregistry : (poolAfter twice).registry = registryTwice := by
    rw [hafter, insert_registry_of_hearing hearing?_announcedAgain, insertAll_announcedAgain]
  have hrecovery : (poolAfter twice).recovery = table :=
    after_recovery_of_steady table.steady (by simp [KeepsRecovery, twice])
  have hconfig : (poolAfter twice).config = config := after_config _ _
  rw [blockAfter, drain_groups, hrecovery, hconfig, hregistry]
  rfl

end Sample

/-- A block holds the public key that the second insertion reported as a duplicate, and not the one
that the first insertion filed. -/
theorem duplicate_publicKey_extracted :
    Sample.firstFiling.message = ⟨.publicKey, 2, Sample.validator, [1]⟩ ∧
      ((Sample.poolAfter [.insert Sample.announced]).insert Sample.announcedAgain).1 =
        .ok ⟨[messageIdentity .privateKey 2 Sample.validator],
          [messageIdentity .publicKey 2 Sample.validator]⟩ ∧
      ((Sample.blockAfter Sample.twice).extract Sample.config.schedule Sample.table).1 =
        .ok (.found Sample.twiceData) ∧
      Sample.twiceData.state.payload? .publicKey Sample.validator = some [2] := by
  refine ⟨rfl, Sample.insert_announcedAgain, ?_, by rfl⟩
  rw [Sample.blockAfter_twice]
  rfl

/-- The payload that a block holds after the run with a duplicate is accounted for. -/
theorem extracted_payload_of_firstFiling :
    ∃ data payload, ((Sample.blockAfter Sample.twice).extract Sample.config.schedule
        Sample.table).1 = .ok (.found data) ∧
      data.state.payload? Sample.firstFiling.message.kind
        Sample.firstFiling.message.sender = some payload ∧
      (((new Sample.config Sample.surroundings Sample.table).after
        Sample.twice).registry.entries.flatMap (·.transaction.payloadsAt Sample.table
          Sample.firstFiling.message.kind
          Sample.firstFiling.message.sender)).getLast? = some payload ∧
      (payload = Sample.firstFiling.message.payload ∨
        Sample.firstFiling.Superseded Sample.table payload ∨
        Sample.firstFiling.Overlooked payload) :=
  extracted_payload_of_filing Sample.config Sample.surroundings Sample.table Sample.twice
    (Sample.blockAfter Sample.twice) Sample.firstFiling rfl Sample.table.steady
    (by simp [KeepsRecovery, Sample.twice]) (by decide) (Sample.lists_blockAfter Sample.twice)

end Pool

end ControlPool
