import ControlPool.Proofs.Inclusion

/-!
# A drain partitions what is pending

A drain asks for the sender of each pending entry anew, in order of arrival, and each question may
change the recovery that answers the next. Each entry whose sender is found is handed out once, with
that sender and behind the earlier entries of the same sender, and only the others are lost. A
recovery that stays as it is finds for each entry the sender for which it was admitted, so nothing
is lost.
-/

namespace ControlPool.Pool

/-- A transaction that is added to those of its sender is one more of all. -/
theorem all_addTo (groups : BySender) (sender : Address) (tx : Transaction) :
    (BySender.all (addTo groups sender tx)).Perm (BySender.all groups ++ [tx]) := by
  obtain ⟨before, after, hadded, hgroups⟩ :=
    groups.exists_insert sender (((groups.get? sender).getD []) ++ [tx])
  have hgroup : (((groups.get? sender).map (sender, ·)).toList).flatMap (·.2) =
      (groups.get? sender).getD [] := by
    cases groups.get? sender <;> simp
  simp only [BySender.all, addTo, hadded, hgroups, List.flatMap_append, List.flatMap_cons, hgroup,
    List.append_assoc]
  -- Behind its group the transaction stands in front of the later senders.
  exact .append_left _ (.append_left _ List.perm_append_comm)

/-- Transactions that are added one after the other are handed out beside those that were there. -/
theorem all_foldl_addTo (found : List (Address × Transaction)) (groups : BySender) :
    (BySender.all (found.foldl (fun groups found => addTo groups found.1 found.2) groups)).Perm
      (BySender.all groups ++ found.map (·.2)) := by
  induction found generalizing groups with
  | nil => simp
  | cons first found ih =>
    have hadded := (all_addTo groups first.1 first.2).append_right (found.map (·.2))
    rw [List.append_assoc, List.singleton_append] at hadded
    exact (ih _).trans hadded

/-- Whether every sender that is listed has a transaction. -/
def BySender.Populated (groups : BySender) : Prop := ∀ group ∈ groups.entries, group.2 ≠ []

/-- Adding a transaction lists no sender without one. -/
theorem populated_addTo {groups : BySender} (h : groups.Populated) (sender : Address)
    (tx : Transaction) : BySender.Populated (addTo groups sender tx) := by
  intro group hgroup
  rcases OrderedMap.mem_insertEntry hgroup with rfl | hgroup
  · exact List.append_ne_nil_of_right_ne_nil _ (List.cons_ne_nil _ _)
  · exact h group hgroup

/-- Adding transactions one after the other lists no sender without one. -/
theorem populated_foldl_addTo (found : List (Address × Transaction)) {groups : BySender}
    (h : groups.Populated) :
    BySender.Populated
      (found.foldl (fun groups found => addTo groups found.1 found.2) groups) := by
  induction found generalizing groups with
  | nil => exact h
  | cons first found ih => exact ih (populated_addTo h first.1 first.2)

variable {ρ : Type} [SignerRecovery ρ]

/-- The transactions that are handed out are those of the entries whose sender is found, each
once. -/
theorem all_drain_perm (pool : Pool ρ) :
    pool.drain.1.all.Perm ((pool.attributed.1.filter (·.sender?.isSome)).map
      (·.entry.transaction)) := by
  have hfound : (pool.attributed.1.filterMap fun attribution =>
        attribution.sender?.map (·, attribution.entry.transaction)).map (·.2) =
      (pool.attributed.1.filter (·.sender?.isSome)).map (·.entry.transaction) := by
    induction pool.attributed.1 with
    | nil => rfl
    | cons attribution attributions ih =>
      rw [List.filterMap_cons, List.filter_cons]
      cases hsender : attribution.sender? with
      | none => simpa using ih
      | some found => simpa using ih
  rw [pool.drain_eq_foldl, ← hfound]
  exact all_foldl_addTo _ .empty

/-- After a run with a steady recovery, the sender that is found for a pending entry is the one for
which it was filed. -/
theorem exists_filing_of_attributed {pool : Pool ρ} (hempty : pool.registry.entries = [])
    (hsteady : Steady pool.recovery) {steps : List (Step ρ)} (hkeeps : KeepsRecovery steps)
    {attribution : Attribution} (h : attribution ∈ (pool.after steps).attributed.1) :
    ∃ filing : Filing pool steps, filing.Of attribution.entry ∧
      attribution.sender? = some filing.message.sender := by
  have hrecovery := after_recovery_of_steady hsteady hkeeps
  rw [attributed_of_steady (by rw [hrecovery]; exact hsteady), after_config, hrecovery,
    List.mem_map] at h
  obtain ⟨entry, hentry, rfl⟩ := h
  obtain ⟨filing, hof⟩ := exists_filing hempty hentry
  refine ⟨filing, hof, ?_⟩
  rw [← hof.1]
  exact filing.senderOf?_eq hsteady hkeeps

/-- A drain after a run leaves nothing pending and hands out the entries whose sender is found, each
once, grouped by sender and in order of arrival, whatever the recovery answers. With a steady
recovery these are all entries, each with the sender for which it was filed. -/
theorem drain_partitions_pending (config : Config) (surroundings : Surroundings) (recovery : ρ)
    (steps : List (Step ρ)) (pool : Pool ρ)
    (hpool : (new config surroundings recovery).after steps = pool) :
    pool.drain.2.registry.entries = [] ∧
      pool.attributed.1.map (·.entry) = pool.registry.entries ∧
      pool.drain.2.recovery = pool.attributed.2 ∧
      (∀ sender, pool.drain.1.of sender =
        (pool.attributed.1.filter (·.sender? = some sender)).map (·.entry.transaction)) ∧
      (∀ group ∈ pool.drain.1.entries, group.2 ≠ []) ∧
      pool.drain.1.all.Perm
        ((pool.attributed.1.filter (·.sender?.isSome)).map (·.entry.transaction)) ∧
      pool.drain.2.drain.1 = .empty ∧
      (Steady recovery → KeepsRecovery steps →
        pool.drain.1.all.length = pool.pending ∧
          ∀ attribution ∈ pool.attributed.1,
            ∃ filing : Filing (new config surroundings recovery) steps,
              filing.Of attribution.entry ∧
                attribution.sender? = some filing.message.sender) := by
  have hentries := map_entry_askSenders pool.config.senderPolicy pool.registry.entries pool.recovery
  refine ⟨rfl, hentries, pool.drain_recovery, pool.of_drain, ?_,
    pool.all_drain_perm, rfl, ?_⟩
  · rw [pool.drain_eq_foldl]
    exact populated_foldl_addTo _ (fun group hgroup => nomatch hgroup)
  · intro hsteady hkeeps
    have hfilings (attribution : Attribution) (h : attribution ∈ pool.attributed.1) :
        ∃ filing : Filing (new config surroundings recovery) steps,
          filing.Of attribution.entry ∧ attribution.sender? = some filing.message.sender := by
      rw [← hpool] at h
      exact exists_filing_of_attributed rfl hsteady hkeeps h
    refine ⟨?_, hfilings⟩
    have hall : pool.attributed.1.filter (·.sender?.isSome) = pool.attributed.1 := by
      rw [List.filter_eq_self]
      intro attribution h
      obtain ⟨filing, -, hsender⟩ := hfilings attribution h
      rw [hsender]
      rfl
    rw [pool.all_drain_perm.length_eq, hall, List.length_map, pending, Registry.size,
      ← hentries, List.length_map]
    rfl

namespace Sample

/-- A transaction with a private key and a public key. -/
def announcedAgain : Transaction := signed 1 [("privatekey2", [3]), ("publickey2", [2])]

/-- The address of another validator. -/
def neighbour : Address := .replicate 20 0x22

/-- A pool that knows both validators. -/
def shared : Pool SignerTable :=
  new config ⟨.ok ⟨150, default⟩,
    fun _ role => .ok (if role = .validator then [validator, neighbour] else [])⟩
    (table.add [8] neighbour)

/-- The transaction of the other validator, with a public key too. -/
def neighbouring : Transaction := { announced with signature := [8] }

/-- The message of the other validator's transaction. -/
def neighbourMessages : List Message := [⟨.publicKey, 2, neighbour, [1]⟩]

/-- The messages of the transaction with two keys. -/
def validatorMessages : List Message :=
  [⟨.privateKey, 2, validator, [3]⟩, ⟨.publicKey, 2, validator, [2]⟩]

set_option maxRecDepth 10000 in
/-- The three messages have different identities. -/
theorem nodup_identity_messages :
    ((neighbourMessages ++ validatorMessages).map Message.identity).Nodup := by decide +kernel

/-- The two keys of one validator have different identities. -/
theorem nodup_identity_validatorMessages : (validatorMessages.map Message.identity).Nodup := by
  have hnodup := nodup_identity_messages
  rw [List.map_append] at hnodup
  exact hnodup.of_append_right

/-- The public keys of the two validators have different identities. -/
theorem nodup_identity_publicKeys :
    [messageIdentity .publicKey 2 neighbour, messageIdentity .publicKey 2 validator].Nodup :=
  nodup_identity_messages.sublist (.cons_cons _ (.cons _ (.cons_cons _ .slnil)))

/-- A run in which the other validator files one key and the validator two. -/
def gathering {ρ : Type} : List (Step ρ) := [.insert neighbouring, .insert announcedAgain]

/-- The entries that the run files. -/
def gathered : List Arrival :=
  Registry.arrivals neighbouring 0 neighbourMessages ++
    Registry.arrivals announcedAgain 1 validatorMessages

/-- What is heard of a sender in the pool that knows both validators. -/
def heard (sender : Address) (entries : List (String × List UInt8)) : Hearing :=
  ⟨config.schedule, shared.surroundings.roles, ⟨150, default⟩, sender, .ofList entries⟩

section

variable {ρ : Type} [SignerRecovery ρ]

/-- The pool that knows both validators, with any recovery. -/
def sharing (recovery : ρ) : Pool ρ := new config shared.surroundings recovery

/-- Whether a recovery names the signers of both transactions when it is asked for one after the
other. -/
structure NamesBoth (recovery : ρ) : Prop where
  first : (sharing recovery).hearing? neighbouring =
    some (heard neighbour [("publickey2", [1])])
  second : ((sharing recovery).insert neighbouring).2.hearing? announcedAgain =
    some (heard validator [("privatekey2", [3]), ("publickey2", [2])])

namespace NamesBoth

variable {recovery : ρ}

/-- The other validator's key is filed. -/
theorem insert_neighbouring (h : NamesBoth recovery) :
    ((sharing recovery).insert neighbouring).1 =
        .ok ⟨neighbourMessages.map Message.identity, []⟩ ∧
      ((sharing recovery).insert neighbouring).2.registry =
        ⟨Registry.arrivals neighbouring 0 neighbourMessages, 1⟩ :=
  insert_of_new h.first rfl (List.nodup_singleton _) fun _ _ => List.not_mem_nil

/-- Both keys of the validator are filed behind it. -/
theorem insert_announcedAgain (h : NamesBoth recovery) :
    (((sharing recovery).insert neighbouring).2.insert announcedAgain).1 =
        .ok ⟨validatorMessages.map Message.identity, []⟩ ∧
      ((sharing recovery).after gathering).registry = ⟨gathered, 3⟩ := by
  have hregistry := h.insert_neighbouring.2
  have hnew : ∀ message ∈ validatorMessages,
      message.identity ∉ ((sharing recovery).insert neighbouring).2.registry.identities := by
    intro message hmessage hpending
    have hnodup := nodup_identity_messages
    rw [List.map_append] at hnodup
    rw [Registry.identities, hregistry, Registry.map_identity_arrivals] at hpending
    exact hnodup.disjoint hpending (List.mem_map_of_mem hmessage)
  obtain ⟨hanswer, hafter⟩ :=
    insert_of_new h.second rfl nodup_identity_validatorMessages hnew
  refine ⟨hanswer, hafter.trans ?_⟩
  rw [hregistry]
  rfl

/-- A drain asks the recovery about the three entries. -/
theorem attributed_gathering (h : NamesBoth recovery) :
    ((sharing recovery).after gathering).attributed =
      askSenders .recoveredOnly gathered
        (findSender .recoveredOnly (findSender .recoveredOnly recovery neighbouring).2
          announcedAgain).2 := by
  have hafter : (sharing recovery).after gathering =
      (((sharing recovery).insert neighbouring).2.insert announcedAgain).2 := rfl
  have hrecovery : ((sharing recovery).after gathering).recovery =
      (findSender .recoveredOnly (findSender .recoveredOnly recovery neighbouring).2
        announcedAgain).2 := by
    rw [hafter, insert_recovery_of_hearing h.second, insert_config,
      insert_recovery_of_hearing h.first]
    rfl
  rw [attributed, after_config, h.insert_announcedAgain.2, hrecovery]
  rfl

end NamesBoth

end

/-- The recovery of the pool that knows both validators names both. -/
theorem namesBoth_shared : NamesBoth shared.recovery := ⟨by rfl, by rfl⟩

/-- A drain of the shared pool asks about the three entries. -/
theorem attributed_shared : (shared.after gathering).attributed =
    askSenders .recoveredOnly gathered shared.recovery :=
  namesBoth_shared.attributed_gathering

/-- A recovery that has four answers left. -/
def rationed : Metered SignerTable := ⟨shared.recovery, some 4⟩

/-- The first two answers name both. -/
theorem namesBoth_rationed : NamesBoth rationed := ⟨by rfl, by rfl⟩

end Sample

open Sample in
/-- All three entries of two validators are handed out, the transaction with two keys twice. With only
two answers left after the insertions the last entry is lost, though three were pending. -/
theorem gathered_partition :
    ((shared.after gathering).drain.1.of validator = [announcedAgain, announcedAgain] ∧
      (shared.after gathering).drain.1.of neighbour = [neighbouring] ∧
      (shared.after gathering).drain.1.all.length = (shared.after gathering).pending) ∧
    ((sharing rationed).after gathering).pending = 3 ∧
      ((sharing rationed).after gathering).drain.1.of validator = [announcedAgain] ∧
      ((sharing rationed).after gathering).drain.1.all.Perm [neighbouring, announcedAgain] ∧
      ((sharing rationed).after gathering).drain.2.registry.entries = [] := by
  constructor
  · obtain ⟨-, -, -, hof, -, -, -, hall⟩ := drain_partitions_pending Sample.config
      shared.surroundings shared.recovery gathering (shared.after gathering) rfl
    refine ⟨?_, ?_, (hall (SignerTable.steady _) (by simp [KeepsRecovery, gathering])).1⟩
    · rw [hof, attributed_shared]
      rfl
    · rw [hof, attributed_shared]
      rfl
  · obtain ⟨hgone, -, -, hof, -, hall, -, -⟩ := drain_partitions_pending Sample.config
      shared.surroundings rationed gathering ((sharing rationed).after gathering) rfl
    have hattributed := namesBoth_rationed.attributed_gathering
    refine ⟨?_, ?_, ?_, hgone⟩
    · rw [pending, namesBoth_rationed.insert_announcedAgain.2]
      rfl
    · rw [hof, hattributed]
      rfl
    · rw [hattributed] at hall
      exact hall

end ControlPool.Pool
