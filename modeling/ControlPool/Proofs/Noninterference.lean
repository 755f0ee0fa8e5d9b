import ControlPool.Proofs.Frame
import ControlPool.Proofs.Identity
import ControlPool.Proofs.Partition
import Mathlib.Data.Set.Insert

/-!
# Senders do not interfere

Deleting from a run the steps that offer transactions of others changes neither the answers to the
remaining offers nor what drains hand out for the senders that are left. The two runs number their
entries differently and hold different ones, but those of the senders that are left are the same, in
the same order. An entry of another sender would be in the way only under the identity of a message
of one that is left, and that takes a collision of hashes.
-/

namespace ControlPool

namespace Registry

/-- The entries of arriving messages have their identities and their transaction. -/
theorem map_record_arrivals (tx : Transaction) (number : Nat) (messages : List Message) :
    (arrivals tx number messages).map (fun entry => (entry.identity, entry.transaction)) =
      messages.map fun message => (message.identity, tx) := by
  induction messages generalizing number with
  | nil => rfl
  | cons message messages ih => rw [arrivals, List.map_cons, List.map_cons, ih]

/-- Arriving messages have one transaction, so a test of it keeps the entries of all or of none. -/
theorem filter_arrivals (test : Transaction → Bool) (tx : Transaction) (number : Nat)
    (messages : List Message) :
    (arrivals tx number messages).filter (fun entry => test entry.transaction) =
      if test tx then arrivals tx number messages else [] := by
  induction messages generalizing number with
  | nil => cases test tx <;> rfl
  | cons message messages ih =>
    rw [arrivals, List.filter_cons, ih]
    cases test tx <;> rfl

end Registry

namespace Pool

variable {ρ : Type}

/-- Whether messages with the same identity have the same text, so that no two texts collide. -/
def Collisionless (messages : List Message) : Prop :=
  ∀ message ∈ messages, ∀ other ∈ messages, message.identity = other.identity →
    identityText message.kind message.epoch message.sender =
      identityText other.kind other.epoch other.sender

/-- The texts of messages with different identities do not collide. -/
theorem collisionless_of_nodup {messages : List Message}
    (h : (messages.map Message.identity).Nodup) : Collisionless messages := by
  intro message hmessage other hother hsame
  rw [List.inj_on_of_nodup_map h hmessage hother hsame]

/-- Messages with the same identity have the same sender if no two texts collide. -/
theorem Collisionless.sender_eq {messages : List Message} (hcollisionless : Collisionless messages)
    {message other : Message} (hmessage : message ∈ messages) (hother : other ∈ messages)
    (h : message.identity = other.identity) : message.sender = other.sender :=
  (identityText_eq_iff.mp (hcollisionless message hmessage other hother h)).2.2

/-- A sender that is listed with transactions is looked up by them. -/
theorem get?_congr {groups others : BySender} (hgroups : groups.Populated)
    (hothers : others.Populated) {sender : Address} (h : groups.of sender = others.of sender) :
    groups.get? sender = others.get? sender := by
  have hlisted {listed : BySender} (hpopulated : listed.Populated) :
      listed.get? sender =
        if listed.of sender = [] then none else some (listed.of sender) := by
    rw [BySender.of]
    cases hgroup : listed.get? sender with
    | none => rfl
    | some txs =>
      have htxs : txs ≠ [] := hpopulated _ (OrderedMap.get?_eq_some_iff.mp hgroup)
      rw [Option.getD_some, if_neg htxs]
  rw [hlisted hgroups, hlisted hothers, h]

variable [SignerRecovery ρ]

/-- A drain lists no sender without a transaction. -/
theorem populated_drain (pool : Pool ρ) : pool.drain.1.Populated := by
  rw [drain_eq_foldl]
  exact populated_foldl_addTo _ (fun group hgroup => nomatch hgroup)

/-- An admitted message is one of the sender of its transaction. -/
theorem senderOf?_of_mem_admitted {pool : Pool ρ} {tx : Transaction} {message : Message}
    (h : message ∈ pool.admitted tx) :
    senderOf? pool.config.senderPolicy pool.recovery tx = some message.sender := by
  obtain ⟨hearing, hhears, key, rfl⟩ := mem_admitted_iff.mp h
  exact hhears.found

/-- The messages that are admitted in the course of a run. -/
def admittedDuring (pool : Pool ρ) : List (Step ρ) → List Message
  | [] => []
  | step :: steps =>
    (step.offer?.elim [] pool.admitted) ++ admittedDuring (pool.step step).2 steps

section Others

variable (senders : Set Address) [DecidablePred (· ∈ senders)]

/-- Whether a transaction is found to be from one of the senders. -/
def isFrom (pool : Pool ρ) (tx : Transaction) : Bool :=
  (senderOf? pool.config.senderPolicy pool.recovery tx).any (· ∈ senders)

/-- Whether a step stays if the steps are deleted that offer a transaction of another sender. -/
def remains (pool : Pool ρ) (step : Step ρ) : Bool :=
  (step.offer?.bind (senderOf? pool.config.senderPolicy pool.recovery)).all (· ∈ senders)

/-- A step that stays and offers a transaction has only messages of the senders admitted. -/
theorem sender_mem_of_remains {pool : Pool ρ} {step : Step ρ} {tx : Transaction}
    (hoffer : step.offer? = some tx) (h : pool.remains senders step = true) :
    ∀ message ∈ pool.admitted tx, message.sender ∈ senders := by
  intro message hmessage
  rw [remains, hoffer, Option.bind_some, senderOf?_of_mem_admitted hmessage] at h
  exact of_decide_eq_true h

/-- A step that is deleted offers a transaction of another sender. -/
theorem exists_offer_of_not_remains {pool : Pool ρ} {step : Step ρ}
    (h : pool.remains senders step = false) :
    ∃ tx, step.offer? = some tx ∧ pool.isFrom senders tx = false := by
  rw [remains] at h
  cases hoffer : step.offer? with
  | none => rw [hoffer] at h; cases h
  | some tx =>
    rw [hoffer, Option.bind_some] at h
    refine ⟨tx, rfl, ?_⟩
    rw [isFrom]
    cases hfound : senderOf? pool.config.senderPolicy pool.recovery tx with
    | none => rfl
    | some sender => rw [hfound] at h; exact h

/-- The answers to the steps of a run that stay. -/
def remainingAnswers (pool : Pool ρ) (steps : List (Step ρ)) : List Answer :=
  ((steps.zip (pool.run steps).1).filter fun answered => pool.remains senders answered.1).map (·.2)

/-- A step that keeps a steady recovery does not change which steps stay. -/
theorem remains_step {pool : Pool ρ} (hsteady : Steady pool.recovery) {step : Step ρ}
    (hkeeps : ∀ change, step ≠ .recovery change) :
    (pool.step step).2.remains senders = pool.remains senders := by
  funext later
  rw [remains, step_config, step_recovery_of_steady hsteady hkeeps, remains]

/-- The first answer counts if its step stays. -/
theorem remainingAnswers_cons {pool : Pool ρ} (hsteady : Steady pool.recovery) {step : Step ρ}
    (hkeeps : ∀ change, step ≠ .recovery change) (steps : List (Step ρ)) :
    pool.remainingAnswers senders (step :: steps) =
      if pool.remains senders step then
        (pool.step step).1 :: (pool.step step).2.remainingAnswers senders steps
      else (pool.step step).2.remainingAnswers senders steps := by
  change (((step, (pool.step step).1) ::
    steps.zip ((pool.step step).2.run steps).1).filter _).map _ = _
  rw [List.filter_cons, remainingAnswers, remains_step senders hsteady hkeeps]
  cases pool.remains senders step <;> rfl

/-- Whether two answers are the same, or those of drains that hand out the same for each of the
senders. -/
def Answer.AgreesFor : Answer → Answer → Prop
  | .drained groups, .drained others => ∀ sender ∈ senders, groups.get? sender = others.get? sender
  | answer, other => answer = other

/-- What is pending from the senders, in order of arrival: identities with their transactions. -/
def pendingFrom (pool : Pool ρ) : List (Hash × Transaction) :=
  (pool.registry.entries.filter (pool.isFrom senders ·.transaction)).map
    fun entry => (entry.identity, entry.transaction)

/-- An insertion leaves pending from the senders what was, and what is filed of the transaction if
it is one of theirs. -/
theorem pendingFrom_insert {pool : Pool ρ} (hsteady : Steady pool.recovery) (tx : Transaction) :
    (pool.insert tx).2.pendingFrom senders = pool.pendingFrom senders ++
      if pool.isFrom senders tx then
        (pool.filed tx).map fun message => (message.identity, tx) else [] := by
  have hfrom : (pool.insert tx).2.isFrom senders = pool.isFrom senders := by
    funext other
    rw [isFrom, insert_config, insert_recovery_of_steady hsteady, isFrom]
  rw [pendingFrom, hfrom, insert_registry, List.filter_append, List.map_append,
    Registry.filter_arrivals, pendingFrom]
  split
  · rw [Registry.map_record_arrivals]
  · rfl

/-- A pool mirrors another one for senders: it differs in what is pending and counted at most, and
the entries of these senders are the same in both. Every entry of the other pool has the identity
and the sender of one of the given messages. -/
structure Mirrors (messages : List Message) (pool mirror : Pool ρ) : Prop where
  mirror_eq : mirror = pool.holding mirror.registry mirror.tally
  records_eq : mirror.registry.entries.map (fun entry => (entry.identity, entry.transaction)) =
    pool.pendingFrom senders
  vouched : ∀ entry ∈ pool.registry.entries, ∃ message ∈ messages,
    message.identity = entry.identity ∧
      senderOf? pool.config.senderPolicy pool.recovery entry.transaction = some message.sender

namespace Mirrors

variable {senders} {messages : List Message} {pool mirror : Pool ρ}

/-- An identity of one of the senders is pending in both pools or in neither. -/
theorem mem_identities_iff (mirrors : Mirrors senders messages pool mirror)
    (hcollisionless : Collisionless messages) {message : Message} (hmessage : message ∈ messages)
    (hsender : message.sender ∈ senders) :
    message.identity ∈ mirror.registry.identities ↔
      message.identity ∈ pool.registry.identities := by
  have hidentities : mirror.registry.identities =
      (pool.registry.entries.filter (pool.isFrom senders ·.transaction)).map (·.identity) := by
    have hfirst := congrArg (List.map Prod.fst) mirrors.records_eq
    rwa [pendingFrom, List.map_map, List.map_map] at hfirst
  rw [hidentities, Registry.identities, List.mem_map, List.mem_map]
  constructor
  · intro hmirrored
    obtain ⟨entry, hentry, hidentity⟩ := hmirrored
    exact ⟨entry, (List.mem_filter.mp hentry).1, hidentity⟩
  · intro hpending
    obtain ⟨entry, hentry, hidentity⟩ := hpending
    obtain ⟨voucher, hvoucher, hsame, hfound⟩ := mirrors.vouched entry hentry
    have hsame := hcollisionless.sender_eq hvoucher hmessage (hsame.trans hidentity)
    refine ⟨entry, List.mem_filter.mpr ⟨hentry, ?_⟩, hidentity⟩
    rw [isFrom, hfound, hsame, Option.any_some, decide_eq_true hsender]

/-- An inserted transaction leaves entries with the identity and the sender of its messages. -/
theorem vouched_insert (mirrors : Mirrors senders messages pool mirror)
    (hsteady : Steady pool.recovery) {tx : Transaction}
    (hadmitted : ∀ message ∈ pool.admitted tx, message ∈ messages) :
    ∀ entry ∈ (pool.insert tx).2.registry.entries, ∃ message ∈ messages,
      message.identity = entry.identity ∧
        senderOf? (pool.insert tx).2.config.senderPolicy (pool.insert tx).2.recovery
          entry.transaction = some message.sender := by
  rw [insert_config, insert_recovery_of_steady hsteady, insert_registry]
  intro entry hentry
  rcases List.mem_append.mp hentry with hentry | hentry
  · exact mirrors.vouched entry hentry
  · obtain ⟨htx, message, hmessage, hidentity⟩ := Registry.exists_of_mem_arrivals hentry
    have hmessage := mem_admitted_of_mem_filed hmessage
    rw [htx]
    exact ⟨message, hadmitted message hmessage, hidentity, senderOf?_of_mem_admitted hmessage⟩

/-- A transaction of one of the senders is answered alike and files the same messages. -/
theorem insert_of_sender (mirrors : Mirrors senders messages pool mirror)
    (hsteady : Steady pool.recovery) (hcollisionless : Collisionless messages) {tx : Transaction}
    (hadmitted : ∀ message ∈ pool.admitted tx, message ∈ messages)
    (hsender : ∀ message ∈ pool.admitted tx, message.sender ∈ senders) :
    (mirror.insert tx).1 = (pool.insert tx).1 ∧
      Mirrors senders messages (pool.insert tx).2 (mirror.insert tx).2 := by
  have hpending (message : Message) (hmessage : message ∈ pool.admitted tx) :=
    mirrors.mem_identities_iff hcollisionless (hadmitted message hmessage)
      (hsender message hmessage)
  have hrecords := mirrors.records_eq
  obtain ⟨registry, tally, rfl⟩ : ∃ registry tally, mirror = pool.holding registry tally :=
    ⟨_, _, mirrors.mirror_eq⟩
  refine ⟨insert_answer_congr hpending tally, ?_, ?_, mirrors.vouched_insert hsteady hadmitted⟩
  · have hheld : Steady (pool.holding registry tally).recovery := hsteady
    rw [insert_eq_holding hheld, insert_eq_holding hsteady]
    rfl
  · have hfiled : (pool.holding registry tally).filed tx = pool.filed tx :=
      filed_congr hpending tally
    have hkept : (if pool.isFrom senders tx then
        (pool.filed tx).map fun message => (message.identity, tx) else []) =
          (pool.filed tx).map fun message => (message.identity, tx) := by
      rw [ite_eq_left_iff]
      intro hother
      -- Nothing is filed of a transaction that is not from any of the senders.
      refine (List.map_eq_nil_iff.mpr (List.eq_nil_iff_forall_not_mem.mpr ?_)).symm
      intro message hmessage
      have hmessage := mem_admitted_of_mem_filed hmessage
      apply hother
      rw [isFrom, senderOf?_of_mem_admitted hmessage, Option.any_some,
        decide_eq_true (hsender message hmessage)]
    rw [pendingFrom_insert senders hsteady, hkept, insert_registry, List.map_append,
      Registry.map_record_arrivals, hfiled, ← hrecords]

/-- A transaction of another sender leaves nothing pending from any of the senders. -/
theorem insert_of_other (mirrors : Mirrors senders messages pool mirror)
    (hsteady : Steady pool.recovery) {tx : Transaction}
    (hadmitted : ∀ message ∈ pool.admitted tx, message ∈ messages)
    (hother : pool.isFrom senders tx = false) :
    Mirrors senders messages (pool.insert tx).2 mirror := by
  refine ⟨?_, ?_, mirrors.vouched_insert hsteady hadmitted⟩
  · rw [insert_eq_holding hsteady, mirrors.mirror_eq]
    rfl
  · rw [pendingFrom_insert senders hsteady, hother, mirrors.records_eq]
    exact (List.append_nil _).symm

/-- A drain hands out the same for each of the senders. -/
theorem drain (mirrors : Mirrors senders messages pool mirror) (hsteady : Steady pool.recovery) :
    (∀ sender ∈ senders, pool.drain.1.get? sender = mirror.drain.1.get? sender) ∧
      Mirrors senders messages pool.drain.2 mirror.drain.2 := by
  have htransactions : mirror.registry.entries.map (·.transaction) =
      (pool.registry.entries.map (·.transaction)).filter (pool.isFrom senders) := by
    have hsecond := congrArg (List.map Prod.snd) mirrors.records_eq
    rw [pendingFrom, List.map_map, List.map_map] at hsecond
    rw [List.filter_map]
    exact hsecond
  obtain ⟨registry, tally, rfl⟩ : ∃ registry tally, mirror = pool.holding registry tally :=
    ⟨_, _, mirrors.mirror_eq⟩
  have hheld : Steady (pool.holding registry tally).recovery := hsteady
  refine ⟨?_, ?_, rfl, fun entry hentry => nomatch hentry⟩
  · intro sender hsender
    apply get?_congr (populated_drain _) (populated_drain _)
    rw [of_drain_of_steady hsteady, of_drain_of_steady hheld, htransactions, List.filter_filter]
    refine List.filter_congr fun tx _ => ?_
    by_cases hfound : senderOf? pool.config.senderPolicy pool.recovery tx = some sender
    · simp [isFrom, hfound, hsender, holding]
    · simp [hfound, holding]
  · rw [drain_eq_holding hheld, drain_eq_holding hsteady]
    rfl

/-- A step that stays is answered alike, up to what is handed out for other senders. -/
theorem step_of_remains (mirrors : Mirrors senders messages pool mirror)
    (hsteady : Steady pool.recovery) (hcollisionless : Collisionless messages) {step : Step ρ}
    (hkeeps : ∀ change, step ≠ .recovery change)
    (hadmitted : ∀ message ∈ step.offer?.elim [] pool.admitted, message ∈ messages)
    (hremains : pool.remains senders step = true) :
    (pool.step step).1.AgreesFor senders (mirror.step step).1 ∧
      Mirrors senders messages (pool.step step).2 (mirror.step step).2 := by
  cases step with
  | insert tx =>
    obtain ⟨hanswer, hafter⟩ := mirrors.insert_of_sender hsteady hcollisionless hadmitted
      (sender_mem_of_remains senders rfl hremains)
    exact ⟨congrArg Answer.inserted hanswer.symm, hafter⟩
  | handle message =>
    cases hoffer : message.offer? with
    | none =>
      simp only [Pool.step, handle_of_no_offer _ hoffer]
      exact ⟨congrArg Answer.handled (handle_answer_of_no_offer hoffer pool mirror), mirrors⟩
    | some tx =>
      have hoffers : (Step.handle message : Step ρ).offer? = some tx := hoffer
      rw [hoffers] at hadmitted
      obtain ⟨hanswer, hafter⟩ := mirrors.insert_of_sender hsteady hcollisionless hadmitted
        (sender_mem_of_remains senders hoffers hremains)
      simp only [Pool.step, handle_of_offer _ hoffer, hanswer]
      exact ⟨rfl, hafter⟩
  | drain => exact mirrors.drain hsteady
  | surround surroundings =>
    refine ⟨rfl, ?_, mirrors.records_eq, mirrors.vouched⟩
    exact congrArg (fun held : Pool ρ => { held with surroundings }) mirrors.mirror_eq
  | recovery change => exact absurd rfl (hkeeps change)

/-- A step that is deleted leaves nothing pending from any of the senders. -/
theorem step_of_not_remains (mirrors : Mirrors senders messages pool mirror)
    (hsteady : Steady pool.recovery) {step : Step ρ}
    (hadmitted : ∀ message ∈ step.offer?.elim [] pool.admitted, message ∈ messages)
    (hremains : pool.remains senders step = false) :
    Mirrors senders messages (pool.step step).2 mirror := by
  obtain ⟨tx, hoffer, hother⟩ := exists_offer_of_not_remains senders hremains
  rw [hoffer] at hadmitted
  rw [step_of_offer pool hoffer]
  exact mirrors.insert_of_other hsteady hadmitted hother

/-- The steps that stay are answered alike, up to what is handed out for other senders. -/
theorem run (mirrors : Mirrors senders messages pool mirror) (hsteady : Steady pool.recovery)
    (hcollisionless : Collisionless messages) {steps : List (Step ρ)} (hkeeps : KeepsRecovery steps)
    (hadmitted : ∀ message ∈ pool.admittedDuring steps, message ∈ messages) :
    List.Forall₂ (Answer.AgreesFor senders) (pool.remainingAnswers senders steps)
      (mirror.run (steps.filter (pool.remains senders))).1 := by
  induction steps generalizing pool mirror with
  | nil => exact .nil
  | cons step steps ih =>
    obtain ⟨hnow, hlater⟩ := List.forall_mem_append.mp hadmitted
    have hstep (change : ρ → ρ) : step ≠ .recovery change :=
      fun heq => hkeeps change (heq ▸ List.mem_cons_self)
    have hsteps : KeepsRecovery steps := fun change hmem =>
      hkeeps change (List.mem_cons_of_mem _ hmem)
    have hafter : Steady (pool.step step).2.recovery := by
      rw [step_recovery_of_steady hsteady hstep]
      exact hsteady
    rw [remainingAnswers_cons senders hsteady hstep, List.filter_cons]
    cases hremains : pool.remains senders step with
    | true =>
      obtain ⟨hagrees, hmirrors⟩ :=
        mirrors.step_of_remains hsteady hcollisionless hstep hnow hremains
      refine .cons hagrees ?_
      rw [← remains_step senders hsteady hstep]
      exact ih hmirrors hafter hsteps hlater
    | false =>
      rw [← remains_step senders hsteady hstep]
      exact ih (mirrors.step_of_not_remains hsteady hnow hremains) hafter hsteps hlater

end Mirrors

/-- Deleting from a run the steps that offer transactions of senders outside a set changes neither
the answers to the steps that stay nor what drains hand out for the senders in the set, as long as
the texts of the messages that are admitted do not collide. -/
theorem run_without_others (config : Config) (surroundings : Surroundings) (recovery : ρ)
    (hsteady : Steady recovery) (steps : List (Step ρ)) (hkeeps : KeepsRecovery steps)
    (hcollisionless : Collisionless ((new config surroundings recovery).admittedDuring steps)) :
    List.Forall₂ (Answer.AgreesFor senders)
      ((new config surroundings recovery).remainingAnswers senders steps)
      ((new config surroundings recovery).run
        (steps.filter ((new config surroundings recovery).remains senders))).1 := by
  have hmirrors : Mirrors senders ((new config surroundings recovery).admittedDuring steps)
      (new config surroundings recovery) (new config surroundings recovery) :=
    ⟨rfl, rfl, fun entry hentry => nomatch hentry⟩
  exact hmirrors.run hsteady hcollisionless hkeeps fun message hmessage => hmessage

end Others

namespace Sample

/-- The two public keys are all that is admitted. -/
theorem admittedDuring_shared :
    shared.admittedDuring [.insert neighbouring, .insert announced, .drain] =
      [⟨.publicKey, 2, neighbour, [1]⟩, ⟨.publicKey, 2, validator, [1]⟩] := by decide +kernel

end Sample

/-- Without the other validator's pending transaction the validator's is accepted and handed out
just the same. -/
theorem run_without_neighbour :
    (Sample.shared.after [.insert Sample.neighbouring]).pending = 1 ∧
      List.Forall₂ (Answer.AgreesFor {Sample.validator})
        (Sample.shared.remainingAnswers {Sample.validator}
          [.insert Sample.neighbouring, .insert Sample.announced, .drain])
        (Sample.shared.run [.insert Sample.announced, .drain]).1 := by
  refine ⟨by rfl, ?_⟩
  have hsteady := (Sample.table.add [8] Sample.neighbour).steady
  apply run_without_others {Sample.validator} Sample.config Sample.shared.surroundings _ hsteady
    [.insert Sample.neighbouring, .insert Sample.announced, .drain] (by simp [KeepsRecovery])
  apply collisionless_of_nodup
  change ((Sample.shared.admittedDuring _).map Message.identity).Nodup
  rw [Sample.admittedDuring_shared]
  exact Sample.nodup_identity_publicKeys

end Pool

end ControlPool
