import ControlPool.Proofs.Inclusion

/-!
# A transaction is not filed again in another epoch

The digits at the end of a key are those of several epochs, but a tag has no digits, so a key is
admissible for one kind and one epoch only. A transaction that is filed under one key at two steps
is therefore filed at heads of one epoch and under one identity, and in between that identity must
have been drained. The head may move in either direction, and the recovery may fail at any time as
long as it never names two signers of one transaction.
-/

namespace ControlPool.Pool

variable {ρ : Type} [SignerRecovery ρ]

/-- Whether the recovery never names two signers of one transaction in the course of a run. -/
def NamesOneSigner (pool : Pool ρ) (steps : List (Step ρ)) : Prop :=
  ∀ before later, before <+: steps → later <+: steps → ∀ tx signer other,
    signer? (pool.after before).recovery tx = some signer →
      signer? (pool.after later).recovery tx = some other → signer = other

/-- A steady recovery that is not changed names one signer. -/
theorem namesOneSigner_of_steady {pool : Pool ρ} (hsteady : Steady pool.recovery)
    {steps : List (Step ρ)} (hkeeps : KeepsRecovery steps) : pool.NamesOneSigner steps := by
  intro before later ⟨_, hbefore⟩ ⟨_, hlater⟩ tx signer other hsigner hother
  rw [after_recovery_of_part hsteady hkeeps hbefore.symm] at hsigner
  rw [after_recovery_of_part hsteady hkeeps hlater.symm, hsigner] at hother
  exact Option.some.inj hother

/-- A step of a run that files the message of a key. -/
structure KeyFiling (pool : Pool ρ) (steps : List (Step ρ)) extends Offer pool steps where
  key : AdmittedKey hearing
  filed : key.message ∈ (pool.after before).filed transaction

namespace KeyFiling

variable {pool : Pool ρ} {steps : List (Step ρ)}

/-- The steps before a filing are the first ones of the run. -/
theorem before_prefix (filing : KeyFiling pool steps) : filing.before <+: steps :=
  ⟨filing.step :: filing.since, filing.steps_eq.symm⟩

/-- The key of a filing is that of its kind for the epoch after that of the head. -/
theorem key_eq (filing : KeyFiling pool steps) :
    filing.key.key = filing.key.admission.kind.key filing.key.admission.epoch :=
  (decideKey_eq_ok_iff.mp filing.key.decided).2.1

/-- The epoch of a filing is the one after that of the head. -/
theorem epoch_eq (filing : KeyFiling pool steps) :
    filing.key.admission.epoch.toNat =
      filing.hearing.head.height.toNat / pool.config.interval.toNat + 1 := by
  rw [(decideKey_eq_ok_iff.mp filing.key.decided).1, filing.hears.schedule_eq, after_config]
  exact Schedule.toNat_upcomingEpoch _ _ pool.config.two_le_interval

/-- Two filings of a transaction are for one sender. -/
theorem sender_eq {first second : KeyFiling pool steps} (hsigner : pool.NamesOneSigner steps)
    (htransaction : first.transaction = second.transaction) :
    first.hearing.sender = second.hearing.sender := by
  have hfirst := first.hears.found
  have hsecond := second.hears.found
  rw [after_config, senderOf?_eq] at hfirst hsecond
  rw [htransaction] at hfirst
  have hnamed := hsigner _ _ first.before_prefix second.before_prefix second.transaction
    first.hearing.sender second.hearing.sender
  cases hembedded : second.transaction.sender with
  | none =>
    simp only [hembedded, Option.none_or, ite_self] at hfirst hsecond
    exact hnamed hfirst hsecond
  | some address =>
    rw [hembedded, Option.some_or] at hfirst hsecond
    split at hfirst
    · next hpolicy =>
      rw [if_pos hpolicy, hfirst] at hsecond
      exact Option.some.inj hsecond
    · next hpolicy =>
      rw [if_neg hpolicy] at hsecond
      exact hnamed hfirst hsecond

/-- Between two filings under one identity there is a drain. -/
theorem exists_drain {first second : KeyFiling pool steps}
    (hearlier : first.Earlier second.toSubmission)
    (hidentity : first.key.message.identity = second.key.message.identity) :
    ∃ between, second.before = first.before ++ first.step :: between ∧ .drain ∈ between := by
  obtain ⟨between, hbefore, -⟩ := Submission.exists_between hearlier
  refine ⟨between, hbefore, ?_⟩
  by_contra hbetween
  let part : Filing pool second.before :=
    ⟨⟨first.before, first.step, between, hbefore, first.transaction, first.offers⟩, hbetween,
      first.key.message, first.filed⟩
  apply Registry.identity_notMem_of_mem_newcomers second.filed
  rw [← hidentity]
  exact part.mem_identities

end KeyFiling

/-- If one transaction is filed under one key at two steps, the heads of these steps are in one
epoch and there is a drain between them. -/
theorem no_replay_across_epochs (pool : Pool ρ) (steps : List (Step ρ))
    (first second : KeyFiling pool steps) (hsigner : pool.NamesOneSigner steps)
    (hearlier : first.Earlier second.toSubmission)
    (htransaction : first.transaction = second.transaction)
    (hkey : first.key.key = second.key.key) :
    first.hearing.head.height.toNat / pool.config.interval.toNat =
        second.hearing.head.height.toNat / pool.config.interval.toNat ∧
      ∃ between, second.before = first.before ++ first.step :: between ∧ .drain ∈ between := by
  rw [first.key_eq, second.key_eq] at hkey
  obtain ⟨hkind, hepoch⟩ := Kind.key_injective hkey
  constructor
  · have hnumbers := first.epoch_eq
    rw [hepoch, second.epoch_eq] at hnumbers
    exact (Nat.add_right_cancel hnumbers).symm
  · apply KeyFiling.exists_drain hearlier
    have hsender := KeyFiling.sender_eq hsigner htransaction
    simp only [Message.identity, AdmittedKey.message, hkind, hepoch, hsender]

namespace Sample

/-- A head in the same epoch as the first one, but behind it, and the same roles. -/
def surroundingsBehind : Surroundings := ⟨.ok ⟨120, default⟩, surroundings.roles⟩

/-- A run in which the public key is filed, drained and filed again when the head has moved back. -/
def refiled : List (Step SignerTable) :=
  [.insert announced, .drain, .surround surroundingsBehind, .insert announced]

/-- The hearing of the public key at a head. -/
def announcedHearing (head : Head) : Hearing :=
  ⟨config.schedule, surroundings.roles, head, validator, .ofList [("publickey2", [1])]⟩

/-- The public key where it is admitted. -/
def announcedKey {head : Head}
    (hdecided : (announcedHearing head).decide "publickey2" = .ok ⟨.publicKey, 2⟩) :
    AdmittedKey (announcedHearing head) :=
  ⟨⟨[], "publickey2", [1], [], rfl, fun _ hentry => nomatch hentry⟩, _, hdecided⟩

/-- The public key is filed by a step that offers its transaction at a head where it is admitted,
if nothing is pending. -/
def announcedKeyFiling {steps since : List (Step SignerTable)}
    (before : List (Step SignerTable)) (head : Head)
    (hsteps : steps = before ++ .insert announced :: since)
    (hhearing : (poolAfter before).hearing? announced = some (announcedHearing head))
    (hdecided : (announcedHearing head).decide "publickey2" = .ok ⟨.publicKey, 2⟩)
    (hempty : (poolAfter before).registry.identities = []) :
    KeyFiling (new config surroundings table) steps where
  before := before
  step := .insert announced
  since := since
  steps_eq := hsteps
  transaction := announced
  offers := Step.offer?_insert announced
  hearing := announcedHearing head
  hears := hearing?_eq_some_iff.mp hhearing
  key := announcedKey hdecided
  filed := by
    have hadmitted : (poolAfter before).admitted announced =
        [(announcedKey hdecided).message] := by
      rw [admitted, hhearing]
      exact congrArg Prod.fst
        ((announcedHearing head).judgeEntries_cons_of_admitted hdecided [1] [])
    change _ ∈ (poolAfter before).filed announced
    rw [filed, hadmitted, hempty, Registry.newcomers_cons_of_notMem _ List.not_mem_nil]
    exact List.mem_cons_self

/-- The first step files the public key. -/
def earlierKeyFiling : KeyFiling (new config surroundings table) refiled :=
  announcedKeyFiling [] ⟨150, default⟩ rfl (by rfl) (by decide +kernel) rfl

/-- The last step files it again. -/
def laterKeyFiling : KeyFiling (new config surroundings table) refiled :=
  announcedKeyFiling [.insert announced, .drain, .surround surroundingsBehind] ⟨120, default⟩ rfl
    (by rfl) (by decide +kernel) rfl

end Sample

/-- The heads at which the public key is filed are in one epoch, and it was drained in between. -/
theorem no_replay_of_refiled :
    Sample.earlierKeyFiling.hearing.head.height.toNat / Sample.config.interval.toNat =
        Sample.laterKeyFiling.hearing.head.height.toNat / Sample.config.interval.toNat ∧
      ∃ between, Sample.laterKeyFiling.before =
          Sample.earlierKeyFiling.before ++ Sample.earlierKeyFiling.step :: between ∧
        .drain ∈ between :=
  no_replay_across_epochs (new Sample.config Sample.surroundings Sample.table) Sample.refiled
    Sample.earlierKeyFiling Sample.laterKeyFiling
    (namesOneSigner_of_steady Sample.table.steady (by simp [KeepsRecovery, Sample.refiled]))
    (Nat.zero_lt_succ 2) rfl rfl

end ControlPool.Pool
