import ControlPool.Proofs.Extracted
import ControlPool.Proofs.Filing

/-!
# What an offered transaction leaves in a block

A transaction that is filed was heard by the step that offered it. If its signer is the sender of
that hearing, the entries that it leaves in the state come from admitted keys, which keep their
kinds and payloads, or from the keys at and behind the one at which the step failed.
-/

namespace ControlPool.Pool

variable {ρ : Type} [SignerRecovery ρ]

/-- A step of a run that offers a transaction whose keys are judged, with the hearing in which they
are. -/
structure Offer (pool : Pool ρ) (steps : List (Step ρ)) extends Submission steps where
  hearing : Hearing
  hears : (pool.after before).Hears transaction hearing

namespace Offer

variable {pool : Pool ρ} {steps : List (Step ρ)}

/-- Whether a key is admitted for the kind and the sender of an entry and carries its payload. -/
def Admits (offer : Offer pool steps) (entry : StateEntry) : Prop :=
  offer.hearing.sender = entry.sender ∧ ∃ admitted : AdmittedKey offer.hearing,
    admitted.message.kind = entry.kind ∧ admitted.value = entry.payload

/-- Whether the step fails at a refused key behind an admitted one and a key from the refused one
on is classified to the kind of an entry and carries its payload. -/
def Overlooks (offer : Offer pool steps) (entry : StateEntry) : Prop :=
  offer.hearing.sender = entry.sender ∧ Nonempty (AdmittedKey offer.hearing) ∧
    ∃ refused : RefusedKey offer.hearing,
      ((pool.after offer.before).step offer.step).1.failure? = some refused.failure ∧
      ∃ key, (key, entry.payload) ∈ (refused.key, refused.value) :: refused.after ∧
        Kind.classify? key = some entry.kind

/-- Whether a message is filed by the step that offers a transaction, for an admitted key of it. -/
structure Files (offer : Offer pool steps) (filing : Filing pool steps) : Prop where
  same : offer.toSubmission = filing.toSubmission
  exists_key : ∃ key : AdmittedKey offer.hearing, key.message = filing.message

/-- The transaction is that of the filing. -/
theorem Files.transaction_eq {offer : Offer pool steps} {filing : Filing pool steps}
    (hfiles : offer.Files filing) : offer.transaction = filing.transaction := by
  rw [hfiles.same]

/-- There is no drain since. -/
theorem Files.undrained {offer : Offer pool steps} {filing : Filing pool steps}
    (hfiles : offer.Files filing) : .drain ∉ offer.since := by
  rw [hfiles.same]
  exact filing.undrained

/-- A steady recovery finds the sender of a hearing again whenever it is asked. -/
theorem senderOf?_eq (offer : Offer pool steps) (hsteady : Steady pool.recovery)
    (hkeeps : KeepsRecovery steps) :
    senderOf? pool.config.senderPolicy pool.recovery offer.transaction =
      some offer.hearing.sender := by
  have hfound := offer.hears.found
  rwa [after_config, after_recovery_of_part hsteady hkeeps offer.steps_eq] at hfound

/-- If senders are recovered from signatures only, the sender of a hearing is the signer. -/
theorem signer?_of_recoveredOnly (offer : Offer pool steps) (hsteady : Steady pool.recovery)
    (hkeeps : KeepsRecovery steps) (hpolicy : pool.config.senderPolicy = .recoveredOnly) :
    signer? pool.recovery offer.transaction = some offer.hearing.sender := by
  rw [← senderOf?_recoveredOnly, ← hpolicy]
  exact offer.senderOf?_eq hsteady hkeeps

/-- An admitted key leaves its message in the state. -/
theorem mem_stateEntries_of_key (offer : Offer pool steps) {recovery : ρ}
    (hsigner : signer? recovery offer.transaction = some offer.hearing.sender)
    (key : AdmittedKey offer.hearing) :
    ⟨key.message.kind, offer.hearing.sender, key.value⟩ ∈
      offer.transaction.stateEntries recovery :=
  Transaction.mem_stateEntries_iff.mpr ⟨offer.hears.marked, offer.hearing.payload,
    offer.hears.reads, hsigner, key.key, key.mem_entries, key.classify?_key⟩

/-- An entry that an offered transaction leaves in the state comes from an admitted key, or from
one that is overlooked. -/
theorem admits_or_overlooks (offer : Offer pool steps) {recovery : ρ} {entry : StateEntry}
    (hkey : Nonempty (AdmittedKey offer.hearing))
    (hsigner : signer? recovery offer.transaction = some offer.hearing.sender)
    (hentry : entry ∈ offer.transaction.stateEntries recovery) :
    offer.Admits entry ∨ offer.Overlooks entry := by
  obtain ⟨-, payload, hpayload, hsender, key, hmem, hclassify⟩ :=
    Transaction.mem_stateEntries_iff.mp hentry
  have hsender : offer.hearing.sender = entry.sender := by
    rw [hsigner] at hsender
    exact Option.some.inj hsender
  have hmem : (key, entry.payload) ∈ offer.hearing.payload.entries := by
    have hreads := offer.hears.reads
    rw [hpayload] at hreads
    rwa [← Option.some.inj hreads]
  rcases offer.hearing.admitted_or_refused hmem with
    ⟨admitted, hadmitted, hvalue⟩ | ⟨refused, hrefused⟩
  · refine .inl ⟨hsender, admitted, ?_, hvalue⟩
    have hkind := admitted.classify?_key
    rw [hadmitted, hclassify] at hkind
    exact (Option.some.inj hkind).symm
  · refine .inr ⟨hsender, hkey, refused, ?_, key, hrefused, hclassify⟩
    rw [failure?_step_of_hearing offer.offers (hearing?_eq_some_iff.mpr offer.hears)]
    exact Hearing.judge_failure_iff.mpr ⟨refused, rfl⟩

end Offer

namespace Filing

variable {pool : Pool ρ} {steps : List (Step ρ)}

/-- A filing happens when a transaction is offered. -/
theorem exists_offer (filing : Filing pool steps) :
    ∃ offer : Offer pool steps, offer.Files filing := by
  obtain ⟨hearing, hhears, hkey⟩ := mem_admitted_iff.mp (mem_admitted_of_mem_filed filing.filed)
  exact ⟨⟨filing.toSubmission, hearing, hhears⟩, rfl, hkey⟩

/-- A steady recovery finds the sender of a filed message again whenever it is asked. -/
theorem senderOf?_eq (filing : Filing pool steps) (hsteady : Steady pool.recovery)
    (hkeeps : KeepsRecovery steps) :
    senderOf? pool.config.senderPolicy pool.recovery filing.transaction =
      some filing.message.sender := by
  obtain ⟨offer, hfiles⟩ := filing.exists_offer
  obtain ⟨key, hmessage⟩ := hfiles.exists_key
  have hfound := offer.senderOf?_eq hsteady hkeeps
  rw [hfiles.transaction_eq] at hfound
  rw [hfound, ← hmessage]
  rfl

/-- A filed message is left in the state by its transaction if its sender is the signer. -/
theorem mem_stateEntries (filing : Filing pool steps) {recovery : ρ}
    (hsigner : signer? recovery filing.transaction = some filing.message.sender) :
    ⟨filing.message.kind, filing.message.sender, filing.message.payload⟩ ∈
      filing.transaction.stateEntries recovery := by
  obtain ⟨offer, hfiles⟩ := filing.exists_offer
  obtain ⟨key, hmessage⟩ := hfiles.exists_key
  rw [← hfiles.transaction_eq, ← hmessage] at hsigner ⊢
  exact offer.mem_stateEntries_of_key hsigner key

end Filing

end ControlPool.Pool
