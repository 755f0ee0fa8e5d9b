import ControlPool.Error
import ControlPool.Transaction

/-!
# Senders

The sender of a transaction is either embedded in it or recovered from its signature. Recovery is
a collaborator: it may fail in its own words, and asking it may change it, as when it answers a
limited number of questions.
-/

namespace ControlPool

/-- A collaborator that recovers the signer of a transaction or fails, and may be another after it
was asked. -/
class SignerRecovery (ρ : Type) where
  recover : ρ → Transaction → Except String Address × ρ

/-- Signers by signature, latest first. -/
structure SignerTable where
  signers : List (List UInt8 × Address)
  deriving Inhabited

namespace SignerTable

/-- The signer of a signature. -/
def signer? (table : SignerTable) (signature : List UInt8) : Option Address :=
  (table.signers.find? (·.1 = signature)).map (·.2)

/-- Adds a signer; of two signers of one signature the later holds. -/
def add (table : SignerTable) (signature : List UInt8) (signer : Address) : SignerTable :=
  ⟨(signature, signer) :: table.signers⟩

/-- Looks a transaction's signature up. -/
def answer (table : SignerTable) (tx : Transaction) : Except String Address :=
  if tx.signature.isEmpty then .error "missing signature"
  else match table.signer? tx.signature with
    | some signer => .ok signer
    | none => .error "signature does not recover"

instance : SignerRecovery SignerTable := ⟨fun table tx => (table.answer tx, table)⟩

end SignerTable

/-- A recovery that answers a limited number of questions, unless no budget is set. -/
structure Metered (ρ : Type) where
  inner : ρ
  budget : Option Nat

namespace Metered

/-- Asks the inner recovery unless the budget is used up. -/
def recover {ρ : Type} [SignerRecovery ρ] (metered : Metered ρ) (tx : Transaction) :
    Except String Address × Metered ρ :=
  match metered.budget with
  | some 0 => (.error "recovery exhausted", metered)
  | some (n + 1) =>
    let (answer, inner) := SignerRecovery.recover metered.inner tx
    (answer, ⟨inner, some n⟩)
  | none =>
    let (answer, inner) := SignerRecovery.recover metered.inner tx
    (answer, ⟨inner, none⟩)

instance {ρ : Type} [SignerRecovery ρ] : SignerRecovery (Metered ρ) := ⟨recover⟩

end Metered

/-- How senders are found: an embedded sender is taken as it is and the signature asked only without
one, or the signature is always asked. -/
inductive SenderPolicy where
  | embeddedFirst
  | recoveredOnly
  deriving DecidableEq, Inhabited

/-- Where a sender came from: the transaction or its signature. -/
inductive SenderOrigin where
  | embedded
  | recovered
  deriving DecidableEq, Inhabited

/-- A sender and where it came from. -/
structure FoundSender where
  address : Address
  origin : SenderOrigin
  deriving DecidableEq, Inhabited

variable {ρ : Type} [SignerRecovery ρ]

/-- The signer of a transaction as its sender. -/
def recoverSigner (recovery : ρ) (tx : Transaction) : Except PoolError FoundSender × ρ :=
  match SignerRecovery.recover recovery tx with
  | (.ok address, recovery) => (.ok ⟨address, .recovered⟩, recovery)
  | (.error text, recovery) => (.error (.senderUnknown text), recovery)

/-- The sender of a transaction under a policy. -/
def findSender (policy : SenderPolicy) (recovery : ρ) (tx : Transaction) :
    Except PoolError FoundSender × ρ :=
  match policy, tx.sender with
  | .embeddedFirst, some address => (.ok ⟨address, .embedded⟩, recovery)
  | _, _ => recoverSigner recovery tx

end ControlPool
