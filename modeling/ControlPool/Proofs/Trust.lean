import ControlPool.Proofs.Outcome

/-!
# What extraction trusts

Of a block, extraction takes the height and the bodies and signatures of the control transactions,
in their order. It sees nothing else if the recovery looks at nothing but signatures: not the hashes
of the header, nor the chain, the nonce, the embedded sender and the later marks of a transaction,
nor any transaction without the mark of control messages. Such a recovery need not be steady. It may
stop answering, because it is asked the same questions in the same order.
-/

namespace ControlPool

/-- Whether a kind of recovery looks at nothing but signatures: it says the same about transactions
with one signature, and is the same after it. -/
def ReadsSignatures (ρ : Type) [SignerRecovery ρ] : Prop :=
  ∀ (recovery : ρ) (tx other : Transaction), tx.signature = other.signature →
    SignerRecovery.recover recovery tx = SignerRecovery.recover recovery other

/-- A table of signers looks at nothing but signatures. -/
theorem SignerTable.readsSignatures : ReadsSignatures SignerTable := by
  intro table tx other hsignature
  change (table.answer tx, table) = (table.answer other, table)
  unfold answer
  rw [hsignature]

/-- A limit on the number of questions looks at nothing new. -/
theorem Metered.readsSignatures {ρ : Type} [SignerRecovery ρ] (hreads : ReadsSignatures ρ) :
    ReadsSignatures (Metered ρ) := by
  intro metered tx other hsignature
  change metered.recover tx = metered.recover other
  unfold recover
  rw [hreads metered.inner tx other hsignature]

/-- The body and the signature of a transaction. -/
def Transaction.signedData (tx : Transaction) : List UInt8 × List UInt8 := (tx.data, tx.signature)

/-- The bodies and signatures of the control transactions of a block, in block order. -/
def Block.signedData (block : Block) : List (List UInt8 × List UInt8) :=
  (controls block.transactions).map Transaction.signedData

/-- A control transaction with a body and a signature and nothing else. -/
def Transaction.plain (signed : List UInt8 × List UInt8) : Transaction :=
  ⟨0, 0, none, signed.1, [controlMark], signed.2⟩

/-- A block at a height with plain transactions and nothing else. -/
def Block.plain (number : UInt64) (signed : List (List UInt8 × List UInt8)) : Block :=
  ⟨⟨number, default, default⟩, signed.map Transaction.plain⟩

variable {ρ : Type} [SignerRecovery ρ]

/-- A transaction is read like the plain one with its body and signature. -/
theorem Transaction.reading_plain (hreads : ReadsSignatures ρ) (tx : Transaction) (recovery : ρ) :
    (plain tx.signedData).reading recovery = tx.reading recovery := by
  have hpayload : (plain tx.signedData).payload? = tx.payload? := rfl
  rw [reading_eq, reading_eq, hpayload, hreads recovery (plain tx.signedData) tx rfl]

/-- Transactions are read like the plain ones with the bodies and signatures of the control
transactions among them. -/
theorem readings_plain (hreads : ReadsSignatures ρ) (recovery : ρ) (txs : List Transaction) :
    readings recovery (((controls txs).map Transaction.signedData).map Transaction.plain) =
      readings recovery txs := by
  induction txs generalizing recovery with
  | nil => rfl
  | cons tx txs ih =>
    rw [controls_cons]
    cases hcontrol : tx.isControl with
    | false =>
      simp only [readings, hcontrol, Bool.false_eq_true, if_false]
      exact ih recovery
    | true =>
      have hplain : (Transaction.plain tx.signedData).isControl = true := rfl
      simp only [readings, hcontrol, hplain, if_true, List.map_cons]
      rw [Transaction.reading_plain hreads, ih]

/-- A block yields what the plain block of its height with its bodies and signatures yields. -/
theorem Block.extract_plain (hreads : ReadsSignatures ρ) (block : Block) (schedule : Schedule)
    (recovery : ρ) :
    (plain block.header.number block.signedData).extract schedule recovery =
      block.extract schedule recovery := by
  unfold extract
  rw [Scan.addTransactions_eq, Scan.addTransactions_eq, plain, signedData,
    readings_plain hreads]

/-- Blocks of one height with the same bodies and signatures of control transactions, in the same
order, yield the same outcome, with the same counts and the same state, and leave the recovery the
same, however they differ otherwise, if the recovery looks at nothing but signatures. -/
theorem extract_of_signedData_eq (hreads : ReadsSignatures ρ) (schedule : Schedule) (recovery : ρ)
    (first second : Block) (hnumber : first.header.number = second.header.number)
    (hsigned : first.signedData = second.signedData) :
    first.extract schedule recovery = second.extract schedule recovery := by
  rw [← first.extract_plain hreads, ← second.extract_plain hreads, hnumber, hsigned]

namespace Outcome.Sample

/-- The address of somebody who signed nothing. -/
def impostor : Address := .replicate 20 0x33

/-- The transaction with two public keys, sent to another chain, with the impostor embedded and more
marks. -/
def disguised : Transaction :=
  { announced with chainId := 9, nonce := 5, sender := some impostor, marks := [1, 7] }

/-- The block with other hashes, with the disguised transaction in place of the one that was
announced, and with transactions that carry no control messages between all others. -/
def tampered : Block :=
  ⟨⟨200, .replicate 32 1, .replicate 32 2⟩,
    [disguised, { unanswered with marks := [2, 1] }, { announced with data := [], nonce := 3 },
      { announced with marks := [] }, { unanswered with sender := some signer }]⟩

end Outcome.Sample

open Outcome.Sample in
/-- The block that was tampered with yields what the block yields, although the recovery stops
answering in it: the second public key stands under the signer, and nothing under the impostor. -/
theorem extract_of_tampered :
    tampered.extract schedule recovery = block.extract schedule recovery ∧
      ∃ data, (tampered.extract schedule recovery).1 = .ok (.found data) ∧
        data.state.payload? .publicKey signer = some [2] ∧
        data.state.payload? .publicKey impostor = none := by
  have hsame := extract_of_signedData_eq (Metered.readsSignatures SignerTable.readsSignatures)
    schedule recovery tampered block rfl (by rfl)
  refine ⟨hsame, _, rfl, by rfl, by rfl⟩

end ControlPool
