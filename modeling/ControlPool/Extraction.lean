import ControlPool.Block
import ControlPool.Schedule
import ControlPool.Sender
import ControlPool.StateMap

/-!
# Extraction of committed state

A block at a boundary height is scanned for control transactions. Inclusion in a block counts as
admission, so keys are classified loosely and senders are always recovered from signatures. A
transaction whose body or sender cannot be read is skipped; of payloads with one kind and sender
the last stays.
-/

namespace ControlPool

/-- The data of a block at a boundary: the payloads, and how many control transactions were skipped
for want of a body or a sender and how many keys for want of a tag. -/
structure BlockData where
  height : UInt64
  state : StateMap
  skipped : Nat
  unclassified : Nat
  deriving DecidableEq

/-- The outcome of scanning a block. -/
inductive Extraction where
  | offBoundary
  | found (data : BlockData)
  deriving DecidableEq

/-- A scan in the middle of a block, with the numbers of keys filed and passed over and of
transactions skipped so far. -/
structure Scan where
  state : StateMap
  classified : Nat
  unclassified : Nat
  skipped : Nat
  deriving DecidableEq

namespace Scan

/-- The scan before the first transaction. -/
def start : Scan := ⟨.fresh, 0, 0, 0⟩

/-- Files one key of a sender under the kind it is classified to. -/
def addKey (sender : Address) (scan : Scan) (entry : String × List UInt8) : Scan :=
  match Kind.classify? entry.1 with
  | some kind =>
    { scan with
      state := scan.state.file kind sender entry.2
      classified := scan.classified + 1 }
  | none => { scan with unclassified := scan.unclassified + 1 }

/-- Files all keys of a payload. -/
def addPayload (scan : Scan) (sender : Address) (payload : Payload) : Scan :=
  payload.entries.foldl (addKey sender) scan

/-- Passes over a transaction that cannot be read. -/
def skip (scan : Scan) : Scan := { scan with skipped := scan.skipped + 1 }

variable {ρ : Type} [SignerRecovery ρ]

/-- Scans one control transaction. The signature is asked only if the body can be read. -/
def addTransaction (scan : Scan) (recovery : ρ) (tx : Transaction) : Scan × ρ :=
  match tx.payload? with
  | none => (scan.skip, recovery)
  | some payload =>
    match findSender .recoveredOnly recovery tx with
    | (.ok sender, recovery) => (scan.addPayload sender.address payload, recovery)
    | (.error _, recovery) => (scan.skip, recovery)

/-- Scans transactions one after the other, those without the mark of control messages aside. -/
def addTransactions (scan : Scan) (recovery : ρ) : List Transaction → Scan × ρ
  | [] => (scan, recovery)
  | tx :: txs =>
    if tx.isControl then
      let (scan, recovery) := scan.addTransaction recovery tx
      addTransactions scan recovery txs
    else addTransactions scan recovery txs

end Scan

/-- Extracts the data of a block, and says what became of the recovery. -/
def Block.extract {ρ : Type} [SignerRecovery ρ] (block : Block) (schedule : Schedule)
    (recovery : ρ) : Except PoolError Extraction × ρ :=
  if schedule.isBoundary block.header.number then
    let (scan, recovery) := Scan.start.addTransactions recovery block.transactions
    if scan.classified = 0 then (.error (.nothingFound block.header.number), recovery)
    else (.ok (.found
      ⟨block.header.number, scan.state, scan.skipped, scan.unclassified⟩), recovery)
  else (.ok .offBoundary, recovery)

end ControlPool
