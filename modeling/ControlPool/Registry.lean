import ControlPool.Message
import ControlPool.Transaction

/-!
# The registry of pending messages

Admitted transactions wait here under the identities of their messages, in the order in which they
arrived. An identity is held once. Arrivals are numbered, and the numbers go on after a drain.
-/

namespace ControlPool

/-- A pending transaction under the identity of the message it was admitted for, with its number
among all arrivals. -/
structure Arrival where
  identity : Hash
  transaction : Transaction
  number : Nat
  deriving DecidableEq, Inhabited

/-- The pending transactions in order of arrival, and the number of the next one. -/
structure Registry where
  entries : List Arrival
  nextNumber : Nat
  deriving DecidableEq, Inhabited

/-- What became of the messages of one transaction: identities that were not pending before, and
those that were. -/
structure FilingReport where
  accepted : List Hash
  duplicates : List Hash
  deriving DecidableEq, Inhabited

namespace Registry

/-- The registry before any arrival. -/
def empty : Registry := ⟨[], 0⟩

/-- The number of entries. -/
def size (registry : Registry) : Nat := registry.entries.length

/-- Whether nothing is pending. -/
def isEmpty (registry : Registry) : Bool := registry.entries.isEmpty

/-- Whether an identity is pending. -/
def contains (registry : Registry) (identity : Hash) : Bool :=
  registry.entries.any (·.identity = identity)

/-- Files a transaction under an identity unless that identity is pending, and says whether it
was filed. -/
def insert (registry : Registry) (identity : Hash) (tx : Transaction) : Bool × Registry :=
  if registry.contains identity then (false, registry)
  else (true, ⟨registry.entries ++ [⟨identity, tx, registry.nextNumber⟩],
    registry.nextNumber + 1⟩)

/-- Takes all entries. -/
def drain (registry : Registry) : List Arrival × Registry :=
  (registry.entries, ⟨[], registry.nextNumber⟩)

/-- Files a transaction under the identities of messages, one after the other. -/
def insertAll (registry : Registry) (tx : Transaction) :
    List Message → FilingReport × Registry
  | [] => (⟨[], []⟩, registry)
  | message :: messages =>
    match registry.insert message.identity tx with
    | (true, registry) =>
      let (report, registry) := insertAll registry tx messages
      ({ report with accepted := message.identity :: report.accepted }, registry)
    | (false, registry) =>
      let (report, registry) := insertAll registry tx messages
      ({ report with duplicates := message.identity :: report.duplicates }, registry)

end Registry

end ControlPool
