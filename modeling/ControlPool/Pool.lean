import ControlPool.Admission
import ControlPool.Config
import ControlPool.Registry
import ControlPool.Tally

/-!
# The pool

The pool admits transactions key by key and hands all pending ones out grouped by sender. It
consults the chain head, the role oracle and the recovery of senders, and owns only its registry
and counters. Nothing is judged before the size, the mark and the body of a transaction are in
order; keys are judged in key order up to the first that is refused, and the messages admitted
before it stay.
-/

namespace ControlPool

/-- What the pool consults and does not own: each answer is that of the moment. A head that cannot
be read comes as the reader's own words on why. -/
structure Surroundings where
  head : Except String Head
  roles : RoleOracle

/-- A pool and what it consults. -/
structure Pool (ρ : Type) where
  config : Config
  surroundings : Surroundings
  recovery : ρ
  registry : Registry
  tally : Tally

namespace Pool

/-- The number of this pool among the pools of a node. -/
def index : Nat := 1

variable {ρ : Type}

/-- A pool in which nothing has happened. -/
def new (config : Config) (surroundings : Surroundings) (recovery : ρ) : Pool ρ :=
  ⟨config, surroundings, recovery, .empty, .zero⟩

/-- The number of pending transactions. -/
def pending (pool : Pool ρ) : Nat := pool.registry.size

/-- The payload of a transaction whose size, mark and body are in order, checked in that order. -/
def bodyOf (limit : UInt64) (tx : Transaction) : Except PoolError Payload :=
  if limit.toNat < tx.encodedLength then .error (.tooLarge tx.encodedLength limit)
  else if tx.isControl then
    match tx.payload? with
    | some payload => .ok payload
    | none => .error (.malformed .unreadable)
  else .error (.wrongMark tx.marks.head?)

/-- The messages admitted before the first key that is refused, and why that one is. -/
def judgeKeys (schedule : Schedule) (roles : RoleOracle) (sender : Address) (head : Head) :
    List (String × List UInt8) → List Message × Option PoolError
  | [] => ([], none)
  | (key, payload) :: entries =>
    match decideKey schedule roles sender key head with
    | .error failure => ([], some failure)
    | .ok admission =>
      let (admitted, failure) := judgeKeys schedule roles sender head entries
      (⟨admission.kind, admission.epoch, sender, payload⟩ :: admitted, failure)

/-- What a failure adds to the counters: one refusal, if it is one. -/
def refusalTally (failure : Option PoolError) : Tally :=
  match failure.bind PoolError.rejection? with
  | some rejection => .single (.rejected rejection.reason) 1
  | none => .zero

/-- What admitted messages add to the counters, given which identities were accepted. -/
def filingTally (admitted : List Message) (accepted : List Hash) : Tally :=
  .single .admitted (admitted.countP fun message => message.identity ∈ accepted) +
    .single .duplicates (admitted.countP fun message => message.identity ∉ accepted)

/-- Files the messages that were admitted and answers with the failure or the report. -/
def settle (pool : Pool ρ) (tx : Transaction) (admitted : List Message)
    (failure : Option PoolError) : Except PoolError FilingReport × Pool ρ :=
  let (report, registry) := pool.registry.insertAll tx admitted
  let tally := pool.tally + refusalTally failure + filingTally admitted report.accepted
  let answer := match failure with
    | some failure => .error failure
    | none => .ok report
  (answer, { pool with registry, tally })

variable [SignerRecovery ρ]

/-- Judges and files the keys of a transaction whose structure is in order. -/
def insertPayload (pool : Pool ρ) (tx : Transaction) (payload : Payload) :
    Except PoolError FilingReport × Pool ρ :=
  match findSender pool.config.senderPolicy pool.recovery tx with
  | (.error failure, recovery) => (.error failure, { pool with recovery })
  | (.ok sender, recovery) =>
    match pool.surroundings.head with
    | .error text => (.error (.headUnavailable text), { pool with recovery })
    | .ok head =>
      let (admitted, failure) :=
        judgeKeys pool.config.schedule pool.surroundings.roles sender.address head payload.entries
      settle { pool with recovery } tx admitted failure

/-- Offers a transaction to the pool. -/
def insert (pool : Pool ρ) (tx : Transaction) : Except PoolError FilingReport × Pool ρ :=
  match bodyOf pool.config.sizeLimit tx with
  | .error failure => (.error failure, pool)
  | .ok payload => pool.insertPayload tx payload

/-- Transactions by sender, those of one sender in order of arrival. -/
abbrev BySender := OrderedMap Address (List Transaction)

/-- Adds a transaction to those of a sender. -/
def addTo (groups : BySender) (sender : Address) (tx : Transaction) : BySender :=
  groups.insert sender (((groups.get? sender).getD []) ++ [tx])

/-- Groups the transactions of entries by sender. An entry whose sender cannot be found is
dropped. -/
def groupBySender (policy : SenderPolicy) : List Arrival → BySender → ρ → BySender × ρ
  | [], groups, recovery => (groups, recovery)
  | entry :: entries, groups, recovery =>
    match findSender policy recovery entry.transaction with
    | (.ok sender, recovery) =>
      groupBySender policy entries (addTo groups sender.address entry.transaction) recovery
    | (.error _, recovery) => groupBySender policy entries groups recovery

/-- Hands out all pending transactions. -/
def drain (pool : Pool ρ) : BySender × Pool ρ :=
  let (entries, registry) := pool.registry.drain
  let (groups, recovery) :=
    groupBySender pool.config.senderPolicy entries .empty pool.recovery
  (groups,
    { pool with registry, recovery, tally := pool.tally + .single .drained entries.length })

end Pool

end ControlPool
