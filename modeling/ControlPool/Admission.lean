import ControlPool.Error
import ControlPool.Role
import ControlPool.Schedule

/-!
# Admission of keys

Whether a sender's key may be buffered at a chain head. The key must be that of a kind for the
next epoch, and the sender must hold the role of the kind. A roll call is admitted one or two
heights before the boundary, a heartbeat when the sender and the block hash leave the same residue.
-/

namespace ControlPool

/-- The head of the chain. -/
structure Head where
  height : UInt64
  hash : Hash
  deriving DecidableEq, Inhabited

/-- A key that is admitted. -/
structure Admission where
  kind : Kind
  epoch : UInt64
  deriving DecidableEq, Inhabited

/-- What stands in a key before the epoch, which must be written for the last time at its end. -/
def labelBefore? (key : String) (epoch : UInt64) : Option String :=
  (Text.beforeFinal? (Text.decimal epoch.toNat).toList key.toList).map String.ofList

/-- The role that the senders of a kind must hold. -/
def Kind.role : Kind → Role
  | .rollCall => .broadcaster
  | .heartbeat => .node
  | .publicKey => .validator
  | .privateKey => .validator

/-- Whether a sender and a block hash have the same residue. -/
def Schedule.selectsHeartbeat (schedule : Schedule) (sender : Address) (hash : Hash) : Bool :=
  sender.value % schedule.selectionModulus.toNat == hash.value % schedule.selectionModulus.toNat

/-- Whether the next boundary is one or two heights above a height. -/
def Schedule.inRollCallWindow (schedule : Schedule) (height : UInt64) : Bool :=
  match schedule.nextBoundary? height with
  | some next => next - height == 1 || next - height == 2
  | none => false

/-- Refuses a sender that does not hold the role of a kind. -/
def checkRole (roles : RoleOracle) (height : UInt64) (kind : Kind) (sender : Address) :
    Except PoolError Unit :=
  match roles height kind.role with
  | .error text => .error (.rolesUnavailable text)
  | .ok members =>
    if sender ∈ members then .ok () else .error (.rejected (.roleMissing kind sender))

/-- Refuses a roll call outside its window. -/
def checkWindow (schedule : Schedule) (height : UInt64) : Except PoolError Unit :=
  if schedule.inRollCallWindow height then .ok ()
  else .error (.rejected (.outsideWindow height (schedule.nextBoundary? height)))

/-- Refuses a heartbeat of a sender that the block hash does not select. -/
def checkSelection (schedule : Schedule) (sender : Address) (hash : Hash) :
    Except PoolError Unit :=
  if schedule.selectsHeartbeat sender hash then .ok ()
  else .error (.rejected (.notSelected sender))

/-- Checks the window, the role and the selection that a kind asks for. A roll call's window is
judged before its role, a heartbeat's role before its selection. -/
def judgeKind (schedule : Schedule) (roles : RoleOracle) (sender : Address) (head : Head)
    (kind : Kind) : Except PoolError Unit :=
  match kind with
  | .rollCall => do
    checkWindow schedule head.height
    checkRole roles head.height kind sender
  | .heartbeat => do
    checkRole roles head.height kind sender
    checkSelection schedule sender head.hash
  | .publicKey => checkRole roles head.height kind sender
  | .privateKey => checkRole roles head.height kind sender

/-- Decides whether a sender's key is admitted at a head. -/
def decideKey (schedule : Schedule) (roles : RoleOracle) (sender : Address) (key : String)
    (head : Head) : Except PoolError Admission :=
  let epoch := schedule.upcomingEpoch head.height
  match labelBefore? key epoch with
  | none => .error (.rejected (.wrongEpoch key epoch))
  | some label =>
    match Kind.ofTag? label with
    | none => .error (.rejected (.unknownLabel label))
    | some kind => (judgeKind schedule roles sender head kind).map fun _ => ⟨kind, epoch⟩

end ControlPool
