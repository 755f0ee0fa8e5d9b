import ControlPool.Kind
import ControlPool.Bytes.Fixed
import ControlPool.Text.Quoted

/-!
# Errors

Why a key is refused and why an operation of the pool fails. Each constructor is a cause; its
wording is in one place. Some causes have no wording of their own.
-/

namespace ControlPool

/-- The kinds of refusal that are counted separately. -/
inductive Reason where
  | wrongEpoch
  | unknownLabel
  | roleMissing
  | outsideWindow
  | notSelected
  deriving DecidableEq, Inhabited

namespace Reason

/-- All reasons. -/
def all : List Reason :=
  [wrongEpoch, unknownLabel, roleMissing, outsideWindow, notSelected]

/-- The label of a reason in reports. -/
def label : Reason → String
  | wrongEpoch => "stale_or_mismatched_epoch"
  | unknownLabel => "unknown_message_type"
  | roleMissing => "unauthorized_sender"
  | outsideWindow => "height_window_violation"
  | notSelected => "not_selected_this_window"

end Reason

/-- Why a key is refused. A label is what stands in the key before the epoch. -/
inductive Rejection where
  | wrongEpoch (key : String) (expected : UInt64)
  | unknownLabel (label : String)
  | roleMissing (kind : Kind) (sender : Address)
  | outsideWindow (height : UInt64) (nextBoundary : Option UInt64)
  | notSelected (sender : Address)
  deriving DecidableEq, Inhabited

namespace Rejection

/-- The reason under which a refusal is counted. -/
def reason : Rejection → Reason
  | wrongEpoch .. => .wrongEpoch
  | unknownLabel .. => .unknownLabel
  | roleMissing .. => .roleMissing
  | outsideWindow .. => .outsideWindow
  | notSelected .. => .notSelected

/-- The wording of a refusal. -/
def message : Rejection → String
  | wrongEpoch key expected =>
    "Stale or mismatched epoch in key " ++ Text.quote key ++ ": expected suffix " ++
      Text.decimal expected.toNat
  | unknownLabel label => "Unknown broadcast message type: " ++ Text.quote label
  | roleMissing kind sender =>
    "Sender " ++ Text.byteList sender.toList ++ " not authorized for " ++ kind.tag ++ " messages"
  | outsideWindow height nextBoundary =>
    "Height " ++ Text.decimal height.toNat ++ " outside roll-call window (next broadcast at " ++
      Text.optional (nextBoundary.map UInt64.toNat) ++ ")"
  | notSelected sender =>
    "Sender " ++ Text.byteList sender.toList ++ " not selected for heartbeat at this window"

end Rejection

/-- What is wrong with a message or a body that cannot be read. -/
inductive PayloadFault where
  | noEntries
  | unreadable
  deriving DecidableEq, Inhabited

/-- What is wrong with a configuration. -/
inductive ConfigFault where
  | unreadable
  | intervalTooShort (interval : UInt64)
  | sizeLimitZero
  deriving DecidableEq, Inhabited

/-- Why an operation of the pool fails. The texts are the words of the collaborator that failed. -/
inductive PoolError where
  | rejected (rejection : Rejection)
  | tooLarge (size : Nat) (limit : UInt64)
  | wrongMark (found : Option UInt8)
  | malformed (fault : PayloadFault)
  | senderUnknown (text : String)
  | nothingFound (height : UInt64)
  | rolesUnavailable (text : String)
  | headUnavailable (text : String)
  | valueMissing (key : String) (root : Hash)
  | bucketMissing (kind : Kind)
  | badConfig (fault : ConfigFault)
  | undecodable
  deriving DecidableEq, Inhabited

namespace PoolError

/-- The refusal behind an error, if it is one. -/
def rejection? : PoolError → Option Rejection
  | rejected rejection => some rejection
  | _ => none

/-- The wording of an error. Bytes that cannot be read have none. -/
def message : PoolError → Option String
  | rejected rejection => some ("Admission rejected: " ++ rejection.message)
  | tooLarge size limit =>
    some ("Transaction too large: " ++ Text.decimal size ++ " bytes > " ++
      Text.decimal limit.toNat ++ " bytes")
  | wrongMark found =>
    some ("Wrong transaction type: " ++ Text.optional (found.map UInt8.toNat) ++
      " (expected broadcast)")
  | malformed .noEntries =>
    some "Malformed broadcast payload: network message has no entries"
  | malformed .unreadable => none
  | senderUnknown text => some ("Invalid sender: " ++ text)
  | nothingFound height => some ("No broadcast data in block " ++ Text.decimal height.toNat)
  | rolesUnavailable text => some ("Role oracle error: " ++ text)
  | headUnavailable text => some ("Chain head error: " ++ text)
  | valueMissing key root =>
    some ("State error: no value for " ++ key ++ " at root " ++ Text.byteList root.toList)
  | bucketMissing kind => some ("No committed broadcast data for " ++ kind.tag)
  | badConfig .unreadable => none
  | badConfig (.intervalTooShort interval) =>
    some ("Invalid configuration: broadcast_interval must be >= 2, got " ++
      Text.decimal interval.toNat)
  | badConfig .sizeLimitZero =>
    some "Invalid configuration: max_tx_size must be non-zero"
  | undecodable => none

end PoolError

end ControlPool
