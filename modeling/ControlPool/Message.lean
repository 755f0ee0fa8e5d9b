import ControlPool.Bytes.Hex
import ControlPool.Bytes.Fixed
import ControlPool.Bytes.Keccak
import ControlPool.Kind
import ControlPool.Text.Utf8

/-!
# Control messages

A message is sent by one sender, for one epoch, of one kind. Its identity is the hash of these
three, so a sender has at most one message of a kind pending for an epoch, whatever it carries.
-/

namespace ControlPool

/-- An address as text: `0x` and its hexadecimal digits. -/
def Address.text (address : Address) : String := "0x" ++ Hex.render address.toList

/-- A control message with the epoch it is meant for. -/
structure Message where
  kind : Kind
  epoch : UInt64
  sender : Address
  payload : List UInt8
  deriving DecidableEq, Inhabited

/-- The text that is hashed into an identity: tag, epoch and sender one after the other. -/
def identityText (kind : Kind) (epoch : UInt64) (sender : Address) : String :=
  kind.tag ++ Text.decimal epoch.toNat ++ sender.text

/-- The identity of the message of a kind that a sender has for an epoch. -/
def messageIdentity (kind : Kind) (epoch : UInt64) (sender : Address) : Hash :=
  ⟨Keccak.digest (Text.utf8 (identityText kind epoch sender)), Keccak.length_digest _⟩

/-- The identity of a message. -/
def Message.identity (message : Message) : Hash :=
  messageIdentity message.kind message.epoch message.sender

end ControlPool
