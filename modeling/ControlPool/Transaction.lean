import ControlPool.Bytes.Binary
import ControlPool.Bytes.Fixed
import ControlPool.Bytes.Keccak
import ControlPool.Payload

/-!
# Transactions

A transaction as the pool sees it. The first of its type marks says whether it carries control
messages. Its binary form is what is measured and hashed.
-/

namespace ControlPool

/-- A transaction with the sender that the originating node embedded, if any. The body of a control
transaction is the text of a payload. -/
structure Transaction where
  chainId : UInt64
  nonce : UInt64
  sender : Option Address
  data : List UInt8
  marks : List UInt8
  signature : List UInt8
  deriving DecidableEq, Inhabited

namespace Transaction

/-- The mark of a transaction that carries control messages. -/
def controlMark : UInt8 := 1

/-- An unsigned transaction that carries a payload. -/
def carrying (chainId nonce : UInt64) (payload : Payload) : Transaction :=
  ⟨chainId, nonce, none, payload.encode, [controlMark], []⟩

/-- Whether the first mark is that of control messages. -/
def isControl (tx : Transaction) : Bool := tx.marks.head? = some controlMark

/-- The payload in the body. -/
def payload? (tx : Transaction) : Option Payload := Payload.decode? tx.data

/-- The binary form: two words, the optional sender, and three byte strings with their lengths. -/
def encode (tx : Transaction) : List UInt8 :=
  Binary.word tx.chainId ++ Binary.word tx.nonce ++
    Binary.optional FixedBytes.toList tx.sender ++
    Binary.octets tx.data ++ Binary.octets tx.marks ++ Binary.octets tx.signature

/-- The length of the binary form, found without writing it. -/
def encodedLength (tx : Transaction) : Nat :=
  41 + (if tx.sender.isSome then 20 else 0) +
    tx.data.length + tx.marks.length + tx.signature.length

/-- The encoded size is the length of the binary form. -/
theorem length_encode (tx : Transaction) : tx.encode.length = tx.encodedLength := by
  cases h : tx.sender with
  | none =>
    simp [encode, encodedLength, Binary.word, Binary.octets, Binary.count, Binary.optional, h]
    omega
  | some address =>
    simp [encode, encodedLength, Binary.word, Binary.octets, Binary.count, Binary.optional, h,
      address.length_toList]
    omega

/-- The hash of the binary form. -/
def hash (tx : Transaction) : Hash := ⟨Keccak.digest tx.encode, Keccak.length_digest _⟩

end Transaction

end ControlPool
