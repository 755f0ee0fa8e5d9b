import ControlPool.Error
import ControlPool.StateMap

/-!
# The state store

Values are kept under a root and a key. The data of a block is committed under one fixed key, and
later epochs look the bucket of a kind up at a root.
-/

namespace ControlPool

/-- Values by root and key, latest first. -/
structure Store where
  values : List ((Hash × String) × List UInt8)
  deriving DecidableEq, Inhabited

namespace Store

/-- The store without values. -/
def empty : Store := ⟨[]⟩

/-- The key of committed control data. -/
def controlKey : String := "broadcast_tx"

/-- Puts a value under a root and a key, in place of the one that was there. -/
def put (store : Store) (root : Hash) (key : String) (value : List UInt8) : Store :=
  ⟨((root, key), value) :: store.values⟩

/-- The value under a root and a key. -/
def get? (store : Store) (root : Hash) (key : String) : Option (List UInt8) :=
  (store.values.find? (·.1 = (root, key))).map (·.2)

/-- A value that was put is found. -/
theorem get?_put_self (store : Store) (root : Hash) (key : String) (value : List UInt8) :
    (store.put root key value).get? root key = some value := by
  simp [get?, put]

/-- The bucket of a kind in the state that is committed at a root. -/
def lookup (store : Store) (root : Hash) (kind : Kind) : Except PoolError Bucket :=
  match store.get? root controlKey with
  | none => .error (.valueMissing controlKey root)
  | some bytes =>
    match StateMap.decode? bytes with
    | none => .error .undecodable
    | some state =>
      match StateMap.bucket? state kind with
      | none => .error (.bucketMissing kind)
      | some bucket => .ok bucket

end Store

end ControlPool
