import ControlPool.Bytes.Fixed

/-!
# Roles

The roles that senders hold, and the oracle that names the holders of a role at a height. The
oracle is not owned by the pool and each of its answers may be a failure.
-/

namespace ControlPool

/-- A role that an address may hold: broadcasters answer roll calls, validators announce and reveal
keys, and nodes send heartbeats. -/
inductive Role where
  | broadcaster
  | validator
  | node
  deriving DecidableEq, Inhabited

/-- Who holds a role at a height, or the oracle's own words on why it cannot say. -/
abbrev RoleOracle := UInt64 → Role → Except String (List Address)

/-- Fixed holders of each role, the same at every height. An outage fails all queries, and the fault
of a role goes before it. -/
structure RoleTable where
  members : Role → List Address
  outage : Option String
  fault : Role → Option String

namespace RoleTable

/-- Nobody holds a role and nothing fails. -/
def empty : RoleTable := ⟨fun _ => [], none, fun _ => none⟩

instance : Inhabited RoleTable := ⟨empty⟩

/-- Adds a holder of a role. -/
def addMember (table : RoleTable) (role : Role) (address : Address) : RoleTable :=
  { table with
    members := fun r => if r = role then address :: table.members r else table.members r }

/-- Removes a holder of a role. -/
def removeMember (table : RoleTable) (role : Role) (address : Address) : RoleTable :=
  { table with
    members := fun r =>
      if r = role then (table.members r).filter (· ≠ address) else table.members r }

/-- Sets or clears the failure of a role's queries. -/
def setFault (table : RoleTable) (role : Role) (text : Option String) : RoleTable :=
  { table with fault := fun r => if r = role then text else table.fault r }

/-- The oracle that a table is. -/
def oracle (table : RoleTable) : RoleOracle := fun _ role =>
  match table.fault role, table.outage with
  | some text, _ => .error text
  | none, some text => .error text
  | none, none => .ok (table.members role)

end RoleTable

end ControlPool
