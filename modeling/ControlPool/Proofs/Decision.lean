import ControlPool.Proofs.Boundary
import ControlPool.Proofs.Key

/-!
# What is decided on a key

A key is admitted if it is that of a kind for the upcoming epoch, the oracle names the sender among
the holders of the kind's role, a roll call is in its window and a heartbeat is selected. Otherwise
the first rule that is broken is the error: the epoch and the label are looked at before any role,
the window of a roll call before its role, and the selection of a heartbeat behind its role. Each
error arises exactly under its own condition, and there are no others.
-/

namespace ControlPool

/-- Whether a sender and a block hash leave the same residue. -/
def Schedule.SameResidue (schedule : Schedule) (sender : Address) (hash : Hash) : Prop :=
  sender.value % (schedule.interval.toNat - 1) = hash.value % (schedule.interval.toNat - 1)

/-- Heartbeats are selected by their residue modulo one less than the interval. -/
theorem Schedule.selectsHeartbeat_iff {schedule : Schedule} {sender : Address} {hash : Hash}
    (hinterval : 2 ≤ schedule.interval) :
    schedule.selectsHeartbeat sender hash = true ↔ schedule.SameResidue sender hash := by
  rw [selectsHeartbeat, beq_iff_eq, toNat_selectionModulus hinterval, SameResidue]

/-- The role for which a kind asks its senders: keys are sent by validators, heartbeats by nodes and
roll calls by broadcasters. -/
inductive Kind.AsksFor : Kind → Role → Prop
  | publicKey : AsksFor .publicKey .validator
  | privateKey : AsksFor .privateKey .validator
  | heartbeat : AsksFor .heartbeat .node
  | rollCall : AsksFor .rollCall .broadcaster

/-- The role that is looked up for a kind is the one for which it asks. -/
theorem Kind.asksFor_iff {kind : Kind} {role : Role} : kind.AsksFor role ↔ kind.role = role := by
  constructor
  · intro hasks
    cases hasks <;> rfl
  · rintro rfl
    cases kind <;> constructor

section

variable (schedule : Schedule) (roles : RoleOracle) (sender : Address) (key : String) (head : Head)

/-- Whether the oracle names the sender among the holders of the role that a kind asks for. -/
def HoldsRole (kind : Kind) : Prop :=
  ∃ role members, kind.AsksFor role ∧ roles head.height role = .ok members ∧ sender ∈ members

/-- Whether the oracle names the holders of the role that a kind asks for, and the sender is none of
them. -/
def LacksRole (kind : Kind) : Prop :=
  ∃ role members, kind.AsksFor role ∧ roles head.height role = .ok members ∧ sender ∉ members

/-- What must hold for a key to be admitted for a kind and an epoch: the epoch is upcoming, the key
is that of the kind for it, the sender holds the role, a roll call is in its window and a heartbeat
is selected. -/
structure Admissible (admission : Admission) : Prop where
  epoch : admission.epoch.toNat = head.height.toNat / schedule.interval.toNat + 1
  key : key = admission.kind.key admission.epoch
  role : HoldsRole roles sender head admission.kind
  window : admission.kind = .rollCall → schedule.RollCallOpen head.height
  selection : admission.kind = .heartbeat → schedule.SameResidue sender head.hash

/-- What must hold for a key to be refused with an error. -/
def Inadmissible : PoolError → Prop
  | .rejected (.wrongEpoch key' expected) =>
    ¬(Text.decimal (schedule.upcomingEpoch head.height).toNat).toList <:+ key.toList ∧
      key' = key ∧ expected = schedule.upcomingEpoch head.height
  | .rejected (.unknownLabel label) =>
    key = label ++ Text.decimal (schedule.upcomingEpoch head.height).toNat ∧
      ∀ kind : Kind, kind.tag ≠ label
  | .rejected (.outsideWindow height next) =>
    key = Kind.rollCall.key (schedule.upcomingEpoch head.height) ∧
      ¬schedule.RollCallOpen head.height ∧
      height = head.height ∧ next = schedule.nextBoundary? head.height
  | .rejected (.roleMissing kind sender') =>
    key = kind.key (schedule.upcomingEpoch head.height) ∧
      (kind = .rollCall → schedule.RollCallOpen head.height) ∧
      LacksRole roles sender head kind ∧ sender' = sender
  | .rejected (.notSelected sender') =>
    key = Kind.heartbeat.key (schedule.upcomingEpoch head.height) ∧
      HoldsRole roles sender head .heartbeat ∧ ¬schedule.SameResidue sender head.hash ∧
      sender' = sender
  | .rolesUnavailable text =>
    ∃ (kind : Kind) (role : Role), key = kind.key (schedule.upcomingEpoch head.height) ∧
      (kind = .rollCall → schedule.RollCallOpen head.height) ∧
      kind.AsksFor role ∧ roles head.height role = .error text
  | _ => False

end

section

variable {schedule : Schedule} {roles : RoleOracle} {sender : Address} {key : String} {head : Head}

/-- The role of a kind is in order if the sender holds it. -/
theorem checkRole_eq_ok_iff {kind : Kind} :
    checkRole roles head.height kind sender = .ok () ↔ HoldsRole roles sender head kind := by
  simp only [checkRole, HoldsRole, Kind.asksFor_iff, exists_and_left, exists_eq_left']
  cases roles head.height kind.role with
  | error text => simp
  | ok members => by_cases hmember : sender ∈ members <;> simp [hmember]

/-- The role of a kind is not in order if the oracle fails or the sender does not hold it. -/
theorem checkRole_eq_error_iff {kind : Kind} {error : PoolError} :
    checkRole roles head.height kind sender = .error error ↔
      (∃ text, roles head.height kind.role = .error text ∧ error = .rolesUnavailable text) ∨
        LacksRole roles sender head kind ∧ error = .rejected (.roleMissing kind sender) := by
  simp only [checkRole, LacksRole, Kind.asksFor_iff, exists_and_left, exists_eq_left']
  cases roles head.height kind.role with
  | error text => simp [eq_comm]
  | ok members => by_cases hmember : sender ∈ members <;> simp [hmember, eq_comm]

/-- What a kind asks for is in order if the sender holds its role, a roll call is in its window and
a heartbeat is selected. -/
theorem judgeKind_eq_ok_iff (hinterval : 2 ≤ schedule.interval) {kind : Kind} :
    judgeKind schedule roles sender head kind = .ok () ↔
      HoldsRole roles sender head kind ∧
        (kind = .rollCall → schedule.RollCallOpen head.height) ∧
        (kind = .heartbeat → schedule.SameResidue sender head.hash) := by
  rw [← checkRole_eq_ok_iff, ← Schedule.inRollCallWindow_iff hinterval,
    ← Schedule.selectsHeartbeat_iff hinterval]
  cases kind with
  | publicKey => simp [judgeKind]
  | privateKey => simp [judgeKind]
  | heartbeat =>
    simp only [judgeKind, checkSelection]
    cases checkRole roles head.height .heartbeat sender <;>
      cases schedule.selectsHeartbeat sender head.hash <;> simp [bind, Except.bind]
  | rollCall =>
    simp only [judgeKind, checkWindow]
    cases schedule.inRollCallWindow head.height <;> simp [bind, Except.bind]

/-- What a kind asks for is not in order if a roll call is outside its window, if the role is not in
order, or if a heartbeat whose role is in order is not selected. -/
theorem judgeKind_eq_error_iff (hinterval : 2 ≤ schedule.interval) {kind : Kind}
    {error : PoolError} :
    judgeKind schedule roles sender head kind = .error error ↔
      (kind = .rollCall ∧ ¬schedule.RollCallOpen head.height ∧
        error = .rejected
          (.outsideWindow head.height (schedule.nextBoundary? head.height))) ∨
      ((kind = .rollCall → schedule.RollCallOpen head.height) ∧
        checkRole roles head.height kind sender = .error error) ∨
      (kind = .heartbeat ∧ HoldsRole roles sender head .heartbeat ∧
        ¬schedule.SameResidue sender head.hash ∧ error = .rejected (.notSelected sender)) := by
  rw [← checkRole_eq_ok_iff, ← Schedule.inRollCallWindow_iff hinterval,
    ← Schedule.selectsHeartbeat_iff hinterval]
  cases kind with
  | publicKey => simp [judgeKind]
  | privateKey => simp [judgeKind]
  | heartbeat =>
    simp only [judgeKind, checkSelection]
    cases checkRole roles head.height .heartbeat sender <;>
      cases schedule.selectsHeartbeat sender head.hash <;> simp [bind, Except.bind, @eq_comm _ error]
  | rollCall =>
    simp only [judgeKind, checkWindow]
    cases schedule.inRollCallWindow head.height <;> simp [bind, Except.bind, @eq_comm _ error]

/-- Nothing stands before an epoch whose digits do not end the key. -/
theorem labelBefore?_eq_none_iff {epoch : UInt64} :
    labelBefore? key epoch = none ↔ ¬(Text.decimal epoch.toNat).toList <:+ key.toList := by
  rw [Option.eq_none_iff_forall_ne_some, ← not_exists]
  refine not_congr ⟨?_, ?_⟩
  · rintro ⟨label, hlabel⟩
    rw [labelBefore?_eq_some_iff.mp hlabel, String.toList_append]
    exact List.suffix_append _ _
  · rintro ⟨before, hbefore⟩
    refine ⟨String.ofList before, labelBefore?_eq_some_iff.mpr ?_⟩
    rw [← String.toList_inj, String.toList_append, String.toList_ofList, hbefore]

/-- A label is that of no kind if it is no tag. -/
theorem Kind.ofTag?_eq_none_iff {label : String} :
    Kind.ofTag? label = none ↔ ∀ kind : Kind, kind.tag ≠ label := by
  simp [Kind.ofTag?, List.find?_eq_none, Kind.mem_all]

/-- A label is that of a kind if it is its tag. -/
theorem Kind.ofTag?_eq_some_iff {label : String} {kind : Kind} :
    Kind.ofTag? label = some kind ↔ label = kind.tag :=
  ⟨fun h => (Kind.tag_of_ofTag? h).symm, fun h => h ▸ Kind.ofTag?_tag kind⟩

/-- A key is refused if it does not end with the upcoming epoch, if what stands before the epoch is
no tag, or if what its kind asks for is not in order. -/
theorem decideKey_eq_error_iff {error : PoolError} :
    decideKey schedule roles sender key head = .error error ↔
      (¬(Text.decimal (schedule.upcomingEpoch head.height).toNat).toList <:+ key.toList ∧
        error = .rejected (.wrongEpoch key (schedule.upcomingEpoch head.height))) ∨
      (∃ label, key = label ++ Text.decimal (schedule.upcomingEpoch head.height).toNat ∧
        (∀ kind : Kind, kind.tag ≠ label) ∧ error = .rejected (.unknownLabel label)) ∨
      ∃ kind : Kind, key = kind.key (schedule.upcomingEpoch head.height) ∧
        judgeKind schedule roles sender head kind = .error error := by
  rw [← labelBefore?_eq_none_iff]
  simp only [← labelBefore?_eq_some_iff, Kind.key, ← Kind.ofTag?_eq_none_iff]
  rw [decideKey]
  cases hlabel : labelBefore? key (schedule.upcomingEpoch head.height) with
  | none => simp [@eq_comm _ error]
  | some label =>
    cases hkind : Kind.ofTag? label with
    | none =>
      have hother (kind : Kind) : label ≠ kind.tag := fun h => by
        rw [Kind.ofTag?_eq_some_iff.mpr h] at hkind
        cases hkind
      simp [hkind, hother, @eq_comm _ error]
    | some kind =>
      have htag (other : Kind) : label = other.tag ↔ other = kind := by
        rw [← Kind.ofTag?_eq_some_iff, hkind, Option.some.injEq, eq_comm]
      cases hjudge : judgeKind schedule roles sender head kind <;>
        simp [hkind, htag, hjudge, Except.map]

/-- A key is admitted for a kind and an epoch exactly if it is admissible. -/
theorem decideKey_eq_ok_iff_admissible (hinterval : 2 ≤ schedule.interval)
    {admission : Admission} :
    decideKey schedule roles sender key head = .ok admission ↔
      Admissible schedule roles sender key head admission := by
  rw [decideKey_eq_ok_iff, judgeKind_eq_ok_iff hinterval, ← UInt64.toNat_inj,
    Schedule.toNat_upcomingEpoch schedule head.height hinterval]
  constructor
  · rintro ⟨hepoch, hkey, hrole, hwindow, hselection⟩
    exact ⟨hepoch, hkey, hrole, hwindow, hselection⟩
  · rintro ⟨hepoch, hkey, hrole, hwindow, hselection⟩
    exact ⟨hepoch, hkey, hrole, hwindow, hselection⟩

/-- A key is refused with an error exactly if it is inadmissible for that reason. -/
theorem decideKey_eq_error_iff_inadmissible (hinterval : 2 ≤ schedule.interval)
    {error : PoolError} :
    decideKey schedule roles sender key head = .error error ↔
      Inadmissible schedule roles sender key head error := by
  simp only [decideKey_eq_error_iff, judgeKind_eq_error_iff hinterval, checkRole_eq_error_iff]
  cases error with
  | rejected rejection =>
    cases rejection with
    | wrongEpoch key' expected => simp [Inadmissible]
    | unknownLabel label => simp [Inadmissible]
    | roleMissing kind sender' => simp [Inadmissible]
    | outsideWindow height next => simp [Inadmissible]
    | notSelected sender' => simp [Inadmissible]
  | rolesUnavailable text => simp [Inadmissible, Kind.asksFor_iff]
  | _ => simp [Inadmissible]

end

/-- The key of a kind for another epoch than the upcoming one is refused before any role is looked
at. -/
theorem exists_rejection_of_other_epoch (schedule : Schedule) (sender : Address) (head : Head)
    (kind : Kind) {epoch : UInt64} (h : epoch ≠ schedule.upcomingEpoch head.height) :
    ∃ rejection, ∀ roles,
      decideKey schedule roles sender (kind.key epoch) head = .error (.rejected rejection) := by
  simp only [decideKey_eq_error_iff]
  cases hlabel : labelBefore? (kind.key epoch) (schedule.upcomingEpoch head.height) with
  | none => exact ⟨_, fun _ => .inl ⟨labelBefore?_eq_none_iff.mp hlabel, rfl⟩⟩
  | some label =>
    have hkey := labelBefore?_eq_some_iff.mp hlabel
    refine ⟨_, fun _ => .inr (.inl ⟨label, hkey, ?_, rfl⟩)⟩
    rintro other rfl
    exact h (Kind.key_injective hkey).2

/-- The decision on a key follows the rules: the key is admitted for a kind and an epoch exactly if
it is admissible, it is refused with an error exactly if it is inadmissible for that reason, and the
key of a kind for another epoch than the upcoming one, which is one above the epoch of the head, is
refused in the same way whatever the roles are. -/
theorem decision_follows_rules (schedule : Schedule) (hinterval : 2 ≤ schedule.interval)
    (roles : RoleOracle) (sender : Address) (key : String) (head : Head) :
    (∀ admission, decideKey schedule roles sender key head = .ok admission ↔
      Admissible schedule roles sender key head admission) ∧
    (∀ error, decideKey schedule roles sender key head = .error error ↔
      Inadmissible schedule roles sender key head error) ∧
    (schedule.upcomingEpoch head.height).toNat =
      head.height.toNat / schedule.interval.toNat + 1 ∧
    ∀ (kind : Kind) (epoch : UInt64), epoch ≠ schedule.upcomingEpoch head.height →
      ∃ rejection, ∀ roles,
        decideKey schedule roles sender (kind.key epoch) head = .error (.rejected rejection) :=
  ⟨fun _ => decideKey_eq_ok_iff_admissible hinterval,
    fun _ => decideKey_eq_error_iff_inadmissible hinterval,
    schedule.toNat_upcomingEpoch head.height hinterval,
    fun kind _ => exists_rejection_of_other_epoch schedule sender head kind⟩

namespace Decision.Sample

/-- Epochs of a hundred heights. -/
def schedule : Schedule := ⟨100⟩

/-- The height two below the boundary of the second epoch. -/
def head : Head := ⟨198, default⟩

/-- The only sender with a role. -/
def sender : Address := .replicate 20 0x22

/-- An oracle that names the holder of one role and fails when it is asked about the others. -/
def roles : RoleOracle := fun _ role =>
  if role = .broadcaster then .ok [sender] else .error "oracle offline"

/-- The boundary is two heights away. -/
theorem rollCallOpen : schedule.RollCallOpen head.height :=
  ⟨200, Schedule.firstBoundary_of_not_dvd (by decide) (by decide), by decide, .inr rfl⟩

end Decision.Sample

open Decision.Sample in
/-- The roll call is admitted, the public key needs a role about which the oracle fails, and a
public key for a later epoch that ends with the same digit is refused whatever the oracle says. -/
theorem decisions_before_boundary :
    decideKey schedule roles sender (Kind.rollCall.key 2) head = .ok ⟨.rollCall, 2⟩ ∧
      decideKey schedule roles sender (Kind.publicKey.key 2) head =
        .error (.rolesUnavailable "oracle offline") ∧
      ∃ rejection, ∀ roles,
        decideKey schedule roles sender (Kind.publicKey.key 12) head =
          .error (.rejected rejection) := by
  have hinterval : 2 ≤ schedule.interval := by decide
  have hepoch : schedule.upcomingEpoch head.height = 2 := by decide
  refine ⟨?_, ?_, ?_⟩
  · exact ((decision_follows_rules schedule hinterval roles sender (Kind.rollCall.key 2) head).1
      ⟨.rollCall, 2⟩).mpr
        ⟨rfl, rfl, ⟨.broadcaster, [sender], .rollCall, rfl, List.mem_singleton_self _⟩,
          fun _ => rollCallOpen, nofun⟩
  · exact ((decision_follows_rules schedule hinterval roles sender
      (Kind.publicKey.key 2) head).2.1 (.rolesUnavailable "oracle offline")).mpr
        ⟨.publicKey, .validator, by rw [hepoch], nofun, .publicKey, rfl⟩
  · exact (decision_follows_rules schedule hinterval roles sender
      (Kind.publicKey.key 12) head).2.2.2 .publicKey 12 (by rw [hepoch]; decide)

end ControlPool
