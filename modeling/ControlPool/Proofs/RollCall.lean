import ControlPool.Proofs.Decision

/-!
# When roll calls are admitted

In every epoch a holder of the role can send the roll call of the next epoch at the last two heights
before the boundary, and nowhere else. An epoch of two heights has only one of them, because its
first height is a boundary itself, and the boundary that comes next at a boundary is no other. No
roll call is admitted in the last epoch of all if the boundary behind it cannot be written in 64
bits. So an admitted roll call is always for the epoch that begins one or two blocks later.
-/

namespace ControlPool

namespace Schedule

/-- Whether a height lies in an epoch. -/
def InEpoch (schedule : Schedule) (epoch : Nat) (height : UInt64) : Prop :=
  epoch * schedule.interval.toNat ≤ height.toNat ∧
    height.toNat < (epoch + 1) * schedule.interval.toNat

/-- Whether a height is one of the last heights, as many as given, before the end of an epoch. -/
def AmongLast (schedule : Schedule) (epoch count : Nat) (height : UInt64) : Prop :=
  height.toNat < (epoch + 1) * schedule.interval.toNat ∧
    (epoch + 1) * schedule.interval.toNat ≤ height.toNat + count

instance (schedule : Schedule) (epoch : Nat) (height : UInt64) :
    Decidable (schedule.InEpoch epoch height) := inferInstanceAs (Decidable (_ ∧ _))

instance (schedule : Schedule) (epoch count : Nat) (height : UInt64) :
    Decidable (schedule.AmongLast epoch count height) := inferInstanceAs (Decidable (_ ∧ _))

variable {schedule : Schedule} {epoch : Nat} {height : UInt64}

/-- The epoch of a height is its quotient by the interval. -/
theorem InEpoch.div_eq (h : schedule.InEpoch epoch height) :
    height.toNat / schedule.interval.toNat = epoch :=
  Nat.div_eq_of_lt_le h.1 h.2

/-- At the heights of an epoch the next one is upcoming. -/
theorem InEpoch.toNat_upcomingEpoch (h : schedule.InEpoch epoch height)
    (hinterval : 2 ≤ schedule.interval) : (schedule.upcomingEpoch height).toNat = epoch + 1 := by
  rw [Schedule.toNat_upcomingEpoch schedule height hinterval, h.div_eq]

/-- The only boundary in an epoch is its first height. -/
theorem InEpoch.dvd_iff (h : schedule.InEpoch epoch height) :
    schedule.interval.toNat ∣ height.toNat ↔
      height.toNat = epoch * schedule.interval.toNat := by
  constructor
  · intro hdvd
    rw [← h.div_eq, Nat.div_mul_cancel hdvd]
  · intro hstart
    rw [hstart]
    exact Nat.dvd_mul_left _ _

/-- The window of roll calls is open if the first boundary that is not below a height can be written
in 64 bits and is one or two above it. -/
theorem FirstBoundary.rollCallOpen_iff {boundary : Nat}
    (h : schedule.FirstBoundary height boundary) :
    schedule.RollCallOpen height ↔ boundary < UInt64.size ∧
      (boundary = height.toNat + 1 ∨ boundary = height.toNat + 2) := by
  constructor
  · rintro ⟨other, hother, hopen⟩
    rwa [h.unique hother]
  · intro hopen
    exact ⟨boundary, h, hopen⟩

/-- In an epoch the window of roll calls is open at the last two heights before the boundary, but
not at the first height, and only if the boundary can be written in 64 bits. -/
theorem InEpoch.rollCallOpen_iff (h : schedule.InEpoch epoch height)
    (hinterval : 2 ≤ schedule.interval) :
    schedule.RollCallOpen height ↔
      (epoch + 1) * schedule.interval.toNat < UInt64.size ∧
        schedule.AmongLast epoch (min 2 (schedule.interval.toNat - 1)) height := by
  have hlong : 2 ≤ schedule.interval.toNat := UInt64.le_iff_toNat_le.mp hinterval
  have hend : (epoch + 1) * schedule.interval.toNat =
      epoch * schedule.interval.toNat + schedule.interval.toNat := Nat.succ_mul _ _
  have hlower := h.1
  have hupper := h.2
  unfold AmongLast
  by_cases hstart : height.toNat = epoch * schedule.interval.toNat
  · -- The first height is its own boundary and lies a whole interval before the next one.
    rw [(firstBoundary_of_dvd (h.dvd_iff.mpr hstart)).rollCallOpen_iff]
    omega
  · have hfirst := firstBoundary_of_not_dvd hinterval (mt h.dvd_iff.mp hstart)
    rw [h.div_eq] at hfirst
    rw [hfirst.rollCallOpen_iff]
    omega

end Schedule

section

variable {schedule : Schedule} {roles : RoleOracle} {sender : Address} {head : Head}

/-- The key of a kind for the upcoming epoch is admitted if what the kind asks for is in order. -/
theorem exists_admission_iff {kind : Kind} :
    (∃ admission, decideKey schedule roles sender
        (kind.key (schedule.upcomingEpoch head.height)) head = .ok admission) ↔
      judgeKind schedule roles sender head kind = .ok () := by
  simp only [decideKey_eq_ok_iff]
  constructor
  · rintro ⟨admission, -, hkey, hjudge⟩
    rwa [(Kind.key_injective hkey).1]
  · intro hjudge
    exact ⟨⟨kind, schedule.upcomingEpoch head.height⟩, rfl, rfl, hjudge⟩

/-- An admitted roll call is for the epoch that begins at the boundary one or two heights above. -/
theorem exists_boundary_of_rollCall (hinterval : 2 ≤ schedule.interval) {key : String}
    {epoch : UInt64} (h : decideKey schedule roles sender key head = .ok ⟨.rollCall, epoch⟩) :
    ∃ boundary : UInt64, schedule.isBoundary boundary = true ∧
      boundary.toNat = epoch.toNat * schedule.interval.toNat ∧
      (boundary.toNat = head.height.toNat + 1 ∨ boundary.toNat = head.height.toNat + 2) := by
  have hadmissible := (decideKey_eq_ok_iff_admissible hinterval).mp h
  obtain ⟨boundary, hfirst, hfits, hdistance⟩ := hadmissible.window rfl
  have hbetween : ¬schedule.interval.toNat ∣ head.height.toNat := by
    intro hdvd
    have hself := (Schedule.firstBoundary_of_dvd hdvd).unique hfirst
    omega
  have hboundary := hfirst.unique (Schedule.firstBoundary_of_not_dvd hinterval hbetween)
  rw [← hadmissible.epoch] at hboundary
  have hword : (UInt64.ofNat boundary).toNat = boundary := UInt64.toNat_ofNat_of_lt' hfits
  refine ⟨UInt64.ofNat boundary, ?_, hword.trans hboundary, ?_⟩
  · rw [Schedule.isBoundary_iff, hword]
    exact hfirst.1.2
  · rwa [hword]

end

/-- A sender who holds the role has the roll call of the next epoch admitted at exactly the last two
heights of an epoch before the boundary, or at the last one if the epoch has only two heights, and
at none if the boundary cannot be written in 64 bits. Whoever sends a roll call that is admitted,
its epoch begins at a boundary one or two heights above the head. -/
theorem rollCall_admitted_before_boundary (schedule : Schedule) (hinterval : 2 ≤ schedule.interval)
    (roles : RoleOracle) (sender : Address) (head : Head) :
    (∀ epoch : Nat, schedule.InEpoch epoch head.height → HoldsRole roles sender head .rollCall →
      ((∃ admission, decideKey schedule roles sender
          (Kind.rollCall.tag ++ Text.decimal (epoch + 1)) head = .ok admission) ↔
        (epoch + 1) * schedule.interval.toNat < UInt64.size ∧
          schedule.AmongLast epoch (min 2 (schedule.interval.toNat - 1)) head.height)) ∧
    ∀ (key : String) (epoch : UInt64),
      decideKey schedule roles sender key head = .ok ⟨.rollCall, epoch⟩ →
        ∃ boundary : UInt64, schedule.isBoundary boundary = true ∧
          boundary.toNat = epoch.toNat * schedule.interval.toNat ∧
          (boundary.toNat = head.height.toNat + 1 ∨
            boundary.toNat = head.height.toNat + 2) := by
  constructor
  · intro epoch hepoch hrole
    have hkey : Kind.rollCall.tag ++ Text.decimal (epoch + 1) =
        Kind.rollCall.key (schedule.upcomingEpoch head.height) := by
      rw [Kind.key, hepoch.toNat_upcomingEpoch hinterval]
    rw [hkey, exists_admission_iff, judgeKind_eq_ok_iff hinterval,
      ← hepoch.rollCallOpen_iff hinterval]
    constructor
    · intro hjudge
      exact hjudge.2.1 rfl
    · intro hopen
      exact ⟨hrole, fun _ => hopen, fun hother => by cases hother⟩
  · intro key epoch h
    exact exists_boundary_of_rollCall hinterval h

namespace Decision.Sample

/-- Epochs of two heights. -/
def shortest : Schedule := ⟨2⟩

/-- The greatest height. -/
def lastHead : Head := ⟨18446744073709551615, default⟩

/-- The sender holds the role at every height. -/
theorem holdsRole (head : Head) : HoldsRole roles sender head .rollCall :=
  ⟨.broadcaster, [sender], .rollCall, rfl, List.mem_singleton_self _⟩

end Decision.Sample

open Decision.Sample in
/-- Two heights before a boundary the roll call is admitted, and the boundary begins its epoch. It
is not admitted there if epochs have two heights, for then the height is a boundary, and not at the
greatest height, for then the boundary cannot be written in 64 bits. -/
theorem rollCall_admitted_at_198 :
    (∃ admission, decideKey schedule roles sender
      (Kind.rollCall.tag ++ Text.decimal 2) head = .ok admission) ∧
    (∃ boundary : UInt64, schedule.isBoundary boundary = true ∧
      boundary.toNat = (2 : UInt64).toNat * schedule.interval.toNat ∧
      (boundary.toNat = head.height.toNat + 1 ∨ boundary.toNat = head.height.toNat + 2)) ∧
    (¬∃ admission, decideKey shortest roles sender
      (Kind.rollCall.tag ++ Text.decimal 100) head = .ok admission) ∧
    ¬∃ admission, decideKey schedule roles sender
      (Kind.rollCall.tag ++ Text.decimal 184467440737095517) lastHead = .ok admission := by
  have hinterval : 2 ≤ schedule.interval := by decide
  refine ⟨?_, ?_, ?_, ?_⟩
  · exact ((rollCall_admitted_before_boundary schedule hinterval roles sender head).1 1
      (by decide) (holdsRole head)).mpr (by decide)
  · exact (rollCall_admitted_before_boundary schedule hinterval roles sender head).2
      (Kind.rollCall.key 2) 2 (by decide +kernel)
  · exact mt ((rollCall_admitted_before_boundary shortest (by decide) roles sender head).1 99
      (by decide) (holdsRole head)).mp (by decide)
  · exact mt ((rollCall_admitted_before_boundary schedule hinterval roles sender
      lastHead).1 184467440737095516 (by decide) (holdsRole lastHead)).mp (by decide)

end ControlPool
