import ControlPool.Admission
import Mathlib.Order.Bounds.Basic

/-!
# Boundaries as natural numbers

Heights are 64-bit numbers and so are boundaries, but none is found by wrapping around: the next
boundary of a height is the least multiple of the interval that is not below it, if that number can
be written in 64 bits, and otherwise there is none. So the window of roll calls is open exactly at
the heights one or two below such a multiple.
-/

namespace ControlPool.Schedule

/-- A height is a boundary if it is a multiple of the interval. -/
theorem isBoundary_iff {schedule : Schedule} {height : UInt64} :
    schedule.isBoundary height = true ↔ schedule.interval.toNat ∣ height.toNat := by
  rw [isBoundary, beq_iff_eq, ← UInt64.toNat_inj, UInt64.toNat_mod, UInt64.toNat_zero,
    Nat.dvd_iff_mod_eq_zero]

/-- A product is found if it can be written in 64 bits. -/
theorem product?_eq_some_iff {a b c : UInt64} :
    product? a b = some c ↔ c.toNat = a.toNat * b.toNat := by
  have hbound : c.toNat < UInt64.size := c.toNat_lt_size
  rw [product?]
  split
  · next hfits =>
    rw [Option.some.injEq, ← UInt64.toNat_inj, UInt64.toNat_mul, Nat.mod_eq_of_lt hfits, eq_comm]
  · next hfits =>
    constructor
    · exact nofun
    · intro h
      exact absurd (h ▸ hbound) hfits

/-- Whether a number is the first boundary that is not below a height. -/
def FirstBoundary (schedule : Schedule) (height : UInt64) (boundary : Nat) : Prop :=
  IsLeast {n | height.toNat ≤ n ∧ schedule.interval.toNat ∣ n} boundary

/-- At a boundary the first one is the height itself. -/
theorem firstBoundary_of_dvd {schedule : Schedule} {height : UInt64}
    (h : schedule.interval.toNat ∣ height.toNat) :
    schedule.FirstBoundary height height.toNat :=
  ⟨⟨Nat.le_refl _, h⟩, fun _ hn => hn.1⟩

/-- The first multiple of the interval above a height begins the epoch after it. -/
theorem isLeast_above {schedule : Schedule} (hinterval : 2 ≤ schedule.interval) (height : UInt64) :
    IsLeast {n | height.toNat < n ∧ schedule.interval.toNat ∣ n}
      ((height.toNat / schedule.interval.toNat + 1) * schedule.interval.toNat) := by
  have hpos : 0 < schedule.interval.toNat :=
    Nat.lt_of_lt_of_le (by decide) (UInt64.le_iff_toNat_le.mp hinterval)
  refine ⟨⟨Nat.lt_mul_of_div_lt (Nat.lt_succ_self _) hpos, Nat.dvd_mul_left _ _⟩, ?_⟩
  rintro _ ⟨habove, k, rfl⟩
  rw [Nat.mul_comm]
  exact Nat.mul_le_mul_left _ (Nat.div_lt_of_lt_mul habove)

/-- Between boundaries the first one is that of the epoch after the height. -/
theorem firstBoundary_of_not_dvd {schedule : Schedule} {height : UInt64}
    (hinterval : 2 ≤ schedule.interval) (h : ¬schedule.interval.toNat ∣ height.toNat) :
    schedule.FirstBoundary height
      ((height.toNat / schedule.interval.toNat + 1) * schedule.interval.toNat) := by
  have hnext := isLeast_above hinterval height
  refine ⟨⟨Nat.le_of_lt hnext.1.1, hnext.1.2⟩, ?_⟩
  rintro n ⟨hle, hdvd⟩
  have hne : height.toNat ≠ n := fun hsame => h (hsame ▸ hdvd)
  exact hnext.2 ⟨Nat.lt_of_le_of_ne hle hne, hdvd⟩

/-- The next boundary is the first one not below the height, if that can be written in 64 bits. -/
theorem nextBoundary?_eq_some_iff {schedule : Schedule} {height next : UInt64}
    (hinterval : 2 ≤ schedule.interval) :
    schedule.nextBoundary? height = some next ↔ schedule.FirstBoundary height next.toNat := by
  have hunique {boundary : Nat} (h : schedule.FirstBoundary height boundary) :
      next.toNat = boundary ↔ schedule.FirstBoundary height next.toNat :=
    ⟨fun hsame => hsame ▸ h, fun hnext => hnext.unique h⟩
  rw [nextBoundary?]
  by_cases hboundary : schedule.interval.toNat ∣ height.toNat
  · rw [if_pos (isBoundary_iff.mpr hboundary), Option.some.injEq, ← UInt64.toNat_inj, eq_comm]
    exact hunique (firstBoundary_of_dvd hboundary)
  · rw [if_neg (mt isBoundary_iff.mp hboundary), product?_eq_some_iff,
      toNat_upcomingEpoch schedule height hinterval]
    exact hunique (firstBoundary_of_not_dvd hinterval hboundary)

/-- Every height has a first boundary that is not below it. -/
theorem exists_firstBoundary {schedule : Schedule} (hinterval : 2 ≤ schedule.interval)
    (height : UInt64) : ∃ boundary, schedule.FirstBoundary height boundary := by
  by_cases hboundary : schedule.interval.toNat ∣ height.toNat
  · exact ⟨_, firstBoundary_of_dvd hboundary⟩
  · exact ⟨_, firstBoundary_of_not_dvd hinterval hboundary⟩

/-- The first boundary is the next boundary if it fits, and otherwise there is no next boundary. -/
theorem FirstBoundary.map_nextBoundary? {schedule : Schedule} {height : UInt64} {boundary : Nat}
    (h : schedule.FirstBoundary height boundary) (hinterval : 2 ≤ schedule.interval) :
    (schedule.nextBoundary? height).map UInt64.toNat =
      if boundary < UInt64.size then some boundary else none := by
  split
  · next hfits =>
    have hword : (UInt64.ofNat boundary).toNat = boundary := UInt64.toNat_ofNat_of_lt' hfits
    rw [← hword] at h
    rw [(nextBoundary?_eq_some_iff hinterval).mpr h, Option.map_some, hword]
  · next hfits =>
    cases hnext : schedule.nextBoundary? height with
    | none => rfl
    | some next =>
      have hfirst := (nextBoundary?_eq_some_iff hinterval).mp hnext
      exact absurd (h.unique hfirst ▸ next.toNat_lt_size) hfits

/-- Whether the first boundary not below a height can be written in 64 bits and is one or two above
it. -/
def RollCallOpen (schedule : Schedule) (height : UInt64) : Prop :=
  ∃ boundary, schedule.FirstBoundary height boundary ∧ boundary < UInt64.size ∧
    (boundary = height.toNat + 1 ∨ boundary = height.toNat + 2)

/-- The window of roll calls is where the next boundary is one or two heights above. -/
theorem inRollCallWindow_iff {schedule : Schedule} {height : UInt64}
    (hinterval : 2 ≤ schedule.interval) :
    schedule.inRollCallWindow height = true ↔ schedule.RollCallOpen height := by
  have hoffset {next : UInt64} (hle : height ≤ next) (offset : UInt64) :
      (next - height == offset) = true ↔ next.toNat = height.toNat + offset.toNat := by
    rw [beq_iff_eq, ← UInt64.toNat_inj, UInt64.toNat_sub_of_le _ _ hle]
    have hle := UInt64.le_iff_toNat_le.mp hle
    omega
  rw [inRollCallWindow]
  constructor
  · intro h
    split at h
    · next next hnext =>
      have hfirst := (nextBoundary?_eq_some_iff hinterval).mp hnext
      have hle : height ≤ next := UInt64.le_iff_toNat_le.mpr hfirst.1.1
      rw [Bool.or_eq_true, hoffset hle, hoffset hle] at h
      exact ⟨next.toNat, hfirst, next.toNat_lt_size, h⟩
    · cases h
  · rintro ⟨boundary, hfirst, hfits, hdistance⟩
    have hboundary : (UInt64.ofNat boundary).toNat = boundary := UInt64.toNat_ofNat_of_lt' hfits
    rw [← hboundary] at hfirst hdistance
    have hle : height ≤ UInt64.ofNat boundary := UInt64.le_iff_toNat_le.mpr hfirst.1.1
    rw [(nextBoundary?_eq_some_iff hinterval).mpr hfirst]
    simp only [Bool.or_eq_true, hoffset hle]
    exact hdistance

end ControlPool.Schedule
