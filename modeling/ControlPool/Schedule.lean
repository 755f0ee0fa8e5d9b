/-!
# The epoch schedule

Blocks are counted in epochs of a fixed number of heights. Control messages are sent for the next
epoch, and their data is committed at the boundary heights, the multiples of the interval.
-/

namespace ControlPool

/-- An epoch length, as the number of heights in an epoch. -/
structure Schedule where
  interval : UInt64
  deriving DecidableEq, Inhabited

namespace Schedule

/-- The epoch of a height. -/
def epochAt (schedule : Schedule) (height : UInt64) : UInt64 := height / schedule.interval

/-- The epoch after that of a height. -/
def upcomingEpoch (schedule : Schedule) (height : UInt64) : UInt64 := schedule.epochAt height + 1

/-- The upcoming epoch is one above the quotient, without wrapping around. -/
theorem toNat_upcomingEpoch (schedule : Schedule) (height : UInt64)
    (hinterval : 2 ≤ schedule.interval) :
    (schedule.upcomingEpoch height).toNat = height.toNat / schedule.interval.toNat + 1 := by
  have hinterval : 2 ≤ schedule.interval.toNat := UInt64.le_iff_toNat_le.mp hinterval
  have hheight : height.toNat < 2 ^ 64 := height.toNat_lt
  have hquotient : height.toNat / schedule.interval.toNat ≤ height.toNat / 2 :=
    Nat.div_le_div_left hinterval (by decide)
  rw [upcomingEpoch, epochAt, UInt64.toNat_add, UInt64.toNat_div]
  apply Nat.mod_eq_of_lt
  change height.toNat / schedule.interval.toNat + 1 < 2 ^ 64
  omega

/-- Whether a height is a multiple of the interval. -/
def isBoundary (schedule : Schedule) (height : UInt64) : Bool := height % schedule.interval == 0

/-- The product of two numbers, if it fits in 64 bits. -/
def product? (a b : UInt64) : Option UInt64 :=
  if a.toNat * b.toNat < UInt64.size then some (a * b) else none

/-- The first boundary at or after a height, if it fits in 64 bits. -/
def nextBoundary? (schedule : Schedule) (height : UInt64) : Option UInt64 :=
  if schedule.isBoundary height then some height
  else product? (schedule.upcomingEpoch height) schedule.interval

/-- The number of residue classes among which heartbeat senders are divided. -/
def selectionModulus (schedule : Schedule) : UInt64 := schedule.interval - 1

/-- The number of residue classes is one below the interval, without wrapping around. -/
theorem toNat_selectionModulus {schedule : Schedule} (hinterval : 2 ≤ schedule.interval) :
    schedule.selectionModulus.toNat = schedule.interval.toNat - 1 :=
  UInt64.toNat_sub_of_le _ _ (UInt64.le_trans (by decide) hinterval)

end Schedule

end ControlPool
