import ControlPool.Config
import ControlPool.Proofs.Selection

/-!
# Epoch arithmetic without faults

The numbers of a schedule are words, and words have an answer to everything: a sum that is too great
wraps around, a difference below zero does so too, and a quotient by zero is zero. Here the
functions of a schedule are put together once more from operations that fail in these three cases.
For every interval that settings may have they fail at no height, not even behind the last boundary
that can be written in 64 bits, and they give what the functions on words give. For the two shorter
intervals the selection of heartbeats fails. The product in the next boundary is not among the
operations, because there it is part of the answer whether it fits.
-/

namespace ControlPool

/-- What can be wrong with an operation on words: a result that is too great for its word or below
zero, or a division by zero. -/
inductive Fault where
  | overflow
  | underflow
  | zeroDivisor
  deriving DecidableEq

/-- What a calculation gives, if none of its operations fails. -/
abbrev Checked (α : Type) := Except Fault α

namespace Checked

/-- The sum of two words. -/
def sum (a b : UInt64) : Checked UInt64 :=
  if a.toNat + b.toNat < UInt64.size then .ok (a + b) else .error .overflow

/-- The difference of two words. -/
def difference (a b : UInt64) : Checked UInt64 :=
  if b ≤ a then .ok (a - b) else .error .underflow

/-- The quotient of two words. -/
def quotient (a b : UInt64) : Checked UInt64 :=
  if b = 0 then .error .zeroDivisor else .ok (a / b)

/-- The remainder of two words of any one width. -/
def remainder {α : Type} [OfNat α 0] [DecidableEq α] [Mod α] (a b : α) : Checked α :=
  if b = 0 then .error .zeroDivisor else .ok (a % b)

/-- A number as a word of 256 bits. -/
def wide (n : Nat) : Checked (BitVec 256) :=
  if n < 2 ^ 256 then .ok (.ofNat 256 n) else .error .overflow

section

variable (schedule : Schedule) (height : UInt64)

/-- The epoch of a height. -/
def epochAt : Checked UInt64 := quotient height schedule.interval

/-- The epoch after that of a height. -/
def upcomingEpoch : Checked UInt64 := do
  let epoch ← epochAt schedule height
  sum epoch 1

/-- Whether a height is a multiple of the interval. -/
def isBoundary : Checked Bool := do
  let rest ← remainder height schedule.interval
  return rest == 0

/-- The first boundary at or after a height, if it fits in 64 bits. -/
def nextBoundary? : Checked (Option UInt64) := do
  if ← isBoundary schedule height then return some height
  else
    let epoch ← upcomingEpoch schedule height
    return Schedule.product? epoch schedule.interval

/-- The number of residue classes among which heartbeat senders are divided. -/
def selectionModulus : Checked UInt64 := difference schedule.interval 1

/-- Whether a sender and a block hash have the same residue. -/
def selectsHeartbeat (sender : Address) (hash : Hash) : Checked Bool := do
  let modulus ← selectionModulus schedule
  let sender ← wide sender.value
  let hash ← wide hash.value
  let modulus ← wide modulus.toNat
  return (← remainder sender modulus) == (← remainder hash modulus)

/-- Whether the next boundary is one or two heights above a height. -/
def inRollCallWindow : Checked Bool := do
  match ← nextBoundary? schedule height with
  | some next =>
    let offset ← difference next height
    return offset == 1 || offset == 2
  | none => return false

/-- Whether no operation fails at a height, and the checked functions give what the functions on
words give. -/
structure Agrees : Prop where
  epochAt : epochAt schedule height = .ok (schedule.epochAt height)
  upcomingEpoch : upcomingEpoch schedule height = .ok (schedule.upcomingEpoch height)
  isBoundary : isBoundary schedule height = .ok (schedule.isBoundary height)
  nextBoundary : nextBoundary? schedule height = .ok (schedule.nextBoundary? height)
  inRollCallWindow : inRollCallWindow schedule height = .ok (schedule.inRollCallWindow height)
  selectionModulus : selectionModulus schedule = .ok schedule.selectionModulus
  selectsHeartbeat (sender : Address) (hash : Hash) :
    selectsHeartbeat schedule sender hash = .ok (schedule.selectsHeartbeat sender hash)

end

section

variable {schedule : Schedule} {height : UInt64}

/-- The interval is no zero divisor. -/
theorem interval_ne_zero (hinterval : 2 ≤ schedule.interval) : schedule.interval ≠ 0 := by
  intro hzero
  rw [hzero] at hinterval
  exact absurd hinterval (by decide)

/-- The quotient by the interval is found. -/
theorem epochAt_eq (hinterval : 2 ≤ schedule.interval) :
    epochAt schedule height = .ok (schedule.epochAt height) := by
  rw [epochAt, quotient, if_neg (interval_ne_zero hinterval), Schedule.epochAt]

/-- One more than the greatest quotient fits. -/
theorem upcomingEpoch_eq (hinterval : 2 ≤ schedule.interval) :
    upcomingEpoch schedule height = .ok (schedule.upcomingEpoch height) := by
  have hupcoming := Schedule.toNat_upcomingEpoch schedule height hinterval
  have hfits := (schedule.upcomingEpoch height).toNat_lt_size
  rw [hupcoming, ← UInt64.toNat_div, ← Schedule.epochAt] at hfits
  rw [upcomingEpoch, epochAt_eq hinterval]
  exact if_pos hfits

/-- The remainder by the interval is found. -/
theorem isBoundary_eq (hinterval : 2 ≤ schedule.interval) :
    isBoundary schedule height = .ok (schedule.isBoundary height) := by
  rw [isBoundary, remainder, if_neg (interval_ne_zero hinterval), Schedule.isBoundary]
  rfl

/-- The next boundary is found, or it is found that the product does not fit. -/
theorem nextBoundary?_eq (hinterval : 2 ≤ schedule.interval) :
    nextBoundary? schedule height = .ok (schedule.nextBoundary? height) := by
  rw [nextBoundary?, isBoundary_eq hinterval, upcomingEpoch_eq hinterval, Schedule.nextBoundary?]
  cases schedule.isBoundary height <;> rfl

/-- The next boundary is not below the height, so the distance to it is found. -/
theorem inRollCallWindow_eq (hinterval : 2 ≤ schedule.interval) :
    inRollCallWindow schedule height = .ok (schedule.inRollCallWindow height) := by
  rw [inRollCallWindow, nextBoundary?_eq hinterval, Schedule.inRollCallWindow]
  cases hnext : schedule.nextBoundary? height with
  | none => rfl
  | some next =>
    have hfirst := (Schedule.nextBoundary?_eq_some_iff hinterval).mp hnext
    have hle : height ≤ next := UInt64.le_iff_toNat_le.mpr hfirst.1.1
    have hoffset : difference next height = .ok (next - height) := if_pos hle
    simp only [bind, Except.bind, hoffset]
    rfl

/-- One less than the interval is found. -/
theorem selectionModulus_eq (hinterval : 2 ≤ schedule.interval) :
    selectionModulus schedule = .ok schedule.selectionModulus :=
  if_pos (UInt64.le_trans (by decide) hinterval)

/-- A remainder of wide words is the remainder of their numbers. -/
theorem remainder_wide {a b : Nat} (ha : a < 2 ^ 256) (hb : b < 2 ^ 256) (hdivisor : b ≠ 0) :
    remainder (BitVec.ofNat 256 a) (.ofNat 256 b) = .ok (.ofNat 256 (a % b)) := by
  have hvalue : (BitVec.ofNat 256 b).toNat = b := Nat.mod_eq_of_lt hb
  have hnonzero : BitVec.ofNat 256 b ≠ 0 := by
    intro hzero
    rw [hzero] at hvalue
    exact hdivisor hvalue.symm
  rw [remainder, if_neg hnonzero, Except.ok.injEq, ← BitVec.toNat_inj, BitVec.toNat_umod, hvalue]
  simp only [BitVec.toNat_ofNat]
  rw [Nat.mod_eq_of_lt ha, Nat.mod_eq_of_lt (Nat.lt_of_le_of_lt (Nat.mod_le a b) ha)]

/-- Wide words are equal if their numbers are. -/
theorem beq_wide {a b : Nat} (ha : a < 2 ^ 256) (hb : b < 2 ^ 256) :
    (BitVec.ofNat 256 a == .ofNat 256 b) = (a == b) := by
  rw [Bool.eq_iff_iff, beq_iff_eq, beq_iff_eq, ← BitVec.toNat_inj, BitVec.toNat_ofNat,
    BitVec.toNat_ofNat, Nat.mod_eq_of_lt ha, Nat.mod_eq_of_lt hb]

/-- The value of at most 32 bytes is a number of 256 bits. -/
theorem value_lt_wide {n : Nat} (hshort : n ≤ 32) (bytes : FixedBytes n) :
    bytes.value < 2 ^ 256 :=
  Nat.lt_of_lt_of_le bytes.value_lt (Nat.pow_le_pow_right (by decide) hshort)

/-- The residues are found, because one less than the interval is not zero. -/
theorem selectsHeartbeat_eq (hinterval : 2 ≤ schedule.interval) (sender : Address) (hash : Hash) :
    selectsHeartbeat schedule sender hash = .ok (schedule.selectsHeartbeat sender hash) := by
  have hlong : 2 ≤ schedule.interval.toNat := UInt64.le_iff_toNat_le.mp hinterval
  have hdivisor : schedule.selectionModulus.toNat ≠ 0 := by
    rw [Schedule.toNat_selectionModulus hinterval]
    omega
  have hmodulus : schedule.selectionModulus.toNat < 2 ^ 256 :=
    Nat.lt_trans schedule.selectionModulus.toNat_lt (by decide)
  have hsender := value_lt_wide (by decide) sender
  have hhash := value_lt_wide (by decide) hash
  have hresidue {number : Nat} (hnumber : number < 2 ^ 256) :
      number % schedule.selectionModulus.toNat < 2 ^ 256 :=
    Nat.lt_of_le_of_lt (Nat.mod_le _ _) hnumber
  simp only [selectsHeartbeat, selectionModulus_eq hinterval, wide, if_pos hsender, if_pos hhash,
    if_pos hmodulus, bind, Except.bind, remainder_wide hsender hmodulus hdivisor,
    remainder_wide hhash hmodulus hdivisor]
  rw [beq_wide (hresidue hsender) (hresidue hhash)]
  rfl

/-- No operation fails exactly if the interval is at least two. For zero the number of residue
classes is below zero, and for one there is no residue class. -/
theorem agrees_iff : Agrees schedule height ↔ 2 ≤ schedule.interval := by
  constructor
  · intro hagrees
    have hselection := hagrees.selectsHeartbeat default default
    by_contra hshort
    have hshort : schedule.interval.toNat < 2 := UInt64.lt_iff_toNat_lt.mp (UInt64.not_le.mp hshort)
    obtain ⟨interval⟩ := schedule
    have hcases : interval = 0 ∨ interval = 1 := by
      rw [← UInt64.toNat_inj, ← UInt64.toNat_inj]
      change interval.toNat = 0 ∨ interval.toNat = 1
      change interval.toNat < 2 at hshort
      omega
    rcases hcases with rfl | rfl
    · have hfault : selectsHeartbeat ⟨0⟩ default default = .error .underflow := rfl
      rw [hfault] at hselection
      cases hselection
    · have hfault : selectsHeartbeat ⟨1⟩ default default = .error .zeroDivisor := rfl
      rw [hfault] at hselection
      cases hselection
  · intro hinterval
    exact ⟨epochAt_eq hinterval, upcomingEpoch_eq hinterval, isBoundary_eq hinterval,
      nextBoundary?_eq hinterval, inRollCallWindow_eq hinterval, selectionModulus_eq hinterval,
      selectsHeartbeat_eq hinterval⟩

end

end Checked

/-- For settings that pass the checks and for every height, the functions of the schedule are free
of faults. The upcoming epoch begins at the least multiple of the interval above the height, taken
as a natural number. The least multiple that is not below the height is the next boundary if it can
be written in 64 bits, and if it cannot there is no next boundary. -/
theorem epoch_arithmetic_exact (settings : Settings) (config : Config)
    (haccepted : settings.check = .ok config) (height : UInt64) :
    Checked.Agrees settings.schedule height ∧
    IsLeast {n | height.toNat < n ∧ settings.interval.toNat ∣ n}
      ((settings.schedule.upcomingEpoch height).toNat * settings.interval.toNat) ∧
    ∃ boundary, IsLeast {n | height.toNat ≤ n ∧ settings.interval.toNat ∣ n} boundary ∧
      (settings.schedule.nextBoundary? height).map UInt64.toNat =
        if boundary < UInt64.size then some boundary else none := by
  have hinterval : 2 ≤ settings.schedule.interval := by
    rw [← Settings.toSettings_of_check haccepted]
    exact config.two_le_interval
  refine ⟨Checked.agrees_iff.mpr hinterval, ?_, ?_⟩
  · rw [Schedule.toNat_upcomingEpoch settings.schedule height hinterval]
    exact Schedule.isLeast_above hinterval height
  · obtain ⟨boundary, hfirst⟩ := Schedule.exists_firstBoundary hinterval height
    exact ⟨boundary, hfirst, hfirst.map_nextBoundary? hinterval⟩

/-- Under the standard settings the greatest height but one lies behind the last boundary. -/
theorem epoch_arithmetic_exact_behind_last_boundary :
    Settings.standard.check = .ok .standard ∧
      Checked.Agrees Settings.standard.schedule 18446744073709551614 ∧
      IsLeast {n | 18446744073709551614 < n ∧ 100 ∣ n} 18446744073709551700 ∧
      Settings.standard.schedule.nextBoundary? 18446744073709551614 = none := by
  have haccepted : Settings.standard.check = .ok .standard := rfl
  obtain ⟨hagrees, habove, boundary, hfirst, hnext⟩ :=
    epoch_arithmetic_exact Settings.standard .standard haccepted 18446744073709551614
  refine ⟨haccepted, hagrees, habove, ?_⟩
  have hbehind : ¬boundary < UInt64.size := by
    have hle : 18446744073709551614 ≤ boundary := hfirst.1.1
    have hdvd : 100 ∣ boundary := hfirst.1.2
    rw [UInt64.size]
    omega
  rwa [if_neg hbehind, Option.map_eq_none_iff] at hnext

end ControlPool
