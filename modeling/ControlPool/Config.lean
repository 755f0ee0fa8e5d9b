import ControlPool.Error
import ControlPool.Schedule
import ControlPool.Sender

/-!
# Configuration

Settings are what a caller asks for. A configuration is settings that passed the checks: an epoch
has at least two heights, because heartbeat senders are divided by one less than that, and some
transaction is small enough.
-/

namespace ControlPool

/-- Settings as they are asked for: the number of heights in an epoch, the largest encoded size of a
transaction, and how senders are found. -/
structure Settings where
  interval : UInt64
  sizeLimit : UInt64
  senderPolicy : SenderPolicy
  deriving DecidableEq

namespace Settings

/-- The settings of a node that asks for nothing else. -/
def standard : Settings := ⟨100, 32768, .embeddedFirst⟩

/-- The settings with a short epoch. -/
def shortEpochs : Settings := { standard with interval := 10 }

instance : Inhabited Settings := ⟨standard⟩

/-- The epoch schedule of settings. -/
def schedule (settings : Settings) : Schedule := ⟨settings.interval⟩

/-- The first thing wrong with settings, if any. -/
def fault? (settings : Settings) : Option ConfigFault :=
  if settings.interval < 2 then some (.intervalTooShort settings.interval)
  else if settings.sizeLimit = 0 then some .sizeLimitZero
  else none

end Settings

/-- Settings that passed the checks. -/
structure Config extends Settings where
  faultless : toSettings.fault? = none
  deriving DecidableEq

namespace Settings

/-- Checks settings. -/
def check (settings : Settings) : Except PoolError Config :=
  match h : settings.fault? with
  | some fault => .error (.badConfig fault)
  | none => .ok ⟨settings, h⟩

/-- Checking leaves the settings as they are. -/
theorem toSettings_of_check {settings : Settings} {config : Config}
    (h : settings.check = .ok config) : config.toSettings = settings := by
  unfold check at h
  split at h
  · cases h
  · cases h
    rfl

end Settings

namespace Config

/-- The standard configuration. -/
def standard : Config := ⟨.standard, by decide⟩

instance : Inhabited Config := ⟨standard⟩

/-- An epoch has at least two heights. -/
theorem two_le_interval (config : Config) : 2 ≤ config.interval := by
  have faultless := config.faultless
  rw [Settings.fault?] at faultless
  split at faultless
  · cases faultless
  · next notShort => exact UInt64.not_lt.1 notShort

end Config

end ControlPool
