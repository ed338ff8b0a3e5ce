import Scanout.Clock.Duration
import Scanout.Text.Quoted

/-!
# Settings of the adapter

Every setting has a default. `Settings.checked` refuses the one value that no device can run with.
-/

set_option autoImplicit false

namespace Scanout

structure VsyncSettings where
  /-- The period of a display that reports none, in nanoseconds. -/
  defaultPeriodNanos : UInt64 := 16666666
  /-- Ticks are delivered from the start. -/
  startEnabled : Bool := false
  deriving DecidableEq, Inhabited

structure ShutdownSettings where
  /-- The longest wait for the last frame, in milliseconds. -/
  retireTimeoutMillis : UInt64 := 1000
  deriving DecidableEq, Inhabited

structure ClientTargetSettings where
  /-- A frame with client-composed layers is presented only with a client target. -/
  requireForClientLayers : Bool := true
  deriving DecidableEq, Inhabited

structure Settings where
  displayName : String := "hwcompat-0"
  vsync : VsyncSettings := {}
  shutdown : ShutdownSettings := {}
  clientTarget : ClientTargetSettings := {}
  deriving DecidableEq, Inhabited

inductive SettingsError where
  | unreadable (reason : String)
  /-- The text is no document, or a value has another type. -/
  | malformed
  | invalid (reason : String)
  deriving DecidableEq, Inhabited

namespace Settings

/-- The settings, if a device can run with them. -/
def checked (settings : Settings) : Except SettingsError Settings :=
  if settings.vsync.defaultPeriodNanos = 0 then
    .error (.invalid "vsync.default_period_ns must be non-zero")
  else .ok settings

def defaultPeriod (settings : Settings) : Duration := ⟨settings.vsync.defaultPeriodNanos.toNat⟩

def retireTimeout (settings : Settings) : Duration :=
  .ofMillis settings.shutdown.retireTimeoutMillis.toNat

def text (settings : Settings) : String :=
  "AdapterConfig \x7b display_name: " ++ Text.quoted settings.displayName
    ++ ", vsync: VsyncConfig \x7b default_period_ns: "
    ++ toString settings.vsync.defaultPeriodNanos.toNat ++ ", start_enabled: "
    ++ toString settings.vsync.startEnabled
    ++ " \x7d, shutdown: ShutdownConfig \x7b retire_timeout_ms: "
    ++ toString settings.shutdown.retireTimeoutMillis.toNat
    ++ " \x7d, client_target: ClientTargetConfig \x7b require_for_client_layers: "
    ++ toString settings.clientTarget.requireForClientLayers ++ " \x7d \x7d"

end Settings

def SettingsError.message : SettingsError → String
  | .unreadable reason => "failed to read config: " ++ reason
  | .malformed => "failed to parse config"
  | .invalid reason => "invalid config: " ++ reason

end Scanout
