import Scanout.Settings.Basic
import Scanout.Toml.Document

/-!
# Settings from a document

Every setting may be missing and unknown ones are ignored. A group of settings may be a table, or an
array that gives them by position. A date in place of a group has none of its settings.
-/

set_option autoImplicit false

namespace Scanout

open Toml (Value Entries)

inductive SettingsGroup where
  | named (entries : Entries)
  | positional (elements : List Value)

namespace SettingsGroup

def ofValue? : Value → Option SettingsGroup
  | .table _ entries => some (named entries)
  | .array elements => some (positional elements)
  | .tables elements => some (positional (elements.map (Value.table .header)))
  | .moment _ => some (named [])
  | _ => none

/-- The value of a setting, by its name or its position. -/
def find? (group : SettingsGroup) (name : String) (position : Nat) : Option Value :=
  match group with
  | named entries => entries.lookup name
  | positional elements => elements[position]?

end SettingsGroup

namespace Settings

/-- A setting that is missing has its default; one of another type is an error. -/
def readOr {α : Type} (default : α) (read? : Value → Option α) :
    Option Value → Except SettingsError α
  | none => .ok default
  | some value =>
    match read? value with
    | none => .error .malformed
    | some found => .ok found

def number? : Value → Option UInt64
  | .integer number => if 0 ≤ number then some (UInt64.ofNat number.toNat) else none
  | _ => none

def boolean? : Value → Option Bool
  | .boolean value => some value
  | _ => none

def text? : Value → Option String
  | .string text => some text
  | _ => none

def readVsync (group : SettingsGroup) : Except SettingsError VsyncSettings := do
  let defaults : VsyncSettings := {}
  let period ← readOr defaults.defaultPeriodNanos number? (group.find? "default_period_ns" 0)
  let enabled ← readOr defaults.startEnabled boolean? (group.find? "start_enabled" 1)
  return { defaultPeriodNanos := period, startEnabled := enabled }

def readShutdown (group : SettingsGroup) : Except SettingsError ShutdownSettings := do
  let defaults : ShutdownSettings := {}
  let timeout ← readOr defaults.retireTimeoutMillis number? (group.find? "retire_timeout_ms" 0)
  return { retireTimeoutMillis := timeout }

def readClientTarget (group : SettingsGroup) : Except SettingsError ClientTargetSettings := do
  let defaults : ClientTargetSettings := {}
  let required ←
    readOr defaults.requireForClientLayers boolean? (group.find? "require_for_client_layers" 0)
  return { requireForClientLayers := required }

/-- Reads a group of settings of which each may be missing. -/
def readGroup {α : Type} (read : SettingsGroup → Except SettingsError α) (value : Option Value) :
    Except SettingsError α :=
  match value with
  | none => read (.named [])
  | some value =>
    match SettingsGroup.ofValue? value with
    | none => .error .malformed
    | some group => read group

def ofEntries (entries : Entries) : Except SettingsError Settings := do
  let defaults : Settings := {}
  let displayName ← readOr defaults.displayName text? (entries.lookup "display_name")
  let vsync ← readGroup readVsync (entries.lookup "vsync")
  let shutdown ← readGroup readShutdown (entries.lookup "shutdown")
  let clientTarget ← readGroup readClientTarget (entries.lookup "client_target")
  return {
    displayName := displayName
    vsync := vsync
    shutdown := shutdown
    clientTarget := clientTarget }

def ofText (text : String) : Except SettingsError Settings := do
  match Toml.document? text with
  | none => .error .malformed
  | some entries => (← ofEntries entries).checked

/-- What is found at the place of a file. -/
inductive Place where
  | missing
  | directory
  | file (bytes : ByteArray)

/-- The settings of a file; a missing file leaves every setting at its default. -/
def load : Place → Except SettingsError Settings
  | .missing => .ok {}
  | .directory => .error (.unreadable "Is a directory (os error 21)")
  | .file bytes =>
    match String.fromUTF8? bytes with
    | none => .error (.unreadable "stream did not contain valid UTF-8")
    | some text => ofText text

end Settings

end Scanout
