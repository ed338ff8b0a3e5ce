import Scanout.Trace.Recording

/-!
# Playback of a recording

`Playback` is a recording and a position in it. A read moves the position behind what it has read,
or leaves it where it is if too few bytes are left. `Playback.next` reads one record; when it finds
none it stays behind the last field that it could read, and a later call goes on from there.
-/

set_option autoImplicit false

namespace Scanout

structure Playback where
  bytes : List UInt8
  position : Nat := 0
  deriving DecidableEq, Inhabited

namespace Playback

def take (playback : Playback) (count : Nat) : Option (List UInt8) × Playback :=
  if playback.position + count ≤ playback.bytes.length then
    (some ((playback.bytes.drop playback.position).take count),
      { playback with position := playback.position + count })
  else (none, playback)

def takeNumber (playback : Playback) (width : Nat) : Option Nat × Playback :=
  let (bytes, after) := playback.take width
  (bytes.map ofLittleEndian, after)

/-- Reads fields one after the other, and stops at the first that is cut off. -/
def takeFields (playback : Playback) : List Nat → Option (List Nat) × Playback
  | [] => (some [], playback)
  | width :: widths =>
    match playback.takeNumber width with
    | (none, after) => (none, after)
    | (some value, after) =>
      match after.takeFields widths with
      | (none, last) => (none, last)
      | (some values, last) => (some (value :: values), last)

def next (playback : Playback) : Option TraceEvent × Playback :=
  match playback.takeNumber 1 with
  | (none, after) => (none, after)
  | (some tag, after) =>
    match RecordKind.ofTag? (UInt8.ofNat tag) with
    | none => (none, after)
    | some kind =>
      match after.takeFields kind.widths with
      | (none, last) => (none, last)
      | (some fields, last) => (TraceEvent.ofFields? kind fields, last)

def poll (playback : Playback) : Nat → List (Option TraceEvent)
  | 0 => []
  | count + 1 =>
    let (event, after) := playback.next
    event :: after.poll count

/-- The events up to the first call that finds none, in at most `fuel` calls, and the playback
before that call. -/
def drain (playback : Playback) : Nat → List TraceEvent × Playback
  | 0 => ([], playback)
  | fuel + 1 =>
    match playback.next with
    | (none, _) => ([], playback)
    | (some event, after) =>
      let (events, last) := after.drain fuel
      (event :: events, last)

/-- The events up to the first call that finds none. A record takes at least one byte, so there are
at most as many as bytes. -/
def events (bytes : List UInt8) : List TraceEvent := (drain { bytes := bytes } bytes.length).1

def consumed (bytes : List UInt8) : Nat := (drain { bytes := bytes } bytes.length).2.position

end Playback

end Scanout
