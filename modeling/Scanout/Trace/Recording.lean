import Scanout.Trace.Event

/-!
# Recordings

A recording is a row of records without separators. A record is a tag and a fixed row of
little-endian fields that depends on the tag alone: `RecordKind.widths` is this layout. Every event
is a kind and the numbers of its fields, and `TraceEvent.ofFields?` reads an event off them again.

Main facts: a record has the size of its kind (`length_record`), and a field that fits its width is
read back as it was written (`ofLittleEndian_littleEndian`).
-/

set_option autoImplicit false

namespace Scanout

/-- The lowest `width` bytes of a number, least significant first. -/
def littleEndian : Nat → Nat → List UInt8
  | 0, _ => []
  | width + 1, value => UInt8.ofNat (value % 256) :: littleEndian width (value / 256)

/-- The number of which these are the bytes, least significant first. -/
def ofLittleEndian : List UInt8 → Nat
  | [] => 0
  | byte :: rest => byte.toNat + 256 * ofLittleEndian rest

@[simp] theorem length_littleEndian (width value : Nat) :
    (littleEndian width value).length = width := by
  induction width generalizing value with
  | zero => rfl
  | succ width inductionHypothesis => simp [littleEndian, inductionHypothesis]

theorem ofLittleEndian_littleEndian (width value : Nat) (fits : value < Nat.pow 256 width) :
    ofLittleEndian (littleEndian width value) = value := by
  induction width generalizing value with
  | zero =>
    change value < 1 at fits
    simp only [littleEndian, ofLittleEndian]
    omega
  | succ width inductionHypothesis =>
    change value < Nat.pow 256 width * 256 at fits
    simp only [littleEndian, ofLittleEndian, UInt8.toNat_ofNat']
    rw [inductionHypothesis (value / 256) (by omega)]
    omega

inductive RecordKind where
  | validate
  | accept
  | present
  | vsync
  | layer
  deriving DecidableEq, Inhabited

namespace RecordKind

def tag : RecordKind → UInt8
  | validate => 1
  | accept => 2
  | present => 3
  | vsync => 4
  | layer => 5

def ofTag? (tag : UInt8) : Option RecordKind :=
  if tag = 1 then some validate
  else if tag = 2 then some accept
  else if tag = 3 then some present
  else if tag = 4 then some vsync
  else if tag = 5 then some layer
  else none

@[simp] theorem ofTag?_tag (kind : RecordKind) : ofTag? kind.tag = some kind := by
  cases kind <;> rfl

def widths : RecordKind → List Nat
  | validate => [8, 8, 4, 4, 1]
  | accept => [8, 8]
  | present => [8, 8, 8, 1, 8]
  | vsync => [8, 8, 1]
  | layer => [8, 8, 8, 1, 4]

/-- The size of a record, its tag included. -/
def size (kind : RecordKind) : Nat := kind.widths.foldr (· + ·) 1

end RecordKind

namespace TraceEvent

def kind (event : TraceEvent) : RecordKind :=
  match event.what with
  | .validated _ _ _ => .validate
  | .accepted => .accept
  | .presented _ _ => .present
  | .tick _ => .vsync
  | .layer _ _ => .layer

def flag (value : Bool) : Nat := if value then 1 else 0

/-- The code of a change and its Z key. -/
def changeFields : LayerChange → Nat × Nat
  | .created => (0, 0)
  | .destroyed => (1, 0)
  | .movedTo z => (2, z.toNat)

def fields (event : TraceEvent) : List Nat :=
  let display := event.display.number.toNat
  let time := event.time.nanos.toNat
  match event.what with
  | .validated typeChanges requests status =>
    [display, time, typeChanges.toNat, requests.toNat, flag (status == .hasChanges)]
  | .accepted => [display, time]
  | .presented frame retire =>
    [display, time, frame.toNat, flag retire.isSome, (retire.map UInt64.toNat).getD 0]
  | .tick buffered => [display, time, flag buffered]
  | .layer layer change =>
    [display, layer.number.toNat, time, (changeFields change).1, (changeFields change).2]

def change? (code z : Nat) : Option LayerChange :=
  if code = 0 then some .created
  else if code = 1 then some .destroyed
  else if code = 2 then some (.movedTo (UInt32.ofNat z))
  else none

/-- The event of this kind with these numbers in its fields. A flag is set unless it is zero. -/
def ofFields? : RecordKind → List Nat → Option TraceEvent
  | .validate, [display, time, typeChanges, requests, status] =>
    some ⟨⟨UInt64.ofNat display⟩, ⟨UInt64.ofNat time⟩,
      .validated (UInt32.ofNat typeChanges) (UInt32.ofNat requests)
        (if status = 0 then .noChanges else .hasChanges)⟩
  | .accept, [display, time] =>
    some ⟨⟨UInt64.ofNat display⟩, ⟨UInt64.ofNat time⟩, .accepted⟩
  | .present, [display, time, frame, isPresent, retire] =>
    some ⟨⟨UInt64.ofNat display⟩, ⟨UInt64.ofNat time⟩,
      .presented (UInt64.ofNat frame)
        (if isPresent = 0 then none else some (UInt64.ofNat retire))⟩
  | .vsync, [display, time, buffered] =>
    some ⟨⟨UInt64.ofNat display⟩, ⟨UInt64.ofNat time⟩, .tick (buffered != 0)⟩
  | .layer, [display, layer, time, code, z] =>
    (change? code z).map fun change =>
      ⟨⟨UInt64.ofNat display⟩, ⟨UInt64.ofNat time⟩, .layer ⟨UInt64.ofNat layer⟩ change⟩
  | _, _ => none

def fieldBytes (widths fields : List Nat) : List UInt8 :=
  (List.zipWith littleEndian widths fields).flatten

def record (event : TraceEvent) : List UInt8 :=
  event.kind.tag :: fieldBytes event.kind.widths event.fields

def recording (events : List TraceEvent) : List UInt8 := events.flatMap record

theorem length_record (event : TraceEvent) : event.record.length = event.kind.size := by
  obtain ⟨display, time, what⟩ := event
  cases what <;>
    simp [record, kind, fields, fieldBytes, RecordKind.size, RecordKind.widths]

end TraceEvent

end Scanout
