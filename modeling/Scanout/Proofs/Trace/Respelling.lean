import Scanout.Proofs.Trace.Playback

/-!
# What a playback takes for a record

A playback accepts more than a recording holds: any number but zero for a flag that is set, and
anything in a field that the event does not have. `Latitude` says of every field how freely it may
be spelled, and `Respells` compares bytes that were read with bytes that are written.

A playback finds an event exactly in the respellings of its record (`next_eq_some_iff`). So the
bytes that it takes are a respelling of the recording of its events, and recording the events again
is a normal form: `rerecorded` says so of all byte strings.
-/

set_option autoImplicit false

namespace Scanout

/-- How freely something may be spelled. -/
inductive Latitude where
  | fixed
  /-- Whatever is greater than one reads as one. -/
  | flag
  /-- It is not read at all, and is written as zero. -/
  | unread
  deriving DecidableEq

/-- With this latitude, `read` may have stood where `written` is written. -/
def Latitude.Allows {α : Type} [LT α] [OfNat α 0] [OfNat α 1] : Latitude → α → α → Prop
  | fixed, read, written => read = written
  | flag, read, written => read = written ∨ 1 < read ∧ written = 1
  | unread, _, written => written = 0

/-- Two rows that differ at most where they may. -/
inductive Respells {α : Type} [LT α] [OfNat α 0] [OfNat α 1] :
    List Latitude → List α → List α → Prop where
  | nil : Respells [] [] []
  | cons {latitude : Latitude} {read written : α} {latitudes : List Latitude}
      {reads writtens : List α} (allows : latitude.Allows read written)
      (rest : Respells latitudes reads writtens) :
      Respells (latitude :: latitudes) (read :: reads) (written :: writtens)

namespace Respells

variable {α : Type} [LT α] [OfNat α 0] [OfNat α 1] {first second : List Latitude}
  {read written later writtenLater : List α}

theorem append (left : Respells first read written) (right : Respells second later writtenLater) :
    Respells (first ++ second) (read ++ later) (written ++ writtenLater) := by
  induction left with
  | nil => exact right
  | cons allows _ ih => exact .cons allows ih

theorem length_eq (respells : Respells first read written) :
    read.length = first.length ∧ written.length = first.length := by
  induction respells with
  | nil => exact ⟨rfl, rfl⟩
  | cons _ _ ih => exact ⟨congrArg (· + 1) ih.1, congrArg (· + 1) ih.2⟩

/-- A respelling of two rows is one of each. -/
theorem of_append (long : written.length = first.length)
    (respells : Respells (first ++ second) later (written ++ writtenLater)) :
    ∃ read rest, later = read ++ rest ∧ Respells first read written
      ∧ Respells second rest writtenLater := by
  induction first generalizing later written with
  | nil =>
      obtain rfl := List.length_eq_zero_iff.mp long
      exact ⟨[], later, rfl, .nil, respells⟩
  | cons latitude first ih =>
      cases written with
      | nil => cases long
      | cons byte written =>
          cases respells with
          | cons allows rest =>
              obtain ⟨read, others, rfl, left, right⟩ := ih (Nat.succ.inj long) rest
              exact ⟨_ :: read, others, rfl, .cons allows left, right⟩

end Respells

/-! ## Fields and their bytes -/

theorem littleEndian_ofLittleEndian (bytes : List UInt8) :
    littleEndian bytes.length (ofLittleEndian bytes) = bytes := by
  induction bytes with
  | nil => rfl
  | cons byte rest ih =>
      have small := byte.toNat_lt
      have low : (byte.toNat + 256 * ofLittleEndian rest) % 256 = byte.toNat := by omega
      have high : (byte.toNat + 256 * ofLittleEndian rest) / 256 = ofLittleEndian rest := by omega
      rw [List.length_cons, ofLittleEndian, littleEndian, low, high, ih, UInt8.ofNat_toNat]

theorem ofLittleEndian_lt (bytes : List UInt8) :
    ofLittleEndian bytes < Nat.pow 256 bytes.length := by
  induction bytes with
  | nil => exact Nat.one_pos
  | cons byte rest ih =>
      have small := byte.toNat_lt
      change byte.toNat + 256 * ofLittleEndian rest < Nat.pow 256 rest.length * 256
      omega

theorem ofLittleEndian_inj {bytes others : List UInt8} (long : bytes.length = others.length)
    (same : ofLittleEndian bytes = ofLittleEndian others) : bytes = others := by
  rw [← littleEndian_ofLittleEndian bytes, ← littleEndian_ofLittleEndian others, long, same]

theorem respells_fixed_iff {read written : List UInt8} (long : written.length = read.length) :
    Respells (List.replicate read.length .fixed) read written ↔ read = written := by
  induction read generalizing written with
  | nil =>
      obtain rfl := List.length_eq_zero_iff.mp long
      exact ⟨fun _ => rfl, fun _ => .nil⟩
  | cons byte rest ih =>
      cases written with
      | nil => cases long
      | cons other others =>
          have later := ih (Nat.succ.inj long)
          constructor
          · rintro (_ | ⟨allows, respells⟩)
            rw [later.mp respells]
            exact congrArg (· :: others) allows
          · intro same
            obtain ⟨head, tail⟩ := List.cons.inj same
            exact .cons head (later.mpr tail)

theorem respells_unread_iff {read written : List UInt8} (long : written.length = read.length) :
    Respells (List.replicate read.length .unread) read written ↔ ofLittleEndian written = 0 := by
  induction read generalizing written with
  | nil =>
      obtain rfl := List.length_eq_zero_iff.mp long
      exact ⟨fun _ => rfl, fun _ => .nil⟩
  | cons byte rest ih =>
      cases written with
      | nil => cases long
      | cons other others =>
          have later := ih (Nat.succ.inj long)
          have head : other = 0 ↔ other.toNat = 0 := UInt8.toNat_inj.symm
          constructor
          · rintro (_ | ⟨allows, respells⟩)
            have zero := head.mp allows
            have zeros := later.mp respells
            change other.toNat + 256 * ofLittleEndian others = 0
            omega
          · intro none
            change other.toNat + 256 * ofLittleEndian others = 0 at none
            exact .cons (head.mpr (by omega)) (later.mpr (by omega))

theorem respells_flag_iff {read written : UInt8} :
    Respells [.flag] [read] [written] ↔ Latitude.flag.Allows read.toNat written.toNat := by
  have same : read = written ↔ read.toNat = written.toNat := UInt8.toNat_inj.symm
  have greater : 1 < read ↔ 1 < read.toNat := UInt8.lt_iff_toNat_lt
  have one : written = 1 ↔ written.toNat = 1 := UInt8.toNat_inj.symm
  constructor
  · rintro (_ | ⟨allows, _⟩)
    exact (or_congr same (and_congr greater one)).mp allows
  · intro allows
    exact .cons ((or_congr same (and_congr greater one)).mpr allows) .nil

/-- A field is respelled in its bytes as it is as a number. Flags have one byte only. -/
theorem respells_field_iff {latitude : Latitude} {read written : List UInt8}
    (long : written.length = read.length) (narrow : latitude = .flag → read.length = 1) :
    Respells (List.replicate read.length latitude) read written
      ↔ latitude.Allows (ofLittleEndian read) (ofLittleEndian written) := by
  cases latitude with
  | fixed =>
      rw [respells_fixed_iff long]
      exact ⟨congrArg ofLittleEndian, ofLittleEndian_inj long.symm⟩
  | unread => exact respells_unread_iff long
  | flag =>
      obtain ⟨byte, rfl⟩ := List.length_eq_one_iff.mp (narrow rfl)
      obtain ⟨other, rfl⟩ := List.length_eq_one_iff.mp long
      exact respells_flag_iff

namespace TraceEvent

open Playback (Fit)

/-- The latitude of every byte in a row of fields. -/
def spread (widths : List Nat) (latitudes : List Latitude) : List Latitude :=
  (List.zipWith List.replicate widths latitudes).flatten

/-- Flags are one byte wide. -/
abbrev Narrow (widths : List Nat) (latitudes : List Latitude) : Prop :=
  List.Forall₂ (fun width latitude => latitude = Latitude.flag → width = 1) widths latitudes

theorem respells_littleEndian_iff {latitude : Latitude} {width value field : Nat}
    (narrow : latitude = .flag → width = 1) (fits : value < Nat.pow 256 width)
    (fieldFits : field < Nat.pow 256 width) :
    Respells (List.replicate width latitude) (littleEndian width value) (littleEndian width field)
      ↔ latitude.Allows value field := by
  have long : (littleEndian width field).length = (littleEndian width value).length := by
    rw [length_littleEndian, length_littleEndian]
  have wide : latitude = .flag → (littleEndian width value).length = 1 := by
    rw [length_littleEndian]
    exact narrow
  have respells := respells_field_iff long wide
  rwa [length_littleEndian, ofLittleEndian_littleEndian width value fits,
    ofLittleEndian_littleEndian width field fieldFits] at respells

theorem respells_fieldBytes {widths values fields : List Nat} {latitudes : List Latitude}
    (narrow : Narrow widths latitudes) (fit : Fit widths values) (fieldsFit : Fit widths fields)
    (respells : Respells latitudes values fields) :
    Respells (spread widths latitudes) (fieldBytes widths values) (fieldBytes widths fields) := by
  induction narrow generalizing values fields with
  | nil =>
      cases fit
      cases fieldsFit
      exact .nil
  | cons slim _ ih =>
      obtain _ | ⟨fits, fit⟩ := fit
      obtain _ | ⟨fieldFits, fieldsFit⟩ := fieldsFit
      obtain _ | ⟨allows, respells⟩ := respells
      exact ((respells_littleEndian_iff slim fits fieldFits).mpr allows).append
        (ih fit fieldsFit respells)

/-- Bytes that respell a row of fields are the bytes of another row. -/
theorem exists_fields_of_respells {widths fields : List Nat} {latitudes : List Latitude}
    {read : List UInt8} (narrow : Narrow widths latitudes) (fieldsFit : Fit widths fields)
    (respells : Respells (spread widths latitudes) read (fieldBytes widths fields)) :
    ∃ values, Fit widths values ∧ read = fieldBytes widths values
      ∧ Respells latitudes values fields := by
  induction narrow generalizing fields read with
  | nil =>
      cases fieldsFit
      obtain rfl := List.length_eq_zero_iff.mp respells.length_eq.1
      exact ⟨[], .nil, rfl, .nil⟩
  | @cons width latitude widths latitudes slim _ ih =>
      obtain _ | ⟨fieldFits, fieldsFit⟩ := fieldsFit
      rename_i field fields
      have long : (littleEndian width field).length = (List.replicate width latitude).length := by
        rw [length_littleEndian, List.length_replicate]
      obtain ⟨bytes, rest, rfl, first, later⟩ := Respells.of_append long respells
      obtain ⟨values, fit, rfl, respellsRest⟩ := ih fieldsFit later
      have wide : bytes.length = width := by
        rw [first.length_eq.1, List.length_replicate]
      subst wide
      have fits := ofLittleEndian_lt bytes
      have same := littleEndian_ofLittleEndian bytes
      refine ⟨ofLittleEndian bytes :: values, .cons fits fit, ?_, ?_⟩
      · change _ = littleEndian bytes.length (ofLittleEndian bytes) ++ fieldBytes widths values
        rw [same]
      · rw [← same, length_littleEndian] at first
        exact .cons ((respells_littleEndian_iff slim fits fieldFits).mp first) respellsRest

/-! ## Events and their fields -/

/-- How freely the fields of an event may be spelled. -/
def latitudes (event : TraceEvent) : List Latitude :=
  match event.what with
  | .validated _ _ _ => [.fixed, .fixed, .fixed, .fixed, .flag]
  | .accepted => [.fixed, .fixed]
  | .presented _ none => [.fixed, .fixed, .fixed, .flag, .unread]
  | .presented _ (some _) => [.fixed, .fixed, .fixed, .flag, .fixed]
  | .tick _ => [.fixed, .fixed, .flag]
  | .layer _ (.movedTo _) => [.fixed, .fixed, .fixed, .fixed, .fixed]
  | .layer _ _ => [.fixed, .fixed, .fixed, .fixed, .unread]

theorem narrow_latitudes (event : TraceEvent) : Narrow event.kind.widths event.latitudes := by
  obtain ⟨display, time, what⟩ := event
  cases what with
  | presented frame retire => cases retire <;> simp [Narrow, kind, latitudes, RecordKind.widths]
  | layer layer change => cases change <;> simp [Narrow, kind, latitudes, RecordKind.widths]
  | _ => simp [Narrow, kind, latitudes, RecordKind.widths]

theorem isSet_of_allows {value : Nat} {isSet : Bool}
    (allows : Latitude.flag.Allows value (flag isSet)) : (value != 0) = isSet := by
  rcases allows with rfl | ⟨great, one⟩
  · cases isSet <;> rfl
  · cases isSet with
    | false => cases one
    | true => exact bne_iff_ne.mpr (by omega)

theorem allows_flag (value : Nat) : Latitude.flag.Allows value (flag (value != 0)) := by
  cases value with
  | zero => exact .inl rfl
  | succ less =>
      cases less with
      | zero => exact .inl rfl
      | succ less => exact .inr ⟨by omega, rfl⟩

/-- Numbers are read as an event if they respell its fields. -/
theorem ofFields?_of_respells {event : TraceEvent} {values : List Nat}
    (respells : Respells event.latitudes values event.fields) :
    ofFields? event.kind values = some event := by
  obtain ⟨display, time, what⟩ := event
  cases what with
  | validated typeChanges requests status =>
      obtain _ | ⟨rfl, _ | ⟨rfl, _ | ⟨rfl, _ | ⟨rfl, _ | ⟨allows, _ | _⟩⟩⟩⟩⟩ := respells
      have isSet := isSet_of_allows allows
      cases status with
      | noChanges =>
          change _ = false at isSet
          simp_all [ofFields?, kind]
      | hasChanges => simp_all [ofFields?, kind]
  | accepted =>
      obtain _ | ⟨rfl, _ | ⟨rfl, _ | _⟩⟩ := respells
      simp [ofFields?, kind]
  | presented frame retire =>
      cases retire with
      | none =>
          obtain _ | ⟨rfl, _ | ⟨rfl, _ | ⟨rfl, _ | ⟨allows, _ | ⟨_, _ | _⟩⟩⟩⟩⟩ := respells
          have isSet := isSet_of_allows allows
          simp_all [ofFields?, kind]
      | some retire =>
          obtain _ | ⟨rfl, _ | ⟨rfl, _ | ⟨rfl, _ | ⟨allows, _ | ⟨rfl, _ | _⟩⟩⟩⟩⟩ := respells
          have isSet := isSet_of_allows allows
          simp_all [ofFields?, kind]
  | tick buffered =>
      obtain _ | ⟨rfl, _ | ⟨rfl, _ | ⟨allows, _ | _⟩⟩⟩ := respells
      have isSet := isSet_of_allows allows
      simp_all [ofFields?, kind]
  | layer layer change =>
      cases change with
      | movedTo z =>
          obtain _ | ⟨rfl, _ | ⟨rfl, _ | ⟨rfl, _ | ⟨rfl, _ | ⟨rfl, _ | _⟩⟩⟩⟩⟩ := respells
          simp [ofFields?, kind, change?, changeFields]
      | _ =>
          obtain _ | ⟨rfl, _ | ⟨rfl, _ | ⟨rfl, _ | ⟨rfl, _ | ⟨_, _ | _⟩⟩⟩⟩⟩ := respells
          simp [ofFields?, kind, change?, changeFields]

theorem respells_of_ofFields? {kind : RecordKind} {values : List Nat} {event : TraceEvent}
    (fit : Fit kind.widths values) (read : ofFields? kind values = some event) :
    kind = event.kind ∧ Respells event.latitudes values event.fields := by
  have wide : ∀ {value : Nat}, value < Nat.pow 256 8 → value = (UInt64.ofNat value).toNat :=
    fun fits => (UInt64.toNat_ofNat_of_lt' fits).symm
  have half : ∀ {value : Nat}, value < Nat.pow 256 4 → value = (UInt32.ofNat value).toNat :=
    fun fits => (UInt32.toNat_ofNat_of_lt' fits).symm
  cases kind with
  | validate =>
      obtain _ | ⟨display, _ | ⟨time, _ | ⟨typeChanges, _ | ⟨requests, _ | ⟨-, _ | _⟩⟩⟩⟩⟩ := fit
      rename_i status
      obtain rfl := Option.some.inj read
      have set : flag ((if status = 0 then ValidateStatus.noChanges else .hasChanges)
          == .hasChanges) = flag (status != 0) := by
        by_cases zero : status = 0 <;> simp [zero, flag]
      exact ⟨rfl, .cons (wide display) (.cons (wide time) (.cons (half typeChanges)
        (.cons (half requests) (.cons (set ▸ allows_flag status) .nil))))⟩
  | accept =>
      obtain _ | ⟨display, _ | ⟨time, _ | _⟩⟩ := fit
      obtain rfl := Option.some.inj read
      exact ⟨rfl, .cons (wide display) (.cons (wide time) .nil)⟩
  | present =>
      obtain _ | ⟨display, _ | ⟨time, _ | ⟨frame, _ | ⟨-, _ | ⟨retire, _ | _⟩⟩⟩⟩⟩ := fit
      rename_i isPresent _
      obtain rfl := Option.some.inj read
      by_cases zero : isPresent = 0
      · subst zero
        exact ⟨rfl, .cons (wide display) (.cons (wide time) (.cons (wide frame)
          (.cons (.inl rfl) (.cons rfl .nil))))⟩
      · rw [if_neg zero]
        have allows := allows_flag isPresent
        rw [bne_iff_ne.mpr zero] at allows
        exact ⟨rfl, .cons (wide display) (.cons (wide time) (.cons (wide frame)
          (.cons allows (.cons (wide retire) .nil))))⟩
  | vsync =>
      obtain _ | ⟨display, _ | ⟨time, _ | ⟨_, _ | _⟩⟩⟩ := fit
      obtain rfl := Option.some.inj read
      exact ⟨rfl, .cons (wide display) (.cons (wide time) (.cons (allows_flag _) .nil))⟩
  | layer =>
      obtain _ | ⟨display, _ | ⟨layer, _ | ⟨time, _ | ⟨_, _ | ⟨z, _ | _⟩⟩⟩⟩⟩ := fit
      obtain ⟨change, code, rfl⟩ := Option.map_eq_some_iff.mp read
      refine ⟨rfl, ?_⟩
      unfold change? at code
      split at code
      · rename_i created
        obtain rfl := Option.some.inj code
        exact .cons (wide display) (.cons (wide layer) (.cons (wide time)
          (.cons created (.cons rfl .nil))))
      · split at code
        · rename_i destroyed
          obtain rfl := Option.some.inj code
          exact .cons (wide display) (.cons (wide layer) (.cons (wide time)
            (.cons destroyed (.cons rfl .nil))))
        · split at code
          · rename_i moved
            obtain rfl := Option.some.inj code
            exact .cons (wide display) (.cons (wide layer) (.cons (wide time)
              (.cons moved (.cons (half z) .nil))))
          · cases code

/-! ## Records -/

/-- How freely the bytes of a record may be spelled. Its tag is fixed. -/
def recordLatitudes (event : TraceEvent) : List Latitude :=
  .fixed :: spread event.kind.widths event.latitudes

def recordingLatitudes (events : List TraceEvent) : List Latitude := events.flatMap recordLatitudes

/-- Bytes that differ from the record of an event at most where they may. -/
abbrev SpelledBy (event : TraceEvent) (bytes : List UInt8) : Prop :=
  Respells event.recordLatitudes bytes event.record

/-- A respelling of a record is its tag and a respelling of its fields. -/
theorem spelledBy_iff {event : TraceEvent} {bytes : List UInt8} :
    event.SpelledBy bytes ↔ ∃ values, Fit event.kind.widths values
      ∧ bytes = event.kind.tag :: fieldBytes event.kind.widths values
      ∧ Respells event.latitudes values event.fields := by
  constructor
  · rintro (_ | ⟨rfl, respells⟩)
    obtain ⟨values, fit, rfl, same⟩ :=
      exists_fields_of_respells event.narrow_latitudes event.fields_fit respells
    exact ⟨values, fit, rfl, same⟩
  · rintro ⟨values, fit, rfl, same⟩
    exact .cons rfl (respells_fieldBytes event.narrow_latitudes fit event.fields_fit same)

/-- An event whose fields were not read at all is recorded with zeros there. -/
theorem respells_fields (event : TraceEvent) :
    Respells event.latitudes event.fields event.fields := by
  obtain ⟨kind, same⟩ := respells_of_ofFields? event.fields_fit event.ofFields?_fields
  exact same

theorem spelledBy_record (event : TraceEvent) : event.SpelledBy event.record :=
  spelledBy_iff.mpr ⟨event.fields, event.fields_fit, rfl, event.respells_fields⟩

theorem length_of_spelledBy {event : TraceEvent} {bytes : List UInt8}
    (spelled : event.SpelledBy bytes) : bytes.length = event.record.length := by
  rw [spelled.length_eq.1, spelled.length_eq.2]

end TraceEvent

namespace Playback

open TraceEvent (record recording recordingLatitudes fieldBytes)

/-- Fields that can be read are the bytes ahead. -/
theorem takeFields_eq_some (before ahead : List UInt8) {widths values : List Nat}
    {after : Playback} (taken : (between before ahead).takeFields widths = (some values, after)) :
    ∃ later, Fit widths values ∧ ahead = fieldBytes widths values ++ later
      ∧ after = between (before ++ fieldBytes widths values) later := by
  induction widths generalizing before ahead values after with
  | nil =>
      obtain ⟨read, rfl⟩ := Prod.mk.inj taken
      obtain rfl := Option.some.inj read
      exact ⟨ahead, .nil, rfl, by rw [fieldBytes, List.zipWith_nil_left]; simp⟩
  | cons width widths ih =>
      by_cases enough : width ≤ ahead.length
      · have first := take_between before (ahead.take width) (ahead.drop width)
        rw [List.take_append_drop, List.length_take_of_le enough] at first
        simp only [takeFields, takeNumber, first, Option.map_some] at taken
        split at taken
        · cases taken
        · rename_i others last found
          obtain ⟨read, rfl⟩ := Prod.mk.inj taken
          obtain rfl := Option.some.inj read
          obtain ⟨later, fit, rest, moved⟩ := ih _ _ found
          have wide := List.length_take_of_le enough
          have fits := ofLittleEndian_lt (ahead.take width)
          have same := littleEndian_ofLittleEndian (ahead.take width)
          rw [wide] at fits same
          have split : fieldBytes (width :: widths) (ofLittleEndian (ahead.take width) :: others)
              = ahead.take width ++ fieldBytes widths others :=
            congrArg (· ++ fieldBytes widths others) same
          refine ⟨later, .cons fits fit, ?_, ?_⟩
          · rw [split, List.append_assoc, ← rest, List.take_append_drop]
          · rw [split, ← List.append_assoc]
            exact moved
      · simp only [takeFields, takeNumber_short before (Nat.lt_of_not_le enough)] at taken
        cases taken

theorem tag_of_ofTag? {tag : UInt8} {kind : RecordKind} (read : RecordKind.ofTag? tag = some kind) :
    tag = kind.tag := by
  unfold RecordKind.ofTag? at read
  split_ifs at read
  all_goals
    obtain rfl := Option.some.inj read
    assumption

/-- A playback finds an event exactly in the respellings of its record. -/
theorem next_eq_some_iff {before ahead : List UInt8} {event : TraceEvent} {after : Playback} :
    (between before ahead).next = (some event, after)
      ↔ ∃ read later, ahead = read ++ later ∧ event.SpelledBy read
        ∧ after = between (before ++ read) later := by
  constructor
  · intro found
    cases ahead with
    | nil =>
        rw [next_empty] at found
        cases found
    | cons tag ahead =>
        simp only [next, takeNumber_tag, UInt8.ofNat_toNat] at found
        split at found
        · cases found
        · rename_i kind known
          obtain rfl := tag_of_ofTag? known
          split at found
          · cases found
          · rename_i values last taken
            obtain ⟨read, rfl⟩ := Prod.mk.inj found
            obtain ⟨later, fit, rfl, rfl⟩ := takeFields_eq_some _ _ taken
            obtain ⟨rfl, respells⟩ := TraceEvent.respells_of_ofFields? fit read
            refine ⟨event.kind.tag :: fieldBytes event.kind.widths values, later, rfl, ?_, ?_⟩
            · exact TraceEvent.spelledBy_iff.mpr ⟨values, fit, rfl, respells⟩
            · rw [List.append_assoc, List.singleton_append]
  · rintro ⟨read, later, rfl, spelled, rfl⟩
    obtain ⟨values, fit, rfl, respells⟩ := TraceEvent.spelledBy_iff.mp spelled
    have taken := takeFields_between (before ++ [event.kind.tag]) later fit
    rw [List.append_assoc, List.singleton_append] at taken
    exact (next_of_fields taken).trans (by rw [TraceEvent.ofFields?_of_respells respells])

/-! ## Recordings -/

/-- The playback after so many calls. -/
def afterCalls (playback : Playback) (count : Nat) : Playback :=
  (fun playback => playback.next.2)^[count] playback

/-- The bytes that are taken up to the first call that finds nothing respell the recording of the
events. -/
theorem drain_respells (before ahead : List UInt8) (fuel : Nat) :
    ∃ read later, ahead = read ++ later
      ∧ Respells (recordingLatitudes ((between before ahead).drain fuel).1) read
        (recording ((between before ahead).drain fuel).1)
      ∧ ((between before ahead).drain fuel).2 = between (before ++ read) later
      ∧ (between before ahead).afterCalls ((between before ahead).drain fuel).1.length
        = ((between before ahead).drain fuel).2 := by
  induction fuel generalizing before ahead with
  | zero => exact ⟨[], ahead, rfl, .nil, by rw [List.append_nil]; rfl, rfl⟩
  | succ fuel ih =>
      rw [drain]
      split
      · exact ⟨[], ahead, rfl, .nil, by rw [List.append_nil], rfl⟩
      · rename_i event after found
        obtain ⟨read, rest, rfl, spelled, rfl⟩ := next_eq_some_iff.mp found
        obtain ⟨more, later, rfl, respells, last, calls⟩ := ih (before ++ read) rest
        refine ⟨read ++ more, later, (List.append_assoc read more later).symm,
          spelled.append respells, ?_, ?_⟩
        · rw [← List.append_assoc]
          exact last
        · rw [List.length_cons, afterCalls, Function.iterate_succ_apply, found]
          exact calls

/-- A respelled recording plays back as what was recorded. -/
theorem drain_of_respells (before : List UInt8) {events : List TraceEvent} {read : List UInt8}
    (respells : Respells (recordingLatitudes events) read (recording events)) {fuel : Nat}
    (enough : read.length ≤ fuel) : ((between before read).drain fuel).1 = events := by
  induction events generalizing before read fuel with
  | nil =>
      obtain rfl := List.length_eq_zero_iff.mp respells.length_eq.1
      exact drain_of_none (next_nil before) fuel
  | cons event rest ih =>
      obtain ⟨first, later, rfl, spelled, respellsRest⟩ :=
        Respells.of_append event.spelledBy_record.length_eq.2 respells
      have size : first.length = event.record.length := TraceEvent.length_of_spelledBy spelled
      have positive : 0 < event.record.length := Nat.succ_pos _
      rw [List.length_append] at enough
      obtain ⟨fuel, rfl⟩ : ∃ less, fuel = less + 1 := ⟨fuel - 1, by omega⟩
      have found := next_eq_some_iff.mpr
        ⟨first, later, rfl, spelled, Eq.refl (between (before ++ first) later)⟩
      rw [drain_of_some found, ih (before ++ first) respellsRest (by omega)]

/-- **Whatever the bytes, recording the events that a playback finds in them again is a normal
form.** It has as many bytes as were taken for them, it plays back as the same events, and what was
taken respells it. Every other respelling plays back as the same events, too. -/
theorem rerecorded (bytes : List UInt8) :
    let events := Playback.events bytes
    poll { bytes := bytes } (events.length + 1) = events.map some ++ [none]
      ∧ afterCalls { bytes := bytes } events.length = ⟨bytes, consumed bytes⟩
      ∧ consumed bytes ≤ bytes.length
      ∧ (recording events).length = consumed bytes
      ∧ Playback.events (recording events) = events
      ∧ Respells (recordingLatitudes events) (bytes.take (consumed bytes)) (recording events)
      ∧ ∀ other, Respells (recordingLatitudes events) other (recording events) →
          Playback.events other = events := by
  intro events
  obtain ⟨read, later, rfl, respells, last, calls⟩ := drain_respells [] bytes bytes.length
  have count : consumed (read ++ later) = read.length := congrArg position last
  have taken : (read ++ later).take read.length = read := List.take_left
  have long := respells.length_eq.2.trans respells.length_eq.1.symm
  rw [count, taken]
  refine ⟨poll_events _, calls.trans last, ?_, long, events_recording _, respells, ?_⟩
  · rw [List.length_append]
    exact Nat.le_add_right _ _
  · intro other respelled
    exact drain_of_respells [] respelled (Nat.le_refl _)

-- a tick with a flag of seven, and one byte after it
example : recording (events ((4 :: List.replicate 16 0) ++ [7, 1]))
    = (4 :: List.replicate 16 0) ++ [1] := by
  decide

end Playback

end Scanout
