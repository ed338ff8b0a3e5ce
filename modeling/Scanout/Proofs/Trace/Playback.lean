import Mathlib
import Scanout.Trace.Playback

/-!
# Playing a recording back

A playback that has read some bytes and has others ahead of it is `Playback.between`. A read takes a
row of bytes from those ahead (`take_between`), or nothing if they are too few (`take_short`), and
all that follows is about the bytes ahead: a field, a row of fields, a record, a recording.

An event reads back from its record as it was (`next_record`), and a record that is cut off reads as
none (`next_cut`). So a recording that is cut anywhere plays back as the longest row of events whose
records it still holds in full (`plays_recording`).
-/

set_option autoImplicit false

namespace Scanout

theorem RecordKind.size_eq (kind : RecordKind) : kind.size = kind.widths.sum + 1 := by
  cases kind <;> rfl

namespace Playback

/-- The playback that has read `before` and has `ahead` still to read. -/
def between (before ahead : List UInt8) : Playback := ⟨before ++ ahead, before.length⟩

/-! ## Reading bytes -/

theorem take_between (before read later : List UInt8) :
    (between before (read ++ later)).take read.length
      = (some read, between (before ++ read) later) := by
  have within : before.length + read.length ≤ (before ++ (read ++ later)).length := by
    simp only [List.length_append]
    omega
  refine (if_pos within).trans ?_
  simp [between]

theorem take_short (before : List UInt8) {ahead : List UInt8} {count : Nat}
    (short : ahead.length < count) :
    (between before ahead).take count = (none, between before ahead) := by
  have beyond : ¬ before.length + count ≤ (before ++ ahead).length := by
    simp only [List.length_append]
    omega
  exact if_neg beyond

theorem takeNumber_between (before later : List UInt8) {width value : Nat}
    (fits : value < Nat.pow 256 width) :
    (between before (littleEndian width value ++ later)).takeNumber width
      = (some value, between (before ++ littleEndian width value) later) := by
  have taken := take_between before (littleEndian width value) later
  rw [length_littleEndian] at taken
  simp only [takeNumber, taken, Option.map_some, ofLittleEndian_littleEndian width value fits]

theorem takeNumber_short (before : List UInt8) {ahead : List UInt8} {width : Nat}
    (short : ahead.length < width) :
    (between before ahead).takeNumber width = (none, between before ahead) := by
  simp only [takeNumber, take_short before short, Option.map_none]

/-- Every field fits the width that it is written in. -/
abbrev Fit (widths fields : List Nat) : Prop :=
  List.Forall₂ (fun width field => field < Nat.pow 256 width) widths fields

theorem takeFields_between (before later : List UInt8) {widths fields : List Nat}
    (fit : Fit widths fields) :
    (between before (TraceEvent.fieldBytes widths fields ++ later)).takeFields widths
      = (some fields, between (before ++ TraceEvent.fieldBytes widths fields) later) := by
  induction fit generalizing before with
  | nil => simp [takeFields, TraceEvent.fieldBytes]
  | @cons width field widths fields fits _ ih =>
      have split : TraceEvent.fieldBytes (width :: widths) (field :: fields)
          = littleEndian width field ++ TraceEvent.fieldBytes widths fields := rfl
      rw [split, List.append_assoc]
      simp only [takeFields, takeNumber_between before _ fits, ih, List.append_assoc]

/-- A read moves over some of the bytes ahead. -/
theorem take_moves (before ahead : List UInt8) (count : Nat) :
    ∃ read later, ahead = read ++ later
      ∧ ((between before ahead).take count).2 = between (before ++ read) later := by
  by_cases enough : count ≤ ahead.length
  · refine ⟨ahead.take count, ahead.drop count, (List.take_append_drop count ahead).symm, ?_⟩
    have taken := take_between before (ahead.take count) (ahead.drop count)
    rw [List.take_append_drop, List.length_take_of_le enough] at taken
    rw [taken]
  · refine ⟨[], ahead, rfl, ?_⟩
    rw [take_short before (by omega), List.append_nil]

theorem takeNumber_moves (before ahead : List UInt8) (width : Nat) :
    ∃ read later, ahead = read ++ later
      ∧ ((between before ahead).takeNumber width).2 = between (before ++ read) later :=
  take_moves before ahead width

theorem takeFields_moves (before ahead : List UInt8) (widths : List Nat) :
    ∃ read later, ahead = read ++ later
      ∧ ((between before ahead).takeFields widths).2 = between (before ++ read) later := by
  induction widths generalizing before ahead with
  | nil => exact ⟨[], ahead, rfl, by simp [takeFields]⟩
  | cons width widths ih =>
      obtain ⟨read, later, rfl, moved⟩ := takeNumber_moves before ahead width
      cases taken : (between before (read ++ later)).takeNumber width with
      | mk number after =>
          rw [taken] at moved
          obtain rfl : after = between (before ++ read) later := moved
          cases number with
          | none => exact ⟨read, later, rfl, by simp only [takeFields, taken]⟩
          | some value =>
              obtain ⟨more, last, rfl, movedOn⟩ := ih (before ++ read) later
              refine ⟨read ++ more, last, (List.append_assoc read more last).symm, ?_⟩
              rw [← List.append_assoc before, ← movedOn]
              simp only [takeFields, taken]
              split <;> rename_i rest <;> rw [rest]

theorem takeFields_short (before : List UInt8) {ahead : List UInt8} {widths : List Nat}
    (short : ahead.length < widths.sum) :
    ((between before ahead).takeFields widths).1 = none := by
  induction widths generalizing before ahead with
  | nil => simp at short
  | cons width widths ih =>
      rw [List.sum_cons] at short
      by_cases enough : width ≤ ahead.length
      · have taken := take_between before (ahead.take width) (ahead.drop width)
        rw [List.take_append_drop, List.length_take_of_le enough] at taken
        have rest_short : (ahead.drop width).length < widths.sum := by
          rw [List.length_drop]
          omega
        have rest := ih (before ++ ahead.take width) rest_short
        simp only [takeFields, takeNumber, taken, Option.map_some]
        split
        · rfl
        · rename_i values last found
          rw [found] at rest
          cases rest
      · simp only [takeFields, takeNumber_short before (Nat.lt_of_not_le enough)]

end Playback

namespace TraceEvent

open Playback (Fit)

/-! ## Events and their fields -/

theorem flag_lt (value : Bool) : flag value < Nat.pow 256 1 := by
  cases value <;> decide

theorem toNat_lt_pow (word : UInt64) : word.toNat < Nat.pow 256 8 := word.toNat_lt

theorem toNat_lt_pow_half (word : UInt32) : word.toNat < Nat.pow 256 4 := word.toNat_lt

theorem fields_fit (event : TraceEvent) : Fit event.kind.widths event.fields := by
  obtain ⟨display, time, what⟩ := event
  have display_fits := toNat_lt_pow display.number
  have time_fits := toNat_lt_pow time.nanos
  cases what with
  | validated typeChanges requests status =>
      exact .cons display_fits (.cons time_fits (.cons (toNat_lt_pow_half typeChanges)
        (.cons (toNat_lt_pow_half requests) (.cons (flag_lt _) .nil))))
  | accepted => exact .cons display_fits (.cons time_fits .nil)
  | presented frame retire =>
      have retire_fits : (retire.map UInt64.toNat).getD 0 < Nat.pow 256 8 := by
        cases retire with
        | none => decide
        | some id => exact toNat_lt_pow id
      exact .cons display_fits (.cons time_fits (.cons (toNat_lt_pow frame)
        (.cons (flag_lt _) (.cons retire_fits .nil))))
  | tick buffered => exact .cons display_fits (.cons time_fits (.cons (flag_lt buffered) .nil))
  | layer layer change =>
      have code_fits : (changeFields change).1 < Nat.pow 256 1 := by
        cases change <;> simp [changeFields]
      have z_fits : (changeFields change).2 < Nat.pow 256 4 := by
        cases change with
        | movedTo z => exact toNat_lt_pow_half z
        | _ => decide
      exact .cons display_fits (.cons (toNat_lt_pow layer.number) (.cons time_fits
        (.cons code_fits (.cons z_fits .nil))))

theorem change?_changeFields (change : LayerChange) :
    change? (changeFields change).1 (changeFields change).2 = some change := by
  cases change <;> simp [change?, changeFields]

/-- The numbers in its fields determine an event. -/
theorem ofFields?_fields (event : TraceEvent) : ofFields? event.kind event.fields = some event := by
  obtain ⟨display, time, what⟩ := event
  cases what with
  | validated typeChanges requests status => cases status <;> simp [ofFields?, kind, fields, flag]
  | accepted => simp [ofFields?, kind, fields]
  | presented frame retire => cases retire <;> simp [ofFields?, kind, fields, flag]
  | tick buffered => cases buffered <;> simp [ofFields?, kind, fields, flag]
  | layer layer change => simp [ofFields?, kind, fields, change?_changeFields]

end TraceEvent

/-! ## Records -/

namespace Playback

open TraceEvent (record recording)

theorem takeNumber_tag (before later : List UInt8) (tag : UInt8) :
    (between before (tag :: later)).takeNumber 1
      = (some tag.toNat, between (before ++ [tag]) later) := by
  have taken := take_between before [tag] later
  simp only [List.singleton_append, List.length_singleton] at taken
  simp [takeNumber, taken, ofLittleEndian]

theorem next_of_fields {before later : List UInt8} {kind : RecordKind} {fields : List Nat}
    {last : Playback}
    (taken : (between (before ++ [kind.tag]) later).takeFields kind.widths = (some fields, last)) :
    (between before (kind.tag :: later)).next = (TraceEvent.ofFields? kind fields, last) := by
  simp only [next, takeNumber_tag, UInt8.ofNat_toNat, RecordKind.ofTag?_tag, taken]

theorem next_of_short {before later : List UInt8} {kind : RecordKind}
    (short : later.length < kind.widths.sum) :
    (between before (kind.tag :: later)).next.1 = none := by
  have untaken := takeFields_short (before ++ [kind.tag]) short
  cases taken : (between (before ++ [kind.tag]) later).takeFields kind.widths with
  | mk fields last =>
      rw [taken] at untaken
      obtain rfl : fields = none := untaken
      simp only [next, takeNumber_tag, UInt8.ofNat_toNat, RecordKind.ofTag?_tag, taken]

/-- An event reads back from its record as it was. -/
theorem next_record (before later : List UInt8) (event : TraceEvent) :
    (between before (event.record ++ later)).next
      = (some event, between (before ++ event.record) later) := by
  have taken := takeFields_between (before ++ [event.kind.tag]) later event.fields_fit
  rw [List.append_assoc, List.singleton_append] at taken
  exact (next_of_fields taken).trans (by rw [TraceEvent.ofFields?_fields]; rfl)

theorem next_empty (before : List UInt8) :
    (between before []).next = (none, between before []) := by
  have short : ([] : List UInt8).length < 1 := Nat.one_pos
  simp only [next, takeNumber_short before short]

theorem next_nil (before : List UInt8) : (between before []).next.1 = none := by
  rw [next_empty]

/-- A record that is cut off reads as none. -/
theorem next_cut (before : List UInt8) (event : TraceEvent) {room : Nat}
    (cut : room < event.record.length) :
    (between before (event.record.take room)).next.1 = none := by
  cases room with
  | zero => exact next_nil before
  | succ room =>
      refine next_of_short ?_
      rw [TraceEvent.length_record, RecordKind.size_eq] at cut
      rw [List.length_take]
      omega

/-- A record takes at least its tag. -/
theorem next_moves (before ahead : List UInt8) :
    ∃ read later, ahead = read ++ later
      ∧ (between before ahead).next.2 = between (before ++ read) later
      ∧ ((between before ahead).next.1 ≠ none → read ≠ []) := by
  cases ahead with
  | nil =>
      refine ⟨[], [], rfl, ?_, fun read => absurd (next_nil before) read⟩
      rw [next_empty, List.append_nil]
  | cons tag ahead =>
      simp only [next, takeNumber_tag]
      split
      · exact ⟨[tag], ahead, rfl, rfl, fun _ => List.cons_ne_nil tag []⟩
      · rename_i kind _
        obtain ⟨read, later, rfl, moved⟩ := takeFields_moves (before ++ [tag]) ahead kind.widths
        refine ⟨tag :: read, later, rfl, ?_, fun _ => List.cons_ne_nil tag read⟩
        rw [List.append_cons before tag read, ← moved]
        split <;> rename_i taken <;> rw [taken]

/-! ## Recordings -/

theorem drain_of_none {playback : Playback} (nothing : playback.next.1 = none) (fuel : Nat) :
    (playback.drain fuel).1 = [] := by
  cases fuel with
  | zero => rfl
  | succ fuel =>
      rw [drain]
      split
      · rfl
      · rename_i found
        rw [found] at nothing
        cases nothing

theorem drain_of_some {playback after : Playback} {event : TraceEvent}
    (found : playback.next = (some event, after)) (fuel : Nat) :
    (playback.drain (fuel + 1)).1 = event :: (after.drain fuel).1 := by
  rw [drain, found]

theorem poll_succ (playback : Playback) (count : Nat) :
    playback.poll (count + 1) = playback.next.1 :: playback.next.2.poll count := rfl

/-- With a call for every byte that is ahead, a playback goes on to the first call that finds no
event. -/
theorem poll_drain (before ahead : List UInt8) {fuel : Nat} (enough : ahead.length ≤ fuel) :
    (between before ahead).poll (((between before ahead).drain fuel).1.length + 1)
      = ((between before ahead).drain fuel).1.map some ++ [none] := by
  induction fuel generalizing before ahead with
  | zero =>
      obtain rfl : ahead = [] := List.length_eq_zero_iff.mp (Nat.le_zero.mp enough)
      exact congrArg (· :: []) (next_nil before)
  | succ fuel ih =>
      obtain ⟨read, later, rfl, moved, progress⟩ := next_moves before ahead
      cases found : (between before (read ++ later)).next.1 with
      | none =>
          rw [drain_of_none found]
          exact congrArg (· :: []) found
      | some event =>
          have nonempty : 0 < read.length :=
            List.length_pos_iff.mpr (progress (by rw [found]; exact Option.some_ne_none event))
          have rest := ih (before ++ read) later (by
            rw [List.length_append] at enough
            omega)
          have step : (between before (read ++ later)).next
              = (some event, between (before ++ read) later) := Prod.ext found moved
          rw [drain_of_some step, List.length_cons, poll_succ, step, rest]
          rfl

/-- The calls up to the first one that finds no event yield exactly the events. -/
theorem poll_events (bytes : List UInt8) :
    poll { bytes := bytes } ((events bytes).length + 1) = (events bytes).map some ++ [none] :=
  poll_drain [] bytes (Nat.le_refl bytes.length)

/-- The events whose records fit into so much room, up to the first one that does not. -/
def fitting (room : Nat) : List TraceEvent → List TraceEvent
  | [] => []
  | event :: rest =>
    if event.record.length ≤ room then event :: fitting (room - event.record.length) rest else []

theorem drain_recording (before : List UInt8) (events : List TraceEvent) {room fuel : Nat}
    (enough : ((recording events).take room).length ≤ fuel) :
    ((between before ((recording events).take room)).drain fuel).1 = fitting room events := by
  induction events generalizing before room fuel with
  | nil =>
      have bare : (recording []).take room = [] := List.take_nil
      rw [bare, drain_of_none (next_nil before)]
      rfl
  | cons event rest ih =>
      have whole : recording (event :: rest) = event.record ++ recording rest := rfl
      by_cases fits : event.record.length ≤ room
      · have cut : (recording (event :: rest)).take room
            = event.record ++ (recording rest).take (room - event.record.length) := by
          rw [whole, List.take_append, List.take_of_length_le fits]
        have positive : 0 < event.record.length := Nat.succ_pos _
        rw [cut, List.length_append] at enough
        obtain ⟨fuel, rfl⟩ : ∃ less, fuel = less + 1 := ⟨fuel - 1, by omega⟩
        have later : ((between (before ++ event.record)
            ((recording rest).take (room - event.record.length))).drain fuel).1
            = fitting (room - event.record.length) rest :=
          ih (before ++ event.record) (by omega)
        rw [cut, drain_of_some (next_record before _ event), later, fitting, if_pos fits]
      · have cut : (recording (event :: rest)).take room = event.record.take room := by
          rw [whole, List.take_append_of_le_length (by omega)]
        rw [cut, drain_of_none (next_cut before event (by omega)), fitting, if_neg fits]

theorem events_take (events : List TraceEvent) (room : Nat) :
    Playback.events ((recording events).take room) = fitting room events :=
  drain_recording [] events (Nat.le_refl _)

/-! ## The longest row of events that fits -/

theorem fitting_leads (room : Nat) (events : List TraceEvent) : fitting room events <+: events := by
  induction events generalizing room with
  | nil => exact List.prefix_refl []
  | cons event rest ih =>
      rw [fitting]
      split
      · exact List.cons_prefix_cons.mpr ⟨rfl, ih _⟩
      · exact List.nil_prefix

theorem length_recording_fitting (room : Nat) (events : List TraceEvent) :
    (recording (fitting room events)).length ≤ room := by
  induction events generalizing room with
  | nil => exact Nat.zero_le room
  | cons event rest ih =>
      rw [fitting]
      split
      · have rest_fits := ih (room - event.record.length)
        simp only [recording, List.flatMap_cons, List.length_append] at rest_fits ⊢
        omega
      · exact Nat.zero_le room

theorem prefix_fitting {room : Nat} {events first : List TraceEvent} (leading : first <+: events)
    (fits : (recording first).length ≤ room) : first <+: fitting room events := by
  induction first generalizing room events with
  | nil => exact List.nil_prefix
  | cons event first ih =>
      obtain ⟨later, rfl⟩ := leading
      simp only [recording, List.flatMap_cons, List.length_append] at fits
      have rest_fits : (recording first).length ≤ room - event.record.length := by
        simp only [recording]
        omega
      rw [List.cons_append, fitting, if_pos (by omega)]
      exact List.cons_prefix_cons.mpr ⟨rfl, ih (List.prefix_append first later) rest_fits⟩

theorem fitting_of_fits {room : Nat} {events : List TraceEvent}
    (fits : (recording events).length ≤ room) : fitting room events = events := by
  have all : events <+: fitting room events := prefix_fitting (List.prefix_refl events) fits
  exact (fitting_leads room events).eq_of_length_le all.length_le

/-- A recording that is not cut plays back as it was made. -/
theorem events_recording (events : List TraceEvent) :
    Playback.events (recording events) = events := by
  rw [← List.take_length (l := recording events), events_take]
  exact fitting_of_fits (Nat.le_refl _)

/-- `played` is the longest row of events, from the first one on, whose records fit into so many
bytes. -/
structure IsLongestFitting (room : Nat) (events played : List TraceEvent) : Prop where
  leading : played <+: events
  fits : (recording played).length ≤ room
  longest : ∀ first, first <+: events → (recording first).length ≤ room → first <+: played

theorem isLongestFitting_fitting (room : Nat) (events : List TraceEvent) :
    IsLongestFitting room events (fitting room events) where
  leading := fitting_leads room events
  fits := length_recording_fitting room events
  longest := fun _ => prefix_fitting

/-- A recording that is cut off anywhere plays back, up to the first call that finds nothing, as the
longest row of events whose records it holds in full; uncut, it plays back as all of them. -/
theorem plays_recording (events : List TraceEvent) (room : Nat) :
    let cut := (recording events).take room
    IsLongestFitting room events (Playback.events cut)
      ∧ poll { bytes := cut } ((Playback.events cut).length + 1)
        = (Playback.events cut).map some ++ [none]
      ∧ Playback.events (recording events) = events := by
  refine ⟨?_, poll_events _, ?_⟩
  · rw [events_take]
    exact isLongestFitting_fitting room events
  · have whole : Playback.events (recording events) = fitting (recording events).length events := by
      rw [← events_take, List.take_length]
    rw [whole]
    have all : events <+: fitting (recording events).length events :=
      prefix_fitting (List.prefix_refl events) (Nat.le_refl _)
    exact (fitting_leads _ events).eq_of_length_le all.length_le

end Playback

end Scanout
