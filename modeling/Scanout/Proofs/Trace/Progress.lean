import Mathlib
import Scanout.Proofs.Trace.Respelling

/-!
# How far a playback gets

A call that finds no event leaves a playback behind the last field that it could read, often in the
middle of a record, and the next call goes on from there. `Playback.reads` is what a call reads: the
start and the width of its tag and of every field, as long as they are there. `Passes` is the way
through such stretches, one behind the other and all of them within the bytes.

Every call passes through its reads (`passes_reads`), and an event has been read in full
(`reads_of_event`). So a playback gets on from wherever it stands, and `calls_progress` says what any
number of calls does.
-/

set_option autoImplicit false

namespace Scanout

theorem TraceEvent.kind_of_ofFields? {kind : RecordKind} {fields : List Nat} {event : TraceEvent}
    (read : TraceEvent.ofFields? kind fields = some event) : event.kind = kind := by
  unfold TraceEvent.ofFields? at read
  split at read
  case h_5 =>
    obtain ⟨change, _, rfl⟩ := Option.map_eq_some_iff.mp read
    rfl
  case h_6 => cases read
  all_goals
    obtain rfl := Option.some.inj read
    rfl

namespace Playback

/-- A row of fields, up to the first one that is cut off, as the start and the width of each. -/
def fieldReads (playback : Playback) : List Nat → List (Nat × Nat)
  | [] => []
  | width :: widths =>
    match playback.takeNumber width with
    | (none, _) => []
    | (some _, after) => (playback.position, width) :: after.fieldReads widths

/-- What a call reads. -/
def reads (playback : Playback) : List (Nat × Nat) :=
  match playback.takeNumber 1 with
  | (none, _) => []
  | (some tag, after) =>
    (playback.position, 1) ::
      match RecordKind.ofTag? (UInt8.ofNat tag) with
      | none => []
      | some kind => after.fieldReads kind.widths

/-- The way of a playback through stretches that it reads one behind the other. -/
inductive Passes : Playback → List (Nat × Nat) → Playback → Prop where
  | nil (playback : Playback) : Passes playback [] playback
  | cons {playback last : Playback} {width : Nat} {later : List (Nat × Nat)}
      (within : playback.position + width ≤ playback.bytes.length)
      (rest : Passes { playback with position := playback.position + width } later last) :
      Passes playback ((playback.position, width) :: later) last

namespace Passes

variable {playback last : Playback} {stretches : List (Nat × Nat)}

theorem bytes_eq (passes : Passes playback stretches last) : last.bytes = playback.bytes := by
  induction passes with
  | nil => rfl
  | cons _ _ ih => exact ih

theorem position_eq (passes : Passes playback stretches last) :
    last.position = playback.position + (stretches.map Prod.snd).sum := by
  induction passes with
  | nil => rfl
  | cons _ _ ih =>
      rw [ih, List.map_cons, List.sum_cons]
      exact Nat.add_assoc _ _ _

theorem forward (passes : Passes playback stretches last) : playback.position ≤ last.position :=
  passes.position_eq ▸ Nat.le_add_right _ _

theorem within (passes : Passes playback stretches last)
    (inside : playback.position ≤ playback.bytes.length) :
    last.position ≤ last.bytes.length := by
  induction passes with
  | nil => exact inside
  | cons fits _ ih => exact ih fits

theorem stretch_within (passes : Passes playback stretches last) :
    ∀ stretch ∈ stretches, playback.position ≤ stretch.1
      ∧ stretch.1 + stretch.2 ≤ last.position := by
  induction passes with
  | nil => exact fun _ listed => nomatch listed
  | cons _ rest ih =>
      intro stretch listed
      rcases List.mem_cons.mp listed with rfl | listed
      · exact ⟨Nat.le_refl _, rest.forward⟩
      · obtain ⟨after, inside⟩ := ih stretch listed
        exact ⟨(Nat.le_add_right _ _).trans after, inside⟩

end Passes

/-! ## One call -/

theorem takeNumber_cases (playback : Playback) (width : Nat) :
    (∃ value, playback.position + width ≤ playback.bytes.length
      ∧ playback.takeNumber width
        = (some value, { playback with position := playback.position + width }))
    ∨ playback.bytes.length < playback.position + width
      ∧ playback.takeNumber width = (none, playback) := by
  by_cases fits : playback.position + width ≤ playback.bytes.length
  · left
    exact ⟨_, fits, by rw [takeNumber, take, if_pos fits]; rfl⟩
  · right
    exact ⟨Nat.lt_of_not_le fits, by rw [takeNumber, take, if_neg fits]; rfl⟩

theorem passes_fieldReads (playback : Playback) (widths : List Nat) :
    Passes playback (playback.fieldReads widths) (playback.takeFields widths).2 := by
  induction widths generalizing playback with
  | nil => exact .nil playback
  | cons width widths ih =>
      rcases takeNumber_cases playback width with ⟨value, fits, taken⟩ | ⟨-, taken⟩
      · have rest := ih { playback with position := playback.position + width }
        simp only [fieldReads, takeFields, taken]
        split <;> rename_i found <;> rw [found] at rest <;> exact .cons fits rest
      · simp only [fieldReads, takeFields, taken]
        exact .nil playback

/-- A row that is read to its end is read in full. -/
theorem fieldReads_of_some {playback last : Playback} {widths values : List Nat}
    (taken : playback.takeFields widths = (some values, last)) :
    (playback.fieldReads widths).map Prod.snd = widths := by
  induction widths generalizing playback values last with
  | nil => rfl
  | cons width widths ih =>
      rcases takeNumber_cases playback width with ⟨value, -, first⟩ | ⟨-, first⟩
      · simp only [takeFields, first] at taken
        split at taken
        · cases taken
        · rename_i found
          simp only [fieldReads, first, List.map_cons, ih found]
      · simp only [takeFields, first] at taken
        cases taken

/-- A call moves a playback over what it reads, and over nothing else. -/
theorem passes_reads (playback : Playback) :
    Passes playback playback.reads playback.next.2 := by
  rcases takeNumber_cases playback 1 with ⟨tag, fits, taken⟩ | ⟨-, taken⟩
  · simp only [reads, next, taken]
    refine .cons fits ?_
    cases RecordKind.ofTag? (UInt8.ofNat tag) with
    | none => exact .nil _
    | some kind =>
        have fields := passes_fieldReads
          { playback with position := playback.position + 1 } kind.widths
        simp only
        split <;> rename_i found <;> rw [found] at fields <;> exact fields
  · simp only [reads, next, taken]
    exact .nil playback

/-- An event comes out of a tag and all the fields of its kind. -/
theorem reads_of_event {playback : Playback} {event : TraceEvent}
    (found : playback.next.1 = some event) :
    playback.reads.map Prod.snd = 1 :: event.kind.widths := by
  rcases takeNumber_cases playback 1 with ⟨tag, fits, taken⟩ | ⟨-, taken⟩
  · simp only [next, taken] at found
    simp only [reads, taken, List.map_cons]
    cases known : RecordKind.ofTag? (UInt8.ofNat tag) with
    | none =>
        rw [known] at found
        cases found
    | some kind =>
        simp only [known] at found
        split at found
        · cases found
        · rename_i fields last read
          rw [TraceEvent.kind_of_ofFields? found]
          exact congrArg (1 :: ·) (fieldReads_of_some read)
  · simp only [next, taken] at found
    cases found

/-- A tag is read wherever there is a byte left. -/
theorem reads_of_left {playback : Playback} (left : playback.position < playback.bytes.length) :
    0 < (playback.reads.map Prod.snd).sum := by
  rcases takeNumber_cases playback 1 with ⟨tag, -, taken⟩ | ⟨short, -⟩
  · simp only [reads, taken, List.map_cons, List.sum_cons]
    exact Nat.add_pos_left Nat.one_pos _
  · exact absurd short (Nat.not_lt.mpr left)

theorem next_of_ended {playback : Playback} (ended : playback.bytes.length ≤ playback.position) :
    playback.next = (none, playback) := by
  rcases takeNumber_cases playback 1 with ⟨tag, fits, -⟩ | ⟨-, taken⟩
  · exact absurd fits (Nat.not_le.mpr (Nat.lt_succ_of_le ended))
  · simp only [next, taken]

/-- What a call on a playback of these bytes does, whether it finds an event or not. -/
structure Advances (bytes : List UInt8) (playback : Playback) : Prop where
  bytes_eq : playback.bytes = bytes ∧ playback.next.2.bytes = bytes
  forward : playback.position ≤ playback.next.2.position
  within : playback.next.2.position ≤ bytes.length
  reads_within : ∀ stretch ∈ playback.reads, playback.position ≤ stretch.1
    ∧ stretch.1 + stretch.2 ≤ playback.next.2.position
  reads_sum : playback.next.2.position
    = playback.position + (playback.reads.map Prod.snd).sum
  of_event : ∀ event, playback.next.1 = some event →
    playback.next.2.position = playback.position + event.record.length
  of_left : playback.position < bytes.length → playback.position < playback.next.2.position
  of_ended : playback.position = bytes.length → playback.next = (none, playback)

theorem advances {playback : Playback} (inside : playback.position ≤ playback.bytes.length) :
    Advances playback.bytes playback where
  bytes_eq := ⟨rfl, playback.passes_reads.bytes_eq⟩
  forward := playback.passes_reads.forward
  within := playback.passes_reads.bytes_eq ▸ playback.passes_reads.within inside
  reads_within := playback.passes_reads.stretch_within
  reads_sum := playback.passes_reads.position_eq
  of_event event found := by
    rw [playback.passes_reads.position_eq, reads_of_event found, List.sum_cons,
      TraceEvent.length_record, RecordKind.size_eq, Nat.add_comm 1]
  of_left left := by
    rw [playback.passes_reads.position_eq]
    exact Nat.lt_add_of_pos_right (reads_of_left left)
  of_ended ended := next_of_ended (Nat.le_of_eq ended.symm)

/-! ## Any number of calls -/

theorem afterCalls_succ (playback : Playback) (count : Nat) :
    playback.afterCalls (count + 1) = (playback.afterCalls count).next.2 :=
  Function.iterate_succ_apply' _ count playback

/-- A playback that is within its bytes stays there. -/
theorem afterCalls_within {playback : Playback}
    (inside : playback.position ≤ playback.bytes.length) (count : Nat) :
    (playback.afterCalls count).bytes = playback.bytes
      ∧ (playback.afterCalls count).position ≤ (playback.afterCalls count).bytes.length := by
  induction count with
  | zero => exact ⟨rfl, inside⟩
  | succ count ih =>
      rw [afterCalls_succ]
      have passes := (playback.afterCalls count).passes_reads
      exact ⟨passes.bytes_eq.trans ih.1, passes.within ih.2⟩

/-- Every call but those at the end takes a byte. -/
theorem le_afterCalls {playback : Playback}
    (inside : playback.position ≤ playback.bytes.length) (count : Nat) :
    min (playback.position + count) playback.bytes.length
      ≤ (playback.afterCalls count).position := by
  induction count with
  | zero => exact Nat.min_le_left _ _
  | succ count ih =>
      obtain ⟨same, within⟩ := afterCalls_within inside count
      have step := advances within
      rw [afterCalls_succ]
      rw [same] at step within
      rcases Nat.lt_or_eq_of_le within with left | ended
      · have := step.of_left left
        omega
      · rw [step.of_ended ended]
        exact (Nat.min_le_right _ _).trans ended.ge

theorem poll_eq_map (playback : Playback) (count : Nat) :
    playback.poll count
      = (List.range count).map fun earlier => (playback.afterCalls earlier).next.1 := by
  induction count generalizing playback with
  | zero => rfl
  | succ count ih =>
      rw [poll_succ, ih, List.range_succ_eq_map, List.map_cons, List.map_map]
      rfl

/-- The records of all events that are found lie within what has been passed. -/
theorem sum_records_le (playback : Playback) (count : Nat) :
    playback.position
        + ((playback.poll count).reduceOption.map fun event => event.record.length).sum
      ≤ (playback.afterCalls count).position := by
  induction count generalizing playback with
  | zero => exact Nat.le_refl _
  | succ count ih =>
      have rest := ih playback.next.2
      have passes := playback.passes_reads
      rw [poll_succ]
      change _ ≤ (playback.next.2.afterCalls count).position
      cases found : playback.next.1 with
      | none =>
          rw [List.reduceOption_cons_of_none]
          exact (Nat.add_le_add_right passes.forward _).trans rest
      | some event =>
          have size := passes.position_eq
          rw [reads_of_event found, List.sum_cons, Nat.add_comm 1, ← RecordKind.size_eq,
            ← TraceEvent.length_record] at size
          rw [List.reduceOption_cons_of_some, List.map_cons, List.sum_cons, ← Nat.add_assoc, ← size]
          exact rest

/-- **Any number of calls on a playback of any bytes, whether they find events or not.** Every call
reads within the bytes, never goes back, takes at least a byte unless it is at the end, and takes
exactly the size of the record if it finds an event. After as many calls as there are bytes, at the
latest, a playback is at the end and stays there. The records of all events that were found are
together no longer than the bytes. -/
theorem calls_progress (bytes : List UInt8) :
    let playback : Playback := { bytes := bytes }
    (∀ count, Advances bytes (playback.afterCalls count))
      ∧ (Monotone fun count => (playback.afterCalls count).position)
      ∧ (∀ count, (playback.afterCalls count).position ≤ bytes.length)
      ∧ (∀ count, bytes.length ≤ count → (playback.afterCalls count).position = bytes.length
        ∧ (playback.afterCalls count).next = (none, playback.afterCalls count))
      ∧ (∀ count, playback.poll count
        = (List.range count).map fun earlier => (playback.afterCalls earlier).next.1)
      ∧ ∀ count, ((playback.poll count).reduceOption.map fun event => event.record.length).sum
        ≤ bytes.length := by
  intro playback
  have inside : playback.position ≤ playback.bytes.length := Nat.zero_le _
  have step : ∀ count, Advances bytes (playback.afterCalls count) := by
    intro count
    obtain ⟨same, within⟩ := afterCalls_within inside count
    have step := advances within
    rwa [same] at step
  have within : ∀ count, (playback.afterCalls count).position ≤ bytes.length := by
    intro count
    obtain ⟨same, within⟩ := afterCalls_within inside count
    rwa [same] at within
  refine ⟨step, monotone_nat_of_le_succ ?_, within, ?_, poll_eq_map playback, ?_⟩
  · intro count
    rw [afterCalls_succ]
    exact (step count).forward
  · intro count enough
    have far := le_afterCalls inside count
    change min (0 + count) bytes.length ≤ _ at far
    have ended : (playback.afterCalls count).position = bytes.length := by
      have := within count
      omega
    exact ⟨ended, (step count).of_ended ended⟩
  · intro count
    have sum := sum_records_le playback count
    change 0 + _ ≤ _ at sum
    rw [Nat.zero_add] at sum
    exact sum.trans (within count)

end Playback

end Scanout
