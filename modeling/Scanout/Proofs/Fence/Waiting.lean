import Scanout.Proofs.Fence.Table

/-!
# Waiting for fences

Producers, holders of handles and waiting threads work on fences at the same time, and what they do
is a sequence of sections under the locks of the fences. A signal that is given completes its fence
in one section and is dropped in a later one. A thread that waits looks at the fence, falls asleep
if it is pending, and looks again whenever it is woken, for whatever reason; a wait with a limit may
give up once it has slept.

Whatever the order (`settles_run`), a fence is pending exactly while its signal is held and is
complete for good after that, and a wait tells how its fence was when it ended. What carries the
proof is that no section undoes a completion (`Does.develops`).
-/

set_option autoImplicit false

namespace Scanout

/-- What has become of the signal of a fence. -/
inductive SignalState where
  | held
  /-- It has been given, and is about to be dropped. -/
  | spent
  | gone
  deriving DecidableEq

/-- A thread that waits for a fence. -/
structure Waiter where
  fence : Fence
  limited : Bool
  asleep : Bool := false
  result : Option (Except FenceError Unit) := none

/-- The thread looks at its fence, and falls asleep if that is pending. -/
def Waiter.look (table : FenceTable) (waiter : Waiter) : Waiter :=
  if waiter.result.isSome then waiter
  else
    match table.wait? waiter.fence with
    | none => { waiter with asleep := true }
    | some result => { waiter with result := some result }

/-- The time of a sleeping thread is up. -/
def Waiter.expire (table : FenceTable) (waiter : Waiter) : Waiter :=
  if waiter.result.isNone ∧ waiter.asleep ∧ waiter.limited then
    { waiter with result := some (table.waitTimeout waiter.fence) }
  else waiter

/-- All fences with their signals, the handles to them, and the threads that wait or have waited. -/
structure Handover where
  table : FenceTable := {}
  /-- One for each primitive. -/
  signals : List SignalState := []
  handles : List Fence := []
  waiters : List Waiter := []

namespace Handover

inductive Act where
  | create
  | createNoop
  | duplicate (handle : Nat)
  | signal (primitive : Nat)
  | drop (primitive : Nat)
  | wait (handle : Nat) (limited : Bool)
  | look (waiter : Nat)
  | expire (waiter : Nat)

def issue (handover : Handover) : Handover where
  table := handover.table.issue.2
  signals := handover.signals ++ [.held]
  handles := handover.handles ++ [.shared handover.table.issue.1]
  waiters := handover.waiters

def hand (handover : Handover) (fence : Fence) : Handover :=
  { handover with handles := handover.handles ++ [fence] }

/-- Completes a fence, if it is pending, and moves its signal on. -/
def finish (handover : Handover) (primitive : Nat) (status : FenceStatus) (state : SignalState) :
    Handover :=
  { handover with
    table := handover.table.finish primitive status
    signals := handover.signals.set primitive state }

def step (handover : Handover) : Act → Handover
  | .create => handover.issue
  | .createNoop => handover.hand .noop
  | .duplicate handle =>
    match handover.handles[handle]? with
    | none => handover
    | some fence => handover.hand fence
  | .signal primitive =>
    match handover.signals[primitive]? with
    | some .held => handover.finish primitive .signaled .spent
    | _ => handover
  | .drop primitive =>
    match handover.signals[primitive]? with
    | some .held | some .spent => handover.finish primitive .abandoned .gone
    | _ => handover
  | .wait handle limited =>
    match handover.handles[handle]? with
    | none => handover
    | some fence => { handover with waiters := handover.waiters ++ [{ fence, limited }] }
  | .look waiter =>
    { handover with waiters := handover.waiters.modify waiter (Waiter.look handover.table) }
  | .expire waiter =>
    { handover with waiters := handover.waiters.modify waiter (Waiter.expire handover.table) }

def run (handover : Handover) : List Act → Handover
  | [] => handover
  | act :: rest => (handover.step act).run rest

/-- What a wait tells that ends when its fence is in this state. -/
structure Tells (status : FenceStatus) (limited : Bool) (result : Except FenceError Unit) :
    Prop where
  ok : result = .ok () ↔ status = .signaled
  abandoned : result = .error .abandoned ↔ status = .abandoned
  timeout : result = .error .timeout → limited = true ∧ status = .pending
  complete : limited = false → status ≠ .pending

/-- What holds of fences, signals and waits after these acts. -/
structure Settles (acts : List Act) : Prop where
  pending : ∀ primitive, (run {} acts).table.statusOf primitive = .pending
    ↔ (run {} acts).signals[primitive]? = some .held
  /-- The drop that follows changes nothing. -/
  signaled : ∀ primitive, (run {} acts).signals[primitive]? = some .held → ∀ later,
    (((run {} acts).step (.signal primitive)).run later).table.statusOf primitive = .signaled
  dropped : ∀ primitive, (run {} acts).signals[primitive]? = some .held → ∀ later,
    (((run {} acts).step (.drop primitive)).run later).table.statusOf primitive = .abandoned
  settled : ∀ fence ∈ (run {} acts).handles, (run {} acts).table.status fence ≠ .pending →
    ∀ later, ((run {} acts).run later).table.status fence = (run {} acts).table.status fence
  alike : ∀ fence ∈ (run {} acts).handles, ∀ other ∈ (run {} acts).handles,
    fence.sameAs other = true →
    (run {} acts).table.status fence = (run {} acts).table.status other
  /-- A wait tells how its fence is when it ends. -/
  tells : ∀ act (place : Nat) (waiter after : Waiter) result,
    (run {} acts).waiters[place]? = some waiter → waiter.result = none →
    ((run {} acts).step act).waiters[place]? = some after → after.result = some result →
    Tells ((run {} acts).table.status waiter.fence) waiter.limited result
  /-- A wait ends at the next look once its fence is complete. -/
  ends : ∀ (place : Nat) waiter, (run {} acts).waiters[place]? = some waiter →
    (run {} acts).table.status waiter.fence ≠ .pending →
    (((run {} acts).step (.look place)).waiters[place]?.bind (·.result)).isSome
  /-- Waits for one fence tell the same, unless they give up. -/
  repeated : ∀ waiter ∈ (run {} acts).waiters, ∀ other ∈ (run {} acts).waiters,
    waiter.fence.sameAs other.fence = true → ∀ first second,
    waiter.result = some first → other.result = some second →
    first ≠ .error .timeout → second ≠ .error .timeout → first = second

/-! ## One act -/

variable {handover after : Handover}

/-- What an act can do. -/
inductive Does (handover : Handover) : Handover → Prop
  | nothing : Does handover handover
  | issues : Does handover handover.issue
  | hands {fence : Fence} (known : fence = .noop ∨ fence ∈ handover.handles) :
      Does handover (handover.hand fence)
  | finishes (primitive : Nat) {status : FenceStatus} {state : SignalState}
      (complete : status ≠ .pending) (lost : state ≠ .held) :
      Does handover (handover.finish primitive status state)
  | waits {fence : Fence} (limited : Bool) (known : fence ∈ handover.handles) :
      Does handover { handover with waiters := handover.waiters ++ [{ fence, limited }] }
  | looks (place : Nat) : Does handover
      { handover with waiters := handover.waiters.modify place (Waiter.look handover.table) }
  | expires (place : Nat) : Does handover
      { handover with waiters := handover.waiters.modify place (Waiter.expire handover.table) }

theorem does_step (handover : Handover) (act : Act) : handover.Does (handover.step act) := by
  cases act with
  | create => exact .issues
  | createNoop => exact .hands (.inl rfl)
  | duplicate handle =>
      simp only [step]
      split
      · exact .nothing
      · rename_i fence found
        exact .hands (.inr (List.mem_of_getElem? found))
  | signal primitive =>
      simp only [step]
      split
      · exact .finishes primitive nofun nofun
      · exact .nothing
  | drop primitive =>
      simp only [step]
      split
      · exact .finishes primitive nofun nofun
      · exact .finishes primitive nofun nofun
      · exact .nothing
  | wait handle limited =>
      simp only [step]
      split
      · exact .nothing
      · rename_i fence found
        exact .waits limited (List.mem_of_getElem? found)
  | look place => exact .looks place
  | expire place => exact .expires place

theorem Does.develops (does : handover.Does after) : handover.table.Develops after.table := by
  cases does with
  | issues => exact .issue .same
  | finishes primitive complete lost => exact .finish .same primitive _
  | _ => exact .same

theorem develops_run (handover : Handover) (acts : List Act) :
    handover.table.Develops (handover.run acts).table := by
  induction acts generalizing handover with
  | nil => exact .same
  | cons act rest ih => exact (handover.does_step act).develops.trans (ih (handover.step act))

/-! ## Waits -/

theorem tells_resultOf {status : FenceStatus} (complete : status ≠ .pending) (limited : Bool) :
    Tells status limited (FenceTable.resultOf status) := by
  cases status with
  | pending => exact absurd rfl complete
  | signaled => constructor <;> simp [FenceTable.resultOf]
  | abandoned => constructor <;> simp [FenceTable.resultOf]

theorem tells_waitTimeout (table : FenceTable) (fence : Fence) :
    Tells (table.status fence) true (table.waitTimeout fence) := by
  rw [FenceTable.waitTimeout, FenceTable.wait?_eq]
  by_cases pending : table.status fence = .pending
  · rw [if_pos pending, pending]
    constructor <;> simp
  · rw [if_neg pending]
    exact tells_resultOf pending true

/-- The thread at this place may have looked, or its time may have been up. -/
theorem Does.waiter (does : handover.Does after) {place : Nat} {waiter : Waiter}
    (found : handover.waiters[place]? = some waiter) :
    after.waiters[place]? = some waiter
      ∨ after.waiters[place]? = some (waiter.look handover.table)
      ∨ after.waiters[place]? = some (waiter.expire handover.table) := by
  cases does with
  | waits limited known =>
      have inside := (List.getElem?_eq_some_iff.mp found).1
      exact .inl ((List.getElem?_append_left inside).trans found)
  | looks other =>
      by_cases here : other = place
      · refine .inr (.inl ?_)
        simp only [here, List.getElem?_modify_eq, found, Option.map_eq_map, Option.map_some]
      · exact .inl ((List.getElem?_modify_ne _ _ here).trans found)
  | expires other =>
      by_cases here : other = place
      · refine .inr (.inr ?_)
        simp only [here, List.getElem?_modify_eq, found, Option.map_eq_map, Option.map_some]
      · exact .inl ((List.getElem?_modify_ne _ _ here).trans found)
  | _ => exact .inl found

theorem look_result {waiter : Waiter} (fresh : waiter.result = none) (table : FenceTable) :
    (waiter.look table).result = table.wait? waiter.fence := by
  unfold Waiter.look
  rw [if_neg (by simp [fresh])]
  cases table.wait? waiter.fence with
  | none => exact fresh
  | some result => rfl

theorem look_isSome {waiter : Waiter} {table : FenceTable}
    (complete : table.status waiter.fence ≠ .pending) : (waiter.look table).result.isSome := by
  cases told : waiter.result with
  | none => rw [look_result told, FenceTable.wait?_eq, if_neg complete, Option.isSome_some]
  | some result =>
      have still : waiter.look table = waiter := if_pos (by rw [told, Option.isSome_some])
      rw [still, told, Option.isSome_some]

theorem expire_cases (waiter : Waiter) (table : FenceTable) :
    waiter.expire table = waiter
      ∨ waiter.limited = true
        ∧ waiter.expire table
          = { waiter with result := some (table.waitTimeout waiter.fence) } := by
  unfold Waiter.expire
  split
  · rename_i due
    exact .inr ⟨due.2.2, rfl⟩
  · exact .inl rfl

theorem look_cases (waiter : Waiter) (table : FenceTable) :
    waiter.look table = { waiter with asleep := (waiter.look table).asleep }
      ∨ ∃ result, table.wait? waiter.fence = some result
        ∧ waiter.look table = { waiter with result := some result } := by
  unfold Waiter.look
  split
  · exact .inl rfl
  · split
    · exact .inl rfl
    · rename_i result waited
      exact .inr ⟨result, waited, rfl⟩

/-- A wait that ends with this act tells how its fence is. -/
theorem Does.tells (does : handover.Does after) {place : Nat} {waiter later : Waiter}
    {result : Except FenceError Unit} (found : handover.waiters[place]? = some waiter)
    (fresh : waiter.result = none) (foundLater : after.waiters[place]? = some later)
    (ended : later.result = some result) :
    Tells (handover.table.status waiter.fence) waiter.limited result := by
  rcases does.waiter found with same | looked | expired
  · obtain rfl := Option.some.inj (foundLater.symm.trans same)
    cases fresh.symm.trans ended
  · obtain rfl := Option.some.inj (foundLater.symm.trans looked)
    rw [look_result fresh, FenceTable.wait?_eq] at ended
    split at ended
    · cases ended
    · rename_i complete
      cases ended
      exact tells_resultOf complete waiter.limited
  · obtain rfl := Option.some.inj (foundLater.symm.trans expired)
    rcases expire_cases waiter handover.table with still | ⟨limited, given⟩
    · rw [still, fresh] at ended
      cases ended
    · rw [given] at ended
      cases ended
      rw [limited]
      exact tells_waitTimeout handover.table waiter.fence

/-! ## Runs -/

structure Sound (handover : Handover) : Prop where
  held : ∀ primitive, handover.table.statusOf primitive = .pending
    ↔ handover.signals[primitive]? = some .held
  counted : handover.signals.length = handover.table.size
  handles : ∀ fence ∈ handover.handles, handover.table.Issued fence
  waiters : ∀ waiter ∈ handover.waiters, handover.table.Issued waiter.fence
  /-- A wait that has not given up has told what a wait would tell now. -/
  results : ∀ waiter ∈ handover.waiters, ∀ result, waiter.result = some result →
    result ≠ .error .timeout → handover.table.wait? waiter.fence = some result

theorem sound_new : Sound {} where
  held primitive := by simp [FenceTable.statusOf]
  counted := rfl
  handles := nofun
  waiters := nofun
  results := nofun

theorem mem_modify {α : Type} {items : List α} {place : Nat} {change : α → α} {item : α}
    (member : item ∈ items.modify place change) :
    ∃ earlier ∈ items, item = earlier ∨ item = change earlier := by
  obtain ⟨other, found⟩ := List.mem_iff_getElem?.mp member
  rw [List.getElem?_modify] at found
  obtain ⟨earlier, at_, same⟩ := Option.map_eq_some_iff.mp found
  refine ⟨earlier, List.mem_of_getElem? at_, ?_⟩
  split at same
  · exact .inr same.symm
  · exact .inl same.symm

theorem held_issue (sound : handover.Sound) (primitive : Nat) :
    handover.issue.table.statusOf primitive = .pending
      ↔ handover.issue.signals[primitive]? = some .held := by
  simp only [issue]
  rw [FenceTable.statusOf_issue, ← sound.counted]
  rcases Nat.lt_trichotomy primitive handover.signals.length with inside | last | beyond
  · rw [if_neg (Nat.ne_of_lt inside), List.getElem?_append_left inside]
    exact sound.held primitive
  · rw [if_pos last, last, List.getElem?_concat_length]
    simp only
  · have none : handover.signals[primitive]? = none :=
      List.getElem?_eq_none (Nat.le_of_lt beyond)
    rw [if_neg (Nat.ne_of_gt beyond), sound.held primitive, none,
      List.getElem?_eq_none (by simpa using beyond)]

theorem held_finish (sound : handover.Sound) (primitive : Nat) {status : FenceStatus}
    {state : SignalState} (complete : status ≠ .pending) (lost : state ≠ .held) (other : Nat) :
    (handover.finish primitive status state).table.statusOf other = .pending
      ↔ (handover.finish primitive status state).signals[other]? = some .held := by
  simp only [finish, FenceTable.statusOf_finish, List.getElem?_set]
  by_cases here : primitive = other
  · subst here
    refine ⟨fun pending => ?_, fun held => ?_⟩
    · split at pending
      · exact absurd pending complete
      · rename_i unfinished
        exact absurd ⟨rfl, pending⟩ unfinished
    · rw [if_pos rfl] at held
      split at held
      · exact absurd (Option.some.inj held) lost
      · cases held
  · rw [if_neg fun both => here both.1.symm, if_neg here]
    exact sound.held other

/-- The threads after an act: each has gone on waiting, or has ended as a wait would end now. -/
theorem Does.origin (does : handover.Does after) {waiter : Waiter}
    (member : waiter ∈ after.waiters) :
    (waiter.fence ∈ handover.handles ∧ waiter.result = none)
      ∨ ∃ earlier ∈ handover.waiters, waiter.fence = earlier.fence
        ∧ (waiter.result = earlier.result
          ∨ ∀ result, waiter.result = some result → result ≠ .error .timeout →
            handover.table.wait? waiter.fence = some result) := by
  cases does with
  | waits limited known =>
      rcases List.mem_append.mp member with earlier | last
      · exact .inr ⟨waiter, earlier, rfl, .inl rfl⟩
      · obtain rfl := List.mem_singleton.mp last
        exact .inl ⟨known, rfl⟩
  | looks place =>
      obtain ⟨earlier, among, rfl | rfl⟩ := mem_modify member
      · exact .inr ⟨waiter, among, rfl, .inl rfl⟩
      · rcases look_cases earlier handover.table with still | ⟨result, waited, ended⟩
        · rw [still]
          exact .inr ⟨earlier, among, rfl, .inl rfl⟩
        · rw [ended]
          refine .inr ⟨earlier, among, rfl, .inr ?_⟩
          rintro _ ⟨⟩ -
          exact waited
  | expires place =>
      obtain ⟨earlier, among, rfl | rfl⟩ := mem_modify member
      · exact .inr ⟨waiter, among, rfl, .inl rfl⟩
      · rcases expire_cases earlier handover.table with still | ⟨-, ended⟩
        · rw [still]
          exact .inr ⟨earlier, among, rfl, .inl rfl⟩
        · rw [ended]
          refine .inr ⟨earlier, among, rfl, .inr ?_⟩
          rintro _ ⟨⟩ told
          exact FenceTable.wait?_of_told told
  | _ => exact .inr ⟨waiter, member, rfl, .inl rfl⟩

theorem handles_does (does : handover.Does after) (sound : handover.Sound) :
    ∀ fence ∈ after.handles, after.table.Issued fence := by
  intro fence member
  cases does with
  | issues =>
      rcases List.mem_append.mp member with earlier | last
      · exact (FenceTable.Develops.issue .same).issued (sound.handles fence earlier)
      · obtain rfl := List.mem_singleton.mp last
        rintro _ ⟨⟩
        rw [issue, FenceTable.size_issue]
        exact Nat.lt_succ_self _
  | hands known =>
      rcases List.mem_append.mp member with earlier | last
      · exact sound.handles fence earlier
      · obtain rfl := List.mem_singleton.mp last
        rcases known with rfl | known
        · exact nofun
        · exact sound.handles fence known
  | finishes primitive complete lost =>
      exact (FenceTable.Develops.finish .same primitive _).issued (sound.handles fence member)
  | _ => exact sound.handles fence member

theorem Does.sound (does : handover.Does after) (sound : handover.Sound) : after.Sound where
  held primitive := by
    cases does with
    | issues => exact held_issue sound primitive
    | finishes other complete lost => exact held_finish sound other complete lost primitive
    | _ => exact sound.held primitive
  counted := by
    cases does with
    | issues =>
        simp only [issue, List.length_append, List.length_singleton, FenceTable.size_issue,
          sound.counted]
    | finishes primitive complete lost =>
        simp only [finish, List.length_set, FenceTable.size_finish, sound.counted]
    | _ => exact sound.counted
  handles := handles_does does sound
  waiters waiter member := by
    rcases does.origin member with ⟨known, -⟩ | ⟨earlier, among, same, -⟩
    · exact does.develops.issued (sound.handles waiter.fence known)
    · exact same ▸ does.develops.issued (sound.waiters earlier among)
  results waiter member result told given := by
    rcases does.origin member with ⟨-, fresh⟩ | ⟨earlier, among, same, kept | ended⟩
    · cases fresh.symm.trans told
    · have known := sound.waiters earlier among
      rw [same]
      exact does.develops.wait?_settled known
        (sound.results earlier among result (kept ▸ told) given)
    · have known := sound.waiters earlier among
      exact does.develops.wait?_settled (same ▸ known) (ended result told given)

theorem sound_run {handover : Handover} (sound : handover.Sound) (acts : List Act) :
    (handover.run acts).Sound := by
  induction acts generalizing handover with
  | nil => exact sound
  | cons act rest ih => exact ih ((handover.does_step act).sound sound)

/-- A fence that is pending is completed by a finish, for good. -/
theorem finish_run (sound : handover.Sound) {primitive : Nat}
    (held : handover.signals[primitive]? = some .held) (status : FenceStatus)
    (complete : status ≠ .pending) (state : SignalState) (later : List Act) :
    ((handover.finish primitive status state).run later).table.statusOf primitive = status := by
  have pending := (sound.held primitive).mpr held
  have inside := FenceTable.lt_size_of_pending pending
  have completed : (handover.finish primitive status state).table.statusOf primitive = status := by
    rw [finish, FenceTable.statusOf_finish, if_pos ⟨rfl, pending⟩]
  have known : primitive < (handover.finish primitive status state).table.size := by
    rw [finish, FenceTable.size_finish]
    exact inside
  rw [(develops_run _ later).settled known (by rw [completed]; exact complete), completed]

/-- Fences, signals and waits after any acts, in whatever order the threads take their turns. -/
theorem settles_run (acts : List Act) : Settles acts := by
  have sound := sound_run sound_new acts
  constructor
  case pending => exact sound.held
  case signaled =>
    intro primitive held later
    simp only [step, held]
    exact finish_run sound held .signaled nofun .spent later
  case dropped =>
    intro primitive held later
    simp only [step, held]
    exact finish_run sound held .abandoned nofun .gone later
  case settled =>
    intro fence member complete later
    exact (develops_run _ later).status_settled (sound.handles fence member) complete
  case alike =>
    intro fence _ other _ same
    rw [beq_iff_eq.mp same]
  case tells =>
    intro act place waiter after result found fresh foundLater ended
    exact (does_step _ act).tells found fresh foundLater ended
  case ends =>
    intro place waiter found complete
    simp only [step, List.getElem?_modify_eq, found, Option.map_eq_map, Option.map_some,
      Option.bind_some]
    exact look_isSome complete
  case repeated =>
    intro waiter member other memberOther same first second told toldOther given givenOther
    have waited := sound.results waiter member first told given
    have waitedOther := sound.results other memberOther second toldOther givenOther
    rw [beq_iff_eq.mp same, waitedOther] at waited
    exact (Option.some.inj waited).symm

-- one of two waits for a fence gives up before its signal is given
example : (run {} [.create, .duplicate 0, .wait 0 true, .wait 1 false, .look 0, .look 1,
    .expire 0, .signal 0, .look 1, .drop 0]).waiters.map (·.result)
      = [some (.error .timeout), some (.ok ())] := rfl

end Handover

end Scanout
