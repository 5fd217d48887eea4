import AdsDriver.DriverLock
import AdsDriver.Recovery
import AdsDriver.ServedValues

/-!
# How old a served value gets

Once the library accepts the requests that the scan thread cannot do without, every variable is
asked for again and again.  After a bounded number of sections each read is served the answer to a
request that has been made since, and each subscriber has been given one; only a pending echo, which
may be older, is laid over it.
-/

namespace AdsDriver

open StatusSteps Runs

/-- The scan thread is in no pass over the chunks and publishes nothing. -/
def ScanPoint.AtStart : ScanPoint → Prop
  | .readChunk _ _ | .publish | .publishing _ => False
  | _ => True

/-- How many sections the scan thread with a connection in use runs at most, if none fails, before
it publishes; and how many it does once the names are found. -/
def ScanPoint.passRank (connected : Bool) (chunks : Nat) : ScanPoint → Nat
  | .publish => 0
  | .readChunk index connecting => chunks - index + 1 + if connecting then chunks + 5 else 0
  | .sumRead connecting => chunks + 2 + if connecting then chunks + 5 else 0
  | .readState => chunks + 3
  | .readInfo => chunks + 4
  | .head => if connected then chunks + 5 else 2 * chunks + 7
  | .publishing left => left.length + chunks + 6
  | _ => 2 * chunks + 7

theorem ScanPoint.passRank_le (connected : Bool) (chunks : Nat) (point : ScanPoint) :
    point.passRank connected chunks ≤ 2 * chunks + point.leftToPublish.length + 7 := by
  cases point with
  | readChunk index connecting | sumRead connecting =>
      cases connecting <;> simp [passRank, leftToPublish] <;> omega
  | head =>
      simp only [passRank, leftToPublish]
      split_ifs <;> simp
      omega
  | _ =>
      simp only [passRank, leftToPublish]
      omega

/-- How many chunks of its pass the scan thread has asked for. -/
def ScanPoint.readSince (chunks : Nat) : ScanPoint → Nat
  | .readChunk index _ => min index chunks
  | .publish => chunks
  | _ => 0

theorem ScanPoint.PublishesWithin.length_le {published : Nat} {point : ScanPoint}
    (within : point.PublishesWithin published) : point.leftToPublish.length ≤ published := by
  cases point with
  | publishing left => exact within
  | _ => exact Nat.zero_le _

theorem ScanPoint.AtStart.readSince_eq {point : ScanPoint} (start : point.AtStart) (chunks : Nat) :
    point.readSince chunks = 0 := by
  cases point with
  | readChunk _ _ | publish | publishing _ => exact start.elim
  | _ => rfl

theorem ScanPoint.AtStart.passRank_le {point : ScanPoint} (start : point.AtStart) (connected : Bool)
    (chunks : Nat) : point.passRank connected chunks ≤ 2 * chunks + 7 := by
  have pass_le := point.passRank_le connected chunks
  cases point with
  | readChunk _ _ | publish | publishing _ => exact start.elim
  | _ => exact pass_le

namespace Interleaved

/-- The distance of a state to the next publication. -/
def publishRank (state : Interleaved) : Nat :=
  state.rank + state.scanPoint.passRank state.driver.adsConnection.isConnected
    state.driver.sumRead.getChunks.length

theorem publishRank_le (state : Interleaved) : state.publishRank ≤
    2 * state.driver.sumRead.getChunks.length + state.scanPoint.leftToPublish.length + 18 := by
  have rank_le := state.rank_le
  have pass_le := state.scanPoint.passRank_le state.driver.adsConnection.isConnected
    state.driver.sumRead.getChunks.length
  unfold publishRank
  omega

variable (ads : Ads) (autoparam : Autoparam) (toFloat32 : BitVec 64 → BitVec 32)

/-- From a connection out of use the scan thread gets to no point within a pass. -/
theorem atStart_scan {state : Interleaved} (unused : state.inUse = false) (input : ScanInput) :
    (state.scan ads autoparam input).scanPoint.AtStart := by
  have leads := state.leads_scan ads autoparam input
  unfold inUse at unused
  generalize state.scanPoint = before at unused leads
  generalize (state.scan ads autoparam input).scanPoint = after at leads ⊢
  cases leads with
  | exit => split_ifs <;> trivial
  | started | chunkRead | chunksDone | publish | publishOne => cases unused
  | notConnected _ _ caller | resume caller => cases caller <;> trivial
  | _ => trivial

/-- Out of use the whole way back is ahead. -/
theorem ranks_unused {state : Interleaved} (phase : state.driver.Phase state.scanPoint)
    (unused : state.inUse = false) :
    0 < state.rank ∧ ∀ chunks, state.scanPoint.passRank
      state.driver.adsConnection.isConnected chunks = 2 * chunks + 7 := by
  unfold inUse at unused
  unfold rank
  cases point : state.scanPoint with
  | head =>
      rw [point] at unused
      simp [ScanPoint.rank, ScanPoint.passRank, unused]
  | deinitializeSumRead caller =>
      simp only [ScanPoint.rank, ScanPoint.passRank]
      split_ifs <;> simp
  | exited =>
      rw [point] at phase
      exact phase.elim
  | readInfo | readState | sumRead _ | readChunk _ _ | publish | publishing _ =>
      rw [point] at unused
      cases unused
  | _ => simp [ScanPoint.rank, ScanPoint.passRank]

theorem rank_used {state : Interleaved} (used : state.inUse = true) : state.rank = 0 := by
  unfold inUse at used
  unfold rank
  cases point : state.scanPoint <;> rw [point] at used <;> simp_all [ScanPoint.rank]

theorem passRank_used {state : Interleaved} (used : state.inUse = true) (chunks : Nat) :
    state.scanPoint.passRank state.driver.adsConnection.isConnected chunks =
      state.scanPoint.passRank true chunks := by
  unfold inUse at used
  cases point : state.scanPoint <;> rw [point] at used <;> simp_all [ScanPoint.passRank]

end Interleaved

/-- The point after a section of a connection in use that does not fail. -/
inductive ScanPoint.Next (chunks : Nat) : ScanPoint → ScanPoint → Prop
  | due : Next chunks .head .readInfo
  | notDue : Next chunks .head (.sumRead false)
  | info : Next chunks .readInfo .readState
  | state : Next chunks .readState (.sumRead false)
  | start (connecting : Bool) : Next chunks (.sumRead connecting) (.readChunk 0 connecting)
  | chunk {index : Nat} (more : index < chunks) (connecting : Bool) :
      Next chunks (.readChunk index connecting) (.readChunk (index + 1) connecting)
  | chunksDone {index : Nat} (all : chunks ≤ index) (connecting : Bool) :
      Next chunks (.readChunk index connecting) (.sumReadDone connecting)
  | publish (left : List ADSDeviceVar) : Next chunks .publish (.publishing left)
  | publishOne (adsVar : ADSDeviceVar) (left : List ADSDeviceVar) :
      Next chunks (.publishing (adsVar :: left)) (.publishing left)
  | published : Next chunks (.publishing []) .head

/-- Every section but the one that begins to publish brings the next publication nearer. -/
theorem ScanPoint.Next.passRank {chunks : Nat} {before after : ScanPoint}
    (next : Next chunks before after) (elsewhere : before ≠ .publish) :
    after.passRank true chunks + 1 ≤ before.passRank true chunks := by
  cases next with
  | start connecting =>
      simp only [ScanPoint.passRank, Nat.sub_zero]
      omega
  | chunk more connecting =>
      simp only [ScanPoint.passRank]
      omega
  | chunksDone all connecting =>
      cases connecting with
      | false => simp [ScanPoint.passRank, ScanPoint.sumReadDone]
      | true =>
          simp only [ScanPoint.passRank, ScanPoint.sumReadDone, if_true]
          omega
  | publish left => exact absurd rfl elsewhere
  | publishOne adsVar left =>
      simp only [ScanPoint.passRank, List.length_cons]
      omega
  | _ => simp [ScanPoint.passRank]

theorem ScanPoint.Next.readSince {chunks : Nat} {before after : ScanPoint}
    (next : Next chunks before after) :
    after.readSince chunks ≤ before.readSince chunks ∨
      ∃ index connecting, before = .readChunk index connecting ∧ index < chunks ∧
        after.readSince chunks ≤ before.readSince chunks + 1 := by
  cases next with
  | chunk more connecting =>
      refine .inr ⟨_, connecting, rfl, more, ?_⟩
      simp only [ScanPoint.readSince]
      omega
  | chunksDone all connecting =>
      left
      cases connecting <;> simp [ScanPoint.readSince, ScanPoint.sumReadDone, all]
  | _ => exact .inl (by simp [ScanPoint.readSince])

theorem ScanPoint.Next.leftToPublish {chunks : Nat} {before after : ScanPoint}
    (next : Next chunks before after) (elsewhere : before ≠ .publish) :
    after.leftToPublish = before.leftToPublish.tail := by
  cases next with
  | publish left => exact absurd rfl elsewhere
  | chunksDone all connecting => cases connecting <;> rfl
  | _ => rfl

theorem ScanPoint.Next.firstPass {chunks : Nat} {before after : ScanPoint}
    (next : Next chunks before after) (settled : before.firstPass = false) :
    after.firstPass = false := by
  cases next with
  | start connecting => exact settled
  | chunk more connecting => exact settled
  | chunksDone all connecting => cases connecting <;> rfl
  | _ => rfl

namespace Interleaved

variable (ads : Ads) (autoparam : Autoparam) (toFloat32 : BitVec 64 → BitVec 32)

/-- With a library that accepts requests a connection in use goes on. -/
theorem next_scan {state : Interleaved} (phase : state.driver.Phase state.scanPoint)
    (accepts : AcceptsNeeded ads state.driver.trace) (used : state.inUse = true)
    (input : ScanInput) :
    (state.scan ads autoparam input).inUse = true ∧
      state.scanPoint.Next state.driver.sumRead.getChunks.length
        (state.scan ads autoparam input).scanPoint := by
  unfold inUse at used ⊢
  rcases scan_cases ads autoparam phase input with
    ⟨step, succeeded, caller, attempt, scan_eq⟩ | ⟨after, next, passage, scan_eq⟩
  · rw [scan_eq, tryThen, if_pos (attempt.accepted accepts)]
    generalize state.scanPoint = point at attempt used ⊢
    cases attempt with
    | readInfo => exact ⟨rfl, .info⟩
    | readState => exact ⟨rfl, .state⟩
    | sumRead up connecting => exact ⟨rfl, .start connecting⟩
    | readChunk up inside connecting => exact ⟨rfl, .chunk inside connecting⟩
    | _ => cases used
  · rw [scan_eq, doThen]
    generalize state.scanPoint = point at passage used ⊢
    cases passage with
    | scan =>
        cases input.due with
        | true => exact ⟨rfl, .due⟩
        | false => exact ⟨rfl, .notDue⟩
    | reconnect down => exact absurd (down.closed.symm.trans used) Bool.false_ne_true
    | sumReadDone up all connecting =>
        refine ⟨?_, .chunksDone all connecting⟩
        cases connecting with
        | true => exact up.opened
        | false => rfl
    | publish => exact ⟨rfl, .publish _⟩
    | publishVariable up adsVar left => exact ⟨rfl, .publishOne adsVar left⟩
    | published up => exact ⟨up.opened, .published⟩
    | _ => cases used

/-- With a library that accepts requests a section brings the next publication nearer. -/
theorem publishRank_scan {state : Interleaved} (phase : state.driver.Phase state.scanPoint)
    (accepts : AcceptsNeeded ads state.driver.trace) (elsewhere : state.scanPoint ≠ .publish)
    (input : ScanInput) :
    (state.scan ads autoparam input).publishRank + 1 ≤ state.publishRank := by
  have same_chunks := (state.keeps_scan ads autoparam input).length_getChunks
  unfold publishRank
  rw [same_chunks]
  cases used : state.inUse with
  | false =>
      have shorter := rank_scan ads autoparam phase accepts input
      obtain ⟨rank_pos, pass_eq⟩ := ranks_unused phase used
      have pass_le := (atStart_scan ads autoparam used input).passRank_le
        (state.scan ads autoparam input).driver.adsConnection.isConnected
        state.driver.sumRead.getChunks.length
      rw [pass_eq]
      omega
  | true =>
      obtain ⟨still_used, next⟩ := next_scan ads autoparam phase accepts used input
      rw [rank_used used, rank_used still_used, passRank_used used, passRank_used still_used,
        Nat.zero_add, Nat.zero_add]
      exact next.passRank elsewhere

/-- How many chunks have been asked for. -/
def reads (state : Interleaved) : Nat := state.driver.trace.countP AdsEvent.readsChunk

theorem reads_mono (state : Interleaved) (input : ScanInput) :
    state.reads ≤ (state.scan ads autoparam input).reads :=
  (state.prefix_scan ads autoparam input).sublist.countP_le

theorem reads_scan {state : Interleaved} (phase : state.driver.Phase state.scanPoint)
    (accepts : AcceptsNeeded ads state.driver.trace) (used : state.inUse = true)
    (input : ScanInput) :
    state.reads + (state.scan ads autoparam input).scanPoint.readSince
        state.driver.sumRead.getChunks.length ≤
      (state.scan ads autoparam input).reads + state.scanPoint.readSince
        state.driver.sumRead.getChunks.length := by
  have mono := reads_mono ads autoparam state input
  rcases (next_scan ads autoparam phase accepts used input).2.readSince with
    same | ⟨index, connecting, point, more, one⟩
  · omega
  · have up := up_of_inUse phase used
    obtain ⟨trace_eq, -⟩ := ADSPortDriver.readChunk_asked ads up.stored
      (List.getElem?_eq_getElem more)
    have asked : (state.scan ads autoparam input).reads = state.reads + 1 := by
      simp only [reads, scan, point, if_pos more, tryThen, trace_eq, List.countP_append]
      rfl
    omega

/-- The first pass is over, and so many chunks have been asked for in all. -/
structure Refreshed (count : Nat) (state : Interleaved) : Prop where
  used : state.inUse = true
  settled : state.scanPoint.firstPass = false
  enough : count ≤ state.reads

theorem Refreshed.scan {count : Nat} {state : Interleaved} (refreshed : state.Refreshed count)
    (phase : state.driver.Phase state.scanPoint) (accepts : AcceptsNeeded ads state.driver.trace)
    (input : ScanInput) : (state.scan ads autoparam input).Refreshed count := by
  obtain ⟨used, next⟩ := next_scan ads autoparam phase accepts refreshed.used input
  exact ⟨used, next.firstPass refreshed.settled,
    refreshed.enough.trans (reads_mono ads autoparam state input)⟩

/-- The distance to a whole pass that has begun after a number of requests for chunks: to the next
publication and, if the present pass has begun before, over another pass. -/
def staleRank (floor published : Nat) (state : Interleaved) : Nat :=
  state.publishRank +
    if floor + state.scanPoint.readSince state.driver.sumRead.getChunks.length ≤ state.reads then 0
    else state.driver.sumRead.getChunks.length + published + 8

theorem staleRank_pos {floor published : Nat} {state : Interleaved}
    (stale : ¬ state.Refreshed (floor + state.driver.sumRead.getChunks.length)) :
    0 < state.staleRank floor published := by
  refine Nat.pos_of_ne_zero fun zero => stale ?_
  unfold staleRank publishRank at zero
  have arrived : state.scanPoint = .publish := by
    cases point : state.scanPoint with
    | publish => rfl
    | head =>
        rw [point] at zero
        simp only [ScanPoint.passRank] at zero
        split_ifs at zero <;> omega
    | _ => simp [point, ScanPoint.passRank] at zero
  have whole : floor + state.scanPoint.readSince state.driver.sumRead.getChunks.length ≤
      state.reads := by
    by_contra part
    rw [if_neg part] at zero
    omega
  rw [arrived] at whole
  exact ⟨by simp [inUse, arrived], by simp [ScanPoint.firstPass, arrived], whole⟩

/-- A section brings a whole new pass nearer. -/
theorem staleRank_scan {floor published : Nat} {state : Interleaved}
    (phase : state.driver.Phase state.scanPoint) (accepts : AcceptsNeeded ads state.driver.trace)
    (since : floor ≤ state.reads)
    (stale : ¬ state.Refreshed (floor + state.driver.sumRead.getChunks.length)) {input : ScanInput}
    (few : input.interrupts.length ≤ published) :
    (state.scan ads autoparam input).staleRank floor published + 1 ≤
      state.staleRank floor published := by
  have same_chunks := (state.keeps_scan ads autoparam input).length_getChunks
  have mono := reads_mono ads autoparam state input
  unfold staleRank
  rw [same_chunks]
  by_cases publishing : state.scanPoint = .publish
  · -- the pass that is published has begun too early
    have part : ¬ floor + state.scanPoint.readSince state.driver.sumRead.getChunks.length ≤
        state.reads := by
      rw [publishing]
      exact fun whole =>
        stale ⟨by simp [inUse, publishing], by simp [ScanPoint.firstPass, publishing], whole⟩
    have left_le : (state.driver.getInterruptVariables input.interrupts).length ≤ published :=
      (List.length_filterMap_le _ _).trans few
    have begun : (state.scan ads autoparam input).publishRank =
        (state.driver.getInterruptVariables input.interrupts).length +
          state.driver.sumRead.getChunks.length + 6 := by
      simp [scan, publishing, goTo, publishRank, rank, ScanPoint.rank, ScanPoint.passRank]
    have whole : floor + (state.scan ads autoparam input).scanPoint.readSince
        state.driver.sumRead.getChunks.length ≤ (state.scan ads autoparam input).reads := by
      simp only [scan, publishing, goTo]
      exact since
    rw [begun, if_neg part, if_pos whole]
    omega
  · have nearer := publishRank_scan ads autoparam phase accepts publishing input
    have still (so_far : floor + state.scanPoint.readSince state.driver.sumRead.getChunks.length ≤
        state.reads) : floor + (state.scan ads autoparam input).scanPoint.readSince
          state.driver.sumRead.getChunks.length ≤ (state.scan ads autoparam input).reads := by
      cases used : state.inUse with
      | false =>
          rw [(atStart_scan ads autoparam used input).readSince_eq]
          omega
      | true =>
          have asked := reads_scan ads autoparam phase accepts used input
          omega
    split_ifs with after before before
    · omega
    · omega
    · exact absurd (still before) after
    · omega

/-- What a run meets that ends with answers to new requests: a scan thread in a known phase, and a
library that accepts what is needed. -/
structure Accepted (ads : Ads) (floor chunks : Nat) (state : Interleaved) : Prop where
  phase : state.driver.Phase state.scanPoint
  accepts : AcceptsNeeded ads state.driver.trace
  since : floor ≤ state.reads
  chunks_eq : state.driver.sumRead.getChunks.length = chunks

theorem Accepted.step {floor chunks : Nat} {state : Interleaved}
    (accepted : state.Accepted ads floor chunks) {taken : ThreadStep}
    (not_shutDown : taken ≠ .shutDown) :
    (state.step ads autoparam toFloat32 taken).Accepted ads floor chunks := by
  obtain ⟨events, trace_eq⟩ := state.prefix_step ads autoparam toFloat32 taken
  refine ⟨phase_step ads autoparam toFloat32 accepted.phase not_shutDown,
    trace_eq ▸ accepted.accepts.append events, ?_, ?_⟩
  · rw [reads, ← trace_eq, List.countP_append]
    exact accepted.since.trans (Nat.le_add_right _ _)
  · rw [(state.keeps_step ads autoparam toFloat32 taken).length_getChunks]
    exact accepted.chunks_eq

theorem Accepted.run {floor chunks : Nat} {state : Interleaved}
    (accepted : state.Accepted ads floor chunks) {taken : List ThreadStep}
    (no_shutDown : .shutDown ∉ taken) :
    (Runs.run (Interleaved.step ads autoparam toFloat32) state taken).Accepted ads floor
      chunks := by
  have each : EachMeets (Interleaved.step ads autoparam toFloat32)
      (fun _ taken => taken ≠ .shutDown) state taken := by
    rintro front last reached rfl
    exact no_shutDown (reached.subset (by simp))
  exact run_induction (Accepted ads floor chunks)
    (fun _ _ accepted not_shutDown => accepted.step ads autoparam toFloat32 not_shutDown)
    accepted each

theorem beside_refreshed {state : Interleaved} {taken : ThreadStep} (handler : taken.scans = false)
    (not_shutDown : taken ≠ .shutDown) {count : Nat} (refreshed : state.Refreshed count) :
    (state.step ads autoparam toFloat32 taken).Refreshed count := by
  obtain ⟨point_eq, beside⟩ := state.beside_step ads autoparam toFloat32 handler not_shutDown
  refine ⟨?_, by rw [point_eq]; exact refreshed.settled, refreshed.enough.trans
    (state.prefix_step ads autoparam toFloat32 taken).sublist.countP_le⟩
  simpa only [inUse, point_eq, beside.connection_eq] using refreshed.used

theorem Refreshed.step {floor chunks count : Nat} {state : Interleaved}
    (refreshed : state.Refreshed count) (accepted : state.Accepted ads floor chunks)
    {taken : ThreadStep} (not_shutDown : taken ≠ .shutDown) :
    (state.step ads autoparam toFloat32 taken).Refreshed count := by
  cases handler : taken.scans with
  | false => exact beside_refreshed ads autoparam toFloat32 handler not_shutDown refreshed
  | true =>
      cases taken with
      | scan input => exact refreshed.scan ads autoparam accepted.phase accepted.accepts input
      | _ => cases handler

theorem Refreshed.run {floor chunks count published : Nat} {state : Interleaved}
    (refreshed : state.Refreshed count) (accepted : state.Accepted ads floor chunks)
    {taken : List ThreadStep} (each : EachMeets (Interleaved.step ads autoparam toFloat32)
      (fun _ taken => taken ≠ .shutDown ∧ taken.PublishesWithin published) state taken) :
    (Runs.run (Interleaved.step ads autoparam toFloat32) state taken).Refreshed count :=
  (run_induction (fun state => Accepted ads floor chunks state ∧ state.Refreshed count)
    (fun _ _ ⟨accepted, refreshed⟩ kept =>
      ⟨accepted.step ads autoparam toFloat32 kept.1,
        Refreshed.step ads autoparam toFloat32 refreshed accepted kept.1⟩)
    ⟨accepted, refreshed⟩ each).2

theorem staleRank_beside {floor published : Nat} {state : Interleaved} {taken : ThreadStep}
    (handler : taken.scans = false) (not_shutDown : taken ≠ .shutDown) :
    (state.step ads autoparam toFloat32 taken).staleRank floor published ≤
      state.staleRank floor published := by
  obtain ⟨point_eq, beside⟩ := state.beside_step ads autoparam toFloat32 handler not_shutDown
  have mono : state.reads ≤ (state.step ads autoparam toFloat32 taken).reads :=
    (state.prefix_step ads autoparam toFloat32 taken).sublist.countP_le
  simp only [staleRank, publishRank, rank, point_eq, beside.connection_eq, beside.sumRead_eq]
  split_ifs <;> omega

/-- A run with enough sections ends with answers to new requests. -/
theorem refreshed_run {floor chunks published : Nat} {state : Interleaved}
    (accepted : state.Accepted ads floor chunks) {taken : List ThreadStep}
    (each : EachMeets (step ads autoparam toFloat32)
      (fun _ taken => taken ≠ .shutDown ∧ taken.PublishesWithin published) state taken)
    (enough : state.staleRank floor published ≤ taken.countP ThreadStep.scans) :
    (run (step ads autoparam toFloat32) state taken).Refreshed (floor + chunks) := by
  by_cases already : state.Refreshed (floor + chunks)
  · exact Refreshed.run ads autoparam toFloat32 already accepted each
  obtain ⟨front, ⟨rest, rfl⟩, accepted_front, refreshed⟩ : ∃ front, front <+: taken ∧
      Accepted ads floor chunks (run (step ads autoparam toFloat32) state front) ∧
      (run (step ads autoparam toFloat32) state front).Refreshed (floor + chunks) := by
    refine arrives_run
      (fun state => Accepted ads floor chunks state ∧ ¬ state.Refreshed (floor + chunks))
      (fun state => Accepted ads floor chunks state ∧ state.Refreshed (floor + chunks))
      (staleRank floor published) ThreadStep.scans ?far ?nearer ⟨accepted, already⟩ each enough
    case far =>
      rintro state ⟨accepted, stale⟩
      exact staleRank_pos (accepted.chunks_eq ▸ stale)
    case nearer =>
      rintro state taken ⟨accepted, stale⟩ ⟨not_shutDown, few⟩
      have after := accepted.step ads autoparam toFloat32 not_shutDown
      by_cases there : (state.step ads autoparam toFloat32 taken).Refreshed (floor + chunks)
      · exact .inl ⟨after, there⟩
      refine .inr ⟨⟨after, there⟩, ?_⟩
      cases taken with
      | scan input =>
          exact staleRank_scan ads autoparam accepted.phase accepted.accepts accepted.since
            (accepted.chunks_eq ▸ stale) few
      | _ => exact staleRank_beside ads autoparam toFloat32 rfl not_shutDown
  rw [run_append]
  exact Refreshed.run ads autoparam toFloat32 refreshed accepted_front (eachMeets_append.mp each).2

theorem prefix_run (state : Interleaved) (taken : List ThreadStep) :
    state.driver.trace <+: (run (step ads autoparam toFloat32) state taken).driver.trace :=
  run_invariant (fun after : Interleaved => state.driver.trace <+: after.driver.trace)
    (fun after taken earlier => earlier.trans (after.prefix_step ads autoparam toFloat32 taken))
    List.prefix_rfl taken

theorem event_added {first added earlier later : Trace} {event : AdsEvent}
    (split : first ++ added = earlier ++ event :: later)
    (fewer : later.countP AdsEvent.readsChunk < added.countP AdsEvent.readsChunk) :
    ∃ between, earlier = first ++ between := by
  rcases List.append_eq_append_iff.mp split with
    ⟨between, earlier_eq, _⟩ | ⟨tail, first_eq, later_eq⟩
  · exact ⟨between, earlier_eq⟩
  · cases tail with
    | nil => exact ⟨[], by simpa using first_eq.symm⟩
    | cons head tail =>
        obtain ⟨-, rfl⟩ : event = head ∧ later = tail ++ added := by simpa using later_eq
        rw [List.countP_append] at fewer
        omega

/-- With a whole pass of requests since some point of a run, reads of a variable are served the
answer to one of them. -/
theorem Refreshed.served {reached state : Interleaved} {later : List ThreadStep}
    (there : Runs.run (Interleaved.step ads autoparam toFloat32) reached later = state)
    (turning : state.Turning) (phase : state.driver.Phase state.scanPoint)
    (refreshed : state.Refreshed (reached.reads + reached.driver.sumRead.getChunks.length))
    {var : VarId} (listed : var ∈ state.driver.adsReadVars) :
    ∃ between event rest,
      state.driver.trace = (reached.driver.trace ++ between) ++ event :: rest ∧
        state.driver.Serves event var := by
  obtain ⟨added, trace_eq⟩ := reached.prefix_run ads autoparam toFloat32 later
  have same_chunks := (reached.keeps_run ads autoparam toFloat32 later).length_getChunks
  rw [there] at trace_eq same_chunks
  obtain ⟨earlier, event, rest, split, -, fewer, serves⟩ :=
    turning.served phase refreshed.used refreshed.settled listed
  have asked := refreshed.enough
  rw [reads, reads, ← trace_eq, List.countP_append] at asked
  rw [← List.countP_eq_length_filter, same_chunks] at fewer
  obtain ⟨between, rfl⟩ := event_added (trace_eq.trans split) (by omega)
  exact ⟨between, event, rest, split, serves⟩

theorem staleRank_le (state : Interleaved) (floor published : Nat) :
    state.staleRank floor published ≤ 3 * state.driver.sumRead.getChunks.length +
      state.scanPoint.leftToPublish.length + published + 26 := by
  have rank_le := state.publishRank_le
  unfold staleRank
  split_ifs <;> omega

/-- Served values do not grow old: when the library accepts the requests that are needed from some
point of a run on, then after enough sections of the scan thread, whatever record handlers do in
between, reads of a variable are served the answer to a request that was made since, apart from a
pending echo. -/
theorem refreshes_within {ipAddr : Str} {amsNetId : AmsNetId}
    {sumBufferSize deviceReadAdsPort : UInt16} {heap : Heap} {driver : ADSPortDriver}
    (constructed : ADSPortDriver.new ipAddr amsNetId sumBufferSize deviceReadAdsPort heap =
      some driver) (links : List RecordLink) (interrupts : List Nat)
    (hooked : (start driver links interrupts).driver.initialized = true)
    {before later : List ThreadStep} (no_shutDown : .shutDown ∉ before ++ later)
    {reached state : Interleaved}
    (here : run (step ads autoparam toFloat32) (start driver links interrupts) before = reached)
    (there : run (step ads autoparam toFloat32) reached later = state)
    (accepts : AcceptsNeeded ads reached.driver.trace) {published : Nat}
    (few : ∀ taken ∈ later, taken.PublishesWithin published)
    (enough : 3 * reached.driver.sumRead.getChunks.length +
      reached.scanPoint.leftToPublish.length + published + 26 ≤ later.countP ThreadStep.scans)
    {var : VarId} (listed : var ∈ state.driver.adsReadVars) :
    ∃ between event rest,
      state.driver.trace = (reached.driver.trace ++ between) ++ event :: rest ∧
        state.driver.Serves event var := by
  have started := phase_start constructed links interrupts hooked
  have whole : run (step ads autoparam toFloat32) (start driver links interrupts)
      (before ++ later) = state := by
    rw [run_append, here, there]
  have turning := turning_run ads autoparam toFloat32 (turning_start constructed links interrupts)
    started no_shutDown
  have phase := phase_run ads autoparam toFloat32 started no_shutDown
  rw [whole] at turning phase
  rw [List.mem_append, not_or] at no_shutDown
  have phase_here := phase_run ads autoparam toFloat32 started no_shutDown.1
  rw [here] at phase_here
  have each : EachMeets (step ads autoparam toFloat32)
      (fun _ taken => taken ≠ .shutDown ∧ taken.PublishesWithin published) reached later := by
    intro front taken within
    have member : taken ∈ later := within.subset (by simp)
    exact ⟨fun same => no_shutDown.2 (same ▸ member), few taken member⟩
  have refreshed := refreshed_run ads autoparam toFloat32 ⟨phase_here, accepts, le_rfl, rfl⟩ each
    ((reached.staleRank_le _ _).trans enough)
  rw [there] at refreshed
  exact Refreshed.served ads autoparam toFloat32 there turning phase refreshed listed

/-- The sample driver after three failures to connect. -/
def lostState : Interleaved :=
  run (step lateAds .sample fun _ => 0)
    (start ADSPortDriver.sampleDriver ADSPortDriver.sampleLinks [0, 2])
    (List.replicate 9 (.scan ADSPortDriver.sampleInput))

/-- The sample driver after forty sections more. -/
def refreshedState : Interleaved :=
  run (step lateAds .sample fun _ => 0) lostState
    (List.replicate 40 (.scan ADSPortDriver.sampleInput))

theorem refreshes_within_sample :
    ∃ between event rest,
      refreshedState.driver.trace = (lostState.driver.trace ++ between) ++ event :: rest ∧
        refreshedState.driver.Serves event 0 := by
  have few : ∀ taken ∈ List.replicate 40 (ThreadStep.scan ADSPortDriver.sampleInput),
      taken.PublishesWithin 2 := by
    intro taken member
    rw [List.eq_of_mem_replicate member]
    exact le_refl 2
  exact refreshes_within lateAds .sample (fun _ => 0)
    (rfl : ADSPortDriver.new _ [10, 0, 0, 1, 1, 1] 2 851 ⟨SumReadRequest.sampleVars, []⟩ =
      some ADSPortDriver.sampleDriver) ADSPortDriver.sampleLinks [0, 2] (by decide) (by simp)
    (rfl : _ = lostState) (rfl : _ = refreshedState) (lateAds_accepts (by decide)) few
    (by decide) (by decide)

/-- A variable is among those that a step of the scan thread would publish. -/
def Chooses (adsVar : ADSDeviceVar) (state : Interleaved) : ThreadStep → Prop
  | .scan input => adsVar ∈ state.driver.getInterruptVariables input.interrupts
  | _ => True

theorem Chooses.of_keeps {adsVar : ADSDeviceVar} {before after : Interleaved} {taken : ThreadStep}
    (chosen : before.Chooses adsVar taken) (same : before.driver.Keeps after.driver) :
    after.Chooses adsVar taken := by
  cases taken with
  | scan input =>
      simpa only [Chooses, ADSPortDriver.getInterruptVariables, same.deviceVariables_eq]
        using chosen
  | _ => trivial

/-- The distance to the publication of a variable that each pass publishes. -/
def subscriberRank (adsVar : ADSDeviceVar) (published : Nat) (state : Interleaved) : Nat :=
  if adsVar ∈ state.scanPoint.leftToPublish then state.scanPoint.leftToPublish.length
  else state.publishRank + published + 1

/-- The scan thread is about to publish a variable. -/
def PublishesNext (adsVar : ADSDeviceVar) (state : Interleaved) : Prop :=
  ∃ left, state.scanPoint = .publishing (adsVar :: left)

theorem publishesNext_of_left {adsVar : ADSDeviceVar} {state : Interleaved}
    {left : List ADSDeviceVar} (first : state.scanPoint.leftToPublish = adsVar :: left) :
    state.PublishesNext adsVar := by
  cases point : state.scanPoint with
  | publishing all =>
      rw [point] at first
      exact ⟨left, by rw [point, ← first]; rfl⟩
  | _ =>
      rw [point] at first
      cases first

theorem subscriberRank_le {published : Nat} {state : Interleaved}
    (within : state.scanPoint.PublishesWithin published) (adsVar : ADSDeviceVar) :
    state.subscriberRank adsVar published ≤
      2 * state.driver.sumRead.getChunks.length + 2 * published + 19 := by
  have rank_le := state.publishRank_le
  have left_le := within.length_le
  unfold subscriberRank
  split_ifs <;> omega

theorem subscriberRank_pos {adsVar : ADSDeviceVar} {published : Nat} {state : Interleaved} :
    0 < state.subscriberRank adsVar published := by
  unfold subscriberRank
  split_ifs with listed
  · exact List.length_pos_of_mem listed
  · omega

/-- A section brings the publication of a variable nearer that is not published by it. -/
theorem subscriberRank_scan {adsVar : ADSDeviceVar} {published : Nat} {state : Interleaved}
    (phase : state.driver.Phase state.scanPoint) (accepts : AcceptsNeeded ads state.driver.trace)
    (used : state.inUse = true) (not_next : ¬ state.PublishesNext adsVar) {input : ScanInput}
    (few : input.interrupts.length ≤ published)
    (chosen : adsVar ∈ state.driver.getInterruptVariables input.interrupts) :
    (state.scan ads autoparam input).subscriberRank adsVar published + 1 ≤
      state.subscriberRank adsVar published := by
  unfold subscriberRank
  by_cases publishing : state.scanPoint = .publish
  · have left_le : (state.driver.getInterruptVariables input.interrupts).length ≤ published :=
      (List.length_filterMap_le _ _).trans few
    have left_eq : (state.scan ads autoparam input).scanPoint.leftToPublish =
        state.driver.getInterruptVariables input.interrupts := by
      simp [scan, publishing, goTo, ScanPoint.leftToPublish]
    rw [left_eq, if_pos chosen, publishing, if_neg (by simp [ScanPoint.leftToPublish])]
    omega
  · have nearer := publishRank_scan ads autoparam phase accepts publishing input
    have left_eq := (next_scan ads autoparam phase accepts used input).2.leftToPublish publishing
    rw [left_eq]
    cases left : state.scanPoint.leftToPublish with
    | nil =>
        simp only [List.tail_nil, List.not_mem_nil, if_false]
        omega
    | cons other rest =>
        have distinct : adsVar ≠ other := by
          rintro rfl
          exact not_next (publishesNext_of_left left)
        rw [List.tail_cons, List.length_cons]
        by_cases listed : adsVar ∈ rest
        · rw [if_pos listed, if_pos (List.mem_cons_of_mem other listed)]
        · rw [if_neg listed, if_neg (by simp [distinct, listed])]
          omega

theorem subscriberRank_beside {adsVar : ADSDeviceVar} {published : Nat} {state : Interleaved}
    {taken : ThreadStep} (handler : taken.scans = false) (not_shutDown : taken ≠ .shutDown) :
    (state.step ads autoparam toFloat32 taken).subscriberRank adsVar published =
      state.subscriberRank adsVar published := by
  obtain ⟨point_eq, beside⟩ := state.beside_step ads autoparam toFloat32 handler not_shutDown
  simp only [subscriberRank, publishRank, rank, point_eq, beside.connection_eq, beside.sumRead_eq]

/-- A run with enough sections comes to a variable that each pass publishes. -/
theorem publishesNext_run {adsVar : ADSDeviceVar} {floor chunks count published : Nat}
    {state : Interleaved} (accepted : state.Accepted ads floor chunks)
    (refreshed : state.Refreshed count) {taken : List ThreadStep}
    (each : EachMeets (step ads autoparam toFloat32)
      (fun state taken => taken ≠ .shutDown ∧ taken.PublishesWithin published ∧
        state.Chooses adsVar taken) state taken)
    (enough : state.subscriberRank adsVar published ≤ taken.countP ThreadStep.scans) :
    ∃ front, front <+: taken ∧
      (run (step ads autoparam toFloat32) state front).Refreshed count ∧
      (run (step ads autoparam toFloat32) state front).PublishesNext adsVar := by
  by_cases already : state.PublishesNext adsVar
  · exact ⟨[], List.nil_prefix, refreshed, already⟩
  refine arrives_run (fun state => Accepted ads floor chunks state ∧ state.Refreshed count ∧
      ¬ state.PublishesNext adsVar)
    (fun state => state.Refreshed count ∧ state.PublishesNext adsVar)
    (subscriberRank adsVar published) ThreadStep.scans (fun _ _ => subscriberRank_pos) ?_
    ⟨accepted, refreshed, already⟩ each enough
  rintro state taken ⟨accepted, refreshed, not_next⟩ ⟨not_shutDown, few, chosen⟩
  have after := accepted.step ads autoparam toFloat32 not_shutDown
  have still := refreshed.step ads autoparam toFloat32 accepted not_shutDown
  by_cases there : (state.step ads autoparam toFloat32 taken).PublishesNext adsVar
  · exact .inl ⟨still, there⟩
  refine .inr ⟨⟨after, still, there⟩, ?_⟩
  cases taken with
  | scan input =>
      exact subscriberRank_scan ads autoparam accepted.phase accepted.accepts refreshed.used
        not_next few chosen
  | _ => exact (subscriberRank_beside ads autoparam toFloat32 rfl not_shutDown).le

/-- No subscriber is starved: when the library accepts the requests that are needed from some point
of a run on, and the framework chooses a variable whenever the scan thread publishes, then within
enough sections the scan thread comes to publish the variable, and what a read is served then is the
answer to a request that was made since, apart from a pending echo. -/
theorem publishes_within {ipAddr : Str} {amsNetId : AmsNetId}
    {sumBufferSize deviceReadAdsPort : UInt16} {heap : Heap} {driver : ADSPortDriver}
    (constructed : ADSPortDriver.new ipAddr amsNetId sumBufferSize deviceReadAdsPort heap =
      some driver) (links : List RecordLink) (interrupts : List Nat)
    (hooked : (start driver links interrupts).driver.initialized = true)
    {before later : List ThreadStep} (no_shutDown : .shutDown ∉ before ++ later)
    {reached : Interleaved}
    (here : run (step ads autoparam toFloat32) (start driver links interrupts) before = reached)
    (accepts : AcceptsNeeded ads reached.driver.trace) {published : Nat}
    (within : reached.scanPoint.PublishesWithin published)
    (few : ∀ taken ∈ later, taken.PublishesWithin published) {adsVar : ADSDeviceVar}
    (chosen : ∀ taken ∈ later, reached.Chooses adsVar taken)
    (listed : adsVar.adsPV ∈ reached.driver.adsReadVars)
    (enough : 5 * reached.driver.sumRead.getChunks.length + 4 * published + 45 ≤
      later.countP ThreadStep.scans) :
    ∃ front, front <+: later ∧ ∃ state,
      run (step ads autoparam toFloat32) reached front = state ∧ state.PublishesNext adsVar ∧
        ∃ between event rest,
          state.driver.trace = (reached.driver.trace ++ between) ++ event :: rest ∧
            state.driver.Serves event adsVar.adsPV := by
  have started := phase_start constructed links interrupts hooked
  have turning := turning_start constructed links interrupts
  rw [List.mem_append, not_or] at no_shutDown
  have turning_here := turning_run ads autoparam toFloat32 turning started no_shutDown.1
  have phase_here := phase_run ads autoparam toFloat32 started no_shutDown.1
  rw [here] at turning_here phase_here
  have each : EachMeets (step ads autoparam toFloat32)
      (fun state taken => taken ≠ .shutDown ∧ taken.PublishesWithin published ∧
        state.Chooses adsVar taken) reached later := by
    intro front taken within
    have member : taken ∈ later := within.subset (by simp)
    have kept := reached.keeps_run ads autoparam toFloat32 front
    exact ⟨fun same => no_shutDown.2 (same ▸ member), few taken member,
      (chosen taken member).of_keeps kept⟩
  -- the first part of the run ends with a whole pass of new requests, the second with the variable
  have shares : (3 * reached.driver.sumRead.getChunks.length + 2 * published + 26) +
      (2 * reached.driver.sumRead.getChunks.length + 2 * published + 19) ≤
        later.countP ThreadStep.scans := by
    omega
  obtain ⟨first, second, rfl, first_enough, second_enough⟩ :=
    split_countP ThreadStep.scans _ shares
  obtain ⟨each_first, each_second⟩ := eachMeets_append.mp each
  rw [List.mem_append, not_or] at no_shutDown
  have accepted : reached.Accepted ads reached.reads reached.driver.sumRead.getChunks.length :=
    ⟨phase_here, accepts, le_rfl, rfl⟩
  have left_le := within.length_le
  have refreshed := refreshed_run ads autoparam toFloat32 accepted
    (fun front taken reached => (each_first front taken reached).imp_right And.left)
    ((reached.staleRank_le _ _).trans (by omega) |>.trans first_enough)
  have accepted_middle := accepted.run ads autoparam toFloat32 no_shutDown.2.1
  have within_middle := publishesWithin_run ads autoparam toFloat32 within
    fun one member => few one (List.mem_append_left _ member)
  obtain ⟨front, front_of, refreshed_front, next⟩ := publishesNext_run ads autoparam toFloat32
    accepted_middle refreshed each_second
    ((subscriberRank_le within_middle adsVar).trans
      (accepted_middle.chunks_eq ▸ second_enough))
  have none_in_front : ThreadStep.shutDown ∉ first ++ front := by
    rw [List.mem_append, not_or]
    exact ⟨no_shutDown.2.1, fun member => no_shutDown.2.2 (front_of.subset member)⟩
  rw [← run_append] at refreshed_front next
  have turning_front := turning_run ads autoparam toFloat32 turning_here phase_here none_in_front
  have phase_front := phase_run ads autoparam toFloat32 phase_here none_in_front
  have kept := reached.keeps_run ads autoparam toFloat32 (first ++ front)
  exact ⟨first ++ front, (List.prefix_append_right_inj first).mpr front_of, _, rfl, next,
    Refreshed.served ads autoparam toFloat32 rfl turning_front phase_front refreshed_front
      (kept.readVars_eq ▸ listed)⟩

/-- After three failures to connect the sample driver publishes the first variable. -/
theorem publishes_within_sample :
    ∃ front, front <+: List.replicate 70 (.scan ADSPortDriver.sampleInput) ∧ ∃ state,
      run (step lateAds .sample fun _ => 0) lostState front = state ∧
        state.PublishesNext ⟨"INT".toList, 0⟩ ∧
        ∃ between event rest,
          state.driver.trace = (lostState.driver.trace ++ between) ++ event :: rest ∧
            state.driver.Serves event 0 := by
  have few : ∀ taken ∈ List.replicate 70 (ThreadStep.scan ADSPortDriver.sampleInput),
      taken.PublishesWithin 2 := by
    intro taken member
    rw [List.eq_of_mem_replicate member]
    exact le_refl 2
  have chosen : ∀ taken ∈ List.replicate 70 (ThreadStep.scan ADSPortDriver.sampleInput),
      lostState.Chooses ⟨"INT".toList, 0⟩ taken := by
    intro taken member
    rw [List.eq_of_mem_replicate member]
    exact (by decide : ⟨"INT".toList, 0⟩ ∈ lostState.driver.getInterruptVariables [0, 2])
  exact publishes_within lateAds .sample (fun _ => 0)
    (rfl : ADSPortDriver.new _ [10, 0, 0, 1, 1, 1] 2 851 ⟨SumReadRequest.sampleVars, []⟩ =
      some ADSPortDriver.sampleDriver) ADSPortDriver.sampleLinks [0, 2] (by decide) (by simp)
    (rfl : _ = lostState) (lateAds_accepts (by decide)) trivial few chosen (by decide) (by decide)

end Interleaved

end AdsDriver
