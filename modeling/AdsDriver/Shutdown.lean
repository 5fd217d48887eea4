import AdsDriver.LinkBalance
import AdsDriver.Phases

/-!
# The way out

Once `exitCalled` is set, the scan thread leaves its loop after a bounded number of sections,
whatever the library returns and whatever record handlers do in between.  It asks for no route and
no port any more, and it leaves neither a connection nor a port open.
-/

namespace AdsDriver

open StatusSteps Runs

/-- How many sections the scan thread runs at most from the return of `ADSDisconnect` on. -/
def DisconnectCaller.exitRank : DisconnectCaller → Nat
  | .exit => 0
  | .request | .reconnect => 4
  | .sumRead => 7

/-- How many sections the scan thread runs at most after `exitCalled` is set, for a number of chunks
and a bound on the variables that are published at once. -/
def ScanPoint.exitRank (chunks published : Nat) : ScanPoint → Nat
  | .head => 4
  | .connect => 8
  | .resolveReadVars => chunks + published + 15
  | .resolveWriteVars => chunks + published + 14
  | .initializeSumRead => chunks + published + 13
  | .readInfo => chunks + published + 14
  | .readState => chunks + published + 13
  | .sumRead _ => chunks + published + 12
  | .readChunk index _ => chunks - index + published + 11
  | .publish => published + 6
  | .publishing left => left.length + 5
  | .deinitializeSumRead caller => caller.exitRank + 3
  | .unresolveReadVars caller => caller.exitRank + 4
  | .unresolveWriteVars caller => caller.exitRank + 3
  | .disconnect caller => caller.exitRank + 2
  | .setDisconnected caller => caller.exitRank + 1
  | .exited => 0

theorem DisconnectCaller.exitRank_le (caller : DisconnectCaller) : caller.exitRank ≤ 7 := by
  cases caller <;> decide

theorem DisconnectCaller.exitRank_resume (chunks published : Nat) (caller : DisconnectCaller) :
    caller.resume.exitRank chunks published = caller.exitRank := by
  cases caller <;> rfl

/-- The variables that remain to be published are among those of one iteration. -/
def ScanPoint.PublishesWithin (published : Nat) : ScanPoint → Prop
  | .publishing left => left.length ≤ published
  | _ => True

theorem ScanPoint.exitRank_le {chunks published : Nat} {point : ScanPoint}
    (within : point.PublishesWithin published) :
    point.exitRank chunks published ≤ chunks + published + 15 := by
  cases point with
  | publishing left =>
      simp only [PublishesWithin] at within
      simp only [exitRank]
      omega
  | deinitializeSumRead caller | unresolveReadVars caller | unresolveWriteVars caller
  | disconnect caller | setDisconnected caller =>
      have near := caller.exitRank_le
      simp only [exitRank]
      omega
  | _ =>
      simp only [exitRank]
      omega

namespace ScanPoint.Leads

variable {driver : ADSPortDriver} {interrupts : List Nat} {before after : ScanPoint}
  {published : Nat}

/-- Where the scan thread goes next it publishes no more than a bounded number of variables. -/
theorem publishesWithin (leads : Leads driver interrupts before after)
    (within : before.PublishesWithin published) (few : interrupts.length ≤ published) :
    after.PublishesWithin published := by
  cases leads with
  | publish => exact (List.length_filterMap_le _ _).trans few
  | publishOne adsVar left => exact (Nat.le_succ _).trans within
  | exit => split_ifs <;> trivial
  | chunksDone index connecting => cases connecting <;> trivial
  | notConnected _ _ caller | resume caller => cases caller <;> trivial
  | _ => trivial

theorem exitRank (leads : Leads driver interrupts before after) (exiting : driver.exitCalled = true)
    (few : interrupts.length ≤ published) :
    after.exitRank driver.sumRead.getChunks.length published ≤
      before.exitRank driver.sumRead.getChunks.length published - 1 := by
  cases leads with
  | wait running | reconnect running | due running | notDue running | connected running
  | opened running | releaseHandles running | notConnected running =>
      exact absurd (running.symm.trans exiting) Bool.false_ne_true
  | exit => split_ifs <;> simp [ScanPoint.exitRank, DisconnectCaller.exitRank]
  | @failed _ caller fails =>
      have near := caller.exitRank_le
      cases before with
      | connect =>
          cases fails
          simp only [ScanPoint.exitRank, DisconnectCaller.exitRank]
          omega
      | resolveReadVars | resolveWriteVars | initializeSumRead | readInfo | readState | sumRead _
      | readChunk _ _ =>
          simp only [ScanPoint.exitRank]
          omega
      | _ => cases fails
  | chunksDone index connecting =>
      cases connecting <;> simp only [ScanPoint.exitRank, ScanPoint.sumReadDone, if_true,
        Bool.false_eq_true, if_false] <;> omega
  | publish =>
      have fewer : (driver.getInterruptVariables interrupts).length ≤ published :=
        (List.length_filterMap_le _ _).trans few
      simp only [ScanPoint.exitRank]
      omega
  | resume caller =>
      rw [DisconnectCaller.exitRank_resume]
      simp [ScanPoint.exitRank]
  | _ =>
      simp only [ScanPoint.exitRank, List.length_cons]
      omega

end ScanPoint.Leads

/-- Calls that ask for a route or a port. -/
def AdsCall.asksForLink : AdsCall → Bool
  | .addRoute _ _ | .portOpen => true
  | _ => false

/-- A step publishes no more than a number of variables. -/
def ThreadStep.PublishesWithin (published : Nat) : ThreadStep → Prop
  | .scan input => input.interrupts.length ≤ published
  | _ => True

theorem ADSPortDriver.Keeps.length_getChunks {before after : ADSPortDriver}
    (same : before.Keeps after) :
    after.sumRead.getChunks.length = before.sumRead.getChunks.length :=
  same.layout.chunks.flatten.length_eq.symm

namespace Interleaved

variable (ads : Ads) (autoparam : Autoparam) (toFloat32 : BitVec 64 → BitVec 32)

/-- The distance of a state to the end of `adsScan`. -/
def exitRank (published : Nat) (state : Interleaved) : Nat :=
  state.scanPoint.exitRank state.driver.sumRead.getChunks.length published

theorem scanPoint_step (state : Interleaved) {taken : ThreadStep} (other : taken.scans = false) :
    (state.step ads autoparam toFloat32 taken).scanPoint = state.scanPoint := by
  cases taken with
  | shutDown => rfl
  | _ => exact (state.beside_step ads autoparam toFloat32 other (by rintro ⟨⟩)).1

theorem publishesWithin_scan {published : Nat} {state : Interleaved}
    (within : state.scanPoint.PublishesWithin published) {input : ScanInput}
    (few : input.interrupts.length ≤ published) :
    (state.scan ads autoparam input).scanPoint.PublishesWithin published :=
  (state.leads_scan ads autoparam input).publishesWithin within few

theorem publishesWithin_step {published : Nat} {state : Interleaved}
    (within : state.scanPoint.PublishesWithin published) {taken : ThreadStep}
    (few : taken.PublishesWithin published) :
    (state.step ads autoparam toFloat32 taken).scanPoint.PublishesWithin published := by
  cases handler : taken.scans with
  | true =>
      cases taken with
      | scan input => exact publishesWithin_scan ads autoparam within few
      | _ => cases handler
  | false => rwa [state.scanPoint_step ads autoparam toFloat32 handler]

theorem publishesWithin_run {published : Nat} {state : Interleaved}
    (within : state.scanPoint.PublishesWithin published) {taken : List ThreadStep}
    (few : ∀ one ∈ taken, one.PublishesWithin published) :
    (run (step ads autoparam toFloat32) state taken).scanPoint.PublishesWithin published := by
  have each : EachMeets (step ads autoparam toFloat32)
      (fun _ taken => taken.PublishesWithin published) state taken :=
    fun front one reached => few one (reached.subset (by simp))
  exact run_induction (fun state : Interleaved => state.scanPoint.PublishesWithin published)
    (fun _ _ within few => publishesWithin_step ads autoparam toFloat32 within few) within each

/-- Once `exitCalled` is set every section brings the end nearer. -/
theorem exitRank_scan {published : Nat} {state : Interleaved}
    (exiting : state.driver.exitCalled = true) {input : ScanInput}
    (few : input.interrupts.length ≤ published) :
    (state.scan ads autoparam input).exitRank published ≤ state.exitRank published - 1 := by
  simp only [exitRank, (state.keeps_scan ads autoparam input).length_getChunks]
  exact (state.leads_scan ads autoparam input).exitRank exiting few

theorem exitRank_step {published : Nat} {state : Interleaved}
    (exiting : state.driver.exitCalled = true) {taken : ThreadStep}
    (few : taken.PublishesWithin published) :
    (state.step ads autoparam toFloat32 taken).exitRank published ≤
      state.exitRank published - if taken.scans then 1 else 0 := by
  cases handler : taken.scans with
  | true =>
      cases taken with
      | scan input => exact exitRank_scan ads autoparam exiting few
      | _ => cases handler
  | false =>
      have same_chunks := (state.keeps_step ads autoparam toFloat32 taken).length_getChunks
      simp [exitRank, same_chunks, state.scanPoint_step ads autoparam toFloat32 handler]

theorem exiting_step {state : Interleaved} (exiting : state.driver.exitCalled = true)
    (taken : ThreadStep) :
    (state.step ads autoparam toFloat32 taken).driver.exitCalled = true := by
  by_cases shuts_down : taken = .shutDown
  · rw [shuts_down, step]
  · rw [exitCalled_step ads autoparam toFloat32 shuts_down, exiting]

/-- A run in which the scan thread is given enough sections ends `adsScan`. -/
theorem exited_run {published : Nat} {state : Interleaved}
    (exiting : state.driver.exitCalled = true)
    (within : state.scanPoint.PublishesWithin published) {taken : List ThreadStep}
    (few : ∀ one ∈ taken, one.PublishesWithin published)
    (enough : state.driver.sumRead.getChunks.length + published + 15 ≤
      taken.countP ThreadStep.scans) :
    (run (step ads autoparam toFloat32) state taken).scanPoint = .exited := by
  have each : EachMeets (step ads autoparam toFloat32)
      (fun _ taken => taken.PublishesWithin published) state taken :=
    fun front one reached => few one (reached.subset (by simp))
  have shorter := rank_run_le (fun state : Interleaved => state.driver.exitCalled = true)
    (exitRank published) ThreadStep.scans
    (fun _ taken exiting _ => exiting_step ads autoparam toFloat32 exiting taken)
    (fun _ _ exiting few => exitRank_step ads autoparam toFloat32 exiting few) exiting each
  have far : state.exitRank published ≤ _ := ScanPoint.exitRank_le within
  have arrived : (run (step ads autoparam toFloat32) state taken).exitRank published = 0 := by
    omega
  revert arrived
  unfold exitRank
  cases (run (step ads autoparam toFloat32) state taken).scanPoint <;> simp [ScanPoint.exitRank]

/-- A driver that exits asks for no link any more. -/
theorem sent_exiting {state : Interleaved} (exiting : state.driver.exitCalled = true)
    (taken : ThreadStep) :
    ∃ events, (state.step ads autoparam toFloat32 taken).driver.trace =
      state.driver.trace ++ events ∧ ∀ event ∈ events, event.call.asksForLink = false := by
  by_cases off_link : state.changesLink taken = false
  · obtain ⟨events, trace_eq, off⟩ := (offLink_step ads autoparam toFloat32 off_link).sent
    refine ⟨events, trace_eq, fun event member => ?_⟩
    have := off event member
    cases called : event.call <;> simp_all [AdsCall.onLink, AdsCall.asksForLink]
  · cases taken with
    | scan input =>
        cases point : state.scanPoint with
        | connect => exact ⟨[], by simp [step, scan, point, exiting, goTo], by simp⟩
        | disconnect caller =>
            simp only [step, scan, point, doThen, ADSPortDriver.disconnect, Connection.disconnect]
            split_ifs
            · exact ⟨[], by simp, by simp⟩
            · exact ⟨_, List.append_assoc _ _ _, by simp [AdsCall.asksForLink]⟩
        | setDisconnected caller =>
            exact ⟨[], by simp [step, scan, point, doThen, ADSPortDriver.setDisconnected], by simp⟩
        | _ => simp [changesLink, point] at off_link
    | _ => simp [changesLink] at off_link

/-- The scan thread leaves `adsScan` without a connection. -/
def ClosedAtExit (state : Interleaved) : Prop :=
  state.scanPoint = .exited → state.driver.adsConnection.isConnected = false

theorem ClosedAtExit.scan {state : Interleaved} (closed : state.ClosedAtExit) (input : ScanInput) :
    (state.scan ads autoparam input).ClosedAtExit := by
  intro next
  cases point : state.scanPoint with
  | head =>
      simp only [Interleaved.scan, point] at next ⊢
      split_ifs at next ⊢ <;> simp_all [goTo]
  | setDisconnected caller => simp [Interleaved.scan, point, doThen, ADSPortDriver.setDisconnected,
      Connection.setDisconnected, Connection.isConnected]
  | deinitializeSumRead caller =>
      simp only [Interleaved.scan, point, doThen] at next ⊢
      split_ifs at next with exiting opened
      exact Bool.eq_false_iff.mpr opened
  | publishing left => cases left <;> simp [Interleaved.scan, point, doThen, goTo] at next
  | exited =>
      simp only [Interleaved.scan, point] at next ⊢
      exact closed point
  | _ =>
      simp only [Interleaved.scan, point, tryThen, doThen, goTo, ScanPoint.sumReadFailed,
        ScanPoint.sumReadDone] at next
      try split_ifs at next
      all_goals simp_all

theorem ClosedAtExit.step {state : Interleaved} (closed : state.ClosedAtExit) (taken : ThreadStep) :
    (state.step ads autoparam toFloat32 taken).ClosedAtExit := by
  cases handler : taken.scans with
  | true =>
      cases taken with
      | scan input => exact closed.scan ads autoparam input
      | _ => cases handler
  | false =>
      have off_link : state.changesLink taken = false := by
        cases taken with
        | scan input => cases handler
        | _ => rfl
      intro next
      rw [(offLink_step ads autoparam toFloat32 off_link).connection_eq]
      exact closed ((state.scanPoint_step ads autoparam toFloat32 handler).symm.trans next)

/-- What a driver that is shut down in one state leaves behind in another. -/
structure ShutDown (before after : Interleaved) : Prop where
  exited : after.scanPoint = .exited
  closed : after.driver.adsConnection.isConnected = false
  no_ports : openPorts after.driver.trace = []
  sent : ∃ events, after.driver.trace = before.driver.trace ++ events ∧
    ∀ event ∈ events, event.call.asksForLink = false

theorem sent_exiting_run {state : Interleaved} (exiting : state.driver.exitCalled = true)
    (taken : List ThreadStep) :
    (run (step ads autoparam toFloat32) state taken).driver.exitCalled = true ∧
      ∃ events, (run (step ads autoparam toFloat32) state taken).driver.trace =
        state.driver.trace ++ events ∧ ∀ event ∈ events, event.call.asksForLink = false := by
  induction taken using List.reverseRecOn with
  | nil => exact ⟨exiting, [], by simp, by simp⟩
  | append_singleton taken last ih =>
      obtain ⟨exiting, events, trace_eq, earlier⟩ := ih
      obtain ⟨more, more_eq, later⟩ := sent_exiting ads autoparam toFloat32 exiting last
      rw [run_concat]
      refine ⟨exiting_step ads autoparam toFloat32 exiting last, events ++ more, ?_, ?_⟩
      · rw [more_eq, trace_eq, List.append_assoc]
      · intro event member
        exact (List.mem_append.mp member).elim (earlier event) (later event)

/-- The driver shuts down: whatever has happened before, and whatever the library answers and record
handlers do in between, the scan thread is at its end when it has run fifteen sections and one for
each chunk and each variable of an iteration.  The connection and the port are closed then, and no
other has been asked for. -/
theorem shuts_down {ipAddr : Str} {amsNetId : AmsNetId}
    {sumBufferSize deviceReadAdsPort : UInt16} {heap : Heap} {driver : ADSPortDriver}
    (constructed : ADSPortDriver.new ipAddr amsNetId sumBufferSize deviceReadAdsPort heap =
      some driver) (links : List RecordLink) (interrupts : List Nat) {published : Nat}
    {before later : List ThreadStep}
    (few : ∀ taken ∈ before ++ later, taken.PublishesWithin published)
    (enough : (run (step ads autoparam toFloat32) (start driver links interrupts)
      before).driver.sumRead.getChunks.length + published + 15 ≤ later.countP ThreadStep.scans) :
    ShutDown (run (step ads autoparam toFloat32) (start driver links interrupts) before)
      (run (step ads autoparam toFloat32) (start driver links interrupts)
        (before ++ .shutDown :: later)) := by
  have hooked := hooked_start constructed links interrupts
  have accounted : (start driver links interrupts).Accounted := by
    refine ⟨?_, fun caller point => by cases point⟩
    simp [ADSPortDriver.PortHeld, hooked.no_events, hooked.closed, openPorts]
  have closed_start : (start driver links interrupts).ClosedAtExit := by rintro ⟨⟩
  have closed := run_invariant ClosedAtExit
    (fun _ taken closed => closed.step ads autoparam toFloat32 taken) closed_start
    (before ++ .shutDown :: later)
  have held := (run_invariant Accounted
    (fun _ taken accounted => accounted.step ads autoparam toFloat32 taken) accounted
    (before ++ .shutDown :: later)).held
  rw [run_append, run_cons] at closed held ⊢
  have within_start : (start driver links interrupts).scanPoint.PublishesWithin published := trivial
  have within := publishesWithin_run ads autoparam toFloat32 within_start fun taken member =>
    few taken (List.mem_append_left later member)
  generalize run (step ads autoparam toFloat32) (start driver links interrupts) before = reached
    at closed held within enough ⊢
  have exiting : (reached.step ads autoparam toFloat32 .shutDown).driver.exitCalled = true := rfl
  have exited := exited_run ads autoparam toFloat32 exiting within
    (fun taken member => few taken (List.mem_append_right before member)) enough
  have closed := closed exited
  refine ⟨exited, closed, ?_, (sent_exiting_run ads autoparam toFloat32 exiting later).2⟩
  simpa [ADSPortDriver.PortHeld, closed] using held

/-- The sample driver is shut down between two chunks of its first sum-read. -/
theorem shuts_down_sample :
    ShutDown (run (step SumReadRequest.sevensAds .sample fun _ => 0)
        (start ADSPortDriver.sampleDriver ADSPortDriver.sampleLinks [0, 2])
        (List.replicate 7 (.scan ADSPortDriver.sampleInput)))
      (run (step SumReadRequest.sevensAds .sample fun _ => 0)
        (start ADSPortDriver.sampleDriver ADSPortDriver.sampleLinks [0, 2])
        (List.replicate 7 (.scan ADSPortDriver.sampleInput) ++
          .shutDown :: List.replicate 19 (.scan ADSPortDriver.sampleInput))) :=
  shuts_down SumReadRequest.sevensAds .sample (fun _ => 0)
    (rfl : ADSPortDriver.new _ [10, 0, 0, 1, 1, 1] 2 851 ⟨SumReadRequest.sampleVars, []⟩ =
      some ADSPortDriver.sampleDriver) ADSPortDriver.sampleLinks [0, 2]
    (by
      intro taken member
      obtain rfl : taken = .scan ADSPortDriver.sampleInput := by simpa using member
      exact Nat.le_refl 2)
    (by decide)

end Interleaved

end AdsDriver
