import AdsDriver.HandleLog
import AdsDriver.Phases
import AdsDriver.Publication

/-!
# The way back after a loss

Once the library accepts the requests that the scan thread cannot do without, a bounded number of
its sections takes the driver from any point to an open connection in use, and nothing takes the
connection down again.  Writes may still be refused.
-/

namespace AdsDriver

open ByteMemory EarlyExit StatusSteps Runs

/-- The calls whose failure makes the scan thread disconnect. -/
def AdsCall.needed : AdsCall → Bool
  | .addRoute _ _ | .portOpen | .readWrite _ _ _ _ _ _ _ _ | .readDeviceInfo _ _ _
  | .readState _ _ _ => true
  | .delRoute _ | .portClose _ | .write _ _ _ _ _ _ => false

/-- From a trace on the library accepts the calls that are needed. -/
def AcceptsNeeded (ads : Ads) (trace : Trace) : Prop :=
  ∀ events call, call.needed = true → (ads (trace ++ events) call).rc = 0 ∧
    (call = .portOpen → (ads (trace ++ events) call).port ≠ 0)

namespace AcceptsNeeded

variable {ads : Ads} {trace : Trace}

theorem append (accepts : AcceptsNeeded ads trace) (events : Trace) :
    AcceptsNeeded ads (trace ++ events) := by
  intro more call needed
  rw [List.append_assoc]
  exact accepts _ call needed

theorem rc_eq (accepts : AcceptsNeeded ads trace) {call : AdsCall} (needed : call.needed = true) :
    (ads trace call).rc = 0 := by
  have now := (accepts [] call needed).1
  rwa [List.append_nil] at now

end AcceptsNeeded

theorem ADSVariable.resolveName_accepted {ads : Ads} {trace : Trace}
    (accepts : AcceptsNeeded ads trace) (connection : Connection) (var : ADSVariable) :
    (var.resolveName ads connection trace).1 = none := by
  have accepted : (ads trace (connection.lookUpCall var.addr)).rc = 0 := accepts.rc_eq rfl
  unfold resolveName
  split_ifs with resolved
  · rfl
  · have unresolved : var.addr.nameIsResolved = false := by simpa using resolved
    simp [accepted, ADSAddress.resolve_of_unresolved unresolved]

theorem Connection.resolveLoop_accepted {ads : Ads} (connection : Connection) {trace : Trace}
    (accepts : AcceptsNeeded ads trace) (ids : List VarId) (vars : Vars) :
    (connection.resolveLoop ads ids 0 vars trace).1 = 0 := by
  induction ids generalizing vars trace with
  | nil => rfl
  | cons var rest ih =>
      have found := (vars var).resolveName_accepted accepts connection
      have more : AcceptsNeeded ads ((vars var).resolveName ads connection trace).2.2 := by
        rcases (vars var).resolveName_cases ads connection trace rfl with
          ⟨_, named⟩ | ⟨_, _, named⟩ | ⟨_, named⟩
        · rwa [named]
        · rw [named]
          exact accepts.append _
        · rw [named]
          exact accepts.append _
      rw [resolveLoop, found]
      exact ih more _

theorem ReadRequestChunk.fillEntries_resolved {vars : Vars} {ids : List VarId}
    (resolved : ∀ var ∈ ids, (vars var).addr.nameIsResolved = true)
    (entries : List AdsSymbolInfoByName) : (fillEntries vars ids entries).1 = true := by
  induction ids generalizing entries with
  | nil => simp [fillEntries]
  | cons var rest ih =>
      cases entries with
      | nil => simp [fillEntries]
      | cons entry entries =>
          rw [fillEntries, if_neg (by simp [resolved var List.mem_cons_self])]
          exact ih (fun other member => resolved other (List.mem_cons_of_mem _ member)) entries

theorem SumReadRequest.initializeRequest_resolved {request : SumReadRequest} {vars : Vars}
    (allocated : request.allocated = true) (idle : request.initialized = false)
    (resolved : ∀ chunk ∈ request.getChunks, ∀ var ∈ chunk.vars,
      (vars var).addr.nameIsResolved = true) : (request.initializeRequest vars).1 = 0 := by
  have stays : (request.chunksByAdsPort.visitAll (ReadRequestChunk.initializeEntries vars)
      ()).exit = none := by
    by_contra left
    obtain ⟨_, leaves⟩ := Option.ne_none_iff_exists'.mp left
    obtain ⟨chunk, member, _, gave⟩ := SortedMap.visitAll_exit leaves
    have filled := ReadRequestChunk.fillEntries_resolved (resolved chunk member)
      chunk.sumReadRequestBuffer
    simp [ReadRequestChunk.initializeEntries, filled] at gave
  simp [initializeRequest, allocated, idle, stays]

theorem SumReadRequest.readChunk_accepted {ads : Ads} {connection : Connection}
    {request : SumReadRequest} {trace : Trace} (accepts : AcceptsNeeded ads trace)
    (stored : request.AllStored) (index : Nat) :
    (request.readChunk ads connection index trace).1 = 0 := by
  unfold readChunk
  cases found : request.getChunks[index]? with
  | none => rfl
  | some chunk =>
      obtain ⟨port, in_set⟩ := mem_getChunks_iff.mp (List.mem_of_getElem? found)
      obtain ⟨initialized, memory, has_memory, _⟩ := stored port chunk in_set
      have accepted : (ads trace (chunk.readCall connection)).rc = 0 := accepts.rc_eq rfl
      obtain ⟨previous, read⟩ := ReadRequestChunk.read_of_stored initialized has_memory ads
        connection trace rfl
      simp [read, accepted]

namespace ADSPortDriver

variable {ads : Ads} {driver : ADSPortDriver}

theorem openConnection_accepted (accepts : AcceptsNeeded ads driver.trace) :
    (openConnection ads driver).1 = 0 := by
  have routed : (ads driver.trace (.addRoute driver.amsNetId driver.ipAddr)).rc = 0 :=
    accepts.rc_eq rfl
  have opened := (accepts [ads.event driver.trace (.addRoute driver.amsNetId driver.ipAddr)]
    .portOpen rfl).2 rfl
  simp [openConnection, Connection.connect, routed, opened]

theorem resolveVariables_accepted (accepts : AcceptsNeeded ads driver.trace)
    (opened : driver.adsConnection.isConnected = true) (list : ADSPortDriver → List VarId) :
    (resolveVariables ads list driver).1 = 0 := by
  have found := driver.adsConnection.resolveLoop_accepted accepts (list driver) driver.heap.vars
  unfold resolveVariables Step.onlyIf Connection.resolveVariables
  by_cases empty : list driver = []
  · simp [empty]
  · simpa [empty, opened] using found

theorem Resolving.initializeSumRead_eq_zero (resolving : driver.Resolving tracked) :
    (initializeSumRead driver).1 = 0 := by
  obtain ⟨given, distributed⟩ := resolving.distributed
  refine SumReadRequest.initializeRequest_resolved resolving.allocated resolving.sumRead_idle ?_
  intro chunk member var in_chunk
  exact resolving.resolved var
    (List.mem_append_left _ (distributed.mem_of_chunk member in_chunk))

theorem Up.readInfo_accepted (up : driver.Up) (accepts : AcceptsNeeded ads driver.trace) :
    (readInfo ads driver).1 = 0 := by
  have accepted : (ads driver.trace driver.adsConnection.infoCall).rc = 0 := accepts.rc_eq rfl
  simpa [readInfo, Connection.readDeviceInfo, up.opened, adsRcToEpicsadsError_eq_zero_iff,
    Connection.infoCall] using accepted

theorem Up.readState_accepted (up : driver.Up) (accepts : AcceptsNeeded ads driver.trace) :
    (readState ads driver).1 = 0 := by
  have accepted : (ads driver.trace driver.adsConnection.stateCall).rc = 0 := accepts.rc_eq rfl
  simpa [readState, Connection.readDeviceState, up.opened, adsRcToEpicsadsError_eq_zero_iff,
    Connection.stateCall] using accepted

/-- No section of the scan thread fails. -/
theorem Attempt.accepted {point succeeded : ScanPoint} {step : Step ADSPortDriver}
    {caller : DisconnectCaller} (attempt : driver.Attempt ads point step succeeded caller)
    (accepts : AcceptsNeeded ads driver.trace) : (step driver).1 = 0 := by
  cases attempt with
  | connect => exact openConnection_accepted accepts
  | resolveReadVars resolving =>
      exact resolveVariables_accepted accepts resolving.opened adsReadVars
  | resolveWriteVars resolving =>
      exact resolveVariables_accepted accepts resolving.opened adsWriteVars
  | initializeSumRead resolving => exact resolving.initializeSumRead_eq_zero
  | readInfo up => exact up.readInfo_accepted accepts
  | readState up => exact up.readState_accepted accepts
  | sumRead up => exact if_neg (by simp [up.sumRead_ready])
  | readChunk up => exact SumReadRequest.readChunk_accepted accepts up.stored _

end ADSPortDriver

/-- How many sections the scan thread needs at most from the return of `ADSDisconnect` on. -/
def DisconnectCaller.rank : DisconnectCaller → Nat
  | .sumRead => 6
  | .request | .reconnect | .exit => 5

/-- How many sections the scan thread needs at most, if none fails, until the connection is in
use. -/
def ScanPoint.rank (connected : Bool) : ScanPoint → Nat
  | .head => if connected then 0 else 5
  | .connect => 4
  | .resolveReadVars => 3
  | .resolveWriteVars => 2
  | .initializeSumRead => 1
  | .deinitializeSumRead caller => if connected then 5 + caller.rank else 1 + caller.rank
  | .unresolveReadVars caller => 4 + caller.rank
  | .unresolveWriteVars caller => 3 + caller.rank
  | .disconnect caller => 2 + caller.rank
  | .setDisconnected caller => 1 + caller.rank
  | .readInfo | .readState | .sumRead _ | .readChunk _ _ | .publish | .publishing _ | .exited => 0

theorem DisconnectCaller.rank_resume_le {caller : DisconnectCaller} (other : caller ≠ .exit) :
    caller.resume.rank false ≤ caller.rank := by
  cases caller with
  | exit => exact absurd rfl other
  | _ => decide

namespace ADSPortDriver

variable {ads : Ads} {autoparam : Autoparam} {input : ScanInput} {driver after : ADSPortDriver}
  {point next succeeded : ScanPoint} {step : Step ADSPortDriver} {caller : DisconnectCaller}

theorem Attempt.rank_le (attempt : driver.Attempt ads point step succeeded caller)
    (connected connected' : Bool) : succeeded.rank connected' ≤ point.rank connected - 1 := by
  cases attempt <;> exact le_rfl

theorem Passage.rank_le (passage : driver.Passage ads autoparam input point after next) :
    next.rank after.adsConnection.isConnected ≤
      point.rank driver.adsConnection.isConnected - 1 := by
  cases passage with
  | scan up => cases input.due <;> exact Nat.zero_le _
  | reconnect down => simp [ScanPoint.rank, down.closed]
  | sumReadDone up _ connecting =>
      cases connecting <;> simp [ScanPoint.rank, ScanPoint.sumReadDone, up.opened]
  | publish up | publishVariable up => exact Nat.zero_le _
  | published up => simp [ScanPoint.rank, up.opened]
  | deinitializeSumRead phase opened =>
      rw [opened]
      simp only [ScanPoint.rank, if_true]
      omega
  | notConnected phase closed =>
      have same : driver.deinitializeSumRead.adsConnection = driver.adsConnection := rfl
      have resumes := DisconnectCaller.rank_resume_le phase.2
      rw [same, closed]
      simpa [ScanPoint.rank] using resumes
  | unresolveReadVars | unresolveWriteVars | disconnect =>
      simp only [ScanPoint.rank]
      omega
  | @setDisconnected caller phase =>
      have closed : driver.setDisconnected.adsConnection.isConnected = false := rfl
      have resumes := DisconnectCaller.rank_resume_le phase.2
      rw [closed]
      simpa [ScanPoint.rank] using resumes

end ADSPortDriver

namespace Interleaved

/-- The distance of a state to a connection in use. -/
def rank (state : Interleaved) : Nat :=
  state.scanPoint.rank state.driver.adsConnection.isConnected

theorem rank_le (state : Interleaved) : state.rank ≤ 11 := by
  have caller_le (caller : DisconnectCaller) : caller.rank ≤ 6 := by
    cases caller <;> decide
  have point_le (point : ScanPoint) (connected : Bool) : point.rank connected ≤ 11 := by
    cases point with
    | deinitializeSumRead caller | unresolveReadVars caller | unresolveWriteVars caller
    | disconnect caller | setDisconnected caller =>
        have := caller_le caller
        cases connected <;> simp [ScanPoint.rank] <;> omega
    | _ => cases connected <;> simp [ScanPoint.rank]
  exact point_le _ _

theorem up_of_rank {state : Interleaved} (phase : state.driver.Phase state.scanPoint)
    (arrived : state.rank = 0) : state.driver.Up := by
  unfold rank at arrived
  cases point : state.scanPoint <;> rw [point] at phase arrived
  case head =>
    refine phase.resolve_right fun down => ?_
    simp [ScanPoint.rank, down.closed] at arrived
  case readInfo | readState | sumRead | readChunk | publish | publishing => exact phase
  case exited => exact phase.elim
  all_goals
    simp only [ScanPoint.rank] at arrived
    try split_ifs at arrived
    all_goals omega

variable (ads : Ads) (autoparam : Autoparam) (toFloat32 : BitVec 64 → BitVec 32)

/-- With a library that accepts requests a section shortens the distance. -/
theorem rank_scan {state : Interleaved} (phase : state.driver.Phase state.scanPoint)
    (accepts : AcceptsNeeded ads state.driver.trace) (input : ScanInput) :
    (state.scan ads autoparam input).rank ≤ state.rank - 1 := by
  rcases scan_cases ads autoparam phase input with
    ⟨step, succeeded, caller, attempt, scan_eq⟩ | ⟨after, next, passage, scan_eq⟩
  · rw [scan_eq, tryThen, if_pos (attempt.accepted accepts)]
    exact attempt.rank_le _ _
  · rw [scan_eq]
    exact passage.rank_le

theorem rank_step {state : Interleaved} (phase : state.driver.Phase state.scanPoint)
    (accepts : AcceptsNeeded ads state.driver.trace) {taken : ThreadStep}
    (not_shutDown : taken ≠ .shutDown) :
    (state.step ads autoparam toFloat32 taken).rank ≤
      state.rank - if taken.scans then 1 else 0 := by
  cases handler : taken.scans with
  | true =>
      cases taken with
      | scan input => exact rank_scan ads autoparam phase accepts input
      | _ => cases handler
  | false =>
      obtain ⟨point_eq, beside⟩ := state.beside_step ads autoparam toFloat32 handler not_shutDown
      simp [rank, point_eq, beside.connection_eq]

/-- The driver recovers: when the library accepts the requests that are needed from some point of a
run on, the connection is in use from the eleventh section of the scan thread on, whatever record
handlers do in between. -/
theorem recovers {ipAddr : Str} {amsNetId : AmsNetId} {sumBufferSize deviceReadAdsPort : UInt16}
    {heap : Heap} {driver : ADSPortDriver}
    (constructed : ADSPortDriver.new ipAddr amsNetId sumBufferSize deviceReadAdsPort heap =
      some driver) (links : List RecordLink) (interrupts : List Nat)
    (hooked : (start driver links interrupts).driver.initialized = true)
    {before later : List ThreadStep} (no_shutDown : .shutDown ∉ before ++ later)
    (accepts : AcceptsNeeded ads
      (run (step ads autoparam toFloat32) (start driver links interrupts) before).driver.trace)
    (enough : 11 ≤ later.countP ThreadStep.scans) :
    (run (step ads autoparam toFloat32) (start driver links interrupts)
      (before ++ later)).driver.Up := by
  rw [List.mem_append, not_or] at no_shutDown
  have reached := phase_run ads autoparam toFloat32
    (phase_start constructed links interrupts hooked)
    no_shutDown.1
  rw [run_append]
  generalize run (step ads autoparam toFloat32) (start driver links interrupts) before = state
    at accepts reached ⊢
  have each : EachMeets (step ads autoparam toFloat32) (fun _ taken => taken ≠ .shutDown) state
      later := by
    rintro front last taken rfl
    exact no_shutDown.2 (taken.subset (by simp))
  have shorter := rank_run_le
    (fun state => state.driver.Phase state.scanPoint ∧ AcceptsNeeded ads state.driver.trace) rank
    ThreadStep.scans ?kept ?lowers ⟨reached, accepts⟩ each
  case kept =>
    rintro state taken ⟨phase, accepts⟩ not_shutDown
    obtain ⟨events, trace_eq⟩ := state.prefix_step ads autoparam toFloat32 taken
    exact ⟨phase_step ads autoparam toFloat32 phase not_shutDown, trace_eq ▸ accepts.append events⟩
  case lowers =>
    rintro state taken ⟨phase, accepts⟩ not_shutDown
    exact rank_step ads autoparam toFloat32 phase accepts not_shutDown
  have far := state.rank_le
  exact up_of_rank (phase_run ads autoparam toFloat32 reached no_shutDown.2) (by omega)

/-- A library that is reached from the fourth call on. -/
def lateAds : Ads := fun trace call =>
  if trace.length < 3 then { rc := 1861 } else SumReadRequest.sevensAds trace call

theorem lateAds_accepts {trace : Trace} (reached : 3 ≤ trace.length) :
    AcceptsNeeded lateAds trace := by
  intro events call _
  have late : ¬ (trace ++ events).length < 3 := by
    rw [List.length_append]
    omega
  simp only [lateAds, if_neg late]
  refine ⟨SumReadRequest.answering_accepts _ _ _, ?_⟩
  rintro rfl
  exact Nat.one_ne_zero

/-- Three attempts to connect fail, and then the driver recovers. -/
theorem recovers_sample :
    (run (step lateAds .sample fun _ => 0)
      (start ADSPortDriver.sampleDriver ADSPortDriver.sampleLinks [0, 2])
      (List.replicate 9 (.scan ADSPortDriver.sampleInput) ++
        List.replicate 11 (.scan ADSPortDriver.sampleInput))).driver.Up :=
  recovers lateAds .sample (fun _ => 0)
    (rfl : ADSPortDriver.new _ [10, 0, 0, 1, 1, 1] 2 851 ⟨SumReadRequest.sampleVars, []⟩ =
      some ADSPortDriver.sampleDriver) ADSPortDriver.sampleLinks [0, 2] (by decide) (by simp)
    (lateAds_accepts (by decide)) (by decide)

end Interleaved

end AdsDriver
