import AdsDriver.Data.Queues
import AdsDriver.HandleLedger
import AdsDriver.LinkBalance
import AdsDriver.Phases
import AdsDriver.WriteOperation

/-!
# Writes on their way

A write that has passed its checks is sent once its thread has the mutex.  Whatever the other
threads do in between, it is sent exactly once and as it was checked, and nothing else is written;
under the driver's lock writes are sent in the order of their checks.
-/

namespace AdsDriver

open ByteMemory StatusSteps Runs Queues

/-- Whether a call writes data; the release of a handle does not. -/
def AdsCall.writesData : AdsCall → Bool
  | .write _ _ _ group _ _ => group ≠ adsigrpSymReleaseHnd
  | _ => false

/-- The calls of a trace that write data. -/
def dataWrites (trace : Trace) : List AdsCall := (trace.map AdsEvent.call).filter AdsCall.writesData

theorem dataWrites_append {trace events : Trace}
    (nothing : ∀ event ∈ events, event.call.writesData = false) :
    dataWrites (trace ++ events) = dataWrites trace := by
  have none_writes : (events.map AdsEvent.call).filter AdsCall.writesData = [] := by
    refine List.filter_eq_nil_iff.mpr fun call member => ?_
    obtain ⟨event, in_events, rfl⟩ := List.mem_map.mp member
    simp [nothing event in_events]
  rw [dataWrites, List.map_append, List.filter_append, none_writes, List.append_nil, dataWrites]

namespace ADSPortDriver

variable (ads : Ads)

theorem dataWrites_resolveVariables (list : ADSPortDriver → List VarId) (driver : ADSPortDriver) :
    dataWrites (resolveVariables ads list driver).2.trace = dataWrites driver.trace := by
  unfold resolveVariables Step.onlyIf Connection.resolveVariables
  dsimp only
  split_ifs
  · rfl
  · rfl
  · obtain ⟨events, trace_eq, calls, _⟩ := Connection.resolveLoop_spec ads driver.adsConnection
      (list driver) 0 driver.heap.vars driver.trace rfl
    dsimp only
    rw [trace_eq]
    refine dataWrites_append fun event member => ?_
    obtain ⟨addr, asked⟩ := calls event member
    rw [asked]
    rfl
  · rfl

theorem dataWrites_unresolveVariables (driver : ADSPortDriver) (adsVariables : List VarId) :
    dataWrites (driver.unresolveVariables ads adsVariables).trace = dataWrites driver.trace := by
  rw [driver.unresolveVariables_trace ads adsVariables]
  refine dataWrites_append fun event member => ?_
  obtain ⟨addr, asked⟩ := driver.adsConnection.unresolveLoopEntries_call ads _ _ _ _ event member
  rw [asked]
  rfl

/-- Sections of the scan thread write nothing. -/
theorem Section.dataWrites_eq {ads : Ads} {autoparam : Autoparam} {driver after : ADSPortDriver}
    {point : ScanPoint} (made : Section ads autoparam driver point after) :
    dataWrites after.trace = dataWrites driver.trace := by
  cases made with
  | openConnection =>
      simp only [ADSPortDriver.openConnection, Connection.connect]
      split_ifs <;> simp [dataWrites, AdsCall.writesData]
  | resolveReadVars => exact driver.dataWrites_resolveVariables ads adsReadVars
  | resolveWriteVars => exact driver.dataWrites_resolveVariables ads adsWriteVars
  | readInfo =>
      simp only [ADSPortDriver.readInfo, Connection.readDeviceInfo]
      split_ifs <;> simp [dataWrites, AdsCall.writesData]
  | readState =>
      simp only [ADSPortDriver.readState, Connection.readDeviceState]
      split_ifs <;> simp [dataWrites, AdsCall.writesData]
  | readChunk index connecting =>
      obtain ⟨⟨events, trace_eq, sent⟩, _⟩ :=
        driver.sumRead.readChunk_sent ads driver.adsConnection index driver.trace
      simp only [ADSPortDriver.readChunk, trace_eq]
      refine dataWrites_append fun event member => ?_
      obtain ⟨chunk, _, asked⟩ := sent event member
      rw [asked]
      rfl
  | publishVariable garbage adsVar left =>
      rcases driver.publishVariable_cases autoparam garbage adsVar with same | ⟨_, _, same, _⟩
      · rw [same]
      · rw [same]
        rfl
  | unresolveReadVars caller => exact driver.dataWrites_unresolveVariables ads driver.adsReadVars
  | unresolveWriteVars caller => exact driver.dataWrites_unresolveVariables ads driver.adsWriteVars
  | disconnect caller =>
      simp only [ADSPortDriver.disconnect, Connection.disconnect]
      split_ifs <;> simp [dataWrites, AdsCall.writesData]
  | _ => rfl

end ADSPortDriver

/-- The call that must be made for a write in a state of the driver: on the open port, to the port
and at the group and offset that its variable has, with the bytes that have passed the checks. -/
def PendingWrite.request (driver : ADSPortDriver) (write : PendingWrite) : AdsCall :=
  let addr := (driver.heap.vars write.var).addr
  .write driver.adsConnection.adsPort driver.adsConnection.remoteAmsNetId addr.adsPort
    addr.indexGroup addr.indexOffset write.buffer

namespace Interleaved

variable (ads : Ads) (autoparam : Autoparam) (toFloat32 : BitVec 64 → BitVec 32)

/-- The writes whose checks a step lets pass. -/
def accepts (state : Interleaved) : ThreadStep → List PendingWrite
  | .checkWrite adsVar registration request =>
      let driver := state.driver
      let var := driver.heap.vars adsVar.adsPV
      let read := registration.write.varToWrite autoparam driver.adsConnection var
        driver.sumRead.buffers request
      let data := registration.write.dataToWrite autoparam driver.adsConnection var toFloat32
        driver.sumRead.buffers request
      if state.Calls adsVar registration then
        match read.checkWrite data (registration.write.bytesToWrite var) with
        | .ok buffer => [⟨adsVar.adsPV, buffer⟩]
        | .error _ => []
      else []
  | .scan _ | .poll _ _ _ | .sendWrite _ | .shutDown => []

/-- The writes that a step sends. -/
def sends (state : Interleaved) : ThreadStep → List PendingWrite
  | .sendWrite index => state.pendingWrites[index]?.toList
  | .scan _ | .poll _ _ _ | .checkWrite _ _ _ | .shutDown => []

/-- A step gives out and keeps the writes that it has found and let pass. -/
theorem sends_perm (state : Interleaved) (taken : ThreadStep) :
    (state.sends taken ++ (state.step ads autoparam toFloat32 taken).pendingWrites).Perm
      (state.pendingWrites ++ state.accepts autoparam toFloat32 taken) := by
  cases taken with
  | scan input => simp [sends, accepts, step, scan_pendingWrites]
  | poll adsVar registration request =>
      simp only [sends, accepts, step]
      split_ifs <;> simp [poll]
  | checkWrite adsVar registration request =>
      simp only [sends, accepts, step]
      split_ifs
      · simp only [checkWrite]
        split <;> simp [*]
      · simp
  | sendWrite index =>
      simp only [sends, accepts, step, sendWrite, List.append_nil]
      cases found : state.pendingWrites[index]? with
      | none => simp
      | some write =>
          obtain ⟨inside, rfl⟩ := List.getElem?_eq_some_iff.mp found
          simpa using List.getElem_cons_eraseIdx_perm inside
  | shutDown => simp [sends, accepts, step]

/-- Under the lock at most one write waits, and a step sends none that has been let pass after
it. -/
theorem sends_in_order {state : Interleaved} (few : state.pendingWrites.length ≤ 1)
    {taken : ThreadStep} (locked : state.LockKept taken) :
    (state.step ads autoparam toFloat32 taken).pendingWrites.length ≤ 1 ∧
      state.sends taken ++ (state.step ads autoparam toFloat32 taken).pendingWrites =
        state.pendingWrites ++ state.accepts autoparam toFloat32 taken := by
  cases taken with
  | scan input => simpa [sends, accepts, step, scan_pendingWrites] using few
  | poll adsVar registration request =>
      simp only [sends, accepts, step]
      split_ifs <;> simpa [poll] using few
  | checkWrite adsVar registration request =>
      have none_waits : state.pendingWrites = [] := locked.2
      simp only [sends, accepts, step]
      split_ifs
      · simp only [checkWrite, none_waits]
        split <;> simp [*]
      · simp [none_waits]
  | sendWrite index =>
      simp only [sends, accepts, step, sendWrite, List.append_nil]
      rcases waiting : state.pendingWrites with _ | ⟨write, _ | ⟨other, rest⟩⟩
      · simp [waiting]
      · cases index <;> simp [waiting]
      · rw [waiting] at few
        simp at few
  | shutDown => simpa [sends, accepts, step] using few

/-- A step adds to the requests the writes that it sends, and no others. -/
theorem dataWrites_step {state : Interleaved} {ledger : Ledger} (ledgered : state.Ledgered ledger)
    (taken : ThreadStep) :
    dataWrites (state.step ads autoparam toFloat32 taken).driver.trace =
      dataWrites state.driver.trace ++
        (state.sends taken).map (PendingWrite.request state.driver) := by
  cases taken with
  | scan input =>
      rw [sends, List.map_nil, List.append_nil]
      exact (state.section_scan ads autoparam input).dataWrites_eq
  | poll adsVar registration request =>
      rw [sends, List.map_nil, List.append_nil]
      simp only [step]
      split_ifs <;> rfl
  | checkWrite adsVar registration request =>
      rw [sends, List.map_nil, List.append_nil]
      simp only [step]
      split_ifs <;> rfl
  | sendWrite index =>
      simp only [step, sendWrite, sends]
      cases found : state.pendingWrites[index]? with
      | none => simp
      | some write =>
          -- the ledger knows that no variable is written at the address of a release
          have tracked := ledgered.pending write (List.mem_of_getElem? found)
          have by_value := (ledgered.addressed _ tracked).by_value
          simp [dataWrites, ADSVariable.sendWrite, ADSVariable.writeCall, AdsCall.writesData,
            by_value, PendingWrite.request]
  | shutDown => simp [step, sends]

/-- In every run of the threads, and whatever the library returns, the calls that write data are
those of the writes that were sent, each as its variable was addressed when it was sent; a write
is sent once after its checks have passed, or still waits; and under the driver's lock the writes
are sent in the order of their checks, and at most one waits. -/
theorem writes_once {ipAddr : Str} {amsNetId : AmsNetId}
    {sumBufferSize deviceReadAdsPort : UInt16} {heap : Heap} {driver : ADSPortDriver}
    (constructed : ADSPortDriver.new ipAddr amsNetId sumBufferSize deviceReadAdsPort heap =
      some driver) (links : List RecordLink) (interrupts : List Nat) (taken : List ThreadStep) :
    let begun := start driver links interrupts
    let state := run (step ads autoparam toFloat32) begun taken
    let sent := produced (step ads autoparam toFloat32) sends begun taken
    let accepted := produced (step ads autoparam toFloat32)
      (accepts autoparam toFloat32) begun taken
    dataWrites state.driver.trace = produced (step ads autoparam toFloat32)
        (fun state taken => (state.sends taken).map (PendingWrite.request state.driver)) begun
        taken ∧
      (sent ++ state.pendingWrites).Perm accepted ∧
      (EachMeets (step ads autoparam toFloat32) LockKept begun taken →
        sent ++ state.pendingWrites = accepted ∧ state.pendingWrites.length ≤ 1) := by
  have hooked := hooked_start constructed links interrupts
  intro begun state sent accepted
  have any : EachMeets (step ads autoparam toFloat32) (fun _ _ => True) begun taken :=
    fun _ _ _ => trivial
  refine ⟨?_, ?_, fun locked => ⟨?_, ?_⟩⟩
  · have none_yet : dataWrites begun.driver.trace = [] := by rw [hooked.no_events]; rfl
    have logged := log_run (fun state : Interleaved => ∃ ledger, state.Ledgered ledger)
      (fun state => dataWrites state.driver.trace)
      (fun state taken => (state.sends taken).map (PendingWrite.request state.driver))
      (fun _ taken ⟨_, ledgered⟩ => ⟨_, (ledgered.step ads autoparam toFloat32 taken).2⟩)
      (fun _ taken ⟨_, ledgered⟩ => dataWrites_step ads autoparam toFloat32 ledgered taken)
      ⟨_, ledgered_start constructed links interrupts⟩ taken
    rwa [none_yet, List.nil_append] at logged
  · exact kept_run sameItems_perm (fun _ => True) pendingWrites (accepts autoparam toFloat32) sends
      (fun _ _ _ _ => trivial)
      (fun state taken _ _ => state.sends_perm ads autoparam toFloat32 taken)
      trivial any
  · exact kept_run sameItems_eq (fun state => state.pendingWrites.length ≤ 1) pendingWrites
      (accepts autoparam toFloat32) sends
      (fun state taken few locked => (sends_in_order ads autoparam toFloat32 few locked).1)
      (fun state taken few locked => (sends_in_order ads autoparam toFloat32 few locked).2)
      (Nat.zero_le 1) locked
  · exact run_induction (fun state => state.pendingWrites.length ≤ 1)
      (fun state taken few locked => (sends_in_order ads autoparam toFloat32 few locked).1)
      (Nat.zero_le 1) locked

/-- A write of 5 to the second variable of the sample driver, with a pass of the scan thread between
its checks and its request. -/
def sampleWritten : List ThreadStep :=
  sampleSteps ++ [.checkWrite ⟨"INT".toList, 1⟩ (registerInteger .int .int16 .int32) sampleWrite,
    .scan ADSPortDriver.sampleInput, .sendWrite 0]

example : dataWrites (run (step SumReadRequest.sevensAds .sample fun _ => 0)
    (start ADSPortDriver.sampleDriver ADSPortDriver.sampleLinks [0, 2])
    sampleWritten).driver.trace =
      [.write 1 [10, 0, 0, 1, 1, 1] 851 adsigrpSymValByHnd 0 [5, 0]] := by decide

theorem writes_once_sample :
    produced (step SumReadRequest.sevensAds .sample fun _ => 0) sends
        (start ADSPortDriver.sampleDriver ADSPortDriver.sampleLinks [0, 2]) sampleWritten ++
      (run (step SumReadRequest.sevensAds .sample fun _ => 0)
        (start ADSPortDriver.sampleDriver ADSPortDriver.sampleLinks [0, 2])
        sampleWritten).pendingWrites =
    produced (step SumReadRequest.sevensAds .sample fun _ => 0) (accepts .sample fun _ => 0)
      (start ADSPortDriver.sampleDriver ADSPortDriver.sampleLinks [0, 2]) sampleWritten :=
  ((writes_once SumReadRequest.sevensAds .sample (fun _ => 0)
    (rfl : ADSPortDriver.new _ [10, 0, 0, 1, 1, 1] 2 851 ⟨SumReadRequest.sampleVars, []⟩ =
      some ADSPortDriver.sampleDriver) ADSPortDriver.sampleLinks [0, 2] sampleWritten).2.2
    (by decide)).1

end Interleaved

end AdsDriver
