import AdsDriver.HandleLedger
import AdsDriver.WriteOperation

/-!
# Writes between a check and a disconnect

`write` checks that the name of its variable is resolved before it takes the mutex, and reads the
address after.  The scan thread disconnects after a failed request without the driver's lock, so it
may take the handle in between, while the port is still open.
-/

namespace AdsDriver

open ByteMemory Runs

namespace Interleaved

variable (ads : Ads) (autoparam : Autoparam) (toFloat32 : BitVec 64 → BitVec 32)

/-- A write that is sent on an open connection goes to the handle that the variable holds. -/
def WritesByHandle (logged : Interleaved × List LogEntry) : ThreadStep → Prop
  | .sendWrite index =>
      let driver := logged.1.driver
      ∀ write ∈ logged.1.pendingWrites[index]?, driver.adsConnection.isConnected = true →
        ∃ event handle, (logged.1.sendWrite ads index).driver.trace = driver.trace ++ [event] ∧
          (run Ledger.after {} logged.2).held write.var = some handle ∧
          event.call = .write driver.adsConnection.adsPort driver.adsConnection.remoteAmsNetId
            (driver.heap.vars write.var).addr.adsPort adsigrpSymValByHnd handle write.buffer
  | _ => True

/-- The name of the variable is still resolved when a write has taken the mutex. -/
def StillResolved (state : Interleaved) : ThreadStep → Prop
  | .sendWrite index =>
      ∀ write ∈ state.pendingWrites[index]?, state.driver.adsConnection.isConnected = true →
        (state.driver.heap.vars write.var).addr.nameIsResolved = true
  | _ => True

instance (state : Interleaved) : (taken : ThreadStep) → Decidable (state.StillResolved taken)
  | .sendWrite index => inferInstanceAs (Decidable (∀ write ∈ state.pendingWrites[index]?, _))
  | .scan _ | .poll _ _ _ | .checkWrite _ _ _ | .shutDown => inferInstanceAs (Decidable True)

theorem Ledgered.writesByHandle_iff {state : Interleaved} {entries : List LogEntry}
    (ledgered : state.Ledgered (run Ledger.after {} entries)) (taken : ThreadStep) :
    WritesByHandle ads (state, entries) taken ↔ state.StillResolved taken := by
  cases taken with
  | sendWrite index =>
      refine forall_congr' fun write => imp_congr_right fun found =>
        imp_congr_right fun connected => ?_
      have tracked := ledgered.pending write (List.mem_of_getElem? found)
      have held_eq := ledgered.held_eq.held_eq tracked
      constructor
      · rintro ⟨_, handle, _, held, _⟩
        by_contra unresolved
        rw [held_eq, ADSVariable.handle?, if_neg unresolved] at held
        cases held
      · intro resolved
        refine ⟨ads.event state.driver.trace ((state.driver.heap.vars write.var).writeCall
          state.driver.adsConnection write.buffer),
          (state.driver.heap.vars write.var).addr.indexOffset, ?_, ?_, ?_⟩
        · simp only [sendWrite, Option.mem_def.mp found]
          rfl
        · rw [held_eq, ADSVariable.handle?, if_pos resolved]
        · rw [Ads.call_event, ADSVariable.writeCall,
            (ledgered.addressed _ tracked).resolved resolved]
  | _ => exact Iff.rfl

/-- In every run of the threads, and whatever the library returns, all writes that are sent on an
open connection go to the handles that their variables hold exactly when each of them finds the
name of its variable still resolved once it has the mutex. -/
theorem writes_by_handle_iff {ipAddr : Str} {amsNetId : AmsNetId}
    {sumBufferSize deviceReadAdsPort : UInt16} {heap : Heap} {driver : ADSPortDriver}
    (constructed : ADSPortDriver.new ipAddr amsNetId sumBufferSize deviceReadAdsPort heap =
      some driver) (links : List RecordLink) (interrupts : List Nat) (taken : List ThreadStep) :
    EachMeets (logStep ads autoparam toFloat32) (WritesByHandle ads)
        (start driver links interrupts, []) taken ↔
      EachMeets (step ads autoparam toFloat32) StillResolved (start driver links interrupts)
        taken := by
  refine .trans (eachMeets_congr
    (fun logged : Interleaved × List LogEntry =>
      logged.1.Ledgered (run Ledger.after {} logged.2))
    (fun logged taken ledgered => ledgered.writesByHandle_iff ads taken)
    (fun logged taken ledgered _ => ?_) (ledgered_start constructed links interrupts) taken)
    (eachMeets_follow Prod.fst (fun _ _ => rfl) StillResolved _ taken)
  rw [logStep, run_append]
  exact (ledgered.step ads autoparam toFloat32 taken).2

/-- The sample driver connects, and a write of 5 to its second variable passes its checks. -/
def checkedWrite : List ThreadStep :=
  sampleSteps ++ [.checkWrite ⟨"INT".toList, 1⟩ (registerInteger .int .int16 .int32) sampleWrite]

/-- A write that is sent at once goes to the handle. -/
theorem writes_by_handle_iff_sample :
    EachMeets (logStep SumReadRequest.sevensAds .sample fun _ => 0)
      (WritesByHandle SumReadRequest.sevensAds)
      (start ADSPortDriver.sampleDriver ADSPortDriver.sampleLinks [0, 2], [])
      (checkedWrite ++ [.sendWrite 0]) := by
  refine (writes_by_handle_iff SumReadRequest.sevensAds .sample (fun _ => 0)
    (rfl : ADSPortDriver.new _ [10, 0, 0, 1, 1, 1] 2 851 ⟨SumReadRequest.sampleVars, []⟩ =
      some ADSPortDriver.sampleDriver) ADSPortDriver.sampleLinks [0, 2] _).mpr ?_
  decide

/-- The scan thread asks for the device state, fails and unresolves all variables between the checks
of the write and its request. -/
def overtakenWrite : List ThreadStep :=
  sampleSteps ++ List.replicate 2 (.scan ADSPortDriver.sampleInput) ++
    [.checkWrite ⟨"INT".toList, 1⟩ (registerInteger .int .int16 .int32) sampleWrite] ++
    List.replicate 4 (.scan ADSPortDriver.sampleInput)

/-- The write is sent on the open port, with index group and offset 0. -/
theorem write_sent_without_handle :
    EachMeets (step lostAds .sample fun _ => 0) LockKept
        (start ADSPortDriver.sampleDriver ADSPortDriver.sampleLinks [0, 2])
        (overtakenWrite ++ [.sendWrite 0]) ∧
      (run (step lostAds .sample fun _ => 0)
        (start ADSPortDriver.sampleDriver ADSPortDriver.sampleLinks [0, 2])
        overtakenWrite).driver.adsConnection.isConnected = true ∧
      ((run (step lostAds .sample fun _ => 0)
        (start ADSPortDriver.sampleDriver ADSPortDriver.sampleLinks [0, 2])
        (overtakenWrite ++ [.sendWrite 0])).driver.trace.getLast?.map AdsEvent.call) =
        some (.write 1 [10, 0, 0, 1, 1, 1] 851 0 0 [5, 0]) ∧
      ¬ EachMeets (logStep lostAds .sample fun _ => 0) (WritesByHandle lostAds)
        (start ADSPortDriver.sampleDriver ADSPortDriver.sampleLinks [0, 2], [])
        (overtakenWrite ++ [.sendWrite 0]) := by
  refine ⟨by decide, by decide, by decide, fun by_handle => ?_⟩
  obtain ⟨event, handle, trace_eq, held, _⟩ := by_handle overtakenWrite (.sendWrite 0)
    (List.prefix_refl _) ⟨1, [5, 0]⟩ (by decide) (by decide)
  have none_held : (run Ledger.after {} (run (logStep lostAds .sample fun _ => 0)
      (start ADSPortDriver.sampleDriver ADSPortDriver.sampleLinks [0, 2], [])
      overtakenWrite).2).held 1 = none := by
    decide
  cases none_held.symm.trans held

end Interleaved

end AdsDriver
