import AdsDriver.Shutdown
import AdsDriver.WriteOrder

/-!
# The driver's lock

The scan thread takes the driver's lock before it reconnects, before it publishes and before it
leaves the connection at its end; the framework takes it for each call of a handler, and the
destructor to set `exitCalled`.  A step that needs the lock waits while another thread has it.
What runs under this lock is exactly what the discipline of the lock allows, and who has the lock
gives it back.
-/

namespace AdsDriver

open ByteMemory StatusSteps Runs Queues

/-- Who has the driver's lock. -/
inductive LockHolder
  | scanThread
  | handler
  deriving DecidableEq

/-- The threads with the driver's lock. -/
structure Locking where
  state : Interleaved
  holder : Option LockHolder := none

namespace Locking

/-- Whether a step has to wait for the lock. -/
def waits (locking : Locking) : ThreadStep → Bool
  | .scan _ => locking.state.scanPoint.takesLock && locking.holder.isSome
  | .poll _ _ _ | .checkWrite _ _ _ | .shutDown => locking.holder.isSome
  | .sendWrite _ => false

/-- Who has the lock after a step: the scan thread has it between sections of one scope, and a write
handler until its request has been sent. -/
def holderAfter (locking : Locking) (after : Interleaved) : ThreadStep → Option LockHolder
  | .scan _ =>
      if after.scanPoint.holdsLock then some .scanThread
      else if locking.holder = some .scanThread then none
      else locking.holder
  | .poll _ _ _ | .shutDown => locking.holder
  | .checkWrite _ _ _ => if after.pendingWrites = [] then none else some .handler
  | .sendWrite _ =>
      if locking.holder = some .handler && after.pendingWrites = [] then none else locking.holder

variable (ads : Ads) (autoparam : Autoparam) (toFloat32 : BitVec 64 → BitVec 32)

/-- A step of some thread, which may wait. -/
def step (locking : Locking) (taken : ThreadStep) : Locking :=
  if locking.waits taken then locking
  else
    let after := locking.state.step ads autoparam toFloat32 taken
    { state := after, holder := locking.holderAfter after taken }

/-- The steps that do not wait. -/
def runs (locking : Locking) (taken : ThreadStep) : List ThreadStep :=
  if locking.waits taken then [] else [taken]

/-- The lock is with the thread that is in a scope of it. -/
structure Guarded (locking : Locking) : Prop where
  scanThread_iff : locking.holder = some .scanThread ↔ locking.state.scanPoint.holdsLock = true
  handler_iff : locking.holder = some .handler ↔ locking.state.pendingWrites ≠ []
  one_waits : locking.state.pendingWrites.length ≤ 1

variable {locking : Locking}

theorem Guarded.free_iff (guarded : locking.Guarded) :
    locking.holder = none ↔
      locking.state.scanPoint.holdsLock = false ∧ locking.state.pendingWrites = [] := by
  have scan_iff := guarded.scanThread_iff
  have handler_iff := guarded.handler_iff
  rcases held : locking.holder with _ | (_ | _)
  · simp_all
  · simp [held] at scan_iff
    simp [scan_iff]
  · simp [held] at handler_iff
    simp [handler_iff]

theorem Guarded.lockKept (guarded : locking.Guarded) {taken : ThreadStep}
    (runs : locking.waits taken = false) :
    locking.state.LockKept taken := by
  cases taken with
  | scan input =>
      intro takes
      have free : locking.holder = none := by simpa [waits, takes] using runs
      exact (guarded.free_iff.mp free).2
  | poll adsVar registration request | checkWrite adsVar registration request =>
      have free : locking.holder = none := by simpa [waits] using runs
      exact guarded.free_iff.mp free
  | sendWrite index | shutDown => trivial

end Locking

theorem ScanPoint.takesLock_free (point : ScanPoint) (takes : point.takesLock = true) :
    point.holdsLock = false := by
  cases point with
  | deinitializeSumRead caller => cases caller <;> simp_all [takesLock, holdsLock]
  | _ => simp_all [takesLock, holdsLock]

/-- The lock is with the scan thread after a section only if the section has taken it or begun with
it. -/
theorem ScanPoint.Leads.holdsLock {driver : ADSPortDriver} {interrupts : List Nat}
    {before after : ScanPoint} (leads : Leads driver interrupts before after)
    (holds : after.holdsLock = true) : before.takesLock = true ∨ before.holdsLock = true := by
  cases leads with
  | exit => split_ifs at holds <;> cases holds
  | wait | reconnect | due | notDue | infoRead | stateRead | published | stay => cases holds
  | connected | opened | publish => exact .inl rfl
  | readVarsResolved | writeVarsResolved | initialized | publishOne => exact .inr rfl
  | started connecting | chunkRead _ connecting => exact .inr holds
  | chunksDone index connecting => cases connecting <;> cases holds
  | @failed _ caller fails =>
      cases before with
      | connect => exact .inl rfl
      | resolveReadVars | resolveWriteVars | initializeSumRead => exact .inr rfl
      | sumRead connecting | readChunk _ connecting =>
          cases connecting with
          | true => exact .inr rfl
          | false =>
              cases fails
              cases holds
      | readInfo | readState =>
          cases fails
          cases holds
      | _ => cases fails
  | keepHandles _ caller | releaseHandles _ _ caller =>
      cases caller with
      | request => cases holds
      | exit => exact .inl rfl
      | sumRead | reconnect => exact .inr rfl
  | notConnected _ _ caller =>
      cases caller with
      | sumRead | reconnect => exact .inr rfl
      | request | exit => cases holds
  | readVarsUnresolved | writeVarsUnresolved | disconnected => exact .inr holds
  | resume caller =>
      cases caller with
      | sumRead => exact .inr rfl
      | request | reconnect | exit => cases holds

namespace Locking

variable (ads : Ads) (autoparam : Autoparam) (toFloat32 : BitVec 64 → BitVec 32)
  {locking : Locking}

/-- Every step leaves the lock with the thread that is in a scope of it. -/
theorem Guarded.step (guarded : locking.Guarded) (taken : ThreadStep) :
    (locking.step ads autoparam toFloat32 taken).Guarded := by
  unfold Locking.step
  split_ifs with waits
  · exact guarded
  have kept := guarded.lockKept (by simpa using waits)
  obtain ⟨few, order⟩ := Interleaved.sends_in_order ads autoparam toFloat32 guarded.one_waits kept
  have free_iff := guarded.free_iff
  obtain ⟨scan_iff, handler_iff, one_waits⟩ := guarded
  cases taken with
  | scan input =>
      have pending_eq : (locking.state.step ads autoparam toFloat32 (.scan input)).pendingWrites =
          locking.state.pendingWrites := locking.state.scan_pendingWrites ads autoparam input
      have entered : (locking.state.step ads autoparam toFloat32
        (.scan input)).scanPoint.holdsLock =
          true → locking.state.pendingWrites = [] := by
        intro holds
        rcases (locking.state.leads_scan ads autoparam input).holdsLock holds with takes | held
        · exact kept takes
        · simpa [scan_iff.mpr held] using handler_iff
      generalize locking.state.step ads autoparam toFloat32 (.scan input) = after at *
      refine ⟨?_, ?_, few⟩
      · simp only [holderAfter]
        split_ifs <;> simp_all
      · simp only [holderAfter, pending_eq]
        split_ifs <;> simp_all
  | poll adsVar registration request =>
      have point_eq := locking.state.scanPoint_step ads autoparam toFloat32
        (rfl : ThreadStep.scans (.poll adsVar registration request) = false)
      generalize locking.state.step ads autoparam toFloat32 (.poll adsVar registration request) =
        after at *
      have pending_eq : after.pendingWrites = locking.state.pendingWrites := by
        simpa [Interleaved.sends, Interleaved.accepts] using order
      refine ⟨?_, ?_, few⟩
      · simpa only [holderAfter, point_eq] using scan_iff
      · simpa only [holderAfter, pending_eq] using handler_iff
  | checkWrite adsVar registration request =>
      have point_eq := locking.state.scanPoint_step ads autoparam toFloat32
        (rfl : ThreadStep.scans (.checkWrite adsVar registration request) = false)
      generalize locking.state.step ads autoparam toFloat32
        (.checkWrite adsVar registration request) = after at *
      have not_held : after.scanPoint.holdsLock = false := by rw [point_eq, kept.1]
      refine ⟨?_, ?_, few⟩
      · simp only [holderAfter, not_held]
        split_ifs <;> simp
      · simp only [holderAfter]
        split_ifs with none_waits <;> simp [none_waits]
  | sendWrite index =>
      have point_eq := locking.state.scanPoint_step ads autoparam toFloat32
        (rfl : ThreadStep.scans (.sendWrite index) = false)
      generalize locking.state.step ads autoparam toFloat32 (.sendWrite index) = after at *
      have none_new : locking.state.pendingWrites = [] → after.pendingWrites = [] := by
        intro none_waits
        simpa [Interleaved.sends, Interleaved.accepts, none_waits] using order
      refine ⟨?_, ?_, few⟩
      · simp only [holderAfter, point_eq]
        split_ifs with sent <;> simp_all
      · simp only [holderAfter]
        split_ifs with sent <;> simp_all
        exact ⟨sent, mt none_new⟩
  | shutDown => exact ⟨scan_iff, handler_iff, few⟩

theorem guarded_run (guarded : locking.Guarded) (taken : List ThreadStep) :
    (run (step ads autoparam toFloat32) locking taken).Guarded :=
  run_invariant Guarded (fun _ taken guarded => guarded.step ads autoparam toFloat32 taken) guarded
    taken

theorem guarded_start (driver : ADSPortDriver) (links : List RecordLink) (interrupts : List Nat) :
    ({ state := Interleaved.start driver links interrupts } : Locking).Guarded :=
  ⟨by simp [Interleaved.start, ScanPoint.holdsLock], by simp [Interleaved.start], Nat.zero_le 1⟩

/-- A step that keeps the discipline of the lock need not wait for it. -/
theorem Guarded.not_waits (guarded : locking.Guarded) {taken : ThreadStep}
    (kept : locking.state.LockKept taken) (not_shutDown : taken ≠ .shutDown) :
    locking.waits taken = false := by
  cases taken with
  | scan input =>
      cases takes : locking.state.scanPoint.takesLock with
      | false => simp [waits, takes]
      | true =>
          have free := guarded.free_iff.mpr
            ⟨locking.state.scanPoint.takesLock_free takes, kept takes⟩
          simp [waits, free]
  | poll adsVar registration request | checkWrite adsVar registration request =>
      simp [waits, guarded.free_iff.mpr kept]
  | sendWrite index => rfl
  | shutDown => exact absurd rfl not_shutDown

/-- The steps of a run that do not wait are a run that keeps the discipline. -/
theorem refines_run (guarded : locking.Guarded) (taken : List ThreadStep) :
    let done := produced (step ads autoparam toFloat32) runs locking taken
    (run (step ads autoparam toFloat32) locking taken).state =
        run (Interleaved.step ads autoparam toFloat32) locking.state done ∧
      EachMeets (Interleaved.step ads autoparam toFloat32) Interleaved.LockKept locking.state
        done := by
  induction taken using List.reverseRecOn with
  | nil => exact ⟨rfl, eachMeets_nil _ _ _⟩
  | append_singleton taken last ih =>
      obtain ⟨state_eq, kept⟩ := ih
      have reached := guarded_run ads autoparam toFloat32 guarded taken
      simp only [produced_concat, run_concat]
      generalize run (step ads autoparam toFloat32) locking taken = before at *
      cases waits : before.waits last with
      | true =>
          simp only [step, runs, waits, if_true, List.append_nil]
          exact ⟨state_eq, kept⟩
      | false =>
          simp only [step, runs, waits, Bool.false_eq_true, if_false, run_concat, eachMeets_concat]
          rw [← state_eq]
          exact ⟨rfl, kept, reached.lockKept waits⟩

theorem runs_all (guarded : locking.Guarded) {taken : List ThreadStep}
    (kept : EachMeets (Interleaved.step ads autoparam toFloat32) Interleaved.LockKept locking.state
      taken) (no_shutDown : .shutDown ∉ taken) :
    produced (step ads autoparam toFloat32) runs locking taken = taken := by
  induction taken generalizing locking with
  | nil => rfl
  | cons first rest ih =>
      obtain ⟨first_kept, rest_kept⟩ := eachMeets_cons.mp kept
      rw [List.mem_cons, not_or] at no_shutDown
      have not_waits := guarded.not_waits first_kept (Ne.symm no_shutDown.1)
      have stepped : (locking.step ads autoparam toFloat32 first).state =
          locking.state.step ads autoparam toFloat32 first := by simp [step, not_waits]
      rw [produced, ih (guarded.step ads autoparam toFloat32 first) (stepped ▸ rest_kept)
        no_shutDown.2]
      simp [runs, not_waits]

/-- Threads that wait for the lock run like threads that keep its discipline: what they have run
without waiting is a run that keeps it, and steps up to the destructor, which may wait for the lock
too, wait for nothing exactly when they keep it. -/
theorem lock_discipline (driver : ADSPortDriver) (links : List RecordLink) (interrupts : List Nat)
    (taken : List ThreadStep) :
    let begun := Interleaved.start driver links interrupts
    let done := produced (step ads autoparam toFloat32) runs { state := begun } taken
    (run (step ads autoparam toFloat32) { state := begun } taken).state =
        run (Interleaved.step ads autoparam toFloat32) begun done ∧
      EachMeets (Interleaved.step ads autoparam toFloat32) Interleaved.LockKept begun done ∧
      (.shutDown ∉ taken → (done = taken ↔
        EachMeets (Interleaved.step ads autoparam toFloat32) Interleaved.LockKept begun
          taken)) := by
  have guarded := guarded_start driver links interrupts
  intro begun done
  obtain ⟨state_eq, kept⟩ := refines_run ads autoparam toFloat32 guarded taken
  exact ⟨state_eq, kept, fun no_shutDown => ⟨fun all => all ▸ kept,
    fun kept => runs_all ads autoparam toFloat32 guarded kept no_shutDown⟩⟩

/-- The scan thread of the sample driver reconnects while a record is to be read, which waits. -/
def sampleReconnect : List ThreadStep :=
  List.replicate 3 (.scan ADSPortDriver.sampleInput) ++
    [.poll ⟨"INT".toList, 0⟩ (registerInteger .int .int16 .int32)
      ⟨0, ⟨[], 0, 0⟩, ⟨[], 0⟩, fun _ => 0⟩]

theorem lock_discipline_sample :
    produced (step SumReadRequest.sevensAds .sample fun _ => 0) runs
        { state := Interleaved.start ADSPortDriver.sampleDriver ADSPortDriver.sampleLinks [0, 2] }
        sampleReconnect = sampleReconnect ↔
      EachMeets (Interleaved.step SumReadRequest.sevensAds .sample fun _ => 0) Interleaved.LockKept
        (Interleaved.start ADSPortDriver.sampleDriver ADSPortDriver.sampleLinks [0, 2])
        sampleReconnect :=
  (lock_discipline SumReadRequest.sevensAds .sample (fun _ => 0) ADSPortDriver.sampleDriver
    ADSPortDriver.sampleLinks [0, 2] sampleReconnect).2.2 (by simp [sampleReconnect])

end Locking

/-- The variables that are still to be published before the lock is given back. -/
def ScanPoint.leftToPublish : ScanPoint → List ADSDeviceVar
  | .publishing left => left
  | _ => []

/-- How many sections of the scan thread follow the return of `ADSDisconnect` before it gives the
lock back. -/
def DisconnectCaller.lockRank : DisconnectCaller → Nat
  | .sumRead => 5
  | .request | .reconnect | .exit => 0

/-- How many sections the scan thread runs at most before it gives the lock back. -/
def ScanPoint.lockRank (chunks : Nat) : ScanPoint → Nat
  | .resolveReadVars => chunks + 15
  | .resolveWriteVars => chunks + 14
  | .initializeSumRead => chunks + 13
  | .sumRead _ => chunks + 12
  | .readChunk index _ => chunks - index + 11
  | .publishing left => left.length + 1
  | .deinitializeSumRead caller => caller.lockRank + 5
  | .unresolveReadVars caller => caller.lockRank + 4
  | .unresolveWriteVars caller => caller.lockRank + 3
  | .disconnect caller => caller.lockRank + 2
  | .setDisconnected caller => caller.lockRank + 1
  | _ => 0

theorem DisconnectCaller.lockRank_le (caller : DisconnectCaller) : caller.lockRank ≤ 5 := by
  cases caller <;> decide

theorem ScanPoint.lockRank_le (chunks : Nat) (point : ScanPoint) :
    point.lockRank chunks ≤ chunks + point.leftToPublish.length + 15 := by
  cases point with
  | deinitializeSumRead caller | unresolveReadVars caller | unresolveWriteVars caller
  | disconnect caller | setDisconnected caller =>
      have near := caller.lockRank_le
      simp only [lockRank]
      omega
  | _ =>
      simp only [lockRank, leftToPublish]
      omega

theorem ScanPoint.lockRank_pos (chunks : Nat) {point : ScanPoint} (held : point.holdsLock = true) :
    0 < point.lockRank chunks := by
  cases point <;> simp_all [holdsLock, lockRank]

/-- While the scan thread has the lock, every section brings it nearer to giving the lock back. -/
theorem ScanPoint.Leads.lockRank {driver : ADSPortDriver} {interrupts : List Nat}
    {before after : ScanPoint} (leads : Leads driver interrupts before after)
    (held : before.holdsLock = true) :
    after.holdsLock = false ∨ after.lockRank driver.sumRead.getChunks.length + 1 ≤
      before.lockRank driver.sumRead.getChunks.length := by
  cases leads with
  | exit | wait | reconnect | due | notDue | connected | opened | infoRead | stateRead | publish
  | stay => cases held
  | published => exact .inl rfl
  | chunksDone index connecting => cases connecting <;> exact .inl rfl
  | @failed _ caller fails =>
      have near := caller.lockRank_le
      refine .inr ?_
      cases before with
      | connect | readInfo | readState => cases held
      | resolveReadVars | resolveWriteVars | initializeSumRead | sumRead _ | readChunk _ _ =>
          simp only [ScanPoint.lockRank]
          omega
      | _ => cases fails
  | notConnected _ _ caller | resume caller =>
      cases caller with
      | sumRead => exact .inr (by simp [DisconnectCaller.resume, ScanPoint.lockRank,
          DisconnectCaller.lockRank])
      | request | reconnect | exit => exact .inl rfl
  | _ =>
      refine .inr ?_
      simp only [ScanPoint.lockRank, List.length_cons]
      omega

/-- The steps by which a thread proceeds while it has the lock. -/
def LockHolder.proceeds : LockHolder → ThreadStep → Bool
  | .scanThread, taken => taken.scans
  | .handler, .sendWrite index => index = 0
  | .handler, _ => false

namespace Locking

/-- How many steps of its own a thread needs at most to give the lock back. -/
def bound (locking : Locking) : LockHolder → Nat
  | .scanThread => locking.state.driver.sumRead.getChunks.length +
      locking.state.scanPoint.leftToPublish.length + 15
  | .handler => 1

variable (ads : Ads) (autoparam : Autoparam) (toFloat32 : BitVec 64 → BitVec 32)
  {locking : Locking}

/-- A step of another thread leaves the scan thread with the lock where it is, and a section of
the scan thread gives the lock back or brings that nearer. -/
theorem Guarded.scanThread_step (guarded : locking.Guarded)
    (held : locking.holder = some .scanThread) (taken : ThreadStep) :
    let after := locking.step ads autoparam toFloat32 taken
    after.holder = none ∨ (after.holder = some .scanThread ∧
      after.state.scanPoint.lockRank after.state.driver.sumRead.getChunks.length +
          (if taken.scans then 1 else 0) ≤
        locking.state.scanPoint.lockRank locking.state.driver.sumRead.getChunks.length) := by
  have in_scope := guarded.scanThread_iff.mp held
  have same_chunks :=
    (locking.state.keeps_step ads autoparam toFloat32 taken).length_getChunks
  have not_taking : locking.state.scanPoint.takesLock = false := by
    by_contra takes
    have free := locking.state.scanPoint.takesLock_free (by simpa using takes)
    exact Bool.false_ne_true (free.symm.trans in_scope)
  cases taken with
  | scan input =>
      have runs : locking.waits (.scan input) = false := by simp [waits, not_taking]
      simp only [Locking.step, runs, Bool.false_eq_true, if_false, holderAfter]
      rcases (locking.state.leads_scan ads autoparam input).lockRank in_scope with free | nearer
      · exact .inl (by simp [Interleaved.step, free, held])
      · rw [same_chunks]
        by_cases free : (locking.state.scan ads autoparam input).scanPoint.holdsLock = true
        · exact .inr ⟨if_pos free, nearer⟩
        · exact .inl (by simp [Interleaved.step, free, held])
  | sendWrite index =>
      have point_eq := locking.state.scanPoint_step ads autoparam toFloat32
        (rfl : ThreadStep.scans (.sendWrite index) = false)
      refine .inr ?_
      simp [Locking.step, waits, holderAfter, held, same_chunks, point_eq, ThreadStep.scans]
  | poll adsVar registration request | checkWrite adsVar registration request | shutDown =>
      exact .inr (by simp [Locking.step, waits, held, ThreadStep.scans])

/-- A step of another thread leaves a write handler with the lock, and its request gives the lock
back. -/
theorem Guarded.handler_step (guarded : locking.Guarded) (held : locking.holder = some .handler)
    (taken : ThreadStep) :
    let after := locking.step ads autoparam toFloat32 taken
    after.holder = none ∨
      (after.holder = some .handler ∧ LockHolder.handler.proceeds taken = false) := by
  have after_guarded := guarded.step ads autoparam toFloat32 taken
  have waiting := guarded.handler_iff.mp held
  cases taken with
  | scan input =>
      refine .inr ⟨after_guarded.handler_iff.mpr ?_, rfl⟩
      unfold Locking.step
      split_ifs
      · exact waiting
      · exact (locking.state.scan_pendingWrites ads autoparam input).trans_ne waiting
  | sendWrite index =>
      obtain ⟨write, waiting_eq⟩ : ∃ write, locking.state.pendingWrites = [write] :=
        List.length_eq_one_iff.mp
          (Nat.le_antisymm guarded.one_waits (List.length_pos_iff.mpr waiting))
      cases index with
      | zero =>
          refine .inl ?_
          simp [Locking.step, waits, holderAfter, held, Interleaved.step, Interleaved.sendWrite,
            waiting_eq]
      | succ index =>
          refine .inr ⟨?_, rfl⟩
          simp [Locking.step, waits, holderAfter, held, Interleaved.step, Interleaved.sendWrite,
            waiting_eq]
  | poll adsVar registration request | checkWrite adsVar registration request | shutDown =>
      exact .inr ⟨by simp [Locking.step, waits, held], rfl⟩

/-- A run in which the scan thread has the lock gives it back after enough sections. -/
theorem Guarded.scanThread_run (guarded : locking.Guarded)
    (held : locking.holder = some .scanThread) {taken : List ThreadStep}
    (enough : locking.state.scanPoint.lockRank locking.state.driver.sumRead.getChunks.length ≤
      taken.countP ThreadStep.scans) :
    ∃ front, front <+: taken ∧
      (run (Locking.step ads autoparam toFloat32) locking front).holder = none := by
  have any : EachMeets (Locking.step ads autoparam toFloat32) (fun _ _ => True) locking taken :=
    fun _ _ _ => trivial
  refine arrives_run (fun locking => Guarded locking ∧ locking.holder = some .scanThread)
    (fun locking => locking.holder = none) (fun locking : Locking =>
      locking.state.scanPoint.lockRank locking.state.driver.sumRead.getChunks.length)
    ThreadStep.scans ?far ?nearer ⟨guarded, held⟩ any enough
  case far =>
    rintro locking ⟨guarded, held⟩
    exact ScanPoint.lockRank_pos _ (guarded.scanThread_iff.mp held)
  case nearer =>
    rintro locking taken ⟨guarded, held⟩ -
    have kept := guarded.step ads autoparam toFloat32 taken
    exact (guarded.scanThread_step ads autoparam toFloat32 held taken).imp_right fun nearer =>
      ⟨⟨kept, nearer.1⟩, nearer.2⟩

theorem Guarded.handler_run (guarded : locking.Guarded) (held : locking.holder = some .handler)
    {taken : List ThreadStep} (enough : 1 ≤ taken.countP LockHolder.handler.proceeds) :
    ∃ front, front <+: taken ∧
      (run (Locking.step ads autoparam toFloat32) locking front).holder = none := by
  have any : EachMeets (Locking.step ads autoparam toFloat32) (fun _ _ => True) locking taken :=
    fun _ _ _ => trivial
  refine arrives_run (fun locking => Guarded locking ∧ locking.holder = some .handler)
    (fun locking => locking.holder = none) (fun _ => 1) LockHolder.handler.proceeds
    (fun _ _ => Nat.one_pos) ?_ ⟨guarded, held⟩ any enough
  rintro locking taken ⟨guarded, held⟩ -
  have kept := guarded.step ads autoparam toFloat32 taken
  refine (guarded.handler_step ads autoparam toFloat32 held taken).imp_right fun other =>
    ⟨⟨kept, other.1⟩, ?_⟩
  simp [other.2]

/-- Nobody is locked out: whenever a thread has the lock, it has given it back after a bounded
number of its own steps, whatever the library returns and the other threads do; the scan thread
needs no more than fifteen sections and one for each chunk or for each variable that it still
publishes. -/
theorem lock_comes_free (driver : ADSPortDriver) (links : List RecordLink) (interrupts : List Nat)
    {before after : List ThreadStep} {holder : LockHolder} {locking : Locking}
    (reached : run (step ads autoparam toFloat32)
      { state := Interleaved.start driver links interrupts } before = locking)
    (held : locking.holder = some holder)
    (enough : locking.bound holder ≤ after.countP holder.proceeds) :
    ∃ front, front <+: after ∧
      (run (step ads autoparam toFloat32) locking front).holder = none := by
  have guarded := guarded_run ads autoparam toFloat32 (guarded_start driver links interrupts) before
  rw [reached] at guarded
  cases holder with
  | scanThread =>
      refine guarded.scanThread_run ads autoparam toFloat32 held ?_
      exact (ScanPoint.lockRank_le _ _).trans enough
  | handler => exact guarded.handler_run ads autoparam toFloat32 held enough

/-- The scan thread of the sample driver takes the lock to reconnect, and gives it back. -/
theorem lock_comes_free_sample :
    ∃ front, front <+: List.replicate 20 (.scan ADSPortDriver.sampleInput) ∧
      (run (step SumReadRequest.sevensAds .sample fun _ => 0)
        (run (step SumReadRequest.sevensAds .sample fun _ => 0)
          { state := Interleaved.start ADSPortDriver.sampleDriver ADSPortDriver.sampleLinks [0, 2] }
          (List.replicate 2 (.scan ADSPortDriver.sampleInput))) front).holder = none :=
  lock_comes_free SumReadRequest.sevensAds .sample (fun _ => 0) ADSPortDriver.sampleDriver
    ADSPortDriver.sampleLinks [0, 2] rfl (by decide : _ = some .scanThread) (by decide)

end Locking

end AdsDriver
