import AdsDriver.InterleavingFrame

/-!
# Handles by variable

Requests name a variable by its text or its handle, which different variables may share.  The log
tells for which variable the loops of `resolve_variables` and `unresolve_variables` made a request,
and which handles `unresolve_variables` gave up without one.
-/

namespace AdsDriver

open ByteMemory StatusSteps Runs

namespace AdsCall

/-- Calls that open or close the route or the port. -/
def onLink : AdsCall → Bool
  | .addRoute _ _ | .delRoute _ | .portOpen | .portClose _ => true
  | _ => false

/-- Calls that look up a handle. -/
def looksUp : AdsCall → Bool
  | .readWrite _ _ _ group _ _ _ _ => group = adsigrpSymHndByName
  | _ => false

/-- Calls that release a handle. -/
def releases : AdsCall → Bool
  | .write _ _ _ group _ _ => group = adsigrpSymReleaseHnd
  | _ => false

/-- Calls that neither change the link nor which handles are held. -/
structure Ordinary (call : AdsCall) : Prop where
  off_link : call.onLink = false
  no_lookup : call.looksUp = false
  no_release : call.releases = false

end AdsCall

/-- An entry of the log. -/
inductive LogEntry
  /-- A request with its answer, made for a variable if a loop over variables made it. -/
  | request (owner : Option VarId) (event : AdsEvent)
  /-- A handle that `unresolve_variables` has given up without a request. -/
  | skipped (var : VarId)
  deriving DecidableEq

/-- The event of an entry. -/
def LogEntry.event? : LogEntry → Option AdsEvent
  | .request _ event => some event
  | .skipped _ => none

namespace ADSVariable

variable (ads : Ads) (connection : Connection) (id : VarId) (var : ADSVariable) (trace : Trace)

/-- The entry that the body of the loop of `resolve_variables` makes. -/
def resolveEntries : List LogEntry :=
  if var.addr.nameIsResolved = true then []
  else [.request (some id) (ads.event trace (connection.lookUpCall var.addr))]

/-- The entry that the body of the loop of `unresolve_variables` makes. -/
def unresolveEntries (adsIsConnected : Bool) : List LogEntry :=
  if var.addr.nameIsResolved = false then []
  else if adsIsConnected then
    [.request (some id) (ads.event trace (connection.releaseCall var.addr))]
  else [.skipped id]

theorem resolveName_trace :
    (var.resolveName ads connection trace).2.2 =
      trace ++ (var.resolveEntries ads connection id trace).filterMap LogEntry.event? := by
  unfold resolveName resolveEntries
  by_cases resolved : var.addr.nameIsResolved = true
  · simp [resolved]
  · rw [if_neg resolved, if_neg resolved]
    dsimp only
    split_ifs <;> rfl

theorem unresolveName_trace (adsIsConnected : Bool) :
    (var.unresolveName ads connection adsIsConnected trace).2.2.2 = trace ++
      (var.unresolveEntries ads connection id trace adsIsConnected).filterMap LogEntry.event? := by
  unfold unresolveName unresolveEntries
  split_ifs
  · simp
  · rfl
  · simp [LogEntry.event?]

end ADSVariable

namespace Connection

variable (ads : Ads) (connection : Connection)

/-- The entries of the loop of `resolve_variables`. -/
def resolveLoopEntries : List VarId → Vars → Trace → List LogEntry
  | [], _, _ => []
  | var :: rest, vars, trace =>
      let named := (vars var).resolveName ads connection trace
      (vars var).resolveEntries ads connection var trace ++
        resolveLoopEntries rest (Function.update vars var named.2.1) named.2.2

/-- The entries of the loop of `unresolve_variables`. -/
def unresolveLoopEntries : List VarId → Bool → Vars → Trace → List LogEntry
  | [], _, _, _ => []
  | var :: rest, adsIsConnected, vars, trace =>
      let named := (vars var).unresolveName ads connection adsIsConnected trace
      (vars var).unresolveEntries ads connection var trace adsIsConnected ++
        unresolveLoopEntries rest named.1 (Function.update vars var named.2.2.1) named.2.2.2

theorem resolveLoop_trace (ids : List VarId) (status : Int) (vars : Vars) (trace : Trace) :
    (resolveLoop ads connection ids status vars trace).2.2 = trace ++
      (resolveLoopEntries ads connection ids vars trace).filterMap LogEntry.event? := by
  induction ids generalizing status vars trace with
  | nil => simp [resolveLoop, resolveLoopEntries]
  | cons var rest ih =>
      rw [resolveLoop, resolveLoopEntries, ih, List.filterMap_append, ← List.append_assoc,
        ← (vars var).resolveName_trace]

theorem unresolveLoop_trace (ids : List VarId) (adsIsConnected unresolveErrors : Bool) (vars : Vars)
    (trace : Trace) :
    (unresolveLoop ads connection ids adsIsConnected unresolveErrors vars trace).2.2.2 = trace ++
      (unresolveLoopEntries ads connection ids adsIsConnected vars trace).filterMap
        LogEntry.event? := by
  induction ids generalizing adsIsConnected unresolveErrors vars trace with
  | nil => simp [unresolveLoop, unresolveLoopEntries]
  | cons var rest ih =>
      rw [unresolveLoop, unresolveLoopEntries, ih, List.filterMap_append, ← List.append_assoc,
        ← (vars var).unresolveName_trace]

end Connection

namespace ADSPortDriver

variable (ads : Ads)

/-- The entries of a call of `resolve_variables`. -/
def resolveEntries (adsVariables : List VarId) (driver : ADSPortDriver) : List LogEntry :=
  if driver.adsConnection.isConnected then
    driver.adsConnection.resolveLoopEntries ads adsVariables driver.heap.vars driver.trace
  else []

/-- The entries of a call of `unresolve_variables`. -/
def unresolveEntries (adsVariables : List VarId) (driver : ADSPortDriver) : List LogEntry :=
  driver.adsConnection.unresolveLoopEntries ads adsVariables driver.adsConnection.isConnected
    driver.heap.vars driver.trace

theorem resolveVariables_trace (list : ADSPortDriver → List VarId) (driver : ADSPortDriver) :
    (resolveVariables ads list driver).2.trace =
      driver.trace ++ (driver.resolveEntries ads (list driver)).filterMap LogEntry.event? := by
  unfold resolveVariables Step.onlyIf Connection.resolveVariables resolveEntries
  by_cases empty : list driver = []
  · simp [empty, Connection.resolveLoopEntries]
  · cases connected : driver.adsConnection.isConnected with
    | false => simp [empty, connected]
    | true => simpa [empty, connected] using driver.adsConnection.resolveLoop_trace ads _ 0 _ _

theorem unresolveVariables_trace (driver : ADSPortDriver) (adsVariables : List VarId) :
    (driver.unresolveVariables ads adsVariables).trace =
      driver.trace ++ (driver.unresolveEntries ads adsVariables).filterMap LogEntry.event? := by
  unfold unresolveVariables Connection.unresolveVariables unresolveEntries
  split_ifs with empty
  · simp [empty, Connection.unresolveLoopEntries]
  · exact driver.adsConnection.unresolveLoop_trace ads _ _ _ _ _

/-- A section keeps the connection, `exitCalled` and where variables are found, and makes ordinary
requests. -/
structure Quiet (before after : ADSPortDriver) : Prop where
  connection_eq : after.adsConnection = before.adsConnection
  exitCalled_eq : after.exitCalled = before.exitCalled
  addr_eq : ∀ var, (after.heap.vars var).addr = (before.heap.vars var).addr
  sent : ∃ events, after.trace = before.trace ++ events ∧ ∀ event ∈ events, event.call.Ordinary

theorem Quiet.refl (driver : ADSPortDriver) : driver.Quiet driver :=
  ⟨rfl, rfl, fun _ => rfl, [], by simp, by simp⟩

theorem Quiet.setVar (driver : ADSPortDriver) {var : VarId} {content : ADSVariable}
    (same : content.addr = (driver.heap.vars var).addr) :
    driver.Quiet (driver.setVar var content) := by
  refine ⟨rfl, rfl, fun other => ?_, [], by simp [ADSPortDriver.setVar], by simp⟩
  by_cases here : other = var
  · subst here
    simpa [ADSPortDriver.setVar] using same
  · simp [ADSPortDriver.setVar, Function.update_of_ne here]

theorem Quiet.request (driver : ADSPortDriver) {trace : Trace}
    (asked : trace = driver.trace ∨
      ∃ event : AdsEvent, event.call.Ordinary ∧ trace = driver.trace ++ [event])
    (sumRead : SumReadRequest) : driver.Quiet { driver with sumRead, trace } := by
  rcases asked with rfl | ⟨event, ordinary, rfl⟩
  · exact ⟨rfl, rfl, fun _ => rfl, [], by simp, by simp⟩
  · exact ⟨rfl, rfl, fun _ => rfl, [event], rfl, by simpa using ordinary⟩

theorem quiet_readInfo (driver : ADSPortDriver) : driver.Quiet (readInfo ads driver).2 := by
  refine Quiet.request driver ?_ driver.sumRead
  unfold Connection.readDeviceInfo
  split_ifs
  · exact .inl rfl
  · exact .inr ⟨_, ⟨rfl, rfl, rfl⟩, rfl⟩

theorem quiet_readState (driver : ADSPortDriver) : driver.Quiet (readState ads driver).2 := by
  refine Quiet.request driver ?_ driver.sumRead
  unfold Connection.readDeviceState
  split_ifs
  · exact .inl rfl
  · exact .inr ⟨_, ⟨rfl, rfl, rfl⟩, rfl⟩

theorem quiet_readChunk (index : Nat) (driver : ADSPortDriver) :
    driver.Quiet (readChunk ads index driver).2 := by
  refine Quiet.request driver ?_ _
  unfold SumReadRequest.readChunk
  cases driver.sumRead.getChunks[index]? with
  | none => exact .inl rfl
  | some chunk =>
      have asked : (chunk.read ads driver.adsConnection driver.trace).state = driver.trace ∨
          ∃ event : AdsEvent, event.call.Ordinary ∧
            (chunk.read ads driver.adsConnection driver.trace).state = driver.trace ++ [event] := by
        unfold ReadRequestChunk.read
        dsimp only
        split_ifs
        · exact .inl rfl
        · exact .inr ⟨_, ⟨rfl, rfl, rfl⟩, rfl⟩
        · exact .inr ⟨_, ⟨rfl, rfl, rfl⟩, rfl⟩
      dsimp only
      split <;> exact asked

theorem quiet_publishVariable (autoparam : Autoparam) (garbage : VarId → Nat → UInt8)
    (driver : ADSPortDriver) (adsVar : ADSDeviceVar) :
    driver.Quiet (driver.publishVariable autoparam garbage adsVar) := by
  rcases driver.publishVariable_cases autoparam garbage adsVar with
    same | ⟨result, content, same, lastWritten, arrayDataHash, _, rfl⟩
  · rw [same]
    exact .refl driver
  · rw [same]
    have addr_eq : { driver.heap.vars adsVar.adsPV with lastWritten, arrayDataHash }.addr =
        (driver.heap.vars adsVar.adsPV).addr := rfl
    have quiet := Quiet.setVar driver addr_eq
    exact ⟨rfl, rfl, quiet.addr_eq, [], by simp [publish], by simp⟩

end ADSPortDriver

/-- Whether the scan thread enters a section that changes neither the link nor handles. -/
def ScanPoint.quiet : ScanPoint → Bool
  | .connect | .resolveReadVars | .resolveWriteVars | .unresolveReadVars _ | .unresolveWriteVars _
  | .disconnect _ | .setDisconnected _ => false
  | _ => true

theorem ADSPortDriver.Section.quiet {ads : Ads} {autoparam : Autoparam}
    {driver after : ADSPortDriver} {point : ScanPoint}
    (made : Section ads autoparam driver point after) (quiet : point.quiet = true) :
    driver.Quiet after := by
  cases made with
  | skip => exact .refl driver
  | initializeSumRead => exact .request driver (.inl rfl) _
  | readInfo => exact driver.quiet_readInfo ads
  | readState => exact driver.quiet_readState ads
  | readChunk index connecting => exact driver.quiet_readChunk ads index
  | publishVariable garbage adsVar left =>
      exact driver.quiet_publishVariable autoparam garbage adsVar
  | deinitializeSumRead caller => exact .request driver (.inl rfl) _
  | openConnection | resolveReadVars | resolveWriteVars | unresolveReadVars | unresolveWriteVars
  | disconnect | setDisconnected => cases quiet

namespace Interleaved

variable (ads : Ads) (autoparam : Autoparam) (toFloat32 : BitVec 64 → BitVec 32)

theorem quiet_scan {state : Interleaved} (quiet : state.scanPoint.quiet = true)
    (input : ScanInput) :
    state.driver.Quiet (state.scan ads autoparam input).driver :=
  (state.section_scan ads autoparam input).quiet quiet

/-- Handlers change no address, and a write by value releases no handle. -/
theorem quiet_poll (state : Interleaved) (adsVar : ADSDeviceVar) (registration : Registration)
    (request : ReadRequest) :
    state.driver.Quiet (state.poll autoparam adsVar registration request).driver := by
  refine .setVar state.driver ?_
  rcases registration.read.poll_echo autoparam state.driver.adsConnection
    state.driver.sumRead.buffers (state.driver.heap.vars adsVar.adsPV) request with same | same
  · rw [same]
  · rw [same, ADSVariable.addr_withEcho]

theorem quiet_checkWrite (state : Interleaved) (adsVar : ADSDeviceVar) (registration : Registration)
    (request : WriteRequest) :
    state.driver.Quiet
      (state.checkWrite autoparam toFloat32 adsVar registration request).driver := by
  refine .setVar state.driver ?_
  rcases registration.write.varToWrite_echo autoparam state.driver.adsConnection
    (state.driver.heap.vars adsVar.adsPV) state.driver.sumRead.buffers request with same | same
  · rw [same]
  · rw [same, ADSVariable.addr_withEcho]

theorem quiet_sendWrite (state : Interleaved) (index : Nat)
    (by_value : ∀ write ∈ state.pendingWrites,
      (state.driver.heap.vars write.var).addr.indexGroup ≠ adsigrpSymReleaseHnd) :
    state.driver.Quiet (state.sendWrite ads index).driver := by
  unfold sendWrite
  cases found : state.pendingWrites[index]? with
  | none => exact .refl _
  | some write =>
      have addr_eq (rc : Int) :
        ((state.driver.heap.vars write.var).afterWrite rc write.buffer).addr =
          (state.driver.heap.vars write.var).addr := by
        unfold ADSVariable.afterWrite
        split_ifs <;> rfl
      have group_ne := by_value write (List.mem_of_getElem? found)
      have quiet := ADSPortDriver.Quiet.setVar state.driver (addr_eq (ads.event state.driver.trace
        ((state.driver.heap.vars write.var).writeCall state.driver.adsConnection
          write.buffer)).reply.rc)
      refine ⟨rfl, rfl, quiet.addr_eq, [_], rfl, ?_⟩
      simp only [List.mem_singleton, forall_eq, Ads.call_event]
      exact ⟨rfl, rfl, decide_eq_false group_ne⟩

/-- The entries that a step adds to the log. -/
def entries (state : Interleaved) (taken : ThreadStep) : List LogEntry :=
  match taken, state.scanPoint with
  | .scan _, .resolveReadVars => state.driver.resolveEntries ads state.driver.adsReadVars
  | .scan _, .resolveWriteVars => state.driver.resolveEntries ads state.driver.adsWriteVars
  | .scan _, .unresolveReadVars _ => state.driver.unresolveEntries ads state.driver.adsReadVars
  | .scan _, .unresolveWriteVars _ => state.driver.unresolveEntries ads state.driver.adsWriteVars
  | taken, _ =>
      ((state.step ads autoparam toFloat32 taken).driver.trace.drop state.driver.trace.length).map
        (.request none)

/-- A step of the threads that adds to the log. -/
def logStep (logged : Interleaved × List LogEntry) (taken : ThreadStep) :
    Interleaved × List LogEntry :=
  (logged.1.step ads autoparam toFloat32 taken,
    logged.2 ++ logged.1.entries ads autoparam toFloat32 taken)

/-- The log of a run. -/
def log (state : Interleaved) (taken : List ThreadStep) : List LogEntry :=
  (run (logStep ads autoparam toFloat32) (state, []) taken).2

theorem run_logStep (state : Interleaved) (taken : List ThreadStep) :
    run (logStep ads autoparam toFloat32) (state, []) taken =
      (run (step ads autoparam toFloat32) state taken,
        log ads autoparam toFloat32 state taken) := by
  induction taken using List.reverseRecOn with
  | nil => rfl
  | append_singleton taken last ih =>
      rw [log, run_concat, run_concat, ih, logStep]

theorem log_concat (state : Interleaved) (taken : List ThreadStep) (last : ThreadStep) :
    log ads autoparam toFloat32 state (taken ++ [last]) =
      log ads autoparam toFloat32 state taken ++
        (run (step ads autoparam toFloat32) state taken).entries ads autoparam toFloat32 last := by
  rw [log, run_concat, run_logStep]
  rfl

/-- Whether the scan thread calls `connect`. -/
def connects (state : Interleaved) : ThreadStep → Bool
  | .scan _ =>
      state.scanPoint = .connect && !state.driver.exitCalled && state.driver.initialized &&
        !state.driver.adsConnection.isConnected
  | _ => false

theorem connects_scan_iff (state : Interleaved) (input : ScanInput) :
    state.connects (.scan input) = true ↔ state.scanPoint = .connect ∧
      state.driver.exitCalled = false ∧ state.driver.initialized = true ∧
      state.driver.adsConnection.isConnected = false := by
  simp [connects, and_assoc]

/-- `ADSConnect` opens a connection or leaves the driver as it is. -/
theorem scan_connect {state : Interleaved} (point : state.scanPoint = .connect)
    (input : ScanInput) :
    (state.scan ads autoparam input).driver =
      if state.connects (.scan input) then (ADSPortDriver.openConnection ads state.driver).2
      else state.driver := by
  have connects_iff := state.connects_scan_iff input
  simp only [scan, point]
  split_ifs <;> simp_all [goTo, tryThen]

/-- No section of the scan thread takes an event back. -/
theorem prefix_scan (state : Interleaved) (input : ScanInput) :
    state.driver.trace <+: (state.scan ads autoparam input).driver.trace := by
  cases point : state.scanPoint with
  | connect =>
      rw [scan_connect ads autoparam point]
      split_ifs
      · rcases opened : state.driver.adsConnection.connect ads state.driver.amsNetId
          state.driver.ipAddr state.driver.deviceReadAdsPort state.driver.trace with
          ⟨status, connection, trace⟩
        simp only [ADSPortDriver.openConnection, opened]
        rcases Connection.connect_cases ads _ _ _ _ _ opened with
          ⟨_, _, events, rfl, _⟩ | ⟨_, _, routed, port, rfl, _⟩
        · exact List.prefix_append _ _
        · exact (List.prefix_append _ _).trans (List.prefix_append _ _)
      · exact List.prefix_rfl
  | resolveReadVars =>
      simp only [scan, point, tryThen, ADSPortDriver.resolveVariables_trace]
      exact List.prefix_append _ _
  | resolveWriteVars =>
      simp only [scan, point, tryThen, ADSPortDriver.resolveVariables_trace]
      exact List.prefix_append _ _
  | unresolveReadVars caller =>
      simp only [scan, point, doThen, ADSPortDriver.unresolveVariables_trace]
      exact List.prefix_append _ _
  | unresolveWriteVars caller =>
      simp only [scan, point, doThen, ADSPortDriver.unresolveVariables_trace]
      exact List.prefix_append _ _
  | disconnect caller =>
      rcases closed : state.driver.adsConnection.disconnect ads state.driver.trace with
        ⟨status, connection, trace⟩
      simp only [scan, point, doThen, ADSPortDriver.disconnect, closed]
      obtain ⟨_, events, rfl, _⟩ := Connection.disconnect_spec ads _ _ closed
      exact List.prefix_append _ _
  | setDisconnected caller =>
      simp only [scan, point, doThen, ADSPortDriver.setDisconnected]
      exact List.prefix_rfl
  | _ =>
      obtain ⟨events, trace_eq, _⟩ :=
        (quiet_scan ads autoparam (by rw [point]; rfl) input : state.driver.Quiet _).sent
      exact ⟨events, trace_eq.symm⟩

theorem prefix_step (state : Interleaved) (taken : ThreadStep) :
    state.driver.trace <+: (state.step ads autoparam toFloat32 taken).driver.trace := by
  cases taken with
  | scan input => exact state.prefix_scan ads autoparam input
  | sendWrite index =>
      unfold step sendWrite
      dsimp only
      split
      · exact List.prefix_rfl
      · exact List.prefix_append _ _
  | poll adsVar registration request =>
      unfold step
      dsimp only
      split_ifs <;> exact List.prefix_rfl
  | checkWrite adsVar registration request =>
      unfold step
      dsimp only
      split_ifs <;> exact List.prefix_rfl
  | shutDown => exact List.prefix_rfl

/-- The entries of a step account for its events. -/
theorem step_trace (state : Interleaved) (taken : ThreadStep) :
    (state.step ads autoparam toFloat32 taken).driver.trace = state.driver.trace ++
      (state.entries ads autoparam toFloat32 taken).filterMap LogEntry.event? := by
  have others : (state.step ads autoparam toFloat32 taken).driver.trace = state.driver.trace ++
      (((state.step ads autoparam toFloat32 taken).driver.trace.drop
        state.driver.trace.length).map (LogEntry.request none)).filterMap LogEntry.event? := by
    obtain ⟨events, trace_eq⟩ := state.prefix_step ads autoparam toFloat32 taken
    rw [← trace_eq, List.drop_left, List.filterMap_map]
    simp [LogEntry.event?, Function.comp_def]
  unfold entries
  split
  · rename_i point
    simp only [step, scan, point, tryThen, ADSPortDriver.resolveVariables_trace]
  · rename_i point
    simp only [step, scan, point, tryThen, ADSPortDriver.resolveVariables_trace]
  · rename_i point
    simp only [step, scan, point, doThen, ADSPortDriver.unresolveVariables_trace]
  · rename_i point
    simp only [step, scan, point, doThen, ADSPortDriver.unresolveVariables_trace]
  · exact others

theorem run_trace (state : Interleaved) (taken : List ThreadStep) :
    (run (step ads autoparam toFloat32) state taken).driver.trace = state.driver.trace ++
      (log ads autoparam toFloat32 state taken).filterMap LogEntry.event? := by
  induction taken using List.reverseRecOn with
  | nil => exact (List.append_nil _).symm
  | append_singleton taken last ih =>
      rw [run_concat, step_trace, ih, log_concat, List.filterMap_append, List.append_assoc]

end Interleaved

end AdsDriver
