import AdsDriver.Interleaving
import AdsDriver.Lifecycle

/-!
# What no thread changes

Between `initHook` and the end of the driver the threads change how names are resolved, the pending
echoes and the buffers, but neither the lists of variables nor what the variables are.
-/

namespace AdsDriver

open ByteMemory StatusSteps Runs

/-- Two states of a variable that differ in the resolution of its name, its echo and its hash. -/
def ADSVariable.Alike (before after : ADSVariable) : Prop :=
  ∃ group offset resolved lastWritten arrayDataHash,
    after = { before.readdress group offset resolved with lastWritten, arrayDataHash }

namespace ADSVariable.Alike

variable {before after : ADSVariable}

theorem refl (var : ADSVariable) : var.Alike var := ⟨_, _, _, _, _, rfl⟩

theorem trans {last : ADSVariable} (first : before.Alike after) (second : after.Alike last) :
    before.Alike last := by
  obtain ⟨_, _, _, _, _, rfl⟩ := first
  obtain ⟨group, offset, resolved, lastWritten, arrayDataHash, rfl⟩ := second
  exact ⟨group, offset, resolved, lastWritten, arrayDataHash, rfl⟩

theorem withEcho (var : ADSVariable) (lastWritten : Bytes) : var.Alike (var.withEcho lastWritten) :=
  ⟨_, _, _, lastWritten, _, rfl⟩

theorem size_eq (same : before.Alike after) : after.size = before.size := by
  obtain ⟨_, _, _, _, _, rfl⟩ := same
  rfl

theorem adsPort_eq (same : before.Alike after) : after.addr.adsPort = before.addr.adsPort := by
  obtain ⟨_, _, _, _, _, rfl⟩ := same
  rfl

theorem bufferReader_eq (same : before.Alike after) : after.bufferReader = before.bufferReader := by
  obtain ⟨_, _, _, _, _, rfl⟩ := same
  rfl

theorem variableName_eq (same : before.Alike after) :
    after.addr.variableName = before.addr.variableName := by
  obtain ⟨_, _, _, _, _, rfl⟩ := same
  rfl

theorem operation_eq (same : before.Alike after) :
    after.addr.operation = before.addr.operation := by
  obtain ⟨_, _, _, _, _, rfl⟩ := same
  rfl

theorem writeReadback_eq (same : before.Alike after) :
    after.writeReadback = before.writeReadback := by
  obtain ⟨_, _, _, _, _, rfl⟩ := same
  rfl

theorem conn_eq (same : before.Alike after) : after.conn = before.conn := by
  obtain ⟨_, _, _, _, _, rfl⟩ := same
  rfl

theorem ofFunction {function : Str} (same : before.Alike after)
    (made : before.OfFunction function) :
    after.OfFunction function := by
  obtain ⟨_, _, _, _, _, rfl⟩ := same
  exact ⟨made.dataType_eq, made.nelem_pos, made.nelem_lt, made.nelem_scalar⟩

end ADSVariable.Alike

theorem ADSVariable.alike_afterWrite (var : ADSVariable) (rc : Int) (data : Bytes) :
    var.Alike (var.afterWrite rc data) := by
  unfold afterWrite
  split_ifs
  · exact .withEcho var data
  · exact .refl var

theorem ADSVariable.readFromBuffer_echo (buffers : Buffers) (var : ADSVariable) (size : Nat)
    (destination : Bytes) :
    (var.readFromBuffer buffers size destination).2.2 = var ∨
      (var.readFromBuffer buffers size destination).2.2 = var.withEcho [] := by
  unfold readFromBuffer
  by_cases empty : var.bufferReader = emptyBufferDataPosition
  · exact .inl (by rw [if_pos empty])
  · rw [if_neg empty]
    cases var.bufferReader.buffer.bind buffers with
    | none => exact .inl rfl
    | some buffer =>
        dsimp only
        split_ifs
        · exact .inl rfl
        · exact .inl rfl
        · exact .inl rfl
        · exact .inr rfl
        · exact .inl rfl

theorem readScalar_echo (connection : Connection) (buffers : Buffers) (var : ADSVariable)
    (plcDataType : EpicsType) (garbage : Nat → UInt8) :
    (readScalar connection buffers var plcDataType garbage).2 = var ∨
      (readScalar connection buffers var plcDataType garbage).2 = var.withEcho [] := by
  unfold readScalar
  split_ifs
  · exact .inl rfl
  · dsimp only
    split_ifs <;> exact var.readFromBuffer_echo buffers _ _

theorem arrayRead_echo (autoparam : Autoparam) (connection : Connection) (buffers : Buffers)
    (var : ADSVariable) (plcDataType : EpicsType) (val : EpicsArray) :
    (arrayRead autoparam connection buffers var plcDataType val).2.2 = var ∨
      (arrayRead autoparam connection buffers var plcDataType val).2.2 = var.withEcho [] := by
  unfold arrayRead
  split_ifs
  · exact .inl rfl
  · dsimp only
    split_ifs
    · exact .inl rfl
    · exact var.readFromBuffer_echo buffers _ _
    · exact var.readFromBuffer_echo buffers _ _

theorem stringRead_echo (autoparam : Autoparam) (connection : Connection) (buffers : Buffers)
    (var : ADSVariable) (val : Octet) :
    (stringRead autoparam connection buffers var val).2.2 = var ∨
      (stringRead autoparam connection buffers var val).2.2 = var.withEcho [] := by
  unfold stringRead
  split_ifs
  · exact .inl rfl
  · dsimp only
    split_ifs <;> exact var.readFromBuffer_echo buffers _ _

/-- Every read handler that a record calls leaves its variable as it is or uses its echo. -/
theorem ReadHandler.poll_echo (autoparam : Autoparam) (connection : Connection) (buffers : Buffers)
    (var : ADSVariable) (request : ReadRequest) (handler : ReadHandler) :
    (handler.poll autoparam connection buffers var request).2 = var ∨
      (handler.poll autoparam connection buffers var request).2 = var.withEcho [] := by
  cases handler with
  | integerRead plc epics => exact readScalar_echo connection buffers var plc request.garbage
  | digitalRead plc => exact readScalar_echo connection buffers var plc request.garbage
  | floatRead plc => exact readScalar_echo connection buffers var plc request.garbage
  | arrayRead plc epics => exact arrayRead_echo autoparam connection buffers var plc request.array
  | stringRead => exact stringRead_echo autoparam connection buffers var request.octet

theorem ReadHandler.run_eq_poll (autoparam : Autoparam) (connection : Connection)
    (buffers : Buffers) (var : ADSVariable) (garbage : Nat → UInt8) (handler : ReadHandler) :
    ∃ request, handler.run autoparam connection buffers var ioIntrMask garbage =
      handler.poll autoparam connection buffers var request := by
  cases handler with
  | arrayRead plc epics =>
      exact ⟨⟨ioIntrMask, newArray autoparam epics var.addr.nelem, ⟨[], 0⟩, garbage⟩, rfl⟩
  | _ => exact ⟨⟨ioIntrMask, ⟨[], 0, 0⟩, newOctet autoparam var.addr.nelem, garbage⟩, rfl⟩

/-- A masked digital write reads the variable, and no other write handler does. -/
theorem WriteHandler.varToWrite_echo (autoparam : Autoparam) (connection : Connection)
    (var : ADSVariable) (buffers : Buffers) (request : WriteRequest) (handler : WriteHandler) :
    handler.varToWrite autoparam connection var buffers request = var ∨
      handler.varToWrite autoparam connection var buffers request = var.withEcho [] := by
  cases handler with
  | digitalWrite plcDataType =>
      simp only [varToWrite]
      split_ifs
      · exact readScalar_echo connection buffers var plcDataType request.garbage
      · exact .inl rfl
  | _ => exact .inl rfl

theorem ADSVariable.Alike.of_echo {before after : ADSVariable}
    (same : after = before ∨ after = before.withEcho []) : before.Alike after := by
  rcases same with rfl | rfl
  · exact .refl _
  · exact .withEcho _ []

namespace ADSPortDriver

/-- What no section of any thread changes. -/
structure Keeps (before after : ADSPortDriver) : Prop where
  initialized_eq : after.initialized = before.initialized
  readVars_eq : after.adsReadVars = before.adsReadVars
  writeVars_eq : after.adsWriteVars = before.adsWriteVars
  deviceVariables_eq : after.deviceVariables = before.deviceVariables
  alike : ∀ var, (before.heap.vars var).Alike (after.heap.vars var)
  layout : before.sumRead.SameLayout after.sumRead
  allocated_eq : after.sumRead.allocated = before.sumRead.allocated

namespace Keeps

variable {before after : ADSPortDriver}

theorem refl (driver : ADSPortDriver) : driver.Keeps driver :=
  ⟨rfl, rfl, rfl, rfl, fun _ => .refl _, .refl _, rfl⟩

theorem trans {last : ADSPortDriver} (first : before.Keeps after) (second : after.Keeps last) :
    before.Keeps last where
  initialized_eq := second.initialized_eq.trans first.initialized_eq
  readVars_eq := second.readVars_eq.trans first.readVars_eq
  writeVars_eq := second.writeVars_eq.trans first.writeVars_eq
  deviceVariables_eq := second.deviceVariables_eq.trans first.deviceVariables_eq
  alike var := (first.alike var).trans (second.alike var)
  layout := first.layout.trans second.layout
  allocated_eq := second.allocated_eq.trans first.allocated_eq

theorem tracked_eq (same : before.Keeps after) : after.tracked = before.tracked := by
  rw [tracked, same.readVars_eq, same.writeVars_eq, tracked]

theorem ofConnection (driver : ADSPortDriver) (adsConnection : Connection) (trace : Trace) :
    driver.Keeps { driver with adsConnection, trace } :=
  ⟨rfl, rfl, rfl, rfl, fun _ => .refl _, .refl _, rfl⟩

theorem ofSumRead (driver : ADSPortDriver) {sumRead : SumReadRequest} (trace : Trace)
    (layout : driver.sumRead.SameLayout sumRead)
    (allocated_eq : sumRead.allocated = driver.sumRead.allocated) :
    driver.Keeps { driver with sumRead, trace } :=
  ⟨rfl, rfl, rfl, rfl, fun _ => .refl _, layout, allocated_eq⟩

theorem ofReaddressed (driver : ADSPortDriver) {vars : Vars} (trace : Trace)
    (same : driver.heap.vars.Readdressed vars) :
    driver.Keeps { driver with heap := { driver.heap with vars }, trace } := by
  refine ⟨rfl, rfl, rfl, rfl, fun var => ?_, .refl _, rfl⟩
  obtain ⟨group, offset, resolved, after_eq⟩ := same var
  exact ⟨group, offset, resolved, _, _, after_eq⟩

theorem setVar (driver : ADSPortDriver) {var : VarId} {content : ADSVariable} (trace : Trace)
    (same : (driver.heap.vars var).Alike content) :
    driver.Keeps { driver.setVar var content with trace } := by
  refine ⟨rfl, rfl, rfl, rfl, fun other => ?_, .refl _, rfl⟩
  by_cases here : other = var
  · subst here
    simpa [ADSPortDriver.setVar] using same
  · simpa [ADSPortDriver.setVar, Function.update_of_ne here] using .refl _

end Keeps

variable (ads : Ads)

theorem keeps_openConnection (driver : ADSPortDriver) :
    driver.Keeps (openConnection ads driver).2 :=
  .ofConnection driver _ _

theorem keeps_resolveVariables (list : ADSPortDriver → List VarId) (driver : ADSPortDriver) :
    driver.Keeps (resolveVariables ads list driver).2 := by
  obtain ⟨vars, trace, same, after_eq⟩ := driver.resolveVariables_eq ads list
  rw [after_eq]
  exact .ofReaddressed driver trace same

theorem keeps_initializeSumRead (driver : ADSPortDriver) :
    driver.Keeps (initializeSumRead driver).2 :=
  .ofSumRead driver driver.trace (driver.sumRead.sameLayout_initializeRequest _)
    (driver.sumRead.initializeRequest_allocated _)

theorem keeps_readInfo (driver : ADSPortDriver) : driver.Keeps (readInfo ads driver).2 :=
  .ofConnection driver _ _

theorem keeps_readState (driver : ADSPortDriver) : driver.Keeps (readState ads driver).2 :=
  .ofConnection driver _ _

end ADSPortDriver

theorem SumReadRequest.readChunk_layout (ads : Ads) (connection : Connection) (index : Nat)
    (request : SumReadRequest) (trace : Trace) :
    request.SameLayout (request.readChunk ads connection index trace).2.1 ∧
      (request.readChunk ads connection index trace).2.1.allocated = request.allocated ∧
      (request.readChunk ads connection index trace).2.1.initialized = request.initialized := by
  have modified : request.SameLayout { request with
      chunksByAdsPort := request.chunksByAdsPort.modifyAt index fun chunk =>
        (chunk.read ads connection trace).result } :=
    ⟨SortedMap.related_modifyAt ReadRequestChunk.SameLayout.refl
      (fun chunk => chunk.sameLayout_read ads connection trace) _ index, rfl, rfl⟩
  unfold readChunk
  cases request.getChunks[index]? with
  | none => exact ⟨.refl request, rfl, rfl⟩
  | some chunk =>
      dsimp only
      split
      · exact ⟨modified, rfl, rfl⟩
      · exact ⟨modified.trans (sameLayout_setBuffersState _ _), rfl, rfl⟩
      · exact ⟨modified, rfl, rfl⟩

namespace ADSPortDriver

variable (ads : Ads)

theorem keeps_readChunk (index : Nat) (driver : ADSPortDriver) :
    driver.Keeps (readChunk ads index driver).2 :=
  have same := driver.sumRead.readChunk_layout ads driver.adsConnection index driver.trace
  .ofSumRead driver _ same.1 same.2.1

theorem keeps_deinitializeSumRead (driver : ADSPortDriver) :
    driver.Keeps driver.deinitializeSumRead :=
  .ofSumRead driver driver.trace driver.sumRead.sameLayout_deinitializeRequest rfl

theorem keeps_unresolveVariables (driver : ADSPortDriver) (adsVariables : List VarId) :
    driver.Keeps (driver.unresolveVariables ads adsVariables) := by
  obtain ⟨vars, trace, same, after_eq⟩ := driver.unresolveVariables_eq ads adsVariables
  rw [after_eq]
  exact .ofReaddressed driver trace same

theorem keeps_disconnect (driver : ADSPortDriver) : driver.Keeps (driver.disconnect ads) :=
  .ofConnection driver _ _

theorem keeps_setDisconnected (driver : ADSPortDriver) : driver.Keeps driver.setDisconnected :=
  .ofConnection driver _ _

/-- Publishing a variable reads it, and may store a new hash. -/
theorem publishVariable_cases (autoparam : Autoparam) (garbage : VarId → Nat → UInt8)
    (driver : ADSPortDriver) (adsVar : ADSDeviceVar) :
    driver.publishVariable autoparam garbage adsVar = driver ∨
      ∃ result content, driver.publishVariable autoparam garbage adsVar =
          driver.publish adsVar.adsPV result content ∧
        ∃ lastWritten arrayDataHash,
          (lastWritten = (driver.heap.vars adsVar.adsPV).lastWritten ∨ lastWritten = []) ∧
          content = { driver.heap.vars adsVar.adsPV with lastWritten, arrayDataHash } := by
  simp only [publishVariable]
  split
  · exact .inl rfl
  · rename_i plcDataType epicsDataType _
    refine .inr ⟨_, _, rfl, ?_⟩
    simp only [performArrayCallbacks, ADSVariable.updateDataHash]
    rcases arrayRead_echo autoparam driver.adsConnection driver.sumRead.buffers
      (driver.heap.vars adsVar.adsPV) plcDataType
      (newArray autoparam epicsDataType (driver.heap.vars adsVar.adsPV).addr.nelem) with
      read | read
    · exact ⟨_, _, .inl rfl, by rw [read]⟩
    · exact ⟨_, _, .inr rfl, by rw [read]; rfl⟩
  · rename_i handler _ _
    refine .inr ⟨_, _, rfl, ?_⟩
    obtain ⟨request, polled⟩ := handler.run_eq_poll autoparam driver.adsConnection
      driver.sumRead.buffers (driver.heap.vars adsVar.adsPV) (garbage adsVar.adsPV)
    rw [polled]
    rcases handler.poll_echo autoparam driver.adsConnection driver.sumRead.buffers
      (driver.heap.vars adsVar.adsPV) request with read | read
    · exact ⟨_, (driver.heap.vars adsVar.adsPV).arrayDataHash, .inl rfl, by rw [read]⟩
    · exact ⟨_, (driver.heap.vars adsVar.adsPV).arrayDataHash, .inr rfl, by rw [read]; rfl⟩

theorem keeps_publishVariable (autoparam : Autoparam) (garbage : VarId → Nat → UInt8)
    (driver : ADSPortDriver) (adsVar : ADSDeviceVar) :
    driver.Keeps (driver.publishVariable autoparam garbage adsVar) := by
  rcases driver.publishVariable_cases autoparam garbage adsVar with
    same | ⟨result, content, same, lastWritten, arrayDataHash, _, rfl⟩
  · rw [same]
    exact .refl driver
  · have alike : (driver.heap.vars adsVar.adsPV).Alike
        { driver.heap.vars adsVar.adsPV with lastWritten, arrayDataHash } :=
      ⟨_, _, _, lastWritten, arrayDataHash, rfl⟩
    have kept := Keeps.setVar driver driver.trace alike
    rw [same]
    exact ⟨rfl, rfl, rfl, rfl, kept.alike, .refl _, rfl⟩

end ADSPortDriver

namespace ADSPortDriver

/-- What the section that the scan thread enters at a point makes of the driver. -/
inductive Section (ads : Ads) (autoparam : Autoparam) (driver : ADSPortDriver) :
    ScanPoint → ADSPortDriver → Prop
  /-- The scan thread only chooses where to go on. -/
  | skip (point : ScanPoint) : Section ads autoparam driver point driver
  | openConnection : Section ads autoparam driver .connect (openConnection ads driver).2
  | resolveReadVars :
      Section ads autoparam driver .resolveReadVars (resolveVariables ads adsReadVars driver).2
  | resolveWriteVars :
      Section ads autoparam driver .resolveWriteVars (resolveVariables ads adsWriteVars driver).2
  | initializeSumRead :
      Section ads autoparam driver .initializeSumRead (initializeSumRead driver).2
  | readInfo : Section ads autoparam driver .readInfo (readInfo ads driver).2
  | readState : Section ads autoparam driver .readState (readState ads driver).2
  | readChunk (index : Nat) (connecting : Bool) :
      Section ads autoparam driver (.readChunk index connecting) (readChunk ads index driver).2
  | publishVariable (garbage : VarId → Nat → UInt8) (adsVar : ADSDeviceVar)
      (left : List ADSDeviceVar) :
      Section ads autoparam driver (.publishing (adsVar :: left))
        (driver.publishVariable autoparam garbage adsVar)
  | deinitializeSumRead (caller : DisconnectCaller) :
      Section ads autoparam driver (.deinitializeSumRead caller) driver.deinitializeSumRead
  | unresolveReadVars (caller : DisconnectCaller) :
      Section ads autoparam driver (.unresolveReadVars caller)
        (driver.unresolveVariables ads driver.adsReadVars)
  | unresolveWriteVars (caller : DisconnectCaller) :
      Section ads autoparam driver (.unresolveWriteVars caller)
        (driver.unresolveVariables ads driver.adsWriteVars)
  | disconnect (caller : DisconnectCaller) :
      Section ads autoparam driver (.disconnect caller) (driver.disconnect ads)
  | setDisconnected (caller : DisconnectCaller) :
      Section ads autoparam driver (.setDisconnected caller) driver.setDisconnected

/-- No section of the scan thread changes what the driver keeps. -/
theorem Section.keeps {ads : Ads} {autoparam : Autoparam} {driver after : ADSPortDriver}
    {point : ScanPoint} (made : Section ads autoparam driver point after) : driver.Keeps after := by
  cases made with
  | skip => exact .refl driver
  | openConnection => exact driver.keeps_openConnection ads
  | resolveReadVars => exact driver.keeps_resolveVariables ads adsReadVars
  | resolveWriteVars => exact driver.keeps_resolveVariables ads adsWriteVars
  | initializeSumRead => exact driver.keeps_initializeSumRead
  | readInfo => exact driver.keeps_readInfo ads
  | readState => exact driver.keeps_readState ads
  | readChunk index connecting => exact driver.keeps_readChunk ads index
  | publishVariable garbage adsVar left =>
      exact driver.keeps_publishVariable autoparam garbage adsVar
  | deinitializeSumRead caller => exact driver.keeps_deinitializeSumRead
  | unresolveReadVars caller => exact driver.keeps_unresolveVariables ads driver.adsReadVars
  | unresolveWriteVars caller => exact driver.keeps_unresolveVariables ads driver.adsWriteVars
  | disconnect caller => exact driver.keeps_disconnect ads
  | setDisconnected caller => exact driver.keeps_setDisconnected

theorem resolveVariables_exitCalled (ads : Ads) (list : ADSPortDriver → List VarId)
    (driver : ADSPortDriver) :
    (resolveVariables ads list driver).2.exitCalled = driver.exitCalled := by
  obtain ⟨_, _, _, after_eq⟩ := driver.resolveVariables_eq ads list
  rw [after_eq]

theorem Section.exitCalled_eq {ads : Ads} {autoparam : Autoparam} {driver after : ADSPortDriver}
    {point : ScanPoint} (made : Section ads autoparam driver point after) :
    after.exitCalled = driver.exitCalled := by
  cases made with
  | resolveReadVars => exact resolveVariables_exitCalled ads adsReadVars driver
  | resolveWriteVars => exact resolveVariables_exitCalled ads adsWriteVars driver
  | publishVariable garbage adsVar left =>
      rcases driver.publishVariable_cases autoparam garbage adsVar with same | ⟨_, _, same, _⟩
      · rw [same]
      · rw [same]
        rfl
  | _ => rfl

end ADSPortDriver

namespace ScanPoint

/-- On whose behalf the driver disconnects when the section at a point fails, if it can fail. -/
def onFailure : ScanPoint → Option DisconnectCaller
  | .connect | .resolveReadVars | .resolveWriteVars | .initializeSumRead => some .reconnect
  | .readInfo | .readState => some .request
  | .sumRead connecting | .readChunk _ connecting =>
      some (if connecting then .sumRead else .request)
  | _ => none

/-- Where the section that the scan thread enters at a point may lead. -/
inductive Leads (driver : ADSPortDriver) (interrupts : List Nat) : ScanPoint → ScanPoint → Prop
  | exit (exiting : driver.exitCalled = true) :
      Leads driver interrupts .head
        (if driver.adsConnection.isConnected then .deinitializeSumRead .exit else .exited)
  | wait (running : driver.exitCalled = false) : Leads driver interrupts .head .head
  | reconnect (running : driver.exitCalled = false) : Leads driver interrupts .head .connect
  | due (running : driver.exitCalled = false)
      (opened : driver.adsConnection.isConnected = true) : Leads driver interrupts .head .readInfo
  | notDue (running : driver.exitCalled = false)
      (opened : driver.adsConnection.isConnected = true) :
      Leads driver interrupts .head (.sumRead false)
  | connected (running : driver.exitCalled = false)
      (opened : driver.adsConnection.isConnected = true) : Leads driver interrupts .connect .head
  | opened (running : driver.exitCalled = false) :
      Leads driver interrupts .connect .resolveReadVars
  | readVarsResolved : Leads driver interrupts .resolveReadVars .resolveWriteVars
  | writeVarsResolved : Leads driver interrupts .resolveWriteVars .initializeSumRead
  | initialized : Leads driver interrupts .initializeSumRead (.sumRead true)
  | infoRead : Leads driver interrupts .readInfo .readState
  | stateRead : Leads driver interrupts .readState (.sumRead false)
  | started (connecting : Bool) :
      Leads driver interrupts (.sumRead connecting) (.readChunk 0 connecting)
  | chunkRead {index : Nat} (more : index < driver.sumRead.getChunks.length) (connecting : Bool) :
      Leads driver interrupts (.readChunk index connecting) (.readChunk (index + 1) connecting)
  | chunksDone (index : Nat) (connecting : Bool) :
      Leads driver interrupts (.readChunk index connecting) (.sumReadDone connecting)
  | failed {point : ScanPoint} {caller : DisconnectCaller} (fails : point.onFailure = some caller) :
      Leads driver interrupts point (.deinitializeSumRead caller)
  | publish :
      Leads driver interrupts .publish (.publishing (driver.getInterruptVariables interrupts))
  | publishOne (adsVar : ADSDeviceVar) (left : List ADSDeviceVar) :
      Leads driver interrupts (.publishing (adsVar :: left)) (.publishing left)
  | published : Leads driver interrupts (.publishing []) .head
  | keepHandles (exiting : driver.exitCalled = true) (caller : DisconnectCaller) :
      Leads driver interrupts (.deinitializeSumRead caller) (.disconnect caller)
  | releaseHandles (running : driver.exitCalled = false)
      (opened : driver.adsConnection.isConnected = true) (caller : DisconnectCaller) :
      Leads driver interrupts (.deinitializeSumRead caller) (.unresolveReadVars caller)
  | notConnected (running : driver.exitCalled = false)
      (closed : driver.adsConnection.isConnected = false) (caller : DisconnectCaller) :
      Leads driver interrupts (.deinitializeSumRead caller) caller.resume
  | readVarsUnresolved (caller : DisconnectCaller) :
      Leads driver interrupts (.unresolveReadVars caller) (.unresolveWriteVars caller)
  | writeVarsUnresolved (caller : DisconnectCaller) :
      Leads driver interrupts (.unresolveWriteVars caller) (.disconnect caller)
  | disconnected (caller : DisconnectCaller) :
      Leads driver interrupts (.disconnect caller) (.setDisconnected caller)
  | resume (caller : DisconnectCaller) :
      Leads driver interrupts (.setDisconnected caller) caller.resume
  | stay : Leads driver interrupts .exited .exited

end ScanPoint

namespace Interleaved

variable (ads : Ads) (autoparam : Autoparam) (toFloat32 : BitVec 64 → BitVec 32)

theorem section_scan (state : Interleaved) (input : ScanInput) :
    ADSPortDriver.Section ads autoparam state.driver state.scanPoint
      (state.scan ads autoparam input).driver := by
  cases point : state.scanPoint with
  | head =>
      simp only [scan, point]
      split_ifs <;> exact .skip _
  | connect =>
      simp only [scan, point]
      split_ifs
      · exact .skip _
      · exact .skip _
      · exact .skip _
      · exact .openConnection
  | resolveReadVars => simpa only [scan, point] using .resolveReadVars
  | resolveWriteVars => simpa only [scan, point] using .resolveWriteVars
  | initializeSumRead => simpa only [scan, point] using .initializeSumRead
  | readInfo => simpa only [scan, point] using .readInfo
  | readState => simpa only [scan, point] using .readState
  | sumRead connecting => simpa only [scan, point] using .skip _
  | readChunk index connecting =>
      simp only [scan, point]
      split_ifs
      · exact .readChunk index connecting
      · exact .skip _
  | publish => simpa only [scan, point] using .skip _
  | publishing left =>
      cases left with
      | nil => simpa only [scan, point] using .skip _
      | cons adsVar left =>
          simpa only [scan, point] using .publishVariable input.garbage adsVar left
  | deinitializeSumRead caller => simpa only [scan, point] using .deinitializeSumRead caller
  | unresolveReadVars caller => simpa only [scan, point] using .unresolveReadVars caller
  | unresolveWriteVars caller => simpa only [scan, point] using .unresolveWriteVars caller
  | disconnect caller => simpa only [scan, point] using .disconnect caller
  | setDisconnected caller => simpa only [scan, point] using .setDisconnected caller
  | exited => simpa only [scan, point] using .skip _

theorem leads_tryThen {state : Interleaved} {step : Step ADSPortDriver} {interrupts : List Nat}
    {point next : ScanPoint} {caller : DisconnectCaller}
    (succeeds : ScanPoint.Leads state.driver interrupts point next)
    (fails : point.onFailure = some caller) :
    ScanPoint.Leads state.driver interrupts point
      (state.tryThen step next (.deinitializeSumRead caller)).scanPoint := by
  unfold tryThen
  split_ifs
  · exact succeeds
  · exact .failed fails

/-- A section of the scan thread leads where it may. -/
theorem leads_scan (state : Interleaved) (input : ScanInput) :
    ScanPoint.Leads state.driver input.interrupts state.scanPoint
      (state.scan ads autoparam input).scanPoint := by
  cases point : state.scanPoint with
  | head =>
      cases exiting : state.driver.exitCalled with
      | true => simpa only [scan, point, exiting, if_true] using .exit exiting
      | false =>
          simp only [scan, point, exiting, Bool.false_eq_true, if_false]
          have opened (used : ¬ state.driver.needsConnect = true) :
              state.driver.adsConnection.isConnected = true := by
            simp only [ADSPortDriver.needsConnect, Bool.or_eq_true, not_or] at used
            simpa using used.1.1
          split_ifs with _ needs
          · exact point.symm ▸ .wait exiting
          · exact .reconnect exiting
          · exact .due exiting (opened needs)
          · exact .notDue exiting (opened needs)
  | connect =>
      simp only [scan, point]
      split_ifs with exiting _ opened
      · exact .failed rfl
      · exact .failed rfl
      · exact .connected (Bool.eq_false_iff.mpr exiting) opened
      · exact leads_tryThen (.opened (Bool.eq_false_iff.mpr exiting)) rfl
  | resolveReadVars => simpa only [scan, point] using leads_tryThen .readVarsResolved rfl
  | resolveWriteVars => simpa only [scan, point] using leads_tryThen .writeVarsResolved rfl
  | initializeSumRead => simpa only [scan, point] using leads_tryThen .initialized rfl
  | readInfo => simpa only [scan, point] using leads_tryThen .infoRead rfl
  | readState => simpa only [scan, point] using leads_tryThen .stateRead rfl
  | sumRead connecting =>
      simp only [scan, point]
      exact leads_tryThen (.started connecting) rfl
  | readChunk index connecting =>
      simp only [scan, point]
      split_ifs with more
      · exact leads_tryThen (.chunkRead more connecting) rfl
      · exact .chunksDone index connecting
  | publish => simpa only [scan, point] using .publish
  | publishing left =>
      cases left with
      | nil => simpa only [scan, point] using .published
      | cons adsVar left => simpa only [scan, point] using .publishOne adsVar left
  | deinitializeSumRead caller =>
      simp only [scan, point, doThen]
      split_ifs with exiting opened
      · exact .keepHandles exiting caller
      · exact .releaseHandles (Bool.eq_false_iff.mpr exiting) opened caller
      · exact .notConnected (Bool.eq_false_iff.mpr exiting) (Bool.eq_false_iff.mpr opened) caller
  | unresolveReadVars caller => simpa only [scan, point] using .readVarsUnresolved caller
  | unresolveWriteVars caller => simpa only [scan, point] using .writeVarsUnresolved caller
  | disconnect caller => simpa only [scan, point] using .disconnected caller
  | setDisconnected caller => simpa only [scan, point] using .resume caller
  | exited => simpa only [scan, point] using .stay

theorem keeps_scan (state : Interleaved) (input : ScanInput) :
    state.driver.Keeps (state.scan ads autoparam input).driver :=
  (state.section_scan ads autoparam input).keeps

theorem scan_pendingWrites (state : Interleaved) (input : ScanInput) :
    (state.scan ads autoparam input).pendingWrites = state.pendingWrites := by
  unfold scan
  split <;> try rfl
  all_goals split_ifs <;> rfl

/-- No step of any thread changes what the driver keeps. -/
theorem keeps_step (state : Interleaved) (taken : ThreadStep) :
    state.driver.Keeps (state.step ads autoparam toFloat32 taken).driver := by
  cases taken with
  | scan input => exact state.keeps_scan ads autoparam input
  | poll adsVar registration request =>
      unfold step
      dsimp only
      split_ifs
      · exact .setVar state.driver _
          (.of_echo (registration.read.poll_echo autoparam _ _ _ request))
      · exact .refl _
  | checkWrite adsVar registration request =>
      unfold step
      dsimp only
      split_ifs
      · exact .setVar state.driver _
          (.of_echo (registration.write.varToWrite_echo autoparam _ _ _ request))
      · exact .refl _
  | sendWrite index =>
      unfold step sendWrite
      dsimp only
      split
      · exact .refl _
      · exact .setVar state.driver _ (ADSVariable.alike_afterWrite _ _ _)
  | shutDown => exact ⟨rfl, rfl, rfl, rfl, fun _ => .refl _, .refl _, rfl⟩

theorem keeps_run (state : Interleaved) (taken : List ThreadStep) :
    state.driver.Keeps (run (step ads autoparam toFloat32) state taken).driver := by
  induction taken using List.reverseRecOn with
  | nil => exact .refl _
  | append_singleton taken last ih =>
      rw [run_concat]
      exact ih.trans (keeps_step ads autoparam toFloat32 _ last)

/-- Only `shutDown` sets `exitCalled`. -/
theorem exitCalled_step {state : Interleaved} {taken : ThreadStep}
    (not_shutDown : taken ≠ .shutDown) :
    (state.step ads autoparam toFloat32 taken).driver.exitCalled = state.driver.exitCalled := by
  cases taken with
  | shutDown => exact absurd rfl not_shutDown
  | sendWrite index =>
      unfold step sendWrite
      dsimp only
      split <;> rfl
  | poll adsVar registration request =>
      unfold step
      dsimp only
      split_ifs <;> rfl
  | checkWrite adsVar registration request =>
      unfold step
      dsimp only
      split_ifs <;> rfl
  | scan input => exact (state.section_scan ads autoparam input).exitCalled_eq

theorem exitCalled_run {state : Interleaved} {taken : List ThreadStep}
    (no_shutDown : .shutDown ∉ taken) :
    (run (step ads autoparam toFloat32) state taken).driver.exitCalled =
      state.driver.exitCalled := by
  induction taken using List.reverseRecOn with
  | nil => rfl
  | append_singleton taken last ih =>
      rw [List.mem_append, List.mem_singleton, not_or] at no_shutDown
      rw [run_concat, exitCalled_step ads autoparam toFloat32 (Ne.symm no_shutDown.2),
        ih no_shutDown.1]

end Interleaved

/-- A variable with a name that nothing has been done with yet. -/
structure ADSVariable.Unused (var : ADSVariable) : Prop where
  named : var.addr.variableName ≠ []
  unresolved : var.addr.nameIsResolved = false
  group_eq : var.addr.indexGroup = 0
  offset_eq : var.addr.indexOffset = 0
  conn : var.conn = true
  no_echo : var.lastWritten = []
  /-- Only variables for writing have a readback. -/
  readback : var.writeReadback = true → var.addr.operation = .write

namespace ADSPortDriver

/-- What holds of the variables while record links are added. -/
structure Listed (driver : ADSPortDriver) : Prop where
  devices_tracked : ∀ adsVar ∈ driver.deviceVariables, adsVar.adsPV ∈ driver.tracked
  typed : ∀ adsVar ∈ driver.deviceVariables,
    (driver.heap.vars adsVar.adsPV).OfFunction adsVar.function
  unused : ∀ var < driver.deviceVariables.length, (driver.heap.vars var).Unused

/-- A record link adds at most one variable, which nothing has been done with. -/
theorem Listed.addRecord {driver : ADSPortDriver} (listed : driver.Listed)
    (created : driver.Created)
    (link : RecordLink) : (driver.addRecord link).Listed := by
  rcases driver.addRecord_cases link with same | ⟨address, adds⟩
  · rw [same]
    exact listed
  · have made := parseDeviceAddress_eq_some_iff.mp adds.parsed
    have address_parsed := ADSAddress.ofFunction_parsed made
    have address_zero := ADSAddress.ofFunction_unresolved made
    generalize driver.addRecord link = after at adds ⊢
    refine ⟨?_, ?_, ?_⟩
    · intro adsVar member
      rw [adds.tracked_iff]
      rcases adds.device_cases member with earlier | rfl
      · exact .inl (listed.devices_tracked adsVar earlier)
      · exact .inr rfl
    · intro adsVar member
      rcases adds.device_cases member with earlier | rfl
      · rw [adds.vars_of_ne (created.made adsVar earlier).ne]
        exact listed.typed adsVar earlier
      · rw [adds.vars_self]
        exact address_parsed.ofFunction
    · exact adds.forall_lt ADSVariable.Unused listed.unused
        ⟨address_parsed.named, address_parsed.unresolved, address_zero.1, address_zero.2, rfl, rfl,
          fun readback => absurd readback Bool.false_ne_true⟩

theorem listed_new {ipAddr : Str} {amsNetId : AmsNetId} {sumBufferSize deviceReadAdsPort : UInt16}
    {heap : Heap} {driver : ADSPortDriver}
    (constructed : new ipAddr amsNetId sumBufferSize deviceReadAdsPort heap = some driver) :
    driver.Listed := by
  unfold new at constructed
  split_ifs at constructed
  obtain rfl := Option.some.inj constructed
  exact ⟨fun _ member => absurd member List.not_mem_nil,
    fun _ member => absurd member List.not_mem_nil, fun _ bound => absurd bound (Nat.not_lt_zero _)⟩

theorem Listed.addRecords {driver : ADSPortDriver} (listed : driver.Listed)
    (created : driver.Created) (links : List RecordLink) :
    (run ADSPortDriver.addRecord driver links).Listed := by
  induction links using List.reverseRecOn with
  | nil => exact listed
  | append_singleton links link ih =>
      rw [run_concat]
      exact ih.addRecord (created.addRecords links) link

/-- The loop of `initHook` gives readbacks to variables for writing only. -/
theorem Listed.addReadback {driver : ADSPortDriver} (listed : driver.Listed)
    (adsVar : ADSDeviceVar) : (driver.addReadback adsVar).Listed := by
  unfold ADSPortDriver.addReadback
  split_ifs with write
  · refine ⟨fun other member => ?_, fun other member => ?_, fun var bound => ?_⟩
    · have tracked := listed.devices_tracked other member
      simp only [ADSPortDriver.tracked, List.mem_append] at tracked ⊢
      tauto
    · have typed := listed.typed other member
      dsimp only
      by_cases here : other.adsPV = adsVar.adsPV
      · rw [here] at typed ⊢
        rw [Function.update_self]
        exact ⟨typed.dataType_eq, typed.nelem_pos, typed.nelem_lt, typed.nelem_scalar⟩
      · rwa [Function.update_of_ne here]
    · have unused := listed.unused var bound
      dsimp only
      by_cases here : var = adsVar.adsPV
      · subst here
        rw [Function.update_self]
        exact ⟨unused.named, unused.unresolved, unused.group_eq, unused.offset_eq, unused.conn,
          unused.no_echo, fun _ => write⟩
      · rwa [Function.update_of_ne here]
  · exact listed

theorem Listed.addReadbacks {driver : ADSPortDriver} (listed : driver.Listed)
    (adsVars : List ADSDeviceVar) : (adsVars.foldl ADSPortDriver.addReadback driver).Listed := by
  induction adsVars generalizing driver with
  | nil => exact listed
  | cons adsVar rest ih => exact ih (listed.addReadback adsVar)

/-- What holds when the threads start, whether or not `initHook` has succeeded. -/
structure Hooked (driver : ADSPortDriver) : Prop where
  running : driver.exitCalled = false
  closed : driver.adsConnection.isConnected = false
  no_events : driver.trace = []
  devices_tracked : ∀ adsVar ∈ driver.deviceVariables, adsVar.adsPV ∈ driver.tracked
  typed : ∀ adsVar ∈ driver.deviceVariables,
    (driver.heap.vars adsVar.adsPV).OfFunction adsVar.function
  unused : ∀ var ∈ driver.tracked, (driver.heap.vars var).Unused

theorem hooked_initHook {driver : ADSPortDriver} (created : driver.Created) (listed : driver.Listed)
    (interrupts : List Nat) : (driver.initHook interrupts).Hooked := by
  have before := created.addReadbacks (mem_of_getInterruptVariables interrupts)
  have before_listed := listed.addReadbacks (driver.getInterruptVariables interrupts)
  unfold ADSPortDriver.initHook
  rw [if_neg (by simp [created.not_initialized])]
  generalize (driver.getInterruptVariables interrupts).foldl ADSPortDriver.addReadback driver =
    driver at before before_listed
  have same := driver.sumRead.sameButReaders_allocate driver.adsReadVars driver.heap
  refine ⟨before.running, before.closed, before.no_events, before_listed.devices_tracked, ?_, ?_⟩
  · intro adsVar member
    have typed := before_listed.typed adsVar member
    obtain ⟨position, read⟩ := same adsVar.adsPV
    dsimp only
    rw [read]
    exact ⟨typed.dataType_eq, typed.nelem_pos, typed.nelem_lt, typed.nelem_scalar⟩
  · intro var member
    have unused := before_listed.unused var (before.listed var member)
    obtain ⟨position, read⟩ := same var
    dsimp only
    rw [read]
    exact ⟨unused.named, unused.unresolved, unused.group_eq, unused.offset_eq, unused.conn,
      unused.no_echo, unused.readback⟩

end ADSPortDriver

/-- The threads at their start: the driver has its variables and `initHook` has run. -/
def Interleaved.start (driver : ADSPortDriver) (links : List RecordLink) (interrupts : List Nat) :
    Interleaved :=
  { driver := (run ADSPortDriver.addRecord driver links).initHook interrupts }

theorem Interleaved.hooked_start {ipAddr : Str} {amsNetId : AmsNetId}
    {sumBufferSize deviceReadAdsPort : UInt16} {heap : Heap} {driver : ADSPortDriver}
    (constructed : ADSPortDriver.new ipAddr amsNetId sumBufferSize deviceReadAdsPort heap =
      some driver) (links : List RecordLink) (interrupts : List Nat) :
    (start driver links interrupts).driver.Hooked :=
  have created := ADSPortDriver.created_new constructed
  ADSPortDriver.hooked_initHook (created.addRecords links)
    ((ADSPortDriver.listed_new constructed).addRecords created links) interrupts

end AdsDriver
