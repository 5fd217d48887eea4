import AdsDriver.Data.Runs
import AdsDriver.Scan
import AdsDriver.SumRead

/-!
# What the scan thread leaves alone

No call of the scan thread changes which variables are tracked, their ports, sizes and slots, or the
layout of the sum-read chunks.  So the partition made by `initHook` stays in place for ever; what
connecting and disconnecting change is a matter of handles, flags and events.
-/

namespace AdsDriver

open ByteMemory EarlyExit StatusSteps

namespace ADSPortDriver

/-- The variables whose handles the driver keeps track of; readback variables are in both lists. -/
def tracked (driver : ADSPortDriver) : List VarId := driver.adsReadVars ++ driver.adsWriteVars

/-- What a call leaves alone. -/
structure Continues (before after : ADSPortDriver) : Prop where
  exitCalled_eq : after.exitCalled = before.exitCalled
  initialized_eq : after.initialized = before.initialized
  readVars_eq : after.adsReadVars = before.adsReadVars
  writeVars_eq : after.adsWriteVars = before.adsWriteVars
  places : before.heap.vars.SamePlaces after.heap.vars
  names : ∀ var, (after.heap.vars var).addr.variableName = (before.heap.vars var).addr.variableName
  layout : before.sumRead.SameLayout after.sumRead
  allocated_eq : after.sumRead.allocated = before.sumRead.allocated

namespace Continues

variable {before after : ADSPortDriver}

theorem refl (driver : ADSPortDriver) : driver.Continues driver :=
  ⟨rfl, rfl, rfl, rfl, ⟨fun _ => rfl, fun _ => rfl, fun _ => rfl⟩, fun _ => rfl, .refl _, rfl⟩

theorem trans {last : ADSPortDriver} (first : before.Continues after)
    (second : after.Continues last) : before.Continues last where
  exitCalled_eq := second.exitCalled_eq.trans first.exitCalled_eq
  initialized_eq := second.initialized_eq.trans first.initialized_eq
  readVars_eq := second.readVars_eq.trans first.readVars_eq
  writeVars_eq := second.writeVars_eq.trans first.writeVars_eq
  places :=
    ⟨fun var => (second.places.port_eq var).trans (first.places.port_eq var),
      fun var => (second.places.size_eq var).trans (first.places.size_eq var),
      fun var => (second.places.reader_eq var).trans (first.places.reader_eq var)⟩
  names var := (second.names var).trans (first.names var)
  layout := first.layout.trans second.layout
  allocated_eq := second.allocated_eq.trans first.allocated_eq

theorem tracked_eq (same : before.Continues after) : after.tracked = before.tracked := by
  rw [tracked, same.readVars_eq, same.writeVars_eq, tracked]

theorem ofSumRead (driver : ADSPortDriver) {sumRead : SumReadRequest} (adsConnection : Connection)
    (trace : Trace) (layout : driver.sumRead.SameLayout sumRead)
    (allocated_eq : sumRead.allocated = driver.sumRead.allocated) :
    driver.Continues { driver with sumRead, adsConnection, trace } :=
  ⟨rfl, rfl, rfl, rfl, (refl driver).places, fun _ => rfl, layout, allocated_eq⟩

theorem ofReaddressed (driver : ADSPortDriver) {vars : Vars} (trace : Trace)
    (same : driver.heap.vars.Readdressed vars) :
    driver.Continues { driver with heap := { driver.heap with vars }, trace } :=
  ⟨rfl, rfl, rfl, rfl, same.samePlaces, same.variableName_eq, .refl _, rfl⟩

/-- A variable that was read. -/
theorem publish (driver : ADSPortDriver) (var : VarId) (result : Option (Result Value))
    {content : ADSVariable} (addr_eq : content.addr = (driver.heap.vars var).addr)
    (reader_eq : content.bufferReader = (driver.heap.vars var).bufferReader) :
    driver.Continues (driver.publish var result content) := by
  have kept {β : Type} (view : ADSVariable → β)
      (same : view content = view (driver.heap.vars var)) (other : VarId) :
      view (Function.update driver.heap.vars var content other) =
        view (driver.heap.vars other) := by
    by_cases here : other = var
    · subst here
      rw [Function.update_self, same]
    · rw [Function.update_of_ne here]
  refine ⟨rfl, rfl, rfl, rfl, ⟨?_, ?_, ?_⟩, ?_, .refl _, rfl⟩
  · exact kept (fun content => content.addr.adsPort) (by rw [addr_eq])
  · exact kept ADSVariable.size (by rw [ADSVariable.size, ADSVariable.elemSize, addr_eq]; rfl)
  · exact kept ADSVariable.bufferReader reader_eq
  · exact kept (fun content => content.addr.variableName) (by rw [addr_eq])

end Continues

/-- What holds from a successful `initHook` on. -/
structure Base (driver : ADSPortDriver) : Prop where
  running : driver.exitCalled = false
  initialized : driver.initialized = true
  allocated : driver.sumRead.allocated = true
  distributed : ∃ given, SumReadRequest.Distributed driver.heap.vars driver.adsReadVars given
    driver.sumRead driver.heap.vars
  stored : driver.sumRead.AllStored
  named : ∀ var ∈ driver.tracked, (driver.heap.vars var).addr.variableName ≠ []

theorem Base.continues {before after : ADSPortDriver} (base : before.Base)
    (same : before.Continues after) : after.Base := by
  obtain ⟨given, distributed⟩ := base.distributed
  refine ⟨?_, ?_, ?_, ⟨given, ?_⟩, base.stored.sameLayout same.layout, ?_⟩
  · rw [same.exitCalled_eq, base.running]
  · rw [same.initialized_eq, base.initialized]
  · rw [same.allocated_eq, base.allocated]
  · rw [same.readVars_eq]
    exact (distributed.sameLayout same.layout).rebase same.places.size_eq same.places.port_eq
      same.places.reader_eq
  · intro var member
    rw [same.names var]
    exact base.named var (same.tracked_eq ▸ member)

variable (ads : Ads)

/-- Resolving changes where variables are found and the trace. -/
theorem resolveVariables_eq (list : ADSPortDriver → List VarId) (driver : ADSPortDriver) :
    ∃ vars trace, driver.heap.vars.Readdressed vars ∧
      (resolveVariables ads list driver).2 =
        { driver with heap := { driver.heap with vars }, trace } := by
  unfold resolveVariables Step.onlyIf Connection.resolveVariables
  dsimp only
  split_ifs
  · exact ⟨_, _, .refl _, rfl⟩
  · exact ⟨_, _, .refl _, rfl⟩
  · obtain ⟨_, _, _, same, _, _⟩ := Connection.resolveLoop_spec ads driver.adsConnection
      (list driver) 0 driver.heap.vars driver.trace rfl
    exact ⟨_, _, same, rfl⟩
  · exact ⟨_, _, .refl _, rfl⟩

/-- So does unresolving. -/
theorem unresolveVariables_eq (driver : ADSPortDriver) (adsVariables : List VarId) :
    ∃ vars trace, driver.heap.vars.Readdressed vars ∧
      driver.unresolveVariables ads adsVariables =
        { driver with heap := { driver.heap with vars }, trace } := by
  unfold unresolveVariables Connection.unresolveVariables
  split_ifs
  · exact ⟨_, _, .refl _, rfl⟩
  · obtain ⟨_, _, _, same, _, _⟩ := Connection.unresolveLoop_spec ads driver.adsConnection
      adsVariables driver.adsConnection.isConnected false driver.heap.vars driver.trace rfl
    exact ⟨_, _, same, rfl⟩

end ADSPortDriver

/-- Two states of a chunk with the same entries for the same variables. -/
def ReadRequestChunk.SameEntries (before after : ReadRequestChunk) : Prop :=
  after.sumReadRequestBuffer = before.sumReadRequestBuffer ∧ after.vars = before.vars

namespace SumReadRequest

/-- A sum-read sends requests of its chunks only, whether or not it succeeds. -/
theorem read_events (ads : Ads) (connection : Connection) (request : SumReadRequest)
    (trace : Trace) :
    ∃ events, (request.read ads connection trace).2.2 = trace ++ events ∧
      ∀ event ∈ events, ∃ chunk ∈ request.getChunks, event.call = chunk.readCall connection := by
  have loop := SortedMap.visitAll_state (ReadRequestChunk.read ads connection)
    (fun state => ∃ events, state = trace ++ events ∧
      ∀ event ∈ events, ∃ chunk ∈ request.getChunks, event.call = chunk.readCall connection)
    request.chunksByAdsPort ?_ ⟨[], (List.append_nil trace).symm, by simp⟩
  · unfold read
    split_ifs
    · exact ⟨[], (List.append_nil trace).symm, by simp⟩
    · dsimp only
      split <;> exact loop
  · rintro chunk member _ ⟨events, rfl, sent⟩
    simp only [ReadRequestChunk.read]
    split_ifs
    · exact ⟨events, rfl, sent⟩
    all_goals
      refine ⟨events ++ [_], List.append_assoc _ _ _, ?_⟩
      intro event in_events
      rcases List.mem_append.mp in_events with earlier | last
      · exact sent event earlier
      · exact ⟨chunk, member, by rw [List.mem_singleton.mp last]; rfl⟩

/-- A sum-read keeps the entries and the variables of its chunks. -/
theorem read_entries (ads : Ads) (connection : Connection) (request : SumReadRequest)
    (trace : Trace) :
    SortedMap.Related ReadRequestChunk.SameEntries request.chunksByAdsPort
      (request.read ads connection trace).2.1.chunksByAdsPort := by
  have loop := SortedMap.visitAll_always (ReadRequestChunk.read ads connection)
    ReadRequestChunk.SameEntries request.chunksByAdsPort ?_ (fun chunk _ => ⟨rfl, rfl⟩) trace
  · have marked : SortedMap.Related ReadRequestChunk.SameEntries
        (request.chunksByAdsPort.visitAll (ReadRequestChunk.read ads connection) trace).result
        ((request.chunksByAdsPort.visitAll
          (ReadRequestChunk.read ads connection) trace).result.mapValues
          (List.map (ReadRequestChunk.setBufferState .invalid))) :=
      SortedMap.related_mapValues fun chunk _ => ⟨rfl, rfl⟩
    unfold read
    split_ifs
    · exact .refl fun _ _ => ⟨rfl, rfl⟩
    · dsimp only
      split
      · exact loop
      · exact loop.trans marked fun _ _ _ first second =>
          ⟨second.1.trans first.1, second.2.trans first.2⟩
      · exact loop
  · intro chunk _ state
    simp only [ReadRequestChunk.read]
    split_ifs <;> exact ⟨rfl, rfl⟩

end SumReadRequest

/-- The device sees the entries of a chunk. -/
theorem ReadRequestChunk.Sound.sumReadEntries {size : VarId → Nat} {maxVariables port : Nat}
    {chunk : ReadRequestChunk} (sound : chunk.Sound size maxVariables port)
    (connection : Connection) :
    (chunk.readCall connection).sumReadEntries = chunk.sumReadRequestBuffer := by
  have count_le := sound.layout.count_le
  have max_lt := sound.layout.max_lt
  have count : (UInt32.ofNat chunk.sumReadDataBuffer.getNumVariables).toNat =
      chunk.sumReadRequestBuffer.length := by
    rw [sound.layout.getNumVariables_eq, sound.entries_length, ← sound.vars_eq,
      UInt32.toNat_ofNat', Nat.mod_eq_of_lt (by omega)]
  rw [readCall, AdsCall.sumReadEntries, if_pos rfl, count]
  exact AdsSymbolInfoByName.decode_flatMap_bytes _

theorem ReadRequestChunk.readCall_keeps_port {chunk : ReadRequestChunk} {connection : Connection}
    {event : AdsEvent} (asked : event.call = chunk.readCall connection) :
    event.opensPort = false := by
  simp [AdsEvent.opensPort, asked, readCall]

theorem ADSVariable.readFromBuffer_var (buffers : Buffers) (var : ADSVariable) (size : Nat)
    (destination : Bytes) :
    ∃ lastWritten, (var.readFromBuffer buffers size destination).2.2 =
      var.withEcho lastWritten := by
  unfold readFromBuffer
  by_cases empty : var.bufferReader = emptyBufferDataPosition
  · exact ⟨var.lastWritten, by rw [if_pos empty]; rfl⟩
  · rw [if_neg empty]
    cases var.bufferReader.buffer.bind buffers with
    | none => exact ⟨var.lastWritten, rfl⟩
    | some buffer =>
        dsimp only
        split_ifs
        · exact ⟨var.lastWritten, rfl⟩
        · exact ⟨var.lastWritten, rfl⟩
        · exact ⟨var.lastWritten, rfl⟩
        · exact ⟨[], rfl⟩
        · exact ⟨var.lastWritten, rfl⟩

theorem readScalar_var (connection : Connection) (buffers : Buffers) (var : ADSVariable)
    (plcDataType : EpicsType) (garbage : Nat → UInt8) :
    ∃ lastWritten, (readScalar connection buffers var plcDataType garbage).2 =
      var.withEcho lastWritten := by
  unfold readScalar
  split_ifs
  · exact ⟨var.lastWritten, rfl⟩
  · dsimp only
    split_ifs <;> exact var.readFromBuffer_var buffers _ _

theorem arrayRead_var (autoparam : Autoparam) (connection : Connection) (buffers : Buffers)
    (var : ADSVariable) (plcDataType : EpicsType) (val : EpicsArray) :
    ∃ lastWritten, (arrayRead autoparam connection buffers var plcDataType val).2.2 =
      var.withEcho lastWritten := by
  unfold arrayRead
  split_ifs
  · exact ⟨var.lastWritten, rfl⟩
  · dsimp only
    split_ifs
    · exact ⟨var.lastWritten, rfl⟩
    · exact var.readFromBuffer_var buffers _ _
    · exact var.readFromBuffer_var buffers _ _

theorem stringRead_var (autoparam : Autoparam) (connection : Connection) (buffers : Buffers)
    (var : ADSVariable) (val : Octet) :
    ∃ lastWritten, (stringRead autoparam connection buffers var val).2.2 =
      var.withEcho lastWritten := by
  unfold stringRead
  split_ifs
  · exact ⟨var.lastWritten, rfl⟩
  · dsimp only
    split_ifs <;> exact var.readFromBuffer_var buffers _ _

theorem ReadHandler.run_var (autoparam : Autoparam) (connection : Connection) (buffers : Buffers)
    (var : ADSVariable) (mask : BitVec 32) (garbage : Nat → UInt8) (handler : ReadHandler) :
    ∃ lastWritten, (handler.run autoparam connection buffers var mask garbage).2 =
      var.withEcho lastWritten := by
  cases handler with
  | integerRead plc epics => exact readScalar_var connection buffers var plc garbage
  | digitalRead plc => exact readScalar_var connection buffers var plc garbage
  | floatRead plc => exact readScalar_var connection buffers var plc garbage
  | arrayRead plc epics => exact arrayRead_var autoparam connection buffers var plc _
  | stringRead => exact stringRead_var autoparam connection buffers var _

theorem ReadHandler.run_disconnected (autoparam : Autoparam) {connection : Connection}
    (closed : connection.isConnected = false) (buffers : Buffers) (var : ADSVariable)
    (mask : BitVec 32) (garbage : Nat → UInt8) (handler : ReadHandler) :
    (handler.run autoparam connection buffers var mask garbage).1.status = .error := by
  have refused : readRefused connection var = true := by simp [readRefused, closed]
  cases handler with
  | integerRead plc epics =>
      simp [run, AdsDriver.integerRead, readScalar, refused, Autoparam.error, Result.wrap]
  | digitalRead plc =>
      simp [run, AdsDriver.digitalRead, readScalar, refused, Autoparam.error, Result.wrap]
  | floatRead plc =>
      simp [run, AdsDriver.floatRead, readScalar, refused, Autoparam.error, Result.wrap]
  | arrayRead plc epics => simp [run, AdsDriver.arrayRead, refused, Autoparam.error, Result.wrap]
  | stringRead => simp [run, AdsDriver.stringRead, refused, Autoparam.error, Result.wrap]

namespace ADSPortDriver

/-- Publishing one variable changes neither its address nor its slot. -/
theorem publishVariable_eq (autoparam : Autoparam) (garbage : VarId → Nat → UInt8)
    (driver : ADSPortDriver) (adsVar : ADSDeviceVar) :
    driver.publishVariable autoparam garbage adsVar = driver ∨
      ∃ result content,
        driver.publishVariable autoparam garbage adsVar =
          driver.publish adsVar.adsPV result content ∧
        content.addr = (driver.heap.vars adsVar.adsPV).addr ∧
        content.bufferReader = (driver.heap.vars adsVar.adsPV).bufferReader := by
  simp only [publishVariable]
  split
  · exact .inl rfl
  · rename_i plcDataType epicsDataType _
    obtain ⟨lastWritten, read⟩ := arrayRead_var autoparam driver.adsConnection
      driver.sumRead.buffers (driver.heap.vars adsVar.adsPV) plcDataType
      (newArray autoparam epicsDataType (driver.heap.vars adsVar.adsPV).addr.nelem)
    refine .inr ⟨_, _, rfl, ?_, ?_⟩
    · simp only [performArrayCallbacks, ADSVariable.updateDataHash, read]
      rfl
    · simp only [performArrayCallbacks, ADSVariable.updateDataHash, read]
      rfl
  · rename_i handler _ _
    obtain ⟨lastWritten, read⟩ := handler.run_var autoparam driver.adsConnection
      driver.sumRead.buffers (driver.heap.vars adsVar.adsPV) ioIntrMask (garbage adsVar.adsPV)
    exact .inr ⟨_, _, rfl, by rw [read]; rfl, by rw [read]; rfl⟩

end ADSPortDriver

end AdsDriver
