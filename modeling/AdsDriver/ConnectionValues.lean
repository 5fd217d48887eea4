import AdsDriver.ChunkAnswers
import AdsDriver.HandleLedger
import AdsDriver.LinkBalance
import AdsDriver.ReadValues
import AdsDriver.WriteOperation

/-!
# Values across reconnects

Connecting resolves all names and reads all variables anew before records are read again, so the
buffers hold no values of an earlier connection.  The value last written is kept by the variable
itself, and neither disconnecting nor connecting takes it away.
-/

namespace AdsDriver

open ByteMemory EarlyExit StatusSteps Runs

/-- The sizes of the variables. -/
def ADSPortDriver.sizes (driver : ADSPortDriver) (var : VarId) : Nat := (driver.heap.vars var).size

namespace ADSPortDriver

/-- Every echo is kept or has been used. -/
def EchoesUsed (before after : ADSPortDriver) : Prop :=
  ∀ var, (after.heap.vars var).lastWritten = (before.heap.vars var).lastWritten ∨
    (after.heap.vars var).lastWritten = []

theorem EchoesUsed.refl (driver : ADSPortDriver) : driver.EchoesUsed driver := fun _ => .inl rfl

theorem EchoesUsed.ofReaddressed (driver : ADSPortDriver) {vars : Vars} (trace : Trace)
    (same : driver.heap.vars.Readdressed vars) :
    driver.EchoesUsed { driver with heap := { driver.heap with vars }, trace } := by
  intro var
  obtain ⟨_, _, _, after_eq⟩ := same var
  have echo_eq := congrArg ADSVariable.lastWritten after_eq
  exact .inl echo_eq

theorem EchoesUsed.setVar (driver : ADSPortDriver) {var : VarId} {content : ADSVariable}
    (used : content.lastWritten = (driver.heap.vars var).lastWritten ∨ content.lastWritten = []) :
    driver.EchoesUsed (driver.setVar var content) := by
  intro other
  by_cases here : other = var
  · subst here
    simpa [ADSPortDriver.setVar] using used
  · simp [ADSPortDriver.setVar, Function.update_of_ne here]

variable (ads : Ads)

theorem echoesUsed_resolveVariables (list : ADSPortDriver → List VarId) (driver : ADSPortDriver) :
    driver.EchoesUsed (resolveVariables ads list driver).2 := by
  obtain ⟨vars, trace, same, after_eq⟩ := driver.resolveVariables_eq ads list
  rw [after_eq]
  exact .ofReaddressed driver trace same

theorem echoesUsed_unresolveVariables (driver : ADSPortDriver) (adsVariables : List VarId) :
    driver.EchoesUsed (driver.unresolveVariables ads adsVariables) := by
  obtain ⟨vars, trace, same, after_eq⟩ := driver.unresolveVariables_eq ads adsVariables
  rw [after_eq]
  exact .ofReaddressed driver trace same

theorem echoesUsed_publishVariable (autoparam : Autoparam) (garbage : VarId → Nat → UInt8)
    (driver : ADSPortDriver) (adsVar : ADSDeviceVar) :
    driver.EchoesUsed (driver.publishVariable autoparam garbage adsVar) := by
  rcases driver.publishVariable_cases autoparam garbage adsVar with
    same | ⟨result, content, same, lastWritten, arrayDataHash, used, rfl⟩
  · rw [same]
    exact .refl driver
  · rw [same]
    exact EchoesUsed.setVar driver used

theorem Section.echoesUsed {ads : Ads} {autoparam : Autoparam} {driver after : ADSPortDriver}
    {point : ScanPoint} (made : Section ads autoparam driver point after) :
    driver.EchoesUsed after := by
  cases made with
  | resolveReadVars => exact driver.echoesUsed_resolveVariables ads adsReadVars
  | resolveWriteVars => exact driver.echoesUsed_resolveVariables ads adsWriteVars
  | publishVariable garbage adsVar left =>
      exact driver.echoesUsed_publishVariable autoparam garbage adsVar
  | unresolveReadVars caller => exact driver.echoesUsed_unresolveVariables ads driver.adsReadVars
  | unresolveWriteVars caller => exact driver.echoesUsed_unresolveVariables ads driver.adsWriteVars
  | _ => exact .refl driver

end ADSPortDriver

theorem ADSVariable.lastWritten_of_echo {before after : ADSVariable}
    (same : after = before ∨ after = before.withEcho []) :
    after.lastWritten = before.lastWritten ∨ after.lastWritten = [] := by
  rcases same with rfl | rfl
  · exact .inl rfl
  · exact .inr rfl

theorem ADSVariable.length_checkWrite {var : ADSVariable} {data : Option Source} {size : Nat}
    {buffer : Bytes} (checked : var.checkWrite data size = .ok buffer) :
    buffer.length = var.size := by
  unfold checkWrite at checked
  split at checked
  · cases checked
  · split_ifs at checked with _ _ long
    obtain rfl := Except.ok.inj checked
    rw [length_overwrite (by simpa using long), List.length_replicate]

namespace Interleaved

variable (ads : Ads) (autoparam : Autoparam) (toFloat32 : BitVec 64 → BitVec 32)

/-- Only a write that is sent leaves a new echo. -/
theorem echoesUsed_step (state : Interleaved) {taken : ThreadStep}
    (not_sent : ∀ index, taken ≠ .sendWrite index) :
    state.driver.EchoesUsed (state.step ads autoparam toFloat32 taken).driver := by
  cases taken with
  | scan input => exact (state.section_scan ads autoparam input).echoesUsed
  | poll adsVar registration request =>
      unfold step
      dsimp only
      split_ifs
      · exact .setVar state.driver
          (ADSVariable.lastWritten_of_echo (registration.read.poll_echo autoparam _ _ _ request))
      · exact .refl _
  | checkWrite adsVar registration request =>
      unfold step
      dsimp only
      split_ifs
      · exact .setVar state.driver (ADSVariable.lastWritten_of_echo
          (registration.write.varToWrite_echo autoparam _ _ _ request))
      · exact .refl _
  | sendWrite index => exact absurd rfl (not_sent index)
  | shutDown => exact .refl _

end Interleaved

/-- Whether a chunk with a number has been read since the connection was opened, whenever records
can be read. -/
def ScanPoint.fetched (index : Nat) : ScanPoint → Bool
  | .readChunk count true => index < count
  | .publishing _ => true
  | point => !point.holdsLock

/-- Only a section that asks for a chunk changes what buffers hold. -/
theorem ADSPortDriver.Section.sameData {ads : Ads} {autoparam : Autoparam}
    {driver after : ADSPortDriver} {point : ScanPoint}
    (made : Section ads autoparam driver point after)
    (not_asked : ∀ index connecting, point ≠ .readChunk index connecting) :
    driver.sumRead.SameData after.sumRead := by
  cases made with
  | resolveReadVars =>
      obtain ⟨_, _, _, after_eq⟩ := driver.resolveVariables_eq ads adsReadVars
      rw [after_eq]
      exact .refl _
  | resolveWriteVars =>
      obtain ⟨_, _, _, after_eq⟩ := driver.resolveVariables_eq ads adsWriteVars
      rw [after_eq]
      exact .refl _
  | initializeSumRead => exact driver.sumRead.sameData_initializeRequest _
  | readChunk index connecting => exact absurd rfl (not_asked index connecting)
  | publishVariable garbage adsVar left =>
      rcases driver.publishVariable_cases autoparam garbage adsVar with same | ⟨_, _, same, _⟩
      · rw [same]
        exact .refl _
      · rw [same]
        exact .refl _
  | deinitializeSumRead caller => exact driver.sumRead.sameData_deinitializeRequest
  | _ => exact .refl _

namespace Interleaved

variable (ads : Ads) (autoparam : Autoparam) (toFloat32 : BitVec 64 → BitVec 32)

/-- On a connection that stays open, chunks that have been read stay so, and only sections that ask
for them add to these. -/
theorem fetched_scan {state : Interleaved} {input : ScanInput} {index : Nat}
    (not_asked : ∀ index connecting, state.scanPoint ≠ .readChunk index connecting)
    (connected : (state.scan ads autoparam input).driver.adsConnection.isConnected = true)
    (fetched : (state.scan ads autoparam input).scanPoint.fetched index = true) :
    state.driver.adsConnection.isConnected = true ∧ state.scanPoint.fetched index = true := by
  cases point : state.scanPoint with
  | readChunk index connecting => exact absurd point (not_asked index connecting)
  | connect =>
      simp only [scan, point] at connected fetched
      split_ifs at connected fetched
      · simp [goTo, ScanPoint.fetched, ScanPoint.holdsLock] at fetched
      · simp [goTo, ScanPoint.fetched, ScanPoint.holdsLock] at fetched
      · exact ⟨connected, rfl⟩
      · simp only [tryThen] at fetched
        split_ifs at fetched <;> simp [ScanPoint.fetched, ScanPoint.holdsLock] at fetched
  | resolveReadVars =>
      simp only [scan, point, tryThen] at fetched
      split_ifs at fetched <;> simp [ScanPoint.fetched, ScanPoint.holdsLock] at fetched
  | resolveWriteVars =>
      simp only [scan, point, tryThen] at fetched
      split_ifs at fetched <;> simp [ScanPoint.fetched, ScanPoint.holdsLock] at fetched
  | initializeSumRead =>
      simp only [scan, point, tryThen] at fetched
      split_ifs at fetched <;> simp [ScanPoint.fetched, ScanPoint.holdsLock] at fetched
  | sumRead connecting =>
      simp only [scan, point, tryThen] at connected fetched
      refine ⟨connected, ?_⟩
      cases connecting with
      | false => rfl
      | true => split_ifs at fetched <;>
          simp [ScanPoint.sumReadFailed, ScanPoint.fetched, ScanPoint.holdsLock] at fetched
  | publishing left =>
      refine ⟨?_, rfl⟩
      cases left with
      | nil => simpa only [scan, point, goTo] using connected
      | cons adsVar left =>
          have same := (state.driver.quiet_publishVariable autoparam input.garbage
            adsVar).connection_eq
          simpa only [scan, point, doThen, same] using connected
  | deinitializeSumRead caller =>
      simp only [scan, point, doThen] at connected fetched
      refine ⟨connected, ?_⟩
      have still : state.driver.adsConnection.isConnected = true := connected
      rw [still, if_pos rfl] at fetched
      cases caller <;> split_ifs at fetched <;>
        simp_all [ScanPoint.fetched, ScanPoint.holdsLock]
  | unresolveReadVars caller =>
      simp only [scan, point, doThen] at connected fetched
      exact ⟨connected, fetched⟩
  | unresolveWriteVars caller =>
      simp only [scan, point, doThen] at connected fetched
      exact ⟨connected, fetched⟩
  | disconnect caller =>
      rcases closed : state.driver.adsConnection.disconnect ads state.driver.trace with
        ⟨status, connection, trace⟩
      simp only [scan, point, doThen, ADSPortDriver.disconnect, closed] at connected
      have is_closed := (Connection.disconnect_spec ads _ _ closed).1
      exact absurd (is_closed.symm.trans connected) Bool.false_ne_true
  | setDisconnected caller =>
      simp only [scan, point, doThen, ADSPortDriver.setDisconnected] at connected
      cases connected
  | head =>
      refine ⟨?_, rfl⟩
      simp only [scan, point] at connected
      split_ifs at connected <;> exact connected
  | _ =>
      simp only [scan, point] at connected
      exact ⟨connected, rfl⟩

end Interleaved

namespace ADSPortDriver

/-- The sum-read asks for all variables but those for writing without readback. -/
def ReadsListed (driver : ADSPortDriver) : Prop :=
  ∀ adsVar ∈ driver.deviceVariables, adsVar.adsPV ∈ driver.adsReadVars ∨
    ((driver.heap.vars adsVar.adsPV).addr.operation = .write ∧
      (driver.heap.vars adsVar.adsPV).writeReadback = false)

theorem ReadsListed.addRecord {driver : ADSPortDriver} (listed : driver.ReadsListed)
    (created : driver.Created) (link : RecordLink) : (driver.addRecord link).ReadsListed := by
  rcases driver.addRecord_cases link with same | ⟨address, adds⟩
  · rw [same]
    exact listed
  · generalize driver.addRecord link = after at adds ⊢
    intro adsVar member
    rcases adds.device_cases member with earlier | rfl
    · rw [adds.vars_of_ne (created.made adsVar earlier).ne]
      exact (listed adsVar earlier).imp_left fun read => adds.reads_subset read
    · rw [adds.vars_self]
      exact adds.read_or_write.imp_right fun written => ⟨written, rfl⟩

theorem ReadsListed.addRecords {driver : ADSPortDriver} (listed : driver.ReadsListed)
    (created : driver.Created) (links : List RecordLink) :
    (run ADSPortDriver.addRecord driver links).ReadsListed := by
  induction links using List.reverseRecOn with
  | nil => exact listed
  | append_singleton links link ih =>
      rw [run_concat]
      exact ih.addRecord (created.addRecords links) link

/-- The loop of `initHook` adds the variables that it gives a readback. -/
theorem ReadsListed.addReadback {driver : ADSPortDriver} (listed : driver.ReadsListed)
    (adsVar : ADSDeviceVar) : (driver.addReadback adsVar).ReadsListed := by
  unfold ADSPortDriver.addReadback
  split_ifs
  · intro other member
    dsimp only
    by_cases here : other.adsPV = adsVar.adsPV
    · exact .inl (by simp [here])
    · rw [Function.update_of_ne here]
      exact (listed other member).imp_left (List.mem_append_left _)
  · exact listed

theorem ReadsListed.addReadbacks {driver : ADSPortDriver} (listed : driver.ReadsListed)
    (adsVars : List ADSDeviceVar) :
    (adsVars.foldl ADSPortDriver.addReadback driver).ReadsListed := by
  induction adsVars generalizing driver with
  | nil => exact listed
  | cons adsVar rest ih => exact ih (listed.addReadback adsVar)

theorem ReadsListed.initHook {driver : ADSPortDriver} (listed : driver.ReadsListed)
    (created : driver.Created) (interrupts : List Nat) :
    (driver.initHook interrupts).ReadsListed := by
  have before := listed.addReadbacks (driver.getInterruptVariables interrupts)
  unfold ADSPortDriver.initHook
  rw [if_neg (by simp [created.not_initialized])]
  generalize (driver.getInterruptVariables interrupts).foldl ADSPortDriver.addReadback driver =
    driver at before
  intro adsVar member
  obtain ⟨position, read⟩ :=
    driver.sumRead.sameButReaders_allocate driver.adsReadVars driver.heap adsVar.adsPV
  dsimp only
  rw [read]
  exact before adsVar member

theorem Keeps.sizes_eq {before after : ADSPortDriver} (kept : before.Keeps after) :
    after.sizes = before.sizes :=
  funext fun var => (kept.alike var).size_eq

theorem Keeps.distributed {before after : ADSPortDriver} (kept : before.Keeps after)
    (base : before.Base) :
    ∃ given, SumReadRequest.Distributed after.heap.vars before.adsReadVars given after.sumRead
      after.heap.vars := by
  obtain ⟨given, distributed⟩ := base.distributed
  exact ⟨given, (distributed.sameLayout kept.layout).rebase (fun var => (kept.alike var).size_eq)
    (fun var => (kept.alike var).adsPort_eq) fun var => (kept.alike var).bufferReader_eq⟩

/-- What reading rests on when the threads start. -/
structure Started (driver : ADSPortDriver) : Prop extends Hooked driver where
  reads_listed : driver.ReadsListed
  base : driver.initialized = true → driver.Base

end ADSPortDriver

theorem Interleaved.started_start {ipAddr : Str} {amsNetId : AmsNetId}
    {sumBufferSize deviceReadAdsPort : UInt16} {heap : Heap} {driver : ADSPortDriver}
    (constructed : ADSPortDriver.new ipAddr amsNetId sumBufferSize deviceReadAdsPort heap =
      some driver) (links : List RecordLink) (interrupts : List Nat) :
    (start driver links interrupts).driver.Started := by
  have created := ADSPortDriver.created_new constructed
  have new_listed : driver.ReadsListed := by
    unfold ADSPortDriver.new at constructed
    split_ifs at constructed
    obtain rfl := Option.some.inj constructed
    exact fun _ member => absurd member List.not_mem_nil
  exact ⟨hooked_start constructed links interrupts,
    (new_listed.addRecords created links).initHook (created.addRecords links) interrupts,
    fun hooked => ((created.addRecords links).initHook hooked).toBase⟩

namespace Interleaved

variable (ads : Ads) (autoparam : Autoparam) (toFloat32 : BitVec 64 → BitVec 32)

/-- The chunk that the scan thread asks for next. -/
def chunkAsked (state : Interleaved) : Option ReadRequestChunk :=
  match state.scanPoint with
  | .readChunk index _ => state.driver.sumRead.getChunks[index]?
  | _ => none

/-- What the scan thread is answered for a chunk, if it is read successfully. -/
def answerFor (driver : ADSPortDriver) (chunk : ReadRequestChunk) : Option Bytes :=
  let event := ads.event driver.trace (chunk.readCall driver.adsConnection)
  match (chunk.read ads driver.adsConnection driver.trace).exit with
  | none => some (chunk.answerOf event.reply)
  | some _ => none

/-- What a step delivers to variables: the device's answer for a chunk, or a value that was written
successfully. -/
def deliveries (state : Interleaved) : ThreadStep → List (VarId × Bytes)
  | .scan _ =>
      state.chunkAsked.toList.flatMap fun chunk =>
        (answerFor ads state.driver chunk).toList.flatMap fun answer =>
          (chunk.holding answer).answered state.driver.sizes
  | .sendWrite index =>
      let driver := state.driver
      state.pendingWrites[index]?.toList.flatMap fun write =>
        let sent := (driver.heap.vars write.var).sendWrite ads driver.adsConnection write.buffer
          driver.trace
        if sent.1 = 0 then [(write.var, write.buffer)] else []
  | _ => []

/-- Whether a step opens the connection. -/
def opens (state : Interleaved) (taken : ThreadStep) : Bool :=
  state.connects taken &&
    (state.step ads autoparam toFloat32 taken).driver.adsConnection.isConnected

/-- A step of the threads with the values that were delivered since the connection was opened. -/
def recentStep (recorded : Interleaved × List (VarId × Bytes)) (taken : ThreadStep) :
    Interleaved × List (VarId × Bytes) :=
  (recorded.1.step ads autoparam toFloat32 taken,
    if recorded.1.opens ads autoparam toFloat32 taken then []
    else recorded.2 ++ recorded.1.deliveries ads taken)

/-- The result of a read handler, if it is a success, was read on an open connection and is what the
handler makes of a value delivered on it. -/
def MadeOfRecent (recorded : Interleaved × List (VarId × Bytes)) (var : VarId)
    (handler : ReadHandler) (request : ReadRequest) (result : Result Value) : Prop :=
  result.status = .success →
    recorded.1.driver.adsConnection.isConnected = true ∧
      ∃ value, (var, value) ∈ recorded.2 ∧ result.value =
        handler.valueOf autoparam (recorded.1.driver.heap.vars var).addr.nelem request value

/-- All read handlers that run in a step return values delivered on the connection that is open: the
one of a polled record, the one that a masked digital write calls first, and the one that
`performIOIntr` calls. -/
def ReturnsRecent (recorded : Interleaved × List (VarId × Bytes)) : ThreadStep → Prop
  | .poll adsVar registration request =>
      let driver := recorded.1.driver
      let var := driver.heap.vars adsVar.adsPV
      recorded.1.Calls adsVar registration →
        MadeOfRecent autoparam recorded adsVar.adsPV registration.read request
          (registration.read.poll autoparam driver.adsConnection driver.sumRead.buffers var
            request).1
  | .checkWrite adsVar registration request =>
      let driver := recorded.1.driver
      let var := driver.heap.vars adsVar.adsPV
      let readRequest := ⟨0xFFFFFFFF, ⟨[], 0, 0⟩, ⟨[], 0⟩, request.garbage⟩
      recorded.1.Calls adsVar registration → ∀ plcDataType,
        registration.write = .digitalWrite plcDataType → request.mask ≠ 0xFFFFFFFF →
          MadeOfRecent autoparam recorded adsVar.adsPV (.digitalRead plcDataType) readRequest
            ((ReadHandler.digitalRead plcDataType).poll autoparam driver.adsConnection
              driver.sumRead.buffers var readRequest).1
  | .scan input =>
      let driver := recorded.1.driver
      ∀ adsVar left, recorded.1.scanPoint = .publishing (adsVar :: left) →
        let var := driver.heap.vars adsVar.adsPV
        let garbage := input.garbage adsVar.adsPV
        ∀ handler, ioIntrHandler adsVar.function var.addr.dataType = some handler →
          MadeOfRecent autoparam recorded adsVar.adsPV handler
            (handler.ioIntrRequest autoparam var.addr.nelem garbage)
            (handler.run autoparam driver.adsConnection driver.sumRead.buffers var ioIntrMask
              garbage).1
  | _ => True

/-- No echo is pending when a step opens the connection. -/
def OpensWithoutEcho (state : Interleaved) (taken : ThreadStep) : Prop :=
  state.opens ads autoparam toFloat32 taken = true → ∀ adsVar ∈ state.driver.deviceVariables,
    (state.driver.heap.vars adsVar.adsPV).echoPending = false

/-- A chunk that is read successfully gets an answer for its whole buffer. -/
def AnswersWhole (state : Interleaved) : ThreadStep → Prop
  | .scan _ => ∀ chunk ∈ state.chunkAsked, ∀ answer ∈ answerFor ads state.driver chunk,
      chunk.sumReadDataBuffer.bufferSize ≤ answer.length
  | _ => True

instance (state : Interleaved) : (taken : ThreadStep) → Decidable (state.AnswersWhole ads taken)
  | .scan _ => inferInstanceAs (Decidable (∀ chunk ∈ state.chunkAsked, _))
  | .poll _ _ _ | .checkWrite _ _ _ | .sendWrite _ | .shutDown =>
      inferInstanceAs (Decidable True)

/-- Nothing of an earlier connection is left to be read. -/
def LeavesNothing (state : Interleaved) (taken : ThreadStep) : Prop :=
  state.OpensWithoutEcho ads autoparam toFloat32 taken ∧ state.AnswersWhole ads taken

instance (state : Interleaved) (taken : ThreadStep) :
    Decidable (state.LeavesNothing ads autoparam toFloat32 taken) :=
  inferInstanceAs (Decidable ((_ → ∀ adsVar ∈ state.driver.deviceVariables, _) ∧ _))

/-! ## The invariant -/

/-- What holds in every state of a run with the values delivered since the connection was opened:
pending echoes are among them, and so is what the buffers of fetched chunks hold. -/
structure Recorded (start : ADSPortDriver) (recorded : Interleaved × List (VarId × Bytes)) :
    Prop where
  kept : start.Keeps recorded.1.driver
  initialized : recorded.1.driver.adsConnection.isConnected = true → start.initialized = true
  pending : ∀ write ∈ recorded.1.pendingWrites, write.buffer.length = start.sizes write.var
  echo_sized : ∀ adsVar ∈ start.deviceVariables,
    (recorded.1.driver.heap.vars adsVar.adsPV).EchoSized
  echoes : ∀ adsVar ∈ start.deviceVariables,
    (recorded.1.driver.heap.vars adsVar.adsPV).echoPending = true →
      (adsVar.adsPV, (recorded.1.driver.heap.vars adsVar.adsPV).lastWritten) ∈ recorded.2
  devices : ∀ left, recorded.1.scanPoint = .publishing left → left ⊆ start.deviceVariables
  buffers : recorded.1.driver.adsConnection.isConnected = true → ∀ index chunk,
    recorded.1.driver.sumRead.getChunks[index]? = some chunk →
      recorded.1.scanPoint.fetched index = true → chunk.sumReadDataBuffer.bufferState = .valid →
        chunk.answered start.sizes ⊆ recorded.2

theorem recorded_start {driver : ADSPortDriver} {links : List RecordLink} {interrupts : List Nat}
    (started : (start driver links interrupts).driver.Started) :
    Recorded (start driver links interrupts).driver (start driver links interrupts, []) := by
  have no_echo {adsVar : ADSDeviceVar}
      (member : adsVar ∈ (start driver links interrupts).driver.deviceVariables) :=
    (started.unused _ (started.devices_tracked adsVar member)).no_echo
  have closed : (start driver links interrupts).driver.adsConnection.isConnected ≠ true := by
    simp [started.closed]
  refine ⟨.refl _, fun opened => absurd opened closed,
    fun _ member => absurd member List.not_mem_nil,
    fun adsVar member => .inl (no_echo member), fun adsVar member pending => ?_,
    fun left point => ?_, fun opened => absurd opened closed⟩
  · simp [ADSVariable.echoPending, no_echo member] at pending
  · cases point

/-- Handlers leave the connection, the sum-read and the scan thread where they are. -/
theorem still_step (state : Interleaved) {taken : ThreadStep}
    (not_scan : ∀ input, taken ≠ .scan input) :
    (state.step ads autoparam toFloat32 taken).scanPoint = state.scanPoint ∧
      (state.step ads autoparam toFloat32 taken).driver.sumRead = state.driver.sumRead ∧
      (state.step ads autoparam toFloat32 taken).driver.adsConnection =
        state.driver.adsConnection := by
  cases taken with
  | scan input => exact absurd rfl (not_scan input)
  | poll adsVar registration request =>
      unfold step
      dsimp only
      split_ifs <;> exact ⟨rfl, rfl, rfl⟩
  | checkWrite adsVar registration request =>
      unfold step
      dsimp only
      split_ifs <;> exact ⟨rfl, rfl, rfl⟩
  | sendWrite index =>
      unfold step sendWrite
      dsimp only
      split <;> exact ⟨rfl, rfl, rfl⟩
  | shutDown => exact ⟨rfl, rfl, rfl⟩

/-- A connection was open before a step, or the step has opened it. -/
theorem connected_step {state : Interleaved} {taken : ThreadStep}
    (connected : (state.step ads autoparam toFloat32 taken).driver.adsConnection.isConnected =
      true) :
    state.driver.adsConnection.isConnected = true ∨
      state.opens ads autoparam toFloat32 taken = true := by
  cases changes : state.changesLink taken with
  | false =>
      have same := (offLink_step ads autoparam toFloat32 changes).connection_eq
      exact .inl (by rwa [same] at connected)
  | true =>
      cases taken with
      | scan input =>
          cases point : state.scanPoint with
          | connect =>
              by_cases connects : state.connects (.scan input) = true
              · exact .inr (by rw [opens, connects, connected]; rfl)
              · rw [step, scan_connect ads autoparam point, if_neg connects] at connected
                exact .inl connected
          | disconnect caller =>
              rcases closed : state.driver.adsConnection.disconnect ads state.driver.trace with
                ⟨status, connection, trace⟩
              simp only [step, scan, point, doThen, ADSPortDriver.disconnect, closed] at connected
              have is_closed := (Connection.disconnect_spec ads _ _ closed).1
              exact absurd (is_closed.symm.trans connected) Bool.false_ne_true
          | setDisconnected caller =>
              simp only [step, scan, point, doThen, ADSPortDriver.setDisconnected] at connected
              cases connected
          | _ => simp [changesLink, point] at changes
      | _ => cases changes

/-- A pending write has as many bytes as its variable. -/
theorem pending_step (state : Interleaved) (taken : ThreadStep) :
    ∀ write ∈ (state.step ads autoparam toFloat32 taken).pendingWrites,
      write ∈ state.pendingWrites ∨
        write.buffer.length = (state.driver.heap.vars write.var).size := by
  intro write member
  cases taken with
  | scan input => exact .inl (by rwa [step, scan_pendingWrites] at member)
  | poll adsVar registration request =>
      unfold step at member
      dsimp only at member
      split_ifs at member <;> exact .inl member
  | checkWrite adsVar registration request =>
      have size_eq : (registration.write.varToWrite autoparam state.driver.adsConnection
          (state.driver.heap.vars adsVar.adsPV) state.driver.sumRead.buffers request).size =
          (state.driver.heap.vars adsVar.adsPV).size :=
        (ADSVariable.Alike.of_echo
          (registration.write.varToWrite_echo autoparam _ _ _ request)).size_eq
      simp only [step, checkWrite] at member
      split_ifs at member
      · split at member
        · rename_i buffer checked
          rcases List.mem_append.mp member with old | new
          · exact .inl old
          · rw [List.mem_singleton.mp new]
            exact .inr ((ADSVariable.length_checkWrite checked).trans size_eq)
        · exact .inl member
      · exact .inl member
  | sendWrite index =>
      unfold step sendWrite at member
      dsimp only at member
      split at member
      · exact .inl member
      · exact .inl (List.mem_of_mem_eraseIdx member)
  | shutDown => exact .inl member

/-- The scan thread publishes variables that the framework holds. -/
theorem devices_scan {state : Interleaved} {input : ScanInput} {left : List ADSDeviceVar}
    (point : (state.scan ads autoparam input).scanPoint = .publishing left) :
    left ⊆ state.driver.deviceVariables ∨
      ∃ adsVar, state.scanPoint = .publishing (adsVar :: left) := by
  cases before : state.scanPoint with
  | publish =>
      simp only [scan, before, goTo, ScanPoint.publishing.injEq] at point
      subst point
      exact .inl fun _ member => ADSPortDriver.mem_of_getInterruptVariables _ _ member
  | publishing earlier =>
      cases earlier with
      | nil => simp [scan, before, goTo] at point
      | cons adsVar earlier =>
          simp only [scan, before, doThen, ScanPoint.publishing.injEq] at point
          exact .inr ⟨adsVar, by rw [point]⟩
  | deinitializeSumRead caller =>
      simp only [scan, before, doThen] at point
      split_ifs at point
      cases caller <;> cases point
  | setDisconnected caller =>
      simp only [scan, before, doThen] at point
      cases caller <;> cases point
  | exited => simp [scan, before] at point
  | _ =>
      simp only [scan, before, tryThen, doThen, goTo, ScanPoint.sumReadFailed,
        ScanPoint.sumReadDone] at point
      first
        | cases point
        | split_ifs at point <;> simp_all

/-- A write that is sent leaves an echo as it is, or the value that it has delivered. -/
theorem lastWritten_sendWrite (state : Interleaved) (index : Nat) (var : VarId) :
    ((state.sendWrite ads index).driver.heap.vars var).lastWritten =
        (state.driver.heap.vars var).lastWritten ∨
      ∃ write ∈ state.pendingWrites, write.var = var ∧
        ((state.sendWrite ads index).driver.heap.vars var).lastWritten = write.buffer ∧
        (var, write.buffer) ∈ state.deliveries ads (.sendWrite index) := by
  unfold sendWrite
  cases found : state.pendingWrites[index]? with
  | none => exact .inl rfl
  | some write =>
      by_cases here : var = write.var
      · subst here
        simp only [ADSPortDriver.setVar, Function.update_self, ADSVariable.sendWrite,
          ADSVariable.afterWrite]
        split_ifs with kept
        · refine .inr ⟨write, List.mem_of_getElem? found, rfl, rfl, ?_⟩
          simp only [deliveries, found, Option.toList_some, List.flatMap_singleton,
            ADSVariable.sendWrite, adsRcToEpicsadsError_eq_zero_iff]
          rw [if_pos kept.1]
          exact List.mem_singleton_self _
        · exact .inl rfl
      · simp [ADSPortDriver.setVar, Function.update_of_ne here]

theorem lastWritten_step (state : Interleaved) (taken : ThreadStep) (var : VarId) :
    ((state.step ads autoparam toFloat32 taken).driver.heap.vars var).lastWritten =
        (state.driver.heap.vars var).lastWritten ∨
      ((state.step ads autoparam toFloat32 taken).driver.heap.vars var).lastWritten = [] ∨
      state.opens ads autoparam toFloat32 taken = false ∧ ∃ write ∈ state.pendingWrites,
        write.var = var ∧
        ((state.step ads autoparam toFloat32 taken).driver.heap.vars var).lastWritten =
          write.buffer ∧ (var, write.buffer) ∈ state.deliveries ads taken := by
  have others (not_sent : ∀ index, taken ≠ .sendWrite index) :=
    echoesUsed_step ads autoparam toFloat32 state not_sent var
  cases taken with
  | sendWrite index =>
      exact (state.lastWritten_sendWrite ads index var).imp_right fun written => .inr ⟨rfl, written⟩
  | _ => exact (others fun index => by simp).imp_right .inl

section Steps

variable {ads autoparam toFloat32} {start : ADSPortDriver} {state : Interleaved}
  {recent : List (VarId × Bytes)} {taken : ThreadStep}

theorem subset_recentStep (recent : List (VarId × Bytes))
    (stays : state.opens ads autoparam toFloat32 taken = false) :
    recent ⊆ (recentStep ads autoparam toFloat32 (state, recent) taken).2 ∧
      state.deliveries ads taken ⊆
        (recentStep ads autoparam toFloat32 (state, recent) taken).2 := by
  simp only [recentStep, stays, Bool.false_eq_true, if_false]
  exact ⟨List.subset_append_left _ _, List.subset_append_right _ _⟩

theorem Recorded.echo_sized_step (recorded : Recorded start (state, recent)) {adsVar : ADSDeviceVar}
    (member : adsVar ∈ start.deviceVariables) :
    ((state.step ads autoparam toFloat32 taken).driver.heap.vars adsVar.adsPV).EchoSized := by
  have same_size := ((keeps_step ads autoparam toFloat32 state taken).alike adsVar.adsPV).size_eq
  have start_size := (recorded.kept.alike adsVar.adsPV).size_eq
  rcases state.lastWritten_step ads autoparam toFloat32 taken adsVar.adsPV with
    same | used | ⟨_, write, in_pending, var_eq, written, _⟩
  · rw [ADSVariable.EchoSized, same, same_size]
    exact recorded.echo_sized adsVar member
  · exact .inl used
  · right
    rw [written, same_size, start_size, recorded.pending write in_pending, var_eq]
    rfl

theorem Recorded.echoes_step (recorded : Recorded start (state, recent))
    (clear : state.OpensWithoutEcho ads autoparam toFloat32 taken) {adsVar : ADSDeviceVar}
    (member : adsVar ∈ start.deviceVariables)
    (pending : ((state.step ads autoparam toFloat32 taken).driver.heap.vars
      adsVar.adsPV).echoPending = true) :
    (adsVar.adsPV, ((state.step ads autoparam toFloat32 taken).driver.heap.vars
        adsVar.adsPV).lastWritten) ∈
      (recentStep ads autoparam toFloat32 (state, recent) taken).2 := by
  have readback_eq :=
    ((keeps_step ads autoparam toFloat32 state taken).alike adsVar.adsPV).writeReadback_eq
  rw [ADSVariable.echoPending, readback_eq] at pending
  rcases state.lastWritten_step ads autoparam toFloat32 taken adsVar.adsPV with
    same | used | ⟨stays, write, _, _, written, delivered⟩
  · rw [same] at pending ⊢
    cases stays : state.opens ads autoparam toFloat32 taken with
    | false => exact (subset_recentStep recent stays).1 (recorded.echoes adsVar member pending)
    | true =>
        have device := recorded.kept.deviceVariables_eq ▸ member
        exact absurd (pending.symm.trans (clear stays adsVar device)) (by decide)
  · simp [used] at pending
  · rw [written]
    exact (subset_recentStep recent stays).2 delivered

/-- What the buffers hold while chunks are read. -/
theorem Recorded.buffers_readChunk (started : start.Started)
    (recorded : Recorded start (state, recent)) {number : Nat} {connecting : Bool}
    (point : state.scanPoint = .readChunk number connecting) {input : ScanInput}
    (whole : state.AnswersWhole ads (.scan input))
    (connected : (state.scan ads autoparam input).driver.adsConnection.isConnected = true)
    {index : Nat} {chunk : ReadRequestChunk}
    (found : (state.scan ads autoparam input).driver.sumRead.getChunks[index]? = some chunk)
    (fetched : (state.scan ads autoparam input).scanPoint.fetched index = true)
    (valid : chunk.sumReadDataBuffer.bufferState = .valid) :
    chunk.answered start.sizes ⊆
      (recentStep ads autoparam toFloat32 (state, recent) (.scan input)).2 := by
  have stays : state.opens ads autoparam toFloat32 (.scan input) = false := by
    simp [opens, connects, point]
  obtain ⟨earlier, delivered⟩ := subset_recentStep recent stays
  simp only [scan, point] at connected found fetched
  split_ifs at connected found fetched with inside
  · have still : state.driver.adsConnection.isConnected = true := connected
    have stored := (started.base (recorded.initialized still)).stored.sameLayout
      recorded.kept.layout
    rcases stored.readChunk_valid found valid with
      ⟨distinct, found_before⟩ | ⟨asked, rfl, at_index, left, rfl⟩
    · have fetched_before : state.scanPoint.fetched index = true := by
        rw [point]
        cases connecting with
        | false => rfl
        | true =>
            simp only [tryThen] at fetched
            split_ifs at fetched
            · have reached : index < number + 1 := of_decide_eq_true fetched
              exact decide_eq_true (by omega)
            · simp [ScanPoint.sumReadFailed, ScanPoint.fetched, ScanPoint.holdsLock] at fetched
      exact List.Subset.trans
        (recorded.buffers still index chunk found_before fetched_before valid) earlier
    · have in_asked : asked ∈ state.chunkAsked := by simp [chunkAsked, point, at_index]
      have answered : answerFor ads state.driver asked = some (asked.answerOf (ads.event
          state.driver.trace (asked.readCall state.driver.adsConnection)).reply) := by
        simp only [answerFor, left]
      obtain ⟨port, in_set⟩ :=
        SumReadRequest.mem_getChunks_iff.mp (List.mem_of_getElem? at_index)
      rw [ReadRequestChunk.answered_read (stored port asked in_set) start.sizes
        (whole asked in_asked _ answered), ← recorded.kept.sizes_eq]
      refine List.Subset.trans (fun entry member => ?_) delivered
      refine List.mem_flatMap.mpr ⟨asked, by simpa using in_asked, ?_⟩
      exact List.mem_flatMap.mpr ⟨_, by simp [answered], member⟩
  · -- the loop over chunks is over
    have still : state.driver.adsConnection.isConnected = true := connected
    have fetched_before : state.scanPoint.fetched index = true := by
      have reached := (List.getElem?_eq_some_iff.mp found).1
      rw [point]
      cases connecting with
      | false => rfl
      | true => exact decide_eq_true (lt_of_lt_of_le reached (not_lt.mp inside))
    exact List.Subset.trans (recorded.buffers still index chunk found fetched_before valid) earlier

/-- What the buffers of fetched chunks hold after any step. -/
theorem Recorded.buffers_step (started : start.Started)
    (recorded : Recorded start (state, recent)) (whole : state.AnswersWhole ads taken)
    (connected :
      (state.step ads autoparam toFloat32 taken).driver.adsConnection.isConnected = true)
    {index : Nat} {chunk : ReadRequestChunk}
    (found : (state.step ads autoparam toFloat32 taken).driver.sumRead.getChunks[index]? =
      some chunk)
    (fetched : (state.step ads autoparam toFloat32 taken).scanPoint.fetched index = true)
    (valid : chunk.sumReadDataBuffer.bufferState = .valid) :
    chunk.answered start.sizes ⊆ (recentStep ads autoparam toFloat32 (state, recent) taken).2 := by
  have handler (not_scan : ∀ input, taken ≠ .scan input) :
      chunk.answered start.sizes ⊆
        (recentStep ads autoparam toFloat32 (state, recent) taken).2 := by
    obtain ⟨point_eq, sumRead_eq, connection_eq⟩ :=
      state.still_step ads autoparam toFloat32 not_scan
    rw [point_eq] at fetched
    rw [sumRead_eq] at found
    rw [connection_eq] at connected
    have stays : state.opens ads autoparam toFloat32 taken = false := by
      cases taken with
      | scan input => exact absurd rfl (not_scan input)
      | _ => rfl
    exact List.Subset.trans (recorded.buffers connected index chunk found fetched valid)
      (subset_recentStep recent stays).1
  cases taken with
  | scan input =>
      by_cases asks : ∃ number connecting, state.scanPoint = .readChunk number connecting
      · obtain ⟨number, connecting, point⟩ := asks
        exact recorded.buffers_readChunk started point whole connected found fetched valid
      · have not_asked : ∀ number connecting, state.scanPoint ≠ .readChunk number connecting :=
          fun number connecting point => asks ⟨number, connecting, point⟩
        obtain ⟨still, fetched_before⟩ := fetched_scan ads autoparam not_asked connected fetched
        obtain ⟨before, found_before, vars_eq, buffer_eq⟩ :=
          ((state.section_scan ads autoparam input).sameData not_asked).getElem? found
        have stays : state.opens ads autoparam toFloat32 (.scan input) = false := by
          simp [opens, connects, still]
        rw [buffer_eq] at valid
        rw [ReadRequestChunk.answered_congr vars_eq (by rw [buffer_eq])]
        exact List.Subset.trans
          (recorded.buffers still index before found_before fetched_before valid)
          (subset_recentStep recent stays).1
  | _ => exact handler fun input => by simp

/-- One step. -/
theorem Recorded.step (started : start.Started) (recorded : Recorded start (state, recent))
    (clear : state.LeavesNothing ads autoparam toFloat32 taken) :
    Recorded start (recentStep ads autoparam toFloat32 (state, recent) taken) where
  kept := recorded.kept.trans (keeps_step ads autoparam toFloat32 state taken)
  initialized connected := by
    rcases connected_step ads autoparam toFloat32 connected with still | opens
    · exact recorded.initialized still
    · rw [← recorded.kept.initialized_eq]
      cases taken with
      | scan input =>
          have connects : state.connects (.scan input) = true := (Bool.and_eq_true_iff.mp opens).1
          exact ((state.connects_scan_iff input).mp connects).2.2.1
      | _ => cases opens
  pending write member := by
    rcases pending_step ads autoparam toFloat32 state taken write member with earlier | sized
    · exact recorded.pending write earlier
    · exact sized.trans (recorded.kept.alike write.var).size_eq
  echo_sized adsVar member := recorded.echo_sized_step member
  echoes adsVar member pending := recorded.echoes_step clear.1 member pending
  devices left point := by
    have handler (not_scan : ∀ input, taken ≠ .scan input) : left ⊆ start.deviceVariables :=
      recorded.devices left ((state.still_step ads autoparam toFloat32 not_scan).1.symm.trans point)
    cases taken with
    | scan input =>
        rcases devices_scan ads autoparam point with listed | ⟨adsVar, earlier⟩
        · exact recorded.kept.deviceVariables_eq ▸ listed
        · exact List.Subset.trans (List.subset_cons_self _ _) (recorded.devices _ earlier)
    | _ => exact handler fun input => by simp
  buffers connected index chunk found fetched valid :=
    recorded.buffers_step started clear.2 connected found fetched valid

/-- A variable that may be read is placed, and its current value is recent. -/
theorem Recorded.current (started : start.Started) (recorded : Recorded start (state, recent))
    (readable : ∀ index, state.scanPoint.fetched index = true) {adsVar : ADSDeviceVar}
    (member : adsVar ∈ start.deviceVariables)
    (served : readRefused state.driver.adsConnection (state.driver.heap.vars adsVar.adsPV) = false)
    (connected : state.driver.adsConnection.isConnected = true) :
    (state.driver.heap.vars adsVar.adsPV).Placed state.driver.sumRead.buffers ∧
      ∀ value, (state.driver.heap.vars adsVar.adsPV).current state.driver.adsConnection
        state.driver.sumRead.buffers = some value → (adsVar.adsPV, value) ∈ recent := by
  have base := started.base (recorded.initialized connected)
  obtain ⟨given, distributed⟩ := recorded.kept.distributed base
  have stored := base.stored.sameLayout recorded.kept.layout
  have alike := recorded.kept.alike adsVar.adsPV
  have listed : adsVar.adsPV ∈ start.adsReadVars := by
    refine (started.reads_listed adsVar member).resolve_right fun unread => ?_
    rw [← alike.operation_eq, ← alike.writeReadback_eq] at unread
    dsimp only at unread
    simp [readRefused, unread.1, unread.2] at served
  refine ⟨distributed.placed stored listed, fun value found => ?_⟩
  unfold ADSVariable.current at found
  rw [served, if_neg Bool.false_ne_true] at found
  rcases taken : (state.driver.heap.vars adsVar.adsPV).snapshot state.driver.sumRead.buffers with
    _ | ⟨_ | code, data⟩
  · simp [taken] at found
  · obtain rfl : (state.driver.heap.vars adsVar.adsPV).delivered data = value := by
      simpa [taken] using found
    unfold ADSVariable.delivered
    split_ifs with pending
    · exact recorded.echoes adsVar member pending
    · obtain ⟨chunk, in_chunks, valid, answered⟩ := distributed.mem_answered listed taken
      obtain ⟨index, at_index⟩ := List.mem_iff_getElem?.mp in_chunks
      refine recorded.buffers connected index chunk at_index (readable index) valid ?_
      rw [← recorded.kept.sizes_eq]
      exact answered
  · simp [taken] at found

/-- A read handler for a whole variable returns recent values only. -/
theorem Recorded.madeOfRecent (started : start.Started) (recorded : Recorded start (state, recent))
    (readable : ∀ index, state.scanPoint.fetched index = true) {adsVar : ADSDeviceVar}
    (member : adsVar ∈ start.deviceVariables) {handler : ReadHandler}
    (whole : (state.driver.heap.vars adsVar.adsPV).size ≤
      handler.bytesToRead (state.driver.heap.vars adsVar.adsPV)) (request : ReadRequest) :
    MadeOfRecent autoparam (state, recent) adsVar.adsPV handler request
      (handler.poll autoparam state.driver.adsConnection state.driver.sumRead.buffers
        (state.driver.heap.vars adsVar.adsPV) request).1 := by
  intro succeeded
  have served : readRefused state.driver.adsConnection (state.driver.heap.vars adsVar.adsPV) =
      false := by
    rw [Bool.eq_false_iff]
    intro refused
    rw [handler.poll_refused autoparam _ refused request] at succeeded
    cases succeeded
  have connected : state.driver.adsConnection.isConnected = true := by
    simp only [readRefused, Bool.or_eq_false_iff, Bool.not_eq_false', Bool.and_eq_true] at served
    exact served.2.2
  obtain ⟨placed, recent_value⟩ := recorded.current started readable member served connected
  obtain ⟨value, found, made⟩ := ReadHandler.poll_success autoparam placed
    (recorded.echo_sized adsVar member) whole succeeded
  exact ⟨connected, value, recent_value value found, made⟩

/-- Under the driver's lock, handlers return recent values. -/
theorem Recorded.returnsRecent (started : start.Started) (recorded : Recorded start (state, recent))
    (locked : state.LockKept taken) : ReturnsRecent autoparam (state, recent) taken := by
  have made {adsVar : ADSDeviceVar} (member : adsVar ∈ start.deviceVariables) :=
    (recorded.kept.alike adsVar.adsPV).ofFunction (started.typed adsVar member)
  have readable (free : state.scanPoint.holdsLock = false) (index : Nat) :
      state.scanPoint.fetched index = true := by
    cases point : state.scanPoint with
    | readChunk count connecting =>
      cases connecting <;> simp_all [ScanPoint.fetched, ScanPoint.holdsLock]
    | _ => simp_all [ScanPoint.fetched]
  cases taken with
  | poll adsVar registration request =>
      intro calls
      obtain ⟨device, registered, function_eq⟩ := calls
      have member : adsVar ∈ start.deviceVariables := recorded.kept.deviceVariables_eq ▸ device
      exact recorded.madeOfRecent started (readable locked.1) member
        (size_le_registered registered (function_eq ▸ made member)) request
  | checkWrite adsVar registration request =>
      intro calls plcDataType writes _
      obtain ⟨device, registered, function_eq⟩ := calls
      have member : adsVar ∈ start.deviceVariables := recorded.kept.deviceVariables_eq ▸ device
      have scalar := registered_scalars registration registered plcDataType (by rw [writes]; rfl)
      exact recorded.madeOfRecent started (readable locked.1) member
        (size_of_scalar registered (function_eq ▸ made member) scalar).le _
  | scan input =>
      intro adsVar left point var garbage handler found
      have member : adsVar ∈ start.deviceVariables := recorded.devices _ point (by simp)
      rw [handler.run_ioIntrRequest]
      exact recorded.madeOfRecent started (fun index => by rw [point]; rfl) member
        (size_le_ioIntr (made member) found) _
  | _ => trivial

end Steps

/-! ## Runs -/

/-- In every run of the threads, and whatever the library returns, all values that read handlers
return were delivered on the connection that is open, if no echo is pending when a connection is
opened and all chunks that are read successfully get answers for their whole buffers. -/
theorem no_value_survives_reconnect {ipAddr : Str} {amsNetId : AmsNetId}
    {sumBufferSize deviceReadAdsPort : UInt16} {heap : Heap} {driver : ADSPortDriver}
    (constructed : ADSPortDriver.new ipAddr amsNetId sumBufferSize deviceReadAdsPort heap =
      some driver) (links : List RecordLink) (interrupts : List Nat) {taken : List ThreadStep}
    (locked : EachMeets (step ads autoparam toFloat32) LockKept (start driver links interrupts)
      taken)
    (clear : EachMeets (step ads autoparam toFloat32) (LeavesNothing ads autoparam toFloat32)
      (start driver links interrupts) taken) :
    EachMeets (recentStep ads autoparam toFloat32) (ReturnsRecent autoparam)
      (start driver links interrupts, []) taken := by
  have started := started_start constructed links interrupts
  have follows (recorded : Interleaved × List (VarId × Bytes)) (taken : ThreadStep) :
      (recentStep ads autoparam toFloat32 recorded taken).1 =
        recorded.1.step ads autoparam toFloat32 taken := rfl
  have locked := (eachMeets_follow Prod.fst follows LockKept
    (start driver links interrupts, []) taken).mpr locked
  have clear := (eachMeets_follow Prod.fst follows (LeavesNothing ads autoparam toFloat32)
    (start driver links interrupts, []) taken).mpr clear
  intro front last reached
  obtain ⟨rest, rfl⟩ := reached
  obtain ⟨earlier, _⟩ := eachMeets_concat.mp (eachMeets_append.mp clear).1
  have recorded := run_induction (Recorded (start driver links interrupts).driver)
    (fun _ _ recorded clear => recorded.step started clear) (recorded_start started) earlier
  exact recorded.returnsRecent started (locked front last (List.prefix_append _ _))

/-- A record writes 5 to the last variable, which has a readback. -/
def readbackWrite : List ThreadStep :=
  [.checkWrite ⟨"INT".toList, 2⟩ (registerInteger .int .int16 .int32) sampleWrite, .sendWrite 0]

/-- A record reads that variable. -/
def readbackPoll : ThreadStep :=
  .poll ⟨"INT".toList, 2⟩ (registerInteger .int .int16 .int32) ⟨0, ⟨[], 0, 0⟩, ⟨[], 0⟩, fun _ => 0⟩

/-- The scan thread loses the device and connects again. -/
def reconnectSteps : List ThreadStep := List.replicate 17 (.scan ADSPortDriver.sampleInput)

/-- A record that reads the echo before the device is lost gets the value of the PLC after. -/
theorem no_value_survives_reconnect_sample :
    EachMeets (recentStep lostAds .sample fun _ => 0) (ReturnsRecent .sample)
      (start ADSPortDriver.sampleDriver ADSPortDriver.sampleLinks [0, 2], [])
      (sampleSteps ++ readbackWrite ++ [readbackPoll] ++ reconnectSteps ++ [readbackPoll]) :=
  no_value_survives_reconnect lostAds .sample (fun _ => 0)
    (rfl : ADSPortDriver.new _ [10, 0, 0, 1, 1, 1] 2 851 ⟨SumReadRequest.sampleVars, []⟩ =
      some ADSPortDriver.sampleDriver)
    ADSPortDriver.sampleLinks [0, 2] (by decide) (by decide)

/-- The value written on the first connection is read on the second one, on which the variable has
only been delivered another value. -/
theorem echo_survives_reconnect :
    EachMeets (step lostAds .sample fun _ => 0) LockKept
        (start ADSPortDriver.sampleDriver ADSPortDriver.sampleLinks [0, 2])
        (sampleSteps ++ readbackWrite ++ reconnectSteps ++ [readbackPoll]) ∧
      (run (recentStep lostAds .sample fun _ => 0)
        (start ADSPortDriver.sampleDriver ADSPortDriver.sampleLinks [0, 2], [])
        (sampleSteps ++ readbackWrite ++ reconnectSteps)).2 = [(0, [7, 7]), (2, [7, 7])] ∧
      ¬ EachMeets (recentStep lostAds .sample fun _ => 0) (ReturnsRecent .sample)
        (start ADSPortDriver.sampleDriver ADSPortDriver.sampleLinks [0, 2], [])
        (sampleSteps ++ readbackWrite ++ reconnectSteps ++ [readbackPoll]) := by
  have recent_eq : (run (recentStep lostAds .sample fun _ => 0)
      (start ADSPortDriver.sampleDriver ADSPortDriver.sampleLinks [0, 2], [])
      (sampleSteps ++ readbackWrite ++ reconnectSteps)).2 = [(0, [7, 7]), (2, [7, 7])] := by
    decide
  refine ⟨by decide, recent_eq, fun meets => ?_⟩
  obtain ⟨_, value, member, returned⟩ :=
    meets (sampleSteps ++ readbackWrite ++ reconnectSteps) readbackPoll (List.prefix_refl _)
      (by decide) (by decide)
  rw [recent_eq] at member
  obtain rfl : value = [7, 7] := by simpa using member
  exact absurd returned (by decide)

end Interleaved

end AdsDriver
