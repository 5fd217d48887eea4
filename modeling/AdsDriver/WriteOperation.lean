import AdsDriver.ArrayWrite
import AdsDriver.InterleavingFrame

/-!
# Writes of variables for reading

Read handlers refuse variables that are declared for writing only.  No write handler looks at the
declared operation, and neither does `write`.
-/

namespace AdsDriver

open ByteMemory Runs

namespace WriteHandler

/-- The type of the local variable that a scalar handler writes from. -/
def scalarType : WriteHandler → Option EpicsType
  | .integerWrite plcDataType _ | .digitalWrite plcDataType | .floatWrite plcDataType =>
      some plcDataType
  | _ => none

/-- Whether the record hands over data: arrays and strings may come without any. -/
def gets (request : WriteRequest) : WriteHandler → Bool
  | .arrayWrite _ _ | .stringWrite => request.data.isSome
  | _ => true

theorem isSome_dataToWrite (autoparam : Autoparam) (connection : Connection) (var : ADSVariable)
    (toFloat32 : BitVec 64 → BitVec 32) (buffers : Buffers) (request : WriteRequest)
    (handler : WriteHandler) :
    (handler.dataToWrite autoparam connection var toFloat32 buffers request).isSome =
      handler.gets request := by
  cases handler <;> rfl

end WriteHandler

theorem registered_scalars : ∀ registration ∈ registeredHandlers,
    ∀ plcDataType ∈ registration.write.scalarType,
      registration.read.scalarType = some plcDataType := by
  decide

/-- Registered handlers write whole variables. -/
theorem bytesToWrite_eq {registration : Registration}
    (registered : registration ∈ registeredHandlers)
    {var : ADSVariable} (made : var.OfFunction registration.function) :
    registration.write.bytesToWrite var = var.size := by
  have elements := registered_elements registration registered
  have scalars := registered_scalars registration registered
  have small := made.nelem_lt
  cases handler : registration.write with
  | arrayWrite plcDataType epicsDataType =>
      obtain ⟨_, plc_width, elem_size⟩ := elements epicsDataType.size (by rw [handler]; rfl)
      have width_eq : plcDataType.size = epicsDataType.size := by
        simpa [handler, WriteHandler.plcWidth] using plc_width
      have narrow : plcDataType.size ≤ 8 := by cases plcDataType <;> decide
      have bound : plcDataType.size * var.addr.nelem < 2 ^ 64 := by
        calc
          plcDataType.size * var.addr.nelem ≤ 8 * 2 ^ 32 := Nat.mul_le_mul narrow small.le
          _ < 2 ^ 64 := by decide
      rw [made.toOption_eq, Option.bind_some] at elem_size
      rw [WriteHandler.bytesToWrite, u64_of_lt bound, ADSVariable.size, ADSVariable.elemSize,
        elem_size, width_eq]
      rfl
  | stringWrite =>
      obtain ⟨_, _, elem_size⟩ := elements 1 (by rw [handler]; rfl)
      rw [made.toOption_eq, Option.bind_some] at elem_size
      rw [WriteHandler.bytesToWrite, ADSVariable.size, ADSVariable.elemSize, elem_size,
        Option.getD_some, Nat.one_mul, u32_of_lt small]
  | integerWrite plcDataType epicsDataType =>
      exact (size_of_scalar registered made (scalars plcDataType (by rw [handler]; rfl))).symm
  | digitalWrite plcDataType =>
      exact (size_of_scalar registered made (scalars plcDataType (by rw [handler]; rfl))).symm
  | floatWrite plcDataType =>
      exact (size_of_scalar registered made (scalars plcDataType (by rw [handler]; rfl))).symm

theorem ADSVariable.readFromBuffer_no_readback (buffers : Buffers) {var : ADSVariable}
    (no_readback : var.writeReadback = false) (size : Nat) (destination : Bytes) :
    (var.readFromBuffer buffers size destination).2.2 = var := by
  unfold readFromBuffer
  by_cases empty : var.bufferReader = emptyBufferDataPosition
  · rw [if_pos empty]
  · rw [if_neg empty]
    cases var.bufferReader.buffer.bind buffers with
    | none => rfl
    | some buffer =>
        simp only [no_readback, Bool.false_and, Bool.false_eq_true, if_false]
        split_ifs <;> rfl

theorem WriteHandler.varToWrite_no_readback (autoparam : Autoparam) (connection : Connection)
    {var : ADSVariable} (no_readback : var.writeReadback = false) (buffers : Buffers)
    (request : WriteRequest) (handler : WriteHandler) :
    handler.varToWrite autoparam connection var buffers request = var := by
  cases handler with
  | digitalWrite plcDataType =>
      simp only [varToWrite, digitalRead, readScalar]
      split_ifs
      · rfl
      · exact var.readFromBuffer_no_readback buffers no_readback _ _
      · exact var.readFromBuffer_no_readback buffers no_readback _ _
      · rfl
  | _ => rfl

/-- A write handler called for a variable without readback sends a value when the name is resolved
and there are data, and else fails and leaves the variable as it is. -/
theorem write_no_readback (autoparam : Autoparam) (ads : Ads) (connection : Connection)
    (toFloat32 : BitVec 64 → BitVec 32) (buffers : Buffers) {registration : Registration}
    (registered : registration ∈ registeredHandlers) {var : ADSVariable}
    (made : var.OfFunction registration.function) (conn : var.conn = true)
    (no_readback : var.writeReadback = false) (request : WriteRequest) (trace : Trace)
    {called : Result Unit × Written}
    (ran : registration.write.run autoparam ads connection var toFloat32 buffers request trace =
      called) :
    (var.addr.nameIsResolved = true ∧ registration.write.gets request = true ∧
        called.2.trace ≠ trace) ∨
      ((var.addr.nameIsResolved = false ∨ registration.write.gets request = false) ∧
        called.1.status = .error ∧ called.2.trace = trace ∧ called.2.var = var) := by
  have passes := var.checkWrite_eq_ok_iff
    (registration.write.dataToWrite autoparam connection var toFloat32 buffers request) var.size
  rw [registration.write.isSome_dataToWrite, ADSVariable.sendable, conn, Bool.true_and] at passes
  simp only [WriteHandler.run_eq, bytesToWrite_eq registered made, ADSVariable.write_eq_checkWrite,
    registration.write.varToWrite_no_readback autoparam _ no_readback] at ran
  subst ran
  cases checked : var.checkWrite
    (registration.write.dataToWrite autoparam connection var toFloat32 buffers request)
      var.size with
  | ok buffer =>
      obtain ⟨gets, resolved, _⟩ := passes.mp ⟨buffer, checked⟩
      exact .inl ⟨resolved, gets, by simp [ADSVariable.sendWrite]⟩
  | error status =>
      have failed := ADSVariable.checkWrite_status checked
      refine .inr ⟨?_, ?_, rfl, rfl⟩
      · by_contra passed
        simp only [not_or, Bool.not_eq_false] at passed
        obtain ⟨buffer, ok⟩ := passes.mpr ⟨passed.2, passed.1, le_rfl⟩
        cases checked.symm.trans ok
      · simp [writeResult, failed, Autoparam.error]

namespace Interleaved

variable (ads : Ads) (autoparam : Autoparam) (toFloat32 : BitVec 64 → BitVec 32)

/-- What is known of a variable that handlers are called with. -/
theorem called_run {ipAddr : Str} {amsNetId : AmsNetId} {sumBufferSize deviceReadAdsPort : UInt16}
    {heap : Heap} {driver : ADSPortDriver}
    (constructed : ADSPortDriver.new ipAddr amsNetId sumBufferSize deviceReadAdsPort heap =
      some driver) (links : List RecordLink) (interrupts : List Nat) {taken : List ThreadStep}
    {state : Interleaved}
    (reached : run (step ads autoparam toFloat32) (start driver links interrupts) taken = state)
    {adsVar : ADSDeviceVar} {registration : Registration}
    (calls : state.Calls adsVar registration) :
    (state.driver.heap.vars adsVar.adsPV).OfFunction registration.function ∧
      (state.driver.heap.vars adsVar.adsPV).conn = true ∧
      ((state.driver.heap.vars adsVar.adsPV).writeReadback = true →
        (state.driver.heap.vars adsVar.adsPV).addr.operation = .write) := by
  have hooked := hooked_start constructed links interrupts
  have kept := keeps_run ads autoparam toFloat32 (start driver links interrupts) taken
  rw [reached] at kept
  obtain ⟨member, _, function_eq⟩ := calls
  rw [kept.deviceVariables_eq] at member
  have alike := kept.alike adsVar.adsPV
  have unused := hooked.unused _ (hooked.devices_tracked adsVar member)
  refine ⟨?_, ?_, ?_⟩
  · rw [function_eq]
    exact alike.ofFunction (hooked.typed adsVar member)
  · rw [alike.conn_eq, unused.conn]
  · rw [alike.writeReadback_eq, alike.operation_eq]
    exact unused.readback

/-- A write handler sends a value only to a variable for writing.  For a variable for reading it
reports an error, sends nothing and leaves the echo as it is. -/
def RespectsOperation (state : Interleaved) (adsVar : ADSDeviceVar) (registration : Registration)
    (request : WriteRequest) : Prop :=
  let driver := state.driver
  let var := driver.heap.vars adsVar.adsPV
  let called := registration.write.run autoparam ads driver.adsConnection var toFloat32
    driver.sumRead.buffers request driver.trace
  (called.2.trace ≠ driver.trace → var.addr.operation = .write) ∧
    (var.addr.operation = .read → called.1.status = .error ∧ called.2.trace = driver.trace ∧
      called.2.var.lastWritten = var.lastWritten)

/-- In every reachable state, a write handler respects the declared operation of a variable exactly
when the variable is for writing, its name is not resolved or the record hands over no data. -/
theorem write_respectsOperation_iff {ipAddr : Str} {amsNetId : AmsNetId}
    {sumBufferSize deviceReadAdsPort : UInt16} {heap : Heap} {driver : ADSPortDriver}
    (constructed : ADSPortDriver.new ipAddr amsNetId sumBufferSize deviceReadAdsPort heap =
      some driver) (links : List RecordLink) (interrupts : List Nat) {taken : List ThreadStep}
    {state : Interleaved}
    (reached : run (step ads autoparam toFloat32) (start driver links interrupts) taken = state)
    {adsVar : ADSDeviceVar} {registration : Registration}
    (calls : state.Calls adsVar registration) (request : WriteRequest) :
    state.RespectsOperation ads autoparam toFloat32 adsVar registration request ↔
      (state.driver.heap.vars adsVar.adsPV).addr.operation = .write ∨
        (state.driver.heap.vars adsVar.adsPV).addr.nameIsResolved = false ∨
        registration.write.gets request = false := by
  obtain ⟨made, conn, readback⟩ :=
    called_run ads autoparam toFloat32 constructed links interrupts reached calls
  unfold RespectsOperation
  cases operation : (state.driver.heap.vars adsVar.adsPV).addr.operation with
  | write => exact iff_of_true ⟨fun _ => operation, fun read => absurd (operation.symm.trans read)
      (by decide)⟩ (.inl rfl)
  | read =>
      have not_write : (state.driver.heap.vars adsVar.adsPV).addr.operation ≠ .write := by
        simp [operation]
      have no_readback : (state.driver.heap.vars adsVar.adsPV).writeReadback = false := by
        rw [Bool.eq_false_iff]
        exact fun used => not_write (readback used)
      rcases write_no_readback autoparam ads state.driver.adsConnection toFloat32
        state.driver.sumRead.buffers calls.2.1 made conn no_readback request state.driver.trace rfl
        with ⟨resolved, gets, sent⟩ | ⟨refused, failed, same_trace, same_var⟩
      · refine iff_of_false (fun respects => ?_) (by simp [gets, resolved])
        exact not_write (respects.1 sent)
      · refine iff_of_true ⟨fun changed => absurd same_trace changed, fun _ => ?_⟩ (.inr refused)
        exact ⟨failed, same_trace, by rw [same_var]⟩

/-- Iterations of the scan thread that connect the sample driver. -/
def sampleSteps : List ThreadStep := List.replicate 9 (.scan ADSPortDriver.sampleInput)

/-- The sample driver, connected. -/
def sampleConnected : Interleaved :=
  run (step SumReadRequest.sevensAds .sample fun _ => 0)
    (start ADSPortDriver.sampleDriver ADSPortDriver.sampleLinks [0, 2]) sampleSteps

/-- A record writes 5. -/
def sampleWrite : WriteRequest := { val := 5, garbage := fun _ => 0, beyond := fun _ => 0 }

/-- The second variable is for writing, and is written. -/
theorem write_respectsOperation_iff_sample :
    sampleConnected.RespectsOperation SumReadRequest.sevensAds .sample (fun _ => 0)
      ⟨"INT".toList, 1⟩ (registerInteger .int .int16 .int32) sampleWrite :=
  (write_respectsOperation_iff SumReadRequest.sevensAds .sample (fun _ => 0)
    (rfl : ADSPortDriver.new _ [10, 0, 0, 1, 1, 1] 2 851 ⟨SumReadRequest.sampleVars, []⟩ =
      some ADSPortDriver.sampleDriver)
    ADSPortDriver.sampleLinks [0, 2] (rfl : _ = sampleConnected) (by decide) sampleWrite).mpr
    (.inl (by decide))

/-- The first variable is for reading, and the handler sends a value to it and reports success. -/
theorem write_sends_read_variable :
    sampleConnected.Calls ⟨"INT".toList, 0⟩ (registerInteger .int .int16 .int32) ∧
      (sampleConnected.driver.heap.vars 0).addr.operation = .read ∧
      ((registerInteger .int .int16 .int32).write.run .sample SumReadRequest.sevensAds
          sampleConnected.driver.adsConnection (sampleConnected.driver.heap.vars 0) (fun _ => 0)
          sampleConnected.driver.sumRead.buffers sampleWrite
            sampleConnected.driver.trace).1.status =
        .success ∧
      ((registerInteger .int .int16 .int32).write.run .sample SumReadRequest.sevensAds
          sampleConnected.driver.adsConnection (sampleConnected.driver.heap.vars 0) (fun _ => 0)
          sampleConnected.driver.sumRead.buffers sampleWrite sampleConnected.driver.trace).2.trace =
        sampleConnected.driver.trace ++ [SumReadRequest.sevensAds.event sampleConnected.driver.trace
          ((sampleConnected.driver.heap.vars 0).writeCall sampleConnected.driver.adsConnection
            [5, 0])] ∧
      ¬ sampleConnected.RespectsOperation SumReadRequest.sevensAds .sample (fun _ => 0)
        ⟨"INT".toList, 0⟩ (registerInteger .int .int16 .int32) sampleWrite := by
  refine ⟨by decide, by decide, by decide, by decide, fun respects => ?_⟩
  exact absurd (respects.1 (by decide)) (by decide)

end Interleaved

end AdsDriver
