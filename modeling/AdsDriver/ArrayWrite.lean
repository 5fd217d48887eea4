import AdsDriver.IoIntr
import AdsDriver.SumRead

/-!
# Writes of arrays and strings

`arrayWrite` and `stringWrite` take as many bytes from the caller as the variable holds, whatever
the length of the value they are given.
-/

namespace AdsDriver

open ByteMemory

namespace WriteHandler

/-- The size of the elements that a caller hands to an array or string handler. -/
def callerWidth : WriteHandler → Option Nat
  | .arrayWrite _ epicsDataType => some epicsDataType.size
  | .stringWrite => some 1
  | _ => none

/-- The size of the elements that an array or string handler counts with. -/
def plcWidth : WriteHandler → Option Nat
  | .arrayWrite plcDataType _ => some plcDataType.size
  | .stringWrite => some 1
  | _ => none

/-- Run an array or string handler. -/
def runArray (autoparam : Autoparam) (ads : Ads) (connection : Connection) (var : ADSVariable)
    (val : Option Source) (trace : Trace) : WriteHandler → Option (Result Unit × Written)
  | .arrayWrite plcDataType _ =>
      some (AdsDriver.arrayWrite autoparam ads connection var plcDataType val trace)
  | .stringWrite => some (AdsDriver.stringWrite autoparam ads connection var val trace)
  | _ => none

end WriteHandler

theorem registered_elements : ∀ registration ∈ registeredHandlers,
    ∀ width ∈ registration.write.callerWidth, 0 < width ∧ registration.write.plcWidth = some width ∧
      (parseDataTypeAutoparam registration.function).toOption.bind adsDatatypeSizes =
        some width := by
  decide

section Write

variable (autoparam : Autoparam) (ads : Ads) (connection : Connection) {var : ADSVariable}

/-- Array and string handlers write the whole variable. -/
theorem runArray_eq {registration : Registration} (registered : registration ∈ registeredHandlers)
    {width : Nat} (elements : registration.write.callerWidth = some width)
    (made : var.OfFunction registration.function) (fits : width * var.addr.nelem < 2 ^ 32)
    (val : Option Source) (trace : Trace) :
    0 < width ∧ var.size = width * var.addr.nelem ∧
      registration.write.runArray autoparam ads connection var val trace =
        some (writeResult autoparam (var.write ads connection val var.size trace),
          var.write ads connection val var.size trace) := by
  obtain ⟨width_pos, plc_width, elem_size⟩ :=
    registered_elements registration registered width elements
  rw [made.toOption_eq, Option.bind_some] at elem_size
  have size_eq : var.size = width * var.addr.nelem := by
    rw [ADSVariable.size, ADSVariable.elemSize, elem_size]
    exact u32_of_lt fits
  refine ⟨width_pos, size_eq, ?_⟩
  cases handler : registration.write with
  | arrayWrite plcDataType epicsDataType =>
      obtain rfl : plcDataType.size = width := by
        simpa [handler, WriteHandler.plcWidth] using plc_width
      have bytes_eq : u32 (u64 (plcDataType.size * var.addr.nelem)) = var.size := by
        rw [u64_of_lt (by omega), u32_of_lt fits, size_eq]
      simp only [WriteHandler.runArray, arrayWrite, bytes_eq]
  | stringWrite =>
      obtain rfl : 1 = width := by simpa [handler, WriteHandler.plcWidth] using plc_width
      have bytes_eq : var.addr.nelem = var.size := by rw [size_eq, Nat.one_mul]
      simp only [WriteHandler.runArray, stringWrite, bytes_eq]
  | _ => simp [handler, WriteHandler.callerWidth] at elements

/-- The bytes that a write of a value should send: the elements that fit, then zeros. -/
def padded (width nelem : Nat) (owned : Bytes) : Bytes :=
  owned.take (width * nelem) ++ List.replicate (width * nelem - owned.length) 0

theorem payload_eq_padded {source : Source} {width : Nat}
    (size_eq : var.size = width * var.addr.nelem)
    (owned : var.size ≤ source.bytes.length) :
    var.payload source var.size = padded width var.addr.nelem source.bytes := by
  rw [ADSVariable.payload, Source.take_of_le owned, padded, ← size_eq, Nat.sub_eq_zero_of_le owned,
    List.replicate_zero, List.append_nil]
  exact overwrite_of_length_le (by rw [List.length_replicate, List.length_take_of_le owned])

/-- A write of an array or a string stays inside the caller's value, sends its elements followed by
zeros and keeps the same bytes as echo exactly when the value has as many elements as the
variable, there is no value or the variable cannot be written. -/
theorem arrayWrite_inside_iff {registration : Registration}
    (registered : registration ∈ registeredHandlers) {width : Nat}
    (elements : registration.write.callerWidth = some width)
    (made : var.OfFunction registration.function) (fits : width * var.addr.nelem < 2 ^ 32)
    {val : Option Source} {count : Nat}
    (owned : ∀ source ∈ val, source.bytes.length = width * count)
    {trace : Trace} {result : Result Unit} {written : Written}
    (ran : registration.write.runArray autoparam ads connection var val trace =
      some (result, written)) :
    (written.copied ≤ width * count ∧
        (∀ source ∈ val, ∀ event, written.trace = trace ++ [event] →
          event.call = var.writeCall connection (padded width var.addr.nelem source.bytes)) ∧
        (result.status = .success → var.writeReadback = true → ∀ source ∈ val,
          written.var.lastWritten = padded width var.addr.nelem source.bytes)) ↔
      var.addr.nelem ≤ count ∨ val = none ∨ var.sendable = false := by
  obtain ⟨width_pos, size_eq, run_eq⟩ :=
    runArray_eq autoparam ads connection registered elements made fits val trace
  obtain ⟨rfl, rfl⟩ := Prod.mk.inj (Option.some.inj (ran.symm.trans run_eq))
  cases val with
  | none => simp [ADSVariable.write]
  | some source =>
      cases sendable : var.sendable with
      | false =>
          obtain ⟨status, failed, unsent⟩ :=
            ADSVariable.write_refused ads connection sendable (some source) var.size trace
          simp [unsent, writeResult, failed, Autoparam.error]
      | true =>
          rw [ADSVariable.write_sent ads connection sendable le_rfl source trace rfl]
          have count_eq := owned source rfl
          by_cases enough : var.addr.nelem ≤ count
          · have inside : var.size ≤ width * count := by
              rw [size_eq]
              exact Nat.mul_le_mul_left width enough
            have sent := payload_eq_padded size_eq (inside.trans count_eq.ge)
            simp only [sent, Option.mem_def, Option.some.injEq, forall_eq']
            refine iff_of_true ⟨inside, ?_, ?_⟩ (.inl enough)
            · intro event traced
              obtain rfl := List.singleton_inj.mp (List.append_cancel_left traced)
              rfl
            · intro succeeded readback
              have accepted : (ads trace (var.writeCall connection
                  (padded width var.addr.nelem source.bytes))).rc = 0 := by
                by_contra refused
                simp [writeResult, adsRcToEpicsadsError_eq_zero_iff, refused, Autoparam.error]
                  at succeeded
              simp [ADSVariable.afterWrite, accepted, readback]
          · refine iff_of_false ?_ (by simp [enough])
            rintro ⟨inside, _, _⟩
            rw [size_eq] at inside
            exact enough (Nat.le_of_mul_le_mul_left inside width_pos)

end Write

/-- The function of arrays of 16-bit integers. -/
def intArray : Registration := registerArray .int .int16 .int16

theorem intArray_registered : intArray ∈ registeredHandlers := by
  decide

theorem ofFunction_intArray : (singleVariable .int .write 3).OfFunction intArray.function :=
  ⟨by decide, by decide, by decide, by decide⟩

/-- Three elements for a variable of three are copied and no byte more. -/
theorem arrayWrite_inside_iff_sample :
    (arrayWrite .sample SumReadRequest.sevensAds sampleConnection (singleVariable .int .write 3)
      .int16 (some ⟨[1, 0, 2, 0, 3, 0], fun _ => 0xEE⟩) []).2.copied ≤ 2 * 3 :=
  ((arrayWrite_inside_iff .sample SumReadRequest.sevensAds sampleConnection intArray_registered rfl
    ofFunction_intArray (by decide) (fun source given => by rw [← Option.some.inj given]; rfl)
    rfl).mpr (.inl le_rfl)).1

/-- One element for a variable of three: six bytes are copied of which the caller owns two, and
the others are sent. -/
theorem arrayWrite_reads_beyond :
    intArray ∈ registeredHandlers ∧
      (singleVariable .int .write 3).OfFunction intArray.function ∧
      (arrayWrite .sample SumReadRequest.sevensAds sampleConnection (singleVariable .int .write 3)
        .int16 (some ⟨[1, 0], fun _ => 0xEE⟩) []).2.copied = 6 ∧
      (arrayWrite .sample SumReadRequest.sevensAds sampleConnection (singleVariable .int .write 3)
          .int16 (some ⟨[1, 0], fun _ => 0xEE⟩) []).2.trace.map AdsEvent.call =
        [(singleVariable .int .write 3).writeCall sampleConnection
          [1, 0, 0xEE, 0xEE, 0xEE, 0xEE]] ∧
      padded 2 3 [1, 0] = [1, 0, 0, 0, 0, 0] :=
  ⟨intArray_registered, ofFunction_intArray, by decide, by decide, by decide⟩

end AdsDriver
