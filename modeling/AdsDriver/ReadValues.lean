import AdsDriver.InterleavingFrame

/-!
# What read handlers make of a value

A read handler that succeeds has found a value of its variable, and its result is made of the bytes
of this value and of nothing else that the driver keeps.
-/

namespace AdsDriver

open ByteMemory

namespace ReadHandler

/-- The number of bytes that a read handler asks for. -/
def bytesToRead (var : ADSVariable) : ReadHandler → Nat
  | .integerRead plcDataType _ | .digitalRead plcDataType | .floatRead plcDataType =>
      plcDataType.size
  | .arrayRead plcDataType _ => u32 (u64 (plcDataType.size * var.addr.nelem))
  | .stringRead => var.addr.nelem

/-- The element size that an array or string handler counts with. -/
def elementWidth : ReadHandler → Option Nat
  | .arrayRead plcDataType _ => some plcDataType.size
  | .stringRead => some 1
  | _ => none

/-- What a read handler returns for a value of its variable, which it copies over its local variable
or the record's array. -/
def valueOf (autoparam : Autoparam) (nelem : Nat) (request : ReadRequest) (value : Bytes) :
    ReadHandler → Value
  | .integerRead plcDataType epicsDataType =>
      let val := overwrite value (plcDataType.uninitialised request.garbage)
      .integer (epicsDataType.cast (plcDataType.decode val))
  | .digitalRead plcDataType =>
      let val := overwrite value (plcDataType.uninitialised request.garbage)
      .digital (BitVec.ofNat 32 (leNat val) &&& request.mask)
  | .floatRead plcDataType =>
      .float ⟨plcDataType, overwrite value (plcDataType.uninitialised request.garbage)⟩
  | .arrayRead _ _ =>
      let val := request.array
      .array ⟨overwrite value val.memory, autoparam.setSize val.maxSize nelem, val.maxSize⟩
  | .stringRead =>
      .octet (autoparam.fillFrom request.octet (overwrite value (List.replicate nelem 0)))

/-- What `performIOIntr` hands to a handler. -/
def ioIntrRequest (autoparam : Autoparam) (nelem : Nat) (garbage : Nat → UInt8)
    (handler : ReadHandler) : ReadRequest :=
  { mask := ioIntrMask
    array :=
      match handler with
      | .arrayRead _ epicsDataType => newArray autoparam epicsDataType nelem
      | _ => ⟨[], 0, 0⟩
    octet := newOctet autoparam nelem
    garbage }

theorem run_ioIntrRequest (autoparam : Autoparam) (connection : Connection) (buffers : Buffers)
    (var : ADSVariable) (garbage : Nat → UInt8) (handler : ReadHandler) :
    handler.run autoparam connection buffers var ioIntrMask garbage =
      handler.poll autoparam connection buffers var
        (handler.ioIntrRequest autoparam var.addr.nelem garbage) := by
  cases handler <;> rfl

end ReadHandler

section Whole

variable {var : ADSVariable} {handler : ReadHandler}

theorem bytesToRead_of_scalarType {plcDataType : EpicsType}
    (scalar : handler.scalarType = some plcDataType) :
    handler.bytesToRead var = plcDataType.size := by
  cases handler with
  | integerRead | digitalRead | floatRead => rw [← Option.some.inj scalar]; rfl
  | _ => cases scalar

theorem bytesToRead_of_elementWidth {width : Nat} (counts : handler.elementWidth = some width)
    (elements : adsDatatypeSizes var.addr.dataType = some width)
    (small : var.addr.nelem < 2 ^ 32) : handler.bytesToRead var = var.size := by
  rw [ADSVariable.size, ADSVariable.elemSize, elements, Option.getD_some]
  cases handler with
  | arrayRead plcDataType epicsDataType =>
      obtain rfl : plcDataType.size = width := Option.some.inj counts
      exact Nat.mod_mod_of_dvd _ (by decide)
  | stringRead =>
      obtain rfl : 1 = width := Option.some.inj counts
      rw [Nat.one_mul, u32_of_lt small]
      rfl
  | _ => cases counts

theorem registered_readElements : ∀ registration ∈ registeredHandlers,
    ∀ width ∈ registration.read.elementWidth,
      (parseDataTypeAutoparam registration.function).toOption.bind adsDatatypeSizes =
        some width := by
  decide

theorem size_le_registered {registration : Registration}
    (registered : registration ∈ registeredHandlers)
    (made : var.OfFunction registration.function) :
    var.size ≤ registration.read.bytesToRead var := by
  have elements := registered_readElements registration registered
  rw [made.toOption_eq, Option.bind_some] at elements
  cases handler : registration.read with
  | integerRead plcDataType epicsDataType =>
      exact (size_of_scalar registered made (by rw [handler]; rfl)).le
  | digitalRead plcDataType => exact (size_of_scalar registered made (by rw [handler]; rfl)).le
  | floatRead plcDataType => exact (size_of_scalar registered made (by rw [handler]; rfl)).le
  | arrayRead plcDataType epicsDataType =>
      exact (bytesToRead_of_elementWidth rfl (elements _ (by rw [handler]; rfl)) made.nelem_lt).ge
  | stringRead =>
      exact (bytesToRead_of_elementWidth rfl (elements _ (by rw [handler]; rfl)) made.nelem_lt).ge

theorem ioIntrScalar_fits {dataType : ADSDataType}
    (found : ioIntrScalar dataType = some handler ∨ ioIntrDigital dataType = some handler) :
    ∃ plcDataType, handler.scalarType = some plcDataType ∧
      (adsDatatypeSizes dataType).getD 0 ≤ plcDataType.size := by
  rcases found with found | found <;> cases dataType <;>
    simp [ioIntrScalar, ioIntrDigital] at found <;> subst found <;> exact ⟨_, rfl, by decide⟩

theorem ioIntrArray_elements {dataType : ADSDataType}
    (found : ioIntrArray dataType = some handler) :
    ∃ width, handler.elementWidth = some width ∧ adsDatatypeSizes dataType = some width := by
  cases dataType <;> simp [ioIntrArray] at found <;> subst found <;> exact ⟨_, rfl, rfl⟩

theorem size_le_ioIntr {function : Str} (made : var.OfFunction function)
    (found : ioIntrHandler function var.addr.dataType = some handler) :
    var.size ≤ handler.bytesToRead var := by
  have whole_scalar (single : takesNelem function = false)
      (found : ioIntrScalar var.addr.dataType = some handler ∨
        ioIntrDigital var.addr.dataType = some handler) : var.size ≤ handler.bytesToRead var := by
    obtain ⟨plcDataType, scalar, fits⟩ := ioIntrScalar_fits found
    rw [bytesToRead_of_scalarType scalar, ADSVariable.size, made.nelem_scalar single, Nat.mul_one]
    exact (Nat.mod_le _ _).trans fits
  unfold ioIntrHandler at found
  split_ifs at found with takes digital
  · obtain ⟨width, counts, elements⟩ := ioIntrArray_elements found
    exact (bytesToRead_of_elementWidth counts elements made.nelem_lt).ge
  · exact whole_scalar (by simpa [takesNelem] using takes) (.inr found)
  · exact whole_scalar (by simpa [takesNelem] using takes) (.inl found)

end Whole

section Success

variable {connection : Connection} {buffers : Buffers} {var : ADSVariable}

/-- A read of a whole variable that succeeds copies its current value. -/
theorem readFromBuffer_current (served : readRefused connection var = false)
    (placed : var.Placed buffers) (echo : var.EchoSized) {size : Nat} (whole : var.size ≤ size)
    {destination : Bytes} (succeeded : (var.readFromBuffer buffers size destination).1 = 0) :
    ∃ value, var.current connection buffers = some value ∧
      (var.readFromBuffer buffers size destination).2.1 = overwrite value destination := by
  have value_length {value : Bytes} (found : var.current connection buffers = some value) :=
    length_current placed echo found
  have read := var.readFromBuffer_eq placed whole destination
  unfold ADSVariable.current at value_length ⊢
  rw [served, if_neg Bool.false_ne_true] at value_length ⊢
  match taken : var.snapshot buffers with
  | none =>
      rw [taken] at read
      exact absurd succeeded read.1
  | some (_ + 1, data) =>
      rw [taken] at read
      exact absurd succeeded read.2.1
  | some (0, data) =>
      rw [taken] at read
      obtain ⟨data_length, read⟩ := read
      refine ⟨var.delivered data, rfl, ?_⟩
      rw [read, ADSVariable.delivered]
      cases pending : var.echoPending with
      | false => rfl
      | true =>
          have written_length : var.lastWritten.length = var.size :=
            value_length (by simp [taken, ADSVariable.delivered, pending])
          exact overwrite_overwrite (by omega)

theorem ReadHandler.poll_refused (autoparam : Autoparam) (buffers : Buffers)
    (refused : readRefused connection var = true) (request : ReadRequest) (handler : ReadHandler) :
    (handler.poll autoparam connection buffers var request).1.status = .error := by
  cases handler with
  | arrayRead plcDataType epicsDataType =>
      simp [poll, AdsDriver.arrayRead, refused, Autoparam.error, Result.wrap]
  | stringRead => simp [poll, AdsDriver.stringRead, refused, Autoparam.error, Result.wrap]
  | _ =>
      simp [poll, AdsDriver.integerRead, AdsDriver.digitalRead, AdsDriver.floatRead, readScalar,
        refused, Autoparam.error, Result.wrap]

/-- A read handler that succeeds returns what it makes of the current value. -/
theorem ReadHandler.poll_success (autoparam : Autoparam) (placed : var.Placed buffers)
    (echo : var.EchoSized) {handler : ReadHandler} (whole : var.size ≤ handler.bytesToRead var)
    {request : ReadRequest}
    (succeeded : (handler.poll autoparam connection buffers var request).1.status = .success) :
    ∃ value, var.current connection buffers = some value ∧
      (handler.poll autoparam connection buffers var request).1.value =
        handler.valueOf autoparam var.addr.nelem request value := by
  have scalar {plcDataType : EpicsType} (fits : var.size ≤ plcDataType.size) :=
    readScalar_eq connection placed echo fits request.garbage
  cases handler with
  | integerRead plcDataType epicsDataType =>
      simp only [poll, AdsDriver.integerRead, scalar whole] at succeeded ⊢
      cases found : var.current connection buffers with
      | none => simp [found, Autoparam.error, Result.wrap] at succeeded
      | some value => exact ⟨value, rfl, rfl⟩
  | digitalRead plcDataType =>
      simp only [poll, AdsDriver.digitalRead, scalar whole] at succeeded ⊢
      cases found : var.current connection buffers with
      | none => simp [found, Autoparam.error, Result.wrap] at succeeded
      | some value => exact ⟨value, rfl, rfl⟩
  | floatRead plcDataType =>
      simp only [poll, AdsDriver.floatRead, scalar whole] at succeeded ⊢
      cases found : var.current connection buffers with
      | none => simp [found, Autoparam.error, Result.wrap] at succeeded
      | some value => exact ⟨value, rfl, rfl⟩
  | arrayRead plcDataType epicsDataType =>
      rw [bytesToRead] at whole
      simp only [poll, AdsDriver.arrayRead] at succeeded ⊢
      split_ifs at succeeded ⊢ with refused small failed
      · simp [Autoparam.error, Result.wrap] at succeeded
      · simp [Autoparam.error, Result.wrap] at succeeded
      · simp [Autoparam.error, Result.wrap] at succeeded
      · obtain ⟨value, found, memory_eq⟩ := readFromBuffer_current
          (Bool.eq_false_iff.mpr refused) placed echo whole (not_not.mp failed)
        exact ⟨value, found, by simp only [Result.wrap, memory_eq]; rfl⟩
  | stringRead =>
      rw [bytesToRead] at whole
      simp only [poll, AdsDriver.stringRead] at succeeded ⊢
      split_ifs at succeeded ⊢ with refused failed
      · simp [Autoparam.error, Result.wrap] at succeeded
      · simp [Autoparam.error, Result.wrap] at succeeded
      · obtain ⟨value, found, memory_eq⟩ := readFromBuffer_current
          (Bool.eq_false_iff.mpr refused) placed echo whole (not_not.mp failed)
        exact ⟨value, found, by simp only [Result.wrap, memory_eq]; rfl⟩

end Success

end AdsDriver
