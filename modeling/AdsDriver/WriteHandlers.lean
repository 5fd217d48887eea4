import AdsDriver.DigitalWrite

/-!
# All write handlers

Every registered write handler ends in one call of `ADSVariable::write`, which first checks the
variable and copies the caller's bytes, and then sends them while it holds the connection's mutex.
-/

namespace AdsDriver

open ByteMemory

namespace ADSVariable

/-- The checks of `write` and its copy of the caller's bytes, before it takes the mutex. -/
def checkWrite (var : ADSVariable) (data : Option Source) (size : Nat) : Except Int Bytes :=
  match data with
  | none => .error epicsadsInvParam
  | some source =>
      if !var.conn then .error epicsadsNotInitialized
      else if var.addr.nameIsResolved = false then .error epicsadsNotResolved
      else if size > var.size then .error epicsadsOverflow
      else .ok (overwrite (source.take size) (List.replicate var.size 0))

/-- The rest of `write`, under the mutex: the address is read here, and a value that was accepted is
kept for the next read. -/
def sendWrite (ads : Ads) (connection : Connection) (var : ADSVariable) (buffer : Bytes)
    (trace : Trace) : Int × ADSVariable × Trace :=
  let event := ads.event trace (var.writeCall connection buffer)
  (adsRcToEpicsadsError event.reply.rc, var.afterWrite event.reply.rc buffer, trace ++ [event])

/-- A `write` is its checks followed by its request. -/
theorem write_eq_checkWrite (ads : Ads) (connection : Connection) (var : ADSVariable)
    (data : Option Source) (size : Nat) (trace : Trace) :
    var.write ads connection data size trace =
      match var.checkWrite data size with
      | .error status => ⟨status, var, trace, 0⟩
      | .ok buffer =>
          let sent := var.sendWrite ads connection buffer trace
          ⟨sent.1, sent.2.1, sent.2.2, size⟩ := by
  cases data with
  | none => rfl
  | some source =>
      by_cases unset : var.conn = false
      · simp [write, checkWrite, unset]
      by_cases unresolved : var.addr.nameIsResolved = false
      · simp [write, checkWrite, unset, unresolved]
      by_cases long : size > var.size
      · simp [write, checkWrite, unset, unresolved, long]
      have sent : var.sendable = true := by simp_all [sendable]
      rw [write_sent ads connection sent (not_lt.mp long) source trace rfl]
      simp [checkWrite, unset, unresolved, long, sendWrite, payload]

/-- The checks let a write pass when there are data, the name is resolved and the length fits. -/
theorem checkWrite_eq_ok_iff (var : ADSVariable) (data : Option Source) (size : Nat) :
    (∃ buffer, var.checkWrite data size = .ok buffer) ↔
      data.isSome = true ∧ var.sendable = true ∧ size ≤ var.size := by
  cases data with
  | none => simp [checkWrite]
  | some source =>
      simp only [checkWrite, sendable]
      split_ifs <;> simp_all

theorem checkWrite_status {var : ADSVariable} {data : Option Source} {size : Nat} {status : Int}
    (refused : var.checkWrite data size = .error status) : status ≠ 0 := by
  unfold checkWrite at refused
  split at refused
  · cases refused
    decide
  · split_ifs at refused <;> cases refused <;> decide

end ADSVariable

/-- What a record hands to a write handler, which takes the parts that it uses. -/
structure WriteRequest where
  /-- The value, or the bits of a float. -/
  val : BitVec 64
  mask : BitVec 32 := 0xFFFFFFFF
  /-- What `val.data()` of an array or a string points to. -/
  data : Option Source := none
  /-- What is in the memory of the local variables of the handler. -/
  garbage : Nat → UInt8
  /-- What follows the value in memory. -/
  beyond : Nat → UInt8

section Handlers

variable (autoparam : Autoparam) (ads : Ads) (connection : Connection) (var : ADSVariable)

/-- `integerWrite`. -/
def integerWrite (plcDataType epicsDataType : EpicsType) (val : BitVec 64) (beyond : Nat → UInt8)
    (trace : Trace) : Result Unit × Written :=
  let written := var.write ads connection (some ⟨leBytes epicsDataType.size val.toNat, beyond⟩)
    plcDataType.size trace
  (writeResult autoparam written, written)

/-- `static_cast` of a double to a float type, by their bits. -/
def castFloat (toFloat32 : BitVec 64 → BitVec 32) (plcDataType : EpicsType) (val : BitVec 64) :
    Bytes :=
  if plcDataType = .float32 then leBytes plcDataType.size (toFloat32 val).toNat
  else leBytes plcDataType.size val.toNat

/-- `floatWrite`. -/
def floatWrite (toFloat32 : BitVec 64 → BitVec 32) (plcDataType : EpicsType) (val : BitVec 64)
    (beyond : Nat → UInt8) (trace : Trace) : Result Unit × Written :=
  let written := var.write ads connection (some ⟨castFloat toFloat32 plcDataType val, beyond⟩)
    plcDataType.size trace
  (writeResult autoparam written, written)

namespace WriteHandler

variable (toFloat32 : BitVec 64 → BitVec 32) (buffers : Buffers) (request : WriteRequest)

/-- Call a write handler. -/
def run (trace : Trace) : WriteHandler → Result Unit × Written
  | .integerWrite plcDataType epicsDataType =>
      AdsDriver.integerWrite autoparam ads connection var plcDataType epicsDataType request.val
        request.beyond trace
  | .digitalWrite plcDataType =>
      AdsDriver.digitalWrite autoparam ads connection var buffers plcDataType
        (request.val.setWidth 32) request.mask request.garbage request.beyond trace
  | .floatWrite plcDataType =>
      AdsDriver.floatWrite autoparam ads connection var toFloat32 plcDataType request.val
        request.beyond trace
  | .arrayWrite plcDataType _ =>
      AdsDriver.arrayWrite autoparam ads connection var plcDataType request.data trace
  | .stringWrite => AdsDriver.stringWrite autoparam ads connection var request.data trace

/-- The number of bytes that a write handler asks `write` to send. -/
def bytesToWrite : WriteHandler → Nat
  | .integerWrite plcDataType _ | .digitalWrite plcDataType | .floatWrite plcDataType =>
      plcDataType.size
  | .arrayWrite plcDataType _ => u32 (u64 (plcDataType.size * var.addr.nelem))
  | .stringWrite => var.addr.nelem

/-- The variable when a handler calls `write`: a masked digital one has been read. -/
def varToWrite : WriteHandler → ADSVariable
  | .digitalWrite plcDataType =>
      if request.mask ≠ 0xFFFFFFFF then
        (digitalRead autoparam connection buffers var plcDataType 0xFFFFFFFF request.garbage).2
      else var
  | _ => var

/-- What a handler gives to `write`. -/
def dataToWrite : WriteHandler → Option Source
  | .integerWrite _ epicsDataType =>
      some ⟨leBytes epicsDataType.size request.val.toNat, request.beyond⟩
  | .digitalWrite plcDataType =>
      let current :=
        (digitalRead autoparam connection buffers var plcDataType 0xFFFFFFFF
          request.garbage).1.value
      let val := request.val.setWidth 32
      let valueToWrite :=
        if request.mask ≠ 0xFFFFFFFF then encodeBits current val request.mask else val
      some ⟨leBytes plcDataType.size valueToWrite.toNat, request.beyond⟩
  | .floatWrite plcDataType => some ⟨castFloat toFloat32 plcDataType request.val, request.beyond⟩
  | .arrayWrite _ _ | .stringWrite => request.data

/-- Every handler ends in one `write` and reports whether it has failed. -/
theorem run_eq (trace : Trace) (handler : WriteHandler) :
    handler.run autoparam ads connection var toFloat32 buffers request trace =
      let written := (handler.varToWrite autoparam connection var buffers request).write ads
        connection (handler.dataToWrite autoparam connection var toFloat32 buffers request)
        (handler.bytesToWrite var) trace
      (writeResult autoparam written, written) := by
  cases handler with
  | digitalWrite plcDataType =>
      simp only [run, AdsDriver.digitalWrite, varToWrite, dataToWrite, bytesToWrite]
  | _ => rfl

end WriteHandler

end Handlers

end AdsDriver
