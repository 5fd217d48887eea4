import AdsDriver.ReadWrite

/-!
# Read and write handlers

The function templates that serve records, for every instantiation of their type parameters.
What the framework puts into results and arrays before a handler runs is a parameter; so are the
bytes of a local variable that is not initialised.
-/

namespace AdsDriver

open ByteMemory

/-- Scalar types of EPICS. -/
inductive EpicsType
  | int8
  | uint8
  | int16
  | uint16
  | int32
  | uint32
  | int64
  | uint64
  | float32
  | float64
  deriving DecidableEq

namespace EpicsType

/-- `sizeof`. -/
def size : EpicsType → Nat
  | .int8 | .uint8 => 1
  | .int16 | .uint16 => 2
  | .int32 | .uint32 | .float32 => 4
  | .int64 | .uint64 | .float64 => 8

/-- Whether an integer type has a sign. -/
def signed : EpicsType → Bool
  | .int8 | .int16 | .int32 | .int64 => true
  | _ => false

/-- Conversion of an integer to an integer type. -/
def cast (type : EpicsType) (number : Int) : Int :=
  if type.signed then number.bmod (2 ^ (8 * type.size)) else number % 2 ^ (8 * type.size)

/-- The integer stored in memory as an object of an integer type. -/
def decode (type : EpicsType) (memory : Bytes) : Int := type.cast (leNat memory)

/-- The memory of a local variable of a type before it is set. -/
def uninitialised (type : EpicsType) (garbage : Nat → UInt8) : Bytes :=
  (List.range type.size).map garbage

@[simp]
theorem length_uninitialised (type : EpicsType) (garbage : Nat → UInt8) :
    (type.uninitialised garbage).length = type.size := by
  simp [uninitialised]

end EpicsType

/-- `asynStatus`, as far as handlers report it. -/
inductive AsynStatus
  | success
  | error
  deriving DecidableEq

/-- `ResultBase` and `Result<T>`. -/
structure Result (α : Type) where
  value : α
  status : AsynStatus
  alarmStatus : Nat
  alarmSeverity : Nat
  deriving DecidableEq

/-- `Array<T>`: the memory of `maxSize` elements, of which `size` are in use. -/
structure EpicsArray where
  memory : Bytes
  size : Nat
  maxSize : Nat
  deriving DecidableEq

/-- `Octet`: the memory of a string and its size. -/
structure Octet where
  memory : Bytes
  size : Nat
  deriving DecidableEq

/-- A floating point value, by the type and the bytes it was converted from. -/
structure FloatValue where
  type : EpicsType
  bytes : Bytes
  deriving DecidableEq

/-- What the driver takes from the framework. -/
structure Autoparam where
  /-- The value of a new `Result<T>` for an integer type. -/
  initialInteger : EpicsType → Int
  /-- The value of a new `UInt32ReadResult`. -/
  initialDigital : BitVec 32
  /-- The value of a new `Float64ReadResult`. -/
  initialFloat : FloatValue
  alarmStatus : Nat
  alarmSeverity : Nat
  /-- The size of a new array by its number of elements. -/
  initialSize : Nat → Nat
  /-- `setSize`: the size of an array from its number of elements and the size asked for. -/
  setSize : Nat → Nat → Nat
  /-- `Octet::fillFrom`. -/
  fillFrom : Octet → Bytes → Octet
  /-- `epicsMemHash` with seed 0. -/
  epicsMemHash : Bytes → Int

namespace Autoparam

variable (autoparam : Autoparam) {α : Type}

/-- A result that a handler has not set to an error. -/
def success (value : α) : Result α :=
  ⟨value, .success, autoparam.alarmStatus, autoparam.alarmSeverity⟩

/-- A result with the value it was made with. -/
def error (value : α) : Result α :=
  ⟨value, .error, autoparam.alarmStatus, autoparam.alarmSeverity⟩

/-- A step of `epicsMemHash`: a byte at an even position, then one at an odd position. -/
def sampleHash (hash : BitVec 32) : Bytes → BitVec 32
  | [] => hash
  | [even] => hash ^^^ ~~~(hash <<< 11 ^^^ (BitVec.ofNat 8 even.toNat).signExtend 32 ^^^ hash >>> 5)
  | even :: odd :: memory =>
      let hash := hash ^^^
        ~~~(hash <<< 11 ^^^ (BitVec.ofNat 8 even.toNat).signExtend 32 ^^^ hash >>> 5)
      sampleHash
        (hash ^^^ hash <<< 7 ^^^ (BitVec.ofNat 8 odd.toNat).signExtend 32 ^^^ hash >>> 3) memory

/-- A framework whose results and arrays start at zero. -/
def sample : Autoparam :=
  { initialInteger := fun _ => 0
    initialDigital := 0
    initialFloat := ⟨.float64, List.replicate 8 0⟩
    alarmStatus := 0
    alarmSeverity := 0
    initialSize := fun maxSize => maxSize
    setSize := min
    fillFrom := fun octet source =>
      ⟨overwrite (source.take octet.memory.length) octet.memory,
        min octet.memory.length source.length⟩
    epicsMemHash := fun memory => (sampleHash 0 memory).toInt }

end Autoparam

/-- The check at the start of every read handler: variables for writing without readback, and any
variable without a connection, are not read. -/
def readRefused (connection : Connection) (var : ADSVariable) : Bool :=
  (var.addr.operation = .write && !var.writeReadback) || !(var.conn && connection.isConnected)

section Read

variable (autoparam : Autoparam) (connection : Connection) (buffers : Buffers) (var : ADSVariable)

/-- The common part of the scalar read handlers: the memory of `val`, if it could be read. -/
def readScalar (plcDataType : EpicsType) (garbage : Nat → UInt8) : Option Bytes × ADSVariable :=
  if readRefused connection var then (none, var)
  else
    let read := var.readFromBuffer buffers plcDataType.size (plcDataType.uninitialised garbage)
    if read.1 ≠ 0 then (none, read.2.2) else (some read.2.1, read.2.2)

/-- `integerRead`. -/
def integerRead (plcDataType epicsDataType : EpicsType) (garbage : Nat → UInt8) :
    Result Int × ADSVariable :=
  let read := readScalar connection buffers var plcDataType garbage
  (match read.1 with
    | none => autoparam.error (autoparam.initialInteger epicsDataType)
    | some val => autoparam.success (epicsDataType.cast (plcDataType.decode val)), read.2)

/-- `digitalRead`. -/
def digitalRead (plcDataType : EpicsType) (mask : BitVec 32) (garbage : Nat → UInt8) :
    Result (BitVec 32) × ADSVariable :=
  let read := readScalar connection buffers var plcDataType garbage
  (match read.1 with
    | none => autoparam.error autoparam.initialDigital
    | some val => autoparam.success (BitVec.ofNat 32 (leNat val) &&& mask), read.2)

/-- `floatRead`. -/
def floatRead (plcDataType : EpicsType) (garbage : Nat → UInt8) :
    Result FloatValue × ADSVariable :=
  let read := readScalar connection buffers var plcDataType garbage
  (match read.1 with
    | none => autoparam.error autoparam.initialFloat
    | some val => autoparam.success ⟨plcDataType, val⟩, read.2)

/-- `arrayRead` into `val`: the result, the array and the variable after the call. -/
def arrayRead (plcDataType : EpicsType) (val : EpicsArray) :
    Result Unit × EpicsArray × ADSVariable :=
  if readRefused connection var then (autoparam.error (), val, var)
  else
    let val := { val with size := autoparam.setSize val.maxSize var.addr.nelem }
    if val.maxSize < var.addr.nelem then (autoparam.error (), val, var)
    else
      let bytesToRead := u32 (u64 (plcDataType.size * var.addr.nelem))
      let read := var.readFromBuffer buffers bytesToRead val.memory
      (if read.1 ≠ 0 then autoparam.error () else autoparam.success (),
        { val with memory := read.2.1 }, read.2.2)

/-- `stringRead` into `val`. -/
def stringRead (val : Octet) : Result Unit × Octet × ADSVariable :=
  if readRefused connection var then (autoparam.error (), val, var)
  else
    let read := var.readFromBuffer buffers var.addr.nelem (List.replicate var.addr.nelem 0)
    if read.1 ≠ 0 then (autoparam.error (), val, read.2.2)
    else (autoparam.success (), autoparam.fillFrom val read.2.1, read.2.2)

end Read

section Current

variable {buffers : Buffers} {var : ADSVariable}

/-- The value that a read handler finds, if the variable may be read, its buffer is valid and its
result code is 0: the pending echo or the data of its slot. -/
def ADSVariable.current (connection : Connection) (buffers : Buffers) (var : ADSVariable) :
    Option Bytes :=
  if readRefused connection var then none
  else
    match var.snapshot buffers with
    | some (0, data) => some (var.delivered data)
    | _ => none

/-- The variable after a read handler: an echo that was delivered has been used. -/
def ADSVariable.afterCurrent (connection : Connection) (buffers : Buffers) (var : ADSVariable) :
    ADSVariable :=
  if (var.current connection buffers).isSome then var.afterRead else var

theorem ADSVariable.snapshot_of_current {connection : Connection}
    (no_echo : var.echoPending = false) {value : Bytes}
    (found : var.current connection buffers = some value) :
    var.snapshot buffers = some (0, value) := by
  unfold ADSVariable.current at found
  split_ifs at found
  match taken : var.snapshot buffers with
  | none => simp [taken] at found
  | some (_ + 1, data) => simp [taken] at found
  | some (0, data) =>
      obtain rfl : data = value := by
        simpa [taken, ADSVariable.delivered, no_echo] using found
      rfl

/-- A value delivered has the variable's size. -/
theorem length_current {connection : Connection} (placed : var.Placed buffers)
    (echo : var.EchoSized) {value : Bytes} (found : var.current connection buffers = some value) :
    value.length = var.size := by
  have read := var.readFromBuffer_eq placed le_rfl []
  unfold ADSVariable.current at found
  split_ifs at found
  match taken : var.snapshot buffers with
  | none => simp [taken] at found
  | some (_ + 1, data) => simp [taken] at found
  | some (0, data) =>
      rw [taken] at read
      obtain rfl : var.delivered data = value := by simpa [taken] using found
      unfold ADSVariable.delivered
      split_ifs with pending
      · rcases echo with none_written | sized
        · simp [ADSVariable.echoPending, none_written] at pending
        · exact sized
      · exact read.1

/-- A read of at least the variable's size yields the current value over whatever was there. -/
theorem readScalar_eq (connection : Connection) (placed : var.Placed buffers)
    (echo : var.EchoSized) {plcDataType : EpicsType} (whole : var.size ≤ plcDataType.size)
    (garbage : Nat → UInt8) :
    readScalar connection buffers var plcDataType garbage =
      ((var.current connection buffers).map (overwrite · (plcDataType.uninitialised garbage)),
        var.afterCurrent connection buffers) := by
  have value_length {value : Bytes} (found : var.current connection buffers = some value) :=
    length_current placed echo found
  unfold ADSVariable.afterCurrent
  unfold ADSVariable.current at value_length ⊢
  unfold readScalar
  cases refused : readRefused connection var with
  | true => simp
  | false =>
      have read := var.readFromBuffer_eq placed whole (plcDataType.uninitialised garbage)
      match taken : var.snapshot buffers with
      | none =>
          rw [taken] at read
          obtain ⟨failed, rest⟩ := read
          simp [failed, rest]
      | some (_ + 1, data) =>
          rw [taken] at read
          obtain ⟨_, failed, rest⟩ := read
          simp [failed, rest]
      | some (0, data) =>
          rw [taken] at read
          obtain ⟨data_length, read⟩ := read
          cases pending : var.echoPending with
          | false => simp [read, pending, ADSVariable.delivered]
          | true =>
              have written_length : var.lastWritten.length = var.size :=
                value_length (by simp [refused, taken, ADSVariable.delivered, pending])
              rw [pending, if_pos rfl, overwrite_overwrite (by omega)] at read
              simp [read, pending, ADSVariable.delivered]

/-- A read of exactly the variable's size leaves nothing of what was there. -/
theorem readScalar_exact (connection : Connection) (placed : var.Placed buffers)
    (echo : var.EchoSized) {plcDataType : EpicsType} (exact_size : var.size = plcDataType.size)
    (garbage : Nat → UInt8) :
    readScalar connection buffers var plcDataType garbage =
      (var.current connection buffers, var.afterCurrent connection buffers) := by
  rw [readScalar_eq connection placed echo exact_size.le garbage]
  cases found : var.current connection buffers with
  | none => rfl
  | some value =>
      have covers : (plcDataType.uninitialised garbage).length ≤ value.length := by
        rw [EpicsType.length_uninitialised, length_current placed echo found, exact_size]
      rw [Option.map_some, overwrite_of_length_le covers]

/-- The result of `digitalRead` in terms of the current value. -/
def digitalResult (autoparam : Autoparam) (mask : BitVec 32) : Option Bytes → Result (BitVec 32)
  | none => autoparam.error autoparam.initialDigital
  | some value => autoparam.success (BitVec.ofNat 32 (leNat value) &&& mask)

theorem digitalRead_eq (autoparam : Autoparam) (connection : Connection)
    (placed : var.Placed buffers) (echo : var.EchoSized) {plcDataType : EpicsType}
    (exact_size : var.size = plcDataType.size) (mask : BitVec 32) (garbage : Nat → UInt8) :
    digitalRead autoparam connection buffers var plcDataType mask garbage =
      (digitalResult autoparam mask (var.current connection buffers),
        var.afterCurrent connection buffers) := by
  unfold digitalRead
  rw [readScalar_exact connection placed echo exact_size garbage]
  cases var.current connection buffers <;> rfl

end Current

section Write

variable (autoparam : Autoparam) (ads : Ads) (connection : Connection) (var : ADSVariable)

/-- The result of a write handler. -/
def writeResult (written : Written) : Result Unit :=
  if written.status ≠ 0 then autoparam.error () else autoparam.success ()

/-- The value that `digitalWrite` sends: bits outside the mask come from a read. -/
def encodeBits (current val mask : BitVec 32) : BitVec 32 :=
  (current ||| (val &&& mask)) &&& (val ||| ~~~mask)

/-- `digitalWrite`.  What follows the local variable in memory is `beyond`. -/
def digitalWrite (buffers : Buffers) (plcDataType : EpicsType) (val mask : BitVec 32)
    (garbage beyond : Nat → UInt8) (trace : Trace) : Result Unit × Written :=
  let masked := mask ≠ 0xFFFFFFFF
  let currentRead := digitalRead autoparam connection buffers var plcDataType 0xFFFFFFFF garbage
  let valueToWrite := if masked then encodeBits currentRead.1.value val mask else val
  let written := (if masked then currentRead.2 else var).write ads connection
    (some ⟨leBytes plcDataType.size valueToWrite.toNat, beyond⟩) plcDataType.size trace
  (writeResult autoparam written, written)

/-- `arrayWrite`.  The caller owns the elements of `val`, and `val.data()` may be null. -/
def arrayWrite (plcDataType : EpicsType) (val : Option Source) (trace : Trace) :
    Result Unit × Written :=
  let bytesToWrite := u32 (u64 (plcDataType.size * var.addr.nelem))
  let written := var.write ads connection val bytesToWrite trace
  (writeResult autoparam written, written)

/-- `stringWrite`. -/
def stringWrite (val : Option Source) (trace : Trace) : Result Unit × Written :=
  let written := var.write ads connection val var.addr.nelem trace
  (writeResult autoparam written, written)

end Write

end AdsDriver
