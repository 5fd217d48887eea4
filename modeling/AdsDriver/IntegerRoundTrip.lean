import AdsDriver.ReadbackRuns
import AdsDriver.WriteHandlers

/-!
# Round trips of integers

A scalar integer is written by the low bytes of a wider integer, without a check of its range, and
read back through the type of its function.
-/

namespace AdsDriver

open ByteMemory

namespace EpicsType

/-- The least integer of an integer type. -/
def least (type : EpicsType) : Int := if type.signed then -2 ^ (8 * type.size - 1) else 0

/-- The greatest integer of an integer type. -/
def greatest (type : EpicsType) : Int :=
  if type.signed then 2 ^ (8 * type.size - 1) - 1 else 2 ^ (8 * type.size) - 1

theorem cast_eq_self_iff (type : EpicsType) (number : Int) :
    type.cast number = number ↔ type.least ≤ number ∧ number ≤ type.greatest := by
  cases type <;>
    simp only [cast, least, greatest, signed, size, Int.bmod_def, if_true, Bool.false_eq_true,
      if_false]
  all_goals omega

theorem cast_bounds (type : EpicsType) (number : Int) :
    type.least ≤ type.cast number ∧ type.cast number ≤ type.greatest := by
  cases type <;>
    simp only [cast, least, greatest, signed, size, Int.bmod_def, if_true, Bool.false_eq_true,
      if_false]
  all_goals omega

theorem cast_cast_of_le {narrow wide : EpicsType} (least_le : wide.least ≤ narrow.least)
    (le_greatest : narrow.greatest ≤ wide.greatest) (number : Int) :
    wide.cast (narrow.cast number) = narrow.cast number := by
  have bounds := narrow.cast_bounds number
  exact (wide.cast_eq_self_iff _).mpr
    ⟨least_le.trans bounds.1, bounds.2.trans le_greatest⟩

theorem cast_congr {type : EpicsType} {first second : Int}
    (same : first % 2 ^ (8 * type.size) = second % 2 ^ (8 * type.size)) :
    type.cast second = type.cast first := by
  cases type <;>
    simp only [cast, signed, size, Int.bmod_def, if_true, Bool.false_eq_true, if_false] at same ⊢
  all_goals omega

theorem decode_leBytes (type : EpicsType) (number : Int) :
    type.decode (leBytes type.size (BitVec.ofInt 64 number).toNat) = type.cast number := by
  rw [decode, leNat_leBytes, BitVec.toNat_ofInt]
  cases type <;>
    simp only [cast, signed, size, Int.bmod_def, if_true, Bool.false_eq_true, if_false]
  all_goals omega

end EpicsType

/-- The least and the greatest integer of a PLC type. -/
def plcRange : ADSDataType → Option (Int × Int)
  | .sint => some (-128, 127)
  | .byte | .usint => some (0, 255)
  | .int => some (-32768, 32767)
  | .word | .uint => some (0, 65535)
  | .dint => some (-2 ^ 31, 2 ^ 31 - 1)
  | .dword | .udint => some (0, 2 ^ 32 - 1)
  | .lint => some (-2 ^ 63, 2 ^ 63 - 1)
  | _ => none

/-- An integer is in the range of a PLC type. -/
def InPlcRange (dataType : ADSDataType) (number : Int) : Prop :=
  ∃ range ∈ plcRange dataType, range.1 ≤ number ∧ number ≤ range.2

/-- The types of a handler for integers. -/
def WriteHandler.integerTypes : WriteHandler → Option (EpicsType × EpicsType)
  | .integerWrite plcDataType epicsDataType => some (plcDataType, epicsDataType)
  | _ => none

theorem registered_ranges : ∀ registration ∈ registeredHandlers,
    registration.function ≠ adsDatatypesStr .bool →
    ∀ types ∈ registration.write.integerTypes,
      registration.read = .integerRead types.1 types.2 ∧ 0 < types.1.size ∧
      types.1.size ≤ types.2.size ∧ types.2.least ≤ types.1.least ∧
      types.1.greatest ≤ types.2.greatest ∧
      if (parseDataTypeAutoparam registration.function).toOption = some .byte then
        types.1 = .int8
      else (parseDataTypeAutoparam registration.function).toOption.bind plcRange =
        some (types.1.least, types.1.greatest) := by
  decide +kernel

/-- A scalar integer variable of a driver. -/
structure IntegerSystem extends ReadbackSystem where
  autoparam : Autoparam
  registration : Registration
  plcDataType : EpicsType
  epicsDataType : EpicsType

namespace IntegerSystem

variable (system : IntegerSystem)

/-- A resolved readback variable of an integer function other than `BOOL`. -/
structure Writable (content : ADSVariable) : Prop where
  registered : system.registration ∈ registeredHandlers
  not_bool : system.registration.function ≠ adsDatatypesStr .bool
  handler : system.registration.write = .integerWrite system.plcDataType system.epicsDataType
  made : content.OfFunction system.registration.function
  readback : content.writeReadback = true
  conn : content.conn = true
  resolved : content.addr.nameIsResolved = true
  connected : system.connection.isConnected = true

/-- The registered write handler on an integer. -/
def write (state : DigitalState) (number : Int) (beyond : Nat → UInt8) : Result Unit × Written :=
  integerWrite system.autoparam system.ads system.connection (state.vars system.var)
    system.plcDataType system.epicsDataType (BitVec.ofInt 64 number) beyond state.trace

/-- The buffers after the write and a sum-read. -/
def fetched (state : DigitalState) (number : Int) (beyond : Nat → UInt8) : Buffers :=
  let read := state.request.read system.ads system.connection
    (system.write state number beyond).2.trace
  read.2.1.buffers

/-- The registered read handler. -/
def read (buffers : Buffers) (var : ADSVariable) (garbage : Nat → UInt8) :
    Result Int × ADSVariable :=
  integerRead system.autoparam system.connection buffers var system.plcDataType
    system.epicsDataType garbage

/-- Two reads return an integer: the first by the pending echo, the second by the buffer. -/
structure ReadsBack (buffers : Buffers) (var : ADSVariable) (number : Int) : Prop where
  pending : var.echoPending = true
  echo : ∀ garbage, (system.read buffers var garbage).1 = system.autoparam.success number
  used : ∀ garbage, (system.read buffers var garbage).2.echoPending = false
  buffer : ∀ garbage garbage', (system.read buffers (system.read buffers var garbage).2
    garbage').1 = system.autoparam.success number

/-- An integer in range that is written is read back, and one out of range is refused. -/
structure RoundTrips (state : DigitalState) (number : Int) (beyond : Nat → UInt8) : Prop where
  inside : InPlcRange (state.vars system.var).addr.dataType number →
    (system.write state number beyond).1.status = .success →
    (∃ data, (state.vars system.var).snapshot (system.fetched state number beyond) =
      some (0, data)) →
    system.ReadsBack (system.fetched state number beyond)
      (system.write state number beyond).2.var number
  outside : ¬ InPlcRange (state.vars system.var).addr.dataType number →
    (system.write state number beyond).1.status = .error ∧
      (system.write state number beyond).2.trace = state.trace

/-- The low bytes of an integer. -/
def payload (number : Int) : Bytes :=
  leBytes system.plcDataType.size (BitVec.ofInt 64 number).toNat

/-- Whether the device refuses the integer. -/
def Refused (state : DigitalState) (number : Int) : Prop :=
  (system.ads state.trace
    ((state.vars system.var).writeCall system.connection (system.payload number))).rc ≠ 0

/-- An integer is sent by its low bytes, whatever its range, and read back as the integer in range
with these low bytes.  Nothing is said of bytes from 128 on. -/
structure Reduces (state : DigitalState) (number : Int) (beyond : Nat → UInt8) : Prop where
  sent : (system.write state number beyond).2.trace = state.trace ++ [system.ads.event state.trace
    ((state.vars system.var).writeCall system.connection (system.payload number))]
  status : (system.write state number beyond).1.status = .success ↔
    ¬ system.Refused state number
  readBack : ∀ stored, InPlcRange (state.vars system.var).addr.dataType stored →
    stored % 2 ^ (8 * (state.vars system.var).size) =
      number % 2 ^ (8 * (state.vars system.var).size) →
    ((state.vars system.var).addr.dataType = .byte → stored < 128) →
    (system.write state number beyond).1.status = .success →
    (∃ data, (state.vars system.var).snapshot (system.fetched state number beyond) =
      some (0, data)) →
    system.ReadsBack (system.fetched state number beyond)
      (system.write state number beyond).2.var stored

section Steps

variable {system : IntegerSystem} {content : ADSVariable} {state : DigitalState}

theorem Writable.types (writable : system.Writable content) :
    system.registration.read = .integerRead system.plcDataType system.epicsDataType ∧
      0 < system.plcDataType.size ∧ system.plcDataType.size ≤ system.epicsDataType.size ∧
      (∀ number, system.epicsDataType.cast (system.plcDataType.cast number) =
        system.plcDataType.cast number) ∧
      content.size = system.plcDataType.size := by
  obtain ⟨read_eq, size_pos, size_le, least_le, le_greatest, _⟩ := registered_ranges
    system.registration writable.registered writable.not_bool
    (system.plcDataType, system.epicsDataType)
    (by simp [writable.handler, WriteHandler.integerTypes])
  refine ⟨read_eq, size_pos, size_le, EpicsType.cast_cast_of_le least_le le_greatest, ?_⟩
  exact size_of_scalar writable.registered writable.made (by rw [read_eq]; rfl)

/-- An integer in range is kept by the type of its function, except for bytes from 128 on. -/
theorem Writable.cast_eq_iff (writable : system.Writable content) {number : Int}
    (inside : InPlcRange content.addr.dataType number) :
    system.plcDataType.cast number = number ↔
      (content.addr.dataType = .byte → number < 128) := by
  obtain ⟨_, _, _, _, _, range_eq⟩ := registered_ranges
    system.registration writable.registered writable.not_bool
    (system.plcDataType, system.epicsDataType)
    (by simp [writable.handler, WriteHandler.integerTypes])
  obtain ⟨range, found, above, below⟩ := inside
  rw [writable.made.toOption_eq, Option.bind_some] at range_eq
  rw [EpicsType.cast_eq_self_iff]
  split_ifs at range_eq with byte
  · obtain rfl : range = (0, 255) := by
      rw [Option.some.inj byte] at found
      exact (Option.some.inj found).symm
    dsimp only at range_eq above below
    have least_eq : EpicsType.int8.least = -128 := rfl
    have greatest_eq : EpicsType.int8.greatest = 127 := rfl
    rw [range_eq, Option.some.inj byte, least_eq, greatest_eq]
    simp only [true_imp_iff]
    omega
  · obtain rfl : range = _ := Option.some.inj (found.symm.trans range_eq)
    have not_byte : content.addr.dataType ≠ .byte := fun same => byte (congrArg some same)
    exact iff_of_true ⟨above, below⟩ fun same => absurd same not_byte

/-- Whatever the integer, its low bytes are sent. -/
theorem Writable.write_eq (writable : system.Writable (state.vars system.var)) (number : Int)
    (beyond : Nat → UInt8) {event : AdsEvent}
    (made : system.ads.event state.trace ((state.vars system.var).writeCall system.connection
      (system.payload number)) = event) :
    system.write state number beyond =
      (if event.reply.rc = 0 then system.autoparam.success () else system.autoparam.error (),
        ⟨adsRcToEpicsadsError event.reply.rc,
          (state.vars system.var).afterWrite event.reply.rc (system.payload number),
          state.trace ++ [event], system.plcDataType.size⟩) := by
  subst made
  obtain ⟨_, _, size_le, _, size_eq⟩ := writable.types
  have sendable : (state.vars system.var).sendable = true := by
    simp [ADSVariable.sendable, writable.conn, writable.resolved]
  have payload_eq : (state.vars system.var).payload
      ⟨leBytes system.epicsDataType.size (BitVec.ofInt 64 number).toNat, beyond⟩
      system.plcDataType.size = system.payload number := by
    rw [ADSVariable.payload, overwrite_of_length_le (by simp [size_eq]),
      Source.take_of_le (by simpa using size_le), take_leBytes size_le, payload]
  have sent := ADSVariable.write_sent system.ads system.connection sendable size_eq.ge
    ⟨leBytes system.epicsDataType.size (BitVec.ofInt 64 number).toNat, beyond⟩ state.trace rfl
  rw [payload_eq] at sent
  rw [write, integerWrite, sent, writeResult]
  simp only [ne_eq, adsRcToEpicsadsError_eq_zero_iff, ite_not]

theorem Writable.withEcho (writable : system.Writable content) (lastWritten : Bytes) :
    system.Writable (content.withEcho lastWritten) :=
  ⟨writable.registered, writable.not_bool, writable.handler,
    ⟨writable.made.dataType_eq, writable.made.nelem_pos, writable.made.nelem_lt,
      writable.made.nelem_scalar⟩,
    writable.readback, writable.conn, writable.resolved, writable.connected⟩

/-- A read of what was sent returns it as the type of the function does. -/
theorem Writable.read_eq (writable : system.Writable content) {buffers : Buffers}
    (placed : content.Placed buffers) {number : Int}
    (echo : content.lastWritten = [] ∨ content.lastWritten = system.payload number)
    (taken : content.snapshot buffers = some (0, system.payload number)) (garbage : Nat → UInt8) :
    system.read buffers content garbage =
      (system.autoparam.success (system.plcDataType.cast number), content.afterRead) := by
  obtain ⟨_, _, _, cast_cast, size_eq⟩ := writable.types
  have readable : readRefused system.connection content = false := by
    simp [readRefused, writable.readback, writable.conn, writable.connected]
  have delivered : content.delivered (system.payload number) = system.payload number := by
    rcases echo with none_written | same
    · simp [ADSVariable.delivered, ADSVariable.echoPending, none_written]
    · simp [ADSVariable.delivered, same]
  have found : content.current system.connection buffers = some (system.payload number) := by
    rw [ADSVariable.current, readable, if_neg Bool.false_ne_true, taken]
    exact congrArg some delivered
  have sized : content.EchoSized := echo.imp id fun same => by simp [same, payload, size_eq]
  rw [read, integerRead, readScalar_exact system.connection placed sized size_eq garbage,
    ADSVariable.afterCurrent, found]
  simp only [Option.isSome_some, if_true]
  rw [payload, EpicsType.decode_leBytes, cast_cast]

/-- After an accepted write and a sum-read, both reads return the integer converted to the type of
the function, and nothing else. -/
theorem Writable.readsBack_iff {initial : Bytes} {deliver : Delivery} {variableIds : List VarId}
    {given : List (VarId × BufferDataPosition)}
    (writable : system.Writable (state.vars system.var))
    (truthful : system.Truthful initial (state.vars system.var) deliver)
    (ready : state.request.Ready state.vars variableIds given) (listed : system.var ∈ variableIds)
    {number : Int} (stored : Int) (accepted : ¬ system.Refused state number) (beyond : Nat → UInt8)
    (received : ∃ data, (state.vars system.var).snapshot (system.fetched state number beyond) =
      some (0, data)) :
    system.ReadsBack (system.fetched state number beyond) (system.write state number beyond).2.var
        stored ↔ system.plcDataType.cast number = stored := by
  obtain ⟨_, size_pos, _, _, size_eq⟩ := writable.types
  have rc_eq := not_not.mp accepted
  have write_eq := writable.write_eq number beyond rfl
  rw [Ads.reply_event, rc_eq] at write_eq
  have payload_length : (system.payload number).length = (state.vars system.var).size := by
    simp [payload, size_eq]
  have value_eq : (state.vars system.var).plcValue initial
      (system.write state number beyond).2.trace = system.payload number := by
    rw [write_eq, ADSVariable.plcValue_append, ADSVariable.plcValue_writeCall, if_pos rc_eq]
  obtain ⟨data, taken⟩ := received
  obtain rfl : data = system.payload number := by
    rw [← value_eq]
    exact truthful.fetched ready listed (by rw [value_eq, payload_length]) taken
  have placed : (state.vars system.var).Placed (system.fetched state number beyond) := by
    have after := ready.after_read system.ads system.connection
      (system.write state number beyond).2.trace
    exact after.distributed.placed after.stored listed
  generalize system.fetched state number beyond = buffers at taken placed ⊢
  have var_eq : (system.write state number beyond).2.var =
      (state.vars system.var).withEcho (system.payload number) := by
    rw [write_eq]
    exact if_pos ⟨rfl, writable.readback⟩
  have pending : ((state.vars system.var).withEcho (system.payload number)).echoPending = true := by
    have nonempty : system.payload number ≠ [] :=
      List.ne_nil_of_length_pos (by rwa [payload_length, size_eq])
    simp [ADSVariable.echoPending, writable.readback, nonempty]
  have first := (writable.withEcho (system.payload number)).read_eq placed (.inr rfl) taken
  have used : ((state.vars system.var).withEcho (system.payload number)).afterRead =
      (state.vars system.var).withEcho [] := by
    rw [ADSVariable.afterRead, if_pos pending]
    rfl
  have second := (writable.withEcho []).read_eq placed (.inl rfl) taken
  rw [var_eq]
  rw [used] at first
  constructor
  · intro back
    have read := back.echo fun _ => 0
    rw [first] at read
    exact congrArg Result.value read
  · intro same
    rw [same] at first second
    refine ⟨pending, fun garbage => by rw [first], fun garbage => ?_, fun garbage garbage' => ?_⟩
    · rw [first]
      simp [ADSVariable.echoPending]
    · rw [first, second]

/-- Integers are written without a check of their range. -/
theorem integerWrite_reduces {initial : Bytes} {deliver : Delivery} {variableIds : List VarId}
    {given : List (VarId × BufferDataPosition)}
    (writable : system.Writable (state.vars system.var))
    (truthful : system.Truthful initial (state.vars system.var) deliver)
    (ready : state.request.Ready state.vars variableIds given) (listed : system.var ∈ variableIds)
    (number : Int) (beyond : Nat → UInt8) : system.Reduces state number beyond := by
  have write_eq := writable.write_eq number beyond rfl
  have status : (system.write state number beyond).1.status = .success ↔
      ¬ system.Refused state number := by
    rw [write_eq, Ads.reply_event, Refused, not_not]
    split_ifs with accepted
    · exact iff_of_true rfl accepted
    · exact iff_of_false (by simp [Autoparam.error]) accepted
  refine ⟨by rw [write_eq], status, fun stored inside same small success received => ?_⟩
  have accepted := status.mp success
  refine (writable.readsBack_iff truthful ready listed stored accepted beyond received).mpr ?_
  rw [← (writable.cast_eq_iff inside).mpr small]
  refine EpicsType.cast_congr ?_
  rw [← writable.types.2.2.2.2, same]

end Steps

/-- A driver with the byte variable as an integer, whose value on the PLC is F0 at first. -/
def ofByte : IntegerSystem :=
  { ReadbackSystem.ofByte with
    autoparam := .sample
    registration := registerInteger .byte .int8 .int32
    plcDataType := .int8
    epicsDataType := .int32 }

theorem ofByte_writable : ofByte.Writable (DigitalSystem.byteStart.vars ofByte.var) :=
  have dataType_eq : parseDataTypeAutoparam ofByte.registration.function = .ok .byte := by decide
  ⟨by decide, by decide, rfl, ⟨dataType_eq, by decide, by decide, by decide⟩, by decide, by decide,
    by decide, by decide⟩

/-- The number 300 is written as the byte 44. -/
theorem integerWrite_reduces_sample :
    ofByte.ReadsBack (ofByte.fetched DigitalSystem.byteStart 300 fun _ => 0)
      (ofByte.write DigitalSystem.byteStart 300 fun _ => 0).2.var 44 := by
  have reduces := integerWrite_reduces ofByte_writable ReadbackSystem.ofByte_truthful
    DigitalSystem.byteStart_ready (by decide) 300 fun _ => 0
  exact reduces.readBack 44 ⟨(0, 255), by decide, by decide, by decide⟩ (by decide)
    (fun _ => by decide) (by decide) ⟨[44], by decide⟩

/-- The number 300 is not in the range of bytes, yet it is written with success. -/
theorem integerWrite_truncates :
    ofByte.Writable (DigitalSystem.byteStart.vars ofByte.var) ∧
      ¬ InPlcRange (DigitalSystem.byteStart.vars ofByte.var).addr.dataType 300 ∧
      (ofByte.write DigitalSystem.byteStart 300 fun _ => 0).1.status = .success ∧
      (ofByte.write DigitalSystem.byteStart 300 fun _ => 0).2.trace.length = 1 ∧
      ¬ ofByte.RoundTrips DigitalSystem.byteStart 300 fun _ => 0 := by
  have outside : ¬ InPlcRange (DigitalSystem.byteStart.vars ofByte.var).addr.dataType 300 := by
    rintro ⟨range, found, _, below⟩
    obtain rfl : range = (0, 255) := (Option.some.inj found).symm
    exact absurd below (by decide)
  have success : (ofByte.write DigitalSystem.byteStart 300 fun _ => 0).1.status = .success := by
    decide
  refine ⟨ofByte_writable, outside, success, by decide, ?_⟩
  intro trips
  have refused := (trips.outside outside).1
  rw [success] at refused
  cases refused

end IntegerSystem

end AdsDriver
