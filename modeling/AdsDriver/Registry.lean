import AdsDriver.Handlers

/-!
# Registered handlers and their counterparts for I/O Intr records

The type dispatch is written twice: the constructor registers a read and a write handler for each
function, and `performIOIntr` chooses a read handler by the function's name and the data type.
-/

namespace AdsDriver

open ByteMemory

/-- An instance of a read handler template. -/
inductive ReadHandler
  | integerRead (plcDataType epicsDataType : EpicsType)
  | digitalRead (plcDataType : EpicsType)
  | floatRead (plcDataType : EpicsType)
  | arrayRead (plcDataType epicsDataType : EpicsType)
  | stringRead
  deriving DecidableEq

/-- An instance of a write handler template. -/
inductive WriteHandler
  | integerWrite (plcDataType epicsDataType : EpicsType)
  | digitalWrite (plcDataType : EpicsType)
  | floatWrite (plcDataType : EpicsType)
  | arrayWrite (plcDataType epicsDataType : EpicsType)
  | stringWrite
  deriving DecidableEq

/-- One call of `registerHandlers`. -/
structure Registration where
  function : Str
  read : ReadHandler
  write : WriteHandler
  deriving DecidableEq

/-- A scalar integer function. -/
def registerInteger (dataType : ADSDataType) (plcDataType epicsDataType : EpicsType) :
    Registration :=
  ⟨adsDatatypesStr dataType, .integerRead plcDataType epicsDataType,
    .integerWrite plcDataType epicsDataType⟩

/-- A scalar float function. -/
def registerFloat (dataType : ADSDataType) (plcDataType : EpicsType) : Registration :=
  ⟨adsDatatypesStr dataType, .floatRead plcDataType, .floatWrite plcDataType⟩

/-- A digital function. -/
def registerDigital (dataType : ADSDataType) (plcDataType : EpicsType) : Registration :=
  ⟨adsDatatypesStr dataType ++ "_digi".toList, .digitalRead plcDataType, .digitalWrite plcDataType⟩

/-- An array function. -/
def registerArray (dataType : ADSDataType) (plcDataType epicsDataType : EpicsType) :
    Registration :=
  ⟨adsDatatypesStr dataType ++ "[]".toList, .arrayRead plcDataType epicsDataType,
    .arrayWrite plcDataType epicsDataType⟩

/-- The handlers that the constructor of `ADSPortDriver` registers. -/
def registeredHandlers : List Registration :=
  [registerInteger .bool .int8 .int32, registerInteger .sint .int8 .int32,
    registerInteger .byte .int8 .int32, registerInteger .usint .uint8 .int32,
    registerInteger .int .int16 .int32, registerInteger .word .uint16 .int32,
    registerInteger .uint .uint16 .int32, registerInteger .dint .int32 .int32,
    registerInteger .dword .uint32 .int64, registerInteger .udint .uint32 .int64,
    registerInteger .lint .int64 .int64, registerFloat .real .float32,
    registerFloat .lreal .float64, registerDigital .bool .uint8, registerDigital .byte .uint8,
    registerDigital .usint .uint8, registerDigital .word .uint16, registerDigital .uint .uint16,
    registerDigital .dword .uint32, registerDigital .udint .uint32, registerArray .bool .int8 .int8,
    registerArray .sint .int8 .int8, registerArray .byte .int8 .int8,
    registerArray .usint .uint8 .int8, registerArray .int .int16 .int16,
    registerArray .word .int16 .int16, registerArray .uint .uint16 .int16,
    registerArray .dint .int32 .int32, registerArray .udint .uint32 .int32,
    registerArray .lint .int64 .int64, registerArray .real .float32 .float32,
    registerArray .lreal .float64 .float64, ⟨adsDatatypesStr .string, .stringRead, .stringWrite⟩]

/-- The handler for functions with `[]` or `STRING` in their name. -/
def ioIntrArray : ADSDataType → Option ReadHandler
  | .bool | .byte | .sint => some (.arrayRead .int8 .int8)
  | .int => some (.arrayRead .int16 .int16)
  | .dint => some (.arrayRead .int32 .int32)
  | .lint => some (.arrayRead .int64 .int64)
  | .real => some (.arrayRead .float32 .float32)
  | .lreal => some (.arrayRead .float64 .float64)
  | .usint => some (.arrayRead .uint8 .int8)
  | .word | .uint => some (.arrayRead .uint16 .int16)
  | .dword | .udint => some (.arrayRead .uint32 .int32)
  | .string => some .stringRead
  | .unknown => none

/-- The handler for functions with `_digi` in their name. -/
def ioIntrDigital : ADSDataType → Option ReadHandler
  | .bool | .byte | .usint => some (.digitalRead .uint8)
  | .word | .uint => some (.digitalRead .uint16)
  | .dword | .udint => some (.digitalRead .uint32)
  | _ => none

/-- The handler for all other functions. -/
def ioIntrScalar : ADSDataType → Option ReadHandler
  | .bool | .byte | .sint => some (.integerRead .int8 .int32)
  | .int => some (.integerRead .int16 .int32)
  | .dint => some (.integerRead .int32 .int32)
  | .lint => some (.integerRead .int64 .int64)
  | .real => some (.floatRead .float32)
  | .lreal => some (.floatRead .float64)
  | .usint => some (.integerRead .uint8 .int32)
  | .word | .uint => some (.integerRead .uint16 .int32)
  | .dword | .udint => some (.integerRead .uint64 .int64)
  | .string | .unknown => none

/-- The read handler that `performIOIntr` calls for a variable, if any. -/
def ioIntrHandler (function : Str) (dataType : ADSDataType) : Option ReadHandler :=
  if function.contains "[]".toList || function.contains "STRING".toList then ioIntrArray dataType
  else if function.contains "_digi".toList then ioIntrDigital dataType
  else ioIntrScalar dataType

/-- The mask that `performIOIntr` passes to digital handlers. -/
def ioIntrMask : BitVec 32 := 0xFFFF

/-- What a read handler returns through its result or its array argument. -/
inductive Value
  | integer (number : Int)
  | digital (bits : BitVec 32)
  | float (number : FloatValue)
  | array (content : EpicsArray)
  | octet (content : Octet)
  deriving DecidableEq

/-- A result with its value wrapped. -/
def Result.wrap {α : Type} (result : Result α) (value : Value) : Result Value :=
  { result with value }

/-- The zeroed array of `nelem` elements that `performArrayCallbacks` makes. -/
def newArray (autoparam : Autoparam) (epicsDataType : EpicsType) (nelem : Nat) : EpicsArray :=
  ⟨List.replicate (epicsDataType.size * nelem) 0, autoparam.initialSize nelem, nelem⟩

/-- The zeroed string of `nelem` bytes that `performIOIntr` makes. -/
def newOctet (autoparam : Autoparam) (nelem : Nat) : Octet :=
  ⟨List.replicate nelem 0, autoparam.initialSize nelem⟩

/-- Run a read handler on a variable: a digital one with a record's mask, and one for arrays or
strings on a new array or string of the variable's length. -/
def ReadHandler.run (autoparam : Autoparam) (connection : Connection) (buffers : Buffers)
    (var : ADSVariable) (mask : BitVec 32) (garbage : Nat → UInt8) :
    ReadHandler → Result Value × ADSVariable
  | .integerRead plcDataType epicsDataType =>
      let read := AdsDriver.integerRead autoparam connection buffers var plcDataType epicsDataType
        garbage
      (read.1.wrap (.integer read.1.value), read.2)
  | .digitalRead plcDataType =>
      let read := AdsDriver.digitalRead autoparam connection buffers var plcDataType mask garbage
      (read.1.wrap (.digital read.1.value), read.2)
  | .floatRead plcDataType =>
      let read := AdsDriver.floatRead autoparam connection buffers var plcDataType garbage
      (read.1.wrap (.float read.1.value), read.2)
  | .arrayRead plcDataType epicsDataType =>
      let read := AdsDriver.arrayRead autoparam connection buffers var plcDataType
        (newArray autoparam epicsDataType var.addr.nelem)
      (read.1.wrap (.array read.2.1), read.2.2)
  | .stringRead =>
      let read := AdsDriver.stringRead autoparam connection buffers var
        (newOctet autoparam var.addr.nelem)
      (read.1.wrap (.octet read.2.1), read.2.2)

/-- What `performIOIntr` computes for a variable: its result, and the variable afterwards. -/
def ioIntrRead (autoparam : Autoparam) (connection : Connection) (buffers : Buffers)
    (function : Str) (var : ADSVariable) (garbage : Nat → UInt8) :
    Option (Result Value × ADSVariable) :=
  (ioIntrHandler function var.addr.dataType).map
    (ReadHandler.run autoparam connection buffers var ioIntrMask garbage)

/-- A variable whose address was parsed for a function, resolved or not. -/
structure ADSVariable.OfFunction (function : Str) (var : ADSVariable) : Prop where
  dataType_eq : parseDataTypeAutoparam function = .ok var.addr.dataType
  nelem_pos : 0 < var.addr.nelem
  nelem_lt : var.addr.nelem < 2 ^ 32
  nelem_scalar : takesNelem function = false → var.addr.nelem = 1

theorem ADSAddress.ParsedFrom.ofFunction {function : Str} {var : ADSVariable}
    (parsed : var.addr.ParsedFrom function) : var.OfFunction function :=
  ⟨parsed.dataType_eq, parsed.nelem_pos, parsed.nelem_lt, parsed.nelem_scalar⟩

/-- Resolving and unresolving do not change the function. -/
theorem ADSVariable.OfFunction.readdress {function : Str} {var : ADSVariable}
    (made : var.OfFunction function) {addr : ADSAddress}
    (dataType_eq : addr.dataType = var.addr.dataType) (nelem_eq : addr.nelem = var.addr.nelem) :
    { var with addr }.OfFunction function := by
  refine ⟨?_, ?_, ?_, ?_⟩
  · simpa [dataType_eq] using made.dataType_eq
  · simpa [nelem_eq] using made.nelem_pos
  · simpa [nelem_eq] using made.nelem_lt
  · simpa [nelem_eq] using made.nelem_scalar

/-- The type of the local variable that a scalar handler reads into. -/
def ReadHandler.scalarType : ReadHandler → Option EpicsType
  | .integerRead plcDataType _ | .digitalRead plcDataType | .floatRead plcDataType =>
      some plcDataType
  | _ => none

theorem registered_widths : ∀ registration ∈ registeredHandlers,
    ∀ plcDataType ∈ registration.read.scalarType,
      (parseDataTypeAutoparam registration.function).toOption.bind adsDatatypeSizes =
        some plcDataType.size ∧ takesNelem registration.function = false := by
  decide

theorem ADSVariable.OfFunction.toOption_eq {function : Str} {var : ADSVariable}
    (made : var.OfFunction function) :
    (parseDataTypeAutoparam function).toOption = some var.addr.dataType := by
  rw [made.dataType_eq]
  rfl

/-- A variable of a scalar function has the width of its registered handler. -/
theorem size_of_scalar {registration : Registration}
    (registered : registration ∈ registeredHandlers)
    {var : ADSVariable} (made : var.OfFunction registration.function) {plcDataType : EpicsType}
    (scalar : registration.read.scalarType = some plcDataType) : var.size = plcDataType.size := by
  obtain ⟨width, single⟩ := registered_widths registration registered plcDataType scalar
  rw [made.toOption_eq, Option.bind_some] at width
  have small : plcDataType.size < 2 ^ 32 := by cases plcDataType <;> decide
  rw [ADSVariable.size, ADSVariable.elemSize, width, made.nelem_scalar single]
  simpa using u32_of_lt small

/-- A handler and its counterpart may differ in the signedness of array elements only. -/
def ReadHandler.alike : ReadHandler → ReadHandler → Bool
  | .arrayRead plcDataType epicsDataType, .arrayRead plcDataType' epicsDataType' =>
      plcDataType.size = plcDataType'.size && epicsDataType = epicsDataType'
  | left, right => left = right

theorem ReadHandler.eq_or_of_alike {left right : ReadHandler} (same : left.alike right = true) :
    left = right ∨ ∃ plcDataType plcDataType' epicsDataType,
      left = .arrayRead plcDataType epicsDataType ∧
      right = .arrayRead plcDataType' epicsDataType ∧ plcDataType.size = plcDataType'.size := by
  unfold alike at same
  split at same
  · obtain ⟨same_size, rfl⟩ : _ ∧ _ := by simpa using same
    exact .inr ⟨_, _, _, rfl, rfl, same_size⟩
  · exact .inl (by simpa using same)

theorem ReadHandler.run_of_alike {left right : ReadHandler} (same : left.alike right = true)
    (autoparam : Autoparam) (connection : Connection) (buffers : Buffers) (var : ADSVariable)
    (mask : BitVec 32) (garbage : Nat → UInt8) :
    left.run autoparam connection buffers var mask garbage =
      right.run autoparam connection buffers var mask garbage := by
  rcases left.eq_or_of_alike same with rfl | ⟨plc, plc', epics, rfl, rfl, same_size⟩
  · rfl
  · simp only [run, AdsDriver.arrayRead, same_size]

/-- Whether a function is a digital one. -/
def Registration.digital (registration : Registration) : Bool :=
  match registration.read with
  | .digitalRead _ => true
  | _ => false

/-- The functions for unsigned 32-bit scalars. -/
def unsigned32 (function : Str) : Bool := function = "DWORD".toList || function = "UDINT".toList

/-- The handler that `performIOIntr` calls for variables of a function. -/
def Registration.counterpart (registration : Registration) : Option ReadHandler :=
  (parseDataTypeAutoparam registration.function).toOption.bind
    (ioIntrHandler registration.function)

theorem counterpart_alike : ∀ registration ∈ registeredHandlers,
    unsigned32 registration.function = false →
    registration.counterpart.any (·.alike registration.read) = true := by
  decide

theorem counterpart_unsigned32 : ∀ registration ∈ registeredHandlers,
    unsigned32 registration.function = true →
    registration.counterpart = some (.integerRead .uint64 .int64) ∧
      registration.read = .integerRead .uint32 .int64 := by
  decide

theorem digital_widths : ∀ registration ∈ registeredHandlers, registration.digital = true →
    ∃ plcDataType ∈ [EpicsType.uint8, .uint16, .uint32],
      registration.read = .digitalRead plcDataType ∧
      registration.write = .digitalWrite plcDataType ∧
      registration.counterpart = some (.digitalRead plcDataType) := by
  decide

/-- A variable of a digital function has the width of its handlers, of at most four bytes. -/
theorem digital_handlers {registration : Registration}
    (registered : registration ∈ registeredHandlers)
    (digital : registration.digital = true) {plcDataType : EpicsType}
    (handler : registration.write = .digitalWrite plcDataType) :
    registration.read = .digitalRead plcDataType ∧
      registration.counterpart = some (.digitalRead plcDataType) ∧
      0 < plcDataType.size ∧ plcDataType.size ≤ 4 ∧
      ∀ {var : ADSVariable}, var.OfFunction registration.function →
        var.size = plcDataType.size := by
  obtain ⟨plcDataType', narrow, read, write, found⟩ :=
    digital_widths registration registered digital
  obtain rfl : plcDataType' = plcDataType := by simpa [write] using handler
  have size_le : 0 < plcDataType'.size ∧ plcDataType'.size ≤ 4 := by
    revert narrow
    cases plcDataType' <;> decide
  exact ⟨read, found, size_le.1, size_le.2,
    fun made => size_of_scalar registered made (by rw [read]; rfl)⟩

end AdsDriver
