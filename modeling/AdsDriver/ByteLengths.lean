import AdsDriver.AddressStates
import AdsDriver.Allocation
import AdsDriver.ReadValues
import Mathlib.Algebra.Order.BigOperators.Group.List

/-!
# Lengths in bytes

Sizes are products of two 32-bit numbers, and the library takes the lengths of buffers as 32-bit
numbers.  The parser bounds the number of elements only, and a chunk takes a variable of any size.
-/

namespace AdsDriver

open Packing SumReadRequest

/-- The size of a variable as an unbounded number. -/
def ADSVariable.dataBytes (var : ADSVariable) : Nat := var.elemSize * var.addr.nelem

theorem ADSVariable.size_eq_dataBytes_iff {var : ADSVariable} :
    var.size = var.dataBytes ↔ var.dataBytes < 2 ^ 32 := by
  constructor
  · intro same
    rw [← same]
    exact var.size_lt
  · exact size_of_fits

/-- A read handler that the driver calls for variables of a data type: it is registered for a
function of the type, or it is chosen for an I/O Intr record. -/
def ReadHandler.Serves (dataType : ADSDataType) (handler : ReadHandler) : Prop :=
  (∃ registration ∈ registeredHandlers,
    parseDataTypeAutoparam registration.function = .ok dataType ∧ registration.read = handler) ∨
  ∃ function, ioIntrHandler function dataType = some handler

/-- A write handler that is registered for a function of a data type. -/
def WriteHandler.Serves (dataType : ADSDataType) (handler : WriteHandler) : Prop :=
  ∃ registration ∈ registeredHandlers,
    parseDataTypeAutoparam registration.function = .ok dataType ∧ registration.write = handler

/-- The element type of an array handler. -/
def ReadHandler.arrayType : ReadHandler → Option EpicsType
  | .arrayRead plcDataType _ => some plcDataType
  | _ => none

@[inherit_doc ReadHandler.arrayType]
def WriteHandler.arrayType : WriteHandler → Option EpicsType
  | .arrayWrite plcDataType _ => some plcDataType
  | _ => none

/-- The lengths that `read` gives for a chunk are those of its two buffers. -/
def ReadRequestChunk.LengthsKept (chunk : ReadRequestChunk) : Prop :=
  ∃ memory data, chunk.sumReadDataBuffer.buffer = some memory ∧
    data = chunk.sumReadRequestBuffer.flatMap AdsSymbolInfoByName.bytes ∧
    ∀ connection, chunk.readCall connection =
      .readWrite connection.adsPort connection.remoteAmsNetId chunk.adsPort adsigrpSumupRead
        (UInt32.ofNat chunk.sumReadDataBuffer.getNumVariables) memory.length data.length data

/-- No length in bytes wraps around. -/
structure LengthsKept (vars : Vars) (variableIds : List VarId) (request : SumReadRequest) :
    Prop where
  sizes : ∀ var ∈ variableIds, (vars var).size = (vars var).dataBytes
  reads : ∀ var ∈ variableIds, ∀ handler : ReadHandler, handler.Serves (vars var).addr.dataType →
    ∀ plcDataType ∈ handler.arrayType,
      handler.bytesToRead (vars var) = plcDataType.size * (vars var).addr.nelem
  writes : ∀ var ∈ variableIds, ∀ handler : WriteHandler, handler.Serves (vars var).addr.dataType →
    ∀ plcDataType ∈ handler.arrayType,
      handler.bytesToWrite (vars var) = plcDataType.size * (vars var).addr.nelem
  chunks : ∀ chunk ∈ request.getChunks, chunk.LengthsKept

/-- The groups into which variables of an ADS port are packed, by their sizes without wrap. -/
def groups (vars : Vars) (maxVariables : Nat) (variableIds : List VarId) (port : Nat) :
    List (List VarId) :=
  pack (ReadRequestChunk.isFull (fun var => (vars var).dataBytes) maxVariables)
    (variableIds.filter fun var => portOf vars var = port)

/-- Each group takes less than 2 ^ 32 bytes with its result codes. -/
def GroupsFit (vars : Vars) (maxVariables : Nat) (variableIds : List VarId) : Prop :=
  ∀ port, ∀ group ∈ groups vars maxVariables variableIds port,
    SumReadBuffer.resultSize * group.length +
      (group.map fun var => (vars var).dataBytes).sum < 2 ^ 32

theorem ReadRequestChunk.isFull_dropLast (size : VarId → Nat) (maxVariables : Nat)
    (vars : List VarId) (room : isFull size maxVariables vars = false) :
    isFull size maxVariables vars.dropLast = false := by
  obtain rfl | ⟨front, last, rfl⟩ := vars.eq_nil_or_concat'
  · exact room
  · simp only [isFull, List.map_append, List.sum_append, List.length_append,
      Bool.or_eq_false_iff, decide_eq_false_iff_not, not_le, List.dropLast_concat] at room ⊢
    omega

section Groups

variable {vars after : Vars} {maxVariables : Nat} {variableIds : List VarId}

theorem packed_groups (max_pos : 0 < maxVariables) (port : Nat) :
    Packed (ReadRequestChunk.isFull (fun var => (vars var).dataBytes) maxVariables)
      (variableIds.filter fun var => portOf vars var = port)
      (groups vars maxVariables variableIds port) :=
  packed_pack (by simpa [ReadRequestChunk.isFull] using max_pos.ne') _

/-- Where the groups fit, no size wraps. -/
theorem GroupsFit.sizes (fit : GroupsFit vars maxVariables variableIds)
    (max_pos : 0 < maxVariables) :
    ∀ var ∈ variableIds, (vars var).size = (vars var).dataBytes := by
  intro var member
  have in_groups : var ∈ (groups vars maxVariables variableIds (portOf vars var)).flatten := by
    rw [(packed_groups max_pos (portOf vars var)).flatten_eq]
    simpa using member
  obtain ⟨group, in_port, held⟩ := List.mem_flatten.mp in_groups
  have total := fit (portOf vars var) group in_port
  have part : (vars var).dataBytes ≤ (group.map fun var => (vars var).dataBytes).sum :=
    List.le_sum_of_mem (List.mem_map_of_mem held)
  exact ADSVariable.size_eq_dataBytes_iff.mpr (by omega)

theorem vars_eq_groups {given : List (VarId × BufferDataPosition)} {request : SumReadRequest}
    (distributed : Distributed vars variableIds given request after)
    (sizes : ∀ var ∈ variableIds, (vars var).size = (vars var).dataBytes) (port : Nat) :
    (request.chunkSet port).map ReadRequestChunk.vars =
      groups vars request.maxVarsPerBuffer variableIds port := by
  refine ((distributed.packed port).congr ?_).eq_pack (ReadRequestChunk.isFull_dropLast _ _)
  intro bin in_items
  have same : (bin.map fun var => (vars var).size) = bin.map fun var => (vars var).dataBytes :=
    List.map_congr_left fun var held => sizes var (List.mem_filter.mp (in_items var held)).1
  rw [ReadRequestChunk.isFull, ReadRequestChunk.isFull, same]

end Groups

theorem length_flatMap_bytes (entries : List AdsSymbolInfoByName) :
    (entries.flatMap AdsSymbolInfoByName.bytes).length = entries.length * 12 := by
  induction entries with
  | nil => rfl
  | cons entry entries ih => simp [ih, Nat.add_mul, Nat.add_comm]

/-- The count limit keeps the request short, so that the length of the answer decides. -/
theorem ReadRequestChunk.Sound.chunkLengths_iff {size : VarId → Nat} {maxVariables port : Nat}
    {chunk : ReadRequestChunk} (sound : chunk.Sound size maxVariables port)
    (stored : chunk.Stored) :
    chunk.LengthsKept ↔
      SumReadBuffer.resultSize * chunk.vars.length + (chunk.vars.map size).sum < 2 ^ 32 := by
  obtain ⟨_, memory, memory_eq, length_eq⟩ := stored
  have count_le := sound.layout.count_le
  have max_lt := sound.layout.max_lt
  have entries_length := sound.entries_length
  have buffer_size := sound.layout.buffer_size
  rw [sound.vars_eq] at count_le buffer_size
  have request_length : u32 (chunk.sumReadRequestBuffer.length * 12) =
      (chunk.sumReadRequestBuffer.flatMap AdsSymbolInfoByName.bytes).length := by
    rw [length_flatMap_bytes]
    exact u32_of_lt (by omega)
  constructor
  · rintro ⟨_, _, same, rfl, calls⟩
    obtain rfl : memory = _ := Option.some.inj (memory_eq.symm.trans same)
    have call := calls {}
    rw [readCall, AdsCall.readWrite.injEq] at call
    have answer_length : u32 chunk.sumReadDataBuffer.bufferSize = memory.length := call.2.2.2.2.2.1
    rw [← buffer_size, ← length_eq, ← answer_length]
    exact u32_lt _
  · intro fit
    refine ⟨memory, _, memory_eq, rfl, fun connection => ?_⟩
    rw [readCall, request_length, length_eq, u32_of_lt (by omega)]

theorem registered_arrays : ∀ registration ∈ registeredHandlers,
    ∀ plcDataType ∈ registration.read.arrayType.toList ++ registration.write.arrayType.toList,
      (parseDataTypeAutoparam registration.function).toOption.bind adsDatatypeSizes =
        some plcDataType.size := by
  decide

theorem elementSize_of_registered {registration : Registration}
    (registered : registration ∈ registeredHandlers) {dataType : ADSDataType}
    (type_eq : parseDataTypeAutoparam registration.function = .ok dataType)
    {plcDataType : EpicsType}
    (array : plcDataType ∈ registration.read.arrayType ∨
      plcDataType ∈ registration.write.arrayType) :
    adsDatatypeSizes dataType = some plcDataType.size := by
  have width := registered_arrays registration registered plcDataType (by simpa using array)
  rw [type_eq] at width
  exact width

theorem ioIntr_arrays (dataType : ADSDataType) : ∀ handler ∈ [ioIntrArray dataType,
    ioIntrDigital dataType, ioIntrScalar dataType], ∀ plcDataType ∈ handler.bind (·.arrayType),
      adsDatatypeSizes dataType = some plcDataType.size := by
  cases dataType <;> decide

theorem ReadHandler.Serves.elementSize {dataType : ADSDataType} {handler : ReadHandler}
    (serves : handler.Serves dataType) {plcDataType : EpicsType}
    (array : plcDataType ∈ handler.arrayType) :
    adsDatatypeSizes dataType = some plcDataType.size := by
  rcases serves with ⟨registration, registered, type_eq, rfl⟩ | ⟨function, chosen⟩
  · exact elementSize_of_registered registered type_eq (.inl array)
  · refine ioIntr_arrays dataType (some handler) ?_ plcDataType (by simpa using array)
    rw [← chosen, ioIntrHandler]
    split_ifs <;> simp

theorem WriteHandler.Serves.elementSize {dataType : ADSDataType} {handler : WriteHandler}
    (serves : handler.Serves dataType) {plcDataType : EpicsType}
    (array : plcDataType ∈ handler.arrayType) :
    adsDatatypeSizes dataType = some plcDataType.size := by
  obtain ⟨registration, registered, type_eq, rfl⟩ := serves
  exact elementSize_of_registered registered type_eq (.inr array)

section Counts

variable {var : ADSVariable} {plcDataType : EpicsType}

theorem arrayBytes_eq (width : adsDatatypeSizes var.addr.dataType = some plcDataType.size)
    (fits : var.dataBytes < 2 ^ 32) :
    u32 (u64 (plcDataType.size * var.addr.nelem)) = plcDataType.size * var.addr.nelem := by
  have bytes_eq : var.dataBytes = plcDataType.size * var.addr.nelem := by
    rw [ADSVariable.dataBytes, ADSVariable.elemSize, width, Option.getD_some]
  rw [← bytes_eq, u64_of_lt (by omega), u32_of_lt fits]

theorem ReadHandler.Serves.bytesToRead_eq {handler : ReadHandler}
    (serves : handler.Serves var.addr.dataType) (array : plcDataType ∈ handler.arrayType)
    (fits : var.dataBytes < 2 ^ 32) :
    handler.bytesToRead var = plcDataType.size * var.addr.nelem := by
  have width := serves.elementSize array
  cases handler with
  | arrayRead plcDataType' epicsDataType =>
      obtain rfl : plcDataType' = plcDataType := by simpa [arrayType] using array
      exact arrayBytes_eq width fits
  | integerRead plcDataType' epicsDataType => simp [arrayType] at array
  | digitalRead plcDataType' => simp [arrayType] at array
  | floatRead plcDataType' => simp [arrayType] at array
  | stringRead => simp [arrayType] at array

theorem WriteHandler.Serves.bytesToWrite_eq {handler : WriteHandler}
    (serves : handler.Serves var.addr.dataType) (array : plcDataType ∈ handler.arrayType)
    (fits : var.dataBytes < 2 ^ 32) :
    handler.bytesToWrite var = plcDataType.size * var.addr.nelem := by
  have width := serves.elementSize array
  cases handler with
  | arrayWrite plcDataType' epicsDataType =>
      obtain rfl : plcDataType' = plcDataType := by simpa [arrayType] using array
      exact arrayBytes_eq width fits
  | integerWrite plcDataType' epicsDataType => simp [arrayType] at array
  | digitalWrite plcDataType' => simp [arrayType] at array
  | floatWrite plcDataType' => simp [arrayType] at array
  | stringWrite => simp [arrayType] at array

end Counts

/-- As long as an allocation lasts, no length wraps if and only if the variables of each chunk fit
into 32-bit lengths. -/
theorem lengthsKept_iff {request after later : SumReadRequest} {variableIds : List VarId}
    {heap heap' : Heap} (fresh : request.Fresh)
    (allocated : request.allocate variableIds heap = (0, after, heap'))
    (same : after.SameLayout later) :
    LengthsKept heap.vars variableIds later ↔
      GroupsFit heap.vars request.maxVarsPerBuffer variableIds := by
  obtain ⟨distributed, stored, -, -, -, -, -, max_eq⟩ := allocate_ok fresh allocated
  have distributed := distributed.sameLayout same
  have stored := stored.sameLayout same
  have max_eq : later.maxVarsPerBuffer = request.maxVarsPerBuffer := same.max_eq.trans max_eq
  have chunk_iff {port : Nat} {chunk : ReadRequestChunk} (member : chunk ∈ later.chunkSet port) :=
    (distributed.sound port chunk member).chunkLengths_iff (stored port chunk member)
  have group_sum (sizes : ∀ var ∈ variableIds, (heap.vars var).size = (heap.vars var).dataBytes)
      {chunk : ReadRequestChunk} (member : chunk ∈ later.getChunks) :
      (chunk.vars.map fun var => (heap.vars var).size) =
        chunk.vars.map fun var => (heap.vars var).dataBytes :=
    List.map_congr_left fun var held => sizes var (distributed.mem_of_chunk member held)
  constructor
  · intro kept port group member
    rw [← max_eq, ← vars_eq_groups distributed kept.sizes port] at member
    obtain ⟨chunk, in_set, rfl⟩ := List.mem_map.mp member
    have in_chunks := mem_getChunks_iff.mpr ⟨port, in_set⟩
    rw [← group_sum kept.sizes in_chunks]
    exact (chunk_iff in_set).mp (kept.chunks chunk in_chunks)
  · intro fit
    have sizes := fit.sizes fresh.max_pos
    have fits {var : VarId} (member : var ∈ variableIds) :=
      ADSVariable.size_eq_dataBytes_iff.mp (sizes var member)
    refine ⟨sizes, fun var member handler serves plcDataType array =>
      serves.bytesToRead_eq array (fits member), fun var member handler serves plcDataType array =>
      serves.bytesToWrite_eq array (fits member), ?_⟩
    intro chunk in_chunks
    obtain ⟨port, in_set⟩ := mem_getChunks_iff.mp in_chunks
    refine (chunk_iff in_set).mpr ?_
    rw [group_sum sizes in_chunks]
    refine fit port chunk.vars ?_
    rw [← max_eq, ← vars_eq_groups distributed sizes port]
    exact List.mem_map_of_mem in_set

theorem lengthsKept_iff_sample :
    LengthsKept sampleVars [0, 1, 2, 0] sampleAllocated.2.1 := by
  refine (lengthsKept_iff sampleRequest_fresh sampleAllocated_eq (.refl _)).mpr ?_
  have served : ∀ port ∈ [851, 852], ∀ group ∈ groups sampleVars 2 [0, 1, 2, 0] port,
      SumReadBuffer.resultSize * group.length +
        (group.map fun var => (sampleVars var).dataBytes).sum < 2 ^ 32 := by
    decide
  intro port group member
  by_cases used : port ∈ [851, 852]
  · exact served port used group member
  · have unused : ([0, 1, 2, 0].filter fun var => portOf sampleVars var = port) = [] := by
      have ports : ∀ var ∈ [0, 1, 2, 0], portOf sampleVars var ∈ [851, 852] := by decide
      refine List.filter_eq_nil_iff.mpr fun var listed here => used ?_
      rw [← of_decide_eq_true here]
      exact ports var listed
    rw [groups, unused] at member
    simp at member

/-- A link to an array of 64-bit floats. -/
def wideArguments : List Str :=
  ["N=536870912".toList, "R".toList, "P=851".toList, "V=MAIN.x".toList]

/-- The address of this link. -/
def wideAddress : ADSAddress :=
  { dataType := .lreal, operation := .read, variableName := "MAIN.x".toList, adsPort := 851,
    nelem := 536870912 }

/-- Variables at this address. -/
def wideVars : Vars := fun _ => { addr := wideAddress, conn := true, arrayDataHash := 0 }

/-- An array of 2 ^ 32 bytes is accepted and allocated, and its size wraps around to 0. -/
theorem wideArray_wraps :
    AddressSource.construct (.link "LREAL[]".toList wideArguments) = .ok wideAddress ∧
      sampleRequest.Fresh ∧ (sampleRequest.allocate [0] ⟨wideVars, []⟩).1 = 0 ∧
      (wideVars 0).size = 0 ∧ (wideVars 0).dataBytes = 2 ^ 32 ∧
      ¬ LengthsKept wideVars [0] (sampleRequest.allocate [0] ⟨wideVars, []⟩).2.1 := by
  have wrapped : (wideVars 0).size = 0 := by decide +kernel
  have unbounded : (wideVars 0).dataBytes = 2 ^ 32 := by decide +kernel
  refine ⟨by decide +kernel, sampleRequest_fresh, by decide +kernel, wrapped, unbounded, ?_⟩
  intro kept
  have same := kept.sizes 0 (by simp)
  rw [wrapped, unbounded] at same
  simp at same

end AdsDriver
