import AdsDriver.Variable

/-!
# Sum-read buffers

A `SumReadBuffer` holds one 32-bit result code per variable, then the variables' data.  Variables
are added one by one, before the storage is made; the offsets of a variable are fixed when it is
added, while the start of the data block moves with every variable added after it.
-/

namespace AdsDriver

open ByteMemory

/-- Whether the content of a buffer comes from a sum-read that succeeded. -/
inductive SumReadBufferState
  | valid
  | invalid
  deriving DecidableEq

/-- `SumReadBuffer`.  Counters and sizes are fixed-width in the source; the wrap-around is in the
operations. -/
structure SumReadBuffer where
  vars : List VarId := []
  maxNvariables : Nat
  maxDataSizeSoftLimit : Nat := 1000000
  /-- Index of the next result, an `uint16_t`. -/
  nextResultOffset : Nat := 0
  /-- Offset of the next data element in the data block, a `size_t`. -/
  nextDataOffset : Nat := 0
  /-- Size of results and data together, a `size_t`. -/
  bufferSize : Nat := 0
  buffer : Option Bytes := none
  bufferInitialized : Bool := false
  prevDataBuffer : Option Bytes := none
  bufferState : SumReadBufferState := .invalid
  deriving DecidableEq

namespace SumReadBuffer

/-- Size of a result code in bytes. -/
def resultSize : Nat := 4

/-- `get_num_variables`. -/
def getNumVariables (buffer : SumReadBuffer) : Nat := u32 buffer.vars.length

/-- `results_size`. -/
def resultsSize (buffer : SumReadBuffer) : Nat := u64 (buffer.getNumVariables * resultSize)

/-- `data_size`, by unsigned subtraction. -/
def dataSize (buffer : SumReadBuffer) : Nat :=
  u64 (buffer.bufferSize + (2 ^ 64 - buffer.resultsSize))

/-- `start_of_data_offset`. -/
def startOfDataOffset (buffer : SumReadBuffer) : Nat := buffer.resultsSize

/-- `at_capacity`. -/
def atCapacity (buffer : SumReadBuffer) : Bool :=
  buffer.dataSize ≥ buffer.maxDataSizeSoftLimit || buffer.nextResultOffset ≥ buffer.maxNvariables

/-- `add_variable` of the buffer at address `this`. -/
def addVariable (this : BufferPtr) (buffer : SumReadBuffer) (var : VarId) (heap : Heap) :
    Int × SumReadBuffer × Heap :=
  if buffer.bufferInitialized then (epicsadsNotInitialized, buffer, heap)
  else if buffer.getNumVariables = buffer.maxNvariables then (epicsadsLimit, buffer, heap)
  else if buffer.atCapacity then (epicsadsLimit, buffer, heap)
  else
    let size := (heap.vars var).size
    let newSize := u64 (buffer.bufferSize + size + resultSize)
    if newSize < buffer.bufferSize then (epicsadsOverflow, buffer, heap)
    else if !heap.request.1 then (epicsadsError, buffer, heap.request.2)
    else
      (0,
        { buffer with
          vars := buffer.vars ++ [var]
          nextResultOffset := u16 (buffer.nextResultOffset + 1)
          nextDataOffset := u64 (buffer.nextDataOffset + size)
          bufferSize := newSize },
        heap.request.2.setBufferReader var
          ⟨some this, buffer.nextResultOffset, buffer.nextDataOffset⟩)

/-- `initialize_buffer`: both allocations are zeroed, and the first is freed when the second
fails. -/
def initializeBuffer (buffer : SumReadBuffer) (heap : Heap) : Int × SumReadBuffer × Heap :=
  if buffer.getNumVariables = 0 then (epicsadsNoData, buffer, heap)
  else if buffer.bufferInitialized then (epicsadsInvCall, buffer, heap)
  else if !heap.request.1 then (epicsadsError, { buffer with buffer := none }, heap.request.2)
  else if !heap.request.2.request.1 then
    (epicsadsError, { buffer with buffer := none, prevDataBuffer := none },
      heap.request.2.request.2)
  else
    (0,
      { buffer with
        buffer := some (List.replicate buffer.bufferSize 0)
        prevDataBuffer := some (List.replicate buffer.bufferSize 0)
        bufferInitialized := true },
      heap.request.2.request.2)

/-- `save_buffer`: keep a copy of the content. -/
def saveBuffer (buffer : SumReadBuffer) : SumReadBuffer :=
  if buffer.prevDataBuffer = none then buffer else { buffer with prevDataBuffer := buffer.buffer }

/-- The storage after the library has put an answer into it. -/
def receive (buffer : SumReadBuffer) (answer : Bytes) : SumReadBuffer :=
  { buffer with buffer := buffer.buffer.map (overwrite answer) }

/-- `read_data` into a result and a data destination that are not null: the return code, the
result and the destination after the call.  The address of the data is a 64-bit sum like its end;
what lies outside of the storage is not modelled, and nothing is copied from there. -/
def readData (buffer : SumReadBuffer) (offsetResult offsetData dataSize : Nat) (result : Nat)
    (data : Bytes) : Int × Nat × Bytes :=
  match buffer.buffer with
  | none => (epicsadsNotInitialized, result, data)
  | some memory =>
      if offsetResult ≥ buffer.nextResultOffset then (epicsadsOutOfRange, result, data)
      else if u64 (offsetData + dataSize) > buffer.nextDataOffset then
        (epicsadsOutOfRange, result, data)
      else
        (0, leNat (window (resultSize * offsetResult) resultSize memory),
          overwrite (window (u64 (buffer.startOfDataOffset + offsetData)) dataSize memory) data)

/-- The bookkeeping invariant: no counter has wrapped around and all of them agree. -/
structure Layout (size : VarId → Nat) (buffer : SumReadBuffer) : Prop where
  result_offset : buffer.nextResultOffset = buffer.vars.length
  data_offset : buffer.nextDataOffset = (buffer.vars.map size).sum
  buffer_size : buffer.bufferSize =
    resultSize * buffer.vars.length + (buffer.vars.map size).sum
  size_lt : buffer.bufferSize < 2 ^ 64
  count_le : buffer.vars.length ≤ buffer.maxNvariables
  max_lt : buffer.maxNvariables < 2 ^ 16

theorem layout_new (size : VarId → Nat) {maxNvariables : Nat} (small : maxNvariables < 2 ^ 16) :
    Layout size { maxNvariables } :=
  ⟨rfl, rfl, rfl, Nat.two_pow_pos 64, by simp, small⟩

namespace Layout

variable {size : VarId → Nat} {buffer : SumReadBuffer}

theorem getNumVariables_eq (layout : Layout size buffer) :
    buffer.getNumVariables = buffer.vars.length := by
  have count := layout.count_le
  have small := layout.max_lt
  exact u32_of_lt (by omega)

theorem resultsSize_eq (layout : Layout size buffer) :
    buffer.resultsSize = resultSize * buffer.vars.length := by
  have count := layout.count_le
  have small := layout.max_lt
  rw [resultsSize, layout.getNumVariables_eq, Nat.mul_comm]
  exact u64_of_lt (by simp only [resultSize]; omega)

theorem dataSize_eq (layout : Layout size buffer) :
    buffer.dataSize = (buffer.vars.map size).sum := by
  have total := layout.buffer_size
  have bound := layout.size_lt
  rw [dataSize, layout.resultsSize_eq, u64]
  omega

theorem atCapacity_eq (layout : Layout size buffer) :
    buffer.atCapacity = (decide (buffer.maxDataSizeSoftLimit ≤ (buffer.vars.map size).sum) ||
      decide (buffer.maxNvariables ≤ buffer.vars.length)) := by
  rw [atCapacity, layout.dataSize_eq, layout.result_offset]

end Layout

/-- What a successful `add_variable` does: the slot given to the variable is the next result index
and the sum of the sizes before it, and the layout is kept. -/
theorem addVariable_ok {this : BufferPtr} {buffer after : SumReadBuffer} {var : VarId}
    {heap heap' : Heap} (layout : Layout (fun other => (heap.vars other).size) buffer)
    (added : buffer.addVariable this var heap = (0, after, heap')) :
    Layout (fun other => (heap.vars other).size) after ∧
      after.vars = buffer.vars ++ [var] ∧
      after.maxNvariables = buffer.maxNvariables ∧
      after.maxDataSizeSoftLimit = buffer.maxDataSizeSoftLimit ∧
      heap'.vars = (heap.setBufferReader var ⟨some this, buffer.vars.length,
        (buffer.vars.map fun other => (heap.vars other).size).sum⟩).vars := by
  have size_lt := (heap.vars var).size_lt
  have count_le := layout.count_le
  have max_lt := layout.max_lt
  have total := layout.buffer_size
  have bound := layout.size_lt
  simp only [addVariable] at added
  split_ifs at added with initialized is_max is_full overflows refused
  all_goals try (simp [epicsadsNotInitialized, epicsadsLimit, epicsadsOverflow,
    epicsadsError] at added; done)
  rw [layout.getNumVariables_eq] at is_max
  simp only [u64, resultSize, not_lt] at overflows total
  obtain ⟨rfl, rfl⟩ : _ = after ∧ _ = heap' := by simpa using added
  have new_lt : buffer.bufferSize + (heap.vars var).size + 4 < 2 ^ 64 := by omega
  have count_lt : buffer.vars.length + 1 < 2 ^ 16 := by omega
  have data_lt : (buffer.vars.map fun other => (heap.vars other).size).sum +
      (heap.vars var).size < 2 ^ 64 := by omega
  refine ⟨⟨?_, ?_, ?_, Nat.mod_lt _ (by decide), ?_, max_lt⟩, rfl, rfl, rfl, ?_⟩
  · simp only [layout.result_offset, List.length_append, List.length_singleton]
    exact u16_of_lt count_lt
  · simp only [layout.data_offset, List.map_append, List.sum_append, List.map_cons, List.map_nil,
      List.sum_singleton]
    exact u64_of_lt data_lt
  · simp only [resultSize, List.length_append, List.map_append, List.sum_append, List.map_cons,
      List.map_nil, List.sum_singleton, List.length_singleton]
    rw [u64_of_lt new_lt, total]
    omega
  · simp only [List.length_append, List.length_singleton]
    omega
  · rw [layout.result_offset, layout.data_offset]
    rfl

/-- What a successful `initialize_buffer` does. -/
theorem initializeBuffer_ok {buffer after : SumReadBuffer} {heap heap' : Heap}
    (done : buffer.initializeBuffer heap = (0, after, heap')) :
    buffer.bufferInitialized = false ∧ heap'.vars = heap.vars ∧
      after = { buffer with
        buffer := some (List.replicate buffer.bufferSize 0)
        prevDataBuffer := some (List.replicate buffer.bufferSize 0)
        bufferInitialized := true } := by
  simp only [initializeBuffer] at done
  split_ifs at done with empty initialized
  all_goals try (simp [epicsadsNoData, epicsadsInvCall, epicsadsError] at done; done)
  obtain ⟨rfl, rfl⟩ : _ = after ∧ _ = heap' := by simpa using done
  exact ⟨by simpa using initialized, rfl, rfl⟩

theorem initializeBuffer_vars (buffer : SumReadBuffer) (heap : Heap) :
    (buffer.initializeBuffer heap).2.2.vars = heap.vars := by
  simp only [initializeBuffer]
  split_ifs <;> rfl

theorem saveBuffer_eq (buffer : SumReadBuffer) :
    ∃ previous, buffer.saveBuffer = { buffer with prevDataBuffer := previous } := by
  unfold saveBuffer
  split_ifs
  · exact ⟨_, rfl⟩
  · exact ⟨_, rfl⟩

/-- A slot lies inside a buffer that has its storage. -/
structure Inside (buffer : SumReadBuffer) (position : BufferDataPosition) (size : Nat)
    (memory : Bytes) : Prop where
  stored : buffer.buffer = some memory
  result_inside : position.offResult < buffer.nextResultOffset
  result_small : buffer.nextResultOffset < 2 ^ 16
  data_inside : position.offData + size ≤ buffer.nextDataOffset
  data_small : buffer.nextDataOffset < 2 ^ 64
  results_before : resultSize * buffer.nextResultOffset ≤ buffer.startOfDataOffset
  long_enough : buffer.startOfDataOffset + buffer.nextDataOffset ≤ memory.length
  memory_small : memory.length < 2 ^ 64

/-- The slot of a variable in the layout. -/
theorem Layout.inside {size : VarId → Nat} {buffer : SumReadBuffer} {memory : Bytes}
    (layout : Layout size buffer) (stored : buffer.buffer = some memory)
    (length_eq : memory.length = buffer.bufferSize) {front back : List VarId} {var : VarId}
    (vars_eq : buffer.vars = front ++ var :: back) (ptr : Option BufferPtr) :
    buffer.Inside ⟨ptr, front.length, (front.map size).sum⟩ (size var) memory := by
  have total := layout.buffer_size
  have bound := layout.size_lt
  have count := layout.count_le
  have small := layout.max_lt
  have sum_eq : (buffer.vars.map size).sum =
      (front.map size).sum + (size var + (back.map size).sum) := by simp [vars_eq]
  have length_vars : buffer.vars.length = front.length + (back.length + 1) := by simp [vars_eq]
  refine ⟨stored, ?_, ?_, ?_, ?_, ?_, ?_, length_eq ▸ bound⟩
  · rw [layout.result_offset]
    simp only
    omega
  · rw [layout.result_offset]
    omega
  · rw [layout.data_offset]
    simp only
    omega
  · rw [layout.data_offset]
    omega
  · rw [startOfDataOffset, layout.resultsSize_eq, layout.result_offset]
  · rw [startOfDataOffset, layout.resultsSize_eq, layout.data_offset, length_eq, total]

/-- Reading from the front of a slot copies the result code and the data there. -/
theorem Inside.readData {buffer : SumReadBuffer} {position : BufferDataPosition} {size : Nat}
    {memory : Bytes} (inside : buffer.Inside position size memory) {dataSize : Nat}
    (short : dataSize ≤ size) (result : Nat) (data : Bytes) :
    buffer.readData (u16 position.offResult) position.offData dataSize result data =
      (0, leNat (window (resultSize * position.offResult) resultSize memory),
        overwrite (window (buffer.startOfDataOffset + position.offData) dataSize memory) data) := by
  have result_inside := inside.result_inside
  have result_small := inside.result_small
  have data_inside := inside.data_inside
  have data_small := inside.data_small
  have long_enough := inside.long_enough
  have memory_small := inside.memory_small
  have small_index : u16 position.offResult = position.offResult := u16_of_lt (by omega)
  have no_wrap : u64 (position.offData + dataSize) = position.offData + dataSize :=
    u64_of_lt (by omega)
  have small_address : u64 (buffer.startOfDataOffset + position.offData) =
      buffer.startOfDataOffset + position.offData := u64_of_lt (by omega)
  simp only [SumReadBuffer.readData, inside.stored, small_index, no_wrap, small_address]
  rw [if_neg (by omega), if_neg (by omega)]

theorem Inside.length_data {buffer : SumReadBuffer} {position : BufferDataPosition} {size : Nat}
    {memory : Bytes} (inside : buffer.Inside position size memory) :
    (window (buffer.startOfDataOffset + position.offData) size memory).length = size := by
  have data_inside := inside.data_inside
  have long_enough := inside.long_enough
  exact length_window (by omega)

end SumReadBuffer

end AdsDriver
