import AdsDriver.Allocation
import AdsDriver.Data.Runs

/-!
# The range checks of a sum-read buffer

`read_data` compares the end of the data it is asked for with the size of the data block.  The end
is a sum of two 64-bit numbers, which may wrap around.
-/

namespace AdsDriver

open ByteMemory Runs

namespace SumReadBuffer

/-- A buffer and the heap after `add_variable`, whatever it returns. -/
def afterAdd (this : BufferPtr) (state : SumReadBuffer × Heap) (var : VarId) :
    SumReadBuffer × Heap :=
  (state.1.addVariable this var state.2).2

/-- A new buffer and the heap after variables were added to it. -/
def filled (this : BufferPtr) (maxNvariables : UInt16) (softLimit : UInt64) (heap : Heap)
    (variableIds : List VarId) : SumReadBuffer × Heap :=
  run (afterAdd this)
    ({ maxNvariables := maxNvariables.toNat, maxDataSizeSoftLimit := softLimit.toNat }, heap)
    variableIds

/-- The size of the data block, as an integer. -/
def dataLength (vars : Vars) (buffer : SumReadBuffer) : Nat :=
  (buffer.vars.map fun var => (vars var).size).sum

/-- The offsets are those of a variable and of bytes of the data block. -/
def InRange (vars : Vars) (buffer : SumReadBuffer) (offsetResult : UInt16)
    (offsetData dataSize : UInt64) : Prop :=
  offsetResult.toNat < buffer.vars.length ∧
    offsetData.toNat + dataSize.toNat ≤ buffer.dataLength vars

/-- The bytes that `read_data` copies lie in the storage, the data behind the results. -/
def CopiesInside (buffer : SumReadBuffer) (offsetResult : UInt16) (offsetData dataSize : UInt64) :
    Prop :=
  ∃ memory, buffer.buffer = some memory ∧
    resultSize * (offsetResult.toNat + 1) ≤ resultSize * buffer.vars.length ∧
    resultSize * buffer.vars.length ≤ buffer.startOfDataOffset + offsetData.toNat ∧
    buffer.startOfDataOffset + offsetData.toNat + dataSize.toNat ≤ memory.length

/-- `read_data` succeeds exactly on offsets in range, and then copies inside the storage. -/
def ChecksExactly (vars : Vars) (buffer : SumReadBuffer) (offsetResult : UInt16)
    (offsetData dataSize : UInt64) : Prop :=
  ∀ result data,
    ((buffer.readData offsetResult.toNat offsetData.toNat dataSize.toNat result data).1 = 0 ↔
      buffer.InRange vars offsetResult offsetData dataSize) ∧
    ((buffer.readData offsetResult.toNat offsetData.toNat dataSize.toNat result data).1 = 0 →
      buffer.CopiesInside offsetResult offsetData dataSize)

/-- The end of the data wraps around to a place in the data block, for the result of a variable. -/
def WrapsInside (vars : Vars) (buffer : SumReadBuffer) (offsetResult : UInt16)
    (offsetData dataSize : UInt64) : Prop :=
  2 ^ 64 ≤ offsetData.toNat + dataSize.toNat ∧
    offsetData.toNat + dataSize.toNat - 2 ^ 64 ≤ buffer.dataLength vars ∧
    offsetResult.toNat < buffer.vars.length

/-- The state of a buffer before it gets its storage. -/
structure Filling (vars : Vars) (state : SumReadBuffer × Heap) : Prop where
  layout : state.1.Layout fun var => (vars var).size
  raw : state.1.bufferInitialized = false
  no_buffer : state.1.buffer = none
  same : vars.SameButReaders state.2.vars

theorem addVariable_refused {this : BufferPtr} {buffer : SumReadBuffer} {var : VarId} {heap : Heap}
    (refused : (buffer.addVariable this var heap).1 ≠ 0) :
    (buffer.addVariable this var heap).2.1 = buffer := by
  unfold addVariable at refused ⊢
  dsimp only at refused ⊢
  split_ifs at refused ⊢
  · rfl
  · rfl
  · rfl
  · rfl
  · rfl
  · exact absurd rfl refused

theorem addVariable_storage (this : BufferPtr) (buffer : SumReadBuffer) (var : VarId)
    (heap : Heap) :
    (buffer.addVariable this var heap).2.1.bufferInitialized = buffer.bufferInitialized ∧
      (buffer.addVariable this var heap).2.1.buffer = buffer.buffer := by
  unfold addVariable
  dsimp only
  split_ifs <;> exact ⟨rfl, rfl⟩

theorem Filling.add {vars : Vars} {state : SumReadBuffer × Heap} (filling : Filling vars state)
    (this : BufferPtr) (var : VarId) : Filling vars (afterAdd this state var) := by
  obtain ⟨initialized_eq, buffer_eq⟩ := state.1.addVariable_storage this var state.2
  have same := state.1.sameButReaders_addVariable this var state.2
  refine ⟨?_, initialized_eq.trans filling.raw, buffer_eq.trans filling.no_buffer,
    filling.same.trans same⟩
  by_cases added : (state.1.addVariable this var state.2).1 = 0
  · have sizes_eq : (fun other => (state.2.vars other).size) = fun other => (vars other).size :=
      funext filling.same.size_eq
    have kept := (addVariable_ok (by rw [sizes_eq]; exact filling.layout)
      (Prod.ext added rfl : state.1.addVariable this var state.2 = (0, _, _))).1
    rwa [sizes_eq] at kept
  · rw [afterAdd, addVariable_refused added]
    exact filling.layout

theorem filled_filling (this : BufferPtr) (maxNvariables : UInt16) (softLimit : UInt64)
    (heap : Heap) (variableIds : List VarId) :
    Filling heap.vars (filled this maxNvariables softLimit heap variableIds) := by
  refine run_invariant (Filling heap.vars) (fun state var filling => filling.add this var) ?_ _
  have small := maxNvariables.toNat_lt
  exact ⟨⟨rfl, rfl, rfl, Nat.two_pow_pos 64, Nat.zero_le _, small⟩, rfl, rfl, .refl _⟩

/-- How `initialize_buffer` ends for such a buffer. -/
theorem Filling.initializeBuffer_cases {vars : Vars} {state : SumReadBuffer × Heap}
    (filling : Filling vars state) :
    ((state.1.initializeBuffer state.2).1 ≠ 0 ∧
        ((state.1.initializeBuffer state.2).1 = epicsadsError ∨ state.1.vars = []) ∧
        (state.1.initializeBuffer state.2).2.1.buffer = none ∧
        (state.1.initializeBuffer state.2).2.1.vars = state.1.vars) ∨
      ((state.1.initializeBuffer state.2).1 = 0 ∧
        (state.1.initializeBuffer state.2).2.1 = { state.1 with
          buffer := some (List.replicate state.1.bufferSize 0)
          prevDataBuffer := some (List.replicate state.1.bufferSize 0)
          bufferInitialized := true }) := by
  have no_vars : state.1.getNumVariables = 0 → state.1.vars = [] := by
    intro none_there
    rw [filling.layout.getNumVariables_eq] at none_there
    exact List.length_eq_zero_iff.mp none_there
  unfold initializeBuffer
  dsimp only
  split_ifs with empty initialized refused refused_copy
  · have failed : epicsadsNoData ≠ 0 := by decide
    exact .inl ⟨failed, .inr (no_vars empty), filling.no_buffer, rfl⟩
  · exact absurd (initialized.symm.trans filling.raw) (by decide)
  · have failed : epicsadsError ≠ 0 := by decide
    exact .inl ⟨failed, .inl rfl, rfl, rfl⟩
  · have failed : epicsadsError ≠ 0 := by decide
    exact .inl ⟨failed, .inl rfl, rfl, rfl⟩
  · exact .inr ⟨rfl, rfl⟩

theorem checksExactly_of_none {vars : Vars} {buffer : SumReadBuffer}
    (no_buffer : buffer.buffer = none)
    (offsetResult : UInt16) (offsetData dataSize : UInt64) :
    buffer.ChecksExactly vars offsetResult offsetData dataSize ↔
      ¬ buffer.InRange vars offsetResult offsetData dataSize := by
  have refused (result : Nat) (data : Bytes) : (buffer.readData offsetResult.toNat offsetData.toNat
      dataSize.toNat result data).1 ≠ 0 := by
    simp [readData, no_buffer, epicsadsNotInitialized]
  constructor
  · exact fun exact_checks in_range => refused 0 [] ((exact_checks 0 []).1.mpr in_range)
  · exact fun outside result data => ⟨iff_of_false (refused result data) outside,
      fun success => absurd success (refused result data)⟩

/-- With storage the checks are exact unless the end of the data wraps around. -/
theorem checksExactly_of_stored {vars : Vars} {buffer : SumReadBuffer} {memory : Bytes}
    (layout : buffer.Layout fun var => (vars var).size) (stored : buffer.buffer = some memory)
    (length_eq : memory.length = buffer.bufferSize) (offsetResult : UInt16)
    (offsetData dataSize : UInt64) :
    buffer.ChecksExactly vars offsetResult offsetData dataSize ↔
      ¬ buffer.WrapsInside vars offsetResult offsetData dataSize := by
  have offset_lt := offsetData.toNat_lt
  have size_lt := dataSize.toNat_lt
  have total := layout.buffer_size
  have success_iff (result : Nat) (data : Bytes) :
      (buffer.readData offsetResult.toNat offsetData.toNat dataSize.toNat result data).1 = 0 ↔
        offsetResult.toNat < buffer.vars.length ∧
          u64 (offsetData.toNat + dataSize.toNat) ≤ buffer.dataLength vars := by
    simp only [readData, stored, layout.result_offset, layout.data_offset, dataLength]
    split_ifs with no_result no_data
    · simpa [epicsadsOutOfRange] using fun some_result => by omega
    · simpa [epicsadsOutOfRange] using fun _ => by omega
    · simp only [true_iff]
      omega
  have inside (in_range : buffer.InRange vars offsetResult offsetData dataSize) :
      buffer.CopiesInside offsetResult offsetData dataSize := by
    obtain ⟨some_result, some_data⟩ := in_range
    have start : buffer.startOfDataOffset = resultSize * buffer.vars.length := layout.resultsSize_eq
    refine ⟨memory, stored, Nat.mul_le_mul_left _ some_result, ?_, ?_⟩
    · rw [start]
      exact Nat.le_add_right _ _
    · rw [start, length_eq, total, Nat.add_assoc]
      exact Nat.add_le_add_left some_data _
  unfold ChecksExactly WrapsInside InRange
  constructor
  · rintro exact_checks ⟨wraps, ends_inside, some_result⟩
    have success := (success_iff 0 []).mpr ⟨some_result, by rw [u64]; omega⟩
    have in_range := ((exact_checks 0 []).1.mp success).2
    have bound := layout.size_lt
    rw [total] at bound
    unfold dataLength at in_range
    omega
  · intro no_wrap result data
    have exact_iff : (buffer.readData offsetResult.toNat offsetData.toNat dataSize.toNat result
        data).1 = 0 ↔ buffer.InRange vars offsetResult offsetData dataSize := by
      rw [success_iff]
      refine and_congr_right fun some_result => ?_
      by_cases small : offsetData.toNat + dataSize.toNat < 2 ^ 64
      · rw [u64_of_lt small]
      · have ends_outside : ¬ offsetData.toNat + dataSize.toNat - 2 ^ 64 ≤ buffer.dataLength vars :=
          fun ends_inside => no_wrap ⟨by omega, ends_inside, some_result⟩
        rw [u64]
        omega
    exact ⟨exact_iff, fun success => inside (exact_iff.mp success)⟩

/-- The checks of a buffer that was filled in any way: exact unless the end of the data wraps around
into the data block, or the storage was refused for offsets that are in range. -/
theorem checksExactly_iff (this : BufferPtr) (maxNvariables : UInt16) (softLimit : UInt64)
    (heap : Heap) (variableIds : List VarId) (offsetResult : UInt16)
    (offsetData dataSize : UInt64) :
    let filled := filled this maxNvariables softLimit heap variableIds
    let done := filled.1.initializeBuffer filled.2
    done.2.1.ChecksExactly heap.vars offsetResult offsetData dataSize ↔
      if done.1 = epicsadsError then
        ¬ filled.1.InRange heap.vars offsetResult offsetData dataSize
      else ¬ filled.1.WrapsInside heap.vars offsetResult offsetData dataSize := by
  have filling := filled_filling this maxNvariables softLimit heap variableIds
  generalize SumReadBuffer.filled this maxNvariables softLimit heap variableIds = state at filling ⊢
  dsimp only
  rcases filling.initializeBuffer_cases with ⟨_, why, no_buffer, vars_eq⟩ | ⟨success, after_eq⟩
  · have same : (state.1.initializeBuffer state.2).2.1.InRange heap.vars offsetResult offsetData
        dataSize ↔ state.1.InRange heap.vars offsetResult offsetData dataSize := by
      rw [InRange, dataLength, vars_eq]
      rfl
    rw [checksExactly_of_none no_buffer, same]
    split_ifs with refused
    · rfl
    · have empty := why.resolve_left refused
      refine iff_of_true ?_ ?_
      · rintro ⟨some_result, _⟩
        simp [empty] at some_result
      · rintro ⟨_, _, some_result⟩
        simp [empty] at some_result
  · have not_refused : (0 : Int) ≠ epicsadsError := by decide
    rw [success, if_neg not_refused, after_eq]
    have layout : Layout (fun var => (heap.vars var).size) { state.1 with
        buffer := some (List.replicate state.1.bufferSize 0)
        prevDataBuffer := some (List.replicate state.1.bufferSize 0)
        bufferInitialized := true } := by
      obtain ⟨result_offset, data_offset, buffer_size, size_lt, count_le, max_lt⟩ := filling.layout
      exact ⟨result_offset, data_offset, buffer_size, size_lt, count_le, max_lt⟩
    exact checksExactly_of_stored layout rfl List.length_replicate offsetResult offsetData dataSize

/-- The last two bytes before `2 ^ 64` are taken to lie in a data block of two bytes. -/
theorem end_wraps :
    let heap : Heap := ⟨fun _ => singleVariable .int .read 1, []⟩
    let filled := filled ⟨0, 851, 0⟩ 1 1000000 heap [0]
    let done := filled.1.initializeBuffer filled.2
    done.1 = 0 ∧ done.2.1.vars = [0] ∧ done.2.1.dataLength heap.vars = 2 ∧
      (done.2.1.readData 0 (2 ^ 64 - 1) 2 0 [9, 9]).1 = 0 ∧
      ¬ done.2.1.ChecksExactly heap.vars 0 0xFFFFFFFFFFFFFFFF 2 := by
  intro heap filled done
  have length_eq : done.2.1.dataLength heap.vars = 2 := by decide
  refine ⟨by decide, by decide, length_eq, by decide +kernel, fun exact_checks => ?_⟩
  have in_range := (exact_checks 0 [9, 9]).1.mp (by decide +kernel)
  have too_long := in_range.2
  rw [length_eq] at too_long
  exact absurd too_long (by decide +kernel)

end SumReadBuffer

end AdsDriver
