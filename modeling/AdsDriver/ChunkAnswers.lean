import AdsDriver.InterleavingFrame

/-!
# Values in the buffers of chunks

A chunk's buffer holds a value for each of its variables that the device has reported no error for.
A sum-read replaces the values of one chunk after the other, and nothing else changes them.
-/

namespace AdsDriver

open ByteMemory EarlyExit

namespace ReadRequestChunk

/-- The values in the buffer of a chunk, without those that the device has reported an error for. -/
def answered (size : VarId → Nat) (chunk : ReadRequestChunk) : List (VarId × Bytes) :=
  (chunk.vars.zip (chunk.held size)).filterMap fun entry =>
    if entry.2.1 = 0 then some (entry.1, entry.2.2) else none

/-- The chunk with an answer in its buffer. -/
def holding (chunk : ReadRequestChunk) (answer : Bytes) : ReadRequestChunk :=
  { chunk with sumReadDataBuffer := { chunk.sumReadDataBuffer with buffer := some answer } }

/-- The part of a reply that the library copies into the buffer. -/
def answerOf (chunk : ReadRequestChunk) (reply : AdsReply) : Bytes :=
  reply.data.take (u32 chunk.sumReadDataBuffer.bufferSize)

theorem answered_congr {size : VarId → Nat} {before after : ReadRequestChunk}
    (vars_eq : after.vars = before.vars)
    (buffer_eq : after.sumReadDataBuffer.buffer = before.sumReadDataBuffer.buffer) :
    after.answered size = before.answered size := by
  rw [answered, held, buffer_eq, vars_eq]
  rfl

theorem mem_answered {size : VarId → Nat} {chunk : ReadRequestChunk} {front back : List VarId}
    {var : VarId} {data : Bytes} (vars_eq : chunk.vars = front ++ var :: back)
    (at_index : (chunk.held size)[front.length]? = some (0, data)) :
    (var, data) ∈ chunk.answered size := by
  have in_zip : (chunk.vars.zip (chunk.held size))[front.length]? = some (var, 0, data) := by
    rw [List.getElem?_zip_eq_some]
    exact ⟨by simp [vars_eq], at_index⟩
  exact List.mem_filterMap.mpr ⟨(var, 0, data), List.mem_of_getElem? in_zip, rfl⟩

/-- Two states of a chunk with the same variables and the same buffer. -/
def SameData (before after : ReadRequestChunk) : Prop :=
  after.vars = before.vars ∧ after.sumReadDataBuffer = before.sumReadDataBuffer

theorem answered_read {ads : Ads} {connection : Connection} {trace : Trace}
    {chunk : ReadRequestChunk} (stored : chunk.Stored) (size : VarId → Nat)
    (whole : chunk.sumReadDataBuffer.bufferSize ≤
      (chunk.answerOf (ads.event trace (chunk.readCall connection)).reply).length) :
    (chunk.read ads connection trace).result.answered size =
      (chunk.holding (chunk.answerOf (ads.event trace (chunk.readCall connection)).reply)).answered
        size := by
  obtain ⟨initialized, memory, in_buffer, length_eq⟩ := stored
  obtain ⟨previous, read_eq⟩ := read_of_stored initialized in_buffer ads connection trace rfl
  rw [read_eq]
  refine answered_congr rfl ?_
  exact congrArg some (overwrite_of_length_le (length_eq.trans_le whole))

end ReadRequestChunk

namespace SumReadRequest

/-- A snapshot without an error is a value in a valid buffer. -/
theorem Distributed.mem_answered {vars : Vars} {variableIds : List VarId}
    {given : List (VarId × BufferDataPosition)} {request : SumReadRequest}
    (distributed : Distributed vars variableIds given request vars) {var : VarId}
    (listed : var ∈ variableIds) {data : Bytes}
    (taken : (vars var).snapshot request.buffers = some (0, data)) :
    ∃ chunk ∈ request.getChunks, chunk.sumReadDataBuffer.bufferState = .valid ∧
      (var, data) ∈ chunk.answered fun other => (vars other).size := by
  obtain ⟨index, chunk, front, back, _, at_index, vars_eq, _, _, reader⟩ :=
    distributed.place listed
  obtain ⟨ptr, buffer, memory, at_ptr, live, in_buffer, valid, _, _⟩ :=
    ADSVariable.snapshot_eq_some taken
  obtain rfl : ptr = ⟨request.deallocations, portOf vars var, index⟩ := by
    simpa [reader] using at_ptr.symm
  obtain rfl : chunk.sumReadDataBuffer = buffer := by
    simpa [buffers_of_chunkSet at_index] using live
  obtain ⟨code, data', taken', _, held⟩ :=
    distributed.snapshot_eq at_index in_buffer valid vars_eq reader
  obtain ⟨rfl, rfl⟩ : 0 = code ∧ data = data' := by simpa [taken] using taken'
  exact ⟨chunk, mem_getChunks_iff.mpr ⟨_, List.mem_of_getElem? at_index⟩, valid,
    ReadRequestChunk.mem_answered vars_eq held⟩

/-- Two states of a request whose chunks have the same variables and the same buffers. -/
def SameData (before after : SumReadRequest) : Prop :=
  SortedMap.Related ReadRequestChunk.SameData before.chunksByAdsPort after.chunksByAdsPort

theorem SameData.refl (request : SumReadRequest) : request.SameData request :=
  SortedMap.Related.refl fun _ _ => ⟨rfl, rfl⟩

theorem sameData_deinitializeRequest (request : SumReadRequest) :
    request.SameData request.deinitializeRequest :=
  SortedMap.related_mapValues fun _ _ => ⟨rfl, rfl⟩

theorem sameData_initializeRequest (request : SumReadRequest) (vars : Vars) :
    request.SameData (request.initializeRequest vars).2 := by
  have loop := SortedMap.visitAll_always (ReadRequestChunk.initializeEntries vars)
    ReadRequestChunk.SameData request.chunksByAdsPort (fun _ _ _ => ⟨rfl, rfl⟩)
    (fun _ _ => ⟨rfl, rfl⟩) ()
  simp only [initializeRequest]
  split_ifs
  · exact .refl request
  · exact .refl request
  · exact loop
  · exact loop

theorem SameData.getElem? {before after : SumReadRequest} (same : before.SameData after)
    {index : Nat} {chunk : ReadRequestChunk} (found : after.getChunks[index]? = some chunk) :
    ∃ earlier, before.getChunks[index]? = some earlier ∧ earlier.SameData chunk :=
  getElem?_of_forall₂ same.flatten found

theorem setBuffersState_invalid {request : SumReadRequest} {chunk : ReadRequestChunk}
    (member : chunk ∈ (request.setBuffersState .invalid).getChunks) :
    chunk.sumReadDataBuffer.bufferState = .invalid := by
  simp only [getChunks, setBuffersState, SortedMap.values_mapValues, List.mem_flatten,
    List.mem_map] at member
  obtain ⟨_, ⟨chunks, _, rfl⟩, inside⟩ := member
  obtain ⟨before, _, rfl⟩ := List.mem_map.mp inside
  rfl

/-- A valid chunk after the read of one: another one that was there before, or the one that was read
with success. -/
theorem AllStored.readChunk_valid {ads : Ads} {connection : Connection} {index : Nat}
    {request : SumReadRequest} (stored : request.AllStored) {trace : Trace} {position : Nat}
    {after : ReadRequestChunk}
    (found : (request.readChunk ads connection index trace).2.1.getChunks[position]? = some after)
    (valid : after.sumReadDataBuffer.bufferState = .valid) :
    (position ≠ index ∧ request.getChunks[position]? = some after) ∨
      ∃ chunk, position = index ∧ request.getChunks[index]? = some chunk ∧
        (chunk.read ads connection trace).exit = none ∧
        (chunk.read ads connection trace).result = after := by
  unfold readChunk at found
  cases at_index : request.getChunks[index]? with
  | none =>
      rw [at_index] at found
      have distinct : position ≠ index := by
        rintro rfl
        cases at_index.symm.trans found
      exact .inl ⟨distinct, found⟩
  | some chunk =>
      rw [at_index] at found
      obtain ⟨port, in_set⟩ := mem_getChunks_iff.mp (List.mem_of_getElem? at_index)
      obtain ⟨initialized, memory, in_buffer, _⟩ := stored port chunk in_set
      obtain ⟨previous, read_eq⟩ :=
        ReadRequestChunk.read_of_stored initialized in_buffer ads connection trace rfl
      dsimp only at found
      split at found
      · rename_i left
        simp only [read_eq] at left
        split_ifs at left
        cases left
      · exact absurd (valid.symm.trans (setBuffersState_invalid (List.mem_of_getElem? found)))
          (by decide)
      · rename_i left
        simp only [getChunks, SortedMap.flatten_values_modifyAt] at found
        rw [← getChunks, List.getElem?_modify] at found
        by_cases here : index = position
        · subst here
          refine .inr ⟨chunk, rfl, rfl, left, ?_⟩
          simpa [at_index] using found
        · refine .inl ⟨fun same => here same.symm, ?_⟩
          simpa [here] using found

end SumReadRequest

end AdsDriver
