import AdsDriver.Data.Runs
import AdsDriver.SumRead

/-!
# Sequences of calls on a sum-read request

A request lives through any sequence of calls while the connection resolves and unresolves the
names of variables.  Every call that fails to allocate ends in `deallocate`, which resets the
readers of the variables that a chunk has recorded.  A chunk records a variable after the buffer has
set the variable's reader, so a failure in between leaves a reader behind.
-/

namespace AdsDriver

open Runs EarlyExit

/-- A call on a request, or what happens to the variables between calls. -/
inductive RequestCall
  /-- `allocate`, with the outcomes of the memory requests that it makes. -/
  | allocate (variableIds : List VarId) (memory : List Bool)
  | initializeRequest
  | read (connection : Connection)
  | deinitializeRequest
  | deallocate
  /-- The connection resolves some names and unresolves the others. -/
  | readdress (resolution : VarId → Option (UInt32 × UInt32))

/-- A request, the variables and the events so far. -/
structure RequestLife where
  request : SumReadRequest
  heap : Heap
  trace : Trace

namespace RequestLife

/-- A variable after its name was resolved to a group and an offset, or unresolved. -/
def readdressed (var : ADSVariable) : Option (UInt32 × UInt32) → ADSVariable
  | some (indexGroup, indexOffset) =>
      { var with addr := { var.addr with indexGroup, indexOffset, nameIsResolved := true } }
  | none =>
      { var with addr :=
        { var.addr with indexGroup := 0, indexOffset := 0, nameIsResolved := false } }

/-- A call: its return code, and the state after it. -/
def call (ads : Ads) (life : RequestLife) : RequestCall → Int × RequestLife
  | .allocate variableIds memory =>
      let done := life.request.allocate variableIds ⟨life.heap.vars, memory⟩
      (done.1, { life with request := done.2.1, heap := done.2.2 })
  | .initializeRequest =>
      let done := life.request.initializeRequest life.heap.vars
      (done.1, { life with request := done.2 })
  | .read connection =>
      let done := life.request.read ads connection life.trace
      (done.1, { life with request := done.2.1, trace := done.2.2 })
  | .deinitializeRequest => (0, { life with request := life.request.deinitializeRequest })
  | .deallocate =>
      let done := life.request.deallocate life.heap
      (0, { life with request := done.1, heap := done.2 })
  | .readdress resolution =>
      (0, { life with heap := { life.heap with
        vars := fun var => readdressed (life.heap.vars var) (resolution var) } })

/-- The state after a call. -/
def after (ads : Ads) (life : RequestLife) (call : RequestCall) : RequestLife :=
  (life.call ads call).2

/-- A new request, with variables that no request has seen. -/
structure Started (life : RequestLife) : Prop where
  fresh : life.request.Fresh
  readers : ∀ var, (life.heap.vars var).bufferReader = emptyBufferDataPosition

/-- A request that is not allocated is as constructed, and an allocated one distributes a list of
variables over buffers that have their storage. -/
structure Kept (life : RequestLife) : Prop where
  fresh : life.request.allocated = false → life.request.Fresh
  distributed : life.request.allocated = true → ∃ variableIds given,
    SumReadRequest.Distributed life.heap.vars variableIds given life.request life.heap.vars
  stored : life.request.allocated = true → life.request.AllStored

theorem Started.kept {life : RequestLife} (started : life.Started) : life.Kept :=
  ⟨fun _ => started.fresh, by simp [started.fresh.not_allocated],
    by simp [started.fresh.not_allocated]⟩

theorem Kept.initialized_allocated {life : RequestLife} (kept : life.Kept)
    (initialized : life.request.initialized = true) : life.request.allocated = true := by
  by_contra not_allocated
  have fresh := kept.fresh (by simpa using not_allocated)
  simp [fresh.not_initialized] at initialized

theorem Kept.sameLayout {life : RequestLife} (kept : life.Kept) {request : SumReadRequest}
    (allocated : life.request.allocated = true) (still_allocated : request.allocated = true)
    (same : life.request.SameLayout request) (trace : Trace) :
    Kept { life with request, trace } := by
  obtain ⟨variableIds, given, distributed⟩ := kept.distributed allocated
  exact ⟨by simp [still_allocated], fun _ => ⟨variableIds, given, distributed.sameLayout same⟩,
    fun _ => (kept.stored allocated).sameLayout same⟩

theorem fresh_deallocate {request : SumReadRequest} (max_pos : 0 < request.maxVarsPerBuffer)
    (max_lt : request.maxVarsPerBuffer < 2 ^ 16) (heap : Heap) :
    (request.deallocate heap).1.Fresh :=
  ⟨rfl, rfl, rfl, max_pos, max_lt⟩

end RequestLife

/-- Whether the memory request at a position is granted; past the end of the list all are. -/
def granted (memory : List Bool) (position : Nat) : Bool := memory.getD position true

theorem granted_tail (memory : List Bool) (position : Nat) :
    granted memory.tail position = granted memory (position + 1) := by
  cases memory <;> simp [granted]

theorem granted_drop (memory : List Bool) (first position : Nat) :
    granted (memory.drop first) position = granted memory (first + position) := by
  simp [granted, List.getD_eq_getElem?_getD]

namespace Heap

theorem request_fst (heap : Heap) : heap.request.1 = granted heap.memory 0 := by
  obtain ⟨vars, memory⟩ := heap
  cases memory <;> rfl

@[simp]
theorem memory_request (heap : Heap) : heap.request.2.memory = heap.memory.tail := rfl

@[simp]
theorem memory_setBufferReader (heap : Heap) (var : VarId) (position : BufferDataPosition) :
    (heap.setBufferReader var position).memory = heap.memory := rfl

end Heap

/-- A buffer with capacity and without storage takes a variable, provided that its vector grows. -/
theorem SumReadBuffer.addVariable_eq {size : VarId → Nat} {buffer : SumReadBuffer}
    (layout : buffer.Layout size) (raw : buffer.bufferInitialized = false)
    (limited : buffer.maxDataSizeSoftLimit = 1000000) (room : buffer.atCapacity = false)
    (this : BufferPtr) (var : VarId) (heap : Heap) :
    ∃ after, after.bufferInitialized = false ∧
      buffer.addVariable this var heap =
        if granted heap.memory 0 then
          (0, after, heap.request.2.setBufferReader var
            ⟨some this, buffer.nextResultOffset, buffer.nextDataOffset⟩)
        else (epicsadsError, buffer, heap.request.2) := by
  have size_lt := (heap.vars var).size_lt
  have count_le := layout.count_le
  have max_lt := layout.max_lt
  have total := layout.buffer_size
  obtain ⟨data_room, count_room⟩ : ¬ buffer.dataSize ≥ buffer.maxDataSizeSoftLimit ∧
      ¬ buffer.nextResultOffset ≥ buffer.maxNvariables := by
    simpa [atCapacity] using room
  rw [layout.dataSize_eq] at data_room
  rw [layout.result_offset] at count_room
  have not_max : ¬ buffer.getNumVariables = buffer.maxNvariables := by
    rw [layout.getNumVariables_eq]
    omega
  have small : buffer.bufferSize + (heap.vars var).size + 4 < 2 ^ 64 := by
    simp only [resultSize] at total
    omega
  have grows : ¬ u64 (buffer.bufferSize + (heap.vars var).size + resultSize) <
      buffer.bufferSize := by
    rw [resultSize, u64_of_lt small]
    omega
  refine ⟨{ buffer with
      vars := buffer.vars ++ [var]
      nextResultOffset := u16 (buffer.nextResultOffset + 1)
      nextDataOffset := u64 (buffer.nextDataOffset + (heap.vars var).size)
      bufferSize := u64 (buffer.bufferSize + (heap.vars var).size + resultSize) }, raw, ?_⟩
  unfold addVariable
  rw [if_neg (by simp [raw]), if_neg not_max, if_neg (by simp [room])]
  dsimp only
  rw [if_neg grows, heap.request_fst]
  cases granted heap.memory 0 <;> rfl

/-- How adding a variable to a chunk ends.  `slot` is where the variable's reader points once the
buffer has taken it. -/
inductive Added (var : VarId) (slot : BufferDataPosition) (chunk : ReadRequestChunk) (heap : Heap) :
    Bool × ReadRequestChunk × Heap → Prop
  /-- The buffer could not take the variable. -/
  | refused {after : Heap} (first : granted heap.memory 0 = false)
      (vars_eq : after.vars = heap.vars) :
      Added var slot chunk heap (true, chunk, after)
  /-- The buffer has taken it, but the chunk could not record it. -/
  | torn {chunk' : ReadRequestChunk} {after : Heap} (first : granted heap.memory 0 = true)
      (later : granted heap.memory 1 = false ∨ granted heap.memory 2 = false)
      (same : chunk'.vars = chunk.vars)
      (vars_eq : after.vars = (heap.setBufferReader var slot).vars) :
      Added var slot chunk heap (true, chunk', after)
  | recorded {chunk' : ReadRequestChunk} {after : Heap} (first : granted heap.memory 0 = true)
      (second : granted heap.memory 1 = true) (third : granted heap.memory 2 = true)
      (raw : chunk'.sumReadDataBuffer.bufferInitialized = false)
      (memory_eq : after.memory = heap.memory.drop 3) :
      Added var slot chunk heap (false, chunk', after)

theorem ReadRequestChunk.addVariable_added {size : VarId → Nat} {maxVariables port : Nat}
    {chunk : ReadRequestChunk} (sound : chunk.Sound size maxVariables port)
    (raw : chunk.sumReadDataBuffer.bufferInitialized = false)
    (room : chunk.sumReadDataBuffer.atCapacity = false) (this : BufferPtr) (var : VarId)
    (heap : Heap) :
    Added var ⟨some this, chunk.sumReadDataBuffer.nextResultOffset,
      chunk.sumReadDataBuffer.nextDataOffset⟩ chunk heap (chunk.addVariable this var heap) := by
  obtain ⟨grown, grown_raw, added_eq⟩ :=
    SumReadBuffer.addVariable_eq sound.layout raw sound.limit_eq room this var heap
  unfold addVariable
  rw [added_eq]
  cases first : granted heap.memory 0 with
  | false =>
      simp only [Bool.false_eq_true, if_false]
      rw [if_pos (by decide)]
      exact .refused first rfl
  | true =>
      simp only [if_true, Heap.request_fst, Heap.memory_request, Heap.memory_setBufferReader,
        granted_tail]
      rw [if_neg (by simp)]
      cases second : granted heap.memory 1 with
      | false => exact .torn first (.inl second) rfl rfl
      | true =>
          cases third : granted heap.memory 2 with
          | false => exact .torn first (.inr third) rfl rfl
          | true =>
              refine .recorded first second third grown_raw ?_
              simp [← List.drop_one, List.drop_drop]

namespace SumReadRequest

/-- No buffer of the request has storage yet. -/
def Raw (request : SumReadRequest) : Prop :=
  ∀ port, ∀ chunk ∈ request.chunkSet port, chunk.sumReadDataBuffer.bufferInitialized = false

/-- Where the chunk of a buffer stands in `get_chunks`. -/
def position (request : SumReadRequest) (ptr : BufferPtr) : Nat :=
  request.chunksByAdsPort.before ptr.port + ptr.index

/-- A live buffer belongs to a chunk. -/
theorem chunk_of_buffers {request : SumReadRequest} {ptr : BufferPtr} {buffer : SumReadBuffer}
    (live : request.buffers ptr = some buffer) :
    ∃ chunk, (request.chunkSet ptr.port)[ptr.index]? = some chunk ∧
      chunk.sumReadDataBuffer = buffer ∧
      request.getChunks[request.position ptr]? = some chunk := by
  unfold buffers at live
  split_ifs at live
  cases found : request.chunksByAdsPort.find? ptr.port with
  | none => simp [found] at live
  | some chunks =>
      obtain ⟨chunk, at_index, buffer_eq⟩ : ∃ chunk, chunks[ptr.index]? = some chunk ∧
          chunk.sumReadDataBuffer = buffer := by
        simpa [found] using live
      have inside : ptr.index < chunks.length := (List.getElem?_eq_some_iff.mp at_index).1
      refine ⟨chunk, by simpa [chunkSet, found] using at_index, buffer_eq, ?_⟩
      rw [getChunks, position, SortedMap.getElem?_flatten_values found inside, at_index]

/-- The variables that some chunk has recorded. -/
def recorded (request : SumReadRequest) : List VarId :=
  request.getChunks.flatMap ReadRequestChunk.vars

theorem mem_recorded_iff {request : SumReadRequest} {var : VarId} :
    var ∈ request.recorded ↔ ∃ port, ∃ chunk ∈ request.chunkSet port, var ∈ chunk.vars := by
  simp only [recorded, List.mem_flatMap, mem_getChunks_iff]
  constructor
  · rintro ⟨chunk, ⟨port, in_set⟩, held⟩
    exact ⟨port, chunk, in_set, held⟩
  · rintro ⟨port, chunk, in_set, held⟩
    exact ⟨chunk, ⟨port, in_set⟩, held⟩

theorem Distributed.mem_recorded_iff {vars after : Vars} {seen : List VarId}
    {given : List (VarId × BufferDataPosition)} {request : SumReadRequest}
    (distributed : Distributed vars seen given request after) (var : VarId) :
    var ∈ request.recorded ↔ var ∈ seen := by
  constructor
  · intro member
    obtain ⟨chunk, in_chunks, held⟩ := List.mem_flatMap.mp member
    exact distributed.mem_of_chunk in_chunks held
  · intro member
    obtain ⟨index, chunk, front, back, _, at_index, vars_eq, _⟩ := distributed.place member
    rw [SumReadRequest.mem_recorded_iff]
    exact ⟨_, chunk, List.mem_of_getElem? at_index, by simp [vars_eq]⟩

/-- Deallocation resets the readers of the recorded variables and no others. -/
theorem reader_deallocate (request : SumReadRequest) (heap : Heap) (var : VarId) :
    ((request.deallocate heap).2.vars var).bufferReader =
      if var ∈ request.recorded then emptyBufferDataPosition
      else (heap.vars var).bufferReader := by
  have same : request.deinitializeRequest.getChunks.flatMap ReadRequestChunk.vars =
      request.recorded := by
    rw [recorded, getChunks, deinitializeRequest, SortedMap.values_mapValues, ← List.map_flatten,
      List.flatMap_map]
    rfl
  have loop (ids : List VarId) (heap : Heap) :
      ((ids.foldl (fun heap var => heap.setBufferReader var emptyBufferDataPosition) heap).vars
        var).bufferReader =
        if var ∈ ids then emptyBufferDataPosition else (heap.vars var).bufferReader := by
    induction ids generalizing heap with
    | nil => simp
    | cons first rest ih =>
        rw [List.foldl_cons, ih]
        by_cases here : var = first
        · subst here
          simp [ADSVariable.setBufferReader]
        · simp [here, Heap.setBufferReader_of_ne _ here]
  rw [deallocate, same]
  exact loop request.recorded heap

theorem mem_recorded_insert {request : SumReadRequest} {port : Nat} {chunks : List ReadRequestChunk}
    {var : VarId} (same : (∃ chunk ∈ chunks, var ∈ chunk.vars) ↔
      ∃ chunk ∈ request.chunkSet port, var ∈ chunk.vars) :
    var ∈ { request with chunksByAdsPort := request.chunksByAdsPort.insert port chunks }.recorded ↔
      var ∈ request.recorded := by
  simp only [SumReadRequest.mem_recorded_iff, chunkSet_insert]
  constructor
  · rintro ⟨other, chunk, member, held⟩
    split_ifs at member with here
    · obtain ⟨before, in_before, held⟩ := same.mp ⟨chunk, member, held⟩
      exact ⟨port, before, in_before, held⟩
    · exact ⟨other, chunk, member, held⟩
  · rintro ⟨other, chunk, member, held⟩
    by_cases here : other = port
    · subst here
      obtain ⟨after, in_after, held⟩ := same.mpr ⟨chunk, member, held⟩
      exact ⟨other, after, by rwa [if_pos rfl], held⟩
    · exact ⟨other, chunk, by rwa [if_neg here], held⟩

theorem openChunk_room {maxVariables : Nat} {port : UInt16}
    (max_pos : 0 < maxVariables) (max_lt : maxVariables < 2 ^ 16)
    (chunkSet : List ReadRequestChunk) :
    (openChunk (.new port maxVariables) chunkSet).2.sumReadDataBuffer.atCapacity = false := by
  rcases openChunk_cases (.new port maxVariables) chunkSet with
    ⟨opened, _⟩ | ⟨front, back, rfl, opened, room⟩
  · rw [opened, (ReadRequestChunk.sound_new (fun _ => 0) max_lt port).atCapacity_eq]
    simp [ReadRequestChunk.isFull, ReadRequestChunk.new, max_pos.ne']
  · rw [opened, room]

theorem mem_openChunk_iff {chunkSet : List ReadRequestChunk} {new chunk : ReadRequestChunk}
    (fresh : new.vars = []) (same : chunk.vars = (openChunk new chunkSet).2.vars) {var : VarId} :
    (∃ other ∈ (openChunk new chunkSet).1 ++ [chunk], var ∈ other.vars) ↔
      ∃ other ∈ chunkSet, var ∈ other.vars := by
  rcases openChunk_cases new chunkSet with ⟨opened, _⟩ | ⟨front, back, rfl, opened, _⟩
  · rw [opened] at same ⊢
    simp [same, fresh]
  · rw [opened] at same ⊢
    simp [same]

/-- The chunk that takes the next variable can take it. -/
theorem Building.opened {vars : Vars} {seen : List VarId}
    {given : List (VarId × BufferDataPosition)} {request : SumReadRequest} {after : Vars}
    (building : Building vars seen given request after) (raw : request.Raw) (port : UInt16) :
    ∃ front back, openChunk (.new port request.maxVarsPerBuffer) (request.chunkSet port.toNat) =
        (front, back) ∧
      back.Sound (fun other => (vars other).size) request.maxVarsPerBuffer port.toNat ∧
      back.sumReadDataBuffer.bufferInitialized = false ∧
      back.sumReadDataBuffer.atCapacity = false ∧
      (∀ other ∈ front, other ∈ request.chunkSet port.toNat) ∧
      ∀ chunk : ReadRequestChunk, chunk.vars = back.vars → ∀ var,
        (∃ other ∈ front ++ [chunk], var ∈ other.vars) ↔
          ∃ other ∈ request.chunkSet port.toNat, var ∈ other.vars := by
  refine ⟨(openChunk _ _).1, (openChunk _ _).2, rfl,
    sound_openChunk building.max_lt (building.sound port.toNat), ?_,
    openChunk_room building.max_pos building.max_lt _,
    fun other => mem_of_mem_openChunk _ other _, fun chunk same var => mem_openChunk_iff rfl same⟩
  rcases openChunk_cases (.new port request.maxVarsPerBuffer) (request.chunkSet port.toNat) with
    ⟨opened, _⟩ | ⟨front, back, set_eq, opened, _⟩
  · rw [opened]
    rfl
  · rw [opened]
    exact raw port.toNat back (by simp [set_eq])

/-- How a pass of the loop over variables ends. -/
theorem Building.added {vars : Vars} {seen : List VarId} {given : List (VarId × BufferDataPosition)}
    {request : SumReadRequest} {heap : Heap} (building : Building vars seen given request heap.vars)
    (raw : request.Raw) (var : VarId) :
    (request.addVariable var heap).1 = false ∧
        (∀ position < 3, granted heap.memory position = true) ∧
        (request.addVariable var heap).2.1.Raw ∧
        (request.addVariable var heap).2.2.memory = heap.memory.drop 3 ∨
      (request.addVariable var heap).1 = true ∧
        (∀ other, other ∈ (request.addVariable var heap).2.1.recorded ↔ other ∈ seen) ∧
        (granted heap.memory 0 = false ∧
            (request.addVariable var heap).2.2.vars = heap.vars ∨
          granted heap.memory 0 = true ∧
            (granted heap.memory 1 = false ∨ granted heap.memory 2 = false) ∧
            ∃ slot ≠ emptyBufferDataPosition,
              (request.addVariable var heap).2.2.vars = (heap.setBufferReader var slot).vars) := by
  obtain ⟨front, back, opened, back_sound, back_raw, back_room, in_front, recorded_iff⟩ :=
    building.opened raw (heap.vars var).addr.adsPort
  have ended := ReadRequestChunk.addVariable_added back_sound back_raw back_room
    ⟨request.deallocations, (heap.vars var).addr.adsPort.toNat, front.length⟩ var heap
  have seen_iff := building.toDistributed.mem_recorded_iff
  unfold addVariable
  dsimp only
  rw [opened]
  dsimp only
  generalize ReadRequestChunk.addVariable _ back var heap = result at ended ⊢
  cases ended with
  | refused first vars_eq =>
      refine .inr ⟨rfl, fun other => ?_, .inl ⟨first, vars_eq⟩⟩
      rw [mem_recorded_insert (recorded_iff back rfl other), seen_iff]
  | @torn chunk after first later same_vars vars_eq =>
      refine .inr ⟨rfl, fun other => ?_, .inr ⟨first, later, _, ?_, vars_eq⟩⟩
      · rw [mem_recorded_insert (recorded_iff chunk same_vars other), seen_iff]
      · simp [emptyBufferDataPosition]
  | recorded first second third chunk_raw memory_eq =>
      refine .inl ⟨rfl, ?_, ?_, memory_eq⟩
      · intro position inside
        obtain rfl | rfl | rfl : position = 0 ∨ position = 1 ∨ position = 2 := by omega
        · exact first
        · exact second
        · exact third
      · intro port other member
        rw [chunkSet_insert] at member
        split_ifs at member with here
        · rcases List.mem_append.mp member with earlier | last
          · exact raw _ other (in_front other earlier)
          · rw [List.mem_singleton.mp last]
            exact chunk_raw
        · exact raw port other member

/-- How the loop over `variableIds` is left by a throw at one of them.  The variables before it are
recorded; its reader stays behind when the buffer has taken it. -/
structure Interrupted (vars : Vars) (seen variableIds : List VarId) (memory : List Bool)
    (index : Nat) (var : VarId) (after : SumReadRequest) (heap : Heap) : Prop where
  at_index : variableIds[index]? = some var
  recorded_iff : ∀ other, other ∈ after.recorded ↔ other ∈ seen ++ variableIds.take index
  granted_before : ∀ position < 3 * index, granted memory position = true
  refused : granted memory (3 * index) = false ∧
      (∀ other ∉ seen ++ variableIds.take index, heap.vars other = vars other) ∨
    granted memory (3 * index) = true ∧
      (granted memory (3 * index + 1) = false ∨ granted memory (3 * index + 2) = false) ∧
      (∀ other ∉ seen ++ variableIds.take index, other ≠ var → heap.vars other = vars other) ∧
      (heap.vars var).bufferReader ≠ emptyBufferDataPosition

/-- The loop over variables completes when the vectors of all chunks grow, or is interrupted. -/
theorem Building.ends {vars : Vars} {seen : List VarId} {given : List (VarId × BufferDataPosition)}
    {request after : SumReadRequest} {heap heap' : Heap} {threw : Bool}
    (building : Building vars seen given request heap.vars) (raw : request.Raw)
    {variableIds : List VarId}
    (added : addVariables variableIds request heap = (threw, after, heap')) :
    if threw then ∃ index var, Interrupted vars seen variableIds heap.memory index var after heap'
    else ∀ position < 3 * variableIds.length, granted heap.memory position = true := by
  induction variableIds generalizing seen given request heap with
  | nil =>
      obtain ⟨rfl, -, -⟩ : false = threw ∧ request = after ∧ heap = heap' := by
        simpa [addVariables] using added
      simp
  | cons var rest ih =>
      rw [addVariables] at added
      rcases building.added raw var with ⟨returned, first, rest_raw, memory_eq⟩ |
        ⟨thrown, recorded_iff, refused⟩
      · rw [if_neg (by simp [returned])] at added
        obtain ⟨next, _⟩ := building.step (Prod.ext returned rfl : request.addVariable var heap =
          (false, (request.addVariable var heap).2.1, (request.addVariable var heap).2.2))
        have later := ih next rest_raw added
        rw [memory_eq] at later
        have shifted {count : Nat} (granted_later : ∀ position < 3 * count,
            granted (heap.memory.drop 3) position = true) :
            ∀ position < 3 * (count + 1), granted heap.memory position = true := by
          intro position inside
          by_cases early : position < 3
          · exact first position early
          · have grants := granted_later (position - 3) (by omega)
            rwa [granted_drop, Nat.add_sub_cancel' (by omega)] at grants
        cases threw with
        | false => exact shifted later
        | true =>
            obtain ⟨index, failed, interrupted⟩ := later
            have position_eq (offset : Nat) : granted (heap.memory.drop 3) (3 * index + offset) =
                granted heap.memory (3 * (index + 1) + offset) := by
              rw [granted_drop]
              congr 1
              omega
            refine ⟨index + 1, failed, by simpa using interrupted.at_index, ?_,
              shifted interrupted.granted_before, ?_⟩
            · intro other
              rw [interrupted.recorded_iff, List.take_succ_cons]
              simp
            · have refused := interrupted.refused
              have at_start : granted (heap.memory.drop 3) (3 * index) =
                  granted heap.memory (3 * (index + 1)) := position_eq 0
              rw [at_start, position_eq, position_eq] at refused
              simpa using refused
      · rw [if_pos thrown] at added
        rw [added] at thrown recorded_iff refused
        obtain rfl : threw = true := thrown
        refine ⟨0, var, rfl, by simpa using recorded_iff, by simp, ?_⟩
        rcases refused with ⟨first, vars_eq⟩ | ⟨first, later, slot, pointing, vars_eq⟩
        · refine .inl ⟨first, fun other unseen => ?_⟩
          rw [vars_eq]
          exact building.untouched other (by simpa using unseen)
        · refine .inr ⟨first, later, fun other unseen distinct => ?_, ?_⟩
          · rw [vars_eq, Heap.setBufferReader_of_ne _ distinct]
            exact building.untouched other (by simpa using unseen)
          · rw [vars_eq, Heap.setBufferReader_self]
            exact pointing

end SumReadRequest

namespace SumReadRequest

theorem SameLayout.recorded_eq {before after : SumReadRequest} (same : before.SameLayout after) :
    after.recorded = before.recorded := by
  have vars_eq := map_eq_of_forall₂ (f := ReadRequestChunk.vars) (g := ReadRequestChunk.vars)
    (same.chunks.flatten.imp fun {_ _} chunk => chunk.vars_eq.symm)
  rw [recorded, recorded, List.flatMap, List.flatMap, getChunks, getChunks, vars_eq]

theorem Fresh.recorded_eq {request : SumReadRequest} (fresh : request.Fresh) :
    request.recorded = [] := by
  rw [recorded, getChunks, fresh.no_chunks]
  rfl

theorem addVariables_max (variableIds : List VarId) (request : SumReadRequest) (heap : Heap) :
    (addVariables variableIds request heap).2.1.maxVarsPerBuffer = request.maxVarsPerBuffer := by
  induction variableIds generalizing request heap with
  | nil => rfl
  | cons var rest ih =>
      rw [addVariables]
      split_ifs
      · rfl
      · rw [ih]
        rfl

end SumReadRequest

namespace RequestLife

variable {life : RequestLife}

/-- A variable's reader names a live buffer with storage, whose slot at the result index belongs to
the variable. -/
def OwnsSlot (life : RequestLife) (var : VarId) : Prop :=
  ∃ ptr buffer, (life.heap.vars var).bufferReader.buffer = some ptr ∧
    life.request.buffers ptr = some buffer ∧ buffer.bufferInitialized = true ∧
    buffer.vars[(life.heap.vars var).bufferReader.offResult]? = some var

/-- No variable points into a dead buffer. -/
structure Safe (life : RequestLife) : Prop where
  initialized_allocated : life.request.initialized = true → life.request.allocated = true
  reader : ∀ var, (life.heap.vars var).bufferReader = emptyBufferDataPosition ∨ life.OwnsSlot var
  unallocated : life.request.allocated = false → life.Started

theorem Kept.allocated_of_recorded (kept : life.Kept) {var : VarId}
    (recorded : var ∈ life.request.recorded) : life.request.allocated = true := by
  by_contra not_allocated
  rw [(kept.fresh (by simpa using not_allocated)).recorded_eq] at recorded
  simp at recorded

theorem Kept.placed (kept : life.Kept) {var : VarId} (recorded : var ∈ life.request.recorded) :
    (life.heap.vars var).Placed life.request.buffers := by
  have allocated := kept.allocated_of_recorded recorded
  obtain ⟨variableIds, given, distributed⟩ := kept.distributed allocated
  exact distributed.placed (kept.stored allocated) ((distributed.mem_recorded_iff var).mp recorded)

theorem Kept.owns_slot (kept : life.Kept) {var : VarId} (recorded : var ∈ life.request.recorded) :
    life.OwnsSlot var := by
  have allocated := kept.allocated_of_recorded recorded
  obtain ⟨variableIds, given, distributed⟩ := kept.distributed allocated
  obtain ⟨index, chunk, front, back, _, at_index, vars_eq, _, _, reader⟩ :=
    distributed.place ((distributed.mem_recorded_iff var).mp recorded)
  have member := List.mem_of_getElem? at_index
  refine ⟨_, chunk.sumReadDataBuffer, by rw [reader],
    SumReadRequest.buffers_of_chunkSet at_index, (kept.stored allocated _ chunk member).1, ?_⟩
  rw [reader, (distributed.sound _ chunk member).vars_eq, vars_eq]
  simp

theorem Kept.recorded_of_slot (kept : life.Kept) {var : VarId} (owns : life.OwnsSlot var) :
    var ∈ life.request.recorded := by
  obtain ⟨ptr, buffer, _, live, _, at_slot⟩ := owns
  obtain ⟨chunk, at_index, rfl, _⟩ := SumReadRequest.chunk_of_buffers live
  have member := List.mem_of_getElem? at_index
  have allocated : life.request.allocated = true := by
    by_contra not_allocated
    have fresh := kept.fresh (by simpa using not_allocated)
    simp [SumReadRequest.chunkSet, fresh.no_chunks] at member
  obtain ⟨variableIds, given, distributed⟩ := kept.distributed allocated
  rw [SumReadRequest.mem_recorded_iff]
  refine ⟨ptr.port, chunk, member, ?_⟩
  rw [← (distributed.sound _ chunk member).vars_eq]
  exact List.mem_of_getElem? at_slot

theorem Kept.safe_iff (kept : life.Kept) :
    life.Safe ↔ ∀ var ∉ life.request.recorded,
      (life.heap.vars var).bufferReader = emptyBufferDataPosition := by
  constructor
  · intro safe var unrecorded
    exact (safe.reader var).resolve_right fun owns => unrecorded (kept.recorded_of_slot owns)
  · intro unrecorded
    refine ⟨kept.initialized_allocated, fun var => ?_, fun not_allocated => ?_⟩
    · by_cases recorded : var ∈ life.request.recorded
      · exact .inr (kept.owns_slot recorded)
      · exact .inl (unrecorded var recorded)
    · have fresh := kept.fresh not_allocated
      exact ⟨fresh, fun var => unrecorded var (by simp [fresh.recorded_eq])⟩

/-! ## One call -/

theorem samePlaces_readdressed (vars : Vars) (resolution : VarId → Option (UInt32 × UInt32)) :
    vars.SamePlaces fun var => readdressed (vars var) (resolution var) := by
  refine ⟨fun var => ?_, fun var => ?_, fun var => ?_⟩ <;> cases resolution var <;> rfl

/-- How an `allocate` of a request that is not allocated ends. -/
inductive Allocated (heap : Heap) (variableIds : List VarId) :
    Int × SumReadRequest × Heap → Prop
  | succeeded {request : SumReadRequest} {after : Heap}
      (kept : ∀ trace, Kept ⟨request, after, trace⟩)
      (allocated : request.allocated = true)
      (recorded_iff : ∀ var, var ∈ request.recorded ↔ var ∈ variableIds)
      (granted_all : ∀ position < 3 * variableIds.length, granted heap.memory position = true)
      (untouched : ∀ var ∉ variableIds, after.vars var = heap.vars var) :
      Allocated heap variableIds (0, request, after)
  /-- The buffers got no storage. -/
  | unstored {request : SumReadRequest} {after : Heap} (fresh : request.Fresh)
      (granted_all : ∀ position < 3 * variableIds.length, granted heap.memory position = true)
      (readers : ∀ var, (after.vars var).bufferReader =
        if var ∈ variableIds then emptyBufferDataPosition else (heap.vars var).bufferReader) :
      Allocated heap variableIds (epicsadsError, request, after)
  | interrupted {request built : SumReadRequest} {after between : Heap} {index : Nat} {var : VarId}
      (fresh : request.Fresh) (interrupted : SumReadRequest.Interrupted heap.vars [] variableIds
        heap.memory index var built between)
      (readers : ∀ other, (after.vars other).bufferReader =
        if other ∈ variableIds.take index then emptyBufferDataPosition
        else (between.vars other).bufferReader) :
      Allocated heap variableIds (epicsadsError, request, after)

theorem recorded_initializeBuffers {built : SumReadRequest} {between state : Heap}
    {exit : Option Int}
    {chunks : SortedMap Nat (List ReadRequestChunk)}
    (loop : built.chunksByAdsPort.visitAll ReadRequestChunk.initializeBuffer between =
      ⟨exit, state, chunks⟩) (flag : Bool) :
    ({ built with chunksByAdsPort := chunks, allocated := flag }).recorded = built.recorded := by
  have always := SortedMap.visitAll_always ReadRequestChunk.initializeBuffer
    (fun before after => before.vars = after.vars) built.chunksByAdsPort
    (fun _ _ _ => rfl) (fun _ _ => rfl) between
  rw [loop] at always
  have vars_eq := map_eq_of_forall₂ (f := ReadRequestChunk.vars) (g := ReadRequestChunk.vars)
    always.flatten
  rw [SumReadRequest.recorded, SumReadRequest.recorded, List.flatMap, List.flatMap,
    SumReadRequest.getChunks, SumReadRequest.getChunks, vars_eq]

theorem allocate_ends {request : SumReadRequest} (fresh : request.Fresh) (variableIds : List VarId)
    (heap : Heap) : Allocated heap variableIds (request.allocate variableIds heap) := by
  have raw : request.Raw := by
    intro port chunk member
    simp [SumReadRequest.chunkSet, fresh.no_chunks] at member
  have building := fresh.building heap.vars
  rcases added : request.addVariables variableIds heap with ⟨threw, built, between⟩
  have ends := building.ends raw added
  have max_eq := SumReadRequest.addVariables_max variableIds request heap
  rw [added] at max_eq
  have max_pos : 0 < built.maxVarsPerBuffer := max_eq ▸ fresh.max_pos
  have max_lt : built.maxVarsPerBuffer < 2 ^ 16 := max_eq ▸ fresh.max_lt
  cases threw with
  | true =>
      obtain ⟨index, var, interrupted⟩ := ends
      have done_eq : request.allocate variableIds heap =
          (epicsadsError, built.deallocate between) := by
        simp [SumReadRequest.allocate, fresh.not_allocated, added]
      rw [done_eq]
      refine .interrupted (fresh_deallocate max_pos max_lt between) interrupted fun other =>
        (SumReadRequest.reader_deallocate built between other).trans ?_
      simp only [interrupted.recorded_iff, List.nil_append]
  | false =>
      obtain ⟨built_ok, -⟩ := building.loop added
      rw [List.nil_append] at built_ok
      have recorded_iff := built_ok.toDistributed.mem_recorded_iff
      rcases loop : built.chunksByAdsPort.visitAll ReadRequestChunk.initializeBuffer between with
        ⟨exit, state, chunks⟩
      cases exit with
      | some rc =>
          have vars_kept : (built.chunksByAdsPort.visitAll ReadRequestChunk.initializeBuffer
              between).state.vars = between.vars :=
            SortedMap.visitAll_state _ (fun state => state.vars = between.vars) _
              (fun chunk _ state same =>
                (SumReadBuffer.initializeBuffer_vars _ state).trans same) rfl
          rw [loop] at vars_kept
          have done_eq : request.allocate variableIds heap =
              (epicsadsError, { built with chunksByAdsPort := chunks }.deallocate state) := by
            simp [SumReadRequest.allocate, fresh.not_allocated, added, loop]
          rw [done_eq]
          refine .unstored (fresh_deallocate max_pos max_lt state) ends fun var =>
            (SumReadRequest.reader_deallocate _ state var).trans ?_
          rw [recorded_initializeBuffers loop built.allocated]
          simp only [recorded_iff]
          split_ifs with listed
          · rfl
          · have untouched := built_ok.untouched var listed
            rw [← untouched, ← vars_kept]
      | none =>
          have done_eq : request.allocate variableIds heap =
              (0, { built with chunksByAdsPort := chunks, allocated := true }, state) := by
            simp [SumReadRequest.allocate, fresh.not_allocated, added, loop]
          obtain ⟨distributed, stored, same, untouched, _⟩ :=
            SumReadRequest.allocate_ok fresh done_eq
          have rebased : SumReadRequest.Distributed state.vars variableIds _ _ state.vars :=
            distributed.rebase same.size_eq (fun var => by rw [same.addr_eq]) fun _ => rfl
          rw [done_eq]
          refine .succeeded
            (fun _ => ⟨by simp, fun _ => ⟨variableIds, _, rebased⟩, fun _ => stored⟩)
            rfl (fun var => ?_) ends untouched
          rw [recorded_initializeBuffers loop true, recorded_iff]

theorem kept_of_fresh {request : SumReadRequest} (fresh : request.Fresh) (heap : Heap)
    (trace : Trace) : Kept ⟨request, heap, trace⟩ :=
  ⟨fun _ => fresh, by simp [fresh.not_allocated], by simp [fresh.not_allocated]⟩

theorem Kept.max_bounds (kept : life.Kept) :
    0 < life.request.maxVarsPerBuffer ∧ life.request.maxVarsPerBuffer < 2 ^ 16 := by
  cases allocated : life.request.allocated with
  | false => exact ⟨(kept.fresh allocated).max_pos, (kept.fresh allocated).max_lt⟩
  | true =>
      obtain ⟨_, _, distributed⟩ := kept.distributed allocated
      exact ⟨distributed.max_pos, distributed.max_lt⟩

theorem Kept.samePlaces (kept : life.Kept) {heap : Heap}
    (same : life.heap.vars.SamePlaces heap.vars) : Kept { life with heap } := by
  refine ⟨kept.fresh, fun allocated => ?_, kept.stored⟩
  obtain ⟨variableIds, given, distributed⟩ := kept.distributed allocated
  exact ⟨variableIds, given, distributed.rebase same.size_eq same.port_eq same.reader_eq⟩

/-- What every call keeps. -/
theorem Kept.after (kept : life.Kept) (ads : Ads) (call : RequestCall) :
    (life.after ads call).Kept := by
  cases call with
  | allocate variableIds memory =>
      cases allocated : life.request.allocated with
      | true =>
          have unchanged : life.request.allocate variableIds ⟨life.heap.vars, memory⟩ =
              (epicsadsInvCall, life.request, ⟨life.heap.vars, memory⟩) := by
            simp [SumReadRequest.allocate, allocated]
          simp only [RequestLife.after, RequestLife.call, unchanged]
          exact ⟨kept.fresh, kept.distributed, kept.stored⟩
      | false =>
          have ends := allocate_ends (kept.fresh allocated) variableIds ⟨life.heap.vars, memory⟩
          simp only [RequestLife.after, RequestLife.call]
          generalize life.request.allocate variableIds ⟨life.heap.vars, memory⟩ = done at ends ⊢
          cases ends with
          | succeeded kept => exact kept life.trace
          | unstored fresh => exact kept_of_fresh fresh _ _
          | interrupted fresh => exact kept_of_fresh fresh _ _
  | initializeRequest =>
      have same := life.request.sameLayout_initializeRequest life.heap.vars
      have flag := life.request.initializeRequest_allocated life.heap.vars
      cases allocated : life.request.allocated with
      | true => exact kept.sameLayout allocated (flag.trans allocated) same life.trace
      | false =>
          simpa [RequestLife.after, RequestLife.call, SumReadRequest.initializeRequest, allocated]
            using kept
  | read connection =>
      have same := life.request.sameLayout_read ads connection life.trace
      have flag := (life.request.read_flags ads connection life.trace).1
      cases allocated : life.request.allocated with
      | true => exact kept.sameLayout allocated (flag.trans allocated) same _
      | false =>
          have raw := (kept.fresh allocated).not_initialized
          simpa [RequestLife.after, RequestLife.call, SumReadRequest.read, raw] using kept
  | deinitializeRequest =>
      have same := life.request.sameLayout_deinitializeRequest
      cases allocated : life.request.allocated with
      | true =>
          have still_allocated : life.request.deinitializeRequest.allocated = true := allocated
          exact kept.sameLayout allocated still_allocated same life.trace
      | false =>
          have fresh := kept.fresh allocated
          have still_fresh : life.request.deinitializeRequest.Fresh := by
            refine ⟨fresh.not_allocated, rfl, ?_, fresh.max_pos, fresh.max_lt⟩
            simp only [SumReadRequest.deinitializeRequest, fresh.no_chunks]
            rfl
          exact kept_of_fresh still_fresh _ _
  | deallocate =>
      exact kept_of_fresh (fresh_deallocate kept.max_bounds.1 kept.max_bounds.2 life.heap) _ _
  | readdress resolution => exact kept.samePlaces (samePlaces_readdressed life.heap.vars resolution)

/-- The first memory request that an `allocate` is refused is one of a chunk's own vectors, for a
variable that occurs in the list for the first time. -/
def LeavesReader (variableIds : List VarId) (memory : List Bool) : Prop :=
  ∃ index var, variableIds[index]? = some var ∧ var ∉ variableIds.take index ∧
    (∀ position ≤ 3 * index, granted memory position = true) ∧
    (granted memory (3 * index + 1) = false ∨ granted memory (3 * index + 2) = false)

/-- An interruption leaves a reader behind exactly when the variable is new to the list. -/
theorem leavesReader_iff {vars : Vars} {variableIds : List VarId} {memory : List Bool} {index : Nat}
    {var : VarId} {built : SumReadRequest} {heap : Heap}
    (readers : ∀ other, (vars other).bufferReader = emptyBufferDataPosition)
    (interrupted : SumReadRequest.Interrupted vars [] variableIds memory index var built heap) :
    (∀ other ∉ variableIds.take index,
        (heap.vars other).bufferReader = emptyBufferDataPosition) ↔
      ¬ LeavesReader variableIds memory := by
  have before := interrupted.granted_before
  constructor
  · rintro all_reset ⟨index', var', at_index, new, granted_upto, refused⟩
    rcases interrupted.refused with ⟨first, _⟩ | ⟨first, later, _, pointing⟩
    · rcases Nat.lt_or_ge index' index with earlier | not_earlier
      · rcases refused with second | third
        · simp [before _ (by omega : 3 * index' + 1 < 3 * index)] at second
        · simp [before _ (by omega : 3 * index' + 2 < 3 * index)] at third
      · simp [granted_upto (3 * index) (by omega)] at first
    · obtain rfl : index' = index := by
        rcases Nat.lt_trichotomy index' index with earlier | same | after
        · rcases refused with second | third
          · simp [before _ (by omega : 3 * index' + 1 < 3 * index)] at second
          · simp [before _ (by omega : 3 * index' + 2 < 3 * index)] at third
        · exact same
        · rcases later with second | third
          · simp [granted_upto (3 * index + 1) (by omega)] at second
          · simp [granted_upto (3 * index + 2) (by omega)] at third
      obtain rfl : var' = var := by
        have same := at_index.symm.trans interrupted.at_index
        simpa using same
      exact pointing (all_reset var' new)
  · intro keeps other new
    rcases interrupted.refused with ⟨_, untouched⟩ | ⟨first, later, untouched, _⟩
    · rw [untouched other (by simpa using new), readers]
    · by_cases here : other = var
      · subst here
        refine absurd ⟨index, other, interrupted.at_index, new, fun position inside => ?_,
          later⟩ keeps
        rcases Nat.lt_or_eq_of_le inside with less | rfl
        · exact before position less
        · exact first
      · rw [untouched other (by simpa using new) here, readers]

/-- The condition on a call: an `allocate` that is carried out leaves no reader behind. -/
def Records (life : RequestLife) : RequestCall → Prop
  | .allocate variableIds memory =>
      life.request.allocated = true ∨ ¬ LeavesReader variableIds memory
  | _ => True

/-- What is promised of a call: afterwards no variable points into a dead buffer; `allocate` changes
nothing when the request is allocated, and when it fails otherwise the request and the readers
are as new. -/
def Behaves (ads : Ads) (life : RequestLife) (call : RequestCall) : Prop :=
  (life.after ads call).Safe ∧
    match call with
    | .allocate _ _ =>
        (life.request.allocated = true → (life.call ads call).1 = epicsadsInvCall ∧
          (life.after ads call).request = life.request ∧
          (life.after ads call).heap.vars = life.heap.vars ∧
          (life.after ads call).trace = life.trace) ∧
        (life.request.allocated = false → (life.call ads call).1 ≠ 0 →
          (life.after ads call).Started)
    | _ => True

theorem Safe.of_same (kept : life.Kept) (safe : life.Safe) {after : RequestLife}
    (kept_after : after.Kept) (recorded_eq : after.request.recorded = life.request.recorded)
    (reader_eq : ∀ var, (after.heap.vars var).bufferReader = (life.heap.vars var).bufferReader) :
    after.Safe := by
  rw [kept_after.safe_iff]
  intro var unrecorded
  rw [reader_eq]
  exact kept.safe_iff.mp safe var (recorded_eq ▸ unrecorded)

/-- An `allocate` that is carried out keeps pointers safe exactly when it leaves no reader
behind. -/
theorem safe_allocate_iff (ads : Ads) (kept : life.Kept) (safe : life.Safe)
    (not_allocated : life.request.allocated = false) (variableIds : List VarId)
    (memory : List Bool) :
    (life.after ads (.allocate variableIds memory)).Safe ↔ ¬ LeavesReader variableIds memory := by
  have started := safe.unallocated not_allocated
  rw [(kept.after ads (.allocate variableIds memory)).safe_iff]
  have ends := allocate_ends started.fresh variableIds ⟨life.heap.vars, memory⟩
  simp only [RequestLife.after, RequestLife.call]
  generalize life.request.allocate variableIds ⟨life.heap.vars, memory⟩ = done at ends ⊢
  have none_left
      (granted_all : ∀ position < 3 * variableIds.length, granted memory position = true) :
      ¬ LeavesReader variableIds memory := by
    rintro ⟨index, var, at_index, _, _, refused⟩
    have inside : index < variableIds.length := (List.getElem?_eq_some_iff.mp at_index).1
    rcases refused with second | third
    · simp [granted_all (3 * index + 1) (by omega)] at second
    · simp [granted_all (3 * index + 2) (by omega)] at third
  cases ends with
  | succeeded _ _ recorded_iff granted_all untouched =>
      refine iff_of_true (fun var unrecorded => ?_) (none_left granted_all)
      rw [untouched var (by simpa [recorded_iff] using unrecorded)]
      exact started.readers var
  | unstored fresh granted_all readers =>
      refine iff_of_true (fun var _ => ?_) (none_left granted_all)
      rw [readers, started.readers var, ite_self]
  | interrupted fresh interrupted readers =>
      rw [← leavesReader_iff started.readers interrupted]
      simp only [fresh.recorded_eq, List.not_mem_nil, not_false_eq_true, true_implies, readers,
        ite_eq_left_iff]

/-- A call behaves exactly when it meets the condition. -/
theorem behaves_iff (ads : Ads) (kept : life.Kept) (safe : life.Safe) (call : RequestCall) :
    life.Behaves ads call ↔ life.Records call := by
  have kept_after := kept.after ads call
  cases call with
  | allocate variableIds memory =>
      cases allocated : life.request.allocated with
      | true =>
          have unchanged : life.request.allocate variableIds ⟨life.heap.vars, memory⟩ =
              (epicsadsInvCall, life.request, ⟨life.heap.vars, memory⟩) := by
            simp [SumReadRequest.allocate, allocated]
          refine iff_of_true ⟨?_, ?_, by simp [allocated]⟩ (.inl allocated)
          · refine safe.of_same kept kept_after ?_ ?_ <;>
              simp [RequestLife.after, RequestLife.call, unchanged]
          · simp [RequestLife.after, RequestLife.call, unchanged]
      | false =>
          have safe_iff := safe_allocate_iff ads kept safe allocated variableIds memory
          refine ⟨fun behaves => .inr (safe_iff.mp behaves.1), fun records => ?_⟩
          have safe_after := safe_iff.mpr (records.resolve_left (by simp [allocated]))
          refine ⟨safe_after, by simp [allocated], fun _ failed => safe_after.unallocated ?_⟩
          have ends := allocate_ends (kept.fresh allocated) variableIds ⟨life.heap.vars, memory⟩
          simp only [RequestLife.after, RequestLife.call] at failed ⊢
          generalize life.request.allocate variableIds ⟨life.heap.vars, memory⟩ = done at *
          cases ends with
          | succeeded => exact absurd rfl failed
          | unstored fresh => exact fresh.not_allocated
          | interrupted fresh => exact fresh.not_allocated
  | initializeRequest =>
      have same := life.request.sameLayout_initializeRequest life.heap.vars
      exact iff_of_true
        ⟨safe.of_same kept kept_after same.recorded_eq fun _ => rfl, trivial⟩ trivial
  | read connection =>
      have same := life.request.sameLayout_read ads connection life.trace
      exact iff_of_true
        ⟨safe.of_same kept kept_after same.recorded_eq fun _ => rfl, trivial⟩ trivial
  | deinitializeRequest =>
      have same := life.request.sameLayout_deinitializeRequest
      exact iff_of_true
        ⟨safe.of_same kept kept_after same.recorded_eq fun _ => rfl, trivial⟩ trivial
  | deallocate =>
      refine iff_of_true ⟨kept_after.safe_iff.mpr fun var _ => ?_, trivial⟩ trivial
      simp only [RequestLife.after, RequestLife.call]
      rw [SumReadRequest.reader_deallocate]
      split_ifs with recorded
      · rfl
      · exact kept.safe_iff.mp safe var recorded
  | readdress resolution =>
      have same := samePlaces_readdressed life.heap.vars resolution
      exact iff_of_true ⟨safe.of_same kept kept_after rfl same.reader_eq, trivial⟩ trivial

theorem Started.safe (started : life.Started) : life.Safe :=
  started.kept.safe_iff.mpr fun var _ => started.readers var

/-- Every call of a sequence behaves exactly when no `allocate` that is carried out is refused the
memory for a chunk's own vectors, for a variable that it has not recorded yet. -/
theorem calls_behave_iff (ads : Ads) {life : RequestLife} (started : life.Started)
    (calls : List RequestCall) :
    EachMeets (RequestLife.after ads) (Behaves ads) life calls ↔
      EachMeets (RequestLife.after ads) Records life calls := by
  refine eachMeets_congr (fun life => life.Kept ∧ life.Safe) ?_ ?_
    ⟨started.kept, started.safe⟩ calls
  · rintro life call ⟨kept, safe⟩
    exact behaves_iff ads kept safe call
  · rintro life call ⟨kept, _⟩ behaves
    exact ⟨kept.after ads call, behaves.1⟩

/-- A new request for the sample variables. -/
def sampleLife : RequestLife := ⟨SumReadRequest.sampleRequest, ⟨SumReadRequest.sampleVars, []⟩, []⟩

theorem sampleLife_started : sampleLife.Started :=
  ⟨SumReadRequest.sampleRequest_fresh, fun _ => rfl⟩

theorem calls_behave_iff_sample :
    EachMeets (RequestLife.after SumReadRequest.sevensAds) (Behaves SumReadRequest.sevensAds)
      sampleLife
        [.allocate [0, 1] [true, true, true, false], .allocate [0, 1] []] ↔
      EachMeets (RequestLife.after SumReadRequest.sevensAds) Records sampleLife
        [.allocate [0, 1] [true, true, true, false], .allocate [0, 1] []] :=
  calls_behave_iff SumReadRequest.sevensAds sampleLife_started _

/-- The chunk's vector of request entries fails to grow: the variable keeps its reader, although
the deallocation has freed the buffer. -/
theorem allocate_leaves_reader :
    ¬ EachMeets (RequestLife.after SumReadRequest.sevensAds) (Behaves SumReadRequest.sevensAds)
      sampleLife [.allocate [0] [true, false]] := by
  intro behave
  obtain ⟨⟨safe, -⟩, -⟩ := eachMeets_cons.mp behave
  have started := safe.unallocated (by decide)
  exact absurd (started.readers 0) (by decide)

end RequestLife

end AdsDriver
