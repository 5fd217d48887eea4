import AdsDriver.Data.SortedMap
import AdsDriver.ReadWrite

/-!
# Sum-read requests

A `SumReadRequest` distributes variables over chunks, one chunk set for each ADS port.  A chunk
is one request to the device and one buffer for its answer.  `allocate` builds the chunks,
`initialize` fills their request entries from resolved variables, and `read` sends the requests.
-/

namespace AdsDriver

open ByteMemory EarlyExit

/-- `ReadRequestChunk`: the data of a single sum-read operation. -/
structure ReadRequestChunk where
  adsPort : UInt16
  vars : List VarId := []
  sumReadRequestBuffer : List AdsSymbolInfoByName := []
  sumReadDataBuffer : SumReadBuffer
  deriving DecidableEq

namespace ReadRequestChunk

/-- A chunk without variables. -/
def new (adsPort : UInt16) (maxVariables : Nat) : ReadRequestChunk :=
  { adsPort, sumReadDataBuffer := { maxNvariables := maxVariables } }

/-- `add_variable` of the chunk whose buffer is at address `this`: whether it throws, the chunk and
the heap.  Both vectors of the chunk grow after the buffer, and each may fail to. -/
def addVariable (this : BufferPtr) (chunk : ReadRequestChunk) (var : VarId) (heap : Heap) :
    Bool × ReadRequestChunk × Heap :=
  let added := chunk.sumReadDataBuffer.addVariable this var heap
  if added.1 ≠ 0 then (true, { chunk with sumReadDataBuffer := added.2.1 }, added.2.2)
  else if !added.2.2.request.1 then
    (true, { chunk with sumReadDataBuffer := added.2.1 }, added.2.2.request.2)
  else if !added.2.2.request.2.request.1 then
    (true, { chunk with
      sumReadRequestBuffer := chunk.sumReadRequestBuffer ++ [⟨0, 0, 0⟩]
      sumReadDataBuffer := added.2.1 }, added.2.2.request.2.request.2)
  else
    (false, { chunk with
      vars := chunk.vars ++ [var]
      sumReadRequestBuffer := chunk.sumReadRequestBuffer ++ [⟨0, 0, 0⟩]
      sumReadDataBuffer := added.2.1 }, added.2.2.request.2.request.2)

/-- The body of the loop that initializes the buffers. -/
def initializeBuffer (heap : Heap) (chunk : ReadRequestChunk) : Visited Int Heap ReadRequestChunk :=
  let done := chunk.sumReadDataBuffer.initializeBuffer heap
  ⟨if done.1 = 0 then none else some done.1, done.2.2, { chunk with sumReadDataBuffer := done.2.1 }⟩

/-- Fill in request entries in order, up to the first variable that is not resolved: whether all
are, and the entries. -/
def fillEntries (vars : Vars) :
    List VarId → List AdsSymbolInfoByName → Bool × List AdsSymbolInfoByName
  | var :: rest, entry :: entries =>
      if (vars var).addr.nameIsResolved = false then (false, entry :: entries)
      else ((fillEntries vars rest entries).1,
        (vars var).requestEntry :: (fillEntries vars rest entries).2)
  | _, entries => (true, entries)

/-- The body of the loop over chunks in `initialize`, left at an unresolved variable. -/
def initializeEntries (vars : Vars) (_ : Unit) (chunk : ReadRequestChunk) :
    Visited Unit Unit ReadRequestChunk :=
  let filled := fillEntries vars chunk.vars chunk.sumReadRequestBuffer
  ⟨if filled.1 then none else some (), (),
    { chunk with sumReadRequestBuffer := filled.2 }⟩

/-- Zero the request entries. -/
def deinitializeEntries (chunk : ReadRequestChunk) : ReadRequestChunk :=
  { chunk with sumReadRequestBuffer := chunk.sumReadRequestBuffer.map fun _ => ⟨0, 0, 0⟩ }

/-- Mark the content of the buffer. -/
def setBufferState (state : SumReadBufferState) (chunk : ReadRequestChunk) : ReadRequestChunk :=
  { chunk with sumReadDataBuffer := { chunk.sumReadDataBuffer with bufferState := state } }

/-- The request that `read` sends for a chunk. -/
def readCall (connection : Connection) (chunk : ReadRequestChunk) : AdsCall :=
  .readWrite connection.adsPort connection.remoteAmsNetId chunk.adsPort adsigrpSumupRead
    (UInt32.ofNat chunk.sumReadDataBuffer.getNumVariables)
    (u32 chunk.sumReadDataBuffer.bufferSize) (u32 (chunk.sumReadRequestBuffer.length * 12))
    (chunk.sumReadRequestBuffer.flatMap AdsSymbolInfoByName.bytes)

/-- How a sum-read can fail. -/
inductive ReadFailure
  | notInitialized
  /-- The library returned this code. -/
  | failed (rc : Int)

/-- The body of the loop over chunks in `read`.  An answer goes into the buffer whatever its
return code. -/
def read (ads : Ads) (connection : Connection) (trace : Trace) (chunk : ReadRequestChunk) :
    Visited ReadFailure Trace ReadRequestChunk :=
  let saved := chunk.sumReadDataBuffer.saveBuffer
  if saved.bufferInitialized = false then
    ⟨some .notInitialized, trace, { chunk with sumReadDataBuffer := saved }⟩
  else
    let event := ads.event trace (chunk.readCall connection)
    let received := saved.receive (event.reply.data.take (u32 saved.bufferSize))
    if event.reply.rc ≠ 0 then
      ⟨some (.failed event.reply.rc), trace ++ [event],
        { chunk with sumReadDataBuffer := received }⟩
    else
      ⟨none, trace ++ [event],
        { chunk with sumReadDataBuffer := { received with bufferState := .valid } }⟩

end ReadRequestChunk

/-- `SumReadRequest`. -/
structure SumReadRequest where
  maxVarsPerBuffer : Nat
  allocated : Bool := false
  initialized : Bool := false
  chunksByAdsPort : SortedMap Nat (List ReadRequestChunk) := .empty
  /-- The number of deallocations so far, which dates the addresses of buffers. -/
  deallocations : Nat := 0

namespace SumReadRequest

/-- `get_chunks`. -/
def getChunks (request : SumReadRequest) : List ReadRequestChunk :=
  request.chunksByAdsPort.values.flatten

/-- The chunks under a port; a port without variables has none. -/
def chunkSet (request : SumReadRequest) (port : Nat) : List ReadRequestChunk :=
  (request.chunksByAdsPort.find? port).getD []

/-- The buffers that live at present. -/
def buffers (request : SumReadRequest) : Buffers := fun ptr =>
  if ptr.allocation = request.deallocations then
    ((request.chunksByAdsPort.find? ptr.port).bind fun chunkSet => chunkSet[ptr.index]?).map
      ReadRequestChunk.sumReadDataBuffer
  else none

/-- `deinitialize`. -/
def deinitializeRequest (request : SumReadRequest) : SumReadRequest :=
  { request with
    chunksByAdsPort :=
      request.chunksByAdsPort.mapValues (List.map ReadRequestChunk.deinitializeEntries)
    initialized := false }

/-- `deallocate`. -/
def deallocate (request : SumReadRequest) (heap : Heap) : SumReadRequest × Heap :=
  ({ request.deinitializeRequest with
      chunksByAdsPort := .empty
      allocated := false
      deallocations := request.deallocations + 1 },
    (request.deinitializeRequest.getChunks.flatMap ReadRequestChunk.vars).foldl
      (fun heap var => heap.setBufferReader var emptyBufferDataPosition) heap)

/-- The chunks of a port before the one that takes the next variable, and that chunk: the last one
if it has capacity, else a new one. -/
def openChunk (new : ReadRequestChunk) (chunkSet : List ReadRequestChunk) :
    List ReadRequestChunk × ReadRequestChunk :=
  match chunkSet.getLast? with
  | none => ([], new)
  | some back =>
      if back.sumReadDataBuffer.atCapacity then (chunkSet, new) else (chunkSet.dropLast, back)

/-- The body of the loop over variables in `allocate`: whether it throws, the request and the
heap. -/
def addVariable (request : SumReadRequest) (var : VarId) (heap : Heap) :
    Bool × SumReadRequest × Heap :=
  let adsPort := (heap.vars var).addr.adsPort
  let opened :=
    openChunk (.new adsPort request.maxVarsPerBuffer) (request.chunkSet adsPort.toNat)
  let added :=
    opened.2.addVariable ⟨request.deallocations, adsPort.toNat, opened.1.length⟩ var heap
  (added.1,
    { request with
      chunksByAdsPort :=
        request.chunksByAdsPort.insert adsPort.toNat (opened.1 ++ [added.2.1]) },
    added.2.2)

/-- The loop over variables in `allocate`. -/
def addVariables : List VarId → SumReadRequest → Heap → Bool × SumReadRequest × Heap
  | [], request, heap => (false, request, heap)
  | var :: vars, request, heap =>
      let added := request.addVariable var heap
      if added.1 then added else addVariables vars added.2.1 added.2.2

/-- `allocate`. -/
def allocate (request : SumReadRequest) (vars : List VarId) (heap : Heap) :
    Int × SumReadRequest × Heap :=
  if request.allocated then (epicsadsInvCall, request, heap)
  else
    let added := request.addVariables vars heap
    if added.1 then (epicsadsError, added.2.1.deallocate added.2.2)
    else
      let loop := added.2.1.chunksByAdsPort.visitAll ReadRequestChunk.initializeBuffer added.2.2
      if loop.exit.isSome then
        (epicsadsError, { added.2.1 with chunksByAdsPort := loop.result }.deallocate loop.state)
      else (0, { added.2.1 with chunksByAdsPort := loop.result, allocated := true }, loop.state)

/-- `initialize`. -/
def initializeRequest (request : SumReadRequest) (vars : Vars) : Int × SumReadRequest :=
  if request.allocated = false then (epicsadsNotAllocated, request)
  else if request.initialized then (epicsadsInvCall, request)
  else
    let loop := request.chunksByAdsPort.visitAll (ReadRequestChunk.initializeEntries vars) ()
    if loop.exit.isSome then (epicsadsNotResolved, { request with chunksByAdsPort := loop.result })
    else (0, { request with chunksByAdsPort := loop.result, initialized := true })

/-- `set_buffers_state`. -/
def setBuffersState (request : SumReadRequest) (state : SumReadBufferState) : SumReadRequest :=
  { request with
    chunksByAdsPort :=
      request.chunksByAdsPort.mapValues (List.map (ReadRequestChunk.setBufferState state)) }

/-- `read`. -/
def read (ads : Ads) (connection : Connection) (request : SumReadRequest) (trace : Trace) :
    Int × SumReadRequest × Trace :=
  if request.initialized = false then (epicsadsInvCall, request, trace)
  else
    let loop := request.chunksByAdsPort.visitAll (ReadRequestChunk.read ads connection) trace
    let after := { request with chunksByAdsPort := loop.result }
    match loop.exit with
    | some .notInitialized => (epicsadsNotInitialized, after, loop.state)
    | some (.failed rc) => (adsRcToEpicsadsError rc, after.setBuffersState .invalid, loop.state)
    | none => (0, after, loop.state)

end SumReadRequest

namespace ReadRequestChunk

/-- The buffer of a chunk has its storage. -/
def Stored (chunk : ReadRequestChunk) : Prop :=
  chunk.sumReadDataBuffer.bufferInitialized = true ∧
    ∃ memory, chunk.sumReadDataBuffer.buffer = some memory ∧
      memory.length = chunk.sumReadDataBuffer.bufferSize

/-- Two states of a chunk with the same variables at the same places. -/
structure SameLayout (before after : ReadRequestChunk) : Prop where
  port_eq : after.adsPort = before.adsPort
  vars_eq : after.vars = before.vars
  entries_length : after.sumReadRequestBuffer.length = before.sumReadRequestBuffer.length
  buffer_eq : ∃ memory initialized previous state, after.sumReadDataBuffer =
    { before.sumReadDataBuffer with
      buffer := memory
      bufferInitialized := initialized
      prevDataBuffer := previous
      bufferState := state }
  stored : before.Stored → after.Stored

namespace SameLayout

theorem refl (chunk : ReadRequestChunk) : chunk.SameLayout chunk :=
  ⟨rfl, rfl, rfl, ⟨_, _, _, _, rfl⟩, id⟩

theorem trans {first second third : ReadRequestChunk} (left : first.SameLayout second)
    (right : second.SameLayout third) : first.SameLayout third := by
  obtain ⟨_, _, _, _, left_eq⟩ := left.buffer_eq
  obtain ⟨memory, initialized, previous, state, right_eq⟩ := right.buffer_eq
  refine ⟨right.port_eq.trans left.port_eq, right.vars_eq.trans left.vars_eq,
    right.entries_length.trans left.entries_length, ?_, right.stored ∘ left.stored⟩
  exact ⟨memory, initialized, previous, state, by rw [right_eq, left_eq]⟩

end SameLayout

theorem length_fillEntries (vars : Vars) (variableIds : List VarId)
    (entries : List AdsSymbolInfoByName) :
    (fillEntries vars variableIds entries).2.length = entries.length := by
  induction variableIds generalizing entries with
  | nil => simp [fillEntries]
  | cons var rest ih =>
      cases entries with
      | nil => simp [fillEntries]
      | cons entry entries =>
          rw [fillEntries]
          split_ifs <;> simp [ih]

theorem fillEntries_ok {vars : Vars} {variableIds : List VarId}
    {entries : List AdsSymbolInfoByName} (sized : entries.length = variableIds.length)
    (filled : (fillEntries vars variableIds entries).1 = true) :
    (fillEntries vars variableIds entries).2 =
        variableIds.map (fun var => (vars var).requestEntry) ∧
      ∀ var ∈ variableIds, (vars var).addr.nameIsResolved = true := by
  induction variableIds generalizing entries with
  | nil =>
      obtain rfl : entries = [] := List.eq_nil_of_length_eq_zero sized
      simp [fillEntries]
  | cons var rest ih =>
      obtain ⟨entry, entries, rfl⟩ := List.exists_cons_of_length_eq_add_one sized
      rw [fillEntries] at filled ⊢
      split_ifs at filled ⊢ with unresolved
      obtain ⟨rest_filled, rest_resolved⟩ := ih (by simpa using sized) filled
      refine ⟨by rw [List.map_cons, rest_filled], ?_⟩
      intro other member
      rcases List.mem_cons.mp member with rfl | later
      · simpa using unresolved
      · exact rest_resolved other later

theorem sameLayout_initializeEntries (vars : Vars) (chunk : ReadRequestChunk) :
    chunk.SameLayout (chunk.initializeEntries vars ()).result :=
  ⟨rfl, rfl, length_fillEntries _ _ _, ⟨_, _, _, _, rfl⟩, id⟩

theorem sameLayout_deinitializeEntries (chunk : ReadRequestChunk) :
    chunk.SameLayout chunk.deinitializeEntries :=
  ⟨rfl, rfl, List.length_map _, ⟨_, _, _, _, rfl⟩, id⟩

theorem sameLayout_setBufferState (state : SumReadBufferState) (chunk : ReadRequestChunk) :
    chunk.SameLayout (chunk.setBufferState state) :=
  ⟨rfl, rfl, rfl, ⟨_, _, _, _, rfl⟩, id⟩

/-- What `read` does to a chunk whose buffer has its storage. -/
theorem read_of_stored {chunk : ReadRequestChunk} {memory : Bytes}
    (initialized : chunk.sumReadDataBuffer.bufferInitialized = true)
    (stored : chunk.sumReadDataBuffer.buffer = some memory) (ads : Ads) (connection : Connection)
    (trace : Trace) {event : AdsEvent}
    (sent : ads.event trace (chunk.readCall connection) = event) :
    ∃ previous, chunk.read ads connection trace =
      ⟨if event.reply.rc = 0 then none else some (.failed event.reply.rc), trace ++ [event],
        { chunk with sumReadDataBuffer :=
          { chunk.sumReadDataBuffer with
            prevDataBuffer := previous
            buffer := some
              (overwrite (event.reply.data.take (u32 chunk.sumReadDataBuffer.bufferSize)) memory)
            bufferState :=
              if event.reply.rc = 0 then .valid else chunk.sumReadDataBuffer.bufferState } }⟩ := by
  obtain ⟨previous, saved⟩ := chunk.sumReadDataBuffer.saveBuffer_eq
  refine ⟨previous, ?_⟩
  simp only [read, saved, initialized, SumReadBuffer.receive, stored, sent]
  by_cases failed : event.reply.rc = 0 <;> simp [failed]

theorem length_receive {size : Nat} {memory : Bytes} (stored : memory.length = size)
    (answer : Bytes) : (overwrite (answer.take (u32 size)) memory).length = size := by
  have cut : u32 size ≤ size := Nat.mod_le _ _
  rw [length_overwrite (by rw [List.length_take]; omega), stored]

theorem rc_of_failed {ads : Ads} {connection : Connection} {trace : Trace}
    {chunk : ReadRequestChunk} {rc : Int}
    (left : (read ads connection trace chunk).exit = some (.failed rc)) : rc ≠ 0 := by
  simp only [read] at left
  split_ifs at left with raw refused
  · simp at left
  · obtain rfl : _ = rc := by simpa using left
    exact refused

theorem sameLayout_read (ads : Ads) (connection : Connection) (trace : Trace)
    (chunk : ReadRequestChunk) : chunk.SameLayout (read ads connection trace chunk).result := by
  obtain ⟨previous, saved⟩ := chunk.sumReadDataBuffer.saveBuffer_eq
  simp only [read, saved]
  split_ifs with raw failed
  · exact ⟨rfl, rfl, rfl, ⟨_, _, _, _, rfl⟩, id⟩
  all_goals
    refine ⟨rfl, rfl, rfl, ⟨_, _, _, _, rfl⟩, ?_⟩
    rintro ⟨initialized, memory, stored, length_eq⟩
    refine ⟨initialized, overwrite ((ads.event trace (chunk.readCall connection)).reply.data.take
      (u32 chunk.sumReadDataBuffer.bufferSize)) memory, ?_, length_receive length_eq _⟩
    simp [SumReadBuffer.receive, stored]

end ReadRequestChunk

namespace SumReadRequest

/-- Two states of a request with the same chunks at the same places. -/
structure SameLayout (before after : SumReadRequest) : Prop where
  chunks : SortedMap.Related ReadRequestChunk.SameLayout before.chunksByAdsPort
    after.chunksByAdsPort
  max_eq : after.maxVarsPerBuffer = before.maxVarsPerBuffer
  deallocations_eq : after.deallocations = before.deallocations

theorem sameLayout_deinitializeRequest (request : SumReadRequest) :
    request.SameLayout request.deinitializeRequest :=
  ⟨SortedMap.related_mapValues fun chunk _ => chunk.sameLayout_deinitializeEntries, rfl, rfl⟩

theorem SameLayout.refl (request : SumReadRequest) : request.SameLayout request :=
  ⟨.refl fun chunk _ => .refl chunk, rfl, rfl⟩

theorem SameLayout.trans {first second third : SumReadRequest} (left : first.SameLayout second)
    (right : second.SameLayout third) : first.SameLayout third :=
  ⟨left.chunks.trans right.chunks fun _ _ _ => .trans, right.max_eq.trans left.max_eq,
    right.deallocations_eq.trans left.deallocations_eq⟩

theorem sameLayout_initializeRequest (request : SumReadRequest) (vars : Vars) :
    request.SameLayout (request.initializeRequest vars).2 := by
  have loop := SortedMap.visitAll_always (ReadRequestChunk.initializeEntries vars)
    ReadRequestChunk.SameLayout request.chunksByAdsPort
    (fun chunk _ _ => chunk.sameLayout_initializeEntries vars) (fun chunk _ => .refl chunk) ()
  simp only [initializeRequest]
  split_ifs
  · exact .refl request
  · exact .refl request
  · exact ⟨loop, rfl, rfl⟩
  · exact ⟨loop, rfl, rfl⟩

theorem mem_getChunks_iff {request : SumReadRequest} {chunk : ReadRequestChunk} :
    chunk ∈ request.getChunks ↔ ∃ port, chunk ∈ request.chunkSet port := by
  simp only [getChunks, List.mem_flatten, SortedMap.mem_values_iff, chunkSet]
  constructor
  · rintro ⟨chunks, ⟨port, found⟩, member⟩
    exact ⟨port, by simpa [found] using member⟩
  · rintro ⟨port, member⟩
    cases found : request.chunksByAdsPort.find? port with
    | none => simp [found] at member
    | some chunks => exact ⟨chunks, ⟨port, found⟩, by simpa [found] using member⟩

/-- An `initialize` that returns 0 has given every variable its own entry. -/
theorem initializeRequest_ok {request after : SumReadRequest} {vars : Vars}
    (sized : ∀ chunk ∈ request.getChunks, chunk.sumReadRequestBuffer.length = chunk.vars.length)
    (done : request.initializeRequest vars = (0, after)) :
    request.allocated = true ∧ request.initialized = false ∧ after.initialized = true ∧
      after.allocated = true ∧
      SortedMap.Related (fun before chunk =>
          chunk = { before with
            sumReadRequestBuffer := before.vars.map fun var => (vars var).requestEntry } ∧
          ∀ var ∈ before.vars, (vars var).addr.nameIsResolved = true)
        request.chunksByAdsPort after.chunksByAdsPort := by
  have related := SortedMap.visitAll_completes (ReadRequestChunk.initializeEntries vars)
    (fun _ => True)
    (fun _ before chunk =>
      chunk = { before with
        sumReadRequestBuffer := before.vars.map fun var => (vars var).requestEntry } ∧
      ∀ var ∈ before.vars, (vars var).addr.nameIsResolved = true)
    request.chunksByAdsPort (fun _ _ _ _ => trivial) ?_ (fun _ _ _ _ _ _ pair => pair) ()
    trivial
  · simp only [initializeRequest] at done
    split_ifs at done with not_allocated initialized left
    · simp [epicsadsNotAllocated] at done
    · simp [epicsadsInvCall] at done
    · simp [epicsadsNotResolved] at done
    · obtain rfl : _ = after := (Prod.mk.inj done).2
      exact ⟨by simpa using not_allocated, by simpa using initialized, rfl,
        by simpa using not_allocated, related (by simpa using left)⟩
  · intro chunk member _ _ returned
    have filled : (ReadRequestChunk.fillEntries vars chunk.vars chunk.sumReadRequestBuffer).1 =
        true := by
      simpa [ReadRequestChunk.initializeEntries] using returned
    obtain ⟨entries, resolved⟩ := ReadRequestChunk.fillEntries_ok (sized chunk member) filled
    exact ⟨by simp [ReadRequestChunk.initializeEntries, entries], resolved⟩

theorem sameLayout_setBuffersState (request : SumReadRequest) (state : SumReadBufferState) :
    request.SameLayout (request.setBuffersState state) :=
  ⟨SortedMap.related_mapValues fun chunk _ => chunk.sameLayout_setBufferState state, rfl, rfl⟩

theorem sameLayout_read (ads : Ads) (connection : Connection) (request : SumReadRequest)
    (trace : Trace) : request.SameLayout (request.read ads connection trace).2.1 := by
  have loop := SortedMap.visitAll_always (ReadRequestChunk.read ads connection)
    ReadRequestChunk.SameLayout request.chunksByAdsPort
    (fun chunk _ trace => chunk.sameLayout_read ads connection trace) (fun chunk _ => .refl chunk)
    trace
  have after : request.SameLayout { request with
      chunksByAdsPort :=
        (request.chunksByAdsPort.visitAll (ReadRequestChunk.read ads connection) trace).result } :=
    ⟨loop, rfl, rfl⟩
  unfold read
  split_ifs
  · exact .refl request
  · dsimp only
    split
    · exact after
    · exact after.trans (sameLayout_setBuffersState _ _)
    · exact after

/-- A `read` that returns 0 has completed the loop over chunks. -/
theorem read_ok {ads : Ads} {connection : Connection} {request after : SumReadRequest}
    {trace trace' : Trace} (done : request.read ads connection trace = (0, after, trace')) :
    request.initialized = true ∧
      request.chunksByAdsPort.visitAll (ReadRequestChunk.read ads connection) trace =
        ⟨none, trace', after.chunksByAdsPort⟩ ∧
      after = { request with chunksByAdsPort := after.chunksByAdsPort } := by
  rcases loop : request.chunksByAdsPort.visitAll (ReadRequestChunk.read ads connection) trace with
    ⟨exit, state, chunks⟩
  simp only [read, loop] at done
  split_ifs at done with uninitialized
  · simp [epicsadsInvCall] at done
  cases exit with
  | none =>
      obtain ⟨rfl, rfl⟩ : _ = after ∧ state = trace' := by simpa using done
      exact ⟨by simpa using uninitialized, rfl, rfl⟩
  | some failure =>
      cases failure with
      | notInitialized => simp [epicsadsNotInitialized] at done
      | failed rc =>
          have accepted : adsRcToEpicsadsError rc = 0 := (Prod.mk.inj done).1
          rw [adsRcToEpicsadsError_eq_zero_iff] at accepted
          obtain ⟨chunk, _, before, gave⟩ := SortedMap.visitAll_exit (congrArg Visited.exit loop)
          exact absurd accepted (ReadRequestChunk.rc_of_failed gave)

/-- A sum-read that returns 0 has not seen what another library would answer to a call that this one
refuses. -/
theorem read_congr {ads other : Ads}
    (agree : ∀ trace call, (ads trace call).rc = 0 → other trace call = ads trace call)
    {connection : Connection} {request after : SumReadRequest} {trace trace' : Trace}
    (done : request.read ads connection trace = (0, after, trace')) :
    request.read other connection trace = (0, after, trace') := by
  obtain ⟨initialized, loop, _⟩ := read_ok done
  have same : request.chunksByAdsPort.visitAll (ReadRequestChunk.read other connection) trace =
      request.chunksByAdsPort.visitAll (ReadRequestChunk.read ads connection) trace := by
    refine SortedMap.visitAll_congr (fun before chunk stays => ?_) (congrArg Visited.exit loop)
    simp only [ReadRequestChunk.read] at stays
    split_ifs at stays with raw refused
    have accepted : (ads before (chunk.readCall connection)).rc = 0 := by simpa using refused
    have event_eq : other.event before (chunk.readCall connection) =
        ads.event before (chunk.readCall connection) :=
      congrArg (AdsEvent.mk _) (agree before _ accepted)
    unfold ReadRequestChunk.read
    rw [event_eq]
  rw [← done, read, read, same]

/-- A sum-read keeps the flags. -/
theorem read_flags (ads : Ads) (connection : Connection) (request : SumReadRequest)
    (trace : Trace) :
    (request.read ads connection trace).2.1.allocated = request.allocated ∧
      (request.read ads connection trace).2.1.initialized = request.initialized := by
  unfold read
  split_ifs
  · exact ⟨rfl, rfl⟩
  · dsimp only
    split <;> exact ⟨rfl, rfl⟩

theorem initializeRequest_allocated (request : SumReadRequest) (vars : Vars) :
    (request.initializeRequest vars).2.allocated = request.allocated := by
  unfold initializeRequest
  dsimp only
  split_ifs <;> rfl

end SumReadRequest

end AdsDriver
