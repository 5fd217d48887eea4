import AdsDriver.RequestCalls

/-!
# The outcome of a sum-read

`read` asks for one chunk after the other and stops at the first request that fails.  What it leaves
in the buffers therefore follows from the answers in order: after a failure nothing is valid, and
after a success each buffer holds the front that its answer has filled, over what was there before.
-/

namespace AdsDriver

open ByteMemory Runs EarlyExit

/-- The events of calls made one after the other. -/
def Ads.events (ads : Ads) : Trace → List AdsCall → Trace
  | _, [] => []
  | trace, call :: calls =>
      ads.event trace call :: Ads.events ads (trace ++ [ads.event trace call]) calls

@[simp]
theorem Ads.map_call_events (ads : Ads) (trace : Trace) (calls : List AdsCall) :
    (ads.events trace calls).map AdsEvent.call = calls := by
  induction calls generalizing trace with
  | nil => rfl
  | cons call calls ih => simp [Ads.events, ih]

theorem Ads.events_take (ads : Ads) (trace : Trace) (calls : List AdsCall) (count : Nat) :
    ads.events trace (calls.take count) = (ads.events trace calls).take count := by
  induction calls generalizing trace count with
  | nil => simp [Ads.events]
  | cons call calls ih =>
      cases count with
      | zero => simp [Ads.events]
      | succ count => simp [Ads.events, ih]

theorem Ads.exists_of_mem_events {ads : Ads} {trace : Trace} {calls : List AdsCall}
    {event : AdsEvent} (member : event ∈ ads.events trace calls) :
    ∃ before call, event = ads.event before call := by
  induction calls generalizing trace with
  | nil => simp [Ads.events] at member
  | cons call calls ih =>
      rcases List.mem_cons.mp member with rfl | later
      · exact ⟨trace, call, rfl⟩
      · exact ih later

namespace ReadRequestChunk

/-- A chunk after an answer with code 0: the answer is put over what the buffer held. -/
def Refreshed (event : AdsEvent) (before after : ReadRequestChunk) : Prop :=
  ∃ memory previous, before.sumReadDataBuffer.buffer = some memory ∧
    after = { before with sumReadDataBuffer := { before.sumReadDataBuffer with
      prevDataBuffer := previous
      buffer := some
        (overwrite (event.reply.data.take (u32 before.sumReadDataBuffer.bufferSize)) memory)
      bufferState := .valid } }

/-- How the loop over chunks ends, in terms of the answers to their requests. -/
inductive ChunksRead (chunks : List ReadRequestChunk) (trace events : Trace) :
    Visited ReadFailure Trace (List ReadRequestChunk) → Prop
  | completed {result : List ReadRequestChunk} (accepted : ∀ event ∈ events, event.reply.rc = 0)
      (refreshed : List.Forall₂ (fun pair => Refreshed pair.2 pair.1) (chunks.zip events) result) :
      ChunksRead chunks trace events ⟨none, trace ++ events, result⟩
  | failed {result : List ReadRequestChunk} {index : Nat} {event : AdsEvent}
      (at_index : events[index]? = some event) (refused : event.reply.rc ≠ 0)
      (earlier : ∀ event ∈ events.take index, event.reply.rc = 0) :
      ChunksRead chunks trace events
        ⟨some (.failed event.reply.rc), trace ++ events.take (index + 1), result⟩

variable (ads : Ads) (connection : Connection)

theorem chunksRead {chunks : List ReadRequestChunk} (stored : ∀ chunk ∈ chunks, chunk.Stored)
    (trace : Trace) :
    ChunksRead chunks trace (ads.events trace (chunks.map (readCall connection)))
      (visit (read ads connection) trace chunks) := by
  induction chunks generalizing trace with
  | nil =>
      have done : ChunksRead [] trace [] ⟨none, trace ++ [], []⟩ := .completed (by simp) .nil
      simpa [Ads.events] using done
  | cons chunk chunks ih =>
      obtain ⟨initialized, memory, in_buffer, _⟩ := stored chunk (by simp)
      obtain ⟨previous, read_eq⟩ :=
        read_of_stored initialized in_buffer ads connection trace rfl
      have rest := ih (fun other member => stored other (by simp [member]))
      rw [List.map_cons, Ads.events]
      generalize ads.event trace (chunk.readCall connection) = event at read_eq ⊢
      by_cases accepted : event.reply.rc = 0
      · rw [if_pos accepted, if_pos accepted] at read_eq
        rw [visit_cons_next (by rw [read_eq]), read_eq]
        have rest := rest (trace ++ [event])
        dsimp only
        generalize ads.events (trace ++ [event]) (chunks.map (readCall connection)) =
          events at rest ⊢
        generalize visit (read ads connection) (trace ++ [event]) chunks = outcome at rest ⊢
        cases rest with
        | completed all_accepted refreshed =>
            rw [List.append_assoc]
            refine .completed (by simpa [accepted] using all_accepted) (.cons ?_ refreshed)
            exact ⟨memory, previous, in_buffer, rfl⟩
        | @failed _ index bad at_index refused earlier =>
            have at_next : (event :: events)[index + 1]? = some bad := at_index
            rw [List.append_assoc]
            exact .failed at_next refused (by simpa [accepted] using earlier)
      · rw [if_neg accepted] at read_eq
        rw [visit_cons_exit (by rw [read_eq]), read_eq]
        have at_first : (event :: ads.events (trace ++ [event])
            (chunks.map (readCall connection)))[0]? = some event := rfl
        exact .failed at_first accepted (by simp)

/-- Among chunks that are not valid the loop makes one valid only when its request and all before it
are accepted. -/
theorem accepted_of_valid {chunks : List ReadRequestChunk}
    (stored : ∀ chunk ∈ chunks, chunk.Stored)
    (invalid : ∀ chunk ∈ chunks, chunk.sumReadDataBuffer.bufferState = .invalid) (trace : Trace)
    {index : Nat} {after : ReadRequestChunk}
    (at_index : (visit (read ads connection) trace chunks).result[index]? = some after)
    (valid : after.sumReadDataBuffer.bufferState ≠ .invalid) :
    ∀ event ∈ (ads.events trace (chunks.map (readCall connection))).take (index + 1),
      event.reply.rc = 0 := by
  induction chunks generalizing trace index with
  | nil => simp at at_index
  | cons chunk chunks ih =>
      obtain ⟨initialized, memory, in_buffer, _⟩ := stored chunk (by simp)
      obtain ⟨previous, read_eq⟩ :=
        read_of_stored initialized in_buffer ads connection trace rfl
      have first_invalid := invalid chunk (by simp)
      have rest := ih (fun other member => stored other (by simp [member]))
        (fun other member => invalid other (by simp [member]))
      rw [List.map_cons, Ads.events, List.take_succ_cons]
      generalize ads.event trace (chunk.readCall connection) = event at read_eq ⊢
      by_cases accepted : event.reply.rc = 0
      · rw [visit_cons_next (by rw [read_eq, if_pos accepted]), read_eq] at at_index
        intro other member
        rcases List.mem_cons.mp member with rfl | later
        · exact accepted
        · cases index with
          | zero => simp at later
          | succ index => exact rest _ (by simpa using at_index) other later
      · rw [if_neg accepted, if_neg accepted] at read_eq
        rw [visit_cons_exit (by rw [read_eq]), read_eq] at at_index
        -- the loop has stopped here, so nothing is valid
        cases index with
        | zero =>
            obtain rfl : _ = after := by simpa using at_index
            exact absurd first_invalid valid
        | succ index =>
            have unreached : after ∈ chunks := List.mem_of_getElem? at_index
            exact absurd (invalid after (by simp [unreached])) valid

end ReadRequestChunk

theorem ADSVariable.readFromBuffer_invalid {buffers : Buffers} {var : ADSVariable} {ptr : BufferPtr}
    {buffer : SumReadBuffer} (at_ptr : var.bufferReader.buffer = some ptr)
    (live : buffers ptr = some buffer) (invalid : buffer.bufferState = .invalid) (size : Nat)
    (destination : Bytes) : (var.readFromBuffer buffers size destination).1 ≠ 0 := by
  have nonempty : var.bufferReader ≠ emptyBufferDataPosition := by
    intro same
    simp [same, emptyBufferDataPosition] at at_ptr
  simp [readFromBuffer, nonempty, at_ptr, live, invalid, epicsadsDisconnected]

namespace SumReadRequest

/-- Two states of a request with the same chunks at the same places and the same flags, whatever
the buffers hold and however they are marked. -/
structure Refilled (before after : SumReadRequest) : Prop extends SameLayout before after where
  allocated_eq : after.allocated = before.allocated
  initialized_eq : after.initialized = before.initialized

/-- The requests that `read` sends if none fails. -/
def readCalls (connection : Connection) (request : SumReadRequest) : List AdsCall :=
  request.getChunks.map (ReadRequestChunk.readCall connection)

/-- All buffers are marked alike. -/
def Marked (state : SumReadBufferState) (request : SumReadRequest) : Prop :=
  ∀ chunk ∈ request.getChunks, chunk.sumReadDataBuffer.bufferState = state

/-- The request while `read` is at the chunk number `count`. -/
def midRead (ads : Ads) (connection : Connection) (count : Nat) (request : SumReadRequest)
    (trace : Trace) : SumReadRequest :=
  { request with
    chunksByAdsPort := (request.chunksByAdsPort.visitAll
      (counted (ReadRequestChunk.read ads connection)) (count, trace)).result }

variable {request : SumReadRequest}

theorem AllStored.each (stored : request.AllStored) :
    ∀ chunk ∈ request.getChunks, chunk.Stored := by
  intro chunk member
  obtain ⟨port, in_set⟩ := mem_getChunks_iff.mp member
  exact stored port chunk in_set

theorem AllStored.chunksRead (stored : request.AllStored) (ads : Ads) (connection : Connection)
    (trace : Trace) :
    ReadRequestChunk.ChunksRead request.getChunks trace
      (ads.events trace (request.readCalls connection))
      ⟨(request.chunksByAdsPort.visitAll (ReadRequestChunk.read ads connection) trace).exit,
        (request.chunksByAdsPort.visitAll (ReadRequestChunk.read ads connection) trace).state,
        (request.chunksByAdsPort.visitAll (ReadRequestChunk.read ads connection)
          trace).result.values.flatten⟩ := by
  have loop := ReadRequestChunk.chunksRead ads connection stored.each trace
  rwa [getChunks, SortedMap.visitAll_flatten] at loop

theorem marked_setBuffersState (state : SumReadBufferState) (request : SumReadRequest) :
    (request.setBuffersState state).Marked state := by
  intro chunk member
  rw [getChunks, setBuffersState, SortedMap.values_mapValues, ← List.map_flatten] at member
  obtain ⟨before, _, rfl⟩ := List.mem_map.mp member
  rfl

/-- Requests whose buffers are marked alike one by one. -/
theorem Marked.related {state : SumReadBufferState} {after : SumReadRequest}
    (marked : request.Marked state)
    (related : SortedMap.Related (fun before after : ReadRequestChunk =>
      after.sumReadDataBuffer.bufferState = before.sumReadDataBuffer.bufferState)
      request.chunksByAdsPort after.chunksByAdsPort) : after.Marked state := by
  intro chunk member
  obtain ⟨before, in_before, same⟩ := mem_of_forall₂ related.flatten member
  rw [same, marked before in_before]

theorem refilled_midRead (ads : Ads) (connection : Connection) (count : Nat)
    (request : SumReadRequest) (trace : Trace) :
    request.Refilled (request.midRead ads connection count trace) := by
  refine ⟨⟨SortedMap.visitAll_always _ ReadRequestChunk.SameLayout _ (fun chunk _ state => ?_)
    (fun chunk _ => .refl chunk) _, rfl, rfl⟩, rfl, rfl⟩
  unfold counted
  split_ifs
  · exact .refl chunk
  · exact chunk.sameLayout_read ads connection state.2

theorem bufferState_addVariable (this : BufferPtr) (chunk : ReadRequestChunk) (var : VarId)
    (heap : Heap) : (chunk.addVariable this var heap).2.1.sumReadDataBuffer.bufferState =
      chunk.sumReadDataBuffer.bufferState := by
  have added : (chunk.sumReadDataBuffer.addVariable this var heap).2.1.bufferState =
      chunk.sumReadDataBuffer.bufferState := by
    unfold SumReadBuffer.addVariable
    dsimp only
    split_ifs <;> rfl
  unfold ReadRequestChunk.addVariable
  dsimp only
  split_ifs <;> exact added

theorem Marked.addVariables (marked : request.Marked .invalid) (variableIds : List VarId)
    (heap : Heap) : (addVariables variableIds request heap).2.1.Marked .invalid := by
  induction variableIds generalizing request heap with
  | nil => exact marked
  | cons var rest ih =>
      have step : (request.addVariable var heap).2.1.Marked .invalid := by
        intro chunk member
        obtain ⟨port, in_set⟩ := mem_getChunks_iff.mp member
        unfold addVariable at in_set
        rw [chunkSet_insert] at in_set
        split_ifs at in_set with here
        · rcases openChunk_cases (.new (heap.vars var).addr.adsPort request.maxVarsPerBuffer)
            (request.chunkSet (heap.vars var).addr.adsPort.toNat) with
            ⟨opened, _⟩ | ⟨front, back, set_eq, opened, _⟩
          all_goals
            rw [opened] at in_set
            rcases List.mem_append.mp in_set with earlier | last
          · exact marked chunk (mem_getChunks_iff.mpr ⟨_, earlier⟩)
          · rw [List.mem_singleton.mp last, bufferState_addVariable]
            rfl
          · exact marked chunk (mem_getChunks_iff.mpr ⟨_, by rw [set_eq]; simp [earlier]⟩)
          · rw [List.mem_singleton.mp last, bufferState_addVariable]
            exact marked back (mem_getChunks_iff.mpr ⟨_, by rw [set_eq]; simp⟩)
        · exact marked chunk (mem_getChunks_iff.mpr ⟨port, in_set⟩)
      rw [SumReadRequest.addVariables]
      split_ifs
      · exact step
      · exact ih step _

/-- New buffers are not valid. -/
theorem Marked.allocate (marked : request.Marked .invalid) (variableIds : List VarId)
    (heap : Heap) : (request.allocate variableIds heap).2.1.Marked .invalid := by
  have added := marked.addVariables variableIds heap
  have deallocated (built : SumReadRequest) (between : Heap) :
      (built.deallocate between).1.Marked .invalid := by
    intro chunk member
    simp [getChunks, deallocate, SortedMap.values, SortedMap.empty] at member
  unfold SumReadRequest.allocate
  dsimp only
  split_ifs
  · exact marked
  · exact deallocated _ _
  · exact deallocated _ _
  · refine added.related (SortedMap.visitAll_always ReadRequestChunk.initializeBuffer
      (fun before after => after.sumReadDataBuffer.bufferState =
        before.sumReadDataBuffer.bufferState) _ (fun chunk _ state => ?_) (fun _ _ => rfl) _)
    simp only [ReadRequestChunk.initializeBuffer, SumReadBuffer.initializeBuffer]
    split_ifs <;> rfl

end SumReadRequest

namespace SumReadRequest

variable {request : SumReadRequest}

/-- How `read` ends, in terms of the answers that it would get to all its requests. -/
inductive ReadDone (request : SumReadRequest) (trace events : Trace) :
    Int × SumReadRequest × Trace → Prop
  | refused (raw : request.initialized = false) :
      ReadDone request trace events (epicsadsInvCall, request, trace)
  | completed {after : SumReadRequest} (accepted : ∀ event ∈ events, event.reply.rc = 0)
      (refreshed : List.Forall₂ (fun pair => ReadRequestChunk.Refreshed pair.2 pair.1)
        (request.getChunks.zip events) after.getChunks) :
      ReadDone request trace events (0, after, trace ++ events)
  | failed {after : SumReadRequest} {index : Nat} {event : AdsEvent}
      (at_index : events[index]? = some event) (refused : event.reply.rc ≠ 0)
      (earlier : ∀ event ∈ events.take index, event.reply.rc = 0) (marked : after.Marked .invalid) :
      ReadDone request trace events
        (adsRcToEpicsadsError event.reply.rc, after, trace ++ events.take (index + 1))

theorem AllStored.readDone (stored : request.AllStored) (ads : Ads) (connection : Connection)
    (trace : Trace) : request.ReadDone trace (ads.events trace (request.readCalls connection))
      (request.read ads connection trace) := by
  have loop := stored.chunksRead ads connection trace
  rcases ended : request.chunksByAdsPort.visitAll (ReadRequestChunk.read ads connection) trace with
    ⟨exit, state, chunks⟩
  rw [ended] at loop
  unfold read
  split_ifs with raw
  · exact .refused raw
  · rw [ended]
    generalize ads.events trace (request.readCalls connection) = events at loop ⊢
    dsimp only at loop ⊢
    generalize result_eq : chunks.values.flatten = result at loop
    cases loop with
    | completed accepted refreshed =>
        subst result_eq
        exact .completed accepted refreshed
    | failed at_index refused earlier =>
        exact .failed at_index refused earlier (marked_setBuffersState _ _)

theorem AllStored.not_notInitialized (stored : request.AllStored) (ads : Ads)
    (connection : Connection) (trace : Trace) :
    (request.chunksByAdsPort.visitAll (ReadRequestChunk.read ads connection) trace).exit ≠
      some .notInitialized := by
  have loop := stored.chunksRead ads connection trace
  generalize (request.chunksByAdsPort.visitAll (ReadRequestChunk.read ads connection) trace).exit =
    exit at loop ⊢
  generalize (request.chunksByAdsPort.visitAll (ReadRequestChunk.read ads connection)
    trace).state = state at loop
  cases loop with
  | completed => simp
  | failed => simp

end SumReadRequest

namespace RequestLife

variable {life : RequestLife}

theorem Started.kept_run (started : life.Started) (ads : Ads) (calls : List RequestCall) :
    (run (RequestLife.after ads) life calls).Kept :=
  run_invariant Kept (fun _ call kept => kept.after ads call) started.kept calls

theorem Kept.allStored (kept : life.Kept) : life.request.AllStored := by
  cases allocated : life.request.allocated with
  | true => exact kept.stored allocated
  | false =>
      intro port chunk member
      simp [SumReadRequest.chunkSet, (kept.fresh allocated).no_chunks] at member

/-- The call is no `read` that returns 0. -/
def ReadsNothing (ads : Ads) (life : RequestLife) : RequestCall → Prop
  | .read connection => (life.call ads (.read connection)).1 ≠ 0
  | _ => True

/-- Only a `read` that returns 0 marks buffers as valid. -/
theorem marked_after (ads : Ads) {life : RequestLife} (kept : life.Kept)
    (marked : life.request.Marked .invalid)
    {call : RequestCall} (reads_nothing : life.ReadsNothing ads call) :
    (life.after ads call).request.Marked .invalid := by
  cases call with
  | allocate variableIds memory => exact marked.allocate variableIds _
  | initializeRequest =>
      have loop := SortedMap.visitAll_always (ReadRequestChunk.initializeEntries life.heap.vars)
        (fun before after => after.sumReadDataBuffer.bufferState =
          before.sumReadDataBuffer.bufferState) life.request.chunksByAdsPort
        (fun _ _ _ => rfl) (fun _ _ => rfl) ()
      simp only [RequestLife.after, RequestLife.call, SumReadRequest.initializeRequest]
      split_ifs
      · exact marked
      · exact marked
      · exact marked.related loop
      · exact marked.related loop
  | read connection =>
      simp only [ReadsNothing, RequestLife.after, RequestLife.call] at reads_nothing ⊢
      have done := kept.allStored.readDone ads connection life.trace
      generalize life.request.read ads connection life.trace = result at done reads_nothing ⊢
      cases done with
      | refused => exact marked
      | completed => exact absurd rfl reads_nothing
      | failed _ _ _ lost => exact lost
  | deinitializeRequest =>
      exact marked.related (SortedMap.related_mapValues fun _ _ => rfl)
  | deallocate =>
      intro chunk member
      simp [RequestLife.after, RequestLife.call, SumReadRequest.getChunks,
        SumReadRequest.deallocate,
        SortedMap.values, SortedMap.empty] at member
  | readdress resolution => exact marked

theorem Kept.refilled (kept : life.Kept) {request : SumReadRequest}
    (refilled : life.request.Refilled request) : Kept { life with request } := by
  cases allocated : life.request.allocated with
  | true =>
      exact kept.sameLayout allocated (refilled.allocated_eq.trans allocated)
        refilled.toSameLayout life.trace
  | false =>
      have fresh := kept.fresh allocated
      refine kept_of_fresh ⟨?_, ?_, ?_, ?_, ?_⟩ _ _
      · rw [refilled.allocated_eq, allocated]
      · rw [refilled.initialized_eq, fresh.not_initialized]
      · have related := refilled.chunks
        rw [fresh.no_chunks] at related
        exact SortedMap.eq_empty_of_related related
      · rw [refilled.max_eq]
        exact fresh.max_pos
      · rw [refilled.max_eq]
        exact fresh.max_lt

theorem Kept.chunk_of_recorded (kept : life.Kept) {var : VarId}
    (recorded : var ∈ life.request.recorded) :
    ∃ ptr chunk, (life.heap.vars var).bufferReader.buffer = some ptr ∧
      (life.request.chunkSet ptr.port)[ptr.index]? = some chunk ∧
      life.request.getChunks[life.request.position ptr]? = some chunk ∧
      life.request.buffers ptr = some chunk.sumReadDataBuffer := by
  obtain ⟨ptr, buffer, at_ptr, live, _⟩ := kept.owns_slot recorded
  obtain ⟨chunk, at_index, rfl, at_position⟩ := SumReadRequest.chunk_of_buffers live
  exact ⟨ptr, chunk, at_ptr, at_index, at_position, live⟩

theorem Kept.read_fails (kept : life.Kept) (marked : life.request.Marked .invalid) {var : VarId}
    (recorded : var ∈ life.request.recorded) (size : Nat) (destination : Bytes) :
    ((life.heap.vars var).readFromBuffer life.request.buffers size destination).1 ≠ 0 := by
  obtain ⟨ptr, chunk, at_ptr, _, at_position, live⟩ := kept.chunk_of_recorded recorded
  exact ADSVariable.readFromBuffer_invalid at_ptr live
    (marked chunk (List.mem_of_getElem? at_position)) size destination

/-- While a `read` goes on that started with nothing valid, a variable can be read only after the
requests up to its own chunk have been accepted. -/
theorem Kept.midRead (kept : life.Kept) (marked : life.request.Marked .invalid) (ads : Ads)
    (connection : Connection) (count : Nat) {var : VarId} (recorded : var ∈ life.request.recorded)
    {size : Nat} {destination : Bytes}
    (served : ((life.heap.vars var).readFromBuffer
      (life.request.midRead ads connection count life.trace).buffers size destination).1 = 0) :
    ∃ ptr, (life.heap.vars var).bufferReader.buffer = some ptr ∧
      life.request.position ptr < count ∧
      ∀ event ∈ (ads.events life.trace (life.request.readCalls connection)).take
        (life.request.position ptr + 1), event.reply.rc = 0 := by
  have mid_eq : (life.request.midRead ads connection count life.trace).getChunks =
      (visit (ReadRequestChunk.read ads connection) life.trace
        (life.request.getChunks.take count)).result ++ life.request.getChunks.drop count := by
    rw [← visit_counted, SumReadRequest.getChunks, SumReadRequest.getChunks,
      SortedMap.visitAll_flatten]
    rfl
  have refilled := life.request.refilled_midRead ads connection count life.trace
  have recorded_mid : var ∈ (life.request.midRead ads connection count life.trace).recorded := by
    rw [refilled.recorded_eq]
    exact recorded
  obtain ⟨ptr, chunk, at_ptr, _, at_position, live⟩ :=
    (kept.refilled refilled).chunk_of_recorded recorded_mid
  have valid : chunk.sumReadDataBuffer.bufferState ≠ .invalid := fun invalid =>
    ADSVariable.readFromBuffer_invalid at_ptr live invalid size destination served
  simp only [mid_eq, SumReadRequest.position, refilled.chunks.before_eq] at at_position
  rw [← SumReadRequest.position] at at_position
  have stored := kept.allStored.each
  generalize position_eq : life.request.position ptr = position at at_position
  rcases Nat.lt_or_ge position (visit (ReadRequestChunk.read ads connection) life.trace
    (life.request.getChunks.take count)).result.length with taken | untaken
  · rw [List.getElem?_append_left taken] at at_position
    rw [length_visit, List.length_take] at taken
    refine ⟨ptr, at_ptr, by omega, ?_⟩
    rw [position_eq]
    have accepted := ReadRequestChunk.accepted_of_valid ads connection
      (fun other member => stored other (List.mem_of_mem_take member))
      (fun other member => marked other (List.mem_of_mem_take member)) life.trace at_position valid
    rw [List.map_take, Ads.events_take, List.take_take, Nat.min_eq_left (by omega)] at accepted
    exact accepted
  · rw [List.getElem?_append_right untaken] at at_position
    exact absurd (marked chunk (List.mem_of_mem_drop (List.mem_of_getElem? at_position))) valid

/-- Nothing is valid and no variable of the request can be read until a `read` returns 0; while one
goes on, until the requests up to the variable's own chunk have been accepted. -/
def LostUntilRead (ads : Ads) (life : RequestLife) : Prop :=
  ∀ later, EachMeets (RequestLife.after ads) (ReadsNothing ads) life later →
    let reached := run (RequestLife.after ads) life later
    reached.request.Marked .invalid ∧
      ∀ var ∈ reached.request.recorded, ∀ size destination,
        ((reached.heap.vars var).readFromBuffer reached.request.buffers size destination).1 ≠ 0 ∧
        ∀ connection count, ((reached.heap.vars var).readFromBuffer (reached.request.midRead ads
            connection count reached.trace).buffers size destination).1 = 0 →
          ∃ ptr, (reached.heap.vars var).bufferReader.buffer = some ptr ∧
            reached.request.position ptr < count ∧
            ∀ event ∈ (ads.events reached.trace (reached.request.readCalls connection)).take
              (reached.request.position ptr + 1), event.reply.rc = 0

theorem Kept.lostUntilRead (kept : life.Kept) (marked : life.request.Marked .invalid) (ads : Ads) :
    life.LostUntilRead ads := by
  intro later reads_nothing
  obtain ⟨kept, marked⟩ := run_induction
    (fun life : RequestLife => life.Kept ∧ life.request.Marked .invalid)
    (fun before call holds nothing =>
      ⟨holds.1.after ads call, marked_after ads holds.1 holds.2 nothing⟩)
    ⟨kept, marked⟩ reads_nothing
  refine ⟨marked, fun var recorded size destination => ⟨kept.read_fails marked recorded _ _, ?_⟩⟩
  intro connection count served
  exact kept.midRead marked ads connection count recorded served

/-- A `read` between two states is all or nothing: `sent` are its events. -/
structure AllOrNothing (ads : Ads) (connection : Connection) (before : RequestLife) (status : Int)
    (after : RequestLife) (sent : Trace) : Prop where
  trace_eq : after.trace = before.trace ++ sent
  in_order : sent.map AdsEvent.call <+: before.request.readCalls connection
  all : status = 0 → sent.map AdsEvent.call = before.request.readCalls connection ∧
    after.request.Marked .valid
  nothing : ∀ index event, sent[index]? = some event → event.reply.rc ≠ 0 →
    sent.length = index + 1 ∧ status ≠ 0 ∧ after.LostUntilRead ads

theorem Kept.allOrNothing (kept : life.Kept) (ads : Ads) (connection : Connection) :
    ∃ sent, AllOrNothing ads connection life (life.call ads (.read connection)).1
      (life.after ads (.read connection)) sent := by
  have kept_after := kept.after ads (.read connection)
  have done := kept.allStored.readDone ads connection life.trace
  have calls := ads.map_call_events life.trace (life.request.readCalls connection)
  simp only [RequestLife.after, RequestLife.call] at kept_after ⊢
  generalize ads.events life.trace (life.request.readCalls connection) = events at done calls
  generalize life.request.read ads connection life.trace = result at done kept_after ⊢
  cases done with
  | refused => exact ⟨[], by simp, by simp, by simp [epicsadsInvCall], by simp⟩
  | @completed after accepted refreshed =>
      refine ⟨events, rfl, by rw [calls], fun _ => ⟨calls, ?_⟩, ?_⟩
      · intro chunk member
        obtain ⟨_, _, _, _, _, rfl⟩ := mem_of_forall₂ refreshed member
        rfl
      · intro index event at_index refused
        exact absurd (accepted event (List.mem_of_getElem? at_index)) refused
  | @failed after index event at_index refused earlier marked =>
      have inside : index < events.length := (List.getElem?_eq_some_iff.mp at_index).1
      have status : adsRcToEpicsadsError event.reply.rc ≠ 0 :=
        fun zero => refused ((adsRcToEpicsadsError_eq_zero_iff _).mp zero)
      refine ⟨events.take (index + 1), rfl, ?_, fun zero => absurd zero status, ?_⟩
      · rw [← calls, List.map_take]
        exact List.take_prefix _ _
      · intro index' event' at_index' refused'
        obtain rfl : index' = index := by
          have upto : index' < (events.take (index + 1)).length :=
            (List.getElem?_eq_some_iff.mp at_index').1
          rw [List.length_take] at upto
          by_contra other
          rw [List.getElem?_take_of_lt (by omega)] at at_index'
          refine refused' (earlier event' (List.mem_of_getElem? (i := index') ?_))
          rw [List.getElem?_take_of_lt (by omega), at_index']
        exact ⟨by rw [List.length_take]; omega, status, kept_after.lostUntilRead marked ads⟩

/-- A sum-read over several chunks is all or nothing, whatever the request has gone through and
however its buffers are filled and marked. -/
theorem read_all_or_nothing (ads : Ads) {start : RequestLife} (started : start.Started)
    (calls : List RequestCall) {request : SumReadRequest}
    (refilled : (run (RequestLife.after ads) start calls).request.Refilled request)
    (connection : Connection) :
    let life := { run (RequestLife.after ads) start calls with request }
    (∃ sent, AllOrNothing ads connection life (life.call ads (.read connection)).1
      (life.after ads (.read connection)) sent) ∧
    (request.chunksByAdsPort.visitAll (ReadRequestChunk.read ads connection) life.trace).exit ≠
      some .notInitialized := by
  have kept := (started.kept_run ads calls).refilled refilled
  exact ⟨kept.allOrNothing ads connection, kept.allStored.not_notInitialized ads connection _⟩

/-- The calls that make the sample request ready. -/
def sampleCalls : List RequestCall :=
  [.allocate [0, 1, 2, 0] [], .readdress fun var => some (adsigrpSymValByHnd, UInt32.ofNat var),
    .initializeRequest]

theorem read_all_or_nothing_sample :
    ∃ sent, AllOrNothing SumReadRequest.sevensAds { adsPort := 1 }
      (run (RequestLife.after SumReadRequest.sevensAds) sampleLife sampleCalls) 0
      ((run (RequestLife.after SumReadRequest.sevensAds) sampleLife sampleCalls).after
        SumReadRequest.sevensAds (.read { adsPort := 1 })) sent :=
  (read_all_or_nothing SumReadRequest.sevensAds sampleLife_started sampleCalls
    ⟨.refl _, rfl, rfl⟩ { adsPort := 1 }).1

/-- All positions of a range were filled by an answer. -/
def Written (answer : Bytes) (offset length : Nat) : Prop :=
  ∀ position, offset ≤ position → position < offset + length → position < answer.length

theorem Written.mono {answer : Bytes} {offset length shorter : Nat}
    (written : Written answer offset length) (short : shorter ≤ length) :
    Written answer offset shorter :=
  fun position behind inside => written position behind (by omega)

theorem Written.window_eq {answer : Bytes} {offset length : Nat}
    (written : Written answer offset length) (memory : Bytes) :
    window offset length (overwrite answer memory) = window offset length answer := by
  cases length with
  | zero => simp [window]
  | succ length =>
      have inside := written (offset + length) (by omega) (by omega)
      exact window_append_left _ (by omega)

/-- The buffer that serves a variable, what it holds before a `read`, and the answer that its chunk
gets in that `read`. -/
structure Serves (ads : Ads) (connection : Connection) (life : RequestLife) (var : VarId)
    (buffer : SumReadBuffer) (memory answer : Bytes) : Prop where
  stored : buffer.buffer = some memory
  answered : ∃ ptr event, (life.heap.vars var).bufferReader.buffer = some ptr ∧
    life.request.buffers ptr = some buffer ∧
    (ads.events life.trace (life.request.readCalls connection))[life.request.position ptr]? =
      some event ∧
    answer = event.reply.data.take (u32 buffer.bufferSize)

theorem Serves.unique {ads : Ads} {connection : Connection} {var : VarId}
    {buffer buffer' : SumReadBuffer} {memory memory' answer answer' : Bytes}
    (first : Serves ads connection life var buffer memory answer)
    (second : Serves ads connection life var buffer' memory' answer') :
    buffer = buffer' ∧ memory = memory' ∧ answer = answer' := by
  obtain ⟨stored, ptr, event, at_ptr, live, at_event, rfl⟩ := first
  obtain ⟨stored', ptr', event', at_ptr', live', at_event', rfl⟩ := second
  obtain rfl : ptr = ptr' := by simpa [at_ptr] using at_ptr'
  obtain rfl : buffer = buffer' := by simpa [live] using live'
  obtain rfl : event = event' := by simpa [at_event] using at_event'
  exact ⟨rfl, by simpa [stored] using stored', rfl⟩

/-- Where the result code of a variable stands in its buffer. -/
def codeOffset (life : RequestLife) (var : VarId) : Nat :=
  SumReadBuffer.resultSize * (life.heap.vars var).bufferReader.offResult

/-- Where the data of a variable stand in its buffer. -/
def dataOffset (life : RequestLife) (var : VarId) (buffer : SumReadBuffer) : Nat :=
  buffer.startOfDataOffset + (life.heap.vars var).bufferReader.offData

/-- Whatever a successful read of the variable delivers was filled by the answer: the result code
and, unless the read returns the value last written, the data. -/
def FromAnswer (life after : RequestLife) (var : VarId) (buffer : SumReadBuffer)
    (answer : Bytes) : Prop :=
  ∀ size destination,
    ((after.heap.vars var).readFromBuffer after.request.buffers size destination).1 = 0 →
      Written answer (life.codeOffset var) SumReadBuffer.resultSize ∧
      ((life.heap.vars var).echoPending = false →
        Written answer (life.dataOffset var buffer) (min size (life.heap.vars var).size) ∧
        (after.heap.vars var).readFromBuffer after.request.buffers size destination =
          (0, overwrite (window (life.dataOffset var buffer) (min size (life.heap.vars var).size)
            answer) destination, life.heap.vars var))

/-- The answer covers the result code and the data of the variable, or the bytes that stand for the
code afterwards, the answer's followed by older ones, are an error. -/
def CoveredOrRefused (life : RequestLife) (var : VarId) (buffer : SumReadBuffer)
    (memory answer : Bytes) : Prop :=
  Written answer (life.codeOffset var) SumReadBuffer.resultSize ∧
      ((life.heap.vars var).echoPending = false →
        Written answer (life.dataOffset var buffer) (life.heap.vars var).size) ∨
    leNat (window (life.codeOffset var) SumReadBuffer.resultSize (overwrite answer memory)) ≠ 0

/-- After a `read` that returns 0 a variable is served from the buffer of its chunk with the answer
over what it held before. -/
theorem Kept.serves (kept : life.Kept) {ads : Ads} {connection : Connection}
    (done : (life.call ads (.read connection)).1 = 0) {var : VarId}
    (recorded : var ∈ life.request.recorded) :
    ∃ buffer memory answer, Serves ads connection life var buffer memory answer ∧
      (life.heap.vars var).Placed (life.after ads (.read connection)).request.buffers ∧
      (life.heap.vars var).snapshot (life.after ads (.read connection)).request.buffers =
        some (leNat (window (life.codeOffset var) SumReadBuffer.resultSize
          (overwrite answer memory)),
          window (life.dataOffset var buffer) (life.heap.vars var).size
            (overwrite answer memory)) := by
  have kept_after := kept.after ads (.read connection)
  have same := life.request.sameLayout_read ads connection life.trace
  have outcome := kept.allStored.readDone ads connection life.trace
  simp only [RequestLife.after, RequestLife.call] at done kept_after ⊢
  generalize life.request.read ads connection life.trace = result at done kept_after same outcome ⊢
  cases outcome with
  | refused => simp [epicsadsInvCall] at done
  | failed _ refused => exact absurd ((adsRcToEpicsadsError_eq_zero_iff _).mp done) refused
  | @completed after accepted refreshed =>
      have recorded_after : var ∈ after.recorded := by
        rw [same.recorded_eq]
        exact recorded
      obtain ⟨ptr, chunk, at_ptr, at_index, at_position, live⟩ :=
        kept_after.chunk_of_recorded recorded_after
      dsimp only at at_ptr at_index at_position live
      obtain ⟨⟨before, event⟩, in_zip, memory, previous, stored, rfl⟩ :=
        getElem?_of_forall₂ refreshed at_position
      obtain ⟨at_before, at_event⟩ := List.getElem?_zip_eq_some.mp in_zip
      obtain ⟨ptr', chunk', at_ptr', _, at_position', live'⟩ := kept.chunk_of_recorded recorded
      obtain rfl : ptr = ptr' := by simpa [at_ptr] using at_ptr'
      have position_eq : after.position ptr = life.request.position ptr := by
        rw [SumReadRequest.position, SumReadRequest.position, same.chunks.before_eq]
      rw [position_eq] at at_before at_event
      obtain rfl : before = chunk' := by simpa [at_before] using at_position'
      refine ⟨before.sumReadDataBuffer, memory, _,
        ⟨stored, ptr, event, at_ptr, live', at_event, rfl⟩,
        kept_after.placed recorded_after, ?_⟩
      simp only [ADSVariable.snapshot, at_ptr, Option.bind_some, live]
      rfl

/-- The condition decides what a successful read of a variable can deliver. -/
theorem fromAnswer_iff {ads : Ads} {connection : Connection} {var : VarId}
    {buffer : SumReadBuffer} {memory answer : Bytes}
    (placed : (life.heap.vars var).Placed (life.after ads (.read connection)).request.buffers)
    (taken : (life.heap.vars var).snapshot (life.after ads (.read connection)).request.buffers =
      some (leNat (window (life.codeOffset var) SumReadBuffer.resultSize (overwrite answer memory)),
        window (life.dataOffset var buffer) (life.heap.vars var).size (overwrite answer memory))) :
    FromAnswer life (life.after ads (.read connection)) var buffer answer ↔
      CoveredOrRefused life var buffer memory answer := by
  have same_vars : (life.after ads (.read connection)).heap.vars var = life.heap.vars var := rfl
  have served_iff := ADSVariable.readFromBuffer_eq_zero_iff placed taken
  rw [FromAnswer, same_vars, CoveredOrRefused]
  constructor
  · intro from_answer
    by_cases accepted : leNat (window (life.codeOffset var) SumReadBuffer.resultSize
      (overwrite answer memory)) = 0
    · obtain ⟨code, data⟩ :=
        from_answer (life.heap.vars var).size [] ((served_iff _ _).mpr accepted)
      refine .inl ⟨code, fun no_echo => ?_⟩
      have covered := (data no_echo).1
      rwa [Nat.min_self] at covered
    · exact .inr accepted
  · rintro covered size destination served
    obtain ⟨code, data⟩ := covered.resolve_right (not_not_intro ((served_iff _ _).mp served))
    refine ⟨code, fun no_echo => ?_⟩
    have short := (data no_echo).mono (Nat.min_le_right size (life.heap.vars var).size)
    refine ⟨short, ?_⟩
    have delivered :=
      (ADSVariable.readFromBuffer_of_snapshot placed taken no_echo size destination).1
      ((served_iff _ _).mp served)
    rw [delivered, take_window, Nat.min_eq_left (Nat.min_le_right _ _), short.window_eq]

/-- After a `read` that returns 0 everything that variables are served comes from the answers of
that `read` exactly when each answer covers the variables of its chunk, or leaves an error as their
result code. -/
theorem served_fromAnswer_iff (ads : Ads) {start : RequestLife} (started : start.Started)
    (calls : List RequestCall) {request : SumReadRequest}
    (refilled : (run (RequestLife.after ads) start calls).request.Refilled request)
    (connection : Connection)
    (done : ({ run (RequestLife.after ads) start calls with request }.call ads
      (.read connection)).1 = 0) :
    let life := { run (RequestLife.after ads) start calls with request }
    (∀ var ∈ request.recorded, ∃ buffer memory answer,
        Serves ads connection life var buffer memory answer ∧
        FromAnswer life (life.after ads (.read connection)) var buffer answer) ↔
      ∀ var ∈ request.recorded, ∃ buffer memory answer,
        Serves ads connection life var buffer memory answer ∧
        CoveredOrRefused life var buffer memory answer := by
  have kept := (started.kept_run ads calls).refilled refilled
  refine forall₂_congr fun var recorded => ?_
  obtain ⟨buffer, memory, answer, serves, placed, taken⟩ := kept.serves done recorded
  constructor
  · rintro ⟨buffer', memory', answer', serves', from_answer⟩
    obtain ⟨rfl, rfl, rfl⟩ := serves.unique serves'
    exact ⟨buffer, memory, answer, serves, (fromAnswer_iff placed taken).mp from_answer⟩
  · rintro ⟨buffer', memory', answer', serves', covered⟩
    obtain ⟨rfl, rfl, rfl⟩ := serves.unique serves'
    exact ⟨buffer, memory, answer, serves, (fromAnswer_iff placed taken).mpr covered⟩

theorem served_fromAnswer_iff_sample :
    let life := run (RequestLife.after SumReadRequest.sevensAds) sampleLife sampleCalls
    (∀ var ∈ life.request.recorded, ∃ buffer memory answer,
        Serves SumReadRequest.sevensAds { adsPort := 1 } life var buffer memory answer ∧
        FromAnswer life (life.after SumReadRequest.sevensAds (.read { adsPort := 1 })) var buffer
          answer) ↔
      ∀ var ∈ life.request.recorded, ∃ buffer memory answer,
        Serves SumReadRequest.sevensAds { adsPort := 1 } life var buffer memory answer ∧
        CoveredOrRefused life var buffer memory answer :=
  served_fromAnswer_iff SumReadRequest.sevensAds sampleLife_started sampleCalls
    ⟨.refl _, rfl, rfl⟩ { adsPort := 1 } (by decide)

/-- A library whose every call succeeds without data. -/
def silentAds : Ads := fun _ _ => {}

/-- An empty answer with code 0 is served as the zeros that the storage was made of. -/
theorem empty_answer_served :
    let life := run (RequestLife.after silentAds) sampleLife sampleCalls
    (life.call silentAds (.read { adsPort := 1 })).1 = 0 ∧
      ¬ ∀ var ∈ life.request.recorded, ∃ buffer memory answer,
        Serves silentAds { adsPort := 1 } life var buffer memory answer ∧
        FromAnswer life (life.after silentAds (.read { adsPort := 1 })) var buffer answer := by
  refine ⟨by decide, fun answered => ?_⟩
  obtain ⟨buffer, memory, answer, serves, from_answer⟩ := answered 0 (by decide)
  obtain ⟨code, -⟩ := from_answer 2 [] (by decide)
  obtain ⟨ptr, event, -, -, at_event, rfl⟩ := serves.answered
  obtain ⟨before, call, rfl⟩ := Ads.exists_of_mem_events (List.mem_of_getElem? at_event)
  have inside := code _ le_rfl (Nat.lt_add_of_pos_right (by decide))
  simp [silentAds] at inside

end RequestLife

end AdsDriver
