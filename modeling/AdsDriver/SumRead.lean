import AdsDriver.Allocation

/-!
# What a sum-read delivers

A device answers a sum-read of `n` entries by `n` result codes and then `n` data blocks.  The
answer goes into the buffer unchanged, so the position of a variable in its chunk, its entry in
the request, its result code and its data block all have the same index.
-/

namespace AdsDriver

open ByteMemory EarlyExit Packing

/-- The result codes and data blocks that a device gives for the entries of a sum-read at a port.
They may depend on everything that happened before. -/
abbrev Delivery := Trace → UInt16 → List AdsSymbolInfoByName → List (UInt32 × Bytes)

/-- The answer to a sum-read: all result codes, then all data blocks. -/
def encodeAnswers (answers : List (UInt32 × Bytes)) : Bytes :=
  (answers.flatMap fun answer => leBytes 4 answer.1.toNat) ++ answers.flatMap Prod.snd

/-- A device that answers each entry of a sum-read by a code and as many bytes as requested. -/
structure AnswersSumReads (ads : Ads) (deliver : Delivery) : Prop where
  lengths : ∀ trace target entries,
    (deliver trace target entries).map (fun answer => answer.2.length) =
      entries.map fun entry => entry.cbLength.toNat
  answers : ∀ trace port netId target count readLength writeLength writeData,
    (ads trace (.readWrite port netId target adsigrpSumupRead count readLength writeLength
      writeData)).data =
      encodeAnswers (deliver trace target (AdsSymbolInfoByName.decode count.toNat writeData))

/-- The entries that a call sends to a port by a sum-read, each with what the device delivers. -/
def exchangedBy (deliver : Delivery) (target : UInt16) (before : Trace) :
    AdsCall → List (AdsSymbolInfoByName × UInt32 × Bytes)
  | .readWrite _ _ port group count _ _ writeData =>
      if port = target ∧ group = adsigrpSumupRead then
        let entries := AdsSymbolInfoByName.decode count.toNat writeData
        entries.zip (deliver before port entries)
      else []
  | _ => []

/-- The entries sent to a port by the sum-reads in `events`, each with what the device
delivered. -/
def exchanged (deliver : Delivery) (target : UInt16) :
    Trace → Trace → List (AdsSymbolInfoByName × UInt32 × Bytes)
  | _, [] => []
  | before, event :: events =>
      exchangedBy deliver target before event.call ++
        exchanged deliver target (before ++ [event]) events

/-- What was exchanged was delivered for an entry of one request. -/
theorem mem_exchanged {deliver : Delivery} {target : UInt16} {before events : Trace}
    {entry : AdsSymbolInfoByName} {answer : UInt32 × Bytes}
    (member : (entry, answer) ∈ exchanged deliver target before events) :
    ∃ (earlier : Trace) (entries : List AdsSymbolInfoByName) (index : Nat),
      earlier <+: events ∧ entries[index]? = some entry ∧
      (deliver (before ++ earlier) target entries)[index]? = some answer := by
  induction events generalizing before with
  | nil => simp [exchanged] at member
  | cons event events ih =>
      rw [exchanged, List.mem_append] at member
      rcases member with here | later
      · unfold exchangedBy at here
        split at here
        · split_ifs at here with same
          · obtain ⟨index, at_index⟩ := List.mem_iff_getElem?.mp here
            rw [List.getElem?_zip_eq_some] at at_index
            refine ⟨[], _, index, List.nil_prefix, at_index.1, ?_⟩
            rw [List.append_nil, ← same.1]
            exact at_index.2
          · simp at here
        · simp at here
      · obtain ⟨earlier, entries, index, reached, at_index, answered⟩ := ih later
        refine ⟨event :: earlier, entries, index, List.cons_prefix_cons.mpr ⟨rfl, reached⟩,
          at_index, ?_⟩
        simpa using answered

theorem encodeAnswers_eq (answers : List (UInt32 × Bytes)) :
    encodeAnswers answers =
      (answers.map (fun answer => leBytes 4 answer.1.toNat) ++ answers.map Prod.snd).flatten := by
  rw [encodeAnswers, List.flatMap, List.flatMap, List.flatten_append]

theorem length_encodeAnswers (answers : List (UInt32 × Bytes)) :
    (encodeAnswers answers).length =
      4 * answers.length + (answers.map fun answer => answer.2.length).sum := by
  rw [encodeAnswers, List.length_append, List.length_flatMap, List.length_flatMap]
  simp [Nat.mul_comm]

private theorem length_code {answers : List (UInt32 × Bytes)} {block : Bytes}
    (member : block ∈ answers.map fun answer => leBytes 4 answer.1.toNat) : block.length = 4 := by
  obtain ⟨_, _, rfl⟩ := List.mem_map.mp member
  exact length_leBytes _ _

theorem window_encodeAnswers_code {answers : List (UInt32 × Bytes)} {index : Nat}
    {answer : UInt32 × Bytes} (at_index : answers[index]? = some answer) :
    window (4 * index) 4 (encodeAnswers answers) = leBytes 4 answer.1.toNat := by
  have inside : index < answers.length := (List.getElem?_eq_some_iff.mp at_index).1
  have in_blocks : (answers.map (fun answer => leBytes 4 answer.1.toNat) ++
      answers.map Prod.snd)[index]? = some (leBytes 4 answer.1.toNat) := by
    rw [List.getElem?_append_left (by simpa using inside), List.getElem?_map, at_index]
    rfl
  have found := window_flatten in_blocks
  rw [List.take_append_of_le_length (by simpa using inside.le), sum_length_of_uniform
    (fun _ member => length_code (List.mem_of_mem_take member))] at found
  rw [encodeAnswers_eq]
  simpa [List.length_take, Nat.min_eq_left inside.le] using found

theorem window_encodeAnswers_data {answers : List (UInt32 × Bytes)} {index : Nat}
    {answer : UInt32 × Bytes} (at_index : answers[index]? = some answer) :
    window (4 * answers.length + ((answers.take index).map fun answer => answer.2.length).sum)
      answer.2.length (encodeAnswers answers) = answer.2 := by
  have in_blocks : (answers.map (fun answer => leBytes 4 answer.1.toNat) ++
      answers.map Prod.snd)[answers.length + index]? = some answer.2 := by
    rw [List.getElem?_append_right (by simp)]
    simp [at_index]
  have found := window_flatten in_blocks
  have front_eq :
      (answers.map (fun answer => leBytes 4 answer.1.toNat) ++ answers.map Prod.snd).take
        (answers.length + index) =
      answers.map (fun answer => leBytes 4 answer.1.toNat) ++
        (answers.take index).map Prod.snd := by
    rw [List.take_append, List.take_of_length_le (by simp), List.map_take]
    simp
  rw [front_eq, List.map_append, List.sum_append, sum_length_of_uniform fun _ => length_code,
    List.map_map] at found
  rw [encodeAnswers_eq]
  simpa [Function.comp_def] using found

namespace ReadRequestChunk

/-- The result codes and data blocks in the buffer of a chunk, in the order of its variables. -/
def held (size : VarId → Nat) (chunk : ReadRequestChunk) : List (UInt32 × Bytes) :=
  match chunk.sumReadDataBuffer.buffer with
  | none => []
  | some memory => chunk.vars.mapIdx fun index var =>
      (UInt32.ofNat (leNat (window (4 * index) 4 memory)),
        window (4 * chunk.vars.length + ((chunk.vars.take index).map size).sum) (size var) memory)

/-- A buffer that was filled by an answer holds what the device delivered. -/
theorem held_of_answer {size : VarId → Nat} {chunk : ReadRequestChunk}
    {answers : List (UInt32 × Bytes)}
    (stored : chunk.sumReadDataBuffer.buffer = some (encodeAnswers answers))
    (lengths : answers.map (fun answer => answer.2.length) = chunk.vars.map size) :
    chunk.held size = answers := by
  have count : answers.length = chunk.vars.length := by simpa using congrArg List.length lengths
  apply List.ext_getElem?
  intro index
  simp only [held, stored, List.getElem?_mapIdx]
  cases at_index : answers[index]? with
  | none =>
      have outside : chunk.vars[index]? = none := by
        rw [List.getElem?_eq_none_iff] at at_index ⊢
        omega
      simp [outside]
  | some answer =>
      have lengths_at := congrArg (fun lengths => lengths[index]?) lengths
      simp only [List.getElem?_map, at_index, Option.map_some] at lengths_at
      obtain ⟨var, in_vars, size_eq⟩ := Option.map_eq_some_iff.mp lengths_at.symm
      have before_eq : ((answers.take index).map fun answer => answer.2.length).sum =
          ((chunk.vars.take index).map size).sum := by
        rw [List.map_take, lengths, List.map_take]
      have code := window_encodeAnswers_code at_index
      have data := window_encodeAnswers_data at_index
      rw [count, before_eq, ← size_eq] at data
      simp only [in_vars, Option.map_some, code, data]
      rw [leNat_leBytes_of_lt (by simpa using answer.1.toNat_lt), UInt32.ofNat_toNat]

theorem length_held {size : VarId → Nat} {chunk : ReadRequestChunk} (stored : chunk.Stored) :
    (chunk.held size).length = chunk.vars.length := by
  obtain ⟨_, memory, stored, _⟩ := stored
  simp [held, stored]

/-- What a chunk needs to be read: its storage, a size that fits into 32 bits and the entries of
its variables. -/
structure Readable (vars : Vars) (maxVariables : Nat) (chunk : ReadRequestChunk) : Prop where
  sound : chunk.Sound (fun var => (vars var).size) maxVariables chunk.adsPort.toNat
  stored : chunk.Stored
  small : chunk.sumReadDataBuffer.bufferSize < 2 ^ 32
  entries : chunk.sumReadRequestBuffer = chunk.vars.map fun var => (vars var).requestEntry

/-- The request for `entries` at a port, as the device receives it. -/
def RequestsEntries (connection : Connection) (target : UInt16)
    (entries : List AdsSymbolInfoByName) (call : AdsCall) : Prop :=
  call = .readWrite connection.adsPort connection.remoteAmsNetId target adsigrpSumupRead
    (UInt32.ofNat entries.length)
    (4 * entries.length + (entries.map fun entry => entry.cbLength.toNat).sum)
    (12 * entries.length) (entries.flatMap AdsSymbolInfoByName.bytes)

variable {vars : Vars} {maxVariables : Nat} {chunk : ReadRequestChunk}

theorem toNat_cbLength (var : ADSVariable) : var.requestEntry.cbLength.toNat = var.size := by
  rw [ADSVariable.requestEntry, UInt32.toNat_ofNat']
  exact Nat.mod_eq_of_lt var.size_lt

theorem Readable.lengths (readable : chunk.Readable vars maxVariables) :
    (chunk.sumReadRequestBuffer.map fun entry => entry.cbLength.toNat) =
      chunk.vars.map fun var => (vars var).size := by
  rw [readable.entries, List.map_map]
  exact List.map_congr_left fun var _ => toNat_cbLength (vars var)

theorem Readable.count_lt (readable : chunk.Readable vars maxVariables) :
    chunk.vars.length < 2 ^ 16 := by
  have count_le := readable.sound.layout.count_le
  have max_lt := readable.sound.layout.max_lt
  rw [readable.sound.vars_eq] at count_le
  omega

theorem Readable.requestsEntries (readable : chunk.Readable vars maxVariables)
    (connection : Connection) :
    RequestsEntries connection chunk.adsPort chunk.sumReadRequestBuffer
      (chunk.readCall connection) := by
  have count : chunk.sumReadRequestBuffer.length = chunk.vars.length := by
    simp [readable.entries]
  have count_lt := readable.count_lt
  have total := readable.sound.layout.buffer_size
  rw [readable.sound.vars_eq] at total
  rw [RequestsEntries, readCall, readable.sound.layout.getNumVariables_eq, readable.sound.vars_eq,
    count, u32_of_lt readable.small, u32_of_lt (by omega), readable.lengths, total,
    Nat.mul_comm 12]
  rfl

theorem Readable.decode_eq (readable : chunk.Readable vars maxVariables) :
    AdsSymbolInfoByName.decode (UInt32.ofNat chunk.sumReadRequestBuffer.length).toNat
      (chunk.sumReadRequestBuffer.flatMap AdsSymbolInfoByName.bytes) =
      chunk.sumReadRequestBuffer := by
  have count_lt := readable.count_lt
  have count : chunk.sumReadRequestBuffer.length < 2 ^ 32 := by
    rw [readable.entries, List.length_map]
    omega
  rw [UInt32.toNat_ofNat', Nat.mod_eq_of_lt count]
  exact AdsSymbolInfoByName.decode_flatMap_bytes _

theorem Readable.exchangedBy (readable : chunk.Readable vars maxVariables) (deliver : Delivery)
    (connection : Connection) (target : UInt16) (before : Trace) :
    exchangedBy deliver target before (chunk.readCall connection) =
      if chunk.adsPort = target then
        chunk.sumReadRequestBuffer.zip (deliver before chunk.adsPort chunk.sumReadRequestBuffer)
      else [] := by
  rw [readable.requestsEntries connection]
  simp only [AdsDriver.exchangedBy, readable.decode_eq, and_true]

/-- Reading a chunk leaves exactly the device's answer in its buffer. -/
theorem Readable.read (readable : chunk.Readable vars maxVariables) {ads : Ads}
    {deliver : Delivery} (device : AnswersSumReads ads deliver) (connection : Connection)
    (trace : Trace) (returned : (chunk.read ads connection trace).exit = none) :
    (chunk.read ads connection trace).state =
        trace ++ [ads.event trace (chunk.readCall connection)] ∧
      (chunk.read ads connection trace).result.sumReadDataBuffer.bufferState = .valid ∧
      (chunk.read ads connection trace).result.sumReadRequestBuffer = chunk.sumReadRequestBuffer ∧
      (chunk.read ads connection trace).result.held (fun var => (vars var).size) =
        deliver trace chunk.adsPort chunk.sumReadRequestBuffer := by
  obtain ⟨initialized, memory, stored, memory_length⟩ := readable.stored
  obtain ⟨previous, read_eq⟩ := read_of_stored initialized stored ads connection trace rfl
  have lengths := device.lengths trace chunk.adsPort chunk.sumReadRequestBuffer
  have data_eq : (ads trace (chunk.readCall connection)).data =
      encodeAnswers (deliver trace chunk.adsPort chunk.sumReadRequestBuffer) := by
    rw [readable.requestsEntries connection, device.answers, readable.decode_eq]
  have count : (deliver trace chunk.adsPort chunk.sumReadRequestBuffer).length =
      chunk.vars.length := by
    simpa [readable.entries] using congrArg List.length lengths
  have whole : (encodeAnswers (deliver trace chunk.adsPort chunk.sumReadRequestBuffer)).length =
      chunk.sumReadDataBuffer.bufferSize := by
    rw [length_encodeAnswers, lengths, readable.lengths, count, readable.sound.layout.buffer_size,
      readable.sound.vars_eq]
    rfl
  rw [read_eq] at returned ⊢
  have accepted : (ads trace (chunk.readCall connection)).rc = 0 := by
    by_contra refused
    simp [Ads.event, refused] at returned
  refine ⟨rfl, by simp [Ads.event, accepted], rfl,
    held_of_answer ?_ (lengths.trans readable.lengths)⟩
  simp only [Ads.event, data_eq, u32_of_lt readable.small]
  rw [List.take_of_length_le whole.le, overwrite_of_length_le (by rw [memory_length, whole])]

end ReadRequestChunk

/-- The entries of a chunk with what its buffer holds for them. -/
def ReadRequestChunk.exchange (size : VarId → Nat) (chunk : ReadRequestChunk) :
    List (AdsSymbolInfoByName × UInt32 × Bytes) :=
  chunk.sumReadRequestBuffer.zip (chunk.held size)

/-- What the loop over chunks leaves behind: an event for each chunk, and in the buffers for a port
exactly what was exchanged with that port, in order. -/
theorem readChunks_ok {ads : Ads} {deliver : Delivery} (device : AnswersSumReads ads deliver)
    {vars : Vars} {maxVariables : Nat} (connection : Connection) {chunks : List ReadRequestChunk}
    (readable : ∀ chunk ∈ chunks, chunk.Readable vars maxVariables) (trace : Trace)
    (returned : (visit (ReadRequestChunk.read ads connection) trace chunks).exit = none) :
    ∃ events, (visit (ReadRequestChunk.read ads connection) trace chunks).state = trace ++ events ∧
      (∀ event ∈ events, ∃ chunk ∈ chunks, ReadRequestChunk.RequestsEntries connection
        chunk.adsPort chunk.sumReadRequestBuffer event.call) ∧
      (∀ chunk ∈ (visit (ReadRequestChunk.read ads connection) trace chunks).result,
        chunk.sumReadDataBuffer.bufferState = .valid ∧
          chunk.sumReadRequestBuffer = chunk.vars.map fun var => (vars var).requestEntry) ∧
      ∀ target, exchanged deliver target trace events =
        ((visit (ReadRequestChunk.read ads connection) trace chunks).result.filter
          fun chunk => chunk.adsPort = target).flatMap
            (ReadRequestChunk.exchange fun var => (vars var).size) := by
  induction chunks generalizing trace with
  | nil => exact ⟨[], by simp, by simp, by simp, by simp [exchanged]⟩
  | cons chunk chunks ih =>
      have first := readable chunk (by simp)
      cases left : (ReadRequestChunk.read ads connection trace chunk).exit with
      | some failure => simp [visit_cons_exit left] at returned
      | none =>
          obtain ⟨state_eq, valid, entries_eq, held_eq⟩ :=
            first.read device connection trace left
          have same := chunk.sameLayout_read ads connection trace
          rw [visit_cons_next left] at returned ⊢
          obtain ⟨events, rest_state, rest_calls, rest_valid, rest_exchanged⟩ :=
            ih (fun other member => readable other (by simp [member])) _ returned
          have request := first.requestsEntries connection
          refine ⟨ads.event trace (chunk.readCall connection) :: events, ?_, ?_, ?_, ?_⟩
          · rw [rest_state, state_eq]
            simp
          · intro event member
            rcases List.mem_cons.mp member with rfl | later
            · exact ⟨chunk, by simp, request⟩
            · obtain ⟨other, in_chunks, call_eq⟩ := rest_calls event later
              exact ⟨other, by simp [in_chunks], call_eq⟩
          · intro other member
            rcases List.mem_cons.mp member with rfl | later
            · exact ⟨valid, by rw [entries_eq, same.vars_eq, first.entries]⟩
            · exact rest_valid other later
          · intro target
            rw [exchanged, Ads.call_event, first.exchangedBy, ← state_eq, rest_exchanged target]
            by_cases at_target : chunk.adsPort = target
            · simp [at_target, same.port_eq, ReadRequestChunk.exchange, entries_eq, held_eq]
            · simp [at_target, same.port_eq]

namespace SumReadRequest

variable {vars after : Vars} {variableIds : List VarId}
  {given : List (VarId × BufferDataPosition)} {request : SumReadRequest}

theorem Distributed.filter_getChunks
    (distributed : Distributed vars variableIds given request after)
    (target : UInt16) :
    request.getChunks.filter (fun chunk => chunk.adsPort = target) =
      request.chunkSet target.toNat := by
  have by_port := SortedMap.filter_flatten_values request.chunksByAdsPort
    (fun chunk => chunk.adsPort.toNat) (fun port chunks found chunk member =>
      (distributed.sound port chunk (by simpa [chunkSet, found] using member)).port_eq)
    target.toNat
  rw [getChunks, chunkSet, ← by_port]
  simp only [UInt16.toNat_inj]

/-- A chunk in place is a live buffer. -/
theorem buffers_of_chunkSet {port index : Nat} {chunk : ReadRequestChunk}
    (at_index : (request.chunkSet port)[index]? = some chunk) :
    request.buffers ⟨request.deallocations, port, index⟩ = some chunk.sumReadDataBuffer := by
  unfold chunkSet at at_index
  cases found : request.chunksByAdsPort.find? port with
  | none => simp [found] at at_index
  | some chunks =>
      rw [found, Option.getD_some] at at_index
      simp [buffers, found, at_index]

/-- The place of a variable: its chunk, and its position among all variables of its port. -/
theorem Distributed.place (distributed : Distributed vars variableIds given request after)
    {var : VarId} (listed : var ∈ variableIds) :
    ∃ index chunk front back later,
      (request.chunkSet (portOf vars var))[index]? = some chunk ∧
      chunk.vars = front ++ var :: back ∧
      variableIds.filter (fun other => portOf vars other = portOf vars var) =
        (((request.chunkSet (portOf vars var)).take index).flatMap
          ReadRequestChunk.vars ++ front) ++
          var :: later ∧
      var ∉ later ∧
      (after var).bufferReader = ⟨some ⟨request.deallocations, portOf vars var, index⟩,
        front.length, (front.map fun other => (vars other).size).sum⟩ := by
  obtain ⟨index, front, ⟨back, at_index, not_back, not_later⟩, reader⟩ :=
    distributed.readers var listed
  have flatten_eq := (distributed.packed (portOf vars var)).flatten_eq
  generalize request.chunkSet (portOf vars var) = chunks at *
  rw [List.getElem?_map] at at_index
  obtain ⟨chunk, in_chunks, vars_eq⟩ := Option.map_eq_some_iff.mp at_index
  obtain ⟨inside, chunk_eq⟩ := List.getElem?_eq_some_iff.mp in_chunks
  refine ⟨index, chunk, front, back,
    back ++ (chunks.drop (index + 1)).flatMap ReadRequestChunk.vars, in_chunks, vars_eq, ?_, ?_,
    reader⟩
  · have split_chunks : chunks = chunks.take index ++ chunk :: chunks.drop (index + 1) := by
      rw [← chunk_eq, ← List.drop_eq_getElem_cons inside, List.take_append_drop]
    rw [← flatten_eq]
    conv_lhs => rw [split_chunks]
    simp [List.flatMap, vars_eq]
  · intro member
    rcases List.mem_append.mp member with in_back | in_rest
    · exact not_back in_back
    · obtain ⟨later, in_later, holds⟩ := List.mem_flatMap.mp in_rest
      exact not_later later.vars (by rw [← List.map_drop]; exact List.mem_map_of_mem in_later) holds

/-- Every variable of an allocated request has its slot inside a live buffer. -/
theorem Distributed.placed (distributed : Distributed vars variableIds given request vars)
    (stored : request.AllStored) {var : VarId} (listed : var ∈ variableIds) :
    (vars var).Placed request.buffers := by
  obtain ⟨index, chunk, front, back, later, at_index, vars_eq, _, _, reader⟩ :=
    distributed.place listed
  have member := List.mem_of_getElem? at_index
  have sound := distributed.sound _ chunk member
  obtain ⟨_, memory, in_buffer, length_eq⟩ := stored _ chunk member
  refine .inr ⟨_, chunk.sumReadDataBuffer, memory, by rw [reader], buffers_of_chunkSet at_index, ?_⟩
  rw [reader]
  exact sound.layout.inside in_buffer length_eq (sound.vars_eq.trans vars_eq) _

/-- A read is served from what the buffer of the variable's chunk holds for it. -/
theorem Distributed.snapshot_eq (distributed : Distributed vars variableIds given request vars)
    {chunk : ReadRequestChunk} {memory : Bytes} {port index : Nat} {front back : List VarId}
    {var : VarId} (at_index : (request.chunkSet port)[index]? = some chunk)
    (in_buffer : chunk.sumReadDataBuffer.buffer = some memory)
    (valid : chunk.sumReadDataBuffer.bufferState = .valid)
    (vars_eq : chunk.vars = front ++ var :: back)
    (reader : (vars var).bufferReader = ⟨some ⟨request.deallocations, port, index⟩,
      front.length, (front.map fun other => (vars other).size).sum⟩) :
    ∃ code data, (vars var).snapshot request.buffers = some (code, data) ∧ code < 2 ^ 32 ∧
      (chunk.held fun other => (vars other).size)[front.length]? =
        some (UInt32.ofNat code, data) := by
  have sound := distributed.sound port chunk (List.mem_of_getElem? at_index)
  have start : chunk.sumReadDataBuffer.startOfDataOffset = 4 * chunk.vars.length := by
    rw [SumReadBuffer.startOfDataOffset, sound.layout.resultsSize_eq, sound.vars_eq]
    rfl
  refine ⟨leNat (window (4 * front.length) 4 memory), window (4 * chunk.vars.length +
    (front.map fun other => (vars other).size).sum) (vars var).size memory, ?_,
    leNat_window_lt _ 4 memory, ?_⟩
  · simp [ADSVariable.snapshot, reader, buffers_of_chunkSet at_index, in_buffer, valid, start,
      SumReadBuffer.resultSize]
  · simp only [ReadRequestChunk.held, in_buffer, List.getElem?_mapIdx]
    simp [vars_eq]

theorem getElem?_flatMap {α β : Type} {f : α → List β} {items : List α} {index : Nat} {item : α}
    (at_index : items[index]? = some item) {position : Nat} (inside : position < (f item).length) :
    (items.flatMap f)[((items.take index).flatMap f).length + position]? = (f item)[position]? := by
  obtain ⟨in_items, rfl⟩ := List.getElem?_eq_some_iff.mp at_index
  have split_items : items = items.take index ++ items[index] :: items.drop (index + 1) := by
    rw [← List.drop_eq_getElem_cons in_items, List.take_append_drop]
  have whole := congrArg (List.flatMap f) split_items
  rw [List.flatMap_append, List.flatMap_cons] at whole
  rw [whole, List.getElem?_append_right (by omega), Nat.add_sub_cancel_left,
    List.getElem?_append_left inside]

/-- An initialized request whose chunks hold the entries of their variables and can be read. -/
structure Ready (vars : Vars) (variableIds : List VarId) (given : List (VarId × BufferDataPosition))
    (request : SumReadRequest) : Prop where
  distributed : Distributed vars variableIds given request vars
  stored : request.AllStored
  initialized : request.initialized = true
  readable : ∀ chunk ∈ request.getChunks, chunk.Readable vars request.maxVarsPerBuffer

/-- After an initialization that succeeds every chunk can be read. -/
theorem Distributed.ready {ready : SumReadRequest}
    (distributed : Distributed vars variableIds given request vars) (stored : request.AllStored)
    (small : ∀ chunk ∈ request.getChunks, chunk.sumReadDataBuffer.bufferSize < 2 ^ 32)
    (initialized : request.initializeRequest vars = (0, ready)) :
    Ready vars variableIds given ready := by
  have same := request.sameLayout_initializeRequest vars
  rw [initialized] at same
  have sized : ∀ chunk ∈ request.getChunks,
      chunk.sumReadRequestBuffer.length = chunk.vars.length := by
    intro chunk member
    obtain ⟨port, in_set⟩ := mem_getChunks_iff.mp member
    exact (distributed.sound port chunk in_set).entries_length
  obtain ⟨_, _, ready_initialized, _, filled⟩ := initializeRequest_ok sized initialized
  have ready_distributed := distributed.sameLayout same
  have ready_stored := stored.sameLayout same
  refine ⟨ready_distributed, ready_stored, ready_initialized, ?_⟩
  intro chunk member
  obtain ⟨port, in_set⟩ := mem_getChunks_iff.mp member
  have sound := ready_distributed.sound port chunk in_set
  obtain ⟨before, in_before, rfl, _⟩ := mem_of_forall₂ (forall₂_chunkSet filled port) in_set
  refine ⟨?_, ready_stored port _ in_set,
    small before (mem_getChunks_iff.mpr ⟨port, in_before⟩), rfl⟩
  have port_eq := sound.port_eq
  rwa [← port_eq] at sound

theorem Distributed.map_fst_exchange
    (distributed : Distributed vars variableIds given request vars) (stored : request.AllStored)
    (entries : ∀ chunk ∈ request.getChunks,
      chunk.sumReadRequestBuffer = chunk.vars.map fun var => (vars var).requestEntry)
    (port : Nat) :
    ((request.chunkSet port).flatMap
        (ReadRequestChunk.exchange fun var => (vars var).size)).map Prod.fst =
      (variableIds.filter fun var => portOf vars var = port).map
        fun var => (vars var).requestEntry := by
  rw [← (distributed.packed port).flatten_eq, List.map_flatMap, ← List.flatMap_def,
    List.map_flatMap]
  refine List.flatMap_congr fun chunk member => ?_
  have in_chunks := mem_getChunks_iff.mpr ⟨port, member⟩
  rw [ReadRequestChunk.exchange, entries chunk in_chunks, List.map_fst_zip]
  rw [List.length_map, ReadRequestChunk.length_held (stored port chunk member)]

/-- Where the answer for a variable stands among the answers for its port: its snapshot is that
answer. -/
theorem Distributed.snapshot_served
    (distributed : Distributed vars variableIds given request vars) (stored : request.AllStored)
    (entries : ∀ chunk ∈ request.getChunks, chunk.sumReadDataBuffer.bufferState = .valid ∧
      chunk.sumReadRequestBuffer = chunk.vars.map fun var => (vars var).requestEntry)
    {var : VarId} (listed : var ∈ variableIds) :
    ∃ before later code data,
      variableIds.filter (fun other => portOf vars other = portOf vars var) =
        before ++ var :: later ∧
      var ∉ later ∧
      ((request.chunkSet (portOf vars var)).flatMap
          (ReadRequestChunk.exchange fun var => (vars var).size))[before.length]? =
        some ((vars var).requestEntry, UInt32.ofNat code, data) ∧
      code < 2 ^ 32 ∧ (vars var).snapshot request.buffers = some (code, data) := by
  obtain ⟨index, chunk, front, back, later, at_index, vars_eq, listed_eq, not_later, reader⟩ :=
    distributed.place listed
  have exchange_length : ∀ other ∈ request.chunkSet (portOf vars var),
      (other.exchange fun var => (vars var).size).length = other.vars.length := by
    intro other member
    have in_chunks := mem_getChunks_iff.mpr ⟨_, member⟩
    simp [ReadRequestChunk.exchange, (entries other in_chunks).2,
      ReadRequestChunk.length_held (stored _ other member)]
  have member := List.mem_of_getElem? at_index
  obtain ⟨_, memory, in_buffer, _⟩ := stored _ chunk member
  obtain ⟨valid, entries_eq⟩ := entries chunk (mem_getChunks_iff.mpr ⟨_, member⟩)
  obtain ⟨code, data, taken, code_lt, held⟩ :=
    distributed.snapshot_eq at_index in_buffer valid vars_eq reader
  refine ⟨_, later, code, data, listed_eq, not_later, ?_, code_lt, taken⟩
  have position : (((request.chunkSet (portOf vars var)).take index).flatMap
      ReadRequestChunk.vars ++ front).length =
      (((request.chunkSet (portOf vars var)).take index).flatMap
        (ReadRequestChunk.exchange fun var => (vars var).size)).length + front.length := by
    rw [List.length_append, List.length_flatMap, List.length_flatMap]
    congr 2
    refine List.map_congr_left fun other in_front => ?_
    exact (exchange_length other (List.mem_of_mem_take in_front)).symm
  rw [position, getElem?_flatMap at_index (by rw [exchange_length chunk member, vars_eq]; simp)]
  rw [ReadRequestChunk.exchange, List.getElem?_zip_eq_some]
  exact ⟨by simp [entries_eq, vars_eq], held⟩

/-- What a read of a variable makes of the answer for it. -/
theorem Distributed.served
    (distributed : Distributed vars variableIds given request vars) (stored : request.AllStored)
    (entries : ∀ chunk ∈ request.getChunks, chunk.sumReadDataBuffer.bufferState = .valid ∧
      chunk.sumReadRequestBuffer = chunk.vars.map fun var => (vars var).requestEntry)
    {var : VarId} (listed : var ∈ variableIds) :
    ∃ before later code data,
      variableIds.filter (fun other => portOf vars other = portOf vars var) =
        before ++ var :: later ∧
      var ∉ later ∧
      ((request.chunkSet (portOf vars var)).flatMap
          (ReadRequestChunk.exchange fun var => (vars var).size))[before.length]? =
        some ((vars var).requestEntry, code, data) ∧
      ((vars var).echoPending = false → ∀ size destination,
        (code = 0 → (vars var).readFromBuffer request.buffers size destination =
          (0, overwrite (data.take (min size (vars var).size)) destination, vars var)) ∧
        (code ≠ 0 → ((vars var).readFromBuffer request.buffers size destination).1 ≠ 0)) := by
  obtain ⟨before, later, code, data, listed_eq, not_later, answered, code_lt, taken⟩ :=
    distributed.snapshot_served stored entries listed
  refine ⟨before, later, UInt32.ofNat code, data, listed_eq, not_later, answered, ?_⟩
  intro no_echo size destination
  have zero_iff : UInt32.ofNat code = 0 ↔ code = 0 := by
    rw [← UInt32.toNat_inj, UInt32.toNat_ofNat', Nat.mod_eq_of_lt code_lt]
    rfl
  rw [ne_eq, zero_iff]
  exact ADSVariable.readFromBuffer_of_snapshot (distributed.placed stored listed) taken no_echo
    size destination

/-- A request that is ready can be read as long as the library reports no failure. -/
theorem Ready.read_succeeds (ready : Ready vars variableIds given request) {ads : Ads}
    (accepts : ∀ trace call, (ads trace call).rc = 0) (connection : Connection) (trace : Trace) :
    ∃ after trace', request.read ads connection trace = (0, after, trace') := by
  rcases loop : request.chunksByAdsPort.visitAll (ReadRequestChunk.read ads connection) trace with
    ⟨exit, state, chunks⟩
  cases exit with
  | none =>
      exact ⟨{ request with chunksByAdsPort := chunks }, state, by
        simp [SumReadRequest.read, ready.initialized, loop]⟩
  | some failure =>
      obtain ⟨chunk, member, before, left⟩ := SortedMap.visitAll_exit (congrArg Visited.exit loop)
      obtain ⟨initialized, memory, stored, _⟩ := (ready.readable chunk member).stored
      obtain ⟨_, read_eq⟩ :=
        ReadRequestChunk.read_of_stored initialized stored ads connection before rfl
      simp [read_eq, accepts] at left

/-- A sum-read that succeeds leaves the request ready, its buffers valid and in them, for each
port, what was exchanged with it. -/
theorem Ready.read {after : SumReadRequest} (ready : Ready vars variableIds given request)
    {ads : Ads} {deliver : Delivery} (device : AnswersSumReads ads deliver)
    {connection : Connection} {trace trace' : Trace}
    (done : request.read ads connection trace = (0, after, trace')) :
    ∃ events, trace' = trace ++ events ∧ Ready vars variableIds given after ∧
      (∀ event ∈ events, ∃ target entries, entries.length < 2 ^ 16 ∧
        ReadRequestChunk.RequestsEntries connection target entries event.call) ∧
      (∀ chunk ∈ after.getChunks, chunk.sumReadDataBuffer.bufferState = .valid ∧
        chunk.sumReadRequestBuffer = chunk.vars.map fun var => (vars var).requestEntry) ∧
      ∀ target : UInt16, exchanged deliver target trace events =
        (after.chunkSet target.toNat).flatMap
          (ReadRequestChunk.exchange fun var => (vars var).size) := by
  obtain ⟨initialized, loop, after_eq⟩ := read_ok done
  have same := request.sameLayout_read ads connection trace
  rw [done] at same
  have distributed := ready.distributed.sameLayout same
  have stored := ready.stored.sameLayout same
  have flat := SortedMap.visitAll_flatten (ReadRequestChunk.read ads connection) trace
    request.chunksByAdsPort
  rw [loop] at flat
  obtain ⟨events, state_eq, calls, entries, exchanged_eq⟩ :=
    readChunks_ok device connection ready.readable trace (congrArg Visited.exit flat)
  rw [← getChunks] at flat
  rw [flat] at state_eq entries exchanged_eq
  refine ⟨events, state_eq, ⟨distributed, stored, ?_, ?_⟩, ?_, entries, ?_⟩
  · rw [after_eq]
    exact initialized
  · intro chunk member
    obtain ⟨port, in_set⟩ := mem_getChunks_iff.mp member
    obtain ⟨before, in_before, pair⟩ := mem_of_forall₂ (forall₂_chunkSet same.chunks port) in_set
    have small := (ready.readable before (mem_getChunks_iff.mpr ⟨port, in_before⟩)).small
    have sound := distributed.sound port chunk in_set
    have port_eq := sound.port_eq
    refine ⟨by rwa [← port_eq] at sound, stored port chunk in_set, ?_, (entries chunk member).2⟩
    obtain ⟨_, _, _, _, buffer_eq⟩ := pair.buffer_eq
    rw [buffer_eq]
    exact small
  · intro event member
    obtain ⟨chunk, in_chunks, request_eq⟩ := calls event member
    have readable := ready.readable chunk in_chunks
    exact ⟨_, _, by rw [readable.entries, List.length_map]; exact readable.count_lt, request_eq⟩
  · intro target
    rw [exchanged_eq target, ← distributed.filter_getChunks target, getChunks]

/-- After a sum-read that succeeds, the snapshot of a variable is what the device delivered for its
entry in one of the requests. -/
theorem Ready.snapshot_read {after : SumReadRequest} (ready : Ready vars variableIds given request)
    {ads : Ads} {deliver : Delivery} (device : AnswersSumReads ads deliver)
    {connection : Connection} {trace trace' : Trace}
    (done : request.read ads connection trace = (0, after, trace')) {var : VarId}
    (listed : var ∈ variableIds) :
    ∃ (events : Trace) (earlier : Trace) (entries : List AdsSymbolInfoByName) (index : Nat)
      (answer : UInt32 × Bytes),
      trace' = trace ++ events ∧ earlier <+: events ∧
      entries[index]? = some (vars var).requestEntry ∧
      (deliver (trace ++ earlier) (vars var).addr.adsPort entries)[index]? = some answer ∧
      (vars var).snapshot after.buffers = some (answer.1.toNat, answer.2) := by
  obtain ⟨events, trace_eq, after_ready, _, entries, exchanged_eq⟩ := ready.read device done
  obtain ⟨before, later, code, data, _, _, answered, code_lt, taken⟩ :=
    after_ready.distributed.snapshot_served after_ready.stored entries listed
  rw [portOf, ← exchanged_eq] at answered
  obtain ⟨earlier, sent, index, reached, at_index, delivered⟩ :=
    mem_exchanged (List.mem_of_getElem? answered)
  refine ⟨events, earlier, sent, index, (UInt32.ofNat code, data), trace_eq, reached, at_index,
    delivered, ?_⟩
  rw [taken, UInt32.toNat_ofNat', Nat.mod_eq_of_lt code_lt]

theorem ready_of_initialize {request built ready : SumReadRequest} (fresh : request.Fresh)
    {variableIds : List VarId} {heap heap' : Heap}
    (allocated : request.allocate variableIds heap = (0, built, heap')) {vars : Vars}
    (assigned : heap'.vars.SamePlaces vars)
    (small : ∀ chunk ∈ built.getChunks, chunk.sumReadDataBuffer.bufferSize < 2 ^ 32)
    (initialized : built.initializeRequest vars = (0, ready)) :
    Ready vars variableIds (slotsGiven variableIds request heap) ready := by
  obtain ⟨distributed, stored, heap_same, _, _, _, _, _⟩ := allocate_ok fresh allocated
  have rebased : Distributed vars variableIds (slotsGiven variableIds request heap) built vars :=
    distributed.rebase
      (fun var => (assigned.size_eq var).trans (heap_same.size_eq var))
      (fun var => (assigned.port_eq var).trans (by rw [heap_same.addr_eq]))
      assigned.reader_eq
  exact rebased.ready stored small initialized

/-- Sum-read encoding and decoding agree.  After an allocation, an initialization and a read that
all succeed, the requests sent to a port list the variables of that port in order, and each
variable reads back what the device delivered for its own entry, the last one if the variable is
listed repeatedly. -/
theorem sumRead_agrees {request built ready after : SumReadRequest} (fresh : request.Fresh)
    {variableIds : List VarId} {heap heap' : Heap}
    (allocated : request.allocate variableIds heap = (0, built, heap')) {vars : Vars}
    (assigned : heap'.vars.SamePlaces vars)
    (small : ∀ chunk ∈ built.getChunks, chunk.sumReadDataBuffer.bufferSize < 2 ^ 32)
    (initialized : built.initializeRequest vars = (0, ready)) {ads : Ads} {deliver : Delivery}
    (device : AnswersSumReads ads deliver) {connection : Connection} {trace trace' : Trace}
    (done : ready.read ads connection trace = (0, after, trace')) :
    ∃ events, trace' = trace ++ events ∧
      (∀ event ∈ events, ∃ target entries, entries.length < 2 ^ 16 ∧
        ReadRequestChunk.RequestsEntries connection target entries event.call) ∧
      (∀ target : UInt16, (exchanged deliver target trace events).map Prod.fst =
        (variableIds.filter fun var => portOf vars var = target.toNat).map
          fun var => (vars var).requestEntry) ∧
      ∀ var ∈ variableIds, ∃ before later code data,
        variableIds.filter (fun other => portOf vars other = portOf vars var) =
          before ++ var :: later ∧
        var ∉ later ∧
        (exchanged deliver (vars var).addr.adsPort trace events)[before.length]? =
          some ((vars var).requestEntry, code, data) ∧
        ((vars var).echoPending = false → ∀ size destination,
          (code = 0 → (vars var).readFromBuffer after.buffers size destination =
            (0, overwrite (data.take (min size (vars var).size)) destination, vars var)) ∧
          (code ≠ 0 → ((vars var).readFromBuffer after.buffers size destination).1 ≠ 0)) := by
  have ready := ready_of_initialize fresh allocated assigned small initialized
  obtain ⟨events, trace_eq, after_ready, calls, entries, exchanged_eq⟩ := ready.read device done
  refine ⟨events, trace_eq, calls, ?_, ?_⟩
  · intro target
    rw [exchanged_eq target]
    exact after_ready.distributed.map_fst_exchange after_ready.stored
      (fun chunk member => (entries chunk member).2) target.toNat
  · intro var listed
    rw [exchanged_eq]
    exact after_ready.distributed.served after_ready.stored entries listed

/-- A device that answers every entry of a sum-read by code 0 and bytes of value 7. -/
def sevens : Delivery := fun _ _ entries =>
  entries.map fun entry => (0, List.replicate entry.cbLength.toNat 7)

/-- A library in front of a device which accepts every call. -/
def answering (deliver : Delivery) : Ads := fun trace call =>
  match call with
  | .readWrite _ _ target group count _ _ writeData =>
      if group = adsigrpSumupRead then
        { data := encodeAnswers
            (deliver trace target (AdsSymbolInfoByName.decode count.toNat writeData)) }
      else {}
  | .portOpen => { port := 1 }
  | _ => {}

@[simp]
theorem answering_accepts (deliver : Delivery) (trace : Trace) (call : AdsCall) :
    (answering deliver trace call).rc = 0 := by
  unfold answering
  split
  · split_ifs <;> rfl
  · rfl
  · rfl

theorem answering_answers {deliver : Delivery}
    (lengths : ∀ trace target entries,
      (deliver trace target entries).map (fun answer => answer.2.length) =
        entries.map fun entry => entry.cbLength.toNat) :
    AnswersSumReads (answering deliver) deliver := by
  refine ⟨lengths, ?_⟩
  intro _ _ _ _ _ _ _ _
  simp [answering]

/-- A device that answers as it should the sum-reads that it accepts is, for these, one that answers
all of them so. -/
theorem answersSumReads_of_accepted {ads : Ads} {deliver : Delivery}
    (lengths : ∀ trace target entries,
      (deliver trace target entries).map (fun answer => answer.2.length) =
        entries.map fun entry => entry.cbLength.toNat)
    (answers : ∀ trace port netId target count readLength writeLength writeData,
      (ads trace (.readWrite port netId target adsigrpSumupRead count readLength writeLength
          writeData)).rc = 0 →
        (ads trace (.readWrite port netId target adsigrpSumupRead count readLength writeLength
          writeData)).data =
          encodeAnswers (deliver trace target (AdsSymbolInfoByName.decode count.toNat writeData))) :
    ∃ other, AnswersSumReads other deliver ∧
      ∀ trace call, (ads trace call).rc = 0 → other trace call = ads trace call := by
  refine ⟨fun trace call => if (ads trace call).rc = 0 then ads trace call
    else answering deliver trace call, ⟨lengths, ?_⟩, fun _ _ accepted => if_pos accepted⟩
  intro trace port netId target count readLength writeLength writeData
  split_ifs with accepted
  · exact answers _ _ _ _ _ _ _ _ accepted
  · exact (answering_answers lengths).answers _ _ _ _ _ _ _ _

/-- A library in front of that device. -/
def sevensAds : Ads := answering sevens

theorem sevensAds_answers : AnswersSumReads sevensAds sevens :=
  answering_answers fun _ _ _ => by simp [sevens]

/-- The sample variables with resolved addresses and the slots of the sample allocation. -/
def sampleResolved : Vars := fun var =>
  { sampleAllocated.2.2.vars var with
    addr := { (sampleAllocated.2.2.vars var).addr with
      indexGroup := adsigrpSymValByHnd
      indexOffset := UInt32.ofNat var
      nameIsResolved := true } }

/-- The sample request after its initialization. -/
def sampleReady : Int × SumReadRequest := sampleAllocated.2.1.initializeRequest sampleResolved

theorem sampleReady_eq :
    sampleAllocated.2.1.initializeRequest sampleResolved = (0, sampleReady.2) :=
  Prod.ext (by decide) rfl

/-- The sample request after a sum-read, and the trace. -/
def sampleRead : Int × SumReadRequest × Trace := sampleReady.2.read sevensAds { adsPort := 1 } []

theorem sampleRead_eq : sampleReady.2.read sevensAds { adsPort := 1 } [] =
    (0, sampleRead.2.1, sampleRead.2.2) :=
  Prod.ext (by decide) rfl

theorem sumRead_agrees_sample :
    ∃ before later code data,
      [0, 1, 2, 0].filter (fun other => portOf sampleResolved other = 851) = before ++ 0 :: later ∧
      (exchanged sevens 851 [] sampleRead.2.2)[before.length]? =
        some ((sampleResolved 0).requestEntry, code, data) := by
  have assigned : sampleAllocated.2.2.vars.SamePlaces sampleResolved :=
    ⟨fun _ => rfl, fun _ => rfl, fun _ => rfl⟩
  obtain ⟨events, trace_eq, _, _, served⟩ := sumRead_agrees sampleRequest_fresh
    sampleAllocated_eq assigned (by decide) sampleReady_eq sevensAds_answers sampleRead_eq
  obtain ⟨before, later, code, data, listed, _, answered, _⟩ := served 0 (by decide)
  rw [List.nil_append] at trace_eq
  exact ⟨before, later, code, data, listed, by rw [trace_eq]; exact answered⟩

end SumReadRequest

end AdsDriver
