import AdsDriver.Allocation
import AdsDriver.Phases

/-!
# Success and failure of the initialization

An allocation of sum-read buffers runs into none of its own limits: whether it succeeds depends on
the memory requests that it makes, three for each variable and two for each chunk.  A driver whose
`initHook` has failed asks the device for nothing.
-/

namespace AdsDriver

open ByteMemory EarlyExit Runs

/-- The next requests are granted, so many of them. -/
def Grants (memory : List Bool) (count : Nat) : Prop := false ∉ memory.take count

instance (memory : List Bool) (count : Nat) : Decidable (Grants memory count) :=
  inferInstanceAs (Decidable (¬_))

@[simp]
theorem grants_zero (memory : List Bool) : Grants memory 0 := by simp [Grants]

theorem grants_add_iff {memory : List Bool} {first second : Nat} :
    Grants memory (first + second) ↔ Grants memory first ∧ Grants (memory.drop first) second := by
  simp [Grants, List.take_add]

namespace SumReadBuffer

/-- A buffer that takes one variable more: none of the checks of `add_variable` holds it back. -/
structure Room (size : VarId → Nat) (buffer : SumReadBuffer) : Prop where
  layout : buffer.Layout size
  no_storage : buffer.bufferInitialized = false
  limit_eq : buffer.maxDataSizeSoftLimit = 1000000
  free : buffer.atCapacity = false

/-- With room one request for memory is made, and the outcome depends on nothing else. -/
theorem Room.addVariable_eq {vars : Vars} {buffer : SumReadBuffer}
    (room : buffer.Room fun other => (vars other).size) (this : BufferPtr) (var : VarId) :
    ∃ grown after, ∀ memory, buffer.addVariable this var ⟨vars, memory⟩ =
      if memory.headD true = true then (0, grown, ⟨after, memory.tail⟩)
      else (epicsadsError, buffer, ⟨vars, memory.tail⟩) := by
  have layout := room.layout
  have free := room.free
  rw [layout.atCapacity_eq, room.limit_eq, Bool.or_eq_false_iff, decide_eq_false_iff_not,
    decide_eq_false_iff_not] at free
  obtain ⟨below, fewer⟩ := free
  have size_lt := (vars var).size_lt
  have max_lt := layout.max_lt
  have total := layout.buffer_size
  simp only [resultSize] at total
  have fits : ¬u64 (buffer.bufferSize + (vars var).size + resultSize) < buffer.bufferSize := by
    rw [resultSize, u64_of_lt (by omega)]
    omega
  have not_max : ¬buffer.getNumVariables = buffer.maxNvariables := by
    rw [layout.getNumVariables_eq]
    omega
  refine ⟨(buffer.addVariable this var ⟨vars, []⟩).2.1,
    (buffer.addVariable this var ⟨vars, []⟩).2.2.vars, fun memory => ?_⟩
  simp only [addVariable, room.no_storage, not_max, room.free, fits, Bool.false_eq_true, if_false]
  cases memory with
  | nil => rfl
  | cons granted rest => cases granted <;> rfl

end SumReadBuffer

theorem ReadRequestChunk.addVariable_draws {vars : Vars} {chunk : ReadRequestChunk}
    (room : chunk.sumReadDataBuffer.Room fun other => (vars other).size) (this : BufferPtr)
    (var : VarId) :
    ∃ grown after, ∀ memory,
      (Grants memory 3 →
        chunk.addVariable this var ⟨vars, memory⟩ = (false, grown, ⟨after, memory.drop 3⟩)) ∧
      (¬Grants memory 3 → (chunk.addVariable this var ⟨vars, memory⟩).1 = true) := by
  obtain ⟨grown, after, added⟩ := room.addVariable_eq this var
  refine ⟨{ chunk with
    vars := chunk.vars ++ [var]
    sumReadRequestBuffer := chunk.sumReadRequestBuffer ++ [⟨0, 0, 0⟩]
    sumReadDataBuffer := grown }, after, fun memory => ?_⟩
  rcases memory with _ | ⟨first, _ | ⟨second, _ | ⟨third, rest⟩⟩⟩
  · simp [addVariable, added, Grants, Heap.request]
  · cases first <;> simp [addVariable, added, Grants, Heap.request, epicsadsError]
  · cases first <;> cases second <;>
      simp [addVariable, added, Grants, Heap.request, epicsadsError]
  · cases first <;> cases second <;> cases third <;>
      simp [addVariable, added, Grants, Heap.request, epicsadsError]

theorem ReadRequestChunk.bufferInitialized_addVariable (this : BufferPtr) (chunk : ReadRequestChunk)
    (var : VarId) (heap : Heap) :
    (chunk.addVariable this var heap).2.1.sumReadDataBuffer.bufferInitialized =
      chunk.sumReadDataBuffer.bufferInitialized := by
  have kept : (chunk.sumReadDataBuffer.addVariable this var heap).2.1.bufferInitialized =
      chunk.sumReadDataBuffer.bufferInitialized := by
    unfold SumReadBuffer.addVariable
    dsimp only
    split_ifs <;> rfl
  unfold addVariable
  dsimp only
  split_ifs <;> exact kept

namespace SumReadRequest

/-- No buffer has its storage yet. -/
def NoStorage (request : SumReadRequest) : Prop :=
  ∀ port, ∀ chunk ∈ request.chunkSet port, chunk.sumReadDataBuffer.bufferInitialized = false

section Loop

variable {vars now : Vars} {seen : List VarId} {given : List (VarId × BufferDataPosition)}
  {request : SumReadRequest}

/-- The chunk that takes the next variable has room for it. -/
theorem Building.room (building : Building vars seen given request now)
    (no_storage : request.NoStorage) (var : VarId) :
    (openChunk (.new (now var).addr.adsPort request.maxVarsPerBuffer)
      (request.chunkSet (now var).addr.adsPort.toNat)).2.sumReadDataBuffer.Room
        fun other => (now other).size := by
  have size_fun : (fun other => (now other).size) = fun other => (vars other).size :=
    funext building.same.size_eq
  have sound := building.sound (now var).addr.adsPort.toNat
  rw [size_fun]
  rcases openChunk_cases (.new (now var).addr.adsPort request.maxVarsPerBuffer)
    (request.chunkSet (now var).addr.adsPort.toNat) with
    ⟨opened, _⟩ | ⟨front, back, set_eq, opened, free⟩
  · have new_sound := ReadRequestChunk.sound_new (fun other => (vars other).size) building.max_lt
      (now var).addr.adsPort
    rw [opened]
    refine ⟨new_sound.layout, rfl, rfl, ?_⟩
    rw [new_sound.atCapacity_eq]
    simpa [ReadRequestChunk.isFull, ReadRequestChunk.new] using building.max_pos.ne'
  · have member : back ∈ request.chunkSet (now var).addr.adsPort.toNat := by
      rw [set_eq]
      simp
    rw [opened]
    exact ⟨(sound back member).layout, no_storage _ back member, (sound back member).limit_eq, free⟩

theorem Building.addVariable_draws (building : Building vars seen given request now)
    (no_storage : request.NoStorage) (var : VarId) :
    ∃ grown after, ∀ memory,
      (Grants memory 3 →
        request.addVariable var ⟨now, memory⟩ = (false, grown, ⟨after, memory.drop 3⟩)) ∧
      (¬Grants memory 3 → (request.addVariable var ⟨now, memory⟩).1 = true) := by
  have room := building.room no_storage var
  rcases opened : openChunk (.new (now var).addr.adsPort request.maxVarsPerBuffer)
    (request.chunkSet (now var).addr.adsPort.toNat) with ⟨front, back⟩
  rw [opened] at room
  obtain ⟨chunk, after, added⟩ := ReadRequestChunk.addVariable_draws room
    ⟨request.deallocations, (now var).addr.adsPort.toNat, front.length⟩ var
  refine ⟨{ request with
    chunksByAdsPort :=
      request.chunksByAdsPort.insert (now var).addr.adsPort.toNat (front ++ [chunk]) },
    after, fun memory => ⟨fun granted => ?_, fun refused => ?_⟩⟩
  · simp only [addVariable, opened, (added memory).1 granted]
  · simpa only [addVariable, opened] using (added memory).2 refused

/-- A variable is added without making storage. -/
theorem NoStorage.addVariable (no_storage : request.NoStorage) (var : VarId) (heap : Heap) :
    (request.addVariable var heap).2.1.NoStorage := by
  intro port chunk member
  simp only [SumReadRequest.addVariable, chunkSet_insert] at member
  split_ifs at member with here
  · rcases List.mem_append.mp member with in_front | last
    · exact no_storage _ chunk (mem_of_mem_openChunk _ _ _ in_front)
    · obtain rfl := List.mem_singleton.mp last
      rw [ReadRequestChunk.bufferInitialized_addVariable]
      rcases openChunk_cases (.new (heap.vars var).addr.adsPort request.maxVarsPerBuffer)
        (request.chunkSet (heap.vars var).addr.adsPort.toNat) with
        ⟨opened, _⟩ | ⟨front, back, set_eq, opened, _⟩
      · rw [opened]
        rfl
      · rw [opened]
        refine no_storage (heap.vars var).addr.adsPort.toNat back ?_
        rw [set_eq]
        simp
  · exact no_storage port chunk member

/-- The loop over variables makes three requests for memory for each of them. -/
theorem Building.addVariables_draws (building : Building vars seen given request now)
    (no_storage : request.NoStorage) (variableIds : List VarId) :
    ∃ built after, built.NoStorage ∧ ∀ memory,
      (Grants memory (3 * variableIds.length) →
        request.addVariables variableIds ⟨now, memory⟩ =
          (false, built, ⟨after, memory.drop (3 * variableIds.length)⟩)) ∧
      (¬Grants memory (3 * variableIds.length) →
        (request.addVariables variableIds ⟨now, memory⟩).1 = true) := by
  induction variableIds generalizing seen given request now with
  | nil => exact ⟨request, now, no_storage, by simp [addVariables]⟩
  | cons var rest ih =>
      obtain ⟨grown, between, first⟩ := building.addVariable_draws no_storage var
      have returned := (first []).1 (by simp [Grants])
      have kept := no_storage.addVariable var ⟨now, []⟩
      rw [returned] at kept
      obtain ⟨built, after, built_raw, later⟩ := ih (building.step returned).1 kept
      refine ⟨built, after, built_raw, fun memory => ?_⟩
      rw [List.length_cons, Nat.mul_add_one, Nat.add_comm, grants_add_iff, addVariables]
      by_cases granted : Grants memory 3
      · have begun := (first memory).1 granted
        have rest_iff := later (memory.drop 3)
        simp only [begun, Bool.false_eq_true, if_false, granted, true_and]
        rw [← List.drop_drop]
        exact rest_iff
      · have begun := (first memory).2 granted
        simp [begun, granted]

end Loop

theorem initializeBuffer_draws {chunk : ReadRequestChunk}
    (filled : chunk.sumReadDataBuffer.getNumVariables ≠ 0)
    (no_storage : chunk.sumReadDataBuffer.bufferInitialized = false) (heap : Heap) :
    (Grants heap.memory 2 → (chunk.initializeBuffer heap).exit = none ∧
        (chunk.initializeBuffer heap).state.memory = heap.memory.drop 2) ∧
      (¬Grants heap.memory 2 → (chunk.initializeBuffer heap).exit = some epicsadsError) := by
  obtain ⟨vars, memory⟩ := heap
  simp only [ReadRequestChunk.initializeBuffer, SumReadBuffer.initializeBuffer, filled, no_storage,
    Bool.false_eq_true, if_false]
  rcases memory with _ | ⟨first, _ | ⟨second, rest⟩⟩
  · simp [Grants, Heap.request]
  · cases first <;> simp [Grants, Heap.request, epicsadsError]
  · cases first <;> cases second <;> simp [Grants, Heap.request, epicsadsError]

theorem visit_initializeBuffer_iff {chunks : List ReadRequestChunk} (heap : Heap)
    (ready : ∀ chunk ∈ chunks, chunk.sumReadDataBuffer.getNumVariables ≠ 0 ∧
      chunk.sumReadDataBuffer.bufferInitialized = false) :
    (visit ReadRequestChunk.initializeBuffer heap chunks).exit = none ↔
      Grants heap.memory (2 * chunks.length) := by
  induction chunks generalizing heap with
  | nil => simp
  | cons chunk rest ih =>
      obtain ⟨filled, no_storage⟩ := ready chunk (by simp)
      obtain ⟨granted, refused⟩ := initializeBuffer_draws filled no_storage heap
      rw [List.length_cons, Nat.mul_add_one, Nat.add_comm, grants_add_iff]
      by_cases enough : Grants heap.memory 2
      · obtain ⟨stays, memory_eq⟩ := granted enough
        rw [visit_cons_next stays, ← memory_eq]
        simpa only [enough, true_and] using
          ih _ fun other member => ready other (List.mem_cons_of_mem chunk member)
      · rw [visit_cons_exit (refused enough)]
        simp [enough]

theorem Building.initializeBuffers_iff {vars now : Vars} {seen : List VarId}
    {given : List (VarId × BufferDataPosition)} {built : SumReadRequest}
    (building : Building vars seen given built now) (no_storage : built.NoStorage) (heap : Heap) :
    (built.chunksByAdsPort.visitAll ReadRequestChunk.initializeBuffer heap).exit = none ↔
      Grants heap.memory (2 * built.getChunks.length) := by
  have ready : ∀ chunk ∈ built.getChunks, chunk.sumReadDataBuffer.getNumVariables ≠ 0 ∧
      chunk.sumReadDataBuffer.bufferInitialized = false := by
    intro chunk listed
    obtain ⟨port, member⟩ := mem_getChunks_iff.mp listed
    have sound := building.sound port chunk member
    have nonempty := (building.packed port).nonempty chunk.vars (List.mem_map_of_mem member)
    refine ⟨?_, no_storage port chunk member⟩
    rw [sound.layout.getNumVariables_eq, sound.vars_eq]
    simpa using nonempty
  have loop := visit_initializeBuffer_iff heap ready
  rwa [getChunks, SortedMap.visitAll_flatten] at loop

/-- An allocation succeeds exactly when the memory for it is granted, three requests for each
variable and two for each chunk: none of the limits of the buffers is ever in its way. -/
theorem allocate_zero_iff {request : SumReadRequest} (fresh : request.Fresh)
    (variableIds : List VarId) (heap : Heap) :
    (request.allocate variableIds heap).1 = 0 ↔
      Grants heap.memory (3 * variableIds.length +
        2 * (request.allocate variableIds ⟨heap.vars, []⟩).2.1.getChunks.length) := by
  have no_storage : request.NoStorage := by
    intro port chunk member
    simp [chunkSet, fresh.no_chunks] at member
  obtain ⟨built, after, built_raw, added⟩ :=
    (fresh.building heap.vars).addVariables_draws no_storage variableIds
  have unlimited := (added []).1 (by simp [Grants])
  rw [List.drop_nil] at unlimited
  obtain ⟨building, -⟩ := (fresh.building (Heap.mk heap.vars []).vars).loop unlimited
  have exit_iff (memory : List Bool) := building.initializeBuffers_iff built_raw ⟨after, memory⟩
  have count_eq : (request.allocate variableIds ⟨heap.vars, []⟩).2.1.getChunks.length =
      built.getChunks.length := by
    have completes := (exit_iff []).mpr (by simp [Grants])
    have length_eq := length_visit ReadRequestChunk.initializeBuffer ⟨after, []⟩
      built.chunksByAdsPort.values.flatten
    rw [SortedMap.visitAll_flatten] at length_eq
    simp only [allocate, fresh.not_allocated, unlimited, completes, Bool.false_eq_true, if_false,
      Option.isSome_none]
    exact length_eq
  rw [count_eq, grants_add_iff]
  by_cases granted : Grants heap.memory (3 * variableIds.length)
  · simp only [allocate, fresh.not_allocated, (added heap.memory).1 granted, granted, true_and,
      ← exit_iff, Bool.false_eq_true, if_false]
    split_ifs with left
    · simpa [epicsadsError] using Option.isSome_iff_ne_none.mp left
    · simpa using left
  · simp only [allocate, fresh.not_allocated, (added heap.memory).2 granted, granted, false_and]
    simp [epicsadsError]

/-- The sample needs eighteen requests, and the nineteenth may be refused. -/
theorem allocate_zero_iff_sample :
    (sampleRequest.allocate [0, 1, 2, 0] ⟨sampleVars, List.replicate 18 true ++ [false]⟩).1 = 0 :=
  (allocate_zero_iff sampleRequest_fresh [0, 1, 2, 0]
    ⟨sampleVars, List.replicate 18 true ++ [false]⟩).mpr (by decide)

end SumReadRequest

namespace ADSPortDriver

theorem memory_new {ipAddr : Str} {amsNetId : AmsNetId} {sumBufferSize deviceReadAdsPort : UInt16}
    {heap : Heap} {driver : ADSPortDriver}
    (constructed : new ipAddr amsNetId sumBufferSize deviceReadAdsPort heap = some driver) :
    driver.heap.memory = heap.memory := by
  unfold new at constructed
  split_ifs at constructed
  obtain rfl := Option.some.inj constructed
  rfl

theorem memory_addRecords (driver : ADSPortDriver) (links : List RecordLink) :
    (run addRecord driver links).heap.memory = driver.heap.memory := by
  refine run_invariant (fun after : ADSPortDriver => after.heap.memory = driver.heap.memory) ?_ rfl
    links
  intro before link same
  rcases before.addRecord_cases link with skipped | ⟨address, adds⟩
  · rw [skipped]
    exact same
  · rw [adds.after_eq]
    exact same

theorem memory_addReadbacks (driver : ADSPortDriver) (adsVars : List ADSDeviceVar) :
    (adsVars.foldl addReadback driver).heap.memory = driver.heap.memory := by
  induction adsVars generalizing driver with
  | nil => rfl
  | cons adsVar rest ih =>
      rw [List.foldl_cons, ih, addReadback]
      split_ifs <;> rfl

/-- `initHook` fails only where memory is refused. -/
theorem Created.refused_of_failed {driver : ADSPortDriver} (created : driver.Created)
    (interrupts : List Nat) (failed : (driver.initHook interrupts).initialized = false) :
    false ∈ driver.heap.memory := by
  have before := created.addReadbacks (mem_of_getInterruptVariables interrupts)
  have memory_eq := driver.memory_addReadbacks (driver.getInterruptVariables interrupts)
  unfold ADSPortDriver.initHook at failed
  rw [if_neg (by simp [created.not_initialized])] at failed
  have not_zero := decide_eq_false_iff_not.mp failed
  rw [SumReadRequest.allocate_zero_iff before.fresh, Grants, not_not, memory_eq] at not_zero
  exact List.mem_of_mem_take not_zero

end ADSPortDriver

theorem ADSVariable.checkWrite_of_unresolved {var : ADSVariable}
    (unresolved : var.addr.nameIsResolved = false) (data : Option Source) (size : Nat) :
    ∃ status, var.checkWrite data size = .error status := by
  cases checked : var.checkWrite data size with
  | error status => exact ⟨status, rfl⟩
  | ok buffer =>
      have passed := (var.checkWrite_eq_ok_iff data size).mp ⟨buffer, checked⟩
      simp [ADSVariable.sendable, unresolved] at passed

namespace Interleaved

/-- The scan thread waits for an `initHook` that never comes, and every name is unresolved. -/
structure Silent (state : Interleaved) : Prop where
  not_initialized : state.driver.initialized = false
  closed : state.driver.adsConnection.isConnected = false
  no_events : state.driver.trace = []
  unpublished : state.driver.published = fun _ => none
  unresolved : ∀ adsVar ∈ state.driver.deviceVariables,
    (state.driver.heap.vars adsVar.adsPV).addr.nameIsResolved = false
  no_writes : state.pendingWrites = []
  waiting : state.scanPoint = .head ∨ state.scanPoint = .exited

variable (ads : Ads) (autoparam : Autoparam) (toFloat32 : BitVec 64 → BitVec 32)

theorem silent_start {ipAddr : Str} {amsNetId : AmsNetId}
    {sumBufferSize deviceReadAdsPort : UInt16} {heap : Heap} {driver : ADSPortDriver}
    (constructed : ADSPortDriver.new ipAddr amsNetId sumBufferSize deviceReadAdsPort heap =
      some driver) (links : List RecordLink) (interrupts : List Nat)
    (failed : (start driver links interrupts).driver.initialized = false) :
    (start driver links interrupts).Silent := by
  have hooked := hooked_start constructed links interrupts
  have created := (ADSPortDriver.created_new constructed).addRecords links
  exact ⟨failed, hooked.closed, hooked.no_events, created.unpublished_initHook interrupts,
    fun adsVar member => (hooked.unused _ (hooked.devices_tracked adsVar member)).unresolved, rfl,
    .inl rfl⟩

/-- The scan thread does nothing but leave its loop. -/
theorem Silent.scan {state : Interleaved} (silent : state.Silent) (input : ScanInput) :
    (state.scan ads autoparam input).Silent := by
  obtain ⟨not_initialized, closed, no_events, unpublished, unresolved, no_writes, waiting⟩ := silent
  rcases waiting with point | point
  · simp only [Interleaved.scan, point, not_initialized, closed, Bool.not_false, if_true,
      Bool.false_eq_true, if_false]
    split_ifs
    · exact ⟨not_initialized, closed, no_events, unpublished, unresolved, no_writes, .inr rfl⟩
    · exact ⟨not_initialized, closed, no_events, unpublished, unresolved, no_writes, .inl point⟩
  · simp only [Interleaved.scan, point]
    exact ⟨not_initialized, closed, no_events, unpublished, unresolved, no_writes, .inr point⟩

/-- A handler leaves a variable with its address. -/
theorem Silent.setVar {state : Interleaved} (silent : state.Silent) {var : VarId}
    {content : ADSVariable} (same : content = state.driver.heap.vars var ∨
      content = (state.driver.heap.vars var).withEcho []) :
    ({ state with driver := state.driver.setVar var content }).Silent := by
  refine ⟨silent.not_initialized, silent.closed, silent.no_events, silent.unpublished, ?_,
    silent.no_writes, silent.waiting⟩
  intro adsVar member
  have unresolved := silent.unresolved adsVar member
  by_cases here : adsVar.adsPV = var
  · subst here
    dsimp only [ADSPortDriver.setVar]
    rw [Function.update_self]
    rcases same with rfl | rfl
    · exact unresolved
    · exact unresolved
  · simpa only [ADSPortDriver.setVar, Function.update_of_ne here] using unresolved

/-- A write handler accepts no write. -/
theorem Silent.checkWrite {state : Interleaved} (silent : state.Silent) {adsVar : ADSDeviceVar}
    (made : adsVar ∈ state.driver.deviceVariables) (registration : Registration)
    (request : WriteRequest) :
    (state.checkWrite autoparam toFloat32 adsVar registration request).Silent := by
  have echo := registration.write.varToWrite_echo autoparam state.driver.adsConnection
    (state.driver.heap.vars adsVar.adsPV) state.driver.sumRead.buffers request
  have unresolved : (registration.write.varToWrite autoparam state.driver.adsConnection
      (state.driver.heap.vars adsVar.adsPV) state.driver.sumRead.buffers
      request).addr.nameIsResolved = false := by
    rcases echo with same | same
    · rw [same]
      exact silent.unresolved adsVar made
    · rw [same]
      exact silent.unresolved adsVar made
  have kept := silent.setVar echo
  obtain ⟨status, refused⟩ := ADSVariable.checkWrite_of_unresolved unresolved
    (registration.write.dataToWrite autoparam state.driver.adsConnection
      (state.driver.heap.vars adsVar.adsPV) toFloat32 state.driver.sumRead.buffers request)
    (registration.write.bytesToWrite (state.driver.heap.vars adsVar.adsPV))
  simpa only [Interleaved.checkWrite, refused] using kept

/-- No step of any thread sends a request. -/
theorem Silent.step {state : Interleaved} (silent : state.Silent) (taken : ThreadStep) :
    (state.step ads autoparam toFloat32 taken).Silent := by
  cases taken with
  | scan input => exact silent.scan ads autoparam input
  | poll adsVar registration request =>
      unfold Interleaved.step
      dsimp only
      split_ifs
      · exact silent.setVar (registration.read.poll_echo autoparam _ _ _ request)
      · exact silent
  | checkWrite adsVar registration request =>
      unfold Interleaved.step
      dsimp only
      split_ifs with called
      · exact silent.checkWrite autoparam toFloat32 called.1 registration request
      · exact silent
  | sendWrite index =>
      simpa [Interleaved.step, Interleaved.sendWrite, silent.no_writes] using silent
  | shutDown =>
      exact ⟨silent.not_initialized, silent.closed, silent.no_events, silent.unpublished,
        silent.unresolved, silent.no_writes, silent.waiting⟩

/-- An `initHook` fails only where memory is refused, and then nothing happens in any run: no
request is sent, no port is opened, nothing is published and no write is accepted. -/
theorem silent_unless_initialized {ipAddr : Str} {amsNetId : AmsNetId}
    {sumBufferSize deviceReadAdsPort : UInt16} {heap : Heap} {driver : ADSPortDriver}
    (constructed : ADSPortDriver.new ipAddr amsNetId sumBufferSize deviceReadAdsPort heap =
      some driver) (links : List RecordLink) (interrupts : List Nat)
    (failed : (start driver links interrupts).driver.initialized = false)
    (taken : List ThreadStep) :
    false ∈ heap.memory ∧
      (run (step ads autoparam toFloat32) (start driver links interrupts) taken).Silent := by
  have created := ADSPortDriver.created_new constructed
  have refused := (created.addRecords links).refused_of_failed interrupts failed
  rw [ADSPortDriver.memory_addRecords, ADSPortDriver.memory_new constructed] at refused
  exact ⟨refused, run_invariant Silent
    (fun _ input silent => Silent.step ads autoparam toFloat32 silent input)
    (silent_start constructed links interrupts failed) taken⟩

/-- The sample driver is refused the first piece of memory. -/
def refusedDriver : ADSPortDriver :=
  { ADSPortDriver.sampleDriver with heap := ⟨SumReadRequest.sampleVars, [false]⟩ }

theorem silent_unless_initialized_sample :
    (run (step SumReadRequest.sevensAds .sample fun _ => 0)
      (start refusedDriver ADSPortDriver.sampleLinks [0, 2])
      [.scan ADSPortDriver.sampleInput, .shutDown, .scan ADSPortDriver.sampleInput]).Silent :=
  (silent_unless_initialized SumReadRequest.sevensAds .sample (fun _ => 0)
    (rfl : ADSPortDriver.new _ [10, 0, 0, 1, 1, 1] 2 851 ⟨SumReadRequest.sampleVars, [false]⟩ =
      some refusedDriver) ADSPortDriver.sampleLinks [0, 2] (by decide) _).2

end Interleaved

end AdsDriver
