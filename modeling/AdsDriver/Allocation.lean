import AdsDriver.Data.Packing
import AdsDriver.SumReadRequest
import Mathlib.Algebra.BigOperators.Group.List.Lemmas
import Mathlib.Algebra.Order.BigOperators.Group.List
import Mathlib.Data.List.Infix

/-!
# The partition made by an allocation

For each ADS port the loop over variables is the greedy packer with two limits, the number of
variables and the data size.  The invariant relates the chunk sets to the packing of the variables
seen so far, every buffer to its layout, and every variable to the slot of its last occurrence.
-/

namespace AdsDriver

open ByteMemory EarlyExit Packing

namespace ReadRequestChunk

/-- The invariant of a chunk: its buffer has the layout of its variables. -/
structure Sound (size : VarId → Nat) (maxVariables port : Nat) (chunk : ReadRequestChunk) :
    Prop where
  layout : chunk.sumReadDataBuffer.Layout size
  vars_eq : chunk.sumReadDataBuffer.vars = chunk.vars
  max_eq : chunk.sumReadDataBuffer.maxNvariables = maxVariables
  limit_eq : chunk.sumReadDataBuffer.maxDataSizeSoftLimit = 1000000
  entries_length : chunk.sumReadRequestBuffer.length = chunk.vars.length
  port_eq : chunk.adsPort.toNat = port

/-- When a list of variables leaves no capacity: at the count limit or the data size limit. -/
def isFull (size : VarId → Nat) (maxVariables : Nat) (vars : List VarId) : Bool :=
  decide (1000000 ≤ (vars.map size).sum) || decide (maxVariables ≤ vars.length)

theorem sound_new (size : VarId → Nat) {maxVariables : Nat} (small : maxVariables < 2 ^ 16)
    (port : UInt16) : (new port maxVariables).Sound size maxVariables port.toNat :=
  ⟨SumReadBuffer.layout_new size small, rfl, rfl, rfl, rfl, rfl⟩

theorem Sound.atCapacity_eq {size : VarId → Nat} {maxVariables port : Nat}
    {chunk : ReadRequestChunk} (sound : chunk.Sound size maxVariables port) :
    chunk.sumReadDataBuffer.atCapacity = isFull size maxVariables chunk.vars := by
  rw [sound.layout.atCapacity_eq, sound.vars_eq, sound.max_eq, sound.limit_eq]
  rfl

/-- A chunk stays sound while its layout stays. -/
theorem Sound.sameLayout {size : VarId → Nat} {maxVariables port : Nat}
    {before after : ReadRequestChunk} (sound : before.Sound size maxVariables port)
    (same : before.SameLayout after) : after.Sound size maxVariables port := by
  obtain ⟨memory, initialized, previous, state, buffer_eq⟩ := same.buffer_eq
  refine ⟨?_, ?_, ?_, ?_, ?_, ?_⟩
  · rw [buffer_eq]
    obtain ⟨result_offset, data_offset, buffer_size, size_lt, count_le, max_lt⟩ := sound.layout
    exact ⟨result_offset, data_offset, buffer_size, size_lt, count_le, max_lt⟩
  · rw [buffer_eq, same.vars_eq, ← sound.vars_eq]
  · rw [buffer_eq, ← sound.max_eq]
  · rw [buffer_eq, ← sound.limit_eq]
  · rw [same.entries_length, same.vars_eq, sound.entries_length]
  · rw [same.port_eq, sound.port_eq]

/-- What an `add_variable` that returns does. -/
theorem addVariable_ok {this : BufferPtr} {chunk after : ReadRequestChunk} {var : VarId}
    {heap heap' : Heap} {maxVariables port : Nat}
    (sound : chunk.Sound (fun other => (heap.vars other).size) maxVariables port)
    (added : chunk.addVariable this var heap = (false, after, heap')) :
    after.Sound (fun other => (heap.vars other).size) maxVariables port ∧
      after.vars = chunk.vars ++ [var] ∧
      heap'.vars = (heap.setBufferReader var ⟨some this, chunk.vars.length,
        (chunk.vars.map fun other => (heap.vars other).size).sum⟩).vars := by
  simp only [addVariable] at added
  split_ifs at added with failed first_refused second_refused
  · simp at added
  · simp at added
  · simp at added
  · obtain ⟨rfl, rfl⟩ : _ = after ∧ _ = heap' := by simpa using added
    obtain ⟨layout, vars_eq, max_eq, limit_eq, heap_eq⟩ :=
      SumReadBuffer.addVariable_ok sound.layout (Prod.ext (by simpa using failed) rfl)
    refine ⟨⟨layout, ?_, max_eq.trans sound.max_eq, limit_eq.trans sound.limit_eq, ?_,
      sound.port_eq⟩, rfl, ?_⟩
    · rw [vars_eq, sound.vars_eq]
    · simp [sound.entries_length]
    · rw [Heap.vars_request, Heap.vars_request, heap_eq, sound.vars_eq]

end ReadRequestChunk

namespace SumReadRequest

/-- Either the last chunk has capacity, or a new one follows it. -/
theorem openChunk_cases (new : ReadRequestChunk) (chunkSet : List ReadRequestChunk) :
    (openChunk new chunkSet = (chunkSet, new) ∧
        (∀ front back, chunkSet = front ++ [back] → back.sumReadDataBuffer.atCapacity = true)) ∨
      ∃ front back, chunkSet = front ++ [back] ∧ openChunk new chunkSet = (front, back) ∧
        back.sumReadDataBuffer.atCapacity = false := by
  obtain rfl | ⟨front, back, rfl⟩ := chunkSet.eq_nil_or_concat'
  · exact .inl ⟨rfl, by simp⟩
  · cases capacity : back.sumReadDataBuffer.atCapacity with
    | true =>
        refine .inl ⟨by simp [openChunk, capacity], ?_⟩
        intro _ _ same
        obtain ⟨_, same_back⟩ := List.append_inj' same rfl
        obtain rfl : back = _ := by simpa using same_back
        exact capacity
    | false => exact .inr ⟨front, back, rfl, by simp [openChunk, capacity], capacity⟩

section Step

variable {size : VarId → Nat} {maxVariables : Nat} {port : UInt16}
  {chunkSet : List ReadRequestChunk}

theorem mem_of_mem_openChunk (new chunk : ReadRequestChunk) (chunkSet : List ReadRequestChunk)
    (member : chunk ∈ (openChunk new chunkSet).1) : chunk ∈ chunkSet := by
  rcases openChunk_cases new chunkSet with ⟨opened, _⟩ | ⟨front, back, rfl, opened, _⟩
  · simpa [opened] using member
  · exact List.mem_append_left _ (by simpa [opened] using member)

theorem sound_openChunk (small : maxVariables < 2 ^ 16)
    (sound : ∀ chunk ∈ chunkSet, chunk.Sound size maxVariables port.toNat) :
    (openChunk (.new port maxVariables) chunkSet).2.Sound size maxVariables port.toNat := by
  rcases openChunk_cases (.new port maxVariables) chunkSet with
    ⟨opened, _⟩ | ⟨front, back, rfl, opened, _⟩
  · rw [opened]
    exact ReadRequestChunk.sound_new size small port
  · rw [opened]
    exact sound back (by simp)

theorem vars_openChunk (sound : ∀ chunk ∈ chunkSet, chunk.Sound size maxVariables port.toNat)
    {after : ReadRequestChunk} {var : VarId}
    (grown : after.vars = (openChunk (.new port maxVariables) chunkSet).2.vars ++ [var]) :
    ((openChunk (.new port maxVariables) chunkSet).1 ++ [after]).map ReadRequestChunk.vars =
      packStep (ReadRequestChunk.isFull size maxVariables)
        (chunkSet.map ReadRequestChunk.vars) var := by
  rcases openChunk_cases (.new port maxVariables) chunkSet with
    ⟨opened, full⟩ | ⟨front, back, rfl, opened, room⟩
  · rw [opened] at grown ⊢
    obtain rfl | ⟨front, back, rfl⟩ := chunkSet.eq_nil_or_concat'
    · simp [grown, ReadRequestChunk.new]
    · have back_full := full front back rfl
      rw [(sound back (by simp)).atCapacity_eq] at back_full
      simp [grown, ReadRequestChunk.new, back_full]
  · rw [opened] at grown ⊢
    rw [(sound back (by simp)).atCapacity_eq] at room
    simp [grown, room]

theorem vars_opened (chunkSet : List ReadRequestChunk) (new_empty : ReadRequestChunk)
    (fresh : new_empty.vars = []) :
    ((chunkSet[(openChunk new_empty chunkSet).1.length]?).map ReadRequestChunk.vars).getD [] =
      (openChunk new_empty chunkSet).2.vars := by
  rcases openChunk_cases new_empty chunkSet with ⟨opened, _⟩ | ⟨front, back, rfl, opened, _⟩
  · simp [opened, fresh]
  · simp [opened]

theorem getElem?_openChunk (chunkSet : List ReadRequestChunk) (new after : ReadRequestChunk)
    (index : Nat)
    (other : index ≠ (openChunk new chunkSet).1.length) :
    ((openChunk new chunkSet).1 ++ [after])[index]? = chunkSet[index]? := by
  have length_eq : chunkSet.length ≤ (openChunk new chunkSet).1.length + 1 ∧
      chunkSet.take (openChunk new chunkSet).1.length = (openChunk new chunkSet).1 := by
    rcases openChunk_cases new chunkSet with ⟨opened, _⟩ | ⟨front, back, rfl, opened, _⟩
    · simp [opened]
    · simp [opened]
  obtain ⟨no_more, front_eq⟩ := length_eq
  rcases Nat.lt_or_gt_of_ne other with before | behind
  · rw [List.getElem?_append_left before, ← front_eq, List.getElem?_take_of_lt]
    simpa using before
  · rw [List.getElem?_eq_none (by simpa using Nat.succ_le_of_lt behind),
      List.getElem?_eq_none (by omega)]

end Step

/-! ## The loop over variables -/

/-- The slots of consecutive variables in the buffer at `this`, from a result index and a data
offset on. -/
def slotsFrom (this : BufferPtr) (size : VarId → Nat) :
    Nat → Nat → List VarId → List (VarId × BufferDataPosition)
  | _, _, [] => []
  | index, offset, var :: vars =>
      (var, ⟨some this, index, offset⟩) :: slotsFrom this size (index + 1) (offset + size var) vars

theorem slotsFrom_concat (this : BufferPtr) (size : VarId → Nat) (index offset : Nat)
    (vars : List VarId) (var : VarId) :
    slotsFrom this size index offset (vars ++ [var]) = slotsFrom this size index offset vars ++
      [(var, ⟨some this, index + vars.length, offset + (vars.map size).sum⟩)] := by
  induction vars generalizing index offset with
  | nil => rfl
  | cons first vars ih =>
      simp only [List.cons_append, slotsFrom, ih, List.length_cons, List.map_cons, List.sum_cons]
      congr 5 <;> omega

theorem getElem?_slotsFrom (this : BufferPtr) (size : VarId → Nat) (index offset : Nat)
    (vars : List VarId) (position : Nat) :
    (slotsFrom this size index offset vars)[position]? = vars[position]?.map fun var =>
      (var, ⟨some this, index + position, offset + ((vars.take position).map size).sum⟩) := by
  induction vars generalizing index offset position with
  | nil => simp [slotsFrom]
  | cons first vars ih =>
      cases position with
      | zero => simp [slotsFrom]
      | succ position =>
          simp only [slotsFrom, List.getElem?_cons_succ, ih, List.take_succ_cons, List.map_cons,
            List.sum_cons]
          congr 1
          funext var
          congr 2 <;> omega

theorem ranges_slotsFrom (this : BufferPtr) (size : VarId → Nat) (index offset : Nat)
    (vars : List VarId) :
    ((slotsFrom this size index offset vars).map fun slot =>
      List.range' slot.2.offData (size slot.1)) =
      (vars.map size).ranges.map (List.map (offset + ·)) := by
  induction vars generalizing index offset with
  | nil => rfl
  | cons first vars ih =>
      simp only [slotsFrom, List.map_cons, ih, List.ranges, List.map_map]
      congr 1
      · exact List.range'_eq_map_range ..
      · refine List.map_congr_left fun range _ => ?_
        simp [Function.comp_def, Nat.add_assoc]

/-- The ADS port of a variable. -/
def portOf (vars : Vars) (var : VarId) : Nat := (vars var).addr.adsPort.toNat

/-- The invariant of the loop over variables, and of a request as long as it stays allocated.
`vars` gives the sizes and ports and `after` the present readers; `seen` have been added and the
slots `given` have been handed out. -/
structure Distributed (vars : Vars) (seen : List VarId) (given : List (VarId × BufferDataPosition))
    (request : SumReadRequest) (after : Vars) : Prop where
  max_pos : 0 < request.maxVarsPerBuffer
  max_lt : request.maxVarsPerBuffer < 2 ^ 16
  nonempty : ∀ port chunks, request.chunksByAdsPort.find? port = some chunks → chunks ≠ []
  packed : ∀ port, Packed
    (ReadRequestChunk.isFull (fun var => (vars var).size) request.maxVarsPerBuffer)
    (seen.filter fun var => portOf vars var = port)
    ((request.chunkSet port).map ReadRequestChunk.vars)
  sound : ∀ port, ∀ chunk ∈ request.chunkSet port,
    chunk.Sound (fun var => (vars var).size) request.maxVarsPerBuffer port
  slots : ∀ port index,
    given.filter (fun slot => slot.2.buffer = some ⟨request.deallocations, port, index⟩) =
      slotsFrom ⟨request.deallocations, port, index⟩ (fun var => (vars var).size) 0 0
        (((request.chunkSet port)[index]?.map ReadRequestChunk.vars).getD [])
  readers : ∀ var ∈ seen, ∃ index front,
    LastAt ((request.chunkSet (portOf vars var)).map ReadRequestChunk.vars) var index front ∧
      (after var).bufferReader = ⟨some ⟨request.deallocations, portOf vars var, index⟩,
        front.length, (front.map fun other => (vars other).size).sum⟩

/-- The loop invariant proper: `after` differs from `vars` in the readers of seen variables. -/
structure Building (vars : Vars) (seen : List VarId) (given : List (VarId × BufferDataPosition))
    (request : SumReadRequest) (after : Vars) : Prop extends
    Distributed vars seen given request after where
  same : vars.SameButReaders after
  untouched : ∀ var ∉ seen, after var = vars var

/-- A request without chunks that is not allocated: as constructed, or as deallocated. -/
structure Fresh (request : SumReadRequest) : Prop where
  not_allocated : request.allocated = false
  not_initialized : request.initialized = false
  no_chunks : request.chunksByAdsPort = .empty
  max_pos : 0 < request.maxVarsPerBuffer
  max_lt : request.maxVarsPerBuffer < 2 ^ 16

theorem Fresh.building {request : SumReadRequest} (fresh : request.Fresh) (vars : Vars) :
    Building vars [] [] request vars := by
  have no_set (port : Nat) : request.chunkSet port = [] := by simp [chunkSet, fresh.no_chunks]
  refine ⟨⟨fresh.max_pos, fresh.max_lt, ?_, ?_, ?_, ?_, by simp⟩, .refl _, fun _ _ => rfl⟩
  · simp [fresh.no_chunks]
  · intro port
    simpa [no_set] using packed_nil _
  · simp [no_set]
  · simp [no_set, slotsFrom]

/-- Adding a variable replaces the chunk set of its port and nothing else of the request. -/
theorem chunkSet_insert (request : SumReadRequest) (port other : Nat)
    (chunks : List ReadRequestChunk) :
    ({ request with chunksByAdsPort := request.chunksByAdsPort.insert port chunks }).chunkSet
      other =
      if other = port then chunks else request.chunkSet other := by
  split_ifs with here
  · subst here
    simp [chunkSet]
  · simp [chunkSet, SortedMap.find?_insert_of_ne _ _ here]

/-- A pass of the loop that does not throw adds the variable to the open chunk of its port. -/
theorem addVariable_ok {request after : SumReadRequest} {var : VarId} {heap heap' : Heap}
    {front : List ReadRequestChunk} {back : ReadRequestChunk}
    (opened : openChunk (.new (heap.vars var).addr.adsPort request.maxVarsPerBuffer)
      (request.chunkSet (portOf heap.vars var)) = (front, back))
    (added : request.addVariable var heap = (false, after, heap')) :
    ∃ chunk, back.addVariable ⟨request.deallocations, portOf heap.vars var, front.length⟩ var
        heap = (false, chunk, heap') ∧
      after = { request with
        chunksByAdsPort :=
          request.chunksByAdsPort.insert (portOf heap.vars var) (front ++ [chunk]) } := by
  simp only [portOf] at opened
  simp only [addVariable, opened, Prod.mk.injEq] at added
  obtain ⟨returned, rfl, rfl⟩ := added
  exact ⟨_, Prod.ext returned rfl, rfl⟩

/-- What a pass of the loop makes of the chunk set of the variable's port: the chunks in front stay,
and the last one, or a new one behind it, takes the variable. -/
structure Placement (vars : Vars) (request : SumReadRequest) (var : VarId) (heap heap' : Heap)
    (front : List ReadRequestChunk) (back chunk : ReadRequestChunk) : Prop where
  sound : chunk.Sound (fun other => (vars other).size) request.maxVarsPerBuffer (portOf vars var)
  vars_eq : chunk.vars = back.vars ++ [var]
  heap_eq : heap'.vars = (heap.setBufferReader var
    ⟨some ⟨request.deallocations, portOf vars var, front.length⟩, back.vars.length,
      (back.vars.map fun other => (vars other).size).sum⟩).vars
  packing : (front ++ [chunk]).map ReadRequestChunk.vars =
    packStep (ReadRequestChunk.isFull (fun other => (vars other).size) request.maxVarsPerBuffer)
      ((request.chunkSet (portOf vars var)).map ReadRequestChunk.vars) var
  in_back : ((request.chunkSet (portOf vars var))[front.length]?.map
    ReadRequestChunk.vars).getD [] =
    back.vars
  elsewhere : ∀ index ≠ front.length,
    (front ++ [chunk])[index]? = (request.chunkSet (portOf vars var))[index]?
  in_front : ∀ other ∈ front, other ∈ request.chunkSet (portOf vars var)

theorem Building.placement {vars : Vars} {seen : List VarId}
    {given : List (VarId × BufferDataPosition)} {request after : SumReadRequest}
    {heap heap' : Heap} {var : VarId} (building : Building vars seen given request heap.vars)
    (added : request.addVariable var heap = (false, after, heap')) :
    ∃ front back chunk, Placement vars request var heap heap' front back chunk ∧
      after = { request with
        chunksByAdsPort :=
          request.chunksByAdsPort.insert (portOf vars var) (front ++ [chunk]) } := by
  have same := building.same
  have size_fun : (fun other => (heap.vars other).size) = fun other => (vars other).size :=
    funext same.size_eq
  have port_eq : portOf heap.vars var = portOf vars var := by rw [portOf, same.addr_eq, portOf]
  obtain ⟨front, back, opened⟩ : ∃ front back,
      openChunk (.new (heap.vars var).addr.adsPort request.maxVarsPerBuffer)
        (request.chunkSet (portOf heap.vars var)) = (front, back) := ⟨_, _, rfl⟩
  obtain ⟨chunk, chunk_added, rfl⟩ := addVariable_ok opened added
  have set_sound := building.sound (portOf heap.vars var)
  have back_sound := sound_openChunk building.max_lt set_sound
  rw [opened] at back_sound
  obtain ⟨chunk_sound, chunk_vars, heap_eq⟩ :=
    ReadRequestChunk.addVariable_ok (by rw [size_fun]; exact back_sound) chunk_added
  rw [size_fun, ← portOf] at chunk_sound
  rw [size_fun] at heap_eq
  have grown : chunk.vars = (openChunk (.new (heap.vars var).addr.adsPort request.maxVarsPerBuffer)
      (request.chunkSet (portOf heap.vars var))).2.vars ++ [var] := by
    rw [opened, chunk_vars]
  have packing := vars_openChunk set_sound grown
  have in_back := vars_opened (request.chunkSet (portOf heap.vars var))
    (.new (heap.vars var).addr.adsPort request.maxVarsPerBuffer) rfl
  have elsewhere := getElem?_openChunk (request.chunkSet (portOf heap.vars var))
    (.new (heap.vars var).addr.adsPort request.maxVarsPerBuffer) chunk
  have in_front := fun other =>
    mem_of_mem_openChunk (.new (heap.vars var).addr.adsPort request.maxVarsPerBuffer) other
      (request.chunkSet (portOf heap.vars var))
  rw [opened] at packing in_back elsewhere in_front
  simp only [port_eq] at *
  exact ⟨front, back, chunk,
    ⟨chunk_sound, chunk_vars, heap_eq, packing, in_back, elsewhere, in_front⟩, rfl⟩

/-- One variable more keeps the loop invariant. -/
theorem Building.step {vars : Vars} {seen : List VarId} {given : List (VarId × BufferDataPosition)}
    {request after : SumReadRequest} {heap heap' : Heap} {var : VarId}
    (building : Building vars seen given request heap.vars)
    (added : request.addVariable var heap = (false, after, heap')) :
    Building vars (seen ++ [var]) (given ++ [(var, (heap'.vars var).bufferReader)]) after
        heap'.vars ∧
      ∃ chunks, after = { request with chunksByAdsPort := chunks } := by
  obtain ⟨front, back, chunk, placement, rfl⟩ := building.placement added
  have heap_eq := placement.heap_eq
  have slot_given : (heap'.vars var).bufferReader =
      ⟨some ⟨request.deallocations, portOf vars var, front.length⟩, back.vars.length,
        (back.vars.map fun other => (vars other).size).sum⟩ := by
    rw [heap_eq, Heap.setBufferReader_self]
    rfl
  refine ⟨⟨⟨building.max_pos, building.max_lt, ?_, ?_, ?_, ?_, ?_⟩, ?_, ?_⟩, _, rfl⟩
  · intro port chunks found
    by_cases here : port = portOf vars var
    · subst here
      obtain rfl : front ++ [chunk] = chunks := by simpa using found
      simp
    · exact building.nonempty port chunks (by
        simpa [SortedMap.find?_insert_of_ne _ _ here] using found)
  · intro port
    rw [chunkSet_insert, List.filter_append]
    split_ifs with here
    · subst here
      have extended := (building.packed (portOf vars var)).step
        (by simpa [ReadRequestChunk.isFull] using building.max_pos.ne') var
      simpa [placement.packing] using extended
    · simpa [Ne.symm here] using building.packed port
  · intro port other member
    rw [chunkSet_insert] at member
    split_ifs at member with here
    · subst here
      rcases List.mem_append.mp member with earlier | last
      · exact building.sound (portOf vars var) other (placement.in_front other earlier)
      · obtain rfl := List.mem_singleton.mp last
        exact placement.sound
    · exact building.sound port other member
  · intro port index
    rw [chunkSet_insert, List.filter_append, building.slots port index, slot_given]
    split_ifs with here
    · subst here
      by_cases at_back : index = front.length
      · subst at_back
        simp [placement.in_back, placement.vars_eq, slotsFrom_concat]
      · simp [placement.elsewhere index at_back, Ne.symm at_back]
    · simp [Ne.symm here]
  · intro other member
    rw [chunkSet_insert]
    by_cases here : other = var
    · subst here
      obtain ⟨before, ends, last⟩ := lastAt_packStep_self
        (ReadRequestChunk.isFull (fun var => (vars var).size) request.maxVarsPerBuffer)
        ((request.chunkSet (portOf vars other)).map ReadRequestChunk.vars) other
      rw [← placement.packing] at ends last
      obtain rfl : back.vars = before := by simpa [placement.vars_eq] using ends
      exact ⟨front.length, back.vars, by simpa using last, slot_given⟩
    · obtain ⟨index, before, last, reader⟩ := building.readers other (by simpa [here] using member)
      refine ⟨index, before, ?_, ?_⟩
      · split_ifs with same_port
        · rw [placement.packing, ← same_port]
          exact last.step _ here
        · exact last
      · rw [heap_eq, Heap.setBufferReader_of_ne _ here, reader]
  · rw [heap_eq]
    exact building.same.trans (heap.sameButReaders_setBufferReader _ _)
  · intro other unseen
    obtain ⟨not_seen, distinct⟩ : other ∉ seen ∧ other ≠ var := by simpa using unseen
    rw [heap_eq, Heap.setBufferReader_of_ne _ distinct, building.untouched other not_seen]

/-- The slots that the loop over variables hands out, in order. -/
def slotsGiven : List VarId → SumReadRequest → Heap → List (VarId × BufferDataPosition)
  | [], _, _ => []
  | var :: vars, request, heap =>
      let added := request.addVariable var heap
      (var, (added.2.2.vars var).bufferReader) :: slotsGiven vars added.2.1 added.2.2

/-- The whole loop keeps the invariant and changes nothing of the request but its chunks. -/
theorem Building.loop {vars : Vars} {seen : List VarId}
    {given : List (VarId × BufferDataPosition)} {variableIds : List VarId}
    {request after : SumReadRequest} {heap heap' : Heap}
    (building : Building vars seen given request heap.vars)
    (added : addVariables variableIds request heap = (false, after, heap')) :
    Building vars (seen ++ variableIds) (given ++ slotsGiven variableIds request heap) after
        heap'.vars ∧
      ∃ chunks, after = { request with chunksByAdsPort := chunks } := by
  induction variableIds generalizing seen given request heap with
  | nil =>
      obtain ⟨rfl, rfl⟩ : request = after ∧ heap = heap' := by simpa [addVariables] using added
      exact ⟨by simpa [slotsGiven] using building, _, rfl⟩
  | cons var rest ih =>
      rw [addVariables] at added
      split_ifs at added with threw
      · simp [added] at threw
      · have returned : request.addVariable var heap =
            (false, (request.addVariable var heap).2.1, (request.addVariable var heap).2.2) :=
          Prod.ext (by simpa using threw) rfl
        obtain ⟨next, chunks, request_eq⟩ := building.step returned
        obtain ⟨last, chunks', after_eq⟩ := ih next added
        refine ⟨?_, chunks', by rw [after_eq, request_eq]⟩
        simpa only [List.append_assoc, List.singleton_append, slotsGiven] using last

/-- Related maps have related chunk sets under every port. -/
theorem forall₂_chunkSet {related : ReadRequestChunk → ReadRequestChunk → Prop}
    {before after : SumReadRequest}
    (maps : SortedMap.Related related before.chunksByAdsPort after.chunksByAdsPort) (port : Nat) :
    List.Forall₂ related (before.chunkSet port) (after.chunkSet port) := by
  have found := maps.find? port
  unfold chunkSet
  generalize before.chunksByAdsPort.find? port = left at found
  generalize after.chunksByAdsPort.find? port = right at found
  cases found with
  | none => exact .nil
  | some chunks => exact chunks

theorem SameLayout.map_vars {before after : SumReadRequest} (same : before.SameLayout after)
    (port : Nat) : (after.chunkSet port).map ReadRequestChunk.vars =
      (before.chunkSet port).map ReadRequestChunk.vars :=
  (map_eq_of_forall₂ ((forall₂_chunkSet same.chunks port).imp
    fun {_ _} chunk => chunk.vars_eq.symm)).symm

/-- The invariant depends on the layout of the chunks only. -/
theorem Distributed.sameLayout {vars after : Vars} {seen : List VarId}
    {given : List (VarId × BufferDataPosition)} {request request' : SumReadRequest}
    (distributed : Distributed vars seen given request after)
    (same : request.SameLayout request') : Distributed vars seen given request' after := by
  refine ⟨?_, ?_, ?_, ?_, ?_, ?_, ?_⟩
  · rw [same.max_eq]
    exact distributed.max_pos
  · rw [same.max_eq]
    exact distributed.max_lt
  · rintro port chunks found rfl
    have pair := same.chunks.find? port
    rw [found] at pair
    cases at_port : request.chunksByAdsPort.find? port with
    | none => simp [at_port] at pair
    | some before =>
        rw [at_port] at pair
        cases pair with
        | some lists =>
            exact distributed.nonempty port before at_port (List.forall₂_nil_right_iff.mp lists)
  · intro port
    rw [same.max_eq, same.map_vars]
    exact distributed.packed port
  · intro port chunk member
    obtain ⟨before, in_before, pair⟩ := mem_of_forall₂ (forall₂_chunkSet same.chunks port) member
    rw [same.max_eq]
    exact (distributed.sound port before in_before).sameLayout pair
  · intro port index
    rw [same.deallocations_eq, distributed.slots port index, ← List.getElem?_map,
      ← List.getElem?_map, same.map_vars]
  · intro var member
    rw [same.deallocations_eq, same.map_vars]
    exact distributed.readers var member

/-- The invariant speaks of variables only by their sizes, ports and readers. -/
theorem Distributed.rebase {vars vars' after after' : Vars} {seen : List VarId}
    {given : List (VarId × BufferDataPosition)} {request : SumReadRequest}
    (distributed : Distributed vars seen given request after)
    (same_size : ∀ var, (vars' var).size = (vars var).size)
    (same_port : ∀ var, (vars' var).addr.adsPort = (vars var).addr.adsPort)
    (same_reader : ∀ var, (after' var).bufferReader = (after var).bufferReader) :
    Distributed vars' seen given request after' := by
  have size_fun : (fun var => (vars' var).size) = fun var => (vars var).size := funext same_size
  have port_fun : portOf vars' = portOf vars := funext fun var => by
    rw [portOf, same_port, portOf]
  refine ⟨distributed.max_pos, distributed.max_lt, distributed.nonempty, ?_, ?_, ?_, ?_⟩
  · rw [size_fun, port_fun]
    exact distributed.packed
  · rw [size_fun]
    exact distributed.sound
  · rw [size_fun]
    exact distributed.slots
  · intro var member
    rw [port_fun, same_reader, size_fun]
    exact distributed.readers var member

/-- The variables of a chunk are among those distributed. -/
theorem Distributed.mem_of_chunk {vars after : Vars} {variableIds : List VarId}
    {given : List (VarId × BufferDataPosition)} {request : SumReadRequest}
    (distributed : Distributed vars variableIds given request after) {chunk : ReadRequestChunk}
    (member : chunk ∈ request.getChunks) {var : VarId} (held : var ∈ chunk.vars) :
    var ∈ variableIds := by
  obtain ⟨port, in_set⟩ := mem_getChunks_iff.mp member
  have flatten_eq := (distributed.packed port).flatten_eq
  have in_flatten : var ∈ ((request.chunkSet port).map ReadRequestChunk.vars).flatten :=
    List.mem_flatten.mpr ⟨chunk.vars, List.mem_map_of_mem in_set, held⟩
  rw [flatten_eq] at in_flatten
  exact (List.mem_filter.mp in_flatten).1

/-- Every buffer of the request has its storage. -/
def AllStored (request : SumReadRequest) : Prop :=
  ∀ port, ∀ chunk ∈ request.chunkSet port, chunk.Stored

theorem AllStored.sameLayout {before after : SumReadRequest} (stored : before.AllStored)
    (same : before.SameLayout after) : after.AllStored := by
  intro port chunk member
  obtain ⟨previous, in_before, pair⟩ := mem_of_forall₂ (forall₂_chunkSet same.chunks port) member
  exact pair.stored (stored port previous in_before)

/-- The loop that initializes the buffers keeps the layout and gives every buffer its storage. -/
theorem initializeBuffers_ok {map after : SortedMap Nat (List ReadRequestChunk)}
    {heap heap' : Heap}
    (done : map.visitAll ReadRequestChunk.initializeBuffer heap = ⟨none, heap', after⟩) :
    heap'.vars = heap.vars ∧
      SortedMap.Related (fun before chunk => before.SameLayout chunk ∧ chunk.Stored) map after := by
  have vars_kept := SortedMap.visitAll_state ReadRequestChunk.initializeBuffer
    (fun state => state.vars = heap.vars) map
    (fun chunk _ state same => (SumReadBuffer.initializeBuffer_vars _ state).trans same) rfl
  have related := SortedMap.visitAll_completes ReadRequestChunk.initializeBuffer (fun _ => True)
    (fun _ before chunk => before.SameLayout chunk ∧ chunk.Stored) map
    (fun _ _ _ _ => trivial) ?_ (fun _ _ _ _ _ _ pair => pair) heap trivial (by rw [done])
  · rw [done] at vars_kept related
    exact ⟨vars_kept, related⟩
  · intro chunk _ state _ returned
    have zero : (chunk.sumReadDataBuffer.initializeBuffer state).1 = 0 := by
      simpa [ReadRequestChunk.initializeBuffer] using returned
    obtain ⟨_, _, buffer_eq⟩ := SumReadBuffer.initializeBuffer_ok
      (Prod.ext zero rfl : chunk.sumReadDataBuffer.initializeBuffer state = (0, _, _))
    have stored : (ReadRequestChunk.initializeBuffer state chunk).result.Stored := by
      refine ⟨?_, List.replicate chunk.sumReadDataBuffer.bufferSize 0, ?_, ?_⟩
      · simp [ReadRequestChunk.initializeBuffer, buffer_eq]
      · simp [ReadRequestChunk.initializeBuffer, buffer_eq]
      · simp [ReadRequestChunk.initializeBuffer, buffer_eq]
    exact ⟨⟨rfl, rfl, rfl, ⟨_, _, _, _, buffer_eq⟩, fun _ => stored⟩, stored⟩

/-- What an `allocate` that returns 0 establishes. -/
theorem allocate_ok {request after : SumReadRequest} {variableIds : List VarId}
    {heap heap' : Heap} (fresh : request.Fresh)
    (allocated : request.allocate variableIds heap = (0, after, heap')) :
    Distributed heap.vars variableIds (slotsGiven variableIds request heap) after heap'.vars ∧
      after.AllStored ∧ heap.vars.SameButReaders heap'.vars ∧
      (∀ var ∉ variableIds, heap'.vars var = heap.vars var) ∧
      after.allocated = true ∧ after.initialized = false ∧
      after.deallocations = request.deallocations ∧
      after.maxVarsPerBuffer = request.maxVarsPerBuffer := by
  rcases added : addVariables variableIds request heap with ⟨threw, built, between⟩
  rcases loop : built.chunksByAdsPort.visitAll ReadRequestChunk.initializeBuffer between with
    ⟨exit, state, chunks⟩
  simp only [allocate, fresh.not_allocated, added, loop, Bool.false_eq_true, if_false] at allocated
  cases threw with
  | true => simp [epicsadsError] at allocated
  | false =>
      cases exit with
      | some rc => simp [epicsadsError] at allocated
      | none =>
          obtain ⟨rfl, rfl⟩ : _ = after ∧ state = heap' := by simpa using allocated
          obtain ⟨building, built_chunks, rfl⟩ := (fresh.building heap.vars).loop added
          obtain ⟨vars_eq, related⟩ := initializeBuffers_ok loop
          have same : SameLayout { request with chunksByAdsPort := built_chunks }
              { request with chunksByAdsPort := chunks, allocated := true } :=
            ⟨related.imp fun _ _ pair => pair.1, rfl, rfl⟩
          rw [vars_eq]
          refine ⟨building.toDistributed.sameLayout same, ?_, building.same,
            building.untouched, rfl,
            fresh.not_initialized, rfl, rfl⟩
          intro port chunk member
          obtain ⟨_, _, pair⟩ := mem_of_forall₂ (forall₂_chunkSet related port) member
          exact pair.2

end SumReadRequest

theorem SumReadBuffer.sameButReaders_addVariable (this : BufferPtr) (buffer : SumReadBuffer)
    (var : VarId) (heap : Heap) :
    heap.vars.SameButReaders (buffer.addVariable this var heap).2.2.vars := by
  unfold addVariable
  dsimp only
  split_ifs
  · exact .refl _
  · exact .refl _
  · exact .refl _
  · exact .refl _
  · exact .refl _
  · exact heap.request.2.sameButReaders_setBufferReader var _

theorem ReadRequestChunk.sameButReaders_addVariable (this : BufferPtr) (chunk : ReadRequestChunk)
    (var : VarId) (heap : Heap) :
    heap.vars.SameButReaders (chunk.addVariable this var heap).2.2.vars := by
  have added := chunk.sumReadDataBuffer.sameButReaders_addVariable this var heap
  unfold addVariable
  dsimp only
  split_ifs
  all_goals exact added

namespace SumReadRequest

theorem sameButReaders_addVariables (variableIds : List VarId) (request : SumReadRequest)
    (heap : Heap) :
    heap.vars.SameButReaders (addVariables variableIds request heap).2.2.vars := by
  induction variableIds generalizing request heap with
  | nil => exact .refl _
  | cons var rest ih =>
      have first : heap.vars.SameButReaders (request.addVariable var heap).2.2.vars :=
        ReadRequestChunk.sameButReaders_addVariable _ _ var heap
      rw [addVariables]
      split_ifs
      · exact first
      · exact first.trans (ih _ _)

theorem sameButReaders_deallocate (request : SumReadRequest) (heap : Heap) :
    heap.vars.SameButReaders (request.deallocate heap).2.vars := by
  have loop (ids : List VarId) (heap : Heap) : heap.vars.SameButReaders
      (ids.foldl (fun heap var => heap.setBufferReader var emptyBufferDataPosition) heap).vars := by
    induction ids generalizing heap with
    | nil => exact .refl _
    | cons first rest ih => exact (heap.sameButReaders_setBufferReader first _).trans (ih _)
  exact loop _ heap

/-- Whether or not it succeeds, `allocate` changes nothing of a variable but its slot. -/
theorem sameButReaders_allocate (request : SumReadRequest) (variableIds : List VarId)
    (heap : Heap) : heap.vars.SameButReaders (request.allocate variableIds heap).2.2.vars := by
  have added := sameButReaders_addVariables variableIds request heap
  generalize result : addVariables variableIds request heap = outcome at added
  have initialized : (outcome.2.1.chunksByAdsPort.visitAll ReadRequestChunk.initializeBuffer
      outcome.2.2).state.vars = outcome.2.2.vars :=
    SortedMap.visitAll_state _ (fun state => state.vars = outcome.2.2.vars) _
      (fun chunk _ state same => (SumReadBuffer.initializeBuffer_vars _ state).trans same) rfl
  rw [← initialized] at added
  unfold allocate
  rw [result]
  dsimp only
  split_ifs
  · exact .refl _
  · rw [initialized] at added
    exact added.trans (sameButReaders_deallocate _ _)
  · exact added.trans (sameButReaders_deallocate _ _)
  · exact added

end SumReadRequest

/-! ## The partition -/

/-- What the partition says about the chunk whose buffer is at `this` and which handed out
`slots`. -/
structure ReadRequestChunk.Tiled (size : VarId → Nat) (maxVariables : Nat) (this : BufferPtr)
    (slots : List (VarId × BufferDataPosition)) (chunk : ReadRequestChunk) : Prop where
  port_eq : chunk.adsPort.toNat = this.port
  nonempty : chunk.vars ≠ []
  count_le : chunk.vars.length ≤ maxVariables
  /-- Without its last variable a chunk is below the soft limit. -/
  below_limit :
    (chunk.vars.dropLast.map size).sum < chunk.sumReadDataBuffer.maxDataSizeSoftLimit
  /-- The 16-bit result index has not wrapped around. -/
  result_offset : chunk.sumReadDataBuffer.nextResultOffset = chunk.vars.length
  buffer_size : chunk.sumReadDataBuffer.bufferSize =
    4 * chunk.vars.length + (chunk.vars.map size).sum
  data_size : chunk.sumReadDataBuffer.dataSize = (chunk.vars.map size).sum
  slot : ∀ index, slots[index]? = chunk.vars[index]?.map fun var =>
    (var, BufferDataPosition.mk (some this) index ((chunk.vars.take index).map size).sum)
  disjoint : (slots.map fun slot => List.range' slot.2.offData (size slot.1)).Pairwise List.Disjoint
  covered : (slots.map fun slot => List.range' slot.2.offData (size slot.1)).flatten =
    List.range chunk.sumReadDataBuffer.dataSize

namespace SumReadRequest

/-- The chunks of a request partition a list of variables, and `after` finds every variable at its
last occurrence. -/
structure Partition (vars : Vars) (variableIds : List VarId)
    (given : List (VarId × BufferDataPosition)) (request : SumReadRequest) (after : Vars) :
    Prop where
  order : ∀ port, (request.chunkSet port).flatMap ReadRequestChunk.vars =
    variableIds.filter fun var => portOf vars var = port
  ports : ∀ port, request.chunksByAdsPort.find? port ≠ none →
    ∃ var ∈ variableIds, portOf vars var = port
  given_vars : given.map Prod.fst = variableIds
  tiled : ∀ port index (chunk : ReadRequestChunk), (request.chunkSet port)[index]? = some chunk →
    chunk.Tiled (fun var => (vars var).size) request.maxVarsPerBuffer
      ⟨request.deallocations, port, index⟩
      (given.filter fun slot => slot.2.buffer = some ⟨request.deallocations, port, index⟩)
  filled : ∀ port, ∀ chunk ∈ (request.chunkSet port).dropLast,
    chunk.sumReadDataBuffer.atCapacity = true ∧
      (chunk.sumReadDataBuffer.maxDataSizeSoftLimit ≤
        (chunk.vars.map fun var => (vars var).size).sum ∨
        request.maxVarsPerBuffer ≤ chunk.vars.length)
  reader : ∀ var ∈ variableIds, ∃ index chunk front back,
    (request.chunkSet (portOf vars var))[index]? = some chunk ∧
      chunk.vars = front ++ var :: back ∧ var ∉ back ∧
      (∀ later ∈ (request.chunkSet (portOf vars var)).drop (index + 1), var ∉ later.vars) ∧
      (after var).bufferReader = ⟨some ⟨request.deallocations, portOf vars var, index⟩,
        front.length, (front.map fun other => (vars other).size).sum⟩

theorem map_fst_slotsGiven (variableIds : List VarId) (request : SumReadRequest) (heap : Heap) :
    (slotsGiven variableIds request heap).map Prod.fst = variableIds := by
  induction variableIds generalizing request heap with
  | nil => rfl
  | cons var rest ih => simp [slotsGiven, ih]

namespace Distributed

variable {vars after : Vars} {variableIds : List VarId}
  {given : List (VarId × BufferDataPosition)} {request : SumReadRequest}

theorem tiled (distributed : Distributed vars variableIds given request after) {port index : Nat}
    {chunk : ReadRequestChunk} (at_index : (request.chunkSet port)[index]? = some chunk) :
    chunk.Tiled (fun var => (vars var).size) request.maxVarsPerBuffer
      ⟨request.deallocations, port, index⟩
      (given.filter fun slot => slot.2.buffer = some ⟨request.deallocations, port, index⟩) := by
  have member := List.mem_of_getElem? at_index
  have sound := distributed.sound port chunk member
  have layout := sound.layout
  have in_bins : chunk.vars ∈ (request.chunkSet port).map ReadRequestChunk.vars :=
    List.mem_map_of_mem member
  have room := (distributed.packed port).room chunk.vars in_bins
  have slots := distributed.slots port index
  rw [at_index, Option.map_some, Option.getD_some] at slots
  have data_size := layout.dataSize_eq
  rw [sound.vars_eq] at data_size
  have ranges := ranges_slotsFrom ⟨request.deallocations, port, index⟩
    (fun var => (vars var).size) 0 0 chunk.vars
  simp only [Nat.zero_add, List.map_id_fun', List.map_id_fun, id_eq] at ranges
  rw [slots]
  refine ⟨sound.port_eq, (distributed.packed port).nonempty chunk.vars in_bins, ?_, ?_, ?_, ?_,
    data_size, ?_, ?_, ?_⟩
  · rw [← sound.vars_eq, ← sound.max_eq]
    exact layout.count_le
  · rw [sound.limit_eq]
    simp only [ReadRequestChunk.isFull, Bool.or_eq_false_iff, decide_eq_false_iff_not] at room
    omega
  · rw [layout.result_offset, sound.vars_eq]
  · rw [layout.buffer_size, sound.vars_eq]
    rfl
  · intro position
    simp [getElem?_slotsFrom]
  · rw [ranges]
    exact List.ranges_disjoint _
  · rw [ranges, data_size]
    exact List.ranges_flatten _

theorem filled (distributed : Distributed vars variableIds given request after) {port : Nat}
    {chunk : ReadRequestChunk} (member : chunk ∈ (request.chunkSet port).dropLast) :
    chunk.sumReadDataBuffer.atCapacity = true ∧
      (chunk.sumReadDataBuffer.maxDataSizeSoftLimit ≤
        (chunk.vars.map fun var => (vars var).size).sum ∨
        request.maxVarsPerBuffer ≤ chunk.vars.length) := by
  have sound := distributed.sound port chunk (List.mem_of_mem_dropLast member)
  have full := (distributed.packed port).filled chunk.vars (by
    rw [← List.map_dropLast]
    exact List.mem_map_of_mem member)
  refine ⟨sound.atCapacity_eq.trans full, ?_⟩
  rw [sound.limit_eq]
  simpa [ReadRequestChunk.isFull] using full

end Distributed

/-- An allocation that succeeds partitions the variables in order, port by port, into chunks whose
slots tile their data blocks. -/
theorem allocate_partition {request after : SumReadRequest} (fresh : request.Fresh)
    {variableIds : List VarId} {heap heap' : Heap}
    (allocated : request.allocate variableIds heap = (0, after, heap')) :
    Partition heap.vars variableIds (slotsGiven variableIds request heap) after heap'.vars := by
  have distributed := (allocate_ok fresh allocated).1
  refine ⟨?_, ?_, map_fst_slotsGiven _ _ _, fun _ _ _ => distributed.tiled,
    fun _ _ => distributed.filled, ?_⟩
  · intro port
    rw [List.flatMap, (distributed.packed port).flatten_eq]
  · intro port used
    obtain ⟨chunks, found⟩ := Option.ne_none_iff_exists'.mp used
    have set_eq : after.chunkSet port = chunks := by simp [chunkSet, found]
    obtain ⟨chunk, rest, rfl⟩ :=
      List.exists_cons_of_ne_nil (distributed.nonempty port chunks found)
    have flatten_eq := (distributed.packed port).flatten_eq
    obtain ⟨var, in_chunk⟩ := List.exists_mem_of_ne_nil _
      ((distributed.packed port).nonempty chunk.vars (by simp [set_eq]))
    have listed : var ∈ variableIds.filter fun var => portOf heap.vars var = port := by
      rw [← flatten_eq, set_eq]
      simp [in_chunk]
    exact ⟨var, by simpa using listed⟩
  · intro var member
    obtain ⟨index, front, ⟨back, at_index, not_back, not_later⟩, reader⟩ :=
      distributed.readers var member
    rw [List.getElem?_map] at at_index
    obtain ⟨chunk, at_index, vars_eq⟩ := Option.map_eq_some_iff.mp at_index
    refine ⟨index, chunk, front, back, at_index, vars_eq, not_back, ?_, reader⟩
    intro later in_later
    exact not_later later.vars (by rw [← List.map_drop]; exact List.mem_map_of_mem in_later)

/-- Variables of two sizes on two ports. -/
def sampleVars : Vars := fun var =>
  { addr := {
      dataType := if var = 0 then .int else .lreal
      operation := .read
      variableName := "MAIN.x".toList
      adsPort := if var = 2 then 852 else 851
      nelem := 1 }
    conn := true
    arrayDataHash := 0 }

/-- A new request with at most two variables in a buffer. -/
def sampleRequest : SumReadRequest := { maxVarsPerBuffer := 2 }

theorem sampleRequest_fresh : sampleRequest.Fresh := ⟨rfl, rfl, rfl, by decide, by decide⟩

/-- The request after the allocation of a list with a repetition, and the heap. -/
def sampleAllocated : Int × SumReadRequest × Heap :=
  sampleRequest.allocate [0, 1, 2, 0] ⟨sampleVars, []⟩

theorem sampleAllocated_eq : sampleRequest.allocate [0, 1, 2, 0] ⟨sampleVars, []⟩ =
    (0, sampleAllocated.2.1, sampleAllocated.2.2) :=
  Prod.ext (by decide) rfl

theorem allocate_partition_sample :
    Partition sampleVars [0, 1, 2, 0] (slotsGiven [0, 1, 2, 0] sampleRequest ⟨sampleVars, []⟩)
      sampleAllocated.2.1 sampleAllocated.2.2.vars :=
  allocate_partition sampleRequest_fresh sampleAllocated_eq

end SumReadRequest

theorem ReadRequestChunk.isFull_of_sublist {size : VarId → Nat} {maxVariables : Nat}
    {inner outer : List VarId} (within : inner.Sublist outer)
    (room : isFull size maxVariables outer = false) : isFull size maxVariables inner = false := by
  have count_le := within.length_le
  have sum_le : (inner.map size).sum ≤ (outer.map size).sum :=
    (within.map size).sum_le_sum fun _ _ => Nat.zero_le _
  simp only [isFull, Bool.or_eq_false_iff, decide_eq_false_iff_not] at room ⊢
  omega

/-- A port and some variables there may be asked for together: there are not too many of them, and
without the last one their data are below the soft limit. -/
structure ReadRequestChunk.Allowed (size : VarId → Nat) (maxVariables : Nat)
    (asked : Nat × List VarId) : Prop where
  count_le : asked.2.length ≤ maxVariables
  below_limit : (asked.2.dropLast.map size).sum < 1000000

instance (size : VarId → Nat) (maxVariables : Nat) (asked : Nat × List VarId) :
    Decidable (ReadRequestChunk.Allowed size maxVariables asked) :=
  decidable_of_iff (asked.2.length ≤ maxVariables ∧ (asked.2.dropLast.map size).sum < 1000000)
    ⟨fun both => ⟨both.1, both.2⟩, fun allowed => ⟨allowed.count_le, allowed.below_limit⟩⟩

theorem ReadRequestChunk.Allowed.room {size : VarId → Nat} {maxVariables : Nat}
    {asked : Nat × List VarId} (allowed : Allowed size maxVariables asked)
    (max_pos : 0 < maxVariables) : isFull size maxVariables asked.2.dropLast = false := by
  have count_le := allowed.count_le
  have below_limit := allowed.below_limit
  simp only [isFull, Bool.or_eq_false_iff, decide_eq_false_iff_not, List.length_dropLast]
  omega

namespace SumReadRequest

/-- Some requests ask for all variables of each port in their order. -/
def Covers (vars : Vars) (variableIds : List VarId) (requests : List (Nat × List VarId)) : Prop :=
  ∀ port, (requests.filter fun asked => asked.1 = port).flatMap Prod.snd =
    variableIds.filter fun var => portOf vars var = port

/-- An allocation that succeeds makes the fewest chunks: no other way to ask for the variables of
each port in their order, within the limits of a chunk, takes fewer requests. -/
theorem allocate_fewest {request after : SumReadRequest} (fresh : request.Fresh)
    {variableIds : List VarId} {heap heap' : Heap}
    (allocated : request.allocate variableIds heap = (0, after, heap'))
    {requests : List (Nat × List VarId)} (covers : Covers heap.vars variableIds requests)
    (allowed : ∀ asked ∈ requests, ReadRequestChunk.Allowed
      (fun var => (heap.vars var).size) request.maxVarsPerBuffer asked) :
    after.getChunks.length ≤ requests.length := by
  have distributed := (allocate_ok fresh allocated).1
  have max_eq := (allocate_ok fresh allocated).2.2.2.2.2.2.2
  rw [← max_eq] at allowed
  refine SortedMap.length_flatten_values_le Prod.fst fun port chunks found => ?_
  have set_eq : after.chunkSet port = chunks := by simp [chunkSet, found]
  have covered : variableIds.filter (fun var => portOf heap.vars var = port) <:+
      ((requests.filter fun asked => asked.1 = port).map Prod.snd).flatten := by
    rw [← List.flatMap_def, covers port]
  have fewest := (distributed.packed port).length_le
    (fun _ _ within => ReadRequestChunk.isFull_of_sublist within) covered fun vars member => by
      obtain ⟨asked, in_requests, rfl⟩ := List.mem_map.mp member
      exact (allowed asked (List.mem_of_mem_filter in_requests)).room distributed.max_pos
  simpa only [set_eq, List.length_map] using fewest

/-- A way to ask for the variables of the sample. -/
def sampleRequests : List (Nat × List VarId) := [(851, [0, 1]), (852, [2]), (851, [0])]

theorem allocate_fewest_sample : sampleAllocated.2.1.getChunks.length ≤ 3 := by
  have covers : Covers sampleVars [0, 1, 2, 0] sampleRequests := by
    intro port
    by_cases first : port = 851
    · subst first
      decide
    by_cases second : port = 852
    · subst second
      decide
    · simp [sampleRequests, portOf, sampleVars, Ne.symm first, Ne.symm second]
  exact allocate_fewest sampleRequest_fresh sampleAllocated_eq covers (by decide)

end SumReadRequest

end AdsDriver
