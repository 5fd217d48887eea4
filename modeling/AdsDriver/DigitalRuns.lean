import AdsDriver.Data.Runs
import AdsDriver.DigitalWrite
import AdsDriver.SumRead

/-!
# Runs of masked digital writes

Sum-reads, reads and masked writes of one variable with readback are taken in any order.  A
masked write starts from the echo of the write before, unless some read has used it up; it then
starts from the last sum-read, which may be older than that write.
-/

namespace AdsDriver

open ByteMemory Masks Runs

/-- What stays the same in a run: the variable and the driver it belongs to. -/
structure DigitalSystem where
  autoparam : Autoparam
  ads : Ads
  connection : Connection
  registration : Registration
  plcDataType : EpicsType
  var : VarId

/-- What changes in a run. -/
structure DigitalState where
  vars : Vars
  request : SumReadRequest
  trace : Trace

/-- The steps that are taken under the driver's lock. -/
inductive DigitalStep
  /-- A sum-read into the buffers of all variables. -/
  | sumRead
  /-- The visit of the variable by `performIOIntr`. -/
  | performIOIntr (garbage : Nat → UInt8)
  /-- A polled read. -/
  | digitalRead (mask : BitVec 32) (garbage : Nat → UInt8)
  | digitalWrite (val mask : BitVec 32) (garbage beyond : Nat → UInt8)

namespace DigitalSystem

variable (system : DigitalSystem)

/-- The state with other contents of the variable. -/
def setVar (state : DigitalState) (content : ADSVariable) : DigitalState :=
  { state with vars := Function.update state.vars system.var content }

/-- One step. -/
def step (state : DigitalState) : DigitalStep → DigitalState
  | .sumRead =>
      let read := state.request.read system.ads system.connection state.trace
      { state with request := read.2.1, trace := read.2.2 }
  | .performIOIntr garbage =>
      match ioIntrRead system.autoparam system.connection state.request.buffers
        system.registration.function (state.vars system.var) garbage with
      | none => state
      | some read => system.setVar state read.2
  | .digitalRead mask garbage =>
      system.setVar state (AdsDriver.digitalRead system.autoparam system.connection
        state.request.buffers (state.vars system.var) system.plcDataType mask garbage).2
  | .digitalWrite val mask garbage beyond =>
      let written := AdsDriver.digitalWrite system.autoparam system.ads system.connection
        (state.vars system.var) state.request.buffers system.plcDataType val mask garbage beyond
        state.trace
      { system.setVar state written.2.var with trace := written.2.trace }

/-- The value that the variable should have after a step: writes replace the bits of their
masks. -/
def intend (value : Bytes) : DigitalStep → Bytes
  | .digitalWrite val mask _ _ => applyMask system.plcDataType.size value val mask
  | _ => value

/-- A device that accepts every request, and answers sum-reads for the variable by its value. -/
structure Serves (content : ADSVariable) (initial : Bytes) (deliver : Delivery) : Prop where
  accepts : ∀ trace call, (system.ads trace call).rc = 0
  sumReads : AnswersSumReads system.ads deliver
  delivers : ∀ (trace : Trace) (entries : List AdsSymbolInfoByName) (index : Nat)
    (answer : UInt32 × Bytes), (content.plcValue initial trace).length = content.size →
    entries[index]? = some content.requestEntry →
    (deliver trace content.addr.adsPort entries)[index]? = some answer →
    answer = (0, content.plcValue initial trace)

/-- A digital variable with readback that is connected and resolved. -/
structure Writable (content : ADSVariable) : Prop where
  registered : system.registration ∈ registeredHandlers
  digital : system.registration.digital = true
  handler : system.registration.write = .digitalWrite system.plcDataType
  made : content.OfFunction system.registration.function
  readback : content.writeReadback = true
  conn : content.conn = true
  resolved : content.addr.nameIsResolved = true
  connected : system.connection.isConnected = true

end DigitalSystem

/-- The bits of a value that a mask leaves out. -/
def keptBits (bytes : Nat) (value : Bytes) (mask : BitVec 32) : BitVec (8 * bytes) :=
  word (8 * bytes) value &&& ~~~mask.setWidth (8 * bytes)

theorem applyMask_eq_iff {bytes : Nat} (small : 8 * bytes ≤ 32) {first second : Bytes}
    (val mask : BitVec 32) :
    applyMask bytes first val mask = applyMask bytes second val mask ↔
      keptBits bytes first mask = keptBits bytes second mask := by
  have narrow (value : Bytes) : (word 32 value).setWidth (8 * bytes) = word (8 * bytes) value :=
    BitVec.setWidth_ofNat_of_le small _
  rw [applyMask, applyMask, leBytes_toNat_inj, setWidth_replaceBits small,
    setWidth_replaceBits small, narrow, narrow, replaceBits_eq_iff]
  rfl

namespace DigitalSystem

/-- What holds in every state of a run: only the pending echo of the variable has changed, and if
there is one, it is the value on the PLC. -/
structure Kept (system : DigitalSystem) (start : DigitalState) (initial : Bytes)
    (variableIds : List VarId) (given : List (VarId × BufferDataPosition))
    (state : DigitalState) : Prop where
  ready : state.request.Ready start.vars variableIds given
  vars_eq : ∃ lastWritten,
    state.vars =
      Function.update start.vars system.var ((start.vars system.var).withEcho lastWritten) ∧
    (lastWritten = [] ∨ lastWritten = (start.vars system.var).plcValue initial state.trace)
  plc_length : ((start.vars system.var).plcValue initial state.trace).length =
    (start.vars system.var).size

/-- What holds from the first sum-read on. -/
structure Inv (system : DigitalSystem) (start : DigitalState) (initial : Bytes)
    (variableIds : List VarId) (given : List (VarId × BufferDataPosition))
    (state : DigitalState) : Prop extends
    Kept system start initial variableIds given state where
  fetched : ∃ data, (start.vars system.var).snapshot state.request.buffers = some (0, data)

section Steps

variable {system : DigitalSystem} {start state : DigitalState} {initial : Bytes}
  {variableIds : List VarId} {given : List (VarId × BufferDataPosition)} {deliver : Delivery}

theorem writtenTo_of_requestsEntries {connection : Connection} {target : UInt16}
    {entries : List AdsSymbolInfoByName} {event : AdsEvent}
    (sent : ReadRequestChunk.RequestsEntries connection target entries event.call)
    (addr : ADSAddress) : event.writtenTo addr = none := by
  rw [ReadRequestChunk.RequestsEntries] at sent
  simp [AdsEvent.writtenTo, sent]

/-- After a sum-read, the variable's snapshot is the value on the PLC. -/
theorem Kept.sumRead (kept : Kept system start initial variableIds given state)
    (serves : system.Serves (start.vars system.var) initial deliver)
    (listed : system.var ∈ variableIds) :
    Inv system start initial variableIds given (system.step state .sumRead) ∧
      (start.vars system.var).plcValue initial (system.step state .sumRead).trace =
        (start.vars system.var).plcValue initial state.trace := by
  obtain ⟨after, trace', done⟩ :=
    kept.ready.read_succeeds serves.accepts system.connection state.trace
  obtain ⟨events, rfl, ready, calls, _, _⟩ := kept.ready.read serves.sumReads done
  have silent (before : Trace) {earlier : Trace} (reached : earlier <+: events) :
      (start.vars system.var).plcValue initial (before ++ earlier) =
        (start.vars system.var).plcValue initial before := by
    rw [ADSVariable.plcValue_append]
    refine ADSVariable.plcValue_of_none ?_ _
    intro event member
    obtain ⟨target, entries, _, sent⟩ := calls event (reached.subset member)
    exact writtenTo_of_requestsEntries sent _
  have silent_all := silent state.trace (List.prefix_refl events)
  obtain ⟨all, earlier, sent, index, answer, same, reached, at_index, delivered, taken⟩ :=
    kept.ready.snapshot_read serves.sumReads done listed
  obtain rfl := List.append_cancel_left same
  have plc_length := kept.plc_length
  rw [← silent state.trace reached] at plc_length
  obtain rfl := serves.delivers _ sent index _ plc_length at_index delivered
  have step_eq : system.step state .sumRead =
      { state with request := after, trace := state.trace ++ events } := by
    simp [step, done]
  rw [step_eq]
  refine ⟨⟨⟨ready, ?_, ?_⟩, _, taken⟩, silent_all⟩
  · simpa only [silent_all] using kept.vars_eq
  · simpa only [silent_all] using kept.plc_length

/-- A variable with readback whose buffer is valid and whose result code is 0 is served its echo
or, without one, the data of its slot, and has no echo afterwards. -/
theorem Writable.current {content : ADSVariable} (writable : system.Writable content)
    {buffers : Buffers} {data : Bytes} (taken : content.snapshot buffers = some (0, data)) :
    content.echoPending = !content.lastWritten.isEmpty ∧
      content.current system.connection buffers =
        some (if content.lastWritten.isEmpty then data else content.lastWritten) ∧
      content.afterCurrent system.connection buffers = content.withEcho [] := by
  have pending : content.echoPending = !content.lastWritten.isEmpty := by
    rw [ADSVariable.echoPending, writable.readback, Bool.true_and]
  have admitted : readRefused system.connection content = false := by
    simp [readRefused, writable.readback, writable.conn, writable.connected]
  have found : content.current system.connection buffers =
      some (if content.lastWritten.isEmpty then data else content.lastWritten) := by
    rw [ADSVariable.current, admitted, taken]
    cases empty : content.lastWritten.isEmpty <;>
      simp [ADSVariable.delivered, pending, empty]
  refine ⟨pending, found, ?_⟩
  rw [ADSVariable.afterCurrent, found, Option.isSome_some, if_pos rfl, ADSVariable.afterRead,
    pending]
  cases written : content.lastWritten with
  | nil => exact ((content.withEcho_self).symm.trans (by rw [written])).trans rfl
  | cons byte bytes => rfl

theorem Writable.withEcho {content : ADSVariable} (writable : system.Writable content)
    (lastWritten : Bytes) : system.Writable (content.withEcho lastWritten) :=
  have made := writable.made
  ⟨writable.registered, writable.digital, writable.handler,
    ⟨made.dataType_eq, made.nelem_pos, made.nelem_lt, made.nelem_scalar⟩, writable.readback,
    writable.conn, writable.resolved, writable.connected⟩

theorem Inv.setVar (inv : Inv system start initial variableIds given state) :
    Inv system start initial variableIds given
      (system.setVar state ((start.vars system.var).withEcho [])) := by
  obtain ⟨lastWritten, vars_eq, _⟩ := inv.vars_eq
  refine ⟨⟨inv.ready, ⟨[], ?_, .inl rfl⟩, inv.plc_length⟩, inv.fetched⟩
  simp only [DigitalSystem.setVar, vars_eq, Function.update_idem]

/-- What holds of the variable in a state of a run. -/
theorem Inv.content (inv : Inv system start initial variableIds given state)
    (writable : system.Writable (start.vars system.var)) (listed : system.var ∈ variableIds) :
    ∃ lastWritten data,
      state.vars system.var = (start.vars system.var).withEcho lastWritten ∧
      (lastWritten = [] ∨ lastWritten = (start.vars system.var).plcValue initial state.trace) ∧
      (state.vars system.var).snapshot state.request.buffers = some (0, data) ∧
      system.Writable (state.vars system.var) ∧
      (state.vars system.var).Placed state.request.buffers ∧
      (state.vars system.var).EchoSized := by
  obtain ⟨lastWritten, vars_eq, echo⟩ := inv.vars_eq
  obtain ⟨data, taken⟩ := inv.fetched
  have content_eq : state.vars system.var = (start.vars system.var).withEcho lastWritten := by
    rw [vars_eq, Function.update_self]
  refine ⟨lastWritten, data, content_eq, echo, ?_, ?_, ?_, ?_⟩
  · rw [content_eq]
    exact taken
  · rw [content_eq]
    exact writable.withEcho lastWritten
  · rw [content_eq]
    exact inv.ready.distributed.placed inv.ready.stored listed
  · rw [content_eq]
    exact echo.imp id fun same => (congrArg List.length same).trans inv.plc_length

/-- A polled read keeps the invariant. -/
theorem Inv.digitalRead (inv : Inv system start initial variableIds given state)
    (writable : system.Writable (start.vars system.var)) (listed : system.var ∈ variableIds)
    (mask : BitVec 32) (garbage : Nat → UInt8) :
    Inv system start initial variableIds given (system.step state (.digitalRead mask garbage)) := by
  obtain ⟨lastWritten, data, content_eq, _, taken, here, placed, echo⟩ :=
    inv.content writable listed
  obtain ⟨_, _, _, _, size_eq⟩ := digital_handlers here.registered here.digital here.handler
  obtain ⟨_, _, after_eq⟩ := here.current taken
  have read := digitalRead_eq system.autoparam system.connection placed echo (size_eq here.made)
    mask garbage
  have step_eq : system.step state (.digitalRead mask garbage) =
      system.setVar state ((start.vars system.var).withEcho []) := by
    simp only [step, read, after_eq]
    rw [content_eq, ADSVariable.withEcho_withEcho]
  rw [step_eq]
  exact inv.setVar

/-- A visit by `performIOIntr` does what a polled read does. -/
theorem Inv.performIOIntr (inv : Inv system start initial variableIds given state)
    (writable : system.Writable (start.vars system.var)) (listed : system.var ∈ variableIds)
    (garbage : Nat → UInt8) :
    Inv system start initial variableIds given (system.step state (.performIOIntr garbage)) := by
  obtain ⟨_, _, _, _, _, here, _, _⟩ := inv.content writable listed
  obtain ⟨_, found, _, _, _⟩ := digital_handlers here.registered here.digital here.handler
  have visited : system.step state (.performIOIntr garbage) =
      system.step state (.digitalRead ioIntrMask garbage) := by
    simp only [step, ioIntrRead_eq system.autoparam system.connection here.made, found,
      Option.map_some, ReadHandler.run]
  rw [visited]
  exact inv.digitalRead writable listed ioIntrMask garbage

/-- A masked write stores the bits of its mask over the echo or, without one, over the data of
the last sum-read. -/
theorem Inv.digitalWrite (inv : Inv system start initial variableIds given state)
    (serves : system.Serves (start.vars system.var) initial deliver)
    (writable : system.Writable (start.vars system.var)) (listed : system.var ∈ variableIds)
    (val mask : BitVec 32) (garbage beyond : Nat → UInt8) :
    ∃ lastWritten data,
      state.vars system.var = (start.vars system.var).withEcho lastWritten ∧
      (lastWritten = [] ∨ lastWritten = (start.vars system.var).plcValue initial state.trace) ∧
      (state.vars system.var).snapshot state.request.buffers = some (0, data) ∧
      (start.vars system.var).plcValue initial
          (system.step state (.digitalWrite val mask garbage beyond)).trace =
        applyMask system.plcDataType.size (if lastWritten.isEmpty then data else lastWritten)
          val mask ∧
      Inv system start initial variableIds given
        (system.step state (.digitalWrite val mask garbage beyond)) := by
  obtain ⟨lastWritten, data, content_eq, echo_eq, taken, here, placed, echo⟩ :=
    inv.content writable listed
  obtain ⟨_, _, _, _, size_eq⟩ := digital_handlers here.registered here.digital here.handler
  obtain ⟨_, found, _⟩ := here.current taken
  obtain ⟨lastWritten', before_eq⟩ :=
    (state.vars system.var).beforeWrite_eq system.connection state.request.buffers mask
  have sendable : (state.vars system.var).sendable = true := by
    rw [ADSVariable.sendable, here.conn, here.resolved]
    rfl
  have encoded : leBytes system.plcDataType.size (replaceBits
      (currentWord system.autoparam ((state.vars system.var).current system.connection
        state.request.buffers)) val mask).toNat =
      applyMask system.plcDataType.size (if lastWritten.isEmpty then data else lastWritten)
        val mask := by
    rw [found, content_eq]
    rfl
  have sent := digitalWrite_sent system.autoparam system.ads system.connection placed echo
    (size_eq here.made) sendable val mask garbage beyond state.trace encoded rfl
  obtain ⟨stored, stored_eq⟩ : ∃ stored, applyMask system.plcDataType.size
      (if lastWritten.isEmpty then data else lastWritten) val mask = stored := ⟨_, rfl⟩
  rw [stored_eq] at encoded sent
  have event_rc : (system.ads.event state.trace ((state.vars system.var).writeCall
      system.connection stored)).reply.rc = 0 :=
    serves.accepts _ _
  have plc_eq : (start.vars system.var).plcValue initial (state.trace ++
      [system.ads.event state.trace ((state.vars system.var).writeCall system.connection stored)]) =
      stored := by
    have call_eq : (state.vars system.var).writeCall system.connection stored =
        (start.vars system.var).writeCall system.connection stored := by
      rw [content_eq]
      rfl
    rw [call_eq, ADSVariable.plcValue_append, ADSVariable.plcValue_writeCall,
      if_pos (serves.accepts _ _)]
  have after_eq : ((state.vars system.var).beforeWrite system.connection state.request.buffers
      mask).afterWrite 0 stored = (start.vars system.var).withEcho stored := by
    rw [before_eq, content_eq]
    exact if_pos ⟨rfl, writable.readback⟩
  have step_eq : system.step state (.digitalWrite val mask garbage beyond) =
      { system.setVar state ((start.vars system.var).withEcho stored) with
        trace := state.trace ++ [system.ads.event state.trace
          ((state.vars system.var).writeCall system.connection stored)] } := by
    simp only [step, sent, event_rc, after_eq]
  refine ⟨lastWritten, data, content_eq, echo_eq, taken, ?_, ?_⟩
  · rw [step_eq, stored_eq]
    exact plc_eq
  · obtain ⟨earlier, vars_eq, _⟩ := inv.vars_eq
    rw [step_eq]
    refine ⟨⟨inv.ready, ⟨stored, ?_, .inr plc_eq.symm⟩, ?_⟩, inv.fetched⟩
    · simp only [DigitalSystem.setVar, vars_eq, Function.update_idem]
    · rw [plc_eq, ← encoded, length_leBytes, ← size_eq writable.made]

/-- The value of the variable on the PLC. -/
def plc (system : DigitalSystem) (initial : Bytes) (state : DigitalState) : Bytes :=
  (state.vars system.var).plcValue initial state.trace

/-- Whether a step, if it is a masked write, starts from the value on the PLC as far as the mask
keeps it: because the echo of the write before is pending, or because the last sum-read is recent
enough. -/
def StartsFresh (system : DigitalSystem) (initial : Bytes) (state : DigitalState) :
    DigitalStep → Prop
  | .digitalWrite _ mask _ _ =>
      (state.vars system.var).echoPending = true ∨
        ((state.vars system.var).snapshot state.request.buffers).map
            (fun taken => keptBits system.plcDataType.size taken.2 mask) =
          some (keptBits system.plcDataType.size (system.plc initial state) mask)
  | _ => True

instance (system : DigitalSystem) (initial : Bytes) (state : DigitalState) (input : DigitalStep) :
    Decidable (system.StartsFresh initial state input) :=
  match input with
  | .digitalWrite _ _ _ _ => inferInstanceAs (Decidable (_ ∨ _))
  | .sumRead | .performIOIntr _ | .digitalRead _ _ => .isTrue trivial

theorem Kept.plc_eq (kept : Kept system start initial variableIds given state) :
    system.plc initial state = (start.vars system.var).plcValue initial state.trace := by
  obtain ⟨lastWritten, vars_eq, _⟩ := kept.vars_eq
  rw [plc, vars_eq, Function.update_self]
  rfl

/-- Every step keeps the invariant. -/
theorem Inv.step (inv : Inv system start initial variableIds given state)
    (serves : system.Serves (start.vars system.var) initial deliver)
    (writable : system.Writable (start.vars system.var)) (listed : system.var ∈ variableIds)
    (input : DigitalStep) :
    Inv system start initial variableIds given (system.step state input) := by
  cases input with
  | sumRead => exact (inv.toKept.sumRead serves listed).1
  | performIOIntr garbage => exact inv.performIOIntr writable listed garbage
  | digitalRead mask garbage => exact inv.digitalRead writable listed mask garbage
  | digitalWrite val mask garbage beyond =>
      obtain ⟨_, _, _, _, _, _, after⟩ :=
        inv.digitalWrite serves writable listed val mask garbage beyond
      exact after

/-- A step stores what it should exactly when it starts fresh. -/
theorem Inv.plc_step_iff (inv : Inv system start initial variableIds given state)
    (serves : system.Serves (start.vars system.var) initial deliver)
    (writable : system.Writable (start.vars system.var)) (listed : system.var ∈ variableIds)
    (input : DigitalStep) :
    system.plc initial (system.step state input) =
        system.intend (system.plc initial state) input ↔
      system.StartsFresh initial state input := by
  have after := inv.step serves writable listed input
  rw [after.plc_eq, inv.plc_eq]
  cases input with
  | sumRead =>
      rw [(inv.toKept.sumRead serves listed).2]
      exact iff_of_true rfl trivial
  | performIOIntr garbage =>
      have same_trace : (system.step state (.performIOIntr garbage)).trace = state.trace := by
        simp only [DigitalSystem.step]
        split <;> rfl
      rw [same_trace]
      exact iff_of_true rfl trivial
  | digitalRead mask garbage => exact iff_of_true rfl trivial
  | digitalWrite val mask garbage beyond =>
      obtain ⟨lastWritten, data, content_eq, echo, taken, stored, _⟩ :=
        inv.digitalWrite serves writable listed val mask garbage beyond
      obtain ⟨_, _, _, narrow, _⟩ :=
        digital_handlers writable.registered writable.digital writable.handler
      have pending : (state.vars system.var).echoPending = !lastWritten.isEmpty := by
        rw [content_eq]
        exact ((writable.withEcho lastWritten).current (by rw [← content_eq]; exact taken)).1
      rw [stored, intend, StartsFresh, pending, taken, inv.plc_eq]
      cases empty : lastWritten.isEmpty with
      | true =>
          simpa using applyMask_eq_iff (by omega) val mask
      | false =>
          have same : lastWritten = (start.vars system.var).plcValue initial state.trace := by
            rcases echo with rfl | same
            · simp at empty
            · exact same
          simp [same]

/-- From the first sum-read on, the PLC holds the fold of all masked writes after every step
exactly when every masked write starts fresh. -/
theorem digitalWrites_kept_iff (serves : system.Serves (start.vars system.var) initial deliver)
    (writable : system.Writable (start.vars system.var)) (listed : system.var ∈ variableIds)
    (ready : start.request.Ready start.vars variableIds given)
    (echo : (start.vars system.var).lastWritten = [] ∨
      (start.vars system.var).lastWritten = system.plc initial start)
    (plc_length : (system.plc initial start).length = (start.vars system.var).size)
    (steps : List DigitalStep) :
    (∀ front, front <+: steps →
        system.plc initial (run system.step (system.step start .sumRead) front) =
          run system.intend (system.plc initial start) front) ↔
      EachMeets system.step (system.StartsFresh initial) (system.step start .sumRead) steps := by
  have kept : Kept system start initial variableIds given start :=
    ⟨ready, ⟨(start.vars system.var).lastWritten, by simp, echo⟩, plc_length⟩
  obtain ⟨first, plc_first⟩ := kept.sumRead serves listed
  refine related_throughout_iff (Inv system start initial variableIds given)
    (fun state value => system.plc initial state = value)
    (fun state input inv => inv.step serves writable listed input) ?_ first ?_ steps
  · rintro state _ input inv rfl
    exact inv.plc_step_iff serves writable listed input
  · rw [first.plc_eq, plc_first, kept.plc_eq]

end Steps

/-- What a device with one variable delivers: its value for its own entry, zeros for others. -/
def oneVariable (content : ADSVariable) (initial : Bytes) : Delivery :=
  fun trace target entries => entries.map fun entry =>
    (0, overwrite
      ((if target = content.addr.adsPort ∧ entry = content.requestEntry then
        content.plcValue initial trace else []).take entry.cbLength.toNat)
      (List.replicate entry.cbLength.toNat 0))

theorem oneVariable_answers (content : ADSVariable) (initial : Bytes) :
    AnswersSumReads (SumReadRequest.answering (oneVariable content initial))
      (oneVariable content initial) := by
  refine SumReadRequest.answering_answers fun trace target entries => ?_
  rw [oneVariable, List.map_map]
  refine List.map_congr_left fun entry _ => ?_
  rw [Function.comp_apply, length_overwrite, List.length_replicate]
  rw [List.length_replicate]
  exact List.length_take_le _ _

theorem oneVariable_delivers (content : ADSVariable) (initial : Bytes) (trace : Trace)
    (entries : List AdsSymbolInfoByName) (index : Nat) (answer : UInt32 × Bytes)
    (sized : (content.plcValue initial trace).length = content.size)
    (at_index : entries[index]? = some content.requestEntry)
    (answered : (oneVariable content initial trace content.addr.adsPort entries)[index]? =
      some answer) : answer = (0, content.plcValue initial trace) := by
  rw [oneVariable, List.getElem?_map, at_index, Option.map_some, if_pos ⟨rfl, rfl⟩,
    ReadRequestChunk.toNat_cbLength, List.take_of_length_le sized.le,
    overwrite_of_length_le (by rw [List.length_replicate, sized])] at answered
  exact (Option.some.inj answered).symm

/-- A byte variable with readback alone in its driver, before the allocation. -/
def byteHeap : Heap :=
  ⟨fun _ => { byteVariable true with bufferReader := emptyBufferDataPosition }, []⟩

/-- Its sum-read request after `allocate`, and the heap. -/
def byteAllocated : Int × SumReadRequest × Heap :=
  SumReadRequest.sampleRequest.allocate [0] byteHeap

theorem byteAllocated_eq : SumReadRequest.sampleRequest.allocate [0] byteHeap =
    (0, byteAllocated.2.1, byteAllocated.2.2) :=
  Prod.ext (by decide) rfl

/-- Its sum-read request after `initialize`. -/
def byteReady : Int × SumReadRequest :=
  byteAllocated.2.1.initializeRequest byteAllocated.2.2.vars

theorem byteReady_eq : byteAllocated.2.1.initializeRequest byteAllocated.2.2.vars =
    (0, byteReady.2) :=
  Prod.ext (by decide) rfl

/-- The variable before the first sum-read. -/
def byteStart : DigitalState := ⟨byteAllocated.2.2.vars, byteReady.2, []⟩

/-- A driver with that variable, whose value on the PLC is F0 at first. -/
def byteSystem : DigitalSystem :=
  { autoparam := .sample
    ads := SumReadRequest.answering (oneVariable (byteStart.vars 0) [0xF0])
    connection := sampleConnection
    registration := byteDigital
    plcDataType := .uint8
    var := 0 }

theorem byteSystem_serves :
    byteSystem.Serves (byteStart.vars byteSystem.var) [0xF0]
      (oneVariable (byteStart.vars 0) [0xF0]) :=
  ⟨SumReadRequest.answering_accepts _, oneVariable_answers _ _, oneVariable_delivers _ _⟩

theorem byteSystem_writable : byteSystem.Writable (byteStart.vars byteSystem.var) :=
  have dataType_eq : parseDataTypeAutoparam byteDigital.function = .ok .byte := by decide
  ⟨byteDigital_registered, rfl, rfl,
    ⟨dataType_eq, by decide, by decide, by decide⟩, by decide, by decide, by decide, by decide⟩

theorem byteStart_ready : byteStart.request.Ready byteStart.vars [0]
    (SumReadRequest.slotsGiven [0] SumReadRequest.sampleRequest byteHeap) :=
  SumReadRequest.ready_of_initialize SumReadRequest.sampleRequest_fresh byteAllocated_eq
    ⟨fun _ => rfl, fun _ => rfl, fun _ => rfl⟩ (by decide) byteReady_eq

/-- With a sum-read between them, two writes of different bits both survive. -/
theorem digitalWrites_kept_iff_sample :
    byteSystem.plc [0xF0] (run byteSystem.step (byteSystem.step byteStart .sumRead)
        [.digitalWrite 1 1 (fun _ => 0) fun _ => 0, .digitalRead 0xFF fun _ => 0, .sumRead,
          .digitalWrite 2 2 (fun _ => 0) fun _ => 0]) =
      run byteSystem.intend (byteSystem.plc [0xF0] byteStart)
        [.digitalWrite 1 1 (fun _ => 0) fun _ => 0, .digitalRead 0xFF fun _ => 0, .sumRead,
          .digitalWrite 2 2 (fun _ => 0) fun _ => 0] := by
  refine (digitalWrites_kept_iff byteSystem_serves byteSystem_writable (by decide) byteStart_ready
    (.inl (by decide)) (by decide) _).mpr ?_ _ (List.prefix_refl _)
  rw [eachMeets_cons, eachMeets_cons, eachMeets_cons, eachMeets_cons]
  exact ⟨by decide, by decide, by decide, by decide, eachMeets_nil _ _ _⟩

/-- Bit 0 of the value F0 is set and read back, then bit 1 is set from the sum-read before both:
bit 0 is lost. -/
theorem digitalWrite_loses_bit :
    byteSystem.Serves (byteStart.vars byteSystem.var) [0xF0]
        (oneVariable (byteStart.vars 0) [0xF0]) ∧
      byteSystem.Writable (byteStart.vars byteSystem.var) ∧
      byteSystem.plc [0xF0] (run byteSystem.step (byteSystem.step byteStart .sumRead)
        [.digitalWrite 1 1 (fun _ => 0) fun _ => 0, .digitalRead 0xFF fun _ => 0,
          .digitalWrite 2 2 (fun _ => 0) fun _ => 0]) = [0xF2] ∧
      run byteSystem.intend (byteSystem.plc [0xF0] byteStart)
        [.digitalWrite 1 1 (fun _ => 0) fun _ => 0, .digitalRead 0xFF fun _ => 0,
          .digitalWrite 2 2 (fun _ => 0) fun _ => 0] = [0xF3] :=
  ⟨byteSystem_serves, byteSystem_writable, by decide, by decide⟩

end DigitalSystem

end AdsDriver
