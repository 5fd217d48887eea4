import AdsDriver.Data.Readings
import AdsDriver.DigitalRuns
import AdsDriver.ScanFrame
import AdsDriver.SumReadOutcome

/-!
# Runs of reads and writes with readback

Sum-reads, writes and reads of one variable with readback are taken in any order on one
connection.  The first read after a write returns the value written; a second one returns what
the last sum-read fetched, which may be from before the write.
-/

namespace AdsDriver

open ByteMemory EarlyExit Readings Runs

/-- The values that a variable has had on the PLC, the present one last. -/
def ADSVariable.plcValues (var : ADSVariable) (initial : Bytes) (trace : Trace) : List Bytes :=
  initial :: trace.filterMap fun event => event.writtenTo var.addr

namespace ADSVariable

variable (var : ADSVariable) (initial : Bytes)

theorem plcValues_append (trace events : Trace) :
    var.plcValues initial (trace ++ events) =
      var.plcValues initial trace ++ events.filterMap fun event => event.writtenTo var.addr := by
  simp [plcValues]

theorem getLast?_plcValues (trace : Trace) :
    (var.plcValues initial trace).getLast? = some (var.plcValue initial trace) := by
  induction trace using List.reverseRecOn with
  | nil => rfl
  | append_singleton trace event ih =>
      rw [plcValues_append, plcValue_append, List.getLast?_append, ih]
      cases stored : event.writtenTo var.addr <;> simp [stored, plcValue]

theorem plcValues_of_none (trace : Trace) {events : Trace}
    (none_written : ∀ event ∈ events, event.writtenTo var.addr = none) :
    var.plcValues initial (trace ++ events) = var.plcValues initial trace ∧
      var.plcValue initial (trace ++ events) = var.plcValue initial trace := by
  refine ⟨?_, ?_⟩
  · rw [plcValues_append, List.filterMap_eq_nil_iff.mpr none_written, List.append_nil]
  · rw [plcValue_append]
    exact plcValue_of_none none_written _

/-- Events that store one value at the variable's address. -/
theorem plcValues_of_stored (trace : Trace) {events : Trace} {payload : Bytes}
    (stored : (events.filterMap fun event => event.writtenTo var.addr) = [payload]) :
    var.plcValues initial (trace ++ events) = var.plcValues initial trace ++ [payload] ∧
      var.plcValue initial (trace ++ events) = payload := by
  have values_eq := var.plcValues_append initial trace events
  rw [stored] at values_eq
  refine ⟨values_eq, ?_⟩
  have last := var.getLast?_plcValues initial (trace ++ events)
  rw [values_eq, List.getLast?_append, List.getLast?_singleton] at last
  exact (Option.some.inj last).symm

theorem writtenTo_writeCall (ads : Ads) (connection : Connection) (trace : Trace) (data : Bytes) :
    (ads.event trace (var.writeCall connection data)).writtenTo var.addr =
      if (ads trace (var.writeCall connection data)).rc = 0 then some data else none := by
  simp only [AdsEvent.writtenTo, Ads.call_event, Ads.reply_event, writeCall, true_and]
  split_ifs <;> simp_all

/-- What `write` does: nothing, also when the device refuses the data, or it stores as many bytes as
the variable has and keeps them as the echo. -/
theorem write_outcome (ads : Ads) (connection : Connection) (data : Option Source) (size : Nat)
    (trace : Trace) :
    ∃ events, (var.write ads connection data size trace).trace = trace ++ events ∧
      (((var.write ads connection data size trace).var = var ∧
          ∀ event ∈ events, event.writtenTo var.addr = none) ∨
        ∃ payload : Bytes, payload.length = var.size ∧
          (events.filterMap fun event => event.writtenTo var.addr) = [payload] ∧
          (var.write ads connection data size trace).var =
            if var.writeReadback = true then var.withEcho payload else var) := by
  have refused {status : Int}
      (write_eq : var.write ads connection data size trace = ⟨status, var, trace, 0⟩) :
      (var.write ads connection data size trace).trace = trace ++ [] ∧
        (var.write ads connection data size trace).var = var := by
    simp [write_eq]
  cases sendable : var.sendable with
  | false =>
      obtain ⟨status, _, write_eq⟩ := write_refused ads connection sendable data size trace
      exact ⟨[], (refused write_eq).1, .inl ⟨(refused write_eq).2, by simp⟩⟩
  | true =>
      by_cases long : var.size < size
      · obtain ⟨status, _, write_eq⟩ := write_too_long ads connection long data trace
        exact ⟨[], (refused write_eq).1, .inl ⟨(refused write_eq).2, by simp⟩⟩
      · have fits : size ≤ var.size := Nat.le_of_not_lt long
        cases data with
        | none => exact ⟨[], (refused rfl).1, .inl ⟨(refused rfl).2, by simp⟩⟩
        | some source =>
            rw [write_sent ads connection sendable fits source trace rfl]
            refine ⟨[_], rfl, ?_⟩
            by_cases accepted :
                (ads trace (var.writeCall connection (var.payload source size))).rc = 0
            · refine .inr ⟨var.payload source size, ?_, ?_, ?_⟩
              · rw [payload, length_overwrite (by simpa using fits), List.length_replicate]
              · simp [writtenTo_writeCall, accepted]
              · simp [afterWrite, accepted, withEcho]
            · refine .inl ⟨?_, ?_⟩
              · simp [afterWrite, accepted]
              · simp [writtenTo_writeCall, accepted]

theorem length_snapshot {var : ADSVariable} {buffers : Buffers} (placed : var.Placed buffers)
    {data : Bytes} (taken : var.snapshot buffers = some (0, data)) : data.length = var.size := by
  have read := readFromBuffer_front placed 0 []
  rw [taken] at read
  exact read.1

end ADSVariable

namespace SumReadRequest

variable {vars : Vars} {variableIds : List VarId} {given : List (VarId × BufferDataPosition)}
  {request : SumReadRequest}

/-- A request that is ready stays ready. -/
theorem Ready.after_read (ready : Ready vars variableIds given request) (ads : Ads)
    (connection : Connection) (trace : Trace) :
    Ready vars variableIds given (request.read ads connection trace).2.1 := by
  have same := request.sameLayout_read ads connection trace
  have distributed := ready.distributed.sameLayout same
  have stored := ready.stored.sameLayout same
  have flags := (request.read_flags ads connection trace).2
  refine ⟨distributed, stored, flags.trans ready.initialized, fun chunk member => ?_⟩
  obtain ⟨port, in_set⟩ := mem_getChunks_iff.mp member
  have pairs := List.Forall₂.mp (fun _ _ => And.intro) (forall₂_chunkSet same.chunks port)
    (forall₂_chunkSet (request.read_entries ads connection trace) port)
  obtain ⟨before, in_before, pair, entries_eq, vars_eq⟩ := mem_of_forall₂ pairs in_set
  have readable := ready.readable before (mem_getChunks_iff.mpr ⟨port, in_before⟩)
  have sound := distributed.sound port chunk in_set
  have port_eq := sound.port_eq
  obtain ⟨_, _, _, _, buffer_eq⟩ := pair.buffer_eq
  refine ⟨by rwa [← port_eq] at sound, stored port chunk in_set, ?_, ?_⟩
  · rw [buffer_eq]
    exact readable.small
  · rw [entries_eq, vars_eq, readable.entries]

theorem Ready.read_writes_nothing (ready : Ready vars variableIds given request) (ads : Ads)
    (connection : Connection) (trace : Trace) :
    ∃ events, (request.read ads connection trace).2.2 = trace ++ events ∧
      ∀ addr, ∀ event ∈ events, event.writtenTo addr = none := by
  obtain ⟨events, trace_eq, sent⟩ := request.read_events ads connection trace
  refine ⟨events, trace_eq, fun addr event member => ?_⟩
  obtain ⟨chunk, in_chunks, call_eq⟩ := sent event member
  have asks := (ready.readable chunk in_chunks).requestsEntries connection
  rw [← call_eq] at asks
  exact DigitalSystem.writtenTo_of_requestsEntries asks addr

theorem Marked.snapshot_eq_none (marked : request.Marked .invalid) (var : ADSVariable) :
    var.snapshot request.buffers = none := by
  cases taken : var.snapshot request.buffers with
  | none => rfl
  | some pair =>
      obtain ⟨ptr, buffer, memory, _, live, _, valid, _, _⟩ := ADSVariable.snapshot_eq_some taken
      obtain ⟨chunk, _, rfl, at_index⟩ := chunk_of_buffers live
      have invalid := marked chunk (List.mem_of_getElem? at_index)
      simp [invalid] at valid

theorem Ready.snapshot_of_failed (ready : Ready vars variableIds given request) {ads : Ads}
    {connection : Connection} {trace : Trace}
    (failed : (request.read ads connection trace).1 ≠ 0) (var : ADSVariable) :
    var.snapshot (request.read ads connection trace).2.1.buffers = none := by
  have done := ready.stored.readDone ads connection trace
  generalize request.read ads connection trace = read at done failed ⊢
  cases done with
  | refused raw => simp [ready.initialized] at raw
  | completed => simp at failed
  | failed _ _ _ marked => exact marked.snapshot_eq_none var

end SumReadRequest

/-- What stays the same in a run. -/
structure ReadbackSystem where
  ads : Ads
  connection : Connection
  var : VarId

/-- The steps that are taken under the driver's lock. -/
inductive ReadbackStep
  /-- A sum-read into the buffers of all variables. -/
  | sumRead
  | write (data : Option Source) (size : Nat)
  /-- A read for a record, by `performIOIntr` or polled, into memory with any content. -/
  | readFromBuffer (size : Nat) (destination : Bytes)

/-- What a successful read returned, and the history of the variable at that moment. -/
structure BufferRead where
  size : Nat
  bytes : Bytes
  held : List Bytes
  deriving DecidableEq

/-- A read of fewer bytes fits every value that starts with them. -/
def BufferRead.reading (read : BufferRead) : Reading Bytes :=
  ⟨fun value => read.bytes = value.take read.size, read.held⟩

namespace ReadbackSystem

variable (system : ReadbackSystem) (initial : Bytes)

/-- The state with other contents of the variable. -/
def setVar (state : DigitalState) (content : ADSVariable) : DigitalState :=
  { state with vars := Function.update state.vars system.var content }

/-- One step. -/
def step (state : DigitalState) : ReadbackStep → DigitalState
  | .sumRead =>
      let read := state.request.read system.ads system.connection state.trace
      { state with request := read.2.1, trace := read.2.2 }
  | .write data size =>
      let written :=
        (state.vars system.var).write system.ads system.connection data size state.trace
      { system.setVar state written.var with trace := written.trace }
  | .readFromBuffer size destination =>
      system.setVar state
        ((state.vars system.var).readFromBuffer state.request.buffers size destination).2.2

/-- What a step returns, if it is a successful read. -/
def returned (state : DigitalState) : ReadbackStep → Option BufferRead
  | .readFromBuffer size destination =>
      let var := state.vars system.var
      let read := var.readFromBuffer state.request.buffers size destination
      if read.1 = 0 then
        some ⟨size, read.2.1.take (min size var.size), var.plcValues initial state.trace⟩
      else none
  | _ => none

/-- The successful reads of a run, in order. -/
def reads (state : DigitalState) : List ReadbackStep → List BufferRead
  | [] => []
  | input :: inputs =>
      (system.returned initial state input).toList ++ reads (system.step state input) inputs

theorem reads_concat (state : DigitalState) (inputs : List ReadbackStep) (input : ReadbackStep) :
    system.reads initial state (inputs ++ [input]) =
      system.reads initial state inputs ++
        (system.returned initial (run system.step state inputs) input).toList := by
  induction inputs generalizing state with
  | nil => simp [reads]
  | cons first inputs ih =>
      rw [List.cons_append, reads, reads, ih, List.append_assoc]
      rfl

/-- No read of a run jumps back behind an earlier one. -/
def NeverJumpsBack (start : DigitalState) (steps : List ReadbackStep) : Prop :=
  ((system.reads initial start steps).map BufferRead.reading).Pairwise
    fun earlier later => ¬ earlier.JumpsBack later

/-- A device that answers the sum-reads it accepts, and for the variable by its value on the PLC
unless it reports an error for it. -/
structure Truthful (content : ADSVariable) (deliver : Delivery) : Prop where
  lengths : ∀ trace target entries,
    (deliver trace target entries).map (fun answer => answer.2.length) =
      entries.map fun entry => entry.cbLength.toNat
  answers : ∀ trace port netId target count readLength writeLength writeData,
    (system.ads trace (.readWrite port netId target adsigrpSumupRead count readLength writeLength
        writeData)).rc = 0 →
      (system.ads trace (.readWrite port netId target adsigrpSumupRead count readLength writeLength
        writeData)).data =
        encodeAnswers (deliver trace target (AdsSymbolInfoByName.decode count.toNat writeData))
  current : ∀ (trace : Trace) (entries : List AdsSymbolInfoByName) (index : Nat) (data : Bytes),
    (content.plcValue initial trace).length = content.size →
    entries[index]? = some content.requestEntry →
    (deliver trace content.addr.adsPort entries)[index]? = some (0, data) →
    data = content.plcValue initial trace

/-- Whether a step, if it is a read that succeeds, finds the value on the PLC: because the echo of
the last write is pending, or because the last sum-read fetched it. -/
def FindsCurrent (state : DigitalState) : ReadbackStep → Prop
  | .readFromBuffer size _ =>
      let var := state.vars system.var
      var.echoPending = true ∨
        ∀ taken ∈ var.snapshot state.request.buffers, taken.1 = 0 →
          taken.2.take size = (var.plcValue initial state.trace).take size
  | _ => True

instance (state : DigitalState) (input : ReadbackStep) :
    Decidable (system.FindsCurrent initial state input) :=
  match input with
  | .readFromBuffer _ _ => inferInstanceAs (Decidable (_ ∨ _))
  | .sumRead | .write _ _ => .isTrue trivial

/-- A read of the history so far: it fits one of the values, and the present one exactly when the
step finds it. -/
structure Shows (content : ADSVariable) (state : DigitalState) (input : ReadbackStep)
    (read : BufferRead) : Prop where
  held_eq : read.held = content.plcValues initial state.trace
  fits_old : ∃ value ∈ content.plcValues initial state.trace, read.reading.fits value
  fits_current : read.reading.fits (content.plcValue initial state.trace) ↔
    system.FindsCurrent initial state input

/-- What holds in every state of a run, with the reads so far: only the echo of the variable has
changed; its buffer holds a value from its history; and if reads are not served the present one,
then one of them has been served it. -/
structure Kept (system : ReadbackSystem) (start : DigitalState) (initial : Bytes)
    (variableIds : List VarId) (given : List (VarId × BufferDataPosition)) (state : DigitalState)
    (reads : List BufferRead) : Prop where
  ready : state.request.Ready start.vars variableIds given
  vars_eq : ∃ lastWritten,
    state.vars =
      Function.update start.vars system.var ((start.vars system.var).withEcho lastWritten) ∧
    (lastWritten = [] ∨ lastWritten = (start.vars system.var).plcValue initial state.trace)
  plc_length : ((start.vars system.var).plcValue initial state.trace).length =
    (start.vars system.var).size
  fetched : ∀ data, (start.vars system.var).snapshot state.request.buffers = some (0, data) →
    data ∈ (start.vars system.var).plcValues initial state.trace
  told : (state.vars system.var).echoPending = true ∨
    (∀ data, (start.vars system.var).snapshot state.request.buffers = some (0, data) →
      data = (start.vars system.var).plcValue initial state.trace) ∨
    ∃ read ∈ reads, read.held = (start.vars system.var).plcValues initial state.trace ∧
      read.reading.fits ((start.vars system.var).plcValue initial state.trace)
  earlier : ∀ read ∈ reads,
    read.held <+: (start.vars system.var).plcValues initial state.trace

section Steps

variable {system : ReadbackSystem} {start state : DigitalState} {initial : Bytes}
  {variableIds : List VarId} {given : List (VarId × BufferDataPosition)} {deliver : Delivery}
  {reads : List BufferRead}

theorem Kept.content_eq (kept : Kept system start initial variableIds given state reads) :
    ∃ lastWritten, state.vars system.var = (start.vars system.var).withEcho lastWritten ∧
      (lastWritten = [] ∨ lastWritten = (start.vars system.var).plcValue initial state.trace) := by
  obtain ⟨lastWritten, vars_eq, echo⟩ := kept.vars_eq
  exact ⟨lastWritten, by rw [vars_eq, Function.update_self], echo⟩

/-- What a sum-read of a truthful device fetches is the present value. -/
theorem Truthful.fetched {vars : Vars} {request : SumReadRequest} {trace : Trace}
    (truthful : system.Truthful initial (vars system.var) deliver)
    (ready : request.Ready vars variableIds given) (listed : system.var ∈ variableIds)
    (plc_length : ((vars system.var).plcValue initial trace).length = (vars system.var).size)
    {data : Bytes} (taken : (vars system.var).snapshot
      (request.read system.ads system.connection trace).2.1.buffers = some (0, data)) :
    data = (vars system.var).plcValue initial trace := by
  by_cases done : (request.read system.ads system.connection trace).1 = 0
  · obtain ⟨other, device, agree⟩ :=
      SumReadRequest.answersSumReads_of_accepted truthful.lengths truthful.answers
    have accepted := SumReadRequest.read_congr agree (Prod.ext done rfl)
    obtain ⟨all, earlier, sent, index, answer, trace_eq, reached, at_index, delivered, fetched⟩ :=
      ready.snapshot_read device accepted listed
    obtain ⟨events, events_eq, silent⟩ :=
      ready.read_writes_nothing system.ads system.connection trace
    obtain rfl := List.append_cancel_left (trace_eq.symm.trans events_eq)
    obtain ⟨code_eq, rfl⟩ : answer.1.toNat = 0 ∧ answer.2 = data := by
      simpa using fetched.symm.trans taken
    have unchanged := ((vars system.var).plcValues_of_none initial trace
      fun event member => silent (vars system.var).addr event (reached.subset member)).2
    rw [← unchanged] at plc_length ⊢
    have zero : answer.1 = 0 := UInt32.toNat_inj.mp code_eq
    exact truthful.current _ sent index _ plc_length at_index (by rw [delivered, ← zero])
  · have none_taken := ready.snapshot_of_failed done (vars system.var)
    simp [none_taken] at taken

/-- A sum-read of a truthful device leaves in the buffer the present value, or an error. -/
theorem Kept.sumRead (kept : Kept system start initial variableIds given state reads)
    (truthful : system.Truthful initial (start.vars system.var) deliver)
    (listed : system.var ∈ variableIds) :
    Kept system start initial variableIds given (system.step state .sumRead) reads := by
  obtain ⟨events, trace_eq, silent⟩ :=
    kept.ready.read_writes_nothing system.ads system.connection state.trace
  obtain ⟨values_eq, value_eq⟩ := (start.vars system.var).plcValues_of_none initial state.trace
    fun event member => silent (start.vars system.var).addr event member
  have current (data : Bytes) (taken : (start.vars system.var).snapshot
      (system.step state .sumRead).request.buffers = some (0, data)) :
      data = (start.vars system.var).plcValue initial state.trace :=
    truthful.fetched kept.ready listed kept.plc_length taken
  have trace_step : (system.step state .sumRead).trace = state.trace ++ events := trace_eq
  refine ⟨kept.ready.after_read _ _ _, ?_, ?_, ?_, .inr (.inl ?_), ?_⟩
  all_goals rw [trace_step]
  · rw [value_eq]
    exact kept.vars_eq
  · rw [value_eq]
    exact kept.plc_length
  · intro data taken
    rw [values_eq, current data taken]
    exact List.mem_of_getLast? ((start.vars system.var).getLast?_plcValues initial state.trace)
  · rw [value_eq]
    exact current
  · rw [values_eq]
    exact kept.earlier

/-- A write that the device accepts becomes the present value and the pending echo; other writes
change nothing. -/
theorem Kept.write (kept : Kept system start initial variableIds given state reads)
    (readback : (start.vars system.var).writeReadback = true) (listed : system.var ∈ variableIds)
    (data : Option Source) (size : Nat) :
    Kept system start initial variableIds given (system.step state (.write data size)) reads := by
  obtain ⟨lastWritten, content_eq, _⟩ := kept.content_eq
  obtain ⟨_, vars_eq, _⟩ := kept.vars_eq
  obtain ⟨events, trace_eq, outcome⟩ := (state.vars system.var).write_outcome system.ads
    system.connection data size state.trace
  rw [content_eq, ADSVariable.addr_withEcho, ADSVariable.size_withEcho] at outcome
  have step_eq : system.step state (.write data size) =
      { system.setVar state ((state.vars system.var).write system.ads system.connection data size
          state.trace).var with trace := state.trace ++ events } := by
    rw [← trace_eq]
    rfl
  rw [step_eq, content_eq]
  rcases outcome with ⟨var_eq, silent⟩ | ⟨payload, payload_length, stored, var_eq⟩
  · obtain ⟨values_eq, value_eq⟩ :=
      (start.vars system.var).plcValues_of_none initial state.trace silent
    rw [var_eq, ← content_eq, setVar, Function.update_eq_self]
    refine ⟨kept.ready, ?_, ?_, ?_, ?_, ?_⟩
    all_goals dsimp only
    · rw [value_eq]
      exact kept.vars_eq
    · rw [value_eq]
      exact kept.plc_length
    · rw [values_eq]
      exact kept.fetched
    · rw [value_eq, values_eq]
      exact kept.told
    · rw [values_eq]
      exact kept.earlier
  · obtain ⟨values_eq, value_eq⟩ :=
      (start.vars system.var).plcValues_of_stored initial state.trace stored
    rw [var_eq, ADSVariable.writeReadback_withEcho, if_pos readback,
      ADSVariable.withEcho_withEcho]
    refine ⟨kept.ready, ⟨payload, ?_, .inr value_eq.symm⟩, ?_, ?_, ?_, ?_⟩
    all_goals dsimp only
    · simp only [setVar, vars_eq, Function.update_idem]
    · rw [value_eq, payload_length]
    · intro data taken
      rw [values_eq]
      exact List.mem_append_left _ (kept.fetched data taken)
    · cases payload with
      | nil =>
          -- A variable without bytes has only one value, which no echo needs to tell.
          refine .inr (.inl fun data taken => ?_)
          have data_length := ADSVariable.length_snapshot
            (kept.ready.distributed.placed kept.ready.stored listed) taken
          rw [value_eq, List.eq_nil_of_length_eq_zero (data_length.trans payload_length.symm)]
      | cons byte bytes =>
          refine .inl ?_
          simp [setVar, ADSVariable.echoPending, ADSVariable.withEcho, readback]
    · intro read member
      rw [values_eq]
      exact (kept.earlier read member).trans (List.prefix_append _ _)

theorem Kept.failed_read (kept : Kept system start initial variableIds given state reads)
    {size : Nat} {destination : Bytes}
    (failed : ((state.vars system.var).readFromBuffer state.request.buffers size
      destination).1 ≠ 0)
    (var_eq : ((state.vars system.var).readFromBuffer state.request.buffers size
      destination).2.2 = state.vars system.var) :
    system.returned initial state (.readFromBuffer size destination) = none ∧
      Kept system start initial variableIds given
        (system.step state (.readFromBuffer size destination)) reads := by
  refine ⟨by simp [returned, failed], ?_⟩
  have step_eq : system.step state (.readFromBuffer size destination) = state := by
    simp [step, var_eq, setVar]
  rwa [step_eq]

theorem Kept.same_history (kept : Kept system start initial variableIds given state reads) :
    (state.vars system.var).plcValues initial state.trace =
        (start.vars system.var).plcValues initial state.trace ∧
      (state.vars system.var).plcValue initial state.trace =
        (start.vars system.var).plcValue initial state.trace ∧
      (state.vars system.var).snapshot state.request.buffers =
        (start.vars system.var).snapshot state.request.buffers := by
  obtain ⟨lastWritten, content_eq, _⟩ := kept.content_eq
  rw [content_eq]
  exact ⟨rfl, rfl, rfl⟩

theorem Kept.placed (kept : Kept system start initial variableIds given state reads)
    (listed : system.var ∈ variableIds) :
    (state.vars system.var).Placed state.request.buffers := by
  obtain ⟨lastWritten, content_eq, _⟩ := kept.content_eq
  rw [content_eq]
  exact kept.ready.distributed.placed kept.ready.stored listed

theorem Kept.delivered_pending (kept : Kept system start initial variableIds given state reads)
    (pending : (state.vars system.var).echoPending = true) (data : Bytes) :
    (state.vars system.var).delivered data =
      (start.vars system.var).plcValue initial state.trace := by
  obtain ⟨lastWritten, content_eq, echo⟩ := kept.content_eq
  rw [ADSVariable.delivered, if_pos pending, content_eq, ADSVariable.lastWritten_withEcho]
  rcases echo with rfl | same
  · simp [content_eq, ADSVariable.echoPending] at pending
  · exact same

/-- What a read of a valid buffer returns. -/
def readOf (system : ReadbackSystem) (initial : Bytes) (state : DigitalState) (size : Nat)
    (data : Bytes) : BufferRead :=
  ⟨size, ((state.vars system.var).delivered data).take size,
    (state.vars system.var).plcValues initial state.trace⟩

theorem Kept.read_delivered (kept : Kept system start initial variableIds given state reads)
    (listed : system.var ∈ variableIds) {data : Bytes}
    (taken : (state.vars system.var).snapshot state.request.buffers = some (0, data)) (size : Nat)
    (destination : Bytes) :
    system.returned initial state (.readFromBuffer size destination) =
        some (readOf system initial state size data) ∧
      system.step state (.readFromBuffer size destination) =
        system.setVar state (state.vars system.var).afterRead := by
  have echo_sized : (state.vars system.var).EchoSized := by
    obtain ⟨lastWritten, content_eq, echo⟩ := kept.content_eq
    rw [content_eq]
    exact echo.imp id fun same => (congrArg List.length same).trans kept.plc_length
  obtain ⟨succeeds, bytes_eq, after_eq⟩ :=
    ADSVariable.readFromBuffer_delivered (kept.placed listed) echo_sized taken size destination
  constructor
  · simp only [returned, if_pos succeeds, bytes_eq, readOf]
  · simp only [step, after_eq]

theorem Kept.shows (kept : Kept system start initial variableIds given state reads) {data : Bytes}
    (taken : (state.vars system.var).snapshot state.request.buffers = some (0, data)) (size : Nat)
    (destination : Bytes) :
    system.Shows initial (start.vars system.var) state (.readFromBuffer size destination)
      (readOf system initial state size data) := by
  obtain ⟨values_eq, value_eq, snapshot_eq⟩ := kept.same_history
  have last := (start.vars system.var).getLast?_plcValues initial state.trace
  cases pending : (state.vars system.var).echoPending with
  | true =>
      rw [readOf, kept.delivered_pending pending]
      exact ⟨values_eq, ⟨_, List.mem_of_getLast? last, rfl⟩, iff_of_true rfl (.inl pending)⟩
  | false =>
      rw [readOf, ADSVariable.delivered, pending, if_neg Bool.false_ne_true]
      refine ⟨values_eq, ⟨data, kept.fetched data (snapshot_eq ▸ taken), rfl⟩, ?_⟩
      simp [FindsCurrent, BufferRead.reading, pending, taken, value_eq]

/-- The read uses up the echo, and has served what it was. -/
theorem Kept.afterRead (kept : Kept system start initial variableIds given state reads) (size : Nat)
    (data : Bytes) :
    Kept system start initial variableIds given
      (system.setVar state (state.vars system.var).afterRead)
      (reads ++ [readOf system initial state size data]) := by
  obtain ⟨values_eq, _, _⟩ := kept.same_history
  have grown (read : BufferRead)
      (member : read ∈ reads ++ [readOf system initial state size data]) :
      read.held <+: (start.vars system.var).plcValues initial state.trace := by
    rcases List.mem_append.mp member with before | last
    · exact kept.earlier read before
    · rw [List.mem_singleton.mp last, readOf, values_eq]
  cases pending : (state.vars system.var).echoPending with
  | true =>
      obtain ⟨_, vars_eq, _⟩ := kept.vars_eq
      obtain ⟨_, content_eq, _⟩ := kept.content_eq
      have step_vars : system.setVar state (state.vars system.var).afterRead =
          ⟨Function.update start.vars system.var ((start.vars system.var).withEcho []),
            state.request, state.trace⟩ := by
        rw [ADSVariable.afterRead, if_pos pending, content_eq, setVar, vars_eq,
          Function.update_idem]
        rfl
      rw [step_vars]
      refine ⟨kept.ready, ⟨[], rfl, .inl rfl⟩, kept.plc_length, kept.fetched,
        .inr (.inr ⟨_, List.mem_append_right _ (List.mem_singleton_self _), values_eq, ?_⟩), grown⟩
      rw [readOf, kept.delivered_pending pending]
      rfl
  | false =>
      rw [ADSVariable.afterRead, pending, if_neg Bool.false_ne_true, setVar,
        Function.update_eq_self]
      refine ⟨kept.ready, kept.vars_eq, kept.plc_length, kept.fetched, ?_, grown⟩
      rcases kept.told with told | current | ⟨read, member, told⟩
      · simp [pending] at told
      · exact .inr (.inl current)
      · exact .inr (.inr ⟨read, List.mem_append_left _ member, told⟩)

/-- A read uses up the echo; if it returns an older value, the present one has been read before. -/
theorem Kept.readFromBuffer (kept : Kept system start initial variableIds given state reads)
    (listed : system.var ∈ variableIds) (size : Nat) (destination : Bytes) :
    (∀ read ∈ system.returned initial state (.readFromBuffer size destination),
        system.Shows initial (start.vars system.var) state (.readFromBuffer size destination)
          read) ∧
      (system.returned initial state (.readFromBuffer size destination) = none →
        system.FindsCurrent initial state (.readFromBuffer size destination)) ∧
      Kept system start initial variableIds given
        (system.step state (.readFromBuffer size destination))
        (reads ++ (system.returned initial state (.readFromBuffer size destination)).toList) := by
  have front := (state.vars system.var).readFromBuffer_front (kept.placed listed) size destination
  have finds_of_failed (no_data : ∀ taken ∈ (state.vars system.var).snapshot state.request.buffers,
      taken.1 ≠ 0) : system.FindsCurrent initial state (.readFromBuffer size destination) :=
    .inr fun taken member zero => absurd zero (no_data taken member)
  rcases taken : (state.vars system.var).snapshot state.request.buffers with _ | ⟨code, data⟩
  · rw [taken] at front finds_of_failed
    obtain ⟨none_returned, after⟩ := kept.failed_read front.1 (congrArg Prod.snd front.2)
    rw [none_returned]
    exact ⟨by simp, fun _ => finds_of_failed (by simp), by simpa using after⟩
  · cases code with
    | succ code =>
        rw [taken] at front finds_of_failed
        obtain ⟨none_returned, after⟩ := kept.failed_read front.2.1 (congrArg Prod.snd front.2.2)
        rw [none_returned]
        exact ⟨by simp, fun _ => finds_of_failed (by simp), by simpa using after⟩
    | zero =>
        obtain ⟨returned_eq, step_eq⟩ := kept.read_delivered listed taken size destination
        rw [returned_eq, step_eq]
        refine ⟨?_, by simp, kept.afterRead size data⟩
        rintro read ⟨⟩
        exact kept.shows taken size destination

theorem Kept.step (kept : Kept system start initial variableIds given state reads)
    (truthful : system.Truthful initial (start.vars system.var) deliver)
    (readback : (start.vars system.var).writeReadback = true) (listed : system.var ∈ variableIds)
    (input : ReadbackStep) :
    (∀ read ∈ system.returned initial state input,
        system.Shows initial (start.vars system.var) state input read) ∧
      (system.returned initial state input = none → system.FindsCurrent initial state input) ∧
      Kept system start initial variableIds given (system.step state input)
        (reads ++ (system.returned initial state input).toList) := by
  cases input with
  | sumRead =>
      refine ⟨by simp [returned], fun _ => trivial, ?_⟩
      simpa [returned] using kept.sumRead truthful listed
  | write data size =>
      refine ⟨by simp [returned], fun _ => trivial, ?_⟩
      simpa [returned] using kept.write readback listed data size
  | readFromBuffer size destination => exact kept.readFromBuffer listed size destination

theorem Kept.run (kept : Kept system start initial variableIds given start [])
    (truthful : system.Truthful initial (start.vars system.var) deliver)
    (readback : (start.vars system.var).writeReadback = true) (listed : system.var ∈ variableIds)
    (steps : List ReadbackStep) :
    Kept system start initial variableIds given (run system.step start steps)
      (system.reads initial start steps) := by
  induction steps using List.reverseRecOn with
  | nil => exact kept
  | append_singleton steps input ih =>
      rw [run_concat, reads_concat]
      exact (ih.step truthful readback listed input).2.2

theorem Kept.finds_or_told (kept : Kept system start initial variableIds given state reads)
    (input : ReadbackStep) :
    system.FindsCurrent initial state input ∨
      ∃ read ∈ reads, read.held = (start.vars system.var).plcValues initial state.trace ∧
        read.reading.fits ((start.vars system.var).plcValue initial state.trace) := by
  obtain ⟨lastWritten, content_eq, _⟩ := kept.content_eq
  cases input with
  | readFromBuffer size destination =>
      rcases kept.told with pending | current | told
      · exact .inl (.inl pending)
      · refine .inl (.inr ?_)
        rintro ⟨code, data⟩ taken rfl
        rw [content_eq] at taken ⊢
        exact congrArg (List.take size) (current data taken)
      · exact .inr told
  | _ => exact .inl trivial

/-- A step adds no jump exactly when it finds the present value. -/
theorem Kept.pairwise_step_iff (kept : Kept system start initial variableIds given state reads)
    (truthful : system.Truthful initial (start.vars system.var) deliver)
    (readback : (start.vars system.var).writeReadback = true) (listed : system.var ∈ variableIds)
    (input : ReadbackStep) :
    ((reads ++ (system.returned initial state input).toList).map
          BufferRead.reading).Pairwise (fun earlier later => ¬ earlier.JumpsBack later) ↔
      (reads.map BufferRead.reading).Pairwise (fun earlier later => ¬ earlier.JumpsBack later) ∧
        system.FindsCurrent initial state input := by
  obtain ⟨shows, fails, _⟩ := kept.step truthful readback listed input
  have last := (start.vars system.var).getLast?_plcValues initial state.trace
  rw [List.map_append, List.pairwise_append]
  cases returned : system.returned initial state input with
  | none => simpa using fun _ => fails returned
  | some read =>
      obtain ⟨held_eq, fits_old, fits_current⟩ := shows read returned
      rw [← held_eq] at last fits_old
      simp only [Option.toList_some, List.map_singleton, List.pairwise_singleton, true_and,
        List.mem_singleton, forall_eq]
      refine and_congr_right fun _ => ?_
      rw [← fits_current]
      constructor
      · intro no_jump
        by_contra missed
        rcases kept.finds_or_told input with finds | ⟨earlier, member, same, told⟩
        · exact missed (fits_current.mpr finds)
        · refine no_jump _ (List.mem_map_of_mem member) ?_
          exact jumpsBack_of_missed (same.trans held_eq.symm) last told fits_old missed
      · intro fits reading member
        obtain ⟨earlier, in_reads, rfl⟩ := List.mem_map.mp member
        have grown := kept.earlier earlier in_reads
        rw [← held_eq] at grown
        exact not_jumpsBack_of_current grown last fits

theorem kept_start (ready : start.request.Ready start.vars variableIds given)
    (echo : (start.vars system.var).lastWritten = [] ∨
      (start.vars system.var).lastWritten =
        (start.vars system.var).plcValue initial start.trace)
    (plc_length : ((start.vars system.var).plcValue initial start.trace).length =
      (start.vars system.var).size)
    (fetched : ∀ data, (start.vars system.var).snapshot start.request.buffers = some (0, data) →
      data = (start.vars system.var).plcValue initial start.trace) :
    Kept system start initial variableIds given start [] := by
  refine ⟨ready, ⟨(start.vars system.var).lastWritten, by simp, echo⟩, plc_length, ?_,
    .inr (.inl fetched), by simp⟩
  intro data taken
  rw [fetched data taken]
  exact List.mem_of_getLast? ((start.vars system.var).getLast?_plcValues initial start.trace)

/-- No read of a run jumps back exactly when every read that succeeds finds the present value. -/
theorem never_jumps_back_iff (truthful : system.Truthful initial (start.vars system.var) deliver)
    (readback : (start.vars system.var).writeReadback = true) (listed : system.var ∈ variableIds)
    (ready : start.request.Ready start.vars variableIds given)
    (echo : (start.vars system.var).lastWritten = [] ∨
      (start.vars system.var).lastWritten =
        (start.vars system.var).plcValue initial start.trace)
    (plc_length : ((start.vars system.var).plcValue initial start.trace).length =
      (start.vars system.var).size)
    (fetched : ∀ data, (start.vars system.var).snapshot start.request.buffers = some (0, data) →
      data = (start.vars system.var).plcValue initial start.trace)
    (steps : List ReadbackStep) :
    system.NeverJumpsBack initial start steps ↔
      EachMeets system.step (system.FindsCurrent initial) start steps := by
  have started : Kept system start initial variableIds given start [] :=
    kept_start ready echo plc_length fetched
  induction steps using List.reverseRecOn with
  | nil => exact iff_of_true List.Pairwise.nil (eachMeets_nil _ _ _)
  | append_singleton steps input ih =>
      have kept := started.run truthful readback listed steps
      have last := kept.pairwise_step_iff truthful readback listed input
      rw [← reads_concat] at last
      exact last.trans ((and_congr_left' ih).trans eachMeets_concat.symm)

end Steps

/-- A driver with the byte variable, whose value on the PLC is F0 at first. -/
def ofByte : ReadbackSystem :=
  ⟨SumReadRequest.answering (DigitalSystem.oneVariable (DigitalSystem.byteStart.vars 0) [0xF0]),
    sampleConnection, 0⟩

theorem ofByte_truthful :
    ofByte.Truthful [0xF0] (DigitalSystem.byteStart.vars ofByte.var)
      (DigitalSystem.oneVariable (DigitalSystem.byteStart.vars 0) [0xF0]) := by
  have device := DigitalSystem.oneVariable_answers (DigitalSystem.byteStart.vars 0) [0xF0]
  refine ⟨device.lengths, ?_, ?_⟩
  · intro trace port netId target count readLength writeLength writeData _
    exact device.answers trace port netId target count readLength writeLength writeData
  · intro trace entries index data sized at_index answered
    exact congrArg Prod.snd (DigitalSystem.oneVariable_delivers _ _ trace entries index _ sized
      at_index answered)

/-- With a sum-read between them, two reads after a write return it both. -/
theorem never_jumps_back_iff_sample :
    ofByte.NeverJumpsBack [0xF0] DigitalSystem.byteStart
      [.sumRead, .write (some ⟨[1], fun _ => 0⟩) 1, .readFromBuffer 1 [0], .sumRead,
        .readFromBuffer 1 [0]] := by
  have unread : (DigitalSystem.byteStart.vars ofByte.var).snapshot
      DigitalSystem.byteStart.request.buffers = none := by
    decide
  exact (never_jumps_back_iff ofByte_truthful (by decide) (by decide)
    DigitalSystem.byteStart_ready (.inl (by decide)) (by decide) (by simp [unread]) _).mpr
    (by decide)

/-- The second read after a write returns the value of the sum-read before it. -/
theorem second_read_jumps_back :
    ofByte.Truthful [0xF0] (DigitalSystem.byteStart.vars ofByte.var)
        (DigitalSystem.oneVariable (DigitalSystem.byteStart.vars 0) [0xF0]) ∧
      (DigitalSystem.byteStart.vars ofByte.var).writeReadback = true ∧
      ¬ ofByte.NeverJumpsBack [0xF0] DigitalSystem.byteStart
        [.sumRead, .write (some ⟨[1], fun _ => 0⟩) 1, .readFromBuffer 1 [0],
          .readFromBuffer 1 [0]] := by
  refine ⟨ofByte_truthful, by decide, fun never => ?_⟩
  have reads_eq : ofByte.reads [0xF0] DigitalSystem.byteStart
      [.sumRead, .write (some ⟨[1], fun _ => 0⟩) 1, .readFromBuffer 1 [0], .readFromBuffer 1 [0]] =
      [⟨1, [1], [[0xF0], [1]]⟩, ⟨1, [0xF0], [[0xF0], [1]]⟩] := by
    decide
  rw [NeverJumpsBack, reads_eq] at never
  refine List.rel_of_pairwise_cons never (List.mem_singleton_self _)
    ⟨1, [1], rfl, rfl, ⟨[0xF0], by decide, rfl⟩, ?_⟩
  intro new in_back
  obtain rfl : new = [1] := by simpa [BufferRead.reading] using in_back
  simp [BufferRead.reading]

end ReadbackSystem

end AdsDriver
