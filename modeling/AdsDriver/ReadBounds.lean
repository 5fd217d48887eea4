import AdsDriver.ReadbackRuns

/-!
# Reads into short buffers

`read_from_buffer` copies at most as many bytes as its caller asks for from the sum-read buffer.
The echo of a write is copied after that with the length it has, which is the variable's size.
-/

namespace AdsDriver

open ByteMemory Runs

namespace ADSVariable

/-- A read changes no byte behind those that are asked for and that the variable has, whatever
memory it is given. -/
def ReadsInside (buffers : Buffers) (var : ADSVariable) (size : Nat) : Prop :=
  ∀ destination, (var.readFromBuffer buffers size destination).2.1.drop (min size var.size) =
    destination.drop (min size var.size)

/-- A read that succeeds with an echo pending delivers the front of a value. -/
def EchoesFront (buffers : Buffers) (var : ADSVariable) (size : Nat) (value : Bytes) : Prop :=
  var.echoPending = true → ∀ destination, (var.readFromBuffer buffers size destination).1 = 0 →
    (var.readFromBuffer buffers size destination).2.1.take (min size var.size) =
      value.take (min size var.size)

/-- An echo is pending, the slot can be read, and fewer bytes are asked for than the variable
has. -/
def EchoTooLong (buffers : Buffers) (var : ADSVariable) (size : Nat) : Prop :=
  var.echoPending = true ∧ size < var.size ∧ ∃ data, var.snapshot buffers = some (0, data)

variable {buffers : Buffers} {var : ADSVariable}

theorem length_of_echoPending (echo : var.EchoSized) (pending : var.echoPending = true) :
    var.lastWritten.length = var.size := by
  rcases echo with empty | sized
  · simp [echoPending, empty] at pending
  · exact sized

theorem drop_overwrite_of_length {count : Nat} {source : Bytes} (length_eq : source.length = count)
    (destination : Bytes) : (overwrite source destination).drop count = destination.drop count := by
  rw [← length_eq, drop_overwrite]

theorem drop_overwrite_ne {count : Nat} {source : Bytes} (short : count < source.length) :
    (overwrite source (source.map (· + 1))).drop count ≠ (source.map (· + 1)).drop count := by
  intro same
  rw [overwrite_of_length_le (by simp)] at same
  have heads := congrArg List.head? same
  rw [List.head?_drop, List.head?_drop, List.getElem?_map, List.getElem?_eq_getElem short] at heads
  have values := congrArg UInt8.toNat (Option.some.inj heads)
  have small := source[count].toNat_lt
  have one : (1 : UInt8).toNat = 1 := rfl
  rw [UInt8.toNat_add] at values
  omega

theorem readsInside_iff (placed : var.Placed buffers) (echo : var.EchoSized) (size : Nat) :
    var.ReadsInside buffers size ↔ ¬ var.EchoTooLong buffers size := by
  unfold ReadsInside EchoTooLong
  have front := readFromBuffer_front placed size
  rcases taken : var.snapshot buffers with _ | ⟨_ | code, data⟩
  · rw [taken] at front
    refine iff_of_true (fun destination => ?_) (by simp)
    rw [(front destination).2]
  · rw [taken] at front
    have short : (data.take (min size var.size)).length = min size var.size := by
      rw [List.length_take, (front []).1]
      omega
    cases pending : var.echoPending with
    | false =>
        refine iff_of_true (fun destination => ?_) (by simp)
        rw [(front destination).2, pending, if_neg Bool.false_ne_true]
        exact drop_overwrite_of_length short destination
    | true =>
        have sized := length_of_echoPending echo pending
        have read_eq (destination : Bytes) :
            (var.readFromBuffer buffers size destination).2.1 =
              overwrite var.lastWritten destination := by
          rw [(front destination).2, pending, if_pos rfl]
          exact overwrite_overwrite (by omega)
        constructor
        · rintro inside ⟨_, fewer, _⟩
          have shows : (overwrite var.lastWritten (var.lastWritten.map (· + 1))).drop
              (min size var.size) ≠ (var.lastWritten.map (· + 1)).drop (min size var.size) :=
            drop_overwrite_ne (by omega)
          refine shows ?_
          rw [← read_eq]
          exact inside _
        · intro fits destination
          have whole : var.size ≤ size := by
            by_contra fewer
            exact fits ⟨rfl, by omega, data, rfl⟩
          rw [read_eq, Nat.min_eq_right whole]
          exact drop_overwrite_of_length sized destination
  · rw [taken] at front
    refine iff_of_true (fun destination => ?_) (by simp)
    have short : (data.take (min size var.size)).length = min size var.size := by
      rw [List.length_take, (front []).1]
      omega
    rw [(front destination).2.2]
    exact drop_overwrite_of_length short destination

theorem echoesFront (placed : var.Placed buffers) (echo : var.EchoSized) (size : Nat) :
    var.EchoesFront buffers size var.lastWritten := by
  intro pending destination success
  have front := readFromBuffer_front placed size destination
  rcases taken : var.snapshot buffers with _ | ⟨_ | code, data⟩
  · rw [taken] at front
    exact absurd success front.1
  · have delivered := (readFromBuffer_delivered placed echo taken size destination).2.1
    have sized := length_of_echoPending echo pending
    rw [delivered, ADSVariable.delivered, if_pos pending, List.take_eq_take_iff, sized]
    omega
  · rw [taken] at front
    exact absurd success front.2.1

end ADSVariable

namespace ReadbackSystem

variable (system : ReadbackSystem) (initial : Bytes)

/-- A step, if it is a read, stays inside its buffer and delivers the value last written. -/
def ReadsInside (state : DigitalState) : ReadbackStep → Prop
  | .readFromBuffer size _ =>
      let var := state.vars system.var
      var.ReadsInside state.request.buffers size ∧
        var.EchoesFront state.request.buffers size (var.plcValue initial state.trace)
  | .sumRead | .write _ _ => True

/-- A step is not a read of fewer bytes than a pending echo has. -/
def EchoFits (state : DigitalState) : ReadbackStep → Prop
  | .readFromBuffer size _ => ¬ (state.vars system.var).EchoTooLong state.request.buffers size
  | .sumRead | .write _ _ => True

/-- A variable has no slot, or one of a request that is ready. -/
def HasPlace (vars : Vars) (request : SumReadRequest) (var : VarId) : Prop :=
  (vars var).bufferReader = emptyBufferDataPosition ∨
    ∃ variableIds given, var ∈ variableIds ∧ request.Ready vars variableIds given

theorem HasPlace.placed {vars : Vars} {request : SumReadRequest} {var : VarId}
    (place : HasPlace vars request var) : (vars var).Placed request.buffers := by
  rcases place with empty | ⟨_, _, listed, ready⟩
  · exact .inl empty
  · exact ready.distributed.placed ready.stored listed

/-- Only the echo of the variable has changed, and it is empty or the value last written. -/
structure EchoKept (start state : DigitalState) : Prop where
  place : HasPlace start.vars state.request system.var
  vars_eq : ∃ lastWritten, state.vars =
    Function.update start.vars system.var ((start.vars system.var).withEcho lastWritten)
  sized : (state.vars system.var).EchoSized
  last : (state.vars system.var).writeReadback = true → (state.vars system.var).lastWritten = [] ∨
    (state.vars system.var).lastWritten =
      (state.vars system.var).plcValue initial state.trace

section Steps

variable {system : ReadbackSystem} {start state : DigitalState} {initial : Bytes}

theorem EchoKept.content (kept : EchoKept system initial start state) :
    ∃ lastWritten, state.vars system.var = (start.vars system.var).withEcho lastWritten := by
  obtain ⟨lastWritten, vars_eq⟩ := kept.vars_eq
  exact ⟨lastWritten, by rw [vars_eq, Function.update_self]⟩

theorem EchoKept.placed (kept : EchoKept system initial start state) :
    (state.vars system.var).Placed state.request.buffers := by
  obtain ⟨lastWritten, content_eq⟩ := kept.content
  rw [content_eq]
  exact kept.place.placed

/-- A sum-read writes nothing and leaves the variable as it is. -/
theorem EchoKept.sumRead (kept : EchoKept system initial start state) :
    EchoKept system initial start (system.step state .sumRead) := by
  obtain ⟨events, trace_eq, sent⟩ :=
    state.request.read_events system.ads system.connection state.trace
  have silent : ∀ event ∈ events, event.writtenTo (state.vars system.var).addr = none := by
    intro event member
    obtain ⟨chunk, _, call_eq⟩ := sent event member
    rw [AdsEvent.writtenTo, call_eq]
    rfl
  obtain ⟨_, value_eq⟩ :=
    (state.vars system.var).plcValues_of_none initial state.trace silent
  refine ⟨?_, kept.vars_eq, kept.sized, ?_⟩
  · refine kept.place.imp id ?_
    rintro ⟨variableIds, given, listed, ready⟩
    exact ⟨variableIds, given, listed, ready.after_read _ _ _⟩
  · have trace_step : (system.step state .sumRead).trace = state.trace ++ events := trace_eq
    rw [trace_step]
    exact value_eq.symm ▸ kept.last

/-- The variable may get another echo that is empty or the value last written. -/
theorem EchoKept.withEcho (kept : EchoKept system initial start state) {lastWritten : Bytes}
    {trace : Trace} (sized : lastWritten = [] ∨ lastWritten.length = (state.vars system.var).size)
    (last : (state.vars system.var).writeReadback = true → lastWritten = [] ∨
      lastWritten = (state.vars system.var).plcValue initial trace) :
    EchoKept system initial start
      { system.setVar state ((state.vars system.var).withEcho lastWritten) with trace } := by
  obtain ⟨earlier, vars_eq⟩ := kept.vars_eq
  have content_eq : (state.vars system.var).withEcho lastWritten =
      (start.vars system.var).withEcho lastWritten := by
    rw [vars_eq, Function.update_self, ADSVariable.withEcho_withEcho]
  refine ⟨kept.place, ⟨lastWritten, ?_⟩, ?_, ?_⟩
  · dsimp only [setVar]
    rw [content_eq, vars_eq, Function.update_idem]
  all_goals
    dsimp only [setVar]
    rw [Function.update_self]
  · exact sized
  · exact last

/-- A write that is accepted becomes the echo of a variable with readback. -/
theorem EchoKept.write (kept : EchoKept system initial start state) (data : Option Source)
    (size : Nat) : EchoKept system initial start (system.step state (.write data size)) := by
  obtain ⟨events, trace_eq, outcome⟩ := (state.vars system.var).write_outcome system.ads
    system.connection data size state.trace
  have step_eq : system.step state (.write data size) =
      { system.setVar state ((state.vars system.var).write system.ads system.connection data size
          state.trace).var with trace := state.trace ++ events } := by
    rw [← trace_eq]
    rfl
  rw [step_eq]
  rcases outcome with ⟨var_eq, silent⟩ | ⟨payload, payload_length, stored, var_eq⟩
  · obtain ⟨_, value_eq⟩ :=
      (state.vars system.var).plcValues_of_none initial state.trace silent
    rw [var_eq]
    exact kept.withEcho kept.sized (by rw [value_eq]; exact kept.last)
  · obtain ⟨_, value_eq⟩ :=
      (state.vars system.var).plcValues_of_stored initial state.trace stored
    rw [var_eq]
    split_ifs with readback
    · exact kept.withEcho (.inr payload_length) fun _ => .inr value_eq.symm
    · exact kept.withEcho kept.sized fun with_readback => absurd with_readback readback

/-- A read keeps the echo or uses it up. -/
theorem EchoKept.readFromBuffer (kept : EchoKept system initial start state) (size : Nat)
    (destination : Bytes) :
    EchoKept system initial start (system.step state (.readFromBuffer size destination)) := by
  have unchanged : EchoKept system initial start
      (system.setVar state (state.vars system.var)) := kept.withEcho kept.sized kept.last
  have front := (state.vars system.var).readFromBuffer_front kept.placed size destination
  dsimp only [ReadbackSystem.step]
  rcases taken : (state.vars system.var).snapshot state.request.buffers with _ | ⟨_ | code, data⟩
  · rw [taken] at front
    rw [front.2]
    exact unchanged
  · rw [taken] at front
    rw [front.2, ADSVariable.afterRead]
    dsimp only
    split_ifs
    · exact kept.withEcho (.inl rfl) fun _ => .inl rfl
    · exact unchanged
  · rw [taken] at front
    rw [front.2.2]
    exact unchanged

theorem EchoKept.step (kept : EchoKept system initial start state) (input : ReadbackStep) :
    EchoKept system initial start (system.step state input) := by
  cases input with
  | sumRead => exact kept.sumRead
  | write data size => exact kept.write data size
  | readFromBuffer size destination => exact kept.readFromBuffer size destination

theorem EchoKept.readsInside_iff (kept : EchoKept system initial start state)
    (input : ReadbackStep) :
    system.ReadsInside initial state input ↔ system.EchoFits state input := by
  cases input with
  | sumRead => exact Iff.rfl
  | write data size => exact Iff.rfl
  | readFromBuffer size destination =>
      have front : (state.vars system.var).EchoesFront state.request.buffers size
          ((state.vars system.var).plcValue initial state.trace) := by
        intro pending
        have echoes := ADSVariable.echoesFront kept.placed kept.sized size pending
        obtain ⟨readback, nonempty⟩ : (state.vars system.var).writeReadback = true ∧
            (state.vars system.var).lastWritten ≠ [] := by
          simpa [ADSVariable.echoPending] using pending
        rwa [(kept.last readback).resolve_left nonempty] at echoes
      exact (and_iff_left front).trans (ADSVariable.readsInside_iff kept.placed kept.sized size)

/-- All reads of a run stay inside the buffers of their callers exactly when none of them asks for
fewer bytes than a pending echo has. -/
theorem reads_inside_iff (place : HasPlace start.vars start.request system.var)
    (sized : (start.vars system.var).EchoSized)
    (last : (start.vars system.var).lastWritten = [] ∨
      (start.vars system.var).lastWritten = (start.vars system.var).plcValue initial start.trace)
    (steps : List ReadbackStep) :
    EachMeets system.step (system.ReadsInside initial) start steps ↔
      EachMeets system.step system.EchoFits start steps := by
  have started : EchoKept system initial start start :=
    ⟨place, ⟨(start.vars system.var).lastWritten, by simp⟩, sized, fun _ => last⟩
  exact eachMeets_congr (EchoKept system initial start)
    (fun state input kept => kept.readsInside_iff input)
    (fun state input kept _ => kept.step input) started steps

end Steps

/-- A read of all bytes after a write, and then one of none. -/
theorem reads_inside_iff_sample :
    EachMeets ofByte.step (ofByte.ReadsInside [0xF0]) DigitalSystem.byteStart
      [.sumRead, .write (some ⟨[1], fun _ => 0⟩) 1, .readFromBuffer 1 [0],
        .readFromBuffer 0 []] := by
  refine (reads_inside_iff (.inr ⟨_, _, ?_, DigitalSystem.byteStart_ready⟩) (.inl (by decide))
    (.inl (by decide)) _).mpr ?_
  · decide
  · simp only [eachMeets_cons]
    refine ⟨trivial, trivial, fun ⟨_, fewer, _⟩ => ?_, fun ⟨pending, _⟩ => ?_, eachMeets_nil _ _ _⟩
    · exact absurd fewer (by decide)
    · exact absurd pending (by decide)

/-- A read of no byte at all stores the byte written before it. -/
theorem echo_outside :
    ∃ state, state = run ofByte.step DigitalSystem.byteStart
        [.sumRead, .write (some ⟨[1], fun _ => 0⟩) 1] ∧
      ((state.vars 0).readFromBuffer state.request.buffers 0 [9]).2.1 = [1] ∧
      ¬ ofByte.ReadsInside [0xF0] state (.readFromBuffer 0 [9]) := by
  refine ⟨_, rfl, by decide, fun ⟨inside, _⟩ => ?_⟩
  have kept := inside [9]
  revert kept
  decide

end ReadbackSystem

end AdsDriver
