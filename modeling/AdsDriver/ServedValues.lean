import AdsDriver.ChunkTurns

/-!
# What reads are served

While a connection is in use, a read of a variable is served what the device has answered to the
variable's own entry, in a request that was made on this connection and is less than one pass of
sum-reads old.  The entry asks by the handle that the device has returned for the variable's name.
Only a pending echo is laid over the answer.
-/

namespace AdsDriver

open ByteMemory EarlyExit Runs Turns

/-- The port that a sum-read is addressed to. -/
def AdsCall.sumReadTarget : AdsCall → Option UInt16
  | .readWrite _ _ target group _ _ _ _ => if group = adsigrpSumupRead then some target else none
  | _ => none

/-- A sum-read is answered by a code for each entry and by as many bytes as the entry has asked for;
their number fits into the 32 bits that a request has for it. -/
structure AdsEvent.Delivers (event : AdsEvent) (answers : List (UInt32 × Bytes)) : Prop where
  data_eq : event.reply.data = encodeAnswers answers
  lengths : answers.map (fun answer => answer.2.length) =
    event.call.sumReadEntries.map fun entry => entry.cbLength.toNat
  small : event.reply.data.length < 2 ^ 32

/-- What a read of a variable makes of an answer: it fails if there is an error code, and else
copies the front of the data and then the pending echo over it. -/
def ADSVariable.Reads (buffers : Buffers) (var : ADSVariable) (answer : UInt32 × Bytes) : Prop :=
  ∀ size destination,
    if answer.1 = 0 then
      var.readFromBuffer buffers size destination =
        (0, if var.echoPending then
            overwrite var.lastWritten (overwrite (answer.2.take (min size var.size)) destination)
          else overwrite (answer.2.take (min size var.size)) destination, var.afterRead)
    else (var.readFromBuffer buffers size destination).1 ≠ 0

theorem ADSVariable.reads_of_snapshot {buffers : Buffers} {var : ADSVariable}
    (placed : var.Placed buffers) {answer : UInt32 × Bytes}
    (taken : var.snapshot buffers = some (answer.1.toNat, answer.2)) :
    var.Reads buffers answer := by
  intro size destination
  have front := readFromBuffer_front placed size destination
  rw [taken] at front
  cases code : answer.1.toNat with
  | zero =>
      rw [code] at front
      rw [if_pos (UInt32.toNat_inj.mp code)]
      exact front.2
  | succ number =>
      rw [code] at front
      have failed : answer.1 ≠ 0 := by
        intro zero
        simp [zero] at code
      rw [if_neg failed]
      exact front.2.1

/-- Reads of a variable are served the answer to its own entry in a request, which asks by the
handle for its name. -/
structure ADSPortDriver.Serves (driver : ADSPortDriver) (event : AdsEvent)
    (var : VarId) : Prop where
  by_name : (driver.heap.vars var).Held driver.adsConnection (sinceOpen driver.trace)
  accepted : event.reply.rc = 0
  target_eq : event.call.sumReadTarget = some (driver.heap.vars var).addr.adsPort
  own_entry : ∃ index : Nat,
    event.call.sumReadEntries[index]? = some (driver.heap.vars var).requestEntry ∧
    ∀ answers, event.Delivers answers → ∃ answer, answers[index]? = some answer ∧
      (driver.heap.vars var).Reads driver.sumRead.buffers answer

/-- A chunk that holds the answer to its request holds what the device has delivered. -/
theorem ReadRequestChunk.Holds.held_eq {chunk : ReadRequestChunk} {event : AdsEvent}
    (holds : chunk.Holds event) {size : VarId → Nat} {maxVariables port : Nat}
    (sound : chunk.Sound size maxVariables port) {answers : List (UInt32 × Bytes)}
    (delivers : event.Delivers answers)
    (asked : (event.call.sumReadEntries.map fun entry => entry.cbLength.toNat) =
      chunk.vars.map size) : chunk.held size = answers := by
  obtain ⟨memory, memory_length, stored⟩ := holds.answer
  have lengths := delivers.lengths.trans asked
  have count : answers.length = chunk.vars.length := by simpa using congrArg List.length lengths
  have whole : event.reply.data.length = chunk.sumReadDataBuffer.bufferSize := by
    rw [delivers.data_eq, length_encodeAnswers, lengths, count, sound.layout.buffer_size,
      sound.vars_eq]
    rfl
  refine held_of_answer ?_ lengths
  have small : chunk.sumReadDataBuffer.bufferSize < 2 ^ 32 := whole ▸ delivers.small
  rw [stored, answerOf, u32_of_lt small, List.take_of_length_le whole.le,
    overwrite_of_length_le (by rw [memory_length, whole]), delivers.data_eq]

namespace ADSPortDriver

/-- Once every chunk has been asked for, reads of a variable are served by the latest request for
its chunk. -/
theorem InTurn.serves {driver : ADSPortDriver} (in_turn : driver.InTurn) (up : driver.Up)
    (whole : driver.sumRead.getChunks.length ≤ (chunkReads driver.trace).length) {var : VarId}
    (listed : var ∈ driver.adsReadVars) :
    0 < driver.sumRead.getChunks.length ∧ ∃ cell event,
      latest driver.sumRead.getChunks.length (chunkReads driver.trace) cell = some event ∧
        driver.Serves event var := by
  obtain ⟨given, distributed⟩ := up.distributed
  obtain ⟨index, chunk, front, back, _, at_index, vars_eq, _, _, reader⟩ := distributed.place listed
  have in_set := List.mem_of_getElem? at_index
  have member := SumReadRequest.mem_getChunks_iff.mpr ⟨_, in_set⟩
  have sound := distributed.sound _ chunk in_set
  obtain ⟨cell, at_cell⟩ := List.mem_iff_getElem?.mp member
  have inside : cell < driver.sumRead.getChunks.length := (List.getElem?_eq_some_iff.mp at_cell).1
  have some_chunks : 0 < driver.sumRead.getChunks.length := Nat.zero_lt_of_lt inside
  obtain ⟨event, found⟩ := exists_latest whole inside
  have holds := in_turn.held cell chunk event at_cell found
  obtain ⟨place, at_place, place_eq, _⟩ := (latest_eq_some_iff some_chunks).mp found
  obtain ⟨accepted, other, at_other, asked⟩ := in_turn.asked place event at_place
  obtain rfl : chunk = other := by simpa [place_eq, at_cell] using at_other
  have entries : event.call.sumReadEntries =
      chunk.vars.map fun other => (driver.heap.vars other).requestEntry := by
    rw [asked, sound.sumReadEntries, up.entries chunk member]
  refine ⟨some_chunks, cell, event, found, up.held var (List.mem_append_left _ listed),
    accepted, ?_,
    front.length, ?_, fun answers delivers => ?_⟩
  · have port_eq : chunk.adsPort = (driver.heap.vars var).addr.adsPort :=
      UInt16.toNat_inj.mp sound.port_eq
    rw [asked, ← port_eq]
    rfl
  · rw [entries, vars_eq]
    simp
  · have sizes : (event.call.sumReadEntries.map fun entry => entry.cbLength.toNat) =
        chunk.vars.map fun other => (driver.heap.vars other).size := by
      rw [entries, List.map_map]
      exact List.map_congr_left fun other _ => ReadRequestChunk.toNat_cbLength _
    obtain ⟨memory, _, in_buffer⟩ := holds.answer
    obtain ⟨code, data, taken, code_lt, held⟩ :=
      distributed.snapshot_eq at_index in_buffer holds.valid vars_eq reader
    rw [holds.held_eq sound delivers sizes] at held
    refine ⟨_, held, ADSVariable.reads_of_snapshot (distributed.placed up.stored listed) ?_⟩
    rw [taken, UInt32.toNat_ofNat', Nat.mod_eq_of_lt code_lt]

end ADSPortDriver

theorem sinceOpen_ends (trace : Trace) :
    ∃ earlier, trace = earlier ++ sinceOpen trace ∧
      ∀ event ∈ sinceOpen trace, event.opensPort = false := by
  induction trace using List.reverseRecOn with
  | nil => exact ⟨[], rfl, by simp [sinceOpen]⟩
  | append_singleton trace event ih =>
      obtain ⟨earlier, trace_eq, keeps⟩ := ih
      cases opens : event.opensPort with
      | true => exact ⟨trace ++ [event], by simp [sinceOpen, opens], by simp [sinceOpen, opens]⟩
      | false =>
          rw [sinceOpen_append (by simpa using opens)]
          refine ⟨earlier, by rw [← List.append_assoc, ← trace_eq], fun other member => ?_⟩
          rcases List.mem_append.mp member with before | here
          · exact keeps other before
          · rw [List.mem_singleton.mp here, opens]

/-- Whether the sum-read at the end of `ADSConnect` is going on. -/
def ScanPoint.firstPass : ScanPoint → Bool
  | .sumRead connecting | .readChunk _ connecting => connecting
  | _ => false

namespace Interleaved

theorem up_of_inUse {state : Interleaved} (phase : state.driver.Phase state.scanPoint)
    (used : state.inUse = true) : state.driver.Up := by
  unfold inUse at used
  cases point : state.scanPoint with
  | head =>
      rw [point] at phase used
      rcases phase with up | down
      · exact up
      · exact absurd (down.closed.symm.trans used) Bool.false_ne_true
  | readInfo | readState | sumRead _ | readChunk _ _ | publish | publishing _ =>
      rw [point] at phase
      exact phase
  | _ =>
      rw [point] at used
      cases used

/-- After the first pass every chunk has been asked for. -/
theorem Turning.whole_pass {state : Interleaved} (turning : state.Turning)
    (used : state.inUse = true)
    (settled : state.scanPoint.firstPass = false) :
    state.driver.sumRead.getChunks.length ≤ (chunkReads state.driver.trace).length := by
  have so_far := turning.so_far used
  have pass_le (passes count : Nat) : count ≤ (passes + 1) * count :=
    Nat.le_mul_of_pos_left count passes.succ_pos
  cases point : state.scanPoint with
  | sumRead connecting =>
      rw [point] at settled so_far
      obtain rfl : connecting = false := settled
      obtain ⟨passes, length_eq⟩ := so_far
      exact (pass_le _ _).trans length_eq.ge
  | readChunk index connecting =>
      rw [point] at settled so_far
      obtain rfl : connecting = false := settled
      obtain ⟨passes, length_eq⟩ := so_far
      exact (pass_le _ _).trans ((Nat.le_add_right _ _).trans length_eq.ge)
  | _ =>
      rw [point] at so_far
      obtain ⟨passes, length_eq⟩ := so_far
      exact (pass_le _ _).trans length_eq.ge

/-- After the first pass a variable is served by one of the last requests of the connection. -/
theorem Turning.served {state : Interleaved} (turning : state.Turning)
    (phase : state.driver.Phase state.scanPoint) (used : state.inUse = true)
    (settled : state.scanPoint.firstPass = false) {var : VarId}
    (listed : var ∈ state.driver.adsReadVars) :
    ∃ earlier event later, state.driver.trace = earlier ++ event :: later ∧
      (∀ other ∈ later, other.opensPort = false) ∧
      (later.filter AdsEvent.readsChunk).length < state.driver.sumRead.getChunks.length ∧
      state.driver.Serves event var := by
  obtain ⟨some_chunks, cell, event, found, serves⟩ := (turning.in_turn used).serves
    (up_of_inUse phase used) (turning.whole_pass used settled) listed
  obtain ⟨before, later, recent_eq, fewer⟩ := latest_in_history some_chunks found
  obtain ⟨earlier, trace_eq, keeps⟩ := sinceOpen_ends state.driver.trace
  refine ⟨earlier ++ before, event, later, ?_, fun other member => keeps other ?_, fewer, serves⟩
  · rw [List.append_assoc, ← recent_eq, ← trace_eq]
  · rw [recent_eq]
    simp [member]

variable (ads : Ads) (autoparam : Autoparam) (toFloat32 : BitVec 64 → BitVec 32)

/-- In every state of every run in which the connection is in use and its first pass is over,
reads of a variable are served the answer to its own entry, in a request that was made since the
port was opened and before less than as many others as there are chunks; a pending echo covers
it. -/
theorem serves_latest {ipAddr : Str} {amsNetId : AmsNetId}
    {sumBufferSize deviceReadAdsPort : UInt16} {heap : Heap} {driver : ADSPortDriver}
    (constructed : ADSPortDriver.new ipAddr amsNetId sumBufferSize deviceReadAdsPort heap =
      some driver) (links : List RecordLink) (interrupts : List Nat)
    (hooked : (start driver links interrupts).driver.initialized = true)
    {taken : List ThreadStep} (no_shutDown : .shutDown ∉ taken) {state : Interleaved}
    (reached : run (step ads autoparam toFloat32) (start driver links interrupts) taken = state)
    (used : state.inUse = true) (settled : state.scanPoint.firstPass = false) {var : VarId}
    (listed : var ∈ state.driver.adsReadVars) :
    ∃ earlier event later, state.driver.trace = earlier ++ event :: later ∧
      (∀ other ∈ later, other.opensPort = false) ∧
      (later.filter AdsEvent.readsChunk).length < state.driver.sumRead.getChunks.length ∧
      state.driver.Serves event var := by
  have started := phase_start constructed links interrupts hooked
  have turning := turning_run ads autoparam toFloat32 (turning_start constructed links interrupts)
    started no_shutDown
  have phase := phase_run ads autoparam toFloat32 started no_shutDown
  rw [reached] at turning phase
  exact turning.served phase used settled listed

/-- The sample driver publishes the first variable from its second pass. -/
theorem serves_latest_sample :
    ∃ earlier event later, publishingState.driver.trace = earlier ++ event :: later ∧
      (∀ other ∈ later, other.opensPort = false) ∧
      (later.filter AdsEvent.readsChunk).length <
        publishingState.driver.sumRead.getChunks.length ∧
      publishingState.driver.Serves event 0 :=
  serves_latest SumReadRequest.sevensAds .sample (fun _ => 0)
    (rfl : ADSPortDriver.new _ [10, 0, 0, 1, 1, 1] 2 851 ⟨SumReadRequest.sampleVars, []⟩ =
      some ADSPortDriver.sampleDriver) ADSPortDriver.sampleLinks [0, 2] (by decide)
    (by simp : ThreadStep.shutDown ∉ List.replicate 17 (.scan ADSPortDriver.sampleInput))
    (rfl : _ = publishingState) (by decide) (by decide) (by decide)

end Interleaved

end AdsDriver
