import AdsDriver.ChunkAnswers
import AdsDriver.Data.Turns
import AdsDriver.SessionProtocol

/-!
# Chunks in turn

While a connection is in use its chunks are asked for in turn, each as often as the others or once
more.  The buffer of a chunk holds the answer to its latest request, and what is published at once
has all been asked for in one pass.
-/

namespace AdsDriver

open ByteMemory EarlyExit StatusSteps Runs Turns

/-- Whether an event is a request for a chunk. -/
def AdsEvent.readsChunk (event : AdsEvent) : Bool :=
  match event.call with
  | .readWrite _ _ _ group _ _ _ _ => group = adsigrpSumupRead
  | _ => false

/-- The requests for chunks since a port was last opened. -/
def chunkReads (trace : Trace) : Trace := (sinceOpen trace).filter AdsEvent.readsChunk

theorem chunkReads_append {trace events : Trace} (keeps : ∀ event ∈ events, event.opensPort = false)
    (others : ∀ event ∈ events, event.readsChunk = false) :
    chunkReads (trace ++ events) = chunkReads trace := by
  have none_read : events.filter AdsEvent.readsChunk = [] :=
    List.filter_eq_nil_iff.mpr fun event member => by simp [others event member]
  rw [chunkReads, sinceOpen_append keeps, List.filter_append, none_read, List.append_nil,
    chunkReads]

theorem chunkReads_concat {trace : Trace} {event : AdsEvent} (keeps : event.opensPort = false)
    (reads : event.readsChunk = true) :
    chunkReads (trace ++ [event]) = chunkReads trace ++ [event] := by
  rw [chunkReads, sinceOpen_append (by simpa using keeps), List.filter_append,
    List.filter_cons_of_pos reads, List.filter_nil, chunkReads]

theorem chunkReads_opened {trace : Trace} {event : AdsEvent} (opens : event.opensPort = true) :
    chunkReads (trace ++ [event]) = [] := by
  simp [chunkReads, sinceOpen, opens]

/-- The buffer of a chunk holds the answer to a request for it that has been accepted. -/
structure ReadRequestChunk.Holds (chunk : ReadRequestChunk) (event : AdsEvent) : Prop where
  valid : chunk.sumReadDataBuffer.bufferState = .valid
  answer : ∃ memory, memory.length = chunk.sumReadDataBuffer.bufferSize ∧
    chunk.sumReadDataBuffer.buffer = some (overwrite (chunk.answerOf event.reply) memory)

namespace ADSPortDriver

/-- The chunks have been asked for in turn, and each holds the answer to its latest request. -/
structure InTurn (driver : ADSPortDriver) : Prop where
  asked : ∀ place event, (chunkReads driver.trace)[place]? = some event → event.reply.rc = 0 ∧
    ∃ chunk, driver.sumRead.getChunks[place % driver.sumRead.getChunks.length]? = some chunk ∧
      event.call = chunk.readCall driver.adsConnection
  held : ∀ index chunk event, driver.sumRead.getChunks[index]? = some chunk →
    latest driver.sumRead.getChunks.length (chunkReads driver.trace) index = some event →
      chunk.Holds event

/-- A pass of sum-reads at whose end each chunk holds the answer to the request for it. -/
structure OnePass (driver : ADSPortDriver) (pass : Trace) : Prop where
  length_eq : pass.length = driver.sumRead.getChunks.length
  answers : ∀ (index : Nat) (chunk : ReadRequestChunk),
    driver.sumRead.getChunks[index]? = some chunk →
      ∃ event, pass[index]? = some event ∧ event.call = chunk.readCall driver.adsConnection ∧
        event.reply.rc = 0 ∧ chunk.Holds event

theorem InTurn.none {driver : ADSPortDriver} (no_reads : chunkReads driver.trace = []) :
    driver.InTurn := by
  refine ⟨fun place event found => ?_, fun index chunk event _ found => ?_⟩
  · simp [no_reads] at found
  · simp [no_reads] at found

theorem InTurn.frame {before after : ADSPortDriver} (in_turn : before.InTurn)
    (connection_eq : after.adsConnection = before.adsConnection)
    (sumRead_eq : after.sumRead = before.sumRead)
    (reads_eq : chunkReads after.trace = chunkReads before.trace) : after.InTurn := by
  obtain ⟨asked, held⟩ := in_turn
  refine ⟨?_, ?_⟩
  · rw [reads_eq, sumRead_eq, connection_eq]
    exact asked
  · rw [reads_eq, sumRead_eq]
    exact held

variable (ads : Ads)

/-- A chunk that is read with success holds the answer, and no other chunk changes. -/
theorem readChunk_holds {driver : ADSPortDriver} (stored : driver.sumRead.AllStored) {index : Nat}
    {chunk : ReadRequestChunk} (at_index : driver.sumRead.getChunks[index]? = some chunk)
    (accepted : (ads driver.trace (chunk.readCall driver.adsConnection)).rc = 0) :
    ∃ after, after.Holds (ads.event driver.trace (chunk.readCall driver.adsConnection)) ∧
      (∀ connection, after.readCall connection = chunk.readCall connection) ∧
      ∀ place, (readChunk ads index driver).2.sumRead.getChunks[place]? =
        if place = index then some after else driver.sumRead.getChunks[place]? := by
  obtain ⟨port, in_set⟩ := SumReadRequest.mem_getChunks_iff.mp (List.mem_of_getElem? at_index)
  obtain ⟨initialized, memory, has_memory, length_eq⟩ := stored port chunk in_set
  obtain ⟨previous, read⟩ := ReadRequestChunk.read_of_stored initialized has_memory ads
    driver.adsConnection driver.trace rfl
  refine ⟨(chunk.read ads driver.adsConnection driver.trace).result, ?_, fun connection => ?_,
    fun place => ?_⟩
  · rw [read]
    exact ⟨by simp [accepted], memory, length_eq, rfl⟩
  · rw [read]
    rfl
  · have stays : (chunk.read ads driver.adsConnection driver.trace).exit = none := by
      rw [read]
      exact if_pos accepted
    simp only [readChunk, SumReadRequest.readChunk, at_index, stays]
    rw [SumReadRequest.getChunks, SortedMap.flatten_values_modifyAt, ← SumReadRequest.getChunks,
      List.getElem?_modify]
    by_cases here : place = index
    · subst here
      simp [at_index]
    · simp [here, Ne.symm here]

/-- Asking for the next chunk keeps the turns. -/
theorem InTurn.readChunk {driver : ADSPortDriver} (in_turn : driver.InTurn)
    (stored : driver.sumRead.AllStored) {index : Nat}
    (inside : index < driver.sumRead.getChunks.length)
    (next : (chunkReads driver.trace).length % driver.sumRead.getChunks.length = index)
    (zero : (ADSPortDriver.readChunk ads index driver).1 = 0) :
    (ADSPortDriver.readChunk ads index driver).2.InTurn ∧
      (chunkReads (ADSPortDriver.readChunk ads index driver).2.trace).length =
        (chunkReads driver.trace).length + 1 := by
  obtain ⟨chunk, at_index⟩ : ∃ chunk, driver.sumRead.getChunks[index]? = some chunk :=
    ⟨_, List.getElem?_eq_getElem inside⟩
  obtain ⟨trace_eq, status_iff⟩ := readChunk_asked ads stored at_index
  have accepted := status_iff.mp zero
  obtain ⟨after, holds, same_call, chunks_eq⟩ := readChunk_holds ads stored at_index accepted
  have same_count := (driver.keeps_readChunk ads index).layout.chunks.flatten.length_eq
  have reads_eq : chunkReads (ADSPortDriver.readChunk ads index driver).2.trace =
      chunkReads driver.trace ++
        [ads.event driver.trace (chunk.readCall driver.adsConnection)] := by
    rw [trace_eq, chunkReads_concat rfl rfl]
  refine ⟨⟨fun place event found => ?_, fun place other event at_place found => ?_⟩, ?_⟩
  · rw [reads_eq, getElem?_concat_eq_some_iff] at found
    have same_length : (ADSPortDriver.readChunk ads index driver).2.sumRead.getChunks.length =
        driver.sumRead.getChunks.length := same_count.symm
    have same_connection : (ADSPortDriver.readChunk ads index driver).2.adsConnection =
        driver.adsConnection := rfl
    rw [chunks_eq, same_length, same_connection]
    rcases found with earlier | ⟨rfl, rfl⟩
    · obtain ⟨was_accepted, other, at_place, called⟩ := in_turn.asked place event earlier
      refine ⟨was_accepted, ?_⟩
      split_ifs with here
      · obtain rfl : chunk = other := by simpa [here, at_index] using at_place
        exact ⟨after, rfl, by rw [same_call, called]⟩
      · exact ⟨other, at_place, called⟩
    · rw [if_pos next]
      exact ⟨accepted, after, rfl, (same_call _).symm⟩
  · have same_length : (ADSPortDriver.readChunk ads index driver).2.sumRead.getChunks.length =
        driver.sumRead.getChunks.length := same_count.symm
    rw [reads_eq, same_length, latest_concat, next] at found
    rw [chunks_eq] at at_place
    by_cases here : place = index
    · rw [if_pos here] at at_place
      rw [if_pos here.symm] at found
      obtain rfl := Option.some_inj.mp at_place
      obtain rfl := Option.some_inj.mp found
      exact holds
    · rw [if_neg here] at at_place
      rw [if_neg (Ne.symm here)] at found
      exact in_turn.held place other event at_place found
  · rw [reads_eq, List.length_append, List.length_singleton]

end ADSPortDriver

/-- How many requests for chunks there have been since the connection was opened: whole passes, and
within a pass those before the next chunk. -/
def ScanPoint.ReadSoFar (count length : Nat) : ScanPoint → Prop
  | .sumRead true => length = 0
  | .readChunk index true => length = min index count
  | .readChunk index false => ∃ passes, length = (passes + 1) * count + min index count
  | _ => ∃ passes, length = (passes + 1) * count

namespace ScanPoint.ReadSoFar

variable {count length index : Nat} {connecting : Bool}

theorem place (so_far : (readChunk index connecting).ReadSoFar count length)
    (inside : index < count) : length % count = index := by
  cases connecting with
  | true =>
      simp only [ReadSoFar, Nat.min_eq_left inside.le] at so_far
      rw [so_far, Nat.mod_eq_of_lt inside]
  | false =>
      simp only [ReadSoFar, Nat.min_eq_left inside.le] at so_far
      obtain ⟨passes, rfl⟩ := so_far
      rw [Nat.mul_comm, Nat.mul_add_mod, Nat.mod_eq_of_lt inside]

theorem next (so_far : (readChunk index connecting).ReadSoFar count length)
    (inside : index < count) :
    (readChunk (index + 1) connecting).ReadSoFar count (length + 1) := by
  cases connecting with
  | true =>
      simp only [ReadSoFar, Nat.min_eq_left inside.le, Nat.min_eq_left inside] at so_far ⊢
      rw [so_far]
  | false =>
      simp only [ReadSoFar, Nat.min_eq_left inside.le, Nat.min_eq_left inside] at so_far ⊢
      obtain ⟨passes, rfl⟩ := so_far
      exact ⟨passes, Nat.add_assoc _ _ _⟩

theorem whole (so_far : (readChunk index connecting).ReadSoFar count length)
    (all : count ≤ index) : (sumReadDone connecting).ReadSoFar count length := by
  cases connecting with
  | true =>
      simp only [ReadSoFar, Nat.min_eq_right all] at so_far
      exact ⟨0, by rw [so_far, Nat.zero_add, Nat.one_mul]⟩
  | false =>
      simp only [ReadSoFar, Nat.min_eq_right all] at so_far
      obtain ⟨passes, rfl⟩ := so_far
      exact ⟨passes + 1, (Nat.succ_mul (passes + 1) count).symm⟩

theorem start (so_far : (sumRead connecting).ReadSoFar count length) :
    (readChunk 0 connecting).ReadSoFar count length := by
  cases connecting with
  | true => exact so_far.trans (Nat.zero_min _).symm
  | false =>
      obtain ⟨passes, rfl⟩ := so_far
      exact ⟨passes, by simp⟩

end ScanPoint.ReadSoFar

namespace Interleaved

/-- Whether the names have been found, and the connection has not been found lost. -/
def inUse (state : Interleaved) : Bool :=
  match state.scanPoint with
  | .head => state.driver.adsConnection.isConnected
  | .readInfo | .readState | .sumRead _ | .readChunk _ _ | .publish | .publishing _ => true
  | _ => false

/-- Whether names are looked up. -/
def looksUp (state : Interleaved) : Bool :=
  match state.scanPoint with
  | .resolveReadVars | .resolveWriteVars | .initializeSumRead => true
  | _ => false

/-- The chunks of a connection in use are read in turn, and none is read before that. -/
structure Turning (state : Interleaved) : Prop where
  unread : state.looksUp = true → chunkReads state.driver.trace = []
  in_turn : state.inUse = true → state.driver.InTurn
  so_far : state.inUse = true → state.scanPoint.ReadSoFar state.driver.sumRead.getChunks.length
    (chunkReads state.driver.trace).length

theorem Turning.idle {state : Interleaved} (not_looking : state.looksUp = false)
    (not_used : state.inUse = false) : state.Turning :=
  ⟨by simp [not_looking], by simp [not_used], by simp [not_used]⟩

theorem Turning.looking {state : Interleaved} (not_used : state.inUse = false)
    (unread : chunkReads state.driver.trace = []) : state.Turning :=
  ⟨fun _ => unread, by simp [not_used], by simp [not_used]⟩

theorem Turning.used {state : Interleaved} (not_looking : state.looksUp = false)
    (in_turn : state.driver.InTurn) (so_far : state.scanPoint.ReadSoFar
      state.driver.sumRead.getChunks.length (chunkReads state.driver.trace).length) :
    state.Turning :=
  ⟨by simp [not_looking], fun _ => in_turn, fun _ => so_far⟩

/-- A section that fails leaves the connection out of use. -/
theorem Turning.tryThen {state : Interleaved} {step : Step ADSPortDriver} {succeeded : ScanPoint}
    {caller : DisconnectCaller}
    (after : (step state.driver).1 = 0 → Turning
      { state with driver := (step state.driver).2, scanPoint := succeeded }) :
    (state.tryThen step succeeded (.deinitializeSumRead caller)).Turning := by
  unfold Interleaved.tryThen
  split_ifs with zero
  · exact after zero
  · exact .idle rfl rfl

variable (ads : Ads) (autoparam : Autoparam) (toFloat32 : BitVec 64 → BitVec 32)

theorem chunkReads_resolveVariables {driver : ADSPortDriver}
    (opened : driver.adsConnection.isConnected = true) (list : ADSPortDriver → List VarId) :
    chunkReads (ADSPortDriver.resolveVariables ads list driver).2.trace =
      chunkReads driver.trace := by
  obtain ⟨events, trace_eq, calls, _⟩ := ADSPortDriver.resolveVariables_sent ads opened list
  rw [trace_eq]
  refine chunkReads_append (fun event member => ?_) fun event member => ?_
  · obtain ⟨address, asked⟩ := calls event member
    exact asked.plain.keeps_port
  · obtain ⟨address, asked⟩ := calls event member
    rw [AdsEvent.readsChunk, asked]
    rfl

theorem chunkReads_asked {driver : ADSPortDriver} {call : AdsCall} (not_opening : call ≠ .portOpen)
    (no_chunk : (ads.event driver.trace call).readsChunk = false) :
    chunkReads (driver.asked ads call).trace = chunkReads driver.trace := by
  refine chunkReads_append (fun event member => ?_) fun event member => ?_
  · simp [List.mem_singleton.mp member, AdsEvent.opensPort, not_opening]
  · rw [List.mem_singleton.mp member, no_chunk]

theorem chunkReads_openConnection {driver : ADSPortDriver}
    (zero : (ADSPortDriver.openConnection ads driver).1 = 0) :
    chunkReads (ADSPortDriver.openConnection ads driver).2.trace = [] := by
  rcases opened : driver.adsConnection.connect ads driver.amsNetId driver.ipAddr
    driver.deviceReadAdsPort driver.trace with ⟨status, connection, trace⟩
  simp only [ADSPortDriver.openConnection, opened] at zero ⊢
  rcases Connection.connect_cases ads _ _ _ _ _ opened with
    ⟨failed, _⟩ | ⟨_, _, _, _, rfl, _, opens, _⟩
  · exact absurd zero failed
  · exact chunkReads_opened opens

/-- The info and the state of the device are read without reading chunks. -/
theorem Turning.asked {state : Interleaved} (turning : state.Turning) (used : state.inUse = true)
    {step : Step ADSPortDriver} {succeeded : ScanPoint} {call : AdsCall}
    (step_eq : (step state.driver).2 = state.driver.asked ads call) (not_opening : call ≠ .portOpen)
    (no_chunk : (ads.event state.driver.trace call).readsChunk = false)
    (not_looking : Interleaved.looksUp { state with scanPoint := succeeded } = false)
    (same_place : ∀ count length, state.scanPoint.ReadSoFar count length →
      succeeded.ReadSoFar count length) :
    Turning { state with driver := (step state.driver).2, scanPoint := succeeded } := by
  have reads_eq := chunkReads_asked ads not_opening no_chunk
  rw [step_eq]
  refine .used not_looking ((turning.in_turn used).frame rfl rfl reads_eq) ?_
  rw [reads_eq]
  exact same_place _ _ (turning.so_far used)

/-- A chunk is read in its turn. -/
theorem Turning.readChunk {state : Interleaved} (turning : state.Turning) (up : state.driver.Up)
    {index : Nat} {connecting : Bool} (point : state.scanPoint = .readChunk index connecting)
    (inside : index < state.driver.sumRead.getChunks.length)
    (zero : (ADSPortDriver.readChunk ads index state.driver).1 = 0) :
    Turning { state with
      driver := (ADSPortDriver.readChunk ads index state.driver).2
      scanPoint := .readChunk (index + 1) connecting } := by
  have used : state.inUse = true := by simp [inUse, point]
  have so_far := turning.so_far used
  rw [point] at so_far
  obtain ⟨in_turn, length_eq⟩ :=
    (turning.in_turn used).readChunk ads up.stored inside (so_far.place inside) zero
  have same_count : (ADSPortDriver.readChunk ads index state.driver).2.sumRead.getChunks.length =
      state.driver.sumRead.getChunks.length :=
    (state.driver.keeps_readChunk ads index).layout.chunks.flatten.length_eq.symm
  refine .used rfl in_turn ?_
  dsimp only
  rw [same_count, length_eq]
  exact so_far.next inside

/-- A section that may fail keeps the turns. -/
theorem Turning.attempt {state : Interleaved} (turning : state.Turning) {step : Step ADSPortDriver}
    {succeeded : ScanPoint} {caller : DisconnectCaller}
    (attempt : state.driver.Attempt ads state.scanPoint step succeeded caller) :
    (state.tryThen step succeeded (.deinitializeSumRead caller)).Turning := by
  refine .tryThen fun zero => ?_
  generalize point : state.scanPoint = entry at attempt
  cases attempt with
  | connect down => exact .looking rfl (chunkReads_openConnection ads zero)
  | resolveReadVars resolving | resolveWriteVars resolving =>
      have no_reads := turning.unread (by simp [looksUp, point])
      exact .looking rfl ((chunkReads_resolveVariables ads resolving.opened _).trans no_reads)
  | initializeSumRead resolving =>
      have no_reads := turning.unread (by simp [looksUp, point])
      exact .used rfl (.none no_reads) (congrArg List.length no_reads)
  | readInfo up =>
      have reads := ADSPortDriver.readInfo_asked ads up.opened
      exact turning.asked ads (by simp [inUse, point]) (by rw [reads])
        (by simp [Connection.infoCall]) rfl rfl (by rw [point]; exact fun _ _ => id)
  | readState up =>
      have reads := ADSPortDriver.readState_asked ads up.opened
      exact turning.asked ads (by simp [inUse, point]) (by rw [reads])
        (by simp [Connection.stateCall]) rfl rfl (by rw [point]; exact fun _ _ => id)
  | sumRead up connecting =>
      have used : state.inUse = true := by simp [inUse, point]
      have so_far := turning.so_far used
      rw [point] at so_far
      exact .used rfl (turning.in_turn used) so_far.start
  | readChunk up inside connecting => exact turning.readChunk ads up point inside zero

/-- A section that cannot fail keeps the turns. -/
theorem Turning.passage {state : Interleaved} (turning : state.Turning) {input : ScanInput}
    {after : ADSPortDriver} {next : ScanPoint}
    (passage : state.driver.Passage ads autoparam input state.scanPoint after next) :
    (state.doThen (fun _ => after) next).Turning := by
  obtain ⟨_, in_turn, so_far⟩ := turning
  generalize point : state.scanPoint = entry at passage
  rw [point] at so_far
  cases passage with
  | scan up =>
      have used : state.inUse = true := by simp [inUse, point, up.opened]
      cases input.due with
      | true => exact .used rfl (in_turn used) (so_far used)
      | false => exact .used rfl (in_turn used) (so_far used)
  | reconnect => exact .idle rfl rfl
  | sumReadDone up all connecting =>
      have used : state.inUse = true := by simp [inUse, point]
      exact .used (by cases connecting <;> rfl) (in_turn used) ((so_far used).whole all)
  | publish | published =>
      have used : state.inUse = true := by simp [inUse, point]
      exact .used rfl (in_turn used) (so_far used)
  | publishVariable up adsVar left =>
      have used : state.inUse = true := by simp [inUse, point]
      rcases state.driver.publishVariable_cases autoparam input.garbage adsVar with
        same | ⟨_, _, same, _⟩
      · rw [same]
        exact .used rfl (in_turn used) (so_far used)
      · rw [same]
        exact .used rfl ((in_turn used).frame rfl rfl rfl) (so_far used)
  | @notConnected caller phase closed =>
      cases caller <;> exact .idle rfl (by simp [doThen, inUse, DisconnectCaller.resume,
        ADSPortDriver.deinitializeSumRead, closed])
  | @setDisconnected caller =>
      cases caller <;> exact .idle rfl (by simp [doThen, inUse, DisconnectCaller.resume,
        ADSPortDriver.setDisconnected, Connection.setDisconnected, Connection.isConnected])
  | deinitializeSumRead | unresolveReadVars | unresolveWriteVars | disconnect =>
      exact .idle rfl rfl

/-- Every section keeps the turns. -/
theorem Turning.scan {state : Interleaved} (turning : state.Turning)
    (phase : state.driver.Phase state.scanPoint) (input : ScanInput) :
    (state.scan ads autoparam input).Turning := by
  rcases scan_cases ads autoparam phase input with
    ⟨step, succeeded, caller, attempt, scan_eq⟩ | ⟨after, next, passage, scan_eq⟩
  · rw [scan_eq]
    exact turning.attempt ads attempt
  · rw [scan_eq]
    exact turning.passage ads autoparam passage

/-- Handlers keep the turns. -/
theorem Turning.step {state : Interleaved} (turning : state.Turning)
    (phase : state.driver.Phase state.scanPoint) {taken : ThreadStep}
    (not_shutDown : taken ≠ .shutDown) :
    (state.step ads autoparam toFloat32 taken).Turning := by
  cases handler : taken.scans with
  | true =>
      cases taken with
      | scan input => exact turning.scan ads autoparam phase input
      | _ => cases handler
  | false =>
      obtain ⟨point_eq, beside⟩ := state.beside_step ads autoparam toFloat32 handler not_shutDown
      obtain ⟨events, trace_eq, writes⟩ := state.sent_handler ads autoparam toFloat32 handler
      have reads_eq : chunkReads (state.step ads autoparam toFloat32 taken).driver.trace =
          chunkReads state.driver.trace := by
        rw [trace_eq]
        refine chunkReads_append (fun event member => ?_) fun event member => ?_
        · obtain ⟨write, _, called⟩ := writes event member
          simp [AdsEvent.opensPort, called, PendingWrite.request]
        · obtain ⟨write, _, called⟩ := writes event member
          rw [AdsEvent.readsChunk, called]
          rfl
      have same_use : (state.step ads autoparam toFloat32 taken).inUse = state.inUse := by
        rw [inUse, inUse, point_eq, beside.connection_eq]
      have same_looking : (state.step ads autoparam toFloat32 taken).looksUp = state.looksUp := by
        rw [looksUp, looksUp, point_eq]
      refine ⟨fun looking => ?_, fun used => ?_, fun used => ?_⟩
      · rw [reads_eq]
        exact turning.unread (same_looking ▸ looking)
      · exact (turning.in_turn (same_use ▸ used)).frame beside.connection_eq beside.sumRead_eq
          reads_eq
      · rw [point_eq, beside.sumRead_eq, reads_eq]
        exact turning.so_far (same_use ▸ used)

theorem turning_run {state : Interleaved} (turning : state.Turning)
    (phase : state.driver.Phase state.scanPoint) {taken : List ThreadStep}
    (no_shutDown : .shutDown ∉ taken) :
    (run (step ads autoparam toFloat32) state taken).Turning := by
  have each : EachMeets (step ads autoparam toFloat32) (fun _ taken => taken ≠ .shutDown) state
      taken := by
    rintro front last reached rfl
    exact no_shutDown (reached.subset (by simp))
  refine (run_induction (fun state => state.Turning ∧ state.driver.Phase state.scanPoint) ?_
    ⟨turning, phase⟩ each).1
  rintro state taken ⟨turning, phase⟩ not_shutDown
  exact ⟨turning.step ads autoparam toFloat32 phase not_shutDown,
    phase_step ads autoparam toFloat32 phase not_shutDown⟩

theorem turning_start {ipAddr : Str} {amsNetId : AmsNetId}
    {sumBufferSize deviceReadAdsPort : UInt16} {heap : Heap} {driver : ADSPortDriver}
    (constructed : ADSPortDriver.new ipAddr amsNetId sumBufferSize deviceReadAdsPort heap =
      some driver) (links : List RecordLink) (interrupts : List Nat) :
    (start driver links interrupts).Turning := by
  have hooked := hooked_start constructed links interrupts
  exact .idle rfl (by simpa [inUse, start] using hooked.closed)

/-- In every run of the threads the chunks are asked for in turn while the connection is in use,
the buffer of a chunk holds the answer to its latest request, and none is asked for while names
are looked up. -/
theorem reads_in_turn {ipAddr : Str} {amsNetId : AmsNetId}
    {sumBufferSize deviceReadAdsPort : UInt16} {heap : Heap} {driver : ADSPortDriver}
    (constructed : ADSPortDriver.new ipAddr amsNetId sumBufferSize deviceReadAdsPort heap =
      some driver) (links : List RecordLink) (interrupts : List Nat)
    (hooked : (start driver links interrupts).driver.initialized = true)
    {taken : List ThreadStep} (no_shutDown : .shutDown ∉ taken) :
    (run (step ads autoparam toFloat32) (start driver links interrupts) taken).Turning :=
  turning_run ads autoparam toFloat32 (turning_start constructed links interrupts)
    (phase_start constructed links interrupts hooked) no_shutDown

/-- The sample driver reads its chunks twice. -/
theorem reads_in_turn_sample :
    (run (step SumReadRequest.sevensAds .sample fun _ => 0)
      (start ADSPortDriver.sampleDriver ADSPortDriver.sampleLinks [0, 2])
      (List.replicate 17 (.scan ADSPortDriver.sampleInput))).Turning :=
  reads_in_turn SumReadRequest.sevensAds .sample (fun _ => 0)
    (rfl : ADSPortDriver.new _ [10, 0, 0, 1, 1, 1] 2 851 ⟨SumReadRequest.sampleVars, []⟩ =
      some ADSPortDriver.sampleDriver) ADSPortDriver.sampleLinks [0, 2] (by decide) (by simp)

/-- While the scan thread publishes, the last requests for chunks are one whole pass, and each chunk
holds the answer of this pass. -/
theorem publishes_one_pass {ipAddr : Str} {amsNetId : AmsNetId}
    {sumBufferSize deviceReadAdsPort : UInt16} {heap : Heap} {driver : ADSPortDriver}
    (constructed : ADSPortDriver.new ipAddr amsNetId sumBufferSize deviceReadAdsPort heap =
      some driver) (links : List RecordLink) (interrupts : List Nat)
    (hooked : (start driver links interrupts).driver.initialized = true)
    {taken : List ThreadStep} (no_shutDown : .shutDown ∉ taken) {left : List ADSDeviceVar}
    (publishing : (run (step ads autoparam toFloat32) (start driver links interrupts)
      taken).scanPoint = .publishing left) :
    ∃ earlier pass,
      chunkReads (run (step ads autoparam toFloat32) (start driver links interrupts)
        taken).driver.trace = earlier ++ pass ∧
      (run (step ads autoparam toFloat32) (start driver links interrupts)
        taken).driver.OnePass pass := by
  have turning := turning_run ads autoparam toFloat32 (turning_start constructed links interrupts)
    (phase_start constructed links interrupts hooked) no_shutDown
  generalize run (step ads autoparam toFloat32) (start driver links interrupts) taken = state
    at publishing turning ⊢
  have used : state.inUse = true := by simp [inUse, publishing]
  have in_turn := turning.in_turn used
  have so_far := turning.so_far used
  rw [publishing] at so_far
  obtain ⟨passes, length_eq⟩ := so_far
  refine ⟨_, _, (List.take_append_drop (passes * state.driver.sumRead.getChunks.length) _).symm,
    ?_, fun index chunk at_index => ?_⟩
  · rw [List.length_drop, length_eq, Nat.succ_mul]
    omega
  · have inside := (List.getElem?_eq_some_iff.mp at_index).1
    have latest_eq := latest_round length_eq inside
    obtain ⟨event, at_place⟩ : ∃ event, (chunkReads state.driver.trace)[passes *
        state.driver.sumRead.getChunks.length + index]? = some event := by
      refine ⟨_, List.getElem?_eq_getElem ?_⟩
      rw [length_eq, Nat.succ_mul]
      omega
    obtain ⟨accepted, other, at_cell, called⟩ := in_turn.asked _ _ at_place
    have cell_eq : (passes * state.driver.sumRead.getChunks.length + index) %
        state.driver.sumRead.getChunks.length = index := by
      rw [Nat.mul_comm, Nat.mul_add_mod, Nat.mod_eq_of_lt inside]
    obtain rfl : chunk = other := by simpa [cell_eq, at_index] using at_cell
    refine ⟨event, ?_, called, accepted, in_turn.held index chunk event at_index ?_⟩
    · rw [List.getElem?_drop, at_place]
    · rw [latest_eq, at_place]

/-- The sample driver as it starts to publish. -/
def publishingState : Interleaved :=
  run (step SumReadRequest.sevensAds .sample fun _ => 0)
    (start ADSPortDriver.sampleDriver ADSPortDriver.sampleLinks [0, 2])
    (List.replicate 17 (.scan ADSPortDriver.sampleInput))

theorem publishes_one_pass_sample :
    ∃ earlier pass, chunkReads publishingState.driver.trace = earlier ++ pass ∧
      publishingState.driver.OnePass pass :=
  publishes_one_pass SumReadRequest.sevensAds .sample (fun _ => 0)
    (rfl : ADSPortDriver.new _ [10, 0, 0, 1, 1, 1] 2 851 ⟨SumReadRequest.sampleVars, []⟩ =
      some ADSPortDriver.sampleDriver) ADSPortDriver.sampleLinks [0, 2] (by decide)
    (by simp : ThreadStep.shutDown ∉ List.replicate 17 (.scan ADSPortDriver.sampleInput))
    (by decide : publishingState.scanPoint = .publishing
      (publishingState.driver.getInterruptVariables [0, 2]))

end Interleaved

end AdsDriver
