import AdsDriver.InterleavingFrame

/-!
# The phases of a connection among record handlers

While `exitCalled` is not set, what the scan thread knows of the connection at each of its points
holds whatever record handlers do in between: handlers change neither the connection nor the
sum-read nor where variables are found, and a section leads from what holds at its point to what
holds at the next one.
-/

namespace AdsDriver

open ByteMemory EarlyExit StatusSteps Runs

namespace ADSPortDriver

/-- What a handler leaves alone. -/
structure Beside (before after : ADSPortDriver) : Prop where
  kept : before.Keeps after
  exitCalled_eq : after.exitCalled = before.exitCalled
  connection_eq : after.adsConnection = before.adsConnection
  sumRead_eq : after.sumRead = before.sumRead
  addr_eq : ∀ var, (after.heap.vars var).addr = (before.heap.vars var).addr
  sent : ∃ events, after.trace = before.trace ++ events ∧ ∀ event ∈ events, event.Plain

namespace Beside

variable {before after : ADSPortDriver}

theorem refl (driver : ADSPortDriver) : driver.Beside driver :=
  ⟨.refl driver, rfl, rfl, rfl, fun _ => rfl, [], by simp, by simp⟩

/-- A variable with another echo, and what was sent for it. -/
theorem setVar (driver : ADSPortDriver) {var : VarId} {content : ADSVariable}
    (alike : (driver.heap.vars var).Alike content)
    (same : content.addr = (driver.heap.vars var).addr) {events : Trace}
    (plain : ∀ event ∈ events, event.Plain) :
    driver.Beside { driver.setVar var content with trace := driver.trace ++ events } := by
  refine ⟨.setVar driver _ alike, rfl, rfl, rfl, fun other => ?_, events, rfl, plain⟩
  by_cases here : other = var
  · subst here
    simpa [ADSPortDriver.setVar] using same
  · simp [ADSPortDriver.setVar, Function.update_of_ne here]

theorem ofEcho (driver : ADSPortDriver) {var : VarId} {content : ADSVariable}
    (echo : content = driver.heap.vars var ∨ content = (driver.heap.vars var).withEcho []) :
    driver.Beside (driver.setVar var content) := by
  have same : content.addr = (driver.heap.vars var).addr := by
    rcases echo with rfl | rfl
    · rfl
    · exact ADSVariable.addr_withEcho _ _
  have plain : ∀ event ∈ ([] : Trace), event.Plain := nofun
  have beside := setVar driver (.of_echo echo) same plain
  rwa [List.append_nil] at beside

theorem continues (beside : before.Beside after) : before.Continues after where
  exitCalled_eq := beside.exitCalled_eq
  initialized_eq := beside.kept.initialized_eq
  readVars_eq := beside.kept.readVars_eq
  writeVars_eq := beside.kept.writeVars_eq
  places :=
    ⟨fun var => by rw [beside.addr_eq], fun var => (beside.kept.alike var).size_eq,
      fun var => (beside.kept.alike var).bufferReader_eq⟩
  names var := by rw [beside.addr_eq]
  layout := beside.kept.layout
  allocated_eq := beside.kept.allocated_eq

theorem sinceOpen_subset (beside : before.Beside after) :
    sinceOpen before.trace ⊆ sinceOpen after.trace := by
  obtain ⟨events, trace_eq, plain⟩ := beside.sent
  rw [trace_eq, sinceOpen_append_plain plain]
  exact List.subset_append_left _ _

theorem held (beside : before.Beside after) {var : VarId}
    (held : (before.heap.vars var).Held before.adsConnection (sinceOpen before.trace)) :
    (after.heap.vars var).Held after.adsConnection (sinceOpen after.trace) := by
  obtain ⟨event, member, granted⟩ := held.granted
  refine ⟨?_, ?_, event, beside.sinceOpen_subset member, ?_⟩
  · rw [beside.addr_eq, held.resolved]
  · rw [beside.addr_eq, held.group_eq]
  · rw [beside.addr_eq, beside.connection_eq]
    exact granted

theorem consistent (beside : before.Beside after) (consistent : before.Consistent) :
    after.Consistent := by
  refine ⟨consistent.toBase.continues beside.continues, ?_, fun closed var member => ?_⟩
  · obtain ⟨events, trace_eq, plain⟩ := beside.sent
    rw [trace_eq]
    exact consistent.current.append_plain plain
  · rw [beside.connection_eq] at closed
    rw [beside.addr_eq]
    exact consistent.unresolved closed var (beside.continues.tracked_eq ▸ member)

theorem down (beside : before.Beside after) (down : before.Down) : after.Down :=
  ⟨beside.consistent down.toConsistent, by rw [beside.connection_eq, down.closed],
    by rw [beside.sumRead_eq, down.sumRead_idle]⟩

theorem resolving (beside : before.Beside after) {done : ADSPortDriver → List VarId}
    (done_eq : done after = done before) (resolving : before.Resolving done) :
    after.Resolving done := by
  refine ⟨beside.consistent resolving.toConsistent, by rw [beside.connection_eq, resolving.opened],
    by rw [beside.sumRead_eq, resolving.sumRead_idle], fun var member resolved => ?_,
    fun var member => ?_⟩
  · rw [beside.addr_eq] at resolved
    exact beside.held (resolving.held var (beside.continues.tracked_eq ▸ member) resolved)
  · rw [beside.addr_eq]
    exact resolving.resolved var (done_eq ▸ member)

theorem up (beside : before.Beside after) (up : before.Up) : after.Up := by
  refine ⟨beside.consistent up.toConsistent, by rw [beside.connection_eq, up.opened],
    by rw [beside.sumRead_eq, up.sumRead_ready], fun var member => ?_, fun chunk member => ?_⟩
  · exact beside.held (up.held var (beside.continues.tracked_eq ▸ member))
  · rw [beside.sumRead_eq] at member
    rw [up.entries chunk member]
    refine List.map_congr_left fun var _ => ?_
    rw [ADSVariable.requestEntry, ADSVariable.requestEntry, beside.addr_eq,
      beside.continues.places.size_eq]

end Beside

variable (ads : Ads)

/-- A request of a sum-read keeps a driver up, whatever the library returns. -/
theorem Up.reread {driver : ADSPortDriver} (up : driver.Up) {sumRead : SumReadRequest}
    {events : Trace} (same : driver.sumRead.SameLayout sumRead)
    (allocated_eq : sumRead.allocated = driver.sumRead.allocated)
    (initialized_eq : sumRead.initialized = driver.sumRead.initialized)
    (same_entries : SortedMap.Related ReadRequestChunk.SameEntries driver.sumRead.chunksByAdsPort
      sumRead.chunksByAdsPort)
    (sent : ∀ event ∈ events, ∃ chunk ∈ driver.sumRead.getChunks,
      event.call = chunk.readCall driver.adsConnection) :
    { driver with sumRead, trace := driver.trace ++ events }.Up := by
  have extended := up.extend
    (fun event member =>
      have ⟨_, _, asked⟩ := sent event member
      ReadRequestChunk.readCall_keeps_port asked)
    (fun event member =>
      have ⟨_, in_chunks, asked⟩ := sent event member
      up.byHandle in_chunks asked)
  refine ⟨⟨extended.toBase.continues (.ofSumRead _ _ _ same allocated_eq), extended.current,
    extended.unresolved⟩, up.opened, initialized_eq.trans up.sumRead_ready, extended.held, ?_⟩
  intro chunk member
  obtain ⟨port, in_set⟩ := SumReadRequest.mem_getChunks_iff.mp member
  obtain ⟨before, in_before, entries_eq, vars_eq⟩ :=
    EarlyExit.mem_of_forall₂ (SumReadRequest.forall₂_chunkSet same_entries port) in_set
  rw [entries_eq, vars_eq]
  exact up.entries before (SumReadRequest.mem_getChunks_iff.mpr ⟨port, in_before⟩)

end ADSPortDriver

/-- Asking for one chunk sends at most the request of that chunk, and keeps the entries. -/
theorem SumReadRequest.readChunk_sent (ads : Ads) (connection : Connection) (index : Nat)
    (request : SumReadRequest) (trace : Trace) :
    (∃ events, (request.readChunk ads connection index trace).2.2 = trace ++ events ∧
      ∀ event ∈ events, ∃ chunk ∈ request.getChunks, event.call = chunk.readCall connection) ∧
    SortedMap.Related ReadRequestChunk.SameEntries request.chunksByAdsPort
      (request.readChunk ads connection index trace).2.1.chunksByAdsPort := by
  unfold readChunk
  cases found : request.getChunks[index]? with
  | none => exact ⟨⟨[], by simp, by simp⟩, .refl fun _ _ => ⟨rfl, rfl⟩⟩
  | some chunk =>
      have read_entries (chunk : ReadRequestChunk) :
          chunk.SameEntries (chunk.read ads connection trace).result := by
        unfold ReadRequestChunk.read
        dsimp only
        split_ifs <;> exact ⟨rfl, rfl⟩
      have read_state : (chunk.read ads connection trace).state = trace ∨
          (chunk.read ads connection trace).state =
            trace ++ [ads.event trace (chunk.readCall connection)] := by
        unfold ReadRequestChunk.read
        dsimp only
        split_ifs
        · exact .inl rfl
        · exact .inr rfl
        · exact .inr rfl
      have sent : ∃ events, (chunk.read ads connection trace).state = trace ++ events ∧
          ∀ event ∈ events, ∃ chunk ∈ request.getChunks,
            event.call = chunk.readCall connection := by
        rcases read_state with same | asked
        · exact ⟨[], by simpa using same, by simp⟩
        · refine ⟨_, asked, fun event member => ⟨chunk, List.mem_of_getElem? found, ?_⟩⟩
          rw [List.mem_singleton.mp member]
          rfl
      have modified : SortedMap.Related ReadRequestChunk.SameEntries request.chunksByAdsPort
          (request.chunksByAdsPort.modifyAt index fun chunk =>
            (chunk.read ads connection trace).result) :=
        SortedMap.related_modifyAt (fun _ => ⟨rfl, rfl⟩) read_entries _ index
      dsimp only
      split
      · exact ⟨sent, modified⟩
      · have marked : SortedMap.Related ReadRequestChunk.SameEntries
            (request.chunksByAdsPort.modifyAt index fun chunk =>
              (chunk.read ads connection trace).result)
            ((request.chunksByAdsPort.modifyAt index fun chunk =>
              (chunk.read ads connection trace).result).mapValues
                (List.map (ReadRequestChunk.setBufferState .invalid))) :=
          SortedMap.related_mapValues fun _ _ => ⟨rfl, rfl⟩
        refine ⟨sent, modified.trans marked fun _ _ _ first second => ?_⟩
        exact ⟨second.1.trans first.1, second.2.trans first.2⟩
      · exact ⟨sent, modified⟩

namespace ADSPortDriver

variable (ads : Ads)

theorem ends_readChunk (index : Nat) : Ends Up (readChunk ads index) Up Up := by
  intro driver up
  obtain ⟨⟨events, trace_eq, sent⟩, same_entries⟩ :=
    driver.sumRead.readChunk_sent ads driver.adsConnection index driver.trace
  obtain ⟨same, allocated_eq, initialized_eq⟩ :=
    driver.sumRead.readChunk_layout ads driver.adsConnection index driver.trace
  have after := up.reread same allocated_eq initialized_eq same_entries sent
  simp only [readChunk, trace_eq]
  exact ⟨fun _ => after, fun _ => after⟩

/-- What holds at each point of the scan thread while `exitCalled` is not set. -/
def Phase (driver : ADSPortDriver) : ScanPoint → Prop
  | .head => driver.AtHead
  | .connect => driver.Down
  | .resolveReadVars => driver.Resolving fun _ => []
  | .resolveWriteVars => driver.Resolving adsReadVars
  | .initializeSumRead => driver.Resolving tracked
  | .readInfo | .readState | .sumRead _ | .readChunk _ _ | .publish | .publishing _ => driver.Up
  | .deinitializeSumRead caller => driver.Consistent ∧ caller ≠ .exit
  | .unresolveReadVars caller => driver.Consistent ∧ caller ≠ .exit ∧
      driver.sumRead.initialized = false ∧ driver.adsConnection.isConnected = true
  | .unresolveWriteVars caller => driver.Consistent ∧ caller ≠ .exit ∧
      driver.sumRead.initialized = false ∧ driver.adsConnection.isConnected = true ∧
      ∀ var ∈ driver.adsReadVars, (driver.heap.vars var).addr.nameIsResolved = false
  | .disconnect caller => driver.Consistent ∧ caller ≠ .exit ∧
      driver.sumRead.initialized = false ∧ driver.adsConnection.isConnected = true ∧
      ∀ var ∈ driver.tracked, (driver.heap.vars var).addr.nameIsResolved = false
  | .setDisconnected caller => driver.Down ∧ caller ≠ .exit
  | .exited => False

/-- A driver in a phase has been initialized and has not been told to exit. -/
theorem Phase.consistent {driver : ADSPortDriver} {point : ScanPoint} (phase : driver.Phase point) :
    driver.Consistent := by
  cases point with
  | head => exact AtHead.toConsistent phase
  | connect => exact Down.toConsistent phase
  | resolveReadVars | resolveWriteVars | initializeSumRead => exact Resolving.toConsistent phase
  | readInfo | readState | sumRead _ | readChunk _ _ | publish | publishing _ =>
      exact Up.toConsistent phase
  | deinitializeSumRead caller | unresolveReadVars caller | unresolveWriteVars caller
  | disconnect caller => exact phase.1
  | setDisconnected caller => exact phase.1.toConsistent
  | exited => exact phase.elim

/-- Handlers keep every phase. -/
theorem Beside.phase {before after : ADSPortDriver} (beside : before.Beside after)
    {point : ScanPoint} (phase : before.Phase point) : after.Phase point := by
  have same := beside.continues
  cases point with
  | head => exact phase.imp beside.up beside.down
  | connect => exact beside.down phase
  | resolveReadVars => exact beside.resolving rfl phase
  | resolveWriteVars => exact beside.resolving same.readVars_eq phase
  | initializeSumRead => exact beside.resolving same.tracked_eq phase
  | readInfo | readState | sumRead _ | readChunk _ _ | publish | publishing _ =>
      exact beside.up phase
  | deinitializeSumRead caller => exact ⟨beside.consistent phase.1, phase.2⟩
  | unresolveReadVars caller =>
      simpa only [Phase, beside.sumRead_eq, beside.connection_eq] using
        And.imp_left beside.consistent phase
  | unresolveWriteVars caller =>
      simpa only [Phase, beside.sumRead_eq, beside.connection_eq, same.readVars_eq,
        beside.addr_eq] using And.imp_left beside.consistent phase
  | disconnect caller =>
      simpa only [Phase, beside.sumRead_eq, beside.connection_eq, same.tracked_eq,
        beside.addr_eq] using And.imp_left beside.consistent phase
  | setDisconnected caller => exact ⟨beside.down phase.1, phase.2⟩
  | exited => exact phase

/-- The sections that report a status, each in its phase: where they lead, and on whose behalf the
driver disconnects when they fail. -/
inductive Attempt (driver : ADSPortDriver) :
    ScanPoint → Step ADSPortDriver → ScanPoint → DisconnectCaller → Prop
  | connect (down : driver.Down) :
      Attempt driver .connect (openConnection ads) .resolveReadVars .reconnect
  | resolveReadVars (resolving : driver.Resolving fun _ => []) :
      Attempt driver .resolveReadVars (resolveVariables ads adsReadVars)
        .resolveWriteVars .reconnect
  | resolveWriteVars (resolving : driver.Resolving adsReadVars) :
      Attempt driver .resolveWriteVars (resolveVariables ads adsWriteVars) .initializeSumRead
        .reconnect
  | initializeSumRead (resolving : driver.Resolving tracked) :
      Attempt driver .initializeSumRead initializeSumRead (.sumRead true) .reconnect
  | readInfo (up : driver.Up) : Attempt driver .readInfo (readInfo ads) .readState .request
  | readState (up : driver.Up) : Attempt driver .readState (readState ads) (.sumRead false) .request
  | sumRead (up : driver.Up) (connecting : Bool) :
      Attempt driver (.sumRead connecting) startSumRead (.readChunk 0 connecting)
        (if connecting then .sumRead else .request)
  | readChunk (up : driver.Up) {index : Nat} (inside : index < driver.sumRead.getChunks.length)
      (connecting : Bool) :
      Attempt driver (.readChunk index connecting) (readChunk ads index)
        (.readChunk (index + 1) connecting) (if connecting then .sumRead else .request)

/-- The sections that cannot fail, each in its phase: what they make of the driver, and where they
lead. -/
inductive Passage (autoparam : Autoparam) (input : ScanInput) (driver : ADSPortDriver) :
    ScanPoint → ADSPortDriver → ScanPoint → Prop
  | scan (up : driver.Up) :
      Passage autoparam input driver .head driver (if input.due then .readInfo else .sumRead false)
  | reconnect (down : driver.Down) : Passage autoparam input driver .head driver .connect
  | sumReadDone (up : driver.Up) {index : Nat} (whole : driver.sumRead.getChunks.length ≤ index)
      (connecting : Bool) :
      Passage autoparam input driver (.readChunk index connecting) driver (.sumReadDone connecting)
  | publish (up : driver.Up) :
      Passage autoparam input driver .publish driver
        (.publishing (driver.getInterruptVariables input.interrupts))
  | publishVariable (up : driver.Up) (adsVar : ADSDeviceVar) (left : List ADSDeviceVar) :
      Passage autoparam input driver (.publishing (adsVar :: left))
        (driver.publishVariable autoparam input.garbage adsVar) (.publishing left)
  | published (up : driver.Up) : Passage autoparam input driver (.publishing []) driver .head
  | deinitializeSumRead {caller : DisconnectCaller}
      (phase : driver.Phase (.deinitializeSumRead caller))
      (opened : driver.adsConnection.isConnected = true) :
      Passage autoparam input driver (.deinitializeSumRead caller) driver.deinitializeSumRead
        (.unresolveReadVars caller)
  | notConnected {caller : DisconnectCaller} (phase : driver.Phase (.deinitializeSumRead caller))
      (closed : driver.adsConnection.isConnected = false) :
      Passage autoparam input driver (.deinitializeSumRead caller) driver.deinitializeSumRead
        caller.resume
  | unresolveReadVars {caller : DisconnectCaller}
      (phase : driver.Phase (.unresolveReadVars caller)) :
      Passage autoparam input driver (.unresolveReadVars caller)
        (driver.unresolveVariables ads driver.adsReadVars) (.unresolveWriteVars caller)
  | unresolveWriteVars {caller : DisconnectCaller}
      (phase : driver.Phase (.unresolveWriteVars caller)) :
      Passage autoparam input driver (.unresolveWriteVars caller)
        (driver.unresolveVariables ads driver.adsWriteVars) (.disconnect caller)
  | disconnect {caller : DisconnectCaller} (phase : driver.Phase (.disconnect caller)) :
      Passage autoparam input driver (.disconnect caller) (driver.disconnect ads)
        (.setDisconnected caller)
  | setDisconnected {caller : DisconnectCaller} (phase : driver.Phase (.setDisconnected caller)) :
      Passage autoparam input driver (.setDisconnected caller) driver.setDisconnected caller.resume

variable {ads} {driver after : ADSPortDriver} {autoparam : Autoparam} {input : ScanInput}
variable {point next succeeded : ScanPoint} {step : Step ADSPortDriver} {caller : DisconnectCaller}

theorem Down.phase_resume (down : driver.Down) (running : caller ≠ .exit) :
    driver.Phase caller.resume := by
  cases caller with
  | request => exact .inr down
  | reconnect => exact .inr down
  | sumRead => exact ⟨down.toConsistent, by decide⟩
  | exit => exact absurd rfl running

theorem Attempt.phase (attempt : driver.Attempt ads point step succeeded caller) :
    ((step driver).1 = 0 → (step driver).2.Phase succeeded) ∧
      ((step driver).1 ≠ 0 → (step driver).2.Phase (.deinitializeSumRead caller)) := by
  have failed {after : ADSPortDriver} (connecting : Bool) (up : after.Up) :
      after.Phase (.deinitializeSumRead (if connecting then .sumRead else .request)) :=
    ⟨up.toConsistent, by cases connecting <;> decide⟩
  cases attempt with
  | connect down =>
      obtain ⟨opens, fails⟩ := ends_openConnection ads driver down
      exact ⟨opens, fun nonzero => ⟨(fails nonzero).toConsistent, by decide⟩⟩
  | resolveReadVars resolving =>
      obtain ⟨resolves, fails⟩ := ends_resolveVariables ads (fun _ => []) adsReadVars
        (fun _ _ _ => rfl) (fun _ _ same => same.readVars_eq) driver resolving
      exact ⟨resolves, fun nonzero => ⟨fails nonzero, by decide⟩⟩
  | resolveWriteVars resolving =>
      obtain ⟨resolves, fails⟩ := ends_resolveVariables ads adsReadVars adsWriteVars
        (fun _ _ same => same.readVars_eq) (fun _ _ same => same.writeVars_eq) driver resolving
      exact ⟨resolves, fun nonzero => ⟨fails nonzero, by decide⟩⟩
  | initializeSumRead resolving =>
      obtain ⟨initializes, fails⟩ := ends_initializeSumRead driver resolving
      exact ⟨initializes, fun nonzero => ⟨fails nonzero, by decide⟩⟩
  | readInfo up =>
      obtain ⟨reads, fails⟩ := ends_readInfo ads driver up
      exact ⟨reads, fun nonzero => failed false (fails nonzero)⟩
  | readState up =>
      obtain ⟨reads, fails⟩ := ends_readState ads driver up
      exact ⟨reads, fun nonzero => failed false (fails nonzero)⟩
  | sumRead up connecting => exact ⟨fun _ => up, fun _ => failed connecting up⟩
  | @readChunk up index _ connecting =>
      obtain ⟨reads, fails⟩ := ends_readChunk ads index driver up
      exact ⟨reads, fun nonzero => failed connecting (fails nonzero)⟩

theorem Phase.deinitializeSumRead (phase : driver.Phase (.deinitializeSumRead caller)) :
    driver.deinitializeSumRead.Consistent :=
  ⟨phase.1.toBase.continues (.ofSumRead _ _ _ driver.sumRead.sameLayout_deinitializeRequest rfl),
    phase.1.current, phase.1.unresolved⟩

theorem Phase.disconnect (phase : driver.Phase (.disconnect caller)) :
    (driver.disconnect ads).Down := by
  obtain ⟨consistent, _, idle, opened, unresolved⟩ := phase
  have closes : driver.disconnect ads = driver.closeConnection ads := by
    simp [ADSPortDriver.disconnect, ADSPortDriver.closeConnection, Connection.disconnect, opened,
      Connection.setDisconnected]
  rw [closes]
  exact consistent.closeConnection ads unresolved idle

theorem Down.setDisconnected (down : driver.Down) : driver.setDisconnected.Down := by
  have base : driver.setDisconnected.Base := down.toBase.continues
    (.ofSumRead driver _ driver.trace (.refl driver.sumRead) rfl)
  exact ⟨⟨base, down.current, fun _ => down.unresolved down.closed⟩, rfl, down.sumRead_idle⟩

theorem Passage.phase (passage : driver.Passage ads autoparam input point after next) :
    after.Phase next := by
  cases passage with
  | scan up => cases input.due <;> exact up
  | reconnect down => exact down
  | sumReadDone up _ connecting =>
      cases connecting with
      | true => exact .inl up
      | false => exact up
  | publish up => exact up
  | publishVariable up adsVar left => exact up.publishVariable autoparam input.garbage adsVar
  | published up => exact .inl up
  | deinitializeSumRead phase opened => exact ⟨phase.deinitializeSumRead, phase.2, rfl, opened⟩
  | notConnected phase closed =>
      exact Down.phase_resume ⟨phase.deinitializeSumRead, closed, rfl⟩ phase.2
  | unresolveReadVars phase =>
      obtain ⟨consistent, other, idle, opened⟩ := phase
      obtain ⟨after, continues, _, all⟩ := consistent.unresolveVariables ads
        (List.subset_append_left driver.adsReadVars driver.adsWriteVars)
      exact ⟨after, other, idle, opened, continues.readVars_eq ▸ all⟩
  | unresolveWriteVars phase =>
      obtain ⟨consistent, other, idle, opened, reads⟩ := phase
      obtain ⟨after, continues, kept, all⟩ := consistent.unresolveVariables ads
        (List.subset_append_right driver.adsReadVars driver.adsWriteVars)
      refine ⟨after, other, idle, opened, fun var member => ?_⟩
      rcases List.mem_append.mp (continues.tracked_eq ▸ member) with read | written
      · exact kept var (reads var read)
      · exact all var written
  | disconnect phase => exact ⟨phase.disconnect, phase.2.1⟩
  | setDisconnected phase => exact phase.1.setDisconnected.phase_resume phase.2

end ADSPortDriver

/-- Whether a step is taken by the scan thread. -/
def ThreadStep.scans : ThreadStep → Bool
  | .scan _ => true
  | _ => false

namespace Interleaved

variable (ads : Ads) (autoparam : Autoparam) (toFloat32 : BitVec 64 → BitVec 32)

/-- A handler runs beside the scan thread. -/
theorem beside_step (state : Interleaved) {taken : ThreadStep} (handler : taken.scans = false)
    (not_shutDown : taken ≠ .shutDown) :
    (state.step ads autoparam toFloat32 taken).scanPoint = state.scanPoint ∧
      state.driver.Beside (state.step ads autoparam toFloat32 taken).driver := by
  cases taken with
  | scan input => cases handler
  | shutDown => exact absurd rfl not_shutDown
  | poll adsVar registration request =>
      unfold step
      dsimp only
      split_ifs
      · exact ⟨rfl, .ofEcho state.driver (registration.read.poll_echo autoparam _ _ _ request)⟩
      · exact ⟨rfl, .refl _⟩
  | checkWrite adsVar registration request =>
      unfold step
      dsimp only
      split_ifs
      · exact ⟨rfl, .ofEcho state.driver
          (registration.write.varToWrite_echo autoparam _ _ _ request)⟩
      · exact ⟨rfl, .refl _⟩
  | sendWrite index =>
      unfold step sendWrite
      dsimp only
      split
      · exact ⟨rfl, .refl _⟩
      · refine ⟨rfl, .setVar state.driver (ADSVariable.alike_afterWrite _ _ _) ?_ ?_⟩
        · unfold ADSVariable.afterWrite
          split_ifs <;> rfl
        · intro event member
          rw [List.mem_singleton.mp member]
          exact ⟨by simp [AdsEvent.opensPort, ADSVariable.writeCall], rfl⟩

/-- A section is an attempt or a passage, whatever the library returns. -/
theorem scan_cases {state : Interleaved} (phase : state.driver.Phase state.scanPoint)
    (input : ScanInput) :
    (∃ step succeeded caller, state.driver.Attempt ads state.scanPoint step succeeded caller ∧
      state.scan ads autoparam input = state.tryThen step succeeded (.deinitializeSumRead caller)) ∨
    ∃ after next, state.driver.Passage ads autoparam input state.scanPoint after next ∧
      state.scan ads autoparam input = state.doThen (fun _ => after) next := by
  have running := phase.consistent.running
  have ready := phase.consistent.initialized
  obtain ⟨driver, point, pendingWrites⟩ := state
  dsimp only at phase running ready ⊢
  cases point with
  | head =>
      rcases phase with up | down
      · exact .inr ⟨_, _, .scan up, by simp [scan, running, ready, up.needsConnect, goTo, doThen]⟩
      · exact .inr ⟨_, _, .reconnect down, by
          simp [scan, running, ready, down.needsConnect, goTo, doThen]⟩
  | connect =>
      have down : driver.Down := phase
      exact .inl ⟨_, _, _, .connect down, by simp [scan, running, ready, down.closed]⟩
  | resolveReadVars => exact .inl ⟨_, _, _, .resolveReadVars phase, rfl⟩
  | resolveWriteVars => exact .inl ⟨_, _, _, .resolveWriteVars phase, rfl⟩
  | initializeSumRead => exact .inl ⟨_, _, _, .initializeSumRead phase, rfl⟩
  | readInfo => exact .inl ⟨_, _, _, .readInfo phase, rfl⟩
  | readState => exact .inl ⟨_, _, _, .readState phase, rfl⟩
  | sumRead connecting => exact .inl ⟨_, _, _, .sumRead phase connecting, rfl⟩
  | readChunk index connecting =>
      by_cases inside : index < driver.sumRead.getChunks.length
      · exact .inl ⟨_, _, _, .readChunk phase inside connecting, if_pos inside⟩
      · exact .inr ⟨_, _, .sumReadDone phase (not_lt.mp inside) connecting, if_neg inside⟩
  | publish => exact .inr ⟨_, _, .publish phase, rfl⟩
  | publishing left =>
      cases left with
      | nil => exact .inr ⟨_, _, .published phase, rfl⟩
      | cons adsVar left => exact .inr ⟨_, _, .publishVariable phase adsVar left, rfl⟩
  | deinitializeSumRead caller =>
      cases opened : driver.adsConnection.isConnected with
      | true =>
          exact .inr ⟨_, _, .deinitializeSumRead phase opened, by
            simp [scan, running, opened, doThen]⟩
      | false =>
          exact .inr ⟨_, _, .notConnected phase opened, by simp [scan, running, opened, doThen]⟩
  | unresolveReadVars caller => exact .inr ⟨_, _, .unresolveReadVars phase, rfl⟩
  | unresolveWriteVars caller => exact .inr ⟨_, _, .unresolveWriteVars phase, rfl⟩
  | disconnect caller => exact .inr ⟨_, _, .disconnect phase, rfl⟩
  | setDisconnected caller => exact .inr ⟨_, _, .setDisconnected phase, rfl⟩
  | exited => exact phase.elim

/-- A section leads from phase to phase, whatever the library returns. -/
theorem phase_scan {state : Interleaved} (phase : state.driver.Phase state.scanPoint)
    (input : ScanInput) :
    (state.scan ads autoparam input).driver.Phase (state.scan ads autoparam input).scanPoint := by
  rcases scan_cases ads autoparam phase input with
    ⟨step, succeeded, caller, attempt, scan_eq⟩ | ⟨after, next, passage, scan_eq⟩
  · rw [scan_eq, tryThen]
    dsimp only
    split_ifs with zero
    · exact attempt.phase.1 zero
    · exact attempt.phase.2 zero
  · rw [scan_eq]
    exact passage.phase

/-- Every step of a run without `shutDown` leads from phase to phase. -/
theorem phase_step {state : Interleaved} (phase : state.driver.Phase state.scanPoint)
    {taken : ThreadStep} (not_shutDown : taken ≠ .shutDown) :
    (state.step ads autoparam toFloat32 taken).driver.Phase
      (state.step ads autoparam toFloat32 taken).scanPoint := by
  cases handler : taken.scans with
  | true =>
      cases taken with
      | scan input => exact phase_scan ads autoparam phase input
      | _ => cases handler
  | false =>
      obtain ⟨point_eq, beside⟩ :=
        state.beside_step ads autoparam toFloat32 handler not_shutDown
      rw [point_eq]
      exact beside.phase phase

theorem phase_start {ipAddr : Str} {amsNetId : AmsNetId}
    {sumBufferSize deviceReadAdsPort : UInt16} {heap : Heap} {driver : ADSPortDriver}
    (constructed : ADSPortDriver.new ipAddr amsNetId sumBufferSize deviceReadAdsPort heap =
      some driver) (links : List RecordLink) (interrupts : List Nat)
    (hooked : (start driver links interrupts).driver.initialized = true) :
    (start driver links interrupts).driver.Phase (start driver links interrupts).scanPoint :=
  .inr (((ADSPortDriver.created_new constructed).addRecords links).initHook hooked)

theorem phase_run {state : Interleaved} (phase : state.driver.Phase state.scanPoint)
    {taken : List ThreadStep} (no_shutDown : .shutDown ∉ taken) :
    (run (step ads autoparam toFloat32) state taken).driver.Phase
      (run (step ads autoparam toFloat32) state taken).scanPoint := by
  have each : EachMeets (step ads autoparam toFloat32) (fun _ taken => taken ≠ .shutDown) state
      taken := by
    rintro front last reached rfl
    exact no_shutDown (reached.subset (by simp))
  exact run_induction (fun state => state.driver.Phase state.scanPoint)
    (fun _ _ phase => phase_step ads autoparam toFloat32 phase) phase each

/-- In every state of every run without `shutDown`, whatever the library returns and record handlers
do, what the scan thread knows at its point holds. -/
theorem phases_kept {ipAddr : Str} {amsNetId : AmsNetId}
    {sumBufferSize deviceReadAdsPort : UInt16} {heap : Heap} {driver : ADSPortDriver}
    (constructed : ADSPortDriver.new ipAddr amsNetId sumBufferSize deviceReadAdsPort heap =
      some driver) (links : List RecordLink) (interrupts : List Nat)
    (hooked : (start driver links interrupts).driver.initialized = true)
    {taken : List ThreadStep} (no_shutDown : .shutDown ∉ taken) :
    Throughout (step ads autoparam toFloat32) (fun state => state.driver.Phase state.scanPoint)
      (start driver links interrupts) taken :=
  fun _ reached => phase_run ads autoparam toFloat32
    (phase_start constructed links interrupts hooked)
    fun member => no_shutDown (reached.subset member)

/-- The sample driver connects and reads its variables twice. -/
theorem phases_kept_sample :
    Throughout (step SumReadRequest.sevensAds .sample fun _ => 0)
      (fun state => state.driver.Phase state.scanPoint)
      (start ADSPortDriver.sampleDriver ADSPortDriver.sampleLinks [0, 2])
      (List.replicate 17 (.scan ADSPortDriver.sampleInput)) :=
  phases_kept SumReadRequest.sevensAds .sample (fun _ => 0)
    (rfl : ADSPortDriver.new _ [10, 0, 0, 1, 1, 1] 2 851 ⟨SumReadRequest.sampleVars, []⟩ =
      some ADSPortDriver.sampleDriver) ADSPortDriver.sampleLinks [0, 2] (by decide) (by simp)

end Interleaved

end AdsDriver
