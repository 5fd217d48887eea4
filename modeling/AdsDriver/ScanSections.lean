import AdsDriver.Data.ControlPoints
import AdsDriver.InterleavingFrame

/-!
# The sections of the scan loop

Without other threads the sections of the scan thread do what an iteration of `adsScan` does as a
whole.  Each function that `adsScan` calls is performed from its first section to its last, and an
iteration leads from one head of the loop to the next, or out of the loop.
-/

namespace AdsDriver

open StatusSteps ControlPoints EarlyExit Runs

namespace SumReadRequest

/-- A sum-read that began with this request and trace has got to an index. -/
def Reading (ads : Ads) (connection : Connection) (request : SumReadRequest) (trace : Trace)
    (index : Nat) (chunks : SortedMap Nat (List ReadRequestChunk)) (trace' : Trace) : Prop :=
  SortedMap.Reached (ReadRequestChunk.read ads connection) trace request.chunksByAdsPort
    index trace'
    chunks

variable {ads : Ads} {connection : Connection} {request : SumReadRequest} {trace trace' : Trace}
variable {index : Nat} {chunks : SortedMap Nat (List ReadRequestChunk)} {chunk : ReadRequestChunk}

/-- A chunk is read, and the sum-read goes on. -/
theorem Reading.succ (reading : request.Reading ads connection trace index chunks trace')
    (found : chunks.values.flatten[index]? = some chunk)
    (stays : (chunk.read ads connection trace').exit = none) :
    ∃ chunks' trace'', request.Reading ads connection trace (index + 1) chunks' trace'' ∧
      { request with chunksByAdsPort := chunks }.readChunk ads connection index trace' =
        (0, { request with chunksByAdsPort := chunks' }, trace'') := by
  refine ⟨_, _, SortedMap.Reached.succ reading found stays
    (f := fun chunk => (chunk.read ads connection trace').result) rfl, ?_⟩
  simp only [readChunk, getChunks, found, stays]

/-- A chunk cannot be read, and what the section leaves is what the sum-read leaves. -/
theorem Reading.failed (reading : request.Reading ads connection trace index chunks trace')
    (ready : request.initialized = true) (found : chunks.values.flatten[index]? = some chunk)
    (leaves : (chunk.read ads connection trace').exit ≠ none) :
    { request with chunksByAdsPort := chunks }.readChunk ads connection index trace' =
        request.read ads connection trace ∧
      (request.read ads connection trace).1 ≠ 0 := by
  obtain ⟨failure, left⟩ := Option.ne_none_iff_exists'.mp leaves
  have loop := SortedMap.Reached.visitAll_exit reading found left
    (f := fun chunk => (chunk.read ads connection trace').result) rfl
  cases failure with
  | notInitialized =>
      simp [readChunk, getChunks, found, left, read, ready, loop, epicsadsNotInitialized]
  | failed rc =>
      have refused := (adsRcToEpicsadsError_eq_zero_iff rc).not.mpr
        (ReadRequestChunk.rc_of_failed left)
      simp [readChunk, getChunks, found, left, read, ready, loop, refused]

theorem Reading.done (reading : request.Reading ads connection trace index chunks trace')
    (ready : request.initialized = true) (beyond : chunks.values.flatten.length ≤ index) :
    request.read ads connection trace =
      (0, { request with chunksByAdsPort := chunks }, trace') := by
  rw [SortedMap.Reached.length_eq reading] at beyond
  simp [read, ready, SortedMap.Reached.visitAll_done reading beyond]

end SumReadRequest

/-- The driver in the middle of a sum-read. -/
def ADSPortDriver.halfRead (driver : ADSPortDriver)
    (chunks : SortedMap Nat (List ReadRequestChunk)) (trace : Trace) : ADSPortDriver :=
  { driver with sumRead := { driver.sumRead with chunksByAdsPort := chunks }, trace }

theorem ADSPortDriver.adsDisconnect_eq (ads : Ads) (driver : ADSPortDriver) :
    driver.adsDisconnect ads =
      if driver.exitCalled then driver.deinitializeSumRead.closeConnection ads
      else if driver.adsConnection.isConnected then
        ((driver.deinitializeSumRead.unresolveVariables ads driver.adsReadVars).unresolveVariables
          ads driver.adsWriteVars).closeConnection ads
      else driver.deinitializeSumRead := by
  unfold adsDisconnect
  cases exits : driver.exitCalled <;> cases opened : driver.adsConnection.isConnected <;>
    simp [deinitializeSumRead, exits, opened, ADSPortDriver.unresolveVariables]

namespace Interleaved

/-- The scan thread is at a point, beside these pending writes. -/
def pausedAt (pendingWrites : List PendingWrite) (scanPoint : ScanPoint) (driver : ADSPortDriver) :
    Interleaved := { driver, scanPoint, pendingWrites }

/-- The scan thread is at a head of the loop. -/
def AtLoopHead (state : Interleaved) : Prop := state.scanPoint = .head

instance : DecidablePred AtLoopHead := fun state =>
  inferInstanceAs (Decidable (state.scanPoint = .head))

variable (ads : Ads) (autoparam : Autoparam) (input : ScanInput) (pendingWrites : List PendingWrite)

/-- The scan thread gets from a state to another one with one input and without other threads. -/
abbrev ScanArrives : Interleaved → Interleaved → Prop :=
  Arrives (scan ads autoparam · input) AtLoopHead

/-- The scan thread performs a step of the driver. -/
abbrev ScanPerforms (entry : ScanPoint) (step : Step ADSPortDriver)
    (succeeded failed : ScanPoint) : Prop :=
  Performs (scan ads autoparam · input) AtLoopHead (pausedAt pendingWrites) entry step succeeded
    failed

theorem arrives_adsDisconnect (caller : DisconnectCaller) (driver : ADSPortDriver) :
    ScanArrives ads autoparam input (pausedAt pendingWrites (.deinitializeSumRead caller) driver)
      (pausedAt pendingWrites caller.resume (driver.adsDisconnect ads)) := by
  have closes (driver : ADSPortDriver) :
      ScanArrives ads autoparam input (pausedAt pendingWrites (.disconnect caller) driver)
        (pausedAt pendingWrites caller.resume (driver.closeConnection ads)) :=
    .head nofun (.head nofun (.refl _))
  have begins : (pausedAt pendingWrites (.deinitializeSumRead caller) driver).scan ads autoparam
      input = pausedAt pendingWrites
        (if driver.exitCalled then .disconnect caller
          else if driver.adsConnection.isConnected then .unresolveReadVars caller
          else caller.resume) driver.deinitializeSumRead := rfl
  refine .head nofun (begins ▸ ?_)
  rw [ADSPortDriver.adsDisconnect_eq]
  split_ifs
  · exact closes driver.deinitializeSumRead
  · exact .head nofun (.head nofun (closes _))
  · exact .refl _

theorem performs_section {entry succeeded failed : ScanPoint} {step : Step ADSPortDriver}
    (running : entry ≠ .head)
    (section_eq : ∀ driver, (pausedAt pendingWrites entry driver).scan ads autoparam input =
      (pausedAt pendingWrites entry driver).tryThen step succeeded failed) :
    ScanPerforms ads autoparam input pendingWrites entry step succeeded failed :=
  .of_section (fun _ => running) section_eq

theorem performs_onFailure (caller : DisconnectCaller) {entry succeeded : ScanPoint}
    {step : Step ADSPortDriver}
    (performs : ScanPerforms ads autoparam input pendingWrites entry step succeeded
      (.deinitializeSumRead caller)) :
    ScanPerforms ads autoparam input pendingWrites entry
      (step.onFailure (ADSPortDriver.adsDisconnect ads)) succeeded caller.resume :=
  performs.onFailure (arrives_adsDisconnect ads autoparam input pendingWrites caller)

theorem scan_readChunk (index : Nat) (connecting : Bool) (driver : ADSPortDriver)
    (chunks : SortedMap Nat (List ReadRequestChunk)) (trace : Trace) :
    (pausedAt pendingWrites (.readChunk index connecting) (driver.halfRead chunks trace)).scan ads
        autoparam input =
      if index < chunks.values.flatten.length then
        (pausedAt pendingWrites (.readChunk index connecting)
          (driver.halfRead chunks trace)).tryThen (ADSPortDriver.readChunk ads index)
          (.readChunk (index + 1) connecting) (.sumReadFailed connecting)
      else pausedAt pendingWrites (.sumReadDone connecting) (driver.halfRead chunks trace) := rfl

/-- The chunks that are left are read one after the other. -/
theorem arrives_readChunk {connecting : Bool} {driver : ADSPortDriver}
    (ready : driver.sumRead.initialized = true) {index : Nat}
    {chunks : SortedMap Nat (List ReadRequestChunk)} {trace : Trace}
    (reading : driver.sumRead.Reading ads driver.adsConnection driver.trace index chunks trace) :
    ScanArrives ads autoparam input
      (pausedAt pendingWrites (.readChunk index connecting) (driver.halfRead chunks trace))
      (pausedAt pendingWrites
        (if (ADSPortDriver.readSumRead ads driver).1 = 0 then .sumReadDone connecting
          else .sumReadFailed connecting)
        (ADSPortDriver.readSumRead ads driver).2) := by
  induction left : chunks.values.flatten.length - index generalizing index chunks trace with
  | zero =>
      have beyond : chunks.values.flatten.length ≤ index := by omega
      refine .head nofun ?_
      rw [scan_readChunk, if_neg (not_lt.mpr beyond), ADSPortDriver.readSumRead,
        reading.done ready beyond, if_pos rfl]
      exact .refl _
  | succ left ih =>
      have inside : index < chunks.values.flatten.length := by omega
      have found := List.getElem?_eq_getElem inside
      refine .head nofun ?_
      rw [scan_readChunk, if_pos inside]
      by_cases stays : (chunks.values.flatten[index].read ads driver.adsConnection trace).exit =
        none
      · obtain ⟨chunks', trace', reading', read_eq⟩ := reading.succ found stays
        have read : ADSPortDriver.readChunk ads index (driver.halfRead chunks trace) =
            (0, driver.halfRead chunks' trace') := by
          simp only [ADSPortDriver.readChunk, ADSPortDriver.halfRead, read_eq]
        rw [tryThen, pausedAt, read, if_pos rfl]
        refine ih reading' ?_
        rw [reading'.length_eq, ← reading.length_eq]
        omega
      · obtain ⟨read_eq, nonzero⟩ := reading.failed ready found stays
        have refused : (ADSPortDriver.readSumRead ads driver).1 ≠ 0 := nonzero
        have read : ADSPortDriver.readChunk ads index (driver.halfRead chunks trace) =
            ADSPortDriver.readSumRead ads driver := by
          simp only [ADSPortDriver.readChunk, ADSPortDriver.halfRead, read_eq,
            ADSPortDriver.readSumRead]
        rw [tryThen, pausedAt, read, if_neg refused, if_neg refused]
        exact .refl _

theorem performs_readSumRead (connecting : Bool) :
    ScanPerforms ads autoparam input pendingWrites (.sumRead connecting)
      (ADSPortDriver.readSumRead ads) (.sumReadDone connecting) (.sumReadFailed connecting) := by
  intro driver
  have starts : (pausedAt pendingWrites (.sumRead connecting) driver).scan ads autoparam input =
      pausedAt pendingWrites
        (if (ADSPortDriver.startSumRead driver).1 = 0 then .readChunk 0 connecting
          else .sumReadFailed connecting) driver := rfl
  refine .head nofun (starts ▸ ?_)
  by_cases ready : driver.sumRead.initialized = false
  · have refused : driver.sumRead.read ads driver.adsConnection driver.trace =
        (epicsadsInvCall, driver.sumRead, driver.trace) := if_pos ready
    rw [ADSPortDriver.startSumRead, if_pos ready, ADSPortDriver.readSumRead, refused]
    exact .refl _
  · rw [ADSPortDriver.startSumRead, if_neg ready, if_pos rfl]
    exact arrives_readChunk ads autoparam input pendingWrites (by simpa using ready) (.zero _ _ _)

theorem performs_scanRequests (due : Bool) :
    ScanPerforms ads autoparam input pendingWrites (if due then .readInfo else .sumRead false)
      (ADSPortDriver.scanRequests ads due) .publish .head := by
  have sumRead : ScanPerforms ads autoparam input pendingWrites (.sumRead false)
      (ADSPortDriver.doSumRead ads) .publish .head :=
    performs_onFailure ads autoparam input pendingWrites .request
      (performs_readSumRead ads autoparam input pendingWrites false)
  cases due with
  | false => exact sumRead
  | true =>
      have info : ScanPerforms ads autoparam input pendingWrites .readInfo
          (ADSPortDriver.readADSDeviceInfo ads) .readState .head :=
        performs_onFailure ads autoparam input pendingWrites .request
          (performs_section ads autoparam input pendingWrites nofun fun _ => rfl)
      have state : ScanPerforms ads autoparam input pendingWrites .readState
          (ADSPortDriver.readADSDeviceState ads) (.sumRead false) .head :=
        performs_onFailure ads autoparam input pendingWrites .request
          (performs_section ads autoparam input pendingWrites nofun fun _ => rfl)
      exact (info.andThen state).andThen sumRead

/-- `ADSConnect`, with the sections in which it opens the connection, resolves the variables and
reads them. -/
theorem performs_adsConnect :
    ScanPerforms ads autoparam input pendingWrites .connect (ADSPortDriver.adsConnect ads) .head
      (.deinitializeSumRead .reconnect) := by
  have sumRead : ScanPerforms ads autoparam input pendingWrites (.sumRead true)
      (ADSPortDriver.doSumRead ads) .head (.deinitializeSumRead .reconnect) :=
    performs_onFailure ads autoparam input pendingWrites .sumRead
      (performs_readSumRead ads autoparam input pendingWrites true)
  have initializes : ScanPerforms ads autoparam input pendingWrites .initializeSumRead
      ADSPortDriver.initializeSumRead (.sumRead true) (.deinitializeSumRead .reconnect) :=
    performs_section ads autoparam input pendingWrites nofun fun _ => rfl
  have writes : ScanPerforms ads autoparam input pendingWrites .resolveWriteVars
      (ADSPortDriver.resolveVariables ads ADSPortDriver.adsWriteVars) .initializeSumRead
      (.deinitializeSumRead .reconnect) :=
    performs_section ads autoparam input pendingWrites nofun fun _ => rfl
  have reads : ScanPerforms ads autoparam input pendingWrites .resolveReadVars
      (ADSPortDriver.resolveVariables ads ADSPortDriver.adsReadVars) .resolveWriteVars
      (.deinitializeSumRead .reconnect) :=
    performs_section ads autoparam input pendingWrites nofun fun _ => rfl
  have resolves := reads.andThen (writes.andThen (initializes.andThen sumRead))
  intro driver
  have begins : (pausedAt pendingWrites .connect driver).scan ads autoparam input =
      if driver.exitCalled then pausedAt pendingWrites (.deinitializeSumRead .reconnect) driver
      else if !driver.initialized then
        pausedAt pendingWrites (.deinitializeSumRead .reconnect) driver
      else if driver.adsConnection.isConnected then pausedAt pendingWrites .head driver
      else (pausedAt pendingWrites .connect driver).tryThen (ADSPortDriver.openConnection ads)
        .resolveReadVars (.deinitializeSumRead .reconnect) := rfl
  refine .head nofun (begins ▸ ?_)
  have refused : asynError ≠ 0 := by decide
  by_cases exits : driver.exitCalled = true
  · have connect_eq : ADSPortDriver.adsConnect ads driver = (asynError, driver) := if_pos exits
    rw [connect_eq, if_pos exits, if_neg refused]
    exact .refl _
  by_cases fresh : (!driver.initialized) = true
  · have connect_eq : ADSPortDriver.adsConnect ads driver = (asynError, driver) :=
      (if_neg exits).trans (if_pos fresh)
    rw [connect_eq, if_neg exits, if_pos fresh, if_neg refused]
    exact .refl _
  by_cases opened : driver.adsConnection.isConnected = true
  · have connect_eq : ADSPortDriver.adsConnect ads driver = (0, driver) :=
      (if_neg exits).trans ((if_neg fresh).trans (if_pos opened))
    rw [connect_eq, if_neg exits, if_neg fresh, if_pos opened, if_pos rfl]
    exact .refl _
  have connect_eq : ADSPortDriver.adsConnect ads driver =
      ADSPortDriver.connectAndResolve ads driver :=
    (if_neg exits).trans ((if_neg fresh).trans (if_neg opened))
  rw [connect_eq, if_neg exits, if_neg fresh, if_neg opened]
  by_cases zero : (ADSPortDriver.openConnection ads driver).1 = 0
  · have rest : ADSPortDriver.connectAndResolve ads driver = _ := Step.andThen_of_success zero _
    rw [rest, tryThen, if_pos (by exact zero)]
    exact resolves _
  · have rest : ADSPortDriver.connectAndResolve ads driver =
        ADSPortDriver.openConnection ads driver := if_pos zero
    rw [rest, tryThen, if_neg zero, if_neg (by exact zero)]
    exact .refl _

theorem arrives_performIOIntr (driver : ADSPortDriver) :
    ScanArrives ads autoparam input (pausedAt pendingWrites .publish driver)
      (pausedAt pendingWrites .head
        (driver.performIOIntr autoparam input.interrupts input.garbage)) := by
  refine .head nofun ?_
  have chosen : (pausedAt pendingWrites .publish driver).scan ads autoparam input =
      pausedAt pendingWrites (.publishing (driver.getInterruptVariables input.interrupts)) driver :=
    rfl
  rw [chosen, ADSPortDriver.performIOIntr]
  generalize driver.getInterruptVariables input.interrupts = adsVars
  induction adsVars generalizing driver with
  | nil => exact .head nofun (.refl _)
  | cons adsVar rest ih => exact .head nofun (ih _ rfl)

/-- From a head of the loop with an input and without other threads, the scan thread arrives at the
next head with what an iteration of `adsScan` makes of the driver, or leaves the loop. -/
theorem arrives_adsScan (driver : ADSPortDriver) :
    ScanArrives ads autoparam input
      ((pausedAt pendingWrites .head driver).scan ads autoparam input)
      (pausedAt pendingWrites (if driver.exitCalled then .exited else .head)
        (driver.adsScan ads autoparam input)) := by
  have begins : (pausedAt pendingWrites .head driver).scan ads autoparam input =
      if driver.exitCalled then
        pausedAt pendingWrites
          (if driver.adsConnection.isConnected then .deinitializeSumRead .exit else .exited) driver
      else if !driver.initialized then pausedAt pendingWrites .head driver
      else if driver.needsConnect then pausedAt pendingWrites .connect driver
      else pausedAt pendingWrites (if input.due then .readInfo else .sumRead false) driver := rfl
  have requested := performs_scanRequests ads autoparam input pendingWrites input.due driver
  rw [begins, ADSPortDriver.adsScan]
  generalize (if input.due = true then ScanPoint.readInfo else ScanPoint.sumRead false) =
    entry at requested ⊢
  split_ifs with exits opened fresh connects
  · exact arrives_adsDisconnect ads autoparam input pendingWrites .exit driver
  · exact .refl _
  · exact .refl _
  · have connected := performs_onFailure ads autoparam input pendingWrites .reconnect
      (performs_adsConnect ads autoparam input pendingWrites) driver
    simpa only [DisconnectCaller.resume, ite_self] using connected
  · dsimp only
    split_ifs with failed
    · rw [if_neg failed] at requested
      exact requested
    · rw [if_pos (not_not.mp failed)] at requested
      exact requested.trans (arrives_performIOIntr ads autoparam input pendingWrites _)

/-- The scan thread without other threads, with an input for each iteration. -/
abbrev sampledScan : Interleaved × ScanInput → ScanInput → Interleaved × ScanInput :=
  sampled (scan ads autoparam) AtLoopHead

/-- The inputs that the scan thread takes at the heads of the loop, one for each iteration that it
begins. -/
abbrev inputsAtHeads : Interleaved × ScanInput → List ScanInput → List ScanInput :=
  takenIn (scan ads autoparam) AtLoopHead

theorem exitCalled_adsScan (driver : ADSPortDriver) :
    (driver.adsScan ads autoparam input).exitCalled = driver.exitCalled := by
  obtain ⟨count, arrived, _⟩ := arrives_adsScan ads autoparam input [] driver
  have kept : ∀ count (state : Interleaved),
      ((scan ads autoparam · input)^[count] state).driver.exitCalled =
        state.driver.exitCalled := by
    intro count state
    induction count generalizing state with
    | zero => rfl
    | succ count ih =>
        rw [Function.iterate_succ_apply, ih]
        exact (state.section_scan ads autoparam input).exitCalled_eq
  have last := kept count ((pausedAt [] .head driver).scan ads autoparam input)
  rw [arrived] at last
  exact last.trans ((pausedAt [] .head driver).section_scan ads autoparam input).exitCalled_eq

theorem run_adsScan_exited {driver : ADSPortDriver} (exits : driver.exitCalled = true)
    (iterations : List ScanInput) :
    run (ADSPortDriver.adsScan ads autoparam) (driver.adsScan ads autoparam input) iterations =
      driver.adsScan ads autoparam input := by
  have closed : (driver.adsScan ads autoparam input).adsConnection.isConnected = false := by
    rw [ADSPortDriver.adsScan, if_pos exits]
    split_ifs with opened
    · rw [ADSPortDriver.adsDisconnect_eq, if_pos exits]
      rfl
    · simpa using opened
  have still := (exitCalled_adsScan ads autoparam input driver).trans exits
  induction iterations with
  | nil => rfl
  | cons next iterations ih =>
      have unchanged : (driver.adsScan ads autoparam input).adsScan ads autoparam next =
          driver.adsScan ads autoparam input := by
        rw [ADSPortDriver.adsScan, if_pos still, if_neg (by simp [closed])]
      rw [run_cons, unchanged, ih]

/-- The scan thread refines the loop of `adsScan`: for every library, whenever the thread is found
at a head, the driver is what whole iterations make of it, one with each input that was taken at a
head, and every run of whole iterations is one of the thread, with the same inputs taken unless it
leaves the loop at the first. -/
theorem sampledScan_refines (driver : ADSPortDriver) (held : ScanInput) :
    (∀ inputs, (run (sampledScan ads autoparam) (pausedAt pendingWrites .head driver, held)
        inputs).1.AtLoopHead →
      (run (sampledScan ads autoparam) (pausedAt pendingWrites .head driver, held) inputs).1 =
        pausedAt pendingWrites .head (run (ADSPortDriver.adsScan ads autoparam) driver
          (inputsAtHeads ads autoparam (pausedAt pendingWrites .head driver, held) inputs))) ∧
    ∀ iterations, ∃ inputs,
      (run (sampledScan ads autoparam) (pausedAt pendingWrites .head driver, held) inputs).1 =
        pausedAt pendingWrites (if driver.exitCalled ∧ iterations ≠ [] then .exited else .head)
          (run (ADSPortDriver.adsScan ads autoparam) driver iterations) ∧
      inputsAtHeads ads autoparam (pausedAt pendingWrites .head driver, held) inputs =
        if driver.exitCalled then iterations.take 1 else iterations := by
  constructor
  · intro inputs stopped
    refine sampled_sound (fun driver => (rfl : (pausedAt pendingWrites .head driver).AtLoopHead))
      ?_ stopped
    intro driver input
    have arrives := arrives_adsScan ads autoparam input pendingWrites driver
    split_ifs at arrives
    · exact .inr ⟨_, arrives, nofun, fun _ => rfl⟩
    · exact .inl arrives
  · intro iterations
    induction iterations generalizing driver held with
    | nil => exact ⟨[], by simp, by simp [Queues.produced]⟩
    | cons input iterations ih =>
        have arrives := arrives_adsScan ads autoparam input pendingWrites driver
        obtain ⟨inputs, reached, taken⟩ := arrives.exists_run held rfl
        by_cases exits : driver.exitCalled = true
        · refine ⟨inputs, ?_, ?_⟩
          · rw [reached, run_cons, run_adsScan_exited ads autoparam input exits, if_pos exits,
              if_pos ⟨exits, by simp⟩]
          · rw [if_pos exits, List.take_succ_cons, List.take_zero]
            exact taken
        · obtain ⟨later, reached', taken'⟩ := ih (driver.adsScan ads autoparam input) input
          rw [exitCalled_adsScan, if_neg (fun both => exits both.1)] at reached'
          rw [exitCalled_adsScan, if_neg exits] at taken'
          refine ⟨inputs ++ later, ?_, ?_⟩
          · rw [run_append, reached, if_neg exits, reached', run_cons,
              if_neg (fun both => exits both.1)]
          · refine (takenIn_append _ inputs later).trans ?_
            rw [taken, reached, if_neg exits, if_neg exits, List.singleton_append]
            exact congrArg _ taken'

end Interleaved

end AdsDriver
