import AdsDriver.Lifecycle

/-!
# What subscribers see of a lost connection

Only an iteration whose requests all succeed publishes.  When a request fails, the driver
disconnects and the loop goes on without publishing, so what was published before stays as it is;
polled records get an error from then on.
-/

namespace AdsDriver

open StatusSteps Runs EarlyExit

/-- The library accepts these requests, one after the other. -/
def Accepts (ads : Ads) : Trace → List AdsCall → Prop
  | _, [] => True
  | trace, call :: calls =>
      (ads trace call).rc = 0 ∧ Accepts ads (trace ++ [ads.event trace call]) calls

/-- A loop over stored chunks completes exactly when all requests are accepted. -/
theorem visit_read_iff (ads : Ads) (connection : Connection) {chunks : List ReadRequestChunk}
    (stored : ∀ chunk ∈ chunks, chunk.Stored) (trace : Trace) :
    (visit (ReadRequestChunk.read ads connection) trace chunks).exit = none ↔
      Accepts ads trace (chunks.map (ReadRequestChunk.readCall connection)) := by
  induction chunks generalizing trace with
  | nil => exact iff_of_true rfl trivial
  | cons chunk chunks ih =>
      obtain ⟨initialized, memory, in_buffer, _⟩ := stored chunk (by simp)
      obtain ⟨previous, read_eq⟩ :=
        ReadRequestChunk.read_of_stored initialized in_buffer ads connection trace rfl
      rw [List.map_cons, Accepts]
      by_cases accepted : (ads trace (chunk.readCall connection)).rc = 0
      · have next : (ReadRequestChunk.read ads connection trace chunk).exit = none := by
          simp [read_eq, accepted]
        rw [visit_cons_next next]
        simp only [accepted, true_and]
        rw [ih (fun other member => stored other (by simp [member])), read_eq]
      · have leaves : (ReadRequestChunk.read ads connection trace chunk).exit =
            some (.failed (ads trace (chunk.readCall connection)).rc) := by
          simp [read_eq, accepted]
        rw [visit_cons_exit leaves]
        exact iff_of_false (by simp) fun both => accepted both.1

/-- A sum-read succeeds exactly when the library accepts the request of every chunk. -/
theorem SumReadRequest.read_eq_zero_iff (ads : Ads) (connection : Connection)
    {request : SumReadRequest} (ready : request.initialized = true) (stored : request.AllStored)
    (trace : Trace) :
    (request.read ads connection trace).1 = 0 ↔
      Accepts ads trace (request.getChunks.map (ReadRequestChunk.readCall connection)) := by
  have each : ∀ chunk ∈ request.getChunks, chunk.Stored := by
    intro chunk member
    obtain ⟨port, in_set⟩ := SumReadRequest.mem_getChunks_iff.mp member
    exact stored port chunk in_set
  rw [← visit_read_iff ads connection each trace]
  have flat := SortedMap.visitAll_flatten (ReadRequestChunk.read ads connection) trace
    request.chunksByAdsPort
  rw [SumReadRequest.getChunks, flat]
  rcases loop : request.chunksByAdsPort.visitAll (ReadRequestChunk.read ads connection) trace with
    ⟨exit, state, chunks⟩
  cases exit with
  | none => simp [SumReadRequest.read, ready, loop]
  | some failure =>
      refine iff_of_false ?_ (by simp)
      intro zero
      obtain ⟨_, completes, _⟩ :=
        read_ok (Prod.ext zero rfl : request.read ads connection trace = (0, _, _))
      rw [loop] at completes
      cases congrArg Visited.exit completes

/-- The request for the device information. -/
def Connection.infoCall (connection : Connection) : AdsCall :=
  .readDeviceInfo connection.adsPort connection.remoteAmsNetId connection.deviceReadAdsPort

/-- The request for the device state. -/
def Connection.stateCall (connection : Connection) : AdsCall :=
  .readState connection.adsPort connection.remoteAmsNetId connection.deviceReadAdsPort

namespace ADSPortDriver

variable (ads : Ads)

/-- The requests that an iteration on an open connection sends if none fails. -/
def scanCalls (driver : ADSPortDriver) (due : Bool) : List AdsCall :=
  (if due then [driver.adsConnection.infoCall, driver.adsConnection.stateCall] else []) ++
    driver.sumRead.getChunks.map (ReadRequestChunk.readCall driver.adsConnection)

/-- A driver after a request that changed nothing else. -/
def asked (driver : ADSPortDriver) (call : AdsCall) : ADSPortDriver :=
  { driver with trace := driver.trace ++ [ads.event driver.trace call] }

@[simp]
theorem adsConnection_asked (driver : ADSPortDriver) (call : AdsCall) :
    (driver.asked ads call).adsConnection = driver.adsConnection := rfl

theorem Up.readADSDeviceInfo_eq {driver : ADSPortDriver} (up : driver.Up) :
    readADSDeviceInfo ads driver =
      if (ads driver.trace driver.adsConnection.infoCall).rc = 0 then
        (0, driver.asked ads driver.adsConnection.infoCall)
      else
        (adsRcToEpicsadsError (ads driver.trace driver.adsConnection.infoCall).rc,
          (driver.asked ads driver.adsConnection.infoCall).adsDisconnect ads) := by
  obtain ⟨info_eq, _⟩ := Connection.readDeviceInfo_eq ads up.opened driver.trace
    (rfl : ads.event driver.trace driver.adsConnection.infoCall = _)
  simp only [readADSDeviceInfo, Step.onFailure, readInfo, info_eq, Ads.reply_event, ne_eq,
    adsRcToEpicsadsError_eq_zero_iff]
  by_cases accepted : (ads driver.trace driver.adsConnection.infoCall).rc = 0
  · rw [if_neg (not_not_intro accepted), if_pos accepted, accepted]
    rfl
  · rw [if_pos accepted, if_neg accepted]
    rfl

theorem Up.readADSDeviceState_eq {driver : ADSPortDriver} (up : driver.Up) :
    readADSDeviceState ads driver =
      if (ads driver.trace driver.adsConnection.stateCall).rc = 0 then
        (0, driver.asked ads driver.adsConnection.stateCall)
      else
        (adsRcToEpicsadsError (ads driver.trace driver.adsConnection.stateCall).rc,
          (driver.asked ads driver.adsConnection.stateCall).adsDisconnect ads) := by
  obtain ⟨state_eq, _⟩ := Connection.readDeviceState_eq ads up.opened driver.trace
    (rfl : ads.event driver.trace driver.adsConnection.stateCall = _)
  simp only [readADSDeviceState, Step.onFailure, readState, state_eq, Ads.reply_event, ne_eq,
    adsRcToEpicsadsError_eq_zero_iff]
  by_cases accepted : (ads driver.trace driver.adsConnection.stateCall).rc = 0
  · rw [if_neg (not_not_intro accepted), if_pos accepted, accepted]
    rfl
  · rw [if_pos accepted, if_neg accepted]
    rfl

theorem Up.asked {driver : ADSPortDriver} (up : driver.Up) {call : AdsCall}
    (plain : (ads.event driver.trace call).Plain) : (driver.asked ads call).Up :=
  up.extend_plain plain

theorem Up.doSumRead_eq_zero_iff {driver : ADSPortDriver} (up : driver.Up) :
    (doSumRead ads driver).1 = 0 ↔ Accepts ads driver.trace (driver.scanCalls false) := by
  rw [doSumRead, Step.onFailure_status, scanCalls]
  exact SumReadRequest.read_eq_zero_iff ads driver.adsConnection up.sumRead_ready up.stored _

/-- The requests of an iteration succeed exactly when the library accepts them. -/
theorem Up.scanRequests_eq_zero_iff {driver : ADSPortDriver} (up : driver.Up) (due : Bool) :
    (scanRequests ads due driver).1 = 0 ↔ Accepts ads driver.trace (driver.scanCalls due) := by
  rw [scanRequests, Step.andThen_eq_zero_iff]
  cases due with
  | false =>
      simp only [Step.onlyIf, Bool.false_eq_true, if_false, true_and]
      exact up.doSumRead_eq_zero_iff ads
  | true =>
      have info_up := up.asked ads (⟨by simp [AdsEvent.opensPort, Connection.infoCall], rfl⟩ :
        (ads.event driver.trace driver.adsConnection.infoCall).Plain)
      have calls_eq : Accepts ads driver.trace (driver.scanCalls true) ↔
          (ads driver.trace driver.adsConnection.infoCall).rc = 0 ∧
            (ads (driver.asked ads driver.adsConnection.infoCall).trace
              driver.adsConnection.stateCall).rc = 0 ∧
            Accepts ads ((driver.asked ads driver.adsConnection.infoCall).asked ads
              driver.adsConnection.stateCall).trace (driver.scanCalls false) := Iff.rfl
      simp only [Step.onlyIf, if_true]
      rw [Step.andThen_eq_zero_iff, calls_eq, up.readADSDeviceInfo_eq ads]
      by_cases info : (ads driver.trace driver.adsConnection.infoCall).rc = 0
      · have info_zero : (readADSDeviceInfo ads driver).1 = 0 := by
          rw [up.readADSDeviceInfo_eq ads, if_pos info]
        rw [Step.andThen_of_success info_zero, up.readADSDeviceInfo_eq ads, if_pos info]
        dsimp only
        have state_eq := info_up.readADSDeviceState_eq ads
        rw [adsConnection_asked] at state_eq
        have state_up := info_up.asked ads
          (⟨by simp [AdsEvent.opensPort, Connection.stateCall], rfl⟩ : (ads.event
            (driver.asked ads driver.adsConnection.infoCall).trace
              driver.adsConnection.stateCall).Plain)
        rw [state_eq]
        by_cases state : (ads (driver.asked ads driver.adsConnection.infoCall).trace
            driver.adsConnection.stateCall).rc = 0
        · rw [if_pos state]
          have sum := state_up.doSumRead_eq_zero_iff ads
          simp only [info, state, true_and]
          exact sum
        · rw [if_neg state]
          simp only [adsRcToEpicsadsError_eq_zero_iff]
          exact iff_of_false (fun both => state both.1.2) fun all => state all.2.1
      · rw [if_neg info]
        simp only [adsRcToEpicsadsError_eq_zero_iff]
        exact iff_of_false (fun both => info both.1.1) fun all => info all.1

/-- A step that publishes nothing. -/
def Silent (step : Step ADSPortDriver) : Prop :=
  ∀ driver, (step driver).2.published = driver.published

theorem Silent.andThen {first second : Step ADSPortDriver} (head : Silent first)
    (tail : Silent second) : Silent (first.andThen second) := by
  intro driver
  unfold Step.andThen
  split_ifs
  · exact head driver
  · exact (tail _).trans (head driver)

theorem Silent.onlyIf {step : Step ADSPortDriver} (silent : Silent step)
    (condition : ADSPortDriver → Bool) : Silent (step.onlyIf condition) := by
  intro driver
  unfold Step.onlyIf
  split_ifs
  · exact silent driver
  · rfl

theorem published_adsDisconnect (driver : ADSPortDriver) :
    (driver.adsDisconnect ads).published = driver.published := by
  unfold adsDisconnect
  dsimp only
  split_ifs <;> rfl

theorem Silent.onFailure {step : Step ADSPortDriver} (silent : Silent step) :
    Silent (step.onFailure (adsDisconnect ads)) := by
  intro driver
  unfold Step.onFailure
  split_ifs
  · exact (published_adsDisconnect ads _).trans (silent driver)
  · exact silent driver

theorem silent_doSumRead : Silent (doSumRead ads) := Silent.onFailure ads fun _ => rfl

theorem silent_scanRequests (due : Bool) : Silent (scanRequests ads due) := by
  have info : Silent (readADSDeviceInfo ads) := Silent.onFailure ads fun _ => rfl
  have state : Silent (readADSDeviceState ads) := Silent.onFailure ads fun _ => rfl
  exact ((info.andThen state).onlyIf _).andThen (silent_doSumRead ads)

theorem silent_adsConnect : Silent (adsConnect ads) := by
  have resolve (list : ADSPortDriver → List VarId) : Silent (resolveVariables ads list) :=
    Silent.onlyIf (fun _ => rfl) _
  have connects : Silent (connectAndResolve ads) :=
    Silent.andThen (fun _ => rfl) <| (resolve _).andThen <| (resolve _).andThen <|
      Silent.andThen (fun _ => rfl) (silent_doSumRead ads)
  intro driver
  unfold adsConnect
  split_ifs
  · rfl
  · rfl
  · rfl
  · exact connects driver

/-- While the connection is closed, subscribers of a variable have an error. -/
def ShownAsLost (var : VarId) (driver : ADSPortDriver) : Prop :=
  driver.adsConnection.isConnected = false →
    ∀ result ∈ driver.published var, result.status = .error

/-- An iteration that starts on an open connection, with a success published for the variable, has
all its requests accepted. -/
def Undisturbed (var : VarId) (driver : ADSPortDriver) (input : ScanInput) : Prop :=
  driver.adsConnection.isConnected = true →
    (∃ result ∈ driver.published var, result.status = .success) →
      Accepts ads driver.trace (driver.scanCalls input.due)

variable (autoparam : Autoparam)

/-- From one head of the loop to the next. -/
theorem AtHead.shownAsLost_step {driver : ADSPortDriver} (at_head : driver.AtHead)
    (input : ScanInput) {var : VarId} (shown : ShownAsLost var driver) :
    ShownAsLost var (driver.adsScan ads autoparam input) ↔ Undisturbed ads var driver input := by
  have consistent := at_head.toConsistent
  unfold ADSPortDriver.adsScan
  rw [if_neg (by simp [consistent.running]), if_neg (by simp [consistent.initialized])]
  rcases at_head with up | down
  · rw [if_neg (by simp [up.needsConnect])]
    have requests := ends_scanRequests ads input.due driver up
    have accepted := up.scanRequests_eq_zero_iff ads input.due
    have silent := silent_scanRequests ads input.due driver
    dsimp only
    by_cases failed : (scanRequests ads input.due driver).1 = 0
    · have after := (requests.1 failed).performIOIntr autoparam input.interrupts input.garbage
      rw [if_neg (not_not_intro failed)]
      refine iff_of_true (fun closed => ?_) fun _ _ => accepted.mp failed
      exact absurd (after.opened.symm.trans closed) Bool.true_eq_false_eq_False
    · have after := requests.2 failed
      rw [if_pos failed]
      constructor
      · intro shown_after _ ⟨result, published, success⟩
        have error := shown_after after.closed result (by rwa [silent])
        exact absurd (success.symm.trans error) (by decide)
      · intro undisturbed _ result published
        rw [silent] at published
        cases status : result.status with
        | error => rfl
        | success =>
            have all := undisturbed up.opened ⟨result, published, status⟩
            exact absurd (accepted.mpr all) failed
  · rw [if_pos down.needsConnect]
    have silent := Silent.onFailure ads (silent_adsConnect ads) driver
    refine iff_of_true ?_ ?_
    · intro _ result published
      rw [silent] at published
      exact shown down.closed result published
    · intro opened
      exact absurd (down.closed.symm.trans opened) Bool.false_ne_true

/-- In every run, polled records get an error whenever the connection is closed; and subscribers
of a variable have an error whenever the connection is closed exactly when no iteration that
starts with a success published for the variable loses the connection. -/
theorem shownAsLost_iff {ipAddr : Str} {amsNetId : AmsNetId}
    {sumBufferSize deviceReadAdsPort : UInt16} {heap : Heap} {driver : ADSPortDriver}
    (constructed : new ipAddr amsNetId sumBufferSize deviceReadAdsPort heap = some driver)
    (links : List RecordLink) (interrupts : List Nat)
    (hooked : ((run addRecord driver links).initHook interrupts).initialized = true)
    (var : VarId) (inputs : List ScanInput) :
    Throughout (ADSPortDriver.adsScan ads autoparam)
        (fun state => state.adsConnection.isConnected = false →
          ∀ (handler : ReadHandler) (mask : BitVec 32) (garbage : Nat → UInt8),
            (handler.run autoparam state.adsConnection state.sumRead.buffers (state.heap.vars var)
              mask garbage).1.status = .error)
        ((run addRecord driver links).initHook interrupts) inputs ∧
      (Throughout (ADSPortDriver.adsScan ads autoparam) (ShownAsLost var)
          ((run addRecord driver links).initHook interrupts) inputs ↔
        EachMeets (ADSPortDriver.adsScan ads autoparam) (Undisturbed ads var)
          ((run addRecord driver links).initHook interrupts) inputs) := by
  have created := (created_new constructed).addRecords links
  have down := created.initHook hooked
  refine ⟨fun front _ closed handler mask garbage =>
    handler.run_disconnected autoparam closed _ _ mask garbage, ?_⟩
  have kept : ∀ state input, AtHead state → True →
      AtHead (ADSPortDriver.adsScan ads autoparam state input) :=
    fun state input at_head _ => at_head.adsScan ads autoparam input
  have each : ∀ state input, AtHead state → True → ShownAsLost var state →
      (ShownAsLost var (ADSPortDriver.adsScan ads autoparam state input) ↔
        Undisturbed ads var state input) :=
    fun state input at_head _ shown => at_head.shownAsLost_step ads autoparam input shown
  have initially : ShownAsLost var ((run addRecord driver links).initHook interrupts) := by
    intro _ result published
    rw [created.unpublished_initHook interrupts] at published
    cases published
  exact throughout_iff kept each (.inr down) initially fun _ _ _ => trivial

/-- A library that accepts the requests of the first iterations of the sample driver, and then has
lost its route. -/
def losingAds : Ads := fun trace call =>
  if trace.length < 9 then SumReadRequest.sevensAds trace call else { rc := 1861 }

/-- An iteration in which only a sum-read is due. -/
def sumReadInput : ScanInput := ⟨false, [0, 2], fun _ _ => 0⟩

theorem losing_run :
    (run (ADSPortDriver.adsScan losingAds .sample) sampleHooked
        [sumReadInput, sumReadInput, sumReadInput]).adsConnection.isConnected = false ∧
      ((run (ADSPortDriver.adsScan losingAds .sample) sampleHooked
        [sumReadInput, sumReadInput, sumReadInput]).published 0).map Result.status =
        some .success := by
  decide

theorem not_shownAsLost {driver : ADSPortDriver} {var : VarId}
    (closed : driver.adsConnection.isConnected = false)
    (published : (driver.published var).map Result.status = some .success) :
    ¬ ShownAsLost var driver := by
  intro shown
  obtain ⟨result, member, status⟩ := Option.map_eq_some_iff.mp published
  exact absurd (status.symm.trans (shown closed result member)) (by decide)

theorem adsScan_keeps_success :
    ¬ Throughout (ADSPortDriver.adsScan losingAds .sample) (ShownAsLost 0) sampleHooked
      [sumReadInput, sumReadInput, sumReadInput] :=
  fun shown => not_shownAsLost losing_run.1 losing_run.2 (shown _ (List.prefix_refl _))

/-- The last iteration of that run is the one that does not meet the condition. -/
theorem shownAsLost_iff_sample :
    ¬ EachMeets (ADSPortDriver.adsScan losingAds .sample) (Undisturbed losingAds 0) sampleHooked
      [sumReadInput, sumReadInput, sumReadInput] := by
  have both := shownAsLost_iff losingAds .sample
    (rfl : new _ [10, 0, 0, 1, 1, 1] 2 851 ⟨SumReadRequest.sampleVars, []⟩ = some sampleDriver)
    sampleLinks [0, 2] (by decide) 0 [sumReadInput, sumReadInput, sumReadInput]
  intro meets
  exact not_shownAsLost losing_run.1 losing_run.2 (both.2.mpr meets _ (List.prefix_refl _))

end ADSPortDriver

end AdsDriver
