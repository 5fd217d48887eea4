import AdsDriver.HandleLog

/-!
# Ports and routes

`connect` first adds a route and then opens a port, and `disconnect` gives both back.  Whether there
is a connection is told by the port alone, so a route that was added before the port could not be
opened is never removed.
-/

namespace AdsDriver

open ByteMemory StatusSteps Runs

/-- The open ports after an event. -/
def AdsEvent.portsAfter (event : AdsEvent) (ports : List Nat) : List Nat :=
  match event.call with
  | .portOpen => if event.reply.port = 0 then ports else ports ++ [event.reply.port]
  | .portClose port => ports.erase port
  | _ => ports

/-- The references to the route after an event. -/
def AdsEvent.routesAfter (event : AdsEvent) (references : Int) : Int :=
  match event.call with
  | .addRoute _ _ => if event.reply.rc = 0 then references + 1 else references
  | .delRoute _ => references - 1
  | _ => references

/-- The ports that have been opened and not yet closed. -/
def openPorts (trace : Trace) : List Nat :=
  trace.foldl (fun ports event => event.portsAfter ports) []

/-- The references to the route that have been added and not yet removed. -/
def routeReferences (trace : Trace) : Int :=
  trace.foldl (fun references event => event.routesAfter references) 0

@[simp]
theorem openPorts_append (trace events : Trace) :
    openPorts (trace ++ events) =
      events.foldl (fun ports event => event.portsAfter ports) (openPorts trace) :=
  List.foldl_append

@[simp]
theorem routeReferences_append (trace events : Trace) :
    routeReferences (trace ++ events) =
      events.foldl (fun references event => event.routesAfter references) (routeReferences trace) :=
  List.foldl_append

theorem accounts_append {trace events : Trace}
    (off_link : ∀ event ∈ events, event.call.onLink = false) :
    openPorts (trace ++ events) = openPorts trace ∧
      routeReferences (trace ++ events) = routeReferences trace := by
  rw [openPorts_append, routeReferences_append]
  induction events using List.reverseRecOn with
  | nil => exact ⟨rfl, rfl⟩
  | append_singleton events event ih =>
      obtain ⟨ports_eq, routes_eq⟩ := ih fun other member => off_link other (by simp [member])
      have last : event.call.onLink = false := off_link event (by simp)
      rw [List.foldl_append, List.foldl_append, ports_eq, routes_eq]
      cases called : event.call <;>
        simp_all [AdsEvent.portsAfter, AdsEvent.routesAfter, AdsCall.onLink]

namespace ADSPortDriver

/-- A section keeps the connection and neither opens nor closes anything. -/
structure OffLink (before after : ADSPortDriver) : Prop where
  connection_eq : after.adsConnection = before.adsConnection
  sent : ∃ events, after.trace = before.trace ++ events ∧
    ∀ event ∈ events, event.call.onLink = false

theorem OffLink.refl (driver : ADSPortDriver) : driver.OffLink driver :=
  ⟨rfl, [], by simp, by simp⟩

theorem Quiet.offLink {before after : ADSPortDriver} (quiet : before.Quiet after) :
    before.OffLink after := by
  obtain ⟨events, trace_eq, ordinary⟩ := quiet.sent
  exact ⟨quiet.connection_eq, events, trace_eq,
    fun event member => (ordinary event member).off_link⟩

variable (ads : Ads)

theorem offLink_resolveVariables (list : ADSPortDriver → List VarId) (driver : ADSPortDriver) :
    driver.OffLink (resolveVariables ads list driver).2 := by
  unfold resolveVariables Step.onlyIf Connection.resolveVariables
  dsimp only
  split_ifs
  · exact .refl driver
  · exact .refl driver
  · obtain ⟨events, trace_eq, calls, _⟩ := Connection.resolveLoop_spec ads
      driver.adsConnection (list driver) 0 driver.heap.vars driver.trace rfl
    refine ⟨rfl, events, trace_eq, fun event member => ?_⟩
    obtain ⟨addr, asked⟩ := calls event member
    rw [asked]
    rfl
  · exact .refl driver

end ADSPortDriver

/-- The loop of `unresolve_variables` only releases handles. -/
theorem Connection.unresolveLoopEntries_call (ads : Ads) (connection : Connection)
    (ids : List VarId) (adsIsConnected : Bool) (vars : Vars) (trace : Trace) :
    ∀ event ∈ (connection.unresolveLoopEntries ads ids adsIsConnected vars trace).filterMap
      LogEntry.event?, ∃ addr, event.call = connection.releaseCall addr := by
  induction ids generalizing adsIsConnected vars trace with
  | nil => simp [unresolveLoopEntries]
  | cons var rest ih =>
      intro event member
      rw [unresolveLoopEntries, List.filterMap_append, List.mem_append] at member
      rcases member with first | later
      · unfold ADSVariable.unresolveEntries at first
        split_ifs at first
        · simp at first
        · obtain rfl : event = _ := by simpa [LogEntry.event?] using first
          exact ⟨_, rfl⟩
        · simp [LogEntry.event?] at first
      · exact ih _ _ _ event later

namespace ADSPortDriver

variable (ads : Ads)

theorem offLink_unresolveVariables (driver : ADSPortDriver) (adsVariables : List VarId) :
    driver.OffLink (driver.unresolveVariables ads adsVariables) := by
  refine ⟨rfl, _, driver.unresolveVariables_trace ads adsVariables, fun event member => ?_⟩
  obtain ⟨addr, asked⟩ :=
    driver.adsConnection.unresolveLoopEntries_call ads _ _ _ _ event member
  rw [asked]
  rfl

end ADSPortDriver

namespace Interleaved

variable (ads : Ads) (autoparam : Autoparam) (toFloat32 : BitVec 64 → BitVec 32)

/-- Whether the scan thread opens, closes or resets the connection. -/
def changesLink (state : Interleaved) : ThreadStep → Bool
  | .scan _ =>
      match state.scanPoint with
      | .connect | .disconnect _ | .setDisconnected _ => true
      | _ => false
  | _ => false

theorem offLink_step {state : Interleaved} {taken : ThreadStep}
    (off_link : state.changesLink taken = false) :
    state.driver.OffLink (state.step ads autoparam toFloat32 taken).driver := by
  cases taken with
  | scan input =>
      cases point : state.scanPoint with
      | connect => simp [changesLink, point] at off_link
      | disconnect caller => simp [changesLink, point] at off_link
      | setDisconnected caller => simp [changesLink, point] at off_link
      | resolveReadVars =>
          simp only [step, scan, point, tryThen]
          exact state.driver.offLink_resolveVariables ads _
      | resolveWriteVars =>
          simp only [step, scan, point, tryThen]
          exact state.driver.offLink_resolveVariables ads _
      | unresolveReadVars caller =>
          simp only [step, scan, point, doThen]
          exact state.driver.offLink_unresolveVariables ads _
      | unresolveWriteVars caller =>
          simp only [step, scan, point, doThen]
          exact state.driver.offLink_unresolveVariables ads _
      | _ => exact (quiet_scan ads autoparam (by rw [point]; rfl) input).offLink
  | poll adsVar registration request =>
      unfold step
      dsimp only
      split_ifs
      · exact (state.quiet_poll autoparam adsVar registration request).offLink
      · exact .refl _
  | checkWrite adsVar registration request =>
      unfold step
      dsimp only
      split_ifs
      · exact (state.quiet_checkWrite autoparam toFloat32 adsVar registration request).offLink
      · exact .refl _
  | sendWrite index =>
      unfold step sendWrite
      dsimp only
      split
      · exact .refl _
      · exact ⟨rfl, [_], rfl, by simp [ADSVariable.writeCall, AdsCall.onLink]⟩
  | shutDown => exact ⟨rfl, [], by simp [step], by simp⟩

end Interleaved

namespace ADSPortDriver

/-- One port and one reference to the route while there is a connection, and none otherwise. -/
@[mk_iff]
structure LinkBalanced (driver : ADSPortDriver) : Prop where
  ports : (openPorts driver.trace).length = if driver.adsConnection.isConnected then 1 else 0
  routes : routeReferences driver.trace = if driver.adsConnection.isConnected then 1 else 0

/-- The open ports are those of the connection. -/
def PortHeld (driver : ADSPortDriver) : Prop :=
  openPorts driver.trace =
    if driver.adsConnection.isConnected then [driver.adsConnection.adsPort] else []

theorem OffLink.accounts {before after : ADSPortDriver} (off_link : before.OffLink after) :
    openPorts after.trace = openPorts before.trace ∧
      routeReferences after.trace = routeReferences before.trace := by
  obtain ⟨events, trace_eq, kept⟩ := off_link.sent
  rw [trace_eq]
  exact accounts_append kept

/-- Whenever the library adds the route, it opens a port as well. -/
def RouteGetsPort (ads : Ads) (driver : ADSPortDriver) : Prop :=
  let added := ads.event driver.trace (.addRoute driver.amsNetId driver.ipAddr)
  added.reply.rc = 0 → (ads.event (driver.trace ++ [added]) .portOpen).reply.port ≠ 0

variable (ads : Ads)

theorem openConnection_accounts {driver : ADSPortDriver} (held : driver.PortHeld)
    (closed : driver.adsConnection.isConnected = false) :
    (openConnection ads driver).2.PortHeld ∧ (driver.LinkBalanced →
      ((openConnection ads driver).2.LinkBalanced ↔ driver.RouteGetsPort ads)) := by
  have no_ports : openPorts driver.trace = [] := by simpa [PortHeld, closed] using held
  simp only [openConnection, RouteGetsPort, Connection.connect, PortHeld, linkBalanced_iff, closed,
    Ads.reply_event]
  by_cases added : (ads driver.trace (.addRoute driver.amsNetId driver.ipAddr)).rc = 0
  · by_cases opened : (ads (driver.trace ++ [ads.event driver.trace
        (.addRoute driver.amsNetId driver.ipAddr)]) .portOpen).port = 0
    · simp +contextual [added, opened, closed, no_ports, AdsEvent.portsAfter, AdsEvent.routesAfter]
    · simp +contextual [added, opened, no_ports, AdsEvent.portsAfter, AdsEvent.routesAfter,
        Connection.isConnected]
  · simp [added, closed, no_ports, AdsEvent.portsAfter, AdsEvent.routesAfter]

theorem disconnect_accounts {driver : ADSPortDriver} (held : driver.PortHeld) :
    (driver.disconnect ads).PortHeld ∧
      (driver.LinkBalanced → (driver.disconnect ads).LinkBalanced) ∧
      (driver.disconnect ads).adsConnection.isConnected = false := by
  simp only [disconnect, Connection.disconnect, PortHeld, linkBalanced_iff] at held ⊢
  cases connected : driver.adsConnection.isConnected with
  | false => simp_all
  | true =>
      rw [connected, if_pos rfl] at held
      simp +contextual [held, AdsEvent.portsAfter, AdsEvent.routesAfter, Connection.isConnected,
        Connection.setDisconnected]

theorem setDisconnected_accounts {driver : ADSPortDriver} (held : driver.PortHeld)
    (closed : driver.adsConnection.isConnected = false) :
    driver.setDisconnected.PortHeld ∧
      (driver.LinkBalanced → driver.setDisconnected.LinkBalanced) := by
  have still_closed : driver.setDisconnected.adsConnection.isConnected = false := rfl
  have same_trace : driver.setDisconnected.trace = driver.trace := rfl
  simp only [PortHeld, linkBalanced_iff, closed, still_closed, same_trace] at held ⊢
  exact ⟨held, id⟩

end ADSPortDriver

namespace Interleaved

variable (ads : Ads) (autoparam : Autoparam) (toFloat32 : BitVec 64 → BitVec 32)

/-- What the balance rests on: the port is known, and `set_disconnected` finds the connection
closed. -/
structure Accounted (state : Interleaved) : Prop where
  held : state.driver.PortHeld
  closed : ∀ caller, state.scanPoint = .setDisconnected caller →
    state.driver.adsConnection.isConnected = false

/-- `set_disconnected` is only called after `disconnect`. -/
theorem scanPoint_setDisconnected {state : Interleaved} {input : ScanInput}
    {caller : DisconnectCaller}
    (next : (state.scan ads autoparam input).scanPoint = .setDisconnected caller) :
    state.scanPoint = .disconnect caller := by
  cases point : state.scanPoint with
  | disconnect other =>
      simp only [scan, point, doThen, ScanPoint.setDisconnected.injEq] at next
      rw [next]
  | setDisconnected other =>
      simp only [scan, point, doThen] at next
      cases other <;> cases next
  | deinitializeSumRead other =>
      simp only [scan, point, doThen] at next
      split_ifs at next
      cases other <;> cases next
  | publishing left =>
      cases left <;> simp [scan, point, doThen, goTo] at next
  | exited => simp [scan, point] at next
  | _ =>
      simp only [scan, point, tryThen, doThen, goTo, ScanPoint.sumReadFailed,
        ScanPoint.sumReadDone] at next
      first
        | cases next
        | split_ifs at next <;> simp_all

/-- A step keeps the ports known, and the accounts balanced exactly when a route that it adds gets a
port. -/
theorem step_accounts {state : Interleaved} (accounted : state.Accounted) (taken : ThreadStep) :
    (state.step ads autoparam toFloat32 taken).driver.PortHeld ∧ (state.driver.LinkBalanced →
      ((state.step ads autoparam toFloat32 taken).driver.LinkBalanced ↔
        (state.connects taken = true → state.driver.RouteGetsPort ads))) := by
  have off_link {after : ADSPortDriver} (off_link : state.driver.OffLink after)
      (not_connects : state.connects taken = false) :
      after.PortHeld ∧ (state.driver.LinkBalanced → (after.LinkBalanced ↔
        (state.connects taken = true → state.driver.RouteGetsPort ads))) := by
    obtain ⟨ports_eq, routes_eq⟩ := off_link.accounts
    have held := accounted.held
    unfold ADSPortDriver.PortHeld at held ⊢
    rw [ADSPortDriver.linkBalanced_iff, ADSPortDriver.linkBalanced_iff, ports_eq, routes_eq,
      off_link.connection_eq, not_connects]
    exact ⟨held, fun balanced => iff_of_true balanced (by simp)⟩
  by_cases changes : state.changesLink taken = false
  · refine off_link (offLink_step ads autoparam toFloat32 changes) ?_
    cases taken with
    | scan input => cases point : state.scanPoint <;> simp_all [connects, changesLink]
    | _ => rfl
  · cases taken with
    | scan input =>
        cases point : state.scanPoint with
        | connect =>
            rw [step, scan_connect ads autoparam point]
            split_ifs with connects
            · obtain ⟨_, _, _, closed⟩ := (state.connects_scan_iff input).mp connects
              simpa [connects] using ADSPortDriver.openConnection_accounts ads accounted.held closed
            · exact off_link (.refl _) (by simpa using connects)
        | disconnect caller =>
            obtain ⟨held, balanced, _⟩ := ADSPortDriver.disconnect_accounts ads accounted.held
            simp only [step, scan, point, doThen]
            exact ⟨held, fun before => iff_of_true (balanced before) (by simp [connects, point])⟩
        | setDisconnected caller =>
            obtain ⟨held, balanced⟩ := ADSPortDriver.setDisconnected_accounts accounted.held
              (accounted.closed caller point)
            simp only [step, scan, point, doThen]
            exact ⟨held, fun before => iff_of_true (balanced before) (by simp [connects, point])⟩
        | _ => simp [changesLink, point] at changes
    | _ => simp [changesLink] at changes

theorem Accounted.step {state : Interleaved} (accounted : state.Accounted) (taken : ThreadStep) :
    (state.step ads autoparam toFloat32 taken).Accounted where
  held := (step_accounts ads autoparam toFloat32 accounted taken).1
  closed caller next := by
    have others
        (same_point : (state.step ads autoparam toFloat32 taken).scanPoint = state.scanPoint)
        (off_link : state.changesLink taken = false) :
        (state.step ads autoparam toFloat32 taken).driver.adsConnection.isConnected = false := by
      rw [(offLink_step ads autoparam toFloat32 off_link).connection_eq]
      exact accounted.closed caller (same_point.symm.trans next)
    cases taken with
    | scan input =>
        have point := scanPoint_setDisconnected ads autoparam next
        simp only [Interleaved.step, scan, point, doThen]
        exact (ADSPortDriver.disconnect_accounts ads accounted.held).2.2
    | poll adsVar registration request =>
        exact others (by unfold Interleaved.step; dsimp only; split_ifs <;> rfl) rfl
    | checkWrite adsVar registration request =>
        exact others (by unfold Interleaved.step; dsimp only; split_ifs <;> rfl) rfl
    | sendWrite index =>
        exact others (by unfold Interleaved.step sendWrite; dsimp only; split <;> rfl) rfl
    | shutDown => exact others rfl rfl

/-- In every run of the threads, and whatever the library returns, there is always one port and one
reference to the route while there is a connection, and none otherwise, exactly when the library
opens a port each time that it has added the route. -/
theorem links_balanced_iff {ipAddr : Str} {amsNetId : AmsNetId}
    {sumBufferSize deviceReadAdsPort : UInt16} {heap : Heap} {driver : ADSPortDriver}
    (constructed : ADSPortDriver.new ipAddr amsNetId sumBufferSize deviceReadAdsPort heap =
      some driver) (links : List RecordLink) (interrupts : List Nat) (taken : List ThreadStep) :
    Throughout (step ads autoparam toFloat32) (fun state => state.driver.LinkBalanced)
        (start driver links interrupts) taken ↔
      EachMeets (step ads autoparam toFloat32)
        (fun state taken => state.connects taken = true → state.driver.RouteGetsPort ads)
        (start driver links interrupts) taken := by
  have hooked := hooked_start constructed links interrupts
  have accounted : (start driver links interrupts).Accounted := by
    refine ⟨?_, fun caller point => by cases point⟩
    simp [ADSPortDriver.PortHeld, hooked.no_events, hooked.closed, openPorts]
  have balanced : (start driver links interrupts).driver.LinkBalanced := by
    rw [ADSPortDriver.linkBalanced_iff]
    simp [hooked.no_events, hooked.closed, openPorts, routeReferences]
  exact @throughout_iff _ _ (step ads autoparam toFloat32) Accounted _ (fun _ _ => True) _
    (fun state taken accounted _ => accounted.step ads autoparam toFloat32 taken)
    (fun state taken accounted _ => (step_accounts ads autoparam toFloat32 accounted taken).2) _
    accounted balanced _ (fun _ _ _ => trivial)

/-- A library that adds every route and opens no port. -/
def portlessAds : Ads := fun _ _ => {}

/-- While ports are opened, the accounts of the sample driver are balanced. -/
theorem links_balanced_iff_sample :
    Throughout (step SumReadRequest.sevensAds .sample fun _ => 0)
      (fun state => state.driver.LinkBalanced)
      (start ADSPortDriver.sampleDriver ADSPortDriver.sampleLinks [0, 2])
      [.scan ADSPortDriver.sampleInput, .scan ADSPortDriver.sampleInput] := by
  refine (links_balanced_iff SumReadRequest.sevensAds .sample (fun _ => 0)
    (rfl : ADSPortDriver.new _ [10, 0, 0, 1, 1, 1] 2 851 ⟨SumReadRequest.sampleVars, []⟩ =
      some ADSPortDriver.sampleDriver) ADSPortDriver.sampleLinks [0, 2] _).mpr ?_
  intro front taken _ _ _ no_port
  simp [SumReadRequest.sevensAds, SumReadRequest.answering] at no_port

/-- Where the port cannot be opened, each attempt to connect leaves another reference to the
route. -/
theorem connect_leaks_routes :
    ¬ Throughout (step portlessAds .sample fun _ => 0) (fun state => state.driver.LinkBalanced)
        (start ADSPortDriver.sampleDriver ADSPortDriver.sampleLinks [0, 2])
        (List.replicate 8 (.scan ADSPortDriver.sampleInput)) ∧
      routeReferences (run (step portlessAds .sample fun _ => 0)
        (start ADSPortDriver.sampleDriver ADSPortDriver.sampleLinks [0, 2])
        (List.replicate 8 (.scan ADSPortDriver.sampleInput))).driver.trace = 3 := by
  refine ⟨fun balanced => ?_, by decide⟩
  have first := balanced (List.replicate 2 (.scan ADSPortDriver.sampleInput))
    ⟨List.replicate 6 (.scan ADSPortDriver.sampleInput), rfl⟩
  exact absurd first.routes (by decide)

end Interleaved

end AdsDriver
