import AdsDriver.Data.Protocols
import AdsDriver.Recovery
import AdsDriver.Resolution
import AdsDriver.WriteOrder

/-!
# The protocol of a session

Seen from the library, the scan thread opens a route and a port, looks names up, and then asks for
the chunks of the sum-read one after the other, again and again, and for the info and the state of
the device between two passes.  When a request has failed it gives handles back, closes the port and
the route and starts over; the other names of a list are still looked up.  Every run of the threads
keeps this protocol, and sends nothing else but the data of writes.
-/

namespace AdsDriver

open EarlyExit StatusSteps Runs Protocols

/-- Where a session is. -/
inductive Session
  /-- There is no session. -/
  | idle
  /-- The route has been added. -/
  | routed
  /-- Names are looked up, and all have been found so far. -/
  | lookingUp (connection : Connection)
  /-- Names are looked up, and some have not been found. -/
  | missing (connection : Connection)
  /-- Some chunks have been read in this pass. -/
  | reading (connection : Connection) (index : Nat)
  /-- The info of the device has been read. -/
  | device (connection : Connection)
  /-- A request has failed. -/
  | closing (connection : Connection)
  /-- The port has been closed. -/
  | closed (connection : Connection)

/-- What does not change between sessions. -/
structure Station where
  amsNetId : AmsNetId
  ipAddr : Str
  deviceReadAdsPort : UInt16
  chunks : List ReadRequestChunk

/-- Calls that ask the device for something. -/
def AdsCall.asksDevice : AdsCall → Bool
  | .readWrite _ _ _ _ _ _ _ _ | .readDeviceInfo _ _ _ | .readState _ _ _ => true
  | _ => false

/-- Calls that read the device, as opposed to those that look names up. -/
def AdsCall.readsDevice : AdsCall → Bool
  | .readWrite _ _ _ group _ _ _ _ => group = adsigrpSumupRead
  | .readDeviceInfo _ _ _ | .readState _ _ _ => true
  | _ => false

/-- The port that a call goes through, if it needs one. -/
def AdsCall.throughPort : AdsCall → Option Nat
  | .addRoute _ _ | .delRoute _ | .portOpen => none
  | .portClose port | .readWrite port _ _ _ _ _ _ _ | .write port _ _ _ _ _
  | .readDeviceInfo port _ _ | .readState port _ _ => some port

namespace Session

/-- The moves of a session, with the event that shows each, if any. -/
inductive Next (station : Station) : Session → Option AdsEvent → Session → Prop
  | routeRefused {event : AdsEvent} (asked : event.call = .addRoute station.amsNetId station.ipAddr)
      (refused : event.reply.rc ≠ 0) : Next station .idle (some event) .idle
  | routed {event : AdsEvent} (asked : event.call = .addRoute station.amsNetId station.ipAddr)
      (accepted : event.reply.rc = 0) : Next station .idle (some event) .routed
  | portRefused {event : AdsEvent} (asked : event.call = .portOpen)
      (refused : event.reply.port = 0) : Next station .routed (some event) .idle
  | opened {event : AdsEvent} (asked : event.call = .portOpen) (accepted : event.reply.port ≠ 0) :
      Next station .routed (some event)
        (.lookingUp ⟨station.amsNetId, event.reply.port, station.deviceReadAdsPort⟩)
  | found {connection : Connection} {address : ADSAddress} {event : AdsEvent}
      (asked : connection.AsksHandle address event.call) (accepted : event.reply.rc = 0) :
      Next station (.lookingUp connection) (some event) (.lookingUp connection)
  | notFound {connection : Connection} {address : ADSAddress} {event : AdsEvent}
      (asked : connection.AsksHandle address event.call) (refused : event.reply.rc ≠ 0) :
      Next station (.lookingUp connection) (some event) (.missing connection)
  | goesOn {connection : Connection} {address : ADSAddress} {event : AdsEvent}
      (asked : connection.AsksHandle address event.call) :
      Next station (.missing connection) (some event) (.missing connection)
  | allFound (connection : Connection) :
      Next station (.lookingUp connection) none (.reading connection 0)
  | givesUp (connection : Connection) :
      Next station (.missing connection) none (.closing connection)
  | chunkRead {connection : Connection} {index : Nat} {chunk later : ReadRequestChunk}
      {event : AdsEvent} (in_turn : station.chunks[index]? = some chunk)
      (same : chunk.SameLayout later) (asked : event.call = later.readCall connection)
      (accepted : event.reply.rc = 0) :
      Next station (.reading connection index) (some event) (.reading connection (index + 1))
  | chunkRefused {connection : Connection} {index : Nat} {chunk later : ReadRequestChunk}
      {event : AdsEvent} (in_turn : station.chunks[index]? = some chunk)
      (same : chunk.SameLayout later) (asked : event.call = later.readCall connection)
      (refused : event.reply.rc ≠ 0) :
      Next station (.reading connection index) (some event) (.closing connection)
  | nextPass (connection : Connection) :
      Next station (.reading connection station.chunks.length) none (.reading connection 0)
  | infoRead {connection : Connection} {event : AdsEvent}
      (asked : event.call = connection.infoCall) (accepted : event.reply.rc = 0) :
      Next station (.reading connection station.chunks.length) (some event) (.device connection)
  | infoRefused {connection : Connection} {event : AdsEvent}
      (asked : event.call = connection.infoCall) (refused : event.reply.rc ≠ 0) :
      Next station (.reading connection station.chunks.length) (some event) (.closing connection)
  | stateRead {connection : Connection} {event : AdsEvent}
      (asked : event.call = connection.stateCall) (accepted : event.reply.rc = 0) :
      Next station (.device connection) (some event) (.reading connection 0)
  | stateRefused {connection : Connection} {event : AdsEvent}
      (asked : event.call = connection.stateCall) (refused : event.reply.rc ≠ 0) :
      Next station (.device connection) (some event) (.closing connection)
  | released {connection : Connection} {address : ADSAddress} {event : AdsEvent}
      (asked : connection.ReleasesHandle address event.call) :
      Next station (.closing connection) (some event) (.closing connection)
  | portClosed {connection : Connection} {event : AdsEvent}
      (asked : event.call = .portClose connection.adsPort) :
      Next station (.closing connection) (some event) (.closed connection)
  | routeDeleted {connection : Connection} {event : AdsEvent}
      (asked : event.call = .delRoute connection.remoteAmsNetId) :
      Next station (.closed connection) (some event) .idle

variable {station : Station} {connection : Connection}

/-- A request has failed, and the port has not been closed since. -/
def Ended (connection : Connection) : Session → Prop
  | .missing other | .closing other => other = connection
  | _ => False

theorem ended_of_failed {before after : Session} {event : AdsEvent}
    (moved : Next station before (some event) after) (asked : event.call.asksDevice = true)
    (refused : event.reply.rc ≠ 0) :
    ∃ connection, after.Ended connection ∧ event.call.throughPort = some connection.adsPort := by
  cases moved with
  | routeRefused called | routed called | portRefused called | opened called
  | portClosed called | routeDeleted called => simp [called, AdsCall.asksDevice] at asked
  | released called =>
      rw [called] at asked
      cases asked
  | found _ accepted | chunkRead _ _ _ accepted | infoRead _ accepted | stateRead _ accepted =>
      exact absurd accepted refused
  | notFound called | goesOn called | chunkRefused _ _ called | infoRefused called
  | stateRefused called => exact ⟨_, rfl, by rw [called]; rfl⟩

theorem Ended.silent {before after : Session} (ended : before.Ended connection)
    (moved : Next station before none after) : after.Ended connection := by
  cases moved with
  | allFound | nextPass => exact ended.elim
  | givesUp => exact ended

theorem Ended.send {before after : Session} {event : AdsEvent} (ended : before.Ended connection)
    (moved : Next station before (some event) after) :
    event.call = .portClose connection.adsPort ∨ after.Ended connection := by
  cases moved with
  | goesOn | released => exact .inr ended
  | portClosed called =>
      obtain rfl := ended
      exact .inl called
  | _ => exact ended.elim

theorem Ended.reads_nothing {before after : Session} {event : AdsEvent}
    (ended : before.Ended connection) (moved : Next station before (some event) after) :
    event.call.readsDevice = false := by
  cases moved with
  | goesOn called | released called | portClosed called =>
      rw [called]
      rfl
  | _ => exact ended.elim

theorem path_lookUps (station : Station) {events : Trace}
    (calls : ∀ event ∈ events, ∃ address, connection.AsksHandle address event.call) :
    ((∀ event ∈ events, event.reply.rc = 0) →
      Path (Next station) (.lookingUp connection) events (.lookingUp connection)) ∧
    (¬ (∀ event ∈ events, event.reply.rc = 0) →
      Path (Next station) (.lookingUp connection) events (.missing connection)) ∧
    Path (Next station) (.missing connection) events (.missing connection) := by
  induction events with
  | nil => exact ⟨fun _ => .refl _, fun some_failed => absurd (by simp) some_failed, .refl _⟩
  | cons event events ih =>
      obtain ⟨found, not_found, goes_on⟩ := ih fun other member => calls other (by simp [member])
      obtain ⟨address, asked⟩ := calls event List.mem_cons_self
      refine ⟨fun accepted => ?_, fun some_failed => ?_, .send (.goesOn asked) goes_on⟩
      · exact .send (.found asked (accepted event List.mem_cons_self))
          (found fun other member => accepted other (List.mem_cons_of_mem _ member))
      · by_cases accepted : event.reply.rc = 0
        · refine .send (.found asked accepted) (not_found fun all => some_failed ?_)
          exact List.forall_mem_cons.mpr ⟨accepted, all⟩
        · exact .send (.notFound asked accepted) goes_on

theorem path_releases (station : Station) {events : Trace}
    (calls : ∀ event ∈ events, ∃ address, connection.ReleasesHandle address event.call) :
    Path (Next station) (.closing connection) events (.closing connection) := by
  induction events with
  | nil => exact .refl _
  | cons event events ih =>
      obtain ⟨address, asked⟩ := calls event List.mem_cons_self
      exact .send (.released asked)
        (ih fun other member => calls other (List.mem_cons_of_mem _ member))

end Session

/-- The requests of the protocol; the data of writes is not among them. -/
def AdsEvent.ofSession (event : AdsEvent) : Bool := !event.call.writesData

theorem AdsEvent.ofSession_of_call {event : AdsEvent} {call : AdsCall} (made : event.call = call)
    (no_data : call.writesData = false) : event.ofSession = true := by
  rw [ofSession, made, no_data]
  rfl

/-- What the protocol shows of a driver. -/
def ADSPortDriver.station (driver : ADSPortDriver) : Station :=
  ⟨driver.amsNetId, driver.ipAddr, driver.deviceReadAdsPort, driver.sumRead.getChunks⟩

/-- A driver at a station, whatever its chunks contain. -/
structure ADSPortDriver.At (station : Station) (driver : ADSPortDriver) : Prop where
  amsNetId_eq : driver.amsNetId = station.amsNetId
  ipAddr_eq : driver.ipAddr = station.ipAddr
  deviceReadAdsPort_eq : driver.deviceReadAdsPort = station.deviceReadAdsPort
  chunks : List.Forall₂ ReadRequestChunk.SameLayout station.chunks driver.sumRead.getChunks

namespace ADSPortDriver

theorem at_station (driver : ADSPortDriver) : driver.At driver.station :=
  ⟨rfl, rfl, rfl, List.forall₂_same.mpr fun chunk _ => .refl chunk⟩

/-- The parts of the station that are no chunks are never assigned. -/
theorem Section.fixed {ads : Ads} {autoparam : Autoparam} {driver after : ADSPortDriver}
    {point : ScanPoint} (made : Section ads autoparam driver point after) :
    after.amsNetId = driver.amsNetId ∧ after.ipAddr = driver.ipAddr ∧
      after.deviceReadAdsPort = driver.deviceReadAdsPort := by
  have resolving (list : ADSPortDriver → List VarId) :
      (resolveVariables ads list driver).2.amsNetId = driver.amsNetId ∧
        (resolveVariables ads list driver).2.ipAddr = driver.ipAddr ∧
        (resolveVariables ads list driver).2.deviceReadAdsPort = driver.deviceReadAdsPort := by
    obtain ⟨_, _, _, after_eq⟩ := driver.resolveVariables_eq ads list
    rw [after_eq]
    exact ⟨rfl, rfl, rfl⟩
  cases made with
  | resolveReadVars => exact resolving adsReadVars
  | resolveWriteVars => exact resolving adsWriteVars
  | publishVariable garbage adsVar left =>
      rcases driver.publishVariable_cases autoparam garbage adsVar with same | ⟨_, _, same, _⟩
      · rw [same]
        exact ⟨rfl, rfl, rfl⟩
      · rw [same]
        exact ⟨rfl, rfl, rfl⟩
  | _ => exact ⟨rfl, rfl, rfl⟩

variable {station : Station}

theorem At.keeps {before after : ADSPortDriver} (same : before.At station)
    (keeps : before.Keeps after) (fixed : after.amsNetId = before.amsNetId ∧
      after.ipAddr = before.ipAddr ∧ after.deviceReadAdsPort = before.deviceReadAdsPort) :
    after.At station := by
  refine ⟨fixed.1.trans same.amsNetId_eq, fixed.2.1.trans same.ipAddr_eq,
    fixed.2.2.trans same.deviceReadAdsPort_eq, ?_⟩
  refine forall₂_trans ?_ same.chunks keeps.layout.chunks.flatten
  exact fun _ _ _ => .trans

variable (ads : Ads) {driver : ADSPortDriver}

theorem readInfo_asked (opened : driver.adsConnection.isConnected = true) :
    readInfo ads driver =
      (adsRcToEpicsadsError (ads driver.trace driver.adsConnection.infoCall).rc,
        driver.asked ads driver.adsConnection.infoCall) := by
  simp only [readInfo, Connection.readDeviceInfo, opened]
  rfl

theorem readState_asked (opened : driver.adsConnection.isConnected = true) :
    readState ads driver =
      (adsRcToEpicsadsError (ads driver.trace driver.adsConnection.stateCall).rc,
        driver.asked ads driver.adsConnection.stateCall) := by
  simp only [readState, Connection.readDeviceState, opened]
  rfl

theorem resolveVariables_sent (opened : driver.adsConnection.isConnected = true)
    (list : ADSPortDriver → List VarId) :
    ∃ events, (resolveVariables ads list driver).2.trace = driver.trace ++ events ∧
      (∀ event ∈ events, ∃ address, driver.adsConnection.AsksHandle address event.call) ∧
      ((resolveVariables ads list driver).1 = 0 ↔ ∀ event ∈ events, event.reply.rc = 0) := by
  unfold resolveVariables Step.onlyIf Connection.resolveVariables
  by_cases empty : list driver = []
  · exact ⟨[], by simp [empty], by simp, by simp [empty]⟩
  · obtain ⟨lookups, _, sent, _, status_iff⟩ := Connection.resolveLoop_each ads
      driver.adsConnection (list driver) 0 driver.heap.vars driver.trace
    obtain ⟨events, trace_eq, calls, _⟩ := Connection.resolveLoop_spec ads driver.adsConnection
      (list driver) 0 driver.heap.vars driver.trace rfl
    obtain rfl : events = lookups.sent := List.append_cancel_left (trace_eq.symm.trans sent)
    refine ⟨lookups.sent, by simpa [empty, opened] using sent, calls, ?_⟩
    simpa [empty, opened] using status_iff

/-- A stored chunk is asked for, and its request reports what the library returns. -/
theorem readChunk_asked {index : Nat} {chunk : ReadRequestChunk}
    (stored : driver.sumRead.AllStored) (in_turn : driver.sumRead.getChunks[index]? = some chunk) :
    (readChunk ads index driver).2.trace =
        driver.trace ++ [ads.event driver.trace (chunk.readCall driver.adsConnection)] ∧
      ((readChunk ads index driver).1 = 0 ↔
        (ads driver.trace (chunk.readCall driver.adsConnection)).rc = 0) := by
  obtain ⟨port, in_set⟩ := SumReadRequest.mem_getChunks_iff.mp (List.mem_of_getElem? in_turn)
  obtain ⟨initialized, memory, has_memory, _⟩ := stored port chunk in_set
  obtain ⟨previous, read⟩ := ReadRequestChunk.read_of_stored initialized has_memory ads
    driver.adsConnection driver.trace rfl
  simp only [readChunk, SumReadRequest.readChunk, in_turn, read]
  by_cases accepted : (ads driver.trace (chunk.readCall driver.adsConnection)).rc = 0
  · simp [accepted]
  · simp [accepted, adsRcToEpicsadsError_eq_zero_iff]

theorem disconnect_sent (opened : driver.adsConnection.isConnected = true) :
    ∃ closed deleted : AdsEvent, (driver.disconnect ads).trace = driver.trace ++ [closed, deleted] ∧
      closed.call = .portClose driver.adsConnection.adsPort ∧
      deleted.call = .delRoute driver.adsConnection.remoteAmsNetId := by
  refine ⟨ads.event driver.trace _, ads.event (driver.trace ++
    [ads.event driver.trace (.portClose driver.adsConnection.adsPort)]) _, ?_, rfl, rfl⟩
  simp only [disconnect, Connection.disconnect, opened]
  exact List.append_assoc _ _ _

end ADSPortDriver

namespace Interleaved

/-- Where the session of a state is. -/
def session (state : Interleaved) : Session :=
  let connection := state.driver.adsConnection
  let count := state.driver.sumRead.getChunks.length
  match state.scanPoint with
  | .head => if connection.isConnected then .reading connection count else .idle
  | .connect | .setDisconnected _ | .exited => .idle
  | .resolveReadVars | .resolveWriteVars | .initializeSumRead => .lookingUp connection
  | .readInfo | .publish | .publishing _ => .reading connection count
  | .readState => .device connection
  | .sumRead _ => .reading connection 0
  | .readChunk index _ => .reading connection (min index count)
  | .deinitializeSumRead _ => if connection.isConnected then .closing connection else .idle
  | .unresolveReadVars _ | .unresolveWriteVars _ | .disconnect _ => .closing connection

/-- The requests of the protocol that have been sent. -/
def sessionEvents (state : Interleaved) : Trace := state.driver.trace.filter AdsEvent.ofSession

variable (ads : Ads) (autoparam : Autoparam) (toFloat32 : BitVec 64 → BitVec 32)
  {station : Station}

/-- What is sent between two states leads from the session of one to that of the other. -/
def Follows (station : Station) (before after : Interleaved) : Prop :=
  ∃ events, after.driver.trace = before.driver.trace ++ events ∧
    Path (Session.Next station) before.session (events.filter AdsEvent.ofSession) after.session

theorem Follows.stay {before after : Interleaved}
    (trace_eq : after.driver.trace = before.driver.trace) (same : after.session = before.session) :
    Follows station before after :=
  ⟨[], by rw [trace_eq, List.append_nil], by rw [same]; exact .refl _⟩

theorem Follows.silent {before after : Interleaved}
    (trace_eq : after.driver.trace = before.driver.trace)
    (moved : Session.Next station before.session none after.session) :
    Follows station before after :=
  ⟨[], by rw [trace_eq, List.append_nil], .one_silent moved⟩

/-- One request of the session is sent. -/
theorem Follows.one {before after : Interleaved} {event : AdsEvent}
    (trace_eq : after.driver.trace = before.driver.trace ++ [event])
    (of_session : event.ofSession = true)
    (moved : Session.Next station before.session (some event) after.session) :
    Follows station before after :=
  ⟨[event], trace_eq, by
    rw [List.filter_cons_of_pos of_session, List.filter_nil]
    exact .one moved⟩

theorem Follows.writes {before after : Interleaved} {events : Trace}
    (trace_eq : after.driver.trace = before.driver.trace ++ events)
    (writes : ∀ event ∈ events, event.ofSession = false) (same : after.session = before.session) :
    Follows station before after := by
  have none_of_session : events.filter AdsEvent.ofSession = [] :=
    List.filter_eq_nil_iff.mpr fun event member => by simp [writes event member]
  exact ⟨events, trace_eq, by rw [none_of_session, same]; exact .refl _⟩

/-- Connecting opens a route and a port, or fails and leaves no session. -/
theorem follows_connect {state : Interleaved} (same : state.driver.At station)
    (point : state.scanPoint = .connect) (closed : state.driver.adsConnection.isConnected = false) :
    Follows station state (state.tryThen (ADSPortDriver.openConnection ads) .resolveReadVars
      (.deinitializeSumRead .reconnect)) := by
  have idle : state.session = .idle := by simp [session, point]
  unfold Follows
  rw [idle]
  generalize routed : ads.event state.driver.trace
    (.addRoute state.driver.amsNetId state.driver.ipAddr) = route
  have asked_route : route.call = .addRoute station.amsNetId station.ipAddr := by
    rw [← routed, ← same.amsNetId_eq, ← same.ipAddr_eq]
    rfl
  have visible_route : route.ofSession = true := AdsEvent.ofSession_of_call asked_route rfl
  by_cases accepted : route.reply.rc = 0
  · generalize opened : ads.event (state.driver.trace ++ [route]) .portOpen = opening
    have asked_port : opening.call = .portOpen := by
      rw [← opened]
      rfl
    have visible_port : opening.ofSession = true := AdsEvent.ofSession_of_call asked_port rfl
    by_cases no_port : opening.reply.port = 0
    · refine ⟨[route, opening], ?_, ?_⟩
      · simp [tryThen, ADSPortDriver.openConnection, Connection.connect, routed, accepted, opened,
          no_port]
      · have after_eq : (state.tryThen (ADSPortDriver.openConnection ads) .resolveReadVars
            (.deinitializeSumRead .reconnect)).session = .idle := by
          simp [tryThen, session, ADSPortDriver.openConnection, Connection.connect, routed,
            accepted, opened, no_port, epicsadsDisconnected, closed]
        rw [after_eq, List.filter_cons_of_pos visible_route, List.filter_cons_of_pos visible_port]
        exact .send (.routed asked_route accepted) (.one (.portRefused asked_port no_port))
    · refine ⟨[route, opening], ?_, ?_⟩
      · simp [tryThen, ADSPortDriver.openConnection, Connection.connect, routed, accepted, opened,
          no_port]
      · have after_eq : (state.tryThen (ADSPortDriver.openConnection ads) .resolveReadVars
            (.deinitializeSumRead .reconnect)).session =
              .lookingUp ⟨station.amsNetId, opening.reply.port, station.deviceReadAdsPort⟩ := by
          rw [← same.amsNetId_eq, ← same.deviceReadAdsPort_eq]
          simp [tryThen, session, ADSPortDriver.openConnection, Connection.connect, routed,
            accepted, opened, no_port]
        rw [after_eq, List.filter_cons_of_pos visible_route, List.filter_cons_of_pos visible_port]
        exact .send (.routed asked_route accepted) (.one (.opened asked_port no_port))
  · refine ⟨[route], ?_, ?_⟩
    · simp [tryThen, ADSPortDriver.openConnection, Connection.connect, routed, accepted]
    · have after_eq : (state.tryThen (ADSPortDriver.openConnection ads) .resolveReadVars
          (.deinitializeSumRead .reconnect)).session = .idle := by
        simp [tryThen, session, ADSPortDriver.openConnection, Connection.connect, routed, accepted,
          epicsadsDisconnected, closed]
      rw [after_eq, List.filter_cons_of_pos visible_route]
      exact .one (.routeRefused asked_route accepted)

/-- A request that the scan thread looks at: the session goes on or ends. -/
theorem follows_asked {state : Interleaved} {step : Step ADSPortDriver} {succeeded : ScanPoint}
    {caller : DisconnectCaller} (call : AdsCall)
    (opened : state.driver.adsConnection.isConnected = true)
    (same_connection : (step state.driver).2.adsConnection = state.driver.adsConnection)
    (trace_eq : (step state.driver).2.trace =
      state.driver.trace ++ [ads.event state.driver.trace call])
    (status_iff : (step state.driver).1 = 0 ↔ (ads state.driver.trace call).rc = 0)
    (of_session : (ads.event state.driver.trace call).ofSession = true)
    (goes_on : (ads state.driver.trace call).rc = 0 →
      Session.Next station state.session (some (ads.event state.driver.trace call))
        { state with driver := (step state.driver).2, scanPoint := succeeded }.session)
    (ends : (ads state.driver.trace call).rc ≠ 0 →
      Session.Next station state.session (some (ads.event state.driver.trace call))
        (.closing state.driver.adsConnection)) :
    Follows station state (state.tryThen step succeeded (.deinitializeSumRead caller)) := by
  refine Follows.one trace_eq of_session ?_
  unfold tryThen
  split_ifs with zero
  · exact goes_on (status_iff.mp zero)
  · simpa [session, same_connection, opened] using
      ends fun accepted => zero (status_iff.mpr accepted)

/-- Names are looked up. -/
theorem follows_resolve {state : Interleaved} {next : ScanPoint}
    (opened : state.driver.adsConnection.isConnected = true) (list : ADSPortDriver → List VarId)
    (here : state.session = .lookingUp state.driver.adsConnection)
    (there : ∀ after : Interleaved, after.scanPoint = next →
      after.session = .lookingUp after.driver.adsConnection) :
    Follows station state (state.tryThen (ADSPortDriver.resolveVariables ads list) next
      (.deinitializeSumRead .reconnect)) := by
  obtain ⟨events, trace_eq, calls, status_iff⟩ :=
    ADSPortDriver.resolveVariables_sent ads opened list
  obtain ⟨_, _, _, after_eq⟩ := state.driver.resolveVariables_eq ads list
  have same_connection : (ADSPortDriver.resolveVariables ads list state.driver).2.adsConnection =
      state.driver.adsConnection := by rw [after_eq]
  have visible : events.filter AdsEvent.ofSession = events := by
    refine List.filter_eq_self.mpr fun event member => ?_
    obtain ⟨address, asked⟩ := calls event member
    exact AdsEvent.ofSession_of_call asked rfl
  obtain ⟨found, not_found, _⟩ := Session.path_lookUps station calls
  refine ⟨events, trace_eq, ?_⟩
  rw [visible, here]
  unfold tryThen
  split_ifs with zero
  · rw [there _ rfl]
    simpa only [same_connection] using found (status_iff.mp zero)
  · have failed := (not_found fun all => zero (status_iff.mpr all)).append
      (.one_silent (.givesUp state.driver.adsConnection))
    simpa [session, same_connection, opened] using failed

theorem follows_unresolve {state : Interleaved} {next : ScanPoint} (list : List VarId)
    (here : state.session = .closing state.driver.adsConnection)
    (there : (state.doThen (fun _ => state.driver.unresolveVariables ads list) next).session =
      .closing state.driver.adsConnection) :
    Follows station state
      (state.doThen (fun _ => state.driver.unresolveVariables ads list) next) := by
  have releases : ∀ event ∈ (ADSPortDriver.unresolveEntries ads list state.driver).filterMap
      LogEntry.event?, ∃ address, state.driver.adsConnection.ReleasesHandle address event.call :=
    fun event member =>
      state.driver.adsConnection.unresolveLoopEntries_call ads _ _ _ _ event member
  refine ⟨_, state.driver.unresolveVariables_trace ads list, ?_⟩
  rw [List.filter_eq_self.mpr fun event member => ?_, here, there]
  · exact Session.path_releases station releases
  · obtain ⟨address, asked⟩ := releases event member
    exact AdsEvent.ofSession_of_call asked rfl

/-- A chunk is asked for in its turn. -/
theorem follows_readChunk {state : Interleaved} (up : state.driver.Up)
    (same : state.driver.At station) {index : Nat} {connecting : Bool} {caller : DisconnectCaller}
    (point : state.scanPoint = .readChunk index connecting)
    (inside : index < state.driver.sumRead.getChunks.length) :
    Follows station state (state.tryThen (ADSPortDriver.readChunk ads index)
      (.readChunk (index + 1) connecting) (.deinitializeSumRead caller)) := by
  obtain ⟨chunk, in_turn⟩ : ∃ chunk, state.driver.sumRead.getChunks[index]? = some chunk :=
    ⟨_, List.getElem?_eq_getElem inside⟩
  obtain ⟨chunk', in_turn', same_layout⟩ := getElem?_of_forall₂ same.chunks in_turn
  obtain ⟨trace_eq, status_iff⟩ := ADSPortDriver.readChunk_asked ads up.stored in_turn
  have here : state.session = .reading state.driver.adsConnection index := by
    simp [session, point, Nat.min_eq_left inside.le]
  have same_count := (state.driver.keeps_readChunk ads index).layout.chunks.flatten.length_eq
  refine follows_asked ads (chunk.readCall state.driver.adsConnection) up.opened rfl trace_eq
    status_iff rfl (fun accepted => ?_) fun refused => ?_
  · have fewer : index + 1 ≤
        (ADSPortDriver.readChunk ads index state.driver).2.sumRead.getChunks.length :=
      inside.trans_eq same_count
    have there : { state with
        driver := (ADSPortDriver.readChunk ads index state.driver).2
        scanPoint := .readChunk (index + 1) connecting : Interleaved }.session =
          .reading state.driver.adsConnection (index + 1) := by
      simp only [session, Nat.min_eq_left fewer]
      rfl
    rw [here, there]
    exact .chunkRead in_turn' same_layout rfl accepted
  · rw [here]
    exact .chunkRefused in_turn' same_layout rfl refused

theorem follows_disconnect {state : Interleaved} {caller : DisconnectCaller}
    (point : state.scanPoint = .disconnect caller)
    (opened : state.driver.adsConnection.isConnected = true) :
    Follows station state
      (state.doThen (fun _ => state.driver.disconnect ads) (.setDisconnected caller)) := by
  have here : state.session = .closing state.driver.adsConnection := by simp [session, point]
  have there : (state.doThen (fun _ => state.driver.disconnect ads)
      (.setDisconnected caller)).session = .idle := by simp [session, doThen]
  obtain ⟨closed, deleted, trace_eq, asked_close, asked_delete⟩ :=
    ADSPortDriver.disconnect_sent ads opened
  refine ⟨[closed, deleted], trace_eq, ?_⟩
  rw [here, there, List.filter_cons_of_pos (AdsEvent.ofSession_of_call asked_close rfl),
    List.filter_cons_of_pos (AdsEvent.ofSession_of_call asked_delete rfl)]
  exact .send (.portClosed asked_close) (.one (.routeDeleted asked_delete))

/-- A section that may fail keeps the protocol. -/
theorem follows_attempt {state : Interleaved} {step : Step ADSPortDriver} {succeeded : ScanPoint}
    {caller : DisconnectCaller}
    (attempt : state.driver.Attempt ads state.scanPoint step succeeded caller)
    (same : state.driver.At station) :
    Follows station state (state.tryThen step succeeded (.deinitializeSumRead caller)) := by
  have count_eq : station.chunks.length = state.driver.sumRead.getChunks.length :=
    same.chunks.length_eq
  generalize point : state.scanPoint = entry at attempt
  cases attempt with
  | connect down => exact follows_connect ads same point down.closed
  | resolveReadVars resolving | resolveWriteVars resolving =>
      exact follows_resolve ads resolving.opened _ (by simp [session, point])
        fun after next => by simp [session, next]
  | initializeSumRead resolving =>
      have here : state.session = .lookingUp state.driver.adsConnection := by simp [session, point]
      refine .silent rfl ?_
      rw [here, tryThen, if_pos resolving.initializeSumRead_eq_zero]
      exact .allFound _
  | readInfo up =>
      have asked := ADSPortDriver.readInfo_asked ads up.opened
      have here : state.session = .reading state.driver.adsConnection station.chunks.length := by
        simp [session, point, count_eq]
      refine follows_asked ads state.driver.adsConnection.infoCall up.opened rfl
        (by rw [asked]; rfl) (by rw [asked, adsRcToEpicsadsError_eq_zero_iff]) rfl
        (fun accepted => ?_) fun refused => ?_
      · rw [here, asked]
        exact .infoRead rfl accepted
      · rw [here]
        exact .infoRefused rfl refused
  | readState up =>
      have asked := ADSPortDriver.readState_asked ads up.opened
      have here : state.session = .device state.driver.adsConnection := by simp [session, point]
      refine follows_asked ads state.driver.adsConnection.stateCall up.opened rfl
        (by rw [asked]; rfl) (by rw [asked, adsRcToEpicsadsError_eq_zero_iff]) rfl
        (fun accepted => ?_) fun refused => ?_
      · rw [here, asked]
        exact .stateRead rfl accepted
      · rw [here]
        exact .stateRefused rfl refused
  | sumRead up connecting =>
      have starts : (ADSPortDriver.startSumRead state.driver).1 = 0 :=
        if_neg (by simp [up.sumRead_ready])
      refine .stay rfl ?_
      rw [tryThen, if_pos starts]
      simp [session, point, ADSPortDriver.startSumRead]
  | readChunk up inside connecting => exact follows_readChunk ads up same point inside

/-- A section that cannot fail keeps the protocol. -/
theorem follows_passage {state : Interleaved} {input : ScanInput} {after : ADSPortDriver}
    {next : ScanPoint}
    (passage : state.driver.Passage ads autoparam input state.scanPoint after next)
    (same : state.driver.At station) :
    Follows station state (state.doThen (fun _ => after) next) := by
  have count_eq : station.chunks.length = state.driver.sumRead.getChunks.length :=
    same.chunks.length_eq
  generalize point : state.scanPoint = entry at passage
  cases passage with
  | scan up =>
      cases input.due with
      | true => exact .stay rfl (by simp [doThen, session, point, up.opened])
      | false =>
          have moved : Session.Next station
              (.reading state.driver.adsConnection station.chunks.length) none
              (.reading state.driver.adsConnection 0) := .nextPass _
          exact .silent rfl (by simpa [doThen, session, point, up.opened, count_eq] using moved)
  | reconnect down => exact .stay rfl (by simp [doThen, session, point, down.closed])
  | sumReadDone up whole connecting =>
      refine .stay rfl ?_
      cases connecting <;>
        simp [doThen, session, point, Nat.min_eq_right whole, ScanPoint.sumReadDone, up.opened]
  | publish => exact .stay rfl (by simp [doThen, session, point])
  | published up => exact .stay rfl (by simp [doThen, session, point, up.opened])
  | publishVariable up adsVar left =>
      rcases state.driver.publishVariable_cases autoparam input.garbage adsVar with
        unchanged | ⟨_, _, published, _⟩
      · exact .stay (by rw [doThen, unchanged]) (by simp [session, point, doThen, unchanged])
      · refine .stay (by rw [doThen, published]; rfl) ?_
        simp [session, point, doThen, published, ADSPortDriver.publish]
  | deinitializeSumRead phase opened =>
      have same_connection :
          state.driver.deinitializeSumRead.adsConnection = state.driver.adsConnection := rfl
      exact .stay rfl (by simp [doThen, session, point, opened, same_connection])
  | @notConnected caller phase closed =>
      have same_connection :
          state.driver.deinitializeSumRead.adsConnection = state.driver.adsConnection := rfl
      refine .stay rfl ?_
      cases caller <;>
        simp [doThen, session, point, closed, same_connection, DisconnectCaller.resume]
  | unresolveReadVars | unresolveWriteVars =>
      exact follows_unresolve ads _ (by simp [session, point]) rfl
  | disconnect phase => exact follows_disconnect ads point phase.2.2.2.1
  | @setDisconnected caller phase =>
      refine .stay rfl ?_
      cases caller <;> simp [doThen, session, point, ADSPortDriver.setDisconnected,
        Connection.setDisconnected, Connection.isConnected, DisconnectCaller.resume]

/-- Every section keeps the protocol. -/
theorem follows_scan {state : Interleaved} (phase : state.driver.Phase state.scanPoint)
    (same : state.driver.At station) (input : ScanInput) :
    Follows station state (state.scan ads autoparam input) := by
  rcases scan_cases ads autoparam phase input with
    ⟨step, succeeded, caller, attempt, scan_eq⟩ | ⟨after, next, passage, scan_eq⟩
  · rw [scan_eq]
    exact follows_attempt ads attempt same
  · rw [scan_eq]
    exact follows_passage ads autoparam passage same

/-- Handlers send nothing but writes that have been waiting. -/
theorem sent_handler (state : Interleaved) {taken : ThreadStep} (handler : taken.scans = false) :
    ∃ events, (state.step ads autoparam toFloat32 taken).driver.trace =
      state.driver.trace ++ events ∧
        ∀ event ∈ events, ∃ write ∈ state.pendingWrites,
          event.call = write.request state.driver := by
  have silent {after : ADSPortDriver} (same : after.trace = state.driver.trace) :
      ∃ events, after.trace = state.driver.trace ++ events ∧ ∀ event ∈ events,
        ∃ write ∈ state.pendingWrites, event.call = write.request state.driver :=
    ⟨[], by rw [same, List.append_nil], by simp⟩
  cases taken with
  | scan input => cases handler
  | poll adsVar registration request =>
      unfold step
      dsimp only
      split_ifs
      · exact silent rfl
      · exact silent rfl
  | checkWrite adsVar registration request =>
      unfold step
      dsimp only
      split_ifs
      · exact silent rfl
      · exact silent rfl
  | sendWrite index =>
      simp only [step, sendWrite]
      cases found : state.pendingWrites[index]? with
      | none => exact silent rfl
      | some write =>
          refine ⟨[_], rfl, fun event member => ⟨write, List.mem_of_getElem? found, ?_⟩⟩
          rw [List.mem_singleton.mp member]
          rfl
  | shutDown => exact silent rfl

theorem Ledgered.writesData {state : Interleaved} {ledger : Ledger}
    (ledgered : state.Ledgered ledger) {write : PendingWrite}
    (waits : write ∈ state.pendingWrites) : (write.request state.driver).writesData = true := by
  have by_value := (ledgered.addressed _ (ledgered.pending write waits)).by_value
  simpa [PendingWrite.request, AdsCall.writesData] using by_value

/-- Every step of a thread keeps the protocol. -/
theorem follows_step {state : Interleaved} (phase : state.driver.Phase state.scanPoint)
    (same : state.driver.At station) {ledger : Ledger} (ledgered : state.Ledgered ledger)
    {taken : ThreadStep} (not_shutDown : taken ≠ .shutDown) :
    Follows station state (state.step ads autoparam toFloat32 taken) := by
  cases handler : taken.scans with
  | true =>
      cases taken with
      | scan input => exact follows_scan ads autoparam phase same input
      | _ => cases handler
  | false =>
      obtain ⟨point_eq, beside⟩ := state.beside_step ads autoparam toFloat32 handler not_shutDown
      obtain ⟨events, trace_eq, writes⟩ := state.sent_handler ads autoparam toFloat32 handler
      refine .writes trace_eq (fun event member => ?_) ?_
      · obtain ⟨write, waits, asked⟩ := writes event member
        rw [AdsEvent.ofSession, asked, ledgered.writesData waits]
        rfl
      · rw [session, session, point_eq, beside.connection_eq, beside.sumRead_eq]

theorem at_step {state : Interleaved} (same : state.driver.At station) (taken : ThreadStep) :
    (state.step ads autoparam toFloat32 taken).driver.At station := by
  refine same.keeps (keeps_step ads autoparam toFloat32 state taken) ?_
  cases taken with
  | scan input => exact (state.section_scan ads autoparam input).fixed
  | poll adsVar registration request =>
      unfold step
      dsimp only
      split_ifs <;> exact ⟨rfl, rfl, rfl⟩
  | checkWrite adsVar registration request =>
      unfold step
      dsimp only
      split_ifs <;> exact ⟨rfl, rfl, rfl⟩
  | sendWrite index =>
      unfold step sendWrite
      dsimp only
      split <;> exact ⟨rfl, rfl, rfl⟩
  | shutDown => exact ⟨rfl, rfl, rfl⟩

theorem session_run {state : Interleaved} (phase : state.driver.Phase state.scanPoint)
    (same : state.driver.At station) {ledger : Ledger} (ledgered : state.Ledgered ledger)
    {taken : List ThreadStep} (no_shutDown : .shutDown ∉ taken) :
    ∃ events, (run (step ads autoparam toFloat32) state taken).sessionEvents =
        state.sessionEvents ++ events ∧
      Path (Session.Next station) state.session events
        (run (step ads autoparam toFloat32) state taken).session := by
  have each : EachMeets (step ads autoparam toFloat32) (fun _ taken => taken ≠ .shutDown) state
      taken := by
    rintro front last reached rfl
    exact no_shutDown (reached.subset (by simp))
  refine path_run (fun state => state.driver.Phase state.scanPoint ∧ state.driver.At station ∧
      ∃ ledger, state.Ledgered ledger)
    session sessionEvents ?kept ?follows ⟨phase, same, _, ledgered⟩ each
  case kept =>
    rintro state taken ⟨phase, same, _, ledgered⟩ not_shutDown
    exact ⟨phase_step ads autoparam toFloat32 phase not_shutDown,
      at_step ads autoparam toFloat32 same taken, _,
      (ledgered.step ads autoparam toFloat32 taken).2⟩
  case follows =>
    rintro state taken ⟨phase, same, _, ledgered⟩ not_shutDown
    obtain ⟨events, trace_eq, path⟩ :=
      follows_step ads autoparam toFloat32 phase same ledgered not_shutDown
    exact ⟨_, by rw [sessionEvents, trace_eq, List.filter_append]; rfl, path⟩

theorem session_start {ipAddr : Str} {amsNetId : AmsNetId}
    {sumBufferSize deviceReadAdsPort : UInt16} {heap : Heap} {driver : ADSPortDriver}
    (constructed : ADSPortDriver.new ipAddr amsNetId sumBufferSize deviceReadAdsPort heap =
      some driver) (links : List RecordLink) (interrupts : List Nat) :
    (start driver links interrupts).session = .idle ∧
      (start driver links interrupts).sessionEvents = [] := by
  have hooked := hooked_start constructed links interrupts
  constructor
  · have point : (start driver links interrupts).scanPoint = .head := rfl
    simp [session, point, hooked.closed]
  · simp [sessionEvents, hooked.no_events]

/-- Every run of the threads keeps the protocol of a session, whatever the library answers. -/
theorem keeps_protocol {ipAddr : Str} {amsNetId : AmsNetId}
    {sumBufferSize deviceReadAdsPort : UInt16} {heap : Heap} {driver : ADSPortDriver}
    (constructed : ADSPortDriver.new ipAddr amsNetId sumBufferSize deviceReadAdsPort heap =
      some driver) (links : List RecordLink) (interrupts : List Nat)
    (hooked : (start driver links interrupts).driver.initialized = true)
    {taken : List ThreadStep} (no_shutDown : .shutDown ∉ taken) :
    Path (Session.Next (start driver links interrupts).driver.station) .idle
      (run (step ads autoparam toFloat32) (start driver links interrupts) taken).sessionEvents
      (run (step ads autoparam toFloat32) (start driver links interrupts) taken).session := by
  obtain ⟨idle, silent⟩ := session_start constructed links interrupts
  obtain ⟨events, events_eq, path⟩ := session_run ads autoparam toFloat32
    (phase_start constructed links interrupts hooked) (ADSPortDriver.at_station _)
    (ledgered_start constructed links interrupts) no_shutDown
  rw [silent, List.nil_append] at events_eq
  rwa [events_eq, ← idle]

/-- The sample driver connects and reads its two chunks. -/
theorem keeps_protocol_sample :
    Path (Session.Next (start ADSPortDriver.sampleDriver ADSPortDriver.sampleLinks
        [0, 2]).driver.station) .idle
      (run (step SumReadRequest.sevensAds .sample fun _ => 0)
        (start ADSPortDriver.sampleDriver ADSPortDriver.sampleLinks [0, 2])
        (List.replicate 12 (.scan ADSPortDriver.sampleInput))).sessionEvents
      (run (step SumReadRequest.sevensAds .sample fun _ => 0)
        (start ADSPortDriver.sampleDriver ADSPortDriver.sampleLinks [0, 2])
        (List.replicate 12 (.scan ADSPortDriver.sampleInput))).session :=
  keeps_protocol SumReadRequest.sevensAds .sample (fun _ => 0)
    (rfl : ADSPortDriver.new _ [10, 0, 0, 1, 1, 1] 2 851 ⟨SumReadRequest.sampleVars, []⟩ =
      some ADSPortDriver.sampleDriver) ADSPortDriver.sampleLinks [0, 2] (by decide) (by simp)

/-- The driver stops at the first failure: after a request to the device that fails, nothing is read
from the device until the port that the request went through has been closed. -/
theorem fail_stop {ipAddr : Str} {amsNetId : AmsNetId}
    {sumBufferSize deviceReadAdsPort : UInt16} {heap : Heap} {driver : ADSPortDriver}
    (constructed : ADSPortDriver.new ipAddr amsNetId sumBufferSize deviceReadAdsPort heap =
      some driver) (links : List RecordLink) (interrupts : List Nat)
    (hooked : (start driver links interrupts).driver.initialized = true)
    {taken : List ThreadStep} (no_shutDown : .shutDown ∉ taken) {front middle back : Trace}
    {failed later : AdsEvent}
    (sent : (run (step ads autoparam toFloat32) (start driver links interrupts)
      taken).driver.trace = front ++ failed :: (middle ++ later :: back))
    (asked : failed.call.asksDevice = true) (refused : failed.reply.rc ≠ 0)
    (reads : later.call.readsDevice = true) :
    ∃ closed ∈ middle, ∃ port, failed.call.throughPort = some port ∧
      closed.call = .portClose port := by
  obtain ⟨idle, silent⟩ := session_start constructed links interrupts
  obtain ⟨events, events_eq, path⟩ := session_run ads autoparam toFloat32
    (phase_start constructed links interrupts hooked) (ADSPortDriver.at_station _)
    (ledgered_start constructed links interrupts) no_shutDown
  have failed_shown : failed.ofSession = true := by
    unfold AdsEvent.ofSession
    cases called : failed.call <;> simp_all [AdsCall.asksDevice, AdsCall.writesData]
  have later_shown : later.ofSession = true := by
    unfold AdsEvent.ofSession
    cases called : later.call <;> simp_all [AdsCall.readsDevice, AdsCall.writesData]
  rw [silent, List.nil_append, sessionEvents, sent, List.filter_append,
    List.filter_cons_of_pos failed_shown, List.filter_append,
    List.filter_cons_of_pos later_shown] at events_eq
  rw [← events_eq] at path
  obtain ⟨_, _, from_failed⟩ := path.of_append
  obtain ⟨_, after_failed, _, fails, from_middle⟩ := from_failed.of_send
  obtain ⟨_, through_middle, from_later⟩ := from_middle.of_append
  obtain ⟨before_later, _, silently, reading, _⟩ := from_later.of_send
  obtain ⟨connection, ended, through⟩ := Session.ended_of_failed fails asked refused
  have not_ended : ¬ before_later.Ended connection := fun ended => by
    simp [ended.reads_nothing reading] at reads
  obtain ⟨closed, member, closes⟩ := (through_middle.append silently).leaves
    (fun _ _ ended moved => ended.silent moved) (fun _ _ _ ended moved => ended.send moved) ended
    not_ended
  rw [List.append_nil] at member
  exact ⟨closed, List.mem_of_mem_filter member, connection.adsPort, through, closes⟩

/-- A library that refuses its fifth call only. -/
def stumblingAds : Ads := fun trace call =>
  if trace.length = 4 then { rc := 1861 } else SumReadRequest.sevensAds trace call

/-- The calls of the sample driver until its first sum-read. -/
def stumblingTrace : Trace :=
  (run (step stumblingAds .sample fun _ => 0)
    (start ADSPortDriver.sampleDriver ADSPortDriver.sampleLinks [0, 2])
    (List.replicate 16 (.scan ADSPortDriver.sampleInput))).driver.trace

/-- Between the name that is not found and the first sum-read the port is closed. -/
theorem fail_stop_sample :
    ∃ closed ∈ (stumblingTrace.drop 5).take 9, ∃ port,
      (stumblingTrace.get ⟨4, of_decide_eq_true rfl⟩).call.throughPort = some port ∧
        closed.call = .portClose port :=
  fail_stop stumblingAds .sample (fun _ => 0)
    (rfl : ADSPortDriver.new _ [10, 0, 0, 1, 1, 1] 2 851 ⟨SumReadRequest.sampleVars, []⟩ =
      some ADSPortDriver.sampleDriver) ADSPortDriver.sampleLinks [0, 2] (by decide)
    (by simp : ThreadStep.shutDown ∉ List.replicate 16 (.scan ADSPortDriver.sampleInput))
    (by decide : stumblingTrace = stumblingTrace.take 4 ++
      stumblingTrace.get ⟨4, of_decide_eq_true rfl⟩ ::
        ((stumblingTrace.drop 5).take 9 ++
          stumblingTrace.get ⟨14, of_decide_eq_true rfl⟩ :: []))
    (by decide) (by decide) (by decide)

end Interleaved

end AdsDriver
