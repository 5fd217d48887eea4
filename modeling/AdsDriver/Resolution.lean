import AdsDriver.AddressStates
import AdsDriver.Handles

/-!
# Resolving and unresolving lists of variables

`resolve_variables` looks up one handle for each place of its list that it finds unresolved,
whatever became of the earlier ones.  `unresolve_variables` marks all variables and stops asking
the device once this has been found disconnected.
-/

namespace AdsDriver

open Runs

/-- An address that was made from a name and then resolved and unresolved. -/
def ADSAddress.NameAddressed (address : ADSAddress) : Prop :=
  ∃ source new calls, AddressSource.construct source = .ok new ∧ source.registerTexts? = none ∧
    run ADSAddress.afterCall new calls = address

theorem ADSAddress.NameAddressed.named {address : ADSAddress} (by_name : address.NameAddressed) :
    address.variableName ≠ [] := by
  obtain ⟨source, new, calls, built, texts, rfl⟩ := by_name
  rw [ADSAddress.run_name]
  exact (AddressSource.construct_named built texts).named

theorem ADSAddress.NameAddressed.cleared {address : ADSAddress} (by_name : address.NameAddressed)
    (unresolved : address.nameIsResolved = false) :
    address.indexGroup = 0 ∧ address.indexOffset = 0 := by
  obtain ⟨source, new, calls, built, texts, rfl⟩ := by_name
  exact ((AddressSource.construct_named built texts).run calls).cleared unresolved

/-- The places of a list with the requests made for them. -/
abbrev PlaceRequests := List (VarId × Option AdsEvent)

/-- The requests made. -/
def PlaceRequests.sent (requests : PlaceRequests) : Trace := requests.filterMap Prod.snd

theorem PlaceRequests.sent_cons (var : VarId) (request : Option AdsEvent)
    (requests : PlaceRequests) :
    PlaceRequests.sent ((var, request) :: requests) = request.toList ++ requests.sent := by
  cases request <;> rfl

section

variable (ads : Ads) (connection : Connection)

theorem Connection.asksHandle_event_iff {addr : ADSAddress} {trace : Trace} {event : AdsEvent} :
    connection.AsksHandle addr event.call ∧ event = ads.event trace event.call ↔
      ads.event trace (connection.lookUpCall addr) = event := by
  rw [Connection.asksHandle_iff]
  constructor
  · rintro ⟨asked, answered⟩
    rw [← asked, ← answered]
  · rintro rfl
    exact ⟨rfl, rfl⟩

/-- One lookup was made for each place that was found unresolved, with the port and the name of its
variable, and those that succeeded have resolved their variables and no others. -/
structure ResolvesEach (vars : Vars) (trace : Trace) (lookups : PlaceRequests)
    (after : Vars) : Prop where
  asked : ∀ front var lookup back, lookups = front ++ (var, lookup) :: back → ∀ event,
    lookup = some event ↔ (vars var).addr.nameIsResolved = false ∧
      (∀ earlier, (var, some earlier) ∈ front → earlier.reply.rc ≠ 0) ∧
      connection.AsksHandle (vars var).addr event.call ∧
      event = ads.event (trace ++ PlaceRequests.sent front) event.call
  found : ∀ var event, (var, some event) ∈ lookups → event.reply.rc = 0 →
    after var = (vars var).readdress adsigrpSymValByHnd event.reply.handle true
  kept : ∀ var, (∀ event, (var, some event) ∈ lookups → event.reply.rc ≠ 0) → after var = vars var

namespace ResolvesEach

variable {ads connection} {vars after : Vars} {trace : Trace} {lookups : PlaceRequests}
  {first : VarId}

theorem nil (vars : Vars) (trace : Trace) : ResolvesEach ads connection vars trace [] vars := by
  constructor
  · intro front var lookup back split
    simp at split
  · simp
  · simp

theorem cons_resolved (resolved : (vars first).addr.nameIsResolved = true)
    (rest : ResolvesEach ads connection vars trace lookups after) :
    ResolvesEach ads connection vars trace ((first, none) :: lookups) after := by
  constructor
  · intro front var lookup back split event
    cases front with
    | nil =>
        obtain ⟨⟨rfl, rfl⟩, rfl⟩ : (first = var ∧ none = lookup) ∧ lookups = back := by
          simpa using split
        simp [resolved]
    | cons head front =>
        obtain ⟨rfl, behind⟩ := List.cons.inj split
        simpa [PlaceRequests.sent] using rest.asked front var lookup back behind event
  · intro var event member
    exact rest.found var event (by simpa using member)
  · intro var failed
    exact rest.kept var (by simpa using failed)

/-- A place whose lookup fails stays as it is, and the next ones are looked up. -/
theorem cons_failed {event : AdsEvent} (unresolved : (vars first).addr.nameIsResolved = false)
    (asked : ads.event trace (connection.lookUpCall (vars first).addr) = event)
    (failure : event.reply.rc ≠ 0)
    (rest : ResolvesEach ads connection vars (trace ++ [event]) lookups after) :
    ResolvesEach ads connection vars trace ((first, some event) :: lookups) after := by
  constructor
  · intro front var lookup back split other
    cases front with
    | nil =>
        obtain ⟨⟨rfl, rfl⟩, rfl⟩ : (first = var ∧ some event = lookup) ∧ lookups = back := by
          simpa using split
        rw [Connection.asksHandle_event_iff]
        simp [unresolved, asked, PlaceRequests.sent]
    | cons head front =>
        obtain ⟨rfl, behind⟩ := List.cons.inj split
        rw [rest.asked front var lookup back behind other]
        simp only [List.mem_cons, Prod.mk.injEq, Option.some.injEq, PlaceRequests.sent,
          List.filterMap_cons, List.append_assoc, List.singleton_append]
        refine and_congr_right fun _ => and_congr_left fun _ => forall_congr' fun earlier => ?_
        constructor
        · rintro none_earlier (⟨_, rfl⟩ | member)
          · exact failure
          · exact none_earlier member
        · exact fun none_earlier member => none_earlier (.inr member)
  · intro var other member accepted
    rcases List.mem_cons.mp member with same | later
    · cases same
      exact absurd accepted failure
    · exact rest.found var other later accepted
  · intro var failed
    exact rest.kept var fun other member => failed other (List.mem_cons_of_mem _ member)

/-- A place whose lookup succeeds is resolved, and not looked up again. -/
theorem cons_found {event : AdsEvent} (unresolved : (vars first).addr.nameIsResolved = false)
    (asked : ads.event trace (connection.lookUpCall (vars first).addr) = event)
    (accepted : event.reply.rc = 0)
    (rest : ResolvesEach ads connection
      (Function.update vars first
        ((vars first).readdress adsigrpSymValByHnd event.reply.handle true))
      (trace ++ [event]) lookups after) :
    ResolvesEach ads connection vars trace ((first, some event) :: lookups) after := by
  -- the variable is resolved from here on, so its later places make no lookup
  have no_more : ∀ other, (first, some other) ∉ lookups := by
    intro other member
    obtain ⟨front, back, split⟩ := List.append_of_mem member
    have again := ((rest.asked front first _ back split other).mp rfl).1
    simp [ADSVariable.readdress] at again
  have first_after : after first =
      (vars first).readdress adsigrpSymValByHnd event.reply.handle true := by
    rw [rest.kept first fun other member => absurd member (no_more other), Function.update_self]
  constructor
  · intro front var lookup back split other
    cases front with
    | nil =>
        obtain ⟨⟨rfl, rfl⟩, rfl⟩ : (first = var ∧ some event = lookup) ∧ lookups = back := by
          simpa using split
        rw [Connection.asksHandle_event_iff]
        simp [unresolved, asked, PlaceRequests.sent]
    | cons head front =>
        obtain ⟨rfl, behind⟩ := List.cons.inj split
        rw [rest.asked front var lookup back behind other]
        by_cases here : var = first
        · subst here
          refine iff_of_false ?_ ?_
          · rintro ⟨again, _⟩
            simp [ADSVariable.readdress] at again
          · rintro ⟨_, failed, _⟩
            exact failed event (by simp) accepted
        · simp [here, PlaceRequests.sent]
  · intro var other member accepted
    rcases List.mem_cons.mp member with same | later
    · cases same
      exact first_after
    · have elsewhere : var ≠ first := by
        rintro rfl
        exact no_more other later
      rw [rest.found var other later accepted, Function.update_of_ne elsewhere]
  · intro var failed
    have elsewhere : var ≠ first := by
      rintro rfl
      exact failed event (by simp) accepted
    rw [rest.kept var fun other member => failed other (List.mem_cons_of_mem _ member),
      Function.update_of_ne elsewhere]

theorem complete (each : ResolvesEach ads connection vars trace lookups after)
    (accepted : ∀ event ∈ PlaceRequests.sent lookups, event.reply.rc = 0) {var : VarId}
    (listed : var ∈ lookups.map Prod.fst) : (after var).addr.nameIsResolved = true := by
  by_cases found : ∃ event, (var, some event) ∈ lookups
  · obtain ⟨event, member⟩ := found
    have sent : event ∈ PlaceRequests.sent lookups := List.mem_filterMap.mpr ⟨_, member, rfl⟩
    rw [each.found var event member (accepted event sent)]
    rfl
  · rw [each.kept var fun event member => absurd ⟨event, member⟩ found]
    obtain ⟨⟨_, lookup⟩, member, rfl⟩ := List.mem_map.mp listed
    obtain ⟨front, back, split⟩ := List.append_of_mem member
    by_contra resolved
    have asked := (each.asked front _ lookup back split _).mpr
      ⟨by simpa using resolved, fun earlier before _ => found ⟨earlier, ?_⟩,
        (connection.asksHandle_event_iff ads).mpr rfl⟩
    · rw [asked] at member
      exact found ⟨_, member⟩
    · rw [split]
      exact List.mem_append_left _ before

end ResolvesEach

theorem ADSVariable.resolveName_unresolved {var : ADSVariable} {trace : Trace} {event : AdsEvent}
    (unresolved : var.addr.nameIsResolved = false)
    (asked : ads.event trace (connection.lookUpCall var.addr) = event) :
    var.resolveName ads connection trace =
      if event.reply.rc = 0 then
        (none, var.readdress adsigrpSymValByHnd event.reply.handle true, trace ++ [event])
      else (some (adsRcToEpicsadsError event.reply.rc), var, trace ++ [event]) := by
  by_cases accepted : event.reply.rc = 0
  · simp [resolveName, unresolved, asked, accepted, readdress,
      ADSAddress.resolve_of_unresolved unresolved]
  · simp [resolveName, unresolved, asked, accepted]

/-- The loop of `resolve_variables` looks up each place that it finds unresolved. -/
theorem Connection.resolveLoop_each (ids : List VarId) (status : Int) (vars : Vars)
    (trace : Trace) :
    ∃ lookups : PlaceRequests, lookups.map Prod.fst = ids ∧
      (connection.resolveLoop ads ids status vars trace).2.2 = trace ++ lookups.sent ∧
      ResolvesEach ads connection vars trace lookups
        (connection.resolveLoop ads ids status vars trace).2.1 ∧
      ((connection.resolveLoop ads ids status vars trace).1 = 0 ↔
        status = 0 ∧ ∀ event ∈ lookups.sent, event.reply.rc = 0) := by
  induction ids generalizing status vars trace with
  | nil => exact ⟨[], rfl, by simp [resolveLoop, PlaceRequests.sent], .nil vars trace, by
      simp [resolveLoop, PlaceRequests.sent]⟩
  | cons first rest ih =>
      rw [resolveLoop]
      obtain ⟨event, asked⟩ :
          ∃ event, ads.event trace (connection.lookUpCall (vars first).addr) = event := ⟨_, rfl⟩
      cases resolved : (vars first).addr.nameIsResolved with
      | true =>
          have passed : (vars first).resolveName ads connection trace = (none, vars first, trace) :=
            if_pos resolved
          obtain ⟨lookups, places, sent, each, status_iff⟩ := ih status vars trace
          simp only [passed, Option.getD_none, Function.update_eq_self]
          exact ⟨(first, none) :: lookups, by rw [List.map_cons, places], sent,
            each.cons_resolved resolved, status_iff⟩
      | false =>
          have named := ADSVariable.resolveName_unresolved ads connection resolved asked
          by_cases accepted : event.reply.rc = 0
          · rw [if_pos accepted] at named
            obtain ⟨lookups, places, sent, each, status_iff⟩ := ih status
              (Function.update vars first
                ((vars first).readdress adsigrpSymValByHnd event.reply.handle true))
              (trace ++ [event])
            simp only [named, Option.getD_none]
            refine ⟨(first, some event) :: lookups, by rw [List.map_cons, places], ?_,
              each.cons_found resolved asked accepted, ?_⟩
            · rw [sent, List.append_assoc]
              rfl
            · rw [status_iff]
              simp [PlaceRequests.sent, accepted]
          · rw [if_neg accepted] at named
            obtain ⟨lookups, places, sent, each, status_iff⟩ :=
              ih (adsRcToEpicsadsError event.reply.rc) vars (trace ++ [event])
            simp only [named, Option.getD_some, Function.update_eq_self]
            refine ⟨(first, some event) :: lookups, by rw [List.map_cons, places], ?_,
              each.cons_failed resolved asked accepted, ?_⟩
            · rw [sent, List.append_assoc]
              rfl
            · rw [status_iff, adsRcToEpicsadsError_eq_zero_iff]
              simp [PlaceRequests.sent, accepted]

/-- A code that shows that the device is not connected. -/
def AdsEvent.Disconnected (event : AdsEvent) : Prop :=
  adsRcToEpicsadsError event.reply.rc = epicsadsDisconnected

theorem AdsEvent.not_disconnected {event : AdsEvent} (accepted : event.reply.rc = 0) :
    ¬ event.Disconnected := by
  rw [Disconnected, accepted]
  decide

/-- Nothing was requested after an answer that shows a disconnected device. -/
def StopsDisconnected (events : Trace) : Prop :=
  ∀ front event back, events = front ++ event :: back → event.Disconnected → back = []

theorem StopsDisconnected.cons {event : AdsEvent} {events : Trace}
    (first : event.Disconnected → events = []) (stops : StopsDisconnected events) :
    StopsDisconnected (event :: events) := by
  intro front other back split disconnected
  cases front with
  | nil =>
      obtain ⟨rfl, rfl⟩ := List.cons.inj split
      exact first disconnected
  | cons head front => exact stops front other back (List.cons.inj split).2 disconnected

/-- A variable that can only be unresolved to group and offset 0. -/
def ADSVariable.Clearable (var : ADSVariable) : Prop :=
  var.addr.variableName ≠ [] ∧
    (var.addr.nameIsResolved = false → var.addr.indexGroup = 0 ∧ var.addr.indexOffset = 0)

/-- The body of the loop of `unresolve_variables` leaves a variable with a name unresolved. -/
theorem ADSVariable.Clearable.unresolveName {var : ADSVariable} (clearable : var.Clearable)
    (adsIsConnected : Bool) (trace : Trace) :
    (var.unresolveName ads connection adsIsConnected trace).2.2.1 = var.readdress 0 0 false := by
  obtain ⟨named, cleared⟩ := clearable
  unfold ADSVariable.unresolveName
  split_ifs with unresolved
  · obtain ⟨no_group, no_offset⟩ := cleared unresolved
    calc var = var.readdress var.addr.indexGroup var.addr.indexOffset var.addr.nameIsResolved := rfl
      _ = var.readdress 0 0 false := by rw [no_group, no_offset, unresolved]
  · simp only [ADSAddress.unresolve_of_name named]
    rfl
  · simp only [ADSAddress.unresolve_of_name named]
    rfl

theorem ADSVariable.Clearable.update_clearable {vars : Vars} {first : VarId} {rest : List VarId}
    (named : (vars first).Clearable) (clearable : ∀ var ∈ first :: rest, (vars var).Clearable) :
    ∀ var ∈ rest,
      (Function.update vars first ((vars first).readdress 0 0 false) var).Clearable := by
  intro var later
  by_cases here : var = first
  · subst here
    rw [Function.update_self]
    exact ⟨named.1, fun _ => ⟨rfl, rfl⟩⟩
  · rw [Function.update_of_ne here]
    exact clearable var (List.mem_cons_of_mem _ later)

/-- What one place of the list adds to the requests of `unresolve_variables`. -/
inductive ADSVariable.Unresolved (var : ADSVariable) (adsIsConnected : Bool) (trace : Trace) :
    Bool × Bool × Trace → Option AdsEvent → Prop
  | unresolved (resolved : var.addr.nameIsResolved = false) :
      Unresolved var adsIsConnected trace (adsIsConnected, false, trace) none
  | offline (resolved : var.addr.nameIsResolved = true) (gone : adsIsConnected = false) :
      Unresolved var adsIsConnected trace (false, false, trace) none
  | released {event : AdsEvent} (resolved : var.addr.nameIsResolved = true)
      (online : adsIsConnected = true) (asked : connection.ReleasesHandle var.addr event.call)
      (answered : event = ads.event trace event.call) {connected error : Bool}
      (connected_iff : connected = true ↔ ¬ event.Disconnected)
      (error_iff : error = false ↔ event.reply.rc = 0) :
      Unresolved var adsIsConnected trace (connected, error, trace ++ [event]) (some event)

theorem ADSVariable.unresolveName_unresolved (var : ADSVariable) (adsIsConnected : Bool)
    (trace : Trace) :
    ∃ release, var.Unresolved ads connection adsIsConnected trace
      ((var.unresolveName ads connection adsIsConnected trace).1,
        (var.unresolveName ads connection adsIsConnected trace).2.1,
        (var.unresolveName ads connection adsIsConnected trace).2.2.2) release := by
  unfold ADSVariable.unresolveName
  split_ifs with unresolved connected
  · exact ⟨none, .unresolved unresolved⟩
  · refine ⟨some (ads.event trace (connection.releaseCall var.addr)), .released
      (by simpa using unresolved) connected (Connection.releasesHandle_iff.mpr rfl) rfl ?_ ?_⟩
    · generalize ads.event trace (connection.releaseCall var.addr) = event
      by_cases accepted : event.reply.rc = 0
      · simp [accepted, AdsEvent.not_disconnected accepted]
      · simp [accepted, AdsEvent.Disconnected]
    · simp only [ne_eq, decide_eq_false_iff_not, not_not]
  · have gone : adsIsConnected = false := by simpa using connected
    rw [gone]
    exact ⟨none, .offline (by simpa using unresolved) rfl⟩

/-- A release was requested for each place that was found resolved before an answer has shown a
disconnected device, with the port and the handle of its variable. -/
def ReleasesEach (connected : Bool) (vars : Vars) (trace : Trace) (releases : PlaceRequests) :
    Prop :=
  ∀ front var release back, releases = front ++ (var, release) :: back → ∀ event,
    release = some event ↔ connected = true ∧ (vars var).addr.nameIsResolved = true ∧
      var ∉ front.map Prod.fst ∧ (∀ earlier ∈ PlaceRequests.sent front, ¬ earlier.Disconnected) ∧
      connection.ReleasesHandle (vars var).addr event.call ∧
      event = ads.event (trace ++ PlaceRequests.sent front) event.call

namespace ReleasesEach

variable {ads connection} {connected : Bool} {vars : Vars} {trace : Trace}
  {releases : PlaceRequests} {first : VarId}

theorem nil (connected : Bool) (vars : Vars) (trace : Trace) :
    ReleasesEach ads connection connected vars trace [] := by
  intro front var release back split
  simp at split

theorem cons_none (none_asked : (vars first).addr.nameIsResolved = false ∨ connected = false)
    (rest : ReleasesEach ads connection connected
      (Function.update vars first ((vars first).readdress 0 0 false)) trace releases) :
    ReleasesEach ads connection connected vars trace ((first, none) :: releases) := by
  intro front var release back split event
  cases front with
  | nil =>
      obtain ⟨⟨rfl, rfl⟩, rfl⟩ : (first = var ∧ none = release) ∧ releases = back := by
        simpa using split
      rcases none_asked with unresolved | gone
      · simp [unresolved]
      · simp [gone]
  | cons head front =>
      obtain ⟨rfl, behind⟩ := List.cons.inj split
      rw [rest front var release back behind event]
      by_cases here : var = first
      · subst here
        simp [ADSVariable.readdress]
      · simp [here, PlaceRequests.sent_cons]

/-- A place whose release is requested. -/
theorem cons_released {event : AdsEvent} {connected' : Bool}
    (resolved : (vars first).addr.nameIsResolved = true) (online : connected = true)
    (asked : connection.ReleasesHandle (vars first).addr event.call)
    (answered : event = ads.event trace event.call)
    (connected_iff : connected' = true ↔ ¬ event.Disconnected)
    (rest : ReleasesEach ads connection connected'
      (Function.update vars first ((vars first).readdress 0 0 false)) (trace ++ [event]) releases) :
    ReleasesEach ads connection connected vars trace ((first, some event) :: releases) := by
  intro front var release back split other
  cases front with
  | nil =>
      obtain ⟨⟨rfl, rfl⟩, rfl⟩ : (first = var ∧ some event = release) ∧ releases = back := by
        simpa using split
      simp only [PlaceRequests.sent, List.filterMap_nil, List.append_nil, online, resolved,
        List.map_nil, List.not_mem_nil, not_false_eq_true, false_implies, implies_true, true_and,
        Option.some.injEq]
      constructor
      · rintro rfl
        exact ⟨asked, answered⟩
      · rintro ⟨asked', answered'⟩
        rw [answered, answered', asked, asked']
  | cons head front =>
      obtain ⟨rfl, behind⟩ := List.cons.inj split
      rw [rest front var release back behind other]
      by_cases here : var = first
      · subst here
        simp [ADSVariable.readdress]
      · simp [here, PlaceRequests.sent_cons, online, connected_iff, and_assoc, and_left_comm]

end ReleasesEach

namespace Connection

theorem unresolveLoop_clears (ids : List VarId) (adsIsConnected unresolveErrors : Bool)
    (vars : Vars) (trace : Trace) (clearable : ∀ var ∈ ids, (vars var).Clearable) :
    ∀ var, (connection.unresolveLoop ads ids adsIsConnected unresolveErrors vars trace).2.2.1 var =
      if var ∈ ids then (vars var).readdress 0 0 false else vars var := by
  induction ids generalizing adsIsConnected unresolveErrors vars trace with
  | nil => exact fun var => by simp [unresolveLoop]
  | cons first rest ih =>
      intro var
      have named := clearable first (by simp)
      rw [unresolveLoop]
      simp only [named.unresolveName ads connection]
      rw [ih _ _ _ _ (named.update_clearable clearable)]
      by_cases here : var = first
      · subst here
        simp [ADSVariable.readdress]
      · simp [here]

/-- The loop of `unresolve_variables` makes the requests that it has to make, none once the device
has been found disconnected, and reports exactly the failures. -/
theorem unresolveLoop_requests (ids : List VarId) (adsIsConnected unresolveErrors : Bool)
    (vars : Vars) (trace : Trace) (clearable : ∀ var ∈ ids, (vars var).Clearable) :
    ∃ releases : PlaceRequests, releases.map Prod.fst = ids ∧
      (connection.unresolveLoop ads ids adsIsConnected unresolveErrors vars trace).2.2.2 =
        trace ++ releases.sent ∧
      ReleasesEach ads connection adsIsConnected vars trace releases ∧
      (adsIsConnected = false → releases.sent = []) ∧ StopsDisconnected releases.sent ∧
      ((connection.unresolveLoop ads ids adsIsConnected unresolveErrors vars trace).1 = true ∧
          (connection.unresolveLoop ads ids adsIsConnected unresolveErrors vars trace).2.1 = false ↔
        adsIsConnected = true ∧ unresolveErrors = false ∧
          ∀ event ∈ releases.sent, event.reply.rc = 0) := by
  induction ids generalizing adsIsConnected unresolveErrors vars trace with
  | nil =>
      refine ⟨[], rfl, by simp [unresolveLoop, PlaceRequests.sent], .nil _ _ _, fun _ => rfl, ?_,
        by simp [unresolveLoop, PlaceRequests.sent]⟩
      intro front event back split
      simp [PlaceRequests.sent] at split
  | cons first rest ih =>
      have named := clearable first List.mem_cons_self
      rw [unresolveLoop]
      simp only [named.unresolveName ads connection]
      obtain ⟨release, outcome⟩ :=
        (vars first).unresolveName_unresolved ads connection adsIsConnected trace
      generalize (vars first).unresolveName ads connection adsIsConnected trace = result at *
      obtain ⟨connected, error, content, between⟩ := result
      dsimp only at outcome ⊢
      obtain ⟨releases, places, trace_eq, each, offline, stops, status_iff⟩ :=
        ih connected (unresolveErrors || error) _ between (named.update_clearable clearable)
      rw [status_iff, trace_eq, ← places]
      refine ⟨(first, release) :: releases, rfl, ?_⟩
      rw [PlaceRequests.sent_cons]
      cases outcome with
      | unresolved unresolved =>
          exact ⟨rfl, each.cons_none (.inl unresolved), offline, stops, by simp⟩
      | offline _ gone =>
          subst gone
          exact ⟨rfl, each.cons_none (.inr rfl), offline, stops, by simp⟩
      | @released event resolved online asked answered _ _ connected_iff error_iff =>
          have accepted_connected : event.reply.rc = 0 → connected = true := by
            intro accepted
            exact connected_iff.mpr (AdsEvent.not_disconnected accepted)
          refine ⟨by simp, each.cons_released resolved online asked answered connected_iff,
            fun closed => ?_, stops.cons fun gone => ?_, ?_⟩
          · rw [closed] at online
            cases online
          · refine offline ?_
            by_contra connected_still
            exact connected_iff.mp (by simpa using connected_still) gone
          · simp only [Bool.or_eq_false_iff, error_iff, online, Option.toList_some,
              List.singleton_append, List.mem_cons, forall_eq_or_imp, true_and]
            constructor
            · rintro ⟨_, ⟨no_error, accepted⟩, later⟩
              exact ⟨no_error, accepted, later⟩
            · rintro ⟨no_error, accepted, later⟩
              exact ⟨accepted_connected accepted, ⟨no_error, accepted⟩, later⟩

end Connection

/-- What `resolve_variables` reports, asks and leaves. -/
def ResolvesCompletely (ids : List VarId) (vars : Vars) (trace : Trace) : Prop :=
  let result := connection.resolveVariables ads ids vars trace
  ∃ lookups : PlaceRequests, lookups.map Prod.fst = ids ∧ result.2.2 = trace ++ lookups.sent ∧
    ResolvesEach ads connection vars trace lookups result.2.1 ∧
    (result.1 = 0 ↔ ∀ event ∈ lookups.sent, event.reply.rc = 0) ∧
    (result.1 = 0 → ∀ var ∈ ids, (result.2.1 var).addr.nameIsResolved = true)

/-- What `unresolve_variables` reports, asks and leaves. -/
def UnresolvesCompletely (ids : List VarId) (vars : Vars) (trace : Trace) : Prop :=
  let result := connection.unresolveVariables ads ids vars trace
  ∃ releases : PlaceRequests, releases.map Prod.fst = ids ∧ result.2.2 = trace ++ releases.sent ∧
    ReleasesEach ads connection true vars trace releases ∧
    StopsDisconnected releases.sent ∧
    (result.1 = 0 ↔ ∀ event ∈ releases.sent, event.reply.rc = 0) ∧
    ∀ var, result.2.1 var = if var ∈ ids then (vars var).readdress 0 0 false else vars var

variable {ads connection}

/-- Resolving and unresolving variables with names is complete, and its status is exact. -/
theorem resolution_complete (connected : connection.isConnected = true) {ids : List VarId}
    (nonempty : ids ≠ []) {vars : Vars}
    (by_name : ∀ var ∈ ids, (vars var).addr.NameAddressed) (trace : Trace) :
    ResolvesCompletely ads connection ids vars trace ∧
      UnresolvesCompletely ads connection ids vars trace := by
  constructor
  · obtain ⟨lookups, places, sent, each, status_iff⟩ :=
      connection.resolveLoop_each ads ids 0 vars trace
    unfold ResolvesCompletely Connection.resolveVariables
    rw [if_neg nonempty, connected]
    have exact_status := status_iff.trans (and_iff_right rfl)
    refine ⟨lookups, places, sent, each, exact_status, fun success var listed => ?_⟩
    exact each.complete (exact_status.mp success) (by rwa [places])
  · have clearable : ∀ var ∈ ids, (vars var).Clearable :=
      fun var listed => ⟨(by_name var listed).named, (by_name var listed).cleared⟩
    obtain ⟨releases, places, trace_eq, each, _, stops, status_iff⟩ :=
      connection.unresolveLoop_requests ads ids connection.isConnected false vars trace clearable
    unfold UnresolvesCompletely Connection.unresolveVariables
    rw [if_neg nonempty]
    refine ⟨releases, places, trace_eq, connected ▸ each, stops, ?_,
      connection.unresolveLoop_clears ads ids _ _ vars trace clearable⟩
    have exact_status := status_iff.trans ((and_iff_right connected).trans (and_iff_right rfl))
    rw [← exact_status]
    dsimp only
    split_ifs with gone errors
    · simp [gone, epicsadsDisconnected]
    · simp [errors, epicsadsNotResolved]
    · simp [gone, errors]

end

/-- A 16-bit integer by name. -/
def namedVar : ADSVariable :=
  { addr := namedAddress .int .read 851 "Main.x".toList 1
    arrayDataHash := 0 }

theorem namedVar_by_name : namedVar.addr.NameAddressed :=
  ⟨.link "INT".toList ["R".toList, "P=851".toList, "V=Main.x".toList], namedVar.addr, [],
    by decide, rfl, rfl⟩

theorem resolution_complete_sample :
    let refusing : Ads := fun trace _ => { rc := if trace = [] then 1808 else 0 }
    ResolvesCompletely refusing { adsPort := 1 } [0, 1, 0] (fun _ => namedVar) [] ∧
      UnresolvesCompletely refusing { adsPort := 1 } [0, 1, 0] (fun _ => namedVar) [] :=
  resolution_complete rfl (List.cons_ne_nil 0 [1, 0]) (fun _ _ => namedVar_by_name) []

end AdsDriver
