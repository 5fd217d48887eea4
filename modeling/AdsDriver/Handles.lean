import AdsDriver.SumReadRequest

/-!
# Connections and handles

`connect` and `disconnect` open and close the ADS port.  `resolve_variables` looks up a handle for
each variable that has none, and goes on after a failure; `unresolve_variables` marks every
variable as unresolved, whether or not its handle could be released.
-/

namespace AdsDriver

open ByteMemory

namespace Connection

/-- `connect`. -/
def connect (ads : Ads) (connection : Connection) (amsId : AmsNetId) (address : Str)
    (deviceReadAdsPort : UInt16) (trace : Trace) : Int × Connection × Trace :=
  let routed := ads.event trace (.addRoute amsId address)
  if routed.reply.rc ≠ 0 then (epicsadsDisconnected, connection, trace ++ [routed])
  else
    let opened := ads.event (trace ++ [routed]) .portOpen
    if opened.reply.port = 0 then
      (epicsadsDisconnected, connection, trace ++ [routed] ++ [opened])
    else
      (0, { remoteAmsNetId := amsId, adsPort := opened.reply.port, deviceReadAdsPort },
        trace ++ [routed] ++ [opened])

/-- `set_disconnected`. -/
def setDisconnected (connection : Connection) : Connection :=
  { connection with adsPort := 0, remoteAmsNetId := .zero }

/-- `disconnect`. -/
def disconnect (ads : Ads) (connection : Connection) (trace : Trace) : Int × Connection × Trace :=
  if !connection.isConnected then (epicsadsDisconnected, connection, trace)
  else
    let closed := ads.event trace (.portClose connection.adsPort)
    let removed := ads.event (trace ++ [closed]) (.delRoute connection.remoteAmsNetId)
    (0, connection.setDisconnected, trace ++ [closed] ++ [removed])

/-- `read_device_info` into arguments of the right size; the version and name it reads are not
used. -/
def readDeviceInfo (ads : Ads) (connection : Connection) (trace : Trace) : Int × Trace :=
  if !connection.isConnected then (epicsadsDisconnected, trace)
  else
    let event := ads.event trace (.readDeviceInfo connection.adsPort connection.remoteAmsNetId
      connection.deviceReadAdsPort)
    (adsRcToEpicsadsError event.reply.rc, trace ++ [event])

/-- `read_device_state`; the states it reads are not used. -/
def readDeviceState (ads : Ads) (connection : Connection) (trace : Trace) : Int × Trace :=
  if !connection.isConnected then (epicsadsDisconnected, trace)
  else
    let event := ads.event trace (.readState connection.adsPort connection.remoteAmsNetId
      connection.deviceReadAdsPort)
    (adsRcToEpicsadsError event.reply.rc, trace ++ [event])

end Connection

/-- The bytes of a C++ string. -/
def Str.bytes (text : Str) : Bytes := text.map fun char => UInt8.ofNat char.toNat

/-- The handle in an answer of up to four bytes to a variable that was 0. -/
def AdsReply.handle (reply : AdsReply) : UInt32 :=
  UInt32.ofNat (leNat (overwrite (reply.data.take 4) [0, 0, 0, 0]))

/-- The lookup of the handle for a name. -/
def Connection.lookUpCall (connection : Connection) (addr : ADSAddress) : AdsCall :=
  .readWrite connection.adsPort connection.remoteAmsNetId addr.adsPort adsigrpSymHndByName 0 4
    addr.variableName.bytes.length addr.variableName.bytes

/-- The release of the handle of a variable. -/
def Connection.releaseCall (connection : Connection) (addr : ADSAddress) : AdsCall :=
  .write connection.adsPort connection.remoteAmsNetId addr.adsPort adsigrpSymReleaseHnd 0
    (leBytes 4 addr.indexOffset.toNat)

/-- What a lookup must ask for on a connection: from the variable's own port, by
`ADSIGRP_SYM_HNDBYNAME`, a handle of four bytes for the name, which is written in full. -/
def Connection.AsksHandle (connection : Connection) (addr : ADSAddress) (call : AdsCall) : Prop :=
  call = .readWrite connection.adsPort connection.remoteAmsNetId addr.adsPort
    adsigrpSymHndByName 0 4
    addr.variableName.length (addr.variableName.map fun char => UInt8.ofNat char.toNat)

/-- What a release must ask for on a connection: to take back, by `ADSIGRP_SYM_RELEASEHND`, the
handle that the variable has at its own port. -/
def Connection.ReleasesHandle (connection : Connection) (addr : ADSAddress)
    (call : AdsCall) : Prop :=
  call = .write connection.adsPort connection.remoteAmsNetId addr.adsPort adsigrpSymReleaseHnd 0
    (leBytes 4 addr.indexOffset.toNat)

theorem Connection.asksHandle_iff {connection : Connection} {addr : ADSAddress} {call : AdsCall} :
    connection.AsksHandle addr call ↔ call = connection.lookUpCall addr := by
  rw [AsksHandle, lookUpCall, Str.bytes, List.length_map]

theorem Connection.releasesHandle_iff {connection : Connection} {addr : ADSAddress}
    {call : AdsCall} : connection.ReleasesHandle addr call ↔ call = connection.releaseCall addr :=
  Iff.rfl

namespace ADSVariable

/-- The body of the loop of `resolve_variables`: the new status, if it is set, and the variable. -/
def resolveName (ads : Ads) (connection : Connection) (var : ADSVariable) (trace : Trace) :
    Option Int × ADSVariable × Trace :=
  if var.addr.nameIsResolved = true then (none, var, trace)
  else
    let event := ads.event trace (connection.lookUpCall var.addr)
    if event.reply.rc ≠ 0 then (some (adsRcToEpicsadsError event.reply.rc), var, trace ++ [event])
    else
      let resolved := var.addr.resolve adsigrpSymValByHnd event.reply.handle
      (if resolved.1 ≠ 0 then some epicsadsError else none, { var with addr := resolved.2 },
        trace ++ [event])

/-- The body of the loop of `unresolve_variables`: whether the connection is still taken to be
established, whether an error was met, and the variable. -/
def unresolveName (ads : Ads) (connection : Connection) (adsIsConnected : Bool) (var : ADSVariable)
    (trace : Trace) : Bool × Bool × ADSVariable × Trace :=
  if var.addr.nameIsResolved = false then (adsIsConnected, false, var, trace)
  else if adsIsConnected then
    let event := ads.event trace (connection.releaseCall var.addr)
    (!(event.reply.rc ≠ 0 && adsRcToEpicsadsError event.reply.rc = epicsadsDisconnected),
      event.reply.rc ≠ 0, { var with addr := var.addr.unresolve.2 }, trace ++ [event])
  else (adsIsConnected, false, { var with addr := var.addr.unresolve.2 }, trace)

end ADSVariable

namespace Connection

/-- The loop of `resolve_variables`: a later failure replaces an earlier one. -/
def resolveLoop (ads : Ads) (connection : Connection) :
    List VarId → Int → Vars → Trace → Int × Vars × Trace
  | [], status, vars, trace => (status, vars, trace)
  | var :: rest, status, vars, trace =>
      let named := (vars var).resolveName ads connection trace
      resolveLoop ads connection rest (named.1.getD status) (Function.update vars var named.2.1)
        named.2.2

/-- `resolve_variables`. -/
def resolveVariables (ads : Ads) (connection : Connection) (adsVariables : List VarId) (vars : Vars)
    (trace : Trace) : Int × Vars × Trace :=
  if adsVariables = [] then (epicsadsNoData, vars, trace)
  else if !connection.isConnected then (epicsadsDisconnected, vars, trace)
  else resolveLoop ads connection adsVariables 0 vars trace

/-- The loop of `unresolve_variables`. -/
def unresolveLoop (ads : Ads) (connection : Connection) :
    List VarId → Bool → Bool → Vars → Trace → Bool × Bool × Vars × Trace
  | [], adsIsConnected, unresolveErrors, vars, trace =>
      (adsIsConnected, unresolveErrors, vars, trace)
  | var :: rest, adsIsConnected, unresolveErrors, vars, trace =>
      let named := (vars var).unresolveName ads connection adsIsConnected trace
      unresolveLoop ads connection rest named.1 (unresolveErrors || named.2.1)
        (Function.update vars var named.2.2.1) named.2.2.2

/-- `unresolve_variables`. -/
def unresolveVariables (ads : Ads) (connection : Connection) (adsVariables : List VarId)
    (vars : Vars) (trace : Trace) : Int × Vars × Trace :=
  if adsVariables = [] then (epicsadsNoData, vars, trace)
  else
    let loop := unresolveLoop ads connection adsVariables connection.isConnected false vars trace
    (if loop.1 = false then epicsadsDisconnected
      else if loop.2.1 then epicsadsNotResolved else 0, loop.2.2)

end Connection

/-- A variable with another resolution of its name. -/
def ADSVariable.readdress (var : ADSVariable) (indexGroup indexOffset : UInt32)
    (nameIsResolved : Bool) : ADSVariable :=
  { var with addr := { var.addr with indexGroup, indexOffset, nameIsResolved } }

/-- Two states of the variables that differ only in how names are resolved. -/
def Vars.Readdressed (before after : Vars) : Prop :=
  ∀ var, ∃ group offset resolved, after var = (before var).readdress group offset resolved

namespace Vars.Readdressed

variable {before after : Vars}

theorem refl (vars : Vars) : vars.Readdressed vars := fun _ => ⟨_, _, _, rfl⟩

theorem trans {last : Vars} (first : before.Readdressed after) (second : after.Readdressed last) :
    before.Readdressed last := by
  intro var
  obtain ⟨_, _, _, first_eq⟩ := first var
  obtain ⟨group, offset, resolved, second_eq⟩ := second var
  exact ⟨group, offset, resolved, by rw [second_eq, first_eq]; rfl⟩

theorem samePlaces (same : before.Readdressed after) : before.SamePlaces after := by
  refine ⟨fun var => ?_, fun var => ?_, fun var => ?_⟩ <;>
    obtain ⟨_, _, _, after_eq⟩ := same var <;> rw [after_eq] <;> rfl

theorem variableName_eq (same : before.Readdressed after) (var : VarId) :
    (after var).addr.variableName = (before var).addr.variableName := by
  obtain ⟨_, _, _, after_eq⟩ := same var
  rw [after_eq]
  rfl

/-- Readdressing one variable. -/
theorem update (vars : Vars) {var : VarId} {content : ADSVariable}
    (same : ∃ group offset resolved, content = (vars var).readdress group offset resolved) :
    vars.Readdressed (Function.update vars var content) := by
  intro other
  by_cases here : other = var
  · subst here
    rw [Function.update_self]
    exact same
  · rw [Function.update_of_ne here]
    exact refl vars other

end Vars.Readdressed

/-- A variable is resolved to a handle that a lookup of its name has returned. -/
structure ADSVariable.Held (connection : Connection) (events : Trace)
    (var : ADSVariable) : Prop where
  resolved : var.addr.nameIsResolved = true
  group_eq : var.addr.indexGroup = adsigrpSymValByHnd
  granted : ∃ event ∈ events, connection.AsksHandle var.addr event.call ∧ event.reply.rc = 0 ∧
    event.reply.handle = var.addr.indexOffset

theorem ADSVariable.Held.mono {connection : Connection} {events more : Trace} {var : ADSVariable}
    (held : var.Held connection events) (subset : events ⊆ more) : var.Held connection more := by
  obtain ⟨event, member, granted⟩ := held.granted
  exact ⟨held.resolved, held.group_eq, event, subset member, granted⟩

section Loops

variable (ads : Ads) (connection : Connection)

theorem ADSVariable.resolveName_cases (var : ADSVariable) (trace : Trace) {event : AdsEvent}
    (asked : ads.event trace (connection.lookUpCall var.addr) = event) :
    (var.addr.nameIsResolved = true ∧ var.resolveName ads connection trace = (none, var, trace)) ∨
      (∃ status, status ≠ 0 ∧
        var.resolveName ads connection trace = (some status, var, trace ++ [event])) ∨
      (event.reply.rc = 0 ∧ var.resolveName ads connection trace =
        (none, var.readdress adsigrpSymValByHnd event.reply.handle true, trace ++ [event])) := by
  by_cases resolved : var.addr.nameIsResolved = true
  · exact .inl ⟨resolved, if_pos resolved⟩
  · by_cases accepted : event.reply.rc = 0
    · refine .inr (.inr ⟨accepted, ?_⟩)
      have unresolved : var.addr.nameIsResolved = false := by simpa using resolved
      simp only [resolveName, asked, accepted, unresolved,
        ADSAddress.resolve_of_unresolved unresolved]
      rfl
    · refine .inr (.inl ⟨adsRcToEpicsadsError event.reply.rc, ?_, ?_⟩)
      · rwa [ne_eq, adsRcToEpicsadsError_eq_zero_iff]
      · simp [resolveName, asked, accepted, resolved]

namespace Connection

/-- The loop of `resolve_variables` gives handles to some variables and, if it reports success, to
all of them. -/
theorem resolveLoop_spec (ids : List VarId) (status : Int) (vars : Vars) (trace : Trace)
    {status' : Int} {after : Vars} {trace' : Trace}
    (done : resolveLoop ads connection ids status vars trace = (status', after, trace')) :
    ∃ events, trace' = trace ++ events ∧
      (∀ event ∈ events, ∃ addr, connection.AsksHandle addr event.call) ∧
      vars.Readdressed after ∧
      (∀ var, after var = vars var ∨ (after var).Held connection events) ∧
      (status' = 0 → status = 0 ∧ ∀ var ∈ ids, (after var).addr.nameIsResolved = true) := by
  induction ids generalizing status vars trace with
  | nil =>
      obtain ⟨rfl, rfl, rfl⟩ : status = status' ∧ vars = after ∧ trace = trace' := by
        simpa [resolveLoop] using done
      exact ⟨[], by simp, by simp, .refl vars, fun _ => .inl rfl, by simp⟩
  | cons first rest ih =>
      rw [resolveLoop] at done
      obtain ⟨event, asked⟩ :
          ∃ event, ads.event trace (connection.lookUpCall (vars first).addr) = event := ⟨_, rfl⟩
      have event_call : connection.AsksHandle (vars first).addr event.call := by
        rw [Connection.asksHandle_iff, ← asked]
        rfl
      rcases (vars first).resolveName_cases ads connection trace asked with
        ⟨resolved, named⟩ | ⟨failure, failed, named⟩ | ⟨accepted, named⟩
      · simp only [named, Option.getD_none, Function.update_eq_self] at done
        obtain ⟨events, rfl, calls, same, kept, succeeded⟩ := ih status vars trace done
        refine ⟨events, rfl, calls, same, kept, fun zero => ?_⟩
        obtain ⟨before_zero, all⟩ := succeeded zero
        refine ⟨before_zero, fun var member => ?_⟩
        rcases List.mem_cons.mp member with rfl | later
        · rcases kept var with unchanged | held
          · rw [unchanged, resolved]
          · exact held.resolved
        · exact all var later
      · simp only [named, Option.getD_some, Function.update_eq_self] at done
        obtain ⟨events, rfl, calls, same, kept, succeeded⟩ :=
          ih failure vars (trace ++ [event]) done
        refine ⟨event :: events, by simp, ?_, same, ?_, fun zero => ?_⟩
        · rintro other (_ | ⟨_, later⟩)
          · exact ⟨_, event_call⟩
          · exact calls other later
        · exact fun var => (kept var).imp_right fun held => held.mono (List.subset_cons_self _ _)
        · exact absurd (succeeded zero).1 failed
      · simp only [named, Option.getD_none] at done
        obtain ⟨events, rfl, calls, same, kept, succeeded⟩ := ih status _ (trace ++ [event]) done
        have found : ((vars first).readdress adsigrpSymValByHnd event.reply.handle true).Held
            connection (event :: events) :=
          ⟨rfl, rfl, event, by simp, event_call, accepted, rfl⟩
        have kept' : ∀ var, after var = vars var ∨ (after var).Held connection
          (event :: events) := by
          intro var
          rcases kept var with unchanged | held
          · by_cases here : var = first
            · subst here
              rw [unchanged, Function.update_self]
              exact .inr found
            · exact .inl (by rw [unchanged, Function.update_of_ne here])
          · exact .inr (held.mono (List.subset_cons_self _ _))
        refine ⟨event :: events, by simp, ?_, ?_, kept', fun zero => ?_⟩
        · rintro other (_ | ⟨_, later⟩)
          · exact ⟨_, event_call⟩
          · exact calls other later
        · exact (Vars.Readdressed.update vars ⟨_, _, _, rfl⟩).trans same
        · obtain ⟨before_zero, all⟩ := succeeded zero
          refine ⟨before_zero, fun var member => ?_⟩
          rcases List.mem_cons.mp member with rfl | later
          · rcases kept var with unchanged | held
            · rw [unchanged, Function.update_self]
              rfl
            · exact held.resolved
          · exact all var later

end Connection

theorem Connection.AsksHandle.plain {event : AdsEvent} {addr : ADSAddress}
    (asked : connection.AsksHandle addr event.call) : event.Plain := by
  rw [AsksHandle] at asked
  refine ⟨?_, ?_⟩
  · simp [AdsEvent.opensPort, asked]
  · rw [asked]
    rfl

theorem Connection.resolveVariables_spec (connected : connection.isConnected = true)
    {ids : List VarId} {vars : Vars} {trace : Trace} {status : Int} {after : Vars} {trace' : Trace}
    (done : connection.resolveVariables ads ids vars trace = (status, after, trace')) :
    ∃ events, trace' = trace ++ events ∧ (∀ event ∈ events, event.Plain) ∧
      vars.Readdressed after ∧
      (∀ var, after var = vars var ∨ (after var).Held connection events) ∧
      (status = 0 → ∀ var ∈ ids, (after var).addr.nameIsResolved = true) := by
  unfold resolveVariables at done
  rw [connected] at done
  split_ifs at done with empty no_connection
  · obtain ⟨rfl, rfl, rfl⟩ := Prod.mk.injEq .. ▸ done
    exact ⟨[], by simp, by simp, .refl vars, fun _ => .inl rfl, by simp [epicsadsNoData]⟩
  · exact absurd no_connection Bool.false_ne_true
  · obtain ⟨events, trace_eq, calls, same, kept, succeeded⟩ :=
      resolveLoop_spec ads connection ids 0 vars trace done
    refine ⟨events, trace_eq, fun event member => ?_, same, kept, fun zero => (succeeded zero).2⟩
    obtain ⟨addr, asked⟩ := calls event member
    exact asked.plain

/-- Unresolving one name: the variable stays as it is if it has no handle or no name, and else loses
its handle. -/
theorem ADSVariable.unresolveName_cases (adsIsConnected : Bool) (var : ADSVariable)
    (trace : Trace) :
    ∃ events, (var.unresolveName ads connection adsIsConnected trace).2.2.2 = trace ++ events ∧
      (∀ event ∈ events, event.call = connection.releaseCall var.addr) ∧
      (((var.unresolveName ads connection adsIsConnected trace).2.2.1 = var ∧
          (var.addr.nameIsResolved = false ∨ var.addr.variableName = [])) ∨
        (var.unresolveName ads connection adsIsConnected trace).2.2.1 =
          var.readdress 0 0 false) := by
  have released : var.addr.variableName = [] ∨
      { var with addr := var.addr.unresolve.2 } = var.readdress 0 0 false := by
    by_cases named : var.addr.variableName = []
    · exact .inl named
    · exact .inr (by rw [ADSAddress.unresolve_of_name named]; rfl)
  have kept (unnamed : var.addr.variableName = []) :
      { var with addr := var.addr.unresolve.2 } = var := by
    simp [ADSAddress.unresolve, unnamed]
  unfold unresolveName
  split_ifs with unresolved connected
  · exact ⟨[], by simp, by simp, .inl ⟨rfl, .inl unresolved⟩⟩
  · refine ⟨[_], rfl, by simp, ?_⟩
    exact released.imp (fun unnamed => ⟨kept unnamed, .inr unnamed⟩) id
  · refine ⟨[], by simp, by simp, ?_⟩
    exact released.imp (fun unnamed => ⟨kept unnamed, .inr unnamed⟩) id

theorem Connection.releaseCall_plain {event : AdsEvent} {addr : ADSAddress}
    (asked : event.call = connection.releaseCall addr) : event.Plain := by
  refine ⟨?_, ?_⟩
  · simp [AdsEvent.opensPort, asked, Connection.releaseCall]
  · rw [asked]
    rfl

namespace Connection

/-- The loop of `unresolve_variables` takes the handles of all listed variables with names, whatever
the library returns, and gives none. -/
theorem unresolveLoop_spec (ids : List VarId) (adsIsConnected unresolveErrors : Bool) (vars : Vars)
    (trace : Trace) {adsIsConnected' unresolveErrors' : Bool} {after : Vars} {trace' : Trace}
    (done : unresolveLoop ads connection ids adsIsConnected unresolveErrors vars trace =
      (adsIsConnected', unresolveErrors', after, trace')) :
    ∃ events, trace' = trace ++ events ∧ (∀ event ∈ events, event.Plain) ∧
      vars.Readdressed after ∧
      (∀ var, (vars var).addr.nameIsResolved = false → (after var).addr.nameIsResolved = false) ∧
      ∀ var ∈ ids, (vars var).addr.variableName ≠ [] →
        (after var).addr.nameIsResolved = false := by
  induction ids generalizing adsIsConnected unresolveErrors vars trace with
  | nil =>
      obtain ⟨rfl, rfl, rfl, rfl⟩ : adsIsConnected = adsIsConnected' ∧
          unresolveErrors = unresolveErrors' ∧ vars = after ∧ trace = trace' := by
        simpa [unresolveLoop] using done
      exact ⟨[], by simp, by simp, .refl vars, fun _ => id, by simp⟩
  | cons first rest ih =>
      rw [unresolveLoop] at done
      obtain ⟨events, trace_eq, released, outcome⟩ :=
        (vars first).unresolveName_cases ads connection adsIsConnected trace
      generalize (vars first).unresolveName ads connection adsIsConnected trace = named at *
      obtain ⟨connected, error, content, between⟩ := named
      simp only at trace_eq outcome done
      subst trace_eq
      have step : vars.Readdressed (Function.update vars first content) := by
        refine .update vars ?_
        rcases outcome with ⟨same, _⟩ | lost
        · exact ⟨_, _, _, same⟩
        · exact ⟨_, _, _, lost⟩
      obtain ⟨more, rfl, plain, same, kept, all⟩ := ih _ _ _ _ done
      have step_kept : ∀ var, (vars var).addr.nameIsResolved = false →
          (Function.update vars first content var).addr.nameIsResolved = false := by
        intro var unresolved
        by_cases here : var = first
        · subst here
          rw [Function.update_self]
          rcases outcome with ⟨same, _⟩ | lost
          · rw [same, unresolved]
          · rw [lost]
            rfl
        · rwa [Function.update_of_ne here]
      refine ⟨events ++ more, by simp, ?_, step.trans same,
        fun var unresolved => kept var (step_kept var unresolved), ?_⟩
      · intro event member
        rcases List.mem_append.mp member with earlier | later
        · exact releaseCall_plain connection (released event earlier)
        · exact plain event later
      · intro var member named
        rcases List.mem_cons.mp member with rfl | later
        · refine kept var ?_
          rw [Function.update_self]
          rcases outcome with ⟨same, unresolved | unnamed⟩ | lost
          · rw [same, unresolved]
          · exact absurd unnamed named
          · rw [lost]
            rfl
        · exact all var later (by rwa [step.variableName_eq])

end Connection

end Loops

namespace Connection

variable (ads : Ads)

/-- `connect` opens a port, or leaves the connection as it was. -/
theorem connect_cases (connection : Connection) (amsId : AmsNetId) (address : Str)
    (deviceReadAdsPort : UInt16) (trace : Trace) {status : Int} {after : Connection}
    {trace' : Trace}
    (done : connection.connect ads amsId address deviceReadAdsPort trace =
      (status, after, trace')) :
    (status ≠ 0 ∧ after = connection ∧
        ∃ events, trace' = trace ++ events ∧ ∀ event ∈ events, event.Plain) ∨
      (status = 0 ∧ after.isConnected = true ∧
        ∃ routed opened : AdsEvent, trace' = trace ++ [routed] ++ [opened] ∧ routed.Plain ∧
          opened.opensPort = true ∧ opened.call.sumReadEntries = []) := by
  have routed_plain : (ads.event trace (.addRoute amsId address)).Plain := ⟨by
    simp [AdsEvent.opensPort], rfl⟩
  simp only [connect] at done
  split_ifs at done with refused closed
  · obtain ⟨rfl, rfl, rfl⟩ := Prod.mk.injEq .. ▸ done
    exact .inl ⟨by decide, rfl, _, rfl, by simpa using routed_plain⟩
  · obtain ⟨rfl, rfl, rfl⟩ := Prod.mk.injEq .. ▸ done
    refine .inl ⟨by decide, rfl, _, List.append_assoc _ _ _, ?_⟩
    rintro event (_ | ⟨_, _ | ⟨_, none⟩⟩)
    · exact routed_plain
    · refine ⟨?_, rfl⟩
      rw [Bool.eq_false_iff, ne_eq, AdsEvent.opensPort_iff]
      exact fun opens => opens.2 closed
    · exact absurd none List.not_mem_nil
  · obtain ⟨rfl, rfl, rfl⟩ := Prod.mk.injEq .. ▸ done
    refine .inr ⟨rfl, decide_eq_true closed, _, _, rfl, routed_plain, ?_, rfl⟩
    exact (AdsEvent.opensPort_iff _).mpr ⟨rfl, closed⟩

/-- `disconnect` closes the port. -/
theorem disconnect_spec (connection : Connection) (trace : Trace) {status : Int}
    {after : Connection} {trace' : Trace}
    (done : connection.disconnect ads trace = (status, after, trace')) :
    after.isConnected = false ∧
      ∃ events, trace' = trace ++ events ∧ ∀ event ∈ events, event.Plain := by
  simp only [disconnect] at done
  split_ifs at done with closed
  · obtain ⟨rfl, rfl, rfl⟩ := Prod.mk.injEq .. ▸ done
    exact ⟨by simpa using closed, [], by simp, by simp⟩
  · obtain ⟨rfl, rfl, rfl⟩ := Prod.mk.injEq .. ▸ done
    refine ⟨rfl, _, List.append_assoc _ _ _, ?_⟩
    rintro event (_ | ⟨_, _ | ⟨_, none⟩⟩)
    · exact ⟨by simp [AdsEvent.opensPort], rfl⟩
    · exact ⟨by simp [AdsEvent.opensPort], rfl⟩
    · exact absurd none List.not_mem_nil

/-- Reading the device information on an open connection sends one request. -/
theorem readDeviceInfo_eq {connection : Connection} (connected : connection.isConnected = true)
    (trace : Trace) {event : AdsEvent}
    (asked : ads.event trace (.readDeviceInfo connection.adsPort connection.remoteAmsNetId
      connection.deviceReadAdsPort) = event) :
    connection.readDeviceInfo ads trace =
      (adsRcToEpicsadsError event.reply.rc, trace ++ [event]) ∧ event.Plain := by
  subst asked
  exact ⟨by simp [readDeviceInfo, connected], by simp [AdsEvent.opensPort], rfl⟩

/-- So does reading the device state. -/
theorem readDeviceState_eq {connection : Connection} (connected : connection.isConnected = true)
    (trace : Trace) {event : AdsEvent}
    (asked : ads.event trace (.readState connection.adsPort connection.remoteAmsNetId
      connection.deviceReadAdsPort) = event) :
    connection.readDeviceState ads trace =
      (adsRcToEpicsadsError event.reply.rc, trace ++ [event]) ∧ event.Plain := by
  subst asked
  exact ⟨by simp [readDeviceState, connected], by simp [AdsEvent.opensPort], rfl⟩

end Connection

end AdsDriver
