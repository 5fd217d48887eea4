import AdsDriver.HandleLog

/-!
# The ledger of handles

A ledger follows the log of a run: which port is open, which handle each variable has acquired and
not given back, and whether a release on the open connection was answered with a code that stands
for a lost connection.  It also says which entries may come next.
-/

namespace AdsDriver

open ByteMemory StatusSteps Runs

/-! ## The rules -/

/-- What has been acquired and not given back. -/
structure Ledger where
  port : Option Nat := none
  held : VarId → Option UInt32 := fun _ => none
  /-- A release on this connection was answered with a code for a lost connection. -/
  lost : Bool := false

namespace Ledger

/-- A variable has another handle, or none. -/
def setHeld (ledger : Ledger) (var : VarId) (handle : Option UInt32) : Ledger :=
  { ledger with held := Function.update ledger.held var handle }

/-- The ledger after an entry of the log. -/
def after (ledger : Ledger) : LogEntry → Ledger
  | .skipped var => ledger.setHeld var none
  | .request owner event =>
      match event.call, owner with
      | .portOpen, _ => if event.reply.port = 0 then ledger else { port := some event.reply.port }
      | .portClose _, _ => { ledger with port := none }
      | .readWrite _ _ _ group _ _ _ _, some var =>
          if group = adsigrpSymHndByName ∧ event.reply.rc = 0 then
            ledger.setHeld var (some event.reply.handle)
          else ledger
      | .write _ _ _ group _ _, some var =>
          if group = adsigrpSymReleaseHnd then
            { ledger.setHeld var none with
              lost := ledger.lost || adsRcToEpicsadsError event.reply.rc = epicsadsDisconnected }
          else ledger
      | _, _ => ledger

/-- The entries that may come next.  Handles are looked up for variables that have none and released
with what the lookup has returned; they are given up without a request only once the connection was
found lost; and a port is closed when nothing is left. -/
def Allows (ledger : Ledger) : LogEntry → Prop
  | .skipped var => ledger.lost = true ∧ ledger.held var ≠ none
  | .request owner event =>
      match event.call with
      | .portOpen => event.reply.port ≠ 0 → ledger.port = none
      | .portClose port => ledger.port = some port ∧ ∀ var, ledger.held var = none
      | .readWrite port _ _ group _ _ _ _ =>
          group = adsigrpSymHndByName →
            ledger.port = some port ∧ ∃ var, owner = some var ∧ ledger.held var = none
      | .write port _ _ group _ data =>
          group = adsigrpSymReleaseHnd → ledger.port = some port ∧
            ∃ var handle, owner = some var ∧ ledger.held var = some handle ∧
              data = leBytes 4 handle.toNat
      | _ => True

/-- Ordinary requests are always allowed and change nothing. -/
theorem ordinary (ledger : Ledger) {events : Trace}
    (ordinary : ∀ event ∈ events, event.call.Ordinary) :
    EachMeets after Allows ledger (events.map (.request none)) ∧
      run after ledger (events.map (.request none)) = ledger := by
  induction events using List.reverseRecOn with
  | nil => exact ⟨eachMeets_nil _ _ _, rfl⟩
  | append_singleton events event ih =>
      obtain ⟨allowed, same⟩ := ih fun other member => ordinary other (by simp [member])
      obtain ⟨off_link, no_lookup, no_release⟩ := ordinary event (by simp)
      rw [List.map_append, List.map_singleton, eachMeets_concat, run_concat, same]
      refine ⟨⟨allowed, ?_⟩, ?_⟩
      · simp only [Allows]
        split <;> simp_all [AdsCall.onLink, AdsCall.looksUp, AdsCall.releases]
      · simp only [after]
        split <;> simp_all [AdsCall.onLink]

end Ledger

/-- The handle of a variable. -/
def ADSVariable.handle? (var : ADSVariable) : Option UInt32 :=
  if var.addr.nameIsResolved then some var.addr.indexOffset else none

/-- A variable is addressed by its handle, or not at all. -/
structure ADSVariable.Addressed (var : ADSVariable) : Prop where
  resolved : var.addr.nameIsResolved = true → var.addr.indexGroup = adsigrpSymValByHnd
  unresolved : var.addr.nameIsResolved = false →
    var.addr.indexGroup = 0 ∧ var.addr.indexOffset = 0

/-- Writes to such a variable release no handle. -/
theorem ADSVariable.Addressed.by_value {var : ADSVariable} (addressed : var.Addressed) :
    var.addr.indexGroup ≠ adsigrpSymReleaseHnd := by
  cases resolved : var.addr.nameIsResolved with
  | false =>
      rw [(addressed.unresolved resolved).1]
      decide
  | true =>
      rw [addressed.resolved resolved]
      decide

namespace Ledger

/-- The ledger has the handles of the variables that the driver tracks. -/
def Matches (tracked : List VarId) (ledger : Ledger) (vars : Vars) : Prop :=
  ∀ var, ledger.held var = if var ∈ tracked then (vars var).handle? else none

theorem Matches.setHeld {tracked : List VarId} {ledger : Ledger} {vars : Vars}
    (same : ledger.Matches tracked vars) {var : VarId} (member : var ∈ tracked)
    (content : ADSVariable) :
    (ledger.setHeld var content.handle?).Matches tracked (Function.update vars var content) := by
  intro other
  by_cases here : other = var
  · subst here
    simp [Ledger.setHeld, member]
  · simpa [Ledger.setHeld, Function.update_of_ne here] using same other

section Names

variable (ads : Ads) (connection : Connection) {ledger : Ledger} {id : VarId} {var : ADSVariable}

theorem after_lookUp (ledger : Ledger) {event : AdsEvent} {addr : ADSAddress}
    (asked : event.call = connection.lookUpCall addr) :
    ledger.after (.request (some id) event) =
      if event.reply.rc = 0 then ledger.setHeld id (some event.reply.handle) else ledger := by
  simp [after, asked, Connection.lookUpCall]

theorem after_release (ledger : Ledger) {event : AdsEvent} {addr : ADSAddress}
    (asked : event.call = connection.releaseCall addr) :
    ledger.after (.request (some id) event) =
      { ledger.setHeld id none with
        lost := ledger.lost || adsRcToEpicsadsError event.reply.rc = epicsadsDisconnected } := by
  simp [after, asked, Connection.releaseCall]

/-- The body of the loop of `resolve_variables` follows the rules. -/
theorem resolveName (port_eq : ledger.port = some connection.adsPort)
    (held_eq : ledger.held id = var.handle?) (trace : Trace) :
    EachMeets after Allows ledger (var.resolveEntries ads connection id trace) ∧
      run after ledger (var.resolveEntries ads connection id trace) =
        ledger.setHeld id (var.resolveName ads connection trace).2.1.handle? := by
  have same : ledger.setHeld id var.handle? = ledger := by simp [setHeld, ← held_eq]
  unfold ADSVariable.resolveEntries ADSVariable.resolveName
  by_cases resolved : var.addr.nameIsResolved = true
  · rw [if_pos resolved, if_pos resolved]
    exact ⟨eachMeets_nil _ _ _, same.symm⟩
  · have none_held : ledger.held id = none := by
      rw [held_eq, ADSVariable.handle?, if_neg resolved]
    rw [if_neg resolved, if_neg resolved, eachMeets_cons, run, List.foldl_cons, List.foldl_nil,
      ledger.after_lookUp connection rfl]
    refine ⟨⟨fun _ => ⟨port_eq, id, rfl, none_held⟩, eachMeets_nil _ _ _⟩, ?_⟩
    have unresolved : var.addr.nameIsResolved = false := by simpa using resolved
    by_cases accepted : (ads.event trace (connection.lookUpCall var.addr)).reply.rc = 0
    · rw [if_pos accepted, if_neg (not_not_intro accepted),
        ADSAddress.resolve_of_unresolved unresolved]
      rfl
    · rw [if_neg accepted, if_pos accepted]
      exact same.symm

/-- The body of the loop of `unresolve_variables` follows the rules, and takes the connection for
lost only after a release has said so. -/
theorem unresolveName (port_eq : ledger.port = some connection.adsPort)
    (held_eq : ledger.held id = var.handle?) (named : var.addr.variableName ≠ [])
    {adsIsConnected : Bool} (lost : adsIsConnected = false → ledger.lost = true) (trace : Trace) :
    EachMeets after Allows ledger (var.unresolveEntries ads connection id trace adsIsConnected) ∧
      ∃ after_lost, run after ledger (var.unresolveEntries ads connection id trace adsIsConnected) =
          { ledger.setHeld id
              (var.unresolveName ads connection adsIsConnected trace).2.2.1.handle? with
            lost := after_lost } ∧
        ((var.unresolveName ads connection adsIsConnected trace).1 = false →
          after_lost = true) := by
  have given_up : ({ var with addr := var.addr.unresolve.2 } : ADSVariable).handle? = none := by
    rw [ADSAddress.unresolve_of_name named]
    rfl
  unfold ADSVariable.unresolveEntries ADSVariable.unresolveName
  by_cases unresolved : var.addr.nameIsResolved = false
  · have same : ledger.setHeld id var.handle? = ledger := by simp [setHeld, ← held_eq]
    rw [if_pos unresolved, if_pos unresolved, same]
    exact ⟨eachMeets_nil _ _ _, ledger.lost, rfl, lost⟩
  · have resolved : var.addr.nameIsResolved = true := by simpa using unresolved
    have handle_eq : ledger.held id = some var.addr.indexOffset := by
      rw [held_eq, ADSVariable.handle?, if_pos resolved]
    rw [if_neg unresolved, if_neg unresolved]
    cases adsIsConnected with
    | false =>
        simp only [Bool.false_eq_true, if_false, given_up, eachMeets_cons]
        exact ⟨⟨⟨lost rfl, by simp [handle_eq]⟩, eachMeets_nil _ _ _⟩, ledger.lost, rfl,
          fun _ => lost rfl⟩
    | true =>
        simp only [if_true, given_up, eachMeets_cons]
        refine ⟨⟨fun _ => ⟨port_eq, id, _, rfl, handle_eq, rfl⟩, eachMeets_nil _ _ _⟩, ?_⟩
        rw [run, List.foldl_cons, List.foldl_nil, ledger.after_release connection rfl]
        exact ⟨_, rfl, by simp +contextual⟩

end Names

theorem Matches.held_eq {tracked : List VarId} {ledger : Ledger} {vars : Vars}
    (same : ledger.Matches tracked vars) {var : VarId} (member : var ∈ tracked) :
    ledger.held var = (vars var).handle? := by
  rw [same var, if_pos member]

end Ledger

section Loops

variable (ads : Ads) (connection : Connection)

theorem ADSVariable.unresolveName_eq (adsIsConnected : Bool) (var : ADSVariable) (trace : Trace) :
    (var.unresolveName ads connection adsIsConnected trace).2.2.1 = var ∨
      (var.unresolveName ads connection adsIsConnected trace).2.2.1 = var.readdress 0 0 false := by
  obtain ⟨_, _, _, ⟨same, _⟩ | lost⟩ := var.unresolveName_cases ads connection adsIsConnected trace
  · exact .inl same
  · exact .inr lost

theorem ADSVariable.unresolveName_readdress (adsIsConnected : Bool) (var : ADSVariable)
    (trace : Trace) : ∃ group offset resolved,
      (var.unresolveName ads connection adsIsConnected trace).2.2.1 =
        var.readdress group offset resolved := by
  rcases var.unresolveName_eq ads connection adsIsConnected trace with same | lost
  · exact ⟨_, _, _, same⟩
  · exact ⟨_, _, _, lost⟩

theorem Connection.unresolveLoop_eq (ids : List VarId) (adsIsConnected unresolveErrors : Bool)
    (vars : Vars) (trace : Trace) (var : VarId) :
    (connection.unresolveLoop ads ids adsIsConnected unresolveErrors vars trace).2.2.1
      var = vars var ∨
      (connection.unresolveLoop ads ids adsIsConnected unresolveErrors vars trace).2.2.1 var =
        (vars var).readdress 0 0 false := by
  induction ids generalizing adsIsConnected unresolveErrors vars trace with
  | nil => exact .inl rfl
  | cons first rest ih =>
      have step := (vars first).unresolveName_eq ads connection adsIsConnected trace
      have later := ih ((vars first).unresolveName ads connection adsIsConnected trace).1
        (unresolveErrors || ((vars first).unresolveName ads connection adsIsConnected trace).2.1)
        (Function.update vars first
          ((vars first).unresolveName ads connection adsIsConnected trace).2.2.1)
        ((vars first).unresolveName ads connection adsIsConnected trace).2.2.2
      rw [unresolveLoop]
      by_cases here : var = first
      · subst here
        rw [Function.update_self] at later
        rcases step with same | lost
        · rwa [same] at later ⊢
        · rw [lost] at later ⊢
          exact .inr (by rcases later with same | again <;> assumption)
      · rwa [Function.update_of_ne here] at later

end Loops

namespace Ledger

section Loops

variable (ads : Ads) (connection : Connection)

/-- The loop of `resolve_variables` follows the rules. -/
theorem resolveLoop {tracked ids : List VarId} (listed : ids ⊆ tracked) {ledger : Ledger}
    (port_eq : ledger.port = some connection.adsPort) {vars : Vars}
    (same : ledger.Matches tracked vars) (status : Int) (trace : Trace) :
    let entries := connection.resolveLoopEntries ads ids vars trace
    EachMeets after Allows ledger entries ∧ (run after ledger entries).port = ledger.port ∧
      (run after ledger entries).Matches tracked
        (connection.resolveLoop ads ids status vars trace).2.1 := by
  induction ids generalizing ledger vars status trace with
  | nil => exact ⟨eachMeets_nil _ _ _, rfl, same⟩
  | cons var rest ih =>
      have member := listed List.mem_cons_self
      obtain ⟨allowed, after_eq⟩ :=
        resolveName ads connection port_eq (same.held_eq member) trace
      have matched := same.setHeld member ((vars var).resolveName ads connection trace).2.1
      obtain ⟨rest_allowed, rest_port, rest_same⟩ := ih
        (List.subset_of_cons_subset listed) (by exact port_eq) matched
        (((vars var).resolveName ads connection trace).1.getD status)
        ((vars var).resolveName ads connection trace).2.2
      simp only [Connection.resolveLoopEntries, Connection.resolveLoop,
        eachMeets_append, run_append,
        after_eq]
      exact ⟨⟨allowed, rest_allowed⟩, rest_port, rest_same⟩

/-- The loop of `unresolve_variables` follows the rules. -/
theorem unresolveLoop {tracked ids : List VarId} (listed : ids ⊆ tracked) {ledger : Ledger}
    (port_eq : ledger.port = some connection.adsPort) {vars : Vars}
    (same : ledger.Matches tracked vars)
    (named : ∀ var ∈ tracked, (vars var).addr.variableName ≠ []) {adsIsConnected : Bool}
    (lost : adsIsConnected = false → ledger.lost = true) (unresolveErrors : Bool) (trace : Trace) :
    let entries := connection.unresolveLoopEntries ads ids adsIsConnected vars trace
    EachMeets after Allows ledger entries ∧ (run after ledger entries).port = ledger.port ∧
      (run after ledger entries).Matches tracked
        (connection.unresolveLoop ads ids adsIsConnected unresolveErrors vars trace).2.2.1 := by
  induction ids generalizing ledger vars adsIsConnected unresolveErrors trace with
  | nil => exact ⟨eachMeets_nil _ _ _, rfl, same⟩
  | cons var rest ih =>
      have member := listed List.mem_cons_self
      obtain ⟨allowed, after_lost, after_eq, still_lost⟩ := unresolveName ads connection port_eq
        (same.held_eq member) (named var member) lost trace
      have matched := same.setHeld member
        ((vars var).unresolveName ads connection adsIsConnected trace).2.2.1
      have still_named : ∀ other ∈ tracked, (Function.update vars var
          ((vars var).unresolveName ads connection adsIsConnected trace).2.2.1
            other).addr.variableName
            ≠ [] := by
        intro other listed_other
        have readdressed := Vars.Readdressed.update vars
          ((vars var).unresolveName_readdress ads connection adsIsConnected trace)
        rw [readdressed.variableName_eq other]
        exact named other listed_other
      obtain ⟨rest_allowed, rest_port, rest_same⟩ := @ih
        (List.subset_of_cons_subset listed)
        { ledger.setHeld var ((vars var).unresolveName ads connection adsIsConnected
            trace).2.2.1.handle? with lost := after_lost }
        port_eq _ matched still_named _ still_lost
        (unresolveErrors || ((vars var).unresolveName ads connection adsIsConnected trace).2.1)
        ((vars var).unresolveName ads connection adsIsConnected trace).2.2.2
      simp only [Connection.unresolveLoopEntries, Connection.unresolveLoop, eachMeets_append,
        run_append, after_eq]
      exact ⟨⟨allowed, rest_allowed⟩, rest_port, rest_same⟩

/-- `resolve_variables` follows the rules. -/
theorem resolveVariables {driver : ADSPortDriver} (list : ADSPortDriver → List VarId)
    {tracked : List VarId} (listed : list driver ⊆ tracked) {ledger : Ledger}
    (port_eq : ledger.port =
      if driver.adsConnection.isConnected then some driver.adsConnection.adsPort else none)
    (same : ledger.Matches tracked driver.heap.vars) :
    let entries := driver.resolveEntries ads (list driver)
    EachMeets after Allows ledger entries ∧ (run after ledger entries).port = ledger.port ∧
      (run after ledger entries).Matches tracked
        (ADSPortDriver.resolveVariables ads list driver).2.heap.vars := by
  unfold ADSPortDriver.resolveEntries ADSPortDriver.resolveVariables Step.onlyIf
    Connection.resolveVariables
  by_cases empty : list driver = []
  · simpa [empty, Connection.resolveLoopEntries, eachMeets_nil] using same
  · cases connected : driver.adsConnection.isConnected with
    | false => simpa [empty, connected, eachMeets_nil] using same
    | true =>
        rw [connected, if_pos rfl] at port_eq
        simpa [empty, connected] using
          resolveLoop ads driver.adsConnection listed port_eq same 0 driver.trace

/-- `unresolve_variables` on an open connection follows the rules. -/
theorem unresolveVariables {driver : ADSPortDriver} {ids tracked : List VarId}
    (listed : ids ⊆ tracked) {ledger : Ledger}
    (connected : driver.adsConnection.isConnected = true)
    (port_eq : ledger.port = some driver.adsConnection.adsPort)
    (same : ledger.Matches tracked driver.heap.vars)
    (named : ∀ var ∈ tracked, (driver.heap.vars var).addr.variableName ≠ []) :
    let entries := driver.unresolveEntries ads ids
    EachMeets after Allows ledger entries ∧ (run after ledger entries).port = ledger.port ∧
      (run after ledger entries).Matches tracked
        (driver.unresolveVariables ads ids).heap.vars := by
  unfold ADSPortDriver.unresolveEntries ADSPortDriver.unresolveVariables
    Connection.unresolveVariables
  by_cases empty : ids = []
  · simpa [empty, Connection.unresolveLoopEntries, eachMeets_nil] using same
  · rw [if_neg empty, connected]
    exact unresolveLoop ads driver.adsConnection listed port_eq same named
      (fun closed => absurd closed (by simp)) false driver.trace

end Loops

section Link

variable (ads : Ads) (connection : Connection) {ledger : Ledger}

/-- `connect` follows the rules on a closed connection. -/
theorem connect (port_eq : ledger.port = none) (amsId : AmsNetId) (address : Str)
    (deviceReadAdsPort : UInt16) (trace : Trace) {status : Int} {opened : Connection}
    {trace' : Trace}
    (done : connection.connect ads amsId address deviceReadAdsPort trace =
      (status, opened, trace')) :
    ∃ events, trace' = trace ++ events ∧
      EachMeets after Allows ledger (events.map (.request none)) ∧
      (opened = connection ∧ run after ledger (events.map (.request none)) = ledger ∨
        opened.isConnected = true ∧
          run after ledger (events.map (.request none)) = { port := some opened.adsPort }) := by
  simp only [Connection.connect] at done
  split_ifs at done with refused no_port <;> obtain ⟨rfl, rfl, rfl⟩ := Prod.mk.injEq .. ▸ done
  · refine ⟨_, rfl, ?_, .inl ⟨rfl, rfl⟩⟩
    exact eachMeets_cons.mpr ⟨trivial, eachMeets_nil _ _ _⟩
  · refine ⟨_, List.append_assoc _ _ _, ?_, .inl ⟨rfl, if_pos no_port⟩⟩
    refine eachMeets_cons.mpr ⟨trivial, eachMeets_cons.mpr ⟨?_, eachMeets_nil _ _ _⟩⟩
    exact fun opens => absurd no_port opens
  · refine ⟨_, List.append_assoc _ _ _, ?_, .inr ⟨decide_eq_true no_port, if_neg no_port⟩⟩
    exact eachMeets_cons.mpr ⟨trivial, eachMeets_cons.mpr ⟨fun _ => port_eq, eachMeets_nil _ _ _⟩⟩

/-- `disconnect` follows the rules once nothing is held. -/
theorem disconnect (connected : connection.isConnected = true)
    (port_eq : ledger.port = some connection.adsPort) (trace : Trace) {status : Int}
    {closed : Connection} {trace' : Trace}
    (done : connection.disconnect ads trace = (status, closed, trace')) :
    closed.isConnected = false ∧ ∃ events, trace' = trace ++ events ∧
      ((∀ var, ledger.held var = none) →
        EachMeets after Allows ledger (events.map (.request none))) ∧
      run after ledger (events.map (.request none)) = { ledger with port := none } := by
  simp only [Connection.disconnect, connected] at done
  obtain ⟨rfl, rfl, rfl⟩ := Prod.mk.injEq .. ▸ done
  refine ⟨rfl, _, List.append_assoc _ _ _, fun nothing => ?_, rfl⟩
  exact eachMeets_cons.mpr ⟨⟨port_eq, nothing⟩, eachMeets_cons.mpr ⟨trivial, eachMeets_nil _ _ _⟩⟩

end Link

end Ledger

/-! ## The driver and its ledger -/

namespace ADSPortDriver

/-- No variable that the driver tracks is resolved. -/
def AllUnresolved (driver : ADSPortDriver) : Prop :=
  ∀ var ∈ driver.tracked, (driver.heap.vars var).addr.nameIsResolved = false

/-- What a section of the scan thread finds when it is entered. -/
def ReadyAt (driver : ADSPortDriver) : ScanPoint → Prop
  | .unresolveReadVars _ => driver.adsConnection.isConnected = true
  | .unresolveWriteVars _ => driver.adsConnection.isConnected = true ∧
      ∀ var ∈ driver.adsReadVars, (driver.heap.vars var).addr.nameIsResolved = false
  | .disconnect _ => driver.exitCalled = false → driver.AllUnresolved
  | .setDisconnected _ => driver.adsConnection.isConnected = false
  | _ => True

/-- Quiet sections change nothing that another section relies on. -/
theorem ReadyAt.quiet {before after : ADSPortDriver} {point : ScanPoint}
    (ready : before.ReadyAt point) (quiet : before.Quiet after) (kept : before.Keeps after) :
    after.ReadyAt point := by
  cases point with
  | unresolveReadVars caller => simpa [ReadyAt, quiet.connection_eq] using ready
  | unresolveWriteVars caller =>
      simpa [ReadyAt, quiet.connection_eq, kept.readVars_eq, quiet.addr_eq] using ready
  | disconnect caller =>
      simpa [ReadyAt, AllUnresolved, quiet.exitCalled_eq, kept.tracked_eq,
        quiet.addr_eq] using ready
  | setDisconnected caller => simpa [ReadyAt, quiet.connection_eq] using ready
  | _ => trivial

end ADSPortDriver

namespace ADSPortDriver

variable (ads : Ads)

theorem addressed_resolveVariables (list : ADSPortDriver → List VarId) {driver : ADSPortDriver}
    {var : VarId} (addressed : (driver.heap.vars var).Addressed) :
    ((resolveVariables ads list driver).2.heap.vars var).Addressed := by
  unfold resolveVariables Step.onlyIf Connection.resolveVariables
  dsimp only
  split_ifs
  · exact addressed
  · exact addressed
  · obtain ⟨_, _, _, _, kept, _⟩ := Connection.resolveLoop_spec ads driver.adsConnection
      (list driver) 0 driver.heap.vars driver.trace rfl
    rcases kept var with same | held
    · dsimp only
      rwa [same]
    · exact ⟨fun _ => held.group_eq,
        fun unresolved => absurd (unresolved.symm.trans held.resolved) Bool.false_ne_true⟩
  · exact addressed

theorem resolveVariables_closed (list : ADSPortDriver → List VarId) {driver : ADSPortDriver}
    (closed : driver.adsConnection.isConnected = false) :
    (resolveVariables ads list driver).2 = driver := by
  unfold resolveVariables Step.onlyIf Connection.resolveVariables
  simp only [closed]
  split_ifs <;> first | rfl | simp_all

theorem resolveVariables_connection (list : ADSPortDriver → List VarId) (driver : ADSPortDriver) :
    (resolveVariables ads list driver).2.adsConnection = driver.adsConnection := by
  obtain ⟨_, _, _, after_eq⟩ := driver.resolveVariables_eq ads list
  rw [after_eq]

theorem addressed_unresolveVariables (ids : List VarId) {driver : ADSPortDriver} {var : VarId}
    (addressed : (driver.heap.vars var).Addressed) :
    ((driver.unresolveVariables ads ids).heap.vars var).Addressed := by
  unfold unresolveVariables Connection.unresolveVariables
  split_ifs
  · exact addressed
  · rcases driver.adsConnection.unresolveLoop_eq ads ids driver.adsConnection.isConnected false
      driver.heap.vars driver.trace var with same | lost
    · dsimp only
      rwa [same]
    · dsimp only
      rw [lost]
      exact ⟨fun resolved => absurd resolved Bool.false_ne_true, fun _ => ⟨rfl, rfl⟩⟩

theorem unresolveVariables_unresolved {ids : List VarId} {driver : ADSPortDriver}
    (named : ∀ var ∈ ids, (driver.heap.vars var).addr.variableName ≠ []) :
    (∀ var ∈ ids, ((driver.unresolveVariables ads ids).heap.vars var).addr.nameIsResolved = false) ∧
      ∀ var, (driver.heap.vars var).addr.nameIsResolved = false →
        ((driver.unresolveVariables ads ids).heap.vars var).addr.nameIsResolved = false := by
  unfold unresolveVariables Connection.unresolveVariables
  split_ifs with empty
  · exact ⟨fun var member => absurd member (by simp [empty]), fun _ => id⟩
  · obtain ⟨_, _, _, _, kept, all⟩ := Connection.unresolveLoop_spec ads driver.adsConnection ids
      driver.adsConnection.isConnected false driver.heap.vars driver.trace rfl
    exact ⟨fun var member => all var member (named var member), kept⟩

end ADSPortDriver

namespace Interleaved

/-- The ledger has the port of the connection and the handles of the variables, which are written by
them. -/
structure Ledgered (state : Interleaved) (ledger : Ledger) : Prop where
  port_eq : ledger.port = if state.driver.adsConnection.isConnected then
    some state.driver.adsConnection.adsPort else none
  held_eq : ledger.Matches state.driver.tracked state.driver.heap.vars
  addressed : ∀ var ∈ state.driver.tracked, (state.driver.heap.vars var).Addressed
  named : ∀ var ∈ state.driver.tracked, (state.driver.heap.vars var).addr.variableName ≠ []
  devices : ∀ adsVar ∈ state.driver.deviceVariables, adsVar.adsPV ∈ state.driver.tracked
  pending : ∀ write ∈ state.pendingWrites, write.var ∈ state.driver.tracked
  closed : state.driver.adsConnection.isConnected = false → state.driver.exitCalled = false →
    state.driver.AllUnresolved
  ready : state.driver.ReadyAt state.scanPoint

variable (ads : Ads) (autoparam : Autoparam) (toFloat32 : BitVec 64 → BitVec 32)

theorem ledgered_start {ipAddr : Str} {amsNetId : AmsNetId}
    {sumBufferSize deviceReadAdsPort : UInt16} {heap : Heap} {driver : ADSPortDriver}
    (constructed : ADSPortDriver.new ipAddr amsNetId sumBufferSize deviceReadAdsPort heap =
      some driver) (links : List RecordLink) (interrupts : List Nat) :
    (start driver links interrupts).Ledgered {} := by
  have hooked := hooked_start constructed links interrupts
  refine ⟨?_, fun var => ?_, fun var member => ?_,
    fun var member => (hooked.unused var member).named,
    hooked.devices_tracked, fun write none => absurd none List.not_mem_nil,
    fun _ _ var member => (hooked.unused var member).unresolved, trivial⟩
  · rw [hooked.closed]
    rfl
  · split_ifs with member
    · rw [ADSVariable.handle?, (hooked.unused var member).unresolved]
      rfl
    · rfl
  · have unused := hooked.unused var member
    exact ⟨fun resolved => absurd (unused.unresolved.symm.trans resolved) Bool.false_ne_true,
      fun _ => ⟨unused.group_eq, unused.offset_eq⟩⟩

namespace Ledgered

variable {state : Interleaved} {ledger : Ledger}

theorem of_kept {after : Interleaved} {ledger' : Ledger} (ledgered : state.Ledgered ledger)
    (kept : state.driver.Keeps after.driver)
    (pending : ∀ write ∈ after.pendingWrites, write.var ∈ state.driver.tracked)
    (port_eq : ledger'.port = if after.driver.adsConnection.isConnected then
      some after.driver.adsConnection.adsPort else none)
    (held_eq : ledger'.Matches state.driver.tracked after.driver.heap.vars)
    (addressed : ∀ var ∈ state.driver.tracked, (after.driver.heap.vars var).Addressed)
    (closed : after.driver.adsConnection.isConnected = false → after.driver.exitCalled = false →
      ∀ var ∈ state.driver.tracked, (after.driver.heap.vars var).addr.nameIsResolved = false)
    (ready : after.driver.ReadyAt after.scanPoint) : after.Ledgered ledger' := by
  rw [← kept.tracked_eq] at pending held_eq addressed closed
  refine ⟨port_eq, held_eq, addressed, fun var member => ?_, ?_, pending, closed, ready⟩
  · rw [(kept.alike var).variableName_eq]
    exact ledgered.named var (kept.tracked_eq ▸ member)
  · rw [kept.deviceVariables_eq, kept.tracked_eq]
    exact ledgered.devices

/-- Quiet steps leave the ledger as it is. -/
theorem quiet {after : Interleaved} (ledgered : state.Ledgered ledger)
    (quiet : state.driver.Quiet after.driver) (kept : state.driver.Keeps after.driver)
    (pending : ∀ write ∈ after.pendingWrites, write.var ∈ state.driver.tracked)
    (ready : after.driver.ReadyAt after.scanPoint) : after.Ledgered ledger := by
  refine ledgered.of_kept kept pending ?_ (fun var => ?_) (fun var member => ⟨?_, ?_⟩) ?_ ready
  · rw [quiet.connection_eq]
    exact ledgered.port_eq
  · rw [ledgered.held_eq var, ADSVariable.handle?, ADSVariable.handle?, quiet.addr_eq]
  · rw [quiet.addr_eq]
    exact (ledgered.addressed var member).resolved
  · rw [quiet.addr_eq]
    exact (ledgered.addressed var member).unresolved
  · rw [quiet.connection_eq, quiet.exitCalled_eq]
    intro closed running var member
    rw [quiet.addr_eq]
    exact ledgered.closed closed running var member

theorem quiet_step (ledgered : state.Ledgered ledger) {taken : ThreadStep}
    (unowned : state.entries ads autoparam toFloat32 taken =
      ((state.step ads autoparam toFloat32 taken).driver.trace.drop
        state.driver.trace.length).map (.request none))
    (quiet : state.driver.Quiet (state.step ads autoparam toFloat32 taken).driver)
    (pending : ∀ write ∈ (state.step ads autoparam toFloat32 taken).pendingWrites,
      write.var ∈ state.driver.tracked)
    (ready : (state.step ads autoparam toFloat32 taken).driver.ReadyAt
      (state.step ads autoparam toFloat32 taken).scanPoint) :
    EachMeets Ledger.after Ledger.Allows ledger (state.entries ads autoparam toFloat32 taken) ∧
      (state.step ads autoparam toFloat32 taken).Ledgered
        (run Ledger.after ledger (state.entries ads autoparam toFloat32 taken)) := by
  obtain ⟨events, trace_eq, ordinary⟩ := quiet.sent
  rw [trace_eq, List.drop_left] at unowned
  obtain ⟨allowed, same⟩ := ledger.ordinary ordinary
  rw [unowned, same]
  exact ⟨allowed, ledgered.quiet quiet (keeps_step ads autoparam toFloat32 state taken)
    pending ready⟩

/-- The sections of `resolve_variables`. -/
theorem resolve_step (ledgered : state.Ledgered ledger) {taken : ThreadStep}
    (list : ADSPortDriver → List VarId) (listed : list state.driver ⊆ state.driver.tracked)
    (owned : state.entries ads autoparam toFloat32 taken =
      state.driver.resolveEntries ads (list state.driver))
    (after_eq : (state.step ads autoparam toFloat32 taken).driver =
      (ADSPortDriver.resolveVariables ads list state.driver).2)
    (pending : (state.step ads autoparam toFloat32 taken).pendingWrites = state.pendingWrites)
    (ready : (state.step ads autoparam toFloat32 taken).driver.ReadyAt
      (state.step ads autoparam toFloat32 taken).scanPoint) :
    EachMeets Ledger.after Ledger.Allows ledger (state.entries ads autoparam toFloat32 taken) ∧
      (state.step ads autoparam toFloat32 taken).Ledgered
        (run Ledger.after ledger (state.entries ads autoparam toFloat32 taken)) := by
  have kept := keeps_step ads autoparam toFloat32 state taken
  obtain ⟨allowed, port_eq, matched⟩ :=
    Ledger.resolveVariables ads list listed ledgered.port_eq ledgered.held_eq
  rw [owned]
  refine ⟨allowed, ledgered.of_kept kept (pending ▸ ledgered.pending) ?_ ?_ ?_ ?_ ready⟩
  · rw [port_eq, after_eq, ADSPortDriver.resolveVariables_connection]
    exact ledgered.port_eq
  · rwa [after_eq]
  · rw [after_eq]
    exact fun var member => ADSPortDriver.addressed_resolveVariables ads list
      (ledgered.addressed var member)
  · rw [after_eq, ADSPortDriver.resolveVariables_connection,
      ADSPortDriver.resolveVariables_exitCalled]
    intro closed running
    rw [ADSPortDriver.resolveVariables_closed ads list closed]
    exact ledgered.closed closed running

/-- The sections of `unresolve_variables`. -/
theorem unresolve_step (ledgered : state.Ledgered ledger) {taken : ThreadStep} {ids : List VarId}
    (listed : ids ⊆ state.driver.tracked)
    (connected : state.driver.adsConnection.isConnected = true)
    (owned : state.entries ads autoparam toFloat32 taken = state.driver.unresolveEntries ads ids)
    (after_eq : (state.step ads autoparam toFloat32 taken).driver =
      state.driver.unresolveVariables ads ids)
    (pending : (state.step ads autoparam toFloat32 taken).pendingWrites = state.pendingWrites)
    (ready : (state.step ads autoparam toFloat32 taken).driver.ReadyAt
      (state.step ads autoparam toFloat32 taken).scanPoint) :
    EachMeets Ledger.after Ledger.Allows ledger (state.entries ads autoparam toFloat32 taken) ∧
      (state.step ads autoparam toFloat32 taken).Ledgered
        (run Ledger.after ledger (state.entries ads autoparam toFloat32 taken)) := by
  have kept := keeps_step ads autoparam toFloat32 state taken
  have open_port := ledgered.port_eq
  rw [connected, if_pos rfl] at open_port
  obtain ⟨allowed, port_eq, matched⟩ :=
    Ledger.unresolveVariables ads listed connected open_port ledgered.held_eq ledgered.named
  have connection_eq : (state.step ads autoparam toFloat32 taken).driver.adsConnection =
      state.driver.adsConnection := by
    rw [after_eq]
    rfl
  rw [owned]
  refine ⟨allowed, ledgered.of_kept kept (pending ▸ ledgered.pending) ?_ ?_ ?_ ?_ ready⟩
  · rw [port_eq, connection_eq]
    exact ledgered.port_eq
  · rwa [after_eq]
  · rw [after_eq]
    exact fun var member => ADSPortDriver.addressed_unresolveVariables ads ids
      (ledgered.addressed var member)
  · rw [connection_eq, connected]
    exact fun closed => absurd closed (by simp)

theorem of_trace {after : Interleaved} (ledgered : state.Ledgered ledger) {trace : Trace}
    (after_eq : after.driver = { state.driver with trace })
    (pending : ∀ write ∈ after.pendingWrites, write.var ∈ state.driver.tracked)
    (ready : after.driver.ReadyAt after.scanPoint) : after.Ledgered ledger := by
  have kept : state.driver.Keeps after.driver := by
    rw [after_eq]
    exact .ofConnection state.driver state.driver.adsConnection trace
  refine ledgered.of_kept kept pending ?_ ?_ ?_ ?_ ready <;> rw [after_eq]
  · exact ledgered.port_eq
  · exact ledgered.held_eq
  · exact ledgered.addressed
  · exact ledgered.closed

/-- The section of `connect`. -/
theorem connect_step (ledgered : state.Ledgered ledger) (point : state.scanPoint = .connect)
    (input : ScanInput) :
    EachMeets Ledger.after Ledger.Allows ledger
        (state.entries ads autoparam toFloat32 (.scan input)) ∧
      (state.step ads autoparam toFloat32 (.scan input)).Ledgered
        (run Ledger.after ledger (state.entries ads autoparam toFloat32 (.scan input))) := by
  have kept := keeps_step ads autoparam toFloat32 state (.scan input)
  have after_eq := scan_connect ads autoparam point input
  have ready : (state.step ads autoparam toFloat32 (.scan input)).driver.ReadyAt
      (state.step ads autoparam toFloat32 (.scan input)).scanPoint := by
    simp only [Interleaved.step, scan, point]
    split_ifs
    · trivial
    · trivial
    · trivial
    · simp only [tryThen]
      split_ifs <;> trivial
  have same_pending : (state.step ads autoparam toFloat32 (.scan input)).pendingWrites =
      state.pendingWrites := by
    simp only [Interleaved.step, scan, point]
    split_ifs <;> rfl
  have unowned : state.entries ads autoparam toFloat32 (.scan input) =
      ((state.step ads autoparam toFloat32 (.scan input)).driver.trace.drop
        state.driver.trace.length).map (.request none) := by
    simp only [entries, point]
  have pending : ∀ write ∈ (state.step ads autoparam toFloat32 (.scan input)).pendingWrites,
      write.var ∈ state.driver.tracked := by
    rw [same_pending]
    exact ledgered.pending
  by_cases connects : state.connects (.scan input) = true
  · obtain ⟨_, running, _, closed⟩ := (state.connects_scan_iff input).mp connects
    have unresolved := ledgered.closed closed running
    have no_port : ledger.port = none := by
      rw [ledgered.port_eq, closed]
      rfl
    rcases done : state.driver.adsConnection.connect ads state.driver.amsNetId state.driver.ipAddr
      state.driver.deviceReadAdsPort state.driver.trace with ⟨status, opened, trace⟩
    obtain ⟨events, rfl, allowed, outcome⟩ :=
      Ledger.connect ads state.driver.adsConnection no_port _ _ _ _ done
    rw [if_pos connects, ADSPortDriver.openConnection, done] at after_eq
    rw [unowned, Interleaved.step, after_eq, List.drop_left]
    refine ⟨allowed, ?_⟩
    rcases outcome with ⟨rfl, same⟩ | ⟨connected, fresh⟩
    · rw [same]
      exact ledgered.of_trace after_eq pending ready
    · rw [fresh]
      refine ledgered.of_kept kept pending ?_ (fun var => ?_) ?_ ?_ ready <;> simp only [after_eq]
      · rw [connected, if_pos rfl]
      · split_ifs with member
        · rw [ADSVariable.handle?, unresolved var member]
          rfl
        · rfl
      · exact ledgered.addressed
      · exact fun closed => absurd (connected.symm.trans closed) (by simp)
  · rw [if_neg connects] at after_eq
    refine ledgered.quiet_step ads autoparam toFloat32 unowned ?_ pending ready
    rw [Interleaved.step, after_eq]
    exact .refl _

/-- The section of `disconnect`. -/
theorem disconnect_step (ledgered : state.Ledgered ledger) {caller : DisconnectCaller}
    (point : state.scanPoint = .disconnect caller) (input : ScanInput) :
    (state.driver.exitCalled = false → EachMeets Ledger.after Ledger.Allows ledger
        (state.entries ads autoparam toFloat32 (.scan input))) ∧
      (state.step ads autoparam toFloat32 (.scan input)).Ledgered
        (run Ledger.after ledger (state.entries ads autoparam toFloat32 (.scan input))) := by
  have kept := keeps_step ads autoparam toFloat32 state (.scan input)
  have unresolved : state.driver.exitCalled = false → state.driver.AllUnresolved := by
    have ready := ledgered.ready
    rwa [point] at ready
  have after_eq : state.step ads autoparam toFloat32 (.scan input) =
      state.doThen (ADSPortDriver.disconnect ads) (.setDisconnected caller) := by
    simp only [Interleaved.step, scan, point]
  have unowned : state.entries ads autoparam toFloat32 (.scan input) =
      ((state.step ads autoparam toFloat32 (.scan input)).driver.trace.drop
        state.driver.trace.length).map (.request none) := by
    simp only [entries, point]
  rw [unowned]
  rw [after_eq] at kept ⊢
  rcases done : state.driver.adsConnection.disconnect ads state.driver.trace with
    ⟨status, connection, trace⟩
  simp only [doThen, ADSPortDriver.disconnect, done] at kept ⊢
  cases connected : state.driver.adsConnection.isConnected with
  | false =>
      simp only [Connection.disconnect, connected, Bool.not_false, if_true] at done
      obtain ⟨rfl, rfl, rfl⟩ := Prod.mk.injEq .. ▸ done
      rw [List.drop_length]
      refine ⟨fun _ => eachMeets_nil _ _ _, ?_⟩
      exact ledgered.of_kept kept ledgered.pending ledgered.port_eq ledgered.held_eq
        ledgered.addressed ledgered.closed connected
  | true =>
      have port_eq := ledgered.port_eq
      rw [connected, if_pos rfl] at port_eq
      obtain ⟨closed, events, rfl, allowed, ledger_eq⟩ :=
        Ledger.disconnect ads state.driver.adsConnection connected port_eq _ done
      rw [List.drop_left, ledger_eq]
      refine ⟨fun running => allowed fun var => ?_, ?_⟩
      · rw [ledgered.held_eq var]
        split_ifs with member
        · rw [ADSVariable.handle?, unresolved running var member]
          rfl
        · rfl
      · refine ledgered.of_kept kept ledgered.pending ?_ ledgered.held_eq
          ledgered.addressed ?_ closed
        · simp [closed]
        · exact fun _ => unresolved

/-- The section of `set_disconnected`, which finds the connection closed. -/
theorem setDisconnected_step (ledgered : state.Ledgered ledger) {caller : DisconnectCaller}
    (point : state.scanPoint = .setDisconnected caller) (input : ScanInput) :
    EachMeets Ledger.after Ledger.Allows ledger
        (state.entries ads autoparam toFloat32 (.scan input)) ∧
      (state.step ads autoparam toFloat32 (.scan input)).Ledgered
        (run Ledger.after ledger (state.entries ads autoparam toFloat32 (.scan input))) := by
  have kept := keeps_step ads autoparam toFloat32 state (.scan input)
  have closed : state.driver.adsConnection.isConnected = false := by
    have ready := ledgered.ready
    rwa [point] at ready
  have after_eq : state.step ads autoparam toFloat32 (.scan input) =
      state.doThen ADSPortDriver.setDisconnected caller.resume := by
    simp only [Interleaved.step, scan, point]
  have no_entries : state.entries ads autoparam toFloat32 (.scan input) = [] := by
    have unowned : state.entries ads autoparam toFloat32 (.scan input) =
        ((state.step ads autoparam toFloat32 (.scan input)).driver.trace.drop
          state.driver.trace.length).map (.request none) := by
      simp only [entries, point]
    rw [unowned, after_eq]
    simp [doThen, ADSPortDriver.setDisconnected]
  rw [no_entries]
  rw [after_eq] at kept ⊢
  refine ⟨eachMeets_nil _ _ _, ledgered.of_kept kept ledgered.pending ?_ ledgered.held_eq
    ledgered.addressed (fun _ => ledgered.closed closed) ?_⟩
  · rw [run_nil, ledgered.port_eq, closed]
    rfl
  · simp only [doThen]
    cases caller <;> trivial

/-- What quiet sections of the scan thread leave to the next one. -/
theorem ready_quiet {state : Interleaved} (quiet : state.scanPoint.quiet = true)
    (input : ScanInput) : (state.scan ads autoparam input).driver.ReadyAt
      (state.scan ads autoparam input).scanPoint := by
  cases point : state.scanPoint with
  | connect => simp [point, ScanPoint.quiet] at quiet
  | resolveReadVars => simp [point, ScanPoint.quiet] at quiet
  | resolveWriteVars => simp [point, ScanPoint.quiet] at quiet
  | unresolveReadVars caller => simp [point, ScanPoint.quiet] at quiet
  | unresolveWriteVars caller => simp [point, ScanPoint.quiet] at quiet
  | disconnect caller => simp [point, ScanPoint.quiet] at quiet
  | setDisconnected caller => simp [point, ScanPoint.quiet] at quiet
  | deinitializeSumRead caller =>
      simp only [scan, point, doThen]
      split_ifs with exit connected
      · exact fun running => absurd (exit.symm.trans running) (by simp)
      · exact connected
      · cases caller <;> trivial
  | publishing left => cases left <;> simp only [scan, point] <;> trivial
  | _ =>
      simp only [scan, point, tryThen, goTo, ScanPoint.sumReadFailed, ScanPoint.sumReadDone]
      first
        | trivial
        | split_ifs <;> simp_all [ADSPortDriver.ReadyAt]

theorem handler_step (ledgered : state.Ledgered ledger) {taken : ThreadStep}
    (unowned : state.entries ads autoparam toFloat32 taken =
      ((state.step ads autoparam toFloat32 taken).driver.trace.drop
        state.driver.trace.length).map (.request none))
    (quiet : state.driver.Quiet (state.step ads autoparam toFloat32 taken).driver)
    (pending : ∀ write ∈ (state.step ads autoparam toFloat32 taken).pendingWrites,
      write.var ∈ state.driver.tracked)
    (point_eq : (state.step ads autoparam toFloat32 taken).scanPoint = state.scanPoint) :
    EachMeets Ledger.after Ledger.Allows ledger (state.entries ads autoparam toFloat32 taken) ∧
      (state.step ads autoparam toFloat32 taken).Ledgered
        (run Ledger.after ledger (state.entries ads autoparam toFloat32 taken)) :=
  ledgered.quiet_step ads autoparam toFloat32 unowned quiet pending
    (point_eq ▸ ledgered.ready.quiet quiet (keeps_step ads autoparam toFloat32 state taken))

theorem unresolveReadVars_step (ledgered : state.Ledgered ledger) {caller : DisconnectCaller}
    (point : state.scanPoint = .unresolveReadVars caller) (input : ScanInput) :
    EachMeets Ledger.after Ledger.Allows ledger
        (state.entries ads autoparam toFloat32 (.scan input)) ∧
      (state.step ads autoparam toFloat32 (.scan input)).Ledgered
        (run Ledger.after ledger (state.entries ads autoparam toFloat32 (.scan input))) := by
  have connected : state.driver.adsConnection.isConnected = true := by
    have ready := ledgered.ready
    rwa [point] at ready
  have listed : state.driver.adsReadVars ⊆ state.driver.tracked := List.subset_append_left _ _
  obtain ⟨all, _⟩ := ADSPortDriver.unresolveVariables_unresolved ads
    fun var member => ledgered.named var (listed member)
  refine ledgered.unresolve_step ads autoparam toFloat32 listed connected ?_ ?_
    (state.scan_pendingWrites ads autoparam input) ?_
  · simp only [entries, point]
  · simp only [Interleaved.step, scan, point, doThen]
  · simp only [Interleaved.step, scan, point, doThen]
    exact ⟨connected, all⟩

/-- The second section, which leaves all variables unresolved. -/
theorem unresolveWriteVars_step (ledgered : state.Ledgered ledger) {caller : DisconnectCaller}
    (point : state.scanPoint = .unresolveWriteVars caller) (input : ScanInput) :
    EachMeets Ledger.after Ledger.Allows ledger
        (state.entries ads autoparam toFloat32 (.scan input)) ∧
      (state.step ads autoparam toFloat32 (.scan input)).Ledgered
        (run Ledger.after ledger (state.entries ads autoparam toFloat32 (.scan input))) := by
  obtain ⟨connected, read_done⟩ : state.driver.adsConnection.isConnected = true ∧
      ∀ var ∈ state.driver.adsReadVars,
        (state.driver.heap.vars var).addr.nameIsResolved = false := by
    have ready := ledgered.ready
    rwa [point] at ready
  have listed : state.driver.adsWriteVars ⊆ state.driver.tracked := List.subset_append_right _ _
  obtain ⟨all, kept⟩ := ADSPortDriver.unresolveVariables_unresolved ads
    fun var member => ledgered.named var (listed member)
  refine ledgered.unresolve_step ads autoparam toFloat32 listed connected ?_ ?_
    (state.scan_pendingWrites ads autoparam input) ?_
  · simp only [entries, point]
  · simp only [Interleaved.step, scan, point, doThen]
  · simp only [Interleaved.step, scan, point, doThen]
    intro _ var member
    rcases List.mem_append.mp member with read | written
    · exact kept var (read_done var read)
    · exact all var written

/-- Sections of the scan thread.  Only that of `disconnect` closes a port, and it finds all handles
released unless `exitCalled` is set. -/
theorem scan_step (ledgered : state.Ledgered ledger) (input : ScanInput) :
    (state.driver.exitCalled = false → EachMeets Ledger.after Ledger.Allows ledger
        (state.entries ads autoparam toFloat32 (.scan input))) ∧
      (state.step ads autoparam toFloat32 (.scan input)).Ledgered
        (run Ledger.after ledger (state.entries ads autoparam toFloat32 (.scan input))) := by
  have pending := state.scan_pendingWrites ads autoparam input
  cases point : state.scanPoint with
  | disconnect caller => exact ledgered.disconnect_step ads autoparam toFloat32 point input
  | connect =>
      refine .imp_left (fun allowed _ => allowed) ?_
      exact ledgered.connect_step ads autoparam toFloat32 point input
  | setDisconnected caller =>
      refine .imp_left (fun allowed _ => allowed) ?_
      exact ledgered.setDisconnected_step ads autoparam toFloat32 point input
  | unresolveReadVars caller =>
      refine .imp_left (fun allowed _ => allowed) ?_
      exact ledgered.unresolveReadVars_step ads autoparam toFloat32 point input
  | unresolveWriteVars caller =>
      refine .imp_left (fun allowed _ => allowed) ?_
      exact ledgered.unresolveWriteVars_step ads autoparam toFloat32 point input
  | resolveReadVars =>
      refine .imp_left (fun allowed _ => allowed) ?_
      refine ledgered.resolve_step ads autoparam toFloat32 ADSPortDriver.adsReadVars
        (List.subset_append_left _ _) ?_ ?_ pending ?_
      · simp only [entries, point]
      · simp only [Interleaved.step, scan, point, tryThen]
      · simp only [Interleaved.step, scan, point, tryThen]
        split_ifs <;> trivial
  | resolveWriteVars =>
      refine .imp_left (fun allowed _ => allowed) ?_
      refine ledgered.resolve_step ads autoparam toFloat32 ADSPortDriver.adsWriteVars
        (List.subset_append_right _ _) ?_ ?_ pending ?_
      · simp only [entries, point]
      · simp only [Interleaved.step, scan, point, tryThen]
      · simp only [Interleaved.step, scan, point, tryThen]
        split_ifs <;> trivial
  | _ =>
      have quiet : state.scanPoint.quiet = true := by
        rw [point]
        rfl
      refine .imp_left (fun allowed _ => allowed) ?_
      refine ledgered.quiet_step ads autoparam toFloat32 ?_
        (quiet_scan ads autoparam quiet input) ?_ (ready_quiet ads autoparam quiet input)
      · simp only [entries, point]
      · exact fun write member => ledgered.pending write (pending ▸ member)

theorem shutDown_step (ledgered : state.Ledgered ledger) :
    EachMeets Ledger.after Ledger.Allows ledger
        (state.entries ads autoparam toFloat32 .shutDown) ∧
      (state.step ads autoparam toFloat32 .shutDown).Ledgered
        (run Ledger.after ledger (state.entries ads autoparam toFloat32 .shutDown)) := by
  have no_entries : state.entries ads autoparam toFloat32 .shutDown = [] := by
    simp [entries, Interleaved.step]
  have kept := keeps_step ads autoparam toFloat32 state .shutDown
  rw [no_entries]
  refine ⟨eachMeets_nil _ _ _, ledgered.of_kept kept ledgered.pending ledgered.port_eq
    ledgered.held_eq ledgered.addressed ?_ ?_⟩
  · exact fun _ running => absurd running (by simp [Interleaved.step])
  · have ready := ledgered.ready
    simp only [Interleaved.step]
    cases point : state.scanPoint <;> simp_all [ADSPortDriver.ReadyAt]

/-- Every step follows the rules, as long as `exitCalled` is not set, and the ledger agrees with the
driver after it in any case. -/
theorem step (ledgered : state.Ledgered ledger) (taken : ThreadStep) :
    (state.driver.exitCalled = false → EachMeets Ledger.after Ledger.Allows ledger
        (state.entries ads autoparam toFloat32 taken)) ∧
      (state.step ads autoparam toFloat32 taken).Ledgered
        (run Ledger.after ledger (state.entries ads autoparam toFloat32 taken)) := by
  cases taken with
  | scan input => exact ledgered.scan_step ads autoparam toFloat32 input
  | shutDown =>
      refine .imp_left (fun allowed _ => allowed) ?_
      exact ledgered.shutDown_step ads autoparam toFloat32
  | poll adsVar registration request =>
      refine .imp_left (fun allowed _ => allowed) ?_
      refine ledgered.handler_step ads autoparam toFloat32 rfl ?_ ?_ ?_ <;>
        unfold Interleaved.step <;> dsimp only <;> split_ifs
      · exact state.quiet_poll autoparam adsVar registration request
      · exact .refl _
      · exact ledgered.pending
      · exact ledgered.pending
      · rfl
      · rfl
  | checkWrite adsVar registration request =>
      refine .imp_left (fun allowed _ => allowed) ?_
      refine ledgered.handler_step ads autoparam toFloat32 rfl ?_ ?_ ?_ <;>
        unfold Interleaved.step <;> dsimp only <;> split_ifs with calls
      · exact state.quiet_checkWrite autoparam toFloat32 adsVar registration request
      · exact .refl _
      · intro write member
        unfold checkWrite at member
        dsimp only at member
        split at member
        · rcases List.mem_append.mp member with earlier | new
          · exact ledgered.pending write earlier
          · rw [List.mem_singleton.mp new]
            exact ledgered.devices adsVar calls.1
        · exact ledgered.pending write member
      · exact ledgered.pending
      · rfl
      · rfl
  | sendWrite index =>
      refine .imp_left (fun allowed _ => allowed) ?_
      refine ledgered.handler_step ads autoparam toFloat32 rfl ?_ ?_ ?_
      · exact state.quiet_sendWrite ads index fun write member =>
          (ledgered.addressed _ (ledgered.pending write member)).by_value
      · intro write member
        unfold Interleaved.step sendWrite at member
        dsimp only at member
        split at member
        · exact ledgered.pending write member
        · exact ledgered.pending write (List.mem_of_mem_eraseIdx member)
      · unfold Interleaved.step sendWrite
        dsimp only
        split <;> rfl

end Ledgered

/-- The ledger after a run. -/
def ledger (state : Interleaved) (taken : List ThreadStep) : Ledger :=
  run Ledger.after {} (log ads autoparam toFloat32 state taken)

theorem ledger_concat (state : Interleaved) (taken : List ThreadStep) (last : ThreadStep) :
    ledger ads autoparam toFloat32 state (taken ++ [last]) =
      run Ledger.after (ledger ads autoparam toFloat32 state taken)
        ((run (step ads autoparam toFloat32) state taken).entries ads autoparam
          toFloat32 last) := by
  rw [ledger, log_concat, run_append]
  rfl

/-- After every run the ledger agrees with the driver. -/
theorem ledgered_run {state : Interleaved} (initially : state.Ledgered {})
    (taken : List ThreadStep) :
    (run (step ads autoparam toFloat32) state taken).Ledgered
      (ledger ads autoparam toFloat32 state taken) := by
  induction taken using List.reverseRecOn with
  | nil => exact initially
  | append_singleton taken last ih =>
      rw [run_concat, ledger_concat]
      exact (ih.step ads autoparam toFloat32 last).2

theorem log_allowed {state : Interleaved} (initially : state.Ledgered {})
    (running : state.driver.exitCalled = false) {taken : List ThreadStep}
    (no_shutDown : .shutDown ∉ taken) :
    EachMeets Ledger.after Ledger.Allows {} (log ads autoparam toFloat32 state taken) := by
  induction taken using List.reverseRecOn with
  | nil => exact eachMeets_nil _ _ _
  | append_singleton taken last ih =>
      rw [List.mem_append, List.mem_singleton, not_or] at no_shutDown
      rw [log_concat, eachMeets_append]
      refine ⟨ih no_shutDown.1, ?_⟩
      refine ((ledgered_run ads autoparam toFloat32 initially taken).step ads autoparam toFloat32
        last).1 ?_
      rw [exitCalled_run ads autoparam toFloat32 no_shutDown.1, running]

/-- In every run of the threads with `exitCalled` not set, and whatever the library returns, each
handle that a variable has acquired is released at most once and with the value that the lookup
returned, and when the port is closed none is left, except those given up because a release had
found the connection lost.  A port is opened when none is open, closed while it is the open one, and
no port is open at the end of the run unless the driver is connected. -/
theorem handles_balanced {ipAddr : Str} {amsNetId : AmsNetId}
    {sumBufferSize deviceReadAdsPort : UInt16} {heap : Heap} {driver : ADSPortDriver}
    (constructed : ADSPortDriver.new ipAddr amsNetId sumBufferSize deviceReadAdsPort heap =
      some driver) (links : List RecordLink) (interrupts : List Nat) {taken : List ThreadStep}
    (no_shutDown : .shutDown ∉ taken) {reached : Interleaved}
    (reaches : run (step ads autoparam toFloat32) (start driver links interrupts) taken = reached)
    {entries : List LogEntry}
    (logged : log ads autoparam toFloat32 (start driver links interrupts) taken = entries) :
    entries.filterMap LogEntry.event? = reached.driver.trace ∧
      EachMeets Ledger.after Ledger.Allows {} entries ∧
      (run Ledger.after {} entries).port =
        if reached.driver.adsConnection.isConnected then some reached.driver.adsConnection.adsPort
        else none := by
  have hooked := hooked_start constructed links interrupts
  have ledgered := ledgered_start constructed links interrupts
  subst logged reaches
  refine ⟨?_, log_allowed ads autoparam toFloat32 ledgered hooked.running no_shutDown, ?_⟩
  · rw [run_trace, hooked.no_events, List.nil_append]
  · exact (ledgered_run ads autoparam toFloat32 ledgered taken).port_eq

/-- A library that loses the device: requests for its state and releases of handles are answered
with a missing route. -/
def lostAds : Ads := fun trace call =>
  match call with
  | .readState _ _ _ => { rc := 7 }
  | .write _ _ _ group _ _ => if group = adsigrpSymReleaseHnd then { rc := 7 } else {}
  | _ => SumReadRequest.sevensAds trace call

/-- Iterations of the scan thread in which the sample driver connects and loses the device. -/
def lostSteps : List ThreadStep := List.replicate 17 (.scan ADSPortDriver.sampleInput)

/-- After the first release has failed, the next handle is given up without a request. -/
theorem handles_balanced_sample :
    EachMeets Ledger.after Ledger.Allows {}
        (log lostAds .sample (fun _ => 0)
          (start ADSPortDriver.sampleDriver ADSPortDriver.sampleLinks [0, 2]) lostSteps) ∧
      .skipped 2 ∈ log lostAds .sample (fun _ => 0)
        (start ADSPortDriver.sampleDriver ADSPortDriver.sampleLinks [0, 2]) lostSteps :=
  ⟨(handles_balanced lostAds .sample (fun _ => 0)
    (rfl : ADSPortDriver.new _ [10, 0, 0, 1, 1, 1] 2 851 ⟨SumReadRequest.sampleVars, []⟩ =
      some ADSPortDriver.sampleDriver) ADSPortDriver.sampleLinks [0, 2]
    (fun member => by cases List.eq_of_mem_replicate member) rfl rfl).2.1, by decide⟩

end Interleaved

end AdsDriver
