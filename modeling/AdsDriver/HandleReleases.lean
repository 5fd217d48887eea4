import AdsDriver.HandleLog
import AdsDriver.Resolution

/-!
# Releases for any kind of address

The index offset of an address by name is its handle, and that of an address by register is the
register.  `unresolve_variables` releases the index offset of every resolved variable; `unresolve`
tells the two kinds apart only after the request.
-/

namespace AdsDriver

open ByteMemory Runs

/-- A release of the given handle. -/
def AdsCall.ReleaseOf (handle : UInt32) (call : AdsCall) : Prop :=
  ∃ port netId target, call =
    .write port netId target adsigrpSymReleaseHnd 0 (leBytes 4 handle.toNat)

/-- A lookup for the variable has returned the handle, and no release was requested for the variable
since. -/
def Unreleased (log : List LogEntry) (var : VarId) (handle : UInt32) : Prop :=
  ∃ earlier lookup later, log = earlier ++ .request (some var) lookup :: later ∧
    lookup.call.looksUp = true ∧ lookup.reply.rc = 0 ∧ lookup.reply.handle = handle ∧
    ∀ event, .request (some var) event ∈ later → event.call.releases = false

/-- All releases are made for variables by name, with a handle that is acquired and unreleased. -/
def ReleasesAcquired (byName : VarId → Prop) (log : List LogEntry) : Prop :=
  ∀ front owner event, front ++ [.request owner event] <+: log → event.call.releases = true →
    ∃ var handle, owner = some var ∧ byName var ∧ event.call.ReleaseOf handle ∧
      Unreleased front var handle

theorem Unreleased.append {log more : List LogEntry} {var : VarId} {handle : UInt32}
    (unreleased : Unreleased log var handle)
    (others : ∀ event, .request (some var) event ∈ more → event.call.releases = false) :
    Unreleased (log ++ more) var handle := by
  obtain ⟨earlier, lookup, later, rfl, asked, accepted, granted, kept⟩ := unreleased
  refine ⟨earlier, lookup, later ++ more, by simp, asked, accepted, granted, fun event member => ?_⟩
  exact (List.mem_append.mp member).elim (kept event) (others event)

theorem Unreleased.granted {log : List LogEntry} {var : VarId} {lookup : AdsEvent}
    (asked : lookup.call.looksUp = true) (accepted : lookup.reply.rc = 0) :
    Unreleased (log ++ [.request (some var) lookup]) var lookup.reply.handle :=
  ⟨log, lookup, [], rfl, asked, accepted, rfl, by simp⟩

theorem ReleasesAcquired.concat {byName : VarId → Prop} {log : List LogEntry} {entry : LogEntry}
    (acquired : ReleasesAcquired byName log)
    (last : ∀ owner event, entry = .request owner event → event.call.releases = true →
      ∃ var handle, owner = some var ∧ byName var ∧ event.call.ReleaseOf handle ∧
        Unreleased log var handle) : ReleasesAcquired byName (log ++ [entry]) := by
  intro front owner event reached releases
  rcases prefix_concat_iff.mp reached with same | shorter
  · obtain ⟨rfl, ends⟩ := List.append_inj' same rfl
    exact last owner event (List.singleton_inj.mp ends).symm releases
  · exact acquired front owner event shorter releases

/-- A call of `resolve_variables` or `unresolve_variables`. -/
inductive HandleCall
  | resolve (adsVariables : List VarId)
  | unresolve (adsVariables : List VarId)
  deriving DecidableEq

/-- The variables, all requests and the log of what they were made for. -/
structure HandleState where
  vars : Vars
  trace : Trace := []
  log : List LogEntry := []

section Calls

variable (ads : Ads) (connection : Connection)

/-- The state after a call. -/
def HandleState.after (state : HandleState) : HandleCall → HandleState
  | .resolve adsVariables =>
      let result := connection.resolveVariables ads adsVariables state.vars state.trace
      { vars := result.2.1
        trace := result.2.2
        log := state.log ++
          connection.resolveLoopEntries ads adsVariables state.vars state.trace }
  | .unresolve adsVariables =>
      let result := connection.unresolveVariables ads adsVariables state.vars state.trace
      { vars := result.2.1
        trace := result.2.2
        log := state.log ++ connection.unresolveLoopEntries ads adsVariables
          connection.isConnected state.vars state.trace }

/-- Only acquired handles were released. -/
structure HandlesRespected (byName : VarId → Prop) (state : HandleState) : Prop where
  /-- The log leaves out no request. -/
  accounted : state.trace = state.log.filterMap LogEntry.event?
  acquired : ReleasesAcquired byName state.log

/-- A call of `unresolve_variables` leaves addresses by register as they are. -/
def KeepsRegisters (byName : VarId → Prop) (state : HandleState) : HandleCall → Prop
  | .resolve _ => True
  | .unresolve adsVariables => ∀ var, ¬ byName var →
      (state.after ads connection (.unresolve adsVariables)).vars var = state.vars var

/-- A call of `unresolve_variables` reaches a resolved address by register only after the device has
answered a release of the same call with a code for a lost connection. -/
def SparesRegisters (byName : VarId → Prop) (state : HandleState) : HandleCall → Prop
  | .resolve _ => True
  | .unresolve adsVariables => ∀ front var back, adsVariables = front ++ var :: back →
      ¬ byName var → (state.vars var).addr.nameIsResolved = true →
        ∃ owner event, .request owner event ∈ connection.unresolveLoopEntries ads front
          connection.isConnected state.vars state.trace ∧ event.Disconnected

/-- Handles are accounted for in the log. -/
structure HandlesAccounted (byName : VarId → Prop) (vars : Vars) (log : List LogEntry) : Prop where
  named_iff : ∀ var, (vars var).addr.variableName ≠ [] ↔ byName var
  held : ∀ var, byName var → (vars var).addr.nameIsResolved = true →
    Unreleased log var (vars var).addr.indexOffset
  acquired : ReleasesAcquired byName log

variable {byName : VarId → Prop} {vars : Vars} {log : List LogEntry}

omit ads connection in
theorem only_of_singleton (id : VarId) (event : AdsEvent) : ∀ var, var ≠ id → ∀ other,
    LogEntry.request (some var) other ∉ [LogEntry.request (some id) event] := by
  intro var elsewhere other member
  obtain ⟨same, _⟩ := LogEntry.request.inj (List.mem_singleton.mp member)
  exact elsewhere (Option.some.inj same)

/-- One variable is readdressed, and requests are made for it only. -/
theorem HandlesAccounted.update (accounted : HandlesAccounted byName vars log) {id : VarId}
    {content : ADSVariable} {more : List LogEntry}
    (same_name : content.addr.variableName = (vars id).addr.variableName)
    (only : ∀ var, var ≠ id → ∀ event, .request (some var) event ∉ more)
    (held : byName id → content.addr.nameIsResolved = true →
      Unreleased (log ++ more) id content.addr.indexOffset)
    (acquired : ReleasesAcquired byName (log ++ more)) :
    HandlesAccounted byName (Function.update vars id content) (log ++ more) := by
  constructor
  · intro var
    by_cases here : var = id
    · subst here
      rw [Function.update_self, same_name]
      exact accounted.named_iff var
    · rw [Function.update_of_ne here]
      exact accounted.named_iff var
  · intro var by_name resolved
    by_cases here : var = id
    · subst here
      rw [Function.update_self] at resolved ⊢
      exact held by_name resolved
    · rw [Function.update_of_ne here] at resolved ⊢
      exact (accounted.held var by_name resolved).append
        fun event member => absurd member (only var here event)
  · exact acquired

/-- The body of the loop of `resolve_variables` keeps the account. -/
theorem HandlesAccounted.resolveName (accounted : HandlesAccounted byName vars log) (id : VarId)
    (trace : Trace) :
    HandlesAccounted byName
      (Function.update vars id ((vars id).resolveName ads connection trace).2.1)
      (log ++ (vars id).resolveEntries ads connection id trace) := by
  cases resolved : (vars id).addr.nameIsResolved with
  | true =>
      have passed : (vars id).resolveName ads connection trace = (none, vars id, trace) :=
        if_pos resolved
      rw [ADSVariable.resolveEntries, if_pos resolved, passed, List.append_nil,
        Function.update_eq_self]
      exact accounted
  | false =>
      obtain ⟨event, asked⟩ :
          ∃ event, ads.event trace (connection.lookUpCall (vars id).addr) = event := ⟨_, rfl⟩
      have event_call : event.call = connection.lookUpCall (vars id).addr := by rw [← asked]; rfl
      have looksUp : event.call.looksUp = true := by
        rw [event_call]
        rfl
      have no_release : event.call.releases = false := by
        rw [event_call]
        rfl
      have acquired : ReleasesAcquired byName (log ++ [.request (some id) event]) := by
        refine accounted.acquired.concat fun owner other same released => ?_
        obtain ⟨_, rfl⟩ := LogEntry.request.inj same
        rw [no_release] at released
        cases released
      rw [ADSVariable.resolveEntries, if_neg (by simp [resolved]), asked,
        ADSVariable.resolveName_unresolved ads connection resolved asked]
      by_cases accepted : event.reply.rc = 0
      · rw [if_pos accepted]
        exact accounted.update rfl (only_of_singleton id event)
          (fun _ _ => Unreleased.granted looksUp accepted) acquired
      · rw [if_neg accepted]
        refine accounted.update rfl (only_of_singleton id event) (fun _ again => ?_) acquired
        rw [resolved] at again
        cases again

/-- The body of the loop of `unresolve_variables` keeps the account, unless it reaches a resolved
address by register on a connection that it takes to be established. -/
theorem HandlesAccounted.unresolveName (accounted : HandlesAccounted byName vars log) (id : VarId)
    {adsIsConnected : Bool}
    (spared : ¬ byName id → (vars id).addr.nameIsResolved = true → adsIsConnected = false)
    (trace : Trace) :
    HandlesAccounted byName
      (Function.update vars id
        ((vars id).unresolveName ads connection adsIsConnected trace).2.2.1)
      (log ++ (vars id).unresolveEntries ads connection id trace adsIsConnected) := by
  have same_name : ({ vars id with addr := (vars id).addr.unresolve.2 } :
        ADSVariable).addr.variableName =
      (vars id).addr.variableName := (vars id).addr.afterCall_name .unresolve
  unfold ADSVariable.unresolveName ADSVariable.unresolveEntries
  split_ifs with unresolved connected
  · rw [List.append_nil, Function.update_eq_self]
    exact accounted
  · have resolved : (vars id).addr.nameIsResolved = true := by simpa using unresolved
    have by_name : byName id := by
      by_contra register
      rw [spared register resolved] at connected
      cases connected
    have cleared : (vars id).addr.unresolve.2.nameIsResolved = false := by
      rw [ADSAddress.unresolve_of_name ((accounted.named_iff id).mpr by_name)]
    refine accounted.update same_name (only_of_singleton id _) (fun _ again => ?_) ?_
    · rw [cleared] at again
      cases again
    · refine accounted.acquired.concat fun owner other same _ => ?_
      obtain ⟨rfl, rfl⟩ := LogEntry.request.inj same
      exact ⟨id, (vars id).addr.indexOffset, rfl, by_name, ⟨_, _, _, rfl⟩,
        accounted.held id by_name resolved⟩
  · refine accounted.update same_name ?_ (fun by_name again => ?_) ?_
    · intro var _ event member
      cases List.mem_singleton.mp member
    · have cleared : (vars id).addr.unresolve.2.nameIsResolved = false := by
        rw [ADSAddress.unresolve_of_name ((accounted.named_iff id).mpr by_name)]
      rw [cleared] at again
      cases again
    · refine accounted.acquired.concat fun owner other same _ => ?_
      cases same

theorem HandlesAccounted.resolveLoop (ids : List VarId) (status : Int) (trace : Trace)
    (accounted : HandlesAccounted byName vars log) :
    HandlesAccounted byName (connection.resolveLoop ads ids status vars trace).2.1
      (log ++ connection.resolveLoopEntries ads ids vars trace) := by
  induction ids generalizing status vars trace log with
  | nil => simpa [Connection.resolveLoop, Connection.resolveLoopEntries] using accounted
  | cons first rest ih =>
      rw [Connection.resolveLoop, Connection.resolveLoopEntries, ← List.append_assoc]
      exact ih _ _ (accounted.resolveName ads connection first trace)

theorem ADSVariable.unresolveName_register {var : ADSVariable}
    (nameless : var.addr.variableName = [])
    (adsIsConnected : Bool) (trace : Trace) :
    (var.unresolveName ads connection adsIsConnected trace).2.2.1 = var := by
  have kept : ({ var with addr := var.addr.unresolve.2 } : ADSVariable) = var := by
    simp [ADSAddress.unresolve, nameless]
  unfold ADSVariable.unresolveName
  split_ifs
  · rfl
  · exact kept
  · exact kept

theorem Connection.unresolveLoop_register (ids : List VarId) (adsIsConnected unresolveErrors : Bool)
    (trace : Trace) {var : VarId} (nameless : (vars var).addr.variableName = []) :
    (connection.unresolveLoop ads ids adsIsConnected unresolveErrors vars trace).2.2.1 var =
      vars var := by
  induction ids generalizing adsIsConnected unresolveErrors vars trace with
  | nil => rfl
  | cons first rest ih =>
      have unchanged : Function.update vars first
          ((vars first).unresolveName ads connection adsIsConnected trace).2.2.1 var =
            vars var := by
        by_cases here : var = first
        · subst here
          rw [Function.update_self,
            ADSVariable.unresolveName_register ads connection nameless]
        · rw [Function.update_of_ne here]
      rw [unresolveLoop, ih _ _ _ (by rwa [unchanged]), unchanged]

theorem ADSVariable.unresolveName_disconnected (var : ADSVariable) (id : VarId)
    (adsIsConnected : Bool) (trace : Trace) :
    (var.unresolveName ads connection adsIsConnected trace).1 = false ↔
      adsIsConnected = false ∨ ∃ owner event, .request owner event ∈
        var.unresolveEntries ads connection id trace adsIsConnected ∧ event.Disconnected := by
  unfold ADSVariable.unresolveName ADSVariable.unresolveEntries
  split_ifs with unresolved connected
  · simp
  · simp only [connected, Bool.true_eq_false, false_or, List.mem_singleton, LogEntry.request.injEq]
    generalize ads.event trace (connection.releaseCall var.addr) = event
    by_cases accepted : event.reply.rc = 0
    · simp [accepted, AdsEvent.not_disconnected accepted]
    · simp [accepted, AdsEvent.Disconnected]
  · simp [connected]

/-- The releases of a list are spared a variable by register: the condition for one place, carried
along the list. -/
theorem HandlesAccounted.unresolveLoop (ids : List VarId) (adsIsConnected unresolveErrors : Bool)
    (trace : Trace) (accounted : HandlesAccounted byName vars log)
    (spared : ∀ front var back, ids = front ++ var :: back → ¬ byName var →
      (vars var).addr.nameIsResolved = true → adsIsConnected = false ∨
        ∃ owner event, .request owner event ∈
          connection.unresolveLoopEntries ads front adsIsConnected vars trace ∧
            event.Disconnected) :
    HandlesAccounted byName
      (connection.unresolveLoop ads ids adsIsConnected unresolveErrors vars trace).2.2.1
      (log ++ connection.unresolveLoopEntries ads ids adsIsConnected vars trace) := by
  induction ids generalizing adsIsConnected unresolveErrors vars trace log with
  | nil => simpa [Connection.unresolveLoop, Connection.unresolveLoopEntries] using accounted
  | cons first rest ih =>
      rw [Connection.unresolveLoop, Connection.unresolveLoopEntries, ← List.append_assoc]
      refine ih _ _ _ (accounted.unresolveName ads connection first (fun register resolved => ?_)
        trace) fun front var back split register resolved => ?_
      · simpa [Connection.unresolveLoopEntries] using spared [] first rest rfl register resolved
      · have nameless : (vars var).addr.variableName = [] := by
          by_contra named
          exact register ((accounted.named_iff var).mp named)
        have unchanged : Function.update vars first
            ((vars first).unresolveName ads connection adsIsConnected trace).2.2.1 var =
              vars var := by
          simpa [Connection.unresolveLoop] using connection.unresolveLoop_register ads [first]
            adsIsConnected unresolveErrors trace nameless
        rw [unchanged] at resolved
        rw [(vars first).unresolveName_disconnected ads connection first, or_assoc]
        refine (spared (first :: front) var back (by rw [split]; rfl) register
          resolved).imp_right ?_
        rintro ⟨owner, event, member, disconnected⟩
        rw [Connection.unresolveLoopEntries] at member
        exact (List.mem_append.mp member).imp (fun here => ⟨owner, event, here, disconnected⟩)
          fun later => ⟨owner, event, later, disconnected⟩

/-- A resolved variable by register that is reached on a connection taken to be established is
released. -/
theorem Connection.unresolveLoop_releases (front back : List VarId) (adsIsConnected : Bool)
    (trace : Trace) {var : VarId} (nameless : (vars var).addr.variableName = [])
    (resolved : (vars var).addr.nameIsResolved = true) (connected : adsIsConnected = true)
    (answered : ∀ owner event, .request owner event ∈
      connection.unresolveLoopEntries ads front adsIsConnected vars trace → ¬ event.Disconnected) :
    ∃ event, .request (some var) event ∈
        connection.unresolveLoopEntries ads (front ++ var :: back) adsIsConnected vars trace ∧
      event.call.releases = true := by
  induction front generalizing adsIsConnected vars trace with
  | nil =>
      refine ⟨ads.event trace (connection.releaseCall (vars var).addr), ?_, rfl⟩
      rw [List.nil_append, unresolveLoopEntries, ADSVariable.unresolveEntries,
        if_neg (by simp [resolved]), if_pos connected]
      exact List.mem_append_left _ (List.mem_singleton.mpr rfl)
  | cons first front ih =>
      rw [unresolveLoopEntries] at answered
      have unchanged : Function.update vars first
          ((vars first).unresolveName ads connection adsIsConnected trace).2.2.1 var =
            vars var := by
        simpa [unresolveLoop] using connection.unresolveLoop_register ads [first]
          adsIsConnected false trace nameless
      have still_connected :
          ((vars first).unresolveName ads connection adsIsConnected trace).1 = true := by
        by_contra given_up
        rcases ((vars first).unresolveName_disconnected ads connection first
          adsIsConnected trace).mp
          (by simpa using given_up) with closed | ⟨owner, event, member, disconnected⟩
        · rw [connected] at closed
          cases closed
        · exact answered owner event (List.mem_append_left _ member) disconnected
      obtain ⟨event, member, releases⟩ := ih _ _ (by rwa [unchanged]) (by rwa [unchanged])
        still_connected fun owner event member =>
          answered owner event (List.mem_append_right _ member)
      rw [List.cons_append, unresolveLoopEntries]
      exact ⟨event, List.mem_append_right _ member, releases⟩

theorem Connection.resolveVariables_loop (connected : connection.isConnected = true)
    (ids : List VarId) (vars : Vars) (trace : Trace) :
    (connection.resolveVariables ads ids vars trace).2 =
      (connection.resolveLoop ads ids 0 vars trace).2 := by
  unfold resolveVariables
  split_ifs with empty closed
  · rw [empty]
    rfl
  · simp [connected] at closed
  · rfl

theorem Connection.unresolveVariables_loop (ids : List VarId) (vars : Vars) (trace : Trace) :
    (connection.unresolveVariables ads ids vars trace).2 =
      (connection.unresolveLoop ads ids connection.isConnected false vars trace).2.2 := by
  unfold unresolveVariables
  split_ifs with empty
  · rw [empty]
    rfl
  · rfl

theorem HandleState.after_trace (connected : connection.isConnected = true) {state : HandleState}
    (accounted : state.trace = state.log.filterMap LogEntry.event?) (call : HandleCall) :
    (state.after ads connection call).trace =
      (state.after ads connection call).log.filterMap LogEntry.event? := by
  cases call with
  | resolve ids =>
      simp only [after, List.filterMap_append, ← accounted,
        connection.resolveVariables_loop ads connected]
      exact connection.resolveLoop_trace ads ids 0 state.vars state.trace
  | unresolve ids =>
      simp only [after, List.filterMap_append, ← accounted, connection.unresolveVariables_loop ads]
      exact connection.unresolveLoop_trace ads ids _ _ state.vars state.trace

theorem HandleState.after_accounted (connected : connection.isConnected = true)
    {state : HandleState} (accounted : HandlesAccounted byName state.vars state.log)
    {call : HandleCall} (spares : SparesRegisters ads connection byName state call) :
    HandlesAccounted byName (state.after ads connection call).vars
      (state.after ads connection call).log := by
  cases call with
  | resolve ids =>
      simp only [after, connection.resolveVariables_loop ads connected]
      exact accounted.resolveLoop ads connection ids 0 state.trace
  | unresolve ids =>
      simp only [after, connection.unresolveVariables_loop ads]
      exact accounted.unresolveLoop ads connection ids connection.isConnected false state.trace
        fun front var back split register resolved =>
          .inr (spares front var back split register resolved)

/-- A call that keeps to acquired handles has spared the registers. -/
theorem HandleState.spares_of_acquired (connected : connection.isConnected = true)
    {state : HandleState} (accounted : HandlesAccounted byName state.vars state.log)
    {call : HandleCall}
    (acquired : ReleasesAcquired byName (state.after ads connection call).log) :
    SparesRegisters ads connection byName state call := by
  cases call with
  | resolve ids => trivial
  | unresolve ids =>
      intro front var back split register resolved
      by_contra answered
      have nameless : (state.vars var).addr.variableName = [] := by
        by_contra named
        exact register ((accounted.named_iff var).mp named)
      obtain ⟨event, member, releases⟩ := connection.unresolveLoop_releases ads front back
        connection.isConnected state.trace nameless resolved connected
        fun owner event member disconnected => answered ⟨owner, event, member, disconnected⟩
      rw [← split] at member
      obtain ⟨before, after, log_eq⟩ := List.append_of_mem
        (List.mem_append_right state.log member)
      obtain ⟨_, _, same, by_name, _⟩ := acquired before (some var) event
        ⟨after, by rw [List.append_assoc]; exact log_eq.symm⟩ releases
      obtain rfl := Option.some.inj same
      exact register by_name

theorem HandleState.keepsRegisters {state : HandleState}
    (accounted : ∀ var, (state.vars var).addr.variableName ≠ [] ↔ byName var) (call : HandleCall) :
    KeepsRegisters ads connection byName state call := by
  cases call with
  | resolve ids => trivial
  | unresolve ids =>
      intro var register
      have nameless : (state.vars var).addr.variableName = [] := by
        by_contra named
        exact register ((accounted var).mp named)
      simp only [after, connection.unresolveVariables_loop ads]
      exact connection.unresolveLoop_register ads ids _ _ state.trace nameless

theorem HandleState.after_named (connected : connection.isConnected = true) (state : HandleState)
    (call : HandleCall) (var : VarId) :
    ((state.after ads connection call).vars var).addr.variableName =
      (state.vars var).addr.variableName := by
  cases call with
  | resolve ids =>
      simp only [after, connection.resolveVariables_loop ads connected]
      obtain ⟨_, _, _, same, _⟩ := connection.resolveLoop_spec ads ids 0 state.vars state.trace rfl
      exact same.variableName_eq var
  | unresolve ids =>
      simp only [after, connection.unresolveVariables_loop ads]
      obtain ⟨_, _, _, same, _⟩ :=
        connection.unresolveLoop_spec ads ids connection.isConnected false
        state.vars state.trace rfl
      exact same.variableName_eq var

theorem HandleState.named_run (connected : connection.isConnected = true) {vars : Vars}
    (named_iff : ∀ var, (vars var).addr.variableName ≠ [] ↔ byName var) (calls : List HandleCall) :
    ∀ var, ((run (HandleState.after ads connection) { vars } calls).vars
      var).addr.variableName ≠ [] ↔
      byName var := by
  refine run_invariant (fun state : HandleState =>
    ∀ var, (state.vars var).addr.variableName ≠ [] ↔ byName var) ?_ named_iff calls
  intro state call same var
  rw [state.after_named ads connection connected]
  exact same var

/-- Runs keep to acquired handles exactly when they spare the registers, and then the account holds
at their end. -/
theorem HandleState.respects_run (connected : connection.isConnected = true) {vars : Vars}
    (initially : HandlesAccounted byName vars []) (calls : List HandleCall) :
    (Throughout (HandleState.after ads connection) (HandlesRespected byName) { vars } calls ↔
      EachMeets (HandleState.after ads connection) (SparesRegisters ads connection byName)
        { vars } calls) ∧
      (EachMeets (HandleState.after ads connection) (SparesRegisters ads connection byName)
        { vars } calls →
          HandlesAccounted byName (run (HandleState.after ads connection) { vars } calls).vars
            (run (HandleState.after ads connection) { vars } calls).log ∧
          (run (HandleState.after ads connection) { vars } calls).trace =
            (run (HandleState.after ads connection) { vars } calls).log.filterMap
              LogEntry.event?) := by
  induction calls using List.reverseRecOn with
  | nil =>
      refine ⟨iff_of_true (fun front reached => ?_) (eachMeets_nil _ _ _),
        fun _ => ⟨initially, rfl⟩⟩
      rw [List.prefix_nil.mp reached]
      exact ⟨rfl, initially.acquired⟩
  | append_singleton calls call ih =>
      obtain ⟨earlier_iff, account⟩ := ih
      rw [throughout_concat, eachMeets_concat, run_concat, earlier_iff]
      refine ⟨and_congr_right fun spared => ?_, fun ⟨spared, last⟩ => ?_⟩
      · obtain ⟨accounted, trace_eq⟩ := account spared
        constructor
        · exact fun respected => HandleState.spares_of_acquired ads connection connected accounted
            respected.acquired
        · exact fun last => ⟨HandleState.after_trace ads connection connected trace_eq call,
            (HandleState.after_accounted ads connection connected accounted last).acquired⟩
      · obtain ⟨accounted, trace_eq⟩ := account spared
        exact ⟨HandleState.after_accounted ads connection connected accounted last,
          HandleState.after_trace ads connection connected trace_eq call⟩

variable {ads connection}

/-- Over all calls on an open connection, only acquired handles are released and addresses by
register keep their place, exactly when each call spares the registers. -/
theorem handles_respected_iff (connected : connection.isConnected = true)
    {sources : VarId → AddressSource} {vars : Vars}
    (built : ∀ var, (sources var).construct = .ok (vars var).addr) (calls : List HandleCall) :
    let byName := fun var => (sources var).registerTexts? = none
    (Throughout (HandleState.after ads connection) (HandlesRespected byName) { vars } calls ∧
        EachMeets (HandleState.after ads connection) (KeepsRegisters ads connection byName)
          { vars } calls) ↔
      EachMeets (HandleState.after ads connection) (SparesRegisters ads connection byName)
        { vars } calls := by
  intro byName
  have named_iff : ∀ var, (vars var).addr.variableName ≠ [] ↔ byName var := by
    intro var
    cases texts : (sources var).registerTexts? with
    | none =>
        exact iff_of_true (AddressSource.construct_named (built var) texts).named texts
    | some register =>
        have nameless := (AddressSource.construct_register (built var) texts).nameless
        exact iff_of_false (not_not_intro nameless) (by simp [byName, texts])
  have registers_kept : EachMeets (HandleState.after ads connection)
      (KeepsRegisters ads connection byName) { vars } calls :=
    fun front call _ => HandleState.keepsRegisters ads connection
      (HandleState.named_run ads connection connected named_iff front) call
  have initially : HandlesAccounted byName vars [] := by
    refine ⟨named_iff, fun var by_name resolved => ?_, fun front owner event reached => ?_⟩
    · rw [(AddressSource.construct_named (built var) by_name).unresolved] at resolved
      cases resolved
    · simp at reached
  rw [and_iff_left registers_kept]
  exact (HandleState.respects_run ads connection connected initially calls).1

end Calls

/-- A variable by name and, from id 1 on, variables by register. -/
def mixedSources (var : VarId) : AddressSource :=
  if var = 0 then .link "INT".toList ["R".toList, "P=851".toList, "V=Main.x".toList]
  else registerSource

/-- Their variables. -/
def mixedVars (var : VarId) : ADSVariable :=
  if var = 0 then namedVar else { addr := registerAddress, arrayDataHash := 0 }

theorem mixedVars_built (var : VarId) :
    (mixedSources var).construct = .ok (mixedVars var).addr := by
  unfold mixedSources mixedVars
  split_ifs
  · decide
  · decide

/-- A library that grants the handle 12 and accepts everything else. -/
def twelveAds : Ads := fun _ _ => { data := [12, 0, 0, 0] }

theorem handles_respected_sample :
    let byName := fun var => (mixedSources var).registerTexts? = none
    let calls := [HandleCall.resolve [0, 1, 0], HandleCall.unresolve [0]]
    Throughout (HandleState.after twelveAds { adsPort := 1 }) (HandlesRespected byName)
        { vars := mixedVars } calls ∧
      EachMeets (HandleState.after twelveAds { adsPort := 1 })
        (KeepsRegisters twelveAds { adsPort := 1 } byName) { vars := mixedVars } calls := by
  refine (handles_respected_iff rfl mixedVars_built _).mpr ?_
  rw [eachMeets_cons, eachMeets_cons]
  refine ⟨trivial, fun front var back split register => ?_, eachMeets_nil _ _ _⟩
  have listed : var ∈ [0] := by
    rw [split]
    simp
  obtain rfl : var = 0 := by simpa using listed
  exact absurd rfl register

/-- The offset 12 of a register is released as a handle, which is the live one of another
variable. -/
theorem register_released :
    let calls := [HandleCall.resolve [0], HandleCall.unresolve [1]]
    let reached := run (HandleState.after twelveAds { adsPort := 1 }) { vars := mixedVars } calls
    (reached.vars 0).addr.nameIsResolved = true ∧ (reached.vars 0).addr.indexOffset = 12 ∧
      (∃ event, reached.log.getLast? = some (.request (some 1) event) ∧ event.call.ReleaseOf 12) ∧
      ¬ Throughout (HandleState.after twelveAds { adsPort := 1 })
        (HandlesRespected fun var => (mixedSources var).registerTexts? = none)
        { vars := mixedVars } calls := by
  intro calls reached
  have last : reached.log.getLast? = some (.request (some 1)
      (twelveAds.event [] (Connection.releaseCall { adsPort := 1 } registerAddress))) := by decide
  refine ⟨by decide, by decide, ⟨_, last, _, _, _, rfl⟩, fun respected => ?_⟩
  have whole := (respected calls (List.prefix_refl _)).acquired
  have split := List.dropLast_append_getLast? _ last
  obtain ⟨_, _, same, by_name, _⟩ := whole reached.log.dropLast (some 1) _
    (by rw [split]) rfl
  obtain rfl := Option.some.inj same
  exact absurd by_name (by decide)

end AdsDriver
