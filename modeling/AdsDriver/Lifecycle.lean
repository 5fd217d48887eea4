import AdsDriver.ScanFrame

/-!
# The life cycle of a connection

At every head of the scan loop the driver is up or down.  When it is up, all tracked variables hold
handles of the open connection and the sum-read requests ask by these handles; when it is down,
nothing is resolved and the sum-read is not initialized.  Between two heads the connection may be
half way up.  Every step that fails leaves a state that `ADSDisconnect` takes down, and
`ADSDisconnect` may be called twice.
-/

namespace AdsDriver

open ByteMemory StatusSteps Runs

/-- A handle was returned by a lookup among these events. -/
def Granted (events : Trace) (handle : UInt32) : Prop :=
  ∃ event ∈ events, (∃ (connection : Connection) (addr : ADSAddress),
    connection.AsksHandle addr event.call) ∧ event.reply.rc = 0 ∧ event.reply.handle = handle

theorem Granted.mono {events more : Trace} {handle : UInt32} (granted : Granted events handle)
    (subset : events ⊆ more) : Granted more handle := by
  obtain ⟨event, member, returned⟩ := granted
  exact ⟨event, subset member, returned⟩

/-- An entry asks by a handle returned among these events. -/
def AdsSymbolInfoByName.ByHandle (events : Trace) (entry : AdsSymbolInfoByName) : Prop :=
  entry.indexGroup = adsigrpSymValByHnd ∧ Granted events entry.indexOffset

/-- Every sum-read asks by handles that were looked up since the port was opened. -/
def HandlesCurrent (trace : Trace) : Prop :=
  ∀ front event, front ++ [event] <+: trace →
    ∀ entry ∈ event.call.sumReadEntries, entry.ByHandle (sinceOpen front)

namespace HandlesCurrent

theorem nil : HandlesCurrent [] := by
  intro front event reached
  exact absurd (List.prefix_nil.mp reached) (by simp)

theorem concat {trace : Trace} {event : AdsEvent} (current : HandlesCurrent trace)
    (by_handle : ∀ entry ∈ event.call.sumReadEntries, entry.ByHandle (sinceOpen trace)) :
    HandlesCurrent (trace ++ [event]) := by
  intro front other reached
  rcases prefix_concat_iff.mp reached with same | earlier
  · obtain ⟨rfl, same_event⟩ := List.append_inj' same rfl
    obtain rfl : other = event := by simpa using same_event
    exact by_handle
  · exact current front other earlier

/-- Requests by handles of the open connection. -/
theorem append {trace events : Trace} (current : HandlesCurrent trace)
    (keeps : ∀ event ∈ events, event.opensPort = false)
    (by_handle : ∀ event ∈ events, ∀ entry ∈ event.call.sumReadEntries,
      entry.ByHandle (sinceOpen trace)) : HandlesCurrent (trace ++ events) := by
  induction events using List.reverseRecOn with
  | nil => simpa using current
  | append_singleton events event ih =>
      have earlier_keeps := fun other (member : other ∈ events) =>
        keeps other (List.mem_append_left _ member)
      have earlier := ih earlier_keeps fun other member =>
        by_handle other (List.mem_append_left _ member)
      rw [← List.append_assoc]
      refine earlier.concat fun entry member => ?_
      obtain ⟨group_eq, granted⟩ := by_handle event (by simp) entry member
      rw [sinceOpen_append earlier_keeps]
      exact ⟨group_eq, granted.mono (List.subset_append_left _ _)⟩

theorem append_plain {trace events : Trace} (current : HandlesCurrent trace)
    (plain : ∀ event ∈ events, event.Plain) : HandlesCurrent (trace ++ events) := by
  refine current.append (fun event member => (plain event member).keeps_port) ?_
  intro event member entry asked
  rw [(plain event member).no_entries] at asked
  exact absurd asked List.not_mem_nil

end HandlesCurrent

namespace ADSPortDriver

/-! ## States of the connection -/

/-- What holds between any two calls of the scan thread. -/
structure Consistent (driver : ADSPortDriver) : Prop extends Base driver where
  current : HandlesCurrent driver.trace
  unresolved : driver.adsConnection.isConnected = false →
    ∀ var ∈ driver.tracked, (driver.heap.vars var).addr.nameIsResolved = false

/-- The connection is closed. -/
structure Down (driver : ADSPortDriver) : Prop extends Consistent driver where
  closed : driver.adsConnection.isConnected = false
  sumRead_idle : driver.sumRead.initialized = false

/-- The connection is open and these variables have been resolved. -/
structure Resolving (done : ADSPortDriver → List VarId) (driver : ADSPortDriver) : Prop extends
    Consistent driver where
  opened : driver.adsConnection.isConnected = true
  sumRead_idle : driver.sumRead.initialized = false
  held : ∀ var ∈ driver.tracked, (driver.heap.vars var).addr.nameIsResolved = true →
    (driver.heap.vars var).Held driver.adsConnection (sinceOpen driver.trace)
  resolved : ∀ var ∈ done driver, (driver.heap.vars var).addr.nameIsResolved = true

/-- The connection is open and in use. -/
structure Up (driver : ADSPortDriver) : Prop extends Consistent driver where
  opened : driver.adsConnection.isConnected = true
  sumRead_ready : driver.sumRead.initialized = true
  held : ∀ var ∈ driver.tracked,
    (driver.heap.vars var).Held driver.adsConnection (sinceOpen driver.trace)
  entries : ∀ chunk ∈ driver.sumRead.getChunks,
    chunk.sumReadRequestBuffer = chunk.vars.map fun var => (driver.heap.vars var).requestEntry

variable (ads : Ads)

/-- Unresolving keeps a driver consistent and leaves nothing of the list resolved. -/
theorem Consistent.unresolveVariables {driver : ADSPortDriver} (consistent : driver.Consistent)
    {adsVariables : List VarId} (listed : adsVariables ⊆ driver.tracked) :
    (driver.unresolveVariables ads adsVariables).Consistent ∧
      driver.Continues (driver.unresolveVariables ads adsVariables) ∧
      (∀ var, (driver.heap.vars var).addr.nameIsResolved = false →
        ((driver.unresolveVariables ads adsVariables).heap.vars var).addr.nameIsResolved = false) ∧
      ∀ var ∈ adsVariables,
        ((driver.unresolveVariables ads adsVariables).heap.vars var).addr.nameIsResolved =
          false := by
  rcases loop : Connection.unresolveLoop ads driver.adsConnection adsVariables
    driver.adsConnection.isConnected false driver.heap.vars driver.trace with
    ⟨connected, errors, vars, trace⟩
  obtain ⟨events, rfl, plain, same, kept, all⟩ :=
    Connection.unresolveLoop_spec ads driver.adsConnection adsVariables _ _ _ _ loop
  have continues := Continues.ofReaddressed driver (driver.trace ++ events) same
  have after_eq : driver.unresolveVariables ads adsVariables =
      { driver with heap := { driver.heap with vars }, trace := driver.trace ++ events } := by
    unfold ADSPortDriver.unresolveVariables Connection.unresolveVariables
    by_cases empty : adsVariables = []
    · subst empty
      obtain ⟨-, -, rfl, trace_eq⟩ : _ ∧ _ ∧ driver.heap.vars = vars ∧
          driver.trace = driver.trace ++ events := by
        simpa only [Connection.unresolveLoop, Prod.mk.injEq] using loop
      rw [← trace_eq]
      rfl
    · rw [if_neg empty, loop]
  rw [after_eq]
  refine ⟨⟨consistent.toBase.continues continues, consistent.current.append_plain plain, ?_⟩,
    continues, kept, fun var member => all var member (consistent.named var (listed member))⟩
  intro closed var member
  exact kept var (consistent.unresolved closed var (continues.tracked_eq ▸ member))

/-- Closing the connection once nothing is resolved. -/
theorem Consistent.closeConnection {driver : ADSPortDriver} (consistent : driver.Consistent)
    (unresolved : ∀ var ∈ driver.tracked, (driver.heap.vars var).addr.nameIsResolved = false)
    (idle : driver.sumRead.initialized = false) : (driver.closeConnection ads).Down := by
  rcases closed : driver.adsConnection.disconnect ads driver.trace with ⟨status, connection, trace⟩
  obtain ⟨_, events, rfl, plain⟩ := Connection.disconnect_spec ads _ _ closed
  have after_eq : driver.closeConnection ads =
      { driver with
        adsConnection := connection.setDisconnected
        trace := driver.trace ++ events } := by
    rw [ADSPortDriver.closeConnection, closed]
  have continues := Continues.ofSumRead driver connection.setDisconnected (driver.trace ++ events)
    (.refl driver.sumRead) rfl
  rw [after_eq]
  exact ⟨⟨consistent.toBase.continues continues, consistent.current.append_plain plain,
    fun _ => unresolved⟩, rfl, idle⟩

/-- `ADSDisconnect` takes any consistent driver down. -/
theorem Consistent.adsDisconnect {driver : ADSPortDriver} (consistent : driver.Consistent) :
    (driver.adsDisconnect ads).Down := by
  have idle : { driver with sumRead := driver.sumRead.deinitializeRequest }.Consistent :=
    ⟨consistent.toBase.continues
        (.ofSumRead driver driver.adsConnection driver.trace
          driver.sumRead.sameLayout_deinitializeRequest rfl),
      consistent.current, consistent.unresolved⟩
  unfold ADSPortDriver.adsDisconnect
  dsimp only
  rw [if_pos (by rw [consistent.running]; rfl)]
  split_ifs with closed
  · exact ⟨idle, closed, rfl⟩
  · obtain ⟨first, first_continues, _, first_all⟩ :=
      idle.unresolveVariables ads (List.subset_append_left driver.adsReadVars driver.adsWriteVars)
    have listed : driver.adsWriteVars ⊆ ADSPortDriver.tracked
        ({ driver with sumRead := driver.sumRead.deinitializeRequest }.unresolveVariables ads
          driver.adsReadVars) := List.subset_append_right _ _
    obtain ⟨second, _, second_kept, second_all⟩ := first.unresolveVariables ads listed
    refine second.closeConnection ads (fun var member => ?_) rfl
    rcases List.mem_append.mp member with read | written
    · exact second_kept var (first_all var read)
    · exact second_all var written

theorem Up.extend {driver : ADSPortDriver} (up : driver.Up) {events : Trace}
    (keeps : ∀ event ∈ events, event.opensPort = false)
    (by_handle : ∀ event ∈ events, ∀ entry ∈ event.call.sumReadEntries,
      entry.ByHandle (sinceOpen driver.trace)) :
    { driver with trace := driver.trace ++ events }.Up where
  toConsistent :=
    { up.toBase.continues (.ofSumRead driver driver.adsConnection _ (.refl driver.sumRead) rfl) with
      current := up.current.append keeps by_handle
      unresolved := up.unresolved }
  opened := up.opened
  sumRead_ready := up.sumRead_ready
  held var member := by
    rw [sinceOpen_append keeps]
    exact (up.held var member).mono (List.subset_append_left _ _)
  entries := up.entries

theorem Up.extend_plain {driver : ADSPortDriver} (up : driver.Up) {event : AdsEvent}
    (plain : event.Plain) : { driver with trace := driver.trace ++ [event] }.Up := by
  refine up.extend ?_ ?_
  · rintro other (_ | ⟨_, none⟩)
    · exact plain.keeps_port
    · exact absurd none List.not_mem_nil
  · rintro other (_ | ⟨_, none⟩) entry asked
    · rw [plain.no_entries] at asked
      exact absurd asked List.not_mem_nil
    · exact absurd none List.not_mem_nil

theorem ends_readInfo : Ends Up (readInfo ads) Up Up := by
  intro driver up
  obtain ⟨read, plain⟩ := Connection.readDeviceInfo_eq ads up.opened driver.trace rfl
  have after := up.extend_plain plain
  simp only [readInfo, read]
  exact ⟨fun _ => after, fun _ => after⟩

theorem ends_readState : Ends Up (readState ads) Up Up := by
  intro driver up
  obtain ⟨read, plain⟩ := Connection.readDeviceState_eq ads up.opened driver.trace rfl
  have after := up.extend_plain plain
  simp only [readState, read]
  exact ⟨fun _ => after, fun _ => after⟩

theorem Up.byHandle {driver : ADSPortDriver} (up : driver.Up) {chunk : ReadRequestChunk}
    (member : chunk ∈ driver.sumRead.getChunks) {event : AdsEvent}
    (asked : event.call = chunk.readCall driver.adsConnection) :
    ∀ entry ∈ event.call.sumReadEntries, entry.ByHandle (sinceOpen driver.trace) := by
  obtain ⟨given, distributed⟩ := up.distributed
  obtain ⟨port, in_set⟩ := SumReadRequest.mem_getChunks_iff.mp member
  rw [asked, (distributed.sound port chunk in_set).sumReadEntries, up.entries chunk member]
  intro entry in_entries
  obtain ⟨var, in_chunk, rfl⟩ := List.mem_map.mp in_entries
  have read := distributed.mem_of_chunk member in_chunk
  have held := up.held var (List.mem_append_left _ read)
  obtain ⟨lookup, in_trace, found, accepted, handle_eq⟩ := held.granted
  exact ⟨held.group_eq, lookup, in_trace, ⟨_, _, found⟩, accepted, handle_eq⟩

/-- A sum-read keeps a driver up, whatever the library returns. -/
theorem ends_readSumRead : Ends Up (readSumRead ads) Up Up := by
  intro driver up
  obtain ⟨events, trace_eq, sent⟩ :=
    driver.sumRead.read_events ads driver.adsConnection driver.trace
  obtain ⟨allocated_eq, initialized_eq⟩ :=
    driver.sumRead.read_flags ads driver.adsConnection driver.trace
  have same := driver.sumRead.sameLayout_read ads driver.adsConnection driver.trace
  have same_entries := driver.sumRead.read_entries ads driver.adsConnection driver.trace
  have keeps : ∀ event ∈ events, event.opensPort = false := by
    intro event member
    obtain ⟨chunk, _, asked⟩ := sent event member
    exact ReadRequestChunk.readCall_keeps_port asked
  have by_handle : ∀ event ∈ events, ∀ entry ∈ event.call.sumReadEntries,
      entry.ByHandle (sinceOpen driver.trace) := by
    intro event member
    obtain ⟨chunk, in_chunks, asked⟩ := sent event member
    exact up.byHandle in_chunks asked
  have extended := up.extend keeps by_handle
  have after : (readSumRead ads driver).2.Up := by
    simp only [readSumRead, trace_eq]
    refine ⟨⟨extended.toBase.continues (.ofSumRead _ _ _ same allocated_eq), extended.current,
      extended.unresolved⟩, up.opened, initialized_eq.trans up.sumRead_ready, extended.held, ?_⟩
    intro chunk member
    obtain ⟨port, in_set⟩ := SumReadRequest.mem_getChunks_iff.mp member
    obtain ⟨before, in_before, entries_eq, vars_eq⟩ :=
      EarlyExit.mem_of_forall₂ (SumReadRequest.forall₂_chunkSet same_entries port) in_set
    rw [entries_eq, vars_eq]
    exact up.entries before (SumReadRequest.mem_getChunks_iff.mpr ⟨port, in_before⟩)
  exact ⟨fun _ => after, fun _ => after⟩

theorem ends_onFailure {step : Step ADSPortDriver} {pre succeeded : ADSPortDriver → Prop}
    (triple : Ends pre step succeeded Consistent) :
    Ends pre (step.onFailure (adsDisconnect ads)) succeeded Down :=
  triple.onFailure fun _ consistent => consistent.adsDisconnect ads

theorem ends_doSumRead : Ends Up (doSumRead ads) Up Down :=
  ends_onFailure ads
    ((ends_readSumRead ads).imp (fun _ => id) (fun _ => id) fun _ => Up.toConsistent)

theorem ends_scanRequests (due : Bool) : Ends Up (scanRequests ads due) Up Down := by
  have info : Ends Up (readADSDeviceInfo ads) Up Down :=
    ends_onFailure ads
      ((ends_readInfo ads).imp (fun _ => id) (fun _ => id) fun _ => Up.toConsistent)
  have state : Ends Up (readADSDeviceState ads) Up Down :=
    ends_onFailure ads
      ((ends_readState ads).imp (fun _ => id) (fun _ => id) fun _ => Up.toConsistent)
  exact ((info.andThen state).onlyIf fun _ up _ => up).andThen (ends_doSumRead ads)

/-- Connecting opens a new connection, on which nothing is resolved yet. -/
theorem ends_openConnection : Ends Down (openConnection ads) (Resolving fun _ => []) Down := by
  intro driver down
  rcases opening : driver.adsConnection.connect ads driver.amsNetId driver.ipAddr
    driver.deviceReadAdsPort driver.trace with ⟨status, connection, trace⟩
  have continues := Continues.ofSumRead driver connection trace (.refl driver.sumRead) rfl
  have base := down.toBase.continues continues
  have unresolved := down.unresolved down.closed
  simp only [openConnection, opening]
  rcases Connection.connect_cases ads _ _ _ _ _ opening with
    ⟨failed, rfl, events, rfl, plain⟩ | ⟨rfl, opened, routed, port, rfl, plain, opens, no_entries⟩
  · refine ⟨fun zero => absurd zero failed, fun _ => ?_⟩
    exact ⟨⟨base, down.current.append_plain plain, down.unresolved⟩, down.closed, down.sumRead_idle⟩
  · refine ⟨fun _ => ?_, fun nonzero => absurd rfl nonzero⟩
    have current : HandlesCurrent (driver.trace ++ [routed] ++ [port]) := by
      refine (down.current.append_plain (by simpa using plain)).concat ?_
      rw [no_entries]
      exact fun entry asked => absurd asked List.not_mem_nil
    refine ⟨⟨base, current, fun closed => ?_⟩, opened, down.sumRead_idle, ?_, by simp⟩
    · exact unresolved
    · intro var member resolved
      exact absurd ((unresolved var member).symm.trans resolved) Bool.false_ne_true

/-- Resolving a list of variables. -/
theorem ends_resolveVariables (done adsVariables : ADSPortDriver → List VarId)
    (done_eq : ∀ before after : ADSPortDriver, before.Continues after → done after = done before)
    (list_eq : ∀ before after : ADSPortDriver, before.Continues after →
      adsVariables after = adsVariables before) :
    Ends (Resolving done) (resolveVariables ads adsVariables)
      (Resolving fun driver => done driver ++ adsVariables driver) Consistent := by
  refine Ends.onlyIf ?_ ?_
  · intro driver resolving
    rcases loop : driver.adsConnection.resolveVariables ads (adsVariables driver) driver.heap.vars
      driver.trace with ⟨status, vars, trace⟩
    obtain ⟨events, rfl, plain, same, kept, all⟩ :=
      Connection.resolveVariables_spec ads driver.adsConnection resolving.opened loop
    have continues := Continues.ofReaddressed driver (driver.trace ++ events) same
    have consistent : { driver with
        heap := { driver.heap with vars }, trace := driver.trace ++ events }.Consistent := by
      refine ⟨resolving.toBase.continues continues, resolving.current.append_plain plain, ?_⟩
      exact fun closed => absurd (resolving.opened.symm.trans closed) Bool.true_eq_false_eq_False
    simp only [loop]
    refine ⟨fun zero => ⟨consistent, resolving.opened, resolving.sumRead_idle, ?_, ?_⟩,
      fun _ => consistent⟩
    · intro var member resolved
      dsimp only at resolved ⊢
      rw [sinceOpen_append_plain plain]
      rcases kept var with unchanged | held
      · rw [unchanged] at resolved ⊢
        have before := resolving.held var (continues.tracked_eq ▸ member) resolved
        exact before.mono (List.subset_append_left _ _)
      · exact held.mono (List.subset_append_right _ _)
    · intro var member
      rw [done_eq driver _ continues, list_eq driver _ continues] at member
      dsimp only
      rcases List.mem_append.mp member with earlier | now
      · rcases kept var with unchanged | held
        · rw [unchanged]
          exact resolving.resolved var earlier
        · exact held.resolved
      · exact all zero var now
  · intro driver resolving empty
    have none_listed : adsVariables driver = [] := by simpa using empty
    refine ⟨resolving.toConsistent, resolving.opened, resolving.sumRead_idle, resolving.held, ?_⟩
    rw [none_listed, List.append_nil]
    exact resolving.resolved

/-- Initializing the sum-read fills the requests with the handles of the open connection. -/
theorem ends_initializeSumRead : Ends (Resolving tracked) initializeSumRead Up Consistent := by
  intro driver resolving
  obtain ⟨given, distributed⟩ := resolving.distributed
  have sized : ∀ chunk ∈ driver.sumRead.getChunks,
      chunk.sumReadRequestBuffer.length = chunk.vars.length := by
    intro chunk member
    obtain ⟨port, in_set⟩ := SumReadRequest.mem_getChunks_iff.mp member
    exact (distributed.sound port chunk in_set).entries_length
  have same := driver.sumRead.sameLayout_initializeRequest driver.heap.vars
  rcases done : driver.sumRead.initializeRequest driver.heap.vars with ⟨status, sumRead⟩
  have allocated_eq : sumRead.allocated = driver.sumRead.allocated := by
    have kept := driver.sumRead.initializeRequest_allocated driver.heap.vars
    rwa [done] at kept
  rw [done] at same
  have consistent : { driver with sumRead }.Consistent :=
    ⟨resolving.toBase.continues
      (.ofSumRead driver driver.adsConnection driver.trace same allocated_eq),
      resolving.current, resolving.unresolved⟩
  simp only [initializeSumRead, done]
  refine ⟨?_, fun _ => consistent⟩
  rintro rfl
  obtain ⟨_, _, ready, _, filled⟩ := SumReadRequest.initializeRequest_ok sized done
  refine ⟨consistent, resolving.opened, ready, ?_, ?_⟩
  · exact fun var member => resolving.held var member (resolving.resolved var member)
  · intro chunk member
    obtain ⟨port, in_set⟩ := SumReadRequest.mem_getChunks_iff.mp member
    obtain ⟨before, _, rfl, _⟩ :=
      EarlyExit.mem_of_forall₂ (SumReadRequest.forall₂_chunkSet filled port) in_set
    rfl

theorem ends_connectAndResolve : Ends Down (connectAndResolve ads) Up Consistent := by
  have reads := ends_resolveVariables ads (fun _ => []) adsReadVars (fun _ _ _ => rfl)
    fun _ _ same => same.readVars_eq
  have writes := ends_resolveVariables ads adsReadVars adsWriteVars
    (fun _ _ same => same.readVars_eq) fun _ _ same => same.writeVars_eq
  have sumRead := (ends_doSumRead ads).imp (fun _ => id) (fun _ => id) fun _ => Down.toConsistent
  have opening := (ends_openConnection ads).imp (fun _ => id)
    (fun _ => id) fun _ => Down.toConsistent
  exact opening.andThen (reads.andThen (writes.andThen (ends_initializeSumRead.andThen sumRead)))

/-- What holds at every head of the loop. -/
def AtHead (driver : ADSPortDriver) : Prop := driver.Up ∨ driver.Down

theorem AtHead.toConsistent {driver : ADSPortDriver} (at_head : driver.AtHead) :
    driver.Consistent := at_head.elim Up.toConsistent Down.toConsistent

theorem Up.needsConnect {driver : ADSPortDriver} (up : driver.Up) :
    driver.needsConnect = false := by
  simp [ADSPortDriver.needsConnect, up.opened, up.sumRead_ready, up.allocated]

theorem Down.needsConnect {driver : ADSPortDriver} (down : driver.Down) :
    driver.needsConnect = true := by
  simp [ADSPortDriver.needsConnect, down.closed]

variable (autoparam : Autoparam)

/-- Publishing keeps a driver up. -/
theorem Up.publishVariable {driver : ADSPortDriver} (up : driver.Up)
    (garbage : VarId → Nat → UInt8) (adsVar : ADSDeviceVar) :
    (driver.publishVariable autoparam garbage adsVar).Up := by
  rcases driver.publishVariable_eq autoparam garbage adsVar with
    same | ⟨result, content, same, addr_eq, reader_eq⟩
  · rwa [same]
  · have continues := Continues.publish driver adsVar.adsPV result addr_eq reader_eq
    have addr_kept : ∀ var, ((driver.publish adsVar.adsPV result content).heap.vars var).addr =
        (driver.heap.vars var).addr := by
      intro var
      by_cases here : var = adsVar.adsPV
      · subst here
        simpa [publish] using addr_eq
      · simp [publish, Function.update_of_ne here]
    have entry_kept : ∀ var,
        ((driver.publish adsVar.adsPV result content).heap.vars var).requestEntry =
          (driver.heap.vars var).requestEntry := by
      intro var
      rw [ADSVariable.requestEntry, continues.places.size_eq var, addr_kept var,
        ADSVariable.requestEntry]
    rw [same]
    refine ⟨⟨up.toBase.continues continues, up.current, fun closed => ?_⟩, up.opened,
      up.sumRead_ready, ?_, ?_⟩
    · exact absurd (up.opened.symm.trans closed) Bool.true_eq_false_eq_False
    · intro var member
      have held := up.held var member
      obtain ⟨event, in_trace, granted⟩ := held.granted
      refine ⟨?_, ?_, event, in_trace, ?_⟩
      · rw [addr_kept, held.resolved]
      · rw [addr_kept, held.group_eq]
      · rw [addr_kept]
        exact granted
    · intro chunk member
      rw [up.entries chunk member]
      exact List.map_congr_left fun var _ => (entry_kept var).symm

theorem Up.performIOIntr {driver : ADSPortDriver} (up : driver.Up) (interrupts : List Nat)
    (garbage : VarId → Nat → UInt8) :
    (driver.performIOIntr autoparam interrupts garbage).Up := by
  unfold ADSPortDriver.performIOIntr
  generalize driver.getInterruptVariables interrupts = adsVars
  induction adsVars generalizing driver with
  | nil => exact up
  | cons adsVar rest ih => exact ih (up.publishVariable autoparam garbage adsVar)

/-- One iteration leads from a head of the loop to the next. -/
theorem AtHead.adsScan {driver : ADSPortDriver} (at_head : driver.AtHead) (input : ScanInput) :
    (driver.adsScan ads autoparam input).AtHead := by
  have consistent := at_head.toConsistent
  unfold ADSPortDriver.adsScan
  rw [if_neg (by simp [consistent.running]), if_neg (by simp [consistent.initialized])]
  rcases at_head with up | down
  · rw [if_neg (by simp [up.needsConnect])]
    have requests := ends_scanRequests ads input.due driver up
    dsimp only
    split_ifs with failed
    · exact .inr (requests.2 failed)
    · exact .inl ((requests.1 (not_not.mp failed)).performIOIntr autoparam _ _)
  · rw [if_pos down.needsConnect]
    have connects : adsConnect ads driver = connectAndResolve ads driver := by
      unfold adsConnect
      rw [if_neg (by simp [consistent.running]), if_neg (by simp [consistent.initialized]),
        if_neg (by simp [down.closed])]
    have outcome := ends_onFailure ads (ends_connectAndResolve ads) driver down
    have same : (adsConnect ads).onFailure (adsDisconnect ads) driver =
        (connectAndResolve ads).onFailure (adsDisconnect ads) driver := by
      unfold Step.onFailure
      rw [connects]
    rw [same]
    exact (em _).imp outcome.1 outcome.2

/-- What holds while record links are added. -/
structure Created (driver : ADSPortDriver) : Prop where
  running : driver.exitCalled = false
  not_initialized : driver.initialized = false
  fresh : driver.sumRead.Fresh
  closed : driver.adsConnection.isConnected = false
  no_events : driver.trace = []
  unpublished : driver.published = fun _ => none
  parsed : ∀ var < driver.deviceVariables.length,
    (driver.heap.vars var).addr.variableName ≠ [] ∧
      (driver.heap.vars var).addr.nameIsResolved = false
  made : ∀ adsVar ∈ driver.deviceVariables, adsVar.adsPV < driver.deviceVariables.length
  listed : ∀ var ∈ driver.tracked, var < driver.deviceVariables.length

theorem created_new {ipAddr : Str} {amsNetId : AmsNetId} {sumBufferSize deviceReadAdsPort : UInt16}
    {heap : Heap} {driver : ADSPortDriver}
    (constructed : new ipAddr amsNetId sumBufferSize deviceReadAdsPort heap = some driver) :
    driver.Created := by
  unfold new at constructed
  split_ifs at constructed with zero
  obtain rfl := Option.some.inj constructed
  refine ⟨rfl, rfl, ⟨rfl, rfl, rfl, ?_, sumBufferSize.toNat_lt⟩, rfl, rfl, rfl, ?_, ?_, ?_⟩
  · exact Nat.pos_of_ne_zero fun same => zero (UInt16.toNat_inj.mp same)
  · exact fun var bound => absurd bound (Nat.not_lt_zero var)
  · exact fun adsVar member => absurd member List.not_mem_nil
  · exact fun var member => absurd member List.not_mem_nil

/-- What a record link with an address adds: a variable behind the others, in one of the lists. -/
structure Adds (driver : ADSPortDriver) (link : RecordLink) (address : ADSAddress)
    (after : ADSPortDriver) : Prop where
  parsed : parseDeviceAddress link.function link.arguments = .ok (some address)
  after_eq : after =
    { driver with
      deviceVariables :=
        driver.deviceVariables ++ [⟨link.function, driver.deviceVariables.length⟩]
      heap :=
        { driver.heap with
          vars := Function.update driver.heap.vars driver.deviceVariables.length
            { addr := address, conn := true, arrayDataHash := link.arrayDataHash } }
      adsReadVars := after.adsReadVars
      adsWriteVars := after.adsWriteVars }
  tracked_iff : ∀ var, var ∈ after.tracked ↔
    var ∈ driver.tracked ∨ var = driver.deviceVariables.length
  reads_subset : driver.adsReadVars ⊆ after.adsReadVars
  read_or_write : driver.deviceVariables.length ∈ after.adsReadVars ∨ address.operation = .write

/-- A record link adds at most one variable. -/
theorem addRecord_cases (driver : ADSPortDriver) (link : RecordLink) :
    driver.addRecord link = driver ∨
      ∃ address, driver.Adds link address (driver.addRecord link) := by
  unfold addRecord
  split
  · rename_i address parsed
    refine .inr ⟨address, ?_⟩
    unfold createDeviceVariable
    cases kind : address.operation with
    | read =>
        refine ⟨parsed, rfl, fun var => ?_, List.subset_append_left _ _, .inl (by simp)⟩
        simp only [tracked, List.mem_append, List.mem_singleton]
        tauto
    | write =>
        refine ⟨parsed, rfl, fun var => ?_, List.Subset.refl _, .inr kind⟩
        simp only [tracked, List.mem_append, List.mem_singleton]
        tauto
  · exact .inl rfl

namespace Adds

variable {driver after : ADSPortDriver} {link : RecordLink} {address : ADSAddress}

theorem devices_eq (adds : driver.Adds link address after) :
    after.deviceVariables =
      driver.deviceVariables ++ [⟨link.function, driver.deviceVariables.length⟩] :=
  congrArg ADSPortDriver.deviceVariables adds.after_eq

theorem length_eq (adds : driver.Adds link address after) :
    after.deviceVariables.length = driver.deviceVariables.length + 1 := by
  rw [adds.devices_eq, List.length_append, List.length_singleton]

theorem device_cases (adds : driver.Adds link address after) {adsVar : ADSDeviceVar}
    (member : adsVar ∈ after.deviceVariables) :
    adsVar ∈ driver.deviceVariables ∨
      adsVar = ⟨link.function, driver.deviceVariables.length⟩ := by
  rw [adds.devices_eq] at member
  exact (List.mem_append.mp member).imp_right List.mem_singleton.mp

theorem vars_self (adds : driver.Adds link address after) :
    after.heap.vars driver.deviceVariables.length =
      { addr := address, conn := true, arrayDataHash := link.arrayDataHash } := by
  rw [adds.after_eq]
  exact Function.update_self ..

theorem vars_of_ne (adds : driver.Adds link address after) {var : VarId}
    (other : var ≠ driver.deviceVariables.length) : after.heap.vars var = driver.heap.vars var := by
  rw [adds.after_eq]
  exact Function.update_of_ne other ..

theorem forall_lt (adds : driver.Adds link address after) (holds : ADSVariable → Prop)
    (old : ∀ var < driver.deviceVariables.length, holds (driver.heap.vars var))
    (new : holds { addr := address, conn := true, arrayDataHash := link.arrayDataHash }) :
    ∀ var < after.deviceVariables.length, holds (after.heap.vars var) := by
  intro var bound
  rw [adds.length_eq] at bound
  rcases Nat.lt_succ_iff_lt_or_eq.mp bound with earlier | rfl
  · rw [adds.vars_of_ne earlier.ne]
    exact old var earlier
  · rw [adds.vars_self]
    exact new

end Adds

/-- A record link adds at most one variable, with a name and not resolved. -/
theorem Created.addRecord {driver : ADSPortDriver} (created : driver.Created) (link : RecordLink) :
    (driver.addRecord link).Created := by
  rcases driver.addRecord_cases link with same | ⟨address, adds⟩
  · rw [same]
    exact created
  · have address_parsed :=
      ADSAddress.ofFunction_parsed (parseDeviceAddress_eq_some_iff.mp adds.parsed)
    generalize driver.addRecord link = after at adds ⊢
    refine ⟨?_, ?_, ?_, ?_, ?_, ?_, ?_, ?_, ?_⟩
    · rw [adds.after_eq]
      exact created.running
    · rw [adds.after_eq]
      exact created.not_initialized
    · rw [adds.after_eq]
      exact created.fresh
    · rw [adds.after_eq]
      exact created.closed
    · rw [adds.after_eq]
      exact created.no_events
    · rw [adds.after_eq]
      exact created.unpublished
    · exact adds.forall_lt
        (fun var => var.addr.variableName ≠ [] ∧ var.addr.nameIsResolved = false)
        created.parsed ⟨address_parsed.named, address_parsed.unresolved⟩
    · intro adsVar member
      rw [adds.length_eq]
      rcases adds.device_cases member with earlier | rfl
      · exact Nat.lt_succ_of_lt (created.made adsVar earlier)
      · exact Nat.lt_succ_self _
    · intro var member
      rw [adds.length_eq]
      rcases (adds.tracked_iff var).mp member with earlier | rfl
      · exact Nat.lt_succ_of_lt (created.listed var earlier)
      · exact Nat.lt_succ_self _

theorem Created.addRecords {driver : ADSPortDriver} (created : driver.Created)
    (links : List RecordLink) : (run ADSPortDriver.addRecord driver links).Created := by
  induction links using List.reverseRecOn with
  | nil => exact created
  | append_singleton links link ih =>
      rw [run_concat]
      exact ih.addRecord link

/-- The loop of `initHook` adds variables to the read list only. -/
theorem Created.addReadback {driver : ADSPortDriver} (created : driver.Created)
    {adsVar : ADSDeviceVar} (made : adsVar ∈ driver.deviceVariables) :
    (driver.addReadback adsVar).Created ∧
      (driver.addReadback adsVar).deviceVariables = driver.deviceVariables := by
  unfold ADSPortDriver.addReadback
  split_ifs
  · refine ⟨⟨created.running, created.not_initialized, created.fresh, created.closed,
      created.no_events, created.unpublished, ?_, created.made, ?_⟩, rfl⟩
    · intro var bound
      dsimp only at bound ⊢
      by_cases here : var = adsVar.adsPV
      · subst here
        rw [Function.update_self]
        exact created.parsed _ bound
      · rw [Function.update_of_ne here]
        exact created.parsed var bound
    · intro var member
      have bound := created.made adsVar made
      have listed := created.listed var
      simp only [tracked, List.mem_append, List.mem_singleton] at member listed
      rcases member with (read | rfl) | written
      · exact listed (.inl read)
      · exact bound
      · exact listed (.inr written)
  · exact ⟨created, rfl⟩

theorem Created.addReadbacks {driver : ADSPortDriver} (created : driver.Created)
    {adsVars : List ADSDeviceVar} (made : ∀ adsVar ∈ adsVars, adsVar ∈ driver.deviceVariables) :
    (adsVars.foldl ADSPortDriver.addReadback driver).Created := by
  induction adsVars generalizing driver with
  | nil => exact created
  | cons adsVar rest ih =>
      obtain ⟨after, same⟩ := created.addReadback (made adsVar (by simp))
      refine ih after fun other member => ?_
      rw [same]
      exact made other (by simp [member])

theorem mem_of_getInterruptVariables {driver : ADSPortDriver} (interrupts : List Nat) :
    ∀ adsVar ∈ driver.getInterruptVariables interrupts, adsVar ∈ driver.deviceVariables := by
  intro adsVar member
  obtain ⟨index, _, found⟩ := List.mem_filterMap.mp member
  exact List.mem_of_getElem? found

theorem Created.unpublished_initHook {driver : ADSPortDriver} (created : driver.Created)
    (interrupts : List Nat) : (driver.initHook interrupts).published = fun _ => none := by
  have before := created.addReadbacks (mem_of_getInterruptVariables interrupts)
  unfold ADSPortDriver.initHook
  rw [if_neg (by simp [created.not_initialized])]
  exact before.unpublished

/-- After an `initHook` that succeeds the driver is down. -/
theorem Created.initHook {driver : ADSPortDriver} (created : driver.Created) {interrupts : List Nat}
    (hooked : (driver.initHook interrupts).initialized = true) :
    (driver.initHook interrupts).Down := by
  have before := created.addReadbacks (mem_of_getInterruptVariables interrupts)
  unfold ADSPortDriver.initHook at hooked ⊢
  rw [if_neg (by simp [created.not_initialized])] at hooked ⊢
  dsimp only at hooked ⊢
  generalize (driver.getInterruptVariables interrupts).foldl ADSPortDriver.addReadback driver =
    driver at before hooked ⊢
  rcases allocated : driver.sumRead.allocate driver.adsReadVars driver.heap with
    ⟨status, sumRead, heap⟩
  rw [allocated] at hooked
  obtain rfl : status = 0 := by simpa using hooked
  obtain ⟨distributed, stored, same, _, is_allocated, idle, _, _⟩ :=
    SumReadRequest.allocate_ok before.fresh allocated
  have rebased := distributed.rebase (fun var => same.size_eq var)
    (fun var => by rw [same.addr_eq var]) fun var => rfl
  refine ⟨⟨⟨before.running, rfl, is_allocated, ⟨_, rebased⟩, stored, ?_⟩, ?_, ?_⟩, before.closed,
    idle⟩
  · intro var member
    dsimp only
    rw [same.addr_eq var]
    exact (before.parsed var (before.listed var member)).1
  · dsimp only
    rw [before.no_events]
    exact HandlesCurrent.nil
  · intro _ var member
    dsimp only
    rw [same.addr_eq var]
    exact (before.parsed var (before.listed var member)).2

theorem atHead_run {driver : ADSPortDriver} (down : driver.Down) (inputs : List ScanInput) :
    (run (ADSPortDriver.adsScan ads autoparam) driver inputs).AtHead := by
  induction inputs using List.reverseRecOn with
  | nil => exact .inr down
  | append_singleton inputs input ih =>
      rw [run_concat]
      exact ih.adsScan ads autoparam input

/-! ## The life cycle -/

/-- The connection, the sum-read and the variables are in step, no sum-read has used a handle of an
earlier connection, and `ADSConnect` is not called on an open connection. -/
structure InStep (driver : ADSPortDriver) : Prop where
  connected_eq : driver.adsConnection.isConnected = driver.sumRead.initialized
  held : driver.adsConnection.isConnected = true → ∀ var ∈ driver.tracked,
    (driver.heap.vars var).Held driver.adsConnection (sinceOpen driver.trace)
  entries : driver.adsConnection.isConnected = true → ∀ chunk ∈ driver.sumRead.getChunks,
    chunk.sumReadRequestBuffer = chunk.vars.map fun var => (driver.heap.vars var).requestEntry
  unresolved : driver.adsConnection.isConnected = false → ∀ var ∈ driver.tracked,
    (driver.heap.vars var).addr.nameIsResolved = false
  current : HandlesCurrent driver.trace
  connects_closed : driver.needsConnect = true → driver.adsConnection.isConnected = false

theorem AtHead.inStep {driver : ADSPortDriver} (at_head : driver.AtHead) : driver.InStep := by
  rcases at_head with up | down
  · refine ⟨?_, fun _ => up.held, fun _ => up.entries, up.unresolved, up.current, ?_⟩
    · rw [up.opened, up.sumRead_ready]
    · intro needed
      exact absurd (up.needsConnect.symm.trans needed) Bool.false_ne_true
  · have not_opened : driver.adsConnection.isConnected ≠ true := by simp [down.closed]
    refine ⟨?_, ?_, ?_, down.unresolved, down.current, fun _ => down.closed⟩
    · rw [down.closed, down.sumRead_idle]
    · exact fun opened => absurd opened not_opened
    · exact fun opened => absurd opened not_opened

/-- For every library, every list of record links and every run of the scan loop after an `initHook`
that succeeds, the driver is in step at every head of the loop. -/
theorem adsScan_inStep {ipAddr : Str} {amsNetId : AmsNetId}
    {sumBufferSize deviceReadAdsPort : UInt16} {heap : Heap} {driver : ADSPortDriver}
    (constructed : new ipAddr amsNetId sumBufferSize deviceReadAdsPort heap = some driver)
    (links : List RecordLink) (interrupts : List Nat)
    (hooked : ((run addRecord driver links).initHook interrupts).initialized = true)
    (inputs : List ScanInput) :
    Throughout (ADSPortDriver.adsScan ads autoparam) InStep
      ((run addRecord driver links).initHook interrupts) inputs := by
  intro front _
  have down := ((created_new constructed).addRecords links).initHook hooked
  exact (atHead_run ads autoparam down front).inStep

/-- Three integers: one to be read, and two to be written, of which the last has a readback. -/
def sampleLinks : List RecordLink :=
  [⟨"INT".toList, "R P=851 V=MAIN.x".toList, 0⟩, ⟨"INT".toList, "W P=851 V=MAIN.y".toList, 0⟩,
    ⟨"INT".toList, "W P=852 V=MAIN.z".toList, 0⟩]

/-- A driver as constructed. -/
def sampleDriver : ADSPortDriver :=
  { ipAddr := "10.0.0.1".toList
    amsNetId := [10, 0, 0, 1, 1, 1]
    deviceReadAdsPort := 851
    sumRead := { maxVarsPerBuffer := 2 }
    heap := ⟨SumReadRequest.sampleVars, []⟩ }

/-- The driver with the sample variables after its `initHook`. -/
def sampleHooked : ADSPortDriver := (run addRecord sampleDriver sampleLinks).initHook [0, 2]

/-- An iteration that publishes the first and the last variable. -/
def sampleInput : ScanInput := ⟨true, [0, 2], fun _ _ => 0⟩

/-- A first iteration connects the sample driver, and a second one publishes. -/
theorem adsScan_inStep_sample :
    Throughout (ADSPortDriver.adsScan SumReadRequest.sevensAds .sample) InStep sampleHooked
        [sampleInput, sampleInput] ∧
      (run (ADSPortDriver.adsScan SumReadRequest.sevensAds .sample) sampleHooked
        [sampleInput, sampleInput]).adsConnection.isConnected = true :=
  ⟨adsScan_inStep SumReadRequest.sevensAds .sample
    (rfl : new _ [10, 0, 0, 1, 1, 1] 2 851 ⟨SumReadRequest.sampleVars, []⟩ = some sampleDriver)
    sampleLinks [0, 2] (by decide) _, by decide⟩

end ADSPortDriver

end AdsDriver
