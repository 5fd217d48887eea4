import AdsDriver.Data.Runs
import AdsDriver.IoIntr

/-!
# Publishing arrays

`performArrayCallbacks` publishes an array when the hash of its bytes is not the one stored in the
variable.  The status is not part of the hash, and the hash of a new variable is not set.
-/

namespace AdsDriver

open ByteMemory Runs

/-- The bytes of the elements in use. -/
def EpicsArray.used (width : Nat) (array : EpicsArray) : Bytes :=
  array.memory.take (width * array.size)

/-- `performArrayCallbacks`: what is passed to `doCallbacksArray`, if it is called, and the variable
afterwards. -/
def performArrayCallbacks (autoparam : Autoparam) (connection : Connection) (buffers : Buffers)
    (var : ADSVariable) (plcDataType epicsDataType : EpicsType) :
    Option (EpicsArray × Result Unit) × ADSVariable :=
  let read := arrayRead autoparam connection buffers var plcDataType
    (newArray autoparam epicsDataType var.addr.nelem)
  let hash := autoparam.epicsMemHash (read.2.1.used epicsDataType.size)
  let updated := read.2.2.updateDataHash hash
  (if updated.1 then some (read.2.1, read.1) else none, updated.2)

/-- The bytes and the status that an array read shows: zeros or what the device delivered when it
fails, else the echo or the data of the slot. -/
def ADSVariable.arrayView (autoparam : Autoparam) (connection : Connection) (buffers : Buffers)
    (width : Nat) (var : ADSVariable) : Bytes × AsynStatus :=
  let zeros := List.replicate (width * var.addr.nelem) 0
  let inUse := width * autoparam.setSize var.addr.nelem var.addr.nelem
  if readRefused connection var then
    (zeros.take (width * autoparam.initialSize var.addr.nelem), .error)
  else
    match var.snapshot buffers with
    | none => (zeros.take inUse, .error)
    | some (0, data) =>
        ((if var.echoPending then overwrite var.lastWritten (overwrite data zeros)
          else overwrite data zeros).take inUse, .success)
    | some (_ + 1, data) => ((overwrite data zeros).take inUse, .error)

/-- An array with its result as subscribers see it. -/
def shown (width : Nat) (published : EpicsArray × Result Unit) : Bytes × AsynStatus :=
  (published.1.used width, published.2.status)

theorem size_of_arrayRead {function : Str} {dataType : ADSDataType}
    {plcDataType epicsDataType : EpicsType}
    (dispatched : ioIntrHandler function dataType = some (.arrayRead plcDataType epicsDataType)) :
    adsDatatypeSizes dataType = some plcDataType.size := by
  unfold ioIntrHandler at dispatched
  split_ifs at dispatched
  · cases dataType <;> simp [ioIntrArray] at dispatched <;> obtain ⟨rfl, rfl⟩ := dispatched <;> rfl
  · cases dataType <;> simp [ioIntrDigital] at dispatched
  · cases dataType <;> simp [ioIntrScalar] at dispatched

/-- `arrayRead` into a new array shows the view and changes nothing but the echo. -/
theorem arrayRead_eq (autoparam : Autoparam) (connection : Connection) {buffers : Buffers}
    {var : ADSVariable} {plcDataType epicsDataType : EpicsType}
    (elements : adsDatatypeSizes var.addr.dataType = some plcDataType.size)
    (placed : var.Placed buffers) {result : Result Unit} {array : EpicsArray} {after : ADSVariable}
    (read : arrayRead autoparam connection buffers var plcDataType
      (newArray autoparam epicsDataType var.addr.nelem) = (result, array, after)) :
    shown epicsDataType.size (array, result) =
        var.arrayView autoparam connection buffers epicsDataType.size ∧
      ∃ lastWritten, after = var.withEcho lastWritten := by
  have bytes_eq : u32 (u64 (plcDataType.size * var.addr.nelem)) = var.size := by
    rw [ADSVariable.size, ADSVariable.elemSize, elements, Option.getD_some, u32, u32, u64]
    exact Nat.mod_mod_of_dvd _ (by decide)
  unfold ADSVariable.arrayView
  cases refused : readRefused connection var with
  | true =>
      simp only [arrayRead, refused, if_true, Prod.mk.injEq] at read
      obtain ⟨rfl, rfl, rfl⟩ := read
      exact ⟨by simp [shown, EpicsArray.used, newArray, Autoparam.error], var.lastWritten, rfl⟩
  | false =>
      have from_buffer := var.readFromBuffer_eq placed le_rfl
        (List.replicate (epicsDataType.size * var.addr.nelem) 0)
      have roomy : ¬ (newArray autoparam epicsDataType var.addr.nelem).maxSize < var.addr.nelem :=
        Nat.lt_irrefl _
      have memory_eq : (newArray autoparam epicsDataType var.addr.nelem).memory =
        List.replicate (epicsDataType.size * var.addr.nelem) 0 := rfl
      simp only [arrayRead, refused, Bool.false_eq_true, if_false, roomy, bytes_eq, memory_eq,
        Prod.mk.injEq] at read
      obtain ⟨rfl, rfl, rfl⟩ := read
      rcases taken : var.snapshot buffers with _ | ⟨_ | code, data⟩
      · rw [taken] at from_buffer
        obtain ⟨failed, rest⟩ := from_buffer
        exact ⟨by simp [shown, EpicsArray.used, newArray, failed, rest, Autoparam.error],
          var.lastWritten, by rw [rest]; rfl⟩
      · rw [taken] at from_buffer
        obtain ⟨_, done⟩ := from_buffer
        refine ⟨by simp [shown, EpicsArray.used, newArray, done, Autoparam.success], ?_⟩
        rw [done]
        exact var.afterRead_eq
      · rw [taken] at from_buffer
        obtain ⟨_, failed, rest⟩ := from_buffer
        exact ⟨by simp [shown, EpicsArray.used, newArray, failed, rest, Autoparam.error],
          var.lastWritten, by rw [rest]; rfl⟩

/-- What a pass of `performIOIntr` finds. -/
structure ArrayPass where
  connection : Connection
  buffers : Buffers
  /-- The pending echo, if an array was written before the pass. -/
  lastWritten : Bytes

/-- The variable and what its subscribers were told. -/
structure ArraySubscriber where
  var : ADSVariable
  /-- What was last passed to `doCallbacksArray`. -/
  published : Option (EpicsArray × Result Unit) := none
  /-- What `arrayRead` produced in the last pass. -/
  produced : Option (EpicsArray × Result Unit) := none
  /-- The last pass. -/
  last : Option ArrayPass := none

section Passes

variable (autoparam : Autoparam) (plcDataType epicsDataType : EpicsType)

/-- One pass. -/
def arrayPass (subscriber : ArraySubscriber) (pass : ArrayPass) : ArraySubscriber :=
  let var := subscriber.var.withEcho pass.lastWritten
  let read := arrayRead autoparam pass.connection pass.buffers var plcDataType
    (newArray autoparam epicsDataType var.addr.nelem)
  let called := performArrayCallbacks autoparam pass.connection pass.buffers var plcDataType
    epicsDataType
  { var := called.2
    published := called.1.or subscriber.published
    produced := some (read.2.1, read.1)
    last := some pass }

/-- What a pass shows of a variable. -/
def ArrayPass.view (var : ADSVariable) (pass : ArrayPass) : Bytes × AsynStatus :=
  (var.withEcho pass.lastWritten).arrayView autoparam pass.connection pass.buffers
    epicsDataType.size

/-- Subscribers have the data and the status that the last pass produced. -/
def Latest (subscriber : ArraySubscriber) : Prop :=
  subscriber.published.map (shown epicsDataType.size) =
    subscriber.produced.map (shown epicsDataType.size)

/-- The bytes of two passes in a row do not collide. -/
def NoCollision (subscriber : ArraySubscriber) (pass : ArrayPass) : Prop :=
  ∀ previous ∈ subscriber.last,
    autoparam.epicsMemHash (previous.view autoparam epicsDataType subscriber.var).1 =
        autoparam.epicsMemHash (pass.view autoparam epicsDataType subscriber.var).1 →
      (previous.view autoparam epicsDataType subscriber.var).1 =
        (pass.view autoparam epicsDataType subscriber.var).1

/-- A first pass whose bytes do not have the hash in the variable, or a later one with other bytes
or the same status as the pass before. -/
def Noticed (subscriber : ArraySubscriber) (pass : ArrayPass) : Prop :=
  match subscriber.last with
  | none => autoparam.epicsMemHash (pass.view autoparam epicsDataType subscriber.var).1 ≠
      subscriber.var.arrayDataHash
  | some previous =>
      (previous.view autoparam epicsDataType subscriber.var).1 ≠
          (pass.view autoparam epicsDataType subscriber.var).1 ∨
        (previous.view autoparam epicsDataType subscriber.var).2 =
          (pass.view autoparam epicsDataType subscriber.var).2

/-- What holds between passes: the hash in the variable is that of the last pass. -/
structure Tracked (var : ADSVariable) (subscriber : ArraySubscriber) : Prop where
  var_eq : ∃ arrayDataHash lastWritten,
    subscriber.var = { var with arrayDataHash, lastWritten }
  fresh : subscriber.last = none →
    subscriber.produced = none ∧ subscriber.published = none
  passed : ∀ previous ∈ subscriber.last,
    subscriber.var.arrayDataHash =
        autoparam.epicsMemHash (previous.view autoparam epicsDataType subscriber.var).1 ∧
      subscriber.produced.map (shown epicsDataType.size) =
        some (previous.view autoparam epicsDataType subscriber.var)

variable {autoparam plcDataType epicsDataType} {var : ADSVariable}

/-- What a pass does. -/
theorem arrayPass_eq {subscriber : ArraySubscriber} {pass : ArrayPass}
    (elements : adsDatatypeSizes subscriber.var.addr.dataType = some plcDataType.size)
    (placed : subscriber.var.Placed pass.buffers) {after : ArraySubscriber}
    (passed : arrayPass autoparam plcDataType epicsDataType subscriber pass = after) :
    ∃ produced lastWritten,
      shown epicsDataType.size produced = pass.view autoparam epicsDataType subscriber.var ∧
      after =
        { var :=
            { subscriber.var with
              arrayDataHash :=
                autoparam.epicsMemHash (pass.view autoparam epicsDataType subscriber.var).1
              lastWritten }
          published :=
            if autoparam.epicsMemHash (pass.view autoparam epicsDataType subscriber.var).1 ≠
              subscriber.var.arrayDataHash then some produced else subscriber.published
          produced := some produced
          last := some pass } := by
  rcases read : arrayRead autoparam pass.connection pass.buffers
    (subscriber.var.withEcho pass.lastWritten) plcDataType
    (newArray autoparam epicsDataType subscriber.var.addr.nelem) with ⟨result, array, read_var⟩
  have elements' : adsDatatypeSizes (subscriber.var.withEcho pass.lastWritten).addr.dataType =
      some plcDataType.size := elements
  obtain ⟨view_eq, lastWritten, rfl⟩ :=
    arrayRead_eq autoparam pass.connection elements' placed read
  have hashed : array.used epicsDataType.size =
      (pass.view autoparam epicsDataType subscriber.var).1 :=
    congrArg Prod.fst view_eq
  refine ⟨(array, result), lastWritten, view_eq, ?_⟩
  rw [← passed]
  simp only [arrayPass, performArrayCallbacks, ADSVariable.addr_withEcho, read, hashed,
    ADSVariable.updateDataHash]
  by_cases same : autoparam.epicsMemHash (pass.view autoparam epicsDataType subscriber.var).1 =
      subscriber.var.arrayDataHash <;>
    simp [same, ADSVariable.withEcho]

theorem Tracked.arrayPass {subscriber : ArraySubscriber}
    (tracked : Tracked autoparam epicsDataType var subscriber) {pass : ArrayPass}
    (elements : adsDatatypeSizes var.addr.dataType = some plcDataType.size)
    (placed : var.Placed pass.buffers) :
    Tracked autoparam epicsDataType var
      (arrayPass autoparam plcDataType epicsDataType subscriber pass) := by
  obtain ⟨arrayDataHash, lastWritten, var_eq⟩ := tracked.var_eq
  obtain ⟨produced, lastWritten', view_eq, after_eq⟩ :=
    arrayPass_eq (by rw [var_eq]; exact elements) (by rw [var_eq]; exact placed) rfl
  rw [after_eq]
  refine ⟨⟨_, lastWritten', by rw [var_eq]⟩, by simp, ?_⟩
  rintro previous ⟨rfl⟩
  exact ⟨rfl, congrArg some view_eq⟩

/-- A pass leaves subscribers with its data and status exactly when it is noticed. -/
theorem latest_arrayPass_iff {subscriber : ArraySubscriber}
    (tracked : Tracked autoparam epicsDataType var subscriber) {pass : ArrayPass}
    (elements : adsDatatypeSizes var.addr.dataType = some plcDataType.size)
    (placed : var.Placed pass.buffers)
    (no_collision : NoCollision autoparam epicsDataType subscriber pass)
    (latest : Latest epicsDataType subscriber) :
    Latest epicsDataType (arrayPass autoparam plcDataType epicsDataType subscriber pass) ↔
      Noticed autoparam epicsDataType subscriber pass := by
  obtain ⟨arrayDataHash, lastWritten, var_eq⟩ := tracked.var_eq
  obtain ⟨produced, lastWritten', view_eq, after_eq⟩ :=
    arrayPass_eq (by rw [var_eq]; exact elements) (by rw [var_eq]; exact placed) rfl
  have latest_iff : Latest epicsDataType
      (arrayPass autoparam plcDataType epicsDataType subscriber pass) ↔
      autoparam.epicsMemHash (pass.view autoparam epicsDataType subscriber.var).1 ≠
          subscriber.var.arrayDataHash ∨
        subscriber.published.map (shown epicsDataType.size) =
          some (pass.view autoparam epicsDataType subscriber.var) := by
    rw [after_eq, Latest, Option.map_some, view_eq]
    split_ifs with changed
    · simp [changed, view_eq]
    · simp [changed]
  rw [latest_iff, Noticed]
  cases before : subscriber.last with
  | none =>
      obtain ⟨_, unpublished⟩ := tracked.fresh before
      simp [unpublished]
  | some previous =>
      obtain ⟨hash_eq, produced_eq⟩ := tracked.passed previous before
      have distinct := no_collision previous before
      rw [latest, produced_eq, hash_eq, Option.some.injEq]
      dsimp only
      generalize previous.view autoparam epicsDataType subscriber.var = old at *
      generalize pass.view autoparam epicsDataType subscriber.var = new at *
      constructor
      · rintro (changed | rfl)
        · exact .inl fun same => changed (by rw [same])
        · exact .inr rfl
      · rintro (changed | same_status)
        · exact .inl fun same => changed (distinct same.symm)
        · by_cases same : old.1 = new.1
          · exact .inr (Prod.ext same same_status)
          · exact .inl fun same_hash => same (distinct same_hash.symm)

/-- Subscribers of an array have the data and the status of the last pass after every pass exactly
when every pass is noticed. -/
theorem arrayPasses_latest_iff {function : Str}
    (dispatched : ioIntrHandler function var.addr.dataType =
      some (.arrayRead plcDataType epicsDataType)) {passes : List ArrayPass}
    (placed : ∀ pass ∈ passes, var.Placed pass.buffers)
    (no_collision : EachMeets (arrayPass autoparam plcDataType epicsDataType)
      (NoCollision autoparam epicsDataType) { var } passes) :
    Throughout (arrayPass autoparam plcDataType epicsDataType) (Latest epicsDataType) { var }
        passes ↔
      EachMeets (arrayPass autoparam plcDataType epicsDataType) (Noticed autoparam epicsDataType)
        { var } passes := by
  have elements := size_of_arrayRead dispatched
  have assumed : EachMeets (arrayPass autoparam plcDataType epicsDataType)
      (fun subscriber pass => var.Placed pass.buffers ∧
        NoCollision autoparam epicsDataType subscriber pass) { var } passes :=
    fun front pass taken => ⟨placed pass (taken.subset (by simp)), no_collision front pass taken⟩
  have started : Tracked autoparam epicsDataType var { var } :=
    ⟨⟨_, _, rfl⟩, fun _ => ⟨rfl, rfl⟩, by simp⟩
  exact throughout_iff (fun _ _ tracked assumed => tracked.arrayPass elements assumed.1)
    (fun _ _ tracked assumed latest =>
      latest_arrayPass_iff tracked elements assumed.1 assumed.2 latest) started rfl assumed

end Passes

/-- A pass over a connected variable that finds the given data. -/
def validPass (data : Bytes) : ArrayPass := ⟨sampleConnection, fun _ => some (.single data), []⟩

/-- A pass over a variable that is not connected. -/
def lostPass (data : Bytes) : ArrayPass := ⟨{}, fun _ => some (.single data), []⟩

/-- Two passes with different data are both published. -/
theorem arrayPasses_latest_iff_sample :
    (run (arrayPass .sample .int8 .int8) { var := singleVariable .byte .read 2 }
        [validPass [0, 0], validPass [5, 6]]).published.map (shown 1) =
      (run (arrayPass .sample .int8 .int8) { var := singleVariable .byte .read 2 }
        [validPass [0, 0], validPass [5, 6]]).produced.map (shown 1) := by
  have placed : ∀ pass ∈ [validPass [0, 0], validPass [5, 6]],
      (singleVariable .byte .read 2).Placed pass.buffers := by
    simp only [List.forall_mem_cons, List.not_mem_nil, false_imp_iff, implies_true, and_true]
    exact ⟨placed_single rfl (by decide), placed_single rfl (by decide)⟩
  refine (@arrayPasses_latest_iff .sample .int8 .int8 (singleVariable .byte .read 2) "BYTE[]".toList
    (by decide) _ placed ?_).mpr ?_ _ (List.prefix_refl _)
  · rw [eachMeets_cons, eachMeets_cons]
    refine ⟨by simp [NoCollision], ?_, eachMeets_nil _ _ _⟩
    intro previous found same
    obtain rfl := Option.some.inj found
    exact absurd same (by decide)
  · rw [eachMeets_cons, eachMeets_cons]
    exact ⟨show _ ≠ _ by decide, .inl (by decide), eachMeets_nil _ _ _⟩

/-- After zeros were read, a lost connection shows zeros with an error, and subscribers keep the
success. -/
theorem arrayPasses_keep_success :
    ioIntrHandler "BYTE[]".toList (singleVariable .byte .read 2).addr.dataType =
        some (.arrayRead .int8 .int8) ∧
      (∀ pass ∈ [validPass [0, 0], lostPass [0, 0]],
        (singleVariable .byte .read 2).Placed pass.buffers) ∧
      EachMeets (arrayPass .sample .int8 .int8) (NoCollision .sample .int8)
        { var := singleVariable .byte .read 2 } [validPass [0, 0], lostPass [0, 0]] ∧
      (run (arrayPass .sample .int8 .int8) { var := singleVariable .byte .read 2 }
        [validPass [0, 0], lostPass [0, 0]]).published.map (shown 1) = some ([0, 0], .success) ∧
      (run (arrayPass .sample .int8 .int8) { var := singleVariable .byte .read 2 }
        [validPass [0, 0], lostPass [0, 0]]).produced.map (shown 1) = some ([0, 0], .error) := by
  refine ⟨by decide, ?_, ?_, by decide, by decide⟩
  · simp only [List.forall_mem_cons, List.not_mem_nil, false_imp_iff, implies_true, and_true]
    exact ⟨placed_single rfl (by decide), placed_single rfl (by decide)⟩
  · rw [eachMeets_cons, eachMeets_cons]
    refine ⟨by simp [NoCollision], ?_, eachMeets_nil _ _ _⟩
    intro previous found _
    obtain rfl := Option.some.inj found
    decide

end AdsDriver
