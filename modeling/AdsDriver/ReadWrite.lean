import AdsDriver.SumReadBuffer

/-!
# Reading and writing a variable

`read_from_buffer` serves a variable from its sum-read buffer, or once from the value last written;
`write` sends a value padded with zeros to the variable's size.
-/

namespace AdsDriver

open ByteMemory

/-- `Connection`; the mutex is left to the interleavings that step relations choose. -/
structure Connection where
  remoteAmsNetId : AmsNetId := AmsNetId.zero
  /-- The port that `AdsPortOpenEx` returned, 0 while closed. -/
  adsPort : Nat := 0
  deviceReadAdsPort : UInt16 := 0
  deriving DecidableEq

/-- `is_connected`. -/
def Connection.isConnected (connection : Connection) : Bool := connection.adsPort ≠ 0

/-- The live sum-read buffers by address. -/
abbrev Buffers := BufferPtr → Option SumReadBuffer

/-- `read_from_buffer` into a destination that is not null: the return code, the destination and
the variable after the call.  A pointer to a buffer that no longer lives is treated as null. -/
def ADSVariable.readFromBuffer (buffers : Buffers) (var : ADSVariable) (size : Nat)
    (destination : Bytes) : Int × Bytes × ADSVariable :=
  if var.bufferReader = emptyBufferDataPosition then (epicsadsNoData, destination, var)
  else
    match var.bufferReader.buffer.bind buffers with
    | none => (epicsadsError, destination, var)
    | some buffer =>
        if buffer.bufferState = .invalid then (epicsadsDisconnected, destination, var)
        else
          let bytesToRead := min size var.size
          let read := buffer.readData (u16 var.bufferReader.offResult) var.bufferReader.offData
            bytesToRead 0 destination
          if read.1 ≠ 0 then (adsRcToEpicsadsError read.1, read.2.2, var)
          else if read.2.1 ≠ 0 then (epicsadsNoData, read.2.2, var)
          else if var.writeReadback && !var.lastWritten.isEmpty then
            (0, overwrite var.lastWritten read.2.2, { var with lastWritten := [] })
          else (0, read.2.2, var)

namespace ADSVariable

/-- A variable has no slot, or one that lies inside a live buffer. -/
def Placed (buffers : Buffers) (var : ADSVariable) : Prop :=
  var.bufferReader = emptyBufferDataPosition ∨
    ∃ ptr buffer memory, var.bufferReader.buffer = some ptr ∧ buffers ptr = some buffer ∧
      buffer.Inside var.bufferReader var.size memory

/-- The result code and the data of a variable's slot, when its buffer is valid. -/
def snapshot (buffers : Buffers) (var : ADSVariable) : Option (Nat × Bytes) := do
  let buffer ← var.bufferReader.buffer.bind buffers
  let memory ← buffer.buffer
  if buffer.bufferState = .invalid then none
  else
    some (leNat (window (SumReadBuffer.resultSize * var.bufferReader.offResult)
        SumReadBuffer.resultSize memory),
      window (buffer.startOfDataOffset + var.bufferReader.offData) var.size memory)

/-- Whether the next successful read returns the value last written. -/
def echoPending (var : ADSVariable) : Bool := var.writeReadback && !var.lastWritten.isEmpty

/-- What a successful read delivers: the pending echo, if there is one, else the slot's data. -/
def delivered (var : ADSVariable) (data : Bytes) : Bytes :=
  if var.echoPending then var.lastWritten else data

/-- The variable after a successful read: its echo has been used. -/
def afterRead (var : ADSVariable) : ADSVariable :=
  if var.echoPending then { var with lastWritten := [] } else var

theorem afterRead_eq (var : ADSVariable) :
    ∃ lastWritten, var.afterRead = var.withEcho lastWritten := by
  unfold afterRead
  split_ifs
  · exact ⟨[], rfl⟩
  · exact ⟨var.lastWritten, rfl⟩

theorem snapshot_eq_some {buffers : Buffers} {var : ADSVariable} {code : Nat} {data : Bytes}
    (taken : var.snapshot buffers = some (code, data)) :
    ∃ ptr buffer memory, var.bufferReader.buffer = some ptr ∧ buffers ptr = some buffer ∧
      buffer.buffer = some memory ∧ buffer.bufferState = .valid ∧
      code = leNat (window (SumReadBuffer.resultSize * var.bufferReader.offResult)
        SumReadBuffer.resultSize memory) ∧
      data = window (buffer.startOfDataOffset + var.bufferReader.offData) var.size memory := by
  unfold snapshot at taken
  cases at_ptr : var.bufferReader.buffer with
  | none => simp [at_ptr] at taken
  | some ptr =>
      cases live : buffers ptr with
      | none => simp [at_ptr, live] at taken
      | some buffer =>
          cases stored : buffer.buffer with
          | none => simp [at_ptr, live, stored] at taken
          | some memory =>
              cases state : buffer.bufferState with
              | invalid => simp [at_ptr, live, stored, state] at taken
              | valid =>
                  simp [at_ptr, live, stored, state] at taken
                  exact ⟨ptr, buffer, memory, rfl, live, stored, state, taken.1.symm, taken.2.symm⟩

/-- A read of any length: it copies the front of the slot's data and then, if the result code is 0,
the pending echo over it. -/
theorem readFromBuffer_front {buffers : Buffers} {var : ADSVariable} (placed : var.Placed buffers)
    (size : Nat) (destination : Bytes) :
    match var.snapshot buffers with
    | none =>
        (var.readFromBuffer buffers size destination).1 ≠ 0 ∧
          (var.readFromBuffer buffers size destination).2 = (destination, var)
    | some (0, data) =>
        data.length = var.size ∧
          var.readFromBuffer buffers size destination =
            (0, if var.echoPending then
                overwrite var.lastWritten (overwrite (data.take (min size var.size)) destination)
              else overwrite (data.take (min size var.size)) destination, var.afterRead)
    | some (_ + 1, data) =>
        data.length = var.size ∧
          (var.readFromBuffer buffers size destination).1 ≠ 0 ∧
          (var.readFromBuffer buffers size destination).2 =
            (overwrite (data.take (min size var.size)) destination, var) := by
  rcases placed with empty | ⟨ptr, buffer, memory, at_ptr, live, inside⟩
  · have none_taken : var.snapshot buffers = none := by
      simp [snapshot, empty, emptyBufferDataPosition]
    rw [none_taken]
    simp [readFromBuffer, empty, epicsadsNoData]
  have nonempty : var.bufferReader ≠ emptyBufferDataPosition := by
    intro same
    simp [same, emptyBufferDataPosition] at at_ptr
  have stored := inside.stored
  cases state : buffer.bufferState with
  | invalid =>
      have none_taken : var.snapshot buffers = none := by
        simp [snapshot, at_ptr, live, stored, state]
      rw [none_taken]
      simp [readFromBuffer, nonempty, at_ptr, live, state, epicsadsDisconnected]
  | valid =>
      have read := inside.readData (Nat.min_le_right size var.size) 0 destination
      have front := take_window (min size var.size)
        (buffer.startOfDataOffset + var.bufferReader.offData) var.size memory
      rw [Nat.min_eq_left (Nat.min_le_right size var.size)] at front
      have data_length := inside.length_data
      have taken : var.snapshot buffers = some (leNat (window
          (SumReadBuffer.resultSize * var.bufferReader.offResult) SumReadBuffer.resultSize memory),
          window (buffer.startOfDataOffset + var.bufferReader.offData) var.size memory) := by
        simp [snapshot, at_ptr, live, stored, state]
      rw [← front] at read
      generalize leNat (window (SumReadBuffer.resultSize * var.bufferReader.offResult)
        SumReadBuffer.resultSize memory) = code at taken read
      generalize window (buffer.startOfDataOffset + var.bufferReader.offData) var.size
        memory = data at taken read data_length
      rw [taken]
      cases code with
      | zero =>
          refine ⟨data_length, ?_⟩
          simp only [readFromBuffer, if_neg nonempty, at_ptr, Option.bind_some, live, state, read,
            afterRead, echoPending]
          split_ifs <;> simp_all
      | succ code =>
          refine ⟨data_length, ?_⟩
          simp only [readFromBuffer, if_neg nonempty, at_ptr, Option.bind_some, live, state, read]
          simp [epicsadsNoData]

/-- A read of at least the variable's size, in terms of its snapshot. -/
theorem readFromBuffer_eq {buffers : Buffers} {var : ADSVariable} (placed : var.Placed buffers)
    {size : Nat} (whole : var.size ≤ size) (destination : Bytes) :
    match var.snapshot buffers with
    | none =>
        (var.readFromBuffer buffers size destination).1 ≠ 0 ∧
          (var.readFromBuffer buffers size destination).2 = (destination, var)
    | some (0, data) =>
        data.length = var.size ∧
          var.readFromBuffer buffers size destination =
            (0, if var.echoPending then overwrite var.lastWritten (overwrite data destination)
              else overwrite data destination, var.afterRead)
    | some (_ + 1, data) =>
        data.length = var.size ∧
          (var.readFromBuffer buffers size destination).1 ≠ 0 ∧
          (var.readFromBuffer buffers size destination).2 = (overwrite data destination, var) := by
  have front := readFromBuffer_front placed size destination
  rw [Nat.min_eq_right whole] at front
  rcases taken : var.snapshot buffers with _ | ⟨_ | code, data⟩
  · rwa [taken] at front
  · rw [taken] at front
    obtain ⟨data_length, read_eq⟩ := front
    rw [List.take_of_length_le data_length.le] at read_eq
    exact ⟨data_length, read_eq⟩
  · rw [taken] at front
    obtain ⟨data_length, failed, read_eq⟩ := front
    rw [List.take_of_length_le data_length.le] at read_eq
    exact ⟨data_length, failed, read_eq⟩

/-- A read of any length without a pending echo: the front of the slot's data, or an error when the
slot's result code is one. -/
theorem readFromBuffer_of_snapshot {buffers : Buffers} {var : ADSVariable}
    (placed : var.Placed buffers) {code : Nat} {data : Bytes}
    (taken : var.snapshot buffers = some (code, data)) (no_echo : var.echoPending = false)
    (size : Nat) (destination : Bytes) :
    (code = 0 → var.readFromBuffer buffers size destination =
        (0, overwrite (data.take (min size var.size)) destination, var)) ∧
      (code ≠ 0 → (var.readFromBuffer buffers size destination).1 ≠ 0) := by
  have front := readFromBuffer_front placed size destination
  rw [taken] at front
  cases code with
  | zero => simpa [no_echo, afterRead] using front.2
  | succ code => exact ⟨fun zero => absurd zero code.succ_ne_zero, fun _ => front.2.1⟩

theorem readFromBuffer_eq_zero_iff {buffers : Buffers} {var : ADSVariable}
    (placed : var.Placed buffers) {code : Nat} {data : Bytes}
    (taken : var.snapshot buffers = some (code, data)) (size : Nat) (destination : Bytes) :
    (var.readFromBuffer buffers size destination).1 = 0 ↔ code = 0 := by
  have front := readFromBuffer_front placed size destination
  rw [taken] at front
  cases code with
  | zero => simp [front.2]
  | succ code => exact iff_of_false front.2.1 code.succ_ne_zero

/-- What a read that succeeds delivers, as far as it reaches. -/
theorem readFromBuffer_delivered {buffers : Buffers} {var : ADSVariable}
    (placed : var.Placed buffers) (echo : var.EchoSized) {data : Bytes}
    (taken : var.snapshot buffers = some (0, data)) (size : Nat) (destination : Bytes) :
    (var.readFromBuffer buffers size destination).1 = 0 ∧
      (var.readFromBuffer buffers size destination).2.1.take (min size var.size) =
        (var.delivered data).take size ∧
      (var.readFromBuffer buffers size destination).2.2 = var.afterRead := by
  have front := readFromBuffer_front placed size destination
  rw [taken] at front
  obtain ⟨data_length, read_eq⟩ := front
  have cut {value : Bytes} (sized : value.length = var.size) :
      value.take (min size var.size) = value.take size := by
    rw [List.take_eq_take_iff, sized]
    omega
  rw [read_eq, delivered]
  refine ⟨rfl, ?_, rfl⟩
  cases pending : var.echoPending with
  | false =>
      have short : min size var.size ≤ (data.take (min size var.size)).length := by
        rw [List.length_take, data_length]
        omega
      rw [if_neg Bool.false_ne_true, if_neg Bool.false_ne_true, take_overwrite destination short,
        List.take_take, Nat.min_self, cut data_length]
  | true =>
      have sized : var.lastWritten.length = var.size := by
        rcases echo with empty | sized
        · simp [echoPending, empty] at pending
        · exact sized
      rw [if_pos rfl, if_pos rfl, take_overwrite _ (by omega), cut sized]

end ADSVariable

/-- A valid buffer for one variable, with result code 0 and the given data. -/
def SumReadBuffer.single (data : Bytes) : SumReadBuffer :=
  { vars := [0]
    maxNvariables := 1
    nextResultOffset := 1
    nextDataOffset := data.length
    bufferSize := 4 + data.length
    buffer := some ([0, 0, 0, 0] ++ data)
    bufferInitialized := true
    bufferState := .valid }

/-- A resolved variable at the only slot of such a buffer. -/
def singleVariable (dataType : ADSDataType) (operation : Operation) (nelem : Nat) : ADSVariable :=
  { addr := {
      dataType
      operation
      variableName := "MAIN.x".toList
      adsPort := 851
      indexGroup := adsigrpSymValByHnd
      indexOffset := 1
      nelem
      nameIsResolved := true }
    conn := true
    bufferReader := ⟨some ⟨0, 851, 0⟩, 0, 0⟩
    arrayDataHash := 0 }

theorem placed_single {var : ADSVariable} {data : Bytes}
    (reader : var.bufferReader = ⟨some ⟨0, 851, 0⟩, 0, 0⟩) (fits : data.length = var.size) :
    var.Placed fun _ => some (.single data) := by
  have small := var.size_lt
  refine .inr ⟨⟨0, 851, 0⟩, .single data, [0, 0, 0, 0] ++ data, by rw [reader], rfl, ?_⟩
  rw [reader]
  have start : (SumReadBuffer.single data).startOfDataOffset = 4 := rfl
  have next_data : (SumReadBuffer.single data).nextDataOffset = data.length := rfl
  refine ⟨rfl, Nat.one_pos, Nat.one_lt_two_pow (by decide), ?_, ?_, le_rfl, ?_, ?_⟩
  · change 0 + var.size ≤ data.length
    omega
  · rw [next_data]
    omega
  · rw [start, next_data, List.length_append]
    exact le_rfl
  · rw [List.length_append, fits]
    change 4 + var.size < 2 ^ 64
    omega

/-- A pointer to bytes that a caller owns, with whatever memory follows them. -/
structure Source where
  bytes : Bytes
  beyond : Nat → UInt8

/-- The first `count` bytes from a source on, whether or not the caller owns them. -/
def Source.take (source : Source) (count : Nat) : Bytes :=
  (List.range count).map fun index => (source.bytes[index]?).getD (source.beyond index)

@[simp]
theorem Source.length_take (source : Source) (count : Nat) :
    (source.take count).length = count := by
  simp [Source.take]

theorem Source.take_of_le {source : Source} {count : Nat} (owned : count ≤ source.bytes.length) :
    source.take count = source.bytes.take count := by
  apply List.ext_getElem
  · simpa using owned
  · intro index inside _
    have bound : index < source.bytes.length := by
      simp only [Source.length_take] at inside
      omega
    simp [Source.take, List.getElem?_eq_getElem bound]

/-- What `write` leaves behind. -/
structure Written where
  status : Int
  var : ADSVariable
  trace : Trace
  /-- The number of bytes copied from the caller. -/
  copied : Nat

/-- `write` of `size` bytes, an `uint32_t`; a source that is `none` is a null pointer. -/
def ADSVariable.write (ads : Ads) (connection : Connection) (var : ADSVariable)
    (data : Option Source) (size : Nat) (trace : Trace) : Written :=
  match data with
  | none => ⟨epicsadsInvParam, var, trace, 0⟩
  | some source =>
      if !var.conn then ⟨epicsadsNotInitialized, var, trace, 0⟩
      else if var.addr.nameIsResolved = false then ⟨epicsadsNotResolved, var, trace, 0⟩
      else if size > var.size then ⟨epicsadsOverflow, var, trace, 0⟩
      else
        let buffer := overwrite (source.take size) (List.replicate var.size 0)
        let event := ads.event trace (.write connection.adsPort connection.remoteAmsNetId
          var.addr.adsPort var.addr.indexGroup var.addr.indexOffset buffer)
        if event.reply.rc ≠ 0 then
          ⟨adsRcToEpicsadsError event.reply.rc, var, trace ++ [event], size⟩
        else
          ⟨0, if var.writeReadback then { var with lastWritten := buffer } else var,
            trace ++ [event], size⟩

/-- Whether a write gets as far as the device, if its length is right. -/
def ADSVariable.sendable (var : ADSVariable) : Bool := var.conn && var.addr.nameIsResolved

namespace ADSVariable

variable (ads : Ads) (connection : Connection) {var : ADSVariable}

/-- The bytes that `write` sends: those of the source, then zeros. -/
def payload (var : ADSVariable) (source : Source) (size : Nat) : Bytes :=
  overwrite (source.take size) (List.replicate var.size 0)

/-- The request that `write` sends. -/
def writeCall (connection : Connection) (var : ADSVariable) (data : Bytes) : AdsCall :=
  .write connection.adsPort connection.remoteAmsNetId var.addr.adsPort var.addr.indexGroup
    var.addr.indexOffset data

/-- The variable after a write with a return code of the library. -/
def afterWrite (var : ADSVariable) (rc : Int) (data : Bytes) : ADSVariable :=
  if rc = 0 ∧ var.writeReadback = true then { var with lastWritten := data } else var

/-- A variable without a connection or a resolved name writes nothing. -/
theorem write_refused (refused : var.sendable = false) (data : Option Source) (size : Nat)
    (trace : Trace) :
    ∃ status, status ≠ 0 ∧ var.write ads connection data size trace = ⟨status, var, trace, 0⟩ := by
  cases data with
  | none => exact ⟨_, by decide, rfl⟩
  | some source =>
      rw [sendable, Bool.and_eq_false_iff] at refused
      simp only [write]
      by_cases conn : var.conn = true
      · rw [conn] at refused ⊢
        exact ⟨epicsadsNotResolved, by decide, by simp_all⟩
      · exact ⟨epicsadsNotInitialized, by decide, by simp [conn]⟩

theorem write_too_long {size : Nat} (long : var.size < size) (data : Option Source)
    (trace : Trace) :
    ∃ status, status ≠ 0 ∧ var.write ads connection data size trace = ⟨status, var, trace, 0⟩ := by
  cases data with
  | none => exact ⟨_, by decide, rfl⟩
  | some source =>
      cases sent : var.sendable with
      | false => exact write_refused ads connection sent _ _ _
      | true =>
          obtain ⟨conn, resolved⟩ : var.conn = true ∧ var.addr.nameIsResolved = true := by
            simpa [sendable] using sent
          exact ⟨epicsadsOverflow, by decide, by simp [write, conn, resolved, long]⟩

/-- A write that fits sends its payload once. -/
theorem write_sent (sent : var.sendable = true) {size : Nat} (fits : size ≤ var.size)
    (source : Source) (trace : Trace) {event : AdsEvent}
    (made : ads.event trace (var.writeCall connection (var.payload source size)) = event) :
    var.write ads connection (some source) size trace =
      ⟨adsRcToEpicsadsError event.reply.rc,
        var.afterWrite event.reply.rc (var.payload source size), trace ++ [event], size⟩ := by
  obtain ⟨conn, resolved⟩ : var.conn = true ∧ var.addr.nameIsResolved = true := by
    simpa [sendable] using sent
  have not_long : ¬ size > var.size := Nat.not_lt.mpr fits
  rw [writeCall, payload] at made
  simp only [write, afterWrite, payload, made]
  rw [if_neg (by simp [conn]), if_neg (by simp [resolved]), if_neg not_long]
  by_cases accepted : event.reply.rc = 0
  · rw [if_neg (by simp [accepted]), accepted]
    simp only [true_and]
    rfl
  · simp [accepted]

end ADSVariable

end AdsDriver
