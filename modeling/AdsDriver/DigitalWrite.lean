import AdsDriver.IoIntr
import AdsDriver.SumRead

/-!
# Masked digital writes

`digitalWrite` reads the current value, replaces the bits that the mask selects and writes the
result.  It writes also when the read has failed; the other bits are then those of a new result.
-/

namespace AdsDriver

open ByteMemory Masks

/-- The data that an event stores at an address. -/
def AdsEvent.writtenTo (event : AdsEvent) (addr : ADSAddress) : Option Bytes :=
  match event.call with
  | .write _ _ target group offset data =>
      if target = addr.adsPort ∧ group = addr.indexGroup ∧ offset = addr.indexOffset ∧
          event.reply.rc = 0 then some data
      else none
  | _ => none

/-- The value of a variable on the PLC: that of the last successful write to its address. -/
def ADSVariable.plcValue (var : ADSVariable) (initial : Bytes) (trace : Trace) : Bytes :=
  trace.foldl (fun value event => (event.writtenTo var.addr).getD value) initial

namespace ADSVariable

@[simp]
theorem plcValue_append (var : ADSVariable) (initial : Bytes) (trace events : Trace) :
    var.plcValue initial (trace ++ events) = var.plcValue (var.plcValue initial trace) events :=
  List.foldl_append

/-- Events that store nothing at the variable's address leave its value as it is. -/
theorem plcValue_of_none {var : ADSVariable} {events : Trace}
    (none_written : ∀ event ∈ events, event.writtenTo var.addr = none) (initial : Bytes) :
    var.plcValue initial events = initial := by
  induction events with
  | nil => rfl
  | cons event events ih =>
      have first := none_written event (by simp)
      have rest := ih fun other member => none_written other (by simp [member])
      rw [plcValue, List.foldl_cons, first, Option.getD_none]
      exact rest

theorem plcValue_writeCall (ads : Ads) (connection : Connection) (var : ADSVariable)
    (trace : Trace) (initial data : Bytes) :
    var.plcValue initial [ads.event trace (var.writeCall connection data)] =
      if (ads trace (var.writeCall connection data)).rc = 0 then data else initial := by
  simp only [plcValue, List.foldl_cons, List.foldl_nil, AdsEvent.writtenTo, Ads.call_event,
    Ads.reply_event, writeCall]
  split_ifs <;> simp_all

end ADSVariable

/-- The value of some bytes in memory after a masked write. -/
def applyMask (bytes : Nat) (value : Bytes) (val mask : BitVec 32) : Bytes :=
  leBytes bytes (replaceBits (word 32 value) val mask).toNat

/-- A mask that leaves out no bit of the low bytes. -/
def Covers (bytes : Nat) (mask : BitVec 32) : Prop := (~~~mask).setWidth (8 * bytes) = 0

instance (bytes : Nat) (mask : BitVec 32) : Decidable (Covers bytes mask) :=
  inferInstanceAs (Decidable (_ = _))

theorem leBytes_replaceBits_of_covers {bytes : Nat} {mask : BitVec 32} (small : 8 * bytes ≤ 32)
    (covers : Covers bytes mask) (first second val : BitVec 32) :
    leBytes bytes (replaceBits first val mask).toNat =
      leBytes bytes (replaceBits second val mask).toNat := by
  have all_selected : mask.setWidth (8 * bytes) = BitVec.allOnes (8 * bytes) := by
    rw [Covers, BitVec.setWidth_not small] at covers
    simpa using congrArg (~~~ ·) covers
  rw [leBytes_toNat_inj, setWidth_replaceBits small, setWidth_replaceBits small, all_selected,
    replaceBits_allOnes, replaceBits_allOnes]

/-- The word that `digitalWrite` starts from. -/
def currentWord (autoparam : Autoparam) : Option Bytes → BitVec 32
  | none => autoparam.initialDigital
  | some value => word 32 value

section Write

variable (autoparam : Autoparam) (ads : Ads) (connection : Connection) {var : ADSVariable}
  {buffers : Buffers} {plcDataType : EpicsType}

/-- The variable that `digitalWrite` writes: a masked one has been read. -/
def ADSVariable.beforeWrite (connection : Connection) (buffers : Buffers) (var : ADSVariable)
    (mask : BitVec 32) : ADSVariable :=
  if mask = 0xFFFFFFFF then var else var.afterCurrent connection buffers

/-- `digitalWrite` writes the current word with the selected bits replaced. -/
theorem digitalWrite_eq (placed : var.Placed buffers) (echo : var.EchoSized)
    (exact_size : var.size = plcDataType.size) (val mask : BitVec 32)
    (garbage beyond : Nat → UInt8) (trace : Trace) {written : Written}
    (sent : (var.beforeWrite connection buffers mask).write ads connection
      (some ⟨leBytes plcDataType.size (replaceBits
        (currentWord autoparam (var.current connection buffers)) val mask).toNat, beyond⟩)
      plcDataType.size trace = written) :
    digitalWrite autoparam ads connection var buffers plcDataType val mask garbage beyond trace =
      (writeResult autoparam written, written) := by
  have read := digitalRead_eq autoparam connection placed echo exact_size 0xFFFFFFFF garbage
  simp only [digitalWrite, read]
  by_cases full : mask = 0xFFFFFFFF
  · have whole : replaceBits (currentWord autoparam (var.current connection buffers)) val mask =
        val := by
      rw [full]
      exact replaceBits_allOnes _ val
    rw [ADSVariable.beforeWrite, if_pos full, whole] at sent
    simp [full, sent]
  · have value_eq : (digitalResult autoparam 0xFFFFFFFF (var.current connection buffers)).value =
        currentWord autoparam (var.current connection buffers) := by
      cases var.current connection buffers with
      | none => rfl
      | some value => exact BitVec.and_allOnes
    rw [ADSVariable.beforeWrite, if_neg full] at sent
    simp only [ne_eq, full, not_false_eq_true, if_true, encodeBits, or_and_or_not,
      value_eq, sent]

end Write

namespace ADSVariable

variable (connection : Connection) (buffers : Buffers) (var : ADSVariable)

theorem afterCurrent_eq :
    ∃ lastWritten, var.afterCurrent connection buffers = var.withEcho lastWritten := by
  unfold afterCurrent
  split_ifs
  · exact var.afterRead_eq
  · exact ⟨var.lastWritten, rfl⟩

theorem beforeWrite_eq (mask : BitVec 32) :
    ∃ lastWritten, var.beforeWrite connection buffers mask = var.withEcho lastWritten := by
  unfold beforeWrite
  split_ifs
  · exact ⟨var.lastWritten, rfl⟩
  · exact var.afterCurrent_eq connection buffers

end ADSVariable

theorem ADSVariable.payload_of_length {var : ADSVariable} (source : Source)
    (exact_length : source.bytes.length = var.size) :
    var.payload source var.size = source.bytes := by
  rw [payload, Source.take_of_le exact_length.ge, List.take_of_length_le exact_length.le,
    overwrite_of_length_le (by rw [List.length_replicate, exact_length])]

section Masked

variable (autoparam : Autoparam) (ads : Ads) (connection : Connection) {var : ADSVariable}
  {buffers : Buffers} {plcDataType : EpicsType}

/-- What `digitalWrite` does to a variable that can be written. -/
theorem digitalWrite_sent (placed : var.Placed buffers) (echo : var.EchoSized)
    (exact_size : var.size = plcDataType.size) (sendable : var.sendable = true)
    (val mask : BitVec 32) (garbage beyond : Nat → UInt8) (trace : Trace) {data : Bytes}
    (encoded : leBytes plcDataType.size (replaceBits
      (currentWord autoparam (var.current connection buffers)) val mask).toNat = data)
    {event : AdsEvent} (made : ads.event trace (var.writeCall connection data) = event) :
    digitalWrite autoparam ads connection var buffers plcDataType val mask garbage beyond trace =
      (if event.reply.rc = 0 then autoparam.success () else autoparam.error (),
        ⟨adsRcToEpicsadsError event.reply.rc,
          (var.beforeWrite connection buffers mask).afterWrite event.reply.rc data,
          trace ++ [event], plcDataType.size⟩) := by
  obtain ⟨lastWritten, before_eq⟩ := var.beforeWrite_eq connection buffers mask
  have data_length : data.length = (var.beforeWrite connection buffers mask).size := by
    rw [← encoded, length_leBytes, before_eq, ← exact_size]
    exact rfl
  have whole := ADSVariable.payload_of_length ⟨data, beyond⟩ data_length
  have size_eq : (var.beforeWrite connection buffers mask).size = plcDataType.size := by
    rw [before_eq, ← exact_size]
    rfl
  rw [size_eq] at whole
  have sendable' : (var.beforeWrite connection buffers mask).sendable = true := by
    rw [before_eq]
    exact sendable
  have made' : ads.event trace ((var.beforeWrite connection buffers mask).writeCall connection
      ((var.beforeWrite connection buffers mask).payload ⟨data, beyond⟩ plcDataType.size)) =
      event := by
    rw [whole, ← made, before_eq]
    rfl
  have sent := ADSVariable.write_sent ads connection sendable' size_eq.ge ⟨data, beyond⟩ trace made'
  rw [whole] at sent
  simp only [← encoded] at sent
  rw [digitalWrite_eq autoparam ads connection placed echo exact_size val mask garbage beyond trace
    sent, ← encoded]
  by_cases accepted : event.reply.rc = 0
  · simp [writeResult, accepted, adsRcToEpicsadsError_eq_zero_iff]
  · simp [writeResult, accepted, adsRcToEpicsadsError_eq_zero_iff]

theorem digitalWrite_refused (placed : var.Placed buffers) (echo : var.EchoSized)
    (exact_size : var.size = plcDataType.size) (refused : var.sendable = false)
    (val mask : BitVec 32) (garbage beyond : Nat → UInt8) (trace : Trace) :
    ∃ written, digitalWrite autoparam ads connection var buffers plcDataType val mask garbage beyond
      trace = (autoparam.error (), written) ∧ written.trace = trace := by
  obtain ⟨lastWritten, before_eq⟩ := var.beforeWrite_eq connection buffers mask
  have refused' : (var.beforeWrite connection buffers mask).sendable = false := by
    rw [before_eq]
    exact refused
  obtain ⟨status, failed, sent⟩ := ADSVariable.write_refused ads connection refused'
    (some ⟨leBytes plcDataType.size (replaceBits
      (currentWord autoparam (var.current connection buffers)) val mask).toNat, beyond⟩)
    plcDataType.size trace
  refine ⟨⟨status, var.beforeWrite connection buffers mask, trace, 0⟩, ?_, rfl⟩
  rw [digitalWrite_eq autoparam ads connection placed echo exact_size val mask garbage beyond trace
    sent, writeResult, if_pos failed]

/-- A masked digital write changes exactly the selected bits of a variable on the PLC, or writes
nothing when the others cannot be read, exactly when there is a current value, the mask leaves
out no bit, or the variable cannot be written. -/
theorem digitalWrite_masked_iff {registration : Registration}
    (registered : registration ∈ registeredHandlers) (digital : registration.digital = true)
    (handler : registration.write = .digitalWrite plcDataType)
    (made : var.OfFunction registration.function) (placed : var.Placed buffers)
    (echo : var.EchoSized) (no_echo : var.echoPending = false) (initial : Bytes) (trace : Trace)
    (latest : ∀ data, var.snapshot buffers = some (0, data) → data = var.plcValue initial trace)
    (val mask : BitVec 32) (garbage beyond : Nat → UInt8) {result : Result Unit}
    {written : Written}
    (ran : digitalWrite autoparam ads connection var buffers plcDataType val mask garbage beyond
      trace = (result, written)) :
    ((result.status = .success → var.plcValue initial written.trace =
          applyMask plcDataType.size (var.plcValue initial trace) val mask) ∧
        ((digitalRead autoparam connection buffers var plcDataType 0xFFFFFFFF garbage).1.status =
            .error → ¬ Covers plcDataType.size mask →
          written.trace = trace ∧ result.status = .error)) ↔
      (var.current connection buffers).isSome = true ∨ Covers plcDataType.size mask ∨
        var.sendable = false := by
  obtain ⟨_, _, _, narrow, size_eq⟩ := digital_handlers registered digital handler
  have exact_size := size_eq made
  rw [digitalRead_eq autoparam connection placed echo exact_size]
  cases sendable : var.sendable with
  | false =>
      obtain ⟨written', ran', unsent⟩ := digitalWrite_refused autoparam ads connection placed echo
        exact_size sendable val mask garbage beyond trace
      obtain ⟨rfl, rfl⟩ := Prod.mk.inj (ran.symm.trans ran')
      simp [Autoparam.error, unsent]
  | true =>
      obtain ⟨data, encoded⟩ : ∃ data, leBytes plcDataType.size (replaceBits
          (currentWord autoparam (var.current connection buffers)) val mask).toNat = data :=
        ⟨_, rfl⟩
      rw [digitalWrite_sent autoparam ads connection placed echo exact_size sendable val mask
        garbage beyond trace encoded rfl] at ran
      obtain ⟨rfl, rfl⟩ := Prod.mk.inj ran
      have stored := ADSVariable.plcValue_writeCall ads connection var trace
        (var.plcValue initial trace) data
      simp only [ADSVariable.plcValue_append, stored, Ads.reply_event]
      cases found : var.current connection buffers with
      | some value =>
          obtain rfl := latest value (ADSVariable.snapshot_of_current no_echo found)
          rw [found] at encoded
          have right : applyMask plcDataType.size (var.plcValue initial trace) val mask = data :=
            encoded
          by_cases accepted : (ads trace (var.writeCall connection data)).rc = 0 <;>
            simp [accepted, right, digitalResult, Autoparam.success, Autoparam.error]
      | none =>
          rw [found] at encoded
          by_cases covers : Covers plcDataType.size mask
          · have right : applyMask plcDataType.size (var.plcValue initial trace) val mask = data :=
              (leBytes_replaceBits_of_covers (by omega) covers _ _ val).trans encoded
            by_cases accepted : (ads trace (var.writeCall connection data)).rc = 0 <;>
              simp [accepted, right, covers, Autoparam.error]
          · simp [covers, digitalResult, Autoparam.error]

end Masked

/-- A byte variable for writing, with or without readback. -/
def byteVariable (writeReadback : Bool) : ADSVariable :=
  { singleVariable .byte .write 1 with
    bufferReader := if writeReadback then ⟨some ⟨0, 851, 0⟩, 0, 0⟩ else emptyBufferDataPosition
    writeReadback }

/-- The digital function of bytes. -/
def byteDigital : Registration := registerDigital .byte .uint8

theorem byteDigital_registered : byteDigital ∈ registeredHandlers := by
  decide

theorem ofFunction_byteVariable (writeReadback : Bool) :
    (byteVariable writeReadback).OfFunction byteDigital.function :=
  have dataType_eq : parseDataTypeAutoparam byteDigital.function = .ok .byte := by decide
  ⟨dataType_eq, Nat.one_pos, Nat.one_lt_two_pow (by decide), fun _ => rfl⟩

/-- Bit 0 of a byte that was read as F0 is set without changing the others. -/
theorem digitalWrite_masked_sample :
    (byteVariable true).plcValue [0xF0]
    (digitalWrite .sample SumReadRequest.sevensAds sampleConnection
        (byteVariable true) (fun _ => some (.single [0xF0])) .uint8 1 1 (fun _ => 0) (fun _ => 0)
        []).2.trace =
      applyMask 1 [0xF0] 1 1 := by
  have latest : ∀ data, (byteVariable true).snapshot (fun _ => some (.single [0xF0])) =
      some (0, data) → data = [0xF0] := by
    intro data taken
    have snapshot_eq : (byteVariable true).snapshot (fun _ => some (.single [0xF0])) =
        some (0, [0xF0]) := by
      decide
    simpa using (snapshot_eq.symm.trans taken).symm
  have kept := (digitalWrite_masked_iff .sample SumReadRequest.sevensAds sampleConnection
    byteDigital_registered rfl rfl (ofFunction_byteVariable true) (placed_single rfl (by decide))
    (.inl rfl) rfl [0xF0] [] latest 1 1 (fun _ => 0) (fun _ => 0) rfl).mpr
    (.inl (by decide))
  exact kept.1 (by decide)

/-- Setting bit 0 of a byte that is F0 on the PLC, in a variable without readback, clears the
others. -/
theorem digitalWrite_clears_unmasked :
    byteDigital ∈ registeredHandlers ∧ byteDigital.digital = true ∧
      (byteVariable false).OfFunction byteDigital.function ∧
      ¬ Covers 1 1 ∧
      (digitalRead .sample sampleConnection (fun _ => none) (byteVariable false) .uint8
        0xFFFFFFFF fun _ => 0).1.status = .error ∧
      (digitalWrite .sample SumReadRequest.sevensAds sampleConnection (byteVariable false)
        (fun _ => none)
        .uint8 1 1 (fun _ => 0) (fun _ => 0) []).1.status = .success ∧
      (byteVariable false).plcValue [0xF0]
      (digitalWrite .sample SumReadRequest.sevensAds sampleConnection
        (byteVariable false) (fun _ => none) .uint8 1 1 (fun _ => 0) (fun _ => 0)
        []).2.trace = [0x01] ∧
      applyMask 1 [0xF0] 1 1 = [0xF1] := by
  refine ⟨byteDigital_registered, rfl, ofFunction_byteVariable false, by decide, by decide,
    by decide, by decide, by decide⟩

end AdsDriver
