import AdsDriver.Data.Masks
import AdsDriver.Registry

/-!
# I/O Intr records against polled records

`performIOIntr` and the registered read handler of the same function are run on the same state.
They agree except in two places: the arm for unsigned 32-bit scalars reads into eight bytes, and
the digital arms pass a mask of 16 bits whatever the width.
-/

namespace AdsDriver

open ByteMemory

section Run

variable (autoparam : Autoparam) (connection : Connection) {buffers : Buffers} {var : ADSVariable}

theorem run_garbage {handler : ReadHandler}
    (exact_size : ∀ plcDataType ∈ handler.scalarType, var.size = plcDataType.size)
    (placed : var.Placed buffers) (echo : var.EchoSized) (mask : BitVec 32)
    (garbage garbage' : Nat → UInt8) :
    handler.run autoparam connection buffers var mask garbage =
      handler.run autoparam connection buffers var mask garbage' := by
  cases handler with
  | integerRead plc epics =>
      simp only [ReadHandler.run, integerRead,
        readScalar_exact connection placed echo (exact_size plc rfl)]
  | digitalRead plc =>
      simp only [ReadHandler.run, digitalRead,
        readScalar_exact connection placed echo (exact_size plc rfl)]
  | floatRead plc =>
      simp only [ReadHandler.run, floatRead,
        readScalar_exact connection placed echo (exact_size plc rfl)]
  | arrayRead plc epics => rfl
  | stringRead => rfl

theorem run_mask {registration : Registration} (plain : registration.digital = false)
    (mask mask' : BitVec 32) (garbage : Nat → UInt8) :
    registration.read.run autoparam connection buffers var mask garbage =
      registration.read.run autoparam connection buffers var mask' garbage := by
  unfold Registration.digital at plain
  split at plain
  · simp at plain
  · cases handler : registration.read <;> simp_all [ReadHandler.run]

/-- The result that `performIOIntr` computes for a variable of a registered function. -/
theorem ioIntrRead_eq {registration : Registration}
    (made : var.OfFunction registration.function) (garbage : Nat → UInt8) :
    ioIntrRead autoparam connection buffers registration.function var garbage =
      registration.counterpart.map
        (ReadHandler.run autoparam connection buffers var ioIntrMask garbage) := by
  rw [ioIntrRead, Registration.counterpart, made.toOption_eq, Option.bind_some]

end Run

theorem cast_wide_iff {low high : Nat} (low_lt : low < 2 ^ 32) (high_lt : high < 2 ^ 32) :
    EpicsType.int64.cast (EpicsType.uint64.cast (low + 2 ^ 32 * high : Nat)) =
      EpicsType.int64.cast (EpicsType.uint32.cast (low : Nat)) ↔ high = 0 := by
  simp only [EpicsType.cast, EpicsType.signed, EpicsType.size, Int.bmod_def, if_true,
    Bool.false_eq_true, if_false]
  constructor
  · intro same
    split_ifs at same <;> omega
  · rintro rfl
    split_ifs <;> omega

theorem wrap_integer_inj (left right : Result Int) :
    left.wrap (.integer left.value) = right.wrap (.integer right.value) ↔ left = right := by
  cases left
  cases right
  simp [Result.wrap]

theorem overwrite_upper {value : Bytes} (value_length : value.length = 4)
    (garbage : Nat → UInt8) :
    overwrite value (EpicsType.uint64.uninitialised garbage) =
      value ++ [garbage 4, garbage 5, garbage 6, garbage 7] := by
  rw [overwrite, value_length]
  rfl

/-- Reading an unsigned 32-bit value into eight bytes gives the same result exactly when there is
no value to read or the upper four bytes were 0. -/
theorem integerRead_wide_iff (autoparam : Autoparam) (connection : Connection) {buffers : Buffers}
    {var : ADSVariable} (placed : var.Placed buffers) (echo : var.EchoSized)
    (exact_size : var.size = EpicsType.uint32.size) (published polled : Nat → UInt8) :
    (integerRead autoparam connection buffers var .uint64 .int64 published).1 =
        (integerRead autoparam connection buffers var .uint32 .int64 polled).1 ↔
      var.current connection buffers = none ∨ ∀ index ∈ [4, 5, 6, 7], published index = 0 := by
  have fits : var.size ≤ EpicsType.uint64.size := by
    rw [exact_size]
    decide
  have wide := readScalar_eq connection placed echo fits published
  have narrow := readScalar_exact connection placed echo exact_size polled
  simp only [integerRead, wide, narrow]
  cases found : var.current connection buffers with
  | none => simp
  | some value =>
      have value_length : value.length = 4 :=
        (length_current placed echo found).trans exact_size
      have low_lt : leNat value < 2 ^ 32 := by
        simpa [value_length] using leNat_lt value
      have high_lt : leNat [published 4, published 5, published 6, published 7] < 2 ^ 32 := by
        simpa using leNat_lt [published 4, published 5, published 6, published 7]
      have split_value : leNat (value ++ [published 4, published 5, published 6, published 7]) =
          leNat value + 2 ^ 32 * leNat [published 4, published 5, published 6, published 7] := by
        rw [leNat_append, value_length]
        norm_num
      simp only [Option.map_some, overwrite_upper value_length, EpicsType.decode, split_value,
        Autoparam.success, Result.mk.injEq, and_true, reduceCtorEq, false_or]
      rw [cast_wide_iff low_lt high_lt, leNat_eq_zero_iff]
      simp

/-- The value and the status that `performIOIntr` computes are those of the registered read
handler, except where an unsigned 32-bit scalar is read into eight bytes of which the upper four
were not 0. -/
theorem ioIntr_agrees_iff (autoparam : Autoparam) (connection : Connection)
    {registration : Registration} (registered : registration ∈ registeredHandlers)
    (plain : registration.digital = false) {buffers : Buffers} {var : ADSVariable}
    (made : var.OfFunction registration.function) (placed : var.Placed buffers)
    (echo : var.EchoSized) (mask : BitVec 32) (published polled : Nat → UInt8) :
    (ioIntrRead autoparam connection buffers registration.function var published).map Prod.fst =
        some (registration.read.run autoparam connection buffers var mask polled).1 ↔
      unsigned32 registration.function = false ∨ var.current connection buffers = none ∨
        ∀ index ∈ [4, 5, 6, 7], published index = 0 := by
  rw [ioIntrRead_eq autoparam connection made]
  cases wide : unsigned32 registration.function with
  | false =>
      have same := counterpart_alike registration registered wide
      cases found : registration.counterpart with
      | none => simp [found] at same
      | some handler =>
          rw [found, Option.any_some] at same
          have widths : ∀ plcDataType ∈ registration.read.scalarType,
              var.size = plcDataType.size := fun _ scalar => size_of_scalar registered made scalar
          rw [Option.map_some, Option.map_some, ReadHandler.run_of_alike same,
            run_garbage autoparam connection widths placed echo ioIntrMask published polled]
          simp only [true_or, iff_true, Option.some.injEq]
          exact congrArg Prod.fst (run_mask autoparam connection plain ioIntrMask mask polled)
  | true =>
      obtain ⟨found, read⟩ := counterpart_unsigned32 registration registered wide
      have exact_size : var.size = EpicsType.uint32.size :=
        size_of_scalar registered made (by rw [read]; rfl)
      rw [found, read, Option.map_some, Option.map_some, Option.some.injEq]
      simp only [ReadHandler.run, reduceCtorEq, false_or]
      rw [wrap_integer_inj, integerRead_wide_iff autoparam connection placed echo exact_size]

/-- A connection with an open port. -/
def sampleConnection : Connection :=
  { remoteAmsNetId := [1, 2, 3, 4, 1, 1], adsPort := 1, deviceReadAdsPort := 851 }

/-- The function of unsigned 32-bit integers. -/
def udintRegistration : Registration := registerInteger .udint .uint32 .int64

theorem udint_registered : udintRegistration ∈ registeredHandlers := by
  decide

theorem ofFunction_udint :
    (singleVariable .udint .read 1).OfFunction udintRegistration.function :=
  ⟨by decide, by decide, by decide, by decide⟩

/-- Where the upper half of the local variable is 0, the two paths agree on the value 5. -/
theorem ioIntr_agrees_iff_sample :
    (ioIntrRead .sample sampleConnection (fun _ => some (.single [5, 0, 0, 0]))
        udintRegistration.function (singleVariable .udint .read 1) fun _ => 0).map Prod.fst =
      some (udintRegistration.read.run .sample sampleConnection
        (fun _ => some (.single [5, 0, 0, 0])) (singleVariable .udint .read 1) 0 fun _ => 0).1 :=
  (ioIntr_agrees_iff .sample sampleConnection udint_registered (by decide) ofFunction_udint
    (placed_single rfl (by decide)) (.inl rfl) 0 (fun _ => 0) fun _ => 0).mpr
      (.inr (.inr (by simp)))

/-- The value 5 of a UDINT variable is published as 2 ^ 32 + 5 when byte 4 of the local variable
was 1. -/
theorem ioIntr_disagrees_udint :
    udintRegistration ∈ registeredHandlers ∧ udintRegistration.digital = false ∧
      (singleVariable .udint .read 1).OfFunction udintRegistration.function ∧
      (singleVariable .udint .read 1).Placed (fun _ => some (.single [5, 0, 0, 0])) ∧
      (ioIntrRead .sample sampleConnection (fun _ => some (.single [5, 0, 0, 0]))
          udintRegistration.function (singleVariable .udint .read 1)
          fun index => if index = 4 then 1 else 0).map (·.1.value) =
        some (.integer (2 ^ 32 + 5)) ∧
      (udintRegistration.read.run .sample sampleConnection
        (fun _ => some (.single [5, 0, 0, 0])) (singleVariable .udint .read 1) 0
          fun _ => 0).1.value = .integer 5 :=
  ⟨udint_registered, rfl, ofFunction_udint, placed_single rfl (by decide), by decide, by decide⟩

/-- A value with only the bits of a mask. -/
def Value.restrict (mask : BitVec 32) : Value → Value
  | .digital bits => .digital (bits &&& mask)
  | value => value

/-- A result with only the bits of a mask. -/
def Result.restrict (mask : BitVec 32) (result : Result Value) : Result Value :=
  { result with value := result.value.restrict mask }

/-- The published value of a digital variable, restricted to a record's mask, is the value read
with that mask, with the same status, exactly when the mask selects no set bit above the low
sixteen; without a value to read, exactly when it selects all bits of a new result. -/
theorem ioIntr_digital_iff (autoparam : Autoparam) (connection : Connection)
    {registration : Registration} (registered : registration ∈ registeredHandlers)
    (digital : registration.digital = true) {buffers : Buffers} {var : ADSVariable}
    (made : var.OfFunction registration.function) (placed : var.Placed buffers)
    (echo : var.EchoSized) (mask : BitVec 32) (published polled : Nat → UInt8) :
    (ioIntrRead autoparam connection buffers registration.function var published).map
        (·.1.restrict mask) =
      some (registration.read.run autoparam connection buffers var mask polled).1 ↔
    match var.current connection buffers with
    | some value => BitVec.ofNat 32 (leNat value) &&& mask &&& ~~~ioIntrMask = 0#32
    | none => autoparam.initialDigital &&& mask = autoparam.initialDigital := by
  obtain ⟨plcDataType, -, read, -, found⟩ := digital_widths registration registered digital
  have exact_size : var.size = plcDataType.size :=
    size_of_scalar registered made (by rw [read]; rfl)
  rw [ioIntrRead_eq autoparam connection made, found, read, Option.map_some, Option.map_some,
    Option.some.injEq]
  simp only [ReadHandler.run, digitalRead_eq autoparam connection placed echo exact_size]
  cases var.current connection buffers with
  | none =>
      simp [digitalResult, Autoparam.error, Result.wrap, Result.restrict, Value.restrict]
  | some value =>
      simp only [digitalResult, Autoparam.success, Result.wrap, Result.restrict, Value.restrict,
        Result.mk.injEq, Value.digital.injEq, and_true]
      exact Masks.and_and_eq_iff _ _ _

/-- The digital function of 32-bit words. -/
def dwordDigital : Registration := registerDigital .dword .uint32

theorem dwordDigital_registered : dwordDigital ∈ registeredHandlers := by
  decide

theorem ofFunction_dwordDigital :
    (singleVariable .dword .read 1).OfFunction dwordDigital.function :=
  ⟨by decide, by decide, by decide, by decide⟩

/-- A record for the low byte of a word gets the same bits on both paths. -/
theorem ioIntr_digital_iff_sample :
    (ioIntrRead .sample sampleConnection (fun _ => some (.single [7, 0, 1, 0]))
        dwordDigital.function (singleVariable .dword .read 1) fun _ => 0).map
        (·.1.restrict 0xFF) =
      some (dwordDigital.read.run .sample sampleConnection
        (fun _ => some (.single [7, 0, 1, 0])) (singleVariable .dword .read 1) 0xFF
          fun _ => 0).1 := by
  refine (ioIntr_digital_iff .sample sampleConnection dwordDigital_registered rfl
    ofFunction_dwordDigital (placed_single rfl (by decide)) (.inl rfl) 0xFF _ _).mpr ?_
  change BitVec.ofNat 32 (leNat [7, 0, 1, 0]) &&& 0xFF &&& ~~~ioIntrMask = 0#32
  decide

/-- Bit 16 of a DWORD is set, and a record with that bit as its mask reads it, but what is
published has it clear. -/
theorem ioIntr_digital_loses_bit :
    dwordDigital ∈ registeredHandlers ∧ dwordDigital.digital = true ∧
      (singleVariable .dword .read 1).OfFunction dwordDigital.function ∧
      (singleVariable .dword .read 1).Placed (fun _ => some (.single [0, 0, 1, 0])) ∧
      (ioIntrRead .sample sampleConnection (fun _ => some (.single [0, 0, 1, 0]))
          dwordDigital.function (singleVariable .dword .read 1) fun _ => 0).map
          (·.1.restrict 0x10000) = some (Autoparam.sample.success (.digital 0)) ∧
      (dwordDigital.read.run .sample sampleConnection (fun _ => some (.single [0, 0, 1, 0]))
        (singleVariable .dword .read 1) 0x10000 fun _ => 0).1 =
          Autoparam.sample.success (.digital 0x10000) :=
  ⟨dwordDigital_registered, rfl, ofFunction_dwordDigital, placed_single rfl (by decide),
    by decide, by decide⟩

end AdsDriver
