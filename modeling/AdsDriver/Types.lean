import Mathlib.Algebra.Group.Int.Defs
import Mathlib.Algebra.Group.Nat.Defs
import Mathlib.Tactic.Common

/-!
# Data types, codes and names

The enumerations and tables of `Types.cpp`, the return codes of `err.h`, and the map from ADS
return codes to them.
-/

namespace AdsDriver

/-- A C++ string as its characters. -/
abbrev Str := List Char

/-- Whether a variable is declared readable or writable. -/
inductive Operation
  | read
  | write
  deriving DecidableEq

/-- TwinCAT data types. -/
inductive ADSDataType
  | unknown
  | bool
  | sint
  | byte
  | usint
  | int
  | word
  | dword
  | uint
  | dint
  | udint
  | lint
  | real
  | lreal
  | string
  deriving DecidableEq

/-- Element sizes in bytes (`ads_datatype_sizes`); the unknown type has none. -/
def adsDatatypeSizes : ADSDataType → Option Nat
  | .unknown => none
  | .bool | .sint | .byte | .usint | .string => some 1
  | .int | .word | .uint => some 2
  | .dword | .dint | .udint | .real => some 4
  | .lreal | .lint => some 8

/-- Data types by name (`ads_datatypes`). -/
def adsDatatypesTable : List (Str × ADSDataType) :=
  [("BOOL".toList, .bool), ("SINT".toList, .sint), ("BYTE".toList, .byte),
    ("USINT".toList, .usint), ("INT".toList, .int), ("WORD".toList, .word),
    ("DWORD".toList, .dword), ("UINT".toList, .uint), ("DINT".toList, .dint),
    ("UDINT".toList, .udint), ("REAL".toList, .real), ("LREAL".toList, .lreal),
    ("LINT".toList, .lint), ("STRING".toList, .string)]

/-- `ads_datatypes[name]`: an unlisted name reads as the unknown type. -/
def adsDatatypes (name : Str) : ADSDataType :=
  (adsDatatypesTable.lookup name).getD .unknown

/-- `ads_datatypes_str.at(type)`. -/
def adsDatatypesStr : ADSDataType → Str
  | .unknown => []
  | .bool => "BOOL".toList
  | .sint => "SINT".toList
  | .byte => "BYTE".toList
  | .usint => "USINT".toList
  | .int => "INT".toList
  | .word => "WORD".toList
  | .dword => "DWORD".toList
  | .uint => "UINT".toList
  | .dint => "DINT".toList
  | .udint => "UDINT".toList
  | .lint => "LINT".toList
  | .real => "REAL".toList
  | .lreal => "LREAL".toList
  | .string => "STRING".toList

theorem adsDatatypes_adsDatatypesStr (dataType : ADSDataType) :
    adsDatatypes (adsDatatypesStr dataType) = dataType := by
  cases dataType <;> decide

/-- ADS ports by name (`ads_port_map`). -/
def adsPortTable : List (Str × Nat) :=
  [("LOGGER".toList, 100), ("RTIME".toList, 200), ("TRACE".toList, 290), ("IO".toList, 300),
    ("SPS".toList, 400), ("NC".toList, 500), ("ISG".toList, 550), ("PCS".toList, 600),
    ("PLC".toList, 801), ("PLC_RTS1".toList, 801), ("PLC_RTS2".toList, 811),
    ("PLC_RTS3".toList, 821), ("PLC_RTS4".toList, 831), ("PLC_TC3".toList, 851)]

/-- `ads_port_map[name]`: an unlisted name reads as port 0. -/
def adsPortMap (name : Str) : Nat := (adsPortTable.lookup name).getD 0

/-- Conversion to `uint16_t`. -/
def u16 (number : Nat) : Nat := number % 2 ^ 16

/-- Conversion to `uint32_t`. -/
def u32 (number : Nat) : Nat := number % 2 ^ 32

/-- Conversion to `size_t`. -/
def u64 (number : Nat) : Nat := number % 2 ^ 64

theorem u16_of_lt {number : Nat} (bound : number < 2 ^ 16) : u16 number = number :=
  Nat.mod_eq_of_lt bound

theorem u32_of_lt {number : Nat} (bound : number < 2 ^ 32) : u32 number = number :=
  Nat.mod_eq_of_lt bound

theorem u64_of_lt {number : Nat} (bound : number < 2 ^ 64) : u64 number = number :=
  Nat.mod_eq_of_lt bound

theorem u32_lt (number : Nat) : u32 number < 2 ^ 32 := Nat.mod_lt _ (by decide)

/-- `EPICSADS_ERROR`. -/
def epicsadsError : Int := 1001
/-- `EPICSADS_INV_PARAM`. -/
def epicsadsInvParam : Int := 1002
/-- `EPICSADS_INV_CALL`. -/
def epicsadsInvCall : Int := 1003
/-- `EPICSADS_NOT_ALLOCATED`. -/
def epicsadsNotAllocated : Int := 1004
/-- `EPICSADS_NOT_INITIALIZED`. -/
def epicsadsNotInitialized : Int := 1005
/-- `EPICSADS_NOT_RESOLVED`. -/
def epicsadsNotResolved : Int := 1006
/-- `EPICSADS_OUT_OF_RANGE`. -/
def epicsadsOutOfRange : Int := 1007
/-- `EPICSADS_LIMIT`. -/
def epicsadsLimit : Int := 1008
/-- `EPICSADS_OVERFLOW`. -/
def epicsadsOverflow : Int := 1009
/-- `EPICSADS_NO_DATA`. -/
def epicsadsNoData : Int := 1010
/-- `EPICSADS_DISCONNECTED`. -/
def epicsadsDisconnected : Int := 1012
/-- `EPICSADS_UNHANDLED_RC`. -/
def epicsadsUnhandledRc : Int := 1013

/-- Known ADS return codes (`ads_rc_to_epicsads_error_map`): device error, missing route,
synchronous timeout and unknown symbol. -/
def adsRcToEpicsadsErrorMap : List (Int × Int) :=
  [(-1, -1), (0, 0), (1792, epicsadsError), (7, epicsadsDisconnected),
    (1861, epicsadsDisconnected), (1808, epicsadsNotResolved)]

/-- The driver's return code for an ADS return code. -/
def adsRcToEpicsadsError (rc : Int) : Int :=
  (adsRcToEpicsadsErrorMap.lookup rc).getD epicsadsUnhandledRc

/-- No ADS failure is mapped to success. -/
theorem adsRcToEpicsadsError_eq_zero_iff (rc : Int) : adsRcToEpicsadsError rc = 0 ↔ rc = 0 := by
  have table : ∀ entry ∈ adsRcToEpicsadsErrorMap, entry.2 = 0 → entry.1 = 0 := by decide
  constructor
  · intro mapped
    unfold adsRcToEpicsadsError at mapped
    cases found : adsRcToEpicsadsErrorMap.lookup rc with
    | none => simp [found, epicsadsUnhandledRc] at mapped
    | some code =>
        obtain ⟨before, after, split, _⟩ := List.lookup_eq_some_iff.mp found
        exact table (rc, code) (by simp [split]) (by simpa [found] using mapped)
  · rintro rfl
    rfl

end AdsDriver
