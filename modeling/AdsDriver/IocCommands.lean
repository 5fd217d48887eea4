import AdsDriver.Allocation
import AdsDriver.Numerals
import AdsDriver.Scan

/-!
# The command AdsOpen

`ads_open` reads its arguments in order, checks that numbers are positive as `int`, and hands them
to the constructor of the driver, which takes two of them as 16-bit numbers.
-/

namespace AdsDriver

/-- `strtol` in base 10 with a 64-bit `long`. -/
def strtol (text : Str) : Int :=
  match stol text 10 with
  | .ok value => value
  | .error .outOfRange =>
      if (text.dropWhile isSpace).head? = some '-' then -2 ^ 63 else 2 ^ 63 - 1
  | .error (.invalidArgument _) | .error (.noArgument _) => 0

/-- `strtol`, converted to `int`. -/
def strtolInt (text : Str) : Int := (strtol text).bmod (2 ^ 32)

/-- The local variables of `ads_open`. -/
structure OpenArguments where
  portName : Str := []
  ipAddr : Str := []
  amsNetId : Str := []
  sumBufferNelem : Int := 500
  adsFunctionTimeoutMs : Int := -1
  deviceReadAdsPort : Int := 851
  sumReadPeriod : Int := 1
  deriving DecidableEq

namespace OpenArguments

/-- The `switch` over the position of an argument; `none` when `ads_open` returns -1. -/
def take (arguments : OpenArguments) (index : Nat) (text : Str) : Option OpenArguments :=
  match index with
  | 1 => some { arguments with portName := text }
  | 2 => some { arguments with ipAddr := text }
  | 3 => some { arguments with amsNetId := text }
  | 4 =>
      let sumBufferNelem := strtolInt text
      if sumBufferNelem < 1 then none else some { arguments with sumBufferNelem }
  | 5 =>
      let adsFunctionTimeoutMs := strtolInt text
      if adsFunctionTimeoutMs < 1 then none else some { arguments with adsFunctionTimeoutMs }
  | 6 =>
      let deviceReadAdsPort := strtolInt text
      if deviceReadAdsPort < 1 then none else some { arguments with deviceReadAdsPort }
  | 7 =>
      let sumReadPeriod := strtolInt text
      if sumReadPeriod < 1 then none else some { arguments with sumReadPeriod }
  | _ => some arguments

/-- The loop over the arguments from a position on. -/
def takeAll (arguments : OpenArguments) (index : Nat) : List Str → Option OpenArguments
  | [] => some arguments
  | text :: rest => (arguments.take index text).bind fun taken => taken.takeAll (index + 1) rest

end OpenArguments

/-- What `ads_open` ends with. -/
inductive Opened
  /-- It returns -1. -/
  | rejected
  /-- It returns 0 after it made a driver with this port name, call timeout and sum-read period. -/
  | constructed (portName : Str) (adsFunctionTimeout : UInt32) (sumReadPeriod : Int)
      (driver : ADSPortDriver)
  /-- An exception of the constructor leaves it. -/
  | threw

section Open

-- Whether the framework can register a port name, and how the library reads an AMS net id.
variable (registersPort : Str → Bool) (toAmsNetId : Str → AmsNetId) (heap : Heap)

/-- `ADSPortDriver::ADSPortDriver` on the local variables of `ads_open`, which are narrowed to its
parameters. -/
def OpenArguments.construct (arguments : OpenArguments) : Opened :=
  if registersPort arguments.portName = false then .threw
  else
    match ADSPortDriver.new arguments.ipAddr (toAmsNetId arguments.amsNetId)
      (UInt16.ofInt arguments.sumBufferNelem) (UInt16.ofInt arguments.deviceReadAdsPort) heap with
    | none => .threw
    | some driver =>
        .constructed arguments.portName (UInt32.ofInt arguments.adsFunctionTimeoutMs)
          arguments.sumReadPeriod driver

/-- `ads_open`; the first argument is the name of the command. -/
def adsOpen (argv : List Str) : Opened :=
  if argv.length < 3 ∨ argv.length > 8 then .rejected
  else
    match ({} : OpenArguments).takeAll 1 argv.tail with
    | none => .rejected
    | some arguments => arguments.construct registersPort toAmsNetId heap

end Open

/-- The integer that a text denotes: white space and a sign may stand before its digits, and nothing
behind them. -/
def integer? (text : Str) : Option Int :=
  let unspaced := text.dropWhile isSpace
  let negative := unspaced.head? = some '-'
  let unsigned := if negative ∨ unspaced.head? = some '+' then unspaced.tail else unspaced
  (numeral? 10 unsigned).map fun magnitude : Nat => if negative then -magnitude else magnitude

/-- A number is the default of an argument that is absent, or the positive integer that the argument
denotes. -/
def Given (argument : Option Str) (default number : Int) : Prop :=
  match argument with
  | none => number = default
  | some text => 0 < number ∧ integer? text = some number

/-- A driver has been made as the arguments say. -/
structure MadeAsGiven (toAmsNetId : Str → AmsNetId) (portName ipAddr amsNetId : Str)
    (options : List Str) (sumReadPeriod : Int) (driver : ADSPortDriver) : Prop where
  ipAddr_eq : driver.ipAddr = ipAddr
  amsNetId_eq : driver.amsNetId = toAmsNetId amsNetId
  sumBuffer : Given options[0]? 500 driver.sumRead.maxVarsPerBuffer
  adsPort : Given options[2]? 851 driver.deviceReadAdsPort.toNat
  period : Given options[3]? 1 sumReadPeriod

/-- `ads_open` makes no driver, or it makes one as all arguments say. -/
def Opened.TakesAsGiven (toAmsNetId : Str → AmsNetId) (argv : List Str) : Opened → Prop
  | .rejected => True
  | .constructed name _ sumReadPeriod driver =>
      ∃ command portName ipAddr amsNetId options,
        argv = command :: portName :: ipAddr :: amsNetId :: options ∧ name = portName ∧
          MadeAsGiven toAmsNetId portName ipAddr amsNetId options sumReadPeriod driver
  | .threw => False

/-- The checks of `ads_open` find fault with the arguments. -/
def RefusesArguments (argv : List Str) : Prop :=
  argv.length < 3 ∨ argv.length > 8 ∨ ∃ text ∈ argv.drop 4, strtolInt text < 1

/-- An argument is absent or denotes a positive integer up to a bound. -/
def Denotes (bound : Int) (argument : Option Str) : Prop :=
  ∀ text ∈ argument, ∃ number, integer? text = some number ∧ 0 < number ∧ number ≤ bound

/-- The arguments give a new port name, an address, an AMS net id and numbers that fit into the
parameters of the driver. -/
def Fitting (registersPort : Str → Bool) (argv : List Str) : Prop :=
  ∃ command portName ipAddr amsNetId options,
    argv = command :: portName :: ipAddr :: amsNetId :: options ∧ registersPort portName = true ∧
      Denotes (2 ^ 16 - 1) options[0]? ∧ Denotes (2 ^ 16 - 1) options[2]? ∧
      Denotes (2 ^ 31 - 1) options[3]?

/-- A positive integer that fits into a `long` is read as it is. -/
theorem strtol_of_integer {text : Str} {number : Int} (denoted : integer? text = some number)
    (positive : 0 < number) (small : number < 2 ^ 63) : strtol text = number := by
  have read : stol text 10 = .ok number := by
    unfold integer? at denoted
    unfold stol
    dsimp only at denoted ⊢
    generalize text.dropWhile isSpace = unspaced at denoted ⊢
    obtain ⟨magnitude, written, number_eq⟩ := Option.map_eq_some_iff.mp denoted
    obtain ⟨nonempty, digits, value_eq⟩ := numeral?_eq_some_iff.mp written
    have digits_ne := digitsOf_ne_nil nonempty digits
    have digits_value := foldl_digitsOf digits
    rw [value_eq] at digits_value
    rw [skipHexPrefix_ten]
    generalize digitsOf 10 _ = leading at digits_ne digits_value
    cases leading with
    | nil => exact absurd rfl digits_ne
    | cons digit leading =>
        dsimp only
        rw [digits_value, number_eq, if_pos (by omega)]
  rw [strtol, read]

theorem strtolInt_bounds (text : Str) : -2 ^ 31 ≤ strtolInt text ∧ strtolInt text < 2 ^ 31 := by
  rw [strtolInt, Int.bmod_def]
  omega

theorem strtolInt_of_integer {text : Str} {number : Int} (denoted : integer? text = some number)
    (positive : 0 < number) (small : number ≤ 2 ^ 31 - 1) : strtolInt text = number := by
  rw [strtolInt, strtol_of_integer denoted positive (by omega)]
  exact Int.bmod_eq_of_le_mul_two (by omega) (by omega)

/-- A 16-bit parameter is what a positive `int` denotes exactly when this fits. -/
theorem given_ofInt_iff {argument : Option Str} {default : Int}
    (default_pos : 0 < default) (default_small : default < 2 ^ 16)
    (checked : ∀ text ∈ argument, ¬ strtolInt text < 1) :
    Given argument default (UInt16.ofInt ((argument.map strtolInt).getD default)).toNat ↔
      Denotes (2 ^ 16 - 1) argument := by
  have narrowed (value : Int) : ((UInt16.ofInt value).toNat : Int) = value % 2 ^ 16 := by
    rw [UInt16.ofInt, UInt16.toNat_ofNat']
    omega
  rw [narrowed]
  cases argument with
  | none =>
      refine iff_of_true ?_ (by simp [Denotes])
      exact Int.emod_eq_of_lt default_pos.le default_small
  | some text =>
      simp only [Given, Denotes, Option.map_some, Option.getD_some, Option.mem_some_iff, forall_eq']
      constructor
      · rintro ⟨positive, denoted⟩
        exact ⟨_, denoted, positive, by omega⟩
      · rintro ⟨number, denoted, positive, small⟩
        rw [strtolInt_of_integer denoted positive (by omega),
          Int.emod_eq_of_lt (by omega) (by omega)]
        exact ⟨positive, denoted⟩

theorem given_iff {argument : Option Str} {default : Int}
    (checked : ∀ text ∈ argument, ¬ strtolInt text < 1) :
    Given argument default ((argument.map strtolInt).getD default) ↔
      Denotes (2 ^ 31 - 1) argument := by
  cases argument with
  | none => exact iff_of_true rfl (by simp [Denotes])
  | some text =>
      simp only [Given, Denotes, Option.map_some, Option.getD_some, Option.mem_some_iff, forall_eq']
      constructor
      · rintro ⟨positive, denoted⟩
        have bounds := strtolInt_bounds text
        exact ⟨_, denoted, positive, by omega⟩
      · rintro ⟨number, denoted, positive, small⟩
        rw [strtolInt_of_integer denoted positive small]
        exact ⟨positive, denoted⟩

/-- The optional arguments are taken in order, unless one of them is refused. -/
theorem OpenArguments.takeAll_options (arguments : OpenArguments) {options : List Str}
    (few : options.length ≤ 4) :
    arguments.takeAll 4 options =
      if ∃ text ∈ options, strtolInt text < 1 then none
      else some { arguments with
        sumBufferNelem := (options[0]?.map strtolInt).getD arguments.sumBufferNelem
        adsFunctionTimeoutMs := (options[1]?.map strtolInt).getD arguments.adsFunctionTimeoutMs
        deviceReadAdsPort := (options[2]?.map strtolInt).getD arguments.deviceReadAdsPort
        sumReadPeriod := (options[3]?.map strtolInt).getD arguments.sumReadPeriod } := by
  match options with
  | [] => simp [takeAll]
  | [sumBuffer] => by_cases first : strtolInt sumBuffer < 1 <;> simp [takeAll, take, first]
  | [sumBuffer, timeout] =>
      by_cases first : strtolInt sumBuffer < 1 <;> by_cases second : strtolInt timeout < 1 <;>
        simp [takeAll, take, first, second]
  | [sumBuffer, timeout, port] =>
      by_cases first : strtolInt sumBuffer < 1 <;> by_cases second : strtolInt timeout < 1 <;>
        by_cases third : strtolInt port < 1 <;> simp [takeAll, take, first, second, third]
  | [sumBuffer, timeout, port, period] =>
      by_cases first : strtolInt sumBuffer < 1 <;> by_cases second : strtolInt timeout < 1 <;>
        by_cases third : strtolInt port < 1 <;> by_cases fourth : strtolInt period < 1 <;>
          simp [takeAll, take, first, second, third, fourth]
  | _ :: _ :: _ :: _ :: _ :: rest =>
      simp only [List.length_cons] at few
      omega

section Open

variable (registersPort : Str → Bool) (toAmsNetId : Str → AmsNetId) (heap : Heap)

/-- The constructor makes a driver as the arguments say exactly when it can register the port and
its parameters still have the values of the arguments. -/
theorem OpenArguments.construct_takesAsGiven_iff (arguments : OpenArguments) (command : Str)
    (options : List Str) :
    (arguments.construct registersPort toAmsNetId heap).TakesAsGiven toAmsNetId
        (command :: arguments.portName :: arguments.ipAddr :: arguments.amsNetId :: options) ↔
      registersPort arguments.portName = true ∧
        Given options[0]? 500 (UInt16.ofInt arguments.sumBufferNelem).toNat ∧
        Given options[2]? 851 (UInt16.ofInt arguments.deviceReadAdsPort).toNat ∧
        Given options[3]? 1 arguments.sumReadPeriod := by
  unfold construct ADSPortDriver.new
  cases registered : registersPort arguments.portName with
  | false => simp [Opened.TakesAsGiven]
  | true =>
      simp only [Bool.true_eq_false, if_false, true_and]
      by_cases empty : UInt16.ofInt arguments.sumBufferNelem = 0
      · have none_given : ¬ Given options[0]? 500 ((0 : UInt16).toNat : Int) := by
          intro given
          unfold Given at given
          split at given
          · cases given
          · exact absurd given.1 (by decide)
        rw [if_pos empty, empty]
        exact iff_of_false id fun all => none_given all.1
      · rw [if_neg empty]
        constructor
        · rintro ⟨_, _, _, _, _, same, _, made⟩
          simp only [List.cons.injEq] at same
          obtain ⟨_, _, _, _, rfl⟩ := same
          exact ⟨made.sumBuffer, made.adsPort, made.period⟩
        · rintro ⟨sumBuffer, adsPort, period⟩
          exact ⟨_, _, _, _, _, rfl, rfl, rfl, rfl, sumBuffer, adsPort, period⟩

theorem OpenArguments.construct_ne_rejected (arguments : OpenArguments) :
    arguments.construct registersPort toAmsNetId heap ≠ .rejected := by
  unfold construct
  split_ifs
  · simp
  · cases ADSPortDriver.new arguments.ipAddr (toAmsNetId arguments.amsNetId)
      (UInt16.ofInt arguments.sumBufferNelem) (UInt16.ofInt arguments.deviceReadAdsPort) heap <;>
      simp

theorem Opened.TakesAsGiven.complete {argv : List Str} {opened : Opened}
    (taken : opened.TakesAsGiven toAmsNetId argv) (not_rejected : opened ≠ .rejected) :
    4 ≤ argv.length := by
  cases opened with
  | rejected => exact absurd rfl not_rejected
  | threw => exact taken.elim
  | constructed name timeout period driver =>
      obtain ⟨_, _, _, _, _, rfl, _⟩ := taken
      simp

/-- `ads_open` takes its arguments as given exactly when its checks find fault with them or they are
complete and fit. -/
theorem adsOpen_takesAsGiven_iff (argv : List Str) :
    (adsOpen registersPort toAmsNetId heap argv).TakesAsGiven toAmsNetId argv ↔
      RefusesArguments argv ∨ Fitting registersPort argv := by
  unfold adsOpen
  by_cases counted : argv.length < 3 ∨ argv.length > 8
  · rw [if_pos counted]
    exact iff_of_true trivial (.inl (counted.imp id .inl))
  rw [if_neg counted]
  obtain ⟨enough, few⟩ := not_or.mp counted
  match argv with
  | [] | [_] | [_, _] => simp at enough
  | [command, portName, ipAddr] =>
      have not_rejected := OpenArguments.construct_ne_rejected registersPort toAmsNetId heap
        { portName, ipAddr }
      refine iff_of_false (fun taken => ?_) ?_
      · exact absurd (taken.complete toAmsNetId not_rejected) (by simp)
      · rintro (refused | ⟨_, _, _, _, _, same, _⟩)
        · simp [RefusesArguments] at refused
        · simp at same
  | command :: portName :: ipAddr :: amsNetId :: options =>
      have few_options : options.length ≤ 4 := by
        simp only [List.length_cons] at few
        omega
      have read : ({} : OpenArguments).takeAll 1 (portName :: ipAddr :: amsNetId :: options) =
          ({ portName, ipAddr, amsNetId } : OpenArguments).takeAll 4 options := rfl
      have refuses_iff : RefusesArguments (command :: portName :: ipAddr :: amsNetId :: options) ↔
          ∃ text ∈ options, strtolInt text < 1 := by
        refine ⟨?_, fun refused => .inr (.inr refused)⟩
        rintro (short | long | refused)
        · exact absurd short enough
        · exact absurd long few
        · exact refused
      rw [List.tail_cons, read, OpenArguments.takeAll_options _ few_options, refuses_iff]
      by_cases refused : ∃ text ∈ options, strtolInt text < 1
      · rw [if_pos refused]
        exact iff_of_true trivial (.inl refused)
      · rw [if_neg refused, or_iff_right refused]
        have checked (index : Nat) : ∀ text ∈ options[index]?, ¬ strtolInt text < 1 :=
          fun text found small => refused ⟨text, List.mem_of_getElem? found, small⟩
        refine (OpenArguments.construct_takesAsGiven_iff registersPort toAmsNetId heap _ command
          options).trans ?_
        dsimp only
        rw [given_ofInt_iff (by decide) (by decide) (checked 0),
          given_ofInt_iff (by decide) (by decide) (checked 2), given_iff (checked 3)]
        constructor
        · intro fitting
          exact ⟨command, portName, ipAddr, amsNetId, options, rfl, fitting⟩
        · rintro ⟨_, _, _, _, _, same, fitting⟩
          simp only [List.cons.injEq] at same
          obtain ⟨_, rfl, _, _, rfl⟩ := same
          exact fitting

end Open

/-- `ads_open` in an IOC where every port name is new. -/
def openInNewIoc (argv : List Str) : Opened :=
  adsOpen (fun _ => true) (fun _ => AmsNetId.zero) ⟨SumReadRequest.sampleVars, []⟩ argv

/-- Three words name the command, the port and the address. -/
def withoutAmsNetId : List Str := ["AdsOpen".toList, "PLC".toList, "10.0.0.1".toList]

/-- A command without an AMS net id makes a driver, and a size of 65536 ends in an exception. -/
theorem adsOpen_misreads :
    (∃ driver, openInNewIoc withoutAmsNetId = .constructed "PLC".toList 4294967295 1 driver) ∧
      ¬ (openInNewIoc withoutAmsNetId).TakesAsGiven (fun _ => AmsNetId.zero) withoutAmsNetId ∧
      openInNewIoc (withoutAmsNetId ++ ["10.0.0.1.1.1".toList, "65536".toList]) = .threw := by
  have made : ∃ driver,
      openInNewIoc withoutAmsNetId = .constructed "PLC".toList 4294967295 1 driver := ⟨_, rfl⟩
  refine ⟨made, fun taken => ?_, rfl⟩
  obtain ⟨driver, opened_eq⟩ := made
  rw [opened_eq] at taken
  exact absurd (taken.complete _ (by simp)) (by decide)

end AdsDriver
