import AdsDriver.Types

/-!
# Addresses

`ADSAddress`, its resolve and unresolve operations, and the constructor that parses the function
name and the arguments of a record link.  A string search that fails returns `npos`, which wraps
around when an offset is added to it; an argument index past the end is an exception of the model.
-/

namespace AdsDriver

/-- How parsing an address can fail. -/
inductive ParseException
  /-- `std::invalid_argument` with its message. -/
  | invalidArgument (what : Str)
  /-- `std::out_of_range`, thrown by `std::stol` on overflow. -/
  | outOfRange
  /-- The element of the argument vector at this index does not exist. -/
  | noArgument (index : Nat)
  deriving DecidableEq

/-- Where a variable lives on the ADS device. -/
structure ADSAddress where
  dataType : ADSDataType
  operation : Operation
  variableName : Str
  adsPort : UInt16
  indexGroup : UInt32 := 0
  indexOffset : UInt32 := 0
  /-- Number of elements, an `uint32_t`. -/
  nelem : Nat
  nameIsResolved : Bool := false
  deriving DecidableEq

namespace ADSAddress

/-- Store the index group and offset that a name was resolved to. -/
def resolve (address : ADSAddress) (adsIndexGroup adsIndexOffset : UInt32) : Int × ADSAddress :=
  if address.nameIsResolved = true then (epicsadsInvCall, address)
  else
    (0, { address with
      indexGroup := adsIndexGroup
      indexOffset := adsIndexOffset
      nameIsResolved := true })

/-- Forget the resolved group and offset; an address without a name stays as it is. -/
def unresolve (address : ADSAddress) : Int × ADSAddress :=
  if address.variableName = [] then (epicsadsInvCall, address)
  else (0, { address with indexGroup := 0, indexOffset := 0, nameIsResolved := false })

theorem resolve_of_unresolved {address : ADSAddress} (unresolved : address.nameIsResolved = false)
    (group offset : UInt32) :
    address.resolve group offset =
      (0, { address with indexGroup := group, indexOffset := offset, nameIsResolved := true }) := by
  simp [resolve, unresolved]

theorem unresolve_of_name {address : ADSAddress} (named : address.variableName ≠ []) :
    address.unresolve =
      (0, { address with indexGroup := 0, indexOffset := 0, nameIsResolved := false }) := by
  simp [unresolve, named]

end ADSAddress

/-- `std::string::find`: the first position of a substring. -/
def Str.find (text pattern : Str) : Option Nat :=
  match text with
  | [] => if pattern = [] then some 0 else none
  | char :: rest =>
      if pattern.isPrefixOf (char :: rest) then some 0
      else (Str.find rest pattern).map (· + 1)

/-- Whether a substring occurs. -/
def Str.contains (text pattern : Str) : Bool := (text.find pattern).isSome

/-- `substr(find(pattern) + skip)`: a failed search counts as position `2 ^ 64 - 1`, and a start
past the end of the text throws. -/
def Str.substrAfter (text pattern : Str) (skip : Nat) : Option Str :=
  let start := u64 ((text.find pattern).getD (2 ^ 64 - 1) + skip)
  if text.length < start then none else some (text.drop start)

/-- `isspace` in the C locale. -/
def isSpace (char : Char) : Bool :=
  char = ' ' || (9 ≤ char.toNat && char.toNat ≤ 13)

/-- The value of a digit in bases up to 36. -/
def digitValue (char : Char) : Option Nat :=
  if '0' ≤ char ∧ char ≤ '9' then some (char.toNat - '0'.toNat)
  else if 'a' ≤ char ∧ char ≤ 'z' then some (char.toNat - 'a'.toNat + 10)
  else if 'A' ≤ char ∧ char ≤ 'Z' then some (char.toNat - 'A'.toNat + 10)
  else none

/-- The leading digits of a text in a base. -/
def digitsOf (base : Nat) : Str → List Nat
  | [] => []
  | char :: rest =>
      match digitValue char with
      | some digit => if digit < base then digit :: digitsOf base rest else []
      | none => []

/-- Skip the `0x` that base 16 allows, when a hexadecimal digit follows it. -/
def skipHexPrefix (base : Nat) : Str → Str
  | '0' :: 'x' :: rest => if base = 16 ∧ digitsOf 16 rest ≠ [] then rest else '0' :: 'x' :: rest
  | '0' :: 'X' :: rest => if base = 16 ∧ digitsOf 16 rest ≠ [] then rest else '0' :: 'X' :: rest
  | text => text

/-- `std::stol` with a 64-bit `long`: white space, a sign, then as many digits as there are. -/
def stol (text : Str) (base : Nat) : Except ParseException Int :=
  let unspaced := text.dropWhile isSpace
  let negative := unspaced.head? = some '-'
  let unsigned := if negative ∨ unspaced.head? = some '+' then unspaced.tail else unspaced
  match digitsOf base (skipHexPrefix base unsigned) with
  | [] => .error (.invalidArgument "stol".toList)
  | digits =>
      let magnitude : Nat := digits.foldl (fun value digit => value * base + digit) 0
      let value : Int := if negative then -magnitude else magnitude
      if -2 ^ 63 ≤ value ∧ value < 2 ^ 63 then .ok value else .error .outOfRange

/-- `parse_dec_or_hex_int`, with its conversion to `uint32_t`. -/
def parseDecOrHexInt (text : Str) : Except ParseException Nat := do
  let value ← if text.take 2 = "0x".toList then stol text 16 else stol text 10
  return (value % 2 ^ 32).toNat

/-- `parse_data_type_autoparam`. -/
def parseDataTypeAutoparam (function : Str) : Except ParseException ADSDataType :=
  let name :=
    match function.find "[]".toList with
    | some position => function.take position
    | none =>
        match function.find "_digi".toList with
        | some position => function.take position
        | none => function
  let dataType := adsDatatypes name
  if dataType = .unknown then
    .error (.invalidArgument ("Invalid datatype '".toList ++ function ++ "'".toList))
  else .ok dataType

/-- `parse_operation`. -/
def parseOperation (text : Str) : Except ParseException Operation :=
  if text = "R".toList then .ok .read
  else if text = "W".toList then .ok .write
  else .error (.invalidArgument ("Invalid operation '".toList ++ text ++ "'".toList))

/-- `parse_nelem_autoparam`; 0 stands for an absent count. -/
def parseNelemAutoparam (text : Str) : Except ParseException Nat :=
  match text.substrAfter "N=".toList 2 with
  | none => .ok 0
  | some [] => .ok 0
  | some value => do
      let nelem ← stol value 10
      if nelem < 1 ∨ nelem > 2 ^ 32 - 1 then
        .error (.invalidArgument ("Invalid number of elements: ".toList ++ value))
      else return nelem.toNat

/-- `parse_param_value`: what follows the first `=`. -/
def parseParamValue (text : Str) : Str :=
  match text.find "=".toList with
  | none => []
  | some position => text.drop (position + 1)

/-- `parse_ads_port`: a port name, else a number, converted to `uint16_t`. -/
def parseAdsPort (text : Str) : Except ParseException UInt16 :=
  let value := parseParamValue text
  if adsPortMap value ≠ 0 then .ok (UInt16.ofNat (adsPortMap value))
  else
    match parseDecOrHexInt value with
    | .ok port => .ok (UInt16.ofNat port)
    | .error _ => .error (.invalidArgument ("Invalid ADS port '".toList ++ text ++ "'".toList))

/-- `parse_variable_name`. -/
def parseVariableName (text : Str) : Except ParseException Str :=
  if parseParamValue text = [] then
    .error (.invalidArgument "Variable name not specified".toList)
  else .ok (parseParamValue text)

/-- `arguments[index]`. -/
def argument (arguments : List Str) (index : Nat) : Except ParseException Str :=
  match arguments[index]? with
  | some text => .ok text
  | none => .error (.noArgument index)

/-- Whether a function takes an element count: arrays and strings do. -/
def takesNelem (function : Str) : Bool :=
  function.contains "[]".toList || function.contains "STRING".toList

/-- The element count an address ends up with: strings need one, otherwise it defaults to 1. -/
def checkNelem (dataType : ADSDataType) (nelem : Nat) : Except ParseException Nat :=
  if dataType = .string ∧ nelem = 0 then
    .error (.invalidArgument "Missing NELEM specifier for STRING datatype".toList)
  else .ok (if nelem = 0 then 1 else nelem)

/-- `ADSAddress::ADSAddress(function, arguments)`.  The `_digi` branch of the source reads the same
arguments as the plain scalar branch. -/
def ADSAddress.ofFunction (function : Str) (arguments : List Str) :
    Except ParseException ADSAddress := do
  let dataType ← parseDataTypeAutoparam function
  if takesNelem function then
    let nelem ← parseNelemAutoparam (← argument arguments 0)
    let operation ← parseOperation (← argument arguments 1)
    let adsPort ← parseAdsPort (← argument arguments 2)
    let variableName ← parseVariableName (← argument arguments 3)
    let nelem ← checkNelem dataType nelem
    return { dataType, operation, variableName, adsPort, nelem }
  else
    let operation ← parseOperation (← argument arguments 0)
    let adsPort ← parseAdsPort (← argument arguments 1)
    let variableName ← parseVariableName (← argument arguments 2)
    let nelem ← checkNelem dataType 0
    return { dataType, operation, variableName, adsPort, nelem }

/-- Facts about every address that the constructor builds for a function. -/
structure ADSAddress.ParsedFrom (function : Str) (address : ADSAddress) : Prop where
  dataType_eq : parseDataTypeAutoparam function = .ok address.dataType
  nelem_pos : 0 < address.nelem
  nelem_lt : address.nelem < 2 ^ 32
  /-- Only arrays and strings have more than one element. -/
  nelem_scalar : takesNelem function = false → address.nelem = 1
  named : address.variableName ≠ []
  unresolved : address.nameIsResolved = false

theorem ParseException.bind_eq_ok_iff {α β : Type} {first : Except ParseException α}
    {next : α → Except ParseException β} {result : β} :
    first >>= next = .ok result ↔ ∃ value, first = .ok value ∧ next value = .ok result := by
  cases first with
  | error exception =>
      refine iff_of_false (fun done => by cases done) ?_
      rintro ⟨value, returned, _⟩
      cases returned
  | ok value =>
      constructor
      · exact fun done => ⟨value, rfl, done⟩
      · rintro ⟨_, ⟨⟩, done⟩
        exact done

theorem parseNelemAutoparam_lt {text : Str} {nelem : Nat}
    (parsed : parseNelemAutoparam text = .ok nelem) : nelem < 2 ^ 32 := by
  unfold parseNelemAutoparam at parsed
  split at parsed
  · cases parsed
    decide
  · cases parsed
    decide
  · obtain ⟨value, _, checked⟩ := ParseException.bind_eq_ok_iff.mp parsed
    split_ifs at checked with outside
    cases checked
    omega

theorem checkNelem_bounds {dataType : ADSDataType} {count nelem : Nat} (bound : count < 2 ^ 32)
    (checked : checkNelem dataType count = .ok nelem) : 0 < nelem ∧ nelem < 2 ^ 32 := by
  unfold checkNelem at checked
  split_ifs at checked with _ zero
  · cases checked
    decide
  · cases checked
    omega

theorem checkNelem_zero {dataType : ADSDataType} {nelem : Nat}
    (checked : checkNelem dataType 0 = .ok nelem) : nelem = 1 := by
  unfold checkNelem at checked
  split at checked <;> cases checked
  rfl

theorem parseVariableName_ne_nil {text name : Str} (parsed : parseVariableName text = .ok name) :
    name ≠ [] := by
  unfold parseVariableName at parsed
  split_ifs at parsed with empty
  cases parsed
  exact empty

/-- Every address that the constructor returns has these properties. -/
theorem ADSAddress.ofFunction_parsed {function : Str} {arguments : List Str}
    {address : ADSAddress} (built : ADSAddress.ofFunction function arguments = .ok address) :
    address.ParsedFrom function := by
  obtain ⟨dataType, dataType_ok, built⟩ := ParseException.bind_eq_ok_iff.mp built
  split at built <;> rename_i kind
  · obtain ⟨_, _, built⟩ := ParseException.bind_eq_ok_iff.mp built
    obtain ⟨count, count_ok, built⟩ := ParseException.bind_eq_ok_iff.mp built
    obtain ⟨_, _, built⟩ := ParseException.bind_eq_ok_iff.mp built
    obtain ⟨operation, _, built⟩ := ParseException.bind_eq_ok_iff.mp built
    obtain ⟨_, _, built⟩ := ParseException.bind_eq_ok_iff.mp built
    obtain ⟨adsPort, _, built⟩ := ParseException.bind_eq_ok_iff.mp built
    obtain ⟨_, _, built⟩ := ParseException.bind_eq_ok_iff.mp built
    obtain ⟨name, name_ok, built⟩ := ParseException.bind_eq_ok_iff.mp built
    obtain ⟨nelem, nelem_ok, built⟩ := ParseException.bind_eq_ok_iff.mp built
    cases built
    have bounds := checkNelem_bounds (parseNelemAutoparam_lt count_ok) nelem_ok
    exact ⟨dataType_ok, bounds.1, bounds.2, fun scalar => by simp [scalar] at kind,
      parseVariableName_ne_nil name_ok, rfl⟩
  · obtain ⟨_, _, built⟩ := ParseException.bind_eq_ok_iff.mp built
    obtain ⟨operation, _, built⟩ := ParseException.bind_eq_ok_iff.mp built
    obtain ⟨_, _, built⟩ := ParseException.bind_eq_ok_iff.mp built
    obtain ⟨adsPort, _, built⟩ := ParseException.bind_eq_ok_iff.mp built
    obtain ⟨_, _, built⟩ := ParseException.bind_eq_ok_iff.mp built
    obtain ⟨name, name_ok, built⟩ := ParseException.bind_eq_ok_iff.mp built
    obtain ⟨nelem, nelem_ok, built⟩ := ParseException.bind_eq_ok_iff.mp built
    cases built
    have bounds := checkNelem_bounds (by decide) nelem_ok
    exact ⟨dataType_ok, bounds.1, bounds.2, fun _ => checkNelem_zero nelem_ok,
      parseVariableName_ne_nil name_ok, rfl⟩

/-- No name is resolved yet. -/
theorem ADSAddress.ofFunction_unresolved {function : Str} {arguments : List Str}
    {address : ADSAddress} (built : ADSAddress.ofFunction function arguments = .ok address) :
    address.indexGroup = 0 ∧ address.indexOffset = 0 := by
  obtain ⟨dataType, _, built⟩ := ParseException.bind_eq_ok_iff.mp built
  split at built
  · simp only [ParseException.bind_eq_ok_iff] at built
    obtain ⟨_, _, _, _, _, _, _, _, _, _, _, _, _, _, _, _, _, _, built⟩ := built
    cases built
    exact ⟨rfl, rfl⟩
  · simp only [ParseException.bind_eq_ok_iff] at built
    obtain ⟨_, _, _, _, _, _, _, _, _, _, _, _, _, _, built⟩ := built
    cases built
    exact ⟨rfl, rfl⟩

end AdsDriver
