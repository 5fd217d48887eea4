import AdsDriver.LinkGrammar

/-!
# Address specifiers

The constructor of an address from one text: a data type with an optional element count, an
operation, a port, and either an index group and an index offset or the name of a variable.
-/

namespace AdsDriver

open ParseException

/-- `tokenize`: the parts between spaces that are not empty. -/
def tokenize (text : Str) : List Str := (text.splitOn ' ').filter fun token => !token.isEmpty

/-- `parse_data_type`. -/
def parseDataType (text : Str) : Except ParseException ADSDataType :=
  let dataType :=
    match text.find "[".toList with
    | some position => adsDatatypes (text.take position)
    | none => adsDatatypes text
  if dataType = .unknown then
    .error (.invalidArgument ("Invalid datatype '".toList ++ text ++ "'".toList))
  else .ok dataType

/-- `parse_nelem`, which looks for `N=`; 0 stands for an absent count. -/
def parseNelem (text : Str) : Except ParseException Nat :=
  match text.substrAfter "N=".toList 0 with
  | none => .ok 0
  | some [] => .ok 0
  | some found => do
      let value := found.drop 2
      let nelem ← stol value 10
      if nelem < 1 ∨ nelem > 2 ^ 32 - 1 then
        .error (.invalidArgument ("Invalid number of elements: ".toList ++ value))
      else return nelem.toNat

/-- `parse_index_group`. -/
def parseIndexGroup (text : Str) : Except ParseException UInt32 :=
  match parseDecOrHexInt (parseParamValue text) with
  | .ok group => .ok (UInt32.ofNat group)
  | .error _ => .error (.invalidArgument ("Invalid ADS index group '".toList ++ text ++ "'".toList))

/-- `parse_index_offset`. -/
def parseIndexOffset (text : Str) : Except ParseException UInt32 :=
  match parseDecOrHexInt (parseParamValue text) with
  | .ok offset => .ok (UInt32.ofNat offset)
  | .error _ =>
      .error (.invalidArgument ("Invalid ADS index offset '".toList ++ text ++ "'".toList))

/-- `parse_notification_delay`, converted to `uint32_t`. -/
def parseNotificationDelay (text : Str) : Except ParseException UInt32 :=
  if parseParamValue text = [] then
    .error (.invalidArgument "Notification delay not specified".toList)
  else do
    let delay ← stol (parseParamValue text) 10
    return UInt32.ofNat (delay % 2 ^ 32).toNat

/-- The part of an address that tells where its variable is found. -/
structure Location where
  variableName : Str := []
  indexGroup : UInt32 := 0
  indexOffset : UInt32 := 0
  deriving DecidableEq

/-- `parse_register_specifier` of the token with the index group and the ones after it.  A delay is
parsed, but no function of the driver uses it. -/
def parseRegisterSpecifier (group : Str) (rest : List Str) : Except ParseException Location := do
  let indexGroup ← parseIndexGroup group
  match rest with
  | [] => .error (.invalidArgument "Missing index offset specifier".toList)
  | [offset] => return { indexGroup, indexOffset := ← parseIndexOffset offset }
  | offset :: delay :: _ =>
      let indexOffset ← parseIndexOffset offset
      let _ ← parseNotificationDelay delay
      return { indexGroup, indexOffset }

/-- `parse_variable_specifier` of the token with the name and the ones after it. -/
def parseVariableSpecifier (name : Str) (rest : List Str) : Except ParseException Location := do
  let variableName ← parseVariableName name
  match rest with
  | [] => return { variableName }
  | delay :: _ =>
      let _ ← parseNotificationDelay delay
      return { variableName }

/-- Whether the fourth token of a specifier gives an index group. -/
def givesRegister (token : Str) : Bool := token.head? = some 'G'

/-- `ADSAddress::ADSAddress(address)`. -/
def ADSAddress.ofSpecifier (address : Str) : Except ParseException ADSAddress :=
  match tokenize address with
  | typeToken :: operationToken :: portToken :: locationToken :: rest => do
      let dataType ← parseDataType typeToken
      let nelem ← parseNelem typeToken
      let operation ← parseOperation operationToken
      let adsPort ← parseAdsPort portToken
      let location ←
        if givesRegister locationToken then parseRegisterSpecifier locationToken rest
        else parseVariableSpecifier locationToken rest
      let nelem ← checkNelem dataType nelem
      return {
        dataType
        operation
        variableName := location.variableName
        adsPort
        indexGroup := location.indexGroup
        indexOffset := location.indexOffset
        nelem
        nameIsResolved := location.indexGroup ≠ 0 || location.indexOffset ≠ 0 }
  | _ =>
      .error (.invalidArgument
        ("Invalid address specifier: '".toList ++ address ++ "'".toList))

/-- Tokens separated by spaces. -/
def specifier (tokens : List Str) : Str := [' '].intercalate tokens

theorem tokenize_specifier {tokens : List Str} (nonempty : tokens ≠ [])
    (spaceless : ∀ token ∈ tokens, token ≠ [] ∧ ' ' ∉ token) :
    tokenize (specifier tokens) = tokens := by
  unfold tokenize specifier
  rw [List.splitOn_intercalate ' ' (fun token member => (spaceless token member).2) nonempty]
  refine List.filter_eq_self.mpr fun token member => ?_
  simpa using (spaceless token member).1

theorem prefix_of_find {text pattern : Str} {position : Nat}
    (found : text.find pattern = some position) : pattern <+: text.drop position := by
  induction text generalizing position with
  | nil =>
      unfold Str.find at found
      split_ifs at found with empty
      simp [empty]
  | cons char rest ih =>
      unfold Str.find at found
      split_ifs at found with starts
      · obtain rfl := Option.some.inj found
        exact List.isPrefixOf_iff_prefix.mp starts
      · obtain ⟨before, later, rfl⟩ := Option.map_eq_some_iff.mp found
        exact ih later

theorem find_eq_none {text pattern : Str} {char : Char} (in_pattern : char ∈ pattern)
    (absent : char ∉ text) : text.find pattern = none := by
  cases found : text.find pattern with
  | none => rfl
  | some position =>
      have occurs := (prefix_of_find found).subset in_pattern
      exact absurd (List.mem_of_mem_drop occurs) absent

theorem find_singleton {front : Str} {char : Char} (absent : char ∉ front) (rest : Str) :
    (front ++ char :: rest).find [char] = some front.length := by
  induction front with
  | nil => exact find_append_self [char] rest
  | cons first front ih =>
      obtain ⟨other, later⟩ : char ≠ first ∧ char ∉ front := by simpa using absent
      have elsewhere : List.isPrefixOf [char] (first :: (front ++ char :: rest)) = false := by
        simp [List.isPrefixOf, other]
      rw [List.cons_append, Str.find, elsewhere, ih later]
      rfl

theorem parseNelem_absent {token : Str} (absent : '=' ∉ token)
    (short : token.length < 2 ^ 64 - 1) : parseNelem token = .ok 0 := by
  have nowhere : token.find "N=".toList = none := find_eq_none (by decide) absent
  unfold parseNelem Str.substrAfter
  rw [nowhere]
  simp only [Option.getD_none, Nat.add_zero]
  rw [u64_of_lt (by decide), if_pos short]

theorem not_mem_of_all {base : Nat} {text : Str} (digits : text.all (isDigit base) = true)
    {char : Char} (other : isDigit base char = false) : char ∉ text := by
  intro member
  have digit := List.all_eq_true.mp digits char member
  rw [other] at digit
  cases digit

theorem adsPortTable_spaceless : ∀ entry ∈ adsPortTable, ' ' ∉ entry.1 := by decide

theorem spaceless_of_portText {text : Str} {port : Nat} (written : portText? text = some port) :
    ' ' ∉ text := by
  unfold portText? at written
  cases named : adsPortTable.lookup text with
  | some found =>
      obtain ⟨before, after, split, _⟩ := List.lookup_eq_some_iff.mp named
      exact adsPortTable_spaceless (text, found) (by simp [split])
  | none =>
      obtain ⟨numeral, _⟩ : number? text = some port ∧ port < 2 ^ 16 := by
        simpa [named, Option.filter_eq_some_iff] using written
      unfold number? at numeral
      split_ifs at numeral with hexadecimal
      · have digits := (numeral?_eq_some_iff.mp numeral).2.1
        rw [← List.take_append_drop 2 text, hexadecimal, List.mem_append, not_or]
        exact ⟨by decide, not_mem_of_all digits (by decide)⟩
      · exact not_mem_of_all (numeral?_eq_some_iff.mp numeral).2.1 (by decide)

/-- The tokens behind the data type of a named address. -/
def namedTokens (operation : Operation) (port name : Str) : List Str :=
  [operation.text, "P=".toList ++ port, "V=".toList ++ name]

/-- An address by name that is not resolved. -/
def namedAddress (dataType : ADSDataType) (operation : Operation) (port : Nat) (name : Str)
    (nelem : Nat) : ADSAddress :=
  { dataType
    operation
    variableName := name
    adsPort := UInt16.ofNat port
    nelem }

/-- The function of a link for an array or a string. -/
def countedFunction (dataType : ADSDataType) : Str :=
  if dataType = .string then adsDatatypesStr dataType else adsDatatypesStr dataType ++ "[]".toList

/-- A specifier and a link are accepted and make the same address. -/
def SameAddress (tokens : List Str) (function : Str) (words : List Str) : Prop :=
  ∃ address, ADSAddress.ofSpecifier (specifier tokens) = .ok address ∧
    ADSAddress.ofFunction function words = .ok address

/-- The two constructors agree on a data type, a number of elements and a named address. -/
def ConstructorsAgree (dataType : ADSDataType) (nelem : Nat) (operation : Operation)
    (port name : Str) : Prop :=
  let count := Nat.toDigits 10 nelem
  SameAddress
      ((adsDatatypesStr dataType ++ "[".toList ++ count ++ "]".toList) ::
        namedTokens operation port name)
      (countedFunction dataType) (("N=".toList ++ count) :: namedTokens operation port name) ∧
    (dataType ≠ .string →
      SameAddress (adsDatatypesStr dataType :: namedTokens operation port name)
        (adsDatatypesStr dataType) (namedTokens operation port name))

/-- A specifier of a named address makes a scalar, and is refused for a string, if its first token
gives a data type and has no `=`. -/
theorem ofSpecifier_named {typeToken : Str} {dataType : ADSDataType}
    (typed : parseDataType typeToken = .ok dataType) (no_count : '=' ∉ typeToken)
    (short : typeToken.length < 2 ^ 64 - 1) (token : typeToken ≠ [] ∧ ' ' ∉ typeToken)
    (operation : Operation) {port name : Str} {number : Nat}
    (written : portText? port = some number) (named : name ≠ []) (spaceless : ' ' ∉ name) :
    ADSAddress.ofSpecifier (specifier (typeToken :: namedTokens operation port name)) =
      if dataType = .string then
        .error (.invalidArgument "Missing NELEM specifier for STRING datatype".toList)
      else .ok (namedAddress dataType operation number name 1) := by
  have tokens : tokenize (specifier (typeToken :: namedTokens operation port name)) =
      typeToken :: namedTokens operation port name := by
    refine tokenize_specifier (List.cons_ne_nil _ _) ?_
    rw [namedTokens, List.forall_mem_cons, List.forall_mem_cons, List.forall_mem_cons,
      List.forall_mem_singleton]
    refine ⟨token, ?_, ?_, ?_⟩
    · cases operation <;> decide
    · simpa using spaceless_of_portText written
    · simpa using spaceless
  unfold ADSAddress.ofSpecifier
  rw [tokens]
  simp only [namedTokens, typed, parseNelem_absent no_count short,
    parseOperation_eq_ok_iff.mpr rfl, (parseAdsPort_portText written).2]
  have not_register : givesRegister ("V=".toList ++ name) = false := by simp [givesRegister]
  have location : parseVariableSpecifier ("V=".toList ++ name) [] =
      .ok { variableName := name } := by
    unfold parseVariableSpecifier
    rw [parseVariableName_append, if_neg named]
    rfl
  simp only [not_register, location, Bool.false_eq_true, if_false, bind, Except.bind, checkNelem]
  by_cases string : dataType = .string
  · simp [string]
  · simp only [string, false_and, if_false, if_true]
    rfl

theorem adsDatatypes_token {dataType : ADSDataType} (known : dataType ≠ .unknown) :
    '=' ∉ adsDatatypesStr dataType ∧ ' ' ∉ adsDatatypesStr dataType ∧
      '[' ∉ adsDatatypesStr dataType := by
  cases dataType <;> first | contradiction | decide

theorem countedFunction_spec {dataType : ADSDataType} (known : dataType ≠ .unknown) :
    takesNelem (countedFunction dataType) = true ∧
      parseDataTypeAutoparam (countedFunction dataType) = .ok dataType ∧
      (dataType ≠ .string → takesNelem (adsDatatypesStr dataType) = false ∧
        parseDataTypeAutoparam (adsDatatypesStr dataType) = .ok dataType) := by
  cases dataType <;> first | contradiction | decide

theorem parseDataType_counted {dataType : ADSDataType} (known : dataType ≠ .unknown)
    (count : Str) :
    parseDataType (adsDatatypesStr dataType ++ '[' :: (count ++ "]".toList)) = .ok dataType := by
  have front := find_singleton (adsDatatypes_token known).2.2 (count ++ "]".toList)
  unfold parseDataType
  change Str.find _ "[".toList = _ at front
  rw [front]
  simp [adsDatatypes_adsDatatypesStr, known]

theorem parseDataType_scalar {dataType : ADSDataType} (known : dataType ≠ .unknown) :
    parseDataType (adsDatatypesStr dataType) = .ok dataType := by
  have nowhere : (adsDatatypesStr dataType).find "[".toList = none :=
    find_eq_none (by decide) (adsDatatypes_token known).2.2
  unfold parseDataType
  rw [nowhere]
  simp [adsDatatypes_adsDatatypesStr, known]

section Named

variable {dataType : ADSDataType} (operation : Operation) {port name : Str} {number : Nat}

theorem ofSpecifier_counted (known : dataType ≠ .unknown) (written : portText? port = some number)
    (named : name ≠ []) (spaceless : ' ' ∉ name) {nelem : Nat} (small : nelem < 2 ^ 32) :
    ADSAddress.ofSpecifier (specifier ((adsDatatypesStr dataType ++ "[".toList ++
        Nat.toDigits 10 nelem ++ "]".toList) :: namedTokens operation port name)) =
      if dataType = .string then
        .error (.invalidArgument "Missing NELEM specifier for STRING datatype".toList)
      else .ok (namedAddress dataType operation number name 1) := by
  obtain ⟨no_equals, no_space, _⟩ := adsDatatypes_token known
  have digits := (numeral?_eq_some_iff.mp (numeral?_toDigits nelem)).2.1
  have few : (Nat.toDigits 10 nelem).length ≤ 10 :=
    (Nat.length_toDigits_le_iff (by decide) (by decide)).mpr (by omega)
  have type_short : (adsDatatypesStr dataType).length ≤ 6 := by cases dataType <;> decide
  have typed := parseDataType_counted known (Nat.toDigits 10 nelem)
  have absent {char : Char} (not_in_type : char ∉ adsDatatypesStr dataType)
      (not_bracket : char ≠ '[' ∧ char ≠ ']') (not_digit : isDigit 10 char = false) :
      char ∉ adsDatatypesStr dataType ++ "[".toList ++ Nat.toDigits 10 nelem ++ "]".toList := by
    rw [List.mem_append, List.mem_append, List.mem_append, not_or, not_or, not_or]
    refine ⟨⟨⟨not_in_type, ?_⟩, not_mem_of_all digits not_digit⟩, ?_⟩
    · simpa using not_bracket.1
    · simpa using not_bracket.2
  refine ofSpecifier_named ?_ (absent no_equals (by decide) (by decide)) ?_
    ⟨by simp, absent no_space (by decide) (by decide)⟩
    operation written named spaceless
  · simpa using typed
  · simp only [List.length_append]
    change _ + 1 + _ + 1 < _
    omega

theorem ofSpecifier_scalar (known : dataType ≠ .unknown) (written : portText? port = some number)
    (named : name ≠ []) (spaceless : ' ' ∉ name) (not_string : dataType ≠ .string) :
    ADSAddress.ofSpecifier
        (specifier (adsDatatypesStr dataType :: namedTokens operation port name)) =
      .ok (namedAddress dataType operation number name 1) := by
  obtain ⟨no_equals, no_space, _⟩ := adsDatatypes_token known
  have type_short : (adsDatatypesStr dataType).length ≤ 6 := by cases dataType <;> decide
  have type_nonempty : adsDatatypesStr dataType ≠ [] := by
    cases dataType <;> first | contradiction | decide
  rw [ofSpecifier_named (parseDataType_scalar known) no_equals (by omega)
    ⟨type_nonempty, no_space⟩ operation written named spaceless,
    if_neg not_string]

theorem writes_namedTokens (written : portText? port = some number) (named : name ≠ [])
    (nelem : Nat) :
    List.Forall₂
      (fun field token =>
        LinkField.Writes (namedAddress dataType operation number name nelem) token field)
      [.operation, .adsPort, .variableName] (namedTokens operation port name) := by
  have small := (parseAdsPort_portText written).1
  have port_eq : portText? port = some (UInt16.ofNat number).toNat := by
    rw [written, UInt16.toNat_ofNat', Nat.mod_eq_of_lt small]
  exact .cons rfl (.cons ⟨port, rfl, port_eq⟩ (.cons ⟨rfl, named⟩ .nil))

theorem ofFunction_counted (known : dataType ≠ .unknown) (written : portText? port = some number)
    (named : name ≠ []) {nelem : Nat} (positive : 1 ≤ nelem) (small : nelem < 2 ^ 32) :
    ADSAddress.ofFunction (countedFunction dataType)
        (("N=".toList ++ Nat.toDigits 10 nelem) :: namedTokens operation port name) =
      .ok (namedAddress dataType operation number name nelem) := by
  obtain ⟨takes, typed, _⟩ := countedFunction_spec known
  refine Describes.ofFunction ⟨?_, typed, by simp [takes], rfl, rfl, rfl⟩ (by simp [takes])
  rw [linkFields, if_pos takes]
  exact .cons ⟨_, rfl, numeral?_toDigits nelem, positive, small⟩
    (writes_namedTokens operation written named nelem)

theorem ofFunction_scalar (known : dataType ≠ .unknown) (written : portText? port = some number)
    (named : name ≠ []) (not_string : dataType ≠ .string) :
    ADSAddress.ofFunction (adsDatatypesStr dataType) (namedTokens operation port name) =
      .ok (namedAddress dataType operation number name 1) := by
  obtain ⟨takes, typed⟩ := (countedFunction_spec known).2.2 not_string
  refine Describes.ofFunction ⟨?_, typed, fun _ => rfl, rfl, rfl, rfl⟩ fun _ => ?_
  · rw [linkFields, if_neg (by simp [takes])]
    exact writes_namedTokens operation written named 1
  · rw [typed]
    simpa using not_string

end Named

/-- The constructors agree exactly on scalars of other types than strings and on arrays of one
element. -/
theorem constructorsAgree_iff {dataType : ADSDataType} (known : dataType ≠ .unknown) {nelem : Nat}
    (positive : 1 ≤ nelem) (small : nelem < 2 ^ 32) (operation : Operation) {port name : Str}
    {number : Nat} (written : portText? port = some number) (named : name ≠ [])
    (spaceless : ' ' ∉ name) :
    ConstructorsAgree dataType nelem operation port name ↔ nelem = 1 ∧ dataType ≠ .string := by
  have counted := ofSpecifier_counted operation known written named spaceless small
  have linked := ofFunction_counted operation known written named positive small
  constructor
  · rintro ⟨⟨address, specified, described⟩, _⟩
    rw [counted] at specified
    rw [linked] at described
    split_ifs at specified with string
    obtain rfl := Except.ok.inj specified
    have same := congrArg ADSAddress.nelem (Except.ok.inj described)
    exact ⟨same, string⟩
  · rintro ⟨rfl, not_string⟩
    rw [if_neg not_string] at counted
    refine ⟨⟨_, counted, linked⟩, fun _ => ?_⟩
    exact ⟨_, ofSpecifier_scalar operation known written named spaceless not_string,
      ofFunction_scalar operation known written named not_string⟩

theorem constructorsAgree_sample :
    portText? "0x353".toList = some 851 ∧
      (ConstructorsAgree .int 7 .write "0x353".toList "Main.x".toList ↔
        7 = 1 ∧ ADSDataType.int ≠ .string) := by
  have written : portText? "0x353".toList = some 851 := by decide
  exact ⟨written, constructorsAgree_iff (by decide) (by decide) (by decide) .write written
    (by decide) (by decide)⟩

/-- The element count of a specifier is read as 1, and a string cannot be specified at all. -/
theorem constructors_disagree :
    ADSAddress.ofSpecifier "LREAL[3] R P=851 V=Main.x".toList =
        .ok (namedAddress .lreal .read 851 "Main.x".toList 1) ∧
      ADSAddress.ofFunction "LREAL[]".toList
          ["N=3".toList, "R".toList, "P=851".toList, "V=Main.x".toList] =
        .ok (namedAddress .lreal .read 851 "Main.x".toList 3) ∧
      ADSAddress.ofSpecifier "STRING[5] R P=851 V=Main.s".toList =
        .error (.invalidArgument "Missing NELEM specifier for STRING datatype".toList) ∧
      ¬ ConstructorsAgree .lreal 3 .read "851".toList "Main.x".toList := by
  have specified : ADSAddress.ofSpecifier "LREAL[3] R P=851 V=Main.x".toList =
      .ok (namedAddress .lreal .read 851 "Main.x".toList 1) := by decide
  have linked : ADSAddress.ofFunction "LREAL[]".toList
      ["N=3".toList, "R".toList, "P=851".toList, "V=Main.x".toList] =
        .ok (namedAddress .lreal .read 851 "Main.x".toList 3) := by decide
  refine ⟨specified, linked, by decide, fun ⟨⟨address, first, second⟩, _⟩ => ?_⟩
  have first : Except.ok (namedAddress .lreal .read 851 "Main.x".toList 1) = Except.ok address :=
    specified.symm.trans first
  have second : Except.ok (namedAddress .lreal .read 851 "Main.x".toList 3) = Except.ok address :=
    linked.symm.trans second
  cases (Except.ok.inj first).trans (Except.ok.inj second).symm

end AdsDriver
