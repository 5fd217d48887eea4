import AdsDriver.Scan

/-!
# What escapes from the parsing of record links

The constructor of an address reads one word of the link for each field and stops at the first word
that its field does not accept, by `std::invalid_argument`, which `parseDeviceAddress` handles.
What is not handled is a word that does not exist and an element count too large for `std::stol`.
-/

namespace AdsDriver

namespace ParseException

/-- Nothing but `std::invalid_argument` is thrown. -/
def Handled {α : Type} (outcome : Except ParseException α) : Prop :=
  ∀ exception, outcome = .error exception → ∃ what, exception = .invalidArgument what

variable {α β : Type}

@[simp]
theorem handled_ok (value : α) : Handled (.ok value) := by
  intro exception thrown
  cases thrown

@[simp]
theorem handled_invalidArgument (what : Str) :
    Handled (.error (.invalidArgument what) : Except ParseException α) := by
  rintro exception ⟨⟩
  exact ⟨what, rfl⟩

/-- A sequence throws nothing else when its first part does not and, if that returns, neither does
the rest. -/
theorem handled_bind_iff (first : Except ParseException α) (next : α → Except ParseException β) :
    Handled (first >>= next) ↔
      Handled first ∧ ∀ value, first = .ok value → Handled (next value) := by
  cases first with
  | ok value =>
      constructor
      · intro handled
        refine ⟨handled_ok value, ?_⟩
        rintro _ ⟨⟩
        exact handled
      · rintro ⟨_, rest⟩
        exact rest value rfl
  | error exception =>
      constructor
      · intro handled
        refine ⟨?_, fun value returned => by cases returned⟩
        rintro _ ⟨⟩
        exact handled exception rfl
      · rintro ⟨handled, _⟩ _ ⟨⟩
        exact handled exception rfl

theorem handled_argument_iff (arguments : List Str) (index : Nat) :
    Handled (argument arguments index) ↔ ∃ token, arguments[index]? = some token := by
  unfold argument
  cases found : arguments[index]? with
  | some token => simp
  | none =>
      refine iff_of_false ?_ (by simp)
      intro handled
      obtain ⟨what, same⟩ := handled _ rfl
      cases same

theorem argument_ok_iff {arguments : List Str} {index : Nat} {token : Str} :
    argument arguments index = .ok token ↔ arguments[index]? = some token := by
  unfold argument
  cases arguments[index]? <;> simp

end ParseException

open ParseException

/-- A field of a record link. -/
inductive LinkField
  | nelem
  | operation
  | adsPort
  | variableName

/-- The fields of the links of a function, in the order of their words. -/
def linkFields (function : Str) : List LinkField :=
  if takesNelem function then [.nelem, .operation, .adsPort, .variableName]
  else [.operation, .adsPort, .variableName]

/-- The text of an element count. -/
def countText (token : Str) : Str := (token.substrAfter "N=".toList 2).getD []

/-- The words that a field accepts. -/
def LinkField.accepts (token : Str) : LinkField → Bool
  | .nelem => countText token = [] ||
      match stol (countText token) 10 with
      | .ok count => 1 ≤ count && count ≤ 2 ^ 32 - 1
      | .error _ => false
  | .operation => token = "R".toList || token = "W".toList
  | .adsPort => adsPortMap (parseParamValue token) ≠ 0 ||
      match parseDecOrHexInt (parseParamValue token) with
      | .ok _ => true
      | .error _ => false
  | .variableName => parseParamValue token ≠ []

/-- The element count of a word is a number outside the range of a 64-bit `long`. -/
def CountOverflows (token : Str) : Prop := stol (countText token) 10 = .error .outOfRange

/-- From an index on, each field finds a word as long as the words before it are accepted. -/
def FindsWords (arguments : List Str) : Nat → List LinkField → Prop
  | _, [] => True
  | index, field :: fields => ∃ token, arguments[index]? = some token ∧
      (field.accepts token = true → FindsWords arguments (index + 1) fields)

/-- The condition on the words of a link: none is missing, and the element count of an array or a
string is not too large to be read. -/
def ParsesSafely (function : Str) (arguments : List Str) : Prop :=
  FindsWords arguments 0 (linkFields function) ∧
    (takesNelem function = true → ∀ token, arguments[0]? = some token → ¬ CountOverflows token)

/-- A parser of a field returns on the words that the field accepts and refuses the others. -/
structure Parses {α : Type} (field : LinkField) (parse : Str → Except ParseException α)
    (token : Str) : Prop where
  returns_iff : (∃ value, parse token = .ok value) ↔ field.accepts token = true
  handled : Handled (parse token)

theorem parses_operation (token : Str) : Parses .operation parseOperation token := by
  unfold parseOperation
  constructor
  · simp only [LinkField.accepts]
    split_ifs <;> simp_all
  · split_ifs <;> simp

theorem parses_adsPort (token : Str) : Parses .adsPort parseAdsPort token := by
  unfold parseAdsPort
  constructor
  · simp only [LinkField.accepts]
    split_ifs with named
    · simp [named]
    · cases parseDecOrHexInt (parseParamValue token) <;> simp [named]
  · dsimp only
    split_ifs
    · simp
    · cases parseDecOrHexInt (parseParamValue token) <;> simp

theorem parses_variableName (token : Str) : Parses .variableName parseVariableName token := by
  unfold parseVariableName
  constructor
  · simp only [LinkField.accepts]
    split_ifs <;> simp_all
  · split_ifs <;> simp

/-- An element count fits in 32 bits and is not 0. -/
def CountInRange (count : Int) : Prop := 1 ≤ count ∧ count ≤ 2 ^ 32 - 1

/-- The check of an element count. -/
def checkCount (text : Str) (count : Int) : Except ParseException Nat :=
  if count < 1 ∨ count > 2 ^ 32 - 1 then
    .error (.invalidArgument ("Invalid number of elements: ".toList ++ text))
  else .ok count.toNat

theorem checkCount_of_inRange {count : Int} (inside : CountInRange count) (text : Str) :
    checkCount text count = .ok count.toNat := by
  obtain ⟨above, below⟩ := inside
  exact if_neg (by omega)

theorem checkCount_of_not_inRange {count : Int} (outside : ¬ CountInRange count) (text : Str) :
    checkCount text count =
      .error (.invalidArgument ("Invalid number of elements: ".toList ++ text)) := by
  refine if_pos ?_
  by_contra inside
  exact outside ⟨by omega, by omega⟩

theorem handled_checkCount (text : Str) (count : Int) : Handled (checkCount text count) := by
  by_cases inside : CountInRange count
  · rw [checkCount_of_inRange inside]
    exact handled_ok _
  · rw [checkCount_of_not_inRange inside]
    exact handled_invalidArgument _

theorem parseNelemAutoparam_eq (token : Str) :
    parseNelemAutoparam token =
      if countText token = [] then .ok 0
      else stol (countText token) 10 >>= checkCount (countText token) := by
  unfold parseNelemAutoparam countText
  rcases token.substrAfter "N=".toList 2 with _ | _ | ⟨char, text⟩
  · rfl
  · rfl
  · rw [Option.getD_some, if_neg (List.cons_ne_nil _ _)]
    rfl

theorem stol_error {text : Str} {base : Nat} {exception : ParseException}
    (thrown : stol text base = .error exception) :
    exception = .invalidArgument "stol".toList ∨ exception = .outOfRange := by
  unfold stol at thrown
  dsimp only at thrown
  split at thrown
  · cases thrown
    exact .inl rfl
  · split_ifs at thrown
    all_goals
      cases thrown
      exact .inr rfl

theorem nelem_accepts_iff (token : Str) :
    LinkField.nelem.accepts token = true ↔
      countText token = [] ∨ ∃ count, stol (countText token) 10 = .ok count ∧
        CountInRange count := by
  rw [LinkField.accepts, Bool.or_eq_true, decide_eq_true_iff]
  refine or_congr Iff.rfl ?_
  cases stol (countText token) 10 with
  | error exception => simp
  | ok count => simp [CountInRange]

theorem nelem_returns_iff (token : Str) :
    (∃ value, parseNelemAutoparam token = .ok value) ↔ LinkField.nelem.accepts token = true := by
  rw [parseNelemAutoparam_eq, nelem_accepts_iff]
  by_cases absent : countText token = []
  · simp [absent]
  · rw [if_neg absent, or_iff_right absent]
    cases stol (countText token) 10 with
    | error exception => simp [bind, Except.bind]
    | ok count =>
        by_cases inside : CountInRange count
        · exact iff_of_true ⟨_, checkCount_of_inRange inside _⟩ ⟨count, rfl, inside⟩
        · refine iff_of_false ?_ (by simpa using inside)
          rintro ⟨value, returned⟩
          cases (checkCount_of_not_inRange inside _).symm.trans returned

theorem nelem_handled_iff (token : Str) :
    Handled (parseNelemAutoparam token) ↔ ¬ CountOverflows token := by
  rw [parseNelemAutoparam_eq, CountOverflows]
  by_cases absent : countText token = []
  · have no_number : stol ([] : Str) 10 ≠ .error .outOfRange := by decide
    simpa [absent] using no_number
  · rw [if_neg absent, handled_bind_iff]
    cases read : stol (countText token) 10 with
    | error exception =>
        rcases stol_error read with rfl | rfl
        · simp
        · refine iff_of_false ?_ (by simp)
          rintro ⟨handled, _⟩
          obtain ⟨what, same⟩ := handled _ rfl
          cases same
    | ok count => exact iff_of_true ⟨handled_ok _, fun _ _ => handled_checkCount _ _⟩ (by simp)

theorem handled_checkNelem (dataType : ADSDataType) (count : Nat) :
    Handled (checkNelem dataType count) := by
  unfold checkNelem
  split_ifs <;> simp

theorem handled_field_iff {α β : Type} {field : LinkField} {parse : Str → Except ParseException α}
    (returns_iff : ∀ token, (∃ value, parse token = .ok value) ↔ field.accepts token = true)
    {arguments : List Str} {index : Nat} {next : α → Except ParseException β} {rest : Prop}
    (next_iff : ∀ value, Handled (next value) ↔ rest) :
    Handled (argument arguments index >>= fun token => parse token >>= next) ↔
      ∃ token, arguments[index]? = some token ∧ Handled (parse token) ∧
        (field.accepts token = true → rest) := by
  simp only [handled_bind_iff, handled_argument_iff, argument_ok_iff, next_iff, ← returns_iff]
  constructor
  · rintro ⟨⟨token, found⟩, each⟩
    obtain ⟨handled, later⟩ := each token found
    exact ⟨token, found, handled, fun ⟨value, returned⟩ => later value returned⟩
  · rintro ⟨token, found, handled, later⟩
    refine ⟨⟨token, found⟩, fun other found' => ?_⟩
    obtain rfl : token = other := by simpa [found] using found'
    exact ⟨handled, fun value returned => later ⟨value, returned⟩⟩

theorem handled_parses_iff {α β : Type} {field : LinkField}
    {parse : Str → Except ParseException α} (parses : ∀ token, Parses field parse token)
    {arguments : List Str} {index : Nat} {fields : List LinkField}
    {next : α → Except ParseException β}
    (next_iff : ∀ value, Handled (next value) ↔ FindsWords arguments (index + 1) fields) :
    Handled (argument arguments index >>= fun token => parse token >>= next) ↔
      FindsWords arguments index (field :: fields) := by
  rw [handled_field_iff (fun token => (parses token).returns_iff) next_iff]
  constructor
  · rintro ⟨token, found, _, later⟩
    exact ⟨token, found, later⟩
  · rintro ⟨token, found, later⟩
    exact ⟨token, found, (parses token).handled, later⟩

theorem handled_build (dataType : ADSDataType) (count : Nat) (build : Nat → ADSAddress) :
    Handled (checkNelem dataType count >>= fun nelem => pure (build nelem)) := by
  rw [handled_bind_iff]
  exact ⟨handled_checkNelem dataType count, fun nelem _ => handled_ok (build nelem)⟩

theorem handled_words_iff (arguments : List Str) (index count : Nat) (dataType : ADSDataType) :
    Handled (do
      let operation ← parseOperation (← argument arguments index)
      let adsPort ← parseAdsPort (← argument arguments (index + 1))
      let variableName ← parseVariableName (← argument arguments (index + 2))
      let nelem ← checkNelem dataType count
      return ({ dataType, operation, variableName, adsPort, nelem } : ADSAddress)) ↔
      FindsWords arguments index [.operation, .adsPort, .variableName] := by
  refine handled_parses_iff parses_operation fun operation => ?_
  refine handled_parses_iff parses_adsPort fun adsPort => ?_
  refine handled_parses_iff parses_variableName fun variableName => ?_
  exact iff_true_intro (handled_build dataType count _)

theorem handled_ofFunction_iff {function : Str} {dataType : ADSDataType}
    (known : parseDataTypeAutoparam function = .ok dataType) (arguments : List Str) :
    Handled (ADSAddress.ofFunction function arguments) ↔ ParsesSafely function arguments := by
  unfold ADSAddress.ofFunction ParsesSafely linkFields
  rw [known]
  by_cases takes : takesNelem function = true
  · simp only [takes, if_true, true_implies]
    refine (handled_field_iff nelem_returns_iff fun count =>
      handled_words_iff arguments 1 count dataType).trans ?_
    simp only [nelem_handled_iff]
    constructor
    · rintro ⟨token, found, fits, later⟩
      refine ⟨⟨token, found, later⟩, fun other found' => ?_⟩
      obtain rfl : token = other := by simpa [found] using found'
      exact fits
    · rintro ⟨⟨token, found, later⟩, fits⟩
      exact ⟨token, found, fits token found, later⟩
  · simp only [takes, Bool.false_eq_true, if_false, false_implies, and_true]
    exact handled_words_iff arguments 0 0 dataType

theorem parseDeviceAddress_ok_iff (function arguments : Str) :
    (∃ result, parseDeviceAddress function arguments = .ok result) ↔
      Handled (ADSAddress.ofFunction function (splitArguments arguments)) := by
  unfold parseDeviceAddress
  rcases ADSAddress.ofFunction function (splitArguments arguments) with
    (what | _ | index) | address
  · exact iff_of_true ⟨none, rfl⟩ (handled_invalidArgument what)
  · refine iff_of_false (by simp) fun handled => ?_
    obtain ⟨what, same⟩ := handled _ rfl
    cases same
  · refine iff_of_false (by simp) fun handled => ?_
    obtain ⟨what, same⟩ := handled _ rfl
    cases same
  · exact iff_of_true ⟨some address, rfl⟩ (handled_ok address)

theorem registered_dataType : ∀ registration ∈ registeredHandlers,
    (parseDataTypeAutoparam registration.function).toOption.isSome = true := by
  decide

/-- On the links of a registered function, `parseDeviceAddress` returns an address or a null
pointer exactly when it parses them safely. -/
theorem parseDeviceAddress_returns_iff {registration : Registration}
    (registered : registration ∈ registeredHandlers) (arguments : Str) :
    (∃ result, parseDeviceAddress registration.function arguments = .ok result) ↔
      ParsesSafely registration.function (splitArguments arguments) := by
  cases known : parseDataTypeAutoparam registration.function with
  | error exception =>
      have some_type := registered_dataType registration registered
      rw [known] at some_type
      cases some_type
  | ok dataType =>
      exact (parseDeviceAddress_ok_iff _ _).trans (handled_ofFunction_iff known _)

theorem parseDeviceAddress_returns_sample :
    registerInteger .int .int16 .int32 ∈ registeredHandlers ∧
      ((∃ result, parseDeviceAddress "INT".toList "R P=851 V=Main.x".toList = .ok result) ↔
        ParsesSafely "INT".toList (splitArguments "R P=851 V=Main.x".toList)) := by
  have registered : registerInteger .int .int16 .int32 ∈ registeredHandlers := by decide
  exact ⟨registered, parseDeviceAddress_returns_iff registered "R P=851 V=Main.x".toList⟩

/-- A scalar link without a variable name reads a word that does not exist, and an element count of
`2 ^ 63` escapes as `std::out_of_range`. -/
theorem parseDeviceAddress_escapes :
    parseDeviceAddress "INT".toList "R P=851".toList = .error (.noArgument 2) ∧
      parseDeviceAddress "INT[]".toList "N=9223372036854775808 R P=851 V=Main.x".toList =
        .error .outOfRange ∧
      ¬ ∀ registration ∈ registeredHandlers, ∀ arguments,
        ∃ result, parseDeviceAddress registration.function arguments = .ok result := by
  have missing : parseDeviceAddress "INT".toList "R P=851".toList = .error (.noArgument 2) := by
    decide
  refine ⟨missing, by decide, fun always => ?_⟩
  obtain ⟨result, returned⟩ :=
    always (registerInteger .int .int16 .int32) (by decide) "R P=851".toList
  cases missing.symm.trans returned

end AdsDriver
