import AdsDriver.LinkErrors
import AdsDriver.Numerals

/-!
# The grammar of record links

A link is documented as an element count for arrays and strings, an operation, a port and a name, in
this order.  The constructor finds the text of a field behind an `=` wherever it stands, reads as
much of a number as it can and ignores the words after the name.
-/

namespace AdsDriver

open ParseException

/-- The word for an operation. -/
def Operation.text : Operation → Str
  | .read => "R".toList
  | .write => "W".toList

/-- The port that a text names or denotes. -/
def portText? (text : Str) : Option Nat :=
  match adsPortTable.lookup text with
  | some port => some port
  | none => (number? text).filter (· < 2 ^ 16)

/-- A word is written as documented for a field of an address. -/
def LinkField.Writes (address : ADSAddress) (token : Str) : LinkField → Prop
  | .nelem => ∃ count, token = "N=".toList ++ count ∧ numeral? 10 count = some address.nelem ∧
      1 ≤ address.nelem ∧ address.nelem < 2 ^ 32
  | .operation => token = address.operation.text
  | .adsPort => ∃ port, token = "P=".toList ++ port ∧ portText? port = some address.adsPort.toNat
  | .variableName => token = "V=".toList ++ address.variableName ∧ address.variableName ≠ []

/-- The words of a link are the documented ones of an unresolved address. -/
structure Describes (function : Str) (words : List Str) (address : ADSAddress) : Prop where
  written : List.Forall₂ (fun field token => field.Writes address token) (linkFields function) words
  dataType_eq : parseDataTypeAutoparam function = .ok address.dataType
  single : takesNelem function = false → address.nelem = 1
  unresolved : address.nameIsResolved = false
  no_group : address.indexGroup = 0
  no_offset : address.indexOffset = 0

/-- A link is accepted exactly when it is written as documented, and gives what it says. -/
def ParsesAsDocumented (function arguments : Str) : Prop :=
  ∀ address, parseDeviceAddress function arguments = .ok (some address) ↔
    Describes function (splitArguments arguments) address

/-- How a word that is read can differ from the documented ones: its key is another one, or what
follows is no numeral, or neither the name nor the number of a port. -/
def LinkField.Loose (token : Str) : LinkField → Prop
  | .nelem => ¬ "N=".toList <+: token ∨ numeral? 10 (countText token) = none
  | .operation => False
  | .adsPort => ¬ "P=".toList <+: token ∨ portText? (parseParamValue token) = none
  | .variableName => ¬ "V=".toList <+: token

/-- The words that a field of a function takes: those it accepts, with a count for strings. -/
def LinkField.takes (function token : Str) : LinkField → Bool
  | .nelem => LinkField.nelem.accepts token &&
      !((parseDataTypeAutoparam function).toOption = some .string && countText token = [])
  | .operation => LinkField.operation.accepts token
  | .adsPort => LinkField.adsPort.accepts token
  | .variableName => LinkField.variableName.accepts token

/-- Each field of a function takes its word, although one of these words is not written as
documented or more words follow. -/
def ReadLoosely (function : Str) (words : List Str) : Prop :=
  ∃ front back, words = front ++ back ∧
    List.Forall₂ (fun field token => field.takes function token = true)
      (linkFields function) front ∧
    (back ≠ [] ∨ ¬ List.Forall₂ (fun field token => ¬ field.Loose token)
      (linkFields function) front)

/-- The part of an address that the constructor makes from the word of a field. -/
def LinkField.Reads (address : ADSAddress) (token : Str) : LinkField → Prop
  | .nelem => ∃ count, parseNelemAutoparam token = .ok count ∧
      checkNelem address.dataType count = .ok address.nelem
  | .operation => parseOperation token = .ok address.operation
  | .adsPort => parseAdsPort token = .ok address.adsPort
  | .variableName => parseVariableName token = .ok address.variableName

theorem find_append_self (pattern rest : Str) : (pattern ++ rest).find pattern = some 0 := by
  cases pattern with
  | nil => cases rest <;> simp [Str.find]
  | cons char pattern => simp [Str.find]

@[simp]
theorem countText_append (count : Str) : countText ("N=".toList ++ count) = count := by
  unfold countText Str.substrAfter
  rw [find_append_self]
  have inside : ¬ ("N=".toList ++ count).length < u64 2 := by
    change ¬ ("N=".toList ++ count).length < 2
    rw [List.length_append]
    exact Nat.not_lt.mpr (Nat.le_add_right 2 _)
  dsimp only [Option.getD_some, Nat.zero_add]
  rw [if_neg inside]
  rfl

@[simp]
theorem parseParamValue_port (port : Str) : parseParamValue ("P=".toList ++ port) = port := by
  simp [parseParamValue, Str.find]

@[simp]
theorem parseParamValue_name (name : Str) : parseParamValue ("V=".toList ++ name) = name := by
  simp [parseParamValue, Str.find]

theorem parseOperation_eq_ok_iff {token : Str} {operation : Operation} :
    parseOperation token = .ok operation ↔ token = operation.text := by
  unfold parseOperation
  split_ifs with read write
  · subst read
    cases operation <;> simp [Operation.text]
  · subst write
    cases operation <;> simp [Operation.text]
  · cases operation <;> simp_all [Operation.text]

theorem parseNelemAutoparam_numeral {count : Str} {number : Nat}
    (written : numeral? 10 count = some number) :
    parseNelemAutoparam ("N=".toList ++ count) =
      if number < 2 ^ 63 then checkCount count number else .error .outOfRange := by
  have present : count ≠ [] := (numeral?_eq_some_iff.mp written).1
  rw [parseNelemAutoparam_eq, countText_append, if_neg present, stol_numeral written, asLong]
  split_ifs <;> rfl

theorem parseNelemAutoparam_zero_iff {token : Str} {count : Nat}
    (parsed : parseNelemAutoparam token = .ok count) : count = 0 ↔ countText token = [] := by
  rw [parseNelemAutoparam_eq] at parsed
  split_ifs at parsed with absent
  · obtain rfl := Except.ok.inj parsed
    simp [absent]
  · cases read : stol (countText token) 10 with
    | error exception =>
        rw [read] at parsed
        cases parsed
    | ok number =>
        rw [read] at parsed
        change checkCount (countText token) number = .ok count at parsed
        unfold checkCount at parsed
        split_ifs at parsed with outside
        obtain rfl := Except.ok.inj parsed
        refine iff_of_false ?_ absent
        omega

theorem adsPortTable_entries : ∀ entry ∈ adsPortTable, entry.2 ≠ 0 ∧ entry.2 < 2 ^ 16 := by
  decide

theorem parseAdsPort_portText {text : Str} {port : Nat} (written : portText? text = some port) :
    port < 2 ^ 16 ∧ parseAdsPort ("P=".toList ++ text) = .ok (UInt16.ofNat port) := by
  unfold portText? at written
  unfold parseAdsPort
  rw [parseParamValue_port]
  cases named : adsPortTable.lookup text with
  | some found =>
      obtain rfl : found = port := by simpa [named] using written
      obtain ⟨before, after, split, _⟩ := List.lookup_eq_some_iff.mp named
      obtain ⟨nonzero, small⟩ := adsPortTable_entries (text, found) (by simp [split])
      refine ⟨small, ?_⟩
      simp [adsPortMap, named, nonzero]
  | none =>
      obtain ⟨numeral, small⟩ : number? text = some port ∧ port < 2 ^ 16 := by
        simpa [named, Option.filter_eq_some_iff] using written
      have unnamed : adsPortMap text = 0 := by simp [adsPortMap, named]
      refine ⟨small, ?_⟩
      simp only [unnamed, ne_eq, not_true, if_false]
      rw [parseDecOrHexInt_number numeral, if_pos (by omega), Nat.mod_eq_of_lt (by omega)]

theorem parseVariableName_append {name : Str} :
    parseVariableName ("V=".toList ++ name) =
      if name = [] then .error (.invalidArgument "Variable name not specified".toList)
      else .ok name := by
  rw [parseVariableName, parseParamValue_name]

namespace LinkField

variable {address : ADSAddress} {token : Str}

/-- A word that is read and not loose is written for what it was read to. -/
theorem Reads.writes {field : LinkField} (read : field.Reads address token)
    (strict : ¬ field.Loose token) : field.Writes address token := by
  cases field with
  | nelem =>
      obtain ⟨counted, numeral⟩ := not_or.mp strict
      obtain ⟨count, rfl⟩ := not_not.mp counted
      rw [countText_append] at numeral
      obtain ⟨number, written⟩ := Option.ne_none_iff_exists'.mp numeral
      obtain ⟨result, parsed, checked⟩ := read
      rw [parseNelemAutoparam_numeral written] at parsed
      split_ifs at parsed
      unfold checkCount at parsed
      split_ifs at parsed with outside
      obtain rfl := Except.ok.inj parsed
      have nonzero : (number : Int).toNat ≠ 0 := by omega
      rw [checkNelem, if_neg fun missing => nonzero missing.2, if_neg nonzero,
        Int.toNat_natCast] at checked
      obtain nelem_eq : number = address.nelem := Except.ok.inj checked
      exact ⟨count, rfl, nelem_eq ▸ written, by omega, by omega⟩
  | operation => exact parseOperation_eq_ok_iff.mp read
  | adsPort =>
      obtain ⟨keyed, numeral⟩ := not_or.mp strict
      obtain ⟨text, rfl⟩ := not_not.mp keyed
      rw [parseParamValue_port] at numeral
      obtain ⟨port, written⟩ := Option.ne_none_iff_exists'.mp numeral
      obtain ⟨small, parsed⟩ := parseAdsPort_portText written
      obtain adsPort_eq : UInt16.ofNat port = address.adsPort :=
        Except.ok.inj (parsed.symm.trans read)
      refine ⟨text, rfl, ?_⟩
      rw [← adsPort_eq, UInt16.toNat_ofNat', Nat.mod_eq_of_lt small, written]
  | variableName =>
      obtain ⟨name, rfl⟩ := not_not.mp strict
      change parseVariableName _ = _ at read
      rw [parseVariableName_append] at read
      split_ifs at read with unnamed
      obtain rfl := Except.ok.inj read
      exact ⟨rfl, unnamed⟩

/-- A word that is written for an address is read to it, and is not loose. -/
theorem Writes.reads {field : LinkField} (written : field.Writes address token) :
    field.Reads address token ∧ ¬ field.Loose token := by
  cases field with
  | nelem =>
      obtain ⟨count, rfl, numeral, positive, small⟩ := written
      refine ⟨⟨address.nelem, ?_, ?_⟩, ?_⟩
      · rw [parseNelemAutoparam_numeral numeral, if_pos (by omega),
          checkCount_of_inRange ⟨by omega, by omega⟩, Int.toNat_natCast]
      · rw [checkNelem, if_neg (by omega), if_neg (by omega)]
      · rw [Loose, countText_append]
        simp [numeral]
  | operation => exact ⟨parseOperation_eq_ok_iff.mpr written, id⟩
  | adsPort =>
      obtain ⟨text, rfl, numeral⟩ := written
      refine ⟨?_, ?_⟩
      · unfold Reads
        rw [(parseAdsPort_portText numeral).2, UInt16.ofNat_toNat]
      · rw [Loose, parseParamValue_port]
        simp [numeral]
  | variableName =>
      obtain ⟨rfl, named⟩ := written
      refine ⟨?_, ?_⟩
      · unfold Reads
        rw [parseVariableName_append, if_neg named]
      · simp [Loose]

theorem takes_of_reads {function : Str} {field : LinkField}
    (known : parseDataTypeAutoparam function = .ok address.dataType)
    (read : field.Reads address token) : field.takes function token = true := by
  cases field with
  | nelem =>
      obtain ⟨count, parsed, checked⟩ := read
      have accepted := (nelem_returns_iff token).mp ⟨count, parsed⟩
      have present := parseNelemAutoparam_zero_iff parsed
      have refused : ¬ (address.dataType = .string ∧ count = 0) := by
        intro missing
        rw [checkNelem, if_pos missing] at checked
        cases checked
      rw [takes, accepted, known]
      simpa [Except.toOption, ← present, imp_iff_not_or] using refused
  | operation => exact (parses_operation token).returns_iff.mp ⟨_, read⟩
  | adsPort => exact (parses_adsPort token).returns_iff.mp ⟨_, read⟩
  | variableName => exact (parses_variableName token).returns_iff.mp ⟨_, read⟩

theorem nelem_of_takes {function : Str} {dataType : ADSDataType}
    (known : parseDataTypeAutoparam function = .ok dataType)
    (taken : LinkField.nelem.takes function token = true) :
    ∃ nelem count, parseNelemAutoparam token = .ok count ∧
      checkNelem dataType count = .ok nelem := by
  obtain ⟨accepted, with_count⟩ : _ ∧ _ := by simpa [takes] using taken
  obtain ⟨count, parsed⟩ := (nelem_returns_iff token).mpr accepted
  have present := parseNelemAutoparam_zero_iff parsed
  refine ⟨if count = 0 then 1 else count, count, parsed, ?_⟩
  rw [checkNelem, if_neg]
  rintro ⟨rfl, zero⟩
  rcases with_count with other | counted
  · exact other (by rw [known]; rfl)
  · exact counted (present.mp zero)

end LinkField

/-- Reading the words from an index on takes the word there first. -/
theorem exists_front_cons_iff {α β : Type} {related : α → β → Prop} {head : α} {rest : List α}
    {items : List β} {index : Nat} :
    (∃ front back, items.drop index = front ++ back ∧
        List.Forall₂ related (head :: rest) front) ↔
      ∃ item, items[index]? = some item ∧ related head item ∧
        ∃ front back, items.drop (index + 1) = front ++ back ∧ List.Forall₂ related rest front := by
  constructor
  · rintro ⟨_, back, split, lists⟩
    cases lists with
    | @cons _ item _ front first lists =>
        have at_index : items[index]? = some item := by
          rw [← Nat.add_zero index, ← List.getElem?_drop, split]
          rfl
        have later : items.drop (index + 1) = front ++ back := by
          rw [← List.drop_drop, split]
          rfl
        exact ⟨item, at_index, first, front, back, later, lists⟩
  · rintro ⟨item, at_index, first, front, back, later, lists⟩
    refine ⟨item :: front, back, ?_, .cons first lists⟩
    obtain ⟨inside, rfl⟩ := List.getElem?_eq_some_iff.mp at_index
    rw [List.drop_eq_getElem_cons inside, later]
    rfl

theorem exists_front_nil_iff {α β : Type} {related : α → β → Prop} {items : List β} {index : Nat} :
    (∃ front back, items.drop index = front ++ back ∧ List.Forall₂ related [] front) ↔ True :=
  iff_true_intro ⟨[], items.drop index, rfl, .nil⟩

theorem ADSAddress.eq_of_unresolved {address : ADSAddress}
    (unresolved : address.nameIsResolved = false) (no_group : address.indexGroup = 0)
    (no_offset : address.indexOffset = 0) :
    { dataType := address.dataType
      operation := address.operation
      variableName := address.variableName
      adsPort := address.adsPort
      nelem := address.nelem } = address := by
  cases address
  simp_all

/-- The constructor reads one word for each field and ignores the words after them. -/
theorem ofFunction_eq_ok_iff {function : Str} {words : List Str} {address : ADSAddress}
    (not_string : takesNelem function = false →
      parseDataTypeAutoparam function ≠ .ok .string) :
    ADSAddress.ofFunction function words = .ok address ↔
      (∃ front back, words = front ++ back ∧
        List.Forall₂ (fun field token => field.Reads address token) (linkFields function) front) ∧
      parseDataTypeAutoparam function = .ok address.dataType ∧
      (takesNelem function = false → address.nelem = 1) ∧
      address.nameIsResolved = false ∧ address.indexGroup = 0 ∧ address.indexOffset = 0 := by
  conv_rhs => rw [← List.drop_zero (l := words)]
  unfold ADSAddress.ofFunction linkFields
  by_cases takes : takesNelem function = true
  · simp only [takes, if_true, bind_eq_ok_iff, argument_ok_iff, exists_front_cons_iff,
      exists_front_nil_iff]
    constructor
    · rintro ⟨dataType, known, first, at_first, count, counted, second, at_second, operation,
        operated, third, at_third, adsPort, ported, fourth, at_fourth, name, named, nelem, checked,
        built⟩
      obtain rfl := Except.ok.inj built
      exact ⟨⟨first, at_first, ⟨count, counted, checked⟩, second, at_second, operated, third,
        at_third, ported, fourth, at_fourth, named, trivial⟩, known, by simp, rfl, rfl, rfl⟩
    · rintro ⟨⟨first, at_first, ⟨count, counted, checked⟩, second, at_second, operated, third,
        at_third, ported, fourth, at_fourth, named, _⟩, known, _, unresolved, no_group, no_offset⟩
      refine ⟨_, known, first, at_first, count, counted, second, at_second, _, operated, third,
        at_third, _, ported, fourth, at_fourth, _, named, _, checked, ?_⟩
      exact congrArg Except.ok (ADSAddress.eq_of_unresolved unresolved no_group no_offset)
  · simp only [Bool.not_eq_true] at takes
    simp only [takes, Bool.false_eq_true, if_false, bind_eq_ok_iff, argument_ok_iff,
      exists_front_cons_iff, exists_front_nil_iff]
    constructor
    · rintro ⟨dataType, known, first, at_first, operation, operated, second, at_second, adsPort,
        ported, third, at_third, name, named, nelem, checked, built⟩
      obtain rfl := Except.ok.inj built
      exact ⟨⟨first, at_first, operated, second, at_second, ported, third, at_third, named,
        trivial⟩, known, fun _ => checkNelem_zero checked, rfl, rfl, rfl⟩
    · rintro ⟨⟨first, at_first, operated, second, at_second, ported, third, at_third, named, _⟩,
        known, single, unresolved, no_group, no_offset⟩
      have checked : checkNelem address.dataType 0 = .ok address.nelem := by
        have other : address.dataType ≠ .string := fun same => not_string takes (same ▸ known)
        rw [checkNelem, if_neg (by simp [other]), single trivial]
        rfl
      refine ⟨_, known, first, at_first, _, operated, second, at_second, _, ported, third,
        at_third, _, named, _, checked, ?_⟩
      exact congrArg Except.ok (ADSAddress.eq_of_unresolved unresolved no_group no_offset)

/-- The constructor makes the address that the words of a link describe. -/
theorem Describes.ofFunction {function : Str} {words : List Str} {address : ADSAddress}
    (described : Describes function words address)
    (not_string : takesNelem function = false →
      parseDataTypeAutoparam function ≠ .ok .string) :
    ADSAddress.ofFunction function words = .ok address := by
  refine (ofFunction_eq_ok_iff not_string).mpr ⟨⟨words, [], (List.append_nil _).symm, ?_⟩,
    described.dataType_eq, described.single, described.unresolved, described.no_group,
    described.no_offset⟩
  exact described.written.imp fun field token written => written.reads.1

/-- Words that are taken make an address. -/
theorem exists_reads {function : Str} {dataType : ADSDataType}
    (known : parseDataTypeAutoparam function = .ok dataType) {front : List Str}
    (taken : List.Forall₂ (fun field token => field.takes function token = true)
      (linkFields function) front) :
    ∃ address : ADSAddress,
      List.Forall₂ (fun field token => field.Reads address token) (linkFields function) front ∧
      address.dataType = dataType ∧ (takesNelem function = false → address.nelem = 1) ∧
      address.nameIsResolved = false ∧ address.indexGroup = 0 ∧ address.indexOffset = 0 := by
  have operation_of {token : Str} (accepted : LinkField.operation.takes function token = true) :
      ∃ operation, parseOperation token = .ok operation :=
    (parses_operation token).returns_iff.mpr accepted
  have port_of {token : Str} (accepted : LinkField.adsPort.takes function token = true) :
      ∃ adsPort, parseAdsPort token = .ok adsPort :=
    (parses_adsPort token).returns_iff.mpr accepted
  have name_of {token : Str} (accepted : LinkField.variableName.takes function token = true) :
      ∃ name, parseVariableName token = .ok name :=
    (parses_variableName token).returns_iff.mpr accepted
  unfold linkFields at taken ⊢
  by_cases takes : takesNelem function = true
  · rw [if_pos takes] at taken ⊢
    rcases taken with _ | ⟨first, _ | ⟨second, _ | ⟨third, _ | ⟨fourth, _ | _⟩⟩⟩⟩
    obtain ⟨nelem, count, counted, checked⟩ := LinkField.nelem_of_takes known first
    obtain ⟨operation, operated⟩ := operation_of second
    obtain ⟨adsPort, ported⟩ := port_of third
    obtain ⟨variableName, named⟩ := name_of fourth
    refine ⟨{ dataType, operation, variableName, adsPort, nelem }, ?_, rfl, by simp [takes], rfl,
      rfl, rfl⟩
    exact .cons ⟨count, counted, checked⟩ (.cons operated (.cons ported (.cons named .nil)))
  · rw [if_neg takes] at taken ⊢
    rcases taken with _ | ⟨first, _ | ⟨second, _ | ⟨third, _ | _⟩⟩⟩
    obtain ⟨operation, operated⟩ := operation_of first
    obtain ⟨adsPort, ported⟩ := port_of second
    obtain ⟨variableName, named⟩ := name_of third
    refine ⟨{ dataType, operation, variableName, adsPort, nelem := 1 }, ?_, rfl, fun _ => rfl, rfl,
      rfl, rfl⟩
    exact .cons operated (.cons ported (.cons named .nil))

theorem registered_not_string : ∀ registration ∈ registeredHandlers,
    takesNelem registration.function = false →
      parseDataTypeAutoparam registration.function ≠ .ok .string := by
  decide

/-- For a registered function a link is accepted exactly when it is written as documented, and gives
what it says, unless each field takes its word although one of these words is not written as
documented or more words follow. -/
theorem parsesAsDocumented_iff {registration : Registration}
    (registered : registration ∈ registeredHandlers) (arguments : Str) :
    ParsesAsDocumented registration.function arguments ↔
      ¬ ReadLoosely registration.function (splitArguments arguments) := by
  have not_string := registered_not_string registration registered
  have some_type := registered_dataType registration registered
  generalize registration.function = function at not_string some_type
  unfold ParsesAsDocumented
  simp only [parseDeviceAddress_eq_some_iff, ofFunction_eq_ok_iff not_string]
  generalize splitArguments arguments = words
  constructor
  · rintro documented ⟨front, back, rfl, taken, loosely⟩
    cases known : parseDataTypeAutoparam function with
    | error exception =>
        rw [known] at some_type
        cases some_type
    | ok dataType =>
        obtain ⟨address, read, dataType_eq, rest⟩ := exists_reads known taken
        have described : Describes function (front ++ back) address :=
          (documented address).mp ⟨⟨front, back, rfl, read⟩, dataType_eq ▸ known, rest⟩
        have lengths := described.written.length_eq.symm.trans taken.length_eq
        obtain rfl : back = [] := by simpa using lengths
        have written := described.written
        rw [List.append_nil] at written
        rcases loosely with more | loose
        · exact more rfl
        · exact loose (written.imp fun field token written => written.reads.2)
  · intro strict address
    constructor
    · rintro ⟨⟨front, back, rfl, read⟩, known, single, unresolved, no_group, no_offset⟩
      have taken : List.Forall₂ (fun field token => field.takes function token = true)
          (linkFields function) front :=
        read.imp fun field token => LinkField.takes_of_reads known
      obtain ⟨no_more, none_loose⟩ : back = [] ∧
          List.Forall₂ (fun field token => ¬ field.Loose token) (linkFields function) front := by
        by_contra loosely
        exact strict ⟨front, back, rfl, taken, by rwa [← Classical.not_and_iff_not_or_not]⟩
      subst no_more
      refine ⟨?_, known, single, unresolved, no_group, no_offset⟩
      rw [List.append_nil]
      exact none_loose.mp (fun field token strict read => read.writes strict) read
    · intro described
      exact (ofFunction_eq_ok_iff not_string).mp (described.ofFunction not_string)

theorem parsesAsDocumented_sample :
    registerInteger .int .int16 .int32 ∈ registeredHandlers ∧
      (ParsesAsDocumented "INT".toList "R P=851 V=Main.x".toList ↔
        ¬ ReadLoosely "INT".toList (splitArguments "R P=851 V=Main.x".toList)) := by
  have registered : registerInteger .int .int16 .int32 ∈ registeredHandlers := by decide
  exact ⟨registered, parsesAsDocumented_iff registered "R P=851 V=Main.x".toList⟩

/-- The address of a 16-bit integer at port 1. -/
def addressAtPortOne : ADSAddress :=
  { dataType := .int
    operation := .read
    variableName := "Main.x".toList
    adsPort := 1
    nelem := 1 }

/-- Port 65537 is taken for port 1, and any key will do. -/
theorem parsesAsDocumented_fails :
    parseDeviceAddress "INT".toList "R Q=65537 W=Main.x".toList = .ok (some addressAtPortOne) ∧
      ¬ ∀ registration ∈ registeredHandlers, ∀ arguments,
        ParsesAsDocumented registration.function arguments := by
  have accepted : parseDeviceAddress "INT".toList "R Q=65537 W=Main.x".toList =
      .ok (some addressAtPortOne) := by decide
  refine ⟨accepted, fun always => ?_⟩
  have described := (always (registerInteger .int .int16 .int32) (by decide)
    "R Q=65537 W=Main.x".toList _).mp accepted
  have words : splitArguments "R Q=65537 W=Main.x".toList =
      ["R".toList, "Q=65537".toList, "W=Main.x".toList] := by decide
  have written := described.written
  rw [words] at written
  change List.Forall₂ _ [LinkField.operation, .adsPort, .variableName] _ at written
  obtain ⟨_, _, name, _⟩ : _ ∧ _ ∧ _ ∧ _ := by
    simpa only [List.forall₂_cons] using written
  exact absurd name.1 (by decide)

end AdsDriver
