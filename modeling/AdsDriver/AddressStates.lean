import AdsDriver.Data.Runs
import AdsDriver.Specifiers

/-!
# The states of an address

An address made from a name is resolved and unresolved in turn.  One made from an index group and an
index offset is meant to be resolved for good, which its constructor infers from the two numbers.
-/

namespace AdsDriver

open ParseException Runs

/-- A call of `resolve` or `unresolve`. -/
inductive AddressCall
  | resolve (adsIndexGroup adsIndexOffset : UInt32)
  | unresolve
  deriving DecidableEq

namespace ADSAddress

/-- The code that a call returns, and the address after it. -/
def call (address : ADSAddress) : AddressCall → Int × ADSAddress
  | .resolve adsIndexGroup adsIndexOffset => address.resolve adsIndexGroup adsIndexOffset
  | .unresolve => address.unresolve

/-- The address after a call. -/
def afterCall (address : ADSAddress) (call : AddressCall) : ADSAddress := (address.call call).2

/-- An address together with the calls that had an effect on it. -/
def record (history : ADSAddress × List AddressCall) (call : AddressCall) :
    ADSAddress × List AddressCall :=
  if (history.1.call call).1 = 0 then (history.1.afterCall call, history.2 ++ [call])
  else (history.1.afterCall call, history.2)

/-- The calls of a list that have an effect. -/
def effectiveCalls (address : ADSAddress) (calls : List AddressCall) : List AddressCall :=
  (run record (address, []) calls).2

theorem run_record (address : ADSAddress) (calls : List AddressCall) :
    run record (address, []) calls =
      (run afterCall address calls, address.effectiveCalls calls) := by
  have first : (run record (address, []) calls).1 = run afterCall address calls := by
    induction calls using List.reverseRecOn with
    | nil => rfl
    | append_singleton calls call ih =>
        rw [run_concat, run_concat, ← ih, record]
        split_ifs
        · rfl
        · rfl
  exact Prod.ext first rfl

end ADSAddress

/-- What an address is made from. -/
inductive AddressSource
  | specifier (address : Str)
  | link (function : Str) (arguments : List Str)
  deriving DecidableEq

namespace AddressSource

/-- The constructor that takes this source. -/
def construct : AddressSource → Except ParseException ADSAddress
  | specifier address => ADSAddress.ofSpecifier address
  | link function arguments => ADSAddress.ofFunction function arguments

/-- The texts of the index group and the index offset, for an address given by them. -/
def registerTexts? : AddressSource → Option (Str × Str)
  | specifier address =>
      match tokenize address with
      | _ :: _ :: _ :: group :: offset :: _ =>
          if givesRegister group then some (parseParamValue group, parseParamValue offset) else none
      | _ => none
  | link _ _ => none

end AddressSource

/-- The state of an address given by an index group and an index offset: resolved to the two numbers
and closed to all calls. -/
structure RegisterState (group offset : Str) (address : ADSAddress) : Prop where
  resolved : address.nameIsResolved = true
  group_eq : number? group = some address.indexGroup.toNat
  offset_eq : number? offset = some address.indexOffset.toNat
  refuses : ∀ call, address.call call = (epicsadsInvCall, address)

/-- The state of an address given by name after the calls that had an effect. -/
structure NamedState (effective : List AddressCall) (address : ADSAddress) : Prop where
  resolved_iff : address.nameIsResolved = true ↔
    ∃ group offset, effective.getLast? = some (.resolve group offset)
  carries : ∀ group offset, effective.getLast? = some (.resolve group offset) →
    address.indexGroup = group ∧ address.indexOffset = offset
  cleared : address.nameIsResolved = false → address.indexGroup = 0 ∧ address.indexOffset = 0
  rejects : address.nameIsResolved = true → ∀ group offset,
    address.resolve group offset = (epicsadsInvCall, address)

/-- Whatever is called on an address, it is in the state that its source asks for. -/
structure FollowsStates (source : AddressSource) (address : ADSAddress) : Prop where
  register : ∀ group offset, source.registerTexts? = some (group, offset) → ∀ calls,
    RegisterState group offset (run ADSAddress.afterCall address calls)
  named : source.registerTexts? = none → ∀ calls,
    NamedState (address.effectiveCalls calls) (run ADSAddress.afterCall address calls)

/-- The two texts are numerals of 32 bits, and not both are 0. -/
def DenotesRegister (group offset : Str) : Prop :=
  ∃ indexGroup indexOffset, number? group = some indexGroup ∧ number? offset = some indexOffset ∧
    indexGroup < 2 ^ 32 ∧ indexOffset < 2 ^ 32 ∧ (indexGroup ≠ 0 ∨ indexOffset ≠ 0)

/-- A new address given by an index group and an index offset. -/
structure ADSAddress.NewRegister (group offset : Str) (address : ADSAddress) : Prop where
  nameless : address.variableName = []
  group_ok : ∃ indexGroup, parseDecOrHexInt group = .ok indexGroup ∧
    address.indexGroup = UInt32.ofNat indexGroup
  offset_ok : ∃ indexOffset, parseDecOrHexInt offset = .ok indexOffset ∧
    address.indexOffset = UInt32.ofNat indexOffset
  resolved_eq : address.nameIsResolved =
    (decide (address.indexGroup ≠ 0) || decide (address.indexOffset ≠ 0))

/-- A new address given by name. -/
structure ADSAddress.NewNamed (address : ADSAddress) : Prop where
  named : address.variableName ≠ []
  unresolved : address.nameIsResolved = false
  no_group : address.indexGroup = 0
  no_offset : address.indexOffset = 0

theorem parseIndexGroup_eq_ok_iff {text : Str} {group : UInt32} :
    parseIndexGroup text = .ok group ↔
      ∃ number, parseDecOrHexInt (parseParamValue text) = .ok number ∧
        group = UInt32.ofNat number := by
  unfold parseIndexGroup
  cases parseDecOrHexInt (parseParamValue text) <;> simp [eq_comm]

theorem parseIndexOffset_eq_ok_iff {text : Str} {offset : UInt32} :
    parseIndexOffset text = .ok offset ↔
      ∃ number, parseDecOrHexInt (parseParamValue text) = .ok number ∧
        offset = UInt32.ofNat number := by
  unfold parseIndexOffset
  cases parseDecOrHexInt (parseParamValue text) <;> simp [eq_comm]

theorem parseRegisterSpecifier_spec {group : Str} {rest : List Str} {location : Location}
    (parsed : parseRegisterSpecifier group rest = .ok location) :
    ∃ offset later, rest = offset :: later ∧ location.variableName = [] ∧
      parseIndexGroup group = .ok location.indexGroup ∧
      parseIndexOffset offset = .ok location.indexOffset := by
  unfold parseRegisterSpecifier at parsed
  obtain ⟨indexGroup, group_ok, parsed⟩ := bind_eq_ok_iff.mp parsed
  match rest with
  | [] => cases parsed
  | [offset] =>
      obtain ⟨indexOffset, offset_ok, parsed⟩ := bind_eq_ok_iff.mp parsed
      cases parsed
      exact ⟨offset, [], rfl, rfl, group_ok, offset_ok⟩
  | offset :: delay :: later =>
      obtain ⟨indexOffset, offset_ok, parsed⟩ := bind_eq_ok_iff.mp parsed
      obtain ⟨_, _, parsed⟩ := bind_eq_ok_iff.mp parsed
      cases parsed
      exact ⟨offset, delay :: later, rfl, rfl, group_ok, offset_ok⟩

theorem parseVariableSpecifier_spec {name : Str} {rest : List Str} {location : Location}
    (parsed : parseVariableSpecifier name rest = .ok location) :
    location.variableName ≠ [] ∧ location.indexGroup = 0 ∧ location.indexOffset = 0 := by
  unfold parseVariableSpecifier at parsed
  obtain ⟨variableName, name_ok, parsed⟩ := bind_eq_ok_iff.mp parsed
  have named := parseVariableName_ne_nil name_ok
  cases rest with
  | nil =>
      cases parsed
      exact ⟨named, rfl, rfl⟩
  | cons delay later =>
      obtain ⟨_, _, parsed⟩ := bind_eq_ok_iff.mp parsed
      cases parsed
      exact ⟨named, rfl, rfl⟩

/-- An address from a specifier has the location that the fourth token asks for. -/
theorem ADSAddress.ofSpecifier_spec {text : Str} {address : ADSAddress}
    (built : ADSAddress.ofSpecifier text = .ok address) :
    ∃ typeToken operation port token rest location,
      tokenize text = typeToken :: operation :: port :: token :: rest ∧
      (if givesRegister token then parseRegisterSpecifier token rest
        else parseVariableSpecifier token rest) = .ok location ∧
      address.variableName = location.variableName ∧ address.indexGroup = location.indexGroup ∧
      address.indexOffset = location.indexOffset ∧
      address.nameIsResolved =
        (decide (location.indexGroup ≠ 0) || decide (location.indexOffset ≠ 0)) := by
  unfold ADSAddress.ofSpecifier at built
  split at built
  · rename_i typeToken operation port token rest tokens
    refine ⟨typeToken, operation, port, token, rest, ?_⟩
    obtain ⟨_, _, built⟩ := bind_eq_ok_iff.mp built
    obtain ⟨_, _, built⟩ := bind_eq_ok_iff.mp built
    obtain ⟨_, _, built⟩ := bind_eq_ok_iff.mp built
    obtain ⟨_, _, built⟩ := bind_eq_ok_iff.mp built
    dsimp only at built
    split_ifs at built ⊢ with register
    all_goals
      obtain ⟨location, located, built⟩ := bind_eq_ok_iff.mp built
      obtain ⟨_, _, built⟩ := bind_eq_ok_iff.mp built
      cases built
      exact ⟨location, tokens, located, rfl, rfl, rfl, rfl⟩
  · cases built

theorem ADSAddress.ofFunction_new {function : Str} {arguments : List Str} {address : ADSAddress}
    (built : ADSAddress.ofFunction function arguments = .ok address) : address.NewNamed := by
  have parsed := ADSAddress.ofFunction_parsed built
  have no_register := ADSAddress.ofFunction_unresolved built
  exact ⟨parsed.named, parsed.unresolved, no_register.1, no_register.2⟩

/-- What the two constructors make of a register. -/
theorem AddressSource.construct_register {source : AddressSource} {address : ADSAddress}
    (built : source.construct = .ok address) {group offset : Str}
    (texts : source.registerTexts? = some (group, offset)) : address.NewRegister group offset := by
  unfold construct at built
  cases source with
  | link function arguments => cases texts
  | specifier text =>
      obtain ⟨typeToken, operation, port, token, rest, location, tokens, located, name_eq,
        group_eq, offset_eq, resolved_eq⟩ := ADSAddress.ofSpecifier_spec built
      rw [registerTexts?, tokens] at texts
      cases rest with
      | nil => cases texts
      | cons offsetToken later =>
          dsimp only at texts
          split_ifs at texts with register
          cases texts
          rw [if_pos register] at located
          obtain ⟨_, _, same, nameless, group_ok, offset_ok⟩ := parseRegisterSpecifier_spec located
          cases same
          refine ⟨name_eq.trans nameless, ?_, ?_, by rw [resolved_eq, group_eq, offset_eq]⟩
          · rw [group_eq]
            exact parseIndexGroup_eq_ok_iff.mp group_ok
          · rw [offset_eq]
            exact parseIndexOffset_eq_ok_iff.mp offset_ok

/-- What the two constructors make of a name. -/
theorem AddressSource.construct_named {source : AddressSource} {address : ADSAddress}
    (built : source.construct = .ok address) (texts : source.registerTexts? = none) :
    address.NewNamed := by
  unfold construct at built
  cases source with
  | link function arguments => exact ADSAddress.ofFunction_new built
  | specifier text =>
      obtain ⟨typeToken, operation, port, token, rest, location, tokens, located, name_eq,
        group_eq, offset_eq, resolved_eq⟩ := ADSAddress.ofSpecifier_spec built
      have not_register : ¬ givesRegister token = true := by
        intro register
        rw [if_pos register] at located
        obtain ⟨_, _, rfl, _⟩ := parseRegisterSpecifier_spec located
        rw [registerTexts?, tokens] at texts
        simp [register] at texts
      rw [if_neg not_register] at located
      obtain ⟨named, no_group, no_offset⟩ := parseVariableSpecifier_spec located
      refine ⟨by rwa [name_eq], ?_, group_eq.trans no_group, offset_eq.trans no_offset⟩
      rw [resolved_eq, no_group, no_offset]
      rfl

namespace ADSAddress

theorem call_of_register {address : ADSAddress} (nameless : address.variableName = [])
    (resolved : address.nameIsResolved = true) (call : AddressCall) :
    address.call call = (epicsadsInvCall, address) := by
  cases call with
  | resolve group offset => exact if_pos resolved
  | unresolve => exact if_pos nameless

theorem run_of_register {address : ADSAddress} (nameless : address.variableName = [])
    (resolved : address.nameIsResolved = true) (calls : List AddressCall) :
    run afterCall address calls = address := by
  induction calls using List.reverseRecOn with
  | nil => rfl
  | append_singleton calls call ih =>
      rw [run_concat, ih, afterCall, call_of_register nameless resolved]

theorem call_of_named {address : ADSAddress} (named : address.variableName ≠ [])
    (call : AddressCall) :
    (∃ group offset, call = .resolve group offset ∧ address.nameIsResolved = true ∧
        address.call call = (epicsadsInvCall, address)) ∨
      (∃ group offset, call = .resolve group offset ∧ address.call call =
        (0, { address with indexGroup := group, indexOffset := offset, nameIsResolved := true })) ∨
      (call = .unresolve ∧ address.call call =
        (0, { address with indexGroup := 0, indexOffset := 0, nameIsResolved := false })) := by
  cases call with
  | resolve group offset =>
      cases resolved : address.nameIsResolved with
      | true => exact .inl ⟨group, offset, rfl, rfl, if_pos resolved⟩
      | false => exact .inr (.inl ⟨group, offset, rfl, resolve_of_unresolved resolved group offset⟩)
  | unresolve => exact .inr (.inr ⟨rfl, unresolve_of_name named⟩)

theorem afterCall_name (address : ADSAddress) (call : AddressCall) :
    (address.afterCall call).variableName = address.variableName := by
  cases call with
  | resolve group offset =>
      unfold afterCall ADSAddress.call resolve
      split_ifs <;> rfl
  | unresolve =>
      unfold afterCall ADSAddress.call unresolve
      split_ifs <;> rfl

theorem run_name (address : ADSAddress) (calls : List AddressCall) :
    (run afterCall address calls).variableName = address.variableName :=
  run_invariant (fun reached : ADSAddress => reached.variableName = address.variableName)
    (fun reached call same => (afterCall_name reached call).trans same) rfl calls

end ADSAddress

theorem ADSAddress.NewNamed.start {address : ADSAddress} (new : address.NewNamed) :
    NamedState [] address := by
  constructor
  · simp [new.unresolved]
  · simp
  · exact fun _ => ⟨new.no_group, new.no_offset⟩
  · exact fun resolved => by simp [new.unresolved] at resolved

/-- A call keeps the state that belongs to the calls with an effect. -/
theorem NamedState.step {effective : List AddressCall} {address : ADSAddress}
    (named : address.variableName ≠ []) (state : NamedState effective address)
    (call : AddressCall) :
    NamedState (ADSAddress.record (address, effective) call).2
      (ADSAddress.record (address, effective) call).1 := by
  unfold ADSAddress.record ADSAddress.afterCall
  rcases ADSAddress.call_of_named named call with
    ⟨group, offset, rfl, resolved, call_eq⟩ | ⟨group, offset, rfl, call_eq⟩ | ⟨rfl, call_eq⟩
  · have refused : epicsadsInvCall ≠ 0 := by decide
    rw [call_eq, if_neg refused]
    exact state
  · rw [call_eq, if_pos rfl]
    constructor
    · simp
    · intro newGroup newOffset last
      simpa using last
    · simp
    · intro resolved newGroup newOffset
      exact if_pos resolved
  · rw [call_eq, if_pos rfl]
    constructor
    · simp
    · simp
    · exact fun _ => ⟨rfl, rfl⟩
    · simp

/-- An address given by name is in the state of its calls. -/
theorem ADSAddress.NewNamed.run {address : ADSAddress} (new : address.NewNamed)
    (calls : List AddressCall) :
    NamedState (address.effectiveCalls calls) (Runs.run ADSAddress.afterCall address calls) := by
  suffices state : NamedState (Runs.run ADSAddress.record (address, []) calls).2
      (Runs.run ADSAddress.record (address, []) calls).1 by
    rwa [ADSAddress.run_record] at state
  induction calls using List.reverseRecOn with
  | nil => exact new.start
  | append_singleton calls call ih =>
      rw [run_concat]
      refine ih.step ?_ call
      rw [ADSAddress.run_record, ADSAddress.run_name]
      exact new.named

/-- The address of a denoted register. -/
theorem ADSAddress.NewRegister.of_denoted {group offset : Str} {address : ADSAddress}
    (new : address.NewRegister group offset) (denoted : DenotesRegister group offset) :
    address.nameIsResolved = true ∧ number? group = some address.indexGroup.toNat ∧
      number? offset = some address.indexOffset.toNat := by
  obtain ⟨indexGroup, indexOffset, group_is, offset_is, group_small, offset_small, nonzero⟩ :=
    denoted
  have toNat_eq {text : Str} {number : Nat} (written : number? text = some number)
      (small : number < 2 ^ 32) {field : UInt32}
      (taken : ∃ value, parseDecOrHexInt text = .ok value ∧ field = UInt32.ofNat value) :
      field.toNat = number := by
    obtain ⟨value, parsed, rfl⟩ := taken
    rw [parseDecOrHexInt_number written, if_pos (by omega), Nat.mod_eq_of_lt small] at parsed
    cases parsed
    exact UInt32.toNat_ofNat_of_lt' small
  have group_eq := toNat_eq group_is group_small new.group_ok
  have offset_eq := toNat_eq offset_is offset_small new.offset_ok
  refine ⟨?_, by rw [group_is, group_eq], by rw [offset_is, offset_eq]⟩
  rw [new.resolved_eq, Bool.or_eq_true, decide_eq_true_eq, decide_eq_true_eq]
  refine nonzero.imp ?_ ?_
  · rintro nonzero zero
    exact nonzero (by rw [← group_eq, zero]; rfl)
  · rintro nonzero zero
    exact nonzero (by rw [← offset_eq, zero]; rfl)

/-- An address is in the state that its source asks for through all calls exactly when it is given
by name or by the numerals of a register that is not 0 in both numbers. -/
theorem followsStates_iff {source : AddressSource} {address : ADSAddress}
    (built : source.construct = .ok address) :
    FollowsStates source address ↔
      ∀ group offset, source.registerTexts? = some (group, offset) →
        DenotesRegister group offset := by
  constructor
  · intro follows group offset texts
    have new := AddressSource.construct_register built texts
    obtain ⟨resolved, group_eq, offset_eq, _⟩ := follows.register group offset texts []
    refine ⟨_, _, group_eq, offset_eq, UInt32.toNat_lt _, UInt32.toNat_lt _, ?_⟩
    rw [run_nil, new.resolved_eq, Bool.or_eq_true, decide_eq_true_eq, decide_eq_true_eq] at resolved
    refine resolved.imp ?_ ?_
    · exact fun nonzero zero => nonzero (UInt32.toNat_inj.mp zero)
    · exact fun nonzero zero => nonzero (UInt32.toNat_inj.mp zero)
  · intro denoted
    refine ⟨fun group offset texts calls => ?_, fun texts calls => ?_⟩
    · have new := AddressSource.construct_register built texts
      obtain ⟨resolved, group_eq, offset_eq⟩ := new.of_denoted (denoted group offset texts)
      rw [ADSAddress.run_of_register new.nameless resolved]
      exact ⟨resolved, group_eq, offset_eq, ADSAddress.call_of_register new.nameless resolved⟩
    · exact (AddressSource.construct_named built texts).run calls

/-- A 16-bit integer at index group `0x4020` and index offset 12. -/
def registerSource : AddressSource := .specifier "INT R P=851 G=0x4020 O=12".toList

/-- The address made from it. -/
def registerAddress : ADSAddress :=
  { dataType := .int
    operation := .read
    variableName := []
    adsPort := 851
    indexGroup := 0x4020
    indexOffset := 12
    nelem := 1
    nameIsResolved := true }

theorem followsStates_sample :
    registerSource.construct = .ok registerAddress ∧
      (FollowsStates registerSource registerAddress ↔
        ∀ group offset, registerSource.registerTexts? = some (group, offset) →
          DenotesRegister group offset) := by
  have built : registerSource.construct = .ok registerAddress := by decide
  exact ⟨built, followsStates_iff built⟩

/-- The register 0, 0 is never resolved, and takes the numbers of the first call. -/
theorem register_zero_unresolved :
    ∃ address, (AddressSource.specifier "INT R P=851 G=0 O=0".toList).construct = .ok address ∧
      address.nameIsResolved = false ∧
      address.resolve 0xF005 7 = (0, address.afterCall (.resolve 0xF005 7)) ∧
      ¬ FollowsStates (.specifier "INT R P=851 G=0 O=0".toList) address := by
  have built : (AddressSource.specifier "INT R P=851 G=0 O=0".toList).construct =
      .ok {
        dataType := .int
        operation := .read
        variableName := []
        adsPort := 851
        nelem := 1 } := by decide
  have texts : (AddressSource.specifier "INT R P=851 G=0 O=0".toList).registerTexts? =
      some ("0".toList, "0".toList) := by decide
  refine ⟨_, built, rfl, rfl, fun follows => ?_⟩
  have resolved := (follows.register _ _ texts []).resolved
  cases resolved

end AdsDriver
