import AdsDriver.Data.ByteMemory
import AdsDriver.Types
import Mathlib.Data.List.Induction

/-!
# The ADS client library

The driver reaches the device through blocking calls.  The environment answers each call knowing
every earlier call and answer, so quantifying over environments covers all return codes, handles
and data that devices can produce.
-/

namespace AdsDriver

open ByteMemory

/-- An AMS net id: six bytes. -/
abbrev AmsNetId := Bytes

/-- The net id of a closed connection. -/
def AmsNetId.zero : AmsNetId := [0, 0, 0, 0, 0, 0]

/-- Index group of the lookup of a handle by name. -/
def adsigrpSymHndByName : UInt32 := 0xF003
/-- Index group of access by handle. -/
def adsigrpSymValByHnd : UInt32 := 0xF005
/-- Index group of the release of a handle. -/
def adsigrpSymReleaseHnd : UInt32 := 0xF006
/-- Index group of a sum-read. -/
def adsigrpSumupRead : UInt32 := 0xF080

/-- A call of the ADS client library with its arguments. -/
inductive AdsCall
  /-- `AdsAddRoute`. -/
  | addRoute (netId : AmsNetId) (address : Str)
  /-- `AdsDelRoute`. -/
  | delRoute (netId : AmsNetId)
  /-- `AdsPortOpenEx`. -/
  | portOpen
  /-- `AdsPortCloseEx`. -/
  | portClose (port : Nat)
  /-- `AdsSyncReadWriteReqEx2`. -/
  | readWrite (port : Nat) (netId : AmsNetId) (target : UInt16) (group offset : UInt32)
      (readLength writeLength : Nat) (writeData : Bytes)
  /-- `AdsSyncWriteReqEx`. -/
  | write (port : Nat) (netId : AmsNetId) (target : UInt16) (group offset : UInt32)
      (data : Bytes)
  /-- `AdsSyncReadDeviceInfoReqEx`. -/
  | readDeviceInfo (port : Nat) (netId : AmsNetId) (target : UInt16)
  /-- `AdsSyncReadStateReqEx`. -/
  | readState (port : Nat) (netId : AmsNetId) (target : UInt16)
  deriving DecidableEq

/-- The answer to a call. -/
structure AdsReply where
  /-- The return code, 0 on success. -/
  rc : Int := 0
  /-- The bytes put into the caller's read buffer. -/
  data : Bytes := []
  /-- The port that `AdsPortOpenEx` opened, 0 on failure. -/
  port : Nat := 0
  deriving DecidableEq

/-- A call with its answer. -/
structure AdsEvent where
  call : AdsCall
  reply : AdsReply
  deriving DecidableEq

/-- All calls made so far, oldest first. -/
abbrev Trace := List AdsEvent

/-- The library and the device behind it. -/
abbrev Ads := Trace → AdsCall → AdsReply

/-- The event that a call produces. -/
def Ads.event (ads : Ads) (trace : Trace) (call : AdsCall) : AdsEvent := ⟨call, ads trace call⟩

@[simp]
theorem Ads.call_event (ads : Ads) (trace : Trace) (call : AdsCall) :
    (ads.event trace call).call = call := rfl

@[simp]
theorem Ads.reply_event (ads : Ads) (trace : Trace) (call : AdsCall) :
    (ads.event trace call).reply = ads trace call := rfl

/-- Whether an event opened a port. -/
def AdsEvent.opensPort (event : AdsEvent) : Bool :=
  event.call = .portOpen && event.reply.port ≠ 0

theorem AdsEvent.opensPort_iff (event : AdsEvent) :
    event.opensPort = true ↔ event.call = .portOpen ∧ event.reply.port ≠ 0 := by
  simp [opensPort]

/-- The events since a port was last opened. -/
def sinceOpen (trace : Trace) : Trace :=
  trace.foldl (fun recent event => if event.opensPort then [] else recent ++ [event]) []

/-- Events that open no port extend the current connection. -/
theorem sinceOpen_append {trace events : Trace}
    (keeps : ∀ event ∈ events, event.opensPort = false) :
    sinceOpen (trace ++ events) = sinceOpen trace ++ events := by
  induction events using List.reverseRecOn with
  | nil => simp
  | append_singleton events event ih =>
      have last := keeps event (by simp)
      have earlier := ih fun other member => keeps other (by simp [member])
      rw [← List.append_assoc, ← List.append_assoc, ← earlier]
      simp [sinceOpen, last]

/-- One entry of a sum-read request. -/
structure AdsSymbolInfoByName where
  indexGroup : UInt32
  indexOffset : UInt32
  cbLength : UInt32
  deriving DecidableEq

namespace AdsSymbolInfoByName

/-- The twelve bytes of an entry in memory. -/
def bytes (entry : AdsSymbolInfoByName) : Bytes :=
  leBytes 4 entry.indexGroup.toNat ++ leBytes 4 entry.indexOffset.toNat ++
    leBytes 4 entry.cbLength.toNat

@[simp]
theorem length_bytes (entry : AdsSymbolInfoByName) : entry.bytes.length = 12 := by
  simp [bytes]

/-- The entry stored at the front of a memory. -/
def ofBytes (memory : Bytes) : AdsSymbolInfoByName :=
  { indexGroup := UInt32.ofNat (leNat (window 0 4 memory))
    indexOffset := UInt32.ofNat (leNat (window 4 4 memory))
    cbLength := UInt32.ofNat (leNat (window 8 4 memory)) }

private theorem ofNat_leNat_leBytes (word : UInt32) :
    UInt32.ofNat (leNat (leBytes 4 word.toNat)) = word := by
  rw [leNat_leBytes_of_lt (by simpa using word.toNat_lt), UInt32.ofNat_toNat]

theorem ofBytes_bytes_append (entry : AdsSymbolInfoByName) (memory : Bytes) :
    ofBytes (entry.bytes ++ memory) = entry := by
  obtain ⟨group, offset, size⟩ := entry
  have first : window 0 4 (bytes ⟨group, offset, size⟩ ++ memory) = leBytes 4 group.toNat := by
    simp [window, bytes]
  have second : window 4 4 (bytes ⟨group, offset, size⟩ ++ memory) = leBytes 4 offset.toNat := by
    simp [window, bytes]
  have third : window 8 4 (bytes ⟨group, offset, size⟩ ++ memory) = leBytes 4 size.toNat := by
    have shifted := window_append_right (leBytes 4 group.toNat ++ leBytes 4 offset.toNat) 0 4
      (leBytes 4 size.toNat ++ memory)
    simpa [window, bytes] using shifted
  simp only [ofBytes, first, second, third, ofNat_leNat_leBytes]

/-- Read entries from consecutive memory, as a device does. -/
def decode : Nat → Bytes → List AdsSymbolInfoByName
  | 0, _ => []
  | count + 1, memory => ofBytes memory :: decode count (memory.drop 12)

/-- A device reads back exactly the entries that were sent. -/
theorem decode_flatMap_bytes (entries : List AdsSymbolInfoByName) :
    decode entries.length (entries.flatMap bytes) = entries := by
  induction entries with
  | nil => rfl
  | cons entry entries ih =>
      have rest : (entry.bytes ++ entries.flatMap bytes).drop 12 = entries.flatMap bytes := by
        rw [← entry.length_bytes, List.drop_left]
      rw [List.flatMap_cons, List.length_cons, decode, ofBytes_bytes_append, rest, ih]

end AdsSymbolInfoByName

/-- The entries that a call asks for by a sum-read. -/
def AdsCall.sumReadEntries : AdsCall → List AdsSymbolInfoByName
  | .readWrite _ _ _ group count _ _ writeData =>
      if group = adsigrpSumupRead then AdsSymbolInfoByName.decode count.toNat writeData else []
  | _ => []

/-- An event that neither opens a port nor reads by handles. -/
structure AdsEvent.Plain (event : AdsEvent) : Prop where
  keeps_port : event.opensPort = false
  no_entries : event.call.sumReadEntries = []

theorem sinceOpen_append_plain {trace events : Trace} (plain : ∀ event ∈ events, event.Plain) :
    sinceOpen (trace ++ events) = sinceOpen trace ++ events :=
  sinceOpen_append fun event member => (plain event member).keeps_port

end AdsDriver
