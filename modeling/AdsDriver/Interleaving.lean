import AdsDriver.Scan
import AdsDriver.WriteHandlers

/-!
# The scan thread among record handlers

The scan thread runs one section after the other: each call on the connection holds its mutex, a
sum-read takes it anew for every chunk, and the driver's lock is held while the driver reconnects
and while it publishes, but not while it disconnects after a failed request.  Record handlers run
between these sections; a write checks its variable first and sends later, under the mutex.
-/

namespace AdsDriver

open ByteMemory StatusSteps

/-- The part of `read` that asks for one chunk, under the mutex. -/
def SumReadRequest.readChunk (ads : Ads) (connection : Connection) (index : Nat)
    (request : SumReadRequest) (trace : Trace) : Int × SumReadRequest × Trace :=
  match request.getChunks[index]? with
  | none => (0, request, trace)
  | some chunk =>
      let read := chunk.read ads connection trace
      let after :=
        { request with
          chunksByAdsPort := request.chunksByAdsPort.modifyAt index fun chunk =>
            (chunk.read ads connection trace).result }
      match read.exit with
      | some .notInitialized => (epicsadsNotInitialized, after, read.state)
      | some (.failed rc) => (adsRcToEpicsadsError rc, after.setBuffersState .invalid, read.state)
      | none => (0, after, read.state)

namespace ADSPortDriver

variable (ads : Ads)

/-- The check at the start of `SumReadRequest::read`. -/
def startSumRead : Step ADSPortDriver := fun driver =>
  (if driver.sumRead.initialized = false then epicsadsInvCall else 0, driver)

/-- Ask for one chunk of the sum-read. -/
def readChunk (index : Nat) : Step ADSPortDriver := fun driver =>
  let read := driver.sumRead.readChunk ads driver.adsConnection index driver.trace
  (read.1, { driver with sumRead := read.2.1, trace := read.2.2 })

/-- Call `deinitialize`. -/
def deinitializeSumRead (driver : ADSPortDriver) : ADSPortDriver :=
  { driver with sumRead := driver.sumRead.deinitializeRequest }

/-- Call `disconnect`. -/
def disconnect (driver : ADSPortDriver) : ADSPortDriver :=
  let closed := driver.adsConnection.disconnect ads driver.trace
  { driver with adsConnection := closed.2.1, trace := closed.2.2 }

/-- Call `set_disconnected`. -/
def setDisconnected (driver : ADSPortDriver) : ADSPortDriver :=
  { driver with adsConnection := driver.adsConnection.setDisconnected }

/-- Replace the content of a variable. -/
def setVar (driver : ADSPortDriver) (var : VarId) (content : ADSVariable) : ADSPortDriver :=
  { driver with
    heap := { driver.heap with vars := Function.update driver.heap.vars var content } }

end ADSPortDriver

/-- What a polled record hands to a read handler, which takes the parts that it uses. -/
structure ReadRequest where
  mask : BitVec 32
  array : EpicsArray
  octet : Octet
  /-- What is in the memory of the local variables of the handler. -/
  garbage : Nat → UInt8

/-- Call a read handler for a record. -/
def ReadHandler.poll (autoparam : Autoparam) (connection : Connection) (buffers : Buffers)
    (var : ADSVariable) (request : ReadRequest) : ReadHandler → Result Value × ADSVariable
  | .integerRead plcDataType epicsDataType =>
      let read := AdsDriver.integerRead autoparam connection buffers var plcDataType epicsDataType
        request.garbage
      (read.1.wrap (.integer read.1.value), read.2)
  | .digitalRead plcDataType =>
      let read := AdsDriver.digitalRead autoparam connection buffers var plcDataType request.mask
        request.garbage
      (read.1.wrap (.digital read.1.value), read.2)
  | .floatRead plcDataType =>
      let read := AdsDriver.floatRead autoparam connection buffers var plcDataType request.garbage
      (read.1.wrap (.float read.1.value), read.2)
  | .arrayRead plcDataType _ =>
      let read := AdsDriver.arrayRead autoparam connection buffers var plcDataType request.array
      (read.1.wrap (.array read.2.1), read.2.2)
  | .stringRead =>
      let read := AdsDriver.stringRead autoparam connection buffers var request.octet
      (read.1.wrap (.octet read.2.1), read.2.2)

/-- Who has called `ADSDisconnect`. -/
inductive DisconnectCaller
  /-- A request of the scan loop that has failed. -/
  | request
  /-- The sum-read at the end of `ADSConnect`. -/
  | sumRead
  /-- The scan loop after `ADSConnect` has failed. -/
  | reconnect
  /-- The end of `adsScan`. -/
  | exit
  deriving DecidableEq

/-- The section that the scan thread enters next. -/
inductive ScanPoint
  | head
  | connect
  | resolveReadVars
  | resolveWriteVars
  | initializeSumRead
  | readInfo
  | readState
  | sumRead (connecting : Bool)
  | readChunk (index : Nat) (connecting : Bool)
  | publish
  | publishing (left : List ADSDeviceVar)
  | deinitializeSumRead (caller : DisconnectCaller)
  | unresolveReadVars (caller : DisconnectCaller)
  | unresolveWriteVars (caller : DisconnectCaller)
  | disconnect (caller : DisconnectCaller)
  | setDisconnected (caller : DisconnectCaller)
  | exited
  deriving DecidableEq

/-- Where the scan thread goes on after `ADSDisconnect`. -/
def DisconnectCaller.resume : DisconnectCaller → ScanPoint
  | .request | .reconnect => .head
  | .sumRead => .deinitializeSumRead .reconnect
  | .exit => .exited

namespace ScanPoint

/-- Where a sum-read that has failed goes on. -/
def sumReadFailed (connecting : Bool) : ScanPoint :=
  .deinitializeSumRead (if connecting then .sumRead else .request)

/-- Where a sum-read that has succeeded goes on. -/
def sumReadDone (connecting : Bool) : ScanPoint := if connecting then .head else .publish

/-- Whether the next section starts by taking the driver's lock. -/
def takesLock : ScanPoint → Bool
  | .connect | .publish | .deinitializeSumRead .exit => true
  | _ => false

/-- Whether the scan thread holds the driver's lock. -/
def holdsLock : ScanPoint → Bool
  | .resolveReadVars | .resolveWriteVars | .initializeSumRead | .publishing _ => true
  | .sumRead connecting | .readChunk _ connecting => connecting
  | .deinitializeSumRead caller => caller = .sumRead || caller = .reconnect
  | .unresolveReadVars caller | .unresolveWriteVars caller | .disconnect caller
  | .setDisconnected caller => caller ≠ .request
  | _ => false

end ScanPoint

/-- A write whose checks have passed. -/
structure PendingWrite where
  var : VarId
  buffer : Bytes
  deriving DecidableEq

/-- The driver, the section that the scan thread enters next, and the writes between their checks
and their requests. -/
structure Interleaved where
  driver : ADSPortDriver
  scanPoint : ScanPoint := .head
  pendingWrites : List PendingWrite := []

/-- A step of some thread. -/
inductive ThreadStep
  /-- The next section of the scan thread. -/
  | scan (input : ScanInput)
  /-- A read handler of a polled record. -/
  | poll (adsVar : ADSDeviceVar) (registration : Registration) (request : ReadRequest)
  /-- A write handler, up to the checks of `write`. -/
  | checkWrite (adsVar : ADSDeviceVar) (registration : Registration) (request : WriteRequest)
  /-- The rest of a write. -/
  | sendWrite (index : Nat)
  /-- `exitCalled` is set. -/
  | shutDown

namespace Interleaved

variable (ads : Ads) (autoparam : Autoparam) (toFloat32 : BitVec 64 → BitVec 32)

/-- The scan thread goes on at a point. -/
def goTo (state : Interleaved) (scanPoint : ScanPoint) : Interleaved := { state with scanPoint }

/-- The scan thread runs a section that cannot fail. -/
def doThen (state : Interleaved) (call : ADSPortDriver → ADSPortDriver) (next : ScanPoint) :
    Interleaved :=
  { state with driver := call state.driver, scanPoint := next }

/-- The scan thread runs a section and looks at its status. -/
def tryThen (state : Interleaved) (step : Step ADSPortDriver) (succeeded failed : ScanPoint) :
    Interleaved :=
  { state with
    driver := (step state.driver).2
    scanPoint := if (step state.driver).1 = 0 then succeeded else failed }

/-- The next section of the scan thread. -/
def scan (state : Interleaved) (input : ScanInput) : Interleaved :=
  match state.scanPoint with
  | .head =>
      if state.driver.exitCalled then
        state.goTo
          (if state.driver.adsConnection.isConnected then .deinitializeSumRead .exit else .exited)
      else if !state.driver.initialized then state
      else if state.driver.needsConnect then state.goTo .connect
      else state.goTo (if input.due then .readInfo else .sumRead false)
  | .connect =>
      if state.driver.exitCalled then state.goTo (.deinitializeSumRead .reconnect)
      else if !state.driver.initialized then state.goTo (.deinitializeSumRead .reconnect)
      else if state.driver.adsConnection.isConnected then state.goTo .head
      else
        state.tryThen (ADSPortDriver.openConnection ads) .resolveReadVars
          (.deinitializeSumRead .reconnect)
  | .resolveReadVars =>
      state.tryThen (ADSPortDriver.resolveVariables ads ADSPortDriver.adsReadVars) .resolveWriteVars
        (.deinitializeSumRead .reconnect)
  | .resolveWriteVars =>
      state.tryThen (ADSPortDriver.resolveVariables ads ADSPortDriver.adsWriteVars)
        .initializeSumRead (.deinitializeSumRead .reconnect)
  | .initializeSumRead =>
      state.tryThen ADSPortDriver.initializeSumRead (.sumRead true)
        (.deinitializeSumRead .reconnect)
  | .readInfo =>
      state.tryThen (ADSPortDriver.readInfo ads) .readState (.deinitializeSumRead .request)
  | .readState =>
      state.tryThen (ADSPortDriver.readState ads) (.sumRead false) (.deinitializeSumRead .request)
  | .sumRead connecting =>
      state.tryThen ADSPortDriver.startSumRead (.readChunk 0 connecting)
        (.sumReadFailed connecting)
  | .readChunk index connecting =>
      if index < state.driver.sumRead.getChunks.length then
        state.tryThen (ADSPortDriver.readChunk ads index) (.readChunk (index + 1) connecting)
          (.sumReadFailed connecting)
      else state.goTo (.sumReadDone connecting)
  | .publish => state.goTo (.publishing (state.driver.getInterruptVariables input.interrupts))
  | .publishing [] => state.goTo .head
  | .publishing (adsVar :: left) =>
      state.doThen (ADSPortDriver.publishVariable autoparam input.garbage · adsVar)
        (.publishing left)
  | .deinitializeSumRead caller =>
      state.doThen ADSPortDriver.deinitializeSumRead <|
        if state.driver.exitCalled then .disconnect caller
        else if state.driver.adsConnection.isConnected then .unresolveReadVars caller
        else caller.resume
  | .unresolveReadVars caller =>
      state.doThen (fun driver => driver.unresolveVariables ads driver.adsReadVars)
        (.unresolveWriteVars caller)
  | .unresolveWriteVars caller =>
      state.doThen (fun driver => driver.unresolveVariables ads driver.adsWriteVars)
        (.disconnect caller)
  | .disconnect caller => state.doThen (ADSPortDriver.disconnect ads) (.setDisconnected caller)
  | .setDisconnected caller => state.doThen ADSPortDriver.setDisconnected caller.resume
  | .exited => state

/-- Handlers are called with a variable that the framework holds and registered for its function. -/
def Calls (state : Interleaved) (adsVar : ADSDeviceVar) (registration : Registration) : Prop :=
  adsVar ∈ state.driver.deviceVariables ∧ registration ∈ registeredHandlers ∧
    registration.function = adsVar.function

instance (state : Interleaved) (adsVar : ADSDeviceVar) (registration : Registration) :
    Decidable (state.Calls adsVar registration) :=
  inferInstanceAs (Decidable (_ ∧ _ ∧ _))

/-- A polled record is read. -/
def poll (state : Interleaved) (adsVar : ADSDeviceVar) (registration : Registration)
    (request : ReadRequest) : Interleaved :=
  let driver := state.driver
  let read := registration.read.poll autoparam driver.adsConnection driver.sumRead.buffers
    (driver.heap.vars adsVar.adsPV) request
  { state with driver := driver.setVar adsVar.adsPV read.2 }

/-- A write handler runs up to the checks of `write`. -/
def checkWrite (state : Interleaved) (adsVar : ADSDeviceVar) (registration : Registration)
    (request : WriteRequest) : Interleaved :=
  let driver := state.driver
  let var := driver.heap.vars adsVar.adsPV
  let read := registration.write.varToWrite autoparam driver.adsConnection var
    driver.sumRead.buffers request
  let data := registration.write.dataToWrite autoparam driver.adsConnection var toFloat32
    driver.sumRead.buffers request
  { state with
    driver := driver.setVar adsVar.adsPV read
    pendingWrites :=
      match read.checkWrite data (registration.write.bytesToWrite var) with
      | .ok buffer => state.pendingWrites ++ [⟨adsVar.adsPV, buffer⟩]
      | .error _ => state.pendingWrites }

/-- A pending write is sent. -/
def sendWrite (state : Interleaved) (index : Nat) : Interleaved :=
  match state.pendingWrites[index]? with
  | none => state
  | some write =>
      let driver := state.driver
      let sent := (driver.heap.vars write.var).sendWrite ads driver.adsConnection write.buffer
        driver.trace
      { state with
        driver := { driver.setVar write.var sent.2.1 with trace := sent.2.2 }
        pendingWrites := state.pendingWrites.eraseIdx index }

/-- A step of some thread. -/
def step (state : Interleaved) : ThreadStep → Interleaved
  | .scan input => state.scan ads autoparam input
  | .poll adsVar registration request =>
      if state.Calls adsVar registration then state.poll autoparam adsVar registration request
      else state
  | .checkWrite adsVar registration request =>
      if state.Calls adsVar registration then
        state.checkWrite autoparam toFloat32 adsVar registration request
      else state
  | .sendWrite index => state.sendWrite ads index
  | .shutDown => { state with driver := { state.driver with exitCalled := true } }

/-- The discipline of the driver's lock: a handler runs while neither the scan thread nor another
handler holds it, and the scan thread takes it while no handler does. -/
def LockKept (state : Interleaved) : ThreadStep → Prop
  | .scan _ => state.scanPoint.takesLock = true → state.pendingWrites = []
  | .poll _ _ _ | .checkWrite _ _ _ =>
      state.scanPoint.holdsLock = false ∧ state.pendingWrites = []
  | .sendWrite _ | .shutDown => True

instance (state : Interleaved) : (taken : ThreadStep) → Decidable (state.LockKept taken)
  | .scan _ => inferInstanceAs (Decidable (_ → _))
  | .poll _ _ _ | .checkWrite _ _ _ => inferInstanceAs (Decidable (_ ∧ _))
  | .sendWrite _ | .shutDown => inferInstanceAs (Decidable True)

end Interleaved

end AdsDriver
