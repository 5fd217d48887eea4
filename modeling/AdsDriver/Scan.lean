import AdsDriver.Data.StatusSteps
import AdsDriver.ArrayPublish
import AdsDriver.Handles

/-!
# The port driver

Variables are created from record links, `initHook` allocates the sum-read buffers, and the scan
thread runs one iteration of `adsScan` after the other.  The library answers each request as it
likes, the framework chooses the order of the variables with I/O Intr records, and the clock decides
when the device information is due.
-/

namespace AdsDriver

open ByteMemory StatusSteps

/-- `asynError`. -/
def asynError : Int := 3

/-- `ADSDeviceVar`. -/
structure ADSDeviceVar where
  function : Str
  adsPV : VarId
  deriving DecidableEq

/-- `ADSPortDriver`. -/
structure ADSPortDriver where
  ipAddr : Str
  amsNetId : AmsNetId
  deviceReadAdsPort : UInt16
  adsConnection : Connection := {}
  sumRead : SumReadRequest
  exitCalled : Bool := false
  initialized : Bool := false
  adsReadVars : List VarId := []
  adsWriteVars : List VarId := []
  /-- The device variables that the framework holds. -/
  deviceVariables : List ADSDeviceVar := []
  heap : Heap
  /-- What was last published for a variable, by `setParam` and `callParamCallbacks` or by
  `doCallbacksArray`. -/
  published : VarId → Option (Result Value) := fun _ => none
  trace : Trace := []

namespace ADSPortDriver

/-- `ADSPortDriver::ADSPortDriver`, which throws when the sum-read buffers can hold nothing. -/
def new (ipAddr : Str) (amsNetId : AmsNetId) (sumBufferSize deviceReadAdsPort : UInt16)
    (heap : Heap) : Option ADSPortDriver :=
  if sumBufferSize = 0 then none
  else
    some { ipAddr, amsNetId, deviceReadAdsPort, heap
           sumRead := { maxVarsPerBuffer := sumBufferSize.toNat } }

end ADSPortDriver

/-- What a record link gives to the framework. -/
structure RecordLink where
  function : Str
  arguments : Str
  /-- What is in the memory of the hash of a new variable. -/
  arrayDataHash : Int

/-- The words of a text, as read by `>>`. -/
def splitArguments (arguments : Str) : List Str :=
  (arguments.splitOnP isSpace).filter fun word => !word.isEmpty

/-- `parseDeviceAddress`: no address stands for a null pointer, and exceptions other than
`std::invalid_argument` are not handled. -/
def parseDeviceAddress (function arguments : Str) : Except ParseException (Option ADSAddress) :=
  match ADSAddress.ofFunction function (splitArguments arguments) with
  | .ok address => .ok (some address)
  | .error (.invalidArgument _) => .ok none
  | .error exception => .error exception

theorem parseDeviceAddress_eq_some_iff {function arguments : Str} {address : ADSAddress} :
    parseDeviceAddress function arguments = .ok (some address) ↔
      ADSAddress.ofFunction function (splitArguments arguments) = .ok address := by
  unfold parseDeviceAddress
  rcases ADSAddress.ofFunction function (splitArguments arguments) with
    (what | _ | index) | built <;> simp

namespace ADSPortDriver

/-- `createDeviceVariable`. -/
def createDeviceVariable (driver : ADSPortDriver) (function : Str) (address : ADSAddress)
    (arrayDataHash : Int) : ADSPortDriver :=
  let adsPV := driver.deviceVariables.length
  let created :=
    { driver with
      deviceVariables := driver.deviceVariables ++ [ADSDeviceVar.mk function adsPV]
      heap :=
        { driver.heap with
          vars := Function.update driver.heap.vars adsPV
            { addr := address, conn := true, arrayDataHash } } }
  match address.operation with
  | .read => { created with adsReadVars := driver.adsReadVars ++ [adsPV] }
  | .write => { created with adsWriteVars := driver.adsWriteVars ++ [adsPV] }

/-- A record link is parsed, and makes a variable if it has an address. -/
def addRecord (driver : ADSPortDriver) (link : RecordLink) : ADSPortDriver :=
  match parseDeviceAddress link.function link.arguments with
  | .ok (some address) => driver.createDeviceVariable link.function address link.arrayDataHash
  | _ => driver

/-- `getInterruptVariables`.  The framework chooses which variables, in what order. -/
def getInterruptVariables (driver : ADSPortDriver) (interrupts : List Nat) : List ADSDeviceVar :=
  interrupts.filterMap fun index => driver.deviceVariables[index]?

/-- The body of the loop of `initHook`. -/
def addReadback (driver : ADSPortDriver) (adsVar : ADSDeviceVar) : ADSPortDriver :=
  if (driver.heap.vars adsVar.adsPV).addr.operation = .write then
    { driver with
      heap :=
        { driver.heap with
          vars := Function.update driver.heap.vars adsVar.adsPV
            { driver.heap.vars adsVar.adsPV with writeReadback := true } }
      adsReadVars := driver.adsReadVars ++ [adsVar.adsPV] }
  else driver

/-- `initHook`. -/
def initHook (driver : ADSPortDriver) (interrupts : List Nat) : ADSPortDriver :=
  if driver.initialized then driver
  else
    let driver := (driver.getInterruptVariables interrupts).foldl addReadback driver
    let allocated := driver.sumRead.allocate driver.adsReadVars driver.heap
    { driver with
      sumRead := allocated.2.1
      heap := allocated.2.2
      initialized := allocated.1 = 0 }

variable (ads : Ads)

/-- Call `unresolve_variables`. -/
def unresolveVariables (adsVariables : List VarId) (driver : ADSPortDriver) : ADSPortDriver :=
  let unresolved := driver.adsConnection.unresolveVariables ads adsVariables driver.heap.vars
    driver.trace
  { driver with heap := { driver.heap with vars := unresolved.2.1 }, trace := unresolved.2.2 }

/-- Call `disconnect` and `set_disconnected`. -/
def closeConnection (driver : ADSPortDriver) : ADSPortDriver :=
  let closed := driver.adsConnection.disconnect ads driver.trace
  { driver with adsConnection := closed.2.1.setDisconnected, trace := closed.2.2 }

/-- `ADSDisconnect`, which always reports success. -/
def adsDisconnect (driver : ADSPortDriver) : ADSPortDriver :=
  let driver := { driver with sumRead := driver.sumRead.deinitializeRequest }
  if !driver.exitCalled then
    if driver.adsConnection.isConnected = false then driver
    else
      ((driver.unresolveVariables ads driver.adsReadVars).unresolveVariables ads
        driver.adsWriteVars).closeConnection ads
  else driver.closeConnection ads

/-- Call `SumReadRequest::read`. -/
def readSumRead : Step ADSPortDriver := fun driver =>
  let read := driver.sumRead.read ads driver.adsConnection driver.trace
  (read.1, { driver with sumRead := read.2.1, trace := read.2.2 })

/-- Call `read_device_info`. -/
def readInfo : Step ADSPortDriver := fun driver =>
  let read := driver.adsConnection.readDeviceInfo ads driver.trace
  (read.1, { driver with trace := read.2 })

/-- Call `read_device_state`. -/
def readState : Step ADSPortDriver := fun driver =>
  let read := driver.adsConnection.readDeviceState ads driver.trace
  (read.1, { driver with trace := read.2 })

/-- `readADSDeviceInfo`. -/
def readADSDeviceInfo : Step ADSPortDriver := (readInfo ads).onFailure (adsDisconnect ads)

/-- `readADSDeviceState`. -/
def readADSDeviceState : Step ADSPortDriver := (readState ads).onFailure (adsDisconnect ads)

/-- `doSumRead`. -/
def doSumRead : Step ADSPortDriver := (readSumRead ads).onFailure (adsDisconnect ads)

/-- Call `connect`. -/
def openConnection : Step ADSPortDriver := fun driver =>
  let opened := driver.adsConnection.connect ads driver.amsNetId driver.ipAddr
    driver.deviceReadAdsPort driver.trace
  (opened.1, { driver with adsConnection := opened.2.1, trace := opened.2.2 })

/-- Call `resolve_variables` if there are variables. -/
def resolveVariables (adsVariables : ADSPortDriver → List VarId) : Step ADSPortDriver :=
  Step.onlyIf (fun driver => !(adsVariables driver).isEmpty) fun driver =>
    let resolved := driver.adsConnection.resolveVariables ads (adsVariables driver)
      driver.heap.vars driver.trace
    (resolved.1,
      { driver with heap := { driver.heap with vars := resolved.2.1 }, trace := resolved.2.2 })

/-- Call `SumReadRequest::initialize`. -/
def initializeSumRead : Step ADSPortDriver := fun driver =>
  let initialized := driver.sumRead.initializeRequest driver.heap.vars
  (initialized.1, { driver with sumRead := initialized.2 })

/-- `ADSConnect` on a closed connection. -/
def connectAndResolve : Step ADSPortDriver :=
  (openConnection ads).andThen <|
    (resolveVariables ads adsReadVars).andThen <|
      (resolveVariables ads adsWriteVars).andThen <|
        initializeSumRead.andThen (doSumRead ads)

/-- `ADSConnect`. -/
def adsConnect : Step ADSPortDriver := fun driver =>
  if driver.exitCalled then (asynError, driver)
  else if !driver.initialized then (asynError, driver)
  else if driver.adsConnection.isConnected then (0, driver)
  else connectAndResolve ads driver

section Publish

variable (autoparam : Autoparam)

/-- The outcome of a read handler for a variable: its new content, and a result to publish. -/
def publish (driver : ADSPortDriver) (var : VarId) (result : Option (Result Value))
    (content : ADSVariable) : ADSPortDriver :=
  { driver with
    heap := { driver.heap with vars := Function.update driver.heap.vars var content }
    published := Function.update driver.published var (result.or (driver.published var)) }

/-- The body of the loop of `performIOIntr`. -/
def publishVariable (garbage : VarId → Nat → UInt8) (driver : ADSPortDriver)
    (adsVar : ADSDeviceVar) : ADSPortDriver :=
  let var := driver.heap.vars adsVar.adsPV
  match ioIntrHandler adsVar.function var.addr.dataType with
  | none => driver
  | some (.arrayRead plcDataType epicsDataType) =>
      let called := performArrayCallbacks autoparam driver.adsConnection driver.sumRead.buffers var
        plcDataType epicsDataType
      driver.publish adsVar.adsPV
        (called.1.map fun published => published.2.wrap (.array published.1)) called.2
  | some handler =>
      let read := handler.run autoparam driver.adsConnection driver.sumRead.buffers var ioIntrMask
        (garbage adsVar.adsPV)
      driver.publish adsVar.adsPV (some read.1) read.2

/-- `performIOIntr`. -/
def performIOIntr (interrupts : List Nat) (garbage : VarId → Nat → UInt8)
    (driver : ADSPortDriver) : ADSPortDriver :=
  (driver.getInterruptVariables interrupts).foldl (publishVariable autoparam garbage) driver

end Publish

end ADSPortDriver

/-- What the surroundings decide in an iteration of `adsScan`. -/
structure ScanInput where
  /-- Whether the device information is due. -/
  due : Bool
  /-- The variables with I/O Intr records. -/
  interrupts : List Nat
  /-- What is in the memory of the local variables of read handlers. -/
  garbage : VarId → Nat → UInt8

namespace ADSPortDriver

variable (ads : Ads) (autoparam : Autoparam)

/-- Whether an iteration calls `ADSConnect`. -/
def needsConnect (driver : ADSPortDriver) : Bool :=
  !driver.adsConnection.isConnected || !driver.sumRead.initialized || !driver.sumRead.allocated

/-- The requests of an iteration: the device information and state if due, then a sum-read. -/
def scanRequests (due : Bool) : Step ADSPortDriver :=
  (Step.onlyIf (fun _ => due) ((readADSDeviceInfo ads).andThen (readADSDeviceState ads))).andThen
    (doSumRead ads)

/-- An iteration of the loop of `adsScan`; the one that finds `exitCalled` set leaves the loop. -/
def adsScan (driver : ADSPortDriver) (input : ScanInput) : ADSPortDriver :=
  if driver.exitCalled then
    if driver.adsConnection.isConnected then driver.adsDisconnect ads else driver
  else if !driver.initialized then driver
  else if driver.needsConnect then ((adsConnect ads).onFailure (adsDisconnect ads) driver).2
  else
    let requested := scanRequests ads input.due driver
    if requested.1 ≠ 0 then requested.2
    else requested.2.performIOIntr autoparam input.interrupts input.garbage

end ADSPortDriver

end AdsDriver
