import IpmiFeature.Generic.Status

/-!
# Initializing the BMC

`IpmiInitializeBmc` with `GetDeviceId` and `GetSelfTest` (`IpmiInitialize.c`), over
`IpmiSendCommand` and the platform library.  The three loops count `Retries` down as a `UINT32`,
each in its own way, and have fuel.  `StatusCodeValue` and `*ErrorCount` are one list that is never
longer than the array; `GetDeviceId` does not touch them.

The outcome of `IpmiSendCommand` comes with what has passed over the transport meanwhile, which the
code does not see.
-/

namespace IpmiFeature

open Interaction Prog Generic

namespace Initialize

/-! ### Constants -/

/-- `IPMI_GET_BMC_EXECUTION_CONTEXT`. -/
def getBmcExecutionContext : UInt8 := 0x23

/-- `IPMI_BMC_IN_FORCED_UPDATE_MODE`. -/
def bmcInForcedUpdateMode : UInt8 := 0x11

/-- `BMC_READY`. -/
def bmcReady : UInt8 := 0

/-! ### The interface -/

/-- The PCDs of the initialization. -/
structure Pcds where
  /-- `PcdIpmiBmcReadyDelayTimer`. -/
  ipmiBmcReadyDelayTimer : UInt8
  /-- `PcdBmcTimeoutSeconds`. -/
  bmcTimeoutSeconds : UInt8
  /-- `PcdIpmiCheckSelfTestResults`. -/
  ipmiCheckSelfTestResults : Bool
  deriving DecidableEq, Repr

/-- The values of `StatusCodeValue`. -/
inductive StatusCodeValue where
  /-- `EFI_CU_FP_EC_COMM_ERROR`. -/
  | commError
  /-- `CU_FP_EC_SDR_EMPTY`. -/
  | sdrEmpty
  /-- `EFI_CU_FP_EC_HARD_FAIL`. -/
  | hardFail
  /-- `EFI_CU_FP_EC_SOFT_FAIL`. -/
  | softFail
  deriving DecidableEq, Repr

/-- `StatusCodeValue[0..*ErrorCount)`. -/
structure ErrorLog where
  values : List StatusCodeValue
  /-- The array has room for them. -/
  length_le : values.length ≤ maxSoftCount.toNat

/-- The empty log. -/
def ErrorLog.empty : ErrorLog := ⟨[], Nat.zero_le _⟩

/-- The log with one more value, if there is room. -/
def ErrorLog.append (log : ErrorLog) (value : StatusCodeValue) : ErrorLog :=
  if h : log.values.length < maxSoftCount.toNat then
    ⟨log.values ++ [value], by rw [List.length_append]; exact h⟩
  else
    log

/-- `IPMI_SELF_TEST_RESULT_RESPONSE`. -/
structure SelfTestResult where
  completionCode : UInt8
  result : UInt8
  param : UInt8
  deriving DecidableEq, Repr

/-- What `IpmiSendCommand` leaves behind when `TempData` is the response buffer. -/
structure SendOutcome where
  status : EfiStatus
  inst : IpmiBmcInstanceData
  /-- `*ResponseDataSize`. -/
  dataSize : UInt32
  /-- What has passed over the transport. -/
  transport : List TransportEvent

/-- The calls of the initialization. -/
inductive InitCall where
  /-- `PlatformIpmiInitialize`. -/
  | platformIpmiInitialize
  /-- `IpmiSendCommand`, without data and with `TempData` as the response buffer. -/
  | ipmiSendCommand (netFunction command : UInt8) (inst : IpmiBmcInstanceData) (dataSize : UInt32)
  /-- `MicroSecondDelay`. -/
  | microSecondDelay (microSeconds : ℕ)
  /-- `GetDeviceSpecificTestResults`, with `*BmcStatus` before the call. -/
  | getDeviceSpecificTestResults (result : SelfTestResult) (bmcStatus : UInt32)
  /-- `ReportStatusCode`. -/
  | reportStatusCode (value : StatusCodeValue)

/-- What the calls are answered with; `GetDeviceSpecificTestResults` with `*BmcStatus` after it. -/
abbrev InitCall.Answer : InitCall → Type
  | platformIpmiInitialize => EfiStatus
  | ipmiSendCommand _ _ _ _ => SendOutcome
  | microSecondDelay _ => Unit
  | getDeviceSpecificTestResults _ _ => UInt32
  | reportStatusCode _ => Unit

/-- Programs of the initialization. -/
abbrev InitProg := Prog InitCall InitCall.Answer

/-- Calls of the initialization with their outcomes. -/
abbrev InitEvent := Event InitCall InitCall.Answer

/-- `PlatformIpmiInitialize`. -/
def platformIpmiInitialize : InitProg EfiStatus := Prog.perform InitCall.platformIpmiInitialize

/-- `IpmiSendCommand`. -/
def ipmiSendCommand (netFunction command : UInt8) (inst : IpmiBmcInstanceData) (dataSize : UInt32) :
    InitProg SendOutcome :=
  Prog.perform (InitCall.ipmiSendCommand netFunction command inst dataSize)

/-- `MicroSecondDelay`. -/
def microSecondDelay (microSeconds : ℕ) : InitProg Unit :=
  Prog.perform (InitCall.microSecondDelay microSeconds)

/-- `GetDeviceSpecificTestResults`. -/
def getDeviceSpecificTestResults (result : SelfTestResult) (bmcStatus : UInt32) : InitProg UInt32 :=
  Prog.perform (InitCall.getDeviceSpecificTestResults result bmcStatus)

/-- `ReportStatusCode`. -/
def reportStatusCode (value : StatusCodeValue) : InitProg Unit :=
  Prog.perform (InitCall.reportStatusCode value)

/-! ### GetDeviceId -/

/-- The locals of `GetDeviceId`, with the instance. -/
structure DeviceIdState where
  status : EfiStatus
  inst : IpmiBmcInstanceData
  dataSize : UInt32
  retries : UInt32

/-- `UpdateMode` of the `SM_CTRL_INFO` in `TempData`. -/
def updateMode (inst : IpmiBmcInstanceData) : UInt8 := inst.temp 3 >>> 7

/-- `CurrentExecutionContext` of the `IPMI_MSG_GET_BMC_EXEC_RSP` in `TempData`. -/
def currentExecutionContext (inst : IpmiBmcInstanceData) : UInt8 := inst.temp 0

/-- The state after a command. -/
def DeviceIdState.afterSend (st : DeviceIdState) (r : SendOutcome) : DeviceIdState :=
  { st with status := r.status, inst := r.inst, dataSize := r.dataSize }

/-- The state with another `BmcStatus`. -/
def DeviceIdState.setStatus (st : DeviceIdState) (bmcStatus : UInt32) : DeviceIdState :=
  { st with inst := { st.inst with bmcStatus } }

/-- An iteration of the loop that waits for the BMC to answer.  It is left with `true` when the BMC
has answered. -/
def awaitDeviceId (st : DeviceIdState) : InitProg (Iter DeviceIdState (Bool × DeviceIdState)) := do
  let r ← ipmiSendCommand netfnApp appGetDeviceId st.inst st.dataSize
  let st := st.afterSend r
  if ¬ st.status.isError then
    return .done (true, st)
  else if st.retries = 0 then
    -- the decrement after the comparison is not seen any more
    return .done (false, st.setStatus bmcHardfail)
  else do
    microSecondDelay (1 * 1000 * 1000)
    return .again { st with retries := st.retries - 1 }

/-- An iteration of the loop that waits for the BMC to become ready.  It is left with `true` when
the BMC is ready. -/
def awaitReady (st : DeviceIdState) : InitProg (Iter DeviceIdState (Bool × DeviceIdState)) := do
  if st.retries = 0 then
    return .done (false, st.setStatus bmcHardfail)
  else do
    microSecondDelay (1 * 1000 * 1000)
    let r ← ipmiSendCommand netfnApp appGetDeviceId st.inst st.dataSize
    let st := { st with retries := st.retries - 1 }.afterSend r
    if ¬ st.status.isError ∧ updateMode st.inst = bmcReady then
      return .done (true, st.setStatus bmcOk)
    else
      return .again st

/-- What `GetDeviceId` does when the BMC says that it is not ready. -/
def queryExecutionContext (pcds : Pcds) (fuel : ℕ) (st : DeviceIdState) :
    InitProg (EfiStatus × IpmiBmcInstanceData) := do
  let r ← ipmiSendCommand netfnFirmware getBmcExecutionContext st.inst st.dataSize
  let st := st.afterSend r
  if ¬ st.status.isError ∧ currentExecutionContext st.inst = bmcInForcedUpdateMode then
    return (st.status, (st.setStatus bmcUpdateInProgress).inst)
  else do
    let (ready, st) ← Prog.loop awaitReady fuel
      { st with retries := pcds.ipmiBmcReadyDelayTimer.toUInt32 }
    return (if ready then .success else st.status, st.inst)

/-- `GetDeviceId`. -/
def getDeviceId (pcds : Pcds) (fuel : ℕ) (inst : IpmiBmcInstanceData) :
    InitProg (EfiStatus × IpmiBmcInstanceData) := do
  let (answered, st) ← Prog.loop awaitDeviceId fuel
    { status := .success
      inst
      dataSize := UInt32.ofNat maxTempData
      retries := pcds.ipmiBmcReadyDelayTimer.toUInt32 }
  if ¬ answered then
    return (st.status, st.inst)
  else if updateMode st.inst = bmcReady then
    return (.success, (st.setStatus bmcOk).inst)
  else
    queryExecutionContext pcds fuel st

/-! ### GetSelfTest -/

/-- The locals of `GetSelfTest`, with the instance. -/
structure SelfTestState where
  status : EfiStatus
  inst : IpmiBmcInstanceData
  dataSize : UInt32
  retries : UInt32

/-- The `IPMI_SELF_TEST_RESULT_RESPONSE` in `TempData`. -/
def selfTestResult (inst : IpmiBmcInstanceData) : SelfTestResult :=
  ⟨inst.temp 0, inst.temp 1, inst.temp 2⟩

/-- The results that set `bResultFlag`. -/
def Classified (result : UInt8) : Prop :=
  result = selftestNoError ∨ result = selftestNotImplemented ∨ result = selftestError ∨
    result = selftestFatalHwError

instance : DecidablePred Classified := fun _ => inferInstanceAs (Decidable (_ ∨ _))

/-- The state of the self test after a command. -/
def SelfTestState.afterSend (st : SelfTestState) (r : SendOutcome) : SelfTestState :=
  { st with status := r.status, inst := r.inst, dataSize := r.dataSize }

/-- An iteration of the retry loop. -/
def selfTestAttempt (st : SelfTestState) : InitProg (Iter SelfTestState SelfTestState) := do
  let r ← ipmiSendCommand netfnApp appGetSelftestResults st.inst st.dataSize
  let st := st.afterSend r
  if st.status = .success ∧ Classified (selfTestResult st.inst).result then
    return .done st
  else do
    microSecondDelay (500 * 1000)
    let st := { st with retries := st.retries - 1 }
    if st.retries > 0 then
      return .again st
    else
      return .done st

/-- The number of attempts that `Retries` starts with. -/
def selfTestRetries (pcds : Pcds) : UInt32 :=
  if pcds.ipmiBmcReadyDelayTimer < pcds.bmcTimeoutSeconds then
    1
  else
    pcds.ipmiBmcReadyDelayTimer.toUInt32

/-- The bytes of `TempData` that are copied to `ErrorStatus`. -/
def copyErrorStatus (dataSize : UInt32) (inst : IpmiBmcInstanceData) : IpmiBmcInstanceData :=
  { inst with
    errorStatus := longOf ((byteOfLong inst.errorStatus).store 0
      (inst.temp.slice 0 (min dataSize.toNat 8))) 0 }

/-- The switch on the result: the instance and the log after it. -/
def classifySelfTest (inst : IpmiBmcInstanceData) (log : ErrorLog) :
    InitProg (IpmiBmcInstanceData × ErrorLog) := do
  let result := (selfTestResult inst).result
  if result = selftestNoError ∨ result = selftestNotImplemented then
    return ({ inst with bmcStatus := bmcOk }, log)
  else if result = selftestError then
    -- the source reads `TempData[1]`, which is the result
    let bits := inst.temp 1
    let hard := bits &&& (selftestFruCorrupt ||| selftestFwBootblockCorrupt ||| selftestFwCorrupt) ≠ 0
    let log := if bits &&& selftestSdrRepositoryEmpty ≠ 0 then log.append .sdrEmpty else log
    return ({ inst with bmcStatus := if hard then bmcHardfail else bmcSoftfail }, log)
  else if result = selftestFatalHwError then
    return ({ inst with bmcStatus := bmcHardfail }, log)
  else do
    let bmcStatus ← getDeviceSpecificTestResults (selfTestResult inst) inst.bmcStatus
    return ({ inst with bmcStatus }, log)

/-- The status code that goes with a failed BMC. -/
def logFailure (inst : IpmiBmcInstanceData) (log : ErrorLog) : ErrorLog :=
  if inst.bmcStatus = bmcHardfail then
    log.append .hardFail
  else if inst.bmcStatus = bmcSoftfail then
    log.append .softFail
  else
    log

/-- What follows the retry loop. -/
def finishSelfTest (st : SelfTestState) (log : ErrorLog) :
    InitProg (EfiStatus × IpmiBmcInstanceData × ErrorLog) := do
  if st.status.isError ∨ st.retries = 0 then
    return (st.status, { st.inst with bmcStatus := bmcHardfail }, log.append .commError)
  else do
    let (inst, log) ← classifySelfTest (copyErrorStatus st.dataSize st.inst) log
    return (.success, inst, logFailure inst log)

/-- `GetSelfTest`. -/
def getSelfTest (pcds : Pcds) (fuel : ℕ) (inst : IpmiBmcInstanceData) (log : ErrorLog) :
    InitProg (EfiStatus × IpmiBmcInstanceData × ErrorLog) := do
  let st ← Prog.loop selfTestAttempt fuel
    { status := .success
      inst := inst.storeTemp 1 [0]
      dataSize := UInt32.ofNat maxTempData
      retries := selfTestRetries pcds }
  finishSelfTest st log

/-! ### IpmiInitializeBmc -/

/-- Report the values of the log, one after the other. -/
def reportStatusCodes : List StatusCodeValue → InitProg Unit
  | [] => return ()
  | value :: values => do
    reportStatusCode value
    reportStatusCodes values

/-- The self test, unless it is switched off or the BMC is in Force Update Mode or has failed. -/
def checkSelfTest (pcds : Pcds) (fuel : ℕ) (status : EfiStatus) (inst : IpmiBmcInstanceData) :
    InitProg (EfiStatus × IpmiBmcInstanceData × ErrorLog) :=
  if pcds.ipmiCheckSelfTestResults ∧ inst.bmcStatus ≠ bmcUpdateInProgress ∧
      inst.bmcStatus ≠ bmcHardfail then
    getSelfTest pcds fuel inst .empty
  else
    return (status, inst, .empty)

/-- `IpmiInitializeBmc`. -/
def ipmiInitializeBmc (pcds : Pcds) (fuel : ℕ) (inst : IpmiBmcInstanceData) :
    InitProg (EfiStatus × IpmiBmcInstanceData) := do
  let status ← platformIpmiInitialize
  if status.isError then
    return (status, inst)
  else do
    let (status, inst) ← getDeviceId pcds fuel inst
    let (status, inst, log) ← checkSelfTest pcds fuel status inst
    reportStatusCodes log.values
    return (status, inst)

end Initialize

end IpmiFeature
