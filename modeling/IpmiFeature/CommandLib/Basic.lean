import IpmiFeature.BaseLib.Dxe

/-!
# The command library

The wrappers of `IpmiCommandLib`, one for each command, over any implementation of
`IpmiSubmitCommand`.  A wrapper sees its caller's memory (`Caller`): the objects behind the request
and the response parameter, the caller's size variable, and the memory at the address of the
response parameter itself.  The sizes of the types of MdePkg are a parameter, `MdeSizes`.
-/

namespace IpmiFeature

open Interaction BaseLib

namespace CommandLib

/-! ### Sizes -/

/-- The types of MdePkg whose size a wrapper uses: those of requests and of responses. -/
inductive MdeType where
  | getDeviceIdResponse
  | selfTestResultResponse
  | setWatchdogTimerRequest
  | getWatchdogTimerResponse
  | setBmcGlobalEnablesRequest
  | getBmcGlobalEnablesResponse
  | clearMessageFlagsRequest
  | getMessageFlagsResponse
  | getDeviceGuidResponse
  | getChannelInfoRequest
  | getChannelInfoResponse
  | getFruInventoryAreaInfoRequest
  | getFruInventoryAreaInfoResponse
  | readFruDataRequest
  | writeFruDataResponse
  | getSelInfoResponse
  | getSelEntryRequest
  | addSelEntryRequest
  | addSelEntryResponse
  | partialAddSelEntryResponse
  | clearSelRequest
  | clearSelResponse
  | getSelTimeResponse
  | setSelTimeRequest
  | getSdrRepositoryInfoResponse
  | getSdrRequest
  | solActivatingRequest
  | getSolConfigurationParametersRequest
  | getLanConfigurationParametersRequest
  | getChassisCapabilitiesResponse
  | getChassisStatusResponse
  | chassisControlRequest
  | setPowerRestorePolicyRequest
  | setPowerRestorePolicyResponse
  | setBootOptionsRequest
  | setBootOptionsResponse
  | getBootOptionsRequest
  | getBootOptionsResponse
  | sensorSetSensorThresholdRequestData
  | sensorGetSensorThresholdResponseData
  deriving DecidableEq, Repr

/-- The sizes of the types of MdePkg. -/
structure MdeSizes where
  /-- `sizeof`. -/
  size : MdeType → UInt32
  /-- They are small. -/
  size_lt : ∀ t, (size t).toNat < 256
  /-- `IPMI_GET_DEVICE_GUID_RESPONSE` is a completion code and a GUID. -/
  size_guid : size .getDeviceGuidResponse = 17

/-- The sizes as the specification has them. -/
def specSize : MdeType → UInt32
  | .getDeviceIdResponse => 16
  | .selfTestResultResponse => 3
  | .setWatchdogTimerRequest => 6
  | .getWatchdogTimerResponse => 9
  | .setBmcGlobalEnablesRequest => 1
  | .getBmcGlobalEnablesResponse => 2
  | .clearMessageFlagsRequest => 1
  | .getMessageFlagsResponse => 2
  | .getDeviceGuidResponse => 17
  | .getChannelInfoRequest => 1
  | .getChannelInfoResponse => 10
  | .getFruInventoryAreaInfoRequest => 1
  | .getFruInventoryAreaInfoResponse => 4
  | .readFruDataRequest => 4
  | .writeFruDataResponse => 2
  | .getSelInfoResponse => 15
  | .getSelEntryRequest => 6
  | .addSelEntryRequest => 16
  | .addSelEntryResponse => 3
  | .partialAddSelEntryResponse => 3
  | .clearSelRequest => 6
  | .clearSelResponse => 2
  | .getSelTimeResponse => 5
  | .setSelTimeRequest => 4
  | .getSdrRepositoryInfoResponse => 15
  | .getSdrRequest => 6
  | .solActivatingRequest => 4
  | .getSolConfigurationParametersRequest => 4
  | .getLanConfigurationParametersRequest => 4
  | .getChassisCapabilitiesResponse => 7
  | .getChassisStatusResponse => 5
  | .chassisControlRequest => 1
  | .setPowerRestorePolicyRequest => 1
  | .setPowerRestorePolicyResponse => 2
  | .setBootOptionsRequest => 1
  | .setBootOptionsResponse => 1
  | .getBootOptionsRequest => 3
  | .getBootOptionsResponse => 3
  | .sensorSetSensorThresholdRequestData => 8
  | .sensorGetSensorThresholdResponseData => 8

/-- The sizes as the specification has them. -/
def specSizes : MdeSizes where
  size := specSize
  size_lt t := by cases t <;> decide
  size_guid := rfl

/-- `sizeof (IPMI_GET_SYSTEM_INTERFACE_CAPABILITY_REQUEST)`. -/
def sizeofCapabilityRequest : UInt32 := 1

/-- `sizeof (IPMI_GET_SYSTEM_INTERFACE_CAPABILITY_RESPONSE)`: that of the SSIF member. -/
def sizeofCapabilityResponse : UInt32 := 5

/-! ### The caller -/

/-- What a wrapper gets from its caller. -/
structure Caller where
  /-- One of the pointers is `NULL`; only some of the wrappers look. -/
  hasNull : Bool
  /-- The object behind the request parameter, or the parameter if it is passed by value. -/
  request : Memory UInt8
  /-- The size of the request, if it is a parameter. -/
  requestSize : UInt32
  /-- The object behind the response parameter. -/
  response : Memory UInt8
  /-- The size variable of the caller. -/
  responseSize : UInt32
  /-- The memory at the address of the response parameter: the pointer, and what follows it. -/
  parameter : Memory UInt8
  /-- What the locals of the wrapper hold at first. -/
  stack : Memory UInt8

/-- A request of a given size. -/
def Caller.requestOf (c : Caller) (size : UInt32) : List UInt8 := c.request.slice 0 size.toNat

/-! ### The wrappers -/

section

variable {m : Type → Type} [Monad m] (submit : BufferedCall → m SubmitResult) (sizes : MdeSizes)

/-- A command with a local size variable. -/
def submitOwnSize (netFunction command : UInt8) (commandData : List UInt8) (size : UInt32)
    (c : Caller) : m (EfiStatus × Caller) := do
  let result ← submit ⟨⟨netFunction, command, commandData, size⟩, c.response⟩
  return (result.status, { c with response := result.buffer })

/-- A command with the size variable of the caller. -/
def submitCallerSize (netFunction command : UInt8) (commandData : List UInt8) (c : Caller) :
    m (EfiStatus × Caller) := do
  let result ← submit ⟨⟨netFunction, command, commandData, c.responseSize⟩, c.response⟩
  return (result.status, { c with response := result.buffer, responseSize := result.size })

variable (c : Caller)

/-- `IpmiGetDeviceId`. -/
def ipmiGetDeviceId : m (EfiStatus × Caller) :=
  submitOwnSize submit netfnApp appGetDeviceId [] (sizes.size .getDeviceIdResponse) c

/-- `IpmiGetSelfTestResult`. -/
def ipmiGetSelfTestResult : m (EfiStatus × Caller) :=
  submitOwnSize submit netfnApp appGetSelftestResults [] (sizes.size .selfTestResultResponse) c

/-- `IpmiResetWatchdogTimer`. -/
def ipmiResetWatchdogTimer : m (EfiStatus × Caller) :=
  submitOwnSize submit netfnApp appResetWatchdogTimer [] 1 c

/-- `IpmiSetWatchdogTimer`. -/
def ipmiSetWatchdogTimer : m (EfiStatus × Caller) :=
  submitOwnSize submit netfnApp appSetWatchdogTimer
    (c.requestOf (sizes.size .setWatchdogTimerRequest)) 1 c

/-- `IpmiGetWatchdogTimer`. -/
def ipmiGetWatchdogTimer : m (EfiStatus × Caller) :=
  submitOwnSize submit netfnApp appGetWatchdogTimer [] (sizes.size .getWatchdogTimerResponse) c

/-- `IpmiSetBmcGlobalEnables`. -/
def ipmiSetBmcGlobalEnables : m (EfiStatus × Caller) :=
  submitOwnSize submit netfnApp appSetBmcGlobalEnables
    (c.requestOf (sizes.size .setBmcGlobalEnablesRequest)) 1 c

/-- `IpmiGetBmcGlobalEnables`. -/
def ipmiGetBmcGlobalEnables : m (EfiStatus × Caller) :=
  submitOwnSize submit netfnApp appGetBmcGlobalEnables [] (sizes.size .getBmcGlobalEnablesResponse)
    c

/-- `IpmiClearMessageFlags`. -/
def ipmiClearMessageFlags : m (EfiStatus × Caller) :=
  submitOwnSize submit netfnApp appClearMessageFlags
    (c.requestOf (sizes.size .clearMessageFlagsRequest)) 1 c

/-- `IpmiGetMessageFlags`. -/
def ipmiGetMessageFlags : m (EfiStatus × Caller) :=
  submitOwnSize submit netfnApp appGetMessageFlags [] (sizes.size .getMessageFlagsResponse) c

/-- `IpmiGetMessage`. -/
def ipmiGetMessage : m (EfiStatus × Caller) :=
  submitCallerSize submit netfnApp appGetMessage [] c

/-- `IpmiSendMessage`. -/
def ipmiSendMessage : m (EfiStatus × Caller) :=
  submitCallerSize submit netfnApp appSendMessage (c.requestOf c.requestSize) c

/-- The bytes of `*SystemGuid`, from the local `GuidResponse`: the order of the fields is reversed. -/
def convertedGuid (guidResponse : Memory UInt8) : List UInt8 :=
  guidResponse.slice 13 4 ++ guidResponse.slice 11 2 ++ guidResponse.slice 9 2 ++
    guidResponse.slice 1 8

/-- `IpmiGetSystemUuid`: the response goes to the local `GuidResponse`, and from there to
`*SystemGuid`. -/
def ipmiGetSystemUuid : m (EfiStatus × Caller) :=
  if c.hasNull then
    return (.invalidParameter, c)
  else do
    let guidResponse : Memory UInt8 := Memory.store c.stack 0 (List.replicate 17 0)
    let result ← submit ⟨⟨netfnApp, appGetSystemGuid, [], sizes.size .getDeviceGuidResponse⟩,
      guidResponse⟩
    if result.status.isError then
      return (result.status, c)
    else
      return (result.status, { c with response := c.response.store 0 (convertedGuid result.buffer) })

/-- `IpmiGetSystemInterfaceCapabilities`.  The response size is that of the request. -/
def ipmiGetSystemInterfaceCapabilities : m (EfiStatus × Caller) :=
  if c.hasNull then
    return (.invalidParameter, c)
  else
    submitOwnSize submit netfnApp appGetSystemInterfaceCapabilities [c.request 0 &&& 0x0F]
      sizeofCapabilityRequest c

/-- `IpmiGetChannelInfo`: it sets the size of the caller itself. -/
def ipmiGetChannelInfo : m (EfiStatus × Caller) :=
  if c.hasNull then
    return (.invalidParameter, c)
  else
    submitCallerSize submit netfnApp appGetChannelInfo
      (c.requestOf (sizes.size .getChannelInfoRequest))
      { c with responseSize := sizes.size .getChannelInfoResponse }

/-- `IpmiGetFruInventoryAreaInfo`. -/
def ipmiGetFruInventoryAreaInfo : m (EfiStatus × Caller) :=
  submitOwnSize submit netfnStorage storageGetFruInventoryAreainfo
    (c.requestOf (sizes.size .getFruInventoryAreaInfoRequest))
    (sizes.size .getFruInventoryAreaInfoResponse) c

/-- `IpmiReadFruData`. -/
def ipmiReadFruData : m (EfiStatus × Caller) :=
  submitCallerSize submit netfnStorage storageReadFruData
    (c.requestOf (sizes.size .readFruDataRequest)) c

/-- `IpmiWriteFruData`. -/
def ipmiWriteFruData : m (EfiStatus × Caller) :=
  submitOwnSize submit netfnStorage storageWriteFruData (c.requestOf c.requestSize)
    (sizes.size .writeFruDataResponse) c

/-- `IpmiGetSelInfo`. -/
def ipmiGetSelInfo : m (EfiStatus × Caller) :=
  submitOwnSize submit netfnStorage storageGetSelInfo [] (sizes.size .getSelInfoResponse) c

/-- `IpmiGetSelEntry`. -/
def ipmiGetSelEntry : m (EfiStatus × Caller) :=
  submitCallerSize submit netfnStorage storageGetSelEntry
    (c.requestOf (sizes.size .getSelEntryRequest)) c

/-- `IpmiAddSelEntry`. -/
def ipmiAddSelEntry : m (EfiStatus × Caller) :=
  submitOwnSize submit netfnStorage storageAddSelEntry
    (c.requestOf (sizes.size .addSelEntryRequest)) (sizes.size .addSelEntryResponse) c

/-- `IpmiPartialAddSelEntry`. -/
def ipmiPartialAddSelEntry : m (EfiStatus × Caller) :=
  submitOwnSize submit netfnStorage storagePartialAddSelEntry (c.requestOf c.requestSize)
    (sizes.size .partialAddSelEntryResponse) c

/-- `IpmiClearSel`. -/
def ipmiClearSel : m (EfiStatus × Caller) :=
  submitOwnSize submit netfnStorage storageClearSel (c.requestOf (sizes.size .clearSelRequest))
    (sizes.size .clearSelResponse) c

/-- `IpmiGetSelTime`. -/
def ipmiGetSelTime : m (EfiStatus × Caller) :=
  submitOwnSize submit netfnStorage storageGetSelTime [] (sizes.size .getSelTimeResponse) c

/-- `IpmiSetSelTime`. -/
def ipmiSetSelTime : m (EfiStatus × Caller) :=
  submitOwnSize submit netfnStorage storageSetSelTime (c.requestOf (sizes.size .setSelTimeRequest))
    1 c

/-- `IpmiGetSdrRepositoryInfo`. -/
def ipmiGetSdrRepositoryInfo : m (EfiStatus × Caller) :=
  submitOwnSize submit netfnStorage storageGetSdrRepositoryInfo []
    (sizes.size .getSdrRepositoryInfoResponse) c

/-- `IpmiGetSdr`. -/
def ipmiGetSdr : m (EfiStatus × Caller) :=
  submitCallerSize submit netfnStorage storageGetSdr (c.requestOf (sizes.size .getSdrRequest)) c

/-- `IpmiSolActivating`. -/
def ipmiSolActivating : m (EfiStatus × Caller) :=
  submitOwnSize submit netfnTransport transportSolActivating
    (c.requestOf (sizes.size .solActivatingRequest)) 1 c

/-- `IpmiSetSolConfigurationParameters`. -/
def ipmiSetSolConfigurationParameters : m (EfiStatus × Caller) :=
  submitOwnSize submit netfnTransport transportSetSolConfigParam (c.requestOf c.requestSize) 1 c

/-- `IpmiGetSolConfigurationParameters`. -/
def ipmiGetSolConfigurationParameters : m (EfiStatus × Caller) :=
  submitCallerSize submit netfnTransport transportGetSolConfigParam
    (c.requestOf (sizes.size .getSolConfigurationParametersRequest)) c

/-- `IpmiGetLanConfigurationParameters`. -/
def ipmiGetLanConfigurationParameters : m (EfiStatus × Caller) :=
  if c.hasNull then
    return (.invalidParameter, c)
  else
    submitCallerSize submit netfnTransport transportGetLanConfigParameters
      (c.requestOf (sizes.size .getLanConfigurationParametersRequest)) c

/-- `IpmiGetChassisCapabilities`. -/
def ipmiGetChassisCapabilities : m (EfiStatus × Caller) :=
  submitOwnSize submit netfnChassis chassisGetCapabilities []
    (sizes.size .getChassisCapabilitiesResponse) c

/-- `IpmiGetChassisStatus`. -/
def ipmiGetChassisStatus : m (EfiStatus × Caller) :=
  submitOwnSize submit netfnChassis chassisGetStatus [] (sizes.size .getChassisStatusResponse) c

/-- `IpmiChassisControl`. -/
def ipmiChassisControl : m (EfiStatus × Caller) :=
  submitOwnSize submit netfnChassis chassisControl (c.requestOf (sizes.size .chassisControlRequest))
    1 c

/-- `IpmiSetPowerRestorePolicy`. -/
def ipmiSetPowerRestorePolicy : m (EfiStatus × Caller) :=
  submitOwnSize submit netfnChassis chassisSetPowerRestorePolicy
    (c.requestOf (sizes.size .setPowerRestorePolicyRequest))
    (sizes.size .setPowerRestorePolicyResponse) c

/-- `IpmiSetSystemBootOptions`. -/
def ipmiSetSystemBootOptions : m (EfiStatus × Caller) :=
  submitOwnSize submit netfnChassis chassisSetSystemBootOptions
    (c.requestOf (sizes.size .setBootOptionsRequest)) (sizes.size .setBootOptionsResponse) c

/-- `IpmiGetSystemBootOptions`. -/
def ipmiGetSystemBootOptions : m (EfiStatus × Caller) :=
  submitOwnSize submit netfnChassis chassisGetSystemBootOptions
    (c.requestOf (sizes.size .getBootOptionsRequest)) (sizes.size .getBootOptionsResponse) c

/-- `IpmiSetSensorThreshold`. -/
def ipmiSetSensorThreshold : m (EfiStatus × Caller) :=
  if c.hasNull then
    return (.invalidParameter, c)
  else
    submitOwnSize submit netfnSensorEvent sensorSetSensorThresholds
      (c.requestOf (sizes.size .sensorSetSensorThresholdRequestData)) 1 c

/-- `IpmiGetSensorThreshold`: both the memory that is cleared and the response buffer are at the
address of the parameter `GetSensorThresholdResponse`, not behind it. -/
def ipmiGetSensorThreshold : m (EfiStatus × Caller) :=
  if c.hasNull then
    return (.invalidParameter, c)
  else do
    let size := sizes.size .sensorGetSensorThresholdResponseData
    let parameter := c.parameter.store 0 (List.replicate size.toNat 0)
    let result ← submit
      ⟨⟨netfnSensorEvent, sensorGetSensorThresholds, [c.request 0], size⟩, parameter⟩
    return (result.status, { c with parameter := result.buffer })

end

/-! ### All of them -/

/-- The wrappers. -/
inductive Wrapper where
  | getDeviceId
  | getSelfTestResult
  | resetWatchdogTimer
  | setWatchdogTimer
  | getWatchdogTimer
  | setBmcGlobalEnables
  | getBmcGlobalEnables
  | clearMessageFlags
  | getMessageFlags
  | getMessage
  | sendMessage
  | getSystemUuid
  | getSystemInterfaceCapabilities
  | getChannelInfo
  | getFruInventoryAreaInfo
  | readFruData
  | writeFruData
  | getSelInfo
  | getSelEntry
  | addSelEntry
  | partialAddSelEntry
  | clearSel
  | getSelTime
  | setSelTime
  | getSdrRepositoryInfo
  | getSdr
  | solActivating
  | setSolConfigurationParameters
  | getSolConfigurationParameters
  | getLanConfigurationParameters
  | getChassisCapabilities
  | getChassisStatus
  | chassisControl
  | setPowerRestorePolicy
  | setSystemBootOptions
  | getSystemBootOptions
  | setSensorThreshold
  | getSensorThreshold
  deriving DecidableEq, Repr

/-- The wrapper, called. -/
def Wrapper.run {m : Type → Type} [Monad m] (w : Wrapper) (submit : BufferedCall → m SubmitResult)
    (sizes : MdeSizes) (c : Caller) : m (EfiStatus × Caller) :=
  match w with
  | .getDeviceId => ipmiGetDeviceId submit sizes c
  | .getSelfTestResult => ipmiGetSelfTestResult submit sizes c
  | .resetWatchdogTimer => ipmiResetWatchdogTimer submit c
  | .setWatchdogTimer => ipmiSetWatchdogTimer submit sizes c
  | .getWatchdogTimer => ipmiGetWatchdogTimer submit sizes c
  | .setBmcGlobalEnables => ipmiSetBmcGlobalEnables submit sizes c
  | .getBmcGlobalEnables => ipmiGetBmcGlobalEnables submit sizes c
  | .clearMessageFlags => ipmiClearMessageFlags submit sizes c
  | .getMessageFlags => ipmiGetMessageFlags submit sizes c
  | .getMessage => ipmiGetMessage submit c
  | .sendMessage => ipmiSendMessage submit c
  | .getSystemUuid => ipmiGetSystemUuid submit sizes c
  | .getSystemInterfaceCapabilities => ipmiGetSystemInterfaceCapabilities submit c
  | .getChannelInfo => ipmiGetChannelInfo submit sizes c
  | .getFruInventoryAreaInfo => ipmiGetFruInventoryAreaInfo submit sizes c
  | .readFruData => ipmiReadFruData submit sizes c
  | .writeFruData => ipmiWriteFruData submit sizes c
  | .getSelInfo => ipmiGetSelInfo submit sizes c
  | .getSelEntry => ipmiGetSelEntry submit sizes c
  | .addSelEntry => ipmiAddSelEntry submit sizes c
  | .partialAddSelEntry => ipmiPartialAddSelEntry submit sizes c
  | .clearSel => ipmiClearSel submit sizes c
  | .getSelTime => ipmiGetSelTime submit sizes c
  | .setSelTime => ipmiSetSelTime submit sizes c
  | .getSdrRepositoryInfo => ipmiGetSdrRepositoryInfo submit sizes c
  | .getSdr => ipmiGetSdr submit sizes c
  | .solActivating => ipmiSolActivating submit sizes c
  | .setSolConfigurationParameters => ipmiSetSolConfigurationParameters submit c
  | .getSolConfigurationParameters => ipmiGetSolConfigurationParameters submit sizes c
  | .getLanConfigurationParameters => ipmiGetLanConfigurationParameters submit sizes c
  | .getChassisCapabilities => ipmiGetChassisCapabilities submit sizes c
  | .getChassisStatus => ipmiGetChassisStatus submit sizes c
  | .chassisControl => ipmiChassisControl submit sizes c
  | .setPowerRestorePolicy => ipmiSetPowerRestorePolicy submit sizes c
  | .setSystemBootOptions => ipmiSetSystemBootOptions submit sizes c
  | .getSystemBootOptions => ipmiGetSystemBootOptions submit sizes c
  | .setSensorThreshold => ipmiSetSensorThreshold submit sizes c
  | .getSensorThreshold => ipmiGetSensorThreshold submit sizes c

end CommandLib

end IpmiFeature
