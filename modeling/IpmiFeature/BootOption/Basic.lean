import IpmiFeature.BaseLib.Basic
import IpmiFeature.BootOption.Flags

/-!
# Boot options

`IpmiBootOptionLib.c` and the entry point of `IpmiCmosClear.c` over a base library.  Parameter 5
holds the boot flags, which both `IpmiGetBootDevice` and `IpmiGetCmosClearOption` read and write
back.
-/

namespace IpmiFeature

open Interaction

namespace BootOption

/-! ### Commands -/

/-- The request of `IpmiGetBootOption`. -/
def getCall (parameterSelector : UInt8) (responseSize : UInt32) : SubmitCall where
  netFunction := netfnChassis
  command := chassisGetSystemBootOptions
  commandData := [parameterSelector &&& 0x7F, 0, 0]
  responseDataSize := responseSize

/-- The request of `IpmiSetBootFlags`. -/
def setFlagsCall (flags : BootFlags) : SubmitCall where
  netFunction := netfnChassis
  command := chassisSetSystemBootOptions
  commandData := parameterBootFlags :: flags.bytes
  responseDataSize := 1

/-- The request of `IpmiAcknowledgeBootOption`. -/
def acknowledgeCall : SubmitCall where
  netFunction := netfnChassis
  command := chassisSetSystemBootOptions
  commandData := [parameterBootInfoAck, bootOptionHandledByBios, 0]
  responseDataSize := 1

/-- What `IpmiGetBootOption` makes of the reply. -/
def checkBootOption (responseSize : UInt32) (reply : SubmitReply) :
    Except EfiStatus (Memory UInt8) :=
  if reply.status.isError then
    .error reply.status
  else if reply.responseDataSize < 1 then
    .error .badBufferSize
  else if reply.response 0 ≠ compCodeNormal then
    .error .protocolError
  else if reply.responseDataSize < responseSize then
    .error .badBufferSize
  else
    .ok reply.response

/-- `IpmiGetBootOption`: the response, unless there is an error. -/
def ipmiGetBootOption (parameterSelector : UInt8) (responseSize : UInt32) :
    SubmitProg (Except EfiStatus (Memory UInt8)) :=
  if responseSize.toNat < responseHeaderSize then
    return .error .invalidParameter
  else do
    let reply ← ipmiSubmitCommand (getCall parameterSelector responseSize)
    return checkBootOption responseSize reply

/-- `Header.ParameterValid.Bits.ParameterValid`, which is set when the parameter is invalid. -/
def parameterInvalid (response : Memory UInt8) : Bool := response 2 &&& 0x80 != 0

/-- `SetInProgress`, from the response. -/
def setInProgressOf (response : Memory UInt8) : Bool :=
  if parameterInvalid response then false else response 3 &&& 0x01 != 0

/-- `IpmiCheckSetInProgress`. -/
def ipmiCheckSetInProgress : SubmitProg (Except EfiStatus Bool) := do
  let response ← ipmiGetBootOption parameterSetInProgress 4
  return response.map setInProgressOf

/-- `IpmiAcknowledgeBootOption`. -/
def ipmiAcknowledgeBootOption : SubmitProg Unit := do
  -- what comes back is printed only
  let _ ← ipmiSubmitCommand acknowledgeCall
  return ()

/-- The status of `IpmiSetBootFlags`. -/
def setBootFlagsStatus (reply : SubmitReply) : EfiStatus :=
  if reply.status.isError then
    reply.status
  else if reply.responseDataSize < 1 then
    -- a response that is too short is not an error
    reply.status
  else if reply.response 0 ≠ compCodeNormal then
    .protocolError
  else
    reply.status

/-- `IpmiSetBootFlags`. -/
def ipmiSetBootFlags (bootFlags : BootFlags) : SubmitProg EfiStatus := do
  let reply ← ipmiSubmitCommand (setFlagsCall bootFlags)
  return setBootFlagsStatus reply

/-- `BootFlags` and `FlagsValid`, from the response. -/
def bootFlagsOf (response : Memory UInt8) : BootFlags × Bool :=
  let flags := BootFlags.ofMemory response responseHeaderSize
  if parameterInvalid response then
    (.zero, false)
  else if ¬ flags.bootFlagValid then
    (.zero, false)
  else
    (flags, true)

/-- `IpmiGetBootFlags`. -/
def ipmiGetBootFlags : SubmitProg (Except EfiStatus (BootFlags × Bool)) := do
  let response ← ipmiGetBootOption parameterBootFlags 8
  return response.map bootFlagsOf

/-! ### Requests -/

/-- `IpmiGetBootDevice`, with `*Selector` before the call: the status and `*Selector` after it. -/
def ipmiGetBootDevice (selector : BootOptionSelector) :
    SubmitProg (EfiStatus × BootOptionSelector) := do
  match ← ipmiCheckSetInProgress with
  | .error status => return (status, selector)
  | .ok true => return (.notReady, selector)
  | .ok false =>
    match ← ipmiGetBootFlags with
    | .error status => return (status, .bootNone)
    | .ok (flagsData, flagsValid) =>
      let selector := if flagsValid then flagsData.bootDeviceSelector else .bootNone
      if flagsValid ∧ ¬ flagsData.persistentOptions then
        -- nothing looks at the status
        let _ ← ipmiSetBootFlags .zero
        ipmiAcknowledgeBootOption
        return (.success, selector)
      else
        ipmiAcknowledgeBootOption
        return (.success, selector)

/-- `IpmiGetCmosClearOption`: the status and `*ClearCmos`. -/
def ipmiGetCmosClearOption : SubmitProg (EfiStatus × Bool) := do
  match ← ipmiCheckSetInProgress with
  | .error status => return (status, false)
  | .ok true => return (.notReady, false)
  | .ok false =>
    match ← ipmiGetBootFlags with
    | .error status => return (status, false)
    | .ok (flagsData, flagsValid) =>
      if ¬ flagsValid then
        return (.success, false)
      else if flagsData.cmosClear then
        let _ ← ipmiSetBootFlags flagsData.clearCmos
        return (.success, true)
      else
        return (.success, false)

/-- What comes of `IpmiCmosEntryPoint`. -/
structure CmosEntry where
  /-- What `IpmiGetCmosClearOption` has returned. -/
  option : EfiStatus × Bool
  /-- The status returned. -/
  status : EfiStatus
  /-- `ResetSystem` has been called. -/
  reset : Bool
  deriving DecidableEq, Repr

/-- `IpmiCmosEntryPoint`, with the status and `RebootRequired` of `PlatformClearCmos`, should it be
called. -/
def ipmiCmosEntryPoint (platformClearCmos : EfiStatus × Bool) : SubmitProg CmosEntry := do
  let option ← ipmiGetCmosClearOption
  if option.1.isError then
    return ⟨option, option.1, false⟩
  else if option.2 then
    if platformClearCmos.1.isError then
      return ⟨option, platformClearCmos.1, false⟩
    else
      return ⟨option, .success, platformClearCmos.2⟩
  else
    return ⟨option, .success, false⟩

end BootOption

end IpmiFeature
