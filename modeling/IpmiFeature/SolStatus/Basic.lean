import IpmiFeature.CommandLib.Basic

/-!
# The Serial Over LAN driver

`SolStatus.c` over a base library.  The driver asks for the status of every channel from 1 to
`PcdMaxSOLChannels`, and sends a command that fails again after a while.  What the locals of a
function hold at first is the parameter `stack`; `sizeofResponse` and `sizeofSetRequest` are the
sizes of two types of MdePkg.
-/

namespace IpmiFeature

open Interaction BaseLib CommandLib

namespace SolStatus

/-! ### Calls -/

/-- The calls of the driver. -/
inductive SolCall where
  /-- `IpmiSubmitCommand`. -/
  | submit (call : SubmitCall)
  /-- `gBS->Stall`; nothing looks at its status. -/
  | stall (microseconds : UInt64)

/-- What the calls are answered with. -/
abbrev SolCall.Answer : SolCall → Type
  | submit _ => SubmitReply
  | stall _ => Unit

/-- A call with its answer. -/
abbrev SolEvent := Event SolCall SolCall.Answer

/-- Programs over these calls. -/
abbrev SolProg := Prog SolCall SolCall.Answer

/-! ### Constants -/

/-- `SOL_CMD_RETRY_COUNT`. -/
def solCmdRetryCount : UInt8 := 10

/-- `IPMI_SOL_CONFIGURATION_PARAMETER_SOL_ENABLE`. -/
def parameterSolEnable : UInt8 := 1

/-- What is stored in `ChannelNumber.Bits.ChannelNumber`, which has four bits. -/
def channelNumber (channel : UInt8) : UInt8 := channel &&& 0x0F

/-! ### Commands -/

/-- What a loop over `RetryCount` leaves behind. -/
structure Attempted where
  status : EfiStatus
  /-- The response, or the completion code. -/
  response : Memory UInt8

/-- One iteration of a loop over `RetryCount`. -/
def retryIteration (attempt : SolProg (EfiStatus × Caller)) (locals : Attempted × UInt8) :
    SolProg (Iter (Attempted × UInt8) Attempted) :=
  let (last, retryCount) := locals
  if retryCount < solCmdRetryCount then do
    let (status, c) ← attempt
    if status = .success then
      return .done ⟨status, c.response⟩
    else do
      Prog.perform (SolCall.stall 100000)
      return .again (⟨status, c.response⟩, retryCount + 1)
  else
    return .done last

section

variable (stack : Memory UInt8)

/-- The loop over `RetryCount` of `GetSOLStatus` and of `SetSOLParams`. -/
def retried (fuel : ℕ) (attempt : SolProg (EfiStatus × Caller)) : SolProg Attempted :=
  Prog.loop (retryIteration attempt) fuel (⟨.success, stack⟩, 0)

/-- An attempt of `GetSOLStatus`, with both locals set to zero before. -/
def getAttempt (sizeofResponse : UInt32) (channel paramSel : UInt8) :
    SolProg (EfiStatus × Caller) :=
  let request := [channelNumber channel, paramSel, 0, 0]
  let response := List.replicate sizeofResponse.toNat 0
  (ipmiGetSolConfigurationParameters submitBuffered specSizes
    ⟨false, stack.store 0 request, 0, stack.store 0 response, sizeofResponse, stack, stack⟩).embed
      SolCall.submit

/-- `GetSOLStatus`, with `*Data` before the call: the status and `*Data` after it. -/
def getSOLStatus (sizeofResponse : UInt32) (fuel : ℕ) (channel paramSel data : UInt8) :
    SolProg (EfiStatus × UInt8) := do
  let last ← retried stack fuel (getAttempt stack sizeofResponse channel paramSel)
  if last.status = .success then
    -- `ParameterData` comes after the completion code and the revision
    return (last.status, last.response 2)
  else
    return (last.status, data)

/-- The request of `SetSOLParams`, set to zero before. -/
def setRequest (sizeofSetRequest : UInt32) (channel paramSel data : UInt8) : Memory UInt8 :=
  (stack.store 0 (List.replicate sizeofSetRequest.toNat 0)).store 0
    [channelNumber channel, paramSel, data]

/-- An attempt of `SetSOLParams`. -/
def setAttempt (sizeofSetRequest : UInt32) (channel paramSel data : UInt8) :
    SolProg (EfiStatus × Caller) :=
  let request := setRequest stack sizeofSetRequest channel paramSel data
  (ipmiSetSolConfigurationParameters submitBuffered
    ⟨false, request, sizeofSetRequest, stack.store 0 [0], 0, stack, stack⟩).embed SolCall.submit

/-- `SetSOLParams`. -/
def setSOLParams (sizeofSetRequest : UInt32) (fuel : ℕ) (channel paramSel data : UInt8) :
    SolProg EfiStatus := do
  let last ← retried stack fuel (setAttempt stack sizeofSetRequest channel paramSel data)
  return last.status

/-! ### The driver -/

/-- The locals of `SolStatusEntryPoint`. -/
structure Scan where
  channel : UInt8
  status : EfiStatus
  solEnabled : UInt8

/-- One iteration of the loop over the channels. -/
def scanIteration (sizeofResponse : UInt32) (fuel : ℕ) (maxSOLChannels : UInt8) (locals : Scan) :
    SolProg (Iter Scan EfiStatus) :=
  if locals.channel ≤ maxSOLChannels then do
    let (status, solEnabled) ←
      getSOLStatus stack sizeofResponse fuel locals.channel parameterSolEnable locals.solEnabled
    -- the counter is a byte
    return .again ⟨locals.channel + 1, status, solEnabled⟩
  else
    return .done locals.status

/-- `SolStatusEntryPoint`. -/
def solStatusEntryPoint (sizeofResponse : UInt32) (fuel : ℕ) (maxSOLChannels : UInt8) :
    SolProg EfiStatus :=
  Prog.loop (scanIteration stack sizeofResponse fuel maxSOLChannels) fuel ⟨1, .success, 0⟩

end

end SolStatus

end IpmiFeature
