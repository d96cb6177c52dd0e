import IpmiFeature.BaseLib.Basic
import IpmiFeature.Generic.Basic
import IpmiFeature.Mock.Handlers

/-!
# The mock BMC

`MockIpmi.c`, and the two libraries on top of it: `IpmiBaseLibMock.c` in the place of a base
library, and `IpmiTransportLibMock.c` in the place of a transport library.  A call without an answer
is one that fails an `ASSERT`.
-/

namespace IpmiFeature

open Interaction

namespace Mock

/-- The mock BMC. -/
structure Bmc where
  state : BmcState
  /-- `mResponseValid`. -/
  responseValid : Bool
  /-- `mResponse`: two bytes of header, then `ResponseData`. -/
  response : Memory UInt8
  /-- `mResponseSize`. -/
  responseSize : UInt8

/-- The mock BMC as the program starts. -/
def initialBmc : Bmc where
  state :=
    { sel := ⟨fun _ => ⟨0, 0, 0, fun _ => 0⟩, 0, Nat.zero_le _, 0⟩
      watchdog := ⟨0, 0, 0, 0, 0, 0⟩
      bootFlags := .zero
      bootOptionAcks := 0xFF }
  responseValid := false
  response := fun _ => 0
  responseSize := 0

/-- `MOCK_IPMI_HANDLER_ENTRY`. -/
structure MockHandlerEntry where
  netFunction : UInt8
  command : UInt8
  handler : MockHandler

/-- `MockHandlers`. -/
def mockHandlers : List MockHandlerEntry :=
  [⟨netfnApp, appGetDeviceId, mockIpmiGetDeviceId⟩,
    ⟨netfnApp, appGetSelftestResults, mockIpmiGetSelfTest⟩,
    ⟨netfnStorage, storageGetSelInfo, mockIpmiSelGetInfo⟩,
    ⟨netfnStorage, storageAddSelEntry, mockIpmiSelAddEntry⟩,
    ⟨netfnStorage, storageGetSelTime, mockIpmiSelGetTime⟩,
    ⟨netfnStorage, storageSetSelTime, mockIpmiSelSetTime⟩,
    ⟨netfnStorage, storageClearSel, mockIpmiSelClear⟩,
    ⟨netfnStorage, storageGetSelEntry, mockIpmiSelGetEntry⟩,
    ⟨netfnApp, appGetWatchdogTimer, mockIpmiGetWatchdog⟩,
    ⟨netfnApp, appSetWatchdogTimer, mockIpmiSetWatchdog⟩,
    ⟨netfnApp, appResetWatchdogTimer, mockIpmiResetWatchdog⟩,
    ⟨netfnChassis, chassisSetSystemBootOptions, mockIpmiSetSystemBootOptions⟩,
    ⟨netfnChassis, chassisGetSystemBootOptions, mockIpmiGetSystemBootOptions⟩]

/-- The handler of a command. -/
def handlerOf (netFunction command : UInt8) : Option MockHandler :=
  (mockHandlers.find? fun entry =>
    entry.netFunction == netFunction && entry.command == command).map (·.handler)

/-- The state with the response in the buffer. -/
def Bmc.respond (bmc : Bmc) (response : List UInt8) : Bmc :=
  { bmc with
    response := bmc.response.store 2 response
    responseSize := UInt8.ofNat (2 + response.length)
    responseValid := true }

/-- `mResponse.Header`, and the completion code that is there before a handler is found. -/
def Bmc.prepare (bmc : Bmc) (netFunction command : UInt8) : Bmc :=
  { bmc with
    response := bmc.response.store 0
      [(netFunction ||| 1) <<< 2 ||| bmc.response 0 &&& 3, command, compCodeInvalidCommand]
    responseSize := 2 }

/-- `MockIpmiCommand`, with the bytes of the command. -/
def mockIpmiCommand (command : List UInt8) (bmc : Bmc) : Option Bmc :=
  match command with
  | header :: command :: data =>
    let netFunction := header >>> 2
    let bmc := bmc.prepare netFunction command
    if header &&& 3 ≠ 0 then
      none
    else
      match handlerOf netFunction command with
      | none => some (bmc.respond [compCodeInvalidCommand])
      | some handler =>
        match handler data (fun i => bmc.response (2 + i)) bmc.state with
        | none => none
        | some (response, state) =>
          if response = [] then none else some ({ bmc with state }.respond response)
  | _ => none

/-- `MockIpmiResponse`, with `*Size`: the bytes of the response. -/
def mockIpmiResponse (size : UInt8) (bmc : Bmc) : Option (List UInt8 × Bmc) :=
  if bmc.responseValid ∧ bmc.responseSize ≠ 0 ∧ bmc.responseSize ≤ 252 ∧ size > bmc.responseSize then
    some (bmc.response.slice 0 bmc.responseSize.toNat,
      { bmc with response := fun _ => 0, responseValid := false })
  else
    none

/-! ### The libraries -/

/-- `IpmiSubmitCommand` of `IpmiBaseLibMock`. -/
def mockSubmitCommand (call : SubmitCall) (bmc : Bmc) : Option (SubmitReply × Bmc) :=
  if 253 < call.commandData.length then
    none
  else do
    let bmc ← mockIpmiCommand (call.netFunction <<< 2 :: call.command :: call.commandData) bmc
    let (response, bmc) ← mockIpmiResponse 255 bmc
    if response.length - 2 ≤ call.responseDataSize.toNat then
      return (⟨.success, response.drop 2, UInt32.ofNat (response.length - 2)⟩, bmc)
    else
      none

/-- The base library as an environment; it halts when an `ASSERT` fails. -/
def mockBaseLib : Handler SubmitCall SubmitCall.Answer (Option Bmc) :=
  .halting mockSubmitCommand fun _ => ⟨.deviceError, [], 0⟩

/-- `SendDataToBmcPort` and `ReceiveBmcDataFromPort` of `IpmiTransportLibMock`. -/
def mockTransportCall :
    (call : Generic.TransportCall) → Bmc → Option (call.Answer × Bmc)
  | .sendDataToBmcPort _ data, bmc => (mockIpmiCommand data.bytes bmc).map fun bmc => (.success, bmc)
  | .receiveBmcDataFromPort _ dataSize, bmc =>
    (mockIpmiResponse dataSize bmc).map fun x =>
      -- the response is shorter than the buffer
      (⟨.success, x.1.take dataSize.toNat, List.length_take_le _ _⟩, x.2)

/-- The transport library as an environment; it fails after it has halted. -/
def mockTransportLib : Handler Generic.TransportCall Generic.TransportCall.Answer (Option Bmc) :=
  .halting mockTransportCall Generic.failedTransport

end Mock

end IpmiFeature
