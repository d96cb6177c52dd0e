import IpmiFeature.BaseLib.Basic
import IpmiFeature.Generic.Basic

/-!
# The base library of DXE

`IpmiSubmitCommand` of `IpmiBaseLibDxe.c`: it passes the command on to the generic driver, whose
protocol it looks up once.
-/

namespace IpmiFeature

open Interaction

namespace BaseLib

/-- A call with the memory behind `ResponseData`. -/
structure BufferedCall where
  call : SubmitCall
  buffer : Memory UInt8

/-- What a caller of `IpmiSubmitCommand` finds. -/
structure SubmitResult where
  status : EfiStatus
  /-- The memory behind `ResponseData`. -/
  buffer : Memory UInt8
  /-- `*ResponseDataSize`. -/
  size : UInt32

/-- What the caller finds after a reply. -/
def BufferedCall.result (call : BufferedCall) (reply : SubmitReply) : SubmitResult :=
  ⟨reply.status, call.buffer.store 0 reply.data, reply.responseDataSize⟩

/-- `IpmiSubmitCommand`, with the memory behind `ResponseData`. -/
def submitBuffered (command : BufferedCall) : SubmitProg SubmitResult := do
  let reply ← ipmiSubmitCommand command.call
  return command.result reply

/-- The state of the library and of the driver behind it. -/
structure DxeState where
  /-- `mIpmiTransport` is not `NULL`. -/
  located : Bool
  inst : Generic.IpmiBmcInstanceData

/-- The arguments that the library passes on. -/
def submitArgs (call : SubmitCall) : Generic.CommandArgs UInt32 where
  netFunction := call.netFunction
  lun := 0
  command := call.command
  commandData := some fun i => call.commandData.getD i 0
  commandDataSize := UInt32.ofNat call.commandData.length
  responseData := .caller
  hasResponseDataSize := true

/-- What `IpmiSubmitCommand` passes on is not rejected. -/
theorem not_rejected_submitArgs (call : SubmitCall) : ¬ Generic.Rejected (submitArgs call).narrow := by
  rintro (⟨-, hnone⟩ | hptr)
  · exact Bool.false_ne_true hnone
  · exact hptr rfl

/-- `IpmiSubmitCommand`, with the status of `LocateProtocol`, should it be called. -/
def dxeSubmitCommand (maxRetries : UInt8) (locateProtocol : EfiStatus) (uninit : Generic.Uninitialized)
    (call : BufferedCall) (st : DxeState) : Generic.TransportProg (SubmitResult × DxeState) :=
  if ¬ st.located ∧ locateProtocol.isError then
    return (⟨locateProtocol, call.buffer, call.call.responseDataSize⟩, st)
  else do
    let (status, st') ← Generic.ipmiSendCommand maxRetries uninit (submitArgs call.call)
      ⟨st.inst, call.buffer, call.call.responseDataSize⟩
    return (⟨status, st'.responseData, st'.responseDataSize⟩, ⟨true, st'.inst⟩)

/-- One call after the other. -/
def dxeSubmitCommands (maxRetries : UInt8) (locateProtocol : EfiStatus)
    (uninit : Generic.Uninitialized) :
    List BufferedCall → DxeState → Generic.TransportProg (List SubmitResult × DxeState)
  | [], st => return ([], st)
  | call :: calls, st => do
    let (result, st) ← dxeSubmitCommand maxRetries locateProtocol uninit call st
    let (results, st) ← dxeSubmitCommands maxRetries locateProtocol uninit calls st
    return (result :: results, st)

end BaseLib

end IpmiFeature
