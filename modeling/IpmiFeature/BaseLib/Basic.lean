import IpmiFeature.Interaction.Memory
import IpmiFeature.Interaction.Run
import IpmiFeature.Status

/-!
# The base library interface

`IpmiSubmitCommand` of `IpmiBaseLib.h`, whichever library implements it.
-/

namespace IpmiFeature

open Interaction

/-- The arguments of `IpmiSubmitCommand`. -/
structure SubmitCall where
  netFunction : UInt8
  command : UInt8
  /-- `CommandData[0..CommandDataSize)`. -/
  commandData : List UInt8
  /-- `*ResponseDataSize` before the call. -/
  responseDataSize : UInt32
  deriving DecidableEq, Repr

/-- What `IpmiSubmitCommand` leaves behind. -/
structure SubmitReply where
  status : EfiStatus
  /-- The bytes written to the front of `ResponseData`. -/
  data : List UInt8
  /-- `*ResponseDataSize` after the call. -/
  responseDataSize : UInt32
  deriving DecidableEq, Repr

/-- What the calls are answered with. -/
abbrev SubmitCall.Answer (_ : SubmitCall) : Type := SubmitReply

/-- Programs over a base library. -/
abbrev SubmitProg := Prog SubmitCall SubmitCall.Answer

/-- `IpmiSubmitCommand`. -/
def ipmiSubmitCommand (call : SubmitCall) : SubmitProg SubmitReply := Prog.perform call

/-- The response buffer, set to zero before the call. -/
def SubmitReply.response (reply : SubmitReply) : Memory UInt8 :=
  Memory.store (fun _ => 0) 0 reply.data

end IpmiFeature
