import IpmiFeature.Generic.Basic
import IpmiFeature.Interaction.Logic
import IpmiFeature.Interaction.Run

/-!
# Runs over a transport

The calls to the transport in the two program logics: the frames of a trace, whatever the transport
does, and the scripted transports, which answer the attempts of a command one after the other.
-/

namespace IpmiFeature

open Interaction Prog

namespace Generic

/-! ### The frames of a trace -/

/-- The frame that a call hands to the transport. -/
def frameOf : TransportEvent → Option (List UInt8)
  | ⟨.sendDataToBmcPort _ data, _⟩ => some data.bytes
  | ⟨.receiveBmcDataFromPort _ _, _⟩ => none

/-- The frames handed to the transport, in order. -/
def frames (tr : List TransportEvent) : List (List UInt8) := tr.filterMap frameOf

@[simp] theorem frames_nil : frames [] = [] := rfl

@[simp] theorem frames_append (tr tr' : List TransportEvent) :
    frames (tr ++ tr') = frames tr ++ frames tr' := List.filterMap_append

@[simp] theorem satisfies_send_bind {E : Prop} {α : Type} {period : UInt64} {data : Message}
    {f : EfiStatus → TransportProg α} {Q : List TransportEvent → α → Prop} :
    (sendDataToBmcPort period data >>= f).Satisfies E Q ↔ ∀ status,
      (f status).Satisfies E fun tr a => Q (⟨.sendDataToBmcPort period data, status⟩ :: tr) a :=
  Iff.rfl

@[simp] theorem satisfies_receive_bind {E : Prop} {α : Type} {period : UInt64} {dataSize : UInt8}
    {f : Reply dataSize → TransportProg α} {Q : List TransportEvent → α → Prop} :
    (receiveBmcDataFromPort period dataSize >>= f).Satisfies E Q ↔ ∀ reply,
      (f reply).Satisfies E fun tr a =>
        Q (⟨.receiveBmcDataFromPort period dataSize, reply⟩ :: tr) a := Iff.rfl

/-! ### Scripted transports -/

/-- The outcomes of the two calls of one attempt. -/
structure Attempt where
  /-- The outcome of `SendDataToBmcPort`. -/
  sent : EfiStatus
  /-- The outcome of `ReceiveBmcDataFromPort`. -/
  received : (dataSize : UInt8) → Reply dataSize

/-- The transport that answers the `n`-th attempt with `script n`. -/
def scripted (script : ℕ → Attempt) : Handler TransportCall TransportCall.Answer ℕ
  | .sendDataToBmcPort _ _, n => ((script n).sent, n)
  | .receiveBmcDataFromPort _ dataSize, n => ((script n).received dataSize, n + 1)

variable {script : ℕ → Attempt} {α : Type} {n : ℕ} {Q : α → ℕ → Prop}

@[simp] theorem ends_send_bind {period : UInt64} {data : Message} {f : EfiStatus → TransportProg α} :
    (sendDataToBmcPort period data >>= f).Ends (scripted script) n Q ↔
      (f (script n).sent).Ends (scripted script) n Q := Iff.rfl

@[simp] theorem ends_receive_bind {period : UInt64} {dataSize : UInt8}
    {f : Reply dataSize → TransportProg α} :
    (receiveBmcDataFromPort period dataSize >>= f).Ends (scripted script) n Q ↔
      (f ((script n).received dataSize)).Ends (scripted script) (n + 1) Q := Iff.rfl

/-- The attempt whose reply is `data`, as far as it fits. -/
def Attempt.ofReply (data : List UInt8) : Attempt where
  sent := .success
  received dataSize := ⟨.success, data.take dataSize.toNat, List.length_take_le _ _⟩

/-- The attempt without a reply. -/
def Attempt.silent : Attempt where
  sent := .success
  received _ := ⟨.timeout, [], Nat.zero_le _⟩

/-- An instance without anything in it. -/
def idleInstance : IpmiBmcInstanceData where
  signature := 0
  ipmiTimeoutPeriod := 40000
  slaveAddress := 0x20
  tempData _ := 0
  bmcStatus := bmcOk
  errorStatus := 0
  softErrorCount := 0
  ipmiTransport := ⟨0, 0, 0⟩

end Generic

end IpmiFeature
