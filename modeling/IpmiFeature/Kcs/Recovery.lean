import IpmiFeature.Kcs.Delivery

/-!
# Exchanges after anything

The KCS registers have no owner: a driver may be stopped anywhere, by a reset of the host or by an SMI
whose handler uses the interface itself.  Whatever has been written and read before, the delays of the
BMC that are left stay within its bound (`Slave.Timely`), and `KCS_WRITE_START` starts over from every
state, so the next exchange succeeds (`exchange_recovers`).
-/

namespace IpmiFeature

open Interaction Prog

namespace Kcs

variable {period : UInt64} {bmc : Firmware period} {s : Slave} {fuel : ℕ}

/-- The BMC after some accesses, of any driver. -/
def Firmware.after (bmc : Firmware period) (calls : List PortCall) (s : Slave) : Slave :=
  calls.foldl (fun s call => (bmc.slave call s).2) s

/-- The delays that are left are within the bound. -/
structure Slave.Timely (period : UInt64) (s : Slave) : Prop where
  /-- IBF clears in time. -/
  wait_lt : s.wait < period.toNat
  /-- OBF shows in time. -/
  obfDelay_lt : s.obfDelay < period.toNat

/-- A BMC at rest is in time. -/
theorem Slave.AtRest.timely (hs : s.AtRest bmc) : s.Timely period :=
  ⟨hs.settled.wait_lt, hs.obfDelay_lt⟩

/-- One access. -/
theorem Slave.Timely.step (hs : s.Timely period) (call : PortCall) :
    (bmc.slave call s).2.Timely period := by
  obtain ⟨regs, pending, obfDelay, writes, polls⟩ := s
  obtain ⟨hwait, hobf⟩ := hs
  have hpositive : 0 < period.toNat := Nat.zero_lt_of_lt hobf
  cases call with
  | ioWrite8 reg value => exact ⟨(bmc.ibfDelay writes).isLt, hobf⟩
  | ioRead8 reg =>
    cases reg with
    | kcsPort => exact ⟨hwait, hobf⟩
    | kcsCmdReg =>
      rcases pending with _ | ⟨_ | delay, reg, value⟩
      · exact ⟨hpositive, Nat.lt_of_le_of_lt (Nat.sub_le _ _) hobf⟩
      · exact ⟨hpositive, (bmc.obfDelay writes).isLt⟩
      · exact ⟨Nat.lt_of_succ_lt hwait, hobf⟩

theorem Slave.Timely.after (hs : s.Timely period) (bmc : Firmware period) (calls : List PortCall) :
    (bmc.after calls s).Timely period := by
  induction calls generalizing s with
  | nil => exact hs
  | cons call calls ih => exact ih (hs.step call)

/-- **Recovery.**  Whatever accesses have been made, in whatever order and by whichever drivers, a
request that is sent next is taken and its response is received. -/
theorem exchange_recovers (bmc : Firmware period) (hs : s.Timely period) (calls : List PortCall)
    (data : Message) (hdata : data.bytes ≠ []) (buffer : Memory UInt8) (dataSize : UInt8)
    (hlen : (bmc.answer data.bytes).length ≤ dataSize.toNat) (hfuel : period.toNat < fuel)
    (hfuel' : 255 < fuel) :
    (sendDataToBmcPort fuel period data).Ends bmc.slave (bmc.after calls s) fun status s₁ =>
      status = .success ∧
        (receiveBmcDataFromPort fuel period buffer dataSize).Ends bmc.slave s₁ fun received s₂ =>
          received.status = .success ∧
            received.dataSize.toNat = (bmc.answer data.bytes).length ∧
            received.data.slice 0 (bmc.answer data.bytes).length = bmc.answer data.bytes ∧
            s₂.regs.request = data.bytes ∧ s₂.AtRest bmc := by
  obtain ⟨hwait, hobf⟩ := hs.after bmc calls
  refine (sendDataToBmcPort_ends hfuel hfuel' hdata ⟨rfl, hwait, hobf⟩).mono ?_
  rintro _ s₁ ⟨rfl, r₁, hs₁, hr₁⟩
  refine ⟨rfl, (receiveBmcDataFromPort_ends hfuel hfuel' buffer hlen hs₁ hr₁).mono ?_⟩
  rintro received s₂ ⟨hsuccess, hsize, hslice, r₂, hs₂, hidle, hrequest⟩
  exact ⟨hsuccess, hsize, hslice, by rw [hs₂.regs_eq, hrequest], hs₂.atRest hidle⟩

/-- A message that has been announced and started, and not ended. -/
def abandoned : List PortCall :=
  [.ioWrite8 .kcsCmdReg kcsWriteStart, .ioRead8 .kcsCmdReg, .ioWrite8 .kcsPort 0x2C]

theorem exchange_recovers_abandoned :
    (sendDataToBmcPort 256 5 ⟨[0x18, 0x01], by decide⟩).Ends slowEcho.slave
      (slowEcho.after abandoned slowEchoStart) fun status s₁ => status = .success ∧
        (receiveBmcDataFromPort 256 5 (fun _ => 0) 2).Ends slowEcho.slave s₁ fun received s₂ =>
          received.status = .success ∧
            received.dataSize.toNat = (slowEcho.answer [0x18, 0x01]).length ∧
            received.data.slice 0 (slowEcho.answer [0x18, 0x01]).length =
              slowEcho.answer [0x18, 0x01] ∧
            s₂.regs.request = [0x18, 0x01] ∧ s₂.AtRest slowEcho := by
  have hrest : slowEchoStart.AtRest slowEcho := ⟨rfl, rfl, by decide⟩
  have hdata : [0x18, 0x01] ≠ ([] : List UInt8) := List.cons_ne_nil _ _
  have hlen : (slowEcho.answer [0x18, 0x01]).length ≤ (2 : UInt8).toNat := by decide
  have hfuel : (5 : UInt64).toNat < 256 := by decide
  with_reducible
    exact exchange_recovers slowEcho hrest.timely abandoned ⟨[0x18, 0x01], by decide⟩ hdata
      (fun _ => 0) 2 hlen hfuel (Nat.lt_succ_self 255)

end Kcs

end IpmiFeature
