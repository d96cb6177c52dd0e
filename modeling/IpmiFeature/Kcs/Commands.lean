import IpmiFeature.Generic.Link
import IpmiFeature.Kcs.Delivery
import IpmiFeature.Kcs.Send
import IpmiFeature.Kcs.Writes

/-!
# A BMC that executes commands, behind the KCS registers

The BMC of `Kcs.Slave` with a command processor: it executes a request at the poll at which it takes
the last byte, and presents the response from then on.  The driver's functions are an implementation
of the transport interface (`transport`), and over it every program does what it does over the ideal
transport: each message that is sent is executed exactly once (`above_transport_executes`).

A run of the driver against this BMC is one against the BMC of `Kcs.Slave` whose answers are those of
the processor in its present state, as long as no second request is completed: `Announcing` says that
none can be completed yet, `Executing` that the one that is going over may have been.
-/

namespace IpmiFeature

open Interaction Prog Generic

namespace Kcs

variable {period : UInt64} {σ α : Type}

/-! ### The BMC -/

variable {process : Processor σ} {fw : Firmware period} {x y : σ} {s : Slave} {r : SlaveRegs}
  {request : List UInt8} {fuel : ℕ}

/-- The firmware whose answers are those of the processor in the state `x`. -/
def Firmware.running (fw : Firmware period) (process : Processor σ) (x : σ) : Firmware period :=
  { fw with answer := fun request => (process request x).1 }

/-- With this access the BMC takes the last byte of a request. -/
def Slave.completes (s : Slave) : PortCall → Bool
  | .ioRead8 .kcsCmdReg =>
    match s.pending with
    | some (0, .kcsPort, _) => s.regs.state = .write && s.regs.writeEnd
    | _ => false
  | _ => false

/-- The BMC with the processor in its state: a request that is complete is executed. -/
def Firmware.executing (fw : Firmware period) (process : Processor σ) :
    Handler PortCall PortCall.Answer (Slave × σ) := fun call t =>
  let answer := (fw.running process t.2).slave call t.1
  (answer.1, answer.2,
    if t.1.completes call then (process answer.2.regs.request t.2).2 else t.2)

/-! ### One access -/

theorem present_state_ne (bmc : Firmware period) (r : SlaveRegs) : (r.present bmc).state ≠ .write := by
  unfold SlaveRegs.present
  split <;> simp

theorem present_request (bmc : Firmware period) (r : SlaveRegs) :
    (r.present bmc).request = r.request := by
  unfold SlaveRegs.present
  split <;> rfl

/-- No request is completed by the next write that the BMC takes. -/
structure Announcing (s : Slave) : Prop where
  /-- `KCS_WRITE_END` has not been taken. -/
  writeEnd_eq : s.regs.state = .write → s.regs.writeEnd = false
  /-- It is not pending either. -/
  pending_ne : ∀ delay, s.pending ≠ some (delay, .kcsCmdReg, kcsWriteEnd)

theorem Announcing.not_completes (h : Announcing s) (call : PortCall) : s.completes call = false := by
  unfold Slave.completes
  split
  · split
    · by_cases hstate : s.regs.state = .write
      · simp [h.writeEnd_eq hstate]
      · simp [hstate]
    · rfl
  · rfl

/-- The registers after a write other than `KCS_WRITE_END`. -/
theorem take_writeEnd (bmc : Firmware period) {w : Reg × UInt8} (hw : NotEnd w)
    (hr : r.state = .write → r.writeEnd = false) :
    (r.take bmc w.1 w.2).state = .write → (r.take bmc w.1 w.2).writeEnd = false := by
  obtain ⟨reg, value⟩ := w
  cases reg with
  | kcsCmdReg =>
    unfold SlaveRegs.take
    dsimp only
    split_ifs with hstart hend
    · exact fun _ => rfl
    · exact absurd (by rw [hend.1]) hw
    · intro herror
      cases herror
  | kcsPort =>
    unfold SlaveRegs.take
    cases hstate : r.state with
    | write =>
      dsimp only
      rw [if_neg (by simp [hr hstate])]
      exact fun _ => hr hstate
    | read =>
      dsimp only
      split_ifs
      · exact fun h => absurd h (present_state_ne bmc r)
      · intro herror
        cases herror
    | idle => exact fun herror => absurd herror (by simp)
    | error => exact fun herror => absurd herror (by simp)

/-- What an access does to the registers: the BMC takes the write that was pending, or it stays in its
state, with the request that it has so far. -/
theorem slave_cases (bmc : Firmware period) (call : PortCall) (s : Slave) :
    (∃ w : Reg × UInt8, call = .ioRead8 .kcsCmdReg ∧ s.pending = some (0, w) ∧
        (bmc.slave call s).2.pending = none ∧
          (bmc.slave call s).2.regs = s.regs.take bmc w.1 w.2) ∨
      (s.completes call = false ∧
        (bmc.slave call s).2.regs.state = s.regs.state ∧
        (bmc.slave call s).2.regs.writeEnd = s.regs.writeEnd ∧
        (bmc.slave call s).2.regs.request = s.regs.request ∧
        ∀ delay (w : Reg × UInt8), (bmc.slave call s).2.pending = some (delay, w) →
          (∃ delay, s.pending = some (delay, w)) ∨ call = .ioWrite8 w.1 w.2) := by
  obtain ⟨regs, pending, obfDelay, writes, polls⟩ := s
  match call with
  | .ioWrite8 reg value =>
    refine .inr ⟨rfl, rfl, rfl, rfl, fun delay w heq => .inr ?_⟩
    cases heq
    rfl
  | .ioRead8 .kcsPort => exact .inr ⟨rfl, rfl, rfl, rfl, fun delay w heq => .inl ⟨delay, heq⟩⟩
  | .ioRead8 .kcsCmdReg =>
    rcases pending with _ | ⟨_ | delay, w⟩
    · exact .inr ⟨rfl, rfl, rfl, rfl, fun delay w heq => .inl ⟨delay, heq⟩⟩
    · exact .inl ⟨w, rfl, rfl, rfl, rfl⟩
    · refine .inr ⟨rfl, rfl, rfl, rfl, fun delay' w' heq => .inl ⟨delay + 1, ?_⟩⟩
      simp only [Firmware.slave, Option.some.injEq, Prod.mk.injEq] at heq
      rw [← heq.2]

theorem Announcing.step (bmc : Firmware period) (h : Announcing s) {call : PortCall}
    (hcall : ∀ w : Reg × UInt8, call = .ioWrite8 w.1 w.2 → NotEnd w) :
    Announcing (bmc.slave call s).2 := by
  rcases slave_cases bmc call s with ⟨w, -, hw, hpending, hregs⟩ | ⟨-, hstate, hend, -, hpending⟩
  · refine ⟨?_, fun delay heq => absurd (hpending.symm.trans heq) (by simp)⟩
    rw [hregs]
    exact take_writeEnd bmc (fun heq => h.pending_ne 0 (by rw [hw, heq])) h.writeEnd_eq
  · refine ⟨by rw [hstate, hend]; exact h.writeEnd_eq, fun delay heq => ?_⟩
    rcases hpending _ _ heq with ⟨delay, hold⟩ | hnew
    · exact h.pending_ne delay hold
    · exact hcall _ hnew rfl

/-- As long as no request can be completed, the processor stays in its state. -/
theorem executing_of_announcing {t : Slave × σ} {call : PortCall}
    (hcall : ∀ w : Reg × UInt8, call = .ioWrite8 w.1 w.2 → NotEnd w)
    (ht : t = (s, x) ∧ Announcing s) :
    (fw.executing process call t).1 = ((fw.running process x).slave call s).1 ∧
      (fw.executing process call t).2 = (((fw.running process x).slave call s).2, x) ∧
        Announcing ((fw.running process x).slave call s).2 := by
  obtain ⟨rfl, hs⟩ := ht
  refine ⟨rfl, Prod.ext rfl ?_, hs.step _ hcall⟩
  exact if_neg (by rw [hs.not_completes]; exact Bool.false_ne_true)

/-- The request that goes over has been executed by now, or it cannot have been. -/
structure Executing (process : Processor σ) (x : σ) (s : Slave) (t : Slave × σ) : Prop where
  /-- The registers are those of the BMC that answers as in the state `x`. -/
  slave_eq : t.1 = s
  /-- No other request is about to be started. -/
  pending_ne : ∀ delay, s.pending ≠ some (delay, .kcsCmdReg, kcsWriteStart)
  /-- The processor is in the state before or after the request. -/
  state_eq : (t.2 = x ∧ (s.regs.state = .write ∨ s.regs.state = .error)) ∨
    (t.2 = (process s.regs.request x).2 ∧ s.regs.state ≠ .write)

section take

variable {bmc : Firmware period} {w : Reg × UInt8}

theorem NotStart.value_ne {value : UInt8} (hw : NotStart (.kcsCmdReg, value)) :
    value ≠ kcsWriteStart := fun heq => hw (by rw [heq])

theorem take_of_ne_write (bmc : Firmware period) (hw : NotStart w) (hr : r.state ≠ .write) :
    (r.take bmc w.1 w.2).state ≠ .write ∧ (r.take bmc w.1 w.2).request = r.request := by
  obtain ⟨reg, value⟩ := w
  cases reg with
  | kcsCmdReg =>
    unfold SlaveRegs.take
    dsimp only
    rw [if_neg hw.value_ne, if_neg fun h => hr h.2]
    exact ⟨by simp, rfl⟩
  | kcsPort =>
    unfold SlaveRegs.take
    cases hstate : r.state with
    | write => exact absurd hstate hr
    | read =>
      dsimp only
      split_ifs
      · exact ⟨present_state_ne bmc r, present_request bmc r⟩
      · exact ⟨by simp, rfl⟩
    | idle => exact ⟨by simp, rfl⟩
    | error => exact ⟨by simp, rfl⟩

/-- Only the answer to a request depends on the state of the processor. -/
theorem take_running (w : Reg × UInt8) (hr : r.state ≠ .write) :
    r.take (fw.running process y) w.1 w.2 = r.take (fw.running process x) w.1 w.2 := by
  obtain ⟨reg, value⟩ := w
  cases reg with
  | kcsCmdReg => rfl
  | kcsPort =>
    unfold SlaveRegs.take
    cases hstate : r.state with
    | write => exact absurd hstate hr
    | read => rfl
    | idle => rfl
    | error => rfl

theorem take_of_write (hw : NotStart w) (hr : r.state = .write)
    (hlast : w.1 = .kcsPort → r.writeEnd = false) :
    (r.take bmc w.1 w.2).state = .write ∨ (r.take bmc w.1 w.2).state = .error := by
  obtain ⟨reg, value⟩ := w
  cases reg with
  | kcsCmdReg =>
    unfold SlaveRegs.take
    dsimp only
    rw [if_neg hw.value_ne]
    split_ifs
    · exact .inl hr
    · exact .inr rfl
  | kcsPort =>
    unfold SlaveRegs.take
    rw [hr]
    dsimp only
    rw [if_neg (by simp [hlast rfl])]
    exact .inl rfl

theorem take_of_error (hw : NotStart w) (hr : r.state = .error) :
    (r.take bmc w.1 w.2).state = .error := by
  obtain ⟨reg, value⟩ := w
  cases reg with
  | kcsCmdReg =>
    unfold SlaveRegs.take
    dsimp only
    rw [if_neg hw.value_ne, if_neg (by simp [hr])]
  | kcsPort =>
    unfold SlaveRegs.take
    rw [hr]

theorem take_last (value : UInt8) (hr : r.state = .write) (hend : r.writeEnd = true) :
    (r.take bmc .kcsPort value).state ≠ .write := by
  unfold SlaveRegs.take
  rw [hr]
  dsimp only
  rw [if_pos hend]
  exact present_state_ne bmc _

end take

/-- What the BMC shows while it is not in the WRITE state does not depend on the processor. -/
theorem slave_running (call : PortCall) (hs : s.regs.state ≠ .write) :
    (fw.running process y).slave call s = (fw.running process x).slave call s := by
  obtain ⟨regs, pending, obfDelay, writes, polls⟩ := s
  match call with
  | .ioWrite8 reg value => rfl
  | .ioRead8 .kcsPort => rfl
  | .ioRead8 .kcsCmdReg =>
    rcases pending with _ | ⟨_ | delay, w⟩
    · rfl
    · have htake : regs.take (fw.running process y) w.1 w.2 = regs.take (fw.running process x) w.1 w.2 :=
        take_running w hs
      simp only [Firmware.slave, htake]
      rfl
    · have htake : regs.take (fw.running process y) w.1 w.2 = regs.take (fw.running process x) w.1 w.2 :=
        take_running w hs
      simp only [Firmware.slave, htake]
      rfl

/-- A request is completed only in the WRITE state. -/
theorem not_completes_of_ne_write (call : PortCall) (hs : s.regs.state ≠ .write) :
    s.completes call = false := by
  unfold Slave.completes
  split
  · split
    · simp [hs]
    · rfl
  · rfl

theorem Executing.step {t : Slave × σ} (h : Executing process x s t) {call : PortCall}
    (hcall : ∀ w : Reg × UInt8, call = .ioWrite8 w.1 w.2 → NotStart w) :
    (fw.executing process call t).1 = ((fw.running process x).slave call s).1 ∧
      Executing process x ((fw.running process x).slave call s).2 (fw.executing process call t).2 := by
  obtain ⟨s, z⟩ := t
  obtain ⟨rfl, hnone, hphase⟩ := h
  dsimp only at hphase
  -- the answer, and the registers afterwards
  have hslave : (fw.running process z).slave call s = (fw.running process x).slave call s := by
    rcases hphase with ⟨rfl, -⟩ | ⟨-, hstate⟩
    · rfl
    · exact slave_running call hstate
  have hnext : fw.executing process call (s, z) = (((fw.running process x).slave call s).1,
      ((fw.running process x).slave call s).2, if s.completes call then
        (process ((fw.running process x).slave call s).2.regs.request z).2 else z) := by
    simp only [Firmware.executing, hslave]
  rw [hnext]
  refine ⟨rfl, rfl, ?_, ?_⟩
  · intro delay heq
    rcases slave_cases (fw.running process x) call s with ⟨w, -, -, hpending, -⟩ | ⟨-, -, -, -, hpending⟩
    · exact absurd (hpending.symm.trans heq) (by simp)
    · rcases hpending _ _ heq with ⟨delay, hold⟩ | hnew
      · exact hnone delay hold
      · exact hcall _ hnew rfl
  · dsimp only
    rcases slave_cases (fw.running process x) call s with
      ⟨w, rfl, hw, -, hregs⟩ | ⟨hcompletes, hstate, -, hrequest, -⟩
    · have hstart : NotStart w := fun heq => hnone 0 (by rw [hw, heq])
      rw [hregs]
      rcases hphase with ⟨rfl, hwrite | herror⟩ | ⟨rfl, hstate⟩
      · by_cases hlast : w.1 = .kcsPort ∧ s.regs.writeEnd = true
        · -- the last byte: the request is executed
          obtain ⟨reg, value⟩ := w
          obtain ⟨rfl, hend⟩ := hlast
          have hcompletes : s.completes (.ioRead8 .kcsCmdReg) = true := by
            simp [Slave.completes, hw, hwrite, hend]
          rw [if_pos hcompletes]
          exact .inr ⟨rfl, take_last value hwrite hend⟩
        · have hcompletes : s.completes (.ioRead8 .kcsCmdReg) = false := by
            obtain ⟨reg, value⟩ := w
            cases reg with
            | kcsCmdReg => simp [Slave.completes, hw]
            | kcsPort => simpa [Slave.completes, hw, hwrite] using hlast
          rw [if_neg (by simp [hcompletes])]
          refine .inl ⟨rfl, take_of_write hstart hwrite fun hport => ?_⟩
          simpa [hport] using hlast
      · rw [if_neg (by simp [not_completes_of_ne_write _ (show s.regs.state ≠ .write by simp [herror])])]
        exact .inl ⟨rfl, .inr (take_of_error hstart herror)⟩
      · rw [if_neg (by simp [not_completes_of_ne_write _ hstate])]
        obtain ⟨hstate', hrequest⟩ := take_of_ne_write (fw.running process x) hstart hstate
        exact .inr ⟨by rw [hrequest], hstate'⟩
    · rw [if_neg (by simp [hcompletes]), hstate, hrequest]
      exact hphase

/-! ### The driver -/

/-- A program that announces no end of a message, run while no request can be completed. -/
theorem ends_announcing {p : PortProg α} {Q : α → Slave → Prop}
    (hp : p.Ends (fw.running process x).slave s Q) (hwrites : Writes NotEnd p) (hs : Announcing s) :
    p.Ends (fw.executing process) (s, x) fun a t => ∃ s, t = (s, x) ∧ Announcing s ∧ Q a s := by
  refine (hp.transfer (fun s t => t = (s, x) ∧ Announcing s)
    (fun c s t hevent hs => ?_) hwrites.satisfies ⟨rfl, hs⟩).mono ?_
  · exact executing_of_announcing hevent hs
  · rintro a _ ⟨s', hQ, rfl, hs'⟩
    exact ⟨s', rfl, hs', hQ⟩

/-- A program that starts no message, run while a request goes over or has been executed. -/
theorem ends_executing {p : PortProg α} {Q : α → Slave → Prop} {t : Slave × σ}
    (hp : p.Ends (fw.running process x).slave s Q) (hwrites : Writes NotStart p)
    (ht : Executing process x s t) :
    p.Ends (fw.executing process) t fun a t => ∃ s, Q a s ∧ Executing process x s t := by
  refine hp.transfer (Executing process x) (fun c s t hevent ht => ?_) hwrites.satisfies ht
  exact ht.step hevent

/-- A BMC that is in IDLE, with no write pending, is about to complete nothing. -/
theorem Slave.AtRest.announcing (hs : s.AtRest (fw.running process x)) : Announcing s where
  writeEnd_eq hwrite := absurd hwrite (by rw [hs.state_eq]; decide)
  pending_ne delay heq := absurd hs.ibf_eq (by simp [Slave.ibf, heq])

theorem waitInputEmpty_writes (fuel : ℕ) (period : UInt64) :
    Writes NotEnd (waitInputEmpty fuel period) :=
  Satisfies.mono (waitInputEmpty_spec fuel period) fun _ _ htr w hw => notEnd_of_abort (htr.1 w hw)

/-- The message goes over, and the response waits to be received. -/
theorem sendDataToBmc_executes (hfuel : period.toNat < fuel) (hfuel' : 255 < fuel) {data : Message}
    (hdata : data.bytes ≠ []) (hs : s.AtRest (fw.running process x)) :
    (sendDataToBmc fuel period data).Ends (fw.executing process) (s, x) fun status t =>
      status = .success ∧ ∃ r, t.1.Settles (fw.running process x) r ∧
        Presenting data.bytes (process data.bytes x).1 r ∧ Executing process x t.1 t := by
  have hsend := sendDataToBmc_ends hfuel hfuel' hdata hs.settled.toSettles
  have hwait := waitInputEmpty_ends hfuel hs.settled.toSettles
  unfold sendDataToBmc at hsend ⊢
  rw [ends_bind] at hsend ⊢
  refine (ends_announcing (hwait.and hsend) (waitInputEmpty_writes fuel period)
    hs.announcing).mono ?_
  rintro _ _ ⟨s₁, rfl, hs₁, ⟨rfl, hsettled⟩, hrest⟩
  dsimp only at hrest ⊢
  rw [ends_ioWrite8_bind, ends_bind] at hrest ⊢
  -- `KCS_WRITE_START` completes nothing
  have hwrite : (fw.executing process (.ioWrite8 .kcsCmdReg kcsWriteStart) (s₁, x)).2 =
      (((fw.running process x).slave (.ioWrite8 .kcsCmdReg kcsWriteStart) s₁).2, x) := rfl
  have hstart : Announcing ((fw.running process x).slave (.ioWrite8 .kcsCmdReg kcsWriteStart) s₁).2 :=
    hs₁.step _ fun w heq => by rintro rfl; revert heq; decide
  have htaking : Taking [] false (SlaveRegs.take (fw.running process x) s.regs .kcsCmdReg
    kcsWriteStart) := taking_writeStart
  have hcheck := kcsCheckStatus_write_ends hfuel (hsettled.write _ _) htaking.state_eq
  rw [hwrite]
  refine (ends_announcing (hcheck.and hrest)
    ((kcsCheckStatus_writes fuel period .write).mono fun _ => notEnd_of_abort) hstart).mono ?_
  rintro _ _ ⟨s₂, rfl, -, ⟨rfl, hsettled₂⟩, hloop⟩
  dsimp only at hloop ⊢
  rw [if_neg (by simp)] at hloop ⊢
  -- from here on the request may be completed
  have hexecuting : Executing process x s₂ (s₂, x) := by
    refine ⟨rfl, fun delay heq => ?_, .inl ⟨rfl, .inl ?_⟩⟩
    · exact absurd (hsettled₂.pending_eq.symm.trans heq) (by simp)
    · rw [hsettled₂.regs_eq]
      exact htaking.state_eq
  refine (ends_executing hloop (Writes.loop (sendByte_writes fuel period data) fuel 0)
    hexecuting).mono ?_
  rintro status t ⟨s₃, ⟨hstatus, r, hr, hpresenting⟩, ht⟩
  obtain rfl := ht.slave_eq
  exact ⟨hstatus, r, hr, hpresenting, ht⟩

theorem sendDataToBmcPort_executes (hfuel : period.toNat < fuel) (hfuel' : 255 < fuel)
    {data : Message} (hdata : data.bytes ≠ []) (hs : s.AtRest (fw.running process x)) :
    (sendDataToBmcPort fuel period data).Ends (fw.executing process) (s, x) fun status t =>
      status = .success ∧ ∃ r, t.1.Settles (fw.running process x) r ∧
        Presenting data.bytes (process data.bytes x).1 r ∧ Executing process x t.1 t := by
  refine ends_loop_once (by omega) ?_
  rw [if_pos (by decide), ends_bind]
  refine (sendDataToBmc_executes hfuel hfuel' hdata hs).mono ?_
  rintro _ t ⟨rfl, ht⟩
  exact ⟨_, rfl, rfl, ht⟩

/-- The response is received, and by then the request has been executed. -/
theorem receiveBmcDataFromPort_executes (hfuel : period.toNat < fuel) (hfuel' : 255 < fuel)
    {dataSize : UInt8} {response : List UInt8} (data : Memory UInt8) {t : Slave × σ}
    (hlen : response.length ≤ dataSize.toNat) (hs : s.Settles (fw.running process x) r)
    (hr : Presenting request response r) (ht : Executing process x s t) :
    (receiveBmcDataFromPort fuel period data dataSize).Ends (fw.executing process) t
      fun received t => received.status = .success ∧ received.dataSize.toNat = response.length ∧
        received.data.slice 0 response.length = response ∧
          t.1.AtRest (fw.running process x) ∧ t.2 = (process request x).2 := by
  have hreceive := receiveBmcDataFromPort_ends hfuel hfuel' data hlen hs hr
  refine (ends_executing hreceive (receiveBmcDataFromPort_writes fuel period data dataSize)
    ht).mono ?_
  rintro received t ⟨s', ⟨hstatus, hsize, hslice, r', hsettled, hidle, hrequest⟩, ht'⟩
  obtain ⟨rfl, -, hphase⟩ := ht'
  refine ⟨hstatus, hsize, hslice, hsettled.atRest hidle, ?_⟩
  rw [hsettled.regs_eq, hidle, hrequest] at hphase
  rcases hphase with ⟨-, hstate | hstate⟩ | ⟨hexecuted, -⟩
  · cases hstate
  · cases hstate
  · exact hexecuted

/-! ### The transport -/

/-- `SendDataToBmcPort` and `ReceiveBmcDataFromPort`, as the transport of the generic driver; `before`
is what is in the buffer before a receive. -/
def transport (fuel : ℕ) (before : Memory UInt8) : (call : TransportCall) → PortProg call.Answer
  | .sendDataToBmcPort ipmiTimeoutPeriod data => sendDataToBmcPort fuel ipmiTimeoutPeriod data
  | .receiveBmcDataFromPort ipmiTimeoutPeriod dataSize =>
    (fun received => replyOf received dataSize) <$>
      receiveBmcDataFromPort fuel ipmiTimeoutPeriod before dataSize

/-- The registers and the processor stand for a state of the ideal transport. -/
inductive Linked (fw : Firmware period) (process : Processor σ) : Link σ → Slave × σ → Prop
  /-- No response waits. -/
  | idle {s : Slave} {x : σ} (hs : s.AtRest (fw.running process x)) : Linked fw process ⟨x, none⟩ (s, x)
  /-- The response to `request` waits. -/
  | waiting {s : Slave} {x : σ} {t : Slave × σ} {request : List UInt8} {r : SlaveRegs}
      (hs : s.Settles (fw.running process x) r) (hr : Presenting request (process request x).1 r)
      (ht : Executing process x s t) :
      Linked fw process ⟨(process request x).2, some (process request x).1⟩ t

/-- A call does over the registers what it does over the ideal transport. -/
theorem transport_executes (hfuel : period.toNat < fuel) (hfuel' : 255 < fuel)
    (before : Memory UInt8) {call : TransportCall} {link link' : Link σ} {t : Slave × σ}
    {answer : call.Answer} (hperiod : call.period = period) (ht : Linked fw process link t)
    (hcall : linkCall process call link = some (answer, link')) :
    (transport fuel before call).Ends (fw.executing process) t fun a t' =>
      a = answer ∧ Linked fw process link' t' := by
  cases call with
  | sendDataToBmcPort ipmiTimeoutPeriod data =>
    obtain rfl : ipmiTimeoutPeriod = period := hperiod
    obtain ⟨hready, heq⟩ := Option.ite_none_left_eq_some.1 hcall
    obtain ⟨hdata, hnone⟩ := not_or.1 hready
    cases ht with
    | waiting => exact absurd rfl hnone
    | @idle s x hs =>
      cases heq
      refine (sendDataToBmcPort_executes hfuel hfuel' hdata hs).mono ?_
      rintro _ t' ⟨rfl, r, hr, hpresenting, ht'⟩
      exact ⟨rfl, .waiting hr hpresenting ht'⟩
  | receiveBmcDataFromPort ipmiTimeoutPeriod dataSize =>
    obtain rfl : ipmiTimeoutPeriod = period := hperiod
    cases ht with
    | idle => cases hcall
    | @waiting s x t request r hs hr ht =>
      obtain ⟨hlen, heq⟩ := Option.dite_none_right_eq_some.1 hcall
      cases heq
      refine ends_map.2 ((receiveBmcDataFromPort_executes hfuel hfuel' before hlen hs hr ht).mono ?_)
      rintro received ⟨s', x'⟩ ⟨hstatus, hsize, hslice, hrest, rfl⟩
      refine ⟨?_, .idle ⟨hrest.state_eq, hrest.ibf_eq, hrest.obfDelay_lt⟩⟩
      unfold replyOf
      simp only [hstatus, hsize, Nat.min_eq_left hlen, hslice]

theorem implements (fw : Firmware period) (hfuel : period.toNat < fuel) (hfuel' : 255 < fuel)
    (before : Memory UInt8) :
    Implements process (fw.executing process) (transport fuel before) period (Linked fw process) :=
  fun _ _ _ _ _ hperiod ht hcall => transport_executes hfuel hfuel' before hperiod ht hcall

/-- **Programs over the KCS transport.**  A program that is run over the driver and a conformant BMC,
whatever its delays are, ends with what it ends with over the ideal transport: the BMC executes each
message that is sent exactly once, in their order, and each response is received exactly once. -/
theorem above_transport_executes {p : TransportProg α} {Q : α → Link σ → Prop} (fw : Firmware period)
    (hfuel : period.toNat < fuel) (hfuel' : 255 < fuel) (before : Memory UInt8)
    (hp : p.Completes (linkCall process) ⟨x, none⟩ Q) (hperiod : KeepsPeriod period p)
    (hs : s.AtRest (fw.running process x)) :
    (p.above (transport fuel before)).Ends (fw.executing process) (s, x) fun a t =>
      ∃ link, Q a link ∧ Linked fw process link t :=
  (implements fw hfuel hfuel' before).above hp hperiod (.idle hs)

/-- A BMC that counts the requests and answers with their bytes in reverse. -/
def countingEcho : Processor ℕ := fun request n => (request.reverse, n + 1)

/-- A message, and the receive of its response. -/
def echoProgram : TransportProg (Reply 255) := do
  let _ ← perform (TransportCall.sendDataToBmcPort 5 ⟨[0x18, 0x01], by decide⟩)
  perform (TransportCall.receiveBmcDataFromPort 5 255)

theorem above_transport_executes_echo :
    (echoProgram.above (transport 256 fun _ => 0)).Ends (slowEcho.executing countingEcho)
      (slowEchoStart, 0) fun reply t => ∃ link, (reply.data = [0x01, 0x18] ∧ link.state = 1) ∧
        Linked slowEcho countingEcho link t := by
  have hfuel : (5 : UInt64).toNat < 256 := by decide
  have hprogram : echoProgram.Completes (linkCall countingEcho) ⟨0, none⟩ fun reply link =>
      reply.data = [0x01, 0x18] ∧ link.state = 1 := ⟨_, _, rfl, _, _, rfl, rfl, rfl⟩
  have hperiod : KeepsPeriod 5 echoProgram := fun _ _ => by simp
  have hrest : slowEchoStart.AtRest (slowEcho.running countingEcho 0) := ⟨rfl, rfl, by decide⟩
  with_reducible
    exact above_transport_executes slowEcho hfuel (Nat.lt_succ_self 255) (fun _ => 0) hprogram
      hperiod hrest

end Kcs

end IpmiFeature
