import IpmiFeature.Interaction.Run
import IpmiFeature.Kcs.Basic

/-!
# A BMC that follows the KCS slave protocol

The other side of the two registers, as the interface defines it.  A write of the host sets IBF;
the BMC takes the written value after some polls, updates the state and the output register, and
only then clears IBF; OBF may need some more polls to show.  A read of the data register clears
OBF.  How long each change takes, what a busy BMC shows of an update to come, and the bits that the
interface leaves open are chosen by `Firmware`; each delay is shorter than the timeout.

`Slave.target` is what the registers hold once the pending write has been taken.  Polling does not
change it, so the driver's progress can be followed on it without counting polls.
-/

namespace IpmiFeature

open Interaction Prog

namespace Kcs

/-! ### The protocol -/

/-- What the BMC does that the protocol leaves open; `period` bounds its delays. -/
structure Firmware (period : UInt64) where
  /-- The response to a request. -/
  answer : List UInt8 → List UInt8
  /-- The byte presented with IDLE. -/
  dummy : UInt8
  /-- How many polls the `n`-th write waits until it is taken. -/
  ibfDelay : ℕ → Fin period.toNat
  /-- How many polls after that OBF needs to show. -/
  obfDelay : ℕ → Fin period.toNat
  /-- Whether a busy BMC shows the update to come at the `n`-th poll. -/
  early : ℕ → Bool
  /-- The bits between the state and IBF at the `n`-th poll. -/
  noise : ℕ → Fin 16

/-- The protocol state of the BMC. -/
structure SlaveRegs where
  /-- The state shown in the status register. -/
  state : KcsState
  /-- `KCS_WRITE_END` has been taken: the next byte is the last one. -/
  writeEnd : Bool
  /-- The bytes taken since `KCS_WRITE_START`. -/
  request : List UInt8
  /-- The bytes of the response still to be presented. -/
  response : List UInt8
  /-- The output register. -/
  output : UInt8
  /-- The output register holds a byte that has not been read. -/
  obf : Bool

variable {period : UInt64}

/-- Present the next byte of the response, or IDLE with a dummy byte. -/
def SlaveRegs.present (bmc : Firmware period) (r : SlaveRegs) : SlaveRegs :=
  match r.response with
  | [] => { r with state := .idle, output := bmc.dummy, obf := true }
  | byte :: rest => { r with state := .read, response := rest, output := byte, obf := true }

/-- The registers after a write has been taken. -/
def SlaveRegs.take (bmc : Firmware period) (r : SlaveRegs) : Reg → UInt8 → SlaveRegs
  | .kcsCmdReg, value =>
    if value = kcsWriteStart then
      { r with state := .write, writeEnd := false, request := [] }
    else if value = kcsWriteEnd ∧ r.state = .write then
      { r with writeEnd := true }
    else
      { r with state := .error }
  | .kcsPort, value =>
    match r.state with
    | .write =>
      let request := r.request ++ [value]
      if r.writeEnd then
        { r with request := request, response := bmc.answer request }.present bmc
      else
        { r with request := request }
    | .read => if value = kcsRead then r.present bmc else { r with state := .error }
    | .idle | .error => { r with state := .error }

/-- The status register. -/
def statusByte (state : KcsState) (obf ibf : Bool) (noise : Fin 16) : UInt8 :=
  let stateBits := match state with
    | .idle => 0
    | .read => 1
    | .write => 2
    | .error => 3
  let noise := if state = .error then 0 else noise.val
  UInt8.ofNat (64 * stateBits + 4 * noise + 2 * ibf.toNat + obf.toNat)

/-- The BMC as the host meets it. -/
structure Slave where
  /-- The protocol state. -/
  regs : SlaveRegs
  /-- The write that has not been taken, and for how many more polls; IBF is set while there is
  one. -/
  pending : Option (ℕ × Reg × UInt8)
  /-- For how many more polls OBF is not shown. -/
  obfDelay : ℕ
  /-- The number of writes so far. -/
  writes : ℕ
  /-- The number of polls so far. -/
  polls : ℕ

/-- Input buffer full. -/
def Slave.ibf (s : Slave) : Bool := s.pending.isSome

/-- The BMC, answering the port accesses of the host. -/
def Firmware.slave (bmc : Firmware period) : Handler PortCall PortCall.Answer Slave
  | .ioWrite8 reg value, s =>
    ((), { s with pending := some (bmc.ibfDelay s.writes, reg, value), writes := s.writes + 1 })
  | .ioRead8 .kcsPort, s =>
    (s.regs.output, { s with regs := { s.regs with obf := false } })
  | .ioRead8 .kcsCmdReg, s =>
    match s.pending with
    | some (delay + 1, reg, value) =>
      let shown := if bmc.early s.polls then s.regs.take bmc reg value else s.regs
      (statusByte shown.state shown.obf true (bmc.noise s.polls),
        { s with pending := some (delay, reg, value), polls := s.polls + 1 })
    | some (0, reg, value) =>
      let regs := s.regs.take bmc reg value
      let obfDelay : ℕ := bmc.obfDelay s.writes
      (statusByte regs.state (regs.obf && obfDelay == 0) false (bmc.noise s.polls),
        { s with regs := regs, pending := none, obfDelay := obfDelay, polls := s.polls + 1 })
    | none =>
      (statusByte s.regs.state (s.regs.obf && s.obfDelay == 0) false (bmc.noise s.polls),
        { s with obfDelay := s.obfDelay - 1, polls := s.polls + 1 })

/-! ### The status register -/

@[simp] theorem statusByte_ne (state : KcsState) (obf ibf : Bool) (noise : Fin 16) :
    statusByte state obf ibf noise ≠ 0xFF := by
  revert noise
  cases state <;> cases obf <;> cases ibf <;> decide

@[simp] theorem statusByte_state (state : KcsState) (obf ibf : Bool) (noise : Fin 16) :
    (KcsStatus.mk (statusByte state obf ibf noise)).state = state := by
  revert noise
  cases state <;> cases obf <;> cases ibf <;> decide

@[simp] theorem statusByte_ibf (state : KcsState) (obf ibf : Bool) (noise : Fin 16) :
    (KcsStatus.mk (statusByte state obf ibf noise)).ibf = ibf := by
  revert noise
  cases state <;> cases obf <;> cases ibf <;> decide

@[simp] theorem statusByte_obf (state : KcsState) (obf ibf : Bool) (noise : Fin 16) :
    (KcsStatus.mk (statusByte state obf ibf noise)).obf = obf := by
  revert noise
  cases state <;> cases obf <;> cases ibf <;> decide

/-! ### Where the registers are going -/

/-- The registers once the pending write, if any, has been taken. -/
def Slave.target (bmc : Firmware period) (s : Slave) : SlaveRegs :=
  match s.pending with
  | some (_, reg, value) => s.regs.take bmc reg value
  | none => s.regs

/-- For how many more polls IBF is shown. -/
def Slave.wait (s : Slave) : ℕ :=
  match s.pending with
  | some (delay, _, _) => delay
  | none => 0

/-- The registers are on their way to `r`, and the delays that are left are within the bound. -/
structure Slave.Settles (bmc : Firmware period) (r : SlaveRegs) (s : Slave) : Prop where
  /-- The pending write leads to `r`. -/
  target_eq : s.target bmc = r
  /-- IBF clears in time. -/
  wait_lt : s.wait < period.toNat
  /-- OBF shows in time. -/
  obfDelay_lt : s.obfDelay < period.toNat

/-- The registers hold `r`, and no write is pending. -/
structure Slave.Settled (bmc : Firmware period) (r : SlaveRegs) (s : Slave) : Prop
    extends s.Settles bmc r where
  /-- IBF is clear. -/
  pending_eq : s.pending = none

variable {bmc : Firmware period} {r : SlaveRegs} {s : Slave}

theorem Slave.Settled.regs_eq (hs : s.Settled bmc r) : s.regs = r := by
  have htarget := hs.target_eq
  rwa [Slave.target, hs.pending_eq] at htarget

/-- A settled state, from its parts. -/
theorem Slave.Settled.of_regs (hregs : s.regs = r) (hpending : s.pending = none)
    (hobf : s.obfDelay < period.toNat) : s.Settled bmc r := by
  refine ⟨⟨?_, ?_, hobf⟩, hpending⟩
  · rwa [Slave.target, hpending]
  · rw [Slave.wait, hpending]
    exact Nat.zero_lt_of_lt hobf

/-- What a poll shows and leaves behind: the BMC is still busy, and for one poll less; or it has
taken the write. -/
theorem Slave.Settles.poll (hs : s.Settles bmc r) :
    (bmc.slave (.ioRead8 .kcsCmdReg) s).1 ≠ (0xFF : UInt8) ∧
      ((KcsStatus.mk (bmc.slave (.ioRead8 .kcsCmdReg) s).1).ibf = true ∧
          (bmc.slave (.ioRead8 .kcsCmdReg) s).2.Settles bmc r ∧
          (bmc.slave (.ioRead8 .kcsCmdReg) s).2.wait + 1 = s.wait ∨
        (KcsStatus.mk (bmc.slave (.ioRead8 .kcsCmdReg) s).1).ibf = false ∧
          (KcsStatus.mk (bmc.slave (.ioRead8 .kcsCmdReg) s).1).state = r.state ∧
          (bmc.slave (.ioRead8 .kcsCmdReg) s).2.Settled bmc r) := by
  obtain ⟨htarget, hwait, hobf⟩ := hs
  obtain ⟨regs, pending, obfDelay, writes, polls⟩ := s
  rcases pending with _ | ⟨_ | delay, reg, value⟩
  · obtain rfl : regs = r := htarget
    refine ⟨statusByte_ne _ _ _ _, .inr ⟨statusByte_ibf _ _ _ _, statusByte_state _ _ _ _, ?_⟩⟩
    have hdelay : obfDelay - 1 < period.toNat := Nat.lt_of_le_of_lt (Nat.sub_le _ _) hobf
    exact .of_regs rfl rfl hdelay
  · obtain rfl : regs.take bmc reg value = r := htarget
    refine ⟨statusByte_ne _ _ _ _, .inr ⟨statusByte_ibf _ _ _ _, statusByte_state _ _ _ _, ?_⟩⟩
    exact .of_regs rfl rfl (bmc.obfDelay writes).isLt
  · refine ⟨statusByte_ne _ _ _ _, .inl ⟨statusByte_ibf _ _ _ _, ⟨htarget, ?_, hobf⟩, rfl⟩⟩
    have hdelay : delay + 1 < period.toNat := hwait
    exact Nat.lt_of_succ_lt hdelay

/-- A poll of a settled BMC. -/
theorem Slave.Settled.poll_obf (hs : s.Settled bmc r) (hobf : r.obf = true) :
    (bmc.slave (.ioRead8 .kcsCmdReg) s).1 ≠ (0xFF : UInt8) ∧
      (bmc.slave (.ioRead8 .kcsCmdReg) s).2.Settled bmc r ∧
      (bmc.slave (.ioRead8 .kcsCmdReg) s).2.obfDelay = s.obfDelay - 1 ∧
      ((KcsStatus.mk (bmc.slave (.ioRead8 .kcsCmdReg) s).1).obf = true ↔ s.obfDelay = 0) := by
  have hregs := hs.regs_eq
  obtain ⟨⟨-, -, hdelay⟩, hpending⟩ := hs
  obtain ⟨regs, pending, obfDelay, writes, polls⟩ := s
  obtain rfl : regs = r := hregs
  obtain rfl : pending = none := hpending
  refine ⟨statusByte_ne _ _ _ _, .of_regs rfl rfl ?_, rfl, ?_⟩
  · exact Nat.lt_of_le_of_lt (Nat.sub_le _ _) hdelay
  · change (KcsStatus.mk (statusByte _ (regs.obf && obfDelay == 0) _ _)).obf = true ↔ obfDelay = 0
    simp [hobf]

/-- A read of the data register. -/
theorem Slave.Settled.readData (hs : s.Settled bmc r) :
    (bmc.slave (.ioRead8 .kcsPort) s).1 = r.output ∧
      (bmc.slave (.ioRead8 .kcsPort) s).2.Settled bmc { r with obf := false } := by
  have hregs := hs.regs_eq
  constructor
  · rw [← hregs]
    rfl
  · exact .of_regs (congrArg (fun x : SlaveRegs => { x with obf := false }) hregs) hs.pending_eq
      hs.obfDelay_lt

/-- A write. -/
theorem Slave.Settled.write (hs : s.Settled bmc r) (reg : Reg) (value : UInt8) :
    (bmc.slave (.ioWrite8 reg value) s).2.Settles bmc (r.take bmc reg value) := by
  refine ⟨?_, (bmc.ibfDelay s.writes).isLt, hs.obfDelay_lt⟩
  rw [← hs.regs_eq]
  rfl

end Kcs

end IpmiFeature
