import IpmiFeature.Interaction.Prog
import IpmiFeature.Transport

/-!
# The KCS transport

The driver of the Keyboard Controller Style interface (`KcsBmc.c`).  It talks to the BMC through
two I/O registers, so its functions are programs over `PortCall`: 8-bit reads and writes of the
data register (`KcsPort`, `PcdIpmiIoBaseAddress`) and of the command/status register
(`KcsCmdReg`, `PcdIpmiIoCmdRegister`).  `MicroSecondDelay` has no effect on the values and is left
out.

Every loop of the source is a `Prog.loop`, all with the same `fuel`; the first loop of
`sendDataToBmc` is the only one that no amount of fuel is enough for.
-/

namespace IpmiFeature

open Interaction

namespace Kcs

/-! ### Registers and status -/

/-- The registers of the interface. -/
inductive Reg where
  /-- The data register. -/
  | kcsPort
  /-- The command register on writes, the status register on reads. -/
  | kcsCmdReg
  deriving DecidableEq, Repr

/-- `KCS_STATE`. -/
inductive KcsState where
  | idle
  | read
  | write
  | error
  deriving DecidableEq, Repr

/-- `KCS_STATUS`: the status register. -/
structure KcsStatus where
  /-- The byte read from the register. -/
  rawData : UInt8
  deriving DecidableEq, Repr

/-- Output buffer full. -/
def KcsStatus.obf (s : KcsStatus) : Bool := s.rawData &&& 1 != 0

/-- Input buffer full. -/
def KcsStatus.ibf (s : KcsStatus) : Bool := (s.rawData >>> 1) &&& 1 != 0

/-- The state bits. -/
def KcsStatus.state (s : KcsStatus) : KcsState :=
  match (s.rawData >>> 6).toNat with
  | 0 => .idle
  | 1 => .read
  | 2 => .write
  | _ => .error

/-- `KCS_WRITE_START`. -/
def kcsWriteStart : UInt8 := 0x61

/-- `KCS_WRITE_END`. -/
def kcsWriteEnd : UInt8 := 0x62

/-- `KCS_READ`. -/
def kcsRead : UInt8 := 0x68

/-- `KCS_ABORT`. -/
def kcsAbort : UInt8 := 0x60

/-- `KCS_ABORT_RETRY_COUNT`. -/
def kcsAbortRetryCount : ℕ := 1

/-! ### Port access -/

/-- The calls of the driver. -/
inductive PortCall where
  /-- `IoRead8`. -/
  | ioRead8 (reg : Reg)
  /-- `IoWrite8`. -/
  | ioWrite8 (reg : Reg) (value : UInt8)
  deriving DecidableEq, Repr

/-- A read is answered by the value of the register. -/
abbrev PortCall.Answer : PortCall → Type
  | ioRead8 _ => UInt8
  | ioWrite8 _ _ => Unit

/-- Programs over the two registers. -/
abbrev PortProg := Prog PortCall PortCall.Answer

/-- Port accesses with the values read. -/
abbrev PortEvent := Event PortCall PortCall.Answer

/-- `IoRead8`. -/
def ioRead8 (reg : Reg) : PortProg UInt8 := Prog.perform (PortCall.ioRead8 reg)

/-- `IoWrite8`. -/
def ioWrite8 (reg : Reg) (value : UInt8) : PortProg Unit := Prog.perform (PortCall.ioWrite8 reg value)

/-- A read of the status register that returned `value`. -/
abbrev statusRead (value : UInt8) : PortEvent := ⟨.ioRead8 .kcsCmdReg, value⟩

/-- A read of the data register that returned `value`. -/
abbrev dataRead (value : UInt8) : PortEvent := ⟨.ioRead8 .kcsPort, value⟩

/-- A write. -/
abbrev portWrite (reg : Reg) (value : UInt8) : PortEvent := ⟨.ioWrite8 reg value, ()⟩

/-- The BMC whose registers return the given values, one at each read, and `0xFF` from then on. -/
def replay : Handler PortCall PortCall.Answer (List UInt8)
  | .ioRead8 _, [] => (0xFF, [])
  | .ioRead8 _, v :: vs => (v, vs)
  | .ioWrite8 _ _, vs => ((), vs)

/-! ### The driver -/

/-- The polling loop of the driver: read the status until `busy` fails.  `none` is the exit on a
status of `0xFF` or on the timeout. -/
def pollStatus (fuel : ℕ) (ipmiTimeoutPeriod : UInt64) (busy : KcsStatus → Bool) :
    PortProg (Option KcsStatus) :=
  Prog.loop (fun timeOut : UInt64 => do
    let kcsStatus : KcsStatus := ⟨← ioRead8 .kcsCmdReg⟩
    if kcsStatus.rawData = 0xFF ∨ timeOut ≥ ipmiTimeoutPeriod then
      return .done none
    else if busy kcsStatus then
      return .again (timeOut + 1)
    else
      return .done (some kcsStatus)) fuel 0

/-- One round of `KcsErrorExit`.  The loop is left with the retry count, or by `goto LabelError`
with a status. -/
def kcsErrorExitRound (fuel : ℕ) (ipmiTimeoutPeriod : UInt64) (retryCount : ℕ) :
    PortProg (Iter ℕ (Except EfiStatus ℕ)) :=
  if retryCount < kcsAbortRetryCount then do
    -- the first poll gives up by `break`, with the retry count used up
    let some _ ← pollStatus fuel ipmiTimeoutPeriod (·.ibf)
      | return .done (.ok kcsAbortRetryCount)
    ioWrite8 .kcsCmdReg kcsAbort
    let some _ ← pollStatus fuel ipmiTimeoutPeriod (·.ibf)
      | return .done (.error .deviceError)
    let _ ← ioRead8 .kcsPort
    ioWrite8 .kcsPort 0x0
    let some kcsStatus ← pollStatus fuel ipmiTimeoutPeriod (·.ibf)
      | return .done (.error .deviceError)
    if kcsStatus.state = .read then
      let some _ ← pollStatus fuel ipmiTimeoutPeriod (!·.obf)
        | return .done (.error .deviceError)
      let _ ← ioRead8 .kcsPort
      ioWrite8 .kcsPort kcsRead
      let some kcsStatus ← pollStatus fuel ipmiTimeoutPeriod (·.ibf)
        | return .done (.error .deviceError)
      if kcsStatus.state = .idle then
        let some _ ← pollStatus fuel ipmiTimeoutPeriod (!·.obf)
          | return .done (.error .deviceError)
        let _ ← ioRead8 .kcsPort
        return .done (.ok retryCount)
      else
        return .again (retryCount + 1)
    else
      return .again (retryCount + 1)
  else
    return .done (.ok retryCount)

/-- `KcsErrorExit`. -/
def kcsErrorExit (fuel : ℕ) (ipmiTimeoutPeriod : UInt64) : PortProg EfiStatus := do
  match ← Prog.loop (kcsErrorExitRound fuel ipmiTimeoutPeriod) fuel 0 with
  | .error status => return status
  | .ok retryCount =>
    if retryCount ≥ kcsAbortRetryCount then
      return .deviceError
    else
      return .success

/-- The end of `KcsCheckStatus`, from the point where the state is accepted. -/
def kcsCheckOutput (fuel : ℕ) (ipmiTimeoutPeriod : UInt64) (kcsState : KcsState) (idle : Bool) :
    PortProg (EfiStatus × Bool) := do
  if kcsState = .read then
    if (← pollStatus fuel ipmiTimeoutPeriod (!·.obf)).isNone then
      return (.deviceError, idle)
  -- clear OBF: in the WRITE state for the second time
  if kcsState = .write ∨ idle then
    let _ ← ioRead8 .kcsPort
  return (.success, idle)

/-- `KcsCheckStatus`, with the flag `*Idle`.  Every caller passes the address of a local, so the
check of the pointer is left out. -/
def kcsCheckStatus (fuel : ℕ) (ipmiTimeoutPeriod : UInt64) (kcsState : KcsState) :
    PortProg (EfiStatus × Bool) := do
  let some kcsStatus ← pollStatus fuel ipmiTimeoutPeriod (·.ibf)
    | return (.deviceError, false)
  if kcsState = .write then
    let _ ← ioRead8 .kcsPort
  if kcsStatus.state ≠ kcsState then
    if kcsStatus.state = .idle ∧ kcsState = .read then
      kcsCheckOutput fuel ipmiTimeoutPeriod kcsState true
    else
      -- a recovery that succeeds is reported as a check that succeeds
      return (← kcsErrorExit fuel ipmiTimeoutPeriod, false)
  else
    kcsCheckOutput fuel ipmiTimeoutPeriod kcsState false

/-- One poll of the first loop of `SendDataToBmc`.  `some` is the `return` inside the loop. -/
def waitPoll (fuel : ℕ) (ipmiTimeoutPeriod : UInt64) (timeOut : UInt64) :
    PortProg (Iter UInt64 (Option EfiStatus)) := do
  let kcsStatus : KcsStatus := ⟨← ioRead8 .kcsCmdReg⟩
  let status ←
    if kcsStatus.rawData = 0xFF ∨ timeOut ≥ ipmiTimeoutPeriod then
      kcsErrorExit fuel ipmiTimeoutPeriod
    else
      pure .success
  if status ≠ .success then
    return .done (some status)
  else if kcsStatus.ibf then
    return .again (timeOut + 1)
  else
    return .done none

/-- The first loop of `SendDataToBmc`: wait until the BMC has taken the last byte. -/
def waitInputEmpty (fuel : ℕ) (ipmiTimeoutPeriod : UInt64) : PortProg (Option EfiStatus) :=
  Prog.loop (waitPoll fuel ipmiTimeoutPeriod) fuel 0

/-- What `SendDataToBmc` does before the last byte: check the state and write `KCS_WRITE_END`. -/
def writeEnd (fuel : ℕ) (ipmiTimeoutPeriod : UInt64) : PortProg EfiStatus := do
  let (status, _) ← kcsCheckStatus fuel ipmiTimeoutPeriod .write
  if status ≠ .success then
    return status
  else
    ioWrite8 .kcsCmdReg kcsWriteEnd
    return .success

/-- One iteration of the data loop of `SendDataToBmc`. -/
def sendByte (fuel : ℕ) (ipmiTimeoutPeriod : UInt64) (data : Message) (i : ℕ) :
    PortProg (Iter ℕ EfiStatus) :=
  if h : i < data.bytes.length then do
    let status ←
      if i = data.bytes.length - 1 then
        writeEnd fuel ipmiTimeoutPeriod
      else
        pure .success
    if status ≠ .success then
      return .done status
    else
      let (status, _) ← kcsCheckStatus fuel ipmiTimeoutPeriod .write
      if status.isError then
        return .done status
      else
        ioWrite8 .kcsPort data.bytes[i]
        return .again (i + 1)
  else
    return .done .success

/-- `SendDataToBmc`. -/
def sendDataToBmc (fuel : ℕ) (ipmiTimeoutPeriod : UInt64) (data : Message) :
    PortProg EfiStatus := do
  match ← waitInputEmpty fuel ipmiTimeoutPeriod with
  | some status => return status
  | none =>
    ioWrite8 .kcsCmdReg kcsWriteStart
    let (status, _) ← kcsCheckStatus fuel ipmiTimeoutPeriod .write
    if status ≠ .success then
      return status
    else
      Prog.loop (sendByte fuel ipmiTimeoutPeriod data) fuel 0

/-- `SendDataToBmcPort`. -/
def sendDataToBmcPort (fuel : ℕ) (ipmiTimeoutPeriod : UInt64) (data : Message) :
    PortProg EfiStatus :=
  Prog.loop (fun i : ℕ => do
    if i < kcsAbortRetryCount then
      let status ← sendDataToBmc fuel ipmiTimeoutPeriod data
      if status.isError then
        let status ← kcsErrorExit fuel ipmiTimeoutPeriod
        if status ≠ .success then
          return .done status
        else
          return .again (i + 1)
      else
        return .done status
    else
      return .done .deviceError) fuel 0

/-- One iteration of the loop of `ReceiveBmcData`, with `Count` and the caller's buffer. -/
def receiveByte (fuel : ℕ) (ipmiTimeoutPeriod : UInt64) (dataSize : UInt8)
    (s : ℕ × Memory UInt8) : PortProg (Iter (ℕ × Memory UInt8) Received) := do
  let (count, data) := s
  let (status, idle) ← kcsCheckStatus fuel ipmiTimeoutPeriod .read
  if status ≠ .success then
    return .done ⟨status, data, dataSize⟩
  else if idle then
    return .done ⟨.success, data, UInt8.ofNat count⟩
  else if count ≥ dataSize.toNat then
    return .done ⟨.deviceError, data, dataSize⟩
  else
    let byte ← ioRead8 .kcsPort
    ioWrite8 .kcsPort kcsRead
    return .again (count + 1, data.store count [byte])

/-- `ReceiveBmcData`. -/
def receiveBmcData (fuel : ℕ) (ipmiTimeoutPeriod : UInt64) (data : Memory UInt8)
    (dataSize : UInt8) : PortProg Received :=
  Prog.loop (receiveByte fuel ipmiTimeoutPeriod dataSize) fuel (0, data)

/-- `ReceiveBmcDataFromPort`. -/
def receiveBmcDataFromPort (fuel : ℕ) (ipmiTimeoutPeriod : UInt64) (data : Memory UInt8)
    (dataSize : UInt8) : PortProg Received :=
  Prog.loop (fun s : ℕ × Memory UInt8 => do
    let (i, data) := s
    if i < kcsAbortRetryCount then
      let received ← receiveBmcData fuel ipmiTimeoutPeriod data dataSize
      if received.status.isError then
        let status ← kcsErrorExit fuel ipmiTimeoutPeriod
        if status ≠ .success then
          return .done { received with status := status }
        else
          return .again (i + 1, received.data)
      else
        return .done received
    else
      return .done ⟨.deviceError, data, dataSize⟩) fuel (0, data)

end Kcs

end IpmiFeature
