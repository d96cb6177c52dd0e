import IpmiFeature.Codes
import IpmiFeature.Interaction.Prog
import IpmiFeature.Interaction.Words
import IpmiFeature.Transport

/-!
# The generic IPMI layer

`IpmiSendCommandInternal` (`GenericIpmi.c`) and its hook `IpmiSendCommand` (`IpmiHooks.c`), over an
arbitrary transport library.  The retry loop counts down, so it needs no fuel.  `IpmiPrintCommand`
prints and is left out.

The response pointer may be the instance's own `TempData`.  Writes to `TempData` go through
`storeTemp`, because `BmcStatus` directly follows the array and a write past its end changes it.
-/

namespace IpmiFeature

open Interaction

namespace Generic

/-! ### Constants -/

/-- `MAX_TEMP_DATA`. -/
def maxTempData : ℕ := 255

/-- `IPMI_COMMAND_HEADER_SIZE`. -/
def ipmiCommandHeaderSize : UInt8 := 2

/-- `IPMI_RESPONSE_HEADER_SIZE`. -/
def ipmiResponseHeaderSize : UInt8 := 3

/-- `BMC_OK`. -/
def bmcOk : UInt32 := 0

/-- `BMC_SOFTFAIL`. -/
def bmcSoftfail : UInt32 := 1

/-- `BMC_UPDATE_IN_PROGRESS`. -/
def bmcUpdateInProgress : UInt32 := 3

/-- `COMPLETION_CODES`: node busy, timeout, out of space, out of range, response not provided,
duplicate request, SDR repository in update mode, device in firmware update mode, initialization in
progress, insufficient privilege and unspecified. -/
def completionCodes : List UInt8 :=
  [0xC0, 0xC3, 0xC4, 0xC9, 0xCE, 0xCF, 0xD0, 0xD1, 0xD2, compCodeInsufficientPrivilege, 0xFF]

/-! ### The instance -/

/-- `IPMI_TRANSPORT`, with the addresses of its entry points. -/
structure IpmiTransport where
  revision : UInt64
  ipmiSubmitCommand : UInt64
  getBmcStatus : UInt64
  deriving DecidableEq, Repr

/-- `IPMI_BMC_INSTANCE_DATA`. -/
@[ext] structure IpmiBmcInstanceData where
  signature : UInt64
  ipmiTimeoutPeriod : UInt64
  slaveAddress : UInt8
  tempData : Fin maxTempData → UInt8
  bmcStatus : UInt32
  errorStatus : UInt64
  softErrorCount : UInt8
  ipmiTransport : IpmiTransport

/-- What a pointer to `TempData` gives access to: the array and the bytes of `BmcStatus`. -/
def IpmiBmcInstanceData.temp (inst : IpmiBmcInstanceData) : Memory UInt8 := fun i =>
  if h : i < maxTempData then inst.tempData ⟨i, h⟩ else byteOf inst.bmcStatus (i - maxTempData)

/-- The instance after the values have been copied to `TempData`, from offset `off` on. -/
def IpmiBmcInstanceData.storeTemp (inst : IpmiBmcInstanceData) (off : ℕ) (values : List UInt8) :
    IpmiBmcInstanceData :=
  let m := inst.temp.store off values
  { inst with tempData := fun i => m i, bmcStatus := wordOf m maxTempData }

/-- A soft failure. -/
def IpmiBmcInstanceData.softFail (inst : IpmiBmcInstanceData) : IpmiBmcInstanceData :=
  { inst with bmcStatus := bmcSoftfail, softErrorCount := inst.softErrorCount + 1 }

/-- `UpdateErrorStatus`. -/
def updateErrorStatus (bmcError : UInt8) (inst : IpmiBmcInstanceData) : IpmiBmcInstanceData :=
  if bmcError ∈ completionCodes then
    { inst with
      bmcStatus :=
        if inst.bmcStatus ≠ bmcUpdateInProgress then bmcSoftfail else inst.bmcStatus
      softErrorCount := inst.softErrorCount + 1 }
  else
    inst

/-! ### The transport -/

/-- What `ReceiveBmcDataFromPort` leaves behind, seen from its caller: the status and the bytes
written to the front of the buffer, of which there are `*DataSize` on success. -/
structure Reply (dataSize : UInt8) where
  /-- The status returned. -/
  status : EfiStatus
  /-- The bytes written. -/
  data : List UInt8
  /-- They fit into the buffer. -/
  length_le : data.length ≤ dataSize.toNat

/-- The calls to the transport library. -/
inductive TransportCall where
  /-- `SendDataToBmcPort`. -/
  | sendDataToBmcPort (ipmiTimeoutPeriod : UInt64) (data : Message)
  /-- `ReceiveBmcDataFromPort`. -/
  | receiveBmcDataFromPort (ipmiTimeoutPeriod : UInt64) (dataSize : UInt8)

/-- What the calls are answered with. -/
abbrev TransportCall.Answer : TransportCall → Type
  | sendDataToBmcPort _ _ => EfiStatus
  | receiveBmcDataFromPort _ dataSize => Reply dataSize

/-- Programs over a transport library. -/
abbrev TransportProg := Prog TransportCall TransportCall.Answer

/-- Calls to the transport library with their outcomes. -/
abbrev TransportEvent := Event TransportCall TransportCall.Answer

/-- `SendDataToBmcPort`. -/
def sendDataToBmcPort (ipmiTimeoutPeriod : UInt64) (data : Message) : TransportProg EfiStatus :=
  Prog.perform (TransportCall.sendDataToBmcPort ipmiTimeoutPeriod data)

/-- `ReceiveBmcDataFromPort`. -/
def receiveBmcDataFromPort (ipmiTimeoutPeriod : UInt64) (dataSize : UInt8) :
    TransportProg (Reply dataSize) :=
  Prog.perform (TransportCall.receiveBmcDataFromPort ipmiTimeoutPeriod dataSize)

/-- The transport that fails every call. -/
def failedTransport : (call : TransportCall) → call.Answer
  | .sendDataToBmcPort _ _ => .deviceError
  | .receiveBmcDataFromPort _ dataSize => ⟨.deviceError, [], length_nil_le dataSize⟩

/-- The capacity that is passed to `ReceiveBmcDataFromPort`. -/
def receiveSize : UInt8 := UInt8.ofNat (maxTempData - 1)

/-- The message behind a pointer, with a `UINT8` size. -/
def messageAt (m : Memory UInt8) (size : UInt8) : Message where
  bytes := m.slice 0 size.toNat
  size_le := by
    rw [Memory.length_slice]
    exact Nat.le_of_lt_succ size.toNat_lt

/-! ### Arguments and state of a call -/

/-- The argument `ResponseData`. -/
inductive ResponsePtr where
  /-- `NULL`. -/
  | null
  /-- A buffer of the caller. -/
  | caller
  /-- `IpmiInstance->TempData`. -/
  | tempData
  deriving DecidableEq, Repr

/-- The arguments of a command; sizes are of type `Size`. -/
structure CommandArgs (Size : Type) where
  netFunction : UInt8
  lun : UInt8
  command : UInt8
  /-- The memory behind `CommandData`, unless it is `NULL`. -/
  commandData : Option (Memory UInt8)
  commandDataSize : Size
  responseData : ResponsePtr
  /-- `ResponseDataSize` is not `NULL`. -/
  hasResponseDataSize : Bool

/-- What a command changes: the instance, the caller's buffer and `*ResponseDataSize`. -/
structure CommandState (Size : Type) where
  inst : IpmiBmcInstanceData
  /-- The memory behind `ResponseData`, if it is a buffer of the caller. -/
  responseData : Memory UInt8
  /-- `*ResponseDataSize`. -/
  responseDataSize : Size

/-- The locals that are set in the retry loop only, when it is not entered. -/
structure Uninitialized where
  /-- `DataSize`. -/
  dataSize : UInt8
  /-- What `IpmiResponse` happens to point to. -/
  ipmiResponse : Memory UInt8

variable {Size : Type}

/-- The memory behind `ResponseData`. -/
def CommandState.response (st : CommandState Size) : ResponsePtr → Memory UInt8
  | .tempData => st.inst.temp
  | .caller | .null => st.responseData

/-- The state after the values have been copied to `ResponseData`, from offset `off` on. -/
def CommandState.storeResponse (st : CommandState Size) (ptr : ResponsePtr) (off : ℕ)
    (values : List UInt8) : CommandState Size :=
  match ptr with
  | .tempData => { st with inst := st.inst.storeTemp off values }
  | .caller => { st with responseData := st.responseData.store off values }
  | .null => st

/-! ### Sending a command -/

/-- The first byte of a command: `Lun` in the two low bits, `NetFunction` in the others. -/
def commandHeader (netFunction lun : UInt8) : UInt8 := (netFunction <<< 2) ||| (lun &&& 3)

/-- `NetFunction` of an `IPMI_RESPONSE`. -/
def netFunctionOf (header : UInt8) : UInt8 := header >>> 2

/-- The command in `TempData`: the header, and the data if there is any. -/
def buildCommand (args : CommandArgs UInt8) (inst : IpmiBmcInstanceData) : IpmiBmcInstanceData :=
  let inst := inst.storeTemp 0 [commandHeader args.netFunction args.lun, args.command]
  match args.commandData with
  | none => inst
  | some commandData =>
    if args.commandDataSize > 0 then
      inst.storeTemp ipmiCommandHeaderSize.toNat (commandData.slice 0 args.commandDataSize.toNat)
    else
      inst

/-- What an iteration of the retry loop makes of the reply, with `RetryCnt` after the decrement.
The loop is left by `return` with a status, or by `break` with `DataSize`. -/
def checkReply (args : CommandArgs UInt8) (retryCnt : ℕ) (reply : Reply receiveSize)
    (st : CommandState UInt8) :
    Iter (CommandState UInt8) (Except EfiStatus UInt8 × CommandState UInt8) :=
  let inst := st.inst.storeTemp 0 reply.data
  let dataSize := UInt8.ofNat reply.data.length
  let completionCode := inst.temp 2
  if reply.status ≠ .success then
    .done (.error reply.status, { st with inst := inst.softFail })
  else if dataSize < ipmiResponseHeaderSize then
    .done (.error .deviceError, { st with inst := inst })
  else if completionCode ≠ compCodeNormal ∧ inst.bmcStatus = bmcUpdateInProgress then
    .done (.error .unsupported, { st with inst := updateErrorStatus completionCode inst })
  else if completionCode ≠ compCodeNormal then
    let status : EfiStatus :=
      if completionCode = compCodeInsufficientPrivilege then .securityViolation else .deviceError
    .done (.error status, { st with inst := updateErrorStatus completionCode inst })
  -- the source checks the size a second time
  else if dataSize < ipmiResponseHeaderSize then
    .done (.error .deviceError, { st with inst := inst })
  else if args.hasResponseDataSize ∧
      dataSize.toNat - ipmiResponseHeaderSize.toNat > st.responseDataSize.toNat then
    -- only a reply that is too long is compared with the command
    if netFunctionOf (inst.temp 0) ≠ args.netFunction ||| 1 ∨ inst.temp 1 ≠ args.command then
      if retryCnt = 0 then
        .done (.error .deviceError, { st with inst := inst })
      else
        .again { st with inst := inst }
    else
      .done (.error .bufferTooSmall,
        { st with inst := inst, responseDataSize := dataSize - ipmiResponseHeaderSize + 1 })
  else
    .done (.ok dataSize, { st with inst := inst })

/-- One iteration of the retry loop, with `RetryCnt` after the decrement. -/
def attempt (args : CommandArgs UInt8) (retryCnt : ℕ) (st : CommandState UInt8) :
    TransportProg (Iter (CommandState UInt8) (Except EfiStatus UInt8 × CommandState UInt8)) := do
  let inst := buildCommand args st.inst
  let status ← sendDataToBmcPort inst.ipmiTimeoutPeriod
    (messageAt inst.temp (args.commandDataSize + ipmiCommandHeaderSize))
  if status ≠ .success then
    return .done (.error status, { st with inst := inst.softFail })
  else
    let reply ← receiveBmcDataFromPort inst.ipmiTimeoutPeriod receiveSize
    return checkReply args retryCnt reply { st with inst := inst }

/-- The retry loop, with `RetryCnt` before the decrement.  `none` says that it has ended without a
reply. -/
def retryLoop (args : CommandArgs UInt8) :
    ℕ → CommandState UInt8 → TransportProg (Except EfiStatus (Option UInt8) × CommandState UInt8)
  | 0, st => return (.ok none, st)
  | retryCnt + 1, st => do
    match ← attempt args retryCnt st with
    | .again st => retryLoop args retryCnt st
    | .done (.error status, st) => return (.error status, st)
    | .done (.ok dataSize, st) => return (.ok (some dataSize), st)

/-- `IpmiResponse`: it points to `TempData` once the loop has been entered. -/
def ipmiResponse (uninit : Uninitialized) (replied : Bool) (st : CommandState UInt8) :
    Memory UInt8 :=
  if replied then st.inst.temp else uninit.ipmiResponse

/-- Shift the response by one byte, from its end on, to make room for the completion code. -/
def shiftResponse (ptr : ResponsePtr) (st : CommandState UInt8) : CommandState UInt8 :=
  let size := st.responseDataSize.toNat
  (List.range' 1 (size - 1)).foldl (fun st index =>
    st.storeResponse ptr (size - index) [st.response ptr (size - (index + 1))]) st

/-- Copy the payload to the response buffer and put the completion code in front of it. -/
def deliverResponse (ptr : ResponsePtr) (uninit : Uninitialized) (replied : Bool)
    (dataSize : UInt8) (st : CommandState UInt8) : CommandState UInt8 :=
  let size := dataSize - ipmiResponseHeaderSize
  let payload := (ipmiResponse uninit replied st).slice ipmiResponseHeaderSize.toNat size.toNat
  let st := { st with responseDataSize := size }.storeResponse ptr 0 payload
  let st := shiftResponse ptr { st with responseDataSize := size + 1 }
  -- read again, from what may be the response buffer itself
  st.storeResponse ptr 0 [ipmiResponse uninit replied st 2]

/-- What follows the retry loop: a `return` inside the loop is the result, otherwise the response is
delivered. -/
def finishCommand (uninit : Uninitialized) (args : CommandArgs UInt8) :
    Except EfiStatus (Option UInt8) × CommandState UInt8 → EfiStatus × CommandState UInt8
  | (.error status, st) => (status, st)
  | (.ok reply, st) =>
    let st :=
      if args.responseData ≠ .null ∧ args.hasResponseDataSize then
        deliverResponse args.responseData uninit reply.isSome (reply.getD uninit.dataSize) st
      else
        st
    (.success, { st with inst := { st.inst with bmcStatus := bmcOk } })

/-- `IpmiSendCommandInternal`, with `PcdIpmiCommandMaxReties`. -/
def ipmiSendCommandInternal (maxRetries : UInt8) (uninit : Uninitialized)
    (args : CommandArgs UInt8) (st : CommandState UInt8) :
    TransportProg (EfiStatus × CommandState UInt8) :=
  if args.commandDataSize > 0 ∧ args.commandData.isNone then
    return (.invalidParameter, st)
  else if decide (args.responseData ≠ .null) ≠ args.hasResponseDataSize then
    return (.invalidParameter, st)
  else do
    let r ← retryLoop args maxRetries.toNat st
    return finishCommand uninit args r

/-- The arguments that the hook passes on: the command data size is cut off to a `UINT8`. -/
def CommandArgs.narrow (args : CommandArgs UInt32) : CommandArgs UInt8 :=
  { args with commandDataSize := args.commandDataSize.toUInt8 }

/-- `IpmiSendCommand`.  `ResponseDataSize` is passed on as a pointer to the first byte of the
caller's `UINT32`. -/
def ipmiSendCommand (maxRetries : UInt8) (uninit : Uninitialized) (args : CommandArgs UInt32)
    (st : CommandState UInt32) : TransportProg (EfiStatus × CommandState UInt32) := do
  let (status, st') ← ipmiSendCommandInternal maxRetries uninit args.narrow
    { st with responseDataSize := byteOf st.responseDataSize 0 }
  return (status,
    { st' with responseDataSize := setLowByte st.responseDataSize st'.responseDataSize })

/-! ### Rejected arguments -/

/-- The arguments that are rejected before anything is sent. -/
def Rejected (args : CommandArgs UInt8) : Prop :=
  (args.commandDataSize > 0 ∧ args.commandData.isNone) ∨
    decide (args.responseData ≠ .null) ≠ args.hasResponseDataSize

instance : DecidablePred Rejected :=
  fun args => inferInstanceAs (Decidable ((_ ∧ args.commandData.isNone) ∨ _))

variable {maxRetries : UInt8} {uninit : Uninitialized} {args : CommandArgs UInt8}
  {st : CommandState UInt8}

/-- A response buffer comes with its size. -/
theorem hasResponseDataSize_of_not_rejected (h : ¬ Rejected args) (hptr : args.responseData ≠ .null) :
    args.hasResponseDataSize = true := by
  simpa [hptr] using (not_or.1 h).2

theorem ipmiSendCommandInternal_of_rejected (h : Rejected args) :
    ipmiSendCommandInternal maxRetries uninit args st = pure (.invalidParameter, st) := by
  unfold ipmiSendCommandInternal
  split_ifs with hdata hresponse
  · rfl
  · rfl
  · exact absurd h (not_or.2 ⟨hdata, hresponse⟩)

theorem ipmiSendCommandInternal_of_not_rejected (h : ¬ Rejected args) :
    ipmiSendCommandInternal maxRetries uninit args st =
      retryLoop args maxRetries.toNat st >>= fun r => pure (finishCommand uninit args r) := by
  obtain ⟨hdata, hresponse⟩ := not_or.1 h
  rw [ipmiSendCommandInternal, if_neg hdata, if_neg hresponse]

end Generic

end IpmiFeature
