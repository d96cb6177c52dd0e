import IpmiFeature.Interaction.Prog
import IpmiFeature.Transport

/-!
# The SSIF transport

The driver of the SMBus System Interface (`Ssif.c`).  It talks to the BMC through the platform's
`BmcSmbusLib`, so its functions are programs over `BusCall`.  The timeout is not used by this
transport.  An `ASSERT` whose condition fails is a call too: its event in a trace says that it
fired.
-/

namespace IpmiFeature

open Interaction

namespace Ssif

/-! ### Constants -/

/-- `SSIF_MAX_WRITE_SIZE`. -/
def ssifMaxWriteSize : UInt8 := 32

/-- `SSIF_MAX_READ_BUFFER_SIZE`. -/
def ssifMaxReadBufferSize : UInt8 := 64

/-- `SMBUS_CMD_WRITE`. -/
def smbusCmdWrite : UInt8 := 0x2

/-- `SMBUS_CMD_READ`. -/
def smbusCmdRead : UInt8 := 0x3

/-- `SMBUS_CMD_MULT_WRITE_START`. -/
def smbusCmdMultWriteStart : UInt8 := 0x6

/-- `SMBUS_CMD_MULT_WRITE_MIDDLE`. -/
def smbusCmdMultWriteMiddle : UInt8 := 0x7

/-- `SMBUS_CMD_MULT_WRITE_END`. -/
def smbusCmdMultWriteEnd : UInt8 := 0x8

/-- `SMBUS_CMD_MULT_READ`. -/
def smbusCmdMultRead : UInt8 := 0x9

/-! ### The bus -/

/-- The outcome of `BmcSmbusBlockRead`: its status, and the bytes it has put into the buffer, of
which there are `*BlockLength`. -/
structure BlockRead where
  /-- The status returned. -/
  status : EfiStatus
  /-- The block. -/
  block : List UInt8
  /-- The library keeps to the size it was given. -/
  block_le : block.length ≤ ssifMaxReadBufferSize.toNat

/-- The calls of the driver. -/
inductive BusCall where
  /-- `BmcSmbusOpen`. -/
  | bmcSmbusOpen
  /-- `BmcSmbusClose`. -/
  | bmcSmbusClose
  /-- `BmcSmbusBlockWrite`. -/
  | bmcSmbusBlockWrite (command : UInt8) (writeBlock : List UInt8)
  /-- `BmcSmbusBlockRead`, with a buffer of `SSIF_MAX_READ_BUFFER_SIZE` bytes. -/
  | bmcSmbusBlockRead (command : UInt8)
  /-- An `ASSERT` that fires. -/
  | assertFailed
  deriving DecidableEq, Repr

/-- What the calls are answered with. -/
abbrev BusCall.Answer : BusCall → Type
  | bmcSmbusOpen => EfiStatus
  | bmcSmbusClose => EfiStatus
  | bmcSmbusBlockWrite _ _ => EfiStatus
  | bmcSmbusBlockRead _ => BlockRead
  | assertFailed => Unit

/-- Programs over the bus. -/
abbrev BusProg := Prog BusCall BusCall.Answer

/-- Bus accesses with their outcomes. -/
abbrev BusEvent := Event BusCall BusCall.Answer

/-- `BmcSmbusOpen`. -/
def bmcSmbusOpen : BusProg EfiStatus := Prog.perform BusCall.bmcSmbusOpen

/-- `BmcSmbusClose`. -/
def bmcSmbusClose : BusProg EfiStatus := Prog.perform BusCall.bmcSmbusClose

/-- `BmcSmbusBlockWrite`. -/
def bmcSmbusBlockWrite (command : UInt8) (writeBlock : List UInt8) : BusProg EfiStatus :=
  Prog.perform (BusCall.bmcSmbusBlockWrite command writeBlock)

/-- `BmcSmbusBlockRead`. -/
def bmcSmbusBlockRead (command : UInt8) : BusProg BlockRead :=
  Prog.perform (BusCall.bmcSmbusBlockRead command)

/-- `ASSERT`. -/
def assert (condition : Prop) [Decidable condition] : BusProg Unit :=
  if condition then pure () else Prog.perform BusCall.assertFailed

/-! ### Sending -/

/-- The variables of the loop of `SendDataToBmcPort`. -/
structure SendState where
  dataOffset : UInt8
  remainingSize : UInt8
  smbusCmd : UInt8
  status : EfiStatus

/-- The last part of an iteration: the command of the next block. -/
def nextSmbusCmd (smbusCmd remainingSize : UInt8) : BusProg UInt8 := do
  let mut smbusCmd := smbusCmd
  if smbusCmd = smbusCmdMultWriteStart then
    assert (remainingSize > 0)
    smbusCmd := smbusCmdMultWriteMiddle
  -- no `else`: a START block is followed by the END block when at most 32 bytes remain
  if smbusCmd = smbusCmdMultWriteMiddle ∧ remainingSize ≤ ssifMaxWriteSize then
    smbusCmd := smbusCmdMultWriteEnd
  return smbusCmd

/-- One iteration of the loop of `SendDataToBmcPort`. -/
def sendBlock (data : List UInt8) (dataSize : UInt8) (s : SendState) :
    BusProg (Iter SendState EfiStatus) :=
  if s.remainingSize > 0 then do
    let writeSize :=
      if s.remainingSize < ssifMaxWriteSize then s.remainingSize else ssifMaxWriteSize
    let status ← bmcSmbusBlockWrite s.smbusCmd
      ((data.drop s.dataOffset.toNat).take writeSize.toNat)
    if status.isError then
      return .done status
    else
      let dataOffset := s.dataOffset + writeSize
      let remainingSize := dataSize - dataOffset
      let smbusCmd ← nextSmbusCmd s.smbusCmd remainingSize
      return .again ⟨dataOffset, remainingSize, smbusCmd, status⟩
  else
    return .done s.status

/-- `SendDataToBmcPort`. -/
def sendDataToBmcPort (fuel : ℕ) (data : Message) : BusProg EfiStatus := do
  let dataSize := UInt8.ofNat data.bytes.length
  if dataSize = 0 then
    return .invalidParameter
  else
    let smbusCmd := if dataSize > ssifMaxWriteSize then smbusCmdMultWriteStart else smbusCmdWrite
    let status ← bmcSmbusOpen
    if status.isError then
      return status
    else
      let status ← Prog.loop (sendBlock data.bytes dataSize) fuel ⟨0, dataSize, smbusCmd, status⟩
      let _ ← bmcSmbusClose
      return status

/-! ### Receiving -/

/-- The variables of the loop of `ReceiveBmcDataFromPort`, with the caller's buffer. -/
structure ReceiveState where
  dataOffset : UInt8
  smbusCmd : UInt8
  blockBuffer : Memory UInt8
  blockNumber : UInt8
  data : Memory UInt8

/-- The end of an iteration: check the capacity and copy the payload of the block. -/
def copyBlock (dataSize readSize blockDataOffset : UInt8) (done : Bool) (s : ReceiveState) :
    Iter ReceiveState Received :=
  let blockDataSize := readSize - blockDataOffset
  if s.dataOffset.toNat + blockDataSize.toNat > dataSize.toNat then
    .done ⟨.bufferTooSmall, s.data, dataSize⟩
  else
    let data := s.data.store s.dataOffset.toNat
      (s.blockBuffer.slice blockDataOffset.toNat blockDataSize.toNat)
    let dataOffset := s.dataOffset + blockDataSize
    if done then
      .done ⟨.success, data, dataOffset⟩
    else
      .again { s with dataOffset := dataOffset, data := data }

/-- One iteration of the loop of `ReceiveBmcDataFromPort`. -/
def readBlock (dataSize : UInt8) (s : ReceiveState) : BusProg (Iter ReceiveState Received) := do
  let read ← bmcSmbusBlockRead s.smbusCmd
  let readSize := UInt8.ofNat read.block.length
  let blockBuffer := s.blockBuffer.store 0 read.block
  if read.status.isError then
    return .done ⟨read.status, s.data, dataSize⟩
  else if s.smbusCmd = smbusCmdRead then
    if blockBuffer 0 = 0 ∧ blockBuffer 1 = 1 then
      assert (s.dataOffset = 0)
      return copyBlock dataSize readSize 2 false
        { s with smbusCmd := smbusCmdMultRead, blockBuffer := blockBuffer, blockNumber := 0 }
    else
      return copyBlock dataSize readSize 0 true { s with blockBuffer := blockBuffer }
  else if blockBuffer 0 = 0xFF then
    return copyBlock dataSize readSize 1 true { s with blockBuffer := blockBuffer }
  else if blockBuffer 0 ≠ s.blockNumber then
    return .done ⟨.deviceError, s.data, dataSize⟩
  else
    return copyBlock dataSize readSize 1 false
      { s with blockBuffer := blockBuffer, blockNumber := blockBuffer 0 + 1 }

/-- `ReceiveBmcDataFromPort`.  `stack` is what the local `BlockBuffer` holds at first;
`BlockNumber` is not set before the first block of a multi-part message either, and not used. -/
def receiveBmcDataFromPort (fuel : ℕ) (stack : Memory UInt8) (data : Memory UInt8)
    (dataSize : UInt8) : BusProg Received := do
  let status ← bmcSmbusOpen
  if status.isError then
    return ⟨status, data, dataSize⟩
  else
    let received ← Prog.loop (readBlock dataSize) fuel ⟨0, smbusCmdRead, stack, 0, data⟩
    let _ ← bmcSmbusClose
    return received

end Ssif

end IpmiFeature
