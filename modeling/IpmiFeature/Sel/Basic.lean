import IpmiFeature.BaseLib.Dxe
import IpmiFeature.Mock.Basic

/-!
# The system event log library

`IpmiSelLib.c` over a base library, with `SEL_RECORD` of `IpmiSelProtocol.h`.  What the locals of a
function hold at first is the parameter `stack`.
-/

namespace IpmiFeature

open Interaction BaseLib Mock

namespace Sel

/-! ### Constants -/

/-- `IPMI_SEL_SYSTEM_RECORD`. -/
def selSystemRecord : UInt8 := 0x02

/-- `IPMI_SEL_OEM_TIME_STAMP_RECORD_START`. -/
def selOemTimeStampRecordStart : UInt8 := 0xC0

/-- `IPMI_SEL_OEM_TIME_STAMP_RECORD_END`. -/
def selOemTimeStampRecordEnd : UInt8 := 0xDF

/-- `IPMI_SOFTWARE_ID`. -/
def softwareId : UInt16 := 0x01

/-- `IPMI_EVM_REVISION`. -/
def evmRevision : UInt8 := 0x04

/-! ### Records -/

/-- `SEL_ENTRY_SIZE`. -/
def selEntrySize : ℕ := 16

/-- The bytes of a `SEL_RECORD` with the member `System`. -/
def systemRecord (sensorType sensorNumber eventDirType data0 data1 data2 : UInt8) : List UInt8 :=
  [0, 0, selSystemRecord, 0, 0, 0, 0] ++ (byteOfShort softwareId).slice 0 2 ++
    [evmRevision, sensorType, sensorNumber, eventDirType, data0, data1, data2]

/-- The bytes of a `SEL_RECORD` with the member `Oem`. -/
def oemRecord (recordType : UInt8) (manufacturerId : Fin 3 → UInt8) (data : Fin 6 → UInt8) :
    List UInt8 :=
  [0, 0, recordType, 0, 0, 0, 0] ++ List.ofFn manufacturerId ++ List.ofFn data

/-- The bytes of a `SEL_RECORD` with the member `OemNonTimestamped`. -/
def oemNonTimestampedRecord (recordType : UInt8) (data : Fin 13 → UInt8) : List UInt8 :=
  [0, 0, recordType] ++ List.ofFn data

section

variable (record : Memory UInt8)

/-- `RecordId`. -/
def recordId : UInt16 := shortOf record 0

/-- `RecordType`. -/
def recordType : UInt8 := record 2

/-- `Record.System.SensorType`. -/
def systemSensorType : UInt8 := record 10

/-- `Record.System.SensorNumber`. -/
def systemSensorNumber : UInt8 := record 11

/-- `Record.System.EventDirType`. -/
def systemEventDirType : UInt8 := record 12

/-- `Record.System.Data`. -/
def systemData (i : Fin 3) : UInt8 := record (13 + i)

/-- `Record.Oem.ManufacturerId`. -/
def oemManufacturerId (i : Fin 3) : UInt8 := record (7 + i)

/-- `Record.Oem.Data`. -/
def oemData (i : Fin 6) : UInt8 := record (10 + i)

/-- `Record.OemNonTimestamped.Data`. -/
def oemNonTimestampedData (i : Fin 13) : UInt8 := record (3 + i)

end

/-- `SEL_INFO`. -/
structure SelInfo where
  version : UInt8
  numberOfEntries : UInt16
  freeSpace : UInt16
  lastAddTimeStamp : UInt32
  lastEraseTimeStamp : UInt32
  operationSupported : UInt8
  deriving DecidableEq, Repr

/-! ### The functions -/

/-- `IpmiCompCodeToEfiStatus`. -/
def ipmiCompCodeToEfiStatus (compCode : UInt8) : EfiStatus :=
  if compCode = compCodeNormal then
    .success
  else if compCode = compCodeInvalidCommand then
    .unsupported
  else if compCode = compCodeInvalidForGivenLun ∨ compCode = compCodeInvalidDataField ∨
      compCode = compCodeCommandIllegal then
    .invalidParameter
  else if compCode = compCodeInvalidRequestDataLength then
    .badBufferSize
  else if compCode = compCodeNotPresent ∨ compCode = compCodeOutOfRange then
    .notFound
  else if compCode = compCodeTimeout then
    .timeout
  else if compCode = compCodeOutOfSpace then
    .outOfResources
  else if compCode = compCodeBmcInitInProgress then
    .notReady
  else if compCode = compCodeInsufficientPrivilege then
    .securityViolation
  else
    .protocolError

/-- The status of a call and of its completion code. -/
def statusOf (result : SubmitResult) : EfiStatus :=
  if result.status.isError then result.status else ipmiCompCodeToEfiStatus (result.buffer 0)

/-- A value from the response, unless there is an error. -/
def valueOf {α : Type} (result : SubmitResult) (value : α) : Except EfiStatus α :=
  if (statusOf result).isError then .error (statusOf result) else .ok value

/-- `*RecordId` of `IpmiAddSelEntry`, from the response. -/
def addedRecordId (result : SubmitResult) : Except EfiStatus UInt16 :=
  if result.status.isError then
    .error result.status
  else if result.size < 1 then
    .error .protocolError
  else if (ipmiCompCodeToEfiStatus (result.buffer 0)).isError then
    .error (ipmiCompCodeToEfiStatus (result.buffer 0))
  else if result.size < 3 then
    .error .protocolError
  else
    .ok (shortOf result.buffer 1)

section

variable (stack : Memory UInt8)

/-- `IpmiAddSelEntry`, with the bytes of `*Entry`: `*RecordId`, should the pointer be given. -/
def ipmiAddSelEntry (entry : List UInt8) : SubmitProg (Except EfiStatus UInt16) := do
  let response := Memory.store stack 0 [compCodeUnspecified]
  let result ← submitBuffered ⟨⟨netfnStorage, storageAddSelEntry, entry, 3⟩, response⟩
  return addedRecordId result

/-- `SelAddSystemEntry`. -/
def selAddSystemEntry (sensorType sensorNumber eventDirType data0 data1 data2 : UInt8) :
    SubmitProg (Except EfiStatus UInt16) :=
  ipmiAddSelEntry stack (systemRecord sensorType sensorNumber eventDirType data0 data1 data2)

/-- `SelAddOemEntryEx`; a pointer may be `NULL`. -/
def selAddOemEntryEx (recordType : UInt8) (manufacturerId : Option (Fin 3 → UInt8))
    (data : Option (Fin 6 → UInt8)) : SubmitProg (Except EfiStatus UInt16) :=
  match manufacturerId, data with
  | some manufacturerId, some data =>
    if recordType < selOemTimeStampRecordStart ∨ recordType > selOemTimeStampRecordEnd then
      return .error .invalidParameter
    else
      ipmiAddSelEntry stack (oemRecord recordType manufacturerId data)
  | _, _ => return .error .invalidParameter

/-- `SelAddOemEntryNoTimestamp`. -/
def selAddOemEntryNoTimestamp (recordType : UInt8) (data : Fin 13 → UInt8) :
    SubmitProg (Except EfiStatus UInt16) :=
  if recordType < selOemNoTimeStampRecordStart then
    return .error .invalidParameter
  else
    ipmiAddSelEntry stack (oemNonTimestampedRecord recordType data)

/-- One iteration of `SelClear`, with `Request.Erase`. -/
def clearSelOnce (awaitClear : Bool) (erase : UInt8) : SubmitProg (Iter UInt8 EfiStatus) := do
  let response := Memory.store stack 0 [0, 0]
  let result ← submitBuffered
    ⟨⟨netfnStorage, storageClearSel, [0, 0, 0x43, 0x4C, 0x52, erase], 2⟩, response⟩
  if (statusOf result).isError then
    return .done (statusOf result)
  else if ¬ awaitClear ∨ result.buffer 1 = clearSelErasureCompleted then
    return .done (statusOf result)
  else
    return .again clearSelGetEraseStatus

/-- `SelClear`. -/
def selClear (fuel : ℕ) (awaitClear : Bool) : SubmitProg EfiStatus :=
  Prog.loop (clearSelOnce stack awaitClear) fuel clearSelInitializeErase

/-- `SelGetTime`. -/
def selGetTime : SubmitProg (Except EfiStatus UInt32) := do
  let result ← submitBuffered ⟨⟨netfnStorage, storageGetSelTime, [], 5⟩, stack⟩
  return valueOf result (wordOf result.buffer 1)

/-- `SelSetTime`. -/
def selSetTime (time : UInt32) : SubmitProg EfiStatus := do
  let result ← submitBuffered
    ⟨⟨netfnStorage, storageSetSelTime, (byteOf time).slice 0 4, 1⟩, stack⟩
  return statusOf result

/-- `SelGetInfo`. -/
def selGetInfo : SubmitProg (Except EfiStatus SelInfo) := do
  let result ← submitBuffered ⟨⟨netfnStorage, storageGetSelInfo, [], 15⟩, stack⟩
  let buffer := result.buffer
  return valueOf result ⟨buffer 1, shortOf buffer 2, shortOf buffer 4, wordOf buffer 6,
    wordOf buffer 10, buffer 14⟩

/-- `SelGetEntry`, with the memory behind `Record`: that memory and `*NextRecordId` after it. -/
def selGetEntry (recordId : UInt16) (record : Memory UInt8) :
    SubmitProg (Except EfiStatus (Memory UInt8 × UInt16)) := do
  let request := [0, 0] ++ (byteOfShort recordId).slice 0 2 ++ [0, 0xFF]
  let response := Memory.store stack 0 (List.replicate 19 0)
  let result ← submitBuffered ⟨⟨netfnStorage, storageGetSelEntry, request, 19⟩, response⟩
  return valueOf result
    (record.store 0 (result.buffer.slice 3 selEntrySize), shortOf result.buffer 1)

end

end Sel

end IpmiFeature
