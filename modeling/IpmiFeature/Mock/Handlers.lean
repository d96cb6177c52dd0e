import IpmiFeature.BootOption.Flags
import IpmiFeature.Interaction.Words

/-!
# The handlers of the mock BMC

`MockSel.c`, `MockWdt.c`, `MockChassis.c` and the basic handlers of `MockIpmi.c`.  A handler gets
the request data and the response buffer as it was before; it gives the response with its completion
code and the state of the BMC after it, or nothing when an `ASSERT` fails.
-/

namespace IpmiFeature

open Interaction BootOption

namespace Mock

/-! ### Constants -/

/-- `SEL_COUNT`. -/
def selCount : ℕ := 100

/-- `IPMI_SEL_OEM_NO_TIME_STAMP_RECORD_START`. -/
def selOemNoTimeStampRecordStart : UInt8 := 0xE0

/-- `IPMI_GET_SEL_INFO_OPERATION_SUPPORT_OVERFLOW_FLAG`. -/
def selInfoOverflowFlag : UInt8 := 0x80

/-- `IPMI_CLEAR_SEL_REQUEST_INITIALIZE_ERASE`. -/
def clearSelInitializeErase : UInt8 := 0xAA

/-- `IPMI_CLEAR_SEL_REQUEST_GET_ERASE_STATUS`. -/
def clearSelGetEraseStatus : UInt8 := 0x00

/-- `IPMI_CLEAR_SEL_RESPONSE_ERASURE_IN_PROGRESS`. -/
def clearSelErasureInProgress : UInt8 := 0x00

/-- `IPMI_CLEAR_SEL_RESPONSE_ERASURE_COMPLETED`. -/
def clearSelErasureCompleted : UInt8 := 0x01

/-! ### The state -/

/-- `SEL_GENERIC_EVENT`. -/
structure SelGenericEvent where
  recordId : UInt16
  recordType : UInt8
  timeStamp : UInt32
  data : Fin 9 → UInt8

/-- The event in memory. -/
def SelGenericEvent.ofMemory (m : Memory UInt8) : SelGenericEvent where
  recordId := shortOf m 0
  recordType := m 2
  timeStamp := wordOf m 3
  data := fun i => m (7 + i)

/-- The bytes of an event. -/
def SelGenericEvent.bytes (event : SelGenericEvent) : List UInt8 :=
  (byteOfShort event.recordId).slice 0 2 ++ event.recordType ::
    ((byteOf event.timeStamp).slice 0 4 ++ List.ofFn event.data)

theorem length_event (event : SelGenericEvent) : event.bytes.length = 16 := by
  simp [SelGenericEvent.bytes]

/-- The state of the mock SEL. -/
structure Sel where
  /-- `mSel`. -/
  entries : Fin selCount → SelGenericEvent
  /-- `mNextRecordId`. -/
  nextRecordId : UInt16
  /-- Records are added as long as there is room for them. -/
  nextRecordId_le : nextRecordId.toNat ≤ selCount
  /-- `mSelTime`. -/
  time : UInt32

/-- `mWatchdog`, without its completion code, which is set in every response. -/
structure Watchdog where
  timerUse : UInt8
  timerActions : UInt8
  pretimeoutInterval : UInt8
  timerUseExpirationFlagsClear : UInt8
  initialCountdownValue : UInt16
  presentCountdownValue : UInt16

/-- `TimerUse.Bits.TimerRunning`. -/
def Watchdog.timerRunning (watchdog : Watchdog) : Bool := watchdog.timerUse &&& 0x40 != 0

/-- The state behind the handlers. -/
structure BmcState where
  sel : Sel
  watchdog : Watchdog
  /-- `mBootFlags`. -/
  bootFlags : BootFlags
  /-- `mBootOptionAcks`. -/
  bootOptionAcks : UInt8

/-- A handler: `Data[0..DataSize)` and the memory behind `Response`. -/
abbrev MockHandler := List UInt8 → Memory UInt8 → BmcState → Option (List UInt8 × BmcState)

/-- The memory behind `Data`. -/
def requestOf (data : List UInt8) : Memory UInt8 := fun i => data.getD i 0

/-! ### Basic handlers -/

/-- `MockIpmiGetSelfTest`. -/
def mockIpmiGetSelfTest : MockHandler := fun _ _ bmc =>
  some ([compCodeNormal, selftestNotImplemented, 0], bmc)

/-- `MockIpmiGetDeviceId`. -/
def mockIpmiGetDeviceId : MockHandler := fun _ _ bmc =>
  some ([compCodeNormal, 0xAB, 0, 0x0, 0, 2, 0, 0xB, 0xA, 0xD, 1, 0, 0, 0, 0, 0], bmc)

/-! ### SEL -/

/-- `MockIpmiSelGetInfo`. -/
def mockIpmiSelGetInfo : MockHandler := fun _ _ bmc =>
  let n := bmc.sel.nextRecordId
  let freeSpace := UInt16.ofNat (16 * selCount - 16 * n.toNat)
  let operationSupport := if selCount ≤ n.toNat then selInfoOverflowFlag else 0
  some (compCodeNormal :: 0x51 :: ((byteOfShort n).slice 0 2 ++ (byteOfShort freeSpace).slice 0 2 ++
    [0, 0, 0, 0, 0, 0, 0, 0, operationSupport]), bmc)

/-- `CURRENT_SEL_TIME`: every use counts the time up. -/
def Sel.tick (sel : Sel) : Sel := { sel with time := sel.time + 1 }

/-- The SEL with one more record. -/
def Sel.add (sel : Sel) (event : SelGenericEvent) (h : sel.nextRecordId.toNat < selCount) : Sel :=
  let event := { event with recordId := sel.nextRecordId }
  let stamped := event.recordType < selOemNoTimeStampRecordStart
  let time := if stamped then sel.time + 1 else sel.time
  { entries := Function.update sel.entries ⟨sel.nextRecordId.toNat, h⟩
      (if stamped then { event with timeStamp := time } else event)
    nextRecordId := sel.nextRecordId + 1
    nextRecordId_le := by
      have hone : (1 : UInt16).toNat = 1 := rfl
      have hcount : selCount = 100 := rfl
      rw [UInt16.toNat_add, hone]
      omega
    time }

/-- `MockIpmiSelAddEntry`. -/
def mockIpmiSelAddEntry : MockHandler := fun data _ bmc =>
  if data.length < 16 then
    none
  else if h : bmc.sel.nextRecordId.toNat < selCount then
    some (compCodeNormal :: (byteOfShort bmc.sel.nextRecordId).slice 0 2,
      { bmc with sel := bmc.sel.add (.ofMemory (requestOf data)) h })
  else
    some ([compCodeOutOfSpace, 0, 0], bmc)

/-- `MockIpmiSelGetTime`. -/
def mockIpmiSelGetTime : MockHandler := fun _ _ bmc =>
  let sel := bmc.sel.tick
  some (compCodeNormal :: (byteOf sel.time).slice 0 4, { bmc with sel })

/-- `MockIpmiSelSetTime`. -/
def mockIpmiSelSetTime : MockHandler := fun data _ bmc =>
  if data.length < 4 then
    none
  else
    some ([compCodeNormal], { bmc with sel := { bmc.sel with time := wordOf (requestOf data) 0 } })

/-- The SEL without records. -/
def Sel.clear (sel : Sel) : Sel := { sel with nextRecordId := 0, nextRecordId_le := Nat.zero_le _ }

/-- `MockIpmiSelClear`. -/
def mockIpmiSelClear : MockHandler := fun data _ bmc =>
  let request := requestOf data
  if data.length < 6 then
    none
  else if request 2 ≠ 0x43 ∨ request 3 ≠ 0x4C ∨ request 4 ≠ 0x52 then
    -- not "CLR"
    none
  else if request 5 = clearSelInitializeErase then
    some ([compCodeNormal, clearSelErasureInProgress], { bmc with sel := bmc.sel.clear })
  else if request 5 = clearSelGetEraseStatus then
    -- this clears the log as well
    some ([compCodeNormal, clearSelErasureCompleted], { bmc with sel := bmc.sel.clear })
  else
    none

/-- `MockIpmiSelGetEntry`. -/
def mockIpmiSelGetEntry : MockHandler := fun data _ bmc =>
  let request := requestOf data
  if data.length < 6 then
    none
  else if request 0 ≠ 0 ∨ request 1 ≠ 0 ∨ request 4 ≠ 0 ∨ request 5 ≠ 0xFF then
    none
  else
    let recordId := shortOf request 2
    if h : recordId.toNat < bmc.sel.nextRecordId.toNat then
      let next := if recordId.toNat + 1 < bmc.sel.nextRecordId.toNat then recordId + 1 else 0xFFFF
      some (compCodeNormal :: ((byteOfShort next).slice 0 2 ++
        (bmc.sel.entries ⟨recordId.toNat, Nat.lt_of_lt_of_le h bmc.sel.nextRecordId_le⟩).bytes), bmc)
    else
      some (compCodeNotPresent :: List.replicate 18 0, bmc)

/-! ### Watchdog -/

/-- `MockIpmiGetWatchdog`. -/
def mockIpmiGetWatchdog : MockHandler := fun _ _ bmc =>
  let watchdog :=
    if bmc.watchdog.timerRunning ∧ bmc.watchdog.presentCountdownValue > 0 then
      { bmc.watchdog with presentCountdownValue := bmc.watchdog.presentCountdownValue - 1 }
    else
      bmc.watchdog
  some ([compCodeNormal, watchdog.timerUse, watchdog.timerActions, watchdog.pretimeoutInterval,
    watchdog.timerUseExpirationFlagsClear] ++
    (byteOfShort watchdog.initialCountdownValue).slice 0 2 ++
    (byteOfShort watchdog.presentCountdownValue).slice 0 2, { bmc with watchdog })

/-- `MockIpmiSetWatchdog`. -/
def mockIpmiSetWatchdog : MockHandler := fun data _ bmc =>
  let request := requestOf data
  if data.length < 6 then
    none
  else
    let watchdog := bmc.watchdog
    some ([compCodeNormal], { bmc with watchdog :=
      { -- the use is set and the timer is stopped, the other bits stay
        timerUse := watchdog.timerUse &&& 0xB8 ||| request 0 &&& 0x07
        timerActions := watchdog.timerActions &&& 0xF8 ||| request 1 &&& 0x07
        pretimeoutInterval := watchdog.pretimeoutInterval
        timerUseExpirationFlagsClear := watchdog.timerUseExpirationFlagsClear &&& ~~~ request 3
        initialCountdownValue := shortOf request 4
        presentCountdownValue := shortOf request 4 } })

/-- `MockIpmiResetWatchdog`. -/
def mockIpmiResetWatchdog : MockHandler := fun _ _ bmc =>
  some ([compCodeNormal], { bmc with watchdog :=
    { bmc.watchdog with
      timerUse := bmc.watchdog.timerUse ||| 0x40
      presentCountdownValue := bmc.watchdog.initialCountdownValue } })

/-! ### Chassis -/

/-- `MockIpmiGetSystemBootOptions`.  The parameter version and the valid bit stay as they are in the
buffer. -/
def mockIpmiGetSystemBootOptions : MockHandler := fun data response bmc =>
  let request := requestOf data
  let selector := request 0 &&& 0x7F
  let parameter := response 2 &&& 0x80 ||| selector
  if data.length < 3 then
    none
  else if request 2 ≠ 0 ∨ request 1 ≠ 0 then
    none
  else if selector = parameterBootFlags then
    some ([compCodeNormal, response 1, parameter] ++ bmc.bootFlags.bytes, bmc)
  else if selector = parameterSetInProgress then
    some ([compCodeNormal, response 1, parameter, 0], bmc)
  else
    some ([compCodeUnsupportedParameter, response 1, parameter], bmc)

/-- `MockIpmiSetSystemBootOptions`. -/
def mockIpmiSetSystemBootOptions : MockHandler := fun data _ bmc =>
  let request := requestOf data
  let selector := request 0 &&& 0x7F
  if data.length < 1 then
    none
  else if selector = parameterBootFlags then
    if data.length < 6 then
      none
    else
      some ([compCodeNormal], { bmc with bootFlags := .ofMemory request 1 })
  else if selector = parameterBootInfoAck then
    if data.length < 3 then
      none
    else
      some ([compCodeNormal], { bmc with
        bootOptionAcks := bmc.bootOptionAcks &&& ~~~ request 1 ||| request 1 &&& request 2 })
  else
    some ([compCodeUnsupportedParameter], bmc)

end Mock

end IpmiFeature
