import IpmiFeature.Initialize.Basic

/-!
# The drivers that publish the transport

`PeimIpmiInterfaceInit` (`PeiGenericIpmi.c`), `DxeGenericIpmiEntry` (`DxeGenericIpmi.c`),
`InitializeSmmGenericIpmi` (`SmmGenericIpmi.c`) and `InitializeStandaloneMmGenericIpmi`
(`StandaloneMmGenericIpmi.c`), over `IpmiInitializeBmc` and the services of their phase.  A call
that publishes an instance records it as it is at that moment.  The build has no `ASSERT`s: when no
memory is left or the installation fails, the code goes on behind them.
-/

namespace IpmiFeature

open Interaction Generic Initialize

namespace Drivers

/-! ### Constants -/

/-- `BMC_NOTREADY`. -/
def bmcNotready : UInt32 := 4

/-- `IPMI_DELAY_UNIT`, in microseconds. -/
def ipmiDelayUnit : ℕ := 50

/-- `BMC_SLAVE_ADDRESS`. -/
def bmcSlaveAddress : UInt8 := 0x20

/-- `SM_IPMI_BMC_SIGNATURE`, the bytes of `ipmi`. -/
def smIpmiBmcSignature : UInt64 := 0x696D7069

/-- `sizeof (EFI_HOB_MEMORY_POOL)`. -/
def sizeofHobMemoryPool : UInt64 := 8

/-- `sizeof (UINTN)`. -/
def sizeofUintn : UInt64 := 8

/-! ### The interface -/

/-- What a driver is built with, and where its functions have been loaded. -/
structure Image where
  /-- `PcdIpmiCommandTimeoutSeconds`. -/
  ipmiCommandTimeoutSeconds : UInt8
  /-- The PCDs of `IpmiInitializeBmc`. -/
  pcds : Pcds
  /-- The address of `IpmiSendCommand`. -/
  ipmiSendCommand : UInt64
  /-- The address of `IpmiGetBmcStatus`. -/
  ipmiGetBmcStatus : UInt64

/-- A HOB of type `EFI_HOB_TYPE_MEMORY_POOL`. -/
structure MemoryPoolHob where
  /-- `Header.HobLength`. -/
  hobLength : UInt16
  /-- What follows the header, taken for an instance. -/
  data : IpmiBmcInstanceData

/-- The calls of the drivers. -/
inductive DriverCall where
  /-- `PeiServicesRegisterForShadow`. -/
  | registerForShadow
  /-- `AllocateZeroPool`. -/
  | allocateZeroPool
  /-- `InitializeIpmiTransportHardware`. -/
  | initializeIpmiTransportHardware
  /-- A call of `IpmiInitializeBmc`. -/
  | initializeBmc (call : InitCall)
  /-- `BuildGuidHob`, with the `BmcStatus` that is written to the HOB. -/
  | buildGuidHob (bmcStatus : UInt32)
  /-- `GetFirstGuidHob`. -/
  | getFirstGuidHob
  /-- `PeiServicesInstallPpi`, `InstallProtocolInterface` or its counterpart in MM. -/
  | install (inst : IpmiBmcInstanceData)
  /-- `PeiServicesLocatePpi`. -/
  | locatePpi
  /-- `GetHobList`, seen through `GetNextHob`. -/
  | getHobList
  /-- `PeiServicesReInstallPpi`. -/
  | reInstallPpi (inst : IpmiBmcInstanceData)

/-- What the calls are answered with: `AllocateZeroPool` and `BuildGuidHob` with whether there is
memory, `GetFirstGuidHob` with the `BmcStatus` in the HOB. -/
abbrev DriverCall.Answer : DriverCall → Type
  | registerForShadow => EfiStatus
  | allocateZeroPool => Bool
  | initializeIpmiTransportHardware => EfiStatus
  | initializeBmc call => call.Answer
  | buildGuidHob _ => Bool
  | getFirstGuidHob => Option UInt32
  | install _ => EfiStatus
  | locatePpi => EfiStatus
  | getHobList => List MemoryPoolHob
  | reInstallPpi _ => EfiStatus

/-- Programs of the drivers. -/
abbrev DriverProg := Prog DriverCall DriverCall.Answer

/-- Calls of the drivers with their answers. -/
abbrev DriverEvent := Event DriverCall DriverCall.Answer

/-- The instance that is allocated and filled in before the BMC is initialized. -/
def prepareInstance (image : Image) : IpmiBmcInstanceData where
  signature := smIpmiBmcSignature
  ipmiTimeoutPeriod :=
    UInt64.ofNat (image.ipmiCommandTimeoutSeconds.toNat * 1000 * 1000 / ipmiDelayUnit)
  slaveAddress := bmcSlaveAddress
  tempData _ := 0
  bmcStatus := bmcNotready
  errorStatus := 0
  softErrorCount := 0
  ipmiTransport := ⟨0, image.ipmiSendCommand, image.ipmiGetBmcStatus⟩

/-- `IpmiInitializeBmc`, called by a driver. -/
def initializeBmc (image : Image) (fuel : ℕ) (inst : IpmiBmcInstanceData) :
    DriverProg (EfiStatus × IpmiBmcInstanceData) :=
  (ipmiInitializeBmc image.pcds fuel inst).embed DriverCall.initializeBmc

/-! ### PEI -/

/-- The HOB holds an instance.  The difference is one of `UINTN`s. -/
def MemoryPoolHob.HoldsInstance (hob : MemoryPoolHob) : Prop :=
  hob.hobLength.toUInt64 - sizeofHobMemoryPool ≥ sizeofUintn ∧
    hob.data.signature = smIpmiBmcSignature

instance : DecidablePred MemoryPoolHob.HoldsInstance :=
  fun _ => inferInstanceAs (Decidable (_ ∧ _))

/-- The instance that the search through the HOBs finds. -/
def findInstance (hobs : List MemoryPoolHob) : Option IpmiBmcInstanceData :=
  (hobs.find? fun hob => hob.HoldsInstance).map (·.data)

/-- The instance with the functions where they are now. -/
def relocate (image : Image) (inst : IpmiBmcInstanceData) : IpmiBmcInstanceData :=
  { inst with ipmiTransport :=
      { inst.ipmiTransport with
        ipmiSubmitCommand := image.ipmiSendCommand
        getBmcStatus := image.ipmiGetBmcStatus } }

/-- `PeimIpmiInterfaceInit`, when it is executed for the first time. -/
def installPpi (image : Image) (fuel : ℕ) : DriverProg EfiStatus := do
  let allocated ← Prog.perform DriverCall.allocateZeroPool
  if ¬ allocated then
    return .outOfResources
  else
    let status ← Prog.perform DriverCall.initializeIpmiTransportHardware
    if status.isError then
      return status
    else
      -- an error is printed and otherwise ignored
      let (_, inst) ← initializeBmc image fuel (prepareInstance image)
      let built ← Prog.perform (DriverCall.buildGuidHob inst.bmcStatus)
      if ¬ built then
        return .outOfResources
      else if inst.bmcStatus = bmcUpdateInProgress ∨ inst.bmcStatus = bmcHardfail then
        return .unsupported
      else
        Prog.perform (DriverCall.install inst)

/-- `PeimIpmiInterfaceInit`, when it is executed after it has been shadowed. -/
def reInstallPpi (image : Image) : DriverProg EfiStatus := do
  let status ← Prog.perform DriverCall.locatePpi
  if status.isError then
    return .success
  else
    let hobs ← Prog.perform DriverCall.getHobList
    match findInstance hobs with
    | none => return .success
    | some inst => do
      let _ ← Prog.perform (DriverCall.reInstallPpi (relocate image inst))
      return .success

/-- `PeimIpmiInterfaceInit`. -/
def peimIpmiInterfaceInit (image : Image) (fuel : ℕ) : DriverProg EfiStatus := do
  let status ← Prog.perform DriverCall.registerForShadow
  if ¬ status.isError then
    installPpi image fuel
  else if status = .alreadyStarted then
    reInstallPpi image
  else
    return .success

/-! ### DXE and MM -/

/-- The `BmcStatus` is taken from the BMC HOB, and the BMC is initialized if there is none. -/
def takeOver (image : Image) (fuel : ℕ) (inst : IpmiBmcInstanceData) :
    DriverProg (EfiStatus × IpmiBmcInstanceData) := do
  let bmcHob ← Prog.perform DriverCall.getFirstGuidHob
  match bmcHob with
  | none => initializeBmc image fuel inst
  | some bmcStatus => return (.success, { inst with bmcStatus })

/-- `DxeGenericIpmiEntry`. -/
def dxeGenericIpmiEntry (image : Image) (fuel : ℕ) : DriverProg EfiStatus := do
  let allocated ← Prog.perform DriverCall.allocateZeroPool
  if ¬ allocated then
    return .outOfResources
  else
    let status ← Prog.perform DriverCall.initializeIpmiTransportHardware
    if status.isError then
      return status
    else
      let (status, inst) ← takeOver image fuel (prepareInstance image)
      if status.isError then
        return status
      else if inst.bmcStatus ≠ bmcHardfail ∧ inst.bmcStatus ≠ bmcUpdateInProgress then do
        let _ ← Prog.perform (DriverCall.install inst)
        return .success
      else
        return .success

/-- What the two MM drivers have in common; `result` is what they make of the status of the
installation. -/
def initializeMmGenericIpmi (result : EfiStatus → EfiStatus) (image : Image) (fuel : ℕ) :
    DriverProg EfiStatus := do
  let allocated ← Prog.perform DriverCall.allocateZeroPool
  if ¬ allocated then
    return .outOfResources
  else
    let (status, inst) ← takeOver image fuel (prepareInstance image)
    if status.isError then
      return status
    else
      let status ← Prog.perform (DriverCall.install inst)
      return result status

/-- `InitializeSmmGenericIpmi`. -/
def initializeSmmGenericIpmi : Image → ℕ → DriverProg EfiStatus :=
  initializeMmGenericIpmi fun _ => .success

/-- `InitializeStandaloneMmGenericIpmi`. -/
def initializeStandaloneMmGenericIpmi : Image → ℕ → DriverProg EfiStatus :=
  initializeMmGenericIpmi fun status => status

end Drivers

end IpmiFeature
