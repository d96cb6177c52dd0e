import IpmiFeature.CommandLib.Basic

/-!
# The tables that describe the interface

`CreateIpmiSmbiosType38` (`IpmiSmbios.c`) publishes an SMBIOS record, `SpmiTableEntryPoint` with
`UpdateAcpiSpmiTables` (`SpmiTable.c`) an ACPI table.  Both ask the BMC for its device ID; the one
through the command library, with a local of its own for the response, the other through the
protocol, with an allocated buffer.  The build has no `ASSERT`s: an error of the ACPI table protocol
is returned.
-/

namespace IpmiFeature

open Interaction BaseLib CommandLib

namespace Tables

/-! ### Constants -/

/-- `IPMIDeviceInfoInterfaceTypeSSIF`. -/
def interfaceTypeSsif : UInt8 := 0x04

/-- `EFI_ACPI_5_0_SYSTEM_MEMORY`. -/
def systemMemory : UInt8 := 0

/-- `EFI_ACPI_5_0_SYSTEM_IO`. -/
def systemIo : UInt8 := 1

/-- `EFI_SMBIOS_TYPE_IPMI_DEVICE_INFORMATION`. -/
def smbiosTypeIpmiDeviceInformation : UInt8 := 38

/-- `sizeof (SMBIOS_TABLE_TYPE38)`. -/
def sizeofSmbiosTableType38 : UInt8 := 18

/-- `EFI_ACPI_2_0_SERVER_PLATFORM_MANAGEMENT_INTERFACE_SIGNATURE`, the bytes of `SPMI`. -/
def spmiSignature : UInt32 := 0x494D5053

/-- `sizeof (EFI_ACPI_SERVICE_PROCESSOR_MANAGEMENT_INTERFACE_TABLE)`. -/
def sizeofSpmiTable : UInt32 := 65

/-- `sizeof (SM_CTRL_INFO)`. -/
def sizeofSmCtrlInfo : UInt32 := 16

/-- `BIT1`. -/
def bit1 : UInt8 := 0x02

/-- `BIT2`. -/
def bit2 : UInt8 := 0x04

/-! ### The configuration -/

/-- The PCDs that the two drivers read. -/
structure Pcds where
  acpiDefaultOemId : Fin 6 → UInt8
  acpiDefaultOemTableId : UInt64
  acpiDefaultOemRevision : UInt32
  acpiDefaultCreatorId : UInt32
  acpiDefaultCreatorRevision : UInt32
  ipmiIoBaseAddress : UInt16
  ipmiInterfaceType : UInt8
  ipmiInterruptType : UInt8
  ipmiGpe : UInt8
  ipmiPciDeviceFlag : UInt8
  ipmiGlobalSystemInterrupt : UInt32
  ipmiAddressSpaceId : UInt8
  ipmiRegisterBitWidth : UInt8
  ipmiRegisterBitOffset : UInt8
  ipmiAccessSize : UInt8
  ipmiAddress : UInt64
  ipmiDeviceId : Fin 4 → UInt8
  smbiosTablesIpmiInterruptInfo : UInt8
  smbiosTablesIpmiInterruptPolarity : UInt8
  smbiosTablesIpmiInterruptTriggerMode : UInt8
  smbiosTablesIpmiInterruptNumber : UInt8
  smbiosTablesIpmiI2CSlaveAddress : UInt8
  smbiosTablesIpmiNVStorageDeviceAddress : UInt8

/-! ### The tables -/

/-- `SMBIOS_TABLE_TYPE38`, with the zeros behind it. -/
structure SmbiosTableType38 where
  type : UInt8
  length : UInt8
  handle : UInt16
  interfaceType : UInt8
  ipmiSpecificationRevision : UInt8
  i2cSlaveAddress : UInt8
  nvStorageDeviceAddress : UInt8
  baseAddress : UInt64
  /-- `BaseAddressModifier_InterruptInfo`. -/
  baseAddressModifier : UInt8
  interruptNumber : UInt8
  trailingZero : List UInt8

/-- `mSmbiosTableType38`. -/
def smbiosTableType38 (pcds : Pcds) : SmbiosTableType38 where
  type := smbiosTypeIpmiDeviceInformation
  length := sizeofSmbiosTableType38
  handle := 0
  interfaceType := pcds.ipmiInterfaceType
  ipmiSpecificationRevision := 0x20
  i2cSlaveAddress := pcds.smbiosTablesIpmiI2CSlaveAddress
  nvStorageDeviceAddress := pcds.smbiosTablesIpmiNVStorageDeviceAddress
  baseAddress := 0
  baseAddressModifier := 0
  interruptNumber := pcds.smbiosTablesIpmiInterruptNumber
  trailingZero := [0, 0]

/-- `EFI_ACPI_DESCRIPTION_HEADER`. -/
structure AcpiDescriptionHeader where
  signature : UInt32
  length : UInt32
  revision : UInt8
  checksum : UInt8
  oemId : Fin 6 → UInt8
  oemTableId : UInt64
  oemRevision : UInt32
  creatorId : UInt32
  creatorRevision : UInt32

/-- `EFI_ACPI_GENERIC_ADDRESS_STRUCTURE`. -/
structure GenericAddressStructure where
  addressSpaceId : UInt8
  registerBitWidth : UInt8
  registerBitOffset : UInt8
  accessSize : UInt8
  address : UInt64

/-- `EFI_ACPI_SERVICE_PROCESSOR_MANAGEMENT_INTERFACE_TABLE`. -/
structure SpmiTable where
  header : AcpiDescriptionHeader
  interfaceType : UInt8
  reserved1 : UInt8
  specificationRevision : UInt16
  interruptType : UInt8
  gpe : UInt8
  reserved2 : UInt8
  pciDeviceFlag : UInt8
  globalSystemInterrupt : UInt32
  baseAddress : GenericAddressStructure
  deviceId : Fin 4 → UInt8
  reserved3 : UInt8

/-- `mSpmiTable`. -/
def spmiTable (pcds : Pcds) : SpmiTable where
  header :=
    { signature := spmiSignature
      length := sizeofSpmiTable
      revision := 0x05
      checksum := 0x00
      oemId _ := 0x20
      oemTableId := pcds.acpiDefaultOemTableId
      oemRevision := pcds.acpiDefaultOemRevision
      creatorId := pcds.acpiDefaultCreatorId
      creatorRevision := pcds.acpiDefaultCreatorRevision }
  interfaceType := pcds.ipmiInterfaceType
  reserved1 := 0x01
  specificationRevision := 0
  interruptType := pcds.ipmiInterruptType
  gpe := pcds.ipmiGpe
  reserved2 := 0
  pciDeviceFlag := pcds.ipmiPciDeviceFlag
  globalSystemInterrupt := pcds.ipmiGlobalSystemInterrupt
  baseAddress :=
    { addressSpaceId := pcds.ipmiAddressSpaceId
      registerBitWidth := pcds.ipmiRegisterBitWidth
      registerBitOffset := pcds.ipmiRegisterBitOffset
      accessSize := pcds.ipmiAccessSize
      address := 0 }
  deviceId _ := 0
  reserved3 := 0

/-! ### The interface -/

/-- The protocols that the drivers look up. -/
inductive Protocol where
  /-- `gEfiSmbiosProtocolGuid`. -/
  | smbios
  /-- `gEfiAcpiTableProtocolGuid`. -/
  | acpiTable
  /-- `gIpmiTransportProtocolGuid`. -/
  | ipmiTransport
  deriving DecidableEq, Repr

/-- The calls of the drivers. -/
inductive TableCall where
  /-- `LocateProtocol`. -/
  | locateProtocol (protocol : Protocol)
  /-- `AllocateZeroPool`. -/
  | allocateZeroPool
  /-- `IpmiSubmitCommand`, of the library or of the protocol. -/
  | submit (call : SubmitCall)
  /-- `Add` of the SMBIOS protocol. -/
  | add (record : SmbiosTableType38)
  /-- `InstallAcpiTable`. -/
  | installAcpiTable (table : SpmiTable)

/-- What the calls are answered with; `AllocateZeroPool` with whether there is memory. -/
abbrev TableCall.Answer : TableCall → Type
  | locateProtocol _ => EfiStatus
  | allocateZeroPool => Bool
  | submit call => call.Answer
  | add _ => EfiStatus
  | installAcpiTable _ => EfiStatus

/-- Programs of the drivers. -/
abbrev TableProg := Prog TableCall TableCall.Answer

/-- Calls of the drivers with their answers. -/
abbrev TableEvent := Event TableCall TableCall.Answer

/-- `SpecificationVersion` of the response to `Get Device ID`. -/
def specificationVersion (response : Memory UInt8) : UInt8 := response 5

/-! ### SMBIOS -/

/-- `IpmiRegisterSpacing`. -/
def ipmiRegisterSpacing (registerBitWidth : UInt8) : UInt8 :=
  if registerBitWidth = 0x08 then
    0
  else if registerBitWidth = 0x10 then
    bit2
  else if registerBitWidth = 0x20 then
    bit1
  else
    bit1 ||| bit2

/-- The base address and its lowest bit. -/
def SmbiosTableType38.setBaseAddress (pcds : Pcds) (record : SmbiosTableType38) :
    SmbiosTableType38 :=
  if pcds.ipmiAddressSpaceId = systemIo then
    { record with
      baseAddress := (pcds.ipmiIoBaseAddress ||| 1).toUInt64
      baseAddressModifier := ((pcds.ipmiIoBaseAddress &&& 1) <<< 4).toUInt8 }
  else if pcds.ipmiAddressSpaceId = systemMemory then
    { record with
      baseAddress := pcds.ipmiAddress &&& ~~~1
      baseAddressModifier := ((pcds.ipmiAddress &&& 1) <<< 4).toUInt8 }
  else
    record

/-- What goes into `BaseAddressModifier_InterruptInfo` besides the bit of the address. -/
def spacingAndInterruptInfo (pcds : Pcds) : UInt8 :=
  (ipmiRegisterSpacing pcds.ipmiRegisterBitWidth &&& 0x3) <<< 6 |||
    (pcds.smbiosTablesIpmiInterruptInfo &&& 1) <<< 3 |||
    (pcds.smbiosTablesIpmiInterruptPolarity &&& 1) <<< 1 |||
    (pcds.smbiosTablesIpmiInterruptTriggerMode &&& 1)

/-- The record with what is programmed at runtime. -/
def SmbiosTableType38.program (pcds : Pcds) (version : UInt8) (record : SmbiosTableType38) :
    SmbiosTableType38 :=
  let record := { record with
    ipmiSpecificationRevision := (version &&& 0xF0) >>> 4 ||| (version &&& 0x0F) <<< 4 }
  if pcds.ipmiInterfaceType ≠ interfaceTypeSsif then
    let record := record.setBaseAddress pcds
    { record with
      baseAddressModifier := record.baseAddressModifier ||| spacingAndInterruptInfo pcds }
  else
    { record with baseAddress := pcds.ipmiAddress }

/-- `CreateIpmiSmbiosType38`; its locals hold `stack` at first. -/
def createIpmiSmbiosType38 (pcds : Pcds) (stack : Memory UInt8) (record : SmbiosTableType38) :
    TableProg (EfiStatus × SmbiosTableType38) := do
  let status ← Prog.perform (TableCall.locateProtocol .smbios)
  if status.isError then
    return (status, record)
  else
    let (status, locals) ← (ipmiGetDeviceId submitBuffered specSizes
      ⟨false, stack, 0, stack, 0, stack, stack⟩).embed TableCall.submit
    if status.isError then
      return (status, record)
    else
      let record := record.program pcds (specificationVersion locals.response)
      let status ← Prog.perform (TableCall.add record)
      return (status, record)

/-! ### ACPI -/

/-- The table with `PcdAcpiDefaultOemId`. -/
def SpmiTable.setOemId (pcds : Pcds) (table : SpmiTable) : SpmiTable :=
  { table with header := { table.header with oemId := pcds.acpiDefaultOemId } }

/-- The table with the rest of what is programmed at runtime. -/
def SpmiTable.program (pcds : Pcds) (version : UInt8) (table : SpmiTable) : SpmiTable :=
  { table with
    specificationRevision :=
      (version &&& 0xF0).toUInt16 ||| (version &&& 0x0F).toUInt16 <<< 8
    baseAddress := { table.baseAddress with
      address :=
        if pcds.ipmiAddressSpaceId = systemIo then
          pcds.ipmiIoBaseAddress.toUInt64
        else
          pcds.ipmiAddress }
    deviceId := pcds.ipmiDeviceId }

/-- `UpdateAcpiSpmiTables`. -/
def updateAcpiSpmiTables (pcds : Pcds) (table : SpmiTable) : TableProg (EfiStatus × SpmiTable) := do
  let allocated ← Prog.perform TableCall.allocateZeroPool
  if ¬ allocated then
    return (.outOfResources, table)
  else
    let table := table.setOemId pcds
    let status ← Prog.perform (TableCall.locateProtocol .ipmiTransport)
    if status.isError then
      return (status, table)
    else
      let result ← (submitBuffered ⟨⟨netfnApp, appGetDeviceId, [], sizeofSmCtrlInfo⟩,
        fun _ => 0⟩).embed TableCall.submit
      if result.status.isError then
        return (result.status, table)
      else
        return (result.status, table.program pcds (specificationVersion result.buffer))

/-- `SpmiTableEntryPoint`. -/
def spmiTableEntryPoint (pcds : Pcds) (table : SpmiTable) : TableProg (EfiStatus × SpmiTable) := do
  let status ← Prog.perform (TableCall.locateProtocol .acpiTable)
  if status.isError then
    return (status, table)
  else
    let (status, table) ← updateAcpiSpmiTables pcds table
    if status.isError then
      return (status, table)
    else
      let status ← Prog.perform (TableCall.installAcpiTable table)
      if status.isError then
        return (status, table)
      else
        return (.success, table)

end Tables

end IpmiFeature
