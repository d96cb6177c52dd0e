import IpmiFeature.Interaction.Logic
import IpmiFeature.Tables.Basic

/-!
# The two tables describe one interface

`Interface` is what a reader of a table learns from it.  The record keeps the lowest bit of the
address among the interrupt bits, and says how far the registers are apart by a code of two bits.
The driver takes the bits of that code for `BIT1` and `BIT2` and then masks them with 3, so that the
code is the right one for registers of 8 bits only (`createIpmiSmbiosType38_agrees_iff`).
-/

namespace IpmiFeature

open Interaction Prog BaseLib

namespace Tables

/-! ### What a table says -/

/-- The address spaces. -/
inductive AddressSpace where
  | memory
  | io
  | other
  deriving DecidableEq, Repr

/-- How wide a register is. -/
inductive RegisterWidth where
  | bits8
  | bits16
  | bits32
  | other
  deriving DecidableEq, Repr

/-- An interface to the BMC. -/
structure Interface where
  addressSpace : AddressSpace
  address : UInt64
  registerWidth : RegisterWidth
  /-- The version of the specification before the point. -/
  majorVersion : UInt8
  /-- The two digits after the point. -/
  minorVersion : UInt8
  deriving DecidableEq, Repr

/-- The bits about the interrupt. -/
structure InterruptBits where
  info : UInt8
  polarity : UInt8
  triggerMode : UInt8
  deriving DecidableEq, Repr

/-- The lowest bit of the address, in `BaseAddressModifier_InterruptInfo`. -/
def addressBit (baseAddressModifier : UInt8) : UInt8 := baseAddressModifier >>> 4 &&& 1

/-- The code of the register spacing. -/
def spacingCode (baseAddressModifier : UInt8) : UInt8 := baseAddressModifier >>> 6

/-- The bits about the interrupt. -/
def interruptBitsOf (baseAddressModifier : UInt8) : InterruptBits where
  info := baseAddressModifier >>> 3 &&& 1
  polarity := baseAddressModifier >>> 1 &&& 1
  triggerMode := baseAddressModifier &&& 1

/-- What a code of the register spacing stands for. -/
def widthOfSpacing (code : UInt8) : RegisterWidth :=
  if code = 0 then .bits8 else if code = 1 then .bits32 else if code = 2 then .bits16 else .other

/-- What a number of bits stands for. -/
def widthOfBits (bits : UInt8) : RegisterWidth :=
  if bits = 8 then .bits8 else if bits = 16 then .bits16 else if bits = 32 then .bits32 else .other

/-- What the record says. -/
def SmbiosTableType38.interface (record : SmbiosTableType38) : Interface where
  addressSpace := if record.baseAddress &&& 1 = 1 then .io else .memory
  address := record.baseAddress &&& ~~~1 ||| (addressBit record.baseAddressModifier).toUInt64
  registerWidth := widthOfSpacing (spacingCode record.baseAddressModifier)
  majorVersion := record.ipmiSpecificationRevision >>> 4
  minorVersion := (record.ipmiSpecificationRevision &&& 0x0F) <<< 4

/-- What the ACPI table says. -/
def SpmiTable.interface (table : SpmiTable) : Interface where
  addressSpace :=
    if table.baseAddress.addressSpaceId = systemIo then
      .io
    else if table.baseAddress.addressSpaceId = systemMemory then
      .memory
    else
      .other
  address := table.baseAddress.address
  registerWidth := widthOfBits table.baseAddress.registerBitWidth
  majorVersion := (table.specificationRevision >>> 8).toUInt8
  minorVersion := table.specificationRevision.toUInt8

/-- The configured bits about the interrupt. -/
def Pcds.interruptBits (pcds : Pcds) : InterruptBits where
  info := pcds.smbiosTablesIpmiInterruptInfo &&& 1
  polarity := pcds.smbiosTablesIpmiInterruptPolarity &&& 1
  triggerMode := pcds.smbiosTablesIpmiInterruptTriggerMode &&& 1

/-! ### Fields of the modifier -/

/-- The fields do not overlap. -/
theorem modifier_fields {bit spacing info polarity trigger : UInt8} (hbit : bit = 0 ∨ bit = 1)
    (hspacing : spacing = 0 ∨ spacing = 2) (hinfo : info = 0 ∨ info = 1)
    (hpolarity : polarity = 0 ∨ polarity = 1) (htrigger : trigger = 0 ∨ trigger = 1) :
    addressBit (bit <<< 4 ||| (spacing <<< 6 ||| info <<< 3 ||| polarity <<< 1 ||| trigger)) = bit ∧
    spacingCode (bit <<< 4 ||| (spacing <<< 6 ||| info <<< 3 ||| polarity <<< 1 ||| trigger)) =
      spacing ∧
    interruptBitsOf (bit <<< 4 ||| (spacing <<< 6 ||| info <<< 3 ||| polarity <<< 1 ||| trigger)) =
      ⟨info, polarity, trigger⟩ := by
  rcases hbit with rfl | rfl <;> rcases hspacing with rfl | rfl <;>
    rcases hinfo with rfl | rfl <;> rcases hpolarity with rfl | rfl <;>
      rcases htrigger with rfl | rfl <;> decide

/-- The code that the driver puts into the record. -/
theorem spacing_masked (bits : UInt8) : ipmiRegisterSpacing bits &&& 0x3 =
    if bits = 0x08 ∨ bits = 0x10 then 0 else 2 := by
  unfold ipmiRegisterSpacing
  by_cases h8 : bits = 0x08
  · rw [if_pos h8, if_pos (.inl h8)]
    decide
  by_cases h16 : bits = 0x10
  · rw [if_neg h8, if_pos h16, if_pos (.inr h16)]
    decide
  rw [if_neg h8, if_neg h16, if_neg (not_or.2 ⟨h8, h16⟩)]
  split_ifs <;> decide

/-- It is the right one for registers of 8 bits only. -/
theorem widthOfSpacing_masked_iff (bits : UInt8) :
    widthOfSpacing (ipmiRegisterSpacing bits &&& 0x3) = widthOfBits bits ↔ bits = 0x08 := by
  rw [spacing_masked]
  by_cases h8 : bits = 0x08
  · rw [h8]
    decide
  refine iff_of_false ?_ h8
  by_cases h16 : bits = 0x10
  · rw [h16]
    decide
  rw [if_neg (not_or.2 ⟨h8, h16⟩), widthOfBits, if_neg h8, if_neg h16]
  split_ifs <;> decide

/-! ### The parts of the interface -/

/-- The digits of the version are the same in both tables. -/
theorem version_agrees (version : UInt8) :
    ((version &&& 0xF0) >>> 4 ||| (version &&& 0x0F) <<< 4) >>> 4 =
        (((version &&& 0xF0).toUInt16 ||| (version &&& 0x0F).toUInt16 <<< 8) >>> 8).toUInt8 ∧
      (((version &&& 0xF0) >>> 4 ||| (version &&& 0x0F) <<< 4) &&& 0x0F) <<< 4 =
        ((version &&& 0xF0).toUInt16 ||| (version &&& 0x0F).toUInt16 <<< 8).toUInt8 := by
  have hall : ∀ v : Fin 256,
      ((UInt8.ofFin v &&& 0xF0) >>> 4 ||| (UInt8.ofFin v &&& 0x0F) <<< 4) >>> 4 =
          (((UInt8.ofFin v &&& 0xF0).toUInt16 |||
            (UInt8.ofFin v &&& 0x0F).toUInt16 <<< 8) >>> 8).toUInt8 ∧
        (((UInt8.ofFin v &&& 0xF0) >>> 4 ||| (UInt8.ofFin v &&& 0x0F) <<< 4) &&& 0x0F) <<< 4 =
          ((UInt8.ofFin v &&& 0xF0).toUInt16 ||| (UInt8.ofFin v &&& 0x0F).toUInt16 <<< 8).toUInt8 := by
    decide +kernel
  exact hall version.toFin

/-- The address with its lowest bit taken out, and that bit. -/
structure SplitAddress (io : Bool) (address : UInt64) (baseAddress : UInt64)
    (baseAddressModifier : UInt8) : Prop where
  space : baseAddress &&& 1 = if io then 1 else 0
  rest : baseAddress &&& ~~~1 = address &&& ~~~1
  bit : ∃ b : UInt8, (b = 0 ∨ b = 1) ∧ baseAddressModifier = b <<< 4 ∧ b.toUInt64 = address &&& 1

theorem splitAddress_io (address : UInt16) :
    SplitAddress true address.toUInt64 (address ||| 1).toUInt64 ((address &&& 1) <<< 4).toUInt8 := by
  have hor : (address ||| 1).toUInt64 = address.toUInt64 ||| 1 := UInt16.toUInt64_or address 1
  refine ⟨?_, ?_, ?_⟩
  · rw [hor]
    exact or_and_self_long _ 1
  · rw [hor]
    exact or_and_not_long _ 1
  · have hand : (address &&& 1).toUInt64 = address.toUInt64 &&& 1 := UInt16.toUInt64_and address 1
    rw [← hand]
    rcases and_one_short address with h | h <;> rw [h]
    · exact ⟨0, .inl rfl, rfl, rfl⟩
    · exact ⟨1, .inr rfl, rfl, rfl⟩

theorem splitAddress_memory (address : UInt64) :
    SplitAddress false address (address &&& ~~~1) ((address &&& 1) <<< 4).toUInt8 := by
  refine ⟨and_not_and_long address 1, ?_, ?_⟩
  · rw [UInt64.and_assoc, UInt64.and_self]
  · rcases and_one_long address with h | h <;> rw [h]
    · exact ⟨0, .inl rfl, rfl, rfl⟩
    · exact ⟨1, .inr rfl, rfl, rfl⟩

variable {pcds : Pcds}

/-- The fields of `BaseAddressModifier_InterruptInfo` together with the base address. -/
theorem SplitAddress.fields {io : Bool} {address baseAddress : UInt64} {baseAddressModifier : UInt8}
    (h : SplitAddress io address baseAddress baseAddressModifier) (pcds : Pcds) :
    baseAddress &&& ~~~1 |||
        (addressBit (baseAddressModifier ||| spacingAndInterruptInfo pcds)).toUInt64 = address ∧
      spacingCode (baseAddressModifier ||| spacingAndInterruptInfo pcds) =
        ipmiRegisterSpacing pcds.ipmiRegisterBitWidth &&& 0x3 ∧
      interruptBitsOf (baseAddressModifier ||| spacingAndInterruptInfo pcds) =
        pcds.interruptBits := by
  obtain ⟨bit, hbit, rfl, hlow⟩ := h.bit
  have hspacing : ipmiRegisterSpacing pcds.ipmiRegisterBitWidth &&& 0x3 = 0 ∨
      ipmiRegisterSpacing pcds.ipmiRegisterBitWidth &&& 0x3 = 2 := by
    rw [spacing_masked]
    exact (em _).imp (fun h => if_pos h) fun h => if_neg h
  obtain ⟨haddress, hcode, hinterrupt⟩ := modifier_fields hbit hspacing
    (and_one_byte pcds.smbiosTablesIpmiInterruptInfo)
    (and_one_byte pcds.smbiosTablesIpmiInterruptPolarity)
    (and_one_byte pcds.smbiosTablesIpmiInterruptTriggerMode)
  refine ⟨?_, hcode, hinterrupt⟩
  have hbitOf : addressBit (bit <<< 4 ||| spacingAndInterruptInfo pcds) = bit := haddress
  rw [hbitOf, hlow, h.rest]
  exact and_not_or_and_long address 1

/-- The address that the ACPI table gets. -/
def Pcds.address (pcds : Pcds) : UInt64 :=
  if pcds.ipmiAddressSpaceId = systemIo then
    pcds.ipmiIoBaseAddress.toUInt64
  else
    pcds.ipmiAddress

/-- The driver splits the address that is in the ACPI table. -/
theorem setBaseAddress_split (record : SmbiosTableType38)
    (h : pcds.ipmiAddressSpaceId = systemIo ∨ pcds.ipmiAddressSpaceId = systemMemory) :
    SplitAddress (pcds.ipmiAddressSpaceId = systemIo) pcds.address
      (record.setBaseAddress pcds).baseAddress
      (record.setBaseAddress pcds).baseAddressModifier := by
  unfold SmbiosTableType38.setBaseAddress Pcds.address
  by_cases hio : pcds.ipmiAddressSpaceId = systemIo
  · rw [if_pos hio, if_pos hio, decide_eq_true hio]
    exact splitAddress_io _
  · rw [if_neg hio, if_neg hio, if_pos (h.resolve_left hio), decide_eq_false hio]
    exact splitAddress_memory _

theorem setBaseAddress_revision (record : SmbiosTableType38) :
    (record.setBaseAddress pcds).ipmiSpecificationRevision = record.ipmiSpecificationRevision := by
  unfold SmbiosTableType38.setBaseAddress
  split_ifs <;> rfl

/-- The record without the version. -/
theorem program_eq (record : SmbiosTableType38) (version : UInt8)
    (htype : pcds.ipmiInterfaceType ≠ interfaceTypeSsif) :
    ∃ r : SmbiosTableType38, r.ipmiSpecificationRevision =
        (version &&& 0xF0) >>> 4 ||| (version &&& 0x0F) <<< 4 ∧
      record.program pcds version = { r.setBaseAddress pcds with
        baseAddressModifier :=
          (r.setBaseAddress pcds).baseAddressModifier ||| spacingAndInterruptInfo pcds } :=
  ⟨{ record with
      ipmiSpecificationRevision := (version &&& 0xF0) >>> 4 ||| (version &&& 0x0F) <<< 4 },
    rfl, if_pos htype⟩

/-- The two tables have the address space in different places. -/
theorem SplitAddress.addressSpace {address baseAddress : UInt64} {baseAddressModifier : UInt8}
    (h : SplitAddress (pcds.ipmiAddressSpaceId = systemIo) address baseAddress baseAddressModifier)
    (hspace : pcds.ipmiAddressSpaceId = systemIo ∨ pcds.ipmiAddressSpaceId = systemMemory) :
    (if baseAddress &&& 1 = 1 then AddressSpace.io else .memory) =
      if pcds.ipmiAddressSpaceId = systemIo then .io
      else if pcds.ipmiAddressSpaceId = systemMemory then .memory
      else .other := by
  rw [h.space]
  by_cases hio : pcds.ipmiAddressSpaceId = systemIo
  · rw [decide_eq_true hio, if_pos hio]
    rfl
  · rw [decide_eq_false hio, if_neg hio, if_pos (hspace.resolve_left hio)]
    rfl

/-- What the record says, but for the width of the registers, the ACPI table says, too. -/
theorem program_interface (record : SmbiosTableType38) (version : UInt8)
    (htype : pcds.ipmiInterfaceType ≠ interfaceTypeSsif)
    (hspace : pcds.ipmiAddressSpaceId = systemIo ∨ pcds.ipmiAddressSpaceId = systemMemory) :
    (record.program pcds version).interface =
        { (((spmiTable pcds).setOemId pcds).program pcds version).interface with
          registerWidth := widthOfSpacing
            (ipmiRegisterSpacing pcds.ipmiRegisterBitWidth &&& 0x3) } ∧
      interruptBitsOf (record.program pcds version).baseAddressModifier = pcds.interruptBits := by
  obtain ⟨r, hrevision, hprogram⟩ := program_eq record version htype
  have hsplit := setBaseAddress_split r hspace
  obtain ⟨haddress, hcode, hinterrupt⟩ := hsplit.fields pcds
  obtain ⟨hmajor, hminor⟩ := version_agrees version
  rw [hprogram]
  refine ⟨?_, hinterrupt⟩
  unfold SmbiosTableType38.interface
  dsimp only
  rw [hsplit.addressSpace hspace, haddress, hcode, setBaseAddress_revision, hrevision, hmajor,
    hminor]
  rfl

/-- The two tables agree, and the record has the configured bits about the interrupt, exactly if
the registers have 8 bits. -/
theorem program_agrees_iff (record : SmbiosTableType38) (version : UInt8)
    (htype : pcds.ipmiInterfaceType ≠ interfaceTypeSsif)
    (hspace : pcds.ipmiAddressSpaceId = systemIo ∨ pcds.ipmiAddressSpaceId = systemMemory) :
    ((record.program pcds version).interface =
        (((spmiTable pcds).setOemId pcds).program pcds version).interface ∧
      interruptBitsOf (record.program pcds version).baseAddressModifier = pcds.interruptBits) ↔
        pcds.ipmiRegisterBitWidth = 0x08 := by
  obtain ⟨hinterface, hinterrupt⟩ := program_interface record version htype hspace
  rw [hinterface, and_iff_left hinterrupt, ← widthOfSpacing_masked_iff]
  constructor
  · intro h
    exact congrArg Interface.registerWidth h
  · intro h
    rw [h]
    rfl

/-! ### The drivers -/

/-- The record that an event adds. -/
def recordOf : TableEvent → Option SmbiosTableType38
  | ⟨.add record, _⟩ => some record
  | _ => none

/-- The SMBIOS records that a run adds. -/
def records (tr : List TableEvent) : List SmbiosTableType38 := tr.filterMap recordOf

/-- The table that an event installs. -/
def tableOf : TableEvent → Option SpmiTable
  | ⟨.installAcpiTable table, _⟩ => some table
  | _ => none

/-- The ACPI tables that a run installs. -/
def tables (tr : List TableEvent) : List SpmiTable := tr.filterMap tableOf

/-- If the event is a command that succeeds, its response has the version in its place. -/
def HasVersion (version : UInt8) : TableEvent → Prop
  | ⟨.submit _, reply⟩ => reply.status = .success → reply.data[5]? = some version
  | _ => True

/-- The BMC answers `Get Device ID` with the version. -/
def ReportsVersion (version : UInt8) (tr : List TableEvent) : Prop :=
  ∀ event ∈ tr, HasVersion version event

theorem specificationVersion_store {data : List UInt8} {version : UInt8} (m : Memory UInt8)
    (h : data[5]? = some version) : specificationVersion (m.store 0 data) = version := by
  obtain ⟨hlt, hget⟩ := List.getElem?_eq_some_iff.1 h
  have hstore : m.store 0 data (0 + 5) = data[5] := Memory.store_of_mem hlt
  rw [← hget]
  exact hstore

/-- Whatever the driver adds is the record with the version that the BMC has reported. -/
theorem createIpmiSmbiosType38_records (pcds : Pcds) (stack : Memory UInt8)
    (record : SmbiosTableType38) (version : UInt8) :
    (createIpmiSmbiosType38 pcds stack record).Satisfies False fun tr _ =>
      ReportsVersion version tr → ∀ r ∈ records tr, r = record.program pcds version := by
  rw [createIpmiSmbiosType38, satisfies_perform_bind]
  intro status
  split_ifs
  · exact fun _ r hr => absurd hr List.not_mem_nil
  rw [satisfies_bind, satisfies_embed]
  intro reply
  change Satisfies False (if reply.status.isError then _ else _) _
  split_ifs with hstatus
  · exact fun _ r hr => absurd hr List.not_mem_nil
  intro status' hversion r hr
  have hreply : reply.status = .success → reply.data[5]? = some version :=
    hversion _ (.tail _ (.head _))
  have hget := specificationVersion_store stack
    (hreply (not_not.1 fun h => hstatus (EfiStatus.isError_iff.2 h)))
  rw [List.mem_singleton.1 hr]
  change record.program pcds (specificationVersion (stack.store 0 reply.data)) = _
  rw [hget]

theorem updateAcpiSpmiTables_program (pcds : Pcds) (table : SpmiTable) (version : UInt8) :
    (updateAcpiSpmiTables pcds table).Satisfies False fun tr x => tables tr = [] ∧
      (x.1 = .success → ReportsVersion version tr →
        x.2 = (table.setOemId pcds).program pcds version) := by
  rw [updateAcpiSpmiTables, satisfies_perform_bind]
  intro allocated
  cases allocated with
  | false => exact ⟨rfl, fun h => EfiStatus.noConfusion h⟩
  | true =>
    rw [if_neg (not_not.2 rfl), satisfies_perform_bind]
    intro status
    split_ifs with hstatus
    · exact ⟨rfl, fun h => absurd h (EfiStatus.isError_iff.1 hstatus)⟩
    rw [satisfies_bind, satisfies_embed]
    intro reply
    change Satisfies False (if reply.status.isError then _ else _) _
    split_ifs with hreply
    · exact ⟨rfl, fun h => absurd h (EfiStatus.isError_iff.1 hreply)⟩
    refine ⟨rfl, fun hsuccess hversion => ?_⟩
    have hevent : reply.status = .success → reply.data[5]? = some version :=
      hversion _ (.tail _ (.tail _ (.head _)))
    have hget := specificationVersion_store (fun _ => 0) (hevent hsuccess)
    change (table.setOemId pcds).program pcds
      (specificationVersion (Memory.store (fun _ => 0) 0 reply.data)) = _
    rw [hget]

/-- Whatever the driver installs is the table with the version that the BMC has reported. -/
theorem spmiTableEntryPoint_tables (pcds : Pcds) (table : SpmiTable) (version : UInt8) :
    (spmiTableEntryPoint pcds table).Satisfies False fun tr _ =>
      ReportsVersion version tr →
        ∀ t ∈ tables tr, t = (table.setOemId pcds).program pcds version := by
  rw [spmiTableEntryPoint, satisfies_perform_bind]
  intro status
  split_ifs
  · exact fun _ t ht => absurd ht List.not_mem_nil
  refine satisfies_bind.2 ((updateAcpiSpmiTables_program pcds table version).mono ?_)
  rintro tr ⟨status', table'⟩ ⟨hnone, htable⟩
  have hnothing : tables (⟨.locateProtocol .acpiTable, status⟩ :: tr) = [] := hnone
  dsimp only at htable ⊢
  split_ifs with hstatus
  · intro _ t ht
    rw [List.append_nil, hnothing] at ht
    exact absurd ht List.not_mem_nil
  rw [EfiStatus.isError_iff, not_not] at hstatus
  intro status''
  have hinstalled : tables (⟨.locateProtocol .acpiTable, status⟩ ::
      (tr ++ [⟨.installAcpiTable table', status''⟩])) = [table'] := by
    change tables (tr ++ _) = _
    rw [tables, List.filterMap_append]
    exact congrArg (· ++ [table']) hnone
  have hprogram : ReportsVersion version (⟨.locateProtocol .acpiTable, status⟩ ::
      (tr ++ [⟨.installAcpiTable table', status''⟩])) →
        table' = (table.setOemId pcds).program pcds version :=
    fun hversion => htable hstatus fun event hevent =>
      hversion event (.tail _ (List.mem_append_left _ hevent))
  change Satisfies False (if EfiStatus.isError status'' then _ else _) _
  split_ifs
  all_goals
    intro hversion t ht
    rw [hinstalled] at ht
    exact (List.mem_singleton.1 ht).trans (hprogram hversion)

/-- **When the two tables describe the same interface.**  Whatever the two drivers publish, with
system I/O or memory, decodes to the same interface and to the configured bits about the interrupt
if and only if the registers have 8 bits. -/
theorem createIpmiSmbiosType38_agrees_iff (pcds : Pcds) (stack : Memory UInt8)
    (record : SmbiosTableType38) (version : UInt8)
    (htype : pcds.ipmiInterfaceType ≠ interfaceTypeSsif)
    (hspace : pcds.ipmiAddressSpaceId = systemIo ∨ pcds.ipmiAddressSpaceId = systemMemory) :
    (createIpmiSmbiosType38 pcds stack record).Satisfies False fun tr _ => ReportsVersion version tr →
      (spmiTableEntryPoint pcds (spmiTable pcds)).Satisfies False fun tr' _ =>
        ReportsVersion version tr' → ∀ r ∈ records tr, ∀ t ∈ tables tr',
          (r.interface = t.interface ∧
            interruptBitsOf r.baseAddressModifier = pcds.interruptBits) ↔
              pcds.ipmiRegisterBitWidth = 0x08 := by
  refine (createIpmiSmbiosType38_records pcds stack record version).mono ?_
  intro tr _ hrecords hversion
  refine (spmiTableEntryPoint_tables pcds (spmiTable pcds) version).mono ?_
  intro tr' _ htables hversion' r hr t ht
  rw [hrecords hversion r hr, htables hversion' t ht]
  exact program_agrees_iff record version htype hspace

/-- The default configuration, but for the width of the registers. -/
def defaultPcds (ipmiRegisterBitWidth : UInt8) : Pcds where
  acpiDefaultOemId _ := 0x20
  acpiDefaultOemTableId := 0
  acpiDefaultOemRevision := 0
  acpiDefaultCreatorId := 0
  acpiDefaultCreatorRevision := 0
  ipmiIoBaseAddress := 0xCA2
  ipmiInterfaceType := 0x01
  ipmiInterruptType := 0
  ipmiGpe := 0
  ipmiPciDeviceFlag := 0
  ipmiGlobalSystemInterrupt := 0
  ipmiAddressSpaceId := systemIo
  ipmiRegisterBitWidth
  ipmiRegisterBitOffset := 0
  ipmiAccessSize := 1
  ipmiAddress := 0
  ipmiDeviceId _ := 0
  smbiosTablesIpmiInterruptInfo := 0
  smbiosTablesIpmiInterruptPolarity := 0
  smbiosTablesIpmiInterruptTriggerMode := 0
  smbiosTablesIpmiInterruptNumber := 0
  smbiosTablesIpmiI2CSlaveAddress := 0x20
  smbiosTablesIpmiNVStorageDeviceAddress := 0xFF

theorem createIpmiSmbiosType38_agrees_iff_default :
    (createIpmiSmbiosType38 (defaultPcds 0x08) (fun _ => 0)
      (smbiosTableType38 (defaultPcds 0x08))).Satisfies False fun tr _ => ReportsVersion 0x02 tr →
        (spmiTableEntryPoint (defaultPcds 0x08) (spmiTable (defaultPcds 0x08))).Satisfies False
          fun tr' _ => ReportsVersion 0x02 tr' → ∀ r ∈ records tr, ∀ t ∈ tables tr',
            (r.interface = t.interface ∧
              interruptBitsOf r.baseAddressModifier = (defaultPcds 0x08).interruptBits) ↔
                (defaultPcds 0x08).ipmiRegisterBitWidth = 0x08 :=
  createIpmiSmbiosType38_agrees_iff (defaultPcds 0x08) _ _ 0x02 (by decide) (.inl rfl)

/-- A response to `Get Device ID`. -/
def deviceIdReply : SubmitReply :=
  ⟨.success, [0x00, 0x20, 0x01, 0x01, 0x00, 0x02, 0xBF, 0x57, 0x01, 0x00, 0x01, 0x00], 12⟩

/-- Registers of 16 bits are successive bytes in the SMBIOS record. -/
theorem createIpmiSmbiosType38_word_disagrees :
    ¬ (createIpmiSmbiosType38 (defaultPcds 0x10) (fun _ => 0)
      (smbiosTableType38 (defaultPcds 0x10))).Satisfies False fun tr _ => ReportsVersion 0x02 tr →
        (spmiTableEntryPoint (defaultPcds 0x10) (spmiTable (defaultPcds 0x10))).Satisfies False
          fun tr' _ => ReportsVersion 0x02 tr' → ∀ r ∈ records tr, ∀ t ∈ tables tr',
            r.interface = t.interface ∧
              interruptBitsOf r.baseAddressModifier = (defaultPcds 0x10).interruptBits := by
  intro h
  have hspmi := h .success deviceIdReply .success (List.forall_mem_cons.2 ⟨trivial,
    List.forall_mem_cons.2 ⟨fun _ => rfl, List.forall_mem_singleton.2 trivial⟩⟩)
  have hagrees := hspmi .success true .success deviceIdReply .success (List.forall_mem_cons.2
    ⟨trivial, List.forall_mem_cons.2 ⟨trivial, List.forall_mem_cons.2 ⟨trivial,
      List.forall_mem_cons.2 ⟨fun _ => rfl, List.forall_mem_singleton.2 trivial⟩⟩⟩⟩)
  have hwidth := congrArg Interface.registerWidth (hagrees _ (.head _) _ (.head _)).1
  revert hwidth
  decide

end Tables

end IpmiFeature
