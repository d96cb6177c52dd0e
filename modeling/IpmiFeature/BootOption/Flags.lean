import IpmiFeature.Codes
import IpmiFeature.Interaction.Memory

/-!
# Boot flags

The constants of the boot option commands, and the boot flags, which are boot option parameter 5.
-/

namespace IpmiFeature

open Interaction

namespace BootOption

/-! ### Constants -/

/-- `IPMI_BOOT_OPTIONS_PARAMETER_SELECTOR_SET_IN_PROGRESS`. -/
def parameterSetInProgress : UInt8 := 0

/-- `IPMI_BOOT_OPTIONS_PARAMETER_BOOT_INFO_ACK`. -/
def parameterBootInfoAck : UInt8 := 4

/-- `IPMI_BOOT_OPTIONS_PARAMETER_BOOT_FLAGS`. -/
def parameterBootFlags : UInt8 := 5

/-- `BOOT_OPTION_HANDLED_BY_BIOS`. -/
def bootOptionHandledByBios : UInt8 := 0x01

/-- The size of `IPMI_GET_BOOT_OPTIONS_RESPONSE_HDR`: the completion code, the parameter version and
the parameter with its valid bit. -/
def responseHeaderSize : ℕ := 3

/-- `IPMI_BOOT_OPTION_SELECTOR`. -/
inductive BootOptionSelector where
  | bootNone
  | bootPxe
  | bootHardDrive
  | bootHardDriveSafeMode
  | boot4
  | bootCd
  | bootBiosSetup
  | bootRemoteFloppy
  | bootRemoteCd
  | bootPrimaryRemoteMedia
  | bootA
  | bootRemoteHardDrive
  | bootC
  | bootD
  | bootE
  | bootFloppy
  deriving DecidableEq, Repr

/-- The selector with the given four bits. -/
def BootOptionSelector.ofBits (bits : UInt8) : BootOptionSelector :=
  match bits.toNat with
  | 0x0 => bootNone
  | 0x1 => bootPxe
  | 0x2 => bootHardDrive
  | 0x3 => bootHardDriveSafeMode
  | 0x4 => boot4
  | 0x5 => bootCd
  | 0x6 => bootBiosSetup
  | 0x7 => bootRemoteFloppy
  | 0x8 => bootRemoteCd
  | 0x9 => bootPrimaryRemoteMedia
  | 0xA => bootA
  | 0xB => bootRemoteHardDrive
  | 0xC => bootC
  | 0xD => bootD
  | 0xE => bootE
  | _ => bootFloppy

/-! ### Boot flags -/

/-- `IPMI_BOOT_OPTIONS_RESPONSE_PARAMETER_5`. -/
@[ext]
structure BootFlags where
  data1 : UInt8
  data2 : UInt8
  data3 : UInt8
  data4 : UInt8
  data5 : UInt8
  deriving DecidableEq, Repr

namespace BootFlags

/-- The flags after `ZeroMem`. -/
def zero : BootFlags := ⟨0, 0, 0, 0, 0⟩

/-- `Data1.Bits.BootFlagValid`. -/
def bootFlagValid (flags : BootFlags) : Bool := flags.data1 &&& 0x80 != 0

/-- `Data1.Bits.PersistentOptions`. -/
def persistentOptions (flags : BootFlags) : Bool := flags.data1 &&& 0x40 != 0

/-- `Data2.Bits.BootDeviceSelector`. -/
def bootDeviceSelector (flags : BootFlags) : BootOptionSelector :=
  .ofBits (flags.data2 >>> 2 &&& 0x0F)

/-- `Data2.Bits.CmosClear`. -/
def cmosClear (flags : BootFlags) : Bool := flags.data2 &&& 0x80 != 0

/-- The flags with `Data2.Bits.CmosClear` set to 0. -/
def clearCmos (flags : BootFlags) : BootFlags := { flags with data2 := flags.data2 &&& 0x7F }

/-- The bytes of the flags. -/
def bytes (flags : BootFlags) : List UInt8 :=
  [flags.data1, flags.data2, flags.data3, flags.data4, flags.data5]

/-- The flags at an offset. -/
def ofMemory (m : Memory UInt8) (off : ℕ) : BootFlags :=
  ⟨m off, m (off + 1), m (off + 2), m (off + 3), m (off + 4)⟩

@[simp] theorem bootFlagValid_zero : zero.bootFlagValid = false := by decide

@[simp] theorem bootFlagValid_clearCmos (flags : BootFlags) :
    flags.clearCmos.bootFlagValid = flags.bootFlagValid := rfl

@[simp] theorem persistentOptions_clearCmos (flags : BootFlags) :
    flags.clearCmos.persistentOptions = flags.persistentOptions := rfl

@[simp] theorem cmosClear_clearCmos (flags : BootFlags) : flags.clearCmos.cmosClear = false := by
  have hbits : (0x7F : UInt8) &&& 0x80 = 0 := by decide
  rw [cmosClear, clearCmos, UInt8.and_assoc, hbits, UInt8.and_zero]
  rfl

@[simp] theorem bootDeviceSelector_clearCmos (flags : BootFlags) :
    flags.clearCmos.bootDeviceSelector = flags.bootDeviceSelector := by
  have hbits : (0x7F : UInt8) >>> 2 &&& 0x0F = 0x0F := by decide
  rw [bootDeviceSelector, bootDeviceSelector, clearCmos, UInt8.shiftRight_and, UInt8.and_assoc, hbits]

end BootFlags

end BootOption

end IpmiFeature
