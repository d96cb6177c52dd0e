import Mathlib.Data.Nat.Notation

/-!
# Codes of the specification

The net functions, commands and completion codes of the IPMI specification, by the names of the
industry standard headers.
-/

namespace IpmiFeature

/-! ### Net functions -/

/-- `IPMI_NETFN_CHASSIS`. -/
def netfnChassis : UInt8 := 0x00

/-- `IPMI_NETFN_SENSOR_EVENT`. -/
def netfnSensorEvent : UInt8 := 0x04

/-- `IPMI_NETFN_APP`. -/
def netfnApp : UInt8 := 0x06

/-- `IPMI_NETFN_FIRMWARE`. -/
def netfnFirmware : UInt8 := 0x08

/-- `IPMI_NETFN_STORAGE`. -/
def netfnStorage : UInt8 := 0x0A

/-- `IPMI_NETFN_TRANSPORT`. -/
def netfnTransport : UInt8 := 0x0C

/-! ### Chassis commands -/

/-- `IPMI_CHASSIS_GET_CAPABILITIES`. -/
def chassisGetCapabilities : UInt8 := 0x00

/-- `IPMI_CHASSIS_GET_STATUS`. -/
def chassisGetStatus : UInt8 := 0x01

/-- `IPMI_CHASSIS_CONTROL`. -/
def chassisControl : UInt8 := 0x02

/-- `IPMI_CHASSIS_SET_POWER_RESTORE_POLICY`. -/
def chassisSetPowerRestorePolicy : UInt8 := 0x06

/-- `IPMI_CHASSIS_SET_SYSTEM_BOOT_OPTIONS`. -/
def chassisSetSystemBootOptions : UInt8 := 0x08

/-- `IPMI_CHASSIS_GET_SYSTEM_BOOT_OPTIONS`. -/
def chassisGetSystemBootOptions : UInt8 := 0x09

/-! ### Sensor commands -/

/-- `IPMI_SENSOR_SET_SENSOR_THRESHOLDS`. -/
def sensorSetSensorThresholds : UInt8 := 0x26

/-- `IPMI_SENSOR_GET_SENSOR_THRESHOLDS`. -/
def sensorGetSensorThresholds : UInt8 := 0x27

/-! ### App commands -/

/-- `IPMI_APP_GET_DEVICE_ID`. -/
def appGetDeviceId : UInt8 := 0x01

/-- `IPMI_APP_GET_SELFTEST_RESULTS`. -/
def appGetSelftestResults : UInt8 := 0x04

/-- `IPMI_APP_SET_ACPI_POWERSTATE`. -/
def appSetAcpiPowerstate : UInt8 := 0x06

/-- `IPMI_APP_RESET_WATCHDOG_TIMER`. -/
def appResetWatchdogTimer : UInt8 := 0x22

/-- `IPMI_APP_SET_WATCHDOG_TIMER`. -/
def appSetWatchdogTimer : UInt8 := 0x24

/-- `IPMI_APP_GET_WATCHDOG_TIMER`. -/
def appGetWatchdogTimer : UInt8 := 0x25

/-- `IPMI_APP_SET_BMC_GLOBAL_ENABLES`. -/
def appSetBmcGlobalEnables : UInt8 := 0x2E

/-- `IPMI_APP_GET_BMC_GLOBAL_ENABLES`. -/
def appGetBmcGlobalEnables : UInt8 := 0x2F

/-- `IPMI_APP_CLEAR_MESSAGE_FLAGS`. -/
def appClearMessageFlags : UInt8 := 0x30

/-- `IPMI_APP_GET_MESSAGE_FLAGS`. -/
def appGetMessageFlags : UInt8 := 0x31

/-- `IPMI_APP_GET_MESSAGE`. -/
def appGetMessage : UInt8 := 0x33

/-- `IPMI_APP_SEND_MESSAGE`. -/
def appSendMessage : UInt8 := 0x34

/-- `IPMI_APP_GET_SYSTEM_GUID`. -/
def appGetSystemGuid : UInt8 := 0x37

/-- `IPMI_APP_GET_CHANNEL_INFO`. -/
def appGetChannelInfo : UInt8 := 0x42

/-- `IPMI_APP_GET_SYSTEM_INTERFACE_CAPABILITIES`. -/
def appGetSystemInterfaceCapabilities : UInt8 := 0x57

/-! ### Storage commands -/

/-- `IPMI_STORAGE_GET_FRU_INVENTORY_AREAINFO`. -/
def storageGetFruInventoryAreainfo : UInt8 := 0x10

/-- `IPMI_STORAGE_READ_FRU_DATA`. -/
def storageReadFruData : UInt8 := 0x11

/-- `IPMI_STORAGE_WRITE_FRU_DATA`. -/
def storageWriteFruData : UInt8 := 0x12

/-- `IPMI_STORAGE_GET_SDR_REPOSITORY_INFO`. -/
def storageGetSdrRepositoryInfo : UInt8 := 0x20

/-- `IPMI_STORAGE_GET_SDR`. -/
def storageGetSdr : UInt8 := 0x23

/-- `IPMI_STORAGE_GET_SEL_INFO`. -/
def storageGetSelInfo : UInt8 := 0x40

/-- `IPMI_STORAGE_GET_SEL_ENTRY`. -/
def storageGetSelEntry : UInt8 := 0x43

/-- `IPMI_STORAGE_ADD_SEL_ENTRY`. -/
def storageAddSelEntry : UInt8 := 0x44

/-- `IPMI_STORAGE_PARTIAL_ADD_SEL_ENTRY`. -/
def storagePartialAddSelEntry : UInt8 := 0x45

/-- `IPMI_STORAGE_CLEAR_SEL`. -/
def storageClearSel : UInt8 := 0x47

/-- `IPMI_STORAGE_GET_SEL_TIME`. -/
def storageGetSelTime : UInt8 := 0x48

/-- `IPMI_STORAGE_SET_SEL_TIME`. -/
def storageSetSelTime : UInt8 := 0x49

/-! ### Transport commands -/

/-- `IPMI_TRANSPORT_GET_LAN_CONFIG_PARAMETERS`. -/
def transportGetLanConfigParameters : UInt8 := 0x02

/-- `IPMI_TRANSPORT_SOL_ACTIVATING`. -/
def transportSolActivating : UInt8 := 0x20

/-- `IPMI_TRANSPORT_SET_SOL_CONFIG_PARAM`. -/
def transportSetSolConfigParam : UInt8 := 0x21

/-- `IPMI_TRANSPORT_GET_SOL_CONFIG_PARAM`. -/
def transportGetSolConfigParam : UInt8 := 0x22

/-! ### Completion codes -/

/-- `IPMI_COMP_CODE_NORMAL`. -/
def compCodeNormal : UInt8 := 0x00

/-- The code of the specification for a boot option parameter that is not supported. -/
def compCodeUnsupportedParameter : UInt8 := 0x80

/-- `IPMI_COMP_CODE_INVALID_COMMAND`. -/
def compCodeInvalidCommand : UInt8 := 0xC1

/-- `IPMI_COMP_CODE_INVALID_FOR_GIVEN_LUN`. -/
def compCodeInvalidForGivenLun : UInt8 := 0xC2

/-- `IPMI_COMP_CODE_TIMEOUT`. -/
def compCodeTimeout : UInt8 := 0xC3

/-- `IPMI_COMP_CODE_OUT_OF_SPACE`. -/
def compCodeOutOfSpace : UInt8 := 0xC4

/-- `IPMI_COMP_CODE_INVALID_REQUEST_DATA_LENGTH`. -/
def compCodeInvalidRequestDataLength : UInt8 := 0xC7

/-- `IPMI_COMP_CODE_OUT_OF_RANGE`. -/
def compCodeOutOfRange : UInt8 := 0xC9

/-- `IPMI_COMP_CODE_NOT_PRESENT`. -/
def compCodeNotPresent : UInt8 := 0xCB

/-- `IPMI_COMP_CODE_INVALID_DATA_FIELD`. -/
def compCodeInvalidDataField : UInt8 := 0xCC

/-- `IPMI_COMP_CODE_COMMAND_ILLEGAL`. -/
def compCodeCommandIllegal : UInt8 := 0xCD

/-- `IPMI_COMP_CODE_BMC_INIT_IN_PROGRESS`. -/
def compCodeBmcInitInProgress : UInt8 := 0xD2

/-- `IPMI_COMP_CODE_INSUFFICIENT_PRIVILEGE`. -/
def compCodeInsufficientPrivilege : UInt8 := 0xD4

/-- `IPMI_COMP_CODE_UNSPECIFIED`. -/
def compCodeUnspecified : UInt8 := 0xFF

/-! ### Results of the self test -/

/-- `IPMI_APP_SELFTEST_FW_CORRUPT`. -/
def selftestFwCorrupt : UInt8 := 0x01

/-- `IPMI_APP_SELFTEST_FW_BOOTBLOCK_CORRUPT`. -/
def selftestFwBootblockCorrupt : UInt8 := 0x02

/-- `IPMI_APP_SELFTEST_FRU_CORRUPT`. -/
def selftestFruCorrupt : UInt8 := 0x04

/-- `IPMI_APP_SELFTEST_SDR_REPOSITORY_EMPTY`. -/
def selftestSdrRepositoryEmpty : UInt8 := 0x08

/-- `IPMI_APP_SELFTEST_NO_ERROR`. -/
def selftestNoError : UInt8 := 0x55

/-- `IPMI_APP_SELFTEST_NOT_IMPLEMENTED`. -/
def selftestNotImplemented : UInt8 := 0x56

/-- `IPMI_APP_SELFTEST_ERROR`. -/
def selftestError : UInt8 := 0x57

/-- `IPMI_APP_SELFTEST_FATAL_HW_ERROR`. -/
def selftestFatalHwError : UInt8 := 0x58

end IpmiFeature
