import IpmiFeature.Interaction.Memory
import IpmiFeature.Status

/-!
# The transport interface

What the functions of `IpmiTransportLib.h` take and give back, whichever library implements them.
-/

namespace IpmiFeature

open Interaction

/-- A message for `SendDataToBmcPort`: its size is a `UINT8`. -/
structure Message where
  /-- `Data[0..DataSize)`. -/
  bytes : List UInt8
  /-- `DataSize` is a `UINT8`. -/
  size_le : bytes.length ≤ 255

theorem Message.toNat_size (data : Message) :
    (UInt8.ofNat data.bytes.length).toNat = data.bytes.length :=
  UInt8.toNat_ofNat_of_lt' (Nat.lt_succ_of_le data.size_le)

/-- Nothing fits into every buffer. -/
theorem length_nil_le (dataSize : UInt8) : ([] : List UInt8).length ≤ dataSize.toNat := Nat.zero_le _

/-- What `ReceiveBmcDataFromPort` leaves behind: its status, the caller's buffer and
`*DataSize`. -/
structure Received where
  /-- The status returned. -/
  status : EfiStatus
  /-- The memory behind `Data`. -/
  data : Memory UInt8
  /-- `*DataSize`. -/
  dataSize : UInt8

end IpmiFeature
