import IpmiFeature.Drivers.Basic
import IpmiFeature.Interaction.Layout
import IpmiFeature.Interaction.Words

/-!
# The PEIM in its shadow

`PeimIpmiInterfaceInit` when it is executed after it has been shadowed, with every read and every
write of the memory in which the HOBs are; addresses are natural numbers.  The HOB list is whatever
the modules before have left behind, and `GetNextHob` is that of the HOB library.  Sizes and
offsets are those of X64.
-/

namespace IpmiFeature

open Interaction Generic

namespace Drivers

/-! ### Sizes and offsets -/

/-- `EFI_HOB_TYPE_MEMORY_POOL`. -/
def hobTypeMemoryPool : UInt16 := 0x0007

/-- `EFI_HOB_TYPE_END_OF_HOB_LIST`. -/
def hobTypeEndOfHobList : UInt16 := 0xFFFF

/-- `OFFSET_OF (EFI_HOB_GENERIC_HEADER, HobLength)`. -/
def offsetHobLength : ℕ := 2

/-- `OFFSET_OF (IPMI_BMC_INSTANCE_DATA, IpmiTransport)`. -/
def offsetIpmiTransport : ℕ := 296

/-- `OFFSET_OF (IPMI_BMC_INSTANCE_DATA, IpmiTransport.IpmiSubmitCommand)`. -/
def offsetIpmiSubmitCommand : ℕ := 304

/-- `OFFSET_OF (IPMI_BMC_INSTANCE_DATA, IpmiTransport.GetBmcStatus)`. -/
def offsetGetBmcStatus : ℕ := 312

/-- `sizeof (IPMI_BMC_INSTANCE_DATA)`. -/
def sizeofInstance : ℕ := 320

/-- `OFFSET_OF (EFI_PEI_PPI_DESCRIPTOR, Ppi)`. -/
def offsetPpi : ℕ := 16

/-- `sizeof (EFI_PEI_PPI_DESCRIPTOR)`. -/
def sizeofPpiDescriptor : ℕ := 24

/-- What is allocated when the PEIM is executed for the first time. -/
def sizeofAllocation : ℕ := sizeofInstance + sizeofPpiDescriptor

/-! ### The HOB list -/

/-- A HOB, other than the one at the end of the list. -/
structure Hob where
  /-- `Header.HobType`. -/
  hobType : UInt16
  /-- `Header.Reserved`. -/
  reserved : UInt32
  /-- What follows the header. -/
  data : List UInt8
  ne_end : hobType ≠ hobTypeEndOfHobList
  /-- `Header.HobLength` has 16 bits. -/
  length_lt : sizeofHobMemoryPool.toNat + data.length < 65536

/-- The size of a HOB, with its header. -/
def Hob.size (hob : Hob) : ℕ := sizeofHobMemoryPool.toNat + hob.data.length

/-- `Header.HobLength`. -/
def Hob.hobLength (hob : Hob) : UInt16 := UInt16.ofNat hob.size

/-- The bytes of a HOB. -/
def Hob.bytes (hob : Hob) : List UInt8 :=
  (byteOfShort hob.hobType).slice 0 2 ++ (byteOfShort hob.hobLength).slice 0 2 ++
    (byteOf hob.reserved).slice 0 4 ++ hob.data

/-- A memory with a HOB list. -/
structure HobList where
  /-- `GetHobList ()`. -/
  start : ℕ
  hobs : List Hob
  memory : Memory UInt8
  holds : ∀ x ∈ placed Hob.size start hobs, memory.slice x.1 x.2.size = x.2.bytes

theorem Hob.length_bytes (hob : Hob) : hob.bytes.length = hob.size := by
  simp [Hob.bytes, Hob.size, sizeofHobMemoryPool]
  omega

/-- Any HOBs, at any address. -/
def HobList.ofHobs (start : ℕ) (hobs : List Hob) (memory : Memory UInt8) : HobList where
  start := start
  hobs := hobs
  memory := memory.store start (hobs.flatMap Hob.bytes)
  holds _ hx := slice_store_placed Hob.length_bytes memory start hobs hx

/-- The HOBs with their addresses. -/
def HobList.layout (list : HobList) : List (ℕ × Hob) := placed Hob.size list.start list.hobs

/-- The address of the HOB at the end of the list. -/
def HobList.endOfHobList (list : HobList) : ℕ := placedEnd Hob.size list.start list.hobs

/-- `GetNextHob`: the first HOB of a type, from an address on. -/
def HobList.getNextHob (list : HobList) (type : UInt16) (hobStart : ℕ) : Option ℕ :=
  (next Hob.size (fun hob => hob.hobType = type) hobStart list.start list.hobs).map Prod.fst

/-! ### Calls -/

/-- The calls of the PEIM in its shadow; an access to memory is a call as well. -/
inductive ShadowCall where
  /-- `PeiServicesLocatePpi`. -/
  | locatePpi
  /-- `GetHobList`. -/
  | getHobList
  /-- `GetNextHob`. -/
  | getNextHob (type : UInt16) (hobStart : ℕ)
  /-- Two bytes are read. -/
  | load16 (address : ℕ)
  /-- Eight bytes are read. -/
  | load64 (address : ℕ)
  /-- Eight bytes are written. -/
  | store64 (address : ℕ) (value : UInt64)
  /-- `PeiServicesReInstallPpi`, with the addresses of the descriptors. -/
  | reInstallPpi (oldPpi newPpi : ℕ)

/-- What the calls are answered with: `PeiServicesLocatePpi` with its status and the address of
the descriptor. -/
abbrev ShadowCall.Answer : ShadowCall → Type
  | locatePpi => EfiStatus × ℕ
  | getHobList => ℕ
  | getNextHob _ _ => Option ℕ
  | load16 _ => UInt16
  | load64 _ => UInt64
  | store64 _ _ => Unit
  | reInstallPpi _ _ => EfiStatus

/-- A call with its answer. -/
abbrev ShadowEvent := Event ShadowCall ShadowCall.Answer

/-- Programs over these calls. -/
abbrev ShadowProg := Prog ShadowCall ShadowCall.Answer

/-- What the services of PEI answer, besides what they say about the HOB list. -/
structure PeiServices where
  locatePpi : EfiStatus × ℕ
  reInstallPpi : EfiStatus

/-- PEI with a HOB list, and the memory as its state. -/
def PeiServices.handler (pei : PeiServices) (list : HobList) :
    Handler ShadowCall ShadowCall.Answer (Memory UInt8)
  | .locatePpi, m => (pei.locatePpi, m)
  | .getHobList, m => (list.start, m)
  | .getNextHob type hobStart, m => (list.getNextHob type hobStart, m)
  | .load16 address, m => (shortOf m address, m)
  | .load64 address, m => (longOf m address, m)
  | .store64 address value, m => ((), m.store address ((byteOfLong value).slice 0 8))
  | .reInstallPpi _ _, m => (pei.reInstallPpi, m)

/-! ### The search -/

/-- `Hob.Pool + 1`. -/
def instanceOf (hob : ℕ) : ℕ := hob + sizeofHobMemoryPool.toNat

/-- The condition under which the allocation has been found.  The signature is read only if the
size is large enough; the difference is one of `UINTN`s. -/
def holdsInstance (hob : ℕ) : ShadowProg Bool := do
  let hobLength ← Prog.perform (ShadowCall.load16 (hob + offsetHobLength))
  if hobLength.toUInt64 - sizeofHobMemoryPool ≥ sizeofUintn then do
    let signature ← Prog.perform (ShadowCall.load64 (instanceOf hob))
    return signature == smIpmiBmcSignature
  else
    return false

/-- The pointers are updated, and the PPI is reinstalled. -/
def updateInstance (image : Image) (oldPpi ipmiInstance : ℕ) : ShadowProg Unit := do
  Prog.perform (ShadowCall.store64 (ipmiInstance + offsetIpmiSubmitCommand) image.ipmiSendCommand)
  Prog.perform (ShadowCall.store64 (ipmiInstance + offsetGetBmcStatus) image.ipmiGetBmcStatus)
  -- the descriptor comes after the instance
  let peiIpmiBmcDataDesc := ipmiInstance + sizeofInstance
  Prog.perform (ShadowCall.store64 (peiIpmiBmcDataDesc + offsetPpi)
    (UInt64.ofNat (ipmiInstance + offsetIpmiTransport)))
  -- the status is printed only
  let _ ← Prog.perform (ShadowCall.reInstallPpi oldPpi peiIpmiBmcDataDesc)
  return ()

/-- One iteration of the search for the allocation. -/
def searchIteration (image : Image) (oldPpi hob : ℕ) : ShadowProg (Iter ℕ EfiStatus) := do
  match ← Prog.perform (ShadowCall.getNextHob hobTypeMemoryPool hob) with
  | none => return .done .success
  | some hob => do
    if ← holdsInstance hob then do
      updateInstance image oldPpi (instanceOf hob)
      return .done .success
    else do
      -- `GET_NEXT_HOB`
      let hobLength ← Prog.perform (ShadowCall.load16 (hob + offsetHobLength))
      return .again (hob + hobLength.toNat)

/-- `PeimIpmiInterfaceInit`, when it is executed after it has been shadowed. -/
def peimIpmiInterfaceInitShadowed (image : Image) (fuel : ℕ) : ShadowProg EfiStatus := do
  let (status, oldPpi) ← Prog.perform ShadowCall.locatePpi
  if status.isError then
    return .success
  else do
    let hob ← Prog.perform ShadowCall.getHobList
    Prog.loop (searchIteration image oldPpi) fuel hob

end Drivers

end IpmiFeature
