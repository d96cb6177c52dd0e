import IpmiFeature.Drivers.Publish
import IpmiFeature.Drivers.Search

/-!
# The instance in memory

`reInstallPpi` takes the HOBs as a list of instances.  Over the memory that they are taken from, the
PEIM finds and reinstalls the same instance (`peimIpmiInterfaceInitShadowed_refines`).
-/

namespace IpmiFeature

open Interaction Prog Generic

namespace Drivers

/-- `IPMI_BMC_INSTANCE_DATA` at an address. -/
def instanceAt (m : Memory UInt8) (address : ℕ) : IpmiBmcInstanceData where
  signature := longOf m address
  ipmiTimeoutPeriod := longOf m (address + 8)
  slaveAddress := m (address + 16)
  tempData i := m (address + 17 + i)
  bmcStatus := wordOf m (address + 272)
  errorStatus := longOf m (address + 280)
  softErrorCount := m (address + 288)
  ipmiTransport := ⟨longOf m (address + offsetIpmiTransport),
    longOf m (address + offsetIpmiSubmitCommand), longOf m (address + offsetGetBmcStatus)⟩

/-- The memory pool HOBs of a list, each taken for an instance. -/
def HobList.poolHobs (list : HobList) : List MemoryPoolHob :=
  (list.layout.filter fun x => x.2.hobType = hobTypeMemoryPool).map fun x =>
    ⟨x.2.hobLength, instanceAt list.memory (instanceOf x.1)⟩

variable {list : HobList} {image : Image} {pei : PeiServices}

/-- The condition of the search. -/
theorem signed_iff {x : ℕ × Hob} (hx : x ∈ list.layout) : x.2.Signed ↔
    x.2.hobType = hobTypeMemoryPool ∧
      (⟨x.2.hobLength, instanceAt list.memory (instanceOf x.1)⟩ : MemoryPoolHob).HoldsInstance := by
  rw [MemoryPoolHob.HoldsInstance, x.2.sizeofUintn_le_iff]
  constructor
  · intro hsigned
    exact ⟨hsigned.1, hsigned.room, (list.longOf_signature hx hsigned.room).2 hsigned.2⟩
  · rintro ⟨htype, hroom, hsignature⟩
    exact ⟨htype, (list.longOf_signature hx hroom).1 hsignature⟩

/-- Both searches find the same instance. -/
theorem findInstance_poolHobs : findInstance list.poolHobs =
    list.found.map fun x => instanceAt list.memory (instanceOf x.1) := by
  have hfound : list.found = (list.layout.filter fun x => x.2.hobType = hobTypeMemoryPool).find?
      fun x => (⟨x.2.hobLength, instanceAt list.memory (instanceOf x.1)⟩ :
        MemoryPoolHob).HoldsInstance := by
    rw [List.find?_filter]
    refine List.find?_congr fun x hx => ?_
    simp only [decide_eq_true_eq, decide_eq_decide, ← signed_iff hx]
    exact and_iff_right (le_of_mem_placed hx)
  rw [findInstance, HobList.poolHobs, List.find?_map, Option.map_map, hfound]
  rfl

/-! ### Updating the pointers -/

/-- What comes before the pointers is as before. -/
theorem updated_of_lt (image : Image) (m : Memory UInt8) (hob : ℕ) {k : ℕ}
    (h : k < offsetIpmiSubmitCommand) :
    updated image hob m (instanceOf hob + k) = m (instanceOf hob + k) := by
  have hk : k < 304 := h
  simp only [updated, offsetIpmiSubmitCommand, offsetGetBmcStatus, sizeofInstance, offsetPpi]
  rw [Memory.store_of_lt (by omega), Memory.store_of_lt (by omega), Memory.store_of_lt (by omega)]

theorem longOf_updated_of_le (image : Image) (m : Memory UInt8) (hob : ℕ) {k : ℕ}
    (h : k + 8 ≤ offsetIpmiSubmitCommand) :
    longOf (updated image hob m) (instanceOf hob + k) = longOf m (instanceOf hob + k) := by
  refine longOf_congr fun i hi => ?_
  rw [Nat.add_assoc]
  exact updated_of_lt image m hob (by omega)

theorem longOf_updated_submit (image : Image) (m : Memory UInt8) (hob : ℕ) :
    longOf (updated image hob m) (instanceOf hob + offsetIpmiSubmitCommand) =
      image.ipmiSendCommand := by
  simp only [updated, offsetIpmiSubmitCommand, offsetGetBmcStatus, sizeofInstance, offsetPpi]
  rw [longOf_store_of_le _ (by omega), longOf_store_of_le _ (by omega), longOf_store]

theorem longOf_updated_status (image : Image) (m : Memory UInt8) (hob : ℕ) :
    longOf (updated image hob m) (instanceOf hob + offsetGetBmcStatus) = image.ipmiGetBmcStatus := by
  simp only [updated, offsetIpmiSubmitCommand, offsetGetBmcStatus, sizeofInstance, offsetPpi]
  rw [longOf_store_of_le _ (by omega), longOf_store]

/-- The instance is the one before, with the functions where they are now. -/
theorem instanceAt_updated (image : Image) (m : Memory UInt8) (hob : ℕ) :
    instanceAt (updated image hob m) (instanceOf hob) =
      relocate image (instanceAt m (instanceOf hob)) := by
  have hsignature := longOf_updated_of_le image m hob (k := 0) (by decide)
  have htempData : ∀ i : Fin maxTempData, updated image hob m (instanceOf hob + 17 + i) =
      m (instanceOf hob + 17 + i) := by
    intro i
    have hi : i.val < 255 := i.isLt
    rw [Nat.add_assoc]
    exact updated_of_lt image m hob (show 17 + i.val < 304 by omega)
  have hbmcStatus : wordOf (updated image hob m) (instanceOf hob + 272) =
      wordOf m (instanceOf hob + 272) := by
    refine wordOf_congr fun i hi => ?_
    rw [Nat.add_assoc]
    exact updated_of_lt image m hob (show 272 + i < 304 by omega)
  simp only [instanceAt, relocate, longOf_updated_submit, longOf_updated_status, hbmcStatus,
    htempData, IpmiBmcInstanceData.mk.injEq, IpmiTransport.mk.injEq, true_and, and_true]
  refine ⟨hsignature, ?_, ?_, ?_, ?_, ?_⟩
  · exact longOf_updated_of_le image m hob (by decide)
  · exact updated_of_lt image m hob (by decide)
  · exact longOf_updated_of_le image m hob (by decide)
  · exact updated_of_lt image m hob (by decide)
  · exact longOf_updated_of_le image m hob (by decide)

/-! ### Refinement -/

/-- The instance whose PPI an access reinstalls, as it is in memory then. -/
def reInstalledOf (m : Memory UInt8) : Access → Option IpmiBmcInstanceData
  | .reInstall newPpi => some (instanceAt m (newPpi - sizeofInstance))
  | .store _ => none

/-- The instances that a run reinstalls. -/
def reInstalled (m : Memory UInt8) (tr : List ShadowEvent) : List IpmiBmcInstanceData :=
  (accesses tr).filterMap (reInstalledOf m)

theorem Searched.reInstalled_eq {found : Option (ℕ × Hob)} {s : Memory UInt8 × List ShadowEvent}
    (h : Searched image list found s) : reInstalled s.1 s.2 =
      (found.map fun x => relocate image (instanceAt list.memory (instanceOf x.1))).toList := by
  rw [reInstalled, h.accesses_eq, h.memory_eq]
  cases found with
  | none => rfl
  | some x =>
    change [instanceAt (updated image x.1 list.memory) _] = [_]
    rw [Nat.add_sub_cancel, instanceAt_updated]

/-- The services answer `reInstallPpi` what they answer over the memory. -/
def AnswersAs (pei : PeiServices) (list : HobList) : DriverEvent → Prop
  | ⟨.locatePpi, status⟩ => status = pei.locatePpi.1
  | ⟨.getHobList, hobs⟩ => hobs = list.poolHobs
  | _ => True

/-- **The PEIM in its shadow reinstalls what `reInstallPpi` says.** -/
theorem peimIpmiInterfaceInitShadowed_refines {fuel : ℕ} {status : EfiStatus} {tr : List ShadowEvent}
    {m : Memory UInt8} (hfuel : list.endOfHobList - list.start < fuel)
    (hrun : (peimIpmiInterfaceInitShadowed image fuel).exec (pei.handler list) list.memory =
      some (status, tr, m)) :
    (reInstallPpi image).Satisfies False fun tr' status' => (∀ event ∈ tr', AnswersAs pei list event) →
      status' = status ∧ published tr' = reInstalled m tr := by
  obtain ⟨status', tr', m', hrun', rfl, hsearched⟩ :=
    ends_recording.1 (peimIpmiInterfaceInitShadowed_ends pei image hfuel)
  rw [hrun, Option.some.injEq, Prod.mk.injEq, Prod.mk.injEq] at hrun'
  obtain ⟨rfl, rfl, rfl⟩ := hrun'
  have hreInstalled := hsearched.reInstalled_eq
  rw [List.nil_append] at hreInstalled
  dsimp only at hreInstalled
  rw [hreInstalled, reInstallPpi, satisfies_perform_bind]
  intro status
  split_ifs with hlocate
  · intro hanswers
    have hstatus : status = pei.locatePpi.1 := hanswers _ (.head _)
    rw [hstatus] at hlocate
    rw [PeiServices.found, if_pos hlocate]
    exact ⟨rfl, rfl⟩
  · rw [satisfies_perform_bind]
    intro hobs
    have hfound : status = pei.locatePpi.1 → hobs = list.poolHobs →
        (pei.found list).map (fun x => relocate image (instanceAt list.memory (instanceOf x.1))) =
          (findInstance hobs).map (relocate image) := by
      rintro rfl rfl
      rw [PeiServices.found, if_neg hlocate, findInstance_poolHobs, Option.map_map]
      rfl
    cases h : findInstance hobs with
    | none =>
      intro hanswers
      rw [hfound (hanswers _ (.head _)) (hanswers _ (.tail _ (.head _))), h]
      exact ⟨rfl, rfl⟩
    | some inst =>
      intro status' hanswers
      rw [hfound (hanswers _ (.head _)) (hanswers _ (.tail _ (.head _))), h]
      exact ⟨rfl, rfl⟩

/-- **The PEIM in its shadow** returns, whatever is in the HOB list.  It reinstalls what
`reInstallPpi` says for the instances in the memory pool HOBs, and its status is that of
`reInstallPpi`. -/
theorem peimIpmiInterfaceInitShadowed_reinstalls (image : Image) (pei : PeiServices) (list : HobList)
    {fuel : ℕ} (hfuel : list.endOfHobList - list.start < fuel) :
    ∃ status tr m, (peimIpmiInterfaceInitShadowed image fuel).exec (pei.handler list) list.memory =
      some (status, tr, m) ∧ (reInstallPpi image).Satisfies False fun tr' status' =>
        (∀ event ∈ tr', AnswersAs pei list event) →
          status' = status ∧ published tr' = reInstalled m tr := by
  obtain ⟨status, tr, m, hrun, -⟩ := ends_recording.1
    (peimIpmiInterfaceInitShadowed_ends pei image hfuel)
  exact ⟨status, tr, m, hrun, peimIpmiInterfaceInitShadowed_refines hfuel hrun⟩

theorem peimIpmiInterfaceInitShadowed_reinstalls_signature :
    ∃ status tr m, (peimIpmiInterfaceInitShadowed defaultImage 17).exec
      ((⟨(.success, 0x3000), .success⟩ : PeiServices).handler signatureList) signatureList.memory =
        some (status, tr, m) ∧ (reInstallPpi defaultImage).Satisfies False fun tr' status' =>
          (∀ event ∈ tr', AnswersAs ⟨(.success, 0x3000), .success⟩ signatureList event) →
            status' = status ∧ published tr' = reInstalled m tr := by
  have hfuel : signatureList.endOfHobList - signatureList.start < 17 := by decide
  with_reducible
    exact peimIpmiInterfaceInitShadowed_reinstalls defaultImage ⟨(.success, 0x3000), .success⟩
      signatureList hfuel

end Drivers

end IpmiFeature
