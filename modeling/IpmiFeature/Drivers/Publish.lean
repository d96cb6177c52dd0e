import IpmiFeature.Drivers.Basic
import IpmiFeature.Initialize.Outcome

/-!
# What the drivers publish

A driver should publish its instance only if the BMC can be used.  The drivers of PEI and DXE look
at `BmcStatus` before they do, the two MM drivers only at the status of the bring-up
(`publishesUsable_iff`).  When the PEIM is executed again it publishes the instance it finds, and
that is the one it has published before (`peimIpmiInterfaceInit_twice`).
-/

namespace IpmiFeature

open Interaction Prog Generic Initialize

namespace Drivers

/-! ### What a run shows -/

/-- The instance that an event publishes. -/
def publishedOf : DriverEvent → Option IpmiBmcInstanceData
  | ⟨.install inst, _⟩ => some inst
  | ⟨.reInstallPpi inst, _⟩ => some inst
  | _ => none

/-- The instances that a run publishes. -/
def published (tr : List DriverEvent) : List IpmiBmcInstanceData := tr.filterMap publishedOf

/-- Whatever is published belongs to a BMC that can be used. -/
def PublishesUsable (tr : List DriverEvent) : Prop := ∀ inst ∈ published tr, Usable inst.bmcStatus

/-- The call of `IpmiInitializeBmc` in an event. -/
def initEventOf : DriverEvent → Option InitEvent
  | ⟨.initializeBmc c, r⟩ => some ⟨c, r⟩
  | _ => none

/-- The run of `IpmiInitializeBmc` within a run. -/
def initEvents (tr : List DriverEvent) : List InitEvent := tr.filterMap initEventOf

/-- The `BmcStatus` that an event hands over in the BMC HOB. -/
def handedOverOf : DriverEvent → Option UInt32
  | ⟨.getFirstGuidHob, bmcHob⟩ => bmcHob
  | _ => none

/-- The `BmcStatus` handed over, if there is a BMC HOB. -/
def handedOver (tr : List DriverEvent) : List UInt32 := tr.filterMap handedOverOf

/-- The instance that an event finds in the HOBs. -/
def foundOf : DriverEvent → Option IpmiBmcInstanceData
  | ⟨.getHobList, hobs⟩ => findInstance hobs
  | _ => none

/-- The instance found in the HOBs. -/
def found (tr : List DriverEvent) : List IpmiBmcInstanceData := tr.filterMap foundOf

@[simp] theorem published_append (tr tr' : List DriverEvent) :
    published (tr ++ tr') = published tr ++ published tr' := List.filterMap_append

@[simp] theorem found_append (tr tr' : List DriverEvent) :
    found (tr ++ tr') = found tr ++ found tr' := List.filterMap_append

/-- The `BmcStatus` that is handed over can be used, or the bring-up ends well. -/
def TakesOverUsable (pcds : Pcds) (tr : List DriverEvent) : Prop :=
  (∀ bmcStatus ∈ handedOver tr, Usable bmcStatus) ∧ EndsWell pcds (initEvents tr)

/-! ### The bring-up -/

/-- A run of `IpmiInitializeBmc`, as a part of the run of a driver. -/
def asDriverEvents (tr : List InitEvent) : List DriverEvent :=
  tr.map fun event => ⟨.initializeBmc event.1, event.2⟩

theorem filterMap_asDriverEvents {β : Type} (f : DriverEvent → Option β)
    (hf : ∀ c r, f ⟨.initializeBmc c, r⟩ = none) (tr : List InitEvent) :
    (asDriverEvents tr).filterMap f = [] := by
  rw [asDriverEvents, List.filterMap_map, List.filterMap_eq_nil_iff]
  exact fun event _ => hf event.1 event.2

@[simp] theorem published_asDriverEvents (tr : List InitEvent) :
    published (asDriverEvents tr) = [] := filterMap_asDriverEvents _ (fun _ _ => rfl) tr

@[simp] theorem handedOver_asDriverEvents (tr : List InitEvent) :
    handedOver (asDriverEvents tr) = [] := filterMap_asDriverEvents _ (fun _ _ => rfl) tr

@[simp] theorem found_asDriverEvents (tr : List InitEvent) : found (asDriverEvents tr) = [] :=
  filterMap_asDriverEvents _ (fun _ _ => rfl) tr

@[simp] theorem initEvents_asDriverEvents (tr : List InitEvent) :
    initEvents (asDriverEvents tr) = tr := by
  rw [initEvents, asDriverEvents, List.filterMap_map]
  change List.filterMap some tr = tr
  exact List.filterMap_some

variable {image : Image} {fuel : ℕ}

/-- The bring-up returns, and its last reply decides. -/
theorem initializeBmc_end (hfuel : 2 ^ 32 < fuel) (inst : IpmiBmcInstanceData) :
    (initializeBmc image fuel inst).Satisfies False fun tr x => ∃ tr₀, tr = asDriverEvents tr₀ ∧
      ((x.1 = .success → Usable x.2.bmcStatus) ↔ EndsWell image.pcds tr₀) := by
  refine satisfies_embed.2 ((ipmiInitializeBmc_bounded_iff image.pcds fuel inst hfuel).and
    (ipmiInitializeBmc_endsWell inst) |>.mono fun tr x h => ?_)
  exact ⟨tr, rfl, h.2⟩

/-- A part of a run that neither publishes nor finds anything. -/
def Quiet (tr : List DriverEvent) : Prop := published tr = [] ∧ found tr = []

theorem quiet_asDriverEvents (tr : List InitEvent) : Quiet (asDriverEvents tr) :=
  ⟨published_asDriverEvents tr, found_asDriverEvents tr⟩

theorem Quiet.append {tr tr' : List DriverEvent} (h : Quiet tr) (h' : Quiet tr') :
    Quiet (tr ++ tr') :=
  ⟨by rw [published_append, h.1, h'.1, List.nil_append],
    by rw [found_append, h.2, h'.2, List.nil_append]⟩

theorem endsWell_nil (pcds : Pcds) : EndsWell pcds [] := by
  rintro sent ⟨⟩

theorem takesOverUsable_of_nothing {pcds : Pcds} {tr : List DriverEvent} (hhob : handedOver tr = [])
    (hinit : initEvents tr = []) : TakesOverUsable pcds tr := by
  rw [TakesOverUsable, hhob, hinit]
  exact ⟨fun _ h => absurd h List.not_mem_nil, endsWell_nil pcds⟩

/-- What `takeOver` says about the BMC is right exactly if what it takes over is usable. -/
theorem takeOver_end (hfuel : 2 ^ 32 < fuel) (inst : IpmiBmcInstanceData) :
    (takeOver image fuel inst).Satisfies False fun tr x => Quiet tr ∧
      ((x.1 = .success → Usable x.2.bmcStatus) ↔ TakesOverUsable image.pcds tr) := by
  intro bmcHob
  cases bmcHob with
  | none =>
    refine (initializeBmc_end hfuel inst).mono ?_
    rintro _ x ⟨tr, rfl, hiff⟩
    refine ⟨quiet_asDriverEvents tr, hiff.trans ?_⟩
    change _ ↔ (∀ bmcStatus ∈ handedOver (asDriverEvents tr), Usable bmcStatus) ∧
      EndsWell image.pcds (initEvents (asDriverEvents tr))
    rw [handedOver_asDriverEvents, initEvents_asDriverEvents]
    exact (and_iff_right fun _ h => absurd h List.not_mem_nil).symm
  | some bmcStatus =>
    refine ⟨⟨rfl, rfl⟩, ?_⟩
    change (EfiStatus.success = .success → Usable bmcStatus) ↔
      (∀ s ∈ [bmcStatus], Usable s) ∧ EndsWell image.pcds []
    rw [List.forall_mem_singleton, and_iff_left (endsWell_nil _)]
    exact imp_iff_right rfl

theorem PublishesUsable.of_quiet {tr : List DriverEvent} (h : Quiet tr) : PublishesUsable tr := by
  rw [PublishesUsable, h.1]
  exact fun _ h => absurd h List.not_mem_nil

theorem publishesUsable_append_install {tr : List DriverEvent} (h : Quiet tr)
    (inst : IpmiBmcInstanceData) (status : EfiStatus) :
    PublishesUsable (tr ++ [⟨.install inst, status⟩]) ↔ Usable inst.bmcStatus := by
  rw [PublishesUsable, published_append, h.1]
  exact List.forall_mem_singleton

/-! ### The drivers -/

theorem takesOverUsable_append_install {pcds : Pcds} (tr : List DriverEvent)
    (inst : IpmiBmcInstanceData) (status : EfiStatus) :
    TakesOverUsable pcds (tr ++ [⟨.install inst, status⟩]) ↔ TakesOverUsable pcds tr := by
  have hhob : handedOver (tr ++ [⟨.install inst, status⟩]) = handedOver tr := by
    rw [handedOver, List.filterMap_append]
    exact List.append_nil _
  have hinit : initEvents (tr ++ [⟨.install inst, status⟩]) = initEvents tr := by
    rw [initEvents, List.filterMap_append]
    exact List.append_nil _
  rw [TakesOverUsable, hhob, hinit]
  rfl

/-- The MM drivers publish whatever they have taken over. -/
theorem initializeMmGenericIpmi_publishes (result : EfiStatus → EfiStatus) (hfuel : 2 ^ 32 < fuel) :
    (initializeMmGenericIpmi result image fuel).Satisfies False fun tr _ =>
      PublishesUsable tr ↔ TakesOverUsable image.pcds tr := by
  rw [initializeMmGenericIpmi, satisfies_perform_bind]
  intro allocated
  cases allocated with
  | false => exact iff_of_true (.of_quiet ⟨rfl, rfl⟩) (takesOverUsable_of_nothing rfl rfl)
  | true =>
    refine satisfies_bind.2 ((takeOver_end hfuel _).mono ?_)
    rintro tr ⟨status, inst⟩ ⟨hquiet, hiff⟩
    dsimp only at hiff ⊢
    split_ifs with hstatus
    · rw [EfiStatus.isError_iff] at hstatus
      have husable : TakesOverUsable image.pcds tr := hiff.1 fun hsuccess => absurd hsuccess hstatus
      rw [pure_eq_ret, satisfies_ret, List.append_nil]
      exact iff_of_true (.of_quiet hquiet) husable
    · rw [EfiStatus.isError_iff, not_not] at hstatus
      intro status'
      calc PublishesUsable (tr ++ [⟨.install inst, status'⟩])
        _ ↔ Usable inst.bmcStatus := publishesUsable_append_install hquiet inst status'
        _ ↔ TakesOverUsable image.pcds tr := (imp_iff_right hstatus).symm.trans hiff
        _ ↔ TakesOverUsable image.pcds (tr ++ [⟨.install inst, status'⟩]) :=
          (takesOverUsable_append_install tr inst status').symm

theorem dxeGenericIpmiEntry_publishes (hfuel : 2 ^ 32 < fuel) :
    (dxeGenericIpmiEntry image fuel).Satisfies False fun tr _ => PublishesUsable tr := by
  rw [dxeGenericIpmiEntry, satisfies_perform_bind]
  intro allocated
  cases allocated with
  | false => exact PublishesUsable.of_quiet ⟨rfl, rfl⟩
  | true =>
    rw [if_neg (not_not.2 rfl), satisfies_perform_bind]
    intro status
    split_ifs
    · exact PublishesUsable.of_quiet ⟨rfl, rfl⟩
    refine satisfies_bind.2 ((takeOver_end hfuel _).mono ?_)
    rintro tr ⟨status', inst⟩ ⟨hquiet, -⟩
    have hnothing : PublishesUsable (tr ++ []) := by
      rw [List.append_nil]
      exact .of_quiet hquiet
    dsimp only
    split_ifs with hstatus hbmc
    · exact hnothing
    · exact fun status'' => (publishesUsable_append_install hquiet inst status'').2 hbmc
    · exact hnothing

/-- The first execution of the PEIM looks at the BMC before it publishes. -/
theorem installPpi_publishes (hfuel : 2 ^ 32 < fuel) :
    (installPpi image fuel).Satisfies False fun tr _ => PublishesUsable tr ∧ found tr = [] := by
  have hquiet : ∀ tr, Quiet tr → PublishesUsable tr ∧ found tr = [] :=
    fun tr h => ⟨.of_quiet h, h.2⟩
  rw [installPpi, satisfies_perform_bind]
  intro allocated
  cases allocated with
  | false => exact hquiet _ ⟨rfl, rfl⟩
  | true =>
    rw [if_neg (not_not.2 rfl), satisfies_perform_bind]
    intro status
    split_ifs
    · exact hquiet _ ⟨rfl, rfl⟩
    refine satisfies_bind.2 ((initializeBmc_end hfuel _).mono ?_)
    rintro _ ⟨status', inst⟩ ⟨tr, rfl, -⟩
    dsimp only
    rw [satisfies_perform_bind]
    intro built
    have hbuilt : Quiet (asDriverEvents tr ++ [⟨.buildGuidHob inst.bmcStatus, built⟩]) :=
      (quiet_asDriverEvents tr).append ⟨rfl, rfl⟩
    cases built with
    | false => exact hquiet _ hbuilt
    | true =>
      rw [if_neg (not_not.2 rfl)]
      split_ifs with hbmc
      · exact hquiet _ hbuilt
      · intro status''
        have husable : Usable inst.bmcStatus := ⟨fun h => hbmc (.inr h), fun h => hbmc (.inl h)⟩
        have hinstalled := publishesUsable_append_install hbuilt inst status''
        rw [List.append_assoc] at hinstalled
        refine ⟨hinstalled.2 husable, ?_⟩
        change found (asDriverEvents tr ++ _) = []
        rw [found_append, found_asDriverEvents]
        rfl

/-- A later execution publishes what it finds. -/
theorem reInstallPpi_published :
    (reInstallPpi image).Satisfies False fun tr _ =>
      published tr = (found tr).map (relocate image) := by
  rw [reInstallPpi, satisfies_perform_bind]
  intro status
  split_ifs
  · rfl
  rw [satisfies_perform_bind]
  intro hobs
  have hfound : ∀ tr, found (⟨.locatePpi, status⟩ :: ⟨.getHobList, hobs⟩ :: tr) =
      (findInstance hobs).toList ++ found tr := by
    intro tr
    change (⟨.getHobList, hobs⟩ :: tr).filterMap foundOf = _
    cases h : findInstance hobs with
    | none => exact List.filterMap_cons_none (f := foundOf) h
    | some inst => exact List.filterMap_cons_some (f := foundOf) h
  cases h : findInstance hobs with
  | none =>
    change [] = (found _).map _
    rw [hfound, h]
    rfl
  | some inst =>
    intro status'
    change [relocate image inst] = (found _).map _
    rw [hfound, h]
    rfl

/-- The PEIM publishes an instance that it has found, or one that can be used. -/
theorem peimIpmiInterfaceInit_publishes (hfuel : 2 ^ 32 < fuel) :
    (peimIpmiInterfaceInit image fuel).Satisfies False fun tr _ =>
      PublishesUsable tr ↔ ∀ inst ∈ found tr, Usable inst.bmcStatus := by
  rw [peimIpmiInterfaceInit, satisfies_perform_bind]
  intro status
  split_ifs with hstatus hshadowed
  · refine reInstallPpi_published.mono fun tr _ htr => ?_
    have hpublished : PublishesUsable (⟨.registerForShadow, status⟩ :: tr) ↔
        ∀ inst ∈ (found tr).map (relocate image), Usable inst.bmcStatus := by
      rw [← htr]
      rfl
    exact hpublished.trans List.forall_mem_map
  · exact iff_of_true (.of_quiet ⟨rfl, rfl⟩) fun _ h => absurd h List.not_mem_nil
  · refine (installPpi_publishes hfuel).mono fun tr _ h => ?_
    have hnone : found (⟨.registerForShadow, status⟩ :: tr) = [] := h.2
    rw [hnone]
    exact iff_of_true h.1 fun _ h => absurd h List.not_mem_nil

/-- **Which drivers publish only a usable BMC.**  The DXE driver always does, and the PEIM when it
is executed for the first time; what it finds when it is executed again it publishes.  The MM
drivers do if and only if the BMC that they have taken over is usable. -/
theorem publishesUsable_iff (image : Image) (fuel : ℕ) (hfuel : 2 ^ 32 < fuel) :
    ((peimIpmiInterfaceInit image fuel).Satisfies False fun tr _ =>
      PublishesUsable tr ↔ ∀ inst ∈ found tr, Usable inst.bmcStatus) ∧
    ((dxeGenericIpmiEntry image fuel).Satisfies False fun tr _ => PublishesUsable tr) ∧
    ((initializeSmmGenericIpmi image fuel).Satisfies False fun tr _ =>
      PublishesUsable tr ↔ TakesOverUsable image.pcds tr) ∧
    ((initializeStandaloneMmGenericIpmi image fuel).Satisfies False fun tr _ =>
      PublishesUsable tr ↔ TakesOverUsable image.pcds tr) :=
  ⟨peimIpmiInterfaceInit_publishes hfuel, dxeGenericIpmiEntry_publishes hfuel,
    initializeMmGenericIpmi_publishes _ hfuel, initializeMmGenericIpmi_publishes _ hfuel⟩

/-- An image with the default PCDs. -/
def defaultImage : Image := ⟨5, ⟨120, 30, false⟩, 0x1000, 0x2000⟩

theorem publishesUsable_iff_defaultImage :
    ((peimIpmiInterfaceInit defaultImage (2 ^ 32 + 1)).Satisfies False fun tr _ =>
      PublishesUsable tr ↔ ∀ inst ∈ found tr, Usable inst.bmcStatus) ∧
    ((dxeGenericIpmiEntry defaultImage (2 ^ 32 + 1)).Satisfies False fun tr _ =>
      PublishesUsable tr) ∧
    ((initializeSmmGenericIpmi defaultImage (2 ^ 32 + 1)).Satisfies False fun tr _ =>
      PublishesUsable tr ↔ TakesOverUsable defaultImage.pcds tr) ∧
    ((initializeStandaloneMmGenericIpmi defaultImage (2 ^ 32 + 1)).Satisfies False fun tr _ =>
      PublishesUsable tr ↔ TakesOverUsable defaultImage.pcds tr) :=
  publishesUsable_iff defaultImage _ (Nat.lt_succ_self _)

/-- With a BMC HOB that says that the BMC has failed, the MM drivers publish their protocol. -/
theorem initializeMm_publishes_failed :
    ¬ ((initializeSmmGenericIpmi defaultImage (2 ^ 32 + 1)).Satisfies False fun tr _ =>
      PublishesUsable tr) ∧
    ¬ (initializeStandaloneMmGenericIpmi defaultImage (2 ^ 32 + 1)).Satisfies False fun tr _ =>
      PublishesUsable tr := by
  have hfailed : ¬ PublishesUsable [⟨.allocateZeroPool, true⟩,
      ⟨.getFirstGuidHob, some bmcHardfail⟩,
      ⟨.install { prepareInstance defaultImage with bmcStatus := bmcHardfail }, .success⟩] :=
    fun h => not_usable_bmcHardfail (h _ (List.mem_singleton_self _))
  exact ⟨fun h => hfailed (h true (some bmcHardfail) .success),
    fun h => hfailed (h true (some bmcHardfail) .success)⟩

/-- The PEIM is executed, and then once more from its shadow.  If that finds an instance that the
first execution has published, a usable BMC is published throughout. -/
theorem peimIpmiInterfaceInit_twice (shadow : Image) (hfuel : 2 ^ 32 < fuel) :
    (peimIpmiInterfaceInit image fuel).Satisfies False fun tr _ => found tr = [] →
      (peimIpmiInterfaceInit shadow fuel).Satisfies False fun tr' _ =>
        (∀ inst ∈ found tr', ∃ inst' ∈ published tr, inst'.bmcStatus = inst.bmcStatus) →
          PublishesUsable (tr ++ tr') := by
  refine (peimIpmiInterfaceInit_publishes hfuel).mono fun tr _ hfirst hnone => ?_
  refine (peimIpmiInterfaceInit_publishes hfuel).mono fun tr' _ hsecond hfound => ?_
  have husable : PublishesUsable tr := hfirst.2 (by simp [hnone])
  have husable' : PublishesUsable tr' := by
    refine hsecond.2 fun inst hinst => ?_
    obtain ⟨inst', hinst', hstatus⟩ := hfound inst hinst
    rw [← hstatus]
    exact husable inst' hinst'
  rw [PublishesUsable, published_append]
  exact List.forall_mem_append.2 ⟨husable, husable'⟩

end Drivers

end IpmiFeature
