import IpmiFeature.BaseLib.Stack
import IpmiFeature.Drivers.Basic
import IpmiFeature.Initialize.Commands

/-!
# A cold start

The two phases on one machine: the PEIM brings the BMC up over the registers of the transport and
leaves `BmcStatus` in a HOB, and the DXE driver publishes an instance with it and sends nothing.  What
the phases hand over is what a program over `IpmiBaseLibDxe` assumes: it does what the BMC does with its
calls, from the state in which the PEIM has left the BMC (`coldStart_executes`).
-/

namespace IpmiFeature

open Interaction Prog Generic Initialize BaseLib

namespace Drivers

/-! ### The machine -/

/-- What the phases share, and what the running one has published. -/
structure Machine (τ : Type) where
  /-- The registers of the transport, with the BMC. -/
  registers : τ
  /-- `BmcStatus` in the BMC HOB. -/
  bmcHob : Option UInt32
  instances : List IpmiBmcInstanceData

variable {D τ σ : Type} {S : D → Type}

/-- The machine in the next phase. -/
def Machine.nextPhase (m : Machine τ) : Machine τ := { m with instances := [] }

/-- The services of a phase that has memory, and in which the PEIM is executed for the first time. -/
def services (h : Handler D S τ) (transport : (call : TransportCall) → Prog D S call.Answer)
    (maxRetries : UInt8) (uninit : Uninitialized) :
    (call : DriverCall) → Machine τ → Option (call.Answer × Machine τ)
  | .registerForShadow, m => some (.success, m)
  | .allocateZeroPool, m => some (true, m)
  | .initializeIpmiTransportHardware, m => some (.success, m)
  | .initializeBmc initCall, m => do
    let (answer, registers) ← bringUp h transport maxRetries uninit initCall m.registers
    return (answer, { m with registers })
  | .buildGuidHob bmcStatus, m => some (true, { m with bmcHob := some bmcStatus })
  | .getFirstGuidHob, m => some (m.bmcHob, m)
  | .install inst, m => some (.success, { m with instances := m.instances ++ [inst] })
  | .locatePpi, _ | .getHobList, _ | .reInstallPpi _, _ => none

variable {process : Processor σ} {h : Handler D S τ}
  {transport : (call : TransportCall) → Prog D S call.Answer} {maxRetries : UInt8}
  {uninit : Uninitialized} {period : UInt64} {Rel : Link σ → τ → Prop} {x x' : σ} {m : Machine τ}
  {image : Image} {fuel : ℕ}

/-- The rest of the machine stays as it is while the BMC is initialized. -/
theorem completes_initializeBmc {inst : IpmiBmcInstanceData}
    {Q : EfiStatus × IpmiBmcInstanceData → τ → Prop}
    (hinit : (ipmiInitializeBmc image.pcds fuel inst).Completes
      (bringUp h transport maxRetries uninit) m.registers Q) :
    (initializeBmc image fuel inst).Completes (services h transport maxRetries uninit) m
      fun r m' => Q r m'.registers ∧ m' = { m with registers := m'.registers } := by
  refine completes_embed.2 ((hinit.transfer
    (fun registers m' => m' = { m with registers }) ?_ rfl).mono ?_)
  · rintro call registers _ answer registers' rfl hcall
    exact ⟨_, by simp only [services, hcall]; rfl, rfl⟩
  · rintro r _ ⟨registers, hQ, rfl⟩
    exact ⟨hQ, rfl⟩

/-! ### The phases -/

/-- The PEIM leaves the BMC initialized and its status in the HOB. -/
theorem peimIpmiInterfaceInit_ready (himpl : Implements process h transport period Rel)
    (hretries : maxRetries ≠ 0) (hfuel : 0 < fuel)
    (hperiod : (prepareInstance image).ipmiTimeoutPeriod = period)
    (hready : Ready image.pcds process x x') (ht : Rel ⟨x, none⟩ m.registers) :
    (peimIpmiInterfaceInit image fuel).Completes (services h transport maxRetries uninit) m
      fun status m' => status = .success ∧ m'.bmcHob = some bmcOk ∧ Rel ⟨x', none⟩ m'.registers ∧
        ∃ inst, m'.instances = m.instances ++ [inst] ∧ inst.bmcStatus = bmcOk ∧
          inst.ipmiTimeoutPeriod = period := by
  refine completes_perform_bind.2 ⟨.success, m, rfl, ?_⟩
  rw [if_pos (by simp)]
  refine completes_perform_bind.2 ⟨true, m, rfl, ?_⟩
  rw [if_neg (by simp)]
  refine completes_perform_bind.2 ⟨.success, m, rfl, ?_⟩
  rw [if_neg (by simp)]
  refine completes_bind.2 ((completes_initializeBmc
    (ipmiInitializeBmc_ready himpl hretries hfuel hperiod hready ht)).mono ?_)
  rintro ⟨status, inst⟩ m₁ ⟨⟨⟨rfl, hok, hkept⟩, ht₁⟩, hm₁⟩
  dsimp only at hok hkept ⊢
  refine completes_perform_bind.2 ⟨true, _, rfl, ?_⟩
  rw [if_neg (by simp), if_neg (by rw [hok]; decide)]
  refine ⟨.success, _, rfl, rfl, congrArg some hok, ht₁, inst, ?_, hok, hkept.trans hperiod⟩
  dsimp only
  rw [hm₁]

/-- The DXE driver publishes what the PEIM has found, and does not touch the BMC. -/
theorem dxeGenericIpmiEntry_takesOver (hhob : m.bmcHob = some bmcOk) :
    (dxeGenericIpmiEntry image fuel).Completes (services h transport maxRetries uninit) m
      fun status m' => status = .success ∧ m' = { m with
        instances := m.instances ++ [{ prepareInstance image with bmcStatus := bmcOk }] } := by
  refine completes_perform_bind.2 ⟨true, m, rfl, ?_⟩
  rw [if_neg (by simp)]
  refine completes_perform_bind.2 ⟨.success, m, rfl, ?_⟩
  rw [if_neg (by simp)]
  refine ⟨some bmcOk, m, congrArg (fun hob => some (hob, m)) hhob, ?_⟩
  refine ⟨.success, _, rfl, rfl, rfl⟩

/-- **A cold start.**  If the BMC is ready, both phases succeed, and what the DXE phase runs over the
published instance does what the BMC does with its calls: the bring-up has been done once, in PEI,
which hands `BMC_OK` on in the HOB, the DXE entry leaves the registers alone, and no request or
response is left over. -/
theorem coldStart_executes {α : Type} {p : CommandProg α} {Q : α → UInt32 × σ → Prop}
    {peim driver : Image} {fuel' : ℕ} (himpl : Implements process h transport period Rel)
    (hretries : maxRetries ≠ 0) (hfuel : 0 < fuel)
    (hperiod : (prepareInstance peim).ipmiTimeoutPeriod = period)
    (hperiod' : (prepareInstance driver).ipmiTimeoutPeriod = period)
    (hready : Ready peim.pcds process x x') (ht : Rel ⟨x, none⟩ m.registers)
    (hp : p.Completes (executeCall process) (bmcOk, x') Q) :
    (peimIpmiInterfaceInit peim fuel).Completes (services h transport maxRetries uninit) m
      fun status m₁ => status = .success ∧ m₁.bmcHob = some bmcOk ∧
        (dxeGenericIpmiEntry driver fuel').Completes (services h transport maxRetries uninit)
          m₁.nextPhase fun status' m₂ => status' = .success ∧ m₂.registers = m₁.registers ∧
            ∃ inst, m₂.instances = [inst] ∧ inst.bmcStatus = bmcOk ∧
              ((p.through (dxeLibrary maxRetries uninit) ⟨true, inst⟩).above transport).Ends h
                m₂.registers fun a t => ∃ x₂, Q a.1 (a.2.inst.bmcStatus, x₂) ∧ Rel ⟨x₂, none⟩ t := by
  refine (peimIpmiInterfaceInit_ready himpl hretries hfuel hperiod hready ht).mono ?_
  rintro status m₁ ⟨rfl, hhob, ht₁, -⟩
  refine ⟨rfl, hhob, (dxeGenericIpmiEntry_takesOver (show m₁.nextPhase.bmcHob = _ from hhob)).mono ?_⟩
  rintro status' m₂ ⟨rfl, rfl⟩
  exact ⟨rfl, rfl, _, rfl, rfl, dxeLibrary_above himpl hretries hperiod' ht₁ hp⟩

/-- A BMC that counts the requests; to each one it answers that all is well. -/
def contentBmc : Processor ℕ := fun _ n =>
  ([0x1C, 0x01, compCodeNormal, selftestNoError, 0x00, 0x00], n + 1)

/-- A build with the self test, for `promptFirmware`. -/
def testedImage : Image := ⟨2, ⟨120, 30, true⟩, 0x1000, 0x2000⟩

theorem coldStart_executes_twoCommands :
    (peimIpmiInterfaceInit testedImage 1).Completes
      (services (promptFirmware.executing contentBmc) (Kcs.transport 40001 fun _ => 0) 1
        ⟨0, fun _ => 0⟩) ⟨(promptStart, 0), none, []⟩ fun status m₁ => status = .success ∧
          m₁.bmcHob = some bmcOk ∧ (dxeGenericIpmiEntry testedImage 0).Completes
            (services (promptFirmware.executing contentBmc) (Kcs.transport 40001 fun _ => 0) 1
              ⟨0, fun _ => 0⟩) m₁.nextPhase fun status' m₂ => status' = .success ∧
                m₂.registers = m₁.registers ∧ ∃ inst, m₂.instances = [inst] ∧ inst.bmcStatus = bmcOk ∧
                  ((twoCommands.through (dxeLibrary 1 ⟨0, fun _ => 0⟩) ⟨true, inst⟩).above
                    (Kcs.transport 40001 fun _ => 0)).Ends (promptFirmware.executing contentBmc)
                      m₂.registers fun a t => ∃ n, (a.1 = (.success, .success) ∧
                        (a.2.inst.bmcStatus, n) = (bmcOk, 4)) ∧
                          Kcs.Linked promptFirmware contentBmc ⟨n, none⟩ t := by
  have hretries : (1 : UInt8) ≠ 0 := by decide
  have hperiod : (prepareInstance testedImage).ipmiTimeoutPeriod = 40000 := rfl
  have hready : Ready testedImage.pcds contentBmc 0 2 :=
    ⟨[selftestNoError, 0x00, 0x00], 1, ⟨by decide, _, _, rfl⟩, by decide, by decide,
      by decide, selftestNoError, [0x00, 0x00], .inl rfl, by decide, _, _, rfl⟩
  have hprogram : twoCommands.Completes (executeCall contentBmc) (bmcOk, 2) fun a s =>
      a = (.success, .success) ∧ s = (bmcOk, 4) := ⟨_, _, rfl, _, _, rfl, rfl, rfl⟩
  with_reducible
    exact coldStart_executes (promptFirmware_implements contentBmc) hretries Nat.one_pos hperiod
      hperiod hready (promptStart_linked contentBmc 0) hprogram

end Drivers

end IpmiFeature
