import IpmiFeature.BootOption.Order

/-!
# Repeated calls

The same function of the boot options, called any number of times over the mock BMC.  A call is one
step on the whole state of the BMC, and the first one reaches a state that the others leave as it
is.

* `ipmiGetBootDevice_repeated` : an override that is not persistent is given once.
* `ipmiGetCmosClearOption_repeated` : a CMOS clear is given once, and no other bit changes.
-/

namespace IpmiFeature

open Interaction Prog Mock

namespace BootOption

variable {s : Option Bmc} {state : BmcState} {flags : BootFlags}

/-! ### The boot device -/

/-- A second call finds nothing to write. -/
theorem afterBootDevice_afterBootDevice (flags : BootFlags) :
    flags.afterBootDevice.afterBootDevice = flags.afterBootDevice := by
  by_cases honce : flags.bootFlagValid ∧ ¬ flags.persistentOptions
  · rw [afterBootDevice_of_once honce.1 honce.2]
    exact afterBootDevice_of_kept fun hvalid => absurd hvalid (by decide)
  · have hkept : flags.bootFlagValid → flags.persistentOptions := fun hvalid =>
      not_not.1 fun hpersistent => honce ⟨hvalid, hpersistent⟩
    rw [afterBootDevice_of_kept hkept, afterBootDevice_of_kept hkept]

/-- What a call of `IpmiGetBootDevice` does, whatever `*Selector` is before it. -/
def bootDeviceStep (_ : BootOptionSelector) : StateM BmcState (EfiStatus × BootOptionSelector) :=
  fun state => ((.success, state.bootFlags.requestedDevice),
    acknowledged { state with bootFlags := state.bootFlags.afterBootDevice })

theorem acknowledged_acknowledged (state : BmcState) :
    acknowledged (acknowledged state) = acknowledged state := by
  have hacks : state.bootOptionAcks &&& ~~~ bootOptionHandledByBios &&& ~~~ bootOptionHandledByBios =
      state.bootOptionAcks &&& ~~~ bootOptionHandledByBios := by
    rw [UInt8.and_assoc, UInt8.and_self]
  exact congrArg (fun acks => { state with bootOptionAcks := acks }) hacks

/-- Writing back what the flags call for. -/
theorem rests_writeBack (h : Rests s state) (written : Option BootFlags) :
    Rests (writeBack mockBaseLib s written)
      { state with bootFlags := written.getD state.bootFlags } := by
  cases written with
  | none => exact h
  | some flags =>
    obtain ⟨s', hset, h'⟩ := rests_setFlags h flags
    rw [writeBack, hset]
    exact h'

/-- A call over the mock BMC is a step. -/
theorem ends_bootDeviceStep (selector : BootOptionSelector) (s : Option Bmc) (state : BmcState)
    (h : Rests s state) : (ipmiGetBootDevice selector).Ends mockBaseLib s fun x s' =>
      x = (bootDeviceStep selector state).1 ∧ Rests s' (bootDeviceStep selector state).2 := by
  obtain ⟨s₁, hprogress, h₁⟩ := rests_getSetInProgress h
  obtain ⟨s₂, hflags, h₂⟩ := rests_getBootFlags h₁
  obtain ⟨s₃, hacknowledge, h₃⟩ :=
    rests_acknowledge (rests_writeBack h₂ state.bootFlags.writtenByBootDevice)
  rw [ends_ipmiGetBootDevice hprogress hflags, hacknowledge]
  exact ⟨rfl, h₃⟩

/-- What calls of `IpmiGetBootDevice` have given, and the state they leave. -/
structure OverrideGiven (state : BmcState) (later : ℕ)
    (results : List (EfiStatus × BootOptionSelector)) (state' : BmcState) : Prop where
  /-- A persistent override is given every time. -/
  persistent : state.bootFlags.bootFlagValid → state.bootFlags.persistentOptions →
    results = List.replicate (later + 1) (.success, state.bootFlags.bootDeviceSelector) ∧
      state'.bootFlags = state.bootFlags
  /-- Another one is given once, and the flags are cleared. -/
  once : state.bootFlags.bootFlagValid → ¬ state.bootFlags.persistentOptions →
    results = (.success, state.bootFlags.bootDeviceSelector) ::
        List.replicate later (.success, .bootNone) ∧
      state'.bootFlags = .zero
  /-- Without valid flags there is none. -/
  invalid : ¬ state.bootFlags.bootFlagValid →
    results = List.replicate (later + 1) (.success, .bootNone) ∧ state'.bootFlags = state.bootFlags
  /-- Besides the flags, the bits for "handled by BIOS" are cleared, and nothing else changes. -/
  frame : state' = { state with
    bootFlags := state'.bootFlags
    bootOptionAcks := state.bootOptionAcks &&& ~~~ bootOptionHandledByBios }

/-- The first call leaves the state in which it stays. -/
theorem run_bootDeviceSteps (selector : BootOptionSelector) (selectors : List BootOptionSelector)
    (state : BmcState) : (selector :: selectors).mapM bootDeviceStep state =
      ((.success, state.bootFlags.requestedDevice) :: List.replicate selectors.length
          (.success, state.bootFlags.afterBootDevice.requestedDevice),
        acknowledged { state with bootFlags := state.bootFlags.afterBootDevice }) := by
  have hfixed : ∀ selector', bootDeviceStep selector' (bootDeviceStep selector state).2 =
      ((.success, state.bootFlags.afterBootDevice.requestedDevice),
        (bootDeviceStep selector state).2) := by
    intro selector'
    refine Prod.ext rfl ?_
    change acknowledged { acknowledged { state with bootFlags := _ } with
      bootFlags := state.bootFlags.afterBootDevice.afterBootDevice } = _
    rw [afterBootDevice_afterBootDevice]
    exact acknowledged_acknowledged
      { state with bootFlags := state.bootFlags.afterBootDevice }
  rw [run_mapM_cons, run_mapM_of_fixed hfixed]
  rfl

theorem overrideGiven (selector : BootOptionSelector) (selectors : List BootOptionSelector)
    (state : BmcState) : OverrideGiven state selectors.length
      ((selector :: selectors).mapM bootDeviceStep state).1
      ((selector :: selectors).mapM bootDeviceStep state).2 := by
  rw [run_bootDeviceSteps]
  refine ⟨fun hvalid hpersistent => ?_, fun hvalid hpersistent => ?_, fun hvalid => ?_, rfl⟩
  · have hkept : state.bootFlags.afterBootDevice = state.bootFlags :=
      afterBootDevice_of_kept fun _ => hpersistent
    refine ⟨?_, hkept⟩
    rw [hkept, BootFlags.requestedDevice, if_pos hvalid]
    rfl
  · have hcleared := afterBootDevice_of_once hvalid hpersistent
    refine ⟨?_, hcleared⟩
    rw [hcleared, BootFlags.requestedDevice, if_pos hvalid]
    rfl
  · have hkept : state.bootFlags.afterBootDevice = state.bootFlags :=
      afterBootDevice_of_kept fun h => absurd h hvalid
    refine ⟨?_, hkept⟩
    rw [hkept, BootFlags.requestedDevice, if_neg hvalid]
    rfl

/-- **The boot device, any number of times.**  All calls succeed, and what they give depends on the
flags that are stored before the first one. -/
theorem ipmiGetBootDevice_repeated {bmc : Bmc} (hidle : bmc.Idle) (selector : BootOptionSelector)
    (selectors : List BootOptionSelector) :
    ((selector :: selectors).mapM ipmiGetBootDevice).Ends mockBaseLib (some bmc) fun results s =>
      ∃ bmc' : Bmc, s = some bmc' ∧
        OverrideGiven bmc.state selectors.length results bmc'.state := by
  have hrests : Rests (some bmc) bmc.state := ⟨bmc, rfl, hidle, rfl⟩
  refine (ends_mapM_of_simulation ends_bootDeviceStep (selector :: selectors) hrests).mono ?_
  rintro results s ⟨rfl, bmc', rfl, -, hstate⟩
  refine ⟨bmc', rfl, ?_⟩
  rw [hstate]
  exact overrideGiven selector selectors bmc.state

theorem ipmiGetBootDevice_repeated_pxe :
    ([.boot4, .bootNone, .bootCd].mapM ipmiGetBootDevice).Ends mockBaseLib
      (some (bmcWith pxeAndClear)) fun results s => ∃ bmc' : Bmc, s = some bmc' ∧
        OverrideGiven (bmcWith pxeAndClear).state 2 results bmc'.state :=
  ipmiGetBootDevice_repeated ⟨rfl⟩ .boot4 [.bootNone, .bootCd]

/-! ### The CMOS clear -/

/-- What a call of `IpmiGetCmosClearOption` does. -/
def cmosClearStep (_ : Unit) : StateM BmcState (EfiStatus × Bool) := fun state =>
  ((.success, state.bootFlags.requestedClear),
    { state with bootFlags := state.bootFlags.afterCmosClear })

/-- A call over the mock BMC is a step. -/
theorem ends_cmosClearStep (call : Unit) (s : Option Bmc) (state : BmcState) (h : Rests s state) :
    ipmiGetCmosClearOption.Ends mockBaseLib s fun x s' =>
      x = (cmosClearStep call state).1 ∧ Rests s' (cmosClearStep call state).2 := by
  obtain ⟨s₁, hprogress, h₁⟩ := rests_getSetInProgress h
  obtain ⟨s₂, hflags, h₂⟩ := rests_getBootFlags h₁
  rw [ends_ipmiGetCmosClearOption hprogress hflags]
  exact ⟨rfl, rests_writeBack h₂ _⟩

/-- The first call leaves the state in which it stays. -/
theorem run_cmosClearSteps (later : ℕ) (state : BmcState) :
    (List.replicate (later + 1) ()).mapM cmosClearStep state =
      ((.success, state.bootFlags.requestedClear) :: List.replicate later (.success, false),
        { state with bootFlags := state.bootFlags.afterCmosClear }) := by
  have hgone := requestedClear_afterCmosClear state.bootFlags
  have hfixed : ∀ call, cmosClearStep call (cmosClearStep () state).2 =
      ((.success, false), (cmosClearStep () state).2) := by
    intro call
    have hnone : ¬ state.bootFlags.afterCmosClear.requestedClear := by
      rw [hgone]
      decide
    have hkept := afterCmosClear_of_not_requested hnone
    refine Prod.ext (congrArg (Prod.mk EfiStatus.success) hgone) ?_
    exact congrArg (fun flags => { state with bootFlags := flags }) hkept
  rw [List.replicate_succ, run_mapM_cons, run_mapM_of_fixed hfixed, List.length_replicate]
  rfl

/-- **The CMOS clear, any number of times.**  The first call gives what the flags ask for and clears
that one bit if they do; all later ones give `FALSE`, and nothing else of the BMC changes. -/
theorem ipmiGetCmosClearOption_repeated {bmc : Bmc} (hidle : bmc.Idle) (later : ℕ) :
    ((List.replicate (later + 1) ()).mapM fun _ => ipmiGetCmosClearOption).Ends mockBaseLib
      (some bmc) fun results s => ∃ bmc' : Bmc, s = some bmc' ∧
        results = (.success, bmc.state.bootFlags.bootFlagValid && bmc.state.bootFlags.cmosClear) ::
          List.replicate later (.success, false) ∧
        bmc'.state =
          if bmc.state.bootFlags.bootFlagValid && bmc.state.bootFlags.cmosClear then
            { bmc.state with bootFlags := bmc.state.bootFlags.clearCmos }
          else
            bmc.state := by
  have hrests : Rests (some bmc) bmc.state := ⟨bmc, rfl, hidle, rfl⟩
  refine (ends_mapM_of_simulation ends_cmosClearStep (List.replicate (later + 1) ()) hrests).mono ?_
  rintro results s ⟨rfl, bmc', rfl, -, hstate⟩
  rw [run_cmosClearSteps] at hstate ⊢
  refine ⟨bmc', rfl, rfl, hstate.trans ?_⟩
  change { bmc.state with bootFlags := bmc.state.bootFlags.afterCmosClear } =
    if bmc.state.bootFlags.requestedClear then _ else _
  by_cases hrequested : bmc.state.bootFlags.requestedClear
  · rw [if_pos hrequested, afterCmosClear_of_requested hrequested]
  · rw [if_neg hrequested, afterCmosClear_of_not_requested hrequested]

theorem ipmiGetCmosClearOption_repeated_pxeAndClear :
    ([(), (), ()].mapM fun _ => ipmiGetCmosClearOption).Ends mockBaseLib
      (some (bmcWith pxeAndClear)) fun results s => ∃ bmc' : Bmc, s = some bmc' ∧
        results = [(.success, true), (.success, false), (.success, false)] ∧
        bmc'.state = { (bmcWith pxeAndClear).state with bootFlags := ⟨0x80, 0x04, 0, 0, 0⟩ } :=
  ipmiGetCmosClearOption_repeated ⟨rfl⟩ 2

end BootOption

end IpmiFeature
