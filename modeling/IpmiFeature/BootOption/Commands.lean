import IpmiFeature.BootOption.Basic
import IpmiFeature.Mock.Answers

/-!
# The commands of the boot options

What `IpmiGetBootDevice` and `IpmiGetCmosClearOption` make of proper replies, in any environment,
and how the mock BMC replies to each of their commands.

* `ends_ipmiGetBootDevice`, `ends_ipmiGetCmosClearOption` : the two functions when both of their
  reads succeed.
* `Stores.getSetInProgress`, `Stores.getBootFlags`, `Stores.setFlags`, `Stores.acknowledge` : the
  commands over the mock BMC.
-/

namespace IpmiFeature

open Interaction Prog Mock

namespace BootOption

/-! ### What the flags say -/

namespace BootFlags

/-- The boot device that the flags ask for. -/
def requestedDevice (flags : BootFlags) : BootOptionSelector :=
  if flags.bootFlagValid then flags.bootDeviceSelector else .bootNone

/-- The flags ask for the CMOS to be cleared. -/
def requestedClear (flags : BootFlags) : Bool := flags.bootFlagValid && flags.cmosClear

/-- What `IpmiGetBootDevice` writes back. -/
def writtenByBootDevice (flags : BootFlags) : Option BootFlags :=
  if flags.bootFlagValid ∧ ¬ flags.persistentOptions then some .zero else none

/-- What `IpmiGetCmosClearOption` writes back. -/
def writtenByCmosClear (flags : BootFlags) : Option BootFlags :=
  if flags.requestedClear then some flags.clearCmos else none

/-- The flags that `IpmiGetBootDevice` leaves behind. -/
def afterBootDevice (flags : BootFlags) : BootFlags := flags.writtenByBootDevice.getD flags

/-- The flags that `IpmiGetCmosClearOption` leaves behind. -/
def afterCmosClear (flags : BootFlags) : BootFlags := flags.writtenByCmosClear.getD flags

end BootFlags

section

variable {flags : BootFlags}

theorem afterBootDevice_of_once (hvalid : flags.bootFlagValid)
    (hpersistent : ¬ flags.persistentOptions) : flags.afterBootDevice = .zero := by
  rw [BootFlags.afterBootDevice, BootFlags.writtenByBootDevice, if_pos ⟨hvalid, hpersistent⟩]
  rfl

theorem afterBootDevice_of_kept (h : flags.bootFlagValid → flags.persistentOptions) :
    flags.afterBootDevice = flags := by
  rw [BootFlags.afterBootDevice, BootFlags.writtenByBootDevice, if_neg fun once => once.2 (h once.1)]
  rfl

theorem afterCmosClear_of_requested (h : flags.requestedClear) :
    flags.afterCmosClear = flags.clearCmos := by
  rw [BootFlags.afterCmosClear, BootFlags.writtenByCmosClear, if_pos h]
  rfl

theorem afterCmosClear_of_not_requested (h : ¬ flags.requestedClear) :
    flags.afterCmosClear = flags := by
  rw [BootFlags.afterCmosClear, BootFlags.writtenByCmosClear, if_neg h]
  rfl

/-- `IpmiGetCmosClearOption` leaves no CMOS clear. -/
theorem requestedClear_afterCmosClear (flags : BootFlags) :
    flags.afterCmosClear.requestedClear = false := by
  by_cases hrequested : flags.requestedClear
  · rw [afterCmosClear_of_requested hrequested, BootFlags.requestedClear,
      BootFlags.cmosClear_clearCmos, Bool.and_false]
  · rw [afterCmosClear_of_not_requested hrequested]
    exact Bool.not_eq_true _ ▸ hrequested

end

/-! ### Replies -/

/-- No set is in progress. -/
def progressReply : SubmitReply := ⟨.success, [compCodeNormal, 0, parameterSetInProgress, 0], 4⟩

/-- The flags. -/
def flagsReply (flags : BootFlags) : SubmitReply :=
  ⟨.success, [compCodeNormal, 0, parameterBootFlags] ++ flags.bytes, 8⟩

/-- The option has been set. -/
def setReply : SubmitReply := ⟨.success, [compCodeNormal], 1⟩

theorem checkBootOption_progressReply :
    (checkBootOption 4 progressReply).map setInProgressOf = .ok false := rfl

theorem checkBootOption_flagsReply (flags : BootFlags) :
    (checkBootOption 8 (flagsReply flags)).map bootFlagsOf =
      .ok (if flags.bootFlagValid then (flags, true) else (.zero, false)) := by
  have hread : checkBootOption 8 (flagsReply flags) = .ok (flagsReply flags).response := rfl
  have hflags : BootFlags.ofMemory (flagsReply flags).response responseHeaderSize = flags := rfl
  have hparameter : (flagsReply flags).response 2 = parameterBootFlags := rfl
  have hvalid : parameterInvalid (flagsReply flags).response = false := by
    rw [parameterInvalid, hparameter]
    rfl
  rw [hread, Except.map, bootFlagsOf, hflags, hvalid]
  cases hflag : flags.bootFlagValid <;> simp

/-! ### The two functions -/

variable {τ : Type} {h : Handler SubmitCall SubmitCall.Answer τ} {s s₁ s₂ : τ} {flags : BootFlags}
  {selector : BootOptionSelector}

/-- The state after flags have been written back, if they are. -/
def writeBack (h : Handler SubmitCall SubmitCall.Answer τ) (s : τ) : Option BootFlags → τ
  | none => s
  | some flags => (h (setFlagsCall flags) s).2

theorem ends_ipmiCheckSetInProgress {Q : Except EfiStatus Bool → τ → Prop} :
    ipmiCheckSetInProgress.Ends h s Q ↔
      Q ((checkBootOption 4 (h (getCall parameterSetInProgress 4) s).1).map setInProgressOf)
        (h (getCall parameterSetInProgress 4) s).2 := Iff.rfl

theorem ends_ipmiGetBootFlags {Q : Except EfiStatus (BootFlags × Bool) → τ → Prop} :
    ipmiGetBootFlags.Ends h s Q ↔
      Q ((checkBootOption 8 (h (getCall parameterBootFlags 8) s).1).map bootFlagsOf)
        (h (getCall parameterBootFlags 8) s).2 := Iff.rfl

theorem ends_ipmiSetBootFlags_bind {α : Type} {f : EfiStatus → SubmitProg α} {Q : α → τ → Prop} :
    (ipmiSetBootFlags flags >>= f).Ends h s Q ↔
      (f (setBootFlagsStatus (h (setFlagsCall flags) s).1)).Ends h (h (setFlagsCall flags) s).2 Q :=
  Iff.rfl

theorem ends_ipmiAcknowledgeBootOption_bind {α : Type} {f : Unit → SubmitProg α}
    {Q : α → τ → Prop} : (ipmiAcknowledgeBootOption >>= f).Ends h s Q ↔
      (f ()).Ends h (h acknowledgeCall s).2 Q := Iff.rfl

theorem ends_ipmiGetBootDevice {Q : EfiStatus × BootOptionSelector → τ → Prop}
    (hprogress : h (getCall parameterSetInProgress 4) s = (progressReply, s₁))
    (hflags : h (getCall parameterBootFlags 8) s₁ = (flagsReply flags, s₂)) :
    (ipmiGetBootDevice selector).Ends h s Q ↔ Q (.success, flags.requestedDevice)
      (h acknowledgeCall (writeBack h s₂ flags.writtenByBootDevice)).2 := by
  rw [ipmiGetBootDevice, ends_bind, ends_ipmiCheckSetInProgress, hprogress,
    checkBootOption_progressReply]
  dsimp only
  rw [ends_bind, ends_ipmiGetBootFlags, hflags, checkBootOption_flagsReply]
  unfold BootFlags.requestedDevice BootFlags.writtenByBootDevice
  by_cases hvalid : flags.bootFlagValid
  · simp only [hvalid, if_true, true_and]
    by_cases hpersistent : flags.persistentOptions
    · simp only [hpersistent, not_true_eq_false, if_false]
      rw [ends_ipmiAcknowledgeBootOption_bind]
      rfl
    · simp only [hpersistent, Bool.false_eq_true, not_false_eq_true, if_true]
      rw [ends_ipmiSetBootFlags_bind, ends_ipmiAcknowledgeBootOption_bind]
      rfl
  · simp only [hvalid, Bool.false_eq_true, false_and, if_false]
    rw [ends_ipmiAcknowledgeBootOption_bind]
    rfl

theorem ends_ipmiGetCmosClearOption {Q : EfiStatus × Bool → τ → Prop}
    (hprogress : h (getCall parameterSetInProgress 4) s = (progressReply, s₁))
    (hflags : h (getCall parameterBootFlags 8) s₁ = (flagsReply flags, s₂)) :
    ipmiGetCmosClearOption.Ends h s Q ↔
      Q (.success, flags.requestedClear) (writeBack h s₂ flags.writtenByCmosClear) := by
  rw [ipmiGetCmosClearOption, ends_bind, ends_ipmiCheckSetInProgress, hprogress,
    checkBootOption_progressReply]
  dsimp only
  rw [ends_bind, ends_ipmiGetBootFlags, hflags, checkBootOption_flagsReply]
  unfold BootFlags.writtenByCmosClear BootFlags.requestedClear
  by_cases hvalid : flags.bootFlagValid
  · simp only [hvalid, if_true, not_true_eq_false, if_false, Bool.true_and]
    cases hclear : flags.cmosClear
    · rfl
    · rfl
  · simp only [hvalid, Bool.false_and]
    rfl

/-! ### The two functions when a read fails -/

variable {status : EfiStatus}

theorem ends_ipmiGetBootDevice_progressFailed {Q : EfiStatus × BootOptionSelector → τ → Prop}
    (hfailed : checkBootOption 4 (h (getCall parameterSetInProgress 4) s).1 = .error status) :
    (ipmiGetBootDevice selector).Ends h s Q ↔
      Q (status, selector) (h (getCall parameterSetInProgress 4) s).2 := by
  rw [ipmiGetBootDevice, ends_bind, ends_ipmiCheckSetInProgress, hfailed]
  rfl

theorem ends_ipmiGetBootDevice_flagsFailed {Q : EfiStatus × BootOptionSelector → τ → Prop}
    (hprogress : h (getCall parameterSetInProgress 4) s = (progressReply, s₁))
    (hfailed : checkBootOption 8 (h (getCall parameterBootFlags 8) s₁).1 = .error status) :
    (ipmiGetBootDevice selector).Ends h s Q ↔
      Q (status, .bootNone) (h (getCall parameterBootFlags 8) s₁).2 := by
  rw [ipmiGetBootDevice, ends_bind, ends_ipmiCheckSetInProgress, hprogress,
    checkBootOption_progressReply]
  dsimp only
  rw [ends_bind, ends_ipmiGetBootFlags, hfailed]
  rfl

theorem ends_ipmiGetCmosClearOption_progressFailed {Q : EfiStatus × Bool → τ → Prop}
    (hfailed : checkBootOption 4 (h (getCall parameterSetInProgress 4) s).1 = .error status) :
    ipmiGetCmosClearOption.Ends h s Q ↔
      Q (status, false) (h (getCall parameterSetInProgress 4) s).2 := by
  rw [ipmiGetCmosClearOption, ends_bind, ends_ipmiCheckSetInProgress, hfailed]
  rfl

theorem ends_ipmiGetCmosClearOption_flagsFailed {Q : EfiStatus × Bool → τ → Prop}
    (hprogress : h (getCall parameterSetInProgress 4) s = (progressReply, s₁))
    (hfailed : checkBootOption 8 (h (getCall parameterBootFlags 8) s₁).1 = .error status) :
    ipmiGetCmosClearOption.Ends h s Q ↔
      Q (status, false) (h (getCall parameterBootFlags 8) s₁).2 := by
  rw [ipmiGetCmosClearOption, ends_bind, ends_ipmiCheckSetInProgress, hprogress,
    checkBootOption_progressReply]
  dsimp only
  rw [ends_bind, ends_ipmiGetBootFlags, hfailed]
  rfl

/-! ### The mock BMC -/

variable {b : Option Bmc} {state : BmcState}

theorem rests_getSetInProgress (h : Rests b state) : ∃ b',
    mockBaseLib (getCall parameterSetInProgress 4) b = (progressReply, b') ∧ Rests b' state :=
  h.of_handler (by decide) rfl rfl (by decide) (by decide) (by decide) (by decide)

theorem rests_getBootFlags (h : Rests b state) : ∃ b',
    mockBaseLib (getCall parameterBootFlags 8) b = (flagsReply state.bootFlags, b') ∧
      Rests b' state :=
  h.of_handler (by decide) rfl rfl (by decide) (List.cons_ne_nil _ _) (show 8 ≤ 250 by decide)
    (Nat.le_refl 8)

theorem rests_setFlags (h : Rests b state) (flags : BootFlags) : ∃ b',
    mockBaseLib (setFlagsCall flags) b = (setReply, b') ∧
      Rests b' { state with bootFlags := flags } := by
  have hrun : mockIpmiSetSystemBootOptions (setFlagsCall flags).commandData unanswered state =
      some ([compCodeNormal], { state with bootFlags := flags }) := by
    have hbits : parameterBootFlags &&& 0x7F = parameterBootFlags := by decide
    have hselector : requestOf (setFlagsCall flags).commandData 0 &&& 0x7F = parameterBootFlags :=
      hbits
    have hlength : (setFlagsCall flags).commandData.length = 6 := rfl
    unfold mockIpmiSetSystemBootOptions
    simp only [hselector, hlength]
    rfl
  exact h.of_handler (show netfnChassis.toNat < 64 by decide) rfl hrun (show 6 ≤ 253 by decide)
    (by decide) (by decide) (Nat.le_refl 1)

/-- The state after the boot options have been acknowledged. -/
def acknowledged (state : BmcState) : BmcState :=
  { state with bootOptionAcks := state.bootOptionAcks &&& ~~~ bootOptionHandledByBios }

theorem rests_acknowledge (h : Rests b state) : ∃ b',
    mockBaseLib acknowledgeCall b = (setReply, b') ∧ Rests b' (acknowledged state) := by
  have hzero : bootOptionHandledByBios &&& 0 = 0 := by decide
  have hrun : mockIpmiSetSystemBootOptions acknowledgeCall.commandData unanswered state =
      some ([compCodeNormal], acknowledged state) := by
    change some ([compCodeNormal], { state with
      bootOptionAcks := state.bootOptionAcks &&& ~~~ bootOptionHandledByBios |||
        bootOptionHandledByBios &&& 0 }) = _
    rw [hzero, UInt8.or_zero]
    rfl
  exact h.of_handler (by decide) rfl hrun (by decide) (by decide) (by decide) (Nat.le_refl 1)

/-- The mock BMC is idle and stores the flags. -/
def Stores (s : Option Bmc) (flags : BootFlags) : Prop :=
  ∃ bmc, s = some bmc ∧ bmc.Idle ∧ bmc.state.bootFlags = flags

theorem Stores.rests (h : Stores b flags) : ∃ state, Rests b state ∧ state.bootFlags = flags := by
  obtain ⟨bmc, rfl, hidle, hflags⟩ := h
  exact ⟨bmc.state, ⟨bmc, rfl, hidle, rfl⟩, hflags⟩

theorem stores_of_rests (h : Rests b state) : Stores b state.bootFlags := by
  obtain ⟨bmc, rfl, hidle, rfl⟩ := h
  exact ⟨bmc, rfl, hidle, rfl⟩

theorem Stores.getSetInProgress (h : Stores b flags) : ∃ b',
    mockBaseLib (getCall parameterSetInProgress 4) b = (progressReply, b') ∧ Stores b' flags := by
  obtain ⟨state, hrests, rfl⟩ := h.rests
  obtain ⟨b', hanswer, hrests'⟩ := rests_getSetInProgress hrests
  exact ⟨b', hanswer, stores_of_rests hrests'⟩

theorem Stores.getBootFlags (h : Stores b flags) : ∃ b',
    mockBaseLib (getCall parameterBootFlags 8) b = (flagsReply flags, b') ∧ Stores b' flags := by
  obtain ⟨state, hrests, rfl⟩ := h.rests
  obtain ⟨b', hanswer, hrests'⟩ := rests_getBootFlags hrests
  exact ⟨b', hanswer, stores_of_rests hrests'⟩

theorem Stores.setFlags (h : Stores b flags) (flags' : BootFlags) : ∃ b',
    mockBaseLib (setFlagsCall flags') b = (setReply, b') ∧ Stores b' flags' := by
  obtain ⟨state, hrests, -⟩ := h.rests
  obtain ⟨b', hanswer, hrests'⟩ := rests_setFlags hrests flags'
  exact ⟨b', hanswer, stores_of_rests hrests'⟩

theorem Stores.acknowledge (h : Stores b flags) : ∃ b',
    mockBaseLib acknowledgeCall b = (setReply, b') ∧ Stores b' flags := by
  obtain ⟨state, hrests, rfl⟩ := h.rests
  obtain ⟨b', hanswer, hrests'⟩ := rests_acknowledge hrests
  have hstores : Stores b' (acknowledged state).bootFlags := stores_of_rests hrests'
  exact ⟨b', hanswer, hstores⟩

end BootOption

end IpmiFeature
