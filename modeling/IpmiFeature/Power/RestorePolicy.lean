import IpmiFeature.BaseLib.Phases
import IpmiFeature.BaseLib.Stack
import IpmiFeature.Watchdog.Basic

/-!
# The power restore policy

`IpmiPowerRestorePolicy.c`, which brings the power restore policy of the BMC to that of the platform,
over a base library.  A `Chassis` is a BMC that keeps such a policy and may refuse a command.  Whatever
the platform asks for, run after run, the BMC has the policy of the last run that has succeeded and
asked for one (`ipmiPowerRestorePolicyEntry_runs`), over each transport.

What the locals of the entry point hold at first is the parameter `stack`.
-/

namespace IpmiFeature

open Interaction Prog Generic BaseLib CommandLib
open Watchdog (locals)

namespace Power

/-! ### The driver -/

/-- `POWER_RESTORE_POLICY_UNKNOWN`. -/
def powerRestorePolicyUnknown : UInt8 := 0x03

/-- `PowerRestorePolicyNoChange`. -/
def powerRestorePolicyNoChange : UInt32 := 0x03

/-- `CurrentPowerRestorePolicy`, from what `IpmiGetChassisStatus` leaves behind. -/
def currentPowerRestorePolicy (chassisStatus : EfiStatus × Caller) : UInt8 :=
  if chassisStatus.1.isError then
    powerRestorePolicyUnknown
  else
    (chassisStatus.2.response 1 >>> 5) &&& 0x3

/-- The byte of `IPMI_SET_POWER_RESTORE_POLICY_REQUEST`, whose field has three bits. -/
def setPowerRestorePolicyRequest (policyValue : UInt32) : UInt8 := policyValue.toUInt8 &&& 0x07

/-- What the entry point makes of `IpmiSetPowerRestorePolicy`. -/
def checkSetPowerRestorePolicy (set : EfiStatus × Caller) : EfiStatus :=
  if set.1.isError then
    set.1
  else if set.2.response 0 ≠ compCodeNormal then
    .unsupported
  else
    .success

/-- `IpmiPowerRestorePolicyEntry`, with the `PolicyValue` that `GetPolicy` gives. -/
def ipmiPowerRestorePolicyEntry (stack : Memory UInt8) (getPolicy : Except EfiStatus UInt32) :
    CommandProg EfiStatus := do
  let chassisStatus ← ipmiGetChassisStatus perform specSizes (locals stack [])
  match getPolicy with
  | .error status => return status
  | .ok policyValue =>
    if policyValue = (currentPowerRestorePolicy chassisStatus).toUInt32 then
      return .success
    else if policyValue ≠ powerRestorePolicyNoChange then do
      let set ← ipmiSetPowerRestorePolicy perform specSizes
        (locals stack [setPowerRestorePolicyRequest policyValue])
      return checkSetPowerRestorePolicy set
    else
      return .success

/-! ### The BMC -/

variable {σ : Type} {process : Processor σ} {policy : σ → UInt8} {x : σ}

/-- How a BMC with a setting answers a request: with an error code, and then it keeps the setting, or
with a payload that `P` says something about. -/
def Answers {β : Type} (process : Processor σ) (setting : σ → β) (request : List UInt8) (x : σ)
    (P : List UInt8 → σ → Prop) : Prop :=
  ∃ header command code payload x', process request x = (header :: command :: code :: payload, x') ∧
    payload.length ≤ 251 ∧ if code = compCodeNormal then P payload x' else setting x' = setting x

/-- A BMC with a power restore policy.  It reports the policy in the power state, in its bits 5 and 6,
and it can be set to the policies that are below `PowerRestorePolicyNoChange`. -/
structure Chassis (process : Processor σ) (policy : σ → UInt8) : Prop where
  getStatus : ∀ x, Answers process policy [netfnChassis <<< 2, chassisGetStatus] x fun payload x' =>
    1 ≤ payload.length ∧ payload.length ≤ 4 ∧ (payload.getD 0 0 >>> 5) &&& 0x3 = policy x ∧
      policy x' = policy x
  setPolicy : ∀ x (value : UInt8), value < 3 →
    Answers process policy [netfnChassis <<< 2, chassisSetPowerRestorePolicy, value] x
      fun payload x' => payload.length ≤ 1 ∧ policy x' = value

/-- The policy after a run that succeeds. -/
def configured (policyValue : UInt32) (current : UInt8) : UInt8 :=
  if policyValue = powerRestorePolicyNoChange then current else policyValue.toUInt8

/-- The policy after a run. -/
def afterRun (current : UInt8) (run : UInt32 × EfiStatus) : UInt8 :=
  if run.2 = .success then configured run.1 current else current

theorem afterRun_noChange {current : UInt8} {policyValue : UInt32} {status : EfiStatus}
    (h : policyValue = powerRestorePolicyNoChange) :
    afterRun current (policyValue, status) = current := by
  rw [afterRun, configured, if_pos h, ite_self]

theorem afterRun_of_ne {current : UInt8} {policyValue : UInt32} {status : EfiStatus}
    (h : policyValue ≠ powerRestorePolicyNoChange) : afterRun current (policyValue, status) =
      if status = .success then policyValue.toUInt8 else current := by
  rw [afterRun, configured, if_neg h]

/-- The policy after some runs, with their statuses. -/
def settled (current : UInt8) (runs : List (UInt32 × EfiStatus)) : UInt8 := runs.foldl afterRun current

/-! ### One run -/

/-- A command, over the BMC. -/
theorem completes_answers {β : Type} {setting : σ → β} {call : BufferedCall} {bmcStatus : UInt32}
    {P : List UInt8 → σ → Prop} {Q : SubmitResult → UInt32 × σ → Prop}
    (hdata : call.call.commandData.length ≤ 253) (hsize : call.call.responseDataSize.toNat < 256)
    (hanswers : Answers process setting call.request x P)
    (hfits : ∀ payload x', P payload x' → payload.length + 1 ≤ call.call.responseDataSize.toNat)
    (hsuccess : ∀ payload size x', P payload x' →
      Q ⟨.success, call.buffer.store 0 (compCodeNormal :: payload), size⟩ (bmcOk, x'))
    (hrefused : ∀ status size bmcStatus' x', status ≠ .success → setting x' = setting x →
      Q ⟨status, call.buffer, size⟩ (bmcStatus', x')) :
    (perform call : CommandProg SubmitResult).Completes (executeCall process) (bmcStatus, x) Q := by
  obtain ⟨header, echo, code, payload, x', hprocess, hlen, hcode⟩ := hanswers
  by_cases hnormal : code = compCodeNormal
  · rw [if_pos hnormal] at hcode
    subst hnormal
    exact ⟨_, _, executeCall_answered hdata hsize hprocess (hfits payload x' hcode) hlen,
      hsuccess payload _ x' hcode⟩
  · rw [if_neg hnormal] at hcode
    refine ⟨_, _, executeCall_refused hdata hsize hprocess hnormal hlen, hrefused _ _ _ _ ?_ hcode⟩
    dsimp only [refusal]
    split_ifs <;> decide

/-- The policies that can be set fit the field of the request. -/
theorem setPowerRestorePolicyRequest_of_lt {policyValue : UInt32} (hlt : policyValue < 3) :
    setPowerRestorePolicyRequest policyValue = policyValue.toUInt8 ∧ policyValue.toUInt8 < 3 := by
  have hlt' : policyValue.toNat < 3 := UInt32.lt_iff_toNat_lt.1 hlt
  have hcases : policyValue = 0 ∨ policyValue = 1 ∨ policyValue = 2 := by
    simp only [← UInt32.toNat_inj, UInt32.reduceToNat]
    omega
  rcases hcases with rfl | rfl | rfl <;> decide

section

variable (hchassis : Chassis process policy) (stack : Memory UInt8)
include hchassis

theorem getChassisStatus_chassis (bmcStatus : UInt32) (x : σ) :
    (ipmiGetChassisStatus perform specSizes (locals stack []) :
      CommandProg (EfiStatus × Caller)).Completes (executeCall process) (bmcStatus, x)
        fun chassisStatus s => policy s.2 = policy x ∧
          (currentPowerRestorePolicy chassisStatus = policy x ∨
            currentPowerRestorePolicy chassisStatus = powerRestorePolicyUnknown) := by
  refine completes_bind.2 (completes_answers (Nat.zero_le _)
    (show (5 : UInt32).toNat < 256 by decide) (hchassis.getStatus x) ?_ ?_ ?_)
  · rintro payload x' ⟨-, hlen, -⟩
    exact Nat.succ_le_succ hlen
  · rintro payload size x' ⟨hpos, -, hstate, hpolicy⟩
    refine ⟨hpolicy, .inl ?_⟩
    have hread : (stack.store 0 (compCodeNormal :: payload)) (0 + 1) = payload[0] :=
      Memory.store_of_mem (show 1 < (compCodeNormal :: payload).length by simp; omega)
    rw [List.getD_eq_getElem?_getD, List.getElem?_eq_getElem hpos, Option.getD_some, ← hread]
      at hstate
    exact hstate
  · rintro status size bmcStatus' x' hstatus hpolicy
    refine ⟨hpolicy, .inr ?_⟩
    rw [currentPowerRestorePolicy, if_pos (by simpa using hstatus)]

theorem setPowerRestorePolicy_chassis {policyValue : UInt32} (hlt : policyValue < 3)
    (bmcStatus : UInt32) (x : σ) :
    (ipmiSetPowerRestorePolicy perform specSizes
      (locals stack [setPowerRestorePolicyRequest policyValue]) :
        CommandProg (EfiStatus × Caller)).Completes (executeCall process) (bmcStatus, x)
          fun set s => policy s.2 =
            if checkSetPowerRestorePolicy set = .success then policyValue.toUInt8 else policy x := by
  obtain ⟨hrequest, hvalue⟩ := setPowerRestorePolicyRequest_of_lt hlt
  have hdata : (locals stack [policyValue.toUInt8]).requestOf
      (specSizes.size .setPowerRestorePolicyRequest) = [policyValue.toUInt8] :=
    Memory.slice_store_self 0 [policyValue.toUInt8]
  rw [hrequest]
  unfold ipmiSetPowerRestorePolicy
  rw [hdata]
  refine completes_bind.2 (completes_answers (Nat.succ_le_succ (Nat.zero_le _))
    (show (2 : UInt32).toNat < 256 by decide) (hchassis.setPolicy x _ hvalue) ?_ ?_ ?_)
  · rintro payload x' ⟨hlen, -⟩
    exact Nat.succ_le_succ hlen
  · rintro payload size x' ⟨-, hpolicy⟩
    have hcode : (stack.store 0 (compCodeNormal :: payload)) (0 + 0) = compCodeNormal :=
      Memory.store_of_mem (Nat.succ_pos payload.length)
    have hchecked : checkSetPowerRestorePolicy (.success, { locals stack [policyValue.toUInt8] with
        response := stack.store 0 (compCodeNormal :: payload) }) = .success := by
      rw [checkSetPowerRestorePolicy, if_neg (by simp), if_neg (not_not.2 hcode)]
    exact hpolicy.trans (if_pos hchecked).symm
  · rintro status size bmcStatus' x' hstatus hpolicy
    have hchecked : checkSetPowerRestorePolicy (status, locals stack [policyValue.toUInt8]) = status := by
      rw [checkSetPowerRestorePolicy, if_pos (by simpa using hstatus)]
    exact hpolicy.trans (if_neg (by rw [← hchecked] at hstatus; exact hstatus)).symm

/-- One run.  The BMC has the policy of the platform if the run succeeds, and keeps its own if not. -/
theorem ipmiPowerRestorePolicyEntry_chassis {policyValue : UInt32}
    (hvalue : policyValue ≤ powerRestorePolicyNoChange) (bmcStatus : UInt32) (x : σ) :
    (ipmiPowerRestorePolicyEntry stack (.ok policyValue)).Completes (executeCall process)
      (bmcStatus, x) fun status s => policy s.2 = afterRun (policy x) (policyValue, status) := by
  refine completes_bind.2 ((getChassisStatus_chassis hchassis stack bmcStatus x).mono ?_)
  rintro chassisStatus ⟨bmcStatus', x'⟩ ⟨hpolicy, hcurrent⟩
  dsimp only at hpolicy ⊢
  by_cases hsame : policyValue = (currentPowerRestorePolicy chassisStatus).toUInt32
  · rw [if_pos hsame]
    refine hpolicy.trans ?_
    by_cases hchange : policyValue = powerRestorePolicyNoChange
    · exact (afterRun_noChange hchange).symm
    · -- the BMC has told its policy, since the unknown one is that of no change
      rcases hcurrent with hcurrent | hcurrent
      · rw [afterRun_of_ne hchange, if_pos rfl, hsame, hcurrent, UInt8.toUInt8_toUInt32]
      · exact absurd (hsame.trans (congrArg UInt8.toUInt32 hcurrent)) hchange
  · rw [if_neg hsame]
    by_cases hchange : policyValue = powerRestorePolicyNoChange
    · rw [if_neg (not_not.2 hchange)]
      exact hpolicy.trans (afterRun_noChange hchange).symm
    · rw [if_pos hchange]
      have hlt : policyValue < 3 := UInt32.lt_of_le_of_ne hvalue hchange
      refine completes_bind.2 ((setPowerRestorePolicy_chassis hchassis stack hlt bmcStatus' x').mono ?_)
      intro set s hset
      rw [hpolicy] at hset
      exact hset.trans (afterRun_of_ne hchange).symm

/-! ### Any number of runs -/

theorem runs_chassis (values : List UInt32)
    (hvalues : ∀ policyValue ∈ values, policyValue ≤ powerRestorePolicyNoChange) (s : UInt32 × σ) :
    (values.mapM fun policyValue => ipmiPowerRestorePolicyEntry stack (.ok policyValue)).Completes
      (executeCall process) s fun statuses s' => statuses.length = values.length ∧
        policy s'.2 = settled (policy s.2) (values.zip statuses) :=
  completes_mapM_foldl (fun s : UInt32 × σ => policy s.2) afterRun fun policyValue hmem s =>
    ipmiPowerRestorePolicyEntry_chassis hchassis stack (hvalues policyValue hmem) s.1 s.2

end

/-- **The power restore policy.**  The driver is run any number of times in PEI, over a transport and a
BMC with a power restore policy, and the platform may ask for another policy each time.  Each run
returns, and the BMC is left with the policy of the last run that has succeeded and has not asked for
no change. -/
theorem ipmiPowerRestorePolicyEntry_runs {D τ : Type} {S : D → Type} {h : Handler D S τ}
    {transport : (call : TransportCall) → Prog D S call.Answer} {period : UInt64}
    {Rel : Link σ → τ → Prop} {maxRetries : UInt8} {uninit : Uninitialized} {handle n : ℕ}
    {insts : Instances} {t : τ} (himpl : Implements process h transport period Rel)
    (hretries : maxRetries ≠ 0) (hperiod : (insts handle).ipmiTimeoutPeriod = period)
    (hchassis : Chassis process policy) (stack : Memory UInt8) (values : List UInt32)
    (hvalues : ∀ policyValue ∈ values, policyValue ≤ powerRestorePolicyNoChange)
    (ht : Rel ⟨x, none⟩ t) :
    ((((values.mapM fun policyValue => ipmiPowerRestorePolicyEntry stack (.ok policyValue)).embed
      LibraryCall.ipmiSubmitCommand).through (peiLibrary maxRetries uninit fun _ => .ok handle)
        (n, insts)).above transport).Ends h t fun a t' => a.1.length = values.length ∧
          ∃ x', policy x' = settled (policy x) (values.zip a.1) ∧ Rel ⟨x', none⟩ t' := by
  refine (peiLibrary_above himpl hretries hperiod ht
    (runs_chassis hchassis stack values hvalues _)).mono ?_
  rintro a t' ⟨x', ⟨hlength, hsettled⟩, ht'⟩
  exact ⟨hlength, x', hsettled, ht'⟩

theorem toNat_mod_three_lt (value : UInt8) : value.toNat % 3 < 3 := Nat.mod_lt _ (Nat.succ_pos 2)

/-- A BMC with nothing but a power restore policy. -/
def chassisBmc : Processor (Fin 3)
  | [0x00, 0x01], policy =>
    ([0x04, 0x01, compCodeNormal, UInt8.ofNat policy <<< 5, 0, 0, 0], policy)
  | [0x00, 0x06, value], _ => ([0x04, 0x06, compCodeNormal, 0x07], ⟨value.toNat % 3, toNat_mod_three_lt value⟩)
  | _, policy => ([0x04, 0x00, 0xC1], policy)

theorem chassis_chassisBmc : Chassis chassisBmc fun policy => UInt8.ofNat policy where
  getStatus policy := by
    refine ⟨_, _, _, _, _, rfl, ?_, ?_⟩ <;> revert policy <;> decide
  setPolicy policy value hvalue := by
    refine ⟨_, _, _, _, _, rfl, Nat.succ_le_succ (Nat.zero_le _), ?_⟩
    have hlt : value.toNat < 3 := UInt8.lt_iff_toNat_lt.1 hvalue
    rw [if_pos rfl]
    refine ⟨Nat.le_refl 1, ?_⟩
    dsimp only
    rw [Nat.mod_eq_of_lt hlt, UInt8.ofNat_toNat]

/-- Idle instances. -/
def idleInstances : Instances := fun _ => idleInstance

/-- A policy, no change, and another policy. -/
def threeValues : List UInt32 := [2, 3, 1]

theorem ipmiPowerRestorePolicyEntry_runs_thrice :
    ((((threeValues.mapM fun policyValue => ipmiPowerRestorePolicyEntry (fun _ => 0xA5)
      (.ok policyValue)).embed LibraryCall.ipmiSubmitCommand).through
        (peiLibrary 1 ⟨0, fun _ => 0⟩ fun _ => .ok 0) (0, idleInstances)).above
          (Kcs.transport 40001 fun _ => 0)).Ends (promptFirmware.executing chassisBmc)
            (promptStart, 0) fun a t => a.1.length = threeValues.length ∧ ∃ x',
              UInt8.ofNat (x' : Fin 3) = settled (UInt8.ofNat (0 : Fin 3)) (threeValues.zip a.1) ∧
                Kcs.Linked promptFirmware chassisBmc ⟨x', none⟩ t := by
  have hretries : (1 : UInt8) ≠ 0 := by decide
  have hperiod : (idleInstances 0).ipmiTimeoutPeriod = 40000 := rfl
  have hvalues : ∀ policyValue ∈ threeValues, policyValue ≤ powerRestorePolicyNoChange := by
    intro policyValue hmem
    simp only [threeValues, List.mem_cons, List.not_mem_nil, or_false] at hmem
    rcases hmem with rfl | rfl | rfl <;> decide
  with_reducible
    exact ipmiPowerRestorePolicyEntry_runs (promptFirmware_implements chassisBmc) hretries hperiod
      chassis_chassisBmc (fun _ => 0xA5) threeValues hvalues (promptStart_linked chassisBmc 0)

end Power

end IpmiFeature
