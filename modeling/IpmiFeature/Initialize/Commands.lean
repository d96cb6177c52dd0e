import IpmiFeature.Generic.Link
import IpmiFeature.Initialize.Trace

/-!
# The initialization over a transport

The commands of `IpmiInitializeBmc`, sent over a transport library to a BMC.  What comes back is
something that `IpmiSendCommand` can give back (`genuine_bringUp`), and a BMC that is ready and passes its
self test is initialized by one command for each (`ipmiInitializeBmc_ready`).
-/

namespace IpmiFeature

open Interaction Prog Generic

namespace Initialize

/-! ### The environment -/

/-- `IpmiSendCommand`, with what passes over the transport. -/
def sendCommand (maxRetries : UInt8) (uninit : Uninitialized) (netFunction command : UInt8)
    (inst : IpmiBmcInstanceData) (dataSize : UInt32) : TransportProg SendOutcome := do
  let ((status, st), transport) ← (Generic.ipmiSendCommand maxRetries uninit
    (tempDataArgs netFunction command) ⟨inst, fun _ => 0, dataSize⟩).traced
  return ⟨status, st.inst, st.responseDataSize, transport⟩

variable {D τ σ : Type} {S : D → Type}

/-- The calls of the initialization: the commands go over a transport library, and the platform library
is `IpmiPlatformLibNull`. -/
def bringUp (h : Handler D S τ) (transport : (call : TransportCall) → Prog D S call.Answer)
    (maxRetries : UInt8) (uninit : Uninitialized) :
    (call : InitCall) → τ → Option (call.Answer × τ)
  | .platformIpmiInitialize, t => some (.success, t)
  | .ipmiSendCommand netFunction command inst dataSize, t => do
    let (outcome, _, t) ←
      ((sendCommand maxRetries uninit netFunction command inst dataSize).above transport).exec h t
    return (outcome, t)
  | .microSecondDelay _, t => some ((), t)
  | .getDeviceSpecificTestResults _ _, t => some (bmcHardfail, t)
  | .reportStatusCode _, t => some ((), t)

variable {maxRetries : UInt8} {uninit : Uninitialized} {netFunction command : UInt8}
  {inst : IpmiBmcInstanceData} {dataSize : UInt32} {process : Processor σ} {h : Handler D S τ}
  {transport : (call : TransportCall) → Prog D S call.Answer} {period : UInt64}
  {Rel : Link σ → τ → Prop} {x x' : σ} {t : τ} {payload : List UInt8}

/-- A command keeps the timeout period, in its calls and in the instance. -/
theorem sendCommand_period : KeepsPeriod inst.ipmiTimeoutPeriod
    (sendCommand maxRetries uninit netFunction command inst dataSize) := by
  refine satisfies_bind.2 ((Satisfies.traced
    (ipmiSendCommand_period maxRetries uninit _ ⟨inst, fun _ => 0, dataSize⟩)).mono ?_)
  intro tr x htr
  simpa using htr

/-- What a command gives back is something that `IpmiSendCommand` can give back. -/
theorem sendCommand_genuine : (sendCommand maxRetries uninit netFunction command inst dataSize).Satisfies
    True fun _ r => Genuine maxRetries ⟨.ipmiSendCommand netFunction command inst dataSize, r⟩ := by
  refine satisfies_bind.2 ((runs_traced _).mono fun _ x hx => ?_)
  exact ⟨uninit, fun _ => 0, x.1.2.responseData, hx⟩

/-! ### A command that is answered -/

/-- The BMC answers a command of the initialization with completion code 0. -/
def Replies (process : Processor σ) (command : UInt8) (x : σ) (payload : List UInt8) (x' : σ) : Prop :=
  payload.length ≤ 251 ∧ ∃ header echo,
    process [netfnApp <<< 2, command] x = (header :: echo :: compCodeNormal :: payload, x')

/-- What the initialization finds after a command that is answered. -/
structure Found (inst : IpmiBmcInstanceData) (payload : List UInt8) (r : SendOutcome) : Prop where
  status_eq : r.status = .success
  bmcStatus_eq : r.inst.bmcStatus = bmcOk
  temp_eq : r.inst.temp.slice 0 (payload.length + 1) = payload.getD 1 compCodeNormal :: payload
  frame : Frame inst r.inst

theorem commandFrame_tempDataArgs (netFunction command : UInt8) (inst : IpmiBmcInstanceData) :
    commandFrame (tempDataArgs netFunction command).narrow inst = [netFunction <<< 2, command] := by
  have hargs := not_rejected_tempDataArgs netFunction command
  rw [commandFrame_eq inst hargs (show (0 : UInt8).toNat ≤ 253 by decide), commandBytes]
  have hheader : commandHeader netFunction 0 = netFunction <<< 2 := by
    rw [commandHeader, UInt8.zero_and, UInt8.or_zero]
  exact congrArg₂ (· :: command :: ·) hheader rfl

theorem completes_sendCommand (hretries : maxRetries ≠ 0) (hroom : dataSize.toNat < 256)
    (hfits : payload.length ≤ dataSize.toNat) (hreplies : Replies process command x payload x') :
    (sendCommand maxRetries uninit netfnApp command inst dataSize).Completes (linkCall process)
      ⟨x, none⟩ fun r link => Found inst payload r ∧ link = ⟨x', none⟩ := by
  obtain ⟨hlen, header, echo, hprocess⟩ := hreplies
  have hargs := not_rejected_tempDataArgs netfnApp command
  have hsize : (header :: echo :: compCodeNormal :: payload).length ≤ receiveSize.toNat :=
    show payload.length + 3 ≤ 254 by omega
  have hexchanged := exchanged_link (List.cons_ne_nil _ _) hprocess hsize
  rw [← commandFrame_tempDataArgs netfnApp command inst] at hexchanged
  have hr : (⟨.success, header :: echo :: compCodeNormal :: payload, hsize⟩ :
      Reply receiveSize).response = some ⟨header, echo, payload⟩ :=
    Reply.response_eq_some_iff.2 ⟨rfl, rfl⟩
  have hframe := ipmiSendCommand_frame maxRetries uninit (tempDataArgs netfnApp command)
    ⟨inst, fun _ => 0, dataSize⟩
  have hcompletes : (Generic.ipmiSendCommand maxRetries uninit (tempDataArgs netfnApp command)
      ⟨inst, fun _ => 0, dataSize⟩).Completes (linkCall process) ⟨x, none⟩ fun a link =>
        (∀ trace, Found inst payload ⟨a.1, a.2.inst, a.2.responseDataSize, trace⟩) ∧
          link = ⟨x', none⟩ := by
    rw [completes_iff_ends failedTransport]
    refine ((ends_ipmiSendCommand_fits hretries hargs ResponsePtr.noConfusion hroom hexchanged hr
      hfits).and_satisfies hframe).mono ?_
    rintro a _ ⟨⟨rfl, hstatus, hbmcStatus, -, size, hdelivered⟩, -, hframe⟩
    exact ⟨_, rfl, fun _ => ⟨hstatus, hbmcStatus, hdelivered.tempData rfl, hframe⟩, rfl⟩
  exact completes_bind.2 (hcompletes.traced.mono fun a link h => ⟨h.1 _, h.2⟩)

/-- The same over a transport library. -/
theorem bringUp_send (himpl : Implements process h transport period Rel) (hretries : maxRetries ≠ 0)
    (uninit : Uninitialized) (hroom : dataSize.toNat < 256) (hfits : payload.length ≤ dataSize.toNat)
    (hperiod : inst.ipmiTimeoutPeriod = period) (hreplies : Replies process command x payload x')
    (ht : Rel ⟨x, none⟩ t) : ∃ r t',
      bringUp h transport maxRetries uninit (.ipmiSendCommand netfnApp command inst dataSize) t =
        some (r, t') ∧ Found inst payload r ∧ Rel ⟨x', none⟩ t' := by
  subst hperiod
  have hcompletes : (sendCommand maxRetries uninit netfnApp command inst dataSize).Completes
      (linkCall process) ⟨x, none⟩ fun r link => Found inst payload r ∧ link = ⟨x', none⟩ :=
    completes_sendCommand hretries hroom hfits hreplies
  obtain ⟨r, tr, t', hrun, _, ⟨hfound, rfl⟩, ht'⟩ :=
    ends_iff_exec.1 (himpl.above hcompletes sendCommand_period ht)
  refine ⟨r, t', ?_, hfound, ht'⟩
  simp only [bringUp, hrun]
  rfl

/-! ### A BMC that is ready -/

/-- The BMC answers `Get Device ID` in state `x`, is available, and passes its self test if the
initialization asks for one.  Then its state is `x'`. -/
def Ready (pcds : Pcds) (process : Processor σ) (x x' : σ) : Prop :=
  ∃ deviceId x₁, Replies process appGetDeviceId x deviceId x₁ ∧ 3 ≤ deviceId.length ∧
    deviceId.getD 2 0 >>> 7 = bmcReady ∧
      if pcds.ipmiCheckSelfTestResults then
        selfTestRetries pcds ≠ 0 ∧ ∃ result params,
          (result = selftestNoError ∨ result = selftestNotImplemented) ∧
            Replies process appGetSelftestResults x₁ (result :: params) x'
      else
        x' = x₁

/-- What a function returns that has found the BMC to be ready. -/
structure FoundReady (inst : IpmiBmcInstanceData) (status : EfiStatus) (inst' : IpmiBmcInstanceData) :
    Prop where
  status_eq : status = .success
  bmcStatus_eq : inst'.bmcStatus = bmcOk
  ipmiTimeoutPeriod_eq : inst'.ipmiTimeoutPeriod = inst.ipmiTimeoutPeriod

/-- The payload is in `TempData`, behind the completion code. -/
theorem Found.temp_succ {r : SendOutcome} (hfound : Found inst payload r) {i : ℕ}
    (hi : i < payload.length) : r.inst.temp (i + 1) = payload.getD i 0 := by
  have htemp := hfound.temp_eq
  rw [Memory.slice_succ, List.cons.injEq] at htemp
  have hget : (r.inst.temp.slice (0 + 1) payload.length).getD i 0 = payload.getD i 0 := by
    rw [htemp.2]
  rw [List.getD_eq_getElem?_getD, List.getElem?_eq_getElem (by simpa using hi), Memory.getElem_slice,
    Nat.zero_add, Nat.add_comm] at hget
  exact hget

theorem toNat_maxTempData : (UInt32.ofNat maxTempData).toNat = 255 := rfl

variable {pcds : Pcds} {fuel : ℕ}

theorem getDeviceId_ready (himpl : Implements process h transport period Rel)
    (hretries : maxRetries ≠ 0) (hfuel : 0 < fuel) (hperiod : inst.ipmiTimeoutPeriod = period)
    (hreplies : Replies process appGetDeviceId x payload x') (hlen : 3 ≤ payload.length)
    (hready : payload.getD 2 0 >>> 7 = bmcReady) (ht : Rel ⟨x, none⟩ t) :
    (getDeviceId pcds fuel inst).Completes (bringUp h transport maxRetries uninit) t fun r t' =>
      FoundReady inst r.1 r.2 ∧ Rel ⟨x', none⟩ t' := by
  have hfits : payload.length ≤ (UInt32.ofNat maxTempData).toNat := by
    rw [toNat_maxTempData]
    exact Nat.le_trans hreplies.1 (by decide)
  obtain ⟨r, t', hcall, hfound, ht'⟩ := bringUp_send himpl hretries uninit
    (by rw [toNat_maxTempData]; decide) hfits hperiod hreplies ht
  have hmode : updateMode r.inst = bmcReady := by
    rw [updateMode, hfound.temp_succ (show 2 < payload.length by omega), hready]
  have hloop : ∀ st : DeviceIdState, st.inst = inst → st.dataSize = UInt32.ofNat maxTempData →
      (Prog.loop awaitDeviceId fuel st).Completes (bringUp h transport maxRetries uninit) t
        fun a t'' => a = (true, st.afterSend r) ∧ t'' = t' := by
    rintro st hinst hsize
    refine completes_loop_once hfuel (completes_perform_bind.2 ⟨r, t', ?_, ?_⟩)
    · rw [hinst, hsize]
      exact hcall
    · rw [if_pos (by simp [DeviceIdState.afterSend, hfound.status_eq])]
      exact ⟨_, rfl, rfl, rfl⟩
  refine completes_bind.2 ((hloop _ rfl rfl).mono ?_)
  rintro _ _ ⟨rfl, rfl⟩
  dsimp only [DeviceIdState.afterSend]
  rw [if_neg (by simp), if_pos hmode]
  exact ⟨⟨rfl, rfl, hfound.frame.ipmiTimeoutPeriod_eq⟩, ht'⟩

theorem getSelfTest_ready (himpl : Implements process h transport period Rel)
    (hretries : maxRetries ≠ 0) (hfuel : 0 < fuel) (hperiod : inst.ipmiTimeoutPeriod = period)
    (hattempts : selfTestRetries pcds ≠ 0) {result : UInt8} {params : List UInt8}
    (hresult : result = selftestNoError ∨ result = selftestNotImplemented)
    (hreplies : Replies process appGetSelftestResults x (result :: params) x')
    (ht : Rel ⟨x, none⟩ t) :
    (getSelfTest pcds fuel inst .empty).Completes (bringUp h transport maxRetries uninit) t
      fun a t' => (FoundReady inst a.1 a.2.1 ∧ a.2.2.values = []) ∧ Rel ⟨x', none⟩ t' := by
  have hfits : (result :: params).length ≤ (UInt32.ofNat maxTempData).toNat := by
    rw [toNat_maxTempData]
    exact Nat.le_trans hreplies.1 (by decide)
  have hperiod' : (inst.storeTemp 1 [0]).ipmiTimeoutPeriod = period :=
    (Frame.storeTemp inst 1 [0]).ipmiTimeoutPeriod_eq.trans hperiod
  obtain ⟨r, t', hcall, hfound, ht'⟩ := bringUp_send himpl hretries uninit
    (by rw [toNat_maxTempData]; decide) hfits hperiod' hreplies ht
  have hread : (selfTestResult r.inst).result = result := hfound.temp_succ (Nat.succ_pos _)
  have hclassified : Classified (selfTestResult r.inst).result := by
    rw [hread]
    exact hresult.imp_right .inl
  have hloop : ∀ st : SelfTestState, st.inst = inst.storeTemp 1 [0] →
      st.dataSize = UInt32.ofNat maxTempData →
        (Prog.loop selfTestAttempt fuel st).Completes (bringUp h transport maxRetries uninit) t
          fun st' t'' => st' = st.afterSend r ∧ t'' = t' := by
    rintro st hinst hsize
    refine completes_loop_once hfuel (completes_perform_bind.2 ⟨r, t', ?_, ?_⟩)
    · rw [hinst, hsize]
      exact hcall
    · rw [if_pos ⟨hfound.status_eq, hclassified⟩]
      exact ⟨_, rfl, rfl, rfl⟩
  refine completes_bind.2 ((hloop _ rfl rfl).mono ?_)
  rintro _ _ ⟨rfl, rfl⟩
  dsimp only [SelfTestState.afterSend]
  have hnotFailed : ¬ (r.status.isError = true ∨ selfTestRetries pcds = 0) := by
    simp [hfound.status_eq, hattempts]
  have hkept : (selfTestResult (copyErrorStatus r.dataSize r.inst)).result = result := hread
  rw [finishSelfTest, if_neg hnotFailed, classifySelfTest, hkept, if_pos hresult]
  refine ⟨⟨⟨rfl, rfl, ?_⟩, rfl⟩, ht'⟩
  exact hfound.frame.ipmiTimeoutPeriod_eq.trans (Frame.storeTemp inst 1 [0]).ipmiTimeoutPeriod_eq

/-- A BMC that is ready is found so, by one command or two. -/
theorem ipmiInitializeBmc_ready (himpl : Implements process h transport period Rel)
    (hretries : maxRetries ≠ 0) (hfuel : 0 < fuel) (hperiod : inst.ipmiTimeoutPeriod = period)
    (hready : Ready pcds process x x') (ht : Rel ⟨x, none⟩ t) :
    (ipmiInitializeBmc pcds fuel inst).Completes (bringUp h transport maxRetries uninit) t
      fun r t' => FoundReady inst r.1 r.2 ∧ Rel ⟨x', none⟩ t' := by
  obtain ⟨deviceId, x₁, hreplies, hlen, hmode, hselfTest⟩ := hready
  refine completes_perform_bind.2 ⟨.success, t, rfl, ?_⟩
  rw [if_neg (by simp)]
  refine completes_bind.2 ((getDeviceId_ready himpl hretries hfuel hperiod hreplies hlen hmode
    ht).mono ?_)
  rintro ⟨status, inst₁⟩ t₁ ⟨⟨rfl, hok, hperiod₁⟩, ht₁⟩
  dsimp only at hok hperiod₁ ⊢
  unfold checkSelfTest
  by_cases hcheck : pcds.ipmiCheckSelfTestResults = true
  · rw [if_pos hcheck] at hselfTest
    obtain ⟨hattempts, result, params, hresult, hreplies'⟩ := hselfTest
    rw [if_pos ⟨hcheck, by rw [hok]; decide, by rw [hok]; decide⟩]
    refine completes_bind.2 ((getSelfTest_ready himpl hretries hfuel (hperiod₁.trans hperiod)
      hattempts hresult hreplies' ht₁).mono ?_)
    rintro ⟨status, inst₂, log⟩ t₂ ⟨⟨⟨rfl, hok₂, hperiod₂⟩, hlog⟩, ht₂⟩
    dsimp only at hlog hok₂ hperiod₂ ⊢
    rw [hlog]
    exact ⟨⟨rfl, hok₂, hperiod₂.trans hperiod₁⟩, ht₂⟩
  · rw [if_neg hcheck] at hselfTest
    subst hselfTest
    rw [if_neg fun h => hcheck h.1]
    exact ⟨⟨rfl, hok, hperiod₁⟩, ht₁⟩

/-- The environment answers with what `IpmiSendCommand` can give back. -/
theorem genuine_bringUp {call : InitCall} {r : call.Answer} {t' : τ}
    (hcall : bringUp h transport maxRetries uninit call t = some (r, t')) :
    Genuine maxRetries ⟨call, r⟩ := by
  cases call with
  | ipmiSendCommand netFunction command inst dataSize =>
    obtain ⟨⟨outcome, tr, t''⟩, hrun, heq⟩ := Option.bind_eq_some_iff.1 hcall
    cases heq
    exact (satisfies_above sendCommand_genuine transport).of_exec hrun
  | platformIpmiInitialize | microSecondDelay | getDeviceSpecificTestResults | reportStatusCode =>
    trivial

end Initialize

end IpmiFeature
