import IpmiFeature.Initialize.Bounds

/-!
# What the initialization makes of the last reply

`GetDeviceId` and `GetSelfTest` may return success and leave a `BmcStatus` behind that says that the
BMC cannot be used.  The reply to the last command of a run decides (`ipmiInitializeBmc_endsWell`).
-/

namespace IpmiFeature

open Interaction Prog Generic

namespace Initialize

/-- The BMC has not failed and is not in Force Update Mode. -/
def Usable (bmcStatus : UInt32) : Prop :=
  bmcStatus ≠ bmcHardfail ∧ bmcStatus ≠ bmcUpdateInProgress

instance : DecidablePred Usable := fun _ => inferInstanceAs (Decidable (_ ∧ _))

theorem usable_bmcOk : Usable bmcOk := by decide

theorem not_usable_bmcHardfail : ¬ Usable bmcHardfail := by decide

theorem not_usable_bmcUpdateInProgress : ¬ Usable bmcUpdateInProgress := by decide

/-! ### The last command -/

/-- A command and its outcome. -/
abbrev Sent := (UInt8 × UInt8) × SendOutcome

/-- The command that an event sends, with its outcome. -/
def sentOf : InitEvent → Option Sent
  | ⟨.ipmiSendCommand netFunction command _ _, r⟩ => some ((netFunction, command), r)
  | _ => none

/-- The last command of a trace. -/
def lastSent (tr : List InitEvent) : Option Sent := (tr.filterMap sentOf).getLast?

@[simp] theorem lastSent_append (tr tr' : List InitEvent) :
    lastSent (tr ++ tr') = (lastSent tr').or (lastSent tr) := by
  rw [lastSent, List.filterMap_append, List.getLast?_append]
  rfl

/-- The reply to `Get Device ID` says that the BMC is ready. -/
def ReportsReady (sent : Sent) : Prop :=
  sent.1 = deviceIdCommand ∧ updateMode sent.2.inst = bmcReady

/-- The self test has found no error, or is not implemented. -/
def PassesSelfTest (r : SendOutcome) : Prop :=
  (selfTestResult r.inst).result = selftestNoError ∨
    (selfTestResult r.inst).result = selftestNotImplemented

/-- If the last command of a trace succeeds, the BMC has reported that it is ready, or it has passed
its self test; with both timers 0, not with the first reply. -/
def EndsWell (pcds : Pcds) (tr : List InitEvent) : Prop :=
  ∀ sent ∈ lastSent tr, sent.2.status = .success → ReportsReady sent ∨
    (sent.1 = selfTestCommand ∧ PassesSelfTest sent.2) ∧
      (selfTestRetries pcds = 0 → (selfTestOutcomes tr).length ≠ 1)

variable {fuel : ℕ} {pcds : Pcds}

/-! ### GetDeviceId -/

/-- The last command has not reported that the BMC is ready. -/
structure NotReady (tr : List InitEvent) (status : EfiStatus) : Prop where
  selfTestOutcomes_eq : selfTestOutcomes tr = []
  last : ∃ sent ∈ lastSent tr, status = sent.2.status ∧
    ¬ (sent.2.status = .success ∧ ReportsReady sent)

/-- How `GetDeviceId` ends: the BMC has reported that it is ready, or it is found unusable. -/
structure DeviceIdEnd (tr : List InitEvent) (status : EfiStatus) (bmcStatus : UInt32) : Prop where
  selfTestOutcomes_eq : selfTestOutcomes tr = []
  last : ∃ sent ∈ lastSent tr, status = sent.2.status ∧
    (bmcStatus = bmcOk ∧ sent.2.status = .success ∧ ReportsReady sent ∨
      ¬ Usable bmcStatus ∧ ¬ (sent.2.status = .success ∧ ReportsReady sent))

theorem NotReady.ended {tr : List InitEvent} {status : EfiStatus} {bmcStatus : UInt32}
    (h : NotReady tr status) (hbmc : ¬ Usable bmcStatus) : DeviceIdEnd tr status bmcStatus := by
  obtain ⟨sent, hsent, hstatus, hnot⟩ := h.last
  exact ⟨h.selfTestOutcomes_eq, sent, hsent, hstatus, .inr ⟨hbmc, hnot⟩⟩

theorem awaitDeviceId_end (st : DeviceIdState) :
    (Prog.loop awaitDeviceId fuel st).Satisfies True fun tr x => selfTestOutcomes tr = [] ∧
      ∃ r, lastSent tr = some (deviceIdCommand, r) ∧ x.2.status = r.status ∧
        (x.1 = true ∧ r.status = .success ∧ x.2.inst = r.inst ∨
          x.1 = false ∧ r.status ≠ .success ∧ x.2.inst.bmcStatus = bmcHardfail) := by
  refine satisfies_loop (I := fun tr _ => selfTestOutcomes tr = []) ?_ fuel rfl
  intro tr st' htr
  have hsend : ∀ r tr', selfTestOutcomes (deviceIdEvent st' r :: tr') = [] →
      selfTestOutcomes (tr ++ deviceIdEvent st' r :: tr') = [] := by
    intro r tr' hnone
    rw [selfTestOutcomes_append, htr, hnone, List.append_nil]
  refine satisfies_awaitDeviceId (fun r hr => ?_) (fun r hr _ => ?_) fun r _ _ => ?_
  · exact ⟨hsend r [] rfl, r, lastSent_append _ _, rfl, .inl ⟨rfl, hr, rfl⟩⟩
  · exact ⟨hsend r [] rfl, r, lastSent_append _ _, rfl, .inr ⟨rfl, hr, rfl⟩⟩
  · exact hsend r _ rfl

/-- The loop that waits for the BMC to become ready, after `tr₀`. -/
theorem awaitReady_end (tr₀ : List InitEvent) (st : DeviceIdState) (h : NotReady tr₀ st.status) :
    (Prog.loop awaitReady fuel st).Satisfies True fun tr (x : Bool × DeviceIdState) =>
      DeviceIdEnd (tr₀ ++ tr) (if x.1 then .success else x.2.status) x.2.inst.bmcStatus := by
  refine satisfies_loop_of_variant (I := fun tr st' => NotReady tr st'.status)
    (Q := fun tr (x : Bool × DeviceIdState) =>
      DeviceIdEnd tr (if x.1 then .success else x.2.status) x.2.inst.bmcStatus)
    (fun _ => 0) ?_ fuel tr₀ st h (.inl trivial)
  intro tr st' hst
  have hsend : ∀ r, selfTestOutcomes
      (tr ++ [delayEvent (1 * 1000 * 1000), deviceIdEvent st' r]) = [] := by
    intro r
    rw [selfTestOutcomes_append, hst.selfTestOutcomes_eq]
    rfl
  have hlast : ∀ r, lastSent (tr ++ [delayEvent (1 * 1000 * 1000), deviceIdEvent st' r]) =
      some (deviceIdCommand, r) := fun r => lastSent_append _ _
  refine satisfies_awaitReady (fun _ => ?_) (fun r _ hr hready => ?_) fun r _ hnot => ?_
  · rw [List.append_nil]
    exact hst.ended not_usable_bmcHardfail
  · exact ⟨hsend r, _, hlast r, hr.symm, .inl ⟨rfl, hr, rfl, hready⟩⟩
  · refine ⟨⟨hsend r, _, hlast r, rfl, fun h => hnot ⟨h.1, h.2.2⟩⟩, .inl trivial⟩

theorem queryExecutionContext_end (tr₀ : List InitEvent) (st : DeviceIdState)
    (h : selfTestOutcomes tr₀ = []) :
    (queryExecutionContext pcds fuel st).Satisfies True fun tr x =>
      DeviceIdEnd (tr₀ ++ tr) x.1 x.2.bmcStatus := by
  rw [queryExecutionContext, satisfies_ipmiSendCommand_bind]
  intro r
  have hquery : NotReady (tr₀ ++ [⟨.ipmiSendCommand netfnFirmware getBmcExecutionContext st.inst
      st.dataSize, r⟩]) r.status := by
    refine ⟨?_, (contextCommand, r), lastSent_append _ _, rfl, fun hready => ?_⟩
    · rw [selfTestOutcomes_append, h]
      rfl
    · have hother : contextCommand ≠ deviceIdCommand := by decide
      exact hother hready.2.1
  dsimp only
  split_ifs with hforced
  · exact hquery.ended not_usable_bmcUpdateInProgress
  · refine satisfies_bind.2 ((awaitReady_end _ _ hquery).mono fun tr x hx => ?_)
    rw [List.append_assoc] at hx
    rw [pure_eq_ret, satisfies_ret, List.append_nil]
    exact hx

theorem getDeviceId_end (inst : IpmiBmcInstanceData) :
    (getDeviceId pcds fuel inst).Satisfies True fun tr x =>
      DeviceIdEnd tr x.1 x.2.bmcStatus := by
  refine satisfies_bind.2 ((awaitDeviceId_end _).mono ?_)
  rintro tr ⟨answered, st⟩ ⟨htr, r, hlast, hstatus, h⟩
  dsimp only at hstatus h ⊢
  rcases h with ⟨rfl, hr, hinst⟩ | ⟨rfl, hr, hbmc⟩
  · rw [if_neg (not_not.2 rfl)]
    split_ifs with hready
    · rw [hinst] at hready
      refine ⟨?_, (deviceIdCommand, r), ?_, hr.symm, .inl ⟨rfl, hr, rfl, hready⟩⟩
      · rw [List.append_nil]
        exact htr
      · rw [List.append_nil]
        exact hlast
    · exact queryExecutionContext_end tr st htr
  · rw [if_pos Bool.false_ne_true]
    refine ⟨?_, (deviceIdCommand, r), ?_, hstatus, .inr ⟨?_, fun h => hr h.1⟩⟩
    · rw [List.append_nil]
      exact htr
    · rw [List.append_nil]
      exact hlast
    · rw [hbmc]
      exact not_usable_bmcHardfail

/-! ### GetSelfTest -/

/-- The retry loop of the self test: without attempts, a classified first reply comes too early. -/
theorem selfTest_end (st : SelfTestState) :
    (Prog.loop selfTestAttempt fuel st).Satisfies True fun tr st' => ∃ r,
      lastSent tr = some (selfTestCommand, r) ∧ st'.status = r.status ∧ st'.inst = r.inst ∧
        (r.IsClassified ∧ (st'.retries = 0 ↔ st.retries = 0 ∧ (selfTestOutcomes tr).length = 1) ∨
          ¬ r.IsClassified ∧ st'.retries = 0) := by
  refine satisfies_loop (I := fun tr st' => selfTestOutcomes tr = [] ∧ st'.retries = st.retries ∨
    selfTestOutcomes tr ≠ [] ∧ st'.retries ≠ 0) ?_ fuel (.inl ⟨rfl, rfl⟩)
  intro tr st' hI
  have hlast : ∀ r, lastSent (tr ++ [selfTestEvent st' r, delayEvent (500 * 1000)]) =
      some (selfTestCommand, r) := fun r => lastSent_append _ _
  refine satisfies_selfTestAttempt (fun r hr => ?_) (fun r _ hagain => ?_) fun r hr hended => ?_
  · refine ⟨r, lastSent_append _ _, rfl, rfl, .inl ⟨hr, ?_⟩⟩
    have houtcomes : selfTestOutcomes (tr ++ [selfTestEvent st' r]) = selfTestOutcomes tr ++ [r] :=
      selfTestOutcomes_append _ _
    rw [houtcomes, List.length_append, List.length_singleton]
    rcases hI with ⟨hnone, hretries⟩ | ⟨hsome, hretries⟩
    · rw [hnone, ← hretries]
      exact (and_iff_left rfl).symm
    · have hpos : (selfTestOutcomes tr).length ≠ 0 := fun h => hsome (List.length_eq_zero_iff.1 h)
      exact iff_of_false hretries fun h => hpos (by omega)
  · refine .inr ⟨fun hnone => ?_, hagain⟩
    rw [selfTestOutcomes_append] at hnone
    exact List.append_ne_nil_of_right_ne_nil _ (List.cons_ne_nil _ _) hnone
  · exact ⟨r, hlast r, rfl, rfl, .inr ⟨hr, hended⟩⟩

/-- How the switch ends for the results that set `bResultFlag`. -/
theorem classifySelfTest_end (inst : IpmiBmcInstanceData) (log : ErrorLog)
    (h : Classified (selfTestResult inst).result) :
    (classifySelfTest inst log).Satisfies True fun tr x => tr = [] ∧
      (Usable x.1.bmcStatus ↔ (selfTestResult inst).result = selftestNoError ∨
        (selfTestResult inst).result = selftestNotImplemented) := by
  unfold classifySelfTest
  by_cases hok : (selfTestResult inst).result = selftestNoError ∨
      (selfTestResult inst).result = selftestNotImplemented
  · rw [if_pos hok]
    exact ⟨rfl, iff_of_true usable_bmcOk hok⟩
  rw [if_neg hok]
  by_cases herror : (selfTestResult inst).result = selftestError
  · -- the result is its own parameter, with all three bits
    have hbits : inst.temp 1 = selftestError := herror
    rw [if_pos herror, hbits]
    exact ⟨rfl, iff_of_false not_usable_bmcHardfail hok⟩
  rw [if_neg herror]
  have hfatal : (selfTestResult inst).result = selftestFatalHwError := by
    rcases h with h | h | h | h
    · exact absurd (.inl h) hok
    · exact absurd (.inr h) hok
    · exact absurd h herror
    · exact h
  rw [if_pos hfatal]
  exact ⟨rfl, iff_of_false not_usable_bmcHardfail hok⟩

theorem finishSelfTest_end (st : SelfTestState) (log : ErrorLog)
    (h : st.retries ≠ 0 → Classified (selfTestResult st.inst).result) :
    (finishSelfTest st log).Satisfies True fun tr x => tr = [] ∧ x.1 = st.status ∧
      (st.status = .success → (Usable x.2.1.bmcStatus ↔ st.retries ≠ 0 ∧
        ((selfTestResult st.inst).result = selftestNoError ∨
          (selfTestResult st.inst).result = selftestNotImplemented))) := by
  unfold finishSelfTest
  by_cases hfailed : st.status.isError ∨ st.retries = 0
  · rw [if_pos hfailed]
    refine ⟨rfl, rfl, fun hsuccess => iff_of_false not_usable_bmcHardfail fun hpassed => ?_⟩
    rcases hfailed with hstatus | hretries
    · exact EfiStatus.isError_iff.1 hstatus hsuccess
    · exact hpassed.1 hretries
  · rw [if_neg hfailed]
    rw [not_or, EfiStatus.isError_iff, not_not] at hfailed
    obtain ⟨hsuccess, hretries⟩ := hfailed
    refine satisfies_bind.2 ((classifySelfTest_end _ log ?_).mono ?_)
    · exact h hretries
    · rintro tr ⟨inst, log'⟩ ⟨rfl, hiff⟩
      exact ⟨rfl, hsuccess.symm, fun _ => hiff.trans (and_iff_right hretries).symm⟩

/-- How `GetSelfTest` ends. -/
theorem getSelfTest_end (inst : IpmiBmcInstanceData) (log : ErrorLog) :
    (getSelfTest pcds fuel inst log).Satisfies True fun tr x => ∃ r,
      lastSent tr = some (selfTestCommand, r) ∧ x.1 = r.status ∧
        (r.status = .success → (Usable x.2.1.bmcStatus ↔ PassesSelfTest r ∧
          (selfTestRetries pcds = 0 → (selfTestOutcomes tr).length ≠ 1))) := by
  refine satisfies_bind.2 ((selfTest_end _).mono ?_)
  rintro tr st ⟨r, hlast, hstatus, hinst, hretries⟩
  have hclassified : st.retries ≠ 0 → Classified (selfTestResult st.inst).result := by
    intro hne
    rcases hretries with ⟨hr, -⟩ | ⟨-, hzero⟩
    · rw [hinst]
      exact hr.2
    · exact absurd hzero hne
  refine (finishSelfTest_end st log hclassified).mono ?_
  rintro tr' x ⟨rfl, hx, hiff⟩
  rw [List.append_nil]
  refine ⟨r, hlast, hx.trans hstatus, fun hsuccess => (hiff (hstatus.trans hsuccess)).trans ?_⟩
  rw [hinst, and_comm]
  refine and_congr_right fun hpassed => ?_
  rcases hretries with ⟨-, hzero⟩ | ⟨hnot, -⟩
  · exact (not_congr hzero).trans not_and
  · exact absurd ⟨hsuccess, hpassed.imp_right .inl⟩ hnot

/-! ### IpmiInitializeBmc -/

theorem commandsOf_eq (tr : List InitEvent) :
    commandsOf tr = (tr.filterMap sentOf).map Prod.fst := by
  rw [commandsOf, exchanges, List.map_filterMap, List.map_filterMap]
  refine congrArg (fun f => tr.filterMap f) (funext fun event => ?_)
  obtain ⟨call, r⟩ := event
  cases call <;> rfl

theorem lastSent_of_silent {tr : List InitEvent} (h : Silent tr) : lastSent tr = none := by
  have hnone : tr.filterMap sentOf = [] := by
    rw [← List.map_eq_nil_iff (f := Prod.fst), ← commandsOf_eq]
    exact h.1
  rw [lastSent, hnone]
  rfl

theorem EndsWell.append_silent {tr tr' : List InitEvent} (h : Silent tr') :
    EndsWell pcds (tr ++ tr') ↔ EndsWell pcds tr := by
  rw [EndsWell, lastSent_append, lastSent_of_silent h, selfTestOutcomes_append, h.2,
    List.append_nil]
  rfl

/-- Without a self test, the last command is none. -/
theorem ne_selfTestCommand {tr : List InitEvent} {sent : Sent} (h : selfTestOutcomes tr = [])
    (hsent : sent ∈ lastSent tr) : sent.1 ≠ selfTestCommand := by
  intro hcommand
  obtain ⟨⟨call, r⟩, hevent, heq⟩ := List.mem_filterMap.1 (List.mem_of_getLast? hsent)
  have houtcome : selfTestOutcomeOf ⟨call, r⟩ = some sent.2 := by
    cases call with
    | ipmiSendCommand netFunction command inst dataSize =>
      cases heq
      exact if_pos hcommand
    | platformIpmiInitialize | microSecondDelay | getDeviceSpecificTestResults
      | reportStatusCode => cases heq
  have hmem : sent.2 ∈ selfTestOutcomes tr := List.mem_filterMap.2 ⟨_, hevent, houtcome⟩
  rw [h] at hmem
  cases hmem

theorem DeviceIdEnd.endsWell_iff {tr : List InitEvent} {status : EfiStatus} {bmcStatus : UInt32}
    (h : DeviceIdEnd tr status bmcStatus) :
    (status = .success → Usable bmcStatus) ↔ EndsWell pcds tr := by
  obtain ⟨hnone, sent, hsent, rfl, h⟩ := h
  have hlast : EndsWell pcds tr ↔ (sent.2.status = .success → ReportsReady sent) := by
    rw [EndsWell, Option.mem_def.1 hsent]
    simp only [Option.mem_def, Option.some.injEq, forall_eq']
    refine imp_congr_right fun _ => or_iff_left ?_
    exact fun h => ne_selfTestCommand hnone hsent h.1.1
  rw [hlast]
  refine imp_congr_right fun hsuccess => ?_
  rcases h with ⟨rfl, -, hready⟩ | ⟨hbmc, hnot⟩
  · exact iff_of_true usable_bmcOk hready
  · exact iff_of_false hbmc fun hready => hnot ⟨hsuccess, hready⟩

/-- How `GetDeviceId` and the self test after it end. -/
theorem checkSelfTest_end {tr₀ : List InitEvent} {status : EfiStatus} {inst : IpmiBmcInstanceData}
    (h : DeviceIdEnd tr₀ status inst.bmcStatus) :
    (checkSelfTest pcds fuel status inst).Satisfies True fun tr x =>
      (x.1 = .success → Usable x.2.1.bmcStatus) ↔ EndsWell pcds (tr₀ ++ tr) := by
  unfold checkSelfTest
  split_ifs
  · refine (getSelfTest_end inst .empty).mono ?_
    rintro tr x ⟨r, hlast, hstatus, hiff⟩
    have hother : selfTestCommand ≠ deviceIdCommand := by decide
    rw [EndsWell, lastSent_append, hlast, selfTestOutcomes_append, h.selfTestOutcomes_eq,
      List.nil_append, hstatus]
    simp only [Option.some_or, Option.mem_def, Option.some.injEq, forall_eq']
    refine imp_congr_right fun hsuccess => (hiff hsuccess).trans ?_
    rw [or_iff_right fun hready => hother hready.1, true_and]
  · rw [pure_eq_ret, satisfies_ret, List.append_nil]
    exact h.endsWell_iff

/-- **What the bring-up makes of the last reply.**  When `IpmiInitializeBmc` returns success the BMC
is usable, exactly if the run ends well. -/
theorem ipmiInitializeBmc_endsWell (inst : IpmiBmcInstanceData) :
    (ipmiInitializeBmc pcds fuel inst).Satisfies True fun tr x =>
      (x.1 = .success → Usable x.2.bmcStatus) ↔ EndsWell pcds tr := by
  rw [ipmiInitializeBmc, satisfies_platformIpmiInitialize_bind]
  intro status
  split_ifs with hstatus
  · refine iff_of_true (fun hsuccess => absurd hsuccess (EfiStatus.isError_iff.1 hstatus)) ?_
    rintro sent ⟨⟩
  refine satisfies_bind.2 ((getDeviceId_end inst).mono ?_)
  rintro tr ⟨status', inst'⟩ hdevice
  refine satisfies_bind.2 ((checkSelfTest_end hdevice).mono ?_)
  rintro tr' ⟨status'', inst'', log⟩ hiff
  refine satisfies_bind.2 ((reportStatusCodes_silent log.values).of_total.mono ?_)
  rintro tr'' _ hsilent
  rw [pure_eq_ret, satisfies_ret, List.append_nil]
  -- the platform has been initialized without a command
  have hfirst : EndsWell pcds (⟨.platformIpmiInitialize, status⟩ :: (tr ++ (tr' ++ tr''))) ↔
      EndsWell pcds (tr ++ tr' ++ tr'') := by
    rw [List.append_assoc]
    rfl
  exact hiff.trans ((EndsWell.append_silent hsilent).symm.trans hfirst.symm)

end Initialize

end IpmiFeature
