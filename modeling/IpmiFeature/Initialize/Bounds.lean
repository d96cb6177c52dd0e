import IpmiFeature.Initialize.Trace

/-!
# How many commands the initialization sends

The two loops of `GetDeviceId` compare `Retries` with 0 before they decrement it, the loop of
`GetSelfTest` after: when both timers are 0 its first decrement wraps.  The initialization always
returns, and it stays within its bound exactly if that does not matter
(`ipmiInitializeBmc_bounded_iff`).
-/

namespace IpmiFeature

open Interaction Prog Generic

namespace Initialize

/-! ### Counting -/

/-- Net function and command of `Get Device ID`. -/
def deviceIdCommand : UInt8 × UInt8 := (netfnApp, appGetDeviceId)

/-- Net function and command of `Get BMC Execution Context`. -/
def contextCommand : UInt8 × UInt8 := (netfnFirmware, getBmcExecutionContext)

/-- Net function and command of `Get Self Test Results`. -/
def selfTestCommand : UInt8 × UInt8 := (netfnApp, appGetSelftestResults)

/-- The commands of a trace. -/
def commandsOf (tr : List InitEvent) : List (UInt8 × UInt8) :=
  (exchanges tr).map fun x => (x.netFunction, x.command)

@[simp] theorem commandsOf_nil : commandsOf [] = [] := rfl

@[simp] theorem commandsOf_append (tr tr' : List InitEvent) :
    commandsOf (tr ++ tr') = commandsOf tr ++ commandsOf tr' := by
  simp [commandsOf]

/-- The outcome of the self-test command that an event sends. -/
def selfTestOutcomeOf : InitEvent → Option SendOutcome
  | ⟨.ipmiSendCommand netFunction command _ _, r⟩ =>
    if (netFunction, command) = selfTestCommand then some r else none
  | _ => none

/-- The outcomes of the self-test commands of a trace. -/
def selfTestOutcomes (tr : List InitEvent) : List SendOutcome := tr.filterMap selfTestOutcomeOf

@[simp] theorem selfTestOutcomes_append (tr tr' : List InitEvent) :
    selfTestOutcomes (tr ++ tr') = selfTestOutcomes tr ++ selfTestOutcomes tr' :=
  List.filterMap_append

/-- The first self-test command, if there is one, gets a classified result. -/
def FirstSelfTestClassified (tr : List InitEvent) : Prop :=
  ∀ r ∈ (selfTestOutcomes tr).head?, r.IsClassified

/-- The commands of an initialization that stays within its bound, with `T` for
`PcdIpmiBmcReadyDelayTimer`. -/
structure Bounded (T : ℕ) (tr : List InitEvent) : Prop where
  /-- The parts: the attempts at `Get Device ID`, the query of the execution context, the polls, and
  the attempts at the self test. -/
  parts : ∃ initial query polls selfTests, commandsOf tr =
    List.replicate initial deviceIdCommand ++ List.replicate query contextCommand ++
      List.replicate polls deviceIdCommand ++ List.replicate selfTests selfTestCommand ∧
    initial ≤ T + 1 ∧ query ≤ 1 ∧ polls ≤ T ∧ selfTests ≤ max 1 T
  /-- All commands. -/
  total : (commandsOf tr).length ≤ 2 * T + 2 + max 1 T

theorem toNat_sub_one {w : UInt32} (h : w ≠ 0) : (w - 1).toNat = w.toNat - 1 := by
  have hpos : 1 ≤ w.toNat := Nat.pos_of_ne_zero fun hzero => h (UInt32.toNat_inj.1 hzero)
  exact UInt32.toNat_sub_of_le _ _ (UInt32.le_iff_toNat_le.2 hpos)

theorem toNat_pos {w : UInt32} (h : w ≠ 0) : 0 < w.toNat :=
  Nat.pos_of_ne_zero fun hzero => h (UInt32.toNat_inj.1 hzero)

/-! ### The loops -/

variable {fuel : ℕ}

/-- A part of the run: so many times the same command, and no self test. -/
def Sends (command : UInt8 × UInt8) (n : ℕ) (tr : List InitEvent) : Prop :=
  commandsOf tr = List.replicate n command ∧ selfTestOutcomes tr = []

theorem Sends.append {command : UInt8 × UInt8} {n m : ℕ} {tr tr' : List InitEvent}
    (h : Sends command n tr) (h' : Sends command m tr') : Sends command (n + m) (tr ++ tr') :=
  ⟨by rw [commandsOf_append, h.1, h'.1, List.replicate_add],
    by rw [selfTestOutcomes_append, h.2, h'.2, List.append_nil]⟩

theorem awaitDeviceId_bounded (st : DeviceIdState) (hfuel : st.retries.toNat < fuel) :
    (Prog.loop awaitDeviceId fuel st).Satisfies False fun tr _ =>
      ∃ n ≤ st.retries.toNat + 1, Sends deviceIdCommand n tr := by
  refine satisfies_loop_total (I := fun tr st' => ∃ n, n + st'.retries.toNat = st.retries.toNat ∧
    Sends deviceIdCommand n tr) (fun st' => st'.retries.toNat) ?_
    ⟨0, Nat.zero_add _, rfl, rfl⟩ hfuel
  rintro tr st' ⟨n, hn, htr⟩
  refine satisfies_awaitDeviceId (fun r _ => ?_) (fun r _ _ => ?_) fun r _ hretries => ?_
  · exact ⟨n + 1, by omega, htr.append ⟨rfl, rfl⟩⟩
  · exact ⟨n + 1, by omega, htr.append ⟨rfl, rfl⟩⟩
  · have hpos := toNat_pos hretries
    have hdec := toNat_sub_one hretries
    refine ⟨⟨n + 1, ?_, htr.append ⟨rfl, rfl⟩⟩, ?_⟩
    · dsimp only
      omega
    · dsimp only
      omega

theorem awaitReady_bounded (st : DeviceIdState) (hfuel : st.retries.toNat < fuel) :
    (Prog.loop awaitReady fuel st).Satisfies False fun tr _ =>
      ∃ n ≤ st.retries.toNat, Sends deviceIdCommand n tr := by
  refine satisfies_loop_total (I := fun tr st' => ∃ n, n + st'.retries.toNat = st.retries.toNat ∧
    Sends deviceIdCommand n tr) (fun st' => st'.retries.toNat) ?_
    ⟨0, Nat.zero_add _, rfl, rfl⟩ hfuel
  rintro tr st' ⟨n, hn, htr⟩
  refine satisfies_awaitReady (fun _ => ?_) (fun r hretries _ _ => ?_) fun r hretries _ => ?_
  · rw [List.append_nil]
    exact ⟨n, by omega, htr⟩
  · have hpos := toNat_pos hretries
    exact ⟨n + 1, by omega, htr.append ⟨rfl, rfl⟩⟩
  · have hpos := toNat_pos hretries
    have hdec := toNat_sub_one hretries
    refine ⟨⟨n + 1, ?_, htr.append ⟨rfl, rfl⟩⟩, ?_⟩
    · dsimp only [DeviceIdState.afterSend]
      omega
    · dsimp only [DeviceIdState.afterSend]
      omega

/-- A part of the run that consists of self tests. -/
def SelfTests (n : ℕ) (tr : List InitEvent) : Prop := commandsOf tr = List.replicate n selfTestCommand

theorem SelfTests.append {n m : ℕ} {tr tr' : List InitEvent} (h : SelfTests n tr)
    (h' : SelfTests m tr') : SelfTests (n + m) (tr ++ tr') := by
  rw [SelfTests, commandsOf_append, h, h', List.replicate_add]

theorem selfTest_bounded (st : SelfTestState) (hretries : st.retries ≠ 0)
    (hfuel : st.retries.toNat < fuel) :
    (Prog.loop selfTestAttempt fuel st).Satisfies False fun tr _ =>
      ∃ n, 1 ≤ n ∧ n ≤ st.retries.toNat ∧ SelfTests n tr := by
  refine satisfies_loop_total (I := fun tr st' => st'.retries ≠ 0 ∧
    ∃ n, n + st'.retries.toNat = st.retries.toNat ∧ SelfTests n tr) (fun st' => st'.retries.toNat)
    ?_ ⟨hretries, 0, Nat.zero_add _, rfl⟩ hfuel
  rintro tr st' ⟨hne, n, hn, htr⟩
  have hpos := toNat_pos hne
  have hdec := toNat_sub_one hne
  have hattempt : ∀ tr' : List InitEvent, SelfTests 1 tr' →
      ∃ n, 1 ≤ n ∧ n ≤ st.retries.toNat ∧ SelfTests n (tr ++ tr') :=
    fun tr' htr' => ⟨n + 1, by omega, by omega, htr.append htr'⟩
  refine satisfies_selfTestAttempt (fun r _ => ?_) (fun r _ hagain => ?_) fun r _ _ => ?_
  · exact hattempt _ rfl
  · refine ⟨⟨hagain, n + 1, ?_, htr.append rfl⟩, ?_⟩
    · dsimp only
      omega
    · dsimp only
      omega
  · exact hattempt _ rfl

/-- Without attempts to make, the counter wraps unless the first one succeeds. -/
theorem selfTest_wraps (st : SelfTestState) (hretries : st.retries = 0) (hfuel : 2 ^ 32 < fuel) :
    (Prog.loop selfTestAttempt fuel st).Satisfies False fun tr _ =>
      ∃ n, SelfTests n tr ∧ (n ≤ 1 ↔ FirstSelfTestClassified tr) := by
  obtain ⟨fuel, rfl⟩ := Nat.exists_eq_succ_of_ne_zero (Nat.ne_of_gt (Nat.zero_lt_of_lt hfuel))
  have hwrapped : st.retries - 1 ≠ 0 := by
    rw [hretries]
    decide
  refine satisfies_loop_succ (satisfies_selfTestAttempt (fun r hr => ?_) (fun r hr hagain => ?_)
    fun r _ hended => absurd hended hwrapped)
  · exact ⟨1, rfl, iff_of_true (Nat.le_refl 1) (by rintro _ ⟨⟩; exact hr)⟩
  · refine (selfTest_bounded _ hagain ?_).mono ?_
    · have hlt : (st.retries - 1).toNat < 2 ^ 32 := (st.retries - 1).toNat_lt
      exact Nat.lt_of_lt_of_le hlt (Nat.le_of_lt_succ hfuel)
    · rintro tr _ ⟨n, hn, -, htr⟩
      have hfirst : SelfTests 1 [selfTestEvent st r, delayEvent (500 * 1000)] := rfl
      refine ⟨1 + n, hfirst.append htr, iff_of_false (by omega) fun h => hr ?_⟩
      exact h r rfl

/-! ### The functions -/

variable {pcds : Pcds}

/-- A part of the run without commands. -/
def Silent (tr : List InitEvent) : Prop := commandsOf tr = [] ∧ selfTestOutcomes tr = []

/-- The run of `GetDeviceId`. -/
def DeviceIdParts (T : ℕ) (tr : List InitEvent) : Prop :=
  ∃ initial query polls, commandsOf tr = List.replicate initial deviceIdCommand ++
      List.replicate query contextCommand ++ List.replicate polls deviceIdCommand ∧
    initial ≤ T + 1 ∧ query ≤ 1 ∧ polls ≤ T ∧ selfTestOutcomes tr = []

theorem queryExecutionContext_bounded (st : DeviceIdState) (hfuel : 2 ^ 32 < fuel) :
    (queryExecutionContext pcds fuel st).Satisfies False fun tr _ =>
      ∃ polls ≤ pcds.ipmiBmcReadyDelayTimer.toNat, commandsOf tr =
        contextCommand :: List.replicate polls deviceIdCommand ∧ selfTestOutcomes tr = [] := by
  rw [queryExecutionContext, satisfies_ipmiSendCommand_bind]
  intro r
  dsimp only
  split_ifs with hforced
  · exact ⟨0, Nat.zero_le _, rfl, rfl⟩
  · have hretries : pcds.ipmiBmcReadyDelayTimer.toUInt32.toNat =
        pcds.ipmiBmcReadyDelayTimer.toNat := UInt8.toNat_toUInt32 _
    have hlt : pcds.ipmiBmcReadyDelayTimer.toNat < 256 := pcds.ipmiBmcReadyDelayTimer.toNat_lt
    refine satisfies_bind.2 ((awaitReady_bounded _ ?_).mono ?_)
    · dsimp only
      omega
    · rintro tr x ⟨n, hn, htr⟩
      refine ⟨n, hretries ▸ hn, ?_, ?_⟩
      · rw [List.append_nil]
        exact congrArg (contextCommand :: ·) htr.1
      · rw [List.append_nil]
        exact htr.2

theorem getDeviceId_bounded (inst : IpmiBmcInstanceData) (hfuel : 2 ^ 32 < fuel) :
    (getDeviceId pcds fuel inst).Satisfies False fun tr _ =>
      DeviceIdParts pcds.ipmiBmcReadyDelayTimer.toNat tr := by
  have hretries : pcds.ipmiBmcReadyDelayTimer.toUInt32.toNat =
      pcds.ipmiBmcReadyDelayTimer.toNat := UInt8.toNat_toUInt32 _
  have hlt : pcds.ipmiBmcReadyDelayTimer.toNat < 256 := pcds.ipmiBmcReadyDelayTimer.toNat_lt
  refine satisfies_bind.2 ((awaitDeviceId_bounded _ ?_).mono ?_)
  · dsimp only
    omega
  rintro tr ⟨answered, st⟩ ⟨n, hn, htr⟩
  have hn' : n ≤ pcds.ipmiBmcReadyDelayTimer.toNat + 1 := hretries ▸ hn
  have hended : DeviceIdParts pcds.ipmiBmcReadyDelayTimer.toNat (tr ++ []) :=
    ⟨n, 0, 0, by simpa using htr.1, hn', by omega, by omega, by simpa using htr.2⟩
  dsimp only
  cases answered with
  | false => exact hended
  | true =>
    rw [if_neg (not_not.2 rfl)]
    split_ifs
    · exact hended
    · refine (queryExecutionContext_bounded st hfuel).mono ?_
      rintro tr' _ ⟨polls, hpolls, htr', hnone⟩
      refine ⟨n, 1, polls, ?_, hn', Nat.le_refl 1, hpolls, ?_⟩
      · rw [commandsOf_append, htr.1, htr', List.append_assoc]
        rfl
      · rw [selfTestOutcomes_append, htr.2, hnone, List.append_nil]

theorem classifySelfTest_silent (inst : IpmiBmcInstanceData) (log : ErrorLog) :
    (classifySelfTest inst log).Satisfies False fun tr _ => Silent tr := by
  unfold classifySelfTest
  by_cases hok : (selfTestResult inst).result = selftestNoError ∨
      (selfTestResult inst).result = selftestNotImplemented
  · rw [if_pos hok]
    exact ⟨rfl, rfl⟩
  rw [if_neg hok]
  by_cases herror : (selfTestResult inst).result = selftestError
  · rw [if_pos herror]
    exact ⟨rfl, rfl⟩
  rw [if_neg herror]
  by_cases hfatal : (selfTestResult inst).result = selftestFatalHwError
  · rw [if_pos hfatal]
    exact ⟨rfl, rfl⟩
  rw [if_neg hfatal]
  exact fun _ => ⟨rfl, rfl⟩

theorem finishSelfTest_silent (st : SelfTestState) (log : ErrorLog) :
    (finishSelfTest st log).Satisfies False fun tr _ => Silent tr := by
  unfold finishSelfTest
  split_ifs
  · exact ⟨rfl, rfl⟩
  · refine satisfies_bind.2 ((classifySelfTest_silent _ log).mono fun tr x htr => ?_)
    have hsilent : Silent (tr ++ []) := by
      rw [List.append_nil]
      exact htr
    exact hsilent

theorem reportStatusCodes_silent (values : List StatusCodeValue) :
    (reportStatusCodes values).Satisfies False fun tr _ => Silent tr := by
  induction values with
  | nil => exact ⟨rfl, rfl⟩
  | cons value values ih => exact fun _ => ih.mono fun tr _ htr => htr

/-- The number of self tests is within its bound. -/
def SelfTestsBounded (pcds : Pcds) (tr : List InitEvent) : Prop :=
  ∃ n, SelfTests n tr ∧ (n ≤ max 1 pcds.ipmiBmcReadyDelayTimer.toNat ↔
    pcds.ipmiBmcReadyDelayTimer ≠ 0 ∨ pcds.bmcTimeoutSeconds ≠ 0 ∨ FirstSelfTestClassified tr)

theorem SelfTestsBounded.append_silent {tr tr' : List InitEvent} (h : SelfTestsBounded pcds tr)
    (h' : Silent tr') : SelfTestsBounded pcds (tr ++ tr') := by
  obtain ⟨n, htr, hiff⟩ := h
  refine ⟨n, ?_, ?_⟩
  · rw [SelfTests, commandsOf_append, h'.1, List.append_nil]
    exact htr
  · rw [FirstSelfTestClassified, selfTestOutcomes_append, h'.2, List.append_nil]
    exact hiff

theorem selfTestRetries_eq_zero_iff :
    selfTestRetries pcds = 0 ↔ pcds.ipmiBmcReadyDelayTimer = 0 ∧ pcds.bmcTimeoutSeconds = 0 := by
  have hzero : (0 : UInt8).toNat = 0 := rfl
  have hzero' : (0 : UInt32).toNat = 0 := rfl
  rw [← UInt8.toNat_inj, ← UInt8.toNat_inj, ← UInt32.toNat_inj]
  unfold selfTestRetries
  split_ifs with hlt <;> rw [UInt8.lt_iff_toNat_lt] at hlt
  · exact iff_of_false (by decide) fun h => by omega
  · rw [UInt8.toNat_toUInt32]
    exact ⟨fun h => ⟨h, by omega⟩, fun h => h.1⟩

theorem selfTestRetries_le :
    (selfTestRetries pcds).toNat ≤ max 1 pcds.ipmiBmcReadyDelayTimer.toNat := by
  unfold selfTestRetries
  split_ifs
  · exact Nat.le_max_left _ _
  · rw [UInt8.toNat_toUInt32]
    exact Nat.le_max_right _ _

theorem getSelfTest_bounded (inst : IpmiBmcInstanceData) (log : ErrorLog) (hfuel : 2 ^ 32 < fuel) :
    (getSelfTest pcds fuel inst log).Satisfies False fun tr _ => SelfTestsBounded pcds tr := by
  refine satisfies_bind.2 (Satisfies.mono (Q := fun tr _ => SelfTestsBounded pcds tr) ?_
    fun tr st htr => (finishSelfTest_silent st log).mono fun tr' _ htr' => htr.append_silent htr')
  by_cases hzero : selfTestRetries pcds = 0
  · obtain ⟨hdelay, htimeout⟩ := selfTestRetries_eq_zero_iff.1 hzero
    refine (selfTest_wraps _ hzero hfuel).mono ?_
    rintro tr _ ⟨n, htr, hiff⟩
    refine ⟨n, htr, ?_⟩
    rw [hdelay, htimeout]
    simpa using hiff
  · have hne : pcds.ipmiBmcReadyDelayTimer ≠ 0 ∨ pcds.bmcTimeoutSeconds ≠ 0 :=
      not_and_or.1 fun h => hzero (selfTestRetries_eq_zero_iff.2 h)
    have hlt : (selfTestRetries pcds).toNat < 2 ^ 32 := (selfTestRetries pcds).toNat_lt
    refine (selfTest_bounded _ hzero (Nat.lt_trans hlt hfuel)).mono ?_
    rintro tr _ ⟨n, -, hn, htr⟩
    refine ⟨n, htr, iff_of_true (Nat.le_trans hn selfTestRetries_le) ?_⟩
    exact hne.imp_right .inl

theorem checkSelfTest_bounded (status : EfiStatus) (inst : IpmiBmcInstanceData)
    (hfuel : 2 ^ 32 < fuel) :
    (checkSelfTest pcds fuel status inst).Satisfies False fun tr _ => SelfTestsBounded pcds tr := by
  unfold checkSelfTest
  split_ifs
  · exact getSelfTest_bounded inst .empty hfuel
  · exact ⟨0, rfl, iff_of_true (Nat.zero_le _) (.inr (.inr nofun))⟩

/-- The number of self tests decides. -/
theorem bounded_iff {tr tr' : List InitEvent}
    (hdevice : DeviceIdParts pcds.ipmiBmcReadyDelayTimer.toNat tr)
    (hselfTest : SelfTestsBounded pcds tr') :
    Bounded pcds.ipmiBmcReadyDelayTimer.toNat (tr ++ tr') ↔ pcds.ipmiBmcReadyDelayTimer ≠ 0 ∨
      pcds.bmcTimeoutSeconds ≠ 0 ∨ FirstSelfTestClassified (tr ++ tr') := by
  obtain ⟨initial, query, polls, htr, hinitial, hquery, hpolls, hnone⟩ := hdevice
  obtain ⟨n, htr', hiff⟩ := hselfTest
  have hcommands : commandsOf (tr ++ tr') = List.replicate initial deviceIdCommand ++
      List.replicate query contextCommand ++ List.replicate polls deviceIdCommand ++
        List.replicate n selfTestCommand := by
    rw [commandsOf_append, htr, htr']
  have hfirst : FirstSelfTestClassified (tr ++ tr') ↔ FirstSelfTestClassified tr' := by
    rw [FirstSelfTestClassified, selfTestOutcomes_append, hnone, List.nil_append]
    rfl
  rw [hfirst, ← hiff]
  constructor
  · rintro ⟨⟨initial', query', polls', n', heq, -, -, -, hn'⟩, -⟩
    -- the self tests of the two decompositions are the same
    have hcount := congrArg (List.count selfTestCommand) (hcommands.symm.trans heq)
    have hdeviceId : (deviceIdCommand == selfTestCommand) = false := by decide
    have hcontext : (contextCommand == selfTestCommand) = false := by decide
    simp only [List.count_append, List.count_replicate, hdeviceId, hcontext, beq_self_eq_true,
      Bool.false_eq_true, if_true, if_false, Nat.zero_add] at hcount
    rw [hcount]
    exact hn'
  · intro hn
    refine ⟨⟨initial, query, polls, n, hcommands, hinitial, hquery, hpolls, hn⟩, ?_⟩
    simp only [hcommands, List.length_append, List.length_replicate]
    omega

/-- **When the initialization is bounded.**  The initialization always returns, and it sends no more
commands than it should if and only if one of the two timers is not 0 or the first self-test
command, if there is one, gets a classified result. -/
theorem ipmiInitializeBmc_bounded_iff (pcds : Pcds) (fuel : ℕ) (inst : IpmiBmcInstanceData)
    (hfuel : 2 ^ 32 < fuel) :
    (ipmiInitializeBmc pcds fuel inst).Satisfies False fun tr _ =>
      Bounded pcds.ipmiBmcReadyDelayTimer.toNat tr ↔ pcds.ipmiBmcReadyDelayTimer ≠ 0 ∨
        pcds.bmcTimeoutSeconds ≠ 0 ∨ FirstSelfTestClassified tr := by
  rw [ipmiInitializeBmc, satisfies_platformIpmiInitialize_bind]
  intro status
  have hplatform : DeviceIdParts pcds.ipmiBmcReadyDelayTimer.toNat
      [⟨.platformIpmiInitialize, status⟩] :=
    ⟨0, 0, 0, rfl, Nat.zero_le _, Nat.zero_le _, Nat.zero_le _, rfl⟩
  have hnoSelfTest : SelfTestsBounded pcds [] :=
    ⟨0, rfl, iff_of_true (Nat.zero_le _) (.inr (.inr nofun))⟩
  split_ifs
  · exact bounded_iff hplatform hnoSelfTest
  refine satisfies_bind.2 ((getDeviceId_bounded inst hfuel).mono ?_)
  rintro tr ⟨status', inst'⟩ hdevice
  refine satisfies_bind.2 ((checkSelfTest_bounded status' inst' hfuel).mono ?_)
  rintro tr' ⟨status'', inst'', log⟩ hselfTest
  refine satisfies_bind.2 ((reportStatusCodes_silent log.values).mono fun tr'' _ hsilent => ?_)
  obtain ⟨initial, query, polls, htr, hbounds⟩ := hdevice
  have hdevice' : DeviceIdParts pcds.ipmiBmcReadyDelayTimer.toNat
      (⟨.platformIpmiInitialize, status⟩ :: tr) := ⟨initial, query, polls, htr, hbounds⟩
  have hiff := bounded_iff hdevice' (hselfTest.append_silent hsilent)
  simpa using hiff

/-- An instance whose `TempData` holds a self-test result. -/
def testedInstance (result : UInt8) : IpmiBmcInstanceData :=
  idleInstance.storeTemp 0 [compCodeNormal, result, 0]

/-- A BMC that is ready, and answers the self test from the third command on. -/
def lateBmc : Handler InitCall InitCall.Answer ℕ
  | .platformIpmiInitialize, n => (.success, n)
  | .ipmiSendCommand _ command inst dataSize, n =>
    if command = appGetDeviceId then
      (⟨.success, idleInstance, dataSize, []⟩, n)
    else if n < 2 then
      (⟨.timeout, inst, dataSize, []⟩, n + 1)
    else
      (⟨.success, testedInstance selftestNoError, dataSize, []⟩, n + 1)
  | .microSecondDelay _, n => ((), n)
  | .getDeviceSpecificTestResults _ bmcStatus, n => (bmcStatus, n)
  | .reportStatusCode _, n => ((), n)

/-- With both timers 0 there are three self tests instead of one. -/
theorem ipmiInitializeBmc_not_bounded :
    ¬ (ipmiInitializeBmc ⟨0, 0, true⟩ (2 ^ 32 + 1) idleInstance).Satisfies False fun tr _ =>
      Bounded 0 tr := by
  intro h
  have hrun : ((ipmiInitializeBmc ⟨0, 0, true⟩ (2 ^ 32 + 1) idleInstance).exec lateBmc 0).map
      (fun x => (commandsOf x.2.1).length) = some 4 := by decide
  obtain ⟨⟨r, tr, n⟩, hexec, hlength⟩ := Option.map_eq_some_iff.1 hrun
  have htotal := (h.of_exec hexec).total
  rw [hlength] at htotal
  revert htotal
  decide

theorem ipmiInitializeBmc_bounded_iff_thirtySeconds :
    (ipmiInitializeBmc ⟨30, 15, true⟩ (2 ^ 32 + 1) idleInstance).Satisfies False fun tr _ =>
      Bounded (30 : UInt8).toNat tr ↔
        (30 : UInt8) ≠ 0 ∨ (15 : UInt8) ≠ 0 ∨ FirstSelfTestClassified tr :=
  ipmiInitializeBmc_bounded_iff ⟨30, 15, true⟩ _ _ (Nat.lt_succ_self _)

end Initialize

end IpmiFeature
