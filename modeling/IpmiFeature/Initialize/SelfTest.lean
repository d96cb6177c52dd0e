import IpmiFeature.Initialize.Bounds

/-!
# Classifying the self test

`GetSelfTest` reads `TempData[1]`, which is the result, where the parameter stands in `TempData[2]`,
and the results it passes on to `GetDeviceSpecificTestResults` never leave the retry loop.
`ProperSelfTest` says what should come of the first normal reply, and `getSelfTest_proper_iff` when
it does.
-/

namespace IpmiFeature

open Interaction Prog Generic

namespace Initialize

/-- What the platform is asked in a call, and the `BmcStatus` it decides on. -/
def decisionOf : InitEvent → Option (SelfTestResult × UInt32)
  | ⟨.getDeviceSpecificTestResults result _, bmcStatus⟩ => some (result, bmcStatus)
  | _ => none

/-- The decisions of the platform in a trace. -/
def decisions (tr : List InitEvent) : List (SelfTestResult × UInt32) := tr.filterMap decisionOf

@[simp] theorem decisions_append (tr tr' : List InitEvent) :
    decisions (tr ++ tr') = decisions tr ++ decisions tr' := List.filterMap_append

/-- What should come of the first normal reply, which has the payload `[result, param]`. -/
structure ProperSelfTest (tr : List InitEvent) (log : ErrorLog) (status : EfiStatus)
    (inst : IpmiBmcInstanceData) (log' : ErrorLog) : Prop where
  /-- No error, or no self test. -/
  ok : ∀ r result param, firstResponse tr = some r → r.payload = [result, param] →
    result = selftestNoError ∨ result = selftestNotImplemented → inst.bmcStatus = bmcOk
  /-- An error: the bits of the parameter say which. -/
  error : ∀ r param, firstResponse tr = some r → r.payload = [selftestError, param] →
    inst.bmcStatus = (if param &&& (selftestFwCorrupt ||| selftestFwBootblockCorrupt |||
      selftestFruCorrupt) ≠ 0 then bmcHardfail else bmcSoftfail) ∧
    (.sdrEmpty ∈ log'.values.drop log.values.length ↔ param &&& selftestSdrRepositoryEmpty ≠ 0)
  /-- A fatal error. -/
  fatal : ∀ r param, firstResponse tr = some r → r.payload = [selftestFatalHwError, param] →
    inst.bmcStatus = bmcHardfail
  /-- Any other result is for the platform to decide. -/
  deviceSpecific : ∀ r result param, firstResponse tr = some r → r.payload = [result, param] →
    ¬ Classified result → ∃ completionCode,
      (⟨completionCode, result, param⟩, inst.bmcStatus) ∈ decisions tr
  /-- Success says that there is a result, and that it is in `ErrorStatus`. -/
  success : status = .success → ∃ r, firstResponse tr = some r ∧
    (byteOfLong inst.errorStatus).slice 1 r.payload.length = r.payload

/-- The results that `GetSelfTest` treats as it should. -/
def WellClassified (result param : UInt8) : Prop :=
  result = selftestNoError ∨ result = selftestNotImplemented ∨ result = selftestFatalHwError ∨
    (result = selftestError ∧
      param &&& (selftestFwCorrupt ||| selftestFwBootblockCorrupt ||| selftestFruCorrupt) ≠ 0 ∧
        param &&& selftestSdrRepositoryEmpty = 0)

theorem WellClassified.classified {result param : UInt8} (h : WellClassified result param) :
    Classified result := by
  rcases h with h | h | h | ⟨h, -⟩
  · exact .inl h
  · exact .inr (.inl h)
  · exact .inr (.inr (.inr h))
  · exact .inr (.inr (.inl h))

/-! ### The loop -/

variable {fuel : ℕ} {maxRetries : UInt8}

/-- The loop does not ask the platform, and if it has not used up its retries it has found a
classified result. -/
theorem selfTest_noDecision (st : SelfTestState) :
    (Prog.loop selfTestAttempt fuel st).Satisfies True fun tr st' => decisions tr = [] ∧
      (st'.retries = 0 ∨ Classified (selfTestResult st'.inst).result) := by
  refine satisfies_loop (I := fun tr _ => decisions tr = []) ?_ fuel rfl
  intro tr st' htr
  have hattempt : ∀ tr', decisions tr' = [] → decisions (tr ++ tr') = [] := by
    intro tr' htr'
    rw [decisions_append, htr, htr', List.append_nil]
  exact satisfies_selfTestAttempt (fun r hr => ⟨hattempt _ rfl, .inr hr.2⟩)
    (fun r _ _ => hattempt _ rfl) fun r _ hzero => ⟨hattempt _ rfl, .inl hzero⟩

theorem firstResponse_attempt (tr tr' : List InitEvent) (st : SelfTestState) (r : SendOutcome)
    (htr' : answers tr' = []) : firstResponse (tr ++ selfTestEvent st r :: tr') =
      (firstResponse tr).or (answerOf r.transport) := by
  rw [firstResponse_append]
  congr 1
  have hanswers : answers (selfTestEvent st r :: tr') = [answerOf r.transport] :=
    congrArg (answerOf r.transport :: ·) htr'
  rw [firstResponse, hanswers]
  cases answerOf r.transport <;> rfl

/-- Without retries in the layer below every command succeeds. -/
theorem selfTest_unanswered (st : SelfTestState) :
    (Prog.loop selfTestAttempt fuel st).Satisfies True fun tr st' =>
      (∀ event ∈ tr, Genuine 0 event) → st'.status = .success := by
  refine satisfies_loop (I := fun _ _ => True) ?_ fuel trivial
  intro tr st' _
  have hattempt : ∀ (r : SendOutcome) (tr' : List InitEvent),
      (∀ event ∈ tr ++ selfTestEvent st' r :: tr', Genuine 0 event) → r.status = .success := by
    intro r tr' hgenuine
    exact (hgenuine (selfTestEvent st' r) (by simp)).unanswered.2
  exact satisfies_selfTestAttempt (fun r _ => hattempt r _) (fun _ _ _ => trivial)
    fun r _ _ => hattempt r _

/-- What a command leaves behind that is answered with a result, as long as nothing has been
delivered before. -/
structure HasResult (result param : UInt8) (status : EfiStatus) (inst : IpmiBmcInstanceData)
    (dataSize : UInt32) : Prop where
  status_eq : status = .success
  dataSize_eq : dataSize.toNat = 3
  /-- The parameter is in front of the payload. -/
  temp_eq : inst.temp.slice 0 3 = [param, result, param]

theorem HasResult.selfTestResult {result param : UInt8} {status : EfiStatus}
    {inst : IpmiBmcInstanceData} {dataSize : UInt32}
    (h : HasResult result param status inst dataSize) :
    selfTestResult inst = ⟨param, result, param⟩ := by
  have hslice : [inst.temp 0, inst.temp 1, inst.temp 2] = [param, result, param] := h.temp_eq
  simp only [List.cons.injEq] at hslice
  rw [Initialize.selfTestResult, hslice.1, hslice.2.1, hslice.2.2.1]

theorem hasResult_of_outcome {args : CommandArgs UInt8} {r : Response} {result param : UInt8}
    {status : EfiStatus} {inst : IpmiBmcInstanceData} {dataSize : UInt32}
    (h : Outcome args maxTempData (some r) status inst dataSize) (hr : r.payload = [result, param]) :
    HasResult result param status inst dataSize := by
  have hlen : r.payload.length = 2 := by rw [hr]; rfl
  have hfits : r.payload.length ≤ maxTempData := by
    rw [hlen]
    decide
  refine ⟨h.success_iff.2 ⟨r, rfl, hfits⟩, ?_, ?_⟩
  · rw [h.dataSize_eq, roomAfter, if_neg fun hlong => absurd hfits (Nat.not_le.2 hlong.1), hlen]
  · have htemp := h.temp_eq r rfl hfits
    rw [hr] at htemp
    exact htemp

/-- The loop has not seen a normal reply yet. -/
structure Waiting (start st : SelfTestState) (tr : List InitEvent) : Prop where
  firstResponse_eq : firstResponse tr = none
  dataSize_eq : st.dataSize.toNat = maxTempData
  /-- Only the first attempt is made without any left. -/
  retries : answers tr = [] ∧ st.retries = start.retries ∨
    (answers tr).head? = some none ∧ st.retries ≠ 0

/-- The first normal reply was not a classified result. -/
def Missed (tr : List InitEvent) : Prop := ∃ r, firstResponse tr = some r ∧
  ∀ result param, r.payload = [result, param] → ¬ Classified result

/-- The loop is left with the first normal reply, which is a classified result. -/
structure FoundResult (start st : SelfTestState) (first : Prop) (result param : UInt8) : Prop where
  hasResult : HasResult result param st.status st.inst st.dataSize
  retries_eq_zero_iff : st.retries = 0 ↔ start.retries = 0 ∧ first

variable {start st : SelfTestState} {tr tr' : List InitEvent} {r : SendOutcome}

theorem Waiting.outcome (hretries : maxRetries ≠ 0) (h : Waiting start st tr)
    (hr : Genuine maxRetries (selfTestEvent st r)) :
    Outcome (tempDataArgs netfnApp appGetSelftestResults).narrow maxTempData (answerOf r.transport)
      r.status r.inst r.dataSize := by
  have hsize : st.dataSize.toNat < 256 := by
    rw [h.dataSize_eq]
    decide
  have houtcome := hr.outcome hretries hsize
  rw [h.dataSize_eq] at houtcome
  exact houtcome

theorem Waiting.firstResponse_attempt (h : Waiting start st tr) (htr' : answers tr' = []) :
    firstResponse (tr ++ selfTestEvent st r :: tr') = answerOf r.transport := by
  rw [Initialize.firstResponse_attempt tr tr' st r htr', h.firstResponse_eq]
  rfl

theorem answers_attempt (htr' : answers tr' = []) :
    answers (tr ++ selfTestEvent st r :: tr') = answers tr ++ [answerOf r.transport] := by
  rw [answers_append]
  exact congrArg (answers tr ++ answerOf r.transport :: ·) htr'

/-- A classified result ends the wait. -/
theorem Waiting.found (tr' : List InitEvent) (hretries : maxRetries ≠ 0) (h : Waiting start st tr)
    (hr : Genuine maxRetries (selfTestEvent st r)) (hclassified : r.IsClassified)
    (htr' : answers tr' = []) : ∃ ρ, firstResponse (tr ++ selfTestEvent st r :: tr') = some ρ ∧
      ∀ result param, ρ.payload = [result, param] → FoundResult start (st.afterSend r)
        ((answers (tr ++ selfTestEvent st r :: tr')).head? = some (some ρ)) result param := by
  have houtcome := h.outcome hretries hr
  obtain ⟨ρ, hρ, -⟩ := houtcome.success_iff.1 hclassified.1
  refine ⟨ρ, (h.firstResponse_attempt htr').trans hρ, fun result param hpayload => ?_⟩
  rw [hρ] at houtcome
  refine ⟨hasResult_of_outcome houtcome hpayload, ?_⟩
  rw [answers_attempt htr', hρ]
  rcases h.retries with ⟨hnone, hsame⟩ | ⟨hhead, hne⟩
  · rw [hnone]
    exact ⟨fun hzero => ⟨hsame.symm.trans hzero, rfl⟩, fun hzero => hsame.trans hzero.1⟩
  · refine iff_of_false hne ?_
    rintro ⟨-, hfirst⟩
    rw [List.head?_append, hhead] at hfirst
    cases hfirst

/-- An attempt without a classified result misses the first normal reply, or the wait goes on. -/
theorem Waiting.next (tr' : List InitEvent) (hretries : maxRetries ≠ 0) (h : Waiting start st tr)
    (hr : Genuine maxRetries (selfTestEvent st r)) (hclassified : ¬ r.IsClassified)
    (htr' : answers tr' = []) : Missed (tr ++ selfTestEvent st r :: tr') ∨
      r.status ≠ .success ∧ firstResponse (tr ++ selfTestEvent st r :: tr') = none ∧
        r.dataSize.toNat = maxTempData ∧
          (answers (tr ++ selfTestEvent st r :: tr')).head? = some none := by
  have houtcome := h.outcome hretries hr
  have hfirst := h.firstResponse_attempt (r := r) htr'
  cases hanswer : answerOf r.transport with
  | none =>
    rw [hanswer] at houtcome hfirst
    refine .inr ⟨fun hsuccess => ?_, hfirst, houtcome.dataSize_eq, ?_⟩
    · obtain ⟨_, ⟨⟩, -⟩ := houtcome.success_iff.1 hsuccess
    · rw [answers_attempt htr', hanswer]
      rcases h.retries with ⟨hnone, -⟩ | ⟨hhead, -⟩
      · rw [hnone]
        rfl
      · rw [List.head?_append, hhead]
        rfl
  | some ρ =>
    rw [hanswer] at houtcome hfirst
    refine .inl ⟨ρ, hfirst, fun result param hpayload hresult => hclassified ?_⟩
    have hhas := hasResult_of_outcome houtcome hpayload
    refine ⟨hhas.status_eq, ?_⟩
    rw [hhas.selfTestResult]
    exact hresult

/-- What the loop has found out when it is left. -/
def SelfTestEnd (start st : SelfTestState) (tr : List InitEvent) : Prop :=
  (firstResponse tr = none → st.status ≠ .success) ∧
    ∀ r result param, firstResponse tr = some r → r.payload = [result, param] →
      Classified result → FoundResult start st ((answers tr).head? = some (some r)) result param

theorem Missed.selfTestEnd (h : Missed tr) : SelfTestEnd start st tr := by
  obtain ⟨ρ, hρ, hresult⟩ := h
  refine ⟨fun hnone => ?_, fun r result param hr hpayload hclassified => ?_⟩
  · rw [hρ] at hnone
    cases hnone
  · rw [hρ] at hr
    cases hr
    exact absurd hclassified (hresult result param hpayload)

/-- A first normal reply that was missed stays the first one. -/
theorem Missed.append (h : Missed tr) (tr' : List InitEvent) : Missed (tr ++ tr') := by
  obtain ⟨ρ, hρ, hresult⟩ := h
  refine ⟨ρ, ?_, hresult⟩
  rw [firstResponse_append, hρ]
  rfl

/-- What the loop makes of the answers, up to the first normal reply. -/
theorem selfTest_answered (hretries : maxRetries ≠ 0) (start : SelfTestState)
    (hsize : start.dataSize.toNat = maxTempData) :
    (Prog.loop selfTestAttempt fuel start).Satisfies True fun tr st =>
      (∀ event ∈ tr, Genuine maxRetries event) → SelfTestEnd start st tr := by
  refine satisfies_loop (I := fun tr st => (∀ event ∈ tr, Genuine maxRetries event) →
    Missed tr ∨ Waiting start st tr) ?_ fuel fun _ => .inr ⟨rfl, hsize, .inl ⟨rfl, rfl⟩⟩
  intro tr st htr
  refine satisfies_selfTestAttempt (fun r hr hgenuine => ?_) (fun r hr hagain hgenuine => ?_)
    fun r hr hended hgenuine => ?_
  all_goals
    rw [List.forall_mem_append, List.forall_mem_cons] at hgenuine
    obtain ⟨hbefore, hthis, -⟩ := hgenuine
  · obtain hmissed | hwait := htr hbefore
    · exact (hmissed.append _).selfTestEnd
    obtain ⟨ρ, hρ, hfound⟩ := hwait.found [] hretries hthis hr rfl
    refine ⟨fun hnone => ?_, fun r' result param hr' hpayload _ => ?_⟩
    · rw [hρ] at hnone
      cases hnone
    · rw [hρ] at hr'
      cases hr'
      exact hfound result param hpayload
  · obtain hmissed | hwait := htr hbefore
    · exact .inl (hmissed.append _)
    refine (hwait.next _ hretries hthis hr rfl).imp_right ?_
    rintro ⟨-, hnone, hsame, hhead⟩
    exact ⟨hnone, hsame, .inr ⟨hhead, hagain⟩⟩
  · obtain hmissed | hwait := htr hbefore
    · exact (hmissed.append _).selfTestEnd
    obtain hmissed | ⟨hstatus, hnone, -⟩ :=
      hwait.next [delayEvent (500 * 1000)] hretries hthis hr rfl
    · exact hmissed.selfTestEnd
    · refine ⟨fun _ => hstatus, fun r' _ _ hr' => ?_⟩
      rw [hnone] at hr'
      cases hr'

/-- The commands leave `ErrorStatus` alone. -/
theorem selfTest_errorStatus (maxRetries : UInt8) (st : SelfTestState) :
    (Prog.loop selfTestAttempt fuel st).Satisfies True fun tr st' =>
      (∀ event ∈ tr, Genuine maxRetries event) → st'.inst.errorStatus = st.inst.errorStatus := by
  refine satisfies_loop (I := fun tr st' => (∀ event ∈ tr, Genuine maxRetries event) →
    st'.inst.errorStatus = st.inst.errorStatus) ?_ fuel fun _ => rfl
  intro tr st' hst'
  have hattempt : ∀ (r : SendOutcome) (tr' : List InitEvent),
      (∀ event ∈ tr ++ selfTestEvent st' r :: tr', Genuine maxRetries event) →
        r.inst.errorStatus = st.inst.errorStatus := by
    intro r tr' hgenuine
    rw [List.forall_mem_append, List.forall_mem_cons] at hgenuine
    obtain ⟨hbefore, hr, -⟩ := hgenuine
    exact hr.frame.errorStatus_eq.trans (hst' hbefore)
  exact satisfies_selfTestAttempt (fun r _ => hattempt r _) (fun r _ _ => hattempt r _)
    fun r _ _ => hattempt r _

/-! ### After the loop -/

variable {log : ErrorLog}

theorem finishSelfTest_of_failed (h : st.status ≠ .success ∨ st.retries = 0) :
    finishSelfTest st log =
      pure (st.status, { st.inst with bmcStatus := bmcHardfail }, log.append .commError) := by
  unfold finishSelfTest
  rw [if_pos (h.imp_left EfiStatus.isError_iff.2)]

/-- The results that stand for a BMC without errors. -/
def Passed (result : UInt8) : Prop := result = selftestNoError ∨ result = selftestNotImplemented

instance : DecidablePred Passed := fun _ => inferInstanceAs (Decidable (_ ∨ _))

/-- A result that was found passes, or it is a hard failure; the parameter does not matter. -/
theorem finishSelfTest_of_hasResult {result param : UInt8}
    (h : HasResult result param st.status st.inst st.dataSize) (hclassified : Classified result)
    (hretries : st.retries ≠ 0) :
    finishSelfTest st log = pure (.success,
      { copyErrorStatus st.dataSize st.inst with
        bmcStatus := if Passed result then bmcOk else bmcHardfail },
      if Passed result then log else log.append .hardFail) := by
  have hresult : selfTestResult (copyErrorStatus st.dataSize st.inst) = ⟨param, result, param⟩ :=
    h.selfTestResult
  have htemp : (copyErrorStatus st.dataSize st.inst).temp 1 = result :=
    congrArg SelfTestResult.result hresult
  unfold finishSelfTest
  rw [if_neg (by simp [h.status_eq, hretries])]
  unfold classifySelfTest
  simp only [hresult, htemp]
  rcases hclassified with rfl | rfl | rfl | rfl <;> rfl

theorem HasResult.errorStatus {result param : UInt8} {status : EfiStatus}
    {inst : IpmiBmcInstanceData} {dataSize : UInt32}
    (h : HasResult result param status inst dataSize) :
    (byteOfLong (copyErrorStatus dataSize inst).errorStatus).slice 1 2 = [result, param] := by
  have hcopied : inst.temp.slice 0 (min dataSize.toNat 8) = [param, result, param] := by
    rw [h.dataSize_eq]
    exact h.temp_eq
  have hbyte : ∀ i < 3, byteOfLong (copyErrorStatus dataSize inst).errorStatus i =
      (byteOfLong inst.errorStatus).store 0 [param, result, param] (0 + i) := by
    intro i hi
    rw [copyErrorStatus, hcopied]
    exact byteOfLong_longOf _ 0 (by omega)
  have hone := hbyte 1 (by decide)
  have htwo := hbyte 2 (by decide)
  exact congrArg₂ (fun x y => [x, y]) hone htwo

/-- Nothing that `GetSelfTest` appends says that the SDR repository is empty. -/
theorem sdrEmpty_not_mem_append {value : StatusCodeValue} (hvalue : value ≠ .sdrEmpty) :
    .sdrEmpty ∉ (log.append value).values.drop log.values.length := by
  unfold ErrorLog.append
  split_ifs
  · rw [List.drop_left]
    simpa using hvalue.symm
  · simp

/-! ### The function -/

variable {ρ : Response} {result param : UInt8} {status : EfiStatus} {inst : IpmiBmcInstanceData}
  {log' : ErrorLog}

/-- What should come of a first normal reply with the payload `[result, param]`. -/
theorem properSelfTest_iff (hfirst : firstResponse tr = some ρ)
    (hpayload : ρ.payload = [result, param]) :
    ProperSelfTest tr log status inst log' ↔
      (Passed result → inst.bmcStatus = bmcOk) ∧
      (result = selftestError →
        inst.bmcStatus = (if param &&& (selftestFwCorrupt ||| selftestFwBootblockCorrupt |||
          selftestFruCorrupt) ≠ 0 then bmcHardfail else bmcSoftfail) ∧
        (.sdrEmpty ∈ log'.values.drop log.values.length ↔ param &&& selftestSdrRepositoryEmpty ≠ 0)) ∧
      (result = selftestFatalHwError → inst.bmcStatus = bmcHardfail) ∧
      (¬ Classified result → ∃ completionCode,
        (⟨completionCode, result, param⟩, inst.bmcStatus) ∈ decisions tr) ∧
      (status = .success → (byteOfLong inst.errorStatus).slice 1 2 = [result, param]) := by
  have hunique : ∀ r result' param', firstResponse tr = some r → r.payload = [result', param'] →
      result' = result ∧ param' = param := by
    intro r result' param' hr hpayload'
    rw [hfirst] at hr
    cases hr
    rw [hpayload] at hpayload'
    cases hpayload'
    exact ⟨rfl, rfl⟩
  constructor
  · intro h
    refine ⟨h.ok ρ result param hfirst hpayload, ?_, ?_, h.deviceSpecific ρ result param hfirst hpayload,
      fun hstatus => ?_⟩
    · rintro rfl
      exact h.error ρ param hfirst hpayload
    · rintro rfl
      exact h.fatal ρ param hfirst hpayload
    · obtain ⟨r, hr, hcopied⟩ := h.success hstatus
      rw [hfirst] at hr
      cases hr
      rw [hpayload] at hcopied
      exact hcopied
  · rintro ⟨hok, herror, hfatal, hspecific, hsuccess⟩
    refine ⟨?_, ?_, ?_, ?_, fun hstatus => ⟨ρ, hfirst, ?_⟩⟩
    · intro r result' param' hr hpayload'
      obtain ⟨rfl, rfl⟩ := hunique r result' param' hr hpayload'
      exact hok
    · intro r param' hr hpayload'
      obtain ⟨rfl, rfl⟩ := hunique r selftestError param' hr hpayload'
      exact herror rfl
    · intro r param' hr hpayload'
      exact hfatal (hunique r selftestFatalHwError param' hr hpayload').1.symm
    · intro r result' param' hr hpayload'
      obtain ⟨rfl, rfl⟩ := hunique r result' param' hr hpayload'
      exact hspecific
    · rw [hpayload]
      exact hsuccess hstatus

/-- A hard failure without an entry for the SDR repository is right for the well-classified results
that do not pass. -/
theorem properSelfTest_hardfail_iff {value : StatusCodeValue} (hfirst : firstResponse tr = some ρ)
    (hpayload : ρ.payload = [result, param]) (hclassified : Classified result)
    (hhard : inst.bmcStatus = bmcHardfail) (hvalue : value ≠ .sdrEmpty) :
    ProperSelfTest tr log .success inst (log.append value) ↔ ¬ Passed result ∧
      WellClassified result param ∧ (byteOfLong inst.errorStatus).slice 1 2 = [result, param] := by
  have hne : bmcHardfail ≠ bmcOk := by decide
  have hne' : bmcHardfail ≠ bmcSoftfail := by decide
  rw [properSelfTest_iff hfirst hpayload, hhard]
  simp only [sdrEmpty_not_mem_append hvalue, hclassified, hne, not_true_eq_false, false_imp_iff,
    true_imp_iff, implies_true, true_and, false_iff, not_not, imp_false]
  refine and_congr_right fun hpassed => and_congr_left fun _ => ?_
  rcases hclassified with rfl | rfl | rfl | rfl
  · exact absurd (.inl rfl) hpassed
  · exact absurd (.inr rfl) hpassed
  · have hbits : bmcHardfail = (if param &&& (selftestFwCorrupt ||| selftestFwBootblockCorrupt |||
        selftestFruCorrupt) ≠ 0 then bmcHardfail else bmcSoftfail) ↔
        param &&& (selftestFwCorrupt ||| selftestFwBootblockCorrupt ||| selftestFruCorrupt) ≠ 0 := by
      split_ifs with h
      · exact iff_of_true rfl h
      · exact iff_of_false hne' h
    rw [forall_prop_of_true rfl, hbits]
    refine ⟨fun h => .inr (.inr (.inr ⟨rfl, h⟩)), fun h => ?_⟩
    obtain h | h | h | h := h
    · exact absurd (.inl h) hpassed
    · exact absurd (.inr h) hpassed
    · exact absurd h (by decide)
    · exact h.2
  · exact iff_of_true (fun h => absurd h (by decide)) (.inr (.inr (.inl rfl)))

/-- A result that passes should leave the BMC in order. -/
theorem properSelfTest_passed (hfirst : firstResponse tr = some ρ)
    (hpayload : ρ.payload = [result, param]) (hpassed : Passed result) (hok : inst.bmcStatus = bmcOk)
    (herrorStatus : (byteOfLong inst.errorStatus).slice 1 2 = [result, param]) :
    ProperSelfTest tr log .success inst log' := by
  refine (properSelfTest_iff hfirst hpayload).2 ⟨fun _ => hok, fun h => ?_, fun h => ?_, fun h => ?_,
    fun _ => herrorStatus⟩
  · subst h
    exact absurd hpassed (by decide)
  · subst h
    exact absurd hpassed (by decide)
  · exact absurd (hpassed.imp_right .inl) h

/-- What the result is, from what the loop has found. -/
theorem finishSelfTest_proper_iff {first : Prop} (hfound : FoundResult start st first result param)
    (hclassified : Classified result) (hfirst : firstResponse tr = some ρ)
    (hpayload : ρ.payload = [result, param]) :
    (finishSelfTest st log).Satisfies True fun tr' x => tr' = [] ∧
      (ProperSelfTest tr log x.1 x.2.1 x.2.2 ↔ WellClassified result param ∧
        (start.retries = 0 ∧ first → ¬ Passed result ∧
          (byteOfLong st.inst.errorStatus).slice 1 2 = [result, param])) := by
  by_cases hretries : st.retries = 0
  · rw [finishSelfTest_of_failed (.inr hretries), hfound.hasResult.status_eq]
    refine ⟨rfl, ?_⟩
    rw [properSelfTest_hardfail_iff hfirst hpayload hclassified rfl (by decide),
      forall_prop_of_true (hfound.retries_eq_zero_iff.1 hretries)]
    exact and_left_comm
  · rw [finishSelfTest_of_hasResult hfound.hasResult hclassified hretries]
    refine ⟨rfl, ?_⟩
    rw [and_iff_left fun h => absurd (hfound.retries_eq_zero_iff.2 h) hretries]
    have herrorStatus := hfound.hasResult.errorStatus
    by_cases hpassed : Passed result
    · simp only [if_pos hpassed]
      refine iff_of_true (properSelfTest_passed hfirst hpayload hpassed rfl herrorStatus) ?_
      exact hpassed.imp_right .inl
    · simp only [if_neg hpassed]
      rw [properSelfTest_hardfail_iff hfirst hpayload hclassified rfl (by decide)]
      exact ⟨fun h => h.2.1, fun h => ⟨hpassed, h, herrorStatus⟩⟩

/-- When the loop has found a classified result the platform is not asked. -/
theorem finishSelfTest_noDecision (h : st.retries = 0 ∨ Classified (selfTestResult st.inst).result) :
    (finishSelfTest st log).Satisfies True fun tr _ => decisions tr = [] := by
  unfold finishSelfTest
  split_ifs with hfailed
  · rfl
  have hresult : Classified (selfTestResult (copyErrorStatus st.dataSize st.inst)).result :=
    h.resolve_left fun hzero => hfailed (.inr hzero)
  unfold classifySelfTest
  obtain hresult | hresult | hresult | hresult := hresult
  all_goals
    simp only [hresult]
    rfl

/-- A command that succeeds without a reply passes for a result. -/
theorem finishSelfTest_success (st : SelfTestState) (log : ErrorLog) :
    (finishSelfTest st log).Satisfies True fun _ x => st.status = .success → x.1 = .success := by
  unfold finishSelfTest
  split_ifs
  · exact fun h => h
  · exact satisfies_bind.2 (satisfies_of_forall fun _ _ _ => rfl)

theorem getSelfTest_unanswered (pcds : Pcds) (inst : IpmiBmcInstanceData) (log : ErrorLog) :
    (getSelfTest pcds fuel inst log).Satisfies True fun tr x =>
      (∀ event ∈ tr, Genuine 0 event) → ¬ ProperSelfTest tr log x.1 x.2.1 x.2.2 := by
  refine satisfies_bind.2 ((selfTest_unanswered _).mono fun tr st hst => ?_)
  refine (finishSelfTest_success st log).mono fun tr' x hx hgenuine hproper => ?_
  obtain ⟨r, hr, -⟩ := hproper.success (hx (hst (List.forall_mem_append.1 hgenuine).1))
  rw [firstResponse_unanswered hgenuine] at hr
  cases hr

/-- The first normal reply that the commands of a trace got is a result with a parameter. -/
def AnswersResult (tr : List InitEvent) : Prop :=
  ∀ r, firstResponse tr = some r → ∃ result param, r.payload = [result, param]

theorem getSelfTest_answered (pcds : Pcds) (inst : IpmiBmcInstanceData) (log : ErrorLog)
    (hretries : maxRetries ≠ 0) :
    (getSelfTest pcds fuel inst log).Satisfies True fun tr x =>
      (∀ event ∈ tr, Genuine maxRetries event) → AnswersResult tr →
      (ProperSelfTest tr log x.1 x.2.1 x.2.2 ↔ ∀ r result param,
        firstResponse tr = some r → r.payload = [result, param] → WellClassified result param ∧
          (selfTestRetries pcds = 0 ∧ (answers tr).head? = some (some r) → ¬ Passed result ∧
            (byteOfLong inst.errorStatus).slice 1 2 = [result, param])) := by
  refine satisfies_bind.2 (((selfTest_noDecision _).and ((selfTest_answered hretries _ rfl).and
    (selfTest_errorStatus maxRetries _))).mono ?_)
  rintro tr st ⟨⟨hdecisions, hleft⟩, hend, herrorStatus⟩
  by_cases hgenuine : ∀ event ∈ tr, Genuine maxRetries event
  swap
  · exact satisfies_of_forall fun tr' x h => absurd (List.forall_mem_append.1 h).1 hgenuine
  obtain ⟨hnone, hfound⟩ := hend hgenuine
  cases hfirst : firstResponse tr with
  | none =>
    rw [finishSelfTest_of_failed (.inl (hnone hfirst)), pure_eq_ret, satisfies_ret, List.append_nil,
      hfirst]
    refine fun _ _ => iff_of_true ⟨?_, ?_, ?_, ?_, fun h => absurd h (hnone hfirst)⟩ nofun <;>
      rw [hfirst] <;> exact nofun
  | some ρ =>
    have hstays : ∀ tr', firstResponse (tr ++ tr') = some ρ := by
      intro tr'
      rw [firstResponse_append, hfirst]
      rfl
    by_cases hresult : ∃ result param, ρ.payload = [result, param]
    swap
    · exact satisfies_of_forall fun tr' x _ h => absurd (h ρ (hstays tr')) hresult
    obtain ⟨result, param, hpayload⟩ := hresult
    have hunique : ∀ {Q : Response → UInt8 → UInt8 → Prop}, (∀ r result param, some ρ = some r →
        r.payload = [result, param] → Q r result param) ↔ Q ρ result param := by
      intro Q
      refine ⟨fun h => h ρ result param rfl hpayload, ?_⟩
      rintro h r result' param' ⟨⟩ hpayload'
      rw [hpayload] at hpayload'
      cases hpayload'
      exact h
    by_cases hclassified : Classified result
    · refine (finishSelfTest_proper_iff (hfound ρ result param hfirst hpayload hclassified) hclassified
        hfirst hpayload).mono ?_
      rintro _ x ⟨rfl, hx⟩ - -
      rw [List.append_nil, hx, hfirst, hunique, herrorStatus hgenuine]
      rfl
    · refine (finishSelfTest_noDecision hleft).mono fun tr' x hdecisions' _ _ => ?_
      rw [hstays tr', hunique]
      refine iff_of_false (fun h => ?_) fun h => hclassified h.1.classified
      obtain ⟨completionCode, hmem⟩ :=
        h.deviceSpecific ρ result param (hstays tr') hpayload hclassified
      rw [decisions_append, hdecisions, hdecisions'] at hmem
      cases hmem

/-- **What comes of the self test.**  `GetSelfTest` returns, and what it makes of the first normal
reply is proper if and only if the commands are sent at all and that reply is a well-classified
result; in the first of the endless attempts that two timers of 0 give, it must also be a failure
that `ErrorStatus` holds already. -/
theorem getSelfTest_proper_iff (pcds : Pcds) (fuel : ℕ) (maxRetries : UInt8)
    (inst : IpmiBmcInstanceData) (log : ErrorLog) (hfuel : 2 ^ 32 < fuel) :
    (getSelfTest pcds fuel inst log).Satisfies False fun tr x =>
      (∀ event ∈ tr, Genuine maxRetries event) → AnswersResult tr →
      (ProperSelfTest tr log x.1 x.2.1 x.2.2 ↔ maxRetries ≠ 0 ∧ ∀ r result param,
        firstResponse tr = some r → r.payload = [result, param] → WellClassified result param ∧
          (pcds.ipmiBmcReadyDelayTimer = 0 ∧ pcds.bmcTimeoutSeconds = 0 ∧
              (answers tr).head? = some (some r) → ¬ Passed result ∧
            (byteOfLong inst.errorStatus).slice 1 2 = [result, param])) := by
  by_cases hretries : maxRetries = 0
  · subst hretries
    refine ((getSelfTest_bounded inst log hfuel).and (getSelfTest_unanswered pcds inst log)).mono ?_
    exact fun tr x h hgenuine _ => iff_of_false (h.2 hgenuine) fun h => h.1 rfl
  · refine ((getSelfTest_bounded inst log hfuel).and
      (getSelfTest_answered pcds inst log hretries)).mono fun tr x h hgenuine hresult => ?_
    rw [h.2 hgenuine hresult, and_iff_right hretries]
    simp only [selfTestRetries_eq_zero_iff, and_assoc]

/-- A BMC that answers the self test with an empty SDR repository. -/
def sdrEmptyBmc : ℕ → Attempt := fun _ => .ofReply [0x1C, 0x04, 0x00, 0x57, 0x08]

/-- An empty SDR repository is a hard failure. -/
theorem getSelfTest_not_proper :
    ∃ tr x, (getSelfTest ⟨30, 15, true⟩ (2 ^ 32 + 1) idleInstance .empty).Runs tr x ∧
      (∀ event ∈ tr, Genuine 1 event) ∧ AnswersResult tr ∧
        ¬ ProperSelfTest tr .empty x.1 x.2.1 x.2.2 := by
  have hrun : ((getSelfTest ⟨30, 15, true⟩ (2 ^ 32 + 1) idleInstance .empty).exec
      (overTransport 1 sdrEmptyBmc) 0).map
        (fun x => ((firstResponse x.2.1).map (·.payload), x.1.2.1.bmcStatus)) =
      some (some [0x57, 0x08], bmcHardfail) := by decide
  obtain ⟨⟨x, tr, n⟩, hexec, hresult⟩ := Option.map_eq_some_iff.1 hrun
  simp only [Prod.mk.injEq, Option.map_eq_some_iff] at hresult
  obtain ⟨⟨r, hr, hpayload⟩, hhard⟩ := hresult
  refine ⟨tr, x, .of_exec hexec, forall_event_of_exec (genuine_overTransport 1 sdrEmptyBmc) hexec,
    fun r' hr' => ?_, fun h => ?_⟩
  · rw [hr] at hr'
    cases hr'
    exact ⟨_, _, hpayload⟩
  · have herror := (h.error r 0x08 hr hpayload).1
    rw [hhard] at herror
    exact absurd herror (by decide)

theorem getSelfTest_proper_iff_thirtySeconds :
    (getSelfTest ⟨30, 15, true⟩ (2 ^ 32 + 1) idleInstance .empty).Satisfies False fun tr x =>
      (∀ event ∈ tr, Genuine 1 event) → AnswersResult tr →
      (ProperSelfTest tr .empty x.1 x.2.1 x.2.2 ↔ (1 : UInt8) ≠ 0 ∧ ∀ r result param,
        firstResponse tr = some r → r.payload = [result, param] → WellClassified result param ∧
          ((30 : UInt8) = 0 ∧ (15 : UInt8) = 0 ∧
              (answers tr).head? = some (some r) → ¬ Passed result ∧
            (byteOfLong idleInstance.errorStatus).slice 1 2 = [result, param])) :=
  getSelfTest_proper_iff ⟨30, 15, true⟩ _ 1 idleInstance .empty (Nat.lt_succ_self _)

end Initialize

end IpmiFeature
