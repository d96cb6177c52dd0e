import IpmiFeature.Generic.Answer
import IpmiFeature.Generic.Frame
import IpmiFeature.Initialize.Basic

/-!
# Runs of the initialization

The commands of a trace with their answers, and what one iteration of each loop does.  An outcome of
`IpmiSendCommand` is arbitrary here; `Genuine` says that it is one that `IpmiSendCommand` can have,
and then the answer decides it (`Genuine.outcome`).
-/

namespace IpmiFeature

open Interaction Prog Generic

namespace Initialize

/-! ### Commands and their answers -/

/-- A command, and what has answered it. -/
structure Exchange where
  netFunction : UInt8
  command : UInt8
  answer : Option Response
  deriving DecidableEq, Repr

/-- The command that an event sends. -/
def exchangeOf : InitEvent → Option Exchange
  | ⟨.ipmiSendCommand netFunction command _ _, r⟩ =>
    some ⟨netFunction, command, answerOf r.transport⟩
  | _ => none

/-- The commands of a trace, in order. -/
def exchanges (tr : List InitEvent) : List Exchange := tr.filterMap exchangeOf

@[simp] theorem exchanges_nil : exchanges [] = [] := rfl

@[simp] theorem exchanges_append (tr tr' : List InitEvent) :
    exchanges (tr ++ tr') = exchanges tr ++ exchanges tr' := List.filterMap_append

@[simp] theorem exchanges_cons_send (netFunction command : UInt8) (inst : IpmiBmcInstanceData)
    (dataSize : UInt32) (r : SendOutcome) (tr : List InitEvent) :
    exchanges (⟨.ipmiSendCommand netFunction command inst dataSize, r⟩ :: tr) =
      ⟨netFunction, command, answerOf r.transport⟩ :: exchanges tr := rfl

@[simp] theorem exchanges_cons_delay (microSeconds : ℕ) (u : Unit) (tr : List InitEvent) :
    exchanges (⟨.microSecondDelay microSeconds, u⟩ :: tr) = exchanges tr := rfl

variable {E : Prop} {α : Type} {Q : List InitEvent → α → Prop}

theorem satisfies_platformIpmiInitialize_bind {f : EfiStatus → InitProg α} :
    (platformIpmiInitialize >>= f).Satisfies E Q ↔ ∀ status,
      (f status).Satisfies E fun tr a => Q (⟨.platformIpmiInitialize, status⟩ :: tr) a := Iff.rfl

theorem satisfies_ipmiSendCommand_bind {netFunction command : UInt8} {inst : IpmiBmcInstanceData}
    {dataSize : UInt32} {f : SendOutcome → InitProg α} :
    (ipmiSendCommand netFunction command inst dataSize >>= f).Satisfies E Q ↔ ∀ r,
      (f r).Satisfies E fun tr a =>
        Q (⟨.ipmiSendCommand netFunction command inst dataSize, r⟩ :: tr) a := Iff.rfl

theorem satisfies_microSecondDelay_bind {microSeconds : ℕ} {f : Unit → InitProg α} :
    (microSecondDelay microSeconds >>= f).Satisfies E Q ↔
      ∀ u, (f u).Satisfies E fun tr a => Q (⟨.microSecondDelay microSeconds, u⟩ :: tr) a := Iff.rfl

/-- The outcome is one that `IpmiSendCommand` can have, with what has passed over the transport. -/
def Genuine (maxRetries : UInt8) : InitEvent → Prop
  | ⟨.ipmiSendCommand netFunction command inst dataSize, r⟩ =>
    ∃ uninit responseData responseData', (Generic.ipmiSendCommand maxRetries uninit
      (tempDataArgs netFunction command) ⟨inst, responseData, dataSize⟩).Runs r.transport
        (r.status, ⟨r.inst, responseData', r.dataSize⟩)
  | _ => True

/-- The answer decides the outcome. -/
theorem Genuine.outcome {maxRetries netFunction command : UInt8} {inst : IpmiBmcInstanceData}
    {dataSize : UInt32} {r : SendOutcome} (hretries : maxRetries ≠ 0) (hsize : dataSize.toNat < 256)
    (h : Genuine maxRetries ⟨.ipmiSendCommand netFunction command inst dataSize, r⟩) :
    Outcome (tempDataArgs netFunction command).narrow dataSize.toNat (answerOf r.transport) r.status
      r.inst r.dataSize := by
  obtain ⟨uninit, responseData, responseData', hrun⟩ := h
  exact (ipmiSendCommand_outcome hretries hsize).of_runs hrun

/-- Without retries nothing is sent or received, and the command succeeds. -/
theorem Genuine.unanswered {netFunction command : UInt8} {inst : IpmiBmcInstanceData}
    {dataSize : UInt32} {r : SendOutcome}
    (h : Genuine 0 ⟨.ipmiSendCommand netFunction command inst dataSize, r⟩) :
    answerOf r.transport = none ∧ r.status = .success := by
  obtain ⟨uninit, responseData, responseData', hrun⟩ := h
  exact ipmiSendCommand_unanswered.of_runs hrun

/-- A command leaves the rest of the instance alone. -/
theorem Genuine.frame {maxRetries netFunction command : UInt8} {inst : IpmiBmcInstanceData}
    {dataSize : UInt32} {r : SendOutcome}
    (h : Genuine maxRetries ⟨.ipmiSendCommand netFunction command inst dataSize, r⟩) :
    Frame inst r.inst := by
  obtain ⟨uninit, responseData, responseData', hrun⟩ := h
  exact (ipmiSendCommand_frame maxRetries uninit _ _).of_runs hrun

/-- The answers to the commands of a trace. -/
def answers (tr : List InitEvent) : List (Option Response) := (exchanges tr).map (·.answer)

/-- The first normal reply of a run. -/
def firstResponse (tr : List InitEvent) : Option Response := (answers tr).findSome? id

@[simp] theorem answers_append (tr tr' : List InitEvent) :
    answers (tr ++ tr') = answers tr ++ answers tr' := by
  simp [answers]

theorem firstResponse_append (tr tr' : List InitEvent) :
    firstResponse (tr ++ tr') = (firstResponse tr).or (firstResponse tr') := by
  simp [firstResponse, List.findSome?_append]

/-- Without retries in the layer below nothing is ever received. -/
theorem firstResponse_unanswered {tr : List InitEvent} (h : ∀ event ∈ tr, Genuine 0 event) :
    firstResponse tr = none := by
  rw [firstResponse, List.findSome?_eq_none_iff]
  intro answer hanswer
  obtain ⟨exchange, hexchange, rfl⟩ := List.mem_map.1 hanswer
  obtain ⟨⟨call, r⟩, hevent, heq⟩ := List.mem_filterMap.1 hexchange
  cases call with
  | ipmiSendCommand =>
    cases heq
    exact (h _ hevent).unanswered.1
  | platformIpmiInitialize | microSecondDelay | getDeviceSpecificTestResults | reportStatusCode =>
    cases heq

/-! ### One iteration -/

/-- `Get Device ID`. -/
def deviceIdEvent (st : DeviceIdState) (r : SendOutcome) : InitEvent :=
  ⟨.ipmiSendCommand netfnApp appGetDeviceId st.inst st.dataSize, r⟩

/-- `Get Self Test Results`. -/
def selfTestEvent (st : SelfTestState) (r : SendOutcome) : InitEvent :=
  ⟨.ipmiSendCommand netfnApp appGetSelftestResults st.inst st.dataSize, r⟩

/-- A delay. -/
def delayEvent (microSeconds : ℕ) : InitEvent := ⟨.microSecondDelay microSeconds, ()⟩

variable {st : DeviceIdState}

theorem satisfies_awaitDeviceId
    {Q : List InitEvent → Iter DeviceIdState (Bool × DeviceIdState) → Prop}
    (hanswered : ∀ r : SendOutcome, r.status = .success →
      Q [deviceIdEvent st r] (.done (true, st.afterSend r)))
    (hfailed : ∀ r : SendOutcome, r.status ≠ .success → st.retries = 0 →
      Q [deviceIdEvent st r] (.done (false, (st.afterSend r).setStatus bmcHardfail)))
    (hagain : ∀ r : SendOutcome, r.status ≠ .success → st.retries ≠ 0 →
      Q [deviceIdEvent st r, delayEvent (1 * 1000 * 1000)]
        (.again { st.afterSend r with retries := st.retries - 1 })) :
    (awaitDeviceId st).Satisfies E Q := by
  rw [awaitDeviceId, satisfies_ipmiSendCommand_bind]
  intro r
  by_cases hstatus : r.status = .success
  · rw [if_pos (by simp [DeviceIdState.afterSend, hstatus])]
    exact hanswered r hstatus
  · rw [if_neg (by simp [DeviceIdState.afterSend, hstatus])]
    change Satisfies E (if st.retries = 0 then _ else _) _
    by_cases hretries : st.retries = 0
    · rw [if_pos hretries]
      exact hfailed r hstatus hretries
    · rw [if_neg hretries, satisfies_microSecondDelay_bind]
      exact fun _ => hagain r hstatus hretries

theorem satisfies_awaitReady
    {Q : List InitEvent → Iter DeviceIdState (Bool × DeviceIdState) → Prop}
    (hfailed : st.retries = 0 → Q [] (.done (false, st.setStatus bmcHardfail)))
    (hready : ∀ r : SendOutcome, st.retries ≠ 0 → r.status = .success → updateMode r.inst = bmcReady →
      Q [delayEvent (1 * 1000 * 1000), deviceIdEvent st r]
        (.done (true, ({ st with retries := st.retries - 1 }.afterSend r).setStatus bmcOk)))
    (hagain : ∀ r : SendOutcome, st.retries ≠ 0 →
      ¬ (r.status = .success ∧ updateMode r.inst = bmcReady) →
        Q [delayEvent (1 * 1000 * 1000), deviceIdEvent st r]
          (.again ({ st with retries := st.retries - 1 }.afterSend r))) :
    (awaitReady st).Satisfies E Q := by
  unfold awaitReady
  by_cases hretries : st.retries = 0
  · rw [if_pos hretries]
    exact hfailed hretries
  · rw [if_neg hretries, satisfies_microSecondDelay_bind]
    intro _
    rw [satisfies_ipmiSendCommand_bind]
    intro r
    by_cases hr : r.status = .success ∧ updateMode r.inst = bmcReady
    · rw [if_pos ⟨by simp [DeviceIdState.afterSend, hr.1], hr.2⟩]
      exact hready r hretries hr.1 hr.2
    · rw [if_neg fun h => hr ⟨by simpa [DeviceIdState.afterSend] using h.1, h.2⟩]
      exact hagain r hretries hr

/-- The outcome is a classified result. -/
def SendOutcome.IsClassified (r : SendOutcome) : Prop :=
  r.status = .success ∧ Classified (selfTestResult r.inst).result

theorem satisfies_selfTestAttempt {st : SelfTestState}
    {Q : List InitEvent → Iter SelfTestState SelfTestState → Prop}
    (hclassified : ∀ r : SendOutcome, r.IsClassified →
      Q [selfTestEvent st r] (.done (st.afterSend r)))
    (hagain : ∀ r : SendOutcome, ¬ r.IsClassified → st.retries - 1 ≠ 0 →
      Q [selfTestEvent st r, delayEvent (500 * 1000)]
        (.again { st.afterSend r with retries := st.retries - 1 }))
    (hended : ∀ r : SendOutcome, ¬ r.IsClassified → st.retries - 1 = 0 →
      Q [selfTestEvent st r, delayEvent (500 * 1000)]
        (.done { st.afterSend r with retries := st.retries - 1 })) :
    (selfTestAttempt st).Satisfies E Q := by
  rw [selfTestAttempt, satisfies_ipmiSendCommand_bind]
  intro r
  by_cases hr : r.IsClassified
  · rw [if_pos ⟨hr.1, hr.2⟩]
    exact hclassified r hr
  · rw [if_neg fun h => hr ⟨h.1, h.2⟩, satisfies_microSecondDelay_bind]
    intro _
    change Satisfies E (if st.retries - 1 > 0 then _ else _) _
    by_cases hretries : st.retries - 1 = 0
    · rw [if_neg fun h => absurd hretries (UInt32.pos_iff_ne_zero.1 h)]
      exact hended r hr hretries
    · rw [if_pos (UInt32.pos_iff_ne_zero.2 hretries)]
      exact hagain r hr hretries

/-! ### Runs against a scripted transport -/

/-- The run of `IpmiSendCommand` against a scripted transport. -/
def sendScripted (maxRetries : UInt8) (script : ℕ → Attempt) (netFunction command : UInt8)
    (inst : IpmiBmcInstanceData) (dataSize : UInt32) (n : ℕ) :
    Option ((EfiStatus × CommandState UInt32) × List TransportEvent × ℕ) :=
  (Generic.ipmiSendCommand maxRetries ⟨0, fun _ => 0⟩ (tempDataArgs netFunction command)
    ⟨inst, fun _ => 0, dataSize⟩).exec (scripted script) n

theorem sendScripted_isSome (maxRetries : UInt8) (script : ℕ → Attempt)
    (netFunction command : UInt8) (inst : IpmiBmcInstanceData) (dataSize : UInt32) (n : ℕ) :
    (sendScripted maxRetries script netFunction command inst dataSize n).isSome := by
  obtain ⟨x, tr, n', hrun, -⟩ := (ipmiSendCommand_frame maxRetries ⟨0, fun _ => 0⟩
    (tempDataArgs netFunction command) ⟨inst, fun _ => 0, dataSize⟩).exists_exec (scripted script) n
  exact Option.isSome_iff_exists.2 ⟨_, hrun⟩

/-- The platform whose commands go over a scripted transport. -/
def overTransport (maxRetries : UInt8) (script : ℕ → Attempt) :
    Handler InitCall InitCall.Answer ℕ
  | .platformIpmiInitialize, n => (.success, n)
  | .ipmiSendCommand netFunction command inst dataSize, n =>
    let ((status, st), tr, n') :=
      (sendScripted maxRetries script netFunction command inst dataSize n).get
        (sendScripted_isSome maxRetries script netFunction command inst dataSize n)
    (⟨status, st.inst, st.responseDataSize, tr⟩, n')
  | .microSecondDelay _, n => ((), n)
  | .getDeviceSpecificTestResults _ bmcStatus, n => (bmcStatus, n)
  | .reportStatusCode _, n => ((), n)

/-- Its outcomes are those of `IpmiSendCommand`. -/
theorem genuine_overTransport (maxRetries : UInt8) (script : ℕ → Attempt) (call : InitCall) (n : ℕ) :
    Genuine maxRetries ⟨call, (overTransport maxRetries script call n).1⟩ := by
  cases call with
  | ipmiSendCommand netFunction command inst dataSize =>
    exact ⟨_, _, _, .of_exec (Option.some_get
      (sendScripted_isSome maxRetries script netFunction command inst dataSize n)).symm⟩
  | platformIpmiInitialize | microSecondDelay | getDeviceSpecificTestResults | reportStatusCode =>
    trivial

end Initialize

end IpmiFeature
