import IpmiFeature.Generic.Retry
import IpmiFeature.Interaction.Session

/-!
# The status of the BMC

`IpmiBmcStatus` (`GenericIpmi.c`) and the entry points of the transport protocol.  A session enters
them any number of times, whatever the transport does.  The soft errors are counted in the traces of
the visits; `SoftErrorCount` counts them modulo 256.

* `softErrorCount_of_session` : the counter after a session.
* `getBmcStatus_escalates_iff` : when soft errors escalate to a hard failure.
-/

namespace IpmiFeature

open Interaction Prog

namespace Generic

/-! ### Reporting the status -/

/-- `BMC_HARDFAIL`. -/
def bmcHardfail : UInt32 := 2

/-- `MAX_SOFT_COUNT`. -/
def maxSoftCount : UInt8 := 10

/-- `SM_CHANNEL_MEDIA_TYPE`. -/
inductive SmChannelMediaType where
  | smReserved
  | smIpmb
  | smIcmb1_0
  | smIcmb0_9
  | sm802_3_Lan
  | smRs_232
  | smOtherLan
  | smPciSmBus
  | smSmBus1_0
  | smSmBus2_0
  | smUsb1_x
  | smUsb2_x
  | smBmc
  deriving DecidableEq, Repr

/-- What `IpmiBmcStatus` tells its caller: `*BmcStatus`, and the fields of `*ComAddress` that it
sets. -/
structure StatusReport where
  bmcStatus : UInt32
  channelType : SmChannelMediaType
  lunAddress : UInt8
  slaveAddress : UInt8
  channelAddress : UInt8
  deriving DecidableEq, Repr

/-- `IpmiBmcStatus`. -/
def ipmiBmcStatus (inst : IpmiBmcInstanceData) : StatusReport × IpmiBmcInstanceData :=
  let inst :=
    if inst.bmcStatus = bmcSoftfail ∧ inst.softErrorCount ≥ maxSoftCount then
      { inst with bmcStatus := bmcHardfail }
    else
      inst
  ({ bmcStatus := inst.bmcStatus
     channelType := .smBmc
     lunAddress := 0
     slaveAddress := inst.slaveAddress
     channelAddress := 0 }, inst)

/-! ### The entry points -/

/-- The entry points of `IPMI_TRANSPORT`, with the arguments of a call. -/
inductive Entry where
  /-- `IpmiSubmitCommand`. -/
  | ipmiSubmitCommand (uninit : Uninitialized) (args : CommandArgs UInt32)
      (responseData : Memory UInt8) (responseDataSize : UInt32)
  /-- `GetBmcStatus`. -/
  | getBmcStatus

/-- What a call of an entry point gives back. -/
inductive EntryResult where
  /-- Of `IpmiSubmitCommand`: the status, the caller's buffer and its size. -/
  | submitted (status : EfiStatus) (responseData : Memory UInt8) (responseDataSize : UInt32)
  /-- Of `GetBmcStatus`. -/
  | reported (report : StatusReport)

/-- A call of an entry point. -/
def enter (maxRetries : UInt8) :
    Entry → IpmiBmcInstanceData → TransportProg (EntryResult × IpmiBmcInstanceData)
  | .ipmiSubmitCommand uninit args responseData responseDataSize, inst => do
    let (status, st) ← ipmiSendCommand maxRetries uninit args ⟨inst, responseData, responseDataSize⟩
    return (.submitted status st.responseData st.responseDataSize, st.inst)
  | .getBmcStatus, inst =>
    let (report, inst) := ipmiBmcStatus inst
    return (.reported report, inst)

/-- A visit to the generic layer. -/
abbrev BmcVisit := Visit Entry TransportCall TransportCall.Answer EntryResult IpmiBmcInstanceData

/-- A session with the generic layer, whatever the transport does. -/
abbrev BmcSession (maxRetries : UInt8) := Session (enter maxRetries)

variable {args : CommandArgs UInt8} {st : CommandState UInt8} {retryCnt : ℕ}
  {reply : Reply receiveSize} {r : Response} {inst inst' : IpmiBmcInstanceData}

/-! ### Counting soft errors -/

/-- The number of soft errors, 0 or 1, that the outcome of a call is recorded as. -/
def softErrorOf : TransportEvent → ℕ
  | ⟨.sendDataToBmcPort _ _, status⟩ => if status = .success then 0 else 1
  | ⟨.receiveBmcDataFromPort _ _, reply⟩ =>
    if reply.status = .success then
      match reply.data[2]? with
      | some completionCode => if completionCode ∈ completionCodes then 1 else 0
      | none => 0
    else
      1

/-- The number of soft errors recorded during a visit. -/
def softErrors (tr : List TransportEvent) : ℕ := (tr.map softErrorOf).sum

@[simp] theorem softErrors_nil : softErrors [] = 0 := rfl

theorem softErrors_attempt (period period' : UInt64) (data : Message) (reply : Reply receiveSize) :
    softErrors [⟨.sendDataToBmcPort period data, .success⟩,
        ⟨.receiveBmcDataFromPort period' receiveSize, reply⟩] =
      softErrorOf ⟨.receiveBmcDataFromPort period' receiveSize, reply⟩ :=
  Nat.zero_add _

@[simp] theorem softErrors_append (tr tr' : List TransportEvent) :
    softErrors (tr ++ tr') = softErrors tr + softErrors tr' := by
  simp [softErrors]

@[simp] theorem softErrorCount_buildCommand (args : CommandArgs UInt8)
    (inst : IpmiBmcInstanceData) :
    (buildCommand args inst).softErrorCount = inst.softErrorCount := by
  rw [buildCommand_eq]
  rfl

theorem softErrorCount_updateErrorStatus (completionCode : UInt8) (inst : IpmiBmcInstanceData) :
    (updateErrorStatus completionCode inst).softErrorCount =
      inst.softErrorCount + UInt8.ofNat (if completionCode ∈ completionCodes then 1 else 0) := by
  unfold updateErrorStatus
  by_cases hcode : completionCode ∈ completionCodes
  · rw [if_pos hcode, if_pos hcode]
    rfl
  · rw [if_neg hcode, if_neg hcode]
    exact (UInt8.add_zero _).symm

theorem softErrorCount_afterReply (period : UInt64) (reply : Reply receiveSize)
    (inst : IpmiBmcInstanceData) :
    (afterReply reply inst).softErrorCount = inst.softErrorCount +
      UInt8.ofNat (softErrorOf ⟨.receiveBmcDataFromPort period receiveSize, reply⟩) := by
  unfold afterReply softErrorOf
  dsimp only
  split_ifs
  · cases reply.data[2]? with
    | none => exact (UInt8.add_zero _).symm
    | some completionCode => exact softErrorCount_updateErrorStatus _ _
  · rfl

@[simp] theorem softErrorCount_afterResponse (args : CommandArgs UInt8) (r : Response)
    (inst : IpmiBmcInstanceData) :
    (afterResponse args r inst).softErrorCount = inst.softErrorCount :=
  softErrorCount_buildCommand args inst

/-- A response is no soft error. -/
theorem softErrorOf_response (period : UInt64) (h : reply.response = some r) :
    softErrorOf ⟨.receiveBmcDataFromPort period receiveSize, reply⟩ = 0 := by
  obtain ⟨hstatus, hdata⟩ := Reply.response_eq_some_iff.1 h
  simp [softErrorOf, hstatus, hdata, Response.bytes, compCodeNormal, completionCodes,
    compCodeInsufficientPrivilege]

/-- The counter after the retry loop. -/
theorem retryLoop_softErrorCount (args : CommandArgs UInt8) (retryCnt : ℕ)
    (st : CommandState UInt8) :
    (retryLoop args retryCnt st).Satisfies True fun tr r =>
      r.2.inst.softErrorCount = st.inst.softErrorCount + UInt8.ofNat (softErrors tr) := by
  induction retryCnt generalizing st with
  | zero => exact (UInt8.add_zero _).symm
  | succ retryCnt ih =>
    refine satisfies_retryLoop (satisfies_attempt (fun period data status hstatus => ?_)
      (fun period data period' reply r hr => ?_) fun period data period' reply status hr hstatus => ?_)
    · have hone : softErrors [⟨.sendDataToBmcPort period data, status⟩] = 1 := by
        simp [softErrors, softErrorOf, hstatus]
      rw [hone]
      change (buildCommand args st.inst).softErrorCount + 1 = _
      rw [softErrorCount_buildCommand]
      rfl
    · have hnone := softErrors_attempt period period' data reply
      rw [softErrorOf_response period' hr] at hnone
      have hkept : (afterResponse args r st.inst).softErrorCount =
          st.inst.softErrorCount + UInt8.ofNat 0 := by
        rw [softErrorCount_afterResponse]
        exact (UInt8.add_zero _).symm
      unfold afterAttempt
      split_ifs
      · rw [hnone]
        exact hkept
      · refine (ih _).mono fun tr r' hr' => ?_
        rw [softErrors_append, hnone, Nat.zero_add, hr', softErrorCount_afterResponse]
      · rw [hnone]
        unfold settle
        split_ifs <;> exact hkept
    · have hcount := softErrorCount_afterReply period' reply (buildCommand args st.inst)
      rw [softErrorCount_buildCommand] at hcount
      rw [softErrors_attempt]
      exact hcount

@[simp] theorem softErrorCount_storeResponse (st : CommandState UInt8) (ptr : ResponsePtr) (off : ℕ)
    (values : List UInt8) :
    (st.storeResponse ptr off values).inst.softErrorCount = st.inst.softErrorCount := by
  cases ptr <;> rfl

@[simp] theorem softErrorCount_shiftResponse (ptr : ResponsePtr) (st : CommandState UInt8) :
    (shiftResponse ptr st).inst.softErrorCount = st.inst.softErrorCount := by
  unfold shiftResponse
  refine List.foldlRecOn _ _ (motive := fun st' : CommandState UInt8 =>
    st'.inst.softErrorCount = st.inst.softErrorCount) rfl fun st' h index _ => ?_
  rw [softErrorCount_storeResponse, h]

theorem softErrorCount_finishCommand (uninit : Uninitialized) (args : CommandArgs UInt8)
    (x : Except EfiStatus (Option UInt8) × CommandState UInt8) :
    (finishCommand uninit args x).2.inst.softErrorCount = x.2.inst.softErrorCount := by
  obtain ⟨status | reply, st⟩ := x
  · rfl
  · unfold finishCommand
    dsimp only
    split_ifs
    · simp [deliverResponse]
    · rfl

theorem softErrorCount_ipmiBmcStatus (inst : IpmiBmcInstanceData) :
    (ipmiBmcStatus inst).2.softErrorCount = inst.softErrorCount := by
  unfold ipmiBmcStatus
  dsimp only
  split_ifs <;> rfl

/-- The counter after a command. -/
theorem ipmiSendCommandInternal_softErrorCount (maxRetries : UInt8) (uninit : Uninitialized)
    (args : CommandArgs UInt8) (st : CommandState UInt8) :
    (ipmiSendCommandInternal maxRetries uninit args st).Satisfies True fun tr r =>
      r.2.inst.softErrorCount = st.inst.softErrorCount + UInt8.ofNat (softErrors tr) := by
  by_cases hargs : Rejected args
  · rw [ipmiSendCommandInternal_of_rejected hargs]
    exact (UInt8.add_zero _).symm
  · rw [ipmiSendCommandInternal_of_not_rejected hargs, satisfies_bind]
    refine (retryLoop_softErrorCount args _ st).mono fun tr r hr => ?_
    change (finishCommand uninit args r).2.inst.softErrorCount = _
    rw [softErrorCount_finishCommand, List.append_nil]
    exact hr

/-- The counter after a visit. -/
theorem enter_softErrorCount (maxRetries : UInt8) (entry : Entry) (inst : IpmiBmcInstanceData) :
    (enter maxRetries entry inst).Satisfies True fun tr r =>
      r.2.softErrorCount = inst.softErrorCount + UInt8.ofNat (softErrors tr) := by
  cases entry with
  | ipmiSubmitCommand uninit args responseData responseDataSize =>
    rw [enter, ipmiSendCommand, satisfies_bind, satisfies_bind]
    refine (ipmiSendCommandInternal_softErrorCount maxRetries uninit args.narrow _).mono
      fun tr r hr => ?_
    change r.2.inst.softErrorCount = _
    rw [List.append_nil, List.append_nil]
    exact hr
  | getBmcStatus =>
    rw [enter]
    change (ipmiBmcStatus inst).2.softErrorCount = _
    rw [softErrorCount_ipmiBmcStatus]
    exact (UInt8.add_zero _).symm

/-- The number of soft errors recorded in a session. -/
def sessionSoftErrors (visits : List BmcVisit) : ℕ :=
  (visits.map fun v => softErrors v.trace).sum

/-- The counter is eight bits wide, and nothing resets it. -/
theorem softErrorCount_of_session {maxRetries : UInt8} {visits : List BmcVisit}
    (h : BmcSession maxRetries inst visits inst') (hzero : inst.softErrorCount = 0) :
    inst'.softErrorCount.toNat = sessionSoftErrors visits % 256 := by
  have hcount := h.count (I := fun n inst => inst.softErrorCount = UInt8.ofNat n)
    (g := fun v => softErrors v.trace) (n := 0) (fun n s v hs hrun => ?_) hzero
  · rw [hcount, Nat.zero_add]
    exact UInt8.toNat_ofNat'
  · have hvisit := (enter_softErrorCount maxRetries v.entry s).of_runs hrun
    rw [show v.state.softErrorCount = _ from hvisit, hs, UInt8.ofNat_add]

/-! ### Escalation -/

/-- A soft failure is reported as a hard one once the counter has reached its limit. -/
theorem ipmiBmcStatus_hardfail_iff (hsoft : inst.bmcStatus = bmcSoftfail) :
    (ipmiBmcStatus inst).1.bmcStatus = bmcHardfail ↔
      maxSoftCount.toNat ≤ inst.softErrorCount.toNat := by
  rw [← UInt8.le_iff_toNat_le]
  unfold ipmiBmcStatus
  by_cases hlimit : inst.softErrorCount ≥ maxSoftCount
  · rw [if_pos ⟨hsoft, hlimit⟩]
    exact iff_of_true rfl hlimit
  · rw [if_neg fun h => hlimit h.2]
    refine iff_of_false ?_ hlimit
    change inst.bmcStatus ≠ bmcHardfail
    rw [hsoft]
    decide

/-- **When soft errors escalate.**  Whenever the status of a BMC with soft failures is read, a hard
failure is reported exactly from the tenth recorded soft error on, if and only if fewer than ten
have been recorded, or the number of them is at least ten modulo 256. -/
theorem getBmcStatus_escalates_iff {maxRetries : UInt8} {visits : List BmcVisit}
    {tr : List TransportEvent} {report : StatusReport} {inst'' : IpmiBmcInstanceData}
    (h : BmcSession maxRetries inst visits inst') (hzero : inst.softErrorCount = 0)
    (hsoft : inst'.bmcStatus = bmcSoftfail)
    (hreport : (enter maxRetries .getBmcStatus inst').Runs tr (.reported report, inst'')) :
    (report.bmcStatus = bmcHardfail ↔ maxSoftCount.toNat ≤ sessionSoftErrors visits) ↔
      sessionSoftErrors visits < maxSoftCount.toNat ∨
        maxSoftCount.toNat ≤ sessionSoftErrors visits % 256 := by
  obtain rfl : report = (ipmiBmcStatus inst').1 := by cases hreport; rfl
  rw [ipmiBmcStatus_hardfail_iff hsoft, softErrorCount_of_session h hzero]
  have hmod : sessionSoftErrors visits % 256 ≤ sessionSoftErrors visits := Nat.mod_le _ _
  omega

/-- A command without data and without a response. -/
def plainArgs : CommandArgs UInt32 where
  netFunction := 0x06
  lun := 0
  command := 0x01
  commandData := none
  commandDataSize := 0
  responseData := .null
  hasResponseDataSize := false

/-- The entry point that sends it. -/
def plainEntry : Entry := .ipmiSubmitCommand ⟨0, fun _ => 0⟩ plainArgs (fun _ => 0) 0

/-- A command that cannot be sent is a soft error. -/
theorem plainEntry_fails (inst : IpmiBmcInstanceData) : ∃ v : BmcVisit, v.entry = plainEntry ∧
    (enter 1 v.entry inst).Runs v.trace (v.result, v.state) ∧ softErrors v.trace = 1 ∧
      v.state.bmcStatus = bmcSoftfail := by
  refine ⟨⟨plainEntry, [⟨.sendDataToBmcPort _ _, .timeout⟩], _, _⟩, rfl, .call (.ret _), rfl, rfl⟩

/-- There are sessions with any number of soft errors that leave the BMC in soft failure. -/
theorem exists_session_softErrors (n : ℕ) (inst : IpmiBmcInstanceData) :
    ∃ visits inst', BmcSession 1 inst visits inst' ∧ sessionSoftErrors visits = n + 1 ∧
      inst'.bmcStatus = bmcSoftfail := by
  obtain ⟨v, -, hrun, hone, hsoft⟩ := plainEntry_fails inst
  induction n generalizing inst v with
  | zero =>
    refine ⟨[v], v.state, .cons hrun (.nil _), ?_, hsoft⟩
    change softErrors v.trace + 0 = 0 + 1
    rw [hone]
  | succ n ih =>
    obtain ⟨w, -, hrun', hone', hsoft'⟩ := plainEntry_fails v.state
    obtain ⟨visits, inst', h, hn, hlast⟩ := ih v.state w hrun' hone' hsoft'
    refine ⟨v :: visits, inst', .cons hrun h, ?_, hlast⟩
    change softErrors v.trace + sessionSoftErrors visits = n + 1 + 1
    omega

/-- After 256 soft errors the BMC is reported as only soft-failed again. -/
theorem getBmcStatus_not_escalated : ¬ ∀ visits inst' tr report inst'',
    BmcSession 1 idleInstance visits inst' → inst'.bmcStatus = bmcSoftfail →
      (enter 1 .getBmcStatus inst').Runs tr (.reported report, inst'') →
        (report.bmcStatus = bmcHardfail ↔ maxSoftCount.toNat ≤ sessionSoftErrors visits) := by
  intro h
  obtain ⟨visits, inst', hsession, hcount, hsoft⟩ := exists_session_softErrors 255 idleInstance
  have hreport : (enter 1 .getBmcStatus inst').Runs []
      (.reported (ipmiBmcStatus inst').1, (ipmiBmcStatus inst').2) := .ret _
  have hescalates := h visits inst' _ _ _ hsession hsoft hreport
  rw [ipmiBmcStatus_hardfail_iff hsoft, softErrorCount_of_session hsession rfl, hcount] at hescalates
  revert hescalates
  decide

theorem getBmcStatus_escalates_iff_once : ∃ visits inst' tr report inst'',
    BmcSession 1 idleInstance visits inst' ∧ inst'.bmcStatus = bmcSoftfail ∧
      (enter 1 .getBmcStatus inst').Runs tr (.reported report, inst'') ∧
        ((report.bmcStatus = bmcHardfail ↔ maxSoftCount.toNat ≤ sessionSoftErrors visits) ↔
          sessionSoftErrors visits < maxSoftCount.toNat ∨
            maxSoftCount.toNat ≤ sessionSoftErrors visits % 256) := by
  obtain ⟨visits, inst', h, -, hsoft⟩ := exists_session_softErrors 0 idleInstance
  have hreport : (enter 1 .getBmcStatus inst').Runs []
      (.reported (ipmiBmcStatus inst').1, (ipmiBmcStatus inst').2) := .ret _
  exact ⟨visits, inst', _, _, _, h, hsoft, hreport,
    getBmcStatus_escalates_iff h rfl hsoft hreport⟩

end Generic

end IpmiFeature
