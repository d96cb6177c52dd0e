import IpmiFeature.Initialize.Bounds

/-!
# Waiting for the BMC

What `GetDeviceId` decides from the answers to its commands, as a relation between these and the
result (`DeviceIdRun`, `getDeviceId_run`).  A BMC that is not ready is asked for its execution context
and polled (`PollsOn`).  `GetDeviceId` reads the partition pointer for the execution context
(`getDeviceId_forcedUpdate_iff`), and the room for an answer is what the answers before it have left
(`getDeviceId_ready_iff`).
-/

namespace IpmiFeature

open Interaction Prog Generic

namespace Initialize

/-! ### Answers and the room for them -/

/-- `Get Device ID` and its answer. -/
def deviceIdExchange (answer : Option Response) : Exchange := ⟨netfnApp, appGetDeviceId, answer⟩

/-- `Get BMC Execution Context` and its answer. -/
def contextExchange (answer : Option Response) : Exchange :=
  ⟨netfnFirmware, getBmcExecutionContext, answer⟩

/-- The update mode in an answer to `Get Device ID`. -/
def updateModeOf (r : Response) : Option UInt8 := r.payload[2]?.map fun byte => byte >>> (7 : UInt8)

/-- The answer says that the BMC is ready. -/
def SaysReady (r : Response) : Prop := updateModeOf r = some bmcReady

/-- The answer says that the BMC is not ready. -/
def SaysNotReady (r : Response) : Prop := ∃ mode, updateModeOf r = some mode ∧ mode ≠ bmcReady

/-- The room that an exchange leaves. -/
def Exchange.roomAfter (room : ℕ) (x : Exchange) : ℕ :=
  Generic.roomAfter (tempDataArgs x.netFunction x.command).narrow room x.answer

/-- The room that the exchanges leave for the next answer. -/
def roomLeft (exs : List Exchange) : ℕ := exs.foldl Exchange.roomAfter maxTempData

theorem roomLeft_concat (exs : List Exchange) (x : Exchange) :
    roomLeft (exs ++ [x]) = x.roomAfter (roomLeft exs) := by
  rw [roomLeft, List.foldl_append]
  rfl

theorem roomLeft_unanswered (k : ℕ) :
    roomLeft (List.replicate k (deviceIdExchange none)) = maxTempData := by
  induction k with
  | zero => rfl
  | succ k ih => exact ih

variable {fuel : ℕ} {maxRetries netFunction command : UInt8} {exs : List Exchange}
  {inst : IpmiBmcInstanceData} {dataSize : UInt32} {r : SendOutcome} {ρ : Response}

/-- `DataSize` after the exchanges. -/
structure Sized (exs : List Exchange) (dataSize : UInt32) : Prop where
  toNat_eq : dataSize.toNat = roomLeft exs
  toNat_lt : dataSize.toNat < 256

theorem Sized.outcome (hretries : maxRetries ≠ 0) (h : Sized exs dataSize)
    (hr : Genuine maxRetries ⟨.ipmiSendCommand netFunction command inst dataSize, r⟩) :
    Outcome (tempDataArgs netFunction command).narrow (roomLeft exs) (answerOf r.transport) r.status
      r.inst r.dataSize := by
  rw [← h.toNat_eq]
  exact hr.outcome hretries h.toNat_lt

theorem Sized.next (hretries : maxRetries ≠ 0) (h : Sized exs dataSize)
    (hr : Genuine maxRetries ⟨.ipmiSendCommand netFunction command inst dataSize, r⟩) :
    Sized (exs ++ [⟨netFunction, command, answerOf r.transport⟩]) r.dataSize := by
  have houtcome := h.outcome hretries hr
  have hsize := houtcome.dataSize_eq
  refine ⟨by rw [hsize, roomLeft_concat]; rfl, ?_⟩
  have hroom : roomLeft exs < 256 := h.toNat_eq ▸ h.toNat_lt
  rw [hsize]
  cases hanswer : answerOf r.transport with
  | none => exact hroom
  | some ρ =>
    have hlen := houtcome.length_le ρ hanswer
    rw [Generic.roomAfter]
    split_ifs
    · exact hroom
    · omega

/-- An answer that fits is in `TempData`. -/
theorem temp_of_outcome {args : CommandArgs UInt8} {room : ℕ} {status : EfiStatus}
    (h : Outcome args room (some ρ) status inst dataSize) (hfits : ρ.payload.length ≤ room) :
    inst.temp 0 = ρ.payload.getD 1 compCodeNormal ∧
      ∀ i (hi : i < ρ.payload.length), inst.temp (i + 1) = ρ.payload[i] := by
  have htemp := h.temp_eq ρ rfl hfits
  rw [Memory.slice_succ, List.cons.injEq] at htemp
  refine ⟨htemp.1, fun i hi => ?_⟩
  have hget : (inst.temp.slice (0 + 1) ρ.payload.length)[i]? = ρ.payload[i]? :=
    congrArg (fun l : List UInt8 => l[i]?) htemp.2
  rw [List.getElem?_eq_getElem hi, List.getElem?_eq_getElem (by simpa using hi),
    Memory.getElem_slice, Option.some.injEq, Nat.zero_add, Nat.add_comm] at hget
  exact hget

theorem updateMode_of_outcome {args : CommandArgs UInt8} {room : ℕ} {status : EfiStatus}
    {mode : UInt8} (h : Outcome args room (some ρ) status inst dataSize)
    (hfits : ρ.payload.length ≤ room) (hmode : updateModeOf ρ = some mode) :
    updateMode inst = mode := by
  obtain ⟨byte, hbyte, rfl⟩ := Option.map_eq_some_iff.1 hmode
  obtain ⟨hlt, rfl⟩ := List.getElem?_eq_some_iff.1 hbyte
  rw [updateMode, (temp_of_outcome h hfits).2 2 hlt]

/-! ### The loops -/

/-- The commands of a run whose first answer to `Get Device ID`, after `k` failures, is `ρ`. -/
def answered (k : ℕ) (ρ : Response) : List Exchange :=
  List.replicate k (deviceIdExchange none) ++ [deviceIdExchange (some ρ)]

/-- How the loop that waits for an answer ends. -/
inductive AnswerWait : List Exchange → Bool × DeviceIdState → Prop
  /-- With an answer. -/
  | answered (k : ℕ) (ρ : Response) (st : DeviceIdState) (hsized : Sized (answered k ρ) st.dataSize)
      (hmode : ∀ mode, updateModeOf ρ = some mode → updateMode st.inst = mode) :
      AnswerWait (answered k ρ) (true, st)
  /-- Without one. -/
  | failed (k : ℕ) (st : DeviceIdState) (hstatus : st.status ≠ .success) :
      AnswerWait (List.replicate k (deviceIdExchange none)) (false, st.setStatus bmcHardfail)

theorem awaitDeviceId_answerWait (hretries : maxRetries ≠ 0) (start : DeviceIdState)
    (hstart : Sized [] start.dataSize) :
    (Prog.loop awaitDeviceId fuel start).Satisfies True fun tr x =>
      (∀ event ∈ tr, Genuine maxRetries event) → AnswerWait (exchanges tr) x := by
  refine satisfies_loop (I := fun tr st => (∀ event ∈ tr, Genuine maxRetries event) →
    (∃ k, exchanges tr = List.replicate k (deviceIdExchange none)) ∧
      Sized (exchanges tr) st.dataSize) ?_ fuel ?_
  swap
  · exact fun _ => ⟨⟨0, rfl⟩, hstart⟩
  intro tr st htr
  -- what an attempt adds to the exchanges, and whether it is answered
  have hattempt : ∀ (r : SendOutcome) (tr' : List InitEvent), exchanges tr' = [] →
      (∀ event ∈ tr ++ deviceIdEvent st r :: tr', Genuine maxRetries event) →
        ∃ k, exchanges (tr ++ deviceIdEvent st r :: tr') = List.replicate k (deviceIdExchange none) ++
            [deviceIdExchange (answerOf r.transport)] ∧
          Sized (exchanges (tr ++ deviceIdEvent st r :: tr')) r.dataSize ∧
          Outcome (tempDataArgs netfnApp appGetDeviceId).narrow maxTempData (answerOf r.transport)
            r.status r.inst r.dataSize := by
    intro r tr' htr' hgenuine
    rw [List.forall_mem_append, List.forall_mem_cons] at hgenuine
    obtain ⟨hbefore, hr, -⟩ := hgenuine
    obtain ⟨⟨k, hk⟩, hsized⟩ := htr hbefore
    have hexchanges : exchanges (tr ++ deviceIdEvent st r :: tr') =
        exchanges tr ++ [deviceIdExchange (answerOf r.transport)] := by
      rw [exchanges_append, deviceIdEvent, exchanges_cons_send, htr']
      rfl
    have houtcome := hsized.outcome hretries hr
    rw [hk, roomLeft_unanswered] at houtcome
    refine ⟨k, hk ▸ hexchanges, ?_, houtcome⟩
    rw [hexchanges]
    exact hsized.next hretries hr
  have hunanswered : ∀ (r : SendOutcome) (tr' : List InitEvent), r.status ≠ .success →
      exchanges tr' = [] → (∀ event ∈ tr ++ deviceIdEvent st r :: tr', Genuine maxRetries event) →
        (∃ k, exchanges (tr ++ deviceIdEvent st r :: tr') =
          List.replicate k (deviceIdExchange none)) ∧
          Sized (exchanges (tr ++ deviceIdEvent st r :: tr')) r.dataSize := by
    intro r tr' hstatus htr' hgenuine
    obtain ⟨k, hexchanges, hsized, houtcome⟩ := hattempt r tr' htr' hgenuine
    refine ⟨⟨k + 1, ?_⟩, hsized⟩
    cases hanswer : answerOf r.transport with
    | none => rw [hexchanges, hanswer, List.replicate_succ']
    | some ρ =>
      -- the first answer always fits
      refine absurd (houtcome.success_iff.2 ⟨ρ, hanswer, ?_⟩) hstatus
      exact Nat.le_trans (houtcome.length_le ρ hanswer) (by decide)
  refine satisfies_awaitDeviceId (fun r hstatus hgenuine => ?_) (fun r hstatus _ hgenuine => ?_)
    fun r hstatus _ hgenuine => hunanswered r _ hstatus rfl hgenuine
  · obtain ⟨k, hexchanges, hsized, houtcome⟩ := hattempt r [] rfl hgenuine
    obtain ⟨ρ, hρ, hfits⟩ := houtcome.success_iff.1 hstatus
    rw [hρ] at hexchanges houtcome
    rw [hexchanges] at hsized ⊢
    exact .answered k ρ _ hsized fun mode hmode => updateMode_of_outcome houtcome hfits hmode
  · obtain ⟨⟨k, hk⟩, -⟩ := hunanswered r [] hstatus rfl hgenuine
    rw [hk]
    exact .failed k _ hstatus

/-- Every answer to a poll that says that the BMC is ready was too long for the room. -/
def Refused (before : List Exchange) (polls : List (Option Response)) : Prop :=
  ∀ polls' ρ rest, polls = polls' ++ some ρ :: rest → SaysReady ρ →
    roomLeft (before ++ polls'.map deviceIdExchange) < ρ.payload.length

/-- How `timer` polls for a BMC that is ready end: the polls, the status and the `BmcStatus`. -/
inductive ReadyWait (timer : ℕ) (before : List Exchange) :
    List (Option Response) → EfiStatus → UInt32 → Prop
  /-- With an answer that fits and passes for one of a BMC that is ready. -/
  | ready (polls : List (Option Response)) (ρ : Response) (hready : ¬ SaysNotReady ρ)
      (hlength : polls.length < timer) (hrefused : Refused before polls)
      (hfits : ρ.payload.length ≤ roomLeft (before ++ polls.map deviceIdExchange)) :
      ReadyWait timer before (polls ++ [some ρ]) .success bmcOk
  /-- After the last poll. -/
  | failed (polls : List (Option Response)) (status : EfiStatus) (hlength : polls.length = timer)
      (hrefused : Refused before polls) : ReadyWait timer before polls status bmcHardfail

/-- One more poll. -/
theorem Refused.concat {before : List Exchange} {polls : List (Option Response)}
    {answer : Option Response} (h : Refused before polls)
    (hanswer : ∀ ρ, answer = some ρ → SaysReady ρ →
      roomLeft (before ++ polls.map deviceIdExchange) < ρ.payload.length) :
    Refused before (polls ++ [answer]) := by
  intro polls' ρ rest heq hready
  rcases List.eq_nil_or_concat' rest with rfl | ⟨rest, last, rfl⟩
  · obtain ⟨rfl, hlast⟩ := List.append_inj' heq rfl
    exact hanswer ρ (List.singleton_inj.1 hlast) hready
  · rw [← List.cons_append, ← List.append_assoc] at heq
    exact h polls' ρ rest (List.append_inj' heq rfl).1 hready

theorem awaitReady_readyWait (hretries : maxRetries ≠ 0) (before : List Exchange)
    (start : DeviceIdState) (hstart : Sized before start.dataSize) :
    (Prog.loop awaitReady fuel start).Satisfies True fun tr x =>
      (∀ event ∈ tr, Genuine maxRetries event) →
        ∃ polls, exchanges tr = polls.map deviceIdExchange ∧
          ReadyWait start.retries.toNat before polls (if x.1 then .success else x.2.status)
            x.2.inst.bmcStatus := by
  refine satisfies_loop (I := fun tr st => (∀ event ∈ tr, Genuine maxRetries event) →
    ∃ polls, exchanges tr = polls.map deviceIdExchange ∧
      polls.length + st.retries.toNat = start.retries.toNat ∧ Refused before polls ∧
      Sized (before ++ polls.map deviceIdExchange) st.dataSize) ?_ fuel
    fun _ => ⟨[], rfl, Nat.zero_add _, by rintro _ _ _ heq; simp at heq, by simpa using hstart⟩
  intro tr st htr
  have hpoll : ∀ r : SendOutcome,
      (∀ event ∈ tr ++ [delayEvent (1 * 1000 * 1000), deviceIdEvent st r],
        Genuine maxRetries event) → ∃ polls,
          exchanges (tr ++ [delayEvent (1 * 1000 * 1000), deviceIdEvent st r]) =
            (polls ++ [answerOf r.transport]).map deviceIdExchange ∧
          polls.length + st.retries.toNat = start.retries.toNat ∧ Refused before polls ∧
          Sized (before ++ (polls ++ [answerOf r.transport]).map deviceIdExchange) r.dataSize ∧
          Outcome (tempDataArgs netfnApp appGetDeviceId).narrow
            (roomLeft (before ++ polls.map deviceIdExchange)) (answerOf r.transport) r.status r.inst
              r.dataSize := by
    intro r hgenuine
    rw [List.forall_mem_append, List.forall_mem_cons, List.forall_mem_cons] at hgenuine
    obtain ⟨hbefore, -, hr, -⟩ := hgenuine
    obtain ⟨polls, hpolls, hlength, hrefused, hsized⟩ := htr hbefore
    refine ⟨polls, ?_, hlength, hrefused, ?_, hsized.outcome hretries hr⟩
    · rw [exchanges_append, hpolls, List.map_append]
      rfl
    · rw [List.map_append, ← List.append_assoc]
      exact hsized.next hretries hr
  refine satisfies_awaitReady (fun hnone hgenuine => ?_) (fun r hleft hstatus hmode hgenuine => ?_)
    fun r hleft hready hgenuine => ?_
  · rw [List.append_nil] at hgenuine ⊢
    obtain ⟨polls, hpolls, hlength, hrefused, -⟩ := htr hgenuine
    rw [hnone] at hlength
    exact ⟨polls, hpolls, .failed polls st.status hlength hrefused⟩
  · obtain ⟨polls, hpolls, hlength, hrefused, -, houtcome⟩ := hpoll r hgenuine
    obtain ⟨ρ, hρ, hfits⟩ := houtcome.success_iff.1 hstatus
    rw [hρ] at hpolls houtcome
    have hpos := toNat_pos hleft
    refine ⟨_, hpolls, .ready polls ρ ?_ (by omega) hrefused hfits⟩
    rintro ⟨mode, hmode', hne⟩
    exact hne ((updateMode_of_outcome houtcome hfits hmode').symm.trans hmode)
  · obtain ⟨polls, hpolls, hlength, hrefused, hsized, houtcome⟩ := hpoll r hgenuine
    refine ⟨_, hpolls, ?_, hrefused.concat fun ρ hρ hsays => Nat.lt_of_not_le fun hfits =>
      hready ?_, hsized⟩
    · have hpos := toNat_pos hleft
      have hdec := toNat_sub_one hleft
      rw [List.length_append, List.length_singleton]
      dsimp only [DeviceIdState.afterSend]
      omega
    · rw [hρ] at houtcome
      exact ⟨houtcome.success_iff.2 ⟨ρ, rfl, hfits⟩, updateMode_of_outcome houtcome hfits hsays⟩

/-! ### The function -/

/-- The commands of a run that goes on to ask for the execution context. -/
def queried (k : ℕ) (ρ : Response) (answer : Option Response) : List Exchange :=
  answered k ρ ++ [contextExchange answer]

/-- What `GetDeviceId` makes of the answers to its commands: the status and the `BmcStatus`. -/
inductive DeviceIdRun (timer : ℕ) : List Exchange → EfiStatus → UInt32 → Prop
  /-- The BMC does not answer. -/
  | unanswered (k : ℕ) (status : EfiStatus) (hstatus : status ≠ .success) :
      DeviceIdRun timer (List.replicate k (deviceIdExchange none)) status bmcHardfail
  /-- The first answer passes for one of a BMC that is ready. -/
  | ready (k : ℕ) (ρ : Response) (hready : ¬ SaysNotReady ρ) :
      DeviceIdRun timer (answered k ρ) .success bmcOk
  /-- The partition pointer is read for the execution context. -/
  | forced (k : ℕ) (ρ : Response) (answer : Option Response)
      (hforced : SaysNotReady ρ → ∀ query ctx part, answer = some query →
        query.payload = [ctx, part] → part = bmcInForcedUpdateMode) :
      DeviceIdRun timer (queried k ρ answer) .success bmcUpdateInProgress
  /-- The BMC is polled. -/
  | polled (k : ℕ) (ρ : Response) (answer : Option Response) (polls : List (Option Response))
      (status : EfiStatus) (bmcStatus : UInt32)
      (hforced : SaysNotReady ρ → ∀ query ctx part, answer = some query →
        query.payload = [ctx, part] → part ≠ bmcInForcedUpdateMode)
      (hpolls : ReadyWait timer (queried k ρ answer) polls status bmcStatus) :
      DeviceIdRun timer (queried k ρ answer ++ polls.map deviceIdExchange) status bmcStatus

/-- An answer that says that the BMC is not ready leaves room for an execution context. -/
theorem two_le_roomLeft {k : ℕ} (h : SaysNotReady ρ) : 2 ≤ roomLeft (answered k ρ) := by
  obtain ⟨mode, hmode, -⟩ := h
  obtain ⟨byte, hbyte, -⟩ := Option.map_eq_some_iff.1 hmode
  obtain ⟨hlen, -⟩ := List.getElem?_eq_some_iff.1 hbyte
  rw [answered, roomLeft_concat, roomLeft_unanswered, Exchange.roomAfter, deviceIdExchange,
    Generic.roomAfter]
  split_ifs
  · decide
  · omega

/-- What is read for the execution context. -/
theorem currentExecutionContext_of_outcome {k : ℕ} {query : Response} {ctx part : UInt8}
    (h : Outcome (tempDataArgs netfnFirmware getBmcExecutionContext).narrow (roomLeft (answered k ρ))
      (some query) r.status r.inst r.dataSize) (hnotReady : SaysNotReady ρ)
    (hpayload : query.payload = [ctx, part]) :
    r.status = .success ∧ currentExecutionContext r.inst = part := by
  have hfits : query.payload.length ≤ roomLeft (answered k ρ) := by
    rw [hpayload]
    exact two_le_roomLeft hnotReady
  refine ⟨h.success_iff.2 ⟨query, rfl, hfits⟩, ?_⟩
  have htemp := (temp_of_outcome h hfits).1
  rw [hpayload] at htemp
  exact htemp

theorem queryExecutionContext_run (pcds : Pcds) (hretries : maxRetries ≠ 0) (k : ℕ) (ρ : Response)
    (st : DeviceIdState) (hst : Sized (answered k ρ) st.dataSize) :
    (queryExecutionContext pcds fuel st).Satisfies True fun tr x =>
      (∀ event ∈ tr, Genuine maxRetries event) →
        DeviceIdRun pcds.ipmiBmcReadyDelayTimer.toNat (answered k ρ ++ exchanges tr) x.1
          x.2.bmcStatus := by
  rw [queryExecutionContext, satisfies_ipmiSendCommand_bind]
  intro r
  by_cases hgenuine : Genuine maxRetries
      ⟨.ipmiSendCommand netfnFirmware getBmcExecutionContext st.inst st.dataSize, r⟩
  swap
  · exact satisfies_of_forall fun _ _ h => absurd (h _ List.mem_cons_self) hgenuine
  have houtcome := hst.outcome hretries hgenuine
  have hnext : Sized (queried k ρ (answerOf r.transport)) r.dataSize := hst.next hretries hgenuine
  dsimp only
  split_ifs with hforced
  · have hsuccess : r.status = .success := by simpa [DeviceIdState.afterSend] using hforced.1
    have hrun : DeviceIdRun pcds.ipmiBmcReadyDelayTimer.toNat (queried k ρ (answerOf r.transport))
        .success bmcUpdateInProgress := by
      refine .forced k ρ _ fun hnotReady query ctx part hquery hpayload => ?_
      rw [hquery] at houtcome
      exact (currentExecutionContext_of_outcome houtcome hnotReady hpayload).2.symm.trans hforced.2
    rw [← hsuccess] at hrun
    exact fun _ => hrun
  · refine satisfies_bind.2 ((awaitReady_readyWait hretries _ _ hnext).mono fun tr x hx h => ?_)
    rw [List.append_nil, List.forall_mem_cons] at h
    obtain ⟨polls, hpolls, hwait⟩ := hx h.2
    have htimer : pcds.ipmiBmcReadyDelayTimer.toUInt32.toNat = pcds.ipmiBmcReadyDelayTimer.toNat :=
      UInt8.toNat_toUInt32 _
    rw [htimer] at hwait
    have hexchanges : answered k ρ ++ exchanges
        (⟨.ipmiSendCommand netfnFirmware getBmcExecutionContext st.inst st.dataSize, r⟩ ::
          (tr ++ [])) = queried k ρ (answerOf r.transport) ++ polls.map deviceIdExchange := by
      rw [List.append_nil, exchanges_cons_send, hpolls, queried, List.append_assoc]
      rfl
    rw [hexchanges]
    refine .polled k ρ _ polls _ _ (fun hnotReady query ctx part hquery hpayload hpart => ?_) hwait
    rw [hquery] at houtcome
    obtain ⟨hsuccess, hctx⟩ := currentExecutionContext_of_outcome houtcome hnotReady hpayload
    exact hforced ⟨by simpa [DeviceIdState.afterSend] using hsuccess, hctx.trans hpart⟩

/-- What `GetDeviceId` makes of the answers to its commands. -/
theorem getDeviceId_run (pcds : Pcds) (hretries : maxRetries ≠ 0) :
    (getDeviceId pcds fuel inst).Satisfies True fun tr x =>
      (∀ event ∈ tr, Genuine maxRetries event) →
        DeviceIdRun pcds.ipmiBmcReadyDelayTimer.toNat (exchanges tr) x.1 x.2.bmcStatus := by
  have hempty : Sized [] (UInt32.ofNat maxTempData) := ⟨rfl, by decide⟩
  refine satisfies_bind.2 ((awaitDeviceId_answerWait hretries _ hempty).mono fun tr x hx => ?_)
  by_cases hgenuine : ∀ event ∈ tr, Genuine maxRetries event
  swap
  · exact satisfies_of_forall fun _ _ h => absurd (List.forall_mem_append.1 h).1 hgenuine
  have hwait := hx hgenuine
  generalize hexchanges : exchanges tr = exs at hwait
  cases hwait with
  | failed k st hstatus =>
    intro _
    rw [List.append_nil, hexchanges]
    exact .unanswered k st.status hstatus
  | answered k ρ st hsized hmode =>
    dsimp only
    rw [if_neg (not_not.2 rfl)]
    split_ifs with hready
    · intro _
      rw [List.append_nil, hexchanges]
      refine .ready k ρ ?_
      rintro ⟨mode, hmode', hne⟩
      exact hne ((hmode mode hmode').symm.trans hready)
    · refine (queryExecutionContext_run pcds hretries k ρ st hsized).mono fun tr' x hx h => ?_
      rw [exchanges_append, hexchanges]
      exact hx (List.forall_mem_append.1 h).2

/-! ### The decisions -/

theorem replicate_append_cons_inj {α : Type} {k k' : ℕ} {a b b' : α} {l l' : List α} (hb : b ≠ a)
    (hb' : b' ≠ a) (h : List.replicate k a ++ b :: l = List.replicate k' a ++ b' :: l') :
    k = k' ∧ b = b' ∧ l = l' := by
  induction k generalizing k' with
  | zero =>
    cases k' with
    | zero => exact ⟨rfl, List.cons.inj h⟩
    | succ k' => exact absurd (List.cons.inj h).1 hb
  | succ k ih =>
    cases k' with
    | zero => exact absurd (List.cons.inj h).1.symm hb'
    | succ k' =>
      obtain ⟨rfl, hrest⟩ := ih (List.cons.inj h).2
      exact ⟨rfl, hrest⟩

theorem deviceIdExchange_inj {answer answer' : Option Response} :
    deviceIdExchange answer = deviceIdExchange answer' ↔ answer = answer' := by
  simp [deviceIdExchange]

/-- The first answer, the failures before it and what comes after it can be read off the commands. -/
theorem answered_append_inj {k k' : ℕ} {ρ ρ' : Response} {rest rest' : List Exchange}
    (h : answered k ρ ++ rest = answered k' ρ' ++ rest') : k = k' ∧ ρ = ρ' ∧ rest = rest' := by
  have hne : ∀ ρ, deviceIdExchange (some ρ) ≠ deviceIdExchange none := fun ρ h =>
    nomatch deviceIdExchange_inj.1 h
  rw [answered, answered, List.append_assoc, List.append_assoc] at h
  obtain ⟨hk, hρ, hrest⟩ := replicate_append_cons_inj (hne ρ) (hne ρ') h
  exact ⟨hk, Option.some.inj (deviceIdExchange_inj.1 hρ), hrest⟩

theorem answered_append_ne_replicate (k k' : ℕ) (ρ : Response) (rest : List Exchange) :
    List.replicate k' (deviceIdExchange none) ≠ answered k ρ ++ rest := by
  intro h
  have hmem : deviceIdExchange (some ρ) ∈ List.replicate k' (deviceIdExchange none) := by
    rw [h, answered]
    simp
  exact absurd (deviceIdExchange_inj.1 (List.eq_of_mem_replicate hmem)) (Option.some_ne_none ρ)

theorem queried_append (k : ℕ) (ρ : Response) (answer : Option Response) (rest : List Exchange) :
    queried k ρ answer ++ rest = answered k ρ ++ contextExchange answer :: rest := by
  rw [queried, List.append_assoc]
  rfl

variable {k timer : ℕ} {answer : Option Response} {rest : List Exchange} {status : EfiStatus}
  {bmcStatus : UInt32}

/-- After an answer that says that the BMC is not ready a run asks for the execution context. -/
theorem DeviceIdRun.exists_queried (h : DeviceIdRun timer exs status bmcStatus)
    (hexs : exs = answered k ρ ++ rest) (hnotReady : SaysNotReady ρ) :
    ∃ answer later, rest = contextExchange answer :: later := by
  cases h with
  | unanswered k' status hstatus => exact absurd hexs (answered_append_ne_replicate k k' ρ rest)
  | ready k' ρ' hready =>
    rw [← List.append_nil (answered k' ρ')] at hexs
    obtain ⟨-, rfl, -⟩ := answered_append_inj hexs
    exact absurd hnotReady hready
  | forced k' ρ' answer' hforced =>
    obtain ⟨-, -, htail⟩ := answered_append_inj hexs
    exact ⟨answer', [], htail.symm⟩
  | polled k' ρ' answer' polls status bmcStatus hforced hpolls =>
    rw [queried_append] at hexs
    obtain ⟨-, -, htail⟩ := answered_append_inj hexs
    exact ⟨answer', _, htail.symm⟩

/-- A run that asks for the execution context finds Force Update Mode, or polls. -/
theorem DeviceIdRun.of_queried (h : DeviceIdRun timer exs status bmcStatus)
    (hexs : exs = queried k ρ answer ++ rest) :
    (rest = [] ∧ bmcStatus = bmcUpdateInProgress ∧ (SaysNotReady ρ → ∀ query ctx part,
      answer = some query → query.payload = [ctx, part] → part = bmcInForcedUpdateMode)) ∨
    ∃ polls, rest = polls.map deviceIdExchange ∧
      ReadyWait timer (queried k ρ answer) polls status bmcStatus ∧
      (SaysNotReady ρ → ∀ query ctx part,
        answer = some query → query.payload = [ctx, part] → part ≠ bmcInForcedUpdateMode) := by
  have hinj : ∀ {k' ρ' answer' rest'}, queried k' ρ' answer' ++ rest' = queried k ρ answer ++ rest →
      k' = k ∧ ρ' = ρ ∧ answer' = answer ∧ rest' = rest := by
    intro k' ρ' answer' rest' heq
    rw [queried_append, queried_append] at heq
    obtain ⟨rfl, rfl, htail⟩ := answered_append_inj heq
    simp only [contextExchange, List.cons.injEq, Exchange.mk.injEq, true_and] at htail
    exact ⟨rfl, rfl, htail⟩
  cases h with
  | unanswered k' status hstatus =>
    rw [queried_append] at hexs
    exact absurd hexs (answered_append_ne_replicate k k' ρ _)
  | ready k' ρ' hready =>
    rw [queried_append, ← List.append_nil (answered k' ρ')] at hexs
    exact nomatch (answered_append_inj hexs).2.2
  | forced k' ρ' answer' hforced =>
    rw [← List.append_nil (queried k' ρ' answer')] at hexs
    obtain ⟨rfl, rfl, rfl, rfl⟩ := hinj hexs
    exact .inl ⟨rfl, rfl, hforced⟩
  | polled k' ρ' answer' polls status bmcStatus hforced hpolls =>
    obtain ⟨rfl, rfl, rfl, rfl⟩ := hinj hexs
    exact .inr ⟨polls, rfl, hpolls, hforced⟩

theorem ReadyWait.bmcStatus_ne {before : List Exchange} {polls : List (Option Response)}
    (h : ReadyWait timer before polls status bmcStatus) : bmcStatus ≠ bmcUpdateInProgress := by
  have hok : bmcOk ≠ bmcUpdateInProgress := by decide
  have hhard : bmcHardfail ≠ bmcUpdateInProgress := by decide
  cases h with
  | ready => exact hok
  | failed => exact hhard

/-- How a run goes on after an answer that says that the BMC is not ready: it asks for the execution
context, and unless it finds Force Update Mode there it polls until an answer passes for one of a
BMC that is ready, or `timer` times. -/
def PollsOn (timer : ℕ) (exs : List Exchange) (status : EfiStatus) (bmcStatus : UInt32) : Prop :=
  ∀ k ρ rest, exs = answered k ρ ++ rest → SaysNotReady ρ → ∃ answer polls,
    rest = contextExchange answer :: polls.map deviceIdExchange ∧
      (polls = [] ∧ bmcStatus = bmcUpdateInProgress ∨
        ReadyWait timer (queried k ρ answer) polls status bmcStatus)

theorem DeviceIdRun.pollsOn (h : DeviceIdRun timer exs status bmcStatus) :
    PollsOn timer exs status bmcStatus := by
  intro k ρ rest hexs hnotReady
  obtain ⟨answer, later, rfl⟩ := h.exists_queried hexs hnotReady
  have hqueried : exs = queried k ρ answer ++ later := by
    rw [hexs, queried_append]
  obtain ⟨rfl, hstatus, -⟩ | ⟨polls, rfl, hpolls, -⟩ := h.of_queried hqueried
  · exact ⟨answer, [], rfl, .inl ⟨rfl, hstatus⟩⟩
  · exact ⟨answer, polls, rfl, .inr hpolls⟩

/-- A run with an answer has retries. -/
theorem maxRetries_ne_zero {tr : List InitEvent} (hgenuine : ∀ event ∈ tr, Genuine maxRetries event)
    (hexchanges : exchanges tr = answered k ρ ++ rest) : maxRetries ≠ 0 := by
  have hρ : some ρ ∈ answers tr := by
    rw [answers, hexchanges, answered]
    simp [deviceIdExchange]
  rintro rfl
  have hnone := firstResponse_unanswered hgenuine
  rw [firstResponse, List.findSome?_eq_none_iff] at hnone
  exact absurd (hnone _ hρ) (Option.some_ne_none ρ)

/-- `GetDeviceId` returns, with what it makes of the answers. -/
theorem getDeviceId_returns (pcds : Pcds) (maxRetries : UInt8) (inst : IpmiBmcInstanceData)
    (hfuel : 2 ^ 32 < fuel) :
    (getDeviceId pcds fuel inst).Satisfies False fun tr x =>
      (∀ event ∈ tr, Genuine maxRetries event) → maxRetries ≠ 0 →
        DeviceIdRun pcds.ipmiBmcReadyDelayTimer.toNat (exchanges tr) x.1 x.2.bmcStatus := by
  have hrun : (getDeviceId pcds fuel inst).Satisfies True fun tr x =>
      (∀ event ∈ tr, Genuine maxRetries event) → maxRetries ≠ 0 →
        DeviceIdRun pcds.ipmiBmcReadyDelayTimer.toNat (exchanges tr) x.1 x.2.bmcStatus := by
    by_cases hretries : maxRetries = 0
    · exact satisfies_of_forall fun _ _ _ h => absurd hretries h
    · exact (getDeviceId_run pcds hretries).mono fun _ _ h hgenuine _ => h hgenuine
  exact ((getDeviceId_bounded inst hfuel).and hrun).mono fun _ _ h => h.2

theorem pollsOn_of_returns {pcds : Pcds} {tr : List InitEvent}
    (hgenuine : ∀ event ∈ tr, Genuine maxRetries event)
    (h : maxRetries ≠ 0 →
      DeviceIdRun pcds.ipmiBmcReadyDelayTimer.toNat (exchanges tr) status bmcStatus) :
    PollsOn pcds.ipmiBmcReadyDelayTimer.toNat (exchanges tr) status bmcStatus := by
  intro k ρ rest hexchanges
  exact (h (maxRetries_ne_zero hgenuine hexchanges)).pollsOn k ρ rest hexchanges

/-- **When Force Update Mode is recognized.**  `GetDeviceId` asks for the execution context after a
first answer that says that the BMC is not ready.  In a run whose query is answered with
`[ctx, part]`, the BMC is taken to be in Force Update Mode exactly if it is, if and only if `ctx` and
`part` agree on it. -/
theorem getDeviceId_forcedUpdate_iff (pcds : Pcds) (fuel : ℕ) (maxRetries : UInt8)
    (inst : IpmiBmcInstanceData) (hfuel : 2 ^ 32 < fuel) :
    (getDeviceId pcds fuel inst).Satisfies False fun tr x =>
      (∀ event ∈ tr, Genuine maxRetries event) →
        PollsOn pcds.ipmiBmcReadyDelayTimer.toNat (exchanges tr) x.1 x.2.bmcStatus ∧
        ∀ k ρ query ctx part rest,
          exchanges tr = queried k ρ (some query) ++ rest → SaysNotReady ρ →
            query.payload = [ctx, part] →
              (((x.2.bmcStatus = bmcUpdateInProgress ∧ rest = []) ↔ ctx = bmcInForcedUpdateMode) ↔
                (ctx = bmcInForcedUpdateMode ↔ part = bmcInForcedUpdateMode)) := by
  refine (getDeviceId_returns pcds maxRetries inst hfuel).mono ?_
  intro tr x h hgenuine
  refine ⟨pollsOn_of_returns hgenuine (h hgenuine), ?_⟩
  intro k ρ query ctx part rest hexchanges hnotReady hpayload
  have hretries := maxRetries_ne_zero hgenuine (hexchanges.trans (queried_append k ρ _ rest))
  have hforced : (x.2.bmcStatus = bmcUpdateInProgress ∧ rest = []) ↔ part = bmcInForcedUpdateMode := by
    obtain ⟨hrest, hstatus, hpart⟩ | ⟨polls, -, hpolls, hpart⟩ :=
      (h hgenuine hretries).of_queried hexchanges
    · exact iff_of_true ⟨hstatus, hrest⟩ (hpart hnotReady query ctx part rfl hpayload)
    · refine iff_of_false (fun h => hpolls.bmcStatus_ne h.1) ?_
      exact hpart hnotReady query ctx part rfl hpayload
  rw [hforced]
  exact iff_comm

/-- A reply to `Get Device ID` with the given byte of update mode and firmware revision. -/
def deviceIdReply (byte : UInt8) : Response :=
  ⟨0x1C, 0x01, [0x20, 0x01, byte, 0x00, 0x02, 0xBF, 0x57, 0x01, 0x00, 0x01, 0x00]⟩

/-- A reply to `Get BMC Execution Context`. -/
def contextReply (ctx part : UInt8) : Response := ⟨0x24, 0x23, [ctx, part]⟩

/-- A BMC that is ready from the second `Get Device ID` on. -/
def bootingBmc (ctx part : UInt8) : ℕ → Attempt
  | 0 => .ofReply (deviceIdReply 0x82).bytes
  | 1 => .ofReply (contextReply ctx part).bytes
  | _ + 2 => .ofReply (deviceIdReply 0x02).bytes

/-- A BMC in Force Update Mode, with partition pointer 0, is not recognized. -/
theorem getDeviceId_forcedUpdate_not_recognized :
    ∃ tr x rest, (getDeviceId ⟨30, 15, true⟩ (2 ^ 32 + 1) idleInstance).Runs tr x ∧
      (∀ event ∈ tr, Genuine 1 event) ∧ exchanges tr = queried 0 (deviceIdReply 0x82)
        (some (contextReply bmcInForcedUpdateMode 0x00)) ++ rest ∧
      ¬ (x.2.bmcStatus = bmcUpdateInProgress ∧ rest = []) := by
  have hrun : ((getDeviceId ⟨30, 15, true⟩ (2 ^ 32 + 1) idleInstance).exec
      (overTransport 1 (bootingBmc bmcInForcedUpdateMode 0x00)) 0).map
        (fun x => (exchanges x.2.1, x.1.2.bmcStatus)) =
      some (queried 0 (deviceIdReply 0x82) (some (contextReply bmcInForcedUpdateMode 0x00)) ++
        [deviceIdExchange (some (deviceIdReply 0x02)), deviceIdExchange (some (deviceIdReply 0x02))],
        bmcOk) := by decide
  obtain ⟨⟨x, tr, n⟩, hexec, hresult⟩ := Option.map_eq_some_iff.1 hrun
  simp only [Prod.mk.injEq] at hresult
  exact ⟨tr, x, _, .of_exec hexec, forall_event_of_exec (genuine_overTransport 1 _) hexec, hresult.1,
    fun h => nomatch h.2⟩

theorem getDeviceId_forcedUpdate_iff_thirtySeconds :
    (getDeviceId ⟨30, 15, true⟩ (2 ^ 32 + 1) idleInstance).Satisfies False fun tr x =>
      (∀ event ∈ tr, Genuine 1 event) →
        PollsOn 30 (exchanges tr) x.1 x.2.bmcStatus ∧
        ∀ k ρ query ctx part rest,
          exchanges tr = queried k ρ (some query) ++ rest → SaysNotReady ρ →
            query.payload = [ctx, part] →
              (((x.2.bmcStatus = bmcUpdateInProgress ∧ rest = []) ↔ ctx = bmcInForcedUpdateMode) ↔
                (ctx = bmcInForcedUpdateMode ↔ part = bmcInForcedUpdateMode)) :=
  getDeviceId_forcedUpdate_iff ⟨30, 15, true⟩ _ 1 idleInstance (Nat.lt_succ_self _)

/-- The polls up to an answer are a part of all polls. -/
theorem map_deviceIdExchange_eq_append {polls polls' : List (Option Response)}
    (h : polls'.map deviceIdExchange =
      polls.map deviceIdExchange ++ deviceIdExchange (some ρ) :: rest) :
    ∃ later, polls' = polls ++ some ρ :: later ∧ rest = later.map deviceIdExchange := by
  have hinj : Function.Injective deviceIdExchange := fun _ _ => deviceIdExchange_inj.1
  obtain ⟨first, last, rfl, hfirst, hlast⟩ := List.map_eq_append_iff.1 h
  obtain ⟨answer, later, rfl, hanswer, hlater⟩ := List.map_eq_cons_iff.1 hlast
  refine ⟨later, ?_, hlater.symm⟩
  rw [List.map_injective_iff.2 hinj hfirst, deviceIdExchange_inj.1 hanswer]

/-- Polling ends with an answer that says that the BMC is ready exactly if there is room for it. -/
theorem ReadyWait.ends_iff {before : List Exchange} {polls later : List (Option Response)}
    (h : ReadyWait timer before (polls ++ some ρ :: later) status bmcStatus)
    (hready : SaysReady ρ) :
    later = [] ∧ status = .success ∧ bmcStatus = bmcOk ↔
      ρ.payload.length ≤ roomLeft (before ++ polls.map deviceIdExchange) := by
  generalize hall : polls ++ some ρ :: later = all at h
  cases h with
  | ready init last _ hlength hrefused hfits =>
    rcases List.eq_nil_or_concat' later with rfl | ⟨later, answer, rfl⟩
    · obtain ⟨rfl, hlast⟩ := List.append_inj' hall rfl
      rw [Option.some.inj (List.singleton_inj.1 hlast)]
      exact iff_of_true ⟨rfl, rfl, rfl⟩ hfits
    · rw [← List.cons_append, ← List.append_assoc] at hall
      refine iff_of_false (fun h => by simp at h) (Nat.not_le.2 ?_)
      exact hrefused polls ρ later (List.append_inj' hall rfl).1.symm hready
  | failed all status hlength hrefused =>
    have hhard : bmcHardfail ≠ bmcOk := by decide
    exact iff_of_false (fun h => hhard h.2.2)
      (Nat.not_le.2 (hrefused polls ρ later hall.symm hready))

/-- **When a BMC that becomes ready is noticed.**  `GetDeviceId` polls a BMC that is not ready as
often as `PcdIpmiBmcReadyDelayTimer` says, or until it is taken to be ready.  A poll that is answered by a BMC that says that
it is ready is the last one, and `GetDeviceId` succeeds with `BMC_OK`, if and only if the answer is
not longer than the room that the answers before it have left. -/
theorem getDeviceId_ready_iff (pcds : Pcds) (fuel : ℕ) (maxRetries : UInt8)
    (inst : IpmiBmcInstanceData) (hfuel : 2 ^ 32 < fuel) :
    (getDeviceId pcds fuel inst).Satisfies False fun tr x =>
      (∀ event ∈ tr, Genuine maxRetries event) →
        PollsOn pcds.ipmiBmcReadyDelayTimer.toNat (exchanges tr) x.1 x.2.bmcStatus ∧
        ∀ k ρ₀ answer (polls : List (Option Response)) ρ rest,
          exchanges tr = queried k ρ₀ answer ++
            (polls.map deviceIdExchange ++ deviceIdExchange (some ρ) :: rest) → SaysReady ρ →
              (rest = [] ∧ x.1 = .success ∧ x.2.bmcStatus = bmcOk ↔ ρ.payload.length ≤
                roomLeft (queried k ρ₀ answer ++ polls.map deviceIdExchange)) := by
  refine (getDeviceId_returns pcds maxRetries inst hfuel).mono ?_
  intro tr x h hgenuine
  refine ⟨pollsOn_of_returns hgenuine (h hgenuine), ?_⟩
  intro k ρ₀ answer polls ρ rest hexchanges hready
  have hretries := maxRetries_ne_zero hgenuine (hexchanges.trans (queried_append k ρ₀ answer _))
  obtain ⟨hnil, -⟩ | ⟨all, hall, hpolls, -⟩ :=
    (h hgenuine hretries).of_queried hexchanges
  · simp at hnil
  obtain ⟨later, rfl, rfl⟩ := map_deviceIdExchange_eq_append hall.symm
  rw [← hpolls.ends_iff hready, List.map_eq_nil_iff]

/-- The reply to the query leaves no room for the first reply that says that the BMC is ready. -/
theorem getDeviceId_ready_not_noticed :
    ∃ tr x rest, (getDeviceId ⟨30, 15, true⟩ (2 ^ 32 + 1) idleInstance).Runs tr x ∧
      (∀ event ∈ tr, Genuine 1 event) ∧ exchanges tr = queried 0 (deviceIdReply 0x82)
        (some (contextReply 0x10 0x01)) ++ deviceIdExchange (some (deviceIdReply 0x02)) :: rest ∧
      SaysReady (deviceIdReply 0x02) ∧ rest ≠ [] := by
  have hrun : ((getDeviceId ⟨30, 15, true⟩ (2 ^ 32 + 1) idleInstance).exec
      (overTransport 1 (bootingBmc 0x10 0x01)) 0).map (fun x => exchanges x.2.1) =
      some (queried 0 (deviceIdReply 0x82) (some (contextReply 0x10 0x01)) ++
        [deviceIdExchange (some (deviceIdReply 0x02)),
          deviceIdExchange (some (deviceIdReply 0x02))]) := by
    decide
  obtain ⟨⟨x, tr, n⟩, hexec, hresult⟩ := Option.map_eq_some_iff.1 hrun
  exact ⟨tr, x, _, .of_exec hexec, forall_event_of_exec (genuine_overTransport 1 _) hexec, hresult,
    rfl, nofun⟩

theorem getDeviceId_ready_iff_thirtySeconds :
    (getDeviceId ⟨30, 15, true⟩ (2 ^ 32 + 1) idleInstance).Satisfies False fun tr x =>
      (∀ event ∈ tr, Genuine 1 event) →
        PollsOn 30 (exchanges tr) x.1 x.2.bmcStatus ∧
        ∀ k ρ₀ answer (polls : List (Option Response)) ρ rest,
          exchanges tr = queried k ρ₀ answer ++
            (polls.map deviceIdExchange ++ deviceIdExchange (some ρ) :: rest) → SaysReady ρ →
              (rest = [] ∧ x.1 = .success ∧ x.2.bmcStatus = bmcOk ↔ ρ.payload.length ≤
                roomLeft (queried k ρ₀ answer ++ polls.map deviceIdExchange)) :=
  getDeviceId_ready_iff ⟨30, 15, true⟩ _ 1 idleInstance (Nat.lt_succ_self _)

end Initialize

end IpmiFeature
