import IpmiFeature.Generic.Status

/-!
# Force Update Mode

A visit leaves Force Update Mode, or counts a soft error in it, on every exit of the command routine
but those of a reply that says neither success nor one of the recorded codes.  `Quiet` names these
outcomes, `QuietVisit` the visits that keep the mode (`enter_keeps_iff`), and a session keeps it
exactly if all its visits are quiet (`forceUpdateMode_kept_iff`).
-/

namespace IpmiFeature

open Interaction Prog

namespace Generic

/-- In the second instance the BMC is in Force Update Mode, with the soft errors of the first. -/
structure KeepsUpdateMode (inst inst' : IpmiBmcInstanceData) : Prop where
  /-- The mode. -/
  bmcStatus_eq : inst'.bmcStatus = bmcUpdateInProgress
  /-- The counter. -/
  softErrorCount_eq : inst'.softErrorCount = inst.softErrorCount

/-- The bytes of the command that fall on `BmcStatus` are those of `BMC_UPDATE_IN_PROGRESS`. -/
def KeepsStatusBytes (args : CommandArgs UInt8) : Prop :=
  ∀ i < 4, ∀ b ∈ (commandBytes args)[maxTempData + i]?, b = byteOf bmcUpdateInProgress i

/-- The outcomes of a call that neither end Force Update Mode nor are counted: a command that is
sent; a response that is too long for the buffer; and any other reply whose completion code, if
there is one, is not recorded. -/
def Quiet (args : CommandArgs UInt8) (capacity : UInt8) : TransportEvent → Prop
  | ⟨.sendDataToBmcPort _ _, status⟩ => status = .success
  | ⟨.receiveBmcDataFromPort _ _, reply⟩ =>
    match reply.response with
    | some r => r.TooLong args capacity
    | none => reply.status = .success ∧
        ∀ completionCode ∈ reply.data[2]?, completionCode ∉ completionCodes

/-- The visits that keep Force Update Mode: those that read the status, and the commands that are
rejected or sent at least once, do not overwrite `BmcStatus` and meet with quiet outcomes only. -/
def QuietVisit (maxRetries : UInt8) (v : BmcVisit) : Prop :=
  match v.entry with
  | .getBmcStatus => True
  | .ipmiSubmitCommand _ args _ responseDataSize =>
    Rejected args.narrow ∨ (maxRetries ≠ 0 ∧ KeepsStatusBytes args.narrow ∧
      ∀ event ∈ v.trace, Quiet args.narrow (byteOf responseDataSize 0) event)

variable {args : CommandArgs UInt8} {st : CommandState UInt8} {retryCnt : ℕ}
  {reply : Reply receiveSize} {r : Response} {inst inst' : IpmiBmcInstanceData}

/-- Of the first instance only the counter matters. -/
theorem KeepsUpdateMode.congr {inst₁ inst₂ : IpmiBmcInstanceData}
    (h : inst₁.softErrorCount = inst₂.softErrorCount) :
    KeepsUpdateMode inst₁ inst ↔ KeepsUpdateMode inst₂ inst :=
  ⟨fun hk => ⟨hk.1, hk.2.trans h⟩, fun hk => ⟨hk.1, hk.2.trans h.symm⟩⟩

/-! ### The command and the reply -/

theorem bmcSoftfail_ne : bmcSoftfail ≠ bmcUpdateInProgress := by decide

theorem bmcOk_ne : bmcOk ≠ bmcUpdateInProgress := by decide

theorem byteOf_bmcStatus_buildCommand (args : CommandArgs UInt8) (inst : IpmiBmcInstanceData)
    {i : ℕ} (hi : i < 4) :
    byteOf (buildCommand args inst).bmcStatus i =
      ((commandBytes args)[maxTempData + i]?).getD (byteOf inst.bmcStatus i) := by
  rw [buildCommand_eq]
  change byteOf (wordOf (inst.temp.store 0 (commandBytes args)) maxTempData) i = _
  rw [byteOf_wordOf _ _ hi]
  by_cases hlt : maxTempData + i < (commandBytes args).length
  · have hread : inst.temp.store 0 (commandBytes args) (0 + (maxTempData + i)) =
        (commandBytes args)[maxTempData + i] := Memory.store_of_mem hlt
    rw [Nat.zero_add] at hread
    rw [hread, List.getElem?_eq_getElem hlt, Option.getD_some]
  · rw [Memory.store_of_le (by omega), List.getElem?_eq_none (by omega), Option.getD_none,
      IpmiBmcInstanceData.temp, dif_neg (by omega), Nat.add_sub_cancel_left]

/-- Words with the same bytes. -/
theorem eq_of_byteOf {w w' : UInt32} (h : ∀ i < 4, byteOf w i = byteOf w' i) : w = w' := by
  rw [← wordOf_byteOf w, ← wordOf_byteOf w']
  refine wordOf_congr fun i hi => ?_
  rw [Nat.zero_add]
  exact h i hi

/-- A command keeps the mode only if its bytes do. -/
theorem keepsStatusBytes_of_buildCommand
    (h : (buildCommand args inst).bmcStatus = bmcUpdateInProgress) : KeepsStatusBytes args := by
  intro i hi b hb
  have hbyte := byteOf_bmcStatus_buildCommand args inst hi
  rw [h, hb] at hbyte
  exact hbyte.symm

theorem bmcStatus_buildCommand (hargs : KeepsStatusBytes args)
    (h : inst.bmcStatus = bmcUpdateInProgress) :
    (buildCommand args inst).bmcStatus = bmcUpdateInProgress := by
  refine eq_of_byteOf fun i hi => ?_
  rw [byteOf_bmcStatus_buildCommand args inst hi, h]
  cases hb : (commandBytes args)[maxTempData + i]? with
  | none => rfl
  | some b => exact hargs i hi b hb

/-- A reply stays inside `TempData`. -/
theorem bmcStatus_storeReply (reply : Reply receiveSize) (inst : IpmiBmcInstanceData) :
    (inst.storeTemp 0 reply.data).bmcStatus = inst.bmcStatus := by
  have hlen : reply.data.length ≤ 254 := reply.length_le
  rw [storeTemp_eq (show 0 + reply.data.length ≤ 255 by omega)]

theorem bmcStatus_afterResponse (h : reply.response = some r) (inst : IpmiBmcInstanceData) :
    (afterResponse args r inst).bmcStatus = (buildCommand args inst).bmcStatus := by
  rw [afterResponse, ← (Reply.response_eq_some_iff.1 h).2]
  exact bmcStatus_storeReply reply _

/-- A reply never enters the mode. -/
theorem bmcStatus_of_afterReply (h : (afterReply reply inst).bmcStatus = bmcUpdateInProgress) :
    inst.bmcStatus = bmcUpdateInProgress := by
  rw [← bmcStatus_storeReply reply inst]
  revert h
  unfold afterReply
  dsimp only
  generalize inst.storeTemp 0 reply.data = inst
  by_cases hstatus : reply.status = .success
  · rw [if_pos hstatus]
    cases reply.data[2]? with
    | none => exact id
    | some completionCode =>
      change (updateErrorStatus completionCode inst).bmcStatus = _ → _
      unfold updateErrorStatus
      by_cases hmode : inst.bmcStatus = bmcUpdateInProgress
      · exact fun _ => hmode
      · split_ifs
        · exact fun h => absurd h bmcSoftfail_ne
        · exact id
  · rw [if_neg hstatus]
    exact fun h => absurd h bmcSoftfail_ne

/-- A reply that is not a response keeps the mode exactly if it is quiet. -/
theorem keeps_afterReply_iff (reply : Reply receiveSize)
    (hmode : inst.bmcStatus = bmcUpdateInProgress) :
    KeepsUpdateMode inst (afterReply reply inst) ↔ reply.status = .success ∧
      ∀ completionCode ∈ reply.data[2]?, completionCode ∉ completionCodes := by
  have hstored := bmcStatus_storeReply reply inst
  have hcounter : (inst.storeTemp 0 reply.data).softErrorCount = inst.softErrorCount := rfl
  unfold afterReply
  dsimp only
  generalize inst.storeTemp 0 reply.data = inst₁ at hstored hcounter
  by_cases hstatus : reply.status = .success
  · rw [if_pos hstatus]
    cases reply.data[2]? with
    | none => exact iff_of_true ⟨hstored.trans hmode, hcounter⟩ ⟨hstatus, nofun⟩
    | some completionCode =>
      change KeepsUpdateMode inst (updateErrorStatus completionCode inst₁) ↔ _
      unfold updateErrorStatus
      by_cases hcode : completionCode ∈ completionCodes
      · rw [if_pos hcode]
        refine iff_of_false (fun h => ?_) fun h => h.2 _ rfl hcode
        have hsame : inst₁.softErrorCount + 1 = inst.softErrorCount := h.softErrorCount_eq
        rw [hcounter] at hsame
        exact absurd hsame (by grind)
      · rw [if_neg hcode]
        refine iff_of_true ⟨hstored.trans hmode, hcounter⟩ ⟨hstatus, ?_⟩
        rintro _ ⟨⟩
        exact hcode
  · rw [if_neg hstatus]
    exact iff_of_false (fun h => bmcSoftfail_ne h.bmcStatus_eq) fun h => hstatus h.1

/-! ### The retry loop -/

/-- The loop has ended with an error, in Force Update Mode and without counting. -/
def LoopKeeps (st : CommandState UInt8)
    (x : Except EfiStatus (Option UInt8) × CommandState UInt8) : Prop :=
  (∃ status, x.1 = .error status) ∧ KeepsUpdateMode st.inst x.2.inst

/-- A command that overwrites `BmcStatus` ends the mode. -/
theorem retryLoop_overwrites (hargs : ¬ KeepsStatusBytes args) (hretries : retryCnt ≠ 0) :
    (retryLoop args retryCnt st).Satisfies True fun _ x =>
      x.2.inst.bmcStatus ≠ bmcUpdateInProgress := by
  induction retryCnt generalizing st with
  | zero => exact absurd rfl hretries
  | succ retryCnt ih =>
    have hbuild : (buildCommand args st.inst).bmcStatus ≠ bmcUpdateInProgress :=
      fun h => hargs (keepsStatusBytes_of_buildCommand h)
    refine satisfies_retryLoop (satisfies_attempt (fun _ _ _ _ => bmcSoftfail_ne)
      (fun period data period' reply r hr => ?_) fun _ _ _ reply status hr hstatus => ?_)
    · have hinst : (afterResponse args r st.inst).bmcStatus ≠ bmcUpdateInProgress := by
        rw [bmcStatus_afterResponse hr]
        exact hbuild
      unfold afterAttempt
      split_ifs with hskipped hzero
      · exact hinst
      · exact ih hzero
      · unfold settle
        split_ifs <;> exact hinst
    · exact fun h => hbuild (bmcStatus_of_afterReply h)

/-- The other commands keep the mode exactly if all outcomes are quiet. -/
theorem retryLoop_keeps_iff (hargs : KeepsStatusBytes args)
    (hmode : st.inst.bmcStatus = bmcUpdateInProgress) :
    (retryLoop args retryCnt st).Satisfies True fun tr x => LoopKeeps st x ↔
      retryCnt ≠ 0 ∧ ∀ event ∈ tr, Quiet args st.responseDataSize event := by
  induction retryCnt generalizing st with
  | zero => exact iff_of_false (fun h => by obtain ⟨⟨_, ⟨⟩⟩, _⟩ := h) fun h => h.1 rfl
  | succ retryCnt ih =>
    have hbuild := bmcStatus_buildCommand hargs hmode
    refine satisfies_retryLoop (satisfies_attempt (fun period data status hstatus => ?_)
      (fun period data period' reply r hr => ?_) fun period data period' reply status hr hstatus => ?_)
    · refine iff_of_false (fun h => bmcSoftfail_ne h.2.bmcStatus_eq) fun h => hstatus ?_
      exact h.2 _ List.mem_cons_self
    · have hcounter := softErrorCount_afterResponse args r st.inst
      have hkeeps : KeepsUpdateMode st.inst (afterResponse args r st.inst) :=
        ⟨(bmcStatus_afterResponse hr st.inst).trans hbuild, hcounter⟩
      have hquiet : (∀ event ∈ [⟨.sendDataToBmcPort period data, .success⟩,
          (⟨.receiveBmcDataFromPort period' receiveSize, reply⟩ : TransportEvent)],
            Quiet args st.responseDataSize event) ↔ r.TooLong args st.responseDataSize := by
        simp [Quiet, hr]
      unfold afterAttempt
      split_ifs with hskipped hzero
      · exact iff_of_true ⟨⟨_, rfl⟩, hkeeps⟩ ⟨Nat.succ_ne_zero _, hquiet.2 hskipped.1⟩
      · change (retryLoop args retryCnt
          { st with inst := afterResponse args r st.inst }).Satisfies True _
        refine Satisfies.mono (ih hkeeps.bmcStatus_eq) fun tr x hx => ?_
        have hrest : LoopKeeps st x ↔ _ :=
          (and_congr_right fun _ => KeepsUpdateMode.congr hcounter.symm).trans hx
        rw [hrest, List.forall_mem_append]
        constructor
        · rintro ⟨-, hrest⟩
          exact ⟨Nat.succ_ne_zero _, hquiet.2 hskipped.1, hrest⟩
        · rintro ⟨-, -, hrest⟩
          exact ⟨hzero, hrest⟩
      · unfold settle
        split_ifs with hlong
        · exact iff_of_true ⟨⟨_, rfl⟩, hkeeps⟩ ⟨Nat.succ_ne_zero _, hquiet.2 hlong⟩
        · exact iff_of_false (fun h => by obtain ⟨⟨_, ⟨⟩⟩, _⟩ := h) fun h => hlong (hquiet.1 h.2)
    · have hreply := (KeepsUpdateMode.congr (softErrorCount_buildCommand args st.inst).symm).trans
        (keeps_afterReply_iff reply hbuild)
      constructor
      · rintro ⟨-, hkeeps⟩
        refine ⟨Nat.succ_ne_zero _, ?_⟩
        simpa [Quiet, hr] using hreply.1 hkeeps
      · rintro ⟨-, hquiet⟩
        refine ⟨⟨status, rfl⟩, hreply.2 ?_⟩
        simpa [Quiet, hr] using hquiet

/-! ### A visit -/

/-- What follows the loop keeps the mode exactly if the loop has ended with an error and has kept
it. -/
theorem keeps_finishCommand_iff (uninit : Uninitialized)
    (x : Except EfiStatus (Option UInt8) × CommandState UInt8) :
    KeepsUpdateMode st.inst (finishCommand uninit args x).2.inst ↔ LoopKeeps st x := by
  obtain ⟨status | reply, st'⟩ := x
  · exact ⟨fun h => ⟨⟨status, rfl⟩, h⟩, fun h => h.2⟩
  · exact iff_of_false (fun h => bmcOk_ne h.bmcStatus_eq) fun h => by obtain ⟨⟨_, ⟨⟩⟩, _⟩ := h

/-- What a command that is not rejected does to the mode. -/
theorem ipmiSendCommandInternal_keeps_iff (maxRetries : UInt8) (uninit : Uninitialized)
    (hargs : ¬ Rejected args) (hmode : st.inst.bmcStatus = bmcUpdateInProgress) :
    (ipmiSendCommandInternal maxRetries uninit args st).Satisfies True fun tr x =>
      KeepsUpdateMode st.inst x.2.inst ↔ maxRetries ≠ 0 ∧ KeepsStatusBytes args ∧
        ∀ event ∈ tr, Quiet args st.responseDataSize event := by
  have hretries : maxRetries.toNat ≠ 0 ↔ maxRetries ≠ 0 := (UInt8.toNat_inj (b := 0)).not
  rw [ipmiSendCommandInternal_of_not_rejected hargs, satisfies_bind]
  by_cases hbytes : KeepsStatusBytes args
  · refine (retryLoop_keeps_iff hbytes hmode).mono fun tr x hx => ?_
    change KeepsUpdateMode st.inst (finishCommand uninit args x).2.inst ↔ _
    rw [keeps_finishCommand_iff, hx, hretries, List.append_nil]
    exact and_congr_right fun _ => (and_iff_right hbytes).symm
  · by_cases hzero : maxRetries.toNat = 0
    · rw [hzero]
      refine iff_of_false (fun h => bmcOk_ne h.bmcStatus_eq) fun h => hretries.2 h.1 hzero
    · refine (retryLoop_overwrites hbytes hzero).mono fun tr x hx => ?_
      refine iff_of_false (fun h => ?_) fun h => hbytes h.2.1
      exact hx ((keeps_finishCommand_iff uninit x).1 h).2.bmcStatus_eq

/-- A visit keeps Force Update Mode exactly if it is quiet. -/
theorem enter_keeps_iff {maxRetries : UInt8} {v : BmcVisit}
    (hmode : inst.bmcStatus = bmcUpdateInProgress)
    (h : (enter maxRetries v.entry inst).Runs v.trace (v.result, v.state)) :
    KeepsUpdateMode inst v.state ↔ QuietVisit maxRetries v := by
  obtain ⟨entry, tr, result, inst'⟩ := v
  cases entry with
  | getBmcStatus =>
    have hsame : (ipmiBmcStatus inst).2 = inst := by
      unfold ipmiBmcStatus
      rw [if_neg fun hsoft => bmcSoftfail_ne (hsoft.1.symm.trans hmode)]
    obtain rfl : inst' = (ipmiBmcStatus inst).2 := by cases h; rfl
    refine iff_of_true ?_ trivial
    change KeepsUpdateMode inst (ipmiBmcStatus inst).2
    rw [hsame]
    exact ⟨hmode, rfl⟩
  | ipmiSubmitCommand uninit args responseData responseDataSize =>
    have hvisit : (enter maxRetries (.ipmiSubmitCommand uninit args responseData responseDataSize)
        inst).Satisfies True fun tr x => KeepsUpdateMode inst x.2 ↔
          Rejected args.narrow ∨ (maxRetries ≠ 0 ∧ KeepsStatusBytes args.narrow ∧
            ∀ event ∈ tr, Quiet args.narrow (byteOf responseDataSize 0) event) := by
      rw [enter, ipmiSendCommand, satisfies_bind, satisfies_bind]
      by_cases hargs : Rejected args.narrow
      · rw [ipmiSendCommandInternal_of_rejected hargs]
        exact iff_of_true ⟨hmode, rfl⟩ (.inl hargs)
      · refine Satisfies.mono (ipmiSendCommandInternal_keeps_iff maxRetries uninit hargs hmode)
          fun tr x hx => ?_
        change KeepsUpdateMode inst x.2.inst ↔ _
        rw [List.append_nil, List.append_nil, hx]
        exact (or_iff_right hargs).symm
    exact hvisit.of_runs h

/-- **When Force Update Mode is preserved.**  In every session that starts in Force Update Mode the
BMC is in that mode, with the same number of soft errors, after every visit, if and only if all
visits are quiet. -/
theorem forceUpdateMode_kept_iff {maxRetries : UInt8} {visits : List BmcVisit}
    (h : BmcSession maxRetries inst visits inst') (hmode : inst.bmcStatus = bmcUpdateInProgress) :
    (∀ v ∈ visits, v.state.bmcStatus = bmcUpdateInProgress ∧
        v.state.softErrorCount = inst.softErrorCount) ↔
      ∀ v ∈ visits, QuietVisit maxRetries v := by
  have hkept := h.forall_state_iff (I := KeepsUpdateMode inst) (P := QuietVisit maxRetries)
    (fun s v hs hrun => ?_) ⟨hmode, rfl⟩
  · rw [← hkept]
    exact forall₂_congr fun v _ => ⟨fun hv => ⟨hv.1, hv.2⟩, fun hv => ⟨hv.1, hv.2⟩⟩
  · rw [KeepsUpdateMode.congr hs.softErrorCount_eq.symm]
    exact enter_keeps_iff hs.bmcStatus_eq hrun

/-- A BMC in Force Update Mode. -/
def updatingInstance : IpmiBmcInstanceData := { idleInstance with bmcStatus := bmcUpdateInProgress }

/-- A command that cannot be sent ends the mode. -/
theorem forceUpdateMode_not_kept : ¬ ∀ visits inst', BmcSession 1 updatingInstance visits inst' →
    inst'.bmcStatus = bmcUpdateInProgress ∧
      inst'.softErrorCount = updatingInstance.softErrorCount := by
  intro h
  obtain ⟨v, -, hrun, -, hsoft⟩ := plainEntry_fails updatingInstance
  have hmode := (h [v] v.state (.cons hrun (.nil _))).1
  rw [hsoft] at hmode
  exact bmcSoftfail_ne hmode

theorem forceUpdateMode_kept_iff_refused : ∃ v inst', BmcSession 1 updatingInstance [v] inst' ∧
    updatingInstance.bmcStatus = bmcUpdateInProgress ∧
      ((∀ w ∈ [v], w.state.bmcStatus = bmcUpdateInProgress ∧
          w.state.softErrorCount = updatingInstance.softErrorCount) ↔
        ∀ w ∈ [v], QuietVisit 1 w) := by
  have hrun : ((enter 1 plainEntry updatingInstance).exec
      (scripted fun _ => .ofReply [0x1C, 0x01, 0xC1]) 0).map (fun x => x.1.2.bmcStatus) =
        some bmcUpdateInProgress := by decide
  obtain ⟨⟨⟨result, inst'⟩, tr, n⟩, hexec, -⟩ := Option.map_eq_some_iff.1 hrun
  have hsession : BmcSession 1 updatingInstance [⟨plainEntry, tr, result, inst'⟩] inst' :=
    .cons (.of_exec hexec) (.nil _)
  exact ⟨_, inst', hsession, rfl, forceUpdateMode_kept_iff hsession rfl⟩

end Generic

end IpmiFeature
