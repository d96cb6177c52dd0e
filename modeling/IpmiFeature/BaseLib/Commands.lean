import IpmiFeature.BaseLib.Dxe
import IpmiFeature.Generic.Link

/-!
# What the base library is for

A program over `IpmiSubmitCommand`, and what it does with a BMC: `executeCall` is one call, executed by
the BMC once.  The program behaves in this way over `IpmiBaseLibDxe` and the generic driver, on any
transport that delivers the requests and the responses (`dxeLibrary_executes`).
-/

namespace IpmiFeature

open Interaction Prog Generic

namespace BaseLib

/-- Programs over `IpmiSubmitCommand`. -/
abbrev CommandProg := Prog BufferedCall fun _ => SubmitResult

variable {σ : Type} {process : Processor σ}

/-- The request that a call is for the BMC. -/
def BufferedCall.request (call : BufferedCall) : List UInt8 :=
  call.call.netFunction <<< 2 :: call.call.command :: call.call.commandData

/-- `BmcStatus` after a response with an error code. -/
def refusedStatus (bmcStatus : UInt32) (code : UInt8) : UInt32 :=
  if code ∈ completionCodes ∧ bmcStatus ≠ bmcUpdateInProgress then bmcSoftfail else bmcStatus

/-- One call: the BMC executes the request.  The result of a response with completion code 0 is the
response, that of another one an error.  The state is `BmcStatus` and that of the BMC.

There is no result if the request or the response does not fit its buffer. -/
def executeCall (process : Processor σ) (call : BufferedCall) :
    UInt32 × σ → Option (SubmitResult × (UInt32 × σ))
  | (bmcStatus, state) =>
    if call.call.commandData.length ≤ 253 ∧ call.call.responseDataSize.toNat < 256 then
      match process call.request state with
      | (_ :: _ :: code :: payload, state) =>
        if 251 < payload.length then
          none
        else if code ≠ compCodeNormal then
          some (⟨refusal bmcStatus code, call.buffer, call.call.responseDataSize⟩,
            refusedStatus bmcStatus code, state)
        else if payload.length + 1 ≤ call.call.responseDataSize.toNat then
          some (⟨.success, call.buffer.store 0 (code :: payload), UInt32.ofNat (payload.length + 1)⟩,
            bmcOk, state)
        else
          none
      | _ => none
    else
      none

/-- The library before its first call. -/
def freshLibrary : DxeState := ⟨false, idleInstance⟩

/-- `IpmiBaseLibDxe`, once the protocol can be located. -/
def dxeLibrary (maxRetries : UInt8) (uninit : Uninitialized) :
    (call : BufferedCall) → DxeState → TransportProg (SubmitResult × DxeState) :=
  dxeSubmitCommand maxRetries .success uninit

/-! ### One call -/

theorem size_submitArgs {call : SubmitCall} (hlen : call.commandData.length ≤ 253) :
    (submitArgs call).narrow.commandDataSize.toNat = call.commandData.length := by
  have hsize : (submitArgs call).commandDataSize.toNat = call.commandData.length :=
    UInt32.toNat_ofNat_of_lt' (show call.commandData.length < 2 ^ 32 by omega)
  rw [← hsize]
  exact toNat_narrow (by omega)

/-- The frame of a command is the request. -/
theorem commandFrame_submitArgs {call : SubmitCall} (inst : IpmiBmcInstanceData)
    (hlen : call.commandData.length ≤ 253) :
    commandFrame (submitArgs call).narrow inst =
      call.netFunction <<< 2 :: call.command :: call.commandData := by
  have hsize := size_submitArgs hlen
  have hheader : commandHeader call.netFunction 0 = call.netFunction <<< 2 := by
    rw [commandHeader, UInt8.zero_and, UInt8.or_zero]
  have hdata : Memory.slice (fun i => call.commandData.getD i 0) 0
      (submitArgs call).narrow.commandDataSize.toNat = call.commandData := by
    rw [hsize]
    apply List.ext_getElem
    · simp
    · intro i hi hi'
      rw [Memory.getElem_slice]
      simp [hi']
  rw [commandFrame_eq inst (not_rejected_submitArgs call) (by omega), commandBytes]
  exact congrArg₂ (· :: call.command :: ·) hheader hdata

variable {maxRetries : UInt8} {uninit : Uninitialized} {call : BufferedCall} {state state' : σ}
  {result : SubmitResult} {bmcStatus bmcStatus' : UInt32}

/-- What is known when a call is executed. -/
theorem executeCall_eq_some
    (h : executeCall process call (bmcStatus, state) = some (result, bmcStatus', state')) :
    call.call.commandData.length ≤ 253 ∧ call.call.responseDataSize.toNat < 256 ∧
      ∃ header command code payload,
        process call.request state = (header :: command :: code :: payload, state') ∧
          payload.length ≤ 251 ∧
          ((code ≠ compCodeNormal ∧
              result = ⟨refusal bmcStatus code, call.buffer, call.call.responseDataSize⟩ ∧
              bmcStatus' = refusedStatus bmcStatus code) ∨
            (code = compCodeNormal ∧ payload.length + 1 ≤ call.call.responseDataSize.toNat ∧
              result = ⟨.success, call.buffer.store 0 (code :: payload),
                UInt32.ofNat (payload.length + 1)⟩ ∧ bmcStatus' = bmcOk)) := by
  unfold executeCall at h
  dsimp only at h
  split_ifs at h with hsizes
  refine ⟨hsizes.1, hsizes.2, ?_⟩
  split at h
  · rename_i header command code payload state₁ hprocess
    split_ifs at h with hlong hcode hfits
    · simp only [Option.some.injEq, Prod.mk.injEq] at h
      obtain ⟨rfl, rfl, rfl⟩ := h
      exact ⟨header, command, code, payload, hprocess, Nat.not_lt.1 hlong, .inl ⟨hcode, rfl, rfl⟩⟩
    · simp only [Option.some.injEq, Prod.mk.injEq] at h
      obtain ⟨rfl, rfl, rfl⟩ := h
      exact ⟨header, command, code, payload, hprocess, Nat.not_lt.1 hlong,
        .inr ⟨not_not.1 hcode, hfits, rfl, rfl⟩⟩
  · cases h

/-- A request that is answered with completion code 0. -/
theorem executeCall_answered {header command : UInt8} {payload : List UInt8}
    (hdata : call.call.commandData.length ≤ 253) (hroom : call.call.responseDataSize.toNat < 256)
    (hprocess : process call.request state =
      (header :: command :: compCodeNormal :: payload, state'))
    (hfits : payload.length + 1 ≤ call.call.responseDataSize.toNat) (hlen : payload.length ≤ 251) :
    executeCall process call (bmcStatus, state) =
      some (⟨.success, call.buffer.store 0 (compCodeNormal :: payload),
        UInt32.ofNat (payload.length + 1)⟩, bmcOk, state') := by
  unfold executeCall
  dsimp only
  rw [if_pos ⟨hdata, hroom⟩, hprocess]
  dsimp only
  rw [if_neg (Nat.not_lt.2 hlen), if_neg (not_not.2 rfl), if_pos hfits]

/-- A request that is answered with an error code. -/
theorem executeCall_refused {header command code : UInt8} {payload : List UInt8}
    (hdata : call.call.commandData.length ≤ 253) (hroom : call.call.responseDataSize.toNat < 256)
    (hprocess : process call.request state = (header :: command :: code :: payload, state'))
    (hcode : code ≠ compCodeNormal) (hlen : payload.length ≤ 251) :
    executeCall process call (bmcStatus, state) =
      some (⟨refusal bmcStatus code, call.buffer, call.call.responseDataSize⟩,
        refusedStatus bmcStatus code, state') := by
  unfold executeCall
  dsimp only
  rw [if_pos ⟨hdata, hroom⟩, hprocess]
  dsimp only
  rw [if_neg (Nat.not_lt.2 hlen), if_pos hcode]

/-- The call over the generic driver and the ideal transport. -/
theorem dxeSubmitCommand_executes {st : DxeState} (hretries : maxRetries ≠ 0)
    (h : executeCall process call (st.inst.bmcStatus, state) = some (result, bmcStatus', state')) :
    (dxeSubmitCommand maxRetries .success uninit call st).Ends (linkTransport process)
      (some ⟨state, none⟩) fun x s' =>
        x.1 = result ∧ x.2.inst.bmcStatus = bmcStatus' ∧ s' = some ⟨state', none⟩ := by
  obtain ⟨hdata, hroom, header, command, code, payload, hprocess, hlong, hcases⟩ :=
    executeCall_eq_some h
  have hlen : (header :: command :: code :: payload).length ≤ receiveSize.toNat :=
    show payload.length + 3 ≤ 254 by omega
  have hexchanged := exchanged_link (List.cons_ne_nil _ _) hprocess hlen
  rw [← commandFrame_submitArgs st.inst hdata] at hexchanged
  have hargs := not_rejected_submitArgs call.call
  have hlocated : ¬ (¬ st.located ∧ EfiStatus.success.isError) := fun h => absurd h.2 (by decide)
  rw [dxeSubmitCommand, if_neg hlocated, ends_bind]
  rcases hcases with ⟨hcode, rfl, rfl⟩ | ⟨rfl, hfits, rfl, rfl⟩
  · have hsize : (submitArgs call.call).narrow.commandDataSize.toNat ≤ 253 := by
      rw [size_submitArgs hdata]
      exact hdata
    refine (ends_ipmiSendCommand_refused hretries hargs hsize hroom hexchanged rfl rfl hcode).mono ?_
    rintro ⟨status, st'⟩ _ ⟨rfl, rfl, hbuffer, hsize, hstatus⟩
    dsimp only at hbuffer hsize hstatus ⊢
    rw [updateErrorStatus_bmcStatus] at hstatus
    exact ⟨by rw [hbuffer, hsize], hstatus, rfl⟩
  · have hr : (⟨.success, header :: command :: compCodeNormal :: payload, hlen⟩ :
        Reply receiveSize).response = some ⟨header, command, payload⟩ :=
      Reply.response_eq_some_iff.2 ⟨rfl, rfl⟩
    refine (ends_ipmiSendCommand_delivered hretries hargs rfl hroom hexchanged hr hfits).mono ?_
    rintro ⟨status, st'⟩ _ ⟨rfl, rfl, hbuffer, hsize, hstatus⟩
    dsimp only at hbuffer hsize hstatus ⊢
    exact ⟨by rw [hbuffer, hsize], hstatus, rfl⟩

/-! ### Programs -/

/-- The library keeps the timeout period of its instance. -/
theorem dxeLibrary_period (maxRetries : UInt8) (uninit : Uninitialized) (period : UInt64)
    (call : BufferedCall) (st : DxeState) (hst : st.inst.ipmiTimeoutPeriod = period) :
    (dxeLibrary maxRetries uninit call st).Satisfies True fun tr r =>
      (∀ event ∈ tr, event.1.period = period) ∧ r.2.inst.ipmiTimeoutPeriod = period := by
  subst hst
  unfold dxeLibrary dxeSubmitCommand
  have hlocated : ¬ (¬ st.located ∧ EfiStatus.success.isError) := fun h => absurd h.2 (by decide)
  rw [if_neg hlocated, satisfies_bind]
  have hkeeps : KeepsPeriod st.inst.ipmiTimeoutPeriod (ipmiSendCommand maxRetries uninit
      (submitArgs call.call) ⟨st.inst, call.buffer, call.call.responseDataSize⟩) :=
    ipmiSendCommand_period maxRetries uninit _ _
  have hframe := ipmiSendCommand_frame maxRetries uninit (submitArgs call.call)
    ⟨st.inst, call.buffer, call.call.responseDataSize⟩
  refine (hframe.of_total.and hkeeps).mono fun tr x ⟨hx, htr⟩ => ?_
  refine ⟨by simpa using htr, ?_⟩
  exact hx.ipmiTimeoutPeriod_eq

/-- A program over `IpmiBaseLibDxe` and the ideal transport does what the BMC does with its calls. -/
theorem dxeLibrary_executes {α : Type} {p : CommandProg α} {st : DxeState}
    {Q : α → UInt32 × σ → Prop} (hretries : maxRetries ≠ 0)
    (hp : p.Completes (executeCall process) (st.inst.bmcStatus, state) Q) :
    (p.through (dxeLibrary maxRetries uninit) st).Completes (linkCall process) ⟨state, none⟩
      fun a link => Q a.1 (a.2.inst.bmcStatus, link.state) ∧ link.response = none := by
  rw [completes_iff_ends failedTransport]
  refine (hp.through (fun s st t => st.inst.bmcStatus = s.1 ∧ t = some ⟨s.2, none⟩)
    ?_ ⟨rfl, rfl⟩).mono ?_
  · rintro call ⟨bmcStatus, state⟩ st _ result ⟨bmcStatus', state'⟩ ⟨rfl, rfl⟩ hcall
    refine (dxeSubmitCommand_executes hretries hcall).mono ?_
    rintro x _ ⟨rfl, rfl, rfl⟩
    exact ⟨rfl, rfl, rfl⟩
  · rintro ⟨a, st'⟩ _ ⟨⟨_, state'⟩, hQ, rfl, rfl⟩
    exact ⟨⟨state', none⟩, rfl, hQ, rfl⟩

/-- The same over a transport library. -/
theorem dxeLibrary_above {α D τ : Type} {S : D → Type} {h : Handler D S τ}
    {transport : (call : TransportCall) → Prog D S call.Answer} {period : UInt64}
    {Rel : Link σ → τ → Prop} (himpl : Implements process h transport period Rel)
    {p : CommandProg α} {st : DxeState} {t : τ} {Q : α → UInt32 × σ → Prop}
    (hretries : maxRetries ≠ 0) (hperiod : st.inst.ipmiTimeoutPeriod = period)
    (ht : Rel ⟨state, none⟩ t)
    (hp : p.Completes (executeCall process) (st.inst.bmcStatus, state) Q) :
    ((p.through (dxeLibrary maxRetries uninit) st).above transport).Ends h t fun a t' =>
      ∃ state', Q a.1 (a.2.inst.bmcStatus, state') ∧ Rel ⟨state', none⟩ t' := by
  have hlibrary : (p.through (dxeLibrary maxRetries uninit) st).Completes (linkCall process)
      ⟨state, none⟩ fun a link => Q a.1 (a.2.inst.bmcStatus, link.state) ∧ link.response = none :=
    dxeLibrary_executes hretries hp
  have hkeeps : KeepsPeriod period (p.through (dxeLibrary maxRetries uninit) st) :=
    (satisfies_through (dxeLibrary_period maxRetries uninit period) p hperiod).mono
      fun _ _ h => h.1
  refine (himpl.above hlibrary hkeeps ht).mono ?_
  rintro a t' ⟨⟨state', response⟩, ⟨hQ, hnone⟩, ht'⟩
  dsimp only at hQ hnone
  subst hnone
  exact ⟨state', hQ, ht'⟩

end BaseLib

end IpmiFeature
