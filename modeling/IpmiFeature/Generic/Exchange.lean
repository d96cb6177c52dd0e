import IpmiFeature.Generic.Answer
import IpmiFeature.Generic.Framing

/-!
# A command that is answered at once

The first attempt of a command over any environment that sends it and gives a reply: a response is
delivered to the caller's buffer, and a completion code is turned into an error that leaves the
buffer alone.
-/

namespace IpmiFeature

open Interaction Prog

namespace Generic

variable {maxRetries : UInt8} {uninit : Uninitialized} {args : CommandArgs UInt8}
  {st : CommandState UInt8} {τ : Type} {h : Handler TransportCall TransportCall.Answer τ}
  {s s₁ s₂ : τ} {received : Reply receiveSize}

/-- The command is sent and answered. -/
structure Exchanged (h : Handler TransportCall TransportCall.Answer τ) (s s₁ s₂ : τ)
    (command : List UInt8) (received : Reply receiveSize) : Prop where
  sent : ∀ period (data : Message), data.bytes = command →
    h (.sendDataToBmcPort period data) s = (.success, s₁)
  received : ∀ period, h (.receiveBmcDataFromPort period receiveSize) s₁ = (received, s₂)

/-- The retry loop is left in its first iteration. -/
theorem ends_retryLoop_once {retryCnt : ℕ} {x : Except EfiStatus UInt8 × CommandState UInt8}
    {Q : Except EfiStatus (Option UInt8) × CommandState UInt8 → τ → Prop} (hretries : retryCnt ≠ 0)
    (hexchanged : Exchanged h s s₁ s₂ (commandFrame args st.inst) received)
    (hcheck : ∀ retryCnt, checkReply args retryCnt received
      { st with inst := buildCommand args st.inst } = .done x) (hQ : Q (found x) s₂) :
    (retryLoop args retryCnt st).Ends h s Q := by
  obtain ⟨retryCnt, rfl⟩ := Nat.exists_eq_succ_of_ne_zero hretries
  have hattempt : (attempt args retryCnt st).Ends h s fun i s' => i = .done x ∧ s' = s₂ := by
    unfold attempt sendDataToBmcPort receiveBmcDataFromPort perform
    dsimp only
    rw [call_bind, ends_call, hexchanged.sent _ _ rfl]
    dsimp only
    rw [ret_bind, if_neg (not_not.2 rfl), call_bind, ends_call, hexchanged.received]
    exact ⟨hcheck retryCnt, rfl⟩
  rw [retryLoop, ends_bind]
  refine hattempt.mono ?_
  rintro _ _ ⟨rfl, rfl⟩
  obtain ⟨status | dataSize, st'⟩ := x
  · exact hQ
  · exact hQ

/-- The error for a completion code. -/
def refusal (bmcStatus : UInt32) (code : UInt8) : EfiStatus :=
  if bmcStatus = bmcUpdateInProgress then
    .unsupported
  else if code = compCodeInsufficientPrivilege then
    .securityViolation
  else
    .deviceError

variable {header command code : UInt8} {payload : List UInt8} {inst : IpmiBmcInstanceData}

theorem updateErrorStatus_bmcStatus (code : UInt8) (inst : IpmiBmcInstanceData) :
    (updateErrorStatus code inst).bmcStatus =
      if code ∈ completionCodes ∧ inst.bmcStatus ≠ bmcUpdateInProgress then bmcSoftfail
      else inst.bmcStatus := by
  unfold updateErrorStatus
  by_cases hcode : code ∈ completionCodes
  · rw [if_pos hcode]
    simp only [hcode, true_and]
  · rw [if_neg hcode, if_neg fun h => hcode h.1]

/-- A reply with a completion code. -/
theorem checkReply_refused {retryCnt : ℕ} (st : CommandState UInt8)
    (hstatus : received.status = .success)
    (hdata : received.data = header :: command :: code :: payload) (hcode : code ≠ compCodeNormal) :
    checkReply args retryCnt received st =
      .done (.error (refusal st.inst.bmcStatus code),
        { st with inst := updateErrorStatus code (st.inst.storeTemp 0 received.data) }) := by
  have hmax : received.data.length ≤ 254 := received.length_le
  have hlen : received.data.length = payload.length + 3 := by rw [hdata]; rfl
  have hinside : 0 + received.data.length ≤ maxTempData := by
    change 0 + received.data.length ≤ 255
    omega
  have hstored : (st.inst.storeTemp 0 received.data).bmcStatus = st.inst.bmcStatus := by
    rw [storeTemp_eq hinside]
  have hread : (st.inst.storeTemp 0 received.data).temp 2 = code := by
    have hcode : st.inst.temp.store 0 (header :: command :: code :: payload) (0 + 2) =
        (header :: command :: code :: payload)[2] := Memory.store_of_mem (by simp)
    rw [temp_storeTemp (by decide), hdata]
    exact hcode
  have hsize : (UInt8.ofNat received.data.length).toNat = received.data.length :=
    UInt8.toNat_ofNat_of_lt' (show received.data.length < 256 by omega)
  have hheader : ¬ UInt8.ofNat received.data.length < ipmiResponseHeaderSize := by
    rw [UInt8.lt_iff_toNat_lt, hsize]
    change ¬ received.data.length < 3
    omega
  unfold checkReply refusal
  dsimp only
  rw [if_neg (not_not.2 hstatus), if_neg hheader, hread, hstored]
  by_cases hupdate : st.inst.bmcStatus = bmcUpdateInProgress
  · rw [if_pos ⟨hcode, hupdate⟩, if_pos hupdate]
  · rw [if_neg fun h => hupdate h.2, if_pos hcode, if_neg hupdate]

/-! ### The call -/

variable {args : CommandArgs UInt32} {buffer : Memory UInt8} {dataSize : UInt32}

theorem ends_ipmiSendCommand {x : Except EfiStatus UInt8 × CommandState UInt8}
    {Q : EfiStatus × CommandState UInt32 → τ → Prop} (hretries : maxRetries ≠ 0)
    (hargs : ¬ Rejected args.narrow)
    (hexchanged : Exchanged h s s₁ s₂ (commandFrame args.narrow inst) received)
    (hcheck : ∀ retryCnt, checkReply args.narrow retryCnt received
      ⟨buildCommand args.narrow inst, buffer, byteOf dataSize 0⟩ = .done x)
    (hQ : ∀ status st', finishCommand uninit args.narrow (found x) = (status, st') →
      Q (status, ⟨st'.inst, st'.responseData, setLowByte dataSize st'.responseDataSize⟩) s₂) :
    (ipmiSendCommand maxRetries uninit args ⟨inst, buffer, dataSize⟩).Ends h s Q := by
  have hloop : maxRetries.toNat ≠ 0 := fun h => hretries (UInt8.toNat_inj.1 h)
  rw [ipmiSendCommand, ends_bind, ipmiSendCommandInternal_of_not_rejected hargs, ends_bind]
  exact ends_retryLoop_once hloop hexchanged hcheck (hQ _ _ rfl)

theorem finishCommand_ok (uninit : Uninitialized) (args : CommandArgs UInt8) (reply : Option UInt8)
    (st : CommandState UInt8) : (finishCommand uninit args (.ok reply, st)).1 = .success ∧
      (finishCommand uninit args (.ok reply, st)).2.inst.bmcStatus = bmcOk := ⟨rfl, rfl⟩

/-- A command with a response that fits. -/
theorem ends_ipmiSendCommand_fits {r : Response} (hretries : maxRetries ≠ 0)
    (hargs : ¬ Rejected args.narrow) (hptr : args.narrow.responseData ≠ .null)
    (hroom : dataSize.toNat < 256)
    (hexchanged : Exchanged h s s₁ s₂ (commandFrame args.narrow inst) received)
    (hr : received.response = some r) (hfits : r.payload.length ≤ dataSize.toNat) :
    (ipmiSendCommand maxRetries uninit args ⟨inst, buffer, dataSize⟩).Ends h s fun x s' => s' = s₂ ∧
      x.1 = .success ∧ x.2.inst.bmcStatus = bmcOk ∧
        x.2.responseDataSize = UInt32.ofNat (r.payload.length + 1) ∧ ∃ size,
          Delivered args.narrow r ⟨inst, buffer, byteOf dataSize 0⟩ ⟨x.2.inst, x.2.responseData, size⟩ := by
  have hlen := Reply.length_payload_le hr
  have htooLong : ¬ r.TooLong args.narrow (byteOf dataSize 0) := by
    rintro ⟨-, hlong⟩
    rw [toNat_byteOf_of_lt hroom] at hlong
    omega
  have hcheck : ∀ retryCnt, checkReply args.narrow retryCnt received
      ⟨buildCommand args.narrow inst, buffer, byteOf dataSize 0⟩ =
        .done (.ok (UInt8.ofNat r.bytes.length),
          ⟨afterResponse args.narrow r inst, buffer, byteOf dataSize 0⟩) := by
    intro retryCnt
    have hresponse : checkReply args.narrow retryCnt received
        ⟨buildCommand args.narrow inst, buffer, byteOf dataSize 0⟩ =
          afterAttempt args.narrow retryCnt r ⟨inst, buffer, byteOf dataSize 0⟩ :=
      checkReply_of_response ⟨inst, buffer, byteOf dataSize 0⟩ hr
    rw [hresponse, afterAttempt, if_neg fun h => htooLong h.1, settle, if_neg htooLong]
  refine ends_ipmiSendCommand hretries hargs hexchanged hcheck fun status st' hfinish => ?_
  have hfinished := finishCommand_ok uninit args.narrow (some (UInt8.ofNat r.bytes.length))
    ⟨afterResponse args.narrow r inst, buffer, byteOf dataSize 0⟩
  have hdelivered := finishCommand_delivers uninit inst ⟨inst, buffer, byteOf dataSize 0⟩ hptr hargs
    hlen
  rw [found] at hfinish
  dsimp only at hdelivered
  rw [hfinish] at hfinished hdelivered
  refine ⟨rfl, hfinished.1, hfinished.2, ?_, st'.responseDataSize, hdelivered⟩
  have hsize : (UInt8.ofNat (r.payload.length + 1)).toNat = r.payload.length + 1 :=
    UInt8.toNat_ofNat_of_lt' (show r.payload.length + 1 < 256 by omega)
  have hword : (UInt32.ofNat (r.payload.length + 1)).toNat = r.payload.length + 1 :=
    UInt32.toNat_ofNat_of_lt' (show r.payload.length + 1 < 2 ^ 32 by omega)
  apply UInt32.toNat_inj.1
  rw [hdelivered.size_eq, toNat_setLowByte_of_lt hroom, hsize, hword]

/-- A command that is carried out. -/
theorem ends_ipmiSendCommand_delivered {r : Response} (hretries : maxRetries ≠ 0)
    (hargs : ¬ Rejected args.narrow) (hptr : args.narrow.responseData = .caller)
    (hroom : dataSize.toNat < 256)
    (hexchanged : Exchanged h s s₁ s₂ (commandFrame args.narrow inst) received)
    (hr : received.response = some r) (hfits : r.payload.length + 1 ≤ dataSize.toNat) :
    (ipmiSendCommand maxRetries uninit args ⟨inst, buffer, dataSize⟩).Ends h s fun x s' => s' = s₂ ∧
      x.1 = .success ∧ x.2.responseData = buffer.store 0 (compCodeNormal :: r.payload) ∧
        x.2.responseDataSize = UInt32.ofNat (r.payload.length + 1) ∧ x.2.inst.bmcStatus = bmcOk := by
  have hptr' : args.narrow.responseData ≠ .null := by
    rw [hptr]
    exact ResponsePtr.noConfusion
  refine (ends_ipmiSendCommand_fits hretries hargs hptr' hroom hexchanged hr (by omega)).mono ?_
  rintro x s' ⟨hs', hstatus, hbmcStatus, hsize, size, hdelivered⟩
  exact ⟨hs', hstatus, hdelivered.caller hptr, hsize, hbmcStatus⟩

/-- A command that is refused. -/
theorem ends_ipmiSendCommand_refused (hretries : maxRetries ≠ 0) (hargs : ¬ Rejected args.narrow)
    (hsize : args.narrow.commandDataSize.toNat ≤ 253) (hroom : dataSize.toNat < 256)
    (hexchanged : Exchanged h s s₁ s₂ (commandFrame args.narrow inst) received)
    (hstatus : received.status = .success)
    (hdata : received.data = header :: command :: code :: payload) (hcode : code ≠ compCodeNormal) :
    (ipmiSendCommand maxRetries uninit args ⟨inst, buffer, dataSize⟩).Ends h s fun x s' => s' = s₂ ∧
      x.1 = refusal inst.bmcStatus code ∧ x.2.responseData = buffer ∧
        x.2.responseDataSize = dataSize ∧
          x.2.inst.bmcStatus = (updateErrorStatus code inst).bmcStatus := by
  have hbuilt : (buildCommand args.narrow inst).bmcStatus = inst.bmcStatus := by
    obtain ⟨temp, hinside⟩ := buildCommand_inside inst hargs hsize
    rw [hinside]
  have hmax : received.data.length ≤ 254 := received.length_le
  have hinside : 0 + received.data.length ≤ maxTempData := by
    change 0 + received.data.length ≤ 255
    omega
  have hstored : ((buildCommand args.narrow inst).storeTemp 0 received.data).bmcStatus =
      inst.bmcStatus := by
    rw [storeTemp_eq hinside]
    exact hbuilt
  have hcheck : ∀ retryCnt, checkReply args.narrow retryCnt received
      ⟨buildCommand args.narrow inst, buffer, byteOf dataSize 0⟩ =
        .done (.error (refusal inst.bmcStatus code),
          ⟨updateErrorStatus code ((buildCommand args.narrow inst).storeTemp 0 received.data),
            buffer, byteOf dataSize 0⟩) := by
    intro retryCnt
    rw [checkReply_refused ⟨buildCommand args.narrow inst, buffer, byteOf dataSize 0⟩ hstatus hdata
      hcode]
    dsimp only
    rw [hbuilt]
  refine ends_ipmiSendCommand hretries hargs hexchanged hcheck fun status st' hfinish => ?_
  cases hfinish
  refine ⟨rfl, rfl, rfl, ?_, ?_⟩
  · apply UInt32.toNat_inj.1
    rw [toNat_setLowByte_of_lt hroom, toNat_byteOf_of_lt hroom]
  · rw [updateErrorStatus_bmcStatus, updateErrorStatus_bmcStatus, hstored]

end Generic

end IpmiFeature
