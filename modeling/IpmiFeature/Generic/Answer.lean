import IpmiFeature.Generic.Delivery

/-!
# The answer to a command

A command is answered by the reply that ends its retry loop, so the answer can be read off the trace
of the transport, whatever the transport does.  `Outcome` says what the caller finds in `TempData`
and in `*ResponseDataSize` for each answer (`ipmiSendCommand_outcome`).  The size of one answer is
the room for the next one (`roomAfter`).
-/

namespace IpmiFeature

open Interaction Prog

namespace Generic

/-- The response that a call to the transport gives. -/
def responseOf : TransportEvent → Option Response
  | ⟨.sendDataToBmcPort _ _, _⟩ => none
  | ⟨.receiveBmcDataFromPort _ _, reply⟩ => reply.response

/-- The response that ends a trace. -/
def answerOf (tr : List TransportEvent) : Option Response := tr.getLast?.bind responseOf

variable {args : CommandArgs UInt8} {st : CommandState UInt8} {retryCnt : ℕ} {r : Response}

theorem answerOf_append {tr tr' : List TransportEvent} (h : tr' ≠ []) :
    answerOf (tr ++ tr') = answerOf tr' := by
  rw [answerOf, answerOf, List.getLast?_append_of_ne_nil _ h]

/-- How the retry loop ends, given the answer. -/
def LoopOutcome (args : CommandArgs UInt8) (st : CommandState UInt8) (answer : Option Response)
    (x : Except EfiStatus (Option UInt8) × CommandState UInt8) : Prop :=
  match answer with
  | none => ∃ status inst, status ≠ .success ∧ x = (.error status, { st with inst := inst })
  | some r => r.payload.length ≤ 251 ∧ ∃ inst,
      if r.Skipped args st.responseDataSize then
        x = (.error .deviceError, { st with inst := inst })
      else
        x = found (settle args r { st with inst := afterResponse args r inst })

theorem retryLoop_outcome (hretries : retryCnt ≠ 0) :
    (retryLoop args retryCnt st).Satisfies True fun tr x =>
      tr ≠ [] ∧ LoopOutcome args st (answerOf tr) x := by
  induction retryCnt generalizing st with
  | zero => exact absurd rfl hretries
  | succ retryCnt ih =>
    refine satisfies_retryLoop (satisfies_attempt (fun _ _ status hstatus => ?_)
      (fun period data period' reply r hr => ?_) fun period data period' reply status hr hstatus => ?_)
    · exact ⟨nofun, status, _, hstatus, rfl⟩
    · have hanswer : answerOf [⟨.sendDataToBmcPort period data, .success⟩,
          ⟨.receiveBmcDataFromPort period' receiveSize, reply⟩] = some r := hr
      have hlen := Reply.length_payload_le hr
      unfold afterAttempt
      split_ifs with hskipped hzero
      · refine ⟨nofun, ?_⟩
        rw [hanswer]
        exact ⟨hlen, _, by rw [if_pos hskipped]; rfl⟩
      · change (retryLoop args retryCnt
          { st with inst := afterResponse args r st.inst }).Satisfies True _
        refine Satisfies.mono (ih hzero) fun tr x hx => ⟨by simp, ?_⟩
        rw [answerOf_append hx.1]
        exact hx.2
      · have hloop : LoopOutcome args st (some r)
            (found (settle args r { st with inst := afterResponse args r st.inst })) :=
          ⟨hlen, st.inst, by rw [if_neg hskipped]⟩
        exact ⟨nofun, hanswer ▸ hloop⟩
    · have hanswer : answerOf [⟨.sendDataToBmcPort period data, .success⟩,
          ⟨.receiveBmcDataFromPort period' receiveSize, reply⟩] = none := hr
      have hloop : LoopOutcome args st none (.error status,
          { st with inst := afterReply reply (buildCommand args st.inst) }) :=
        ⟨status, _, hstatus, rfl⟩
      exact ⟨nofun, hanswer ▸ hloop⟩

/-! ### Commands with `TempData` as the response buffer -/

/-- A command without data whose response goes to `TempData`. -/
def tempDataArgs (netFunction command : UInt8) : CommandArgs UInt32 where
  netFunction
  lun := 0
  command
  commandData := none
  commandDataSize := 0
  responseData := .tempData
  hasResponseDataSize := true

/-- The room that a command leaves for the next response: its own size, unless it was the answer to
another command and did not fit. -/
def roomAfter (args : CommandArgs UInt8) (room : ℕ) : Option Response → ℕ
  | none => room
  | some r => if r.payload.length > room ∧ ¬ r.Matches args then room else r.payload.length + 1

/-- What a command leaves behind, given its answer and the room there was for it. -/
structure Outcome (args : CommandArgs UInt8) (room : ℕ) (answer : Option Response)
    (status : EfiStatus) (inst : IpmiBmcInstanceData) (dataSize : UInt32) : Prop where
  /-- `*ResponseDataSize`. -/
  dataSize_eq : dataSize.toNat = roomAfter args room answer
  /-- Replies are not longer than that. -/
  length_le : ∀ r, answer = some r → r.payload.length ≤ 251
  /-- The command succeeds if it is answered and the answer fits. -/
  success_iff : status = .success ↔ ∃ r, answer = some r ∧ r.payload.length ≤ room
  /-- Then the payload is in `TempData`, behind its own second byte. -/
  temp_eq : ∀ r, answer = some r → r.payload.length ≤ room →
    inst.temp.slice 0 (r.payload.length + 1) = r.payload.getD 1 compCodeNormal :: r.payload

/-- An answer that does not fit is an error. -/
theorem Outcome.of_tooLong {room : ℕ} {status : EfiStatus} {inst : IpmiBmcInstanceData}
    {dataSize : UInt32} (hlen : r.payload.length ≤ 251) (hlong : r.payload.length > room)
    (hstatus : status ≠ .success) (hsize : dataSize.toNat = roomAfter args room (some r)) :
    Outcome args room (some r) status inst dataSize where
  dataSize_eq := hsize
  length_le := by
    rintro _ ⟨⟩
    exact hlen
  success_iff := by
    refine iff_of_false hstatus ?_
    rintro ⟨_, ⟨⟩, hfits⟩
    exact absurd hfits (Nat.not_le.2 hlong)
  temp_eq := by
    rintro _ ⟨⟩ hfits
    exact absurd hfits (Nat.not_le.2 hlong)

/-- So is no answer. -/
theorem Outcome.of_no_answer {room : ℕ} {status : EfiStatus} {inst : IpmiBmcInstanceData}
    {dataSize : UInt32} (hstatus : status ≠ .success) (hsize : dataSize.toNat = room) :
    Outcome args room none status inst dataSize where
  dataSize_eq := hsize
  length_le := by
    intro r hr
    cases hr
  success_iff := by
    refine iff_of_false hstatus ?_
    rintro ⟨_, ⟨⟩, _⟩
  temp_eq := by
    intro r hr
    cases hr

theorem not_rejected_tempDataArgs (netFunction command : UInt8) :
    ¬ Rejected (tempDataArgs netFunction command).narrow := by
  rintro (⟨hpos, -⟩ | hptr)
  · exact absurd hpos (show ¬ (0 : UInt8) < 0 by decide)
  · exact hptr rfl

theorem toNat_setLowByte_of_lt {w : UInt32} (hw : w.toNat < 256) (b : UInt8) :
    (setLowByte w b).toNat = b.toNat := by
  rw [toNat_setLowByte, Nat.div_eq_of_lt hw]
  omega

theorem toNat_byteOf_of_lt {w : UInt32} (hw : w.toNat < 256) : (byteOf w 0).toNat = w.toNat := by
  rw [toNat_byteOf, Nat.pow_zero, Nat.div_one, Nat.mod_eq_of_lt hw]

/-- What a command leaves behind. -/
theorem ipmiSendCommand_outcome {maxRetries : UInt8} {uninit : Uninitialized}
    {netFunction command : UInt8} {inst : IpmiBmcInstanceData} {responseData : Memory UInt8}
    {dataSize : UInt32} (hretries : maxRetries ≠ 0) (hsize : dataSize.toNat < 256) :
    (ipmiSendCommand maxRetries uninit (tempDataArgs netFunction command)
      ⟨inst, responseData, dataSize⟩).Satisfies True fun tr x =>
        Outcome (tempDataArgs netFunction command).narrow dataSize.toNat (answerOf tr) x.1 x.2.inst
          x.2.responseDataSize := by
  have hargs := not_rejected_tempDataArgs netFunction command
  have hloop : maxRetries.toNat ≠ 0 := fun h => hretries (UInt8.toNat_inj.1 h)
  have hroom := toNat_byteOf_of_lt hsize
  have hptr : (tempDataArgs netFunction command).narrow.responseData ≠ .null := ResponsePtr.noConfusion
  rw [ipmiSendCommand, satisfies_bind, ipmiSendCommandInternal_of_not_rejected hargs, satisfies_bind]
  refine (retryLoop_outcome hloop).mono fun tr x hx => ?_
  change Outcome _ _ (answerOf (tr ++ [] ++ [])) _ _ _
  rw [List.append_nil, List.append_nil]
  obtain ⟨-, hx⟩ := hx
  cases hanswer : answerOf tr with
  | none =>
    rw [hanswer] at hx
    obtain ⟨status, inst', hstatus, rfl⟩ := hx
    refine .of_no_answer hstatus ?_
    change (setLowByte dataSize (byteOf dataSize 0)).toNat = _
    rw [toNat_setLowByte_of_lt hsize, hroom]
  | some r =>
    rw [hanswer] at hx
    obtain ⟨hlen, inst', hx⟩ := hx
    have hlong : r.TooLong (tempDataArgs netFunction command).narrow (byteOf dataSize 0) ↔
        r.payload.length > dataSize.toNat := by
      rw [← hroom]
      exact and_iff_right rfl
    have hsizeAfter : (UInt8.ofNat (r.payload.length + 1)).toNat = r.payload.length + 1 :=
      UInt8.toNat_ofNat_of_lt' (show r.payload.length + 1 < 256 by omega)
    by_cases hskipped : r.Skipped (tempDataArgs netFunction command).narrow (byteOf dataSize 0)
    · rw [if_pos hskipped] at hx
      subst hx
      have htooLong := hlong.1 hskipped.1
      refine .of_tooLong hlen htooLong EfiStatus.noConfusion ?_
      change (setLowByte dataSize (byteOf dataSize 0)).toNat = _
      rw [toNat_setLowByte_of_lt hsize, hroom, roomAfter, if_pos ⟨htooLong, hskipped.2⟩]
    rw [if_neg hskipped] at hx
    have hafter : roomAfter (tempDataArgs netFunction command).narrow dataSize.toNat (some r) =
        r.payload.length + 1 := if_neg fun h => hskipped ⟨hlong.2 h.1, h.2⟩
    by_cases hfits : r.payload.length ≤ dataSize.toNat
    · have hsettle : ¬ r.TooLong (tempDataArgs netFunction command).narrow (byteOf dataSize 0) :=
        fun h => absurd (hlong.1 h) (Nat.not_lt.2 hfits)
      rw [settle, if_neg hsettle] at hx
      subst hx
      have hdelivered := finishCommand_delivers uninit inst'
        ⟨inst, responseData, byteOf dataSize 0⟩ hptr hargs hlen
      refine ⟨?_, by rintro _ ⟨⟩; exact hlen, iff_of_true rfl ⟨r, rfl, hfits⟩, ?_⟩
      · change (setLowByte dataSize _).toNat = _
        rw [toNat_setLowByte_of_lt hsize, hafter]
        exact (congrArg UInt8.toNat hdelivered.size_eq).trans hsizeAfter
      · rintro _ ⟨⟩ -
        exact hdelivered.tempData rfl
    · have htooLong := Nat.lt_of_not_le hfits
      rw [settle, if_pos (hlong.2 htooLong)] at hx
      subst hx
      refine .of_tooLong hlen htooLong EfiStatus.noConfusion ?_
      change (setLowByte dataSize (UInt8.ofNat (r.payload.length + 1))).toNat = _
      rw [toNat_setLowByte_of_lt hsize, hafter]
      exact hsizeAfter

/-- Without retries there is no answer, and the command succeeds. -/
theorem ipmiSendCommand_unanswered {uninit : Uninitialized} {netFunction command : UInt8}
    {st : CommandState UInt32} :
    (ipmiSendCommand 0 uninit (tempDataArgs netFunction command) st).Satisfies True fun tr x =>
      answerOf tr = none ∧ x.1 = .success := by
  have hargs := not_rejected_tempDataArgs netFunction command
  rw [ipmiSendCommand, satisfies_bind, ipmiSendCommandInternal_of_not_rejected hargs]
  exact ⟨rfl, rfl⟩

end Generic

end IpmiFeature
