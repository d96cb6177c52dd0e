import IpmiFeature.Generic.TempData
import IpmiFeature.Generic.Trace

/-!
# The retry loop

What an attempt makes of the reply it gets.  A reply that is too long for the caller's buffer is
compared with the command: a foreign one is passed over as long as there are retries left.  Every
other reply ends the loop.

* `attempt_of_response`, `attempt_of_no_response` : one attempt.
* `AnsweredAt` : the first attempts are passed over and the next one ends the loop.
* `retryLoop_of_answer`, `retryLoop_of_no_answer` : the loop.
* `ipmiSendCommandInternal_of_answer`, `ipmiSendCommandInternal_of_no_answer` : the call.
-/

namespace IpmiFeature

open Interaction Prog

namespace Generic

/-! ### Responses -/

/-- A reply with completion code 0. -/
structure Response where
  /-- The byte of `NetFunction` and `Lun`. -/
  header : UInt8
  command : UInt8
  /-- `ResponseData`. -/
  payload : List UInt8
  deriving DecidableEq, Repr

/-- The bytes of a response. -/
def Response.bytes (r : Response) : List UInt8 := r.header :: r.command :: compCodeNormal :: r.payload

/-- The response that a reply is, if the call has succeeded. -/
def Reply.response {dataSize : UInt8} (reply : Reply dataSize) : Option Response :=
  if reply.status = .success then
    match reply.data with
    | header :: command :: completionCode :: payload =>
      if completionCode = compCodeNormal then some ⟨header, command, payload⟩ else none
    | _ => none
  else
    none

/-- The response that an attempt gets, if both calls succeed and the reply is one. -/
def Attempt.response (a : Attempt) : Option Response :=
  if a.sent = .success then (a.received receiveSize).response else none

/-- The response is the answer to the command. -/
def Response.Matches (args : CommandArgs UInt8) (r : Response) : Prop :=
  netFunctionOf r.header = args.netFunction ||| 1 ∧ r.command = args.command

/-- The payload is longer than the buffer. -/
def Response.TooLong (args : CommandArgs UInt8) (capacity : UInt8) (r : Response) : Prop :=
  args.hasResponseDataSize ∧ r.payload.length > capacity.toNat

/-- The response is passed over. -/
def Response.Skipped (args : CommandArgs UInt8) (capacity : UInt8) (r : Response) : Prop :=
  r.TooLong args capacity ∧ ¬ r.Matches args

instance (args : CommandArgs UInt8) (r : Response) : Decidable (r.Matches args) :=
  inferInstanceAs (Decidable (_ ∧ _))

instance (args : CommandArgs UInt8) (capacity : UInt8) (r : Response) :
    Decidable (r.TooLong args capacity) := inferInstanceAs (Decidable (_ ∧ _))

instance (args : CommandArgs UInt8) (capacity : UInt8) (r : Response) :
    Decidable (r.Skipped args capacity) := inferInstanceAs (Decidable (_ ∧ _))

variable {args : CommandArgs UInt8} {st : CommandState UInt8} {script : ℕ → Attempt} {n : ℕ}
  {r : Response}

theorem Reply.response_eq_some_iff {dataSize : UInt8} {reply : Reply dataSize} :
    reply.response = some r ↔ reply.status = .success ∧ reply.data = r.bytes := by
  unfold Reply.response
  by_cases hstatus : reply.status = .success
  · rw [if_pos hstatus]
    obtain ⟨header, command, payload⟩ := r
    rcases reply.data with _ | ⟨b₀, _ | ⟨b₁, _ | ⟨b₂, bs⟩⟩⟩
    · simp [Response.bytes]
    · simp [Response.bytes]
    · simp [Response.bytes]
    · by_cases hcode : b₂ = compCodeNormal
      · simp [Response.bytes, hstatus, hcode]
      · simp [Response.bytes, hcode]
  · rw [if_neg hstatus]
    exact iff_of_false nofun fun h => hstatus h.1

theorem Attempt.response_eq_some_iff {a : Attempt} : a.response = some r ↔
    a.sent = .success ∧ (a.received receiveSize).status = .success ∧
      (a.received receiveSize).data = r.bytes := by
  rw [Attempt.response, ← Reply.response_eq_some_iff]
  by_cases hsent : a.sent = .success
  · simp only [hsent, if_true, true_and]
  · simp only [hsent, if_false, false_and, reduceCtorEq]

theorem Response.length_bytes (r : Response) : r.bytes.length = r.payload.length + 3 := rfl

/-- `DataSize - IPMI_RESPONSE_HEADER_SIZE`. -/
theorem Response.size_payload (r : Response) :
    UInt8.ofNat r.bytes.length - ipmiResponseHeaderSize = UInt8.ofNat r.payload.length := by
  rw [r.length_bytes, UInt8.ofNat_add]
  exact UInt8.add_sub_cancel _ _

/-- A reply fits into `TempData`, with one byte to spare. -/
theorem Reply.length_payload_le {reply : Reply receiveSize} (h : reply.response = some r) :
    r.payload.length ≤ 251 := by
  have hlen := reply.length_le
  rw [(Reply.response_eq_some_iff.1 h).2, Response.length_bytes] at hlen
  have hsize : receiveSize.toNat = 254 := rfl
  omega

theorem Attempt.length_payload_le {a : Attempt} (h : a.response = some r) :
    r.payload.length ≤ 251 :=
  Reply.length_payload_le (Reply.response_eq_some_iff.2 (Attempt.response_eq_some_iff.1 h).2)

/-- `*ResponseDataSize` counts the completion code. -/
theorem Attempt.toNat_responseSize {a : Attempt} (h : a.response = some r) :
    (UInt8.ofNat (r.payload.length + 1)).toNat = r.payload.length + 1 := by
  have hlen := Attempt.length_payload_le h
  exact UInt8.toNat_ofNat_of_lt' (show r.payload.length + 1 < 256 by omega)

/-! ### The instance after a reply -/

/-- The instance after an attempt that has got `r`. -/
def afterResponse (args : CommandArgs UInt8) (r : Response) (inst : IpmiBmcInstanceData) :
    IpmiBmcInstanceData :=
  (buildCommand args inst).storeTemp 0 r.bytes

variable {inst : IpmiBmcInstanceData}

theorem temp_afterResponse {i : ℕ} (hr : r.payload.length ≤ 251) (hi : i < r.bytes.length) :
    (afterResponse args r inst).temp i = r.bytes[i] := by
  have hmax : maxTempData = 255 := rfl
  have hlen := r.length_bytes
  have hread : (buildCommand args inst).temp.store 0 r.bytes (0 + i) = r.bytes[i] :=
    Memory.store_of_mem hi
  rw [Nat.zero_add] at hread
  rw [afterResponse, temp_storeTemp (by omega), hread]

theorem slice_temp_afterResponse (hr : r.payload.length ≤ 251) :
    (afterResponse args r inst).temp.slice 3 r.payload.length = r.payload := by
  apply List.ext_getElem
  · simp
  · intro i hi _
    rw [Memory.length_slice] at hi
    have hlen := r.length_bytes
    rw [Memory.getElem_slice, temp_afterResponse hr (by omega)]
    simp [Response.bytes, Nat.add_comm 3 i]

/-- The instance after a reply that is not a response: a failed call and a completion code are
recorded. -/
def afterReply (reply : Reply receiveSize) (inst : IpmiBmcInstanceData) : IpmiBmcInstanceData :=
  let inst := inst.storeTemp 0 reply.data
  if reply.status = .success then
    match reply.data[2]? with
    | some completionCode => updateErrorStatus completionCode inst
    | none => inst
  else
    inst.softFail

/-! ### One attempt -/

/-- The end of the loop with a response. -/
def settle (args : CommandArgs UInt8) (r : Response) (st : CommandState UInt8) :
    Except EfiStatus UInt8 × CommandState UInt8 :=
  if r.TooLong args st.responseDataSize then
    (.error .bufferTooSmall, { st with responseDataSize := UInt8.ofNat (r.payload.length + 1) })
  else
    (.ok (UInt8.ofNat r.bytes.length), st)

/-- What an attempt makes of a response. -/
def afterAttempt (args : CommandArgs UInt8) (retryCnt : ℕ) (r : Response) (st : CommandState UInt8) :
    Iter (CommandState UInt8) (Except EfiStatus UInt8 × CommandState UInt8) :=
  if r.Skipped args st.responseDataSize then
    if retryCnt = 0 then
      .done (.error .deviceError, { st with inst := afterResponse args r st.inst })
    else
      .again { st with inst := afterResponse args r st.inst }
  else
    .done (settle args r { st with inst := afterResponse args r st.inst })

theorem checkReply_of_response {retryCnt : ℕ} {reply : Reply receiveSize} (st : CommandState UInt8)
    (h : reply.response = some r) :
    checkReply args retryCnt reply { st with inst := buildCommand args st.inst } =
      afterAttempt args retryCnt r st := by
  obtain ⟨hstatus, hdata⟩ := Reply.response_eq_some_iff.1 h
  have hr := Reply.length_payload_le h
  have hlen := r.length_bytes
  have hsize : (UInt8.ofNat r.bytes.length).toNat = r.payload.length + 3 :=
    UInt8.toNat_ofNat_of_lt' (show r.bytes.length < 256 by omega)
  have hheader : ¬ UInt8.ofNat r.bytes.length < ipmiResponseHeaderSize := by
    rw [UInt8.lt_iff_toNat_lt, hsize]
    change ¬ r.payload.length + 3 < 3
    omega
  have htemp₀ : (afterResponse args r st.inst).temp 0 = r.header :=
    temp_afterResponse hr (Nat.succ_pos _)
  have htemp₁ : (afterResponse args r st.inst).temp 1 = r.command :=
    temp_afterResponse hr (by omega)
  have htemp₂ : (afterResponse args r st.inst).temp 2 = compCodeNormal :=
    temp_afterResponse hr (by omega)
  have hinst : (buildCommand args st.inst).storeTemp 0 r.bytes = afterResponse args r st.inst := rfl
  have hexceeds : (args.hasResponseDataSize ∧ r.payload.length + 3 - ipmiResponseHeaderSize.toNat >
      st.responseDataSize.toNat) ↔ r.TooLong args st.responseDataSize := Iff.rfl
  have hforeign : netFunctionOf r.header ≠ args.netFunction ||| 1 ∨ r.command ≠ args.command ↔
      ¬ r.Matches args := not_and_or.symm
  unfold checkReply afterAttempt settle Response.Skipped
  simp only [hstatus, hdata, hinst, htemp₀, htemp₁, htemp₂, hsize, hheader, r.size_payload, hexceeds,
    hforeign, ne_eq, not_true_eq_false, false_and, if_false]
  by_cases hlong : r.TooLong args st.responseDataSize
  · by_cases hmatches : r.Matches args
    · simp only [hlong, hmatches, not_true_eq_false, and_false, if_true, if_false]
      rw [UInt8.ofNat_add]
      rfl
    · simp only [hlong, hmatches, not_false_eq_true, and_self, if_true]
  · simp only [hlong, false_and, if_false]

/-- A reply that is not a response ends the loop with an error. -/
theorem checkReply_of_no_response {retryCnt : ℕ} {reply : Reply receiveSize}
    (h : reply.response = none) : ∃ status, status ≠ .success ∧
      checkReply args retryCnt reply st =
        .done (.error status, { st with inst := afterReply reply st.inst }) := by
  have hmax : reply.data.length ≤ 254 := reply.length_le
  have hsize : (UInt8.ofNat reply.data.length).toNat = reply.data.length :=
    UInt8.toNat_ofNat_of_lt' (show reply.data.length < 256 by omega)
  unfold checkReply afterReply
  dsimp only
  by_cases hstatus : reply.status ≠ .success
  · rw [if_pos hstatus, if_neg hstatus]
    exact ⟨_, hstatus, rfl⟩
  rw [if_neg hstatus, if_pos (not_not.1 hstatus)]
  by_cases hheader : UInt8.ofNat reply.data.length < ipmiResponseHeaderSize
  · have hlen : reply.data.length ≤ 2 := by
      rw [UInt8.lt_iff_toNat_lt, hsize] at hheader
      exact Nat.le_of_lt_succ hheader
    rw [if_pos hheader, List.getElem?_eq_none hlen]
    exact ⟨_, by decide, rfl⟩
  rw [if_neg hheader]
  rw [UInt8.lt_iff_toNat_lt, hsize] at hheader
  have hlen : 2 < reply.data.length := Nat.not_lt.1 hheader
  have hread : (st.inst.storeTemp 0 reply.data).temp 2 = reply.data[2] := by
    rw [temp_storeTemp (by decide), Memory.store, dif_pos ⟨Nat.zero_le _, by omega⟩]
  have hcode : reply.data[2] ≠ compCodeNormal := by
    intro hnormal
    have hdata : reply.data = reply.data[0] :: reply.data[1] :: reply.data[2] ::
        reply.data.drop 3 := by
      rw [← List.drop_eq_getElem_cons hlen, ← List.drop_eq_getElem_cons (by omega),
        ← List.drop_eq_getElem_cons (by omega), List.drop_zero]
    rw [hnormal] at hdata
    have hresponse : reply.response = some ⟨reply.data[0], reply.data[1], reply.data.drop 3⟩ :=
      Reply.response_eq_some_iff.2 ⟨not_not.1 hstatus, hdata⟩
    rw [h] at hresponse
    cases hresponse
  rw [hread, List.getElem?_eq_getElem hlen]
  by_cases hupdate : (st.inst.storeTemp 0 reply.data).bmcStatus = bmcUpdateInProgress
  · rw [if_pos ⟨hcode, hupdate⟩]
    exact ⟨_, by decide, rfl⟩
  · rw [if_neg (fun h => hupdate h.2), if_pos hcode]
    refine ⟨_, ?_, rfl⟩
    split_ifs <;> decide

/-- An attempt, whatever the transport does: the command cannot be sent, or the reply is a response
or something else. -/
theorem satisfies_attempt {E : Prop} {retryCnt : ℕ} {Q : List TransportEvent →
      Iter (CommandState UInt8) (Except EfiStatus UInt8 × CommandState UInt8) → Prop}
    (hsend : ∀ period data (status : EfiStatus), status ≠ .success →
      Q [⟨.sendDataToBmcPort period data, status⟩]
        (.done (.error status, { st with inst := (buildCommand args st.inst).softFail })))
    (hresponse : ∀ period data period' reply (r : Response), reply.response = some r →
      Q [⟨.sendDataToBmcPort period data, .success⟩,
          ⟨.receiveBmcDataFromPort period' receiveSize, reply⟩] (afterAttempt args retryCnt r st))
    (hother : ∀ period data period' reply (status : EfiStatus), reply.response = none →
      status ≠ .success → Q [⟨.sendDataToBmcPort period data, .success⟩,
          ⟨.receiveBmcDataFromPort period' receiveSize, reply⟩]
        (.done (.error status,
          { st with inst := afterReply reply (buildCommand args st.inst) }))) :
    (attempt args retryCnt st).Satisfies E Q := by
  unfold attempt
  dsimp only
  rw [satisfies_send_bind]
  intro status
  by_cases hstatus : status = .success
  · subst hstatus
    rw [if_neg (not_not.2 rfl), satisfies_receive_bind]
    intro reply
    cases hreply : reply.response with
    | none =>
      obtain ⟨status, herror, heq⟩ := checkReply_of_no_response hreply
      rw [heq]
      exact hother _ _ _ reply status hreply herror
    | some r =>
      rw [checkReply_of_response st hreply]
      exact hresponse _ _ _ reply r hreply
  · rw [if_pos hstatus]
    exact hsend _ _ status hstatus

/-- An attempt that gets a response. -/
theorem attempt_of_response {retryCnt : ℕ} (h : (script n).response = some r) :
    (attempt args retryCnt st).Ends (scripted script) n fun i n' => n' = n + 1 ∧
      i = afterAttempt args retryCnt r st := by
  obtain ⟨hsent, hreply⟩ := Attempt.response_eq_some_iff.1 h
  unfold attempt
  dsimp only
  rw [ends_send_bind, hsent, if_neg (not_not.2 rfl), ends_receive_bind]
  exact ⟨rfl, checkReply_of_response st (Reply.response_eq_some_iff.2 hreply)⟩

/-- An attempt that gets none. -/
theorem attempt_of_no_response {retryCnt : ℕ} (h : (script n).response = none) :
    (attempt args retryCnt st).Ends (scripted script) n fun i _ =>
      ∃ status st', i = .done (.error status, st') ∧ status ≠ .success := by
  unfold attempt
  dsimp only
  rw [ends_send_bind]
  by_cases hsent : (script n).sent ≠ .success
  · rw [if_pos hsent]
    exact ⟨_, _, rfl, hsent⟩
  · rw [if_neg hsent, ends_receive_bind]
    rw [Attempt.response, if_pos (not_not.1 hsent)] at h
    obtain ⟨status, herror, heq⟩ := checkReply_of_no_response h
    exact ⟨status, _, heq, herror⟩

/-! ### The loop -/

/-- The loop is ended by the response `r` to attempt `k`: the responses before it are passed over,
and it is not. -/
structure AnsweredAt (args : CommandArgs UInt8) (capacity : UInt8) (retryCnt : ℕ)
    (script : ℕ → Attempt) (k : ℕ) (r : Response) : Prop where
  /-- There are that many attempts. -/
  lt_retryCnt : k < retryCnt
  /-- What comes before is passed over. -/
  skipped : ∀ i < k, ∃ r, (script i).response = some r ∧ r.Skipped args capacity
  /-- The response. -/
  response : (script k).response = some r
  /-- It is not passed over. -/
  last : ¬ r.Skipped args capacity

/-- A response that answers the command is never passed over. -/
theorem AnsweredAt.of_matches {capacity : UInt8} {k retryCnt : ℕ} (hk : k < retryCnt)
    (hskipped : ∀ i < k, ∃ r, (script i).response = some r ∧ r.Skipped args capacity)
    (h : (script k).response = some r) (hr : r.Matches args) :
    AnsweredAt args capacity retryCnt script k r :=
  ⟨hk, hskipped, h, fun hskip => hskip.2 hr⟩

/-- The loop after its first response has been passed over. -/
theorem AnsweredAt.tail {capacity : UInt8} {k retryCnt : ℕ}
    (h : AnsweredAt args capacity (retryCnt + 1) script (k + 1) r) :
    AnsweredAt args capacity retryCnt (fun i => script (i + 1)) k r where
  lt_retryCnt := Nat.lt_of_succ_lt_succ h.lt_retryCnt
  skipped i hi := h.skipped (i + 1) (Nat.succ_lt_succ hi)
  response := h.response
  last := h.last

/-- The loop before its first response is passed over. -/
theorem AnsweredAt.cons {capacity : UInt8} {k retryCnt : ℕ} {r₀ : Response}
    (h₀ : (script 0).response = some r₀) (hr₀ : r₀.Skipped args capacity)
    (h : AnsweredAt args capacity retryCnt (fun i => script (i + 1)) k r) :
    AnsweredAt args capacity (retryCnt + 1) script (k + 1) r where
  lt_retryCnt := Nat.succ_lt_succ h.lt_retryCnt
  skipped
    | 0, _ => ⟨r₀, h₀, hr₀⟩
    | i + 1, hi => h.skipped i (Nat.lt_of_succ_lt_succ hi)
  response := h.response
  last := h.last

theorem script_zero (script : ℕ → Attempt) : script = fun i => script (0 + i) := by
  funext i
  rw [Nat.zero_add]

/-- The attempts after the first one of those from the `n`-th on. -/
theorem script_succ (script : ℕ → Attempt) (n : ℕ) :
    (fun i => script (n + (i + 1))) = fun i => script (n + 1 + i) := by
  funext i
  rw [Nat.add_assoc, Nat.add_comm 1 i]

/-- How the loop hands on what has ended it. -/
def found : Except EfiStatus UInt8 × CommandState UInt8 →
    Except EfiStatus (Option UInt8) × CommandState UInt8
  | (.error status, st) => (.error status, st)
  | (.ok dataSize, st) => (.ok (some dataSize), st)

/-- The rule for the loop: an attempt is followed by the rest of the loop, or ends it. -/
theorem satisfies_retryLoop {E : Prop} {retryCnt : ℕ}
    {Q : List TransportEvent → Except EfiStatus (Option UInt8) × CommandState UInt8 → Prop}
    (h : (attempt args retryCnt st).Satisfies E fun tr i =>
      match i with
      | .again st' => (retryLoop args retryCnt st').Satisfies E fun tr' r => Q (tr ++ tr') r
      | .done x => Q tr (found x)) : (retryLoop args (retryCnt + 1) st).Satisfies E Q := by
  rw [retryLoop, satisfies_bind]
  refine h.mono fun tr i hi => ?_
  rcases i with st' | ⟨status | dataSize, st'⟩
  · exact hi
  · change Q (tr ++ []) _
    rw [List.append_nil]
    exact hi
  · change Q (tr ++ []) _
    rw [List.append_nil]
    exact hi

/-- A loop that is ended by a response. -/
theorem retryLoop_of_answer {k retryCnt : ℕ}
    (h : AnsweredAt args st.responseDataSize retryCnt (fun i => script (n + i)) k r) :
    (retryLoop args retryCnt st).Ends (scripted script) n fun x n' => n' = n + k + 1 ∧
      ∃ inst, x = found (settle args r { st with inst := afterResponse args r inst }) := by
  induction retryCnt generalizing k n st with
  | zero => exact absurd h.lt_retryCnt (Nat.not_lt_zero _)
  | succ retryCnt ih =>
    rw [retryLoop, ends_bind]
    cases k with
    | zero =>
      refine (attempt_of_response h.response).mono ?_
      rintro i n' ⟨rfl, rfl⟩
      rw [afterAttempt, if_neg h.last]
      unfold settle
      split_ifs <;> exact ⟨rfl, st.inst, rfl⟩
    | succ k =>
      -- the first response is passed over, and the rest of the script ends the rest of the loop
      obtain ⟨r₀, h₀, hr₀⟩ := h.skipped 0 (Nat.succ_pos _)
      have htail := h.tail
      have hretries : retryCnt ≠ 0 := Nat.ne_of_gt (Nat.zero_lt_of_lt htail.lt_retryCnt)
      rw [script_succ] at htail
      refine (attempt_of_response h₀).mono ?_
      rintro i n' ⟨rfl, rfl⟩
      rw [afterAttempt, if_pos hr₀, if_neg hretries]
      change (retryLoop args retryCnt { st with inst := afterResponse args r₀ st.inst }).Ends
        (scripted script) (n + 1) _
      refine Ends.mono (ih htail) fun x n' hx => ⟨?_, hx.2⟩
      rw [hx.1]
      omega

/-- A loop that is entered and not ended by a response ends with an error. -/
theorem retryLoop_of_no_answer {retryCnt : ℕ} (hretries : retryCnt ≠ 0)
    (h : ∀ k r, ¬ AnsweredAt args st.responseDataSize retryCnt (fun i => script (n + i)) k r) :
    (retryLoop args retryCnt st).Ends (scripted script) n fun x _ =>
      ∃ status st', x = (.error status, st') ∧ status ≠ .success := by
  induction retryCnt generalizing n st with
  | zero => exact absurd rfl hretries
  | succ retryCnt ih =>
    rw [retryLoop, ends_bind]
    cases hresponse : (script n).response with
    | none =>
      refine (attempt_of_no_response hresponse).mono ?_
      rintro i n' ⟨status, st', rfl, hstatus⟩
      exact ⟨status, st', rfl, hstatus⟩
    | some r =>
      refine (attempt_of_response hresponse).mono ?_
      rintro i n' ⟨rfl, rfl⟩
      unfold afterAttempt
      by_cases hr : r.Skipped args st.responseDataSize
      · rw [if_pos hr]
        by_cases hzero : retryCnt = 0
        · rw [if_pos hzero]
          exact ⟨_, _, rfl, by decide⟩
        · rw [if_neg hzero]
          change (retryLoop args retryCnt { st with inst := afterResponse args r st.inst }).Ends
            (scripted script) (n + 1) _
          refine ih hzero fun k r' hk => ?_
          rw [← script_succ] at hk
          exact h (k + 1) r' (hk.cons hresponse hr)
      · exact absurd ⟨Nat.succ_pos _, fun i hi => absurd hi (Nat.not_lt_zero _), hresponse, hr⟩
          (h 0 r)

/-! ### The call -/

/-- A call whose retry loop is ended by a response. -/
theorem ipmiSendCommandInternal_of_answer {maxRetries : UInt8} {uninit : Uninitialized} {k : ℕ}
    (hargs : ¬ Rejected args)
    (h : AnsweredAt args st.responseDataSize maxRetries.toNat script k r) :
    (ipmiSendCommandInternal maxRetries uninit args st).Ends (scripted script) 0 fun x n' =>
      n' = k + 1 ∧ ∃ inst, x = finishCommand uninit args
        (found (settle args r { st with inst := afterResponse args r inst })) := by
  rw [ipmiSendCommandInternal_of_not_rejected hargs, ends_bind]
  refine (retryLoop_of_answer (n := 0) (script_zero script ▸ h)).mono ?_
  rintro x n' ⟨rfl, inst, rfl⟩
  exact ⟨by rw [Nat.zero_add], inst, rfl⟩

/-- A call whose retry loop is entered and not ended by a response. -/
theorem ipmiSendCommandInternal_of_no_answer {maxRetries : UInt8} {uninit : Uninitialized}
    (hargs : ¬ Rejected args) (hretries : maxRetries.toNat ≠ 0)
    (h : ∀ k r, ¬ AnsweredAt args st.responseDataSize maxRetries.toNat script k r) :
    (ipmiSendCommandInternal maxRetries uninit args st).Ends (scripted script) 0 fun x _ =>
      x.1 ≠ .success := by
  rw [ipmiSendCommandInternal_of_not_rejected hargs, ends_bind]
  refine (retryLoop_of_no_answer (n := 0) hretries (script_zero script ▸ h)).mono ?_
  rintro x n' ⟨status, st', rfl, hstatus⟩
  exact hstatus

end Generic

end IpmiFeature
