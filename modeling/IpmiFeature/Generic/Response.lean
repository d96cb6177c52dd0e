import IpmiFeature.Generic.Answer
import IpmiFeature.Generic.Capacity
import IpmiFeature.Generic.Frame

/-!
# The caller's response

A response buffer outside `TempData` is written by a successful command only, whatever the transport
does and however many attempts there are.

* `ipmiSendCommandInternal_response` : the completion code and the payload of the answer are in it,
  in their order, and the bytes behind them are those of before.
* `ipmiSendCommandInternal_untouched` : after an error the buffer is as before, and so is its size,
  unless the error is that the buffer is too small.
-/

namespace IpmiFeature

open Interaction Prog

namespace Generic

variable {args : CommandArgs UInt8} {st st' : CommandState UInt8} {r : Response}
  {maxRetries : UInt8} {uninit : Uninitialized}

/-! ### A delivered response -/

/-- The buffer has become the response: the completion code, the payload, and the bytes of before.
-/
structure HoldsResponse (payload : List UInt8) (before after : Memory UInt8) : Prop where
  /-- Nothing is lost, duplicated or reordered. -/
  response : after.slice 0 (payload.length + 1) = compCodeNormal :: payload
  /-- What is behind the response. -/
  behind : ∀ i, payload.length + 1 ≤ i → after i = before i

theorem HoldsResponse.of_store (payload : List UInt8) (before : Memory UInt8) :
    HoldsResponse payload before (before.store 0 (compCodeNormal :: payload)) where
  response := Memory.slice_store_self 0 (compCodeNormal :: payload)
  behind i hi := by
    refine Memory.store_of_le ?_
    rw [List.length_cons]
    omega

/-- What the caller finds after the retry loop, if it was ended by an answer that fits. -/
theorem LoopOutcome.delivered {x : Except EfiStatus (Option UInt8) × CommandState UInt8}
    (hargs : ¬ Rejected args) (hptr : args.responseData ≠ .null) (h : LoopOutcome args st (some r) x)
    (hfits : r.payload.length ≤ st.responseDataSize.toNat) :
    (finishCommand uninit args x).1 = .success ∧
      Delivered args r st (finishCommand uninit args x).2 := by
  obtain ⟨hlen, inst, hx⟩ := h
  have hshort : ¬ r.TooLong args st.responseDataSize := fun hlong => Nat.not_lt.2 hfits hlong.2
  have hlast : ¬ r.Skipped args st.responseDataSize := fun hskipped => hshort hskipped.1
  rw [if_neg hlast, settle, if_neg hshort] at hx
  subst hx
  exact ⟨rfl, finishCommand_delivers uninit inst st hptr hargs hlen⟩

/-- **The content of the response.**  A command whose answer fits succeeds, and the buffer holds the
completion code and the payload. -/
theorem ipmiSendCommandInternal_response (hptr : args.responseData = .caller) :
    (ipmiSendCommandInternal maxRetries uninit args st).Satisfies False fun tr x =>
      ∀ r, answerOf tr = some r → r.Matches args →
        r.payload.length + 1 ≤ st.responseDataSize.toNat →
          x.1 = .success ∧ HoldsResponse r.payload st.responseData x.2.responseData := by
  have hptr' : args.responseData ≠ .null := by
    rw [hptr]
    exact ResponsePtr.noConfusion
  by_cases hargs : Rejected args
  · rw [ipmiSendCommandInternal_of_rejected hargs]
    intro r hr
    cases hr
  rw [ipmiSendCommandInternal_of_not_rejected hargs, satisfies_bind]
  by_cases hretries : maxRetries.toNat = 0
  · rw [hretries]
    intro r hr
    cases hr
  · have hloop := (retryLoop_frame args maxRetries.toNat st).and (retryLoop_outcome hretries)
    refine hloop.mono fun tr x hx r hr _ hfits => ?_
    obtain ⟨-, -, houtcome⟩ := hx
    rw [List.append_nil] at hr
    rw [hr] at houtcome
    have hdelivers : (finishCommand uninit args x).1 = .success ∧
        Delivered args r st (finishCommand uninit args x).2 :=
      houtcome.delivered hargs hptr' (Nat.le_of_succ_le hfits)
    obtain ⟨hsuccess, hdelivered⟩ := hdelivers
    refine ⟨hsuccess, ?_⟩
    rw [hdelivered.caller hptr]
    exact .of_store r.payload st.responseData

/-- A foreign reply that is too long, and then the answer. -/
theorem ipmiSendCommandInternal_response_selfTest : ∃ x tr n,
    (ipmiSendCommandInternal 2 ⟨0, fun _ => 0⟩ getSelfTestArgs (idleCommand 3)).exec
        (scripted fun n => .ofReply
          (if n = 0 then [0x1C, 0x01, 0x00, 1, 2, 3, 4] else selfTestPassed.bytes)) 0 =
      some (x, tr, n) ∧
    x.1 = .success ∧
    HoldsResponse selfTestPassed.payload (idleCommand 3).responseData x.2.responseData := by
  have hrun : ((ipmiSendCommandInternal 2 ⟨0, fun _ => 0⟩ getSelfTestArgs (idleCommand 3)).exec
      (scripted fun n => .ofReply
        (if n = 0 then [0x1C, 0x01, 0x00, 1, 2, 3, 4] else selfTestPassed.bytes)) 0).map
          (fun x => answerOf x.2.1) = some (some selfTestPassed) := by decide
  obtain ⟨⟨x, tr, n⟩, hexec, hanswer⟩ := Option.map_eq_some_iff.1 hrun
  exact ⟨x, tr, n, hexec,
    (ipmiSendCommandInternal_response rfl).of_exec hexec _ hanswer (by decide) (by decide)⟩

/-! ### No response -/

/-- What a failed command leaves alone of what is the caller's. -/
structure Untouched (st : CommandState UInt8) (status : EfiStatus) (st' : CommandState UInt8) :
    Prop where
  /-- The buffer. -/
  responseData_eq : status ≠ .success → st'.responseData = st.responseData
  /-- Its size, unless it has been found too small. -/
  responseDataSize_eq : status ≠ .success → status ≠ .bufferTooSmall →
    st'.responseDataSize = st.responseDataSize

/-- The retry loop does not write to the buffer, and the size only when it ends with an error. -/
theorem retryLoop_untouched (args : CommandArgs UInt8) (retryCnt : ℕ) (st : CommandState UInt8) :
    (retryLoop args retryCnt st).Satisfies False fun _ x =>
      x.2.responseData = st.responseData ∧
        (x.1 ≠ .error .bufferTooSmall → x.2.responseDataSize = st.responseDataSize) := by
  induction retryCnt generalizing st with
  | zero => exact ⟨rfl, fun _ => rfl⟩
  | succ retryCnt ih =>
    refine satisfies_retryLoop (satisfies_attempt (fun _ _ _ _ => ?_) (fun _ _ _ _ r _ => ?_)
      fun _ _ _ _ _ _ _ => ?_)
    · exact ⟨rfl, fun _ => rfl⟩
    · unfold afterAttempt
      split_ifs
      · exact ⟨rfl, fun _ => rfl⟩
      · exact ih { st with inst := afterResponse args r st.inst }
      · unfold settle
        split_ifs
        · exact ⟨rfl, fun hstatus => absurd rfl hstatus⟩
        · exact ⟨rfl, fun _ => rfl⟩
    · exact ⟨rfl, fun _ => rfl⟩

/-- **Failed commands.**  A command that fails leaves the caller's response alone, and no command
changes the instance outside `TempData`, `BmcStatus` and `SoftErrorCount`. -/
theorem ipmiSendCommandInternal_untouched (maxRetries : UInt8) (uninit : Uninitialized)
    (args : CommandArgs UInt8) (st : CommandState UInt8) :
    (ipmiSendCommandInternal maxRetries uninit args st).Satisfies False fun _ x =>
      Untouched st x.1 x.2 ∧ Frame st.inst x.2.inst := by
  by_cases hargs : Rejected args
  · rw [ipmiSendCommandInternal_of_rejected hargs]
    exact ⟨⟨fun _ => rfl, fun _ _ => rfl⟩, .refl st.inst⟩
  rw [ipmiSendCommandInternal_of_not_rejected hargs, satisfies_bind]
  have hloop := (retryLoop_untouched args maxRetries.toNat st).and
    (retryLoop_frame args maxRetries.toNat st).of_total
  refine hloop.mono fun tr x hx => ⟨?_, hx.2.trans (finishCommand_frame uninit args x)⟩
  obtain ⟨status | reply, st'⟩ := x
  · refine ⟨fun _ => hx.1.1, fun _ hsmall => hx.1.2 fun heq => ?_⟩
    exact hsmall (Except.error.inj heq)
  · exact ⟨fun hstatus => absurd rfl hstatus, fun hstatus => absurd rfl hstatus⟩

end Generic

end IpmiFeature
