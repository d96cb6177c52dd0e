import IpmiFeature.Generic.Delivery

/-!
# The capacity of the response buffer

A reply with `n` bytes of payload needs `n + 1` bytes, one for the completion code.  The check
compares `n` with the capacity, so a buffer of exactly `n` bytes is overrun
(`ipmiSendCommandInternal_capacity_iff`).  Through the hook only the low byte of the capacity is
compared and overwritten, so it works for capacities below 256
(`ipmiSendCommand_responseDataSize_iff`).
-/

namespace IpmiFeature

open Interaction Prog

namespace Generic

variable {args : CommandArgs UInt8} {r : Response} {st : CommandState UInt8}
  {script : ℕ → Attempt} {maxRetries : UInt8} {uninit : Uninitialized}

/-! ### The buffer of a caller -/

/-- What a caller with a buffer of `*ResponseDataSize` bytes may rely on when the payload comes. -/
structure CapacityLaw (payload : List UInt8) (st : CommandState UInt8) (status : EfiStatus)
    (st' : CommandState UInt8) : Prop where
  /-- The call succeeds if the completion code and the payload fit. -/
  success_iff : status = .success ↔ payload.length + 1 ≤ st.responseDataSize.toNat
  /-- They are all that is written then. -/
  written : status = .success →
    st'.responseData = st.responseData.store 0 (compCodeNormal :: payload)
  /-- Nothing is written behind the buffer. -/
  inside : ∀ i, st.responseDataSize.toNat ≤ i → st'.responseData i = st.responseData i
  /-- Otherwise nothing is written, and the size says what is needed. -/
  tooSmall : status ≠ .success → status = .bufferTooSmall ∧ st'.responseData = st.responseData ∧
    st'.responseDataSize.toNat = payload.length + 1

/-- **When the response buffer is large enough.**  When a response with `n` bytes of payload ends
the retry loop, the call keeps to the capacity of the buffer if and only if the capacity is not
`n`. -/
theorem ipmiSendCommandInternal_capacity_iff {k : ℕ} (hargs : ¬ Rejected args)
    (hptr : args.responseData = .caller)
    (h : AnsweredAt args st.responseDataSize maxRetries.toNat script k r) :
    (ipmiSendCommandInternal maxRetries uninit args st).Ends (scripted script) 0 fun x _ =>
      CapacityLaw r.payload st x.1 x.2 ↔ r.payload.length ≠ st.responseDataSize.toNat := by
  have hptr' : args.responseData ≠ .null := by rw [hptr]; nofun
  have hsize := hasResponseDataSize_of_not_rejected hargs hptr'
  by_cases hlong : r.payload.length > st.responseDataSize.toNat
  · refine (ipmiSendCommandInternal_tooSmall hargs h ⟨hsize, hlong⟩).mono ?_
    rintro _ _ ⟨-, inst, rfl⟩
    refine iff_of_true ?_ (Nat.ne_of_gt hlong)
    refine ⟨iff_of_false nofun (by omega), nofun, fun _ _ => rfl, fun _ => ⟨rfl, rfl, ?_⟩⟩
    exact Attempt.toNat_responseSize h.response
  · refine (ipmiSendCommandInternal_delivers hargs h fun htooLong => hlong htooLong.2).mono ?_
    rintro ⟨status, st'⟩ n' ⟨-, rfl, hdelivered⟩
    have hbuffer := (hdelivered hptr').caller hptr
    constructor
    · intro hlaw
      have hfits := hlaw.success_iff.1 rfl
      omega
    · intro hne
      refine ⟨iff_of_true rfl (by omega), fun _ => hbuffer, fun i hi => ?_, fun herr => absurd rfl herr⟩
      change st'.responseData i = _
      rw [hbuffer]
      refine Memory.store_of_le ?_
      simp only [List.length_cons]
      omega

/-- The command of `GetSelfTest`, with a buffer of the caller. -/
def getSelfTestArgs : CommandArgs UInt8 where
  netFunction := 0x06
  lun := 0
  command := 0x04
  commandData := none
  commandDataSize := 0
  responseData := .caller
  hasResponseDataSize := true

/-- The self test has passed. -/
def selfTestPassed : Response := ⟨0x1C, 0x04, [0x55, 0x00]⟩

/-- Two bytes of payload and the completion code are written to a buffer of two bytes. -/
theorem ipmiSendCommandInternal_overrun :
    ¬ (ipmiSendCommandInternal 1 ⟨0, fun _ => 0⟩ getSelfTestArgs (idleCommand 2)).Ends
      (scripted fun _ => .ofReply selfTestPassed.bytes) 0 fun x _ =>
        CapacityLaw selfTestPassed.payload (idleCommand 2) x.1 x.2 := by
  intro h
  have hrun : ((ipmiSendCommandInternal 1 ⟨0, fun _ => 0⟩ getSelfTestArgs (idleCommand 2)).exec
      (scripted fun _ => .ofReply selfTestPassed.bytes) 0).map (·.1.1) = some .success := by decide
  obtain ⟨x, hexec, hsuccess⟩ := Option.map_eq_some_iff.1 hrun
  have hfits := (h.of_exec hexec).success_iff.1 hsuccess
  revert hfits
  decide

theorem ipmiSendCommandInternal_capacity_iff_selfTest :
    (ipmiSendCommandInternal 1 ⟨0, fun _ => 0⟩ getSelfTestArgs (idleCommand 3)).Ends
      (scripted fun _ => .ofReply selfTestPassed.bytes) 0 fun x _ =>
        CapacityLaw selfTestPassed.payload (idleCommand 3) x.1 x.2 ↔
          selfTestPassed.payload.length ≠ (idleCommand 3).responseDataSize.toNat :=
  ipmiSendCommandInternal_capacity_iff (by decide) rfl
    (.of_matches (by decide) (fun i hi => absurd hi (Nat.not_lt_zero i)) (by decide) (by decide))

/-! ### The size behind the hook -/

/-- **When the hook gets the size right.**  A response that ends the retry loop and fits into the
caller's buffer is delivered with its size if and only if the capacity is below 256. -/
theorem ipmiSendCommand_responseDataSize_iff {k : ℕ} {args : CommandArgs UInt32}
    {st : CommandState UInt32} (hargs : ¬ Rejected args.narrow) (hptr : args.responseData ≠ .null)
    (h : AnsweredAt args.narrow (byteOf st.responseDataSize 0) maxRetries.toNat script k r)
    (hfits : r.payload.length + 2 ≤ st.responseDataSize.toNat) :
    (ipmiSendCommand maxRetries uninit args st).Ends (scripted script) 0 fun x _ =>
      x.1 = .success ∧ x.2.responseDataSize.toNat = r.payload.length + 1 ↔
        st.responseDataSize.toNat < 256 := by
  have hlen := Attempt.length_payload_le h.response
  have hlow : (byteOf st.responseDataSize 0).toNat = st.responseDataSize.toNat % 256 := by
    rw [toNat_byteOf, Nat.pow_zero, Nat.div_one]
  have hsize := hasResponseDataSize_of_not_rejected hargs hptr
  unfold ipmiSendCommand
  rw [ends_bind]
  by_cases hlong : r.payload.length > (byteOf st.responseDataSize 0).toNat
  · refine (ipmiSendCommandInternal_tooSmall hargs h ⟨hsize, hlong⟩).mono ?_
    rintro _ _ ⟨-, inst, rfl⟩
    refine iff_of_false (fun hsuccess => nomatch hsuccess.1) ?_
    omega
  · refine (ipmiSendCommandInternal_delivers hargs h fun htooLong => hlong htooLong.2).mono ?_
    rintro ⟨status, st'⟩ n' ⟨-, rfl, hdelivered⟩
    change _ ∧ (setLowByte st.responseDataSize st'.responseDataSize).toNat = _ ↔ _
    rw [toNat_setLowByte, (hdelivered hptr).size_eq, Attempt.toNat_responseSize h.response]
    constructor
    · rintro ⟨-, hvalue⟩
      omega
    · intro hsmall
      refine ⟨rfl, ?_⟩
      omega

/-- The command of `GetSelfTest` through the hook. -/
def getSelfTestHookArgs : CommandArgs UInt32 :=
  { getSelfTestArgs with commandDataSize := 0 }

/-- The state before a command through the hook with the capacity `capacity`. -/
def idleHookCommand (capacity : UInt32) : CommandState UInt32 := ⟨idleInstance, fun _ => 0, capacity⟩

/-- A buffer of 256 bytes is too small for two bytes of payload. -/
theorem ipmiSendCommand_responseDataSize_lowByte :
    ¬ (ipmiSendCommand 1 ⟨0, fun _ => 0⟩ getSelfTestHookArgs (idleHookCommand 256)).Ends
      (scripted fun _ => .ofReply selfTestPassed.bytes) 0 fun x _ =>
        x.1 = .success ∧ x.2.responseDataSize.toNat = selfTestPassed.payload.length + 1 := by
  intro h
  have hrun : ((ipmiSendCommand 1 ⟨0, fun _ => 0⟩ getSelfTestHookArgs (idleHookCommand 256)).exec
      (scripted fun _ => .ofReply selfTestPassed.bytes) 0).map (·.1.1) = some .bufferTooSmall := by
    decide
  obtain ⟨x, hexec, hstatus⟩ := Option.map_eq_some_iff.1 hrun
  have hsuccess := (h.of_exec hexec).1
  rw [hstatus] at hsuccess
  cases hsuccess

theorem ipmiSendCommand_responseDataSize_iff_selfTest :
    (ipmiSendCommand 1 ⟨0, fun _ => 0⟩ getSelfTestHookArgs (idleHookCommand 255)).Ends
      (scripted fun _ => .ofReply selfTestPassed.bytes) 0 fun x _ =>
        x.1 = .success ∧ x.2.responseDataSize.toNat = selfTestPassed.payload.length + 1 ↔
          (idleHookCommand 255).responseDataSize.toNat < 256 :=
  ipmiSendCommand_responseDataSize_iff (by decide) (by decide)
    (.of_matches (by decide) (fun i hi => absurd hi (Nat.not_lt_zero i)) (by decide) (by decide))
    (by decide)

end Generic

end IpmiFeature
