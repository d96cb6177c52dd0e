import IpmiFeature.Generic.Status

/-!
# What a command does not touch

A command returns, and of the instance it changes `TempData`, `BmcStatus` and `SoftErrorCount` only,
whatever its arguments are and whatever the transport does (`enter_frame`).
-/

namespace IpmiFeature

open Interaction Prog

namespace Generic

/-- The second instance agrees with the first one outside `TempData`, `BmcStatus` and
`SoftErrorCount`. -/
structure Frame (inst inst' : IpmiBmcInstanceData) : Prop where
  signature_eq : inst'.signature = inst.signature
  ipmiTimeoutPeriod_eq : inst'.ipmiTimeoutPeriod = inst.ipmiTimeoutPeriod
  slaveAddress_eq : inst'.slaveAddress = inst.slaveAddress
  errorStatus_eq : inst'.errorStatus = inst.errorStatus
  ipmiTransport_eq : inst'.ipmiTransport = inst.ipmiTransport

variable {inst inst' inst'' : IpmiBmcInstanceData} {args : CommandArgs UInt8}

theorem Frame.refl (inst : IpmiBmcInstanceData) : Frame inst inst := ⟨rfl, rfl, rfl, rfl, rfl⟩

theorem Frame.trans (h : Frame inst inst') (h' : Frame inst' inst'') : Frame inst inst'' where
  signature_eq := h'.signature_eq.trans h.signature_eq
  ipmiTimeoutPeriod_eq := h'.ipmiTimeoutPeriod_eq.trans h.ipmiTimeoutPeriod_eq
  slaveAddress_eq := h'.slaveAddress_eq.trans h.slaveAddress_eq
  errorStatus_eq := h'.errorStatus_eq.trans h.errorStatus_eq
  ipmiTransport_eq := h'.ipmiTransport_eq.trans h.ipmiTransport_eq

theorem Frame.storeTemp (inst : IpmiBmcInstanceData) (off : ℕ) (values : List UInt8) :
    Frame inst (inst.storeTemp off values) := ⟨rfl, rfl, rfl, rfl, rfl⟩

theorem Frame.setStatus (h : Frame inst inst') (bmcStatus : UInt32) :
    Frame inst { inst' with bmcStatus } :=
  h.trans ⟨rfl, rfl, rfl, rfl, rfl⟩

theorem Frame.softFail (h : Frame inst inst') : Frame inst inst'.softFail :=
  h.trans ⟨rfl, rfl, rfl, rfl, rfl⟩

theorem Frame.updateErrorStatus (h : Frame inst inst') (bmcError : UInt8) :
    Frame inst (updateErrorStatus bmcError inst') := by
  unfold Generic.updateErrorStatus
  by_cases hcode : bmcError ∈ completionCodes
  · rw [if_pos hcode]
    exact h.trans ⟨rfl, rfl, rfl, rfl, rfl⟩
  · rw [if_neg hcode]
    exact h

/-! ### The retry loop -/

theorem Frame.buildCommand (args : CommandArgs UInt8) (inst : IpmiBmcInstanceData) :
    Frame inst (buildCommand args inst) := by
  rw [buildCommand_eq]
  exact .storeTemp inst _ _

theorem Frame.afterResponse (args : CommandArgs UInt8) (r : Response) (inst : IpmiBmcInstanceData) :
    Frame inst (afterResponse args r inst) := (Frame.buildCommand args inst).trans (.storeTemp _ _ _)

theorem Frame.afterReply (h : Frame inst inst') (reply : Reply receiveSize) :
    Frame inst (afterReply reply inst') := by
  have hstored := h.trans (.storeTemp inst' 0 reply.data)
  unfold Generic.afterReply
  dsimp only
  split_ifs
  · cases reply.data[2]? with
    | none => exact hstored
    | some completionCode => exact hstored.updateErrorStatus completionCode
  · exact hstored.softFail

theorem retryLoop_frame (args : CommandArgs UInt8) (retryCnt : ℕ) (st : CommandState UInt8) :
    (retryLoop args retryCnt st).Satisfies False fun _ x => Frame st.inst x.2.inst := by
  induction retryCnt generalizing st with
  | zero => exact .refl st.inst
  | succ retryCnt ih =>
    refine satisfies_retryLoop (satisfies_attempt (fun _ _ _ _ => ?_) (fun _ _ _ _ r _ => ?_)
      fun _ _ _ reply _ _ _ => ?_)
    · exact (Frame.buildCommand args st.inst).softFail
    · have hresponse := Frame.afterResponse args r st.inst
      unfold afterAttempt
      split_ifs
      · exact hresponse
      · exact (ih _).mono fun _ _ hx => hresponse.trans hx
      · unfold settle
        split_ifs <;> exact hresponse
    · exact (Frame.buildCommand args st.inst).afterReply reply

/-! ### The call -/

theorem Frame.storeResponse {st : CommandState UInt8} (h : Frame inst st.inst) (ptr : ResponsePtr)
    (off : ℕ) (values : List UInt8) : Frame inst (st.storeResponse ptr off values).inst := by
  cases ptr with
  | null => exact h
  | caller => exact h
  | tempData => exact h.trans (.storeTemp _ _ _)

theorem Frame.shiftResponse {st : CommandState UInt8} (h : Frame inst st.inst) (ptr : ResponsePtr) :
    Frame inst (shiftResponse ptr st).inst := by
  unfold Generic.shiftResponse
  exact List.foldlRecOn _ _ (motive := fun st : CommandState UInt8 => Frame inst st.inst) h
    fun _ hst _ _ => hst.storeResponse ptr _ _

theorem deliverResponse_frame (ptr : ResponsePtr) (uninit : Uninitialized) (replied : Bool)
    (dataSize : UInt8) (st : CommandState UInt8) :
    Frame st.inst (deliverResponse ptr uninit replied dataSize st).inst := by
  have hsized : Frame st.inst
      { st with responseDataSize := dataSize - ipmiResponseHeaderSize }.inst := .refl st.inst
  have hcopied := hsized.storeResponse ptr 0
    ((ipmiResponse uninit replied st).slice ipmiResponseHeaderSize.toNat
      (dataSize - ipmiResponseHeaderSize).toNat)
  unfold deliverResponse
  refine Frame.storeResponse (Frame.shiftResponse ?_ ptr) ptr _ _
  exact hcopied

theorem finishCommand_frame (uninit : Uninitialized) (args : CommandArgs UInt8)
    (x : Except EfiStatus (Option UInt8) × CommandState UInt8) :
    Frame x.2.inst (finishCommand uninit args x).2.inst := by
  obtain ⟨status | reply, st⟩ := x
  · exact .refl st.inst
  · unfold finishCommand
    refine Frame.setStatus ?_ bmcOk
    split_ifs
    · exact deliverResponse_frame args.responseData uninit _ _ st
    · exact .refl st.inst

theorem ipmiSendCommand_frame (maxRetries : UInt8) (uninit : Uninitialized)
    (args : CommandArgs UInt32) (st : CommandState UInt32) :
    (ipmiSendCommand maxRetries uninit args st).Satisfies False fun _ x => Frame st.inst x.2.inst := by
  rw [ipmiSendCommand, satisfies_bind]
  by_cases hargs : Rejected args.narrow
  · rw [ipmiSendCommandInternal_of_rejected hargs]
    exact .refl st.inst
  · rw [ipmiSendCommandInternal_of_not_rejected hargs, satisfies_bind]
    exact (retryLoop_frame args.narrow _ _).mono fun _ x hx =>
      hx.trans (finishCommand_frame uninit args.narrow x)

/-- A visit changes nothing else. -/
theorem enter_frame (maxRetries : UInt8) (entry : Entry) (inst : IpmiBmcInstanceData) :
    (enter maxRetries entry inst).Satisfies False fun _ x => Frame inst x.2 := by
  cases entry with
  | ipmiSubmitCommand uninit args responseData responseDataSize =>
    rw [enter, satisfies_bind]
    exact (ipmiSendCommand_frame maxRetries uninit args _).mono fun _ _ hx => hx
  | getBmcStatus =>
    rw [enter, ipmiBmcStatus]
    dsimp only
    split_ifs
    · exact (Frame.refl inst).setStatus bmcHardfail
    · exact .refl inst

end Generic

end IpmiFeature
