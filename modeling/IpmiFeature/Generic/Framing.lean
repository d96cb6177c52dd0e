import IpmiFeature.Generic.TempData
import IpmiFeature.Generic.Trace

/-!
# The frames of a command

Every attempt of a command hands one frame to the transport.  The frame is the command header and
the command data, as long as the two fit into `TempData`; the hook does not check this and cuts
the size of the data off to a `UINT8`, so `ipmiSendCommand_framed_iff` holds for short commands
only.
-/

namespace IpmiFeature

open Interaction Prog

namespace Generic

/-! ### The frames of a run -/

/-- The frame of an attempt that starts with the instance `inst`. -/
def commandFrame (args : CommandArgs UInt8) (inst : IpmiBmcInstanceData) : List UInt8 :=
  (messageAt (buildCommand args inst).temp (args.commandDataSize + ipmiCommandHeaderSize)).bytes

/-- An attempt sends one frame. -/
theorem attempt_frames (args : CommandArgs UInt8) (retryCnt : ℕ) (st : CommandState UInt8) :
    (attempt args retryCnt st).Satisfies True fun tr _ =>
      frames tr = [commandFrame args st.inst] := by
  unfold attempt
  dsimp only
  rw [satisfies_send_bind]
  intro status
  by_cases hsent : status ≠ .success
  · rw [if_pos hsent]
    rfl
  · rw [if_neg hsent, satisfies_receive_bind]
    exact fun reply => rfl

/-- Every frame of the loop is that of an attempt, and the loop ends without a reply only if it is
not entered. -/
theorem retryLoop_frames (args : CommandArgs UInt8) (retryCnt : ℕ) (st : CommandState UInt8) :
    (retryLoop args retryCnt st).Satisfies True fun tr r =>
      (∀ frame ∈ frames tr, ∃ inst, frame = commandFrame args inst) ∧
        (frames tr = [] ↔ retryCnt = 0) ∧ (retryCnt = 0 → r.1 = .ok none) := by
  induction retryCnt generalizing st with
  | zero => exact ⟨by simp, by simp, fun _ => rfl⟩
  | succ retryCnt ih =>
    rw [retryLoop, satisfies_bind]
    refine (attempt_frames args retryCnt st).mono fun tr i htr => ?_
    rcases i with st' | ⟨status | dataSize, st'⟩
    · refine (ih st').mono fun tr' r ⟨hframes, _, _⟩ => ⟨?_, by simp [htr], by simp⟩
      rw [frames_append, htr]
      intro frame hframe
      rcases List.mem_append.1 hframe with hframe | hframe
      · exact ⟨st.inst, List.mem_singleton.1 hframe⟩
      · exact hframes frame hframe
    all_goals
      refine ⟨fun frame hframe => ⟨st.inst, ?_⟩, by simp [htr], by simp⟩
      simpa [htr] using hframe

/-- The frames of a call, and when there is none. -/
theorem ipmiSendCommandInternal_frames (maxRetries : UInt8) (uninit : Uninitialized)
    (args : CommandArgs UInt8) (st : CommandState UInt8) :
    (ipmiSendCommandInternal maxRetries uninit args st).Satisfies True fun tr r =>
      (Rejected args → r.1 = .invalidParameter ∧ frames tr = []) ∧
        (¬ Rejected args → (∀ frame ∈ frames tr, ∃ inst, frame = commandFrame args inst) ∧
          (frames tr = [] ↔ maxRetries = 0) ∧ (maxRetries = 0 → r.1 = .success)) := by
  by_cases hrejected : Rejected args
  · rw [ipmiSendCommandInternal_of_rejected hrejected]
    exact ⟨fun _ => ⟨rfl, rfl⟩, fun h => absurd hrejected h⟩
  · rw [ipmiSendCommandInternal_of_not_rejected hrejected, satisfies_bind]
    refine (retryLoop_frames args maxRetries.toNat st).mono fun tr r ⟨hframes, hnil, hnone⟩ =>
      ⟨fun h => absurd h hrejected, fun _ => ?_⟩
    have hzero : frames (tr ++ []) = [] ↔ maxRetries = 0 := by
      rw [List.append_nil, hnil, ← UInt8.toNat_inj]
      rfl
    refine ⟨by simpa using hframes, hzero, fun h => ?_⟩
    obtain ⟨status | reply, st'⟩ := r
    · cases hnone (congrArg UInt8.toNat h)
    · rfl

/-! ### Well-formed frames -/

/-- The command data that is not rejected is as long as its size says. -/
theorem length_commandBytes {args : CommandArgs UInt8} (hargs : ¬ Rejected args) :
    (commandBytes args).length = args.commandDataSize.toNat + 2 := by
  unfold commandBytes
  cases hnone : args.commandData with
  | none =>
    have hzero : args.commandDataSize.toNat = 0 := by
      by_contra hne
      have hpos : args.commandDataSize > 0 := UInt8.lt_iff_toNat_lt.2 (Nat.pos_of_ne_zero hne)
      exact hargs (.inl ⟨hpos, by rw [hnone]; rfl⟩)
    simp [hzero]
  | some commandData =>
    simp only [List.length_append, List.length_cons, List.length_nil, Memory.length_slice]
    omega

/-- The frame of a command whose data fits. -/
theorem commandFrame_eq {args : CommandArgs UInt8} (inst : IpmiBmcInstanceData)
    (hargs : ¬ Rejected args) (hsize : args.commandDataSize.toNat ≤ 253) :
    commandFrame args inst = commandBytes args := by
  have hlen := length_commandBytes hargs
  have hframe : (args.commandDataSize + ipmiCommandHeaderSize).toNat =
      (commandBytes args).length := by
    have htwo : ipmiCommandHeaderSize.toNat = 2 := rfl
    rw [toNat_add_byte (by omega), hlen, htwo]
  have hfit : 0 + (commandBytes args).length ≤ maxTempData := by
    change 0 + (commandBytes args).length ≤ 255
    omega
  change (buildCommand args inst).temp.slice 0 _ = _
  rw [buildCommand_eq, hframe, slice_temp_storeTemp hfit, Memory.slice_store_self]

/-- A command whose data fits is built inside `TempData`. -/
theorem buildCommand_inside {args : CommandArgs UInt8} (inst : IpmiBmcInstanceData)
    (hargs : ¬ Rejected args) (hsize : args.commandDataSize.toNat ≤ 253) :
    ∃ tempData, buildCommand args inst = { inst with tempData := tempData } := by
  have hfit : 0 + (commandBytes args).length ≤ maxTempData := by
    rw [length_commandBytes hargs]
    change 0 + (args.commandDataSize.toNat + 2) ≤ 255
    omega
  rw [buildCommand_eq, storeTemp_eq hfit]
  exact ⟨_, rfl⟩

/-- The command data of a request. -/
def requestData (args : CommandArgs UInt32) : List UInt8 :=
  match args.commandData with
  | none => []
  | some commandData => commandData.slice 0 args.commandDataSize.toNat

/-- The framing of a command: what the status and the frames of a call have to be. -/
structure ProperlyFramed (args : CommandArgs UInt32) (status : EfiStatus)
    (tr : List TransportEvent) : Prop where
  /-- Every frame is the request, byte for byte. -/
  request : ∀ frame ∈ frames tr,
    frame = [(args.netFunction <<< 2) ||| args.lun, args.command] ++ requestData args ∧
      frame.length = args.commandDataSize.toNat + 2
  /-- Building a frame that is sent changes `TempData` only. -/
  inside : frames tr ≠ [] → ∀ inst, ∃ tempData,
    buildCommand args.narrow inst = { inst with tempData := tempData }
  /-- A request that does not fit is rejected. -/
  tooLong : 253 < args.commandDataSize.toNat → status ≠ .success ∧ frames tr = []

theorem toNat_narrow {args : CommandArgs UInt32} (h : args.commandDataSize.toNat ≤ 253) :
    args.narrow.commandDataSize.toNat = args.commandDataSize.toNat := by
  change args.commandDataSize.toUInt8.toNat = _
  rw [UInt32.toNat_toUInt8]
  exact Nat.mod_eq_of_lt (by omega)

/-- The frame of a request whose data fits. -/
theorem commandBytes_narrow {args : CommandArgs UInt32} (hlun : args.lun < 4)
    (h : args.commandDataSize.toNat ≤ 253) : commandBytes args.narrow =
      [(args.netFunction <<< 2) ||| args.lun, args.command] ++ requestData args := by
  have hmask : args.lun &&& 3 = args.lun := by
    apply UInt8.toNat_inj.1
    rw [UInt8.toNat_and]
    change args.lun.toNat &&& (2 ^ 2 - 1) = _
    rw [Nat.and_two_pow_sub_one_eq_mod]
    exact Nat.mod_eq_of_lt (UInt8.lt_iff_toNat_lt.1 hlun)
  change [(args.netFunction <<< 2) ||| (args.lun &&& 3), args.command] ++ _ = _
  rw [hmask, toNat_narrow h]
  rfl

/-- The frames of a call of the hook are those of `IpmiSendCommandInternal`. -/
theorem ipmiSendCommand_frames (maxRetries : UInt8) (uninit : Uninitialized)
    (args : CommandArgs UInt32) (st : CommandState UInt32) :
    (ipmiSendCommand maxRetries uninit args st).Satisfies True fun tr r =>
      (Rejected args.narrow → r.1 = .invalidParameter ∧ frames tr = []) ∧
        (¬ Rejected args.narrow →
          (∀ frame ∈ frames tr, ∃ inst, frame = commandFrame args.narrow inst) ∧
            (frames tr = [] ↔ maxRetries = 0) ∧ (maxRetries = 0 → r.1 = .success)) := by
  unfold ipmiSendCommand
  rw [satisfies_bind]
  refine (ipmiSendCommandInternal_frames maxRetries uninit args.narrow _).mono fun tr r h => ?_
  change _ ∧ _
  rwa [List.append_nil]

/-- **When a command is framed properly.**  The frames of a call are the request, and a request
that does not fit is rejected, if and only if the data has at most 253 bytes or the call is
rejected for its pointers. -/
theorem ipmiSendCommand_framed_iff {σ : Type} (bmc : Handler TransportCall TransportCall.Answer σ)
    {s s' : σ} {maxRetries : UInt8} {uninit : Uninitialized} {args : CommandArgs UInt32}
    {st st' : CommandState UInt32} {status : EfiStatus} {tr : List TransportEvent}
    (hlun : args.lun < 4)
    (h : (ipmiSendCommand maxRetries uninit args st).exec bmc s = some ((status, st'), tr, s')) :
    ProperlyFramed args status tr ↔
      args.commandDataSize.toNat ≤ 253 ∨ Rejected args.narrow := by
  obtain ⟨hreject, hsend⟩ := (ipmiSendCommand_frames maxRetries uninit args st).of_exec h
  by_cases hargs : Rejected args.narrow
  · obtain ⟨hstatus, hnone⟩ := hreject hargs
    refine iff_of_true ⟨by simp [hnone], fun hne => absurd hnone hne, fun _ => ⟨?_, hnone⟩⟩
      (.inr hargs)
    obtain rfl : status = .invalidParameter := hstatus
    decide
  obtain ⟨hframes, hempty, hsuccess⟩ := hsend hargs
  by_cases hsize : args.commandDataSize.toNat ≤ 253
  · have hnarrow : args.narrow.commandDataSize.toNat ≤ 253 := (toNat_narrow hsize).symm ▸ hsize
    refine iff_of_true ⟨fun frame hframe => ?_, fun _ inst => buildCommand_inside inst hargs hnarrow,
      fun hlong => absurd hsize (Nat.not_le.2 hlong)⟩ (.inl hsize)
    obtain ⟨inst, rfl⟩ := hframes frame hframe
    rw [commandFrame_eq inst hargs hnarrow]
    refine ⟨commandBytes_narrow hlun hsize, ?_⟩
    rw [length_commandBytes hargs, toNat_narrow hsize]
  · refine iff_of_false (fun hproper => ?_) (not_or.2 ⟨hsize, hargs⟩)
    -- nothing may be sent, but then the retry loop was not entered and the call has succeeded
    obtain ⟨hfail, hnone⟩ := hproper.tooLong (Nat.lt_of_not_le hsize)
    exact hfail (hsuccess (hempty.1 hnone))

/-- A request with zeros as its data. -/
def zerosRequest (commandDataSize : UInt32) : CommandArgs UInt32 where
  netFunction := 0x06
  lun := 0
  command := 0x52
  commandData := some fun _ => 0
  commandDataSize
  responseData := .null
  hasResponseDataSize := false

/-- The state before a request without a response buffer. -/
def idleState : CommandState UInt32 := ⟨idleInstance, fun _ => 0, 0⟩

/-- Of a request with 256 bytes of data only the header is sent. -/
theorem ipmiSendCommand_not_framed : ¬ ∀ status st' tr s',
    (ipmiSendCommand 1 ⟨0, fun _ => 0⟩ (zerosRequest 256) idleState).exec
        (scripted fun _ => .silent) 0 = some ((status, st'), tr, s') →
      ProperlyFramed (zerosRequest 256) status tr := by
  intro h
  have hrun : ((ipmiSendCommand 1 ⟨0, fun _ => 0⟩ (zerosRequest 256) idleState).exec
      (scripted fun _ => .silent) 0).map (fun r => frames r.2.1) = some [[0x18, 0x52]] := by decide
  obtain ⟨⟨⟨status, st'⟩, tr, s'⟩, hexec, hframes⟩ := Option.map_eq_some_iff.1 hrun
  have hnone := ((h status st' tr s' hexec).tooLong (by decide)).2
  rw [hnone] at hframes
  cases hframes

theorem ipmiSendCommand_framed_iff_short : ∃ status st' tr s',
    (ipmiSendCommand 1 ⟨0, fun _ => 0⟩ (zerosRequest 3) idleState).exec
        (scripted fun _ => .silent) 0 = some ((status, st'), tr, s') ∧
      (ProperlyFramed (zerosRequest 3) status tr ↔
        (zerosRequest 3).commandDataSize.toNat ≤ 253 ∨ Rejected (zerosRequest 3).narrow) := by
  have hrun : ((ipmiSendCommand 1 ⟨0, fun _ => 0⟩ (zerosRequest 3) idleState).exec
      (scripted fun _ => .silent) 0).map (fun r => r.1.1) = some .timeout := by decide
  obtain ⟨⟨⟨status, st'⟩, tr, s'⟩, hexec, -⟩ := Option.map_eq_some_iff.1 hrun
  exact ⟨status, st', tr, s', hexec, ipmiSendCommand_framed_iff _ (by decide) hexec⟩

end Generic

end IpmiFeature
