import IpmiFeature.CommandLib.Basic
import IpmiFeature.Generic.Exchange

/-!
# The command library over the generic driver

Every wrapper makes at most one call of `IpmiSubmitCommand` and returns its status
(`Wrapper.run_eq`).  Over `IpmiBaseLibDxe` and `IpmiSendCommand`:

* `Wrapper.run_accepts_iff` : a wrapper that chooses the response size accepts every response that
  fits its response type, except `IpmiGetSystemInterfaceCapabilities`, which passes the size of the
  request.
* `Wrapper.run_delivers_iff` : what the BMC has answered is in the caller's object, and nothing else
  has changed, except with `IpmiGetSensorThreshold`, whose response overwrites its parameter.
-/

namespace IpmiFeature

open Interaction Prog BaseLib Generic

namespace CommandLib

/-! ### The call of a wrapper -/

/-- The call of `IpmiSubmitCommand` that a wrapper makes, if it makes one. -/
def Wrapper.submitted (w : Wrapper) (sizes : MdeSizes) (c : Caller) : Option BufferedCall :=
  match w.run (m := Except BufferedCall) .error sizes c with
  | .error command => some command
  | .ok _ => none

/-- What a wrapper makes of what its call has left behind. -/
def Wrapper.answered (w : Wrapper) (sizes : MdeSizes) (c : Caller) (result : SubmitResult) :
    EfiStatus × Caller :=
  (w.run (m := ReaderM SubmitResult) (fun _ => read) sizes c).run result

variable {w : Wrapper} {sizes : MdeSizes} {c : Caller}

theorem answered_getSystemUuid (hnull : c.hasNull = false) (result : SubmitResult) :
    Wrapper.answered .getSystemUuid sizes c result =
      if result.status.isError then (result.status, c)
      else (result.status,
        { c with response := c.response.store 0 (convertedGuid result.buffer) }) := by
  obtain ⟨hasNull, request, requestSize, response, responseSize, parameter, stack⟩ := c
  obtain rfl : hasNull = false := hnull
  by_cases herr : result.status.isError
  · exact (congrFun (if_pos herr) result).trans (if_pos herr).symm
  · exact (congrFun (if_neg herr) result).trans (if_neg herr).symm

/-- A wrapper makes one call, unless a pointer that it checks is `NULL`. -/
theorem Wrapper.run_eq {m : Type → Type} [Monad m] (submit : BufferedCall → m SubmitResult) :
    w.run submit sizes c =
      match w.submitted sizes c with
      | some command => submit command >>= fun result => pure (w.answered sizes c result)
      | none => pure (.invalidParameter, c) := by
  by_cases huuid : w = .getSystemUuid ∧ c.hasNull = false
  · obtain ⟨rfl, hnull⟩ := huuid
    have hanswered := @answered_getSystemUuid sizes _ hnull
    obtain ⟨hasNull, request, requestSize, response, responseSize, parameter, stack⟩ := c
    obtain rfl : hasNull = false := hnull
    change submit _ >>= _ = submit _ >>= _
    refine congrArg _ (funext fun result => ?_)
    rw [hanswered]
    by_cases herr : result.status.isError
    · rw [if_pos herr, if_pos herr]
    · rw [if_neg herr, if_neg herr]
  · obtain ⟨hasNull, request, requestSize, response, responseSize, parameter, stack⟩ := c
    cases hasNull with
    | true => cases w <;> rfl
    | false => cases w <;> first | rfl | exact absurd ⟨rfl, rfl⟩ huuid

/-- It returns the status of the call. -/
theorem Wrapper.answered_status {command : BufferedCall} (h : w.submitted sizes c = some command)
    (result : SubmitResult) : (w.answered sizes c result).1 = result.status := by
  by_cases huuid : w = .getSystemUuid ∧ c.hasNull = false
  · obtain ⟨rfl, hnull⟩ := huuid
    rw [answered_getSystemUuid hnull]
    split_ifs <;> rfl
  · obtain ⟨hasNull, request, requestSize, response, responseSize, parameter, stack⟩ := c
    cases hasNull with
    | true => cases w <;> first | rfl | exact absurd h (Option.some_ne_none _).symm
    | false => cases w <;> first | rfl | exact absurd ⟨rfl, rfl⟩ huuid

/-! ### Sizes -/

/-- The size of the type that a wrapper fills, if it chooses the response size itself. -/
def Wrapper.sizeofResponse (sizes : MdeSizes) : Wrapper → Option UInt32
  | .getDeviceId => some (sizes.size .getDeviceIdResponse)
  | .getSelfTestResult => some (sizes.size .selfTestResultResponse)
  | .getWatchdogTimer => some (sizes.size .getWatchdogTimerResponse)
  | .getBmcGlobalEnables => some (sizes.size .getBmcGlobalEnablesResponse)
  | .getMessageFlags => some (sizes.size .getMessageFlagsResponse)
  | .getSystemUuid => some (sizes.size .getDeviceGuidResponse)
  | .getSystemInterfaceCapabilities => some sizeofCapabilityResponse
  | .getChannelInfo => some (sizes.size .getChannelInfoResponse)
  | .getFruInventoryAreaInfo => some (sizes.size .getFruInventoryAreaInfoResponse)
  | .writeFruData => some (sizes.size .writeFruDataResponse)
  | .getSelInfo => some (sizes.size .getSelInfoResponse)
  | .addSelEntry => some (sizes.size .addSelEntryResponse)
  | .partialAddSelEntry => some (sizes.size .partialAddSelEntryResponse)
  | .clearSel => some (sizes.size .clearSelResponse)
  | .getSelTime => some (sizes.size .getSelTimeResponse)
  | .getSdrRepositoryInfo => some (sizes.size .getSdrRepositoryInfoResponse)
  | .getChassisCapabilities => some (sizes.size .getChassisCapabilitiesResponse)
  | .getChassisStatus => some (sizes.size .getChassisStatusResponse)
  | .setPowerRestorePolicy => some (sizes.size .setPowerRestorePolicyResponse)
  | .setSystemBootOptions => some (sizes.size .setBootOptionsResponse)
  | .getSystemBootOptions => some (sizes.size .getBootOptionsResponse)
  | .getSensorThreshold => some (sizes.size .sensorGetSensorThresholdResponseData)
  -- a completion code
  | .resetWatchdogTimer | .setWatchdogTimer | .setBmcGlobalEnables | .clearMessageFlags
  | .setSelTime | .solActivating | .setSolConfigurationParameters | .chassisControl
  | .setSensorThreshold => some 1
  -- the size is the caller's
  | .getMessage | .sendMessage | .readFruData | .getSelEntry | .getSdr
  | .getSolConfigurationParameters | .getLanConfigurationParameters => none

/-- The size that a wrapper passes on. -/
def Wrapper.passedSize (w : Wrapper) (size : UInt32) : UInt32 :=
  if w = .getSystemInterfaceCapabilities then sizeofCapabilityRequest else size

theorem Wrapper.exists_submitted {size : UInt32} (h : w.sizeofResponse sizes = some size)
    (hnull : c.hasNull = false) : ∃ command, w.submitted sizes c = some command ∧
      command.call.responseDataSize = w.passedSize size := by
  obtain ⟨hasNull, request, requestSize, response, responseSize, parameter, stack⟩ := c
  obtain rfl : hasNull = false := hnull
  cases w <;> cases h <;> exact ⟨_, rfl, rfl⟩

theorem Wrapper.passedSize_lt {size : UInt32} (h : w.sizeofResponse sizes = some size) :
    (w.passedSize size).toNat < 256 := by
  have hsize : size.toNat < 256 := by
    cases w <;> cases h <;> first | exact sizes.size_lt _ | exact (by decide)
  unfold passedSize
  split_ifs
  · exact (by decide)
  · exact hsize

/-! ### Over the generic driver -/

/-- `IpmiSubmitCommand` of `IpmiBaseLibDxe`. -/
def dxeSubmit (maxRetries : UInt8) (locateProtocol : EfiStatus) (uninit : Uninitialized)
    (command : BufferedCall) : StateT DxeState TransportProg SubmitResult := fun st =>
  dxeSubmitCommand maxRetries locateProtocol uninit command st

section

variable {maxRetries : UInt8} {locateProtocol : EfiStatus} {uninit : Uninitialized}
  {command : BufferedCall} {st : DxeState} {τ : Type}
  {h : Handler TransportCall TransportCall.Answer τ} {s s₁ s₂ : τ} {received : Reply receiveSize}
  {r : Response}

/-- A command that is answered at once. -/
theorem ends_dxeSubmitCommand_matched (hretries : maxRetries ≠ 0)
    (hlocated : st.located ∨ locateProtocol = .success)
    (hsize : command.call.responseDataSize.toNat < 256)
    (hexchanged : Exchanged h s s₁ s₂ (commandFrame (submitArgs command.call).narrow st.inst) received)
    (hr : received.response = some r)
    (hmatches : r.Matches (submitArgs command.call).narrow) :
    (dxeSubmitCommand maxRetries locateProtocol uninit command st).Ends h s fun x _ =>
      x.1.status = if r.payload.length ≤ command.call.responseDataSize.toNat then .success
        else .bufferTooSmall := by
  have hlocate : ¬ (¬ st.located ∧ locateProtocol.isError) := by
    rintro ⟨hnot, herr⟩
    exact EfiStatus.isError_iff.1 herr (hlocated.resolve_left hnot)
  rw [dxeSubmitCommand, if_neg hlocate, ends_bind]
  have hcheck : ∀ retryCnt, checkReply (submitArgs command.call).narrow retryCnt received
      ⟨buildCommand (submitArgs command.call).narrow st.inst, command.buffer,
        byteOf command.call.responseDataSize 0⟩ =
      .done (settle (submitArgs command.call).narrow r
        ⟨afterResponse (submitArgs command.call).narrow r st.inst, command.buffer,
          byteOf command.call.responseDataSize 0⟩) := by
    intro retryCnt
    have hresponse : checkReply (submitArgs command.call).narrow retryCnt received
        ⟨buildCommand (submitArgs command.call).narrow st.inst, command.buffer,
          byteOf command.call.responseDataSize 0⟩ =
        afterAttempt (submitArgs command.call).narrow retryCnt r
          ⟨st.inst, command.buffer, byteOf command.call.responseDataSize 0⟩ :=
      checkReply_of_response ⟨st.inst, command.buffer, byteOf command.call.responseDataSize 0⟩ hr
    exact hresponse.trans (if_neg fun hskipped => hskipped.2 hmatches)
  refine ends_ipmiSendCommand hretries (not_rejected_submitArgs _) hexchanged hcheck
    fun status st' hfinish => ?_
  change status = _
  have hlong : r.TooLong (submitArgs command.call).narrow (byteOf command.call.responseDataSize 0) ↔
      ¬ r.payload.length ≤ command.call.responseDataSize.toNat := by
    rw [Response.TooLong, toNat_byteOf_of_lt hsize, Nat.not_le]
    exact and_iff_right rfl
  unfold settle at hfinish
  by_cases hfits : r.payload.length ≤ command.call.responseDataSize.toNat
  · rw [if_neg fun htoo => hlong.1 htoo hfits] at hfinish
    rw [if_pos hfits]
    exact (congrArg Prod.fst hfinish).symm
  · rw [if_pos (hlong.2 hfits)] at hfinish
    rw [if_neg hfits]
    exact (congrArg Prod.fst hfinish).symm

theorem dxeSubmit_run_eq (hcommand : w.submitted sizes c = some command) :
    (w.run (dxeSubmit maxRetries locateProtocol uninit) sizes c).run st =
      dxeSubmitCommand maxRetries locateProtocol uninit command st >>= fun x =>
        pure (w.answered sizes c x.1, x.2) := by
  rw [Wrapper.run_eq, hcommand]
  rfl

/-- **Every wrapper accepts its own response**, except one.  A response to the wrapper's command
that fits its response type gives `EFI_SUCCESS`, unless the wrapper is
`IpmiGetSystemInterfaceCapabilities` and the payload is longer than the request. -/
theorem Wrapper.run_accepts_iff {size : UInt32} (hsize : w.sizeofResponse sizes = some size)
    (hnull : c.hasNull = false) (hcommand : w.submitted sizes c = some command)
    (hretries : maxRetries ≠ 0) (hlocated : st.located ∨ locateProtocol = .success)
    (hexchanged : Exchanged h s s₁ s₂ (commandFrame (submitArgs command.call).narrow st.inst) received)
    (hr : received.response = some r) (hmatches : r.Matches (submitArgs command.call).narrow)
    (hfits : r.payload.length + 1 ≤ size.toNat) :
    ((w.run (dxeSubmit maxRetries locateProtocol uninit) sizes c).run st).Ends h s fun x _ =>
      x.1.1 = .success ↔ (w = .getSystemInterfaceCapabilities → r.payload.length ≤ 1) := by
  obtain ⟨command', hcommand', hpassed⟩ := Wrapper.exists_submitted hsize hnull
  obtain rfl : command' = command := Option.some.inj (hcommand'.symm.trans hcommand)
  have hlt : command'.call.responseDataSize.toNat < 256 := by
    rw [hpassed]
    exact Wrapper.passedSize_lt hsize
  rw [dxeSubmit_run_eq hcommand, ends_bind]
  refine (ends_dxeSubmitCommand_matched hretries hlocated hlt hexchanged hr hmatches).mono
    fun x s' hx => ?_
  change (w.answered sizes c x.1).1 = .success ↔ _
  rw [Wrapper.answered_status hcommand, hx, hpassed]
  unfold Wrapper.passedSize
  by_cases hcapabilities : w = .getSystemInterfaceCapabilities
  · rw [if_pos hcapabilities]
    have hone : sizeofCapabilityRequest.toNat = 1 := rfl
    rw [hone]
    by_cases hle : r.payload.length ≤ 1
    · rw [if_pos hle]
      exact iff_of_true rfl fun _ => hle
    · rw [if_neg hle]
      exact iff_of_false EfiStatus.noConfusion fun hall => hle (hall hcapabilities)
  · rw [if_neg hcapabilities, if_pos (Nat.le_of_succ_le hfits)]
    exact iff_of_true rfl fun h => absurd h hcapabilities

/-! ### What is delivered -/

/-- What a command leaves behind, given its answer. -/
theorem ipmiSendCommand_answered {args : CommandArgs UInt32} {inst : IpmiBmcInstanceData}
    {buffer : Memory UInt8} {dataSize : UInt32} (hargs : ¬ Rejected args.narrow)
    (hptr : args.narrow.responseData = .caller) :
    (ipmiSendCommand maxRetries uninit args ⟨inst, buffer, dataSize⟩).Satisfies True fun tr x =>
      ∀ r, answerOf tr = some r →
        (r.payload.length ≤ (byteOf dataSize 0).toNat → x.1 = .success) ∧
          (x.1 = .success → x.2.responseData = buffer.store 0 (compCodeNormal :: r.payload)) := by
  by_cases hretries : maxRetries.toNat = 0
  · rw [ipmiSendCommand, satisfies_bind, ipmiSendCommandInternal_of_not_rejected hargs, hretries]
    intro r hr
    cases hr
  have hptr' : args.narrow.responseData ≠ .null := by
    rw [hptr]
    exact ResponsePtr.noConfusion
  have hsized := hasResponseDataSize_of_not_rejected hargs hptr'
  rw [ipmiSendCommand, satisfies_bind, ipmiSendCommandInternal_of_not_rejected hargs, satisfies_bind]
  refine (retryLoop_outcome hretries).mono fun tr x hx => ?_
  change ∀ r, answerOf (tr ++ [] ++ []) = some r → _
  rw [List.append_nil, List.append_nil]
  intro r hr
  obtain ⟨-, hx⟩ := hx
  rw [hr] at hx
  obtain ⟨hlen, inst', hx⟩ := hx
  have hlong : r.TooLong args.narrow (byteOf dataSize 0) ↔
      ¬ r.payload.length ≤ (byteOf dataSize 0).toNat := by
    rw [Response.TooLong, Nat.not_le]
    exact and_iff_right hsized
  by_cases hskipped : r.Skipped args.narrow (byteOf dataSize 0)
  · rw [if_pos hskipped] at hx
    subst hx
    exact ⟨fun hfits => absurd hfits (hlong.1 hskipped.1), fun hne => EfiStatus.noConfusion hne⟩
  rw [if_neg hskipped] at hx
  unfold settle at hx
  by_cases hfits : r.payload.length ≤ (byteOf dataSize 0).toNat
  · rw [if_neg fun htoo => hlong.1 htoo hfits] at hx
    subst hx
    refine ⟨fun _ => rfl, fun _ => ?_⟩
    exact (finishCommand_delivers uninit inst' ⟨inst, buffer, byteOf dataSize 0⟩ hptr' hargs
      hlen).caller hptr
  · rw [if_pos (hlong.2 hfits)] at hx
    subst hx
    exact ⟨fun h => absurd h hfits, fun hne => EfiStatus.noConfusion hne⟩

theorem dxeSubmitCommand_answered :
    (dxeSubmitCommand maxRetries locateProtocol uninit command st).Satisfies True fun tr x =>
      ∀ r, answerOf tr = some r →
        (r.payload.length ≤ (byteOf command.call.responseDataSize 0).toNat → x.1.status = .success) ∧
          (x.1.status = .success →
            x.1.buffer = command.buffer.store 0 (compCodeNormal :: r.payload)) := by
  unfold dxeSubmitCommand
  split_ifs
  · intro r hr
    cases hr
  · rw [satisfies_bind]
    refine (ipmiSendCommand_answered (not_rejected_submitArgs _) rfl).mono fun tr x hx => ?_
    change ∀ r, answerOf (tr ++ []) = some r → _
    rw [List.append_nil]
    exact hx

/-- The reply is in the caller's object, and the rest of the caller's memory is as before; the first
`cleared` bytes of the object may be zero. -/
structure DeliveredTo (cleared : ℕ) (c c' : Caller) (reply : List UInt8) : Prop where
  /-- The object starts with the reply. -/
  starts : c'.response.slice 0 reply.length = reply
  /-- The rest of the object, and what follows it. -/
  rest : ∀ i, reply.length ≤ i → c'.response i = c.response i ∨ i < cleared ∧ c'.response i = 0
  /-- The request. -/
  request_eq : c'.request = c.request ∧ c'.requestSize = c.requestSize
  /-- The pointer parameter and what follows it on the stack. -/
  parameter_eq : c'.parameter = c.parameter

/-- The bytes that a wrapper clears first. -/
def Wrapper.cleared (w : Wrapper) (sizes : MdeSizes) : ℕ :=
  if w = .getSensorThreshold then (sizes.size .sensorGetSensorThresholdResponseData).toNat else 0

/-- The memory happens to hold already what `IpmiGetSensorThreshold` should change, and what it does
change. -/
def Coincides (sizes : MdeSizes) (c : Caller) (reply : List UInt8) : Prop :=
  let size := (sizes.size .sensorGetSensorThresholdResponseData).toNat
  c.response.slice 0 reply.length = reply ∧
    c.parameter.slice 0 size = reply ++ List.replicate (size - reply.length) 0

/-- Where a wrapper puts the response. -/
theorem Wrapper.answered_eq (hcommand : w.submitted sizes c = some command)
    (huuid : w ≠ .getSystemUuid) (hsensor : w ≠ .getSensorThreshold) (result : SubmitResult) :
    command.buffer = c.response ∧ ∃ responseSize,
      (w.answered sizes c result).2 =
        { c with response := result.buffer, responseSize := responseSize } := by
  obtain ⟨hasNull, request, requestSize, response, responseSize, parameter, stack⟩ := c
  cases hasNull with
  | true => cases w <;> first | (cases hcommand; done) | (cases hcommand; exact ⟨rfl, _, rfl⟩)
  | false =>
    cases w <;> first
      | (cases hcommand; exact ⟨rfl, _, rfl⟩)
      | exact absurd rfl huuid
      | exact absurd rfl hsensor

/-- `IpmiGetSensorThreshold` puts the response over its parameter. -/
theorem answered_getSensorThreshold
    (hcommand : Wrapper.getSensorThreshold.submitted sizes c = some command) (result : SubmitResult) :
    command.buffer = c.parameter.store 0
        (List.replicate (sizes.size .sensorGetSensorThresholdResponseData).toNat 0) ∧
      command.call.responseDataSize = sizes.size .sensorGetSensorThresholdResponseData ∧
        (Wrapper.getSensorThreshold.answered sizes c result).2 =
          { c with parameter := result.buffer } := by
  obtain ⟨hasNull, request, requestSize, response, responseSize, parameter, stack⟩ := c
  cases hasNull with
  | true => cases hcommand
  | false =>
    cases hcommand
    exact ⟨rfl, rfl, rfl⟩

/-- Where the response buffer is the caller's object, the response is delivered. -/
theorem deliveredTo_response (cleared : ℕ) (reply : List UInt8) (responseSize : UInt32) :
    DeliveredTo cleared c
      { c with response := c.response.store 0 reply, responseSize := responseSize } reply where
  starts := Memory.slice_store_self 0 reply
  rest i hi := .inl (Memory.store_of_le (by omega))
  request_eq := ⟨rfl, rfl⟩
  parameter_eq := rfl

/-- Where it is the parameter, the response is delivered by coincidence only. -/
theorem deliveredTo_parameter_iff {reply : List UInt8}
    (hfits : reply.length ≤ (sizes.size .sensorGetSensorThresholdResponseData).toNat) (cleared : ℕ) :
    DeliveredTo cleared c { c with parameter := (c.parameter.store 0 (List.replicate
        (sizes.size .sensorGetSensorThresholdResponseData).toNat 0)).store 0 reply } reply ↔
      Coincides sizes c reply := by
  have hparameter : (c.parameter.store 0 (List.replicate
      (sizes.size .sensorGetSensorThresholdResponseData).toNat 0)).store 0 reply = c.parameter ↔
        c.parameter.slice 0 (sizes.size .sensorGetSensorThresholdResponseData).toNat =
          reply ++ List.replicate
            ((sizes.size .sensorGetSensorThresholdResponseData).toNat - reply.length) 0 := by
    rw [Memory.store_store_of_ge (by rwa [List.length_replicate]), List.drop_replicate,
      Memory.store_zero_eq_self_iff, List.length_append, List.length_replicate,
      Nat.add_sub_cancel' hfits]
  constructor
  · intro h
    exact ⟨h.starts, hparameter.1 h.parameter_eq⟩
  · rintro ⟨hstarts, hcoincides⟩
    exact ⟨hstarts, fun i _ => .inl rfl, ⟨rfl, rfl⟩, hparameter.2 hcoincides⟩

/-- When a wrapper succeeds with an answer that fits, the caller has it. -/
def DeliversAnswer (w : Wrapper) (sizes : MdeSizes) (c : Caller) (answer : Option Response)
    (status : EfiStatus) (c' : Caller) : Prop :=
  status = .success → ∀ r command, answer = some r → w.submitted sizes c = some command →
    r.payload.length + 1 ≤ command.call.responseDataSize.toNat →
      DeliveredTo (w.cleared sizes) c c' (compCodeNormal :: r.payload)

/-- **What a wrapper delivers.**  In every run the answer of the BMC, if it fits, is in the caller's
object and nothing else of the caller's has changed, unless the wrapper is `IpmiGetSensorThreshold`
and the memory does not happen to hold the answer already. -/
theorem Wrapper.run_delivers_iff (huuid : w ≠ .getSystemUuid) :
    ((w.run (dxeSubmit maxRetries locateProtocol uninit) sizes c).run st).Satisfies True fun tr x =>
      DeliversAnswer w sizes c (answerOf tr) x.1.1 x.1.2 ↔
        (w = .getSensorThreshold → ∀ r command, answerOf tr = some r →
          w.submitted sizes c = some command →
            r.payload.length + 1 ≤ command.call.responseDataSize.toNat →
              Coincides sizes c (compCodeNormal :: r.payload)) := by
  cases hcommand : w.submitted sizes c with
  | none =>
    rw [Wrapper.run_eq, hcommand]
    refine iff_of_true (fun hsuccess => EfiStatus.noConfusion hsuccess) ?_
    intro _ r command hr
    cases hr
  | some command =>
  rw [dxeSubmit_run_eq hcommand, satisfies_bind]
  refine dxeSubmitCommand_answered.mono fun tr x hx => ?_
  change DeliversAnswer w sizes c (answerOf (tr ++ [])) (w.answered sizes c x.1).1
    (w.answered sizes c x.1).2 ↔ _
  rw [List.append_nil, Wrapper.answered_status hcommand]
  unfold DeliversAnswer
  by_cases hsensor : w = .getSensorThreshold
  · subst hsensor
    obtain ⟨hbuffer, hsize, hanswered⟩ := answered_getSensorThreshold hcommand x.1
    rw [hanswered]
    -- an answer that fits is delivered to the parameter
    have hsuccess : ∀ r, answerOf tr = some r → r.payload.length + 1 ≤
        command.call.responseDataSize.toNat → x.1.status = .success ∧
          x.1.buffer = (c.parameter.store 0 (List.replicate
            (sizes.size .sensorGetSensorThresholdResponseData).toNat 0)).store 0
              (compCodeNormal :: r.payload) := by
      intro r hr hfits
      have hroom : (byteOf command.call.responseDataSize 0).toNat =
          command.call.responseDataSize.toNat :=
        toNat_byteOf_of_lt (by rw [hsize]; exact sizes.size_lt _)
      obtain ⟨hok, hstored⟩ := hx r hr
      have hstatus := hok (by rw [hroom]; omega)
      rw [hstored hstatus, hbuffer]
      exact ⟨hstatus, rfl⟩
    constructor
    · rintro h - r command' hr hcommand' hfits
      obtain rfl := Option.some.inj hcommand'
      obtain ⟨hstatus, hstored⟩ := hsuccess r hr hfits
      have hdelivered := h hstatus r command hr hcommand hfits
      rw [hstored] at hdelivered
      rw [hsize] at hfits
      have hlength : (compCodeNormal :: r.payload).length ≤
        (sizes.size .sensorGetSensorThresholdResponseData).toNat := hfits
      exact (deliveredTo_parameter_iff hlength _).1 hdelivered
    · rintro h - r command' hr hcommand' hfits
      obtain rfl := Option.some.inj (hcommand'.symm.trans hcommand)
      obtain ⟨-, hstored⟩ := hsuccess r hr hfits
      have hcoincides := h rfl r command' hr rfl hfits
      rw [hstored]
      rw [hsize] at hfits
      have hlength : (compCodeNormal :: r.payload).length ≤
        (sizes.size .sensorGetSensorThresholdResponseData).toNat := hfits
      exact (deliveredTo_parameter_iff hlength _).2 hcoincides
  · obtain ⟨hbuffer, responseSize, hanswered⟩ := Wrapper.answered_eq hcommand huuid hsensor x.1
    refine iff_of_true (fun hstatus r command' hr hcommand' hfits => ?_) fun h => absurd h hsensor
    rw [hanswered, (hx r hr).2 hstatus, hbuffer]
    exact deliveredTo_response _ _ _

/-- A caller with zeros everywhere. -/
def zeroCaller : Caller := ⟨false, fun _ => 0, 0, fun _ => 0, 0, fun _ => 0, fun _ => 0⟩

theorem Wrapper.run_accepts_iff_selfTest :
    ((Wrapper.getSelfTestResult.run (dxeSubmit 1 .success ⟨0, fun _ => 0⟩) specSizes zeroCaller).run
        ⟨false, idleInstance⟩).Ends (scripted fun _ => .ofReply [0x1C, 0x04, 0x00, 0x55, 0x00]) 0
      fun x _ => x.1.1 = .success ↔
        (Wrapper.getSelfTestResult = .getSystemInterfaceCapabilities → [0x55, 0x00].length ≤ 1) :=
  Wrapper.run_accepts_iff (show _ = some (3 : UInt32) from rfl) rfl rfl (by decide) (.inr rfl)
    ⟨fun _ _ _ => rfl, fun _ => rfl⟩ (r := ⟨0x1C, 0x04, [0x55, 0x00]⟩) (by decide)
    (by decide) (by decide)

/-- The response with the capabilities of an SSIF interface is too long for
`IpmiGetSystemInterfaceCapabilities`, whose response type it fills. -/
theorem getSystemInterfaceCapabilities_bufferTooSmall :
    (((Wrapper.getSystemInterfaceCapabilities.run (dxeSubmit 1 .success ⟨0, fun _ => 0⟩) specSizes
        zeroCaller).run ⟨false, idleInstance⟩).exec
          (scripted fun _ => .ofReply [0x1C, 0x57, 0x00, 0x00, 0x00, 0xFF, 0xFF]) 0).map
      (·.1.1.1) = some .bufferTooSmall := by
  decide

theorem Wrapper.run_delivers_iff_selfTest :
    ((Wrapper.getSelfTestResult.run (dxeSubmit 1 .success ⟨0, fun _ => 0⟩) specSizes zeroCaller).run
        ⟨false, idleInstance⟩).Satisfies True fun tr x =>
      DeliversAnswer .getSelfTestResult specSizes zeroCaller (answerOf tr) x.1.1 x.1.2 ↔
        (Wrapper.getSelfTestResult = .getSensorThreshold → ∀ r command, answerOf tr = some r →
          Wrapper.getSelfTestResult.submitted specSizes zeroCaller = some command →
            r.payload.length + 1 ≤ command.call.responseDataSize.toNat →
              Coincides specSizes zeroCaller (compCodeNormal :: r.payload)) :=
  Wrapper.run_delivers_iff (by decide)

/-- The thresholds of a sensor. -/
def thresholds : Response := ⟨0x14, 0x27, [0x3F, 10, 5, 2, 80, 90, 95]⟩

/-- `IpmiGetSensorThreshold` succeeds and the caller's object is as before. -/
theorem getSensorThreshold_not_delivered : ∃ x tr s',
    ((Wrapper.getSensorThreshold.run (dxeSubmit 1 .success ⟨0, fun _ => 0⟩) specSizes zeroCaller).run
        ⟨false, idleInstance⟩).exec (scripted fun _ => .ofReply thresholds.bytes) 0 =
          some (x, tr, s') ∧ x.1.1 = .success ∧
      ¬ DeliversAnswer .getSensorThreshold specSizes zeroCaller (answerOf tr) x.1.1 x.1.2 := by
  have hrun : (((Wrapper.getSensorThreshold.run (dxeSubmit 1 .success ⟨0, fun _ => 0⟩) specSizes
      zeroCaller).run ⟨false, idleInstance⟩).exec (scripted fun _ => .ofReply thresholds.bytes) 0).map
        (fun y => (y.1.1.1, y.1.1.2.response 1, answerOf y.2.1)) =
      some (.success, 0, some thresholds) := by decide
  obtain ⟨⟨x, tr, s'⟩, hexec, heq⟩ := Option.map_eq_some_iff.1 hrun
  simp only [Prod.mk.injEq] at heq
  obtain ⟨hstatus, hresponse, hanswer⟩ := heq
  refine ⟨x, tr, s', hexec, hstatus, fun hdelivers => ?_⟩
  have hstarts := (hdelivers hstatus thresholds _ hanswer rfl (by decide)).starts
  have hone : x.1.2.response 1 = 0x3F := congrArg (fun l : List UInt8 => l.getD 1 0) hstarts
  rw [hresponse] at hone
  exact absurd hone (by decide)

end

end CommandLib

end IpmiFeature
