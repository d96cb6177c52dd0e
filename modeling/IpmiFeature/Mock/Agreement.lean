import IpmiFeature.BaseLib.Commands
import IpmiFeature.Mock.Basic

/-!
# The two mock stacks

The same commands over `IpmiBaseLibMock`, and over `IpmiBaseLibDxe`, the generic driver and
`IpmiTransportLibMock`.  The mock BMC goes through the same states.  What the two callers see is the
same as long as the BMC does not refuse a command; the generic driver turns a completion code into
an error and keeps the response to itself (`dxeSubmitCommands_agree`).
-/

namespace IpmiFeature

open Interaction Prog BaseLib Generic

namespace Mock

/-! ### Runs over `IpmiBaseLibMock` -/

/-- One call, with the buffer of the caller. -/
def mockCall (request : BufferedCall) (bmc : Bmc) : Option (SubmitResult × Bmc) := do
  let (reply, bmc) ← mockSubmitCommand request.call bmc
  return (request.result reply, bmc)

/-- One call after the other. -/
def mockSubmitCommands : List BufferedCall → Bmc → Option (List SubmitResult × Bmc)
  | [], bmc => some ([], bmc)
  | request :: requests, bmc => do
    let (reply, bmc) ← mockSubmitCommand request.call bmc
    let (results, bmc) ← mockSubmitCommands requests bmc
    return (request.result reply :: results, bmc)

/-! ### The responses of the handlers -/

/-- The responses of a handler are short. -/
def MockHandler.Short (handler : MockHandler) : Prop :=
  ∀ data response bmc bytes bmc', handler data response bmc = some (bytes, bmc') → bytes.length ≤ 19

theorem mockHandlers_short : ∀ entry ∈ mockHandlers, entry.handler.Short := by
  simp only [mockHandlers, List.forall_mem_cons]
  refine ⟨?_, ?_, ?_, ?_, ?_, ?_, ?_, ?_, ?_, ?_, ?_, ?_, ?_, nofun⟩
  · rintro data response bmc _ _ ⟨⟩
    decide
  · rintro data response bmc _ _ ⟨⟩
    decide
  · rintro data response bmc _ _ ⟨⟩
    simp
  · intro data response bmc bytes bmc' h
    unfold mockIpmiSelAddEntry at h
    split_ifs at h <;> cases h <;> simp
  · rintro data response bmc _ _ ⟨⟩
    simp
  · intro data response bmc bytes bmc' h
    unfold mockIpmiSelSetTime at h
    split_ifs at h
    cases h
    simp
  · intro data response bmc bytes bmc' h
    unfold mockIpmiSelClear at h
    dsimp only at h
    split_ifs at h <;> cases h <;> simp
  · intro data response bmc bytes bmc' h
    unfold mockIpmiSelGetEntry at h
    dsimp only at h
    split_ifs at h <;> cases h <;> simp [length_event]
  · rintro data response bmc _ _ ⟨⟩
    simp
  · intro data response bmc bytes bmc' h
    unfold mockIpmiSetWatchdog at h
    dsimp only at h
    split_ifs at h
    cases h
    simp
  · rintro data response bmc _ _ ⟨⟩
    simp
  · intro data response bmc bytes bmc' h
    unfold mockIpmiSetSystemBootOptions at h
    dsimp only at h
    split_ifs at h <;> cases h <;> simp
  · intro data response bmc bytes bmc' h
    unfold mockIpmiGetSystemBootOptions at h
    dsimp only at h
    split_ifs at h <;> cases h <;> simp [BootOption.BootFlags.bytes]

/-- A response holds a header and a completion code. -/
theorem mockIpmiCommand_size {command : List UInt8} {bmc bmc' : Bmc}
    (h : mockIpmiCommand command bmc = some bmc') : 3 ≤ bmc'.responseSize.toNat := by
  have hrespond : ∀ (bmc : Bmc) (response : List UInt8), response ≠ [] → response.length ≤ 19 →
      3 ≤ (bmc.respond response).responseSize.toNat := by
    intro bmc response hne hlen
    have hpos := List.length_pos_iff.2 hne
    have hsize : (UInt8.ofNat (2 + response.length)).toNat = 2 + response.length :=
      UInt8.toNat_ofNat_of_lt' (show 2 + response.length < 256 by omega)
    change 3 ≤ (UInt8.ofNat (2 + response.length)).toNat
    omega
  rcases command with _ | ⟨header, _ | ⟨command, data⟩⟩
  · cases h
  · cases h
  unfold mockIpmiCommand at h
  dsimp only at h
  split_ifs at h
  cases hhandler : handlerOf (header >>> 2) command with
  | none =>
    rw [hhandler] at h
    cases h
    exact hrespond _ _ (by simp) (by simp)
  | some handler =>
    obtain ⟨entry, hentry, rfl⟩ := Option.map_eq_some_iff.1 hhandler
    have hshort := mockHandlers_short entry (List.mem_of_find?_eq_some hentry)
    rw [hhandler] at h
    dsimp only at h
    split at h
    · cases h
    · rename_i response state hrun
      split_ifs at h with hnil
      cases h
      exact hrespond _ _ hnil (hshort _ _ _ _ _ hrun)

variable {maxRetries : UInt8} {uninit : Uninitialized} {request : BufferedCall} {bmc bmc' : Bmc}
  {reply : SubmitReply} {header command code : UInt8} {payload : List UInt8}

/-- What has happened when a command has been answered, seen from either library. -/
structure Answered (call : SubmitCall) (bmc bmc₁ bmc' : Bmc) (header command code : UInt8)
    (payload : List UInt8) : Prop where
  length_le : call.commandData.length ≤ 253
  command_eq : mockIpmiCommand (call.netFunction <<< 2 :: call.command :: call.commandData) bmc =
    some bmc₁
  /-- The generic driver has room for one byte less than `IpmiBaseLibMock`. -/
  response_eq : mockIpmiResponse receiveSize bmc₁ = some (header :: command :: code :: payload, bmc')
  length_payload_le : payload.length ≤ 249
  fits : payload.length + 1 ≤ call.responseDataSize.toNat

theorem mockSubmitCommand_answered {call : SubmitCall}
    (h : mockSubmitCommand call bmc = some (reply, bmc')) :
    ∃ bmc₁ header command code payload, Answered call bmc bmc₁ bmc' header command code payload ∧
      reply = ⟨.success, code :: payload, UInt32.ofNat (payload.length + 1)⟩ := by
  unfold mockSubmitCommand at h
  split_ifs at h with hlong
  simp only [Option.bind_eq_bind, Option.bind_eq_some_iff] at h
  obtain ⟨bmc₁, hcommand, ⟨response, bmc₂⟩, hresponse, h⟩ := h
  dsimp only at h
  split_ifs at h with hfits
  simp only [Option.pure_def, Option.some.injEq, Prod.mk.injEq] at h
  obtain ⟨rfl, rfl⟩ := h
  unfold mockIpmiResponse at hresponse
  split_ifs at hresponse with hready
  simp only [Option.some.injEq, Prod.mk.injEq] at hresponse
  obtain ⟨rfl, rfl⟩ := hresponse
  have hsize := mockIpmiCommand_size hcommand
  have hle : bmc₁.responseSize.toNat ≤ 252 := UInt8.le_iff_toNat_le.1 hready.2.2.1
  have hready' : bmc₁.responseValid ∧ bmc₁.responseSize ≠ 0 ∧ bmc₁.responseSize ≤ 252 ∧
      receiveSize > bmc₁.responseSize :=
    ⟨hready.1, hready.2.1, hready.2.2.1,
      UInt8.lt_iff_toNat_lt.2 (show bmc₁.responseSize.toNat < 254 by omega)⟩
  have hlen := Memory.length_slice (m := bmc₁.response) 0 bmc₁.responseSize.toNat
  have hreceived : mockIpmiResponse receiveSize bmc₁ = some (bmc₁.response.slice 0
      bmc₁.responseSize.toNat, { bmc₁ with response := fun _ => 0, responseValid := false }) :=
    if_pos hready'
  generalize bmc₁.response.slice 0 bmc₁.responseSize.toNat = response at hlen hreceived hfits ⊢
  rcases response with _ | ⟨header, _ | ⟨command, _ | ⟨code, payload⟩⟩⟩
  · simp only [List.length_nil] at hlen
    omega
  · simp only [List.length_cons, List.length_nil] at hlen
    omega
  · simp only [List.length_cons, List.length_nil] at hlen
    omega
  · simp only [List.length_cons] at hlen hfits
    exact ⟨bmc₁, header, command, code, payload,
      ⟨Nat.not_lt.1 hlong, hcommand, hreceived, by omega, by omega⟩, rfl⟩

/-! ### What the generic driver makes of an answer -/

/-- What the caller finds over the generic driver where it finds `mock` over `IpmiBaseLibMock`, and
the `BmcStatus` after the call. -/
def onGeneric (bmcStatus : UInt32) (request : BufferedCall) (mock : SubmitResult) :
    SubmitResult × UInt32 :=
  let code := mock.buffer 0
  if code = compCodeNormal then
    (mock, bmcOk)
  else
    (⟨refusal bmcStatus code, request.buffer, request.call.responseDataSize⟩,
      refusedStatus bmcStatus code)

/-- What the caller finds over the generic driver, one call after the other. -/
def allOnGeneric : UInt32 → List BufferedCall → List SubmitResult → List SubmitResult
  | bmcStatus, request :: requests, mock :: mocks =>
    let (result, bmcStatus) := onGeneric bmcStatus request mock
    result :: allOnGeneric bmcStatus requests mocks
  | _, _, _ => []

/-- The command over `IpmiTransportLibMock`. -/
theorem Answered.exchanged {call : SubmitCall} {bmc₁ : Bmc}
    (h : Answered call bmc bmc₁ bmc' header command code payload) (inst : IpmiBmcInstanceData) :
    ∃ received : Reply receiveSize, received.status = .success ∧
      received.data = header :: command :: code :: payload ∧
      Exchanged mockTransportLib (some bmc) (some bmc₁) (some bmc')
        (commandFrame (submitArgs call).narrow inst) received := by
  have hlen := h.length_payload_le
  have htake : (header :: command :: code :: payload).take receiveSize.toNat =
      header :: command :: code :: payload := by
    refine List.take_of_length_le (show payload.length + 3 ≤ 254 by omega)
  refine ⟨⟨.success, (header :: command :: code :: payload).take receiveSize.toNat,
    List.length_take_le _ _⟩, rfl, htake, fun period data hdata => ?_, fun period => ?_⟩
  · refine Handler.halting_of_some ?_
    rw [commandFrame_submitArgs inst h.length_le] at hdata
    change (mockIpmiCommand data.bytes bmc).map _ = _
    rw [hdata, h.command_eq]
    rfl
  · refine Handler.halting_of_some ?_
    change (mockIpmiResponse receiveSize bmc₁).map _ = _
    rw [h.response_eq]
    rfl

/-- One command. -/
theorem dxeSubmitCommand_agrees {st : DxeState} (hretries : maxRetries ≠ 0)
    (hroom : request.call.responseDataSize.toNat < 256)
    (hmock : mockSubmitCommand request.call bmc = some (reply, bmc')) :
    (dxeSubmitCommand maxRetries .success uninit request st).Ends mockTransportLib (some bmc)
      fun x s' => s' = some bmc' ∧
        (x.1, x.2.inst.bmcStatus) = onGeneric st.inst.bmcStatus request (request.result reply) := by
  obtain ⟨bmc₁, header, command, code, payload, hanswered, rfl⟩ := mockSubmitCommand_answered hmock
  obtain ⟨received, hstatus, hdata, hexchanged⟩ := hanswered.exchanged st.inst
  have hargs := not_rejected_submitArgs request.call
  have hcode : (request.result
      ⟨.success, code :: payload, UInt32.ofNat (payload.length + 1)⟩).buffer 0 = code := by
    have hpos : 0 < (code :: payload).length := Nat.succ_pos _
    have hread : request.buffer.store 0 (code :: payload) (0 + 0) = code := Memory.store_of_mem hpos
    exact hread
  have hlocated : ¬ (¬ st.located ∧ EfiStatus.success.isError) := fun h => absurd h.2 (by decide)
  rw [dxeSubmitCommand, if_neg hlocated, ends_bind, onGeneric, hcode]
  dsimp only
  by_cases hnormal : code = compCodeNormal
  · subst hnormal
    have hr : received.response = some ⟨header, command, payload⟩ :=
      Reply.response_eq_some_iff.2 ⟨hstatus, hdata⟩
    refine (ends_ipmiSendCommand_delivered hretries hargs rfl hroom hexchanged hr
      hanswered.fits).mono ?_
    rintro ⟨status, st'⟩ _ ⟨rfl, rfl, hbuffer, hsize, hbmcStatus⟩
    refine ⟨rfl, ?_⟩
    rw [if_pos rfl]
    dsimp only at hbuffer hsize hbmcStatus ⊢
    rw [hbuffer, hsize, hbmcStatus]
    rfl
  · have hsize : (submitArgs request.call).narrow.commandDataSize.toNat ≤ 253 := by
      rw [size_submitArgs hanswered.length_le]
      exact hanswered.length_le
    refine (ends_ipmiSendCommand_refused hretries hargs hsize hroom hexchanged hstatus hdata
      hnormal).mono ?_
    rintro ⟨status, st'⟩ _ ⟨rfl, rfl, hbuffer, hsize, hbmcStatus⟩
    refine ⟨rfl, ?_⟩
    rw [if_neg hnormal]
    dsimp only at hbuffer hsize hbmcStatus ⊢
    rw [hbuffer, hsize, hbmcStatus, updateErrorStatus_bmcStatus, refusedStatus]

/-- For every sequence of commands that `IpmiBaseLibMock` carries out, the generic stack leaves the
mock BMC in the same state.  A command with completion code 0 has the same status, response and
size; a refused one fails there, with what the caller handed in left alone. -/
theorem dxeSubmitCommands_agree {requests : List BufferedCall} {results : List SubmitResult}
    (uninit : Uninitialized) (st : DxeState) (hretries : maxRetries ≠ 0)
    (hroom : ∀ request ∈ requests, request.call.responseDataSize.toNat < 256)
    (hmock : mockSubmitCommands requests bmc = some (results, bmc')) :
    (dxeSubmitCommands maxRetries .success uninit requests st).Ends mockTransportLib (some bmc)
      fun x s' => s' = some bmc' ∧ x.1 = allOnGeneric st.inst.bmcStatus requests results := by
  induction requests generalizing bmc results st with
  | nil =>
    cases hmock
    exact ⟨rfl, rfl⟩
  | cons request requests ih =>
    simp only [mockSubmitCommands, Option.bind_eq_bind, Option.bind_eq_some_iff] at hmock
    obtain ⟨⟨reply, bmc₁⟩, hfirst, ⟨results', bmc₂⟩, hrest, h⟩ := hmock
    cases h
    have hroom' := List.forall_mem_cons.1 hroom
    rw [dxeSubmitCommands, ends_bind]
    refine (dxeSubmitCommand_agrees hretries hroom'.1 hfirst).mono ?_
    rintro ⟨result, st'⟩ _ ⟨rfl, hagrees⟩
    rw [ends_bind]
    refine (ih st' hroom'.2 hrest).mono ?_
    rintro ⟨results, st''⟩ _ ⟨rfl, rfl⟩
    refine ⟨rfl, ?_⟩
    rw [allOnGeneric, ← hagrees]

/-- A command without data. -/
def plainCommand (netFunction command : UInt8) : BufferedCall :=
  ⟨⟨netFunction, command, [], 255⟩, fun _ => 0⟩

/-- The mock BMC does not know command 2: over `IpmiBaseLibMock` the call succeeds, over the generic
driver it fails. -/
theorem dxeSubmitCommands_status_ne :
    (mockSubmitCommands [plainCommand netfnApp 0x02] initialBmc).map (·.1.map (·.status)) =
        some [.success] ∧
      (dxeSubmitCommands 1 .success ⟨0, fun _ => 0⟩ [plainCommand netfnApp 0x02]
          freshLibrary).Ends mockTransportLib (some initialBmc) fun x _ =>
        x.1.map (·.status) = [.deviceError] := by
  refine ⟨by decide, ?_⟩
  have hrun : ((dxeSubmitCommands 1 .success ⟨0, fun _ => 0⟩ [plainCommand netfnApp 0x02]
      freshLibrary).exec mockTransportLib (some initialBmc)).map
        (fun run => run.1.1.map (·.status)) = some [.deviceError] := by decide
  obtain ⟨⟨x, tr, s'⟩, hexec, hstatus⟩ := Option.map_eq_some_iff.1 hrun
  exact ends_iff_exec.2 ⟨x, tr, s', hexec, hstatus⟩

theorem dxeSubmitCommands_agree_deviceId : ∃ results bmc',
    mockSubmitCommands [plainCommand netfnApp appGetDeviceId, plainCommand netfnApp 0x02] initialBmc =
        some (results, bmc') ∧
      (dxeSubmitCommands 3 .success ⟨0, fun _ => 0⟩
          [plainCommand netfnApp appGetDeviceId, plainCommand netfnApp 0x02]
          freshLibrary).Ends mockTransportLib (some initialBmc) fun x s' =>
        s' = some bmc' ∧ x.1 = allOnGeneric freshLibrary.inst.bmcStatus
          [plainCommand netfnApp appGetDeviceId, plainCommand netfnApp 0x02] results := by
  have hsome : (mockSubmitCommands [plainCommand netfnApp appGetDeviceId,
      plainCommand netfnApp 0x02] initialBmc).isSome := by decide
  have hretries : (3 : UInt8) ≠ 0 := by decide
  have hroom : ∀ request ∈ [plainCommand netfnApp appGetDeviceId, plainCommand netfnApp 0x02],
      request.call.responseDataSize.toNat < 256 := by decide
  obtain ⟨⟨results, bmc'⟩, hmock⟩ := Option.isSome_iff_exists.1 hsome
  have hagree := dxeSubmitCommands_agree ⟨0, fun _ => 0⟩ freshLibrary hretries hroom hmock
  exact ⟨results, bmc', hmock, hagree⟩

end Mock

end IpmiFeature
