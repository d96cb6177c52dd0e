import IpmiFeature.BaseLib.Stack
import IpmiFeature.Mock.Agreement

/-!
# The mock BMC behind the real transports

What the host-based tests say about the machine.  The mock BMC is a `Processor` too (`mockProcess`), so
it can stand behind the KCS registers and the SMBus.  A program over `IpmiBaseLibMock` has the same
result over the whole stack, on either transport, and the mock BMC ends in the same state, unless a
command is refused: the mock library returns success then, and the generic driver an error
(`mockBaseLib_stack`).
-/

namespace IpmiFeature

open Interaction Prog BaseLib Generic

namespace Mock

/-- `MockIpmiCommand` and `MockIpmiResponse`, as a BMC: where they fail an `ASSERT`, this one answers
with an error. -/
def mockProcess : Processor Bmc := fun command bmc =>
  match mockIpmiCommand command bmc >>= mockIpmiResponse receiveSize with
  | some answer => answer
  | none => ([0x04, 0, 0xFF], bmc)

/-- The mock BMC has completed the command, whose response size `IpmiBaseLibDxe` passes on as a
`UINT8`. -/
def completed (request : BufferedCall) (result : SubmitResult) : Bool :=
  decide (request.call.responseDataSize.toNat < 256 ∧ result.buffer 0 = compCodeNormal)

variable {α : Type} {bmc bmc' : Bmc} {call : SubmitCall} {header command code : UInt8}
  {payload : List UInt8}

theorem Answered.mockProcess_eq {bmc₁ : Bmc} {request : BufferedCall}
    (h : Answered request.call bmc bmc₁ bmc' header command code payload) :
    mockProcess request.request bmc = (header :: command :: code :: payload, bmc') := by
  unfold mockProcess BufferedCall.request
  rw [h.command_eq, Option.bind_eq_bind, Option.bind_some, h.response_eq]

/-- What `IpmiBaseLibMock` does with a command that is completed, the mock BMC does behind the generic
driver. -/
theorem executeCall_mockProcess {request : BufferedCall} {bmcStatus : UInt32} {result : SubmitResult}
    (hmock : mockCall request bmc = some (result, bmc')) (hcompleted : completed request result) :
    executeCall mockProcess request (bmcStatus, bmc) = some (result, bmcOk, bmc') := by
  obtain ⟨hroom, hnormal⟩ := of_decide_eq_true hcompleted
  simp only [mockCall, Option.bind_eq_bind, Option.bind_eq_some_iff] at hmock
  obtain ⟨⟨reply, bmc₂⟩, hreply, h⟩ := hmock
  cases h
  obtain ⟨bmc₁, header, command, code, payload, hanswered, rfl⟩ := mockSubmitCommand_answered hreply
  have hlen := hanswered.length_payload_le
  have hcode : code = compCodeNormal := by
    have hpos : 0 < (code :: payload).length := Nat.succ_pos _
    have hread : request.buffer.store 0 (code :: payload) (0 + 0) = code := Memory.store_of_mem hpos
    exact hread.symm.trans hnormal
  subst hcode
  exact executeCall_answered hanswered.length_le hroom hanswered.mockProcess_eq hanswered.fits
    (by omega)

/-! ### The responses -/

theorem responseHeader_ne_zero (netFunction spare : UInt8) :
    (netFunction ||| 1) <<< 2 ||| spare &&& 3 ≠ 0 := by
  intro h
  -- the function of a response is odd
  have hbit : ((netFunction ||| 1) <<< 2 ||| spare &&& 3).toBitVec.getLsbD 2 = true := by simp
  rw [h] at hbit
  simp at hbit

theorem mockIpmiCommand_header {request : List UInt8} (h : mockIpmiCommand request bmc = some bmc') :
    bmc'.response 0 ≠ 0 := by
  have hrespond : ∀ (netFunction command : UInt8) (state : BmcState) (response : List UInt8),
      (Bmc.respond { bmc.prepare netFunction command with state } response).response 0 ≠ 0 := by
    intro netFunction command state response
    have hheader : (Memory.store (bmc.prepare netFunction command).response 2 response) 0 =
        (netFunction ||| 1) <<< 2 ||| bmc.response 0 &&& 3 :=
      Memory.store_of_lt (show 0 < 2 by decide)
    exact fun hzero => responseHeader_ne_zero _ _ (hheader.symm.trans hzero)
  unfold mockIpmiCommand at h
  split at h
  · dsimp only at h
    split_ifs at h
    split at h
    · cases h
      exact hrespond _ _ (Bmc.state _) _
    · split at h
      · cases h
      · split_ifs at h
        cases h
        exact hrespond _ _ _ _
  · cases h

/-- The responses of the mock BMC can be carried over the SMBus: none starts like the first block of a
multi-part message. -/
theorem carries_mockProcess (request : List UInt8) (bmc : Bmc) :
    Ssif.Carries (Ssif.standardFraming (mockProcess request bmc).1) (mockProcess request bmc).1 := by
  unfold mockProcess
  split
  · rename_i answer hanswer
    rw [Option.bind_eq_bind, Option.bind_eq_some_iff] at hanswer
    obtain ⟨bmc₁, hcommand, hresponse⟩ := hanswer
    have hsize := mockIpmiCommand_size hcommand
    unfold mockIpmiResponse at hresponse
    split_ifs at hresponse with hready
    have hle : bmc₁.responseSize.toNat ≤ 252 := UInt8.le_iff_toNat_le.1 hready.2.2.1
    cases hresponse
    refine Ssif.carries_standardFraming ?_ ?_ fun _ hstart => ?_
    · rw [Memory.length_slice]
      omega
    · rw [Memory.length_slice]
      omega
    · obtain ⟨n, hn⟩ := Nat.exists_eq_add_of_le' (show 1 ≤ bmc₁.responseSize.toNat by omega)
      rw [hn, Memory.slice_succ] at hstart
      exact mockIpmiCommand_header hcommand (List.cons_prefix_cons.1 hstart).1.symm
  · exact Ssif.carries_standardFraming (show 2 ≤ 3 by decide) (show 3 < 256 by decide)
      fun _ => show ¬ [0, 1] <+: [0x04, 0, 0xFF] by decide

/-! ### Programs -/

/-- **The mock stands for the machine.**  Any program over `IpmiBaseLibMock` that fails no `ASSERT`, and
none of whose commands is refused, has the same result over KCS and over SSIF, and leaves the mock BMC
in the same state. -/
theorem mockBaseLib_stack {period : UInt64} {fw : Kcs.Firmware period} {s : Kcs.Slave}
    {dev : Ssif.Device Bmc} {fuel : ℕ} {maxRetries : UInt8} {uninit : Uninitialized}
    {p : CommandProg α} {st : DxeState} {Q : α → Bmc → Prop} (hfuel : period.toNat < fuel)
    (hfuel' : 256 < fuel) (stack before : Memory UInt8) (hretries : maxRetries ≠ 0)
    (hperiod : st.inst.ipmiTimeoutPeriod = period)
    (hs : s.AtRest (fw.running mockProcess dev.state))
    (hp : p.Completes (confined completed mockCall) dev.state Q) :
    ((kcsStack fuel before maxRetries uninit p st).Ends (fw.executing mockProcess) (s, dev.state)
        fun r t => Q r.1 t.2) ∧
      (ssifStack fuel stack before maxRetries uninit p st).Ends
        (Ssif.device mockProcess Ssif.standardFraming) dev fun r dev' => Q r.1 dev'.state := by
  have hexecutes : p.Completes (executeCall mockProcess) (st.inst.bmcStatus, dev.state) fun a t =>
      Q a t.2 := by
    refine (hp.transfer (fun bmc t => t.2 = bmc) ?_ rfl).mono ?_
    · rintro request bmc ⟨bmcStatus, _⟩ result bmc' rfl hcall
      obtain ⟨hmock, hcompleted⟩ := confined_eq_some.1 hcall
      exact ⟨(bmcOk, bmc'), executeCall_mockProcess hmock hcompleted, rfl⟩
    · rintro a ⟨bmcStatus, bmc⟩ ⟨_, hQ, rfl⟩
      exact hQ
  refine ⟨?_, ssifStack_executes hfuel' stack before hretries carries_mockProcess hexecutes⟩
  exact (kcsStack_executes hfuel (by omega) before hretries hperiod hs hexecutes).mono
    fun _ _ h => h.1

/-- The watchdog is armed, if the BMC can be asked for its identity. -/
def armWatchdog : CommandProg EfiStatus := do
  let deviceId : SubmitResult ← perform (plainCommand netfnApp appGetDeviceId)
  if deviceId.status = .success then
    let reset : SubmitResult ← perform (plainCommand netfnApp appResetWatchdogTimer)
    return reset.status
  else
    return deviceId.status

theorem mockBaseLib_stack_watchdog :
    ((kcsStack 40001 (fun _ => 0) 1 ⟨0, fun _ => 0⟩ armWatchdog freshLibrary).Ends
        (promptFirmware.executing mockProcess) (promptStart, (freshDevice initialBmc).state)
          fun r t => r.1 = .success ∧ t.2.state.watchdog.timerRunning = true) ∧
      (ssifStack 40001 (fun _ => 0) (fun _ => 0) 1 ⟨0, fun _ => 0⟩ armWatchdog freshLibrary).Ends
        (Ssif.device mockProcess Ssif.standardFraming) (freshDevice initialBmc)
          fun r dev' => r.1 = .success ∧ dev'.state.state.watchdog.timerRunning = true := by
  have hfuel : (40000 : UInt64).toNat < 40001 := Nat.lt_succ_self 40000
  have hfuel' : 256 < 40001 := by decide
  have hretries : (1 : UInt8) ≠ 0 := by decide
  have hperiod : freshLibrary.inst.ipmiTimeoutPeriod = 40000 := rfl
  have hrest : promptStart.AtRest
      (promptFirmware.running mockProcess (freshDevice initialBmc).state) := ⟨rfl, rfl, by decide⟩
  have hprogram : armWatchdog.Completes (confined completed mockCall) (freshDevice initialBmc).state
      fun a bmc => a = .success ∧ bmc.state.watchdog.timerRunning = true :=
    ⟨_, _, rfl, _, _, rfl, rfl, rfl⟩
  with_reducible
    exact mockBaseLib_stack hfuel hfuel' (fun _ => 0) (fun _ => 0) hretries hperiod hrest hprogram

end Mock

end IpmiFeature
