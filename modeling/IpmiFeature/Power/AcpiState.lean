import IpmiFeature.Power.RestorePolicy

/-!
# The ACPI power state

`BmcAcpiPowerStateSmm.c`, which tells the BMC when the operating system takes over and when the system
goes to S5, over a base library.  Whatever callbacks could be registered and in whatever order the
events come, the BMC is left with the state of the last event that has been told to it with success
(`callbacks_run`).

What the locals of a callback hold at first is the parameter `stack`.
-/

namespace IpmiFeature

open Interaction Prog Generic BaseLib

namespace Power

/-! ### The driver -/

/-- A power state of the system and one of the devices. -/
structure AcpiPowerState where
  system : UInt8
  device : UInt8
  deriving DecidableEq, Repr

/-- `IPMI_SYSTEM_POWER_STATE_S0_G0` and `IPMI_DEVICE_POWER_STATE_D0`. -/
def workingState : AcpiPowerState := ⟨0x00, 0x00⟩

/-- `IPMI_SYSTEM_POWER_STATE_S5_G2` and `IPMI_DEVICE_POWER_STATE_D3`. -/
def softOffState : AcpiPowerState := ⟨0x05, 0x03⟩

/-- A byte of `IPMI_SET_ACPI_POWER_STATE_REQUEST`: `StateChange` is set, above `PowerState`. -/
def stateChange (powerState : UInt8) : UInt8 := 0x80 ||| (powerState &&& 0x7F)

/-- `SetBmcAcpiPowerState`.  Nothing looks at the completion code. -/
def setBmcAcpiPowerState (stack : Memory UInt8) (state : AcpiPowerState) : CommandProg EfiStatus := do
  let result : SubmitResult ← perform
    ⟨⟨netfnApp, appSetAcpiPowerstate, [stateChange state.system, stateChange state.device], 1⟩, stack⟩
  return result.status

/-- `BmcAcpiPowerStateS5EntryCallBack`. -/
def bmcAcpiPowerStateS5EntryCallBack (stack : Memory UInt8) : CommandProg EfiStatus :=
  setBmcAcpiPowerState stack softOffState

/-- `BmcAcpiPowerStateExitBootServicesCallback`. -/
def bmcAcpiPowerStateExitBootServicesCallback (stack : Memory UInt8) : CommandProg EfiStatus :=
  setBmcAcpiPowerState stack workingState

/-- The callbacks that are registered. -/
structure Callbacks where
  s5Entry : Bool
  exitBootServices : Bool
  deriving DecidableEq, Repr

/-- The statuses of the services of SMM. -/
structure SmmServices where
  /-- `SmmLocateProtocol`. -/
  locateSxDispatch : EfiStatus
  /-- `SxDispatch->Register`. -/
  register : EfiStatus
  /-- `SmmRegisterProtocolNotify`. -/
  registerNotify : EfiStatus

/-- `InitializeBmcAcpiPowerStateSmm`; `gSmst` may be `NULL`. -/
def initializeBmcAcpiPowerStateSmm (gSmst : Option SmmServices) : EfiStatus × Callbacks :=
  match gSmst with
  | none => (.unsupported, ⟨false, false⟩)
  | some smst =>
    if smst.locateSxDispatch.isError then
      (smst.locateSxDispatch, ⟨false, false⟩)
    else
      -- the status of the first registration is printed and overwritten
      (smst.registerNotify, ⟨¬ smst.register.isError, ¬ smst.registerNotify.isError⟩)

/-! ### The events -/

/-- What happens once the driver has been started. -/
inductive SmmEvent where
  | exitBootServices
  | s5Entry
  deriving DecidableEq, Repr

/-- The callback of an event. -/
def SmmEvent.callback (stack : Memory UInt8) : SmmEvent → CommandProg EfiStatus
  | exitBootServices => bmcAcpiPowerStateExitBootServicesCallback stack
  | s5Entry => bmcAcpiPowerStateS5EntryCallBack stack

/-- The callback of the event is registered. -/
def Callbacks.registered (callbacks : Callbacks) : SmmEvent → Bool
  | .exitBootServices => callbacks.exitBootServices
  | .s5Entry => callbacks.s5Entry

/-- An event, with what its callback returns if it is registered. -/
def Callbacks.dispatch (callbacks : Callbacks) (stack : Memory UInt8) (event : SmmEvent) :
    CommandProg (Option EfiStatus) :=
  if callbacks.registered event then
    some <$> event.callback stack
  else
    return none

/-- The state that an event is about. -/
def SmmEvent.state : SmmEvent → AcpiPowerState
  | exitBootServices => workingState
  | s5Entry => softOffState

/-- The state after an event, with what its callback has returned. -/
def afterEvent (current : AcpiPowerState) (event : SmmEvent × Option EfiStatus) : AcpiPowerState :=
  if event.2 = some .success then event.1.state else current

/-- The state after some events. -/
def lastTold (current : AcpiPowerState) (events : List (SmmEvent × Option EfiStatus)) :
    AcpiPowerState := events.foldl afterEvent current

/-! ### The BMC -/

variable {σ : Type} {process : Processor σ} {acpi : σ → AcpiPowerState} {x : σ}

/-- A BMC that can be told of the two states. -/
def Listens (process : Processor σ) (acpi : σ → AcpiPowerState) : Prop :=
  ∀ x (event : SmmEvent), Answers process acpi [netfnApp <<< 2, appSetAcpiPowerstate,
    stateChange event.state.system, stateChange event.state.device] x fun payload x' =>
      payload = [] ∧ acpi x' = event.state

section

variable (hlistens : Listens process acpi) (stack : Memory UInt8)
include hlistens

theorem setBmcAcpiPowerState_listens (event : SmmEvent) (s : UInt32 × σ) :
    (setBmcAcpiPowerState stack event.state).Completes (executeCall process) s fun status s' =>
      acpi s'.2 = if status = .success then event.state else acpi s.2 := by
  refine completes_bind.2 (completes_answers (show 2 ≤ 253 by decide)
    (show (1 : UInt32).toNat < 256 by decide) (hlistens s.2 event) ?_ ?_ ?_)
  · rintro payload x' ⟨rfl, -⟩
    exact Nat.le_refl 1
  · rintro payload size x' ⟨-, hstate⟩
    exact hstate.trans (if_pos rfl).symm
  · rintro status size bmcStatus' x' hstatus hstate
    exact hstate.trans (if_neg hstatus).symm

/-- One event.  A callback that is not registered sends nothing. -/
theorem dispatch_listens (callbacks : Callbacks) (event : SmmEvent) (s : UInt32 × σ) :
    (callbacks.dispatch stack event).Completes (executeCall process) s fun status s' =>
      acpi s'.2 = afterEvent (acpi s.2) (event, status) := by
  have hcallback : event.callback stack = setBmcAcpiPowerState stack event.state := by
    cases event <;> rfl
  rw [Callbacks.dispatch, hcallback]
  by_cases hregistered : callbacks.registered event = true
  · rw [if_pos hregistered]
    refine completes_bind.2 ((setBmcAcpiPowerState_listens hlistens stack event s).mono ?_)
    intro status s' hstate
    exact hstate.trans (if_congr Option.some_inj.symm rfl rfl)
  · rw [if_neg hregistered]
    exact (if_neg (by simp)).symm

end

/-- **The ACPI power state.**  The driver has registered what it could, and then the events come in any
order and any number, over the library of SMM, a transport and a BMC that can be told of its states.
Each callback returns, and the BMC is left with the state of the last event whose callback is registered
and has succeeded. -/
theorem callbacks_run {D τ : Type} {S : D → Type} {h : Handler D S τ}
    {transport : (call : TransportCall) → Prog D S call.Answer} {period : UInt64}
    {Rel : Link σ → τ → Prop} {maxRetries : UInt8} {uninit : Uninitialized} {handle : ℕ}
    {insts : Instances} {t : τ} (himpl : Implements process h transport period Rel)
    (hretries : maxRetries ≠ 0) (hperiod : (insts handle).ipmiTimeoutPeriod = period)
    (hlistens : Listens process acpi) (stack : Memory UInt8) (gSmst : Option SmmServices)
    (events : List SmmEvent) (ht : Rel ⟨x, none⟩ t) :
    ((((events.mapM ((initializeBmcAcpiPowerStateSmm gSmst).2.dispatch stack)).embed
      LibraryCall.ipmiSubmitCommand).through
        (cachingLibrary maxRetries uninit .smm fun _ => .ok handle) (0, none, insts)).above
          transport).Ends h t fun a t' => a.1.length = events.length ∧
            ∃ x', acpi x' = lastTold (acpi x) (events.zip a.1) ∧ Rel ⟨x', none⟩ t' := by
  refine (cachingLibrary_above himpl hretries hperiod ht (completes_mapM_foldl
    (fun s : UInt32 × σ => acpi s.2) afterEvent fun event _ s =>
      dispatch_listens hlistens stack _ event s)).mono ?_
  rintro a t' ⟨x', ⟨hlength, htold⟩, ht'⟩
  exact ⟨hlength, x', htold, ht'⟩

/-- A BMC that keeps what it is told, and refuses to be told the same again. -/
def acpiBmc : Processor AcpiPowerState
  | [0x18, 0x06, system, device], state =>
    if stateChange state.system = system ∧ stateChange state.device = device then
      ([0x1C, 0x06, 0xD5], state)
    else
      ([0x1C, 0x06, compCodeNormal], ⟨system &&& 0x7F, device &&& 0x7F⟩)
  | _, state => ([0x1C, 0x00, 0xC1], state)

theorem listens_acpiBmc : Listens acpiBmc id := by
  intro state event
  have hstate : (⟨stateChange event.state.system &&& 0x7F, stateChange event.state.device &&& 0x7F⟩ :
      AcpiPowerState) = event.state := by
    cases event <;> decide
  by_cases hsame : stateChange state.system = stateChange event.state.system ∧
      stateChange state.device = stateChange event.state.device
  · exact ⟨_, _, _, _, state, if_pos hsame, by decide, (if_neg (by decide)).mpr rfl⟩
  · exact ⟨_, _, _, _, _, if_neg hsame, by decide, (if_pos rfl).mpr ⟨rfl, hstate⟩⟩

/-- The operating system takes over, and goes to S5 twice. -/
def shutdownEvents : List SmmEvent := [.exitBootServices, .s5Entry, .s5Entry]

theorem callbacks_run_shutdown :
    ((((shutdownEvents.mapM ((initializeBmcAcpiPowerStateSmm
      (some ⟨.success, .success, .success⟩)).2.dispatch fun _ => 0xA5)).embed
        LibraryCall.ipmiSubmitCommand).through (cachingLibrary 1 ⟨0, fun _ => 0⟩ .smm fun _ => .ok 0)
          (0, none, idleInstances)).above (Kcs.transport 40001 fun _ => 0)).Ends
            (promptFirmware.executing acpiBmc) (promptStart, softOffState) fun a t =>
              a.1.length = shutdownEvents.length ∧ ∃ x',
                id x' = lastTold (id softOffState) (shutdownEvents.zip a.1) ∧
                  Kcs.Linked promptFirmware acpiBmc ⟨x', none⟩ t := by
  have hretries : (1 : UInt8) ≠ 0 := by decide
  have hperiod : (idleInstances 0).ipmiTimeoutPeriod = 40000 := rfl
  with_reducible
    exact callbacks_run (promptFirmware_implements acpiBmc) hretries hperiod listens_acpiBmc
      (fun _ => 0xA5) (some ⟨.success, .success, .success⟩) shutdownEvents
      (promptStart_linked acpiBmc softOffState)

end Power

end IpmiFeature
