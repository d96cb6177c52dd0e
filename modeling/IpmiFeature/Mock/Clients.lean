import IpmiFeature.BootOption.Order
import IpmiFeature.Mock.Isolation
import IpmiFeature.Sel.History
import IpmiFeature.Sel.Queries
import IpmiFeature.Watchdog.ReadyToBoot

/-!
# The libraries side by side

The event log library, the watchdog library with its two drivers, and the boot option library, as
clients of one mock BMC over `IpmiBaseLibMock`.  They make their calls in any order.  None of them
makes the mock BMC fail an `ASSERT`, and each has the results that it has alone
(`clients_undisturbed`).
-/

namespace IpmiFeature

open Interaction Prog BaseLib CommandLib BootOption

namespace Mock

/-! ### Calls that are answered -/

/-- The mock BMC answers the call in every state. -/
def Answerable (call : SubmitCall) : Prop :=
  call.commandData.length ≤ 253 ∧ ∀ state, ∃ response state',
    answerOf call state = some (response, state') ∧ response ≠ [] ∧
      response.length ≤ call.responseDataSize.toNat

/-- What a client of one part may call. -/
def Subsystem.Calls (i : Subsystem) (call : SubmitCall) : Prop := i.Owns call ∧ Answerable call

theorem Answerable.isSome {call : SubmitCall} (h : Answerable call) {bmc : Bmc} (hidle : bmc.Idle) :
    (mockSubmitCommand call bmc).isSome := by
  obtain ⟨response, state, hanswer, hne, hfits⟩ := h.2 bmc.state
  exact Option.isSome_iff_exists.2 ⟨_, (mockSubmitCommand_eq_some hidle).2
    ⟨h.1, response, state, hanswer, hne, hfits, rfl, rfl⟩⟩

/-- A call whose handler answers in every state. -/
theorem answerable_of_handler {call : SubmitCall} {handler : MockHandler}
    (hhandler : handlerOf (call.netFunction <<< 2 >>> 2) call.command = some handler)
    (hdata : call.commandData.length ≤ 253)
    (hrun : ∀ state, ∃ response state',
      handler call.commandData unanswered state = some (response, state') ∧ response ≠ [] ∧
        response.length ≤ call.responseDataSize.toNat) : Answerable call := by
  refine ⟨hdata, fun state => ?_⟩
  have hanswer : answerOf call state = handler call.commandData unanswered state := by
    unfold answerOf
    rw [hhandler]
  rw [hanswer]
  exact hrun state

theorem owns_of_partOf {i : Subsystem} {call : SubmitCall} (h : partOf call = some i) :
    i.Owns call := by
  intro j hj
  rw [h, Option.some.injEq] at hj
  exact hj.symm

/-! ### The event log -/

theorem owns_storage (command : UInt8) (data : List UInt8) (size : UInt32) :
    Subsystem.sel.Owns ⟨netfnStorage, command, data, size⟩ := by
  have hshift : netfnStorage <<< 2 >>> 2 = netfnStorage := by decide
  refine owns_of_partOf ?_
  unfold partOf ownerOf
  rw [hshift, if_pos rfl]

theorem calls_addSelEntry {entry : List UInt8} (hentry : entry.length = Sel.selEntrySize) :
    Subsystem.sel.Calls ⟨netfnStorage, storageAddSelEntry, entry, 3⟩ := by
  have hdata : entry.length ≤ 253 := by rw [hentry]; decide
  have hlen : ¬ entry.length < 16 := by rw [hentry]; decide
  have hhandler : handlerOf (netfnStorage <<< 2 >>> 2) storageAddSelEntry =
      some mockIpmiSelAddEntry := by rfl
  refine ⟨owns_storage _ _ _, answerable_of_handler hhandler hdata fun state => ?_⟩
  dsimp only
  unfold mockIpmiSelAddEntry
  rw [if_neg hlen]
  split_ifs
  · exact ⟨_, _, rfl, by simp, by simp⟩
  · exact ⟨_, _, rfl, by simp, by simp⟩

theorem calls_clearSel {erase : UInt8}
    (herase : erase = clearSelInitializeErase ∨ erase = clearSelGetEraseStatus) :
    Subsystem.sel.Calls ⟨netfnStorage, storageClearSel, [0, 0, 0x43, 0x4C, 0x52, erase], 2⟩ := by
  rcases herase with rfl | rfl
  · exact ⟨owns_storage _ _ _, by decide, fun state => ⟨_, _, rfl, by simp, by simp⟩⟩
  · exact ⟨owns_storage _ _ _, by decide, fun state => ⟨_, _, rfl, by simp, by simp⟩⟩

theorem calls_getSelTime : Subsystem.sel.Calls ⟨netfnStorage, storageGetSelTime, [], 5⟩ :=
  ⟨owns_storage _ _ _, by decide, fun state => ⟨_, _, rfl, by simp, by simp⟩⟩

theorem calls_setSelTime (time : UInt32) :
    Subsystem.sel.Calls ⟨netfnStorage, storageSetSelTime, (byteOf time).slice 0 4, 1⟩ := by
  have hlen : ¬ ((byteOf time).slice 0 4).length < 4 := by simp
  have hhandler : handlerOf (netfnStorage <<< 2 >>> 2) storageSetSelTime =
      some mockIpmiSelSetTime := by rfl
  refine ⟨owns_storage _ _ _, answerable_of_handler hhandler (by simp) fun state => ?_⟩
  dsimp only
  unfold mockIpmiSelSetTime
  rw [if_neg hlen]
  exact ⟨_, _, rfl, by simp, by simp⟩

theorem calls_getSelInfo : Subsystem.sel.Calls ⟨netfnStorage, storageGetSelInfo, [], 15⟩ :=
  ⟨owns_storage _ _ _, by decide, fun state => ⟨_, _, rfl, by simp, by simp⟩⟩

theorem calls_getSelEntry (recordId : UInt16) : Subsystem.sel.Calls
    ⟨netfnStorage, storageGetSelEntry, Sel.getEntryRequest recordId, 19⟩ := by
  have hdata : (Sel.getEntryRequest recordId).length ≤ 253 := show 6 ≤ 253 by decide
  have hhandler : handlerOf (netfnStorage <<< 2 >>> 2) storageGetSelEntry =
      some mockIpmiSelGetEntry := by rfl
  refine ⟨owns_storage _ _ _, answerable_of_handler hhandler hdata fun state => ?_⟩
  dsimp only
  rw [Sel.mockIpmiSelGetEntry_eq]
  by_cases hpresent : recordId.toNat < state.sel.nextRecordId.toNat
  · rw [dif_pos hpresent]
    exact ⟨_, _, rfl, by simp, by simp [length_event]⟩
  · rw [dif_neg hpresent]
    exact ⟨_, _, rfl, by simp, by simp⟩

theorem calls_query (query : Sel.Query) : Subsystem.sel.Calls query.call := by
  cases query with
  | getTime => exact calls_getSelTime
  | getInfo => exact calls_getSelInfo
  | getEntry recordId => exact calls_getSelEntry recordId

/-- A call with a buffer. -/
theorem within_submitBuffered {P : SubmitCall → Prop} {command : BufferedCall}
    (h : P command.call) : (submitBuffered command).Within P :=
  within_bind (within_perform h) fun _ => trivial

theorem within_ipmiAddSelEntry (stack : Memory UInt8) {entry : List UInt8}
    (hentry : entry.length = Sel.selEntrySize) :
    (Sel.ipmiAddSelEntry stack entry).Within Subsystem.sel.Calls :=
  within_bind (within_submitBuffered (calls_addSelEntry hentry)) fun _ => trivial

theorem within_selClear (stack : Memory UInt8) (fuel : ℕ) (awaitClear : Bool) :
    (Sel.selClear stack fuel awaitClear).Within Subsystem.sel.Calls := by
  refine within_loop (J := fun erase =>
    erase = clearSelInitializeErase ∨ erase = clearSelGetEraseStatus) (fun erase herase => ?_)
    (fun erase _ => ?_) fuel (.inl rfl)
  · refine within_bind (within_submitBuffered (calls_clearSel herase)) fun result => ?_
    split_ifs <;> trivial
  · intro reply
    -- the iteration goes on only to ask for the status
    change (if (Sel.statusOf _).isError = true then _ else _ : SubmitProg _).Satisfies True _
    split_ifs
    · exact fun _ h => nomatch h
    · exact fun _ h => nomatch h
    · rintro _ ⟨⟩
      exact .inr rfl

/-- The calls of the library that write to the log or use its clock. -/
theorem within_operation (stack : Memory UInt8) (fuel : ℕ) (operation : Sel.Operation) :
    (operation.run stack fuel).Within Subsystem.sel.Calls := by
  cases operation with
  | addSystemEntry =>
    exact within_map _ (within_ipmiAddSelEntry stack (Sel.Entry.system ..).length_bytes)
  | addOemEntryEx recordType manufacturerId data =>
    refine within_map _ ?_
    unfold Sel.selAddOemEntryEx
    split
    · rename_i manufacturerId data
      split_ifs
      · trivial
      · exact within_ipmiAddSelEntry stack (Sel.Entry.oem recordType manufacturerId data).length_bytes
    · trivial
  | addOemEntryNoTimestamp recordType data =>
    refine within_map _ ?_
    unfold Sel.selAddOemEntryNoTimestamp
    split_ifs
    · trivial
    · exact within_ipmiAddSelEntry stack (Sel.Entry.oemNonTimestamped recordType data).length_bytes
  | setTime time =>
    exact within_map _ (within_bind (within_submitBuffered (calls_setSelTime time)) fun _ => trivial)
  | getTime =>
    exact within_map _ (within_bind (within_submitBuffered calls_getSelTime) fun _ => trivial)
  | clear awaitClear => exact within_map _ (within_selClear stack fuel awaitClear)

/-- A call of the library. -/
inductive SelCall where
  | operation (operation : Sel.Operation)
  /-- With the objects of the caller. -/
  | query (query : Sel.Query) (outputs : Sel.Outputs)

/-- What it returns. -/
inductive SelCall.Result where
  | operation (outcome : Sel.Outcome)
  | query (status : EfiStatus) (outputs : Sel.Outputs)

def SelCall.run (stack : Memory UInt8) (fuel : ℕ) : SelCall → SubmitProg SelCall.Result
  | .operation x => .operation <$> x.run stack fuel
  | .query x outputs => (fun r => .query r.1 r.2) <$> x.run stack outputs

/-- The calls of the library. -/
theorem within_selCall (stack : Memory UInt8) (fuel : ℕ) (selCall : SelCall) :
    (selCall.run stack fuel).Within Subsystem.sel.Calls := by
  cases selCall with
  | operation operation => exact within_map _ (within_operation stack fuel operation)
  | query query outputs =>
    refine within_map _ ?_
    rw [Sel.Query.run_eq]
    exact within_bind (within_perform (calls_query query)) fun _ => trivial

/-! ### The watchdog -/

theorem owns_watchdog {command : UInt8}
    (hcommand : command ∈ [appGetWatchdogTimer, appSetWatchdogTimer, appResetWatchdogTimer])
    (data : List UInt8) (size : UInt32) :
    Subsystem.watchdog.Owns ⟨netfnApp, command, data, size⟩ := by
  have hshift : netfnApp <<< 2 >>> 2 = netfnApp := by decide
  refine owns_of_partOf ?_
  unfold partOf ownerOf
  rw [hshift, if_neg (by decide), if_neg (by decide), if_pos ⟨rfl, hcommand⟩]

theorem calls_getWatchdog : Subsystem.watchdog.Calls Watchdog.getCall :=
  ⟨owns_watchdog (by decide) _ _, by decide,
    fun state => ⟨_, _, rfl, by simp, by simp [Watchdog.getCall]⟩⟩

theorem calls_resetWatchdog : Subsystem.watchdog.Calls Watchdog.resetCall :=
  ⟨owns_watchdog (by decide) _ _, by decide,
    fun state => ⟨_, _, rfl, by simp, by simp [Watchdog.resetCall]⟩⟩

theorem calls_setWatchdog (timerUse timeoutAction flagsClear : UInt8) (countdown : UInt16) :
    Subsystem.watchdog.Calls (Watchdog.setCall
      (Watchdog.setWatchdogTimerRequest timerUse timeoutAction flagsClear countdown)) := by
  have hhandler : handlerOf (netfnApp <<< 2 >>> 2) appSetWatchdogTimer =
      some mockIpmiSetWatchdog := by rfl
  refine ⟨owns_watchdog (by decide) _ _, answerable_of_handler hhandler ?_ fun state => ?_⟩
  · simp [Watchdog.setCall, Watchdog.setWatchdogTimerRequest]
  · exact ⟨_, _, rfl, by simp, by simp [Watchdog.setCall]⟩

section

open IpmiFeature.Watchdog

variable {α : Type} {P : SubmitCall → Prop} (stack : Memory UInt8) {f : EfiStatus × Caller → SubmitProg α}

theorem within_ipmiGetWatchdogTimer_bind (hf : ∀ x, (f x).Within Subsystem.watchdog.Calls) :
    (ipmiGetWatchdogTimer submitBuffered specSizes (locals stack []) >>= f).Within
      Subsystem.watchdog.Calls :=
  ⟨calls_getWatchdog, fun reply => hf (received stack [] reply)⟩

theorem within_ipmiSetWatchdogTimer_bind (timerUse timeoutAction flagsClear : UInt8)
    (countdown : UInt16) (hf : ∀ x, (f x).Within Subsystem.watchdog.Calls) :
    (ipmiSetWatchdogTimer submitBuffered specSizes (locals stack
        (setWatchdogTimerRequest timerUse timeoutAction flagsClear countdown)) >>= f).Within
      Subsystem.watchdog.Calls :=
  ⟨calls_setWatchdog timerUse timeoutAction flagsClear countdown, fun reply => hf (received stack _ reply)⟩

theorem within_ipmiResetWatchdogTimer_bind (hf : ∀ x, (f x).Within Subsystem.watchdog.Calls) :
    (ipmiResetWatchdogTimer submitBuffered (locals stack []) >>= f).Within
      Subsystem.watchdog.Calls :=
  ⟨calls_resetWatchdog, fun reply => hf (received stack [] reply)⟩

theorem within_ipmiEnableWatchdogTimer (timerUse timerAction flagsClear : UInt8)
    (countdownValue : UInt16) :
    (ipmiEnableWatchdogTimer stack timerUse timerAction flagsClear countdownValue).Within
      Subsystem.watchdog.Calls := by
  unfold ipmiEnableWatchdogTimer
  split_ifs
  · trivial
  · refine within_ipmiGetWatchdogTimer_bind stack fun get => ?_
    dsimp only
    split_ifs
    · trivial
    · refine within_ipmiSetWatchdogTimer_bind stack _ _ _ _ fun set => ?_
      split_ifs
      · trivial
      · exact within_ipmiResetWatchdogTimer_bind stack fun reset => trivial

theorem within_ipmiDisableWatchdogTimer (timerUse flagsClear : UInt8) :
    (ipmiDisableWatchdogTimer stack timerUse flagsClear).Within Subsystem.watchdog.Calls := by
  refine within_ipmiGetWatchdogTimer_bind stack fun get => ?_
  dsimp only
  split_ifs
  · trivial
  · exact within_ipmiSetWatchdogTimer_bind stack _ _ _ _ fun set => trivial
  · trivial

/-- The calls of the library and of the drivers. -/
theorem within_act (step : Memory UInt8 × Activity) (driver : WatchdogDxe) :
    (act driver step).Within Subsystem.watchdog.Calls := by
  obtain ⟨stack, activity⟩ := step
  cases activity with
  | enable timerUse timerAction flagsClear countdownValue =>
    exact within_bind (within_ipmiEnableWatchdogTimer stack _ _ _ _) fun _ => trivial
  | disable timerUse flagsClear =>
    exact within_bind (within_ipmiDisableWatchdogTimer stack _ _) fun _ => trivial
  | pei getPolicy =>
    refine within_bind ?_ fun _ => trivial
    unfold initializeWatchdogPei
    split
    · trivial
    · split_ifs
      · exact within_bind (within_ipmiEnableWatchdogTimer stack _ _ _ _) fun _ => trivial
      · trivial
  | dxe getPolicy events =>
    refine within_bind ?_ fun _ => trivial
    unfold ipmiWatchdogDxeEntryPoint
    split
    · trivial
    · refine within_ipmiGetWatchdogTimer_bind stack fun get => ?_
      dsimp only
      split_ifs
      · trivial
      · refine within_bind ?_ fun _ => within_ipmiGetWatchdogTimer_bind stack fun get => ?_
        · unfold enableFrb2WatchdogTimer
          split_ifs
          · exact within_bind (within_ipmiEnableWatchdogTimer stack _ _ _ _) fun _ => trivial
          · trivial
        · split_ifs <;> trivial
  | readyToBoot =>
    unfold act
    dsimp only
    split_ifs
    · refine within_bind (within_ipmiDisableWatchdogTimer stack _ _) fun status => ?_
      split_ifs <;> trivial
    · trivial

end

/-! ### The boot options -/

theorem owns_chassis (command : UInt8) (data : List UInt8) (size : UInt32) :
    Subsystem.bootOptions.Owns ⟨netfnChassis, command, data, size⟩ := by
  have hshift : netfnChassis <<< 2 >>> 2 = netfnChassis := by decide
  refine owns_of_partOf ?_
  unfold partOf ownerOf
  rw [hshift, if_neg (by decide), if_pos rfl]

theorem calls_getSetInProgress :
    Subsystem.bootOptions.Calls (getCall parameterSetInProgress 4) :=
  ⟨owns_chassis _ _ _, by decide, fun state => ⟨_, _, rfl, by simp, by simp [getCall]⟩⟩

theorem calls_getBootFlags : Subsystem.bootOptions.Calls (getCall parameterBootFlags 8) :=
  ⟨owns_chassis _ _ _, by decide,
    fun state => ⟨_, _, rfl, by simp, by simp [getCall, BootFlags.bytes]⟩⟩

theorem calls_setFlags (flags : BootFlags) : Subsystem.bootOptions.Calls (setFlagsCall flags) := by
  have hhandler : handlerOf (netfnChassis <<< 2 >>> 2) chassisSetSystemBootOptions =
      some mockIpmiSetSystemBootOptions := by rfl
  refine ⟨owns_chassis _ _ _, answerable_of_handler hhandler ?_ fun state => ?_⟩
  · simp [setFlagsCall, BootFlags.bytes]
  · have hrun : mockIpmiSetSystemBootOptions (setFlagsCall flags).commandData unanswered state =
        some ([compCodeNormal], { state with bootFlags := flags }) := by
      have hselector : requestOf (setFlagsCall flags).commandData 0 &&& 0x7F = parameterBootFlags :=
        show parameterBootFlags &&& 0x7F = parameterBootFlags by decide
      have hlength : (setFlagsCall flags).commandData.length = 6 := rfl
      unfold mockIpmiSetSystemBootOptions
      simp only [hselector, hlength]
      rfl
    exact ⟨_, _, hrun, by simp, by simp [setFlagsCall]⟩

theorem calls_acknowledge : Subsystem.bootOptions.Calls acknowledgeCall :=
  ⟨owns_chassis _ _ _, by decide, fun state => ⟨_, _, rfl, by simp, by simp [acknowledgeCall]⟩⟩

section

variable {α : Type}

theorem within_ipmiCheckSetInProgress_bind {f : Except EfiStatus Bool → SubmitProg α}
    (hf : ∀ x, (f x).Within Subsystem.bootOptions.Calls) :
    (ipmiCheckSetInProgress >>= f).Within Subsystem.bootOptions.Calls :=
  ⟨calls_getSetInProgress, fun _ => hf _⟩

theorem within_ipmiGetBootFlags_bind {f : Except EfiStatus (BootFlags × Bool) → SubmitProg α}
    (hf : ∀ x, (f x).Within Subsystem.bootOptions.Calls) :
    (ipmiGetBootFlags >>= f).Within Subsystem.bootOptions.Calls :=
  ⟨calls_getBootFlags, fun _ => hf _⟩

theorem within_ipmiSetBootFlags_bind {f : EfiStatus → SubmitProg α} (flags : BootFlags)
    (hf : ∀ x, (f x).Within Subsystem.bootOptions.Calls) :
    (ipmiSetBootFlags flags >>= f).Within Subsystem.bootOptions.Calls :=
  ⟨calls_setFlags flags, fun _ => hf _⟩

theorem within_ipmiAcknowledgeBootOption_bind {f : Unit → SubmitProg α}
    (hf : ∀ x, (f x).Within Subsystem.bootOptions.Calls) :
    (ipmiAcknowledgeBootOption >>= f).Within Subsystem.bootOptions.Calls :=
  ⟨calls_acknowledge, fun _ => hf _⟩

end

theorem within_ipmiGetBootDevice (selector : BootOptionSelector) :
    (ipmiGetBootDevice selector).Within Subsystem.bootOptions.Calls := by
  refine within_ipmiCheckSetInProgress_bind fun progress => ?_
  rcases progress with status | _ | _
  · trivial
  · refine within_ipmiGetBootFlags_bind fun flags => ?_
    rcases flags with status | ⟨flagsData, flagsValid⟩
    · trivial
    · dsimp only
      by_cases hconsumed : flagsValid ∧ ¬ flagsData.persistentOptions
      · rw [if_pos hconsumed]
        exact within_ipmiSetBootFlags_bind _ fun _ =>
          within_ipmiAcknowledgeBootOption_bind fun _ => trivial
      · rw [if_neg hconsumed]
        exact within_ipmiAcknowledgeBootOption_bind fun _ => trivial
  · trivial

theorem within_ipmiGetCmosClearOption :
    ipmiGetCmosClearOption.Within Subsystem.bootOptions.Calls := by
  refine within_ipmiCheckSetInProgress_bind fun progress => ?_
  rcases progress with status | _ | _
  · trivial
  · refine within_ipmiGetBootFlags_bind fun flags => ?_
    rcases flags with status | ⟨flagsData, flagsValid⟩
    · trivial
    · dsimp only
      split_ifs
      · exact within_ipmiSetBootFlags_bind _ fun _ => trivial
      · trivial
      · trivial
  · trivial

/-- The calls of the library. -/
theorem within_answer (request : Request) :
    (answer request).Within Subsystem.bootOptions.Calls := by
  cases request with
  | bootDevice selector => exact within_bind (within_ipmiGetBootDevice selector) fun _ => trivial
  | cmosClear => exact within_bind within_ipmiGetCmosClearOption fun _ => trivial

/-! ### The clients -/

/-- What the client of a part returns. -/
def Subsystem.Result : Subsystem → Type
  | sel => List SelCall.Result
  | watchdog => Watchdog.WatchdogDxe
  | bootOptions => List Answer

/-- The clients: calls of the event log library, activities of the watchdog, requests for the boot
options. -/
def clients (stack : Memory UInt8) (fuel : ℕ) (selCalls : List SelCall)
    (driver : Watchdog.WatchdogDxe) (activities : List (Memory UInt8 × Watchdog.Activity))
    (requests : List Request) : (i : Subsystem) → SubmitProg i.Result
  | .sel => selCalls.mapM (SelCall.run stack fuel)
  | .watchdog => activities.foldlM Watchdog.act driver
  | .bootOptions => requests.mapM answer

/-! ### A client alone -/

section

variable {bmc : Bmc}

/-- A call with a buffer that is answered. -/
theorem completes_submitBuffered {command : BufferedCall} (h : Answerable command.call)
    (hidle : bmc.Idle) :
    (submitBuffered command).Completes mockSubmitCommand bmc fun _ bmc' => bmc'.Idle := by
  obtain ⟨⟨reply, bmc'⟩, hcall⟩ := Option.isSome_iff_exists.1 (h.isSome hidle)
  exact ⟨reply, bmc', hcall, idle_of_mockSubmitCommand hcall⟩

theorem completes_ipmiAddSelEntry (stack : Memory UInt8) {entry : List UInt8}
    (hentry : entry.length = Sel.selEntrySize) (hidle : bmc.Idle) :
    (Sel.ipmiAddSelEntry stack entry).Completes mockSubmitCommand bmc fun _ bmc' => bmc'.Idle :=
  completes_bind.2 (completes_submitBuffered (calls_addSelEntry hentry).2 hidle)

/-- The second command of a clear is told that the log is cleared. -/
theorem completes_selClear (stack : Memory UInt8) {fuel : ℕ} (hfuel : 2 ≤ fuel) (awaitClear : Bool)
    (hidle : bmc.Idle) : (Sel.selClear stack fuel awaitClear).Completes mockSubmitCommand bmc
      fun _ bmc' => bmc'.Idle := by
  obtain ⟨n, rfl⟩ := Nat.exists_eq_add_of_le' hfuel
  have hanswer : ∀ {bmc : Bmc}, bmc.Idle → ∀ erase code,
      answerOf ⟨netfnStorage, storageClearSel, [0, 0, 0x43, 0x4C, 0x52, erase], 2⟩ bmc.state =
        some ([compCodeNormal, code], { bmc.state with sel := bmc.state.sel.clear }) →
      ∃ bmc', bmc'.Idle ∧
        mockSubmitCommand ⟨netfnStorage, storageClearSel, [0, 0, 0x43, 0x4C, 0x52, erase], 2⟩ bmc =
          some (⟨.success, [compCodeNormal, code], 2⟩, bmc') := by
    intro bmc hidle erase code h
    have hdata : [0, 0, 0x43, 0x4C, 0x52, erase].length ≤ 253 := show 6 ≤ 253 by decide
    have hcall := (mockSubmitCommand_eq_some hidle).2
      ⟨hdata, _, _, h, List.cons_ne_nil _ _, Nat.le_refl 2, rfl, rfl⟩
    exact ⟨_, idle_of_mockSubmitCommand hcall, hcall⟩
  obtain ⟨bmc₁, hidle₁, hcall₁⟩ := hanswer hidle clearSelInitializeErase clearSelErasureInProgress rfl
  obtain ⟨bmc₂, hidle₂, hcall₂⟩ :=
    hanswer hidle₁ clearSelGetEraseStatus clearSelErasureCompleted rfl
  refine ⟨_, bmc₁, hcall₁, ?_⟩
  cases awaitClear with
  | false => exact hidle₁
  | true => exact ⟨_, bmc₂, hcall₂, hidle₂⟩

theorem completes_operation (stack : Memory UInt8) {fuel : ℕ} (hfuel : 2 ≤ fuel)
    (operation : Sel.Operation) (hidle : bmc.Idle) :
    (operation.run stack fuel).Completes mockSubmitCommand bmc fun _ bmc' => bmc'.Idle := by
  cases operation with
  | addSystemEntry =>
    exact completes_bind.2 (completes_ipmiAddSelEntry stack (Sel.Entry.system ..).length_bytes hidle)
  | addOemEntryEx recordType manufacturerId data =>
    refine completes_bind.2 ?_
    unfold Sel.selAddOemEntryEx
    split
    · rename_i manufacturerId data
      split_ifs
      · exact hidle
      · exact completes_ipmiAddSelEntry stack
          (Sel.Entry.oem recordType manufacturerId data).length_bytes hidle
    · exact hidle
  | addOemEntryNoTimestamp recordType data =>
    refine completes_bind.2 ?_
    unfold Sel.selAddOemEntryNoTimestamp
    split_ifs
    · exact hidle
    · exact completes_ipmiAddSelEntry stack
        (Sel.Entry.oemNonTimestamped recordType data).length_bytes hidle
  | setTime time =>
    exact completes_bind.2 (completes_bind.2 (completes_submitBuffered (calls_setSelTime time).2 hidle))
  | getTime =>
    exact completes_bind.2 (completes_bind.2 (completes_submitBuffered calls_getSelTime.2 hidle))
  | clear awaitClear => exact completes_bind.2 (completes_selClear stack hfuel awaitClear hidle)

theorem completes_selCall (stack : Memory UInt8) {fuel : ℕ} (hfuel : 2 ≤ fuel) (selCall : SelCall)
    (hidle : bmc.Idle) :
    (selCall.run stack fuel).Completes mockSubmitCommand bmc fun _ bmc' => bmc'.Idle := by
  cases selCall with
  | operation operation => exact completes_bind.2 (completes_operation stack hfuel operation hidle)
  | query query outputs =>
    refine completes_bind.2 ?_
    rw [Sel.Query.run_eq]
    obtain ⟨⟨reply, bmc'⟩, hcall⟩ :=
      Option.isSome_iff_exists.1 ((calls_query query).2.isSome hidle)
    exact ⟨reply, bmc', hcall, idle_of_mockSubmitCommand hcall⟩

/-- The watchdog library ends in the mock BMC, so also where an `ASSERT` would stop it. -/
theorem completes_act (step : Memory UInt8 × Watchdog.Activity) (driver : Watchdog.WatchdogDxe)
    (hidle : bmc.Idle) :
    (Watchdog.act driver step).Completes mockSubmitCommand bmc fun _ bmc' => bmc'.Idle := by
  have halive : Watchdog.Alive (0, some bmc) := ⟨bmc.state, bmc, rfl, hidle, rfl⟩
  have hact : (Watchdog.act driver step).Ends (Watchdog.failing fun _ => .answered) (0, some bmc)
      fun _ s => Watchdog.Alive s := halive.act step driver
  have hends : (Watchdog.act driver step).Ends mockBaseLib (some bmc) fun _ b =>
      ∃ s, Watchdog.Alive s ∧ s.2 = b := by
    refine hact.transfer (P := fun _ => True) (fun s b => s.2 = b) ?_
      (satisfies_of_forall fun _ _ _ _ => trivial) rfl
    rintro call ⟨n, b⟩ _ - rfl
    exact ⟨rfl, rfl⟩
  refine (completes_iff_ends _).2 (hends.mono ?_)
  rintro _ _ ⟨⟨n, b⟩, ⟨state, bmc', hb, hidle', -⟩, rfl⟩
  exact ⟨bmc', hb, hidle'⟩

theorem completes_answer (request : Request) (hidle : bmc.Idle) :
    (answer request).Completes mockSubmitCommand bmc fun _ bmc' => bmc'.Idle := by
  refine (completes_iff_ends _).2
    ((ends_answer request (some bmc) bmc.state.bootFlags ⟨bmc, rfl, hidle, rfl⟩).mono ?_)
  rintro _ _ ⟨-, bmc', hs, hidle', -⟩
  exact ⟨bmc', hs, hidle'⟩

end

/-! ### The clients together -/

variable (stack : Memory UInt8) (fuel : ℕ) (selCalls : List SelCall)
  (driver : Watchdog.WatchdogDxe) (activities : List (Memory UInt8 × Watchdog.Activity))
  (requests : List Request)

theorem within_clients (i : Subsystem) :
    (clients stack fuel selCalls driver activities requests i).Within i.Calls := by
  cases i with
  | sel => exact within_mapM (within_selCall stack fuel) selCalls
  | watchdog => exact within_foldlM (fun driver step => within_act step driver) activities driver
  | bootOptions => exact within_mapM within_answer requests

theorem completes_clients (hfuel : 2 ≤ fuel) {bmc : Bmc} (hidle : bmc.Idle) (i : Subsystem) :
    (clients stack fuel selCalls driver activities requests i).Completes mockSubmitCommand bmc
      fun _ bmc' => bmc'.Idle := by
  cases i with
  | sel => exact completes_mapM (fun x _ h => completes_selCall stack hfuel x h) selCalls hidle
  | watchdog =>
    exact completes_foldlM (fun driver step _ h => completes_act step driver h) activities driver hidle
  | bootOptions => exact completes_mapM (fun x _ h => completes_answer x h) requests hidle

/-- No timer is configured for the driver. -/
def noWatchdog : Watchdog.WatchdogDxe := ⟨⟨false, 0, 0, false, 0, 0⟩, false, false⟩

/-- The log is cleared, and its first record asked for. -/
def clearAndRead : List SelCall :=
  [.operation (.clear true), .query (.getEntry 0) ⟨0, ⟨0, 0, 0, 0, 0, 0⟩, fun _ => 0, some 0⟩]

end Mock

end IpmiFeature
