import IpmiFeature.Interaction.Sequence
import IpmiFeature.CommandLib.Answers
import IpmiFeature.Watchdog.Basic

/-!
# The watchdog and the policy

The watchdog driver over the mock BMC, from its entry to `ExitBootServices`, with a policy that
other components may set at any time.

* `exec_ipmiEnableWatchdogTimer`, `exec_ipmiDisableWatchdogTimer` : what the library does to the
  timer.
* `Follows` : what is kept from the entry on; the driver stays with the policy that it has read.
* `exec_boot` : the OS timer after the boot, and whether the driver has started it.
* `boot_followsPolicy_iff` : when this is what the policy set last asks for.
-/

namespace IpmiFeature

open Interaction Prog BaseLib CommandLib Mock

/-! ### The watchdog of the mock BMC -/

namespace Watchdog

/-- What the BMC does when the OS timer expires, and after which time. -/
structure OsTimer where
  action : UInt8
  /-- In 100 ms. -/
  countdown : UInt16
  deriving DecidableEq, Repr

end Watchdog

namespace Mock.Watchdog

open IpmiFeature.Watchdog

variable (w : Watchdog)

/-- The OS timer, if it is running. -/
def osTimer : Option OsTimer :=
  if w.timerRunning ∧ w.timerUse &&& 0x07 = timerOsLoader then
    some ⟨w.timerActions &&& 0x07, w.initialCountdownValue⟩
  else
    none

/-- The timer after it has been looked at. -/
def looked : Watchdog :=
  if w.timerRunning ∧ w.presentCountdownValue > 0 then
    { w with presentCountdownValue := w.presentCountdownValue - 1 }
  else
    w

/-- The timer after it has been set. -/
def set (request : Memory UInt8) : Watchdog where
  timerUse := w.timerUse &&& 0xB8 ||| request 0 &&& 0x07
  timerActions := w.timerActions &&& 0xF8 ||| request 1 &&& 0x07
  pretimeoutInterval := w.pretimeoutInterval
  timerUseExpirationFlagsClear := w.timerUseExpirationFlagsClear &&& ~~~ request 3
  initialCountdownValue := shortOf request 4
  presentCountdownValue := shortOf request 4

/-- The timer after it has been started. -/
def reset : Watchdog :=
  { w with
    timerUse := w.timerUse ||| 0x40
    presentCountdownValue := w.initialCountdownValue }

variable {w}

theorem timerRunning_looked : w.looked.timerRunning = w.timerRunning := by
  unfold looked
  split_ifs <;> rfl

theorem osTimer_looked : w.looked.osTimer = w.osTimer := by
  unfold looked
  split_ifs <;> rfl

/-- Setting the timer stops it. -/
theorem timerRunning_set (request : Memory UInt8) : (w.set request).timerRunning = false := by
  change ((w.timerUse &&& 0xB8 ||| request 0 &&& 0x07) &&& 0x40 != 0) = false
  rw [or_and_byte, and_and_byte _ (show 0xB8 &&& 0x40 = (0 : UInt8) by decide),
    and_and_byte _ (show 0x07 &&& 0x40 = (0 : UInt8) by decide), UInt8.and_zero, UInt8.and_zero]
  rfl

theorem osTimer_eq_none (h : w.timerRunning = false) : w.osTimer = none :=
  if_neg fun hrunning => Bool.false_ne_true (h.symm.trans hrunning.1)

theorem timerRunning_reset : w.reset.timerRunning = true := by
  change ((w.timerUse ||| 0x40) &&& 0x40 != 0) = true
  rw [or_and_byte, UInt8.and_self, bne_iff_ne, Ne, UInt8.or_eq_zero_iff]
  exact fun h => absurd h.2 (by decide)

theorem timerUse_set (request : Memory UInt8) :
    (w.set request).timerUse &&& 0x07 = request 0 &&& 0x07 := by
  change (w.timerUse &&& 0xB8 ||| request 0 &&& 0x07) &&& 0x07 = request 0 &&& 0x07
  rw [or_and_byte, and_and_byte _ (show 0xB8 &&& 0x07 = (0 : UInt8) by decide),
    and_and_byte _ (show 0x07 &&& 0x07 = (0x07 : UInt8) by decide), UInt8.and_zero, UInt8.zero_or]

theorem timerActions_set (request : Memory UInt8) :
    (w.set request).timerActions &&& 0x07 = request 1 &&& 0x07 := by
  change (w.timerActions &&& 0xF8 ||| request 1 &&& 0x07) &&& 0x07 = request 1 &&& 0x07
  rw [or_and_byte, and_and_byte _ (show 0xF8 &&& 0x07 = (0 : UInt8) by decide),
    and_and_byte _ (show 0x07 &&& 0x07 = (0x07 : UInt8) by decide), UInt8.and_zero, UInt8.zero_or]

theorem timerUse_reset : w.reset.timerUse &&& 0x07 = w.timerUse &&& 0x07 := by
  change (w.timerUse ||| 0x40) &&& 0x07 = w.timerUse &&& 0x07
  rw [or_and_byte]
  exact UInt8.or_zero

/-- The timer that is started is the one that has been set. -/
theorem osTimer_reset_set (request : Memory UInt8) : (w.set request).reset.osTimer =
    if request 0 &&& 0x07 = timerOsLoader then some ⟨request 1 &&& 0x07, shortOf request 4⟩
    else none := by
  have huse : (w.set request).reset.timerUse &&& 0x07 = request 0 &&& 0x07 :=
    timerUse_reset.trans (timerUse_set request)
  have haction : (w.set request).reset.timerActions &&& 0x07 = request 1 &&& 0x07 :=
    timerActions_set request
  rw [osTimer, huse, haction]
  by_cases hos : request 0 &&& 0x07 = timerOsLoader
  · rw [if_pos ⟨timerRunning_reset, hos⟩, if_pos hos]
    rfl
  · rw [if_neg fun h => hos h.2, if_neg hos]

end Mock.Watchdog

namespace Watchdog

/-! ### The request to set a timer -/

section

variable (timerUse timeoutAction flagsClear : UInt8) (countdown : UInt16)

theorem request_timerUse :
    requestOf (setWatchdogTimerRequest timerUse timeoutAction flagsClear countdown) 0 &&& 0x07 =
      timerUse &&& 0x07 :=
  and_and_byte timerUse (by decide)

theorem request_timeoutAction :
    requestOf (setWatchdogTimerRequest timerUse timeoutAction flagsClear countdown) 1 &&& 0x07 =
      timeoutAction &&& 0x07 :=
  and_and_byte timeoutAction (by decide)

theorem request_countdown :
    shortOf (requestOf (setWatchdogTimerRequest timerUse timeoutAction flagsClear countdown)) 4 =
      countdown :=
  (shortOf_congr rfl rfl).trans (shortOf_byteOfShort countdown)

end

/-! ### What starts a timer -/

/-- The command that reads the timer. -/
def getCall : SubmitCall := ⟨netfnApp, appGetWatchdogTimer, [], 9⟩

/-- The command that sets the timer. -/
def setCall (request : List UInt8) : SubmitCall := ⟨netfnApp, appSetWatchdogTimer, request, 1⟩

/-- The command that starts the timer. -/
def resetCall : SubmitCall := ⟨netfnApp, appResetWatchdogTimer, [], 1⟩

/-- The use that a command sets the timer to, if it sets it. -/
def setUse (command : SubmitCall) : Option UInt8 :=
  if command.netFunction = netfnApp ∧ command.command = appSetWatchdogTimer then
    some (requestOf command.commandData 0 &&& 0x07)
  else
    none

/-- The command starts the timer. -/
def IsReset (command : SubmitCall) : Prop :=
  command.netFunction = netfnApp ∧ command.command = appResetWatchdogTimer

/-- The timer is started after it has been set to a use. -/
def StartsTimer (timerUse : UInt8) (tr : List (Event SubmitCall SubmitCall.Answer)) : Prop :=
  ∃ before reset after, tr = before ++ reset :: after ∧ IsReset reset.1 ∧
    (before.filterMap fun event => setUse event.1).getLast? = some timerUse

/-- A timer that is never set to a use is not started for it. -/
theorem not_startsTimer {timerUse : UInt8} {tr : List (Event SubmitCall SubmitCall.Answer)}
    (h : ∀ event ∈ tr, setUse event.1 ≠ some timerUse) : ¬ StartsTimer timerUse tr := by
  rintro ⟨before, reset, after, rfl, -, hlast⟩
  obtain ⟨event, hevent, huse⟩ := List.mem_filterMap.1 (List.mem_of_getLast? hlast)
  exact h event (List.mem_append_left _ hevent) huse

theorem StartsTimer.append_left {timerUse : UInt8} {tr : List (Event SubmitCall SubmitCall.Answer)}
    (h : StartsTimer timerUse tr) (tr' : List (Event SubmitCall SubmitCall.Answer)) :
    StartsTimer timerUse (tr' ++ tr) := by
  obtain ⟨before, reset, after, rfl, hreset, hlast⟩ := h
  refine ⟨tr' ++ before, reset, after, (List.append_assoc ..).symm, hreset, ?_⟩
  rw [List.filterMap_append, List.getLast?_append, hlast]
  rfl

/-! ### The three commands -/

section

variable {b : Option Bmc} {state : BmcState}

/-- The reply to "Get Watchdog Timer". -/
def timerReply (w : Watchdog) : SubmitReply :=
  ⟨.success, [compCodeNormal, w.timerUse, w.timerActions, w.pretimeoutInterval,
    w.timerUseExpirationFlagsClear] ++ (byteOfShort w.initialCountdownValue).slice 0 2 ++
    (byteOfShort w.presentCountdownValue).slice 0 2, 9⟩

/-- The reply to the other two. -/
def doneReply : SubmitReply := ⟨.success, [compCodeNormal], 1⟩

/-- The state with another timer. -/
def withTimer (state : BmcState) (w : Watchdog) : BmcState := { state with watchdog := w }

theorem rests_getCall (h : Rests b state) : ∃ b',
    mockBaseLib getCall b = (timerReply state.watchdog.looked, b') ∧
      Rests b' (withTimer state state.watchdog.looked) :=
  h.of_handler (by decide) rfl rfl (by decide) (List.cons_ne_nil _ _) (show 9 ≤ 250 by decide)
    (Nat.le_refl 9)

theorem rests_setCall (h : Rests b state) {request : List UInt8} (hlength : request.length = 6) :
    ∃ b', mockBaseLib (setCall request) b = (doneReply, b') ∧
      Rests b' (withTimer state (state.watchdog.set (requestOf request))) := by
  have hrun : mockIpmiSetWatchdog (setCall request).commandData unanswered state =
      some ([compCodeNormal], withTimer state (state.watchdog.set (requestOf request))) :=
    if_neg (Nat.not_lt.2 (Nat.le_of_eq hlength.symm))
  exact h.of_handler (show netfnApp.toNat < 64 by decide) rfl hrun
    (show request.length ≤ 253 by rw [hlength]; decide) (List.cons_ne_nil _ _) (by decide)
    (Nat.le_refl 1)

theorem rests_resetCall (h : Rests b state) : ∃ b',
    mockBaseLib resetCall b = (doneReply, b') ∧
      Rests b' (withTimer state state.watchdog.reset) :=
  h.of_handler (by decide) rfl rfl (by decide) (List.cons_ne_nil _ _) (by decide) (Nat.le_refl 1)

end

/-! ### The library over the mock BMC -/

variable (stack : Memory UInt8) {bmc : Bmc}

theorem exec_ipmiGetWatchdogTimer (hidle : bmc.Idle) : ∃ (c : Caller) (reply : SubmitReply) (bmc' : Bmc),
    (ipmiGetWatchdogTimer submitBuffered specSizes (locals stack [])).exec mockBaseLib (some bmc) =
        some ((.success, c), [⟨getCall, reply⟩], some bmc') ∧
      bmc'.Idle ∧ bmc'.state.watchdog = bmc.state.watchdog.looked ∧
      c.response 0 = compCodeNormal ∧ timerRunning c.response = bmc.state.watchdog.timerRunning := by
  have hrests : Rests (some bmc) bmc.state := ⟨bmc, rfl, hidle, rfl⟩
  obtain ⟨_, hcall, bmc', rfl, hidle', hstate⟩ := rests_getCall hrests
  refine ⟨_, _, bmc', exec_submitOwnSize hcall, hidle', congrArg BmcState.watchdog hstate, rfl, ?_⟩
  rw [← Mock.Watchdog.timerRunning_looked]
  rfl

theorem exec_ipmiSetWatchdogTimer (timerUse timerAction flagsClear : UInt8) (countdownValue : UInt16)
    (hidle : bmc.Idle) :
    let request := setWatchdogTimerRequest timerUse timerAction flagsClear countdownValue
    ∃ (c : Caller) (reply : SubmitReply) (bmc' : Bmc),
      (ipmiSetWatchdogTimer submitBuffered specSizes (locals stack request)).exec mockBaseLib
          (some bmc) =
        some ((.success, c), [⟨setCall request, reply⟩], some bmc') ∧
      bmc'.Idle ∧ bmc'.state.watchdog = bmc.state.watchdog.set (requestOf request) ∧
      checkCompletionCode (.success, c) = .success := by
  intro request
  have hrests : Rests (some bmc) bmc.state := ⟨bmc, rfl, hidle, rfl⟩
  obtain ⟨_, hcall, bmc', rfl, hidle', hstate⟩ := rests_setCall hrests (show request.length = 6 from rfl)
  exact ⟨_, _, bmc', exec_submitOwnSize hcall, hidle', congrArg BmcState.watchdog hstate, rfl⟩

theorem exec_ipmiResetWatchdogTimer (hidle : bmc.Idle) :
    ∃ (c : Caller) (reply : SubmitReply) (bmc' : Bmc),
      (ipmiResetWatchdogTimer submitBuffered (locals stack [])).exec mockBaseLib (some bmc) =
        some ((.success, c), [⟨resetCall, reply⟩], some bmc') ∧
      bmc'.Idle ∧ bmc'.state.watchdog = bmc.state.watchdog.reset ∧
      checkCompletionCode (.success, c) = .success := by
  have hrests : Rests (some bmc) bmc.state := ⟨bmc, rfl, hidle, rfl⟩
  obtain ⟨_, hcall, bmc', rfl, hidle', hstate⟩ := rests_resetCall hrests
  exact ⟨_, _, bmc', exec_submitOwnSize hcall, hidle', congrArg BmcState.watchdog hstate, rfl⟩

/-- Enabling the timer starts it. -/
theorem exec_ipmiEnableWatchdogTimer (timerUse timerAction flagsClear : UInt8) {countdown : UInt16}
    (hidle : bmc.Idle) (huse : timerUse ≠ 0) (hcountdown : countdown ≠ 0) : ∃ tr bmc',
      (ipmiEnableWatchdogTimer stack timerUse timerAction flagsClear countdown).exec mockBaseLib
          (some bmc) = some (.success, tr, some bmc') ∧
      bmc'.Idle ∧ StartsTimer (timerUse &&& 0x07) tr ∧
      bmc'.state.watchdog.osTimer =
        if timerUse &&& 0x07 = timerOsLoader then some ⟨timerAction &&& 0x07, countdown * 10⟩
        else none := by
  obtain ⟨c₁, reply₁, bmc₁, hget, hidle₁, -⟩ := exec_ipmiGetWatchdogTimer stack hidle
  obtain ⟨c₂, reply₂, bmc₂, hset, hidle₂, hwatchdog₂, hcode₂⟩ :=
    exec_ipmiSetWatchdogTimer stack timerUse timerAction flagsClear (countdown * 10) hidle₁
  obtain ⟨c₃, reply₃, bmc₃, hreset, hidle₃, hwatchdog₃, hcode₃⟩ :=
    exec_ipmiResetWatchdogTimer stack hidle₂
  have hrun : (ipmiEnableWatchdogTimer stack timerUse timerAction flagsClear countdown).exec
      mockBaseLib (some bmc) = some (.success, [⟨getCall, reply₁⟩, ⟨setCall (setWatchdogTimerRequest
        timerUse timerAction flagsClear (countdown * 10)), reply₂⟩, ⟨resetCall, reply₃⟩],
        some bmc₃) := by
    rw [ipmiEnableWatchdogTimer, if_neg (not_or_intro huse hcountdown)]
    refine exec_bind hget ?_
    dsimp only
    rw [if_neg (by decide)]
    refine exec_bind hset ?_
    rw [hcode₂, if_neg (by decide)]
    refine exec_bind hreset ?_
    rw [hcode₃]
    rfl
  refine ⟨_, bmc₃, hrun, hidle₃, ?_, ?_⟩
  · exact ⟨[⟨getCall, reply₁⟩, ⟨setCall _, reply₂⟩], ⟨resetCall, reply₃⟩, [], rfl, ⟨rfl, rfl⟩,
      congrArg some (and_and_byte timerUse (by decide))⟩
  · rw [hwatchdog₃, hwatchdog₂, Mock.Watchdog.osTimer_reset_set, request_countdown,
      request_timerUse, request_timeoutAction]

/-- Disabling the timer leaves it stopped. -/
theorem exec_ipmiDisableWatchdogTimer (timerUse flagsClear : UInt8) (hidle : bmc.Idle) : ∃ tr bmc',
    (ipmiDisableWatchdogTimer stack timerUse flagsClear).exec mockBaseLib (some bmc) =
        some (.success, tr, some bmc') ∧
      bmc'.Idle ∧ bmc'.state.watchdog.osTimer = none := by
  obtain ⟨c₁, reply₁, bmc₁, hget, hidle₁, hwatchdog₁, -, hrunning⟩ :=
    exec_ipmiGetWatchdogTimer stack hidle
  by_cases hstopped : bmc.state.watchdog.timerRunning = false
  · have hrun : (ipmiDisableWatchdogTimer stack timerUse flagsClear).exec mockBaseLib (some bmc) =
        some (.success, [⟨getCall, reply₁⟩], some bmc₁) := by
      refine exec_bind hget ?_
      dsimp only
      rw [if_neg (by decide), hrunning, hstopped, if_pos Bool.false_ne_true]
      rfl
    refine ⟨_, bmc₁, hrun, hidle₁, ?_⟩
    rw [hwatchdog₁, Mock.Watchdog.osTimer_looked]
    exact Mock.Watchdog.osTimer_eq_none hstopped
  · obtain ⟨c₂, reply₂, bmc₂, hset, hidle₂, hwatchdog₂, hcode₂⟩ :=
      exec_ipmiSetWatchdogTimer stack timerUse 0 flagsClear 0 hidle₁
    have hrun : (ipmiDisableWatchdogTimer stack timerUse flagsClear).exec mockBaseLib (some bmc) =
        some (.success, [⟨getCall, reply₁⟩,
          ⟨setCall (setWatchdogTimerRequest timerUse 0 flagsClear 0), reply₂⟩], some bmc₂) := by
      refine exec_bind hget ?_
      dsimp only
      rw [if_neg (by decide), hrunning, if_neg (not_not.2 (Bool.not_eq_false _ ▸ hstopped))]
      refine exec_bind hset ?_
      rw [hcode₂]
      rfl
    refine ⟨_, bmc₂, hrun, hidle₂, ?_⟩
    rw [hwatchdog₂]
    exact Mock.Watchdog.osTimer_eq_none (Mock.Watchdog.timerRunning_set _)

/-! ### The uses that the timer is set to -/

section

variable {E : Prop} {timerUse : UInt8}

theorem satisfies_ipmiEnableWatchdogTimer (timerAction flagsClear : UInt8) (countdown : UInt16)
    (huse : timerUse &&& 0x07 ≠ timerOsLoader) :
    (ipmiEnableWatchdogTimer stack timerUse timerAction flagsClear countdown).Satisfies E
      fun tr _ => ∀ event ∈ tr, setUse event.1 ≠ some timerOsLoader := by
  unfold ipmiEnableWatchdogTimer
  split_ifs
  · exact List.forall_mem_nil _
  · refine Satisfies.bind_forall_event (satisfies_submitOwnSize fun _ => ?_) fun c₁ => ?_
    · exact (Option.some_ne_none _).symm
    dsimp only
    split_ifs
    · exact List.forall_mem_nil _
    refine Satisfies.bind_forall_event (satisfies_submitOwnSize fun _ => ?_) fun c₂ => ?_
    · intro hset
      exact huse ((and_and_byte timerUse (by decide)).symm.trans (Option.some.inj hset))
    split_ifs
    · exact List.forall_mem_nil _
    · refine Satisfies.bind_forall_event (satisfies_submitOwnSize fun _ => ?_) fun c₃ => ?_
      · exact (Option.some_ne_none _).symm
      · exact List.forall_mem_nil _

theorem satisfies_ipmiDisableWatchdogTimer (flagsClear : UInt8)
    (huse : timerUse &&& 0x07 ≠ timerOsLoader) :
    (ipmiDisableWatchdogTimer stack timerUse flagsClear).Satisfies E
      fun tr _ => ∀ event ∈ tr, setUse event.1 ≠ some timerOsLoader := by
  refine Satisfies.bind_forall_event (satisfies_submitOwnSize fun _ => ?_) fun c₁ => ?_
  · exact (Option.some_ne_none _).symm
  dsimp only
  split_ifs
  · exact List.forall_mem_nil _
  · refine Satisfies.bind_forall_event (satisfies_submitOwnSize fun _ => ?_) fun c₂ => ?_
    · intro hset
      exact huse ((and_and_byte timerUse (by decide)).symm.trans (Option.some.inj hset))
    · exact List.forall_mem_nil _
  · exact List.forall_mem_nil _

theorem satisfies_happen (system : System) (happening : Happening) :
    (happen stack system happening).Satisfies E
      fun tr _ => ∀ event ∈ tr, setUse event.1 ≠ some timerOsLoader := by
  cases happening with
  | setPolicy policy => exact List.forall_mem_nil _
  | readyToBoot =>
    unfold happen
    dsimp only
    split_ifs
    · refine Satisfies.bind_forall_event ?_ fun driver => List.forall_mem_nil _
      refine (satisfies_ipmiDisableWatchdogTimer stack _ (by decide)).bind_forall_event fun status => ?_
      split_ifs <;> exact List.forall_mem_nil _
    · exact List.forall_mem_nil _

theorem satisfies_enter (events : CreateEvents) (system : System) :
    (enter stack events system).Satisfies E
      fun tr _ => ∀ event ∈ tr, setUse event.1 ≠ some timerOsLoader := by
  have hget : (ipmiGetWatchdogTimer submitBuffered specSizes (locals stack [])).Satisfies E
      fun tr _ => ∀ event ∈ tr, setUse event.1 ≠ some timerOsLoader :=
    satisfies_submitOwnSize fun _ => (Option.some_ne_none _).symm
  refine Satisfies.bind_forall_event ?_ fun driver => List.forall_mem_nil _
  refine hget.bind_forall_event fun c₁ => ?_
  dsimp only
  split_ifs
  · exact List.forall_mem_nil _
  refine Satisfies.bind_forall_event ?_ fun _ => hget.bind_forall_event fun c₂ => ?_
  · unfold enableFrb2WatchdogTimer
    split_ifs
    · refine Satisfies.bind_forall_event ?_ fun _ => List.forall_mem_nil _
      exact satisfies_ipmiEnableWatchdogTimer stack _ _ _ (by decide)
    · exact List.forall_mem_nil _
  · split_ifs <;> exact List.forall_mem_nil _

/-- Until `ExitBootServices` the timer is not set to the use of the OS. -/
theorem satisfies_untilExit (events : CreateEvents) (before after : List Happening)
    (system : System) : (untilExit stack events before after system).Satisfies E
      fun tr _ => ∀ event ∈ tr, setUse event.1 ≠ some timerOsLoader := by
  have hhappen : ∀ (history : List Happening) system, (history.foldlM (happen stack) system).Satisfies E
      fun tr _ => ∀ event ∈ tr, setUse event.1 ≠ some timerOsLoader := fun history system =>
    satisfies_foldlM_forall_event (satisfies_happen stack) history system
  refine (hhappen before system).bind_forall_event fun system => ?_
  exact (satisfies_enter stack events system).bind_forall_event fun system => hhappen after system

end

/-! ### The policy -/

/-- The policy that is published after something has happened. -/
def Happening.publish (published : IpmiWatchdogPolicy) : Happening → IpmiWatchdogPolicy
  | .setPolicy policy => policy
  | .readyToBoot => published

/-- The policy that has been set last. -/
def latestPolicy (initial : IpmiWatchdogPolicy) (history : List Happening) : IpmiWatchdogPolicy :=
  history.foldl Happening.publish initial

/-- The policy enables the OS watchdog, with a timeout. -/
def IpmiWatchdogPolicy.AsksForOsTimer (policy : IpmiWatchdogPolicy) : Prop :=
  policy.osWatchdogEnabled ∧ policy.osTimeoutSeconds ≠ 0

instance (policy : IpmiWatchdogPolicy) : Decidable policy.AsksForOsTimer :=
  inferInstanceAs (Decidable (_ ∧ _))

/-- The timer has the action and the timeout of the policy. -/
structure OsTimer.Fits (policy : IpmiWatchdogPolicy) (timer : OsTimer) : Prop where
  action_eq : timer.action = policy.osTimeoutAction
  countdown_eq : timer.countdown.toNat = 10 * policy.osTimeoutSeconds.toNat

/-- The OS timer is running as the policy says, or it has not been started if the policy does not
ask for it. -/
def FollowsPolicy (policy : IpmiWatchdogPolicy) (tr : List (Event SubmitCall SubmitCall.Answer))
    (watchdog : Watchdog) : Prop :=
  if policy.AsksForOsTimer then ∃ timer, watchdog.osTimer = some timer ∧ timer.Fits policy
  else ¬ StartsTimer timerOsLoader tr

/-- The driver after its entry point has read a policy. -/
def loaded (events : CreateEvents) (read : IpmiWatchdogPolicy) : WatchdogDxe :=
  (createEvents events ⟨read, false, false⟩).2

/-- The driver starts the OS timer if the policy that it has read asks for it, and both events have
been created. -/
def StartsOsTimer (events : CreateEvents) (read : IpmiWatchdogPolicy) : Prop :=
  (events.readyToBoot = .success ∧ events.exitBootServices = .success) ∧ read.AsksForOsTimer

instance (events : CreateEvents) (read : IpmiWatchdogPolicy) : Decidable (StartsOsTimer events read) :=
  inferInstanceAs (Decidable (_ ∧ _))

theorem loaded_readyToBootEvent (events : CreateEvents) (read : IpmiWatchdogPolicy) :
    (loaded events read).readyToBootEvent ↔ events.readyToBoot = .success := by
  unfold loaded createEvents
  split_ifs with hready hexit
  · exact iff_of_false not_false (EfiStatus.isError_iff.1 hready)
  · exact iff_of_true rfl (not_not.1 fun h => hready (EfiStatus.isError_iff.2 h))
  · exact iff_of_true rfl (not_not.1 fun h => hready (EfiStatus.isError_iff.2 h))

theorem loaded_exitBootServicesEvent (events : CreateEvents) (read : IpmiWatchdogPolicy) :
    (loaded events read).exitBootServicesEvent ↔
      events.readyToBoot = .success ∧ events.exitBootServices = .success := by
  unfold loaded createEvents
  split_ifs with hready hexit
  · exact iff_of_false not_false fun h => EfiStatus.isError_iff.1 hready h.1
  · exact iff_of_false not_false fun h => EfiStatus.isError_iff.1 hexit h.2
  · exact iff_of_true rfl ⟨not_not.1 fun h => hready (EfiStatus.isError_iff.2 h),
      not_not.1 fun h => hexit (EfiStatus.isError_iff.2 h)⟩

/-- The timer that the driver starts. -/
def IpmiWatchdogPolicy.osTimer (read : IpmiWatchdogPolicy) : OsTimer :=
  ⟨read.osTimeoutAction &&& 0x07, read.osTimeoutSeconds * 10⟩

/-! ### Until `ExitBootServices` -/

/-- What is kept from the entry point on, when the driver has been left as `driver`: the system is
at the policy published last, and the BMC at the OS timer that is running. -/
structure Follows (driver : WatchdogDxe) (system : System) (s : Option Bmc)
    (now : IpmiWatchdogPolicy × Option OsTimer) : Prop where
  published_eq : system.published = now.1
  watchdogPolicy_eq : system.driver.watchdogPolicy = driver.watchdogPolicy
  exitBootServicesEvent_eq : system.driver.exitBootServicesEvent = driver.exitBootServicesEvent
  /-- The event of `ReadyToBoot` is closed when it has stopped the timer. -/
  readyToBootEvent_eq : system.driver.readyToBootEvent = driver.readyToBootEvent ∨
    system.driver.readyToBootEvent = false ∧ now.2 = none
  bmc : ∃ bmc, s = some bmc ∧ bmc.Idle ∧ bmc.state.watchdog.osTimer = now.2

/-- What something that happens makes of the policy and of the OS timer. -/
def Happening.next (driver : WatchdogDxe) (now : IpmiWatchdogPolicy × Option OsTimer)
    (happening : Happening) : IpmiWatchdogPolicy × Option OsTimer :=
  (happening.publish now.1,
    if happening = .readyToBoot ∧ driver.readyToBootEvent then none else now.2)

variable {driver : WatchdogDxe} {system : System} {s : Option Bmc}
  {now : IpmiWatchdogPolicy × Option OsTimer} {events : CreateEvents}

theorem Follows.happen (h : Follows driver system s now) (happening : Happening) :
    (Watchdog.happen stack system happening).Ends mockBaseLib s fun system' s' =>
      Follows driver system' s' (happening.next driver now) := by
  obtain ⟨bmc, rfl, hidle, htimer⟩ := h.bmc
  cases happening with
  | setPolicy policy =>
    exact ⟨rfl, h.watchdogPolicy_eq, h.exitBootServicesEvent_eq, h.readyToBootEvent_eq,
      bmc, rfl, hidle, htimer⟩
  | readyToBoot =>
    unfold Watchdog.happen Happening.next
    dsimp only
    by_cases hevent : system.driver.readyToBootEvent
    · have hopen : driver.readyToBootEvent := by
        rcases h.readyToBootEvent_eq with heq | ⟨hclosed, -⟩
        · exact heq ▸ hevent
        · exact absurd (hclosed.symm.trans hevent) Bool.false_ne_true
      obtain ⟨tr, bmc', hrun, hidle', htimer'⟩ :=
        exec_ipmiDisableWatchdogTimer stack timerBiosFrb2 expirationFlagBiosFrb2 hidle
      rw [if_pos hevent, if_pos ⟨rfl, hopen⟩, ends_bind, disableFrb2WatchdogTimer, ends_bind]
      refine ends_iff_exec.2 ⟨_, _, _, hrun, ?_⟩
      rw [if_neg (by decide)]
      exact ⟨h.published_eq, h.watchdogPolicy_eq, h.exitBootServicesEvent_eq, .inr ⟨rfl, rfl⟩,
        bmc', rfl, hidle', htimer'⟩
    · rw [if_neg hevent]
      have hnone : (if Happening.readyToBoot = .readyToBoot ∧ driver.readyToBootEvent then none
          else now.2) = now.2 := by
        split_ifs with hopen
        · rcases h.readyToBootEvent_eq with heq | ⟨-, hnone⟩
          · exact absurd (heq.trans hopen.2) hevent
          · exact hnone.symm
        · rfl
      rw [hnone]
      exact ⟨h.published_eq, h.watchdogPolicy_eq, h.exitBootServicesEvent_eq, h.readyToBootEvent_eq,
        bmc, rfl, hidle, htimer⟩

/-- The policy and the OS timer after a history. -/
theorem foldl_next (history : List Happening) (now : IpmiWatchdogPolicy × Option OsTimer) :
    history.foldl (Happening.next driver) now = (latestPolicy now.1 history,
      if .readyToBoot ∈ history ∧ driver.readyToBootEvent then none else now.2) := by
  induction history generalizing now with
  | nil => rfl
  | cons happening history ih =>
    rw [List.foldl_cons, ih]
    refine Prod.ext rfl ?_
    change (if _ then none else if _ then none else now.2) = _
    simp only [List.mem_cons, eq_comm (a := Happening.readyToBoot)]
    split_ifs <;> tauto

theorem Follows.history (h : Follows driver system s now) (history : List Happening) :
    (history.foldlM (Watchdog.happen stack) system).Ends mockBaseLib s fun system' s' =>
      Follows driver system' s' (latestPolicy now.1 history,
        if .readyToBoot ∈ history ∧ driver.readyToBootEvent then none else now.2) := by
  rw [← foldl_next]
  exact ends_foldlM_of_simulation (fun happening system s now h => h.happen stack happening) history h

/-- A timer that is started if it is not running is not an OS timer. -/
theorem ends_enableFrb2WatchdogTimer {bmc : Bmc} (policy : IpmiWatchdogPolicy)
    {watchdogTimer : Memory UInt8} (hidle : bmc.Idle)
    (hrunning : timerRunning watchdogTimer = bmc.state.watchdog.timerRunning) :
    (enableFrb2WatchdogTimer stack policy watchdogTimer).Ends mockBaseLib (some bmc) fun _ s =>
      ∃ bmc' : Bmc, s = some bmc' ∧ bmc'.Idle ∧
        bmc'.state.watchdog.osTimer = bmc.state.watchdog.osTimer := by
  unfold enableFrb2WatchdogTimer
  split_ifs with henabled
  · rw [ends_bind]
    by_cases hzero : policy.frb2TimeoutSeconds = 0
    · rw [ipmiEnableWatchdogTimer, if_pos (.inr hzero)]
      exact ⟨bmc, rfl, hidle, rfl⟩
    · obtain ⟨tr, bmc', hrun, hidle', -, htimer⟩ := exec_ipmiEnableWatchdogTimer stack
        timerBiosFrb2 policy.frb2TimeoutAction expirationFlagBiosFrb2 hidle (by decide) hzero
      refine ends_iff_exec.2 ⟨_, tr, _, hrun, bmc', rfl, hidle', ?_⟩
      have hstopped : bmc.state.watchdog.timerRunning = false := by
        rw [← hrunning]
        exact Bool.not_eq_true _ ▸ henabled.2
      rw [htimer, if_neg (by decide), Mock.Watchdog.osTimer_eq_none hstopped]
  · exact ⟨bmc, rfl, hidle, rfl⟩

/-- The entry point reads the policy and leaves an OS timer alone. -/
theorem Follows.enter {initial : IpmiWatchdogPolicy}
    (h : Follows (unloaded initial).driver system s now) :
    (Watchdog.enter stack events system).Ends mockBaseLib s fun system' s' =>
      Follows (loaded events now.1) system' s' now := by
  obtain ⟨published, watchdogPolicy, readyToBootEvent, exitBootServicesEvent⟩ := system
  obtain ⟨bmc, rfl, hidle, htimer⟩ := h.bmc
  obtain rfl : published = now.1 := h.published_eq
  obtain rfl : readyToBootEvent = false := h.readyToBootEvent_eq.elim id And.left
  obtain rfl : exitBootServicesEvent = false := h.exitBootServicesEvent_eq
  obtain ⟨c₁, reply₁, bmc₁, hget₁, hidle₁, hlooked₁, -, hrunning₁⟩ :=
    exec_ipmiGetWatchdogTimer stack hidle
  rw [Watchdog.enter, ends_bind, ipmiWatchdogDxeEntryPoint, ends_bind]
  refine ends_iff_exec.2 ⟨_, _, _, hget₁, ?_⟩
  dsimp only
  rw [if_neg (by decide), ends_bind]
  have hrunning : timerRunning c₁.response = bmc₁.state.watchdog.timerRunning := by
    rw [hrunning₁, hlooked₁, Mock.Watchdog.timerRunning_looked]
  refine (ends_enableFrb2WatchdogTimer stack now.1 hidle₁ hrunning).mono ?_
  rintro _ _ ⟨bmc₂, rfl, hidle₂, htimer₂⟩
  obtain ⟨c₃, reply₃, bmc₃, hget₃, hidle₃, hlooked₃, hcode₃, -⟩ :=
    exec_ipmiGetWatchdogTimer stack hidle₂
  rw [ends_bind]
  refine ends_iff_exec.2 ⟨_, _, _, hget₃, ?_⟩
  dsimp only
  rw [if_neg (by decide), hcode₃, if_neg (not_not.2 rfl)]
  have htimer₃ : bmc₃.state.watchdog.osTimer = now.2 := by
    rw [hlooked₃, Mock.Watchdog.osTimer_looked, htimer₂, hlooked₁, Mock.Watchdog.osTimer_looked, htimer]
  exact ⟨rfl, rfl, rfl, .inl rfl, bmc₃, rfl, hidle₃, htimer₃⟩

variable (events) in
/-- From the start to `ExitBootServices`. -/
theorem ends_untilExit (initial : IpmiWatchdogPolicy) (before after : List Happening) {bmc : Bmc}
    (hidle : bmc.Idle) :
    let read := latestPolicy initial before
    (untilExit stack events before after (unloaded initial)).Ends mockBaseLib (some bmc)
      fun system s => Follows (loaded events read) system s (latestPolicy initial (before ++ after),
        if .readyToBoot ∈ after ∧ (loaded events read).readyToBootEvent then none
        else bmc.state.watchdog.osTimer) := by
  intro read
  have hstart : Follows (unloaded initial).driver (unloaded initial) (some bmc)
      (initial, bmc.state.watchdog.osTimer) :=
    ⟨rfl, rfl, rfl, .inl rfl, bmc, rfl, hidle, rfl⟩
  have hclosed : (if .readyToBoot ∈ before ∧ (unloaded initial).driver.readyToBootEvent then none
      else bmc.state.watchdog.osTimer) = bmc.state.watchdog.osTimer :=
    if_neg fun h => Bool.false_ne_true h.2
  rw [untilExit, ends_bind]
  refine (hstart.history stack before).mono fun system₁ s₁ h₁ => ?_
  dsimp only at h₁
  rw [hclosed] at h₁
  rw [ends_bind]
  refine (h₁.enter stack).mono fun system₂ s₂ h₂ => ?_
  refine (h₂.history stack after).mono fun system₃ s₃ h₃ => ?_
  rw [latestPolicy, List.foldl_append]
  exact h₃

/-- `ExitBootServices`. -/
theorem Follows.exitBootServices {read : IpmiWatchdogPolicy}
    (h : Follows (loaded events read) system s now) : ∃ system' tr bmc',
      (Watchdog.exitBootServices stack system).exec mockBaseLib s = some (system', tr, some bmc') ∧
      (if StartsOsTimer events read then
        StartsTimer timerOsLoader tr ∧ bmc'.state.watchdog.osTimer = some read.osTimer
      else tr = [] ∧ bmc'.state.watchdog.osTimer = now.2) := by
  obtain ⟨bmc, rfl, hidle, htimer⟩ := h.bmc
  have hpolicy : system.driver.watchdogPolicy = read := by
    rw [h.watchdogPolicy_eq, loaded, createEvents]
    split_ifs <;> rfl
  unfold Watchdog.exitBootServices
  by_cases hevent : system.driver.exitBootServicesEvent
  · have hcreated := (loaded_exitBootServicesEvent events read).1
      (h.exitBootServicesEvent_eq ▸ hevent)
    rw [if_pos hevent, enableOsWatchdogTimer, hpolicy]
    by_cases henabled : read.osWatchdogEnabled
    · rw [if_pos henabled]
      by_cases hzero : read.osTimeoutSeconds = 0
      · have hnot : ¬ StartsOsTimer events read := fun hstarts => hstarts.2.2 hzero
        rw [ipmiEnableWatchdogTimer, if_pos (.inr hzero)]
        refine ⟨_, [], bmc, rfl, ?_⟩
        rw [if_neg hnot]
        exact ⟨rfl, htimer⟩
      · have hstarts : StartsOsTimer events read := ⟨hcreated, henabled, hzero⟩
        obtain ⟨tr, bmc', hrun, hidle', hstarted, htimer'⟩ := exec_ipmiEnableWatchdogTimer stack
          timerOsLoader read.osTimeoutAction expirationFlagOsLoad hidle (by decide) hzero
        refine ⟨_, tr ++ [] ++ [], bmc', exec_bind (exec_bind hrun rfl) rfl, ?_⟩
        rw [if_pos hstarts, List.append_nil, List.append_nil]
        exact ⟨hstarted, htimer'.trans (if_pos (by decide))⟩
    · have hnot : ¬ StartsOsTimer events read := fun hstarts => henabled hstarts.2.1
      rw [if_neg henabled]
      refine ⟨_, [], bmc, rfl, ?_⟩
      rw [if_neg hnot]
      exact ⟨rfl, htimer⟩
  · have hnot : ¬ StartsOsTimer events read := fun hstarts =>
      hevent (h.exitBootServicesEvent_eq.trans
        ((loaded_exitBootServicesEvent events read).2 hstarts.1))
    rw [if_neg hevent]
    refine ⟨_, [], bmc, rfl, ?_⟩
    rw [if_neg hnot]
    exact ⟨rfl, htimer⟩

/-! ### The boot -/

/-- An OS timer that was running before the boot, unless `ReadyToBoot` has stopped it. -/
def timerLeft (events : CreateEvents) (after : List Happening) (watchdog : Watchdog) :
    Option OsTimer :=
  if .readyToBoot ∈ after ∧ events.readyToBoot = .success then none else watchdog.osTimer

/-- What comes of a boot. -/
theorem exec_boot (events : CreateEvents) (initial : IpmiWatchdogPolicy)
    (before after : List Happening) {bmc : Bmc} (hidle : bmc.Idle) :
    let read := latestPolicy initial before
    ∃ system tr bmc', (boot stack events before after (unloaded initial)).exec mockBaseLib (some bmc) =
        some (system, tr, some bmc') ∧
      (StartsTimer timerOsLoader tr ↔ StartsOsTimer events read) ∧
      bmc'.state.watchdog.osTimer =
        if StartsOsTimer events read then some read.osTimer
        else timerLeft events after bmc.state.watchdog := by
  intro read
  obtain ⟨system, tr, s, hrun, hfollows⟩ :=
    ends_iff_exec.1 (ends_untilExit stack events initial before after hidle)
  have hsets := (satisfies_untilExit stack (E := True) events before after (unloaded initial)).of_exec
    hrun
  obtain ⟨system', tr', bmc', hrun', hexit⟩ := hfollows.exitBootServices stack
  simp only [loaded_readyToBootEvent] at hexit
  refine ⟨system', tr ++ tr', bmc', exec_bind hrun hrun', ?_⟩
  by_cases hstarts : StartsOsTimer events read
  · rw [if_pos hstarts] at hexit
    rw [if_pos hstarts]
    exact ⟨iff_of_true (hexit.1.append_left tr) hstarts, hexit.2⟩
  · rw [if_neg hstarts] at hexit
    rw [if_neg hstarts, hexit.1, List.append_nil]
    exact ⟨iff_of_false (not_startsTimer hsets) hstarts, hexit.2⟩

/-- **The OS watchdog at the hand-off** follows the policy that has been set last in these cases
only.  If the policy at the entry of the driver makes the driver start the OS timer, the last policy
asks for the same action and timeout.  If not, the last policy does not ask for an OS timer, or asks
for one that was running before the boot. -/
theorem boot_followsPolicy_iff (events : CreateEvents) (initial : IpmiWatchdogPolicy)
    (before after : List Happening) {bmc : Bmc} (hidle : bmc.Idle) :
    let read := latestPolicy initial before
    let latest := latestPolicy initial (before ++ after)
    ∃ system tr bmc', (boot stack events before after (unloaded initial)).exec mockBaseLib (some bmc) =
        some (system, tr, some bmc') ∧
      (FollowsPolicy latest tr bmc'.state.watchdog ↔
        if StartsOsTimer events read then latest.AsksForOsTimer ∧ read.osTimer.Fits latest
        else latest.AsksForOsTimer →
          ∃ timer, timerLeft events after bmc.state.watchdog = some timer ∧ timer.Fits latest) := by
  intro read latest
  obtain ⟨system, tr, bmc', hrun, hstarts, htimer⟩ := exec_boot stack events initial before after hidle
  refine ⟨system, tr, bmc', hrun, ?_⟩
  rw [FollowsPolicy, htimer, hstarts]
  by_cases hasks : latest.AsksForOsTimer
  · rw [if_pos hasks]
    by_cases hread : StartsOsTimer events read
    · rw [if_pos hread, if_pos hread]
      constructor
      · rintro ⟨_, ⟨⟩, hfits⟩
        exact ⟨hasks, hfits⟩
      · rintro ⟨-, hfits⟩
        exact ⟨_, rfl, hfits⟩
    · rw [if_neg hread, if_neg hread]
      exact ⟨fun hleft _ => hleft, fun h => h hasks⟩
  · rw [if_neg hasks]
    by_cases hread : StartsOsTimer events read
    · rw [if_pos hread]
      exact iff_of_false (not_not.2 hread) fun h => hasks h.1
    · rw [if_neg hread]
      exact iff_of_true hread fun h => absurd h hasks

/-- A policy without an OS watchdog. -/
def policyOff : IpmiWatchdogPolicy := ⟨false, 0, 0, false, 0, 0⟩

/-- A policy with an OS watchdog of ten minutes. -/
def policyOn : IpmiWatchdogPolicy := ⟨false, 0, 0, true, 1, 600⟩

theorem boot_followsPolicy_unchanged : ∃ system tr bmc',
    (boot (fun _ => 0) ⟨.success, .success⟩ [.setPolicy policyOn] [.readyToBoot]
        (unloaded policyOff)).exec mockBaseLib (some initialBmc) = some (system, tr, some bmc') ∧
      FollowsPolicy policyOn tr bmc'.state.watchdog := by
  obtain ⟨system, tr, bmc', hrun, hfollows⟩ := boot_followsPolicy_iff (fun _ => 0)
    ⟨.success, .success⟩ policyOff [.setPolicy policyOn] [.readyToBoot] idle_initialBmc
  exact ⟨system, tr, bmc', hrun, hfollows.2 ⟨by decide, rfl, rfl⟩⟩

/-- The policy is changed after the entry of the driver: the OS watchdog does not follow. -/
theorem boot_policy_ignored : ∃ system tr bmc',
    (boot (fun _ => 0) ⟨.success, .success⟩ [] [.setPolicy policyOn]
        (unloaded policyOff)).exec mockBaseLib (some initialBmc) = some (system, tr, some bmc') ∧
      ¬ FollowsPolicy (latestPolicy policyOff [.setPolicy policyOn]) tr bmc'.state.watchdog := by
  obtain ⟨system, tr, bmc', hrun, -, htimer⟩ := exec_boot (fun _ => 0) ⟨.success, .success⟩ policyOff
    [] [.setPolicy policyOn] idle_initialBmc
  refine ⟨system, tr, bmc', hrun, ?_⟩
  rintro ⟨timer, hrunning, -⟩
  rw [htimer] at hrunning
  cases hrunning

end Watchdog

end IpmiFeature
