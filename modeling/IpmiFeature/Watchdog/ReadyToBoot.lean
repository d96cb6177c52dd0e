import IpmiFeature.Interaction.Sequence
import IpmiFeature.Watchdog.Failures

/-!
# The callback of ReadyToBoot

The BMC has one timer for all uses.  Platform code enables and disables it with any use, the PEIM
and the DXE driver enable it for FRB2, and the callback of ReadyToBoot is to stop the FRB2 timer and
no other (`StopsOnlyFrb2`).  It looks at whether a timer is running, but not at its use, so it stops
any timer that is shown to it as running (`readyToBoot_stopsOnlyFrb2_iff`).
-/

namespace IpmiFeature

open Interaction Prog BaseLib CommandLib Mock

namespace Watchdog

/-! ### The activities -/

/-- What uses the watchdog library until the boot. -/
inductive Activity where
  /-- Platform code calls `IpmiEnableWatchdogTimer`. -/
  | enable (timerUse timerAction flagsClear : UInt8) (countdownValue : UInt16)
  /-- Platform code calls `IpmiDisableWatchdogTimer`. -/
  | disable (timerUse flagsClear : UInt8)
  /-- The PEIM is entered. -/
  | pei (getPolicy : Except EfiStatus IpmiWatchdogPolicy)
  /-- The DXE driver is entered. -/
  | dxe (getPolicy : Except EfiStatus IpmiWatchdogPolicy) (events : CreateEvents)
  /-- ReadyToBoot is signalled. -/
  | readyToBoot

/-- One of them, with what its stack holds. -/
def act (driver : WatchdogDxe) : Memory UInt8 × Activity → SubmitProg WatchdogDxe
  | (stack, .enable timerUse timerAction flagsClear countdownValue) => do
    let _ ← ipmiEnableWatchdogTimer stack timerUse timerAction flagsClear countdownValue
    return driver
  | (stack, .disable timerUse flagsClear) => do
    let _ ← ipmiDisableWatchdogTimer stack timerUse flagsClear
    return driver
  | (stack, .pei getPolicy) => do
    let _ ← initializeWatchdogPei stack getPolicy
    return driver
  | (stack, .dxe getPolicy events) => do
    let (_, driver) ← ipmiWatchdogDxeEntryPoint stack getPolicy events driver
    return driver
  | (stack, .readyToBoot) =>
    if driver.readyToBootEvent then
      disableFrb2WatchdogTimer stack driver
    else
      return driver

/-! ### Disabling the timer -/

/-- The caller of "Get Watchdog Timer" takes the timer for running. -/
def Fate.ShowsRunning (stack : Memory UInt8) (w : Watchdog) : Fate → Prop
  | answered => w.timerRunning = true
  | failed reply _ _ => reply.status = .success ∧ timerRunning (stack.store 0 reply.data) = true

instance (stack : Memory UInt8) (w : Watchdog) (fate : Fate) :
    Decidable (fate.ShowsRunning stack w) :=
  match fate with
  | .answered => inferInstanceAs (Decidable (w.timerRunning = true))
  | .failed _ _ _ => inferInstanceAs (Decidable (_ ∧ _))

variable {pattern : ℕ → Fate} {b : Option Bmc} {state : BmcState} (stack : Memory UInt8)

theorem showsRunning_iff (stack : Memory UInt8) (fate : Fate) (w : Watchdog) :
    fate.ShowsRunning stack w ↔
      ¬ (received stack [] (fate.reply (timerReply w.looked))).1.isError ∧
        timerRunning (received stack [] (fate.reply (timerReply w.looked))).2.response = true := by
  rw [EfiStatus.isError_iff, not_not]
  cases fate with
  | answered =>
    have hshown : timerRunning (received stack [] (timerReply w.looked)).2.response =
        w.looked.timerRunning := rfl
    rw [Fate.reply, hshown, Mock.Watchdog.timerRunning_looked]
    exact (and_iff_right rfl).symm
  | failed reply _ _ => exact Iff.rfl

/-- The timer is set, and so stopped, if it is shown as running. -/
theorem ends_ipmiDisableWatchdogTimer_failing (n : ℕ) (h : Rests b state)
    (timerUse flagsClear : UInt8) :
    (ipmiDisableWatchdogTimer stack timerUse flagsClear).Ends (failing pattern) (n, b) fun _ s =>
      ∃ state', Rests s.2 state' ∧ state'.watchdog.settings =
        (if (pattern n).ShowsRunning stack state.watchdog ∧ (pattern (n + 1)).CarriedOut then
          state.watchdog.set (requestOf (setWatchdogTimerRequest timerUse 0 flagsClear 0))
        else state.watchdog).settings := by
  generalize hrequest : setWatchdogTimerRequest timerUse 0 flagsClear 0 = request
  obtain ⟨b₁, state₁, hget, h₁, hlooked⟩ := rests_failingGet pattern n h
  have hshown := showsRunning_iff stack (pattern n) state.watchdog
  rw [ipmiDisableWatchdogTimer, ends_ipmiGetWatchdogTimer_bind, hget, hrequest]
  dsimp only
  by_cases herror :
      (received stack [] ((pattern n).reply (timerReply state.watchdog.looked))).1.isError
  · rw [if_pos herror, if_neg fun h => (hshown.1 h.1).1 herror]
    exact ⟨state₁, h₁, hlooked⟩
  rw [if_neg herror]
  -- one bit of the reply decides, whatever the use of the timer is
  by_cases hstopped : timerRunning
      (received stack [] ((pattern n).reply (timerReply state.watchdog.looked))).2.response = true
  · rw [if_neg (not_not.2 hstopped)]
    obtain ⟨b₂, hset, h₂⟩ := rests_failingSet pattern (n + 1) h₁ hrequest
    rw [ends_ipmiSetWatchdogTimer_bind stack hrequest, hset]
    refine ⟨_, h₂, ?_⟩
    by_cases hdone : (pattern (n + 1)).CarriedOut
    · rw [if_pos hdone, if_pos ⟨hshown.2 ⟨herror, hstopped⟩, hdone⟩]
      exact Mock.Watchdog.settings_set_congr hlooked _
    · rw [if_neg hdone, if_neg fun h => hdone h.2]
      exact hlooked
  · rw [if_pos hstopped, if_neg fun h => hstopped (hshown.1 h.1).2]
    exact ⟨state₁, h₁, hlooked⟩

/-! ### The BMC stays idle -/

/-- The mock BMC is idle. -/
def Alive (s : ℕ × Option Bmc) : Prop := ∃ state, Rests s.2 state

variable {s : ℕ × Option Bmc}

theorem Alive.ipmiGetWatchdogTimer_bind {α : Type} {f : EfiStatus × Caller → SubmitProg α}
    {Q : α → ℕ × Option Bmc → Prop} (h : Alive s)
    (hf : ∀ x s', Alive s' → (f x).Ends (failing pattern) s' Q) :
    (ipmiGetWatchdogTimer submitBuffered specSizes (locals stack []) >>= f).Ends (failing pattern) s
      Q := by
  obtain ⟨state, hrests⟩ := h
  obtain ⟨b', _, hget, h', -⟩ := rests_failingGet pattern s.1 hrests
  rw [ends_ipmiGetWatchdogTimer_bind, hget]
  exact hf _ _ ⟨_, h'⟩

theorem Alive.ipmiEnableWatchdogTimer (h : Alive s) (timerUse timerAction flagsClear : UInt8)
    (countdown : UInt16) :
    (ipmiEnableWatchdogTimer stack timerUse timerAction flagsClear countdown).Ends (failing pattern)
      s fun _ s' => Alive s' := by
  obtain ⟨state, hrests⟩ := h
  by_cases hzero : timerUse = 0 ∨ countdown = 0
  · rw [Watchdog.ipmiEnableWatchdogTimer, if_pos hzero]
    exact ⟨state, hrests⟩
  · obtain ⟨huse, hcountdown⟩ := not_or.1 hzero
    refine (ends_ipmiEnableWatchdogTimer_failing stack s.1 hrests flagsClear huse
      hcountdown).mono ?_
    rintro _ _ ⟨state', h', -⟩
    exact ⟨state', h'⟩

theorem Alive.ipmiDisableWatchdogTimer (h : Alive s) (timerUse flagsClear : UInt8) :
    (ipmiDisableWatchdogTimer stack timerUse flagsClear).Ends (failing pattern) s fun _ s' =>
      Alive s' := by
  obtain ⟨state, hrests⟩ := h
  refine (ends_ipmiDisableWatchdogTimer_failing stack s.1 hrests timerUse flagsClear).mono ?_
  rintro _ _ ⟨state', h', -⟩
  exact ⟨state', h'⟩

theorem Alive.initializeWatchdogPei (h : Alive s)
    (getPolicy : Except EfiStatus IpmiWatchdogPolicy) :
    (initializeWatchdogPei stack getPolicy).Ends (failing pattern) s fun _ s' => Alive s' := by
  cases getPolicy with
  | error status => exact h
  | ok policy =>
    unfold Watchdog.initializeWatchdogPei
    dsimp only
    split_ifs
    · rw [ends_bind]
      exact (h.ipmiEnableWatchdogTimer stack _ _ _ _).mono fun _ _ h' => h'
    · exact h

theorem Alive.ipmiWatchdogDxeEntryPoint (h : Alive s)
    (getPolicy : Except EfiStatus IpmiWatchdogPolicy) (events : CreateEvents)
    (driver : WatchdogDxe) :
    (ipmiWatchdogDxeEntryPoint stack getPolicy events driver).Ends (failing pattern) s
      fun _ s' => Alive s' := by
  cases getPolicy with
  | error status => exact h
  | ok policy =>
    refine h.ipmiGetWatchdogTimer_bind stack fun get s₁ h₁ => ?_
    obtain ⟨status, watchdogTimer⟩ := get
    dsimp only
    split_ifs
    · exact h₁
    have henable : (enableFrb2WatchdogTimer stack policy watchdogTimer.response).Ends
        (failing pattern) s₁ fun _ s' => Alive s' := by
      unfold enableFrb2WatchdogTimer
      split_ifs
      · rw [ends_bind]
        exact (h₁.ipmiEnableWatchdogTimer stack _ _ _ _).mono fun _ _ h' => h'
      · exact h₁
    rw [ends_bind]
    refine henable.mono fun _ s₂ h₂ => ?_
    refine h₂.ipmiGetWatchdogTimer_bind stack fun get s₃ h₃ => ?_
    split_ifs
    · exact h₃
    · exact h₃
    · exact h₃

theorem Alive.act (h : Alive s) (step : Memory UInt8 × Activity) (driver : WatchdogDxe) :
    (act driver step).Ends (failing pattern) s fun _ s' => Alive s' := by
  obtain ⟨stack, activity⟩ := step
  cases activity with
  | enable timerUse timerAction flagsClear countdown =>
    rw [Watchdog.act, ends_bind]
    exact (h.ipmiEnableWatchdogTimer stack _ _ _ _).mono fun _ _ h' => h'
  | disable timerUse flagsClear =>
    rw [Watchdog.act, ends_bind]
    exact (h.ipmiDisableWatchdogTimer stack _ _).mono fun _ _ h' => h'
  | pei getPolicy =>
    rw [Watchdog.act, ends_bind]
    exact (h.initializeWatchdogPei stack getPolicy).mono fun _ _ h' => h'
  | dxe getPolicy events =>
    rw [Watchdog.act, ends_bind]
    exact (h.ipmiWatchdogDxeEntryPoint stack getPolicy events driver).mono fun _ _ h' => h'
  | readyToBoot =>
    unfold Watchdog.act
    dsimp only
    split_ifs
    · unfold disableFrb2WatchdogTimer
      rw [ends_bind]
      refine (h.ipmiDisableWatchdogTimer stack _ _).mono fun status _ h' => ?_
      split_ifs
      · exact h'
      · exact h'
    · exact h

/-! ### Which timer the callback stops -/

/-- The callback stops the FRB2 timer, if its commands succeed, and no other one. -/
structure StopsOnlyFrb2 (get set : Fate) (w w' : Watchdog) : Prop where
  frb2 : w.timerRunning = true → w.timerUse &&& 0x07 = timerBiosFrb2 → ¬ get.Fails → ¬ set.Fails →
    w'.timerRunning = false
  others : w.timerRunning = true → w.timerUse &&& 0x07 ≠ timerBiosFrb2 →
    w'.timerRunning = true ∧ w'.settings = w.settings

/-- Another timer is running, is shown as running, and the command to set it is carried out. -/
structure StopsOther (stack : Memory UInt8) (get set : Fate) (w : Watchdog) : Prop where
  running : w.timerRunning = true
  other : w.timerUse &&& 0x07 ≠ timerBiosFrb2
  shown : get.ShowsRunning stack w
  carriedOut : set.CarriedOut

theorem stopsOnlyFrb2_iff {get set : Fate} {w w' : Watchdog} {request : Memory UInt8}
    (h : w'.settings = (if get.ShowsRunning stack w ∧ set.CarriedOut then w.set request
      else w).settings) : StopsOnlyFrb2 get set w w' ↔ ¬ StopsOther stack get set w := by
  constructor
  · intro hlaw hother
    rw [if_pos ⟨hother.shown, hother.carriedOut⟩] at h
    have hstopped := (Mock.Watchdog.timerRunning_of_settings h).trans
      (Mock.Watchdog.timerRunning_set request)
    have hkept := (hlaw.others hother.running hother.other).1
    exact absurd (hstopped.symm.trans hkept) Bool.false_ne_true
  · intro hspared
    refine ⟨fun hrunning huse hget hset => ?_, fun hrunning huse => ?_⟩
    · -- a reply that does not fail shows the timer as it is
      have hshown : get.ShowsRunning stack w := by
        cases get with
        | answered => exact hrunning
        | failed _ _ _ => exact absurd trivial hget
      rw [if_pos ⟨hshown, Fate.carriedOut_of_not_fails hset⟩] at h
      exact (Mock.Watchdog.timerRunning_of_settings h).trans
        (Mock.Watchdog.timerRunning_set request)
    · rw [if_neg fun hdone => hspared ⟨hrunning, huse, hdone.1, hdone.2⟩] at h
      exact ⟨(Mock.Watchdog.timerRunning_of_settings h).trans hrunning, h⟩

/-- What `P` says of a step that is a callback, with what becomes of its two commands and the timer
before and after it. -/
def AtCallback (pattern : ℕ → Fate)
    (P : Memory UInt8 → Fate → Fate → Watchdog → Watchdog → Prop) (step : Memory UInt8 × Activity)
    (before after : WatchdogDxe × (ℕ × Option Bmc)) : Prop :=
  step.2 = .readyToBoot → before.1.readyToBootEvent = true → ∃ bmc bmc',
    before.2.2 = some bmc ∧ after.2.2 = some bmc' ∧
      P step.1 (pattern before.2.1) (pattern (before.2.1 + 1)) bmc.state.watchdog
        bmc'.state.watchdog

theorem atCallback_iff {P : Memory UInt8 → Fate → Fate → Watchdog → Watchdog → Prop}
    {driver driver' : WatchdogDxe} {n n' : ℕ} {bmc bmc' : Bmc}
    (hevent : driver.readyToBootEvent = true) :
    AtCallback pattern P (stack, .readyToBoot) (driver, n, some bmc) (driver', n', some bmc') ↔
      P stack (pattern n) (pattern (n + 1)) bmc.state.watchdog bmc'.state.watchdog := by
  constructor
  · intro h
    obtain ⟨_, _, hbefore, hafter, hP⟩ := h rfl hevent
    cases hbefore
    cases hafter
    exact hP
  · intro hP _ _
    exact ⟨bmc, bmc', rfl, rfl, hP⟩

/-- A callback obeys the law if and only if it does not find another timer running that it stops. -/
theorem ends_act_atCallback (step : Memory UInt8 × Activity) (driver : WatchdogDxe) (h : Alive s) :
    (act driver step).Ends (failing pattern) s fun driver' s' => Alive s' ∧
      (AtCallback pattern (fun _ => StopsOnlyFrb2) step (driver, s) (driver', s') ↔
        AtCallback pattern (fun stack get set w _ => ¬ StopsOther stack get set w) step (driver, s)
          (driver', s')) := by
  by_cases hcallback : step.2 = .readyToBoot ∧ driver.readyToBootEvent = true
  · obtain ⟨stack, _⟩ := step
    obtain ⟨rfl, hevent⟩ := hcallback
    obtain ⟨n, b⟩ := s
    obtain ⟨_, bmc, rfl, hidle, rfl⟩ := h
    rw [act, if_pos hevent, disableFrb2WatchdogTimer, ends_bind]
    refine (ends_ipmiDisableWatchdogTimer_failing stack n ⟨bmc, rfl, hidle, rfl⟩ timerBiosFrb2
      expirationFlagBiosFrb2).mono ?_
    rintro status ⟨_, _⟩ ⟨_, ⟨bmc', rfl, hidle', rfl⟩, hsettings⟩
    have hsame : ∀ driver' n',
        AtCallback pattern (fun _ => StopsOnlyFrb2) (stack, .readyToBoot) (driver, n, some bmc)
            (driver', n', some bmc') ↔
          AtCallback pattern (fun stack get set w _ => ¬ StopsOther stack get set w)
            (stack, .readyToBoot) (driver, n, some bmc) (driver', n', some bmc') := by
      intro driver' n'
      rw [atCallback_iff stack hevent, atCallback_iff stack hevent]
      exact stopsOnlyFrb2_iff stack hsettings
    split_ifs
    · exact ⟨⟨_, bmc', rfl, hidle', rfl⟩, hsame _ _⟩
    · exact ⟨⟨_, bmc', rfl, hidle', rfl⟩, hsame _ _⟩
  · have hvacuous : ∀ P driver' s', AtCallback pattern P step (driver, s) (driver', s') :=
      fun _ _ _ hactivity hevent => absurd ⟨hactivity, hevent⟩ hcallback
    refine (h.act step driver).mono fun driver' s' h' => ⟨h', ?_⟩
    exact iff_of_true (hvacuous _ driver' s') (hvacuous _ driver' s')

/-- **When ReadyToBoot stops only the FRB2 timer.**  In a run of any activities, every callback
stops the FRB2 timer and no other one if and only if none of them finds a timer of another use
running, is shown that it is running, and has its command to set the timer carried out. -/
theorem readyToBoot_stopsOnlyFrb2_iff (pattern : ℕ → Fate) (steps : List (Memory UInt8 × Activity))
    (driver : WatchdogDxe) {bmc : Bmc} (hidle : bmc.Idle) :
    AllSteps (failing pattern) act (AtCallback pattern fun _ => StopsOnlyFrb2) steps driver
        (0, some bmc) ↔
      AllSteps (failing pattern) act
        (AtCallback pattern fun stack get set w _ => ¬ StopsOther stack get set w) steps driver
        (0, some bmc) :=
  allSteps_congr (fun step driver _ h => ends_act_atCallback step driver h) steps
    ⟨bmc.state, bmc, rfl, hidle, rfl⟩

/-- The FRB2 timer that the PEIM has started. -/
theorem readyToBoot_stopsOnlyFrb2_frb2 :
    AllSteps (failing fun _ => .answered) act
      (AtCallback (fun _ => .answered) fun _ => StopsOnlyFrb2)
      [(fun _ => 0, .pei (.ok ⟨true, 1, 600, false, 0, 0⟩)),
        (fun _ => 0, .dxe (.ok ⟨true, 1, 600, false, 0, 0⟩) ⟨.success, .success⟩),
        (fun _ => 0, .readyToBoot)] (unloaded policyOff).driver (0, some initialBmc) := by
  refine (readyToBoot_stopsOnlyFrb2_iff (fun _ => .answered) _ (unloaded policyOff).driver
    idle_initialBmc).2 ?_
  refine ⟨fun h => ?_, fun h => ?_, fun _ _ => ?_, trivial⟩
  · cases h
  · cases h
  · exact ⟨_, _, rfl, rfl, fun h => absurd h.other (by decide)⟩

/-- A timer for the OS loader that platform code has started before DXE is stopped. -/
theorem readyToBoot_not_stopsOnlyFrb2 :
    ¬ AllSteps (failing fun _ => .answered) act
      (AtCallback (fun _ => .answered) fun _ => StopsOnlyFrb2)
      [(fun _ => 0, .enable timerOsLoader 1 expirationFlagOsLoad 600),
        (fun _ => 0, .dxe (.ok policyOff) ⟨.success, .success⟩),
        (fun _ => 0, .readyToBoot)] (unloaded policyOff).driver (0, some initialBmc) := by
  intro h
  obtain ⟨-, -, hcallback, -⟩ := h
  obtain ⟨_, _, hbefore, hafter, hlaw⟩ := hcallback rfl rfl
  cases hbefore
  cases hafter
  exact absurd (hlaw.others rfl (by decide)).1 (by decide)

end Watchdog

end IpmiFeature
