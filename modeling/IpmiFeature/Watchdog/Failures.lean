import IpmiFeature.Watchdog.Commands

/-!
# Programming the watchdog

`IpmiEnableWatchdogTimer` with any arguments and any failures of its commands.  The use and the
action are cut off to three bits and the countdown, in 100 ms, to sixteen, so arguments that do not
fit program another timer.  Nothing turns them down but a zero, or a failure that leaves the timer
as it was (`ipmiEnableWatchdogTimer_exact_iff`).
-/

namespace IpmiFeature

open Interaction Prog BaseLib Mock

namespace Watchdog

/-! ### What the library does -/

/-- What comes of the three commands, with what becomes of them. -/
inductive Enabled (get set reset : Fate) (w : Watchdog) (request : Memory UInt8)
    (status : EfiStatus) (w' : Watchdog) : Prop
  /-- The first one is an error. -/
  | getFailed (hget : get.TransportFails) (hstatus : status ≠ .success)
      (hsettings : w'.settings = w.settings)
  /-- The second one fails, but may have been carried out. -/
  | setFailed (hget : ¬ get.TransportFails) (hset : set.Fails) (hstatus : status ≠ .success)
      (hsettings : w'.settings = (if set.CarriedOut then w.set request else w).settings)
  /-- The timer is set, and the last one fails or not. -/
  | isSet (hget : ¬ get.TransportFails) (hset : ¬ set.Fails)
      (hstatus : status = .success ↔ ¬ reset.Fails)
      (hsettings : w'.settings =
        (if reset.CarriedOut then (w.set request).reset else w.set request).settings)

variable {pattern : ℕ → Fate} {b : Option Bmc} {state : BmcState} {timerUse timerAction : UInt8}
  {countdown : UInt16} (stack : Memory UInt8)

theorem ends_ipmiEnableWatchdogTimer_failing (n : ℕ) (h : Rests b state) (flagsClear : UInt8)
    (huse : timerUse ≠ 0) (hcountdown : countdown ≠ 0) :
    (ipmiEnableWatchdogTimer stack timerUse timerAction flagsClear countdown).Ends (failing pattern)
      (n, b) fun status s => ∃ state', Rests s.2 state' ∧
        Enabled (pattern n) (pattern (n + 1)) (pattern (n + 2)) state.watchdog
          (requestOf (setWatchdogTimerRequest timerUse timerAction flagsClear (countdown * 10)))
          status state'.watchdog := by
  generalize hrequest :
    setWatchdogTimerRequest timerUse timerAction flagsClear (countdown * 10) = request
  obtain ⟨b₁, state₁, hget, h₁, hlooked⟩ := rests_failingGet pattern n h
  rw [ipmiEnableWatchdogTimer, if_neg (not_or_intro huse hcountdown),
    ends_ipmiGetWatchdogTimer_bind, hget, hrequest]
  -- of this reply only the status is looked at, not the completion code
  have hstatus :
      (received stack [] ((pattern n).reply (timerReply state.watchdog.looked))).1.isError ↔
        (pattern n).TransportFails :=
    EfiStatus.isError_iff.trans (not_iff_comm.1 (Fate.status_reply_iff rfl).symm)
  dsimp only
  by_cases hfails : (pattern n).TransportFails
  · rw [if_pos (hstatus.2 hfails)]
    exact ⟨state₁, h₁, .getFailed hfails (EfiStatus.isError_iff.1 (hstatus.2 hfails)) hlooked⟩
  rw [if_neg fun herror => hfails (hstatus.1 herror)]
  -- a failure here ends the call, but the timer may have been set and stopped
  obtain ⟨b₂, hset, h₂⟩ := rests_failingSet pattern (n + 1) h₁ hrequest
  rw [ends_ipmiSetWatchdogTimer_bind stack hrequest, hset]
  have hcode := checkCompletionCode_received stack request (pattern (n + 1))
  by_cases hsetFails : (pattern (n + 1)).Fails
  · have herror : ¬ _ = EfiStatus.success := fun hok => hcode.1 hok hsetFails
    rw [if_pos (EfiStatus.isError_iff.2 herror)]
    refine ⟨_, h₂, .setFailed hfails hsetFails herror ?_⟩
    split_ifs
    · exact Mock.Watchdog.settings_set_congr hlooked _
    · exact hlooked
  rw [if_neg fun herror => EfiStatus.isError_iff.1 herror (hcode.2 hsetFails)]
  rw [if_pos (Fate.carriedOut_of_not_fails hsetFails)] at h₂
  obtain ⟨b₃, hreset, h₃⟩ := rests_failingReset pattern (n + 2) h₂
  rw [ends_ipmiResetWatchdogTimer_bind, hreset]
  refine ⟨_, h₃, .isSet hfails hsetFails (checkCompletionCode_received stack [] _) ?_⟩
  have hset := Mock.Watchdog.settings_set_congr hlooked (requestOf request)
  split_ifs
  · exact Mock.Watchdog.settings_reset_congr hset
  · exact hset

/-! ### Exactly, or not at all -/

/-- The arguments fit into the fields of the request. -/
structure Representable (timerUse timerAction : UInt8) (countdown : UInt16) : Prop where
  timerUse_lt : timerUse.toNat < 8
  timerAction_lt : timerAction.toNat < 8
  countdown_le : 10 * countdown.toNat ≤ 65535

/-- What a call with these arguments has to make of a timer. -/
structure Exact (timerUse timerAction : UInt8) (countdown : UInt16) (status : EfiStatus)
    (w w' : Watchdog) : Prop where
  /-- After a success the timer is the one asked for. -/
  programmed : status = .success → w'.timerRunning = true ∧ w'.timerUse &&& 0x07 = timerUse ∧
    w'.timerActions &&& 0x07 = timerAction ∧
      w'.initialCountdownValue.toNat = 10 * countdown.toNat
  /-- Arguments that do not fit are turned down. -/
  rejected : ¬ Representable timerUse timerAction countdown →
    status ≠ .success ∧ w'.settings = w.settings

/-- The call leaves the timer as it is, and fails. -/
inductive Harmless (get set reset : Fate) (w : Watchdog) (timerUse : UInt8) (countdown : UInt16)
    (request : Memory UInt8) : Prop
  /-- The library turns down a zero. -/
  | zero (h : timerUse = 0 ∨ countdown = 0)
  | getFails (h : get.TransportFails)
  /-- Setting the timer fails, and is not carried out or changes nothing. -/
  | setFails (h : set.Fails)
      (hsettings : set.CarriedOut → w.timerRunning = false ∧ w.Programmed request)
  /-- Starting it fails, and the timer has been set and started so before. -/
  | resetFails (hset : ¬ set.Fails) (h : reset.Fails) (hprogrammed : w.Programmed request)
      (hrunning : w.timerRunning = true ↔ reset.CarriedOut)

theorem and_seven_eq_iff (x : UInt8) : x &&& 0x07 = x ↔ x.toNat < 8 := by
  rw [← UInt8.toNat_inj, UInt8.toNat_and]
  change x.toNat &&& (2 ^ 3 - 1) = x.toNat ↔ x.toNat < 2 ^ 3
  rw [Nat.and_two_pow_sub_one_eq_mod]
  exact Nat.mod_eq_iff_lt (by decide)

theorem toNat_mul_ten_iff (countdown : UInt16) :
    (countdown * 10).toNat = 10 * countdown.toNat ↔ 10 * countdown.toNat ≤ 65535 := by
  have hmul : (countdown * 10).toNat = countdown.toNat * 10 % 65536 := UInt16.toNat_mul ..
  omega

/-- The request that the library makes. -/
def requestFor (timerUse timerAction flagsClear : UInt8) (countdown : UInt16) : Memory UInt8 :=
  requestOf (setWatchdogTimerRequest timerUse timerAction flagsClear (countdown * 10))

section

variable {get set reset : Fate} {w w' : Watchdog} {flagsClear : UInt8} {status : EfiStatus}

/-- The timer that is set and started is the one asked for if the arguments fit. -/
theorem programmed_iff (hsettings : w'.settings =
      (w.set (requestFor timerUse timerAction flagsClear countdown)).reset.settings) :
    (w'.timerRunning = true ∧ w'.timerUse &&& 0x07 = timerUse ∧
      w'.timerActions &&& 0x07 = timerAction ∧
        w'.initialCountdownValue.toNat = 10 * countdown.toNat) ↔
        Representable timerUse timerAction countdown := by
  have hrunning : w'.timerRunning = true :=
    (Mock.Watchdog.timerRunning_of_settings hsettings).trans Mock.Watchdog.timerRunning_reset
  have huse : w'.timerUse &&& 0x07 = timerUse &&& 0x07 := by
    change w'.settings.timerUse &&& 0x07 = timerUse &&& 0x07
    rw [hsettings, ← request_timerUse timerUse timerAction flagsClear (countdown * 10)]
    exact Mock.Watchdog.timerUse_reset.trans (Mock.Watchdog.timerUse_set _)
  have haction : w'.timerActions &&& 0x07 = timerAction &&& 0x07 := by
    change w'.settings.timerActions &&& 0x07 = timerAction &&& 0x07
    rw [hsettings, ← request_timeoutAction timerUse timerAction flagsClear (countdown * 10)]
    exact Mock.Watchdog.timerActions_set _
  have hcountdown : w'.initialCountdownValue = countdown * 10 := by
    change w'.settings.initialCountdownValue = countdown * 10
    rw [hsettings]
    exact request_countdown timerUse timerAction flagsClear (countdown * 10)
  rw [huse, haction, hcountdown, and_seven_eq_iff, and_seven_eq_iff, toNat_mul_ten_iff]
  constructor
  · rintro ⟨-, huse, haction, hcountdown⟩
    exact ⟨huse, haction, hcountdown⟩
  · rintro ⟨huse, haction, hcountdown⟩
    exact ⟨hrunning, huse, haction, hcountdown⟩

theorem exact_iff_of_failed (hstatus : status ≠ .success) :
    Exact timerUse timerAction countdown status w w' ↔
      Representable timerUse timerAction countdown ∨ w'.settings = w.settings := by
  constructor
  · intro h
    exact or_iff_not_imp_left.2 fun hlarge => (h.rejected hlarge).2
  · intro h
    exact ⟨fun hok => absurd hok hstatus, fun hlarge => ⟨hstatus, h.resolve_left hlarge⟩⟩

/-- What the commands lead to is what is asked for, unless the arguments do not fit and the timer is
changed. -/
theorem Enabled.exact_iff (huse : timerUse ≠ 0) (hcountdown : countdown ≠ 0)
    (h : Enabled get set reset w (requestFor timerUse timerAction flagsClear countdown) status w') :
    Exact timerUse timerAction countdown status w w' ↔
      Representable timerUse timerAction countdown ∨
        Harmless get set reset w timerUse countdown
          (requestFor timerUse timerAction flagsClear countdown) := by
  have hzero : ¬ (timerUse = 0 ∨ countdown = 0) := not_or_intro huse hcountdown
  cases h with
  | getFailed hget hstatus hsettings =>
    rw [exact_iff_of_failed hstatus]
    exact iff_of_true (.inr hsettings) (.inr (.getFails hget))
  | setFailed hget hset hstatus hsettings =>
    -- only a stopped timer that has been set so before is left as it is
    rw [exact_iff_of_failed hstatus, hsettings]
    refine or_congr_right ⟨fun hsame => .setFails hset fun hdone => ?_, fun hharmless => ?_⟩
    · rw [if_pos hdone] at hsame
      exact (Mock.Watchdog.settings_set_iff _).1 hsame
    · cases hharmless with
      | zero h => exact absurd h hzero
      | getFails h => exact absurd h hget
      | resetFails h => exact absurd hset h
      | setFails _ hdone =>
        split_ifs with hcarried
        · exact (Mock.Watchdog.settings_set_iff _).2 (hdone hcarried)
        · rfl
  | isSet hget hset hstatus hsettings =>
    by_cases hreset : reset.Fails
    · -- the timer has been set, and has been started if the failed command was carried out
      rw [exact_iff_of_failed fun hok => hstatus.1 hok hreset, hsettings]
      refine or_congr_right ⟨fun hsame => ?_, fun hharmless => ?_⟩
      · by_cases hdone : reset.CarriedOut
        · rw [if_pos hdone] at hsame
          obtain ⟨hrunning, hprogrammed⟩ := (Mock.Watchdog.settings_reset_set_iff _).1 hsame
          exact .resetFails hset hreset hprogrammed (iff_of_true hrunning hdone)
        · rw [if_neg hdone] at hsame
          obtain ⟨hstopped, hprogrammed⟩ := (Mock.Watchdog.settings_set_iff _).1 hsame
          exact .resetFails hset hreset hprogrammed
            (iff_of_false (Bool.not_eq_true _ ▸ hstopped) hdone)
      · cases hharmless with
        | zero h => exact absurd h hzero
        | getFails h => exact absurd h hget
        | setFails h => exact absurd h hset
        | resetFails _ _ hprogrammed hrunning =>
          split_ifs with hdone
          · exact (Mock.Watchdog.settings_reset_set_iff _).2 ⟨hrunning.2 hdone, hprogrammed⟩
          · exact (Mock.Watchdog.settings_set_iff _).2
              ⟨Bool.eq_false_iff.2 fun h => hdone (hrunning.1 h), hprogrammed⟩
    · -- the call succeeds, so the timer is the one of the cut-off arguments
      have hok : status = .success := hstatus.2 hreset
      rw [if_pos (Fate.carriedOut_of_not_fails hreset)] at hsettings
      have hprogrammed := programmed_iff hsettings
      constructor
      · intro h
        exact .inl (hprogrammed.1 (h.programmed hok))
      · rintro (hfits | hharmless)
        · exact ⟨fun _ => hprogrammed.2 hfits, fun hlarge => absurd hfits hlarge⟩
        · cases hharmless with
          | zero h => exact absurd h hzero
          | getFails h => exact absurd h hget
          | setFails h => exact absurd h hset
          | resetFails _ h => exact absurd h hreset

end

/-- **When the watchdog is programmed exactly.**  After a success the timer is the one asked for,
and arguments that do not fit are turned down, if and only if the arguments fit or the call is
harmless:  the countdown and the two fields are cut off without a check. -/
theorem ipmiEnableWatchdogTimer_exact_iff (pattern : ℕ → Fate)
    (timerUse timerAction flagsClear : UInt8) (countdown : UInt16) {bmc : Bmc} (hidle : bmc.Idle) :
    ((ipmiEnableWatchdogTimer stack timerUse timerAction flagsClear countdown).Ends
      (failing pattern) (0, some bmc) fun status s => ∃ bmc', s.2 = some bmc' ∧
        Exact timerUse timerAction countdown status bmc.state.watchdog bmc'.state.watchdog) ↔
      Representable timerUse timerAction countdown ∨
        Harmless (pattern 0) (pattern 1) (pattern 2) bmc.state.watchdog timerUse countdown
          (requestFor timerUse timerAction flagsClear countdown) := by
  by_cases hzero : timerUse = 0 ∨ countdown = 0
  · rw [ipmiEnableWatchdogTimer, if_pos hzero]
    have hstatus : EfiStatus.invalidParameter ≠ .success := by decide
    exact iff_of_true ⟨bmc, rfl, (exact_iff_of_failed hstatus).2 (.inr rfl)⟩ (.inr (.zero hzero))
  obtain ⟨huse, hcountdown⟩ := not_or.1 hzero
  refine (ends_ipmiEnableWatchdogTimer_failing stack 0 ⟨bmc, rfl, hidle, rfl⟩ flagsClear huse
    hcountdown).iff ?_
  rintro status ⟨-, -⟩ ⟨state', ⟨bmc', rfl, -, rfl⟩, henabled⟩
  rw [← henabled.exact_iff huse hcountdown]
  constructor
  · rintro ⟨_, heq, hexact⟩
    cases heq
    exact hexact
  · intro hexact
    exact ⟨bmc', rfl, hexact⟩

/-- Ten minutes fit. -/
theorem ipmiEnableWatchdogTimer_exact_tenMinutes :
    (ipmiEnableWatchdogTimer (fun _ => 0) timerBiosFrb2 1 expirationFlagBiosFrb2 600).Ends
      (failing fun _ => .answered) (0, some initialBmc) fun status s => ∃ bmc', s.2 = some bmc' ∧
        Exact timerBiosFrb2 1 600 status initialBmc.state.watchdog bmc'.state.watchdog :=
  (ipmiEnableWatchdogTimer_exact_iff (fun _ => 0) (fun _ => .answered) timerBiosFrb2 1
    expirationFlagBiosFrb2 600 idle_initialBmc).2 (.inl ⟨by decide, by decide, by decide⟩)

/-- A timeout of 6554 s is taken for one of 0.4 s. -/
theorem ipmiEnableWatchdogTimer_not_exact :
    (ipmiEnableWatchdogTimer (fun _ => 0) timerBiosFrb2 1 expirationFlagBiosFrb2 6554).Ends
      (failing fun _ => .answered) (0, some initialBmc) fun status s => status = .success ∧
        ∃ bmc', s.2 = some bmc' ∧ bmc'.state.watchdog.initialCountdownValue = 4 ∧
          ¬ Exact timerBiosFrb2 1 6554 status initialBmc.state.watchdog bmc'.state.watchdog :=
  ⟨rfl, _, rfl, rfl, fun h => absurd (h.programmed rfl).2.2.2 (by decide)⟩

end Watchdog

end IpmiFeature
