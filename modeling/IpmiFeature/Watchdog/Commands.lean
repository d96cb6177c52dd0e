import IpmiFeature.Watchdog.Policy
import Mathlib.Data.Nat.Bitwise

/-!
# Watchdog commands that may fail

The three commands of `IpmiWatchdogLib` against the mock BMC, in an environment in which any of them
may fail.  The caller of a failed command gets an error or a completion code, and the BMC may have
carried it out.

* `Mock.Watchdog.settings` : the timer without its present countdown, which every reading of a
  running timer counts down.
* `settings_set_iff`, `settings_reset_set_iff` : when setting the timer, and starting it again,
  leaves the settings as they are.
* `failing` : the environment, and `rests_failingGet`, `rests_failingSet`, `rests_failingReset` :
  the commands in it.
-/

namespace IpmiFeature

open Interaction Prog BaseLib CommandLib Mock

/-! ### The settings of a timer -/

namespace Mock.Watchdog

variable {w w' : Watchdog}

/-- The timer without its present countdown. -/
def settings (w : Watchdog) : Watchdog := { w with presentCountdownValue := 0 }

theorem settings_looked (w : Watchdog) : w.looked.settings = w.settings := by
  unfold looked
  split_ifs <;> rfl

theorem timerRunning_of_settings (h : w.settings = w'.settings) :
    w.timerRunning = w'.timerRunning := by
  have hrunning : w.settings.timerRunning = w'.settings.timerRunning := by rw [h]
  exact hrunning

theorem settings_set_congr (h : w.settings = w'.settings) (request : Memory UInt8) :
    (w.set request).settings = (w'.set request).settings := by
  have hset : (w.settings.set request).settings = (w'.settings.set request).settings := by rw [h]
  exact hset

theorem settings_reset_congr (h : w.settings = w'.settings) :
    w.reset.settings = w'.reset.settings := by
  have hreset : w.settings.reset.settings = w'.settings.reset.settings := by rw [h]
  exact hreset

theorem timerRunning_iff : w.timerRunning = true ↔ w.timerUse &&& 0x40 = 0x40 := by
  have hbit := Nat.and_two_pow w.timerUse.toNat 6
  rw [timerRunning, bne_iff_ne, Ne, ← UInt8.toNat_inj, ← UInt8.toNat_inj, UInt8.toNat_and]
  cases htest : w.timerUse.toNat.testBit 6 with
  | false =>
    rw [htest] at hbit
    exact iff_of_false (not_not.2 hbit) fun h => absurd (hbit.symm.trans h) (by decide)
  | true =>
    rw [htest] at hbit
    exact iff_of_true (fun h => absurd (hbit.symm.trans h) (by decide)) hbit

/-- The use and the bit that tells that the timer is running. -/
theorem and_use_eq_iff (running : UInt8) (hbit : running &&& 0x40 = running)
    (huse : running &&& 0x07 = 0) (x timerUse : UInt8) :
    x &&& 0x47 = timerUse &&& 0x07 ||| running ↔
      x &&& 0x40 = running ∧ x &&& 0x07 = timerUse &&& 0x07 := by
  have hmask : (0x47 : UInt8) = 0x40 ||| 0x07 := by decide
  constructor
  · intro h
    have hrunning := congrArg (· &&& (0x40 : UInt8)) h
    have huse' := congrArg (· &&& (0x07 : UInt8)) h
    rw [and_and_byte x (show 0x47 &&& 0x40 = (0x40 : UInt8) by decide), or_and_byte,
      and_and_byte timerUse (show 0x07 &&& 0x40 = (0 : UInt8) by decide), UInt8.and_zero,
      UInt8.zero_or, hbit] at hrunning
    rw [and_and_byte x (show 0x47 &&& 0x07 = (0x07 : UInt8) by decide), or_and_byte,
      and_and_byte timerUse (show 0x07 &&& 0x07 = (0x07 : UInt8) by decide), huse,
      UInt8.or_zero] at huse'
    exact ⟨hrunning, huse'⟩
  · rintro ⟨hrunning, huse'⟩
    rw [hmask, UInt8.and_comm x, or_and_byte, UInt8.and_comm _ x, UInt8.and_comm _ x, hrunning,
      huse', UInt8.or_comm]

/-- The timer has been set as a request asks for. -/
structure Programmed (w : Watchdog) (request : Memory UInt8) : Prop where
  timerUse_eq : w.timerUse &&& 0x07 = request 0 &&& 0x07
  timerActions_eq : w.timerActions &&& 0x07 = request 1 &&& 0x07
  flags_eq : w.timerUseExpirationFlagsClear &&& request 3 = 0
  countdown_eq : shortOf request 4 = w.initialCountdownValue

/-- A timer with another use, and the other fields as they are after a request. -/
theorem settings_iff (request : Memory UInt8) (timerUse : UInt8) :
    { w.set request with timerUse, presentCountdownValue := 0 } = w.settings ↔
      timerUse = w.timerUse ∧ w.timerActions &&& 0x07 = request 1 &&& 0x07 ∧
        w.timerUseExpirationFlagsClear &&& request 3 = 0 ∧
          shortOf request 4 = w.initialCountdownValue := by
  have hactions : w.timerActions &&& 0xF8 ||| request 1 &&& 0x07 = w.timerActions ↔
      w.timerActions &&& 0x07 = request 1 &&& 0x07 := by
    have hmask : (0xF8 : UInt8) = ~~~0x07 := by decide
    have hbits : request 1 &&& 0x07 &&& 0x07 = request 1 &&& 0x07 :=
      and_and_byte (request 1) (by decide)
    rw [hmask]
    exact and_not_or_eq_iff_byte hbits w.timerActions
  have hflags := and_not_eq_iff_byte w.timerUseExpirationFlagsClear (request 3)
  simp only [settings, set, Watchdog.mk.injEq, hactions, hflags, true_and, and_true]

/-- Setting a timer changes nothing if it is stopped and has been set so. -/
theorem settings_set_iff (request : Memory UInt8) :
    (w.set request).settings = w.settings ↔ w.timerRunning = false ∧ w.Programmed request := by
  have huse : w.timerUse &&& 0xB8 ||| request 0 &&& 0x07 = w.timerUse ↔
      w.timerRunning = false ∧ w.timerUse &&& 0x07 = request 0 &&& 0x07 := by
    have hmask : (0xB8 : UInt8) = ~~~0x47 := by decide
    have hset := and_not_or_eq_iff_byte
      (and_and_byte (request 0) (show 0x07 &&& 0x47 = (0x07 : UInt8) by decide)) w.timerUse
    have hfields := and_use_eq_iff 0 (by decide) (by decide) w.timerUse (request 0)
    rw [UInt8.or_zero] at hfields
    have hstopped : w.timerRunning = false ↔ w.timerUse &&& 0x40 = 0 := bne_eq_false_iff_eq
    rw [hmask, hstopped]
    exact hset.trans hfields
  refine (settings_iff request (w.timerUse &&& 0xB8 ||| request 0 &&& 0x07)).trans ?_
  rw [huse]
  constructor
  · rintro ⟨⟨hstopped, huse⟩, hactions, hflags, hcountdown⟩
    exact ⟨hstopped, huse, hactions, hflags, hcountdown⟩
  · rintro ⟨hstopped, huse, hactions, hflags, hcountdown⟩
    exact ⟨⟨hstopped, huse⟩, hactions, hflags, hcountdown⟩

/-- Setting and starting it changes nothing if it is running and has been set so. -/
theorem settings_reset_set_iff (request : Memory UInt8) :
    (w.set request).reset.settings = w.settings ↔
      w.timerRunning = true ∧ w.Programmed request := by
  have huse : w.timerUse &&& 0xB8 ||| request 0 &&& 0x07 ||| 0x40 = w.timerUse ↔
      w.timerRunning = true ∧ w.timerUse &&& 0x07 = request 0 &&& 0x07 := by
    have hbits : (request 0 &&& 0x07 ||| 0x40) &&& 0x47 = request 0 &&& 0x07 ||| 0x40 := by
      rw [or_and_byte, and_and_byte (request 0) (show 0x07 &&& 0x47 = (0x07 : UInt8) by decide)]
      rfl
    have hmask : (0xB8 : UInt8) = ~~~0x47 := by decide
    have hset := and_not_or_eq_iff_byte hbits w.timerUse
    rw [hmask, UInt8.or_assoc, timerRunning_iff]
    exact hset.trans (and_use_eq_iff 0x40 (by decide) (by decide) w.timerUse (request 0))
  refine (settings_iff request (w.timerUse &&& 0xB8 ||| request 0 &&& 0x07 ||| 0x40)).trans ?_
  rw [huse]
  constructor
  · rintro ⟨⟨hrunning, huse⟩, hactions, hflags, hcountdown⟩
    exact ⟨hrunning, huse, hactions, hflags, hcountdown⟩
  · rintro ⟨hrunning, huse, hactions, hflags, hcountdown⟩
    exact ⟨⟨hrunning, huse⟩, hactions, hflags, hcountdown⟩

end Mock.Watchdog

namespace Watchdog

/-! ### Failures -/

/-- The reply tells of a failure: an error status, or a completion code. -/
def Failing (reply : SubmitReply) : Prop :=
  reply.status ≠ .success ∨ ∃ code rest, reply.data = code :: rest ∧ code ≠ compCodeNormal

/-- What becomes of a command. -/
inductive Fate where
  /-- It is carried out and answered. -/
  | answered
  /-- The caller is told of a failure; the BMC may have carried out the command. -/
  | failed (reply : SubmitReply) (h : Failing reply) (carriedOut : Bool)

namespace Fate

/-- The caller is told of a failure. -/
def Fails : Fate → Prop
  | answered => False
  | failed _ _ _ => True

/-- The failure is an error status, not only a completion code. -/
def TransportFails : Fate → Prop
  | answered => False
  | failed reply _ _ => reply.status ≠ .success

/-- The command has its effect. -/
def CarriedOut : Fate → Prop
  | answered => True
  | failed _ _ carriedOut => carriedOut

instance (fate : Fate) : Decidable fate.CarriedOut :=
  match fate with
  | answered => inferInstanceAs (Decidable True)
  | failed _ _ carriedOut => inferInstanceAs (Decidable (carriedOut = true))

/-- The reply that the caller gets, with that of the BMC. -/
def reply : Fate → SubmitReply → SubmitReply
  | answered, reply => reply
  | failed failure _ _, _ => failure

theorem carriedOut_of_not_fails {fate : Fate} (h : ¬ fate.Fails) : fate.CarriedOut := by
  cases fate with
  | answered => trivial
  | failed _ _ _ => exact absurd trivial h

theorem reply_of_not_fails {fate : Fate} (h : ¬ fate.Fails) (reply : SubmitReply) :
    fate.reply reply = reply := by
  cases fate with
  | answered => rfl
  | failed _ _ _ => exact absurd trivial h

theorem failing_reply {fate : Fate} (h : fate.Fails) (reply : SubmitReply) :
    Failing (fate.reply reply) := by
  cases fate with
  | answered => cases h
  | failed _ hfailing _ => exact hfailing

theorem status_reply_iff {fate : Fate} {reply : SubmitReply} (h : reply.status = .success) :
    (fate.reply reply).status = .success ↔ ¬ fate.TransportFails := by
  cases fate with
  | answered => exact iff_of_true h id
  | failed _ _ _ => exact not_not.symm

end Fate

/-- The mock BMC with failures.  The state counts the commands. -/
def failing (pattern : ℕ → Fate) : Handler SubmitCall SubmitCall.Answer (ℕ × Option Bmc)
  | command, (n, bmc) =>
    let (reply, bmc') := mockBaseLib command bmc
    ((pattern n).reply reply, (n + 1, if (pattern n).CarriedOut then bmc' else bmc))

variable (pattern : ℕ → Fate) {b b' : Option Bmc} {state : BmcState}

theorem rests_failing (n : ℕ) {call : SubmitCall} {reply : SubmitReply} {state' : BmcState}
    (h : Rests b state) (hcall : mockBaseLib call b = (reply, b')) (h' : Rests b' state') : ∃ b'',
      failing pattern call (n, b) = ((pattern n).reply reply, (n + 1, b'')) ∧
        Rests b'' (if (pattern n).CarriedOut then state' else state) := by
  refine ⟨_, by rw [failing, hcall], ?_⟩
  split_ifs
  · exact h'
  · exact h

/-- Looking at the timer leaves its settings, whether it is carried out or not. -/
theorem rests_failingGet (n : ℕ) (h : Rests b state) : ∃ b' state',
    failing pattern getCall (n, b) =
        ((pattern n).reply (timerReply state.watchdog.looked), (n + 1, b')) ∧
      Rests b' state' ∧ state'.watchdog.settings = state.watchdog.settings := by
  obtain ⟨b₁, hcall, h₁⟩ := rests_getCall h
  obtain ⟨b', hfailing, h'⟩ := rests_failing pattern n h hcall h₁
  refine ⟨b', _, hfailing, h', ?_⟩
  split_ifs
  · exact state.watchdog.settings_looked
  · rfl

theorem rests_failingSet (n : ℕ) (h : Rests b state) {timerUse timerAction flagsClear : UInt8}
    {countdown : UInt16} {request : List UInt8}
    (hrequest : setWatchdogTimerRequest timerUse timerAction flagsClear countdown = request) :
    ∃ b'', failing pattern (setCall request) (n, b) = ((pattern n).reply doneReply, (n + 1, b'')) ∧
        Rests b'' (if (pattern n).CarriedOut then
          withTimer state (state.watchdog.set (requestOf request)) else state) := by
  have hlength : request.length = 6 := hrequest ▸ rfl
  obtain ⟨b', hcall, h'⟩ := rests_setCall h hlength
  exact rests_failing pattern n h hcall h'

theorem rests_failingReset (n : ℕ) (h : Rests b state) : ∃ b'',
    failing pattern resetCall (n, b) = ((pattern n).reply doneReply, (n + 1, b'')) ∧
      Rests b'' (if (pattern n).CarriedOut then withTimer state state.watchdog.reset
        else state) := by
  obtain ⟨b', hcall, h'⟩ := rests_resetCall h
  exact rests_failing pattern n h hcall h'

/-! ### The library -/

/-- What a caller of the command library finds after a reply. -/
def received (stack : Memory UInt8) (request : List UInt8) (reply : SubmitReply) :
    EfiStatus × Caller :=
  (reply.status, { locals stack request with response := stack.store 0 reply.data })

section

variable {τ α : Type} {h : Handler SubmitCall SubmitCall.Answer τ} {s : τ} (stack : Memory UInt8)
  {f : EfiStatus × Caller → SubmitProg α} {Q : α → τ → Prop}

theorem ends_ipmiGetWatchdogTimer_bind :
    (ipmiGetWatchdogTimer submitBuffered specSizes (locals stack []) >>= f).Ends h s Q ↔
      (f (received stack [] (h getCall s).1)).Ends h (h getCall s).2 Q := Iff.rfl

theorem ends_ipmiSetWatchdogTimer_bind {timerUse timerAction flagsClear : UInt8}
    {countdown : UInt16} {request : List UInt8}
    (hrequest : setWatchdogTimerRequest timerUse timerAction flagsClear countdown = request) :
    (ipmiSetWatchdogTimer submitBuffered specSizes (locals stack request) >>= f).Ends h s Q ↔
      (f (received stack request (h (setCall request) s).1)).Ends h (h (setCall request) s).2
        Q := by
  subst hrequest
  rfl

theorem ends_ipmiResetWatchdogTimer_bind :
    (ipmiResetWatchdogTimer submitBuffered (locals stack []) >>= f).Ends h s Q ↔
      (f (received stack [] (h resetCall s).1)).Ends h (h resetCall s).2 Q := Iff.rfl

end

/-- The library looks at the completion codes of two of the commands. -/
theorem checkCompletionCode_received (stack : Memory UInt8) (request : List UInt8) (fate : Fate) :
    checkCompletionCode (received stack request (fate.reply doneReply)) = .success ↔
      ¬ fate.Fails := by
  by_cases hfails : fate.Fails
  · refine iff_of_false ?_ (not_not.2 hfails)
    unfold checkCompletionCode
    split_ifs with herror hcode
    · exact EfiStatus.isError_iff.1 herror
    · decide
    · -- then neither the status nor the completion code tells of the failure
      intro hstatus
      obtain ⟨code, rest, hdata, hbad⟩ :=
        (Fate.failing_reply hfails doneReply).resolve_left (not_not.2 hstatus)
      have hread : (received stack request (fate.reply doneReply)).2.response 0 = code := by
        change stack.store 0 (fate.reply doneReply).data 0 = code
        rw [hdata]
        rfl
      exact hcode (hread ▸ hbad)
  · refine iff_of_true ?_ hfails
    rw [Fate.reply_of_not_fails hfails]
    rfl

end Watchdog

end IpmiFeature
