import IpmiFeature.BootOption.Order
import IpmiFeature.Interaction.Logic

/-!
# A remote console

A remote console writes the boot flags between the commands of a call.  Neither function claims the
set in progress parameter, so the console may write at any point.  A call that writes flags back
does so after it has read them, and what the console has written in between is lost.

* `storedAfter` : the flags after a call.
* `Contended` : what a call does while the console writes.
* `remoteWrites_kept_iff` : when the last flags of the console are still there.
-/

namespace IpmiFeature

open Interaction Prog Mock

namespace BootOption

/-- The flags that are written before each command. -/
abbrev Schedule := ℕ → List BootFlags

/-- The flags that are written before the commands `i, …, j - 1`. -/
def Schedule.between (remote : Schedule) (i j : ℕ) : List BootFlags :=
  (List.range' i (j - i)).flatMap remote

/-- The mock BMC after the remote console has written flags to it. -/
def remoteWrite (bmc : Bmc) (flags : BootFlags) : Bmc :=
  { bmc with state := { bmc.state with bootFlags := flags } }

/-- The mock BMC with a remote console.  The state counts the commands. -/
def contested (remote : Schedule) : Handler SubmitCall SubmitCall.Answer (ℕ × Option Bmc)
  | request, (n, bmc) =>
    let (reply, bmc) := mockBaseLib request (bmc.map fun bmc => (remote n).foldl remoteWrite bmc)
    (reply, (n + 1, bmc))

variable {remote : Schedule} {b b' : Option Bmc} {flags : BootFlags} {n : ℕ}
  {written : Option BootFlags}

/-- The last write counts. -/
theorem Stores.remoteWrites (h : Stores b flags) (writes : List BootFlags) :
    Stores (b.map fun bmc => writes.foldl remoteWrite bmc) (writes.getLastD flags) := by
  obtain ⟨bmc, rfl, hidle, rfl⟩ := h
  induction writes generalizing bmc with
  | nil => exact ⟨bmc, rfl, hidle, rfl⟩
  | cons flags writes ih =>
    rw [List.getLastD_cons]
    exact ih (remoteWrite bmc flags) ⟨hidle.response_eq⟩

/-- A command with a remote console around. -/
theorem contested_eq {call : SubmitCall} {reply : SubmitReply}
    (h : mockBaseLib call (b.map fun bmc => (remote n).foldl remoteWrite bmc) = (reply, b')) :
    contested remote call (n, b) = (reply, (n + 1, b')) := by
  rw [contested, h]

/-- The command sets the set in progress parameter. -/
def Claims (request : SubmitCall) : Prop :=
  request.command = chassisSetSystemBootOptions ∧
    request.commandData.head? = some parameterSetInProgress

/-- None of the commands of the program claims it. -/
def NeverClaims {α : Type} (p : SubmitProg α) : Prop :=
  p.Satisfies False fun tr _ => ∀ event ∈ tr, ¬ Claims event.1

theorem neverClaims_ret {α : Type} (a : α) : NeverClaims (ret a) := nofun

theorem NeverClaims.bind {α β : Type} {p : SubmitProg α} {f : α → SubmitProg β} (hp : NeverClaims p)
    (hf : ∀ a, NeverClaims (f a)) : NeverClaims (p >>= f) := Satisfies.bind_forall_event hp hf

theorem neverClaims_ipmiSubmitCommand {request : SubmitCall} (h : ¬ Claims request) :
    NeverClaims (ipmiSubmitCommand request) := fun _ => List.forall_mem_singleton.2 h

theorem neverClaims_ipmiSetBootFlags (flags : BootFlags) : NeverClaims (ipmiSetBootFlags flags) := by
  unfold ipmiSetBootFlags
  refine (neverClaims_ipmiSubmitCommand ?_).bind fun _ => neverClaims_ret _
  rintro ⟨-, hselector⟩
  have h : parameterBootFlags = parameterSetInProgress := Option.some_inj.1 hselector
  exact absurd h (by decide)

theorem neverClaims_ipmiAcknowledgeBootOption : NeverClaims ipmiAcknowledgeBootOption := by
  unfold ipmiAcknowledgeBootOption
  refine (neverClaims_ipmiSubmitCommand ?_).bind fun _ => neverClaims_ret _
  rintro ⟨-, hselector⟩
  have h : parameterBootInfoAck = parameterSetInProgress := Option.some_inj.1 hselector
  exact absurd h (by decide)

theorem neverClaims_ipmiGetBootOption (parameterSelector : UInt8) (responseSize : UInt32) :
    NeverClaims (ipmiGetBootOption parameterSelector responseSize) := by
  unfold ipmiGetBootOption
  split_ifs
  · exact neverClaims_ret _
  · refine (neverClaims_ipmiSubmitCommand ?_).bind fun _ => neverClaims_ret _
    rintro ⟨hcommand, -⟩
    have h : chassisGetSystemBootOptions = chassisSetSystemBootOptions := hcommand
    exact absurd h (by decide)

theorem neverClaims_ipmiCheckSetInProgress : NeverClaims ipmiCheckSetInProgress :=
  (neverClaims_ipmiGetBootOption _ _).bind fun _ => neverClaims_ret _

theorem neverClaims_ipmiGetBootFlags : NeverClaims ipmiGetBootFlags :=
  (neverClaims_ipmiGetBootOption _ _).bind fun _ => neverClaims_ret _

/-- `IpmiGetBootDevice` never claims it, whatever its commands are answered. -/
theorem neverClaims_ipmiGetBootDevice (selector : BootOptionSelector) :
    NeverClaims (ipmiGetBootDevice selector) := by
  unfold ipmiGetBootDevice
  refine neverClaims_ipmiCheckSetInProgress.bind ?_
  rintro (status | _ | _)
  · exact neverClaims_ret _
  · refine neverClaims_ipmiGetBootFlags.bind ?_
    rintro (status | ⟨flagsData, flagsValid⟩)
    · exact neverClaims_ret _
    · dsimp only
      by_cases hclear : flagsValid ∧ ¬ flagsData.persistentOptions
      · rw [if_pos hclear]
        exact (neverClaims_ipmiSetBootFlags _).bind fun _ =>
          neverClaims_ipmiAcknowledgeBootOption.bind fun _ => neverClaims_ret _
      · rw [if_neg hclear]
        exact neverClaims_ipmiAcknowledgeBootOption.bind fun _ => neverClaims_ret _
  · exact neverClaims_ret _

/-- Nor does `IpmiGetCmosClearOption`. -/
theorem neverClaims_ipmiGetCmosClearOption : NeverClaims ipmiGetCmosClearOption := by
  unfold ipmiGetCmosClearOption
  refine neverClaims_ipmiCheckSetInProgress.bind ?_
  rintro (status | _ | _)
  · exact neverClaims_ret _
  · refine neverClaims_ipmiGetBootFlags.bind ?_
    rintro (status | ⟨flagsData, flagsValid⟩)
    · exact neverClaims_ret _
    · dsimp only
      by_cases hvalid : ¬ flagsValid
      · rw [if_pos hvalid]
        exact neverClaims_ret _
      · rw [if_neg hvalid]
        by_cases hclear : flagsData.cmosClear
        · rw [if_pos hclear]
          exact (neverClaims_ipmiSetBootFlags _).bind fun _ => neverClaims_ret _
        · rw [if_neg hclear]
          exact neverClaims_ret _
  · exact neverClaims_ret _

/-! ### The flags after a call -/

theorem getLastD_append {α : Type} (xs ys : List α) (a : α) :
    (xs ++ ys).getLastD a = ys.getLastD (xs.getLastD a) := by
  simp [List.getLast?_append, Option.getD_or]

theorem Schedule.between_succ {i j : ℕ} (h : i < j) :
    remote.between i j = remote i ++ remote.between (i + 1) j := by
  have hcount : j - i = j - (i + 1) + 1 := by omega
  rw [between, hcount, List.range'_succ, List.flatMap_cons, between]

@[simp] theorem Schedule.between_self (i : ℕ) : remote.between i i = [] := by
  simp [between]

/-- The flags that a call reads, which takes two commands. -/
def readFlags (remote : Schedule) (flags : BootFlags) : BootFlags :=
  (remote.between 0 2).getLastD flags

/-- The flags after `n` commands of a call that has read `flags` and written back `written`, which
is its third command. -/
def storedAfter (remote : Schedule) (flags : BootFlags) (written : Option BootFlags) (n : ℕ) :
    BootFlags :=
  match written with
  | none => (remote.between 2 n).getLastD flags
  | some flags' => (remote.between 3 n).getLastD flags'

/-- The last flags that the console writes after the read are still there exactly if nothing else is
written back after them. -/
theorem storedAfter_eq_iff {flags' : BootFlags} (hn : written ≠ none → 2 < n)
    (hlast : (remote.between 2 n).getLast? = some flags') :
    storedAfter remote flags written n = flags' ↔
      ∀ flags'', written = some flags'' → remote.between 3 n = [] → flags'' = flags' := by
  cases written with
  | none =>
    refine iff_of_true ?_ nofun
    rw [storedAfter, List.getLastD_eq_getLast?, hlast, Option.getD_some]
  | some flags'' =>
    rw [Schedule.between_succ (hn (Option.some_ne_none _)), List.getLast?_append] at hlast
    rw [storedAfter, List.getLastD_eq_getLast?]
    cases hlater : (remote.between 3 n).getLast? with
    | none =>
      rw [Option.getD_none]
      constructor
      · rintro rfl _ ⟨⟩ -
        rfl
      · intro h
        exact h _ rfl (List.getLast?_eq_none_iff.1 hlater)
    | some flags =>
      rw [hlater, Option.some_or] at hlast
      rw [Option.getD_some]
      refine iff_of_true (Option.some_inj.1 hlast) fun _ _ hnil => ?_
      rw [hnil] at hlater
      cases hlater

/-- The reads of a call. -/
theorem Stores.contested_reads (h : Stores b flags) : ∃ b₁ b₂,
    contested remote (getCall parameterSetInProgress 4) (0, b) = (progressReply, (1, b₁)) ∧
      contested remote (getCall parameterBootFlags 8) (1, b₁) =
        (flagsReply (readFlags remote flags), (2, b₂)) ∧ Stores b₂ (readFlags remote flags) := by
  obtain ⟨b₁, hprogress, h₁⟩ := (h.remoteWrites (remote 0)).getSetInProgress
  obtain ⟨b₂, hflags, h₂⟩ := (h₁.remoteWrites (remote 1)).getBootFlags
  have hread : (remote 1).getLastD ((remote 0).getLastD flags) = readFlags remote flags := by
    rw [readFlags, Schedule.between_succ Nat.two_pos, Schedule.between_succ Nat.one_lt_two,
      Schedule.between_self, List.append_nil, getLastD_append]
  rw [hread] at hflags h₂
  exact ⟨b₁, b₂, contested_eq hprogress, contested_eq hflags, h₂⟩

/-- Writing back. -/
theorem Stores.contested_setFlags (h : Stores b flags) (flags' : BootFlags) : ∃ b',
    contested remote (setFlagsCall flags') (n, b) = (setReply, (n + 1, b')) ∧ Stores b' flags' := by
  obtain ⟨b', hset, h'⟩ := (h.remoteWrites (remote n)).setFlags flags'
  exact ⟨b', contested_eq hset, h'⟩

theorem Stores.contested_acknowledge (h : Stores b flags) : ∃ b',
    contested remote acknowledgeCall (n, b) = (setReply, (n + 1, b')) ∧
      Stores b' ((remote n).getLastD flags) := by
  obtain ⟨b', hacknowledge, h'⟩ := (h.remoteWrites (remote n)).acknowledge
  exact ⟨b', contested_eq hacknowledge, h'⟩

/-- At the end of a call, which has written back `written`, the last flags that the console has
written after the read are stored exactly if no others have been written back after them. -/
def KeptUnlessOverwritten (remote : Schedule) (written : Option BootFlags) (s' : ℕ × Option Bmc) :
    Prop :=
  ∀ flags, (remote.between 2 s'.1).getLast? = some flags →
    (s'.2.map (·.state.bootFlags) = some flags ↔
      ∀ flags', written = some flags' → remote.between 3 s'.1 = [] → flags' = flags)

theorem Stores.keptUnlessOverwritten (hn : written ≠ none → 2 < n)
    (h : Stores b (storedAfter remote flags written n)) :
    KeptUnlessOverwritten remote written (n, b) := by
  intro flags' hlast
  obtain ⟨bmc, rfl, -, hstored⟩ := h
  rw [← storedAfter_eq_iff hn hlast, ← hstored]
  exact Option.some_inj

/-- What a call does while the console writes, when it has read `flags` and writes back `written`: its
commands, the flags that it leaves, and which flags of the console these are. -/
structure Contended (remote : Schedule) (flags : BootFlags) (written : Option BootFlags)
    (last : List SubmitCall) (s' : (ℕ × Option Bmc) × List (Event SubmitCall SubmitCall.Answer)) :
    Prop where
  /-- It reads, and then it writes back at most once. -/
  commands : s'.2.map Sigma.fst = [getCall parameterSetInProgress 4, getCall parameterBootFlags 8] ++
    (written.map setFlagsCall).toList ++ last
  count : s'.1.1 = s'.2.length
  /-- What it has written back is overwritten only by what the console writes after it. -/
  stores : Stores s'.1.2 (storedAfter remote flags written s'.1.1)
  kept : KeptUnlessOverwritten remote written s'.1

/-- `IpmiGetBootDevice` acknowledges at the end. -/
theorem ends_ipmiGetBootDevice_contested {selector : BootOptionSelector} (h : Stores b flags) :
    (ipmiGetBootDevice selector).Ends (contested remote).recording ((0, b), []) fun _ s' =>
      Contended remote (readFlags remote flags) (readFlags remote flags).writtenByBootDevice
        [acknowledgeCall] s' := by
  obtain ⟨b₁, b₂, hprogress, hflags, h₂⟩ := h.contested_reads
  rw [ends_ipmiGetBootDevice (Handler.recording_eq hprogress) (Handler.recording_eq hflags)]
  cases hwritten : (readFlags remote flags).writtenByBootDevice with
  | none =>
    obtain ⟨b₃, hacknowledge, h₃⟩ := h₂.contested_acknowledge
    have hstores : Stores b₃ (storedAfter remote (readFlags remote flags) none 3) := by
      rw [storedAfter, Schedule.between_succ (Nat.lt_succ_self 2), Schedule.between_self,
        List.append_nil]
      exact h₃
    rw [writeBack, Handler.recording_eq hacknowledge]
    exact ⟨rfl, rfl, hstores, hstores.keptUnlessOverwritten fun _ => Nat.lt_succ_self 2⟩
  | some flags' =>
    obtain ⟨b₃, hset, h₃⟩ := h₂.contested_setFlags flags'
    obtain ⟨b₄, hacknowledge, h₄⟩ := h₃.contested_acknowledge
    have hstores : Stores b₄ (storedAfter remote (readFlags remote flags) (some flags') 4) := by
      rw [storedAfter, Schedule.between_succ (Nat.lt_succ_self 3), Schedule.between_self,
        List.append_nil]
      exact h₄
    rw [writeBack, Handler.recording_eq hset, Handler.recording_eq hacknowledge]
    exact ⟨rfl, rfl, hstores, hstores.keptUnlessOverwritten fun _ => Nat.le_succ 3⟩

/-- `IpmiGetCmosClearOption` does not. -/
theorem ends_ipmiGetCmosClearOption_contested (h : Stores b flags) :
    ipmiGetCmosClearOption.Ends (contested remote).recording ((0, b), []) fun _ s' =>
      Contended remote (readFlags remote flags) (readFlags remote flags).writtenByCmosClear [] s' := by
  obtain ⟨b₁, b₂, hprogress, hflags, h₂⟩ := h.contested_reads
  rw [ends_ipmiGetCmosClearOption (Handler.recording_eq hprogress) (Handler.recording_eq hflags)]
  cases hwritten : (readFlags remote flags).writtenByCmosClear with
  | none =>
    have hstores : Stores b₂ (storedAfter remote (readFlags remote flags) none 2) := by
      rw [storedAfter, Schedule.between_self]
      exact h₂
    rw [writeBack]
    exact ⟨rfl, rfl, hstores, hstores.keptUnlessOverwritten fun hne => absurd rfl hne⟩
  | some flags' =>
    obtain ⟨b₃, hset, h₃⟩ := h₂.contested_setFlags flags'
    have hstores : Stores b₃ (storedAfter remote (readFlags remote flags) (some flags') 3) := by
      rw [storedAfter, Schedule.between_self]
      exact h₃
    rw [writeBack, Handler.recording_eq hset]
    exact ⟨rfl, rfl, hstores, hstores.keptUnlessOverwritten fun _ => Nat.lt_succ_self 2⟩

/-- For all flags, all writes of the console and all places for them: a call reads the flags, writes
back at most once and right after that, and the last flags that the console writes after the read and
before the call's last command are kept exactly if the call writes nothing else back after them. -/
theorem remoteWrites_kept_iff {bmc : Bmc} (selector : BootOptionSelector) (remote : Schedule)
    (hidle : bmc.Idle) :
    ((ipmiGetBootDevice selector).Ends (contested remote).recording ((0, some bmc), []) fun _ s' =>
      Contended remote (readFlags remote bmc.state.bootFlags)
        (readFlags remote bmc.state.bootFlags).writtenByBootDevice [acknowledgeCall] s') ∧
    ipmiGetCmosClearOption.Ends (contested remote).recording ((0, some bmc), []) fun _ s' =>
      Contended remote (readFlags remote bmc.state.bootFlags)
        (readFlags remote bmc.state.bootFlags).writtenByCmosClear [] s' := by
  have hstores : Stores (some bmc) bmc.state.bootFlags := ⟨bmc, rfl, hidle, rfl⟩
  exact ⟨ends_ipmiGetBootDevice_contested hstores, ends_ipmiGetCmosClearOption_contested hstores⟩

/-- The console asks for a boot from CD just after the flags have been read. -/
def cdAfterRead : Schedule := fun n => if n = 2 then [⟨0x80, 0x14, 0, 0, 0⟩] else []

/-- The boot from CD is lost to `IpmiSetBootFlags`. -/
theorem remoteWrites_lost :
    ¬ (ipmiGetBootDevice .bootNone).Ends (contested cdAfterRead) (0, some (bmcWith pxeAndClear))
      fun _ s' => ∀ flags, (cdAfterRead.between 2 s'.1).getLast? = some flags →
        s'.2.map (·.state.bootFlags) = some flags := by
  intro h
  have hrun : ((ipmiGetBootDevice .bootNone).exec (contested cdAfterRead)
      (0, some (bmcWith pxeAndClear))).map
        (fun run => (run.2.2.1, run.2.2.2.map (·.state.bootFlags))) = some (4, some .zero) := by
    decide
  obtain ⟨⟨x, tr, n, b⟩, hexec, hstored⟩ := Option.map_eq_some_iff.1 hrun
  obtain ⟨rfl, hzero⟩ := Prod.mk.inj hstored
  have hlast : (cdAfterRead.between 2 4).getLast? = some ⟨0x80, 0x14, 0, 0, 0⟩ := by decide
  have hkept := h.of_exec hexec ⟨0x80, 0x14, 0, 0, 0⟩ hlast
  rw [hzero] at hkept
  exact absurd hkept (by decide)

theorem remoteWrites_kept_iff_cdAfterRead :
    ((ipmiGetBootDevice .bootNone).Ends (contested cdAfterRead).recording
      ((0, some (bmcWith pxeAndClear)), []) fun _ s' =>
        Contended cdAfterRead pxeAndClear (some .zero) [acknowledgeCall] s') ∧
    ipmiGetCmosClearOption.Ends (contested cdAfterRead).recording
      ((0, some (bmcWith pxeAndClear)), []) fun _ s' =>
        Contended cdAfterRead pxeAndClear (some ⟨0x80, 0x04, 0, 0, 0⟩) [] s' :=
  remoteWrites_kept_iff .bootNone cdAfterRead ⟨rfl⟩

end BootOption

end IpmiFeature
