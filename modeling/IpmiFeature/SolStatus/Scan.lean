import IpmiFeature.SolStatus.Basic
import IpmiFeature.Interaction.Logic

/-!
# The scan of the channels

The commands of the driver, whatever they are answered with.

* `Attempts` : one to ten times the same command, with a failure before every further time.
* `Scanned` : attempts for 1, for 2, and so on.
* `retried_attempts` : what a loop over `RetryCount` sends, and the status it leaves behind.
* `solStatusEntryPoint_scanned` : what the driver sends for fewer than 255 channels;
  `solStatusEntryPoint_endless` : for 255 channels it does not return.
* `solStatusEntryPoint_scans_iff` : the channel numbers in the commands are those of the channels
  up to `PcdMaxSOLChannels` exactly if that is at most 15.
-/

namespace IpmiFeature

open Interaction Prog BaseLib CommandLib

namespace SolStatus

/-! ### Attempts -/

section

variable {κ κ' : Type} {k : κ} {as bs : List (κ × EfiStatus)}

/-- One and the same thing is tried, and tried again only after a failure. -/
structure Attempts (k : κ) (as : List (κ × EfiStatus)) : Prop where
  nonempty : as ≠ []
  length_le : as.length ≤ solCmdRetryCount.toNat
  same : ∀ a ∈ as, a.1 = k
  failed : ∀ a ∈ as.dropLast, a.2 ≠ .success

/-- Attempts for 1, then for 2, and so on to `n`. -/
inductive Scanned (f : ℕ → κ) : ℕ → List (κ × EfiStatus) → Prop
  | zero : Scanned f 0 []
  | succ {n : ℕ} {as bs : List (κ × EfiStatus)} (scanned : Scanned f n as)
      (attempts : Attempts (f (n + 1)) bs) : Scanned f (n + 1) (as ++ bs)

/-- The status of the last attempt. -/
def lastStatus (as : List (κ × EfiStatus)) : EfiStatus :=
  (as.getLast?.map Prod.snd).getD .success

@[simp] theorem lastStatus_concat (a : κ × EfiStatus) : lastStatus (as ++ [a]) = a.2 := by
  simp [lastStatus]

theorem lastStatus_append (h : bs ≠ []) : lastStatus (as ++ bs) = lastStatus bs := by
  rw [lastStatus, lastStatus, List.getLast?_append_of_ne_nil as h]

theorem Attempts.map (g : κ → κ') (h : Attempts k as) : Attempts (g k) (as.map (Prod.map g id)) where
  nonempty := by simpa using h.nonempty
  length_le := by simpa using h.length_le
  same := by
    intro a ha
    obtain ⟨b, hb, rfl⟩ := List.mem_map.1 ha
    exact congrArg g (h.same b hb)
  failed := by
    intro a ha
    rw [← List.map_dropLast] at ha
    obtain ⟨b, hb, rfl⟩ := List.mem_map.1 ha
    exact h.failed b hb

variable {f f' : ℕ → κ} {n : ℕ}

theorem Scanned.map (g : κ → κ') (h : Scanned f n as) :
    Scanned (g ∘ f) n (as.map (Prod.map g id)) := by
  induction h with
  | zero => exact .zero
  | succ _ attempts ih =>
    rw [List.map_append]
    exact ih.succ (attempts.map g)

/-- Only what is tried matters. -/
theorem Scanned.congr (hf : ∀ i ≤ n, f i = f' i) (h : Scanned f n as) : Scanned f' n as := by
  induction h with
  | zero => exact .zero
  | succ _ attempts ih =>
    refine (ih fun i hi => hf i (by omega)).succ ?_
    rw [← hf _ (Nat.le_refl _)]
    exact attempts

/-- Each of them is tried. -/
theorem Scanned.exists_mem (h : Scanned f n as) {i : ℕ} (hpos : 0 < i) (hi : i ≤ n) :
    ∃ a ∈ as, a.1 = f i := by
  induction h with
  | zero => omega
  | @succ n _ bs _ attempts ih =>
    rcases Nat.lt_or_eq_of_le hi with hlt | rfl
    · obtain ⟨a, ha, heq⟩ := ih (by omega)
      exact ⟨a, List.mem_append_left _ ha, heq⟩
    · obtain ⟨b, hb⟩ := List.exists_mem_of_ne_nil bs attempts.nonempty
      exact ⟨b, List.mem_append_right _ hb, attempts.same b hb⟩

/-- Nothing else is tried. -/
theorem Scanned.exists_eq (h : Scanned f n as) {a : κ × EfiStatus} (ha : a ∈ as) :
    ∃ i, 0 < i ∧ i ≤ n ∧ a.1 = f i := by
  induction h with
  | zero => simp at ha
  | @succ n _ _ _ attempts ih =>
    rcases List.mem_append.1 ha with ha | ha
    · obtain ⟨i, hpos, hi, heq⟩ := ih ha
      exact ⟨i, hpos, by omega, heq⟩
    · exact ⟨n + 1, by omega, Nat.le_refl _, attempts.same a ha⟩

end

/-! ### Commands -/

/-- The command that an event is, with the status it is answered with. -/
def commandOf : SolEvent → Option (SubmitCall × EfiStatus)
  | ⟨.submit command, reply⟩ => some (command, reply.status)
  | ⟨.stall _, _⟩ => none

/-- The commands of a run. -/
def commands (tr : List SolEvent) : List (SubmitCall × EfiStatus) := tr.filterMap commandOf

@[simp] theorem commands_nil : commands [] = [] := rfl

@[simp] theorem commands_append (tr tr' : List SolEvent) :
    commands (tr ++ tr') = commands tr ++ commands tr' := List.filterMap_append

@[simp] theorem commands_submit (command : SubmitCall) (reply : SubmitReply) (tr : List SolEvent) :
    commands (⟨.submit command, reply⟩ :: tr) = (command, reply.status) :: commands tr := rfl

@[simp] theorem commands_stall (microseconds : UInt64) (answer : Unit) (tr : List SolEvent) :
    commands (⟨.stall microseconds, answer⟩ :: tr) = commands tr := rfl

/-- The field `ChannelNumber` of a request. -/
def channelOf (call : SubmitCall) : UInt8 := channelNumber (call.commandData.headD 0)

/-- The channel numbers in the requests of a run, with the statuses of the commands. -/
def requests (tr : List SolEvent) : List (UInt8 × EfiStatus) :=
  (commands tr).map (Prod.map channelOf id)

/-! ### Retries -/

section

variable {call : SubmitCall} {attempt : SolProg (EfiStatus × Caller)} {stack : Memory UInt8}
  {fuel : ℕ}

/-- The program is one command, and its status is that of the command. -/
def IsCommand (call : SubmitCall) (attempt : SolProg (EfiStatus × Caller)) : Prop :=
  attempt.Satisfies False fun tr x => ∃ reply : SubmitReply,
    tr = [⟨.submit call, reply⟩] ∧ x.1 = reply.status

/-- So far, all attempts have failed. -/
structure Failing (call : SubmitCall) (as : List (SubmitCall × EfiStatus))
    (locals : Attempted × UInt8) : Prop where
  same : ∀ a ∈ as, a.1 = call
  failed : ∀ a ∈ as, a.2 ≠ .success
  length_eq : as.length = locals.2.toNat
  length_le : as.length ≤ solCmdRetryCount.toNat
  lastStatus_eq : lastStatus as = locals.1.status

theorem toNat_succ_retryCount {retryCount : UInt8} (hlt : retryCount < solCmdRetryCount) :
    (retryCount + 1).toNat = retryCount.toNat + 1 := by
  have hlt' : retryCount.toNat < 10 := UInt8.lt_iff_toNat_lt.1 hlt
  exact toNat_add_byte (Nat.lt_trans (Nat.add_lt_add_right hlt' 1) (by decide))

/-- There may be one more attempt. -/
theorem Failing.length_concat_le {as : List (SubmitCall × EfiStatus)} {last : Attempted}
    {retryCount : UInt8} (h : Failing call as (last, retryCount))
    (hlt : retryCount < solCmdRetryCount) (a : SubmitCall × EfiStatus) :
    (as ++ [a]).length ≤ solCmdRetryCount.toNat := by
  rw [List.length_append, List.length_singleton, h.length_eq]
  exact UInt8.lt_iff_toNat_lt.1 hlt

theorem Failing.concat {as : List (SubmitCall × EfiStatus)} {last : Attempted} {retryCount : UInt8}
    (h : Failing call as (last, retryCount)) (hlt : retryCount < solCmdRetryCount)
    (last' : Attempted) (hstatus : last'.status ≠ .success) :
    Failing call (as ++ [(call, last'.status)]) (last', retryCount + 1) where
  same := List.forall_mem_append.2 ⟨h.same, by simp⟩
  failed := List.forall_mem_append.2 ⟨h.failed, by simpa using hstatus⟩
  length_eq := by
    rw [List.length_append, List.length_singleton, h.length_eq]
    exact (toNat_succ_retryCount hlt).symm
  length_le := h.length_concat_le hlt _
  lastStatus_eq := lastStatus_concat _

theorem Failing.attempts_concat {as : List (SubmitCall × EfiStatus)} {last : Attempted}
    {retryCount : UInt8} (h : Failing call as (last, retryCount))
    (hlt : retryCount < solCmdRetryCount) (status : EfiStatus) :
    Attempts call (as ++ [(call, status)]) where
  nonempty := by simp
  length_le := h.length_concat_le hlt _
  same := List.forall_mem_append.2 ⟨h.same, by simp⟩
  failed := by simpa using h.failed

theorem Failing.attempts {as : List (SubmitCall × EfiStatus)} {last : Attempted}
    {retryCount : UInt8} (h : Failing call as (last, retryCount))
    (hlt : ¬ retryCount < solCmdRetryCount) : Attempts call as where
  nonempty := by
    rintro rfl
    have hzero : 0 = retryCount.toNat := h.length_eq
    exact hlt (UInt8.lt_iff_toNat_lt.2 (by rw [← hzero]; decide))
  length_le := h.length_le
  same := h.same
  failed := fun a ha => h.failed a (List.dropLast_subset _ ha)

/-- **What a loop over `RetryCount` sends.**  It returns after one to ten commands, all of them the
same, and a command that succeeds is the last one. -/
theorem retried_attempts (hattempt : IsCommand call attempt)
    (hfuel : solCmdRetryCount.toNat < fuel) :
    (retried stack fuel attempt).Satisfies False fun tr last =>
      Attempts call (commands tr) ∧ lastStatus (commands tr) = last.status := by
  refine satisfies_loop_total (I := fun tr locals => Failing call (commands tr) locals)
    (fun locals => solCmdRetryCount.toNat - locals.2.toNat) ?_
    ⟨by simp, by simp, rfl, by simp, rfl⟩ (by simpa using hfuel)
  rintro tr ⟨last, retryCount⟩ hfailing
  simp only [retryIteration]
  split_ifs with hlt
  · refine satisfies_bind.2 (hattempt.mono ?_)
    rintro _ ⟨status, c⟩ ⟨reply, rfl, rfl⟩
    dsimp only
    split_ifs with hstatus
    · simpa using hfailing.attempts_concat hlt reply.status
    · have hnext := hfailing.concat hlt ⟨reply.status, c.response⟩ hstatus
      have hmore := toNat_succ_retryCount hlt
      have hlt' := UInt8.lt_iff_toNat_lt.1 hlt
      refine satisfies_perform_bind.2 fun _ => ⟨?_, by dsimp only; omega⟩
      simpa using hnext
  · simpa using ⟨hfailing.attempts hlt, hfailing.lastStatus_eq⟩

end

/-! ### The two functions -/

section

variable (stack : Memory UInt8) {fuel : ℕ} (sizeofResponse sizeofSetRequest : UInt32)
  (channel paramSel data : UInt8)

/-- The command that `GetSOLStatus` sends. -/
def getCall : SubmitCall where
  netFunction := netfnTransport
  command := transportGetSolConfigParam
  commandData := [channelNumber channel, paramSel, 0, 0]
  responseDataSize := sizeofResponse

theorem isCommand_getAttempt : IsCommand (getCall sizeofResponse channel paramSel)
    (getAttempt stack sizeofResponse channel paramSel) := by
  refine satisfies_embed.2 fun reply => ⟨reply, ?_, rfl⟩
  have hrequest : (stack.store 0 [channelNumber channel, paramSel, 0, 0]).slice 0 4 =
      [channelNumber channel, paramSel, 0, 0] := Memory.slice_store_self 0 _
  rw [getCall, ← hrequest]
  rfl

/-- `GetSOLStatus` sends one command, one to ten times. -/
theorem getSOLStatus_attempts (hfuel : solCmdRetryCount.toNat < fuel) :
    (getSOLStatus stack sizeofResponse fuel channel paramSel data).Satisfies False fun tr x =>
      Attempts (getCall sizeofResponse channel paramSel) (commands tr) ∧
        lastStatus (commands tr) = x.1 := by
  have hattempt := isCommand_getAttempt stack sizeofResponse channel paramSel
  refine satisfies_bind.2 ((retried_attempts hattempt hfuel).mono ?_)
  rintro tr last hlast
  split_ifs <;> simpa using hlast

/-- The command that `SetSOLParams` sends. -/
def setCall : SubmitCall where
  netFunction := netfnTransport
  command := transportSetSolConfigParam
  commandData :=
    (setRequest stack sizeofSetRequest channel paramSel data).slice 0 sizeofSetRequest.toNat
  responseDataSize := 1

theorem isCommand_setAttempt : IsCommand (setCall stack sizeofSetRequest channel paramSel data)
    (setAttempt stack sizeofSetRequest channel paramSel data) :=
  satisfies_embed.2 fun reply => ⟨reply, rfl, rfl⟩

/-- `SetSOLParams` sends one command, one to ten times. -/
theorem setSOLParams_attempts (hfuel : solCmdRetryCount.toNat < fuel) :
    (setSOLParams stack sizeofSetRequest fuel channel paramSel data).Satisfies False
      fun tr status => Attempts (setCall stack sizeofSetRequest channel paramSel data) (commands tr) ∧
        lastStatus (commands tr) = status := by
  have hattempt := isCommand_setAttempt stack sizeofSetRequest channel paramSel data
  refine satisfies_bind.2 ((retried_attempts hattempt hfuel).mono ?_)
  rintro tr last hlast
  simpa using hlast

end

/-! ### The scan -/

section

variable (stack : Memory UInt8) {sizeofResponse : UInt32} {fuel : ℕ} {maxSOLChannels : UInt8}

/-- The command for a channel. -/
def scanCall (sizeofResponse : UInt32) (i : ℕ) : SubmitCall :=
  getCall sizeofResponse (UInt8.ofNat i) parameterSolEnable

/-- The channels before the next one have been scanned. -/
structure ScannedSoFar (sizeofResponse : UInt32) (as : List (SubmitCall × EfiStatus))
    (locals : Scan) : Prop where
  pos : 0 < locals.channel.toNat
  scanned : Scanned (scanCall sizeofResponse) (locals.channel.toNat - 1) as
  lastStatus_eq : lastStatus as = locals.status

theorem toNat_succ_channel {channel : UInt8} (hlt : channel.toNat < 255) :
    (channel + 1).toNat = channel.toNat + 1 := toNat_add_byte (Nat.add_lt_add_right hlt 1)

theorem ScannedSoFar.append {as bs : List (SubmitCall × EfiStatus)} {locals : Scan}
    (h : ScannedSoFar sizeofResponse as locals) (hlt : locals.channel.toNat < 255)
    (hattempts : Attempts (getCall sizeofResponse locals.channel parameterSolEnable) bs)
    (solEnabled : UInt8) :
    ScannedSoFar sizeofResponse (as ++ bs) ⟨locals.channel + 1, lastStatus bs, solEnabled⟩ := by
  have hnext : (locals.channel + 1).toNat = locals.channel.toNat - 1 + 1 + 1 := by
    rw [Nat.sub_add_cancel h.pos]
    exact toNat_succ_channel hlt
  have hchannel : UInt8.ofNat (locals.channel.toNat - 1 + 1) = locals.channel := by
    rw [Nat.sub_add_cancel h.pos, UInt8.ofNat_toNat]
  refine ⟨by rw [hnext]; omega, ?_, lastStatus_append hattempts.nonempty⟩
  rw [hnext, Nat.add_sub_cancel]
  refine h.scanned.succ ?_
  rw [scanCall, hchannel]
  exact hattempts

/-- **What the driver sends.**  For fewer than 255 channels it returns, and has sent the command of
each of them, one to ten times. -/
theorem solStatusEntryPoint_scanned (hmax : maxSOLChannels.toNat < 255) (hfuel : 256 ≤ fuel) :
    (solStatusEntryPoint stack sizeofResponse fuel maxSOLChannels).Satisfies False fun tr status =>
      Scanned (scanCall sizeofResponse) maxSOLChannels.toNat (commands tr) ∧
        lastStatus (commands tr) = status := by
  refine satisfies_loop_total (I := fun tr locals =>
    ScannedSoFar sizeofResponse (commands tr) locals ∧
      locals.channel.toNat ≤ maxSOLChannels.toNat + 1) (fun locals => 256 - locals.channel.toNat)
    ?_ ⟨⟨by decide, .zero, rfl⟩, Nat.le_add_left 1 _⟩ (show 256 - 1 < fuel by omega)
  rintro tr locals ⟨hsofar, hle⟩
  simp only [scanIteration, UInt8.le_iff_toNat_le]
  split_ifs with hchannel
  · refine satisfies_bind.2 ((getSOLStatus_attempts _ _ _ _ _
      (show 10 < fuel by omega)).mono ?_)
    rintro tr' ⟨status, solEnabled⟩ ⟨hattempts, hlast⟩
    obtain rfl : lastStatus (commands tr') = status := hlast
    have hlt : locals.channel.toNat < 255 := by omega
    have hnext := hsofar.append hlt hattempts solEnabled
    have hmore := toNat_succ_channel hlt
    simp only [pure_eq_ret, satisfies_ret, List.append_nil, commands_append, commands_nil, hmore]
    exact ⟨⟨hnext, by omega⟩, by omega⟩
  · have hlast : locals.channel.toNat - 1 = maxSOLChannels.toNat := by omega
    simpa [← hlast] using ⟨hsofar.scanned, hsofar.lastStatus_eq⟩

/-- The counter never exceeds 255. -/
theorem solStatusEntryPoint_endless (hmax : maxSOLChannels.toNat = 255) :
    (solStatusEntryPoint stack sizeofResponse fuel maxSOLChannels).Satisfies True
      fun _ _ => False := by
  refine satisfies_loop (I := fun _ _ => True) (fun tr locals _ => ?_) fuel trivial
  have hchannel : locals.channel ≤ maxSOLChannels := by
    have hlt := locals.channel.toNat_lt
    exact UInt8.le_iff_toNat_le.2 (by omega)
  rw [scanIteration, if_pos hchannel]
  exact satisfies_bind.2 (satisfies_of_forall fun _ _ => trivial)

/-! ### The channel numbers -/

theorem toNat_channelNumber (channel : UInt8) :
    (channelNumber channel).toNat = channel.toNat % 16 := by
  rw [channelNumber, UInt8.toNat_and]
  exact Nat.and_two_pow_sub_one_eq_mod _ 4

/-- Only four bits of the channel are sent. -/
theorem channelOf_scanCall (i : ℕ) : channelOf (scanCall sizeofResponse i) = UInt8.ofNat (i % 16) := by
  apply UInt8.toNat_inj.1
  change (channelNumber (channelNumber (UInt8.ofNat i))).toNat = _
  rw [toNat_channelNumber, toNat_channelNumber, UInt8.toNat_ofNat', UInt8.toNat_ofNat']
  omega

/-- The channel numbers in the requests of the driver. -/
theorem scanned_requests {tr : List SolEvent} {n : ℕ}
    (h : Scanned (scanCall sizeofResponse) n (commands tr)) :
    Scanned (fun i => UInt8.ofNat (i % 16)) n (requests tr) :=
  (h.map channelOf).congr fun i _ => channelOf_scanCall i

/-- The 16th channel is sent as channel 0. -/
theorem not_scanned_requests {tr : List SolEvent} {n : ℕ} (hlt : 15 < n) (hn : n < 256)
    (h : Scanned (scanCall sizeofResponse) n (commands tr)) :
    ¬ Scanned UInt8.ofNat n (requests tr) := by
  intro hscanned
  obtain ⟨a, ha, hzero⟩ := (scanned_requests h).exists_mem (i := 16) (by decide) hlt
  obtain ⟨i, hpos, hi, heq⟩ := hscanned.exists_eq ha
  have hmod : i % 256 = 0 := by
    rw [← UInt8.toNat_ofNat', ← heq, hzero]
    rfl
  omega

/-- Given enough fuel, the driver returns, and the channel numbers in its requests are those of the
channels, each of them one to ten times. -/
def ScansChannels {σ : Type} (sizeofResponse : UInt32) (maxSOLChannels : UInt8)
    (bmc : Handler SolCall SolCall.Answer σ) (s : σ) : Prop :=
  ∃ enough, ∀ fuel ≥ enough, ∃ status tr s',
    (solStatusEntryPoint stack sizeofResponse fuel maxSOLChannels).exec bmc s = some (status, tr, s') ∧
      Scanned UInt8.ofNat maxSOLChannels.toNat (requests tr)

variable {σ : Type} {bmc : Handler SolCall SolCall.Answer σ} {s : σ}

theorem scansChannels_of_le (hmax : maxSOLChannels.toNat ≤ 15) :
    ScansChannels stack sizeofResponse maxSOLChannels bmc s := by
  refine ⟨256, fun fuel hfuel => ?_⟩
  have hlt : maxSOLChannels.toNat < 255 := by omega
  obtain ⟨status, tr, s', hrun, hscanned, -⟩ :=
    (solStatusEntryPoint_scanned stack hlt hfuel).exists_exec bmc s
  refine ⟨status, tr, s', hrun, (scanned_requests hscanned).congr fun i hi => ?_⟩
  rw [Nat.mod_eq_of_lt (by omega)]

theorem not_scansChannels_of_lt (hmax : 15 < maxSOLChannels.toNat) :
    ¬ ScansChannels stack sizeofResponse maxSOLChannels bmc s := by
  rintro ⟨enough, hscans⟩
  obtain ⟨status, tr, s', hrun, hscanned⟩ := hscans (max enough 256) (Nat.le_max_left _ _)
  by_cases hlast : maxSOLChannels.toNat = 255
  · exact (solStatusEntryPoint_endless stack hlast).of_exec hrun
  · have hbyte := maxSOLChannels.toNat_lt
    have hlt : maxSOLChannels.toNat < 255 := by omega
    have hcalls := ((solStatusEntryPoint_scanned stack hlt (Nat.le_max_right _ _)).of_exec hrun).1
    exact not_scanned_requests hmax (by omega) hcalls hscanned

/-- **When the channels are scanned.**  Whatever the commands are answered with, the driver returns
and asks for the channels it should exactly if there are at most 15 of them: the next one does not
fit into the request, and a byte never exceeds 255. -/
theorem solStatusEntryPoint_scans_iff {σ : Type} (stack : Memory UInt8) (sizeofResponse : UInt32)
    (maxSOLChannels : UInt8) (bmc : Handler SolCall SolCall.Answer σ) (s : σ) :
    ScansChannels stack sizeofResponse maxSOLChannels bmc s ↔ maxSOLChannels.toNat ≤ 15 :=
  ⟨fun h => Nat.not_lt.1 fun hlt => not_scansChannels_of_lt stack hlt h, scansChannels_of_le stack⟩

/-- A BMC that answers every command with a response of zeros. -/
def answeringBmc : Handler SolCall SolCall.Answer Unit
  | .submit _, s => (⟨.success, [0, 0, 0], 3⟩, s)
  | .stall _, s => ((), s)

/-- It is asked for channel 0 instead of channel 16, and for 255 channels without end. -/
theorem solStatusEntryPoint_not_scans :
    ¬ ScansChannels (fun _ => 0) 3 16 answeringBmc () ∧
      ¬ ScansChannels (fun _ => 0) 3 255 answeringBmc () :=
  ⟨not_scansChannels_of_lt _ (by decide), not_scansChannels_of_lt _ (by decide)⟩

end

end SolStatus

end IpmiFeature
