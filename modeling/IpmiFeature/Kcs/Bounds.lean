import IpmiFeature.Interaction.Calls
import IpmiFeature.Interaction.Run
import IpmiFeature.Interaction.Words
import IpmiFeature.Kcs.Basic

/-!
# How long a call of the KCS driver takes

Bounds on the port reads of the driver, whatever the registers return: a poll ends when it has timed
out, so a status check, an abort and a receive are bounded (`receiveBmcDataFromPort_bounded`).  The
first loop of `SendDataToBmc` goes on after an abort that succeeds, with the status that was read
before it; a send is bounded unless that happens when the loop has timed out
(`sendDataToBmcPort_bounded`), and else may not end at all (`sendDataToBmcPort_stalls`).
-/

namespace IpmiFeature

open Interaction Prog

namespace Kcs

/-- The accesses that are counted. -/
def isRead : PortCall → Bool
  | .ioRead8 _ => true
  | .ioWrite8 _ _ => false

/-- The number of port reads in a trace. -/
def portReads (tr : List PortEvent) : ℕ := calls isRead tr

/-! ### The bounds -/

/-- The reads of a poll. -/
def pollBound (period : UInt64) : ℕ := period.toNat + 1

/-- The reads of an abort: six polls and three bytes. -/
def abortBound (period : UInt64) : ℕ := 6 * pollBound period + 3

/-- The reads of a status check: two polls and two bytes, or a poll, a byte and an abort. -/
def checkBound (period : UInt64) : ℕ := 2 * pollBound period + 2 + abortBound period

/-- The reads of a receive with the capacity `capacity`: a status check for each byte and one more,
and an abort after it. -/
def receiveBound (period : UInt64) (capacity : ℕ) : ℕ :=
  (capacity + 1) * (checkBound period + 1) + abortBound period

/-- The fuel that is enough for a message or a buffer of up to 255 bytes. -/
def enoughFuel (period : UInt64) : ℕ := period.toNat + 256

section

variable {α : Type} {n : ℕ} {Q : α → Prop} {fuel : ℕ} {period : UInt64} {counted : PortCall → Bool}

theorem makesAtMost_ioRead8_bind {reg : Reg} {f : UInt8 → PortProg α}
    (hf : ∀ v, (f v).MakesAtMost counted n Q) :
    (ioRead8 reg >>= f).MakesAtMost counted (n + 1) Q := makesAtMost_call hf

theorem makesAtMost_ioWrite8_bind (hwrite : ∀ reg value, counted (.ioWrite8 reg value) = false)
    {reg : Reg} {value : UInt8} {f : Unit → PortProg α} (hf : (f ()).MakesAtMost counted n Q) :
    (ioWrite8 reg value >>= f).MakesAtMost counted n Q :=
  makesAtMost_call_of_not (hwrite reg value) fun _ => hf

theorem isRead_ioWrite8 (reg : Reg) (value : UInt8) : isRead (.ioWrite8 reg value) = false := rfl

/-- What a read of the data register adds to the count. -/
def dataReadCost (counted : PortCall → Bool) : ℕ := if counted (.ioRead8 .kcsPort) then 1 else 0

theorem makesAtMost_dataRead_bind {f : UInt8 → PortProg α}
    (hf : ∀ v, (f v).MakesAtMost counted n Q) :
    (ioRead8 .kcsPort >>= f).MakesAtMost counted (n + dataReadCost counted) Q := by
  unfold dataReadCost
  split_ifs with hcounted
  · exact makesAtMost_call hf
  · exact makesAtMost_call_of_not (by simpa using hcounted) hf

/-! ### Polls, aborts and checks -/

theorem pollStatus_bounded (hfuel : period.toNat < fuel) (busy : KcsStatus → Bool) :
    (pollStatus fuel period busy).MakesAtMost counted (pollBound period) fun _ => True := by
  have hloop : (pollStatus fuel period busy).MakesAtMost counted
      ((period.toNat - (0 : UInt64).toNat + 1) * 1) fun _ => True := by
    refine makesAtMost_loop (I := fun _ => True)
      (fun timeOut : UInt64 => period.toNat - timeOut.toNat) ?_ trivial hfuel
    intro timeOut _
    refine makesAtMost_ioRead8_bind fun v => ?_
    dsimp only
    split_ifs with hfail hbusy
    · exact makesAtMost_ret trivial
    · have hbefore : timeOut < period := UInt64.not_le.1 fun h => hfail (.inr h)
      have hlt : timeOut.toNat < period.toNat := UInt64.lt_iff_toNat_lt.1 hbefore
      refine makesAtMost_ret ⟨trivial, ?_⟩
      rw [toNat_succ_long hbefore]
      omega
    · exact makesAtMost_ret trivial
  exact hloop.mono (Nat.le_of_eq (Nat.mul_one _)) fun _ h => h

/-- A poll that is left by an exit without further reads when it fails. -/
theorem makesAtMost_poll_bind (hfuel : period.toNat < fuel) {busy : KcsStatus → Bool}
    {f : Option KcsStatus → PortProg α} (hf : ∀ s, (f s).MakesAtMost counted n Q) :
    (pollStatus fuel period busy >>= f).MakesAtMost counted (pollBound period + n) Q :=
  (pollStatus_bounded hfuel busy).bind fun s _ => hf s

/-- The calls of an abort that are counted: six polls and three bytes. -/
def abortCost (counted : PortCall → Bool) (period : UInt64) : ℕ :=
  6 * pollBound period + 3 * dataReadCost counted

/-- One round of the abort: it is over, or the retry count has gone up. -/
theorem kcsErrorExitRound_makesAtMost (hfuel : period.toNat < fuel)
    (hwrite : ∀ reg value, counted (.ioWrite8 reg value) = false) {retryCount : ℕ}
    (hcount : retryCount < kcsAbortRetryCount) :
    (kcsErrorExitRound fuel period retryCount).MakesAtMost counted (abortCost counted period)
      (Iter.Holds (fun retryCount' => True ∧ retryCount' = retryCount + 1) fun _ => True) := by
  have hcost : pollBound period + (pollBound period + (pollBound period + (pollBound period +
      (pollBound period + (pollBound period + (0 + dataReadCost counted)) + dataReadCost counted)) +
        dataReadCost counted)) = abortCost counted period := by
    unfold abortCost
    omega
  rw [← hcost, kcsErrorExitRound, if_pos hcount]
  refine makesAtMost_poll_bind hfuel fun s₁ => ?_
  cases s₁ with
  | none => exact makesAtMost_ret trivial
  | some s₁ =>
  refine makesAtMost_ioWrite8_bind hwrite (makesAtMost_poll_bind hfuel fun s₂ => ?_)
  cases s₂ with
  | none => exact makesAtMost_ret trivial
  | some s₂ =>
  refine makesAtMost_dataRead_bind fun v₁ => makesAtMost_ioWrite8_bind hwrite ?_
  refine makesAtMost_poll_bind hfuel fun s₃ => ?_
  cases s₃ with
  | none => exact makesAtMost_ret trivial
  | some s₃ =>
  dsimp only
  by_cases hread : s₃.state = .read
  · rw [if_pos hread]
    refine makesAtMost_poll_bind hfuel fun s₄ => ?_
    cases s₄ with
    | none => exact makesAtMost_ret trivial
    | some s₄ =>
    refine makesAtMost_dataRead_bind fun v₂ => makesAtMost_ioWrite8_bind hwrite ?_
    refine makesAtMost_poll_bind hfuel fun s₅ => ?_
    cases s₅ with
    | none => exact makesAtMost_ret trivial
    | some s₅ =>
    dsimp only
    by_cases hidle : s₅.state = .idle
    · rw [if_pos hidle]
      refine makesAtMost_poll_bind hfuel fun s₆ => ?_
      cases s₆ with
      | none => exact makesAtMost_ret trivial
      | some s₆ => exact makesAtMost_dataRead_bind fun v₃ => makesAtMost_ret trivial
    · rw [if_neg hidle]
      exact makesAtMost_ret ⟨trivial, rfl⟩
  · rw [if_neg hread]
    exact makesAtMost_ret ⟨trivial, rfl⟩

/-- An abort, whichever reads are counted. -/
theorem kcsErrorExit_makesAtMost (hfuel : period.toNat < fuel) (hrounds : 1 < fuel)
    (hwrite : ∀ reg value, counted (.ioWrite8 reg value) = false) :
    (kcsErrorExit fuel period).MakesAtMost counted (abortCost counted period) fun _ => True := by
  have hloop : (loop (kcsErrorExitRound fuel period) fuel 0).MakesAtMost counted
      ((kcsAbortRetryCount - 0) * abortCost counted period) fun _ => True := by
    refine makesAtMost_loop_upTo (I := fun _ => True) (fun retryCount : ℕ => retryCount)
      (fun retryCount _ hcount => kcsErrorExitRound_makesAtMost hfuel hwrite hcount)
      (fun retryCount _ hcount => ?_) trivial hrounds
    rw [kcsErrorExitRound, if_neg hcount]
    exact makesAtMost_ret trivial
  have hone : (kcsAbortRetryCount - 0) * abortCost counted period = abortCost counted period :=
    Nat.one_mul _
  unfold kcsErrorExit
  rw [hone] at hloop
  refine hloop.bind (n := 0) fun r _ => ?_
  cases r with
  | error status => exact makesAtMost_ret trivial
  | ok retryCount =>
    dsimp only
    split_ifs <;> exact makesAtMost_ret trivial

theorem kcsErrorExit_bounded (hfuel : period.toNat < fuel) (hrounds : 1 < fuel) :
    (kcsErrorExit fuel period).MakesAtMost isRead (abortBound period) fun _ => True :=
  kcsErrorExit_makesAtMost hfuel hrounds isRead_ioWrite8

theorem kcsCheckOutput_bounded (hfuel : period.toNat < fuel) (kcsState : KcsState) (idle : Bool) :
    (kcsCheckOutput fuel period kcsState idle).MakesAtMost isRead (pollBound period + 1)
      fun _ => True := by
  unfold kcsCheckOutput
  dsimp only
  by_cases hstate : kcsState = .read
  · rw [if_pos hstate]
    refine makesAtMost_poll_bind hfuel fun s => ?_
    cases s with
    | none => exact makesAtMost_ret trivial
    | some s =>
    rw [if_neg (by simp)]
    split_ifs
    · exact makesAtMost_ioRead8_bind fun v => makesAtMost_ret trivial
    · exact makesAtMost_ret trivial
  · rw [if_neg hstate]
    split_ifs
    · exact makesAtMost_ioRead8_bind fun v => makesAtMost_ret trivial
    · exact makesAtMost_ret trivial

theorem kcsCheckStatus_bounded (hfuel : period.toNat < fuel) (hrounds : 1 < fuel)
    (kcsState : KcsState) :
    (kcsCheckStatus fuel period kcsState).MakesAtMost isRead (checkBound period) fun _ => True := by
  have hrest : ∀ s : KcsStatus, ((if s.state ≠ kcsState then
        if s.state = .idle ∧ kcsState = .read then kcsCheckOutput fuel period kcsState true
        else do return (← kcsErrorExit fuel period, false)
      else kcsCheckOutput fuel period kcsState false :
        PortProg (EfiStatus × Bool))).MakesAtMost isRead (pollBound period + 1 + abortBound period)
          fun _ => True := by
    intro s
    split_ifs
    · exact (kcsCheckOutput_bounded hfuel kcsState true).mono (Nat.le_add_right _ _) fun _ h => h
    · have habort := (kcsErrorExit_bounded hfuel hrounds).bind (n := 0)
        (Q := fun _ : EfiStatus × Bool => True)
        (f := fun status => .ret (status, false)) fun _ _ => makesAtMost_ret trivial
      exact habort.mono (Nat.le_add_left _ _) fun _ h => h
    · exact (kcsCheckOutput_bounded hfuel kcsState false).mono (Nat.le_add_right _ _) fun _ h => h
  have hbound : pollBound period + (pollBound period + 1 + abortBound period + 1) =
      checkBound period := by
    unfold checkBound
    omega
  rw [← hbound]
  unfold kcsCheckStatus
  refine makesAtMost_poll_bind hfuel fun s => ?_
  cases s with
  | none => exact makesAtMost_ret trivial
  | some s =>
  dsimp only
  by_cases hstate : kcsState = .write
  · rw [if_pos hstate]
    exact makesAtMost_ioRead8_bind fun v => hrest s
  · rw [if_neg hstate]
    exact (hrest s).mono (Nat.le_succ _) fun _ h => h

/-! ### Receiving -/

variable {data : Memory UInt8} {dataSize : UInt8}

/-- What a receive keeps: it writes inside the buffer only, and it leaves `*DataSize` alone unless
it succeeds. -/
structure Contained (data : Memory UInt8) (dataSize : UInt8) (received : Received) : Prop where
  /-- What follows the buffer. -/
  data_eq : ∀ i, dataSize.toNat ≤ i → received.data i = data i
  /-- The size is no larger than the capacity. -/
  dataSize_le : received.dataSize ≤ dataSize
  /-- The size after a failure. -/
  dataSize_eq : received.status ≠ .success → received.dataSize = dataSize

/-- The state of the receive loop: the bytes so far are inside the buffer. -/
def Inside (data : Memory UInt8) (dataSize : UInt8) (s : ℕ × Memory UInt8) : Prop :=
  s.1 ≤ dataSize.toNat ∧ ∀ i, dataSize.toNat ≤ i → s.2 i = data i

theorem receiveByte_bounded (hfuel : period.toNat < fuel) (hrounds : 1 < fuel)
    {s : ℕ × Memory UInt8} (hs : Inside data dataSize s) :
    (receiveByte fuel period dataSize s).MakesAtMost isRead (checkBound period + 1)
      (Iter.Holds (fun s' => Inside data dataSize s' ∧ dataSize.toNat - s'.1 < dataSize.toNat - s.1)
        (Contained data dataSize)) := by
  obtain ⟨count, m⟩ := s
  obtain ⟨hcount, hdata⟩ := hs
  unfold receiveByte
  refine (kcsCheckStatus_bounded hfuel hrounds .read).bind fun r _ => ?_
  obtain ⟨status, idle⟩ := r
  dsimp only
  split_ifs with hfailed hidle hfull
  · exact makesAtMost_ret ⟨hdata, UInt8.le_refl _, fun _ => rfl⟩
  · have hsize : (UInt8.ofNat count).toNat = count :=
      UInt8.toNat_ofNat_of_lt' (Nat.lt_of_le_of_lt hcount dataSize.toNat_lt)
    refine makesAtMost_ret ⟨hdata, ?_, fun hne => absurd rfl hne⟩
    rw [UInt8.le_iff_toNat_le, hsize]
    exact hcount
  · exact makesAtMost_ret ⟨hdata, UInt8.le_refl _, fun _ => rfl⟩
  · refine makesAtMost_ioRead8_bind fun byte => makesAtMost_ioWrite8_bind isRead_ioWrite8 ?_
    refine makesAtMost_ret ⟨⟨Nat.not_le.1 hfull, fun i hi => ?_⟩, ?_⟩
    · change m.store count [byte] i = data i
      rw [Memory.store_of_le (show count + 1 ≤ i by omega)]
      exact hdata i hi
    · change dataSize.toNat - (count + 1) < dataSize.toNat - count
      omega

theorem receiveBmcData_bounded (hfuel : enoughFuel period ≤ fuel) (data : Memory UInt8)
    (dataSize : UInt8) :
    (receiveBmcData fuel period data dataSize).MakesAtMost isRead
      ((dataSize.toNat + 1) * (checkBound period + 1)) (Contained data dataSize) := by
  have hsize : dataSize.toNat < 256 := dataSize.toNat_lt
  unfold enoughFuel at hfuel
  have hpoll : period.toNat < fuel := by omega
  have hrounds : 1 < fuel := by omega
  exact makesAtMost_loop (I := Inside data dataSize) (Q := Contained data dataSize)
    (fun s => dataSize.toNat - s.1) (fun s hs => receiveByte_bounded hpoll hrounds hs)
    ⟨Nat.zero_le _, fun _ _ => rfl⟩ (show dataSize.toNat - 0 < fuel by omega)

theorem Contained.trans {m : Memory UInt8} {received : Received}
    (h : Contained m dataSize received) (hm : ∀ i, dataSize.toNat ≤ i → m i = data i) :
    Contained data dataSize received :=
  ⟨fun i hi => (h.data_eq i hi).trans (hm i hi), h.dataSize_le, h.dataSize_eq⟩

theorem receiveBmcDataFromPort_makesAtMost (hfuel : enoughFuel period ≤ fuel) (data : Memory UInt8)
    (dataSize : UInt8) :
    (receiveBmcDataFromPort fuel period data dataSize).MakesAtMost isRead
      (receiveBound period dataSize.toNat) (Contained data dataSize) := by
  have hfuel' : period.toNat + 256 ≤ fuel := hfuel
  have hpoll : period.toNat < fuel := by omega
  have hrounds : 1 < fuel := by omega
  have hone : (kcsAbortRetryCount - 0) * receiveBound period dataSize.toNat =
      receiveBound period dataSize.toNat := Nat.one_mul _
  rw [← hone]
  refine makesAtMost_loop_upTo
    (I := fun s : ℕ × Memory UInt8 => ∀ i, dataSize.toNat ≤ i → s.2 i = data i) (fun s => s.1)
    ?_ ?_ (fun _ _ => rfl) hrounds
  · rintro ⟨i, m⟩ hm hi
    dsimp only
    rw [if_pos hi]
    refine (receiveBmcData_bounded hfuel m dataSize).bind fun received hreceived => ?_
    have hcontained := hreceived.trans hm
    by_cases hfailed : received.status.isError
    · rw [if_pos hfailed]
      have hsize := hreceived.dataSize_eq (EfiStatus.isError_iff.1 hfailed)
      have habort := kcsErrorExit_bounded hpoll hrounds
      refine MakesAtMost.mono (habort.bind (n := 0) fun status _ => ?_) (Nat.le_refl _) fun _ h => h
      split_ifs
      · exact makesAtMost_ret ⟨hcontained.data_eq, hcontained.dataSize_le, fun _ => hsize⟩
      · exact makesAtMost_ret ⟨hcontained.data_eq, rfl⟩
    · rw [if_neg hfailed]
      exact makesAtMost_ret hcontained
  · rintro ⟨i, m⟩ hm hi
    dsimp only
    rw [if_neg hi]
    exact makesAtMost_ret ⟨hm, UInt8.le_refl _, fun _ => rfl⟩

/-- **Receive is bounded.**  Whatever the registers return, `ReceiveBmcDataFromPort` returns, after
a number of port reads that is bounded by a function of the timeout and the capacity.  It writes to
the buffer only, `*DataSize` is at most the capacity, and the capacity unless the receive succeeds.
-/
theorem receiveBmcDataFromPort_bounded {σ : Type} (bmc : Handler PortCall PortCall.Answer σ) (s : σ)
    (period : UInt64) (data : Memory UInt8) (dataSize : UInt8) {fuel : ℕ}
    (hfuel : enoughFuel period ≤ fuel) : ∃ received tr s',
      (receiveBmcDataFromPort fuel period data dataSize).exec bmc s = some (received, tr, s') ∧
        portReads tr ≤ receiveBound period dataSize.toNat ∧ Contained data dataSize received :=
  (receiveBmcDataFromPort_makesAtMost hfuel data dataSize).exists_exec bmc s

theorem receiveBmcDataFromPort_bounded_plain : ∃ received tr s',
    (receiveBmcDataFromPort 258 2 (fun _ => 0) 3).exec replay [0x40, 0x41, 0x1C] =
        some (received, tr, s') ∧
      portReads tr ≤ receiveBound 2 3 ∧ Contained (fun _ => 0) 3 received :=
  receiveBmcDataFromPort_bounded replay [0x40, 0x41, 0x1C] 2 (fun _ => 0) 3 (by decide)

end

/-! ### The first loop of a send -/

section

variable {σ : Type} {bmc : Handler PortCall PortCall.Answer σ} {fuel : ℕ} {period : UInt64} {s s₁ : σ}

/-- What a read of the status register returns, and the state of the BMC after it. -/
def readStatus (bmc : Handler PortCall PortCall.Answer σ) (s : σ) : KcsStatus × σ :=
  (⟨(bmc (.ioRead8 .kcsCmdReg) s).1⟩, (bmc (.ioRead8 .kcsCmdReg) s).2)

/-- The BMC goes through with an abort, from one state to another. -/
def Aborts (bmc : Handler PortCall PortCall.Answer σ) (period : UInt64) (s s' : σ) : Prop :=
  ∃ fuel tr, (kcsErrorExit fuel period).exec bmc s = some (.success, tr, s')

/-- Poll `k` of the first loop finds IBF set and is not the last one: there is no reason for an
abort, or the BMC goes through with it. -/
def PollsAgain (bmc : Handler PortCall PortCall.Answer σ) (period : UInt64) (k : ℕ) (s s' : σ) :
    Prop :=
  (readStatus bmc s).1.ibf ∧
    if (readStatus bmc s).1.rawData = 0xFF ∨ period.toNat ≤ k then
      Aborts bmc period (readStatus bmc s).2 s'
    else
      s' = (readStatus bmc s).2

/-- The state of the BMC before poll `k` of the first loop. -/
inductive Waits (bmc : Handler PortCall PortCall.Answer σ) (period : UInt64) (s : σ) : ℕ → σ → Prop
  /-- The first poll. -/
  | start : Waits bmc period s 0 s
  /-- A later poll. -/
  | poll {k : ℕ} {s₁ s₂ : σ} (h : Waits bmc period s k s₁) (hpoll : PollsAgain bmc period k s₁ s₂) :
      Waits bmc period s (k + 1) s₂

/-- When the first loop has timed out, the BMC shows IBF and yet goes through with the abort. -/
def Stalls (bmc : Handler PortCall PortCall.Answer σ) (period : UInt64) (s : σ) : Prop :=
  ∃ s₁ s₂, Waits bmc period s period.toNat s₁ ∧ (readStatus bmc s₁).1.ibf ∧
    Aborts bmc period (readStatus bmc s₁).2 s₂

theorem toNat_ofNat_of_le {k : ℕ} (hk : k ≤ period.toNat) : (UInt64.ofNat k).toNat = k :=
  UInt64.toNat_ofNat_of_lt' (Nat.lt_of_le_of_lt hk period.toNat_lt)

/-- What a poll of the first loop does with the status it has read and with what the abort has
returned. -/
def afterPoll (timeOut : UInt64) (kcsStatus : KcsStatus) (status : EfiStatus) :
    Iter UInt64 (Option EfiStatus) :=
  if status ≠ .success then .done (some status)
  else if kcsStatus.ibf then .again (timeOut + 1)
  else .done none

/-- The run of a poll: the read of the status, and the abort if there is a reason for it. -/
theorem waitPoll_exec {timeOut : UInt64} {status : EfiStatus} {tr : List PortEvent} {s' : σ}
    (hrun : (if (readStatus bmc s).1.rawData = 0xFF ∨ timeOut ≥ period then
        kcsErrorExit fuel period else pure .success).exec bmc (readStatus bmc s).2 =
      some (status, tr, s')) :
    (waitPoll fuel period timeOut).exec bmc s =
      some (afterPoll timeOut (readStatus bmc s).1 status,
        statusRead (readStatus bmc s).1.rawData :: tr, s') := by
  have hread : (ioRead8 .kcsCmdReg).exec bmc s =
      some ((readStatus bmc s).1.rawData, [statusRead (readStatus bmc s).1.rawData],
        (readStatus bmc s).2) := rfl
  have hlast : (if status ≠ .success then pure (.done (some status))
      else if (readStatus bmc s).1.ibf then pure (.again (timeOut + 1))
      else pure (.done none) : PortProg (Iter UInt64 (Option EfiStatus))).exec bmc s' =
        some (afterPoll timeOut (readStatus bmc s).1 status, [], s') := by
    unfold afterPoll
    split_ifs <;> rfl
  refine exec_bind hread ?_
  rw [← List.append_nil tr]
  dsimp only
  by_cases habort : (readStatus bmc s).1.rawData = 0xFF ∨ timeOut ≥ period
  · rw [if_pos habort] at hrun ⊢
    exact exec_bind hrun hlast
  · rw [if_neg habort] at hrun ⊢
    exact exec_bind hrun hlast

variable (bmc) in
/-- A poll makes one read and at most one abort; then the loop polls again, or it is left. -/
theorem exists_waitPoll_exec (hfuel : period.toNat < fuel) (hrounds : 1 < fuel) {k : ℕ}
    (hk : k ≤ period.toNat) (s : σ) : ∃ i tr s',
      (waitPoll fuel period (UInt64.ofNat k)).exec bmc s = some (i, tr, s') ∧
        portReads tr ≤ abortBound period + 1 ∧
          (i = .again (UInt64.ofNat (k + 1)) ∧ PollsAgain bmc period k s s' ∨ ∃ b, i = .done b) := by
  have htimeOut : UInt64.ofNat k ≥ period ↔ period.toNat ≤ k := by
    rw [ge_iff_le, UInt64.le_iff_toNat_le, toNat_ofNat_of_le hk]
  have hnext : UInt64.ofNat k + 1 = UInt64.ofNat (k + 1) := (UInt64.ofNat_add k 1).symm
  -- the poll goes on only if there was no abort, or the BMC went through with it, and IBF is set
  have hrest : ∀ (status : EfiStatus) (s' : σ),
      (status = .success → (readStatus bmc s).1.ibf → PollsAgain bmc period k s s') →
      (afterPoll (UInt64.ofNat k) (readStatus bmc s).1 status = .again (UInt64.ofNat (k + 1)) ∧
        PollsAgain bmc period k s s' ∨
          ∃ b, afterPoll (UInt64.ofNat k) (readStatus bmc s).1 status = .done b) := by
    intro status s' hagain
    unfold afterPoll
    split_ifs with hstatus hibf
    · exact .inr ⟨_, rfl⟩
    · exact .inl ⟨by rw [hnext], hagain (not_not.1 hstatus) hibf⟩
    · exact .inr ⟨_, rfl⟩
  by_cases habort : (readStatus bmc s).1.rawData = 0xFF ∨ UInt64.ofNat k ≥ period
  · obtain ⟨status, tr, s', hrun, hreads, -⟩ :=
      (kcsErrorExit_bounded hfuel hrounds).exists_exec bmc (readStatus bmc s).2
    refine ⟨_, _, s', waitPoll_exec (by rw [if_pos habort]; exact hrun),
      Nat.le_trans (calls_cons_le _ _ _) (Nat.succ_le_succ hreads),
      hrest status s' fun hstatus hibf => ⟨hibf, ?_⟩⟩
    rw [htimeOut] at habort
    rw [if_pos habort]
    exact ⟨fuel, tr, hstatus ▸ hrun⟩
  · refine ⟨_, _, (readStatus bmc s).2, waitPoll_exec (by rw [if_neg habort]; rfl),
      Nat.le_trans (calls_cons_le _ _ _) (Nat.succ_le_succ (Nat.zero_le _)),
      hrest .success _ fun _ hibf => ⟨hibf, ?_⟩⟩
    rw [htimeOut] at habort
    rw [if_neg habort]

/-- The bound on the reads of the first loop. -/
def waitBound (period : UInt64) : ℕ := pollBound period * (abortBound period + 1)

/-- The first loop from poll `k` on, if the BMC does not stall it. -/
theorem wait_exec (hfuel : period.toNat < fuel) (hrounds : 1 < fuel)
    (hstalls : ¬ Stalls bmc period s) : ∀ (n k : ℕ) (s₁ : σ), Waits bmc period s k s₁ →
      k ≤ period.toNat → period.toNat - k < n → ∃ b tr s',
        (loop (waitPoll fuel period) n (UInt64.ofNat k)).exec bmc s₁ = some (b, tr, s') ∧
          portReads tr ≤ (period.toNat - k + 1) * (abortBound period + 1) := by
  intro n
  induction n with
  | zero => intro k s₁ _ _ hn; exact absurd hn (Nat.not_lt_zero _)
  | succ n ih =>
    intro k s₁ hwaits hk hn
    obtain ⟨i, tr, s', hrun, hreads, hagain | ⟨b, rfl⟩⟩ :=
      exists_waitPoll_exec bmc hfuel hrounds hk s₁
    · obtain ⟨rfl, hpoll⟩ := hagain
      -- the last poll does not go on: the BMC does not go through with its abort
      have hlt : k < period.toNat := by
        refine Nat.lt_of_le_of_ne hk fun heq => hstalls ?_
        subst heq
        obtain ⟨hibf, habort⟩ := hpoll
        rw [if_pos (.inr (Nat.le_refl _))] at habort
        exact ⟨s₁, s', hwaits, hibf, habort⟩
      obtain ⟨b, tr', s'', hrun', hreads'⟩ := ih (k + 1) s' (.poll hwaits hpoll) hlt (by omega)
      refine ⟨b, tr ++ tr', s'', exec_bind hrun hrun', ?_⟩
      have hsub : period.toNat - k = period.toNat - (k + 1) + 1 := by omega
      have hmore : portReads (tr ++ tr') = portReads tr + portReads tr' := calls_append _ _ _
      rw [hmore, hsub, Nat.succ_mul (period.toNat - (k + 1) + 1)]
      omega
    · refine ⟨b, tr ++ [], s', exec_bind hrun rfl, ?_⟩
      rw [List.append_nil]
      exact Nat.le_trans hreads (Nat.le_mul_of_pos_left _ (Nat.succ_pos _))

/-! ### Sending -/

/-- The reads of a send of `size` bytes: the first loop, a status check, up to two for each byte,
and an abort. -/
def sendBound (period : UInt64) (size : ℕ) : ℕ :=
  waitBound period + (checkBound period + (size + 1) * (checkBound period + checkBound period)) +
    abortBound period

theorem sendByte_bounded (hfuel : period.toNat < fuel) (hrounds : 1 < fuel) (data : Message)
    (i : ℕ) :
    (sendByte fuel period data i).MakesAtMost isRead (checkBound period + checkBound period)
      (Iter.Holds (fun i' => i' ≤ data.bytes.length ∧ data.bytes.length - i' < data.bytes.length - i)
        fun _ => True) := by
  have hcheck := kcsCheckStatus_bounded hfuel hrounds .write
  have hwrite : (writeEnd fuel period).MakesAtMost isRead (checkBound period) fun _ => True := by
    unfold writeEnd
    refine MakesAtMost.bind (n := 0) hcheck fun r _ => ?_
    dsimp only
    split_ifs
    · exact makesAtMost_ret trivial
    · exact makesAtMost_ioWrite8_bind isRead_ioWrite8 (makesAtMost_ret trivial)
  unfold sendByte
  by_cases hlt : i < data.bytes.length
  · rw [dif_pos hlt]
    have hrest : ∀ status : EfiStatus, ((if status ≠ .success then pure (.done status) else do
          let r ← kcsCheckStatus fuel period .write
          if r.1.isError then return .done r.1
          else
            ioWrite8 .kcsPort data.bytes[i]
            return .again (i + 1)) :
        PortProg (Iter ℕ EfiStatus)).MakesAtMost isRead (checkBound period)
          (Iter.Holds (fun i' => i' ≤ data.bytes.length ∧
            data.bytes.length - i' < data.bytes.length - i) fun _ => True) := by
      intro status
      split_ifs
      · exact makesAtMost_ret trivial
      · refine MakesAtMost.bind (n := 0) hcheck fun r _ => ?_
        split_ifs
        · exact makesAtMost_ret trivial
        · refine makesAtMost_ioWrite8_bind isRead_ioWrite8 (makesAtMost_ret ⟨hlt, ?_⟩)
          omega
    dsimp only
    split_ifs
    · exact hwrite.bind fun status _ => hrest status
    · exact (hrest .success).mono (Nat.le_add_left _ _) fun _ h => h
  · rw [dif_neg hlt]
    exact makesAtMost_ret trivial

/-- What follows the first loop. -/
theorem sendMessage_bounded (hfuel : enoughFuel period ≤ fuel) (data : Message) :
    (loop (sendByte fuel period data) fuel 0).MakesAtMost isRead
      ((data.bytes.length + 1) * (checkBound period + checkBound period)) fun _ => True := by
  have hsize := data.size_le
  unfold enoughFuel at hfuel
  exact makesAtMost_loop (I := fun i => i ≤ data.bytes.length) (fun i => data.bytes.length - i)
    (fun i _ => sendByte_bounded (by omega) (by omega) data i) (Nat.zero_le _)
    (show data.bytes.length - 0 < fuel by omega)

theorem sendDataToBmc_exec (hfuel : enoughFuel period ≤ fuel) (hstalls : ¬ Stalls bmc period s)
    (data : Message) : ∃ status tr s',
      (sendDataToBmc fuel period data).exec bmc s = some (status, tr, s') ∧
        portReads tr ≤ waitBound period + (checkBound period +
          (data.bytes.length + 1) * (checkBound period + checkBound period)) ∧ True := by
  have hfuel' : period.toNat + 256 ≤ fuel := hfuel
  have hpoll : period.toNat < fuel := by omega
  have hrounds : 1 < fuel := by omega
  obtain ⟨b, tr, s', hrun, hreads⟩ := wait_exec hpoll hrounds hstalls fuel 0 s .start (Nat.zero_le _)
    (show period.toNat - 0 < fuel by omega)
  refine MakesAtMost.exists_exec_bind (p := waitInputEmpty fuel period) hrun hreads ?_
  cases b with
  | some status => exact makesAtMost_ret trivial
  | none =>
    have hcheck := kcsCheckStatus_bounded hpoll hrounds .write
    refine makesAtMost_ioWrite8_bind isRead_ioWrite8 (hcheck.bind ?_)
    rintro ⟨status, idle⟩ -
    dsimp only
    split_ifs
    · exact makesAtMost_ret trivial
    · exact sendMessage_bounded hfuel data

/-- **Send is bounded, unless the BMC stalls it.**  If the BMC does not go through with an abort
while it shows IBF when the first loop has timed out, `SendDataToBmcPort` returns after a number of
port reads that is bounded by a function of the timeout and the size. -/
theorem sendDataToBmcPort_bounded (bmc : Handler PortCall PortCall.Answer σ) (s : σ)
    (period : UInt64) (data : Message) (hstalls : ¬ Stalls bmc period s) {fuel : ℕ}
    (hfuel : enoughFuel period ≤ fuel) : ∃ status tr s',
      (sendDataToBmcPort fuel period data).exec bmc s = some (status, tr, s') ∧
        portReads tr ≤ sendBound period data.bytes.length := by
  have hfuel' : period.toNat + 256 ≤ fuel := hfuel
  have hpoll : period.toNat < fuel := by omega
  have hrounds : 1 < fuel := by omega
  obtain ⟨n, rfl⟩ : ∃ n, fuel = n + 2 := ⟨fuel - 2, by omega⟩
  obtain ⟨status, tr, s', hrun, hreads, -⟩ := sendDataToBmc_exec hfuel hstalls data
  have hattempt := MakesAtMost.exists_exec_bind (n := abortBound period)
    (Q := Iter.Holds (fun i : ℕ => i = 1) fun _ => True) (f := fun status : EfiStatus => do
      if status.isError then
        let status ← kcsErrorExit (n + 2) period
        if status ≠ .success then return .done status else return .again (0 + 1)
      else return .done status) hrun hreads ?_
  · obtain ⟨i, tr', s'', hrun', hreads', hi⟩ := hattempt
    cases i with
    | again i =>
      obtain rfl : i = 1 := hi
      exact ⟨.deviceError, tr' ++ [], s'', exec_bind hrun' rfl, by rwa [List.append_nil]⟩
    | done b => exact ⟨b, tr' ++ [], s'', exec_bind hrun' rfl, by rwa [List.append_nil]⟩
  · split_ifs
    · refine MakesAtMost.mono ((kcsErrorExit_bounded hpoll hrounds).bind (n := 0)
        fun status' _ => ?_) (Nat.le_refl _) fun _ h => h
      split_ifs
      · exact makesAtMost_ret trivial
      · exact makesAtMost_ret rfl
    · exact makesAtMost_ret trivial

/-- A BMC that has taken every byte, with the interface in the WRITE state. -/
def readyBmc : Handler PortCall PortCall.Answer Unit
  | .ioRead8 _, s => (0x80, s)
  | .ioWrite8 _ _, s => ((), s)

theorem sendDataToBmcPort_bounded_ready : ∃ status tr s',
    (sendDataToBmcPort 258 2 ⟨[0x18, 0x01], by decide⟩).exec readyBmc () = some (status, tr, s') ∧
      portReads tr ≤ sendBound 2 2 := by
  refine sendDataToBmcPort_bounded readyBmc () 2 ⟨[0x18, 0x01], by decide⟩ ?_ (by decide)
  rintro ⟨s₁, s₂, -, hibf, -⟩
  exact absurd hibf (by decide : ¬ (readStatus readyBmc ()).1.ibf = true)

/-- A BMC that returns a status of `0xFF` before each abort, and goes through with the abort. -/
def stallingBmc : Handler PortCall PortCall.Answer (Fin 10)
  | .ioRead8 _, s =>
    ([0xFF, 0x00, 0x00, 0x00, 0x40, 0x41, 0x00, 0x00, 0x01, 0x00].get s, s + 1)
  | .ioWrite8 _ _, s => ((), s)

/-- Every poll of the first loop goes on. -/
theorem waitPoll_stallingBmc (m : ℕ) (timeOut : UInt64) : ∃ tr,
    (waitPoll (m + 1) 1 timeOut).exec stallingBmc 0 = some (.again (timeOut + 1), tr, 0) := by
  have habort : ∃ tr, (kcsErrorExit (m + 1) 1).exec stallingBmc 1 = some (.success, tr, 0) := ⟨_, rfl⟩
  obtain ⟨tr, hrun⟩ := habort
  have hpoll : (if (readStatus stallingBmc 0).1.rawData = 0xFF ∨ timeOut ≥ 1 then
      kcsErrorExit (m + 1) 1 else pure .success).exec stallingBmc (readStatus stallingBmc 0).2 =
        some (.success, tr, 0) := by
    rw [if_pos (.inl rfl)]
    exact hrun
  exact ⟨_, waitPoll_exec hpoll⟩

theorem waitInputEmpty_stallingBmc (m : ℕ) :
    (waitInputEmpty (m + 1) 1).exec stallingBmc 0 = none := by
  have hloop : ∀ (n : ℕ) (timeOut : UInt64),
      (loop (waitPoll (m + 1) 1) n timeOut).exec stallingBmc 0 = none := by
    intro n
    induction n with
    | zero => exact fun _ => rfl
    | succ n ih =>
      intro timeOut
      obtain ⟨tr, hrun⟩ := waitPoll_stallingBmc m timeOut
      rw [loop, exec_bind_eq hrun]
      exact Option.map_eq_none_iff.2 (ih (timeOut + 1))
  exact hloop (m + 1) 0

/-- With this BMC a send does not return. -/
theorem sendDataToBmcPort_stalls : Stalls stallingBmc 1 0 ∧ ∀ fuel,
    (sendDataToBmcPort fuel 1 ⟨[0x18, 0x01], by decide⟩).exec stallingBmc 0 = none := by
  have habort : Aborts stallingBmc 1 1 0 := ⟨1, _, rfl⟩
  constructor
  · refine ⟨0, 0, .poll .start ⟨rfl, ?_⟩, rfl, habort⟩
    rw [if_pos (.inl rfl)]
    exact habort
  · intro fuel
    cases fuel with
    | zero => rfl
    | succ m =>
      have hwait := waitInputEmpty_stallingBmc m
      exact exec_bind_eq_none (exec_bind_eq_none (exec_bind_eq_none hwait))

end

end Kcs

end IpmiFeature
