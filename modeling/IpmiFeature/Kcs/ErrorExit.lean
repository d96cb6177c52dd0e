import IpmiFeature.Kcs.Bounds
import IpmiFeature.Kcs.Receive
import IpmiFeature.Kcs.Send

/-!
# The error exit

What `KcsErrorExit` guarantees, whatever the registers return.  Its variable `Status` has no value
at first, and `LabelError` returns whatever it holds; so the function is stated once more with the
variable (`kcsErrorExitWithStatus`), and `kcsErrorExitWithStatus_eq` says that `kcsErrorExit` is the
same program with the values filled in.

* `kcsErrorExit_sound` : it returns within six polls, `EFI_SUCCESS` after a complete recovery and
  `EFI_DEVICE_ERROR` otherwise.
-/

namespace IpmiFeature

open Interaction Prog

namespace Kcs

/-! ### The variable `Status` -/

/-- The variables of `KcsErrorExit` that live from one round to the next. -/
structure ErrorExitVars where
  /-- `Status`, which is not initialized. -/
  status : Option EfiStatus
  /-- `RetryCount`. -/
  retryCount : ℕ

/-- `Status = EFI_DEVICE_ERROR`, and what `LabelError` returns then. -/
def gotoLabelError (v : ErrorExitVars) : Except (Option EfiStatus) ErrorExitVars :=
  let v := { v with status := some .deviceError }
  .error v.status

/-- One round of `KcsErrorExit`, with its variables.  The loop is left with the variables, or by
`goto LabelError`. -/
def kcsErrorExitRoundWithStatus (fuel : ℕ) (ipmiTimeoutPeriod : UInt64) (v : ErrorExitVars) :
    PortProg (Iter ErrorExitVars (Except (Option EfiStatus) ErrorExitVars)) :=
  if v.retryCount < kcsAbortRetryCount then do
    -- the `break` does not assign `Status`
    let some _ ← pollStatus fuel ipmiTimeoutPeriod (·.ibf)
      | return .done (.ok { v with retryCount := kcsAbortRetryCount })
    ioWrite8 .kcsCmdReg kcsAbort
    let some _ ← pollStatus fuel ipmiTimeoutPeriod (·.ibf)
      | return .done (gotoLabelError v)
    let _ ← ioRead8 .kcsPort
    ioWrite8 .kcsPort 0x0
    let some kcsStatus ← pollStatus fuel ipmiTimeoutPeriod (·.ibf)
      | return .done (gotoLabelError v)
    if kcsStatus.state = .read then
      let some _ ← pollStatus fuel ipmiTimeoutPeriod (!·.obf)
        | return .done (gotoLabelError v)
      let _ ← ioRead8 .kcsPort
      ioWrite8 .kcsPort kcsRead
      let some kcsStatus ← pollStatus fuel ipmiTimeoutPeriod (·.ibf)
        | return .done (gotoLabelError v)
      if kcsStatus.state = .idle then
        let some _ ← pollStatus fuel ipmiTimeoutPeriod (!·.obf)
          | return .done (gotoLabelError v)
        let _ ← ioRead8 .kcsPort
        return .done (.ok v)
      else
        return .again { v with retryCount := v.retryCount + 1 }
    else
      return .again { v with retryCount := v.retryCount + 1 }
  else
    return .done (.ok v)

/-- `KcsErrorExit`, with its variables: `none` is a `Status` that has not been assigned. -/
def kcsErrorExitWithStatus (fuel : ℕ) (ipmiTimeoutPeriod : UInt64) :
    PortProg (Option EfiStatus) := do
  match ← Prog.loop (kcsErrorExitRoundWithStatus fuel ipmiTimeoutPeriod) fuel ⟨none, 0⟩ with
  | .error status => return status
  | .ok v =>
    if v.retryCount ≥ kcsAbortRetryCount then
      let v := { v with status := some .deviceError }
      return v.status
    else
      return some .success

/-- How `kcsErrorExit` leaves the loop, with the variables. -/
def exitWithStatus : Except EfiStatus ℕ → Except (Option EfiStatus) ErrorExitVars
  | .error status => .error (some status)
  | .ok retryCount => .ok ⟨none, retryCount⟩

variable {fuel : ℕ} {period : UInt64}

/-- As long as the loop goes on, `Status` has not been assigned. -/
theorem kcsErrorExitRoundWithStatus_eq (fuel : ℕ) (period : UInt64) (retryCount : ℕ) :
    kcsErrorExitRoundWithStatus fuel period ⟨none, retryCount⟩ =
      Iter.map (ErrorExitVars.mk none) exitWithStatus <$>
        kcsErrorExitRound fuel period retryCount := by
  unfold kcsErrorExitRoundWithStatus kcsErrorExitRound
  dsimp only
  split_ifs with hcount
  · simp only [map_bind]
    refine bind_congr fun s₁ => ?_
    cases s₁ with
    | none => rfl
    | some s₁ =>
    simp only [map_bind]
    refine bind_congr fun _ => bind_congr fun s₂ => ?_
    cases s₂ with
    | none => rfl
    | some s₂ =>
    simp only [map_bind]
    refine bind_congr fun _ => bind_congr fun _ => bind_congr fun s₃ => ?_
    cases s₃ with
    | none => rfl
    | some s₃ =>
    dsimp only
    split_ifs with hread
    · simp only [map_bind]
      refine bind_congr fun s₄ => ?_
      cases s₄ with
      | none => rfl
      | some s₄ =>
      simp only [map_bind]
      refine bind_congr fun _ => bind_congr fun _ => bind_congr fun s₅ => ?_
      cases s₅ with
      | none => rfl
      | some s₅ =>
      dsimp only
      split_ifs with hidle
      · simp only [map_bind]
        refine bind_congr fun s₆ => ?_
        cases s₆ <;> rfl
      · rfl
    · rfl
  · rfl

/-- `Status` has a value whenever it is returned. -/
theorem kcsErrorExitWithStatus_eq (fuel : ℕ) (period : UInt64) :
    kcsErrorExitWithStatus fuel period = some <$> kcsErrorExit fuel period := by
  have hloop : loop (kcsErrorExitRoundWithStatus fuel period) fuel ⟨none, 0⟩ =
      exitWithStatus <$> loop (kcsErrorExitRound fuel period) fuel 0 :=
    loop_map (kcsErrorExitRoundWithStatus_eq fuel period) fuel 0
  rw [kcsErrorExitWithStatus, kcsErrorExit, hloop, bind_map_left, map_bind]
  refine bind_congr fun r => ?_
  cases r with
  | error status => rfl
  | ok retryCount =>
    simp only [exitWithStatus]
    split_ifs <;> rfl

/-! ### The recovery -/

/-- The status reads. -/
def isStatusRead : PortCall → Bool
  | .ioRead8 .kcsCmdReg => true
  | .ioRead8 .kcsPort => false
  | .ioWrite8 _ _ => false

/-- The number of status reads in a trace. -/
def statusReads (tr : List PortEvent) : ℕ := calls isStatusRead tr

/-- The trace of a recovery.  `KCS_ABORT`, `0` and `KCS_READ` are written, each after a status with
the input buffer empty; then IDLE and a full output buffer are shown, and a byte is read. -/
structure Recovered (tr : List PortEvent) : Prop where
  /-- The writes, and what is shown before each. -/
  paced : Paced (fun s => s.ibf = false) abortWrites tr
  /-- What follows the last write. -/
  ends : ∃ pre values dummy, tr = pre ++ portWrite .kcsPort kcsRead ::
    (values.map statusRead ++ [dataRead dummy]) ∧ Shows (InState .idle) OutputFull values

/-- A poll that ends shows what it has waited for. -/
theorem Polled.ready {tr : List PortEvent} {s : KcsStatus} (h : Polled (·.ibf) tr s) :
    ∃ s' ∈ statuses tr, s'.ibf = false := by
  obtain ⟨ss, hss, -, hibf⟩ := h.statuses_eq
  exact ⟨s, by simp [hss], hibf⟩

theorem Handshake.recovered {tr : List PortEvent} (h : Handshake tr) : Recovered tr := by
  cases h with
  | @intro tr₁ tr₂ tr₃ tr₄ tr₅ tr₆ _ _ _ _ _ _ v₁ v₂ v₃ h₁ h₂ h₃ _ h₄ h₅ hidle h₆ =>
  obtain ⟨values, hvalues, hshows⟩ := h₅.shows hidle h₆
  constructor
  · -- the reads before `0` and before `KCS_READ` consist of polls and a byte
    have hbefore₂ : ∃ s ∈ statuses (tr₂ ++ [dataRead v₁]), s.ibf = false := by
      simpa using h₂.ready
    have hbefore₃ : ∃ s ∈ statuses (tr₃ ++ tr₄ ++ [dataRead v₂]), s.ibf = false := by
      obtain ⟨s, hs, hibf⟩ := h₃.ready
      exact ⟨s, by simp [hs], hibf⟩
    have hafter : Paced (fun s => s.ibf = false) [] (tr₅ ++ (tr₆ ++ [dataRead v₃])) :=
      .nil (by simp [h₅.portWrites_eq, h₆.portWrites_eq])
    have hread := Paced.cons (w := (.kcsPort, kcsRead))
      (by simp [h₃.portWrites_eq, h₄.portWrites_eq]) hbefore₃ hafter
    have hzero := Paced.cons (w := (.kcsPort, 0x0)) (by simp [h₂.portWrites_eq]) hbefore₂ hread
    have habort := Paced.cons (w := (.kcsCmdReg, kcsAbort)) h₁.portWrites_eq h₁.ready hzero
    simpa [abortWrites] using habort
  · refine ⟨tr₁ ++ portWrite .kcsCmdReg kcsAbort :: (tr₂ ++ dataRead v₁ ::
      portWrite .kcsPort 0x0 :: (tr₃ ++ (tr₄ ++ [dataRead v₂]))), values, v₃, ?_, hshows⟩
    rw [← hvalues]
    simp

/-- **The error exit is sound.**  It returns within six polls, so after at most `6 * (P + 1)` status
reads; it returns `EFI_SUCCESS` after a complete recovery only, and `EFI_DEVICE_ERROR` in every other
case, never a `Status` that has not been assigned. -/
theorem kcsErrorExit_sound (fuel : ℕ) (period : UInt64) (hfuel : period.toNat + 1 < fuel) :
    (kcsErrorExitWithStatus fuel period).Satisfies False fun tr status =>
      statusReads tr ≤ 6 * (period.toNat + 1) ∧
        (status = some .success ∧ Recovered tr ∨ status = some .deviceError) := by
  have hbounded : (kcsErrorExit fuel period).MakesAtMost isStatusRead
      (abortCost isStatusRead period) fun _ => True :=
    kcsErrorExit_makesAtMost (by omega) (by omega) fun _ _ => rfl
  rw [kcsErrorExitWithStatus_eq, map_eq_pure_bind, satisfies_bind]
  refine (Satisfies.and hbounded (kcsErrorExit_spec fuel period)).mono ?_
  rintro tr status ⟨⟨hreads, -⟩, -, hstatus⟩
  rw [pure_eq_ret, satisfies_ret, List.append_nil]
  refine ⟨hreads, ?_⟩
  rcases hstatus with rfl | ⟨rfl, hshake⟩
  · exact .inr rfl
  · exact .inl ⟨rfl, hshake.recovered⟩

theorem kcsErrorExit_sound_ten : (kcsErrorExitWithStatus 12 10).Satisfies False fun tr status =>
    statusReads tr ≤ 6 * (10 + 1) ∧
      (status = some .success ∧ Recovered tr ∨ status = some .deviceError) :=
  kcsErrorExit_sound 12 10 (by decide)

end Kcs

end IpmiFeature
