import IpmiFeature.Interaction.Logic
import IpmiFeature.Kcs.Basic

/-!
# What the status checks of the KCS driver guarantee

The port accesses of `pollStatus`, `kcsErrorExit` and `kcsCheckStatus`, whatever the registers
return.  The trace of a check that finds the expected state consists of reads; a check that finds
another state writes `KCS_ABORT`, and it still reports success if the recovery succeeds.
-/

namespace IpmiFeature

open Interaction Prog

namespace Kcs

/-! ### The vocabulary of traces -/

/-- The write an access makes, if any. -/
def writeOf : PortEvent → Option (Reg × UInt8)
  | ⟨.ioRead8 _, _⟩ => none
  | ⟨.ioWrite8 reg value, _⟩ => some (reg, value)

/-- The writes of a trace, in order. -/
def portWrites (tr : List PortEvent) : List (Reg × UInt8) := tr.filterMap writeOf

@[simp] theorem portWrites_nil : portWrites [] = [] := rfl

@[simp] theorem portWrites_append (tr tr' : List PortEvent) :
    portWrites (tr ++ tr') = portWrites tr ++ portWrites tr' := List.filterMap_append

@[simp] theorem portWrites_read_cons (reg : Reg) (value : UInt8) (tr : List PortEvent) :
    portWrites (⟨.ioRead8 reg, value⟩ :: tr) = portWrites tr := rfl

@[simp] theorem portWrites_write_cons (reg : Reg) (value : UInt8) (u : Unit)
    (tr : List PortEvent) :
    portWrites (⟨.ioWrite8 reg value, u⟩ :: tr) = (reg, value) :: portWrites tr := rfl

@[simp] theorem portWrites_map_statusRead (vs : List UInt8) :
    portWrites (vs.map statusRead) = [] := by
  induction vs with
  | nil => rfl
  | cons v vs ih => simpa using ih

/-- The value of a read of the status register. -/
def statusOf : PortEvent → Option KcsStatus
  | ⟨.ioRead8 .kcsCmdReg, value⟩ => some ⟨value⟩
  | ⟨.ioRead8 .kcsPort, _⟩ => none
  | ⟨.ioWrite8 _ _, _⟩ => none

/-- The status values read in a trace, in order. -/
def statuses (tr : List PortEvent) : List KcsStatus := tr.filterMap statusOf

@[simp] theorem statuses_nil : statuses [] = [] := rfl

@[simp] theorem statuses_append (tr tr' : List PortEvent) :
    statuses (tr ++ tr') = statuses tr ++ statuses tr' := List.filterMap_append

@[simp] theorem statuses_statusRead_cons (value : UInt8) (tr : List PortEvent) :
    statuses (statusRead value :: tr) = ⟨value⟩ :: statuses tr := rfl

@[simp] theorem statuses_dataRead_cons (value : UInt8) (tr : List PortEvent) :
    statuses (dataRead value :: tr) = statuses tr := rfl

@[simp] theorem statuses_write_cons (reg : Reg) (value : UInt8) (u : Unit)
    (tr : List PortEvent) :
    statuses (⟨.ioWrite8 reg value, u⟩ :: tr) = statuses tr := rfl

@[simp] theorem statuses_map_statusRead (vs : List UInt8) :
    statuses (vs.map statusRead) = vs.map KcsStatus.mk := by
  induction vs with
  | nil => rfl
  | cons v vs ih => simp [ih]

@[simp] theorem satisfies_ioRead8_bind {E : Prop} {α : Type} {reg : Reg} {f : UInt8 → PortProg α}
    {Q : List PortEvent → α → Prop} :
    (ioRead8 reg >>= f).Satisfies E Q ↔
      ∀ v, (f v).Satisfies E fun tr a => Q (⟨.ioRead8 reg, v⟩ :: tr) a := Iff.rfl

@[simp] theorem satisfies_ioWrite8_bind {E : Prop} {α : Type} {reg : Reg} {value : UInt8}
    {f : Unit → PortProg α} {Q : List PortEvent → α → Prop} :
    (ioWrite8 reg value >>= f).Satisfies E Q ↔
      (f ()).Satisfies E fun tr a => Q (portWrite reg value :: tr) a :=
  ⟨fun h => h (), fun h _ => h⟩

/-! ### Polling -/

/-- The trace of a polling loop: status reads, of which all but the last are `busy`. -/
def Polled (busy : KcsStatus → Bool) (tr : List PortEvent) (s : KcsStatus) : Prop :=
  ∃ vs : List UInt8, tr = vs.map statusRead ++ [statusRead s.rawData] ∧
    (∀ v ∈ vs, busy ⟨v⟩ = true) ∧ busy s = false

theorem pollStatus_spec (fuel : ℕ) (period : UInt64) (busy : KcsStatus → Bool) :
    (pollStatus fuel period busy).Satisfies True fun tr r =>
      portWrites tr = [] ∧ ∀ s ∈ r, Polled busy tr s := by
  refine satisfies_loop (I := fun tr (_ : UInt64) =>
    ∃ vs : List UInt8, tr = vs.map statusRead ∧ ∀ v ∈ vs, busy ⟨v⟩ = true) ?_ fuel
    ⟨[], rfl, by simp⟩
  rintro _ timeOut ⟨vs, rfl, hvs⟩
  rw [satisfies_ioRead8_bind]
  intro v
  dsimp only
  split_ifs with hfail hbusy
  · simp
  · refine ⟨vs ++ [v], by simp, fun w hw => ?_⟩
    rcases List.mem_append.1 hw with hw | hw
    · exact hvs w hw
    · rwa [List.mem_singleton.1 hw]
  · refine ⟨by simp, ?_⟩
    rintro s ⟨⟩
    exact ⟨vs, rfl, hvs, by simpa using hbusy⟩

/-! ### The error exit -/

/-- The writes of the abort handshake. -/
def abortWrites : List (Reg × UInt8) :=
  [(.kcsCmdReg, kcsAbort), (.kcsPort, 0x0), (.kcsPort, kcsRead)]

/-- The trace of an abort handshake that the BMC answers: `KCS_ABORT`, then `0`, each when the
input buffer is empty, then in the READ state one byte and `KCS_READ`, then in the IDLE state a
dummy byte. -/
inductive Handshake : List PortEvent → Prop
  | intro {tr₁ tr₂ tr₃ tr₄ tr₅ tr₆ : List PortEvent} {s₁ s₂ s₃ s₄ s₅ s₆ : KcsStatus}
      {v₁ v₂ v₃ : UInt8} (h₁ : Polled (·.ibf) tr₁ s₁) (h₂ : Polled (·.ibf) tr₂ s₂)
      (h₃ : Polled (·.ibf) tr₃ s₃) (hread : s₃.state = .read) (h₄ : Polled (!·.obf) tr₄ s₄)
      (h₅ : Polled (·.ibf) tr₅ s₅) (hidle : s₅.state = .idle) (h₆ : Polled (!·.obf) tr₆ s₆) :
      Handshake (tr₁ ++ portWrite .kcsCmdReg kcsAbort :: (tr₂ ++ dataRead v₁ ::
        portWrite .kcsPort 0x0 :: (tr₃ ++ (tr₄ ++ dataRead v₂ :: portWrite .kcsPort kcsRead ::
          (tr₅ ++ (tr₆ ++ [dataRead v₃]))))))

theorem Polled.portWrites_eq {busy : KcsStatus → Bool} {tr : List PortEvent} {s : KcsStatus}
    (h : Polled busy tr s) : portWrites tr = [] := by
  obtain ⟨vs, rfl, -, -⟩ := h
  simp

theorem Handshake.portWrites_eq {tr : List PortEvent} (h : Handshake tr) :
    portWrites tr = abortWrites := by
  cases h with
  | intro h₁ h₂ h₃ _ h₄ h₅ _ h₆ =>
    simp [h₁.portWrites_eq, h₂.portWrites_eq, h₃.portWrites_eq, h₄.portWrites_eq,
      h₅.portWrites_eq, h₆.portWrites_eq, abortWrites]

/-- What one round of the error exit guarantees. -/
def RoundSpec (retryCount : ℕ) (tr : List PortEvent) (i : Iter ℕ (Except EfiStatus ℕ)) : Prop :=
  (∀ w ∈ portWrites tr, w ∈ abortWrites) ∧
    match i with
    | .again n => n = retryCount + 1
    | .done (.ok n) => n < kcsAbortRetryCount → n = retryCount ∧ Handshake tr
    | .done (.error status) => status = .deviceError

theorem kcsErrorExitRound_spec (fuel : ℕ) (period : UInt64) (retryCount : ℕ) :
    (kcsErrorExitRound fuel period retryCount).Satisfies True (RoundSpec retryCount) := by
  unfold kcsErrorExitRound RoundSpec
  split_ifs with hcount
  · rw [satisfies_bind]
    refine (pollStatus_spec fuel period _).mono fun tr₁ r₁ ⟨hw₁, h₁⟩ => ?_
    cases r₁ with
    | none => simp [hw₁]
    | some s₁ =>
    simp only [satisfies_ioWrite8_bind]
    rw [satisfies_bind]
    refine (pollStatus_spec fuel period _).mono fun tr₂ r₂ ⟨hw₂, h₂⟩ => ?_
    cases r₂ with
    | none => simp [hw₁, hw₂, abortWrites]
    | some s₂ =>
    simp only [satisfies_ioRead8_bind, satisfies_ioWrite8_bind]
    intro v₁
    rw [satisfies_bind]
    refine (pollStatus_spec fuel period _).mono fun tr₃ r₃ ⟨hw₃, h₃⟩ => ?_
    cases r₃ with
    | none => simp [hw₁, hw₂, hw₃, abortWrites]
    | some s₃ =>
    dsimp only
    split_ifs with hread
    · rw [satisfies_bind]
      refine (pollStatus_spec fuel period _).mono fun tr₄ r₄ ⟨hw₄, h₄⟩ => ?_
      cases r₄ with
      | none => simp [hw₁, hw₂, hw₃, hw₄, abortWrites]
      | some s₄ =>
      simp only [satisfies_ioRead8_bind, satisfies_ioWrite8_bind]
      intro v₂
      rw [satisfies_bind]
      refine (pollStatus_spec fuel period _).mono fun tr₅ r₅ ⟨hw₅, h₅⟩ => ?_
      cases r₅ with
      | none => simp [hw₁, hw₂, hw₃, hw₄, hw₅, abortWrites]
      | some s₅ =>
      dsimp only
      split_ifs with hidle
      · rw [satisfies_bind]
        refine (pollStatus_spec fuel period _).mono fun tr₆ r₆ ⟨hw₆, h₆⟩ => ?_
        cases r₆ with
        | none => simp [hw₁, hw₂, hw₃, hw₄, hw₅, hw₆, abortWrites]
        | some s₆ =>
          simp only [satisfies_ioRead8_bind, pure_eq_ret, satisfies_ret]
          intro v₃
          refine ⟨by simp [hw₁, hw₂, hw₃, hw₄, hw₅, hw₆, abortWrites], fun _ => ⟨trivial, ?_⟩⟩
          exact .intro (h₁ _ rfl) (h₂ _ rfl) (h₃ _ rfl) hread (h₄ _ rfl) (h₅ _ rfl) hidle
            (h₆ _ rfl)
      · simp [hw₁, hw₂, hw₃, hw₄, hw₅, abortWrites]
    · simp [hw₁, hw₂, hw₃, abortWrites]
  · refine ⟨by simp, fun h => absurd h hcount⟩

/-- The error exit writes nothing but the abort handshake, and it reports success only after a
complete handshake. -/
theorem kcsErrorExit_spec (fuel : ℕ) (period : UInt64) :
    (kcsErrorExit fuel period).Satisfies True fun tr status =>
      (∀ w ∈ portWrites tr, w ∈ abortWrites) ∧
        (status = .deviceError ∨ status = .success ∧ Handshake tr) := by
  unfold kcsErrorExit
  rw [satisfies_bind]
  -- only the first round can succeed: a later one starts with the retry count used up
  refine (satisfies_loop (I := fun tr n =>
      (∀ w ∈ portWrites tr, w ∈ abortWrites) ∧ (n < kcsAbortRetryCount → tr = []))
    (Q := fun tr (r : Except EfiStatus ℕ) => (∀ w ∈ portWrites tr, w ∈ abortWrites) ∧
      match r with
      | .ok n => n < kcsAbortRetryCount → Handshake tr
      | .error status => status = .deviceError)
    (fun tr n hI => (kcsErrorExitRound_spec fuel period n).mono fun tr' i hi => ?_) fuel
    (by simp)).mono fun tr r hr => ?_
  · obtain ⟨hI₁, hI₂⟩ := hI
    obtain ⟨hw, hround⟩ := hi
    have hwrites : ∀ w ∈ portWrites (tr ++ tr'), w ∈ abortWrites := by
      rw [portWrites_append]
      exact List.forall_mem_append.2 ⟨hI₁, hw⟩
    cases i with
    | again n' =>
      refine ⟨hwrites, fun hn => ?_⟩
      have : n' = n + 1 := hround
      simp only [kcsAbortRetryCount] at hn
      omega
    | done r =>
      refine ⟨hwrites, ?_⟩
      cases r with
      | error status => exact hround
      | ok n' =>
        intro hn
        obtain ⟨rfl, hshake⟩ := hround hn
        rwa [hI₂ hn, List.nil_append]
  · obtain ⟨hw, hres⟩ := hr
    cases r with
    | error status => exact ⟨by simpa using hw, .inl hres⟩
    | ok n =>
      dsimp only
      split_ifs with hn
      · exact ⟨by simpa using hw, .inl rfl⟩
      · exact ⟨by simpa using hw, .inr ⟨rfl, by simpa using hres (by omega)⟩⟩

/-! ### The status check -/

theorem Polled.statuses_eq {busy : KcsStatus → Bool} {tr : List PortEvent} {s : KcsStatus}
    (h : Polled busy tr s) :
    ∃ ss, statuses tr = ss ++ [s] ∧ (∀ s' ∈ ss, busy s' = true) ∧ busy s = false := by
  obtain ⟨vs, rfl, hvs, hs⟩ := h
  refine ⟨vs.map KcsStatus.mk, by simp, fun s' hs' => ?_, hs⟩
  obtain ⟨v, hv, rfl⟩ := List.mem_map.1 hs'
  exact hvs v hv

/-- The end of a check for WRITE: the data register is read and the check succeeds. -/
theorem kcsCheckOutput_write (fuel : ℕ) (period : UInt64) :
    kcsCheckOutput fuel period .write false = ioRead8 .kcsPort >>= fun _ =>
      .ret (.success, false) := rfl

/-- What a successful check for WRITE guarantees: either the status that ended the polling showed
the state WRITE, or it showed another one and the abort handshake succeeded. -/
theorem kcsCheckStatus_write_spec (fuel : ℕ) (period : UInt64) :
    (kcsCheckStatus fuel period .write).Satisfies True fun tr r => r.1 = .success →
      ∃ tr₁ s v tr₂, tr = tr₁ ++ dataRead v :: tr₂ ∧ Polled (·.ibf) tr₁ s ∧
        (s.state = .write ∧ (∃ w, tr₂ = [dataRead w]) ∨ s.state ≠ .write ∧ Handshake tr₂) := by
  unfold kcsCheckStatus
  rw [satisfies_bind]
  refine (pollStatus_spec fuel period _).mono fun tr₁ r₁ ⟨_, h₁⟩ => ?_
  cases r₁ with
  | none => simp
  | some s =>
  dsimp only
  rw [if_pos rfl, satisfies_ioRead8_bind]
  intro v
  split_ifs with hstate hidle
  · exact absurd hidle.2 (by decide)
  · rw [satisfies_bind]
    refine (kcsErrorExit_spec fuel period).mono fun tr₂ status ⟨_, hstatus⟩ => ?_
    intro hsucc
    rcases hstatus with rfl | ⟨rfl, hshake⟩
    · cases hsucc
    · exact ⟨tr₁, s, v, _, rfl, h₁ _ rfl, .inr ⟨hstate, by simpa using hshake⟩⟩
  · rw [kcsCheckOutput_write, satisfies_ioRead8_bind]
    intro w _
    exact ⟨tr₁, s, v, _, rfl, h₁ _ rfl, .inl ⟨not_not.1 hstate, w, rfl⟩⟩

/-- The end of a check for READ: wait for the output buffer, and read the dummy byte when the
state is IDLE. -/
theorem kcsCheckOutput_read_spec (fuel : ℕ) (period : UInt64) (idle : Bool) :
    (kcsCheckOutput fuel period .read idle).Satisfies True fun tr r => r.2 = idle ∧
      (r.1 = .success → ∃ tr₁ s tr₂, tr = tr₁ ++ tr₂ ∧ Polled (!·.obf) tr₁ s ∧
        (idle = false ∧ tr₂ = [] ∨ idle = true ∧ ∃ v, tr₂ = [dataRead v])) := by
  unfold kcsCheckOutput
  dsimp only
  rw [if_pos rfl, satisfies_bind]
  refine (pollStatus_spec fuel period _).mono fun tr₁ r₁ ⟨_, h₁⟩ => ?_
  cases r₁ with
  | none => simp
  | some s =>
  cases idle with
  | false => exact ⟨rfl, fun _ => ⟨tr₁, s, [], rfl, h₁ _ rfl, .inl ⟨rfl, rfl⟩⟩⟩
  | true =>
    intro v
    exact ⟨rfl, fun _ => ⟨tr₁, s, _, rfl, h₁ _ rfl, .inr ⟨rfl, v, rfl⟩⟩⟩

/-- What a successful check for READ guarantees: the status that ended the polling showed READ,
or IDLE, and then the output buffer was full; or it showed another state and the abort handshake
succeeded. -/
theorem kcsCheckStatus_read_spec (fuel : ℕ) (period : UInt64) :
    (kcsCheckStatus fuel period .read).Satisfies True fun tr r => r.1 = .success →
      ∃ tr₁ s tr₂, tr = tr₁ ++ tr₂ ∧ Polled (·.ibf) tr₁ s ∧
        (s.state = .read ∧ r.2 = false ∧ (∃ t, Polled (!·.obf) tr₂ t) ∨
          s.state = .idle ∧ r.2 = true ∧
            (∃ tr₃ t v, tr₂ = tr₃ ++ [dataRead v] ∧ Polled (!·.obf) tr₃ t) ∨
          s.state ≠ .read ∧ s.state ≠ .idle ∧ r.2 = false ∧ Handshake tr₂) := by
  unfold kcsCheckStatus
  rw [satisfies_bind]
  refine (pollStatus_spec fuel period _).mono fun tr₁ r₁ ⟨_, h₁⟩ => ?_
  cases r₁ with
  | none => simp
  | some s =>
  dsimp only
  rw [if_neg (by decide)]
  split_ifs with hstate hidle
  · refine (kcsCheckOutput_read_spec fuel period true).mono fun tr₂ r ⟨hr, hout⟩ hsucc => ?_
    obtain ⟨tr₃, t, tr₄, rfl, ht, ⟨hfalse, -⟩ | ⟨-, v, rfl⟩⟩ := hout hsucc
    · cases hfalse
    · exact ⟨tr₁, s, _, rfl, h₁ _ rfl, .inr (.inl ⟨hidle.1, hr, tr₃, t, v, rfl, ht⟩)⟩
  · rw [satisfies_bind]
    refine (kcsErrorExit_spec fuel period).mono fun tr₂ status ⟨_, hstatus⟩ hsucc => ?_
    rcases hstatus with rfl | ⟨rfl, hshake⟩
    · cases hsucc
    · refine ⟨tr₁, s, _, rfl, h₁ _ rfl, .inr (.inr ⟨hstate, ?_, rfl, by simpa using hshake⟩)⟩
      exact fun h => hidle ⟨h, rfl⟩
  · refine (kcsCheckOutput_read_spec fuel period false).mono fun tr₂ r ⟨hr, hout⟩ hsucc => ?_
    obtain ⟨tr₃, t, tr₄, rfl, ht, ⟨-, rfl⟩ | ⟨htrue, -⟩⟩ := hout hsucc
    · exact ⟨tr₁, s, _, rfl, h₁ _ rfl, .inl ⟨not_not.1 hstate, hr, t, by simpa using ht⟩⟩
    · cases htrue

end Kcs

end IpmiFeature
