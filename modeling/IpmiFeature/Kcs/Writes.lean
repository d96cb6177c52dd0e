import IpmiFeature.Kcs.Checks

/-!
# What the KCS driver writes

`Writes W p` says that every write of the program `p` satisfies `W`, whatever the registers return.
Only `SendDataToBmc` starts a message and announces its end; the status checks and the receive write
nothing but `KCS_READ` and the abort handshake.
-/

namespace IpmiFeature

open Interaction Prog

namespace Kcs

variable {α β : Type}

/-! ### The rules -/

/-- Whatever the registers return, every write of the program satisfies `W`. -/
def Writes (W : Reg × UInt8 → Prop) (p : PortProg α) : Prop :=
  p.Satisfies True fun tr _ => ∀ w ∈ portWrites tr, W w

variable {W W' : Reg × UInt8 → Prop} {p : PortProg α}

theorem Writes.mono (hp : Writes W p) (hW : ∀ w, W w → W' w) : Writes W' p :=
  Satisfies.mono hp fun _ _ htr w hw => hW w (htr w hw)

theorem writes_pure (a : α) : Writes W (pure a : PortProg α) := by
  intro w hw
  simp at hw

theorem Writes.bind {f : α → PortProg β} (hp : Writes W p) (hf : ∀ a, Writes W (f a)) :
    Writes W (p >>= f) := by
  refine satisfies_bind.2 (Satisfies.mono hp fun tr a htr => ?_)
  refine Satisfies.mono (hf a) fun tr' b htr' => ?_
  rw [portWrites_append]
  exact List.forall_mem_append.2 ⟨htr, htr'⟩

theorem writes_ioRead8 (reg : Reg) : Writes W (ioRead8 reg) := by
  intro value w hw
  simp at hw

theorem writes_ioWrite8 {reg : Reg} {value : UInt8} (hw : W (reg, value)) :
    Writes W (ioWrite8 reg value) := by
  intro u w hmem
  simp only [portWrites_write_cons, portWrites_nil, List.mem_singleton] at hmem
  rwa [hmem]

theorem Writes.loop {ρ : Type} {body : ρ → PortProg (Iter ρ β)} (hbody : ∀ s, Writes W (body s))
    (fuel : ℕ) (s : ρ) : Writes W (Prog.loop body fuel s) := by
  refine satisfies_loop (I := fun tr _ => ∀ w ∈ portWrites tr, W w) ?_ fuel (by simp)
  intro tr s htr
  refine Satisfies.mono (hbody s) fun tr' i htr' => ?_
  have hall : ∀ w ∈ portWrites (tr ++ tr'), W w := by
    rw [portWrites_append]
    exact List.forall_mem_append.2 ⟨htr, htr'⟩
  cases i <;> exact hall

/-- The writes of a program, one event at a time. -/
theorem Writes.satisfies (hp : Writes W p) : p.Satisfies True fun tr _ =>
    ∀ event ∈ tr, ∀ w : Reg × UInt8, event.1 = .ioWrite8 w.1 w.2 → W w := by
  refine Satisfies.mono hp fun tr _ htr event hevent w heq => htr w ?_
  obtain ⟨call, answer⟩ := event
  obtain rfl : call = .ioWrite8 w.1 w.2 := heq
  exact List.mem_filterMap.2 ⟨_, hevent, rfl⟩

/-! ### The driver -/

theorem pollStatus_writes (fuel : ℕ) (period : UInt64) (busy : KcsStatus → Bool) :
    Writes W (pollStatus fuel period busy) :=
  Satisfies.mono (pollStatus_spec fuel period busy) fun tr _ htr w hw => by simp [htr.1] at hw

theorem kcsErrorExit_writes (fuel : ℕ) (period : UInt64) :
    Writes (· ∈ abortWrites) (kcsErrorExit fuel period) :=
  Satisfies.mono (kcsErrorExit_spec fuel period) fun _ _ htr => htr.1

theorem kcsCheckOutput_writes (fuel : ℕ) (period : UInt64) (state : KcsState) (idle : Bool) :
    Writes W (kcsCheckOutput fuel period state idle) := by
  have hread : Writes W (ioRead8 .kcsPort >>= fun _ => pure (EfiStatus.success, idle)) :=
    (writes_ioRead8 _).bind fun _ => writes_pure _
  have hpoll : ∀ {q : PortProg (EfiStatus × Bool)}, Writes W q →
      Writes W (pollStatus fuel period (!·.obf) >>= fun r =>
        if r.isNone then pure (.deviceError, idle) else q) := by
    intro q hq
    refine (pollStatus_writes fuel period _).bind fun r => ?_
    split_ifs
    · exact writes_pure _
    · exact hq
  unfold kcsCheckOutput
  dsimp only
  split_ifs
  · exact hpoll hread
  · exact hpoll (writes_pure _)
  · exact hread
  · exact writes_pure _

/-- The status check writes nothing but an abort handshake. -/
theorem kcsCheckStatus_writes (fuel : ℕ) (period : UInt64) (state : KcsState) :
    Writes (· ∈ abortWrites) (kcsCheckStatus fuel period state) := by
  have hchecked : ∀ status : KcsStatus, Writes (· ∈ abortWrites)
      (if status.state ≠ state then
        if status.state = .idle ∧ state = .read then kcsCheckOutput fuel period state true
        else kcsErrorExit fuel period >>= fun status => pure (status, false)
      else kcsCheckOutput fuel period state false) := by
    intro status
    split_ifs
    · exact kcsCheckOutput_writes fuel period state true
    · exact (kcsErrorExit_writes fuel period).bind fun _ => writes_pure _
    · exact kcsCheckOutput_writes fuel period state false
  unfold kcsCheckStatus
  refine (pollStatus_writes fuel period _).bind fun r => ?_
  cases r with
  | none => exact writes_pure _
  | some status =>
    dsimp only
    by_cases hwrite : state = .write
    · rw [if_pos hwrite]
      exact (writes_ioRead8 _).bind fun _ => hchecked status
    · rw [if_neg hwrite]
      exact hchecked status

/-! ### Messages -/

/-- A write that does not start a message. -/
def NotStart (w : Reg × UInt8) : Prop := w ≠ (.kcsCmdReg, kcsWriteStart)

/-- A write that does not announce the end of a message. -/
def NotEnd (w : Reg × UInt8) : Prop := w ≠ (.kcsCmdReg, kcsWriteEnd)

theorem notStart_of_abort {w : Reg × UInt8} (hw : w ∈ abortWrites) : NotStart w := by
  rintro rfl
  revert hw
  decide

theorem notEnd_of_abort {w : Reg × UInt8} (hw : w ∈ abortWrites) : NotEnd w := by
  rintro rfl
  revert hw
  decide

theorem writeEnd_writes (fuel : ℕ) (period : UInt64) : Writes NotStart (writeEnd fuel period) := by
  unfold writeEnd
  refine ((kcsCheckStatus_writes fuel period .write).mono fun _ => notStart_of_abort).bind
    fun r => ?_
  dsimp only
  split_ifs
  · exact writes_pure _
  · exact (writes_ioWrite8 (by simp [NotStart, kcsWriteStart, kcsWriteEnd])).bind fun _ => writes_pure _

theorem sendByte_writes (fuel : ℕ) (period : UInt64) (data : Message) (i : ℕ) :
    Writes NotStart (sendByte fuel period data i) := by
  have hbyte : ∀ value, Writes NotStart (kcsCheckStatus fuel period .write >>= fun r =>
      if r.1.isError then pure (.done r.1)
      else ioWrite8 .kcsPort value >>= fun _ => pure (Iter.again (i + 1))) := by
    intro value
    refine ((kcsCheckStatus_writes fuel period .write).mono fun _ => notStart_of_abort).bind
      fun r => ?_
    split_ifs
    · exact writes_pure _
    · exact (writes_ioWrite8 (by simp [NotStart])).bind fun _ => writes_pure _
  have hchecked : ∀ value (status : EfiStatus), Writes NotStart
      (if status ≠ .success then pure (.done status)
      else kcsCheckStatus fuel period .write >>= fun r =>
        if r.1.isError then pure (.done r.1)
        else ioWrite8 .kcsPort value >>= fun _ => pure (Iter.again (i + 1))) := by
    intro value status
    split_ifs
    · exact writes_pure _
    · exact hbyte value
  unfold sendByte
  split_ifs with hi hlast
  · exact (writeEnd_writes fuel period).bind (hchecked _)
  · exact (writes_pure _).bind (hchecked _)
  · exact writes_pure _

theorem receiveByte_writes (fuel : ℕ) (period : UInt64) (dataSize : UInt8) (x : ℕ × Memory UInt8) :
    Writes (· ∈ abortWrites) (receiveByte fuel period dataSize x) := by
  unfold receiveByte
  refine (kcsCheckStatus_writes fuel period .read).bind fun r => ?_
  dsimp only
  split_ifs
  · exact writes_pure _
  · exact writes_pure _
  · exact writes_pure _
  · exact (writes_ioRead8 _).bind fun _ => (writes_ioWrite8 (by decide)).bind fun _ => writes_pure _

/-- A receive starts no message. -/
theorem receiveBmcDataFromPort_writes (fuel : ℕ) (period : UInt64) (data : Memory UInt8)
    (dataSize : UInt8) :
    Writes NotStart (receiveBmcDataFromPort fuel period data dataSize) := by
  have hreceive : ∀ data, Writes (· ∈ abortWrites) (receiveBmcData fuel period data dataSize) :=
    fun data => Writes.loop (receiveByte_writes fuel period dataSize) fuel (0, data)
  refine Writes.mono (Writes.loop (fun x => ?_) fuel (0, data)) fun _ => notStart_of_abort
  dsimp only
  split_ifs
  · refine (hreceive x.2).bind fun received => ?_
    split_ifs
    · refine (kcsErrorExit_writes fuel period).bind fun status => ?_
      split_ifs <;> exact writes_pure _
    · exact writes_pure _
  · exact writes_pure _

end Kcs

end IpmiFeature
