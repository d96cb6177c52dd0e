import IpmiFeature.Kcs.Checks

/-!
# What a successful KCS send has written

`Sent data tr` is the write transaction of the interface: `KCS_WRITE_START` once, then all bytes
of the message with `KCS_WRITE_END` before the last one, each write preceded by a status that
shows the BMC ready in the WRITE state.

`SendDataToBmcPort` does not guarantee it.  `KcsCheckStatus` reports success when it found the
wrong state but the abort handshake went through, and `SendDataToBmc` then goes on in the middle
of a message that the BMC has dropped; and an empty message is reported as sent after
`KCS_WRITE_START` alone.  `sendDataToBmcPort_sent_iff` says that these are the only cases.
-/

namespace IpmiFeature

open Interaction Prog

namespace Kcs

/-! ### The write transaction -/

/-- The writes `ws` of a trace, each with a status satisfying `ready` among the reads since the
write before it. -/
inductive Paced (ready : KcsStatus → Prop) : List (Reg × UInt8) → List PortEvent → Prop
  | nil {reads : List PortEvent} (h : portWrites reads = []) : Paced ready [] reads
  | cons {reads tr : List PortEvent} {w : Reg × UInt8} {ws : List (Reg × UInt8)}
      (h : portWrites reads = []) (hready : ∃ s ∈ statuses reads, ready s)
      (htr : Paced ready ws tr) : Paced ready (w :: ws) (reads ++ portWrite w.1 w.2 :: tr)

/-- The BMC has taken the last byte and is in the WRITE state. -/
def WriteReady (s : KcsStatus) : Prop := s.ibf = false ∧ s.state = .write

/-- The writes that follow `KCS_WRITE_START`: all bytes but the last, `KCS_WRITE_END` and the
last byte. -/
def dataWrites (data : List UInt8) : List (Reg × UInt8) :=
  data.dropLast.map (Prod.mk .kcsPort) ++
    (.kcsCmdReg, kcsWriteEnd) :: data.getLast?.toList.map (Prod.mk .kcsPort)

/-- The write transaction for `data`: `KCS_WRITE_START` is written exactly once, and from then on
the writes are those of `data`, each after a status that shows the BMC ready. -/
def Sent (data : List UInt8) (tr : List PortEvent) : Prop :=
  data ≠ [] ∧ (portWrites tr).count (.kcsCmdReg, kcsWriteStart) = 1 ∧
    ∃ pre post, tr = pre ++ portWrite .kcsCmdReg kcsWriteStart :: post ∧
      Paced WriteReady (dataWrites data) post

/-- From `KCS_WRITE_START` on, every status with the input buffer empty shows the WRITE state. -/
def StaysInWrite (tr : List PortEvent) : Prop :=
  ∀ pre post, tr = pre ++ portWrite .kcsCmdReg kcsWriteStart :: post →
    ∀ s ∈ statuses post, s.ibf = false → s.state = .write

theorem Paced.portWrites_eq {ready : KcsStatus → Prop} {ws : List (Reg × UInt8)}
    {tr : List PortEvent} (h : Paced ready ws tr) : portWrites tr = ws := by
  induction h with
  | nil h => exact h
  | cons h _ _ ih => simp [h, ih]

theorem Paced.snoc {ready : KcsStatus → Prop} {ws : List (Reg × UInt8)}
    {tr reads : List PortEvent} {w : Reg × UInt8} (h : Paced ready ws tr)
    (hreads : portWrites reads = []) (hready : ∃ s ∈ statuses reads, ready s) :
    Paced ready (ws ++ [w]) (tr ++ (reads ++ [portWrite w.1 w.2])) := by
  induction h with
  | @nil reads₀ h₀ =>
    rw [← List.append_assoc]
    refine .cons (by simp [h₀, hreads]) ?_ (.nil rfl)
    obtain ⟨s, hs, hr⟩ := hready
    exact ⟨s, by simp [hs], hr⟩
  | cons h₀ hready₀ _ ih =>
    rw [List.append_assoc, List.cons_append, List.cons_append]
    exact .cons h₀ hready₀ ih

theorem dataWrites_concat (ds : List UInt8) (d : UInt8) :
    dataWrites (ds ++ [d]) =
      ds.map (Prod.mk .kcsPort) ++ [(.kcsCmdReg, kcsWriteEnd)] ++ [(.kcsPort, d)] := by
  simp [dataWrites]

theorem abort_notMem_dataWrites (data : List UInt8) :
    (.kcsCmdReg, kcsAbort) ∉ dataWrites data := by
  intro h
  rcases List.mem_append.1 h with h | h
  · obtain ⟨b, -, hb⟩ := List.mem_map.1 h
    cases hb
  · simp [kcsAbort, kcsWriteEnd] at h

theorem writeStart_notMem_dataWrites (data : List UInt8) :
    (.kcsCmdReg, kcsWriteStart) ∉ dataWrites data := by
  intro h
  rcases List.mem_append.1 h with h | h
  · obtain ⟨b, -, hb⟩ := List.mem_map.1 h
    cases hb
  · simp [kcsWriteStart, kcsWriteEnd] at h

/-! ### One check -/

/-- The check found the BMC ready in the WRITE state. -/
structure CleanCheck (tr : List PortEvent) : Prop where
  /-- Nothing was written. -/
  reads : portWrites tr = []
  /-- A status showed the BMC ready. -/
  ready : ∃ s ∈ statuses tr, WriteReady s
  /-- No status showed another state. -/
  stays : ∀ s ∈ statuses tr, s.ibf = false → s.state = .write

/-- The check found another state and went through the abort handshake. -/
structure Aborted (tr : List PortEvent) : Prop where
  /-- `KCS_ABORT` was written. -/
  abort : (.kcsCmdReg, kcsAbort) ∈ portWrites tr
  /-- A status showed another state. -/
  left : ∃ s ∈ statuses tr, s.ibf = false ∧ s.state ≠ .write

theorem Aborted.append {tr : List PortEvent} (h : Aborted tr) (tr' : List PortEvent) :
    Aborted (tr ++ tr') := by
  obtain ⟨habort, s, hs, hleft⟩ := h
  exact ⟨by simp [habort], s, by simp [hs], hleft⟩

theorem Aborted.prepend {tr : List PortEvent} (h : Aborted tr) (tr' : List PortEvent) :
    Aborted (tr' ++ tr) := by
  obtain ⟨habort, s, hs, hleft⟩ := h
  exact ⟨by simp [habort], s, by simp [hs], hleft⟩

theorem kcsCheckStatus_write_outcome (fuel : ℕ) (period : UInt64) :
    (kcsCheckStatus fuel period .write).Satisfies True fun tr r =>
      r.1 = .success → CleanCheck tr ∨ Aborted tr := by
  refine (kcsCheckStatus_write_spec fuel period).mono fun tr r h hsucc => ?_
  obtain ⟨tr₁, s, v, tr₂, rfl, hpoll, hend⟩ := h hsucc
  have hw := hpoll.portWrites_eq
  obtain ⟨ss, hss, hbusy, hs⟩ := hpoll.statuses_eq
  rcases hend with ⟨hstate, w, rfl⟩ | ⟨hstate, hshake⟩
  · left
    refine ⟨by simp [hw], ⟨s, by simp [hss], hs, hstate⟩, fun s' hs' hibf => ?_⟩
    simp only [statuses_append, hss, statuses_dataRead_cons, statuses_nil, List.append_nil,
      List.mem_append, List.mem_singleton] at hs'
    rcases hs' with hs' | rfl
    · rw [hbusy s' hs'] at hibf; cases hibf
    · exact hstate
  · right
    exact ⟨by simp [hw, hshake.portWrites_eq, abortWrites], s, by simp [hss], hs, hstate⟩

/-! ### The data loop -/

/-- The writes that follow `KCS_WRITE_START` after `i` iterations of the data loop. -/
def writesUpTo (data : List UInt8) (i : ℕ) : List (Reg × UInt8) :=
  if i < data.length then (data.take i).map (Prod.mk .kcsPort) else dataWrites data

theorem writesUpTo_succ {data : List UInt8} {i : ℕ} (h : i + 1 < data.length) :
    writesUpTo data (i + 1) = writesUpTo data i ++ [(.kcsPort, data[i])] := by
  have hi : i < data.length := by omega
  rw [writesUpTo, writesUpTo, if_pos h, if_pos hi, List.take_succ_eq_append_getElem hi,
    List.map_append]
  rfl

theorem writesUpTo_last {data : List UInt8} {i : ℕ} (h : i + 1 = data.length) :
    writesUpTo data (i + 1) =
      writesUpTo data i ++ [(.kcsCmdReg, kcsWriteEnd)] ++ [(.kcsPort, data[i])] := by
  have hdata : data = data.take i ++ [data[i]] := by
    rw [← List.take_succ_eq_append_getElem (by omega), h, List.take_length]
  rw [writesUpTo, writesUpTo, if_neg (by omega), if_pos (by omega)]
  conv_lhs => rw [hdata]
  exact dataWrites_concat _ _

/-- The state of the transaction after `KCS_WRITE_START` and `i` iterations of the data loop: so
far it went by the protocol, or it has been aborted. -/
def Progress (data : List UInt8) (tr : List PortEvent) (i : ℕ) : Prop :=
  i ≤ data.length ∧
    (Paced WriteReady (writesUpTo data i) tr ∧
        (∀ s ∈ statuses tr, s.ibf = false → s.state = .write) ∨ Aborted tr)

/-- A clean check followed by a write takes the transaction one write further. -/
theorem paced_step {ws : List (Reg × UInt8)} {tr tr' : List PortEvent} {w : Reg × UInt8}
    (h : Paced WriteReady ws tr ∧ ∀ s ∈ statuses tr, s.ibf = false → s.state = .write)
    (hcheck : CleanCheck tr') :
    Paced WriteReady (ws ++ [w]) (tr ++ (tr' ++ [portWrite w.1 w.2])) ∧
      ∀ s ∈ statuses (tr ++ (tr' ++ [portWrite w.1 w.2])),
        s.ibf = false → s.state = .write := by
  refine ⟨h.1.snoc hcheck.reads hcheck.ready, fun s hs => ?_⟩
  simp only [statuses_append, statuses_write_cons, statuses_nil, List.append_nil,
    List.mem_append] at hs
  rcases hs with hs | hs
  · exact h.2 s hs
  · exact hcheck.stays s hs

/-- `paced_step` with the other outcomes of the check. -/
theorem write_step {ws : List (Reg × UInt8)} {tr tr' : List PortEvent} {w : Reg × UInt8}
    (h : Paced WriteReady ws tr ∧ (∀ s ∈ statuses tr, s.ibf = false → s.state = .write) ∨
      Aborted tr)
    (hcheck : CleanCheck tr' ∨ Aborted tr') :
    Paced WriteReady (ws ++ [w]) (tr ++ (tr' ++ [portWrite w.1 w.2])) ∧
      (∀ s ∈ statuses (tr ++ (tr' ++ [portWrite w.1 w.2])),
        s.ibf = false → s.state = .write) ∨
      Aborted (tr ++ (tr' ++ [portWrite w.1 w.2])) := by
  rcases h with h | h
  · rcases hcheck with hcheck | hcheck
    · exact .inl (paced_step h hcheck)
    · exact .inr ((hcheck.append _).prepend _)
  · exact .inr (h.append _)

theorem writeEnd_outcome (fuel : ℕ) (period : UInt64) :
    (writeEnd fuel period).Satisfies True fun tr status => status = .success →
      ∃ tr', tr = tr' ++ [portWrite .kcsCmdReg kcsWriteEnd] ∧
        (CleanCheck tr' ∨ Aborted tr') := by
  unfold writeEnd
  rw [satisfies_bind]
  refine (kcsCheckStatus_write_outcome fuel period).mono fun tr r h => ?_
  dsimp only
  split_ifs with hsucc
  · exact fun h' => absurd h' hsucc
  · rw [satisfies_ioWrite8_bind]
    exact fun _ => ⟨tr, rfl, h (not_not.1 hsucc)⟩

/-- One iteration of the data loop. -/
theorem sendByte_spec (fuel : ℕ) (period : UInt64) (data : Message) (tr : List PortEvent) (i : ℕ)
    (hI : Progress data.bytes tr i) :
    (sendByte fuel period data i).Satisfies True fun tr' r =>
      match r with
      | .again i' => Progress data.bytes (tr ++ tr') i'
      | .done status => status = .success → Progress data.bytes (tr ++ tr') data.bytes.length := by
  obtain ⟨hle, hI⟩ := hI
  unfold sendByte
  split_ifs with hi hlast
  · -- the last byte: `KCS_WRITE_END` goes first
    rw [satisfies_bind]
    refine (writeEnd_outcome fuel period).mono fun tr₁ status h₁ => ?_
    dsimp only
    split_ifs with hsucc
    · exact fun h => absurd h hsucc
    obtain ⟨tr₂, rfl, hcheck⟩ := h₁ (not_not.1 hsucc)
    have hend := write_step (w := (.kcsCmdReg, kcsWriteEnd)) hI hcheck
    rw [satisfies_bind]
    refine (kcsCheckStatus_write_outcome fuel period).mono fun tr₃ r h₃ => ?_
    split_ifs with herr
    · exact fun h => absurd h (EfiStatus.isError_iff.1 herr)
    rw [satisfies_ioWrite8_bind]
    have hbyte := write_step (w := (.kcsPort, data.bytes[i])) hend
      (h₃ (EfiStatus.isError_eq_false_iff.1 (by simpa using herr)))
    refine ⟨by omega, ?_⟩
    rw [writesUpTo_last (by omega)]
    simpa using hbyte
  · -- another byte
    rw [pure_bind]
    dsimp only
    rw [if_neg (by simp), satisfies_bind]
    refine (kcsCheckStatus_write_outcome fuel period).mono fun tr₁ r h₁ => ?_
    split_ifs with herr
    · exact fun h => absurd h (EfiStatus.isError_iff.1 herr)
    rw [satisfies_ioWrite8_bind]
    have hbyte := write_step (w := (.kcsPort, data.bytes[i])) hI
      (h₁ (EfiStatus.isError_eq_false_iff.1 (by simpa using herr)))
    refine ⟨by omega, ?_⟩
    rw [writesUpTo_succ (by omega)]
    simpa using hbyte
  · intro _
    obtain rfl : i = data.bytes.length := by omega
    exact ⟨Nat.le_refl _, by simpa using hI⟩

/-! ### The whole call -/

theorem abortWrites_ne_writeStart {tr : List PortEvent}
    (h : ∀ w ∈ portWrites tr, w ∈ abortWrites) :
    (.kcsCmdReg, kcsWriteStart) ∉ portWrites tr := by
  intro hmem
  have := h _ hmem
  simp [abortWrites, kcsWriteStart, kcsAbort] at this

theorem waitInputEmpty_spec (fuel : ℕ) (period : UInt64) :
    (waitInputEmpty fuel period).Satisfies True fun tr r =>
      (∀ w ∈ portWrites tr, w ∈ abortWrites) ∧ r ≠ some .success := by
  unfold waitInputEmpty
  refine satisfies_loop (I := fun tr _ => ∀ w ∈ portWrites tr, w ∈ abortWrites) ?_ fuel (by simp)
  intro tr timeOut hI
  rw [waitPoll, satisfies_ioRead8_bind]
  intro v
  dsimp only
  by_cases hfail : v = 0xFF ∨ timeOut ≥ period
  · rw [if_pos hfail, satisfies_bind]
    refine (kcsErrorExit_spec fuel period).mono fun tr' status ⟨hw, _⟩ => ?_
    have hwrites : ∀ w ∈ portWrites (tr ++ statusRead v :: tr'), w ∈ abortWrites := by
      simpa using List.forall_mem_append.2 ⟨hI, hw⟩
    split_ifs with hstatus hibf
    · exact ⟨by simpa using hwrites, by simpa using hstatus⟩
    · simpa using hwrites
    · exact ⟨by simpa using hwrites, by simp⟩
  · rw [if_neg hfail, pure_bind, if_neg (by simp)]
    split_ifs with hibf
    · simpa using hI
    · exact ⟨by simpa using hI, by simp⟩

/-- What `SendDataToBmc` has done when it reports success. -/
theorem sendDataToBmc_spec (fuel : ℕ) (period : UInt64) (data : Message) :
    (sendDataToBmc fuel period data).Satisfies True fun tr status => status = .success →
      ∃ pre post, tr = pre ++ portWrite .kcsCmdReg kcsWriteStart :: post ∧
        (.kcsCmdReg, kcsWriteStart) ∉ portWrites pre ∧
        (data.bytes ≠ [] → Progress data.bytes post data.bytes.length) := by
  unfold sendDataToBmc
  rw [satisfies_bind]
  refine (waitInputEmpty_spec fuel period).mono fun tr₁ r₁ ⟨hw₁, hr₁⟩ => ?_
  cases r₁ with
  | some status =>
    rintro rfl
    exact absurd rfl hr₁
  | none =>
  dsimp only
  rw [satisfies_ioWrite8_bind, satisfies_bind]
  refine (kcsCheckStatus_write_outcome fuel period).mono fun tr₂ r h₂ => ?_
  split_ifs with hsucc
  · exact fun h => absurd h hsucc
  have hcheck := h₂ (not_not.1 hsucc)
  by_cases hdata : data.bytes = []
  · exact satisfies_of_forall fun tr₃ status _ =>
      ⟨tr₁, tr₂ ++ tr₃, rfl, abortWrites_ne_writeStart hw₁, fun h => absurd hdata h⟩
  have hlen : 0 < data.bytes.length := List.length_pos_iff.2 hdata
  have hinit : Progress data.bytes tr₂ 0 := by
    refine ⟨Nat.zero_le _, hcheck.imp_left fun h => ⟨?_, h.stays⟩⟩
    rw [writesUpTo, if_pos hlen]
    exact .nil h.reads
  refine (satisfies_loop (I := fun tr i => Progress data.bytes (tr₂ ++ tr) i)
    (Q := fun tr status => status = .success → Progress data.bytes (tr₂ ++ tr) data.bytes.length)
    (fun tr i hI => (sendByte_spec fuel period data _ i hI).mono fun tr' r h => ?_) fuel
    (by simpa using hinit)).mono fun tr₃ status h₃ hstatus => ?_
  · cases r <;> simpa using h
  · exact ⟨tr₁, tr₂ ++ tr₃, rfl, abortWrites_ne_writeStart hw₁, fun _ => h₃ hstatus⟩

/-- What `SendDataToBmcPort` has done when it reports success. -/
theorem sendDataToBmcPort_spec (fuel : ℕ) (period : UInt64) (data : Message) :
    (sendDataToBmcPort fuel period data).Satisfies True fun tr status => status = .success →
      ∃ pre post, tr = pre ++ portWrite .kcsCmdReg kcsWriteStart :: post ∧
        (.kcsCmdReg, kcsWriteStart) ∉ portWrites pre ∧
        (data.bytes ≠ [] → Progress data.bytes post data.bytes.length) := by
  unfold sendDataToBmcPort
  -- a round after the first one does not send
  refine satisfies_loop (I := fun tr i => i < kcsAbortRetryCount → tr = []) ?_ fuel (by simp)
  intro tr i hI
  split_ifs with hi
  · obtain rfl := hI hi
    rw [satisfies_bind]
    refine (sendDataToBmc_spec fuel period data).mono fun tr₁ status h₁ => ?_
    split_ifs with herr
    · rw [satisfies_bind]
      refine (kcsErrorExit_spec fuel period).mono fun tr₂ status₂ _ => ?_
      split_ifs with hsucc
      · exact fun h => absurd h hsucc
      · intro hi'
        simp only [kcsAbortRetryCount] at hi'
        omega
    · simpa using h₁
  · simp

theorem Sent.suffix {data : List UInt8} {tr : List PortEvent} (h : Sent data tr) :
    (.kcsCmdReg, kcsWriteStart) :: dataWrites data <:+ portWrites tr := by
  obtain ⟨-, -, pre, post, rfl, hpost⟩ := h
  exact ⟨portWrites pre, by simp [hpost.portWrites_eq]⟩

theorem mem_portWrites_of_mem {reg : Reg} {value : UInt8} {tr : List PortEvent}
    (h : portWrite reg value ∈ tr) : (reg, value) ∈ portWrites tr :=
  List.mem_filterMap.2 ⟨_, h, rfl⟩

/-- A single `KCS_WRITE_START` splits the trace in one way. -/
theorem writeStart_unique {pre pre' post post' : List PortEvent}
    (hpre : (.kcsCmdReg, kcsWriteStart) ∉ portWrites pre)
    (hpost : (.kcsCmdReg, kcsWriteStart) ∉ portWrites post)
    (h : pre ++ portWrite .kcsCmdReg kcsWriteStart :: post =
      pre' ++ portWrite .kcsCmdReg kcsWriteStart :: post') : post = post' :=
  ((List.append_cons_inj_of_notMem (fun hmem => hpre (mem_portWrites_of_mem hmem))
    fun hmem => hpost (mem_portWrites_of_mem hmem)).1 h).2.2

/-- What a write transaction has written after `KCS_WRITE_START`. -/
theorem Sent.of_eq {data : List UInt8} {pre post : List PortEvent}
    (h : Sent data (pre ++ portWrite .kcsCmdReg kcsWriteStart :: post)) :
    portWrites post = dataWrites data := by
  obtain ⟨-, hcount, pre₁, post₁, heq, hpaced⟩ := h
  rw [heq] at hcount
  simp only [portWrites_append, portWrites_write_cons, List.count_append, List.count_cons_self,
    hpaced.portWrites_eq] at hcount
  have hpre₁ : (.kcsCmdReg, kcsWriteStart) ∉ portWrites pre₁ :=
    List.count_eq_zero.1 (by omega)
  have hpost₁ : (.kcsCmdReg, kcsWriteStart) ∉ portWrites post₁ := by
    rw [hpaced.portWrites_eq]
    exact writeStart_notMem_dataWrites data
  rw [← writeStart_unique hpre₁ hpost₁ heq.symm, hpaced.portWrites_eq]

/-- **When the KCS send is sound.**  A call that reports success has sent the message by the
protocol if and only if the message is not empty and, from `KCS_WRITE_START` on, every status with
the input buffer empty showed the WRITE state. -/
theorem sendDataToBmcPort_sent_iff {σ : Type} (bmc : Handler PortCall PortCall.Answer σ)
    {s s' : σ} {fuel : ℕ} {period : UInt64} {data : Message} {tr : List PortEvent}
    (h : (sendDataToBmcPort fuel period data).exec bmc s = some (.success, tr, s')) :
    Sent data.bytes tr ↔ data.bytes ≠ [] ∧ StaysInWrite tr := by
  obtain ⟨pre, post, rfl, hpre, hpost⟩ :=
    (sendDataToBmcPort_spec fuel period data).of_exec h rfl
  constructor
  · intro hsent
    have hpost_eq := hsent.of_eq
    have hpost_notMem : (.kcsCmdReg, kcsWriteStart) ∉ portWrites post := by
      rw [hpost_eq]
      exact writeStart_notMem_dataWrites _
    refine ⟨hsent.1, fun pre' post' heq => ?_⟩
    rw [← writeStart_unique hpre hpost_notMem heq]
    rcases (hpost hsent.1).2 with ⟨-, hstays⟩ | haborted
    · exact hstays
    · have := haborted.abort
      rw [hpost_eq] at this
      exact absurd this (abort_notMem_dataWrites _)
  · rintro ⟨hdata, hstays⟩
    rcases (hpost hdata).2 with ⟨hpaced, -⟩ | haborted
    · rw [writesUpTo, if_neg (Nat.lt_irrefl _)] at hpaced
      refine ⟨hdata, ?_, pre, post, rfl, hpaced⟩
      rw [portWrites_append, portWrites_write_cons, hpaced.portWrites_eq, List.count_append,
        List.count_cons_self, List.count_eq_zero.2 hpre,
        List.count_eq_zero.2 (writeStart_notMem_dataWrites _)]
    · obtain ⟨s, hs, hibf, hstate⟩ := haborted.left
      exact absurd (hstays pre post rfl s hs hibf) hstate

/-- Replies on which the BMC drops the message after its first byte: the status before the second
byte shows ERROR, both abort handshakes succeed, and the driver goes on in IDLE. -/
def droppedMessage : List UInt8 :=
  [0x00, 0x80, 0, 0, 0x80, 0, 0,
    0xC0, 0, 0xC0, 0xC0, 0, 0x40, 0x41, 0, 0x00, 0x01, 0,
    0x00, 0, 0x00, 0x00, 0, 0x40, 0x41, 0, 0x00, 0x01, 0]

/-- The message that was dropped in the middle is reported as sent. -/
theorem sendDataToBmcPort_not_sent :
    ¬ ∀ tr s', (sendDataToBmcPort 10 10 ⟨[0x18, 0x01], by decide⟩).exec replay droppedMessage =
      some (.success, tr, s') → Sent [0x18, 0x01] tr := by
  intro h
  have hrun : ((sendDataToBmcPort 10 10 ⟨[0x18, 0x01], by decide⟩).exec replay
      droppedMessage).map (fun r => (r.1, portWrites r.2.1)) = some (.success,
        [(.kcsCmdReg, kcsWriteStart), (.kcsPort, 0x18), (.kcsCmdReg, kcsAbort), (.kcsPort, 0),
          (.kcsPort, kcsRead), (.kcsCmdReg, kcsWriteEnd), (.kcsCmdReg, kcsAbort), (.kcsPort, 0),
          (.kcsPort, kcsRead), (.kcsPort, 0x01)]) := by decide
  obtain ⟨⟨status, tr, s'⟩, hexec, heq⟩ := Option.map_eq_some_iff.1 hrun
  simp only [Prod.mk.injEq] at heq
  obtain ⟨rfl, hwrites⟩ := heq
  have := (h tr s' hexec).suffix
  rw [hwrites] at this
  revert this
  decide

/-- Replies of a BMC that takes the message by the protocol. -/
def takenMessage : List UInt8 := [0x00, 0x80, 0, 0, 0x80, 0, 0, 0x80, 0, 0, 0x80, 0, 0]

theorem sendDataToBmcPort_sent_iff_taken : ∃ tr s',
    (sendDataToBmcPort 10 10 ⟨[0x18, 0x01], by decide⟩).exec replay takenMessage =
      some (.success, tr, s') ∧
        (Sent [0x18, 0x01] tr ↔ [0x18, 0x01] ≠ ([] : List UInt8) ∧ StaysInWrite tr) := by
  have hrun : ((sendDataToBmcPort 10 10 ⟨[0x18, 0x01], by decide⟩).exec replay
      takenMessage).map (·.1) = some .success := by decide
  obtain ⟨⟨status, tr, s'⟩, hexec, rfl⟩ := Option.map_eq_some_iff.1 hrun
  exact ⟨tr, s', hexec, sendDataToBmcPort_sent_iff replay hexec⟩

end Kcs

end IpmiFeature
