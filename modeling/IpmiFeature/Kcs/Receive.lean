import IpmiFeature.Kcs.Checks

/-!
# What a successful KCS receive has read

`Obtained data tr` is the read transaction of the interface: one round for each byte of `data`,
in which the BMC shows READ and then a full output buffer, the byte is read and `KCS_READ` is
written; and at the end the BMC shows IDLE and then a full output buffer.

As on the send side, `KcsCheckStatus` reports success when it found another state but the abort
handshake went through, and `ReceiveBmcData` then takes the next byte as part of the response.
`receiveBmcDataFromPort_obtained_iff` says that this is the only way in which a call that reports
success can depart from the transaction.
-/

namespace IpmiFeature

open Interaction Prog

namespace Kcs

/-! ### The read transaction -/

/-- Among the values read from the status register one satisfies `p` and a later one `q`. -/
def Shows (p q : KcsStatus → Prop) (values : List UInt8) : Prop :=
  ∃ a b : UInt8, [a, b].Sublist values ∧ p ⟨a⟩ ∧ q ⟨b⟩

/-- The BMC has taken the last write and is in state `st`. -/
def InState (st : KcsState) (s : KcsStatus) : Prop := s.ibf = false ∧ s.state = st

/-- The output buffer is full. -/
def OutputFull (s : KcsStatus) : Prop := s.obf = true

/-- The trace of the bytes `data`: each is read after READ and a full output buffer have been
shown, and is acknowledged by `KCS_READ`. -/
inductive Transferred : List UInt8 → List PortEvent → Prop
  | nil : Transferred [] []
  | snoc {data : List UInt8} {tr : List PortEvent} {values : List UInt8} {byte : UInt8}
      (h : Transferred data tr) (hready : Shows (InState .read) OutputFull values) :
      Transferred (data ++ [byte])
        (tr ++ (values.map statusRead ++ [dataRead byte, portWrite .kcsPort kcsRead]))

/-- The read transaction for `data`.  The only writes are one `KCS_READ` for each byte; after the
last byte IDLE and a full output buffer are shown, and a dummy byte is read. -/
structure Obtained (data : List UInt8) (tr : List PortEvent) : Prop where
  /-- The writes of the call. -/
  writes : portWrites tr = List.replicate data.length (.kcsPort, kcsRead)
  /-- The bytes, and what follows them. -/
  transfer : ∃ tr' values dummy, Transferred data tr' ∧
    Shows (InState .idle) OutputFull values ∧
    tr = tr' ++ (values.map statusRead ++ [dataRead dummy])

theorem Transferred.portWrites_eq {data : List UInt8} {tr : List PortEvent}
    (h : Transferred data tr) :
    portWrites tr = List.replicate data.length (.kcsPort, kcsRead) := by
  induction h with
  | nil => rfl
  | snoc _ _ ih => simp [ih, List.replicate_succ']

/-- Two polling loops, one after the other, show what ended them. -/
theorem Polled.shows {tr₁ tr₂ : List PortEvent} {s t : KcsStatus} {st : KcsState}
    (h₁ : Polled (·.ibf) tr₁ s) (hs : s.state = st) (h₂ : Polled (!·.obf) tr₂ t) :
    ∃ values : List UInt8, tr₁ ++ tr₂ = values.map statusRead ∧
      Shows (InState st) OutputFull values := by
  obtain ⟨vs₁, rfl, -, hibf⟩ := h₁
  obtain ⟨vs₂, rfl, -, hobf⟩ := h₂
  refine ⟨(vs₁ ++ [s.rawData]) ++ (vs₂ ++ [t.rawData]), by simp, s.rawData, t.rawData, ?_,
    ⟨hibf, hs⟩, by simpa [OutputFull] using hobf⟩
  exact (List.sublist_append_right vs₁ [s.rawData]).append
    (List.sublist_append_right vs₂ [t.rawData])

/-! ### The statuses that decide -/

/-- The first status with the input buffer empty after each write, and after the start of the
call if `pending`. -/
def settled : Bool → List PortEvent → List KcsStatus
  | _, [] => []
  | pending, ⟨.ioRead8 .kcsCmdReg, value⟩ :: tr =>
    if pending && !(KcsStatus.mk value).ibf then ⟨value⟩ :: settled false tr
    else settled pending tr
  | pending, ⟨.ioRead8 .kcsPort, _⟩ :: tr => settled pending tr
  | _, ⟨.ioWrite8 _ _, _⟩ :: tr => settled true tr

@[simp] theorem settled_nil (pending : Bool) : settled pending [] = [] := rfl

theorem settled_statusRead_cons (pending : Bool) (value : UInt8) (tr : List PortEvent) :
    settled pending (statusRead value :: tr) =
      if pending && !(KcsStatus.mk value).ibf then ⟨value⟩ :: settled false tr
      else settled pending tr := rfl

@[simp] theorem settled_dataRead_cons (pending : Bool) (value : UInt8) (tr : List PortEvent) :
    settled pending (dataRead value :: tr) = settled pending tr := rfl

@[simp] theorem settled_write_cons (pending : Bool) (reg : Reg) (value : UInt8) (u : Unit)
    (tr : List PortEvent) : settled pending (⟨.ioWrite8 reg value, u⟩ :: tr) = settled true tr := rfl

/-- After a write the search starts again. -/
theorem settled_append_write (pending : Bool) (tr : List PortEvent) (reg : Reg) (value : UInt8)
    (tr' : List PortEvent) :
    settled pending (tr ++ portWrite reg value :: tr') = settled pending tr ++ settled true tr' := by
  induction tr generalizing pending with
  | nil => rfl
  | cons e tr ih =>
    obtain ⟨⟨⟨⟩⟩ | ⟨reg', value'⟩, v⟩ := e
    · exact ih _
    · rw [List.cons_append, settled_statusRead_cons, settled_statusRead_cons]
      split_ifs
      · rw [ih, List.cons_append]
      · exact ih _
    · exact ih _

/-- What decides in a trace still decides in a longer one. -/
theorem settled_mono (pending : Bool) (tr tr' : List PortEvent) :
    settled pending tr <+: settled pending (tr ++ tr') := by
  induction tr generalizing pending with
  | nil => exact List.nil_prefix
  | cons e tr ih =>
    obtain ⟨⟨⟨⟩⟩ | ⟨reg', value'⟩, v⟩ := e
    · exact ih _
    · rw [List.cons_append, settled_statusRead_cons, settled_statusRead_cons]
      split_ifs
      · exact (List.prefix_cons_inj _).2 (ih _)
      · exact ih _
    · exact ih _

@[simp] theorem settled_false_map_statusRead (vs : List UInt8) (tr : List PortEvent) :
    settled false (vs.map statusRead ++ tr) = settled false tr := by
  induction vs with
  | nil => rfl
  | cons v vs ih => simpa [settled_statusRead_cons] using ih

/-- What ends the polling of the input buffer decides. -/
theorem Polled.settled_eq {tr : List PortEvent} {s : KcsStatus} (h : Polled (·.ibf) tr s)
    (tr' : List PortEvent) : settled true (tr ++ tr') = s :: settled false tr' := by
  obtain ⟨vs, rfl, hvs, hs⟩ := h
  induction vs with
  | nil => simp [settled_statusRead_cons, hs]
  | cons v vs ih =>
    have hv : (KcsStatus.mk v).ibf = true := hvs v (by simp)
    simpa [settled_statusRead_cons, hv] using ih fun w hw => hvs w (by simp [hw])

theorem Polled.settled_false_eq {busy : KcsStatus → Bool} {tr : List PortEvent} {s : KcsStatus}
    (h : Polled busy tr s) (tr' : List PortEvent) :
    settled false (tr ++ tr') = settled false tr' := by
  obtain ⟨vs, rfl, -, -⟩ := h
  simp [settled_statusRead_cons]

/-- The trace is at a point where the next polling decides. -/
def AtWrite (tr : List PortEvent) : Prop :=
  ∀ tr', settled true (tr ++ tr') = settled true tr ++ settled true tr'

theorem atWrite_nil : AtWrite [] := fun _ => rfl

theorem atWrite_snoc (tr : List PortEvent) (reg : Reg) (value : UInt8) :
    AtWrite (tr ++ [portWrite reg value]) := by
  intro tr'
  simp [settled_append_write]

/-! ### The data loop -/

/-- Every status that decides shows READ or IDLE. -/
def StaysInRead (tr : List PortEvent) : Prop :=
  ∀ s ∈ settled true tr, s.state = .read ∨ s.state = .idle

/-- A check found another state and went through the abort handshake. -/
structure ReadAborted (tr : List PortEvent) : Prop where
  /-- `KCS_ABORT` was written. -/
  abort : (.kcsCmdReg, kcsAbort) ∈ portWrites tr
  /-- A status that decides shows another state. -/
  left : ∃ s ∈ settled true tr, s.state ≠ .read ∧ s.state ≠ .idle

theorem ReadAborted.append {tr : List PortEvent} (h : ReadAborted tr) (tr' : List PortEvent) :
    ReadAborted (tr ++ tr') := by
  obtain ⟨habort, s, hs, hleft⟩ := h
  exact ⟨by simp [habort], s, (settled_mono _ _ _).subset hs, hleft⟩

theorem ReadAborted.not_staysInRead {tr : List PortEvent} (h : ReadAborted tr) :
    ¬ StaysInRead tr := by
  obtain ⟨-, s, hs, hread, hidle⟩ := h
  intro hstays
  exact (hstays s hs).elim hread hidle

theorem ReadAborted.not_obtained {data : List UInt8} {tr : List PortEvent}
    (h : ReadAborted tr) : ¬ Obtained data tr := by
  intro hobtained
  have hmem := h.abort
  rw [hobtained.writes] at hmem
  cases List.eq_of_mem_replicate hmem

/-- The state of the transaction after `Count` bytes: so far it went by the protocol, or it has
been aborted. -/
structure ReadProgress (dataSize : UInt8) (tr : List PortEvent) (s : ℕ × Memory UInt8) : Prop where
  /-- The buffer is not overrun. -/
  count_le : s.1 ≤ dataSize.toNat
  /-- The next check polls after a write, or is the first one. -/
  atWrite : AtWrite tr
  /-- What has happened so far. -/
  course : Transferred (s.2.slice 0 s.1) tr ∧ StaysInRead tr ∨ ReadAborted tr

/-- The outcome of the receive loop when it reports success. -/
def ReadOutcome (tr : List PortEvent) (received : Received) : Prop :=
  Obtained (received.data.slice 0 received.dataSize.toNat) tr ∧ StaysInRead tr ∨ ReadAborted tr

/-- A check that finds READ and takes a byte. -/
theorem ReadProgress.byte {dataSize : UInt8} {tr tr₁ tr₂ : List PortEvent} {count : ℕ}
    {data : Memory UInt8} {s t : KcsStatus} (hI : ReadProgress dataSize tr (count, data))
    (hcount : count < dataSize.toNat) (h₁ : Polled (·.ibf) tr₁ s) (hs : s.state = .read)
    (h₂ : Polled (!·.obf) tr₂ t) (byte : UInt8) :
    ReadProgress dataSize
      (tr ++ (tr₁ ++ tr₂ ++ [dataRead byte, portWrite .kcsPort kcsRead]))
      (count + 1, data.store count [byte]) := by
  refine ⟨hcount, ?_, ?_⟩
  · simpa using atWrite_snoc (tr ++ (tr₁ ++ tr₂ ++ [dataRead byte])) .kcsPort kcsRead
  · rcases hI.course with ⟨htr, hstays⟩ | haborted
    · left
      obtain ⟨values, hvalues, hshows⟩ := h₁.shows hs h₂
      constructor
      · rw [hvalues]
        have hslice : (data.store count [byte]).slice 0 (count + 1) =
            data.slice 0 count ++ [byte] := Memory.slice_store_concat _ _
        rw [hslice]
        exact htr.snoc hshows
      · intro x hx
        rw [hI.atWrite, List.append_assoc, h₁.settled_eq, h₂.settled_false_eq] at hx
        simp only [settled_dataRead_cons, settled_write_cons, settled_nil, List.mem_append,
          List.mem_singleton] at hx
        rcases hx with hx | rfl
        · exact hstays x hx
        · exact .inl hs
    · exact .inr (haborted.append _)

/-- A check that finds another state. -/
theorem ReadProgress.aborted {dataSize : UInt8} {tr tr₁ tr₂ : List PortEvent}
    {s : ℕ × Memory UInt8} {x : KcsStatus} (hI : ReadProgress dataSize tr s)
    (h₁ : Polled (·.ibf) tr₁ x) (hread : x.state ≠ .read) (hidle : x.state ≠ .idle)
    (h₂ : Handshake tr₂) : ReadAborted (tr ++ (tr₁ ++ tr₂)) := by
  refine ⟨by simp [h₂.portWrites_eq, abortWrites], x, ?_, hread, hidle⟩
  rw [hI.atWrite, h₁.settled_eq]
  simp

/-- A check that finds IDLE. -/
theorem ReadProgress.finish {dataSize : UInt8} {tr tr₁ tr₂ : List PortEvent} {count : ℕ}
    {data : Memory UInt8} {s t : KcsStatus} (hI : ReadProgress dataSize tr (count, data))
    (h₁ : Polled (·.ibf) tr₁ s) (hs : s.state = .idle) (h₂ : Polled (!·.obf) tr₂ t)
    (dummy : UInt8) :
    ReadOutcome (tr ++ (tr₁ ++ (tr₂ ++ [dataRead dummy])))
      ⟨.success, data, UInt8.ofNat count⟩ := by
  have hcount : (UInt8.ofNat count).toNat = count := by
    have hle : count ≤ dataSize.toNat := hI.count_le
    have hlt : dataSize.toNat < 256 := dataSize.toNat_lt
    exact UInt8.toNat_ofNat_of_lt' (Nat.lt_of_le_of_lt hle hlt)
  rcases hI.course with ⟨htr, hstays⟩ | haborted
  · left
    obtain ⟨values, hvalues, hshows⟩ := h₁.shows hs h₂
    dsimp only
    rw [hcount]
    refine ⟨⟨?_, tr, values, dummy, htr, hshows, ?_⟩, fun x hx => ?_⟩
    · simp [htr.portWrites_eq, h₁.portWrites_eq, h₂.portWrites_eq]
    · rw [← hvalues, List.append_assoc]
    · rw [hI.atWrite, h₁.settled_eq, h₂.settled_false_eq] at hx
      rcases List.mem_append.1 hx with hx | hx
      · exact hstays x hx
      · rw [settled_dataRead_cons, settled_nil, List.mem_singleton] at hx
        exact .inr (hx ▸ hs)
  · exact .inr (haborted.append _)

/-- One iteration of the receive loop. -/
theorem receiveByte_spec (fuel : ℕ) (period : UInt64) (dataSize : UInt8) (tr : List PortEvent)
    (s : ℕ × Memory UInt8) (hI : ReadProgress dataSize tr s) :
    (receiveByte fuel period dataSize s).Satisfies True fun tr' r =>
      match r with
      | .again s' => ReadProgress dataSize (tr ++ tr') s'
      | .done received => received.status = .success → ReadOutcome (tr ++ tr') received := by
  obtain ⟨count, data⟩ := s
  unfold receiveByte
  dsimp only
  rw [satisfies_bind]
  refine (kcsCheckStatus_read_spec fuel period).mono fun tr₀ ⟨status, idle⟩ h => ?_
  dsimp only at h ⊢
  by_cases hsucc : status = .success
  · rw [if_neg (not_not.2 hsucc)]
    obtain ⟨tr₁, s, tr₂, rfl, h₁, hcase⟩ := h hsucc
    rcases hcase with ⟨hread, rfl, t, ht⟩ | ⟨hidle, rfl, tr₃, t, dummy, rfl, ht⟩ |
      ⟨hread, hidle, rfl, hshake⟩
    · -- the next byte
      rw [if_neg (by decide)]
      split_ifs with hcount
      · simp
      · rw [satisfies_ioRead8_bind]
        intro byte
        rw [satisfies_ioWrite8_bind]
        exact hI.byte (by omega) h₁ hread ht byte
    · -- the end of the response
      rw [if_pos rfl]
      exact fun _ => by simpa using hI.finish h₁ hidle ht dummy
    · -- the next byte, after an abort
      rw [if_neg (by decide)]
      have haborted := hI.aborted h₁ hread hidle hshake
      split_ifs with hcount
      · simp
      · rw [satisfies_ioRead8_bind]
        intro byte
        rw [satisfies_ioWrite8_bind]
        refine ⟨by dsimp only; omega, ?_, .inr ?_⟩
        · simpa using atWrite_snoc (tr ++ (tr₁ ++ tr₂ ++ [dataRead byte])) .kcsPort kcsRead
        · simpa using haborted.append [dataRead byte, portWrite .kcsPort kcsRead]
  · rw [if_pos hsucc]
    exact fun h => absurd h hsucc

/-! ### The whole call -/

theorem receiveBmcData_spec (fuel : ℕ) (period : UInt64) (data : Memory UInt8)
    (dataSize : UInt8) :
    (receiveBmcData fuel period data dataSize).Satisfies True fun tr received =>
      received.status = .success → ReadOutcome tr received := by
  refine satisfies_loop (I := ReadProgress dataSize) (fun tr s hI => ?_) fuel
    ⟨Nat.zero_le _, atWrite_nil, .inl ⟨.nil, by simp [StaysInRead]⟩⟩
  refine (receiveByte_spec fuel period dataSize tr s hI).mono fun tr' r h => ?_
  cases r <;> exact h

/-- What `ReceiveBmcDataFromPort` has done when it reports success. -/
theorem receiveBmcDataFromPort_spec (fuel : ℕ) (period : UInt64) (data : Memory UInt8)
    (dataSize : UInt8) :
    (receiveBmcDataFromPort fuel period data dataSize).Satisfies True fun tr received =>
      received.status = .success → ReadOutcome tr received := by
  unfold receiveBmcDataFromPort
  -- a round after the first one does not receive
  refine satisfies_loop (I := fun tr s => s.1 < kcsAbortRetryCount → tr = []) ?_ fuel (by simp)
  rintro tr ⟨i, data⟩ hI
  dsimp only
  split_ifs with hi
  · obtain rfl := hI hi
    rw [satisfies_bind]
    refine (receiveBmcData_spec fuel period data dataSize).mono fun tr₁ received h₁ => ?_
    split_ifs with herr
    · rw [satisfies_bind]
      refine (kcsErrorExit_spec fuel period).mono fun tr₂ status _ => ?_
      split_ifs with hsucc
      · exact fun h => absurd h hsucc
      · intro hi'
        simp only [kcsAbortRetryCount] at hi'
        omega
    · simpa using h₁
  · simp

/-- **When the KCS receive is sound.**  A call that reports success has read its response by the
protocol if and only if the first status with the input buffer empty, after the start of the call
and after each write to a register, always showed READ or IDLE. -/
theorem receiveBmcDataFromPort_obtained_iff {σ : Type} (bmc : Handler PortCall PortCall.Answer σ)
    {s s' : σ} {fuel : ℕ} {period : UInt64} {data : Memory UInt8} {dataSize : UInt8}
    {received : Received} {tr : List PortEvent}
    (h : (receiveBmcDataFromPort fuel period data dataSize).exec bmc s = some (received, tr, s'))
    (hsucc : received.status = .success) :
    Obtained (received.data.slice 0 received.dataSize.toNat) tr ↔ StaysInRead tr := by
  have hspec := (receiveBmcDataFromPort_spec fuel period data dataSize).of_exec h hsucc
  rcases hspec with ⟨hobtained, hstays⟩ | haborted
  · exact iff_of_true hobtained hstays
  · exact iff_of_false haborted.not_obtained haborted.not_staysInRead

/-- Replies of a BMC that is in the ERROR state: the abort handshake succeeds, and the byte that
the data register then holds is taken for a response. -/
def abortedResponse : List UInt8 :=
  [0xC0, 0xC0, 0xC0, 0, 0x40, 0x41, 0x01, 0x00, 0x01, 0, 0xAA, 0x00, 0x01, 0]

/-- A byte read after an abort is reported as the response. -/
theorem receiveBmcDataFromPort_not_obtained :
    ¬ ∀ received tr s', (receiveBmcDataFromPort 10 10 (fun _ => 0) 3).exec replay
      abortedResponse = some (received, tr, s') → received.status = .success →
        Obtained (received.data.slice 0 received.dataSize.toNat) tr := by
  intro h
  have hrun : ((receiveBmcDataFromPort 10 10 (fun _ => 0) 3).exec replay abortedResponse).map
      (fun r => (r.1.status, r.1.data.slice 0 r.1.dataSize.toNat, portWrites r.2.1)) =
        some (.success, [0xAA], [(.kcsCmdReg, kcsAbort), (.kcsPort, 0), (.kcsPort, kcsRead),
          (.kcsPort, kcsRead)]) := by decide
  obtain ⟨⟨received, tr, s'⟩, hexec, heq⟩ := Option.map_eq_some_iff.1 hrun
  simp only [Prod.mk.injEq] at heq
  obtain ⟨hsucc, hdata, hwrites⟩ := heq
  have := (h received tr s' hexec hsucc).writes
  rw [hwrites, hdata] at this
  revert this
  decide

/-- Replies of a BMC that answers with two bytes. -/
def plainResponse : List UInt8 := [0x40, 0x41, 0x1C, 0x40, 0x41, 0x01, 0x00, 0x01, 0]

theorem receiveBmcDataFromPort_obtained_iff_plain : ∃ received tr s',
    (receiveBmcDataFromPort 10 10 (fun _ => 0) 3).exec replay plainResponse =
        some (received, tr, s') ∧ received.status = .success ∧
      (Obtained (received.data.slice 0 received.dataSize.toNat) tr ↔ StaysInRead tr) := by
  have hrun : ((receiveBmcDataFromPort 10 10 (fun _ => 0) 3).exec replay plainResponse).map
      (·.1.status) = some .success := by decide
  obtain ⟨⟨received, tr, s'⟩, hexec, hsucc⟩ := Option.map_eq_some_iff.1 hrun
  exact ⟨received, tr, s', hexec, hsucc, receiveBmcDataFromPort_obtained_iff replay hexec hsucc⟩

end Kcs

end IpmiFeature
