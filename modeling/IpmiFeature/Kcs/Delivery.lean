import IpmiFeature.Interaction.Words
import IpmiFeature.Kcs.Slave

/-!
# Delivery between the KCS driver and a conformant BMC

The driver of `Kcs.Basic` against the BMC of `Kcs.Slave`.  Send and receive both succeed, the BMC
gets the request and the host the response, whatever the delays are.

The simulation follows the registers the BMC is heading for: `Taking` while the request goes over,
`Presenting` while the response comes back.
-/

namespace IpmiFeature

open Interaction Prog

namespace Kcs

variable {period : UInt64} {bmc : Firmware period} {r : SlaveRegs} {s : Slave} {fuel : ℕ}

@[simp] theorem ends_ioRead8_bind {σ α : Type} {h : Handler PortCall PortCall.Answer σ} {s : σ}
    {reg : Reg} {f : UInt8 → PortProg α} {Q : α → σ → Prop} :
    (ioRead8 reg >>= f).Ends h s Q ↔ (f (h (.ioRead8 reg) s).1).Ends h (h (.ioRead8 reg) s).2 Q :=
  Iff.rfl

@[simp] theorem ends_ioWrite8_bind {σ α : Type} {h : Handler PortCall PortCall.Answer σ} {s : σ}
    {reg : Reg} {value : UInt8} {f : Unit → PortProg α} {Q : α → σ → Prop} :
    (ioWrite8 reg value >>= f).Ends h s Q ↔ (f ()).Ends h (h (.ioWrite8 reg value) s).2 Q :=
  Iff.rfl

/-! ### Polling -/

/-- The exit of a polling loop is not taken below the timeout. -/
theorem not_timeout {timeOut : UInt64} {value : UInt8} (hvalue : value ≠ 0xFF)
    (h : timeOut.toNat < period.toNat) : ¬ (value = 0xFF ∨ timeOut ≥ period) := by
  rintro (hff | hge)
  · exact hvalue hff
  · exact absurd (UInt64.le_iff_toNat_le.1 hge) (Nat.not_le.2 h)

/-- The rule for a polling loop: each poll below the timeout ends the loop or takes one off the
`wait` that is left, so that the counter never reaches the timeout. -/
theorem ends_polling {α : Type} {poll : UInt64 → PortProg (Iter UInt64 α)} {I : Slave → Prop}
    {Q : α → Slave → Prop} (wait : Slave → ℕ)
    (hpoll : ∀ (timeOut : UInt64) s, timeOut.toNat < period.toNat → I s →
      (poll timeOut).Ends bmc.slave s fun o s' =>
        match o with
        | .again timeOut' => timeOut' = timeOut + 1 ∧ I s' ∧ wait s' < wait s
        | .done a => Q a s')
    (hfuel : period.toNat < fuel) (hs : I s) (hwait : wait s < period.toNat) :
    (Prog.loop poll fuel 0).Ends bmc.slave s Q := by
  refine ends_loop (I := fun (timeOut : UInt64) s => I s ∧ timeOut.toNat + wait s < period.toNat)
    (fun timeOut _ => period.toNat - timeOut.toNat) ?_ fuel 0 s ⟨hs, ?_⟩ ?_
  · rintro timeOut s ⟨hs, hlt⟩
    have hlt' : timeOut.toNat < period.toNat := by omega
    have hsucc := toNat_succ_long (UInt64.lt_iff_toNat_lt.2 hlt')
    refine (hpoll timeOut s hlt' hs).mono fun o s' ho => ?_
    cases o with
    | again timeOut' =>
      obtain ⟨rfl, hs', hdecr⟩ := ho
      exact ⟨⟨hs', by omega⟩, by omega⟩
    | done a => exact ho
  · simpa using hwait
  · simpa using hfuel

/-- Waiting for IBF to clear. -/
theorem pollStatus_ibf (hfuel : period.toNat < fuel) (hs : s.Settles bmc r) :
    (pollStatus fuel period (·.ibf)).Ends bmc.slave s fun o s' =>
      ∃ status, o = some status ∧ status.state = r.state ∧ s'.Settled bmc r := by
  refine ends_polling (I := (·.Settles bmc r)) Slave.wait ?_ hfuel hs hs.wait_lt
  intro timeOut s hlt hs
  rw [ends_ioRead8_bind]
  obtain ⟨hvalue, ⟨hibf, hs', hwait⟩ | ⟨hibf, hstate, hs'⟩⟩ := hs.poll
  · rw [if_neg (not_timeout hvalue hlt), if_pos hibf]
    exact ⟨rfl, hs', by omega⟩
  · rw [if_neg (not_timeout hvalue hlt), if_neg (by simp [hibf])]
    exact ⟨_, rfl, hstate, hs'⟩

/-- Waiting for OBF to show. -/
theorem pollStatus_obf (hfuel : period.toNat < fuel) (hs : s.Settled bmc r)
    (hobf : r.obf = true) :
    (pollStatus fuel period (!·.obf)).Ends bmc.slave s fun o s' =>
      ∃ status, o = some status ∧ s'.Settled bmc r := by
  refine ends_polling (I := (·.Settled bmc r)) Slave.obfDelay ?_ hfuel hs hs.obfDelay_lt
  intro timeOut s hlt hs
  rw [ends_ioRead8_bind]
  obtain ⟨hvalue, hs', hdelay, hshown⟩ := hs.poll_obf hobf
  rw [if_neg (not_timeout hvalue hlt)]
  by_cases hzero : s.obfDelay = 0
  · rw [if_neg (by simpa using hshown.2 hzero)]
    exact ⟨_, rfl, hs'⟩
  · rw [if_pos (by simpa using mt hshown.1 hzero)]
    exact ⟨rfl, hs', by omega⟩

/-- The first loop of the send function. -/
theorem waitInputEmpty_ends (hfuel : period.toNat < fuel) (hs : s.Settles bmc r) :
    (waitInputEmpty fuel period).Ends bmc.slave s fun o s' => o = none ∧ s'.Settled bmc r := by
  refine ends_polling (I := (·.Settles bmc r)) Slave.wait ?_ hfuel hs hs.wait_lt
  intro timeOut s hlt hs
  rw [waitPoll, ends_ioRead8_bind]
  obtain ⟨hvalue, ⟨hibf, hs', hwait⟩ | ⟨hibf, -, hs'⟩⟩ := hs.poll
  · rw [if_neg (not_timeout hvalue hlt), pure_bind]
    dsimp only
    rw [if_neg (by simp), if_pos hibf]
    exact ⟨rfl, hs', by omega⟩
  · rw [if_neg (not_timeout hvalue hlt), pure_bind]
    dsimp only
    rw [if_neg (by simp), if_neg (by simp [hibf])]
    exact ⟨rfl, hs'⟩

/-! ### Status checks -/

/-- A check for WRITE of a BMC that goes to WRITE. -/
theorem kcsCheckStatus_write_ends (hfuel : period.toNat < fuel) (hs : s.Settles bmc r)
    (hstate : r.state = .write) :
    (kcsCheckStatus fuel period .write).Ends bmc.slave s fun o s' =>
      o = (.success, false) ∧ s'.Settled bmc { r with obf := false } := by
  unfold kcsCheckStatus
  rw [ends_bind]
  refine (pollStatus_ibf hfuel hs).mono ?_
  rintro _ s₁ ⟨status, rfl, hstatus, hs₁⟩
  dsimp only
  rw [if_pos rfl, ends_ioRead8_bind, if_neg (by simp [hstatus, hstate])]
  have hs₂ := hs₁.readData.2
  -- the second read of the data register
  exact ⟨rfl, hs₂.readData.2⟩

/-- A check for READ of a BMC that goes to READ or to IDLE. -/
theorem kcsCheckStatus_read_ends (hfuel : period.toNat < fuel) (hs : s.Settles bmc r)
    (hobf : r.obf = true) (hstate : r.state = .read ∨ r.state = .idle) :
    (kcsCheckStatus fuel period .read).Ends bmc.slave s fun o s' =>
      o = (.success, decide (r.state = .idle)) ∧
        s'.Settled bmc (if r.state = .idle then { r with obf := false } else r) := by
  unfold kcsCheckStatus
  rw [ends_bind]
  refine (pollStatus_ibf hfuel hs).mono ?_
  rintro _ s₁ ⟨status, rfl, hstatus, hs₁⟩
  dsimp only
  rw [if_neg (by decide)]
  rcases hstate with hread | hidle
  · rw [if_neg (by simp [hstatus, hread])]
    unfold kcsCheckOutput
    rw [if_pos rfl, ends_bind]
    refine (pollStatus_obf hfuel hs₁ hobf).mono ?_
    rintro _ s₂ ⟨_, rfl, hs₂⟩
    have hne : r.state ≠ .idle := by rw [hread]; decide
    refine ⟨by simp [hne], ?_⟩
    rwa [if_neg hne]
  · rw [if_pos (by simp [hstatus, hidle]), if_pos ⟨hstatus.trans hidle, rfl⟩]
    unfold kcsCheckOutput
    rw [if_pos rfl, ends_bind]
    refine (pollStatus_obf hfuel hs₁ hobf).mono ?_
    rintro _ s₂ ⟨_, rfl, hs₂⟩
    refine ⟨by simp [hidle], ?_⟩
    rw [if_pos hidle]
    exact hs₂.readData.2

/-! ### The two phases of an exchange -/

/-- The BMC has taken the bytes `request`, and `KCS_WRITE_END` if `last`. -/
structure Taking (request : List UInt8) (last : Bool) (r : SlaveRegs) : Prop where
  /-- The BMC is in the WRITE state. -/
  state_eq : r.state = .write
  /-- The next byte is the last one. -/
  writeEnd_eq : r.writeEnd = last
  /-- The bytes taken. -/
  request_eq : r.request = request

/-- The BMC presents the bytes `response`, and IDLE after the last one. -/
structure Presenting (request : List UInt8) (response : List UInt8) (r : SlaveRegs) : Prop where
  /-- The bytes of the request. -/
  request_eq : r.request = request
  /-- The output register is full. -/
  obf_eq : r.obf = true
  /-- What is presented, and what follows it. -/
  presented : match response with
    | [] => r.state = .idle
    | byte :: rest => r.state = .read ∧ r.output = byte ∧ r.response = rest

theorem Taking.clear {request : List UInt8} {last : Bool} (h : Taking request last r) :
    Taking request last { r with obf := false } := ⟨h.state_eq, h.writeEnd_eq, h.request_eq⟩

theorem presenting_present {request : List UInt8} (h : r.request = request) :
    Presenting request r.response (r.present bmc) := by
  unfold SlaveRegs.present
  cases hresponse : r.response with
  | nil => exact ⟨h, rfl, rfl⟩
  | cons byte rest => exact ⟨h, rfl, rfl, rfl, rfl⟩

theorem taking_writeStart : Taking [] false (r.take bmc .kcsCmdReg kcsWriteStart) :=
  ⟨rfl, rfl, rfl⟩

theorem Taking.writeEnd {request : List UInt8} (h : Taking request false r) :
    Taking request true (r.take bmc .kcsCmdReg kcsWriteEnd) := by
  have htake : r.take bmc .kcsCmdReg kcsWriteEnd = { r with writeEnd := true } := by
    rw [SlaveRegs.take, if_neg (by decide), if_pos ⟨rfl, h.state_eq⟩]
  rw [htake]
  exact ⟨h.state_eq, rfl, h.request_eq⟩

theorem Taking.byte {request : List UInt8} (h : Taking request false r)
    (bmc : Firmware period) (value : UInt8) :
    Taking (request ++ [value]) false (r.take bmc .kcsPort value) := by
  have htake : r.take bmc .kcsPort value = { r with request := r.request ++ [value] } := by
    simp [SlaveRegs.take, h.state_eq, h.writeEnd_eq]
  rw [htake]
  exact ⟨h.state_eq, h.writeEnd_eq, by rw [h.request_eq]⟩

/-- The last byte: the BMC answers. -/
theorem Taking.lastByte {request : List UInt8} (h : Taking request true r)
    (bmc : Firmware period) (value : UInt8) :
    Presenting (request ++ [value]) (bmc.answer (request ++ [value]))
      (r.take bmc .kcsPort value) := by
  have htake : r.take bmc .kcsPort value = SlaveRegs.present bmc { r with
      request := r.request ++ [value], response := bmc.answer (r.request ++ [value]) } := by
    simp [SlaveRegs.take, h.state_eq, h.writeEnd_eq]
  rw [htake, ← h.request_eq]
  exact presenting_present (r := { r with
    request := r.request ++ [value], response := bmc.answer (r.request ++ [value]) }) rfl

/-- `KCS_READ`: the BMC goes on to the next byte. -/
theorem Presenting.next {request rest : List UInt8} {byte : UInt8}
    (h : Presenting request (byte :: rest) r) :
    Presenting request rest (r.take bmc .kcsPort kcsRead) := by
  obtain ⟨hrequest, -, hstate, -, hresponse⟩ := h
  have htake : r.take bmc .kcsPort kcsRead = r.present bmc := by
    simp [SlaveRegs.take, hstate]
  rw [htake, ← hresponse]
  exact presenting_present hrequest

/-! ### Sending -/

/-- What the BMC has after `i` iterations of the data loop. -/
def HasTaken (bmc : Firmware period) (data : List UInt8) (i : ℕ) (r : SlaveRegs) : Prop :=
  i < data.length ∧ Taking (data.take i) false r ∨
    i = data.length ∧ Presenting data (bmc.answer data) r

theorem writeEnd_ends (hfuel : period.toNat < fuel) {request : List UInt8}
    (hs : s.Settles bmc r) (hr : Taking request false r) :
    (writeEnd fuel period).Ends bmc.slave s fun status s' =>
      status = .success ∧ ∃ r', s'.Settles bmc r' ∧ Taking request true r' := by
  unfold writeEnd
  rw [ends_bind]
  refine (kcsCheckStatus_write_ends hfuel hs hr.state_eq).mono ?_
  rintro _ s₁ ⟨rfl, hs₁⟩
  dsimp only
  rw [if_neg (by simp), ends_ioWrite8_bind]
  exact ⟨rfl, _, hs₁.write _ _, hr.clear.writeEnd⟩

/-- A byte of the message: check the state, then write. -/
theorem checkedByte_ends (hfuel : period.toNat < fuel) (hs : s.Settles bmc r)
    (hstate : r.state = .write) (value : UInt8) (i : ℕ) :
    (do
      let (status, _) ← kcsCheckStatus fuel period .write
      if status.isError then
        return .done status
      else
        ioWrite8 .kcsPort value
        return .again i : PortProg (Iter ℕ EfiStatus)).Ends bmc.slave s fun o s' =>
      o = Iter.again i ∧
        s'.Settles bmc (SlaveRegs.take bmc { r with obf := false } .kcsPort value) := by
  rw [ends_bind]
  refine (kcsCheckStatus_write_ends hfuel hs hstate).mono ?_
  rintro _ s₁ ⟨rfl, hs₁⟩
  dsimp only
  rw [if_neg (by decide), ends_ioWrite8_bind]
  exact ⟨rfl, hs₁.write _ _⟩

/-- One iteration of the data loop. -/
theorem sendByte_ends (hfuel : period.toNat < fuel) (data : Message) {i : ℕ}
    (hs : s.Settles bmc r) (hr : HasTaken bmc data.bytes i r) :
    (sendByte fuel period data i).Ends bmc.slave s fun o s' =>
      match o with
      | .again i' => i < data.bytes.length ∧ i' = i + 1 ∧
          ∃ r', s'.Settles bmc r' ∧ HasTaken bmc data.bytes i' r'
      | .done status => status = .success ∧ i = data.bytes.length ∧ s'.Settles bmc r := by
  unfold sendByte
  rcases hr with ⟨hi, hr⟩ | ⟨rfl, -⟩
  · rw [dif_pos hi]
    have htake : data.bytes.take (i + 1) = data.bytes.take i ++ [data.bytes[i]] :=
      List.take_succ_eq_append_getElem hi
    by_cases hlast : i = data.bytes.length - 1
    · -- the last byte: `KCS_WRITE_END` goes first
      have hall : data.bytes.take i ++ [data.bytes[i]] = data.bytes := by
        rw [← htake, List.take_of_length_le (by omega)]
      rw [if_pos hlast, ends_bind]
      refine (writeEnd_ends hfuel hs hr).mono ?_
      rintro _ s₁ ⟨rfl, r₁, hs₁, hr₁⟩
      dsimp only
      rw [if_neg (by simp)]
      refine (checkedByte_ends hfuel hs₁ hr₁.state_eq _ _).mono ?_
      rintro _ s₂ ⟨rfl, hs₂⟩
      have hpresenting := hr₁.clear.lastByte bmc data.bytes[i]
      rw [hall] at hpresenting
      exact ⟨hi, rfl, _, hs₂, .inr ⟨by omega, hpresenting⟩⟩
    · rw [if_neg hlast, pure_bind]
      dsimp only
      rw [if_neg (by simp)]
      refine (checkedByte_ends hfuel hs hr.state_eq _ _).mono ?_
      rintro _ s₂ ⟨rfl, hs₂⟩
      have htaking := hr.clear.byte bmc data.bytes[i]
      rw [← htake] at htaking
      exact ⟨hi, rfl, _, hs₂, .inl ⟨by omega, htaking⟩⟩
  · rw [dif_neg (Nat.lt_irrefl _)]
    exact ⟨rfl, rfl, hs⟩

/-- The message goes over, and the BMC is about to present its response. -/
theorem sendDataToBmc_ends (hfuel : period.toNat < fuel) (hfuel' : 255 < fuel) {data : Message}
    (hdata : data.bytes ≠ []) (hs : s.Settles bmc r) :
    (sendDataToBmc fuel period data).Ends bmc.slave s fun status s' =>
      status = .success ∧
        ∃ r', s'.Settles bmc r' ∧ Presenting data.bytes (bmc.answer data.bytes) r' := by
  unfold sendDataToBmc
  rw [ends_bind]
  refine (waitInputEmpty_ends hfuel hs).mono ?_
  rintro _ s₁ ⟨rfl, hs₁⟩
  dsimp only
  have hstart : Taking [] false (r.take bmc .kcsCmdReg kcsWriteStart) := taking_writeStart
  rw [ends_ioWrite8_bind, ends_bind]
  refine (kcsCheckStatus_write_ends hfuel (hs₁.write _ _) hstart.state_eq).mono ?_
  rintro _ s₂ ⟨rfl, hs₂⟩
  dsimp only
  rw [if_neg (by simp)]
  have hlen : 0 < data.bytes.length := List.length_pos_iff.2 hdata
  refine ends_loop (I := fun i s => ∃ r, s.Settles bmc r ∧ HasTaken bmc data.bytes i r)
    (fun i _ => data.bytes.length - i) ?_ fuel 0 s₂
    ⟨_, hs₂.toSettles, .inl ⟨hlen, by simpa using hstart.clear⟩⟩ ?_
  · rintro i s ⟨r, hs, hr⟩
    refine (sendByte_ends hfuel data hs hr).mono fun o s' ho => ?_
    cases o with
    | again i' =>
      obtain ⟨hi, rfl, hs'⟩ := ho
      exact ⟨hs', by omega⟩
    | done status =>
      obtain ⟨rfl, hi, hs'⟩ := ho
      rcases hr with ⟨hlt, -⟩ | ⟨-, hr⟩
      · exact absurd hi (Nat.ne_of_lt hlt)
      · exact ⟨rfl, r, hs', hr⟩
  · have hle := data.size_le
    omega

theorem sendDataToBmcPort_ends (hfuel : period.toNat < fuel) (hfuel' : 255 < fuel)
    {data : Message} (hdata : data.bytes ≠ []) (hs : s.Settles bmc r) :
    (sendDataToBmcPort fuel period data).Ends bmc.slave s fun status s' =>
      status = .success ∧
        ∃ r', s'.Settles bmc r' ∧ Presenting data.bytes (bmc.answer data.bytes) r' := by
  refine ends_loop_once (by omega) ?_
  rw [if_pos (by decide), ends_bind]
  refine (sendDataToBmc_ends hfuel hfuel' hdata hs).mono ?_
  rintro _ s' ⟨rfl, hs'⟩
  exact ⟨_, rfl, rfl, hs'⟩

/-! ### Receiving -/

/-- The response is partly in the buffer, and the BMC presents the rest. -/
def HasPresented (bmc : Firmware period) (request response : List UInt8)
    (x : ℕ × Memory UInt8) (s : Slave) : Prop :=
  ∃ r rest, s.Settles bmc r ∧ Presenting request rest r ∧ response = x.2.slice 0 x.1 ++ rest

/-- What the host has at the end, and the BMC is in IDLE. -/
def HasDelivered (bmc : Firmware period) (request response : List UInt8) (received : Received)
    (s : Slave) : Prop :=
  received.status = .success ∧ received.dataSize.toNat = response.length ∧
    received.data.slice 0 response.length = response ∧
      ∃ r, s.Settled bmc r ∧ r.state = .idle ∧ r.request = request

/-- One iteration of the receive loop. -/
theorem receiveByte_ends (hfuel : period.toNat < fuel) {dataSize : UInt8}
    {request response : List UInt8} (hlen : response.length ≤ dataSize.toNat)
    {x : ℕ × Memory UInt8} (hx : HasPresented bmc request response x s) :
    (receiveByte fuel period dataSize x).Ends bmc.slave s fun o s' =>
      match o with
      | .again x' => HasPresented bmc request response x' s' ∧
          response.length - x'.1 < response.length - x.1
      | .done received => HasDelivered bmc request response received s' := by
  obtain ⟨count, data⟩ := x
  obtain ⟨r, rest, hs, hr, hresponse⟩ := hx
  have hcount : response.length = count + rest.length := by simp [hresponse]
  unfold receiveByte
  dsimp only
  rw [ends_bind]
  cases rest with
  | nil =>
    have hidle : r.state = .idle := hr.presented
    refine (kcsCheckStatus_read_ends hfuel hs hr.obf_eq (.inr hidle)).mono ?_
    rintro _ s₁ ⟨rfl, hs₁⟩
    rw [if_pos hidle] at hs₁
    dsimp only
    rw [if_neg (by simp), if_pos (by simpa using hidle)]
    have hcount' : response.length = count := by simpa using hcount
    have hsize : (UInt8.ofNat count).toNat = count := by
      have hlt : dataSize.toNat < 256 := dataSize.toNat_lt
      exact UInt8.toNat_ofNat_of_lt' (show count < 256 by omega)
    refine ⟨rfl, by rw [hcount', hsize], ?_, _, hs₁, hidle, hr.request_eq⟩
    rw [hcount']
    simpa using hresponse.symm
  | cons byte rest =>
    obtain ⟨hread, hbyte, -⟩ := hr.presented
    have hne : r.state ≠ .idle := by rw [hread]; decide
    refine (kcsCheckStatus_read_ends hfuel hs hr.obf_eq (.inl hread)).mono ?_
    rintro _ s₁ ⟨rfl, hs₁⟩
    rw [if_neg hne] at hs₁
    rw [List.length_cons] at hcount
    dsimp only
    rw [if_neg (by simp), if_neg (by simpa using hne), if_neg (by omega), ends_ioRead8_bind,
      ends_ioWrite8_bind]
    obtain ⟨hvalue, hs₂⟩ := hs₁.readData
    have hnext : Presenting request rest
        (SlaveRegs.take bmc { r with obf := false } .kcsPort kcsRead) := by
      have hpresent : Presenting request rest (r.take bmc .kcsPort kcsRead) := hr.next
      simpa [SlaveRegs.take, hread, SlaveRegs.present] using hpresent
    refine ⟨⟨_, rest, hs₂.write _ _, hnext, ?_⟩, by dsimp only; omega⟩
    dsimp only
    rw [Memory.slice_store_concat, hvalue, hbyte, List.append_assoc]
    exact hresponse

theorem receiveBmcData_ends (hfuel : period.toNat < fuel) (hfuel' : 255 < fuel)
    {dataSize : UInt8} {request response : List UInt8} (data : Memory UInt8)
    (hlen : response.length ≤ dataSize.toNat) (hs : s.Settles bmc r)
    (hr : Presenting request response r) :
    (receiveBmcData fuel period data dataSize).Ends bmc.slave s
      (HasDelivered bmc request response) := by
  refine ends_loop (I := HasPresented bmc request response)
    (fun x _ => response.length - x.1) ?_ fuel (0, data) s ⟨r, response, hs, hr, by simp⟩ ?_
  · intro x s hx
    refine (receiveByte_ends hfuel hlen hx).mono fun o s' ho => ?_
    cases o <;> exact ho
  · have hlt : dataSize.toNat < 256 := dataSize.toNat_lt
    dsimp only
    omega

theorem receiveBmcDataFromPort_ends (hfuel : period.toNat < fuel) (hfuel' : 255 < fuel)
    {dataSize : UInt8} {request response : List UInt8} (data : Memory UInt8)
    (hlen : response.length ≤ dataSize.toNat) (hs : s.Settles bmc r)
    (hr : Presenting request response r) :
    (receiveBmcDataFromPort fuel period data dataSize).Ends bmc.slave s
      (HasDelivered bmc request response) := by
  refine ends_loop_once (by omega) ?_
  dsimp only
  rw [if_pos (by decide), ends_bind]
  refine (receiveBmcData_ends hfuel hfuel' data hlen hs hr).mono fun received s' hreceived => ?_
  have hsucc : received.status = .success := hreceived.1
  rw [if_neg (by simp [hsucc])]
  exact ⟨_, rfl, hreceived⟩

/-! ### The exchange -/

/-- The BMC waits for a request: it is in IDLE with the input buffer empty. -/
structure Slave.AtRest (bmc : Firmware period) (s : Slave) : Prop where
  /-- The state is IDLE. -/
  state_eq : s.regs.state = .idle
  /-- The input buffer is empty. -/
  ibf_eq : s.ibf = false
  /-- OBF, if set, shows in time. -/
  obfDelay_lt : s.obfDelay < period.toNat

theorem Slave.AtRest.settled (hs : s.AtRest bmc) : s.Settled bmc s.regs :=
  .of_regs rfl (by simpa [Slave.ibf] using hs.ibf_eq) hs.obfDelay_lt

theorem Slave.Settled.atRest (hs : s.Settled bmc r) (hr : r.state = .idle) : s.AtRest bmc :=
  ⟨by rw [hs.regs_eq, hr], by rw [Slave.ibf, hs.pending_eq]; rfl, hs.obfDelay_lt⟩

/-- **Delivery.**  With a conformant BMC at rest, whatever its delays are, sending a request and
then receiving both succeed; the BMC has taken exactly the request, the host has exactly the
response, and the BMC is at rest again. -/
theorem exchange_delivers (bmc : Firmware period) {s : Slave} (hs : s.AtRest bmc)
    (data : Message) (hdata : data.bytes ≠ []) (buffer : Memory UInt8) (dataSize : UInt8)
    (hlen : (bmc.answer data.bytes).length ≤ dataSize.toNat)
    (hfuel : period.toNat < fuel) (hfuel' : 255 < fuel) :
    ∃ tr₁ s₁ received tr₂ s₂,
      (sendDataToBmcPort fuel period data).exec bmc.slave s = some (.success, tr₁, s₁) ∧
      (receiveBmcDataFromPort fuel period buffer dataSize).exec bmc.slave s₁ =
        some (received, tr₂, s₂) ∧
      received.status = .success ∧
      received.dataSize.toNat = (bmc.answer data.bytes).length ∧
      received.data.slice 0 (bmc.answer data.bytes).length = bmc.answer data.bytes ∧
      s₂.regs.request = data.bytes ∧ s₂.AtRest bmc := by
  have hsend := sendDataToBmcPort_ends hfuel hfuel' hdata hs.settled.toSettles
  obtain ⟨_, tr₁, s₁, hexec₁, rfl, r₁, hs₁, hr₁⟩ := ends_iff_exec.1 hsend
  have hreceive := receiveBmcDataFromPort_ends hfuel hfuel' buffer hlen hs₁ hr₁
  obtain ⟨received, tr₂, s₂, hexec₂, hsucc, hsize, hslice, r₂, hs₂, hidle, hrequest⟩ :=
    ends_iff_exec.1 hreceive
  refine ⟨tr₁, s₁, received, tr₂, s₂, hexec₁, hexec₂, hsucc, hsize, hslice, ?_, hs₂.atRest hidle⟩
  rw [hs₂.regs_eq, hrequest]

/-- A BMC that answers a request with its bytes in reverse, and takes its time. -/
def slowEcho : Firmware 5 where
  answer := List.reverse
  dummy := 0
  ibfDelay n := ⟨n % 5, Nat.mod_lt _ (by decide)⟩
  obfDelay n := ⟨(n + 2) % 5, Nat.mod_lt _ (by decide)⟩
  early n := n % 2 == 0
  noise n := ⟨n % 16, Nat.mod_lt _ (by decide)⟩

/-- `slowEcho` after its reset, with a byte left over in the output register. -/
def slowEchoStart : Slave where
  regs := ⟨.idle, false, [], [], 0x55, true⟩
  pending := none
  obfDelay := 3
  writes := 0
  polls := 0

theorem exchange_delivers_slowEcho : ∃ tr₁ s₁ received tr₂ s₂,
    (sendDataToBmcPort 256 5 ⟨[0x18, 0x01], by decide⟩).exec slowEcho.slave slowEchoStart =
        some (.success, tr₁, s₁) ∧
      (receiveBmcDataFromPort 256 5 (fun _ => 0) 2).exec slowEcho.slave s₁ =
        some (received, tr₂, s₂) ∧
      received.status = .success ∧ received.dataSize.toNat = 2 ∧
      received.data.slice 0 2 = [0x01, 0x18] ∧
      s₂.regs.request = [0x18, 0x01] ∧ s₂.AtRest slowEcho :=
  exchange_delivers slowEcho ⟨rfl, rfl, by decide⟩ ⟨[0x18, 0x01], by decide⟩ (by decide)
    (fun _ => 0) 2 (by decide) (by decide) (by decide)

end Kcs

end IpmiFeature
