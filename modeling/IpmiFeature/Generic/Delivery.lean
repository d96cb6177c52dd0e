import IpmiFeature.Generic.Retry

/-!
# Delivering the response

After the retry loop the payload is copied to the response buffer, moved up by one byte, and the
completion code is put in front of it.  `Delivered` says what the caller finds.  A buffer of the
caller holds the response; `TempData` does not in general, because the completion code is read from
it after the payload has been moved over it (`ipmiSendCommandInternal_tempData_iff`).
-/

namespace IpmiFeature

open Interaction Prog

namespace Generic

variable {ptr : ResponsePtr} {inst : IpmiBmcInstanceData} {size : UInt8}
  {st : CommandState UInt8} {m : Memory UInt8}

/-! ### Writing to the response buffer -/

/-- The response buffer shows `m`, and what is not the response buffer is unchanged. -/
structure Shows (ptr : ResponsePtr) (inst : IpmiBmcInstanceData) (size : UInt8)
    (st : CommandState UInt8) (m : Memory UInt8) : Prop where
  /-- The bytes behind the pointer; behind `TempData` only those of the array and of `BmcStatus`
  are known. -/
  bytes : ∀ i, (ptr = .tempData → i < maxTempData + 4) → st.response ptr i = m i
  /-- The instance. -/
  inst_eq : ptr = .caller → st.inst = inst
  /-- `*ResponseDataSize`. -/
  size_eq : st.responseDataSize = size

theorem Shows.storeResponse (h : Shows ptr inst size st m) (hptr : ptr ≠ .null) (off : ℕ)
    (values : List UInt8) :
    Shows ptr inst size (st.storeResponse ptr off values) (m.store off values) := by
  cases ptr with
  | null => exact absurd rfl hptr
  | caller =>
    exact ⟨fun i hi => Memory.store_congr (h.bytes i hi), fun _ => h.inst_eq rfl, h.size_eq⟩
  | tempData =>
    refine ⟨fun i hi => ?_, nofun, h.size_eq⟩
    change (st.inst.storeTemp off values).temp i = _
    rw [temp_storeTemp (hi rfl)]
    exact Memory.store_congr (h.bytes i hi)

theorem Shows.shiftResponse (h : Shows ptr inst size st m) (hptr : ptr ≠ .null) {n : ℕ}
    (hsize : size.toNat = n + 1) :
    Shows ptr inst size (shiftResponse ptr st) (m.store 1 (m.slice 0 n)) := by
  have hmove := Memory.foldl_store_shift m (show n < n + 1 from Nat.lt_succ_self n)
  rw [Nat.add_sub_cancel_left, Nat.sub_self] at hmove
  rw [← hmove]
  unfold Generic.shiftResponse
  rw [h.size_eq, hsize]
  refine List.foldl_rel h fun index _ st m h => ?_
  -- the byte that is moved lies inside the array
  have hread : st.response ptr (n + 1 - (index + 1)) = m (n + 1 - (index + 1)) := by
    refine h.bytes _ fun _ => ?_
    have hlt : size.toNat < 256 := size.toNat_lt
    have hmax : maxTempData = 255 := rfl
    omega
  rw [hread]
  exact h.storeResponse hptr _ _

/-- The completion code that is put in front of the payload. -/
def deliveredCode (ptr : ResponsePtr) (inst : IpmiBmcInstanceData) (payload : List UInt8) : UInt8 :=
  match ptr with
  | .tempData => payload.getD 1 (inst.temp 2)
  | .caller | .null => inst.temp 2

theorem store_payload (m : Memory UInt8) (payload : List UInt8) (code : UInt8) :
    ((m.store 0 payload).store 1 payload).store 0 [code] = m.store 0 (code :: payload) := by
  rw [Memory.store_cons, Memory.store_store_of_le]
  simp

theorem store_payload_two (m : Memory UInt8) (payload : List UInt8) :
    (m.store 0 payload).store 1 payload 2 = payload.getD 1 (m 2) := by
  rcases payload with _ | ⟨p₀, _ | ⟨p₁, ps⟩⟩
  · simp
  · rfl
  · have hread : (m.store 0 (p₀ :: p₁ :: ps)).store 1 (p₀ :: p₁ :: ps) (1 + 1) =
        (p₀ :: p₁ :: ps)[1] := Memory.store_of_mem (by simp)
    exact hread

@[simp] theorem response_setSize (st : CommandState UInt8) (ptr : ResponsePtr) (size : UInt8) :
    { st with responseDataSize := size }.response ptr = st.response ptr := by
  cases ptr <;> rfl

theorem Shows.setSize (h : Shows ptr inst size st m) (size' : UInt8) :
    Shows ptr inst size' { st with responseDataSize := size' } m where
  bytes i hi := by
    rw [response_setSize]
    exact h.bytes i hi
  inst_eq := h.inst_eq
  size_eq := rfl

/-- What the response buffer shows in the end. -/
theorem deliverResponse_shows (hptr : ptr ≠ .null) (uninit : Uninitialized) {dataSize : UInt8}
    {payload : List UInt8} (hsize : dataSize - ipmiResponseHeaderSize = UInt8.ofNat payload.length)
    (hlen : payload.length ≤ 251) (hpayload : st.inst.temp.slice 3 payload.length = payload) :
    Shows ptr st.inst (UInt8.ofNat (payload.length + 1))
      (deliverResponse ptr uninit true dataSize st)
      ((st.response ptr).store 0 (deliveredCode ptr st.inst payload :: payload)) := by
  have hpayloadSize : (UInt8.ofNat payload.length).toNat = payload.length :=
    UInt8.toNat_ofNat_of_lt' (show payload.length < 256 by omega)
  have htotalSize : (UInt8.ofNat (payload.length + 1)).toNat = payload.length + 1 :=
    UInt8.toNat_ofNat_of_lt' (show payload.length + 1 < 256 by omega)
  have hstart : Shows ptr st.inst st.responseDataSize st (st.response ptr) :=
    ⟨fun _ _ => rfl, fun _ => rfl, rfl⟩
  have hcopy := (hstart.setSize (UInt8.ofNat payload.length)).storeResponse hptr 0 payload
  have hshift := (hcopy.setSize (UInt8.ofNat (payload.length + 1))).shiftResponse hptr htotalSize
  rw [Memory.slice_store_self] at hshift
  have hcode : ∀ st' : CommandState UInt8, Shows ptr st.inst (UInt8.ofNat (payload.length + 1)) st'
      (((st.response ptr).store 0 payload).store 1 payload) →
        st'.inst.temp 2 = deliveredCode ptr st.inst payload := by
    intro st' hst'
    cases ptr with
    | null => exact absurd rfl hptr
    | caller => rw [hst'.inst_eq rfl]; rfl
    | tempData =>
      have hread : st'.inst.temp 2 = _ := hst'.bytes 2 fun _ => by decide
      rw [hread, store_payload_two]
      rfl
  have hfinal := hshift.storeResponse hptr 0 [deliveredCode ptr st.inst payload]
  rw [store_payload] at hfinal
  have hslice : st.inst.temp.slice ipmiResponseHeaderSize.toNat
      (UInt8.ofNat payload.length).toNat = payload := by
    rw [hpayloadSize]
    exact hpayload
  have hsum : UInt8.ofNat payload.length + 1 = UInt8.ofNat (payload.length + 1) :=
    (UInt8.ofNat_add _ _).symm
  unfold deliverResponse
  simp only [ipmiResponse, if_true]
  rw [hsize, hslice, hsum, hcode _ hshift]
  exact hfinal

/-! ### The outcome of a call -/

variable {args : CommandArgs UInt8} {r : Response} {script : ℕ → Attempt} {maxRetries : UInt8}
  {uninit : Uninitialized}

/-- What the caller finds after a call that has delivered `r`. -/
structure Delivered (args : CommandArgs UInt8) (r : Response) (st st' : CommandState UInt8) :
    Prop where
  /-- The size counts the completion code. -/
  size_eq : st'.responseDataSize = UInt8.ofNat (r.payload.length + 1)
  /-- In a buffer of the caller: the completion code and the payload. -/
  caller : args.responseData = .caller →
    st'.responseData = st.responseData.store 0 (compCodeNormal :: r.payload)
  /-- In `TempData`: the second byte of the payload, if there is one, and the payload. -/
  tempData : args.responseData = .tempData → st'.inst.temp.slice 0 (r.payload.length + 1) =
    r.payload.getD 1 compCodeNormal :: r.payload

theorem slice_temp_setStatus {n : ℕ} (hn : n ≤ maxTempData) (inst : IpmiBmcInstanceData)
    (bmcStatus : UInt32) :
    { inst with bmcStatus := bmcStatus }.temp.slice 0 n = inst.temp.slice 0 n := by
  refine Memory.slice_congr fun i hi => ?_
  have hlt : 0 + i < maxTempData := by omega
  rw [IpmiBmcInstanceData.temp, IpmiBmcInstanceData.temp, dif_pos hlt, dif_pos hlt]

/-- What the response buffer shows in the end is what has to be delivered. -/
theorem Shows.delivered {st' : CommandState UInt8} (hlen : r.payload.length ≤ 251)
    (hcode : inst.temp 2 = compCodeNormal)
    (h : Shows args.responseData inst (UInt8.ofNat (r.payload.length + 1)) st'
      (({ st with inst := inst }.response args.responseData).store 0
        (deliveredCode args.responseData inst r.payload :: r.payload))) :
    Delivered args r st { st' with inst := { st'.inst with bmcStatus := bmcOk } } := by
  refine ⟨h.size_eq, fun hcaller => ?_, fun htemp => ?_⟩
  · rw [hcaller, deliveredCode, hcode] at h
    exact funext fun i => h.bytes i nofun
  · rw [htemp, deliveredCode, hcode] at h
    rw [slice_temp_setStatus (show r.payload.length + 1 ≤ 255 by omega)]
    refine Eq.trans (Memory.slice_congr fun i hi => h.bytes _ fun _ => ?_)
      (Memory.slice_store_self 0 (_ :: r.payload))
    change 0 + i < 255 + 4
    omega

/-- What follows a loop that is ended by a response that fits. -/
theorem finishCommand_delivers (uninit : Uninitialized) (inst : IpmiBmcInstanceData)
    (st : CommandState UInt8) (hptr : args.responseData ≠ .null) (hargs : ¬ Rejected args)
    (hlen : r.payload.length ≤ 251) :
    Delivered args r st (finishCommand uninit args
      (.ok (some (UInt8.ofNat r.bytes.length)), { st with inst := afterResponse args r inst })).2 := by
  have hbuffer : args.responseData ≠ .null ∧ args.hasResponseDataSize :=
    ⟨hptr, hasResponseDataSize_of_not_rejected hargs hptr⟩
  have hcode : (afterResponse args r inst).temp 2 = compCodeNormal :=
    temp_afterResponse hlen (by simp [Response.bytes])
  generalize hst : { st with inst := afterResponse args r inst } = st₁
  have hinst : st₁.inst = afterResponse args r inst := by rw [← hst]
  have hshows := deliverResponse_shows hptr uninit r.size_payload hlen
    (hinst ▸ slice_temp_afterResponse hlen)
  rw [hinst, ← hst] at hshows
  unfold finishCommand
  dsimp only
  rw [if_pos hbuffer, ← hst]
  exact hshows.delivered hlen hcode

/-- A call whose retry loop is ended by a response that fits. -/
theorem ipmiSendCommandInternal_delivers {k : ℕ} (hargs : ¬ Rejected args)
    (h : AnsweredAt args st.responseDataSize maxRetries.toNat script k r)
    (hfits : ¬ r.TooLong args st.responseDataSize) :
    (ipmiSendCommandInternal maxRetries uninit args st).Ends (scripted script) 0 fun x n' =>
      n' = k + 1 ∧ x.1 = .success ∧ (args.responseData ≠ .null → Delivered args r st x.2) := by
  refine (ipmiSendCommandInternal_of_answer hargs h).mono ?_
  rintro x n' ⟨rfl, inst, rfl⟩
  rw [settle, if_neg hfits]
  exact ⟨rfl, rfl, fun hptr =>
    finishCommand_delivers uninit inst st hptr hargs (Attempt.length_payload_le h.response)⟩

/-- A call whose retry loop is ended by a response that does not fit. -/
theorem ipmiSendCommandInternal_tooSmall {k : ℕ} (hargs : ¬ Rejected args)
    (h : AnsweredAt args st.responseDataSize maxRetries.toNat script k r)
    (hlong : r.TooLong args st.responseDataSize) :
    (ipmiSendCommandInternal maxRetries uninit args st).Ends (scripted script) 0 fun x n' =>
      n' = k + 1 ∧ ∃ inst, x = (.bufferTooSmall,
        { st with inst := inst, responseDataSize := UInt8.ofNat (r.payload.length + 1) }) := by
  refine (ipmiSendCommandInternal_of_answer hargs h).mono ?_
  rintro x n' ⟨rfl, inst, rfl⟩
  rw [settle, if_pos hlong]
  exact ⟨rfl, afterResponse args r inst, rfl⟩

theorem Delivered.slice_payload {st' : CommandState UInt8} (h : Delivered args r st st')
    (hptr : args.responseData ≠ .null) :
    (st'.response args.responseData).slice 1 r.payload.length = r.payload := by
  have hall : ∃ code, (st'.response args.responseData).slice 0 (r.payload.length + 1) =
      code :: r.payload := by
    cases hresponse : args.responseData with
    | null => exact absurd hresponse hptr
    | caller =>
      refine ⟨compCodeNormal, ?_⟩
      change st'.responseData.slice 0 (r.payload.length + 1) = _
      rw [h.caller hresponse]
      exact Memory.slice_store_self 0 (compCodeNormal :: r.payload)
    | tempData => exact ⟨_, h.tempData hresponse⟩
  obtain ⟨code, hslice⟩ := hall
  rw [Memory.slice_succ] at hslice
  exact (List.cons.inj hslice).2

/-- **When `TempData` holds the response.**  After a successful call with `TempData` as its response
buffer the completion code and the payload are in it if and only if the reply was not delivered at
all, or the second byte of the payload, if there is one, is equal to the completion code. -/
theorem ipmiSendCommandInternal_tempData_iff {k : ℕ} (hargs : ¬ Rejected args)
    (hptr : args.responseData = .tempData)
    (h : AnsweredAt args st.responseDataSize maxRetries.toNat script k r) :
    (ipmiSendCommandInternal maxRetries uninit args st).Ends (scripted script) 0 fun x _ =>
      (x.1 = .success →
          x.2.inst.temp.slice 0 (r.payload.length + 1) = compCodeNormal :: r.payload) ↔
        st.responseDataSize.toNat < r.payload.length ∨
          r.payload.getD 1 compCodeNormal = compCodeNormal := by
  have hptr' : args.responseData ≠ .null := by rw [hptr]; nofun
  have hsize := hasResponseDataSize_of_not_rejected hargs hptr'
  by_cases hlong : st.responseDataSize.toNat < r.payload.length
  · refine (ipmiSendCommandInternal_tooSmall hargs h ⟨hsize, hlong⟩).mono ?_
    rintro _ _ ⟨-, inst, rfl⟩
    exact iff_of_true nofun (.inl hlong)
  · refine (ipmiSendCommandInternal_delivers hargs h fun htooLong => hlong htooLong.2).mono ?_
    rintro ⟨status, st'⟩ n' ⟨-, rfl, hdelivered⟩
    have htemp := (hdelivered hptr').tempData hptr
    constructor
    · intro hslice
      have hslice := hslice rfl
      rw [htemp] at hslice
      exact .inr (List.cons.inj hslice).1
    · rintro (hlong' | hcode) -
      · exact absurd hlong' hlong
      · rw [htemp, hcode]

/-- `GetDeviceId`, as far as it matters here. -/
def getDeviceIdArgs : CommandArgs UInt8 where
  netFunction := 0x06
  lun := 0
  command := 0x01
  commandData := none
  commandDataSize := 0
  responseData := .tempData
  hasResponseDataSize := true

/-- The device id `20` with the revision `revision`. -/
def deviceId (revision : UInt8) : Response := ⟨0x1C, 0x01, [0x20, revision, 0x02]⟩

/-- The state before a command with the capacity `capacity`. -/
def idleCommand (capacity : UInt8) : CommandState UInt8 := ⟨idleInstance, fun _ => 0, capacity⟩

/-- The revision `81` is found in place of the completion code. -/
theorem ipmiSendCommandInternal_tempData_clobbered :
    ¬ (ipmiSendCommandInternal 1 ⟨0, fun _ => 0⟩ getDeviceIdArgs (idleCommand 255)).Ends
      (scripted fun _ => .ofReply (deviceId 0x81).bytes) 0 fun x _ => x.1 = .success →
        x.2.inst.temp.slice 0 4 = compCodeNormal :: (deviceId 0x81).payload := by
  intro h
  have hrun : ((ipmiSendCommandInternal 1 ⟨0, fun _ => 0⟩ getDeviceIdArgs (idleCommand 255)).exec
      (scripted fun _ => .ofReply (deviceId 0x81).bytes) 0).map
        (fun x => (x.1.1, x.1.2.inst.temp.slice 0 4)) =
          some (.success, [0x81, 0x20, 0x81, 0x02]) := by decide
  obtain ⟨⟨⟨status, st'⟩, tr, n'⟩, hexec, heq⟩ := Option.map_eq_some_iff.1 hrun
  simp only [Prod.mk.injEq] at heq
  have hslice := h.of_exec hexec heq.1
  rw [heq.2] at hslice
  revert hslice
  decide

theorem ipmiSendCommandInternal_tempData_iff_zeroRevision :
    (ipmiSendCommandInternal 1 ⟨0, fun _ => 0⟩ getDeviceIdArgs (idleCommand 255)).Ends
      (scripted fun _ => .ofReply (deviceId 0).bytes) 0 fun x _ => (x.1 = .success →
          x.2.inst.temp.slice 0 ((deviceId 0).payload.length + 1) =
            compCodeNormal :: (deviceId 0).payload) ↔
        (idleCommand 255).responseDataSize.toNat < (deviceId 0).payload.length ∨
          (deviceId 0).payload.getD 1 compCodeNormal = compCodeNormal :=
  ipmiSendCommandInternal_tempData_iff (by decide) rfl
    (.of_matches (by decide) (fun i hi => absurd hi (Nat.not_lt_zero i)) (by decide) (by decide))

end Generic

end IpmiFeature
