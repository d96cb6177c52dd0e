import IpmiFeature.Sel.Log

/-!
# Histories of the event log

Any calls of `IpmiSelLib`, one after the other, over `IpmiBaseLibMock`.

* `logged` : the entries that have been accepted since the log was cleared last, with the record IDs
  that have been returned for them.
* `ReadsBack` : what a caller who looks at the log finds.
* `selLog_readsBack` : after any calls, the caller finds what has been logged.
-/

namespace IpmiFeature

open Interaction Prog BaseLib CommandLib Mock

namespace Sel

/-! ### The other functions over the mock BMC -/

section

variable (stack : Memory UInt8) {s : Option Bmc} {log : List (UInt16 × Entry)}

/-- Behind the last record there is none. -/
theorem ends_selGetEntry_of_absent (h : Holds s log) {recordId : UInt16}
    (habsent : log.length ≤ recordId.toNat) (record : Memory UInt8) :
    (selGetEntry stack recordId record).Ends mockBaseLib s fun x s' =>
      Holds s' log ∧ x = .error .notFound := by
  obtain ⟨bmc, rfl, hidle, hlogs⟩ := h
  have hnot : ¬ recordId.toNat < bmc.state.sel.nextRecordId.toNat := by
    rw [hlogs.nextRecordId_eq]
    exact Nat.not_lt.2 habsent
  have hhandled : Handled bmc ⟨netfnStorage, storageGetSelEntry, getEntryRequest recordId, 19⟩
      (compCodeNotPresent :: List.replicate 18 0) bmc.state := by
    refine ⟨hidle, (by decide : netfnStorage.toNat < 64), ⟨mockIpmiSelGetEntry, rfl, ?_⟩,
      (by decide : 6 ≤ 253), List.cons_ne_nil _ _, (by decide : 19 ≤ 250), Nat.le_refl 19⟩
    rw [mockIpmiSelGetEntry_eq, dif_neg hnot]
  rw [selGetEntry, ends_bind]
  refine ends_submitBuffered _ hhandled fun bmc' hidle' hstate => ?_
  exact ⟨⟨bmc', rfl, hidle', hstate ▸ hlogs⟩, rfl⟩

/-- An empty log has no record. -/
theorem ends_selGetEntry_nil (h : Holds s []) (recordId : UInt16) (record : Memory UInt8) :
    (selGetEntry stack recordId record).Ends mockBaseLib s fun x s' =>
      Holds s' [] ∧ x = .error .notFound :=
  ends_selGetEntry_of_absent stack h (Nat.zero_le _) record

/-- A record that is read shows an entry of the log, whatever ID has been asked for. -/
theorem ends_selGetEntry_shows (h : Holds s log) (recordId : UInt16) (record : Memory UInt8) :
    (selGetEntry stack recordId record).Ends mockBaseLib s fun x s' => Holds s' log ∧
      ∀ record' next, x = .ok (record', next) →
        ∃ b ∈ log, b.1 = recordId ∧ Shows b record' := by
  by_cases hpresent : recordId.toNat < log.length
  · obtain ⟨bmc, -, -, hlogs⟩ := id h
    have hsplit : log = log.take recordId.toNat ++
        log[recordId.toNat] :: log.drop (recordId.toNat + 1) := by
      rw [← List.drop_eq_getElem_cons hpresent, List.take_append_drop]
    have hid : log[recordId.toNat].1 = recordId := by
      apply UInt16.toNat_inj.1
      rw [hlogs.recordId_of_split hsplit, List.length_take_of_le (Nat.le_of_lt hpresent)]
    have hget := ends_selGetEntry stack h ⟨log.take recordId.toNat, hsplit.symm⟩ record
    rw [hid] at hget
    refine hget.mono ?_
    rintro x s' ⟨hholds, shown, rfl, hshows⟩
    refine ⟨hholds, fun record' next heq => ?_⟩
    cases heq
    exact ⟨_, List.getElem_mem hpresent, hid, hshows⟩
  · refine (ends_selGetEntry_of_absent stack h (Nat.not_lt.1 hpresent) record).mono ?_
    rintro x s' ⟨hholds, rfl⟩
    refine ⟨hholds, fun record' next heq => ?_⟩
    cases heq

/-- The number of entries, and the room for others. -/
theorem ends_selGetInfo (h : Holds s log) : (selGetInfo stack).Ends mockBaseLib s fun x s' =>
    Holds s' log ∧ ∃ info, x = .ok info ∧ info.numberOfEntries.toNat = log.length ∧
      info.freeSpace.toNat = selEntrySize * (selCount - log.length) := by
  obtain ⟨bmc, rfl, hidle, hlogs⟩ := h
  obtain ⟨response, hresponse⟩ : ∃ response,
      mockIpmiSelGetInfo [] unanswered bmc.state = some (response, bmc.state) := ⟨_, rfl⟩
  have hhandled : Handled bmc ⟨netfnStorage, storageGetSelInfo, [], 15⟩ response bmc.state := by
    cases hresponse
    exact ⟨hidle, by decide, ⟨mockIpmiSelGetInfo, rfl, rfl⟩, by decide, List.cons_ne_nil _ _,
      (by decide : 15 ≤ 250), Nat.le_refl 15⟩
  cases hresponse
  rw [selGetInfo, ends_bind]
  refine ends_submitBuffered _ hhandled fun bmc' hidle' hstate => ?_
  refine ⟨⟨bmc', rfl, hidle', hstate ▸ hlogs⟩, _, rfl, ?_, ?_⟩
  · rw [← hlogs.nextRecordId_eq]
    exact congrArg UInt16.toNat ((shortOf_congr rfl rfl).trans (shortOf_byteOfShort _))
  · have hfree : (UInt16.ofNat (16 * selCount - 16 * bmc.state.sel.nextRecordId.toNat)).toNat =
        selEntrySize * (selCount - log.length) := by
      have hcount : selCount = 100 := rfl
      have hsize : selEntrySize = 16 := rfl
      rw [UInt16.toNat_ofNat', hlogs.nextRecordId_eq, hcount, hsize]
      omega
    rw [← hfree]
    exact congrArg UInt16.toNat ((shortOf_congr rfl rfl).trans (shortOf_byteOfShort _))

/-- Asking for the time, or setting it, does nothing to the entries. -/
theorem ends_selGetTime (h : Holds s log) : (selGetTime stack).Ends mockBaseLib s fun _ s' =>
    Holds s' log := by
  obtain ⟨bmc, rfl, hidle, hlogs⟩ := h
  have hhandled : Handled bmc ⟨netfnStorage, storageGetSelTime, [], 5⟩
      (compCodeNormal :: (byteOf bmc.state.sel.tick.time).slice 0 4)
      { bmc.state with sel := bmc.state.sel.tick } :=
    ⟨hidle, by decide, ⟨mockIpmiSelGetTime, rfl, rfl⟩, by decide, List.cons_ne_nil _ _,
      (by decide : 5 ≤ 250), Nat.le_refl 5⟩
  rw [selGetTime, ends_bind]
  refine ends_submitBuffered _ hhandled fun bmc' hidle' hstate => ?_
  refine ⟨bmc', rfl, hidle', ?_⟩
  rw [hstate]
  exact ⟨hlogs.nextRecordId_eq, hlogs.recordIds_eq, hlogs.shows⟩

theorem ends_selSetTime (h : Holds s log) (time : UInt32) :
    (selSetTime stack time).Ends mockBaseLib s fun _ s' => Holds s' log := by
  obtain ⟨bmc, rfl, hidle, hlogs⟩ := h
  have hhandled : Handled bmc ⟨netfnStorage, storageSetSelTime, (byteOf time).slice 0 4, 1⟩
      [compCodeNormal] { bmc.state with sel := { bmc.state.sel with
        time := wordOf (requestOf ((byteOf time).slice 0 4)) 0 } } :=
    ⟨hidle, (by decide : netfnStorage.toNat < 64), ⟨mockIpmiSelSetTime, rfl, rfl⟩,
      (by decide : 4 ≤ 253), List.cons_ne_nil _ _, (by decide : 1 ≤ 250), Nat.le_refl 1⟩
  rw [selSetTime, ends_bind]
  refine ends_submitBuffered _ hhandled fun bmc' hidle' hstate => ?_
  refine ⟨bmc', rfl, hidle', ?_⟩
  rw [hstate]
  exact ⟨hlogs.nextRecordId_eq, hlogs.recordIds_eq, hlogs.shows⟩

/-- A command of the clearing that the BMC answers with its progress. -/
theorem ends_clearSelOnce_of_answer {bmc : Bmc} (hidle : bmc.Idle) (awaitClear : Bool)
    {erase progress : UInt8}
    (hanswer : mockIpmiSelClear [0, 0, 0x43, 0x4C, 0x52, erase] unanswered bmc.state =
      some ([compCodeNormal, progress], { bmc.state with sel := bmc.state.sel.clear })) :
    (clearSelOnce stack awaitClear erase).Ends mockBaseLib (some bmc) fun i s' =>
      Holds s' [] ∧ i = if ¬ awaitClear ∨ progress = clearSelErasureCompleted then
        .done .success else .again clearSelGetEraseStatus := by
  have hhandled : Handled bmc ⟨netfnStorage, storageClearSel, [0, 0, 0x43, 0x4C, 0x52, erase], 2⟩
      [compCodeNormal, progress] { bmc.state with sel := bmc.state.sel.clear } :=
    ⟨hidle, (by decide : netfnStorage.toNat < 64), ⟨mockIpmiSelClear, rfl, hanswer⟩,
      (by decide : 6 ≤ 253), List.cons_ne_nil _ _, (by decide : 2 ≤ 250), Nat.le_refl 2⟩
  rw [clearSelOnce, ends_bind]
  refine ends_submitBuffered _ hhandled fun bmc' hidle' hstate => ?_
  have hholds : Holds (some bmc') [] := ⟨bmc', rfl, hidle', hstate ▸ Logs.clear _⟩
  change (if ¬ awaitClear ∨ progress = clearSelErasureCompleted then pure (.done .success)
    else pure (.again clearSelGetEraseStatus) : SubmitProg (Iter UInt8 EfiStatus)).Ends _ _ _
  by_cases hdone : ¬ awaitClear ∨ progress = clearSelErasureCompleted
  · rw [if_pos hdone, if_pos hdone]
    exact ⟨hholds, rfl⟩
  · rw [if_neg hdone, if_neg hdone]
    exact ⟨hholds, rfl⟩

/-- Either command of the clearing leaves the log empty. -/
theorem ends_clearSelOnce (h : Holds s log) (awaitClear : Bool) {erase : UInt8}
    (herase : erase = clearSelInitializeErase ∨ erase = clearSelGetEraseStatus) :
    (clearSelOnce stack awaitClear erase).Ends mockBaseLib s fun i s' =>
      Holds s' [] ∧ (i = .done .success ∨
        erase = clearSelInitializeErase ∧ i = .again clearSelGetEraseStatus) := by
  obtain ⟨bmc, rfl, hidle, -⟩ := h
  rcases herase with rfl | rfl
  · refine (ends_clearSelOnce_of_answer stack hidle awaitClear rfl).mono ?_
    rintro _ s' ⟨hholds, rfl⟩
    cases awaitClear with
    | false => exact ⟨hholds, .inl rfl⟩
    | true => exact ⟨hholds, .inr ⟨rfl, rfl⟩⟩
  · refine (ends_clearSelOnce_of_answer stack hidle awaitClear rfl).mono ?_
    rintro _ s' ⟨hholds, rfl⟩
    exact ⟨hholds, .inl (if_pos (.inr rfl))⟩

/-- Clearing the log, in either mode. -/
theorem ends_selClear (h : Holds s log) {fuel : ℕ} (hfuel : 2 ≤ fuel) (awaitClear : Bool) :
    (selClear stack fuel awaitClear).Ends mockBaseLib s fun status s' =>
      status = .success ∧ Holds s' [] := by
  refine ends_loop (I := fun erase s => (erase = clearSelInitializeErase ∨
    erase = clearSelGetEraseStatus) ∧ ∃ log, Holds s log)
    (fun erase _ => if erase = clearSelInitializeErase then 1 else 0) ?_ fuel _ s ⟨.inl rfl, log, h⟩
    hfuel
  rintro erase s ⟨herase, log, hlog⟩
  refine (ends_clearSelOnce stack hlog awaitClear herase).mono ?_
  rintro i s' ⟨hholds, rfl | ⟨rfl, rfl⟩⟩
  · exact ⟨rfl, hholds⟩
  · exact ⟨⟨.inr rfl, [], hholds⟩, Nat.one_pos⟩

end

/-! ### Calls -/

/-- The calls that write to the log or use its clock, with their arguments. -/
inductive Operation where
  | addSystemEntry (sensorType sensorNumber eventDirType data0 data1 data2 : UInt8)
  | addOemEntryEx (recordType : UInt8) (manufacturerId : Option (Fin 3 → UInt8))
      (data : Option (Fin 6 → UInt8))
  | addOemEntryNoTimestamp (recordType : UInt8) (data : Fin 13 → UInt8)
  | setTime (time : UInt32)
  | getTime
  | clear (awaitClear : Bool)

/-- What a call returns. -/
inductive Outcome where
  /-- The record ID of an accepted entry, or the error. -/
  | added (recordId : Except EfiStatus UInt16)
  | time (time : Except EfiStatus UInt32)
  | status (status : EfiStatus)

namespace Operation

/-- The call. -/
def run (stack : Memory UInt8) (fuel : ℕ) : Operation → SubmitProg Outcome
  | addSystemEntry sensorType sensorNumber eventDirType data0 data1 data2 =>
    .added <$> selAddSystemEntry stack sensorType sensorNumber eventDirType data0 data1 data2
  | addOemEntryEx recordType manufacturerId data =>
    .added <$> selAddOemEntryEx stack recordType manufacturerId data
  | addOemEntryNoTimestamp recordType data =>
    .added <$> selAddOemEntryNoTimestamp stack recordType data
  | setTime time => .status <$> selSetTime stack time
  | getTime => .time <$> selGetTime stack
  | clear awaitClear => .status <$> selClear stack fuel awaitClear

/-- The entry that is given to a call. -/
def entry : Operation → Option Entry
  | addSystemEntry sensorType sensorNumber eventDirType data0 data1 data2 =>
    some (.system sensorType sensorNumber eventDirType data0 data1 data2)
  | addOemEntryEx recordType (some manufacturerId) (some data) =>
    some (.oem recordType manufacturerId data)
  | addOemEntryNoTimestamp recordType data => some (.oemNonTimestamped recordType data)
  | _ => none

end Operation

/-- What a call with its outcome makes of the log: an accepted entry is added with the record ID
that has been returned for it. -/
def logNext (log : List (UInt16 × Entry)) : Operation × Outcome → List (UInt16 × Entry)
  | (.clear _, _) => []
  | (operation, .added (.ok recordId)) =>
    match operation.entry with
    | some entry => log ++ [(recordId, entry)]
    | none => log
  | _ => log

/-- The entries that have been accepted since the log was cleared last, with their record IDs. -/
def logged (calls : List (Operation × Outcome)) : List (UInt16 × Entry) := calls.foldl logNext []

variable {stack : Memory UInt8} {fuel : ℕ} {s : Option Bmc} {log : List (UInt16 × Entry)}
  {operation : Operation} {entry : Entry}

/-- A valid entry is passed on. -/
theorem run_of_valid (hentry : operation.entry = some entry) (hvalid : entry.Valid) :
    operation.run stack fuel = .added <$> ipmiAddSelEntry stack entry.bytes := by
  cases operation with
  | addSystemEntry =>
    cases hentry
    rfl
  | addOemEntryEx recordType manufacturerId data =>
    cases manufacturerId with
    | none => cases hentry
    | some manufacturerId =>
      cases data with
      | none => cases hentry
      | some data =>
        cases hentry
        have hnot : ¬ (recordType < selOemTimeStampRecordStart ∨
            recordType > selOemTimeStampRecordEnd) :=
          not_or_intro (UInt8.not_lt.2 hvalid.1) (UInt8.not_lt.2 hvalid.2)
        change Outcome.added <$> selAddOemEntryEx _ _ _ _ = _
        rw [selAddOemEntryEx, if_neg hnot]
        rfl
  | addOemEntryNoTimestamp recordType data =>
    cases hentry
    change Outcome.added <$> selAddOemEntryNoTimestamp _ _ _ = _
    rw [selAddOemEntryNoTimestamp, if_neg (UInt8.not_lt.2 hvalid)]
    rfl
  | setTime => cases hentry
  | getTime => cases hentry
  | clear => cases hentry

/-- Any other entry is refused. -/
theorem run_of_not_valid (hentry : operation.entry = some entry) (hvalid : ¬ entry.Valid) :
    operation.run stack fuel = pure (.added (.error .invalidParameter)) := by
  cases operation with
  | addSystemEntry =>
    cases hentry
    exact absurd trivial hvalid
  | addOemEntryEx recordType manufacturerId data =>
    cases manufacturerId with
    | none => cases hentry
    | some manufacturerId =>
      cases data with
      | none => cases hentry
      | some data =>
        cases hentry
        have hout : recordType < selOemTimeStampRecordStart ∨
            recordType > selOemTimeStampRecordEnd :=
          (not_and_or.1 hvalid).imp UInt8.not_le.1 UInt8.not_le.1
        change Outcome.added <$> selAddOemEntryEx _ _ _ _ = _
        rw [selAddOemEntryEx, if_pos hout]
        rfl
  | addOemEntryNoTimestamp recordType data =>
    cases hentry
    change Outcome.added <$> selAddOemEntryNoTimestamp _ _ _ = _
    rw [selAddOemEntryNoTimestamp, if_pos (UInt8.not_le.1 hvalid)]
    rfl
  | setTime => cases hentry
  | getTime => cases hentry
  | clear => cases hentry

/-- A call that is given a valid entry. -/
theorem ends_run_of_valid (h : Holds s log) (hentry : operation.entry = some entry)
    (hvalid : entry.Valid) : (operation.run stack fuel).Ends mockBaseLib s fun outcome s' =>
      if log.length < selCount then ∃ id, outcome = .added (.ok id) ∧ Holds s' (log ++ [(id, entry)])
      else outcome = .added (.error .outOfResources) ∧ Holds s' log ∧
        s'.map Bmc.state = s.map Bmc.state := by
  rw [run_of_valid hentry hvalid, ends_map]
  refine (ends_ipmiAddSelEntry stack h hvalid).mono fun x s' hx => ?_
  by_cases hroom : log.length < selCount
  · rw [if_pos hroom] at hx ⊢
    obtain ⟨id, rfl, hholds⟩ := hx
    exact ⟨id, rfl, hholds⟩
  · rw [if_neg hroom] at hx ⊢
    obtain ⟨rfl, hholds⟩ := hx
    exact ⟨rfl, hholds⟩

/-- The mock SEL keeps up with the log. -/
theorem ends_run (h : Holds s log) (hfuel : 2 ≤ fuel) (operation : Operation) :
    (operation.run stack fuel).Ends mockBaseLib s fun outcome s' =>
      Holds s' (logNext log (operation, outcome)) := by
  have hadds : ∀ entry, operation.entry = some entry →
      (∀ awaitClear, operation ≠ .clear awaitClear) →
      (operation.run stack fuel).Ends mockBaseLib s fun outcome s' =>
        Holds s' (logNext log (operation, outcome)) := by
    intro entry hentry hclear
    have hnext : ∀ id, logNext log (operation, .added (.ok id)) = log ++ [(id, entry)] := by
      intro id
      cases operation <;> first | exact absurd rfl (hclear _) | (unfold logNext; simp only [hentry])
    have herror : ∀ status, logNext log (operation, .added (.error status)) = log := by
      intro status
      cases operation <;> first | exact absurd rfl (hclear _) | rfl
    by_cases hvalid : entry.Valid
    · refine (ends_run_of_valid h hentry hvalid).mono fun outcome s' hx => ?_
      split_ifs at hx
      · obtain ⟨id, rfl, hholds⟩ := hx
        rw [hnext]
        exact hholds
      · obtain ⟨rfl, hholds, -⟩ := hx
        rw [herror]
        exact hholds
    · rw [run_of_not_valid hentry hvalid, pure_eq_ret, ends_ret, herror]
      exact h
  cases operation with
  | addSystemEntry => exact hadds _ rfl fun _ => Operation.noConfusion
  | addOemEntryEx recordType manufacturerId data =>
    cases manufacturerId with
    | none => exact h
    | some manufacturerId =>
      cases data with
      | none => exact h
      | some data => exact hadds _ rfl fun _ => Operation.noConfusion
  | addOemEntryNoTimestamp => exact hadds _ rfl fun _ => Operation.noConfusion
  | setTime time => exact ends_map.2 (ends_selSetTime stack h time)
  | getTime => exact ends_map.2 (ends_selGetTime stack h)
  | clear awaitClear =>
    exact ends_map.2 ((ends_selClear stack h hfuel awaitClear).mono fun _ _ hx => hx.2)

/-- What a caller who looks at the log finds, and what happens to the next entry. -/
structure ReadsBack (stack : Memory UInt8) (fuel : ℕ) (s : Option Bmc)
    (log : List (UInt16 × Entry)) : Prop where
  /-- There is a limit. -/
  length_le : log.length ≤ selCount
  /-- The record IDs are different. -/
  nodup : (log.map Prod.fst).Nodup
  /-- The record with an ID shows the entry for which the ID has been returned. -/
  getEntry : ∀ b ∈ log, ∀ record, (selGetEntry stack b.1 record).Ends mockBaseLib s fun x _ =>
    ∃ record' next, x = .ok (record', next) ∧ Shows b record'
  /-- From ID 0 on, each record tells where the next one is. -/
  walk : log ≠ [] → ∀ record n, log.length ≤ n →
    (walk (fun id => selGetEntry stack id record) 0xFFFF n 0).Ends mockBaseLib s fun x _ =>
      ∃ records, x = .ok records ∧ List.Forall₂ Shows log records
  /-- An empty log has no record. -/
  empty : log = [] → ∀ id record, (selGetEntry stack id record).Ends mockBaseLib s fun x _ =>
    x = .error .notFound
  /-- The number of entries, and the room for others. -/
  info : (selGetInfo stack).Ends mockBaseLib s fun x _ => ∃ info, x = .ok info ∧
    info.numberOfEntries.toNat = log.length ∧
      info.freeSpace.toNat = selEntrySize * (selCount - log.length)
  /-- A valid entry is accepted if there is room for it; else nothing changes. -/
  add : ∀ (operation : Operation) entry, operation.entry = some entry → entry.Valid →
    (operation.run stack fuel).Ends mockBaseLib s fun outcome s' =>
      if log.length < selCount then ∃ id, outcome = .added (.ok id)
      else outcome = .added (.error .outOfResources) ∧ s'.map Bmc.state = s.map Bmc.state

/-- The ID behind the last record is none of a record. -/
theorem Logs.ne_last {sel : Mock.Sel} (h : Logs sel log) : ∀ b ∈ log, b.1 ≠ 0xFFFF := by
  intro b hb heq
  obtain ⟨before, rest, hsplit⟩ := List.append_of_mem hb
  have hid := h.recordId_of_split hsplit
  have hlen := h.length_le
  have hlast : (0xFFFF : UInt16).toNat = 65535 := rfl
  have hcount : selCount = 100 := rfl
  rw [heq, hlast] at hid
  rw [hsplit, List.length_append] at hlen
  omega

theorem Logs.nodup {sel : Mock.Sel} (h : Logs sel log) : (log.map Prod.fst).Nodup := by
  have hlen := h.length_le
  have hcount : selCount = 100 := rfl
  rw [h.recordIds_eq]
  refine List.Nodup.map_on ?_ List.nodup_range
  intro i hi j hj heq
  have hi' := List.mem_range.1 hi
  have hj' := List.mem_range.1 hj
  have hvalue := congrArg UInt16.toNat heq
  rwa [UInt16.toNat_ofNat_of_lt' (show i < 65536 by omega),
    UInt16.toNat_ofNat_of_lt' (show j < 65536 by omega)] at hvalue

/-- A log that the mock SEL holds is read back. -/
theorem Holds.readsBack (h : Holds s log) : ReadsBack stack fuel s log where
  length_le := by
    obtain ⟨bmc, -, -, hlogs⟩ := h
    exact hlogs.length_le
  nodup := by
    obtain ⟨bmc, -, -, hlogs⟩ := h
    exact hlogs.nodup
  getEntry b hb record := by
    obtain ⟨before, rest, hsplit⟩ := List.append_of_mem hb
    refine (ends_selGetEntry stack h ⟨before, hsplit.symm⟩ record).mono ?_
    rintro x s' ⟨-, record', hx, hshows⟩
    exact ⟨record', _, hx, hshows⟩
  walk hne record n hn := by
    obtain ⟨bmc, -, -, hlogs⟩ := id h
    cases log with
    | nil => exact absurd rfl hne
    | cons b rest =>
      have hzero : (0 : UInt16) = b.1 :=
        UInt16.toNat_inj.1 (hlogs.recordId_of_split (List.nil_append (b :: rest)).symm).symm
      have hget : ∀ b' rest' s, b' :: rest' <:+ b :: rest → Holds s (b :: rest) →
          (selGetEntry stack b'.1 record).Ends mockBaseLib s fun x s' => Holds s' (b :: rest) ∧
            ∃ record', x = .ok (record', nextKey 0xFFFF rest') ∧ Shows b' record' :=
        fun _ _ _ hsuffix hs => ends_selGetEntry stack hs hsuffix record
      rw [hzero]
      refine (ends_walk hlogs.ne_last hget n b rest s List.suffix_rfl hn h).mono ?_
      rintro x s' ⟨-, hx⟩
      exact hx
  empty hnil id record := by
    subst hnil
    exact (ends_selGetEntry_nil stack h id record).mono fun _ _ hx => hx.2
  info := (ends_selGetInfo stack h).mono fun _ _ hx => hx.2
  add operation entry hentry hvalid := by
    refine (ends_run_of_valid h hentry hvalid).mono fun outcome s' hx => ?_
    by_cases hroom : log.length < selCount
    · rw [if_pos hroom] at hx ⊢
      obtain ⟨id, hid, -⟩ := hx
      exact ⟨id, hid⟩
    · rw [if_neg hroom] at hx ⊢
      exact ⟨hx.1, hx.2.2⟩

/-- Before the first entry. -/
theorem holds_nil {bmc : Bmc} (hidle : bmc.Idle) (hempty : bmc.state.sel.nextRecordId = 0) :
    Holds (some bmc) [] := by
  refine ⟨bmc, rfl, hidle, ?_, rfl, fun k hk _ => absurd hk (Nat.not_lt_zero k)⟩
  rw [hempty]
  rfl

/-- **What is logged is read back.**  After any calls, from an empty log on, a caller finds the
entries that have been accepted since the log was cleared last. -/
theorem selLog_readsBack (stack : Memory UInt8) (hfuel : 2 ≤ fuel) (operations : List Operation)
    {bmc : Bmc} (hidle : bmc.Idle) (hempty : bmc.state.sel.nextRecordId = 0) :
    (operations.mapM (Operation.run stack fuel)).Ends mockBaseLib (some bmc) fun outcomes s =>
      outcomes.length = operations.length ∧
        ReadsBack stack fuel s (logged (operations.zip outcomes)) := by
  have hstep : ∀ (operation : Operation) s log, Holds s log →
      (operation.run stack fuel).Ends mockBaseLib s fun outcome s' =>
        Holds s' (logNext log (operation, outcome)) :=
    fun operation _ _ h => ends_run h hfuel operation
  refine (ends_mapM_of_history hstep operations (holds_nil hidle hempty)).mono ?_
  rintro outcomes s ⟨hlength, hholds⟩
  exact ⟨hlength, hholds.readsBack⟩

theorem selLog_readsBack_afterClear :
    ([.clear true, .addSystemEntry 1 2 3 4 5 6].mapM (Operation.run (fun _ => 0) 2)).Ends mockBaseLib
      (some initialBmc) fun outcomes s => outcomes.length = 2 ∧ ReadsBack (fun _ => 0) 2 s
        (logged ([.clear true, .addSystemEntry 1 2 3 4 5 6].zip outcomes)) :=
  selLog_readsBack (fun _ => 0) (Nat.le_refl 2) [.clear true, .addSystemEntry 1 2 3 4 5 6]
    idle_initialBmc rfl

end Sel

end IpmiFeature
