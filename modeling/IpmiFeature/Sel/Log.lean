import IpmiFeature.CommandLib.Answers
import IpmiFeature.Interaction.Sequence
import IpmiFeature.Sel.Basic
import Mathlib.Data.Fintype.Basic
import Mathlib.Tactic.FinCases

/-!
# The event log

`IpmiSelLib` over `IpmiBaseLibMock`: what is logged is what is read back.

* `Entry` : what a caller asks to log; `Shows` says that a record shows it.
* `Logs` : the mock SEL holds a log; the operations keep it (`Logs.add`, `Logs.clear`).
-/

namespace IpmiFeature

open Interaction Prog BaseLib CommandLib Mock

namespace Sel

/-! ### Entries -/

/-- What a caller asks to log. -/
inductive Entry where
  | system (sensorType sensorNumber eventDirType data0 data1 data2 : UInt8)
  | oem (recordType : UInt8) (manufacturerId : Fin 3 → UInt8) (data : Fin 6 → UInt8)
  | oemNonTimestamped (recordType : UInt8) (data : Fin 13 → UInt8)

namespace Entry

/-- The type of its record. -/
def recordType : Entry → UInt8
  | system .. => selSystemRecord
  | oem recordType _ _ => recordType
  | oemNonTimestamped recordType _ => recordType

/-- Its record. -/
def bytes : Entry → List UInt8
  | system sensorType sensorNumber eventDirType data0 data1 data2 =>
    systemRecord sensorType sensorNumber eventDirType data0 data1 data2
  | oem recordType manufacturerId data => oemRecord recordType manufacturerId data
  | oemNonTimestamped recordType data => oemNonTimestampedRecord recordType data

/-- Its type is one for which there is such a record. -/
def Valid : Entry → Prop
  | system .. => True
  | oem recordType _ _ =>
    selOemTimeStampRecordStart ≤ recordType ∧ recordType ≤ selOemTimeStampRecordEnd
  | oemNonTimestamped recordType _ => selOemNoTimeStampRecordStart ≤ recordType

/-- The fields of a record are those that have been given. -/
def Fields (record : Memory UInt8) : Entry → Prop
  | system sensorType sensorNumber eventDirType data0 data1 data2 =>
    systemSensorType record = sensorType ∧ systemSensorNumber record = sensorNumber ∧
      systemEventDirType record = eventDirType ∧ systemData record 0 = data0 ∧
      systemData record 1 = data1 ∧ systemData record 2 = data2
  | oem _ manufacturerId data => oemManufacturerId record = manufacturerId ∧ oemData record = data
  | oemNonTimestamped _ data => oemNonTimestampedData record = data

theorem length_bytes (entry : Entry) : entry.bytes.length = selEntrySize := by
  cases entry with
  | system => rfl
  | oem => simp [bytes, oemRecord, selEntrySize]
  | oemNonTimestamped => simp [bytes, oemNonTimestampedRecord, selEntrySize]

end Entry

/-- The record shows an entry under its ID. -/
structure Shows (logged : UInt16 × Entry) (record : Memory UInt8) : Prop where
  recordId_eq : recordId record = logged.1
  recordType_eq : recordType record = logged.2.recordType
  fields : logged.2.Fields record

/-- What a record shows is in its sixteen bytes. -/
theorem Shows.congr {logged : UInt16 × Entry} {record record' : Memory UInt8}
    (h : Shows logged record) (hbytes : ∀ i < selEntrySize, record i = record' i) :
    Shows logged record' := by
  refine ⟨?_, ?_, ?_⟩
  · rw [← h.recordId_eq]
    exact shortOf_congr (hbytes 0 (by decide)).symm (hbytes 1 (by decide)).symm
  · rw [← h.recordType_eq]
    exact (hbytes 2 (by decide)).symm
  · have hfields := h.fields
    cases hentry : logged.2 with
    | system =>
      rw [hentry] at hfields
      obtain ⟨h₁, h₂, h₃, h₄, h₅, h₆⟩ := hfields
      exact ⟨(hbytes 10 (by decide)).symm.trans h₁, (hbytes 11 (by decide)).symm.trans h₂,
        (hbytes 12 (by decide)).symm.trans h₃, (hbytes 13 (by decide)).symm.trans h₄,
        (hbytes 14 (by decide)).symm.trans h₅, (hbytes 15 (by decide)).symm.trans h₆⟩
    | oem =>
      rw [hentry] at hfields
      obtain ⟨h₁, h₂⟩ := hfields
      refine ⟨Eq.trans ?_ h₁, Eq.trans ?_ h₂⟩
      · funext i
        exact (hbytes (7 + i) (show 7 + i.val < 16 by omega)).symm
      · funext i
        exact (hbytes (10 + i) (show 10 + i.val < 16 by omega)).symm
    | oemNonTimestamped =>
      rw [hentry] at hfields
      refine Eq.trans ?_ hfields
      funext i
      exact (hbytes (3 + i) (show 3 + i.val < 16 by omega)).symm

/-! ### Events of the mock SEL -/

/-- An event in memory. -/
def eventMemory (event : SelGenericEvent) : Memory UInt8 := requestOf event.bytes

theorem eventMemory_recordId (event : SelGenericEvent) :
    recordId (eventMemory event) = event.recordId :=
  (shortOf_congr rfl rfl).trans (shortOf_byteOfShort _)

theorem eventMemory_timeStamp (event : SelGenericEvent) (i : Fin 4) :
    eventMemory event (3 + i) = byteOf event.timeStamp i := by
  fin_cases i <;> rfl

theorem eventMemory_data (event : SelGenericEvent) (i : Fin 9) :
    eventMemory event (7 + i) = event.data i := by
  fin_cases i <;> rfl

/-- The event that a record is stored as, with the time that it gets. -/
def storedEvent (recordId : UInt16) (time : UInt32) (record : Memory UInt8) : SelGenericEvent :=
  let event : SelGenericEvent := { SelGenericEvent.ofMemory record with recordId }
  if event.recordType < selOemNoTimeStampRecordStart then { event with timeStamp := time } else event

theorem storedEvent_recordId (recordId : UInt16) (time : UInt32) (record : Memory UInt8) :
    (storedEvent recordId time record).recordId = recordId := by
  unfold storedEvent
  dsimp only
  split_ifs <;> rfl

theorem storedEvent_recordType (recordId : UInt16) (time : UInt32) (record : Memory UInt8) :
    (storedEvent recordId time record).recordType = record 2 := by
  unfold storedEvent
  dsimp only
  split_ifs <;> rfl

/-- From the seventh byte on a record is stored as it is. -/
theorem storedEvent_data (recordId : UInt16) (time : UInt32) (record : Memory UInt8) (i : Fin 9) :
    (storedEvent recordId time record).data i = record (7 + i) := by
  unfold storedEvent
  dsimp only
  split_ifs <;> rfl

theorem storedEvent_timeStamp {recordId : UInt16} {time : UInt32} {record : Memory UInt8}
    (h : selOemNoTimeStampRecordStart ≤ record 2) :
    (storedEvent recordId time record).timeStamp = wordOf record 3 := by
  have hnot : ¬ (SelGenericEvent.ofMemory record).recordType < selOemNoTimeStampRecordStart :=
    UInt8.not_lt.2 h
  unfold storedEvent
  dsimp only
  rw [if_neg hnot]
  rfl

/-- A valid entry is shown by the event that it is stored as. -/
theorem shows_storedEvent (recordId : UInt16) (time : UInt32) {entry : Entry} (hvalid : entry.Valid) :
    Shows (recordId, entry) (eventMemory (storedEvent recordId time (requestOf entry.bytes))) := by
  have hdata : ∀ i : Fin 9, eventMemory (storedEvent recordId time (requestOf entry.bytes)) (7 + i) =
      requestOf entry.bytes (7 + i) := fun i =>
    (eventMemory_data _ i).trans (storedEvent_data recordId time _ i)
  refine ⟨?_, ?_, ?_⟩
  · rw [eventMemory_recordId, storedEvent_recordId]
  · refine (storedEvent_recordType recordId time _).trans ?_
    cases entry <;> rfl
  · cases entry with
    | system => exact ⟨hdata 3, hdata 4, hdata 5, hdata 6, hdata 7, hdata 8⟩
    | oem recordType manufacturerId data =>
      refine ⟨funext fun i => ?_, funext fun i => ?_⟩
      · refine (hdata ⟨i, by omega⟩).trans ?_
        fin_cases i <;> rfl
      · have hplace : 10 + i.val = 7 + (3 + i.val) := by omega
        have hread := hdata ⟨3 + i, by omega⟩
        change eventMemory _ (10 + i.val) = data i
        rw [hplace]
        refine hread.trans ?_
        fin_cases i <;> rfl
    | oemNonTimestamped recordType data =>
      funext i
      by_cases hi : i.val < 4
      · -- the bytes in the place of the time stamp
        refine (eventMemory_timeStamp _ ⟨i, hi⟩).trans ?_
        rw [storedEvent_timeStamp (show selOemNoTimeStampRecordStart ≤ recordType from hvalid),
          byteOf_wordOf _ _ hi]
        fin_cases i <;> rfl
      · have hplace : 3 + i.val = 7 + (i.val - 4) := by omega
        have hread := hdata ⟨i.val - 4, by omega⟩
        change eventMemory _ (3 + i.val) = data i
        rw [hplace]
        refine hread.trans ?_
        fin_cases i <;> first | rfl | exact absurd (by decide) hi

/-! ### The mock SEL holds a log -/

/-- The mock SEL holds the log: the records with the IDs from 0 on show its entries. -/
structure Logs (sel : Mock.Sel) (log : List (UInt16 × Entry)) : Prop where
  nextRecordId_eq : sel.nextRecordId.toNat = log.length
  recordIds_eq : log.map Prod.fst = (List.range log.length).map UInt16.ofNat
  shows : ∀ k (hk : k < log.length) (hk' : k < selCount),
    Shows log[k] (eventMemory (sel.entries ⟨k, hk'⟩))

variable {sel : Mock.Sel} {log : List (UInt16 × Entry)}

theorem Logs.length_le (h : Logs sel log) : log.length ≤ selCount :=
  h.nextRecordId_eq ▸ sel.nextRecordId_le

/-- The place of an entry is its ID. -/
theorem Logs.recordId_of_split (h : Logs sel log) {before rest : List (UInt16 × Entry)}
    {b : UInt16 × Entry} (hsplit : log = before ++ b :: rest) : b.1.toNat = before.length := by
  have hlen := h.length_le
  have hcount : selCount = 100 := rfl
  have hk : before.length < log.length := by
    rw [hsplit, List.length_append, List.length_cons]
    omega
  have hread : (log.map Prod.fst)[before.length]? =
      ((List.range log.length).map UInt16.ofNat)[before.length]? := by rw [h.recordIds_eq]
  rw [List.getElem?_map, List.getElem?_map, List.getElem?_range hk, hsplit,
    List.getElem?_append_right (Nat.le_refl _), Nat.sub_self, List.getElem?_cons_zero] at hread
  rw [show b.1 = UInt16.ofNat before.length from Option.some.inj hread]
  exact UInt16.toNat_ofNat_of_lt' (show before.length < 65536 by omega)

/-- A new entry. -/
theorem Logs.add (h : Logs sel log) (hroom : sel.nextRecordId.toNat < selCount) {entry : Entry}
    (hvalid : entry.Valid) :
    Logs (sel.add (.ofMemory (requestOf entry.bytes)) hroom) (log ++ [(sel.nextRecordId, entry)]) := by
  have hcount : selCount = 100 := rfl
  have hone : (1 : UInt16).toNat = 1 := rfl
  have hlength := h.nextRecordId_eq
  refine ⟨?_, ?_, ?_⟩
  · change (sel.nextRecordId + 1).toNat = _
    rw [UInt16.toNat_add, hone, List.length_append, List.length_singleton]
    omega
  · rw [List.map_append, h.recordIds_eq, List.length_append, List.length_singleton, List.range_succ,
      List.map_append, ← hlength]
    exact congrArg _ (congrArg (fun id => [id]) (UInt16.ofNat_toNat).symm)
  · intro k hk hk'
    rw [List.length_append, List.length_singleton] at hk
    change Shows (log ++ _)[k] (eventMemory (Function.update sel.entries _ _ ⟨k, hk'⟩))
    by_cases hlast : k = log.length
    · have hplace : (⟨k, hk'⟩ : Fin selCount) = ⟨sel.nextRecordId.toNat, hroom⟩ :=
        Fin.ext (hlast.trans hlength.symm)
      have hentry : (log ++ [(sel.nextRecordId, entry)])[k] = (sel.nextRecordId, entry) := by
        simp only [hlast, List.getElem_concat_length]
      rw [hentry, hplace, Function.update_self]
      exact shows_storedEvent sel.nextRecordId _ hvalid
    · have hother : (⟨k, hk'⟩ : Fin selCount) ≠ ⟨sel.nextRecordId.toNat, hroom⟩ := fun heq =>
        hlast ((congrArg Fin.val heq).trans hlength)
      have hold : k < log.length := by omega
      rw [List.getElem_append_left hold, Function.update_of_ne hother]
      exact h.shows k hold hk'

theorem Logs.clear (sel : Mock.Sel) : Logs sel.clear [] :=
  ⟨rfl, rfl, fun k hk _ => absurd hk (Nat.not_lt_zero k)⟩

/-! ### Reading a record -/

/-- The request of `SelGetEntry`. -/
def getEntryRequest (recordId : UInt16) : List UInt8 :=
  [0, 0] ++ (byteOfShort recordId).slice 0 2 ++ [0, 0xFF]

theorem shortOf_getEntryRequest (recordId : UInt16) :
    shortOf (requestOf (getEntryRequest recordId)) 2 = recordId :=
  (shortOf_congr rfl rfl).trans (shortOf_byteOfShort recordId)

/-- The answer to `SelGetEntry`. -/
theorem mockIpmiSelGetEntry_eq (recordId : UInt16) (state : BmcState) :
    mockIpmiSelGetEntry (getEntryRequest recordId) unanswered state =
      if h : recordId.toNat < state.sel.nextRecordId.toNat then
        let next := if recordId.toNat + 1 < state.sel.nextRecordId.toNat then recordId + 1 else 0xFFFF
        some (compCodeNormal :: ((byteOfShort next).slice 0 2 ++
          (state.sel.entries ⟨recordId.toNat, Nat.lt_of_lt_of_le h state.sel.nextRecordId_le⟩).bytes),
          state)
      else
        some (compCodeNotPresent :: List.replicate 18 0, state) := by
  have hid := shortOf_getEntryRequest recordId
  have hlength : ¬ (getEntryRequest recordId).length < 6 := Nat.lt_irrefl 6
  have hwhole : ¬ (requestOf (getEntryRequest recordId) 0 ≠ 0 ∨
      requestOf (getEntryRequest recordId) 1 ≠ 0 ∨ requestOf (getEntryRequest recordId) 4 ≠ 0 ∨
        requestOf (getEntryRequest recordId) 5 ≠ 0xFF) := by
    rintro (h | h | h | h) <;> exact absurd rfl h
  unfold mockIpmiSelGetEntry
  dsimp only
  rw [if_neg hlength, if_neg hwhole]
  simp only [hid]

/-- What the response to `SelGetEntry` holds. -/
theorem read_getEntryReply (m : Memory UInt8) (next : UInt16) (event : SelGenericEvent) :
    let buffer := m.store 0 (compCodeNormal :: ((byteOfShort next).slice 0 2 ++ event.bytes))
    buffer 0 = compCodeNormal ∧ shortOf buffer 1 = next ∧
      buffer.slice 3 selEntrySize = event.bytes := by
  intro buffer
  have hlength : (compCodeNormal :: ((byteOfShort next).slice 0 2 ++ event.bytes)).length = 19 := by
    rw [List.length_cons, List.length_append, length_event]
    rfl
  have hread : ∀ i (hi : i < (compCodeNormal :: ((byteOfShort next).slice 0 2 ++ event.bytes)).length),
      buffer i = (compCodeNormal :: ((byteOfShort next).slice 0 2 ++ event.bytes))[i] := by
    intro i hi
    have hmem : buffer (0 + i) = _ := Memory.store_of_mem hi
    rwa [Nat.zero_add] at hmem
  refine ⟨hread 0 (by omega), ?_, ?_⟩
  · refine (shortOf_congr ?_ ?_).trans (shortOf_byteOfShort next)
    · exact hread 1 (by omega)
    · exact hread 2 (by omega)
  · have hle : 3 ≤ (compCodeNormal :: ((byteOfShort next).slice 0 2 ++ event.bytes)).length := by
      omega
    have hdrop := Memory.slice_store_drop (m := m) hle
    rw [hlength] at hdrop
    exact hdrop

theorem valueOf_of_normal {α : Type} {result : SubmitResult} (hstatus : result.status = .success)
    (hcode : result.buffer 0 = compCodeNormal) (value : α) : valueOf result value = .ok value := by
  have hok : statusOf result = .success := by
    rw [statusOf, hstatus, hcode]
    rfl
  rw [valueOf, hok]
  rfl

/-! ### The library over the mock BMC -/

/-- The mock BMC is idle, and its SEL holds the log. -/
def Holds (s : Option Bmc) (log : List (UInt16 × Entry)) : Prop :=
  ∃ bmc, s = some bmc ∧ bmc.Idle ∧ Logs bmc.state.sel log

variable (stack : Memory UInt8) {s : Option Bmc}

/-- Adding a record, whatever the SEL holds. -/
theorem ends_ipmiAddSelEntry_of_idle {bmc : Bmc} (hidle : bmc.Idle) (entry : Entry) :
    (ipmiAddSelEntry stack entry.bytes).Ends mockBaseLib (some bmc) fun x s' =>
      ∃ bmc', s' = some bmc' ∧ bmc'.Idle ∧
        if hroom : bmc.state.sel.nextRecordId.toNat < selCount then
          x = .ok bmc.state.sel.nextRecordId ∧ bmc'.state =
            { bmc.state with sel := bmc.state.sel.add (.ofMemory (requestOf entry.bytes)) hroom }
        else x = .error .outOfResources ∧ bmc'.state = bmc.state := by
  have hlength : ¬ entry.bytes.length < 16 := by
    rw [entry.length_bytes]
    exact Nat.lt_irrefl 16
  have hsize : entry.bytes.length ≤ 253 := by
    rw [entry.length_bytes]
    exact (by decide)
  rw [ipmiAddSelEntry, ends_bind]
  by_cases hroom : bmc.state.sel.nextRecordId.toNat < selCount
  · have hhandled : Handled bmc ⟨netfnStorage, storageAddSelEntry, entry.bytes, 3⟩
        (compCodeNormal :: (byteOfShort bmc.state.sel.nextRecordId).slice 0 2)
        { bmc.state with sel := bmc.state.sel.add (.ofMemory (requestOf entry.bytes)) hroom } := by
      refine ⟨hidle, (by decide : netfnStorage.toNat < 64), ⟨mockIpmiSelAddEntry, rfl, ?_⟩, hsize,
        List.cons_ne_nil _ _, show 3 ≤ 250 by decide, Nat.le_refl 3⟩
      rw [mockIpmiSelAddEntry, if_neg hlength, dif_pos hroom]
    refine ends_submitBuffered _ hhandled fun bmc' hidle' hstate => ⟨bmc', rfl, hidle', ?_⟩
    rw [dif_pos hroom]
    refine ⟨congrArg Except.ok ?_, hstate⟩
    exact (shortOf_congr rfl rfl).trans (shortOf_byteOfShort _)
  · have hhandled : Handled bmc ⟨netfnStorage, storageAddSelEntry, entry.bytes, 3⟩
        [compCodeOutOfSpace, 0, 0] bmc.state := by
      refine ⟨hidle, (by decide : netfnStorage.toNat < 64), ⟨mockIpmiSelAddEntry, rfl, ?_⟩, hsize,
        List.cons_ne_nil _ _, by decide, Nat.le_refl 3⟩
      rw [mockIpmiSelAddEntry, if_neg hlength, dif_neg hroom]
    refine ends_submitBuffered _ hhandled fun bmc' hidle' hstate => ⟨bmc', rfl, hidle', ?_⟩
    rw [dif_neg hroom]
    exact ⟨rfl, hstate⟩

/-- Adding an entry to a log. -/
theorem ends_ipmiAddSelEntry (h : Holds s log) {entry : Entry} (hvalid : entry.Valid) :
    (ipmiAddSelEntry stack entry.bytes).Ends mockBaseLib s fun x s' =>
      if log.length < selCount then ∃ id, x = .ok id ∧ Holds s' (log ++ [(id, entry)])
      else x = .error .outOfResources ∧ Holds s' log ∧
        s'.map Bmc.state = s.map Bmc.state := by
  obtain ⟨bmc, rfl, hidle, hlogs⟩ := h
  refine (ends_ipmiAddSelEntry_of_idle stack hidle entry).mono ?_
  rintro x _ ⟨bmc', rfl, hidle', hx⟩
  by_cases hroom : bmc.state.sel.nextRecordId.toNat < selCount
  · rw [dif_pos hroom] at hx
    obtain ⟨rfl, hstate⟩ := hx
    rw [if_pos (hlogs.nextRecordId_eq ▸ hroom)]
    refine ⟨bmc.state.sel.nextRecordId, rfl, bmc', rfl, hidle', ?_⟩
    rw [hstate]
    exact hlogs.add hroom hvalid
  · rw [dif_neg hroom] at hx
    obtain ⟨rfl, hstate⟩ := hx
    rw [if_neg (hlogs.nextRecordId_eq ▸ hroom)]
    exact ⟨rfl, ⟨bmc', rfl, hidle', hstate ▸ hlogs⟩, congrArg some hstate⟩

/-- Reading an entry of the log. -/
theorem ends_selGetEntry (h : Holds s log) {b : UInt16 × Entry} {rest : List (UInt16 × Entry)}
    (hsuffix : b :: rest <:+ log) (record : Memory UInt8) :
    (selGetEntry stack b.1 record).Ends mockBaseLib s fun x s' => Holds s' log ∧
      ∃ record', x = .ok (record', nextKey 0xFFFF rest) ∧ Shows b record' := by
  obtain ⟨bmc, rfl, hidle, hlogs⟩ := h
  obtain ⟨before, hsplit⟩ := hsuffix
  have hcount : selCount = 100 := rfl
  have hlen := hlogs.length_le
  have hone : (1 : UInt16).toNat = 1 := rfl
  have hid := hlogs.recordId_of_split hsplit.symm
  have htotal : log.length = before.length + (rest.length + 1) := by
    rw [← hsplit, List.length_append, List.length_cons]
  have hlt : b.1.toNat < bmc.state.sel.nextRecordId.toNat := by
    rw [hid, hlogs.nextRecordId_eq]
    omega
  have hplace : b.1.toNat < selCount := Nat.lt_of_lt_of_le hlt bmc.state.sel.nextRecordId_le
  have hshows : Shows b (eventMemory (bmc.state.sel.entries ⟨b.1.toNat, hplace⟩)) := by
    have hk : b.1.toNat < log.length := by omega
    have hentry : log[b.1.toNat] = b := by
      simp only [hid, ← hsplit, List.getElem_append_right (Nat.le_refl _), Nat.sub_self,
        List.getElem_cons_zero]
    have hshown := hlogs.shows b.1.toNat hk hplace
    rwa [hentry] at hshown
  have hnext : (if b.1.toNat + 1 < bmc.state.sel.nextRecordId.toNat then b.1 + 1 else 0xFFFF) =
      nextKey 0xFFFF rest := by
    rw [hlogs.nextRecordId_eq, hid, htotal]
    cases rest with
    | nil => exact if_neg (Nat.lt_irrefl _)
    | cons b' rest =>
      have hsplit' : log = before ++ [b] ++ b' :: rest := by
        rw [← hsplit, List.append_assoc, List.singleton_append]
      have hid' := hlogs.recordId_of_split hsplit'
      rw [List.length_append, List.length_singleton] at hid'
      rw [if_pos (by rw [List.length_cons]; omega), nextKey]
      apply UInt16.toNat_inj.1
      rw [UInt16.toNat_add, hid, hone, hid']
      omega
  have hhandled : Handled bmc ⟨netfnStorage, storageGetSelEntry, getEntryRequest b.1, 19⟩
      (compCodeNormal :: ((byteOfShort (nextKey 0xFFFF rest)).slice 0 2 ++
        (bmc.state.sel.entries ⟨b.1.toNat, hplace⟩).bytes)) bmc.state := by
    refine ⟨hidle, (by decide : netfnStorage.toNat < 64), ⟨mockIpmiSelGetEntry, rfl, ?_⟩,
      (by decide : 6 ≤ 253), List.cons_ne_nil _ _, (by decide : 19 ≤ 250), Nat.le_refl 19⟩
    rw [mockIpmiSelGetEntry_eq, dif_pos hlt]
    dsimp only
    rw [hnext]
  rw [selGetEntry, ends_bind]
  refine ends_submitBuffered _ hhandled fun bmc' hidle' hstate => ?_
  have hread := read_getEntryReply (Memory.store stack 0 (List.replicate 19 0))
    (nextKey 0xFFFF rest) (bmc.state.sel.entries ⟨b.1.toNat, hplace⟩)
  refine ⟨⟨bmc', rfl, hidle', hstate ▸ hlogs⟩,
    record.store 0 (bmc.state.sel.entries ⟨b.1.toNat, hplace⟩).bytes, ?_, hshows.congr ?_⟩
  · refine (valueOf_of_normal rfl hread.1 _).trans (congrArg Except.ok ?_)
    exact Prod.ext (congrArg (record.store 0) hread.2.2) hread.2.1
  · intro i hi
    have hmem : i < (bmc.state.sel.entries ⟨b.1.toNat, hplace⟩).bytes.length := by
      rw [length_event]
      exact hi
    have hstored : record.store 0 _ (0 + i) = _ := Memory.store_of_mem hmem
    rw [Nat.zero_add] at hstored
    rw [hstored]
    exact (List.getElem_eq_getD 0).symm

end Sel

end IpmiFeature
