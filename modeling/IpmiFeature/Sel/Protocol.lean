import IpmiFeature.Sel.History

/-!
# The protocol of the event log

`IpmiSel.c`, through which a boot loader uses the log.  It can read all of the log, and it can only
add to it, and only OEM records.

* `Permitted` : a command that such a caller can have sent.
* `Served` : what such a caller makes of the log, and what it is shown of it.
* `protocolCalls_appendOnly` : so it is after any calls, in any order.
-/

namespace IpmiFeature

open Interaction Prog BaseLib Mock

namespace Sel

/-! ### The functions -/

section

variable (stack : Memory UInt8)

/-- `IpmiSelGetRecordEntry`. -/
def ipmiSelGetRecordEntry (recordId : UInt16) (record : Memory UInt8) :
    SubmitProg (Except EfiStatus (Memory UInt8 × UInt16)) :=
  selGetEntry stack recordId record

/-- `IpmiSelAddRecordEntry`; a pointer may be `NULL`. -/
def ipmiSelAddRecordEntry (recordType : UInt8) (manufacturerId : Option (Fin 3 → UInt8))
    (data : Option (Fin 6 → UInt8)) : SubmitProg (Except EfiStatus UInt16) :=
  selAddOemEntryEx stack recordType manufacturerId data

end

/-! ### Calls -/

/-- A call through `IPMI_SEL_PROTOCOL`, with its arguments. -/
inductive ProtocolCall where
  | getRecordEntry (recordId : UInt16) (record : Memory UInt8)
  | addRecordEntry (recordType : UInt8) (manufacturerId : Option (Fin 3 → UInt8))
      (data : Option (Fin 6 → UInt8))

/-- What a call returns. -/
inductive Returned where
  | record (record : Except EfiStatus (Memory UInt8 × UInt16))
  | recordId (recordId : Except EfiStatus UInt16)

namespace ProtocolCall

/-- The call. -/
def run (stack : Memory UInt8) : ProtocolCall → SubmitProg Returned
  | getRecordEntry recordId record => .record <$> ipmiSelGetRecordEntry stack recordId record
  | addRecordEntry recordType manufacturerId data =>
    .recordId <$> ipmiSelAddRecordEntry stack recordType manufacturerId data

/-- The entry that is given to a call. -/
def entry : ProtocolCall → Option Entry
  | addRecordEntry recordType (some manufacturerId) (some data) =>
    some (.oem recordType manufacturerId data)
  | _ => none

end ProtocolCall

/-- The entry that a call has added, with the record ID that it has returned. -/
def addedBy : ProtocolCall × Returned → List (UInt16 × Entry)
  | (protocolCall, .recordId (.ok recordId)) =>
    (protocolCall.entry.map fun entry => (recordId, entry)).toList
  | _ => []

/-- The entries that have been added by the calls. -/
def added (calls : List (ProtocolCall × Returned)) : List (UInt16 × Entry) := calls.flatMap addedBy

theorem added_concat (calls : List (ProtocolCall × Returned)) (call : ProtocolCall × Returned) :
    added (calls ++ [call]) = added calls ++ addedBy call := by
  rw [added, List.flatMap_append, List.flatMap_singleton]
  rfl

/-! ### What a caller can do -/

/-- An OEM entry with a time stamp. -/
def Entry.OemTimestamped (entry : Entry) : Prop :=
  entry.Valid ∧ ∃ recordType manufacturerId data, entry = .oem recordType manufacturerId data

/-- A record of the log is read, or an OEM record is added to it. -/
def Permitted (call : SubmitCall) : Prop :=
  call.netFunction = netfnStorage ∧ (call.command = storageGetSelEntry ∨
    call.command = storageAddSelEntry ∧
      ∃ entry : Entry, entry.OemTimestamped ∧ call.commandData = entry.bytes)

/-- What becomes of the log, and what is shown of it. -/
structure Served (log : List (UInt16 × Entry)) (s : Option Bmc)
    (calls : List (ProtocolCall × Returned)) : Prop where
  /-- Entries are added to the log, and nothing else happens to it. -/
  holds : Holds s (log ++ added calls)
  /-- They are OEM entries. -/
  oemTimestamped : ∀ b ∈ added calls, b.2.OemTimestamped
  /-- A record that has been returned is one of the log. -/
  shows : ∀ recordId record record' next,
    (.getRecordEntry recordId record, .record (.ok (record', next))) ∈ calls →
      ∃ b ∈ log ++ added calls, b.1 = recordId ∧ Shows b record'

variable {stack : Memory UInt8} {s : Option Bmc} {log : List (UInt16 × Entry)}

/-- An entry is refused before it is sent, unless it is an OEM entry with a time stamp. -/
theorem ipmiSelAddRecordEntry_cases (stack : Memory UInt8) (recordType : UInt8)
    (manufacturerId : Option (Fin 3 → UInt8)) (data : Option (Fin 6 → UInt8)) :
    ipmiSelAddRecordEntry stack recordType manufacturerId data = pure (.error .invalidParameter) ∨
      ∃ entry, (ProtocolCall.addRecordEntry recordType manufacturerId data).entry = some entry ∧
        entry.OemTimestamped ∧ ipmiSelAddRecordEntry stack recordType manufacturerId data =
          ipmiAddSelEntry stack entry.bytes := by
  cases manufacturerId with
  | none => exact .inl rfl
  | some manufacturerId =>
    cases data with
    | none => exact .inl rfl
    | some data =>
      by_cases hout : recordType < selOemTimeStampRecordStart ∨
          recordType > selOemTimeStampRecordEnd
      · left
        rw [ipmiSelAddRecordEntry, selAddOemEntryEx, if_pos hout]
      · right
        have hvalid : (Entry.oem recordType manufacturerId data).Valid :=
          (not_or.1 hout).imp UInt8.not_lt.1 UInt8.not_lt.1
        refine ⟨_, rfl, ⟨hvalid, recordType, manufacturerId, data, rfl⟩, ?_⟩
        rw [ipmiSelAddRecordEntry, selAddOemEntryEx, if_neg hout]
        rfl

/-- Whatever a call is answered, it sends what is permitted. -/
theorem satisfies_run (call : ProtocolCall) :
    (call.run stack).Satisfies False fun tr _ => ∀ event ∈ tr, Permitted event.1 := by
  cases call with
  | getRecordEntry recordId record =>
    exact fun reply => List.forall_mem_singleton.2 ⟨rfl, .inl rfl⟩
  | addRecordEntry recordType manufacturerId data =>
    rw [ProtocolCall.run]
    obtain hrefused | ⟨entry, -, hoem, hsent⟩ :=
      ipmiSelAddRecordEntry_cases stack recordType manufacturerId data
    · rw [hrefused]
      exact List.forall_mem_nil _
    · rw [hsent]
      exact fun reply => List.forall_mem_singleton.2 ⟨rfl, .inr ⟨rfl, entry, hoem, rfl⟩⟩

/-! ### Calls over the mock BMC -/

/-- One call more: what it has added comes behind the log, and what has been in it stays. -/
theorem Served.concat {calls : List (ProtocolCall × Returned)} {p : ProtocolCall × Returned}
    {s' : Option Bmc} (h : Served log s calls) (hholds : Holds s' (log ++ added calls ++ addedBy p))
    (hoem : ∀ b ∈ addedBy p, b.2.OemTimestamped)
    (hshown : ∀ recordId record record' next,
      (.getRecordEntry recordId record, .record (.ok (record', next))) = p →
        ∃ b ∈ log ++ added calls, b.1 = recordId ∧ Shows b record') :
    Served log s' (calls ++ [p]) := by
  have hlog : log ++ added (calls ++ [p]) = log ++ added calls ++ addedBy p := by
    rw [added_concat, List.append_assoc]
  refine ⟨hlog ▸ hholds, ?_, fun recordId record record' next hmem => ?_⟩
  · rw [added_concat]
    exact List.forall_mem_append.2 ⟨h.oemTimestamped, hoem⟩
  · have hold : ∃ b ∈ log ++ added calls, b.1 = recordId ∧ Shows b record' := by
      rcases List.mem_append.1 hmem with hbefore | hlast
      · exact h.shows recordId record record' next hbefore
      · exact hshown recordId record record' next (List.mem_singleton.1 hlast)
    obtain ⟨b, hb, hshows⟩ := hold
    refine ⟨b, ?_, hshows⟩
    rw [hlog]
    exact List.mem_append_left _ hb

/-- One call more that has added nothing and shown nothing. -/
theorem Served.concat_error {calls : List (ProtocolCall × Returned)} {call : ProtocolCall}
    {status : EfiStatus} {s' : Option Bmc} (h : Served log s calls)
    (hholds : Holds s' (log ++ added calls)) :
    Served log s' (calls ++ [(call, .recordId (.error status))]) := by
  refine h.concat ?_ (List.forall_mem_nil _) fun _ _ _ _ heq => ?_
  · exact (List.append_nil (log ++ added calls)).symm ▸ hholds
  · cases heq

/-- A call is served. -/
theorem Served.ends_run {calls : List (ProtocolCall × Returned)} (h : Served log s calls)
    (call : ProtocolCall) : (call.run stack).Ends mockBaseLib s fun returned s' =>
      Served log s' (calls ++ [(call, returned)]) := by
  cases call with
  | getRecordEntry recordId record =>
    rw [ProtocolCall.run, ends_map]
    refine (ends_selGetEntry_shows stack h.holds recordId record).mono ?_
    rintro x s' ⟨hholds, hshown⟩
    refine h.concat ?_ (List.forall_mem_nil _) fun _ _ record' next heq => ?_
    · exact (List.append_nil (log ++ added calls)).symm ▸ hholds
    · cases heq
      exact hshown record' next rfl
  | addRecordEntry recordType manufacturerId data =>
    rw [ProtocolCall.run, ends_map]
    obtain hrefused | ⟨entry, hentry, hoem, hsent⟩ :=
      ipmiSelAddRecordEntry_cases stack recordType manufacturerId data
    · rw [hrefused]
      exact h.concat_error h.holds
    · rw [hsent]
      refine (ends_ipmiAddSelEntry stack h.holds hoem.1).mono fun x s' hx => ?_
      split_ifs at hx
      · obtain ⟨id, rfl, hholds⟩ := hx
        have hadded : addedBy (.addRecordEntry recordType manufacturerId data, .recordId (.ok id)) =
            [(id, entry)] := by
          rw [addedBy, hentry]
          rfl
        refine h.concat ?_ ?_ fun _ _ _ _ heq => ?_
        · rw [hadded]
          exact hholds
        · rw [hadded]
          exact List.forall_mem_singleton.2 hoem
        · cases heq
      · obtain ⟨rfl, hholds, -⟩ := hx
        exact h.concat_error hholds

/-- **A boot loader can only add to the log.**  Any calls through the protocol, in any order: against
any BMC each of them returns, and only reads the log or adds OEM records to it.  Over the mock BMC
with any log the log is still there, with the accepted entries behind it; all of that is read back. -/
theorem protocolCalls_appendOnly (stack : Memory UInt8) (fuel : ℕ) (calls : List ProtocolCall)
    (h : Holds s log) :
    ((calls.mapM (ProtocolCall.run stack)).Satisfies False fun tr _ =>
        ∀ event ∈ tr, Permitted event.1) ∧
      (calls.mapM (ProtocolCall.run stack)).Ends mockBaseLib s fun returned s' =>
        returned.length = calls.length ∧ Served log s' (calls.zip returned) ∧
          ReadsBack stack fuel s' (log ++ added (calls.zip returned)) := by
  refine ⟨satisfies_mapM_forall_event satisfies_run calls, ?_⟩
  have hstart : Served log s [] :=
    ⟨(List.append_nil log).symm ▸ h, List.forall_mem_nil _, fun _ _ _ _ hmem => absurd hmem
      List.not_mem_nil⟩
  have hstep : ∀ (call : ProtocolCall) s history, Served log s history →
      (call.run stack).Ends mockBaseLib s fun returned s' =>
        Served log s' (history.concat (call, returned)) := by
    intro call s history hserved
    refine (hserved.ends_run call).mono fun returned s' hserved' => ?_
    rwa [List.concat_eq_append]
  refine (ends_mapM_of_history hstep calls hstart).mono ?_
  rintro returned s' ⟨hlength, hserved⟩
  have hall : (calls.zip returned).foldl List.concat [] = calls.zip returned := by
    rw [List.foldl_ext List.concat (fun history p => history ++ [p]) [] fun _ _ _ =>
        List.concat_eq_append, List.foldl_append_eq_append, List.nil_append, ← List.flatMap_def,
      List.flatMap_singleton']
  rw [hall] at hserved
  exact ⟨hlength, hserved, hserved.holds.readsBack⟩

/-- An OEM entry is added, a system entry is not, and the first one is read. -/
def threeCalls : List ProtocolCall :=
  [.addRecordEntry selOemTimeStampRecordStart (some fun _ => 1) (some fun _ => 2),
    .addRecordEntry selSystemRecord (some fun _ => 1) (some fun _ => 2),
    .getRecordEntry 0 fun _ => 0]

theorem protocolCalls_appendOnly_threeCalls :
    ((threeCalls.mapM (ProtocolCall.run fun _ => 0)).Satisfies False fun tr _ =>
        ∀ event ∈ tr, Permitted event.1) ∧
      (threeCalls.mapM (ProtocolCall.run fun _ => 0)).Ends mockBaseLib (some initialBmc)
        fun returned s' => returned.length = threeCalls.length ∧
          Served [] s' (threeCalls.zip returned) ∧
          ReadsBack (fun _ => 0) 2 s' ([] ++ added (threeCalls.zip returned)) :=
  protocolCalls_appendOnly (fun _ => 0) 2 threeCalls (holds_nil idle_initialBmc rfl)

end Sel

end IpmiFeature
