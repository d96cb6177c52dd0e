import IpmiFeature.CommandLib.Delivery
import IpmiFeature.Interaction.Words

/-!
# The system UUID

`IpmiGetSystemUuid`, whatever `IpmiSubmitCommand` is answered with.  The bytes of a GUID come least
significant byte first, in the reverse of the order of RFC 4122 (`EfiGuid.rfc4122`).

* `rfc4122_converted` : what a reply is converted to.  The fields and the bytes of the three
  integers are reversed, the bytes of `Data4` are not.
* `ipmiGetSystemUuid_converts_iff` : so the conversion is right exactly for a full reply whose
  first eight bytes read the same in both directions.
-/

namespace IpmiFeature

open Interaction Prog BaseLib

namespace CommandLib

/-! ### GUIDs -/

/-- `EFI_GUID`. -/
structure EfiGuid where
  data1 : UInt32
  data2 : UInt16
  data3 : UInt16
  data4 : Fin 8 → UInt8

/-- The GUID that a pointer points to. -/
def EfiGuid.ofMemory (m : Memory UInt8) : EfiGuid :=
  ⟨wordOf m 0, shortOf m 4, shortOf m 6, fun i => m (8 + i)⟩

/-- The bytes of a GUID in the order of RFC 4122: the integers have their most significant byte
first. -/
def EfiGuid.rfc4122 (guid : EfiGuid) : List UInt8 :=
  ((byteOf guid.data1).slice 0 4).reverse ++ ((byteOfShort guid.data2).slice 0 2).reverse ++
    ((byteOfShort guid.data3).slice 0 2).reverse ++ List.ofFn guid.data4

/-- From memory. -/
theorem rfc4122_ofMemory (m : Memory UInt8) :
    (EfiGuid.ofMemory m).rfc4122 = (m.slice 0 4).reverse ++ (m.slice 4 2).reverse ++
      (m.slice 6 2).reverse ++ m.slice 8 8 := by
  have hdata4 : List.ofFn (fun i : Fin 8 => m (8 + i)) = m.slice 8 8 := rfl
  simp only [EfiGuid.rfc4122, EfiGuid.ofMemory, slice_byteOf_wordOf, slice_byteOfShort_shortOf,
    hdata4]

/-- A GUID that is stored field by field. -/
theorem rfc4122_store (m : Memory UInt8) {data1 data2 data3 data4 : List UInt8}
    (h1 : data1.length = 4) (h2 : data2.length = 2) (h3 : data3.length = 2) (h4 : data4.length = 8) :
    (EfiGuid.ofMemory (m.store 0 (data1 ++ data2 ++ data3 ++ data4))).rfc4122 =
      data1.reverse ++ data2.reverse ++ data3.reverse ++ data4 := by
  have hlength : (data1 ++ data2 ++ data3 ++ data4).length = 16 := by simp [h1, h2, h3, h4]
  rw [rfc4122_ofMemory, Memory.slice_store_zero (by omega), Memory.slice_store_zero (by omega),
    Memory.slice_store_zero (by omega), Memory.slice_store_zero (by omega)]
  simp [List.drop_append, List.drop_of_length_le, List.take_of_length_le, h1, h2, h3, h4]

/-! ### The conversion -/

/-- A reply with the completion code 0 and the 16 bytes of a GUID. -/
structure FullReply (reply : SubmitReply) (bytes : List UInt8) : Prop where
  data_eq : reply.data = compCodeNormal :: bytes
  length_eq : bytes.length = 16
  /-- The size that is reported. -/
  size_eq : reply.responseDataSize = 17

/-- The GUID that is made of a full reply: the last eight bytes are reversed, the first eight are
not. -/
theorem rfc4122_converted {reply : SubmitReply} {bytes : List UInt8} (hfull : FullReply reply bytes)
    (response stack : Memory UInt8) :
    (EfiGuid.ofMemory (response.store 0 (convertedGuid (stack.store 0 reply.data)))).rfc4122 =
      (bytes.drop 8).reverse ++ bytes.take 8 := by
  have hlength : reply.data.length = 17 := by simp [hfull.data_eq, hfull.length_eq]
  -- the last eight bytes are those of the three integers
  have hlast : bytes.drop 8 = (stack.store 0 reply.data).slice 9 2 ++
      (stack.store 0 reply.data).slice 11 2 ++ (stack.store 0 reply.data).slice 13 4 := by
    rw [Memory.slice_append 9 2 2, Memory.slice_append 9 4 4, Memory.slice_store_zero (by omega),
      hfull.data_eq, List.drop_succ_cons, List.take_of_length_le (by simp [hfull.length_eq])]
  have hfirst : bytes.take 8 = (stack.store 0 reply.data).slice 1 8 := by
    rw [Memory.slice_store_zero (by omega), hfull.data_eq, List.drop_succ_cons, List.drop_zero]
  rw [convertedGuid, rfc4122_store response (Memory.length_slice _ _) (Memory.length_slice _ _)
    (Memory.length_slice _ _) (Memory.length_slice _ _), hlast, hfirst]
  simp

/-- The reverse of the bytes, and what the conversion makes of them. -/
theorem converted_eq_reverse_iff (bytes : List UInt8) :
    (bytes.drop 8).reverse ++ bytes.take 8 = bytes.reverse ↔
      (bytes.take 8).reverse = bytes.take 8 := by
  have hsplit : bytes.reverse = (bytes.drop 8).reverse ++ (bytes.take 8).reverse := by
    rw [← List.reverse_append, List.take_append_drop]
  rw [hsplit, List.append_cancel_left_eq, eq_comm]

/-- The command "Get System GUID", with room for a full reply. -/
def getSystemGuidCall : SubmitCall := ⟨netfnApp, appGetSystemGuid, [], 17⟩

/-- What `IpmiGetSystemUuid` should do. -/
structure Converts (c : Caller) (tr : List (Event SubmitCall SubmitCall.Answer))
    (x : EfiStatus × Caller) : Prop where
  /-- If it reports success, it has got a full reply to its command, and `*SystemGuid` is the GUID
  with the bytes in the reverse order. -/
  converted : x.1 = .success → ∃ reply bytes, tr = [⟨getSystemGuidCall, reply⟩] ∧
    FullReply reply bytes ∧ (EfiGuid.ofMemory x.2.response).rfc4122 = bytes.reverse
  /-- Otherwise `*SystemGuid` is as before. -/
  unchanged : x.1 ≠ .success → x.2.response = c.response

variable {c : Caller}

/-- One command, with a response buffer of zeros. -/
theorem ipmiGetSystemUuid_eq (sizes : MdeSizes) (hnull : c.hasNull = false) :
    ipmiGetSystemUuid submitBuffered sizes c =
      submitBuffered ⟨getSystemGuidCall, Memory.store c.stack 0 (List.replicate 17 0)⟩ >>=
        fun result => pure (Wrapper.answered .getSystemUuid sizes c result) := by
  obtain ⟨hasNull, request, requestSize, response, responseSize, parameter, stack⟩ := c
  obtain rfl : hasNull = false := hnull
  unfold getSystemGuidCall
  rw [← sizes.size_guid]
  exact Wrapper.run_eq (w := .getSystemUuid) submitBuffered

/-- The run with one reply. -/
theorem converts_iff_of_reply (sizes : MdeSizes) (hnull : c.hasNull = false) {reply : SubmitReply}
    {result : SubmitResult} {buffer : Memory UInt8} (hstatus : result.status = reply.status)
    (hbuffer : result.buffer = buffer.store 0 reply.data) :
    Converts c [⟨getSystemGuidCall, reply⟩] (Wrapper.answered .getSystemUuid sizes c result) ↔
      (reply.status = .success →
        ∃ bytes, FullReply reply bytes ∧ (bytes.take 8).reverse = bytes.take 8) := by
  rw [answered_getSystemUuid hnull, hstatus, hbuffer]
  by_cases hsuccess : reply.status = .success
  · have hguid := fun bytes (hfull : FullReply reply bytes) =>
      rfc4122_converted hfull c.response buffer
    rw [if_neg fun herror => EfiStatus.isError_iff.1 herror hsuccess, imp_iff_right hsuccess]
    constructor
    · intro hconverts
      obtain ⟨reply', bytes, heq, hfull, hrfc⟩ := hconverts.converted hsuccess
      obtain ⟨⟨⟩, -⟩ := List.cons.inj heq
      have hsame := (hguid bytes hfull).symm.trans hrfc
      exact ⟨bytes, hfull, (converted_eq_reverse_iff bytes).1 hsame⟩
    · rintro ⟨bytes, hfull, hsame⟩
      have hrfc := (hguid bytes hfull).trans ((converted_eq_reverse_iff bytes).2 hsame)
      exact ⟨fun _ => ⟨reply, bytes, rfl, hfull, hrfc⟩, fun hne => absurd hsuccess hne⟩
  · rw [if_pos (EfiStatus.isError_iff.2 hsuccess)]
    exact iff_of_true ⟨fun h => absurd h hsuccess, fun _ => rfl⟩ fun h => absurd h hsuccess

/-- **When the UUID is converted.**  Whatever `IpmiSubmitCommand` is answered with, the wrapper does
what it should exactly if a reply that is reported as a success is a full one, and its first eight
bytes read the same in both directions. -/
theorem ipmiGetSystemUuid_converts_iff (sizes : MdeSizes) (c : Caller) :
    (ipmiGetSystemUuid submitBuffered sizes c).Satisfies False fun tr x =>
      Converts c tr x ↔ ∀ event ∈ tr, event.2.status = .success →
        ∃ bytes, FullReply event.2 bytes ∧ (bytes.take 8).reverse = bytes.take 8 := by
  cases hnull : c.hasNull with
  | true =>
    rw [ipmiGetSystemUuid, if_pos hnull]
    exact iff_of_true ⟨fun h => EfiStatus.noConfusion h, fun _ => rfl⟩ (by simp)
  | false =>
    rw [ipmiGetSystemUuid_eq sizes hnull]
    intro reply
    refine (converts_iff_of_reply sizes hnull rfl rfl).trans ?_
    rw [List.forall_mem_singleton]

/-- A full reply with 16 different bytes. -/
def differentBytes : SubmitReply :=
  ⟨.success, compCodeNormal :: [1, 2, 3, 4, 5, 6, 7, 8, 9, 10, 11, 12, 13, 14, 15, 16], 17⟩

/-- Its first eight bytes are not reversed. -/
theorem ipmiGetSystemUuid_not_converts :
    ¬ (ipmiGetSystemUuid submitBuffered specSizes zeroCaller).Satisfies False fun tr x =>
      Converts zeroCaller tr x := by
  intro h
  rw [ipmiGetSystemUuid_eq specSizes rfl] at h
  obtain ⟨bytes, hfull, hsame⟩ :=
    (converts_iff_of_reply specSizes rfl rfl rfl).1 (h differentBytes) rfl
  obtain rfl := (List.cons.inj hfull.data_eq).2
  exact absurd hsame (by decide)

end CommandLib

end IpmiFeature
