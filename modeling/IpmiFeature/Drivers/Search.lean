import IpmiFeature.Drivers.Shadow
import IpmiFeature.Interaction.Run

/-!
# What the PEIM touches in its shadow

The search for the allocation, for any HOB list.

* `searchIteration_ends` : one iteration goes on behind a HOB without the signature, or ends the
  search; `peimIpmiInterfaceInitShadowed_ends` is the whole run.
* `touchesOnlyOwn_iff` : nothing but the allocation is touched exactly if the first memory pool HOB
  with the signature is as large as the allocation.
-/

namespace IpmiFeature

open Interaction Prog Generic

namespace Drivers

/-! ### What a run shows -/

/-- What the PEIM does to the memory, by address. -/
inductive Access where
  /-- Eight bytes are written. -/
  | store (address : ℕ)
  /-- The PPI is reinstalled from a descriptor. -/
  | reInstall (newPpi : ℕ)
  deriving DecidableEq, Repr

/-- The access that an event is. -/
def accessOf : ShadowEvent → Option Access
  | ⟨.store64 address _, _⟩ => some (.store address)
  | ⟨.reInstallPpi _ newPpi, _⟩ => some (.reInstall newPpi)
  | _ => none

/-- The accesses of a run. -/
def accesses (tr : List ShadowEvent) : List Access := tr.filterMap accessOf

/-- The HOB that an event visits. -/
def visitedOf : ShadowEvent → Option ℕ
  | ⟨.getNextHob _ _, hob⟩ => hob
  | _ => none

/-- The HOBs that a run visits. -/
def visited (tr : List ShadowEvent) : List ℕ := tr.filterMap visitedOf

@[simp] theorem accesses_append (tr tr' : List ShadowEvent) :
    accesses (tr ++ tr') = accesses tr ++ accesses tr' := List.filterMap_append

@[simp] theorem visited_append (tr tr' : List ShadowEvent) :
    visited (tr ++ tr') = visited tr ++ visited tr' := List.filterMap_append

@[simp] theorem visited_getNextHob (type : UInt16) (hobStart : ℕ) (hob : Option ℕ) :
    visited [⟨.getNextHob type hobStart, hob⟩] = hob.toList := by
  cases hob <;> rfl

@[simp] theorem accesses_getNextHob (type : UInt16) (hobStart : ℕ) (hob : Option ℕ) :
    accesses [⟨.getNextHob type hobStart, hob⟩] = [] := rfl

@[simp] theorem visited_load16 (address : ℕ) (value : UInt16) :
    visited [⟨.load16 address, value⟩] = [] := rfl

@[simp] theorem accesses_load16 (address : ℕ) (value : UInt16) :
    accesses [⟨.load16 address, value⟩] = [] := rfl

/-! ### HOBs -/

/-- A memory pool HOB whose data area begins with the signature. -/
def Hob.Signed (hob : Hob) : Prop :=
  hob.hobType = hobTypeMemoryPool ∧ hob.data.take 8 = (byteOfLong smIpmiBmcSignature).slice 0 8

instance : DecidablePred Hob.Signed := fun _ => inferInstanceAs (Decidable (_ ∧ _))

/-- A HOB that can be the allocation. -/
structure Hob.IsAllocation (hob : Hob) : Prop where
  signed : hob.Signed
  length_le : sizeofAllocation ≤ hob.data.length

theorem Hob.size_pos (hob : Hob) : 0 < hob.size := Nat.lt_of_lt_of_le (by decide) (Nat.le_add_right _ _)

theorem Hob.toNat_hobLength (hob : Hob) : hob.hobLength.toNat = hob.size :=
  UInt16.toNat_ofNat_of_lt' hob.length_lt

/-- There is room for the signature. -/
theorem Hob.sizeofUintn_le_iff (hob : Hob) :
    hob.hobLength.toUInt64 - sizeofHobMemoryPool ≥ sizeofUintn ↔ 8 ≤ hob.data.length := by
  have hlength : hob.hobLength.toUInt64.toNat = 8 + hob.data.length := hob.toNat_hobLength
  have hle : sizeofHobMemoryPool ≤ hob.hobLength.toUInt64 := by
    rw [UInt64.le_iff_toNat_le, hlength]
    exact Nat.le_add_right _ _
  have hdata : (hob.hobLength.toUInt64 - sizeofHobMemoryPool).toNat = hob.data.length := by
    rw [UInt64.toNat_sub_of_le _ _ hle, hlength]
    exact Nat.add_sub_cancel_left _ _
  rw [ge_iff_le, UInt64.le_iff_toNat_le, hdata]
  rfl

section

variable {list : HobList} {x : ℕ × Hob}

/-- A part of a HOB, in memory. -/
theorem HobList.slice_eq (hx : x ∈ list.layout) {k n : ℕ} (h : k + n ≤ x.2.size) :
    list.memory.slice (x.1 + k) n = (x.2.bytes.drop k).take n := by
  rw [Memory.slice_add h, list.holds x hx]

theorem HobList.shortOf_hobLength (hx : x ∈ list.layout) :
    shortOf list.memory (x.1 + offsetHobLength) = x.2.hobLength := by
  have hsize : offsetHobLength + 2 ≤ x.2.size := Nat.le_trans (by decide) (Nat.le_add_right 8 _)
  rw [shortOf_eq_iff, list.slice_eq hx hsize]
  simp [Hob.bytes, offsetHobLength]

/-- The data area, in memory. -/
theorem HobList.slice_data (hx : x ∈ list.layout) {n : ℕ} (h : n ≤ x.2.data.length) :
    list.memory.slice (instanceOf x.1) n = x.2.data.take n := by
  rw [instanceOf, list.slice_eq hx (Nat.add_le_add_left h _)]
  have hheader : x.2.bytes.drop 8 = x.2.data := by
    simp [Hob.bytes, List.drop_append, List.drop_of_length_le]
  exact congrArg (List.take n) hheader

theorem HobList.longOf_signature (hx : x ∈ list.layout) (hroom : 8 ≤ x.2.data.length) :
    longOf list.memory (instanceOf x.1) = smIpmiBmcSignature ↔
      x.2.data.take 8 = (byteOfLong smIpmiBmcSignature).slice 0 8 := by
  rw [longOf_eq_iff, list.slice_data hx hroom]

/-- Without room there is no signature. -/
theorem Hob.Signed.room {hob : Hob} (h : hob.Signed) : 8 ≤ hob.data.length := by
  have hlength := congrArg List.length h.2
  rw [List.length_take, Memory.length_slice] at hlength
  omega

end

/-! ### One HOB -/

section

variable {pei : PeiServices} {list : HobList} {image : Image} {oldPpi : ℕ} {x : ℕ × Hob}
  {tr : List ShadowEvent} {m : Memory UInt8}

/-- The HOB is looked at, and nothing is changed. -/
theorem ends_holdsInstance (hx : x ∈ list.layout) (htype : x.2.hobType = hobTypeMemoryPool) :
    (holdsInstance x.1).Ends (pei.handler list).recording (list.memory, tr) fun found s =>
      (found = true ↔ x.2.Signed) ∧ s.1 = list.memory ∧ accesses s.2 = accesses tr ∧
        visited s.2 = visited tr := by
  change Ends _ (if (shortOf list.memory (x.1 + offsetHobLength)).toUInt64 - sizeofHobMemoryPool ≥
    sizeofUintn then _ else _) _ _
  rw [list.shortOf_hobLength hx]
  split_ifs with hroom
  · rw [x.2.sizeofUintn_le_iff] at hroom
    refine ⟨?_, rfl, by simp [accesses, accessOf, Handler.recording],
      by simp [visited, visitedOf, Handler.recording]⟩
    refine beq_iff_eq.trans ((list.longOf_signature hx hroom).trans ?_)
    rw [Hob.Signed, and_iff_right htype]
  · rw [x.2.sizeofUintn_le_iff] at hroom
    refine ⟨?_, rfl, by simp [accesses, accessOf, Handler.recording],
      by simp [visited, visitedOf, Handler.recording]⟩
    exact iff_of_false Bool.false_ne_true fun hsigned => hroom hsigned.room

/-- The memory after the pointers have been updated. -/
def updated (image : Image) (hob : ℕ) (m : Memory UInt8) : Memory UInt8 :=
  ((m.store (instanceOf hob + offsetIpmiSubmitCommand)
    ((byteOfLong image.ipmiSendCommand).slice 0 8)).store (instanceOf hob + offsetGetBmcStatus)
    ((byteOfLong image.ipmiGetBmcStatus).slice 0 8)).store
      (instanceOf hob + sizeofInstance + offsetPpi)
      ((byteOfLong (UInt64.ofNat (instanceOf hob + offsetIpmiTransport))).slice 0 8)

/-- The accesses with which they are updated. -/
def updates (hob : ℕ) : List Access :=
  [.store (instanceOf hob + offsetIpmiSubmitCommand), .store (instanceOf hob + offsetGetBmcStatus),
    .store (instanceOf hob + sizeofInstance + offsetPpi), .reInstall (instanceOf hob + sizeofInstance)]

theorem ends_updateInstance (hob : ℕ) :
    (updateInstance image oldPpi (instanceOf hob)).Ends (pei.handler list).recording (m, tr)
      fun _ s => s.1 = updated image hob m ∧ accesses s.2 = accesses tr ++ updates hob ∧
        visited s.2 = visited tr :=
  ⟨rfl, by simp [accesses, accessOf, updates, Handler.recording],
    by simp [visited, visitedOf, Handler.recording]⟩

end

/-! ### The search -/

section

variable {pei : PeiServices} {list : HobList} {image : Image} {oldPpi start : ℕ}
  {s : Memory UInt8 × List ShadowEvent}

/-- The allocation that the search finds. -/
def HobList.found (list : HobList) : Option (ℕ × Hob) :=
  next Hob.size Hob.Signed list.start list.start list.hobs

/-- Nothing has been found before an address. -/
structure Searching (list : HobList) (start : ℕ) (s : Memory UInt8 × List ShadowEvent) : Prop where
  memory_eq : s.1 = list.memory
  accesses_eq : accesses s.2 = []
  increasing : (visited s.2).Pairwise (· < ·)
  visited_lt : ∀ hob ∈ visited s.2, hob < start
  passed : ∀ x ∈ list.layout, x.1 < start → ¬ x.2.Signed

/-- The search has ended, and what it has found has been updated. -/
structure Searched (image : Image) (list : HobList) (found : Option (ℕ × Hob))
    (s : Memory UInt8 × List ShadowEvent) : Prop where
  increasing : (visited s.2).Pairwise (· < ·)
  accesses_eq : accesses s.2 = found.elim [] fun x => updates x.1
  memory_eq : s.1 = found.elim list.memory fun x => updated image x.1 list.memory

/-- The memory pool HOB that `GetNextHob` returns. -/
abbrev HobList.nextPool (list : HobList) (start : ℕ) : Option (ℕ × Hob) :=
  next Hob.size (fun hob => hob.hobType = hobTypeMemoryPool) start list.start list.hobs

theorem Searching.visited_concat (h : Searching list start s) {x : ℕ × Hob} (hstart : start ≤ x.1) :
    (visited s.2 ++ [x.1]).Pairwise (· < ·) := by
  refine List.pairwise_append.2 ⟨h.increasing, List.pairwise_singleton _ _, fun hob hhob y hy => ?_⟩
  rw [List.mem_singleton.1 hy]
  exact Nat.lt_of_lt_of_le (h.visited_lt hob hhob) hstart

/-- A HOB before the next memory pool HOB is not signed. -/
theorem Searching.not_signed (h : Searching list start s) {x : ℕ × Hob}
    (hnext : list.nextPool start = some x) {y : ℕ × Hob} (hy : y ∈ list.layout) (hlt : y.1 < x.1) :
    ¬ y.2.Signed := by
  by_cases hpassed : y.1 < start
  · exact h.passed y hy hpassed
  · exact fun hsigned => not_of_next_eq_some hnext hy (Nat.not_lt.1 hpassed) hlt hsigned.1

theorem Searching.found_eq_none (h : Searching list start s) (hnext : list.nextPool start = none) :
    list.found = none := by
  refine next_eq_none_iff.2 fun x hx _ hsigned => ?_
  by_cases hpassed : x.1 < start
  · exact h.passed x hx hpassed hsigned
  · exact next_eq_none_iff.1 hnext x hx (Nat.not_lt.1 hpassed) hsigned.1

theorem Searching.found_eq_some (h : Searching list start s) {x : ℕ × Hob}
    (hnext : list.nextPool start = some x) (hsigned : x.2.Signed) : list.found = some x := by
  have hx := (mem_of_next_eq_some hnext).1
  exact next_eq_some Hob.size_pos hx (le_of_mem_placed hx) hsigned
    fun y hy _ hlt => h.not_signed hnext hy hlt

/-- The search goes on behind a HOB that is not signed. -/
theorem Searching.goesOn (h : Searching list start s) {x : ℕ × Hob}
    (hnext : list.nextPool start = some x) (hsigned : ¬ x.2.Signed)
    {s' : Memory UInt8 × List ShadowEvent} (hmemory : s'.1 = list.memory)
    (haccesses : accesses s'.2 = accesses s.2) (hvisited : visited s'.2 = visited s.2 ++ [x.1]) :
    Searching list (x.1 + x.2.size) s' := by
  obtain ⟨hx, hstart, -⟩ := mem_of_next_eq_some hnext
  have hpos := x.2.size_pos
  refine ⟨hmemory, haccesses.trans h.accesses_eq, ?_, ?_, fun y hy hlt => ?_⟩
  · rw [hvisited]
    exact h.visited_concat hstart
  · rw [hvisited]
    refine List.forall_mem_append.2 ⟨fun hob hhob => ?_, by simpa using hpos⟩
    have hob_lt := h.visited_lt hob hhob
    omega
  · rcases Nat.lt_or_ge y.1 x.1 with hbefore | hbehind
    · exact h.not_signed hnext hy hbefore
    · -- no other HOB begins inside this one
      have heq : y = x := by
        by_contra hne
        have hpos' := y.2.size_pos
        rcases disjoint_of_mem_placed hy hx hne with hle | hle <;> omega
      rwa [heq]

/-- One iteration. -/
theorem searchIteration_ends (h : Searching list start s) :
    (searchIteration image oldPpi start).Ends (pei.handler list).recording s fun i s' =>
      match i with
      | .again start' => Searching list start' s' ∧
          list.endOfHobList - start' < list.endOfHobList - start
      | .done status => status = .success ∧ Searched image list list.found s' := by
  obtain ⟨m, tr⟩ := s
  obtain rfl : m = list.memory := h.memory_eq
  have hanswer : (pei.handler list).recording (.getNextHob hobTypeMemoryPool start)
      (list.memory, tr) = ((list.nextPool start).map Prod.fst, list.memory, tr ++
        [⟨.getNextHob hobTypeMemoryPool start, (list.nextPool start).map Prod.fst⟩]) := rfl
  rw [searchIteration, ends_perform_bind, hanswer]
  cases hnext : list.nextPool start with
  | none =>
    have hfound := h.found_eq_none hnext
    refine ⟨rfl, ?_, ?_, by rw [hfound]; rfl⟩
    · simpa using h.increasing
    · simpa [hfound] using h.accesses_eq
  | some x =>
    obtain ⟨hx, hstart, htype⟩ := mem_of_next_eq_some hnext
    refine ends_bind.2 ((ends_holdsInstance hx htype).mono ?_)
    rintro found ⟨m, tr'⟩ ⟨hsigned, rfl, haccesses, hvisited⟩
    simp only [accesses_append, accesses_getNextHob, List.append_nil] at haccesses
    simp only [visited_append, visited_getNextHob, Option.map_some, Option.toList_some] at hvisited
    cases found with
    | true =>
      have hfound := h.found_eq_some hnext (hsigned.1 rfl)
      refine ends_bind.2 ((ends_updateInstance x.1).mono ?_)
      rintro _ ⟨m, tr''⟩ ⟨hmemory, haccesses', hvisited'⟩
      rw [haccesses, h.accesses_eq, List.nil_append] at haccesses'
      refine ⟨rfl, ?_, by rw [haccesses', hfound]; rfl, by rw [hmemory, hfound]; rfl⟩
      rw [hvisited', hvisited]
      exact h.visited_concat hstart
    | false =>
      have hnot : ¬ x.2.Signed := fun h => Bool.false_ne_true (hsigned.2 h)
      have hlength : (shortOf list.memory (x.1 + offsetHobLength)).toNat = x.2.size := by
        rw [list.shortOf_hobLength hx, x.2.toNat_hobLength]
      have hend : x.1 + x.2.size ≤ list.endOfHobList := le_placedEnd_of_mem hx
      have hpos := x.2.size_pos
      change Searching list (x.1 + (shortOf list.memory (x.1 + offsetHobLength)).toNat) _ ∧
        _ - (x.1 + (shortOf list.memory (x.1 + offsetHobLength)).toNat) < _
      rw [hlength]
      refine ⟨h.goesOn hnext hnot rfl ?_ ?_, by omega⟩
      · simpa [Handler.recording] using haccesses
      · simpa [Handler.recording] using hvisited

/-- What the PEIM finds, if it has located the PPI. -/
def PeiServices.found (pei : PeiServices) (list : HobList) : Option (ℕ × Hob) :=
  if pei.locatePpi.1.isError then none else list.found

variable (image pei) in
/-- The whole run. -/
theorem peimIpmiInterfaceInitShadowed_ends {fuel : ℕ} (hfuel : list.endOfHobList - list.start < fuel) :
    (peimIpmiInterfaceInitShadowed image fuel).Ends (pei.handler list).recording (list.memory, [])
      fun status s => status = .success ∧ Searched image list (pei.found list) s := by
  rw [peimIpmiInterfaceInitShadowed, ends_perform_bind, PeiServices.found]
  change Ends _ (if pei.locatePpi.1.isError then _ else _) _ _
  split_ifs with hlocate
  · exact ⟨rfl, .nil, rfl, rfl⟩
  · rw [ends_perform_bind]
    refine ends_loop (I := Searching list)
      (fun start _ => list.endOfHobList - start)
      (fun start s h => (searchIteration_ends h).mono fun i s' hi => ?_) fuel list.start _
      ⟨rfl, rfl, .nil, ?_, ?_⟩ ?_
    · cases i <;> exact hi
    · exact fun hob hhob => absurd hhob List.not_mem_nil
    · exact fun x hx hlt => absurd (le_of_mem_placed hx) (Nat.not_le.2 hlt)
    · exact hfuel

end

/-! ### The allocation and the rest -/

section

variable {pei : PeiServices} {list : HobList} {image : Image} {found : Option (ℕ × Hob)}
  {s : Memory UInt8 × List ShadowEvent} {m : Memory UInt8}

/-- The access stays inside an allocation. -/
def Access.Within (ipmiInstance : ℕ) : Access → Prop
  | .store address => ipmiInstance ≤ address ∧ address + 8 ≤ ipmiInstance + sizeofAllocation
  | .reInstall newPpi => newPpi = ipmiInstance + sizeofInstance

theorem within_of_mem_updates {hob : ℕ} {access : Access} (h : access ∈ updates hob) :
    access.Within (instanceOf hob) := by
  simp only [updates, List.mem_cons, List.not_mem_nil, or_false] at h
  rcases h with rfl | rfl | rfl | rfl <;>
    simp [Access.Within, sizeofAllocation, sizeofInstance, sizeofPpiDescriptor, offsetPpi,
      offsetIpmiSubmitCommand, offsetGetBmcStatus, Nat.add_assoc]

/-- Nothing is written outside. -/
theorem updated_of_outside (image : Image) (m : Memory UInt8) {hob i : ℕ}
    (h : i < instanceOf hob ∨ instanceOf hob + sizeofAllocation ≤ i) :
    updated image hob m i = m i := by
  have hbytes : ∀ value : UInt64, ((byteOfLong value).slice 0 8).length = 8 := by simp
  have hstore : ∀ (m : Memory UInt8) (k : ℕ) (value : UInt64), k + 8 ≤ sizeofAllocation →
      m.store (instanceOf hob + k) ((byteOfLong value).slice 0 8) i = m i := by
    intro m k value hk
    rcases h with hlt | hle
    · exact Memory.store_of_lt (by omega)
    · exact Memory.store_of_le (by rw [hbytes]; omega)
  rw [updated, Nat.add_assoc _ sizeofInstance, hstore _ _ _ (by decide), hstore _ _ _ (by decide),
    hstore _ _ _ (by decide)]

/-- The PEIM touches nothing but an allocation of its own. -/
structure OnlyOwn (list : HobList) (tr : List ShadowEvent) (m : Memory UInt8) : Prop where
  /-- What is written, and what is reinstalled from, is an allocation. -/
  own : ∀ access ∈ accesses tr, ∃ x ∈ list.layout, x.2.IsAllocation ∧
    access.Within (instanceOf x.1)
  /-- Every other HOB is as before. -/
  skipped : ∀ x ∈ list.layout, ¬ x.2.IsAllocation → m.slice x.1 x.2.size = x.2.bytes
  /-- No HOB is visited twice. -/
  once : (visited tr).Nodup

theorem OnlyOwn.of_none (h : Searched image list none s) : OnlyOwn list s.2 s.1 where
  own access haccess := by
    rw [h.accesses_eq] at haccess
    exact absurd haccess List.not_mem_nil
  skipped x hx _ := by
    rw [h.memory_eq]
    exact list.holds x hx
  once := h.increasing.imp Nat.ne_of_lt

theorem OnlyOwn.of_isAllocation {x : ℕ × Hob} (h : Searched image list (some x) s)
    (hx : x ∈ list.layout) (hallocation : x.2.IsAllocation) : OnlyOwn list s.2 s.1 where
  own access haccess := by
    rw [h.accesses_eq] at haccess
    exact ⟨x, hx, hallocation, within_of_mem_updates haccess⟩
  skipped y hy hnot := by
    have hne : y ≠ x := fun heq => hnot (heq ▸ hallocation)
    have hsize : instanceOf x.1 + sizeofAllocation ≤ x.1 + x.2.size := by
      rw [instanceOf, Hob.size, Nat.add_assoc]
      exact Nat.add_le_add_left (Nat.add_le_add_left hallocation.length_le _) _
    have hbegin : x.1 ≤ instanceOf x.1 := Nat.le_add_right _ _
    rw [h.memory_eq, ← list.holds y hy]
    refine Memory.slice_congr fun i hi => updated_of_outside image _ ?_
    rcases disjoint_of_mem_placed hy hx hne with hle | hle <;> omega
  once := h.increasing.imp Nat.ne_of_lt

/-- A PPI that is reinstalled from a HOB that is too small is not that of an allocation. -/
theorem OnlyOwn.isAllocation {x : ℕ × Hob} (h : OnlyOwn list s.2 s.1)
    (hsearched : Searched image list (some x) s) (hx : x ∈ list.layout) : x.2.IsAllocation := by
  have hmem : Access.reInstall (instanceOf x.1 + sizeofInstance) ∈ accesses s.2 := by
    rw [hsearched.accesses_eq]
    simp [updates]
  obtain ⟨y, hy, hallocation, hwithin⟩ := h.own _ hmem
  have heq : x.1 = y.1 := Nat.add_right_cancel (Nat.add_right_cancel hwithin)
  rwa [eq_of_mem_placed hx hy Hob.size_pos heq]

/-- After any run, what has been touched depends on what has been found. -/
theorem Searched.onlyOwn_iff (h : Searched image list (pei.found list) s) :
    OnlyOwn list s.2 s.1 ↔ (¬ pei.locatePpi.1.isError →
      ∀ hob ∈ list.hobs.find? Hob.Signed, sizeofAllocation ≤ hob.data.length) := by
  rw [← map_snd_next list.start list.hobs Hob.Signed]
  by_cases hlocate : pei.locatePpi.1.isError
  · rw [PeiServices.found, if_pos hlocate] at h
    exact iff_of_true (.of_none h) fun hnot => absurd hlocate hnot
  rw [PeiServices.found, if_neg hlocate, HobList.found] at h
  rw [imp_iff_right hlocate]
  cases hfound : next Hob.size Hob.Signed list.start list.start list.hobs with
  | none =>
    rw [hfound] at h
    exact iff_of_true (.of_none h) nofun
  | some x =>
    obtain ⟨hx, -, hsigned⟩ := mem_of_next_eq_some hfound
    rw [hfound] at h
    constructor
    · rintro hown _ ⟨⟩
      exact (hown.isAllocation h hx).length_le
    · intro hlength
      exact .of_isAllocation h hx ⟨hsigned, hlength x.2 rfl⟩

/-- Given enough fuel, the PEIM returns and has touched nothing but an allocation of its own. -/
def TouchesOnlyOwn (image : Image) (pei : PeiServices) (list : HobList) : Prop :=
  ∃ enough, ∀ fuel ≥ enough, ∃ status tr m, (peimIpmiInterfaceInitShadowed image fuel).exec
    (pei.handler list) list.memory = some (status, tr, m) ∧ OnlyOwn list tr m

theorem exists_onlyOwn_iff {fuel : ℕ} (hfuel : list.endOfHobList - list.start < fuel) :
    (∃ status tr m, (peimIpmiInterfaceInitShadowed image fuel).exec (pei.handler list) list.memory =
      some (status, tr, m) ∧ OnlyOwn list tr m) ↔ (¬ pei.locatePpi.1.isError →
        ∀ hob ∈ list.hobs.find? Hob.Signed, sizeofAllocation ≤ hob.data.length) := by
  have hends := peimIpmiInterfaceInitShadowed_ends pei image hfuel
  refine Iff.trans ?_ (hends.iff fun status s h => h.2.onlyOwn_iff)
  rw [ends_recording]
  rfl

theorem TouchesOnlyOwn.length_le (h : TouchesOnlyOwn image pei list) :
    ¬ pei.locatePpi.1.isError →
      ∀ hob ∈ list.hobs.find? Hob.Signed, sizeofAllocation ≤ hob.data.length := by
  obtain ⟨enough, hown⟩ := h
  exact (exists_onlyOwn_iff (Nat.le_max_right enough _)).1 (hown _ (Nat.le_max_left _ _))

/-- **What the PEIM touches in its shadow.**  Whatever is in the HOB list, it touches nothing but an
allocation of its own exactly if the first memory pool HOB with the signature, if it searches for
it and there is one, is as large as the allocation. -/
theorem touchesOnlyOwn_iff (image : Image) (pei : PeiServices) (list : HobList) :
    TouchesOnlyOwn image pei list ↔ (¬ pei.locatePpi.1.isError →
      ∀ hob ∈ list.hobs.find? Hob.Signed, sizeofAllocation ≤ hob.data.length) :=
  ⟨TouchesOnlyOwn.length_le, fun h => ⟨_, fun _ hfuel => (exists_onlyOwn_iff hfuel).2 h⟩⟩

end

/-- A memory pool HOB with the signature and nothing else. -/
def signatureHob : Hob where
  hobType := hobTypeMemoryPool
  reserved := 0
  data := (byteOfLong smIpmiBmcSignature).slice 0 8
  ne_end := by decide
  length_lt := by simp [sizeofHobMemoryPool]

/-- The list of this HOB. -/
def signatureList : HobList := .ofHobs 0x1000 [signatureHob] fun _ => 0

/-- It is taken for the allocation, and what follows it is overwritten. -/
theorem not_touchesOnlyOwn_signatureList :
    ¬ TouchesOnlyOwn ⟨5, ⟨120, 30, false⟩, 0x1000, 0x2000⟩ ⟨(.success, 0x3000), .success⟩
      signatureList := by
  intro h
  have hfound : signatureList.hobs.find? Hob.Signed = some signatureHob :=
    List.find?_cons_of_pos (by decide)
  exact absurd (h.length_le (by decide) signatureHob hfound) (by decide)

end Drivers

end IpmiFeature
