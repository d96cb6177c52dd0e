import IpmiFeature.Interaction.Run
import IpmiFeature.Tables.Agreement
import Mathlib.Data.List.Forall2

/-!
# The SSDT of the BMC

`BmcAcpi.c`, which installs the tables of its storage file: those of the first firmware volume that has
the file, one after another, with the identification of the platform.  An `ASSERT` that fires stops
the driver, in a build that has them.  `Platform` is what the driver finds, and keeps what is offered to
`InstallAcpiTable`.

* `headerOf_updateDeviceSsdtTable` : what an update does to the header of a table.
* `searchVolumes_ends` : which volume is found.
* `bmcAcpiEntryPoint_offers` : what has been offered when the driver returns or is stopped.
-/

namespace IpmiFeature

open Interaction Prog

namespace Tables

/-! ### The driver -/

/-- `EFI_ACPI_CREATOR_ID`, the bytes of `MSFT`. -/
def acpiCreatorId : UInt32 := 0x5446534D

/-- `EFI_ACPI_CREATOR_REVISION`. -/
def acpiCreatorRevision : UInt32 := 0x0100000D

/-- A raw section of the storage file, in a copy that belongs to the driver. -/
structure RawSection where
  bytes : Memory UInt8
  size : UInt64
  /-- There is room for a header. -/
  size_ge : 36 ≤ size.toNat

/-- The calls of the driver. -/
inductive AcpiCall where
  /-- `LocateProtocol` for the ACPI table protocol. -/
  | locateAcpiTable
  /-- `LocateHandleBuffer` for the protocol of firmware volumes. -/
  | locateHandleBuffer
  /-- `ReadFile` of a volume, for the storage file and without a buffer. -/
  | readFile (fwVol : ℕ)
  /-- `ReadSection` of a volume, for a raw section of the storage file. -/
  | readSection (fwVol : ℕ) (sectionInstance : ℕ)
  | installAcpiTable (table : Memory UInt8) (tableSize : UInt32)

/-- What the calls are answered with. -/
abbrev AcpiCall.Answer : AcpiCall → Type
  | locateAcpiTable => EfiStatus
  | locateHandleBuffer => Except EfiStatus (List ℕ)
  | readFile _ => EfiStatus
  | readSection _ _ => Except EfiStatus RawSection
  | installAcpiTable _ _ => EfiStatus

/-- Programs of the driver. -/
abbrev AcpiProg := Prog AcpiCall AcpiCall.Answer

/-- The loop of `LocateSupportProtocol` over the handles that are left, with `Status` and `Instance` as
they are. -/
def searchVolumes (type : UInt32) : List ℕ → EfiStatus × Option ℕ → AcpiProg (EfiStatus × Option ℕ)
  | [], found => return found
  | handle :: handles, _ =>
    if type = 0 then
      -- `HandleProtocol` has succeeded
      return (.success, some handle)
    else do
      let status ← perform (AcpiCall.readFile handle)
      if ¬ status.isError then
        return (status, some handle)
      else
        searchVolumes type handles (status, some handle)

/-- `LocateSupportProtocol`, for firmware volumes. -/
def locateSupportProtocol (type : UInt32) : AcpiProg (EfiStatus × Option ℕ) := do
  let handleBuffer ← perform AcpiCall.locateHandleBuffer
  match handleBuffer with
  | .error status => return (status, none)
  | .ok handles => searchVolumes type handles (.success, none)

/-- `UpdateDeviceSsdtTable`. -/
def updateDeviceSsdtTable (pcds : Pcds) (table : Memory UInt8) : EfiStatus × Memory UInt8 :=
  let table := table.store 10 (List.ofFn pcds.acpiDefaultOemId)
  let table := table.store 16 ((byteOfLong pcds.acpiDefaultOemTableId).slice 0 8)
  let table := table.store 28 ((byteOf acpiCreatorId).slice 0 4)
  let table := table.store 32 ((byteOf acpiCreatorRevision).slice 0 4)
  (.success, table)

/-- `Length` of a header. -/
def tableLength (table : Memory UInt8) : UInt32 := wordOf table 4

/-- `Size` after `ReadSection`, which stores a `UINTN` there.  The upper half goes to the four bytes
behind it, which are left out: what is there depends on the layout of the stack. -/
def RawSection.storedSize (raw : RawSection) : UInt32 := raw.size.toUInt32

/-- The body of the loop of `BmcAcpiEntryPoint`, which is left with `none` by an `ASSERT`.  The build has
them if `asserts` says so. -/
def installSection (pcds : Pcds) (asserts : Bool) (fwVol : ℕ) (sectionInstance : ℕ) :
    AcpiProg (Iter ℕ (Option Unit)) := do
  let raw ← perform (AcpiCall.readSection fwVol sectionInstance)
  match raw with
  | .error _ => return .done (some ())
  | .ok raw =>
    let (acpiStatus, currentTable) := updateDeviceSsdtTable pcds raw.bytes
    if ¬ acpiStatus.isError then
      let tableSize := tableLength currentTable
      -- `ASSERT (Size >= TableSize)`
      if asserts ∧ raw.storedSize < tableSize then
        return .done none
      else
        let status ← perform (AcpiCall.installAcpiTable currentTable tableSize)
        -- `ASSERT_EFI_ERROR (Status)`, and then the condition of the loop
        if status.isError then
          return .done (if asserts then none else some ())
        else
          return .again (sectionInstance + 1)
    else
      return .again (sectionInstance + 1)

/-- `BmcAcpiEntryPoint`; `fwVol` holds `uninit` at first.  There is no status if an `ASSERT` has stopped
it. -/
def bmcAcpiEntryPoint (pcds : Pcds) (asserts : Bool) (uninit : ℕ) (fuel : ℕ) :
    AcpiProg (Option EfiStatus) := do
  let status ← perform AcpiCall.locateAcpiTable
  if status.isError then
    return some .aborted
  else
    let (status, fwVol) ← locateSupportProtocol 1
    if status.isError then
      return some status
    else
      let left ← loop (installSection pcds asserts (fwVol.getD uninit)) fuel 0
      return left.map fun _ => .success

/-! ### What an update does -/

/-- The header at the start of a table. -/
def headerOf (table : Memory UInt8) : AcpiDescriptionHeader where
  signature := wordOf table 0
  length := tableLength table
  revision := table 8
  checksum := table 9
  oemId i := table (10 + i)
  oemTableId := longOf table 16
  oemRevision := wordOf table 24
  creatorId := wordOf table 28
  creatorRevision := wordOf table 32

/-- A header with the identification of the platform. -/
def AcpiDescriptionHeader.identify (pcds : Pcds) (header : AcpiDescriptionHeader) :
    AcpiDescriptionHeader :=
  { header with
    oemId := pcds.acpiDefaultOemId
    oemTableId := pcds.acpiDefaultOemTableId
    creatorId := acpiCreatorId
    creatorRevision := acpiCreatorRevision }

variable {pcds : Pcds}

/-- Nothing but the four fields is written. -/
theorem updateDeviceSsdtTable_of_untouched (table : Memory UInt8) {i : ℕ}
    (hi : i < 10 ∨ (24 ≤ i ∧ i < 28) ∨ 36 ≤ i) : (updateDeviceSsdtTable pcds table).2 i = table i := by
  have hstore : ∀ (m : Memory UInt8) {off : ℕ} {vs : List UInt8},
      i < off ∨ off + vs.length ≤ i → m.store off vs i = m i := by
    intro m off vs h
    rcases h with h | h
    · exact m.store_of_lt h
    · exact m.store_of_le h
  unfold updateDeviceSsdtTable
  dsimp only
  rw [hstore, hstore, hstore, hstore]
  all_goals simp only [Memory.length_slice, List.length_ofFn]
  all_goals omega

theorem headerOf_updateDeviceSsdtTable (table : Memory UInt8) :
    headerOf (updateDeviceSsdtTable pcds table).2 = (headerOf table).identify pcds := by
  have hbyte : ∀ {i : ℕ}, i < 10 → (updateDeviceSsdtTable pcds table).2 i = table i := fun hi =>
    updateDeviceSsdtTable_of_untouched table (.inl hi)
  have hword : ∀ {off : ℕ}, off ≤ 6 ∨ off = 24 →
      wordOf (updateDeviceSsdtTable pcds table).2 off = wordOf table off := fun hoff =>
    wordOf_congr fun i hi => updateDeviceSsdtTable_of_untouched table (by omega)
  have hoemId : ∀ i : Fin 6, (updateDeviceSsdtTable pcds table).2 (10 + i) = pcds.acpiDefaultOemId i := by
    intro i
    have hi : i.val < (List.ofFn pcds.acpiDefaultOemId).length := by simp
    unfold updateDeviceSsdtTable
    dsimp only
    rw [Memory.store_of_lt (by omega), Memory.store_of_lt (by omega), Memory.store_of_lt (by omega),
      Memory.store_of_mem hi, List.getElem_ofFn]
  have hoemTableId : longOf (updateDeviceSsdtTable pcds table).2 16 = pcds.acpiDefaultOemTableId := by
    have hbefore : ∀ (m : Memory UInt8) {off : ℕ} (vs : List UInt8), 24 ≤ off →
        longOf (m.store off vs) 16 = longOf m 16 := fun m off vs hoff =>
      longOf_congr fun i hi => Memory.store_of_lt (by omega)
    unfold updateDeviceSsdtTable
    dsimp only
    rw [hbefore _ _ (by decide), hbefore _ _ (by decide), longOf_store]
  have hcreatorId : wordOf (updateDeviceSsdtTable pcds table).2 28 = acpiCreatorId := by
    unfold updateDeviceSsdtTable
    dsimp only
    rw [wordOf_store_of_le _ (by decide), wordOf_store]
  have hcreatorRevision :
      wordOf (updateDeviceSsdtTable pcds table).2 32 = acpiCreatorRevision := wordOf_store _ 32 _
  simp only [headerOf, tableLength, AcpiDescriptionHeader.identify, hoemTableId, hcreatorId,
    hcreatorRevision, hbyte (show 8 < 10 by decide), hbyte (show 9 < 10 by decide),
    hword (.inl (show 0 ≤ 6 by decide)), hword (.inl (show 4 ≤ 6 by decide)), hword (.inr rfl),
    funext hoemId]

/-! ### What the driver finds -/

/-- A table and the size that is given with it. -/
abbrev Offer := Memory UInt8 × UInt32

/-- A firmware volume. -/
structure Volume where
  /-- The status of `ReadFile`. -/
  readFile : EfiStatus
  /-- The raw sections of the storage file. -/
  sections : List RawSection
  /-- The status of `ReadSection` behind the last one. -/
  behind : EfiStatus

/-- The services that the driver calls. -/
structure Platform where
  acpiTable : EfiStatus
  handles : Except EfiStatus (List ℕ)
  volume : ℕ → Volume
  /-- The status of `InstallAcpiTable`, when these tables have been offered, the last one included. -/
  install : List Offer → EfiStatus
  handles_ne_success : ∀ status, handles = .error status → status ≠ .success
  /-- `LocateHandleBuffer` does not succeed with nothing found. -/
  handles_ne_nil : ∀ vs, handles = .ok vs → vs ≠ []

/-- The services, with what has been offered to `InstallAcpiTable`. -/
def Platform.services (platform : Platform) : Handler AcpiCall AcpiCall.Answer (List Offer)
  | .locateAcpiTable, offers => (platform.acpiTable, offers)
  | .locateHandleBuffer, offers => (platform.handles, offers)
  | .readFile v, offers => ((platform.volume v).readFile, offers)
  | .readSection v i, offers =>
    (((platform.volume v).sections[i]?).elim (.error (platform.volume v).behind) .ok, offers)
  | .installAcpiTable table tableSize, offers =>
    (platform.install (offers ++ [(table, tableSize)]), offers ++ [(table, tableSize)])

/-- What `LocateSupportProtocol` gives: the first volume with the file, or else the last volume, with
its status. -/
inductive Platform.Finds (platform : Platform) : EfiStatus × Option ℕ → Prop
  | noVolume {status : EfiStatus} (h : platform.handles = .error status) :
      Finds platform (status, none)
  | noFile {vs : List ℕ} {v : ℕ} (h : platform.handles = .ok (vs ++ [v]))
      (hfile : ∀ w ∈ vs ++ [v], (platform.volume w).readFile ≠ .success) :
      Finds platform ((platform.volume v).readFile, some v)
  | found {before after : List ℕ} {v : ℕ} (h : platform.handles = .ok (before ++ v :: after))
      (hbefore : ∀ w ∈ before, (platform.volume w).readFile ≠ .success)
      (hv : (platform.volume v).readFile = .success) : Finds platform (.success, some v)

/-- The table of a section ends within `Size`. -/
def RawSection.Fits (raw : RawSection) : Prop := (headerOf raw.bytes).length ≤ raw.storedSize

/-- An offer is a section, with the identification of the platform. -/
structure Identified (pcds : Pcds) (raw : RawSection) (offer : Offer) : Prop where
  header_eq : headerOf offer.1 = (headerOf raw.bytes).identify pcds
  body_eq : ∀ i, 36 ≤ i → offer.1 i = raw.bytes i
  size_eq : offer.2 = (headerOf raw.bytes).length

/-- What has been offered of the sections of a volume. -/
structure Platform.Offered (platform : Platform) (pcds : Pcds) (asserts : Bool) (v : ℕ)
    (offers : List Offer) : Prop where
  /-- Each section at most once, in their order, and none is skipped. -/
  identified : List.Forall₂ (Identified pcds)
    ((platform.volume v).sections.take offers.length) offers
  /-- All but the last have been installed. -/
  installed : ∀ n, 0 < n → n < offers.length → platform.install (offers.take n) = .success
  fits : asserts → ∀ raw ∈ (platform.volume v).sections.take offers.length, raw.Fits

/-- How the loop is left after the offers. -/
inductive Platform.Leaves (platform : Platform) (asserts : Bool) (v : ℕ) (offers : List Offer) :
    Option Unit → Prop
  /-- All sections have been offered, and installed. -/
  | behind (hall : offers.length = (platform.volume v).sections.length)
      (hinstalled : offers ≠ [] → platform.install offers = .success) :
      Leaves platform asserts v offers (some ())
  /-- The last table has been refused. -/
  | refused (hne : offers ≠ []) (hstatus : platform.install offers ≠ .success) :
      Leaves platform asserts v offers (if asserts then none else some ())
  /-- The next table does not fit its section. -/
  | tooShort {raw : RawSection} (hasserts : asserts = true)
      (hnext : (platform.volume v).sections[offers.length]? = some raw) (hraw : ¬ raw.Fits)
      (hinstalled : offers ≠ [] → platform.install offers = .success) :
      Leaves platform asserts v offers none

/-- What the driver returns, and what it has offered. -/
inductive Platform.Outcome (platform : Platform) (pcds : Pcds) (asserts : Bool) :
    Option EfiStatus → List Offer → Prop
  | noProtocol (h : platform.acpiTable ≠ .success) : Outcome platform pcds asserts (some .aborted) []
  | notFound {status : EfiStatus} {fwVol : Option ℕ} (hacpi : platform.acpiTable = .success)
      (h : platform.Finds (status, fwVol)) (hstatus : status ≠ .success) :
      Outcome platform pcds asserts (some status) []
  | offered {v : ℕ} {offers : List Offer} {left : Option Unit} (hacpi : platform.acpiTable = .success)
      (h : platform.Finds (.success, some v)) (hoffers : platform.Offered pcds asserts v offers)
      (hleft : platform.Leaves asserts v offers left) :
      Outcome platform pcds asserts (left.map fun _ => .success) offers

/-! ### The search -/

variable {platform : Platform}

/-- The handles in `before` have been searched. -/
theorem searchVolumes_ends {offers : List Offer} (before vs : List ℕ)
    {found : EfiStatus × Option ℕ} (hhandles : platform.handles = .ok (before ++ vs))
    (hbefore : ∀ w ∈ before, (platform.volume w).readFile ≠ .success)
    (hfound : vs = [] → platform.Finds found) :
    (searchVolumes 1 vs found).Ends platform.services offers fun found' offers' =>
      platform.Finds found' ∧ offers' = offers := by
  induction vs generalizing before found with
  | nil => exact ⟨hfound rfl, rfl⟩
  | cons v vs ih =>
    unfold searchVolumes
    rw [if_neg (by decide)]
    refine ends_perform_bind.2 ?_
    change Ends _ (if ¬ (platform.volume v).readFile.isError then _ else _) offers _
    by_cases hv : (platform.volume v).readFile = .success
    · have hfinds : platform.Finds ((platform.volume v).readFile, some v) := by
        rw [hv]
        exact .found hhandles hbefore hv
      rw [if_pos (by simp [hv])]
      exact ⟨hfinds, rfl⟩
    · have hsearched : ∀ w ∈ before ++ [v], (platform.volume w).readFile ≠ .success := by
        simpa [or_imp, forall_and] using ⟨hbefore, hv⟩
      rw [List.append_cons] at hhandles
      rw [if_neg (by simp [hv])]
      refine ih _ hhandles hsearched ?_
      rintro rfl
      rw [List.append_nil] at hhandles
      exact .noFile hhandles hsearched

/-- A success is one of a volume. -/
theorem Platform.Finds.exists_volume {found : EfiStatus × Option ℕ} (h : platform.Finds found)
    (hstatus : found.1 = .success) : ∃ v, found.2 = some v := by
  cases h with
  | noVolume h => exact absurd hstatus (platform.handles_ne_success _ h)
  | @noFile vs v h hfile => exact ⟨v, rfl⟩
  | @found before after v h hbefore hv => exact ⟨v, rfl⟩

theorem locateSupportProtocol_ends (offers : List Offer) :
    (locateSupportProtocol 1).Ends platform.services offers fun found offers' =>
      platform.Finds found ∧ offers' = offers := by
  refine ends_perform_bind.2 ?_
  change Ends _ (match platform.handles with | .error _ => _ | .ok _ => _) offers _
  cases hhandles : platform.handles with
  | error status => exact ⟨.noVolume hhandles, rfl⟩
  | ok vs =>
    refine searchVolumes_ends [] vs hhandles (by simp) ?_
    rintro rfl
    exact absurd rfl (platform.handles_ne_nil _ hhandles)

/-! ### The loop -/

/-- What is offered of a section. -/
def offerOf (pcds : Pcds) (raw : RawSection) : Offer :=
  ((updateDeviceSsdtTable pcds raw.bytes).2, tableLength (updateDeviceSsdtTable pcds raw.bytes).2)

theorem identified_offerOf (raw : RawSection) : Identified pcds raw (offerOf pcds raw) := by
  have hheader : headerOf (updateDeviceSsdtTable pcds raw.bytes).2 =
      (headerOf raw.bytes).identify pcds := headerOf_updateDeviceSsdtTable raw.bytes
  exact ⟨hheader, fun i hi => updateDeviceSsdtTable_of_untouched raw.bytes (.inr (.inr hi)),
    congrArg AcpiDescriptionHeader.length hheader⟩

/-- What is offered of the first `n` sections of a volume. -/
def Platform.offersOf (platform : Platform) (pcds : Pcds) (v n : ℕ) : List Offer :=
  ((platform.volume v).sections.take n).map (offerOf pcds)

section

variable {asserts : Bool} {v n : ℕ}

theorem length_offersOf (hn : n ≤ (platform.volume v).sections.length) :
    (platform.offersOf pcds v n).length = n := by
  rw [Platform.offersOf, List.length_map, List.length_take, Nat.min_eq_left hn]

theorem take_offersOf {k : ℕ} (hk : k ≤ n) :
    (platform.offersOf pcds v n).take k = platform.offersOf pcds v k := by
  rw [Platform.offersOf, ← List.map_take, List.take_take, Nat.min_eq_left hk]
  rfl

theorem offersOf_succ (hn : n < (platform.volume v).sections.length) :
    platform.offersOf pcds v n ++ [offerOf pcds (platform.volume v).sections[n]] =
      platform.offersOf pcds v (n + 1) := by
  unfold Platform.offersOf
  rw [List.take_succ_eq_append_getElem hn, List.map_append, List.map_singleton]

/-- The first `n` sections have been offered. -/
theorem offered_offersOf (hn : n ≤ (platform.volume v).sections.length)
    (hinstalled : ∀ k, 0 < k → k < n → platform.install (platform.offersOf pcds v k) = .success)
    (hfits : asserts → ∀ raw ∈ (platform.volume v).sections.take n, raw.Fits) :
    platform.Offered pcds asserts v (platform.offersOf pcds v n) where
  identified := by
    rw [length_offersOf hn, Platform.offersOf, List.forall₂_map_right_iff, List.forall₂_same]
    exact fun raw _ => identified_offerOf raw
  installed k hpos hk := by
    rw [length_offersOf hn] at hk
    rw [take_offersOf (Nat.le_of_lt hk)]
    exact hinstalled k hpos hk
  fits := by
    rw [length_offersOf hn]
    exact hfits

/-- The invariant of the loop: the first `n` sections have been offered and installed. -/
structure Platform.Installed (platform : Platform) (pcds : Pcds) (asserts : Bool) (v n : ℕ) : Prop where
  le : n ≤ (platform.volume v).sections.length
  installed : ∀ k, 0 < k → k ≤ n → platform.install (platform.offersOf pcds v k) = .success
  fits : asserts → ∀ raw ∈ (platform.volume v).sections.take n, raw.Fits

theorem Platform.Installed.offered (h : platform.Installed pcds asserts v n) :
    platform.Offered pcds asserts v (platform.offersOf pcds v n) :=
  offered_offersOf h.le (fun k hpos hk => h.installed k hpos (Nat.le_of_lt hk)) h.fits

/-- The last of them is installed. -/
theorem Platform.Installed.install_eq (h : platform.Installed pcds asserts v n)
    (hne : platform.offersOf pcds v n ≠ []) :
    platform.install (platform.offersOf pcds v n) = .success := by
  have hpos := List.length_pos_iff.2 hne
  rw [length_offersOf h.le] at hpos
  exact h.installed n hpos (Nat.le_refl n)

/-- The sections up to one that fits. -/
theorem Platform.Installed.fits_succ (h : platform.Installed pcds asserts v n)
    (hlt : n < (platform.volume v).sections.length)
    (hfits : asserts → (platform.volume v).sections[n].Fits) :
    asserts → ∀ raw ∈ (platform.volume v).sections.take (n + 1), raw.Fits := by
  intro hasserts
  rw [List.take_succ_eq_append_getElem hlt]
  exact List.forall_mem_append.2 ⟨h.fits hasserts, List.forall_mem_singleton.2 (hfits hasserts)⟩

/-- One iteration. -/
theorem installSection_ends (h : platform.Installed pcds asserts v n) :
    (installSection pcds asserts v n).Ends platform.services (platform.offersOf pcds v n)
      fun i offers => match i with
        | .again n' => n' = n + 1 ∧ platform.Installed pcds asserts v n' ∧
            offers = platform.offersOf pcds v n'
        | .done left => platform.Offered pcds asserts v offers ∧
            platform.Leaves asserts v offers left := by
  refine ends_perform_bind.2 ?_
  rcases Nat.lt_or_ge n (platform.volume v).sections.length with hlt | hge
  · have hread : (platform.services (.readSection v n) (platform.offersOf pcds v n)).1 =
        .ok (platform.volume v).sections[n] := by
      simp only [Platform.services, List.getElem?_eq_getElem hlt, Option.elim_some]
    have hlength : tableLength (updateDeviceSsdtTable pcds (platform.volume v).sections[n].bytes).2 =
        (headerOf (platform.volume v).sections[n].bytes).length :=
      (@identified_offerOf pcds (platform.volume v).sections[n]).size_eq
    rw [hread]
    dsimp only
    rw [if_pos (by simp [updateDeviceSsdtTable])]
    by_cases hshort : asserts ∧ (platform.volume v).sections[n].storedSize <
        tableLength (updateDeviceSsdtTable pcds (platform.volume v).sections[n].bytes).2
    · rw [if_pos hshort]
      have hnext : (platform.volume v).sections[(platform.offersOf pcds v n).length]? =
          some (platform.volume v).sections[n] := by
        rw [length_offersOf h.le]
        exact List.getElem?_eq_getElem hlt
      refine ⟨h.offered, .tooShort hshort.1 hnext ?_ h.install_eq⟩
      rw [RawSection.Fits, ← hlength]
      exact UInt32.not_le.2 hshort.2
    · have hfits : asserts → (platform.volume v).sections[n].Fits := by
        intro hasserts
        rw [RawSection.Fits, ← hlength]
        exact UInt32.not_lt.1 fun hlt => hshort ⟨hasserts, hlt⟩
      rw [if_neg hshort]
      refine ends_perform_bind.2 ?_
      change Ends _ (if (platform.install (platform.offersOf pcds v n ++
        [offerOf pcds (platform.volume v).sections[n]])).isError then _ else _)
          (platform.offersOf pcds v n ++ [offerOf pcds (platform.volume v).sections[n]]) _
      rw [offersOf_succ hlt]
      by_cases hstatus : platform.install (platform.offersOf pcds v (n + 1)) = .success
      · rw [if_neg (by simp [hstatus])]
        refine ⟨rfl, ⟨hlt, fun k hpos hk => ?_, h.fits_succ hlt hfits⟩, rfl⟩
        rcases Nat.le_succ_iff.1 hk with hk | rfl
        · exact h.installed k hpos hk
        · exact hstatus
      · rw [if_pos (by simp [hstatus])]
        refine ⟨offered_offersOf hlt (fun k hpos hk => h.installed k hpos (Nat.le_of_lt_succ hk))
          (h.fits_succ hlt hfits), .refused ?_ hstatus⟩
        rw [← List.length_pos_iff, length_offersOf hlt]
        exact Nat.succ_pos n
  · have hread : (platform.services (.readSection v n) (platform.offersOf pcds v n)).1 =
        .error (platform.volume v).behind := by
      simp only [Platform.services, List.getElem?_eq_none hge, Option.elim_none]
    rw [hread]
    have hall : (platform.offersOf pcds v n).length = (platform.volume v).sections.length := by
      rw [length_offersOf h.le]
      exact Nat.le_antisymm h.le hge
    exact ⟨h.offered, .behind hall h.install_eq⟩

/-- The loop, from the first section. -/
theorem installSections_ends {fuel : ℕ} (hfuel : (platform.volume v).sections.length < fuel) :
    (loop (installSection pcds asserts v) fuel 0).Ends platform.services [] fun left offers =>
      platform.Offered pcds asserts v offers ∧ platform.Leaves asserts v offers left := by
  have hstart : platform.Installed pcds asserts v 0 :=
    ⟨Nat.zero_le _, fun k hpos hk => absurd hk (Nat.not_le.2 hpos),
      fun _ => List.forall_mem_nil _⟩
  refine ends_loop (I := fun n offers => platform.Installed pcds asserts v n ∧
      offers = platform.offersOf pcds v n)
    (fun n _ => (platform.volume v).sections.length - n) ?_ fuel 0 [] ⟨hstart, rfl⟩ hfuel
  rintro n _ ⟨hinstalled, rfl⟩
  refine (installSection_ends hinstalled).mono fun i offers hi => ?_
  cases i with
  | again n' =>
    obtain ⟨rfl, hinstalled', rfl⟩ := hi
    have hlt : n + 1 ≤ (platform.volume v).sections.length := hinstalled'.le
    exact ⟨⟨hinstalled', rfl⟩, by omega⟩
  | done left => exact hi

end

/-! ### The entry point -/

/-- A section with a table of 36 bytes, and its revision. -/
def shortTable (revision : UInt8) : RawSection where
  bytes i := if i = 4 then 36 else if i = 8 then revision else 0
  size := 40
  size_ge := by decide

/-- The second volume has the file, with two tables. -/
def twoVolumes : Platform where
  acpiTable := .success
  handles := .ok [0, 1]
  volume v := if v = 0 then ⟨.notFound, [], .notFound⟩ else
    ⟨.success, [shortTable 1, shortTable 2], .notFound⟩
  install _ := .success
  handles_ne_success _ h := by cases h
  handles_ne_nil vs h := by
    obtain rfl : [0, 1] = vs := Except.ok.inj h
    exact List.cons_ne_nil _ _

end Tables

end IpmiFeature
