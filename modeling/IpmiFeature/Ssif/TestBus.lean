import IpmiFeature.Ssif.Send
import IpmiFeature.Ssif.Serving

/-!
# The bus of the unit test

`BmcSmbusLibTest.c`, the bus that `SsifUnitTest.c` runs the driver on, and what its two test cases
check, for every message instead of four sizes: a message that is sent is in the transmit buffer
(`sendDataToBmcPort_checkTxBuffer`), and a message in the receive buffer is received, unless it is a
short one that starts like a multi-part message (`receiveBmcDataFromPort_setRxBuffer_iff`).

The sizes and offsets are `UINT32`s that stay below `TEST_BUFFER_SIZE`.
-/

namespace IpmiFeature

open Interaction Prog

namespace Ssif

/-! ### The bus -/

/-- The variables of the library. -/
structure TestBus where
  rxBuffer : Memory UInt8
  txBuffer : Memory UInt8
  rxOffset : ℕ
  rxSize : ℕ
  txSize : ℕ
  rxBlock : UInt8

/-- `SmbusTestLibReset`, and the variables as the program starts. -/
def smbusTestLibReset : TestBus where
  rxBuffer _ := 0
  txBuffer _ := 0
  rxOffset := 0
  rxSize := 0
  txSize := 0
  rxBlock := 0xFF

/-- `BmcSmbusBlockWrite`. -/
def TestBus.blockWrite (command : UInt8) (writeBlock : List UInt8) (bus : TestBus) :
    EfiStatus × TestBus :=
  let blockLength := UInt8.ofNat writeBlock.length
  let writeSize := if blockLength < ssifMaxWriteSize then blockLength else ssifMaxWriteSize
  if command ≠ smbusCmdWrite ∧ command ≠ smbusCmdMultWriteStart ∧
      command ≠ smbusCmdMultWriteMiddle ∧ command ≠ smbusCmdMultWriteEnd then
    (.invalidParameter, bus)
  else if (command = smbusCmdWrite ∨ command = smbusCmdMultWriteStart) ∧ bus.txSize ≠ 0 then
    (.alreadyStarted, bus)
  else if (command = smbusCmdMultWriteMiddle ∨ command = smbusCmdMultWriteEnd) ∧
      bus.txSize = 0 then
    (.notStarted, bus)
  else
    (.success, { bus with
      txBuffer := bus.txBuffer.store bus.txSize (writeBlock.take writeSize.toNat)
      txSize := bus.txSize + writeSize.toNat })

/-- `BmcSmbusBlockRead`.  It does not look at the size of the buffer. -/
def TestBus.blockRead (command : UInt8) (bus : TestBus) : BlockRead × TestBus :=
  if bus.rxSize = 0 then
    (failedRead .notFound, bus)
  else if command = smbusCmdRead then
    if bus.rxOffset ≠ 0 then
      (failedRead .alreadyStarted, bus)
    else if h : bus.rxSize > ssifMaxReadSize then
      (blockOf (0 :: 1 :: bus.rxBuffer.slice bus.rxOffset (ssifMaxReadSize - 2))
          (by simp [ssifMaxReadSize]),
        { bus with rxOffset := bus.rxOffset + (ssifMaxReadSize - 2), rxBlock := 0 })
    else
      (blockOf (bus.rxBuffer.slice bus.rxOffset bus.rxSize) (by simpa using h),
        { bus with rxOffset := bus.rxOffset + bus.rxSize })
  else if command = smbusCmdMultRead then
    if bus.rxOffset = 0 then
      (failedRead .notStarted, bus)
    else
      let readSize := min (bus.rxSize - bus.rxOffset) (ssifMaxReadSize - 1)
      (blockOf (bus.rxBlock :: bus.rxBuffer.slice bus.rxOffset readSize)
          (by
            rw [List.length_cons, Memory.length_slice]
            exact Nat.succ_le_succ (Nat.min_le_right _ _)),
        { bus with rxBlock := bus.rxBlock + 1, rxOffset := bus.rxOffset + readSize })
  else
    (failedRead .invalidParameter, bus)

/-- The library as an environment. -/
def testBus : Handler BusCall BusCall.Answer TestBus
  | .bmcSmbusOpen, bus => (.success, bus)
  | .bmcSmbusClose, bus => (.success, bus)
  | .bmcSmbusBlockWrite command writeBlock, bus => bus.blockWrite command writeBlock
  | .bmcSmbusBlockRead command, bus => bus.blockRead command
  | .assertFailed, bus => ((), bus)

/-- `CheckTxBuffer`. -/
def TestBus.checkTxBuffer (data : List UInt8) (bus : TestBus) : Bool :=
  data.length = bus.txSize && bus.txBuffer.slice 0 data.length = data

/-- `SetRxBuffer`. -/
def TestBus.setRxBuffer (data : List UInt8) (bus : TestBus) : TestBus :=
  { bus with rxBuffer := bus.rxBuffer.store 0 data, rxSize := data.length, rxOffset := 0 }

/-! ### Sending -/

/-- The bus has taken the blocks `done` of a message. -/
structure TestBus.Took (done : List Fragment) (bus : TestBus) : Prop where
  size_eq : bus.txSize = (joined done).length
  buffer_eq : bus.txBuffer.slice 0 bus.txSize = joined done

/-- A block write with a command that fits the state of the bus. -/
theorem TestBus.blockWrite_eq (bus : TestBus) (command : UInt8) {block : List UInt8}
    (hlen : block.length ≤ 32)
    (hfirst : bus.txSize = 0 → command = smbusCmdWrite ∨ command = smbusCmdMultWriteStart)
    (hlater : bus.txSize ≠ 0 → command = smbusCmdMultWriteMiddle ∨ command = smbusCmdMultWriteEnd) :
    bus.blockWrite command block = (.success, { bus with
      txBuffer := bus.txBuffer.store bus.txSize block, txSize := bus.txSize + block.length }) := by
  have hblock : (UInt8.ofNat block.length).toNat = block.length :=
    UInt8.toNat_ofNat_of_lt' (show block.length < 256 by omega)
  have hsize := toNat_writeSize (UInt8.ofNat block.length)
  rw [hblock, Nat.min_eq_left hlen] at hsize
  have hcommand : ¬ (command ≠ smbusCmdWrite ∧ command ≠ smbusCmdMultWriteStart ∧
      command ≠ smbusCmdMultWriteMiddle ∧ command ≠ smbusCmdMultWriteEnd) := by
    by_cases hzero : bus.txSize = 0
    · rcases hfirst hzero with rfl | rfl <;> simp
    · rcases hlater hzero with rfl | rfl <;> simp
  have hstarted : ¬ ((command = smbusCmdWrite ∨ command = smbusCmdMultWriteStart) ∧
      bus.txSize ≠ 0) := by
    rintro ⟨hcommand, hzero⟩
    rcases hlater hzero with rfl | rfl <;> revert hcommand <;> decide
  have hnotStarted : ¬ ((command = smbusCmdMultWriteMiddle ∨ command = smbusCmdMultWriteEnd) ∧
      bus.txSize = 0) := by
    rintro ⟨hcommand, hzero⟩
    rcases hfirst hzero with rfl | rfl <;> revert hcommand <;> decide
  unfold TestBus.blockWrite
  dsimp only
  rw [if_neg hcommand, if_neg hstarted, if_neg hnotStarted, hsize,
    List.take_of_length_le (Nat.le_refl _)]

/-- The bus takes the blocks of a message. -/
theorem takes_testBus {data : List UInt8} {fs : List Fragment} (hfs : Fragmentation data fs) :
    Takes testBus fs TestBus.Took := by
  rintro done f bus hinit ⟨hsize, hbuffer⟩
  have hcommand := hfs.command_eq hinit
  have hzero : bus.txSize = 0 ↔ done = [] := by
    rw [hsize, List.length_eq_zero_iff]
    exact ⟨fun h => by_contra fun hdone => hfs.joined_ne_nil hinit hdone h, fun h => by rw [h]; rfl⟩
  have hwrite := bus.blockWrite_eq f.1 (hfs.length_le hinit) (fun h => ?_) fun h => ?_
  · change (bus.blockWrite f.1 f.2).1 = _ ∧ TestBus.Took _ (bus.blockWrite f.1 f.2).2
    rw [hwrite]
    refine ⟨rfl, ?_, ?_⟩
    · rw [joined_concat, List.length_append, hsize]
    · dsimp only
      rw [Memory.slice_store_append, hbuffer, joined_concat]
  · rw [hcommand, if_pos (hzero.1 h)]
    split_ifs
    · exact .inl rfl
    · exact .inr rfl
  · rw [hcommand, if_neg fun hdone => h (hzero.2 hdone)]
    split_ifs
    · exact .inr rfl
    · exact .inl rfl

/-- **The write test**, for every message: what has been sent is in the transmit buffer. -/
theorem sendDataToBmcPort_checkTxBuffer {fuel : ℕ} (hfuel : 255 < fuel) (data : Message)
    (hdata : data.bytes ≠ []) (bus : TestBus) (hbus : bus.txSize = 0) :
    (sendDataToBmcPort fuel data).Ends testBus bus fun status bus' =>
      status = .success ∧ bus'.checkTxBuffer data.bytes = true := by
  obtain ⟨fs, hfs⟩ := exists_fragmentation hdata
  refine (sendDataToBmcPort_takes hfuel hdata hfs (takes_testBus hfs) rfl
    ⟨hbus, by rw [hbus]; rfl⟩).mono ?_
  rintro _ bus' ⟨rfl, _, ⟨hsize, hbuffer⟩, rfl⟩
  rw [hfs.joined_eq] at hsize hbuffer
  rw [hsize] at hbuffer
  refine ⟨rfl, ?_⟩
  simp [TestBus.checkTxBuffer, hsize, hbuffer]

/-- A message of three blocks. -/
theorem sendDataToBmcPort_checkTxBuffer_blocks :
    (sendDataToBmcPort 256 ⟨List.replicate 70 0x5A, by decide⟩).Ends testBus smbusTestLibReset
      fun status bus' => status = .success ∧ bus'.checkTxBuffer (List.replicate 70 0x5A) = true :=
  sendDataToBmcPort_checkTxBuffer (by decide) ⟨List.replicate 70 0x5A, by decide⟩ (by decide)
    smbusTestLibReset rfl

/-! ### Receiving -/

section

variable {data : List UInt8} {bus : TestBus} {n : ℕ}

/-- The bus when it has served the first `offset` bytes of a message, and its next block has the
number `block`. -/
def TestBus.served (bus : TestBus) (offset : ℕ) (block : UInt8) : TestBus :=
  { bus with rxOffset := offset, rxBlock := block }

theorem TestBus.blockRead_mult (bus : TestBus) (hsize : bus.rxSize ≠ 0) (hoffset : bus.rxOffset ≠ 0) :
    (bus.blockRead smbusCmdMultRead).1.Delivers (bus.rxBlock ::
        bus.rxBuffer.slice bus.rxOffset (min (bus.rxSize - bus.rxOffset) 31)) ∧
      (bus.blockRead smbusCmdMultRead).2 = bus.served
        (bus.rxOffset + min (bus.rxSize - bus.rxOffset) 31) (bus.rxBlock + 1) := by
  unfold TestBus.blockRead
  rw [if_neg hsize, if_neg (by decide), if_pos rfl, if_neg hoffset]
  exact ⟨⟨rfl, rfl⟩, rfl⟩

theorem TestBus.blockRead_long (bus : TestBus) (hoffset : bus.rxOffset = 0) (hlong : 32 < bus.rxSize) :
    (bus.blockRead smbusCmdRead).1.Delivers (0 :: 1 :: bus.rxBuffer.slice 0 30) ∧
      (bus.blockRead smbusCmdRead).2 = bus.served 30 0 := by
  have hsize : bus.rxSize ≠ 0 := by omega
  have hlong' : bus.rxSize > ssifMaxReadSize := hlong
  unfold TestBus.blockRead
  rw [if_neg hsize, if_pos rfl, if_neg (not_not.2 hoffset), dif_pos hlong', hoffset]
  exact ⟨⟨rfl, rfl⟩, rfl⟩

theorem TestBus.blockRead_short (bus : TestBus) (hoffset : bus.rxOffset = 0)
    (hsize : bus.rxSize ≠ 0) (hshort : bus.rxSize ≤ 32) :
    (bus.blockRead smbusCmdRead).1.Delivers (bus.rxBuffer.slice 0 bus.rxSize) ∧
      (bus.blockRead smbusCmdRead).2 = bus.served bus.rxSize bus.rxBlock := by
  have hshort' : ¬ bus.rxSize > ssifMaxReadSize := Nat.not_lt.2 hshort
  unfold TestBus.blockRead
  rw [if_neg hsize, if_pos rfl, if_neg (not_not.2 hoffset), dif_neg hshort']
  simp only [hoffset, Nat.zero_add]
  exact ⟨⟨rfl, rfl⟩, rfl⟩

/-- A later block of the message in the receive buffer. -/
theorem testBus_multRead (bus : TestBus) (block : UInt8) {offset : ℕ} (hpos : 0 < offset)
    (hle : offset ≤ data.length) :
    (testBus (.bmcSmbusBlockRead smbusCmdMultRead)
        ((bus.setRxBuffer data).served offset block)).1.Delivers
        (block :: (data.drop offset).take 31) ∧
      (testBus (.bmcSmbusBlockRead smbusCmdMultRead)
        ((bus.setRxBuffer data).served offset block)).2 =
          (bus.setRxBuffer data).served (min data.length (offset + 31)) (block + 1) := by
  have hread : offset + min (data.length - offset) 31 = min data.length (offset + 31) := by omega
  have hslice : (bus.rxBuffer.store 0 data).slice offset (min (data.length - offset) 31) =
      (data.drop offset).take 31 := by
    rw [Memory.slice_store_zero (by omega), List.take_eq_take_iff, List.length_drop]
    omega
  obtain ⟨hblock, hnext⟩ := ((bus.setRxBuffer data).served offset block).blockRead_mult
    (show data.length ≠ 0 by omega) (show offset ≠ 0 by omega)
  rw [← hread, ← hslice]
  exact ⟨hblock, hnext⟩

/-! ### A long message -/

theorem drop_min_length (data : List UInt8) (offset : ℕ) :
    data.drop (min data.length offset) = data.drop offset := by
  rcases Nat.le_total data.length offset with hle | hle
  · rw [Nat.min_eq_left hle, List.drop_eq_nil_of_le (Nat.le_refl _), List.drop_eq_nil_of_le hle]
  · rw [Nat.min_eq_right hle]

/-- The states of the bus: the blocks are numbered from 0, and go on when nothing is left. -/
theorem readStates_long (hlong : 32 < data.length) (n : ℕ) :
    readStates testBus (bus.setRxBuffer data) (n + 1) =
      (bus.setRxBuffer data).served (min data.length (30 + 31 * n)) (UInt8.ofNat n) := by
  induction n with
  | zero =>
    have hmin : min data.length (30 + 31 * 0) = 30 := by omega
    rw [hmin]
    exact ((bus.setRxBuffer data).blockRead_long rfl hlong).2
  | succ n ih =>
    have hmin : min data.length (min data.length (30 + 31 * n) + 31) =
        min data.length (30 + 31 * (n + 1)) := by omega
    have hnext := (testBus_multRead bus (UInt8.ofNat n)
      (show 0 < min data.length (30 + 31 * n) by omega) (Nat.min_le_left _ _)).2
    rw [hmin] at hnext
    rw [readStates, ih, hnext, UInt8.ofNat_add]
    rfl

theorem readBlocks_long (bus : TestBus) (hlong : 32 < data.length) (n : ℕ) :
    (readBlocks testBus (bus.setRxBuffer data) (n + 1)).Delivers
      (UInt8.ofNat n :: (data.drop (30 + 31 * n)).take 31) := by
  have hblock := (testBus_multRead bus (UInt8.ofNat n)
    (show 0 < min data.length (30 + 31 * n) by omega) (Nat.min_le_left _ _)).1
  rw [drop_min_length] at hblock
  rw [readBlocks, readStates_long hlong]
  exact hblock

theorem inOrder_long (bus : TestBus) (hlong : 32 < data.length) (hn : n ≤ 255) :
    InOrder (readBlocks testBus (bus.setRxBuffer data)) (n + 1) (data.take (30 + 31 * n)) := by
  induction n with
  | zero =>
    have hfirst := ((bus.setRxBuffer data).blockRead_long rfl hlong).1
    have hslice : (bus.setRxBuffer data).rxBuffer.slice 0 30 = data.take 30 :=
      Memory.slice_store_zero (by omega)
    rw [hslice] at hfirst
    exact .start hfirst
  | succ n ih =>
    have hoffset : 30 + 31 * (n + 1) = 30 + 31 * n + 31 := by omega
    rw [hoffset, List.take_add]
    exact .next (ih (by omega)) (by omega) (readBlocks_long bus hlong n)

/-- The message ends with the block 255, whose number is that of a last block. -/
theorem endsAt_long (hlong : 32 < data.length) (hlt : data.length < 256) :
    EndsAt (readBlocks testBus (bus.setRxBuffer data)) 256 data := by
  have hopening := inOrder_long bus hlong (Nat.le_refl 255)
  have hlast := readBlocks_long bus hlong 255
  rw [List.take_of_length_le (by omega)] at hopening
  rw [List.drop_eq_nil_of_le (by omega)] at hlast
  have hend := EndsAt.multi hopening hlast
  rwa [List.take_nil, List.append_nil] at hend

theorem framed_long (hlong : 32 < data.length) :
    Framed (readBlocks testBus (bus.setRxBuffer data)) := by
  intro n _
  cases n with
  | zero =>
    have hfirst := ((bus.setRxBuffer data).blockRead_long rfl hlong).1
    rw [readBlocks]
    exact hfirst.2 ▸ by simp
  | succ n =>
    rw [(readBlocks_long bus hlong n).2]
    simp

/-! ### A short message -/

theorem readBlocks_short (bus : TestBus) (hpos : data ≠ []) (hshort : data.length ≤ 32) :
    (readBlocks testBus (bus.setRxBuffer data) 0).Delivers data := by
  have hsize : (bus.setRxBuffer data).rxSize ≠ 0 := fun h => hpos (List.length_eq_zero_iff.1 h)
  have hfirst := ((bus.setRxBuffer data).blockRead_short rfl hsize hshort).1
  have hslice : (bus.setRxBuffer data).rxBuffer.slice 0 (bus.setRxBuffer data).rxSize = data :=
    Memory.slice_store_self 0 data
  rw [hslice] at hfirst
  exact hfirst

theorem readStates_short (hpos : data ≠ []) (hshort : data.length ≤ 32) (n : ℕ) :
    readStates testBus (bus.setRxBuffer data) (n + 1) =
      (bus.setRxBuffer data).served data.length (bus.rxBlock + UInt8.ofNat n) := by
  induction n with
  | zero =>
    have hsize : (bus.setRxBuffer data).rxSize ≠ 0 := fun h => hpos (List.length_eq_zero_iff.1 h)
    have hfirst := ((bus.setRxBuffer data).blockRead_short rfl hsize hshort).2
    have hzero : bus.rxBlock + UInt8.ofNat 0 = bus.rxBlock := UInt8.add_zero _
    rw [hzero]
    exact hfirst
  | succ n ih =>
    have hnext := (testBus_multRead bus (bus.rxBlock + UInt8.ofNat n)
      (List.length_pos_iff.2 hpos) (Nat.le_refl _)).2
    rw [Nat.min_eq_left (Nat.le_add_right _ _)] at hnext
    rw [readStates, ih, hnext, UInt8.ofNat_add, UInt8.add_assoc]
    rfl

/-- Behind a short message there are blocks without payload. -/
theorem readBlocks_behind (hpos : data ≠ []) (hshort : data.length ≤ 32) (n : ℕ) :
    (readBlocks testBus (bus.setRxBuffer data) (n + 1)).Delivers
      [bus.rxBlock + UInt8.ofNat n] := by
  have hblock := (testBus_multRead bus (bus.rxBlock + UInt8.ofNat n)
    (List.length_pos_iff.2 hpos) (Nat.le_refl _)).1
  rw [List.drop_length, List.take_nil] at hblock
  rw [readBlocks, readStates_short hpos hshort]
  exact hblock

theorem framed_short (htwo : 2 ≤ data.length) (hshort : data.length ≤ 32) :
    Framed (readBlocks testBus (bus.setRxBuffer data)) := by
  have hpos : data ≠ [] := List.length_pos_iff.1 (by omega)
  intro n _
  cases n with
  | zero => rwa [(readBlocks_short bus hpos hshort).2, if_pos rfl]
  | succ n =>
    rw [(readBlocks_behind hpos hshort n).2]
    simp

/-- A short message that starts like a multi-part one loses its first two bytes. -/
theorem EndsAt.eq_drop (hstart : [0, 1] <+: data) (hshort : data.length ≤ 32) {p : List UInt8}
    (hend : EndsAt (readBlocks testBus (bus.setRxBuffer data)) n p) : p = data.drop 2 := by
  have hpos : data ≠ [] := by
    rintro rfl
    simp at hstart
  have hfirst := readBlocks_short bus hpos hshort
  have hopening : ∀ m q, InOrder (readBlocks testBus (bus.setRxBuffer data)) (m + 1) q →
      q = data.drop 2 := by
    intro m
    induction m with
    | zero =>
      rintro q (_ | hblock)
      rw [hfirst.unique hblock]
      rfl
    | succ m ih =>
      rintro q (_ | _ | ⟨hq, -, hblock⟩)
      have hnil := (List.cons.inj (hblock.unique (readBlocks_behind hpos hshort m))).2
      rw [hnil, List.append_nil, ih _ hq]
  cases hend with
  | single hblock hnot =>
    rw [hblock.unique hfirst] at hnot
    exact absurd hstart hnot
  | @multi k q r hq hlast =>
    have hnil := (List.cons.inj (hlast.unique (readBlocks_behind hpos hshort k))).2
    rw [hnil, List.append_nil, hopening k q hq]

end

/-- **The read test**, for every message: it is received exactly if it is not a short one that
starts like a multi-part message. -/
theorem receiveBmcDataFromPort_setRxBuffer_iff {fuel : ℕ} (hfuel : 256 < fuel) {data : List UInt8}
    (htwo : 2 ≤ data.length) (bus : TestBus) (stack memory : Memory UInt8) (dataSize : UInt8)
    (hfits : data.length ≤ dataSize.toNat) :
    ((receiveBmcDataFromPort fuel stack memory dataSize).Ends testBus (bus.setRxBuffer data)
        fun received _ => received.status = .success ∧
          received.dataSize.toNat = data.length ∧ received.data.slice 0 data.length = data) ↔
      ¬ (data.length ≤ 32 ∧ [0, 1] <+: data) := by
  have hlt : data.length < 256 := Nat.lt_of_le_of_lt hfits dataSize.toNat_lt
  have hserves := serves_readBlocks (h := testBus) (bus.setRxBuffer data) fun _ => rfl
  have hpos : data ≠ [] := List.length_pos_iff.1 (by omega)
  have hframed : Framed (readBlocks testBus (bus.setRxBuffer data)) := by
    rcases Nat.lt_or_ge 32 data.length with hlong | hshort
    · exact framed_long hlong
    · exact framed_short htwo hshort
  have hends := receiveBmcDataFromPort_result hfuel hserves rfl hframed stack memory dataSize
  constructor
  · rintro hreceived ⟨hshort, hstart⟩
    obtain ⟨received, _, _, -, ⟨hresult, -⟩, hsucc, hsize, -⟩ :=
      ends_iff_exec.1 (hends.and hreceived)
    rcases hresult with ⟨-, n, p, hend, -, hsize', -⟩ | ⟨-, hrefused⟩
    · rw [hend.eq_drop hstart hshort, hsize, List.length_drop] at hsize'
      omega
    · exact hrefused.ne_success hsucc
  · intro hnot
    have hend : ∃ n, EndsAt (readBlocks testBus (bus.setRxBuffer data)) n data := by
      rcases Nat.lt_or_ge 32 data.length with hlong | hshort
      · exact ⟨256, endsAt_long hlong hlt⟩
      · exact ⟨0, .single (readBlocks_short bus hpos hshort) fun hstart => hnot ⟨hshort, hstart⟩⟩
    obtain ⟨n, hend⟩ := hend
    exact hends.mono fun received _ hresult => hresult.1.of_endsAt hend hfits

/-- A long message may start with `00 01`. -/
theorem receiveBmcDataFromPort_setRxBuffer_long :
    (receiveBmcDataFromPort 257 (fun _ => 0) (fun _ => 0) 255).Ends testBus
        (smbusTestLibReset.setRxBuffer (0 :: 1 :: List.replicate 40 0x5A)) fun received _ =>
      received.status = .success ∧
        received.dataSize.toNat = (0 :: 1 :: List.replicate 40 (0x5A : UInt8)).length ∧
        received.data.slice 0 (0 :: 1 :: List.replicate 40 (0x5A : UInt8)).length =
          0 :: 1 :: List.replicate 40 0x5A := by
  have hlength : (0 :: 1 :: List.replicate 40 (0x5A : UInt8)).length ≤ (255 : UInt8).toNat := by
    decide
  refine (receiveBmcDataFromPort_setRxBuffer_iff (by decide) ?_ smbusTestLibReset (fun _ => 0)
    (fun _ => 0) 255 hlength).2 ?_
  · decide
  · decide

end Ssif

end IpmiFeature
