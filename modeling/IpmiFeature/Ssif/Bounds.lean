import IpmiFeature.Ssif.Receive

/-!
# What an SSIF receive takes from the bus

* `receiveBmcDataFromPort_readsInOrder` : on every bus a receive makes at most 257 block reads.
  Blocks without payload do not fill the buffer, but each block that goes on has the next number,
  and the number 255 is the end marker.
* `receiveBmcDataFromPort_onlyDelivered_iff` : a receive uses only bytes of the block it has just
  read, and its outcome does not depend on what `BlockBuffer` holds at first, exactly if no block
  that it reads is shorter than the header that is looked at.
-/

namespace IpmiFeature

open Interaction Prog

namespace Ssif

/-! ### The number of block reads -/

/-- The block read of an event. -/
def readOf : BusEvent → Option (UInt8 × BlockRead)
  | ⟨.bmcSmbusBlockRead command, read⟩ => some (command, read)
  | _ => none

/-- The block reads of a trace, with their commands. -/
def readsOf (tr : List BusEvent) : List (UInt8 × BlockRead) := tr.filterMap readOf

/-- What `BlockBuffer` holds after the block reads. -/
def bufferAfter (stack : Memory UInt8) (reads : List (UInt8 × BlockRead)) : Memory UInt8 :=
  reads.foldl (fun buffer read => buffer.store 0 read.2.block) stack

/-- The longest sequence of read commands. -/
def readCommands : List UInt8 := smbusCmdRead :: List.replicate 256 smbusCmdMultRead

/-- The block reads of a receive. -/
structure ReadsInOrder (stack : Memory UInt8) (reads : List (UInt8 × BlockRead)) : Prop where
  /-- One `SMBUS_CMD_READ`, then `SMBUS_CMD_MULT_READ` only. -/
  commands : reads.map Prod.fst <+: readCommands
  /-- The blocks between the first and the last one are numbered from 0, and not beyond 254. -/
  numbers : ∀ i, i + 2 < reads.length →
    bufferAfter stack (reads.take (i + 2)) 0 = UInt8.ofNat i ∧ i < 255

/-- The loop of a receive after the block reads `reads`. -/
structure ReadsSoFar (stack : Memory UInt8) (reads : List (UInt8 × BlockRead)) (s : ReceiveState) :
    Prop where
  /-- The blocks so far are in the buffer. -/
  buffer_eq : s.blockBuffer = bufferAfter stack reads
  /-- The commands so far. -/
  commands : reads.map Prod.fst = readCommands.take reads.length
  /-- The numbers of the blocks after the first one. -/
  numbers : ∀ i, i + 1 < reads.length →
    bufferAfter stack (reads.take (i + 2)) 0 = UInt8.ofNat i ∧ i < 255
  /-- There are not too many of them. -/
  length_le : reads.length ≤ 256
  /-- The next command, and the number that is expected. -/
  next : reads = [] ∧ s.smbusCmd = smbusCmdRead ∨
    ∃ k, reads.length = k + 1 ∧ s.smbusCmd = smbusCmdMultRead ∧ s.blockNumber = UInt8.ofNat k

theorem bufferAfter_append (stack : Memory UInt8) (reads : List (UInt8 × BlockRead)) (command : UInt8)
    (read : BlockRead) : bufferAfter stack (reads ++ [(command, read)]) =
      (bufferAfter stack reads).store 0 read.block := by
  unfold bufferAfter
  rw [List.foldl_append]
  rfl

/-- An iteration that goes on: the block is in the buffer, and its number is the expected one. -/
structure GoesOn (s : ReceiveState) (read : BlockRead) (s' : ReceiveState) : Prop where
  /-- The block is in the buffer. -/
  buffer_eq : s'.blockBuffer = s.blockBuffer.store 0 read.block
  /-- The next block is a later one. -/
  cmd_eq : s.smbusCmd = smbusCmdRead ∨ s.smbusCmd = smbusCmdMultRead → s'.smbusCmd = smbusCmdMultRead
  /-- The number that is expected after the first block. -/
  number_zero : s.smbusCmd = smbusCmdRead → s'.blockNumber = 0
  /-- The number that was expected of a later block, and the next one. -/
  number_succ : s.smbusCmd ≠ smbusCmdRead → s'.blockBuffer 0 = s.blockNumber ∧
    s.blockNumber ≠ 0xFF ∧ s'.blockNumber = s.blockNumber + 1

theorem copyBlock_eq_again {dataSize readSize offset : UInt8} {last : Bool} {s s' : ReceiveState}
    (h : copyBlock dataSize readSize offset last s = .again s') :
    s'.blockBuffer = s.blockBuffer ∧ s'.smbusCmd = s.smbusCmd ∧ s'.blockNumber = s.blockNumber := by
  unfold copyBlock at h
  dsimp only at h
  split_ifs at h
  cases h
  exact ⟨rfl, rfl, rfl⟩

/-- One iteration makes one block read. -/
theorem readBlock_satisfies (E : Prop) (dataSize : UInt8) (s : ReceiveState) :
    (readBlock dataSize s).Satisfies E fun tr i => ∃ read, readsOf tr = [(s.smbusCmd, read)] ∧
      ∀ s', i = .again s' → GoesOn s read s' := by
  have hend : ∀ (received : Received) (s' : ReceiveState),
      ¬ (Iter.done received : Iter ReceiveState Received) = .again s' := by
    intro received s' h
    cases h
  have hlast : ∀ (readSize offset : UInt8) (s s' : ReceiveState),
      ¬ copyBlock dataSize readSize offset true s = .again s' := by
    intro readSize offset s s' h
    unfold copyBlock at h
    dsimp only at h
    split_ifs at h
    exact absurd rfl ‹¬ true = true›
  unfold readBlock
  rw [satisfies_blockRead_bind]
  intro read
  dsimp only
  by_cases herr : read.status.isError
  · rw [if_pos herr]
    exact ⟨read, rfl, fun s' h => absurd h (hend _ s')⟩
  rw [if_neg herr]
  by_cases hcmd : s.smbusCmd = smbusCmdRead
  · rw [if_pos hcmd]
    by_cases hmulti : s.blockBuffer.store 0 read.block 0 = 0 ∧ s.blockBuffer.store 0 read.block 1 = 1
    · have hagain : ∀ s', copyBlock dataSize (UInt8.ofNat read.block.length) 2 false
          { s with smbusCmd := smbusCmdMultRead, blockBuffer := s.blockBuffer.store 0 read.block,
                   blockNumber := 0 } = .again s' → GoesOn s read s' := by
        intro s' h
        obtain ⟨hbuffer, hcmd', hnumber⟩ := copyBlock_eq_again h
        exact ⟨hbuffer, fun _ => hcmd', fun _ => hnumber, fun hne => absurd hcmd hne⟩
      rw [if_pos hmulti]
      unfold assert
      split_ifs
      · exact ⟨read, rfl, hagain⟩
      · intro answer
        exact ⟨read, rfl, hagain⟩
    · rw [if_neg hmulti]
      exact ⟨read, rfl, fun s' h => absurd h (hlast _ _ _ s')⟩
  rw [if_neg hcmd]
  by_cases hmarker : s.blockBuffer.store 0 read.block 0 = 0xFF
  · rw [if_pos hmarker]
    exact ⟨read, rfl, fun s' h => absurd h (hlast _ _ _ s')⟩
  rw [if_neg hmarker]
  by_cases horder : s.blockBuffer.store 0 read.block 0 = s.blockNumber
  · rw [if_neg (not_not_intro horder)]
    refine ⟨read, rfl, fun s' h => ?_⟩
    obtain ⟨hbuffer, hcmd', hnumber⟩ := copyBlock_eq_again h
    refine ⟨hbuffer, fun h => hcmd'.trans (h.resolve_left hcmd), fun h => absurd h hcmd, fun _ => ?_⟩
    rw [hbuffer, hnumber, ← horder]
    exact ⟨rfl, hmarker, rfl⟩
  · rw [if_pos horder]
    exact ⟨read, rfl, fun s' h => absurd h (hend _ s')⟩

/-- The block reads so far and one more. -/
theorem ReadsSoFar.map_append {stack : Memory UInt8} {reads : List (UInt8 × BlockRead)}
    {s : ReceiveState} (h : ReadsSoFar stack reads s) (read : BlockRead) :
    (reads ++ [(s.smbusCmd, read)]).map Prod.fst = readCommands.take (reads.length + 1) := by
  have hnext : readCommands[reads.length]? = some s.smbusCmd := by
    rcases h.next with ⟨rfl, hcmd⟩ | ⟨k, hk, hcmd, -⟩
    · rw [hcmd]
      rfl
    · have hle := h.length_le
      rw [hcmd, hk]
      exact List.getElem?_replicate_of_lt (show k < 256 by omega)
  rw [List.map_append, h.commands, List.take_add_one, hnext]
  rfl

/-- After the last read. -/
theorem ReadsSoFar.readsInOrder {stack : Memory UInt8} {reads : List (UInt8 × BlockRead)}
    {s : ReceiveState} (h : ReadsSoFar stack reads s) (read : BlockRead) :
    ReadsInOrder stack (reads ++ [(s.smbusCmd, read)]) := by
  constructor
  · rw [h.map_append]
    exact List.take_prefix _ _
  · intro i hi
    rw [List.length_append] at hi
    have hlt : i + 2 ≤ reads.length := Nat.le_of_lt_succ hi
    rw [List.take_append_of_le_length hlt]
    exact h.numbers i hlt

/-- After a block that goes on. -/
theorem ReadsSoFar.goesOn {stack : Memory UInt8} {reads : List (UInt8 × BlockRead)}
    {s s' : ReceiveState} {read : BlockRead} (h : ReadsSoFar stack reads s) (hs : GoesOn s read s') :
    ReadsSoFar stack (reads ++ [(s.smbusCmd, read)]) s' := by
  have hbuffer : s'.blockBuffer = bufferAfter stack (reads ++ [(s.smbusCmd, read)]) := by
    rw [hs.buffer_eq, h.buffer_eq, bufferAfter_append]
  have hlength : (reads ++ [(s.smbusCmd, read)]).length = reads.length + 1 := List.length_append
  have hread : readCommands.take (reads ++ [(s.smbusCmd, read)]).length =
      (reads ++ [(s.smbusCmd, read)]).map Prod.fst := by rw [h.map_append, hlength]
  rcases h.next with ⟨rfl, hcmd⟩ | ⟨k, hk, hcmd, hnumber⟩
  · refine ⟨hbuffer, hread.symm, fun i hi => ?_, Nat.le_add_left 1 255,
      .inr ⟨0, rfl, hs.cmd_eq (.inl hcmd), ?_⟩⟩
    · exact absurd (Nat.lt_of_succ_lt_succ hi) (Nat.not_lt_zero i)
    · exact hs.number_zero hcmd
  · obtain ⟨hexpected, hmarker, hsucc⟩ := hs.number_succ (by rw [hcmd]; decide)
    have hle := h.length_le
    -- the number 255 is the end marker
    have hk255 : k ≠ 255 := by
      rintro rfl
      exact hmarker hnumber
    refine ⟨hbuffer, hread.symm, fun i hi => ?_, by omega, .inr ⟨k + 1, by omega, ?_, ?_⟩⟩
    · rw [hlength] at hi
      by_cases hlast : i = k
      · subst hlast
        rw [List.take_of_length_le (by omega), ← hbuffer, hexpected, hnumber]
        exact ⟨rfl, by omega⟩
      · have hlt : i + 2 ≤ reads.length := by omega
        rw [List.take_append_of_le_length hlt]
        exact h.numbers i hlt
    · exact hs.cmd_eq (.inr hcmd)
    · rw [hsucc, hnumber]
      exact (UInt8.ofNat_add k 1).symm

theorem ReadsSoFar.blocksLeft_eq {stack : Memory UInt8} {reads : List (UInt8 × BlockRead)}
    {s : ReceiveState} (h : ReadsSoFar stack reads s) : blocksLeft s = 256 - reads.length :=
  Ssif.blocksLeft_eq h.length_le (h.next.imp_left (And.imp_left List.length_eq_zero_iff.2))

/-- The first read of a receive has the command of a first block. -/
theorem ReadsInOrder.head?_eq {stack : Memory UInt8} {reads : List (UInt8 × BlockRead)}
    (h : ReadsInOrder stack reads) (hne : reads ≠ []) :
    ∃ read, reads.head? = some (smbusCmdRead, read) := by
  cases reads with
  | nil => exact absurd rfl hne
  | cons first rest =>
    have hcmd : first.1 = smbusCmdRead := (List.cons_prefix_cons.1 h.commands).1
    refine ⟨first.2, ?_⟩
    rw [← hcmd]
    rfl

/-- The loop of a receive returns after one block read at least, and its block reads are in
order. -/
theorem receiveLoop_readsInOrder {fuel : ℕ} (hfuel : 256 < fuel) (stack data : Memory UInt8)
    (dataSize : UInt8) :
    (loop (readBlock dataSize) fuel ⟨0, smbusCmdRead, stack, 0, data⟩).Satisfies False
      fun tr _ => readsOf tr ≠ [] ∧ ReadsInOrder stack (readsOf tr) := by
  refine satisfies_loop_total (I := fun tr s => ReadsSoFar stack (readsOf tr) s)
    (Q := fun tr _ => readsOf tr ≠ [] ∧ ReadsInOrder stack (readsOf tr)) blocksLeft
    (fun tr s hI => ?_) ?_ hfuel
  · refine (readBlock_satisfies False dataSize s).mono fun tr' i hi => ?_
    obtain ⟨read, hread, hagain⟩ := hi
    have happend : readsOf (tr ++ tr') = readsOf tr ++ [(s.smbusCmd, read)] := by
      rw [← hread]
      exact List.filterMap_append
    cases i with
    | again s' =>
      have hI' := hI.goesOn (hagain s' rfl)
      rw [← happend] at hI'
      refine ⟨hI', ?_⟩
      have hle := hI'.length_le
      rw [hI'.blocksLeft_eq, hI.blocksLeft_eq]
      rw [happend, List.length_append] at hle ⊢
      have hone : [(s.smbusCmd, read)].length = 1 := rfl
      omega
    | done received =>
      change readsOf (tr ++ tr') ≠ [] ∧ ReadsInOrder stack (readsOf (tr ++ tr'))
      rw [happend]
      exact ⟨List.concat_ne_nil _ _, hI.readsInOrder read⟩
  · exact ⟨rfl, rfl, fun i hi => absurd hi (Nat.not_lt_zero _), Nat.zero_le _, .inl ⟨rfl, rfl⟩⟩

/-- The accesses of a receive begin with `BmcSmbusOpen`.  Exactly after an open that succeeds there
is a block read, and the first one is `SMBUS_CMD_READ`. -/
def OpensFirst (tr : List BusEvent) : Prop :=
  ∃ status, tr.head? = some ⟨.bmcSmbusOpen, status⟩ ∧
    (status = .success ↔ ∃ read, (readsOf tr).head? = some (smbusCmdRead, read))

/-- **Receive is bounded.**  On every bus `ReceiveBmcDataFromPort` returns, after at most 257 block
reads: one `SMBUS_CMD_READ` and then `SMBUS_CMD_MULT_READ` only.  The blocks that go on are numbered
from 0 and no number comes twice. -/
theorem receiveBmcDataFromPort_readsInOrder {σ : Type} (bus : Handler BusCall BusCall.Answer σ) (s : σ)
    (stack data : Memory UInt8) (dataSize : UInt8) {fuel : ℕ} (hfuel : 256 < fuel) :
    ∃ received tr s', (receiveBmcDataFromPort fuel stack data dataSize).exec bus s =
        some (received, tr, s') ∧
      (readsOf tr).length ≤ 257 ∧ ReadsInOrder stack (readsOf tr) ∧ OpensFirst tr := by
  have hnone : ReadsInOrder stack [] :=
    ⟨List.nil_prefix, fun i hi => absurd hi (Nat.not_lt_zero _)⟩
  have hreads : (receiveBmcDataFromPort fuel stack data dataSize).Satisfies False
      fun tr _ => ReadsInOrder stack (readsOf tr) ∧ OpensFirst tr := by
    unfold receiveBmcDataFromPort
    rw [satisfies_open_bind]
    intro status
    by_cases herr : status.isError
    · rw [if_pos herr]
      refine ⟨hnone, status, rfl, fun hsuccess => ?_, fun hread => ?_⟩
      · exact absurd hsuccess (EfiStatus.isError_iff.1 herr)
      · obtain ⟨read, hhead⟩ := hread
        cases hhead
    · rw [if_neg herr, satisfies_bind]
      refine (receiveLoop_readsInOrder hfuel stack data dataSize).mono fun tr received htr => ?_
      rw [satisfies_close_bind]
      intro closed
      have hclose : readsOf (⟨.bmcSmbusOpen, status⟩ :: (tr ++ [⟨.bmcSmbusClose, closed⟩])) =
          readsOf tr := by
        have happend : readsOf (tr ++ [⟨.bmcSmbusClose, closed⟩]) = readsOf tr ++ [] :=
          List.filterMap_append
        exact happend.trans (List.append_nil _)
      have hsuccess : status = .success := not_not.1 (mt EfiStatus.isError_iff.2 herr)
      obtain ⟨hne, horder⟩ := htr
      rw [← hclose] at hne horder
      exact ⟨horder, status, rfl, fun _ => horder.head?_eq hne, fun _ => hsuccess⟩
  obtain ⟨received, tr, s', hrun, horder, hfirst⟩ := hreads.exists_exec bus s
  refine ⟨received, tr, s', hrun, ?_, horder, hfirst⟩
  have hlength := horder.commands.length_le
  rw [List.length_map, readCommands, List.length_cons, List.length_replicate] at hlength
  exact hlength

theorem receiveBmcDataFromPort_readsInOrder_threeBlocks : ∃ received tr s',
    (receiveBmcDataFromPort 257 (fun _ => 0) (fun _ => 0) 3).exec threeBlocks.bus 0 =
        some (received, tr, s') ∧
      (readsOf tr).length ≤ 257 ∧ ReadsInOrder (fun _ => 0) (readsOf tr) ∧ OpensFirst tr :=
  receiveBmcDataFromPort_readsInOrder threeBlocks.bus 0 (fun _ => 0) (fun _ => 0) 3 (by decide)

/-! ### The bytes of the block buffer -/

/-- The indices of `BlockBuffer` that the end of an iteration copies. -/
def copyReads (dataSize readSize blockDataOffset : UInt8) (s : ReceiveState) : List ℕ :=
  let blockDataSize := readSize - blockDataOffset
  if s.dataOffset.toNat + blockDataSize.toNat > dataSize.toNat then []
  else List.range' blockDataOffset.toNat blockDataSize.toNat

/-- The indices of `BlockBuffer` that an iteration looks at or copies. -/
def bufferReads (dataSize : UInt8) (s : ReceiveState) (read : BlockRead) : List ℕ :=
  let readSize := UInt8.ofNat read.block.length
  let blockBuffer := s.blockBuffer.store 0 read.block
  if read.status.isError then []
  else if s.smbusCmd = smbusCmdRead then
    if blockBuffer 0 = 0 then
      0 :: 1 :: copyReads dataSize readSize (if blockBuffer 1 = 1 then 2 else 0) s
    else 0 :: copyReads dataSize readSize 0 s
  else if blockBuffer 0 ≠ 0xFF ∧ blockBuffer 0 ≠ s.blockNumber then [0]
  else 0 :: copyReads dataSize readSize 1 s

/-- The state of the loop before block `n`. -/
inductive Reached (script : BusScript) (dataSize : UInt8) (s₀ : ReceiveState) : ℕ → ReceiveState → Prop
  /-- The first block. -/
  | start : Reached script dataSize s₀ 0 s₀
  /-- A later block. -/
  | read {n : ℕ} {s s' : ReceiveState} {tr : List BusEvent} (h : Reached script dataSize s₀ n s)
      (hread : (readBlock dataSize s).exec script.bus n = some (.again s', tr, n + 1)) :
      Reached script dataSize s₀ (n + 1) s'

/-- A receive uses only what the bus has delivered. -/
structure OnlyDelivered (script : BusScript) (dataSize : UInt8) (data : Memory UInt8) : Prop where
  /-- Every byte of `BlockBuffer` that is used is one of the block just read, and in the buffer. -/
  reads_lt : script.opened = .success → ∀ stack n s,
    Reached script dataSize ⟨0, smbusCmdRead, stack, 0, data⟩ n s →
      ∀ i ∈ bufferReads dataSize s (script.reads n),
        i < (script.reads n).block.length ∧ i < ssifMaxReadBufferSize.toNat
  /-- What `BlockBuffer` holds at first makes no difference. -/
  independent : ∀ fuel stack stack', (receiveBmcDataFromPort fuel stack data dataSize).exec script.bus 0 =
    (receiveBmcDataFromPort fuel stack' data dataSize).exec script.bus 0

/-- The states of the loop that differ in `BlockBuffer` only. -/
def SameBut (s t : ReceiveState) : Prop := ∃ buffer, t = { s with blockBuffer := buffer }

theorem copyBlock_related {dataSize readSize offset : UInt8} {last : Bool} {s : ReceiveState}
    {buffer : Memory UInt8}
    (h : ∀ i ∈ copyReads dataSize readSize offset s, buffer i = s.blockBuffer i) :
    Iter.Related SameBut (copyBlock dataSize readSize offset last s)
      (copyBlock dataSize readSize offset last { s with blockBuffer := buffer }) := by
  unfold copyReads at h
  unfold copyBlock
  dsimp only at h ⊢
  by_cases hfull : s.dataOffset.toNat + (readSize - offset).toNat > dataSize.toNat
  · rw [if_pos hfull, if_pos hfull]
    exact .done _
  · rw [if_neg hfull] at h
    have hslice : buffer.slice offset.toNat (readSize - offset).toNat =
        s.blockBuffer.slice offset.toNat (readSize - offset).toNat :=
      Memory.slice_congr fun i hi => h _ (List.mem_range'_1.2 ⟨Nat.le_add_right _ _, by omega⟩)
    rw [if_neg hfull, if_neg hfull, hslice]
    cases last with
    | true => exact .done _
    | false => exact .again ⟨buffer, rfl⟩

theorem exec_blockRead_bind {script : BusScript} {n : ℕ} {α : Type} {command : UInt8}
    {f : BlockRead → BusProg α} : (bmcSmbusBlockRead command >>= f).exec script.bus n =
      ((f (script.reads n)).exec script.bus (n + 1)).map fun x =>
        (x.1, ⟨.bmcSmbusBlockRead command, script.reads n⟩ :: x.2.1, x.2.2) := rfl

/-- An iteration that uses only bytes of the block it reads does not depend on `BlockBuffer`. -/
theorem readBlock_related {script : BusScript} {n : ℕ} {dataSize : UInt8} {s t : ReceiveState}
    (hst : SameBut s t) (h : ∀ i ∈ bufferReads dataSize s (script.reads n),
      i < (script.reads n).block.length) : ∃ i j tr,
      (readBlock dataSize s).exec script.bus n = some (i, tr, n + 1) ∧
        (readBlock dataSize t).exec script.bus n = some (j, tr, n + 1) ∧ Iter.Related SameBut i j := by
  obtain ⟨buffer, rfl⟩ := hst
  -- the bytes of the block are the same in both runs
  have hsame : ∀ i, i < (script.reads n).block.length →
      buffer.store 0 (script.reads n).block i = s.blockBuffer.store 0 (script.reads n).block i :=
    fun i hi => Memory.store_zero_eq_of_lt _ _ hi
  simp only [readBlock, exec_blockRead_bind]
  unfold bufferReads at h
  dsimp only at h
  by_cases herr : (script.reads n).status.isError
  · simp only [if_pos herr]
    exact ⟨_, _, _, rfl, rfl, .done _⟩
  rw [if_neg herr] at h
  have hzero := hsame 0
  simp only [if_neg herr]
  by_cases hcmd : s.smbusCmd = smbusCmdRead
  · rw [if_pos hcmd] at h
    simp only [if_pos hcmd]
    by_cases hfirst : s.blockBuffer.store 0 (script.reads n).block 0 = 0
    · rw [if_pos hfirst] at h
      obtain ⟨hzero_lt, hone_lt, hcopied⟩ := by simpa only [List.forall_mem_cons] using h
      rw [hzero hzero_lt, hsame 1 hone_lt]
      by_cases hmulti : s.blockBuffer.store 0 (script.reads n).block 1 = 1
      · rw [if_pos hmulti] at hcopied
        simp only [if_pos (And.intro hfirst hmulti)]
        unfold assert
        split_ifs
        · exact ⟨_, _, _, rfl, rfl, copyBlock_related fun i hi => hsame i (hcopied i hi)⟩
        · exact ⟨_, _, _, rfl, rfl, copyBlock_related fun i hi => hsame i (hcopied i hi)⟩
      · rw [if_neg hmulti] at hcopied
        simp only [if_neg fun hboth : _ ∧ _ => hmulti hboth.2]
        exact ⟨_, _, _, rfl, rfl, copyBlock_related fun i hi => hsame i (hcopied i hi)⟩
    · rw [if_neg hfirst] at h
      obtain ⟨hzero_lt, hcopied⟩ := by simpa only [List.forall_mem_cons] using h
      rw [hzero hzero_lt]
      simp only [if_neg fun hboth : _ ∧ _ => hfirst hboth.1]
      exact ⟨_, _, _, rfl, rfl, copyBlock_related fun i hi => hsame i (hcopied i hi)⟩
  · rw [if_neg hcmd] at h
    simp only [if_neg hcmd]
    by_cases horder : s.blockBuffer.store 0 (script.reads n).block 0 ≠ 0xFF ∧
        s.blockBuffer.store 0 (script.reads n).block 0 ≠ s.blockNumber
    · rw [if_pos horder] at h
      rw [hzero (h 0 List.mem_cons_self)]
      simp only [if_neg horder.1, if_pos horder.2]
      exact ⟨_, _, _, rfl, rfl, .done _⟩
    · rw [if_neg horder] at h
      obtain ⟨hzero_lt, hcopied⟩ := by simpa only [List.forall_mem_cons] using h
      rw [hzero hzero_lt]
      by_cases hlast : s.blockBuffer.store 0 (script.reads n).block 0 = 0xFF
      · simp only [if_pos hlast]
        exact ⟨_, _, _, rfl, rfl, copyBlock_related fun i hi => hsame i (hcopied i hi)⟩
      · simp only [if_neg hlast, if_neg fun hne => horder ⟨hlast, hne⟩]
        exact ⟨_, _, _, rfl, rfl, copyBlock_related fun i hi => hsame i (hcopied i hi)⟩

/-- A receive that uses only bytes of the blocks it reads does not depend on the stack. -/
theorem exec_eq_of_reads_lt {script : BusScript} {dataSize : UInt8} {data stack : Memory UInt8}
    (h : script.opened = .success → ∀ n s,
      Reached script dataSize ⟨0, smbusCmdRead, stack, 0, data⟩ n s →
        ∀ i ∈ bufferReads dataSize s (script.reads n), i < (script.reads n).block.length)
    (fuel : ℕ) (stack' : Memory UInt8) :
    (receiveBmcDataFromPort fuel stack data dataSize).exec script.bus 0 =
      (receiveBmcDataFromPort fuel stack' data dataSize).exec script.bus 0 := by
  by_cases hopened : script.opened = .success
  · have hloop : (loop (readBlock dataSize) fuel ⟨0, smbusCmdRead, stack, 0, data⟩).exec script.bus 0 =
        (loop (readBlock dataSize) fuel ⟨0, smbusCmdRead, stack', 0, data⟩).exec script.bus 0 := by
      refine exec_loop_congr (r := fun n s t =>
        Reached script dataSize ⟨0, smbusCmdRead, stack, 0, data⟩ n s ∧ SameBut s t) ?_ fuel 0 _ _
          ⟨.start, stack', rfl⟩
      rintro n s t ⟨hreached, hst⟩
      obtain ⟨i, j, tr, hs, ht, hij⟩ := readBlock_related hst (h hopened n s hreached)
      refine ⟨i, j, tr, n + 1, hs, ht, ?_⟩
      cases hij with
      | again hst' => exact .again ⟨.read hreached hs, hst'⟩
      | done received => exact .done received
    have hopen : (bmcSmbusOpen).exec script.bus 0 =
        some (script.opened, [⟨.bmcSmbusOpen, script.opened⟩], 0) := rfl
    have herr : ¬ script.opened.isError = true := by simp [hopened]
    unfold receiveBmcDataFromPort
    rw [exec_bind_eq hopen, exec_bind_eq hopen, if_neg herr, if_neg herr, exec_bind_congr hloop]
  · have hopen : (bmcSmbusOpen).exec script.bus 0 =
        some (script.opened, [⟨.bmcSmbusOpen, script.opened⟩], 0) := rfl
    have herr : script.opened.isError = true := EfiStatus.isError_iff.2 hopened
    unfold receiveBmcDataFromPort
    rw [exec_bind_eq hopen, exec_bind_eq hopen, if_pos herr, if_pos herr]

/-! ### Short blocks -/

/-- A block that a receive with capacity `capacity` reads is too short for the header that is looked
at. -/
def ReadsShort (script : BusScript) (capacity : ℕ) : Prop :=
  script.opened = .success ∧ ∃ n p, InOrder script.reads n p ∧ p.length ≤ capacity ∧
    (script.reads n).status = .success ∧ TooShort n (script.reads n).block

variable {script : BusScript} {dataSize : UInt8} {s : ReceiveState} {n : ℕ} {p : List UInt8}

theorem lt_of_mem_copyReads {offset : UInt8} {block : List UInt8}
    (hlen : block.length ≤ ssifMaxReadBufferSize.toNat) (hoffset : offset.toNat ≤ block.length) {i : ℕ}
    (hi : i ∈ copyReads dataSize (UInt8.ofNat block.length) offset s) : i < block.length := by
  have hmax : ssifMaxReadBufferSize.toNat = 64 := rfl
  have hsize : (UInt8.ofNat block.length).toNat = block.length :=
    UInt8.toNat_ofNat_of_lt' (show block.length < 256 by omega)
  have hsub : (UInt8.ofNat block.length - offset).toNat = block.length - offset.toNat := by
    rw [UInt8.toNat_sub_of_le _ _ (UInt8.le_iff_toNat_le.2 (by rw [hsize]; exact hoffset)), hsize]
  unfold copyReads at hi
  dsimp only at hi
  split_ifs at hi
  · exact absurd hi List.not_mem_nil
  · have hrange := List.mem_range'_1.1 hi
    rw [hsub] at hrange
    omega

/-- An iteration whose block has its header uses only bytes of the block. -/
theorem bufferReads_lt (hI : ReceiveProgress script.reads dataSize s n p)
    (hheader : (script.reads n).status = .success → ¬ TooShort n (script.reads n).block) :
    ∀ i ∈ bufferReads dataSize s (script.reads n), i < (script.reads n).block.length := by
  have hle := (script.reads n).block_le
  unfold bufferReads
  dsimp only
  by_cases hsucc : (script.reads n).status = .success
  swap
  · rw [if_pos (EfiStatus.isError_iff.2 hsucc)]
    exact fun i hi => absurd hi List.not_mem_nil
  have hshort := hheader hsucc
  rw [if_neg (by simp [hsucc])]
  generalize (script.reads n).block = block at hle hshort ⊢
  cases block with
  | nil =>
    refine absurd ?_ hshort
    unfold TooShort
    split_ifs
    · exact .inl rfl
    · rfl
  | cons b q =>
  have hpos : 0 < (b :: q).length := Nat.succ_pos _
  have hcopied : ∀ offset : UInt8, offset.toNat ≤ (b :: q).length →
      ∀ i ∈ copyReads dataSize (UInt8.ofNat (b :: q).length) offset s, i < (b :: q).length :=
    fun offset hoffset i hi => lt_of_mem_copyReads hle hoffset hi
  rw [store_zero_cons]
  rcases hI.next with ⟨rfl, hcmd⟩ | ⟨k, rfl, hcmd, -⟩
  · rw [if_pos hcmd]
    by_cases hb : b = 0
    · subst hb
      have htwo : 1 < ((0 : UInt8) :: q).length := by
        cases q with
        | nil => exact absurd (.inr rfl) hshort
        | cons c q => exact Nat.succ_lt_succ (Nat.succ_pos _)
      rw [if_pos rfl, List.forall_mem_cons, List.forall_mem_cons]
      refine ⟨hpos, htwo, hcopied _ ?_⟩
      split_ifs
      · exact htwo
      · exact Nat.zero_le _
    · rw [if_neg hb, List.forall_mem_cons]
      exact ⟨hpos, hcopied 0 (Nat.zero_le _)⟩
  · rw [if_neg (by rw [hcmd]; decide)]
    split_ifs
    · rw [List.forall_mem_cons]
      exact ⟨hpos, fun i hi => absurd hi List.not_mem_nil⟩
    · rw [List.forall_mem_cons]
      exact ⟨hpos, hcopied 1 hpos⟩

/-- The loop comes to every block that follows the opening of a message that fits. -/
theorem exists_reached {m : ℕ} {q : List UInt8} (h : InOrder script.reads m q)
    (hfits : q.length ≤ dataSize.toNat) (stack data : Memory UInt8) :
    ∃ s, Reached script dataSize ⟨0, smbusCmdRead, stack, 0, data⟩ m s ∧
      ReceiveProgress script.reads dataSize s m q := by
  -- one more block of the opening
  have hstep : ∀ {n : ℕ} {p q : List UInt8} {s : ReceiveState},
      Reached script dataSize ⟨0, smbusCmdRead, stack, 0, data⟩ n s →
        ReceiveProgress script.reads dataSize s n p → InOrder script.reads (n + 1) q →
          q.length ≤ dataSize.toNat →
            ∃ s', Reached script dataSize ⟨0, smbusCmdRead, stack, 0, data⟩ (n + 1) s' ∧
              ReceiveProgress script.reads dataSize s' (n + 1) q := by
    intro n p q s hreached hI hnext hfits
    obtain ⟨i, tr, n', hrun, rfl, hi⟩ := ends_iff_exec.1 (readBlock_next hI hnext)
    unfold Continued at hi
    rw [if_pos hfits] at hi
    obtain ⟨s', rfl, hI'⟩ := hi
    exact ⟨s', .read hreached hrun, hI'⟩
  have hstart : ReceiveProgress script.reads dataSize ⟨0, smbusCmdRead, stack, 0, data⟩ 0 [] :=
    ⟨.none, Nat.zero_le _, rfl, rfl, .inl ⟨rfl, rfl⟩⟩
  induction h with
  | none => exact ⟨_, .start, hstart⟩
  | start h => exact hstep .start hstart (.start h) hfits
  | @next k p q h hk hblock ih =>
    obtain ⟨s, hreached, hI⟩ := ih (Nat.le_trans (by simp) hfits)
    exact hstep hreached hI (.next h hk hblock) hfits

/-- If no block is too short, the loop keeps to the grammar. -/
theorem Reached.progress {stack data : Memory UInt8}
    (h : Reached script dataSize ⟨0, smbusCmdRead, stack, 0, data⟩ n s)
    (hopened : script.opened = .success) (hshort : ¬ ReadsShort script dataSize.toNat) :
    ∃ p, ReceiveProgress script.reads dataSize s n p := by
  induction h with
  | start => exact ⟨[], .none, Nat.zero_le _, rfl, rfl, .inl ⟨rfl, rfl⟩⟩
  | @read n s s' tr h hread ih =>
    obtain ⟨p, hI⟩ := ih
    exact ((readBlock_ends hI fun hstatus htoo =>
      hshort ⟨hopened, n, p, hI.inOrder, hI.fits, hstatus, htoo⟩).of_exec hread).2

/-- Of a block that is too short, a byte is used that it does not have. -/
theorem exists_mem_bufferReads (hI : ReceiveProgress script.reads dataSize s n p)
    (hstatus : (script.reads n).status = .success) (hshort : TooShort n (script.reads n).block) :
    ∃ i ∈ bufferReads dataSize s (script.reads n), (script.reads n).block.length ≤ i := by
  have hok : ¬ (script.reads n).status.isError = true := by simp [hstatus]
  unfold bufferReads
  dsimp only
  rw [if_neg hok]
  rcases hI.next with ⟨rfl, hcmd⟩ | ⟨k, rfl, hcmd, -⟩
  · rw [if_pos hcmd]
    rcases hshort with hblock | hblock
    · rw [hblock]
      refine ⟨0, ?_, Nat.le_refl 0⟩
      split_ifs <;> exact List.mem_cons_self
    · rw [hblock, store_zero_cons, if_pos rfl]
      exact ⟨1, List.mem_cons_of_mem _ List.mem_cons_self, Nat.le_refl 1⟩
  · have hblock : (script.reads (k + 1)).block = [] := hshort
    rw [if_neg (by rw [hcmd]; decide), hblock]
    refine ⟨0, ?_, Nat.le_refl 0⟩
    split_ifs <;> exact List.mem_cons_self

/-- **Only delivered bytes.**  A receive uses only bytes of the block it has just read, and its
outcome does not depend on what `BlockBuffer` holds at first, exactly if none of the blocks it reads
is too short for the header that is looked at. -/
theorem receiveBmcDataFromPort_onlyDelivered_iff (script : BusScript) (dataSize : UInt8)
    (data : Memory UInt8) :
    OnlyDelivered script dataSize data ↔ ¬ ReadsShort script dataSize.toNat := by
  constructor
  · rintro h ⟨hopened, n, p, hinOrder, hfits, hstatus, hshort⟩
    obtain ⟨s, hreached, hI⟩ := exists_reached hinOrder hfits (fun _ => 0) data
    obtain ⟨i, hi, hle⟩ := exists_mem_bufferReads hI hstatus hshort
    exact absurd (h.reads_lt hopened _ n s hreached i hi).1 (Nat.not_lt.2 hle)
  · intro hshort
    have hreads : ∀ stack, script.opened = .success → ∀ n s,
        Reached script dataSize ⟨0, smbusCmdRead, stack, 0, data⟩ n s →
          ∀ i ∈ bufferReads dataSize s (script.reads n), i < (script.reads n).block.length := by
      intro stack hopened n s hreached
      obtain ⟨p, hI⟩ := hreached.progress hopened hshort
      exact bufferReads_lt hI fun hstatus htoo =>
        hshort ⟨hopened, n, p, hI.inOrder, hI.fits, hstatus, htoo⟩
    refine ⟨fun hopened stack n s hreached i hi => ?_, fun fuel stack stack' =>
      exec_eq_of_reads_lt (hreads stack) fuel stack'⟩
    have hlt := hreads stack hopened n s hreached i hi
    exact ⟨hlt, Nat.lt_of_lt_of_le hlt (script.reads n).block_le⟩

/-- A bus that delivers empty blocks. -/
def emptyBlocks : BusScript where
  opened := .success
  closed := .success
  reads _ := ⟨.success, [], length_nil_le _⟩

/-- The content of the stack that starts like a multi-part message. -/
def staleStack : Memory UInt8 := fun i => if i = 1 then 1 else 0

/-- With an empty block the receive looks at bytes of the stack, and copies from it up to index 255
into a buffer that is large enough. -/
theorem receiveBmcDataFromPort_emptyBlocks :
    255 ∈ bufferReads 255 ⟨0, smbusCmdRead, staleStack, 0, fun _ => 0⟩ (emptyBlocks.reads 0) ∧
      ¬ OnlyDelivered emptyBlocks 255 fun _ => 0 := by
  have hmem : 255 ∈ bufferReads 255 ⟨0, smbusCmdRead, staleStack, 0, fun _ => 0⟩
      (emptyBlocks.reads 0) := by decide +kernel
  refine ⟨hmem, fun h => ?_⟩
  exact absurd (h.reads_lt rfl staleStack 0 _ .start 255 hmem).1 (by decide)

end Ssif

end IpmiFeature
