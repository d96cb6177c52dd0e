import IpmiFeature.Interaction.Blocks
import IpmiFeature.Interaction.Words
import IpmiFeature.Ssif.Trace

/-!
# The fragments of an SSIF message

`Fragmentation data fs` is the way the interface cuts a message into block writes: one
`SMBUS_CMD_WRITE` for a short message, otherwise a START block, MIDDLE blocks and an END block.
There is exactly one for each message.  `SendDataToBmcPort` writes its blocks in order, up to the
first one that fails: `sendDataToBmcPort_fragments`.
-/

namespace IpmiFeature

open Interaction Prog

namespace Ssif

/-! ### Fragmentation -/

/-- A block write: its command and its bytes. -/
abbrev Fragment := UInt8 × List UInt8

/-- The block writes that carry a message. -/
inductive Fragmentation (data : List UInt8) : List Fragment → Prop
  | single (h : data.length ≤ 32) : Fragmentation data [(smbusCmdWrite, data)]
  | multi {start last : List UInt8} {middles : List (List UInt8)} (hlen : 32 < data.length)
      (h : Blocked 32 data (start :: middles) last) :
      Fragmentation data ((smbusCmdMultWriteStart, start) ::
        (middles.map (Prod.mk smbusCmdMultWriteMiddle) ++ [(smbusCmdMultWriteEnd, last)]))

/-- The bytes of the blocks, joined. -/
def joined (fs : List Fragment) : List UInt8 := (fs.map Prod.snd).flatten

theorem Fragmentation.joined_eq {data : List UInt8} {fs : List Fragment}
    (h : Fragmentation data fs) : joined fs = data := by
  cases h with
  | single h => simp [joined]
  | multi hlen h =>
    have hflatten := h.flatten_eq
    simpa [joined, Function.comp_def] using hflatten

theorem Fragmentation.unique {data : List UInt8} {fs fs' : List Fragment}
    (h : Fragmentation data fs) (h' : Fragmentation data fs') : fs = fs' := by
  cases h with
  | single h =>
    cases h' with
    | single h' => rfl
    | multi hlen' h' => omega
  | multi hlen h =>
    cases h' with
    | single h' => omega
    | multi hlen' h' =>
      obtain ⟨hblocks, rfl⟩ := h.unique h'
      obtain ⟨rfl, rfl⟩ := List.cons.inj hblocks
      rfl

theorem exists_fragmentation {data : List UInt8} (hdata : data ≠ []) :
    ∃ fs, Fragmentation data fs := by
  by_cases hlen : data.length ≤ 32
  · exact ⟨_, .single hlen⟩
  · obtain ⟨blocks, last, h⟩ := Blocked.exists_blocks (show 0 < 32 by decide) hdata
    obtain ⟨rest, rfl, -⟩ := h.eq_cons (Nat.not_le.1 hlen)
    exact ⟨_, .multi (Nat.not_le.1 hlen) h⟩

/-! ### What is left to write -/

/-- The blocks still to be written, when the bytes `left` remain and `cmd` is the next command. -/
inductive Remaining : UInt8 → List UInt8 → List Fragment → Prop
  | none (cmd : UInt8) : Remaining cmd [] []
  | write {left : List UInt8} (hpos : 0 < left.length) (hle : left.length ≤ 32) :
      Remaining smbusCmdWrite left [(smbusCmdWrite, left)]
  | start {left b last : List UInt8} {blocks : List (List UInt8)}
      (h : Blocked 32 left (b :: blocks) last) :
      Remaining smbusCmdMultWriteStart left ((smbusCmdMultWriteStart, b) ::
        (blocks.map (Prod.mk smbusCmdMultWriteMiddle) ++ [(smbusCmdMultWriteEnd, last)]))
  | middle {left b last : List UInt8} {blocks : List (List UInt8)}
      (h : Blocked 32 left (b :: blocks) last) :
      Remaining smbusCmdMultWriteMiddle left ((smbusCmdMultWriteMiddle, b) ::
        (blocks.map (Prod.mk smbusCmdMultWriteMiddle) ++ [(smbusCmdMultWriteEnd, last)]))
  | last {left : List UInt8} (hpos : 0 < left.length) (hle : left.length ≤ 32) :
      Remaining smbusCmdMultWriteEnd left [(smbusCmdMultWriteEnd, left)]

/-- The command after `cmd`, when `remaining` bytes are left. -/
def nextCmd (cmd : UInt8) (remaining : ℕ) : UInt8 :=
  if (cmd = smbusCmdMultWriteStart ∨ cmd = smbusCmdMultWriteMiddle) ∧ remaining ≤ 32 then
    smbusCmdMultWriteEnd
  else if cmd = smbusCmdMultWriteStart then
    smbusCmdMultWriteMiddle
  else
    cmd

theorem Fragmentation.remaining {data : List UInt8} {fs : List Fragment}
    (h : Fragmentation data fs) (hdata : data ≠ []) :
    Remaining (if 32 < data.length then smbusCmdMultWriteStart else smbusCmdWrite) data fs := by
  cases h with
  | single h =>
    rw [if_neg (Nat.not_lt.2 h)]
    exact .write (List.length_pos_iff.2 hdata) h
  | multi hlen h =>
    rw [if_pos hlen]
    exact .start h

/-- After a full block of a multi-part message the rest is MIDDLE blocks and an END block. -/
theorem remaining_of_blocked {left last : List UInt8} {blocks : List (List UInt8)}
    (h : Blocked 32 left blocks last) {cmd : UInt8}
    (hcmd : cmd = smbusCmdMultWriteStart ∨ cmd = smbusCmdMultWriteMiddle) :
    Remaining (nextCmd cmd left.length) left
      (blocks.map (Prod.mk smbusCmdMultWriteMiddle) ++ [(smbusCmdMultWriteEnd, last)]) := by
  by_cases hle : left.length ≤ 32
  · obtain ⟨rfl, rfl⟩ := h.of_le hle
    rw [nextCmd, if_pos ⟨hcmd, hle⟩]
    exact .last h.last_pos h.last_le
  · have hnext : nextCmd cmd left.length = smbusCmdMultWriteMiddle := by
      rw [nextCmd, if_neg fun hand => hle hand.2]
      rcases hcmd with rfl | rfl
      · exact if_pos rfl
      · exact if_neg (by decide)
    obtain ⟨rest, rfl, -⟩ := h.eq_cons (Nat.not_le.1 hle)
    rw [hnext]
    exact .middle h

theorem Remaining.eq_nil {cmd : UInt8} {fs : List Fragment} (h : Remaining cmd [] fs) :
    fs = [] := by
  cases h with
  | none => rfl
  | write hpos _ => exact absurd hpos (Nat.lt_irrefl 0)
  | start h => exact absurd (h.of_le (Nat.zero_le 32)).1 (by simp)
  | middle h => exact absurd (h.of_le (Nat.zero_le 32)).1 (by simp)
  | last hpos _ => exact absurd hpos (Nat.lt_irrefl 0)

/-- The next block, and what is left after it. -/
theorem Remaining.step {cmd : UInt8} {left : List UInt8} {fs : List Fragment}
    (h : Remaining cmd left fs) (hleft : left ≠ []) :
    ∃ rest, fs = (cmd, left.take 32) :: rest ∧
      Remaining (nextCmd cmd (left.drop 32).length) (left.drop 32) rest ∧
      (cmd = smbusCmdMultWriteStart → 0 < (left.drop 32).length) := by
  have hpart : ∀ {b last : List UInt8} {blocks : List (List UInt8)},
      Blocked 32 left (b :: blocks) last →
        b = left.take 32 ∧ Blocked 32 (left.drop 32) blocks last := by
    intro b last blocks h
    have hlt : 32 < left.length := by
      by_contra hle
      exact absurd (h.of_le (Nat.not_lt.1 hle)).1 (by simp)
    obtain ⟨rest, heq, hrest⟩ := h.eq_cons hlt
    obtain ⟨rfl, rfl⟩ := List.cons.inj heq
    exact ⟨rfl, hrest⟩
  have hpos : ∀ {last : List UInt8} {blocks : List (List UInt8)},
      Blocked 32 (left.drop 32) blocks last → 0 < (left.drop 32).length := by
    intro last blocks h
    rw [← h.flatten_eq, List.length_append]
    exact Nat.add_pos_right _ h.last_pos
  cases h with
  | none => exact absurd rfl hleft
  | write _ hle =>
    refine ⟨[], by rw [List.take_of_length_le hle], ?_, fun h => absurd h (by decide)⟩
    rw [List.drop_of_length_le hle]
    exact .none _
  | start h =>
    obtain ⟨rfl, hrest⟩ := hpart h
    exact ⟨_, rfl, remaining_of_blocked hrest (.inl rfl), fun _ => hpos hrest⟩
  | middle h =>
    obtain ⟨rfl, hrest⟩ := hpart h
    exact ⟨_, rfl, remaining_of_blocked hrest (.inr rfl), fun h => absurd h (by decide)⟩
  | last _ hle =>
    refine ⟨[], by rw [List.take_of_length_le hle], ?_, fun h => absurd h (by decide)⟩
    rw [List.drop_of_length_le hle]
    exact .none _

/-! ### The runs of a send -/

/-- A block write that succeeds. -/
def written (f : Fragment) : BusEvent := ⟨.bmcSmbusBlockWrite f.1 f.2, .success⟩

/-- The traces of `SendDataToBmcPort` between open and close, with the status returned: all blocks
are written, or one fails and it is the last one. -/
inductive Wrote (fs : List Fragment) : List BusEvent → EfiStatus → Prop
  | complete : Wrote fs (fs.map written) .success
  | failed {done rest : List Fragment} {f : Fragment} {status : EfiStatus}
      (hfs : fs = done ++ f :: rest) (hstatus : status ≠ .success) :
      Wrote fs (done.map written ++ [⟨.bmcSmbusBlockWrite f.1 f.2, status⟩]) status

/-- The state of the loop after some blocks. -/
structure SendProgress (data : List UInt8) (fs : List Fragment) (tr : List BusEvent)
    (s : SendState) : Prop where
  /-- No write has failed. -/
  status_eq : s.status = .success
  /-- The offset is inside the message. -/
  offset_le : s.dataOffset.toNat ≤ data.length
  /-- The size that remains. -/
  remaining_eq : s.remainingSize.toNat = data.length - s.dataOffset.toNat
  /-- The blocks so far, and those that remain. -/
  blocks : ∃ done rest, fs = done ++ rest ∧ tr = done.map written ∧
    Remaining s.smbusCmd (data.drop s.dataOffset.toNat) rest

theorem toNat_ssifMaxWriteSize : ssifMaxWriteSize.toNat = 32 := rfl

/-- The size of the next block. -/
theorem toNat_writeSize (remainingSize : UInt8) :
    (if remainingSize < ssifMaxWriteSize then remainingSize else ssifMaxWriteSize).toNat =
      min remainingSize.toNat 32 := by
  by_cases hlt : remainingSize < ssifMaxWriteSize
  · have hlt' : remainingSize.toNat < 32 := UInt8.lt_iff_toNat_lt.1 hlt
    rw [if_pos hlt, Nat.min_eq_left (Nat.le_of_lt hlt')]
  · have hle : 32 ≤ remainingSize.toNat := Nat.not_lt.1 fun h => hlt (UInt8.lt_iff_toNat_lt.2 h)
    rw [if_neg hlt, Nat.min_eq_right hle, toNat_ssifMaxWriteSize]

/-- The offsets after a block. -/
theorem SendProgress.advance {data : List UInt8} {fs : List Fragment} {tr : List BusEvent}
    {s : SendState} (hI : SendProgress data fs tr s) (hdata : data.length ≤ 255)
    {writeSize : UInt8} (hsize : writeSize.toNat = min s.remainingSize.toNat 32) :
    (s.dataOffset + writeSize).toNat = s.dataOffset.toNat + writeSize.toNat ∧
      (UInt8.ofNat data.length - (s.dataOffset + writeSize)).toNat =
        data.length - (s.dataOffset.toNat + writeSize.toNat) := by
  have hle := hI.offset_le
  have hremaining := hI.remaining_eq
  have hadd : (s.dataOffset + writeSize).toNat = s.dataOffset.toNat + writeSize.toNat :=
    toNat_add_byte (by omega)
  have hlen : (UInt8.ofNat data.length).toNat = data.length :=
    UInt8.toNat_ofNat_of_lt' (show data.length < 256 by omega)
  refine ⟨hadd, ?_⟩
  rw [UInt8.toNat_sub_of_le _ _ (UInt8.le_iff_toNat_le.2 (by omega)), hadd, hlen]

/-- The command after a block, as the code computes it; its `ASSERT` holds. -/
theorem nextSmbusCmd_eq {cmd remainingSize : UInt8}
    (hassert : cmd = smbusCmdMultWriteStart → 0 < remainingSize.toNat) :
    nextSmbusCmd cmd remainingSize = pure (nextCmd cmd remainingSize.toNat) := by
  have hle : remainingSize ≤ ssifMaxWriteSize ↔ remainingSize.toNat ≤ 32 := UInt8.le_iff_toNat_le
  unfold nextSmbusCmd nextCmd
  by_cases hstart : cmd = smbusCmdMultWriteStart
  · have hpos : remainingSize > 0 := UInt8.lt_iff_toNat_lt.2 (hassert hstart)
    rw [if_pos hstart, assert, if_pos hpos, pure_bind]
    by_cases hsmall : remainingSize.toNat ≤ 32
    · simp [hstart, hle, hsmall]
    · simp [hstart, hle, hsmall]
  · rw [if_neg hstart]
    by_cases hsmall : cmd = smbusCmdMultWriteMiddle ∧ remainingSize.toNat ≤ 32
    · simp [hle, hsmall]
    · simp [hstart, hle, hsmall]

/-- One iteration of the loop: it makes the remaining size smaller. -/
theorem sendBlock_spec {data : List UInt8} (hdata : data.length ≤ 255) {fs : List Fragment}
    {tr : List BusEvent} {s : SendState} (hI : SendProgress data fs tr s) :
    (sendBlock data (UInt8.ofNat data.length) s).Satisfies False fun tr' i =>
      match i with
      | .again s' => SendProgress data fs (tr ++ tr') s' ∧
          s'.remainingSize.toNat < s.remainingSize.toNat
      | .done status => Wrote fs (tr ++ tr') status := by
  obtain ⟨hstatus, hoffset, hremaining, done, rest, hfs, rfl, hrest⟩ := hI
  unfold sendBlock
  by_cases hpos : s.remainingSize > 0
  · have hpos' : 0 < s.remainingSize.toNat := UInt8.lt_iff_toNat_lt.1 hpos
    have hlen : (data.drop s.dataOffset.toNat).length = s.remainingSize.toNat := by
      rw [List.length_drop, hremaining]
    have hleft : data.drop s.dataOffset.toNat ≠ [] := List.length_pos_iff.1 (by omega)
    obtain ⟨rest, rfl, hrest', hstart⟩ := hrest.step hleft
    rw [if_pos hpos]
    dsimp only
    have hsize := toNat_writeSize s.remainingSize
    generalize (if s.remainingSize < ssifMaxWriteSize then s.remainingSize
      else ssifMaxWriteSize) = writeSize at hsize ⊢
    -- the block is cut off at 32 bytes either way
    have hblock : (data.drop s.dataOffset.toNat).take writeSize.toNat =
        (data.drop s.dataOffset.toNat).take 32 := by
      rw [hsize, ← hlen, Nat.min_comm, List.take_eq_take_iff]
      omega
    rw [hblock, satisfies_blockWrite_bind]
    intro status
    by_cases herr : status.isError
    · rw [if_pos herr]
      exact .failed hfs (EfiStatus.isError_iff.1 herr)
    · rw [if_neg herr]
      have hsucc : status = .success := EfiStatus.isError_eq_false_iff.1 (by simpa using herr)
      have hI : SendProgress data fs (done.map written) s :=
        ⟨hstatus, hoffset, hremaining, done, _, hfs, rfl, hrest⟩
      obtain ⟨hadd, hsub⟩ := hI.advance hdata hsize
      have hdrop : (data.drop s.dataOffset.toNat).drop 32 =
          data.drop (s.dataOffset + writeSize).toNat := by
        rw [List.drop_drop, hadd, hsize, List.drop_eq_drop_iff]
        omega
      have hdrop_len : (data.drop (s.dataOffset + writeSize).toNat).length =
          (UInt8.ofNat data.length - (s.dataOffset + writeSize)).toNat := by
        rw [List.length_drop, hadd, hsub]
      rw [hdrop, hdrop_len] at hrest' hstart
      rw [nextSmbusCmd_eq hstart, pure_bind]
      refine ⟨⟨hsucc, ?_, ?_, done ++ [(s.smbusCmd, (data.drop s.dataOffset.toNat).take 32)],
        rest, ?_, ?_, hrest'⟩, ?_⟩
      · dsimp only
        omega
      · dsimp only
        rw [hsub, hadd]
      · simpa using hfs
      · simp [written, hsucc]
      · dsimp only
        omega
  · rw [if_neg hpos]
    have hzero : s.remainingSize.toNat = 0 :=
      Nat.eq_zero_of_not_pos fun h => hpos (UInt8.lt_iff_toNat_lt.2 h)
    have hnil : data.drop s.dataOffset.toNat = [] := List.drop_of_length_le (by omega)
    rw [hnil] at hrest
    obtain rfl : rest = [] := hrest.eq_nil
    have hdone : fs = done := by simpa using hfs
    rw [← hdone]
    change Wrote fs (fs.map written ++ []) s.status
    rw [List.append_nil, hstatus]
    exact .complete

/-! ### The whole call -/

/-- The block write an access makes, with its status. -/
def writeOf : BusEvent → Option (Fragment × EfiStatus)
  | ⟨.bmcSmbusBlockWrite command block, status⟩ => some ((command, block), status)
  | _ => none

/-- The block writes of a trace. -/
def blockWrites (tr : List BusEvent) : List (Fragment × EfiStatus) := tr.filterMap writeOf

/-- The status of an access that the driver looks at. -/
def statusOf : BusEvent → Option EfiStatus
  | ⟨.bmcSmbusOpen, status⟩ => some status
  | ⟨.bmcSmbusBlockWrite _ _, status⟩ => some status
  | ⟨.bmcSmbusBlockRead _, read⟩ => some read.status
  | ⟨.bmcSmbusClose, _⟩ => none
  | ⟨.assertFailed, _⟩ => none

/-- The statuses that the driver looks at, in order. -/
def busStatuses (tr : List BusEvent) : List EfiStatus := tr.filterMap statusOf

/-- What a call of `SendDataToBmcPort` does for the message with fragmentation `fs`. -/
structure SendRun (fs : List Fragment) (tr : List BusEvent) (status : EfiStatus) : Prop where
  /-- Open and close. -/
  openClose : OpenClose tr
  /-- The writes are the first blocks of the message. -/
  writes : (blockWrites tr).map Prod.fst <+: fs
  /-- Success says that nothing failed and the whole message has been written. -/
  success_iff : status = .success ↔
    (∀ st ∈ busStatuses tr, st = .success) ∧ (blockWrites tr).map Prod.fst = fs
  /-- An error is the first one that occurred, and nothing is written after it. -/
  failure : status ≠ .success →
    ∃ ok, busStatuses tr = ok ++ [status] ∧ ∀ st ∈ ok, st = .success
  /-- No `ASSERT` fires. -/
  noAssert : ⟨.assertFailed, ()⟩ ∉ tr

@[simp] theorem blockWrites_open_cons (status : EfiStatus) (tr : List BusEvent) :
    blockWrites (⟨.bmcSmbusOpen, status⟩ :: tr) = blockWrites tr := rfl

@[simp] theorem blockWrites_append (tr tr' : List BusEvent) :
    blockWrites (tr ++ tr') = blockWrites tr ++ blockWrites tr' := List.filterMap_append

@[simp] theorem blockWrites_close (status : EfiStatus) :
    blockWrites [⟨.bmcSmbusClose, status⟩] = [] := rfl

@[simp] theorem blockWrites_write_cons (f : Fragment) (status : EfiStatus)
    (tr : List BusEvent) :
    blockWrites (⟨.bmcSmbusBlockWrite f.1 f.2, status⟩ :: tr) = (f, status) :: blockWrites tr :=
  rfl

@[simp] theorem blockWrites_map_written (fs : List Fragment) :
    blockWrites (fs.map written) = fs.map (·, .success) := by
  induction fs with
  | nil => rfl
  | cons f fs ih => exact congrArg (List.cons (f, EfiStatus.success)) ih

@[simp] theorem busStatuses_open_cons (status : EfiStatus) (tr : List BusEvent) :
    busStatuses (⟨.bmcSmbusOpen, status⟩ :: tr) = status :: busStatuses tr := rfl

@[simp] theorem busStatuses_append (tr tr' : List BusEvent) :
    busStatuses (tr ++ tr') = busStatuses tr ++ busStatuses tr' := List.filterMap_append

@[simp] theorem busStatuses_close (status : EfiStatus) :
    busStatuses [⟨.bmcSmbusClose, status⟩] = [] := rfl

@[simp] theorem busStatuses_write_cons (f : Fragment) (status : EfiStatus)
    (tr : List BusEvent) :
    busStatuses (⟨.bmcSmbusBlockWrite f.1 f.2, status⟩ :: tr) = status :: busStatuses tr := rfl

@[simp] theorem busStatuses_map_written (fs : List Fragment) :
    busStatuses (fs.map written) = List.replicate fs.length .success := by
  induction fs with
  | nil => rfl
  | cons f fs ih => exact congrArg (List.cons EfiStatus.success) ih

/-- The loop makes block writes only. -/
theorem Wrote.calls {fs : List Fragment} {tr : List BusEvent} {status : EfiStatus}
    (h : Wrote fs tr status) :
    ∀ e ∈ tr, ∃ f : Fragment, e.1 = .bmcSmbusBlockWrite f.1 f.2 := by
  have hwritten : ∀ (done : List Fragment), ∀ e ∈ done.map written,
      ∃ f : Fragment, e.1 = .bmcSmbusBlockWrite f.1 f.2 := by
    intro done e he
    obtain ⟨f, -, rfl⟩ := List.mem_map.1 he
    exact ⟨f, rfl⟩
  cases h with
  | complete => exact hwritten fs
  | @failed done _ f _ _ _ =>
    refine List.forall_mem_append.2 ⟨hwritten done, fun e he => ?_⟩
    obtain rfl := List.mem_singleton.1 he
    exact ⟨f, rfl⟩

/-- Between open and close the blocks are written. -/
theorem Wrote.sendRun {fs : List Fragment} {tr : List BusEvent} {status : EfiStatus}
    (h : Wrote fs tr status) (closed : EfiStatus) :
    SendRun fs (⟨.bmcSmbusOpen, .success⟩ :: (tr ++ [⟨.bmcSmbusClose, closed⟩])) status := by
  have hopenClose := openClose_of_between closed fun e he => by
    obtain ⟨f, hf⟩ := h.calls e he
    simp [hf]
  have hassert : ⟨.assertFailed, ()⟩ ∉
      (⟨.bmcSmbusOpen, .success⟩ :: (tr ++ [⟨.bmcSmbusClose, closed⟩]) : List BusEvent) := by
    intro hmem
    have hmem' : ⟨.assertFailed, ()⟩ ∈ tr := by simpa using hmem
    obtain ⟨f, hf⟩ := h.calls _ hmem'
    cases hf
  cases h with
  | complete =>
    refine ⟨hopenClose, ?_, ?_, fun hne => absurd rfl hne, hassert⟩
    · simp [Function.comp_def]
    · simp [Function.comp_def]
  | @failed done rest f _ hfs hstatus =>
    refine ⟨hopenClose, ?_, ?_, fun _ => ?_, hassert⟩
    · simp [Function.comp_def, hfs]
    · refine iff_of_false hstatus fun hall => hstatus (hall.1 _ ?_)
      simp
    · refine ⟨.success :: List.replicate done.length .success, by simp, ?_⟩
      simp

/-- The bus cannot be opened. -/
theorem sendRun_of_open_failed (fs : List Fragment) {status : EfiStatus}
    (hstatus : status ≠ .success) : SendRun fs [⟨.bmcSmbusOpen, status⟩] status := by
  refine ⟨⟨status, rfl, ?_⟩, List.nil_prefix, ?_, fun _ => ⟨[], rfl, by simp⟩, by simp⟩
  · rw [if_neg hstatus]
    rfl
  · exact iff_of_false hstatus fun hall => hstatus (hall.1 _ (by simp))

/-- The loop of `SendDataToBmcPort` writes the blocks of the message. -/
theorem sendLoop_wrote {fuel : ℕ} (hfuel : 255 < fuel) {data : Message} (hdata : data.bytes ≠ [])
    {fs : List Fragment} (hfs : Fragmentation data.bytes fs) {cmd : UInt8}
    (hcmd : cmd = if 32 < data.bytes.length then smbusCmdMultWriteStart else smbusCmdWrite) :
    (loop (sendBlock data.bytes (UInt8.ofNat data.bytes.length)) fuel
      ⟨0, UInt8.ofNat data.bytes.length, cmd, .success⟩).Satisfies False (Wrote fs) := by
  have hle := data.size_le
  have hlen := data.toNat_size
  have hremaining : Remaining cmd data.bytes fs := by
    rw [hcmd]
    exact hfs.remaining hdata
  refine satisfies_loop_of_variant (I := SendProgress data.bytes fs)
    (fun s => s.remainingSize.toNat) (fun tr s hI => ?_) fuel [] _
    ⟨rfl, Nat.zero_le _, hlen, [], fs, rfl, rfl, hremaining⟩ (.inr ?_)
  · refine (sendBlock_spec hle hI).mono fun tr' i hi => ?_
    cases i with
    | again s' => exact ⟨hi.1, .inr hi.2⟩
    | done status => exact hi
  · dsimp only
    omega

/-- **Send framing.**  `SendDataToBmcPort` rejects an empty message without opening the bus.  Any
other message has exactly one fragmentation, which carries its bytes; and whatever the bus
answers, the call returns after having written the blocks of the fragmentation, or those up to the
first failure. -/
theorem sendDataToBmcPort_fragments {σ : Type} (bus : Handler BusCall BusCall.Answer σ) (s : σ)
    {fuel : ℕ} (hfuel : 255 < fuel) (data : Message) :
    (data.bytes = [] → (sendDataToBmcPort fuel data).exec bus s =
      some (.invalidParameter, [], s)) ∧
    (data.bytes ≠ [] → ∃ fs, Fragmentation data.bytes fs ∧
      (∀ fs', Fragmentation data.bytes fs' → fs' = fs) ∧ joined fs = data.bytes ∧
      ∃ status tr s', (sendDataToBmcPort fuel data).exec bus s = some (status, tr, s') ∧
        SendRun fs tr status) := by
  constructor
  · intro hnil
    unfold sendDataToBmcPort
    rw [hnil]
    rfl
  · intro hdata
    obtain ⟨fs, hfs⟩ := exists_fragmentation hdata
    refine ⟨fs, hfs, fun fs' hfs' => hfs'.unique hfs, hfs.joined_eq, ?_⟩
    refine Satisfies.exists_exec ?_ bus s
    have hpos : 0 < data.bytes.length := List.length_pos_iff.2 hdata
    have hne : UInt8.ofNat data.bytes.length ≠ 0 := by
      intro heq
      have hsize := data.toNat_size
      rw [heq] at hsize
      exact absurd hsize (Nat.ne_of_lt hpos)
    unfold sendDataToBmcPort
    dsimp only
    rw [if_neg hne, satisfies_open_bind]
    intro status
    by_cases herr : status.isError
    · rw [if_pos herr]
      exact sendRun_of_open_failed fs (EfiStatus.isError_iff.1 herr)
    · obtain rfl : status = .success := EfiStatus.isError_eq_false_iff.1 (by simpa using herr)
      rw [if_neg herr, satisfies_bind]
      refine (sendLoop_wrote hfuel hdata hfs ?_).mono fun tr status hwrote => ?_
      · have hiff : UInt8.ofNat data.bytes.length > ssifMaxWriteSize ↔ 32 < data.bytes.length := by
          change ssifMaxWriteSize < UInt8.ofNat data.bytes.length ↔ _
          rw [UInt8.lt_iff_toNat_lt, data.toNat_size, toNat_ssifMaxWriteSize]
        simp only [hiff]
      · rw [satisfies_close_bind]
        exact fun closed => hwrote.sendRun closed

/-- A bus that fails at the `n`-th block write. -/
def failingBus (n : ℕ) : Handler BusCall BusCall.Answer ℕ
  | .bmcSmbusOpen, k => (.success, k)
  | .bmcSmbusClose, k => (.success, k)
  | .bmcSmbusBlockWrite _ _, k => (if k = n then .timeout else .success, k + 1)
  | .bmcSmbusBlockRead _, k => (⟨.deviceError, [], Nat.zero_le _⟩, k)
  | .assertFailed, k => ((), k)

theorem sendDataToBmcPort_fragments_failing :
    ∃ fs, Fragmentation (List.replicate 70 0x5A) fs ∧
      ∃ status tr s', (sendDataToBmcPort 256 ⟨List.replicate 70 0x5A, by decide⟩).exec
        (failingBus 1) 0 = some (status, tr, s') ∧ SendRun fs tr status := by
  obtain ⟨fs, hfs, -, -, hrun⟩ := (sendDataToBmcPort_fragments (failingBus 1) 0
    (show 255 < 256 by decide) ⟨List.replicate 70 0x5A, by decide⟩).2 (by decide)
  exact ⟨fs, hfs, hrun⟩

end Ssif

end IpmiFeature
