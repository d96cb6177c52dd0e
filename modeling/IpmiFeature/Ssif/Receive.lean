import IpmiFeature.Interaction.Run
import IpmiFeature.Interaction.Words
import IpmiFeature.Ssif.Trace

/-!
# The messages an SSIF receive accepts

The grammar of a multi-part read over the outcomes of the block reads: `InOrder` for the blocks that
open a multi-part message, `EndsAt` for the block that ends a message, and `Refused` for what stops
a receive.  A message that fits is never refused (`EndsAt.not_refused`), and
`receiveBmcDataFromPort_accepts` says that the driver accepts exactly the messages that fit.
-/

namespace IpmiFeature

open Interaction Prog

namespace Ssif

/-! ### The grammar -/

/-- The block read has succeeded, with the bytes `block`. -/
def BlockRead.Delivers (read : BlockRead) (block : List UInt8) : Prop :=
  read.status = .success ∧ read.block = block

variable {o : ℕ → BlockRead}

/-- The first `n` blocks open a multi-part message, with the payload `p` so far: a block that
starts with `00 01`, then blocks numbered `0, 1, …`. -/
inductive InOrder (o : ℕ → BlockRead) : ℕ → List UInt8 → Prop
  | none : InOrder o 0 []
  | start {p : List UInt8} (h : (o 0).Delivers (0 :: 1 :: p)) : InOrder o 1 p
  | next {k : ℕ} {p q : List UInt8} (h : InOrder o (k + 1) p) (hk : k < 255)
      (hblock : (o (k + 1)).Delivers (UInt8.ofNat k :: q)) : InOrder o (k + 2) (p ++ q)

/-- Block `n` ends a message with payload `p`: it is the only one and does not start with `00 01`,
or it ends a multi-part message and starts with `FF`. -/
inductive EndsAt (o : ℕ → BlockRead) : ℕ → List UInt8 → Prop
  | single {p : List UInt8} (h : (o 0).Delivers p) (hstart : ¬ [0, 1] <+: p) : EndsAt o 0 p
  | multi {k : ℕ} {p q : List UInt8} (h : InOrder o (k + 1) p)
      (hlast : (o (k + 1)).Delivers (0xFF :: q)) : EndsAt o (k + 1) (p ++ q)

/-- What stops a receive with capacity `capacity`, at the first block where it happens: the bus
fails, a block is out of order, or the payload does not fit. -/
inductive Refused (o : ℕ → BlockRead) (capacity : ℕ) : EfiStatus → Prop
  | bus {n : ℕ} {p : List UInt8} (h : InOrder o n p) (hfit : p.length ≤ capacity)
      (hstatus : (o n).status ≠ .success) : Refused o capacity (o n).status
  | order {k : ℕ} {b : UInt8} {p q : List UInt8} (h : InOrder o (k + 1) p)
      (hfit : p.length ≤ capacity) (hblock : (o (k + 1)).Delivers (b :: q)) (hlast : b ≠ 0xFF)
      (horder : b.toNat ≠ k) : Refused o capacity .deviceError
  | tooSmall {n : ℕ} {p p' : List UInt8} (h : InOrder o n p) (hfit : p.length ≤ capacity)
      (hnext : InOrder o (n + 1) p' ∨ EndsAt o n p') (hlen : capacity < p'.length) :
      Refused o capacity .bufferTooSmall

theorem BlockRead.Delivers.unique {read : BlockRead} {b b' : List UInt8} (h : read.Delivers b)
    (h' : read.Delivers b') : b = b' := h.2.symm.trans h'.2

theorem InOrder.le {n : ℕ} {p : List UInt8} (h : InOrder o n p) : n ≤ 256 := by
  cases h with
  | none => exact Nat.zero_le _
  | start => decide
  | next _ hk => omega

theorem InOrder.unique {n : ℕ} {p p' : List UInt8} (h : InOrder o n p) (h' : InOrder o n p') :
    p = p' := by
  induction h generalizing p' with
  | none =>
    cases h' with
    | none => rfl
  | start h =>
    cases h' with
    | start h' => exact (List.cons.inj (List.cons.inj (h.unique h')).2).2
  | next h _ hblock ih =>
    cases h' with
    | next h' _ hblock' =>
      rw [ih h', (List.cons.inj (hblock.unique hblock')).2]

/-- The opening of a message, cut off at an earlier block. -/
theorem InOrder.shorten {m n : ℕ} {p : List UInt8} (h : InOrder o m p) (hn : n ≤ m) :
    ∃ q, InOrder o n q ∧ q.length ≤ p.length := by
  induction h with
  | none =>
    obtain rfl := Nat.le_zero.1 hn
    exact ⟨[], .none, Nat.le_refl _⟩
  | @start p h =>
    rcases Nat.eq_zero_or_pos n with rfl | hpos
    · exact ⟨[], .none, Nat.zero_le _⟩
    · obtain rfl : n = 1 := by omega
      exact ⟨p, .start h, Nat.le_refl _⟩
  | @next k p q h hk hblock ih =>
    by_cases heq : n = k + 2
    · subst heq
      exact ⟨p ++ q, .next h hk hblock, Nat.le_refl _⟩
    · obtain ⟨r, hr, hle⟩ := ih (by omega)
      refine ⟨r, hr, ?_⟩
      rw [List.length_append]
      omega

/-- A block of the opening has been read. -/
theorem InOrder.status_eq {n : ℕ} {p : List UInt8} (h : InOrder o (n + 1) p) :
    (o n).status = .success := by
  cases h with
  | start h => exact h.1
  | next _ _ hblock => exact hblock.1

/-- A message does not end in the middle of its opening. -/
theorem InOrder.not_endsAt {n : ℕ} {p p' : List UInt8} (h : InOrder o (n + 1) p) :
    ¬ EndsAt o n p' := by
  intro hend
  cases h with
  | start h =>
    cases hend with
    | single h' hstart =>
      obtain rfl := h.unique h'
      exact hstart ⟨_, rfl⟩
  | @next k _ q _ hk hblock =>
    cases hend with
    | multi _ hlast =>
      have hb : UInt8.ofNat k = 0xFF := (List.cons.inj (hblock.unique hlast)).1
      have hk' : (UInt8.ofNat k).toNat = k := UInt8.toNat_ofNat_of_lt' (Nat.lt_succ_of_lt hk)
      rw [hb] at hk'
      exact absurd hk' (by show 255 ≠ k; omega)

theorem EndsAt.unique {n : ℕ} {p p' : List UInt8} (h : EndsAt o n p) (h' : EndsAt o n p') :
    p = p' := by
  cases h with
  | single h _ =>
    cases h' with
    | single h' _ => exact h.unique h'
  | multi h hlast =>
    cases h' with
    | multi h' hlast' =>
      rw [h.unique h', (List.cons.inj (hlast.unique hlast')).2]

theorem EndsAt.status_eq {n : ℕ} {p : List UInt8} (h : EndsAt o n p) :
    (o n).status = .success := by
  cases h with
  | single h _ => exact h.1
  | multi _ hlast => exact hlast.1

/-- The opening of a message that ends at block `n`. -/
theorem EndsAt.inOrder {n : ℕ} {p : List UInt8} (h : EndsAt o n p) :
    ∃ q, InOrder o n q ∧ q.length ≤ p.length := by
  cases h with
  | single => exact ⟨[], .none, Nat.zero_le _⟩
  | @multi k p q h _ => exact ⟨p, h, by simp⟩

/-- A message ends at one block only. -/
theorem EndsAt.index_unique {m n : ℕ} {p p' : List UInt8} (h : EndsAt o m p)
    (h' : EndsAt o n p') : m = n := by
  obtain ⟨q, hq, -⟩ := h.inOrder
  obtain ⟨q', hq', -⟩ := h'.inOrder
  rcases Nat.lt_trichotomy m n with hlt | heq | hlt
  · obtain ⟨r, hr, -⟩ := hq'.shorten (Nat.succ_le_of_lt hlt)
    exact absurd h hr.not_endsAt
  · exact heq
  · obtain ⟨r, hr, -⟩ := hq.shorten (Nat.succ_le_of_lt hlt)
    exact absurd h' hr.not_endsAt

theorem Refused.ne_success {capacity : ℕ} {status : EfiStatus} (h : Refused o capacity status) :
    status ≠ .success := by
  cases h with
  | bus _ _ hstatus => exact hstatus
  | order => decide
  | tooSmall => decide

/-- A message that fits is not refused. -/
theorem EndsAt.not_refused {m capacity : ℕ} {p : List UInt8} {status : EfiStatus}
    (h : EndsAt o m p) (hp : p.length ≤ capacity) : ¬ Refused o capacity status := by
  obtain ⟨r, hr, hrlen⟩ := h.inOrder
  -- the opening at a block before the last one, and what it excludes
  have hbefore : ∀ n < m, ∃ q, InOrder o (n + 1) q ∧ q.length ≤ capacity := by
    intro n hn
    obtain ⟨q, hq, hlen⟩ := hr.shorten (Nat.succ_le_of_lt hn)
    exact ⟨q, hq, by omega⟩
  have hafter : ∀ n q, InOrder o n q → n ≤ m := by
    intro n q hq
    by_contra hlt
    obtain ⟨q', hq', -⟩ := hq.shorten (Nat.succ_le_of_lt (Nat.not_le.1 hlt))
    exact hq'.not_endsAt h
  intro hrefused
  cases hrefused with
  | @bus n q hq _ hstatus =>
    rcases Nat.lt_or_eq_of_le (hafter n q hq) with hlt | rfl
    · obtain ⟨q', hq', -⟩ := hbefore n hlt
      exact hstatus hq'.status_eq
    · exact hstatus h.status_eq
  | @order k b q _ hq _ hblock hlast horder =>
    rcases Nat.lt_or_eq_of_le (hafter _ q hq) with hlt | heq
    · obtain ⟨q', hq', -⟩ := hbefore _ hlt
      cases hq' with
      | next _ hk hblock' =>
        obtain rfl := (List.cons.inj (hblock.unique hblock')).1
        exact horder (UInt8.toNat_ofNat_of_lt' (Nat.lt_succ_of_lt hk))
    · rw [← heq] at h
      cases h with
      | multi _ hlast' => exact hlast (List.cons.inj (hblock.unique hlast')).1
  | @tooSmall n q q' hq _ hnext hlen =>
    rcases hnext with hnext | hnext
    · obtain ⟨r', hr', hlen'⟩ := hbefore n (hafter _ q' hnext)
      rw [hr'.unique hnext] at hlen'
      omega
    · obtain rfl := h.index_unique hnext
      rw [h.unique hnext] at hp
      omega

/-! ### The bus -/

/-- A bus that answers the `n`-th block read with `reads n`. -/
structure BusScript where
  /-- The outcome of `BmcSmbusOpen`. -/
  opened : EfiStatus
  /-- The outcome of `BmcSmbusClose`. -/
  closed : EfiStatus
  /-- The outcomes of `BmcSmbusBlockRead`. -/
  reads : ℕ → BlockRead

/-- The bus, counting the block reads. -/
def BusScript.bus (script : BusScript) : Handler BusCall BusCall.Answer ℕ
  | .bmcSmbusOpen, n => (script.opened, n)
  | .bmcSmbusClose, n => (script.closed, n)
  | .bmcSmbusBlockWrite _ _, n => (.unsupported, n)
  | .bmcSmbusBlockRead _, n => (script.reads n, n + 1)
  | .assertFailed, n => ((), n)

/-- Every block that is delivered has at least its framing header. -/
def Framed (o : ℕ → BlockRead) : Prop :=
  ∀ n, (o n).status = .success → (if n = 0 then 2 else 1) ≤ (o n).block.length

/-- The block that is read after `n` others is too short for the header that is looked at. -/
def TooShort (n : ℕ) (block : List UInt8) : Prop :=
  if n = 0 then block = [] ∨ block = [0] else block = []

theorem Framed.not_tooShort {o : ℕ → BlockRead} (h : Framed o) {n : ℕ}
    (hstatus : (o n).status = .success) : ¬ TooShort n (o n).block := by
  have hheader := h n hstatus
  unfold TooShort
  split_ifs at hheader ⊢
  · rintro (hblock | hblock) <;> rw [hblock] at hheader <;> exact absurd hheader (by decide)
  · intro hblock
    rw [hblock] at hheader
    exact absurd hheader (by decide)

variable {script : BusScript} {α : Type} {n : ℕ}

@[simp] theorem ends_blockRead_bind {command : UInt8} {f : BlockRead → BusProg α}
    {Q : α → ℕ → Prop} :
    (bmcSmbusBlockRead command >>= f).Ends script.bus n Q ↔
      (f (script.reads n)).Ends script.bus (n + 1) Q := Iff.rfl

@[simp] theorem ends_open_bind {f : EfiStatus → BusProg α} {Q : α → ℕ → Prop} :
    (bmcSmbusOpen >>= f).Ends script.bus n Q ↔ (f script.opened).Ends script.bus n Q := Iff.rfl

@[simp] theorem ends_close_bind {f : EfiStatus → BusProg α} {Q : α → ℕ → Prop} :
    (bmcSmbusClose >>= f).Ends script.bus n Q ↔ (f script.closed).Ends script.bus n Q := Iff.rfl

/-! ### One block -/

/-- The payload of a block, and where `copyBlock` puts it. -/
theorem copyBlock_eq (done : Bool) {dataSize : UInt8} {s : ReceiveState} {p header q : List UInt8}
    {stack : Memory UInt8} (hoffset : s.dataOffset.toNat = p.length)
    (hdata : s.data.slice 0 p.length = p) (hbuffer : s.blockBuffer = stack.store 0 (header ++ q))
    (hlen : (header ++ q).length ≤ ssifMaxReadBufferSize.toNat) :
    ∃ data' : Memory UInt8, ∃ offset' : UInt8,
      copyBlock dataSize (UInt8.ofNat (header ++ q).length) (UInt8.ofNat header.length) done s =
        (if dataSize.toNat < (p ++ q).length then .done ⟨.bufferTooSmall, s.data, dataSize⟩
        else if done then .done ⟨.success, data', offset'⟩
        else .again { s with dataOffset := offset', data := data' }) ∧
      ((p ++ q).length ≤ dataSize.toNat →
        offset'.toNat = (p ++ q).length ∧ data'.slice 0 (p ++ q).length = p ++ q) := by
  have hmax : ssifMaxReadBufferSize.toNat = 64 := rfl
  rw [List.length_append, hmax] at hlen
  have hheader : (UInt8.ofNat header.length).toNat = header.length :=
    UInt8.toNat_ofNat_of_lt' (show header.length < 256 by omega)
  have hread : (UInt8.ofNat (header ++ q).length).toNat = header.length + q.length := by
    rw [List.length_append]
    exact UInt8.toNat_ofNat_of_lt' (show header.length + q.length < 256 by omega)
  have hsize : (UInt8.ofNat (header ++ q).length - UInt8.ofNat header.length).toNat =
      q.length := by
    rw [UInt8.toNat_sub_of_le _ _ (UInt8.le_iff_toNat_le.2 (by omega)), hheader, hread]
    omega
  have hslice : s.blockBuffer.slice header.length q.length = q := by
    have hdrop : (stack.store 0 (header ++ q)).slice header.length
        ((header ++ q).length - header.length) = (header ++ q).drop header.length :=
      Memory.slice_store_drop (by simp)
    rw [hbuffer]
    simpa using hdrop
  refine ⟨s.data.store p.length q,
    s.dataOffset + (UInt8.ofNat (header ++ q).length - UInt8.ofNat header.length), ?_, fun hle => ?_⟩
  · unfold copyBlock
    dsimp only
    rw [hsize, hoffset, hheader, hslice, ← List.length_append]
  · have hlt : dataSize.toNat < 256 := dataSize.toNat_lt
    have hsum : (p ++ q).length = p.length + q.length := List.length_append
    constructor
    · rw [toNat_add_byte (by omega), hoffset, hsize, hsum]
    · rw [hsum, Memory.slice_store_append, hdata]

/-- The number of blocks that may still go on, from the variables of the loop. -/
def blocksLeft (s : ReceiveState) : ℕ :=
  if s.smbusCmd = smbusCmdRead then 256 else 255 - s.blockNumber.toNat

theorem blocksLeft_eq {s : ReceiveState} {n : ℕ} (hle : n ≤ 256)
    (hnext : n = 0 ∧ s.smbusCmd = smbusCmdRead ∨
      ∃ k, n = k + 1 ∧ s.smbusCmd = smbusCmdMultRead ∧ s.blockNumber = UInt8.ofNat k) :
    blocksLeft s = 256 - n := by
  unfold blocksLeft
  rcases hnext with ⟨rfl, hcmd⟩ | ⟨k, rfl, hcmd, hnumber⟩
  · rw [if_pos hcmd]
  · have hk : (UInt8.ofNat k).toNat = k := UInt8.toNat_ofNat_of_lt' (show k < 256 by omega)
    rw [if_neg (by rw [hcmd]; decide), hnumber, hk]
    omega

/-- The state of the loop after `n` blocks. -/
structure ReceiveProgress (o : ℕ → BlockRead) (dataSize : UInt8) (s : ReceiveState) (n : ℕ)
    (p : List UInt8) : Prop where
  /-- The blocks so far. -/
  inOrder : InOrder o n p
  /-- They fit. -/
  fits : p.length ≤ dataSize.toNat
  /-- The payload so far is in the caller's buffer. -/
  offset_eq : s.dataOffset.toNat = p.length
  /-- The payload so far is in the caller's buffer. -/
  data_eq : s.data.slice 0 p.length = p
  /-- The kind of the next block. -/
  next : n = 0 ∧ s.smbusCmd = smbusCmdRead ∨
    ∃ k, n = k + 1 ∧ s.smbusCmd = smbusCmdMultRead ∧ s.blockNumber = UInt8.ofNat k

/-- The outcome of the loop: a message that fits, or a refusal that leaves `*DataSize` alone. -/
def LoopResult (o : ℕ → BlockRead) (dataSize : UInt8) (received : Received) : Prop :=
  (received.status = .success ∧ ∃ n p, EndsAt o n p ∧ p.length ≤ dataSize.toNat ∧
      received.dataSize.toNat = p.length ∧ received.data.slice 0 p.length = p) ∨
    received.dataSize = dataSize ∧ Refused o dataSize.toNat received.status

/-- What an iteration leads to whose block goes on with the message, up to the payload `p`. -/
def Continued (o : ℕ → BlockRead) (dataSize : UInt8) (s : ReceiveState) (n : ℕ) (p : List UInt8)
    (i : Iter ReceiveState Received) : Prop :=
  if p.length ≤ dataSize.toNat then ∃ s', i = .again s' ∧ ReceiveProgress o dataSize s' (n + 1) p
  else i = .done ⟨.bufferTooSmall, s.data, dataSize⟩

/-- What an iteration after `n` blocks leads to. -/
def Stepped (o : ℕ → BlockRead) (dataSize : UInt8) (n : ℕ) :
    Iter ReceiveState Received → Prop
  | .again s' => ∃ p, ReceiveProgress o dataSize s' (n + 1) p
  | .done received => LoopResult o dataSize received

/-- A block that goes on is copied if it fits. -/
theorem copyBlock_next (header : List UInt8) {o : ℕ → BlockRead} {dataSize : UInt8}
    {s s₀ : ReceiveState} {p q : List UInt8} {stack : Memory UInt8} {n : ℕ}
    (hI : ReceiveProgress o dataSize s₀ n p) (hoffset : s.dataOffset = s₀.dataOffset)
    (hdata : s.data = s₀.data) (hbuffer : s.blockBuffer = stack.store 0 (header ++ q))
    (hlen : (header ++ q).length ≤ ssifMaxReadBufferSize.toNat) (hnext : InOrder o (n + 1) (p ++ q))
    (hcmd : s.smbusCmd = smbusCmdMultRead) (hnumber : s.blockNumber = UInt8.ofNat n) :
    Continued o dataSize s₀ n (p ++ q)
      (copyBlock dataSize (UInt8.ofNat (header ++ q).length) (UInt8.ofNat header.length) false s) := by
  obtain ⟨data', offset', heq, hcopied⟩ := copyBlock_eq false (hoffset ▸ hI.offset_eq)
    (hdata ▸ hI.data_eq) hbuffer hlen
  unfold Continued
  rw [heq]
  by_cases hlt : dataSize.toNat < (p ++ q).length
  · rw [if_pos hlt, if_neg (Nat.not_le.2 hlt), hdata]
  · obtain ⟨hoffset', hdata'⟩ := hcopied (Nat.not_lt.1 hlt)
    rw [if_pos (Nat.not_lt.1 hlt), if_neg hlt, if_neg Bool.false_ne_true]
    exact ⟨_, rfl, hnext, Nat.not_lt.1 hlt, hoffset', hdata', .inr ⟨n, rfl, hcmd, hnumber⟩⟩

/-- A block that ends the message. -/
theorem stepped_copyBlock_done (header : List UInt8) {o : ℕ → BlockRead} {dataSize : UInt8}
    {s s₀ : ReceiveState} {p q : List UInt8} {stack : Memory UInt8} {n : ℕ}
    (hI : ReceiveProgress o dataSize s₀ n p) (hoffset : s.dataOffset = s₀.dataOffset)
    (hdata : s.data = s₀.data) (hbuffer : s.blockBuffer = stack.store 0 (header ++ q))
    (hlen : (header ++ q).length ≤ ssifMaxReadBufferSize.toNat) (hend : EndsAt o n (p ++ q)) :
    Stepped o dataSize n
      (copyBlock dataSize (UInt8.ofNat (header ++ q).length) (UInt8.ofNat header.length) true s) := by
  obtain ⟨data', offset', heq, hcopied⟩ := copyBlock_eq true (hoffset ▸ hI.offset_eq)
    (hdata ▸ hI.data_eq) hbuffer hlen
  rw [heq]
  by_cases hlt : dataSize.toNat < (p ++ q).length
  · rw [if_pos hlt]
    exact .inr ⟨rfl, .tooSmall hI.inOrder hI.fits (.inr hend) hlt⟩
  · obtain ⟨hoffset', hdata'⟩ := hcopied (Nat.not_lt.1 hlt)
    rw [if_neg hlt, if_pos rfl]
    exact .inl ⟨rfl, n, p ++ q, hend, Nat.not_lt.1 hlt, hoffset', hdata'⟩

theorem store_zero_cons (stack : Memory UInt8) (b : UInt8) (q : List UInt8) :
    stack.store 0 (b :: q) 0 = b := by
  simp [Memory.store]

theorem store_one_cons (stack : Memory UInt8) (b c : UInt8) (q : List UInt8) :
    stack.store 0 (b :: c :: q) 1 = c := by
  simp [Memory.store]

/-- An iteration whose block goes on with the message. -/
theorem readBlock_next {dataSize : UInt8} {s : ReceiveState} {p p' : List UInt8}
    (hI : ReceiveProgress script.reads dataSize s n p) (hnext : InOrder script.reads (n + 1) p') :
    (readBlock dataSize s).Ends script.bus n fun i n' =>
      n' = n + 1 ∧ Continued script.reads dataSize s n p' i := by
  have hstatus := hnext.status_eq
  have hle := (script.reads n).block_le
  unfold readBlock
  rw [ends_blockRead_bind]
  dsimp only
  rw [if_neg (by simp [hstatus])]
  rcases hI.next with ⟨rfl, hcmd⟩ | ⟨k, rfl, hcmd, hnumber⟩
  · -- the first block
    obtain rfl : p = [] := by
      cases hI.inOrder
      rfl
    have hoffset : s.dataOffset = 0 := UInt8.toNat_inj.1 hI.offset_eq
    cases hnext with
    | start h =>
      have hblock := h.2
      rw [hblock] at hle ⊢
      rw [if_pos hcmd, if_pos ⟨store_zero_cons _ _ _, store_one_cons _ _ _ _⟩, assert,
        if_pos hoffset, pure_bind]
      exact ⟨rfl, copyBlock_next [0, 1] hI rfl rfl rfl hle (.start h) rfl rfl⟩
  · -- a later block
    cases hnext with
    | @next _ p₁ q h hk hdelivers =>
      obtain rfl := h.unique hI.inOrder
      have hblock := hdelivers.2
      have hk' : (UInt8.ofNat k).toNat = k := UInt8.toNat_ofNat_of_lt' (Nat.lt_succ_of_lt hk)
      have hlast : UInt8.ofNat k ≠ 0xFF := by
        intro heq
        rw [heq] at hk'
        exact absurd hk' (by show 255 ≠ k; omega)
      rw [hblock] at hle ⊢
      rw [if_neg (by rw [hcmd]; decide), store_zero_cons, if_neg hlast,
        if_neg (not_not.2 hnumber.symm)]
      exact ⟨rfl, copyBlock_next [UInt8.ofNat k] hI rfl rfl rfl hle (.next h hk hdelivers) hcmd
        (UInt8.ofNat_add k 1).symm⟩

/-- A block that goes on leads to a state of the loop, or it does not fit. -/
theorem Continued.stepped {dataSize : UInt8} {s : ReceiveState} {p p' : List UInt8}
    (hI : ReceiveProgress script.reads dataSize s n p) (hnext : InOrder script.reads (n + 1) p')
    {i : Iter ReceiveState Received} (hi : Continued script.reads dataSize s n p' i) :
    Stepped script.reads dataSize n i := by
  unfold Continued at hi
  split_ifs at hi with hfits
  · obtain ⟨s', rfl, hI'⟩ := hi
    exact ⟨p', hI'⟩
  · subst hi
    exact .inr ⟨rfl, .tooSmall hI.inOrder hI.fits (.inl hnext) (Nat.not_le.1 hfits)⟩

/-- One iteration of the loop. -/
theorem readBlock_ends {dataSize : UInt8} {s : ReceiveState} {p : List UInt8}
    (hI : ReceiveProgress script.reads dataSize s n p)
    (hheader : (script.reads n).status = .success → ¬ TooShort n (script.reads n).block) :
    (readBlock dataSize s).Ends script.bus n fun i n' =>
      n' = n + 1 ∧ Stepped script.reads dataSize n i := by
  -- a block that goes on with the message
  have hcontinued : ∀ p', InOrder script.reads (n + 1) p' →
      (readBlock dataSize s).Ends script.bus n fun i n' =>
        n' = n + 1 ∧ Stepped script.reads dataSize n i :=
    fun p' hnext => (readBlock_next hI hnext).mono fun i n' ⟨hn', hi⟩ => ⟨hn', hi.stepped hI hnext⟩
  by_cases hsucc : (script.reads n).status = .success
  swap
  · unfold readBlock
    rw [ends_blockRead_bind]
    dsimp only
    rw [if_pos (EfiStatus.isError_iff.2 hsucc)]
    exact ⟨rfl, .inr ⟨rfl, .bus hI.inOrder hI.fits hsucc⟩⟩
  have hok : ¬ (script.reads n).status.isError = true := by simp [hsucc]
  have hle := (script.reads n).block_le
  have hshort := hheader hsucc
  obtain ⟨block, hblock⟩ : ∃ block, (script.reads n).block = block := ⟨_, rfl⟩
  have hdelivers : (script.reads n).Delivers block := ⟨hsucc, hblock⟩
  rw [hblock] at hle hshort
  cases block with
  | nil =>
    refine absurd ?_ hshort
    unfold TooShort
    split_ifs
    · exact .inl rfl
    · rfl
  | cons b q =>
  rcases hI.next with ⟨rfl, hcmd⟩ | ⟨k, rfl, hcmd, hnumber⟩
  · -- the first block
    obtain rfl : p = [] := by
      cases hI.inOrder
      rfl
    by_cases hmulti : [0, 1] <+: b :: q
    · obtain ⟨p', hp'⟩ := hmulti
      rw [← hp'] at hdelivers
      exact hcontinued p' (.start hdelivers)
    · have htested : ¬ (b = 0 ∧ s.blockBuffer.store 0 (b :: q) 1 = 1) := by
        rintro ⟨rfl, hone⟩
        cases q with
        | nil => exact hshort (.inr rfl)
        | cons c q =>
          rw [store_one_cons] at hone
          subst hone
          exact hmulti ⟨q, rfl⟩
      unfold readBlock
      rw [ends_blockRead_bind]
      dsimp only
      rw [if_neg hok, hblock, if_pos hcmd, store_zero_cons, if_neg htested]
      exact ⟨rfl, stepped_copyBlock_done [] hI rfl rfl rfl hle (.single hdelivers hmulti)⟩
  · -- a later block
    have hk := hI.inOrder.le
    by_cases horder : b = s.blockNumber ∧ b ≠ 0xFF
    · obtain ⟨rfl, hlast⟩ := horder
      have hk255 : k < 255 := by
        have hne : k ≠ 255 := by
          rintro rfl
          exact hlast hnumber
        omega
      rw [hnumber] at hdelivers
      exact hcontinued _ (.next hI.inOrder hk255 hdelivers)
    · unfold readBlock
      rw [ends_blockRead_bind]
      dsimp only
      rw [if_neg hok, hblock, if_neg (by rw [hcmd]; decide), store_zero_cons]
      by_cases hlast : b = 0xFF
      · subst hlast
        rw [if_pos rfl]
        exact ⟨rfl, stepped_copyBlock_done [0xFF] hI rfl rfl rfl hle (.multi hI.inOrder hdelivers)⟩
      · have hne : b ≠ s.blockNumber := fun heq => horder ⟨heq, hlast⟩
        rw [if_neg hlast, if_pos hne]
        refine ⟨rfl, .inr ⟨rfl, .order hI.inOrder hI.fits hdelivers hlast fun heq => hne ?_⟩⟩
        rw [hnumber, ← heq, UInt8.ofNat_toNat]

/-! ### The whole call -/

/-- The loop of `ReceiveBmcDataFromPort`, from the first block on. -/
theorem receiveLoop_ends {fuel : ℕ} (hfuel : 256 < fuel) (hframed : Framed script.reads)
    (stack data : Memory UInt8) (dataSize : UInt8) :
    (loop (readBlock dataSize) fuel ⟨0, smbusCmdRead, stack, 0, data⟩).Ends script.bus 0
      fun received _ => LoopResult script.reads dataSize received := by
  -- at most 256 blocks open a message
  refine ends_loop (I := fun s n => ∃ p, ReceiveProgress script.reads dataSize s n p)
    (fun _ n => 256 - n) ?_ fuel _ 0 ⟨[], .none, Nat.zero_le _, rfl, rfl, .inl ⟨rfl, rfl⟩⟩ hfuel
  rintro s n ⟨p, hI⟩
  refine (readBlock_ends hI hframed.not_tooShort).mono fun i n' ⟨hn', hi⟩ => ?_
  subst hn'
  cases i with
  | again s' =>
    obtain ⟨p', hI'⟩ := hi
    have hle := hI'.inOrder.le
    exact ⟨⟨p', hI'⟩, by omega⟩
  | done received => exact hi

/-- Between open and close a receive only reads. -/
theorem receiveBmcDataFromPort_openClose (fuel : ℕ) (stack data : Memory UInt8)
    (dataSize : UInt8) :
    (receiveBmcDataFromPort fuel stack data dataSize).Satisfies True fun tr _ => OpenClose tr := by
  unfold receiveBmcDataFromPort
  rw [satisfies_open_bind]
  intro status
  by_cases herr : status.isError
  · rw [if_pos herr]
    refine ⟨status, rfl, ?_⟩
    rw [if_neg (EfiStatus.isError_iff.1 herr)]
    rfl
  · obtain rfl : status = .success := EfiStatus.isError_eq_false_iff.1 (by simpa using herr)
    rw [if_neg herr, satisfies_bind]
    refine (satisfies_loop (I := fun tr _ => ∀ e ∈ tr, e.1 ≠ .bmcSmbusOpen ∧ e.1 ≠ .bmcSmbusClose)
      (Q := fun tr _ => ∀ e ∈ tr, e.1 ≠ .bmcSmbusOpen ∧ e.1 ≠ .bmcSmbusClose)
      (fun tr s hI => ?_) fuel (by simp)).mono fun tr received htr => ?_
    · have hread : (readBlock dataSize s).Satisfies True fun tr' _ =>
          ∀ e ∈ tr', e.1 ≠ .bmcSmbusOpen ∧ e.1 ≠ .bmcSmbusClose := by
        unfold readBlock assert
        rw [satisfies_blockRead_bind]
        intro read
        dsimp only
        split_ifs <;> simp [Satisfies, Prog.perform]
      refine hread.mono fun tr' i htr' => ?_
      cases i <;> exact List.forall_mem_append.2 ⟨hI, htr'⟩
    · rw [satisfies_close_bind]
      exact fun closed => openClose_of_between closed htr

/-- What a call of `ReceiveBmcDataFromPort` does on a bus. -/
structure ReceiveRun (script : BusScript) (dataSize : UInt8) (tr : List BusEvent)
    (received : Received) : Prop where
  /-- Success says that the bus could be opened and the outcomes begin with a message that
  fits. -/
  success_iff : received.status = .success ↔ script.opened = .success ∧
    ∃ n p, EndsAt script.reads n p ∧ p.length ≤ dataSize.toNat
  /-- The data is the payload of the message. -/
  payload : received.status = .success → ∀ n p, EndsAt script.reads n p →
    received.data.slice 0 received.dataSize.toNat = p
  /-- An error is that of the open call or what stops the receive; `*DataSize` is unchanged. -/
  failure : received.status ≠ .success → received.dataSize = dataSize ∧
    if script.opened = .success then Refused script.reads dataSize.toNat received.status
    else received.status = script.opened
  /-- Open and close. -/
  openClose : OpenClose tr

/-- A refused receive on an open bus. -/
theorem LoopResult.receiveRun {dataSize : UInt8} {tr : List BusEvent} {received : Received}
    (h : LoopResult script.reads dataSize received) (hopened : script.opened = .success)
    (htr : OpenClose tr) : ReceiveRun script dataSize tr received := by
  rcases h with ⟨hsucc, n, p, hend, hfits, hsize, hdata⟩ | ⟨hsize, hrefused⟩
  · refine ⟨iff_of_true hsucc ⟨hopened, n, p, hend, hfits⟩, fun _ m q hend' => ?_,
      fun hne => absurd hsucc hne, htr⟩
    obtain rfl := hend.index_unique hend'
    rw [hsize, hdata, hend.unique hend']
  · have hne := hrefused.ne_success
    refine ⟨iff_of_false hne ?_, fun hsucc => absurd hsucc hne, fun _ => ⟨hsize, ?_⟩, htr⟩
    · rintro ⟨-, n, p, hend, hfits⟩
      exact hend.not_refused hfits hrefused
    · rwa [if_pos hopened]

/-- **Receive grammar.**  On a bus whose blocks have their framing headers, and for every initial
content of the block buffer, `ReceiveBmcDataFromPort` returns; it accepts exactly the messages of
the grammar that fit, with their payload, and otherwise reports what stopped it. -/
theorem receiveBmcDataFromPort_accepts (script : BusScript) (hframed : Framed script.reads)
    {fuel : ℕ} (hfuel : 256 < fuel) (stack data : Memory UInt8) (dataSize : UInt8) :
    ∃ received tr n, (receiveBmcDataFromPort fuel stack data dataSize).exec script.bus 0 =
      some (received, tr, n) ∧ ReceiveRun script dataSize tr received := by
  have hends : (receiveBmcDataFromPort fuel stack data dataSize).Ends script.bus 0
      fun received _ => if script.opened = .success then
        LoopResult script.reads dataSize received else received = ⟨script.opened, data, dataSize⟩ := by
    unfold receiveBmcDataFromPort
    rw [ends_open_bind]
    by_cases hopened : script.opened = .success
    · simp only [if_pos hopened]
      rw [if_neg (by simp [hopened]), ends_bind]
      refine (receiveLoop_ends hfuel hframed stack data dataSize).mono fun received n h => ?_
      rw [ends_close_bind]
      exact h
    · simp only [if_neg hopened]
      rw [if_pos (EfiStatus.isError_iff.2 hopened)]
      rfl
  obtain ⟨received, tr, n, hexec, hresult⟩ := ends_iff_exec.1 hends
  have htr := (receiveBmcDataFromPort_openClose fuel stack data dataSize).of_exec hexec
  refine ⟨received, tr, n, hexec, ?_⟩
  by_cases hopened : script.opened = .success
  · rw [if_pos hopened] at hresult
    exact hresult.receiveRun hopened htr
  · rw [if_neg hopened] at hresult
    subst hresult
    refine ⟨iff_of_false hopened fun h => hopened h.1, fun hsucc => absurd hsucc hopened,
      fun _ => ⟨rfl, ?_⟩, htr⟩
    rw [if_neg hopened]

/-- A message of three blocks; after it the bus fails. -/
def threeBlocks : BusScript where
  opened := .success
  closed := .success
  reads
    | 0 => ⟨.success, [0, 1, 0x1C, 0x01], by decide⟩
    | 1 => ⟨.success, [0, 0x00], by decide⟩
    | 2 => ⟨.success, [0xFF], by decide⟩
    | _ => ⟨.timeout, [], by decide⟩

theorem receiveBmcDataFromPort_accepts_threeBlocks : ∃ received tr n,
    (receiveBmcDataFromPort 257 (fun _ => 0) (fun _ => 0) 3).exec threeBlocks.bus 0 =
      some (received, tr, n) ∧ ReceiveRun threeBlocks 3 tr received := by
  refine receiveBmcDataFromPort_accepts threeBlocks (fun n => ?_) (by decide) _ _ 3
  match n with
  | 0 => exact fun _ => by decide
  | 1 => exact fun _ => by decide
  | 2 => exact fun _ => by decide
  | n + 3 => exact fun h => by cases h

end Ssif

end IpmiFeature
