import IpmiFeature.Interaction.Layers
import IpmiFeature.Ssif.Receive
import IpmiFeature.Ssif.Send

/-!
# Buses that take and serve messages

Any bus that accepts the block writes of a message one after the other gets the whole message from
`SendDataToBmcPort` (`sendDataToBmcPort_takes`).

`Serves h o t` says that the bus `h`, in its states `t 0, t 1, …`, serves the blocks `o 0, o 1, …`: the
first one to `SMBUS_CMD_READ`, the others to `SMBUS_CMD_MULT_READ`.  If the blocks are those of a
message that fits, `ReceiveBmcDataFromPort` receives it (`receiveBmcDataFromPort_result`,
`LoopResult.of_endsAt`).
-/

namespace IpmiFeature

open Interaction Prog

namespace Ssif

variable {τ : Type} {h : Handler BusCall BusCall.Answer τ}

/-! ### Sending -/

theorem joined_concat (done : List Fragment) (f : Fragment) :
    joined (done ++ [f]) = joined done ++ f.2 := by simp [joined]

section

variable {data : List UInt8} {fs done : List Fragment} {f : Fragment}

theorem Fragmentation.length_le (hfs : Fragmentation data fs) (hinit : done ++ [f] <+: fs) :
    f.2.length ≤ 32 := by
  have hmem : f ∈ fs := hinit.subset (by simp)
  cases hfs with
  | single h => rwa [List.mem_singleton.1 hmem]
  | multi hlen h =>
    rcases List.mem_cons.1 hmem with rfl | hmem
    · exact Nat.le_of_eq (h.length_eq _ (by simp))
    · rcases List.mem_append.1 hmem with hmiddle | hlast
      · obtain ⟨b, hb, rfl⟩ := List.mem_map.1 hmiddle
        exact Nat.le_of_eq (h.length_eq b (List.mem_cons_of_mem _ hb))
      · rw [List.mem_singleton.1 hlast]
        exact h.last_le

/-- A first block that is not the last one is full. -/
theorem Fragmentation.joined_ne_nil (hfs : Fragmentation data fs) (hinit : done ++ [f] <+: fs)
    (hdone : done ≠ []) : joined done ≠ [] := by
  obtain ⟨g, done, rfl⟩ := List.exists_cons_of_ne_nil hdone
  obtain ⟨rest, hrest⟩ := hinit
  cases hfs with
  | single h => simp at hrest
  | @multi start _ _ _ h =>
    obtain ⟨rfl, -⟩ := List.cons.inj hrest
    have hstart : start.length = 32 := h.length_eq start (by simp)
    intro hnil
    have hlength := congrArg List.length hnil
    simp only [joined, List.map_cons, List.flatten_cons, List.length_append, List.length_nil]
      at hlength
    omega

/-- The command of a block, from its place in the message. -/
theorem Fragmentation.command_eq (hfs : Fragmentation data fs) (hinit : done ++ [f] <+: fs) :
    f.1 = if done = [] then if done ++ [f] = fs then smbusCmdWrite else smbusCmdMultWriteStart
      else if done ++ [f] = fs then smbusCmdMultWriteEnd else smbusCmdMultWriteMiddle := by
  obtain ⟨rest, hrest⟩ := hinit
  cases hfs with
  | single h =>
    cases done with
    | nil =>
      obtain ⟨rfl, -⟩ := List.cons.inj hrest
      simp
    | cons g done => simp at hrest
  | @multi start last middles hlen h =>
    cases done with
    | nil =>
      obtain ⟨rfl, -⟩ := List.cons.inj hrest
      simp
    | cons g done =>
      rw [if_neg (List.cons_ne_nil _ _)]
      obtain ⟨rfl, htail⟩ := List.cons.inj hrest
      change done ++ [f] ++ rest = _ at htail
      rcases List.eq_nil_or_concat rest with rfl | ⟨rest, l, rfl⟩
      · rw [List.append_nil] at hrest htail
        obtain ⟨-, hlast⟩ := List.append_inj' htail rfl
        rw [if_pos hrest, (List.cons.inj hlast).1]
      · rw [List.concat_eq_append, ← List.append_assoc] at htail
        obtain ⟨hmiddles, -⟩ := List.append_inj' htail rfl
        have hmem : f ∈ middles.map (Prod.mk smbusCmdMultWriteMiddle) := by
          rw [← hmiddles]
          simp
        obtain ⟨b, -, rfl⟩ := List.mem_map.1 hmem
        rw [if_neg fun heq => ?_]
        rw [← hrest] at heq
        have hlength := congrArg List.length heq
        simp only [List.concat_eq_append, List.length_append, List.length_cons] at hlength
        omega

end

/-- The bus takes the blocks one after the other; `Took done s` says that it has taken `done`. -/
def Takes (h : Handler BusCall BusCall.Answer τ) (fs : List Fragment)
    (Took : List Fragment → τ → Prop) : Prop :=
  ∀ done f s, done ++ [f] <+: fs → Took done s →
    (h (.bmcSmbusBlockWrite f.1 f.2) s).1 = .success ∧
      Took (done ++ [f]) (h (.bmcSmbusBlockWrite f.1 f.2) s).2

theorem Takes.took {fs : List Fragment} {Took : List Fragment → τ → Prop} (htakes : Takes h fs Took)
    {tr : List BusEvent} {s' : τ} : ∀ (next done : List Fragment) (s : τ), done ++ next <+: fs →
      Took done s → h.Answers s (next.map written ++ tr) s' →
        ∃ s₁, Took (done ++ next) s₁ ∧ h.Answers s₁ tr s' := by
  intro next
  induction next with
  | nil =>
    intro done s _ hdone htr
    exact ⟨s, by rwa [List.append_nil], htr⟩
  | cons f next ih =>
    intro done s hinit hdone htr
    have hassoc : done ++ f :: next = (done ++ [f]) ++ next := by simp
    rw [hassoc] at hinit ⊢
    have hnext := htakes done f s ((List.prefix_append _ _).trans hinit) hdone
    exact ih _ _ hinit hnext.2 htr.2

/-- The whole message is taken. -/
theorem sendDataToBmcPort_takes {fuel : ℕ} (hfuel : 255 < fuel) {data : Message}
    (hdata : data.bytes ≠ []) {fs : List Fragment} (hfs : Fragmentation data.bytes fs)
    {Took : List Fragment → τ → Prop} (htakes : Takes h fs Took) {s : τ}
    (hopen : h .bmcSmbusOpen s = (.success, s)) (hs : Took [] s) :
    (sendDataToBmcPort fuel data).Ends h s fun status s' =>
      status = .success ∧ ∃ s₁, Took fs s₁ ∧ s' = (h .bmcSmbusClose s₁).2 := by
  have hpos : 0 < data.bytes.length := List.length_pos_iff.2 hdata
  have hne : UInt8.ofNat data.bytes.length ≠ 0 := by
    intro heq
    have hsize := data.toNat_size
    rw [heq] at hsize
    exact absurd hsize (Nat.ne_of_lt hpos)
  have hiff : UInt8.ofNat data.bytes.length > ssifMaxWriteSize ↔ 32 < data.bytes.length := by
    change ssifMaxWriteSize < UInt8.ofNat data.bytes.length ↔ _
    rw [UInt8.lt_iff_toNat_lt, data.toNat_size, toNat_ssifMaxWriteSize]
  have hcmd : (if UInt8.ofNat data.bytes.length > ssifMaxWriteSize then smbusCmdMultWriteStart
      else smbusCmdWrite) = if 32 < data.bytes.length then smbusCmdMultWriteStart
      else smbusCmdWrite := by simp only [hiff]
  unfold sendDataToBmcPort bmcSmbusOpen bmcSmbusClose
  dsimp only
  rw [if_neg hne, ends_perform_bind, hopen, if_neg (by simp), ends_bind]
  obtain ⟨status, tr, s', hexec, hwrote⟩ :=
    (sendLoop_wrote hfuel hdata hfs hcmd).exists_exec h s
  refine ends_iff_exec.2 ⟨status, tr, s', hexec, ?_⟩
  have htr := answers_of_exec hexec
  cases hwrote with
  | complete =>
    rw [← List.append_nil (fs.map written)] at htr
    obtain ⟨s₁, hs₁, rfl⟩ := htakes.took fs [] s (List.prefix_refl _) hs htr
    exact ⟨rfl, s', hs₁, rfl⟩
  | @failed done rest f _ hfs' hstatus =>
    have hinit : done ++ [f] <+: fs := ⟨rest, by rw [hfs']; simp⟩
    obtain ⟨s₁, hs₁, hlast⟩ :=
      htakes.took done [] s ((List.prefix_append _ _).trans hinit) hs htr
    exact absurd (hlast.1.symm.trans (htakes _ _ _ hinit hs₁).1) hstatus

/-! ### Receiving -/

/-- `SSIF_MAX_READ_SIZE`. -/
def ssifMaxReadSize : ℕ := 32

/-- A block that is not longer than `SSIF_MAX_READ_SIZE`. -/
def blockOf (block : List UInt8) (h : block.length ≤ ssifMaxReadSize) : BlockRead :=
  ⟨.success, block, Nat.le_trans h (by decide)⟩

/-- A read that fails. -/
def failedRead (status : EfiStatus) : BlockRead := ⟨status, [], length_nil_le _⟩

variable {o : ℕ → BlockRead} {t : ℕ → τ}

/-- In the state `t n` the bus serves the block `o n` and goes to the state `t (n + 1)`. -/
structure Serves (h : Handler BusCall BusCall.Answer τ) (o : ℕ → BlockRead) (t : ℕ → τ) : Prop where
  first : h (.bmcSmbusBlockRead smbusCmdRead) (t 0) = (o 0, t 1)
  next : ∀ n, h (.bmcSmbusBlockRead smbusCmdMultRead) (t (n + 1)) = (o (n + 1), t (n + 2))
  /-- An `ASSERT` is no access. -/
  assertFailed : ∀ s, (h .assertFailed s).2 = s

/-- The states of a bus while it is read. -/
def readStates (h : Handler BusCall BusCall.Answer τ) (s : τ) : ℕ → τ
  | 0 => s
  | 1 => (h (.bmcSmbusBlockRead smbusCmdRead) s).2
  | n + 2 => (h (.bmcSmbusBlockRead smbusCmdMultRead) (readStates h s (n + 1))).2

/-- The blocks that are read. -/
def readBlocks (h : Handler BusCall BusCall.Answer τ) (s : τ) : ℕ → BlockRead
  | 0 => (h (.bmcSmbusBlockRead smbusCmdRead) s).1
  | n + 1 => (h (.bmcSmbusBlockRead smbusCmdMultRead) (readStates h s (n + 1))).1

theorem serves_readBlocks (s : τ) (hassert : ∀ s, (h .assertFailed s).2 = s) :
    Serves h (readBlocks h s) (readStates h s) := ⟨rfl, fun _ => rfl, hassert⟩

/-- An iteration makes one access to the bus. -/
theorem readBlock_eq_call (dataSize : UInt8) (s : ReceiveState) :
    ∃ k, readBlock dataSize s = .call (.bmcSmbusBlockRead s.smbusCmd) k ∧
      ∀ read, (k read).Satisfies True fun tr _ => ∀ event ∈ tr, event.1 = .assertFailed := by
  refine ⟨_, rfl, fun read => ?_⟩
  dsimp only [assert, Prog.bind]
  split_ifs <;> simp [Satisfies, Prog.perform]

/-- One iteration of the loop. -/
theorem readBlock_serves {dataSize : UInt8} {s : ReceiveState} {p : List UInt8} {n : ℕ}
    (hserves : Serves h o t) (hframed : Framed o) (hI : ReceiveProgress o dataSize s n p) :
    (readBlock dataSize s).Ends h (t n) fun i s' => s' = t (n + 1) ∧ Stepped o dataSize n i := by
  have hscript : (readBlock dataSize s).Ends (⟨.success, .success, o⟩ : BusScript).bus n fun i m =>
      m = n + 1 ∧ Stepped o dataSize n i := readBlock_ends hI hframed.not_tooShort
  obtain ⟨k, hcall, hrest⟩ := readBlock_eq_call dataSize s
  have hread : h (.bmcSmbusBlockRead s.smbusCmd) (t n) = (o n, t (n + 1)) := by
    rcases hI.next with ⟨rfl, hcmd⟩ | ⟨m, rfl, hcmd, -⟩
    · rw [hcmd, hserves.first]
    · rw [hcmd, hserves.next]
  rw [hcall, ends_call] at hscript ⊢
  rw [hread]
  refine (hscript.transfer (fun m s' => s' = t m) ?_ (hrest (o n)) rfl).mono ?_
  · rintro c m _ hevent rfl
    obtain rfl : c = .assertFailed := hevent
    exact ⟨rfl, hserves.assertFailed _⟩
  · rintro i _ ⟨_, ⟨rfl, hi⟩, rfl⟩
    exact ⟨rfl, hi⟩

theorem receiveLoop_serves {fuel : ℕ} (hfuel : 256 < fuel) (hserves : Serves h o t)
    (hframed : Framed o) (stack data : Memory UInt8) (dataSize : UInt8) :
    (loop (readBlock dataSize) fuel ⟨0, smbusCmdRead, stack, 0, data⟩).Ends h (t 0)
      fun received s' => LoopResult o dataSize received ∧ ∃ n, s' = t n := by
  refine ends_loop (I := fun s τ => ∃ n p, τ = t n ∧ ReceiveProgress o dataSize s n p)
    (fun s _ => blocksLeft s) ?_ fuel _ (t 0)
    ⟨0, [], rfl, .none, Nat.zero_le _, rfl, rfl, .inl ⟨rfl, rfl⟩⟩ hfuel
  rintro s _ ⟨n, p, rfl, hI⟩
  refine (readBlock_serves hserves hframed hI).mono ?_
  rintro (s' | received) _ ⟨rfl, hi⟩
  · obtain ⟨p', hI'⟩ := hi
    have hle := hI'.inOrder.le
    refine ⟨⟨n + 1, p', rfl, hI'⟩, ?_⟩
    rw [blocksLeft_eq hI.inOrder.le hI.next, blocksLeft_eq hle hI'.next]
    omega
  · exact ⟨hi, n + 1, rfl⟩

theorem receiveBmcDataFromPort_result {fuel : ℕ} (hfuel : 256 < fuel) (hserves : Serves h o t)
    (hopen : h .bmcSmbusOpen (t 0) = (.success, t 0)) (hframed : Framed o) (stack data : Memory UInt8)
    (dataSize : UInt8) :
    (receiveBmcDataFromPort fuel stack data dataSize).Ends h (t 0) fun received s' =>
      LoopResult o dataSize received ∧ ∃ n, s' = (h .bmcSmbusClose (t n)).2 := by
  unfold receiveBmcDataFromPort bmcSmbusOpen bmcSmbusClose
  rw [ends_perform_bind, hopen, if_neg (by simp), ends_bind]
  refine (receiveLoop_serves hfuel hserves hframed stack data dataSize).mono ?_
  rintro received _ ⟨hresult, n, rfl⟩
  exact ⟨hresult, n, rfl⟩

/-- The result of a receive, if the blocks are those of a message that fits. -/
theorem LoopResult.of_endsAt {dataSize : UInt8} {received : Received} {n : ℕ} {response : List UInt8}
    (hresult : LoopResult o dataSize received) (hend : EndsAt o n response)
    (hfits : response.length ≤ dataSize.toNat) :
    received.status = .success ∧ received.dataSize.toNat = response.length ∧
      received.data.slice 0 response.length = response := by
  rcases hresult with ⟨hsucc, m, p, hend', -, hsize, hdata⟩ | ⟨-, hrefused⟩
  · obtain rfl := hend.index_unique hend'
    obtain rfl := hend.unique hend'
    exact ⟨hsucc, hsize, hdata⟩
  · exact absurd hrefused (hend.not_refused hfits)

end Ssif

end IpmiFeature
