import IpmiFeature.Generic.Link
import IpmiFeature.Ssif.Serving

/-!
# A BMC that executes commands, behind the SMBus

A BMC that collects the blocks of a request, executes it and serves its response in blocks: how it
cuts a response is up to it (`Framing`), as long as the blocks carry it (`Carries`), as those of
`standardFraming` do.  The driver's functions are an implementation of the transport interface
(`transport`), and over it every program does what it does over the ideal transport: each message that
is sent is executed exactly once (`above_bus_executes`).
-/

namespace IpmiFeature

open Interaction Prog Generic

namespace Ssif

variable {σ α : Type}

/-! ### The BMC -/

/-- How a BMC cuts a response into blocks. -/
abbrev Framing := List UInt8 → ℕ → BlockRead

/-- The blocks are those of the message. -/
structure Carries (o : ℕ → BlockRead) (response : List UInt8) : Prop where
  framed : Framed o
  ends : ∃ n, EndsAt o n response

/-- The BMC: its state, the blocks of a multi-part request, the last response and its next block. -/
structure Device (σ : Type) where
  state : σ
  request : List UInt8
  response : Option (List UInt8)
  next : ℕ

/-- A request is complete. -/
def Device.execute (process : Processor σ) (request : List UInt8) (dev : Device σ) : Device σ :=
  let (response, state) := process request dev.state
  ⟨state, [], some response, 0⟩

/-- A block write. -/
def Device.blockWrite (process : Processor σ) (command : UInt8) (block : List UInt8)
    (dev : Device σ) : EfiStatus × Device σ :=
  if command = smbusCmdWrite then
    (.success, dev.execute process block)
  else if command = smbusCmdMultWriteStart then
    (.success, { dev with request := block })
  else if command = smbusCmdMultWriteMiddle then
    (.success, { dev with request := dev.request ++ block })
  else if command = smbusCmdMultWriteEnd then
    (.success, dev.execute process (dev.request ++ block))
  else
    (.invalidParameter, dev)

/-- A block read: `SMBUS_CMD_READ` starts the response over. -/
def Device.blockRead (framing : Framing) (command : UInt8) (dev : Device σ) : BlockRead × Device σ :=
  match dev.response with
  | none => (failedRead .notFound, dev)
  | some response =>
    let n := if command = smbusCmdRead then 0 else dev.next
    (framing response n, { dev with next := n + 1 })

/-- The BMC behind the bus. -/
def device (process : Processor σ) (framing : Framing) : Handler BusCall BusCall.Answer (Device σ)
  | .bmcSmbusOpen, dev => (.success, dev)
  | .bmcSmbusClose, dev => (.success, dev)
  | .bmcSmbusBlockWrite command writeBlock, dev => dev.blockWrite process command writeBlock
  | .bmcSmbusBlockRead command, dev => dev.blockRead framing command
  | .assertFailed, dev => ((), dev)

/-! ### The standard framing -/

/-- Block `n` of a response. -/
def standardFraming : Framing := fun response n =>
  if hshort : response.length ≤ ssifMaxReadSize then
    if n = 0 then blockOf response hshort else failedRead .notFound
  else
    match n with
    | 0 => blockOf (0 :: 1 :: response.take 30) (Nat.add_le_add_right (List.length_take_le 30 _) 2)
    | n + 1 =>
      let number := if response.length ≤ 30 + 31 * (n + 1) then 0xFF else UInt8.ofNat n
      blockOf (number :: (response.drop (30 + 31 * n)).take 31)
        (Nat.add_le_add_right (List.length_take_le 31 _) 1)

section

variable {response : List UInt8} {n : ℕ}

theorem standardFraming_short (hshort : response.length ≤ 32) :
    (standardFraming response 0).Delivers response := by
  have hshort' : response.length ≤ ssifMaxReadSize := hshort
  simp [standardFraming, hshort', BlockRead.Delivers, blockOf]

theorem standardFraming_zero (hlong : 32 < response.length) :
    (standardFraming response 0).Delivers (0 :: 1 :: response.take 30) := by
  have hlong' : ¬ response.length ≤ ssifMaxReadSize := Nat.not_le.2 hlong
  simp [standardFraming, hlong', BlockRead.Delivers, blockOf]

theorem standardFraming_succ (hlong : 32 < response.length) (n : ℕ) :
    (standardFraming response (n + 1)).Delivers
      ((if response.length ≤ 30 + 31 * (n + 1) then 0xFF else UInt8.ofNat n) ::
        (response.drop (30 + 31 * n)).take 31) := by
  have hlong' : ¬ response.length ≤ ssifMaxReadSize := Nat.not_le.2 hlong
  simp [standardFraming, hlong', BlockRead.Delivers, blockOf]

theorem inOrder_standardFraming (hlong : 32 < response.length) (hn : n < 255)
    (hmore : 30 + 31 * n < response.length) :
    InOrder (standardFraming response) (n + 1) (response.take (30 + 31 * n)) := by
  induction n with
  | zero => exact .start (standardFraming_zero hlong)
  | succ n ih =>
    have hoffset : 30 + 31 * (n + 1) = 30 + 31 * n + 31 := by omega
    have hblock := standardFraming_succ hlong n
    rw [if_neg (Nat.not_le.2 hmore)] at hblock
    rw [hoffset, List.take_add]
    exact .next (ih (by omega) (by omega)) (by omega) hblock

/-- The blocks carry every message that is not a short one that starts like a multi-part one. -/
theorem carries_standardFraming (htwo : 2 ≤ response.length) (hlt : response.length < 256)
    (hstart : response.length ≤ 32 → ¬ [0, 1] <+: response) :
    Carries (standardFraming response) response := by
  rcases Nat.lt_or_ge 32 response.length with hlong | hshort
  · constructor
    · intro n _
      cases n with
      | zero =>
        rw [(standardFraming_zero hlong).2]
        simp
      | succ n =>
        rw [(standardFraming_succ hlong n).2]
        simp
    · -- the last block starts at the offset `30 + 31 * n`
      obtain ⟨n, hn⟩ : ∃ n, n = (response.length - 31) / 31 := ⟨_, rfl⟩
      have hopening := inOrder_standardFraming (n := n) hlong (by omega) (by omega)
      have hlast := standardFraming_succ hlong n
      rw [if_pos (by omega), List.take_of_length_le (by rw [List.length_drop]; omega)] at hlast
      have hend := EndsAt.multi hopening hlast
      rw [List.take_append_drop] at hend
      exact ⟨n + 1, hend⟩
  · constructor
    · intro n hstatus
      cases n with
      | zero => rwa [(standardFraming_short hshort).2, if_pos rfl]
      | succ n =>
        have hshort' : response.length ≤ ssifMaxReadSize := hshort
        simp [standardFraming, hshort', failedRead] at hstatus
    · exact ⟨0, .single (standardFraming_short hshort) (hstart hshort)⟩

end

/-! ### The driver -/

variable {process : Processor σ} {framing : Framing} {dev : Device σ} {fuel : ℕ}

/-- The BMC that was in the state `x` has taken the blocks `done` of the request `data`. -/
def Took (process : Processor σ) (x : σ) (data : List UInt8) (fs done : List Fragment)
    (dev : Device σ) : Prop :=
  if done = fs then dev.state = (process data x).2 ∧ dev.response = some (process data x).1
  else dev.state = x ∧ (done ≠ [] → dev.request = joined done)

theorem takes_device {x : σ} {data : List UInt8} {fs : List Fragment} (hfs : Fragmentation data fs) :
    Takes (device process framing) fs (Took process x data fs) := by
  intro done f dev hinit htook
  have hnotlast : done ≠ fs := by
    rintro rfl
    have hle := hinit.length_le
    rw [List.length_append, List.length_singleton] at hle
    omega
  obtain ⟨hstate, hrequest⟩ := (if_neg hnotlast).mp htook
  have hcommand := hfs.command_eq hinit
  -- the request, if the block is the last one
  have hlast : done ++ [f] = fs → joined done ++ f.2 = data := by
    intro heq
    rw [← joined_concat, heq, hfs.joined_eq]
  change (dev.blockWrite process f.1 f.2).1 = _ ∧ Took _ _ _ _ _ (dev.blockWrite process f.1 f.2).2
  unfold Took Device.blockWrite Device.execute
  by_cases hdone : done = []
  · subst hdone
    by_cases hend : [] ++ [f] = fs
    · have hdata : f.2 = data := by simpa [joined] using hlast hend
      rw [if_pos rfl, if_pos hend] at hcommand
      rw [hcommand, if_pos rfl, if_pos hend, hdata, hstate]
      exact ⟨rfl, rfl, rfl⟩
    · rw [if_pos rfl, if_neg hend] at hcommand
      rw [hcommand, if_neg (by decide), if_pos rfl, if_neg hend]
      exact ⟨rfl, hstate, fun _ => by simp [joined]⟩
  · rw [if_neg hdone] at hcommand
    have hjoined := hrequest hdone
    by_cases hend : done ++ [f] = fs
    · rw [if_pos hend] at hcommand
      rw [hcommand, if_neg (by decide), if_neg (by decide), if_neg (by decide), if_pos rfl,
        if_pos hend, hjoined, hlast hend, hstate]
      exact ⟨rfl, rfl, rfl⟩
    · rw [if_neg hend] at hcommand
      rw [hcommand, if_neg (by decide), if_neg (by decide), if_pos rfl, if_neg hend, joined_concat,
        hjoined]
      exact ⟨rfl, hstate, fun _ => rfl⟩

/-- The blocks of a response that waits. -/
theorem serves_device {response : List UInt8} (hresponse : dev.response = some response) :
    Serves (device process framing) (framing response)
      (fun n => if n = 0 then dev else { dev with next := n }) where
  first := by simp [device, Device.blockRead, hresponse]
  next n := by simp [device, Device.blockRead, hresponse, show smbusCmdMultRead ≠ smbusCmdRead by decide]
  assertFailed _ := rfl

/-! ### The transport -/

/-- `SendDataToBmcPort` and `ReceiveBmcDataFromPort`, as the transport of the generic driver; `stack`
and `before` are what is in the local and in the caller's buffer before a receive. -/
def transport (fuel : ℕ) (stack before : Memory UInt8) :
    (call : TransportCall) → BusProg call.Answer
  | .sendDataToBmcPort _ data => sendDataToBmcPort fuel data
  | .receiveBmcDataFromPort _ dataSize =>
    (fun received => replyOf received dataSize) <$>
      receiveBmcDataFromPort fuel stack before dataSize

/-- The BMC stands for a state of the ideal transport.  It keeps the last response, so if none waits
there may be an old one. -/
structure Linked (framing : Framing) (link : Link σ) (dev : Device σ) : Prop where
  state_eq : dev.state = link.state
  response_eq : ∀ response, link.response = some response →
    dev.response = some response ∧ Carries (framing response) response

/-- A call does over the bus what it does over the ideal transport. -/
theorem transport_executes (hfuel : 256 < fuel) (stack before : Memory UInt8)
    (hcarries : ∀ request x, Carries (framing (process request x).1) (process request x).1)
    {call : TransportCall} {link link' : Link σ} {answer : call.Answer} (hdev : Linked framing link dev)
    (hcall : linkCall process call link = some (answer, link')) :
    (transport fuel stack before call).Ends (device process framing) dev fun a dev' =>
      a = answer ∧ Linked framing link' dev' := by
  cases call with
  | sendDataToBmcPort ipmiTimeoutPeriod data =>
    obtain ⟨hready, heq⟩ := Option.ite_none_left_eq_some.1 hcall
    obtain ⟨hdata, -⟩ := not_or.1 hready
    cases heq
    obtain ⟨fs, hfs⟩ := exists_fragmentation hdata
    have hne : ([] : List Fragment) ≠ fs := by
      rintro rfl
      exact hdata hfs.joined_eq.symm
    have htook : Took process link.state data.bytes fs [] dev := by
      unfold Took
      rw [if_neg hne]
      exact ⟨hdev.state_eq, fun h => absurd rfl h⟩
    refine (sendDataToBmcPort_takes (by omega) hdata hfs (takes_device hfs) rfl htook).mono ?_
    rintro _ _ ⟨rfl, dev', htook', rfl⟩
    obtain ⟨hstate, hresponse⟩ := (if_pos rfl).mp htook'
    refine ⟨rfl, hstate, ?_⟩
    rintro _ ⟨⟩
    exact ⟨hresponse, hcarries _ _⟩
  | receiveBmcDataFromPort ipmiTimeoutPeriod dataSize =>
    unfold linkCall at hcall
    dsimp only at hcall
    split at hcall
    · cases hcall
    · rename_i response hwaits
      obtain ⟨hlen, heq⟩ := Option.dite_none_right_eq_some.1 hcall
      cases heq
      obtain ⟨hresponse, hframed, n, hend⟩ := hdev.response_eq response hwaits
      have hserves : Serves (device process framing) (framing response)
          fun n => if n = 0 then dev else { dev with next := n } :=
        serves_device hresponse
      have hreceive := receiveBmcDataFromPort_result hfuel hserves rfl hframed stack before dataSize
      refine ends_map.2 (hreceive.mono ?_)
      rintro received _ ⟨hresult, m, rfl⟩
      obtain ⟨hstatus, hsize, hslice⟩ := hresult.of_endsAt hend hlen
      constructor
      · unfold replyOf
        simp only [hstatus, hsize, Nat.min_eq_left hlen, hslice]
      · refine ⟨?_, fun _ h => absurd h (by simp)⟩
        change Device.state (if m = 0 then dev else { dev with next := m }) = _
        split_ifs <;> exact hdev.state_eq

theorem implements (hfuel : 256 < fuel) (stack before : Memory UInt8) (period : UInt64)
    (hcarries : ∀ request x, Carries (framing (process request x).1) (process request x).1) :
    Implements process (device process framing) (transport fuel stack before) period
      (Linked framing) :=
  fun _ _ _ _ _ _ hdev hcall => transport_executes hfuel stack before hcarries hdev hcall

theorem linked_idle (framing : Framing) (dev : Device σ) : Linked framing ⟨dev.state, none⟩ dev :=
  ⟨rfl, fun _ h => absurd h (by simp)⟩

/-- **Programs over the SSIF transport.**  A program that is run over the driver and a BMC whose blocks
carry its responses ends with what it ends with over the ideal transport: the BMC executes each message
that is sent exactly once, in their order, and each response is received exactly once. -/
theorem above_bus_executes {p : TransportProg α} {Q : α → Link σ → Prop} (hfuel : 256 < fuel)
    (stack before : Memory UInt8)
    (hcarries : ∀ request x, Carries (framing (process request x).1) (process request x).1)
    (hp : p.Completes (linkCall process) ⟨dev.state, none⟩ Q) :
    (p.above (transport fuel stack before)).Ends (device process framing) dev fun a dev' =>
      ∃ link, Q a link ∧ Linked framing link dev' :=
  hp.above (P := fun _ => True)
    (fun _ _ _ _ _ _ hdev hcall => transport_executes hfuel stack before hcarries hdev hcall)
    (satisfies_of_forall fun _ _ _ _ => trivial) (linked_idle framing dev)

/-- A BMC that counts the requests and answers with forty bytes. -/
def countingBmc : Processor ℕ := fun _ n => (List.replicate 40 0x1C, n + 1)

/-- A message of two blocks, and the receive of its response. -/
def longProgram : TransportProg (Reply 255) := do
  let _ ← perform (TransportCall.sendDataToBmcPort 0 ⟨List.replicate 40 0x18, by decide⟩)
  perform (TransportCall.receiveBmcDataFromPort 0 255)

theorem above_bus_executes_blocks :
    (longProgram.above (transport 257 (fun _ => 0) fun _ => 0)).Ends
      (device countingBmc standardFraming) ⟨0, [], none, 0⟩ fun reply dev' =>
        ∃ link, (reply.data = List.replicate 40 0x1C ∧ link.state = 1) ∧
          Linked standardFraming link dev' :=
  above_bus_executes (by decide) (fun _ => 0) (fun _ => 0)
    (fun _ _ => carries_standardFraming (show 2 ≤ 40 by decide) (show 40 < 256 by decide)
      fun _ => show ¬ [0, 1] <+: List.replicate 40 0x1C by decide)
    ⟨_, _, rfl, _, _, rfl, rfl, rfl⟩

end Ssif

end IpmiFeature
