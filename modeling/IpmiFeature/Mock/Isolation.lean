import IpmiFeature.Interaction.Interleave
import IpmiFeature.Mock.Agreement
import IpmiFeature.Mock.Answers

/-!
# The parts of the mock BMC

The event log, the watchdog and the boot options of the mock BMC do not touch each other: a handler
works on the part that its command is about, and on nothing else (`mockHandlers_local`).  So their
clients can share the BMC, over `IpmiBaseLibMock`, in any order of their commands
(`isolated_mockSubmitCommand`).
-/

namespace IpmiFeature

open Interaction Prog

namespace Mock

/-! ### The parts -/

/-- The parts of the state of the BMC. -/
inductive Subsystem where
  /-- `MockSel.c`. -/
  | sel
  /-- `MockWdt.c`. -/
  | watchdog
  /-- `MockChassis.c`. -/
  | bootOptions
  deriving DecidableEq, Repr

/-- The part that a command is about, if any. -/
def ownerOf (netFunction command : UInt8) : Option Subsystem :=
  if netFunction = netfnStorage then
    some .sel
  else if netFunction = netfnChassis then
    some .bootOptions
  else if netFunction = netfnApp ∧
      command ∈ [appGetWatchdogTimer, appSetWatchdogTimer, appResetWatchdogTimer] then
    some .watchdog
  else
    none

/-- The state `s` with a part of the state `t`. -/
def BmcState.put (part : Option Subsystem) (s t : BmcState) : BmcState :=
  match part with
  | none => s
  | some .sel => { s with sel := t.sel }
  | some .watchdog => { s with watchdog := t.watchdog }
  | some .bootOptions => { s with bootFlags := t.bootFlags, bootOptionAcks := t.bootOptionAcks }

/-- The states have the same part. -/
def Subsystem.Same : Subsystem → BmcState → BmcState → Prop
  | sel, s, t => s.sel = t.sel
  | watchdog, s, t => s.watchdog = t.watchdog
  | bootOptions, s, t => s.bootFlags = t.bootFlags ∧ s.bootOptionAcks = t.bootOptionAcks

section

variable {i : Subsystem} {part : Option Subsystem} {s t u : BmcState}

theorem Subsystem.same_refl (i : Subsystem) (s : BmcState) : i.Same s s := by
  cases i
  · rfl
  · rfl
  · exact ⟨rfl, rfl⟩

theorem Subsystem.Same.symm (h : i.Same s t) : i.Same t s := by
  cases i with
  | sel => exact Eq.symm h
  | watchdog => exact Eq.symm h
  | bootOptions => exact ⟨h.1.symm, h.2.symm⟩

theorem Subsystem.Same.trans (h : i.Same s t) (h' : i.Same t u) : i.Same s u := by
  cases i with
  | sel => exact Eq.trans h h'
  | watchdog => exact Eq.trans h h'
  | bootOptions => exact ⟨h.1.trans h'.1, h.2.trans h'.2⟩

/-- Putting a part back. -/
theorem BmcState.put_put (part : Option Subsystem) (s t : BmcState) :
    s.put part (t.put part s) = s := by
  rcases part with _ | ⟨⟨⟩⟩ <;> rfl

/-- A part that is the same already. -/
theorem BmcState.put_of_same (hpart : ∀ j, part = some j → j = i) (h : i.Same s t) :
    t.put part s = t := by
  rcases part with _ | j
  · rfl
  · obtain rfl := hpart j rfl
    obtain ⟨sel, watchdog, bootFlags, bootOptionAcks⟩ := t
    cases j with
    | sel => exact congrArg (fun x => BmcState.mk x watchdog bootFlags bootOptionAcks) h
    | watchdog => exact congrArg (fun x => BmcState.mk sel x bootFlags bootOptionAcks) h
    | bootOptions => exact congrArg₂ (fun x y => BmcState.mk sel watchdog x y) h.1 h.2

theorem BmcState.same_put (i : Subsystem) (s t : BmcState) : i.Same (s.put (some i) t) t := by
  cases i
  · rfl
  · rfl
  · exact ⟨rfl, rfl⟩

/-- The other parts stay. -/
theorem BmcState.same_put_of_ne (hpart : part ≠ some i) : i.Same (s.put part t) s := by
  rcases part with _ | ⟨⟨⟩⟩ <;> cases i <;>
    first | rfl | exact ⟨rfl, rfl⟩ | exact absurd rfl hpart

end

/-! ### The handlers -/

/-- The handler depends on a part of the state and changes nothing else. -/
def MockHandler.Local (part : Option Subsystem) (handler : MockHandler) : Prop :=
  ∀ data response (s t : BmcState), handler data response s =
    (handler data response (t.put part s)).map fun x => (x.1, s.put part x.2)

theorem mockHandlers_local :
    ∀ entry ∈ mockHandlers, entry.handler.Local (ownerOf entry.netFunction entry.command) := by
  simp only [mockHandlers, List.forall_mem_cons]
  refine ⟨?_, ?_, ?_, ?_, ?_, ?_, ?_, ?_, ?_, ?_, ?_, ?_, ?_, List.forall_mem_nil _⟩ <;> intro data response s t
  · rfl
  · rfl
  · rfl
  · change mockIpmiSelAddEntry data response s =
      (mockIpmiSelAddEntry data response { t with sel := s.sel }).map _
    unfold mockIpmiSelAddEntry
    split_ifs <;> rfl
  · rfl
  · change mockIpmiSelSetTime data response s =
      (mockIpmiSelSetTime data response { t with sel := s.sel }).map _
    unfold mockIpmiSelSetTime
    split_ifs <;> rfl
  · change mockIpmiSelClear data response s =
      (mockIpmiSelClear data response { t with sel := s.sel }).map _
    unfold mockIpmiSelClear
    dsimp only
    split_ifs <;> rfl
  · change mockIpmiSelGetEntry data response s =
      (mockIpmiSelGetEntry data response { t with sel := s.sel }).map _
    unfold mockIpmiSelGetEntry
    dsimp only
    split_ifs <;> rfl
  · rfl
  · change mockIpmiSetWatchdog data response s =
      (mockIpmiSetWatchdog data response { t with watchdog := s.watchdog }).map _
    unfold mockIpmiSetWatchdog
    dsimp only
    split_ifs <;> rfl
  · rfl
  · change mockIpmiSetSystemBootOptions data response s =
      (mockIpmiSetSystemBootOptions data response { t with
        bootFlags := s.bootFlags, bootOptionAcks := s.bootOptionAcks }).map _
    unfold mockIpmiSetSystemBootOptions
    dsimp only
    split_ifs <;> rfl
  · change mockIpmiGetSystemBootOptions data response s =
      (mockIpmiGetSystemBootOptions data response { t with
        bootFlags := s.bootFlags, bootOptionAcks := s.bootOptionAcks }).map _
    unfold mockIpmiGetSystemBootOptions
    dsimp only
    split_ifs <;> rfl

/-! ### The commands -/

/-- The response to a command, in an idle BMC, and the state after it. -/
def answerOf (call : SubmitCall) (state : BmcState) : Option (List UInt8 × BmcState) :=
  match handlerOf (call.netFunction <<< 2 >>> 2) call.command with
  | none => some ([compCodeInvalidCommand], state)
  | some handler => handler call.commandData unanswered state

/-- The part that a call is about. -/
def partOf (call : SubmitCall) : Option Subsystem :=
  ownerOf (call.netFunction <<< 2 >>> 2) call.command

theorem handlerOf_eq_some {netFunction command : UInt8} {handler : MockHandler}
    (h : handlerOf netFunction command = some handler) : ∃ entry ∈ mockHandlers,
      entry.netFunction = netFunction ∧ entry.command = command ∧ entry.handler = handler := by
  obtain ⟨entry, hfind, rfl⟩ := Option.map_eq_some_iff.1 h
  have hmatch := List.find?_some hfind
  simp only [Bool.and_eq_true, beq_iff_eq] at hmatch
  exact ⟨entry, List.mem_of_find?_eq_some hfind, hmatch.1, hmatch.2, rfl⟩

theorem answerOf_local (call : SubmitCall) (s t : BmcState) :
    answerOf call s =
      (answerOf call (t.put (partOf call) s)).map fun x => (x.1, s.put (partOf call) x.2) := by
  unfold answerOf partOf
  cases hhandler : handlerOf (call.netFunction <<< 2 >>> 2) call.command with
  | none =>
    change _ = some (_, _)
    rw [BmcState.put_put]
  | some handler =>
    obtain ⟨entry, hmem, hnetFunction, hcommand, rfl⟩ := handlerOf_eq_some hhandler
    rw [← hnetFunction, ← hcommand]
    exact mockHandlers_local entry hmem _ _ s t

theorem length_answerOf {call : SubmitCall} {state state' : BmcState} {response : List UInt8}
    (h : answerOf call state = some (response, state')) : response.length ≤ 19 := by
  unfold answerOf at h
  split at h
  · cases h
    decide
  · rename_i handler hhandler
    obtain ⟨entry, hmem, -, -, rfl⟩ := handlerOf_eq_some hhandler
    exact mockHandlers_short entry hmem _ _ _ _ _ h

/-- The response that has been prepared. -/
theorem mockIpmiResponse_respond {bmc : Bmc} {response : List UInt8} (hlen : response.length ≤ 19) :
    mockIpmiResponse 255 (bmc.respond response) = some (bmc.response.slice 0 2 ++ response,
      ⟨bmc.state, false, fun _ => 0, UInt8.ofNat (2 + response.length)⟩) := by
  have hsize : (UInt8.ofNat (2 + response.length)).toNat = 2 + response.length :=
    UInt8.toNat_ofNat_of_lt' (show 2 + response.length < 256 by omega)
  have hzero : UInt8.ofNat (2 + response.length) ≠ 0 := by
    intro h
    have hnat : (UInt8.ofNat (2 + response.length)).toNat = 0 := by rw [h]; rfl
    omega
  have hle : UInt8.ofNat (2 + response.length) ≤ 252 :=
    UInt8.le_iff_toNat_le.2 (show _ ≤ 252 by omega)
  have hlt : 255 > UInt8.ofNat (2 + response.length) :=
    UInt8.lt_iff_toNat_lt.2 (show _ < 255 by omega)
  rw [mockIpmiResponse, if_pos ⟨rfl, hzero, hle, hlt⟩, ← Memory.slice_store_append]
  change some (Memory.slice _ 0 (UInt8.ofNat (2 + response.length)).toNat, _) = _
  rw [hsize]
  rfl

theorem mockIpmiCommand_eq {bmc : Bmc} (call : SubmitCall) (hidle : bmc.Idle) :
    mockIpmiCommand (call.netFunction <<< 2 :: call.command :: call.commandData) bmc =
      (answerOf call bmc.state).bind fun x => if x.1 = [] then none else
        some (Bmc.respond { bmc.prepare (call.netFunction <<< 2 >>> 2) call.command with
          state := x.2 } x.1) := by
  unfold mockIpmiCommand answerOf
  dsimp only
  rw [if_neg (not_not.2 (shiftLeft_and _)), hidle.unanswered_eq]
  cases handlerOf (call.netFunction <<< 2 >>> 2) call.command with
  | none => rfl
  | some handler =>
    have hstate : (bmc.prepare (call.netFunction <<< 2 >>> 2) call.command).state = bmc.state := rfl
    dsimp only
    rw [hstate]
    cases handler call.commandData unanswered bmc.state <;> rfl

/-- A command over `IpmiBaseLibMock`, in an idle BMC. -/
theorem mockSubmitCommand_eq_some {call : SubmitCall} {bmc bmc' : Bmc} {reply : SubmitReply}
    (hidle : bmc.Idle) : mockSubmitCommand call bmc = some (reply, bmc') ↔
      call.commandData.length ≤ 253 ∧ ∃ response state,
        answerOf call bmc.state = some (response, state) ∧ response ≠ [] ∧
          response.length ≤ call.responseDataSize.toNat ∧
          reply = ⟨.success, response, UInt32.ofNat response.length⟩ ∧
          bmc' = ⟨state, false, fun _ => 0, UInt8.ofNat (2 + response.length)⟩ := by
  unfold mockSubmitCommand
  by_cases hdata : 253 < call.commandData.length
  · rw [if_pos hdata]
    exact iff_of_false (by simp) fun h => absurd h.1 (Nat.not_le.2 hdata)
  rw [if_neg hdata, mockIpmiCommand_eq call hidle]
  cases hanswer : answerOf call bmc.state with
  | none =>
    refine iff_of_false (by simp) ?_
    rintro ⟨-, response, state, hsome, -⟩
    cases hsome
  | some x =>
    obtain ⟨response, state⟩ := x
    have hslice (m : Memory UInt8) : (m.slice 0 2 ++ response).drop 2 = response :=
      List.drop_left' (Memory.length_slice 0 2)
    have hlength (m : Memory UInt8) : (m.slice 0 2 ++ response).length - 2 = response.length := by
      rw [List.length_append, Memory.length_slice, Nat.add_sub_cancel_left]
    by_cases hnil : response = []
    · refine iff_of_false (by simp [hnil]) ?_
      rintro ⟨-, response', state', hsome, hne, -⟩
      cases hsome
      exact hne hnil
    · simp only [Option.bind_eq_bind, Option.bind_some, hnil, if_false,
        mockIpmiResponse_respond (length_answerOf hanswer), hslice, hlength]
      constructor
      · intro h
        split_ifs at h with hfits
        simp only [Option.pure_def, Option.some.injEq, Prod.mk.injEq] at h
        exact ⟨Nat.not_lt.1 hdata, response, state, rfl, hnil, hfits, h.1.symm, h.2.symm⟩
      · rintro ⟨-, _, _, ⟨⟩, -, hfits, rfl, rfl⟩
        rw [if_pos hfits]
        rfl

/-! ### The clients -/

/-- The calls of a client of one part: they are about it or about none. -/
def Subsystem.Owns (i : Subsystem) (call : SubmitCall) : Prop := ∀ j, partOf call = some j → j = i

/-- The mock BMC keeps its parts apart. -/
theorem isolated_mockSubmitCommand :
    Isolated mockSubmitCommand Bmc.Idle (fun i bmc bmc' => i.Same bmc.state bmc'.state)
      Subsystem.Owns where
  inv _ h := idle_of_mockSubmitCommand h
  refl i bmc := i.same_refl bmc.state
  sees := by
    intro i call bmc bmc' reply bmc₁ howns hidle hidle' hsame hcall
    obtain ⟨hdata, response, state, hanswer, hne, hfits, rfl, rfl⟩ :=
      (mockSubmitCommand_eq_some hidle).1 hcall
    have hlocal := answerOf_local call bmc'.state bmc.state
    rw [BmcState.put_of_same howns hsame.symm, hanswer, Option.map_some] at hlocal
    refine ⟨_, (mockSubmitCommand_eq_some hidle').2
      ⟨hdata, response, _, hlocal, hne, hfits, rfl, rfl⟩, ?_⟩
    -- the call has changed its own part only
    by_cases hpart : partOf call = some i
    · dsimp only
      rw [hpart]
      exact (BmcState.same_put i _ _).symm
    · have hstate := answerOf_local call bmc.state bmc.state
      rw [BmcState.put_of_same howns (i.same_refl _), hanswer, Option.map_some, Option.some.injEq,
        Prod.mk.injEq] at hstate
      dsimp only
      rw [hstate.2]
      exact ((BmcState.same_put_of_ne hpart).trans hsame).trans (BmcState.same_put_of_ne hpart).symm
  keeps := by
    intro i j call bmc bmc' reply bmc₁ hne howns hidle hsame hcall
    obtain ⟨-, response, state, hanswer, -, -, -, rfl⟩ := (mockSubmitCommand_eq_some hidle).1 hcall
    have hpart : partOf call ≠ some i := fun h => hne (howns i h)
    have hstate := answerOf_local call bmc.state bmc.state
    rw [BmcState.put_of_same howns (j.same_refl _), hanswer, Option.map_some, Option.some.injEq,
      Prod.mk.injEq] at hstate
    dsimp only
    rw [hstate.2]
    exact (BmcState.same_put_of_ne hpart).trans hsame

end Mock

end IpmiFeature
