import IpmiFeature.Mock.Basic

/-!
# The answers of the mock BMC

Between two commands the response buffer is zero (`idle_of_exec`), and over `IpmiBaseLibMock` the
caller gets what the handler of its command says (`mockSubmitCommand_of_handler`).
-/

namespace IpmiFeature

open Interaction Prog

namespace Mock

/-- No response is waiting, and the last one has been cleared. -/
structure Bmc.Idle (bmc : Bmc) : Prop where
  response_eq : bmc.response = fun _ => 0

theorem idle_initialBmc : initialBmc.Idle := ⟨rfl⟩

/-- A command clears the response buffer behind it. -/
theorem idle_of_mockSubmitCommand {call : SubmitCall} {reply : SubmitReply} {bmc bmc' : Bmc}
    (h : mockSubmitCommand call bmc = some (reply, bmc')) : bmc'.Idle := by
  unfold mockSubmitCommand at h
  split_ifs at h
  simp only [Option.bind_eq_bind, Option.bind_eq_some_iff] at h
  obtain ⟨bmc₁, -, ⟨response, bmc₂⟩, hresponse, h⟩ := h
  dsimp only at h
  split_ifs at h
  simp only [Option.pure_def, Option.some.injEq, Prod.mk.injEq] at h
  obtain ⟨-, rfl⟩ := h
  unfold mockIpmiResponse at hresponse
  split_ifs at hresponse
  simp only [Option.some.injEq, Prod.mk.injEq] at hresponse
  obtain ⟨-, rfl⟩ := hresponse
  exact ⟨rfl⟩

/-- Whatever commands a program sends to the mock BMC, from its start on, they leave it idle. -/
theorem idle_of_exec {α : Type} {p : SubmitProg α} {a : α}
    {tr : List (Event SubmitCall SubmitCall.Answer)} {bmc : Bmc}
    (hrun : p.exec mockBaseLib (some initialBmc) = some (a, tr, some bmc)) : bmc.Idle := by
  have hkept : ∀ call s, (∀ bmc, s = some bmc → bmc.Idle) →
      ∀ bmc, (mockBaseLib call s).2 = some bmc → bmc.Idle := by
    intro call s hs bmc' h
    cases s with
    | none => cases h
    | some bmc =>
      unfold mockBaseLib Handler.halting at h
      dsimp only at h
      split at h
      · rename_i reply bmc'' hanswer
        cases h
        exact idle_of_mockSubmitCommand hanswer
      · cases h
  refine invariant_of_exec hkept hrun ?_ bmc rfl
  rintro _ ⟨⟩
  exact idle_initialBmc

/-- The response memory that a handler finds. -/
def unanswered : Memory UInt8 := fun i => if i = 0 then compCodeInvalidCommand else 0

theorem Bmc.Idle.unanswered_eq {bmc : Bmc} (h : bmc.Idle) (netFunction command : UInt8) :
    (fun i => (bmc.prepare netFunction command).response (2 + i)) = unanswered := by
  funext i
  change bmc.response.store 0 [_, _, _] (2 + i) = unanswered i
  rw [unanswered]
  by_cases hi : i = 0
  · subst hi
    rw [if_pos rfl]
    rfl
  · rw [if_neg hi, Memory.store_of_le (show 0 + 3 ≤ 2 + i by omega), h.response_eq]

/-- The network function of a header. -/
theorem shiftRight_shiftLeft {netFunction : UInt8} (h : netFunction.toNat < 64) :
    netFunction <<< 2 >>> 2 = netFunction := by
  apply UInt8.toNat_inj.1
  rw [UInt8.toNat_shiftRight, UInt8.toNat_shiftLeft, Nat.shiftRight_eq_div_pow, Nat.shiftLeft_eq]
  change netFunction.toNat * 4 % 256 / 4 = netFunction.toNat
  omega

theorem shiftLeft_and (netFunction : UInt8) : netFunction <<< 2 &&& 3 = 0 := by
  apply UInt8.toNat_inj.1
  rw [UInt8.toNat_and, UInt8.toNat_shiftLeft, Nat.shiftLeft_eq]
  change netFunction.toNat * 4 % 256 &&& (2 ^ 2 - 1) = 0
  rw [Nat.and_two_pow_sub_one_eq_mod]
  omega

/-- The answer to a command is that of its handler. -/
theorem mockSubmitCommand_of_handler {bmc : Bmc} {call : SubmitCall} {handler : MockHandler}
    {response : List UInt8} {state : BmcState} (hidle : bmc.Idle)
    (hnetFunction : call.netFunction.toNat < 64)
    (hhandler : handlerOf call.netFunction call.command = some handler)
    (hrun : handler call.commandData unanswered bmc.state = some (response, state))
    (hdata : call.commandData.length ≤ 253) (hne : response ≠ []) (hlen : response.length ≤ 250)
    (hfits : response.length ≤ call.responseDataSize.toNat) : ∃ bmc' : Bmc,
      mockSubmitCommand call bmc =
          some (⟨.success, response, UInt32.ofNat response.length⟩, bmc') ∧
        bmc'.Idle ∧ bmc'.state = state := by
  have hpos := List.length_pos_iff.2 hne
  have hsize : (UInt8.ofNat (2 + response.length)).toNat = 2 + response.length :=
    UInt8.toNat_ofNat_of_lt' (show 2 + response.length < 256 by omega)
  have hzero : UInt8.ofNat (2 + response.length) ≠ 0 := by
    rw [Ne, ← UInt8.toNat_inj, hsize]
    exact Nat.ne_of_gt (Nat.zero_lt_of_lt (Nat.lt_add_right _ Nat.one_lt_two))
  have hle : UInt8.ofNat (2 + response.length) ≤ 252 :=
    UInt8.le_iff_toNat_le.2 (show _ ≤ 252 by omega)
  have hlt : 255 > UInt8.ofNat (2 + response.length) :=
    UInt8.lt_iff_toNat_lt.2 (show _ < 255 by omega)
  have hcommand : mockIpmiCommand
      (call.netFunction <<< 2 :: call.command :: call.commandData) bmc =
        some ({ bmc.prepare call.netFunction call.command with state }.respond response) := by
    rw [mockIpmiCommand]
    dsimp only
    rw [shiftRight_shiftLeft hnetFunction, if_neg (not_not.2 (shiftLeft_and _)), hhandler]
    dsimp only
    rw [hidle.unanswered_eq]
    have hstate : (bmc.prepare call.netFunction call.command).state = bmc.state := rfl
    rw [hstate, hrun]
    dsimp only
    rw [if_neg hne]
  have hresponse : mockIpmiResponse 255
      ({ bmc.prepare call.netFunction call.command with state }.respond response) =
        some ((bmc.prepare call.netFunction call.command).response.slice 0 2 ++ response,
          ⟨state, false, fun _ => 0, UInt8.ofNat (2 + response.length)⟩) := by
    rw [mockIpmiResponse, if_pos ⟨rfl, hzero, hle, hlt⟩, ← Memory.slice_store_append]
    change some (Memory.slice _ 0 (UInt8.ofNat (2 + response.length)).toNat, _) = _
    rw [hsize]
    rfl
  refine ⟨⟨state, false, fun _ => 0, UInt8.ofNat (2 + response.length)⟩, ?_, ⟨rfl⟩, rfl⟩
  have hslice := Memory.length_slice (m := (bmc.prepare call.netFunction call.command).response) 0 2
  rw [mockSubmitCommand, if_neg (Nat.not_lt.2 hdata), hcommand]
  simp only [Option.bind_eq_bind, Option.bind_some, hresponse, List.length_append, hslice,
    Nat.add_sub_cancel_left, hfits, if_true, List.drop_append, Nat.sub_self, List.drop_zero]
  rw [List.drop_of_length_le (Nat.le_of_eq hslice)]
  rfl

/-- The mock BMC is idle and in the given state. -/
def Rests (s : Option Bmc) (state : BmcState) : Prop :=
  ∃ bmc, s = some bmc ∧ bmc.Idle ∧ bmc.state = state

/-- A command over the base library of the mock BMC. -/
theorem Rests.of_handler {s : Option Bmc} {call : SubmitCall} {handler : MockHandler}
    {response : List UInt8} {state state' : BmcState} (h : Rests s state)
    (hnetFunction : call.netFunction.toNat < 64)
    (hhandler : handlerOf call.netFunction call.command = some handler)
    (hrun : handler call.commandData unanswered state = some (response, state'))
    (hdata : call.commandData.length ≤ 253) (hne : response ≠ []) (hlen : response.length ≤ 250)
    (hfits : response.length ≤ call.responseDataSize.toNat) : ∃ s',
      mockBaseLib call s = (⟨.success, response, UInt32.ofNat response.length⟩, s') ∧
        Rests s' state' := by
  obtain ⟨bmc, rfl, hidle, rfl⟩ := h
  obtain ⟨bmc', hanswer, hidle', hstate⟩ :=
    mockSubmitCommand_of_handler hidle hnetFunction hhandler hrun hdata hne hlen hfits
  exact ⟨some bmc', Handler.halting_of_some hanswer, bmc', rfl, hidle', hstate⟩

end Mock

end IpmiFeature
