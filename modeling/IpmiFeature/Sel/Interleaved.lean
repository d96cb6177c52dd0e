import IpmiFeature.Interaction.Weave
import IpmiFeature.Sel.Clear
import IpmiFeature.Sel.History
import Mathlib.Data.List.ReduceOption

/-!
# Clearing the log while others add to it

`SelClear` waits for the erasure with a second command, and other clients may add entries before,
between and after the two.  The mock SEL erases the log with either command, so it loses what has
been added between them, and gives its record IDs again (`selClear_retains_iff`).
-/

namespace IpmiFeature

open Interaction Prog BaseLib Mock

namespace Sel

/-! ### The other clients -/

/-- The call adds an entry. -/
def Operation.Adds : Operation → Prop
  | addSystemEntry .. | addOemEntryEx .. | addOemEntryNoTimestamp .. => True
  | setTime _ | getTime | clear _ => False

/-- A call that adds an entry, with what its stack holds. -/
structure AddCall where
  stack : Memory UInt8
  operation : Operation
  adds : operation.Adds

namespace AddCall

/-- The entry that has been accepted, with the record ID that has been returned for it. -/
def accepted (call : AddCall) : Outcome → Option (UInt16 × Entry)
  | .added (.ok recordId) => call.operation.entry.map fun entry => (recordId, entry)
  | _ => none

/-- The call. -/
def run (call : AddCall) : SubmitProg (Option (UInt16 × Entry)) :=
  call.accepted <$> call.operation.run call.stack 0

/-- There is an entry for the record that is asked for. -/
def Valid (call : AddCall) : Prop := ∃ entry, call.operation.entry = some entry ∧ entry.Valid

end AddCall

/-- Calls one after the other, and the entries that have been accepted. -/
def addAll (calls : List AddCall) : SubmitProg (List (UInt16 × Entry)) :=
  List.reduceOption <$> calls.mapM AddCall.run

/-- A call without a valid entry is refused. -/
theorem AddCall.run_of_not_valid {call : AddCall} (h : ¬ call.Valid) :
    call.run = pure none := by
  obtain ⟨stack, operation, hadds⟩ := call
  have hrefused : operation.run stack 0 = pure (.added (.error .invalidParameter)) := by
    cases hentry : operation.entry with
    | some entry => exact Sel.run_of_not_valid hentry fun hvalid => h ⟨entry, hentry, hvalid⟩
    | none =>
      cases operation with
      | addOemEntryEx recordType manufacturerId data =>
        cases manufacturerId with
        | none => rfl
        | some manufacturerId =>
          cases data with
          | none => rfl
          | some data => cases hentry
      | addSystemEntry => cases hentry
      | addOemEntryNoTimestamp => cases hentry
      | setTime => exact hadds.elim
      | getTime => exact hadds.elim
      | clear => exact hadds.elim
  change AddCall.accepted _ <$> operation.run stack 0 = pure none
  rw [hrefused]
  rfl

variable {s : Option Bmc} {log : List (UInt16 × Entry)} {state : BmcState}

/-- One call, while the log is known. -/
theorem AddCall.ends_run (call : AddCall) (h : Holds s log) :
    call.run.Ends mockBaseLib s fun added s' => Holds s' (log ++ added.toList) ∧
      (log = [] → (added = none ↔ ¬ call.Valid)) := by
  by_cases hvalid : call.Valid
  · obtain ⟨entry, hentry, hentryValid⟩ := id hvalid
    rw [run, ends_map]
    refine (ends_run_of_valid h hentry hentryValid).mono fun outcome s' hx => ?_
    by_cases hroom : log.length < selCount
    · rw [if_pos hroom] at hx
      obtain ⟨recordId, rfl, hholds⟩ := hx
      have haccepted : call.accepted (.added (.ok recordId)) = some (recordId, entry) := by
        rw [accepted, hentry]
        rfl
      rw [haccepted]
      exact ⟨hholds, fun _ => iff_of_false (Option.some_ne_none _) (not_not.2 hvalid)⟩
    · rw [if_neg hroom] at hx
      obtain ⟨rfl, hholds, -⟩ := hx
      refine ⟨?_, fun hnil => absurd (hnil ▸ show 0 < selCount by decide) hroom⟩
      change Holds s' (log ++ [])
      rwa [List.append_nil]
  · rw [run_of_not_valid hvalid]
    refine ⟨?_, fun _ => iff_of_true rfl hvalid⟩
    change Holds s (log ++ [])
    rwa [List.append_nil]

/-- Calls one after the other: from an empty log on, the first valid entry is accepted. -/
theorem ends_addAll (calls : List AddCall) (h : Holds s log) :
    (addAll calls).Ends mockBaseLib s fun added s' => Holds s' (log ++ added) ∧
      (log = [] → (added = [] ↔ ∀ call ∈ calls, ¬ call.Valid)) := by
  rw [addAll, ends_map]
  induction calls generalizing s log with
  | nil =>
    refine ⟨?_, fun _ => iff_of_true rfl (List.forall_mem_nil _)⟩
    change Holds s (log ++ [])
    rwa [List.append_nil]
  | cons call calls ih =>
    rw [ends_mapM_cons]
    refine (call.ends_run h).mono fun added s' hadded => ?_
    obtain ⟨hholds, hfirst⟩ := hadded
    refine (ih hholds).mono fun rest s'' hrest => ?_
    cases added with
    | none =>
      rw [Option.toList_none, List.append_nil] at hrest
      rw [List.reduceOption_cons_of_none, List.forall_mem_cons]
      refine ⟨hrest.1, fun hnil => ?_⟩
      rw [hrest.2 hnil, and_iff_right ((hfirst hnil).1 rfl)]
    | some b =>
      rw [List.reduceOption_cons_of_some, List.forall_mem_cons]
      refine ⟨?_, fun hnil => iff_of_false (List.cons_ne_nil _ _) fun hnone => ?_⟩
      · have happend := hrest.1
        rwa [Option.toList_some, List.append_assoc] at happend
      · exact Option.some_ne_none b ((hfirst hnil).2 hnone.1)

/-- Before the erasure the log may be any. -/
theorem rests_addAll (calls : List AddCall) (h : Rests s state) :
    (addAll calls).Ends mockBaseLib s fun _ s' => ∃ state', Rests s' state' := by
  rw [addAll, ends_map]
  refine ends_mapM_of_invariant (fun call s hs => ?_) calls ⟨state, h⟩
  obtain ⟨_, bmc, rfl, hidle, rfl⟩ := hs
  by_cases hvalid : call.Valid
  · obtain ⟨entry, hentry, hentryValid⟩ := hvalid
    rw [AddCall.run, ends_map, run_of_valid hentry hentryValid, ends_map]
    refine (ends_ipmiAddSelEntry_of_idle call.stack hidle entry).mono ?_
    rintro _ _ ⟨bmc', rfl, hidle', -⟩
    exact ⟨bmc'.state, bmc', rfl, hidle', rfl⟩
  · rw [AddCall.run_of_not_valid hvalid]
    exact ⟨bmc.state, bmc, rfl, hidle, rfl⟩

/-! ### The erasure -/

/-- A command of `SelClear`, and what comes after its reply. -/
theorem loop_clearSelOnce (stack : Memory UInt8) (awaitClear : Bool) (fuel : ℕ) (erase : UInt8) :
    loop (clearSelOnce stack awaitClear) (fuel + 1) erase = call (clearCall erase) fun reply =>
      if Waits awaitClear reply then
        loop (clearSelOnce stack awaitClear) fuel clearSelGetEraseStatus
      else ret (clearStatus reply) := by
  rw [loop, clearSelOnce_eq]
  refine congrArg (call (clearCall erase)) (funext fun reply => ?_)
  change (ret (if Waits awaitClear reply then Iter.again clearSelGetEraseStatus
    else .done (clearStatus reply)) >>= _) = _
  split_ifs <;> rfl

/-- Either command erases the log. -/
theorem rests_clear (h : Rests s state) {erase progress : UInt8}
    (hanswer : mockIpmiSelClear (clearCall erase).commandData unanswered state =
      some ([compCodeNormal, progress], { state with sel := state.sel.clear })) : ∃ s',
        mockBaseLib (clearCall erase) s = (⟨.success, [compCodeNormal, progress], 2⟩, s') ∧
          Rests s' { state with sel := state.sel.clear } :=
  h.of_handler (show netfnStorage.toNat < 64 by decide) rfl hanswer (show 6 ≤ 253 by decide)
    (List.cons_ne_nil _ _) (show 2 ≤ 250 by decide) (Nat.le_refl 2)

theorem holds_clear (h : Rests s { state with sel := state.sel.clear }) : Holds s [] := by
  obtain ⟨bmc, rfl, hidle, hstate⟩ := h
  exact ⟨bmc, rfl, hidle, hstate ▸ Logs.clear state.sel⟩

theorem Holds.rests (h : Holds s log) : ∃ state, Rests s state := by
  obtain ⟨bmc, rfl, hidle, -⟩ := h
  exact ⟨bmc.state, bmc, rfl, hidle, rfl⟩

/-! ### What is retained -/

/-- The entries are in the log, under different record IDs. -/
structure Retains (added : List (UInt16 × Entry)) (s : Option Bmc) : Prop where
  nodup : (added.map Prod.fst).Nodup
  getEntry : ∀ b ∈ added, ∀ stack record, (selGetEntry stack b.1 record).Ends mockBaseLib s
    fun x _ => ∃ record' next, x = .ok (record', next) ∧ Shows b record'

/-- The first record ID is 0. -/
theorem Holds.first {b : UInt16 × Entry} (h : Holds s (b :: log)) : b.1 = 0 := by
  obtain ⟨bmc, -, -, hlogs⟩ := h
  exact UInt16.toNat_inj.1 (hlogs.recordId_of_split (List.nil_append (b :: log)).symm)

theorem Holds.retains (h : Holds s log) : Retains log s where
  nodup := by
    obtain ⟨bmc, -, -, hlogs⟩ := h
    exact hlogs.nodup
  getEntry b hb stack record := by
    have hread : ReadsBack stack 0 s log := h.readsBack
    exact hread.getEntry b hb record

/-- What has been added to a log that has been erased since is lost. -/
theorem not_retains {s' : Option Bmc} {lost : List (UInt16 × Entry)} (hlost : Holds s' lost)
    (hne : lost ≠ []) (h : Holds s log) : ¬ Retains (lost ++ log) s := by
  intro hretains
  obtain ⟨b, rest, rfl⟩ := List.exists_cons_of_ne_nil hne
  cases log with
  | nil =>
    have hget := hretains.getEntry b (List.mem_append_left _ List.mem_cons_self) (fun _ => 0)
      fun _ => 0
    obtain ⟨x, tr, s'', hrun, _, _, hok, -⟩ := ends_iff_exec.1 hget
    have hempty := (ends_selGetEntry_nil (fun _ => 0) h b.1 fun _ => 0).of_exec hrun
    rw [hok] at hempty
    cases hempty.2
  | cons b' log =>
    -- the same record ID has been given twice
    have hnodup := hretains.nodup
    rw [List.map_append, List.nodup_append'] at hnodup
    refine hnodup.2.2 (List.mem_map_of_mem List.mem_cons_self) ?_
    rw [hlost.first, ← h.first]
    exact List.mem_map_of_mem List.mem_cons_self

/-- What a clearing with others in between leaves: the calls before its first command, between the
two, and after the second one. -/
structure Cleared (between : List AddCall) (x : EfiStatus × List (List (UInt16 × Entry)))
    (s : Option Bmc) : Prop where
  success : x.1 = .success
  added : ∃ before lost log, x.2 = [before, lost, log] ∧ (∃ s', Holds s' lost) ∧ Holds s log ∧
    (lost = [] ↔ ∀ call ∈ between, ¬ call.Valid)

theorem ends_weave_selClear (stack : Memory UInt8) (fuel : ℕ) (others : ℕ → List AddCall)
    (h : Rests s state) :
    (weave (fun i => addAll (others i)) (selClear stack (fuel + 2) true) 0).Ends mockBaseLib s
      (Cleared (others 1)) := by
  rw [selClear, loop_clearSelOnce, ends_weave_call]
  refine (rests_addAll (others 0) h).mono ?_
  rintro before s₀ ⟨state₀, h₀⟩
  -- the first command erases the log and keeps the caller waiting
  have hinit : mockIpmiSelClear (clearCall clearSelInitializeErase).commandData unanswered state₀ =
      some ([compCodeNormal, clearSelErasureInProgress],
        { state₀ with sel := state₀.sel.clear }) := rfl
  obtain ⟨s₁, hcall, h₁⟩ := rests_clear h₀ hinit
  rw [hcall]
  dsimp only
  rw [if_pos (by decide), loop_clearSelOnce, ends_weave_call]
  refine (ends_addAll (others 1) (holds_clear h₁)).mono ?_
  rintro lost s₂ ⟨hlost, hnone⟩
  obtain ⟨state₂, h₂⟩ := hlost.rests
  -- the second one erases it again, and is the last
  have hstatus : mockIpmiSelClear (clearCall clearSelGetEraseStatus).commandData unanswered state₂ =
      some ([compCodeNormal, clearSelErasureCompleted],
        { state₂ with sel := state₂.sel.clear }) := rfl
  obtain ⟨s₃, hcall, h₃⟩ := rests_clear h₂ hstatus
  rw [hcall]
  dsimp only
  rw [if_neg (by decide), ends_weave_ret]
  refine (ends_addAll (others 2) (holds_clear h₃)).mono ?_
  rintro log s₄ ⟨hlog, -⟩
  exact ⟨rfl, before, lost, log, rfl, ⟨s₂, hlost⟩, hlog, hnone rfl⟩

/-- **When a clearing loses no entry.**  Whatever others add while `SelClear` waits, the entries
that have been accepted after its first command are in the log when it returns, and under different
record IDs, if and only if no valid entry is added between its two commands. -/
theorem selClear_retains_iff (stack : Memory UInt8) (fuel : ℕ) (others : ℕ → List AddCall)
    {bmc : Bmc} (hidle : bmc.Idle) :
    ((weave (fun i => addAll (others i)) (selClear stack (fuel + 2) true) 0).Ends mockBaseLib
      (some bmc) fun x s => Retains x.2.tail.flatten s) ↔ ∀ call ∈ others 1, ¬ call.Valid := by
  refine (ends_weave_selClear stack fuel others ⟨bmc, rfl, hidle, rfl⟩).iff ?_
  rintro ⟨_, _⟩ s ⟨-, before, lost, log, rfl, ⟨s', hlost⟩, hlog, hnone⟩
  have hadded : [before, lost, log].tail.flatten = lost ++ log := by simp
  rw [← hnone, hadded]
  constructor
  · intro hretains
    by_contra hne
    exact not_retains hlost hne hlog hretains
  · rintro rfl
    exact hlog.retains

/-- An entry that is added after the second command is in the log. -/
theorem selClear_retains_after :
    (weave (fun i => addAll
        (if i = 2 then [⟨fun _ => 0, .addSystemEntry 1 2 3 4 5 6, trivial⟩] else []))
      (selClear (fun _ => 0) 2 true) 0).Ends mockBaseLib (some initialBmc)
        fun x s => Retains x.2.tail.flatten s :=
  (selClear_retains_iff (fun _ => 0) 0 _ idle_initialBmc).2 (List.forall_mem_nil _)

/-- One that is added between the two commands is lost. -/
theorem selClear_not_retains :
    ¬ (weave (fun i => addAll
        (if i = 1 then [⟨fun _ => 0, .addSystemEntry 1 2 3 4 5 6, trivial⟩] else []))
      (selClear (fun _ => 0) 2 true) 0).Ends mockBaseLib (some initialBmc)
        fun x s => Retains x.2.tail.flatten s := by
  intro h
  have hget := h.getEntry (0, .system 1 2 3 4 5 6) List.mem_cons_self (fun _ => 0) fun _ => 0
  obtain ⟨_, _, hok, -⟩ := hget
  cases hok

end Sel

end IpmiFeature
