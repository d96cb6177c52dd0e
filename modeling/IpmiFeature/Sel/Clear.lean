import IpmiFeature.Interaction.Logic
import IpmiFeature.Interaction.Traces
import IpmiFeature.Sel.Basic

/-!
# Clearing the log

`SelClear` against any BMC.  A reply either keeps it waiting or is the last one, and its status is
the status returned.

* `selClear_protocol` : the commands it sends, and when it reports success.
* `selClear_returns` : it returns with the first reply that does not keep it waiting, and if there
  is none it does not return.
-/

namespace IpmiFeature

open Interaction Prog BaseLib Mock

namespace Sel

/-! ### One command -/

/-- The command "Clear SEL". -/
def clearCall (erase : UInt8) : SubmitCall where
  netFunction := netfnStorage
  command := storageClearSel
  commandData := [0, 0, 0x43, 0x4C, 0x52, erase]
  responseDataSize := 2

/-- What `SelClear` makes of a reply.  The response is set to zero before each command, so a
completion code that is not sent is normal. -/
def clearStatus (reply : SubmitReply) : EfiStatus :=
  if reply.status.isError then reply.status
  else ipmiCompCodeToEfiStatus (reply.data.getD 0 compCodeNormal)

/-- The reply keeps `SelClear` waiting. -/
def Waits (awaitClear : Bool) (reply : SubmitReply) : Prop :=
  clearStatus reply = .success ∧ awaitClear ∧ reply.data.getD 1 0 ≠ clearSelErasureCompleted

instance (awaitClear : Bool) (reply : SubmitReply) : Decidable (Waits awaitClear reply) :=
  inferInstanceAs (Decidable (_ ∧ _))

theorem ipmiCompCodeToEfiStatus_eq_success {compCode : UInt8} :
    ipmiCompCodeToEfiStatus compCode = .success ↔ compCode = compCodeNormal := by
  by_cases hnormal : compCode = compCodeNormal
  · exact iff_of_true (if_pos hnormal) hnormal
  · have hite : ∀ {p : Prop} [Decidable p] {a b : EfiStatus}, a ≠ .success → b ≠ .success →
        (if p then a else b) ≠ .success := by
      intro p _ a b ha hb
      split_ifs
      · exact ha
      · exact hb
    refine iff_of_false ?_ hnormal
    rw [ipmiCompCodeToEfiStatus, if_neg hnormal]
    -- all other codes are errors
    repeat' refine hite (by decide) ?_
    decide

/-- An iteration either goes on or returns the status of the reply. -/
theorem clearSelOnce_result {result : SubmitResult} {reply : SubmitReply} (awaitClear : Bool)
    (hstatus : statusOf result = clearStatus reply)
    (hprogress : result.buffer 1 = reply.data.getD 1 0) :
    (if (statusOf result).isError then pure (.done (statusOf result))
      else if ¬ awaitClear ∨ result.buffer 1 = clearSelErasureCompleted then
        pure (.done (statusOf result))
      else pure (.again clearSelGetEraseStatus) : SubmitProg (Iter UInt8 EfiStatus)) =
      pure (if Waits awaitClear reply then .again clearSelGetEraseStatus
        else .done (clearStatus reply)) := by
  rw [hstatus, hprogress]
  by_cases hok : clearStatus reply = .success
  · rw [if_neg fun herror => EfiStatus.isError_iff.1 herror hok]
    by_cases hdone : ¬ awaitClear ∨ reply.data.getD 1 0 = clearSelErasureCompleted
    · have hlast : ¬ Waits awaitClear reply := fun h => hdone.elim (fun hnot => hnot h.2.1) h.2.2
      rw [if_pos hdone, if_neg hlast]
    · obtain ⟨hawait, hprogress⟩ := not_or.1 hdone
      have hwaits : Waits awaitClear reply := ⟨hok, not_not.1 hawait, hprogress⟩
      rw [if_neg hdone, if_pos hwaits]
  · have hlast : ¬ Waits awaitClear reply := fun h => hok h.1
    rw [if_pos (EfiStatus.isError_iff.2 hok), if_neg hlast]

/-- One iteration, as a command and what is made of the reply. -/
theorem clearSelOnce_eq (stack : Memory UInt8) (awaitClear : Bool) (erase : UInt8) :
    clearSelOnce stack awaitClear erase = perform (clearCall erase) >>= fun reply =>
      pure (if Waits awaitClear reply then .again clearSelGetEraseStatus
        else .done (clearStatus reply)) := by
  refine congrArg (call (clearCall erase)) (funext fun reply => ?_)
  have hread : ∀ i < 2, (Memory.store stack 0 [0, 0]).store 0 reply.data i = reply.data.getD i 0 :=
    fun i hi => Memory.store_store_replicate reply.data hi
  have hstatus :
      statusOf (BufferedCall.result ⟨clearCall erase, Memory.store stack 0 [0, 0]⟩ reply) =
        clearStatus reply := congrArg (fun compCode =>
    if reply.status.isError then reply.status else ipmiCompCodeToEfiStatus compCode)
    (hread 0 (by decide))
  exact clearSelOnce_result awaitClear hstatus (hread 1 (by decide))

/-! ### The commands of a run -/

/-- `Request.Erase` of the `i`-th command. -/
def eraseAt (i : ℕ) : UInt8 := if i = 0 then clearSelInitializeErase else clearSelGetEraseStatus

/-- The commands and replies of a run, with its status if it has returned. -/
structure ClearRun (awaitClear : Bool) (fuel : ℕ) (tr : List (Event SubmitCall SubmitCall.Answer))
    (x : Option EfiStatus) : Prop where
  /-- The erasure is initialized by the first command only. -/
  requests : ∀ i event, tr[i]? = some event → event.1 = clearCall (eraseAt i)
  /-- A run that has not returned is still waiting. -/
  waiting : x = none → tr.length = fuel ∧ ∀ event ∈ tr, Waits awaitClear event.2
  /-- One that has returned has waited until the last reply. -/
  returned : ∀ status, x = some status → ∃ before event, tr = before ++ [event] ∧
    (∀ event ∈ before, Waits awaitClear event.2) ∧ ¬ Waits awaitClear event.2 ∧
      status = clearStatus event.2

/-- The invariant of the loop: as many commands have been sent as there is fuel gone, all of them
have kept it waiting, and the next one is in `erase`. -/
structure Waiting (awaitClear : Bool) (fuel n : ℕ) (tr : List (Event SubmitCall SubmitCall.Answer))
    (erase : UInt8) : Prop where
  length_eq : tr.length + n = fuel
  erase_eq : erase = eraseAt tr.length
  requests : ∀ i event, tr[i]? = some event → event.1 = clearCall (eraseAt i)
  waits : ∀ event ∈ tr, Waits awaitClear event.2

variable {awaitClear : Bool} {fuel n : ℕ} {tr : List (Event SubmitCall SubmitCall.Answer)}
  {erase : UInt8} {stack : Memory UInt8}

/-- The next command is one more. -/
theorem Waiting.requests_concat (h : Waiting awaitClear fuel n tr erase) (reply : SubmitReply)
    (i : ℕ) (event : Event SubmitCall SubmitCall.Answer)
    (hevent : (tr ++ [⟨clearCall erase, reply⟩])[i]? = some event) :
    event.1 = clearCall (eraseAt i) := by
  by_cases hi : i < tr.length
  · rw [List.getElem?_append_left hi] at hevent
    exact h.requests i event hevent
  · rw [List.getElem?_append_right (Nat.not_lt.1 hi)] at hevent
    have hlast : i - tr.length = 0 := by
      by_contra hne
      rw [List.getElem?_eq_none (Nat.one_le_iff_ne_zero.2 hne)] at hevent
      cases hevent
    rw [hlast] at hevent
    cases hevent
    rw [h.erase_eq, show i = tr.length by omega]

theorem Waiting.again (h : Waiting awaitClear fuel (n + 1) tr erase) {reply : SubmitReply}
    (hwaits : Waits awaitClear reply) :
    Waiting awaitClear fuel n (tr ++ [⟨clearCall erase, reply⟩]) clearSelGetEraseStatus where
  length_eq := by
    have hlength := h.length_eq
    rw [List.length_append, List.length_singleton]
    omega
  erase_eq := by
    rw [List.length_append, List.length_singleton, eraseAt, if_neg (Nat.succ_ne_zero _)]
  requests := h.requests_concat reply
  waits := List.forall_mem_append.2 ⟨h.waits, List.forall_mem_singleton.2 hwaits⟩

theorem Waiting.done (h : Waiting awaitClear fuel n tr erase) {reply : SubmitReply}
    (hlast : ¬ Waits awaitClear reply) :
    ClearRun awaitClear fuel (tr ++ [⟨clearCall erase, reply⟩]) (some (clearStatus reply)) where
  requests := h.requests_concat reply
  waiting hnone := by cases hnone
  returned status hstatus := by
    cases hstatus
    exact ⟨tr, ⟨clearCall erase, reply⟩, rfl, h.waits, hlast, rfl⟩

/-- Every run of `SelClear`, whatever the commands are answered. -/
theorem traces_selClear (stack : Memory UInt8) (fuel : ℕ) (awaitClear : Bool) :
    (selClear stack fuel awaitClear).Traces (ClearRun awaitClear fuel) := by
  refine traces_loop (I := Waiting awaitClear fuel) (fun n tr erase h => ?_) (fun tr erase h => ?_)
    fuel [] _ ⟨Nat.zero_add fuel, rfl, ?_, List.forall_mem_nil _⟩
  · rw [clearSelOnce_eq, traces_perform_bind]
    intro reply
    by_cases hwaits : Waits awaitClear reply
    · rw [if_pos hwaits]
      exact h.again hwaits
    · rw [if_neg hwaits]
      exact h.done hwaits
  · exact ⟨h.requests, fun _ => ⟨h.length_eq, h.waits⟩, fun _ hnone => by cases hnone⟩
  · intro i event hevent
    cases hevent

/-! ### The protocol -/

/-- A successful reply carries at least its completion code. -/
def CarriesCode (reply : SubmitReply) : Prop := reply.status = .success → reply.data ≠ []

/-- What the commands of `SelClear` keep to, in a run with its status if it has returned. -/
structure ClearProtocol (awaitClear : Bool) (fuel : ℕ)
    (tr : List (Event SubmitCall SubmitCall.Answer)) (x : Option EfiStatus) : Prop where
  /-- The erasure is initialized once and first, then only its status is asked for. -/
  commands : 0 < fuel → ∃ polls, tr.map Sigma.fst =
    clearCall clearSelInitializeErase :: List.replicate polls (clearCall clearSelGetEraseStatus)
  /-- A run that has not returned goes on asking, as all replies keep it waiting. -/
  waiting : x = none → tr.length = fuel ∧ ∀ event ∈ tr, Waits awaitClear event.2
  /-- An error ends the run and is returned. -/
  stops : ∀ before event after, tr = before ++ event :: after → clearStatus event.2 ≠ .success →
    after = [] ∧ x = some (clearStatus event.2)
  /-- What is returned is the status of the last reply. -/
  returns : ∀ status, x = some status →
    ∃ event, tr.getLast? = some event ∧ status = clearStatus event.2
  /-- Success says that all completion codes were normal. -/
  normal : x = some .success →
    ∀ event ∈ tr, event.2.status = .success ∧ event.2.data.head? = some compCodeNormal
  /-- It is reported right after the erasure has been. -/
  completed : x = some .success → awaitClear →
    ∃ event, tr.getLast? = some event ∧ event.2.data[1]? = some clearSelErasureCompleted
  /-- Without waiting there is one command. -/
  once : x = some .success → ¬ awaitClear → tr.length = 1

theorem code_of_clearStatus {reply : SubmitReply} (hcode : CarriesCode reply)
    (h : clearStatus reply = .success) :
    reply.status = .success ∧ reply.data.head? = some compCodeNormal := by
  by_cases hstatus : reply.status = .success
  · have hne := hcode hstatus
    rw [clearStatus, if_neg (by rw [hstatus]; decide), ipmiCompCodeToEfiStatus_eq_success] at h
    obtain ⟨code, rest, hdata⟩ := List.exists_cons_of_ne_nil hne
    rw [hdata] at h ⊢
    exact ⟨hstatus, congrArg some h⟩
  · rw [clearStatus, if_pos (EfiStatus.isError_iff.2 hstatus)] at h
    exact absurd h hstatus

/-- All replies of a successful run are successful. -/
theorem ClearRun.clearStatus_eq (h : ClearRun awaitClear fuel tr (some .success)) :
    ∀ event ∈ tr, clearStatus event.2 = .success := by
  obtain ⟨before, last, rfl, hbefore, -, hstatus⟩ := h.returned _ rfl
  exact List.forall_mem_append.2 ⟨fun event hevent => (hbefore event hevent).1,
    List.forall_mem_singleton.2 hstatus.symm⟩

/-- With fuel at least one command is sent. -/
theorem ClearRun.ne_nil {x : Option EfiStatus} (h : ClearRun awaitClear fuel tr x)
    (hfuel : 0 < fuel) : tr ≠ [] := by
  rintro rfl
  cases x with
  | none => exact absurd (h.waiting rfl).1 (Nat.ne_of_lt hfuel)
  | some status =>
    obtain ⟨before, event, heq, -⟩ := h.returned status rfl
    exact List.append_ne_nil_of_right_ne_nil before (List.cons_ne_nil event []) heq.symm

/-- The commands of a run that has sent any. -/
theorem map_fst_eq_of_requests {event : Event SubmitCall SubmitCall.Answer}
    (h : ∀ i event', (event :: tr)[i]? = some event' → event'.1 = clearCall (eraseAt i)) :
    (event :: tr).map Sigma.fst = clearCall clearSelInitializeErase ::
      List.replicate tr.length (clearCall clearSelGetEraseStatus) := by
  have hlater : ∀ call ∈ tr.map Sigma.fst, call = clearCall clearSelGetEraseStatus := by
    intro call hcall
    obtain ⟨event', hmem, rfl⟩ := List.mem_map.1 hcall
    obtain ⟨i, hi⟩ := List.getElem?_of_mem hmem
    exact h (i + 1) event' hi
  have hreplicate := List.eq_replicate_of_mem hlater
  rw [List.length_map] at hreplicate
  rw [List.map_cons, hreplicate, h 0 event rfl]
  rfl

theorem ClearRun.protocol {x : Option EfiStatus} (h : ClearRun awaitClear fuel tr x)
    (hcodes : ∀ event ∈ tr, CarriesCode event.2) : ClearProtocol awaitClear fuel tr x where
  commands hfuel := by
    cases tr with
    | nil => exact absurd rfl (h.ne_nil hfuel)
    | cons event tr => exact ⟨tr.length, map_fst_eq_of_requests h.requests⟩
  waiting := h.waiting
  stops := by
    rintro before event after rfl herror
    have hlast : ¬ Waits awaitClear event.2 := fun hwaits => herror hwaits.1
    cases x with
    | none =>
      have hmem : event ∈ before ++ event :: after :=
        List.mem_append_right before List.mem_cons_self
      exact absurd ((h.waiting rfl).2 event hmem) hlast
    | some status =>
      obtain ⟨before', last, heq, hwaits, -, rfl⟩ := h.returned status rfl
      -- the replies before the last one have kept it waiting
      rcases List.eq_nil_or_concat after with rfl | ⟨after', event', rfl⟩
      · obtain ⟨-, heq⟩ := List.append_inj' heq rfl
        rw [List.singleton_inj.1 heq]
        exact ⟨rfl, rfl⟩
      · rw [List.concat_eq_append, ← List.cons_append, ← List.append_assoc] at heq
        obtain ⟨heq, -⟩ := List.append_inj' heq rfl
        have hmem : event ∈ before' := heq ▸ List.mem_append_right before List.mem_cons_self
        exact absurd (hwaits event hmem) hlast
  returns status hstatus := by
    obtain ⟨before, last, rfl, -, -, hlast⟩ := h.returned status hstatus
    exact ⟨last, List.getLast?_concat, hlast⟩
  normal hsuccess event hevent := by
    subst hsuccess
    exact code_of_clearStatus (hcodes event hevent) (h.clearStatus_eq event hevent)
  completed hsuccess hawait := by
    obtain ⟨before, last, rfl, -, hlast, hstatus⟩ := h.returned _ hsuccess
    refine ⟨last, List.getLast?_concat, ?_⟩
    have hprogress : last.2.data.getD 1 0 = clearSelErasureCompleted :=
      not_not.1 fun hne => hlast ⟨hstatus.symm, hawait, hne⟩
    rw [List.getD_eq_getElem?_getD] at hprogress
    cases hread : last.2.data[1]? with
    | none =>
      rw [hread] at hprogress
      exact absurd hprogress (by decide)
    | some progress =>
      rw [hread] at hprogress
      exact congrArg some hprogress
  once hsuccess hawait := by
    obtain ⟨before, last, rfl, hbefore, -, -⟩ := h.returned _ hsuccess
    cases before with
    | nil => rfl
    | cons event before => exact absurd (hbefore event List.mem_cons_self).2.1 hawait

/-- A BMC that gives the replies one after the other.  The state counts the commands. -/
def replying (replies : ℕ → SubmitReply) : Handler SubmitCall SubmitCall.Answer ℕ :=
  fun _ n => (replies n, n + 1)

/-- **The protocol of `SelClear`**, whatever the commands are answered and whether it has returned
or not. -/
theorem selClear_protocol (stack : Memory UInt8) (fuel : ℕ) (awaitClear : Bool) :
    (selClear stack fuel awaitClear).Traces fun tr x =>
      (∀ event ∈ tr, CarriesCode event.2) → ClearProtocol awaitClear fuel tr x :=
  (traces_selClear stack fuel awaitClear).mono fun _ _ h hcodes => h.protocol hcodes

/-- The erasure is in progress, and then it is completed. -/
def completedLater (n : ℕ) : SubmitReply :=
  ⟨.success, [compCodeNormal,
    if n = 0 then clearSelErasureInProgress else clearSelErasureCompleted], 2⟩

theorem selClear_protocol_completedLater :
    ClearProtocol true 3 [⟨clearCall clearSelInitializeErase, completedLater 0⟩,
      ⟨clearCall clearSelGetEraseStatus, completedLater 1⟩] (some .success) := by
  have hrun : (selClear (fun _ => 0) 3 true).exec (replying completedLater) 0 =
      some (.success, [⟨clearCall clearSelInitializeErase, completedLater 0⟩,
        ⟨clearCall clearSelGetEraseStatus, completedLater 1⟩], 2) := rfl
  refine (selClear_protocol (fun _ => 0) 3 true).of_exec hrun ?_
  intro event hevent _
  simp only [List.mem_cons, List.not_mem_nil, or_false] at hevent
  rcases hevent with rfl | rfl
  · exact List.cons_ne_nil _ _
  · exact List.cons_ne_nil _ _

/-! ### Waiting for the BMC -/

variable {replies : ℕ → SubmitReply}

theorem ends_clearSelOnce_replying {Q : Iter UInt8 EfiStatus → ℕ → Prop} :
    (clearSelOnce stack awaitClear erase).Ends (replying replies) n Q ↔
      Q (if Waits awaitClear (replies n) then .again clearSelGetEraseStatus
        else .done (clearStatus (replies n))) (n + 1) := by
  rw [clearSelOnce_eq]
  rfl

/-- `SelClear` returns with the first reply that does not keep it waiting. -/
theorem ends_selClear_of_first (stack : Memory UInt8) {last : ℕ}
    (hwaits : ∀ i < last, Waits awaitClear (replies i)) (hlast : ¬ Waits awaitClear (replies last))
    (hfuel : last < fuel) : (selClear stack fuel awaitClear).Ends (replying replies) 0
      fun status count => status = clearStatus (replies last) ∧ count = last + 1 := by
  refine ends_loop (I := fun _ n => n ≤ last) (fun _ n => last - n) (fun erase n hn => ?_) fuel _ 0
    (Nat.zero_le last) (by omega)
  rw [ends_clearSelOnce_replying]
  rcases Nat.lt_or_eq_of_le hn with hlt | rfl
  · rw [if_pos (hwaits n hlt)]
    refine ⟨hlt, ?_⟩
    omega
  · rw [if_neg hlast]
    exact ⟨rfl, rfl⟩

/-- If all replies keep it waiting, it does not return. -/
theorem not_ends_selClear (stack : Memory UInt8) (hwaits : ∀ n, Waits awaitClear (replies n))
    (fuel : ℕ) (Q : EfiStatus → ℕ → Prop) :
    ¬ (selClear stack fuel awaitClear).Ends (replying replies) 0 Q := by
  intro hends
  obtain ⟨status, tr, count, hrun, -⟩ := ends_iff_exec.1 hends
  obtain ⟨before, last, rfl, -, hlast, -⟩ :=
    ((traces_selClear stack fuel awaitClear).of_exec hrun).returned status rfl
  have hevents := forall_event_of_exec
    (P := fun event => Waits awaitClear event.2) (fun _ n => hwaits n) hrun
  exact hlast (hevents last (List.mem_append_right before List.mem_cons_self))

/-- **When `SelClear` returns.**  If it is to wait, it returns with the first reply that is an error
or tells that the erasure is completed, so after as many commands as there are replies up to this
one; if there is no such reply, it does not return. -/
theorem selClear_returns (stack : Memory UInt8) (replies : ℕ → SubmitReply) :
    (∀ last, (∀ i < last, Waits true (replies i)) → ¬ Waits true (replies last) →
      ∀ fuel, last < fuel → (selClear stack fuel true).Ends (replying replies) 0 fun status count =>
        status = clearStatus (replies last) ∧ count = last + 1) ∧
    ((∀ n, Waits true (replies n)) → ∀ fuel, ¬ (selClear stack fuel true).Ends (replying replies) 0
      fun _ _ => True) :=
  ⟨fun _ hwaits hlast _ hfuel => ends_selClear_of_first stack hwaits hlast hfuel,
    fun hwaits fuel => not_ends_selClear stack hwaits fuel _⟩

/-- A BMC whose erasure never completes keeps `SelClear` waiting for ever. -/
theorem selClear_unbounded : ¬ ∃ bound, ∀ replies : ℕ → SubmitReply, ∃ fuel,
    (selClear (fun _ => 0) fuel true).Ends (replying replies) 0 fun _ count => count ≤ bound := by
  rintro ⟨bound, h⟩
  obtain ⟨fuel, hends⟩ := h fun _ => ⟨.success, [compCodeNormal, clearSelErasureInProgress], 2⟩
  exact not_ends_selClear (fun _ => 0) (fun _ => by decide) fuel _ hends

end Sel

end IpmiFeature
