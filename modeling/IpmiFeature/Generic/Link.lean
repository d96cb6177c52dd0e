import IpmiFeature.Generic.Exchange
import IpmiFeature.Generic.Frame
import IpmiFeature.Interaction.Layers

/-!
# The transport as commands

What a transport library is for, whichever it is.  A BMC is a `Processor`: it answers a request and
goes to its next state.  Over the ideal transport `linkCall` a message that is sent is a request that
is executed, once, and the response waits until it is received, once.

`ipmiSendCommand_period` says that the generic driver passes its own timeout period to all calls of
the transport.
-/

namespace IpmiFeature

open Interaction Prog

namespace Generic

/-! ### The ideal transport -/

/-- What a BMC does with a request: the response, and its state afterwards. -/
abbrev Processor (σ : Type) := List UInt8 → σ → List UInt8 × σ

/-- The BMC, and the response that waits to be received. -/
structure Link (σ : Type) where
  state : σ
  response : Option (List UInt8)

variable {σ : Type} {process : Processor σ}

/-- The ideal transport.  It has no answer to an empty message or to a message while a response waits,
and none to a receive if no response waits or it does not fit. -/
def linkCall (process : Processor σ) :
    (call : TransportCall) → Link σ → Option (call.Answer × Link σ)
  | .sendDataToBmcPort _ data, link =>
    if data.bytes = [] ∨ link.response.isSome then
      none
    else
      let (response, state) := process data.bytes link.state
      some (.success, ⟨state, some response⟩)
  | .receiveBmcDataFromPort _ dataSize, link =>
    match link.response with
    | none => none
    | some response =>
      if h : response.length ≤ dataSize.toNat then
        some (⟨.success, response, h⟩, ⟨link.state, none⟩)
      else
        none

/-- What the generic driver makes of what `ReceiveBmcDataFromPort` leaves behind: the bytes of the
buffer up to `*DataSize`, which is the capacity if nothing has been received. -/
def replyOf (received : Received) (dataSize : UInt8) : Reply dataSize where
  status := received.status
  data := received.data.slice 0 (min received.dataSize.toNat dataSize.toNat)
  length_le := by
    rw [Memory.length_slice]
    exact Nat.min_le_right _ _

/-- The ideal transport as an environment; it fails where it has no answer. -/
def linkTransport (process : Processor σ) :
    Handler TransportCall TransportCall.Answer (Option (Link σ)) :=
  .halting (linkCall process) failedTransport

/-- A request that is executed and answered. -/
theorem exchanged_link {command response : List UInt8} {state state' : σ} (hcommand : command ≠ [])
    (hprocess : process command state = (response, state'))
    (hlen : response.length ≤ receiveSize.toNat) :
    Exchanged (linkTransport process) (some ⟨state, none⟩) (some ⟨state', some response⟩)
      (some ⟨state', none⟩) command ⟨.success, response, hlen⟩ where
  sent period data hdata := by
    refine Handler.halting_of_some ?_
    rw [linkCall, hdata, if_neg (by simpa using hcommand), hprocess]
  received period := by
    refine Handler.halting_of_some ?_
    exact dif_pos hlen

/-! ### The timeout period -/

/-- `IpmiTimeoutPeriod` of a call. -/
@[simp] def TransportCall.period : TransportCall → UInt64
  | sendDataToBmcPort ipmiTimeoutPeriod _ => ipmiTimeoutPeriod
  | receiveBmcDataFromPort ipmiTimeoutPeriod _ => ipmiTimeoutPeriod

/-- All calls of the program are made with the timeout period `period`. -/
def KeepsPeriod {α : Type} (period : UInt64) (p : TransportProg α) : Prop :=
  p.Satisfies True fun tr _ => ∀ event ∈ tr, event.1.period = period

/-! ### Libraries -/

variable {D τ : Type} {S : D → Type}

/-- A transport library, over the registers `h` of a BMC, does what the ideal transport does in the
calls with the timeout period `period`.  `Rel` says which states of the registers stand for which
states of the ideal transport. -/
def Implements (process : Processor σ) (h : Handler D S τ)
    (transport : (call : TransportCall) → Prog D S call.Answer) (period : UInt64)
    (Rel : Link σ → τ → Prop) : Prop :=
  ∀ (call : TransportCall) link t answer link', call.period = period → Rel link t →
    linkCall process call link = some (answer, link') →
      (transport call).Ends h t fun a t' => a = answer ∧ Rel link' t'

/-- A program over such a library. -/
theorem Implements.above {h : Handler D S τ} {transport : (call : TransportCall) → Prog D S call.Answer}
    {period : UInt64} {Rel : Link σ → τ → Prop} (himpl : Implements process h transport period Rel)
    {α : Type} {p : TransportProg α} {link : Link σ} {t : τ} {Q : α → Link σ → Prop}
    (hp : p.Completes (linkCall process) link Q) (hperiod : KeepsPeriod period p)
    (ht : Rel link t) : (p.above transport).Ends h t fun a t' => ∃ link', Q a link' ∧ Rel link' t' :=
  hp.above (fun call link t answer link' hevent ht hcall =>
    himpl call link t answer link' hevent ht hcall) hperiod ht

/-! ### The calls of the driver -/

theorem attempt_period (args : CommandArgs UInt8) (retryCnt : ℕ) (st : CommandState UInt8) :
    KeepsPeriod st.inst.ipmiTimeoutPeriod (attempt args retryCnt st) := by
  have hperiod : (buildCommand args st.inst).ipmiTimeoutPeriod = st.inst.ipmiTimeoutPeriod :=
    (Frame.buildCommand args st.inst).ipmiTimeoutPeriod_eq
  unfold KeepsPeriod attempt
  dsimp only
  rw [satisfies_send_bind]
  intro status
  by_cases hsent : status ≠ .success
  · rw [if_pos hsent]
    simpa using hperiod
  · rw [if_neg hsent, satisfies_receive_bind]
    intro reply
    simpa using hperiod

theorem attempt_frame (args : CommandArgs UInt8) (retryCnt : ℕ) (st : CommandState UInt8) :
    (attempt args retryCnt st).Satisfies True fun _ i =>
      match i with
      | .again st' => Frame st.inst st'.inst
      | .done _ => True := by
  have hbuilt := Frame.buildCommand args st.inst
  unfold attempt
  dsimp only
  rw [satisfies_send_bind]
  intro status
  by_cases hsent : status ≠ .success
  · rw [if_pos hsent]
    trivial
  · rw [if_neg hsent, satisfies_receive_bind]
    intro reply
    have hstored := hbuilt.trans (.storeTemp (buildCommand args st.inst) 0 reply.data)
    unfold checkReply
    dsimp only [pure_eq_ret, satisfies_ret]
    split_ifs <;> first | exact trivial | exact hstored

theorem retryLoop_period (args : CommandArgs UInt8) (retryCnt : ℕ) (st : CommandState UInt8) :
    KeepsPeriod st.inst.ipmiTimeoutPeriod (retryLoop args retryCnt st) := by
  unfold KeepsPeriod
  induction retryCnt generalizing st with
  | zero => exact fun _ hevent => absurd hevent List.not_mem_nil
  | succ retryCnt ih =>
    rw [retryLoop, satisfies_bind]
    have hattempt := (attempt_frame args retryCnt st).and (attempt_period args retryCnt st)
    refine hattempt.mono ?_
    rintro tr i ⟨hframe, htr⟩
    rcases i with st' | ⟨status | dataSize, st'⟩
    · have hrest := ih st'
      rw [hframe.ipmiTimeoutPeriod_eq] at hrest
      exact hrest.mono fun tr' _ htr' => List.forall_mem_append.2 ⟨htr, htr'⟩
    · simpa using htr
    · simpa using htr

theorem ipmiSendCommand_period (maxRetries : UInt8) (uninit : Uninitialized)
    (args : CommandArgs UInt32) (st : CommandState UInt32) :
    KeepsPeriod st.inst.ipmiTimeoutPeriod (ipmiSendCommand maxRetries uninit args st) := by
  unfold KeepsPeriod
  rw [ipmiSendCommand, satisfies_bind]
  by_cases hargs : Rejected args.narrow
  · rw [ipmiSendCommandInternal_of_rejected hargs]
    exact fun _ hevent => absurd hevent List.not_mem_nil
  · rw [ipmiSendCommandInternal_of_not_rejected hargs, satisfies_bind]
    refine (retryLoop_period args.narrow maxRetries.toNat _).mono fun tr x htr => ?_
    simpa using htr

end Generic

end IpmiFeature
