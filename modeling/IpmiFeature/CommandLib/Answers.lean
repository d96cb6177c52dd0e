import IpmiFeature.CommandLib.Basic
import IpmiFeature.Interaction.Logic
import IpmiFeature.Mock.Answers

/-!
# The command library over the mock BMC

What a wrapper finds is what the handler of its command has answered.
-/

namespace IpmiFeature

open Interaction Prog BaseLib Mock

namespace CommandLib

/-- The command is carried out by the mock BMC: its handler gives the response and the state. -/
structure Handled (bmc : Bmc) (call : SubmitCall) (response : List UInt8) (state : BmcState) :
    Prop where
  idle : bmc.Idle
  netFunction_lt : call.netFunction.toNat < 64
  handler : ∃ handler, handlerOf call.netFunction call.command = some handler ∧
    handler call.commandData unanswered bmc.state = some (response, state)
  length_commandData : call.commandData.length ≤ 253
  nonempty : response ≠ []
  length_response : response.length ≤ 250
  fits : response.length ≤ call.responseDataSize.toNat

variable {bmc : Bmc} {netFunction command : UInt8} {commandData response : List UInt8} {size : UInt32}
  {state : BmcState} {c : Caller}

/-- A command over the mock BMC. -/
theorem exec_submitBuffered (call : BufferedCall) (h : Handled bmc call.call response state) :
    ∃ bmc' : Bmc, (submitBuffered call).exec mockBaseLib (some bmc) =
        some (call.result ⟨.success, response, UInt32.ofNat response.length⟩,
          [⟨call.call, ⟨.success, response, UInt32.ofNat response.length⟩⟩], some bmc') ∧
      bmc'.Idle ∧ bmc'.state = state := by
  obtain ⟨handler, hhandler, hrun⟩ := h.handler
  obtain ⟨bmc', hanswer, hidle, hstate⟩ := mockSubmitCommand_of_handler h.idle h.netFunction_lt
    hhandler hrun h.length_commandData h.nonempty h.length_response h.fits
  have hcall : mockBaseLib call.call (some bmc) =
      (⟨.success, response, UInt32.ofNat response.length⟩, some bmc') :=
    Handler.halting_of_some hanswer
  refine ⟨bmc', ?_, hidle, hstate⟩
  change ((Prog.call call.call fun reply => .ret (call.result reply)).exec mockBaseLib (some bmc)) = _
  rw [exec_call, hcall]
  rfl

theorem ends_submitBuffered (call : BufferedCall) (h : Handled bmc call.call response state)
    {Q : SubmitResult → Option Bmc → Prop}
    (hQ : ∀ bmc' : Bmc, bmc'.Idle → bmc'.state = state →
      Q (call.result ⟨.success, response, UInt32.ofNat response.length⟩) (some bmc')) :
    (submitBuffered call).Ends mockBaseLib (some bmc) Q := by
  obtain ⟨bmc', hrun, hidle, hstate⟩ := exec_submitBuffered call h
  exact ends_iff_exec.2 ⟨_, _, _, hrun, hQ bmc' hidle hstate⟩

/-- A wrapper with a size of its own makes one call. -/
theorem exec_submitOwnSize {σ : Type} {h : Handler SubmitCall SubmitCall.Answer σ} {s s' : σ}
    {reply : SubmitReply} (hcall : h ⟨netFunction, command, commandData, size⟩ s = (reply, s')) :
    (submitOwnSize submitBuffered netFunction command commandData size c).exec h s =
      some ((reply.status, { c with response := c.response.store 0 reply.data }),
        [⟨⟨netFunction, command, commandData, size⟩, reply⟩], s') := by
  change (Prog.call (R := SubmitCall.Answer) ⟨netFunction, command, commandData, size⟩ fun reply =>
    .ret (reply.status, { c with response := c.response.store 0 reply.data })).exec h s = _
  rw [exec_call, hcall]
  rfl

/-- What holds of the call of a wrapper, whatever it is answered, holds of all its events. -/
theorem satisfies_submitOwnSize {E : Prop} {P : Event SubmitCall SubmitCall.Answer → Prop}
    (h : ∀ reply, P ⟨⟨netFunction, command, commandData, size⟩, reply⟩) :
    (submitOwnSize submitBuffered netFunction command commandData size c).Satisfies E
      fun tr _ => ∀ event ∈ tr, P event :=
  fun reply => List.forall_mem_singleton.2 (h reply)

end CommandLib

end IpmiFeature
