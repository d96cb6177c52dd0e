import IpmiFeature.Generic.Delivery
import IpmiFeature.Generic.Framing

/-!
# Responses that answer the command

The header of a reply is compared with the command only if the reply is too long for the buffer.
A successful call has delivered the answer to its command exactly when the response that ended the
retry loop happened to be one (`ipmiSendCommandInternal_genuine_iff`).
-/

namespace IpmiFeature

open Interaction Prog

namespace Generic

variable {args : CommandArgs UInt8} {r : Response} {st st' : CommandState UInt8}
  {script : ℕ → Attempt} {maxRetries : UInt8} {uninit : Uninitialized}

/-- A successful call, in which `received` replies have come, has sent the command and got the
answer to it. -/
structure Genuine (args : CommandArgs UInt8) (script : ℕ → Attempt) (st' : CommandState UInt8)
    (tr : List TransportEvent) (received : ℕ) : Prop where
  /-- A frame was sent. -/
  sent : frames tr ≠ []
  /-- One of the replies answers the command, and what was delivered is its payload. -/
  answer : ∃ k < received, ∃ r, (script k).response = some r ∧ r.Matches args ∧
    (args.responseData ≠ .null → st'.responseDataSize.toNat = r.payload.length + 1 ∧
      (st'.response args.responseData).slice 1 r.payload.length = r.payload)

/-- Only the last response can be the answer. -/
theorem AnsweredAt.matches_of_lt {capacity : UInt8} {retryCnt k j : ℕ} {r' : Response}
    (h : AnsweredAt args capacity retryCnt script k r) (hj : j < k + 1)
    (hresponse : (script j).response = some r') (hmatches : r'.Matches args) : r.Matches args := by
  rcases Nat.lt_succ_iff_lt_or_eq.1 hj with hlt | rfl
  · obtain ⟨r₀, h₀, -, hforeign⟩ := h.skipped j hlt
    rw [hresponse] at h₀
    cases h₀
    exact absurd hmatches hforeign
  · rw [h.response] at hresponse
    cases hresponse
    exact hmatches

/-- A response that ends the loop and does not answer the command is taken for an answer. -/
theorem AnsweredAt.fits_of_not_matches {capacity : UInt8} {retryCnt k : ℕ}
    (h : AnsweredAt args capacity retryCnt script k r) (hr : ¬ r.Matches args) :
    ¬ r.TooLong args capacity := fun hlong => h.last ⟨hlong, hr⟩

/-- **When a successful call is answered.**  Whenever the call reports success it has sent the
command and delivered an answer to it, if and only if its arguments are rejected, or there is at
least one attempt and the response that ends the retry loop, if there is one, answers the
command. -/
theorem ipmiSendCommandInternal_genuine_iff {status : EfiStatus} {tr : List TransportEvent}
    {received : ℕ} (hrun : (ipmiSendCommandInternal maxRetries uninit args st).exec (scripted script) 0 =
      some ((status, st'), tr, received)) :
    (status = .success → Genuine args script st' tr received) ↔
      Rejected args ∨ (maxRetries ≠ 0 ∧ ∀ k r,
        AnsweredAt args st.responseDataSize maxRetries.toNat script k r → r.Matches args) := by
  obtain ⟨hreject, hsend⟩ :=
    (ipmiSendCommandInternal_frames maxRetries uninit args st).of_exec hrun
  by_cases hargs : Rejected args
  · obtain rfl : status = .invalidParameter := (hreject hargs).1
    exact iff_of_true nofun (.inl hargs)
  obtain ⟨-, hempty, hsuccess⟩ := hsend hargs
  constructor
  · intro hgenuine
    refine .inr ⟨?_, fun k r h => ?_⟩
    · intro hretries
      exact (hgenuine (hsuccess hretries)).sent (hempty.2 hretries)
    · -- a foreign response ends the loop only if it fits, and then the call succeeds
      by_contra hforeign
      obtain ⟨hreceived, hstatus, -⟩ :=
        (ipmiSendCommandInternal_delivers hargs h (h.fits_of_not_matches hforeign)).of_exec hrun
      obtain ⟨j, hj, r', hresponse, hmatches, -⟩ := (hgenuine hstatus).answer
      exact hforeign (h.matches_of_lt (hreceived ▸ hj) hresponse hmatches)
  · rintro (hrejected | ⟨hretries, hanswers⟩) rfl
    · exact absurd hrejected hargs
    refine ⟨fun hnone => hretries (hempty.1 hnone), ?_⟩
    by_cases hanswered : ∃ k r, AnsweredAt args st.responseDataSize maxRetries.toNat script k r
    · obtain ⟨k, r, h⟩ := hanswered
      have hfits : ¬ r.TooLong args st.responseDataSize := by
        intro hlong
        obtain ⟨-, inst, heq⟩ := (ipmiSendCommandInternal_tooSmall hargs h hlong).of_exec hrun
        cases heq
      obtain ⟨rfl, -, hdelivered⟩ := (ipmiSendCommandInternal_delivers hargs h hfits).of_exec hrun
      refine ⟨k, Nat.lt_succ_self k, r, h.response, hanswers k r h, fun hptr => ⟨?_, ?_⟩⟩
      · rw [(hdelivered hptr).size_eq]
        exact Attempt.toNat_responseSize h.response
      · exact (hdelivered hptr).slice_payload hptr
    · have hloop : maxRetries.toNat ≠ 0 := fun h => hretries (UInt8.toNat_inj.1 h)
      have hnone : ∀ k r, ¬ AnsweredAt args st.responseDataSize maxRetries.toNat script k r :=
        fun k r h => hanswered ⟨k, r, h⟩
      exact absurd rfl ((ipmiSendCommandInternal_of_no_answer hargs hloop hnone).of_exec hrun)

/-- A self-test result is delivered as the answer to `GetDeviceId`. -/
theorem ipmiSendCommandInternal_not_genuine : ¬ ∀ status st' tr received,
    (ipmiSendCommandInternal 1 ⟨0, fun _ => 0⟩ getDeviceIdArgs (idleCommand 255)).exec
        (scripted fun _ => .ofReply [0x1C, 0x04, 0x00, 0x55, 0x00]) 0 =
      some ((status, st'), tr, received) → status = .success →
        Genuine getDeviceIdArgs (fun _ => .ofReply [0x1C, 0x04, 0x00, 0x55, 0x00]) st' tr
          received := by
  intro h
  have hrun : ((ipmiSendCommandInternal 1 ⟨0, fun _ => 0⟩ getDeviceIdArgs (idleCommand 255)).exec
      (scripted fun _ => .ofReply [0x1C, 0x04, 0x00, 0x55, 0x00]) 0).map (·.1.1) =
        some .success := by decide
  obtain ⟨⟨⟨status, st'⟩, tr, received⟩, hexec, rfl⟩ := Option.map_eq_some_iff.1 hrun
  obtain ⟨k, -, r, hresponse, hmatches, -⟩ := (h _ st' tr received hexec rfl).answer
  have hforeign : (Attempt.ofReply [0x1C, 0x04, 0x00, 0x55, 0x00]).response =
      some ⟨0x1C, 0x04, [0x55, 0x00]⟩ := by decide
  rw [hforeign] at hresponse
  cases hresponse
  revert hmatches
  decide

theorem ipmiSendCommandInternal_genuine_iff_deviceId : ∃ status st' tr received,
    (ipmiSendCommandInternal 1 ⟨0, fun _ => 0⟩ getDeviceIdArgs (idleCommand 255)).exec
        (scripted fun _ => .ofReply (deviceId 0).bytes) 0 = some ((status, st'), tr, received) ∧
      ((status = .success →
          Genuine getDeviceIdArgs (fun _ => .ofReply (deviceId 0).bytes) st' tr received) ↔
        Rejected getDeviceIdArgs ∨ ((1 : UInt8) ≠ 0 ∧ ∀ k r,
          AnsweredAt getDeviceIdArgs (idleCommand 255).responseDataSize (1 : UInt8).toNat
            (fun _ => .ofReply (deviceId 0).bytes) k r → r.Matches getDeviceIdArgs)) := by
  have hrun : ((ipmiSendCommandInternal 1 ⟨0, fun _ => 0⟩ getDeviceIdArgs (idleCommand 255)).exec
      (scripted fun _ => .ofReply (deviceId 0).bytes) 0).map (·.1.1) = some .success := by decide
  obtain ⟨⟨⟨status, st'⟩, tr, received⟩, hexec, -⟩ := Option.map_eq_some_iff.1 hrun
  exact ⟨status, st', tr, received, hexec, ipmiSendCommandInternal_genuine_iff hexec⟩

end Generic

end IpmiFeature
