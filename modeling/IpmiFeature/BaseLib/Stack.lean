import IpmiFeature.BaseLib.Commands
import IpmiFeature.Kcs.Commands
import IpmiFeature.Ssif.Commands

/-!
# The whole stack

A program over `IpmiBaseLibDxe`, the generic driver, a transport library and a BMC behind the registers
of that transport.  It ends with what the BMC does with its calls (`executeCall`), so that nothing in
it depends on the transport: over KCS and over SSIF it has the same results and leaves the BMC in the
same state (`kcsStack_ssifStack_agree`).
-/

namespace IpmiFeature

open Interaction Prog Generic

namespace BaseLib

variable {α σ : Type}

/-- The program over the KCS registers. -/
def kcsStack (fuel : ℕ) (before : Memory UInt8) (maxRetries : UInt8) (uninit : Uninitialized)
    (p : CommandProg α) (st : DxeState) : Kcs.PortProg (α × DxeState) :=
  (p.through (dxeLibrary maxRetries uninit) st).above (Kcs.transport fuel before)

/-- The program over the SMBus. -/
def ssifStack (fuel : ℕ) (stack before : Memory UInt8) (maxRetries : UInt8) (uninit : Uninitialized)
    (p : CommandProg α) (st : DxeState) : Ssif.BusProg (α × DxeState) :=
  (p.through (dxeLibrary maxRetries uninit) st).above (Ssif.transport fuel stack before)

variable {process : Processor σ} {fuel : ℕ} {maxRetries : UInt8} {uninit : Uninitialized}
  {p : CommandProg α} {st : DxeState}

theorem kcsStack_executes {period : UInt64} {fw : Kcs.Firmware period} {s : Kcs.Slave} {x : σ}
    {Q : α → UInt32 × σ → Prop} (hfuel : period.toNat < fuel) (hfuel' : 255 < fuel)
    (before : Memory UInt8) (hretries : maxRetries ≠ 0) (hperiod : st.inst.ipmiTimeoutPeriod = period)
    (hs : s.AtRest (fw.running process x))
    (hp : p.Completes (executeCall process) (st.inst.bmcStatus, x) Q) :
    (kcsStack fuel before maxRetries uninit p st).Ends (fw.executing process) (s, x) fun a t =>
      Q a.1 (a.2.inst.bmcStatus, t.2) ∧ t.1.AtRest (fw.running process t.2) := by
  refine (dxeLibrary_above (Kcs.implements fw hfuel hfuel' before) hretries hperiod (.idle hs) hp).mono
    ?_
  rintro a t ⟨y, hQ, ht⟩
  cases ht with
  | idle hs' => exact ⟨hQ, hs'⟩

theorem ssifStack_executes {framing : Ssif.Framing} {dev : Ssif.Device σ}
    {Q : α → UInt32 × σ → Prop} (hfuel : 256 < fuel) (stack before : Memory UInt8)
    (hretries : maxRetries ≠ 0)
    (hcarries : ∀ request x, Ssif.Carries (framing (process request x).1) (process request x).1)
    (hp : p.Completes (executeCall process) (st.inst.bmcStatus, dev.state) Q) :
    (ssifStack fuel stack before maxRetries uninit p st).Ends (Ssif.device process framing) dev
      fun a dev' => Q a.1 (a.2.inst.bmcStatus, dev'.state) := by
  have himpl := Ssif.implements hfuel stack before st.inst.ipmiTimeoutPeriod hcarries
  refine (dxeLibrary_above himpl hretries rfl (Ssif.linked_idle framing dev) hp).mono ?_
  rintro a dev' ⟨y, hQ, hdev⟩
  rwa [hdev.state_eq]

/-- **The transports are interchangeable.**  Whatever program all of whose commands the BMC answers is
run over the two stacks, it has the same result over both, with the same `BmcStatus`, and the BMC has
executed the same commands. -/
theorem kcsStack_ssifStack_agree {period : UInt64} {fw : Kcs.Firmware period} {s : Kcs.Slave}
    {framing : Ssif.Framing} {dev : Ssif.Device σ} {Q : α → UInt32 × σ → Prop}
    (hfuel : period.toNat < fuel) (hfuel' : 256 < fuel) (stack before : Memory UInt8)
    (hretries : maxRetries ≠ 0) (hperiod : st.inst.ipmiTimeoutPeriod = period)
    (hs : s.AtRest (fw.running process dev.state))
    (hcarries : ∀ request x, Ssif.Carries (framing (process request x).1) (process request x).1)
    (hp : p.Completes (executeCall process) (st.inst.bmcStatus, dev.state) Q) :
    ∃ a bmcStatus x, Q a (bmcStatus, x) ∧
      ((kcsStack fuel before maxRetries uninit p st).Ends (fw.executing process) (s, dev.state)
        fun r t => r.1 = a ∧ r.2.inst.bmcStatus = bmcStatus ∧ t.2 = x) ∧
      (ssifStack fuel stack before maxRetries uninit p st).Ends (Ssif.device process framing) dev
        fun r dev' => r.1 = a ∧ r.2.inst.bmcStatus = bmcStatus ∧ dev'.state = x := by
  obtain ⟨a, ⟨bmcStatus, x⟩, hQ, hp'⟩ := hp.exists_eq
  refine ⟨a, bmcStatus, x, hQ, ?_, ?_⟩
  · refine (kcsStack_executes hfuel (by omega) before hretries hperiod hs hp').mono ?_
    rintro r t ⟨⟨rfl, heq⟩, -⟩
    exact ⟨rfl, congrArg Prod.fst heq, congrArg Prod.snd heq⟩
  · refine (ssifStack_executes hfuel' stack before hretries hcarries hp').mono ?_
    rintro r dev' ⟨rfl, heq⟩
    exact ⟨rfl, congrArg Prod.fst heq, congrArg Prod.snd heq⟩

/-- A BMC without delays. -/
def promptFirmware : Kcs.Firmware 40000 where
  answer := id
  dummy := 0
  ibfDelay _ := ⟨0, by decide⟩
  obfDelay _ := ⟨0, by decide⟩
  early _ := false
  noise _ := 0

/-- Its registers after a reset. -/
def promptStart : Kcs.Slave := ⟨⟨.idle, false, [], [], 0, false⟩, none, 0, 0, 0⟩

theorem promptFirmware_implements (process : Processor σ) :
    Implements process (promptFirmware.executing process) (Kcs.transport 40001 fun _ => 0) 40000
      (Kcs.Linked promptFirmware process) :=
  Kcs.implements promptFirmware (Nat.lt_succ_self 40000) (by decide) fun _ => 0

theorem promptStart_linked (process : Processor σ) (x : σ) :
    Kcs.Linked promptFirmware process ⟨x, none⟩ (promptStart, x) := .idle ⟨rfl, rfl, by decide⟩

/-- A BMC that counts the requests, and answers only the first one with completion code 0. -/
def onceOnly : Processor ℕ := fun _ n =>
  ([0x1C, 0x01, if n = 0 then compCodeNormal else 0xC0], n + 1)

/-- A BMC that has answered nothing yet. -/
def freshDevice {σ : Type} (state : σ) : Ssif.Device σ := ⟨state, [], none, 0⟩

/-- A command, and a second one if the first one has succeeded. -/
def twoCommands : CommandProg (EfiStatus × EfiStatus) := do
  let call : BufferedCall := ⟨⟨0x06, 0x01, [], 255⟩, fun _ => 0⟩
  let first : SubmitResult ← perform call
  if first.status = .success then
    let second : SubmitResult ← perform call
    return (first.status, second.status)
  else
    return (first.status, first.status)

theorem kcsStack_ssifStack_agree_twice : ∃ a bmcStatus n,
    (a = (.success, .deviceError) ∧ n = 2) ∧
      ((kcsStack 40001 (fun _ => 0) 1 ⟨0, fun _ => 0⟩ twoCommands freshLibrary).Ends
        (promptFirmware.executing onceOnly) (promptStart, (freshDevice 0).state)
          fun r t => r.1 = a ∧ r.2.inst.bmcStatus = bmcStatus ∧ t.2 = n) ∧
      (ssifStack 40001 (fun _ => 0) (fun _ => 0) 1 ⟨0, fun _ => 0⟩ twoCommands freshLibrary).Ends
        (Ssif.device onceOnly Ssif.standardFraming) (freshDevice 0)
          fun r dev' => r.1 = a ∧ r.2.inst.bmcStatus = bmcStatus ∧ dev'.state = n := by
  have hfuel : (40000 : UInt64).toNat < 40001 := Nat.lt_succ_self 40000
  have hfuel' : 256 < 40001 := by decide
  have hretries : (1 : UInt8) ≠ 0 := by decide
  have hperiod : freshLibrary.inst.ipmiTimeoutPeriod = 40000 := rfl
  have hrest : promptStart.AtRest (promptFirmware.running onceOnly (freshDevice 0).state) :=
    ⟨rfl, rfl, by decide⟩
  have hcarries : ∀ request x, Ssif.Carries (Ssif.standardFraming (onceOnly request x).1)
      (onceOnly request x).1 := fun _ x => Ssif.carries_standardFraming (show 2 ≤ 3 by decide)
    (show 3 < 256 by decide) fun _ h => absurd (List.cons_prefix_cons.1 h).1 (by decide)
  have hprogram : twoCommands.Completes (executeCall onceOnly)
      (freshLibrary.inst.bmcStatus, (freshDevice 0).state) fun a s =>
        a = (.success, .deviceError) ∧ s.2 = 2 := ⟨_, _, rfl, _, _, rfl, rfl, rfl⟩
  with_reducible
    exact kcsStack_ssifStack_agree hfuel hfuel' (fun _ => 0) (fun _ => 0) hretries hperiod hrest
      hcarries hprogram

end BaseLib

end IpmiFeature
