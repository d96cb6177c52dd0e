import IpmiFeature.BaseLib.Commands
import IpmiFeature.Generic.Status

/-!
# The base libraries of the phases

`IpmiBaseLibPei.c` looks the interface of the generic driver up for each call; `IpmiBaseLibDxe.c`,
`IpmiBaseLibSmm.c` and `IpmiBaseLibMm.c` keep what they have found (`mIpmiTransport`).  Whatever the
lookups find and whatever program is run over the library, the second way is the first one, with each
lookup after the first success finding what that one has found (`cachingLibrary_eq_peiLibrary`), and
that is all the difference there is (`cachingLibrary_agrees_iff`).

An interface is a handle of an instance, and a library with its driver is run over the transport.
-/

namespace IpmiFeature

open Interaction Generic

namespace BaseLib

/-! ### The interface -/

/-- The calls of `IpmiBaseLib.h`. -/
inductive LibraryCall where
  | ipmiSubmitCommand (call : BufferedCall)
  | getBmcStatus

/-- What the caller finds; after an error of `GetBmcStatus`, its own variables. -/
abbrev LibraryCall.Answer : LibraryCall → Type
  | ipmiSubmitCommand _ => SubmitResult
  | getBmcStatus => Except EfiStatus StatusReport

/-- A call that does not get to the driver. -/
def LibraryCall.failed (status : EfiStatus) : (call : LibraryCall) → call.Answer
  | ipmiSubmitCommand call => ⟨status, call.buffer, call.call.responseDataSize⟩
  | getBmcStatus => .error status

/-- What a lookup finds: the handle of an instance. -/
abbrev Lookup := Except EfiStatus ℕ

/-- The instances of the generic driver. -/
abbrev Instances := ℕ → IpmiBmcInstanceData

section

variable (maxRetries : UInt8) (uninit : Uninitialized)

/-- A call of a function of `IPMI_TRANSPORT`. -/
def callInstance : (call : LibraryCall) → ℕ → Instances → TransportProg (call.Answer × Instances)
  | .ipmiSubmitCommand call, handle, insts => do
    let (status, st) ← Generic.ipmiSendCommand maxRetries uninit (submitArgs call.call)
      ⟨insts handle, call.buffer, call.call.responseDataSize⟩
    return (⟨status, st.responseData, st.responseDataSize⟩, Function.update insts handle st.inst)
  | .getBmcStatus, handle, insts => do
    let (report, inst) := ipmiBmcStatus (insts handle)
    return (.ok report, Function.update insts handle inst)

/-! ### The libraries -/

/-- `IpmiSubmitCommand` and `GetBmcStatus` of `IpmiBaseLibPei.c`, with what `PeiServicesLocatePpi`
gives. -/
def peiCall (locatePpi : Lookup) (call : LibraryCall) (insts : Instances) :
    TransportProg (call.Answer × Instances) :=
  match locatePpi with
  | .error status => return (call.failed status, insts)
  | .ok handle => callInstance maxRetries uninit call handle insts

/-- What `IpmiSubmitCommand` and `GetBmcStatus` of the other libraries have in common: the lookup is
called while `mIpmiTransport` is `NULL`. -/
def cachingCall (locate : Lookup) (call : LibraryCall) (ipmiTransport : Option ℕ)
    (insts : Instances) : TransportProg (call.Answer × Option ℕ × Instances) :=
  match ipmiTransport, locate with
  | none, .error status => return (call.failed status, none, insts)
  | none, .ok handle | some handle, _ => do
    let (answer, insts) ← callInstance maxRetries uninit call handle insts
    return (answer, some handle, insts)

/-- `IpmiSubmitCommand` and `GetBmcStatus` of `IpmiBaseLibDxe.c`, with what `LocateProtocol` gives. -/
def dxeCall (locateProtocol : Lookup) (call : LibraryCall) (ipmiTransport : Option ℕ)
    (insts : Instances) : TransportProg (call.Answer × Option ℕ × Instances) :=
  cachingCall maxRetries uninit locateProtocol call ipmiTransport insts

/-- `IpmiSubmitCommand` and `GetBmcStatus` of `IpmiBaseLibSmm.c`, with what `SmmLocateProtocol`
gives. -/
def smmCall (smmLocateProtocol : Lookup) (call : LibraryCall) (ipmiTransport : Option ℕ)
    (insts : Instances) : TransportProg (call.Answer × Option ℕ × Instances) :=
  cachingCall maxRetries uninit smmLocateProtocol call ipmiTransport insts

/-- `IpmiSubmitCommand` and `GetBmcStatus` of `IpmiBaseLibMm.c`, with what `MmLocateProtocol` gives. -/
def mmCall (mmLocateProtocol : Lookup) (call : LibraryCall) (ipmiTransport : Option ℕ)
    (insts : Instances) : TransportProg (call.Answer × Option ℕ × Instances) :=
  cachingCall maxRetries uninit mmLocateProtocol call ipmiTransport insts

/-- The phases whose library has `mIpmiTransport`. -/
inductive Phase where
  | dxe
  | smm
  | mm

/-- `IpmiSubmitCommand` and `GetBmcStatus` of the library of a phase. -/
def Phase.call : Phase → Lookup → (call : LibraryCall) → Option ℕ → Instances →
    TransportProg (call.Answer × Option ℕ × Instances)
  | dxe => dxeCall maxRetries uninit
  | smm => smmCall maxRetries uninit
  | mm => mmCall maxRetries uninit

/-- The library of PEI: the call with the number `n` finds `lookups n`. -/
def peiLibrary (lookups : ℕ → Lookup) (call : LibraryCall) :
    ℕ × Instances → TransportProg (call.Answer × ℕ × Instances)
  | (n, insts) => do
    let (answer, insts) ← peiCall maxRetries uninit (lookups n) call insts
    return (answer, n + 1, insts)

/-- The library of a phase with `mIpmiTransport`. -/
def cachingLibrary (phase : Phase) (lookups : ℕ → Lookup) (call : LibraryCall) :
    ℕ × Option ℕ × Instances → TransportProg (call.Answer × ℕ × Option ℕ × Instances)
  | (n, ipmiTransport, insts) => do
    let (answer, ipmiTransport, insts) ←
      phase.call maxRetries uninit (lookups n) call ipmiTransport insts
    return (answer, n + 1, ipmiTransport, insts)

end

/-! ### One is the other -/

/-- The lookups, when nothing is found any more after the first success but what has been found. -/
def frozen (lookups : ℕ → Lookup) : ℕ → Lookup
  | 0 => lookups 0
  | n + 1 =>
    match frozen lookups n with
    | .ok handle => .ok handle
    | .error _ => lookups (n + 1)

/-- `mIpmiTransport` after `n` calls. -/
def cacheAt (lookups : ℕ → Lookup) : ℕ → Option ℕ
  | 0 => none
  | n + 1 =>
    match frozen lookups n with
    | .ok handle => some handle
    | .error _ => none

variable {maxRetries : UInt8} {uninit : Uninitialized} {lookups : ℕ → Lookup}

/-- The libraries differ in whom they ask only. -/
theorem Phase.call_eq (phase : Phase) :
    phase.call maxRetries uninit = cachingCall maxRetries uninit := by
  cases phase <;> rfl

/-- The lookup of a call, with `mIpmiTransport` before it. -/
theorem frozen_eq (lookups : ℕ → Lookup) (n : ℕ) :
    frozen lookups n = (cacheAt lookups n).elim (lookups n) .ok := by
  cases n with
  | zero => rfl
  | succ n =>
    rw [frozen, cacheAt]
    cases frozen lookups n <;> rfl

/-- A call keeps `mIpmiTransport` as it says. -/
theorem cachingCall_eq (call : LibraryCall) (n : ℕ) (insts : Instances) :
    cachingCall maxRetries uninit (lookups n) call (cacheAt lookups n) insts =
      (fun r => (r.1, cacheAt lookups (n + 1), r.2)) <$>
        peiCall maxRetries uninit (frozen lookups n) call insts := by
  rw [cacheAt, frozen_eq]
  cases cacheAt lookups n with
  | some handle => rfl
  | none =>
    cases lookups n with
    | error status => rfl
    | ok handle => rfl

/-- Whatever is run over a library with `mIpmiTransport`, the calls of the transport and the results
are those of the library of PEI, with the frozen lookups. -/
theorem cachingLibrary_eq_peiLibrary {α : Type} (phase : Phase) (lookups : ℕ → Lookup)
    (p : Prog LibraryCall LibraryCall.Answer α) (insts : Instances) :
    p.through (cachingLibrary maxRetries uninit phase lookups) (0, none, insts) =
      (fun r => (r.1, r.2.1, cacheAt lookups r.2.1, r.2.2)) <$>
        p.through (peiLibrary maxRetries uninit (frozen lookups)) (0, insts) := by
  refine Prog.through_map (f := fun st => (st.1, cacheAt lookups st.1, st.2)) ?_ p (0, insts)
  rintro call ⟨n, insts⟩
  simp only [cachingLibrary, phase.call_eq, peiLibrary, cachingCall_eq, bind_map_left, map_bind]
  rfl

/-- A lookup goes on finding what it has found. -/
def Stable (lookups : ℕ → Lookup) : Prop :=
  ∀ n handle, lookups n = .ok handle → lookups (n + 1) = .ok handle

theorem frozen_eq_self_iff : frozen lookups = lookups ↔ Stable lookups := by
  constructor
  · intro heq n handle hn
    have hnext : frozen lookups (n + 1) = lookups (n + 1) := congrFun heq (n + 1)
    rw [← hnext, frozen, heq, hn]
  · intro hstable
    funext n
    induction n with
    | zero => rfl
    | succ n ih =>
      rw [frozen, ih]
      cases hn : lookups n with
      | error status => rfl
      | ok handle => exact (hstable n handle hn).symm

/-! ### When there is a difference -/

/-- `GetBmcStatus`, `n + 1` times. -/
def askStatus : ℕ → Prog LibraryCall LibraryCall.Answer (Except EfiStatus StatusReport)
  | 0 => Prog.perform LibraryCall.getBmcStatus
  | n + 1 => do
    let _ ← Prog.perform LibraryCall.getBmcStatus
    askStatus n

/-- What `GetBmcStatus` gives for a lookup. -/
def statusOf (insts : Instances) (lookup : Lookup) : Except EfiStatus StatusReport :=
  lookup.map fun handle => (ipmiBmcStatus (insts handle)).1

/-- An instance that has not failed softly stays as it is. -/
theorem ipmiBmcStatus_steady {inst : IpmiBmcInstanceData} (h : inst.bmcStatus ≠ bmcSoftfail) :
    (ipmiBmcStatus inst).2 = inst := by
  rw [ipmiBmcStatus, if_neg fun hsoft => h hsoft.1]

/-- The last answer is that of the last lookup. -/
theorem askStatus_through {insts : Instances} (hsteady : ∀ handle, (insts handle).bmcStatus ≠ bmcSoftfail)
    (n k : ℕ) : (askStatus n).through (peiLibrary maxRetries uninit lookups) (k, insts) =
      .ret (statusOf insts (lookups (k + n)), k + n + 1, insts) := by
  have hcall : ∀ lookup, peiCall maxRetries uninit lookup .getBmcStatus insts =
      .ret (statusOf insts lookup, insts) := by
    intro lookup
    cases lookup with
    | error status => rfl
    | ok handle =>
      simp only [peiCall, callInstance, ipmiBmcStatus_steady (hsteady handle), Function.update_eq_self]
      rfl
  induction n generalizing k with
  | zero =>
    simp only [askStatus, Prog.perform, Prog.through, peiLibrary, hcall, Prog.ret_bind]
    rfl
  | succ n ih =>
    simp only [askStatus, Prog.perform, Prog.call_bind, Prog.through, peiLibrary, hcall, Prog.ret_bind,
      Prog.pure_eq_ret, ih]
    rw [Nat.add_right_comm, Nat.add_assoc k n 1]

/-- Instances of which only one is in order. -/
def onlyOk (handle : ℕ) : Instances := fun k =>
  { idleInstance with bmcStatus := if k = handle then bmcOk else bmcHardfail }

theorem onlyOk_steady (handle k : ℕ) : (onlyOk handle k).bmcStatus ≠ bmcSoftfail := by
  dsimp only [onlyOk]
  split_ifs <;> decide

theorem statusOf_onlyOk (handle k : ℕ) : (statusOf (onlyOk handle) (.ok k)).map (·.bmcStatus) =
    .ok (if k = handle then bmcOk else bmcHardfail) := by
  have hsteady : (ipmiBmcStatus (onlyOk handle k)).1.bmcStatus = (onlyOk handle k).bmcStatus :=
    congrArg (·.bmcStatus) (ipmiBmcStatus_steady (onlyOk_steady handle k))
  exact congrArg Except.ok hsteady

/-- Lookups that give the same statuses are the same. -/
theorem eq_of_statusOf {lookup lookup' : Lookup}
    (h : ∀ handle, statusOf (onlyOk handle) lookup = statusOf (onlyOk handle) lookup') :
    lookup = lookup' := by
  cases lookup with
  | error status =>
    cases lookup' with
    | error status' => exact congrArg Except.error (Except.error.inj (h 0))
    | ok handle' => cases h 0
  | ok handle =>
    cases lookup' with
    | error status' => cases h 0
    | ok handle' =>
      have hreport := congrArg (Except.map (·.bmcStatus)) (h handle)
      rw [statusOf_onlyOk, statusOf_onlyOk, if_pos rfl] at hreport
      by_contra hne
      rw [if_neg fun heq => hne (congrArg Except.ok heq.symm)] at hreport
      exact absurd (Except.ok.inj hreport) (by decide)

/-- **Looking up once.**  The libraries of DXE, SMM and standalone MM do what the library of PEI does,
for all programs over them, if and only if the lookups go on finding what they have found. -/
theorem cachingLibrary_agrees_iff (maxRetries : UInt8) (uninit : Uninitialized) (phase : Phase)
    (lookups : ℕ → Lookup) :
    (∀ (α : Type) (p : Prog LibraryCall LibraryCall.Answer α) (insts : Instances),
      (fun r => (r.1, r.2.1, r.2.2.2)) <$>
        p.through (cachingLibrary maxRetries uninit phase lookups) (0, none, insts) =
          p.through (peiLibrary maxRetries uninit lookups) (0, insts)) ↔ Stable lookups := by
  have hfrozen : ∀ (α : Type) (p : Prog LibraryCall LibraryCall.Answer α) (insts : Instances),
      (fun r => (r.1, r.2.1, r.2.2.2)) <$>
        p.through (cachingLibrary maxRetries uninit phase lookups) (0, none, insts) =
          p.through (peiLibrary maxRetries uninit (frozen lookups)) (0, insts) := by
    intro α p insts
    rw [cachingLibrary_eq_peiLibrary, Functor.map_map]
    exact id_map _
  rw [← frozen_eq_self_iff]
  constructor
  · intro hagree
    funext n
    refine eq_of_statusOf fun handle => ?_
    have heq := (hfrozen _ (askStatus n) (onlyOk handle)).symm.trans (hagree _ _ _)
    rw [askStatus_through (onlyOk_steady handle), askStatus_through (onlyOk_steady handle),
      Nat.zero_add] at heq
    exact congrArg Prod.fst (Prog.ret.inj heq)
  · intro heq α p insts
    rw [hfrozen, heq]

/-! ### Programs in PEI -/

variable {α : Type} {handle : ℕ}

/-- Once the interface is there, the commands of PEI are those of DXE. -/
theorem peiLibrary_eq_dxeLibrary (p : CommandProg α) (st : ℕ × Instances) :
    p.through (dxeLibrary maxRetries uninit) ⟨true, st.2 handle⟩ =
      (fun r => (r.1, ⟨true, r.2.2 handle⟩)) <$>
        (p.embed LibraryCall.ipmiSubmitCommand).through
          (peiLibrary maxRetries uninit fun _ => .ok handle) st := by
  rw [Prog.through_embed]
  refine Prog.through_map (f := fun st : ℕ × Instances => (⟨true, st.2 handle⟩ : DxeState)) ?_ p st
  rintro call ⟨n, insts⟩
  unfold dxeLibrary dxeSubmitCommand
  rw [if_neg fun h => h.1 rfl]
  simp only [peiLibrary, peiCall, callInstance, map_bind, bind_assoc, pure_bind, map_pure,
    Function.update_self]

/-- A program of PEI over a transport library. -/
theorem peiLibrary_above {σ D τ : Type} {S : D → Type} {process : Processor σ} {h : Handler D S τ}
    {transport : (call : TransportCall) → Prog D S call.Answer} {period : UInt64}
    {Rel : Link σ → τ → Prop} (himpl : Implements process h transport period Rel)
    {p : CommandProg α} {n : ℕ} {insts : Instances} {x : σ} {t : τ} {Q : α → UInt32 × σ → Prop}
    (hretries : maxRetries ≠ 0) (hperiod : (insts handle).ipmiTimeoutPeriod = period)
    (ht : Rel ⟨x, none⟩ t)
    (hp : p.Completes (executeCall process) ((insts handle).bmcStatus, x) Q) :
    (((p.embed LibraryCall.ipmiSubmitCommand).through
      (peiLibrary maxRetries uninit fun _ => .ok handle) (n, insts)).above transport).Ends h t
        fun a t' => ∃ x', Q a.1 ((a.2.2 handle).bmcStatus, x') ∧ Rel ⟨x', none⟩ t' := by
  have hdxe : ((p.through (dxeLibrary maxRetries uninit) ⟨true, insts handle⟩).above transport).Ends h
      t fun a t' => ∃ x', Q a.1 (a.2.inst.bmcStatus, x') ∧ Rel ⟨x', none⟩ t' :=
    dxeLibrary_above himpl hretries hperiod ht hp
  rw [peiLibrary_eq_dxeLibrary p (n, insts), Prog.above_map, Prog.ends_map] at hdxe
  exact hdxe

/-- A program of the other phases, from its first call. -/
theorem cachingLibrary_above {σ D τ : Type} {S : D → Type} {process : Processor σ} {h : Handler D S τ}
    {transport : (call : TransportCall) → Prog D S call.Answer} {period : UInt64}
    {Rel : Link σ → τ → Prop} (himpl : Implements process h transport period Rel)
    {phase : Phase} {p : CommandProg α} {insts : Instances} {x : σ} {t : τ}
    {Q : α → UInt32 × σ → Prop} (hretries : maxRetries ≠ 0)
    (hperiod : (insts handle).ipmiTimeoutPeriod = period) (ht : Rel ⟨x, none⟩ t)
    (hp : p.Completes (executeCall process) ((insts handle).bmcStatus, x) Q) :
    (((p.embed LibraryCall.ipmiSubmitCommand).through
      (cachingLibrary maxRetries uninit phase fun _ => .ok handle) (0, none, insts)).above
        transport).Ends h t
        fun a t' => ∃ x', Q a.1 ((a.2.2.2 handle).bmcStatus, x') ∧ Rel ⟨x', none⟩ t' := by
  have hfrozen : frozen (fun _ => .ok handle) = fun _ => .ok handle :=
    frozen_eq_self_iff.2 fun _ _ h => h
  rw [cachingLibrary_eq_peiLibrary, hfrozen, Prog.above_map, Prog.ends_map]
  exact peiLibrary_above himpl hretries hperiod ht hp

end BaseLib

end IpmiFeature
