import IpmiFeature.BootOption.Commands
import IpmiFeature.Interaction.Sequence

/-!
# The order of the requests

`IpmiGetBootDevice` and `IpmiGetCmosClearOption` share the boot flags.  Over the mock BMC each of
them is one step of a machine whose state is the flags (`ends_answer`): the first one clears all of
them unless they are persistent, the second one clears its own bit.

* `requestedDevice_first` : no order of the calls changes the first boot device.
* `requestedClear_first` : the first CMOS clear is lost to an earlier `IpmiGetBootDevice`, unless
  the flags are persistent.
-/

namespace IpmiFeature

open Interaction Prog Mock

namespace BootOption

/-! ### The machine -/

/-- A call of one of the two functions. -/
inductive Request where
  /-- `IpmiGetBootDevice`, with `*Selector` before the call. -/
  | bootDevice (selector : BootOptionSelector)
  /-- `IpmiGetCmosClearOption`. -/
  | cmosClear
  deriving DecidableEq, Repr

/-- What comes back. -/
inductive Answer where
  | bootDevice (status : EfiStatus) (selector : BootOptionSelector)
  | cmosClear (status : EfiStatus) (clearCmos : Bool)
  deriving DecidableEq, Repr

/-- What `IpmiGetBootDevice` has given back. -/
def Answer.device? : Answer → Option (EfiStatus × BootOptionSelector)
  | .bootDevice status selector => some (status, selector)
  | .cmosClear _ _ => none

/-- What `IpmiGetCmosClearOption` has given back. -/
def Answer.clear? : Answer → Option (EfiStatus × Bool)
  | .bootDevice _ _ => none
  | .cmosClear status clearCmos => some (status, clearCmos)

/-- The call. -/
def answer : Request → SubmitProg Answer
  | .bootDevice selector => do
    let (status, selector) ← ipmiGetBootDevice selector
    return .bootDevice status selector
  | .cmosClear => do
    let (status, clearCmos) ← ipmiGetCmosClearOption
    return .cmosClear status clearCmos

/-- What the call does to the flags. -/
def consume : Request → StateM BootFlags Answer
  | .bootDevice _ => fun flags =>
    (.bootDevice .success flags.requestedDevice, flags.afterBootDevice)
  | .cmosClear => fun flags =>
    (.cmosClear .success flags.requestedClear, flags.afterCmosClear)

variable {s : Option Bmc} {flags : BootFlags}

/-- A call over the mock BMC is a step of the machine. -/
theorem ends_answer (request : Request) (s : Option Bmc) (flags : BootFlags) (h : Stores s flags) :
    (answer request).Ends mockBaseLib s fun x s' =>
      x = (consume request flags).1 ∧ Stores s' (consume request flags).2 := by
  obtain ⟨s₁, hprogress, h₁⟩ := h.getSetInProgress
  obtain ⟨s₂, hflags, h₂⟩ := h₁.getBootFlags
  have hwritten : ∀ written, Stores (writeBack mockBaseLib s₂ written) (written.getD flags) := by
    rintro (_ | flags')
    · exact h₂
    · obtain ⟨s₃, hset, h₃⟩ := h₂.setFlags flags'
      change Stores (mockBaseLib (setFlagsCall flags') s₂).2 flags'
      rw [hset]
      exact h₃
  cases request with
  | bootDevice selector =>
    obtain ⟨s₃, hacknowledge, h₃⟩ := (hwritten flags.writtenByBootDevice).acknowledge
    rw [answer, ends_bind, ends_ipmiGetBootDevice hprogress hflags, hacknowledge]
    exact ⟨rfl, h₃⟩
  | cmosClear =>
    rw [answer, ends_bind, ends_ipmiGetCmosClearOption hprogress hflags]
    exact ⟨rfl, hwritten _⟩

/-! ### The first answers -/

/-- Clearing the CMOS bit leaves the boot device as it is. -/
theorem requestedDevice_afterCmosClear (flags : BootFlags) :
    flags.afterCmosClear.requestedDevice = flags.requestedDevice := by
  by_cases hrequested : flags.requestedClear
  · rw [afterCmosClear_of_requested hrequested]
    simp [BootFlags.requestedDevice]
  · rw [afterCmosClear_of_not_requested hrequested]

/-- `IpmiGetBootDevice` leaves no CMOS clear behind unless the flags are persistent. -/
theorem requestedClear_afterBootDevice (h : ¬ flags.persistentOptions) :
    flags.afterBootDevice.requestedClear = false := by
  by_cases hvalid : flags.bootFlagValid
  · rw [afterBootDevice_of_once hvalid h]
    decide
  · rw [afterBootDevice_of_kept fun h => absurd h hvalid]
    simp [BootFlags.requestedClear, hvalid]

theorem requestedDevice_first {requests : List Request}
    (h : ∃ selector, .bootDevice selector ∈ requests) (flags : BootFlags) :
    (requests.mapM consume flags).1.findSome? Answer.device? =
      some (.success, flags.requestedDevice) := by
  induction requests generalizing flags with
  | nil =>
    obtain ⟨selector, hmem⟩ := h
    cases hmem
  | cons request requests ih =>
    rw [run_mapM_cons]
    cases request with
    | bootDevice selector => rfl
    | cmosClear =>
      obtain ⟨selector, hmem⟩ := h
      have hlater : .bootDevice selector ∈ requests := (List.mem_cons.1 hmem).resolve_left nofun
      rw [← requestedDevice_afterCmosClear]
      exact ih ⟨selector, hlater⟩ _

theorem requestedClear_first {requests : List Request} (h : .cmosClear ∈ requests)
    (flags : BootFlags) : (requests.mapM consume flags).1.findSome? Answer.clear? =
      some (.success, if requests.head? = some .cmosClear ∨ flags.persistentOptions then
        flags.requestedClear else false) := by
  induction requests generalizing flags with
  | nil => cases h
  | cons request requests ih =>
    rw [run_mapM_cons]
    cases request with
    | cmosClear => rfl
    | bootDevice selector =>
      have hlater : .cmosClear ∈ requests := (List.mem_cons.1 h).resolve_left nofun
      change (requests.mapM consume flags.afterBootDevice).1.findSome? Answer.clear? = _
      rw [ih hlater]
      by_cases hpersistent : flags.persistentOptions
      · rw [afterBootDevice_of_kept fun _ => hpersistent, if_pos (.inr hpersistent),
          if_pos (.inr hpersistent)]
      · rw [requestedClear_afterBootDevice hpersistent, ite_self, if_neg]
        rintro (hhead | hpersistent')
        · cases hhead
        · exact hpersistent hpersistent'

/-- For every sequence of calls with at least one of each kind, the first `IpmiGetBootDevice` gives
back the boot device of the flags, and the first `IpmiGetCmosClearOption` their CMOS clear, unless
an `IpmiGetBootDevice` before it has cleared the flags, as it does when they are not persistent. -/
theorem answers_first {requests : List Request} {bmc : Bmc} (hidle : bmc.Idle)
    (hdevice : ∃ selector, .bootDevice selector ∈ requests) (hclear : .cmosClear ∈ requests) :
    (requests.mapM answer).Ends mockBaseLib (some bmc) fun answers _ =>
      answers.findSome? Answer.device? = some (.success, bmc.state.bootFlags.requestedDevice) ∧
        answers.findSome? Answer.clear? = some (.success,
          if requests.head? = some .cmosClear ∨ bmc.state.bootFlags.persistentOptions then
            bmc.state.bootFlags.requestedClear
          else
            false) := by
  have hstores : Stores (some bmc) bmc.state.bootFlags := ⟨bmc, rfl, hidle, rfl⟩
  refine (ends_mapM_of_simulation ends_answer requests hstores).mono ?_
  rintro answers s' ⟨rfl, -⟩
  exact ⟨requestedDevice_first hdevice _, requestedClear_first hclear _⟩

/-- The mock BMC with the given flags. -/
def bmcWith (flags : BootFlags) : Bmc :=
  { initialBmc with state := { initialBmc.state with bootFlags := flags } }

/-- Valid flags that ask once for PXE and for the CMOS to be cleared. -/
def pxeAndClear : BootFlags := ⟨0x80, 0x84, 0, 0, 0⟩

/-- The CMOS clear is lost when the boot device is asked for first. -/
theorem answers_first_clear_lost :
    ¬ ([.bootDevice .bootNone, .cmosClear].mapM answer).Ends mockBaseLib
      (some (bmcWith pxeAndClear)) fun answers _ =>
        answers.findSome? Answer.clear? = some (.success, pxeAndClear.requestedClear) := by
  intro h
  have hrun : (([.bootDevice .bootNone, .cmosClear].mapM answer).exec mockBaseLib
      (some (bmcWith pxeAndClear))).map (fun run => run.1.findSome? Answer.clear?) =
        some (some (.success, false)) := by decide
  obtain ⟨⟨answers, tr, s'⟩, hexec, hlost⟩ := Option.map_eq_some_iff.1 hrun
  have hkept := h.of_exec hexec
  rw [hlost] at hkept
  exact absurd hkept (by decide)

theorem answers_first_pxeAndClear :
    ([.cmosClear, .bootDevice .bootCd, .cmosClear].mapM answer).Ends mockBaseLib
      (some (bmcWith pxeAndClear)) fun answers _ =>
        answers.findSome? Answer.device? = some (.success, .bootPxe) ∧
          answers.findSome? Answer.clear? = some (.success, true) :=
  answers_first ⟨rfl⟩ ⟨.bootCd, by decide⟩ (by decide)

end BootOption

end IpmiFeature
