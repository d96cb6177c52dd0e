import IpmiFeature.Interaction.Logic
import IpmiFeature.Ssif.Basic

/-!
# Traces of the bus

The calls of the SSIF driver in the program logic, and what both directions have in common: the bus
is opened once, and closed once if it could be opened.
-/

namespace IpmiFeature

open Interaction Prog

namespace Ssif

variable {E : Prop} {α : Type} {Q : List BusEvent → α → Prop}

@[simp] theorem satisfies_open_bind {f : EfiStatus → BusProg α} :
    (bmcSmbusOpen >>= f).Satisfies E Q ↔ ∀ status,
      (f status).Satisfies E fun tr a => Q (⟨.bmcSmbusOpen, status⟩ :: tr) a := Iff.rfl

@[simp] theorem satisfies_close_bind {f : EfiStatus → BusProg α} :
    (bmcSmbusClose >>= f).Satisfies E Q ↔ ∀ status,
      (f status).Satisfies E fun tr a => Q (⟨.bmcSmbusClose, status⟩ :: tr) a := Iff.rfl

@[simp] theorem satisfies_blockWrite_bind {command : UInt8} {block : List UInt8}
    {f : EfiStatus → BusProg α} :
    (bmcSmbusBlockWrite command block >>= f).Satisfies E Q ↔ ∀ status,
      (f status).Satisfies E fun tr a => Q (⟨.bmcSmbusBlockWrite command block, status⟩ :: tr) a :=
  Iff.rfl

@[simp] theorem satisfies_blockRead_bind {command : UInt8} {f : BlockRead → BusProg α} :
    (bmcSmbusBlockRead command >>= f).Satisfies E Q ↔ ∀ read,
      (f read).Satisfies E fun tr a => Q (⟨.bmcSmbusBlockRead command, read⟩ :: tr) a := Iff.rfl

/-! ### Open and close -/

/-- How often a call is made in a trace. -/
def timesCalled (call : BusCall) (tr : List BusEvent) : ℕ := (tr.map Sigma.fst).count call

/-- The status of an attempt to open the bus. -/
def openOf : BusEvent → Option EfiStatus
  | ⟨.bmcSmbusOpen, status⟩ => some status
  | _ => none

/-- The bus is opened once, and closed once if and only if it could be opened. -/
def OpenClose (tr : List BusEvent) : Prop :=
  ∃ status, tr.filterMap openOf = [status] ∧
    timesCalled .bmcSmbusClose tr = if status = .success then 1 else 0

/-- A trace that opens the bus, makes other calls than open and close, and closes it. -/
theorem openClose_of_between {tr : List BusEvent} (closed : EfiStatus)
    (h : ∀ e ∈ tr, e.1 ≠ .bmcSmbusOpen ∧ e.1 ≠ .bmcSmbusClose) :
    OpenClose (⟨.bmcSmbusOpen, .success⟩ :: (tr ++ [⟨.bmcSmbusClose, closed⟩])) := by
  have hopen : tr.filterMap openOf = [] := by
    refine List.filterMap_eq_nil_iff.2 fun e he => ?_
    obtain ⟨call, answer⟩ := e
    cases call with
    | bmcSmbusOpen => exact absurd rfl (h _ he).1
    | bmcSmbusClose => rfl
    | bmcSmbusBlockWrite _ _ => rfl
    | bmcSmbusBlockRead _ => rfl
    | assertFailed => rfl
  have hclose : (tr.map Sigma.fst).count .bmcSmbusClose = 0 := by
    refine List.count_eq_zero.2 fun hmem => ?_
    obtain ⟨e, he, heq⟩ := List.mem_map.1 hmem
    exact (h e he).2 heq
  refine ⟨.success, ?_, ?_⟩
  · rw [List.filterMap_cons, List.filterMap_append, hopen]
    rfl
  · simp [timesCalled, hclose]

end Ssif

end IpmiFeature
