import IpmiFeature.Interaction.Memory
import Mathlib.Data.List.Find
import Mathlib.Data.List.Pairwise
import Mathlib.Data.Nat.Notation
import Mathlib.Tactic.Common

/-!
# Records one after another

Records of different sizes that lie in memory without a gap between them.

* `placed` : the records with their addresses; `disjoint_of_mem_placed` says that they do not
  overlap, and `le_placedEnd_of_mem` where the last one ends.
* `slice_store_placed` : reading a record from memory.
* `next` : the first record, from an address on, that has a property.
* `next_eq_none_iff`, `mem_of_next_eq_some`, `not_of_next_eq_some` : what the search says about the
  records; `next_eq_some` is the way back.
-/

namespace Interaction

variable {β : Type} (size : β → ℕ)

/-- The records from an address on, with the address of each. -/
def placed : ℕ → List β → List (ℕ × β)
  | _, [] => []
  | a, b :: bs => (a, b) :: placed (a + size b) bs

/-- The address behind the last record. -/
def placedEnd : ℕ → List β → ℕ
  | a, [] => a
  | a, b :: bs => placedEnd (a + size b) bs

@[simp] theorem placed_nil (a : ℕ) : placed size a [] = [] := rfl

@[simp] theorem placed_cons (a : ℕ) (b : β) (bs : List β) :
    placed size a (b :: bs) = (a, b) :: placed size (a + size b) bs := rfl

@[simp] theorem map_snd_placed (a : ℕ) (bs : List β) : (placed size a bs).map Prod.snd = bs := by
  induction bs generalizing a with
  | nil => rfl
  | cons b bs ih => simp [ih]

/-- The first record, from the address `start` on, that has a property. -/
def next (p : β → Prop) [DecidablePred p] (start a : ℕ) (bs : List β) : Option (ℕ × β) :=
  (placed size a bs).find? fun x => start ≤ x.1 ∧ p x.2

variable {size} {a : ℕ} {bs : List β} {x y : ℕ × β}

theorem le_of_mem_placed (hx : x ∈ placed size a bs) : a ≤ x.1 := by
  induction bs generalizing a with
  | nil => simp at hx
  | cons b bs ih =>
    rcases List.mem_cons.1 hx with rfl | hx
    · exact Nat.le_refl _
    · exact Nat.le_trans (Nat.le_add_right _ _) (ih hx)

theorem le_placedEnd (a : ℕ) (bs : List β) : a ≤ placedEnd size a bs := by
  induction bs generalizing a with
  | nil => exact Nat.le_refl _
  | cons b bs ih => exact Nat.le_trans (Nat.le_add_right _ _) (ih _)

theorem le_placedEnd_of_mem (hx : x ∈ placed size a bs) :
    x.1 + size x.2 ≤ placedEnd size a bs := by
  induction bs generalizing a with
  | nil => simp at hx
  | cons b bs ih =>
    rcases List.mem_cons.1 hx with rfl | hx
    · exact le_placedEnd _ bs
    · exact ih hx

variable (size a bs) in
/-- A record ends before the next one begins. -/
theorem pairwise_placed : (placed size a bs).Pairwise fun x y => x.1 + size x.2 ≤ y.1 := by
  induction bs generalizing a with
  | nil => exact .nil
  | cons b bs ih => exact .cons (fun y hy => le_of_mem_placed hy) (ih _)

/-- Two records do not overlap. -/
theorem disjoint_of_mem_placed (hx : x ∈ placed size a bs) (hy : y ∈ placed size a bs)
    (hne : x ≠ y) : x.1 + size x.2 ≤ y.1 ∨ y.1 + size y.2 ≤ x.1 := by
  let Disjoint (x y : ℕ × β) : Prop := x.1 + size x.2 ≤ y.1 ∨ y.1 + size y.2 ≤ x.1
  have hdisjoint : (placed size a bs).Pairwise Disjoint := (pairwise_placed size a bs).imp .inl
  have : Std.Symm Disjoint := ⟨fun _ _ => Or.symm⟩
  exact hdisjoint.forall hx hy hne

/-- At an address there is only one record, unless it is empty. -/
theorem eq_of_mem_placed (hx : x ∈ placed size a bs) (hy : y ∈ placed size a bs)
    (hpos : ∀ b, 0 < size b) (heq : x.1 = y.1) : x = y := by
  by_contra hne
  have hsize := hpos x.2
  have hsize' := hpos y.2
  rcases disjoint_of_mem_placed hx hy hne with h | h <;> omega

/-- Each record is read back from where it has been put. -/
theorem slice_store_placed {V : Type} {bytes : β → List V} (hsize : ∀ b, (bytes b).length = size b)
    (m : Memory V) (a : ℕ) (bs : List β) {x : ℕ × β} (hx : x ∈ placed size a bs) :
    (m.store a (bs.flatMap bytes)).slice x.1 (size x.2) = bytes x.2 := by
  induction bs generalizing m a with
  | nil => simp at hx
  | cons b bs ih =>
    rw [List.flatMap_cons, ← Memory.store_append, hsize]
    rcases List.mem_cons.1 hx with rfl | hx
    · have hread : (m.store a (bytes b)).slice a (size b) = bytes b := by
        rw [← hsize, Memory.slice_store_self]
      refine (Memory.slice_congr fun i hi => ?_).trans hread
      -- the other records lie behind this one
      exact Memory.store_of_lt (Nat.add_lt_add_left hi a)
    · exact ih _ _ hx

section

variable {p : β → Prop} [DecidablePred p] {start : ℕ}

theorem next_eq_none_iff :
    next size p start a bs = none ↔ ∀ x ∈ placed size a bs, start ≤ x.1 → ¬ p x.2 := by
  rw [next, List.find?_eq_none]
  simp

theorem mem_of_next_eq_some (h : next size p start a bs = some x) :
    x ∈ placed size a bs ∧ start ≤ x.1 ∧ p x.2 := by
  have hx := List.find?_some h
  simp only [decide_eq_true_eq] at hx
  exact ⟨List.mem_of_find?_eq_some h, hx⟩

/-- The records before the first one do not have the property. -/
theorem not_of_next_eq_some (h : next size p start a bs = some x) (hy : y ∈ placed size a bs)
    (hstart : start ≤ y.1) (hlt : y.1 < x.1) : ¬ p y.2 := by
  obtain ⟨-, before, behind, hsplit, hbefore⟩ := List.find?_eq_some_iff_append.1 h
  have hpairwise := pairwise_placed size a bs
  rw [hsplit, List.pairwise_append] at hpairwise
  rw [hsplit] at hy
  rcases List.mem_append.1 hy with hy | hy
  · simpa [hstart] using hbefore y hy
  · rcases List.mem_cons.1 hy with rfl | hy
    · exact absurd hlt (Nat.lt_irrefl _)
    · -- what comes behind has a higher address
      have hle := List.rel_of_pairwise_cons hpairwise.2.1 hy
      omega

/-- The first record, from an address on, that has a property. -/
theorem next_eq_some (hpos : ∀ b, 0 < size b) (hx : x ∈ placed size a bs) (hstart : start ≤ x.1)
    (hp : p x.2) (hfirst : ∀ y ∈ placed size a bs, start ≤ y.1 → y.1 < x.1 → ¬ p y.2) :
    next size p start a bs = some x := by
  cases h : next size p start a bs with
  | none => exact absurd hp (next_eq_none_iff.1 h x hx hstart)
  | some y =>
    obtain ⟨hy, hstart', hp'⟩ := mem_of_next_eq_some h
    rcases Nat.lt_trichotomy x.1 y.1 with hlt | heq | hlt
    · exact absurd hp (not_of_next_eq_some h hx hstart hlt)
    · rw [eq_of_mem_placed hx hy hpos heq]
    · exact absurd hp' (hfirst y hy hstart' hlt)

variable (p a bs) in
/-- From the first address on, the search is that of the list. -/
theorem map_snd_next : (next size p a a bs).map Prod.snd = bs.find? p := by
  have hall : next size p a a bs = (placed size a bs).find? ((fun b => decide (p b)) ∘ Prod.snd) := by
    refine List.find?_congr fun x hx => ?_
    simp [le_of_mem_placed hx]
  rw [hall, ← List.find?_map, map_snd_placed]

end

end Interaction
