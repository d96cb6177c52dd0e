import Mathlib.Data.Nat.Notation
import Mathlib.Tactic.Common

/-!
# Cutting a list into blocks

`Blocked n l blocks last` cuts a list into blocks of length `n` and a last block that is not empty
and not longer.  Every non-empty list is cut in exactly one way.

* `Blocked.exists_blocks` : there is a way to cut a list.
* `Blocked.unique` : there is only one.
* `Blocked.of_le`, `Blocked.eq_cons` : what it is, from the front of the list.
-/

namespace Interaction

variable {α : Type} {n : ℕ} {l last : List α} {blocks : List (List α)}

/-- The list `l` is cut into `blocks` of length `n` and a last block. -/
structure Blocked (n : ℕ) (l : List α) (blocks : List (List α)) (last : List α) : Prop where
  /-- Nothing is lost. -/
  flatten_eq : blocks.flatten ++ last = l
  /-- All blocks but the last are full. -/
  length_eq : ∀ b ∈ blocks, b.length = n
  /-- The last block is not empty. -/
  last_pos : 0 < last.length
  /-- The last block is not longer than the others. -/
  last_le : last.length ≤ n

namespace Blocked

theorem single (hpos : 0 < l.length) (hle : l.length ≤ n) : Blocked n l [] l :=
  ⟨rfl, by simp, hpos, hle⟩

theorem cons (h : Blocked n l blocks last) {b : List α} (hb : b.length = n) :
    Blocked n (b ++ l) (b :: blocks) last := by
  refine ⟨by simp [h.flatten_eq], fun c hc => ?_, h.last_pos, h.last_le⟩
  rcases List.mem_cons.1 hc with rfl | hc
  · exact hb
  · exact h.length_eq c hc

/-- A list of at most `n` elements is its only block. -/
theorem of_le (h : Blocked n l blocks last) (hle : l.length ≤ n) : blocks = [] ∧ last = l := by
  cases blocks with
  | nil => exact ⟨rfl, by simpa using h.flatten_eq⟩
  | cons b blocks =>
    have hb : b.length = n := h.length_eq b (by simp)
    have hlen := congrArg List.length h.flatten_eq
    have hpos := h.last_pos
    simp only [List.flatten_cons, List.length_append] at hlen
    omega

/-- A longer list starts with a full block. -/
theorem eq_cons (h : Blocked n l blocks last) (hlt : n < l.length) :
    ∃ rest, blocks = l.take n :: rest ∧ Blocked n (l.drop n) rest last := by
  cases blocks with
  | nil =>
    have hlen := congrArg List.length h.flatten_eq
    have hle := h.last_le
    simp only [List.flatten_nil, List.nil_append] at hlen
    omega
  | cons b blocks =>
    have hb : b.length = n := h.length_eq b (by simp)
    have hl : b ++ (blocks.flatten ++ last) = l := by simpa using h.flatten_eq
    refine ⟨blocks, by rw [← hl, List.take_left' hb], ?_⟩
    rw [← hl, List.drop_left' hb]
    exact ⟨rfl, fun c hc => h.length_eq c (by simp [hc]), h.last_pos, h.last_le⟩

theorem exists_blocks (hn : 0 < n) (hl : l ≠ []) : ∃ blocks last, Blocked n l blocks last := by
  induction hlen : l.length using Nat.strongRecOn generalizing l with
  | ind k ih =>
    have hpos : 0 < l.length := List.length_pos_iff.2 hl
    by_cases hle : l.length ≤ n
    · exact ⟨[], l, single hpos hle⟩
    · have hdrop : (l.drop n).length = l.length - n := List.length_drop
      obtain ⟨blocks, last, h⟩ := ih (l.drop n).length (by omega)
        (List.length_pos_iff.1 (show 0 < (l.drop n).length by omega)) rfl
      have htake : (l.take n).length = n := by rw [List.length_take]; omega
      refine ⟨l.take n :: blocks, last, ?_⟩
      rw [← List.take_append_drop n l, List.take_left' htake]
      exact h.cons htake

theorem unique (h : Blocked n l blocks last) {blocks' : List (List α)} {last' : List α}
    (h' : Blocked n l blocks' last') : blocks = blocks' ∧ last = last' := by
  induction blocks generalizing l blocks' with
  | nil =>
    have hle : l.length ≤ n := by
      rw [← h.flatten_eq]
      simpa using h.last_le
    obtain ⟨rfl, rfl⟩ := h'.of_le hle
    exact ⟨rfl, by simpa using h.flatten_eq⟩
  | cons b blocks ih =>
    have hlt : n < l.length := by
      by_contra hle
      exact absurd (h.of_le (Nat.not_lt.1 hle)).1 (by simp)
    obtain ⟨rest, heq, hrest⟩ := h.eq_cons hlt
    obtain ⟨rest', rfl, hrest'⟩ := h'.eq_cons hlt
    obtain ⟨rfl, rfl⟩ := List.cons.inj heq
    obtain ⟨rfl, rfl⟩ := ih hrest hrest'
    exact ⟨rfl, rfl⟩

end Blocked

end Interaction
