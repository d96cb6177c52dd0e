import Mathlib.Data.List.Basic
import Mathlib.Data.Nat.Notation
import Mathlib.Tactic.Common

/-!
# Memory behind a pointer

`Memory V` is what a pointer gives access to: the value at each offset, inside the object it
points to and behind it.  A write past the end of the object is thus a write like any other, and
"the code stays inside the object" is a statement about the offsets that changed.

* `Memory.slice` : the values at `n` consecutive offsets.
* `Memory.store` : the memory after a list of values has been copied in.
* `Memory.foldl_store_shift` : moving values up by one in place.
-/

namespace Interaction

/-- The values of type `V` that a pointer gives access to, by offset. -/
abbrev Memory (V : Type) := ℕ → V

namespace Memory

variable {V : Type} (m : Memory V)

/-- The values at the offsets `off, …, off + n - 1`. -/
def slice (off n : ℕ) : List V := (List.range n).map fun i => m (off + i)

/-- The memory after the values `vs` have been copied to the offsets from `off` on. -/
def store (off : ℕ) (vs : List V) : Memory V :=
  fun i => if h : off ≤ i ∧ i < off + vs.length then vs[i - off] else m i

variable {m}

@[simp] theorem length_slice (off n : ℕ) : (m.slice off n).length = n := by simp [slice]

@[simp] theorem slice_zero (off : ℕ) : m.slice off 0 = [] := rfl

@[simp] theorem getElem_slice {off n i : ℕ} (h : i < (m.slice off n).length) :
    (m.slice off n)[i] = m (off + i) := by simp [slice]

theorem slice_congr {m' : Memory V} {off n : ℕ} (h : ∀ i < n, m (off + i) = m' (off + i)) :
    m.slice off n = m'.slice off n :=
  List.map_congr_left fun i hi => h i (List.mem_range.1 hi)

/-- Two slices are equal if and only if their values are. -/
theorem slice_eq_iff {m' : Memory V} {off off' n : ℕ} :
    m.slice off n = m'.slice off' n ↔ ∀ i < n, m (off + i) = m' (off' + i) := by
  rw [slice, slice, List.map_inj_left]
  simp only [List.mem_range]

/-- A part of a slice. -/
theorem slice_add {off k n l : ℕ} (h : k + n ≤ l) :
    m.slice (off + k) n = ((m.slice off l).drop k).take n := by
  apply List.ext_getElem
  · simp only [length_slice, List.length_take, List.length_drop]
    omega
  · intro i _ _
    simp [Nat.add_assoc]

theorem store_of_mem {off i : ℕ} {vs : List V} (h : i < vs.length) :
    m.store off vs (off + i) = vs[i] := by
  simp [store, h]

theorem store_of_lt {off i : ℕ} {vs : List V} (h : i < off) : m.store off vs i = m i := by
  rw [store, dif_neg (by omega)]

theorem store_of_le {off i : ℕ} {vs : List V} (h : off + vs.length ≤ i) :
    m.store off vs i = m i := by
  rw [store, dif_neg (by omega)]

theorem store_congr {m' : Memory V} {off i : ℕ} {vs : List V} (h : m i = m' i) :
    m.store off vs i = m'.store off vs i := by
  rw [store, store, h]

/-- Where values are copied to, nothing of the memory before is left. -/
theorem store_zero_eq_of_lt (m m' : Memory V) {i : ℕ} {vs : List V} (h : i < vs.length) :
    m.store 0 vs i = m'.store 0 vs i := by
  rw [store, store, dif_pos ⟨Nat.zero_le i, by omega⟩, dif_pos ⟨Nat.zero_le i, by omega⟩]

@[simp] theorem store_nil (off : ℕ) : m.store off [] = m := by
  funext i
  rw [store, dif_neg (by simp only [List.length_nil]; omega)]

/-- Reading back what was copied in. -/
@[simp] theorem slice_store_self (off : ℕ) (vs : List V) :
    (m.store off vs).slice off vs.length = vs := by
  apply List.ext_getElem
  · simp
  · intro i _ hi
    rw [getElem_slice, store_of_mem hi]

/-- Storing behind a slice makes it longer. -/
theorem slice_store_append (n : ℕ) (vs : List V) :
    (m.store n vs).slice 0 (n + vs.length) = m.slice 0 n ++ vs := by
  apply List.ext_getElem
  · simp
  · intro i hi _
    rw [length_slice] at hi
    rw [getElem_slice, Nat.zero_add]
    by_cases hlt : i < n
    · rw [store_of_lt hlt, List.getElem_append_left (by simpa using hlt), getElem_slice,
        Nat.zero_add]
    · obtain ⟨k, rfl⟩ := Nat.exists_eq_add_of_le (Nat.not_lt.1 hlt)
      have hk : k < vs.length := by omega
      rw [store_of_mem hk, List.getElem_append_right (by simp)]
      simp

/-- The case of one value. -/
theorem slice_store_concat (n : ℕ) (v : V) :
    (m.store n [v]).slice 0 (n + 1) = m.slice 0 n ++ [v] := slice_store_append n [v]

/-- A slice of what was copied in. -/
theorem slice_store_zero {off n : ℕ} {vs : List V} (h : off + n ≤ vs.length) :
    (m.store 0 vs).slice off n = (vs.drop off).take n := by
  apply List.ext_getElem
  · simp only [length_slice, List.length_take, List.length_drop]
    omega
  · intro i hi _
    rw [length_slice] at hi
    have hmem : off + i < vs.length := by omega
    have hread : m.store 0 vs (0 + (off + i)) = vs[off + i] := store_of_mem hmem
    simp [← hread]

/-- A slice at the end of what was copied in. -/
theorem slice_store_drop {k : ℕ} {vs : List V} (hk : k ≤ vs.length) :
    (m.store 0 vs).slice k (vs.length - k) = vs.drop k := by
  rw [slice_store_zero (by omega), ← List.length_drop, List.take_length]

/-- Two adjacent copies are one. -/
theorem store_append (off : ℕ) (vs ws : List V) :
    (m.store off vs).store (off + vs.length) ws = m.store off (vs ++ ws) := by
  funext i
  simp only [store, List.length_append]
  by_cases h₁ : off + vs.length ≤ i ∧ i < off + vs.length + ws.length
  · rw [dif_pos h₁, dif_pos (by omega), List.getElem_append_right (by omega)]
    congr 1
    omega
  · rw [dif_neg h₁]
    by_cases h₂ : off ≤ i ∧ i < off + vs.length
    · rw [dif_pos h₂, dif_pos (by omega), List.getElem_append_left (by omega)]
    · rw [dif_neg h₂, dif_neg (by omega)]

/-- A copy over a copy at the same place that is no longer. -/
theorem store_store_of_le (off : ℕ) {vs ws : List V} (h : vs.length ≤ ws.length) :
    (m.store off vs).store off ws = m.store off ws := by
  funext i
  by_cases hi : off ≤ i ∧ i < off + ws.length
  · rw [store, dif_pos hi, store, dif_pos hi]
  · rw [store, dif_neg hi, store, dif_neg (by omega), store, dif_neg hi]

/-- A copy over a longer one at the same place. -/
theorem store_store_of_ge {vs ws : List V} (h : ws.length ≤ vs.length) :
    (m.store 0 vs).store 0 ws = m.store 0 (ws ++ vs.drop ws.length) := by
  have hlength : (ws ++ vs.drop ws.length).length = vs.length := by
    rw [List.length_append, List.length_drop]
    omega
  funext i
  by_cases hi : i < ws.length
  · rw [store, dif_pos ⟨Nat.zero_le i, by omega⟩, store, dif_pos ⟨Nat.zero_le i, by omega⟩,
      List.getElem_append_left]
  · rw [store_of_le (by omega)]
    by_cases hi' : i < vs.length
    · rw [store, dif_pos ⟨Nat.zero_le i, by omega⟩, store, dif_pos ⟨Nat.zero_le i, by omega⟩,
        List.getElem_append_right (by omega), List.getElem_drop]
      congr 1
      omega
    · rw [store_of_le (by omega), store_of_le (by omega)]

/-- What is read after a copy over a buffer that has been filled with `v`. -/
theorem store_store_replicate {v : V} {n i : ℕ} (vs : List V) (hi : i < n) :
    (m.store 0 (List.replicate n v)).store 0 vs i = vs.getD i v := by
  rw [List.getD_eq_getElem?_getD]
  by_cases hlt : i < vs.length
  · rw [store, dif_pos ⟨Nat.zero_le i, by omega⟩, List.getElem?_eq_getElem hlt]
    rfl
  · rw [store_of_le (by omega), List.getElem?_eq_none (by omega), store,
      dif_pos ⟨Nat.zero_le i, by simpa using hi⟩, List.getElem_replicate]
    rfl

/-- A copy that changes nothing. -/
theorem store_zero_eq_self_iff {vs : List V} : m.store 0 vs = m ↔ m.slice 0 vs.length = vs := by
  constructor
  · intro h
    have hslice := slice_store_self (m := m) 0 vs
    rwa [h] at hslice
  · intro h
    funext i
    by_cases hi : i < vs.length
    · have hlt : i < (m.slice 0 vs.length).length := by rwa [length_slice]
      have hread : (m.slice 0 vs.length)[i] = m (0 + i) := getElem_slice hlt
      rw [store, dif_pos ⟨Nat.zero_le i, by omega⟩]
      simp only [h, Nat.zero_add] at hread
      simpa using hread
    · exact store_of_le (by omega)

/-- Storing in front of a copy. -/
theorem store_cons (off : ℕ) (v : V) (vs : List V) :
    (m.store (off + 1) vs).store off [v] = m.store off (v :: vs) := by
  funext i
  by_cases hoff : i = off
  · subst hoff
    simp [store]
  · by_cases hi : off + 1 ≤ i ∧ i < off + 1 + vs.length
    · obtain ⟨k, rfl⟩ := Nat.exists_eq_add_of_le hi.1
      have hk : k < vs.length := by omega
      have hcons : off + 1 + k = off + (k + 1) := by omega
      rw [store_of_le (by simp only [List.length_singleton]; omega), store_of_mem hk, hcons,
        store_of_mem (by simpa using hk)]
      rfl
    · rw [store, dif_neg (by simp only [List.length_singleton]; omega), store, dif_neg hi, store,
        dif_neg (by simp only [List.length_cons]; omega)]

theorem slice_succ (off n : ℕ) : m.slice off (n + 1) = m off :: m.slice (off + 1) n := by
  apply List.ext_getElem
  · simp
  · intro i hi _
    rw [getElem_slice]
    cases i with
    | zero => rfl
    | succ i =>
      rw [List.getElem_cons_succ, getElem_slice]
      congr 1
      omega

/-- Two adjacent slices are one. -/
theorem slice_append (off n k : ℕ) : m.slice off n ++ m.slice (off + n) k = m.slice off (n + k) := by
  induction n generalizing off with
  | zero => simp
  | succ n ih =>
    have hoff : off + (n + 1) = off + 1 + n := by omega
    rw [slice_succ, List.cons_append, hoff, ih, Nat.add_right_comm, slice_succ]

/-- Moving the values at the offsets `0, …, n - 2` up by one in place, from the last one on: after
`k` moves the last `k` values have reached their place. -/
theorem foldl_store_shift (m : Memory V) {n k : ℕ} (hk : k < n) :
    (List.range' 1 k).foldl (fun m i => m.store (n - i) [m (n - (i + 1))]) m =
      m.store (n - k) (m.slice (n - (k + 1)) k) := by
  induction k with
  | zero => simp
  | succ k ih =>
    have hplace : n - (1 + k) + 1 = n - k := by omega
    have hfrom : n - (k + 1 + 1) + 1 = n - (k + 1) := by omega
    rw [List.range'_1_concat, List.foldl_append, ih (by omega)]
    change (m.store (n - k) _).store (n - (1 + k)) [m.store (n - k) _ (n - (1 + k + 1))] = _
    -- the value that is moved lies below those that have been moved before
    rw [store_of_lt (by omega), ← hplace, store_cons, slice_succ, hfrom, Nat.add_comm 1 k]

end Memory

end Interaction
