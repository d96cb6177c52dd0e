import IpmiFeature.Interaction.Memory
import Mathlib.Algebra.Group.Nat.Defs

/-!
# Words in memory

A 32-bit word and its four bytes, least significant byte first, and a 64-bit word and its eight.

* `byteOf`, `wordOf` : the bytes of a word, and the word that four bytes make; `byteOfShort` and
  `shortOf` are the same for 16 bits, `byteOfLong` and `longOf` for 64 bits.
* `wordOf_byteOf`, `byteOf_wordOf` : taking a word apart and putting it together again.
* `toNat_add_byte`, `toNat_succ_long` : sums without overflow.
* `toNat_setLowByte` : the value of a word after its first byte has been overwritten.
* `or_and_byte`, `and_and_byte` : reading some of the bits of a byte that is put together from
  others.
* `and_one_bits` : reading the lowest bit, for all widths.
-/

namespace Interaction

/-- The bytes of a word. -/
def byteOf (w : UInt32) : Memory UInt8 := fun i => UInt8.ofNat (w.toNat / 256 ^ i)

/-- The word at an offset. -/
def wordOf (m : Memory UInt8) (off : ℕ) : UInt32 :=
  UInt32.ofNat ((m off).toNat + 256 * (m (off + 1)).toNat + 256 ^ 2 * (m (off + 2)).toNat +
    256 ^ 3 * (m (off + 3)).toNat)

/-- The bytes of a 16-bit word. -/
def byteOfShort (w : UInt16) : Memory UInt8 := fun i => UInt8.ofNat (w.toNat / 256 ^ i)

/-- The 16-bit word at an offset. -/
def shortOf (m : Memory UInt8) (off : ℕ) : UInt16 :=
  UInt16.ofNat ((m off).toNat + 256 * (m (off + 1)).toNat)

/-- The bytes of a 64-bit word. -/
def byteOfLong (w : UInt64) : Memory UInt8 := fun i => UInt8.ofNat (w.toNat / 256 ^ i)

/-- The 64-bit word at an offset. -/
def longOf (m : Memory UInt8) (off : ℕ) : UInt64 :=
  UInt64.ofNat ((m off).toNat + 256 * (m (off + 1)).toNat + 256 ^ 2 * (m (off + 2)).toNat +
    256 ^ 3 * (m (off + 3)).toNat + 256 ^ 4 * (m (off + 4)).toNat + 256 ^ 5 * (m (off + 5)).toNat +
    256 ^ 6 * (m (off + 6)).toNat + 256 ^ 7 * (m (off + 7)).toNat)

/-- The word after its first byte has been overwritten. -/
def setLowByte (w : UInt32) (b : UInt8) : UInt32 := wordOf ((byteOf w).store 0 [b]) 0

/-- A sum of bytes that is one. -/
theorem toNat_add_byte {a b : UInt8} (h : a.toNat + b.toNat < 256) :
    (a + b).toNat = a.toNat + b.toNat := by
  rw [UInt8.toNat_add]
  exact Nat.mod_eq_of_lt h

/-- A counter below a bound can be increased. -/
theorem toNat_succ_long {a b : UInt64} (h : a < b) : (a + 1).toNat = a.toNat + 1 := by
  have hlt : a.toNat < b.toNat := UInt64.lt_iff_toNat_lt.1 h
  have hbound : b.toNat < 2 ^ 64 := b.toNat_lt
  have hone : (1 : UInt64).toNat = 1 := rfl
  rw [UInt64.toNat_add, hone]
  exact Nat.mod_eq_of_lt (by omega)

theorem toNat_byteOf (w : UInt32) (i : ℕ) : (byteOf w i).toNat = w.toNat / 256 ^ i % 256 :=
  UInt8.toNat_ofNat'

theorem toNat_wordOf (m : Memory UInt8) (off : ℕ) :
    (wordOf m off).toNat = (m off).toNat + 256 * (m (off + 1)).toNat +
      256 ^ 2 * (m (off + 2)).toNat + 256 ^ 3 * (m (off + 3)).toNat := by
  have h₀ : (m off).toNat < 256 := (m off).toNat_lt
  have h₁ : (m (off + 1)).toNat < 256 := (m (off + 1)).toNat_lt
  have h₂ : (m (off + 2)).toNat < 256 := (m (off + 2)).toNat_lt
  have h₃ : (m (off + 3)).toNat < 256 := (m (off + 3)).toNat_lt
  exact UInt32.toNat_ofNat_of_lt' (show _ < 4294967296 by omega)

theorem wordOf_congr {m m' : Memory UInt8} {off off' : ℕ}
    (h : ∀ i < 4, m (off + i) = m' (off' + i)) : wordOf m off = wordOf m' off' := by
  unfold wordOf
  rw [h 1 (by decide), h 2 (by decide), h 3 (by decide)]
  have h₀ : m off = m' off' := h 0 (by decide)
  rw [h₀]

theorem wordOf_byteOf (w : UInt32) : wordOf (byteOf w) 0 = w := by
  have hw : w.toNat < 4294967296 := w.toNat_lt
  apply UInt32.toNat_inj.1
  rw [toNat_wordOf]
  simp only [toNat_byteOf]
  omega

theorem byteOf_wordOf (m : Memory UInt8) (off : ℕ) {i : ℕ} (hi : i < 4) :
    byteOf (wordOf m off) i = m (off + i) := by
  have h₀ : (m off).toNat < 256 := (m off).toNat_lt
  have h₁ : (m (off + 1)).toNat < 256 := (m (off + 1)).toNat_lt
  have h₂ : (m (off + 2)).toNat < 256 := (m (off + 2)).toNat_lt
  have h₃ : (m (off + 3)).toNat < 256 := (m (off + 3)).toNat_lt
  apply UInt8.toNat_inj.1
  rw [toNat_byteOf, toNat_wordOf]
  obtain rfl | rfl | rfl | rfl : i = 0 ∨ i = 1 ∨ i = 2 ∨ i = 3 := by omega
  · change _ / 256 ^ 0 % 256 = (m off).toNat
    rw [Nat.pow_zero, Nat.div_one]
    omega
  all_goals omega

theorem byteOfLong_longOf (m : Memory UInt8) (off : ℕ) {i : ℕ} (hi : i < 8) :
    byteOfLong (longOf m off) i = m (off + i) := by
  have h₀ : (m off).toNat < 256 := (m off).toNat_lt
  have h₁ : (m (off + 1)).toNat < 256 := (m (off + 1)).toNat_lt
  have h₂ : (m (off + 2)).toNat < 256 := (m (off + 2)).toNat_lt
  have h₃ : (m (off + 3)).toNat < 256 := (m (off + 3)).toNat_lt
  have h₄ : (m (off + 4)).toNat < 256 := (m (off + 4)).toNat_lt
  have h₅ : (m (off + 5)).toNat < 256 := (m (off + 5)).toNat_lt
  have h₆ : (m (off + 6)).toNat < 256 := (m (off + 6)).toNat_lt
  have h₇ : (m (off + 7)).toNat < 256 := (m (off + 7)).toNat_lt
  have hlong : (longOf m off).toNat = (m off).toNat + 256 * (m (off + 1)).toNat +
      256 ^ 2 * (m (off + 2)).toNat + 256 ^ 3 * (m (off + 3)).toNat +
      256 ^ 4 * (m (off + 4)).toNat + 256 ^ 5 * (m (off + 5)).toNat +
      256 ^ 6 * (m (off + 6)).toNat + 256 ^ 7 * (m (off + 7)).toNat :=
    UInt64.toNat_ofNat_of_lt' (show _ < 18446744073709551616 by omega)
  have hbyte : (byteOfLong (longOf m off) i).toNat = (longOf m off).toNat / 256 ^ i % 256 :=
    UInt8.toNat_ofNat'
  apply UInt8.toNat_inj.1
  rw [hbyte, hlong]
  obtain rfl | rfl | rfl | rfl | rfl | rfl | rfl | rfl :
      i = 0 ∨ i = 1 ∨ i = 2 ∨ i = 3 ∨ i = 4 ∨ i = 5 ∨ i = 6 ∨ i = 7 := by omega
  · change _ / 256 ^ 0 % 256 = (m off).toNat
    rw [Nat.pow_zero, Nat.div_one]
    omega
  all_goals omega

theorem toNat_byteOfShort (w : UInt16) (i : ℕ) :
    (byteOfShort w i).toNat = w.toNat / 256 ^ i % 256 := UInt8.toNat_ofNat'

theorem toNat_shortOf (m : Memory UInt8) (off : ℕ) :
    (shortOf m off).toNat = (m off).toNat + 256 * (m (off + 1)).toNat := by
  have h₀ : (m off).toNat < 256 := (m off).toNat_lt
  have h₁ : (m (off + 1)).toNat < 256 := (m (off + 1)).toNat_lt
  exact UInt16.toNat_ofNat_of_lt' (show _ < 65536 by omega)

theorem shortOf_byteOfShort (w : UInt16) : shortOf (byteOfShort w) 0 = w := by
  have hw : w.toNat < 65536 := w.toNat_lt
  apply UInt16.toNat_inj.1
  rw [toNat_shortOf]
  simp only [toNat_byteOfShort]
  omega

theorem byteOfShort_shortOf (m : Memory UInt8) (off : ℕ) {i : ℕ} (hi : i < 2) :
    byteOfShort (shortOf m off) i = m (off + i) := by
  have h₀ : (m off).toNat < 256 := (m off).toNat_lt
  have h₁ : (m (off + 1)).toNat < 256 := (m (off + 1)).toNat_lt
  apply UInt8.toNat_inj.1
  rw [toNat_byteOfShort, toNat_shortOf]
  obtain rfl | rfl : i = 0 ∨ i = 1 := by omega
  · change _ / 256 ^ 0 % 256 = (m off).toNat
    rw [Nat.pow_zero, Nat.div_one]
    omega
  · omega

/-- The bytes of the word at an offset are those at the offset. -/
theorem slice_byteOf_wordOf (m : Memory UInt8) (off : ℕ) :
    (byteOf (wordOf m off)).slice 0 4 = m.slice off 4 := by
  refine List.map_congr_left fun i hi => ?_
  rw [Nat.zero_add]
  exact byteOf_wordOf m off (List.mem_range.1 hi)

theorem slice_byteOfShort_shortOf (m : Memory UInt8) (off : ℕ) :
    (byteOfShort (shortOf m off)).slice 0 2 = m.slice off 2 := by
  refine List.map_congr_left fun i hi => ?_
  rw [Nat.zero_add]
  exact byteOfShort_shortOf m off (List.mem_range.1 hi)

theorem shortOf_congr {m m' : Memory UInt8} {off off' : ℕ} (hlow : m off = m' off')
    (hhigh : m (off + 1) = m' (off' + 1)) : shortOf m off = shortOf m' off' := by
  unfold shortOf
  rw [hlow, hhigh]

theorem longOf_congr {m m' : Memory UInt8} {off off' : ℕ}
    (h : ∀ i < 8, m (off + i) = m' (off' + i)) : longOf m off = longOf m' off' := by
  unfold longOf
  rw [h 1 (by decide), h 2 (by decide), h 3 (by decide), h 4 (by decide), h 5 (by decide),
    h 6 (by decide), h 7 (by decide)]
  have h₀ : m off = m' off' := h 0 (by decide)
  rw [h₀]

theorem longOf_byteOfLong (w : UInt64) : longOf (byteOfLong w) 0 = w := by
  have hw : w.toNat < 18446744073709551616 := w.toNat_lt
  have hbyte : ∀ i, (byteOfLong w i).toNat = w.toNat / 256 ^ i % 256 := fun i => UInt8.toNat_ofNat'
  apply UInt64.toNat_inj.1
  rw [longOf, UInt64.toNat_ofNat']
  simp only [hbyte]
  omega

/-- A word at an offset, by its bytes. -/
theorem shortOf_eq_iff {m : Memory UInt8} {off : ℕ} {w : UInt16} :
    shortOf m off = w ↔ m.slice off 2 = (byteOfShort w).slice 0 2 := by
  constructor
  · rintro rfl
    exact (slice_byteOfShort_shortOf m off).symm
  · intro h
    have hbytes := Memory.slice_eq_iff.1 h
    rw [← shortOf_byteOfShort w]
    exact shortOf_congr (hbytes 0 (by decide)) (hbytes 1 (by decide))

theorem longOf_eq_iff {m : Memory UInt8} {off : ℕ} {w : UInt64} :
    longOf m off = w ↔ m.slice off 8 = (byteOfLong w).slice 0 8 := by
  constructor
  · rintro rfl
    refine Memory.slice_eq_iff.2 fun i hi => ?_
    rw [Nat.zero_add, byteOfLong_longOf m off hi]
  · intro h
    rw [← longOf_byteOfLong w]
    exact longOf_congr (Memory.slice_eq_iff.1 h)

/-- Reading back a word that was copied in. -/
theorem longOf_store (m : Memory UInt8) (off : ℕ) (w : UInt64) :
    longOf (m.store off ((byteOfLong w).slice 0 8)) off = w :=
  longOf_eq_iff.2 (Memory.slice_store_self off ((byteOfLong w).slice 0 8))

theorem wordOf_store (m : Memory UInt8) (off : ℕ) (w : UInt32) :
    wordOf (m.store off ((byteOf w).slice 0 4)) off = w := by
  have hbytes := Memory.slice_eq_iff.1 (m.slice_store_self off ((byteOf w).slice 0 4))
  exact (wordOf_congr hbytes).trans (wordOf_byteOf w)

/-- Reading before what was copied in. -/
theorem wordOf_store_of_le (m : Memory UInt8) {off off' : ℕ} (h : off' + 4 ≤ off) (vs : List UInt8) :
    wordOf (m.store off vs) off' = wordOf m off' :=
  wordOf_congr fun _ _ => Memory.store_of_lt (by omega)

/-- Reading before a word that was copied in. -/
theorem longOf_store_of_le (m : Memory UInt8) {off off' : ℕ} (h : off' + 8 ≤ off) (w : UInt64) :
    longOf (m.store off ((byteOfLong w).slice 0 8)) off' = longOf m off' :=
  longOf_congr fun _ _ => Memory.store_of_lt (by omega)

/-- Some bits of a byte that is put together from two. -/
theorem or_and_byte (a b mask : UInt8) : (a ||| b) &&& mask = a &&& mask ||| b &&& mask :=
  UInt8.toBitVec_inj.1 BitVec.and_or_distrib_right

/-- Some bits of some bits. -/
theorem and_and_byte (a : UInt8) {mask mask' bits : UInt8} (h : mask &&& mask' = bits) :
    a &&& mask &&& mask' = a &&& bits := by
  rw [UInt8.and_assoc, h]

/-- A byte is put together from the bits of a mask and the rest. -/
theorem and_not_or_and_byte (x mask : UInt8) : x &&& ~~~mask ||| x &&& mask = x := by
  rw [UInt8.and_comm x, UInt8.and_comm x, ← or_and_byte, UInt8.not_or_self, UInt8.and_comm,
    UInt8.and_neg_one]

/-- Setting the bits of a mask changes nothing if they are as they are set. -/
theorem and_not_or_eq_iff_byte {mask v : UInt8} (hv : v &&& mask = v) (x : UInt8) :
    x &&& ~~~mask ||| v = x ↔ x &&& mask = v := by
  constructor
  · intro h
    have hread := congrArg (· &&& mask) h
    rw [or_and_byte, UInt8.and_assoc, UInt8.not_and_self, UInt8.and_zero, UInt8.zero_or, hv] at hread
    exact hread.symm
  · rintro rfl
    exact and_not_or_and_byte x mask

/-- Clearing the bits of a mask changes nothing if they are clear. -/
theorem and_not_eq_iff_byte (x mask : UInt8) : x &&& ~~~mask = x ↔ x &&& mask = 0 := by
  have h := and_not_or_eq_iff_byte (UInt8.zero_and : 0 &&& mask = 0) x
  rwa [UInt8.or_zero] at h

theorem or_and_long (a b mask : UInt64) : (a ||| b) &&& mask = a &&& mask ||| b &&& mask :=
  UInt64.toBitVec_inj.1 BitVec.and_or_distrib_right

/-- The bits of a mask, set and then cleared. -/
theorem or_and_not_long (x mask : UInt64) : (x ||| mask) &&& ~~~mask = x &&& ~~~mask := by
  rw [or_and_long, UInt64.and_not_self, UInt64.or_zero]

/-- The bits of a mask, set and then read. -/
theorem or_and_self_long (x mask : UInt64) : (x ||| mask) &&& mask = mask := by
  apply UInt64.toBitVec_inj.1
  ext i
  simp only [UInt64.toBitVec_and, UInt64.toBitVec_or, BitVec.getElem_and, BitVec.getElem_or]
  cases mask.toBitVec[i] <;> simp

/-- The bits of a mask, cleared and then read. -/
theorem and_not_and_long (x mask : UInt64) : x &&& ~~~mask &&& mask = 0 := by
  rw [UInt64.and_assoc, UInt64.not_and_self, UInt64.and_zero]

/-- A word is put together from the bits of a mask and the rest. -/
theorem and_not_or_and_long (x mask : UInt64) : x &&& ~~~mask ||| x &&& mask = x := by
  rw [UInt64.and_comm x, UInt64.and_comm x, ← or_and_long, UInt64.not_or_self, UInt64.and_comm,
    UInt64.and_neg_one]

/-- The lowest bit. -/
theorem and_one_bits {w : ℕ} (x : BitVec w) : x &&& 1#w = 0#w ∨ x &&& 1#w = 1#w := by
  rw [BitVec.and_one_eq_setWidth_ofBool_getLsbD]
  cases x.getLsbD 0 with
  | false => exact .inl (BitVec.eq_of_toNat_eq (by simp))
  | true => exact .inr (BitVec.eq_of_toNat_eq (by simp))

theorem and_one_byte (x : UInt8) : x &&& 1 = 0 ∨ x &&& 1 = 1 :=
  (and_one_bits x.toBitVec).imp UInt8.eq_of_toBitVec_eq UInt8.eq_of_toBitVec_eq

theorem and_one_short (x : UInt16) : x &&& 1 = 0 ∨ x &&& 1 = 1 :=
  (and_one_bits x.toBitVec).imp UInt16.eq_of_toBitVec_eq UInt16.eq_of_toBitVec_eq

theorem and_one_long (x : UInt64) : x &&& 1 = 0 ∨ x &&& 1 = 1 :=
  (and_one_bits x.toBitVec).imp UInt64.eq_of_toBitVec_eq UInt64.eq_of_toBitVec_eq

theorem toNat_setLowByte (w : UInt32) (b : UInt8) :
    (setLowByte w b).toNat = w.toNat / 256 * 256 + b.toNat := by
  have hw : w.toNat < 4294967296 := w.toNat_lt
  have hlow : (byteOf w).store 0 [b] 0 = b := by simp [Memory.store]
  have hhigh : ∀ i, 1 ≤ i → (byteOf w).store 0 [b] i = byteOf w i :=
    fun i hi => Memory.store_of_le (by simpa using hi)
  rw [setLowByte, toNat_wordOf, hlow, hhigh 1 (by decide), hhigh 2 (by decide),
    hhigh 3 (by decide)]
  simp only [toNat_byteOf]
  omega

end Interaction
