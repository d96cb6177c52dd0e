import IpmiFeature.Generic.Basic

/-!
# Writing to TempData

What `storeTemp` does to the array and to `BmcStatus` behind it, and the command that
`buildCommand` puts there.
-/

namespace IpmiFeature

open Interaction

namespace Generic

variable {inst : IpmiBmcInstanceData} {off : ℕ} {values : List UInt8}

/-! ### The array and what follows it -/

/-- The bytes of the array and of `BmcStatus` after a write. -/
theorem temp_storeTemp {i : ℕ} (hi : i < maxTempData + 4) :
    (inst.storeTemp off values).temp i = inst.temp.store off values i := by
  by_cases hlt : i < maxTempData
  · rw [IpmiBmcInstanceData.temp, dif_pos hlt]
    rfl
  · rw [IpmiBmcInstanceData.temp, dif_neg hlt]
    change byteOf (wordOf (inst.temp.store off values) maxTempData) (i - maxTempData) = _
    rw [byteOf_wordOf _ _ (by omega), Nat.add_sub_cancel' (Nat.not_lt.1 hlt)]

/-- A slice inside the array after a write. -/
theorem slice_temp_storeTemp {a n : ℕ} (h : a + n ≤ maxTempData) :
    (inst.storeTemp off values).temp.slice a n = (inst.temp.store off values).slice a n :=
  Memory.slice_congr fun i hi => temp_storeTemp (by omega)

/-- A write inside the array changes nothing else. -/
theorem storeTemp_eq (h : off + values.length ≤ maxTempData) :
    inst.storeTemp off values =
      { inst with tempData := fun i => inst.temp.store off values i } := by
  have hstatus : wordOf (inst.temp.store off values) maxTempData = inst.bmcStatus := by
    rw [← wordOf_byteOf inst.bmcStatus]
    refine wordOf_congr fun i hi => ?_
    rw [Memory.store_of_le (by omega), IpmiBmcInstanceData.temp, dif_neg (by omega),
      Nat.add_sub_cancel_left, Nat.zero_add]
  rw [IpmiBmcInstanceData.storeTemp, hstatus]

/-- Two adjacent writes are one. -/
theorem storeTemp_append (ws : List UInt8) :
    (inst.storeTemp off values).storeTemp (off + values.length) ws =
      inst.storeTemp off (values ++ ws) := by
  have hbytes : ∀ i < maxTempData + 4,
      (inst.storeTemp off values).temp.store (off + values.length) ws i =
        inst.temp.store off (values ++ ws) i := by
    intro i hi
    rw [Memory.store_congr (temp_storeTemp hi), Memory.store_append]
  have hstatus : wordOf ((inst.storeTemp off values).temp.store (off + values.length) ws)
      maxTempData = wordOf (inst.temp.store off (values ++ ws)) maxTempData :=
    wordOf_congr fun i hi => hbytes _ (by omega)
  have htemp : ∀ i : Fin maxTempData,
      (inst.storeTemp off values).temp.store (off + values.length) ws i =
        inst.temp.store off (values ++ ws) i := fun i => hbytes i (by omega)
  exact IpmiBmcInstanceData.ext rfl rfl rfl (funext htemp) hstatus rfl rfl rfl

/-! ### The command -/

/-- The bytes of a command. -/
def commandBytes (args : CommandArgs UInt8) : List UInt8 :=
  [commandHeader args.netFunction args.lun, args.command] ++
    match args.commandData with
    | none => []
    | some commandData => commandData.slice 0 args.commandDataSize.toNat

theorem buildCommand_eq (args : CommandArgs UInt8) :
    buildCommand args inst = inst.storeTemp 0 (commandBytes args) := by
  unfold buildCommand commandBytes
  cases args.commandData with
  | none => rfl
  | some commandData =>
    by_cases hpos : args.commandDataSize > 0
    · dsimp only
      rw [if_pos hpos]
      have hheader : ipmiCommandHeaderSize.toNat =
          0 + [commandHeader args.netFunction args.lun, args.command].length := rfl
      rw [hheader, storeTemp_append]
    · have hzero : args.commandDataSize.toNat = 0 :=
        Nat.eq_zero_of_not_pos fun h => hpos (UInt8.lt_iff_toNat_lt.2 h)
      dsimp only
      rw [if_neg hpos, hzero]
      rfl

end Generic

end IpmiFeature
