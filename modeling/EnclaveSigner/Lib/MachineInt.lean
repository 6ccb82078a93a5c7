import Mathlib.Algebra.Group.Nat.Defs
import Mathlib.Data.List.Basic

/-! # Machine integers

`UInt32` and `UInt64` wrap, as unsigned integers of a release build do. This
module adds the saturating and checked operations, and says of each operation
which natural number it computes.
-/

namespace EnclaveSigner.Lib

def satSub32 (a b : UInt32) : UInt32 := if b ≤ a then a - b else 0

def satSub64 (a b : UInt64) : UInt64 := if b ≤ a then a - b else 0

def checkedSub32 (a b : UInt32) : Option UInt32 := if b ≤ a then some (a - b) else none

def checkedSub64 (a b : UInt64) : Option UInt64 := if b ≤ a then some (a - b) else none

def satAdd64 (a b : UInt64) : UInt64 :=
  if a.toNat + b.toNat < 2 ^ 64 then a + b else UInt64.ofNat (2 ^ 64 - 1)

def checkedAdd32 (a b : UInt32) : Option UInt32 :=
  if a.toNat + b.toNat < 2 ^ 32 then some (a + b) else none

def checkedAdd64 (a b : UInt64) : Option UInt64 :=
  if a.toNat + b.toNat < 2 ^ 64 then some (a + b) else none

def checkedMul64 (a b : UInt64) : Option UInt64 :=
  if a.toNat * b.toNat < 2 ^ 64 then some (a * b) else none

theorem toNat_satSub32 (a b : UInt32) : (satSub32 a b).toNat = a.toNat - b.toNat := by
  unfold satSub32
  split
  · rename_i below
    exact UInt32.toNat_sub_of_le a b below
  · rename_i above
    rw [UInt32.le_iff_toNat_le] at above
    have nothing : a.toNat - b.toNat = 0 := by omega
    rw [nothing]
    rfl

theorem toNat_min32 (a b : UInt32) : (min a b).toNat = min a.toNat b.toNat := by
  change (if a ≤ b then a else b).toNat = _
  split
  · rename_i below
    rw [UInt32.le_iff_toNat_le] at below
    omega
  · rename_i above
    rw [UInt32.le_iff_toNat_le] at above
    omega

theorem toNat_max32 (a b : UInt32) : (max a b).toNat = max a.toNat b.toNat := by
  change (if a ≤ b then b else a).toNat = _
  split
  · rename_i below
    rw [UInt32.le_iff_toNat_le] at below
    omega
  · rename_i above
    rw [UInt32.le_iff_toNat_le] at above
    omega

theorem toNat_satAdd64 (a b : UInt64) :
    (satAdd64 a b).toNat = min (a.toNat + b.toNat) (2 ^ 64 - 1) := by
  unfold satAdd64
  split
  · rename_i fits
    rw [UInt64.toNat_add, Nat.mod_eq_of_lt fits]
    omega
  · rename_i above
    rw [UInt64.toNat_ofNat_of_lt' (by decide)]
    omega

theorem checkedSub32_eq_some {a b c : UInt32} :
    checkedSub32 a b = some c ↔ b.toNat ≤ a.toNat ∧ c.toNat = a.toNat - b.toNat := by
  unfold checkedSub32
  split
  · rename_i below
    have value := UInt32.toNat_sub_of_le a b below
    rw [UInt32.le_iff_toNat_le] at below
    simp only [Option.some.injEq, below, true_and, ← value, eq_comm (a := a - b),
      UInt32.toNat_inj]
  · rename_i above
    rw [UInt32.le_iff_toNat_le] at above
    constructor
    · intro impossible; cases impossible
    · intro below; exact absurd below.1 above

theorem checkedSub32_eq_none {a b : UInt32} :
    checkedSub32 a b = none ↔ a.toNat < b.toNat := by
  unfold checkedSub32
  split
  · rename_i below
    rw [UInt32.le_iff_toNat_le] at below
    constructor
    · intro impossible; cases impossible
    · intro above; exact absurd above (Nat.not_lt.mpr below)
  · rename_i above
    rw [UInt32.le_iff_toNat_le] at above
    exact ⟨fun _ => by omega, fun _ => rfl⟩

theorem toNat_add32 {a b : UInt32} (fits : a.toNat + b.toNat < 2 ^ 32) :
    (a + b).toNat = a.toNat + b.toNat := by
  rw [UInt32.toNat_add]
  exact Nat.mod_eq_of_lt fits

theorem toNat_add64 {a b : UInt64} (fits : a.toNat + b.toNat < 2 ^ 64) :
    (a + b).toNat = a.toNat + b.toNat := by
  rw [UInt64.toNat_add]
  exact Nat.mod_eq_of_lt fits

theorem checkedAdd64_eq_some {a b c : UInt64} :
    checkedAdd64 a b = some c ↔ c.toNat = a.toNat + b.toNat := by
  unfold checkedAdd64
  split
  · rename_i fits
    rw [Option.some.injEq, ← UInt64.toNat_inj, toNat_add64 fits]
    exact eq_comm
  · rename_i full
    have bound := c.toNat_lt
    constructor
    · intro impossible
      cases impossible
    · intro same
      omega

theorem checkedAdd64_eq_none {a b : UInt64} :
    checkedAdd64 a b = none ↔ 2 ^ 64 ≤ a.toNat + b.toNat := by
  unfold checkedAdd64
  split
  · rename_i fits
    simp only [reduceCtorEq, false_iff]
    omega
  · rename_i full
    simp only [true_iff]
    omega

theorem checkedMul64_eq_some {a b c : UInt64} :
    checkedMul64 a b = some c ↔ c.toNat = a.toNat * b.toNat := by
  unfold checkedMul64
  split
  · rename_i fits
    rw [Option.some.injEq, ← UInt64.toNat_inj, UInt64.toNat_mul, Nat.mod_eq_of_lt fits]
    exact eq_comm
  · rename_i full
    have bound := c.toNat_lt
    constructor
    · intro impossible
      cases impossible
    · intro same
      omega

theorem toNat_min64 (a b : UInt64) : (min a b).toNat = min a.toNat b.toNat := by
  change (if a ≤ b then a else b).toNat = _
  split
  · rename_i below
    rw [UInt64.le_iff_toNat_le] at below
    omega
  · rename_i above
    rw [UInt64.le_iff_toNat_le] at above
    omega

theorem toNat_max64 (a b : UInt64) : (max a b).toNat = max a.toNat b.toNat := by
  change (if a ≤ b then b else a).toNat = _
  split
  · rename_i below
    rw [UInt64.le_iff_toNat_le] at below
    omega
  · rename_i above
    rw [UInt64.le_iff_toNat_le] at above
    omega

theorem toNat_sub32 {a b : UInt32} (below : b.toNat ≤ a.toNat) :
    (a - b).toNat = a.toNat - b.toNat :=
  UInt32.toNat_sub_of_le a b (UInt32.le_iff_toNat_le.mpr below)

theorem toNat_ofNat32 {n : Nat} (fits : n < 2 ^ 32) : (UInt32.ofNat n).toNat = n := by
  rw [UInt32.toNat_ofNat']
  exact Nat.mod_eq_of_lt fits

theorem toNat_ofNat64 {n : Nat} (fits : n < 2 ^ 64) : (UInt64.ofNat n).toNat = n := by
  rw [UInt64.toNat_ofNat']
  exact Nat.mod_eq_of_lt fits

end EnclaveSigner.Lib
