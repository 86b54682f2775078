import Mathlib.Data.UInt

/-! Flags in a 32-bit word. -/
namespace Vboot.Lib.Flags

variable {a b m : UInt32}

theorem or_and (a b m : UInt32) : (a ||| b) &&& m = a &&& m ||| b &&& m :=
  UInt32.toBitVec_inj.mp BitVec.and_or_distrib_right

theorem or_and_of_disjoint (h : b &&& m = 0) : (a ||| b) &&& m = a &&& m := by
  rw [or_and, h, UInt32.or_zero]

theorem or_and_self (a m : UInt32) : (a ||| m) &&& m = m := by
  apply UInt32.toBitVec_inj.mp
  ext i hi
  simp +contextual

theorem clear_and_self (a m : UInt32) : (a &&& ~~~m) &&& m = 0 := by
  rw [UInt32.and_assoc, UInt32.not_and_self, UInt32.and_zero]

theorem or_ne_zero (h : a &&& m ≠ 0) : (a ||| b) &&& m ≠ 0 := by
  intro h0
  rw [or_and, UInt32.or_eq_zero_iff] at h0
  exact h h0.1

end Vboot.Lib.Flags
