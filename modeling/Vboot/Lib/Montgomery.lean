import Mathlib.Data.Int.ModEq
import Mathlib.Tactic.Ring
import Mathlib.Tactic.Linarith

/-! Montgomery multiplication modulo n, one digit in base β at a time. R is a power of β. -/
namespace Vboot.Lib

variable {n β R : Nat}

theorem montgomery_digit {inv t : Nat} (hinv : β ∣ inv * n + 1) :
    β ∣ t + t * inv % β * n := by
  have h : t + t * inv % β * n ≡ t + t * inv * n [MOD β] :=
    Nat.ModEq.add_left t ((Nat.mod_modEq (t * inv) β).mul_right n)
  have hd : t + t * inv * n ≡ 0 [MOD β] := by
    rw [Nat.modEq_zero_iff_dvd]
    have : t + t * inv * n = t * (inv * n + 1) := by ring
    rw [this]
    exact Dvd.dvd.mul_left hinv t
  exact Nat.modEq_zero_iff_dvd.mp (h.trans hd)

theorem montgomery_bound {c a b d q : Nat} (hc : c < R) (hb : b < R) (ha : a < β) (hd : d < β)
    (h : β * q = c + a * b + d * n) (hn : 0 < n) : q < R + n := by
  have hab : a * b ≤ (β - 1) * (R - 1) := Nat.mul_le_mul (by omega) (by omega)
  have hdn : d * n ≤ (β - 1) * n := Nat.mul_le_mul_right n (by omega)
  obtain ⟨β, rfl⟩ : ∃ k, β = k + 1 := ⟨β - 1, by omega⟩
  obtain ⟨R, rfl⟩ : ∃ k, R = k + 1 := ⟨R - 1, by omega⟩
  simp only [Nat.add_sub_cancel] at hab hdn
  by_contra hq
  have hle : (β + 1) * (R + 1 + n) ≤ (β + 1) * q := Nat.mul_le_mul_left _ (by omega)
  rw [h] at hle
  nlinarith

/-- The residues that a number stands for when it is multiplied by R. -/
def Represents (n R x v : Nat) : Prop := x ≡ v * R [MOD n]

theorem Represents.mul {x y u v z : Nat} (hR : Nat.Coprime n R) (hx : Represents n R x u)
    (hy : Represents n R y v) (hz : z * R ≡ x * y [MOD n]) : Represents n R z (u * v) := by
  have h : z * R ≡ u * v * R * R [MOD n] := by
    refine hz.trans ((Nat.ModEq.mul hx hy).trans ?_)
    have : u * R * (v * R) = u * v * R * R := by ring
    rw [this]
  exact Nat.ModEq.cancel_right_of_coprime hR h

end Vboot.Lib
