import Mathlib.Tactic.Common

/-! Sequences of checks that stop at the first failure. -/
namespace Vboot.Lib

variable {ε α β : Type}

def reject (c : Prop) [Decidable c] (e : ε) : Except ε Unit := if c then .error e else .ok ⟨⟩

variable {c : Prop} {e : ε} {k : Unit → Except ε α} {a : α}

@[simp] theorem reject_bind_eq_ok [Decidable c] : (reject c e >>= k) = .ok a ↔ ¬ c ∧ k ⟨⟩ = .ok a := by
  unfold reject
  by_cases h : c
  · simp [h, bind, Except.bind]
  · simp [h, bind, Except.bind]

@[simp] theorem reject_eq_ok [Decidable c] : reject c e = .ok ⟨⟩ ↔ ¬ c := by
  unfold reject
  by_cases h : c <;> simp [h]

theorem reject_bind_congr {d : Prop} [Decidable c] [Decidable d] {k' : Unit → Except ε α} (hc : c ↔ d)
    (h : ¬ c → k ⟨⟩ = k' ⟨⟩) : (reject c e >>= k) = (reject d e >>= k') := by
  unfold reject
  by_cases hcase : c
  · rw [if_pos hcase, if_pos (hc.mp hcase)]
    rfl
  · rw [if_neg hcase, if_neg (mt hc.mpr hcase)]
    exact h hcase

theorem reject_bind_of_not [Decidable c] (h : ¬ c) : (reject c e >>= k) = k ⟨⟩ := by
  rw [reject, if_neg h]
  rfl

/-- Fail with e if there is no value. -/
def require (o : Option α) (e : ε) : Except ε α := match o with
  | none => .error e
  | some a => .ok a

@[simp] theorem require_bind_eq_ok {o : Option β} {k : β → Except ε α} :
    (require o e >>= k) = .ok a ↔ ∃ b, o = some b ∧ k b = .ok a := by
  cases o <;> simp [require, bind, Except.bind]

theorem bind_eq_ok {x : Except ε β} {k : β → Except ε α} :
    (x >>= k) = .ok a ↔ ∃ b, x = .ok b ∧ k b = .ok a := by
  cases x <;> simp [bind, Except.bind]

end Vboot.Lib
