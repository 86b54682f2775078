import Mathlib.Tactic.Common

/-! Computations with a fuel argument: the result of a run that ends does not
depend on how much fuel was left over. -/
namespace Vboot.Lib

variable {ε α β : Type*}

theorem ok_of_map {x : Except ε α} {g : α → β} {r : β} (h : x.map g = .ok r) :
    ∃ a, x = .ok a ∧ g a = r := by
  cases x with
  | error e => cases h
  | ok a => exact ⟨a, rfl, Except.ok.inj h⟩

def Returns (f : Nat → Except ε α) (r : α) : Prop := ∃ fuel, f fuel = .ok r

/-- More fuel does not change the result. -/
def Stable (f : Nat → Except ε α) : Prop := ∀ n m r, n ≤ m → f n = .ok r → f m = .ok r

theorem Returns.of_le {f : Nat → Except ε α} {r : α} (h : Returns f r) (hf : Stable f) (N : Nat) :
    ∃ m, N ≤ m ∧ f m = .ok r := by
  obtain ⟨n, hn⟩ := h
  exact ⟨max n N, Nat.le_max_right n N, hf n _ r (Nat.le_max_left n N) hn⟩

end Vboot.Lib
