import Vboot.Lib.Check
import Vboot.Lib.Program

/-! Programs whose success is decided by a condition: they succeed, with a known result and state, if
it holds, and fail if it does not. -/
namespace Vboot.Lib.Program

variable {ε S α β : Type}

/-- From state s the program succeeds exactly if P holds, and then with a result that satisfies Q. -/
structure Decides (x : Program ε S α) (s : S) (P : Prop) (Q : α → S → Prop) : Prop where
  accept : P → ∃ a s', x s = (.ok a, s') ∧ Q a s'
  refuse : ¬ P → ∃ e s', x s = (.error e, s')

namespace Decides
variable {x : Program ε S α} {s : S} {P P' : Prop} {Q Q' : α → S → Prop}

section
variable (h : x.Decides s P Q)
include h

theorem ok_iff : (∃ a s', x s = (.ok a, s')) ↔ P := by
  constructor
  · rintro ⟨a, s', hx⟩
    by_contra hp
    obtain ⟨e, s₁, he⟩ := h.refuse hp
    cases hx.symm.trans he
  · intro hp
    obtain ⟨a, s', hx, -⟩ := h.accept hp
    exact ⟨a, s', hx⟩

theorem isOk_iff : (x s).1.isOk = true ↔ P := by
  constructor
  · intro hok
    exact h.ok_iff.mp (ok_of_isOk hok)
  · intro hp
    obtain ⟨a, s', hx, -⟩ := h.accept hp
    rw [hx]
    rfl

theorem of_ok {a : α} {s' : S} (hx : x s = (.ok a, s')) : P ∧ Q a s' := by
  have hp := h.ok_iff.mp ⟨a, s', hx⟩
  obtain ⟨a₁, s₁, hx₁, hq⟩ := h.accept hp
  cases hx.symm.trans hx₁
  exact ⟨hp, hq⟩

theorem mono (hp : P ↔ P') (hq : P → ∀ a s', Q a s' → Q' a s') : x.Decides s P' Q' where
  accept h' := by
    obtain ⟨a, s', hx, hr⟩ := h.accept (hp.mpr h')
    exact ⟨a, s', hx, hq (hp.mpr h') a s' hr⟩
  refuse h' := h.refuse fun hc => h' (hp.mp hc)

end

theorem of_run_eq {y : Program ε S α} {s₁ : S} (h : y.Decides s₁ P Q) (hx : x s = y s₁) : x.Decides s P Q where
  accept hp := hx ▸ h.accept hp
  refuse hp := hx ▸ h.refuse hp

/-- The condition for the whole has the one for the first part in it, and decides the rest as well. -/
theorem seq {R : β → S → Prop} {f : α → Program ε S β} (h : x.Decides s P Q) (hp : P' → P)
    (hf : P → ∀ a s', Q a s' → (f a).Decides s' P' R) : Decides (x >>= f) s P' R where
  accept h' := by
    obtain ⟨a, s', hx, hq⟩ := h.accept (hp h')
    obtain ⟨b, s'', hfa, hr⟩ := (hf (hp h') a s' hq).accept h'
    exact ⟨b, s'', (bind_of_ok hx).trans hfa, hr⟩
  refuse hn := by
    by_cases hp : P
    · obtain ⟨a, s', hx, hq⟩ := h.accept hp
      obtain ⟨e, s'', hfa⟩ := (hf hp a s' hq).refuse hn
      exact ⟨e, s'', (bind_of_ok hx).trans hfa⟩
    · obtain ⟨e, s', hx⟩ := h.refuse hp
      exact ⟨e, s', bind_of_error hx⟩

theorem attempt_seq {δ : Type} {y : Program δ S α} {R : β → S → Prop} {f : Except δ α → Program ε S β}
    (h : y.Decides s P Q) (hp : P' → P) (hf : P → ∀ a s', Q a s' → (f (.ok a)).Decides s' P' R)
    (he : ∀ d s', ∃ e s'', f (.error d) s' = (.error e, s'')) : Decides (attempt y >>= f) s P' R where
  accept h' := by
    obtain ⟨a, s', hy, hq⟩ := h.accept (hp h')
    rw [attempt_bind, hy]
    exact (hf (hp h') a s' hq).accept h'
  refuse hn := by
    rw [attempt_bind]
    by_cases hp : P
    · obtain ⟨a, s', hy, hq⟩ := h.accept hp
      rw [hy]
      exact (hf hp a s' hq).refuse hn
    · obtain ⟨d, s', hy⟩ := h.refuse hp
      rw [hy]
      exact he d s'

end Decides

variable {P : Prop} {s : S} {Q : Unit → S → Prop}

theorem decides_of_run {x : Program ε S Unit}
    (h : (x s).1 = .ok () ↔ P) (hq : P → Q () (x s).2) : x.Decides s P Q where
  accept hp := ⟨(), (x s).2, Prod.ext (h.mpr hp) rfl, hq hp⟩
  refuse hp := by
    cases hx : (x s).1 with
    | ok a => exact absurd (h.mp hx) hp
    | error e => exact ⟨e, (x s).2, Prod.ext hx rfl⟩

theorem decides_pure {a : α} {Q : α → S → Prop} (hp : P) (hq : Q a s) :
    Decides (pure a : Program ε S α) s P Q where
  accept _ := ⟨a, s, rfl, hq⟩
  refuse h := absurd hp h

theorem decides_update {f : S → S} (hp : P) (hq : Q () (f s)) :
    Decides (update f : Program ε S Unit) s P Q where
  accept _ := ⟨(), f s, rfl, hq⟩
  refuse h := absurd hp h

variable {Q : β → S → Prop} {g : α → Program ε S β}

theorem decides_observe_bind {f : S → α}
    (h : (g (f s)).Decides s P Q) : Decides (observe f >>= g) s P Q :=
  ⟨h.accept, h.refuse⟩

theorem decides_update_bind {f : S → S} {g : Unit → Program ε S β}
    (h : (g ()).Decides (f s) P Q) : Decides (update f >>= g) s P Q :=
  ⟨h.accept, h.refuse⟩

theorem decides_inspect (f : S → Except ε α) (s : S) :
    Decides (inspect f) s (∃ a, f s = .ok a) fun a s' => f s = .ok a ∧ s' = s where
  accept := by
    rintro ⟨a, ha⟩
    exact ⟨a, s, inspect_ok.mpr ⟨ha, rfl⟩, ha, rfl⟩
  refuse h := by
    cases hf : f s with
    | ok a => exact absurd ⟨a, hf⟩ h
    | error e => exact ⟨e, s, Prod.ext hf rfl⟩

theorem decides_reject (c : S → Prop) [∀ s, Decidable (c s)] (e : ε) (s : S) :
    Decides (inspect fun s => reject (c s) e) s (¬ c s) fun _ s' => s' = s :=
  decides_of_run reject_eq_ok fun _ => rfl

theorem decides_inspect_bind {f : S → Except ε α} {a : α}
    (hf : f s = .ok a) (h : (g a).Decides s P Q) : Decides (inspect f >>= g) s P Q :=
  h.of_run_eq (inspect_bind_of_ok hf)

end Vboot.Lib.Program
