import Vboot.Lib.Program

/-! Programs whose state keeps a log of events, with the rules by which the events of a program
that returns are found from its parts. The log changes nothing else: without it the program does
the same. -/
namespace Vboot.Lib.Program

variable {ε S S' E α β : Type} {log : S → List E} {f : S → S'} {s : S}

/-- From state s the program x returns a value and adds events to the log, and these and the state
that it leaves satisfy Q. Seen through f, it does what y does. -/
def Traces (log : S → List E) (f : S → S') (x : Program ε S α) (y : Program ε S' α) (s : S)
    (Q : α → List E → S → Prop) : Prop :=
  ∃ a es, (x s).1 = .ok a ∧ y (f s) = (.ok a, f (x s).2) ∧ log (x s).2 = log s ++ es ∧ Q a es (x s).2

variable {x : Program ε S α} {y : Program ε S' α} {Q : α → List E → S → Prop}

theorem Traces.mono {Q' : α → List E → S → Prop} (h : Traces log f x y s Q)
    (hq : ∀ a es s', Q a es s' → Q' a es s') : Traces log f x y s Q' := by
  obtain ⟨a, es, hr, hy, hl, h⟩ := h
  exact ⟨a, es, hr, hy, hl, hq a es _ h⟩

theorem traces_pure {a : α} (h : Q a [] s) : Traces log f (pure a : Program ε S α) (pure a) s Q :=
  ⟨a, [], rfl, rfl, (List.append_nil _).symm, h⟩

section
variable {g : α → Program ε S β} {h : α → Program ε S' β} {R : β → List E → S → Prop}

theorem Traces.bind (hx : Traces log f x y s Q)
    (hg : ∀ a es s', Q a es s' → Traces log f (g a) (h a) s' fun b es' s'' => R b (es ++ es') s'') :
    Traces log f (x >>= g) (y >>= h) s R := by
  obtain ⟨a, es, hr, hy, hl, hq⟩ := hx
  obtain ⟨b, es', hr', hy', hl', hq'⟩ := hg a es _ hq
  have hrun : (x >>= g) s = g a (x s).2 := bind_of_ok (Prod.ext hr rfl)
  refine ⟨b, es ++ es', ?_, ?_, ?_, ?_⟩
  · rw [hrun, hr']
  · rw [bind_of_ok hy, hrun, hy']
  · rw [hrun, hl', hl, List.append_assoc]
  · rw [hrun]
    exact hq'

theorem Traces.silent_bind (hx : Traces log f x y s fun _ es _ => es = [])
    (hg : ∀ a s', Traces log f (g a) (h a) s' R) : Traces log f (x >>= g) (y >>= h) s R := by
  refine hx.bind fun a es s' hes => ?_
  subst hes
  exact hg a s'

end

theorem Traces.ite {c : Prop} [Decidable c] {x' : Program ε S α} {y' : Program ε S' α}
    (hx : c → Traces log f x y s Q) (hx' : ¬ c → Traces log f x' y' s Q) :
    Traces log f (if c then x else x') (if c then y else y') s Q := by
  split_ifs with h
  · exact hx h
  · exact hx' h

theorem Traces.doIf {c : Bool} {x : Program ε S Unit} {y : Program ε S' Unit} {Q : Unit → List E → S → Prop}
    (hx : c = true → Traces log f x y s Q) (hp : c = false → Q () [] s) :
    Traces log f (doIf c x) (doIf c y) s Q := by
  cases c with
  | true => exact hx rfl
  | false => exact traces_pure (hp rfl)

end Vboot.Lib.Program
