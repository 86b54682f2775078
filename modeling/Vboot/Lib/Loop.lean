import Mathlib.Tactic.Common

/-! Loops whose body says when to stop, with the rules for them: a measure that goes down shows
that they end, and an invariant of the body holds in every round and at the end. -/
namespace Vboot.Lib

variable {S : Type}

/-- Repeat the body until it says stop. The result is none if that has not happened after the
given number of rounds. -/
def repeatUntil (body : S → S × Bool) : Nat → S → Option S
  | 0, _ => none
  | n + 1, s =>
    match body s with
    | (s, true) => some s
    | (s, false) => repeatUntil body n s

section
variable {body : S → S × Bool} {s s' : S}

theorem repeatUntil_stop {n : Nat} (h : body s = (s', true)) :
    repeatUntil body (n + 1) s = some s' := by
  rw [repeatUntil, h]

theorem repeatUntil_continue {n : Nat} (h : body s = (s', false)) :
    repeatUntil body (n + 1) s = repeatUntil body n s' := by
  rw [repeatUntil, h]

theorem repeatUntil_isSome (measure : S → Nat)
    (hbody : ∀ s s', body s = (s', false) → measure s' < measure s) (n : Nat) (s : S)
    (h : measure s < n) : (repeatUntil body n s).isSome = true := by
  induction n generalizing s with
  | zero => omega
  | succ n ih =>
    cases hb : body s with
    | mk s' stop =>
      cases stop with
      | true => rw [repeatUntil_stop hb, Option.isSome_some]
      | false =>
        have hlt := hbody s s' hb
        rw [repeatUntil_continue hb]
        exact ih s' (by omega)

theorem repeatUntil_invariant {Inv Post : S → Prop}
    (hcont : ∀ s s', Inv s → body s = (s', false) → Inv s')
    (hstop : ∀ s s', Inv s → body s = (s', true) → Post s') (n : Nat) (s r : S) (h : Inv s)
    (hr : repeatUntil body n s = some r) : Post r := by
  induction n generalizing s with
  | zero => cases hr
  | succ n ih =>
    cases hb : body s with
    | mk s' stop =>
      cases stop with
      | true =>
        rw [repeatUntil_stop hb] at hr
        cases hr
        exact hstop s r h hb
      | false =>
        rw [repeatUntil_continue hb] at hr
        exact ih s' (hcont s s' h hb) hr

/-- The states in which a round of the loop starts. -/
inductive Visits (body : S → S × Bool) (s : S) : S → Prop where
  | start : Visits body s s
  | next {s' s'' : S} (h : Visits body s s') (hb : body s' = (s'', false)) : Visits body s s''

theorem Visits.invariant {Inv : S → Prop} (hcont : ∀ s s', Inv s → body s = (s', false) → Inv s')
    (h : Inv s) (hv : Visits body s s') : Inv s' := by
  induction hv with
  | start => exact h
  | next _ hb ih => exact hcont _ _ ih hb

end
end Vboot.Lib
