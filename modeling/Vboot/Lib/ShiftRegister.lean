import Mathlib.Logic.Function.Iterate
import Mathlib.Tactic.Common

/-! Checksums that are made by a linear shift register, one bit at a time. Such a register is linear, so
whether an error is seen depends on the bits that change and not on the message. -/
namespace Vboot.Lib

structure ShiftRegister (n : Nat) where
  step : BitVec n → BitVec n
  tap : BitVec n
  step_xor : ∀ a b, step (a ^^^ b) = step a ^^^ step b

namespace ShiftRegister
variable {n : Nat} (r : ShiftRegister n)

def shiftIn (s : BitVec n) (b : Bool) : BitVec n := r.step s ^^^ if b then r.tap else 0#n

def absorb (s : BitVec n) (bits : List Bool) : BitVec n := bits.foldl r.shiftIn s

/-- What is left of a one after k more bits. -/
def echo (k : Nat) : BitVec n := r.step^[k] r.tap

/-- How many bits come after each one. -/
def ones : List Bool → List Nat
  | [] => []
  | b :: bits => if b then bits.length :: ones bits else ones bits

def sum (l : List (BitVec n)) : BitVec n := l.foldr (· ^^^ ·) 0#n
variable (s : BitVec n) (k : Nat) (bits : List Bool)

theorem iterate_xor (a b : BitVec n) : r.step^[k] (a ^^^ b) = r.step^[k] a ^^^ r.step^[k] b := by
  induction k generalizing a b with
  | zero => rfl
  | succ k ih => rw [Function.iterate_succ_apply, r.step_xor, ih]; rfl

theorem iterate_zero : r.step^[k] 0#n = 0#n := by
  have h := r.iterate_xor k 0#n 0#n
  rwa [BitVec.xor_self, BitVec.xor_self] at h

/-- The register adds up what is left of its first value and of the ones. -/
theorem absorb_eq : r.absorb s bits = r.step^[bits.length] s ^^^ sum ((ones bits).map r.echo) := by
  induction bits generalizing s with
  | nil => exact BitVec.xor_zero.symm
  | cons b bits ih =>
    have hrest : r.absorb s (b :: bits) = r.absorb (r.shiftIn s b) bits := rfl
    rw [hrest, ih, shiftIn, iterate_xor, List.length_cons, Function.iterate_succ_apply, ones]
    cases b with
    | false => rw [if_neg Bool.false_ne_true, if_neg Bool.false_ne_true, iterate_zero, BitVec.xor_zero]
    | true => rw [if_pos rfl, if_pos rfl, BitVec.xor_assoc]; rfl

theorem absorb_zero : r.absorb 0#n bits = sum ((ones bits).map r.echo) := by
  rw [absorb_eq, iterate_zero, BitVec.zero_xor]

theorem absorb_of_zero : r.absorb s bits = r.step^[bits.length] s ^^^ r.absorb 0#n bits := by
  rw [absorb_zero, absorb_eq]

theorem absorb_append (a b : List Bool) : r.absorb s (a ++ b) = r.absorb (r.absorb s a) b :=
  List.foldl_append

theorem shiftIn_xor (t : BitVec n) (a b : Bool) :
    r.shiftIn (s ^^^ t) (a ^^ b) = r.shiftIn s a ^^^ r.shiftIn t b := by
  have htap : (if a ^^ b then r.tap else 0#n) = (if a then r.tap else 0#n) ^^^ if b then r.tap else 0#n := by
    cases a <;> cases b <;> simp
  rw [shiftIn, shiftIn, shiftIn, r.step_xor, htap]
  ac_rfl

/-- The difference of two messages leaves the difference of what they leave. -/
theorem absorb_xor {s t : BitVec n} {a b : List Bool} (h : a.length = b.length) :
    r.absorb (s ^^^ t) (List.zipWith (· ^^ ·) a b) = r.absorb s a ^^^ r.absorb t b := by
  induction a generalizing s t b with
  | nil =>
    obtain rfl := List.length_eq_zero_iff.mp h.symm
    rfl
  | cons x a ih =>
    cases b with
    | nil => cases h
    | cons y b =>
      change r.absorb (r.shiftIn (s ^^^ t) (x ^^ y)) (List.zipWith _ a b) = _
      rw [shiftIn_xor]
      exact ih (Nat.succ.inj h)

theorem length_ones : (ones bits).length = bits.count true := by
  induction bits with
  | nil => rfl
  | cons b bits ih => cases b <;> simp [ones, ih]

theorem ones_lt {bits : List Bool} {k : Nat} (h : k ∈ ones bits) : k < bits.length := by
  induction bits with
  | nil => cases h
  | cons b bits ih =>
    cases b with
    | false => exact Nat.lt_succ_of_lt (ih h)
    | true =>
      cases List.mem_cons.mp h with
      | inl heq => exact heq ▸ Nat.lt_succ_self _
      | inr hmem => exact Nat.lt_succ_of_lt (ih hmem)

theorem head_of_ones {b : Bool} {bits : List Bool} {l : List Nat} (h : ones (b :: bits) = bits.length :: l) :
    b = true := by
  cases b with
  | true => rfl
  | false =>
    have hmem : bits.length ∈ ones bits := by
      change ones bits = _ at h
      exact h ▸ List.mem_cons_self
    exact absurd (ones_lt hmem) (Nat.lt_irrefl _)

theorem ones_decreasing : (ones bits).Pairwise (· > ·) := by
  induction bits with
  | nil => exact List.Pairwise.nil
  | cons b bits ih =>
    cases b with
    | false => exact ih
    | true => exact List.pairwise_cons.mpr ⟨fun _ h => ones_lt h, ih⟩

def parity (s : BitVec n) : Bool := (List.range n).foldr (fun i p => s.getLsbD i ^^ p) false

theorem parity_zero : parity 0#n = false := by
  unfold parity
  induction List.range n with
  | nil => rfl
  | cons i is ih => rw [List.foldr_cons, ih, BitVec.getLsbD_zero, Bool.xor_false]

theorem parity_xor (a b : BitVec n) : parity (a ^^^ b) = (parity a ^^ parity b) := by
  unfold parity
  induction List.range n with
  | nil => rfl
  | cons i is ih =>
    rw [List.foldr_cons, List.foldr_cons, List.foldr_cons, ih, BitVec.getLsbD_xor, Bool.xor_assoc, Bool.xor_assoc,
      Bool.xor_left_comm (b.getLsbD i)]

variable {r}

theorem parity_echo (hstep : ∀ s, parity (r.step s) = parity s) (k : Nat) :
    parity (r.echo k) = parity r.tap := by
  unfold echo
  induction k with
  | zero => rfl
  | succ k ih => rw [Function.iterate_succ_apply', hstep, ih]

/-- A register that keeps the parity of its value sees one, two or three changed bits, unless two of
them leave the same. -/
theorem absorb_ne_zero (hstep : ∀ s, parity (r.step s) = parity s) (htap : parity r.tap = true)
    {bits : List Bool} (hpos : 1 ≤ bits.count true) (hle : bits.count true ≤ 3)
    (hpair : ∀ i j, ones bits = [j, i] → r.echo j ≠ r.echo i) : r.absorb 0#n bits ≠ 0#n := by
  have hecho (k : Nat) : parity (r.echo k) = true := (parity_echo hstep k).trans htap
  rw [← length_ones] at hpos hle
  rw [absorb_zero]
  intro h
  have hparity := congrArg parity h
  rw [parity_zero] at hparity
  cases hones : ones bits with
  | nil => rw [hones] at hpos; cases hpos
  | cons i l =>
    cases l with
    | nil => simp [hones, sum, hecho] at hparity
    | cons j l =>
      cases l with
      | nil =>
        rw [hones] at h
        have hij : r.echo i ^^^ (r.echo j ^^^ 0#n) = 0#n := h
        rw [BitVec.xor_zero] at hij
        exact hpair j i hones (BitVec.xor_eq_zero_iff.mp hij)
      | cons k l =>
        have hl : l = [] := by
          rw [hones, List.length_cons, List.length_cons, List.length_cons] at hle
          exact List.length_eq_zero_iff.mp (by omega)
        simp [hones, hl, sum, parity_xor, hecho] at hparity

end ShiftRegister
end Vboot.Lib
