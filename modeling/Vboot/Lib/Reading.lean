import Vboot.Lib.Access
import Vboot.Lib.Check
import Vboot.Lib.Endian

/-! Computations that only look at a memory. The rest of a computation gets nothing but the bytes that
were read, so that what is not in the footprint cannot matter. -/
namespace Vboot.Lib

inductive Reading (ε α : Type) where
  | done (a : α)
  | fail (e : ε)
  | read (start size : Nat) (next : List UInt8 → Reading ε α)

namespace Reading
variable {ε α β : Type}

protected def bind (x : Reading ε α) (f : α → Reading ε β) : Reading ε β := match x with
  | done a => f a
  | fail e => fail e
  | read start size next => read start size fun bytes => (next bytes).bind f

instance : Monad (Reading ε) where
  pure := done
  bind := Reading.bind

def bytesAt (start size : Nat) : Reading ε (List UInt8) := read start size done

def word32 (start : Nat) : Reading ε UInt32 := read start 4 fun bytes => done (le32 (Mem.ofList bytes) 0)

def refuse (c : Prop) [Decidable c] (e : ε) : Reading ε Unit := if c then fail e else done ()

def result (m : Mem) : Reading ε α → Except ε α
  | done a => .ok a
  | fail e => .error e
  | read start size next => (next (m.load start size)).result m

def footprint (m : Mem) : Reading ε α → List Access
  | done _ => []
  | fail _ => []
  | read start size next => ⟨false, start, size⟩ :: (next (m.load start size)).footprint m

variable (m : Mem)

@[simp] theorem result_pure (a : α) : (pure a : Reading ε α).result m = .ok a := rfl

@[simp] theorem result_bind (x : Reading ε α) (f : α → Reading ε β) :
    (x >>= f).result m = x.result m >>= fun a => (f a).result m := by
  induction x with
  | done a => rfl
  | fail e => rfl
  | read start size next ih => exact ih _

@[simp] theorem result_bytesAt (start size : Nat) :
    (bytesAt start size : Reading ε _).result m = .ok (m.load start size) := rfl

@[simp] theorem result_word32 (start : Nat) : (word32 start : Reading ε _).result m = .ok (le32 m start) := by
  refine congrArg Except.ok (le32_congr fun i hi => ?_)
  rw [Nat.zero_add]
  exact Mem.getD_load m start 4 i 0 hi

@[simp] theorem result_refuse (c : Prop) [Decidable c] (e : ε) : (refuse c e).result m = reject c e := by
  unfold refuse reject
  split_ifs <;> rfl

def Only (P : Access → Prop) (x : Reading ε α) : Prop := ∀ a ∈ x.footprint m, P a

variable {m} {P : Access → Prop}

theorem only_bind {x : Reading ε α} {f : α → Reading ε β} :
    (x >>= f).Only m P ↔ x.Only m P ∧ ∀ a, x.result m = .ok a → (f a).Only m P := by
  induction x with
  | done a =>
    constructor
    · rintro h
      exact ⟨fun _ hmem => absurd hmem List.not_mem_nil, fun b hb => Except.ok.inj hb ▸ h⟩
    · exact fun h => h.2 a rfl
  | fail e =>
    exact iff_of_true (fun _ hmem => absurd hmem List.not_mem_nil)
      ⟨fun _ hmem => absurd hmem List.not_mem_nil, fun _ h => by cases h⟩
  | read start size next ih =>
    have hstep {γ : Type} (next : List UInt8 → Reading ε γ) : (read start size next).Only m P ↔
        P ⟨false, start, size⟩ ∧ (next (m.load start size)).Only m P := List.forall_mem_cons
    rw [hstep, and_assoc]
    exact (hstep fun bytes => (next bytes).bind f).trans (and_congr_right fun _ => ih _)

variable {start size : Nat}

theorem only_bytesAt : (bytesAt start size : Reading ε _).Only m P ↔ P ⟨false, start, size⟩ :=
  List.forall_mem_singleton

theorem only_word32 : (word32 start : Reading ε _).Only m P ↔ P ⟨false, start, 4⟩ :=
  List.forall_mem_singleton

theorem only_refuse {c : Prop} [Decidable c] {e : ε} : (refuse c e).Only m P := by
  unfold refuse
  split_ifs <;> exact fun _ h => absurd h List.not_mem_nil

theorem only_bytesAt_bind {f : List UInt8 → Reading ε β} :
    (bytesAt start size >>= f).Only m P ↔ P ⟨false, start, size⟩ ∧ (f (m.load start size)).Only m P := by
  rw [only_bind, only_bytesAt, result_bytesAt]
  exact and_congr_right fun _ => ⟨fun h => h _ rfl, fun h a ha => Except.ok.inj ha ▸ h⟩

theorem only_word32_bind {f : UInt32 → Reading ε β} :
    (word32 start >>= f).Only m P ↔ P ⟨false, start, 4⟩ ∧ (f (le32 m start)).Only m P := by
  rw [only_bind, only_word32, result_word32]
  exact and_congr_right fun _ => ⟨fun h => h _ rfl, fun h a ha => Except.ok.inj ha ▸ h⟩

theorem only_refuse_bind {c : Prop} [Decidable c] {e : ε} {f : Unit → Reading ε β} :
    (refuse c e >>= f).Only m P ↔ (¬c → (f ()).Only m P) := by
  rw [only_bind, result_refuse]
  refine ⟨fun h hc => h.2 () (reject_eq_ok.mpr hc), fun h => ⟨only_refuse, fun a ha => h (reject_eq_ok.mp ha)⟩⟩

end Reading
end Vboot.Lib
