import Vboot.Lib.Mem
import Vboot.Lib.Program

/-! Programs over a memory that record which bytes they read and write. -/
namespace Vboot.Lib

structure Access where
  write : Bool
  start : Nat
  size : Nat
  deriving DecidableEq, Repr

/-- A memory and the accesses to it so far. -/
structure Traced where
  mem : Mem
  accesses : List Access

/-- Look at some bytes of the memory. -/
def readAt {ε α : Type} (start size : Nat) (view : Mem → α) : Program ε Traced α := fun s =>
  (.ok (view s.mem), ⟨s.mem, s.accesses ++ [⟨false, start, size⟩]⟩)

/-- Overwrite some bytes of the memory. -/
def writeAt {ε : Type} (start size : Nat) (bytes : List UInt8) : Program ε Traced Unit := fun s =>
  (.ok (), ⟨s.mem.store start bytes, s.accesses ++ [⟨true, start, size⟩]⟩)

/-- End with an error if the condition holds. -/
def refuse {ε S : Type} (c : Prop) [Decidable c] (e : ε) : Program ε S Unit :=
  if c then throw e else pure ()

def Access.Below (bound : Nat) (a : Access) : Prop := a.size = 0 ∨ a.start + a.size ≤ bound

instance (bound : Nat) (a : Access) : Decidable (a.Below bound) := inferInstanceAs (Decidable (_ ∨ _))

/-- Between two states there were only reads below the bound. -/
structure Reads (bound : Nat) (s s' : Traced) : Prop where
  mem : s'.mem = s.mem
  accesses : ∃ as, s'.accesses = s.accesses ++ as ∧ ∀ a ∈ as, a.write = false ∧ a.Below bound

section
variable {ε α β : Type} {bound : Nat}

instance : Std.Refl (Reads bound) :=
  ⟨fun s => ⟨rfl, [], (List.append_nil s.accesses).symm, fun _ h => by cases h⟩⟩

theorem Reads.trans {s s' s'' : Traced} (h : Reads bound s s') (h' : Reads bound s' s'') :
    Reads bound s s'' := by
  obtain ⟨as, ha, hb⟩ := h.accesses
  obtain ⟨as', ha', hb'⟩ := h'.accesses
  refine ⟨h'.mem.trans h.mem, as ++ as', by rw [ha', ha, List.append_assoc], fun a hmem => ?_⟩
  cases List.mem_append.mp hmem with
  | inl hm => exact hb a hm
  | inr hm => exact hb' a hm

instance : IsTrans Traced (Reads bound) := ⟨fun _ _ _ => Reads.trans⟩

theorem readAt_reads {start size : Nat} (h : start + size ≤ bound) (view : Mem → α) (s : Traced) :
    Reads bound s (readAt start size view s : Except ε α × Traced).2 := by
  refine ⟨rfl, _, rfl, fun a hmem => ?_⟩
  obtain rfl := List.mem_singleton.mp hmem
  exact ⟨rfl, .inr h⟩

namespace Program

/-- Over the memory m the program only reads below the bound, and a result that it returns is one the
memory allows. -/
def Inspects (bound : Nat) (m : Mem) (x : Program ε Traced α) (Q : α → Prop) : Prop :=
  ∀ s : Traced, s.mem = m → Reads bound s (x s).2 ∧ ∀ a, (x s).1 = .ok a → Q a

variable {m : Mem} {Q : α → Prop} {P : β → Prop} {x : Program ε Traced α} {f : α → Program ε Traced β}
  {start size : Nat} {view : Mem → α} {c : Prop} {e : ε}

theorem Inspects.mono {Q' : α → Prop} (h : x.Inspects bound m Q) (hq : ∀ a, Q a → Q' a) :
    x.Inspects bound m Q' :=
  fun s hs => ⟨(h s hs).1, fun a ha => hq a ((h s hs).2 a ha)⟩

theorem inspects_pure {a : α} (h : Q a) : Inspects bound m (pure a : Program ε Traced α) Q := by
  intro s _
  refine ⟨refl s, fun b hb => ?_⟩
  obtain rfl := Except.ok.inj hb
  exact h

theorem inspects_throw (e : ε) : Inspects bound m (throw e : Program ε Traced α) Q :=
  fun s _ => ⟨refl s, fun _ h => by cases h⟩

theorem Inspects.bind (h : x.Inspects bound m Q) (hf : ∀ a, Q a → (f a).Inspects bound m P) :
    Inspects bound m (x >>= f) P := by
  intro s hs
  obtain ⟨hr, ha⟩ := h s hs
  cases hx : x s with
  | mk r s₁ =>
  rw [hx] at hr ha
  cases r with
  | error e =>
    rw [bind_of_error hx]
    exact ⟨hr, fun _ h => by cases h⟩
  | ok a =>
    obtain ⟨hr', hp⟩ := hf a (ha a rfl) s₁ (hr.mem.trans hs)
    rw [bind_of_ok hx]
    exact ⟨hr.trans hr', hp⟩

theorem inspects_readAt (h : start + size ≤ bound) :
    Inspects bound m (readAt start size view : Program ε Traced α) (· = view m) := by
  intro s hs
  refine ⟨readAt_reads h view s, fun _ ha => ?_⟩
  rw [← hs]
  exact (Except.ok.inj ha).symm

theorem inspects_readAt_bind (h : start + size ≤ bound) (hf : (f (view m)).Inspects bound m P) :
    Inspects bound m (readAt start size view >>= f) P := by
  refine (inspects_readAt h).bind fun a ha => ?_
  rw [ha]
  exact hf

theorem inspects_refuse_bind [Decidable c] {f : Unit → Program ε Traced β}
    (hf : ¬c → (f ()).Inspects bound m P) : Inspects bound m (refuse c e >>= f) P := by
  unfold refuse
  split_ifs with h
  · exact inspects_throw e
  · exact hf h

theorem inspects_refuse [Decidable c] :
    Inspects bound m (refuse c e : Program ε Traced Unit) fun _ => ¬c := by
  unfold refuse
  split_ifs with h
  · exact inspects_throw e
  · exact inspects_pure h

def Returns (m : Mem) (x : Program ε Traced α) (Q : α → Prop) : Prop :=
  ∀ s : Traced, s.mem = m → ∀ a, (x s).1 = .ok a → Q a

theorem Inspects.returns_bind (h : x.Inspects bound m Q) (hf : ∀ a, Q a → (f a).Returns m P) :
    Returns m (x >>= f) P := by
  intro s hs b hb
  obtain ⟨hr, ha⟩ := h s hs
  cases hx : x s with
  | mk r s₁ =>
  rw [hx] at hr ha
  cases r with
  | error e =>
    rw [bind_of_error hx] at hb
    cases hb
  | ok a =>
    rw [bind_of_ok hx] at hb
    exact hf a (ha a rfl) s₁ (hr.mem.trans hs) b hb

theorem returns_pure {a : α} (h : Q a) : Returns m (pure a : Program ε Traced α) Q := by
  intro s _ b hb
  obtain rfl := Except.ok.inj hb
  exact h

theorem returns_throw (e : ε) : Returns m (throw e : Program ε Traced α) Q := fun _ _ _ h => by cases h

theorem returns_readAt_bind (hf : (f (view m)).Returns m P) :
    Returns m (readAt start size view >>= f) P := by
  refine (inspects_readAt (Nat.le_refl (start + size))).returns_bind fun a ha => ?_
  rw [ha]
  exact hf

theorem returns_refuse_bind [Decidable c] {f : Unit → Program ε Traced β} (hf : ¬c → (f ()).Returns m P) :
    Returns m (refuse c e >>= f) P := by
  unfold refuse
  split_ifs with h
  · exact returns_throw e
  · exact hf h

/-- The result of a program that is run for its effect says nothing. -/
theorem returns_then {b : β} (h : P b) : Returns m (x >>= fun _ => pure b) P := by
  intro s _ c hc
  cases hx : x s with
  | mk r s₁ =>
  cases r with
  | error e =>
    rw [bind_of_error hx] at hc
    cases hc
  | ok a =>
    rw [bind_of_ok hx] at hc
    obtain rfl := Except.ok.inj hc
    exact h

/-- Over the memory m the accesses of the program all satisfy B exactly if P holds. -/
def Accesses (B : Access → Prop) (m : Mem) (x : Program ε Traced α) (P : Prop) : Prop :=
  ∀ s : Traced, s.mem = m → ∃ as, (x s).2.accesses = s.accesses ++ as ∧ ((∀ a ∈ as, B a) ↔ P)

section
variable {B : Access → Prop} {P q : Prop}

theorem accesses_nil (h : ∀ s, (x s).2.accesses = s.accesses) : Accesses B m x (∀ a ∈ [], B a) :=
  fun s _ => ⟨[], (h s).trans (List.append_nil _).symm, Iff.rfl⟩

theorem accesses_cons {m' : Mem} {a : Access} {y : Program ε Traced α} (h : Accesses B m' y P)
    (hy : ∀ s, s.mem = m → x s = y ⟨m', s.accesses ++ [a]⟩) : Accesses B m x (B a ∧ P) := by
  intro s hs
  obtain ⟨as, has, hp⟩ := h ⟨m', s.accesses ++ [a]⟩ rfl
  refine ⟨a :: as, ?_, List.forall_mem_cons.trans (and_congr_right' hp)⟩
  rw [hy s hs, has, List.append_assoc]
  rfl

theorem accesses_readAt_bind (h : (f (view m)).Accesses B m P) :
    Accesses B m (readAt start size view >>= f) (B ⟨false, start, size⟩ ∧ P) :=
  accesses_cons h fun s hs => by rw [← hs]; rfl

variable {f : Unit → Program ε Traced β}

theorem accesses_writeAt_bind {bytes : List UInt8}
    (h : ∀ m', (f ()).Accesses B m' P) :
    Accesses B m (writeAt start size bytes >>= f) (B ⟨true, start, size⟩ ∧ P) :=
  accesses_cons (h (m.store start bytes)) fun s hs => by rw [← hs]; rfl

theorem accesses_refuse [Decidable c] :
    Accesses B m (refuse c e : Program ε Traced Unit) (∀ a ∈ [], B a) := by
  apply accesses_nil
  unfold refuse
  split_ifs <;> exact fun _ => rfl

theorem accesses_refuse_bind [Decidable c] (hq : ¬c ↔ q)
    (h : (f ()).Accesses B m P) : Accesses B m (refuse c e >>= f) (q → P) := by
  intro s hs
  unfold refuse
  split_ifs with hc
  · refine ⟨[], (List.append_nil _).symm, iff_of_true (List.forall_mem_nil B) fun h => ?_⟩
    exact absurd hc (hq.mpr h)
  · obtain ⟨as, has, hp⟩ := h s hs
    exact ⟨as, has, hp.trans ⟨fun h _ => h, fun h => h (hq.mp hc)⟩⟩

theorem Accesses.then {b : β} (h : x.Accesses B m P) : Accesses B m (x >>= fun _ => pure b) P := by
  intro s hs
  obtain ⟨as, has, hp⟩ := h s hs
  cases hx : x s with
  | mk r s₁ =>
  rw [hx] at has
  refine ⟨as, ?_, hp⟩
  cases r with
  | error e => rw [bind_of_error hx, has]
  | ok a =>
    rw [bind_of_ok hx]
    exact has

end

end Program
end
end Vboot.Lib
