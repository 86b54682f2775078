import Mathlib.Data.List.Range

/-! Byte memories addressed from the start of a buffer. A C array or stack
buffer is the map from offsets to bytes; whether an offset lies inside the
object is a separate question, asked where it matters. -/
namespace Vboot.Lib

abbrev Mem := Nat → UInt8

namespace Mem

def load (m : Mem) (a n : Nat) : List UInt8 :=
  (List.range n).map fun i => m (a + i)

/-- Copy a byte string to offset a. -/
def store (m : Mem) (a : Nat) (bs : List UInt8) : Mem := fun x =>
  if a ≤ x then bs.getD (x - a) (m x) else m x

/-- A byte string, followed by zeroes. -/
def ofList (bs : List UInt8) : Mem := fun x => bs.getD x 0
variable (m : Mem) (a x n i : Nat) (bs : List UInt8)

@[simp] theorem length_load : (m.load a n).length = n := by
  simp [load]

theorem getD_load (d : UInt8) (h : i < n) : (m.load a n).getD i d = m (a + i) := by
  simp [load, h]

theorem ofList_load (h : i < n) : ofList (m.load 0 n) i = m i := by
  rw [ofList, getD_load m 0 n i 0 h, Nat.zero_add]

theorem load_ofList : (ofList bs).load 0 bs.length = bs := by
  apply List.ext_getElem (by simp)
  intro i h1 h2
  simp [load, ofList, h2]

theorem load_ofList_of_le {i n : Nat} (h : i + n ≤ bs.length) :
    (ofList bs).load i n = (bs.drop i).take n := by
  apply List.ext_getElem
  · simp
    omega
  · intro j h1 h2
    have hj : j < n := by simpa using h1
    have hij : i + j < bs.length := by omega
    simp [load, ofList, hij]

theorem load_congr {m m' : Mem} {a a' n : Nat} (h : ∀ i < n, m (a + i) = m' (a' + i)) :
    m.load a n = m'.load a' n := by
  apply List.map_congr_left
  intro i hi
  exact h i (List.mem_range.mp hi)

theorem load_eq_iff {m m' : Mem} {a a' n : Nat} :
    m.load a n = m'.load a' n ↔ ∀ i < n, m (a + i) = m' (a' + i) := by
  refine ⟨fun h i hi => ?_, load_congr⟩
  rw [← getD_load m a n i 0 hi, h, getD_load m' a' n i 0 hi]

theorem load_eq_of_le {m m' : Mem} {a a' k n : Nat} (hk : k ≤ n) (h : m.load a n = m'.load a' n) :
    m.load a k = m'.load a' k :=
  load_congr fun i hi => load_eq_iff.mp h i (by omega)

theorem store_of_lt (h : x < a) : m.store a bs x = m x := by
  simp [store, Nat.not_le_of_lt h]

theorem store_of_ge (h : a + bs.length ≤ x) : m.store a bs x = m x := by
  have hx : bs.length ≤ x - a := by omega
  simp [store, List.getElem?_eq_none hx]

theorem store_outside (h : x < a ∨ a + bs.length ≤ x) : m.store a bs x = m x :=
  h.elim (store_of_lt m a x bs) (store_of_ge m a x bs)

theorem store_congr {m m' : Mem} {x : Nat} (h : m x = m' x) : m.store a bs x = m'.store a bs x := by
  simp [store, h]

theorem store_overwrite (cs : List UInt8) (h : bs.length = cs.length) :
    (m.store a bs).store a cs = m.store a cs := by
  funext x
  by_cases hx : x < a ∨ a + cs.length ≤ x
  · rw [store_outside _ a x cs hx, store_outside m a x cs hx, store_outside m a x bs (by omega)]
  · have hlt : x - a < cs.length := by omega
    have hle : a ≤ x := by omega
    simp [store, List.getElem?_eq_getElem hlt, hle]

theorem store_inside (d : UInt8) (h : i < bs.length) : m.store a bs (a + i) = bs.getD i d := by
  simp [store, h]

theorem load_store (h : bs.length = n) : (m.store a bs).load a n = bs := by
  subst n
  apply List.ext_getElem (by simp)
  intro i h1 h2
  simp [load, store_inside m a i bs 0 h2, h2]

theorem load_store_disjoint (b n : Nat) (bs : List UInt8) (h : a + n ≤ b ∨ b + bs.length ≤ a) :
    (m.store b bs).load a n = m.load a n := by
  apply load_congr
  intro i hi
  cases h with
  | inl h => exact store_of_lt m b (a + i) bs (by omega)
  | inr h => exact store_of_ge m b (a + i) bs (by omega)

/-- Storing what is there changes nothing. -/
theorem store_load : m.store a (m.load a n) = m := by
  funext x
  by_cases hx : x < a ∨ a + n ≤ x
  · exact store_outside m a x _ (by rw [length_load]; exact hx)
  · obtain ⟨i, rfl⟩ : ∃ i, x = a + i := ⟨x - a, by omega⟩
    have hi : i < n := by omega
    rw [store_inside m a i _ 0 (by rw [length_load]; exact hi), getD_load m a n i 0 hi]

theorem store_cons (b : UInt8) (bs : List UInt8) :
    Mem.store (Function.update m a b) (a + 1) bs = m.store a (b :: bs) := by
  funext x
  rcases Nat.lt_trichotomy x a with h | h | h
  · rw [store_of_lt _ _ _ _ (by omega), store_of_lt _ _ _ _ h, Function.update_of_ne (by omega)]
  · subst x
    rw [store_of_lt _ _ _ _ (by omega)]
    simp [store]
  · obtain ⟨k, rfl⟩ : ∃ k, x = a + 1 + k := ⟨x - (a + 1), by omega⟩
    have hk : a + 1 + k - a = k + 1 := by omega
    simp [store, hk, show a ≤ a + 1 + k by omega, Function.update_of_ne (show a + 1 + k ≠ a by omega)]

theorem store_store (cs : List UInt8) :
    (m.store a bs).store (a + bs.length) cs = m.store a (bs ++ cs) := by
  induction bs generalizing m a with
  | nil =>
    funext x
    simp [store]
  | cons b bs ih =>
    rw [← store_cons, List.length_cons, show a + (bs.length + 1) = a + 1 + bs.length by omega,
      ih, store_cons]
    rfl

/-- Stores of several strings, one after the other. -/
def stores (m : Mem) (ws : List (Nat × List UInt8)) : Mem := ws.foldl (fun m w => m.store w.1 w.2) m

theorem load_stores {ws : List (Nat × List UInt8)} {a : Nat} {bs : List UInt8}
    (hapart : ∀ w ∈ ws, w = (a, bs) ∨ a + bs.length ≤ w.1 ∨ w.1 + w.2.length ≤ a)
    (h : (a, bs) ∈ ws ∨ m.load a bs.length = bs) : (m.stores ws).load a bs.length = bs := by
  induction ws generalizing m with
  | nil => simpa [stores] using h
  | cons w ws ih =>
    refine ih _ (fun v hv => hapart v (List.mem_cons_of_mem w hv)) ?_
    cases hapart w List.mem_cons_self with
    | inl hw =>
      subst hw
      exact .inr (load_store m a _ bs rfl)
    | inr hw =>
      cases h with
      | inl hmem =>
        rcases List.mem_cons.mp hmem with he | hmem
        · subst he
          exact .inr (load_store m a _ bs rfl)
        · exact .inl hmem
      | inr hload =>
        refine .inr ?_
        rw [load_store_disjoint m a w.1 bs.length w.2 hw, hload]

theorem load_add (k : Nat) : m.load a (n + k) = m.load a n ++ m.load (a + n) k := by
  simp [load, List.range_add, Nat.add_assoc]

/-- The memory from an address on. -/
def window : Mem := fun i => m (a + i)

theorem window_zero : m.window 0 = m := funext fun i => congrArg m (Nat.zero_add i)

theorem window_window (b : Nat) : (m.window a).window b = m.window (a + b) :=
  funext fun i => congrArg m (Nat.add_assoc a b i).symm

theorem load_window (n : Nat) : (m.window a).load i n = m.load (a + i) n :=
  load_congr fun j _ => congrArg m (Nat.add_assoc a i j).symm

theorem window_store : (m.store (a + i) bs).window a = (m.window a).store i bs := by
  funext x
  by_cases hx : x < i
  · rw [store_of_lt _ _ _ _ hx]
    exact store_of_lt m (a + i) (a + x) bs (by omega)
  · obtain ⟨k, rfl⟩ : ∃ k, x = i + k := ⟨x - i, by omega⟩
    by_cases hk : k < bs.length
    · rw [store_inside _ i k bs 0 hk, window, ← Nat.add_assoc, store_inside _ (a + i) k bs 0 hk]
    · rw [store_of_ge _ _ _ _ (by omega)]
      exact store_of_ge m (a + i) (a + (i + k)) bs (by omega)

/-- The first n bytes are the same. -/
def Agree (m m' : Mem) (n : Nat) : Prop := ∀ i < n, m i = m' i

namespace Agree
variable {m m' : Mem} {n : Nat}

variable (h : Agree m m' n)
include h

theorem symm : Agree m' m n := fun i hi => (h i hi).symm

theorem mono {k : Nat} (hk : k ≤ n) : Agree m m' k := fun i hi => h i (by omega)

theorem load {a k : Nat} (hk : a + k ≤ n) : m.load a k = m'.load a k :=
  load_congr fun i hi => h (a + i) (by omega)

theorem store (a : Nat) (bs : List UInt8) : Agree (m.store a bs) (m'.store a bs) n :=
  fun i hi => store_congr a bs (h i hi)

end Agree

/-- Only the n bytes from a on may differ. -/
def SameOutside (m m' : Mem) (a n : Nat) : Prop := ∀ x, x < a ∨ a + n ≤ x → m' x = m x

namespace SameOutside

variable {m m' m'' : Mem} {a n : Nat}

theorem refl (m : Mem) (a n : Nat) : SameOutside m m a n := fun _ _ => rfl

variable (h : SameOutside m m' a n)
include h

theorem trans (h' : SameOutside m' m'' a n) : SameOutside m m'' a n :=
  fun x hx => (h' x hx).trans (h x hx)

theorem store {b : Nat} {bs : List UInt8} (hb : a ≤ b ∧ b + bs.length ≤ a + n) :
    SameOutside m (m'.store b bs) a n :=
  fun x hx => (store_outside m' b x bs (by omega)).trans (h x hx)

theorem mono {b k : Nat} (hb : b ≤ a ∧ a + n ≤ b + k) : SameOutside m m' b k :=
  fun x hx => h x (by omega)

end SameOutside

end Mem
end Vboot.Lib
