import Vboot.Lib.Mem
import Mathlib.Data.Nat.Bitwise
import Mathlib.Tactic.Ring
import Mathlib.Tactic.NormNum

/-! Bytes as 32-bit and 64-bit words: big-endian words in registers, little-endian
fields in memory. -/
namespace Vboot.Lib

def be32 (a b c d : UInt8) : UInt32 :=
  a.toUInt32 <<< 24 ||| b.toUInt32 <<< 16 ||| c.toUInt32 <<< 8 ||| d.toUInt32

def bytes32 (x : UInt32) : List UInt8 :=
  [(x >>> 24).toUInt8, (x >>> 16).toUInt8, (x >>> 8).toUInt8, x.toUInt8]

theorem mul_or (a b i : Nat) (h : b < 2 ^ i) : a * 2 ^ i ||| b = a * 2 ^ i + b := by
  rw [← Nat.shiftLeft_eq, ← Nat.shiftLeft_add_eq_or_of_lt h]

theorem toNat_be32 (a b c d : UInt8) :
    (be32 a b c d).toNat = ((a.toNat * 256 + b.toNat) * 256 + c.toNat) * 256 + d.toNat := by
  have ha := a.toNat_lt
  have hb := b.toNat_lt
  have hc := c.toNat_lt
  have hd := d.toNat_lt
  have h1 := mul_or a.toNat (b.toNat * 2 ^ 16) 24 (by omega)
  have h2 := mul_or (a.toNat * 2 ^ 8 + b.toNat) (c.toNat * 2 ^ 8) 16 (by omega)
  have h3 := mul_or ((a.toNat * 2 ^ 8 + b.toNat) * 2 ^ 8 + c.toNat) d.toNat 8 (by omega)
  have e1 : UInt32.toNat 24 % 32 = 24 := rfl
  have e2 : UInt32.toNat 16 % 32 = 16 := rfl
  have e3 : UInt32.toNat 8 % 32 = 8 := rfl
  simp only [be32, UInt32.toNat_or, UInt32.toNat_shiftLeft, UInt8.toNat_toUInt32, e1, e2, e3,
    Nat.shiftLeft_eq]
  rw [Nat.mod_eq_of_lt (by omega), Nat.mod_eq_of_lt (by omega), Nat.mod_eq_of_lt (by omega), h1,
    show a.toNat * 2 ^ 24 + b.toNat * 2 ^ 16 = (a.toNat * 2 ^ 8 + b.toNat) * 2 ^ 16 by ring, h2,
    show (a.toNat * 2 ^ 8 + b.toNat) * 2 ^ 16 + c.toNat * 2 ^ 8 =
      ((a.toNat * 2 ^ 8 + b.toNat) * 2 ^ 8 + c.toNat) * 2 ^ 8 by ring, h3]
  norm_num

theorem be32_inj {a b c d a' b' c' d' : UInt8} (h : be32 a b c d = be32 a' b' c' d') :
    a = a' ∧ b = b' ∧ c = c' ∧ d = d' := by
  have hn := congrArg UInt32.toNat h
  rw [toNat_be32, toNat_be32] at hn
  have hb := b.toNat_lt
  have hc := c.toNat_lt
  have hd := d.toNat_lt
  have hb' := b'.toNat_lt
  have hc' := c'.toNat_lt
  have hd' := d'.toNat_lt
  refine ⟨UInt8.toNat_inj.mp ?_, UInt8.toNat_inj.mp ?_, UInt8.toNat_inj.mp ?_,
    UInt8.toNat_inj.mp ?_⟩ <;> omega

theorem be32_bytes32 (x : UInt32) :
    be32 (x >>> 24).toUInt8 (x >>> 16).toUInt8 (x >>> 8).toUInt8 x.toUInt8 = x := by
  apply UInt32.toNat_inj.mp
  have hx := x.toNat_lt
  have e1 : UInt32.toNat 24 % 32 = 24 := rfl
  have e2 : UInt32.toNat 16 % 32 = 16 := rfl
  have e3 : UInt32.toNat 8 % 32 = 8 := rfl
  rw [toNat_be32]
  simp only [UInt32.toNat_toUInt8, UInt32.toNat_shiftRight, e1, e2, e3, Nat.shiftRight_eq_div_pow]
  omega

/-- The 16-bit field at offset a of a little-endian structure. -/
def le16 (m : Mem) (a : Nat) : UInt16 := (m (a + 1)).toUInt16 <<< 8 ||| (m a).toUInt16

/-- The 32-bit field. -/
def le32 (m : Mem) (a : Nat) : UInt32 := be32 (m (a + 3)) (m (a + 2)) (m (a + 1)) (m a)

def leBytes32 (v : UInt32) : List UInt8 := (bytes32 v).reverse

variable {m m' : Mem} {a a' n : Nat}

theorem le32_congr (h : ∀ i < 4, m (a + i) = m' (a' + i)) : le32 m a = le32 m' a' := by
  rw [le32, le32, h 3 (by omega), h 2 (by omega), h 1 (by omega)]
  exact congrArg _ (h 0 (by omega))

theorem le32_window (m : Mem) (a i : Nat) : le32 (m.window a) i = le32 m (a + i) :=
  le32_congr fun j _ => congrArg m (Nat.add_assoc a i j).symm

theorem le32_agree {i : Nat} (h : Mem.Agree m m' n) (hi : i + 4 ≤ n) : le32 m i = le32 m' i :=
  le32_congr fun j _ => h (i + j) (by omega)

theorem le32_eq_iff : le32 m a = le32 m' a' ↔ ∀ i < 4, m (a + i) = m' (a' + i) := by
  refine ⟨fun h => ?_, le32_congr⟩
  obtain ⟨h3, h2, h1, h0⟩ := be32_inj h
  intro i hi
  match i, hi with
  | 0, _ => exact h0
  | 1, _ => exact h1
  | 2, _ => exact h2
  | 3, _ => exact h3

theorem le32_store (m : Mem) (a : Nat) (v : UInt32) : le32 (m.store a (leBytes32 v)) a = v := by
  have h (i : Nat) (hi : i < 4) : m.store a (leBytes32 v) (a + i) = (leBytes32 v).getD i 0 :=
    Mem.store_inside m a i (leBytes32 v) 0 hi
  rw [le32, h 3 (by omega), h 2 (by omega), h 1 (by omega)]
  change be32 _ _ _ (m.store a (leBytes32 v) (a + 0)) = v
  rw [h 0 (by omega)]
  exact be32_bytes32 v

theorem le32_store_disjoint (m : Mem) (a b : Nat) (bs : List UInt8)
    (h : a + 4 ≤ b ∨ b + bs.length ≤ a) : le32 (m.store b bs) a = le32 m a :=
  le32_congr fun i hi => Mem.store_outside m b (a + i) bs (by omega)

theorem le32_sameOutside {b : Nat} (h : Mem.SameOutside m m' b n) (ha : a + 4 ≤ b ∨ b + n ≤ a) :
    le32 m' a = le32 m a :=
  le32_congr fun i hi => h (a + i) (by omega)

/-- The 64-bit field at offset a of a little-endian structure. -/
def le64 (m : Mem) (a : Nat) : UInt64 :=
  (le32 m (a + 4)).toUInt64 <<< 32 ||| (le32 m a).toUInt64

/-- A field with nothing in its upper half. -/
theorem le64_of_high_zero (h : le32 m (a + 4) = 0) : le64 m a = (le32 m a).toUInt64 := by
  rw [le64, h]
  exact UInt64.zero_or

def leBytes64 (v : UInt64) : List UInt8 := leBytes32 v.toUInt32 ++ leBytes32 (v >>> 32).toUInt32

theorem length_leBytes32 (v : UInt32) : (leBytes32 v).length = 4 := rfl

theorem length_leBytes64 (v : UInt64) : (leBytes64 v).length = 8 := rfl

theorem le64_congr (h : ∀ i < 8, m (a + i) = m' (a' + i)) : le64 m a = le64 m' a' := by
  have hlo : le32 m a = le32 m' a' := le32_congr fun i hi => h i (by omega)
  have hhi : le32 m (a + 4) = le32 m' (a' + 4) := le32_congr fun i hi => by
    rw [Nat.add_assoc, Nat.add_assoc]
    exact h (4 + i) (by omega)
  rw [le64, le64, hlo, hhi]

theorem le64_window (m : Mem) (a i : Nat) : le64 (m.window a) i = le64 m (a + i) :=
  le64_congr fun j _ => congrArg m (Nat.add_assoc a i j).symm

theorem le64_agree {i : Nat} (h : Mem.Agree m m' n) (hi : i + 8 ≤ n) : le64 m i = le64 m' i :=
  le64_congr fun j _ => h (i + j) (by omega)

theorem le64_store_disjoint (m : Mem) (a b : Nat) (bs : List UInt8)
    (h : a + 8 ≤ b ∨ b + bs.length ≤ a) : le64 (m.store b bs) a = le64 m a :=
  le64_congr fun i hi => Mem.store_outside m b (a + i) bs (by omega)

theorem le64_store (m : Mem) (a : Nat) (v : UInt64) : le64 (m.store a (leBytes64 v)) a = v := by
  have hsplit : m.store a (leBytes64 v) = (m.store a (leBytes32 v.toUInt32)).store (a + 4)
      (leBytes32 (v >>> 32).toUInt32) :=
    (Mem.store_store m a (leBytes32 v.toUInt32) (leBytes32 (v >>> 32).toUInt32)).symm
  have hv := v.toNat_lt
  have hs : UInt64.toNat 32 % 64 = 32 := rfl
  rw [le64, hsplit, le32_store, le32_store_disjoint _ a (a + 4) _ (.inl (le_refl _)), le32_store]
  apply UInt64.toNat_inj.mp
  simp only [UInt64.toNat_or, UInt64.toNat_shiftLeft, UInt32.toNat_toUInt64, UInt64.toNat_toUInt32,
    UInt64.toNat_shiftRight, hs, Nat.shiftLeft_eq, Nat.shiftRight_eq_div_pow]
  rw [Nat.mod_eq_of_lt (by omega), Nat.mod_eq_of_lt (by omega),
    mul_or _ _ 32 (Nat.mod_lt _ (by decide))]
  omega

/-- How words lie in memory. -/
structure WordFormat (W : Type) where
  width : Nat
  read : Mem → Nat → W
  write : W → List UInt8
  length_write : ∀ w, (write w).length = width
  read_store : ∀ (m : Mem) (a : Nat) (w : W), read (m.store a (write w)) a = w
  read_store_disjoint : ∀ (m : Mem) (a b : Nat) (bs : List UInt8),
    a + width ≤ b ∨ b + bs.length ≤ a → read (m.store b bs) a = read m a

def le32Format : WordFormat UInt32 := ⟨4, le32, leBytes32, length_leBytes32, le32_store, le32_store_disjoint⟩

def le64Format : WordFormat UInt64 := ⟨8, le64, leBytes64, length_leBytes64, le64_store, le64_store_disjoint⟩

namespace WordFormat

variable {W : Type} (f : WordFormat W)

def readArray (m : Mem) (a n : Nat) : List W := (List.range n).map fun i => f.read m (a + f.width * i)

theorem length_writeArray (ws : List W) : (ws.flatMap f.write).length = f.width * ws.length := by
  induction ws with
  | nil => rfl
  | cons w ws ih =>
    rw [List.flatMap_cons, List.length_append, f.length_write, ih, List.length_cons, Nat.mul_succ,
      Nat.add_comm]

theorem readArray_store (m : Mem) (a : Nat) (ws : List W) :
    f.readArray (m.store a (ws.flatMap f.write)) a ws.length = ws := by
  induction ws generalizing m a with
  | nil => rfl
  | cons w ws ih =>
    rw [readArray, List.length_cons, List.range_succ_eq_map, List.map_cons, List.map_map,
      List.flatMap_cons, ← Mem.store_store, f.length_write]
    congr 1
    · rw [Nat.mul_zero, Nat.add_zero, f.read_store_disjoint _ _ _ _ (.inl (le_refl _)), f.read_store]
    · refine Eq.trans ?_ (ih (m.store a (f.write w)) (a + f.width))
      refine List.map_congr_left fun i _ => ?_
      rw [Function.comp_apply, Nat.succ_eq_add_one, Nat.mul_succ, Nat.add_comm (f.width * i), Nat.add_assoc]

theorem readArray_store_disjoint (m : Mem) (a n b : Nat) (bs : List UInt8)
    (h : a + f.width * n ≤ b ∨ b + bs.length ≤ a) :
    f.readArray (m.store b bs) a n = f.readArray m a n := by
  refine List.map_congr_left fun i hi => f.read_store_disjoint _ _ _ _ ?_
  have hle : f.width * (i + 1) ≤ f.width * n := Nat.mul_le_mul_left _ (List.mem_range.mp hi)
  rw [Nat.mul_succ] at hle
  omega

end WordFormat

end Vboot.Lib
