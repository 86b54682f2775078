import Mathlib.Data.Vector.Basic
import Mathlib.Tactic.IntervalCases

/-! Fields in a block of bytes: flags, numbers of a few bits with a limit, and words. A field
reads back what was written to it, and fields with disjoint masks do not disturb each other. -/
namespace Vboot.Lib

section
variable {a b c m mask x : UInt8}

theorem or_and (a b m : UInt8) : (a ||| b) &&& m = a &&& m ||| b &&& m :=
  UInt8.toBitVec_inj.mp BitVec.and_or_distrib_right

theorem or_and_of_disjoint (h : a &&& m = 0) : (b ||| a) &&& m = b &&& m := by
  rw [or_and, h, UInt8.or_zero]

/-- What lies in none of the bits of a lies in the others. -/
theorem not_and_of_disjoint (h : a &&& m = 0) : ~~~a &&& m = m := by
  have hall : (a ||| ~~~a) &&& m = m := by rw [UInt8.or_not_self, UInt8.neg_one_and]
  rwa [or_and, h, UInt8.zero_or] at hall

theorem clear_and_of_disjoint (h : a &&& m = 0) : (b &&& ~~~a) &&& m = b &&& m := by
  rw [UInt8.and_assoc, not_and_of_disjoint h]

theorem and_full : a &&& 0xFF = a := UInt8.and_neg_one

theorem clear_and_self : (b &&& ~~~a) &&& a = 0 := by
  rw [UInt8.and_assoc, UInt8.not_and_self, UInt8.and_zero]

theorem or_and_self : (b ||| a) &&& a = a := by
  apply UInt8.toBitVec_inj.mp
  ext i hi
  simp +contextual

variable (h : x &&& ~~~mask = 0)
include h

theorem and_mask_of_inside : x &&& mask = x := by
  rw [UInt8.and_comm] at h ⊢
  simpa using not_and_of_disjoint h

theorem disjoint_of_inside (hm : mask &&& m = 0) : x &&& m = 0 := by
  rw [← and_mask_of_inside h, UInt8.and_assoc, hm, UInt8.and_zero]

theorem replace_and_self : ((b &&& ~~~mask) ||| x) &&& mask = x := by
  rw [or_and, clear_and_self, UInt8.zero_or, and_mask_of_inside h]

omit h in
theorem replace_full : (b &&& ~~~0xFF) ||| x = x := by
  have h : (~~~0xFF : UInt8) = 0 := by decide
  rw [h, UInt8.and_zero, UInt8.zero_or]

theorem replace_and_of_disjoint (hm : mask &&& m = 0) :
    ((b &&& ~~~mask) ||| x) &&& m = b &&& m := by
  rw [or_and_of_disjoint (disjoint_of_inside h hm), clear_and_of_disjoint hm]

end

def capped (value limit other : UInt32) : UInt32 := if value > limit then other else value

variable {value limit other : UInt32}

theorem capped_le (h : other ≤ limit) :
    capped value limit other ≤ limit := by
  unfold capped
  split_ifs with hv
  · exact h
  · exact UInt32.not_lt.mp hv

theorem capped_of_le (h : value ≤ limit) (other : UInt32) :
    capped value limit other = value := if_neg (UInt32.not_lt.mpr h)

theorem capped_toUInt8 (h : other ≤ limit) (hl : limit ≤ 0xFF) :
    (capped value limit other).toUInt8.toUInt32 = capped value limit other := by
  have hle := UInt32.le_trans (@capped_le value limit other h) hl
  rw [UInt32.le_iff_toNat_le] at hle
  apply UInt32.toNat_inj.mp
  rw [UInt8.toNat_toUInt32, UInt32.toNat_toUInt8]
  exact Nat.mod_eq_of_lt (Nat.lt_succ_of_le hle)

/-- A field of a block of n bytes: a single bit, a number of a few bits with a limit and
the value that stands for larger ones, or the four bytes of a word. -/
inductive Field (n : Nat) where
  | flag (i : Fin n) (mask : UInt8)
  | bits (i : Fin n) (mask shift : UInt8) (limit other : UInt32)
  | word (i j k l : Fin n)

namespace Field
variable {n : Nat}

def get (block : Vector UInt8 n) : Field n → UInt32
  | flag i mask => if block[i] &&& mask ≠ 0 then 1 else 0
  | bits i mask shift _ _ => ((block[i] &&& mask) >>> shift).toUInt32
  | word i j k l => block[i].toUInt32 ||| block[j].toUInt32 <<< 8 ||| block[k].toUInt32 <<< 16 |||
      block[l].toUInt32 <<< 24

def put (block : Vector UInt8 n) (value : UInt32) : Field n → Vector UInt8 n
  | flag i mask => block.set i (if value ≠ 0 then block[i] ||| mask else block[i] &&& ~~~mask)
  | bits i mask shift limit other =>
    block.set i ((block[i] &&& ~~~mask) ||| (capped value limit other).toUInt8 <<< shift)
  | word i j k l => (((block.set i value.toUInt8).set j (value >>> 8).toUInt8).set k
      (value >>> 16).toUInt8).set l (value >>> 24).toUInt8

/-- What becomes of a value that is written. -/
def norm (value : UInt32) : Field n → UInt32
  | flag _ _ => if value ≠ 0 then 1 else 0
  | bits _ _ _ limit other => (capped value limit other).toUInt8.toUInt32
  | word _ _ _ _ => value

/-- The bits of a byte that belong to the field. -/
def mask (x : Fin n) : Field n → UInt8
  | flag i mask => if x = i then mask else 0
  | bits i mask _ _ _ => if x = i then mask else 0
  | word i j k l => if x = i ∨ x = j ∨ x = k ∨ x = l then 0xFF else 0

/-- Numbers up to the limit are exactly what fits the mask, and the bytes of a word are
different. -/
def WellFormed : Field n → Prop
  | flag _ mask => mask ≠ 0
  | bits _ mask shift limit other => other ≤ limit ∧
      (∀ x < 256, (UInt8.ofNat x).toUInt32 ≤ limit →
        UInt8.ofNat x <<< shift &&& ~~~mask = 0 ∧ UInt8.ofNat x <<< shift >>> shift = UInt8.ofNat x) ∧
      ∀ x < 256, ((UInt8.ofNat x &&& mask) >>> shift).toUInt32 ≤ limit
  | word i j k l => i ≠ j ∧ i ≠ k ∧ i ≠ l ∧ j ≠ k ∧ j ≠ l ∧ k ≠ l

instance decidableWellFormed : (f : Field n) → Decidable f.WellFormed
  | flag _ mask => inferInstanceAs (Decidable (mask ≠ 0))
  | bits _ _ _ _ _ => inferInstanceAs (Decidable (_ ∧ (∀ x < 256, _) ∧ ∀ x < 256, _))
  | word _ _ _ _ => inferInstanceAs (Decidable (_ ∧ _))

/-- No bit belongs to both fields. -/
def Apart (f g : Field n) : Prop := ∀ x, f.mask x &&& g.mask x = 0

instance (f g : Field n) : Decidable (f.Apart g) := inferInstanceAs (Decidable (∀ _, _))

theorem getElem_set_fin (block : Vector UInt8 n) (i j : Fin n) (b : UInt8) :
    (block.set i b)[j] = if j = i then b else block[j] := by
  simp [Vector.getElem_set, Fin.ext_iff, eq_comm]

theorem WellFormed.shifted {i : Fin n} {mask shift : UInt8}
    (h : (bits i mask shift limit other).WellFormed) (value : UInt32) :
    (capped value limit other).toUInt8 <<< shift &&& ~~~mask = 0 ∧
    (capped value limit other).toUInt8 <<< shift >>> shift = (capped value limit other).toUInt8 := by
  generalize hc : capped value limit other = c
  have hle : c ≤ limit := hc ▸ capped_le h.1
  have hbyte : c.toUInt8.toUInt32 ≤ limit := by
    rw [UInt32.le_iff_toNat_le] at hle ⊢
    have := Nat.mod_le c.toNat 256
    simp only [UInt8.toNat_toUInt32, UInt32.toNat_toUInt8]
    omega
  have hx := h.2.1 c.toUInt8.toNat c.toUInt8.toNat_lt
  rw [UInt8.ofNat_toNat] at hx
  exact hx hbyte

variable {f : Field n}

theorem get_put (hf : f.WellFormed) (block : Vector UInt8 n) (value : UInt32) :
    f.get (f.put block value) = f.norm value := by
  cases f with
  | flag i mask =>
    simp only [get, put, norm, getElem_set_fin, if_true]
    by_cases hv : value = 0
    · simp [hv, clear_and_self]
    · simp only [ne_eq, hv, not_false_eq_true, if_true, or_and_self]
      exact if_pos hf
  | bits i mask shift limit other =>
    have hx := hf.shifted value
    simp only [get, put, norm, getElem_set_fin, if_true]
    rw [replace_and_self hx.1, hx.2]
  | word i j k l =>
    obtain ⟨hij, hik, hil, hjk, hjl, hkl⟩ := hf
    simp only [get, put, norm, getElem_set_fin, hij, hik, hil, hjk, hjl, hkl, if_true, if_false]
    apply UInt32.toBitVec_inj.mp
    ext x hx
    simp only [UInt32.toBitVec_or, UInt32.toBitVec_shiftLeft, UInt8.toBitVec_toUInt32,
      UInt32.toBitVec_toUInt8, UInt32.toBitVec_shiftRight]
    interval_cases x <;> simp

theorem norm_get (hf : f.WellFormed) (block : Vector UInt8 n) :
    f.norm (f.get block) = f.get block := by
  cases f with
  | flag i mask =>
    simp only [norm, get]
    split_ifs <;> simp_all
  | bits i mask shift limit other =>
    have hle := hf.2.2 block[i].toNat block[i].toNat_lt
    rw [UInt8.ofNat_toNat] at hle
    simp only [norm, get]
    rw [capped_of_le hle, UInt8.toUInt8_toUInt32]
  | word i j k l => rfl

theorem put_and (hf : f.WellFormed) {x : Fin n} {m : UInt8}
    (h : f.mask x &&& m = 0) (block : Vector UInt8 n) (value : UInt32) :
    (f.put block value)[x] &&& m = block[x] &&& m := by
  cases f with
  | flag i mask =>
    simp only [put, getElem_set_fin, Field.mask] at h ⊢
    by_cases hx : x = i
    · rw [if_pos hx] at h ⊢
      subst hx
      split_ifs
      · exact or_and_of_disjoint h
      · exact clear_and_of_disjoint h
    · rw [if_neg hx]
  | bits i mask shift limit other =>
    simp only [put, getElem_set_fin, Field.mask] at h ⊢
    by_cases hx : x = i
    · rw [if_pos hx] at h ⊢
      subst hx
      exact replace_and_of_disjoint (hf.shifted value).1 h
    · rw [if_neg hx]
  | word i j k l =>
    simp only [put, getElem_set_fin, Field.mask] at h ⊢
    by_cases hx : x = i ∨ x = j ∨ x = k ∨ x = l
    · rw [if_pos hx] at h
      have hm : m = 0 := by rw [← h, UInt8.and_comm, and_full]
      simp [hm]
    · obtain ⟨hi, hj, hk, hl⟩ := not_or.mp hx |>.imp id fun h => not_or.mp h |>.imp id not_or.mp
      simp [hi, hj, hk, hl]

variable {a b : Vector UInt8 n}

theorem get_congr (f : Field n)
    (h : ∀ x, a[x] &&& f.mask x = b[x] &&& f.mask x) : f.get a = f.get b := by
  cases f with
  | flag i mask | bits i mask shift limit other =>
    have hi := h i
    simp only [Field.mask, if_true] at hi
    simp only [get, hi]
  | word i j k l =>
    have hbyte (x : Fin n) (hx : x = i ∨ x = j ∨ x = k ∨ x = l) : a[x] = b[x] := by
      have hi := h x
      rw [Field.mask, if_pos hx, and_full, and_full] at hi
      exact hi
    simp only [get, hbyte i (by simp), hbyte j (by simp), hbyte k (by simp), hbyte l (by simp)]

theorem getElem_put_congr (f : Field n) {x : Fin n} (h : a[x] = b[x])
    (value : UInt32) : (f.put a value)[x] = (f.put b value)[x] := by
  cases f with
  | flag i mask | bits i mask shift limit other =>
    simp only [put, getElem_set_fin]
    by_cases hx : x = i
    · rw [if_pos hx, if_pos hx, ← hx, h]
    · rw [if_neg hx, if_neg hx, h]
  | word i j k l => simp only [put, getElem_set_fin, h]

theorem Apart.get_put {g : Field n} (h : f.Apart g) (hf : f.WellFormed)
    (block : Vector UInt8 n) (value : UInt32) : g.get (f.put block value) = g.get block :=
  g.get_congr fun x => put_and hf (h x) block value

end Field
end Vboot.Lib
