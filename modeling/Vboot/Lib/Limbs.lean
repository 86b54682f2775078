import Mathlib.Data.Nat.Digits.Lemmas
import Vboot.Lib.Endian

/-! Numbers as lists of words, least significant first, and as byte strings, most significant
first. -/
namespace Vboot.Lib

/-- The number that a list of 32-bit words denotes. -/
def value (ws : List UInt32) : Nat := Nat.ofDigits (2 ^ 32) (ws.map UInt32.toNat)

@[simp] theorem value_nil : value [] = 0 := rfl

theorem value_cons (w : UInt32) (ws : List UInt32) : value (w :: ws) = w.toNat + 2 ^ 32 * value ws :=
  Nat.ofDigits_cons

theorem value_append (us ws : List UInt32) :
    value (us ++ ws) = value us + (2 ^ 32) ^ us.length * value ws := by
  rw [value, List.map_append, Nat.ofDigits_append, List.length_map]
  rfl

theorem value_concat (ws : List UInt32) (w : UInt32) :
    value (ws ++ [w]) = value ws + (2 ^ 32) ^ ws.length * w.toNat := by
  rw [value_append, value_cons, value_nil, Nat.mul_zero, Nat.add_zero]

theorem value_lt (ws : List UInt32) : value ws < (2 ^ 32) ^ ws.length := by
  have h := @Nat.ofDigits_lt_base_pow_length (2 ^ 32) (ws.map UInt32.toNat) (by decide) fun x hx => by
    obtain ⟨w, -, rfl⟩ := List.mem_map.mp hx
    exact w.toNat_lt
  rwa [List.length_map] at h

theorem value_zeroes (k : Nat) : value (List.replicate k 0) = 0 := by
  induction k with
  | zero => rfl
  | succ k ih => rw [List.replicate_succ, value_cons, ih]; rfl

/-- The number that a byte string denotes, most significant byte first. -/
def beValue (bs : List UInt8) : Nat := Nat.ofDigits 256 (bs.reverse.map UInt8.toNat)

theorem beValue_cons (b : UInt8) (bs : List UInt8) :
    beValue (b :: bs) = beValue bs + 256 ^ bs.length * b.toNat := by
  rw [beValue, List.reverse_cons, List.map_append, Nat.ofDigits_append, List.length_map,
    List.length_reverse, beValue]
  simp

theorem beValue_append (bs cs : List UInt8) :
    beValue (bs ++ cs) = beValue cs + 256 ^ cs.length * beValue bs := by
  rw [beValue, List.reverse_append, List.map_append, Nat.ofDigits_append, List.length_map,
    List.length_reverse, beValue, beValue]

theorem beValue_four (a b c d : UInt8) (bs : List UInt8) :
    beValue (a :: b :: c :: d :: bs) = beValue bs + 256 ^ bs.length * (be32 a b c d).toNat := by
  have h : beValue [a, b, c, d] = (be32 a b c d).toNat := by
    have hnil : beValue [] = 0 := rfl
    rw [toNat_be32]
    simp only [beValue_cons, hnil, List.length_cons, List.length_nil]
    omega
  have happ := beValue_append [a, b, c, d] bs
  rw [h] at happ
  exact happ

theorem beValue_bytes32 (w : UInt32) : beValue (bytes32 w) = w.toNat := by
  have h := beValue_four (w >>> 24).toUInt8 (w >>> 16).toUInt8 (w >>> 8).toUInt8 w.toUInt8 []
  rw [be32_bytes32, List.length_nil, Nat.pow_zero, Nat.one_mul] at h
  exact h.trans (Nat.zero_add _)

theorem beValue_lt (bs : List UInt8) : beValue bs < 256 ^ bs.length := by
  have h := @Nat.ofDigits_lt_base_pow_length 256 (bs.reverse.map UInt8.toNat) (by decide)
    fun x hx => by
      obtain ⟨b, -, rfl⟩ := List.mem_map.mp hx
      exact b.toNat_lt
  rwa [List.length_map, List.length_reverse] at h

theorem beValue_inj {bs cs : List UInt8} (hl : bs.length = cs.length) (h : beValue bs = beValue cs) :
    bs = cs := by
  induction bs generalizing cs with
  | nil => exact (List.length_eq_zero_iff.mp hl.symm).symm
  | cons b bs ih =>
    cases cs with
    | nil => cases hl
    | cons c cs =>
      have hlen : bs.length = cs.length := Nat.succ.inj hl
      rw [beValue_cons, beValue_cons, hlen] at h
      have hb := beValue_lt bs
      have hc := beValue_lt cs
      rw [hlen] at hb
      have hpos : 0 < 256 ^ cs.length := Nat.pow_pos (by decide)
      have hmod : beValue bs = beValue cs := by
        have := congrArg (· % 256 ^ cs.length) h
        simpa [Nat.add_mul_mod_self_left, Nat.mod_eq_of_lt hb, Nat.mod_eq_of_lt hc] using this
      have htop : b.toNat = c.toNat := by
        rw [hmod] at h
        exact Nat.eq_of_mul_eq_mul_left hpos (Nat.add_left_cancel h)
      rw [ih hlen hmod, UInt8.toNat_inj.mp htop]

/-- The byte string of the given length that denotes a number, as much of it as fits. -/
def toBigEndian : Nat → Nat → List UInt8
  | 0, _ => []
  | len + 1, x => UInt8.ofNat (x / 256 ^ len) :: toBigEndian len x

@[simp] theorem length_toBigEndian (len x : Nat) : (toBigEndian len x).length = len := by
  induction len with
  | zero => rfl
  | succ len ih => rw [toBigEndian, List.length_cons, ih]

theorem beValue_toBigEndian (len x : Nat) : beValue (toBigEndian len x) = x % 256 ^ len := by
  induction len with
  | zero => rw [Nat.pow_zero, Nat.mod_one]; rfl
  | succ len ih =>
    have hb : (UInt8.ofNat (x / 256 ^ len)).toNat = x / 256 ^ len % 256 := UInt8.toNat_ofNat'
    rw [toBigEndian, beValue_cons, ih, length_toBigEndian, hb, Nat.pow_succ, Nat.mod_mul]

theorem eq_toBigEndian {bs : List UInt8} {len x : Nat} (hl : bs.length = len) (h : beValue bs = x) :
    bs = toBigEndian len x := by
  apply beValue_inj
  · rw [hl, length_toBigEndian]
  · rw [beValue_toBigEndian, ← h, Nat.mod_eq_of_lt]
    rw [← hl]
    exact beValue_lt bs

end Vboot.Lib
