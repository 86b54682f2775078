import Mathlib.Tactic.LinearCombination
import Vboot.Lib.Limbs
import Vboot.Lib.Montgomery
import Vboot.Vb2.Rsa

/-! The public exponentiation computes the power modulo the key's modulus. -/
namespace Vboot.Vb2
open Vboot.Lib

def Vb2PublicKey.modulus (key : Vb2PublicKey) : Nat := value key.n

def Vb2PublicKey.words (key : Vb2PublicKey) : Nat := key.arrsize.toNat

/-- A key with an odd modulus whose top bit is set and with the values that were computed from
it. -/
structure Vb2PublicKey.WellFormed (key : Vb2PublicKey) : Prop where
  lengthN : key.n.length = key.words
  lengthRr : key.rr.length = key.words
  odd : key.modulus % 2 = 1
  top : 2 ^ (32 * key.words - 1) ≤ key.modulus
  inverse : (key.n0inv.toNat * key.modulus + 1) % 2 ^ 32 = 0
  square : value key.rr = 2 ^ (64 * key.words) % key.modulus

/-- What the multiplication needs of a key. -/
structure Vb2PublicKey.Montgomery (key : Vb2PublicKey) : Prop where
  lengthN : key.n.length = key.words
  odd : key.modulus % 2 = 1
  inverse : (key.n0inv.toNat * key.modulus + 1) % 2 ^ 32 = 0

theorem Vb2PublicKey.WellFormed.montgomery {key : Vb2PublicKey} (hk : key.WellFormed) : key.Montgomery :=
  ⟨hk.lengthN, hk.odd, hk.inverse⟩

/-- The loop of montMulAdd with accumulators that hold any number. -/
def exactLoop (a d0 : Nat) : Nat → Nat → List UInt32 → List UInt32 → List UInt32 →
    List UInt32 × Nat × Nat
  | A, B, b :: bs, c :: cs, n :: ns =>
    let A := A / 2 ^ 32 + a * b.toNat + c.toNat
    let B := B / 2 ^ 32 + d0 * n.toNat + A % 2 ^ 32
    let r := exactLoop a d0 A B bs cs ns
    (UInt32.ofNat B :: r.1, r.2)
  | A, B, _, _, _ => ([], A, B)

def exactMulAdd (key : Vb2PublicKey) (c : List UInt32) (a : UInt32) (b : List UInt32) : List UInt32 :=
  match b, c, key.n with
  | b0 :: bs, c0 :: cs, n0 :: ns =>
    let A := a.toNat * b0.toNat + c0.toNat
    let d0 := A % 2 ^ 32 * key.n0inv.toNat % 2 ^ 32
    let B := d0 * n0.toNat + A % 2 ^ 32
    let (c, A, B) := exactLoop a.toNat d0 A B bs cs ns
    let A := A / 2 ^ 32 + B / 2 ^ 32
    let c := c ++ [UInt32.ofNat A]
    if A / 2 ^ 32 ≠ 0 then subM key c else c
  | _, _, _ => c

/-- The values that the accumulator of subM takes. -/
def borrows : Int → List UInt32 → List UInt32 → List Int
  | A, n :: ns, a :: as =>
    let A := A + ((a.toNat : Int) - n.toNat)
    A :: borrows (A / 2 ^ 32) ns as
  | _, _, _ => []

section
variable {key : Vb2PublicKey}

theorem borrows_small {A : Int} (hA : -1 ≤ A ∧ A ≤ 0) (ns as : List UInt32) :
    ∀ x ∈ borrows A ns as, -2 ^ 32 ≤ x ∧ x < 2 ^ 32 := by
  induction ns generalizing A as with
  | nil => simp [borrows]
  | cons n ns ih =>
    cases as with
    | nil => simp [borrows]
    | cons a as =>
      have ha := a.toNat_lt
      have hn := n.toNat_lt
      intro x hx
      rcases List.mem_cons.mp hx with rfl | hx
      · omega
      · exact ih (by omega) as x hx

theorem toNat_ofInt (x : Int) : ((UInt32.ofInt x).toNat : Int) = x % 2 ^ 32 := by
  have h : (UInt32.ofInt x).toNat = (x % 2 ^ 32).toNat := by
    rw [UInt32.ofInt, UInt32.toNat_ofNat']
    omega
  rw [h]
  omega

theorem subMLoop_value (A : Int) (ns as : List UInt32) (hl : as.length = ns.length) :
    (subMLoop A ns as).length = ns.length ∧
    ∃ q : Int, A + value as - value ns =
      value (subMLoop A ns as) + ((2 : Int) ^ 32) ^ ns.length * q := by
  induction ns generalizing A as with
  | nil =>
    rw [List.length_eq_zero_iff.mp hl]
    exact ⟨rfl, A, by simp [subMLoop]⟩
  | cons n ns ih =>
    cases as with
    | nil => cases hl
    | cons a as =>
      obtain ⟨hlen, q, hq⟩ := ih ((A + ((a.toNat : Int) - n.toNat)) / 2 ^ 32) as (Nat.succ.inj hl)
      refine ⟨by rw [subMLoop, List.length_cons, hlen, List.length_cons], q, ?_⟩
      have hdiv := Int.emod_add_mul_ediv (A + ((a.toNat : Int) - n.toNat)) (2 ^ 32)
      have hword := toNat_ofInt (A + ((a.toNat : Int) - n.toNat))
      rw [subMLoop, value_cons, value_cons, value_cons, List.length_cons, pow_succ]
      generalize (A + ((a.toNat : Int) - n.toNat)) % 2 ^ 32 = r at hdiv hword
      generalize (A + ((a.toNat : Int) - n.toNat)) / 2 ^ 32 = A' at hdiv hq
      rw [Nat.cast_add, Nat.cast_add, Nat.cast_add, hword]
      push_cast
      linear_combination 2 ^ 32 * hq - hdiv

variable {a b x : List UInt32}

theorem subM_value (hk : key.n.length = key.words) (ha : a.length = key.words) {x j : Nat}
    (hx : x < (2 ^ 32) ^ key.words) (h : value a + (2 ^ 32) ^ key.words * j = x + key.modulus) :
    (subM key a).length = key.words ∧ value (subM key a) = x := by
  obtain ⟨hlen, q, hq⟩ := subMLoop_value 0 key.n a (ha.trans hk.symm)
  rw [hk] at hlen hq
  refine ⟨hlen, ?_⟩
  have hlt := value_lt (subM key a)
  rw [subM, hlen] at hlt
  have hd : (x : Int) - value (subMLoop 0 key.n a) = ((2 : Int) ^ 32) ^ key.words * (q + j) := by
    have h' : (value a : Int) + (2 ^ 32) ^ key.words * j = x + value key.n := by exact_mod_cast h
    linear_combination hq - h'
  have hdvd : ((2 : Int) ^ 32) ^ key.words ∣ x - value (subMLoop 0 key.n a) := Dvd.intro _ hd.symm
  have habs : |(x : Int) - value (subMLoop 0 key.n a)| < ((2 : Int) ^ 32) ^ key.words := by
    have h1 : (x : Int) < ((2 : Int) ^ 32) ^ key.words := by exact_mod_cast hx
    have h2 : (value (subMLoop 0 key.n a) : Int) < ((2 : Int) ^ 32) ^ key.words := by
      exact_mod_cast hlt
    rw [abs_lt]
    constructor <;> omega
  have hzero := Int.eq_zero_of_abs_lt_dvd hdvd habs
  rw [subM]
  omega

theorem montGeLoop_iff (ps : List (UInt32 × UInt32)) :
    montGeLoop ps = true ↔ value (ps.map Prod.snd).reverse ≤ value (ps.map Prod.fst).reverse := by
  induction ps with
  | nil => simp [montGeLoop]
  | cons p ps ih =>
    obtain ⟨a, n⟩ := p
    have ha := value_lt (ps.map Prod.fst).reverse
    have hn := value_lt (ps.map Prod.snd).reverse
    simp only [List.map_cons, List.reverse_cons, value_concat, List.length_reverse,
      List.length_map] at ha hn ⊢
    rw [montGeLoop]
    split_ifs with h1 h2
    · have hle := Nat.mul_le_mul_left ((2 ^ 32) ^ ps.length) (UInt32.lt_iff_toNat_lt.mp h1)
      rw [Nat.mul_succ] at hle
      simp only [false_iff, Nat.not_le]
      omega
    · have hle := Nat.mul_le_mul_left ((2 ^ 32) ^ ps.length) (UInt32.lt_iff_toNat_lt.mp h2)
      rw [Nat.mul_succ] at hle
      simp only [true_iff]
      omega
    · have he : a = n := UInt32.le_antisymm (UInt32.not_lt.mp h2) (UInt32.not_lt.mp h1)
      rw [ih, he]
      omega

theorem vb2MontGe_iff (hk : key.n.length = key.words) (ha : a.length = key.words) :
    vb2MontGe key a = true ↔ key.modulus ≤ value a := by
  rw [vb2MontGe, montGeLoop_iff, List.map_reverse, List.reverse_reverse, List.map_reverse,
    List.reverse_reverse, List.map_snd_zip (by omega), List.map_fst_zip (by omega)]
  rfl

theorem toNat_high (x : UInt64) : (x >>> 32).toNat = x.toNat / 2 ^ 32 := by
  have hs : UInt64.toNat 32 % 64 = 32 := rfl
  rw [UInt64.toNat_shiftRight, hs, Nat.shiftRight_eq_div_pow]

theorem toNat_mulAdd (x : UInt64) (a b c : UInt32) :
    ((x >>> 32) + a.toUInt64 * b.toUInt64 + c.toUInt64).toNat =
      x.toNat / 2 ^ 32 + a.toNat * b.toNat + c.toNat := by
  have hx := x.toNat_lt
  have hc := c.toNat_lt
  have hab : a.toNat * b.toNat ≤ (2 ^ 32 - 1) * (2 ^ 32 - 1) :=
    Nat.mul_le_mul (Nat.le_pred_of_lt a.toNat_lt) (Nat.le_pred_of_lt b.toNat_lt)
  have hdiv : x.toNat / 2 ^ 32 < 2 ^ 32 := Nat.div_lt_of_lt_mul (by omega)
  rw [UInt64.toNat_add, UInt64.toNat_add, UInt64.toNat_mul, toNat_high, UInt32.toNat_toUInt64,
    UInt32.toNat_toUInt64, UInt32.toNat_toUInt64, Nat.mod_eq_of_lt (a := a.toNat * b.toNat) (by omega), Nat.mod_add_mod, Nat.mod_eq_of_lt]
  omega

theorem toNat_low (x : UInt64) : x.toUInt32.toNat = x.toNat % 2 ^ 32 := UInt64.toNat_toUInt32 x

theorem toNat_mulFirst (a b c : UInt32) :
    (a.toUInt64 * b.toUInt64 + c.toUInt64).toNat = a.toNat * b.toNat + c.toNat := by
  simpa using toNat_mulAdd 0 a b c

theorem toNat_carries (x y : UInt64) :
    ((x >>> 32) + (y >>> 32)).toNat = x.toNat / 2 ^ 32 + y.toNat / 2 ^ 32 := by
  have hx := x.toNat_lt
  have hy := y.toNat_lt
  rw [UInt64.toNat_add, toNat_high, toNat_high, Nat.mod_eq_of_lt]
  omega

theorem ofNat_toNat (x : UInt64) : UInt32.ofNat x.toNat = x.toUInt32 := by
  rw [← UInt32.toNat_inj, UInt32.toNat_ofNat', toNat_low]

theorem montMulAddLoop_exact (a d0 : UInt32) (A B : UInt64) (bs cs ns : List UInt32) :
    exactLoop a.toNat d0.toNat A.toNat B.toNat bs cs ns =
      ((montMulAddLoop a d0 A B bs cs ns).1, (montMulAddLoop a d0 A B bs cs ns).2.1.toNat,
        (montMulAddLoop a d0 A B bs cs ns).2.2.toNat) := by
  induction bs generalizing A B cs ns with
  | nil => simp [exactLoop, montMulAddLoop]
  | cons b bs ih =>
    cases cs with
    | nil => simp [exactLoop, montMulAddLoop]
    | cons c cs =>
      cases ns with
      | nil => simp [exactLoop, montMulAddLoop]
      | cons n ns =>
        rw [montMulAddLoop, exactLoop]
        dsimp only
        rw [← toNat_mulAdd A a b c, ← toNat_low, ← toNat_mulAdd B d0 n, ih, ofNat_toNat]

theorem montMulAdd_exact (c : List UInt32) (a : UInt32) (b : List UInt32) :
    montMulAdd key c a b = exactMulAdd key c a b := by
  unfold montMulAdd exactMulAdd
  cases b with
  | nil => rfl
  | cons b0 bs =>
    cases c with
    | nil => rfl
    | cons c0 cs =>
      cases key.n with
      | nil => rfl
      | cons n0 ns =>
        dsimp only
        rw [← toNat_mulFirst, ← toNat_low, ← UInt32.toNat_mul, ← toNat_mulFirst, montMulAddLoop_exact]
        dsimp only
        rw [← toNat_carries, ofNat_toNat, ← toNat_high]
        simp only [ne_eq, ← UInt64.toNat_inj, UInt64.toNat_zero]

theorem exactLoop_value (a d0 A B : Nat) (bs cs ns : List UInt32) (hc : cs.length = bs.length)
    (hn : ns.length = bs.length) :
    (exactLoop a d0 A B bs cs ns).1.length = bs.length ∧
    value (exactLoop a d0 A B bs cs ns).1 + (2 ^ 32) ^ bs.length *
        ((exactLoop a d0 A B bs cs ns).2.1 / 2 ^ 32 + (exactLoop a d0 A B bs cs ns).2.2 / 2 ^ 32) =
      A / 2 ^ 32 + B / 2 ^ 32 + a * value bs + value cs + d0 * value ns := by
  induction bs generalizing A B cs ns with
  | nil =>
    rw [List.length_eq_zero_iff.mp hc, List.length_eq_zero_iff.mp hn]
    simp [exactLoop]
  | cons b bs ih =>
    cases cs with
    | nil => cases hc
    | cons c cs =>
      cases ns with
      | nil => cases hn
      | cons n ns =>
        rw [exactLoop]
        dsimp only
        generalize hA : A / 2 ^ 32 + a * b.toNat + c.toNat = A'
        generalize hB : B / 2 ^ 32 + d0 * n.toNat + A' % 2 ^ 32 = B'
        obtain ⟨hlen, hval⟩ := ih A' B' cs ns (Nat.succ.inj hc) (Nat.succ.inj hn)
        refine ⟨by rw [List.length_cons, hlen, List.length_cons], ?_⟩
        have hdivA := Nat.mod_add_div A' (2 ^ 32)
        have hdivB := Nat.mod_add_div B' (2 ^ 32)
        rw [value_cons, value_cons, value_cons, value_cons, List.length_cons, UInt32.toNat_ofNat',
          pow_succ (2 ^ 32) bs.length]
        generalize (exactLoop a d0 A' B' bs cs ns).2.1 / 2 ^ 32 +
          (exactLoop a d0 A' B' bs cs ns).2.2 / 2 ^ 32 = carries at hval ⊢
        generalize ((2 : Nat) ^ 32) ^ bs.length = R at hval ⊢
        linarith

section
variable (hk : key.Montgomery)
include hk

theorem Vb2PublicKey.Montgomery.words_pos : 0 < key.words := by
  by_contra h
  have h0 : key.words = 0 := by omega
  have hlt := value_lt key.n
  rw [hk.lengthN, h0] at hlt
  have hodd := hk.odd
  have hm : key.modulus = value key.n := rfl
  omega

theorem Vb2PublicKey.Montgomery.modulus_lt : key.modulus < (2 ^ 32) ^ key.words := by
  have h := value_lt key.n
  rwa [hk.lengthN] at h

theorem Vb2PublicKey.Montgomery.modulus_pos : 0 < key.modulus := by
  have h := hk.odd
  omega

theorem Vb2PublicKey.Montgomery.coprime (e : Nat) : Nat.Coprime key.modulus ((2 ^ 32) ^ e) := by
  apply Nat.Coprime.pow_right
  apply Nat.Coprime.pow_right
  rw [Nat.Coprime, Nat.gcd_comm, Nat.gcd_rec, hk.odd]
  rfl

variable {ns : List UInt32}

theorem firstWord_dvd {n0 : UInt32} (hn : key.n = n0 :: ns) (t : Nat) :
    2 ^ 32 ∣ t + t * key.n0inv.toNat % 2 ^ 32 * n0.toNat := by
  have hm : key.modulus = n0.toNat + 2 ^ 32 * value ns := by
    rw [Vb2PublicKey.modulus, hn, value_cons]
  have hinv : 2 ^ 32 ∣ key.n0inv.toNat * n0.toNat + 1 := by
    have h := Nat.dvd_of_mod_eq_zero hk.inverse
    have hsplit : key.n0inv.toNat * key.modulus + 1 =
        (key.n0inv.toNat * n0.toNat + 1) + 2 ^ 32 * (key.n0inv.toNat * value ns) := by
      rw [hm]
      ring
    rw [hsplit] at h
    exact (Nat.dvd_add_left (Dvd.intro _ rfl)).mp h
  exact montgomery_digit hinv

theorem exactLoop_quotient {n0 : UInt32} (hn : key.n = n0 :: ns)
    {b0 c0 : UInt32} {bs cs : List UInt32} (hb : bs.length = ns.length) (hc : cs.length = ns.length)
    {a d0 A B : Nat} (hA : a * b0.toNat + c0.toNat = A)
    (hd : A % 2 ^ 32 * key.n0inv.toNat % 2 ^ 32 = d0) (hB : d0 * n0.toNat + A % 2 ^ 32 = B) :
    2 ^ 32 * (value (exactLoop a d0 A B bs cs ns).1 + (2 ^ 32) ^ ns.length *
      ((exactLoop a d0 A B bs cs ns).2.1 / 2 ^ 32 + (exactLoop a d0 A B bs cs ns).2.2 / 2 ^ 32)) =
      value (c0 :: cs) + a * value (b0 :: bs) + d0 * key.modulus := by
  have hloop := (exactLoop_value a d0 A B bs cs ns (hc.trans hb.symm) hb.symm).2
  rw [hb] at hloop
  have hdvd : 2 ^ 32 ∣ B := by
    have h := firstWord_dvd hk hn (A % 2 ^ 32)
    rw [hd] at h
    rw [← hB, Nat.add_comm]
    exact h
  have hBdiv := Nat.mul_div_cancel' hdvd
  have hAdiv := Nat.mod_add_div A (2 ^ 32)
  rw [hloop, Vb2PublicKey.modulus, hn, value_cons, value_cons, value_cons]
  linarith

/-- A quotient below R + n and its words with a carry: after the subtraction the result fits. -/
theorem reduceCarry_spec {c : List UInt32} (hc : c.length = key.words) {q carry : Nat}
    (hq : value c + (2 ^ 32) ^ key.words * carry = q) (hlt : q < (2 ^ 32) ^ key.words + key.modulus) :
    (if carry ≠ 0 then subM key c else c).length = key.words ∧
    ∃ j ≤ 1, value (if carry ≠ 0 then subM key c else c) + j * key.modulus = q := by
  split_ifs with h
  · have hle : (2 ^ 32) ^ key.words ≤ (2 ^ 32) ^ key.words * carry :=
      Nat.le_mul_of_pos_right _ (by omega)
    have hm := hk.modulus_lt
    have hx : value c + (2 ^ 32) ^ key.words * carry = (q - key.modulus) + key.modulus := by omega
    obtain ⟨hlen, hval⟩ := subM_value hk.lengthN hc (by omega) hx
    exact ⟨hlen, 1, Nat.le_refl 1, by omega⟩
  · have h0 : carry = 0 := not_not.mp h
    rw [h0, Nat.mul_zero, Nat.add_zero] at hq
    exact ⟨hc, 0, Nat.zero_le 1, by omega⟩

theorem montMulAdd_spec {c : List UInt32} (hc : c.length = key.words) (hb : b.length = key.words)
    (a : UInt32) :
    (montMulAdd key c a b).length = key.words ∧
    ∃ d0 < 2 ^ 32, ∃ j ≤ 1, 2 ^ 32 * (value (montMulAdd key c a b) + j * key.modulus) =
      value c + a.toNat * value b + d0 * key.modulus := by
  have hpos := hk.words_pos
  obtain ⟨b0, bs, rfl⟩ := List.exists_cons_of_length_pos (hb ▸ hpos)
  obtain ⟨c0, cs, rfl⟩ := List.exists_cons_of_length_pos (hc ▸ hpos)
  obtain ⟨n0, ns, hn⟩ := List.exists_cons_of_length_pos (hk.lengthN ▸ hpos)
  have hnl : ns.length + 1 = key.words := by rw [← hk.lengthN, hn, List.length_cons]
  have hbl : bs.length = ns.length := by
    rw [List.length_cons] at hb
    omega
  have hcl : cs.length = ns.length := by
    rw [List.length_cons] at hc
    omega
  have hvc := value_lt (c0 :: cs)
  have hvb := value_lt (b0 :: bs)
  rw [hc] at hvc
  rw [hb] at hvb
  rw [montMulAdd_exact]
  unfold exactMulAdd
  rw [hn]
  dsimp only
  generalize hA : a.toNat * b0.toNat + c0.toNat = A
  generalize hd : A % 2 ^ 32 * key.n0inv.toNat % 2 ^ 32 = d0
  generalize hB : d0 * n0.toNat + A % 2 ^ 32 = B
  have hquot := exactLoop_quotient hk hn hbl hcl hA hd hB
  have hlen := (exactLoop_value a.toNat d0 A B bs cs ns (hcl.trans hbl.symm) hbl.symm).1
  rw [hbl] at hlen
  generalize exactLoop a.toNat d0 A B bs cs ns = r at hquot hlen ⊢
  obtain ⟨out, A', B'⟩ := r
  dsimp only at hquot hlen ⊢
  generalize A' / 2 ^ 32 + B' / 2 ^ 32 = last at hquot ⊢
  have hwords : (out ++ [UInt32.ofNat last]).length = key.words := by
    rw [List.length_append, hlen, List.length_singleton, hnl]
  have hvalue : value (out ++ [UInt32.ofNat last]) + (2 ^ 32) ^ key.words * (last / 2 ^ 32) =
      value out + (2 ^ 32) ^ ns.length * last := by
    have hdiv := Nat.mod_add_div last (2 ^ 32)
    rw [value_concat, UInt32.toNat_ofNat', hlen, ← hnl, pow_succ (2 ^ 32) ns.length, Nat.mul_assoc,
      Nat.add_assoc, ← Nat.mul_add, hdiv]
  have hd0 : d0 < 2 ^ 32 := hd ▸ Nat.mod_lt _ (Nat.two_pow_pos 32)
  have hlt := montgomery_bound hvc hvb a.toNat_lt hd0 hquot hk.modulus_pos
  obtain ⟨hl, j, hj, hsub⟩ := reduceCarry_spec hk hwords hvalue hlt
  exact ⟨hl, d0, hd0, j, hj, by rw [hsub, hquot]⟩

theorem montMul_foldl (hb : b.length = key.words) (as c : List UInt32) (hc : c.length = key.words) :
    (as.foldl (fun c ai => montMulAdd key c ai b) c).length = key.words ∧
    value (as.foldl (fun c ai => montMulAdd key c ai b) c) * (2 ^ 32) ^ as.length ≡
      value c + value as * value b [MOD key.modulus] := by
  induction as generalizing c with
  | nil => exact ⟨hc, by simp [Nat.ModEq.refl]⟩
  | cons a as ih =>
    obtain ⟨hl, d0, -, j, -, hexact⟩ := montMulAdd_spec hk hc hb a
    have hstep : value (montMulAdd key c a b) * 2 ^ 32 ≡ value c + a.toNat * value b
        [MOD key.modulus] := by
      rw [Nat.ModEq, ← Nat.add_mul_mod_self_right (value c + _) d0, ← hexact, Nat.mul_add,
        ← Nat.mul_assoc, Nat.add_mul_mod_self_right, Nat.mul_comm]
    obtain ⟨hlen, hrest⟩ := ih (montMulAdd key c a b) hl
    refine ⟨hlen, ?_⟩
    rw [List.foldl_cons, List.length_cons, pow_succ (2 ^ 32) as.length, ← Nat.mul_assoc, value_cons]
    calc _ ≡ (value (montMulAdd key c a b) + value as * value b) * 2 ^ 32 [MOD key.modulus] :=
          hrest.mul_right _
      _ = value (montMulAdd key c a b) * 2 ^ 32 + 2 ^ 32 * value as * value b := by ring
      _ ≡ value c + a.toNat * value b + 2 ^ 32 * value as * value b [MOD key.modulus] :=
          hstep.add_right _
      _ = value c + (a.toNat + 2 ^ 32 * value as) * value b := by ring

theorem montMul_spec (ha : a.length = key.words) (hb : b.length = key.words) :
    (montMul key a b).length = key.words ∧
    value (montMul key a b) * (2 ^ 32) ^ key.words ≡ value a * value b [MOD key.modulus] := by
  have h := montMul_foldl hk hb a (List.replicate key.arrsize.toNat 0) List.length_replicate
  rw [value_zeroes, Nat.zero_add, ha] at h
  exact h

end

/-- The multiplication of any two numbers of the key's length: the accumulators of 64 bits lose
no carry and each step subtracts the modulus at most once. -/
theorem montMul_exact (hk : key.Montgomery) (ha : a.length = key.words) (hb : b.length = key.words) :
    (montMul key a b).length = key.words ∧
    value (montMul key a b) * 2 ^ (32 * key.words) ≡ value a * value b [MOD key.modulus] ∧
    montMul key a b = a.foldl (fun c x => exactMulAdd key c x b) (List.replicate key.words 0) ∧
    (∀ c, ∀ x ∈ borrows 0 key.n c, -2 ^ 63 ≤ x ∧ x < 2 ^ 63) ∧
    ∀ c x, c.length = key.words → ∃ d0 < 2 ^ 32, ∃ j ≤ 1,
      2 ^ 32 * (value (montMulAdd key c x b) + j * key.modulus) =
        value c + x.toNat * value b + d0 * key.modulus := by
  obtain ⟨hlen, hmod⟩ := montMul_spec hk ha hb
  rw [← pow_mul] at hmod
  have hexact : (fun c x => montMulAdd key c x b) = fun c x => exactMulAdd key c x b :=
    funext fun c => funext fun x => montMulAdd_exact c x b
  refine ⟨hlen, hmod, by rw [montMul, hexact]; rfl, fun c x hx => ?_, fun c x hc =>
    (montMulAdd_spec hk hc hb x).2⟩
  have h := borrows_small (by omega) key.n c x hx
  omega

/-- A modulus of one word and operands that are not below it. -/
theorem montMul_exact_five :
    let key : Vb2PublicKey := ⟨1, 0x33333333, [5], [1], .none, .invalid⟩
    value (montMul key [0xffffffff] [7]) * 2 ^ (32 * key.words) ≡ 0xffffffff * 7 [MOD 5] :=
  (montMul_exact ⟨rfl, by decide, by decide⟩ rfl rfl).2.1

variable (hk : key.WellFormed)
include hk

theorem Vb2PublicKey.WellFormed.le_two_mul : (2 ^ 32) ^ key.words ≤ 2 * key.modulus := by
  have hp := hk.montgomery.words_pos
  have h : (2 ^ 32) ^ key.words = 2 * 2 ^ (32 * key.words - 1) := by
    rw [← pow_mul, ← pow_succ']
    congr 1
    omega
  rw [h]
  exact Nat.mul_le_mul_left 2 hk.top

theorem montMul_represents {y : List UInt32} {u v : Nat} (hx : x.length = key.words) (hy : y.length = key.words)
    (hu : Represents key.modulus ((2 ^ 32) ^ key.words) (value x) u)
    (hv : Represents key.modulus ((2 ^ 32) ^ key.words) (value y) v) :
    (montMul key x y).length = key.words ∧
    Represents key.modulus ((2 ^ 32) ^ key.words) (value (montMul key x y)) (u * v) := by
  obtain ⟨hl, h⟩ := montMul_spec hk.montgomery hx hy
  exact ⟨hl, hu.mul (hk.montgomery.coprime key.words) hv h⟩

theorem squareTwice_spec {v : Nat} (hx : x.length = key.words)
    (hv : Represents key.modulus ((2 ^ 32) ^ key.words) (value x) v) :
    (squareTwice key x).length = key.words ∧
    Represents key.modulus ((2 ^ 32) ^ key.words) (value (squareTwice key x)) (v ^ 4) := by
  obtain ⟨hl, h⟩ := montMul_represents hk hx hx hv hv
  have hp : v ^ 4 = v * v * (v * v) := by ring
  rw [hp]
  exact montMul_represents hk hl hl h h

theorem squareTwice_iterate {v : Nat} (i : Nat) (hx : x.length = key.words)
    (hv : Represents key.modulus ((2 ^ 32) ^ key.words) (value x) v) :
    ((squareTwice key)^[i] x).length = key.words ∧
    Represents key.modulus ((2 ^ 32) ^ key.words) (value ((squareTwice key)^[i] x)) (v ^ 4 ^ i) := by
  induction i generalizing x v with
  | zero => exact ⟨hx, by rw [Nat.pow_zero, Nat.pow_one]; exact hv⟩
  | succ i ih =>
    obtain ⟨hl, h⟩ := squareTwice_spec hk hx hv
    have hp : (v ^ 4) ^ 4 ^ i = v ^ 4 ^ (i + 1) := by
      rw [← pow_mul, ← pow_succ']
    rw [← hp]
    exact ih hl h

/-- A number of the key's length is below 2n, so that one subtraction is enough. -/
theorem reduceOnce_spec (hx : x.length = key.words) :
    (if vb2MontGe key x then subM key x else x).length = key.words ∧
    value (if vb2MontGe key x then subM key x else x) = value x % key.modulus := by
  have hlt := value_lt x
  rw [hx] at hlt
  have htwo := hk.le_two_mul
  have hge := vb2MontGe_iff hk.lengthN hx
  split_ifs with h
  · have hle := hge.mp h
    have hs : value x + (2 ^ 32) ^ key.words * 0 = (value x - key.modulus) + key.modulus := by omega
    obtain ⟨hl, hv⟩ := subM_value hk.lengthN hx (by omega) hs
    refine ⟨hl, ?_⟩
    rw [hv, Nat.mod_eq_sub_mod hle, Nat.mod_eq_of_lt (a := value x - _) (by omega)]
  · have hnot : value x < key.modulus := Nat.lt_of_not_le fun hle => h (hge.mpr hle)
    exact ⟨hx, (Nat.mod_eq_of_lt hnot).symm⟩

theorem montMul_rr (ha : a.length = key.words) :
    (montMul key a key.rr).length = key.words ∧
    Represents key.modulus ((2 ^ 32) ^ key.words) (value (montMul key a key.rr)) (value a) := by
  obtain ⟨hl, h⟩ := montMul_spec hk.montgomery ha hk.lengthRr
  refine ⟨hl, Nat.ModEq.cancel_right_of_coprime (hk.montgomery.coprime key.words) (h.trans ?_)⟩
  rw [hk.square]
  have hr : 2 ^ (64 * key.words) = (2 ^ 32) ^ key.words * (2 ^ 32) ^ key.words := by
    rw [← pow_mul, ← pow_add]
    congr 1
    omega
  rw [hr, Nat.mul_assoc]
  exact (Nat.mod_modEq _ _).mul_left _

/-- A factor that is a plain number leaves the representation. -/
theorem montMul_plain {v : Nat} (hx : x.length = key.words) (ha : a.length = key.words)
    (hv : Represents key.modulus ((2 ^ 32) ^ key.words) (value x) v) :
    (montMul key x a).length = key.words ∧
    value (montMul key x a) ≡ v * value a [MOD key.modulus] := by
  obtain ⟨hl, h⟩ := montMul_spec hk.montgomery hx ha
  refine ⟨hl, Nat.ModEq.cancel_right_of_coprime (hk.montgomery.coprime key.words) (h.trans ?_)⟩
  rw [Nat.mul_right_comm]
  exact Nat.ModEq.mul_right _ hv

theorem modpow_words (ha : a.length = key.words) :
    (montMul key ((squareTwice key)^[8] (montMul key a key.rr)) a).length = key.words ∧
    value (montMul key ((squareTwice key)^[8] (montMul key a key.rr)) a) ≡ value a ^ 65537
      [MOD key.modulus] := by
  obtain ⟨hl, hbase⟩ := montMul_rr hk ha
  obtain ⟨hl₂, h₂⟩ := squareTwice_iterate hk 8 hl hbase
  have he : (65537 : Nat) = 4 ^ 8 + 1 := rfl
  rw [he, pow_succ (value a) (4 ^ 8)]
  exact montMul_plain hk hl₂ ha h₂

omit hk

theorem wordAt_cons (a b c d : UInt8) (rest : List UInt8) (i : Nat) :
    wordAt (a :: b :: c :: d :: rest) (i + 4) = wordAt rest i := rfl

theorem toWords_value (k : Nat) (bs : List UInt8) (h : bs.length = 4 * k) :
    (toWords k bs).length = k ∧ value (toWords k bs) = beValue bs := by
  induction k generalizing bs with
  | zero =>
    rw [List.length_eq_zero_iff.mp h]
    exact ⟨rfl, rfl⟩
  | succ k ih =>
    obtain ⟨a, b, c, d, rest, rfl⟩ : ∃ a b c d rest, bs = a :: b :: c :: d :: rest := by
      match bs, h with
      | a :: b :: c :: d :: rest, _ => exact ⟨a, b, c, d, rest, rfl⟩
    have hrest : rest.length = 4 * k := by
      simp only [List.length_cons] at h
      omega
    obtain ⟨hl, hv⟩ := ih rest hrest
    have hsplit : toWords (k + 1) (a :: b :: c :: d :: rest) =
        toWords k rest ++ [be32 a b c d] := by
      have hlast : (k + 1 - 1 - k) * 4 = 0 := by omega
      have hword : wordAt (a :: b :: c :: d :: rest) 0 = be32 a b c d := rfl
      rw [toWords, List.range_succ, List.map_append, List.map_singleton, toWords, hlast, hword]
      refine congrArg (· ++ [be32 a b c d]) (List.map_congr_left fun i hi => ?_)
      have hi := List.mem_range.mp hi
      have ho : (k + 1 - 1 - i) * 4 = (k - 1 - i) * 4 + 4 := by omega
      rw [ho, wordAt_cons]
    have hpow : (256 : Nat) ^ rest.length = (2 ^ 32) ^ k := by
      have h256 : (256 : Nat) ^ 4 = 2 ^ 32 := by norm_num
      rw [hrest, pow_mul, h256]
    rw [hsplit]
    constructor
    · rw [List.length_append, hl, List.length_singleton]
    · rw [value_concat, hl, hv, beValue_four, hpow]

theorem toBytes_value (ws : List UInt32) :
    (toBytes ws).length = 4 * ws.length ∧ beValue (toBytes ws) = value ws := by
  induction ws with
  | nil => exact ⟨rfl, rfl⟩
  | cons w ws ih =>
    obtain ⟨hl, hv⟩ := ih
    have hsplit : toBytes (w :: ws) = toBytes ws ++ bytes32 w := by
      rw [toBytes, List.reverse_cons, List.flatMap_append, List.flatMap_singleton, toBytes]
    have hlen : (bytes32 w).length = 4 := rfl
    have hpow : (256 : Nat) ^ 4 = 2 ^ 32 := by norm_num
    rw [hsplit]
    constructor
    · rw [List.length_append, hl, hlen, List.length_cons, Nat.mul_succ]
    · rw [beValue_append, hv, beValue_bytes32, value_cons, hlen, hpow]

theorem toBytes_reduced (hk : key.WellFormed) (hx : x.length = key.words) :
    toBytes (if vb2MontGe key x then subM key x else x) =
      toBigEndian (4 * key.words) (value x % key.modulus) := by
  obtain ⟨hl, hv⟩ := reduceOnce_spec hk hx
  apply eq_toBigEndian
  · exact (toBytes_value _).1.trans (congrArg (4 * ·) hl)
  · exact (toBytes_value _).2.trans hv

theorem modpowF4_spec (hk : key.WellFormed) {sig : List UInt8} (h : sig.length = 4 * key.words) :
    modpowF4 key sig = toBigEndian (4 * key.words) (beValue sig ^ 65537 % key.modulus) := by
  obtain ⟨hl, hv⟩ := toWords_value key.words sig h
  obtain ⟨hlw, hvw⟩ := modpow_words hk hl
  rw [← hv, ← hvw]
  exact toBytes_reduced hk hlw

end

/-! The lengths of the arrays, for any key: nothing gets longer than arrsize words. -/

section
variable (key : Vb2PublicKey)

theorem length_subMLoop_le (A : Int) (ns as : List UInt32) : (subMLoop A ns as).length ≤ as.length := by
  induction ns generalizing A as with
  | nil => exact Nat.zero_le _
  | cons n ns ih =>
    cases as with
    | nil => exact Nat.le_refl _
    | cons a as => simpa [subMLoop] using ih _ as

theorem length_montMulAddLoop_le (a d0 : UInt32) (A B : UInt64) (bs cs ns : List UInt32) :
    (montMulAddLoop a d0 A B bs cs ns).1.length ≤ cs.length := by
  induction bs generalizing A B cs ns with
  | nil => exact Nat.zero_le _
  | cons b bs ih =>
    cases cs with
    | nil => exact Nat.le_refl _
    | cons c cs =>
      cases ns with
      | nil => exact Nat.zero_le _
      | cons n ns => simpa [montMulAddLoop] using ih _ _ cs ns

theorem length_montMulAdd_le (c : List UInt32) (a : UInt32) (b : List UInt32) :
    (montMulAdd key c a b).length ≤ c.length := by
  unfold montMulAdd
  split
  · rename_i b0 bs c0 cs n0 ns _
    have hloop := length_montMulAddLoop_le a ((a.toUInt64 * b0.toUInt64 + c0.toUInt64).toUInt32 * key.n0inv)
      (a.toUInt64 * b0.toUInt64 + c0.toUInt64)
      (((a.toUInt64 * b0.toUInt64 + c0.toUInt64).toUInt32 * key.n0inv).toUInt64 * n0.toUInt64 +
        (a.toUInt64 * b0.toUInt64 + c0.toUInt64).toUInt32.toUInt64) bs cs ns
    dsimp only
    split_ifs
    · refine (length_subMLoop_le 0 key.n _).trans ?_
      simpa using hloop
    · simpa using hloop
  · exact Nat.le_refl _

theorem length_montMul_le (a b : List UInt32) : (montMul key a b).length ≤ key.arrsize.toNat := by
  have hfold (as c : List UInt32) : (as.foldl (fun c ai => montMulAdd key c ai b) c).length ≤ c.length := by
    induction as generalizing c with
    | nil => exact Nat.le_refl _
    | cons ai as ih => exact (ih _).trans (length_montMulAdd_le key c ai b)
  simpa [montMul] using hfold a (List.replicate key.arrsize.toNat 0)

theorem length_modpowF4_le (inout : List UInt8) : (modpowF4 key inout).length ≤ 4 * key.arrsize.toNat := by
  have hwords := length_montMul_le key ((squareTwice key)^[8] (montMul key
    (toWords key.arrsize.toNat inout) key.rr)) (toWords key.arrsize.toNat inout)
  rw [modpowF4, (toBytes_value _).1]
  refine Nat.mul_le_mul_left 4 ?_
  split_ifs
  · exact (length_subMLoop_le 0 key.n _).trans hwords
  · exact hwords

end
end Vboot.Vb2
