import Vboot.Lib.Limbs
import Mathlib.Data.Nat.NthRoot.Defs
import Mathlib.Data.Nat.Nth
import Mathlib.Data.Nat.Prime.Defs

/-! SHA-1, SHA-256 and SHA-512 as FIPS 180 defines them, for messages of whole bytes. -/
namespace Vboot.Lib.Fips180

variable {w n : Nat}

def ch (x y z : BitVec w) : BitVec w := (x &&& y) ^^^ (~~~x &&& z)
def parity (x y z : BitVec w) : BitVec w := x ^^^ y ^^^ z
def maj (x y z : BitVec w) : BitVec w := (x &&& y) ^^^ (x &&& z) ^^^ (y &&& z)

/-- A hash function with words of w bits and hash values of n words. A word of the message schedule is
made of those that are a number of places back, and a round takes its index and its word. -/
structure Hash (w n : Nat) where
  init : Vector (BitVec w) n
  rounds : Nat
  next : (Nat → BitVec w) → BitVec w
  round : Nat → BitVec w → Vector (BitVec w) n → Vector (BitVec w) n

namespace Hash
variable (H : Hash w n)

def schedule (message : Nat → BitVec w) (t : Nat) : BitVec w :=
  if t < 16 then message t else H.next fun k => if k = 0 ∨ t < k then 0 else schedule message (t - k)

def messageWord (block : List UInt8) (t : Nat) : BitVec w :=
  BitVec.ofNat w (beValue ((block.drop (w / 8 * t)).take (w / 8)))

def compress (v : Vector (BitVec w) n) (block : List UInt8) : Vector (BitVec w) n :=
  Vector.zipWith (· + ·) v ((List.range H.rounds).foldl
    (fun u t => H.round t (H.schedule (messageWord block) t) u) v)

end Hash

/-- The padding is as short as it can be. -/
noncomputable def zeroes (w len : Nat) : Nat := sInf {k | (len + 1 + k + w / 4) % (2 * w) = 0}

/-- The length of the message in bits, in two words, ends its last block of sixteen words. -/
noncomputable def pad (w : Nat) (msg : List UInt8) : List UInt8 :=
  msg ++ 0x80 :: (List.replicate (zeroes w msg.length) 0 ++ toBigEndian (w / 4) (8 * msg.length))

noncomputable def Hash.digest (H : Hash w n) (msg : List UInt8) : List UInt8 :=
  let m := pad w msg
  ((List.range (m.length / (2 * w))).foldl
    (fun v i => H.compress v ((m.drop (i * (2 * w))).take (2 * w))) H.init).toList.flatMap
    fun x => toBigEndian (w / 8) x.toNat

def sha1F (t : Nat) : BitVec 32 → BitVec 32 → BitVec 32 → BitVec 32 :=
  if t < 20 then ch else if t < 40 then parity else if t < 60 then maj else parity

def sha1K (t : Nat) : BitVec 32 :=
  if t < 20 then 0x5a827999 else if t < 40 then 0x6ed9eba1 else if t < 60 then 0x8f1bbcdc else 0xca62c1d6

def sha1 : Hash 32 5 where
  init := #v[0x67452301, 0xefcdab89, 0x98badcfe, 0x10325476, 0xc3d2e1f0]
  rounds := 80
  next back := (back 3 ^^^ back 8 ^^^ back 14 ^^^ back 16).rotateLeft 1
  round t x v := #v[v[0].rotateLeft 5 + sha1F t v[1] v[2] v[3] + v[4] + sha1K t + x, v[0], v[1].rotateLeft 30,
    v[2], v[3]]

/-- The first bits of the fractional part of a root of prime number i. -/
noncomputable def rootBits (w e i : Nat) : BitVec w :=
  BitVec.ofNat w (Nat.nthRoot e (Nat.nth Nat.Prime i * 2 ^ (e * w)))

/-- What SHA-256 and SHA-512 have in common. -/
noncomputable def sha2 (rounds : Nat) (bigSigma0 bigSigma1 sigma0 sigma1 : BitVec w → BitVec w) : Hash w 8 where
  init := Vector.ofFn fun i => rootBits w 2 i
  rounds := rounds
  next back := sigma1 (back 2) + back 7 + sigma0 (back 15) + back 16
  round t x v :=
    let t1 := v[7] + bigSigma1 v[4] + ch v[4] v[5] v[6] + rootBits w 3 t + x
    let t2 := bigSigma0 v[0] + maj v[0] v[1] v[2]
    #v[t1 + t2, v[0], v[1], v[2], v[3] + t1, v[4], v[5], v[6]]

noncomputable def sha256 : Hash 32 8 := sha2 64
  (fun x => x.rotateRight 2 ^^^ x.rotateRight 13 ^^^ x.rotateRight 22)
  (fun x => x.rotateRight 6 ^^^ x.rotateRight 11 ^^^ x.rotateRight 25)
  (fun x => x.rotateRight 7 ^^^ x.rotateRight 18 ^^^ x >>> 3)
  (fun x => x.rotateRight 17 ^^^ x.rotateRight 19 ^^^ x >>> 10)

noncomputable def sha512 : Hash 64 8 := sha2 80
  (fun x => x.rotateRight 28 ^^^ x.rotateRight 34 ^^^ x.rotateRight 39)
  (fun x => x.rotateRight 14 ^^^ x.rotateRight 18 ^^^ x.rotateRight 41)
  (fun x => x.rotateRight 1 ^^^ x.rotateRight 8 ^^^ x >>> 7)
  (fun x => x.rotateRight 19 ^^^ x.rotateRight 61 ^^^ x >>> 6)

theorem filter_range_eq_nth (P : Nat → Prop) [DecidablePred P] (N : Nat) :
    (List.range N).filter P = (List.range (Nat.count P N)).map (Nat.nth P) := by
  induction N with
  | zero => rfl
  | succ N ih =>
    rw [List.range_succ, List.filter_append, ih, Nat.count_succ]
    by_cases h : P N
    · simp [h, List.range_succ, Nat.nth_count]
    · simp [h]

/-- A composite number below 21 ^ 2 has a divisor below 21. -/
theorem prime_iff_of_lt {p : Nat} (hp : p < 441) :
    Nat.Prime p ↔ 2 ≤ p ∧ ∀ m < 21, 2 ≤ m → m * m ≤ p → ¬ m ∣ p := by
  rw [Nat.prime_def_le_sqrt]
  refine and_congr_right fun _ => ⟨fun h m _ hm hle => h m hm (Nat.le_sqrt.mpr hle), fun h m hm hle => ?_⟩
  have hsq := Nat.le_sqrt.mp hle
  exact h m (Nat.lt_of_not_le fun hlt => absurd (Nat.mul_le_mul hlt hlt) (by omega)) hm hsq

theorem nth_primes : (List.range 80).map (Nat.nth Nat.Prime) =
    (List.range 410).filter fun p => 2 ≤ p ∧ ∀ m < 21, 2 ≤ m → m * m ≤ p → ¬ m ∣ p := by
  have hfilter : (List.range 410).filter (fun p => 2 ≤ p ∧ ∀ m < 21, 2 ≤ m → m * m ≤ p → ¬ m ∣ p) =
      (List.range 410).filter Nat.Prime :=
    List.filter_congr fun p hp => decide_eq_decide.mpr
      (prime_iff_of_lt ((List.mem_range.mp hp).trans (by decide))).symm
  have hlen : ((List.range 410).filter fun p => 2 ≤ p ∧ ∀ m < 21, 2 ≤ m → m * m ≤ p → ¬ m ∣ p).length = 80 := by
    decide +kernel
  have hcount := hlen
  rw [hfilter, filter_range_eq_nth, List.length_map, List.length_range] at hcount
  rw [hfilter, filter_range_eq_nth, hcount]

end Vboot.Lib.Fips180
