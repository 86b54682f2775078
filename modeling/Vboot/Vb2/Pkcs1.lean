import Vboot.Vb2.Modpow

/-! Signature verification accepts a signature exactly if its power is the EMSA-PKCS1-v1_5
encoding of the digest. -/
namespace Vboot.Vb2
open Vboot.Lib

/-- The DigestInfo of a hash algorithm without the digest. -/
def digestInfo : Vb2HashAlgorithm → Option (List UInt8)
  | .sha1 => some
    [0x30, 0x21, 0x30, 0x09, 0x06, 0x05, 0x2b, 0x0e, 0x03, 0x02, 0x1a, 0x05, 0x00, 0x04, 0x14]
  | .sha256 => some
    [0x30, 0x31, 0x30, 0x0d, 0x06, 0x09, 0x60, 0x86, 0x48, 0x01, 0x65, 0x03, 0x04, 0x02, 0x01, 0x05,
      0x00, 0x04, 0x20]
  | .sha512 => some
    [0x30, 0x51, 0x30, 0x0d, 0x06, 0x09, 0x60, 0x86, 0x48, 0x01, 0x65, 0x03, 0x04, 0x02, 0x03, 0x05,
      0x00, 0x04, 0x40]
  | .invalid => none

/-- The encoding of a digest in the given number of bytes: 00 01, padding, 00 and the
DigestInfo with the digest. -/
def emsaPkcs1 (alg : Vb2HashAlgorithm) (digest : List UInt8) (len : Nat) : Option (List UInt8) :=
  (digestInfo alg).map fun info =>
    let t := info ++ digest
    [0x00, 0x01] ++ List.replicate (len - t.length - 3) 0xff ++ [0x00] ++ t

theorem differences_eq_zero (s1 s2 : Nat → UInt8) (size : Nat) :
    differences s1 s2 size = 0 ↔ ∀ i < size, s1 i = s2 i := by
  induction size with
  | zero => exact ⟨fun _ i hi => absurd hi (Nat.not_lt_zero i), fun _ => rfl⟩
  | succ size ih =>
    have hstep : differences s1 s2 (size + 1) = differences s1 s2 size ||| (s1 size ^^^ s2 size) := by
      rw [differences, List.range_succ, List.foldl_append]
      rfl
    rw [hstep, UInt8.or_eq_zero_iff, ih, UInt8.xor_eq_zero_iff]
    constructor
    · rintro ⟨hlt, he⟩ i hi
      rcases Nat.lt_succ_iff_lt_or_eq.mp hi with hi | rfl
      · exact hlt i hi
      · exact he
    · intro h
      exact ⟨fun i hi => h i (Nat.lt_succ_of_lt hi), h size (Nat.lt_succ_self size)⟩

variable {xs ys : List UInt8}

theorem vb2SafeMemcmp_eq_false {n : Nat} :
    vb2SafeMemcmp xs ys n = false ↔ ∀ i < n, xs.getD i 0 = ys.getD i 0 := by
  rw [vb2SafeMemcmp, bne_eq_false_iff_eq, differences_eq_zero]

theorem vb2SafeMemcmp_iff (h : ys.length ≤ xs.length) :
    vb2SafeMemcmp xs ys ys.length = false ↔ xs.take ys.length = ys := by
  rw [vb2SafeMemcmp_eq_false]
  constructor
  · intro he
    apply List.ext_getElem
    · rw [List.length_take]
      omega
    · intro i hi hi'
      have hg := he i hi'
      rw [List.getD_eq_getElem _ _ (by omega), List.getD_eq_getElem _ _ hi'] at hg
      rw [List.getElem_take]
      exact hg
  · intro he i hi
    rw [← he, List.getD_eq_getElem?_getD, List.getD_eq_getElem?_getD, List.getElem?_take_of_lt hi]

/-- What precedes the digest: two bytes, a number of bytes 0xff and a tail. -/
abbrev fullPadding (count : Nat) (tail : List UInt8) : List UInt8 :=
  [0x00, 0x01] ++ List.replicate count 0xff ++ tail

theorem length_fullPadding (count : Nat) (tail : List UInt8) :
    (fullPadding count tail).length = 2 + count + tail.length := by
  rw [List.length_append, List.length_append, List.length_replicate]
  rfl

theorem getD_fullPadding_fill {count i : Nat} (h : i < count) (tail : List UInt8) :
    (fullPadding count tail).getD (2 + i) 0 = 0xff := by
  rw [fullPadding, List.append_assoc, Nat.add_comm, List.getD_append_right _ _ _ _ (Nat.le_add_left 2 i)]
  change (List.replicate count (0xff : UInt8) ++ tail).getD i 0 = _
  rw [List.getD_append _ _ _ _ (by rw [List.length_replicate]; exact h), List.getD_replicate _ h]

theorem getD_fullPadding_tail (count i : Nat) (tail : List UInt8) :
    (fullPadding count tail).getD (2 + count + i) 0 = tail.getD i 0 := by
  have hlen : ([0x00, 0x01] ++ List.replicate count (0xff : UInt8)).length = 2 + count := by
    rw [List.length_append, List.length_replicate]
    rfl
  rw [List.getD_append_right _ _ _ _ (by omega), hlen, Nat.add_sub_cancel_left]

theorem checkTail_fullPadding {buf tail : List UInt8} {padSize : UInt32} {count : Nat}
    (hcount : (padSize - UInt32.ofNat tail.length - 2).toNat = count) :
    checkTail buf padSize tail = vb2Success ↔
      vb2SafeMemcmp buf (fullPadding count tail) (2 + count + tail.length) = false := by
  have hne : vb2ErrorRsaPadding ≠ vb2Success := by decide
  have hhead : (buf.getD 0 0 ^^^ 0x00) ||| (buf.getD 1 0 ^^^ 0x01) |||
      differences (fun i => buf.getD (2 + i) 0) (fun _ => 0xff) count = 0 ↔
      (buf.getD 0 0 = 0x00 ∧ buf.getD 1 0 = 0x01) ∧ ∀ i < count, buf.getD (2 + i) 0 = 0xff := by
    rw [UInt8.or_eq_zero_iff, UInt8.or_eq_zero_iff, UInt8.xor_eq_zero_iff, UInt8.xor_eq_zero_iff,
      differences_eq_zero]
  have htail : vb2SafeMemcmp (buf.drop (2 + count)) tail tail.length = false ↔
      ∀ i < tail.length, buf.getD (2 + count + i) 0 = tail.getD i 0 := by
    rw [vb2SafeMemcmp_eq_false]
    simp only [List.getD_eq_getElem?_getD, List.getElem?_drop]
  have hparts : checkTail buf padSize tail = vb2Success ↔
      ((buf.getD 0 0 = 0x00 ∧ buf.getD 1 0 = 0x01) ∧ ∀ i < count, buf.getD (2 + i) 0 = 0xff) ∧
        ∀ i < tail.length, buf.getD (2 + count + i) 0 = tail.getD i 0 := by
    rw [checkTail, hcount, ← hhead, ← htail]
    split_ifs with h
    · rcases h with h | h
      · exact iff_of_false hne fun hx => h hx.1
      · exact iff_of_false hne fun hx => Bool.false_ne_true (hx.2.symm.trans h)
    · obtain ⟨h1, h2⟩ := not_or.mp h
      exact iff_of_true rfl ⟨not_not.mp h1, Bool.eq_false_of_not_eq_true h2⟩
  rw [hparts, vb2SafeMemcmp_eq_false]
  constructor
  · rintro ⟨⟨⟨h0, h1⟩, hfill⟩, htail⟩ i hi
    match i with
    | 0 => exact h0
    | 1 => exact h1
    | i + 2 =>
      by_cases hlt : i < count
      · rw [Nat.add_comm, hfill i hlt, getD_fullPadding_fill hlt]
      · have hsplit : i + 2 = 2 + count + (i - count) := by omega
        rw [hsplit, htail _ (by omega), getD_fullPadding_tail]
  · intro h
    refine ⟨⟨⟨h 0 (by omega), h 1 (by omega)⟩, fun i hi => ?_⟩, fun i hi => ?_⟩
    · rw [h _ (by omega), getD_fullPadding_fill hi]
    · rw [h _ (by omega), getD_fullPadding_tail]

theorem checkTail_iff {sig tail digest : List UInt8} {padSize : UInt32} {count : Nat}
    (hpad : padSize.toNat = 2 + count + tail.length) (hlen : sig.length = padSize.toNat + digest.length)
    (hcount : (padSize - UInt32.ofNat tail.length - 2).toNat = count) :
    (checkTail sig padSize tail = vb2Success ∧
      vb2SafeMemcmp (sig.drop padSize.toNat) digest digest.length = false) ↔
    sig = fullPadding count tail ++ digest := by
  have hl := length_fullPadding count tail
  have hdrop : (sig.drop padSize.toNat).length = digest.length := by
    rw [List.length_drop]
    omega
  rw [checkTail_fullPadding hcount, ← hl, vb2SafeMemcmp_iff (by omega), vb2SafeMemcmp_iff hdrop.ge,
    List.take_of_length_le hdrop.le, hpad, ← hl]
  constructor
  · rintro ⟨h1, h2⟩
    rw [← List.take_append_drop (fullPadding count tail).length sig, h1, h2]
  · rintro rfl
    exact ⟨List.take_left, List.drop_left⟩

def RsaAccepts (key : Vb2PublicKey) (sig digest : List UInt8) : Prop :=
  vb2RsaSigSize key.sigAlg ≠ 0 ∧ key.arrsize * 4 = vb2RsaSigSize key.sigAlg ∧
  vb2CheckPadding (modpowF4 key sig) key = vb2Success ∧
  vb2SafeMemcmp ((modpowF4 key sig).drop (vb2RsaSigSize key.sigAlg - vb2DigestSize key.hashAlg).toNat) digest
    (key.arrsize * 4 - (vb2RsaSigSize key.sigAlg - vb2DigestSize key.hashAlg)).toNat = false

section
variable {key : Vb2PublicKey}

theorem vb2RsaVerifyDigest_space {align : UInt32} {wb : Vb2Workbuf} (hsize : vb2RsaSigSize key.sigAlg ≠ 0)
    (hwords : key.arrsize * 4 = vb2RsaSigSize key.sigAlg) (sig digest : List UInt8)
    (hwb : (vb2WorkbufAlloc align wb (3 * (key.arrsize * 4))).1 ≠ none) :
    ((vb2RsaVerifyDigest align (some key) (some sig) (some digest) wb).1 = vb2Success ↔
      RsaAccepts key sig digest) ∧
    (vb2RsaVerifyDigest align (some key) (some sig) (some digest) wb).2 = some (modpowF4 key sig) := by
  have hne : vb2ErrorRsaPaddingSize ≠ vb2Success := by decide
  have hne' : vb2ErrorRsaVerifyDigest ≠ vb2Success := by decide
  rw [vb2RsaVerifyDigest, RsaAccepts]
  dsimp only
  rw [if_neg hsize, if_neg (not_not.mpr hwords), if_neg hwb]
  generalize hrv : vb2CheckPadding (modpowF4 key sig) key = rv
  generalize vb2SafeMemcmp _ digest _ = differs
  split_ifs with h1 h2 h3
  · refine ⟨iff_of_false (fun h => hne (h1.symm.trans h)) fun h => hne (h1.symm.trans h.2.2.1), rfl⟩
  · exact ⟨iff_of_false hne' fun h => Bool.false_ne_true (h.2.2.2.symm.trans h2), rfl⟩
  · exact ⟨iff_of_false h3 fun h => h3 h.2.2.1, rfl⟩
  · exact ⟨⟨fun h => ⟨hsize, hwords, h, Bool.eq_false_of_not_eq_true h2⟩, fun h => h.2.2.1⟩, rfl⟩

theorem vb2WorkbufAlloc_ne_none {align size : UInt32} {wb : Vb2Workbuf} (h : wbRoundUp align size ≤ wb.size) :
    (vb2WorkbufAlloc align wb size).1 ≠ none := by
  rw [vb2WorkbufAlloc, if_neg (UInt32.not_lt.mpr h)]
  exact Option.some_ne_none _

theorem mul_four {words size : UInt32} (h : 4 * words.toNat = size.toNat) : words * 4 = size := by
  have hfour : (4 : UInt32).toNat = 4 := rfl
  have hlt := size.toNat_lt
  apply UInt32.toNat_inj.mp
  rw [UInt32.toNat_mul, hfour, Nat.mod_eq_of_lt (by omega)]
  omega

theorem sigSize_ne_zero (hk : key.WellFormed) (hsize : 4 * key.words = (vb2RsaSigSize key.sigAlg).toNat) :
    vb2RsaSigSize key.sigAlg ≠ 0 := by
  intro h
  have hpos := hk.montgomery.words_pos
  rw [h] at hsize
  change 4 * key.words = 0 at hsize
  omega

theorem vb2CheckPadding_info {info : List UInt8} (hinfo : digestInfo key.hashAlg = some info)
    (hnot : vb2RsaSigSize key.sigAlg ≠ 0) (buf : List UInt8) :
    info.length + (vb2DigestSize key.hashAlg).toNat + 3 ≤ (vb2RsaSigSize key.sigAlg).toNat ∧
      vb2CheckPadding buf key = checkTail buf (vb2RsaSigSize key.sigAlg - vb2DigestSize key.hashAlg)
        (0x00 :: info) := by
  have hlarge : 128 ≤ (vb2RsaSigSize key.sigAlg).toNat := by
    cases h : key.sigAlg <;> simp [vb2RsaSigSize, h] at hnot ⊢
  rw [vb2CheckPadding]
  generalize vb2RsaSigSize key.sigAlg = size at hnot hlarge
  have hle {n : UInt32} (hn : n ≤ 64) : ¬ n > size := by
    rw [gt_iff_lt, UInt32.lt_iff_toNat_lt, Nat.not_lt]
    exact (UInt32.le_iff_toNat_le.mp hn).trans (le_trans (by decide) hlarge)
  cases halg : key.hashAlg with
  | invalid =>
    rw [halg] at hinfo
    cases hinfo
  | sha1 | sha256 | sha512 =>
    rw [halg] at hinfo
    cases hinfo
    refine ⟨le_trans (by decide) hlarge, if_neg ?_⟩
    rintro (h | h | h)
    · exact hnot h
    · exact absurd h (by decide)
    · exact hle (by decide) h

/-- The power of a signature is compared with the encoding of the digest. -/
theorem rsaAccepts_iff (hk : key.WellFormed) (hsize : 4 * key.words = (vb2RsaSigSize key.sigAlg).toNat)
    {sig digest : List UInt8} (hsig : sig.length = 4 * key.words)
    (hdigest : digest.length = (vb2DigestSize key.hashAlg).toNat) :
    RsaAccepts key sig digest ↔ emsaPkcs1 key.hashAlg digest (4 * key.words) =
      some (toBigEndian (4 * key.words) (beValue sig ^ 65537 % key.modulus)) := by
  have hnot := sigSize_ne_zero hk hsize
  have hlen : (modpowF4 key sig).length = 4 * key.words := by
    rw [modpowF4_spec hk hsig, length_toBigEndian]
  rw [RsaAccepts, mul_four hsize, emsaPkcs1, ← modpowF4_spec hk hsig]
  cases hinfo : digestInfo key.hashAlg with
  | none =>
    have halg : key.hashAlg = .invalid := by
      cases h : key.hashAlg <;> rw [h] at hinfo <;> first | rfl | cases hinfo
    have hpadding : vb2CheckPadding (modpowF4 key sig) key = vb2ErrorRsaPaddingSize := by
      rw [vb2CheckPadding, halg]
      exact if_pos (.inr (.inl rfl))
    rw [hpadding]
    exact iff_of_false (fun h => absurd h.2.2.1 (by decide)) fun h => by cases h
  | some info =>
    obtain ⟨hroom, hpadding⟩ := vb2CheckPadding_info hinfo hnot (modpowF4 key sig)
    rw [hpadding, hsize, Option.map_some, Option.some.injEq, eq_comm (b := modpowF4 key sig)]
    rw [hsize] at hlen
    generalize vb2RsaSigSize key.sigAlg = size at hnot hroom hlen ⊢
    generalize vb2DigestSize key.hashAlg = hashSize at hdigest hroom ⊢
    have hs := size.toNat_lt
    have hpad : (size - hashSize).toNat = size.toNat - hashSize.toNat :=
      UInt32.toNat_sub_of_le _ _ (UInt32.le_iff_toNat_le.mpr (by omega))
    have hrest : (size - (size - hashSize)).toNat = digest.length := by
      rw [UInt32.toNat_sub_of_le _ _ (UInt32.le_iff_toNat_le.mpr (by omega)), hpad]
      omega
    have htail : (0x00 :: info).length = info.length + 1 := List.length_cons
    have hcount : (size - hashSize - UInt32.ofNat (0x00 :: info).length - 2).toNat =
        size.toNat - (info ++ digest).length - 3 := by
      have hsz : UInt32.size = 2 ^ 32 := rfl
      have hlen : (UInt32.ofNat (0x00 :: info).length).toNat = info.length + 1 := by
        rw [htail, UInt32.toNat_ofNat_of_lt' (by omega)]
      have h2 : (2 : UInt32).toNat = 2 := rfl
      have hsub := UInt32.toNat_sub_of_le (size - hashSize) (UInt32.ofNat (0x00 :: info).length)
        (by rw [UInt32.le_iff_toNat_le, hlen, hpad]; omega)
      rw [UInt32.toNat_sub_of_le _ _ (by rw [UInt32.le_iff_toNat_le, hsub, hlen, hpad]; omega), hsub,
        hlen, hpad, h2, List.length_append]
      omega
    have hiff := @checkTail_iff (modpowF4 key sig) (0x00 :: info) digest (size - hashSize) _
      (by rw [htail, hpad, List.length_append]; omega) (by rw [hpad]; omega) hcount
    rw [hrest, hiff, List.append_assoc, List.append_assoc _ [0x00]]
    exact ⟨fun h => h.2.2, fun h => ⟨hnot, rfl, h⟩⟩

/-- Verification succeeds exactly if the power of the signature is the encoding of the
digest. -/
theorem vb2RsaVerifyDigest_iff (hk : key.WellFormed)
    (hsize : 4 * key.words = (vb2RsaSigSize key.sigAlg).toNat) {sig digest : List UInt8}
    (hsig : sig.length = 4 * key.words)
    (hdigest : digest.length = (vb2DigestSize key.hashAlg).toNat) {align : UInt32} {wb : Vb2Workbuf}
    (hwb : wbRoundUp align (3 * (key.arrsize * 4)) ≤ wb.size) :
    (vb2RsaVerifyDigest align (some key) (some sig) (some digest) wb).1 = vb2Success ↔
      emsaPkcs1 key.hashAlg digest (4 * key.words) =
        some (toBigEndian (4 * key.words) (beValue sig ^ 65537 % key.modulus)) := by
  rw [(vb2RsaVerifyDigest_space (sigSize_ne_zero hk hsize) (mul_four hsize) sig digest
    (vb2WorkbufAlloc_ne_none hwb)).1]
  exact rsaAccepts_iff hk hsize hsig hdigest

end

def sampleKey : Vb2PublicKey where
  arrsize := 32
  n0inv := 1
  n := List.replicate 32 0xffffffff
  rr := 1 :: List.replicate 31 0
  sigAlg := .rsa1024
  hashAlg := .sha1

def sampleDigest : List UInt8 :=
  [0, 1, 2, 3, 4, 5, 6, 7, 8, 9, 10, 11, 12, 13, 14, 15, 16, 17, 18, 19]

/- The modulus 2^1024 - 1 is a product of known primes, so that its signatures can be computed. -/
def sampleSignature : List UInt8 :=
  [0x6584ed34, 0x19b07cf1, 0xa2de985a, 0x73eb1d0c, 0x90248024, 0xed868bbe, 0xa953056e, 0x0c0e2929,
    0x73b71509, 0x652f3b16, 0x17285fb2, 0x73fb41be, 0xf6b7fb57, 0x0aa7c2ea, 0xad7d0a9e, 0x9fe69fb5,
    0x768cdf37, 0x6bcb191d, 0x6ee5c0b0, 0x236abcee, 0x572b2819, 0x526d9735, 0xe0c5c383, 0xf4f926f3,
    0xf52ef04e, 0x89a593d9, 0x23a1ca5f, 0x8239f755, 0xcb2c51d1, 0xb37c6d3b, 0xdc433aef,
    0x54f34afc].flatMap bytes32

theorem sampleKey_wellFormed : sampleKey.WellFormed := by
  constructor <;> decide +kernel

theorem sampleSignature_rsa : RsaAccepts sampleKey sampleSignature sampleDigest :=
  (rsaAccepts_iff sampleKey_wellFormed (by decide) (by decide +kernel) (by decide)).mpr (by decide +kernel)

theorem sampleKey_verifies {sig digest : List UInt8} (h : RsaAccepts sampleKey sig digest)
    {wb : Vb2Workbuf} (hwb : 384 ≤ wb.size) :
    (vb2RsaVerifyDigest 16 (some sampleKey) (some sig) (some digest) wb).1 = vb2Success := by
  have hround : wbRoundUp 16 (3 * (sampleKey.arrsize * 4)) ≤ wb.size := hwb
  exact (vb2RsaVerifyDigest_space h.1 h.2.1 sig digest (vb2WorkbufAlloc_ne_none hround)).1.mpr h

theorem sampleSignature_accepted :
    (vb2RsaVerifyDigest 16 (some sampleKey) (some sampleSignature) (some sampleDigest)
      ⟨0, 0x1000⟩).1 = vb2Success :=
  (vb2RsaVerifyDigest_iff sampleKey_wellFormed (by decide) (by decide +kernel) (by decide)
    (by decide)).mpr (by decide +kernel)

end Vboot.Vb2
