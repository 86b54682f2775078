import Vboot.Lib.Fips180
import Vboot.Vb2.Digest

/-! The digests of the vboot2 library are those of FIPS 180, however the message is split. -/
namespace Vboot.Vb2
open Vboot.Lib Fips180

section
variable {W : Type} {w n : Nat} {bits : W → BitVec w}

theorem bits_getD {l : List W} {f : Nat → BitVec w} {k t : Nat} (d : W) (h : l.map bits = (List.range t).map f)
    (hk : k < t) : bits (l.getD k d) = f k := by
  have hget := congrArg (·[k]?) h
  simp only [List.getElem?_map, List.getElem?_range hk, Option.map_some, Option.map_eq_some_iff] at hget
  obtain ⟨x, hx, hfx⟩ := hget
  rw [List.getD_eq_getElem?_getD, hx, Option.getD_some, hfx]

theorem schedule_map {next : List W → Nat → W} {f : Nat → BitVec w}
    (hnext : ∀ l t, 16 ≤ t → l.map bits = (List.range t).map f → bits (next l t) = f t) {first : List W}
    (hfirst : first.map bits = (List.range 16).map f) (k : Nat) :
    (schedule next (16 + k) first).map bits = (List.range (16 + k)).map f := by
  rw [schedule, Nat.add_sub_cancel_left]
  induction k with
  | zero => exact hfirst
  | succ k ih =>
    rw [List.range'_1_concat, List.foldl_append, List.foldl_cons, List.foldl_nil, List.map_append, ih,
      List.map_singleton, hnext _ (16 + k) (Nat.le_add_right _ _) ih, ← Nat.add_assoc, List.range_succ, List.map_append]
    rfl

/-- A compression function that follows the standard in its words and in its rounds. -/
theorem compress_map [Add W] {H : Hash w n} (hadd : ∀ x y, bits (x + y) = bits x + bits y)
    {next : List W → Nat → W} {round : List W → List W → Nat → List W} {k : Nat} (hrounds : H.rounds = 16 + k)
    (hnext : ∀ l t f, 16 ≤ t → l.map bits = (List.range t).map f →
      bits (next l t) = H.next fun k => if k = 0 ∨ t < k then 0 else f (t - k))
    (hround : ∀ ws s v t f, ws.map bits = (List.range H.rounds).map f → t < H.rounds → s.map bits = v.toList →
      (round ws s t).map bits = (H.round t (f t) v).toList)
    {block : List UInt8} {first : List W}
    (hfirst : first.map bits = (List.range 16).map (Hash.messageWord block)) {l : List W}
    {v : Vector (BitVec w) n} (hl : l.map bits = v.toList) :
    (List.zipWith (· + ·) l ((List.range (16 + k)).foldl (round (schedule next (16 + k) first)) l)).map bits =
      (H.compress v block).toList := by
  have hwords := @schedule_map _ _ bits next (H.schedule (Hash.messageWord block))
    (fun l t ht hl => by rw [hnext l t _ ht hl, Hash.schedule, if_neg (Nat.not_lt.mpr ht)])
    first (by
      rw [hfirst]
      refine List.map_congr_left fun t ht => ?_
      rw [Hash.schedule, if_pos (List.mem_range.mp ht)]) k
  rw [← hrounds] at hwords ⊢
  have hfold := @List.foldl_rel _ _ _ (List.range H.rounds) (round (schedule next H.rounds first))
    (fun u t => H.round t (H.schedule (Hash.messageWord block) t) u) l v
    (fun s u => s.map bits = u.toList) hl fun t ht s u hs =>
      hround _ s u t _ hwords (List.mem_range.mp ht) hs
  rw [Hash.compress, Vector.toList_zipWith, ← hl, ← hfold, List.map_zipWith, List.zipWith_map]
  simp only [hadd]

end

theorem rootBits_table (w e : Nat) : (List.range 80).map (rootBits w e) =
    ((List.range 410).filter fun p => 2 ≤ p ∧ ∀ m < 21, 2 ≤ m → m * m ≤ p → ¬ m ∣ p).map
      fun p => BitVec.ofNat w (Nat.nthRoot e (p * 2 ^ (e * w))) := by
  rw [← nth_primes, List.map_map]
  rfl

variable {block : List UInt8}

theorem beValue_take_four {i : Nat} (h : i + 4 ≤ block.length) :
    beValue ((block.drop i).take 4) = (wordAt block i).toNat := by
  have hget {j : Nat} (hj : i + j < block.length) : block.getD (i + j) 0 = block[i + j] :=
    List.getD_eq_getElem _ _ hj
  have htake : (block.drop i).take 4 =
      [block.getD i 0, block.getD (i + 1) 0, block.getD (i + 2) 0, block.getD (i + 3) 0] := by
    refine List.ext_getElem (by simp; omega) fun j h1 h2 => ?_
    have hj : j < 4 := h2
    rw [List.getElem_take, List.getElem_drop]
    match j, hj with
    | 0, _ => exact (hget (by omega)).symm
    | 1, _ => exact (hget (by omega)).symm
    | 2, _ => exact (hget (by omega)).symm
    | 3, _ => exact (hget (by omega)).symm
  have hfour := beValue_four (block.getD i 0) (block.getD (i + 1) 0) (block.getD (i + 2) 0) (block.getD (i + 3) 0) []
  rw [htake, hfour]
  exact (Nat.zero_add _).trans (Nat.one_mul _)

theorem messageWords_map (h : block.length = 64) :
    (messageWords block).map UInt32.toBitVec = (List.range 16).map (Hash.messageWord block) := by
  rw [messageWords, List.map_map]
  refine List.map_congr_left fun t ht => ?_
  have ht := List.mem_range.mp ht
  rw [Hash.messageWord, beValue_take_four (by omega)]
  refine BitVec.eq_of_toNat_eq ?_
  rw [BitVec.toNat_ofNat]
  exact (Nat.mod_eq_of_lt (wordAt block (4 * t)).toNat_lt).symm

theorem messageWords64_map (h : block.length = 128) :
    (messageWords64 block).map UInt64.toBitVec = (List.range 16).map (Hash.messageWord block) := by
  rw [messageWords64, List.map_map]
  refine List.map_congr_left fun t ht => ?_
  have ht := List.mem_range.mp ht
  have hlast : ((block.drop (8 * t + 4)).take 4).length = 4 := by simp; omega
  have hvalue : beValue ((block.drop (8 * t)).take 8) =
      (wordAt block (8 * t)).toNat * 2 ^ 32 + (wordAt block (8 * t + 4)).toNat := by
    rw [List.take_add (i := 4) (j := 4), List.drop_drop, beValue_append, hlast, beValue_take_four (by omega),
      beValue_take_four (by omega)]
    omega
  have hs : UInt64.toNat 32 % 64 = 32 := rfl
  have hhigh := (wordAt block (8 * t)).toNat_lt
  have hlow := (wordAt block (8 * t + 4)).toNat_lt
  refine BitVec.eq_of_toNat_eq ?_
  rw [Hash.messageWord, hvalue, Function.comp_apply, UInt64.toNat_toBitVec, UInt64.toNat_or, UInt64.toNat_shiftLeft,
    hs, UInt32.toNat_toUInt64, UInt32.toNat_toUInt64, Nat.shiftLeft_eq, Nat.mod_eq_of_lt (by omega),
    mul_or _ _ 32 hlow, BitVec.toNat_ofNat, Nat.mod_eq_of_lt (by omega)]

theorem ch_eq (x y z : BitVec 32) : z ^^^ (x &&& (y ^^^ z)) = ch x y z := by
  ext i
  simp only [ch, BitVec.getElem_xor, BitVec.getElem_and, BitVec.getElem_not]
  cases x[i] <;> cases y[i] <;> cases z[i] <;> rfl

theorem maj_eq (x y z : BitVec 32) : (x &&& y) ||| (z &&& (x ||| y)) = maj x y z := by
  ext i
  simp only [maj, BitVec.getElem_xor, BitVec.getElem_and, BitVec.getElem_or]
  cases x[i] <;> cases y[i] <;> cases z[i] <;> rfl

theorem sha1Round_eq {ws : List UInt32} {a b c d e : UInt32} {t : Nat} {x : BitVec 32}
    (hx : (ws.getD t 0).toBitVec = x) :
    (sha1Round ws [a, b, c, d, e] t).map UInt32.toBitVec =
      (Fips180.sha1.round t x #v[a.toBitVec, b.toBitVec, c.toBitVec, d.toBitVec, e.toBitVec]).toList := by
  have hf : (if t < 20 then (d ^^^ (b &&& (c ^^^ d))) + 0x5A827999
      else if t < 40 then (b ^^^ c ^^^ d) + 0x6ED9EBA1
      else if t < 60 then ((b &&& c) ||| (d &&& (b ||| c))) + 0x8F1BBCDC
      else (b ^^^ c ^^^ d) + 0xCA62C1D6).toBitVec =
      sha1F t b.toBitVec c.toBitVec d.toBitVec + sha1K t := by
    rw [sha1F, sha1K]
    split_ifs
    · exact congrArg (· + 0x5a827999#32) (ch_eq b.toBitVec c.toBitVec d.toBitVec)
    · rfl
    · exact congrArg (· + 0x8f1bbcdc#32) (maj_eq b.toBitVec c.toBitVec d.toBitVec)
    · rfl
  simp only [sha1Round, List.map_cons, List.map_nil, UInt32.toBitVec_add, hf, hx]
  refine congrArg (· :: [a.toBitVec, b.toBitVec.rotateLeft 30, c.toBitVec, d.toBitVec]) ?_
  change a.toBitVec.rotateLeft 5 + e.toBitVec + x + _ = a.toBitVec.rotateLeft 5 + _ + e.toBitVec + sha1K t + x
  ac_rfl

theorem sha1_compress {l : List UInt32} {v : Vector (BitVec 32) 5}
    (hl : l.map UInt32.toBitVec = v.toList) (hblock : block.length = 64) :
    (sha1Transform l block).map UInt32.toBitVec = (Fips180.sha1.compress v block).toList := by
  refine @compress_map _ _ _ UInt32.toBitVec _ Fips180.sha1 (fun _ _ => rfl) sha1Word sha1Round 64 rfl ?_ ?_ _ _
    (messageWords_map hblock) _ _ hl
  · intro l t f ht hl
    have hget (k : Nat) (hk : k ≠ 0) (hkt : k ≤ 16) : (l.getD (t - k) 0).toBitVec =
        if k = 0 ∨ t < k then 0 else f (t - k) := by
      rw [if_neg (by omega)]
      exact bits_getD 0 hl (by omega)
    dsimp only [Fips180.sha1]
    rw [← hget 3 (by decide) (by decide), ← hget 8 (by decide) (by decide), ← hget 14 (by decide) (by decide),
      ← hget 16 (by decide) (by decide)]
    rfl
  · intro ws s v t f hws ht hs
    obtain ⟨a, b, c, d, e, rfl⟩ : ∃ a b c d e, s = [a, b, c, d, e] := by
      have hlen := congrArg List.length hs
      rw [List.length_map, Vector.length_toList] at hlen
      match s, hlen with
      | [a, b, c, d, e], _ => exact ⟨a, b, c, d, e, rfl⟩
    obtain rfl : #v[a.toBitVec, b.toBitVec, c.toBitVec, d.toBitVec, e.toBitVec] = v := Vector.toList_inj.mp hs
    exact sha1Round_eq (bits_getD 0 hws ht)

/-- A word type and the bit vectors that its words are. -/
structure WordBits (W : Type) (w : Nat) [Add W] [AndOp W] [XorOp W] [Complement W] where
  bits : W → BitVec w
  add : ∀ x y, bits (x + y) = bits x + bits y
  and : ∀ x y, bits (x &&& y) = bits x &&& bits y
  xor : ∀ x y, bits (x ^^^ y) = bits x ^^^ bits y
  not : ∀ x, bits (~~~x) = ~~~bits x

def bits32 : WordBits UInt32 32 := ⟨UInt32.toBitVec, fun _ _ => rfl, fun _ _ => rfl, fun _ _ => rfl, fun _ => rfl⟩
def bits64 : WordBits UInt64 64 := ⟨UInt64.toBitVec, fun _ _ => rfl, fun _ _ => rfl, fun _ _ => rfl, fun _ => rfl⟩

section
variable {W : Type} {w : Nat} [Add W] [AndOp W] [XorOp W] [Complement W] [Zero W] (B : WordBits W w)
  {f1 f2 f3 f4 : W → W} {bigSigma0 bigSigma1 sigma0 sigma1 : BitVec w → BitVec w}

theorem sha2_compress {rounds : Nat} {k : List W} {block : List UInt8} {first l : List W}
    {v : Vector (BitVec w) 8} (hf1 : ∀ x, B.bits (f1 x) = bigSigma0 (B.bits x))
    (hf2 : ∀ x, B.bits (f2 x) = bigSigma1 (B.bits x)) (hf3 : ∀ x, B.bits (f3 x) = sigma0 (B.bits x))
    (hf4 : ∀ x, B.bits (f4 x) = sigma1 (B.bits x))
    (hk : k.map B.bits = (List.range (16 + rounds)).map (rootBits w 3))
    (hfirst : first.map B.bits = (List.range 16).map (Hash.messageWord block)) (hl : l.map B.bits = v.toList) :
    (List.zipWith (· + ·) l ((List.range (16 + rounds)).foldl (sha2Round f1 f2 k
      (schedule (sha2Word f3 f4) (16 + rounds) first)) l)).map B.bits =
      ((sha2 (16 + rounds) bigSigma0 bigSigma1 sigma0 sigma1).compress v block).toList := by
  refine @compress_map _ _ _ B.bits _ (sha2 (16 + rounds) bigSigma0 bigSigma1 sigma0 sigma1) B.add (sha2Word f3 f4)
    (sha2Round f1 f2 k) rounds rfl ?_ ?_ _ _ hfirst _ _ hl
  · intro l t f ht hl
    have hget (k : Nat) (hk : k ≠ 0) (hkt : k ≤ 16) : B.bits (l.getD (t - k) 0) =
        if k = 0 ∨ t < k then 0 else f (t - k) := by
      rw [if_neg (by omega)]
      exact bits_getD 0 hl (by omega)
    dsimp only [sha2]
    rw [← hget 2 (by decide) (by decide), ← hget 7 (by decide) (by decide), ← hget 15 (by decide) (by decide),
      ← hget 16 (by decide) (by decide), sha2Word, B.add, B.add, B.add, hf3, hf4]
  · intro ws s v t f hws ht hs
    obtain ⟨a, b, c, d, e, x, y, z, rfl⟩ : ∃ a b c d e x y z, s = [a, b, c, d, e, x, y, z] := by
      have hlen := congrArg List.length hs
      rw [List.length_map, Vector.length_toList] at hlen
      match s, hlen with
      | [a, b, c, d, e, x, y, z], _ => exact ⟨a, b, c, d, e, x, y, z, rfl⟩
    obtain rfl : #v[B.bits a, B.bits b, B.bits c, B.bits d, B.bits e, B.bits x, B.bits y, B.bits z] = v :=
      Vector.toList_inj.mp hs
    have hword := bits_getD 0 hws ht
    have hconst := bits_getD 0 hk ht
    simp only [sha2Round, List.map_cons, List.map_nil, B.add, B.and, B.xor, B.not, hf1, hf2, hword, hconst]
    rfl

end

theorem sha256_compress {l : List UInt32} {v : Vector (BitVec 32) 8}
    (hl : l.map UInt32.toBitVec = v.toList) (hblock : block.length = 64) :
    (sha256Block l block).map UInt32.toBitVec = (Fips180.sha256.compress v block).toList := by
  have hk : sha256K.map UInt32.toBitVec = (List.range 64).map (rootBits 32 3) := by
    have htable := congrArg (List.take 64) (rootBits_table 32 3)
    rw [← List.map_take] at htable
    refine Eq.trans ?_ htable.symm
    decide +kernel
  exact @sha2_compress _ _ _ _ _ _ _ bits32 _ _ _ _ _ _ _ _ 48 _ _ _ _ _ (fun _ => rfl) (fun _ => rfl) (fun _ => rfl) (fun _ => rfl)
    hk (messageWords_map hblock) hl

theorem sha512_compress {l : List UInt64} {v : Vector (BitVec 64) 8}
    (hl : l.map UInt64.toBitVec = v.toList) (hblock : block.length = 128) :
    (sha512Block l block).map UInt64.toBitVec = (Fips180.sha512.compress v block).toList := by
  have hk : sha512K.map UInt64.toBitVec = (List.range 80).map (rootBits 64 3) := by
    rw [rootBits_table]
    decide +kernel
  exact @sha2_compress _ _ _ _ _ _ _ bits64 _ _ _ _ _ _ _ _ 64 _ _ _ _ _ (fun _ => rfl) (fun _ => rfl) (fun _ => rfl) (fun _ => rfl)
    hk (messageWords64_map hblock) hl

/-- A hash function of the library that works as the standard says. -/
structure Implements {W : Type} {w n : Nat} (C : BlockHash (List W)) (H : Hash w n) (bits : W → BitVec w) : Prop where
  width : w = 32 ∨ w = 64
  blockSize : C.blockSize = 2 * w
  reserve : C.reserve = w / 4
  init : C.init.map bits = H.init.toList
  compress : ∀ {l : List W} {v : Vector (BitVec w) n} {block : List UInt8}, l.map bits = v.toList →
    block.length = 2 * w → (C.compress l block).map bits = (H.compress v block).toList
  output : ∀ l, C.output l = (l.map bits).flatMap fun x => toBigEndian (w / 8) x.toNat

theorem beValue_zeroes (k : Nat) (bs : List UInt8) : beValue (List.replicate k 0 ++ bs) = beValue bs := by
  induction k with
  | zero => rfl
  | succ k ih => rw [List.replicate_succ, List.cons_append, beValue_cons, ih]; rfl

theorem zeroes_eq {w : Nat} (hw : w = 32 ∨ w = 64) (len : Nat) :
    zeroes w len = (2 * w - (len + 1 + w / 4) % (2 * w)) % (2 * w) := by
  refine IsLeast.csInf_eq ⟨?_, fun k hk => ?_⟩
  · change (len + 1 + _ + w / 4) % (2 * w) = 0
    obtain rfl | rfl := hw <;> omega
  · change (len + 1 + k + w / 4) % (2 * w) = 0 at hk
    obtain rfl | rfl := hw <;> omega

section
variable {W : Type} {w n : Nat} {C : BlockHash (List W)} {H : Hash w n} {bits : W → BitVec w}
  {msg : List UInt8}

theorem Implements.pad (h : Implements C H bits) (hlen : msg.length < 2 ^ 29) :
    msg ++ C.padding msg.length = Fips180.pad w msg := by
  have hreserve : 8 ≤ w / 4 := by obtain rfl | rfl := h.width <;> decide
  have hword : (UInt32.ofNat (8 * msg.length)).toNat = 8 * msg.length := by
    rw [UInt32.toNat_ofNat', Nat.mod_eq_of_lt (by omega)]
  have hlast : List.replicate (w / 4 - 4) 0 ++ bytes32 (UInt32.ofNat (8 * msg.length)) =
      toBigEndian (w / 4) (8 * msg.length) := by
    refine eq_toBigEndian ?_ ?_
    · rw [List.length_append, List.length_replicate]
      change w / 4 - 4 + 4 = w / 4
      omega
    · rw [beValue_zeroes, beValue_bytes32, hword]
  rw [Fips180.pad, BlockHash.padding, h.blockSize, h.reserve, ← zeroes_eq h.width, List.replicate_add,
    List.append_assoc, hlast]

theorem length_pad (hw : w = 32 ∨ w = 64) : 2 * w ∣ (Fips180.pad w msg).length := by
  rw [Fips180.pad, List.length_append, List.length_cons, List.length_append, List.length_replicate,
    length_toBigEndian, zeroes_eq hw]
  obtain rfl | rfl := hw <;> omega

theorem Implements.hash (h : Implements C H bits) (hlen : msg.length < 2 ^ 29) : C.hash msg = H.digest msg := by
  obtain ⟨k, hk⟩ := @length_pad w msg h.width
  have hpos : 0 < 2 * w := by obtain rfl | rfl := h.width <;> decide
  rw [BlockHash.hash, h.pad hlen, Hash.digest, hk, Nat.mul_div_cancel_left k hpos,
    BlockHash.feeds_blocks (h.blockSize ▸ hpos) (by rw [h.blockSize, hk, Nat.mul_comm]), h.output, h.blockSize]
  refine congrArg (List.flatMap _) (List.foldl_rel (r := fun (l : List W) (v : Vector (BitVec w) n) => l.map bits = v.toList) h.init ?_)
  intro i hi l v hl
  refine h.compress hl ?_
  have hle : 2 * w * (i + 1) ≤ 2 * w * k := Nat.mul_le_mul_left _ (List.mem_range.mp hi)
  rw [Nat.mul_succ, Nat.mul_comm (2 * w) i] at hle
  rw [List.length_take, List.length_drop, hk]
  omega

end

theorem flatMap_bits {W : Type} {w : Nat} {bits : W → BitVec w} {unpack : W → List UInt8}
    (h : ∀ x, unpack x = toBigEndian (w / 8) (bits x).toNat) (l : List W) :
    l.flatMap unpack = (l.map bits).flatMap fun x => toBigEndian (w / 8) x.toNat := by
  rw [List.flatMap_map]
  exact congrArg (List.flatMap · l) (funext h)

theorem unpack32 (x : UInt32) : bytes32 x = toBigEndian 4 x.toNat := eq_toBigEndian rfl (beValue_bytes32 x)

theorem unpack64_eq (x : UInt64) : unpack64 x = toBigEndian 8 x.toNat := by
  have hx := x.toNat_lt
  have hs : UInt64.toNat 32 % 64 = 32 := rfl
  have hlen : (bytes32 x.toUInt32).length = 4 := rfl
  refine eq_toBigEndian rfl ?_
  rw [unpack64, beValue_append, beValue_bytes32, beValue_bytes32, hlen, UInt64.toNat_toUInt32, UInt64.toNat_toUInt32,
    UInt64.toNat_shiftRight, hs, Nat.shiftRight_eq_div_pow]
  omega

theorem init_rootBits (w : Nat) : (Vector.ofFn fun i : Fin 8 => rootBits w 2 i).toList =
    ((List.range 80).map (rootBits w 2)).take 8 := rfl

theorem sha1_implements : Implements sha1Hash Fips180.sha1 UInt32.toBitVec where
  width := .inl rfl
  blockSize := rfl
  reserve := rfl
  init := rfl
  compress := sha1_compress
  output := flatMap_bits unpack32

theorem sha256_implements : Implements sha256.blockHash Fips180.sha256 UInt32.toBitVec where
  width := .inl rfl
  blockSize := rfl
  reserve := rfl
  init := by
    refine Eq.trans ?_ (init_rootBits 32).symm
    rw [rootBits_table]
    decide +kernel
  compress := sha256_compress
  output := flatMap_bits unpack32

theorem sha512_implements : Implements sha512.blockHash Fips180.sha512 UInt64.toBitVec where
  width := .inr rfl
  blockSize := rfl
  reserve := rfl
  init := by
    refine Eq.trans ?_ (init_rootBits 64).symm
    rw [rootBits_table]
    decide +kernel
  compress := sha512_compress
  output := flatMap_bits unpack64_eq

/-- The hash of FIPS 180 for an algorithm of the library. -/
noncomputable def fipsHash : Vb2HashAlgorithm → List UInt8 → List UInt8
  | .sha1 => Fips180.sha1.digest
  | .sha256 => Fips180.sha256.digest
  | .sha512 => Fips180.sha512.digest
  | .invalid => fun _ => []

variable {msg : List UInt8}

theorem shaHash_fips (alg : Vb2HashAlgorithm) (h : msg.length < 2 ^ 29) :
    shaHash alg msg = fipsHash alg msg := by
  cases alg with
  | invalid => rfl
  | sha1 => exact sha1_implements.hash h
  | sha256 => exact sha256_implements.hash h
  | sha512 => exact sha512_implements.hash h

/-- A message is hashed chunk after chunk. -/
def vb2DigestChunks (dc : UInt64) (alg : Vb2HashAlgorithm) (chunks : List Buffer) :
    Program UInt32 Mem (List UInt8) := do
  vb2DigestInit dc alg
  chunks.forM (vb2DigestExtend dc)
  vb2DigestFinalize dc (vb2DigestSize alg)

theorem vb2DigestExtend_chunks {dc : UInt64} {m : Mem} {alg : Vb2HashAlgorithm}
    (h : DigestAbsorbed m dc alg msg) {chunks : List Buffer}
    (hlen : (msg ++ chunks.flatMap Buffer.bytes).length < 2 ^ 29) :
    ∃ m', chunks.forM (vb2DigestExtend dc) m = (.ok (), m') ∧
      DigestAbsorbed m' dc alg (msg ++ chunks.flatMap Buffer.bytes) := by
  induction chunks generalizing m msg with
  | nil => exact ⟨m, rfl, by rwa [List.flatMap_nil, List.append_nil]⟩
  | cons b chunks ih =>
    rw [List.flatMap_cons, ← List.append_assoc] at hlen ⊢
    have hsize : b.bytes.length = b.size.toNat := length_bytesAt _ _ _
    have hsum : msg.length + b.size.toNat < 2 ^ 29 := by
      rw [List.length_append, List.length_append, hsize] at hlen
      omega
    obtain ⟨m₁, hrun, habsorbed, -⟩ := vb2DigestExtend_run h (b := b) (.inr (by omega)) (by omega)
    obtain ⟨m', hrest, hend⟩ := ih habsorbed hlen
    refine ⟨m', ?_, hend⟩
    exact (Program.bind_of_ok hrun).trans hrest

/-- Whatever the chunks are and whatever was in memory, the digest is the hash of the message. -/
theorem vb2DigestChunks_fips {alg : Vb2HashAlgorithm} (halg : alg ≠ .invalid) {msg : List UInt8}
    (hlen : msg.length < 2 ^ 29) {chunks : List Buffer} (hsplit : chunks.flatMap Buffer.bytes = msg) (dc : UInt64)
    (m : Mem) : ∃ m', vb2DigestChunks dc alg chunks m = (.ok (fipsHash alg msg), m') := by
  obtain ⟨m₁, hinit, habsorbed, -⟩ := @vb2DigestInit_run dc m alg halg
  obtain ⟨m₂, hextend, hend⟩ := vb2DigestExtend_chunks habsorbed (by rwa [List.nil_append, hsplit])
  obtain ⟨m', hfinalize, -⟩ := vb2DigestFinalize_run hend
  refine ⟨m', ?_⟩
  rw [List.nil_append, hsplit, shaHash_fips alg hlen] at hfinalize
  rw [vb2DigestChunks, Program.bind_of_ok hinit, Program.bind_of_ok hextend, hfinalize]

/-- The message "abc" after an empty chunk. -/
theorem vb2DigestChunks_fips_sample : ∃ m', vb2DigestChunks 0 .sha256
    [⟨fun _ => 0, 0⟩, ⟨fun i => [0x61, 0x62, 0x63].getD i.toNat 0, 3⟩] (fun _ => 0) =
      (.ok (fipsHash .sha256 [0x61, 0x62, 0x63]), m') :=
  vb2DigestChunks_fips (by decide) (by decide) (by decide) 0 _

end Vboot.Vb2
