import Vboot.Lib.BlockHash
import Vboot.Vb2.Sha

/-! What the hash functions of the vboot2 library compute: the digest of all bytes that a context was
extended with, in whichever parts they came. -/
namespace Vboot.Vb2
open Vboot.Lib
variable (data : Int → UInt8) (i n : Nat)

theorem length_bytesAt : (bytesAt data i n).length = n := by
  simp [bytesAt]

theorem bytesAt_add (k : Nat) : bytesAt data i (n + k) = bytesAt data i n ++ bytesAt data (i + n) k := by
  simp [bytesAt, List.range_add, Nat.add_assoc]

theorem bytesAt_shifted (r i n : Nat) : bytesAt (fun k => data (r + k)) i n = bytesAt data (r + i) n := by
  simp [bytesAt, Nat.add_assoc]

theorem take_drop_bytesAt {i k l n : Nat} (h : k + l ≤ n) :
    ((bytesAt data i n).drop k).take l = bytesAt data (i + k) l := by
  obtain ⟨r, rfl⟩ : ∃ r, n = k + (l + r) := ⟨n - k - l, by omega⟩
  rw [bytesAt_add, List.drop_append_of_le_length (by rw [length_bytesAt]), bytesAt_add,
    List.drop_of_length_le (by rw [length_bytesAt]), List.nil_append,
    List.take_append_of_le_length (by rw [length_bytesAt]),
    List.take_of_length_le (by rw [length_bytesAt])]

variable {block : List UInt8}

theorem bytesAt_ofArray {n : Nat} (h : n ≤ block.length) :
    bytesAt (ofArray block) 0 n = block.take n := by
  apply List.ext_getElem
  · rw [length_bytesAt, List.length_take]
    omega
  · intro i hi hi'
    rw [length_bytesAt] at hi
    have hib : i < block.length := by omega
    simp [bytesAt, ofArray, hib]

theorem length_overwrite {i : Nat} {bs : List UInt8}
    (h : i + bs.length ≤ block.length) : (overwrite block i bs).length = block.length := by
  simp [overwrite]
  omega

theorem take_overwrite {i n : Nat} {bs : List UInt8} (h : i ≤ block.length)
    (hn : n = i + bs.length) : (overwrite block i bs).take n = block.take i ++ bs := by
  have hlen : (block.take i ++ bs).length = n := by
    rw [List.length_append, List.length_take, Nat.min_eq_left h, hn]
  rw [overwrite, List.take_append_of_le_length (le_of_eq hlen.symm), List.take_of_length_le (le_of_eq hlen)]

theorem take_overwrite_zeroes (p rest : List UInt8) (b : UInt8) {j k : Nat} (h : j ≤ k) :
    (overwrite (p ++ List.replicate (k + 1) 0 ++ rest) p.length [b]).take (p.length + 1 + j) =
      p ++ b :: List.replicate j 0 := by
  have hdrop : (p ++ List.replicate (k + 1) 0 ++ rest).drop (p.length + [b].length) =
      List.replicate k 0 ++ rest := by
    rw [List.append_assoc, List.drop_append, List.drop_of_length_le (by simp)]
    simp [List.replicate_succ]
  rw [overwrite, hdrop, List.append_assoc p, List.take_left, List.append_assoc,
    show p.length + 1 + j = p.length + (1 + j) by omega, List.take_length_add_append,
    List.singleton_append, Nat.add_comm 1, List.take_succ_cons,
    List.take_append_of_le_length (by rw [List.length_replicate]; exact h), List.take_replicate,
    Nat.min_eq_left h]

theorem missing_mod {b k : Nat} (hk : 0 < k) (hk' : k < 2 * b) :
    (b - k % b) % b = (if b < k then 2 else 1) * b - k := by
  split_ifs with hbig
  · have hmod : k % b = k - b := by rw [Nat.mod_eq_sub_mod (le_of_lt hbig), Nat.mod_eq_of_lt (by omega)]
    rw [hmod, Nat.mod_eq_of_lt (by omega)]
    omega
  · by_cases hexact : k = b
    · rw [hexact, Nat.mod_self, Nat.sub_zero, Nat.mod_self, Nat.one_mul, Nat.sub_self]
    · have hmod : k % b = k := Nat.mod_eq_of_lt (by omega)
      rw [hmod, Nat.mod_eq_of_lt (by omega), Nat.one_mul]

theorem shiftLeft_three : UInt32.ofNat n <<< 3 = UInt32.ofNat (8 * n) := by
  apply UInt32.toNat_inj.mp
  have h3 : UInt32.toNat 3 % 32 = 3 := rfl
  rw [UInt32.toNat_shiftLeft, UInt32.toNat_ofNat', UInt32.toNat_ofNat', h3, Nat.shiftLeft_eq]
  omega

/-- SHA-1. -/
def sha1Hash : BlockHash (List UInt32) := ⟨64, 8, sha1Init, sha1Transform, (·.flatMap bytes32)⟩

/-- A context of SHA-1 that got the bytes of a message. -/
structure Sha1Absorbed (ctx : Vb2Sha1Context) (msg : List UInt8) : Prop where
  count : ctx.count = UInt32.ofNat msg.length
  state : ctx.state = (sha1Hash.feeds (sha1Init, []) msg).1
  pending : ctx.buf.take (msg.length % 64) = (sha1Hash.feeds (sha1Init, []) msg).2
  buf : ctx.buf.length = 64

/-- A context in the middle of an update, with the index of the loop. -/
structure Sha1Feeding (s : Vb2Sha1Context × Nat) (t : List UInt32 × List UInt8) : Prop where
  state : s.1.state = t.1
  pending : s.1.buf.take s.2 = t.2
  index : s.2 < 64
  buf : s.1.buf.length = 64

variable {t : List UInt32 × List UInt8} {s : Vb2Sha1Context × Nat}

theorem Sha1Feeding.byte (h : Sha1Feeding s t)
    (b : UInt8) : Sha1Feeding (sha1Byte s b) (sha1Hash.feed t b) := by
  have hindex := h.index
  have hbuf := h.buf
  have hlen : t.2.length = s.2 := by
    rw [← h.pending, List.length_take]
    omega
  have hset : (s.1.buf.set s.2 b).take (s.2 + 1) = t.2 ++ [b] := by
    rw [List.take_succ_eq_append_getElem (by rw [List.length_set]; omega), List.take_set_of_le (le_refl _),
      h.pending, List.getElem_set_self]
  have hlenSet : (s.1.buf.set s.2 b).length = 64 := by rw [List.length_set, hbuf]
  rw [sha1Byte, BlockHash.feed, hlen]
  change Sha1Feeding _ (if s.2 + 1 = 64 then _ else _)
  split_ifs with hfull
  · rw [hfull, List.take_of_length_le (le_of_eq hlenSet)] at hset
    exact ⟨by rw [hset, h.state]; rfl, rfl, Nat.succ_pos 63, hlenSet⟩
  · exact ⟨h.state, hset, by dsimp only; omega, hlenSet⟩

theorem Sha1Feeding.bytes (h : Sha1Feeding s t)
    (bs : List UInt8) : Sha1Feeding (bs.foldl sha1Byte s) (sha1Hash.feeds t bs) := by
  induction bs generalizing s t with
  | nil => exact h
  | cons b bs ih => exact ih (h.byte b)

variable (s : Vb2Sha1Context × Nat)

theorem sha1Byte_count (b : UInt8) : (sha1Byte s b).1.count = s.1.count := by
  rw [sha1Byte]
  split_ifs <;> rfl

theorem foldl_sha1Byte_count (bs : List UInt8) :
    (bs.foldl sha1Byte s).1.count = s.1.count := by
  induction bs generalizing s with
  | nil => rfl
  | cons b bs ih => exact (ih _).trans (sha1Byte_count s b)

theorem length_feeds_sha1 (msg : List UInt8) :
    (sha1Hash.feeds (sha1Init, []) msg).2.length = msg.length % 64 := by
  rw [BlockHash.length_feeds (by decide) (by decide), List.length_nil, Nat.zero_add]
  rfl

namespace Sha1Absorbed

variable {ctx : Vb2Sha1Context} {msg : List UInt8}

theorem init (h : ctx.buf.length = 64) : Sha1Absorbed (vb2Sha1Init ctx) [] := ⟨rfl, rfl, rfl, h⟩

variable (h : Sha1Absorbed ctx msg)
include h

theorem count_toNat : ctx.count.toNat % 64 = msg.length % 64 := by
  rw [h.count, UInt32.toNat_ofNat']
  omega

theorem update (bs : List UInt8) :
    Sha1Absorbed (vb2Sha1Update ctx bs) (msg ++ bs) := by
  have hstart : Sha1Feeding ({ ctx with count := ctx.count + UInt32.ofNat bs.length }, ctx.count.toNat % 64)
      (sha1Hash.feeds (sha1Init, []) msg) :=
    ⟨h.state, by rw [h.count_toNat]; exact h.pending, Nat.mod_lt _ (by decide), h.buf⟩
  have hend := hstart.bytes bs
  rw [← BlockHash.feeds_append] at hend
  have hindex : (bs.foldl sha1Byte ({ ctx with count := ctx.count + UInt32.ofNat bs.length },
      ctx.count.toNat % 64)).2 = (msg ++ bs).length % 64 := by
    rw [← length_feeds_sha1, ← hend.pending, List.length_take, hend.buf]
    have hlt := hend.index
    omega
  refine ⟨?_, hend.state, ?_, hend.buf⟩
  · rw [vb2Sha1Update, foldl_sha1Byte_count, h.count, List.length_append, UInt32.ofNat_add]
  · rw [← hindex]
    exact hend.pending

theorem zeroes {n : Nat} (hn : (120 - msg.length % 64) % 64 ≤ n) :
    Sha1Absorbed (sha1Zeroes n ctx) (msg ++ List.replicate ((120 - msg.length % 64) % 64) 0) := by
  induction n generalizing ctx msg with
  | zero =>
    rw [Nat.le_zero.mp hn, List.replicate_zero, List.append_nil]
    exact h
  | succ n ih =>
    have hcount : ctx.count % 64 ≠ 56 ↔ msg.length % 64 ≠ 56 := by
      rw [← h.count_toNat, ne_eq, ne_eq, ← UInt32.toNat_inj, UInt32.toNat_mod]
      rfl
    rw [sha1Zeroes]
    split_ifs with hne
    · have hne' := hcount.mp hne
      have hlen : (msg ++ [(0 : UInt8)]).length = msg.length + 1 := List.length_append
      have hstep : (120 - msg.length % 64) % 64 = (120 - (msg ++ [(0 : UInt8)]).length % 64) % 64 + 1 := by
        rw [hlen]
        omega
      have hrest := ih (h.update [0]) (by omega)
      rw [List.append_assoc, List.singleton_append, ← List.replicate_succ, ← hstep] at hrest
      exact hrest
    · have he : msg.length % 64 = 56 := not_not.mp (mt hcount.mpr hne)
      rw [he, List.replicate_zero, List.append_nil]
      exact h

theorem updates (f : Nat → UInt8) (is : List Nat) :
    Sha1Absorbed (is.foldl (fun ctx i => vb2Sha1Update ctx [f i]) ctx) (msg ++ is.map f) := by
  induction is generalizing ctx msg with
  | nil =>
    rw [List.map_nil, List.append_nil]
    exact h
  | cons i is ih =>
    have hrest := ih (h.update [f i])
    rw [List.append_assoc] at hrest
    exact hrest

omit h in
theorem lengthBytes (cnt : UInt32) :
    (List.range 8).map (fun i => (cnt.toUInt64 >>> UInt64.ofNat ((7 - i) * 8)).toUInt8) =
      List.replicate 4 0 ++ bytes32 cnt := by
  have hlt := cnt.toNat_lt
  obtain ⟨byte, hbyte⟩ : ∃ byte : Nat → UInt8, ∀ n, byte n = UInt8.ofNat (cnt.toNat / 2 ^ n) := ⟨_, fun _ => rfl⟩
  have hwide (i : Nat) (hi : i ∈ List.range 8) :
      (cnt.toUInt64 >>> UInt64.ofNat ((7 - i) * 8)).toUInt8 = byte ((7 - i) * 8) := by
    apply UInt8.toNat_inj.mp
    rw [UInt64.toNat_toUInt8, UInt64.toNat_shiftRight, UInt32.toNat_toUInt64, UInt64.toNat_ofNat',
      Nat.mod_eq_of_lt (show (7 - i) * 8 < 2 ^ 64 by omega), Nat.mod_eq_of_lt (show (7 - i) * 8 < 64 by omega),
      Nat.shiftRight_eq_div_pow, hbyte, UInt8.toNat_ofNat']
  have hlow (n : UInt32) (hn : n.toNat < 32) : (cnt >>> n).toUInt8 = byte n.toNat := by
    apply UInt8.toNat_inj.mp
    rw [UInt32.toNat_toUInt8, UInt32.toNat_shiftRight, Nat.mod_eq_of_lt hn, Nat.shiftRight_eq_div_pow, hbyte,
      UInt8.toNat_ofNat']
  have hzero : cnt.toUInt8 = byte 0 := by
    rw [hbyte, pow_zero, Nat.div_one]
    rfl
  have hhigh (n : Nat) (hn : 32 ≤ n) : byte n = 0 := by
    rw [hbyte, Nat.div_eq_of_lt (lt_of_lt_of_le hlt (Nat.pow_le_pow_right (by decide) hn))]
    rfl
  rw [List.map_congr_left hwide, bytes32, hlow 24 (by decide), hlow 16 (by decide), hlow 8 (by decide), hzero]
  change [byte 56, byte 48, byte 40, byte 32, byte 24, byte 16, byte 8, byte 0] = _
  rw [hhigh 56 (by decide), hhigh 48 (by decide), hhigh 40 (by decide), hhigh 32 (by decide)]
  rfl

theorem finalize :
    Sha1Absorbed (vb2Sha1Finalize ctx).1 (msg ++ sha1Hash.padding msg.length) ∧
      (vb2Sha1Finalize ctx).2 = sha1Hash.hash msg := by
  have hfirst := h.update [0x80]
  have hzeroes := hfirst.zeroes (Nat.le_of_lt (Nat.mod_lt _ (by decide)) : _ ≤ 64)
  have hlast := hzeroes.updates
    (fun i => ((ctx.count <<< 3).toUInt64 >>> UInt64.ofNat ((7 - i) * 8)).toUInt8) (List.range 8)
  have hcnt : ctx.count <<< 3 = UInt32.ofNat (8 * msg.length) := by rw [h.count, shiftLeft_three]
  rw [lengthBytes, hcnt] at hlast
  have hpad : msg ++ [0x80] ++ List.replicate ((120 - (msg ++ [(0x80 : UInt8)]).length % 64) % 64) 0 ++
      (List.replicate 4 0 ++ bytes32 (UInt32.ofNat (8 * msg.length))) = msg ++ sha1Hash.padding msg.length := by
    have hlen : (msg ++ [(0x80 : UInt8)]).length = msg.length + 1 := List.length_append
    have hcount : (120 - (msg.length + 1) % 64) % 64 + 4 =
        (64 - (msg.length + 1 + 8) % 64) % 64 + (8 - 4) := by omega
    have happend : List.replicate ((120 - (msg.length + 1) % 64) % 64) (0 : UInt8) ++ List.replicate 4 0 =
        List.replicate ((64 - (msg.length + 1 + 8) % 64) % 64 + (8 - 4)) 0 := by
      rw [List.replicate_append_replicate, hcount]
    rw [hlen, List.append_assoc, ← List.append_assoc (List.replicate _ _) (List.replicate 4 0), happend,
      List.append_assoc]
    rfl
  rw [hpad] at hlast
  rw [vb2Sha1Finalize]
  dsimp only
  rw [hcnt]
  refine ⟨hlast, ?_⟩
  rw [hlast.state]
  rfl

end Sha1Absorbed

namespace Sha2

variable {W : Type} (a : Sha2 W)

def blockHash : BlockHash (List W) where
  blockSize := a.blockSize.toNat
  reserve := a.padSize.toNat - 1
  init := a.h0
  compress := a.compress
  output h := h.flatMap a.unpack

theorem blockSize_bounds : 0 < a.blockSize.toNat ∧ a.blockSize.toNat ≤ 128 := by
  have hle : 2 ^ a.shift.toNat ≤ 2 ^ 7 := Nat.pow_le_pow_right (by decide) a.shift_le
  rw [a.blockSize_eq]
  exact ⟨Nat.two_pow_pos _, hle⟩

theorem toNat_shift {n : UInt32} (h : n.toNat * a.blockSize.toNat < 2 ^ 32) :
    (n <<< a.shift).toNat = n.toNat * a.blockSize.toNat := by
  have hshift : a.shift.toNat % 32 = a.shift.toNat := Nat.mod_eq_of_lt (by have hle := a.shift_le; omega)
  rw [UInt32.toNat_shiftLeft, hshift, Nat.shiftLeft_eq, ← a.blockSize_eq, Nat.mod_eq_of_lt h]

theorem blockOffset_eq {i : Nat} (h : i * a.blockSize.toNat < 2 ^ 31) :
    a.blockOffset i = (i * a.blockSize.toNat : Nat) := by
  rw [a.blockSize_eq] at h ⊢
  exact Int32.toInt_ofNat_of_lt h

theorem transform_eq (h : List W) (message : Int → UInt8) (blockNb : UInt32)
    (hfit : blockNb.toNat * a.blockSize.toNat ≤ 2 ^ 31) :
    a.blockHash.feeds (h, []) (bytesAt message 0 (blockNb.toNat * a.blockSize.toNat)) =
      (a.transform h message blockNb, []) := by
  obtain ⟨hpos, -⟩ := a.blockSize_bounds
  have hlen : (bytesAt message 0 (blockNb.toNat * a.blockSize.toNat)).length =
      blockNb.toNat * a.blockHash.blockSize := length_bytesAt _ _ _
  rw [BlockHash.feeds_blocks hpos hlen, transform]
  congr 1
  refine List.foldl_ext _ _ _ fun h' i hi => congrArg (a.compress h') ?_
  have hle : (i + 1) * a.blockSize.toNat ≤ blockNb.toNat * a.blockSize.toNat :=
    Nat.mul_le_mul_right _ (List.mem_range.mp hi)
  rw [Nat.succ_mul] at hle
  change ((bytesAt message 0 _).drop (i * a.blockSize.toNat)).take a.blockSize.toNat = _
  rw [take_drop_bytesAt message hle, Nat.zero_add, a.blockOffset_eq (by omega)]
  refine List.map_congr_left fun j _ => congrArg message ?_
  push_cast
  rfl

/-- A context that got the bytes of a message. -/
structure Absorbed (ctx : Vb2Sha2Context W) (msg : List UInt8) : Prop where
  h : ctx.h = (a.blockHash.feeds (a.h0, []) msg).1
  pending : ctx.block.take ctx.size.toNat = (a.blockHash.feeds (a.h0, []) msg).2
  size : ctx.size.toNat = msg.length % a.blockSize.toNat
  total : ctx.totalSize + ctx.size = UInt32.ofNat msg.length
  block : ctx.block.length = 2 * a.blockSize.toNat

variable {a} {ctx : Vb2Sha2Context W} {msg : List UInt8}

theorem Absorbed.init (h : ctx.block.length = 2 * a.blockSize.toNat) : a.Absorbed (a.init ctx) [] :=
  ⟨rfl, rfl, (Nat.zero_mod _).symm, rfl, h⟩

section
variable (h : a.Absorbed ctx msg)
include h

theorem Absorbed.size_lt : ctx.size.toNat < a.blockSize.toNat := by
  rw [h.size]
  exact Nat.mod_lt _ a.blockSize_bounds.1

theorem Absorbed.feeds : a.blockHash.feeds (a.h0, []) msg = (ctx.h, ctx.block.take ctx.size.toNat) := by
  rw [h.h, h.pending]

theorem Absorbed.length_pending : (ctx.block.take ctx.size.toNat).length = ctx.size.toNat := by
  have hblock := h.block
  have hlt := h.size_lt
  rw [List.length_take]
  omega

theorem Absorbed.feeds_pending : a.blockHash.feeds (ctx.h, []) (ctx.block.take ctx.size.toNat) =
    (ctx.h, ctx.block.take ctx.size.toNat) :=
  BlockHash.feeds_short (by rw [h.length_pending, List.length_nil, Nat.zero_add]; exact h.size_lt)

theorem Absorbed.copy {data : Int → UInt8} {size : UInt32}
    (hsize : ctx.size.toNat + size.toNat < a.blockSize.toNat) :
    a.Absorbed { ctx with
        block := overwrite ctx.block ctx.size.toNat (bytesAt data 0 size.toNat), size := ctx.size + size }
      (msg ++ bytesAt data 0 size.toNat) := by
  obtain ⟨hpos, hle⟩ := a.blockSize_bounds
  have hblock := h.block
  have hsum : (ctx.size + size).toNat = ctx.size.toNat + size.toNat := by
    rw [UInt32.toNat_add, Nat.mod_eq_of_lt (by omega)]
  have hfeeds : a.blockHash.feeds (a.h0, []) (msg ++ bytesAt data 0 size.toNat) =
      (ctx.h, ctx.block.take ctx.size.toNat ++ bytesAt data 0 size.toNat) := by
    rw [BlockHash.feeds_append, h.feeds]
    exact BlockHash.feeds_short (by rw [h.length_pending, length_bytesAt]; exact hsize)
  refine ⟨by rw [hfeeds], ?_, ?_, ?_, ?_⟩
  · rw [hfeeds, hsum]
    exact take_overwrite (by omega) (by rw [length_bytesAt])
  · rw [hsum, List.length_append, length_bytesAt, ← Nat.mod_add_mod, ← h.size, Nat.mod_eq_of_lt hsize]
  · rw [List.length_append, length_bytesAt, UInt32.ofNat_add, ← h.total, UInt32.ofNat_toNat, UInt32.add_assoc]
  · rw [length_overwrite (by rw [length_bytesAt]; omega), hblock]

variable (data : Int → UInt8) {blockNb : UInt32}

theorem Absorbed.blocks {rem : Nat}
    (hrem : ctx.size.toNat + rem = a.blockSize.toNat) (hfit : blockNb.toNat * a.blockSize.toNat ≤ 2 ^ 31) :
    a.blockHash.feeds (a.h0, []) (msg ++ bytesAt data 0 (rem + blockNb.toNat * a.blockSize.toNat)) =
      (a.transform (a.transform ctx.h
        (ofArray (overwrite ctx.block ctx.size.toNat (bytesAt data 0 rem))) 1)
        (fun k => data (rem + k)) blockNb, []) := by
  obtain ⟨hpos, hle⟩ := a.blockSize_bounds
  have hblock := h.block
  have hlt := h.size_lt
  have hne : bytesAt data 0 rem ≠ [] := by
    intro hnil
    have hlen := length_bytesAt data 0 rem
    rw [hnil, List.length_nil] at hlen
    omega
  have hone : (1 : UInt32).toNat * a.blockSize.toNat = a.blockSize.toNat := Nat.one_mul _
  have hlenBlock := @length_overwrite ctx.block ctx.size.toNat (bytesAt data 0 rem)
    (by rw [length_bytesAt]; omega)
  have hfirst := a.transform_eq ctx.h (ofArray (overwrite ctx.block ctx.size.toNat (bytesAt data 0 rem)))
    1 (by omega)
  rw [hone, bytesAt_ofArray (by omega), take_overwrite (by omega) (by rw [length_bytesAt]; omega)] at hfirst
  have hrest := a.transform_eq (a.transform ctx.h
    (ofArray (overwrite ctx.block ctx.size.toNat (bytesAt data 0 rem))) 1) (fun k => data (rem + k)) blockNb hfit
  rw [bytesAt_shifted, Nat.add_zero] at hrest
  have hfull : a.blockHash.feeds (ctx.h, ctx.block.take ctx.size.toNat) (bytesAt data 0 rem) =
      a.blockHash.feeds (ctx.h, []) (ctx.block.take ctx.size.toNat ++ bytesAt data 0 rem) := by
    rw [BlockHash.feeds_append, h.feeds_pending]
  rw [bytesAt_add, Nat.zero_add, ← List.append_assoc, BlockHash.feeds_append, BlockHash.feeds_append,
    h.feeds, hfull, hfirst, hrest]

theorem Absorbed.fill {data : Int → UInt8} {size rem newSize : UInt32} (hfit : size.toNat ≤ 2 ^ 31)
    (hrem : ctx.size.toNat + rem.toNat = a.blockSize.toNat)
    (hsize : size.toNat = rem.toNat + newSize.toNat) :
    let block := overwrite ctx.block ctx.size.toNat (bytesAt data 0 rem.toNat)
    let blockNb := newSize / a.blockSize
    a.Absorbed
      { h := a.transform (a.transform ctx.h (ofArray block) 1) (fun k => data (rem.toNat + k)) blockNb
        totalSize := ctx.totalSize + ((blockNb + 1) <<< a.shift)
        size := newSize % a.blockSize
        block := overwrite block 0 (bytesAt (fun k => data (rem.toNat + k)) (blockNb <<< a.shift).toNat
          (newSize % a.blockSize).toNat) }
      (msg ++ bytesAt data 0 size.toNat) := by
  intro block blockNb
  obtain ⟨hpos, hle⟩ := a.blockSize_bounds
  have hsplit : blockNb.toNat * a.blockSize.toNat + (newSize % a.blockSize).toNat = newSize.toNat := by
    rw [UInt32.toNat_div, UInt32.toNat_mod, Nat.div_add_mod']
  have hlast : (newSize % a.blockSize).toNat < a.blockSize.toNat := by
    rw [UInt32.toNat_mod]
    exact Nat.mod_lt _ hpos
  generalize newSize % a.blockSize = last at hsplit hlast ⊢
  have hblocksFit : blockNb.toNat * a.blockSize.toNat ≤ 2 ^ 31 := by omega
  have hblocks := h.blocks data hrem hblocksFit
  have hbytes : bytesAt data 0 size.toNat =
      bytesAt data 0 (rem.toNat + blockNb.toNat * a.blockSize.toNat) ++
        bytesAt data (rem.toNat + blockNb.toNat * a.blockSize.toNat) last.toNat := by
    rw [hsize, ← hsplit, ← Nat.add_assoc, bytesAt_add, Nat.zero_add]
  have hfeeds : a.blockHash.feeds (a.h0, []) (msg ++ bytesAt data 0 size.toNat) =
      (a.transform (a.transform ctx.h (ofArray block) 1) (fun k => data (rem.toNat + k)) blockNb,
        bytesAt data (rem.toNat + blockNb.toNat * a.blockSize.toNat) last.toNat) := by
    rw [hbytes, ← List.append_assoc, BlockHash.feeds_append, hblocks,
      BlockHash.feeds_short (by rw [List.length_nil, length_bytesAt, Nat.zero_add]; exact hlast),
      List.nil_append]
  have hblock : block.length = 2 * a.blockSize.toNat := by
    rw [length_overwrite (by rw [length_bytesAt, h.block]; omega), h.block]
  have hrest : bytesAt (fun k => data (rem.toNat + k)) (blockNb <<< a.shift).toNat last.toNat =
      bytesAt data (rem.toNat + blockNb.toNat * a.blockSize.toNat) last.toNat := by
    rw [bytesAt_shifted, a.toNat_shift (by omega)]
  refine ⟨by rw [hfeeds], ?_, ?_, ?_, ?_⟩
  · rw [hfeeds]
    dsimp only
    rw [hrest, take_overwrite (Nat.zero_le _) (by rw [length_bytesAt, Nat.zero_add]), List.take_zero,
      List.nil_append]
  · have hlen : (msg ++ bytesAt data 0 size.toNat).length =
        msg.length + size.toNat := by rw [List.length_append, length_bytesAt]
    have hlenMod : (msg.length + size.toNat) % a.blockSize.toNat =
        (ctx.size.toNat + size.toNat) % a.blockSize.toNat := by rw [h.size, Nat.mod_add_mod]
    have hwhole : ctx.size.toNat + size.toNat =
        last.toNat + a.blockSize.toNat * (blockNb.toNat + 1) := by
      rw [Nat.mul_succ, Nat.mul_comm]
      omega
    rw [hlen, hlenMod, hwhole, Nat.add_mul_mod_self_left, Nat.mod_eq_of_lt hlast]
  · apply UInt32.toNat_inj.mp
    have htotal := congrArg UInt32.toNat h.total
    have hnext : (blockNb + 1).toNat = blockNb.toNat + 1 := by
      rw [UInt32.toNat_add]
      exact Nat.mod_eq_of_lt (by
        have hblockNb : blockNb.toNat ≤ blockNb.toNat * a.blockSize.toNat := Nat.le_mul_of_pos_right _ hpos
        change blockNb.toNat + 1 < 2 ^ 32
        omega)
    have hshift : ((blockNb + 1) <<< a.shift).toNat = blockNb.toNat * a.blockSize.toNat + a.blockSize.toNat := by
      rw [a.toNat_shift (by rw [hnext, Nat.succ_mul]; omega), hnext, Nat.succ_mul]
    dsimp only
    rw [UInt32.toNat_add, UInt32.toNat_add, hshift, UInt32.toNat_ofNat', List.length_append, length_bytesAt]
    rw [UInt32.toNat_add, UInt32.toNat_ofNat'] at htotal
    omega
  · dsimp only
    rw [length_overwrite (by rw [hrest, length_bytesAt, hblock]; omega), hblock]

theorem Absorbed.update {size : UInt32} (hfit : size.toNat ≤ 2 ^ 31)
    (hsum : msg.length + size.toNat < 2 ^ 32) :
    a.Absorbed (a.update ctx data size) (msg ++ bytesAt data 0 size.toNat) := by
  obtain ⟨hpos, hle⟩ := a.blockSize_bounds
  have hlt := h.size_lt
  have hblock := h.block
  have hctx : ctx.size.toNat ≤ msg.length := by
    rw [h.size]
    exact Nat.mod_le _ _
  have hadd : (ctx.size + size).toNat = ctx.size.toNat + size.toNat := by
    rw [UInt32.toNat_add, Nat.mod_eq_of_lt (by omega)]
  have htmp : (a.blockSize - ctx.size).toNat = a.blockSize.toNat - ctx.size.toNat :=
    UInt32.toNat_sub_of_le _ _ (UInt32.le_iff_toNat_le.mpr (le_of_lt hlt))
  rw [Sha2.update]
  dsimp only
  by_cases hfill : ctx.size + size < a.blockSize
  · have hfill' := UInt32.lt_iff_toNat_lt.mp hfill
    rw [if_pos (UInt32.lt_iff_toNat_lt.mpr (by omega) : size < a.blockSize - ctx.size), if_pos hfill]
    exact h.copy (by omega)
  · have hfill' := mt UInt32.lt_iff_toNat_lt.mpr hfill
    rw [if_neg (mt UInt32.lt_iff_toNat_lt.mp (by omega) : ¬ size < a.blockSize - ctx.size), if_neg hfill]
    have hnew : (size - (a.blockSize - ctx.size)).toNat = size.toNat - (a.blockSize - ctx.size).toNat :=
      UInt32.toNat_sub_of_le _ _ (UInt32.le_iff_toNat_le.mpr (by omega))
    generalize a.blockSize - ctx.size = rem at htmp hnew ⊢
    generalize size - rem = newSize at hnew ⊢
    exact h.fill hfit (by omega) (by omega)

theorem Absorbed.padded
    (hnb : blockNb.toNat = if a.blockSize.toNat < ctx.size.toNat + a.padSize.toNat then 2 else 1) :
    let n := blockNb.toNat * a.blockSize.toNat
    let block := overwrite ctx.block ctx.size.toNat (List.replicate (n - ctx.size.toNat) 0)
    let block := overwrite block ctx.size.toNat [0x80]
    let block := overwrite block (n - 4) (bytes32 ((ctx.totalSize + ctx.size) <<< 3))
    block.length = 2 * a.blockSize.toNat ∧
      block.take n = ctx.block.take ctx.size.toNat ++ a.blockHash.padding msg.length := by
  intro n block₁ block₂ block₃
  obtain ⟨hpos, hle⟩ := a.blockSize_bounds
  obtain ⟨hpad, hpad'⟩ := a.padSize_le
  have hlt := h.size_lt
  have hblock := h.block
  have hn : ctx.size.toNat + a.padSize.toNat ≤ n ∧ n ≤ 2 * a.blockSize.toNat := by
    change _ ≤ blockNb.toNat * _ ∧ blockNb.toNat * _ ≤ _
    rw [hnb]
    split_ifs <;> omega
  have hlen₁ : block₁.length = 2 * a.blockSize.toNat := by
    rw [length_overwrite (by rw [List.length_replicate]; omega), hblock]
  have hlen₂ : block₂.length = 2 * a.blockSize.toNat := by
    rw [length_overwrite (by rw [List.length_singleton]; omega), hlen₁]
  have hfour : (bytes32 ((ctx.totalSize + ctx.size) <<< 3)).length = 4 := rfl
  have hlen₃ : block₃.length = 2 * a.blockSize.toNat := by
    rw [length_overwrite (by rw [hfour]; omega), hlen₂]
  refine ⟨hlen₃, ?_⟩
  have hsum : (msg.length + 1 + (a.padSize.toNat - 1)) % a.blockSize.toNat =
      (ctx.size.toNat + a.padSize.toNat) % a.blockSize.toNat := by
    rw [h.size, Nat.mod_add_mod]
    congr 1
    omega
  have hzeroes : n - ctx.size.toNat - 5 = (a.blockSize.toNat - (msg.length + 1 + (a.padSize.toNat - 1)) %
      a.blockSize.toNat) % a.blockSize.toNat + (a.padSize.toNat - 1 - 4) := by
    rw [hsum, missing_mod (by omega) (by omega), ← hnb]
    change n - _ - 5 = n - _ + _
    omega
  have hfront : block₂.take (n - 4) =
      ctx.block.take ctx.size.toNat ++ 0x80 :: List.replicate (n - ctx.size.toNat - 5) 0 := by
    have hput := take_overwrite_zeroes (ctx.block.take ctx.size.toNat)
      (ctx.block.drop (ctx.size.toNat + (n - ctx.size.toNat))) 0x80
      (show n - ctx.size.toNat - 5 ≤ n - ctx.size.toNat - 1 by omega)
    rw [h.length_pending, show n - ctx.size.toNat - 1 + 1 = n - ctx.size.toNat by omega,
      show ctx.size.toNat + 1 + (n - ctx.size.toNat - 5) = n - 4 by omega] at hput
    change (overwrite (overwrite _ _ _) _ _).take _ = _
    rw [overwrite.eq_def ctx.block, List.length_replicate]
    exact hput
  change (overwrite block₂ _ _).take n = _
  rw [take_overwrite (by omega) (by rw [hfour]; omega), hfront, h.total, shiftLeft_three, hzeroes,
    List.append_assoc]
  rfl

end

theorem length_transform {h : List W} (message : Int → UInt8) (blockNb : UInt32) (hh : h.length = 8) :
    (a.transform h message blockNb).length = 8 :=
  length_foldl_rounds (fun h' _ => a.length_compress h' _) _ hh

theorem Absorbed.length_h (h : a.Absorbed ctx msg) : ctx.h.length = 8 := by
  rw [h.h]
  exact BlockHash.feeds_invariant (P := fun c : List W => c.length = 8) a.length_compress a.length_h0 msg

theorem length_hash {n : Nat} (hunpack : ∀ w, (a.unpack w).length = n) (msg : List UInt8) :
    (a.blockHash.hash msg).length = 8 * n := by
  have hlen : (a.blockHash.feeds (a.h0, []) (msg ++ a.blockHash.padding msg.length)).1.length = 8 :=
    BlockHash.feeds_invariant (P := fun c : List W => c.length = 8) a.length_compress a.length_h0 _
  change (List.flatMap a.unpack _).length = _
  rw [List.length_flatMap, List.map_congr_left fun w _ => hunpack w, List.map_const', List.sum_replicate_nat]
  exact congrArg (· * n) hlen

theorem Absorbed.finalize (h : a.Absorbed ctx msg) :
    (a.finalize ctx).1.h.length = 8 ∧ (a.finalize ctx).1.block.length = 2 * a.blockSize.toNat ∧
      (a.finalize ctx).2 = a.blockHash.hash msg := by
  obtain ⟨hpos, hle⟩ := a.blockSize_bounds
  obtain ⟨hpad, hpad'⟩ := a.padSize_le
  have hlt := h.size_lt
  have hfits : (a.blockSize - a.padSize).toNat = a.blockSize.toNat - a.padSize.toNat :=
    UInt32.toNat_sub_of_le _ _ (UInt32.le_iff_toNat_le.mpr (le_of_lt hpad'))
  have hmod : (ctx.size % a.blockSize).toNat = ctx.size.toNat := by
    rw [UInt32.toNat_mod, Nat.mod_eq_of_lt hlt]
  have hnb : (1 + if a.blockSize - a.padSize < ctx.size % a.blockSize then 1 else 0 : UInt32).toNat =
      if a.blockSize.toNat < ctx.size.toNat + a.padSize.toNat then 2 else 1 := by
    by_cases hc : a.blockSize - a.padSize < ctx.size % a.blockSize
    · have hc' := UInt32.lt_iff_toNat_lt.mp hc
      rw [if_pos hc, if_pos (by omega)]
      rfl
    · have hc' := mt UInt32.lt_iff_toNat_lt.mpr hc
      rw [if_neg hc, if_neg (by omega)]
      rfl
  rw [Sha2.finalize]
  dsimp only
  generalize (1 + if a.blockSize - a.padSize < ctx.size % a.blockSize then 1 else 0 : UInt32) = blockNb at hnb ⊢
  have hn : blockNb.toNat * a.blockSize.toNat ≤ 2 * a.blockSize.toNat ∧
      a.blockSize.toNat ≤ blockNb.toNat * a.blockSize.toNat := by
    rw [hnb]
    split_ifs <;> omega
  have hpm := a.toNat_shift (n := blockNb) (by omega)
  have hsub : (blockNb <<< a.shift - ctx.size).toNat = blockNb.toNat * a.blockSize.toNat - ctx.size.toNat := by
    rw [UInt32.toNat_sub_of_le _ _ (UInt32.le_iff_toNat_le.mpr (by omega)), hpm]
  have h4 : (4 : UInt32).toNat = 4 := rfl
  have hsub4 : (blockNb <<< a.shift - 4).toNat = blockNb.toNat * a.blockSize.toNat - 4 := by
    rw [UInt32.toNat_sub_of_le _ _ (UInt32.le_iff_toNat_le.mpr (by omega)), hpm, h4]
  obtain ⟨hlen, htake⟩ := h.padded hnb
  rw [hsub, hsub4]
  have htransform := a.transform_eq ctx.h (ofArray (overwrite (overwrite (overwrite ctx.block ctx.size.toNat
    (List.replicate (blockNb.toNat * a.blockSize.toNat - ctx.size.toNat) 0)) ctx.size.toNat [0x80])
    (blockNb.toNat * a.blockSize.toNat - 4) (bytes32 ((ctx.totalSize + ctx.size) <<< 3))))
    blockNb (by omega)
  rw [bytesAt_ofArray (by rw [hlen]; exact hn.1), htake] at htransform
  rw [BlockHash.feeds_append, h.feeds_pending, ← h.feeds, ← BlockHash.feeds_append] at htransform
  refine ⟨length_transform _ _ h.length_h, hlen, ?_⟩
  rw [BlockHash.hash]
  change List.flatMap a.unpack _ = List.flatMap a.unpack (a.blockHash.feeds (a.h0, []) _).1
  rw [htransform]

end Sha2
variable {ctx : Vb2Sha1Context}

theorem Vb2Sha1Context.load_store (m : Mem) (p : Nat) (hstate : ctx.state.length = 5)
    (hbuf : ctx.buf.length = 64) :
    Vb2Sha1Context.load (ctx.store m p) p = ctx ∧ Mem.SameOutside m (ctx.store m p) p 88 := by
  have hwords : (ctx.state.flatMap leBytes32).length = 20 := by
    have hlen : (ctx.state.flatMap leBytes32).length = 4 * ctx.state.length := le32Format.length_writeArray _
    rw [hlen, hstate]
  have hcount := length_leBytes32 ctx.count
  have hread : le32Format.readArray ((m.store p (leBytes32 ctx.count)).store (p + 4)
      (ctx.state.flatMap leBytes32)) (p + 4) ctx.state.length = ctx.state :=
    le32Format.readArray_store (m.store p (leBytes32 ctx.count)) (p + 4) ctx.state
  rw [hstate] at hread
  constructor
  · rw [Vb2Sha1Context.load, Vb2Sha1Context.store, le32_store_disjoint _ _ _ _ (by omega),
      le32_store_disjoint _ _ _ _ (by omega), le32_store,
      le32Format.readArray_store_disjoint _ _ _ _ _ (.inl (le_refl (p + 24))), hread, Mem.load_store _ _ _ _ hbuf]
  · exact (((Mem.SameOutside.refl m p 88).store (by omega)).store (by omega)).store (by omega)

namespace Sha2

variable {W : Type} {a : Sha2 W}

def contextSize (a : Sha2 W) : Nat := a.format.width * 8 + 8 + 2 * a.blockSize.toNat

theorem load_store (m : Mem) (p : Nat) {ctx : Vb2Sha2Context W} (hh : ctx.h.length = 8)
    (hblock : ctx.block.length = 2 * a.blockSize.toNat) :
    a.load (a.store m p ctx) p = ctx ∧ Mem.SameOutside m (a.store m p ctx) p a.contextSize := by
  have hwords : (ctx.h.flatMap a.format.write).length = a.format.width * 8 := by
    rw [a.format.length_writeArray, hh]
  have htotal := length_leBytes32 ctx.totalSize
  have hsize := length_leBytes32 ctx.size
  have hread := a.format.readArray_store m p ctx.h
  rw [hh] at hread
  constructor
  · rw [load, store, a.format.readArray_store_disjoint _ _ _ _ _ (by omega),
      a.format.readArray_store_disjoint _ _ _ _ _ (by omega),
      a.format.readArray_store_disjoint _ _ _ _ _ (by omega), hread,
      le32_store_disjoint _ _ _ _ (by omega), le32_store_disjoint _ _ _ _ (by omega), le32_store,
      le32_store_disjoint _ _ _ _ (by omega), le32_store, Mem.load_store _ _ _ _ hblock]
  · have hc : a.contextSize = a.format.width * 8 + 8 + 2 * a.blockSize.toNat := rfl
    exact ((((Mem.SameOutside.refl m p a.contextSize).store (by omega)).store (by omega)).store
      (by omega)).store (by omega)

end Sha2

theorem Sha1Absorbed.length_state {msg : List UInt8} (h : Sha1Absorbed ctx msg) :
    ctx.state.length = 5 := by
  rw [h.state]
  exact BlockHash.feeds_invariant (P := fun c : List UInt32 => c.length = 5)
    (fun _ block hc => length_sha1Transform block hc) rfl msg

def shaHash : Vb2HashAlgorithm → List UInt8 → List UInt8
  | .sha1 => sha1Hash.hash
  | .sha256 => sha256.blockHash.hash
  | .sha512 => sha512.blockHash.hash
  | .invalid => fun _ => []

theorem length_sha512 (msg : List UInt8) : (shaHash .sha512 msg).length = 64 :=
  sha512.length_hash (n := 8) (fun _ => rfl) msg

/-- The digest context at an address got the bytes of a message, in software. -/
structure DigestAbsorbed (m : Mem) (dc : UInt64) (alg : Vb2HashAlgorithm) (msg : List UInt8) : Prop where
  hashAlg : Vb2DigestContext.hashAlg m dc = alg
  software : Vb2DigestContext.usingHwcrypto m dc = 0
  context : match alg with
    | .sha1 => Sha1Absorbed (Vb2Sha1Context.load m dc.toNat) msg
    | .sha256 => sha256.Absorbed (sha256.load m dc.toNat) msg
    | .sha512 => sha512.Absorbed (sha512.load m dc.toNat) msg
    | .invalid => False

theorem digestFields_kept {m m' : Mem} {dc : UInt64} {n : Nat} (h : Mem.SameOutside m m' dc.toNat n)
    (hn : n ≤ 328) :
    Vb2DigestContext.hashAlg m' dc = Vb2DigestContext.hashAlg m dc ∧
      Vb2DigestContext.usingHwcrypto m' dc = Vb2DigestContext.usingHwcrypto m dc := by
  have hfield {i : Nat} (hi : 328 ≤ i) : le32 m' (dc.toNat + i) = le32 m (dc.toNat + i) :=
    le32_sameOutside h (.inr (by omega))
  exact ⟨congrArg Vb2HashAlgorithm.ofCode (hfield (le_refl 328)), hfield (by decide)⟩

section
variable {dc : UInt64} {m : Mem} {msg : List UInt8}

theorem absorbed_store_sha1 (h : Sha1Absorbed ctx msg)
    (halg : Vb2DigestContext.hashAlg m dc = .sha1) (hsoft : Vb2DigestContext.usingHwcrypto m dc = 0) :
    DigestAbsorbed (ctx.store m dc.toNat) dc .sha1 msg ∧
      Mem.SameOutside m (ctx.store m dc.toNat) dc.toNat 336 := by
  obtain ⟨hload, hsame⟩ := Vb2Sha1Context.load_store m dc.toNat h.length_state h.buf
  obtain ⟨halg', hsoft'⟩ := digestFields_kept hsame (by decide)
  refine ⟨⟨halg'.trans halg, hsoft'.trans hsoft, ?_⟩, hsame.mono ⟨le_refl _, by omega⟩⟩
  change Sha1Absorbed (Vb2Sha1Context.load _ _) msg
  rw [hload]
  exact h

variable {alg : Vb2HashAlgorithm}

theorem absorbed_store_sha2 {W : Type} {a : Sha2 W} {ctx : Vb2Sha2Context W}
    (hsize : a.contextSize ≤ 328) (hcontext : ∀ {m : Mem}, a.Absorbed (a.load m dc.toNat) msg →
      Vb2DigestContext.hashAlg m dc = alg → Vb2DigestContext.usingHwcrypto m dc = 0 → DigestAbsorbed m dc alg msg)
    (h : a.Absorbed ctx msg) (halg : Vb2DigestContext.hashAlg m dc = alg)
    (hsoft : Vb2DigestContext.usingHwcrypto m dc = 0) :
    DigestAbsorbed (a.store m dc.toNat ctx) dc alg msg ∧
      Mem.SameOutside m (a.store m dc.toNat ctx) dc.toNat 336 := by
  obtain ⟨hload, hsame⟩ := a.load_store m dc.toNat h.length_h h.block
  obtain ⟨halg', hsoft'⟩ := digestFields_kept hsame hsize
  exact ⟨hcontext (by rw [hload]; exact h) (halg'.trans halg) (hsoft'.trans hsoft), hsame.mono ⟨le_refl _, by omega⟩⟩

theorem ofCode_code (alg : Vb2HashAlgorithm) : Vb2HashAlgorithm.ofCode alg.code = alg := by
  cases alg <;> rfl

theorem setDigestAlg_fields (alg : Vb2HashAlgorithm) (hw : UInt32) :
    Vb2DigestContext.hashAlg (setDigestAlg dc alg hw m) dc = alg ∧
      Vb2DigestContext.usingHwcrypto (setDigestAlg dc alg hw m) dc = hw ∧
      Mem.SameOutside m (setDigestAlg dc alg hw m) dc.toNat 336 := by
  have hcode := length_leBytes32 alg.code
  have hhw := length_leBytes32 hw
  refine ⟨?_, le32_store _ _ _, ?_⟩
  · rw [Vb2DigestContext.hashAlg, setDigestAlg, le32_store_disjoint _ _ _ _ (.inl (by omega)), le32_store,
      ofCode_code]
  · exact ((Mem.SameOutside.refl m dc.toNat 336).store (by omega)).store (by omega)

theorem vb2DigestInit_run (halg : alg ≠ .invalid) :
    ∃ m', vb2DigestInit dc alg m = (.ok (), m') ∧ DigestAbsorbed m' dc alg [] ∧
      Mem.SameOutside m m' dc.toNat 336 := by
  obtain ⟨hfield, hsoft, hsame⟩ := @setDigestAlg_fields dc m alg 0
  cases alg with
  | invalid => exact absurd rfl halg
  | sha1 =>
    obtain ⟨habsorbed, hsame'⟩ := absorbed_store_sha1 (@Sha1Absorbed.init (.load _ dc.toNat)
      (Mem.length_load _ _ _)) hfield hsoft
    exact ⟨_, rfl, habsorbed, hsame.trans hsame'⟩
  | sha256 | sha512 =>
    refine ⟨_, rfl, ?_⟩
    exact (absorbed_store_sha2 (by decide) (fun hc ha hs => ⟨ha, hs, hc⟩) (.init (Mem.length_load _ _ _)) hfield
      hsoft).imp_right hsame.trans

theorem vb2DigestExtend_run (h : DigestAbsorbed m dc alg msg)
    {b : Buffer} (hfit : alg = .sha1 ∨ b.size.toNat ≤ 2 ^ 31) (hsum : msg.length + b.size.toNat < 2 ^ 32) :
    ∃ m', vb2DigestExtend dc b m = (.ok (), m') ∧ DigestAbsorbed m' dc alg (msg ++ b.bytes) ∧
      Mem.SameOutside m m' dc.toNat 336 := by
  rw [vb2DigestExtend, Program.observe_bind, h.hashAlg]
  have hcontext := h.context
  cases alg with
  | invalid => exact absurd hcontext id
  | sha1 =>
    obtain ⟨habsorbed, hsame⟩ := absorbed_store_sha1 (m := m) (hcontext.update b.bytes) h.hashAlg h.software
    exact ⟨_, rfl, habsorbed, hsame⟩
  | sha256 | sha512 =>
    have hsmall := hfit.resolve_left (by decide)
    exact ⟨_, rfl, absorbed_store_sha2 (by decide) (fun hc ha hs => ⟨ha, hs, hc⟩) (hcontext.update b.data hsmall hsum)
      h.hashAlg h.software⟩

theorem finish_run {Ctx : Type} (store : Mem → Ctx → Mem) {result : Mem → Ctx × List UInt8} {digest : List UInt8}
    (h : (result m).2 = digest) : finish store result m = (.ok digest, store m (result m).1) :=
  congrArg (fun d => (Except.ok d, store m (result m).1)) h

theorem vb2DigestExtend_total (h : DigestAbsorbed m dc alg msg)
    (b : Buffer) : ∃ m', vb2DigestExtend dc b m = (.ok (), m') := by
  rw [vb2DigestExtend, Program.observe_bind, h.hashAlg]
  cases alg with
  | invalid => exact absurd h.context id
  | sha1 | sha256 | sha512 => exact ⟨_, rfl⟩

theorem vb2DigestFinalize_run (h : DigestAbsorbed m dc alg msg) :
    ∃ m', vb2DigestFinalize dc (vb2DigestSize alg) m = (.ok (shaHash alg msg), m') ∧
      Mem.SameOutside m m' dc.toNat 336 := by
  have hsize : inspect (fun _ => reject (vb2DigestSize alg < vb2DigestSize alg)
      vb2ErrorShaFinalizeDigestSize) m = (.ok (), m) :=
    Program.inspect_ok.mpr ⟨reject_eq_ok.mpr (UInt32.lt_irrefl _), rfl⟩
  rw [vb2DigestFinalize, Program.observe_bind, h.hashAlg, Program.bind_of_ok hsize]
  have hcontext := h.context
  cases alg with
  | invalid => exact absurd hcontext id
  | sha1 =>
    obtain ⟨hend, hdigest⟩ := hcontext.finalize
    obtain ⟨-, hsame⟩ := absorbed_store_sha1 (m := m) hend h.hashAlg h.software
    exact ⟨_, finish_run _ hdigest, hsame⟩
  | sha256 | sha512 =>
    obtain ⟨hh, hblock, hdigest⟩ := hcontext.finalize
    obtain ⟨-, hsame⟩ := Sha2.load_store m dc.toNat hh hblock
    exact ⟨_, finish_run _ hdigest, hsame.mono ⟨le_refl _, Nat.add_le_add_left (by decide) _⟩⟩

end

-- the message "abc"
example : shaHash .sha1 [0x61, 0x62, 0x63] =
    [0xa9, 0x99, 0x3e, 0x36, 0x47, 0x06, 0x81, 0x6a, 0xba, 0x3e, 0x25, 0x71, 0x78, 0x50, 0xc2, 0x6c, 0x9c, 0xd0,
      0xd8, 0x9d] := by
  decide +kernel

end Vboot.Vb2
