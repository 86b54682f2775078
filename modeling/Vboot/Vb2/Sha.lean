import Mathlib.Data.UInt
import Vboot.Lib.Check
import Vboot.Lib.Program
import Vboot.Vb2.Rsa

/-! The hash functions of the vboot2 library, firmware/2lib/2sha1.c, 2sha256.c, 2sha512.c and
2sha_utility.c. All algorithms are compiled in, SHA-1 in the version for any byte order. -/
namespace Vboot.Vb2
open Vboot.Lib

def vb2ErrorShaInitAlgorithm : UInt32 := 0x10010001
def vb2ErrorShaExtendAlgorithm : UInt32 := 0x10010002
def vb2ErrorShaFinalizeAlgorithm : UInt32 := 0x10010003
def vb2ErrorShaFinalizeDigestSize : UInt32 := 0x10010004

/-- A buffer of the caller, seen from its first byte. A read that misses it gets what lies around
it. -/
structure Buffer where
  data : Int → UInt8
  size : UInt32

def bytesAt (data : Int → UInt8) (i n : Nat) : List UInt8 :=
  (List.range n).map fun j => data (i + j : Nat)

def Buffer.bytes (b : Buffer) : List UInt8 := bytesAt b.data 0 b.size.toNat

/-- An array with other bytes from index i on. -/
def overwrite (block : List UInt8) (i : Nat) (bs : List UInt8) : List UInt8 :=
  block.take i ++ bs ++ block.drop (i + bs.length)

/-- The words that the rounds use: those of the message, and then each from the ones before it. -/
def schedule {W : Type} (next : List W → Nat → W) (rounds : Nat) (w : List W) : List W :=
  (List.range' 16 (rounds - 16)).foldl (fun w t => w ++ [next w t]) w

/-- The message words of a block of SHA-1 or SHA-256. -/
def messageWords (block : List UInt8) : List UInt32 := (List.range 16).map fun t => wordAt block (4 * t)

structure Vb2Sha1Context where
  count : UInt32
  state : List UInt32
  buf : List UInt8

def rol (bits value : UInt32) : UInt32 := value <<< bits ||| value >>> (32 - bits)

def sha1Word (w : List UInt32) (t : Nat) : UInt32 :=
  rol 1 (w.getD (t - 3) 0 ^^^ w.getD (t - 8) 0 ^^^ w.getD (t - 14) 0 ^^^ w.getD (t - 16) 0)

def sha1Round (w s : List UInt32) (t : Nat) : List UInt32 := match s with
  | [a, b, c, d, e] =>
    let f := if t < 20 then (d ^^^ (b &&& (c ^^^ d))) + 0x5A827999
      else if t < 40 then (b ^^^ c ^^^ d) + 0x6ED9EBA1
      else if t < 60 then ((b &&& c) ||| (d &&& (b ||| c))) + 0x8F1BBCDC
      else (b ^^^ c ^^^ d) + 0xCA62C1D6
    [rol 5 a + e + w.getD t 0 + f, a, rol 30 b, c, d]
  | _ => s

def sha1Transform (state : List UInt32) (buf : List UInt8) : List UInt32 :=
  let w := schedule sha1Word 80 (messageWords buf)
  List.zipWith (· + ·) state ((List.range 80).foldl (sha1Round w) state)

def sha1Init : List UInt32 := [0x67452301, 0xefcdab89, 0x98badcfe, 0x10325476, 0xc3d2e1f0]

def vb2Sha1Init (ctx : Vb2Sha1Context) : Vb2Sha1Context := { ctx with count := 0, state := sha1Init }

/-- One round of the loop of vb2_sha1_update, with its index. -/
def sha1Byte (s : Vb2Sha1Context × Nat) (b : UInt8) : Vb2Sha1Context × Nat :=
  let buf := s.1.buf.set s.2 b
  if s.2 + 1 = 64 then ({ s.1 with buf, state := sha1Transform s.1.state buf }, 0)
  else ({ s.1 with buf }, s.2 + 1)

def vb2Sha1Update (ctx : Vb2Sha1Context) (data : List UInt8) : Vb2Sha1Context :=
  let i := ctx.count.toNat % 64
  (data.foldl sha1Byte ({ ctx with count := ctx.count + UInt32.ofNat data.length }, i)).1

/-- The loop of vb2_sha1_finalize, which ends in less than 64 rounds. -/
def sha1Zeroes : Nat → Vb2Sha1Context → Vb2Sha1Context
  | 0, ctx => ctx
  | n + 1, ctx => if ctx.count % 64 ≠ 56 then sha1Zeroes n (vb2Sha1Update ctx [0]) else ctx

def vb2Sha1Finalize (ctx : Vb2Sha1Context) : Vb2Sha1Context × List UInt8 :=
  let cnt := ctx.count <<< 3
  let ctx := sha1Zeroes 64 (vb2Sha1Update ctx [0x80])
  let ctx := (List.range 8).foldl (fun ctx i =>
    vb2Sha1Update ctx [(cnt.toUInt64 >>> UInt64.ofNat ((7 - i) * 8)).toUInt8]) ctx
  (ctx, ctx.state.flatMap bytes32)

structure Vb2Sha2Context (W : Type) where
  h : List W
  totalSize : UInt32
  size : UInt32
  block : List UInt8

/-- What SHA-256 and SHA-512 differ in. The padding of a message needs at least the given number of
bytes. -/
structure Sha2 (W : Type) where
  blockSize : UInt32
  shift : UInt32
  padSize : UInt32
  h0 : List W
  compress : List W → List UInt8 → List W
  unpack : W → List UInt8
  format : WordFormat W
  blockSize_eq : blockSize.toNat = 2 ^ shift.toNat
  shift_le : shift.toNat ≤ 7
  padSize_le : 5 ≤ padSize.toNat ∧ padSize.toNat < blockSize.toNat
  length_compress : ∀ h block, h.length = 8 → (compress h block).length = 8
  length_h0 : h0.length = 8

def rotr (x n : UInt32) : UInt32 := x >>> n ||| x <<< (32 - n)

def sha256F1 (x : UInt32) : UInt32 := rotr x 2 ^^^ rotr x 13 ^^^ rotr x 22
def sha256F2 (x : UInt32) : UInt32 := rotr x 6 ^^^ rotr x 11 ^^^ rotr x 25
def sha256F3 (x : UInt32) : UInt32 := rotr x 7 ^^^ rotr x 18 ^^^ x >>> 3
def sha256F4 (x : UInt32) : UInt32 := rotr x 17 ^^^ rotr x 19 ^^^ x >>> 10

def sha256H0 : List UInt32 :=
  [0x6a09e667, 0xbb67ae85, 0x3c6ef372, 0xa54ff53a, 0x510e527f, 0x9b05688c, 0x1f83d9ab, 0x5be0cd19]

def sha256K : List UInt32 :=
  [0x428a2f98, 0x71374491, 0xb5c0fbcf, 0xe9b5dba5, 0x3956c25b, 0x59f111f1, 0x923f82a4, 0xab1c5ed5,
    0xd807aa98, 0x12835b01, 0x243185be, 0x550c7dc3, 0x72be5d74, 0x80deb1fe, 0x9bdc06a7, 0xc19bf174,
    0xe49b69c1, 0xefbe4786, 0x0fc19dc6, 0x240ca1cc, 0x2de92c6f, 0x4a7484aa, 0x5cb0a9dc, 0x76f988da,
    0x983e5152, 0xa831c66d, 0xb00327c8, 0xbf597fc7, 0xc6e00bf3, 0xd5a79147, 0x06ca6351, 0x14292967,
    0x27b70a85, 0x2e1b2138, 0x4d2c6dfc, 0x53380d13, 0x650a7354, 0x766a0abb, 0x81c2c92e, 0x92722c85,
    0xa2bfe8a1, 0xa81a664b, 0xc24b8b70, 0xc76c51a3, 0xd192e819, 0xd6990624, 0xf40e3585, 0x106aa070,
    0x19a4c116, 0x1e376c08, 0x2748774c, 0x34b0bcb5, 0x391c0cb3, 0x4ed8aa4a, 0x5b9cca4f, 0x682e6ff3,
    0x748f82ee, 0x78a5636f, 0x84c87814, 0x8cc70208, 0x90befffa, 0xa4506ceb, 0xbef9a3f7, 0xc67178f2]

def rotr64 (x n : UInt64) : UInt64 := x >>> n ||| x <<< (64 - n)

def sha512F1 (x : UInt64) : UInt64 := rotr64 x 28 ^^^ rotr64 x 34 ^^^ rotr64 x 39
def sha512F2 (x : UInt64) : UInt64 := rotr64 x 14 ^^^ rotr64 x 18 ^^^ rotr64 x 41
def sha512F3 (x : UInt64) : UInt64 := rotr64 x 1 ^^^ rotr64 x 8 ^^^ x >>> 7
def sha512F4 (x : UInt64) : UInt64 := rotr64 x 19 ^^^ rotr64 x 61 ^^^ x >>> 6

def sha512H0 : List UInt64 :=
  [0x6a09e667f3bcc908, 0xbb67ae8584caa73b, 0x3c6ef372fe94f82b, 0xa54ff53a5f1d36f1,
    0x510e527fade682d1, 0x9b05688c2b3e6c1f, 0x1f83d9abfb41bd6b, 0x5be0cd19137e2179]

def sha512K : List UInt64 :=
  [0x428a2f98d728ae22, 0x7137449123ef65cd, 0xb5c0fbcfec4d3b2f, 0xe9b5dba58189dbbc,
    0x3956c25bf348b538, 0x59f111f1b605d019, 0x923f82a4af194f9b, 0xab1c5ed5da6d8118,
    0xd807aa98a3030242, 0x12835b0145706fbe, 0x243185be4ee4b28c, 0x550c7dc3d5ffb4e2,
    0x72be5d74f27b896f, 0x80deb1fe3b1696b1, 0x9bdc06a725c71235, 0xc19bf174cf692694,
    0xe49b69c19ef14ad2, 0xefbe4786384f25e3, 0x0fc19dc68b8cd5b5, 0x240ca1cc77ac9c65,
    0x2de92c6f592b0275, 0x4a7484aa6ea6e483, 0x5cb0a9dcbd41fbd4, 0x76f988da831153b5,
    0x983e5152ee66dfab, 0xa831c66d2db43210, 0xb00327c898fb213f, 0xbf597fc7beef0ee4,
    0xc6e00bf33da88fc2, 0xd5a79147930aa725, 0x06ca6351e003826f, 0x142929670a0e6e70,
    0x27b70a8546d22ffc, 0x2e1b21385c26c926, 0x4d2c6dfc5ac42aed, 0x53380d139d95b3df,
    0x650a73548baf63de, 0x766a0abb3c77b2a8, 0x81c2c92e47edaee6, 0x92722c851482353b,
    0xa2bfe8a14cf10364, 0xa81a664bbc423001, 0xc24b8b70d0f89791, 0xc76c51a30654be30,
    0xd192e819d6ef5218, 0xd69906245565a910, 0xf40e35855771202a, 0x106aa07032bbd1b8,
    0x19a4c116b8d2d0c8, 0x1e376c085141ab53, 0x2748774cdf8eeb99, 0x34b0bcb5e19b48a8,
    0x391c0cb3c5c95a63, 0x4ed8aa4ae3418acb, 0x5b9cca4f7763e373, 0x682e6ff3d6b2b8a3,
    0x748f82ee5defb2fc, 0x78a5636f43172f60, 0x84c87814a1f0ab72, 0x8cc702081a6439ec,
    0x90befffa23631e28, 0xa4506cebde82bde9, 0xbef9a3f7b2c67915, 0xc67178f2e372532b,
    0xca273eceea26619c, 0xd186b8c721c0c207, 0xeada7dd6cde0eb1e, 0xf57d4f7fee6ed178,
    0x06f067aa72176fba, 0x0a637dc5a2c898a6, 0x113f9804bef90dae, 0x1b710b35131c471b,
    0x28db77f523047d84, 0x32caab7b40c72493, 0x3c9ebe0a15c9bebc, 0x431d67c49c100d4c,
    0x4cc5d4becb3e42b6, 0x597f299cfc657e2a, 0x5fcb6fab3ad6faec, 0x6c44198c4a475817]

/-- One round of SHA-256 or SHA-512, with their functions F1 and F2 and constants k. -/
def sha2Round {W : Type} [Add W] [AndOp W] [XorOp W] [Complement W] [Zero W] (f1 f2 : W → W) (k w wv : List W)
    (j : Nat) : List W := match wv with
  | [a, b, c, d, e, f, g, h] =>
    let t1 := h + f2 e + ((e &&& f) ^^^ (~~~e &&& g)) + k.getD j 0 + w.getD j 0
    let t2 := f1 a + ((a &&& b) ^^^ (a &&& c) ^^^ (b &&& c))
    [t1 + t2, a, b, c, d + t1, e, f, g]
  | _ => wv

def sha2Word {W : Type} [Add W] [Zero W] (f3 f4 : W → W) (w : List W) (t : Nat) : W :=
  f4 (w.getD (t - 2) 0) + w.getD (t - 7) 0 + f3 (w.getD (t - 15) 0) + w.getD (t - 16) 0

/-- The body of the loop of vb2_sha256_transform. -/
def sha256Block (h : List UInt32) (subBlock : List UInt8) : List UInt32 :=
  let w := schedule (sha2Word sha256F3 sha256F4) 64 (messageWords subBlock)
  List.zipWith (· + ·) h ((List.range 64).foldl (sha2Round sha256F1 sha256F2 sha256K w) h)

/-- The message words of a block of SHA-512. -/
def messageWords64 (block : List UInt8) : List UInt64 := (List.range 16).map fun t =>
  (wordAt block (8 * t)).toUInt64 <<< 32 ||| (wordAt block (8 * t + 4)).toUInt64

/-- The body of the loop of vb2_sha512_transform. -/
def sha512Block (h : List UInt64) (subBlock : List UInt8) : List UInt64 :=
  let w := schedule (sha2Word sha512F3 sha512F4) 80 (messageWords64 subBlock)
  List.zipWith (· + ·) h ((List.range 80).foldl (sha2Round sha512F1 sha512F2 sha512K w) h)

def unpack64 (x : UInt64) : List UInt8 := bytes32 (x >>> 32).toUInt32 ++ bytes32 x.toUInt32

theorem length_foldl_rounds {W : Type} {n : Nat} {round : List W → Nat → List W}
    (h : ∀ s j, s.length = n → (round s j).length = n) (js : List Nat) {s : List W} (hs : s.length = n) :
    (js.foldl round s).length = n := by
  induction js generalizing s with
  | nil => exact hs
  | cons j js ih => exact ih (h s j hs)

theorem length_sha1Transform {state : List UInt32} (buf : List UInt8) (h : state.length = 5) :
    (sha1Transform state buf).length = 5 := by
  have hround (s : List UInt32) (j : Nat) (hs : s.length = 5) :
      (sha1Round (schedule sha1Word 80 (messageWords buf)) s j).length = 5 := by
    unfold sha1Round
    split
    · rfl
    · exact hs
  have hrounds := length_foldl_rounds hround (List.range 80) h
  rw [sha1Transform, List.length_zipWith, h, hrounds, Nat.min_self]

theorem length_sha2Round {W : Type} [Add W] [AndOp W] [XorOp W] [Complement W] [Zero W] (f1 f2 : W → W)
    (k w s : List W) (j : Nat) (h : s.length = 8) : (sha2Round f1 f2 k w s j).length = 8 := by
  unfold sha2Round
  split
  · rfl
  · exact h

theorem length_sha256Block (h : List UInt32) (block : List UInt8) (hh : h.length = 8) :
    (sha256Block h block).length = 8 := by
  rw [sha256Block, List.length_zipWith, length_foldl_rounds (length_sha2Round _ _ _ _) _ hh, hh,
    Nat.min_self]

theorem length_sha512Block (h : List UInt64) (block : List UInt8) (hh : h.length = 8) :
    (sha512Block h block).length = 8 := by
  rw [sha512Block, List.length_zipWith, length_foldl_rounds (length_sha2Round _ _ _ _) _ hh, hh,
    Nat.min_self]

def sha256 : Sha2 UInt32 where
  blockSize := 64
  shift := 6
  padSize := 9
  h0 := sha256H0
  compress := sha256Block
  unpack := bytes32
  format := le32Format
  blockSize_eq := rfl
  shift_le := by decide
  padSize_le := by decide
  length_compress := length_sha256Block
  length_h0 := rfl

def sha512 : Sha2 UInt64 where
  blockSize := 128
  shift := 7
  padSize := 17
  h0 := sha512H0
  compress := sha512Block
  unpack := unpack64
  format := le64Format
  blockSize_eq := rfl
  shift_le := by decide
  padSize_le := by decide
  length_compress := length_sha512Block
  length_h0 := rfl

def ofArray (block : List UInt8) (k : Int) : UInt8 := block.getD k.toNat 0

namespace Sha2

variable {W : Type} (a : Sha2 W)

def init (ctx : Vb2Sha2Context W) : Vb2Sha2Context W := { ctx with h := a.h0, totalSize := 0, size := 0 }

/- The offset of a block is an int, which cannot be 2^31 or more. It is taken to wrap there. -/
def blockOffset (i : Nat) : Int := (Int32.ofNat (i * 2 ^ a.shift.toNat)).toInt

def transform (h : List W) (message : Int → UInt8) (blockNb : UInt32) : List W :=
  (List.range blockNb.toNat).foldl (fun h i =>
    a.compress h ((List.range a.blockSize.toNat).map fun (j : Nat) => message (a.blockOffset i + j))) h

def update (ctx : Vb2Sha2Context W) (data : Int → UInt8) (size : UInt32) : Vb2Sha2Context W :=
  let tmpSize := a.blockSize - ctx.size
  let remSize := if size < tmpSize then size else tmpSize
  let block := overwrite ctx.block ctx.size.toNat (bytesAt data 0 remSize.toNat)
  if ctx.size + size < a.blockSize then { ctx with block, size := ctx.size + size }
  else
    let newSize := size - remSize
    let blockNb := newSize / a.blockSize
    let shiftedData := fun k => data (remSize.toNat + k)
    let h := a.transform ctx.h (ofArray block) 1
    let h := a.transform h shiftedData blockNb
    let remSize := newSize % a.blockSize
    { h
      totalSize := ctx.totalSize + ((blockNb + 1) <<< a.shift)
      size := remSize
      block := overwrite block 0 (bytesAt shiftedData (blockNb <<< a.shift).toNat remSize.toNat) }

def finalize (ctx : Vb2Sha2Context W) : Vb2Sha2Context W × List UInt8 :=
  let blockNb : UInt32 := 1 + if a.blockSize - a.padSize < ctx.size % a.blockSize then 1 else 0
  let sizeB := (ctx.totalSize + ctx.size) <<< 3
  let pmSize := blockNb <<< a.shift
  let block := overwrite ctx.block ctx.size.toNat (List.replicate (pmSize - ctx.size).toNat 0)
  let block := overwrite block ctx.size.toNat [0x80]
  let block := overwrite block (pmSize - 4).toNat (bytes32 sizeB)
  let h := a.transform ctx.h (ofArray block) blockNb
  ({ ctx with h, block }, h.flatMap a.unpack)

def load (m : Mem) (p : Nat) : Vb2Sha2Context W where
  h := a.format.readArray m p 8
  totalSize := le32 m (p + a.format.width * 8)
  size := le32 m (p + a.format.width * 8 + 4)
  block := m.load (p + a.format.width * 8 + 8) (2 * a.blockSize.toNat)

def store (m : Mem) (p : Nat) (ctx : Vb2Sha2Context W) : Mem :=
  let m := m.store p (ctx.h.flatMap a.format.write)
  let m := m.store (p + a.format.width * 8) (leBytes32 ctx.totalSize)
  let m := m.store (p + a.format.width * 8 + 4) (leBytes32 ctx.size)
  m.store (p + a.format.width * 8 + 8) ctx.block

end Sha2

def vb2Sha256Init : Vb2Sha2Context UInt32 → Vb2Sha2Context UInt32 := sha256.init
def vb2Sha256Update (ctx : Vb2Sha2Context UInt32) (b : Buffer) : Vb2Sha2Context UInt32 :=
  sha256.update ctx b.data b.size
def vb2Sha256Finalize : Vb2Sha2Context UInt32 → Vb2Sha2Context UInt32 × List UInt8 := sha256.finalize

def vb2Sha512Init : Vb2Sha2Context UInt64 → Vb2Sha2Context UInt64 := sha512.init
def vb2Sha512Update (ctx : Vb2Sha2Context UInt64) (b : Buffer) : Vb2Sha2Context UInt64 :=
  sha512.update ctx b.data b.size
def vb2Sha512Finalize : Vb2Sha2Context UInt64 → Vb2Sha2Context UInt64 × List UInt8 := sha512.finalize

def Vb2Sha1Context.load (m : Mem) (p : Nat) : Vb2Sha1Context where
  count := le32 m p
  state := le32Format.readArray m (p + 4) 5
  buf := m.load (p + 24) 64

def Vb2Sha1Context.store (m : Mem) (p : Nat) (ctx : Vb2Sha1Context) : Mem :=
  ((m.store p (leBytes32 ctx.count)).store (p + 4) (ctx.state.flatMap leBytes32)).store (p + 24) ctx.buf

def Vb2HashAlgorithm.code : Vb2HashAlgorithm → UInt32
  | .invalid => 0
  | .sha1 => 1
  | .sha256 => 2
  | .sha512 => 3

def Vb2HashAlgorithm.ofCode (code : UInt32) : Vb2HashAlgorithm :=
  if code = 1 then .sha1 else if code = 2 then .sha256 else if code = 3 then .sha512 else .invalid

/- struct vb2_digest_context, with the context of the algorithm at its start -/
def Vb2DigestContext.hashAlg (m : Mem) (dc : UInt64) : Vb2HashAlgorithm := .ofCode (le32 m (dc.toNat + 328))
def Vb2DigestContext.usingHwcrypto (m : Mem) (dc : UInt64) : UInt32 := le32 m (dc.toNat + 332)

def setDigestAlg (dc : UInt64) (hashAlg : Vb2HashAlgorithm) (usingHwcrypto : UInt32) (m : Mem) : Mem :=
  (m.store (dc.toNat + 328) (leBytes32 hashAlg.code)).store (dc.toNat + 332) (leBytes32 usingHwcrypto)

def vb2DigestInit (dc : UInt64) (hashAlg : Vb2HashAlgorithm) : Program UInt32 Mem Unit := do
  update (setDigestAlg dc hashAlg 0)
  match hashAlg with
  | .sha1 => update fun m => Vb2Sha1Context.store m dc.toNat (vb2Sha1Init (.load m dc.toNat))
  | .sha256 => update fun m => sha256.store m dc.toNat (vb2Sha256Init (sha256.load m dc.toNat))
  | .sha512 => update fun m => sha512.store m dc.toNat (vb2Sha512Init (sha512.load m dc.toNat))
  | .invalid => throw vb2ErrorShaInitAlgorithm

def vb2DigestExtend (dc : UInt64) (buf : Buffer) : Program UInt32 Mem Unit := do
  match ← observe fun m => Vb2DigestContext.hashAlg m dc with
  | .sha1 => update fun m => Vb2Sha1Context.store m dc.toNat (vb2Sha1Update (.load m dc.toNat) buf.bytes)
  | .sha256 => update fun m => sha256.store m dc.toNat (vb2Sha256Update (sha256.load m dc.toNat) buf)
  | .sha512 => update fun m => sha512.store m dc.toNat (vb2Sha512Update (sha512.load m dc.toNat) buf)
  | .invalid => throw vb2ErrorShaExtendAlgorithm

/-- Store the context that a hash function leaves, and return the digest. -/
def finish {Ctx : Type} (store : Mem → Ctx → Mem) (result : Mem → Ctx × List UInt8) :
    Program UInt32 Mem (List UInt8) := do
  let (ctx, digest) ← observe result
  update fun m => store m ctx
  pure digest

def vb2DigestFinalize (dc : UInt64) (digestSize : UInt32) : Program UInt32 Mem (List UInt8) := do
  let hashAlg ← observe fun m => Vb2DigestContext.hashAlg m dc
  inspect fun _ => reject (digestSize < vb2DigestSize hashAlg) vb2ErrorShaFinalizeDigestSize
  match hashAlg with
  | .sha1 => finish (Vb2Sha1Context.store · dc.toNat) fun m => vb2Sha1Finalize (.load m dc.toNat)
  | .sha256 => finish (sha256.store · dc.toNat) fun m => vb2Sha256Finalize (sha256.load m dc.toNat)
  | .sha512 => finish (sha512.store · dc.toNat) fun m => vb2Sha512Finalize (sha512.load m dc.toNat)
  | .invalid => throw vb2ErrorShaFinalizeAlgorithm

end Vboot.Vb2
