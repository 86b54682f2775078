import Vboot.Lib.Endian

/-! RSA signature verification of the vboot2 library, firmware/2lib/2rsa.c, with the work
buffer and the comparison of firmware/2lib/2common.c. All hash algorithms are compiled in. -/
namespace Vboot.Vb2
open Vboot.Lib

def vb2Success : UInt32 := 0
def vb2ErrorRsaPadding : UInt32 := 0x10020001
def vb2ErrorRsaPaddingAlgorithm : UInt32 := 0x10020002
def vb2ErrorRsaVerifyParam : UInt32 := 0x10020003
def vb2ErrorRsaVerifyAlgorithm : UInt32 := 0x10020004
def vb2ErrorRsaVerifySigLen : UInt32 := 0x10020005
def vb2ErrorRsaVerifyWorkbuf : UInt32 := 0x10020006
def vb2ErrorRsaVerifyDigest : UInt32 := 0x10020007
def vb2ErrorRsaPaddingSize : UInt32 := 0x10020008

inductive Vb2SignatureAlgorithm where
  | invalid | none | rsa1024 | rsa2048 | rsa4096 | rsa8192
  deriving DecidableEq, Repr

inductive Vb2HashAlgorithm where
  | invalid | sha1 | sha256 | sha512
  deriving DecidableEq, Repr

/-- Both arrays have arrsize words, least significant first. -/
structure Vb2PublicKey where
  arrsize : UInt32
  n0inv : UInt32
  n : List UInt32
  rr : List UInt32
  sigAlg : Vb2SignatureAlgorithm
  hashAlg : Vb2HashAlgorithm

/- The 64-bit accumulator holds a borrow of 0 or -1 between two words, so that it is a small
   integer; the arithmetic shift is a division that rounds down. -/
def subMLoop : Int → List UInt32 → List UInt32 → List UInt32
  | A, n :: ns, a :: as =>
    let A := A + ((a.toNat : Int) - n.toNat)
    UInt32.ofInt A :: subMLoop (A / 2 ^ 32) ns as
  | _, _, _ => []

def subM (key : Vb2PublicKey) (a : List UInt32) : List UInt32 := subMLoop 0 key.n a

/-- Compare from the most significant word down. -/
def montGeLoop : List (UInt32 × UInt32) → Bool
  | [] => true
  | (a, n) :: rest => if a < n then false else if a > n then true else montGeLoop rest

def vb2MontGe (key : Vb2PublicKey) (a : List UInt32) : Bool := montGeLoop (a.zip key.n).reverse

/-- The loop of montMulAdd from the second word on: the words that are stored and the two
accumulators. -/
def montMulAddLoop (a d0 : UInt32) : UInt64 → UInt64 → List UInt32 → List UInt32 → List UInt32 →
    List UInt32 × UInt64 × UInt64
  | A, B, b :: bs, c :: cs, n :: ns =>
    let A := (A >>> 32) + a.toUInt64 * b.toUInt64 + c.toUInt64
    let B := (B >>> 32) + d0.toUInt64 * n.toUInt64 + A.toUInt32.toUInt64
    let r := montMulAddLoop a d0 A B bs cs ns
    (B.toUInt32 :: r.1, r.2)
  | A, B, _, _, _ => ([], A, B)

def montMulAdd (key : Vb2PublicKey) (c : List UInt32) (a : UInt32) (b : List UInt32) : List UInt32 :=
  match b, c, key.n with
  | b0 :: bs, c0 :: cs, n0 :: ns =>
    let A := a.toUInt64 * b0.toUInt64 + c0.toUInt64
    let d0 := A.toUInt32 * key.n0inv
    let B := d0.toUInt64 * n0.toUInt64 + A.toUInt32.toUInt64
    let (c, A, B) := montMulAddLoop a d0 A B bs cs ns
    let A := (A >>> 32) + (B >>> 32)
    let c := c ++ [A.toUInt32]
    if A >>> 32 ≠ 0 then subM key c else c
  | _, _, _ => c

def montMul (key : Vb2PublicKey) (a b : List UInt32) : List UInt32 :=
  a.foldl (fun c ai => montMulAdd key c ai b) (List.replicate key.arrsize.toNat 0)

/-- One word of a big-endian byte array. -/
def wordAt (inout : List UInt8) (i : Nat) : UInt32 :=
  be32 (inout.getD i 0) (inout.getD (i + 1) 0) (inout.getD (i + 2) 0) (inout.getD (i + 3) 0)

def toWords (arrsize : Nat) (inout : List UInt8) : List UInt32 :=
  (List.range arrsize).map fun i => wordAt inout ((arrsize - 1 - i) * 4)

def toBytes (ws : List UInt32) : List UInt8 := ws.reverse.flatMap bytes32

/-- The loop squares twice in each of its 8 rounds. -/
def squareTwice (key : Vb2PublicKey) (aR : List UInt32) : List UInt32 :=
  let aaR := montMul key aR aR
  montMul key aaR aaR

def modpowF4 (key : Vb2PublicKey) (inout : List UInt8) : List UInt8 :=
  let a := toWords key.arrsize.toNat inout
  let aR := montMul key a key.rr
  let aR := (squareTwice key)^[8] aR
  let aaa := montMul key aR a
  toBytes (if vb2MontGe key aaa then subM key aaa else aaa)

def vb2RsaSigSize : Vb2SignatureAlgorithm → UInt32
  | .rsa1024 => 1024 / 8
  | .rsa2048 => 2048 / 8
  | .rsa4096 => 4096 / 8
  | .rsa8192 => 8192 / 8
  | .invalid | .none => 0

def vb2DigestSize : Vb2HashAlgorithm → UInt32
  | .sha1 => 20
  | .sha256 => 32
  | .sha512 => 64
  | .invalid => 0

def sha1Tail : List UInt8 :=
  [0x00, 0x30, 0x21, 0x30, 0x09, 0x06, 0x05, 0x2b, 0x0e, 0x03, 0x02, 0x1a, 0x05, 0x00, 0x04, 0x14]

def sha256Tail : List UInt8 :=
  [0x00, 0x30, 0x31, 0x30, 0x0d, 0x06, 0x09, 0x60, 0x86, 0x48, 0x01, 0x65, 0x03, 0x04, 0x02, 0x01,
    0x05, 0x00, 0x04, 0x20]

def sha512Tail : List UInt8 :=
  [0x00, 0x30, 0x51, 0x30, 0x0d, 0x06, 0x09, 0x60, 0x86, 0x48, 0x01, 0x65, 0x03, 0x04, 0x02, 0x03,
    0x05, 0x00, 0x04, 0x40]

/-- The bits in which two byte arrays differ, over all of their first bytes. -/
def differences (s1 s2 : Nat → UInt8) (size : Nat) : UInt8 :=
  (List.range size).foldl (fun result i => result ||| (s1 i ^^^ s2 i)) 0

def vb2SafeMemcmp (s1 s2 : List UInt8) (size : Nat) : Bool :=
  differences (s1.getD · 0) (s2.getD · 0) size != 0

/-- The padding for one algorithm, once the sizes have been checked. -/
def checkTail (sig : List UInt8) (padSize : UInt32) (tail : List UInt8) : UInt32 :=
  let count := (padSize - UInt32.ofNat tail.length - 2).toNat
  let result := (sig.getD 0 0 ^^^ 0x00) ||| (sig.getD 1 0 ^^^ 0x01) |||
    differences (fun i => sig.getD (2 + i) 0) (fun _ => 0xff) count
  if result ≠ 0 ∨ vb2SafeMemcmp (sig.drop (2 + count)) tail tail.length then vb2ErrorRsaPadding
  else vb2Success

def vb2CheckPadding (sig : List UInt8) (key : Vb2PublicKey) : UInt32 :=
  let sigSize := vb2RsaSigSize key.sigAlg
  let hashSize := vb2DigestSize key.hashAlg
  let padSize := sigSize - hashSize
  if sigSize = 0 ∨ hashSize = 0 ∨ hashSize > sigSize then vb2ErrorRsaPaddingSize
  else match key.hashAlg with
    | .sha1 => checkTail sig padSize sha1Tail
    | .sha256 => checkTail sig padSize sha256Tail
    | .sha512 => checkTail sig padSize sha512Tail
    | .invalid => vb2ErrorRsaPaddingAlgorithm

/-- A work buffer; the alignment is the largest one of the machine. -/
structure Vb2Workbuf where
  buf : UInt64
  size : UInt32

def wbRoundUp (align v : UInt32) : UInt32 := (v + align - 1) &&& ~~~(align - 1)

def vb2WorkbufAlloc (align : UInt32) (wb : Vb2Workbuf) (size : UInt32) : Option UInt64 × Vb2Workbuf :=
  let size := wbRoundUp align size
  if size > wb.size then (none, wb)
  else (some wb.buf, ⟨wb.buf + size.toUInt64, wb.size - size⟩)

/-- The result and the signature, which becomes its own power. A missing argument is a null
pointer. -/
def vb2RsaVerifyDigest (align : UInt32) (key : Option Vb2PublicKey) (sig digest : Option (List UInt8))
    (wb : Vb2Workbuf) : UInt32 × Option (List UInt8) :=
  match key, sig, digest with
  | some key, some sig, some digest =>
    let sigSize := vb2RsaSigSize key.sigAlg
    if sigSize = 0 then (vb2ErrorRsaVerifyAlgorithm, some sig)
    else
      let keyBytes := key.arrsize * 4
      if keyBytes ≠ sigSize then (vb2ErrorRsaVerifySigLen, some sig)
      else if (vb2WorkbufAlloc align wb (3 * keyBytes)).1 = none then
        (vb2ErrorRsaVerifyWorkbuf, some sig)
      else
        let sig := modpowF4 key sig
        let rv := vb2CheckPadding sig key
        if rv = vb2ErrorRsaPaddingSize then (rv, some sig)
        else
          let padSize := sigSize - vb2DigestSize key.hashAlg
          if vb2SafeMemcmp (sig.drop padSize.toNat) digest (keyBytes - padSize).toNat then
            (if rv = vb2Success then vb2ErrorRsaVerifyDigest else rv, some sig)
          else (rv, some sig)
  | _, _, _ => (vb2ErrorRsaVerifyParam, sig)

end Vboot.Vb2
