import Vboot.Vb2.DataKey
import Vboot.Vb2.Digest

/-! Hashing of the firmware body in parts, firmware/lib20/api.c and firmware/2lib/2api.c. -/
namespace Vboot.Vb2
open Vboot.Lib Vboot.Lib.Program
open Vb2Signature (dataSize sigSize sigOffset)
open Vb2FwPreamble (bodySignature kernelSubkey)

def vb2ErrorApiInitHashTag : UInt32 := 0x10090001
def vb2ErrorApiInitHashPreamble : UInt32 := 0x10090002
def vb2ErrorApiInitHashWorkbuf : UInt32 := 0x10090003
def vb2ErrorApiInitHashDataKey : UInt32 := 0x10090004
def vb2ErrorApiExtendHashWorkbuf : UInt32 := 0x10090005
def vb2ErrorApiExtendHashSize : UInt32 := 0x10090006
def vb2ErrorApiCheckHashPreamble : UInt32 := 0x10090007
def vb2ErrorApiCheckHashWorkbuf : UInt32 := 0x10090008
def vb2ErrorApiCheckHashSize : UInt32 := 0x10090009
def vb2ErrorApiCheckHashWorkbufDigest : UInt32 := 0x1009000a
def vb2ErrorApiCheckHashTag : UInt32 := 0x1009000b
def vb2ErrorApiCheckHashDataKey : UInt32 := 0x1009000c
def vb2ErrorApiCheckDigestSize : UInt32 := 0x1009001a
def vb2ErrorExHwcryptoUnsupported : UInt32 := 0x100a0006

def vb2RecoveryFwBody : UInt8 := 0x1b

/- enum vb2_hash_tag -/
def vb2HashTagInvalid : UInt32 := 0
def vb2HashTagFwBody : UInt32 := 1

def Vb2FwPreamble.flags (m : Mem) (pre : UInt64) : UInt32 := le32 m (pre.toNat + 104)
def vb2FirmwarePreambleDisallowHwcrypto : UInt32 := 0x2

/-- The hash functions of the hardware, as they answer one call. -/
structure Vb2exHwcrypto where
  digestInit : Vb2HashAlgorithm → UInt32 → UInt32
  digestExtend : Buffer → UInt32
  digestFinalize : UInt32 → Except UInt32 (List UInt8)

/-- The preamble in the work buffer. -/
def Vb2Context.preamble (ctx : Vb2Context) : UInt64 :=
  ctx.workbufAddr + ctx.sd.workbufPreambleOffset.toUInt64

def Vb2Context.hashContext (ctx : Vb2Context) : UInt64 :=
  ctx.workbufAddr + ctx.sd.workbufHashOffset.toUInt64

/-- The size of the body that the preamble tells. -/
def Vb2Context.bodySize (ctx : Vb2Context) : UInt32 :=
  dataSize ctx.workbuf (bodySignature ctx.preamble)

def saveHashContext (dc : UInt64) (ctx : Vb2Context) : Vb2Context :=
  let offset := (vb2OffsetOf ctx.workbufAddr dc).toUInt32
  { ctx with
    sd := { ctx.sd with
      workbufHashOffset := offset
      workbufHashSize := vb2DigestContextSize }
    workbufUsed := offset + vb2DigestContextSize }

section
variable (align : UInt32)

/-- The place of the digest context, which is allocated the first time. -/
def findHashContext : Vb2M UInt64 := do
  let ctx ← observe id
  if ctx.sd.workbufHashSize ≠ 0 then pure ctx.hashContext
  else do
    let (dc, _) ← allocate (vb2WorkbufAlloc align (vb2WorkbufFromCtx align ctx) vb2DigestContextSize)
      vb2ErrorApiInitHashWorkbuf
    update (saveHashContext dc)
    pure dc

/-- Start to hash, in hardware if the preamble allows it and there is some. -/
def startHash (hw : Vb2exHwcrypto) (dc : UInt64) (hashAlg : Vb2HashAlgorithm) (size flags : UInt32) :
    Vb2M Unit :=
  if flags &&& vb2FirmwarePreambleDisallowHwcrypto ≠ 0 then onWorkbuf (vb2DigestInit dc hashAlg)
  else
    let rv := hw.digestInit hashAlg size
    if rv = vb2Success then onWorkbuf (update (setDigestAlg dc hashAlg 1))
    else if rv ≠ vb2ErrorExHwcryptoUnsupported then throw rv
    else onWorkbuf (vb2DigestInit dc hashAlg)

/-- The size of the data is returned. -/
def vb2apiInitHash (hw : Vb2exHwcrypto) (tag : UInt32) : Vb2M UInt32 := do
  inspect fun _ => reject (tag = vb2HashTagInvalid) vb2ErrorApiInitHashTag
  inspect fun ctx => reject (ctx.sd.workbufPreambleSize = 0) vb2ErrorApiInitHashPreamble
  inspect fun _ => reject (tag ≠ vb2HashTagFwBody) vb2ErrorApiInitHashTag
  let dc ← findHashContext align
  inspect fun ctx => reject (ctx.sd.workbufDataKeySize = 0) vb2ErrorApiInitHashDataKey
  let key ← inspect Vb2Context.dataKey
  let size ← observe Vb2Context.bodySize
  let flags ← observe fun ctx => Vb2FwPreamble.flags ctx.workbuf ctx.preamble
  update fun ctx => { ctx with sd := { ctx.sd with hashTag := tag, hashRemainingSize := size } }
  startHash hw dc key.hashAlg size flags
  pure size

def vb2apiExtendHash (hw : Vb2exHwcrypto) (buf : Buffer) : Vb2M Unit := do
  inspect fun ctx => reject (ctx.sd.workbufHashSize = 0) vb2ErrorApiExtendHashWorkbuf
  inspect fun ctx => reject (buf.size = 0 ∨ buf.size > ctx.sd.hashRemainingSize) vb2ErrorApiExtendHashSize
  update fun ctx =>
    { ctx with sd := { ctx.sd with hashRemainingSize := ctx.sd.hashRemainingSize - buf.size } }
  let dc ← observe Vb2Context.hashContext
  let hwcrypto ← observe fun ctx => Vb2DigestContext.usingHwcrypto ctx.workbuf dc
  if hwcrypto ≠ 0 then inspect fun _ => reject (hw.digestExtend buf ≠ vb2Success) (hw.digestExtend buf)
  else onWorkbuf (vb2DigestExtend dc buf)

def finishHash (hw : Vb2exHwcrypto) (dc digest : UInt64) (digestSize : UInt32) : Vb2M (List UInt8) := do
  let hwcrypto ← observe fun ctx => Vb2DigestContext.usingHwcrypto ctx.workbuf dc
  let bytes ← if hwcrypto ≠ 0 then inspect fun _ => hw.digestFinalize digestSize
    else onWorkbuf (vb2DigestFinalize dc digestSize)
  update fun ctx => { ctx with workbuf := ctx.workbuf.store digest.toNat bytes }
  pure bytes

/-- The result of the check of the signature, with the digest if there is a buffer for it. -/
def vb2apiCheckHashGetDigest (hw : Vb2exHwcrypto) (digestOutSize : Option UInt32) :
    Vb2M (Except UInt32 Unit × Option (List UInt8)) := do
  let wb ← observe (vb2WorkbufFromCtx align)
  let dc ← observe Vb2Context.hashContext
  let digestSize ← observe fun ctx => vb2DigestSize (Vb2DigestContext.hashAlg ctx.workbuf dc)
  inspect fun ctx => reject (ctx.sd.workbufPreambleSize = 0) vb2ErrorApiCheckHashPreamble
  inspect fun ctx => reject (ctx.sd.workbufHashSize = 0) vb2ErrorApiCheckHashWorkbuf
  inspect fun ctx => reject (ctx.sd.hashRemainingSize ≠ 0) vb2ErrorApiCheckHashSize
  let (digest, wb) ← allocate (vb2WorkbufAlloc align wb digestSize) vb2ErrorApiCheckHashWorkbufDigest
  let bytes ← finishHash hw dc digest digestSize
  inspect fun ctx => reject (ctx.sd.hashTag ≠ vb2HashTagFwBody) vb2ErrorApiCheckHashTag
  inspect fun ctx => reject (ctx.sd.workbufDataKeySize = 0) vb2ErrorApiCheckHashDataKey
  let key ← inspect Vb2Context.dataKey
  let pre ← observe Vb2Context.preamble
  let rv ← attempt (orFail vb2RecoveryFwBody
    (onWorkbuf (vb2VerifyDigest align key (bodySignature pre) bytes wb)))
  match digestOutSize with
  | none => pure (rv, none)
  | some size => do
    inspect fun _ => reject (size < digestSize) vb2ErrorApiCheckDigestSize
    pure (rv, some bytes)

def vb2apiCheckHash (hw : Vb2exHwcrypto) : Vb2M Unit := do
  let (rv, _) ← vb2apiCheckHashGetDigest align hw none
  inspect fun _ => rv

end

/-- Calls of vb2api_extend_hash, whatever they return, and the buffers that they accept. -/
def extendHashes : List (Vb2exHwcrypto × Buffer) → Vb2Context → List Buffer × Vb2Context
  | [], ctx => ([], ctx)
  | (hw, buf) :: calls, ctx => match vb2apiExtendHash hw buf ctx with
    | (.ok _, ctx) => (buf :: (extendHashes calls ctx).1, (extendHashes calls ctx).2)
    | (.error _, ctx) => extendHashes calls ctx

/-- The buffers that are accepted while the given number of bytes is expected. -/
def acceptedBuffers (left : UInt32) : List Buffer → List Buffer
  | [] => []
  | buf :: bufs =>
    if buf.size = 0 ∨ buf.size > left then acceptedBuffers left bufs
    else buf :: acceptedBuffers (left - buf.size) bufs

/-- The signature is good for a digest, if the work buffer is not too small for the check. -/
def signatureVerifies (align : UInt32) (m : Mem) (key : Vb2PublicKey) (sig : UInt64) (digest : List UInt8) :
    Prop :=
  (vb2VerifyDigest align key sig digest ⟨0, 0xffffffff⟩ m).1 = .ok ()

section
variable {align : UInt32} {key : Vb2PublicKey} {sig : UInt64} {digest : List UInt8} {m m' : Mem}

def RsaSpace (align : UInt32) (key : Vb2PublicKey) (wb : Vb2Workbuf) : Prop :=
  (vb2WorkbufAlloc align wb (3 * (key.arrsize * 4))).1 ≠ none

theorem rsaSpace_ample (align : UInt32) (key : Vb2PublicKey) : RsaSpace align key ⟨0, 0xffffffff⟩ := by
  have hmax : wbRoundUp align (3 * (key.arrsize * 4)) ≤ 0xffffffff :=
    UInt32.le_iff_toNat_le.mpr (Nat.le_of_lt_succ (UInt32.toNat_lt _))
  rw [RsaSpace, vb2WorkbufAlloc, if_neg (UInt32.not_lt.mpr hmax)]
  exact Option.some_ne_none _

theorem rsaVerify_workbuf {wb wb' : Vb2Workbuf} (h : RsaSpace align key wb) (h' : RsaSpace align key wb') :
    rsaVerify align key m sig digest wb = rsaVerify align key m sig digest wb' := by
  have hne : ¬ (vb2WorkbufAlloc align wb (3 * (key.arrsize * 4))).1 = none := h
  have hne' : ¬ (vb2WorkbufAlloc align wb' (3 * (key.arrsize * 4))).1 = none := h'
  rw [rsaVerify, rsaVerify, vb2RsaVerifyDigest, vb2RsaVerifyDigest]
  dsimp only
  rw [if_neg hne, if_neg hne']

theorem vb2VerifyDigest_iff {wb : Vb2Workbuf} (hspace : RsaSpace align key wb)
    (hheader : m'.load sig.toNat 24 = m.load sig.toNat 24)
    (hdata : ∀ i < (sigSize m sig).toNat,
      m' ((vb2SignatureData m sig).toNat + i) = m ((vb2SignatureData m sig).toNat + i)) :
    (vb2VerifyDigest align key sig digest wb m').1 = .ok () ↔ signatureVerifies align m key sig digest := by
  have hfield {i : Nat} (hi : i + 4 ≤ 24) : le32 m' (sig.toNat + i) = le32 m (sig.toNat + i) :=
    le32_congr fun j hj => by
      rw [Nat.add_assoc]
      exact Mem.load_eq_iff.mp hheader (i + j) (by omega)
  have hsize : sigSize m' sig = sigSize m sig := hfield (i := 8) (by decide)
  have hoffset : sigOffset m' sig = sigOffset m sig := hfield (i := 0) (by decide)
  have hpointer : vb2SignatureData m' sig = vb2SignatureData m sig := by
    rw [vb2SignatureData, hoffset, vb2SignatureData]
  rw [signatureVerifies, result_ok_iff, result_ok_iff]
  simp only [vb2VerifyDigest_ok, exists_and_left, exists_eq, and_true]
  rw [hsize]
  refine and_congr_right fun hs => ?_
  have hload : m'.load (vb2SignatureData m' sig).toNat (vb2RsaSigSize key.sigAlg).toNat =
      m.load (vb2SignatureData m sig).toNat (vb2RsaSigSize key.sigAlg).toNat := by
    rw [hpointer, ← hs]
    exact Mem.load_congr hdata
  rw [rsaVerify_workbuf hspace (rsaSpace_ample align key), rsaVerify, hload, rsaVerify]

end

/-- The body signature of a verified preamble, and the data key below the preamble, lie in the used part
of the work buffer. -/
structure BodyReady (ctx : Vb2Context) (key : Vb2PublicKey) : Prop where
  valid : WorkbufValid ctx
  used : ctx.workbufUsed.toNat = ctx.sd.workbufPreambleOffset.toNat + ctx.sd.workbufPreambleSize.toNat
  header : 108 ≤ ctx.sd.workbufPreambleSize.toNat
  signature : 80 + (sigOffset ctx.workbuf (bodySignature ctx.preamble)).toNat +
    (sigSize ctx.workbuf (bodySignature ctx.preamble)).toNat ≤
      ctx.sd.workbufPreambleSize.toNat
  key : ctx.dataKey = .ok key
  keyEnd : ctx.sd.workbufDataKeyOffset.toNat + ctx.sd.workbufDataKeySize.toNat ≤ ctx.workbufUsed.toNat
  fresh : ctx.sd.workbufHashSize = 0

def withHashContext (align : UInt32) (ctx : Vb2Context) : Vb2Context :=
  saveHashContext (vb2WorkbufFromCtx align ctx).buf ctx

/-- The work buffer has space for the preamble, the digest context, the digest and the RSA step. -/
structure HashSpace (align : UInt32) (ctx : Vb2Context) (key : Vb2PublicKey) : Prop where
  preamble : ctx.sd.workbufPreambleOffset.toNat + ctx.sd.workbufPreambleSize.toNat ≤ ctx.workbufSize.toNat
  context : (vb2WorkbufAlloc align (vb2WorkbufFromCtx align ctx) vb2DigestContextSize).1 ≠ none
  digest : (vb2WorkbufAlloc align (vb2WorkbufFromCtx align (withHashContext align ctx))
    (vb2DigestSize key.hashAlg)).1 ≠ none
  rsa : RsaSpace align key (vb2WorkbufAlloc align (vb2WorkbufFromCtx align (withHashContext align ctx))
    (vb2DigestSize key.hashAlg)).2

variable {align size : UInt32} {m : Mem} {ctx : Vb2Context}
  {hash : Vb2HashAlgorithm → List UInt8 → List UInt8} {pre : UInt64}

theorem vb2WorkbufAlloc_of_ne {wb : Vb2Workbuf} (h : (vb2WorkbufAlloc align wb size).1 ≠ none) :
    vb2WorkbufAlloc align wb size = (some wb.buf, (vb2WorkbufAlloc align wb size).2) ∧
      (wbRoundUp align size).toNat ≤ wb.size.toNat := by
  by_cases hbig : wbRoundUp align size > wb.size
  · rw [vb2WorkbufAlloc, if_pos hbig] at h
    exact absurd rfl h
  · refine ⟨?_, UInt32.le_iff_toNat_le.mp (UInt32.not_lt.mp hbig)⟩
    rw [vb2WorkbufAlloc, if_neg hbig]

section
variable {align : UInt32} (ha : 0 < align.toNat ∧ align.toNat ≤ 2 ^ 31) {ctx : Vb2Context}
  {key : Vb2PublicKey} (hready : BodyReady ctx key) (hspace : HashSpace align ctx key)
include ha hready hspace

theorem withHashContext_place :
    (withHashContext align ctx).hashContext = (vb2WorkbufFromCtx align ctx).buf ∧
      ctx.workbufAddr.toNat + ctx.workbufUsed.toNat ≤ (vb2WorkbufFromCtx align ctx).buf.toNat ∧
      (vb2WorkbufFromCtx align ctx).buf.toNat + 336 =
        ctx.workbufAddr.toNat + (withHashContext align ctx).workbufUsed.toNat ∧
      WorkbufValid (withHashContext align ctx) := by
  obtain ⟨hlow, hhigh⟩ := @vb2WorkbufFromCtx_inside align ctx hready.valid
  have haddr := hready.valid.address
  have hwsize := ctx.workbufSize.toNat_lt
  obtain ⟨-, hround⟩ := vb2WorkbufAlloc_of_ne hspace.context
  have h336 : vb2DigestContextSize.toNat = 336 := rfl
  have hle := le_wbRoundUp (v := vb2DigestContextSize) ha.1 (by omega)
  generalize (vb2WorkbufFromCtx align ctx).size = room at hhigh hround
  have hoffset := @toNat_vb2OffsetOf ctx.workbufAddr (vb2WorkbufFromCtx align ctx).buf (by omega) (by omega)
  have hused : (withHashContext align ctx).workbufUsed.toNat =
      (vb2WorkbufFromCtx align ctx).buf.toNat - ctx.workbufAddr.toNat + 336 := by
    change ((vb2OffsetOf ctx.workbufAddr (vb2WorkbufFromCtx align ctx).buf).toUInt32 +
      vb2DigestContextSize).toNat = _
    rw [UInt32.toNat_add, hoffset, h336, Nat.mod_eq_of_lt (by omega)]
  have hplace := @add_vb2OffsetOf ctx.workbufAddr (vb2WorkbufFromCtx align ctx).buf (by omega) (by omega)
  refine ⟨hplace, hlow, by omega, UInt32.le_iff_toNat_le.mpr ?_, haddr⟩
  rw [hused]
  change _ ≤ ctx.workbufSize.toNat
  omega

end

/-- The context while the firmware body is hashed, with left bytes to come. The context ctx₁ is the one
with the digest context allocated. -/
def hashingContext (ctx₁ : Vb2Context) (m : Mem) (left : UInt32) : Vb2Context :=
  { ctx₁ with
    workbuf := m
    sd := { ctx₁.sd with hashTag := vb2HashTagFwBody, hashRemainingSize := left } }

/-- The given bytes of the firmware body came so far. -/
structure Hashing (ctx₁ : Vb2Context) (key : Vb2PublicKey) (m : Mem) (left : UInt32) (msg : List UInt8) :
    Prop where
  absorbed : DigestAbsorbed m ctx₁.hashContext key.hashAlg msg
  below : ∀ x < ctx₁.hashContext.toNat, m x = ctx₁.workbuf x
  remaining : left.toNat + msg.length = ctx₁.bodySize.toNat
  started : ctx₁.sd.workbufHashSize ≠ 0

namespace Hashing

variable {ctx₁ : Vb2Context} {key : Vb2PublicKey} {m : Mem} {left : UInt32} {msg : List UInt8}
  (h : Hashing ctx₁ key m left msg)
include h

theorem extend (hw : Vb2exHwcrypto) {buf : Buffer} (hbuf : ¬ (buf.size = 0 ∨ buf.size > left)) :
    ∃ m', vb2apiExtendHash hw buf (hashingContext ctx₁ m left) =
        (.ok (), hashingContext ctx₁ m' (left - buf.size)) ∧
      (key.hashAlg = .sha1 ∨ buf.size.toNat ≤ 2 ^ 31 →
        Hashing ctx₁ key m' (left - buf.size) (msg ++ buf.bytes)) := by
  have hleft : buf.size ≤ left := UInt32.not_lt.mp (not_or.mp hbuf).2
  have hremaining := h.remaining
  have hbody := ctx₁.bodySize.toNat_lt
  have hle := UInt32.le_iff_toNat_le.mp hleft
  obtain ⟨m', hrun⟩ := vb2DigestExtend_total h.absorbed buf
  refine ⟨m', ?_, fun hfit => ?_⟩
  · rw [vb2apiExtendHash, inspect_reject_bind_ok, inspect_reject_bind_ok, update_bind, observe_bind,
      observe_bind]
    refine ⟨h.started, hbuf, ?_⟩
    exact (congrFun (if_neg (not_not.mpr h.absorbed.software)) _).trans (onWorkbuf_ok.mpr ⟨m', hrun, rfl⟩)
  · obtain ⟨m, hrun', habsorbed, hsame⟩ := vb2DigestExtend_run h.absorbed hfit (by omega)
    cases (Prod.mk.inj (hrun.symm.trans hrun')).2
    refine ⟨habsorbed, fun x hx => (hsame x (.inl hx)).trans (h.below x hx), ?_, h.started⟩
    rw [List.length_append, UInt32.toNat_sub_of_le _ _ hleft, Buffer.bytes, length_bytesAt]
    omega

theorem extend_rejected (hw : Vb2exHwcrypto) {buf : Buffer} (hbuf : buf.size = 0 ∨ buf.size > left) :
    vb2apiExtendHash hw buf (hashingContext ctx₁ m left) =
      (.error vb2ErrorApiExtendHashSize, hashingContext ctx₁ m left) := by
  have hworkbuf : inspect (fun ctx : Vb2Context => reject (ctx.sd.workbufHashSize = 0)
      vb2ErrorApiExtendHashWorkbuf) (hashingContext ctx₁ m left) = (.ok (), hashingContext ctx₁ m left) :=
    inspect_ok.mpr ⟨reject_eq_ok.mpr h.started, rfl⟩
  have htoo : inspect (fun ctx : Vb2Context => reject (buf.size = 0 ∨ buf.size > ctx.sd.hashRemainingSize)
      vb2ErrorApiExtendHashSize) (hashingContext ctx₁ m left) =
        (.error vb2ErrorApiExtendHashSize, hashingContext ctx₁ m left) :=
    congrArg (·, hashingContext ctx₁ m left) (if_pos hbuf)
  rw [vb2apiExtendHash, bind_of_ok hworkbuf, bind_of_error htoo]

/-- The buffers are taken as long as they fit into what is left. -/
theorem extendHashes (calls : List (Vb2exHwcrypto × Buffer))
    (hfit : ∀ buf ∈ (Vb2.extendHashes calls (hashingContext ctx₁ m left)).1,
      key.hashAlg = .sha1 ∨ buf.size.toNat ≤ 2 ^ 31) :
    ∃ m' left', Vb2.extendHashes calls (hashingContext ctx₁ m left) =
        (acceptedBuffers left (calls.map Prod.snd), hashingContext ctx₁ m' left') ∧
      Hashing ctx₁ key m' left'
        (msg ++ (acceptedBuffers left (calls.map Prod.snd)).flatMap Buffer.bytes) := by
  induction calls generalizing m left msg with
  | nil =>
    rw [List.map_nil, acceptedBuffers, List.flatMap_nil, List.append_nil]
    exact ⟨m, left, rfl, h⟩
  | cons call calls ih =>
    obtain ⟨hw, buf⟩ := call
    rw [List.map_cons, acceptedBuffers]
    by_cases hbuf : buf.size = 0 ∨ buf.size > left
    · rw [Vb2.extendHashes, h.extend_rejected hw hbuf] at hfit ⊢
      rw [if_pos hbuf]
      exact ih h hfit
    · obtain ⟨m₁, hrun, hnext⟩ := h.extend hw hbuf
      rw [Vb2.extendHashes, hrun] at hfit ⊢
      obtain ⟨m', left', hrest, hend⟩ := ih (hnext (hfit buf List.mem_cons_self))
        fun b hb => hfit b (List.mem_cons_of_mem _ hb)
      dsimp only
      rw [if_neg hbuf, hrest, List.flatMap_cons, ← List.append_assoc]
      exact ⟨m', left', rfl, hend⟩

end Hashing

theorem mem_extendHashes {calls : List (Vb2exHwcrypto × Buffer)} {buf : Buffer}
    (h : buf ∈ (extendHashes calls ctx).1) : buf ∈ calls.map Prod.snd := by
  induction calls generalizing ctx with
  | nil => exact h
  | cons call calls ih =>
    rw [extendHashes] at h
    rw [List.map_cons, List.mem_cons]
    split at h
    · exact (List.mem_cons.mp h).imp id ih
    · exact .inr (ih h)

variable {key : Vb2PublicKey}

theorem vb2UnpackKey_hashAlg {buf : UInt64} (h : vb2UnpackKey m buf size = .ok key) :
    key.hashAlg ≠ .invalid ∧ 32 ≤ size.toNat := by
  obtain ⟨_, hin, h⟩ := bind_eq_ok.mp h
  simp only [reject_bind_eq_ok] at h
  obtain ⟨-, hhash, -, -, -, h⟩ := h
  cases h
  exact ⟨hhash, (vb2VerifyPackedKeyInside_self.mp hin).2.1⟩

/-- The hardware is not used. -/
def SoftwareHash (hw : Vb2exHwcrypto) (ctx : Vb2Context) (key : Vb2PublicKey) : Prop :=
  Vb2FwPreamble.flags ctx.workbuf ctx.preamble &&& vb2FirmwarePreambleDisallowHwcrypto ≠ 0 ∨
    hw.digestInit key.hashAlg ctx.bodySize = vb2ErrorExHwcryptoUnsupported

variable {hw : Vb2exHwcrypto}

theorem startHash_software {dc : UInt64} {alg : Vb2HashAlgorithm} {flags : UInt32}
    (h : flags &&& vb2FirmwarePreambleDisallowHwcrypto ≠ 0 ∨
      hw.digestInit alg size = vb2ErrorExHwcryptoUnsupported) :
    startHash hw dc alg size flags = onWorkbuf (vb2DigestInit dc alg) := by
  rw [startHash]
  by_cases hflags : flags &&& vb2FirmwarePreambleDisallowHwcrypto ≠ 0
  · rw [if_pos hflags]
  · have hno := h.resolve_left hflags
    have hne : ¬ vb2ErrorExHwcryptoUnsupported = vb2Success := by decide
    rw [if_neg hflags, hno, if_neg hne, if_neg (not_not.mpr rfl)]

section
variable {align : UInt32} (ha : 0 < align.toNat ∧ align.toNat ≤ 2 ^ 31) {ctx₀ : Vb2Context}
  {key : Vb2PublicKey} (hready : BodyReady ctx₀ key) (hspace : HashSpace align ctx₀ key)
include ha hready hspace

/-- Where the digest is put, nothing below the digest context changes. -/
theorem digest_below {m m' : Mem} {bytes : List UInt8}
    (hsame : Mem.SameOutside m m' (withHashContext align ctx₀).hashContext.toNat 336) :
    ∀ x < (withHashContext align ctx₀).hashContext.toNat,
      m'.store (vb2WorkbufFromCtx align (withHashContext align ctx₀)).buf.toNat bytes x = m x := by
  obtain ⟨hplace, -, hend, hvalid⟩ := withHashContext_place ha hready hspace
  obtain ⟨hdigest, -⟩ := @vb2WorkbufFromCtx_inside align _ hvalid
  have haddr : (withHashContext align ctx₀).workbufAddr = ctx₀.workbufAddr := rfl
  rw [haddr] at hdigest
  intro x hx
  have hlt : x < (vb2WorkbufFromCtx align (withHashContext align ctx₀)).buf.toNat := by
    rw [hplace] at hx
    omega
  rw [Mem.store_of_lt _ _ _ _ hlt, hsame x (.inl hx)]

theorem findHashContext_run : findHashContext align ctx₀ =
    (.ok (withHashContext align ctx₀).hashContext, withHashContext align ctx₀) := by
  obtain ⟨hplace, -⟩ := withHashContext_place ha hready hspace
  obtain ⟨halloc, -⟩ := vb2WorkbufAlloc_of_ne hspace.context
  rw [findHashContext, observe_bind, id, if_neg (not_not.mpr hready.fresh), halloc, hplace]
  rfl

theorem vb2apiInitHash_run (hsoft : SoftwareHash hw ctx₀ key) :
    ∃ m, vb2apiInitHash align hw vb2HashTagFwBody ctx₀ =
        (.ok ctx₀.bodySize, hashingContext (withHashContext align ctx₀) m ctx₀.bodySize) ∧
      Hashing (withHashContext align ctx₀) key m ctx₀.bodySize [] := by
  obtain ⟨halg, hkeySize⟩ := vb2UnpackKey_hashAlg hready.key
  obtain ⟨hplace, hlow, -⟩ := withHashContext_place ha hready hspace
  have hheader := hready.header
  have hzero : (0 : UInt32).toNat = 0 := rfl
  obtain ⟨m, hrun, habsorbed, hsame⟩ := @vb2DigestInit_run (withHashContext align ctx₀).hashContext
    ctx₀.workbuf key.hashAlg halg
  refine ⟨m, ?_, habsorbed, fun x hx => hsame x (.inl hx), Nat.add_zero _,
    (by decide : vb2DigestContextSize ≠ 0)⟩
  have htag : ¬ vb2HashTagFwBody = vb2HashTagInvalid := by decide
  rw [vb2apiInitHash, inspect_reject_bind_ok, inspect_reject_bind_ok, inspect_reject_bind_ok,
    bind_of_ok (findHashContext_run ha hready hspace), inspect_reject_bind_ok, inspect_bind_ok]
  refine ⟨htag, fun h => ?_, not_not.mpr rfl, fun h => ?_, key, hready.key, ?_⟩
  · rw [h] at hheader
    omega
  · have hsize : ctx₀.sd.workbufDataKeySize = 0 := h
    rw [hsize] at hkeySize
    omega
  · have hsoft' : SoftwareHash hw (withHashContext align ctx₀) key := hsoft
    rw [observe_bind, observe_bind, update_bind, startHash_software hsoft']
    exact bind_of_ok (onWorkbuf_ok.mpr ⟨m, hrun, rfl⟩)

end

theorem finishHash_run {dc digest : UInt64} {alg : Vb2HashAlgorithm} {msg : List UInt8}
    {ctx : Vb2Context} (h : DigestAbsorbed ctx.workbuf dc alg msg) :
    ∃ m, finishHash hw dc digest (vb2DigestSize alg) ctx =
        (.ok (shaHash alg msg), { ctx with workbuf := m.store digest.toNat (shaHash alg msg) }) ∧
      Mem.SameOutside ctx.workbuf m dc.toNat 336 := by
  obtain ⟨m, hrun, hsame⟩ := vb2DigestFinalize_run h
  refine ⟨m, ?_, hsame⟩
  rw [finishHash, observe_bind, if_neg (not_not.mpr h.software),
    bind_of_ok (onWorkbuf_ok.mpr ⟨m, hrun, rfl⟩)]
  rfl

theorem vb2apiCheckHash_remaining (h : (vb2apiCheckHash align hw ctx).1 = .ok ()) :
    ctx.sd.hashRemainingSize = 0 := by
  obtain ⟨s', hrun⟩ := result_ok_iff.mp h
  obtain ⟨p, s₁, hget, -⟩ := bind_ok.mp hrun
  rw [vb2apiCheckHashGetDigest, observe_bind, observe_bind, observe_bind, inspect_reject_bind_ok,
    inspect_reject_bind_ok, inspect_reject_bind_ok] at hget
  exact not_not.mp hget.2.2.1

theorem orFail_onWorkbuf_ok {reason : UInt8} {x : Program UInt32 Mem Unit} :
    (orFail reason (onWorkbuf x) ctx).1 = .ok () ↔ (x ctx.workbuf).1 = .ok () := by
  rw [result_ok_iff, result_ok_iff]
  constructor
  · rintro ⟨s, h⟩
    obtain ⟨m, hm, -⟩ := onWorkbuf_ok.mp (orFail_ok.mp h)
    exact ⟨m, hm⟩
  · rintro ⟨m, h⟩
    exact ⟨_, orFail_ok.mpr (onWorkbuf_ok.mpr ⟨m, h, rfl⟩)⟩

section
variable {align : UInt32} (ha : 0 < align.toNat ∧ align.toNat ≤ 2 ^ 31) {ctx₀ : Vb2Context} {m : Mem}
  {left : UInt32} {key : Vb2PublicKey} {msg : List UInt8} (hready : BodyReady ctx₀ key)
  (hspace : HashSpace align ctx₀ key) (h : Hashing (withHashContext align ctx₀) key m left msg)
include ha hready hspace h

/-- What lies below the digest context was there before the hashing. -/
theorem Hashing.kept {m' : Mem} (hm : ∀ x < (withHashContext align ctx₀).hashContext.toNat, m' x = m x)
    {x : Nat} (hx : x < ctx₀.workbufAddr.toNat + ctx₀.workbufUsed.toNat) : m' x = ctx₀.workbuf x := by
  obtain ⟨hplace, hlow, -⟩ := withHashContext_place ha hready hspace
  have hlt : x < (withHashContext align ctx₀).hashContext.toNat := by
    rw [hplace]
    omega
  exact (hm x hlt).trans (h.below x hlt)

theorem Hashing.dataKey_kept {m' : Mem}
    (hm : ∀ x < (withHashContext align ctx₀).hashContext.toNat, m' x = m x) :
    Vb2Context.dataKey { ctx₀ with workbuf := m' } = .ok key := by
  have hvalid := hready.valid.address
  have hused := UInt32.le_iff_toNat_le.mp hready.valid.used
  have hend := hready.keyEnd
  have hstart := @toNat_add_offset ctx₀.workbufAddr ctx₀.sd.workbufDataKeyOffset (by omega)
  change vb2UnpackKey m' (ctx₀.workbufAddr + ctx₀.sd.workbufDataKeyOffset.toUInt64)
    ctx₀.sd.workbufDataKeySize = .ok key
  exact vb2UnpackKey_of_same hready.key fun i hi => h.kept ha hready hspace hm (by omega)

theorem Hashing.signature_kept {m' : Mem} {wb : Vb2Workbuf} {digest : List UInt8} (hrsa : RsaSpace align key wb)
    (hm : ∀ x < (withHashContext align ctx₀).hashContext.toNat, m' x = m x) :
    (vb2VerifyDigest align key (bodySignature ctx₀.preamble) digest wb m').1 = .ok () ↔
      signatureVerifies align ctx₀.workbuf key (bodySignature ctx₀.preamble) digest := by
  have hvalid := hready.valid.address
  have hsize := UInt32.le_iff_toNat_le.mp hready.valid.used
  have hused := hready.used
  have hheader := hready.header
  have hsig := hready.signature
  have h80 : (80 : UInt64).toNat = 80 := rfl
  have haddr : (bodySignature ctx₀.preamble).toNat =
      ctx₀.workbufAddr.toNat + ctx₀.sd.workbufPreambleOffset.toNat + 80 := by
    rw [bodySignature, Vb2Context.preamble, UInt64.toNat_add, UInt64.toNat_add,
      UInt32.toNat_toUInt64, h80]
    omega
  have hdata : (vb2SignatureData ctx₀.workbuf (bodySignature ctx₀.preamble)).toNat =
      ctx₀.workbufAddr.toNat + ctx₀.sd.workbufPreambleOffset.toNat + 80 +
        (sigOffset ctx₀.workbuf (bodySignature ctx₀.preamble)).toNat := by
    rw [vb2SignatureData, toNat_add_offset (by omega), haddr]
  apply vb2VerifyDigest_iff hrsa
  · apply Mem.load_congr
    intro i hi
    exact h.kept ha hready hspace hm (by omega)
  · intro i hi
    exact h.kept ha hready hspace hm (by omega)

theorem Hashing.check (hw : Vb2exHwcrypto) :
    (vb2apiCheckHash align hw (hashingContext (withHashContext align ctx₀) m left)).1 = .ok () ↔
      msg.length = ctx₀.bodySize.toNat ∧ signatureVerifies align ctx₀.workbuf key
        (bodySignature ctx₀.preamble) (shaHash key.hashAlg msg) := by
  have hleft : left.toNat + msg.length = ctx₀.bodySize.toNat := h.remaining
  have hz : (0 : UInt32).toNat = 0 := rfl
  by_cases hremaining : left = 0
  · subst hremaining
    have hheader := hready.header
    obtain ⟨-, hsize⟩ := vb2UnpackKey_hashAlg hready.key
    obtain ⟨halloc, -⟩ := vb2WorkbufAlloc_of_ne hspace.digest
    let ctx := hashingContext (withHashContext align ctx₀) m 0
    let digest := (vb2WorkbufFromCtx align (withHashContext align ctx₀)).buf
    let wb := (vb2WorkbufAlloc align (vb2WorkbufFromCtx align (withHashContext align ctx₀))
      (vb2DigestSize key.hashAlg)).2
    obtain ⟨m₁, hfinish, hsame⟩ := @finishHash_run hw ctx.hashContext digest key.hashAlg msg ctx h.absorbed
    have hbelow := @digest_below align ha ctx₀ key hready hspace m m₁ (shaHash key.hashAlg msg) hsame
    let ctx' : Vb2Context := { ctx with workbuf := m₁.store digest.toNat (shaHash key.hashAlg msg) }
    have halg : Vb2DigestContext.hashAlg ctx.workbuf ctx.hashContext = key.hashAlg := h.absorbed.hashAlg
    have hallocate : allocate (vb2WorkbufAlloc align (vb2WorkbufFromCtx align ctx) (vb2DigestSize key.hashAlg))
        vb2ErrorApiCheckHashWorkbufDigest ctx = (.ok (digest, wb), ctx) := allocate_ok.mpr ⟨halloc, rfl⟩
    cases hverify : orFail vb2RecoveryFwBody (onWorkbuf (vb2VerifyDigest align key
      (bodySignature ctx₀.preamble) (shaHash key.hashAlg msg) wb)) ctx' with | mk r s => ?_
    have hattempt : (attempt (orFail vb2RecoveryFwBody (onWorkbuf (vb2VerifyDigest align key
        (bodySignature ctx'.preamble) (shaHash key.hashAlg msg) wb))) : Vb2M (Except UInt32 Unit)) ctx' =
          (.ok r, s) := attempt_of_run hverify
    have hget : vb2apiCheckHashGetDigest align hw none ctx = (.ok (r, none), s) := by
      rw [vb2apiCheckHashGetDigest, observe_bind, observe_bind, observe_bind, inspect_reject_bind_ok,
        inspect_reject_bind_ok, inspect_reject_bind_ok, halg, bind_of_ok hallocate]
      refine ⟨fun hno => ?_, h.started, not_not.mpr rfl, ?_⟩
      · have hno' : ctx₀.sd.workbufPreambleSize = 0 := hno
        rw [hno'] at hheader
        omega
      dsimp only
      rw [bind_of_ok hfinish, inspect_reject_bind_ok, inspect_reject_bind_ok, inspect_bind_ok]
      refine ⟨not_not.mpr rfl, fun hno => ?_, key, h.dataKey_kept ha hready hspace hbelow, ?_⟩
      · have hno' : ctx₀.sd.workbufDataKeySize = 0 := hno
        rw [hno'] at hsize
        omega
      rw [observe_bind, bind_of_ok hattempt]
      rfl
    have hresult : (vb2apiCheckHash align hw ctx).1 = r := by
      rw [vb2apiCheckHash, bind_of_ok hget]
      rfl
    have hr : _ = r := congrArg Prod.fst hverify
    rw [hresult, ← h.signature_kept ha hready hspace hspace.rsa hbelow, ← hr, orFail_onWorkbuf_ok]
    exact (and_iff_right (by omega)).symm
  · refine iff_of_false (fun hok => hremaining (vb2apiCheckHash_remaining hok)) fun hok => hremaining ?_
    apply UInt32.toNat_inj.mp
    omega

end

/-- A preamble that was verified has its body signature inside, and nothing below it is changed. -/
structure FwPreambleChecked (m₁ m₂ : Mem) (pre : UInt64) (size : UInt32) : Prop where
  header : 108 ≤ size.toNat
  below : ∀ x < pre.toNat, m₂ x = m₁ x
  signature : 80 + (sigOffset m₂ (bodySignature pre)).toNat +
    (sigSize m₂ (bodySignature pre)).toNat ≤ size.toNat

theorem fwPreambleChecked_of_ok {wb : Vb2Workbuf} {m₁ m₂ : Mem}
    (h : vb2VerifyFwPreamble align hash pre size key wb m₁ = (.ok (), m₂)) :
    FwPreambleChecked m₁ m₂ pre size := by
  obtain ⟨hheader, hdata, hsigned⟩ := vb2VerifyFwPreamble_ok.mp h
  simp only [checkPreambleHeader, reject_bind_eq_ok, reject_eq_ok, not_not] at hheader
  obtain ⟨hsize, -, -, hpsize, hinside, hmuch⟩ := hheader
  obtain ⟨haddr, hroom, -, -⟩ := vb2VerifySignatureInside_ok.mp hinside
  obtain ⟨hoffset, hbelow⟩ := vb2VerifyData_below hinside hdata
  have h8 : (8 : UInt64).toNat = 8 := rfl
  have h80 : (80 : UInt64).toNat = 80 := rfl
  have hsig : (pre + 8).toNat = pre.toNat + 8 := toNat_add_of_inside haddr (by omega)
  -- the header of the signature is below its data
  have hdsize : dataSize m₂ (pre + 8) = dataSize m₁ (pre + 8) :=
    le32_congr fun i hi => hbelow _ (by omega)
  simp only [checkPreambleSigned, reject_bind_eq_ok, reject_eq_ok, not_not] at hsigned
  obtain ⟨-, hbody, -⟩ := hsigned
  have hmuch' := UInt32.le_iff_toNat_le.mp (UInt32.not_lt.mp hmuch)
  have hpsize' := UInt32.le_iff_toNat_le.mp (UInt32.not_lt.mp hpsize)
  obtain ⟨-, -, -, hend⟩ := vb2VerifySignatureInside_ok.mp hbody
  change _ ≤ (dataSize m₂ (pre + 8)).toNat at hend
  rw [hdsize, h80] at hend
  refine ⟨UInt32.le_iff_toNat_le.mp (UInt32.not_lt.mp hsize), fun x hx => hbelow x (by omega), ?_⟩
  change 80 + (sigOffset m₂ (pre + 80)).toNat + _ ≤ _
  exact hend.trans (hmuch'.trans hpsize')

theorem rollForward_rest {s s' : Vb2Context} (h : rollForward s = (.ok (), s')) :
    s' = { s with
      flags := s'.flags
      secdata := s'.secdata
      sd := { s.sd with fwVersionSecdata := s'.sd.fwVersionSecdata } } := by
  rw [rollForward, observe_bind] at h
  cases hroll : decide (canRollForward s.sd) with
  | false =>
    rw [hroll] at h
    cases h
    rfl
  | true =>
    rw [hroll] at h
    change (update _ >>= _) s = _ at h
    rw [update_bind] at h
    obtain ⟨-, ⟨-, rfl⟩ | ⟨sec, -, rfl⟩⟩ := vb2SecdataSet_ok (transform_ok.mp h)
    all_goals rfl

theorem PreambleLoaded.placed {ex : Vb2Ex} {dataKey : Vb2PublicKey} {m₁ m₂ : Mem}
    (h : PreambleLoaded align hash ex dataKey ctx pre size m₁ m₂) :
    pre = (vb2WorkbufFromCtx align ctx).buf ∧ FwPreambleChecked m₁ m₂ pre size ∧
      ∀ x < pre.toNat, m₂ x = ctx.workbuf x := by
  obtain ⟨pre₁, wb₁, wb₂, header, bytes, hspace, hspace₂, -, -, -, hm₁, hverify⟩ := h.loaded
  rw [vb2WorkbufRealloc_alloc hspace] at hspace₂
  obtain ⟨-, hpre₁, -⟩ := vb2WorkbufAlloc_ok.mp hspace
  obtain ⟨-, hpre, -⟩ := vb2WorkbufAlloc_ok.mp hspace₂
  have hchecked := fwPreambleChecked_of_ok hverify
  refine ⟨hpre, hchecked, fun x hx => ?_⟩
  rw [hchecked.below x hx, hm₁, Mem.store_of_lt _ _ _ _ hx,
    Mem.store_of_lt _ _ _ _ (by rw [hpre₁, ← hpre]; exact hx)]

/-- What vb2_load_fw_keyblock leaves: the data key in the used part of the work buffer. -/
structure DataKeyStored (ctx : Vb2Context) : Prop where
  valid : WorkbufValid ctx
  key : ctx.sd.workbufDataKeyOffset.toNat + ctx.sd.workbufDataKeySize.toNat ≤ ctx.workbufUsed.toNat
  fresh : ctx.sd.workbufHashSize = 0

theorem bodyReady_of_loaded {ex : Vb2Ex} {ctx₀ : Vb2Context} (hctx : DataKeyStored ctx)
    (h : vb2LoadFwPreamble align hash ex ctx = (.ok (), ctx₀)) :
    ∃ key, ctx.dataKey = .ok key ∧
      (ctx₀.sd.workbufPreambleOffset.toNat + ctx₀.sd.workbufPreambleSize.toNat ≤ ctx₀.workbufSize.toNat →
        BodyReady ctx₀ key) := by
  obtain ⟨key, pre, size, m₁, m₂, s₁, -, hkey, hloaded, -, hroll, rfl⟩ := vb2LoadFwPreamble_iff.mp h
  refine ⟨key, hkey, fun hfit => ?_⟩
  obtain ⟨hpre, hchecked, hbelow⟩ := hloaded.placed
  obtain ⟨hlow, hhigh⟩ := @vb2WorkbufFromCtx_inside align ctx hctx.valid
  rw [← hpre] at hlow hhigh
  have haddr := hctx.valid.address
  have hwsize := ctx.workbufSize.toNat_lt
  have hkeyEnd := hctx.key
  have hoffset := @toNat_vb2OffsetOf ctx.workbufAddr pre (by omega) (by omega)
  have hpreamble := @add_vb2OffsetOf ctx.workbufAddr pre (by omega) (by omega)
  have hstart := @toNat_add_offset ctx.workbufAddr ctx.sd.workbufDataKeyOffset (by omega)
  have hkept : vb2UnpackKey m₂ (ctx.workbufAddr + ctx.sd.workbufDataKeyOffset.toUInt64)
      ctx.sd.workbufDataKeySize = .ok key :=
    vb2UnpackKey_of_same hkey fun i hi => hbelow _ (by omega)
  rw [rollForward_rest hroll] at hfit ⊢
  change (vb2OffsetOf ctx.workbufAddr pre).toUInt32.toNat + size.toNat ≤ ctx.workbufSize.toNat at hfit
  have hused : ((vb2OffsetOf ctx.workbufAddr pre).toUInt32 + size).toNat =
      (vb2OffsetOf ctx.workbufAddr pre).toUInt32.toNat + size.toNat := by
    rw [UInt32.toNat_add, Nat.mod_eq_of_lt (by omega)]
  refine
    { valid := ⟨UInt32.le_iff_toNat_le.mpr (hused.trans_le hfit), haddr⟩
      used := hused
      header := hchecked.header
      signature := ?_
      key := hkept
      keyEnd := ?_
      fresh := hctx.fresh }
  · change 80 + (sigOffset m₂ (bodySignature
      (ctx.workbufAddr + (vb2OffsetOf ctx.workbufAddr pre).toUInt32.toUInt64))).toNat +
      (sigSize m₂ (bodySignature
        (ctx.workbufAddr + (vb2OffsetOf ctx.workbufAddr pre).toUInt32.toUInt64))).toNat ≤ size.toNat
    rw [hpreamble]
    exact hchecked.signature
  · change _ ≤ ((vb2OffsetOf ctx.workbufAddr pre).toUInt32 + size).toNat
    rw [hused]
    change ctx.sd.workbufDataKeyOffset.toNat + ctx.sd.workbufDataKeySize.toNat ≤ _
    omega

/-- No buffer is too long for the hash functions of the SHA-2 family, which compute offsets in an int. -/
def ChunksFit (key : Vb2PublicKey) (bufs : List Buffer) : Prop :=
  ∀ buf ∈ bufs, key.hashAlg = .sha1 ∨ buf.size.toNat ≤ 2 ^ 31

theorem acceptedBuffers_all {left : UInt32} {bufs : List Buffer} (hpos : ∀ buf ∈ bufs, buf.size ≠ 0)
    (hsum : (bufs.map fun b => b.size.toNat).sum ≤ left.toNat) : acceptedBuffers left bufs = bufs := by
  induction bufs generalizing left with
  | nil => rfl
  | cons buf bufs ih =>
    rw [List.map_cons, List.sum_cons] at hsum
    have hle : buf.size ≤ left := UInt32.le_iff_toNat_le.mpr (by omega)
    have hbuf : ¬ (buf.size = 0 ∨ buf.size > left) :=
      not_or.mpr ⟨hpos _ List.mem_cons_self, UInt32.not_lt.mpr hle⟩
    have hrest : (bufs.map fun b => b.size.toNat).sum ≤ (left - buf.size).toNat := by
      rw [UInt32.toNat_sub_of_le _ _ hle]
      omega
    rw [acceptedBuffers, if_neg hbuf, ih (fun b hb => hpos b (List.mem_cons_of_mem _ hb)) hrest]

theorem length_flatMap_bytes (bufs : List Buffer) :
    (bufs.flatMap Buffer.bytes).length = (bufs.map fun b => b.size.toNat).sum := by
  simp [List.length_flatMap, Buffer.bytes, length_bytesAt]

/-- After a verified preamble the firmware body is hashed in any parts, and accepted exactly if all of
it came and its signature is good. How a body that is not too long is split makes no difference. -/
theorem fw_body_checked {align : UInt32} (ha : 0 < align.toNat ∧ align.toNat ≤ 2 ^ 31)
    {hash : Vb2HashAlgorithm → List UInt8 → List UInt8} {ex : Vb2Ex} {ctx ctx₀ : Vb2Context}
    (hctx : DataKeyStored ctx) (h : vb2LoadFwPreamble align hash ex ctx = (.ok (), ctx₀)) :
    ∃ key, ctx.dataKey = .ok key ∧ ∀ hw, HashSpace align ctx₀ key → SoftwareHash hw ctx₀ key →
      ∃ ctx₁, vb2apiInitHash align hw vb2HashTagFwBody ctx₀ = (.ok ctx₀.bodySize, ctx₁) ∧
        (∀ calls hw', ChunksFit key (extendHashes calls ctx₁).1 →
          ((vb2apiCheckHash align hw' (extendHashes calls ctx₁).2).1 = .ok () ↔
            ((extendHashes calls ctx₁).1.map fun b => b.size.toNat).sum = ctx₀.bodySize.toNat ∧
              signatureVerifies align ctx₀.workbuf key (bodySignature ctx₀.preamble)
                (shaHash key.hashAlg ((extendHashes calls ctx₁).1.flatMap Buffer.bytes)))) ∧
        ∀ (calls calls' : List (Vb2exHwcrypto × Buffer)) (hw' hw'' : Vb2exHwcrypto),
          (∀ call ∈ calls ++ calls', call.2.size ≠ 0) →
          ChunksFit key ((calls ++ calls').map Prod.snd) →
          (calls.map Prod.snd).flatMap Buffer.bytes = (calls'.map Prod.snd).flatMap Buffer.bytes →
          ((calls.map Prod.snd).flatMap Buffer.bytes).length ≤ ctx₀.bodySize.toNat →
          ((vb2apiCheckHash align hw' (extendHashes calls ctx₁).2).1 = .ok () ↔
            (vb2apiCheckHash align hw'' (extendHashes calls' ctx₁).2).1 = .ok ()) := by
  obtain ⟨key, hkey, hready⟩ := bodyReady_of_loaded hctx h
  refine ⟨key, hkey, fun hw hspace hsoft => ?_⟩
  have hready := hready hspace.preamble
  obtain ⟨m, hinit, hhashing⟩ := vb2apiInitHash_run ha hready hspace hsoft
  refine ⟨_, hinit, ?_⟩
  generalize hctx₁ : hashingContext (withHashContext align ctx₀) m ctx₀.bodySize = ctx₁
  have hverdict (calls : List (Vb2exHwcrypto × Buffer)) (hw' : Vb2exHwcrypto)
      (hfit : ChunksFit key (extendHashes calls ctx₁).1) :
      (vb2apiCheckHash align hw' (extendHashes calls ctx₁).2).1 = .ok () ↔
        ((extendHashes calls ctx₁).1.map fun b => b.size.toNat).sum = ctx₀.bodySize.toNat ∧
          signatureVerifies align ctx₀.workbuf key (bodySignature ctx₀.preamble)
            (shaHash key.hashAlg ((extendHashes calls ctx₁).1.flatMap Buffer.bytes)) := by
    rw [← hctx₁] at hfit ⊢
    obtain ⟨m', left, hrun, hend⟩ := hhashing.extendHashes calls hfit
    rw [List.nil_append] at hend
    rw [hrun, hend.check ha hready hspace hw', length_flatMap_bytes]
  refine ⟨hverdict, fun calls calls' hw' hw'' hpos hfit hsame hlen => ?_⟩
  rw [List.map_append] at hfit
  have hall {cs : List (Vb2exHwcrypto × Buffer)} (hpos : ∀ call ∈ cs, call.2.size ≠ 0)
      (hfit : ChunksFit key (cs.map Prod.snd))
      (hlen : ((cs.map Prod.snd).flatMap Buffer.bytes).length ≤ ctx₀.bodySize.toNat) :
      (extendHashes cs ctx₁).1 = cs.map Prod.snd := by
    obtain ⟨m', left, hrun, -⟩ := hhashing.extendHashes cs fun b hb => hfit b (mem_extendHashes hb)
    rw [← hctx₁, hrun]
    exact acceptedBuffers_all (List.forall_mem_map.mpr hpos) (length_flatMap_bytes (cs.map Prod.snd) ▸ hlen)
  have hfit₁ : ChunksFit key (calls.map Prod.snd) := fun b hb => hfit b (List.mem_append_left _ hb)
  have hfit₂ : ChunksFit key (calls'.map Prod.snd) := fun b hb => hfit b (List.mem_append_right _ hb)
  have haccepted := hall (fun c hc => hpos c (List.mem_append_left _ hc)) hfit₁ hlen
  have haccepted' := hall (fun c hc => hpos c (List.mem_append_right _ hc)) hfit₂ (hsame ▸ hlen)
  rw [hverdict calls hw' (by rw [haccepted]; exact hfit₁), hverdict calls' hw'' (by rw [haccepted']; exact hfit₂),
    haccepted, haccepted', ← length_flatMap_bytes, ← length_flatMap_bytes, hsame]

/- A body of ten bytes, 0 to 9, that is signed with SHA-1 under the sample key, as is the preamble. -/
def sampleBodySignature : List UInt8 :=
  [0x7f305b1e, 0xd5ae41a5, 0x51eec56d, 0x12aaff66, 0x61f8503b, 0x312156b9, 0xf16afe09, 0x8443a114,
    0x8e3200d5, 0x1dd6329a, 0x660759a6, 0xded6f238, 0x6b0c897f, 0xaa49d844, 0x75fbf2e1, 0xd5530d55,
    0xdf10a06d, 0xcaa6bb3e, 0xe557fdc5, 0x73c549e6, 0x609093b5, 0x4c8477cb, 0x794fb583, 0xa2605260,
    0x3a2fc36d, 0xd50e3969, 0x9af15516, 0xc80bfcb3, 0xe59162dd, 0xd75d6200, 0xc2fad3ad, 0x7a76ed11].flatMap bytes32

def samplePreambleSignature : List UInt8 :=
  [0x16583450, 0xd7e355e4, 0xbc479aa8, 0x14c40daf, 0xec224f2c, 0xfab83ec9, 0x7bdbc65d, 0xbf0a880e,
    0x90c88f6f, 0x2d6c80d9, 0x682ed9c9, 0xa4433d35, 0x7e04ec69, 0xa00dbe2d, 0xaa4ffcaa, 0x56130193,
    0x41fb9749, 0xc6e54cd8, 0x587e3165, 0x36e23434, 0x13e03f51, 0xf3a7430a, 0x7d90fb9f, 0x2239ff14,
    0x1491e405, 0x16bf5dd6, 0x8b4ae4a9, 0x4248adb5, 0xbb6603d2, 0xdc4e614b, 0x8bda90f0, 0x5038c159].flatMap bytes32

def sampleFwPreamble : List UInt8 :=
  [364, 228, 128, 236, 0x100000002, 1, 60, 0, 0, 0, 28, 128, 10].flatMap leBytes64 ++ leBytes32 0 ++
    sampleBodySignature ++ samplePreambleSignature

def sampleKeyContext : Vb2Context :=
  { sampleContext with
    workbuf := sampleRoot
    sd := { Vb2SharedData.zero with workbufDataKeyOffset := 0x80, workbufDataKeySize := 296 }
    workbufUsed := 424 }

def samplePreambleLoaded : Mem :=
  (sampleRoot.store 0x101b0 ((Mem.ofList sampleFwPreamble).load 0 108)).store 0x101b0
    ((Mem.ofList sampleFwPreamble).load 0 364)

theorem sampleKeyContext_stored : DataKeyStored sampleKeyContext :=
  ⟨⟨by decide, by decide⟩, by decide, rfl⟩

theorem samplePreamble_digest : shaHash .sha1 (samplePreambleLoaded.load 0x101b0 236) =
    [167, 210, 189, 158, 224, 27, 98, 20, 69, 202, 157, 238, 28, 1, 124, 218, 112, 111, 202, 118] := by
  decide +kernel

theorem sampleBody_digest : shaHash .sha1 [0, 1, 2, 3, 4, 5, 6, 7, 8, 9] =
    [73, 65, 121, 113, 74, 108, 214, 39, 35, 157, 254, 222, 223, 45, 233, 239, 153, 76, 175, 3] := by
  decide +kernel

theorem checkPreambleSigned_congr {m' : Mem} (hpre : pre.toNat + 108 < 2 ^ 64)
    (h : m'.load pre.toNat 108 = m.load pre.toNat 108) :
    checkPreambleSigned m' pre = .ok () ↔ checkPreambleSigned m pre = .ok () := by
  have hfield {n : UInt64} {i : Nat} (hn : n.toNat + i + 4 ≤ 108) :
      le32 m' ((pre + n).toNat + i) = le32 m ((pre + n).toNat + i) := by
    rw [toNat_add_of_inside hpre (by omega), Nat.add_assoc]
    exact le32_of_load h hn
  have hdata : dataSize m' (Vb2FwPreamble.preambleSignature pre) =
      dataSize m (Vb2FwPreamble.preambleSignature pre) := hfield (i := 16) (by decide)
  have hsigOffset : sigOffset m' (bodySignature pre) =
      sigOffset m (bodySignature pre) := hfield (i := 0) (by decide)
  have hsigSize : sigSize m' (bodySignature pre) =
      sigSize m (bodySignature pre) := hfield (i := 8) (by decide)
  have hkeyOffset : Vb2PackedKey.keyOffset m' (kernelSubkey pre) =
      Vb2PackedKey.keyOffset m (kernelSubkey pre) := hfield (i := 0) (by decide)
  have hkeySize : Vb2PackedKey.keySize m' (kernelSubkey pre) =
      Vb2PackedKey.keySize m (kernelSubkey pre) := hfield (i := 8) (by decide)
  simp only [checkPreambleSigned, reject_bind_eq_ok, reject_eq_ok]
  rw [hdata, vb2VerifySignatureInside, hsigOffset, hsigSize, vb2VerifyPackedKeyInside, hkeyOffset, hkeySize]
  rfl

theorem samplePreamble_verified : ∃ m₂,
    vb2VerifyFwPreamble 16 shaHash 0x101b0 364 sampleKey ⟨0x10320, 0x3ce0⟩ samplePreambleLoaded = (.ok (), m₂) ∧
      m₂.load 0x101b0 236 = samplePreambleLoaded.load 0x101b0 236 := by
  have hsig : samplePreambleLoaded.load (vb2SignatureData samplePreambleLoaded 0x101b8).toNat 128 =
      samplePreambleSignature := by decide +kernel
  have hplace : (vb2SignatureData samplePreambleLoaded 0x101b8).toNat = 0x1029c := by decide +kernel
  have hdata : dataSize samplePreambleLoaded 0x101b8 = 236 := by decide +kernel
  obtain ⟨m, hm, hbelow⟩ := @sample_data_verified samplePreambleLoaded shaHash 0x101b8 364 _ _ 0x101b0
    ⟨0x10320, 0x3ce0⟩ (by decide +kernel) ⟨⟨by decide, by decide⟩, by decide⟩ hsig
    ((congrArg (fun n : UInt32 => shaHash .sha1 (samplePreambleLoaded.load 0x101b0 n.toNat)) hdata).trans
      samplePreamble_digest)
    ((rsaAccepts_iff sampleKey_wellFormed (by decide) (by decide +kernel) (by decide)).mpr (by decide +kernel))
  have hkept (n : Nat) (hn : n ≤ 236) : m.load 0x101b0 n = samplePreambleLoaded.load 0x101b0 n :=
    Mem.load_congr fun i hi => hbelow _ (by omega)
  exact ⟨m, vb2VerifyFwPreamble_ok.mpr ⟨by decide +kernel, hm,
    (checkPreambleSigned_congr (by decide) (hkept 108 (by decide))).mpr (by decide +kernel)⟩, hkept 236 le_rfl⟩

def sampleVerified (m : Mem) : Vb2Context :=
  { sampleKeyContext with
    workbuf := m
    sd := { sampleKeyContext.sd with fwVersion := 1, workbufPreambleOffset := 0x1b0, workbufPreambleSize := 364 }
    workbufUsed := 0x31c }

theorem sampleVerified_saved (m : Mem) : savePreamble 0x101b0 364 { sampleKeyContext with
    workbuf := m
    sd := { sampleKeyContext.sd with fwVersion := 1 } } = sampleVerified m := by
  have hoffset : (vb2OffsetOf 0x10000 0x101b0).toUInt32 = 0x1b0 := by decide
  have hused : (0x1b0 : UInt32) + 364 = 0x31c := by decide
  have haddr : sampleKeyContext.workbufAddr = 0x10000 := rfl
  rw [savePreamble]
  dsimp only
  rw [haddr, hoffset, hused]
  rfl

theorem sampleVerified_bodySignature (m : Mem) :
    bodySignature (sampleVerified m).preamble = 0x10200 :=
  (by decide : (0x10000 : UInt64) + (0x1b0 : UInt32).toUInt64 + 80 = 0x10200)

theorem samplePreamble_run : ∃ m,
    vb2LoadFwPreamble 16 shaHash (sampleEx sampleFwPreamble) sampleKeyContext = (.ok (), sampleVerified m) ∧
      m.load 0x101b0 236 = samplePreambleLoaded.load 0x101b0 236 := by
  obtain ⟨m, hverify, hsame⟩ := samplePreamble_verified
  have hfirst : vb2WorkbufAlloc 16 (vb2WorkbufFromCtx 16 sampleKeyContext) vb2FwPreambleHeaderSize =
      (some 0x101b0, ⟨0x10220, 0x3de0⟩) := rfl
  have hsecond : vb2WorkbufRealloc 16 ⟨0x10220, 0x3de0⟩ vb2FwPreambleHeaderSize 364 =
      (some 0x101b0, ⟨0x10320, 0x3ce0⟩) := rfl
  have hsize : Vb2FwPreamble.preambleSize (sampleRoot.store 0x101b0 ((Mem.ofList sampleFwPreamble).load 0 108))
      0x101b0 = 364 := by decide
  have hversion : Vb2FwPreamble.firmwareVersion m 0x101b0 = 1 := by
    have hfield : le32 m (0x101b0 + 40) = le32 samplePreambleLoaded (0x101b0 + 40) := le32_of_load hsame (by decide)
    exact hfield.trans (by decide)
  refine ⟨m, vb2LoadFwPreamble_iff.mpr ⟨sampleKey, 0x101b0, 364, samplePreambleLoaded, m, _, by decide,
    sampleRoot_unpacked, ⟨0x101b0, _, _, _, _, hfirst, hsecond, rfl, hsize, rfl, rfl, hverify⟩, ?_, ?_,
    (sampleVerified_saved m).symm⟩, hsame⟩
  · rw [hversion]
    rfl
  · rw [hversion]
    rfl

/-- There is no hardware for hashing. -/
def noHwcrypto : Vb2exHwcrypto where
  digestInit _ _ := vb2ErrorExHwcryptoUnsupported
  digestExtend _ := vb2ErrorExHwcryptoUnsupported
  digestFinalize _ := .error vb2ErrorExHwcryptoUnsupported

/-- A part of the bytes 0, 1, 2 and so on. -/
def sampleChunk (first : Nat) (size : UInt32) : Vb2exHwcrypto × Buffer :=
  (noHwcrypto, ⟨fun i => UInt8.ofNat (first + i.toNat), size⟩)

theorem sampleVerified_space (m : Mem) : HashSpace 16 (sampleVerified m) sampleKey := by
  have hfirst : vb2WorkbufFromCtx 16 (sampleVerified m) = ⟨0x10320, 0x3ce0⟩ := by
    have hfree : (0x10000 : UInt64) + (0x31c : UInt32).toUInt64 = 0x1031c ∧ (0x4000 : UInt32) - 0x31c = 0x3ce4 := by
      decide
    change vb2WorkbufInit 16 (0x10000 + (0x31c : UInt32).toUInt64) (0x4000 - 0x31c) = _
    rw [hfree.1, hfree.2]
    rfl
  have hsecond : vb2WorkbufFromCtx 16 (withHashContext 16 (sampleVerified m)) = ⟨0x10470, 0x3b90⟩ := by
    have hused : (vb2OffsetOf 0x10000 0x10320).toUInt32 + vb2DigestContextSize = 0x470 := by decide
    have hfree : (0x10000 : UInt64) + (0x470 : UInt32).toUInt64 = 0x10470 ∧ (0x4000 : UInt32) - 0x470 = 0x3b90 := by
      decide
    rw [withHashContext, hfirst]
    change vb2WorkbufInit 16 (0x10000 + ((vb2OffsetOf 0x10000 0x10320).toUInt32 + vb2DigestContextSize).toUInt64)
      (0x4000 - ((vb2OffsetOf 0x10000 0x10320).toUInt32 + vb2DigestContextSize)) = _
    rw [hused, hfree.1, hfree.2]
    rfl
  refine ⟨(by decide : (0x1b0 : UInt32).toNat + (364 : UInt32).toNat ≤ (0x4000 : UInt32).toNat), ?_, ?_, ?_⟩
  · rw [hfirst]
    decide
  · rw [hsecond]
    decide
  · rw [hsecond, RsaSpace]
    decide

theorem sampleBody_signed (h : m.load 0x101b0 236 = samplePreambleLoaded.load 0x101b0 236) :
    signatureVerifies 16 m sampleKey 0x10200 (shaHash .sha1 [0, 1, 2, 3, 4, 5, 6, 7, 8, 9]) := by
  have hsize : sigSize samplePreambleLoaded 0x10200 = 128 := by decide +kernel
  have hplace : (vb2SignatureData samplePreambleLoaded 0x10200).toNat = 0x101b0 + 108 := by decide +kernel
  have hsig : samplePreambleLoaded.load (0x101b0 + 108) 128 = sampleBodySignature := by decide +kernel
  have hbyte := Mem.load_eq_iff.mp h
  refine (vb2VerifyDigest_iff (rsaSpace_ample 16 sampleKey) ?_ ?_).mpr (result_ok_iff.mpr ⟨_,
    vb2VerifyDigest_ok.mpr ⟨hsize, ?_, rfl⟩⟩)
  · have hstart : (0x10200 : UInt64).toNat = 0x101b0 + 80 := rfl
    rw [hstart]
    refine Mem.load_congr fun i hi => ?_
    rw [Nat.add_assoc]
    exact hbyte (80 + i) (by omega)
  · intro i hi
    rw [hsize] at hi
    have hlt : i < 128 := hi
    rw [hplace, Nat.add_assoc]
    exact hbyte (108 + i) (by omega)
  · rw [sampleBody_digest]
    exact sampleKey_rsaVerify (hplace ▸ hsig) ((rsaAccepts_iff sampleKey_wellFormed (by decide) (by decide +kernel)
      (by decide)).mpr (by decide +kernel)) (by decide)

theorem sample_body_hashing : ∃ m m₁,
    vb2LoadFwPreamble 16 shaHash (sampleEx sampleFwPreamble) sampleKeyContext = (.ok (), sampleVerified m) ∧
      vb2apiInitHash 16 noHwcrypto vb2HashTagFwBody (sampleVerified m) =
        (.ok 10, hashingContext (withHashContext 16 (sampleVerified m)) m₁ 10) ∧
      BodyReady (sampleVerified m) sampleKey ∧
      Hashing (withHashContext 16 (sampleVerified m)) sampleKey m₁ 10 [] ∧
      signatureVerifies 16 m sampleKey 0x10200 (shaHash .sha1 [0, 1, 2, 3, 4, 5, 6, 7, 8, 9]) := by
  obtain ⟨m, hrun, hsame⟩ := samplePreamble_run
  obtain ⟨key, hkey, hready⟩ := bodyReady_of_loaded sampleKeyContext_stored hrun
  cases hkey.symm.trans sampleRoot_unpacked
  have hready := hready (sampleVerified_space m).preamble
  obtain ⟨m₁, hinit, hhashing⟩ := vb2apiInitHash_run (by decide) hready (sampleVerified_space m)
    (.inr rfl : SoftwareHash noHwcrypto _ _)
  have hsize : (sampleVerified m).bodySize = 10 := by
    rw [Vb2Context.bodySize, sampleVerified_bodySignature]
    have hfield : le32 m (0x101b0 + 96) = le32 samplePreambleLoaded (0x101b0 + 96) := le32_of_load hsame (by decide)
    exact hfield.trans (by decide)
  rw [hsize] at hinit hhashing
  exact ⟨m, m₁, hrun, hinit, hready, hhashing, sampleBody_signed hsame⟩

/-- Twelve bytes, where ten are expected: after the first ten the rest is refused, and the body is good;
but of two halves the second is refused as a whole, and the body is not complete. -/
theorem fw_body_split_matters : ∃ ctx₀ ctx₁,
    vb2LoadFwPreamble 16 shaHash (sampleEx sampleFwPreamble) sampleKeyContext = (.ok (), ctx₀) ∧
      vb2apiInitHash 16 noHwcrypto vb2HashTagFwBody ctx₀ = (.ok 10, ctx₁) ∧
      [sampleChunk 0 10, sampleChunk 10 2].flatMap (fun c => c.2.bytes) =
        [sampleChunk 0 6, sampleChunk 6 6].flatMap (fun c => c.2.bytes) ∧
      (vb2apiCheckHash 16 noHwcrypto (extendHashes [sampleChunk 0 10, sampleChunk 10 2] ctx₁).2).1 = .ok () ∧
      (vb2apiCheckHash 16 noHwcrypto (extendHashes [sampleChunk 0 6, sampleChunk 6 6] ctx₁).2).1 ≠ .ok () := by
  obtain ⟨m, m₁, hrun, hinit, hready, hhashing, hsigned⟩ := sample_body_hashing
  have hverdict (calls : List (Vb2exHwcrypto × Buffer)) {bufs : List Buffer}
      (hbufs : acceptedBuffers 10 (calls.map Prod.snd) = bufs) :
      (vb2apiCheckHash 16 noHwcrypto (extendHashes calls
          (hashingContext (withHashContext 16 (sampleVerified m)) m₁ 10)).2).1 = .ok () ↔
        (bufs.flatMap Buffer.bytes).length = 10 ∧ signatureVerifies 16 m sampleKey 0x10200
          (shaHash .sha1 (bufs.flatMap Buffer.bytes)) := by
    obtain ⟨m', left, hcalls, hend⟩ := hhashing.extendHashes calls fun _ _ => .inl rfl
    have hten : (sampleVerified m).bodySize.toNat = 10 := hhashing.remaining.symm
    rw [List.nil_append, hbufs] at hend
    rw [hcalls, hend.check (by decide) hready (sampleVerified_space m) noHwcrypto, hten,
      sampleVerified_bodySignature]
    rfl
  refine ⟨sampleVerified m, _, hrun, hinit, by decide, ?_, ?_⟩
  · exact (hverdict _ rfl).mpr ⟨rfl, hsigned⟩
  · intro h
    exact absurd ((hverdict _ rfl).mp h).1 (by decide)

/-- The ten bytes in two parts. -/
theorem fw_body_checked_sample : ∃ ctx₀ ctx₁,
    vb2LoadFwPreamble 16 shaHash (sampleEx sampleFwPreamble) sampleKeyContext = (.ok (), ctx₀) ∧
      vb2apiInitHash 16 noHwcrypto vb2HashTagFwBody ctx₀ = (.ok 10, ctx₁) ∧
      (vb2apiCheckHash 16 noHwcrypto (extendHashes [sampleChunk 0 4, sampleChunk 4 6] ctx₁).2).1 = .ok () := by
  obtain ⟨m, m₁, hrun, hinit, -, hhashing, hsigned⟩ := sample_body_hashing
  obtain ⟨key, hkey, hbody⟩ := @fw_body_checked 16 (by decide) _ _ _ _ sampleKeyContext_stored hrun
  cases hkey.symm.trans sampleRoot_unpacked
  obtain ⟨ctx₁, hinit', hverdict, -⟩ := hbody noHwcrypto (sampleVerified_space m) (.inr rfl)
  cases (Prod.mk.inj (hinit.symm.trans hinit')).2
  have hten := Except.ok.inj (Prod.mk.inj (hinit.symm.trans hinit')).1
  obtain ⟨m', left, hcalls, -⟩ := hhashing.extendHashes [sampleChunk 0 4, sampleChunk 4 6] fun _ _ => .inl rfl
  refine ⟨sampleVerified m, _, hrun, hinit, (hverdict _ noHwcrypto fun _ _ => .inl rfl).mpr ?_⟩
  rw [hcalls, ← hten, sampleVerified_bodySignature]
  exact ⟨rfl, hsigned⟩

end Vboot.Vb2
