import Mathlib.Data.UInt
import Vboot.Vb2.Kernel
import Vboot.Vb2.Pkcs1

/-! The ranges that the checks of firmware/lib20/common.c leave inside a block, the bytes that its
signature covers, and what a kernel preamble has signed when it is accepted. -/
namespace Vboot.Vb2
open Vboot.Lib Vboot.Lib.Program
open Vb2Signature (sigSize sigOffset)
open Vb2KernelPreamble (preambleSignature)

theorem toInt_toInt64 (x : UInt64) :
    x.toInt64.toInt = if x.toNat < 2 ^ 63 then (x.toNat : Int) else x.toNat - 2 ^ 64 := by
  change x.toBitVec.toInt = _
  rw [BitVec.toInt_eq_toNat_cond]
  change (if 2 * x.toNat < 2 ^ 64 then (x.toNat : Int) else x.toNat - 2 ^ 64) = _
  split_ifs <;> omega

/-- The checks do not wrap: a member and its data lie inside the parent, and the data is not over the
member. -/
theorem vb2VerifyMemberInside_ok {parent member : UInt64} {parentSize memberSize offset size : UInt32} :
    vb2VerifyMemberInside parent parentSize.toUInt64 member memberSize.toUInt64 offset.toUInt64.toInt64
        size.toUInt64 = .ok () ↔
      parent.toNat + parentSize.toNat < 2 ^ 64 ∧
      (member - parent).toNat + memberSize.toNat ≤ parentSize.toNat ∧
      (0 < size.toNat → memberSize.toNat ≤ offset.toNat) ∧
      (member - parent).toNat + offset.toNat + size.toNat ≤ parentSize.toNat := by
  unfold vb2VerifyMemberInside vb2OffsetOf
  generalize member - parent = start
  have hz : (0 : Int64).toInt = 0 := rfl
  have hz' : (0 : UInt64).toNat = 0 := rfl
  have hstart := start.toNat_lt
  have hparent := parentSize.toNat_lt
  have hp := parent.toNat_lt
  have hmember := memberSize.toNat_lt
  have hoffset := offset.toNat_lt
  have hsize := size.toNat_lt
  simp only [reject_bind_eq_ok, reject_eq_ok, UInt64.toUInt64_toInt64, ← UInt64.toInt64_add,
    Int64.lt_iff_toInt_lt, toInt_toInt64, UInt64.lt_iff_toNat_lt, gt_iff_lt, UInt64.toNat_add,
    UInt32.toNat_toUInt64, hz, hz']
  split_ifs <;> omega

variable {m : Mem} {parent n : UInt64} {parentSize : UInt32}

theorem vb2VerifySignatureInside_ok :
    vb2VerifySignatureInside m parent parentSize (parent + n) = .ok () ↔
      parent.toNat + parentSize.toNat < 2 ^ 64 ∧ n.toNat + 24 ≤ parentSize.toNat ∧
      (0 < (sigSize m (parent + n)).toNat →
        24 ≤ (sigOffset m (parent + n)).toNat) ∧
      n.toNat + (sigOffset m (parent + n)).toNat +
        (sigSize m (parent + n)).toNat ≤ parentSize.toNat := by
  have hsize : vb2SignatureHeaderSize.toNat = 24 := rfl
  have hsub : parent + n - parent = n := by rw [UInt64.add_comm, UInt64.add_sub_cancel]
  rw [vb2VerifySignatureInside, vb2VerifyMemberInside_ok, hsub, hsize]

theorem vb2VerifyPackedKeyInside_ok :
    vb2VerifyPackedKeyInside m parent parentSize (parent + n) = .ok () ↔
      parent.toNat + parentSize.toNat < 2 ^ 64 ∧ n.toNat + 32 ≤ parentSize.toNat ∧
      (0 < (Vb2PackedKey.keySize m (parent + n)).toNat →
        32 ≤ (Vb2PackedKey.keyOffset m (parent + n)).toNat) ∧
      n.toNat + (Vb2PackedKey.keyOffset m (parent + n)).toNat +
        (Vb2PackedKey.keySize m (parent + n)).toNat ≤ parentSize.toNat := by
  have hsize : vb2PackedKeyHeaderSize.toNat = 32 := rfl
  have hsub : parent + n - parent = n := by rw [UInt64.add_comm, UInt64.add_sub_cancel]
  rw [vb2VerifyPackedKeyInside, vb2VerifyMemberInside_ok, hsub, hsize]

theorem vb2VerifyPackedKeyInside_self {buf : UInt64} {size : UInt32} :
    vb2VerifyPackedKeyInside m buf size buf = .ok () ↔
      buf.toNat + size.toNat < 2 ^ 64 ∧ 32 ≤ size.toNat ∧
      (0 < (Vb2PackedKey.keySize m buf).toNat → 32 ≤ (Vb2PackedKey.keyOffset m buf).toNat) ∧
      (Vb2PackedKey.keyOffset m buf).toNat + (Vb2PackedKey.keySize m buf).toNat ≤ size.toNat := by
  have h := @vb2VerifyPackedKeyInside_ok m buf 0 size
  rw [UInt64.add_zero, UInt64.toNat_zero, Nat.zero_add, Nat.zero_add] at h
  exact h

theorem toNat_add_of_inside {size : Nat} (h : parent.toNat + size < 2 ^ 64)
    (hn : n.toNat ≤ size) : (parent + n).toNat = parent.toNat + n.toNat := by
  rw [UInt64.toNat_add, Nat.mod_eq_of_lt (by omega)]

section
variable {align : UInt32} {hash : Vb2HashAlgorithm → List UInt8 → List UInt8}

theorem inspect_reject_bind_ok {S α : Type} {c : S → Prop} [∀ s, Decidable (c s)] {e : UInt32}
    {g : Unit → Program UInt32 S α} {s s' : S} {a : α} :
    ((inspect fun s => reject (c s) e) >>= g) s = (.ok a, s') ↔ ¬ c s ∧ g () s = (.ok a, s') := by
  rw [inspect_bind_ok]
  exact ⟨fun ⟨_, hc, hg⟩ => ⟨reject_eq_ok.mp hc, hg⟩, fun h => ⟨(), reject_eq_ok.mpr h.1, h.2⟩⟩

/-- What the RSA step says about a signature, and the power that it leaves in its place. -/
def rsaVerify (align : UInt32) (key : Vb2PublicKey) (m : Mem) (sig : UInt64) (digest : List UInt8)
    (wb : Vb2Workbuf) : UInt32 × Option (List UInt8) :=
  vb2RsaVerifyDigest align (some key)
    (some (m.load (vb2SignatureData m sig).toNat (vb2RsaSigSize key.sigAlg).toNat)) (some digest) wb

variable {key : Vb2PublicKey} {sig : UInt64} {wb : Vb2Workbuf} {m m' : Mem} {u : Unit} {size : UInt32}
  {digest : List UInt8}

theorem vb2VerifyDigest_ok :
    vb2VerifyDigest align key sig digest wb m = (.ok u, m') ↔
      sigSize m sig = vb2RsaSigSize key.sigAlg ∧
      (rsaVerify align key m sig digest wb).1 = vb2Success ∧
      m' = m.store (vb2SignatureData m sig).toNat ((rsaVerify align key m sig digest wb).2.getD []) := by
  rw [vb2VerifyDigest, observe_bind, inspect_reject_bind_ok, not_not, observe_bind]
  dsimp only
  rw [update_bind, inspect_ok, reject_eq_ok, not_not]
  rfl

theorem rsaVerify_pos (h : (rsaVerify align key m sig digest wb).1 = vb2Success) :
    0 < (vb2RsaSigSize key.sigAlg).toNat := by
  by_contra h0
  have hz : vb2RsaSigSize key.sigAlg = 0 := UInt32.toNat_inj.mp (Nat.eq_zero_of_not_pos h0)
  have hne : vb2ErrorRsaVerifyAlgorithm ≠ vb2Success := by decide
  rw [rsaVerify, vb2RsaVerifyDigest] at h
  dsimp only at h
  rw [if_pos hz] at h
  exact hne h

theorem vb2RsaVerifyDigest_power (align : UInt32) (key : Vb2PublicKey) (sig digest : List UInt8)
    (wb : Vb2Workbuf) :
    (vb2RsaVerifyDigest align (some key) (some sig) (some digest) wb).2 = some sig ∨
      (vb2RsaVerifyDigest align (some key) (some sig) (some digest) wb).2 = some (modpowF4 key sig) := by
  rw [vb2RsaVerifyDigest]
  dsimp only
  generalize modpowF4 key sig = power
  split_ifs
  all_goals first
    | exact .inl rfl
    | exact .inr rfl

theorem length_rsaVerify_le (hkey : 4 * key.arrsize.toNat = (vb2RsaSigSize key.sigAlg).toNat)
    (m : Mem) (sig : UInt64) (digest : List UInt8) (wb : Vb2Workbuf) :
    ((rsaVerify align key m sig digest wb).2.getD []).length ≤ (vb2RsaSigSize key.sigAlg).toNat := by
  rw [rsaVerify]
  rcases vb2RsaVerifyDigest_power align key (m.load (vb2SignatureData m sig).toNat
    (vb2RsaSigSize key.sigAlg).toNat) digest wb with h | h
  · rw [h, Option.getD_some, Mem.length_load]
  · rw [h, Option.getD_some, ← hkey]
    exact length_modpowF4_le key _

/-- The work buffer has space for the digest and for hashing, and what the RSA step gets of it. -/
def digestWorkbuf (align : UInt32) (alg : Vb2HashAlgorithm) (wb : Vb2Workbuf) : Vb2Workbuf :=
  vb2WorkbufFree align (vb2WorkbufAlloc align (vb2WorkbufAlloc align wb (vb2DigestSize alg)).2
    vb2DigestContextSize).2 vb2DigestContextSize

def HasDigestSpace (align : UInt32) (alg : Vb2HashAlgorithm) (wb : Vb2Workbuf) : Prop :=
  (vb2WorkbufAlloc align wb (vb2DigestSize alg)).1 ≠ none ∧
  (vb2WorkbufAlloc align (vb2WorkbufAlloc align wb (vb2DigestSize alg)).2 vb2DigestContextSize).1 ≠ none

theorem vb2VerifyData_ok {data : UInt64} :
    vb2VerifyData align hash data size sig key wb m = (.ok u, m') ↔
      Vb2Signature.dataSize m sig ≤ size ∧ vb2DigestSize key.hashAlg ≠ 0 ∧
      HasDigestSpace align key.hashAlg wb ∧
      vb2VerifyDigest align key sig
        (hash key.hashAlg (m.load data.toNat (Vb2Signature.dataSize m sig).toNat))
        (digestWorkbuf align key.hashAlg wb) m = (.ok u, m') := by
  rw [vb2VerifyData, observe_bind, inspect_reject_bind_ok, inspect_reject_bind_ok, UInt32.not_lt]
  dsimp only
  rw [inspect_reject_bind_ok, inspect_reject_bind_ok, observe_bind, HasDigestSpace, and_assoc]
  rfl

theorem vb2VerifyKeyblock_guarded (block : UInt64) : vb2VerifyKeyblock align hash block size key wb =
    guarded (vb2CheckKeyblock · block size (Vb2Keyblock.keyblockSignature block))
      (vb2VerifyData align hash block size (Vb2Keyblock.keyblockSignature block) key wb)
      vb2ErrorKeyblockSigInvalid fun _ => .ok () :=
  guarded_of_cases (fun _ => rfl) rfl

theorem vb2VerifyKernelPreamble_guarded (pre : UInt64) : vb2VerifyKernelPreamble align hash pre size key wb =
    guarded (checkKernelPreambleHeader · pre size)
      (vb2VerifyData align hash pre size (preambleSignature pre) key wb)
      vb2ErrorPreambleSigInvalid (checkKernelPreambleSigned · pre) :=
  guarded_of_cases (fun _ => rfl) rfl

theorem vb2VerifyKeyblock_ok {block : UInt64} :
    vb2VerifyKeyblock align hash block size key wb m = (.ok (), m') ↔
      vb2CheckKeyblock m block size (Vb2Keyblock.keyblockSignature block) = .ok () ∧
      vb2VerifyData align hash block size (Vb2Keyblock.keyblockSignature block) key wb m = (.ok (), m') := by
  rw [vb2VerifyKeyblock_guarded, guarded_ok, eq_self, and_true]

theorem vb2VerifyFwPreamble_ok {pre : UInt64} :
    vb2VerifyFwPreamble align hash pre size key wb m = (.ok (), m') ↔
      checkPreambleHeader m pre size = .ok () ∧
      vb2VerifyData align hash pre size (Vb2FwPreamble.preambleSignature pre) key wb m = (.ok (), m') ∧
      checkPreambleSigned m' pre = .ok () := by
  have h : vb2VerifyFwPreamble align hash pre size key wb = guarded (checkPreambleHeader · pre size) _
      vb2ErrorPreambleSigInvalid (checkPreambleSigned · pre) := guarded_of_cases (fun _ => rfl) rfl
  rw [h, guarded_ok]

theorem vb2VerifyKernelPreamble_ok {pre : UInt64} :
    vb2VerifyKernelPreamble align hash pre size key wb m = (.ok (), m') ↔
      checkKernelPreambleHeader m pre size = .ok () ∧
      vb2VerifyData align hash pre size (preambleSignature pre) key wb m = (.ok (), m') ∧
      checkKernelPreambleSigned m' pre = .ok () := by
  rw [vb2VerifyKernelPreamble_guarded, guarded_ok]

/-- A signature that lies in a block and verifies has its data behind its header, and nothing below
its data is changed. -/
theorem vb2VerifyData_below {block : UInt64} {blockSize : UInt32}
    (hinside : vb2VerifySignatureInside m block blockSize (block + n) = .ok ())
    (h : vb2VerifyData align hash block size (block + n) key wb m = (.ok u, m')) :
    24 ≤ (sigOffset m (block + n)).toNat ∧
      ∀ x < block.toNat + n.toNat + (sigOffset m (block + n)).toNat, m' x = m x := by
  obtain ⟨-, -, -, hdigest⟩ := vb2VerifyData_ok.mp h
  obtain ⟨hsize, hrsa, hm'⟩ := vb2VerifyDigest_ok.mp hdigest
  obtain ⟨haddr, hroom, hoverlap, hend⟩ := vb2VerifySignatureInside_ok.mp hinside
  have hpos := rsaVerify_pos hrsa
  rw [← hsize] at hpos
  refine ⟨hoverlap hpos, fun x hx => ?_⟩
  have hsigData : (vb2SignatureData m (block + n)).toNat =
      block.toNat + n.toNat + (sigOffset m (block + n)).toNat := by
    rw [vb2SignatureData, UInt64.toNat_add, toNat_add_of_inside haddr (by omega), UInt32.toNat_toUInt64,
      Nat.mod_eq_of_lt (by omega)]
  rw [hm', hsigData, Mem.store_of_lt _ _ _ _ hx]

end

/-- The fields of a kernel preamble that are used after it is accepted. -/
structure KernelHeader where
  preambleSize : UInt32
  kernelVersion : UInt32
  bodyLoadAddress : UInt64
  bootloaderAddress : UInt64
  bootloaderSize : UInt32
  bodySignature : UInt32 × UInt32 × UInt32
  vmlinuzHeaderAddress : UInt64
  vmlinuzHeaderSize : UInt32
  flags : UInt32
  deriving DecidableEq

def kernelHeader (m : Mem) (pre : UInt64) : KernelHeader where
  preambleSize := Vb2KernelPreamble.preambleSize m pre
  kernelVersion := Vb2KernelPreamble.kernelVersion m pre
  bodyLoadAddress := Vb2KernelPreamble.bodyLoadAddress m pre
  bootloaderAddress := Vb2KernelPreamble.bootloaderAddress m pre
  bootloaderSize := Vb2KernelPreamble.bootloaderSize m pre
  bodySignature :=
    let sig := Vb2KernelPreamble.bodySignature pre
    (sigOffset m sig, sigSize m sig, Vb2Signature.dataSize m sig)
  vmlinuzHeaderAddress := Vb2KernelPreamble.vmlinuzHeaderAddress m pre
  vmlinuzHeaderSize := Vb2KernelPreamble.vmlinuzHeaderSize m pre
  flags := Vb2KernelPreamble.flags m pre

section
variable {m m' : Mem} {pre : UInt64}

theorem le32_of_load {a i n : Nat} (h : m'.load a n = m.load a n) (hi : i + 4 ≤ n) :
    le32 m' (a + i) = le32 m (a + i) :=
  le32_congr fun j hj => by
    rw [Nat.add_assoc]
    exact Mem.load_eq_iff.mp h (i + j) (by omega)

theorem le64_of_load {a i n : Nat} (h : m'.load a n = m.load a n) (hi : i + 8 ≤ n) :
    le64 m' (a + i) = le64 m (a + i) :=
  le64_congr fun j hj => by
    rw [Nat.add_assoc]
    exact Mem.load_eq_iff.mp h (i + j) (by omega)

theorem kernelHeader_congr (hpre : pre.toNat + 72 < 2 ^ 64)
    (h : m'.load pre.toNat 116 = m.load pre.toNat 116) : kernelHeader m' pre = kernelHeader m pre := by
  have hbody : (Vb2KernelPreamble.bodySignature pre).toNat = pre.toNat + 72 :=
    toNat_add_of_inside hpre (Nat.le_refl 72)
  have h0 : le32 m' pre.toNat = le32 m pre.toNat := le32_of_load h (i := 0) (by decide)
  have h32 {i : Nat} (hi : i + 4 ≤ 116) := le32_of_load h hi
  have h64 {i : Nat} (hi : i + 8 ≤ 116) := le64_of_load h hi
  simp (disch := omega) only [kernelHeader, Vb2KernelPreamble.preambleSize, Vb2KernelPreamble.kernelVersion,
    Vb2KernelPreamble.bodyLoadAddress, Vb2KernelPreamble.bootloaderAddress,
    Vb2KernelPreamble.bootloaderSize, sigOffset, sigSize, Vb2Signature.dataSize,
    Vb2KernelPreamble.vmlinuzHeaderAddress, Vb2KernelPreamble.vmlinuzHeaderSize, Vb2KernelPreamble.flags,
    hbody, Nat.add_assoc, Nat.reduceAdd, h0, h32, h64]

theorem kernelHeader_ne (hne : m' (pre.toNat + 115) ≠ m (pre.toNat + 115)) :
    kernelHeader m' pre ≠ kernelHeader m pre := by
  intro h
  have hflags : Vb2KernelPreamble.flags m' pre = Vb2KernelPreamble.flags m pre :=
    congrArg KernelHeader.flags h
  exact hne (be32_inj hflags).1

theorem checkKernelPreambleSigned_congr (hpre : pre.toNat + 72 < 2 ^ 64)
    (h : m'.load pre.toNat 116 = m.load pre.toNat 116) :
    checkKernelPreambleSigned m' pre = .ok () ↔ checkKernelPreambleSigned m pre = .ok () := by
  have hheader := kernelHeader_congr hpre h
  have hsig : (preambleSignature pre).toNat = pre.toNat + 8 :=
    toNat_add_of_inside hpre (by decide)
  have hdata : Vb2Signature.dataSize m' (preambleSignature pre) =
      Vb2Signature.dataSize m (preambleSignature pre) := by
    rw [Vb2Signature.dataSize, Vb2Signature.dataSize, hsig, Nat.add_assoc]
    exact le32_of_load h (by decide)
  obtain ⟨hoffset, hrest⟩ := Prod.ext_iff.mp (congrArg KernelHeader.bodySignature hheader)
  obtain ⟨hsize, hbody⟩ := Prod.ext_iff.mp hrest
  dsimp only [kernelHeader] at hoffset hsize hbody
  have hbody1 := congrArg KernelHeader.bodyLoadAddress hheader
  have hboot := congrArg KernelHeader.bootloaderAddress hheader
  have hbootSize := congrArg KernelHeader.bootloaderSize hheader
  have hvm := congrArg KernelHeader.vmlinuzHeaderAddress hheader
  have hvmSize := congrArg KernelHeader.vmlinuzHeaderSize hheader
  dsimp only [kernelHeader] at hbody1 hboot hbootSize hvm hvmSize
  simp only [checkKernelPreambleSigned, reject_bind_eq_ok, reject_eq_ok]
  rw [hdata, hbody, hbody1, hboot, hbootSize, hvm, hvmSize, vb2VerifySignatureInside, hoffset, hsize]
  rfl

end

section
variable {align : UInt32} {hash : Vb2HashAlgorithm → List UInt8 → List UInt8}

/-- What a kernel preamble that is accepted has signed: the checks ask for the size of a firmware
preamble only. The signature is replaced by its power, behind the header or over it. -/
structure PreambleSigned (m m' : Mem) (pre : UInt64) (size : UInt32) : Prop where
  address : pre.toNat + (Vb2KernelPreamble.preambleSize m pre).toNat < 2 ^ 64
  signed : 108 ≤ (Vb2Signature.dataSize m (preambleSignature pre)).toNat
  inside : Vb2Signature.dataSize m (preambleSignature pre) ≤
    Vb2KernelPreamble.preambleSize m pre
  size : Vb2KernelPreamble.preambleSize m pre ≤ size
  below : ∀ x < pre.toNat + 8 +
    (sigOffset m (preambleSignature pre)).toNat, m' x = m x

theorem preambleSigned_of_ok {pre : UInt64} {size : UInt32} {key : Vb2PublicKey} {wb : Vb2Workbuf}
    {m' : Mem} (h : vb2VerifyKernelPreamble align hash pre size key wb m = (.ok (), m')) :
    PreambleSigned m m' pre size := by
  obtain ⟨hheader, hdata, hsigned⟩ := vb2VerifyKernelPreamble_ok.mp h
  simp only [checkKernelPreambleHeader, reject_bind_eq_ok, reject_eq_ok, not_not] at hheader
  obtain ⟨-, -, -, hpsize, hinside, hmuch⟩ := hheader
  obtain ⟨haddr, hroom, -, -⟩ := vb2VerifySignatureInside_ok.mp hinside
  obtain ⟨hoffset, hbelow⟩ := vb2VerifyData_below hinside hdata
  have h8 : (8 : UInt64).toNat = 8 := rfl
  have hsig : (pre + 8).toNat = pre.toNat + 8 := toNat_add_of_inside haddr (by omega)
  -- the header of the signature is below its data
  have hdsize : Vb2Signature.dataSize m' (pre + 8) = Vb2Signature.dataSize m (pre + 8) :=
    le32_congr fun i hi => hbelow _ (by omega)
  simp only [checkKernelPreambleSigned, reject_bind_eq_ok] at hsigned
  refine ⟨haddr, ?_, UInt32.not_lt.mp hmuch, UInt32.not_lt.mp hpsize, hbelow⟩
  have hle := UInt32.le_iff_toNat_le.mp (UInt32.not_lt.mp hsigned.1)
  rw [show Vb2Signature.dataSize m' (preambleSignature pre) = _ from hdsize] at hle
  exact hle

end

/-- A checksum in place of a hash; it is the digest of the sample signature if it is zero. -/
def sumHash (_ : Vb2HashAlgorithm) (bytes : List UInt8) : List UInt8 := bytes.sum :: sampleDigest.tail

/-- A kernel preamble of 244 bytes, the last 128 of them for the signature. -/
def samplePreamble (dataSize version flags : UInt8) : Mem :=
  Mem.stores (fun _ => 0) [(0x1000, [244]), (0x1008, [108]), (0x1010, [128]), (0x1018, [dataSize]),
    (0x1020, [2, 0, 0, 0, 2]), (0x1028, [version]), (0x1070, [flags]), (0x1074, sampleSignature)]

theorem sampleKey_rsaVerify {sig : UInt64} {bytes digest : List UInt8}
    (hsig : m.load (vb2SignatureData m sig).toNat 128 = bytes) (h : RsaAccepts sampleKey bytes digest)
    {wb : Vb2Workbuf} (hwb : 384 ≤ wb.size) : (rsaVerify 16 sampleKey m sig digest wb).1 = vb2Success := by
  rw [rsaVerify]
  change (vb2RsaVerifyDigest 16 (some sampleKey) (some (m.load _ 128)) _ _).1 = _
  rw [hsig]
  exact sampleKey_verifies h hwb

theorem sample_data_verified {hash : Vb2HashAlgorithm → List UInt8 → List UInt8} {sig : UInt64}
    {size : UInt32} {bytes digest : List UInt8} (data : UInt64) (wb : Vb2Workbuf)
    (hsize : Vb2Signature.dataSize m sig ≤ size ∧ sigSize m sig = 128)
    (hspace : HasDigestSpace 16 .sha1 wb ∧ 384 ≤ (digestWorkbuf 16 .sha1 wb).size)
    (hsig : m.load (vb2SignatureData m sig).toNat 128 = bytes)
    (hdigest : hash .sha1 (m.load data.toNat (Vb2Signature.dataSize m sig).toNat) = digest)
    (h : RsaAccepts sampleKey bytes digest) :
    ∃ m', vb2VerifyData 16 hash data size sig sampleKey wb m = (.ok (), m') ∧
      ∀ x < (vb2SignatureData m sig).toNat, m' x = m x := by
  rw [← hdigest] at h
  exact ⟨_, vb2VerifyData_ok.mpr ⟨hsize.1, by decide, hspace.1,
    vb2VerifyDigest_ok.mpr ⟨hsize.2, sampleKey_rsaVerify hsig h hspace.2, rfl⟩⟩,
    fun _ hx => Mem.store_of_lt _ _ _ _ hx⟩

theorem sample_kernel_preamble_ok
    (hheader : checkKernelPreambleHeader m 0x1000 244 = .ok ())
    (hsize : Vb2Signature.dataSize m 0x1008 ≤ 244 ∧ sigSize m 0x1008 = 128)
    (hsig : (vb2SignatureData m 0x1008).toNat = 0x1074 ∧ m.load 0x1074 128 = sampleSignature)
    (hsum : sumHash .sha1 (m.load 0x1000 (Vb2Signature.dataSize m 0x1008).toNat) = sampleDigest)
    (hsigned : checkKernelPreambleSigned m 0x1000 = .ok ()) :
    ∃ m', vb2VerifyKernelPreamble 16 sumHash 0x1000 244 sampleKey ⟨0x10000, 0x1000⟩ m = (.ok (), m') := by
  obtain ⟨m', h, hbelow⟩ := sample_data_verified 0x1000 ⟨0x10000, 0x1000⟩ hsize
    ⟨⟨by decide, by decide⟩, by decide⟩ (by rw [hsig.1, hsig.2]) hsum sampleSignature_rsa
  refine ⟨m', vb2VerifyKernelPreamble_ok.mpr ⟨hheader, h, ?_⟩⟩
  refine (checkKernelPreambleSigned_congr (by decide) (Mem.load_congr fun i hi => hbelow _ ?_)).mpr hsigned
  rw [hsig.1]
  exact Nat.add_lt_add_left hi 0x1000

end Vboot.Vb2
