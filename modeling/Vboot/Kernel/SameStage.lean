import Vboot.Common.SameKeyblock
import Vboot.Kernel.Policy

/-! The keyblock stage of the two kernel loaders, LoadKernel of firmware/lib/vboot_kernel.c and
vb2_load_kernel_keyblock of firmware/lib20/kernel.c. -/
namespace Vboot
open Vboot.Lib Vboot.Lib.Program Vboot.Vb2

section
variable {Ctx : Type} (crypto : Crypto Ctx) (c : KernelChecks)

/-- The part of the checks of a partition that is about its key block: whether the key block counts as
valid, and the data key. -/
def kernelKeyBlockStage (kbuf : Mem) : Except UInt8 (Bool × RSAPublicKey) := do
  let signed ← checkKernelKeyBlock crypto c kbuf
  let valid := validHeader c signed kbuf
  reject (c.mode ≠ .developer ∧ valid = false) (mismatchResult c kbuf)
  let dataKey ← require (publicKeyToRSA (kernelKeyBlock kbuf).dataKey) lkpCheckDataKeyParse
  return (valid, dataKey)

/-- The checks of a partition start with this stage. -/
theorem checkKernelHeader_eq (kbuf : Mem) :
    checkKernelHeader crypto c kbuf = (do
      let (valid, dataKey) ← kernelKeyBlockStage crypto c kbuf
      reject (fails (verifyKernelPreamble crypto (kernelPreamble kbuf)
        (kbufSize - (kernelKeyBlock kbuf).keyBlockSize) dataKey)) lkpCheckVerifyPreamble
      reject (valid = true ∧ c.mode ≠ .recovery ∧ kernelCombinedVersion kbuf < c.kernelVersionTpm ∧
        c.mode ≠ .developer) lkpCheckKernelRollback
      return ⟨valid, kernelCombinedVersion kbuf, dataKey⟩) := by
  simp only [checkKernelHeader, kernelKeyBlockStage, bind_assoc, pure_bind, validHeader]
  rfl

theorem kernelKeyBlockStage_ok {kbuf : Mem} {valid : Bool} {dataKey : RSAPublicKey} :
    kernelKeyBlockStage crypto c kbuf = .ok (valid, dataKey) ↔ ∃ signed,
      checkKernelKeyBlock crypto c kbuf = .ok signed ∧ valid = validHeader c signed kbuf ∧
      (c.mode ≠ .developer → valid = true) ∧ publicKeyToRSA (kernelKeyBlock kbuf).dataKey = some dataKey := by
  rw [kernelKeyBlockStage, bind_eq_ok]
  refine exists_congr fun signed => and_congr_right fun _ => ?_
  simp only [reject_bind_eq_ok, require_bind_eq_ok, pure, Except.pure, Except.ok.injEq, Prod.mk.injEq, not_and,
    Bool.not_eq_false]
  constructor
  · rintro ⟨hmode, k, hk, rfl, rfl⟩
    exact ⟨rfl, hmode, hk⟩
  · rintro ⟨rfl, hmode, hk⟩
    exact ⟨hmode, dataKey, hk, rfl, rfl⟩

end

/-- The two loaders are called in the same boot: the same switches, the same request for signed kernels and
the same stored version. -/
structure SameBoot (params : LoadKernelParams) (shared : VbSharedData) (vnc : VbNvContext) (s : Vb2Context) :
    Prop where
  recovery : params.recSwitch = true ↔ s.flags &&& vb2ContextRecoveryMode ≠ 0
  developer : params.devSwitch = true ↔ s.flags &&& vb2ContextDeveloperMode ≠ 0
  signedOnly : vbNvGet vnc .devBootSignedOnly ≠ 0 ↔ vb2NvGet s .devBootSignedOnly ≠ 0
  version : shared.kernelVersionTpm = s.sd.kernelVersionSecdatak

/-- The keyblock does not fit the mode, or its version was rolled back. -/
def keyblockMismatch (s : Vb2Context) (flags keyVersion : UInt32) : Bool :=
  flags &&& devFlag s = 0 ∨ flags &&& recFlag s = 0 ∨
    s.flags &&& vb2ContextRecoveryMode = 0 ∧ (keyVersion > 0xffff ∨ keyVersion < s.sd.kernelVersionSecdatak >>> 16)

theorem checkKernelKeyblock_ok {need valid v : Bool} {kb : UInt64} {s : Vb2Context} :
    checkKernelKeyblock need kb valid s = .ok v ↔
      (need = true → keyblockMismatch s (Vb2Keyblock.keyblockFlags s.workbuf kb)
        (Vb2PackedKey.keyVersion s.workbuf (Vb2Keyblock.dataKey kb)) = false) ∧
      v = (valid && !keyblockMismatch s (Vb2Keyblock.keyblockFlags s.workbuf kb)
        (Vb2PackedKey.keyVersion s.workbuf (Vb2Keyblock.dataKey kb))) := by
  unfold checkKernelKeyblock keyblockMismatch
  dsimp only
  generalize Vb2Keyblock.keyblockFlags s.workbuf kb &&& devFlag s = dev
  generalize Vb2Keyblock.keyblockFlags s.workbuf kb &&& recFlag s = rec
  generalize Vb2PackedKey.keyVersion s.workbuf (Vb2Keyblock.dataKey kb) = version
  by_cases h1 : dev = 0
  all_goals by_cases h2 : rec = 0
  all_goals by_cases h3 : s.flags &&& vb2ContextRecoveryMode = 0
  all_goals by_cases h4 : version > 0xffff
  all_goals by_cases h5 : version < s.sd.kernelVersionSecdatak >>> 16
  all_goals cases need <;> simp [invalidIf, h1, h2, h3, h4, h5, bind, Except.bind, eq_comm]

section
variable {params : LoadKernelParams} {shared : VbSharedData} {vnc : VbNvContext} {s : Vb2Context} {subkey : Ptr}
  (hboot : SameBoot params shared vnc s)
include hboot

theorem SameBoot.mode_recovery : (kernelChecks params shared vnc subkey).mode = .recovery ↔
    s.flags &&& vb2ContextRecoveryMode ≠ 0 := by
  rw [← hboot.recovery, kernelChecks, LoadKernelParams.bootMode]
  dsimp only
  cases params.recSwitch <;> cases params.devSwitch <;> decide

theorem SameBoot.need : vb2NeedSignedKernel s = true ↔
    ¬ ((kernelChecks params shared vnc subkey).mode = .developer ∧
      (kernelChecks params shared vnc subkey).requireOfficialOs = false) := by
  have hdev : s.flags &&& vb2ContextDeveloperMode = 0 ↔ params.devSwitch = false := by
    rw [← not_iff_not, Bool.not_eq_false]
    exact hboot.developer.symm
  rw [vb2NeedSignedKernel, decide_eq_true_iff, ← hboot.recovery, hdev, ← hboot.signedOnly, kernelChecks,
    LoadKernelParams.bootMode]
  dsimp only
  by_cases hnv : vbNvGet vnc .devBootSignedOnly = 0
  · cases params.recSwitch <;> cases params.devSwitch <;> simp [hnv]
  · cases params.recSwitch <;> cases params.devSwitch <;> simp [hnv]

omit hboot in
theorem toUInt64_and_eq_zero {a b : UInt32} : a.toUInt64 &&& b.toUInt64 = 0 ↔ a &&& b = 0 := by
  rw [← UInt32.toUInt64_and, ← UInt64.toNat_inj, ← UInt32.toNat_inj, UInt32.toNat_toUInt64]
  rfl

theorem SameBoot.mismatch {kbuf : Mem} (hzero : ReservedZero ⟨kbuf, 0⟩ keyblockReserved) (signed : Bool) :
    validHeader (kernelChecks params shared vnc subkey) signed kbuf =
      (signed && !keyblockMismatch s (le32 kbuf 72) (le32 kbuf 104)) := by
  have hflags : (kernelKeyBlock kbuf).keyBlockFlags = (le32 kbuf 72).toUInt64 :=
    le64_of_high_zero (a := 72) (hzero 76 (by decide))
  have hversion : (kernelKeyBlock kbuf).dataKey.keyVersion = (le32 kbuf 104).toUInt64 :=
    le64_of_high_zero (a := 104) (hzero 108 (by decide))
  have hdev : devMismatch (kernelChecks params shared vnc subkey) kbuf = decide (le32 kbuf 72 &&& devFlag s = 0) := by
    have hflag : (if (kernelChecks params shared vnc subkey).devSwitch then keyBlockFlagDeveloper1
        else keyBlockFlagDeveloper0) = (devFlag s).toUInt64 := by
      rw [devFlag, apply_ite UInt32.toUInt64]
      exact if_congr hboot.developer rfl rfl
    rw [devMismatch, hflags, hflag, Bool.beq_eq_decide_eq, decide_eq_decide]
    exact toUInt64_and_eq_zero
  have hrec : recMismatch (kernelChecks params shared vnc subkey) kbuf = decide (le32 kbuf 72 &&& recFlag s = 0) := by
    have hflag : (if (kernelChecks params shared vnc subkey).mode = .recovery then keyBlockFlagRecovery1
        else keyBlockFlagRecovery0) = (recFlag s).toUInt64 := by
      rw [recFlag, apply_ite UInt32.toUInt64]
      exact if_congr hboot.mode_recovery rfl rfl
    rw [recMismatch, hflags, hflag, Bool.beq_eq_decide_eq, decide_eq_decide]
    exact toUInt64_and_eq_zero
  have hroll : keyRollback (kernelChecks params shared vnc subkey) kbuf = decide (s.flags &&& vb2ContextRecoveryMode = 0 ∧
      (le32 kbuf 104 > 0xffff ∨ le32 kbuf 104 < s.sd.kernelVersionSecdatak >>> 16)) := by
    rw [keyRollback, hversion, decide_eq_decide, ne_eq, hboot.mode_recovery, not_not, or_comm, ← hboot.version]
    exact Iff.rfl
  rw [validHeader, hdev, hrec, hroll, keyblockMismatch]
  simp only [Bool.decide_or, Bool.not_or, Bool.and_assoc]

end

theorem keyblockSane_resize {w : Mem} {size n : Nat} (hsize : fieldAt w 16 ≤ size) :
    KeyblockSane w size n ↔ KeyblockSane w (fieldAt w 16) n := by
  constructor
  · intro h
    have hheader : 112 ≤ fieldAt w 16 := h.dataKey.header
    exact ⟨hheader, h.magic, h.major, le_rfl, h.signature, h.notTooMuch, h.enough, h.dataKey, h.dataKeySigned⟩
  · intro h
    exact ⟨h.header.trans hsize, h.magic, h.major, hsize, h.signature, h.notTooMuch, h.enough, h.dataKey,
      h.dataKeySigned⟩

section
variable {hash : Vb2HashAlgorithm → List UInt8 → List UInt8} {key : Vb2PublicKey} {w : Mem}

theorem keyblockSigned_resize {size : Nat} (hsize : fieldAt w 16 ≤ size) :
    KeyblockSigned hash key w size ↔ KeyblockSigned hash key w (fieldAt w 16) := by
  constructor
  · intro h
    exact ⟨(keyblockSane_resize hsize).mp h.sane, h.sane.notTooMuch, h.signed.length, h.signed.rsa⟩
  · intro h
    exact ⟨(keyblockSane_resize hsize).mpr h.sane, h.signed.data.trans hsize, h.signed.length, h.signed.rsa⟩

theorem keyblockHashed_resize {size : Nat} (hsize : fieldAt w 16 ≤ size) :
    KeyblockHashed hash w size ↔ KeyblockHashed hash w (fieldAt w 16) :=
  ⟨fun h => ⟨(keyblockSane_resize hsize).mp h.sane, h.hash⟩, fun h => ⟨(keyblockSane_resize hsize).mpr h.sane, h.hash⟩⟩

/-- The checksum of a keyblock, as the tools write it: 64 bytes that are not over their own header, in front
of the signature, which is not covered. -/
structure ChecksumLaidOut (w : Mem) : Prop where
  length : fieldAt w 56 = 64
  apart : 24 ≤ fieldAt w 48
  before : 0 < fieldAt w 32 → 48 + fieldAt w 48 + 64 ≤ 24 + fieldAt w 24
  covered : 0 < fieldAt w 32 → fieldAt w 64 ≤ 24 + fieldAt w 24

theorem keyblockHashed_powered (hkey : UsableKey key) (hlaid : ChecksumLaidOut w)
    (hapart : 112 ≤ 24 + fieldAt w 24) {size : Nat} :
    KeyblockHashed hash (keyblockPowered key w size) size ↔ KeyblockHashed hash w size := by
  by_cases hpos : 0 < fieldAt w 32
  · have hfront := @keyblockPowered_front key w size
    have hbefore := hlaid.before hpos
    have hcovered := hlaid.covered hpos
    constructor
    · intro h
      refine h.agree hfront hapart ?_ ?_
      · rw [HashInside, fieldAt_agree hfront (by omega)]
        exact hbefore
      · rw [fieldAt_agree hfront (by omega)]
        exact hcovered
    · intro h
      exact h.agree hfront.symm hapart hbefore hcovered
  · have hsame : keyblockPowered key w size = w := by
      rw [keyblockPowered, powered]
      split_ifs with hs hp
      · have hzero : (vb2RsaSigSize key.sigAlg).toNat = (0 : UInt32).toNat :=
          hp.2.symm.trans (Nat.eq_zero_of_not_pos hpos)
        exact absurd (UInt32.toNat_inj.mp hzero) hkey.sigSize
      · rfl
      · rfl
    rw [hsame]

/-- A kernel partition as the two loaders find it: the keyblock fits their buffers and has reserved words of
zero, its data key does not have its data over itself, and its checksum, where it may count, is laid out as
the tools do it. -/
structure SameVblock {align : UInt32} (p : KernelPartition align) (kbuf : Mem) (s : Vb2Context) : Prop where
  header : 112 ≤ p.vblock.length
  inside : fieldAt (Mem.ofList p.vblock) 16 ≤ p.vblock.length
  fits : fieldAt (Mem.ofList p.vblock) 16 ≤ 65536
  bytes : Mem.Agree kbuf (Mem.ofList p.vblock) p.vblock.length
  reserved : ReservedZero ⟨kbuf, 0⟩ keyblockReserved
  dataKey : 0 < fieldAt kbuf 88 → 32 ≤ fieldAt kbuf 80
  checksum : vb2NeedSignedKernel s = false → ChecksumLaidOut kbuf

variable {align : UInt32} {p : KernelPartition align} {kbuf : Mem} {s : Vb2Context}

def kernelKeyAddress (s : Vb2Context) : UInt64 := s.workbufAddr + s.sd.workbufKernelKeyOffset.toUInt64

section
variable (h : SameVblock p kbuf s)
include h

theorem SameVblock.field {i : Nat} (hi : i + 4 ≤ 112) :
    le32 kbuf i = le32 (Mem.ofList p.vblock) i :=
  le32_agree h.bytes (hi.trans h.header)

theorem SameVblock.size : fieldAt kbuf 16 = fieldAt (Mem.ofList p.vblock) 16 :=
  congrArg UInt32.toNat (h.field (by decide))

theorem SameVblock.apart : 112 ≤ 24 + fieldAt kbuf 24 := by
  rw [fieldAt, h.field (by decide)]
  exact p.apart

theorem SameVblock.signed {rsa : RSAPublicKey} {c : KernelChecks}
    (hkey : publicKeyToRSA c.subkey = some rsa) :
    KeyBlockSigned (rsaCrypto hash) c kbuf ↔
      KeyblockSigned hash rsa.toVb2 (Mem.ofList p.vblock) (fieldAt (Mem.ofList p.vblock) 16) := by
  have hbytes := h.bytes.mono h.inside
  have hapart := h.apart
  have hwindow := @keyBlockVerify_signed_window hash ⟨kbuf, 0⟩ h.reserved c.subkey rsa hkey kbufSize
  have hkbuf : kbufSize.toNat = 65536 := rfl
  dsimp only at hwindow
  rw [Mem.window_zero, hkbuf, keyblockSigned_resize (h.size.trans_le h.fits), h.size] at hwindow
  have happart : KeyblockApart kbuf 24 := ⟨fun _ => by omega, h.dataKey⟩
  exact ((and_iff_left happart).symm.trans hwindow).trans
    ⟨fun hs => hs.agree hbytes, fun hs => hs.agree hbytes.symm⟩

theorem SameVblock.hashed (hneed : vb2NeedSignedKernel s = false) (hkey : UsableKey key)
    {c : KernelChecks} :
    KeyBlockHashed (rsaCrypto hash) c kbuf ↔ KeyblockHashed hash
      (keyblockPowered key (Mem.ofList p.vblock) (fieldAt (Mem.ofList p.vblock) 16))
      (fieldAt (Mem.ofList p.vblock) 16) := by
  have hlaid := h.checksum hneed
  have hbytes := h.bytes.mono h.inside
  have hwindow := @keyBlockVerify_hashed_window hash ⟨kbuf, 0⟩ h.reserved (some c.subkey) kbufSize
  have hkbuf : kbufSize.toNat = 65536 := rfl
  dsimp only at hwindow
  rw [Mem.window_zero, hkbuf, keyblockHashed_resize (h.size.trans_le h.fits),
    ← keyblockHashed_powered hkey hlaid h.apart, h.size] at hwindow
  have happart : KeyblockApart kbuf 48 := ⟨fun _ => hlaid.apart, h.dataKey⟩
  have hpowered := @keyblockPowered_agree key kbuf (Mem.ofList p.vblock) _ hbytes
  have hin {w : Mem} (hw : Mem.Agree w kbuf 112) (hs : KeyblockSane w (fieldAt (Mem.ofList p.vblock) 16) 48) :
      HashInside w (fieldAt (Mem.ofList p.vblock) 16) := by
    have hdata := hs.signature.data.trans hs.inside
    have hlength : fieldAt w (48 + 8) = 64 := (fieldAt_agree hw (by decide)).trans hlaid.length
    rw [hlength] at hdata
    exact hdata
  have hfront : Mem.Agree (keyblockPowered key kbuf (fieldAt (Mem.ofList p.vblock) 16)) kbuf 112 :=
    (keyblockPowered_front _ _).mono h.apart
  refine ((and_iff_left happart).symm.trans hwindow).trans ((and_iff_left hlaid.length).trans ⟨fun hs => ?_, fun hs => ?_⟩)
  · exact hs.agree hpowered hs.sane.header (hin hfront hs.sane) hs.sane.hashedInside
  · have hsame : Mem.Agree (keyblockPowered key (Mem.ofList p.vblock) (fieldAt (Mem.ofList p.vblock) 16)) kbuf 112 :=
      fun i hi => (hpowered i (hi.trans_le hs.sane.header)).symm.trans (hfront i hi)
    exact hs.agree hpowered.symm hs.sane.header (hin hsame hs.sane) hs.sane.hashedInside

theorem SameVblock.vb2LoadKernelKeyblock_iff (ha : 0 < align.toNat)
    (hvalid : WorkbufValid s) (hroom : HasRoom p s)
    (hkey : vb2UnpackKey s.workbuf (kernelKeyAddress s) s.sd.workbufKernelKeySize = .ok key) (valid : Bool) :
    (∃ s', vb2LoadKernelKeyblock align hash p.ex s = (.ok (), s') ∧
      decide (s'.sd.flags &&& vb2SdFlagKernelSigned ≠ 0) = valid) ↔
    KeyblockPasses hash key (vb2NeedSignedKernel s) (Mem.ofList p.vblock) (fieldAt (Mem.ofList p.vblock) 16) ∧
    keyblockCheck hash key s p.vblock = .ok valid := by
  have hhash : vb2NeedSignedKernel s = true ∨
      (KeyblockSane (Mem.ofList p.vblock) (fieldAt (Mem.ofList p.vblock) 16) 48 →
        HashInside (Mem.ofList p.vblock) (fieldAt (Mem.ofList p.vblock) 16)) := by
    cases hneed : vb2NeedSignedKernel s with
    | true => exact .inl rfl
    | false =>
      refine .inr fun hs => ?_
      have hdata := hs.signature.data
      have hlength : fieldAt (Mem.ofList p.vblock) (48 + 8) = 64 := by
        rw [fieldAt, ← h.field (by decide)]
        exact (h.checksum hneed).length
      rw [hlength] at hdata
      exact hdata
  have hdecides := @vb2LoadKernelKeyblock_decides align hash key p ha s hvalid hroom hkey hhash
  constructor
  · rintro ⟨s', hrun, rfl⟩
    obtain ⟨hgood, -, hcheck⟩ := hdecides.of_ok hrun
    exact ⟨hgood.passes, hcheck⟩
  · rintro ⟨hpasses, hcheck⟩
    obtain ⟨_, s', hrun, -, hcheck'⟩ := hdecides.accept ⟨h.header, h.inside, hpasses, valid, hcheck⟩
    rw [hcheck] at hcheck'
    exact ⟨s', hrun, (Except.ok.inj hcheck').symm⟩

theorem SameVblock.keyblockCheck_ok (valid : Bool) :
    keyblockCheck hash key s p.vblock = .ok valid ↔
      (vb2NeedSignedKernel s = true → keyblockMismatch s (le32 kbuf 72) (le32 kbuf 104) = false) ∧
      valid = (decide (KeyblockSigned hash key (Mem.ofList p.vblock) (fieldAt (Mem.ofList p.vblock) 16)) &&
        !keyblockMismatch s (le32 kbuf 72) (le32 kbuf 104)) := by
  have hfield {i : Nat} (hi : i + 4 ≤ 112) : le32 (loadedKeyblock key p.vblock) i = le32 kbuf i := by
    rw [loadedKeyblock, fieldAt_keyblockPowered (hi.trans p.apart), h.field hi]
  have hflags : Vb2Keyblock.keyblockFlags (loadedKeyblock key p.vblock) 0 = le32 kbuf 72 := hfield (by decide)
  have hversion : Vb2PackedKey.keyVersion (loadedKeyblock key p.vblock) (Vb2Keyblock.dataKey 0) = le32 kbuf 104 :=
    hfield (i := 104) (by decide)
  rw [keyblockCheck, checkKernelKeyblock_ok]
  dsimp only
  rw [hflags, hversion]
  exact Iff.rfl

end

variable {params : LoadKernelParams} {shared : VbSharedData} {vnc : VbNvContext}

/-- The keyblock stages agree on a keyblock and on whether it counts as signed, but for two things. LoadKernel
parses the data key in this stage. In developer mode with signed kernels only, it takes a signed keyblock with
a mismatch and does not count it as signed, where vb2_load_kernel_keyblock refuses it. -/
theorem kernel_keyblock_stages_agree (hboot : SameBoot params shared vnc s) (h : SameVblock p kbuf s)
    (ha : 0 < align.toNat) (hvalid : WorkbufValid s) (hroom : HasRoom p s)
    (hkey : vb2UnpackKey s.workbuf (kernelKeyAddress s) s.sd.workbufKernelKeySize = .ok key)
    (hkeyZero : ReservedZero ⟨s.workbuf, (kernelKeyAddress s).toNat⟩ packedKeyReserved) (valid : Bool) :
    ((∃ s', vb2LoadKernelKeyblock align hash p.ex s = (.ok (), s') ∧
        decide (s'.sd.flags &&& vb2SdFlagKernelSigned ≠ 0) = valid) ∧
      publicKeyToRSA (kernelKeyBlock kbuf).dataKey ≠ none) ↔
    (∃ dataKey, kernelKeyBlockStage (rsaCrypto hash)
        (kernelChecks params shared vnc ⟨s.workbuf, (kernelKeyAddress s).toNat⟩) kbuf = .ok (valid, dataKey)) ∧
      (params.bootMode = .developer ∧ vbNvGet vnc .devBootSignedOnly ≠ 0 → valid = true) := by
  obtain ⟨rsa, hrsa, rfl⟩ := publicKeyToRSA_of_unpack hkeyZero hkey
  have hneed := @SameBoot.need params shared vnc s ⟨s.workbuf, (kernelKeyAddress s).toNat⟩ hboot
  have hvalidHeader := @SameBoot.mismatch params shared vnc s ⟨s.workbuf, (kernelKeyAddress s).toNat⟩ hboot _ h.reserved
  have hmode : (kernelChecks params shared vnc ⟨s.workbuf, (kernelKeyAddress s).toNat⟩).mode = params.bootMode := rfl
  have hofficial : (kernelChecks params shared vnc ⟨s.workbuf, (kernelKeyAddress s).toNat⟩).requireOfficialOs = true ↔
      params.bootMode = .developer ∧ vbNvGet vnc .devBootSignedOnly ≠ 0 := by
    simp [kernelChecks]
  rw [h.vb2LoadKernelKeyblock_iff ha hvalid hroom hkey, h.keyblockCheck_ok, ← hofficial]
  generalize hc : kernelChecks params shared vnc ⟨s.workbuf, (kernelKeyAddress s).toNat⟩ = c at *
  have hsubkey : publicKeyToRSA c.subkey = some rsa := by
    rw [← hc]
    exact hrsa
  have hsigned := @SameVblock.signed hash align p kbuf s h rsa c hsubkey
  simp only [kernelKeyBlockStage_ok, hvalidHeader, checkKernelKeyBlock_ok]
  generalize hmm : keyblockMismatch s (le32 kbuf 72) (le32 kbuf 104) = mm
  by_cases hs : KeyblockSigned hash rsa.toVb2 (Mem.ofList p.vblock) (fieldAt (Mem.ofList p.vblock) 16)
  · -- a signed keyblock passes, and a mismatch is all that is left
    have hsig := hsigned.mpr hs
    rw [decide_eq_true hs, Bool.true_and]
    constructor
    · rintro ⟨⟨-, hcheck, rfl⟩, hparse⟩
      obtain ⟨dataKey, hdata⟩ := Option.ne_none_iff_exists'.mp hparse
      refine ⟨⟨dataKey, true, .inl ⟨rfl, hsig⟩, (Bool.true_and _).symm, fun hdev => ?_, hdata⟩, fun hoff => ?_⟩
      · rw [hcheck (hneed.mpr fun hx => hdev hx.1), Bool.not_false]
      · rw [hcheck (hneed.mpr fun hx => Bool.false_ne_true (hx.2.symm.trans hoff)), Bool.not_false]
    · rintro ⟨⟨dataKey, signed, hkb, hv, hdev, hdata⟩, hoff⟩
      rcases hkb with ⟨rfl, -⟩ | ⟨-, hnot, -⟩
      · rw [Bool.true_and] at hv
        refine ⟨⟨.inl hs, fun hn => ?_, hv⟩, fun hnone => by rw [hnone] at hdata; cases hdata⟩
        have hvalid : valid = true := by
          by_cases hm : c.mode = .developer
          · refine hoff ?_
            by_contra hno
            exact hneed.mp hn ⟨hm, Bool.eq_false_of_not_eq_true hno⟩
          · exact hdev hm
        rw [hvalid] at hv
        exact Bool.not_eq_true' mm ▸ hv.symm
      · exact absurd hsig hnot
  · -- without a signature only the hash counts, in developer mode
    have hnot : ¬ KeyBlockSigned (rsaCrypto hash) c kbuf := fun hx => hs (hsigned.mp hx)
    rw [decide_eq_false hs, Bool.false_and]
    constructor
    · rintro ⟨⟨hpass, -, rfl⟩, hparse⟩
      obtain ⟨hn, hhashed⟩ := hpass.resolve_left hs
      obtain ⟨dataKey, hdata⟩ := Option.ne_none_iff_exists'.mp hparse
      obtain ⟨hm, ho⟩ : c.mode = .developer ∧ c.requireOfficialOs = false := by
        by_contra hx
        rw [hneed.mpr hx] at hn
        cases hn
      refine ⟨⟨dataKey, false, .inr ⟨rfl, hnot, hm, ho, ?_⟩, rfl, fun hx => absurd hm hx, hdata⟩, fun hx => ?_⟩
      · exact (h.hashed hn (vb2UnpackKey_usable hkey)).mpr hhashed
      · rw [ho] at hx
        cases hx
    · rintro ⟨⟨dataKey, signed, hkb, hv, -, hdata⟩, -⟩
      rcases hkb with ⟨-, hx⟩ | ⟨rfl, -, hm, ho, hhashed⟩
      · exact absurd hx hnot
      · have hn : vb2NeedSignedKernel s = false :=
          Bool.eq_false_of_not_eq_true fun hx => hneed.mp hx ⟨hm, ho⟩
        refine ⟨⟨.inr ⟨hn, (h.hashed hn (vb2UnpackKey_usable hkey)).mp hhashed⟩, fun hx => ?_, hv⟩, fun hnone => ?_⟩
        · rw [hn] at hx
          cases hx
        · rw [hnone] at hdata
          cases hdata

end

def developerNv (flags : UInt8) : NvRaw := Vector.ofFn fun i => if i = 4 then flags else 0

/-- A boot in developer mode with the sample key as kernel key. -/
def stageContext (flags : UInt8) : Vb2Context :=
  { sampleContext with
    flags := vb2ContextDeveloperMode
    nvdata := developerNv flags
    sd := { Vb2SharedData.zero with workbufKernelKeyOffset := 0x80, workbufKernelKeySize := 296 }
    workbuf := sampleRoot
    workbufUsed := 0x1a8 }

def stageParams : LoadKernelParams := ⟨0, 0, 0, 0, 0, 0, bootFlagDeveloper, 0, 0, 0, [], 0⟩

variable (flags : UInt8)

theorem stage_sameBoot (h : vbNvGet ⟨developerNv flags, false, false⟩ .devBootSignedOnly ≠ 0 ↔
    vb2NvGet (stageContext flags) .devBootSignedOnly ≠ 0) :
    SameBoot stageParams (sampleShared 0) ⟨developerNv flags, false, false⟩ (stageContext flags) := by
  have hrec : stageParams.recSwitch = true ↔ vb2ContextDeveloperMode &&& vb2ContextRecoveryMode ≠ 0 := by decide
  have hdev : stageParams.devSwitch = true ↔ vb2ContextDeveloperMode &&& vb2ContextDeveloperMode ≠ 0 := by decide
  exact ⟨hrec, hdev, h, rfl⟩

theorem stageContext_valid : WorkbufValid (stageContext flags) := by
  have hused : (0x1a8 : UInt32) ≤ 0x4000 := by decide
  have haddr : (0x10000 : UInt64).toNat + (0x4000 : UInt32).toNat < 2 ^ 64 := by decide
  exact ⟨hused, haddr⟩

theorem stageKey_unpacked :
    vb2UnpackKey (stageContext flags).workbuf (kernelKeyAddress (stageContext flags))
      (stageContext flags).sd.workbufKernelKeySize = .ok Vb2.sampleKey := sampleRoot_unpacked

/-- A keyblock that is signed, but not for developer mode. -/
def officialKeyblock : List UInt8 := sampleKeyblock 0 636 (sampleKeyData 32)

def officialPartition : KernelPartition 16 := .ofVblock officialKeyblock (by decide +kernel) (by decide +kernel)

theorem officialKeyblock_same : SameVblock officialPartition (Mem.ofList officialKeyblock) (stageContext 2) where
  header := by decide +kernel
  inside := by decide +kernel
  fits := by decide +kernel
  bytes _ _ := rfl
  reserved := by decide +kernel
  dataKey _ := by decide +kernel
  checksum h := absurd h (by decide +kernel)

theorem officialKeyblock_signed : KeyblockSigned sumHash Vb2.sampleKey (Mem.ofList officialKeyblock)
    (fieldAt (Mem.ofList officialKeyblock) 16) where
  sane := by decide +kernel
  signed := by
    have hsig : sigBytes (Mem.ofList officialKeyblock) 24 = Vb2.sampleSignature := by decide +kernel
    have hhash : sumHash Vb2.sampleKey.hashAlg
        ((Mem.ofList officialKeyblock).load 0 (fieldAt (Mem.ofList officialKeyblock) (24 + 16))) = sampleDigest := by
      decide +kernel
    refine ⟨by decide +kernel, by decide +kernel, ?_⟩
    rw [hsig, hhash]
    exact sampleSignature_rsa

/-- In developer mode with signed kernels only, a signed keyblock that is not for developer mode is accepted by
LoadKernel, and refused by vb2_load_kernel_keyblock. -/
theorem kernel_keyblock_stages_differ :
    SameBoot stageParams (sampleShared 0) ⟨developerNv 2, false, false⟩ (stageContext 2) ∧
    SameVblock officialPartition (Mem.ofList officialKeyblock) (stageContext 2) ∧
    (∃ dataKey, kernelKeyBlockStage (rsaCrypto sumHash) (kernelChecks stageParams (sampleShared 0)
      ⟨developerNv 2, false, false⟩ ⟨sampleRoot, 0x10080⟩) (Mem.ofList officialKeyblock) = .ok (false, dataKey)) ∧
    ∀ s', vb2LoadKernelKeyblock 16 sumHash officialPartition.ex (stageContext 2) ≠ (.ok (), s') := by
  have hsame := officialKeyblock_same
  refine ⟨stage_sameBoot 2 (by decide +kernel), hsame, ?_, fun s' hrun => ?_⟩
  · obtain ⟨rsa, hrsa, hkey⟩ := publicKeyToRSA_of_unpack (by decide +kernel) sampleRoot_unpacked
    have hparse : publicKeyToRSA (kernelKeyBlock (Mem.ofList officialKeyblock)).dataKey ≠ none := by decide +kernel
    obtain ⟨dataKey, hdata⟩ := Option.ne_none_iff_exists'.mp hparse
    have hsigned := @SameVblock.signed sumHash 16 officialPartition (Mem.ofList officialKeyblock) (stageContext 2)
      hsame rsa (kernelChecks stageParams (sampleShared 0) ⟨developerNv 2, false, false⟩ ⟨sampleRoot, 0x10080⟩) hrsa
    rw [hkey] at hsigned
    refine ⟨dataKey, (kernelKeyBlockStage_ok _ _).mpr ⟨true, (checkKernelKeyBlock_ok _ _).mpr
      (.inl ⟨rfl, hsigned.mpr officialKeyblock_signed⟩), by decide +kernel, fun h => absurd (by decide) h, hdata⟩⟩
  · have hroom : HasRoom officialPartition (stageContext 2) := by
      unfold HasRoom
      decide +kernel
    have hok := (@SameVblock.vb2LoadKernelKeyblock_iff sumHash Vb2.sampleKey 16 officialPartition _ _ hsame (by decide)
      (stageContext_valid 2) hroom (stageKey_unpacked 2) _).mp ⟨s', hrun, rfl⟩
    have hcheck := ((hsame.keyblockCheck_ok _).mp hok.2).1 (by decide +kernel)
    exact absurd hcheck (by decide +kernel)

/-- A keyblock with a checksum and no signature. -/
def selfHashedPartition : KernelPartition 16 :=
  .ofVblock (hashedKeyblock (sampleKeyData 32)) (by decide +kernel) (by decide +kernel)

theorem selfHashed_same :
    SameVblock selfHashedPartition (Mem.ofList (hashedKeyblock (sampleKeyData 32))) (stageContext 0) where
  header := by decide +kernel
  inside := by decide +kernel
  fits := by decide +kernel
  bytes _ _ := rfl
  reserved := by decide +kernel
  dataKey _ := by decide +kernel
  checksum _ := ⟨by decide +kernel, by decide +kernel, fun h => absurd h (by decide +kernel),
    fun h => absurd h (by decide +kernel)⟩

/-- Both loaders take the keyblock in developer mode, and do not count it as signed. -/
theorem kernel_keyblock_stages_agree_sample :
    (∃ s', vb2LoadKernelKeyblock 16 keyblockSum selfHashedPartition.ex (stageContext 0) = (.ok (), s') ∧
      decide (s'.sd.flags &&& vb2SdFlagKernelSigned ≠ 0) = false) ∧
    publicKeyToRSA (kernelKeyBlock (Mem.ofList (hashedKeyblock (sampleKeyData 32)))).dataKey ≠ none := by
  have hroom : HasRoom selfHashedPartition (stageContext 0) := by
    unfold HasRoom
    decide +kernel
  have hstage : (kernelKeyBlockStage (rsaCrypto keyblockSum) (kernelChecks stageParams (sampleShared 0)
      ⟨developerNv 0, false, false⟩ ⟨sampleRoot, 0x10080⟩) (Mem.ofList (hashedKeyblock (sampleKeyData 32)))).map
        Prod.fst = .ok false := by
    decide +kernel
  obtain ⟨dataKey, hok⟩ : ∃ dataKey, kernelKeyBlockStage (rsaCrypto keyblockSum) (kernelChecks stageParams
      (sampleShared 0) ⟨developerNv 0, false, false⟩ ⟨sampleRoot, 0x10080⟩)
      (Mem.ofList (hashedKeyblock (sampleKeyData 32))) = .ok (false, dataKey) := by
    generalize kernelKeyBlockStage _ _ _ = r at hstage ⊢
    cases r with
    | error e => cases hstage
    | ok r =>
      obtain ⟨valid, dataKey⟩ := r
      cases hstage
      exact ⟨dataKey, rfl⟩
  exact (kernel_keyblock_stages_agree (stage_sameBoot 0 (by decide +kernel)) selfHashed_same (by decide)
    (stageContext_valid 0) hroom (stageKey_unpacked 0) (by decide +kernel) false).mpr
    ⟨⟨dataKey, hok⟩, fun h => absurd h.2 (by decide +kernel)⟩

end Vboot
