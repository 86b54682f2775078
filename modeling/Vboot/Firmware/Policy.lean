import Vboot.Firmware.Accept

/-! What a successful LoadFirmware says about the slot that it reports, and what a failed
one leaves in the NV storage. -/
namespace Vboot
open Vboot.Lib
variable (shared : VbSharedData) (vnc : VbNvContext)

theorem startSearch_same : SameStart shared (startSearch shared vnc).1 := by
  have h1 : SameStart shared (if bootDevSwitchOn shared then
      { shared with flags := shared.flags ||| vbsdLfDevSwitchOn } else shared) := by
    split_ifs
    · exact ⟨rfl, Flags.or_and_of_disjoint (by decide), rfl, rfl, rfl, rfl⟩
    · exact SameStart.refl shared
  refine h1.trans ?_
  rw [startSearch]
  split_ifs
  all_goals first
    | exact SameStart.refl _
    | exact ⟨rfl, Flags.or_and_of_disjoint (by decide), rfl, rfl, rfl, rfl⟩

theorem noFirmwareReason_range : noFirmwareReason shared ≠ 0 ∧ (noFirmwareReason shared).toNat ≤ 255 := by
  have hreason (r : UInt8) (h : recoveryRoInvalidRwCheckMin ≤ r) :
      r.toUInt32 ≠ 0 ∧ r.toUInt32.toNat ≤ 255 := by
    have hmin : recoveryRoInvalidRwCheckMin.toNat = 16 := rfl
    have hb := UInt8.le_iff_toNat_le.mp h
    have hl := r.toNat_lt
    rw [Ne, ← UInt32.toNat_inj, UInt8.toNat_toUInt32, UInt32.toNat_zero]
    omega
  unfold noFirmwareReason
  dsimp only
  split_ifs with h1 h2 h2
  · exact hreason _ h2.1
  · exact ⟨by decide, by decide⟩
  · exact hreason _ h2.1
  · exact ⟨by decide, by decide⟩

theorem exit_error {retval recovery : UInt32} (hr : retval ≠ vbErrorSuccess) (h : recovery.toNat ≤ 255) :
    (loadFirmwareExit retval recovery shared vnc).1 = retval ∧
      vbNvGet (loadFirmwareExit retval recovery shared vnc).2.2 .recoveryRequest = recovery := by
  simp only [loadFirmwareExit, if_pos (Ne.symm hr)]
  exact ⟨trivial, get_set_recovery vnc recovery h⟩

theorem exit_success (recovery : UInt32) (shared : VbSharedData) (vnc : VbNvContext) :
    loadFirmwareExit vbErrorSuccess recovery shared vnc =
      (vbErrorSuccess, shared, vbNvSet vnc .recoveryRequest recoveryNotRequested) := by
  simp [loadFirmwareExit]

section
variable {Ctx : Type} (crypto : Crypto Ctx) (p : FirmwareParams)

def firmwareSlot (rootKey : Ptr) (shared : VbSharedData) (vnc : VbNvContext) : Option Nat :=
  bootSlot crypto p rootKey (bootDevSwitchOn shared) shared (tryOrder (vbNvGet vnc .tryBCount))

/-- The loop as LoadFirmware runs it. -/
def firmwareSearch (rootKey : Ptr) (shared : VbSharedData) (vnc : VbNvContext) : Search :=
  search crypto p rootKey (bootDevSwitchOn shared) (tryOrder (vbNvGet vnc .tryBCount))
    ⟨(startSearch { shared with firmwareIndex := 0xFF } vnc).1, 0xFFFFFFFF, none⟩

theorem firmwareSearch_spec (rootKey : Ptr) (shared : VbSharedData) (vnc : VbNvContext) :
    (firmwareSearch crypto p rootKey shared vnc).goodIndex =
      firmwareSlot crypto p rootKey shared vnc ∧
    (∀ g, firmwareSlot crypto p rootKey shared vnc = some g →
      Found shared g (firmwareSearch crypto p rootKey shared vnc)) ∧
    (shared.fwVersionTpm < (firmwareSearch crypto p rootKey shared vnc).lowestVersion →
      (firmwareSearch crypto p rootKey shared vnc).lowestVersion =
        (tryOrder (vbNvGet vnc .tryBCount)).foldl
          (lower crypto p rootKey (bootDevSwitchOn shared) shared.fwVersionTpm) 0xFFFFFFFF) := by
  have hs : SameStart shared (startSearch { shared with firmwareIndex := 0xFF } vnc).1 :=
    SameStart.trans (b := { shared with firmwareIndex := 0xFF }) ⟨rfl, rfl, rfl, rfl, rfl, rfl⟩
      (startSearch_same _ vnc)
  have hl : Looking shared
      ⟨(startSearch { shared with firmwareIndex := 0xFF } vnc).1, 0xFFFFFFFF, none⟩ := ⟨rfl, hs⟩
  exact hl.search crypto p rootKey (bootDevSwitchOn shared) _
variable (shared : VbSharedData) (vnc : VbNvContext)

theorem loadFirmware_noKey {e : UInt32} (h : p.vbGbbReadRootKey = .error e) :
    (loadFirmware crypto p shared vnc).1 = vbErrorInvalidGbb ∧
      vbNvGet (loadFirmware crypto p shared vnc).2.2 .recoveryRequest = recoveryRoUnspecified := by
  rw [loadFirmware, h]
  exact exit_error _ _ (by decide) (by decide)

variable {rootKey : Ptr} {g i : Nat} {isDev : Bool}

theorem loadFirmware_none (h : p.vbGbbReadRootKey = .ok rootKey)
    (hn : firmwareSlot crypto p rootKey shared vnc = none) :
    (loadFirmware crypto p shared vnc).1 = vbErrorLoadFirmware ∧
      vbNvGet (loadFirmware crypto p shared vnc).2.2 .recoveryRequest ≠ 0 := by
  have hg := (firmwareSearch_spec crypto p rootKey shared vnc).1
  rw [hn] at hg
  have he : loadFirmware crypto p shared vnc = loadFirmwareExit vbErrorLoadFirmware
      (noFirmwareReason (firmwareSearch crypto p rootKey shared vnc).shared)
      (firmwareSearch crypto p rootKey shared vnc).shared
      (startSearch { shared with firmwareIndex := 0xFF } vnc).2 := by
    rw [loadFirmware, h]
    dsimp only
    split
    next hs => exact absurd (hs.symm.trans hg) (Option.some_ne_none _)
    next => rfl
  obtain ⟨h0, h255⟩ := noFirmwareReason_range (firmwareSearch crypto p rootKey shared vnc).shared
  obtain ⟨h1, h2⟩ := exit_error (firmwareSearch crypto p rootKey shared vnc).shared
    (startSearch { shared with firmwareIndex := 0xFF } vnc).2
    (show vbErrorLoadFirmware ≠ vbErrorSuccess by decide) h255
  rw [he]
  exact ⟨h1, by rw [h2]; exact h0⟩

/-- A call that finds a slot reports it, and raises the version if all good headers are
above the one in the TPM. -/
theorem loadFirmware_found (h : p.vbGbbReadRootKey = .ok rootKey)
    (hg : firmwareSlot crypto p rootKey shared vnc = some g) :
    loadFirmware crypto p shared vnc = loadFirmwareExit vbErrorSuccess recoveryRoUnspecified
      { (firmwareSearch crypto p rootKey shared vnc).shared with
        fwVersionLowest := (firmwareSearch crypto p rootKey shared vnc).lowestVersion
        fwVersionTpm :=
          if (firmwareSearch crypto p rootKey shared vnc).lowestVersion >
              (firmwareSearch crypto p rootKey shared vnc).shared.fwVersionTpm then
            (firmwareSearch crypto p rootKey shared vnc).lowestVersion
          else (firmwareSearch crypto p rootKey shared vnc).shared.fwVersionTpm }
      (startSearch { shared with firmwareIndex := 0xFF } vnc).2 := by
  have hf := (firmwareSearch_spec crypto p rootKey shared vnc).2.1 g hg
  rw [loadFirmware, h]
  dsimp only
  split
  next => rfl
  next hs => exact absurd (hs.symm.trans hf.good) (Option.some_ne_none _).symm

theorem loadFirmware_some (h : p.vbGbbReadRootKey = .ok rootKey)
    (hg : firmwareSlot crypto p rootKey shared vnc = some g) :
    (loadFirmware crypto p shared vnc).1 = vbErrorSuccess ∧
    (loadFirmware crypto p shared vnc).2.1.firmwareIndex = UInt8.ofNat g ∧
    (loadFirmware crypto p shared vnc).2.1.fwVersionTpm =
      (if (firmwareSearch crypto p rootKey shared vnc).lowestVersion > shared.fwVersionTpm then
        (firmwareSearch crypto p rootKey shared vnc).lowestVersion else shared.fwVersionTpm) := by
  have hf := (firmwareSearch_spec crypto p rootKey shared vnc).2.1 g hg
  rw [loadFirmware_found crypto p shared vnc h hg, exit_success, hf.tpm]
  exact ⟨rfl, hf.index, rfl⟩

/-- The number of bytes that VbExHashFirmwareBody hashes for a slot. -/
def bodyTotal (i : Nat) : Nat := ((p.hashFirmwareBody i).2.map fun c => c.size.toNat).sum

def bodyDigest (key : RSAPublicKey) (i : Nat) : List UInt8 :=
  crypto.final ((p.hashFirmwareBody i).2.foldl (fun ctx c => crypto.update ctx
    (c.data.load 0 c.size.toNat)) (digestInit crypto key.algorithm))

/-- The policy for slot i, where n counts the bytes that were hashed: flags, key block under
the root key, versions, preamble under the data key, and body or read-only path. -/
structure FirmwareAccepted (rootKey : Ptr) (shared : VbSharedData) (i n : Nat) : Prop where
  developer : (p.keyBlock i).keyBlockFlags &&&
    (if bootDevSwitchOn shared then keyBlockFlagDeveloper1 else keyBlockFlagDeveloper0) ≠ 0
  recovery : (p.keyBlock i).keyBlockFlags &&& keyBlockFlagRecovery0 ≠ 0
  keyBlock : keyBlockVerify crypto (p.keyBlock i) (p.vblockSize i) (some rootKey) false = .ok ()
  versions : p.rollbackCheck = true →
    (p.keyBlock i).dataKey.keyVersion.toNat ≤ 0xFFFF ∧
    shared.fwVersionTpm.toNat / 2 ^ 16 ≤ (p.keyBlock i).dataKey.keyVersion.toNat ∧
    shared.fwVersionTpm ≤ p.combinedVersion i
  signed : ∃ key, publicKeyToRSA (p.keyBlock i).dataKey = some key ∧
    verifyFirmwarePreamble crypto (p.preamble i)
      (p.vblockSize i - (p.keyBlock i).keyBlockSize) key = .ok () ∧
    ((useRoNormal p i = true ∧ shared.flags &&& vbsdBootRoNormalSupport ≠ 0) ∨
      (useRoNormal p i = false ∧ (p.hashFirmwareBody i).1 = vbErrorSuccess ∧
        n = (p.preamble i).fwBodySignature.dataSize.toNat ∧
        verifyDigest crypto (bodyDigest crypto p key i) (p.preamble i).fwBodySignature key = false))

theorem foldl_bodyHash (cs : List Chunk) (ctx : Ctx) (n : UInt32) :
    (cs.foldl (vbUpdateFirmwareBodyHash crypto) (ctx, n)).1 =
      cs.foldl (fun ctx c => crypto.update ctx (c.data.load 0 c.size.toNat)) ctx ∧
    (cs.foldl (vbUpdateFirmwareBodyHash crypto) (ctx, n)).2.toNat =
      (n.toNat + (cs.map fun c => c.size.toNat).sum) % 2 ^ 32 := by
  induction cs generalizing ctx n with
  | nil => exact ⟨rfl, by simp⟩
  | cons c cs ih =>
    obtain ⟨h1, h2⟩ := ih (crypto.update ctx (c.data.load 0 c.size.toNat)) (n + c.size)
    refine ⟨h1, h2.trans ?_⟩
    rw [UInt32.toNat_add, List.map_cons, List.sum_cons]
    omega

variable {k : RSAPublicKey}

theorem checkHeader_ok {v : UInt32} :
    checkHeader crypto p rootKey isDev v i = .ok k ↔
      (p.keyBlock i).keyBlockFlags &&&
        (if isDev then keyBlockFlagDeveloper1 else keyBlockFlagDeveloper0) ≠ 0 ∧
      (p.keyBlock i).keyBlockFlags &&& keyBlockFlagRecovery0 ≠ 0 ∧
      keyBlockVerify crypto (p.keyBlock i) (p.vblockSize i) (some rootKey) false = .ok () ∧
      (p.rollbackCheck = true → (v >>> 16).toUInt64 ≤ (p.keyBlock i).dataKey.keyVersion) ∧
      (p.rollbackCheck = true → (p.keyBlock i).dataKey.keyVersion ≤ 0xFFFF) ∧
      publicKeyToRSA (p.keyBlock i).dataKey = some k ∧
      verifyFirmwarePreamble crypto (p.preamble i)
        (p.vblockSize i - (p.keyBlock i).keyBlockSize) k = .ok () ∧
      (p.rollbackCheck = true → v ≤ p.combinedVersion i) := by
  simp only [checkHeader, reject_bind_eq_ok, require_bind_eq_ok, pure, Except.pure,
    Bool.not_eq_true, fails_eq_false, not_and, gt_iff_lt, UInt64.not_lt, Except.ok.injEq]
  constructor
  · rintro ⟨h1, h2, h3, h4, h5, k', h6, h7, h8, rfl⟩
    refine ⟨h1, h2, h3, h4, h5, h6, h7, fun hr => UInt32.not_lt.mp fun hl => ?_⟩
    rw [h8 hl] at hr
    cases hr
  · rintro ⟨h1, h2, h3, h4, h5, h6, h7, h8⟩
    refine ⟨h1, h2, h3, h4, h5, k, h6, h7, fun hl => ?_, rfl⟩
    by_contra hr
    exact UInt32.not_lt.mpr (h8 (by simpa using hr)) hl

theorem checkBody_ok {flags : UInt32} :
    fails (checkBody crypto p flags k i) = false ↔
      (useRoNormal p i = true ∧ flags &&& vbsdBootRoNormalSupport ≠ 0) ∨
      (useRoNormal p i = false ∧ (p.hashFirmwareBody i).1 = vbErrorSuccess ∧
        bodyTotal p i % 2 ^ 32 = (p.preamble i).fwBodySignature.dataSize.toNat ∧
        verifyDigest crypto (bodyDigest crypto p k i) (p.preamble i).fwBodySignature k = false) := by
  obtain ⟨hd, hn⟩ := foldl_bodyHash crypto (p.hashFirmwareBody i).2 (digestInit crypto k.algorithm) 0
  rw [fails_eq_false, checkBody]
  cases useRoNormal p i with
  | true => simp
  | false =>
    simp only [Bool.false_eq_true, if_false, reject_bind_eq_ok, reject_eq_ok, false_and, false_or,
      true_and, hd, ne_eq, not_not, Bool.not_eq_true, bodyDigest]
    rw [UInt64.toNat_inj.symm, UInt32.toNat_toUInt64, hn, bodyTotal]
    simp

theorem slotChecks_iff {shared : VbSharedData} :
    slotChecks crypto p rootKey (bootDevSwitchOn shared) shared i = true ↔
      FirmwareAccepted crypto p rootKey shared i (bodyTotal p i % 2 ^ 32) := by
  have hshift (v : UInt32) (w : UInt64) : (v >>> 16).toUInt64 ≤ w ↔ v.toNat / 2 ^ 16 ≤ w.toNat := by
    rw [UInt64.le_iff_toNat_le, UInt32.toNat_toUInt64, UInt32.toNat_shiftRight,
      show UInt32.toNat 16 % 32 = 16 from rfl, Nat.shiftRight_eq_div_pow]
  rw [slotChecks_ok]
  constructor
  · rintro ⟨k, hc, hb⟩
    obtain ⟨h1, h2, h3, h4, h5, h6, h7, h8⟩ := (checkHeader_ok crypto p).mp hc
    exact ⟨h1, h2, h3, fun hr => ⟨h5 hr, (hshift _ _).mp (h4 hr), h8 hr⟩,
      k, h6, h7, (checkBody_ok crypto p).mp hb⟩
  · intro h
    obtain ⟨k, h6, h7, hb⟩ := h.signed
    have hc := (checkHeader_ok crypto p).mpr ⟨h.developer, h.recovery, h.keyBlock,
      fun hr => (hshift _ _).mpr (h.versions hr).2.1, fun hr => (h.versions hr).1, h6, h7,
      fun hr => (h.versions hr).2.2⟩
    exact ⟨k, hc, (checkBody_ok crypto p).mpr hb⟩

theorem slotChecks_congr {a b : VbSharedData} (hv : b.fwVersionTpm = a.fwVersionTpm)
    (hf : b.flags = a.flags) :
    slotChecks crypto p rootKey isDev b i = slotChecks crypto p rootKey isDev a i := by
  simp only [slotChecks, hv, hf]

theorem bootSlot_checks {a : VbSharedData} {is : List Nat}
    (h : bootSlot crypto p rootKey isDev a is = some g) :
    g ∈ is ∧ slotChecks crypto p rootKey isDev a g = true := by
  induction is generalizing a with
  | nil => cases h
  | cons i is ih =>
    rw [bootSlot] at h
    split_ifs at h with hc he
    · obtain ⟨hm, hs⟩ := ih h
      obtain ⟨hv, hf⟩ := saveKernelKey_frame p a i
      exact ⟨List.mem_cons_of_mem i hm, (slotChecks_congr crypto p hv hf).symm.trans hs⟩
    · cases h
      exact ⟨List.mem_cons_self, hc⟩
    · obtain ⟨hm, hs⟩ := ih h
      exact ⟨List.mem_cons_of_mem i hm, hs⟩

theorem mem_tryOrder {n : UInt32} (h : g ∈ tryOrder n) : g < 2 := by
  unfold tryOrder at h
  split_ifs at h <;> simp at h <;> omega

/-- LoadFirmware meets its policy except exactly when the slot that it boots is not a
read-only one and has 2^32 or more bytes hashed, whose number the 32-bit
counter does not hold. -/
theorem loadFirmware_policy_iff (shared : VbSharedData) (vnc : VbNvContext) :
    (((loadFirmware crypto p shared vnc).1 = vbErrorSuccess →
      ∃ rootKey i, p.vbGbbReadRootKey = .ok rootKey ∧ i < 2 ∧
        (loadFirmware crypto p shared vnc).2.1.firmwareIndex = UInt8.ofNat i ∧
        FirmwareAccepted crypto p rootKey shared i (bodyTotal p i)) ∧
      ((loadFirmware crypto p shared vnc).1 ≠ vbErrorSuccess →
        vbNvGet (loadFirmware crypto p shared vnc).2.2 .recoveryRequest ≠ 0)) ↔
    ∀ rootKey i, p.vbGbbReadRootKey = .ok rootKey →
      firmwareSlot crypto p rootKey shared vnc = some i →
      useRoNormal p i = true ∨ bodyTotal p i < 2 ^ 32 := by
  constructor
  · rintro ⟨hok, -⟩ rootKey i hk hi
    obtain ⟨h1, h2, -⟩ := loadFirmware_some crypto p shared vnc hk hi
    obtain ⟨hm, hs⟩ := bootSlot_checks crypto p hi
    obtain ⟨rootKey', j, -, hj, hij, hacc⟩ := hok h1
    have hji : j = i := by
      have hi2 := mem_tryOrder hm
      have he := congrArg UInt8.toNat (hij.symm.trans h2)
      simp only [UInt8.toNat_ofNat'] at he
      omega
    subst j
    obtain ⟨k, -, -, hb⟩ := hacc.signed
    obtain ⟨k', -, -, hb'⟩ := ((slotChecks_iff crypto p).mp hs).signed
    rcases hb with ⟨hr, -⟩ | ⟨hr, -, hn, -⟩
    · exact .inl hr
    · rcases hb' with ⟨hr', -⟩ | ⟨-, -, hn', -⟩
      · exact .inl hr'
      · right
        omega
  · intro hcond
    cases hk : p.vbGbbReadRootKey with
    | error e =>
      obtain ⟨h1, h2⟩ := loadFirmware_noKey crypto p shared vnc hk
      refine ⟨fun h => ?_, fun _ => by rw [h2]; decide⟩
      rw [h1] at h
      exact absurd h (by decide)
    | ok rootKey =>
      cases hi : firmwareSlot crypto p rootKey shared vnc with
      | none =>
        obtain ⟨h1, h2⟩ := loadFirmware_none crypto p shared vnc hk hi
        refine ⟨fun h => ?_, fun _ => h2⟩
        rw [h1] at h
        exact absurd h (by decide)
      | some i =>
        obtain ⟨h1, h2, -⟩ := loadFirmware_some crypto p shared vnc hk hi
        obtain ⟨hm, hs⟩ := bootSlot_checks crypto p hi
        have hacc := (slotChecks_iff crypto p).mp hs
        refine ⟨fun _ => ⟨rootKey, i, rfl, mem_tryOrder hm, h2, hacc.developer, hacc.recovery,
          hacc.keyBlock, hacc.versions, ?_⟩, fun h => absurd h1 h⟩
        obtain ⟨k, h6, h7, hb⟩ := hacc.signed
        refine ⟨k, h6, h7, ?_⟩
        rcases hb with hr | ⟨hr, hv, hn, hd⟩
        · exact .inl hr
        · rcases hcond rootKey i hk hi with hro | hlt
          · rw [hro] at hr
            cases hr
          · exact .inr ⟨hr, hv, by omega, hd⟩

end

/-- The bytes of a 64-bit field. -/
def bytes64 (n : Nat) : List UInt8 := (List.range 8).map fun i => UInt8.ofNat (n / 256 ^ i)

/-- The header of a 1024-bit key whose data is at the given offset. -/
def sampleKey (offset version : Nat) : List UInt8 :=
  bytes64 offset ++ bytes64 264 ++ bytes64 0 ++ bytes64 version

def sampleSignature (offset dataSize : Nat) : List UInt8 :=
  bytes64 offset ++ bytes64 128 ++ bytes64 dataSize

/-- A key block of 504 bytes and a preamble of 364, each a header, a key or the place of the
body signature, and the place of the signature. -/
def sampleVblock (keyVersion fwVersion bodySize : Nat) : Mem :=
  Mem.ofList (keyBlockMagic ++ [2, 0, 0, 0, 1, 0, 0, 0] ++ bytes64 504 ++ sampleSignature 352 376 ++
    sampleSignature 0 0 ++ bytes64 7 ++ sampleKey 32 keyVersion ++ [32, 0, 0, 0] ++
    List.replicate 388 0 ++
    bytes64 364 ++ sampleSignature 228 236 ++ [2, 0, 0, 0, 1, 0, 0, 0] ++ bytes64 fwVersion ++
    (bytes64 0 ++ bytes64 0 ++ bytes64 0 ++ bytes64 0) ++ sampleSignature 28 bodySize)

/-- A GBB with a root key at offset 128. -/
def sampleGbb : Mem :=
  (Mem.store (fun _ => 0) 24 (bytes64 128)).store 128 (sampleKey 32 1 ++ [32, 0, 0, 0])

/-- Every signature is good. -/
def anyCrypto : Crypto Unit where
  init _ := ()
  update _ _ := ()
  final _ := []
  digestBuf _ _ := []
  rsaVerify _ _ _ _ := true

/-- Both slots hold version 1.1 with a body of bodySize bytes, and the platform hashes the
given chunks. -/
def sampleParams (bodySize : Nat) (chunks : List Chunk) : FirmwareParams where
  gbb := ⟨sampleGbb, 0⟩
  gbbAccess := .buffer sampleGbb 424
  heap := fun _ => 0
  heap' := fun _ => 0
  verificationBlockA := sampleVblock 1 1 bodySize
  verificationBlockB := sampleVblock 1 1 bodySize
  verificationSizeA := 868
  verificationSizeB := 868
  hashFirmwareBody := fun _ => (0, chunks)
  cbmc := false

/-- Shared data as VbInit leaves it when the TPM holds the given version. -/
def sampleShared (version : UInt32) : VbSharedData where
  dataSize := 3072
  dataUsed := 1096
  flags := 0
  kernelSubkey := ⟨0, 0, 0, 0⟩
  kernelSubkeyDataOffset := 0
  kernelSubkeyDataSize := 0
  fwVersionTpm := version
  kernelVersionTpm := 0
  checkFwAResult := 0
  checkFwBResult := 0
  firmwareIndex := 0xFF
  fwVersionTpmStart := version
  fwVersionLowest := 0
  recoveryReason := 0
  fwKeyblockFlags := 0
  kernelVersionTpmStart := 0
  kernelVersionLowest := 0
  data := fun _ => 0

/-- A body of five bytes is declared and signed, 2^32 + 5 bytes are hashed, and LoadFirmware
reports success although no slot meets the policy. -/
theorem wrapped_body_accepted :
    (loadFirmware anyCrypto (sampleParams 5 [⟨fun _ => 0, 0xFFFFFFFF⟩, ⟨fun _ => 0, 6⟩])
      (sampleShared 0x10001) (vbNvSetup (Vector.replicate 16 0))).1 = vbErrorSuccess ∧
    ∀ rootKey i, ¬ FirmwareAccepted anyCrypto
      (sampleParams 5 [⟨fun _ => 0, 0xFFFFFFFF⟩, ⟨fun _ => 0, 6⟩]) rootKey (sampleShared 0x10001) i
      (bodyTotal (sampleParams 5 [⟨fun _ => 0, 0xFFFFFFFF⟩, ⟨fun _ => 0, 6⟩]) i) := by
  refine ⟨by decide +kernel, fun rootKey i h => ?_⟩
  set p := sampleParams 5 [⟨fun _ => 0, 0xFFFFFFFF⟩, ⟨fun _ => 0, 6⟩] with hp
  have hk : p.keyBlock i = ⟨sampleVblock 1 1 5, 0⟩ := by
    unfold FirmwareParams.keyBlock
    split_ifs <;> rfl
  have hro : useRoNormal p i = false := by
    rw [useRoNormal, FirmwareParams.preamble, hk]
    decide +kernel
  have hsize : (p.preamble i).fwBodySignature.dataSize.toNat = 5 := by
    rw [FirmwareParams.preamble, hk]
    decide +kernel
  have htotal : bodyTotal p i = 2 ^ 32 + 5 := rfl
  obtain ⟨key, -, -, hb⟩ := h.signed
  rcases hb with ⟨h1, -⟩ | ⟨-, -, h2, -⟩
  · rw [hro] at h1
    cases h1
  · omega

end Vboot
