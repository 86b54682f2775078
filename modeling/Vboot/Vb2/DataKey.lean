import Vboot.Vb2.Accept
import Vboot.Vb2.Signed
import Vboot.Vb2.Workbuf

/-! What vb2_load_fw_keyblock leaves in the work buffer: the data key, moved down over the root key,
and the offset of the preamble, which is read from the keyblock after the move. -/
namespace Vboot.Vb2
open Vboot.Lib Vboot.Lib.Program
open Vb2PackedKey (keySize keyOffset)
open Vb2Keyblock (keyblockSize keyblockSignature dataKey)

/-- What a packed key says, wherever its data is. -/
structure KeyContents where
  algorithm : UInt32
  keyVersion : UInt32
  data : List UInt8
  deriving DecidableEq

def keyContents (m : Mem) (key : UInt64) : KeyContents where
  algorithm := Vb2PackedKey.algorithm m key
  keyVersion := Vb2PackedKey.keyVersion m key
  data := m.load (vb2PackedKeyData m key).toNat (keySize m key).toNat

def unpackContents (k : KeyContents) : Except UInt32 Vb2PublicKey := do
  let sigAlg := vb2CryptoToSignature k.algorithm
  reject (sigAlg = .invalid) vb2ErrorUnpackKeySigAlgorithm
  let hashAlg := vb2CryptoToHash k.algorithm
  reject (hashAlg = .invalid) vb2ErrorUnpackKeyHashAlgorithm
  let expectedKeySize := vb2PackedKeySize sigAlg
  reject (expectedKeySize = 0 ∨ expectedKeySize.toNat ≠ k.data.length) vb2ErrorUnpackKeySize
  let data := Mem.ofList k.data
  let arrsize := le32 data 0
  reject (arrsize.toUInt64 * 4 ≠ (vb2RsaSigSize sigAlg).toUInt64) vb2ErrorUnpackKeyArraySize
  let bytes := 4 * arrsize.toNat
  pure
    { arrsize
      n0inv := le32 data 4
      n := words ⟨data, 8⟩ bytes
      rr := words ⟨data, 8 + bytes⟩ bytes
      sigAlg
      hashAlg }

variable {m : Mem} {n i : Nat} {size : UInt32} {wb : Vb2Workbuf}

theorem le32_ofList_load {a : Nat} (h : i + 4 ≤ n) : le32 (Mem.ofList (m.load a n)) i = le32 m (a + i) :=
  le32_congr fun j hj => by
    rw [Mem.ofList, Mem.getD_load m a n (i + j) 0 (by omega), Nat.add_assoc]

theorem words_ofList_load {a size : Nat} (h : i + size ≤ n) :
    words ⟨Mem.ofList (m.load a n), i⟩ size = words ⟨m, a + i⟩ size := by
  apply List.map_congr_left
  intro j hj
  have hj' : 4 * j + 4 ≤ size := by
    have hlt := List.mem_range.mp hj
    omega
  change le32 _ (i + 4 * j) = le32 m (a + i + 4 * j)
  rw [le32_ofList_load (by omega), Nat.add_assoc]

theorem vb2PackedKeySize_eq {alg : Vb2SignatureAlgorithm} (h : vb2PackedKeySize alg ≠ 0) :
    (vb2PackedKeySize alg).toNat = 2 * (vb2RsaSigSize alg).toNat + 8 := by
  cases alg with
  | invalid | none => exact absurd rfl h
  | rsa1024 | rsa2048 | rsa4096 | rsa8192 => rfl

theorem four_mul_of_eq {a b : UInt32} (h : a.toUInt64 * 4 = b.toUInt64) : 4 * a.toNat = b.toNat := by
  have hn := congrArg UInt64.toNat h
  have hfour : (4 : UInt64).toNat = 4 := rfl
  have hlt := a.toNat_lt
  rw [UInt64.toNat_mul, UInt32.toNat_toUInt64, UInt32.toNat_toUInt64, hfour] at hn
  omega

theorem vb2UnpackKey_eq {buf : UInt64} (hin : vb2VerifyPackedKeyInside m buf size buf = .ok ())
    (haligned : vb2Aligned (vb2PackedKeyData m buf) 4 = true) :
    vb2UnpackKey m buf size = unpackContents (keyContents m buf) := by
  rw [vb2UnpackKey, hin, unpackContents]
  refine reject_bind_congr Iff.rfl fun _ => reject_bind_congr Iff.rfl fun _ => ?_
  refine reject_bind_congr (or_congr_right (not_congr ?_)) fun hsize => ?_
  · rw [keyContents, Mem.length_load]
    exact UInt32.toNat_inj.symm
  rw [reject_bind_of_not (not_not.mpr haligned)]
  obtain ⟨hpos, hkeySize⟩ := not_or.mp hsize
  have hbytes := (congrArg UInt32.toNat (not_not.mp hkeySize)).symm.trans (vb2PackedKeySize_eq hpos)
  have hdata {i : Nat} (hi : i + 4 ≤ (keySize m buf).toNat) :
      le32 (Mem.ofList (keyContents m buf).data) i = le32 m ((vb2PackedKeyData m buf).toNat + i) :=
    le32_ofList_load hi
  have harr : le32 (Mem.ofList (keyContents m buf).data) 0 = le32 m (vb2PackedKeyData m buf).toNat :=
    hdata (by omega)
  dsimp only
  rw [harr]
  refine reject_bind_congr Iff.rfl fun hsig => ?_
  have hsig' := four_mul_of_eq (not_not.mp hsig)
  have hn : words ⟨Mem.ofList (keyContents m buf).data, 8⟩
      (4 * (le32 m (vb2PackedKeyData m buf).toNat).toNat) = _ := words_ofList_load (by omega)
  have hrr : words ⟨Mem.ofList (keyContents m buf).data, 8 + 4 * (le32 m (vb2PackedKeyData m buf).toNat).toNat⟩
      (4 * (le32 m (vb2PackedKeyData m buf).toNat).toNat) = _ := words_ofList_load (by omega)
  rw [hdata (i := 4) (by omega), hn, hrr, Nat.add_assoc]
  rfl

/-- The places of the two keys: the fields that are written first are below the key that is read. -/
structure CopyPlaces (m : Mem) (keyData dataKey : UInt64) : Prop where
  offset : 32 ≤ (keyOffset m keyData).toNat
  target : keyData.toNat + (keyOffset m keyData).toNat < 2 ^ 64
  header : keyData.toNat + 32 ≤ dataKey.toNat
  source : keyData.toNat + 32 ≤ (vb2PackedKeyData m dataKey).toNat

section
variable {m : Mem} {keyData dataKey : UInt64}

/-- The memory with the fields of the key copied, before its data. -/
def fieldsCopied (m : Mem) (keyData dataKey : UInt64) : Mem :=
  ((m.store (keyData.toNat + 16) (leBytes32 (Vb2PackedKey.algorithm m dataKey))).store
    (keyData.toNat + 24) (leBytes32 (Vb2PackedKey.keyVersion m dataKey))).store
    (keyData.toNat + 8) (leBytes32 (keySize m dataKey))

variable (h : CopyPlaces m keyData dataKey)
include h

theorem copyDataKey_eq :
    ∃ m' : Mem, copyDataKey m keyData dataKey =
        m'.store (keyData.toNat + (keyOffset m keyData).toNat)
          (m.load (vb2PackedKeyData m dataKey).toNat (keySize m dataKey).toNat) ∧
      (∀ x, x < keyData.toNat + 8 ∨ keyData.toNat + 28 ≤ x → m' x = m x) ∧
      Vb2PackedKey.algorithm m' keyData = Vb2PackedKey.algorithm m dataKey ∧
      Vb2PackedKey.keyVersion m' keyData = Vb2PackedKey.keyVersion m dataKey ∧
      keySize m' keyData = keySize m dataKey := by
  have hheader := h.header
  -- a field of the data key is above everything that is written before it is read
  have hfield {q : Mem} (hq : ∀ x, x < keyData.toNat + 8 ∨ keyData.toNat + 28 ≤ x → q x = m x) (i : Nat) :
      le32 q (dataKey.toNat + i) = le32 m (dataKey.toNat + i) :=
    le32_congr fun j _ => hq _ (.inr (by omega))
  have hput {q : Mem} (hq : ∀ x, x < keyData.toNat + 8 ∨ keyData.toNat + 28 ≤ x → q x = m x) {i : Nat}
      (hi : 8 ≤ i ∧ i ≤ 24) (v : UInt32) (x : Nat) (hx : x < keyData.toNat + 8 ∨ keyData.toNat + 28 ≤ x) :
      q.store (keyData.toNat + i) (leBytes32 v) x = m x := by
    have hlen := length_leBytes32 v
    rw [Mem.store_outside _ _ _ _ (by omega)]
    exact hq x hx
  have h1 := hput (fun _ _ => rfl) (i := 16) (by decide) (Vb2PackedKey.algorithm m dataKey)
  have h2 := hput h1 (i := 24) (by decide) (Vb2PackedKey.keyVersion m dataKey)
  have h3 : ∀ x, _ → fieldsCopied m keyData dataKey x = m x := hput h2 (i := 8) (by decide) (keySize m dataKey)
  have hversion : Vb2PackedKey.keyVersion _ dataKey = Vb2PackedKey.keyVersion m dataKey := hfield h1 24
  have hsize : keySize _ dataKey = keySize m dataKey := hfield h2 8
  have hkeySize : keySize (fieldsCopied m keyData dataKey) keyData = keySize m dataKey := le32_store _ _ _
  refine ⟨fieldsCopied m keyData dataKey, ?_, h3, ?_, ?_, hkeySize⟩
  · rw [copyDataKey, hversion, hsize, ← fieldsCopied]
    generalize fieldsCopied m keyData dataKey = q at h3 hkeySize ⊢
    have hoffset : keyOffset q keyData = keyOffset m keyData :=
      le32_congr fun j hj => h3 _ (.inl (by omega))
    have hsource : vb2PackedKeyData q dataKey = vb2PackedKeyData m dataKey := by
      rw [vb2PackedKeyData, vb2PackedKeyData, keyOffset, keyOffset]
      exact congrArg (fun v => dataKey + UInt32.toUInt64 v) (hfield h3 0)
    have htarget : (vb2PackedKeyData q keyData).toNat =
        keyData.toNat + (keyOffset m keyData).toNat := by
      rw [vb2PackedKeyData, hoffset, toNat_add_offset h.target]
    rw [htarget, hsource, hkeySize]
    exact congrArg (Mem.store q _) (Mem.load_congr fun j _ => h3 _ (.inr (by have := h.source; omega)))
  · rw [Vb2PackedKey.algorithm, fieldsCopied, le32_store_disjoint _ _ _ _ (by rw [length_leBytes32]; omega),
      le32_store_disjoint _ _ _ _ (by rw [length_leBytes32]; omega), le32_store]
  · rw [Vb2PackedKey.keyVersion, fieldsCopied, le32_store_disjoint _ _ _ _ (by rw [length_leBytes32]; omega), le32_store]

omit h in
theorem vb2PackedKeyData_toNat (h : keyData.toNat + (keyOffset m keyData).toNat < 2 ^ 64) :
    (vb2PackedKeyData m keyData).toNat = keyData.toNat + (keyOffset m keyData).toNat :=
  toNat_add_offset h

/-- The key at some address is the same in two memories. -/
structure SameKeyAt (m m' : Mem) (key : UInt64) : Prop where
  offset : keyOffset m' key = keyOffset m key
  size : keySize m' key = keySize m key
  pointer : vb2PackedKeyData m' key = vb2PackedKeyData m key
  contents : keyContents m' key = keyContents m key

omit h in
theorem sameKeyAt_of_bytes {m' : Mem} {key : UInt64} (hheader : ∀ i < 32, m' (key.toNat + i) = m (key.toNat + i))
    (hdata : ∀ i < (keySize m key).toNat,
      m' ((vb2PackedKeyData m key).toNat + i) = m ((vb2PackedKeyData m key).toNat + i)) :
    SameKeyAt m m' key := by
  have hfield (i : Nat) (hi : i + 4 ≤ 32) : le32 m' (key.toNat + i) = le32 m (key.toNat + i) :=
    le32_congr fun j hj => by
      rw [Nat.add_assoc]
      exact hheader (i + j) (by omega)
  have hoffset : keyOffset m' key = keyOffset m key := hfield 0 (by decide)
  have hsize : keySize m' key = keySize m key := hfield 8 (by decide)
  have hpointer : vb2PackedKeyData m' key = vb2PackedKeyData m key := by
    rw [vb2PackedKeyData, hoffset, vb2PackedKeyData]
  refine ⟨hoffset, hsize, hpointer, ?_⟩
  rw [keyContents, keyContents, KeyContents.mk.injEq, hpointer, hsize]
  exact ⟨hfield 16 (by decide), hfield 24 (by decide), Mem.load_congr hdata⟩

theorem copyDataKey_contents :
    keyContents (copyDataKey m keyData dataKey) keyData = keyContents m dataKey ∧
    keyOffset (copyDataKey m keyData dataKey) keyData = keyOffset m keyData ∧
    keySize (copyDataKey m keyData dataKey) keyData = keySize m dataKey := by
  obtain ⟨q, hq, hkeep, halgorithm, hversion, hsize⟩ := copyDataKey_eq h
  rw [hq]
  generalize hbytes : m.load (vb2PackedKeyData m dataKey).toNat (keySize m dataKey).toNat = bytes
  have hlen : bytes.length = (keySize m dataKey).toNat := by
    rw [← hbytes, Mem.length_load]
  -- the header of the copy is below its data
  have hfield {i : Nat} (hi : i + 4 ≤ 32) :
      le32 (q.store (keyData.toNat + (keyOffset m keyData).toNat) bytes) (keyData.toNat + i) =
        le32 q (keyData.toNat + i) :=
    le32_store_disjoint _ _ _ _ (.inl (by have := h.offset; omega))
  have hoffset : keyOffset
      (q.store (keyData.toNat + (keyOffset m keyData).toNat) bytes) keyData =
        keyOffset m keyData :=
    (hfield (i := 0) (by decide)).trans (le32_congr fun j hj => hkeep _ (.inl (by omega)))
  have hsize' : keySize
      (q.store (keyData.toNat + (keyOffset m keyData).toNat) bytes) keyData =
        keySize m dataKey := (hfield (by decide)).trans hsize
  refine ⟨?_, hoffset, hsize'⟩
  have halgorithm' := (hfield (i := 16) (by decide)).trans halgorithm
  have hversion' := (hfield (i := 24) (by decide)).trans hversion
  rw [keyContents, keyContents, hsize', hbytes, vb2PackedKeyData_toNat (by rw [hoffset]; exact h.target),
    hoffset, Mem.load_store _ _ _ _ hlen, Vb2PackedKey.algorithm, halgorithm', Vb2PackedKey.keyVersion,
    hversion']

theorem copyDataKey_byte {x : Nat} (hx : keyData.toNat + 28 ≤ x) :
    copyDataKey m keyData dataKey x =
      if keyData.toNat + (keyOffset m keyData).toNat ≤ x ∧
          x < keyData.toNat + (keyOffset m keyData).toNat +
            (keySize m dataKey).toNat then
        m ((vb2PackedKeyData m dataKey).toNat +
          (x - (keyData.toNat + (keyOffset m keyData).toNat)))
      else m x := by
  obtain ⟨q, hq, hkeep, -⟩ := copyDataKey_eq h
  rw [hq]
  split_ifs with hin
  · obtain ⟨i, hi⟩ : ∃ i, x = keyData.toNat + (keyOffset m keyData).toNat + i :=
      ⟨x - (keyData.toNat + (keyOffset m keyData).toNat), by omega⟩
    have hlt : i < (keySize m dataKey).toNat := by omega
    rw [hi, Mem.store_inside _ _ _ _ 0 (by rw [Mem.length_load]; exact hlt), Mem.getD_load _ _ _ _ _ hlt]
    congr 1
    omega
  · rw [Mem.store_outside _ _ _ _ (by rw [Mem.length_load]; omega)]
    exact hkeep x (.inr hx)

end

section
variable {align : UInt32} {hash : Vb2HashAlgorithm → List UInt8 → List UInt8} {ex : Vb2Ex}

variable {m m₁ m₂ : Mem} {size : UInt32} {ctx : Vb2Context} {keyData kb : UInt64} {rootKey : Vb2PublicKey}
  {wb : Vb2Workbuf} {key : Vb2PublicKey}

theorem vb2UnpackKey_ok {buf : UInt64} (h : vb2UnpackKey m buf size = .ok key) :
    vb2VerifyPackedKeyInside m buf size buf = .ok () ∧ 0 < (keySize m buf).toNat ∧
      vb2Aligned (vb2PackedKeyData m buf) 4 = true ∧
      4 * key.arrsize.toNat = (vb2RsaSigSize key.sigAlg).toNat := by
  obtain ⟨_, hin, h⟩ := bind_eq_ok.mp h
  simp only [reject_bind_eq_ok] at h
  obtain ⟨-, -, hsize, haligned, harr, h⟩ := h
  obtain ⟨hpos, hkeySize⟩ := not_or.mp hsize
  refine ⟨hin, ?_, not_not.mp haligned, ?_⟩
  · have hbytes := (congrArg UInt32.toNat (not_not.mp hkeySize)).symm.trans (vb2PackedKeySize_eq hpos)
    omega
  · cases h
    exact four_mul_of_eq (not_not.mp harr)

theorem vb2UnpackKey_of_same {m' : Mem} {buf : UInt64}
    (h : vb2UnpackKey m buf size = .ok key)
    (hsame : ∀ i < size.toNat, m' (buf.toNat + i) = m (buf.toNat + i)) : vb2UnpackKey m' buf size = .ok key := by
  obtain ⟨hin, -, haligned, -⟩ := vb2UnpackKey_ok h
  obtain ⟨haddr, hheader, -, hend⟩ := vb2VerifyPackedKeyInside_self.mp hin
  have hdata := @vb2PackedKeyData_toNat m buf (by omega)
  have hkey : SameKeyAt m m' buf := by
    refine sameKeyAt_of_bytes (fun i hi => hsame i (by omega)) fun i hi => ?_
    rw [hdata, Nat.add_assoc]
    exact hsame _ (by omega)
  have hin' : vb2VerifyPackedKeyInside m' buf size buf = .ok () := by
    rw [vb2VerifyPackedKeyInside, hkey.offset, hkey.size]
    exact hin
  rw [vb2UnpackKey_eq hin' (by rw [hkey.pointer]; exact haligned), hkey.contents, ← vb2UnpackKey_eq hin haligned, h]

/-- The root key is at the start of the free space, and its own data is inside. -/
structure RootPlaced (align : UInt32) (ctx : Vb2Context) (keyData : UInt64) (wb : Vb2Workbuf) (m : Mem) :
    Prop where
  start : keyData = (vb2WorkbufFromCtx align ctx).buf
  space : (wbRoundUp align ctx.sd.gbbRootkeySize).toNat ≤ (vb2WorkbufFromCtx align ctx).size.toNat
  rest : wb.buf = keyData + (wbRoundUp align ctx.sd.gbbRootkeySize).toUInt64
  restSize : wb.size.toNat =
    (vb2WorkbufFromCtx align ctx).size.toNat - (wbRoundUp align ctx.sd.gbbRootkeySize).toNat
  address : keyData.toNat + ctx.sd.gbbRootkeySize.toNat < 2 ^ 64
  offset : 32 ≤ (keyOffset m keyData).toNat
  data : (keyOffset m keyData).toNat + (keySize m keyData).toNat ≤
    ctx.sd.gbbRootkeySize.toNat

theorem RootKeyRead.placed (h : RootKeyRead align ex ctx keyData rootKey wb m) :
    RootPlaced align ctx keyData wb m := by
  obtain ⟨hle, hstart, hwb⟩ := vb2WorkbufAlloc_ok.mp h.space
  obtain ⟨hin, hpos, -, -⟩ := vb2UnpackKey_ok h.key
  obtain ⟨haddr, -, hoffset, hdata⟩ := vb2VerifyPackedKeyInside_self.mp hin
  refine ⟨hstart, UInt32.le_iff_toNat_le.mp hle, ?_, ?_, haddr, hoffset hpos, hdata⟩
  · rw [hwb, hstart]
  · rw [hwb]
    exact UInt32.toNat_sub_of_le _ _ hle

/-- Where the parts of a keyblock lie that passed the checks. -/
structure KeyblockBounds (m : Mem) (kb : UInt64) (size : UInt32) : Prop where
  address : kb.toNat + (keyblockSize m kb).toNat < 2 ^ 64
  size : (keyblockSize m kb).toNat ≤ size.toNat
  header : 112 ≤ (keyblockSize m kb).toNat
  sigOffset : 0 < (Vb2Signature.sigSize m (keyblockSignature kb)).toNat →
    24 ≤ (Vb2Signature.sigOffset m (keyblockSignature kb)).toNat
  sigEnd : 24 + (Vb2Signature.sigOffset m (keyblockSignature kb)).toNat +
    (Vb2Signature.sigSize m (keyblockSignature kb)).toNat ≤
      (keyblockSize m kb).toNat
  keyEnd : 80 + (keyOffset m (dataKey kb)).toNat +
    (keySize m (dataKey kb)).toNat ≤ (keyblockSize m kb).toNat

theorem keyblockBounds_of_ok (h : vb2CheckKeyblock m kb size (keyblockSignature kb) = .ok ()) :
    KeyblockBounds m kb size := by
  simp only [vb2CheckKeyblock, reject_bind_eq_ok, reject_eq_ok, not_not] at h
  obtain ⟨-, -, -, hsize, hsig, -, -, hkey, -⟩ := h
  obtain ⟨haddr, -, hoffset, hend⟩ := vb2VerifySignatureInside_ok.mp hsig
  obtain ⟨-, hheader, -, hkeyEnd⟩ := vb2VerifyPackedKeyInside_ok.mp hkey
  have h24 : (24 : UInt64).toNat = 24 := rfl
  have h80 : (80 : UInt64).toNat = 80 := rfl
  rw [h24] at hend
  rw [h80] at hheader hkeyEnd
  exact ⟨haddr, UInt32.le_iff_toNat_le.mp (UInt32.not_lt.mp hsize), by omega, hoffset, hend, hkeyEnd⟩

/-- The signature of a keyblock is not over the data key. -/
def SignatureApart (m : Mem) (kb : UInt64) : Prop :=
  let start := 24 + (Vb2Signature.sigOffset m (keyblockSignature kb)).toNat
  let key := 80 + (keyOffset m (dataKey kb)).toNat
  112 ≤ start ∧
    (key + (keySize m (dataKey kb)).toNat ≤ start ∨
      start + (Vb2Signature.sigSize m (keyblockSignature kb)).toNat ≤ key)

/-- A keyblock that was verified has its power in the place of its signature. -/
structure KeyblockChecked (m₁ m₂ : Mem) (kb : UInt64) (size : UInt32) : Prop where
  bounds : KeyblockBounds m₁ kb size
  below : ∀ x < kb.toNat + 24 + (Vb2Signature.sigOffset m₁ (keyblockSignature kb)).toNat,
    m₂ x = m₁ x
  above : ∀ x ≥ kb.toNat + 24 + (Vb2Signature.sigOffset m₁ (keyblockSignature kb)).toNat +
    (Vb2Signature.sigSize m₁ (keyblockSignature kb)).toNat, m₂ x = m₁ x
  sigOffset : 24 ≤ (Vb2Signature.sigOffset m₁ (keyblockSignature kb)).toNat

theorem keyblockChecked_of_ok
    (hkey : 4 * key.arrsize.toNat = (vb2RsaSigSize key.sigAlg).toNat)
    (h : vb2VerifyKeyblock align hash kb size key wb m₁ = (.ok (), m₂)) :
    KeyblockChecked m₁ m₂ kb size := by
  obtain ⟨hcheck, hdata⟩ := vb2VerifyKeyblock_ok.mp h
  have hbounds := keyblockBounds_of_ok hcheck
  obtain ⟨-, -, -, hdigest⟩ := vb2VerifyData_ok.mp hdata
  obtain ⟨hsize, hrsa, hm₂⟩ := vb2VerifyDigest_ok.mp hdigest
  have hsizeNat := congrArg UInt32.toNat hsize
  have hpos := rsaVerify_pos hrsa
  have hlen := @length_rsaVerify_le align key hkey m₁ (keyblockSignature kb)
    (hash key.hashAlg (m₁.load kb.toNat
      (Vb2Signature.dataSize m₁ (keyblockSignature kb)).toNat))
    (digestWorkbuf align key.hashAlg wb)
  have haddr := hbounds.address
  have hend := hbounds.sigEnd
  have h24 : (24 : UInt64).toNat = 24 := rfl
  have hsig : (keyblockSignature kb).toNat = kb.toNat + 24 := by
    rw [keyblockSignature, toNat_add_of_inside haddr (by omega), h24]
  have hsigData : (vb2SignatureData m₁ (keyblockSignature kb)).toNat =
      kb.toNat + 24 + (Vb2Signature.sigOffset m₁ (keyblockSignature kb)).toNat := by
    rw [vb2SignatureData, toNat_add_offset (by omega), hsig]
  rw [hsigData] at hm₂
  rw [← hsizeNat] at hlen hpos
  refine ⟨hbounds, fun x hx => ?_, fun x hx => ?_, hbounds.sigOffset hpos⟩
  · rw [hm₂]
    exact Mem.store_of_lt _ _ _ _ hx
  · rw [hm₂]
    exact Mem.store_of_ge _ _ _ _ (by omega)

namespace KeyblockChecked
variable {m₁ m₂ : Mem} {kb : UInt64} {size : UInt32}

variable (h : KeyblockChecked m₁ m₂ kb size)
include h

theorem dataKey_toNat :
    (dataKey kb).toNat = kb.toNat + 80 := by
  have haddr := h.bounds.address
  have hheader := h.bounds.header
  have h80 : (80 : UInt64).toNat = 80 := rfl
  rw [dataKey, toNat_add_of_inside haddr (by omega), h80]

theorem source_toNat :
    (vb2PackedKeyData m₁ (dataKey kb)).toNat =
      kb.toNat + 80 + (keyOffset m₁ (dataKey kb)).toNat := by
  have haddr := h.bounds.address
  have hend := h.bounds.keyEnd
  rw [vb2PackedKeyData_toNat (by rw [h.dataKey_toNat]; omega), h.dataKey_toNat]

theorem dataKey_same (hapart : SignatureApart m₁ kb) :
    SameKeyAt m₁ m₂ (dataKey kb) ∧
    ∀ i < (keySize m₁ (dataKey kb)).toNat,
      m₂ ((vb2PackedKeyData m₁ (dataKey kb)).toNat + i) =
        m₁ ((vb2PackedKeyData m₁ (dataKey kb)).toNat + i) := by
  obtain ⟨hheader, hdata⟩ := hapart
  have hkey := h.dataKey_toNat
  have hsource := h.source_toNat
  have hbytes : ∀ i < (keySize m₁ (dataKey kb)).toNat,
      m₂ ((vb2PackedKeyData m₁ (dataKey kb)).toNat + i) =
        m₁ ((vb2PackedKeyData m₁ (dataKey kb)).toNat + i) := by
    intro i hi
    cases hdata with
    | inl hbefore => exact h.below _ (by omega)
    | inr hafter => exact h.above _ (by omega)
  exact ⟨sameKeyAt_of_bytes (fun i hi => h.below _ (by omega)) hbytes, hbytes⟩

end KeyblockChecked

/-- No size wraps when it is rounded up to an allocation. -/
def SizesFit (align : UInt32) (ctx : Vb2Context) (size : UInt32) : Prop :=
  ctx.sd.gbbRootkeySize.toNat + align.toNat ≤ 2 ^ 32 ∧ size.toNat + align.toNat ≤ 2 ^ 32

/-- The move of the data key, to the given offset in a buffer that the keyblock follows after the given
number of bytes, leaves the size of the keyblock as it is: it ends before the size, or puts the same
bytes there. -/
def MoveSpares (m : Mem) (kb : UInt64) (offset round : Nat) : Prop :=
  ∀ i < 4, round + 16 + i < offset + (keySize m (dataKey kb)).toNat →
    m ((vb2PackedKeyData m (dataKey kb)).toNat + (round + 16 + i - offset)) = m (kb.toNat + 16 + i)

/-- The data key in the work buffer of a context has the given contents, and unpacks to them. -/
def KeySaved (ctx : Vb2Context) (k : KeyContents) : Prop :=
  let key := ctx.workbufAddr + ctx.sd.workbufDataKeyOffset.toUInt64
  keyContents ctx.workbuf key = k ∧
    vb2UnpackKey ctx.workbuf key ctx.sd.workbufDataKeySize = unpackContents k

theorem KeyblockLoaded.placed (h : KeyblockLoaded align hash ex rootKey wb ctx kb size m₁ m₂) :
    kb = wb.buf ∧ (wbRoundUp align size).toNat ≤ wb.size.toNat ∧ ∀ x < kb.toNat, m₁ x = ctx.workbuf x := by
  obtain ⟨kb₁, wb₁, wb₂, header, bytes, hspace, hspace₂, -, -, -, hm₁, -⟩ := h.loaded
  rw [vb2WorkbufRealloc_alloc hspace] at hspace₂
  obtain ⟨-, hkb₁, -⟩ := vb2WorkbufAlloc_ok.mp hspace
  obtain ⟨hle, hkb, -⟩ := vb2WorkbufAlloc_ok.mp hspace₂
  refine ⟨hkb, UInt32.le_iff_toNat_le.mp hle, fun x hx => ?_⟩
  rw [hm₁, Mem.store_of_lt _ _ _ _ hx, Mem.store_of_lt _ _ _ _ (by rw [hkb₁, ← hkb]; exact hx)]

/-- The root key and the keyblock behind it, in the work buffer. -/
structure Layout (align : UInt32) (ctx : Vb2Context) (keyData kb : UInt64) (size : UInt32) : Prop where
  start : ctx.workbufAddr.toNat ≤ keyData.toNat
  root : ctx.sd.gbbRootkeySize.toNat ≤ (wbRoundUp align ctx.sd.gbbRootkeySize).toNat
  block : kb.toNat = keyData.toNat + (wbRoundUp align ctx.sd.gbbRootkeySize).toNat
  finish : kb.toNat + size.toNat ≤ ctx.workbufAddr.toNat + ctx.workbufSize.toNat

theorem layout_of_loaded (ha : 0 < align.toNat) (hw : WorkbufValid ctx)
    (hroot : RootKeyRead align ex ctx keyData rootKey wb m)
    (hkb : KeyblockLoaded align hash ex rootKey wb { ctx with workbuf := m } kb size m₁ m₂)
    (hfit : SizesFit align ctx size) : Layout align ctx keyData kb size := by
  obtain ⟨hlow, hhigh⟩ := @vb2WorkbufFromCtx_inside align ctx hw
  obtain ⟨hblock, hspace, -⟩ := hkb.placed
  have hplaced := hroot.placed
  have hle := hplaced.space
  have hrest := hplaced.restSize
  have haddr := hw.address
  have hround := le_wbRoundUp ha hfit.1
  have hround' := le_wbRoundUp ha hfit.2
  rw [← hplaced.start] at hlow hhigh
  have hkbNat : kb.toNat = keyData.toNat + (wbRoundUp align ctx.sd.gbbRootkeySize).toNat := by
    rw [hblock, hplaced.rest, toNat_add_offset (by omega)]
  exact ⟨by omega, hround, hkbNat, by omega⟩

/-- The root key in memory m and the keyblock behind it, which is verified in memory m₁, with memory m₂
after that. -/
structure CopyReady (align : UInt32) (ctx : Vb2Context) (keyData kb : UInt64) (size : UInt32)
    (m m₁ m₂ : Mem) : Prop where
  layout : Layout align ctx keyData kb size
  checked : KeyblockChecked m₁ m₂ kb size
  apart : SignatureApart m₁ kb
  rootOffset : keyOffset m₂ keyData = keyOffset m keyData
  rootEnd : 32 ≤ (keyOffset m keyData).toNat ∧
    (keyOffset m keyData).toNat ≤ (wbRoundUp align ctx.sd.gbbRootkeySize).toNat
  aligned : vb2Aligned (vb2PackedKeyData m keyData) 4 = true

theorem copyReady_of_loaded (hroot : RootKeyRead align ex ctx keyData rootKey wb m)
    (hkb : KeyblockLoaded align hash ex rootKey wb { ctx with workbuf := m } kb size m₁ m₂)
    (hlayout : Layout align ctx keyData kb size) (hapart : SignatureApart m₁ kb) :
    CopyReady align ctx keyData kb size m m₁ m₂ := by
  obtain ⟨-, -, haligned, hkey⟩ := vb2UnpackKey_ok hroot.key
  obtain ⟨_, _, _, _, _, -, -, -, -, -, -, hverify⟩ := hkb.loaded
  obtain ⟨-, -, hbelow⟩ := hkb.placed
  have hchecked := keyblockChecked_of_ok hkey hverify
  have hoffset := hroot.placed.offset
  have hdata := hroot.placed.data
  have hround := hlayout.root
  have hblock := hlayout.block
  refine ⟨hlayout, hchecked, hapart, le32_congr fun i hi => ?_, ⟨hoffset, by omega⟩, haligned⟩
  rw [hchecked.below _ (by omega)]
  exact hbelow _ (by omega)

namespace CopyReady
variable {ctx : Vb2Context} {keyData kb : UInt64} {size : UInt32} {m m₁ m₂ : Mem}

section
variable (hw : WorkbufValid ctx) (h : CopyReady align ctx keyData kb size m m₁ m₂)
include hw h

theorem places : CopyPlaces m₂ keyData (dataKey kb) := by
  obtain ⟨hkey, -⟩ := h.checked.dataKey_same h.apart
  have hsource := h.checked.source_toNat
  have hdataKey := h.checked.dataKey_toNat
  have haddr := hw.address
  have hblock := h.layout.block
  have hfinish := h.layout.finish
  obtain ⟨hlow, hhigh⟩ := h.rootEnd
  refine ⟨?_, ?_, by omega, by rw [hkey.pointer]; omega⟩
  · rw [h.rootOffset]
    exact hlow
  · rw [h.rootOffset]
    omega

variable {s : Vb2Context}

theorem keySaved (hs : s.workbuf = m₂ ∧ s.workbufAddr = ctx.workbufAddr) :
    KeySaved (saveDataKey keyData kb s) (keyContents m₁ (dataKey kb)) := by
  obtain ⟨hkey, -⟩ := h.checked.dataKey_same h.apart
  obtain ⟨hcopy, hcopyOffset, hcopySize⟩ := copyDataKey_contents (h.places hw)
  have haddr := hw.address
  have hstart := h.layout.start
  have hblock := h.layout.block
  have hfinish := h.layout.finish
  have hwsize := ctx.workbufSize.toNat_lt
  have hkeyEnd := h.checked.bounds.keyEnd
  have hkbSize := h.checked.bounds.size
  obtain ⟨hlow, hhigh⟩ := h.rootEnd
  have hkeyData := @add_vb2OffsetOf ctx.workbufAddr keyData hstart (by omega)
  rw [KeySaved, saveDataKey]
  dsimp only
  rw [hs.1, hs.2, hkeyData]
  rw [h.rootOffset] at hcopyOffset
  rw [hkey.size] at hcopySize
  generalize copyDataKey m₂ keyData (dataKey kb) = m₃ at hcopy hcopyOffset hcopySize ⊢
  -- the saved size does not wrap, because the root key and the keyblock are in the work buffer
  have hsum : (keyOffset m₃ keyData + keySize m₃ keyData).toNat =
      (keyOffset m keyData).toNat + (keySize m₁ (dataKey kb)).toNat := by
    rw [hcopyOffset, hcopySize, UInt32.toNat_add, Nat.mod_eq_of_lt (by omega)]
  have hinside := (@vb2VerifyPackedKeyInside_self m₃ keyData (keyOffset m₃ keyData + keySize m₃ keyData)).mpr (by
    rw [hsum, hcopyOffset, hcopySize]
    omega)
  have haligned : vb2Aligned (vb2PackedKeyData m₃ keyData) 4 = true := by
    rw [vb2PackedKeyData, hcopyOffset]
    exact h.aligned
  rw [vb2UnpackKey_eq hinside haligned, hcopy, hkey.contents]
  exact ⟨rfl, rfl⟩

theorem sizeByte (hi : i < 4) :
    copyDataKey m₂ keyData (dataKey kb) (kb.toNat + 16 + i) =
      if (wbRoundUp align ctx.sd.gbbRootkeySize).toNat + 16 + i <
          (keyOffset m keyData).toNat +
            (keySize m₁ (dataKey kb)).toNat then
        m₁ ((vb2PackedKeyData m₁ (dataKey kb)).toNat +
          ((wbRoundUp align ctx.sd.gbbRootkeySize).toNat + 16 + i -
            (keyOffset m keyData).toNat))
      else m₁ (kb.toNat + 16 + i) := by
  obtain ⟨hkey, hbytes⟩ := h.checked.dataKey_same h.apart
  have hblock := h.layout.block
  obtain ⟨hlow, hhigh⟩ := h.rootEnd
  rw [copyDataKey_byte (h.places hw) (by omega), h.rootOffset, hkey.size, hkey.pointer]
  by_cases hmoved : (wbRoundUp align ctx.sd.gbbRootkeySize).toNat + 16 + i <
      (keyOffset m keyData).toNat + (keySize m₁ (dataKey kb)).toNat
  · rw [if_pos hmoved, if_pos (by omega), ← hbytes _ (by omega)]
    congr 2
    omega
  · rw [if_neg hmoved, if_neg (by omega)]
    exact h.checked.below _ (by omega)

theorem preambleOffset (hs : s.workbuf = m₂) :
    (saveDataKey keyData kb s).sd.vblockPreambleOffset = keyblockSize m₁ kb ↔
      MoveSpares m₁ kb (keyOffset m keyData).toNat
        (wbRoundUp align ctx.sd.gbbRootkeySize).toNat := by
  change le32 (copyDataKey s.workbuf keyData (dataKey kb)) (kb.toNat + 16) =
    le32 m₁ (kb.toNat + 16) ↔ _
  rw [hs, le32_eq_iff, MoveSpares]
  refine forall₂_congr fun i hi => ?_
  rw [h.sizeByte hw hi]
  split_ifs with hmoved
  · exact ⟨fun he _ => he, fun he => he hmoved⟩
  · exact ⟨fun _ hx => absurd hx hmoved, fun _ => rfl⟩

theorem preambleOffset_moved
    (hmoved : (wbRoundUp align ctx.sd.gbbRootkeySize).toNat + 20 ≤ (keyOffset m keyData).toNat +
      (keySize m₁ (dataKey kb)).toNat) (hs : s.workbuf = m₂) :
    (saveDataKey keyData kb s).sd.vblockPreambleOffset =
      le32 m₁ ((vb2PackedKeyData m₁ (dataKey kb)).toNat +
        ((wbRoundUp align ctx.sd.gbbRootkeySize).toNat + 16 - (keyOffset m keyData).toNat)) := by
  obtain ⟨hlow, hhigh⟩ := h.rootEnd
  change le32 (copyDataKey s.workbuf keyData (dataKey kb)) (kb.toNat + 16) = _
  rw [hs]
  refine le32_congr fun i hi => ?_
  rw [h.sizeByte hw hi, if_pos (by omega)]
  congr 1
  omega

end

end CopyReady

end
deriving instance DecidableEq for Vb2PublicKey

def sampleKeyData (n : Nat) : List UInt8 :=
  leBytes32 (UInt32.ofNat n) ++ leBytes32 1 ++ List.replicate (4 * n) 0xff ++ 1 :: List.replicate (4 * n - 1) 0

def samplePackedKey (algorithm : UInt32) (data : List UInt8) : List UInt8 :=
  leBytes64 32 ++ leBytes64 (UInt64.ofNat data.length) ++ leBytes64 algorithm.toUInt64 ++ leBytes64 1 ++ data

def sampleKeyblock (algorithm : UInt32) (flags : UInt64) (data : List UInt8) : List UInt8 :=
  vb2KeyBlockMagic ++ [2, 0, 0, 0, 1, 0, 0, 0] ++ leBytes64 (UInt64.ofNat (240 + data.length)) ++
    leBytes64 (UInt64.ofNat (88 + data.length)) ++ leBytes64 128 ++ leBytes64 (UInt64.ofNat (112 + data.length)) ++
    List.replicate 24 0 ++ leBytes64 flags ++ samplePackedKey algorithm data ++ sampleSignature

def sampleEx (block : List UInt8) : Vb2Ex where
  readResource _ index _ _ := match index with
    | .gbb => .ok (Mem.ofList (samplePackedKey 0 (sampleKeyData 32)))
    | .fwVblock => .ok (Mem.ofList block)
    | .kernelVblock => .error 1
  tpmClearOwner _ := 0

def sampleContext : Vb2Context :=
  ⟨0, Vector.replicate _ 0, Vector.replicate _ 0, Vector.replicate _ 0,
    { Vb2SharedData.zero with gbbRootkeySize := 296 }, fun _ => 0, 0x10000, 0x4000, 128⟩

/-- The work buffer with the root key, and with a keyblock behind it. -/
def sampleRoot : Mem := Mem.store (fun _ => 0) 0x10080
  ((Mem.ofList (samplePackedKey 0 (sampleKeyData 32))).load 0 296)

def sampleLoaded (block : List UInt8) (size : Nat) : Mem :=
  (sampleRoot.store 0x101b0 ((Mem.ofList block).load 0 112)).store 0x101b0 ((Mem.ofList block).load 0 size)

theorem sampleRoot_unpacked : vb2UnpackKey sampleRoot 0x10080 296 = .ok sampleKey := by
  decide +kernel

theorem sampleRoot_read (block : List UInt8) :
    RootKeyRead 16 (sampleEx block) sampleContext 0x10080 sampleKey ⟨0x101b0, 0x3e50⟩ sampleRoot :=
  ⟨rfl, ⟨_, rfl, rfl⟩, sampleRoot_unpacked⟩

theorem sample_keyblock_verified {kb : UInt64}
    (hdigest : HasDigestSpace 16 .sha1 wb ∧ 384 ≤ (digestWorkbuf 16 .sha1 wb).size)
    (hcheck : vb2CheckKeyblock m kb size (keyblockSignature kb) = .ok ())
    (hdata : Vb2Signature.dataSize m (keyblockSignature kb) ≤ size ∧
      Vb2Signature.sigSize m (keyblockSignature kb) = 128)
    (hsig : m.load (vb2SignatureData m (keyblockSignature kb)).toNat 128 = sampleSignature)
    (hsum : sumHash .sha1 (m.load kb.toNat
      (Vb2Signature.dataSize m (keyblockSignature kb)).toNat) = sampleDigest) :
    ∃ m₂, vb2VerifyKeyblock 16 sumHash kb size sampleKey wb m = (.ok (), m₂) := by
  obtain ⟨m₂, h, -⟩ := sample_data_verified kb wb hdata hdigest hsig hsum sampleSignature_rsa
  exact ⟨m₂, vb2VerifyKeyblock_ok.mpr ⟨hcheck, h⟩⟩

theorem load_sampleLoaded (block : List UInt8) {k : Nat} (h : i + k ≤ n) (hn : n ≤ block.length) :
    (sampleLoaded block n).load (0x101b0 + i) k = (block.drop i).take k := by
  rw [← Mem.load_ofList_of_le block (by omega)]
  refine Mem.load_congr fun j hj => ?_
  rw [Nat.add_assoc, sampleLoaded, Mem.store_inside _ _ _ _ 0 (by rw [Mem.length_load]; omega),
    Mem.getD_load _ _ _ _ _ (by omega), Nat.zero_add]

variable {block : List UInt8}

theorem sample_keyblock_loaded {size signed : UInt32} {wb : Vb2Workbuf}
    (hsize : keyblockSize (sampleRoot.store 0x101b0 ((Mem.ofList block).load 0 112)) 0x101b0 = size)
    (hspace : vb2WorkbufAlloc 16 ⟨0x101b0, 0x3e50⟩ size = (some 0x101b0, wb))
    (hdigest : HasDigestSpace 16 .sha1 wb ∧ 384 ≤ (digestWorkbuf 16 .sha1 wb).size)
    (hcheck : vb2CheckKeyblock (sampleLoaded block size.toNat) 0x101b0 size 0x101c8 = .ok ())
    (hdata : Vb2Signature.dataSize (sampleLoaded block size.toNat) 0x101c8 = signed ∧
      Vb2Signature.sigSize (sampleLoaded block size.toNat) 0x101c8 = 128 ∧
      (vb2SignatureData (sampleLoaded block size.toNat) 0x101c8).toNat = 0x101b0 + signed.toNat)
    (hroom : signed.toNat + 128 ≤ size.toNat ∧ size.toNat ≤ block.length)
    (hsig : (block.drop signed.toNat).take 128 = sampleSignature)
    (hsum : sumHash .sha1 (block.take signed.toNat) = sampleDigest) :
    ∃ m₂, KeyblockLoaded 16 sumHash (sampleEx block) sampleKey ⟨0x101b0, 0x3e50⟩
      { sampleContext with workbuf := sampleRoot } 0x101b0 size (sampleLoaded block size.toNat) m₂ := by
  have hfirst : vb2WorkbufAlloc 16 ⟨0x101b0, 0x3e50⟩ vb2KeyblockHeaderSize = (some 0x101b0, ⟨0x10220, 0x3de0⟩) := rfl
  obtain ⟨m₂, h⟩ := sample_keyblock_verified hdigest hcheck
    ⟨by rw [show Vb2Signature.dataSize _ (keyblockSignature 0x101b0) = _ from hdata.1]
        exact UInt32.le_iff_toNat_le.mpr (by omega), hdata.2.1⟩
    (by
      rw [show (vb2SignatureData _ (keyblockSignature 0x101b0)).toNat = _ from hdata.2.2,
        load_sampleLoaded block hroom.1 hroom.2]
      exact hsig)
    (by
      rw [show Vb2Signature.dataSize _ (keyblockSignature 0x101b0) = _ from hdata.1]
      exact (congrArg (sumHash .sha1) (load_sampleLoaded block (i := 0) (by omega) hroom.2)).trans hsum)
  refine ⟨m₂, 0x101b0, ⟨0x10220, 0x3de0⟩, wb, Mem.ofList block, Mem.ofList block, hfirst, ?_, rfl, hsize, rfl,
    rfl, h⟩
  rw [vb2WorkbufRealloc_alloc hfirst]
  exact hspace

theorem sample_keyblock_run {m₂ : Mem}
    (hkb : KeyblockLoaded 16 sumHash (sampleEx block) sampleKey ⟨0x101b0, 0x3e50⟩
      { sampleContext with workbuf := sampleRoot } 0x101b0 size (sampleLoaded block size.toNat) m₂)
    (hready : CopyReady 16 sampleContext 0x10080 0x101b0 size sampleRoot (sampleLoaded block size.toNat) m₂)
    (hversion : Vb2PackedKey.keyVersion (sampleLoaded block size.toNat) 0x10200 = 1) :
    ∃ s : Vb2Context, s.workbuf = m₂ ∧ s.workbufAddr = 0x10000 ∧
      vb2LoadFwKeyblock 16 sumHash (sampleEx block) sampleContext =
        (.ok (), saveDataKey 0x10080 0x101b0 s) := by
  obtain ⟨hkey, -⟩ := hready.checked.dataKey_same hready.apart
  have hversion₂ : Vb2PackedKey.keyVersion m₂ (dataKey 0x101b0) = 1 :=
    (congrArg KeyContents.keyVersion hkey.contents).trans hversion
  refine ⟨_, rfl, rfl, vb2LoadFwKeyblock_iff.mpr ⟨0x10080, sampleKey, ⟨0x101b0, 0x3e50⟩, sampleRoot, 0x101b0,
    size, sampleLoaded block size.toNat, m₂, sampleRoot_read block, hkb, ?_, rfl⟩⟩
  rw [hversion₂]
  decide

theorem sampleContext_valid : WorkbufValid sampleContext := ⟨by decide, by decide⟩

/-- A data key of 2048 bits under a root key of 1024 bits. -/
def largeBlock : List UInt8 := sampleKeyblock 3 215 (sampleKeyData 64)

variable {ctx : Vb2Context}

theorem RootKeyRead.unique {align : UInt32} {ex : Vb2Ex} {k k' : UInt64}
    {r r' : Vb2PublicKey} {wb' : Vb2Workbuf} {m' : Mem} (h : RootKeyRead align ex ctx k r wb m)
    (h' : RootKeyRead align ex ctx k' r' wb' m') : k' = k ∧ r' = r ∧ wb' = wb ∧ m' = m := by
  cases h.space.symm.trans h'.space
  obtain ⟨bytes, hbytes, rfl⟩ := h.read
  obtain ⟨bytes', hbytes', rfl⟩ := h'.read
  cases hbytes.symm.trans hbytes'
  exact ⟨rfl, Except.ok.inj (h'.key.symm.trans h.key), rfl, rfl⟩

theorem KeyblockLoaded.unique {align : UInt32} {hash : Vb2HashAlgorithm → List UInt8 → List UInt8}
    {ex : Vb2Ex} {key : Vb2PublicKey} {kb kb' : UInt64} {size' : UInt32}
    {m₁ m₁' m₂ m₂' : Mem} (h : KeyblockLoaded align hash ex key wb ctx kb size m₁ m₂)
    (h' : KeyblockLoaded align hash ex key wb ctx kb' size' m₁' m₂') :
    kb' = kb ∧ size' = size ∧ m₁' = m₁ := by
  obtain ⟨p, wb₁, wb₂, header, bytes, hspace, hspace₂, hheader, rfl, hbytes, rfl, -⟩ := h.loaded
  obtain ⟨p', wb₁', wb₂', header', bytes', hspace', hspace₂', hheader', rfl, hbytes', rfl, -⟩ := h'.loaded
  cases hspace.symm.trans hspace'
  cases hheader.symm.trans hheader'
  cases hspace₂.symm.trans hspace₂'
  cases hbytes.symm.trans hbytes'
  exact ⟨rfl, rfl, rfl⟩

end Vboot.Vb2
