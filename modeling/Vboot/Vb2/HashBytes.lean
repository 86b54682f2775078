import Vboot.Lib.Reading
import Vboot.Vb2.Digest
import Vboot.Vb2.Window

/-! Which bytes vb2_verify_keyblock_hash of firmware/lib20/kernel.c reads. The declared size of the hash is
checked, but 64 bytes are compared. -/
namespace Vboot.Vb2
open Vboot.Lib Vboot.Lib.Program

/-- vb2_check_keyblock with its reads. -/
def vb2CheckKeyblockReads (block : UInt64) (size : UInt32) (sig : UInt64) : Reading UInt32 Unit := do
  let dataKey := Vb2Keyblock.dataKey block
  .refuse (size < vb2KeyblockHeaderSize) vb2ErrorKeyblockTooSmallForHeader
  let magic ← .bytesAt block.toNat 8
  .refuse (magic ≠ vb2KeyBlockMagic) vb2ErrorKeyblockMagic
  let major ← .word32 (block.toNat + 8)
  .refuse (major ≠ vb2KeyBlockHeaderVersionMajor) vb2ErrorKeyblockHeaderVersion
  let keyblockSize ← .word32 (block.toNat + 16)
  .refuse (size < keyblockSize) vb2ErrorKeyblockSize
  let sigOffset ← .word32 sig.toNat
  let sigSize ← .word32 (sig.toNat + 8)
  .refuse (vb2VerifyMemberInside block keyblockSize.toUInt64 sig vb2SignatureHeaderSize.toUInt64
    sigOffset.toUInt64.toInt64 sigSize.toUInt64 ≠ .ok ⟨⟩) vb2ErrorKeyblockSigOutside
  let dataSize ← .word32 (sig.toNat + 16)
  .refuse (keyblockSize < dataSize) vb2ErrorKeyblockSignedTooMuch
  .refuse (dataSize < vb2KeyblockHeaderSize) vb2ErrorKeyblockSignedTooLittle
  let keyOffset ← .word32 dataKey.toNat
  let keySize ← .word32 (dataKey.toNat + 8)
  .refuse (vb2VerifyMemberInside block keyblockSize.toUInt64 dataKey vb2PackedKeyHeaderSize.toUInt64
    keyOffset.toUInt64.toInt64 keySize.toUInt64 ≠ .ok ⟨⟩) vb2ErrorKeyblockDataKeyOutside
  .refuse (vb2VerifyMemberInside block dataSize.toUInt64 dataKey vb2PackedKeyHeaderSize.toUInt64
    keyOffset.toUInt64.toInt64 keySize.toUInt64 ≠ .ok ⟨⟩) vb2ErrorKeyblockDataKeyUnsigned

section
variable (align : UInt32) (hash : Vb2HashAlgorithm → List UInt8 → List UInt8)

/-- vb2_verify_keyblock_hash with its reads. -/
def vb2VerifyKeyblockHashReads (block : UInt64) (size : UInt32) (wb : Vb2Workbuf) : Reading UInt32 Unit := do
  let sig := Vb2Keyblock.keyblockHash block
  vb2CheckKeyblockReads block size sig
  let digestSize := vb2DigestSize .sha512
  let (digest, wb) := vb2WorkbufAlloc align wb digestSize
  .refuse (digest = none) vb2ErrorVdataWorkbufDigest
  let (dc, _) := vb2WorkbufAlloc align wb vb2DigestContextSize
  .refuse (dc = none) vb2ErrorVdataWorkbufHashing
  let dataSize ← .word32 (sig.toNat + 16)
  let data ← .bytesAt block.toNat dataSize.toNat
  let sigOffset ← .word32 sig.toNat
  let stored ← .bytesAt (sig + sigOffset.toUInt64).toNat digestSize.toNat
  .refuse (stored ≠ hash .sha512 data) vb2ErrorKeyblockSigInvalid

end

section
variable {align : UInt32} {hash : Vb2HashAlgorithm → List UInt8 → List UInt8} {m : Mem} {block : UInt64}
  {size : UInt32}

theorem vb2CheckKeyblockReads_result (sig : UInt64) :
    (vb2CheckKeyblockReads block size sig).result m = vb2CheckKeyblock m block size sig := by
  simp only [vb2CheckKeyblockReads, Reading.result_bind, Reading.result_refuse, Reading.result_bytesAt,
    Reading.result_word32]
  rfl

/-- The computation with its reads is the one of the source. -/
theorem vb2VerifyKeyblockHashReads_result (wb : Vb2Workbuf) :
    (vb2VerifyKeyblockHashReads align hash block size wb).result m =
      (vb2VerifyKeyblockHash align hash block size wb m).1 := by
  simp only [vb2VerifyKeyblockHashReads, Reading.result_bind, Reading.result_refuse, Reading.result_bytesAt,
    Reading.result_word32, vb2CheckKeyblockReads_result]
  rfl

def InBlock (block : UInt64) (n : Nat) (a : Access) : Prop :=
  block.toNat ≤ a.start ∧ a.start + a.size ≤ block.toNat + n

/-- The fields of the header that are looked at are inside the keyblock. They are looked at as far as the
checks come. -/
structure HeaderInside (w : Mem) (size : Nat) : Prop where
  magic : 112 ≤ size → 8 ≤ fieldAt w 16
  major : 112 ≤ size → w.load 0 8 = vb2KeyBlockMagic → 12 ≤ fieldAt w 16
  signature : 112 ≤ size → w.load 0 8 = vb2KeyBlockMagic → le32 w 8 = vb2KeyBlockHeaderVersionMajor →
    60 ≤ fieldAt w 16

theorem vb2CheckKeyblockReads_only (haddr : block.toNat + size.toNat < 2 ^ 64) :
    (vb2CheckKeyblockReads block size (block + 48)).Only m
        (InBlock block (fieldAt (m.window block.toNat) 16)) ↔
      HeaderInside (m.window block.toNat) size.toNat := by
  have h112 : vb2KeyblockHeaderSize.toNat = 112 := rfl
  have h48 : (48 : UInt64).toNat = 48 := rfl
  have h80 : (80 : UInt64).toNat = 80 := rfl
  have hsize : fieldAt (m.window block.toNat) 16 = (le32 m (block.toNat + 16)).toNat := by
    rw [fieldAt, le32_window]
  have hmagic : (m.window block.toNat).load 0 8 = m.load block.toNat 8 := Mem.load_window m _ 0 8
  have hmajor : le32 (m.window block.toNat) 8 = le32 m (block.toNat + 8) := le32_window m _ 8
  have hsig (hs : 112 ≤ size.toNat) : (block + 48).toNat = block.toNat + 48 := by
    rw [toNat_add_of_inside haddr (by omega), h48]
  simp only [vb2CheckKeyblockReads, Reading.only_refuse_bind, Reading.only_bytesAt_bind,
    Reading.only_word32_bind, Reading.only_refuse, UInt32.lt_iff_toNat_lt, h112, InBlock, hsize, not_not,
    Nat.not_lt]
  constructor
  · intro h
    refine ⟨fun hs => ?_, fun hs hm => ?_, fun hs hm hv => ?_⟩
    · have h8 := (h hs).1.2
      omega
    · have h12 := ((h hs).2 (hmagic ▸ hm)).1.2
      omega
    · -- a keyblock that is larger than the buffer has all of the header
      obtain ⟨-, h60⟩ := ((h hs).2 (hmagic ▸ hm)).2 (hmajor ▸ hv)
      by_cases hle : (le32 m (block.toNat + 16)).toNat ≤ size.toNat
      · have h60 := (h60 hle).2.1.2
        rw [hsig hs] at h60
        omega
      · omega
  · intro h hs
    have h8 := h.magic hs
    refine ⟨by omega, fun hm => ?_⟩
    have h12 := h.major hs (hmagic.trans hm)
    refine ⟨by omega, fun hv => ?_⟩
    have h60 := h.signature hs (hmagic.trans hm) (hmajor.trans hv)
    have hkey : (Vb2Keyblock.dataKey block).toNat = block.toNat + 80 := by
      rw [Vb2Keyblock.dataKey, toNat_add_of_inside haddr (by omega), h80]
    have hsig := hsig hs
    refine ⟨by omega, fun hle => ⟨by omega, by omega, fun hin => ?_⟩⟩
    -- the signature is inside, and then so is the rest of what is read
    have hin : vb2VerifySignatureInside m block (le32 m (block.toNat + 16)) (block + 48) = .ok () := hin
    have h72 := ((vb2VerifySignatureInside_window (by rw [h48]; omega)).mp hin).2.header
    rw [h48] at h72
    exact ⟨by omega, fun hmuch henough => ⟨by omega, by omega, fun _ => trivial⟩⟩

theorem keyblockHashReads_rest {wb : Vb2Workbuf} (hspace : HasDigestSpace align .sha512 wb)
    (haddr : block.toNat + size.toNat < 2 ^ 64) (hsane : KeyblockSane (m.window block.toNat) size.toNat 48) :
    (vb2VerifyKeyblockHashReads align hash block size wb).Only m
        (InBlock block (fieldAt (m.window block.toNat) 16)) ↔
      (vb2CheckKeyblockReads block size (block + 48)).Only m
        (InBlock block (fieldAt (m.window block.toNat) 16)) ∧
      HashInside (m.window block.toNat) (fieldAt (m.window block.toNat) 16) := by
  have h48 : (48 : UInt64).toNat = 48 := rfl
  have h64 : (vb2DigestSize .sha512).toNat = 64 := rfl
  have hheader := hsane.header
  have hinside := hsane.inside
  have hmuch : fieldAt (m.window block.toNat) 64 ≤ fieldAt (m.window block.toNat) 16 := hsane.notTooMuch
  have hdata := hsane.signature.data
  have hat := hsane.sigAt (n := 48) haddr
  have hcheck : (vb2CheckKeyblockReads block size (block + 48)).result m = .ok () := by
    rw [vb2CheckKeyblockReads_result]
    exact (vb2CheckKeyblock_window haddr (by decide)).mpr hsane
  have hstart : (block + 48 + (le32 m (block + 48).toNat).toUInt64).toNat =
      block.toNat + (48 + fieldAt (m.window block.toNat) 48) := hat.data
  have hsigned : (le32 m ((block + 48).toNat + 16)).toNat = fieldAt (m.window block.toNat) 64 := hat.dataSize
  have hsig : (block + 48).toNat = block.toNat + 48 := toNat_add_of_inside haddr (by rw [h48]; omega)
  rw [vb2VerifyKeyblockHashReads, Reading.only_bind]
  refine and_congr_right fun _ => ?_
  rw [Vb2Keyblock.keyblockHash, hcheck]
  dsimp only
  simp only [Reading.only_refuse_bind, Reading.only_bytesAt_bind, Reading.only_word32_bind, Reading.only_refuse,
    hstart, hsigned, h64, InBlock]
  have hsize := hsane.signature.header
  constructor
  · intro h
    have hlast := (h () trivial hspace.1 hspace.2).2.2.2.1.2
    unfold HashInside
    omega
  · intro h _ _ _ _
    unfold HashInside at h
    exact ⟨by omega, by omega, by omega, by omega, trivial⟩

/-- Only bytes of the keyblock are read, and all of the hash is inside a keyblock that is accepted, exactly
if the fields of the header that are looked at are inside, and, once they have passed, the 64 bytes at
the place of the hash. Nothing checks the latter. -/
theorem vb2VerifyKeyblockHash_inside_iff {wb : Vb2Workbuf} (hspace : HasDigestSpace align .sha512 wb)
    (haddr : block.toNat + size.toNat < 2 ^ 64) :
    (vb2VerifyKeyblockHashReads align hash block size wb).result m =
      (vb2VerifyKeyblockHash align hash block size wb m).1 ∧
    ((vb2VerifyKeyblockHashReads align hash block size wb).Only m
        (InBlock block (Vb2Keyblock.keyblockSize m block).toNat) ∧
      ((vb2VerifyKeyblockHash align hash block size wb m).1 = .ok () →
        HashInside (m.window block.toNat) (Vb2Keyblock.keyblockSize m block).toNat) ↔
    HeaderInside (m.window block.toNat) size.toNat ∧
      (KeyblockSane (m.window block.toNat) size.toNat 48 →
        HashInside (m.window block.toNat) (Vb2Keyblock.keyblockSize m block).toNat)) := by
  refine ⟨vb2VerifyKeyblockHashReads_result wb, ?_⟩
  have hsize : (Vb2Keyblock.keyblockSize m block).toNat = fieldAt (m.window block.toNat) 16 := by
    rw [Vb2Keyblock.keyblockSize, fieldAt, le32_window]
  rw [hsize, ← vb2CheckKeyblockReads_only haddr, vb2VerifyKeyblockHash_window hspace haddr]
  by_cases hsane : KeyblockSane (m.window block.toNat) size.toNat 48
  · rw [keyblockHashReads_rest hspace haddr hsane]
    exact ⟨fun h => ⟨h.1.1, fun _ => h.1.2⟩, fun h => ⟨⟨h.1, h.2 hsane⟩, fun _ => h.2 hsane⟩⟩
  · -- nothing else is read
    have hcheck : ∀ a, (vb2CheckKeyblockReads block size (block + 48)).result m ≠ .ok a := by
      intro a ha
      rw [vb2CheckKeyblockReads_result] at ha
      exact hsane ((vb2CheckKeyblock_window haddr (by decide)).mp ha)
    rw [vb2VerifyKeyblockHashReads, Reading.only_bind]
    refine ⟨fun h => ⟨h.1.1, fun hs => absurd hs hsane⟩, fun h => ⟨⟨h.1, fun a ha => absurd ha (hcheck a)⟩, ?_⟩⟩
    exact fun hs => absurd hs.sane hsane

end

/-- The header of a keyblock with an empty data key, whose hash is said to come right after the header. -/
def hashedHeader (keyblockSize hashSize : UInt32) : List UInt8 :=
  vb2KeyBlockMagic ++ leBytes32 2 ++ leBytes32 0 ++ leBytes32 keyblockSize ++ List.replicate 28 0 ++
    leBytes32 64 ++ List.replicate 4 0 ++ leBytes32 hashSize ++ List.replicate 4 0 ++ leBytes32 112 ++
    List.replicate 12 0 ++ leBytes32 32 ++ List.replicate 28 0

def hashedMemory (keyblockSize hashSize : UInt32) : Mem :=
  Mem.store (fun _ => 0) 0x1000 (hashedHeader keyblockSize hashSize ++
    shaHash .sha512 (hashedHeader keyblockSize hashSize))

section
variable (keyblockSize hashSize : UInt32)

theorem hashedMemory_window : (hashedMemory keyblockSize hashSize).window 0x1000 =
    Mem.ofList (hashedHeader keyblockSize hashSize ++ shaHash .sha512 (hashedHeader keyblockSize hashSize)) := by
  funext x
  simp [hashedMemory, Mem.window, Mem.store, Mem.ofList]

theorem hashedMemory_agree : Mem.Agree (Mem.ofList (hashedHeader keyblockSize hashSize))
    ((hashedMemory keyblockSize hashSize).window 0x1000) 112 := by
  intro i hi
  rw [hashedMemory_window, Mem.ofList, Mem.ofList, List.getD_append _ _ _ _ hi]

theorem hashedMemory_field {i n : Nat} (hi : i + 4 ≤ 112)
    (h : fieldAt (Mem.ofList (hashedHeader keyblockSize hashSize)) i = n) :
    fieldAt ((hashedMemory keyblockSize hashSize).window 0x1000) i = n := by
  rw [← fieldAt_agree (hashedMemory_agree keyblockSize hashSize) hi]
  exact h

theorem hashedMemory_hashed {size : Nat}
    (h : KeyblockSane (Mem.ofList (hashedHeader keyblockSize hashSize)) size 48)
    (ho : fieldAt (Mem.ofList (hashedHeader keyblockSize hashSize)) 48 = 64)
    (hd : fieldAt (Mem.ofList (hashedHeader keyblockSize hashSize)) 64 = 112) :
    KeyblockHashed shaHash ((hashedMemory keyblockSize hashSize).window 0x1000) size := by
  have hlen : (hashedHeader keyblockSize hashSize).length = 112 := rfl
  have hsha := length_sha512 (hashedHeader keyblockSize hashSize)
  refine ⟨h.agree (hashedMemory_agree keyblockSize hashSize) (by decide) (by decide), ?_⟩
  rw [hashedMemory_field keyblockSize hashSize (by decide) ho,
    hashedMemory_field keyblockSize hashSize (by decide) hd, hashedMemory_window]
  generalize shaHash .sha512 = sha at hsha ⊢
  rw [Mem.load_ofList_of_le _ (by rw [List.length_append, hlen, hsha]),
    Mem.load_ofList_of_le _ (by rw [List.length_append, hlen, hsha]; omega), List.drop_left' hlen,
    List.drop_zero, List.take_left' hlen, List.take_of_length_le (by rw [hsha])]

end

theorem sampleWorkbuf_space : HasDigestSpace 16 .sha512 ⟨0x2000, 1024⟩ := ⟨by decide, by decide⟩

/-- The keyblock ends with its header, and says that its hash has no bytes. It is accepted with the 64 bytes
that come after it in memory. -/
theorem keyblockHash_outside :
    (vb2VerifyKeyblockHash 16 shaHash 0x1000 112 ⟨0x2000, 1024⟩ (hashedMemory 112 0)).1 = .ok () ∧
    (Vb2Keyblock.keyblockSize (hashedMemory 112 0) 0x1000).toNat = 112 ∧
    ¬HashInside ((hashedMemory 112 0).window 0x1000) 112 ∧
    ¬(vb2VerifyKeyblockHashReads 16 shaHash 0x1000 112 ⟨0x2000, 1024⟩).Only (hashedMemory 112 0)
      (InBlock 0x1000 112) := by
  have hsize := hashedMemory_field 112 0 (i := 16) (n := 112) (by decide) (by decide)
  have hhash := @hashedMemory_hashed 112 0 112 (by decide) (by decide) (by decide)
  have hout : ¬HashInside ((hashedMemory 112 0).window 0x1000) 112 := by
    rw [HashInside, hashedMemory_field 112 0 (i := 48) (n := 64) (by decide) (by decide)]
    decide
  refine ⟨(vb2VerifyKeyblockHash_window sampleWorkbuf_space (by decide)).mpr hhash, hsize, hout, fun h => hout ?_⟩
  have hrest := (@keyblockHashReads_rest 16 shaHash (hashedMemory 112 0) 0x1000 112 _ sampleWorkbuf_space
    (by decide) hhash.sane).mp
  change Reading.Only _ (InBlock _ (fieldAt ((hashedMemory 112 0).window 0x1000) 16)) _ → _ ∧
    HashInside ((hashedMemory 112 0).window 0x1000) (fieldAt ((hashedMemory 112 0).window 0x1000) 16) at hrest
  rw [hsize] at hrest
  exact (hrest h).2

theorem vb2VerifyKeyblockHash_inside_sample :
    (vb2VerifyKeyblockHash 16 shaHash 0x1000 176 ⟨0x2000, 1024⟩ (hashedMemory 176 64)).1 = .ok () ∧
    (vb2VerifyKeyblockHashReads 16 shaHash 0x1000 176 ⟨0x2000, 1024⟩).Only (hashedMemory 176 64)
      (InBlock 0x1000 (Vb2Keyblock.keyblockSize (hashedMemory 176 64) 0x1000).toNat) := by
  have hsize := hashedMemory_field 176 64 (i := 16) (n := 176) (by decide) (by decide)
  have hhash := @hashedMemory_hashed 176 64 176 (by decide) (by decide) (by decide)
  have hblock : (Vb2Keyblock.keyblockSize (hashedMemory 176 64) 0x1000).toNat = 176 := hsize
  have hin : HashInside ((hashedMemory 176 64).window 0x1000) 176 := by
    rw [HashInside, hashedMemory_field 176 64 (i := 48) (n := 64) (by decide) (by decide)]
  refine ⟨(vb2VerifyKeyblockHash_window sampleWorkbuf_space (by decide)).mpr hhash, ?_⟩
  refine ((@vb2VerifyKeyblockHash_inside_iff 16 shaHash (hashedMemory 176 64) 0x1000 176 _ sampleWorkbuf_space
    (by decide)).2.mpr ⟨⟨?_, ?_, ?_⟩, fun _ => ?_⟩).1
  · exact fun _ => hsize.symm ▸ (by decide)
  · exact fun _ _ => hsize.symm ▸ (by decide)
  · exact fun _ _ _ => hsize.symm ▸ (by decide)
  · rw [hblock]
    exact hin

end Vboot.Vb2
