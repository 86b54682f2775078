import Vboot.Lib.Verdict
import Vboot.Vb2.DataKey

/-! What the checks of firmware/lib20/common.c and kernel.c decide in terms of the bytes of a block,
wherever it lies. The bytes are a memory with the block at address 0. -/
namespace Vboot.Vb2
open Vboot.Lib Vboot.Lib.Program

/-- A 32-bit field of a block. -/
def fieldAt (w : Mem) (i : Nat) : Nat := (le32 w i).toNat

/-- A signature at offset n and its data lie in the first bytes of a block, and the data is not over
the signature. -/
structure SigInside (w : Mem) (n size : Nat) : Prop where
  header : n + 24 ≤ size
  apart : 0 < fieldAt w (n + 8) → 24 ≤ fieldAt w n
  data : n + fieldAt w n + fieldAt w (n + 8) ≤ size

/-- The same for a packed key. -/
structure KeyInside (w : Mem) (n size : Nat) : Prop where
  header : n + 32 ≤ size
  apart : 0 < fieldAt w (n + 8) → 32 ≤ fieldAt w n
  data : n + fieldAt w n + fieldAt w (n + 8) ≤ size

instance (w : Mem) (n size : Nat) : Decidable (SigInside w n size) :=
  decidable_of_iff (n + 24 ≤ size ∧ (0 < fieldAt w (n + 8) → 24 ≤ fieldAt w n) ∧
    n + fieldAt w n + fieldAt w (n + 8) ≤ size) ⟨fun h => ⟨h.1, h.2.1, h.2.2⟩, fun h => ⟨h.1, h.2, h.3⟩⟩

instance (w : Mem) (n size : Nat) : Decidable (KeyInside w n size) :=
  decidable_of_iff (n + 32 ≤ size ∧ (0 < fieldAt w (n + 8) → 32 ≤ fieldAt w n) ∧
    n + fieldAt w n + fieldAt w (n + 8) ≤ size) ⟨fun h => ⟨h.1, h.2.1, h.2.2⟩, fun h => ⟨h.1, h.2, h.3⟩⟩

/-- The checks of a keyblock before its signature or hash, which is at offset n, is looked at. -/
structure KeyblockSane (w : Mem) (size n : Nat) : Prop where
  header : 112 ≤ size
  magic : w.load 0 8 = vb2KeyBlockMagic
  major : le32 w 8 = vb2KeyBlockHeaderVersionMajor
  inside : fieldAt w 16 ≤ size
  signature : SigInside w n (fieldAt w 16)
  notTooMuch : fieldAt w (n + 16) ≤ fieldAt w 16
  enough : 112 ≤ fieldAt w (n + 16)
  dataKey : KeyInside w 80 (fieldAt w 16)
  dataKeySigned : KeyInside w 80 (fieldAt w (n + 16))

instance (w : Mem) (size n : Nat) : Decidable (KeyblockSane w size n) :=
  decidable_of_iff (112 ≤ size ∧ w.load 0 8 = vb2KeyBlockMagic ∧ le32 w 8 = vb2KeyBlockHeaderVersionMajor ∧
    fieldAt w 16 ≤ size ∧ SigInside w n (fieldAt w 16) ∧ fieldAt w (n + 16) ≤ fieldAt w 16 ∧
    112 ≤ fieldAt w (n + 16) ∧ KeyInside w 80 (fieldAt w 16) ∧ KeyInside w 80 (fieldAt w (n + 16)))
    ⟨fun ⟨h1, h2, h3, h4, h5, h6, h7, h8, h9⟩ => ⟨h1, h2, h3, h4, h5, h6, h7, h8, h9⟩,
      fun h => ⟨h.1, h.2, h.3, h.4, h.5, h.6, h.7, h.8, h.9⟩⟩

/-- A key that was unpacked: it has as many words as its algorithm. -/
structure UsableKey (key : Vb2PublicKey) : Prop where
  sigSize : vb2RsaSigSize key.sigAlg ≠ 0
  words : key.arrsize * 4 = vb2RsaSigSize key.sigAlg
  digestSize : vb2DigestSize key.hashAlg ≠ 0

/-- The data of the signature at offset n. -/
def sigBytes (w : Mem) (n : Nat) : List UInt8 := w.load (n + fieldAt w n) (fieldAt w (n + 8))

section
variable (hash : Vb2HashAlgorithm → List UInt8 → List UInt8) (key : Vb2PublicKey)

/-- The signature at offset n is good for the bytes that it says it covers. -/
structure SignedBy (w : Mem) (size n : Nat) : Prop where
  data : fieldAt w (n + 16) ≤ size
  length : fieldAt w (n + 8) = (vb2RsaSigSize key.sigAlg).toNat
  rsa : RsaAccepts key (sigBytes w n) (hash key.hashAlg (w.load 0 (fieldAt w (n + 16))))

/-- The block after the RSA step, which puts the power of the signature in its place. -/
def powered (w : Mem) (size n : Nat) : Mem :=
  if fieldAt w (n + 16) ≤ size ∧ fieldAt w (n + 8) = (vb2RsaSigSize key.sigAlg).toNat then
    w.store (n + fieldAt w n) (modpowF4 key (sigBytes w n))
  else w

structure KeyblockSigned (w : Mem) (size : Nat) : Prop where
  sane : KeyblockSane w size 24
  signed : SignedBy hash key w size 24

def keyblockPowered (w : Mem) (size : Nat) : Mem :=
  if KeyblockSane w size 24 then powered key w size 24 else w

/-- A keyblock with a good hash. Its length is not looked at. -/
structure KeyblockHashed (w : Mem) (size : Nat) : Prop where
  sane : KeyblockSane w size 48
  hash : w.load (48 + fieldAt w 48) 64 = hash .sha512 (w.load 0 (fieldAt w 64))

structure KernelPreambleSane (w : Mem) (size : Nat) : Prop where
  header : 116 ≤ size
  major : le32 w 32 = kernelPreambleHeaderVersionMajor
  minor : ¬ le32 w 36 < 2
  inside : fieldAt w 0 ≤ size
  signature : SigInside w 8 (fieldAt w 0)
  notTooMuch : fieldAt w 24 ≤ fieldAt w 0

/-- The checks after it. -/
structure KernelPreambleMembers (w : Mem) : Prop where
  enough : 108 ≤ fieldAt w 24
  body : SigInside w 72 (fieldAt w 24)
  bootloader : le32 w 64 ≠ 0 →
    vb2VerifyMemberInside (le64 w 48) (le32 w 88).toUInt64 (le64 w 56) (le32 w 64).toUInt64 0 0 = .ok ()
  vmlinuzHeader : le32 w 104 ≠ 0 →
    vb2VerifyMemberInside (le64 w 48) (le32 w 88).toUInt64 (le64 w 96) (le32 w 104).toUInt64 0 0 = .ok ()

/-- A kernel preamble with a good signature. What comes after it is read from the powered preamble. -/
structure KernelPreambleSigned (w : Mem) (size : Nat) : Prop where
  sane : KernelPreambleSane w size
  signed : SignedBy hash key w size 8
  members : KernelPreambleMembers (powered key w size 8)

end

/-- The space that the check of a signature takes. -/
structure VerifySpace (align : UInt32) (key : Vb2PublicKey) (wb : Vb2Workbuf) : Prop where
  digest : HasDigestSpace align key.hashAlg wb
  rsa : (vb2WorkbufAlloc align (digestWorkbuf align key.hashAlg wb) (3 * (key.arrsize * 4))).1 ≠ none

section
variable {m : Mem} {block n : UInt64} {size : UInt32}

theorem fieldAt_window (h : block.toNat + n.toNat < 2 ^ 64) (i : Nat) :
    le32 m ((block + n).toNat + i) = le32 (m.window block.toNat) (n.toNat + i) := by
  rw [le32_window, UInt64.toNat_add, Nat.mod_eq_of_lt h, Nat.add_assoc]

theorem vb2VerifySignatureInside_window (hn : block.toNat + n.toNat < 2 ^ 64) :
    vb2VerifySignatureInside m block size (block + n) = .ok () ↔
      block.toNat + size.toNat < 2 ^ 64 ∧ SigInside (m.window block.toNat) n.toNat size.toNat := by
  have hoffset : (Vb2Signature.sigOffset m (block + n)).toNat = fieldAt (m.window block.toNat) n.toNat :=
    congrArg UInt32.toNat (fieldAt_window hn 0)
  have hlength : (Vb2Signature.sigSize m (block + n)).toNat = fieldAt (m.window block.toNat) (n.toNat + 8) :=
    congrArg UInt32.toNat (fieldAt_window hn 8)
  rw [vb2VerifySignatureInside_ok, hoffset, hlength]
  exact and_congr_right fun _ => ⟨fun h => ⟨h.1, h.2.1, h.2.2⟩, fun h => ⟨h.header, h.apart, h.data⟩⟩

theorem vb2VerifyPackedKeyInside_window (hn : block.toNat + n.toNat < 2 ^ 64) :
    vb2VerifyPackedKeyInside m block size (block + n) = .ok () ↔
      block.toNat + size.toNat < 2 ^ 64 ∧ KeyInside (m.window block.toNat) n.toNat size.toNat := by
  have hoffset : (Vb2PackedKey.keyOffset m (block + n)).toNat = fieldAt (m.window block.toNat) n.toNat :=
    congrArg UInt32.toNat (fieldAt_window hn 0)
  have hlength : (Vb2PackedKey.keySize m (block + n)).toNat = fieldAt (m.window block.toNat) (n.toNat + 8) :=
    congrArg UInt32.toNat (fieldAt_window hn 8)
  rw [vb2VerifyPackedKeyInside_ok, hoffset, hlength]
  exact and_congr_right fun _ => ⟨fun h => ⟨h.1, h.2.1, h.2.2⟩, fun h => ⟨h.header, h.apart, h.data⟩⟩

theorem vb2CheckKeyblock_window (haddr : block.toNat + size.toNat < 2 ^ 64) (hn : n.toNat ≤ 112) :
    vb2CheckKeyblock m block size (block + n) = .ok () ↔
      KeyblockSane (m.window block.toNat) size.toNat n.toNat := by
  have h112 : vb2KeyblockHeaderSize.toNat = 112 := rfl
  have h80 : (80 : UInt64).toNat = 80 := rfl
  simp only [vb2CheckKeyblock, reject_bind_eq_ok, reject_eq_ok, not_not, UInt32.not_lt, UInt32.le_iff_toNat_le, h112]
  by_cases hsize : 112 ≤ size.toNat
  · have hna : block.toNat + n.toNat < 2 ^ 64 := by omega
    have hka : block.toNat + (80 : UInt64).toNat < 2 ^ 64 := by omega
    have hmagic : Vb2Keyblock.magic m block = (m.window block.toNat).load 0 8 := by
      rw [Mem.load_window]
      rfl
    have hmajor : Vb2Keyblock.headerVersionMajor m block = le32 (m.window block.toNat) 8 :=
      (le32_window m _ 8).symm
    have hblock : (Vb2Keyblock.keyblockSize m block).toNat = fieldAt (m.window block.toNat) 16 :=
      congrArg UInt32.toNat (le32_window m _ 16).symm
    have hdata : (Vb2Signature.dataSize m (block + n)).toNat = fieldAt (m.window block.toNat) (n.toNat + 16) :=
      congrArg UInt32.toNat (fieldAt_window hna 16)
    rw [Vb2Keyblock.dataKey, vb2VerifySignatureInside_window hna, vb2VerifyPackedKeyInside_window hka,
      vb2VerifyPackedKeyInside_window hka, hmagic, hmajor, hblock, hdata, h80]
    constructor
    · rintro ⟨h1, h2, h3, h4, ⟨-, h5⟩, h6, h7, ⟨-, h8⟩, -, h9⟩
      exact ⟨h1, h2, h3, h4, h5, h6, h7, h8, h9⟩
    · rintro ⟨h1, h2, h3, h4, h5, h6, h7, h8, h9⟩
      exact ⟨h1, h2, h3, h4, ⟨by omega, h5⟩, h6, h7, ⟨by omega, h8⟩, by omega, h9⟩
  · exact iff_of_false (fun h => hsize h.1) fun h => hsize h.header

end

section
variable {align : UInt32} {hash : Vb2HashAlgorithm → List UInt8 → List UInt8} {key : Vb2PublicKey}

theorem inspect_reject_bind {S α : Type} {c : S → Prop} [∀ s, Decidable (c s)] {e : UInt32}
    {g : Unit → Program UInt32 S α} (s : S) :
    ((inspect fun s => reject (c s) e) >>= g) s = if c s then (.error e, s) else g () s := by
  by_cases h : c s
  · rw [if_pos h]
    exact inspect_bind_of_error (if_pos h)
  · rw [if_neg h]
    exact inspect_bind_of_ok (reject_eq_ok.mpr h)

theorem vb2VerifyDigest_run (sig : UInt64) (digest : List UInt8) (wb : Vb2Workbuf) (m : Mem) :
    vb2VerifyDigest align key sig digest wb m =
      if Vb2Signature.sigSize m sig ≠ vb2RsaSigSize key.sigAlg then (.error vb2ErrorVdataSigSize, m)
      else (reject ((rsaVerify align key m sig digest wb).1 ≠ vb2Success) (rsaVerify align key m sig digest wb).1,
        m.store (vb2SignatureData m sig).toNat ((rsaVerify align key m sig digest wb).2.getD [])) := by
  rw [vb2VerifyDigest, observe_bind, inspect_reject_bind, observe_bind]
  dsimp only
  rw [update_bind, inspect, rsaVerify]

variable {wb : Vb2Workbuf} {m : Mem} {block n : UInt64} {size : UInt32}

theorem vb2VerifyData_run (hkey : UsableKey key) (hspace : HasDigestSpace align key.hashAlg wb)
    (block sig : UInt64) (size : UInt32) (m : Mem) :
    vb2VerifyData align hash block size sig key wb m =
      if Vb2Signature.dataSize m sig > size then (.error vb2ErrorVdataNotEnoughData, m)
      else vb2VerifyDigest align key sig (hash key.hashAlg (m.load block.toNat (Vb2Signature.dataSize m sig).toNat))
        (digestWorkbuf align key.hashAlg wb) m := by
  rw [vb2VerifyData, observe_bind, inspect_reject_bind, inspect_reject_bind, if_neg hkey.digestSize]
  dsimp only
  rw [inspect_reject_bind, if_neg hspace.1, inspect_reject_bind, if_neg hspace.2, observe_bind, digestWorkbuf]

structure SigAt (m : Mem) (block n : UInt64) : Prop where
  data : (vb2SignatureData m (block + n)).toNat =
    block.toNat + (n.toNat + fieldAt (m.window block.toNat) n.toNat)
  length : (Vb2Signature.sigSize m (block + n)).toNat = fieldAt (m.window block.toNat) (n.toNat + 8)
  dataSize : (Vb2Signature.dataSize m (block + n)).toNat = fieldAt (m.window block.toNat) (n.toNat + 16)

theorem SigInside.sigAt {k : Nat} (h : SigInside (m.window block.toNat) n.toNat k)
    (haddr : block.toNat + k < 2 ^ 64) : SigAt m block n := by
  obtain ⟨hheader, -, hdata⟩ := h
  have hn : block.toNat + n.toNat < 2 ^ 64 := by omega
  have hoffset : (Vb2Signature.sigOffset m (block + n)).toNat = fieldAt (m.window block.toNat) n.toNat :=
    congrArg UInt32.toNat (fieldAt_window hn 0)
  refine ⟨?_, congrArg UInt32.toNat (fieldAt_window hn 8), congrArg UInt32.toNat (fieldAt_window hn 16)⟩
  rw [vb2SignatureData, UInt64.toNat_add, UInt64.toNat_add, UInt32.toNat_toUInt64, hoffset, Nat.mod_eq_of_lt hn,
    Nat.mod_eq_of_lt (by omega), Nat.add_assoc]

theorem KeyblockSane.sigAt (h : KeyblockSane (m.window block.toNat) size.toNat n.toNat)
    (haddr : block.toNat + size.toNat < 2 ^ 64) : SigAt m block n :=
  h.signature.sigAt ((Nat.add_le_add_left h.inside _).trans_lt haddr)

theorem KernelPreambleSane.sigAt (h : KernelPreambleSane (m.window block.toNat) size.toNat)
    (haddr : block.toNat + size.toNat < 2 ^ 64) : SigAt m block 8 :=
  SigInside.sigAt (n := 8) h.signature ((Nat.add_le_add_left h.inside _).trans_lt haddr)

theorem rsaVerify_window (hkey : UsableKey key)
    (hwb : (vb2WorkbufAlloc align wb (3 * (key.arrsize * 4))).1 ≠ none) (hat : SigAt m block n)
    (hlength : fieldAt (m.window block.toNat) (n.toNat + 8) = (vb2RsaSigSize key.sigAlg).toNat)
    (digest : List UInt8) :
    ((rsaVerify align key m (block + n) digest wb).1 = vb2Success ↔
      RsaAccepts key (sigBytes (m.window block.toNat) n.toNat) digest) ∧
    (rsaVerify align key m (block + n) digest wb).2.getD [] =
      modpowF4 key (sigBytes (m.window block.toNat) n.toNat) := by
  have hsig : m.load (vb2SignatureData m (block + n)).toNat (vb2RsaSigSize key.sigAlg).toNat =
      sigBytes (m.window block.toNat) n.toNat := by
    rw [sigBytes, Mem.load_window, hat.data, hlength]
  obtain ⟨hrsa, hpower⟩ := vb2RsaVerifyDigest_space hkey.sigSize hkey.words
    (sigBytes (m.window block.toNat) n.toNat) digest hwb
  rw [rsaVerify, hsig]
  refine ⟨hrsa, ?_⟩
  rw [hpower, Option.getD_some]

theorem powered_front (w : Mem) (size n : Nat) : Mem.Agree (powered key w size n) w (n + fieldAt w n) := by
  intro i hi
  rw [powered]
  split_ifs with h
  · exact Mem.store_of_lt _ _ _ _ hi
  · rfl

theorem fieldAt_powered {w : Mem} {size n i : Nat} (hi : i + 4 ≤ n + fieldAt w n) :
    fieldAt (powered key w size n) i = fieldAt w i :=
  congrArg UInt32.toNat (le32_agree (powered_front w size n) hi)

theorem vb2VerifyData_window (hkey : UsableKey key) {wb : Vb2Workbuf} (hspace : VerifySpace align key wb)
    {m : Mem} {block n : UInt64} {size : UInt32} (hat : SigAt m block n) :
    ((vb2VerifyData align hash block size (block + n) key wb m).1 = .ok () ↔
      SignedBy hash key (m.window block.toNat) size.toNat n.toNat) ∧
    (vb2VerifyData align hash block size (block + n) key wb m).2.window block.toNat =
      powered key (m.window block.toNat) size.toNat n.toNat := by
  have hsize : Vb2Signature.dataSize m (block + n) > size ↔
      ¬ fieldAt (m.window block.toNat) (n.toNat + 16) ≤ size.toNat := by
    rw [← hat.dataSize, Nat.not_le]
    exact UInt32.lt_iff_toNat_lt
  have hlen : Vb2Signature.sigSize m (block + n) ≠ vb2RsaSigSize key.sigAlg ↔
      ¬ fieldAt (m.window block.toNat) (n.toNat + 8) = (vb2RsaSigSize key.sigAlg).toNat := by
    rw [← hat.length, UInt32.toNat_inj]
  have hload : m.load block.toNat (Vb2Signature.dataSize m (block + n)).toNat =
      (m.window block.toNat).load 0 (fieldAt (m.window block.toNat) (n.toNat + 16)) := by
    rw [Mem.load_window, hat.dataSize]
    rfl
  rw [vb2VerifyData_run hkey hspace.digest, vb2VerifyDigest_run, powered, hload]
  by_cases hs : fieldAt (m.window block.toNat) (n.toNat + 16) ≤ size.toNat
  swap
  · rw [if_pos (hsize.mpr hs), if_neg fun h => hs h.1]
    exact ⟨iff_of_false (fun h => by cases h) fun h => hs h.data, rfl⟩
  rw [if_neg fun h => hsize.mp h hs]
  by_cases hl : fieldAt (m.window block.toNat) (n.toNat + 8) = (vb2RsaSigSize key.sigAlg).toNat
  swap
  · rw [if_pos (hlen.mpr hl), if_neg fun h => hl h.2]
    exact ⟨iff_of_false (fun h => by cases h) fun h => hl h.length, rfl⟩
  obtain ⟨hrsa, hpower⟩ := rsaVerify_window hkey hspace.rsa hat hl (hash key.hashAlg
    ((m.window block.toNat).load 0 (fieldAt (m.window block.toNat) (n.toNat + 16))))
  rw [if_neg fun h => hlen.mp h hl, if_pos ⟨hs, hl⟩, hpower, hat.data]
  refine ⟨?_, Mem.window_store _ _ _ _⟩
  exact (reject_eq_ok.trans (not_not.trans hrsa)).trans ⟨fun h => ⟨hs, hl, h⟩, fun h => h.rsa⟩

theorem vb2VerifyData_touch (block sig : UInt64) (size : UInt32) (wb : Vb2Workbuf) (m : Mem) :
    (vb2VerifyData align hash block size sig key wb m).2 = m ∨
      ∃ bs, (vb2VerifyData align hash block size sig key wb m).2 = m.store (vb2SignatureData m sig).toNat bs := by
  rw [vb2VerifyData, observe_bind, inspect_reject_bind, inspect_reject_bind]
  dsimp only
  rw [inspect_reject_bind, inspect_reject_bind, observe_bind, vb2VerifyDigest_run]
  split_ifs
  iterate 5 exact .inl rfl
  exact .inr ⟨_, rfl⟩

variable {x : Nat}

theorem vb2VerifyData_front (hat : SigAt m block n)
    (hx : x < block.toNat + (n.toNat + fieldAt (m.window block.toNat) n.toNat)) :
    (vb2VerifyData align hash block size (block + n) key wb m).2 x = m x := by
  rw [← hat.data] at hx
  rcases vb2VerifyData_touch block (block + n) size wb m with h | ⟨bs, h⟩
  · rw [h]
  · rw [h]
    exact Mem.store_of_lt _ _ _ _ hx

theorem vb2VerifyKeyblock_front {wb : Vb2Workbuf} {m : Mem} {block : UInt64} {size : UInt32}
    (haddr : block.toNat + size.toNat < 2 ^ 64)
    (hx : 112 ≤ size.toNat → x < block.toNat + 24 + fieldAt (m.window block.toNat) 24) :
    (vb2VerifyKeyblock align hash block size key wb m).2 x = m x := by
  rw [vb2VerifyKeyblock_guarded, guarded_state]
  cases hc : vb2CheckKeyblock m block size (Vb2Keyblock.keyblockSignature block) with
  | error e => rfl
  | ok _ =>
    have hsane : KeyblockSane (m.window block.toNat) size.toNat 24 :=
      (vb2CheckKeyblock_window haddr (by decide)).mp hc
    have hfield := hx hsane.header
    exact vb2VerifyData_front (hsane.sigAt (n := 24) haddr) (by rwa [Nat.add_assoc] at hfield)

theorem vb2VerifyKeyblock_window (hkey : UsableKey key) {wb : Vb2Workbuf} (hspace : VerifySpace align key wb)
    {m : Mem} {block : UInt64} {size : UInt32} (haddr : block.toNat + size.toNat < 2 ^ 64) :
    ((vb2VerifyKeyblock align hash block size key wb m).1 = .ok () ↔
      KeyblockSigned hash key (m.window block.toNat) size.toNat) ∧
    (vb2VerifyKeyblock align hash block size key wb m).2.window block.toNat =
      keyblockPowered key (m.window block.toNat) size.toNat ∧
    ∀ x < block.toNat, (vb2VerifyKeyblock align hash block size key wb m).2 x = m x := by
  have hcheck : vb2CheckKeyblock m block size (Vb2Keyblock.keyblockSignature block) = .ok () ↔
      KeyblockSane (m.window block.toNat) size.toNat 24 := vb2CheckKeyblock_window haddr (by decide)
  rw [← and_assoc]
  refine ⟨?_, fun x hx => vb2VerifyKeyblock_front haddr fun _ => by omega⟩
  rw [result_ok_iff]
  simp only [vb2VerifyKeyblock_ok, exists_and_left, ← result_ok_iff]
  rw [vb2VerifyKeyblock_guarded, guarded_state, keyblockPowered]
  cases hc : vb2CheckKeyblock m block size (Vb2Keyblock.keyblockSignature block) with
  | error e =>
    have hsane : ¬ KeyblockSane (m.window block.toNat) size.toNat 24 := fun h => by
      cases hc.symm.trans (hcheck.mpr h)
    rw [if_neg hsane]
    exact ⟨iff_of_false (fun h => by cases h.1) fun h => hsane h.sane, rfl⟩
  | ok _ =>
    have hsane := hcheck.mp hc
    obtain ⟨hsigned, hpower⟩ := @vb2VerifyData_window align hash key hkey wb hspace m block 24 size
      (hsane.sigAt (n := 24) haddr)
    rw [if_pos hsane]
    exact ⟨⟨fun h => ⟨hsane, hsigned.mp h.2⟩, fun h => ⟨rfl, hsigned.mpr h.signed⟩⟩, hpower⟩

theorem vb2VerifyKeyblockHash_window (hspace : HasDigestSpace align .sha512 wb)
    (haddr : block.toNat + size.toNat < 2 ^ 64) :
    (vb2VerifyKeyblockHash align hash block size wb m).1 = .ok () ↔
      KeyblockHashed hash (m.window block.toNat) size.toNat := by
  have h48 : (48 : UInt64).toNat = 48 := rfl
  have h64 : (vb2DigestSize .sha512).toNat = 64 := rfl
  have hcheck := @vb2CheckKeyblock_window m block 48 size haddr (by decide)
  rw [h48] at hcheck
  have hbytes (hsane : KeyblockSane (m.window block.toNat) size.toNat 48) :
      m.load (vb2SignatureData m (block + 48)).toNat 64 =
        (m.window block.toNat).load (48 + fieldAt (m.window block.toNat) 48) 64 ∧
      m.load block.toNat (Vb2Signature.dataSize m (block + 48)).toNat =
        (m.window block.toNat).load 0 (fieldAt (m.window block.toNat) 64) := by
    have hat := hsane.sigAt (n := 48) haddr
    rw [Mem.load_window, Mem.load_window, hat.data, hat.dataSize]
    exact ⟨rfl, rfl⟩
  rw [vb2VerifyKeyblockHash]
  change (vb2CheckKeyblock m block size (block + 48) >>= _) = .ok () ↔ _
  rw [bind_eq_ok]
  dsimp only
  simp only [reject_bind_eq_ok, reject_eq_ok, not_not, h64, Vb2Keyblock.keyblockHash]
  constructor
  · rintro ⟨_, hok, -, -, hhash⟩
    have hsane := hcheck.mp hok
    rw [(hbytes hsane).1, (hbytes hsane).2] at hhash
    exact ⟨hsane, hhash⟩
  · intro h
    refine ⟨(), hcheck.mpr h.sane, hspace.1, hspace.2, ?_⟩
    rw [(hbytes h.sane).1, (hbytes h.sane).2]
    exact h.hash

theorem checkKernelPreambleHeader_window {m : Mem} {pre : UInt64} {size : UInt32}
    (haddr : pre.toNat + size.toNat < 2 ^ 64) :
    checkKernelPreambleHeader m pre size = .ok () ↔ KernelPreambleSane (m.window pre.toNat) size.toNat := by
  have h116 : vb2KernelPreambleHeaderSize.toNat = 116 := rfl
  have h8 : (8 : UInt64).toNat = 8 := rfl
  have hminor : Vb2KernelPreamble.headerVersionMinor m pre = le32 (m.window pre.toNat) 36 :=
    (le32_window m _ 36).symm
  simp only [checkKernelPreambleHeader, reject_bind_eq_ok, reject_eq_ok, not_not, UInt32.not_lt,
    UInt32.le_iff_toNat_le, h116, hminor]
  by_cases hsize : 116 ≤ size.toNat
  · have hpa : pre.toNat + (8 : UInt64).toNat < 2 ^ 64 := by omega
    have hmajor : Vb2KernelPreamble.headerVersionMajor m pre = le32 (m.window pre.toNat) 32 :=
      (le32_window m _ 32).symm
    have hpre : (Vb2KernelPreamble.preambleSize m pre).toNat = fieldAt (m.window pre.toNat) 0 :=
      congrArg UInt32.toNat (le32_window m _ 0).symm
    have hdata : (Vb2Signature.dataSize m (pre + 8)).toNat = fieldAt (m.window pre.toNat) 24 :=
      congrArg UInt32.toNat (fieldAt_window hpa 16)
    rw [Vb2KernelPreamble.preambleSignature, vb2VerifySignatureInside_window hpa, hmajor, hpre, hdata]
    constructor
    · rintro ⟨h1, h2, h3, h4, ⟨-, h5⟩, h6⟩
      exact ⟨h1, h2, UInt32.not_lt.mpr (UInt32.le_iff_toNat_le.mpr h3), h4, h5, h6⟩
    · rintro ⟨h1, h2, h3, h4, h5, h6⟩
      exact ⟨h1, h2, UInt32.le_iff_toNat_le.mp (UInt32.not_lt.mp h3), h4, ⟨by omega, h5⟩, h6⟩
  · exact iff_of_false (fun h => hsize h.1) fun h => hsize h.header

theorem checkKernelPreambleSigned_window {m : Mem} {pre : UInt64} (hheader : pre.toNat + 116 < 2 ^ 64)
    (haddr : pre.toNat + fieldAt (m.window pre.toNat) 24 < 2 ^ 64) :
    checkKernelPreambleSigned m pre = .ok () ↔ KernelPreambleMembers (m.window pre.toNat) := by
  have h8 : (8 : UInt64).toNat = 8 := rfl
  have h72 : (72 : UInt64).toNat = 72 := rfl
  have hpa : pre.toNat + (8 : UInt64).toNat < 2 ^ 64 := by omega
  have hba : pre.toNat + (72 : UInt64).toNat < 2 ^ 64 := by omega
  have hdata : Vb2Signature.dataSize m (pre + 8) = le32 (m.window pre.toNat) 24 := fieldAt_window hpa 16
  have hbody : Vb2Signature.dataSize m (pre + 72) = le32 (m.window pre.toNat) 88 := fieldAt_window hba 16
  have hsig : vb2VerifySignatureInside m pre (le32 (m.window pre.toNat) 24) (pre + 72) = .ok () ↔
      SigInside (m.window pre.toNat) 72 (fieldAt (m.window pre.toNat) 24) :=
    (vb2VerifySignatureInside_window hba).trans (and_iff_right haddr)
  simp only [checkKernelPreambleSigned, Vb2KernelPreamble.preambleSignature, Vb2KernelPreamble.bodySignature, hdata,
    hbody, Vb2KernelPreamble.bodyLoadAddress, Vb2KernelPreamble.bootloaderAddress, Vb2KernelPreamble.bootloaderSize,
    Vb2KernelPreamble.vmlinuzHeaderAddress, Vb2KernelPreamble.vmlinuzHeaderSize, ← le32_window, ← le64_window,
    reject_bind_eq_ok, reject_eq_ok, not_and, not_not, hsig, UInt32.not_lt]
  constructor
  · rintro ⟨h1, h2, h3, h4⟩
    exact ⟨UInt32.le_iff_toNat_le.mp h1, h2, h3, h4⟩
  · intro h
    exact ⟨UInt32.le_iff_toNat_le.mpr h.enough, h.body, h.bootloader, h.vmlinuzHeader⟩

theorem vb2VerifyKernelPreamble_front {pre : UInt64} (haddr : pre.toNat + size.toNat < 2 ^ 64)
    (hx : x < pre.toNat) : (vb2VerifyKernelPreamble align hash pre size key wb m).2 x = m x := by
  rw [vb2VerifyKernelPreamble_guarded, guarded_state]
  cases hc : checkKernelPreambleHeader m pre size with
  | error e => rfl
  | ok _ =>
    have hat := ((checkKernelPreambleHeader_window haddr).mp hc).sigAt haddr
    exact vb2VerifyData_front hat (by omega)

theorem vb2VerifyKernelPreamble_window (hkey : UsableKey key) {wb : Vb2Workbuf}
    (hspace : VerifySpace align key wb) {m : Mem} {pre : UInt64} {size : UInt32}
    (haddr : pre.toNat + size.toNat < 2 ^ 64) :
    Decides (vb2VerifyKernelPreamble align hash pre size key wb) m
      (KernelPreambleSigned hash key (m.window pre.toNat) size.toNat) fun _ m' =>
        m'.window pre.toNat = powered key (m.window pre.toNat) size.toNat 8 ∧ ∀ x < pre.toNat, m' x = m x := by
  have h8 : (8 : UInt64).toNat = 8 := rfl
  have hcheck := @checkKernelPreambleHeader_window m pre size haddr
  have hhead := decides_inspect (fun m => checkKernelPreambleHeader m pre size) m
  refine hhead.seq (fun h => ⟨(), hcheck.mpr h.sane⟩) ?_
  rintro - _ s' ⟨hok, hs'⟩
  rw [hs']
  have hsane := hcheck.mp hok
  have hsize := hsane.header
  have hinside := hsane.inside
  have hat := hsane.sigAt haddr
  obtain ⟨hsigned, hpower⟩ := @vb2VerifyData_window align hash key hkey wb hspace m pre 8 size hat
  rw [h8] at hsigned hpower
  refine (decides_of_run hsigned (Q := fun _ m' => m'.window pre.toNat = powered key (m.window pre.toNat)
    size.toNat 8 ∧ ∀ x < pre.toNat, m' x = m x) fun _ => ⟨hpower, fun x hx =>
    vb2VerifyData_front hat (by omega)⟩).attempt_seq (·.signed) ?_ fun d s => ⟨_, s, rfl⟩
  rintro hs _ m' ⟨hw, hm'⟩
  have hpos : 0 < fieldAt (m.window pre.toNat) (8 + 8) := by
    rw [hs.length]
    exact UInt32.pos_iff_ne_zero.mpr hkey.sigSize
  have hfield : fieldAt (m'.window pre.toNat) 24 = fieldAt (m.window pre.toNat) 24 := by
    rw [hw]
    exact fieldAt_powered (by have := hsane.signature.apart hpos; omega)
  have hmuch := hsane.notTooMuch
  have hmembers := @checkKernelPreambleSigned_window m' pre (by omega) (by rw [hfield]; omega)
  rw [hw] at hmembers
  exact decides_of_run (hmembers.trans ⟨fun hm => ⟨hsane, hs, hm⟩, (·.members)⟩) fun _ => ⟨hw, hm'⟩

end

/-! Blocks that agree in their first bytes -/

section
variable {hash : Vb2HashAlgorithm → List UInt8 → List UInt8} {key : Vb2PublicKey} {w w' : Mem} {size n k : Nat}

theorem fieldAt_agree {i : Nat} (h : Mem.Agree w w' k) (hi : i + 4 ≤ k) : fieldAt w i = fieldAt w' i :=
  congrArg UInt32.toNat (le32_agree h hi)

theorem SigInside.agree (hs : SigInside w n size) (h : Mem.Agree w w' k) (hn : n + 12 ≤ k) :
    SigInside w' n size := by
  obtain ⟨hheader, hapart, hdata⟩ := hs
  rw [fieldAt_agree h (i := n) (by omega), fieldAt_agree h (i := n + 8) (by omega)] at hapart hdata
  exact ⟨hheader, hapart, hdata⟩

theorem KeyInside.agree (hs : KeyInside w n size) (h : Mem.Agree w w' k) (hn : n + 12 ≤ k) :
    KeyInside w' n size := by
  obtain ⟨hheader, hapart, hdata⟩ := hs
  rw [fieldAt_agree h (i := n) (by omega), fieldAt_agree h (i := n + 8) (by omega)] at hapart hdata
  exact ⟨hheader, hapart, hdata⟩

theorem KeyblockSane.agree (hs : KeyblockSane w size n) (h : Mem.Agree w w' k) (hk : 112 ≤ k) (hn : n ≤ 48) :
    KeyblockSane w' size n := by
  obtain ⟨hheader, hmagic, hmajor, hinside, hsig, hmuch, henough, hkey, hsigned⟩ := hs
  rw [h.load (by omega)] at hmagic
  rw [le32_agree h (by omega)] at hmajor
  rw [fieldAt_agree h (i := 16) (by omega)] at hinside hsig hmuch hkey
  rw [fieldAt_agree h (i := n + 16) (by omega)] at hmuch henough hsigned
  exact ⟨hheader, hmagic, hmajor, hinside, hsig.agree h (by omega), hmuch, henough, hkey.agree h (by omega),
    hsigned.agree h (by omega)⟩

theorem sigBytes_agree (h : Mem.Agree w w' k) (hs : SigInside w n k) : sigBytes w n = sigBytes w' n := by
  have hheader := hs.header
  have hdata := hs.data
  have hoffset := fieldAt_agree h (i := n) (by omega)
  have hlength := fieldAt_agree h (i := n + 8) (by omega)
  rw [sigBytes, sigBytes, h.load hdata, hoffset, hlength]

theorem SignedBy.agree (hs : SignedBy hash key w size n) (h : Mem.Agree w w' k) (hsig : SigInside w n k)
    (hdata : fieldAt w (n + 16) ≤ k) : SignedBy hash key w' size n := by
  have hheader := hsig.header
  obtain ⟨hsize, hlength, hrsa⟩ := hs
  rw [sigBytes_agree h hsig, h.load (by omega)] at hrsa
  rw [fieldAt_agree h (i := n + 16) (by omega)] at hsize hrsa
  rw [fieldAt_agree h (i := n + 8) (by omega)] at hlength
  exact ⟨hsize, hlength, hrsa⟩

theorem powered_agree (h : Mem.Agree w w' k) (hsig : SigInside w n k) :
    Mem.Agree (powered key w size n) (powered key w' size n) k := by
  have hheader := hsig.header
  rw [powered, powered, ← sigBytes_agree h hsig, ← fieldAt_agree h (i := n + 16) (by omega),
    ← fieldAt_agree h (i := n + 8) (by omega), ← fieldAt_agree h (i := n) (by omega)]
  split_ifs
  · exact h.store _ _
  · exact h

theorem SigInside.mono (h : SigInside w n size) (hk : size ≤ k) : SigInside w n k :=
  ⟨h.header.trans hk, h.apart, h.data.trans hk⟩

theorem KeyblockSigned.agree (hs : KeyblockSigned hash key w size) (h : Mem.Agree w w' size) :
    KeyblockSigned hash key w' size :=
  ⟨hs.sane.agree h hs.sane.header (by decide), hs.signed.agree h (hs.sane.signature.mono hs.sane.inside)
    (hs.sane.notTooMuch.trans hs.sane.inside)⟩

theorem keyblockPowered_front (w : Mem) (size : Nat) :
    Mem.Agree (keyblockPowered key w size) w (24 + fieldAt w 24) := by
  rw [keyblockPowered]
  split_ifs
  · exact powered_front w size 24
  · exact fun _ _ => rfl

theorem KeyblockSane.hashedInside (hs : KeyblockSane w size 48) : fieldAt w 64 ≤ size :=
  hs.notTooMuch.trans hs.inside

theorem keyblockPowered_agree (h : Mem.Agree w w' size) :
    Mem.Agree (keyblockPowered key w size) (keyblockPowered key w' size) size := by
  rw [keyblockPowered, keyblockPowered]
  by_cases hs : KeyblockSane w size 24
  · rw [if_pos hs, if_pos (hs.agree h hs.header (by decide))]
    exact powered_agree h (hs.signature.mono hs.inside)
  · rw [if_neg hs, if_neg fun hs' => hs (hs'.agree h.symm hs'.header (by decide))]
    exact h

/-- The hash of a keyblock has the length of its algorithm. Nothing in the code looks at it. -/
def HashInside (w : Mem) (size : Nat) : Prop := 48 + fieldAt w 48 + 64 ≤ size

theorem KeyblockHashed.agree (hs : KeyblockHashed hash w size) (h : Mem.Agree w w' k) (hk : 112 ≤ k)
    (hin : HashInside w k) (hdata : fieldAt w 64 ≤ k) : KeyblockHashed hash w' size := by
  refine ⟨hs.sane.agree h hk (by decide), ?_⟩
  rw [← fieldAt_agree h (i := 48) (by omega), ← fieldAt_agree h (i := 64) (by omega), ← h.load hin,
    ← h.load (by omega)]
  exact hs.hash

theorem KernelPreambleSane.agree (hs : KernelPreambleSane w size) (h : Mem.Agree w w' size) :
    KernelPreambleSane w' size := by
  obtain ⟨hheader, hmajor, hminor, hinside, hsig, hmuch⟩ := hs
  rw [le32_agree h (by omega)] at hmajor hminor
  rw [fieldAt_agree h (i := 0) (by omega)] at hinside hsig hmuch
  rw [fieldAt_agree h (i := 24) (by omega)] at hmuch
  exact ⟨hheader, hmajor, hminor, hinside, hsig.agree h (by omega), hmuch⟩

theorem KernelPreambleMembers.agree (hs : KernelPreambleMembers w) (h : Mem.Agree w w' k) (hk : 116 ≤ k) :
    KernelPreambleMembers w' := by
  obtain ⟨henough, hbody, hboot, hvm⟩ := hs
  rw [fieldAt_agree h (i := 24) (by omega)] at henough hbody
  rw [le64_agree h (i := 48) (by omega), le32_agree h (i := 88) (by omega)] at hboot hvm
  rw [le64_agree h (i := 56) (by omega), le32_agree h (i := 64) (by omega)] at hboot
  rw [le64_agree h (i := 96) (by omega), le32_agree h (i := 104) (by omega)] at hvm
  exact ⟨henough, hbody.agree h (by omega), hboot, hvm⟩

theorem KernelPreambleSigned.agree (hs : KernelPreambleSigned hash key w size) (h : Mem.Agree w w' size) :
    KernelPreambleSigned hash key w' size := by
  have hsig := hs.sane.signature.mono hs.sane.inside
  exact ⟨hs.sane.agree h, hs.signed.agree h hsig (hs.sane.notTooMuch.trans hs.sane.inside),
    hs.members.agree (powered_agree h hsig) hs.sane.header⟩

end

/-! How much of the work buffer the checks take -/

section
variable {align : UInt32} {key : Vb2PublicKey} {wb : Vb2Workbuf} (alg : Vb2HashAlgorithm)

theorem vb2DigestSize_le : (vb2DigestSize alg).toNat ≤ 64 := by
  cases alg <;> decide

theorem vb2RsaSigSize_le (alg : Vb2SignatureAlgorithm) : (vb2RsaSigSize alg).toNat ≤ 1024 := by
  cases alg <;> decide

theorem digestSpace_of_room (h : 400 + 2 * align.toNat ≤ wb.size.toNat) :
    HasDigestSpace align alg wb ∧
      wb.size.toNat ≤ (digestWorkbuf align alg wb).size.toNat + 64 + align.toNat := by
  have hdigest := vb2DigestSize_le alg
  have h336 : vb2DigestContextSize.toNat = 336 := rfl
  obtain ⟨wb₁, halloc, hle⟩ := @vb2WorkbufAlloc_room align wb (vb2DigestSize alg) (by omega)
  obtain ⟨wb₂, halloc₂, hle₂⟩ := @vb2WorkbufAlloc_room align wb₁ vb2DigestContextSize (by omega)
  rw [HasDigestSpace, digestWorkbuf, halloc]
  dsimp only
  rw [halloc₂]
  dsimp only
  rw [vb2WorkbufFree_alloc halloc₂]
  exact ⟨⟨Option.some_ne_none _, Option.some_ne_none _⟩, by omega⟩

theorem verifySpace_of_room (hkey : UsableKey key) (h : 3136 + 2 * align.toNat ≤ wb.size.toNat) :
    VerifySpace align key wb := by
  obtain ⟨hdigest, hleft⟩ := @digestSpace_of_room align wb key.hashAlg (by omega)
  have hrsa := vb2RsaSigSize_le key.sigAlg
  have hthree : (3 : UInt32).toNat = 3 := rfl
  have hsize : (3 * (key.arrsize * 4)).toNat ≤ 3072 := by
    rw [hkey.words, UInt32.toNat_mul, hthree, Nat.mod_eq_of_lt (by omega)]
    omega
  obtain ⟨wb', halloc, -⟩ := @vb2WorkbufAlloc_room align (digestWorkbuf align key.hashAlg wb)
    (3 * (key.arrsize * 4)) (by omega)
  refine ⟨hdigest, ?_⟩
  rw [halloc]
  exact Option.some_ne_none _

end
end Vboot.Vb2
