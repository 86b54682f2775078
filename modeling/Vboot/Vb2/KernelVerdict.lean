import Vboot.Vb2.KernelSteady

/-! What decides whether vb2api_load_kernel_vblock, firmware/lib20/api_kernel.c, accepts a vblock: with
enough of the work buffer left only the vblock, the kernel key, the mode and the version in secdatak. -/
namespace Vboot.Vb2
open Vboot.Lib Vboot.Lib.Program

section
variable {hash : Vb2HashAlgorithm → List UInt8 → List UInt8} {key : Vb2PublicKey}

instance (sig digest : List UInt8) : Decidable (RsaAccepts key sig digest) :=
  inferInstanceAs (Decidable (_ ∧ _ ∧ _ ∧ _))

instance (w : Mem) (size n : Nat) : Decidable (SignedBy hash key w size n) :=
  decidable_of_iff (fieldAt w (n + 16) ≤ size ∧ fieldAt w (n + 8) = (vb2RsaSigSize key.sigAlg).toNat ∧
    RsaAccepts key (sigBytes w n) (hash key.hashAlg (w.load 0 (fieldAt w (n + 16)))))
    ⟨fun h => ⟨h.1, h.2.1, h.2.2⟩, fun h => ⟨h.1, h.2, h.3⟩⟩

instance (w : Mem) (size : Nat) : Decidable (KeyblockSigned hash key w size) :=
  decidable_of_iff (KeyblockSane w size 24 ∧ SignedBy hash key w size 24)
    ⟨fun h => ⟨h.1, h.2⟩, fun h => ⟨h.1, h.2⟩⟩

end

theorem cryptoToHash_digestSize {alg : UInt32} (h : vb2CryptoToHash alg ≠ .invalid) :
    vb2DigestSize (vb2CryptoToHash alg) ≠ 0 := by
  have hall : ∀ a ∈ cryptoToHash, vb2DigestSize a ≠ 0 := by decide
  rw [vb2CryptoToHash] at h ⊢
  by_cases hlt : alg.toNat < cryptoToHash.length
  · rw [List.getD_eq_getElem _ _ hlt]
    exact hall _ (List.getElem_mem hlt)
  · exact absurd (List.getD_eq_default _ _ (Nat.not_lt.mp hlt)) h

variable {key : Vb2PublicKey} {m : Mem} {buf : UInt64} {size : UInt32}

theorem unpackContents_usable {k : KeyContents} (h : unpackContents k = .ok key) : UsableKey key := by
  simp only [unpackContents, reject_bind_eq_ok] at h
  obtain ⟨-, hhash, hsize, harr, h⟩ := h
  obtain ⟨hpos, -⟩ := not_or.mp hsize
  cases h
  refine ⟨fun hzero => hpos ?_, ?_, cryptoToHash_digestSize hhash⟩
  · rw [vb2PackedKeySize, if_pos hzero]
  · have harr' := four_mul_of_eq (not_not.mp harr)
    have hfour : (4 : UInt32).toNat = 4 := rfl
    have hle := vb2RsaSigSize_le (vb2CryptoToSignature k.algorithm)
    change le32 (Mem.ofList k.data) 0 * 4 = vb2RsaSigSize (vb2CryptoToSignature k.algorithm)
    apply UInt32.toNat_inj.mp
    rw [UInt32.toNat_mul, hfour]
    omega

theorem vb2UnpackKey_usable (h : vb2UnpackKey m buf size = .ok key) : UsableKey key := by
  obtain ⟨hin, -, haligned, -⟩ := vb2UnpackKey_ok h
  rw [vb2UnpackKey_eq hin haligned] at h
  exact unpackContents_usable h

section
variable {align : UInt32} {hash : Vb2HashAlgorithm → List UInt8 → List UInt8} {key : Vb2PublicKey}

/-- A keyblock passes by its signature, or by its hash where that is enough. The hash is looked at after
the RSA step. -/
def KeyblockPasses (hash : Vb2HashAlgorithm → List UInt8 → List UInt8) (key : Vb2PublicKey) (need : Bool)
    (w : Mem) (size : Nat) : Prop :=
  KeyblockSigned hash key w size ∨ need = false ∧ KeyblockHashed hash (keyblockPowered key w size) size

variable {need : Bool} {kb : UInt64} {w : Mem} {s s' a b : Vb2Context} {size : Nat}

theorem verifyKernelKeyblock_decides (hkey : UsableKey key) {wb : Vb2Workbuf}
    (hroom : 3136 + 2 * align.toNat ≤ wb.size.toNat) {size : UInt32}
    (haddr : kb.toNat + size.toNat < 2 ^ 64) (hagree : Mem.Agree (s.workbuf.window kb.toNat) w size.toNat)
    (hhash : need = true ∨ (KeyblockSane (keyblockPowered key w size.toNat) size.toNat 48 →
      HashInside (keyblockPowered key w size.toNat) size.toNat)) :
    Decides (verifyKernelKeyblock align hash need kb size key wb) s (KeyblockPasses hash key need w size.toNat)
      fun valid s' => valid = decide (KeyblockSigned hash key w size.toNat) ∧ Behind kb.toNat s s' ∧
        Mem.Agree (s'.workbuf.window kb.toNat) (keyblockPowered key w size.toNat) size.toNat := by
  obtain ⟨hsigned, hpower, hbelow⟩ := @vb2VerifyKeyblock_window align hash key hkey wb
    (verifySpace_of_room hkey hroom) s.workbuf kb size haddr
  have hdigest := (@digestSpace_of_room align wb .sha512 (by omega)).1
  have hiff : KeyblockSigned hash key (s.workbuf.window kb.toNat) size.toNat ↔ KeyblockSigned hash key w size.toNat :=
    ⟨fun h => h.agree hagree, fun h => h.agree hagree.symm⟩
  have hpowered := @keyblockPowered_agree key _ _ _ hagree
  cases hv : vb2VerifyKeyblock align hash kb size key wb s.workbuf with
  | mk r m =>
  rw [hv] at hsigned hpower hbelow
  have heq := @verifyKernelKeyblock_eq align hash s need kb size key wb r m hv
  have hagree' : Mem.Agree (m.window kb.toNat) (keyblockPowered key w size.toNat) size.toNat := by
    dsimp only at hpower
    rw [hpower]
    exact hpowered
  have hbehind : Behind kb.toNat s { s with workbuf := m } := ⟨m, rfl, hbelow⟩
  cases r with
  | ok u =>
    have hs := hiff.mp (hsigned.mp rfl)
    exact ⟨fun _ => ⟨true, _, heq, (decide_eq_true hs).symm, hbehind, hagree'⟩, fun h => absurd (.inl hs) h⟩
  | error rv =>
    have hs : ¬ KeyblockSigned hash key w size.toNat := fun h => by cases hsigned.mpr (hiff.mpr h)
    cases need with
    | true =>
      refine ⟨fun h => ?_, fun _ => ⟨rv, _, heq⟩⟩
      rcases h with h | h
      · exact absurd h hs
      · cases h.1
    | false =>
      have hin := hhash.resolve_left (by decide)
      have hhashed : (vb2VerifyKeyblockHash align hash kb size wb m).1 = .ok () ↔
          KeyblockHashed hash (keyblockPowered key w size.toNat) size.toNat := by
        refine (vb2VerifyKeyblockHash_window hdigest haddr).trans ⟨fun h => ?_, fun h =>
          h.agree hagree'.symm h.sane.header (hin h.sane) h.sane.hashedInside⟩
        have hheader := h.sane.header
        refine h.agree hagree' hheader ?_ h.sane.hashedInside
        rw [HashInside, fieldAt_agree hagree' (by omega)]
        exact hin (h.sane.agree hagree' hheader (by decide))
      refine ⟨fun h => ?_, fun h => ?_⟩
      · rw [hhashed.mpr (h.resolve_left hs).2] at heq
        exact ⟨false, _, heq, (decide_eq_false hs).symm, hbehind, hagree'⟩
      · cases hh : (vb2VerifyKeyblockHash align hash kb size wb m).1 with
        | ok _ => exact absurd (.inr ⟨rfl, hhashed.mp hh⟩) h
        | error e =>
          rw [hh] at heq
          exact ⟨e, _, heq⟩

theorem checkKernelKeyblock_congr {valid : Bool} {kb' : UInt64} (hflags : s'.flags = s.flags)
    (hstored : s'.sd.kernelVersionSecdatak = s.sd.kernelVersionSecdatak)
    (hblock : Vb2Keyblock.keyblockFlags s'.workbuf kb' = Vb2Keyblock.keyblockFlags s.workbuf kb)
    (hversion : Vb2PackedKey.keyVersion s'.workbuf (Vb2Keyblock.dataKey kb') =
      Vb2PackedKey.keyVersion s.workbuf (Vb2Keyblock.dataKey kb)) :
    checkKernelKeyblock need kb' valid s' = checkKernelKeyblock need kb valid s := by
  unfold checkKernelKeyblock devFlag recFlag
  rw [hflags, hstored, hblock, hversion]

theorem keyContents_agree {block n : UInt64} (haddr : block.toNat + size < 2 ^ 64)
    (hagree : Mem.Agree (m.window block.toNat) w size) (hin : KeyInside w n.toNat size) :
    keyContents m (block + n) = keyContents w n := by
  have hheader := hin.header
  have hdata := hin.data
  have hn : block.toNat + n.toNat < 2 ^ 64 := by omega
  have hfield (i : Nat) (hi : i + 4 ≤ 32) : le32 m ((block + n).toNat + i) = le32 w (n.toNat + i) := by
    rw [fieldAt_window hn, le32_agree hagree (by omega)]
  have hoffset : (Vb2PackedKey.keyOffset m (block + n)).toNat = fieldAt w n.toNat :=
    congrArg UInt32.toNat (hfield 0 (by decide))
  have hsize : Vb2PackedKey.keySize m (block + n) = Vb2PackedKey.keySize w n := hfield 8 (by decide)
  have hsum : (block + n).toNat = block.toNat + n.toNat := toNat_add_of_inside hn le_rfl
  have hptr : (vb2PackedKeyData m (block + n)).toNat = block.toNat + (n.toNat + fieldAt w n.toNat) := by
    rw [vb2PackedKeyData_toNat (by omega), hoffset, hsum, Nat.add_assoc]
  have hptr' : (vb2PackedKeyData w n).toNat = n.toNat + fieldAt w n.toNat := by
    have hlt := (Vb2PackedKey.keyOffset w n).toNat_lt
    exact vb2PackedKeyData_toNat (by change n.toNat + fieldAt w n.toNat < _; omega)
  rw [keyContents, keyContents, KeyContents.mk.injEq, hptr, hptr', hsize, ← Mem.load_window, hagree.load (by exact hdata)]
  exact ⟨hfield 16 (by decide), hfield 24 (by decide), rfl⟩

/-- The keyblock of a vblock after its signature was looked at. -/
def loadedKeyblock (key : Vb2PublicKey) (v : List UInt8) : Mem :=
  keyblockPowered key (Mem.ofList v) (fieldAt (Mem.ofList v) 16)

/-- The checks of flags and version for the keyblock of a vblock: whether it counts as signed. -/
def keyblockCheck (hash : Vb2HashAlgorithm → List UInt8 → List UInt8) (key : Vb2PublicKey) (ctx : Vb2Context)
    (v : List UInt8) : Except UInt32 Bool :=
  checkKernelKeyblock (vb2NeedSignedKernel ctx) 0
    (decide (KeyblockSigned hash key (Mem.ofList v) (fieldAt (Mem.ofList v) 16)))
    { ctx with workbuf := loadedKeyblock key v }

/-- The keyblock of a vblock is good for a boot with the flags, the nvdata and the version of a context. -/
structure KernelKeyblockGood (hash : Vb2HashAlgorithm → List UInt8 → List UInt8) (key : Vb2PublicKey) (ctx : Vb2Context)
    (v : List UInt8) : Prop where
  header : 112 ≤ v.length
  inside : fieldAt (Mem.ofList v) 16 ≤ v.length
  passes : KeyblockPasses hash key (vb2NeedSignedKernel ctx) (Mem.ofList v) (fieldAt (Mem.ofList v) 16)
  checked : ∃ valid, checkKernelKeyblock (vb2NeedSignedKernel ctx) 0
    (decide (KeyblockSigned hash key (Mem.ofList v) (fieldAt (Mem.ofList v) 16)))
    { ctx with workbuf := loadedKeyblock key v } = .ok valid

/-- The kernel key in the work buffer. -/
def Vb2Context.kernelKey (ctx : Vb2Context) : Except UInt32 Vb2PublicKey :=
  vb2UnpackKey ctx.workbuf (ctx.workbufAddr + ctx.sd.workbufKernelKeyOffset.toUInt64) ctx.sd.workbufKernelKeySize

/-- What a good keyblock leaves for its preamble. -/
structure KernelKeyblockLoaded (key : Vb2PublicKey) (v : List UInt8) (s s' : Vb2Context) : Prop where
  steady : Steady s s'
  preamble : s'.sd.vblockPreambleOffset = le32 (Mem.ofList v) 16
  version : s'.sd.kernelVersion = le32 (loadedKeyblock key v) 104 <<< 16
  offset : s'.sd.workbufDataKeyOffset = s.workbufUsed
  size : s'.sd.workbufDataKeySize.toNat = 32 + fieldAt (loadedKeyblock key v) 88
  used : s'.workbufUsed.toNat = s.workbufUsed.toNat + 32 + fieldAt (loadedKeyblock key v) 88
  inside : 112 + fieldAt (loadedKeyblock key v) 88 ≤ fieldAt (Mem.ofList v) 16
  offsetField : Vb2PackedKey.keyOffset s'.workbuf (s.workbufAddr + s.workbufUsed.toUInt64) = 32
  sizeField : (Vb2PackedKey.keySize s'.workbuf (s.workbufAddr + s.workbufUsed.toUInt64)).toNat =
    fieldAt (loadedKeyblock key v) 88
  contents : keyContents s'.workbuf (s.workbufAddr + s.workbufUsed.toUInt64) =
    keyContents (loadedKeyblock key v) 80

/-- Enough of the work buffer is left for a vblock. -/
def HasRoom (p : KernelPartition align) (ctx : Vb2Context) : Prop :=
  ctx.workbufUsed.toNat + p.vblock.length + 3136 + 4 * align.toNat ≤ ctx.workbufSize.toNat

/-- A data key that is put behind what is in use will be aligned. -/
def KeyAligned (ctx : Vb2Context) : Prop := (ctx.workbufAddr.toNat + ctx.workbufUsed.toNat) % 4 = 0

variable (p : KernelPartition align)

theorem blockReadable_of_room {wb : Vb2Workbuf} {offset header size : UInt32}
    (hroom : p.vblock.length + 3136 + align.toNat ≤ wb.size.toNat + offset.toNat) :
    BlockReadable p offset header size wb ↔
      offset.toNat + header.toNat ≤ p.vblock.length ∧ offset.toNat + size.toNat ≤ p.vblock.length := by
  constructor
  · intro h
    exact ⟨h.header, h.inside⟩
  · rintro ⟨hhead, hinside⟩
    obtain ⟨wb₁, halloc₁, -⟩ := @vb2WorkbufAlloc_room align wb header (by omega)
    obtain ⟨wb₂, halloc₂, -⟩ := @vb2WorkbufAlloc_room align wb size (by omega)
    refine ⟨?_, hhead, ?_, hinside⟩
    · rw [halloc₁]
      exact Option.some_ne_none _
    · rw [halloc₂]
      exact Option.some_ne_none _

theorem room_behind {wb : Vb2Workbuf} {size : UInt32} {n : Nat}
    (h : size.toNat + align.toNat + n ≤ wb.size.toNat) : n ≤ (vb2WorkbufAlloc align wb size).2.size.toNat := by
  obtain ⟨wb', halloc, hle⟩ := @vb2WorkbufAlloc_room align wb size (by omega)
  rw [halloc]
  dsimp only
  omega

theorem fieldAt_keyblockPowered {i : Nat} (hi : i + 4 ≤ 24 + fieldAt w 24) :
    le32 (keyblockPowered key w size) i = le32 w i :=
  le32_agree (keyblockPowered_front w size) hi

theorem KeyblockPasses.dataKeyInside (h : KeyblockPasses hash key need w size)
    (hapart : 112 ≤ 24 + fieldAt w 24) :
    112 ≤ size ∧ DataKeyInside (keyblockPowered key w size) size := by
  rcases h with h | ⟨-, h⟩
  · exact ⟨h.sane.header, h.sane.dataKeyInside.agree ((keyblockPowered_front w size).mono hapart).symm⟩
  · exact ⟨h.sane.header, h.sane.dataKeyInside⟩

theorem saveKernelKeyblock_loaded {s₁ : Vb2Context} (hsteady : Steady s s₁)
    (hused : s₁.workbufUsed = s.workbufUsed) (hkb : s.workbufAddr.toNat + s.workbufUsed.toNat ≤ kb.toNat)
    (hend : kb.toNat + p.keyblockSize.toNat ≤ s.workbufAddr.toNat + s.workbufSize.toNat)
    (hsize : 112 ≤ p.keyblockSize.toNat)
    (hin : DataKeyInside (loadedKeyblock key p.vblock) p.keyblockSize.toNat)
    (hagree : Mem.Agree (s₁.workbuf.window kb.toNat) (loadedKeyblock key p.vblock) p.keyblockSize.toNat)
    (valid : Bool) : KernelKeyblockLoaded key p.vblock s (saveKernelKeyblock kb valid s₁) := by
  have hapart := p.apart
  have haddr := hsteady.valid.address
  rw [hsteady.address, hsteady.size] at haddr
  have h80 : (80 : UInt64).toNat = 80 := rfl
  have hka : kb.toNat + (80 : UInt64).toNat < 2 ^ 64 := by omega
  have hkeySize : (Vb2PackedKey.keySize s₁.workbuf (Vb2Keyblock.dataKey kb)).toNat =
      fieldAt (loadedKeyblock key p.vblock) 88 := by
    rw [← fieldAt_agree hagree (by omega)]
    exact congrArg UInt32.toNat (fieldAt_window hka 8)
  have hblock : le32 (loadedKeyblock key p.vblock) 16 = le32 (Mem.ofList p.vblock) 16 :=
    fieldAt_keyblockPowered (by omega)
  have hsaved := @saveKernelKeyblock_saved _ _ p.keyblockSize hsteady.valid
    (by rw [hsteady.address, hused]; exact hkb) (by rw [hsteady.address, hsteady.size]; exact hend)
    (hin.agree (hagree.symm.mono hsize)) valid
  have hdst : s₁.workbufAddr + s₁.workbufUsed.toUInt64 = s.workbufAddr + s.workbufUsed.toUInt64 := by
    rw [hsteady.address, hused]
  have hkeyIn : KeyInside (loadedKeyblock key p.vblock) 80 p.keyblockSize.toNat :=
    ⟨by omega, hin.key.apart, hin.key.data.trans hin.block⟩
  refine ⟨hsteady.trans hsaved.steady, ?_, ?_, ?_, ?_, ?_, ?_, ?_, ?_, ?_⟩
  · rw [hsaved.preamble, Vb2Keyblock.keyblockSize, ← le32_window, le32_agree hagree (by omega), hblock]
  · have hversion : Vb2PackedKey.keyVersion s₁.workbuf (Vb2Keyblock.dataKey kb) =
        le32 (loadedKeyblock key p.vblock) 104 := (fieldAt_window hka 24).trans (le32_agree hagree (by omega))
    rw [← hversion]
    rfl
  · rw [hsaved.offset, hused]
  · rw [hsaved.size, hkeySize]
  · rw [hsaved.used, hkeySize, hused]
  · have hdata : 80 + fieldAt (loadedKeyblock key p.vblock) 80 + fieldAt (loadedKeyblock key p.vblock) 88 ≤
        fieldAt (loadedKeyblock key p.vblock) 16 := hin.key.data
    have hheader : 112 ≤ fieldAt (loadedKeyblock key p.vblock) 16 := hin.key.header
    have hblockNat : fieldAt (loadedKeyblock key p.vblock) 16 = fieldAt (Mem.ofList p.vblock) 16 :=
      congrArg UInt32.toNat hblock
    by_cases hpos : 0 < fieldAt (loadedKeyblock key p.vblock) 88
    · have hoff : 32 ≤ fieldAt (loadedKeyblock key p.vblock) 80 := hin.key.apart hpos
      omega
    · omega
  · rw [← hdst]
    exact hsaved.offsetField
  · rw [← hdst, hsaved.sizeField, hkeySize]
  · rw [← hdst, hsaved.contents]
    exact keyContents_agree (by omega) hagree hkeyIn

theorem vb2LoadKernelKeyblock_decides (ha : 0 < align.toNat) {s : Vb2Context} (hvalid : WorkbufValid s)
    (hroom : HasRoom p s) (hkey : s.kernelKey = .ok key)
    (hhash : vb2NeedSignedKernel s = true ∨
      (KeyblockSane (Mem.ofList p.vblock) (fieldAt (Mem.ofList p.vblock) 16) 48 →
        HashInside (Mem.ofList p.vblock) (fieldAt (Mem.ofList p.vblock) 16))) :
    Decides (vb2LoadKernelKeyblock align hash p.ex) s (KernelKeyblockGood hash key s p.vblock) fun _ s' =>
      KernelKeyblockLoaded key p.vblock s s' ∧
      keyblockCheck hash key s p.vblock = .ok (decide (s'.sd.flags &&& vb2SdFlagKernelSigned ≠ 0)) := by
  unfold HasRoom at hroom
  have haddr := hvalid.address
  have hapart := p.apart
  have hwb := vb2WorkbufFromCtx_room hvalid ha (by omega)
  have husable := vb2UnpackKey_usable hkey
  have h0 : (0 : UInt32).toNat = 0 := rfl
  have h112 : vb2KeyblockHeaderSize.toNat = 112 := rfl
  rw [vb2LoadKernelKeyblock]
  refine decides_observe_bind (decides_observe_bind (decides_update_bind ?_))
  refine decides_inspect_bind (a := key) hkey ?_
  have hreadable := @blockReadable_of_room align p (vb2WorkbufFromCtx align s) 0 vb2KeyblockHeaderSize
    p.keyblockSize (by omega)
  rw [h0, h112, Nat.zero_add, Nat.zero_add] at hreadable
  refine (readKernelKeyblock_decides p _ _).seq (fun h => hreadable.mpr ⟨h.header, h.inside⟩) ?_
  rintro hread _ s₁ ⟨rfl, hblock⟩
  obtain ⟨hkb, hend⟩ := readable_inside p ha hvalid hread
  obtain ⟨hhead, hinside⟩ := hreadable.mp hread
  have hagree := hblock.agree_zero
  obtain ⟨m₁, rfl, hm₁⟩ := hblock.behind
  have hspace : 3136 + 2 * align.toNat ≤
      (vb2WorkbufAlloc align (vb2WorkbufFromCtx align s) p.keyblockSize).2.size.toNat :=
    room_behind (by omega)
  dsimp only at hagree hm₁ ⊢
  generalize (vb2WorkbufFromCtx align s).buf = kb at hkb hend hagree hm₁ ⊢
  have hhash' : vb2NeedSignedKernel s = true ∨
      (KeyblockSane (keyblockPowered key (Mem.ofList p.vblock) p.keyblockSize.toNat) p.keyblockSize.toNat 48 →
        HashInside (keyblockPowered key (Mem.ofList p.vblock) p.keyblockSize.toNat) p.keyblockSize.toNat) := by
    refine hhash.imp_right fun h hsane => ?_
    rw [HashInside, fieldAt, fieldAt_keyblockPowered (by omega)]
    exact h (hsane.agree ((keyblockPowered_front _ _).mono hapart) le_rfl (by decide))
  refine (verifyKernelKeyblock_decides husable hspace (by omega) hagree hhash').seq (·.passes) ?_
  rintro hpass valid s₂ ⟨rfl, ⟨m₂, rfl, hm₂⟩, hagree'⟩
  obtain ⟨hheader, hin⟩ := hpass.dataKeyInside hapart
  dsimp only at hagree' hm₂ ⊢
  have h80 : (80 : UInt64).toNat = 80 := rfl
  have hka : kb.toNat + (80 : UInt64).toNat < 2 ^ 64 := by omega
  have hchecks : checkKernelKeyblock (vb2NeedSignedKernel s) kb
      (decide (KeyblockSigned hash key (Mem.ofList p.vblock) p.keyblockSize.toNat)) (s.unsigned m₂) =
        keyblockCheck hash key s p.vblock := by
    refine checkKernelKeyblock_congr rfl rfl ?_ ?_
    · change le32 m₂ (kb.toNat + 72) = le32 (loadedKeyblock key p.vblock) 72
      rw [← le32_window, le32_agree hagree' (by omega)]
      rfl
    · change le32 m₂ ((kb + 80).toNat + 24) = le32 (loadedKeyblock key p.vblock) 104
      rw [fieldAt_window hka]
      exact le32_agree hagree' (by omega)
  have hcheck := decides_inspect (checkKernelKeyblock (vb2NeedSignedKernel s) kb
    (decide (KeyblockSigned hash key (Mem.ofList p.vblock) p.keyblockSize.toNat))) (s.unsigned m₂)
  rw [hchecks] at hcheck
  refine hcheck.seq (·.checked) ?_
  rintro hchecked valid' s₃ ⟨hvalid', hs₃⟩
  rw [hs₃]
  refine decides_update_bind (decides_update ⟨hhead, hinside, hpass, hchecked⟩ ?_)
  have hflag : valid' = decide ((saveKernelKeyblock kb valid' (s.unsigned m₂)).sd.flags &&&
      vb2SdFlagKernelSigned ≠ 0) := by
    cases valid' with
    | true =>
      refine (decide_eq_true ?_).symm
      change (_ ||| vb2SdFlagKernelSigned) &&& vb2SdFlagKernelSigned ≠ 0
      rw [Flags.or_and_self]
      decide
    | false => exact (decide_eq_false (not_not.mpr (Flags.clear_and_self _ _))).symm
  have hsteady : Steady s (s.unsigned m₂) :=
    ⟨rfl, rfl, rfl, rfl, rfl, rfl, rfl, le_rfl, ⟨hvalid.used, hvalid.address⟩,
      fun x hx => (hm₂ x (by omega)).trans (hm₁ x (by omega))⟩
  refine ⟨saveKernelKeyblock_loaded p hsteady rfl hkb hend hheader hin hagree' valid', ?_⟩
  rw [hvalid']
  exact congrArg Except.ok hflag

theorem decides_onWorkbuf {α : Type} {x : Program UInt32 Mem α} {P : Prop} {Q : α → Mem → Prop}
    (h : x.Decides s.workbuf P Q) :
    (onWorkbuf x).Decides s P fun a s' => ∃ m, s' = { s with workbuf := m } ∧ Q a m where
  accept hp := by
    obtain ⟨a, m, hx, hq⟩ := h.accept hp
    exact ⟨a, _, onWorkbuf_ok.mpr ⟨m, hx, rfl⟩, m, rfl, hq⟩
  refuse hp := by
    obtain ⟨e, m, hx⟩ := h.refuse hp
    refine ⟨e, { s with workbuf := m }, ?_⟩
    rw [onWorkbuf, zoom, hx]

/-- The bytes of a vblock behind its keyblock. -/
def preambleBytes (v : List UInt8) : Mem := (Mem.ofList v).window (fieldAt (Mem.ofList v) 16)

def loadedPreamble (dataKey : Vb2PublicKey) (v : List UInt8) : Mem :=
  powered dataKey (preambleBytes v) (fieldAt (preambleBytes v) 0) 8

structure KernelPreambleVerified (hash : Vb2HashAlgorithm → List UInt8 → List UInt8) (dataKey : Vb2PublicKey)
    (v : List UInt8) : Prop where
  header : fieldAt (Mem.ofList v) 16 + 116 ≤ v.length
  inside : fieldAt (Mem.ofList v) 16 + fieldAt (preambleBytes v) 0 ≤ v.length
  signed : KernelPreambleSigned hash dataKey (preambleBytes v) (fieldAt (preambleBytes v) 0)

variable {dataKey : Vb2PublicKey}

theorem loadKernelPreamble_decides (hkey : UsableKey dataKey) (ha : 0 < align.toNat)
    {s : Vb2Context} (hvalid : WorkbufValid s) (hoffset : s.sd.vblockPreambleOffset = le32 (Mem.ofList p.vblock) 16)
    (hinside : fieldAt (Mem.ofList p.vblock) 16 ≤ p.vblock.length)
    (hroom : s.workbufUsed.toNat + p.vblock.length + 3136 + 4 * align.toNat ≤
      s.workbufSize.toNat + fieldAt (Mem.ofList p.vblock) 16) :
    Decides (loadKernelPreamble align hash p.ex dataKey) s (KernelPreambleVerified hash dataKey p.vblock) fun r s' =>
      ∃ m, s' = { s with workbuf := m } ∧
        Mem.Agree (m.window r.1.toNat) (loadedPreamble dataKey p.vblock) (fieldAt (preambleBytes p.vblock) 0) := by
  have haddr := hvalid.address
  have h116 : vb2KernelPreambleHeaderSize.toNat = 116 := rfl
  have hoff : (le32 (Mem.ofList p.vblock) 16).toNat = fieldAt (Mem.ofList p.vblock) 16 := rfl
  rw [loadKernelPreamble_eq]
  refine decides_observe_bind (decides_observe_bind ?_)
  rw [hoffset]
  have hwb := vb2WorkbufFromCtx_room hvalid ha (by omega)
  have hreadable := @blockReadable_of_room align p (vb2WorkbufFromCtx align s) (le32 (Mem.ofList p.vblock) 16)
    vb2KernelPreambleHeaderSize (p.preambleSize (le32 (Mem.ofList p.vblock) 16)) (by omega)
  have hread := @readBlock_decides align p (le32 (Mem.ofList p.vblock) 16) vb2KernelPreambleHeaderSize
    (p.preambleSize (le32 (Mem.ofList p.vblock) 16)) 0 (by decide) rfl
    vb2ErrorKernelPreamble2WorkbufHeader vb2ErrorKernelPreamble2Workbuf (vb2WorkbufFromCtx align s) s
  rw [h116] at hreadable
  refine hread.seq (fun h => hreadable.mpr ⟨h.header, h.inside⟩) ?_
  rintro hr _ s₁ ⟨rfl, hblock⟩
  obtain ⟨-, hend⟩ := readable_inside p ha hvalid hr
  have hin := hr.inside
  have hsize : (p.preambleSize (le32 (Mem.ofList p.vblock) 16)).toNat = fieldAt (preambleBytes p.vblock) 0 := rfl
  have hagree : Mem.Agree (s₁.workbuf.window (vb2WorkbufFromCtx align s).buf.toNat) (preambleBytes p.vblock)
    (fieldAt (preambleBytes p.vblock) 0) := hblock.agree
  have hspace : 3136 + 2 * align.toNat ≤ (vb2WorkbufAlloc align (vb2WorkbufFromCtx align s)
      (p.preambleSize (le32 (Mem.ofList p.vblock) 16))).2.size.toNat := room_behind (by omega)
  obtain ⟨m₁, rfl, -⟩ := hblock.behind
  dsimp only at hagree ⊢
  generalize (vb2WorkbufFromCtx align s).buf = pre at hend hagree ⊢
  have hverify := @vb2VerifyKernelPreamble_window align hash dataKey hkey _ (verifySpace_of_room hkey hspace) m₁ pre
    (p.preambleSize (le32 (Mem.ofList p.vblock) 16)) (by omega)
  rw [hsize] at hverify
  refine (decides_onWorkbuf (s := { s with workbuf := m₁ }) hverify).seq (fun h => h.signed.agree hagree.symm) ?_
  rintro hsigned _ _ ⟨m₂, rfl, hm₂, -⟩
  refine decides_pure ⟨hr.header, hin, hsigned.agree hagree⟩ ⟨m₂, rfl, ?_⟩
  rw [hm₂]
  exact powered_agree hagree (hsigned.sane.signature.mono hsigned.sane.inside)

structure KernelPreambleGood (hash : Vb2HashAlgorithm → List UInt8 → List UInt8) (dataKey : Vb2PublicKey)
    (keyVersion : UInt32) (ctx : Vb2Context) (v : List UInt8) : Prop where
  verified : KernelPreambleVerified hash dataKey v
  range : ¬ le32 (loadedPreamble dataKey v) 40 > 0xffff
  rollback : ¬ (vb2NeedSignedKernel ctx ∧
    keyVersion <<< 16 ||| le32 (loadedPreamble dataKey v) 40 < ctx.sd.kernelVersionSecdatak)

theorem vb2NeedSignedKernel_congr (hflags : b.flags = a.flags) (hnv : b.nvdata = a.nvdata) :
    vb2NeedSignedKernel b = vb2NeedSignedKernel a := by
  unfold vb2NeedSignedKernel vb2NvGet
  rw [hflags, hnv]

/-- A vblock is good for a kernel key and a boot with the flags, the nvdata and the version of a context. -/
structure KernelVblockGood (hash : Vb2HashAlgorithm → List UInt8 → List UInt8) (key : Vb2PublicKey)
    (ctx : Vb2Context) (v : List UInt8) : Prop where
  keyblock : KernelKeyblockGood hash key ctx v
  preamble : ∃ dataKey, unpackContents (keyContents (loadedKeyblock key v) 80) = .ok dataKey ∧
    KernelPreambleGood hash dataKey (le32 (loadedKeyblock key v) 104) ctx v

section
variable (h : KernelKeyblockLoaded key p.vblock s s')
include h

theorem loaded_inside :
    (s.workbufAddr + s.workbufUsed.toUInt64).toNat = s.workbufAddr.toNat + s.workbufUsed.toNat ∧
    (vb2PackedKeyData s'.workbuf (s.workbufAddr + s.workbufUsed.toUInt64)).toNat =
      s.workbufAddr.toNat + s.workbufUsed.toNat + 32 ∧
    vb2VerifyPackedKeyInside s'.workbuf (s.workbufAddr + s.workbufUsed.toUInt64) s'.sd.workbufDataKeySize
      (s.workbufAddr + s.workbufUsed.toUInt64) = .ok () := by
  have hused := UInt32.le_iff_toNat_le.mp h.steady.valid.used
  have haddr := h.steady.valid.address
  have hnext := h.used
  have h32 : (32 : UInt32).toNat = 32 := rfl
  have hadd := congrArg UInt64.toNat h.steady.address
  have hdst := @toNat_add_offset s.workbufAddr s.workbufUsed (by omega)
  refine ⟨hdst, ?_, ?_⟩
  · rw [vb2PackedKeyData_toNat (by rw [h.offsetField, hdst, h32]; omega), h.offsetField, hdst, h32]
  · rw [vb2VerifyPackedKeyInside_self, h.offsetField, h.sizeField, h.size, hdst, h32]
    omega

omit h in
theorem vb2Aligned_four (ptr : UInt64) : vb2Aligned ptr 4 = true ↔ ptr.toNat % 4 = 0 := by
  have hand : (ptr &&& (4 - 1)).toNat = ptr.toNat % 4 := by
    rw [UInt64.toNat_and]
    exact Nat.and_two_pow_sub_one_eq_mod _ 2
  rw [vb2Aligned, decide_eq_true_eq, ← UInt64.toNat_inj, hand, UInt64.toNat_zero]

omit h in
theorem unpack_loaded (haligned : KeyAligned s) (h : KernelKeyblockLoaded key p.vblock s s') :
    s'.dataKey = unpackContents (keyContents (loadedKeyblock key p.vblock) 80) := by
  unfold KeyAligned at haligned
  obtain ⟨-, hptr, hin⟩ := loaded_inside p h
  rw [Vb2Context.dataKey, h.offset, h.steady.address, ← h.contents]
  refine vb2UnpackKey_eq hin ((vb2Aligned_four _).mpr ?_)
  omega

omit h in
theorem unpack_misaligned (haligned : ¬ KeyAligned s) (h : KernelKeyblockLoaded key p.vblock s s') :
    ∃ e, s'.dataKey = .error e := by
  unfold KeyAligned at haligned
  obtain ⟨-, hptr, -⟩ := loaded_inside p h
  cases hkey : s'.dataKey with
  | error e => exact ⟨e, rfl⟩
  | ok dataKey =>
    rw [Vb2Context.dataKey, h.offset, h.steady.address] at hkey
    have hmod := (vb2Aligned_four _).mp (vb2UnpackKey_ok hkey).2.2.1
    omega

theorem unpackDataKey_eq :
    (do
      reject (s'.sd.workbufDataKeySize = 0) vb2ErrorKernelPreamble2DataKey
      s'.dataKey : Except UInt32 Vb2PublicKey) = s'.dataKey := by
  refine reject_bind_of_not fun hzero => ?_
  have hz := h.size
  rw [hzero, UInt32.toNat_zero] at hz
  omega

theorem vb2LoadKernelPreamble_refused {e : UInt32}
    (hkey : s'.dataKey = .error e) : vb2LoadKernelPreamble align hash p.ex s' = (.error e, s') :=
  inspect_bind_of_error ((unpackDataKey_eq p h).trans hkey)

end

theorem vb2LoadKernelPreamble_decides (ha : 0 < align.toNat)
    (hroom : HasRoom p s) (haligned : KeyAligned s) (h : KernelKeyblockLoaded key p.vblock s s')
    (hinside : fieldAt (Mem.ofList p.vblock) 16 ≤ p.vblock.length)
    (hkey : unpackContents (keyContents (loadedKeyblock key p.vblock) 80) = .ok dataKey) :
    Decides (vb2LoadKernelPreamble align hash p.ex) s'
      (KernelPreambleGood hash dataKey (le32 (loadedKeyblock key p.vblock) 104) s p.vblock) fun _ _ => True := by
  unfold HasRoom at hroom
  have hused := h.used
  have hkeyIn := h.inside
  have hsize := congrArg UInt32.toNat h.steady.size
  rw [vb2LoadKernelPreamble]
  refine decides_inspect_bind (((unpackDataKey_eq p h).trans (unpack_loaded p haligned h)).trans hkey) ?_
  have hload := @loadKernelPreamble_decides align hash p _ (unpackContents_usable hkey) ha _ h.steady.valid h.preamble
    hinside (by omega)
  refine hload.seq (·.verified) ?_
  rintro hv ⟨pre, preSize⟩ s₁ ⟨m, rfl, hagree⟩
  have hheader := hv.signed.sane.header
  dsimp only at hagree ⊢
  have hversion : Vb2KernelPreamble.kernelVersion m pre = le32 (loadedPreamble dataKey p.vblock) 40 := by
    rw [Vb2KernelPreamble.kernelVersion, ← le32_window]
    exact le32_agree hagree (by omega)
  refine decides_observe_bind ?_
  dsimp only
  rw [hversion]
  refine (decides_reject (fun _ => le32 (loadedPreamble dataKey p.vblock) 40 > 0xffff) _ _).seq (·.range) ?_
  rintro hrange _ s₂ hs₂
  rw [hs₂]
  refine decides_update_bind (((decides_reject (fun ctx : Vb2Context => vb2NeedSignedKernel ctx ∧
    ctx.sd.kernelVersion < ctx.sd.kernelVersionSecdatak) _ _).mono ?_ fun _ _ _ h => h).seq (·.rollback)
      fun hrollback _ _ _ => decides_update ⟨hv, hrange, hrollback⟩ trivial)
  dsimp only
  rw [h.version, h.steady.stored]
  refine not_congr (and_congr_left fun _ => iff_of_eq (congrArg (· = true) ?_))
  exact vb2NeedSignedKernel_congr (by exact h.steady.flags) (by exact h.steady.nvdata)

theorem vb2apiLoadKernelVblock_decides (ha : 0 < align.toNat) {s : Vb2Context} (hvalid : WorkbufValid s)
    (hroom : HasRoom p s) (hkey : s.kernelKey = .ok key)
    (hhash : vb2NeedSignedKernel s = true ∨ HashInside (Mem.ofList p.vblock) (fieldAt (Mem.ofList p.vblock) 16)) :
    Decides (vb2apiLoadKernelVblock align hash p.ex) s (KeyAligned s ∧ KernelVblockGood hash key s p.vblock)
      fun _ _ => True := by
  have hkeyblock := (@vb2LoadKernelKeyblock_decides align hash key p ha s hvalid hroom hkey
    (hhash.imp_right fun h _ => h)).mono Iff.rfl fun _ _ _ h => h.1
  refine hkeyblock.seq (·.2.keyblock) ?_
  intro hgood _ s' hloaded
  by_cases haligned : KeyAligned s
  · cases hdata : unpackContents (keyContents (loadedKeyblock key p.vblock) 80) with
    | error e =>
      refine ⟨?_, fun _ => ⟨e, s', vb2LoadKernelPreamble_refused p hloaded
        ((unpack_loaded p haligned hloaded).trans hdata)⟩⟩
      rintro ⟨-, -, dataKey, h, -⟩
      cases hdata.symm.trans h
    | ok dataKey =>
      refine (vb2LoadKernelPreamble_decides p ha hroom haligned hloaded hgood.inside hdata).mono ?_ fun _ _ _ h => h
      constructor
      · intro h
        exact ⟨haligned, hgood, dataKey, hdata, h⟩
      · rintro ⟨-, -, dataKey', h, hg⟩
        cases hdata.symm.trans h
        exact hg
  · obtain ⟨e, he⟩ := unpack_misaligned p haligned hloaded
    exact ⟨fun h => absurd h.1 haligned, fun _ => ⟨e, s', vb2LoadKernelPreamble_refused p hloaded he⟩⟩

/-- With enough of the work buffer left the verdict on a vblock is about the vblock, the kernel key, the
mode and the version in secdatak, and about how much of the work buffer is in use. -/
theorem vb2apiLoadKernelVblock_verdict (ha : 0 < align.toNat) (hvalid : WorkbufValid s)
    (hroom : HasRoom p s)
    (hhash : vb2NeedSignedKernel s = true ∨ HashInside (Mem.ofList p.vblock) (fieldAt (Mem.ofList p.vblock) 16)) :
    (vb2apiLoadKernelVblock align hash p.ex s).1.isOk = true ↔ ∃ key, s.kernelKey = .ok key ∧
      KeyAligned s ∧ KernelVblockGood hash key s p.vblock := by
  cases hkey : s.kernelKey with
  | error e =>
    have hrun : ∃ s', vb2LoadKernelKeyblock align hash p.ex s = (.error e, s') := by
      rw [vb2LoadKernelKeyblock, observe_bind, observe_bind, update_bind]
      exact ⟨_, inspect_bind_of_error hkey⟩
    obtain ⟨s', hs'⟩ := hrun
    rw [vb2apiLoadKernelVblock, bind_of_error hs']
    refine iff_of_false (fun h => by cases h) ?_
    rintro ⟨key, h, -⟩
    cases h
  | ok key =>
    rw [(@vb2apiLoadKernelVblock_decides align hash key p ha s hvalid hroom hkey hhash).isOk_iff]
    constructor
    · intro h
      exact ⟨key, rfl, h⟩
    · rintro ⟨key', h, hg⟩
      cases h
      exact hg

theorem KernelVblockGood.congr {v : List UInt8} (h : KernelVblockGood hash key a v)
    (hflags : b.flags = a.flags) (hnv : b.nvdata = a.nvdata)
    (hstored : b.sd.kernelVersionSecdatak = a.sd.kernelVersionSecdatak) :
    KernelVblockGood hash key b v := by
  have hneed := vb2NeedSignedKernel_congr hflags hnv
  obtain ⟨hkeyblock, dataKey, hdata, hpreamble⟩ := h
  refine ⟨⟨hkeyblock.header, hkeyblock.inside, ?_, ?_⟩, dataKey, hdata, ⟨hpreamble.verified, hpreamble.range, ?_⟩⟩
  · rw [hneed]
    exact hkeyblock.passes
  · obtain ⟨valid, hvalid⟩ := hkeyblock.checked
    refine ⟨valid, ?_⟩
    rw [hneed, ← hvalid]
    exact checkKernelKeyblock_congr hflags hstored rfl rfl
  · rw [hneed, hstored]
    exact hpreamble.rollback

/-- The vblock of a partition is good for the kernel key that phase 1 left. -/
def GoodFor (hash : Vb2HashAlgorithm → List UInt8 → List UInt8) (start : Vb2Context) (v : List UInt8) : Prop :=
  ∃ key, vb2UnpackKey start.workbuf (start.workbufAddr + start.sd.workbufKernelKeyOffset.toUInt64)
    start.sd.workbufKernelKeySize = .ok key ∧ KernelVblockGood hash key start v

structure KernelKeyInUse (ctx : Vb2Context) : Prop where
  valid : WorkbufValid ctx
  key : ctx.sd.workbufKernelKeyOffset.toNat + ctx.sd.workbufKernelKeySize.toNat ≤ ctx.workbufUsed.toNat

theorem Steady.unpackKernelKey (h : Steady a b) (ha : KernelKeyInUse a) {kernelKey : Vb2PublicKey} :
    b.kernelKey = .ok kernelKey ↔ a.kernelKey = .ok kernelKey := by
  have hkey := ha.key
  have hused := UInt32.le_iff_toNat_le.mp ha.valid.used
  have haddr := ha.valid.address
  have hplace := @toNat_add_offset a.workbufAddr a.sd.workbufKernelKeyOffset (by omega)
  rw [Vb2Context.kernelKey, h.address, h.keyOffset, h.keySize]
  exact ⟨fun hk => vb2UnpackKey_of_same hk fun i hi => (h.below _ (by omega)).symm,
    fun hk => vb2UnpackKey_of_same hk fun i hi => h.below _ (by omega)⟩

/-- After any attempts that leave enough of the work buffer a vblock is accepted if it is good for the
kernel key of phase 1, and its data key will be aligned. -/
theorem loadStep_verdict (ha : 0 < align.toNat) {start : Vb2Context} (hstart : KernelKeyInUse start)
    (ps : List (KernelPartition align)) (hroom : HasRoom p (run (loadStep align hash) (false, start) (ps.map (·.ex))).2)
    (hhash : vb2NeedSignedKernel start = true ∨
      HashInside (Mem.ofList p.vblock) (fieldAt (Mem.ofList p.vblock) 16)) :
    (run (loadStep align hash) (false, start) ((ps ++ [p]).map (·.ex))).1 = true ↔
      KeyAligned (run (loadStep align hash) (false, start) (ps.map (·.ex))).2 ∧ GoodFor hash start p.vblock := by
  have hsteady : Steady start (run (loadStep align hash) (false, start) (ps.map (·.ex))).2 :=
    run_loadStep_steady (s := (false, start)) ha hstart.valid ps
  rw [List.map_append, run_append]
  generalize (run (loadStep align hash) (false, start) (ps.map (·.ex))) = t at hsteady hroom ⊢
  have hneed := vb2NeedSignedKernel_congr hsteady.flags hsteady.nvdata
  change (vb2apiLoadKernelVblock align hash p.ex t.2).1.isOk = true ↔ _
  rw [vb2apiLoadKernelVblock_verdict p ha hsteady.valid hroom (by rw [hneed]; exact hhash)]
  constructor
  · rintro ⟨key, hkey, haligned, hgood⟩
    exact ⟨haligned, key, (hsteady.unpackKernelKey hstart).mp hkey,
      hgood.congr hsteady.flags.symm hsteady.nvdata.symm hsteady.stored.symm⟩
  · rintro ⟨haligned, key, hkey, hgood⟩
    exact ⟨key, (hsteady.unpackKernelKey hstart).mpr hkey, haligned,
      hgood.congr hsteady.flags hsteady.nvdata hsteady.stored⟩

end

/-- Phase 1 leaves nothing in use behind the kernel key. -/
theorem vb2apiKernelPhase1_used {align : UInt32} {ex : Vb2Ex} {s start : Vb2Context}
    (h : vb2apiKernelPhase1 align ex s = (.ok (), start)) :
    start.workbufUsed = start.sd.workbufKernelKeyOffset + start.sd.workbufKernelKeySize := by
  rw [vb2apiKernelPhase1, observe_bind] at h
  obtain ⟨_, s₁, -, h₁⟩ := bind_ok.mp h
  rw [observe_bind] at h₁
  have hsave {x : Vb2M (UInt64 × UInt32)}
      (hx : (x >>= fun r => update (saveKernelKey r.1 r.2)) s₁ = (.ok (), start)) :
      start.workbufUsed = start.sd.workbufKernelKeyOffset + start.sd.workbufKernelKeySize := by
    obtain ⟨r, s₂, -, h₂⟩ := bind_ok.mp hx
    rw [update_ok.mp h₂]
    rfl
  split_ifs at h₁ with hmode
  · exact hsave h₁
  · exact hsave h₁

def readVblock (v : List UInt8) : Vb2Ex where
  readResource _ _ offset size :=
    if offset.toNat + size.toNat ≤ v.length then .ok ((Mem.ofList v).window offset.toNat) else .error 1
  tpmClearOwner _ := 0

def KernelPartition.ofVblock {align : UInt32} (v : List UInt8) (fits : v.length + align.toNat ≤ 2 ^ 32)
    (apart : 112 ≤ 24 + fieldAt (Mem.ofList v) 24) : KernelPartition align where
  ex := readVblock v
  vblock := v
  fits := fits
  apart := apart
  read _ _ _ h := ⟨_, if_pos h, fun _ _ => rfl⟩
  short _ _ _ h := ⟨1, if_neg (Nat.not_le.mpr h)⟩

theorem KernelPartition.vblock_ofVblock {align : UInt32} {v : List UInt8} (fits : v.length + align.toNat ≤ 2 ^ 32)
    (apart : 112 ≤ 24 + fieldAt (Mem.ofList v) 24) : (KernelPartition.ofVblock v fits apart).vblock = v := rfl

/-- After phase 1 the verdict on a vblock is the same after two histories of attempts that leave enough of
the work buffer, exactly if the vblock is bad, or both or none of them leave the next data key aligned. -/
theorem kernel_verdict_same {align : UInt32} {hash : Vb2HashAlgorithm → List UInt8 → List UInt8}
    (ha : 0 < align.toNat) {ex : Vb2Ex} {s start : Vb2Context} (hphase : vb2apiKernelPhase1 align ex s = (.ok (), start))
    (hvalid : WorkbufValid start)
    (hkey : start.sd.workbufKernelKeyOffset.toNat + start.sd.workbufKernelKeySize.toNat < 2 ^ 32)
    (p : KernelPartition align)
    (hhash : vb2NeedSignedKernel start = true ∨
      HashInside (Mem.ofList p.vblock) (fieldAt (Mem.ofList p.vblock) 16))
    (ps qs : List (KernelPartition align))
    (hps : HasRoom p (run (loadStep align hash) (false, start) (ps.map (·.ex))).2)
    (hqs : HasRoom p (run (loadStep align hash) (false, start) (qs.map (·.ex))).2) :
    (run (loadStep align hash) (false, start) ((ps ++ [p]).map (·.ex))).1 =
        (run (loadStep align hash) (false, start) ((qs ++ [p]).map (·.ex))).1 ↔
      (GoodFor hash start p.vblock →
        (KeyAligned (run (loadStep align hash) (false, start) (ps.map (·.ex))).2 ↔
          KeyAligned (run (loadStep align hash) (false, start) (qs.map (·.ex))).2)) := by
  have hstart : KernelKeyInUse start := by
    refine ⟨hvalid, ?_⟩
    rw [vb2apiKernelPhase1_used hphase, UInt32.toNat_add, Nat.mod_eq_of_lt hkey]
  rw [Bool.eq_iff_iff, loadStep_verdict p ha hstart ps hps hhash, loadStep_verdict p ha hstart qs hqs hhash]
  exact and_congr_left_iff

def keyblockSum (alg : Vb2HashAlgorithm) (bytes : List UInt8) : List UInt8 :=
  if alg = .sha512 then bytes.sum :: List.replicate 63 0 else sumHash alg bytes

/-- A keyblock with a hash but no signature. -/
def hashedKeyblock (data : List UInt8) : List UInt8 :=
  let signed := vb2KeyBlockMagic ++ [2, 0, 0, 0, 1, 0, 0, 0] ++ leBytes64 (UInt64.ofNat (176 + data.length)) ++
    leBytes64 88 ++ leBytes64 0 ++ leBytes64 0 ++ leBytes64 (UInt64.ofNat (64 + data.length)) ++ leBytes64 64 ++
    leBytes64 (UInt64.ofNat (112 + data.length)) ++ leBytes64 15 ++ samplePackedKey 0 data
  signed ++ keyblockSum .sha512 signed

theorem length_hashedKeyblock (data : List UInt8) : (hashedKeyblock data).length = 176 + data.length := by
  simp [hashedKeyblock, samplePackedKey, keyblockSum, length_leBytes64, vb2KeyBlockMagic]
  omega

def goodVblock : List UInt8 := hashedKeyblock (sampleKeyData 32) ++ (samplePreamble 116 168 0).load 0x1000 244

/-- One whose data key has one byte, and whose preamble is missing. -/
def oddVblock : List UInt8 := hashedKeyblock [0]

def goodPartition : KernelPartition 16 := .ofVblock goodVblock (by decide +kernel) (by decide +kernel)

def oddPartition : KernelPartition 16 := .ofVblock oddVblock (by decide +kernel) (by decide +kernel)

/-- A boot in developer mode, with the kernel subkey in the preamble of the firmware. -/
def developerBoot : Vb2Context :=
  { sampleContext with
    flags := vb2ContextDeveloperMode
    secdatak := Secdatak.regenCrc (Vector.ofFn fun i => [0, 0x4c, 0x57, 0x52, 0x47].getD i 0)
    sd := { Vb2SharedData.zero with workbufPreambleOffset := 0x200, workbufPreambleSize := 0x200 }
    workbuf := Mem.store (fun _ => 0) 0x10230 (samplePackedKey 0 (sampleKeyData 32))
    workbufUsed := 0x400 }

def developerStart : Vb2Context := (vb2apiKernelPhase1 16 (readVblock []) developerBoot).2

theorem developerStart_phase1 : vb2apiKernelPhase1 16 (readVblock []) developerBoot = (.ok (), developerStart) := by
  obtain ⟨_, s', h⟩ := @ok_of_isOk _ _ _ developerBoot (vb2apiKernelPhase1 16 (readVblock [])) (by decide +kernel)
  rw [developerStart, h]

theorem developerStart_inUse : KernelKeyInUse developerStart := by
  have hused : developerStart.workbufUsed = 0x1a8 := by decide +kernel
  have hsize : developerStart.workbufSize = 0x4000 := by decide +kernel
  have haddr : developerStart.workbufAddr = 0x10000 := by decide +kernel
  have hkey : developerStart.sd.workbufKernelKeyOffset = 0x80 := by decide +kernel
  have hkeySize : developerStart.sd.workbufKernelKeySize = 296 := by decide +kernel
  refine ⟨⟨?_, ?_⟩, ?_⟩
  · rw [hused, hsize]
    decide
  · rw [haddr, hsize]
    decide
  · rw [hkey, hkeySize, hused]
    decide

theorem goodPreamble_signed : KernelPreambleSigned keyblockSum sampleKey (preambleBytes goodVblock) 244 where
  sane := ⟨by decide +kernel, by decide +kernel, by decide +kernel, by decide +kernel, by decide +kernel,
    by decide +kernel⟩
  signed := by
    have hsig : sigBytes (preambleBytes goodVblock) 8 = sampleSignature := by decide +kernel
    have hhash : keyblockSum sampleKey.hashAlg
        ((preambleBytes goodVblock).load 0 (fieldAt (preambleBytes goodVblock) (8 + 16))) = sampleDigest := by
      decide +kernel
    refine ⟨by decide +kernel, by decide +kernel, ?_⟩
    rw [hsig, hhash]
    exact sampleSignature_rsa
  members := by
    have hfront : 116 ≤ 8 + fieldAt (preambleBytes goodVblock) 8 := by decide +kernel
    have hmembers : KernelPreambleMembers (preambleBytes goodVblock) :=
      ⟨by decide +kernel, by decide +kernel, fun h => absurd (by decide +kernel) h,
        fun h => absurd (by decide +kernel) h⟩
    exact hmembers.agree ((powered_front _ _ _).mono hfront).symm le_rfl

theorem goodVblock_good : GoodFor keyblockSum developerStart goodVblock := by
  have hneed : vb2NeedSignedKernel developerStart = false := by decide +kernel
  have hsigned : ¬ KeyblockSane (Mem.ofList goodVblock) (fieldAt (Mem.ofList goodVblock) 16) 24 := by decide +kernel
  have hloaded : loadedKeyblock sampleKey goodVblock = Mem.ofList goodVblock := by
    rw [loadedKeyblock, keyblockPowered, if_neg hsigned]
  have hsize : fieldAt (preambleBytes goodVblock) 0 = 244 := by decide +kernel
  have hversion : le32 (loadedPreamble sampleKey goodVblock) 40 = 168 := by
    refine (le32_agree (powered_front _ _ _) (by decide +kernel)).trans ?_
    decide +kernel
  refine ⟨sampleKey, by decide +kernel, ⟨by decide +kernel, by decide +kernel, .inr ⟨hneed, ?_⟩, ?_⟩, sampleKey, ?_,
    ⟨⟨by decide +kernel, by decide +kernel, ?_⟩, ?_, ?_⟩⟩
  · change KeyblockHashed _ (loadedKeyblock sampleKey goodVblock) _
    rw [hloaded]
    exact ⟨by decide +kernel, by decide +kernel⟩
  · refine ⟨false, ?_⟩
    rw [hneed, hloaded, decide_eq_false fun h => hsigned h.sane]
    decide +kernel
  · rw [hloaded]
    decide +kernel
  · rw [hsize]
    exact goodPreamble_signed
  · rw [hversion]
    decide
  · rw [hneed]
    exact fun h => Bool.false_ne_true h.1

set_option maxRecDepth 4000 in
theorem goodPartition_hash : vb2NeedSignedKernel developerStart = true ∨
    HashInside (Mem.ofList goodPartition.vblock) (fieldAt (Mem.ofList goodPartition.vblock) 16) := by
  right
  unfold HashInside
  decide

theorem length_sampleKeyData {n : Nat} (hn : 0 < n) : (sampleKeyData n).length = 8 + 8 * n := by
  simp [sampleKeyData, length_leBytes32]
  omega

theorem length_goodPartition : goodPartition.vblock.length = 684 := by
  rw [goodPartition, KernelPartition.vblock_ofVblock, goodVblock, List.length_append, length_hashedKeyblock,
    Mem.length_load, length_sampleKeyData (by decide)]

theorem goodPartition_room {start : Vb2Context} (hvalid : WorkbufValid start)
    (hsize : start.workbufSize.toNat = 0x4000) (haddr : start.workbufAddr.toNat = 0x10000)
    {ps : List (KernelPartition 16)} {used : UInt32}
    (hused : (run (loadStep 16 keyblockSum) (false, start) (ps.map (·.ex))).2.workbufUsed = used)
    (hroom : used.toNat ≤ 0x3000) :
    HasRoom goodPartition (run (loadStep 16 keyblockSum) (false, start) (ps.map (·.ex))).2 ∧
      (KeyAligned (run (loadStep 16 keyblockSum) (false, start) (ps.map (·.ex))).2 ↔ used.toNat % 4 = 0) := by
  have hsteady : Steady start (run (loadStep 16 keyblockSum) (false, start) (ps.map (·.ex))).2 :=
    run_loadStep_steady (s := (false, start)) (by decide) hvalid ps
  have h16 : (16 : UInt32).toNat = 16 := rfl
  rw [HasRoom, KeyAligned, hused, hsteady.size, hsteady.address, hsize, haddr, length_goodPartition, h16]
  omega

theorem developerStart_place : developerStart.workbufSize.toNat = 0x4000 ∧
    developerStart.workbufAddr.toNat = 0x10000 := by
  decide +kernel

/-- After the partition with an odd data key was refused, a good partition is refused too. -/
theorem kernel_verdict_after_odd_key :
    vb2apiKernelPhase1 16 (readVblock []) developerBoot = (.ok (), developerStart) ∧
    (run (loadStep 16 keyblockSum) (false, developerStart) ([goodPartition].map (·.ex))).1 = true ∧
    (run (loadStep 16 keyblockSum) (false, developerStart) ([oddPartition, goodPartition].map (·.ex))).1 = false := by
  obtain ⟨hsize, haddr⟩ := developerStart_place
  obtain ⟨hroom, haligned⟩ := @goodPartition_room developerStart developerStart_inUse.valid hsize haddr [] 0x1a8
    (by decide +kernel) (by decide)
  obtain ⟨hroom', haligned'⟩ := @goodPartition_room developerStart developerStart_inUse.valid hsize haddr
    [oddPartition] 0x1c9 (by decide +kernel) (by decide)
  refine ⟨developerStart_phase1, ?_, Bool.eq_false_iff.mpr fun h => ?_⟩
  · exact (loadStep_verdict goodPartition (by decide) developerStart_inUse [] hroom goodPartition_hash).mpr
      ⟨haligned.mpr (by decide), goodVblock_good⟩
  · have hodd := ((loadStep_verdict goodPartition (by decide) developerStart_inUse [oddPartition] hroom'
      goodPartition_hash).mp h).1
    exact absurd (haligned'.mp hodd) (by decide)

def shortPartition : KernelPartition 16 := .ofVblock (List.replicate 24 0 ++ [88]) (by decide) (by decide +kernel)

/-- A partition that is refused before its data key is saved makes no difference. -/
theorem kernel_verdict_same_sample :
    (run (loadStep 16 keyblockSum) (false, developerStart) ([goodPartition].map (·.ex))).1 =
      (run (loadStep 16 keyblockSum) (false, developerStart) ([shortPartition, goodPartition].map (·.ex))).1 := by
  obtain ⟨hsize, haddr⟩ := developerStart_place
  obtain ⟨hroom, haligned⟩ := @goodPartition_room developerStart developerStart_inUse.valid hsize haddr [] 0x1a8
    (by decide +kernel) (by decide)
  obtain ⟨hroom', haligned'⟩ := @goodPartition_room developerStart developerStart_inUse.valid hsize haddr
    [shortPartition] 0x1a8 (by decide +kernel) (by decide)
  exact (kernel_verdict_same (by decide) developerStart_phase1 developerStart_inUse.valid (by decide +kernel)
    goodPartition goodPartition_hash [] [shortPartition] hroom hroom').mpr fun _ => haligned.trans haligned'.symm

end Vboot.Vb2
