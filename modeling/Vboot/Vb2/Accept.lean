import Vboot.Vb2.Frame

/-! What has been verified when the keyblock and the preamble of a firmware slot were loaded. -/
namespace Vboot.Vb2
open Vboot.Lib Vboot.Lib.Program

variable {s s' : Vb2Context}

theorem allocate_ok {result : Option UInt64 × Vb2Workbuf} {e : UInt32}
    {p : UInt64 × Vb2Workbuf} :
    allocate result e s = (.ok p, s') ↔ result = (some p.1, p.2) ∧ s' = s := by
  rw [allocate, inspect_ok]
  refine and_congr_left fun _ => ?_
  obtain ⟨ptr, wb⟩ := result
  cases ptr with
  | none => exact iff_of_false (fun h => by cases h) fun h => by cases h
  | some ptr =>
    constructor
    · intro h
      cases h
      rfl
    · intro h
      cases h
      rfl

theorem onWorkbuf_ok {α : Type} {x : Program UInt32 Mem α} {a : α} :
    onWorkbuf x s = (.ok a, s') ↔
      ∃ m, x s.workbuf = (.ok a, m) ∧ s' = { s with workbuf := m } := by
  constructor
  · intro h
    obtain ⟨ha, hs⟩ := Prod.ext_iff.mp h
    exact ⟨(x s.workbuf).2, Prod.ext ha rfl, hs.symm⟩
  · rintro ⟨m, hx, rfl⟩
    rw [onWorkbuf, zoom, hx]

/-- The data key in the work buffer. -/
def Vb2Context.dataKey (ctx : Vb2Context) : Except UInt32 Vb2PublicKey :=
  vb2UnpackKey ctx.workbuf (ctx.workbufAddr + ctx.sd.workbufDataKeyOffset.toUInt64) ctx.sd.workbufDataKeySize

section
variable (align : UInt32) (hash : Vb2HashAlgorithm → List UInt8 → List UInt8) (ex : Vb2Ex)

variable {size : UInt32} {s s' ctx : Vb2Context} {u : Unit} {wb : Vb2Workbuf} {dataKey : Vb2PublicKey}

theorem vb2exReadResource_ok {ex : Vb2Ex} {index : Vb2ResourceIndex} {offset : UInt32} {buf : UInt64} :
    vb2exReadResource ex index offset buf size s = (.ok u, s') ↔
      ∃ bytes, ex.readResource s index offset size = .ok bytes ∧
        s' = { s with workbuf := s.workbuf.store buf.toNat (bytes.load 0 size.toNat) } := by
  rw [vb2exReadResource, transform_ok, bind_eq_ok]
  exact exists_congr fun bytes => and_congr_right fun _ => ⟨fun h => (Except.ok.inj h).symm, fun h => h ▸ rfl⟩

/-- The root key is read from the GBB into the work buffer of `ctx`, which gives memory `m`. -/
structure RootKeyRead (ctx : Vb2Context) (keyData : UInt64) (rootKey : Vb2PublicKey)
    (wb : Vb2Workbuf) (m : Mem) : Prop where
  space : vb2WorkbufAlloc align (vb2WorkbufFromCtx align ctx) ctx.sd.gbbRootkeySize = (some keyData, wb)
  read : ∃ bytes, ex.readResource ctx .gbb ctx.sd.gbbRootkeyOffset ctx.sd.gbbRootkeySize = .ok bytes ∧
    m = ctx.workbuf.store keyData.toNat (bytes.load 0 ctx.sd.gbbRootkeySize.toNat)
  key : vb2UnpackKey m keyData ctx.sd.gbbRootkeySize = .ok rootKey

/-- The keyblock is read from the slot to address `kb` and verified under a key. The block is in
memory `m₁` before the verification and in memory `m₂` after it. -/
structure KeyblockVerified (rootKey : Vb2PublicKey) (wb : Vb2Workbuf) (ctx : Vb2Context) (kb : UInt64)
    (size : UInt32) (m₁ m₂ : Mem) : Prop where
  space : ∃ wb₁ wb₂ kb₁, vb2WorkbufAlloc align wb vb2KeyblockHeaderSize = (some kb₁, wb₁) ∧
    vb2WorkbufRealloc align wb₁ vb2KeyblockHeaderSize size = (some kb, wb₂) ∧
    vb2VerifyKeyblock align hash kb size rootKey wb₂ m₁ = (.ok (), m₂)
  read : ∃ m₀ bytes, ex.readResource { ctx with workbuf := m₀ } .fwVblock 0 size = .ok bytes ∧
    m₁ = m₀.store kb.toNat (bytes.load 0 size.toNat)

/-- The same for the preamble, with the key that is in the work buffer of `ctx`. -/
structure PreambleVerified (ctx : Vb2Context) (pre : UInt64) (size : UInt32) (m₁ m₂ : Mem) : Prop where
  verified : ∃ dataKey wb, vb2UnpackKey ctx.workbuf (ctx.workbufAddr + ctx.sd.workbufDataKeyOffset.toUInt64)
      ctx.sd.workbufDataKeySize = .ok dataKey ∧
    vb2VerifyFwPreamble align hash pre size dataKey wb m₁ = (.ok (), m₂)
  read : ∃ m₀ bytes, ex.readResource { ctx with workbuf := m₀ } .fwVblock ctx.sd.vblockPreambleOffset size =
    .ok bytes ∧ m₁ = m₀.store pre.toNat (bytes.load 0 size.toNat)

variable {align hash ex}

/-- A block of the image is read in two steps: its header first, for its size. -/
theorem readBlock_ok {α : Type} {header offset e e' : UInt32} {index : Vb2ResourceIndex}
    {sizeOf : Mem → UInt64 → UInt32} {k : UInt64 → UInt32 → Vb2Workbuf → Vb2M α} {a : α} :
    (do
      let p ← allocate (vb2WorkbufAlloc align wb header) e
      vb2exReadResource ex index offset p.1 header
      let size ← observe fun ctx => sizeOf ctx.workbuf p.1
      let q ← allocate (vb2WorkbufRealloc align p.2 header size) e'
      vb2exReadResource ex index offset q.1 size
      k q.1 size q.2 : Vb2M α) s = (.ok a, s') ↔
      ∃ p wb₁ q wb₂ first bytes, ∃ size : UInt32, vb2WorkbufAlloc align wb header = (some p, wb₁) ∧
        vb2WorkbufRealloc align wb₁ header size = (some q, wb₂) ∧
        ex.readResource s index offset header = .ok first ∧
        let m := s.workbuf.store p.toNat (first.load 0 header.toNat)
        sizeOf m p = size ∧ ex.readResource { s with workbuf := m } index offset size = .ok bytes ∧
        k q size wb₂ { s with workbuf := m.store q.toNat (bytes.load 0 size.toNat) } = (.ok a, s') := by
  constructor
  · intro h
    obtain ⟨p, s₁, hp, h₁⟩ := bind_ok.mp h
    obtain ⟨hspace, rfl⟩ := allocate_ok.mp hp
    obtain ⟨_, s₂, hread, h₂⟩ := bind_ok.mp h₁
    obtain ⟨first, hfirst, rfl⟩ := vb2exReadResource_ok.mp hread
    rw [observe_bind] at h₂
    obtain ⟨q, s₃, hq, h₃⟩ := bind_ok.mp h₂
    obtain ⟨hspace₂, rfl⟩ := allocate_ok.mp hq
    obtain ⟨_, s₄, hread₂, h₄⟩ := bind_ok.mp h₃
    obtain ⟨bytes, hbytes, rfl⟩ := vb2exReadResource_ok.mp hread₂
    exact ⟨_, _, _, _, first, bytes, _, hspace, hspace₂, hfirst, rfl, hbytes, h₄⟩
  · rintro ⟨p, wb₁, q, wb₂, first, bytes, size, hspace, hspace₂, hfirst, rfl, hbytes, hk⟩
    refine bind_ok.mpr ⟨(p, wb₁), s, allocate_ok.mpr ⟨hspace, rfl⟩, ?_⟩
    refine bind_ok.mpr ⟨(), _, vb2exReadResource_ok.mpr ⟨first, hfirst, rfl⟩, ?_⟩
    rw [observe_bind]
    refine bind_ok.mpr ⟨(q, wb₂), _, allocate_ok.mpr ⟨hspace₂, rfl⟩, ?_⟩
    exact bind_ok.mpr ⟨(), _, vb2exReadResource_ok.mpr ⟨bytes, hbytes, rfl⟩, hk⟩

theorem loadRootKey_ok {r : UInt64 × Vb2PublicKey × Vb2Workbuf} :
    loadRootKey align ex s = (.ok r, s') ↔
      ∃ m, RootKeyRead align ex s r.1 r.2.1 r.2.2 m ∧ s' = { s with workbuf := m } := by
  rw [loadRootKey, observe_bind, observe_bind]
  constructor
  · intro h
    obtain ⟨p, s₁, hp, h₁⟩ := bind_ok.mp h
    obtain ⟨hspace, rfl⟩ := allocate_ok.mp hp
    obtain ⟨_, s₂, hread, h₂⟩ := bind_ok.mp h₁
    obtain ⟨bytes, hbytes, rfl⟩ := vb2exReadResource_ok.mp hread
    obtain ⟨rootKey, s₃, hkey, h₃⟩ := bind_ok.mp h₂
    obtain ⟨hunpack, rfl⟩ := inspect_ok.mp hkey
    obtain ⟨rfl, rfl⟩ := pure_ok.mp h₃
    exact ⟨_, ⟨hspace, ⟨bytes, hbytes, rfl⟩, hunpack⟩, rfl⟩
  · rintro ⟨m, ⟨hspace, ⟨bytes, hbytes, rfl⟩, hunpack⟩, rfl⟩
    refine bind_ok.mpr ⟨(r.1, r.2.2), s, allocate_ok.mpr ⟨hspace, rfl⟩, ?_⟩
    refine bind_ok.mpr ⟨(), _, vb2exReadResource_ok.mpr ⟨bytes, hbytes, rfl⟩, ?_⟩
    exact bind_ok.mpr ⟨r.2.1, _, inspect_ok.mpr ⟨hunpack, rfl⟩, pure_ok.mpr ⟨rfl, rfl⟩⟩

/-- How the keyblock gets to its place: its header is read first, for its size. -/
structure KeyblockLoaded (align : UInt32) (hash : Vb2HashAlgorithm → List UInt8 → List UInt8) (ex : Vb2Ex)
    (rootKey : Vb2PublicKey) (wb : Vb2Workbuf) (ctx : Vb2Context) (kb : UInt64) (size : UInt32)
    (m₁ m₂ : Mem) : Prop where
  loaded : ∃ kb₁ wb₁ wb₂ header bytes,
    vb2WorkbufAlloc align wb vb2KeyblockHeaderSize = (some kb₁, wb₁) ∧
    vb2WorkbufRealloc align wb₁ vb2KeyblockHeaderSize size = (some kb, wb₂) ∧
    ex.readResource ctx .fwVblock 0 vb2KeyblockHeaderSize = .ok header ∧
    let m₀ := ctx.workbuf.store kb₁.toNat (header.load 0 vb2KeyblockHeaderSize.toNat)
    Vb2Keyblock.keyblockSize m₀ kb₁ = size ∧
    ex.readResource { ctx with workbuf := m₀ } .fwVblock 0 size = .ok bytes ∧
    m₁ = m₀.store kb.toNat (bytes.load 0 size.toNat) ∧
    vb2VerifyKeyblock align hash kb size rootKey wb₂ m₁ = (.ok (), m₂)

variable {rootKey : Vb2PublicKey}

theorem loadKeyblock_ok {kb : UInt64} :
    loadKeyblock align hash ex rootKey wb s = (.ok kb, s') ↔
      ∃ size m₁ m₂, KeyblockLoaded align hash ex rootKey wb s kb size m₁ m₂ ∧
        s' = { s with workbuf := m₂ } := by
  refine (readBlock_ok (k := fun kb size wb => do
    orFail vb2RecoveryFwKeyblock (onWorkbuf (vb2VerifyKeyblock align hash kb size rootKey wb))
    pure kb)).trans ?_
  constructor
  · rintro ⟨kb₁, wb₁, _, wb₂, header, bytes, size, hspace, hspace₂, hheader, hsize, hbytes, h⟩
    obtain ⟨_, s₅, hverify, h₅⟩ := bind_ok.mp h
    obtain ⟨m, hm, rfl⟩ := onWorkbuf_ok.mp (orFail_ok.mp hverify)
    obtain ⟨rfl, rfl⟩ := pure_ok.mp h₅
    exact ⟨size, _, m, ⟨kb₁, wb₁, wb₂, header, bytes, hspace, hspace₂, hheader, hsize, hbytes, rfl, hm⟩, rfl⟩
  · rintro ⟨size, m₁, m₂, ⟨kb₁, wb₁, wb₂, header, bytes, hspace, hspace₂, hheader, hsize, hbytes, rfl, hm⟩, rfl⟩
    refine ⟨kb₁, wb₁, kb, wb₂, header, bytes, size, hspace, hspace₂, hheader, hsize, hbytes, ?_⟩
    exact bind_ok.mpr ⟨(), _, orFail_ok.mpr (onWorkbuf_ok.mpr ⟨m₂, hm, rfl⟩), pure_ok.mpr ⟨rfl, rfl⟩⟩

theorem KeyblockLoaded.verified {kb : UInt64} {m₁ m₂ : Mem}
    (h : KeyblockLoaded align hash ex rootKey wb ctx kb size m₁ m₂) :
    KeyblockVerified align hash ex rootKey wb ctx kb size m₁ m₂ := by
  obtain ⟨kb₁, wb₁, wb₂, header, bytes, hspace, hspace₂, -, -, hbytes, hm₁, hm⟩ := h.loaded
  exact ⟨⟨wb₁, wb₂, kb₁, hspace, hspace₂, hm⟩, _, bytes, hbytes, hm₁⟩

theorem checkKeyVersion_ok {keyVersion : UInt32} (h : checkKeyVersion keyVersion ctx = .ok u) :
    keyVersion ≤ 0xffff ∧ (¬rollbackAllowed ctx → ctx.sd.fwVersionSecdata >>> 16 ≤ keyVersion) := by
  rw [checkKeyVersion, reject_bind_eq_ok, reject_eq_ok] at h
  refine ⟨UInt32.not_lt.mp h.1, fun hr => ?_⟩
  exact UInt32.not_lt.mp fun hlt => h.2 ⟨hlt, hr⟩

theorem checkFwVersion_ok {firmwareVersion : UInt32} (h : checkFwVersion firmwareVersion ctx = .ok u) :
    firmwareVersion ≤ 0xffff ∧
      (¬rollbackAllowed ctx → ctx.sd.fwVersionSecdata ≤ ctx.sd.fwVersion) := by
  rw [checkFwVersion, reject_bind_eq_ok, reject_eq_ok] at h
  refine ⟨UInt32.not_lt.mp h.1, fun hr => ?_⟩
  exact UInt32.not_lt.mp fun hlt => h.2 ⟨hlt, hr⟩

theorem vb2LoadFwKeyblock_iff :
    vb2LoadFwKeyblock align hash ex s = (.ok (), s') ↔
      ∃ keyData rootKey wb m kb size m₁ m₂, RootKeyRead align ex s keyData rootKey wb m ∧
        KeyblockLoaded align hash ex rootKey wb { s with workbuf := m } kb size m₁ m₂ ∧
        checkKeyVersion (Vb2PackedKey.keyVersion m₂ (Vb2Keyblock.dataKey kb)) s = .ok () ∧
        s' = saveDataKey keyData kb { s with
          workbuf := m₂
          sd := { s.sd with fwVersion := Vb2PackedKey.keyVersion m₂ (Vb2Keyblock.dataKey kb) <<< 16 } } := by
  rw [vb2LoadFwKeyblock]
  constructor
  · intro h
    obtain ⟨⟨keyData, rootKey, wb⟩, s₁, hroot, h₁⟩ := bind_ok.mp h
    obtain ⟨m, hread, rfl⟩ := loadRootKey_ok.mp hroot
    obtain ⟨kb, s₂, hkb, h₂⟩ := bind_ok.mp h₁
    obtain ⟨size, m₁, m₂, hloaded, rfl⟩ := loadKeyblock_ok.mp hkb
    rw [observe_bind] at h₂
    obtain ⟨_, s₃, hcheck, h₃⟩ := bind_ok.mp h₂
    obtain ⟨hversion, rfl⟩ := inspect_ok.mp (orFail_ok.mp hcheck)
    rw [update_bind, update_ok] at h₃
    exact ⟨keyData, rootKey, wb, m, kb, size, m₁, m₂, hread, hloaded, hversion, h₃⟩
  · rintro ⟨keyData, rootKey, wb, m, kb, size, m₁, m₂, hread, hloaded, hversion, rfl⟩
    refine bind_ok.mpr ⟨(keyData, rootKey, wb), _, loadRootKey_ok.mpr ⟨m, hread, rfl⟩, ?_⟩
    refine bind_ok.mpr ⟨kb, _, loadKeyblock_ok.mpr ⟨size, m₁, m₂, hloaded, rfl⟩, ?_⟩
    rw [observe_bind]
    refine bind_ok.mpr ⟨(), _, orFail_ok.mpr (inspect_ok.mpr ⟨hversion, rfl⟩), ?_⟩
    rw [update_bind, update_ok]

theorem vb2LoadFwKeyblock_ok (h : vb2LoadFwKeyblock align hash ex s = (.ok u, s')) :
    ∃ keyData rootKey wb m kb size m₁ m₂, RootKeyRead align ex s keyData rootKey wb m ∧
      KeyblockVerified align hash ex rootKey wb { s with workbuf := m } kb size m₁ m₂ ∧
      checkKeyVersion (Vb2PackedKey.keyVersion m₂ (Vb2Keyblock.dataKey kb)) s = .ok () ∧
      s' = saveDataKey keyData kb { s with
        workbuf := m₂
        sd := { s.sd with fwVersion := Vb2PackedKey.keyVersion m₂ (Vb2Keyblock.dataKey kb) <<< 16 } } := by
  obtain ⟨keyData, rootKey, wb, m, kb, size, m₁, m₂, hread, hloaded, hrest⟩ := vb2LoadFwKeyblock_iff.mp h
  exact ⟨keyData, rootKey, wb, m, kb, size, m₁, m₂, hread, hloaded.verified, hrest⟩

theorem loadDataKey_ok :
    loadDataKey s = (.ok dataKey, s') ↔ s.sd.workbufDataKeySize ≠ 0 ∧ s.dataKey = .ok dataKey ∧ s' = s := by
  rw [loadDataKey, observe_bind, inspect_ok, reject_bind_eq_ok, and_assoc, Vb2Context.dataKey]

/-- How the preamble gets to its place: its header is read first, for its size. -/
structure PreambleLoaded (align : UInt32) (hash : Vb2HashAlgorithm → List UInt8 → List UInt8) (ex : Vb2Ex)
    (dataKey : Vb2PublicKey) (ctx : Vb2Context) (pre : UInt64) (size : UInt32) (m₁ m₂ : Mem) : Prop where
  loaded : ∃ pre₁ wb₁ wb₂ header bytes,
    vb2WorkbufAlloc align (vb2WorkbufFromCtx align ctx) vb2FwPreambleHeaderSize = (some pre₁, wb₁) ∧
    vb2WorkbufRealloc align wb₁ vb2FwPreambleHeaderSize size = (some pre, wb₂) ∧
    ex.readResource ctx .fwVblock ctx.sd.vblockPreambleOffset vb2FwPreambleHeaderSize = .ok header ∧
    let m₀ := ctx.workbuf.store pre₁.toNat (header.load 0 vb2FwPreambleHeaderSize.toNat)
    Vb2FwPreamble.preambleSize m₀ pre₁ = size ∧
    ex.readResource { ctx with workbuf := m₀ } .fwVblock ctx.sd.vblockPreambleOffset size = .ok bytes ∧
    m₁ = m₀.store pre.toNat (bytes.load 0 size.toNat) ∧
    vb2VerifyFwPreamble align hash pre size dataKey wb₂ m₁ = (.ok (), m₂)

theorem loadPreamble_iff {pre : UInt64} :
    loadPreamble align hash ex dataKey s = (.ok (pre, size), s') ↔
      ∃ m₁ m₂, PreambleLoaded align hash ex dataKey s pre size m₁ m₂ ∧ s' = { s with workbuf := m₂ } := by
  rw [loadPreamble, observe_bind, observe_bind]
  refine (readBlock_ok (k := fun pre size wb => do
    orFail vb2RecoveryFwPreamble (onWorkbuf (vb2VerifyFwPreamble align hash pre size dataKey wb))
    pure (pre, size))).trans ?_
  constructor
  · rintro ⟨pre₁, wb₁, _, wb₂, header, bytes, _, hspace, hspace₂, hheader, hsize, hbytes, h⟩
    obtain ⟨_, s₅, hverify, h₅⟩ := bind_ok.mp h
    obtain ⟨m, hm, rfl⟩ := onWorkbuf_ok.mp (orFail_ok.mp hverify)
    obtain ⟨hp, rfl⟩ := pure_ok.mp h₅
    cases hp
    exact ⟨_, m, ⟨pre₁, wb₁, wb₂, header, bytes, hspace, hspace₂, hheader, hsize, hbytes, rfl, hm⟩, rfl⟩
  · rintro ⟨m₁, m₂, ⟨pre₁, wb₁, wb₂, header, bytes, hspace, hspace₂, hheader, hsize, hbytes, rfl, hm⟩, rfl⟩
    refine ⟨pre₁, wb₁, pre, wb₂, header, bytes, size, hspace, hspace₂, hheader, hsize, hbytes, ?_⟩
    exact bind_ok.mpr ⟨(), _, orFail_ok.mpr (onWorkbuf_ok.mpr ⟨m₂, hm, rfl⟩), pure_ok.mpr ⟨rfl, rfl⟩⟩

theorem loadPreamble_ok {r : UInt64 × UInt32}
    (hkey : s.dataKey = .ok dataKey) (h : loadPreamble align hash ex dataKey s = (.ok r, s')) :
    ∃ m₁ m₂, PreambleVerified align hash ex s r.1 r.2 m₁ m₂ ∧ s' = { s with workbuf := m₂ } := by
  obtain ⟨m₁, m₂, hloaded, hs'⟩ := loadPreamble_iff.mp h
  obtain ⟨_, _, _, _, bytes, -, -, -, -, hbytes, hm₁, hm⟩ := hloaded.loaded
  exact ⟨m₁, m₂, ⟨⟨dataKey, _, hkey, hm⟩, _, bytes, hbytes, hm₁⟩, hs'⟩

theorem vb2LoadFwPreamble_iff :
    vb2LoadFwPreamble align hash ex s = (.ok (), s') ↔
      ∃ dataKey pre size m₁ m₂ s₁, s.sd.workbufDataKeySize ≠ 0 ∧ s.dataKey = .ok dataKey ∧
        PreambleLoaded align hash ex dataKey s pre size m₁ m₂ ∧
        let s₀ := { s with
          workbuf := m₂
          sd := { s.sd with fwVersion := s.sd.fwVersion ||| Vb2FwPreamble.firmwareVersion m₂ pre } }
        checkFwVersion (Vb2FwPreamble.firmwareVersion m₂ pre) s₀ = .ok () ∧
        rollForward s₀ = (.ok (), s₁) ∧ s' = savePreamble pre size s₁ := by
  rw [vb2LoadFwPreamble]
  constructor
  · intro h
    obtain ⟨dataKey, s₁, hkey, h₁⟩ := bind_ok.mp h
    obtain ⟨hsize, hunpack, rfl⟩ := loadDataKey_ok.mp hkey
    obtain ⟨⟨pre, size⟩, s₂, hpre, h₂⟩ := bind_ok.mp h₁
    obtain ⟨m₁, m₂, hloaded, rfl⟩ := loadPreamble_iff.mp hpre
    change (observe _ >>= _) _ = _ at h₂
    rw [observe_bind, update_bind] at h₂
    obtain ⟨_, s₃, hcheck, h₃⟩ := bind_ok.mp h₂
    obtain ⟨hversion, rfl⟩ := inspect_ok.mp (orFail_ok.mp hcheck)
    obtain ⟨_, s₄, hroll, h₄⟩ := bind_ok.mp h₃
    exact ⟨dataKey, pre, size, m₁, m₂, s₄, hsize, hunpack, hloaded, hversion, hroll, update_ok.mp h₄⟩
  · rintro ⟨dataKey, pre, size, m₁, m₂, s₁, hsize, hunpack, hloaded, hversion, hroll, rfl⟩
    refine bind_ok.mpr ⟨dataKey, s, loadDataKey_ok.mpr ⟨hsize, hunpack, rfl⟩, ?_⟩
    refine bind_ok.mpr ⟨(pre, size), _, loadPreamble_iff.mpr ⟨m₁, m₂, hloaded, rfl⟩, ?_⟩
    change (observe _ >>= _) _ = _
    rw [observe_bind, update_bind]
    refine bind_ok.mpr ⟨(), _, orFail_ok.mpr (inspect_ok.mpr ⟨hversion, rfl⟩), ?_⟩
    exact bind_ok.mpr ⟨(), s₁, hroll, update_ok.mpr rfl⟩

end
end Vboot.Vb2
