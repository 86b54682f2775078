import Vboot.Vb2.KernelBoots
import Vboot.Vb2.Window

/-! What attempts to load kernels, firmware/lib20/kernel.c, leave alone in the work buffer: all that was
in use before them, with the kernel key. The data key and the preamble of an attempt stay in use. -/
namespace Vboot.Vb2
open Vboot.Lib Vboot.Lib.Program

theorem le32_store_load {m : Mem} {a b n i : Nat} (h : i + 4 ≤ n) :
    le32 (m.store a (m.load b n)) (a + i) = le32 m (b + i) := by
  refine le32_congr fun j hj => ?_
  have hlen := Mem.length_load m b n
  rw [Nat.add_assoc, Mem.store_inside _ _ _ _ 0 (by omega), Mem.getD_load _ _ _ _ _ (by omega), Nat.add_assoc]

structure MovePlaces (m : Mem) (dst dataKey : UInt64) : Prop where
  target : dst.toNat + 32 < 2 ^ 64
  header : dst.toNat + 32 ≤ dataKey.toNat

section
variable {m : Mem} {dst dataKey : UInt64}

/-- The memory once the header of the key is at its new place. -/
def headerMoved (m : Mem) (dst dataKey : UInt64) : Mem :=
  (m.store dst.toNat (m.load dataKey.toNat 32)).store dst.toNat (leBytes32 vb2PackedKeyHeaderSize)

theorem moveDataKey_eq (h : MovePlaces m dst dataKey) :
    ∃ m' : Mem, moveDataKey m dst dataKey = m'.store (dst.toNat + 32)
        (m'.load (vb2PackedKeyData m dataKey).toNat (Vb2PackedKey.keySize m dataKey).toNat) ∧
      Mem.SameOutside m m' dst.toNat 32 ∧
      Vb2PackedKey.keyOffset m' dst = 32 ∧
      Vb2PackedKey.keySize m' dst = Vb2PackedKey.keySize m dataKey ∧
      Vb2PackedKey.algorithm m' dst = Vb2PackedKey.algorithm m dataKey ∧
      Vb2PackedKey.keyVersion m' dst = Vb2PackedKey.keyVersion m dataKey := by
  have htarget := h.target
  have hheader := h.header
  have h32 : vb2PackedKeyHeaderSize.toNat = 32 := rfl
  have h64 : vb2PackedKeyHeaderSize.toUInt64.toNat = 32 := rfl
  have hlen := Mem.length_load m dataKey.toNat 32
  have hlen4 := length_leBytes32 vb2PackedKeyHeaderSize
  have hsame : Mem.SameOutside m (headerMoved m dst dataKey) dst.toNat 32 :=
    ((Mem.SameOutside.refl m _ _).store (by omega)).store (by omega)
  have hfield (i : Nat) (hi : 4 ≤ i ∧ i + 4 ≤ 32) :
      le32 (headerMoved m dst dataKey) (dst.toNat + i) = le32 m (dataKey.toNat + i) := by
    rw [headerMoved, le32_store_disjoint _ _ _ _ (by omega), le32_store_load hi.2]
  refine ⟨headerMoved m dst dataKey, ?_, hsame, le32_store _ _ _, hfield 8 (by decide), hfield 16 (by decide), hfield 24 (by decide)⟩
  have hsize : Vb2PackedKey.keySize _ dst = Vb2PackedKey.keySize m dataKey := hfield 8 (by decide)
  have hdst : (dst + vb2PackedKeyHeaderSize.toUInt64).toNat = dst.toNat + 32 := by
    rw [UInt64.toNat_add, h64, Nat.mod_eq_of_lt (by omega)]
  have hdata : vb2PackedKeyData (headerMoved m dst dataKey) dataKey = vb2PackedKeyData m dataKey := by
    rw [vb2PackedKeyData, vb2PackedKeyData, Vb2PackedKey.keyOffset, Vb2PackedKey.keyOffset,
      le32_sameOutside hsame (by omega)]
  rw [moveDataKey, h32, ← headerMoved, hdst, hsize, hdata]

/-- The key at its new place is the old one. -/
structure KeyMoved (m m' : Mem) (dst dataKey : UInt64) : Prop where
  offset : Vb2PackedKey.keyOffset m' dst = 32
  size : Vb2PackedKey.keySize m' dst = Vb2PackedKey.keySize m dataKey
  outside : Mem.SameOutside m m' dst.toNat (32 + (Vb2PackedKey.keySize m dataKey).toNat)
  contents : (0 < (Vb2PackedKey.keySize m dataKey).toNat → dst.toNat + 32 ≤ (vb2PackedKeyData m dataKey).toNat) →
    keyContents m' dst = keyContents m dataKey

theorem moveDataKey_moved (h : MovePlaces m dst dataKey) : KeyMoved m (moveDataKey m dst dataKey) dst dataKey := by
  have htarget := h.target
  obtain ⟨m', hmove, hsame, hoffset, hsize, halg, hversion⟩ := moveDataKey_eq h
  rw [hmove]
  have hlen := Mem.length_load m' (vb2PackedKeyData m dataKey).toNat (Vb2PackedKey.keySize m dataKey).toNat
  have hfield (i : Nat) (hi : i + 4 ≤ 32) : le32 (m'.store (dst.toNat + 32) (m'.load
      (vb2PackedKeyData m dataKey).toNat (Vb2PackedKey.keySize m dataKey).toNat)) (dst.toNat + i) =
        le32 m' (dst.toNat + i) := le32_store_disjoint _ _ _ _ (by omega)
  have hoff : Vb2PackedKey.keyOffset _ dst = 32 := (hfield 0 (by decide)).trans hoffset
  have hsz : Vb2PackedKey.keySize _ dst = _ := (hfield 8 (by decide)).trans hsize
  refine ⟨hoff, hsz, ?_, fun hdata => ?_⟩
  · exact (hsame.mono (by omega)).store (by omega)
  · have h32 : (32 : UInt32).toNat = 32 := rfl
    have hptr : (vb2PackedKeyData (m'.store (dst.toNat + 32) (m'.load (vb2PackedKeyData m dataKey).toNat
        (Vb2PackedKey.keySize m dataKey).toNat)) dst).toNat = dst.toNat + 32 := by
      rw [vb2PackedKeyData_toNat (by rw [hoff, h32]; omega), hoff, h32]
    rw [keyContents, keyContents, KeyContents.mk.injEq]
    refine ⟨(hfield 16 (by decide)).trans halg, (hfield 24 (by decide)).trans hversion, ?_⟩
    rw [hptr, hsz, Mem.load_store _ _ _ _ hlen]
    refine Mem.load_congr fun i hi => ?_
    have := hdata (by omega)
    exact hsame _ (by omega)

end

/-- A kernel partition, whose vblock the caller's function reads. The signature of its keyblock is behind
the header: the code would write into the header otherwise. -/
structure KernelPartition (align : UInt32) where
  ex : Vb2Ex
  vblock : List UInt8
  fits : vblock.length + align.toNat ≤ 2 ^ 32
  apart : 112 ≤ 24 + fieldAt (Mem.ofList vblock) 24
  read : ∀ ctx offset size, offset.toNat + size.toNat ≤ vblock.length →
    ∃ bytes, ex.readResource ctx .kernelVblock offset size = .ok bytes ∧
      Mem.Agree bytes ((Mem.ofList vblock).window offset.toNat) size.toNat
  short : ∀ ctx offset size, vblock.length < offset.toNat + size.toNat →
    ∃ e, ex.readResource ctx .kernelVblock offset size = .error e

/-- Only the memory from some address on may change. -/
def Behind (n : Nat) (s s' : Vb2Context) : Prop :=
  ∃ m, s' = { s with workbuf := m } ∧ ∀ x < n, m x = s.workbuf x

instance (n : Nat) : Std.Refl (Behind n) := ⟨fun s => ⟨s.workbuf, rfl, fun _ _ => rfl⟩⟩

instance (n : Nat) : IsTrans Vb2Context (Behind n) := by
  refine ⟨?_⟩
  rintro a b c ⟨m, rfl, hm⟩ ⟨m', rfl, hm'⟩
  exact ⟨m', rfl, fun x hx => (hm' x hx).trans (hm x hx)⟩

theorem keeps_behind_read (ex : Vb2Ex) {n : Nat} (offset : UInt32) {buf : UInt64} (h : n ≤ buf.toNat)
    (size : UInt32) : (vb2exReadResource ex .kernelVblock offset buf size).Keeps (Behind n) := by
  refine keeps_transform fun s s' hs => ?_
  obtain ⟨bytes, -, hbytes⟩ := bind_eq_ok.mp hs
  cases hbytes
  exact ⟨_, rfl, fun x hx => Mem.store_of_lt _ _ _ _ (by omega)⟩

section
variable {align : UInt32} (p : KernelPartition align)

theorem KernelPartition.read_decides (offset size : UInt32) (buf : UInt64) (s : Vb2Context) :
    Decides (vb2exReadResource p.ex .kernelVblock offset buf size) s
      (offset.toNat + size.toNat ≤ p.vblock.length) fun _ s' => ∃ m, s' = { s with workbuf := m } ∧
        Mem.Agree (m.window buf.toNat) ((Mem.ofList p.vblock).window offset.toNat) size.toNat ∧
        ∀ x < buf.toNat, m x = s.workbuf x where
  accept h := by
    obtain ⟨bytes, hread, hagree⟩ := p.read s offset size h
    refine ⟨(), _, vb2exReadResource_ok.mpr ⟨bytes, hread, rfl⟩, _, rfl, fun i hi => ?_, fun x hx => ?_⟩
    · have hlen := Mem.length_load bytes 0 size.toNat
      rw [Mem.window, Mem.store_inside _ _ _ _ 0 (by omega), Mem.getD_load _ _ _ _ _ hi, Nat.zero_add]
      exact hagree i hi
    · exact Mem.store_of_lt _ _ _ _ hx
  refuse h := by
    obtain ⟨e, hread⟩ := p.short s offset size (by omega)
    refine ⟨e, s, ?_⟩
    rw [vb2exReadResource, transform, hread]
    rfl

end

theorem allocate_decides (result : Option UInt64 × Vb2Workbuf) (e : UInt32) (s : Vb2Context) :
    Decides (allocate result e) s (result.1 ≠ none) fun p s' => result = (some p.1, p.2) ∧ s' = s where
  accept h := by
    obtain ⟨ptr, hptr⟩ := Option.ne_none_iff_exists'.mp h
    have hresult : result = (some ptr, result.2) := Prod.ext hptr rfl
    exact ⟨(ptr, result.2), s, allocate_ok.mpr ⟨hresult, rfl⟩, hresult, rfl⟩
  refuse h := by
    refine ⟨e, s, ?_⟩
    rw [allocate, inspect, not_not.mp h]
    rfl

/-- The state of attempts after phase 1: the work buffer up to what phase 1 used, with the kernel key, and
what the checks of a vblock look at in the context. -/
structure Steady (a b : Vb2Context) : Prop where
  flags : b.flags = a.flags
  nvdata : b.nvdata = a.nvdata
  stored : b.sd.kernelVersionSecdatak = a.sd.kernelVersionSecdatak
  keyOffset : b.sd.workbufKernelKeyOffset = a.sd.workbufKernelKeyOffset
  keySize : b.sd.workbufKernelKeySize = a.sd.workbufKernelKeySize
  address : b.workbufAddr = a.workbufAddr
  size : b.workbufSize = a.workbufSize
  used : a.workbufUsed.toNat ≤ b.workbufUsed.toNat
  valid : WorkbufValid b
  below : ∀ x < a.workbufAddr.toNat + a.workbufUsed.toNat, b.workbuf x = a.workbuf x

namespace Steady
variable {a b c : Vb2Context}

theorem refl (h : WorkbufValid a) : Steady a a :=
  ⟨rfl, rfl, rfl, rfl, rfl, rfl, rfl, le_rfl, h, fun _ _ => rfl⟩

theorem trans (h : Steady a b) (h' : Steady b c) : Steady a c where
  flags := h'.flags.trans h.flags
  nvdata := h'.nvdata.trans h.nvdata
  stored := h'.stored.trans h.stored
  keyOffset := h'.keyOffset.trans h.keyOffset
  keySize := h'.keySize.trans h.keySize
  address := h'.address.trans h.address
  size := h'.size.trans h.size
  used := h.used.trans h'.used
  valid := h'.valid
  below x hx := by
    have hused := h.used
    have haddr := congrArg UInt64.toNat h.address
    exact (h'.below x (by omega)).trans (h.below x hx)

theorem of_behind (h : WorkbufValid a) (hb : Behind (a.workbufAddr.toNat + a.workbufUsed.toNat) a b) :
    Steady a b := by
  obtain ⟨m, rfl, hm⟩ := hb
  exact ⟨rfl, rfl, rfl, rfl, rfl, rfl, rfl, le_rfl, ⟨h.used, h.address⟩, hm⟩

end Steady

/-- The context for the checks of a keyblock, with the flag for a signed kernel off. -/
abbrev Vb2Context.unsigned (ctx : Vb2Context) (m : Mem) : Vb2Context :=
  { ctx with workbuf := m, sd := { ctx.sd with flags := ctx.sd.flags &&& ~~~vb2SdFlagKernelSigned } }

/-- How a block with its size in its header is read: the header first, then all of it. -/
def readBlock (align : UInt32) (ex : Vb2Ex) (offset header : UInt32) (field : Nat) (headerError error : UInt32)
    (wb : Vb2Workbuf) : Vb2M (UInt64 × UInt32 × Vb2Workbuf) := do
  let (block, wb) ← allocate (vb2WorkbufAlloc align wb header) headerError
  vb2exReadResource ex .kernelVblock offset block header
  let size ← observe fun ctx => le32 ctx.workbuf (block.toNat + field)
  let (block, wb) ← allocate (vb2WorkbufRealloc align wb header size) error
  vb2exReadResource ex .kernelVblock offset block size
  pure (block, size, wb)

theorem readKernelKeyblock_eq (align : UInt32) (ex : Vb2Ex) (wb : Vb2Workbuf) :
    readKernelKeyblock align ex wb = readBlock align ex 0 vb2KeyblockHeaderSize 16
      vb2ErrorKernelKeyblockWorkbufHeader vb2ErrorKernelKeyblockWorkbuf wb := rfl

section
variable {align : UInt32} {hash : Vb2HashAlgorithm → List UInt8 → List UInt8} (p : KernelPartition align)

/-- A block is read if it is there and there is space for it. -/
structure BlockReadable (offset header size : UInt32) (wb : Vb2Workbuf) : Prop where
  headerSpace : (vb2WorkbufAlloc align wb header).1 ≠ none
  header : offset.toNat + header.toNat ≤ p.vblock.length
  space : (vb2WorkbufAlloc align wb size).1 ≠ none
  inside : offset.toNat + size.toNat ≤ p.vblock.length

/-- The memory has the first bytes of the vblock from offset on at block, and is as before below. -/
structure BlockRead (offset : UInt32) (block : UInt64) (size : Nat) (s s' : Vb2Context) : Prop where
  behind : Behind block.toNat s s'
  agree : Mem.Agree (s'.workbuf.window block.toNat) ((Mem.ofList p.vblock).window offset.toNat) size

variable {size : UInt32} {s : Vb2Context}

theorem BlockRead.agree_zero {block : UInt64} {size : Nat} {s' : Vb2Context}
    (h : BlockRead p 0 block size s s') :
    Mem.Agree (s'.workbuf.window block.toNat) (Mem.ofList p.vblock) size := by
  have hagree := h.agree
  rwa [UInt32.toNat_zero, Mem.window_zero] at hagree

theorem readBlock_decides {offset header size : UInt32} {field : Nat} (hfield : field + 4 ≤ header.toNat)
    (hsize : size = le32 ((Mem.ofList p.vblock).window offset.toNat) field) (e e' : UInt32) (wb : Vb2Workbuf)
    (s : Vb2Context) :
    Decides (readBlock align p.ex offset header field e e' wb) s (BlockReadable p offset header size wb) fun r s' =>
      r = (wb.buf, size, (vb2WorkbufAlloc align wb size).2) ∧ BlockRead p offset wb.buf size.toNat s s' := by
  refine (allocate_decides _ _ s).seq (·.headerSpace) ?_
  rintro hheaderSpace ⟨block, wb₁⟩ s₁ ⟨halloc, hs₁⟩
  rw [hs₁]
  have hblock := (vb2WorkbufAlloc_ok.mp halloc).2.1
  dsimp only at halloc hblock ⊢
  refine (p.read_decides offset header block s).seq (·.header) ?_
  rintro hheader _ s₂ ⟨m, rfl, hagree, hbelow⟩
  refine decides_observe_bind ?_
  have hfield' : le32 m (block.toNat + field) = size := by
    rw [← le32_window, le32_agree hagree hfield, hsize]
  dsimp only
  rw [hfield', vb2WorkbufRealloc_alloc halloc]
  refine (allocate_decides _ _ _).seq (·.space) ?_
  rintro hspace ⟨block₂, wb₂⟩ s₃ ⟨halloc₂, hs₃⟩
  rw [hs₃]
  have hblock₂ := (vb2WorkbufAlloc_ok.mp halloc₂).2.1
  dsimp only at halloc₂ hblock₂ ⊢
  refine (p.read_decides offset size block₂ { s with workbuf := m }).seq (·.inside) ?_
  rintro hinside _ s₄ ⟨m', rfl, hagree', hbelow'⟩
  refine decides_pure ⟨hheaderSpace, hheader, hspace, hinside⟩ ?_
  rw [halloc₂, hblock₂]
  rw [hblock₂] at hagree' hbelow'
  rw [hblock] at hbelow
  exact ⟨rfl, ⟨m', rfl, fun x hx => (hbelow' x hx).trans (hbelow x hx)⟩, hagree'⟩

theorem allocate_some (b : UInt64) (wb : Vb2Workbuf) (e : UInt32) :
    allocate (some b, wb) e = pure (b, wb) := rfl

theorem keeps_behind_readBlock (ex : Vb2Ex) {n : Nat} {wb : Vb2Workbuf} (hn : n ≤ wb.buf.toNat)
    (offset header : UInt32) (field : Nat) (e e' : UInt32) :
    (readBlock align ex offset header field e e' wb).Keeps (Behind n) := by
  have hat {size : UInt32} {b : UInt64} {wb' : Vb2Workbuf} (h : vb2WorkbufAlloc align wb size = (some b, wb')) :
      n ≤ b.toNat := by
    rw [(vb2WorkbufAlloc_ok.mp h).2.1]
    exact hn
  rw [readBlock]
  cases halloc : vb2WorkbufAlloc align wb header with
  | mk ptr wb₁ =>
    cases ptr with
    | none => exact fun s => Std.Refl.refl s
    | some block =>
      rw [allocate_some, pure_bind]
      refine (keeps_behind_read ex offset (hat halloc) header).bind fun _ => (keeps_observe _).bind fun size => ?_
      rw [vb2WorkbufRealloc_alloc halloc]
      cases halloc₂ : vb2WorkbufAlloc align wb size with
      | mk ptr₂ wb₂ =>
        cases ptr₂ with
        | none => exact fun s => Std.Refl.refl s
        | some block₂ =>
          rw [allocate_some, pure_bind]
          exact (keeps_behind_read ex offset (hat halloc₂) size).bind fun _ => keeps_pure _

def KernelPartition.keyblockSize : UInt32 := le32 (Mem.ofList p.vblock) 16

structure DataKeyInside (w : Mem) (size : Nat) : Prop where
  key : KeyInside w 80 (fieldAt w 16)
  block : fieldAt w 16 ≤ size

theorem KeyblockSane.dataKeyInside {w : Mem} {size n : Nat} (h : KeyblockSane w size n) : DataKeyInside w size :=
  ⟨h.dataKey, h.inside⟩

theorem DataKeyInside.agree {w w' : Mem} {size : Nat} (hs : DataKeyInside w size) (h : Mem.Agree w w' 112) :
    DataKeyInside w' size := by
  have hblock := fieldAt_agree h (i := 16) (by decide)
  refine ⟨?_, ?_⟩
  · rw [← hblock]
    exact hs.key.agree h (by decide)
  · rw [← hblock]
    exact hs.block

/-- Whatever comes out of the second part of vb2_load_kernel_keyblock, the header is as it was. -/
theorem verifyKernelKeyblock_ends {need : Bool} {kb : UInt64} {size : UInt32} {key : Vb2PublicKey}
    {wb : Vb2Workbuf} {s : Vb2Context} (haddr : kb.toNat + size.toNat < 2 ^ 64)
    (hapart : 112 ≤ size.toNat → 112 ≤ 24 + fieldAt (s.workbuf.window kb.toNat) 24) :
    Ends (verifyKernelKeyblock align hash need kb size key wb) s fun r s' =>
      Behind (kb.toNat + 112) s s' ∧
        ∀ valid, r = .ok valid → DataKeyInside (s'.workbuf.window kb.toNat) size.toNat := by
  have hcheck (m : Mem) (n : UInt64) (hn : n.toNat ≤ 112) := @vb2CheckKeyblock_window m kb n size haddr hn
  unfold Ends
  cases hv : vb2VerifyKeyblock align hash kb size key wb s.workbuf with
  | mk r m =>
    have hfront {x : Nat} (hx : x < kb.toNat + 112) : m x = s.workbuf x := by
      have h := @vb2VerifyKeyblock_front align hash key x wb s.workbuf kb size haddr
        fun hsize => by have := hapart hsize; omega
      rwa [hv] at h
    rw [verifyKernelKeyblock_eq hv]
    refine ⟨⟨m, rfl, fun x => hfront⟩, fun valid hvalid => ?_⟩
    cases r with
    | ok u =>
      have hsane := (hcheck _ _ (by decide)).mp (vb2VerifyKeyblock_ok.mp hv).1
      exact hsane.dataKeyInside.agree fun i hi => (hfront (by omega)).symm
    | error rv =>
      dsimp only at hvalid
      split_ifs at hvalid
      cases hh : (vb2VerifyKeyblockHash align hash kb size wb m).1 with
      | error e =>
        rw [hh] at hvalid
        cases hvalid
      | ok _ =>
        obtain ⟨_, hok, -⟩ := bind_eq_ok.mp hh
        exact ((hcheck _ _ (by decide)).mp hok).dataKeyInside

/-- The data key of a keyblock is saved behind what was in use. -/
structure DataKeySaved (kb : UInt64) (s s' : Vb2Context) : Prop where
  steady : Steady s s'
  preamble : s'.sd.vblockPreambleOffset = Vb2Keyblock.keyblockSize s.workbuf kb
  offset : s'.sd.workbufDataKeyOffset = s.workbufUsed
  size : s'.sd.workbufDataKeySize.toNat =
    32 + (Vb2PackedKey.keySize s.workbuf (Vb2Keyblock.dataKey kb)).toNat
  used : s'.workbufUsed.toNat =
    s.workbufUsed.toNat + 32 + (Vb2PackedKey.keySize s.workbuf (Vb2Keyblock.dataKey kb)).toNat
  offsetField : Vb2PackedKey.keyOffset s'.workbuf (s.workbufAddr + s.workbufUsed.toUInt64) = 32
  sizeField : Vb2PackedKey.keySize s'.workbuf (s.workbufAddr + s.workbufUsed.toUInt64) =
    Vb2PackedKey.keySize s.workbuf (Vb2Keyblock.dataKey kb)
  contents : keyContents s'.workbuf (s.workbufAddr + s.workbufUsed.toUInt64) =
    keyContents s.workbuf (Vb2Keyblock.dataKey kb)

variable {kb : UInt64}

theorem saveKernelDataKey_saved (hvalid : WorkbufValid s)
    (hstart : s.workbufAddr.toNat + s.workbufUsed.toNat ≤ kb.toNat)
    (hend : kb.toNat + size.toNat ≤ s.workbufAddr.toNat + s.workbufSize.toNat)
    (hin : DataKeyInside (s.workbuf.window kb.toNat) size.toNat) :
    DataKeySaved kb s (saveKernelDataKey kb s) := by
  have hused := UInt32.le_iff_toNat_le.mp hvalid.used
  have haddr := hvalid.address
  have hheader := hin.key.header
  have hblock := hin.block
  have hdata : 80 + fieldAt (s.workbuf.window kb.toNat) 80 + fieldAt (s.workbuf.window kb.toNat) 88 ≤
    fieldAt (s.workbuf.window kb.toNat) 16 := hin.key.data
  have hapart : 0 < fieldAt (s.workbuf.window kb.toNat) 88 → 32 ≤ fieldAt (s.workbuf.window kb.toNat) 80 :=
    hin.key.apart
  have hwbsize := s.workbufSize.toNat_lt
  have h32 : (32 : UInt32).toNat = 32 := rfl
  have h80 : (80 : UInt64).toNat = 80 := rfl
  have hka : kb.toNat + (80 : UInt64).toNat < 2 ^ 64 := by omega
  have hdst := @toNat_add_offset s.workbufAddr s.workbufUsed (by omega)
  have hkey : (Vb2Keyblock.dataKey kb).toNat = kb.toNat + 80 := toNat_add_of_inside hka le_rfl
  have hkeySize : (Vb2PackedKey.keySize s.workbuf (Vb2Keyblock.dataKey kb)).toNat =
      fieldAt (s.workbuf.window kb.toNat) 88 := congrArg UInt32.toNat (fieldAt_window hka 8)
  have hkeyOffset : (Vb2PackedKey.keyOffset s.workbuf (Vb2Keyblock.dataKey kb)).toNat =
      fieldAt (s.workbuf.window kb.toNat) 80 := congrArg UInt32.toNat (fieldAt_window hka 0)
  have hmoved := @moveDataKey_moved s.workbuf (s.workbufAddr + s.workbufUsed.toUInt64) (Vb2Keyblock.dataKey kb)
    ⟨by omega, by omega⟩
  have hfits : 32 + (Vb2PackedKey.keySize s.workbuf (Vb2Keyblock.dataKey kb)).toNat ≤ size.toNat := by
    by_cases hpos : 0 < fieldAt (s.workbuf.window kb.toNat) 88
    · have hoff := hapart hpos
      omega
    · omega
  have hsize : (saveKernelDataKey kb s).sd.workbufDataKeySize.toNat =
      32 + (Vb2PackedKey.keySize s.workbuf (Vb2Keyblock.dataKey kb)).toNat := by
    change (Vb2PackedKey.keyOffset (moveDataKey s.workbuf _ _) _ +
      Vb2PackedKey.keySize (moveDataKey s.workbuf _ _) _).toNat = _
    rw [hmoved.offset, hmoved.size, UInt32.toNat_add, h32, Nat.mod_eq_of_lt (by omega)]
  have hnext : (saveKernelDataKey kb s).workbufUsed.toNat =
      s.workbufUsed.toNat + 32 + (Vb2PackedKey.keySize s.workbuf (Vb2Keyblock.dataKey kb)).toNat := by
    change (s.workbufUsed + (saveKernelDataKey kb s).sd.workbufDataKeySize).toNat = _
    rw [UInt32.toNat_add, hsize, Nat.mod_eq_of_lt (by omega)]
    omega
  refine ⟨⟨rfl, rfl, rfl, rfl, rfl, rfl, rfl, by omega, ⟨?_, hvalid.address⟩, fun x hx => ?_⟩, rfl, rfl, hsize,
    hnext, hmoved.offset, hmoved.size, hmoved.contents fun hpos => ?_⟩
  · rw [UInt32.le_iff_toNat_le, hnext]
    change _ ≤ s.workbufSize.toNat
    omega
  · exact hmoved.outside x (by omega)
  · have hoff := hapart (by omega)
    rw [vb2PackedKeyData_toNat (by omega)]
    omega

theorem readable_inside (ha : 0 < align.toNat) (hvalid : WorkbufValid s) {offset header : UInt32}
    (h : BlockReadable p offset header size (vb2WorkbufFromCtx align s)) :
    s.workbufAddr.toNat + s.workbufUsed.toNat ≤ (vb2WorkbufFromCtx align s).buf.toNat ∧
    (vb2WorkbufFromCtx align s).buf.toNat + size.toNat ≤ s.workbufAddr.toNat + s.workbufSize.toNat := by
  obtain ⟨hstart, hend⟩ := @vb2WorkbufFromCtx_inside align s hvalid
  have hfits := p.fits
  have hinside := h.inside
  have hround : size.toNat ≤ (wbRoundUp align size).toNat := le_wbRoundUp ha (by omega)
  obtain ⟨ptr, hptr⟩ := Option.ne_none_iff_exists'.mp h.space
  have halloc := (vb2WorkbufAlloc_ok.mp (Prod.ext hptr rfl)).1
  have hle := UInt32.le_iff_toNat_le.mp halloc
  omega

theorem readKernelKeyblock_decides (wb : Vb2Workbuf) (s : Vb2Context) :
    Decides (readKernelKeyblock align p.ex wb) s (BlockReadable p 0 vb2KeyblockHeaderSize p.keyblockSize wb)
      fun r s' => r = (wb.buf, p.keyblockSize, (vb2WorkbufAlloc align wb p.keyblockSize).2) ∧
        BlockRead p 0 wb.buf p.keyblockSize.toNat s s' := by
  have hsize : p.keyblockSize = le32 ((Mem.ofList p.vblock).window (0 : UInt32).toNat) 16 :=
    (le32_window _ 0 16).symm
  rw [readKernelKeyblock_eq]
  exact readBlock_decides p (by decide) hsize _ _ wb s

/-- The last part of vb2_load_kernel_keyblock. -/
def saveKernelKeyblock (kb : UInt64) (valid : Bool) (ctx : Vb2Context) : Vb2Context :=
  saveKernelDataKey kb { ctx with sd := { ctx.sd with
    kernelVersion := Vb2PackedKey.keyVersion ctx.workbuf (Vb2Keyblock.dataKey kb) <<< 16
    flags := if valid then ctx.sd.flags ||| vb2SdFlagKernelSigned else ctx.sd.flags } }

variable {s : Vb2Context}

theorem saveKernelKeyblock_saved {size : UInt32} (hvalid : WorkbufValid s)
    (hstart : s.workbufAddr.toNat + s.workbufUsed.toNat ≤ kb.toNat)
    (hend : kb.toNat + size.toNat ≤ s.workbufAddr.toNat + s.workbufSize.toNat)
    (hin : DataKeyInside (s.workbuf.window kb.toNat) size.toNat) (valid : Bool) :
    DataKeySaved kb s (saveKernelKeyblock kb valid s) := by
  have h := saveKernelDataKey_saved (s := { s with sd := { s.sd with
    kernelVersion := Vb2PackedKey.keyVersion s.workbuf (Vb2Keyblock.dataKey kb) <<< 16
    flags := if valid then s.sd.flags ||| vb2SdFlagKernelSigned else s.sd.flags } })
      ⟨hvalid.used, hvalid.address⟩ hstart hend hin
  have hs := h.steady
  exact ⟨⟨hs.flags, hs.nvdata, hs.stored, hs.keyOffset, hs.keySize, hs.address, hs.size, hs.used, hs.valid, hs.below⟩,
    h.preamble, h.offset, h.size, h.used, h.offsetField, h.sizeField, h.contents⟩

theorem keyblockRest_steady {need : Bool} {key : Vb2PublicKey} {wb : Vb2Workbuf}
    (hvalid : WorkbufValid s) (hstart : s.workbufAddr.toNat + s.workbufUsed.toNat ≤ kb.toNat)
    (hend : kb.toNat + size.toNat ≤ s.workbufAddr.toNat + s.workbufSize.toNat)
    (hapart : 112 ≤ size.toNat → 112 ≤ 24 + fieldAt (s.workbuf.window kb.toNat) 24) :
    Ends (do
      let valid ← verifyKernelKeyblock align hash need kb size key wb
      let valid ← inspect (checkKernelKeyblock need kb valid)
      update fun ctx => { ctx with sd := { ctx.sd with
        kernelVersion := Vb2PackedKey.keyVersion ctx.workbuf (Vb2Keyblock.dataKey kb) <<< 16
        flags := if valid then ctx.sd.flags ||| vb2SdFlagKernelSigned else ctx.sd.flags } }
      update (saveKernelDataKey kb) : Vb2M Unit) s fun _ s' => Steady s s' := by
  have haddr := hvalid.address
  have hverify := @verifyKernelKeyblock_ends align hash need kb size key wb s (by omega) hapart
  have hbehind {s' : Vb2Context} (h : Behind (kb.toNat + 112) s s') : Steady s s' := by
    obtain ⟨m, rfl, hm⟩ := h
    exact Steady.of_behind hvalid ⟨m, rfl, fun x hx => hm x (by omega)⟩
  refine hverify.seq (fun e s' h => hbehind h.1) fun valid s₁ h => ?_
  have hs₁ := hbehind h.1
  obtain ⟨⟨m, rfl, -⟩, hin⟩ := h
  refine ends_inspect_bind (fun valid' _ => ?_) fun e => hs₁
  have hsaved : DataKeySaved kb _ (saveKernelKeyblock kb valid' _) :=
    saveKernelKeyblock_saved hs₁.valid hstart hend (hin valid rfl) valid'
  exact hs₁.trans hsaved.steady

theorem vb2LoadKernelKeyblock_steady (ha : 0 < align.toNat) (hvalid : WorkbufValid s) :
    Ends (vb2LoadKernelKeyblock align hash p.ex) s fun _ s' => Steady s s' := by
  rw [vb2LoadKernelKeyblock]
  refine ends_observe_bind (ends_observe_bind (ends_update_bind ?_))
  have hcleared : Steady s (s.unsigned s.workbuf) :=
    ⟨rfl, rfl, rfl, rfl, rfl, rfl, rfl, le_rfl, ⟨hvalid.used, hvalid.address⟩, fun _ _ => rfl⟩
  have hfrom : vb2WorkbufFromCtx align s = vb2WorkbufFromCtx align (s.unsigned s.workbuf) := rfl
  change Ends _ (s.unsigned s.workbuf) _
  rw [hfrom]
  clear hfrom
  generalize s.unsigned s.workbuf = s₀ at hcleared ⊢
  refine Ends.mono (Q := fun _ s' => Steady s₀ s') ?_ fun _ _ h => hcleared.trans h
  have hvalid₀ := hcleared.valid
  have hstart := (@vb2WorkbufFromCtx_inside align s₀ hvalid₀).1
  refine ends_inspect_bind (fun key _ => ?_) fun e => Steady.refl hvalid₀
  -- the keyblock is read behind what is in use
  have hbehind : (readKernelKeyblock align p.ex (vb2WorkbufFromCtx align s₀)).Keeps (Behind _) :=
    keeps_behind_readBlock p.ex hstart _ _ _ _ _
  refine ends_bind_of_run (fun r s₂ h₂ => ?_) fun e s' h => Steady.of_behind hvalid₀ (hbehind.of_run h)
  have hs₂ := Steady.of_behind hvalid₀ (hbehind.of_run h₂)
  obtain ⟨hreadable, rfl, hread⟩ := (readKernelKeyblock_decides p _ _).of_ok h₂
  obtain ⟨hkb, hend⟩ := readable_inside p ha hvalid₀ hreadable
  obtain ⟨m₂, rfl, -⟩ := hread.behind
  have hheader := hreadable.header
  refine Ends.mono (keyblockRest_steady hs₂.valid hkb hend fun hsize => ?_) fun _ _ h => hs₂.trans h
  rw [fieldAt_agree hread.agree_zero (by omega)]
  exact p.apart

theorem loadKernelPreamble_eq (ex : Vb2Ex) (dataKey : Vb2PublicKey) :
    loadKernelPreamble align hash ex dataKey = (do
      let wb ← observe (vb2WorkbufFromCtx align)
      let offset ← observe (·.sd.vblockPreambleOffset)
      let (pre, preSize, wb) ← readBlock align ex offset vb2KernelPreambleHeaderSize 0
        vb2ErrorKernelPreamble2WorkbufHeader vb2ErrorKernelPreamble2Workbuf wb
      onWorkbuf (vb2VerifyKernelPreamble align hash pre preSize dataKey wb)
      pure (pre, preSize) : Vb2M (UInt64 × UInt32)) := by
  simp only [loadKernelPreamble, readBlock, bind_assoc, pure_bind]
  rfl

def KernelPartition.preambleSize (offset : UInt32) : UInt32 :=
  le32 ((Mem.ofList p.vblock).window offset.toNat) 0

theorem savePreamble_used {pre : UInt64} (hstart : s.workbufAddr.toNat + s.workbufUsed.toNat ≤ pre.toNat)
    (hend : pre.toNat + size.toNat ≤ s.workbufAddr.toNat + s.workbufSize.toNat) :
    (savePreamble pre size s).workbufUsed.toNat = pre.toNat - s.workbufAddr.toNat + size.toNat := by
  have hsize := s.workbufSize.toNat_lt
  change ((vb2OffsetOf s.workbufAddr pre).toUInt32 + size).toNat = _
  rw [UInt32.toNat_add, toNat_vb2OffsetOf (by omega) (by omega), Nat.mod_eq_of_lt (by omega)]

theorem savePreamble_steady {pre : UInt64} (hvalid : WorkbufValid s)
    (hstart : s.workbufAddr.toNat + s.workbufUsed.toNat ≤ pre.toNat)
    (hend : pre.toNat + size.toNat ≤ s.workbufAddr.toNat + s.workbufSize.toNat) :
    Steady s (savePreamble pre size s) := by
  have hused := savePreamble_used hstart hend
  refine ⟨rfl, rfl, rfl, rfl, rfl, rfl, rfl, by omega, ⟨?_, hvalid.address⟩, fun _ _ => rfl⟩
  rw [UInt32.le_iff_toNat_le, hused]
  change _ ≤ s.workbufSize.toNat
  omega

variable (ha : 0 < align.toNat)
include ha

theorem loadKernelPreamble_ends (hvalid : WorkbufValid s)
    (dataKey : Vb2PublicKey) :
    Ends (loadKernelPreamble align hash p.ex dataKey) s fun r s' =>
      Behind (s.workbufAddr.toNat + s.workbufUsed.toNat) s s' ∧ ∀ pre size, r = .ok (pre, size) →
        s.workbufAddr.toNat + s.workbufUsed.toNat ≤ pre.toNat ∧
        pre.toNat + size.toNat ≤ s.workbufAddr.toNat + s.workbufSize.toNat := by
  have haddr := hvalid.address
  have hstart := (@vb2WorkbufFromCtx_inside align s hvalid).1
  rw [loadKernelPreamble_eq]
  refine ends_observe_bind (ends_observe_bind ?_)
  have hbehind := @keeps_behind_readBlock align p.ex _ _ hstart s.sd.vblockPreambleOffset
    vb2KernelPreambleHeaderSize 0 vb2ErrorKernelPreamble2WorkbufHeader vb2ErrorKernelPreamble2Workbuf
  refine ends_bind_of_run (fun r s₁ h₁ => ?_) fun e s' h => ⟨hbehind.of_run h, fun _ _ hr => by cases hr⟩
  have hs₁ := hbehind.of_run h₁
  obtain ⟨hreadable, rfl, -⟩ := (@readBlock_decides align p _ _ (p.preambleSize s.sd.vblockPreambleOffset) _
    (by decide) rfl _ _ _ _).of_ok h₁
  obtain ⟨hpre, hend⟩ := readable_inside p ha hvalid hreadable
  have hverify {s' : Vb2Context} {wb : Vb2Workbuf} {r : Except UInt32 Unit}
      (h : onWorkbuf (vb2VerifyKernelPreamble align hash (vb2WorkbufFromCtx align s).buf
        (p.preambleSize s.sd.vblockPreambleOffset) dataKey wb) s₁ = (r, s')) :
      Behind (s.workbufAddr.toNat + s.workbufUsed.toNat) s s' := by
    refine IsTrans.trans _ _ _ hs₁ ⟨_, (congrArg Prod.snd h).symm, fun x hx => ?_⟩
    exact vb2VerifyKernelPreamble_front (by omega) (by omega)
  refine ends_bind_of_run (fun _ s₂ h₂ => ?_) fun e s' h => ⟨hverify h, fun _ _ hr => by cases hr⟩
  refine ends_pure ?_
  refine ⟨hverify h₂, fun pre size hr => ?_⟩
  cases hr
  exact ⟨hpre, hend⟩

theorem vb2LoadKernelPreamble_steady (hvalid : WorkbufValid s) :
    Ends (vb2LoadKernelPreamble align hash p.ex) s fun _ s' => Steady s s' := by
  rw [vb2LoadKernelPreamble]
  refine ends_inspect_bind (fun key _ => ?_) fun e => Steady.refl hvalid
  refine (loadKernelPreamble_ends p ha hvalid key).seq (fun _ _ h => Steady.of_behind hvalid h.1) fun r s₂ h => ?_
  have hs₂ := Steady.of_behind hvalid h.1
  obtain ⟨hpre, hend⟩ := h.2 r.1 r.2 rfl
  obtain ⟨m, rfl, -⟩ := h.1
  refine ends_observe_bind (ends_inspect_bind (fun _ _ => ends_update_bind ?_) fun e => hs₂)
  have hversion (v : UInt32) : Steady s { s with workbuf := m, sd := { s.sd with kernelVersion := v } } :=
    ⟨rfl, rfl, rfl, rfl, rfl, rfl, rfl, le_rfl, ⟨hvalid.used, hvalid.address⟩, hs₂.below⟩
  refine ends_inspect_bind (fun _ _ => ?_) fun e => hversion _
  exact (hversion _).trans (savePreamble_steady (hversion _).valid hpre hend)

theorem vb2apiLoadKernelVblock_steady (hvalid : WorkbufValid s) :
    Ends (vb2apiLoadKernelVblock align hash p.ex) s fun _ s' => Steady s s' :=
  (vb2LoadKernelKeyblock_steady p ha hvalid).seq (fun _ _ h => h) fun _ _ h =>
    (vb2LoadKernelPreamble_steady p ha h.valid).mono fun _ _ => h.trans

end

theorem run_loadStep_steady {align : UInt32} {hash : Vb2HashAlgorithm → List UInt8 → List UInt8}
    (ha : 0 < align.toNat) {s : Bool × Vb2Context} (hvalid : WorkbufValid s.2) (ps : List (KernelPartition align)) :
    Steady s.2 (run (loadStep align hash) s (ps.map (·.ex))).2 := by
  induction ps generalizing s with
  | nil => exact Steady.refl hvalid
  | cons p ps ih =>
    have hstep : Steady s.2 (loadStep align hash s p.ex).2 := vb2apiLoadKernelVblock_steady p ha hvalid
    exact hstep.trans (ih hstep.valid)

end Vboot.Vb2
