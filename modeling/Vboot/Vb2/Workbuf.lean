import Vboot.Vb2.Misc

/-! Where allocations of the work buffer lie, firmware/2lib/2common.c. A size that wraps when it is
rounded up gets less space than it asks for. -/
namespace Vboot.Vb2
open Vboot.Lib

variable {align : UInt32}

theorem and_add_and_not (x m : UInt32) : (x &&& m) + (x &&& ~~~m) = x := by
  apply UInt32.toBitVec_inj.mp
  simp only [UInt32.toBitVec_add, UInt32.toBitVec_and, UInt32.toBitVec_not]
  rw [BitVec.add_eq_or_of_and_eq_zero, ← BitVec.and_or_distrib_left, BitVec.or_not_self,
    BitVec.and_allOnes]
  ext i hi
  simp +contextual

theorem le_wbRoundUp {v : UInt32} (ha : 0 < align.toNat) (h : v.toNat + align.toNat ≤ 2 ^ 32) :
    v.toNat ≤ (wbRoundUp align v).toNat := by
  have hone : (1 : UInt32).toNat = 1 := rfl
  have hm : (align - 1).toNat = align.toNat - 1 := by
    rw [UInt32.toNat_sub_of_le _ _ (UInt32.le_iff_toNat_le.mpr (by rw [hone]; exact ha)), hone]
  have hx : (v + align - 1).toNat = v.toNat + align.toNat - 1 := by
    rw [UInt32.toNat_sub, UInt32.toNat_add, hone]
    omega
  have hlow : ((v + align - 1) &&& (align - 1)).toNat ≤ (align - 1).toNat := by
    rw [UInt32.toNat_and]
    exact Nat.and_le_right
  have hsplit := congrArg UInt32.toNat (and_add_and_not (v + align - 1) (align - 1))
  rw [UInt32.toNat_add] at hsplit
  have hle := Nat.mod_le (((v + align - 1) &&& (align - 1)).toNat +
    ((v + align - 1) &&& ~~~(align - 1)).toNat) (2 ^ 32)
  rw [wbRoundUp]
  omega

variable {wb wb' : Vb2Workbuf} {p : UInt64}

theorem vb2WorkbufAlloc_ok {size : UInt32} :
    vb2WorkbufAlloc align wb size = (some p, wb') ↔
      wbRoundUp align size ≤ wb.size ∧ p = wb.buf ∧
      wb' = ⟨wb.buf + (wbRoundUp align size).toUInt64, wb.size - wbRoundUp align size⟩ := by
  rw [vb2WorkbufAlloc]
  by_cases h : wbRoundUp align size > wb.size
  · rw [if_pos h]
    exact iff_of_false (fun hx => by cases hx) fun hx => UInt32.not_le.mpr h hx.1
  · rw [if_neg h, Prod.ext_iff]
    exact ⟨fun hx => ⟨UInt32.not_lt.mp h, (Option.some.inj hx.1).symm, hx.2.symm⟩,
      fun hx => ⟨congrArg some hx.2.1.symm, hx.2.2.symm⟩⟩

theorem vb2WorkbufFree_alloc {size : UInt32}
    (h : vb2WorkbufAlloc align wb size = (some p, wb')) : vb2WorkbufFree align wb' size = wb := by
  obtain ⟨-, -, rfl⟩ := vb2WorkbufAlloc_ok.mp h
  rw [vb2WorkbufFree]
  dsimp only
  rw [UInt64.add_sub_cancel, UInt32.sub_add_cancel]

theorem vb2WorkbufRealloc_alloc {oldsize newsize : UInt32}
    (h : vb2WorkbufAlloc align wb oldsize = (some p, wb')) :
    vb2WorkbufRealloc align wb' oldsize newsize = vb2WorkbufAlloc align wb newsize := by
  rw [vb2WorkbufRealloc, vb2WorkbufFree_alloc h]

theorem wbRoundUp_le (v : UInt32) : (wbRoundUp align v).toNat ≤ v.toNat + align.toNat := by
  have hone : (1 : UInt32).toNat = 1 := rfl
  have hle : (wbRoundUp align v).toNat ≤ (v + align - 1).toNat := by
    rw [wbRoundUp, UInt32.toNat_and]
    exact Nat.and_le_left
  have hv := v.toNat_lt
  have ha := align.toNat_lt
  by_cases hzero : v.toNat + align.toNat = 0
  · have halign : align = 0 := UInt32.toNat_inj.mp (Nat.eq_zero_of_add_eq_zero_left hzero)
    have hmask : ~~~((0 : UInt32) - 1) = 0 := by decide
    rw [wbRoundUp, halign, hmask, UInt32.and_zero]
    exact Nat.zero_le _
  · rw [UInt32.toNat_sub, UInt32.toNat_add, hone] at hle
    omega

theorem vb2WorkbufAlloc_room {size : UInt32} (h : size.toNat + align.toNat ≤ wb.size.toNat) :
    ∃ wb', vb2WorkbufAlloc align wb size = (some wb.buf, wb') ∧
      wb.size.toNat ≤ wb'.size.toNat + size.toNat + align.toNat := by
  have hround := @wbRoundUp_le align size
  have hle : wbRoundUp align size ≤ wb.size := UInt32.le_iff_toNat_le.mpr (by omega)
  refine ⟨_, vb2WorkbufAlloc_ok.mpr ⟨hle, rfl, rfl⟩, ?_⟩
  dsimp only
  rw [UInt32.toNat_sub_of_le _ _ hle]
  omega

theorem vb2Align_ok {want : UInt32} (h : vb2Align align wb want = .ok wb') :
    ∃ n : Nat, n ≤ wb.size.toNat ∧ wb'.size.toNat = wb.size.toNat - n ∧
      wb'.buf.toNat = (wb.buf.toNat + n) % 2 ^ 64 := by
  rw [vb2Align] at h
  dsimp only at h
  split_ifs at h with hoffs
  · obtain ⟨-, h⟩ := reject_bind_eq_ok.mp h
    cases h
    exact ⟨0, Nat.zero_le _, rfl, (Nat.mod_eq_of_lt wb.buf.toNat_lt).symm⟩
  · obtain ⟨hsize, h⟩ := reject_bind_eq_ok.mp h
    obtain ⟨-, h⟩ := reject_bind_eq_ok.mp h
    cases h
    have hle := UInt64.le_iff_toNat_le.mp (UInt64.not_lt.mp hsize)
    have hlt := wb.size.toNat_lt
    rw [UInt32.toNat_toUInt64] at hle
    refine ⟨_, hle, ?_, UInt64.toNat_add _ _⟩
    have hn : (align.toUInt64 - (wb.buf &&& (align.toUInt64 - 1))).toUInt32.toNat =
        (align.toUInt64 - (wb.buf &&& (align.toUInt64 - 1))).toNat := by
      rw [UInt64.toNat_toUInt32, Nat.mod_eq_of_lt (by omega)]
    dsimp only
    rw [UInt32.toNat_sub_of_le _ _ (UInt32.le_iff_toNat_le.mpr (by omega)), hn]

theorem vb2Align_room (ha : 0 < align.toNat) (h : align.toNat ≤ wb.size.toNat) :
    ∃ wb', vb2Align align wb 0 = .ok wb' ∧ wb.size.toNat ≤ wb'.size.toNat + align.toNat := by
  have hone : (1 : UInt64).toNat = 1 := rfl
  have halign := UInt32.toNat_toUInt64 align
  have hlt := align.toNat_lt
  have hmask : (align.toUInt64 - 1).toNat = align.toNat - 1 := by
    rw [UInt64.toNat_sub_of_le _ _ (UInt64.le_iff_toNat_le.mpr (by rw [hone, halign]; exact ha)), hone, halign]
  have hoffs : (wb.buf &&& (align.toUInt64 - 1)).toNat ≤ align.toNat - 1 := by
    rw [UInt64.toNat_and, hmask]
    exact Nat.and_le_right
  have hwant (wb : Vb2Workbuf) :
      (reject (wb.size < 0) vb2ErrorAlignSize >>= fun _ => pure wb : Except UInt32 Vb2Workbuf) = .ok wb := by
    refine reject_bind_eq_ok.mpr ⟨fun hx => ?_, rfl⟩
    exact Nat.not_lt_zero _ (UInt32.lt_iff_toNat_lt.mp hx)
  by_cases hz : wb.buf &&& (align.toUInt64 - 1) = 0
  · refine ⟨wb, ?_, Nat.le_add_right _ _⟩
    rw [vb2Align]
    dsimp only
    rw [if_pos hz]
    exact hwant wb
  · have hmove : (align.toUInt64 - (wb.buf &&& (align.toUInt64 - 1))).toNat ≤ align.toNat := by
      rw [UInt64.toNat_sub_of_le _ _ (UInt64.le_iff_toNat_le.mpr (by omega)), halign]
      omega
    have hsize : (align.toUInt64 - (wb.buf &&& (align.toUInt64 - 1))).toUInt32.toNat ≤ align.toNat := by
      rw [UInt64.toNat_toUInt32]
      exact (Nat.mod_le _ _).trans hmove
    refine ⟨⟨wb.buf + (align.toUInt64 - (wb.buf &&& (align.toUInt64 - 1))),
      wb.size - (align.toUInt64 - (wb.buf &&& (align.toUInt64 - 1))).toUInt32⟩, ?_, ?_⟩
    · rw [vb2Align]
      dsimp only
      rw [if_neg hz]
      refine reject_bind_eq_ok.mpr ⟨?_, hwant _⟩
      rw [UInt64.not_lt, UInt64.le_iff_toNat_le, UInt32.toNat_toUInt64]
      omega
    · dsimp only
      rw [UInt32.toNat_sub_of_le _ _ (UInt32.le_iff_toNat_le.mpr (by omega))]
      omega

theorem toNat_add_offset {base : UInt64} {n : UInt32} (h : base.toNat + n.toNat < 2 ^ 64) :
    (base + n.toUInt64).toNat = base.toNat + n.toNat := by
  rw [UInt64.toNat_add, UInt32.toNat_toUInt64, Nat.mod_eq_of_lt h]

section
variable {base ptr : UInt64} (h : base.toNat ≤ ptr.toNat) (hlt : ptr.toNat < base.toNat + 2 ^ 32)
include h hlt

theorem toNat_vb2OffsetOf : (vb2OffsetOf base ptr).toUInt32.toNat = ptr.toNat - base.toNat := by
  rw [vb2OffsetOf, UInt64.toNat_toUInt32, UInt64.toNat_sub_of_le _ _ (UInt64.le_iff_toNat_le.mpr h),
    Nat.mod_eq_of_lt (by omega)]

theorem add_vb2OffsetOf : base + (vb2OffsetOf base ptr).toUInt32.toUInt64 = ptr := by
  have hptr := ptr.toNat_lt
  have hoffset := toNat_vb2OffsetOf h hlt
  apply UInt64.toNat_inj.mp
  rw [toNat_add_offset (by omega), hoffset]
  omega

end

/-- The work buffer is an object of the address space, and no more of it is used than there is. -/
structure WorkbufValid (ctx : Vb2Context) : Prop where
  used : ctx.workbufUsed ≤ ctx.workbufSize
  address : ctx.workbufAddr.toNat + ctx.workbufSize.toNat < 2 ^ 64

theorem vb2WorkbufInit_inside {buf : UInt64} {size : UInt32} (h : buf.toNat + size.toNat < 2 ^ 64) :
    buf.toNat ≤ (vb2WorkbufInit align buf size).buf.toNat ∧
    (vb2WorkbufInit align buf size).buf.toNat + (vb2WorkbufInit align buf size).size.toNat ≤
      buf.toNat + size.toNat := by
  rw [vb2WorkbufInit]
  cases halign : vb2Align align ⟨buf, size⟩ 0 with
  | error e =>
    have hz : (0 : UInt32).toNat = 0 := rfl
    dsimp only
    omega
  | ok wb =>
    obtain ⟨n, hn, hwbsize, hwbbuf⟩ := vb2Align_ok halign
    dsimp only at hn hwbsize hwbbuf ⊢
    rw [Nat.mod_eq_of_lt (by omega)] at hwbbuf
    omega

variable {ctx : Vb2Context}

theorem vb2WorkbufFromCtx_inside (h : WorkbufValid ctx) :
    ctx.workbufAddr.toNat + ctx.workbufUsed.toNat ≤ (vb2WorkbufFromCtx align ctx).buf.toNat ∧
    (vb2WorkbufFromCtx align ctx).buf.toNat + (vb2WorkbufFromCtx align ctx).size.toNat ≤
      ctx.workbufAddr.toNat + ctx.workbufSize.toNat := by
  have hused := UInt32.le_iff_toNat_le.mp h.used
  have haddr := h.address
  have hbuf := @toNat_add_offset ctx.workbufAddr ctx.workbufUsed (by omega)
  have hsize : (ctx.workbufSize - ctx.workbufUsed).toNat =
      ctx.workbufSize.toNat - ctx.workbufUsed.toNat := UInt32.toNat_sub_of_le _ _ h.used
  have hinside := @vb2WorkbufInit_inside align (ctx.workbufAddr + ctx.workbufUsed.toUInt64)
    (ctx.workbufSize - ctx.workbufUsed) (by omega)
  rw [hbuf, hsize] at hinside
  rw [vb2WorkbufFromCtx]
  omega

theorem vb2WorkbufFromCtx_room (h : WorkbufValid ctx) (ha : 0 < align.toNat)
    (hroom : ctx.workbufUsed.toNat + align.toNat ≤ ctx.workbufSize.toNat) :
    ctx.workbufSize.toNat ≤ (vb2WorkbufFromCtx align ctx).size.toNat + ctx.workbufUsed.toNat + align.toNat := by
  have hused := UInt32.le_iff_toNat_le.mp h.used
  have hsize : (ctx.workbufSize - ctx.workbufUsed).toNat =
      ctx.workbufSize.toNat - ctx.workbufUsed.toNat := UInt32.toNat_sub_of_le _ _ h.used
  obtain ⟨wb, hwb, hle⟩ := @vb2Align_room align ⟨ctx.workbufAddr + ctx.workbufUsed.toUInt64,
    ctx.workbufSize - ctx.workbufUsed⟩ ha (by dsimp only; omega)
  rw [vb2WorkbufFromCtx, vb2WorkbufInit, hwb]
  dsimp only at hle ⊢
  omega

end Vboot.Vb2
