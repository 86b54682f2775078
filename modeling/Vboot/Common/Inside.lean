import Vboot.Common.SharedData
import Vboot.Common.Signed
import Vboot.Vb2.Signed

/-! VerifyMemberInside of firmware/lib/vboot_common.c, vb2_verify_member_inside of
firmware/lib20/common.c and the reads of the GBB against the containment of addresses in exact
arithmetic. -/
namespace Vboot
open Vboot.Lib

/-- The member starts at or after the parent, and the member and its data lie inside the parent. -/
structure MemberInside (parent parentSize member memberSize dataOffset dataSize : Int) : Prop where
  start : parent ≤ member
  inside : member + memberSize ≤ parent + parentSize
  dataStart : parent ≤ member + dataOffset
  data : member + dataOffset + dataSize ≤ parent + parentSize

section
variable (parent parentSize member memberSize dataSize : UInt64)

theorem toNat_sub_le_iff (h : parent.toNat + parentSize.toNat < 2 ^ 64) (n : Nat) :
    (member - parent).toNat + n ≤ parentSize.toNat ↔
      parent.toNat ≤ member.toNat ∧ member.toNat + n ≤ parent.toNat + parentSize.toNat := by
  have hp := parent.toNat_lt
  have hm := member.toNat_lt
  rw [UInt64.toNat_sub]
  omega

theorem verifyMemberInside_iff (h : parent.toNat + parentSize.toNat < 2 ^ 64) (dataOffset : UInt64) :
    verifyMemberInside parent parentSize member memberSize dataOffset dataSize = false ↔
      MemberInside parent.toNat parentSize.toNat member.toNat memberSize.toNat dataOffset.toNat
        dataSize.toNat := by
  rw [verifyMemberInside_eq_false, Nat.add_assoc, toNat_sub_le_iff parent parentSize member h,
    toNat_sub_le_iff parent parentSize member h]
  constructor
  · rintro ⟨⟨hs, hm⟩, -, hd⟩
    exact ⟨by omega, by omega, by omega, by omega⟩
  · rintro ⟨hs, hm, -, hd⟩
    omega

omit parent parentSize member memberSize dataSize in
theorem signed_range {start size limit : UInt64} (hwraps : ¬(start + size).toInt64 < start.toInt64)
    (hinside : ¬(start.toInt64 < 0 ∨ start > limit ∨ start + size > limit)) :
    start.toNat < 2 ^ 63 ∧ (start + size).toNat < 2 ^ 63 ∧ (start + size).toNat = start.toNat + size.toNat ∧
      start.toNat + size.toNat ≤ limit.toNat := by
  have hz : (0 : Int64).toInt = 0 := rfl
  have hstart := start.toNat_lt
  have hsize := size.toNat_lt
  have hlimit := limit.toNat_lt
  simp only [Int64.lt_iff_toInt_lt, Vb2.toInt_toInt64, UInt64.lt_iff_toNat_lt, gt_iff_lt, UInt64.toNat_add,
    hz, not_or] at hwraps hinside ⊢
  obtain ⟨hnonneg, -, hend⟩ := hinside
  have hpos : start.toNat < 2 ^ 63 := by
    split_ifs at hnonneg <;> omega
  rw [if_pos hpos] at hwraps
  split_ifs at hwraps <;> omega

theorem vb2VerifyMemberInside_inside (dataOffset : Int64)
    (h : Vb2.vb2VerifyMemberInside parent parentSize member memberSize dataOffset dataSize = .ok ()) :
    parent.toNat + parentSize.toNat < 2 ^ 64 ∧
      MemberInside parent.toNat parentSize.toNat member.toNat memberSize.toNat dataOffset.toInt
        dataSize.toNat ∧
      (0 < dataSize.toNat → (memberSize.toNat : Int) ≤ dataOffset.toInt) := by
  obtain ⟨offset, rfl⟩ : ∃ offset : UInt64, dataOffset = offset.toInt64 := ⟨dataOffset.toUInt64, by simp⟩
  unfold Vb2.vb2VerifyMemberInside Vb2.vb2OffsetOf at h
  simp only [reject_bind_eq_ok, reject_eq_ok, UInt64.toUInt64_toInt64, ← UInt64.toInt64_add] at h
  obtain ⟨hparent, hmemberWraps, hmember, hoverlap, hdataWraps, hdata⟩ := h
  obtain ⟨hstart, hend, hendEq, hendLe⟩ := signed_range hmemberWraps hmember
  obtain ⟨hdataStart, -, -, hdataLe⟩ := signed_range hdataWraps hdata
  have hp := parent.toNat_lt
  have hm := member.toNat_lt
  have hs := parentSize.toNat_lt
  have ho := offset.toNat_lt
  have hexact : parent.toNat + parentSize.toNat < 2 ^ 64 := by
    rw [UInt64.lt_iff_toNat_lt, UInt64.toNat_add] at hparent
    omega
  have hfrom : parent.toNat + (member - parent).toNat = member.toNat := by
    have hle := (toNat_sub_le_iff parent parentSize member hexact 0).mp (by omega)
    rw [UInt64.toNat_sub]
    omega
  -- the offset of the data, which may be negative
  have hoffset : ((member - parent + offset).toNat : Int) = (member - parent).toNat + offset.toInt64.toInt := by
    rw [Vb2.toInt_toInt64, UInt64.toNat_add] at *
    split_ifs <;> omega
  refine ⟨hexact, ⟨by omega, by omega, by omega, by omega⟩, fun hpos => ?_⟩
  have hafter : ¬ (member - parent + offset).toInt64 < (member - parent + memberSize).toInt64 :=
    fun hlt => hoverlap ⟨UInt64.lt_iff_toNat_lt.mpr hpos, hlt⟩
  rw [Int64.lt_iff_toInt_lt, Vb2.toInt_toInt64, Vb2.toInt_toInt64, if_pos hdataStart, if_pos hend] at hafter
  omega

end

/-- The vboot1 check is exact wherever the parent does not wrap. What the vboot2 check accepts is inside,
with data behind the member, and so accepted by vboot1. -/
theorem memberInside_exact (parent parentSize member memberSize dataSize : UInt64) :
    (parent.toNat + parentSize.toNat < 2 ^ 64 → ∀ dataOffset : UInt64,
      (verifyMemberInside parent parentSize member memberSize dataOffset dataSize = false ↔
        MemberInside parent.toNat parentSize.toNat member.toNat memberSize.toNat dataOffset.toNat
          dataSize.toNat)) ∧
    (∀ dataOffset : Int64,
      Vb2.vb2VerifyMemberInside parent parentSize member memberSize dataOffset dataSize = .ok () →
        MemberInside parent.toNat parentSize.toNat member.toNat memberSize.toNat dataOffset.toInt
          dataSize.toNat ∧
        (0 < dataSize.toNat → (memberSize.toNat : Int) ≤ dataOffset.toInt)) ∧
    (∀ dataOffset : Int64, 0 ≤ dataOffset →
      Vb2.vb2VerifyMemberInside parent parentSize member memberSize dataOffset dataSize = .ok () →
        verifyMemberInside parent parentSize member memberSize dataOffset.toUInt64 dataSize = false) := by
  refine ⟨fun h dataOffset => verifyMemberInside_iff parent parentSize member memberSize dataSize h dataOffset,
    fun dataOffset h => ?_, fun dataOffset hnonneg h => ?_⟩
  · exact (vb2VerifyMemberInside_inside parent parentSize member memberSize dataSize dataOffset h).2
  · obtain ⟨hexact, hinside, -⟩ :=
      vb2VerifyMemberInside_inside parent parentSize member memberSize dataSize dataOffset h
    have hoffset : (dataOffset.toUInt64.toNat : Int) = dataOffset.toInt := by
      obtain ⟨offset, rfl⟩ : ∃ offset : UInt64, dataOffset = offset.toInt64 := ⟨dataOffset.toUInt64, by simp⟩
      have ho := offset.toNat_lt
      rw [Int64.le_iff_toInt_le, Vb2.toInt_toInt64] at hnonneg
      rw [UInt64.toUInt64_toInt64, Vb2.toInt_toInt64]
      change 0 ≤ _ at hnonneg
      split_ifs at hnonneg ⊢ <;> omega
    rw [verifyMemberInside_iff parent parentSize member memberSize dataSize hexact, hoffset]
    exact hinside

/-- The size of the buffer that VbGbbReadKey allocates for a key with this header. -/
def keyBufferSize (key : Ptr) : UInt32 :=
  let size := (key.keyOffset + key.keySize).toUInt32
  if size < 32 then 32 else size

section
variable {data heap heap' : Mem} {gbbSize offset size : UInt32} {key : Ptr}

theorem vbRegionReadData_buffer
    (h : (vbRegionReadData (.buffer data gbbSize) offset size heap).1 = vbErrorSuccess) :
    (offset.toNat + size.toNat) % 2 ^ 32 ≤ gbbSize.toNat ∧
    (vbRegionReadData (.buffer data gbbSize) offset size heap).2.load 0 size.toNat =
      data.load offset.toNat size.toNat := by
  by_cases hle : offset + size > gbbSize
  · rw [vbRegionReadData, if_pos hle] at h
    cases h
  · rw [vbRegionReadData, if_neg hle]
    rw [UInt32.not_lt, UInt32.le_iff_toNat_le, UInt32.toNat_add] at hle
    exact ⟨hle, Mem.load_store heap 0 size.toNat _ (Mem.length_load data _ _)⟩

theorem vbGbbReadKey_buffer (h : vbGbbReadKey (.buffer data gbbSize) offset heap heap' = .ok key) :
    (offset.toNat + (keyBufferSize key).toNat) % 2 ^ 32 ≤ gbbSize.toNat := by
  let first := vbRegionReadData (.buffer data gbbSize) offset 32 heap
  let second := vbRegionReadData (.buffer data gbbSize) offset (keyBufferSize ⟨first.2, 0⟩) heap'
  have hreads : (if first.1 ≠ vbErrorSuccess then .error first.1 else if second.1 ≠ vbErrorSuccess then
      .error second.1 else .ok ⟨second.2, 0⟩ : Except UInt32 Ptr) = .ok key := h
  split_ifs at hreads with h1 h2
  -- both reads begin with the same header
  obtain ⟨-, hheader⟩ := vbRegionReadData_buffer (not_not.mp h1)
  obtain ⟨hle, hkey⟩ := vbRegionReadData_buffer (not_not.mp h2)
  have h32 : 32 ≤ (keyBufferSize ⟨first.2, 0⟩).toNat := by
    unfold keyBufferSize
    dsimp only
    split_ifs with hlt
    · rfl
    · exact UInt32.le_iff_toNat_le.mp (UInt32.not_lt.mp hlt)
  have hbytes : key.bytes 32 = (⟨first.2, 0⟩ : Ptr).bytes 32 := by
    rw [← Except.ok.inj hreads]
    exact (Mem.load_eq_of_le h32 hkey).trans hheader.symm
  have hsame : keyBufferSize key = keyBufferSize ⟨first.2, 0⟩ := by
    unfold keyBufferSize Ptr.keyOffset Ptr.keySize
    rw [Ptr.u64_congr hbytes (by omega), Ptr.u64_congr hbytes (by omega)]
  rw [hsame]
  exact hle

end

/-- A read of the GBB is inside it, and a key that was read is inside its buffer and the GBB, exactly if
the sums of the offsets and sizes are below 2 ^ 32. -/
theorem gbb_reads_inside_iff (data : Mem) (gbbSize : UInt32) :
    (∀ offset size heap, (vbRegionReadData (.buffer data gbbSize) offset size heap).1 = vbErrorSuccess →
      (offset.toNat + size.toNat ≤ gbbSize.toNat ↔ offset.toNat + size.toNat < 2 ^ 32)) ∧
    ∀ offset heap heap' key, vbGbbReadKey (.buffer data gbbSize) offset heap heap' = .ok key →
      (MemberInside 0 (keyBufferSize key).toNat 0 32 key.keyOffset.toNat key.keySize.toNat ∧
          MemberInside 0 gbbSize.toNat offset.toNat 32 key.keyOffset.toNat key.keySize.toNat ↔
        offset.toNat + max 32 (key.keyOffset.toNat + key.keySize.toNat) < 2 ^ 32) := by
  have hgbb := gbbSize.toNat_lt
  constructor
  · intro offset size heap h
    have hle := (vbRegionReadData_buffer h).1
    omega
  · intro offset heap heap' key h
    have hle := vbGbbReadKey_buffer h
    constructor
    · rintro ⟨-, -, hheader, -, hend⟩
      omega
    · intro hlt
      have hsize : (keyBufferSize key).toNat = max 32 (key.keyOffset.toNat + key.keySize.toNat) := by
        have h32 : (32 : UInt32).toNat = 32 := rfl
        have hexact : (key.keyOffset + key.keySize).toUInt32.toNat = key.keyOffset.toNat + key.keySize.toNat := by
          rw [UInt64.toNat_toUInt32, UInt64.toNat_add]
          omega
        unfold keyBufferSize
        dsimp only
        split_ifs with hsmall <;> rw [UInt32.lt_iff_toNat_lt, hexact, h32] at hsmall <;> omega
      rw [hsize] at hle ⊢
      exact ⟨⟨by omega, by omega, by omega, by omega⟩, by omega, by omega, by omega, by omega⟩

/-- A key header with the given size of the key. -/
def keyGbb (size : UInt64) : Mem := Mem.store (fun _ => 0) 0 (leBytes64 32 ++ leBytes64 size)

theorem gbb_reads_inside_sample :
    ∃ key, vbGbbReadKey (.buffer (keyGbb 96) 128) 0 (fun _ => 0) (fun _ => 0) = .ok key ∧
      MemberInside 0 128 0 32 key.keyOffset.toNat key.keySize.toNat := by
  have hsmall := (gbb_reads_inside_iff (keyGbb 96) 128).2 0 (fun _ => 0) (fun _ => 0) _ rfl
  exact ⟨_, rfl, (hsmall.mpr (by decide +kernel)).2⟩

/-- A range that wraps around, and a key whose offset and size do. -/
theorem gbb_reads_outside :
    (vbRegionReadData (.buffer (fun _ => 0) 128) 0xFFFFFFF0 32 fun _ => 0).1 = vbErrorSuccess ∧
    ∃ key, vbGbbReadKey (.buffer (keyGbb 0xFFFFFFE0) 128) 0 (fun _ => 0) (fun _ => 0) = .ok key ∧
      (keyBufferSize key).toNat = 32 ∧ key.keyOffset.toNat + key.keySize.toNat = 2 ^ 32 :=
  ⟨by decide, _, rfl, by decide +kernel, by decide +kernel⟩

end Vboot
