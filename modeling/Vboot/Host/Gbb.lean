import Vboot.Lib.Access
import Vboot.Lib.Endian

/-! The check of a GBB header by the host tools, futility/misc.c, over a buffer that starts with the
header. -/
namespace Vboot.Host
open Vboot.Lib Vboot.Lib.Program

def gbbSignature : List UInt8 := [0x24, 0x47, 0x42, 0x42]
def gbbMajorVer : UInt16 := 1
def gbbHeaderSize : UInt32 := 128

/- Where the header has the offset and then the size of the HWID, the root key, the bitmaps and the
   recovery key. -/
def gbbAreas : List Nat := [16, 24, 32, 40]

/-- A program that ends early returns 0. What goes to *maxlen_ptr, if anything, is given in both cases. -/
abbrev GbbM := Program (Option UInt32) Traced

def nullScan (s : Nat) : Nat → GbbM Bool
  | 0 => pure false
  | n + 1 => do
    let c ← readAt (s + n) 1 (· (s + n))
    if c = 0 then pure true else nullScan s n

/-- The length is an int, and so negative from 2^31 on. -/
def isNullTerminated (s : Nat) (len : UInt32) : GbbM Bool :=
  let len := len - 1
  nullScan s (if len < 0x80000000 then len.toNat + 1 else 0)

def gbbMaxlen (m : Mem) : UInt32 :=
  gbbAreas.foldl (fun maxlen area => max maxlen (le32 m area + le32 m (area + 4))) (le32 m 8)

def readMaxlen (maxlenPtr : Bool) : GbbM (Option UInt32) :=
  if maxlenPtr then do
    let maxlen ← readAt 16 32 gbbMaxlen
    pure (some maxlen)
  else pure none

def checkArea (len : UInt32) (maxlen : Option UInt32) (area : Nat) : GbbM Unit := do
  let offset ← readAt area 4 (le32 · area)
  refuse (offset < gbbHeaderSize) maxlen
  let size ← readAt (area + 4) 4 (le32 · (area + 4))
  refuse (offset + size > len) maxlen

def checkHwid (maxlen : Option UInt32) : GbbM Unit := do
  let size ← readAt 20 4 (le32 · 20)
  if size ≠ 0 then do
    let offset ← readAt 16 4 (le32 · 16)
    let terminated ← isNullTerminated offset.toNat size
    refuse (terminated = false) maxlen
  else pure ()

def futilValidGbbHeader (len : UInt32) (maxlenPtr : Bool) : GbbM (Option UInt32) := do
  refuse (len < 128) none
  let signature ← readAt 0 4 (·.load 0 4)
  refuse (signature ≠ gbbSignature) none
  let majorVersion ← readAt 4 2 (le16 · 4)
  refuse (majorVersion ≠ gbbMajorVer) none
  let headerSize ← readAt 8 4 (le32 · 8)
  let maxlen ← readMaxlen maxlenPtr
  refuse (headerSize ≠ gbbHeaderSize ∨ headerSize > len) maxlen
  checkArea len maxlen 16
  checkHwid maxlen
  checkArea len maxlen 24
  checkArea len maxlen 32
  checkArea len maxlen 40
  pure maxlen

/-- The end of an area in exact arithmetic. -/
def areaEnd (m : Mem) (area : Nat) : Nat := (le32 m area).toNat + (le32 m (area + 4)).toNat

section
variable {m : Mem} {bound : Nat}

theorem nullScan_inspects {s n : Nat} (h : s + n ≤ bound) :
    (nullScan s n).Inspects bound m fun r => r = true → ∃ i < n, m (s + i) = 0 := by
  induction n with
  | zero => exact inspects_pure fun h => by cases h
  | succ n ih =>
    refine inspects_readAt_bind (by omega) ?_
    split_ifs with hc
    · exact inspects_pure fun _ => ⟨n, Nat.lt_succ_self n, hc⟩
    · refine (ih (by omega)).mono fun r hr h => ?_
      obtain ⟨i, hi, hz⟩ := hr h
      exact ⟨i, Nat.lt_succ_of_lt hi, hz⟩

theorem checkHwid_inspects {maxlen : Option UInt32} (hhead : 128 ≤ bound) (hsize : le32 m 20 ≠ 0)
    (h : areaEnd m 16 ≤ bound) :
    (checkHwid maxlen).Inspects bound m fun _ => ∃ i < (le32 m 20).toNat, m ((le32 m 16).toNat + i) = 0 := by
  refine inspects_readAt_bind (by omega) ?_
  rw [if_pos hsize]
  refine inspects_readAt_bind (by omega) ?_
  have hcount : (if le32 m 20 - 1 < 0x80000000 then (le32 m 20 - 1).toNat + 1 else 0) ≤ (le32 m 20).toNat := by
    have hone : (1 : UInt32).toNat = 1 := rfl
    have hpos : (le32 m 20).toNat ≠ 0 := fun h0 => hsize (UInt32.toNat_inj.mp h0)
    rw [UInt32.toNat_sub]
    split_ifs <;> omega
  refine (nullScan_inspects (le_trans (Nat.add_le_add_left hcount _) h)).bind fun r hr => ?_
  refine inspects_refuse.mono fun _ hn => ?_
  obtain ⟨i, hi, hz⟩ := hr (Bool.eq_true_of_not_eq_false hn)
  exact ⟨i, hi.trans_le hcount, hz⟩

theorem checkArea_inspects {len : UInt32} {maxlen : Option UInt32} {area : Nat} (hhead : 128 ≤ bound)
    (harea : area + 8 ≤ 128) (h : areaEnd m area < 2 ^ 32) :
    (checkArea len maxlen area).Inspects bound m fun _ => areaEnd m area ≤ len.toNat := by
  refine inspects_readAt_bind (by omega) (inspects_refuse_bind fun _ => inspects_readAt_bind (by omega) ?_)
  refine inspects_refuse.mono fun _ hle => ?_
  rw [areaEnd] at h ⊢
  rwa [gt_iff_lt, UInt32.not_lt, UInt32.le_iff_toNat_le, UInt32.toNat_add, Nat.mod_eq_of_lt h] at hle

/-- What an accepted header should promise. -/
structure GbbContained (m : Mem) (len : UInt32) (accesses : List Access) : Prop where
  areas : ∀ area ∈ gbbAreas, areaEnd m area ≤ len.toNat
  terminated : ∃ i < (le32 m 20).toNat, m ((le32 m 16).toNat + i) = 0
  reads : ∀ a ∈ accesses, a.Below len.toNat

theorem futilValidGbbHeader_inspects {len : UInt32} (maxlenPtr : Bool)
    (hexact : ∀ area ∈ gbbAreas, areaEnd m area < 2 ^ 32) (hsize : le32 m 20 ≠ 0) :
    (futilValidGbbHeader len maxlenPtr).Inspects len.toNat m fun _ =>
      (∀ area ∈ gbbAreas, areaEnd m area ≤ len.toNat) ∧
        ∃ i < (le32 m 20).toNat, m ((le32 m 16).toNat + i) = 0 := by
  simp only [gbbAreas, List.forall_mem_cons] at hexact ⊢
  obtain ⟨h1, h2, h3, h4, -⟩ := hexact
  refine inspects_refuse_bind fun hlen => ?_
  have hhead : 128 ≤ len.toNat := Nat.le_of_not_lt fun h => hlen (UInt32.lt_iff_toNat_lt.mpr h)
  refine inspects_readAt_bind (by omega) (inspects_refuse_bind fun _ => inspects_readAt_bind (by omega)
    (inspects_refuse_bind fun _ => inspects_readAt_bind (by omega) ?_))
  have hmaxlen : (readMaxlen maxlenPtr).Inspects len.toNat m fun _ => True := by
    cases maxlenPtr with
    | true => exact inspects_readAt_bind (by omega) (inspects_pure trivial)
    | false => exact inspects_pure trivial
  refine hmaxlen.bind fun maxlen _ => ?_
  refine inspects_refuse_bind fun _ => ?_
  refine (checkArea_inspects hhead (by omega) h1).bind fun _ e1 => ?_
  refine (checkHwid_inspects hhead hsize e1).bind fun _ hz => ?_
  refine (checkArea_inspects hhead (by omega) h2).bind fun _ e2 => ?_
  refine (checkArea_inspects hhead (by omega) h3).bind fun _ e3 => ?_
  refine (checkArea_inspects hhead (by omega) h4).bind fun _ e4 => ?_
  exact inspects_pure ⟨⟨e1, e2, e3, e4, by simp⟩, hz⟩

end

/-- The promise is kept by exactly those accepted headers whose sums do not wrap and which have a HWID. -/
theorem futilValidGbbHeader_contained_iff (m : Mem) (len : UInt32) (maxlenPtr : Bool) {maxlen : Option UInt32}
    (h : (futilValidGbbHeader len maxlenPtr ⟨m, []⟩).1 = .ok maxlen) :
    GbbContained m len (futilValidGbbHeader len maxlenPtr ⟨m, []⟩).2.accesses ↔
      (∀ area ∈ gbbAreas, areaEnd m area < 2 ^ 32) ∧ le32 m 20 ≠ 0 := by
  constructor
  · rintro ⟨hareas, ⟨i, hi, -⟩, -⟩
    refine ⟨fun area ha => (hareas area ha).trans_lt len.toNat_lt, fun h0 => ?_⟩
    rw [h0] at hi
    exact absurd hi (Nat.not_lt_zero i)
  · rintro ⟨hexact, hsize⟩
    obtain ⟨hreads, hq⟩ := futilValidGbbHeader_inspects maxlenPtr hexact hsize ⟨m, []⟩ rfl
    obtain ⟨as, has, hbelow⟩ := hreads.accesses
    obtain ⟨hareas, hz⟩ := hq maxlen h
    rw [has]
    exact ⟨hareas, hz, fun a ha => (hbelow a ha).2⟩

def sampleGbb (hwidOffset hwidSize : UInt32) : Mem :=
  Mem.ofList (gbbSignature ++ [1, 0, 2, 0] ++ [128, 0, hwidOffset, hwidSize, 128, 0, 128, 0, 128, 0].flatMap leBytes32)

theorem futilValidGbbHeader_sample :
    GbbContained (sampleGbb 128 1) 129 (futilValidGbbHeader 129 true ⟨sampleGbb 128 1, []⟩).2.accesses :=
  (futilValidGbbHeader_contained_iff (sampleGbb 128 1) 129 true rfl).mpr (by decide +kernel)

/-- The end of the HWID wraps around to 128, and its last byte is looked up behind 2^32. -/
theorem futilValidGbbHeader_wraps :
    let r := futilValidGbbHeader 128 false ⟨sampleGbb 0xffffff80 256, []⟩
    r.1 = .ok none ∧ areaEnd (sampleGbb 0xffffff80 256) 16 > 128 ∧
      ⟨false, 0x10000007f, 1⟩ ∈ r.2.accesses := by
  decide +kernel

end Vboot.Host
