import Mathlib.Order.CompletePartialOrder
import Vboot.Gpt.Repair

/-! What the checks of the partition table say about the layout of the drive: CheckEntries
accepts exactly the partitions that are apart, and CheckHeader keeps the usable sectors away from
the table unless the drive is small or the primary entries lie among them. -/
namespace Vboot.Gpt
open Vboot.Lib

def EntryFields.sectors (e : EntryFields) : Set Nat :=
  Set.Icc e.startingLba.toNat e.endingLba.toNat

def usableSectors (f : HeaderFields) : Set Nat :=
  Set.Icc f.firstUsableLba.toNat f.lastUsableLba.toNat

def usedEntries (entry : Nat → EntryFields) (f : HeaderFields) : Set Nat :=
  {i | i < f.numberOfEntries.toNat ∧ (entry i).unused = false}

/-- The entries in use are partitions of the usable sectors, apart from each other and with
different names. -/
structure Partitioned (entry : Nat → EntryFields) (f : HeaderFields) : Prop where
  nonempty : ∀ i ∈ usedEntries entry f, (entry i).sectors.Nonempty
  usable : ∀ i ∈ usedEntries entry f, (entry i).sectors ⊆ usableSectors f
  disjoint : (usedEntries entry f).PairwiseDisjoint fun i => (entry i).sectors
  unique : (usedEntries entry f).InjOn fun i => (entry i).unique

section
variable {entry : Nat → EntryFields} {f : HeaderFields} {e e2 : EntryFields} {i i2 : Nat}

theorem mem_sectors {lba : UInt64} :
    lba.toNat ∈ e.sectors ↔ e.startingLba ≤ lba ∧ lba ≤ e.endingLba := by
  simp [EntryFields.sectors, UInt64.le_iff_toNat_le]

theorem sectors_nonempty : e.sectors.Nonempty ↔ e.startingLba ≤ e.endingLba := by
  simp [EntryFields.sectors, UInt64.le_iff_toNat_le]

theorem start_mem (h : e.sectors.Nonempty) : e.startingLba.toNat ∈ e.sectors :=
  mem_sectors.mpr ⟨UInt64.le_refl _, sectors_nonempty.mp h⟩

theorem end_mem (h : e.sectors.Nonempty) : e.endingLba.toNat ∈ e.sectors :=
  mem_sectors.mpr ⟨sectors_nonempty.mp h, UInt64.le_refl _⟩

theorem disjoint_of_start (h : e.startingLba.toNat ∉ e2.sectors)
    (h2 : e2.startingLba.toNat ∉ e.sectors) : Disjoint e.sectors e2.sectors := by
  rw [Set.disjoint_left]
  intro x hx hx2
  simp only [EntryFields.sectors, Set.mem_Icc] at h h2 hx hx2
  omega

theorem pairError_none : pairError i i2 e e2 = none ↔ i2 = i ∨ e2.unused = true ∨
    (e.startingLba.toNat ∉ e2.sectors ∧ e.endingLba.toNat ∉ e2.sectors ∧ e.unique ≠ e2.unique) := by
  rw [mem_sectors, mem_sectors, pairError]
  split_ifs <;> simp only [true_iff, false_iff] <;> tauto

theorem entryError_none : entryError entry f i = none ↔ (entry i).unused = true ∨
    ((entry i).sectors.Nonempty ∧ (entry i).sectors ⊆ usableSectors f ∧
      ∀ i2 < f.numberOfEntries.toNat, pairError i i2 (entry i) (entry i2) = none) := by
  have hregion : ((entry i).startingLba < f.firstUsableLba ∨ (entry i).endingLba > f.lastUsableLba ∨
      (entry i).endingLba < (entry i).startingLba) ↔
      ¬ ((entry i).sectors.Nonempty ∧ (entry i).sectors ⊆ usableSectors f) := by
    rw [EntryFields.sectors, usableSectors, Set.nonempty_Icc, UInt64.lt_iff_toNat_lt, gt_iff_lt,
      UInt64.lt_iff_toNat_lt, UInt64.lt_iff_toNat_lt]
    by_cases h : (entry i).startingLba.toNat ≤ (entry i).endingLba.toNat
    · rw [Set.Icc_subset_Icc_iff h]
      omega
    · exact iff_of_true (by omega) (fun hc => h hc.1)
  rw [entryError]
  split_ifs with h1 h2
  · simp [h1]
  · rw [hregion] at h2
    simp only [false_iff]
    tauto
  · rw [hregion, not_not] at h2
    simp [h1, h2, List.findSome?_eq_none_iff]

theorem apart_of_errors (h : ∀ i < f.numberOfEntries.toNat, entryError entry f i = none) :
    Partitioned entry f := by
  have hspec (i : Nat) (hi : i ∈ usedEntries entry f) :=
    (entryError_none.mp (h i hi.1)).resolve_left (by simp [hi.2])
  have hpair (i i2 : Nat) (hi : i ∈ usedEntries entry f) (hi2 : i2 ∈ usedEntries entry f)
      (hne : i ≠ i2) := ((pairError_none.mp ((hspec i hi).2.2 i2 hi2.1)).resolve_left
    hne.symm).resolve_left (by simp [hi2.2])
  refine ⟨fun i hi => (hspec i hi).1, fun i hi => (hspec i hi).2.1, ?_, ?_⟩
  · -- the start of neither range lies in the other, since every pair is looked at twice
    intro i hi i2 hi2 hne
    exact disjoint_of_start (hpair i i2 hi hi2 hne).1 (hpair i2 i hi2 hi hne.symm).1
  · intro i hi i2 hi2 heq
    by_contra hne
    exact (hpair i i2 hi hi2 hne).2.2 heq

theorem Partitioned.entryError_none (h : Partitioned entry f) (hi : i < f.numberOfEntries.toNat) :
    entryError entry f i = none := by
  rw [Gpt.entryError_none]
  cases hu : (entry i).unused with
  | true => exact .inl rfl
  | false =>
    have hused : i ∈ usedEntries entry f := ⟨hi, hu⟩
    refine .inr ⟨h.nonempty i hused, h.usable i hused, fun i2 hi2 => ?_⟩
    rw [pairError_none]
    by_cases hne : i2 = i
    · exact .inl hne
    cases hu2 : (entry i2).unused with
    | true => exact .inr (.inl rfl)
    | false =>
      have hused2 : i2 ∈ usedEntries entry f := ⟨hi2, hu2⟩
      have hdisjoint := Set.disjoint_left.mp (h.disjoint hused hused2 (Ne.symm hne))
      exact .inr (.inr ⟨hdisjoint (start_mem (h.nonempty i hused)),
        hdisjoint (end_mem (h.nonempty i hused)), fun heq => hne (h.unique hused2 hused heq.symm)⟩)

end

/-- CheckEntries accepts exactly the arrays with the right checksum whose entries are
partitions. -/
theorem checkEntries_iff (entries : Mem) (f : HeaderFields) : checkEntries entries f = none ↔
    crc32 (entries.load 0 (entriesSize f).toNat) = f.entriesCrc32 ∧
      Partitioned (fun i => entryFields (entryAt entries i)) f := by
  rw [checkEntries]
  split_ifs with hcrc
  · simp [hcrc]
  · rw [not_not] at hcrc
    rw [List.findSome?_eq_none_iff]
    constructor
    · intro h
      exact ⟨hcrc, apart_of_errors fun i hi => h i (List.mem_range.mpr hi)⟩
    · rintro ⟨-, h⟩ i hi
      exact h.entryError_none (List.mem_range.mp hi)

def arraySectors (lba : Nat) (f : HeaderFields) : Set Nat :=
  Set.Ico lba (lba + (calculateEntriesSectors f).toNat)

/-- The usable sectors lie on the drive and contain nothing of the table. -/
structure KeepsTable (h : Mem) (drive : Nat) : Prop where
  inside : usableSectors (fields h) ⊆ Set.Iio drive
  primaryHeader : gptPmbrSectors.toNat ∉ usableSectors (fields h)
  secondaryHeader : drive - gptHeaderSectors.toNat ∉ usableSectors (fields h)
  entries : Disjoint (usableSectors (fields h)) (arraySectors (entriesLba h).toNat (fields h))
  secondaryEntries : Disjoint (usableSectors (fields h)) (arraySectors
    (drive - gptHeaderSectors.toNat - (calculateEntriesSectors (fields h)).toNat) (fields h))

section
variable {f : HeaderFields} {drive : UInt64} {flags : UInt32}

/-- The array of an internal table has 32 sectors, and the usable range is compared with both
ends of the drive in 64-bit arithmetic. -/
theorem checkFields_internal (hx : isExternal flags = false) (hf : checkFields f drive flags = true) :
    calculateEntriesSectors f = 32 ∧ f.firstUsableLba.toNat ≤ f.lastUsableLba.toNat ∧
      34 ≤ f.firstUsableLba.toNat ∧ f.lastUsableLba.toNat < (drive - 1 - 32).toNat := by
  simp only [checkFields, hx, Bool.decide_and, Bool.and_eq_true, decide_eq_true_eq,
    Bool.false_eq_true, if_false, forall_const] at hf
  obtain ⟨-, -, -, -, -, hs, -, -, hn, hle, hfirst, hlast⟩ := hf
  have hc : calculateEntriesSectors f = 32 := by
    rw [calculateEntriesSectors, hs, hn]
    rfl
  rw [hc] at hfirst hlast
  exact ⟨hc, UInt64.le_iff_toNat_le.mp hle, UInt64.le_iff_toNat_le.mp hfirst,
    UInt64.lt_iff_toNat_lt.mp hlast⟩

theorem toNat_lastBound (h : 33 ≤ drive.toNat) : (drive - 1 - 32).toNat = drive.toNat - 33 := by
  have hlt := drive.toNat_lt
  have h1 : (1 : UInt64).toNat = 1 := rfl
  have h32 : (32 : UInt64).toNat = 32 := rfl
  rw [UInt64.toNat_sub, UInt64.toNat_sub, h1, h32]
  omega

end

/-- The usable sectors of a header that CheckHeader accepts are apart from the table exactly if
the drive has room for a header and its entries and a primary header keeps its own entries out of
them. -/
theorem keepsTable_iff {h : Mem} {isSecondary : Bool} {drive : UInt64} {flags : UInt32}
    (hx : isExternal flags = false) (hc : checkHeader h isSecondary drive drive flags = true) :
    KeepsTable h drive.toNat ↔ 33 ≤ drive.toNat ∧ (isSecondary = true ∨
      (entriesLba h).toNat + 32 ≤ (fields h).firstUsableLba.toNat ∨
      (fields h).lastUsableLba.toNat < (entriesLba h).toNat) := by
  obtain ⟨hsectors, hle, hfirst, hlast⟩ := checkFields_internal hx (checkHeader_fields hc)
  have h32 : (32 : UInt64).toNat = 32 := rfl
  have h1 : gptHeaderSectors.toNat = 1 := rfl
  have hp : gptPmbrSectors.toNat = 1 := rfl
  constructor
  · rintro ⟨hinside, -, -, hentries, -⟩
    have hend : (fields h).lastUsableLba.toNat < drive.toNat := hinside (Set.right_mem_Icc.mpr hle)
    refine ⟨by omega, ?_⟩
    cases isSecondary with
    | true => exact .inl rfl
    | false =>
      rw [arraySectors, hsectors, h32, Set.disjoint_left] at hentries
      by_contra hc
      -- the larger of the two starts lies in both ranges
      have hmem := @hentries (max (fields h).firstUsableLba.toNat (entriesLba h).toNat)
      simp only [usableSectors, Set.mem_Icc, Set.mem_Ico] at hmem
      omega
  · rintro ⟨hdrive, happart⟩
    rw [toNat_lastBound hdrive] at hlast
    have hentries : (entriesLba h).toNat + 32 ≤ (fields h).firstUsableLba.toNat ∨
        (fields h).lastUsableLba.toNat < (entriesLba h).toNat := by
      rcases happart with rfl | happart
      · have hplace := checkHeader_place hc
        rw [checkPlace, if_pos rfl, decide_eq_true_eq, hsectors] at hplace
        have hlba : entriesLba h = drive - 1 - 32 := hplace.1 ▸ hplace.2
        rw [hlba, toNat_lastBound hdrive]
        exact .inr hlast
      · exact happart
    refine ⟨fun x hx => ?_, ?_, ?_, ?_, ?_⟩
    · simp only [usableSectors, Set.mem_Icc, Set.mem_Iio] at hx ⊢
      omega
    · simp only [usableSectors, Set.mem_Icc, hp]
      omega
    · simp only [usableSectors, Set.mem_Icc, h1]
      omega
    · rw [Set.disjoint_left]
      intro x hx
      simp only [usableSectors, arraySectors, hsectors, h32, Set.mem_Icc, Set.mem_Ico] at hx ⊢
      omega
    · rw [Set.disjoint_left]
      intro x hx
      simp only [usableSectors, arraySectors, hsectors, h32, h1, Set.mem_Icc, Set.mem_Ico] at hx ⊢
      omega

/-- A primary header of 128 entries. -/
def primaryHeaderFor (first last entries : UInt64) : Mem :=
  sealHeader (Mem.ofList (gptHeaderSignature ++ leBytes32 gptHeaderRevision ++ leBytes32 92 ++
    leBytes32 0 ++ leBytes32 0 ++ leBytes64 1 ++ leBytes64 0 ++ leBytes64 first ++ leBytes64 last ++
    List.replicate 16 0 ++ leBytes64 entries ++ leBytes32 128 ++ leBytes32 128 ++ leBytes32 0))

theorem keepsTable_hundred : KeepsTable (primaryHeaderFor 34 66 2) 100 :=
  (@keepsTable_iff (primaryHeaderFor 34 66 2) false 100 0 rfl (by decide +kernel)).mpr
    ⟨by decide, .inr (.inl (by decide +kernel))⟩

/-- On a drive of 16 sectors the usable range may begin behind the drive, and on any drive the
primary entries may lie in it. -/
theorem usable_sectors_table :
    (checkHeader (primaryHeaderFor 34 100 2) false 16 16 0 = true ∧
      ¬ KeepsTable (primaryHeaderFor 34 100 2) 16) ∧
    (checkHeader (primaryHeaderFor 34 66 34) false 100 100 0 = true ∧
      ¬ KeepsTable (primaryHeaderFor 34 66 34) 100) := by
  refine ⟨⟨by decide +kernel, fun h => ?_⟩, by decide +kernel, fun h => ?_⟩
  · have hfirst : (fields (primaryHeaderFor 34 100 2)).firstUsableLba.toNat = 34 := by decide +kernel
    have hlast : (fields (primaryHeaderFor 34 100 2)).lastUsableLba.toNat = 100 := by decide +kernel
    have hin : 34 < 16 := h.inside ⟨hfirst.le, by omega⟩
    omega
  · have hfirst : (fields (primaryHeaderFor 34 66 34)).firstUsableLba.toNat = 34 := by decide +kernel
    have hlast : (fields (primaryHeaderFor 34 66 34)).lastUsableLba.toNat = 66 := by decide +kernel
    have hentries : (entriesLba (primaryHeaderFor 34 66 34)).toNat = 34 := by decide +kernel
    have hsectors : (calculateEntriesSectors (fields (primaryHeaderFor 34 66 34))).toNat = 32 := by
      decide +kernel
    have hapart := Set.disjoint_left.mp h.entries
    exact @hapart 34 ⟨hfirst.le, by omega⟩ ⟨hentries.le, by omega⟩

end Vboot.Gpt
