import Vboot.Gpt.Kernels

/-! The order in which kernel partitions are tried: each call of GptNextKernelEntry goes down in
priority or, for one priority, up in the table, whatever updates are made in between. -/
namespace Vboot.Gpt
open Vboot.Lib

/-- Goes down with each partition that is returned. -/
def remaining (gpt : GptData) : Nat :=
  gpt.currentPriority * 2 ^ 32 + (gpt.currentKernel.elim 0 fun k => 2 ^ 32 - 1 - k)

section
variable (override : Ptr → UInt8) {gpt : GptData}

theorem sameKernelPriority_some {k i : Nat} (h : sameKernelPriority override gpt k = some i) :
    k < i ∧ i < (fields gpt.primaryHeader).numberOfEntries.toNat ∧
      isCandidate (entryAt gpt.primaryEntries i) = true := by
  unfold sameKernelPriority at h
  have hm := List.mem_of_find?_eq_some h
  have hp := List.find?_some h
  rw [Bool.and_eq_true] at hp
  obtain ⟨j, hj, hji⟩ := List.mem_iff_getElem.mp hm
  simp only [List.length_drop, List.length_range] at hj
  simp only [List.getElem_drop, List.getElem_range] at hji
  exact ⟨by omega, by omega, hp.1⟩

theorem foldl_scanPriority (entries : Mem) (limit : Nat) (is : List Nat) (best : Option Nat × Nat) :
    is.foldl (scanPriority override entries limit) best = best ∨
    ∃ i ∈ is, is.foldl (scanPriority override entries limit) best =
        (some i, getEntryPriority override (entryAt entries i)) ∧
      isCandidate (entryAt entries i) = true ∧
      getEntryPriority override (entryAt entries i) < limit := by
  induction is generalizing best with
  | nil => exact .inl rfl
  | cons i is ih =>
    rw [List.foldl_cons]
    rcases ih (scanPriority override entries limit best i) with h | ⟨j, hj, h⟩
    · rw [h, scanPriority]
      split_ifs with hc
      · exact .inr ⟨i, List.mem_cons_self, rfl, hc.1, hc.2.1⟩
      · exact .inl rfl
    · exact .inr ⟨j, List.mem_cons_of_mem i hj, h⟩

theorem nextKernelPriority_some {i : Nat} (h : (nextKernelPriority override gpt).1 = some i) :
    i < (fields gpt.primaryHeader).numberOfEntries.toNat ∧
      isCandidate (entryAt gpt.primaryEntries i) = true ∧
      (nextKernelPriority override gpt).2 < gpt.currentPriority := by
  unfold nextKernelPriority at h ⊢
  rcases foldl_scanPriority override gpt.primaryEntries gpt.currentPriority
    (List.range (fields gpt.primaryHeader).numberOfEntries.toNat) (none, 0) with he | ⟨j, hj, he, hc, hp⟩
  · rw [he] at h
    cases h
  · rw [he] at h ⊢
    cases h
    exact ⟨List.mem_range.mp hj, hc, hp⟩

/-- What a call that returns a partition does. -/
structure Chosen (gpt gpt' : GptData) (part : UInt64 × UInt64) (i : Nat) : Prop where
  table : gpt' = { gpt with currentKernel := some i, currentPriority := gpt'.currentPriority }
  part : part = partitionOf gpt i
  inside : i < (fields gpt.primaryHeader).numberOfEntries.toNat
  candidate : isCandidate (entryAt gpt.primaryEntries i) = true
  lower : remaining gpt' < remaining gpt

theorem gptNextKernelEntry_some {gpt' : GptData} {part : UInt64 × UInt64}
    (h : gptNextKernelEntry override gpt = (some part, gpt')) : ∃ i, Chosen gpt gpt' part i := by
  have hn : (fields gpt.primaryHeader).numberOfEntries.toNat < 2 ^ 32 := UInt32.toNat_lt _
  unfold gptNextKernelEntry at h
  cases hs : gpt.currentKernel.bind (sameKernelPriority override gpt) with
  | some i =>
    rw [hs] at h
    cases h
    obtain ⟨k, hk, hi⟩ := Option.bind_eq_some_iff.mp hs
    obtain ⟨hlt, hin, hc⟩ := sameKernelPriority_some override hi
    refine ⟨i, rfl, rfl, hin, hc, ?_⟩
    simp only [remaining, hk, Option.elim_some]
    omega
  | none =>
    rw [hs] at h
    cases hi : (nextKernelPriority override gpt).1 with
    | none =>
      simp only [hi, Option.map_none] at h
      cases h
    | some i =>
      obtain ⟨hin, hc, hlt⟩ := nextKernelPriority_some override hi
      simp only [hi, Option.map_some] at h
      cases h
      refine ⟨i, rfl, rfl, hin, hc, ?_⟩
      have hle : (nextKernelPriority override gpt).2 * 2 ^ 32 + 2 ^ 32 ≤
          gpt.currentPriority * 2 ^ 32 := by omega
      simp only [remaining, Option.elim_some]
      omega

end

/-- The partitions of two tables are the same. -/
structure SameParts (gpt gpt' : GptData) : Prop where
  part : ∀ i, partitionOf gpt' i = partitionOf gpt i
  kernel : ∀ i, isKernelEntry (entryAt gpt'.primaryEntries i) =
    isKernelEntry (entryAt gpt.primaryEntries i)
  unique : ∀ i, entryUnique (entryAt gpt'.primaryEntries i) =
    entryUnique (entryAt gpt.primaryEntries i)
  count : (fields gpt'.primaryHeader).numberOfEntries = (fields gpt.primaryHeader).numberOfEntries

theorem SameParts.trans {a b c : GptData} (h : SameParts a b) (h' : SameParts b c) :
    SameParts a c :=
  ⟨fun i => (h'.part i).trans (h.part i), fun i => (h'.kernel i).trans (h.kernel i),
    fun i => (h'.unique i).trans (h.unique i), h'.count.trans h.count⟩

theorem SameParts.of_eq {gpt gpt' : GptData} (he : gpt'.primaryEntries = gpt.primaryEntries)
    (hh : (fields gpt'.primaryHeader).numberOfEntries = (fields gpt.primaryHeader).numberOfEntries) :
    SameParts gpt gpt' :=
  ⟨fun i => by rw [partitionOf, he]; rfl, fun i => by rw [he], fun i => by rw [he], hh⟩

theorem SameParts.gptNextKernelEntry (override : Ptr → UInt8) (gpt : GptData) :
    SameParts gpt (Gpt.gptNextKernelEntry override gpt).2 := by
  unfold Gpt.gptNextKernelEntry
  cases gpt.currentKernel.bind (sameKernelPriority override gpt) with
  | some i => exact .of_eq rfl rfl
  | none => exact .of_eq rfl rfl

theorem setGptAtt_frame (entries : Mem) (i j a : Nat) (att : UInt16) (ha : a < 48) :
    setGptAtt entries i att (128 * j + a) = entries (128 * j + a) := by
  apply Mem.store_outside
  have hlen : [att.toUInt8, (att >>> 8).toUInt8].length = 2 := rfl
  rw [hlen, gptAttOffset]
  omega

theorem SameParts.setGptAtt (gpt : GptData) (i : Nat) (att : UInt16) :
    SameParts gpt { gpt with primaryEntries := Gpt.setGptAtt gpt.primaryEntries i att } := by
  have hload (j a n : Nat) (ha : a + n ≤ 48) :
      (Gpt.setGptAtt gpt.primaryEntries i att).load (128 * j + a) n =
        gpt.primaryEntries.load (128 * j + a) n :=
    Mem.load_congr fun x hx => by
      rw [Nat.add_assoc]
      exact setGptAtt_frame gpt.primaryEntries i j (a + x) att (by omega)
  have h64 (j a : Nat) (ha : a + 8 ≤ 48) :
      le64 (Gpt.setGptAtt gpt.primaryEntries i att) (128 * j + a) =
        le64 gpt.primaryEntries (128 * j + a) :=
    le64_congr fun x hx => by
      rw [Nat.add_assoc]
      exact setGptAtt_frame gpt.primaryEntries i j (a + x) att (by omega)
  refine ⟨fun j => ?_, fun j => ?_, fun j => hload j 16 16 (by omega), rfl⟩
  · have hs : startingLba (entryAt (Gpt.setGptAtt gpt.primaryEntries i att) j) =
        startingLba (entryAt gpt.primaryEntries j) := h64 j 32 (by omega)
    have he : endingLba (entryAt (Gpt.setGptAtt gpt.primaryEntries i att) j) =
        endingLba (entryAt gpt.primaryEntries j) := h64 j 40 (by omega)
    rw [partitionOf, partitionOf, hs, he]
  · exact congrArg (· == chromeosKernelGuid) (hload j 0 16 (by omega))

theorem gptRepair_primary {gpt : GptData} (hh : gpt.validHeaders = maskPrimary)
    (he : gpt.validEntries = maskPrimary) :
    gptRepair gpt =
      let my := gpt.gptDriveSectors - gptHeaderSectors
      { gpt with
        secondaryHeader := copyHeader gpt.secondaryHeader gpt.primaryHeader my gptPmbrSectors
          (my - calculateEntriesSectors (fields gpt.primaryHeader))
        secondaryEntries := gpt.secondaryEntries.store 0
          (gpt.primaryEntries.load 0 (entriesSize (fields gpt.primaryHeader)).toNat)
        modified := { gpt.modified with header2 := true, entries2 := true }
        validHeaders := maskBoth
        validEntries := maskBoth } := by
  have hne : ¬ (maskPrimary = maskNone ∨ maskPrimary = maskNone) := by decide
  have hr : gptRepair gpt = (repairEntries (repairHeaders gpt)).mark maskBoth maskBoth := by
    rw [gptRepair, hh, he, if_neg hne]
  have h1 : repairHeaders gpt = _ := if_pos hh
  have h2 : repairEntries (repairHeaders gpt) = _ := if_pos (by rw [h1]; exact he)
  rw [hr, h2, h1]
  rfl

def updatedHeader (header entries : Mem) : Mem :=
  sealHeader (header.store 88 (leBytes32 (crc32 (entries.load 0 (entriesSize (fields header)).toNat))))

section
variable (gpt : GptData)
include gpt

theorem gptModified_eq :
    gptModified gpt =
      let header := updatedHeader gpt.primaryHeader gpt.primaryEntries
      let my := gpt.gptDriveSectors - gptHeaderSectors
      { gpt with
        primaryHeader := header
        secondaryHeader := copyHeader gpt.secondaryHeader header my gptPmbrSectors
          (my - calculateEntriesSectors (fields header))
        secondaryEntries := gpt.secondaryEntries.store 0
          (gpt.primaryEntries.load 0 (entriesSize (fields header)).toNat)
        modified := ⟨true, true, true, true⟩
        validHeaders := maskBoth
        validEntries := maskBoth } := by
  rw [gptModified, gptRepair_primary rfl rfl]
  rfl

theorem gptModified_frame :
    SameParts gpt (gptModified gpt) ∧ (gptModified gpt).currentKernel = gpt.currentKernel ∧
      (gptModified gpt).currentPriority = gpt.currentPriority := by
  rw [gptModified_eq]
  refine ⟨.of_eq rfl ?_, rfl, rfl⟩
  have hcount (h : Mem) (a : Nat) (v : UInt32) (ha : a + 4 ≤ 80 ∨ 84 ≤ a) :
      (fields (h.store a (leBytes32 v))).numberOfEntries = (fields h).numberOfEntries :=
    le32_store_disjoint h 80 a _ (by rw [length_leBytes32]; omega)
  dsimp only
  rw [updatedHeader, sealHeader, hcount _ 16 _ (by omega), hcount _ 88 _ (by omega)]

/-- The table after new attributes of entry i. -/
def GptData.withAtt (i : Nat) (att : UInt16) : GptData :=
  gptModified { gpt with primaryEntries := setGptAtt gpt.primaryEntries i att }

theorem gptUpdateKernelWithEntry_cases (i : Nat) (u : UpdateType) :
    (gptUpdateKernelWithEntry gpt i u).2 = gpt ∨
    ∃ att, isKernelEntry (entryAt gpt.primaryEntries i) = true ∧
      updatedAtt (entryAt gpt.primaryEntries i) u = some att ∧
      (gptUpdateKernelWithEntry gpt i u).2 = gpt.withAtt i att := by
  rw [gptUpdateKernelWithEntry]
  split_ifs with hk
  · exact .inl rfl
  · cases hu : updatedAtt (entryAt gpt.primaryEntries i) u with
    | none => exact .inl rfl
    | some att => exact .inr ⟨att, Bool.not_eq_false _ ▸ hk, rfl, rfl⟩

theorem gptUpdateKernelEntry_cases (u : UpdateType) :
    (gptUpdateKernelEntry gpt u).2 = gpt ∨
    ∃ i att, gpt.currentKernel = some i ∧ isKernelEntry (entryAt gpt.primaryEntries i) = true ∧
      updatedAtt (entryAt gpt.primaryEntries i) u = some att ∧
      (gptUpdateKernelEntry gpt u).2 = gpt.withAtt i att := by
  rw [gptUpdateKernelEntry]
  cases gpt.currentKernel with
  | none => exact .inl rfl
  | some i => exact (gptUpdateKernelWithEntry_cases gpt i u).imp id fun ⟨att, h⟩ => ⟨i, att, rfl, h⟩

theorem gptUpdateKernelEntry_frame (u : UpdateType) :
    SameParts gpt (gptUpdateKernelEntry gpt u).2 ∧
    (gptUpdateKernelEntry gpt u).2.currentKernel = gpt.currentKernel ∧
    (gptUpdateKernelEntry gpt u).2.currentPriority = gpt.currentPriority := by
  rcases gptUpdateKernelEntry_cases gpt u with h | ⟨i, att, -, -, -, h⟩
  · rw [h]
    exact ⟨.of_eq rfl rfl, rfl, rfl⟩
  · rw [h]
    obtain ⟨hs, hk, hp⟩ := gptModified_frame
      { gpt with primaryEntries := setGptAtt gpt.primaryEntries i att }
    exact ⟨(SameParts.setGptAtt gpt i att).trans hs, hk, hp⟩

end

theorem remaining_congr {gpt gpt' : GptData} (hk : gpt'.currentKernel = gpt.currentKernel)
    (hp : gpt'.currentPriority = gpt.currentPriority) : remaining gpt' = remaining gpt := by
  rw [remaining, remaining, hk, hp]

end Vboot.Gpt
