import Vboot.Gpt.Data

/-! A partition table that GptInit accepts is repaired completely: a second check finds nothing
wrong and a second repair has nothing to do. -/
namespace Vboot.Gpt
open Vboot.Lib

/-- The bytes of a header sector that hold the common fields. -/
def IsCommon (x : Nat) : Prop :=
  x < 16 ∨ (20 ≤ x ∧ x < 24) ∨ (40 ≤ x ∧ x < 72) ∨ (80 ≤ x ∧ x < 92)

variable {h : Mem} {isSecondary : Bool} {streaming drive : UInt64} {flags : UInt32} {f : HeaderFields}
  {gpt : GptData}

theorem fields_congr {h' : Mem} (he : ∀ x, IsCommon x → h x = h' x) : fields h = fields h' := by
  have h32 (a : Nat) (ha : ∀ i < 4, IsCommon (a + i)) : le32 h a = le32 h' a :=
    le32_congr fun i hi => he (a + i) (ha i hi)
  have h64 (a : Nat) (ha : ∀ i < 8, IsCommon (a + i)) : le64 h a = le64 h' a :=
    le64_congr fun i hi => he (a + i) (ha i hi)
  have hload (a n : Nat) (ha : ∀ i < n, IsCommon (a + i)) : h.load a n = h'.load a n :=
    Mem.load_congr fun i hi => he (a + i) (ha i hi)
  simp only [fields, HeaderFields.mk.injEq]
  refine ⟨hload 0 8 ?_, h32 8 ?_, h32 12 ?_, h32 20 ?_, h64 40 ?_, h64 48 ?_, hload 56 16 ?_,
    h32 80 ?_, h32 84 ?_, h32 88 ?_⟩
  all_goals
    intro i hi
    unfold IsCommon
    omega

theorem fields_store_crc (h : Mem) (bs : List UInt8) (hb : bs.length = 4) :
    fields (h.store 16 bs) = fields h := by
  apply fields_congr
  intro x hx
  unfold IsCommon at hx
  exact Mem.store_outside h 16 x bs (by omega)

theorem headerCrc_seal (h : Mem) : headerCrc (sealHeader h) = headerCrc32 (sealHeader h) := by
  have hcrc : headerCrc (sealHeader h) = headerCrc h := by
    unfold headerCrc sealHeader
    rw [fields_store_crc h _ (length_leBytes32 _), Mem.store_overwrite]
    rfl
  rw [hcrc, headerCrc32, sealHeader, le32_store]

theorem fields_sealHeader (h : Mem) : fields (sealHeader h) = fields h :=
  fields_store_crc h _ (length_leBytes32 _)

theorem le64_sealHeader (h : Mem) {a : Nat} (ha : 20 ≤ a) : le64 (sealHeader h) a = le64 h a :=
  le64_store_disjoint h a 16 _ (.inr ha)

theorem checkPlace_sealHeader (h : Mem) (isSecondary : Bool) (drive : UInt64) :
    checkPlace (sealHeader h) isSecondary drive = checkPlace h isSecondary drive := by
  have hmy : myLba (sealHeader h) = myLba h := le64_sealHeader h (by omega)
  have hentries : entriesLba (sealHeader h) = entriesLba h := le64_sealHeader h (by omega)
  rw [checkPlace, checkPlace, fields_sealHeader, hmy, hentries]

theorem checkHeader_sealHeader (hf : checkFields (fields h) streaming flags = true)
    (hp : checkPlace h isSecondary drive = true) :
    checkHeader (sealHeader h) isSecondary streaming drive flags = true := by
  rw [checkHeader, fields_sealHeader, checkPlace_sealHeader, hf, hp, headerCrc_seal, beq_self_eq_true]
  rfl

section
variable (dst src : Mem) (my alternate entries : UInt64)

theorem fields_copyHeader : fields (copyHeader dst src my alternate entries) = fields src := by
  unfold copyHeader sealHeader
  rw [fields_store_crc _ _ (length_leBytes32 _)]
  apply fields_congr
  intro x hx
  unfold IsCommon at hx
  have hlen : (src.load 0 92).length = 92 := Mem.length_load src 0 92
  rw [Mem.store_outside _ 72 x _ (by rw [length_leBytes64]; omega),
    Mem.store_outside _ 32 x _ (by rw [length_leBytes64]; omega),
    Mem.store_outside _ 24 x _ (by rw [length_leBytes64]; omega)]
  have hin := Mem.store_inside dst 0 x (src.load 0 92) 0 (by omega)
  rw [Nat.zero_add, Mem.getD_load src 0 92 x 0 (by omega), Nat.zero_add] at hin
  exact hin

theorem myLba_copyHeader : myLba (copyHeader dst src my alternate entries) = my := by
  unfold myLba copyHeader sealHeader
  rw [le64_store_disjoint _ 24 16 _ (by rw [length_leBytes32]; omega),
    le64_store_disjoint _ 24 72 _ (by omega), le64_store_disjoint _ 24 32 _ (by omega), le64_store]

theorem entriesLba_copyHeader : entriesLba (copyHeader dst src my alternate entries) = entries := by
  unfold entriesLba copyHeader sealHeader
  rw [le64_store_disjoint _ 72 16 _ (by rw [length_leBytes32]; omega), le64_store]

theorem checkPlace_copy1 (drive : UInt64) :
    checkPlace (copyHeader dst src gptPmbrSectors alternate (gptPmbrSectors + 1)) false drive = true := by
  rw [checkPlace, if_neg Bool.false_ne_true, myLba_copyHeader, entriesLba_copyHeader]
  decide

theorem checkPlace_copy2 (drive : UInt64) :
    checkPlace (copyHeader dst src (drive - gptHeaderSectors) alternate
      (drive - gptHeaderSectors - calculateEntriesSectors (fields src))) true drive = true := by
  rw [checkPlace, if_pos rfl, myLba_copyHeader, entriesLba_copyHeader, fields_copyHeader]
  exact decide_eq_true ⟨rfl, rfl⟩

end

theorem checkHeader_copy {dst src : Mem} {my alternate entries : UInt64}
    (hf : checkFields (fields src) streaming flags = true)
    (hp : checkPlace (copyHeader dst src my alternate entries) isSecondary drive = true) :
    checkHeader (copyHeader dst src my alternate entries) isSecondary streaming drive flags = true := by
  have hcrc : headerCrc (copyHeader dst src my alternate entries) =
      headerCrc32 (copyHeader dst src my alternate entries) := headerCrc_seal _
  rw [checkHeader, fields_copyHeader, hf, hp, hcrc, beq_self_eq_true]
  rfl

theorem checkHeader_fields (hc : checkHeader h isSecondary streaming drive flags = true) :
    checkFields (fields h) streaming flags = true := by
  unfold checkHeader at hc
  rw [Bool.and_eq_true, Bool.and_eq_true] at hc
  exact hc.1.1

theorem checkHeader_place (hc : checkHeader h isSecondary streaming drive flags = true) :
    checkPlace h isSecondary drive = true := by
  rw [checkHeader, Bool.and_eq_true] at hc
  exact hc.2

theorem toNat_entriesSize (hf : checkFields f streaming flags = true) :
    (entriesSize f).toNat = 128 * f.numberOfEntries.toNat := by
  simp only [checkFields, Bool.decide_and, Bool.and_eq_true, decide_eq_true_eq] at hf
  obtain ⟨-, -, -, -, -, hs, -, hn, -⟩ := hf
  have hle : f.numberOfEntries.toNat ≤ 128 := UInt32.le_iff_toNat_le.mp hn
  have h128 : sizeOfGptEntry.toNat = 128 := rfl
  rw [entriesSize, hs, UInt32.toNat_mul, h128]
  omega

section
variable {e e' : Mem} {f : HeaderFields}

theorem findSome_congr {n : Nat} {g g' : Nat → Option GptError} (h : ∀ i < n, g i = g' i) :
    (List.range n).findSome? g = (List.range n).findSome? g' := by
  induction n with
  | zero => rfl
  | succ n ih =>
    rw [List.range_succ, List.findSome?_append, List.findSome?_append,
      ih fun i hi => h i (by omega), List.findSome?_singleton, List.findSome?_singleton,
      h n (by omega)]

theorem entryFields_congr {i : Nat} (h : ∀ x < 48, e (128 * i + x) = e' (128 * i + x)) :
    entryFields (entryAt e i) = entryFields (entryAt e' i) := by
  have hbytes (a n : Nat) (ha : a + n ≤ 48) : e.load (128 * i + a) n = e'.load (128 * i + a) n :=
    Mem.load_congr fun j hj => by
      rw [Nat.add_assoc]
      exact h _ (by omega)
  have h64 (a : Nat) (ha : a + 8 ≤ 48) : le64 e (128 * i + a) = le64 e' (128 * i + a) :=
    le64_congr fun j hj => by
      rw [Nat.add_assoc]
      exact h _ (by omega)
  simp only [entryFields, EntryFields.mk.injEq]
  exact ⟨congrArg (· == List.replicate 16 0) (hbytes 0 16 (by omega)), hbytes 16 16 (by omega),
    h64 32 (by omega), h64 40 (by omega)⟩

theorem entryError_congr {v v' : Nat → EntryFields}
    (h : ∀ i < f.numberOfEntries.toNat, v i = v' i) {i : Nat} (hi : i < f.numberOfEntries.toNat) :
    entryError v f i = entryError v' f i := by
  have hpair (e : EntryFields) :
      ((List.range f.numberOfEntries.toNat).findSome? fun i2 => pairError i i2 e (v i2)) =
        (List.range f.numberOfEntries.toNat).findSome? fun i2 => pairError i i2 e (v' i2) :=
    findSome_congr fun i2 hi2 => by rw [h i2 hi2]
  rw [entryError, entryError, h i hi, hpair]

theorem checkEntries_congr (hsize : (entriesSize f).toNat = 128 * f.numberOfEntries.toNat)
    (he : ∀ x < (entriesSize f).toNat, e x = e' x) : checkEntries e f = checkEntries e' f := by
  have hview (i : Nat) (hi : i < f.numberOfEntries.toNat) :
      entryFields (entryAt e i) = entryFields (entryAt e' i) :=
    entryFields_congr fun x hx => he _ (by omega)
  have hload : e.load 0 (entriesSize f).toNat = e'.load 0 (entriesSize f).toNat :=
    Mem.load_congr fun j hj => by
      rw [Nat.zero_add]
      exact he j hj
  rw [checkEntries, checkEntries, hload, findSome_congr fun i hi => entryError_congr hview hi]

/-- Nothing is wrong with the entries but perhaps the checksum. -/
abbrev EntriesGood (e : Mem) (f : HeaderFields) : Prop :=
  (List.range f.numberOfEntries.toNat).findSome? (entryError (fun i => entryFields (entryAt e i)) f) = none

theorem checkEntries_good (hcrc : crc32 (e.load 0 (entriesSize f).toNat) = f.entriesCrc32)
    (h : EntriesGood e f) : checkEntries e f = none :=
  (if_neg (not_not.mpr hcrc)).trans h

theorem checkEntries_copy (dst : Mem)
    (hsize : (entriesSize f).toNat = 128 * f.numberOfEntries.toNat) (hc : checkEntries e f = none) :
    checkEntries (dst.store 0 (e.load 0 (entriesSize f).toNat)) f = none := by
  rw [← hc]
  apply checkEntries_congr hsize
  intro x hx
  have hin := Mem.store_inside dst 0 x (e.load 0 (entriesSize f).toNat) 0
    (by rw [Mem.length_load]; exact hx)
  rw [Nat.zero_add, Mem.getD_load _ _ _ _ _ hx, Nat.zero_add] at hin
  exact hin

end

/-- The header is good for the drive. -/
abbrev GptData.Accepts (gpt : GptData) (isSecondary : Bool) (h : Mem) : Prop :=
  checkHeader h isSecondary gpt.streamingDriveSectors gpt.gptDriveSectors gpt.flags = true

/-- Everything is valid and the copies agree. -/
structure Consistent (gpt : GptData) : Prop where
  parameters : checkParameters gpt = none
  header1 : checkHeader gpt.primaryHeader false gpt.streamingDriveSectors gpt.gptDriveSectors
    gpt.flags = true
  header2 : checkHeader gpt.secondaryHeader true gpt.streamingDriveSectors gpt.gptDriveSectors
    gpt.flags = true
  same : fields gpt.secondaryHeader = fields gpt.primaryHeader
  entries1 : checkEntries gpt.primaryEntries (fields gpt.primaryHeader) = none
  entries2 : checkEntries gpt.secondaryEntries (fields gpt.primaryHeader) = none

theorem gptSanityCheck_marks {headers entries : Mask} (hp : checkParameters gpt = none)
    (ha : gpt.headersAlone ≠ maskNone) (hf : gpt.fitting = (headers, entries)) (he : entries ≠ maskNone)
    (hs : headers = maskBoth → fields gpt.secondaryHeader = fields gpt.primaryHeader) :
    gptSanityCheck gpt = (none, gpt.mark headers entries) := by
  have hsame : ¬ (headers = maskBoth ∧
      headerFieldsSame gpt.primaryHeader gpt.secondaryHeader = false) := fun ⟨hh, hn⟩ => by
    rw [headerFieldsSame, hs hh, beq_self_eq_true] at hn
    cases hn
  rw [gptSanityCheck, hp, hf]
  dsimp only
  rw [if_neg ha, if_neg he, if_neg hsame]

theorem Consistent.sanityCheck (h : Consistent gpt) :
    gptSanityCheck gpt = (none, gpt.mark maskBoth maskBoth) := by
  have halone : gpt.headersAlone = maskBoth := by
    rw [GptData.headersAlone, h.header1, h.header2]
    rfl
  have hfor : gpt.entriesFor (fields gpt.primaryHeader) = maskBoth := by
    rw [GptData.entriesFor, h.entries1, h.entries2]
    rfl
  have hgood : gpt.goodhdr = gpt.primaryHeader := by
    rw [GptData.goodhdr, halone]
    rfl
  have hfit : gpt.fitting = (maskBoth, maskBoth) := by
    have hne : ¬ (maskBoth = maskBoth ∧ maskBoth = maskNone) := by decide
    rw [GptData.fitting, halone, hgood, hfor, if_neg hne]
  exact gptSanityCheck_marks h.parameters (by rw [halone]; decide) hfit (by decide) fun _ => h.same

/-- What a successful check says: some header with fields f is good, the headers that are
marked are good and have these fields, and the entries that are marked fit. -/
structure Sane (gpt : GptData) (f : HeaderFields) : Prop where
  parameters : checkParameters gpt = none
  header1 : gpt.validHeaders.primary = true →
    fields gpt.primaryHeader = f ∧ gpt.Accepts false gpt.primaryHeader
  header2 : gpt.validHeaders.secondary = true →
    fields gpt.secondaryHeader = f ∧ gpt.Accepts true gpt.secondaryHeader
  headers : gpt.validHeaders ≠ maskNone
  entries1 : gpt.validEntries.primary = true → checkEntries gpt.primaryEntries f = none
  entries2 : gpt.validEntries.secondary = true → checkEntries gpt.secondaryEntries f = none
  entries : gpt.validEntries ≠ maskNone

theorem entriesFor_primary (h : (gpt.entriesFor f).primary = true) :
    checkEntries gpt.primaryEntries f = none :=
  beq_iff_eq.mp h

theorem entriesFor_secondary (h : (gpt.entriesFor f).secondary = true) :
    checkEntries gpt.secondaryEntries f = none :=
  beq_iff_eq.mp h

/-- The masks before the headers are compared. If both headers are marked, the entries fit
the primary one. -/
theorem fitting_cases (he : gpt.fitting.2 ≠ maskNone) :
    (gpt.headersAlone = maskBoth ∧
      gpt.fitting = (maskSecondary, gpt.entriesFor (fields gpt.secondaryHeader))) ∨
    gpt.fitting = (gpt.headersAlone, gpt.entriesFor (fields gpt.goodhdr)) := by
  unfold GptData.fitting at he ⊢
  split_ifs at he ⊢ with hc hn
  · exact absurd hn he
  · exact .inl ⟨hc.1, rfl⟩
  · exact .inr rfl

theorem sane_secondary (hp : checkParameters gpt = none) (ha : gpt.headersAlone = maskBoth)
    (he : gpt.entriesFor (fields gpt.secondaryHeader) ≠ maskNone) :
    Sane (gpt.mark maskSecondary (gpt.entriesFor (fields gpt.secondaryHeader)))
      (fields gpt.secondaryHeader) where
  parameters := hp
  header1 h := by cases h
  header2 _ := ⟨rfl, congrArg Mask.secondary ha⟩
  headers h := by cases h
  entries1 := entriesFor_primary
  entries2 := entriesFor_secondary
  entries := he

theorem sane_goodhdr {headers : Mask} (hp : checkParameters gpt = none)
    (h1 : headers.primary = gpt.headersAlone.primary)
    (h2 : headers.secondary = true → gpt.headersAlone.secondary = true ∧
      (headers.primary = true → fields gpt.secondaryHeader = fields gpt.primaryHeader))
    (hn : headers ≠ maskNone) (he : gpt.entriesFor (fields gpt.goodhdr) ≠ maskNone) :
    Sane (gpt.mark headers (gpt.entriesFor (fields gpt.goodhdr))) (fields gpt.goodhdr) where
  parameters := hp
  header1 h := by
    have halone := h1.symm.trans h
    rw [GptData.goodhdr, if_pos halone]
    exact ⟨rfl, halone⟩
  header2 h := by
    obtain ⟨halone, hsame⟩ := h2 h
    refine ⟨?_, halone⟩
    unfold GptData.goodhdr
    split_ifs with hpri
    · exact hsame (h1.trans hpri)
    · rfl
  headers := hn
  entries1 := entriesFor_primary
  entries2 := entriesFor_secondary
  entries := he

theorem gptSanityCheck_sane {gpt' : GptData} (h : gptSanityCheck gpt = (none, gpt')) :
    ∃ f, Sane gpt' f := by
  cases hp : checkParameters gpt with
  | some e =>
    rw [gptSanityCheck, hp] at h
    cases h
  | none =>
    rw [gptSanityCheck, hp] at h
    dsimp only at h
    by_cases ha : gpt.headersAlone = maskNone
    · rw [if_pos ha] at h
      cases h
    rw [if_neg ha] at h
    by_cases he : gpt.fitting.2 = maskNone
    · rw [if_pos he] at h
      cases h
    rw [if_neg he] at h
    cases fitting_cases he with
    | inl hc =>
      obtain ⟨halone, hfit⟩ := hc
      have hne : ¬ (maskSecondary = maskBoth ∧
          headerFieldsSame gpt.primaryHeader gpt.secondaryHeader = false) := fun hc => by
        cases hc.1
      rw [hfit] at h he
      rw [if_neg hne] at h
      obtain rfl := (Prod.mk.inj h).2
      exact ⟨_, sane_secondary hp halone he⟩
    | inr hfit =>
      rw [hfit] at h he
      by_cases hs : gpt.headersAlone = maskBoth ∧
          headerFieldsSame gpt.primaryHeader gpt.secondaryHeader = false
      · rw [if_pos hs] at h
        obtain rfl := (Prod.mk.inj h).2
        exact ⟨_, sane_goodhdr hp (by rw [hs.1]; rfl) (fun hf => by cases hf) (by decide) he⟩
      · rw [if_neg hs] at h
        obtain rfl := (Prod.mk.inj h).2
        refine ⟨_, sane_goodhdr hp rfl (fun h2 => ⟨h2, fun h1 => ?_⟩) ha he⟩
        -- both headers are good, so they were compared
        have hboth : gpt.headersAlone = maskBoth := by
          cases hm : gpt.headersAlone with
          | mk a b =>
            rw [hm] at h1 h2
            exact congrArg₂ Mask.mk h1 h2
        by_contra hne
        refine hs ⟨hboth, ?_⟩
        rw [headerFieldsSame, beq_eq_false_iff_ne]
        exact fun heq => hne heq.symm

theorem mask_cases {m : Mask} (h : m ≠ maskNone) :
    m = maskPrimary ∨ m = maskSecondary ∨ m = maskBoth := by
  cases m with
  | mk a b =>
    cases a <;> cases b
    · exact absurd rfl h
    · exact .inr (.inl rfl)
    · exact .inl rfl
    · exact .inr (.inr rfl)

def HeadersDone (gpt : GptData) (f : HeaderFields) : Prop :=
  fields gpt.primaryHeader = f ∧ fields gpt.secondaryHeader = f ∧
  gpt.Accepts false gpt.primaryHeader ∧ gpt.Accepts true gpt.secondaryHeader

theorem Sane.headersDone (h : Sane gpt f) : HeadersDone (repairHeaders gpt) f := by
  rcases mask_cases h.headers with hm | hm | hm
  · obtain ⟨hf, hc⟩ := h.header1 (by rw [hm]; rfl)
    have hr : repairHeaders gpt = _ := if_pos hm
    rw [hr]
    refine ⟨hf, (fields_copyHeader _ _ _ _ _).trans hf, hc, ?_⟩
    exact checkHeader_copy (checkHeader_fields hc) (checkPlace_copy2 _ _ _ _)
  · obtain ⟨hf, hc⟩ := h.header2 (by rw [hm]; rfl)
    have hr : repairHeaders gpt = _ := (if_neg (by rw [hm]; decide)).trans (if_pos hm)
    rw [hr]
    refine ⟨(fields_copyHeader _ _ _ _ _).trans hf, hf, ?_, hc⟩
    exact checkHeader_copy (checkHeader_fields hc) (checkPlace_copy1 _ _ _ _)
  · obtain ⟨hf1, hc1⟩ := h.header1 (by rw [hm]; rfl)
    obtain ⟨hf2, hc2⟩ := h.header2 (by rw [hm]; rfl)
    have hr : repairHeaders gpt = gpt :=
      (if_neg (by rw [hm]; decide)).trans (if_neg (by rw [hm]; decide))
    rw [hr]
    exact ⟨hf1, hf2, hc1, hc2⟩

theorem repairHeaders_frame (gpt : GptData) :
    (repairHeaders gpt).primaryEntries = gpt.primaryEntries ∧
    (repairHeaders gpt).secondaryEntries = gpt.secondaryEntries ∧
    (repairHeaders gpt).validEntries = gpt.validEntries ∧
    checkParameters (repairHeaders gpt) = checkParameters gpt := by
  unfold repairHeaders
  split_ifs <;> exact ⟨rfl, rfl, rfl, rfl⟩

theorem HeadersDone.consistent (h : HeadersDone gpt f) (hp : checkParameters gpt = none)
    (hn : gpt.validEntries ≠ maskNone)
    (h1 : gpt.validEntries.primary = true → checkEntries gpt.primaryEntries f = none)
    (h2 : gpt.validEntries.secondary = true → checkEntries gpt.secondaryEntries f = none) :
    Consistent (repairEntries gpt) := by
  obtain ⟨hf1, hf2, hc1, hc2⟩ := h
  have hsize := toNat_entriesSize (checkHeader_fields hc1)
  rw [← hf1] at h1 h2 hf2
  rcases mask_cases hn with hm | hm | hm
  · have he := h1 (by rw [hm]; rfl)
    have hr : repairEntries gpt = _ := if_pos hm
    rw [hr]
    exact ⟨hp, hc1, hc2, hf2, he, checkEntries_copy _ hsize he⟩
  · have he := h2 (by rw [hm]; rfl)
    have hr : repairEntries gpt = _ := (if_neg (by rw [hm]; decide)).trans (if_pos hm)
    rw [hr]
    exact ⟨hp, hc1, hc2, hf2, checkEntries_copy _ hsize he, he⟩
  · have hr : repairEntries gpt = gpt :=
      (if_neg (by rw [hm]; decide)).trans (if_neg (by rw [hm]; decide))
    rw [hr]
    exact ⟨hp, hc1, hc2, hf2, h1 (by rw [hm]; rfl), h2 (by rw [hm]; rfl)⟩

theorem Sane.repair (h : Sane gpt f) :
    Consistent (gptRepair gpt) ∧ (gptRepair gpt).validHeaders = maskBoth ∧
      (gptRepair gpt).validEntries = maskBoth := by
  have hr : gptRepair gpt = (repairEntries (repairHeaders gpt)).mark maskBoth maskBoth :=
    if_neg (not_or.mpr ⟨h.headers, h.entries⟩)
  obtain ⟨he1, he2, hv, hp⟩ := repairHeaders_frame gpt
  have hc := h.headersDone.consistent (hp.trans h.parameters) (by rw [hv]; exact h.entries)
    (by rw [hv, he1]; exact h.entries1) (by rw [hv, he2]; exact h.entries2)
  rw [hr]
  exact ⟨⟨hc.parameters, hc.header1, hc.header2, hc.same, hc.entries1, hc.entries2⟩, rfl, rfl⟩

theorem mark_both (hh : gpt.validHeaders = maskBoth) (he : gpt.validEntries = maskBoth) :
    gpt.mark maskBoth maskBoth = gpt :=
  calc gpt.mark maskBoth maskBoth = gpt.mark gpt.validHeaders gpt.validEntries := by rw [hh, he]
    _ = gpt := rfl

theorem gptRepair_both (hh : gpt.validHeaders = maskBoth) (he : gpt.validEntries = maskBoth) :
    gptRepair gpt = gpt := by
  have hne : ¬ (maskBoth = maskNone ∨ maskBoth = maskNone) := by decide
  have hp : maskBoth ≠ maskPrimary := by decide
  have hs : maskBoth ≠ maskSecondary := by decide
  have hheaders : repairHeaders gpt = gpt := by
    rw [repairHeaders, hh, if_neg hp, if_neg hs]
  have hentries : repairEntries gpt = gpt := by
    rw [repairEntries, he, if_neg hp, if_neg hs]
  rw [gptRepair, hh, he, if_neg hne, hheaders, hentries, mark_both hh he]

/-- The check changes nothing but the marks. -/
theorem gptSanityCheck_mark (gpt : GptData) :
    (gptSanityCheck gpt).2 =
      gpt.mark (gptSanityCheck gpt).2.validHeaders (gptSanityCheck gpt).2.validEntries := by
  rw [gptSanityCheck]
  cases checkParameters gpt with
  | some e => rfl
  | none =>
    dsimp only
    split_ifs <;> rfl

/-- Where GptInit starts. -/
abbrev GptData.restarted (gpt : GptData) : GptData :=
  { gpt with modified := unmodified, currentKernel := none, currentPriority := 999 }

theorem gptInit_success {gpt' : GptData} (h : gptSanityCheck gpt.restarted = (none, gpt')) :
    gptInit gpt = (none, gptRepair gpt') := by
  rw [gptInit, h]

theorem gptInit_valid (h : (gptInit gpt).1 = none) :
    Consistent (gptInit gpt).2 ∧ (gptInit gpt).2.validHeaders = maskBoth ∧
      (gptInit gpt).2.validEntries = maskBoth := by
  cases hs : gptSanityCheck gpt.restarted with
  | mk r gpt' =>
    cases r with
    | some e =>
      rw [gptInit, hs] at h
      cases h
    | none =>
      obtain ⟨f, hsane⟩ := gptSanityCheck_sane hs
      rw [gptInit_success hs]
      exact hsane.repair

/-- After a successful GptInit the check finds everything valid and changes nothing, and a
repair changes nothing either. -/
theorem gptInit_repaired (gpt : GptData) (h : (gptInit gpt).1 = none) :
    gptSanityCheck (gptInit gpt).2 = (none, (gptInit gpt).2) ∧
    (gptInit gpt).2.validHeaders = maskBoth ∧ (gptInit gpt).2.validEntries = maskBoth ∧
    gptRepair (gptInit gpt).2 = (gptInit gpt).2 := by
  obtain ⟨hc, hh, he⟩ := gptInit_valid h
  refine ⟨?_, hh, he, gptRepair_both hh he⟩
  rw [hc.sanityCheck, mark_both hh he]

/-- An external table of 16 unused entries whose primary header is lost. -/
def sampleGpt : GptData where
  primaryHeader := fun _ => 0
  secondaryHeader := Mem.ofList (gptHeaderSignature ++ leBytes32 gptHeaderRevision ++ leBytes32 92 ++
    leBytes32 2884274007 ++ leBytes32 0 ++ leBytes64 99 ++ leBytes64 1 ++ leBytes64 10 ++
    leBytes64 50 ++ List.replicate 16 0 ++ leBytes64 95 ++ leBytes32 16 ++ leBytes32 128 ++
    leBytes32 4058561182)
  primaryEntries := fun _ => 0
  secondaryEntries := fun _ => 0
  sectorBytes := 512
  streamingDriveSectors := 100
  gptDriveSectors := 100
  flags := gptFlagExternal
  modified := unmodified
  currentKernel := none
  currentPriority := 999
  validHeaders := maskNone
  validEntries := maskNone

/-- The state of the checksum after another 256 zeroes. -/
def crcBlock (value : UInt32) : UInt32 := (List.replicate 256 0).foldl crc32Step value

theorem foldl_zeroes : (List.replicate 1792 0).foldl crc32Step 0xFFFFFFFF = 2177146615 := by
  have hblocks : List.replicate 1792 (0 : UInt8) =
      (List.replicate 7 (List.replicate 256 0)).flatten := by
    rw [List.flatten_replicate_replicate]
  have hfold (l : List UInt8) (v : UInt32) : (List.replicate 7 l).flatten.foldl crc32Step v =
      (fun v => l.foldl crc32Step v)^[7] v := by
    rw [List.foldl_flatten]
    rfl
  have h1 : crcBlock 0xFFFFFFFF = 4066998951 := by decide +kernel
  have h2 : crcBlock 4066998951 = 1297451655 := by decide +kernel
  have h3 : crcBlock 1297451655 = 174001130 := by decide +kernel
  have h4 : crcBlock 174001130 = 273305809 := by decide +kernel
  have h5 : crcBlock 273305809 = 54289050 := by decide +kernel
  have h6 : crcBlock 54289050 = 2481135233 := by decide +kernel
  have h7 : crcBlock 2481135233 = 2177146615 := by decide +kernel
  rw [hblocks, hfold]
  change crcBlock (crcBlock (crcBlock (crcBlock (crcBlock (crcBlock (crcBlock 0xFFFFFFFF)))))) = _
  rw [h1, h2, h3, h4, h5, h6, h7]

theorem crc32_last {entries : Mem} (h : ∀ x < 1792, entries x = 0) :
    crc32 (entries.load 0 2048) =
      (entries.load 1792 256).foldl crc32Step 2177146615 ^^^ 0xFFFFFFFF := by
  have hzero : entries.load 0 1792 = List.replicate 1792 0 := by
    rw [Mem.load, ← List.length_range (n := 1792), ← List.map_const', List.length_range]
    apply List.map_congr_left
    intro x hx
    rw [Nat.zero_add]
    exact h x (List.mem_range.mp hx)
  have hsplit := Mem.load_add entries 0 1792 256
  rw [hzero, Nat.zero_add] at hsplit
  rw [crc32, hsplit, List.foldl_append, foldl_zeroes]

theorem crc32_zeroes : crc32 (Mem.load (fun _ => 0) 0 2048) = 4058561182 := by
  rw [crc32_last fun _ _ => rfl]
  decide +kernel

theorem sampleGpt_entries : checkEntries (fun _ => 0) (fields sampleGpt.secondaryHeader) = none := by
  have hsize : (entriesSize (fields sampleGpt.secondaryHeader)).toNat = 2048 := by decide
  have hcrc : (fields sampleGpt.secondaryHeader).entriesCrc32 = 4058561182 := by decide
  exact checkEntries_good (by rw [hsize, hcrc, crc32_zeroes]) (by decide)

set_option maxRecDepth 4000 in
theorem sampleGpt_sanityCheck :
    gptSanityCheck sampleGpt = (none, sampleGpt.mark maskSecondary maskBoth) := by
  have hp : checkParameters sampleGpt = none := by decide
  have ha : sampleGpt.headersAlone = maskSecondary := by decide
  have hg : sampleGpt.goodhdr = sampleGpt.secondaryHeader := by
    rw [GptData.goodhdr, ha]
    rfl
  have he : sampleGpt.entriesFor (fields sampleGpt.secondaryHeader) = maskBoth := by
    change (⟨checkEntries (fun _ => 0) (fields sampleGpt.secondaryHeader) == none,
      checkEntries (fun _ => 0) (fields sampleGpt.secondaryHeader) == none⟩ : Mask) = _
    rw [sampleGpt_entries]
    rfl
  have hfit : sampleGpt.fitting = (maskSecondary, maskBoth) := by
    have hne : ¬ (maskSecondary = maskBoth ∧ maskBoth = maskNone) := by decide
    rw [GptData.fitting, ha, hg, he, if_neg hne]
  exact gptSanityCheck_marks hp (by rw [ha]; decide) hfit (by decide) fun h => by cases h

/-- The lost header is written again. -/
theorem gptInit_repaired_sample :
    (gptInit sampleGpt).1 = none ∧ (gptInit sampleGpt).2.modified = ⟨true, false, false, false⟩ ∧
    gptSanityCheck (gptInit sampleGpt).2 = (none, (gptInit sampleGpt).2) := by
  have hi : gptInit sampleGpt = (none, gptRepair (sampleGpt.mark maskSecondary maskBoth)) :=
    gptInit_success sampleGpt_sanityCheck
  have h : (gptInit sampleGpt).1 = none := congrArg Prod.fst hi
  refine ⟨h, ?_, (gptInit_repaired sampleGpt h).1⟩
  rw [hi]
  decide

/-- A header of an external table with 16 entries, on a disk of 100 sectors. -/
def sampleHeader (crc : UInt32) (my alternate entries : UInt64) : Mem :=
  Mem.ofList (gptHeaderSignature ++ leBytes32 gptHeaderRevision ++ leBytes32 92 ++ leBytes32 crc ++
    leBytes32 0 ++ leBytes64 my ++ leBytes64 alternate ++ leBytes64 10 ++ leBytes64 50 ++
    List.replicate 16 0 ++ leBytes64 entries ++ leBytes32 16 ++ leBytes32 128 ++ leBytes32 2834567311)

/-- The last entry is a kernel of priority 1 that has booted before. -/
def sampleEntries : Mem :=
  Mem.store (fun _ => 0) 1920 (chromeosKernelGuid ++ List.replicate 16 1 ++ leBytes64 10 ++
    leBytes64 20 ++ List.replicate 6 0 ++ [1, 1])

def sampleTable : GptData where
  primaryHeader := sampleHeader 3969013908 1 99 2
  secondaryHeader := sampleHeader 1667291926 99 1 95
  primaryEntries := sampleEntries
  secondaryEntries := sampleEntries
  sectorBytes := 512
  streamingDriveSectors := 100
  gptDriveSectors := 100
  flags := gptFlagExternal
  modified := unmodified
  currentKernel := none
  currentPriority := 999
  validHeaders := maskBoth
  validEntries := maskBoth

theorem crc32_sampleEntries : crc32 (sampleEntries.load 0 2048) = 2834567311 := by
  rw [crc32_last fun x hx => Mem.store_of_lt _ 1920 x _ (by omega)]
  decide +kernel

theorem sampleEntries_check : checkEntries sampleEntries (fields sampleTable.primaryHeader) = none := by
  have hsize : (entriesSize (fields sampleTable.primaryHeader)).toNat = 2048 := by decide
  have hcrc : (fields sampleTable.primaryHeader).entriesCrc32 = 2834567311 := by decide
  exact checkEntries_good (by rw [hsize, hcrc, crc32_sampleEntries]) (by decide)

set_option maxRecDepth 4000 in
theorem sampleTable_consistent : Consistent sampleTable where
  parameters := by decide
  header1 := by decide
  header2 := by decide
  same := by
    simp only [fields, HeaderFields.mk.injEq]
    refine ⟨?_, ?_, ?_, ?_, ?_, ?_, ?_, ?_, ?_, ?_⟩
    all_goals decide
  entries1 := sampleEntries_check
  entries2 := sampleEntries_check

theorem gptInit_consistent (h : Consistent gpt) (hm : gpt.modified = unmodified)
    (hk : gpt.currentKernel = none) (hp : gpt.currentPriority = 999) (hh : gpt.validHeaders = maskBoth)
    (he : gpt.validEntries = maskBoth) : gptInit gpt = (none, gpt) := by
  have hinit : gpt.restarted = gpt := by rw [GptData.restarted, ← hm, ← hk, ← hp]
  have hs := h.sanityCheck
  rw [mark_both hh he] at hs
  rw [gptInit_success ((congrArg gptSanityCheck hinit).trans hs), gptRepair_both hh he]

end Vboot.Gpt
