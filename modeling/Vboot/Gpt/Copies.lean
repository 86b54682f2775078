import Vboot.Gpt.Transfer

/-! The two copies of the table in memory: how the header that GptRepair rebuilds refers to the
other one, and what the updates of kernel entries do to both copies. -/
namespace Vboot.Gpt
open Vboot.Lib

def alternateLba (h : Mem) : UInt64 := le64 h 32

section
variable (dst src : Mem) (my alternate entries : UInt64)

theorem alternateLba_copyHeader : alternateLba (copyHeader dst src my alternate entries) = alternate := by
  unfold alternateLba copyHeader sealHeader
  rw [le64_store_disjoint _ 32 16 _ (by rw [length_leBytes32]; omega),
    le64_store_disjoint _ 32 72 _ (by omega), le64_store]

/-- The rest of the sector is not copied. -/
theorem copyHeader_rest {x : Nat} (hx : 92 ≤ x) : copyHeader dst src my alternate entries x = dst x := by
  unfold copyHeader sealHeader
  rw [Mem.store_of_ge _ 16 x _ (by rw [length_leBytes32]; omega),
    Mem.store_of_ge _ 72 x _ (by rw [length_leBytes64]; omega),
    Mem.store_of_ge _ 32 x _ (by rw [length_leBytes64]; omega),
    Mem.store_of_ge _ 24 x _ (by rw [length_leBytes64]; omega),
    Mem.store_of_ge _ 0 x _ (by rw [Mem.length_load]; omega)]

end

def GptData.header (gpt : GptData) (isSecondary : Bool) : Mem :=
  if isSecondary then gpt.secondaryHeader else gpt.primaryHeader

/-- The mask of one header alone. -/
def maskOf (isSecondary : Bool) : Mask := ⟨!isSecondary, isSecondary⟩

/-- The header names the place of the other one and lies where CheckHeader demands it. -/
def Linked (h other : Mem) (isSecondary : Bool) (drive : UInt64) : Prop :=
  alternateLba h = myLba other ∧ checkPlace h isSecondary drive = true

variable {gpt : GptData}

theorem gptRepair_header (hh : gpt.validHeaders ≠ maskNone) (he : gpt.validEntries ≠ maskNone)
    (isSecondary : Bool) : (gptRepair gpt).header isSecondary = (repairHeaders gpt).header isSecondary := by
  rw [gptRepair, if_neg (not_or.mpr ⟨hh, he⟩), repairEntries]
  dsimp only
  split_ifs <;> rfl

/-- A rebuilt secondary header is always in order. A rebuilt primary header names the last sector
of the drive that holds the partitions, which is the place of the secondary header only if the
table lies on a drive of the same size. -/
theorem rebuilt_header_linked_iff {lost : Bool} (hh : gpt.validHeaders = maskOf !lost)
    (he : gpt.validEntries ≠ maskNone)
    (hc : checkHeader (gpt.header !lost) (!lost) gpt.streamingDriveSectors gpt.gptDriveSectors gpt.flags =
      true) :
    Linked ((gptRepair gpt).header lost) (gpt.header !lost) lost gpt.gptDriveSectors ↔
      lost = true ∨ gpt.streamingDriveSectors = gpt.gptDriveSectors := by
  have hplace := checkHeader_place hc
  rw [gptRepair_header (by rw [hh]; cases lost <;> decide) he]
  cases lost with
  | true =>
    have hr : repairHeaders gpt = _ := if_pos hh
    rw [hr]
    change Linked (copyHeader _ _ _ _ _) gpt.primaryHeader true _ ↔ _
    have hmy : myLba gpt.primaryHeader = gptPmbrSectors := (of_decide_eq_true hplace).1
    rw [Linked, alternateLba_copyHeader, hmy, checkPlace_copy2]
    simp
  | false =>
    have hr : repairHeaders gpt = _ := (if_neg (by rw [hh]; decide)).trans (if_pos hh)
    rw [hr]
    change Linked (copyHeader _ _ _ _ _) gpt.secondaryHeader false _ ↔ _
    have hmy : myLba gpt.secondaryHeader = gpt.gptDriveSectors - gptHeaderSectors :=
      (of_decide_eq_true hplace).1
    rw [Linked, alternateLba_copyHeader, hmy, checkPlace_copy1, UInt64.sub_left_inj]
    simp

/-- The table whose primary header is lost, for partitions on a drive of another size. -/
def lostHeader (streaming : UInt64) : GptData :=
  { sampleGpt.mark maskSecondary maskBoth with streamingDriveSectors := streaming }

set_option maxRecDepth 4000 in
theorem lostHeader_valid {streaming : UInt64} (h : streaming = 100 ∨ streaming = 200) :
    checkHeader (lostHeader streaming).secondaryHeader true streaming 100 gptFlagExternal = true := by
  rcases h with rfl | rfl <;> decide

theorem rebuilt_header_linked_sample :
    Linked (gptRepair (lostHeader 100)).primaryHeader (lostHeader 100).secondaryHeader false 100 :=
  (@rebuilt_header_linked_iff (lostHeader 100) false rfl (by decide) (lostHeader_valid (.inl rfl))).mpr
    (.inr rfl)

/-- Sector 199 of the other drive is named, the secondary header lies in sector 99. -/
theorem rebuilt_header_misses :
    checkParameters (lostHeader 200) = none ∧
    checkHeader (lostHeader 200).secondaryHeader true 200 100 gptFlagExternal = true ∧
    alternateLba (gptRepair (lostHeader 200)).primaryHeader = 199 ∧
    myLba (lostHeader 200).secondaryHeader = 99 := by
  have hr : gptRepair (lostHeader 200) = _ := if_neg (by decide)
  refine ⟨by decide, lostHeader_valid (.inr rfl), ?_, by decide⟩
  exact alternateLba_copyHeader _ _ _ _ _

/-- The entries of both copies are the same, as far as the header counts them. -/
def Identical (gpt : GptData) : Prop :=
  Mem.Agree gpt.primaryEntries gpt.secondaryEntries (entriesSize (fields gpt.primaryHeader)).toNat

/-- Both headers have the same fields, the checksums and the place of the other header left aside,
and the same bytes behind them. -/
structure SameButCrc (h h' : Mem) : Prop where
  fields : { fields h' with entriesCrc32 := 0 } = { fields h with entriesCrc32 := 0 }
  my : myLba h' = myLba h
  entries : entriesLba h' = entriesLba h
  rest : ∀ x, 92 ≤ x → h' x = h x

def attributeMask : UInt16 := priorityMask ||| triesMask ||| successfulMask

/-- What an update of kernel entry i changes. -/
structure Updated (gpt gpt' : GptData) (i : Nat) : Prop where
  kernel : isKernelEntry (entryAt gpt.primaryEntries i) = true
  bits : gptAtt (entryAt gpt'.primaryEntries i) &&& ~~~attributeMask =
    gptAtt (entryAt gpt.primaryEntries i) &&& ~~~attributeMask
  others : Mem.SameOutside gpt.primaryEntries gpt'.primaryEntries (128 * i + gptAttOffset) 2
  header1 : SameButCrc gpt.primaryHeader gpt'.primaryHeader
  alternate1 : alternateLba gpt'.primaryHeader = alternateLba gpt.primaryHeader
  header2 : SameButCrc gpt.secondaryHeader gpt'.secondaryHeader
  alternate2 : alternateLba gpt'.secondaryHeader = gptPmbrSectors
  identical : Identical gpt'
  others2 : ∀ x, (entriesSize (fields gpt.primaryHeader)).toNat ≤ x →
    gpt'.secondaryEntries x = gpt.secondaryEntries x

theorem attWithSuccessful_others (att : UInt16) (successful : Bool) :
    attWithSuccessful att successful &&& ~~~attributeMask = att &&& ~~~attributeMask := by
  apply UInt16.toBitVec_inj.mp
  ext i hi
  cases successful
  all_goals
    simp only [attWithSuccessful, attributeMask, priorityMask, triesMask, successfulMask]
    interval_cases i <;> simp

theorem updatedAtt_others {e : Ptr} {u : UpdateType} {att : UInt16} (h : updatedAtt e u = some att) :
    att &&& ~~~attributeMask = gptAtt e &&& ~~~attributeMask := by
  have htries (att tries : UInt16) :
      attWithTries att tries &&& ~~~attributeMask = att &&& ~~~attributeMask := and_masked att rfl _
  have hpriority (att priority : UInt16) :
      attWithPriority att priority &&& ~~~attributeMask = att &&& ~~~attributeMask := and_masked att rfl _
  cases u with
  | «try» =>
    rw [updatedAtt] at h
    split_ifs at h
    · cases h
      rw [htries]
    · cases h
      rw [hpriority, htries]
  | bad =>
    rw [updatedAtt] at h
    split_ifs at h
    cases h
    rw [hpriority, htries]
  | reset =>
    cases h
    rw [attWithSuccessful_others, hpriority, htries]
  | invalid =>
    cases h
    rw [attWithSuccessful_others, hpriority, htries]

theorem updatedHeader_same (header entries : Mem) : SameButCrc header (updatedHeader header entries) where
  fields := by rw [fields_updatedHeader]
  my := le64_updatedHeader header entries (by omega)
  entries := entriesLba_updatedHeader header entries
  rest x hx := by
    rw [updatedHeader, sealHeader, Mem.store_of_ge _ 16 x _ (by rw [length_leBytes32]; omega),
      Mem.store_of_ge _ 88 x _ (by rw [length_leBytes32]; omega)]

theorem Consistent.withAtt (h : Consistent gpt) (i : Nat) (att : UInt16) : Consistent (gpt.withAtt i att) :=
  (h.modified fun j => entryFields_setGptAtt gpt.primaryEntries i j att).1

theorem Consistent.updated (h : Consistent gpt) {i : Nat} {u : UpdateType} {att : UInt16}
    (hk : isKernelEntry (entryAt gpt.primaryEntries i) = true)
    (hu : updatedAtt (entryAt gpt.primaryEntries i) u = some att) : Updated gpt (gpt.withAtt i att) i := by
  have hplace := of_decide_eq_true (checkHeader_place h.header2)
  have hfields := fields_updatedHeader gpt.primaryHeader (setGptAtt gpt.primaryEntries i att)
  have hsize : entriesSize (fields (updatedHeader gpt.primaryHeader (setGptAtt gpt.primaryEntries i att))) =
      entriesSize (fields gpt.primaryHeader) := by rw [hfields]; rfl
  rw [GptData.withAtt, gptModified_eq]
  constructor
  · exact hk
  · rw [gptAtt_setGptAtt]
    exact updatedAtt_others hu
  · exact (Mem.SameOutside.refl _ _ _).store ⟨Nat.le_refl _, Nat.le_refl _⟩
  · exact updatedHeader_same _ _
  · exact le64_updatedHeader _ _ (by omega)
  · constructor
    · rw [fields_copyHeader, hfields, h.same]
    · rw [myLba_copyHeader, hplace.1]
    · rw [entriesLba_copyHeader, hplace.2, hplace.1, h.same, hfields]
      rfl
    · exact fun x hx => copyHeader_rest _ _ _ _ _ hx
  · exact alternateLba_copyHeader _ _ _ _ _
  · intro x hx
    dsimp only at hx ⊢
    have hin := Mem.store_inside gpt.secondaryEntries 0 x
      ((setGptAtt gpt.primaryEntries i att).load 0 _) 0 (by rw [Mem.length_load]; exact hx)
    rw [Nat.zero_add, Mem.getD_load _ _ _ _ _ hx, Nat.zero_add] at hin
    exact hin.symm
  · intro x hx
    refine Mem.store_of_ge _ 0 x _ ?_
    rw [Mem.length_load, Nat.zero_add, hsize]
    exact hx

/-- The state between the calls: valid, and with the same entries if it began so. -/
theorem Consistent.runs (h : Consistent gpt) (override : Ptr → UInt8) (ops : List TableOp) :
    Consistent (ops.foldl (TableOp.run override) gpt) ∧
      (Identical gpt → Identical (ops.foldl (TableOp.run override) gpt)) := by
  induction ops generalizing gpt with
  | nil => exact ⟨h, id⟩
  | cons op ops ih =>
    rcases op.run_cases override gpt with ⟨kernel, priority, hr⟩ | ⟨i, u, att, -, hk, hu, hr⟩
    · have hc : Consistent (op.run override gpt) := by
        rw [hr]
        exact ⟨h.parameters, h.header1, h.header2, h.same, h.entries1, h.entries2⟩
      refine ⟨(ih hc).1, fun hi => (ih hc).2 ?_⟩
      rw [hr]
      exact hi
    · have hc : Consistent (op.run override gpt) := hr ▸ h.withAtt i att
      exact ⟨(ih hc).1, fun _ => (ih hc).2 (hr ▸ (h.updated hk hu).identical)⟩

/-- After GptInit both copies stay valid whatever is updated, and their entries the same if they
were. A call that changes anything changes, besides checksums, the three attributes of its entry;
it also brings the secondary copy up to date, entries and the place of the other header. -/
theorem kernel_updates_keep_copies (h : (gptInit gpt).1 = none)
    (override : Ptr → UInt8) (ops : List TableOp) (op : TableOp) :
    let gpt' := ops.foldl (TableOp.run override) (gptInit gpt).2
    Consistent gpt' ∧ (Identical (gptInit gpt).2 → Identical gpt') ∧
    ((∃ kernel priority, op.run override gpt' =
        { gpt' with currentKernel := kernel, currentPriority := priority }) ∨
      ∃ i, op.target gpt' = some i ∧ Updated gpt' (op.run override gpt') i) := by
  obtain ⟨hc, hi⟩ := (gptInit_valid h).1.runs override ops
  refine ⟨hc, hi, ?_⟩
  rcases op.run_cases override _ with hr | ⟨i, u, att, ht, hk, hu, hr⟩
  · exact .inl hr
  · refine .inr ⟨i, ht, ?_⟩
    rw [hr]
    exact hc.updated hk hu

theorem kernel_updates_sample :
    (gptInit sampleTable).1 = none ∧ Consistent
      ([TableOp.updateEntry 15 .reset].foldl (TableOp.run fun _ => 0) (gptInit sampleTable).2) := by
  have h : (gptInit sampleTable).1 = none := congrArg Prod.fst sampleTable_consistent.init
  exact ⟨h, (kernel_updates_keep_copies h _ _ .next).1⟩

/-- An unused entry of the secondary copy differs in five bytes that do not change the checksum,
and the secondary header names another place than sector 1. -/
def otherTable : GptData :=
  { sampleTable with
    secondaryHeader := sealHeader (sampleHeader 0 99 7 95)
    secondaryEntries := sampleEntries.store 1856 [65, 6, 113, 219, 1] }

theorem otherTable_consistent : Consistent otherTable where
  parameters := sampleTable_consistent.parameters
  header1 := sampleTable_consistent.header1
  header2 := checkHeader_sealHeader (by decide) (by decide)
  same := by
    change fields (sealHeader (sampleHeader 0 99 7 95)) = fields (sampleHeader 3969013908 1 99 2)
    rw [fields_sealHeader]
    simp only [fields, HeaderFields.mk.injEq]
    refine ⟨?_, ?_, ?_, ?_, ?_, ?_, ?_, ?_, ?_, ?_⟩
    all_goals decide
  entries1 := sampleTable_consistent.entries1
  entries2 := by
    have hsize : (entriesSize (fields sampleTable.primaryHeader)).toNat = 2048 := by decide
    have hcrc : (fields sampleTable.primaryHeader).entriesCrc32 = 2834567311 := by decide
    have hsum : crc32 (otherTable.secondaryEntries.load 0 2048) = 2834567311 := by
      rw [crc32_last fun x hx => ?_]
      · decide +kernel
      · exact (Mem.store_of_lt _ 1856 x _ (by omega)).trans (Mem.store_of_lt _ 1920 x _ (by omega))
    exact checkEntries_good ((congrArg _ (congrArg _ hsize)).trans (hsum.trans hcrc.symm)) (by decide)

/-- GptInit accepts copies with different entries, and the first update changes the place that
the secondary header names. -/
theorem kernel_update_changes_copy :
    let gpt := (gptInit otherTable).2
    (gptInit otherTable).1 = none ∧ ¬ Identical gpt ∧ alternateLba gpt.secondaryHeader = 7 ∧
    alternateLba ((TableOp.updateEntry 15 .reset).run (fun _ => 0) gpt).secondaryHeader = 1 := by
  rw [otherTable_consistent.init]
  refine ⟨rfl, fun h => ?_, ?_, ?_⟩
  · have hbyte : sampleEntries 1856 = otherTable.secondaryEntries 1856 := h 1856 (by decide)
    exact absurd hbyte (by decide)
  · exact (le64_sealHeader _ (by omega)).trans (by decide)
  · change alternateLba (gptUpdateKernelWithEntry otherTable.initialised 15 .reset).2.secondaryHeader = 1
    rw [gptUpdateKernelWithEntry, if_neg (by decide)]
    dsimp only [updatedAtt]
    rw [gptModified_eq]
    exact alternateLba_copyHeader _ _ _ _ _

end Vboot.Gpt
