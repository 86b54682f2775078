import Vboot.Lib.Run
import Vboot.Gpt.Transfer
import Vboot.Kernel.Policy

/-! An entry that has not booted before is booted at most as often as it has tries left, over any
number of boots, and an entry that has booted before stays eligible. -/
namespace Vboot
open Vboot.Lib Vboot.Gpt

namespace Gpt

def triesOf (gpt : GptData) (i : Nat) : Nat := (getEntryTries (entryAt gpt.primaryEntries i)).toNat

/-- The entry has booted before. -/
def Proven (gpt : GptData) (i : Nat) : Prop :=
  getEntrySuccessful (entryAt gpt.primaryEntries i) ≠ 0

theorem gptNextKernelEntry_entries (override : Ptr → UInt8) (gpt : GptData) :
    (gptNextKernelEntry override gpt).2.primaryEntries = gpt.primaryEntries := by
  obtain ⟨kernel, priority, he⟩ := gptNextKernelEntry_cursor override gpt
  rw [he]

theorem gptNextKernelEntry_current {override : Ptr → UInt8} {gpt : GptData} {i : Nat}
    (h : (gptNextKernelEntry override gpt).2.currentKernel = some i) :
    isCandidate (entryAt gpt.primaryEntries i) = true := by
  cases hn : gptNextKernelEntry override gpt with
  | mk part gpt' =>
    rw [hn] at h
    cases part with
    | some part =>
      obtain ⟨k, hk⟩ := gptNextKernelEntry_some override hn
      rw [hk.table] at h
      cases h
      exact hk.candidate
    | none =>
      rw [gptNextKernelEntry] at hn
      cases hs : gpt.currentKernel.bind (sameKernelPriority override gpt) with
      | some k =>
        rw [hs] at hn
        cases hn
      | none =>
        rw [hs] at hn
        dsimp only at hn
        obtain ⟨hnone, hgpt⟩ := Prod.mk.inj hn
        rw [← hgpt, Option.map_eq_none_iff.mp hnone] at h
        cases h

section
variable {gpt : GptData} {u : UpdateType} {i : Nat}

theorem triesOf_pos (hc : isCandidate (entryAt gpt.primaryEntries i) = true) (h : ¬ Proven gpt i) :
    isKernelEntry (entryAt gpt.primaryEntries i) = true ∧ 0 < triesOf gpt i := by
  have hzero := not_not.mp h
  simp only [isCandidate, hzero, bne_self_eq_false, Bool.false_or, Bool.and_eq_true, bne_iff_ne] at hc
  exact ⟨hc.1, Nat.pos_of_ne_zero fun hz => hc.2 (UInt16.toNat_inj.mp hz)⟩

theorem triesOf_congr {gpt' : GptData}
    (h : gptAtt (entryAt gpt'.primaryEntries i) = gptAtt (entryAt gpt.primaryEntries i)) :
    triesOf gpt' i = triesOf gpt i ∧ (Proven gpt' i ↔ Proven gpt i) := by
  rw [triesOf, triesOf, Proven, Proven, getEntryTries, getEntryTries, getEntrySuccessful,
    getEntrySuccessful, h]
  exact ⟨rfl, Iff.rfl⟩

/-- What a search does to an entry: one that has booted before keeps its attributes, any other one can
only lose tries. -/
structure Wears (i : Nat) (gpt gpt' : GptData) : Prop where
  proven : Proven gpt i →
    gptAtt (entryAt gpt'.primaryEntries i) = gptAtt (entryAt gpt.primaryEntries i)
  unproven : ¬ Proven gpt i → ¬ Proven gpt' i ∧ triesOf gpt' i ≤ triesOf gpt i

theorem Wears.of_att {gpt' : GptData}
    (h : gptAtt (entryAt gpt'.primaryEntries i) = gptAtt (entryAt gpt.primaryEntries i)) :
    Wears i gpt gpt' := by
  obtain ⟨ht, hp⟩ := triesOf_congr h
  exact ⟨fun _ => h, fun hn => ⟨fun hp' => hn (hp.mp hp'), ht.le⟩⟩

theorem Wears.trans {gpt' gpt'' : GptData} (h : Wears i gpt gpt') (h' : Wears i gpt' gpt'') :
    Wears i gpt gpt'' where
  proven hp := (h'.proven ((triesOf_congr (h.proven hp)).2.mpr hp)).trans (h.proven hp)
  unproven hp := by
    obtain ⟨hn, ht⟩ := h.unproven hp
    obtain ⟨hn', ht'⟩ := h'.unproven hn
    exact ⟨hn', ht'.trans ht⟩

theorem gptUpdateKernelEntry_wears (hu : u = .try ∨ u = .bad) (i : Nat) :
    Wears i gpt (gptUpdateKernelEntry gpt u).2 := by
  rcases gptUpdateKernelEntry_entries gpt u with he | ⟨k, att, hk, hatt, he⟩
  · exact .of_att (by rw [he])
  · by_cases hi : i = k
    · subst hi
      obtain ⟨hzero, hs, ht⟩ := updatedAtt_tries hu hatt
      refine ⟨fun hp => absurd hzero hp, fun hp => ?_⟩
      rw [Proven, triesOf, he, getEntrySuccessful, getEntryTries, gptAtt_setGptAtt, hs]
      exact ⟨hp, ht.trans (Nat.sub_le _ _)⟩
    · refine .of_att ?_
      rw [he]
      exact gptAtt_setGptAtt_ne _ _ _ _ hi

theorem gptUpdateKernelEntry_spent (hk : gpt.currentKernel = some i)
    (hc : isCandidate (entryAt gpt.primaryEntries i) = true) (h : ¬ Proven gpt i) :
    triesOf (gptUpdateKernelEntry gpt .try).2 i + 1 ≤ triesOf gpt i := by
  obtain ⟨hkernel, hpos⟩ := triesOf_pos hc h
  obtain ⟨att, hatt⟩ : ∃ att, updatedAtt (entryAt gpt.primaryEntries i) .try = some att := by
    rw [updatedAtt, if_neg (show ¬ getEntrySuccessful (entryAt gpt.primaryEntries i) ≠ 0 from h)]
    split_ifs <;> exact ⟨_, rfl⟩
  have hentries : (gptUpdateKernelEntry gpt .try).2.primaryEntries =
      setGptAtt gpt.primaryEntries i att := by
    rw [gptUpdateKernelEntry, hk]
    dsimp only [gptUpdateKernelWithEntry]
    rw [hkernel, if_neg (by decide), hatt]
    exact gptModified_entries _
  obtain ⟨-, -, ht⟩ := updatedAtt_tries (.inl rfl) hatt
  have hnew : triesOf (gptUpdateKernelEntry gpt .try).2 i ≤ triesOf gpt i - 1 := by
    rw [triesOf, hentries, getEntryTries, gptAtt_setGptAtt]
    exact ht
  omega

end
end Gpt

section
variable {Ctx D S : Type} (crypto : Crypto Ctx) {disk : Disk D S} {image : D → Mem} {sectors : Nat}
  (c : KernelChecks) (override : Ptr → UInt8)

/-- A table that a search has made of the one that it started with. -/
structure Derived (m : Mem) (drive table gpt : GptData) : Prop where
  held : Held m drive gpt
  parts : SameParts table gpt
  wears : ∀ i, Wears i table gpt

section
variable {m : Mem} {drive table gpt : GptData}

theorem Derived.start (h : Held m drive table) : Derived m drive table table :=
  ⟨h, .of_eq rfl rfl, fun _ => .of_att rfl⟩

theorem Derived.next (h : Derived m drive table gpt) :
    Derived m drive table (gptNextKernelEntry override gpt).2 :=
  ⟨h.held.run override .next, h.parts.trans (.gptNextKernelEntry override gpt),
    fun i => (h.wears i).trans (.of_att (by rw [gptNextKernelEntry_entries]))⟩

theorem Derived.update (h : Derived m drive table gpt) {u : UpdateType} (hu : u = .try ∨ u = .bad) :
    Derived m drive table (gptUpdateKernelEntry gpt u).2 :=
  ⟨h.held.run (fun _ => 0) (.update u), h.parts.trans (gptUpdateKernelEntry_frame gpt u).1,
    fun i => (h.wears i).trans (gptUpdateKernelEntry_wears hu i)⟩

/-- A search whose table has yet to be written to the disk. -/
structure Searching (image : D → Mem) (m : Mem) (drive table : GptData) (s : KernelSearch D) : Prop where
  image : image s.disk = m
  derived : Derived m drive table s.gpt

theorem Searching.kernelStep {s : KernelSearch D} (hd : Gpt.Faithful disk image sectors)
    (h : Searching image m drive table s) :
    Searching image m drive table (kernelStep crypto disk c override s).1 := by
  have hnext := h.derived.next override
  rcases kernelStep_cases crypto disk c override s with ⟨gpt, hn, he⟩ | ⟨part, gpt, i, hn, -, he⟩
  · rw [hn] at hnext
    rw [he]
    exact ⟨h.image, hnext⟩
  · rw [hn] at hnext
    rw [he]
    have ht := tryPartition_tried crypto disk c part { s with gpt := gpt }
    refine ⟨(ht.disk.keeps image hd.streamOpen_keeps hd.streamRead_keeps hd.streamClose_keeps).trans
      h.image, ?_⟩
    cases ht.verdict with
    | bad gpt' good number =>
      rw [gpt']
      exact hnext.update (.inr rfl)
    | passed known gpt' good number =>
      rw [gpt']
      exact hnext
    | taken first gpt' good number =>
      rw [gpt']
      split_ifs
      · exact hnext
      · exact hnext.update (.inl rfl)

end

def KernelSearch.boots (s : KernelSearch D) (i : Nat) : Nat :=
  if s.good ≠ none ∧ s.params.partitionNumber = UInt64.ofNat (i + 1) then 1 else 0

theorem number_inj {k i : Nat} (hk : k < 2 ^ 32) (hi : i < 2 ^ 32)
    (h : UInt64.ofNat (k + 1) = UInt64.ofNat (i + 1)) : k = i := by
  have hn := congrArg UInt64.toNat h
  rw [UInt64.toNat_ofNat', UInt64.toNat_ofNat'] at hn
  omega

variable {s s' : KernelSearch D}

theorem boots_congr (hg : s'.good = s.good)
    (hn : s'.params.partitionNumber = s.params.partitionNumber) (i : Nat) : s'.boots i = s.boots i := by
  rw [KernelSearch.boots, KernelSearch.boots, hg, hn]

/-- Entry i has not booted before. The tries that it has left and the boot that may have been
decided on come from n tries. -/
structure Spending (i n : Nat) (s : KernelSearch D) : Prop where
  unproven : ¬ Proven s.gpt i
  budget : triesOf s.gpt i + s.boots i ≤ n

theorem Verdict.spending {c : KernelChecks} {i k n : Nat} (hv : Verdict c s s')
    (hc : c.nofailBoot = false) (hk : s.gpt.currentKernel = some k) (hk' : k < 2 ^ 32)
    (hcand : isCandidate (entryAt s.gpt.primaryEntries k) = true) (hi : i < 2 ^ 32)
    (h : Spending i n s) : Spending i n s' := by
  have hn := h.budget
  cases hv with
  | bad gpt good number =>
    obtain ⟨hp, ht⟩ := (gptUpdateKernelEntry_wears (.inr rfl) i).unproven h.unproven
    rw [← gpt] at hp ht
    rw [← boots_congr good number] at hn
    exact ⟨hp, by omega⟩
  | passed known gpt good number =>
    rw [← boots_congr good number, ← gpt] at hn
    exact ⟨by rw [gpt]; exact h.unproven, hn⟩
  | taken first gpt good number =>
    rw [hc, if_neg Bool.false_ne_true] at gpt
    obtain ⟨hp, ht⟩ := (gptUpdateKernelEntry_wears (.inl rfl) i).unproven h.unproven
    rw [← gpt] at hp ht
    rw [hk, Option.elim_some] at number
    refine ⟨hp, ?_⟩
    by_cases hik : i = k
    · subst hik
      have hspent := gptUpdateKernelEntry_spent hk hcand h.unproven
      rw [← gpt] at hspent
      have hone : s'.boots i = 1 := if_pos ⟨good, number⟩
      omega
    · have hzero : s'.boots i = 0 := by
        refine if_neg fun hb => hik ?_
        exact number_inj hi hk' (hb.2.symm.trans number)
      omega

variable {s : KernelSearch D}

theorem Spending.kernelStep {i n : Nat} (hc : c.nofailBoot = false)
    (hi : i < 2 ^ 32) (h : Spending i n s) : Spending i n (kernelStep crypto disk c override s).1 := by
  rcases kernelStep_cases crypto disk c override s with ⟨gpt, hn, he⟩ | ⟨part, gpt, k, -, hk, he⟩
  · have hentries := gptNextKernelEntry_entries override s.gpt
    rw [hn] at hentries
    rw [he]
    have hwears : Wears i s.gpt gpt := .of_att (by rw [hentries])
    obtain ⟨hp, ht⟩ := hwears.unproven h.unproven
    exact ⟨hp, (Nat.add_le_add_right ht _).trans h.budget⟩
  · have hv := (tryPartition_tried crypto disk c part { s with gpt := gpt }).verdict
    have htable := hk.table
    rw [he]
    rw [htable] at hv ⊢
    exact hv.spending hc rfl (hk.inside.trans (UInt32.toNat_lt _)) hk.candidate hi
      ⟨h.unproven, h.budget⟩

theorem Spending.start {i : Nat} (hg : s.good = none) (h : ¬ Proven s.gpt i) :
    Spending i (triesOf s.gpt i) s := by
  have hboots : s.boots i = 0 := if_neg fun hgood => hgood.1 hg
  refine ⟨h, ?_⟩
  rw [hboots]
  exact Nat.le_refl _

end

namespace Gpt

/-- A drive with a table that is in order. -/
structure Stored (drive : GptData) (m : Mem) (gpt : GptData) : Prop where
  held : Held m drive gpt
  unmodified : gpt.modified = unmodified

def entryCount (gpt : GptData) : Nat := (fields gpt.primaryHeader).numberOfEntries.toNat

def SameEntry (i : Nat) (gpt gpt' : GptData) : Prop :=
  gpt'.primaryEntries.load (128 * i) 128 = gpt.primaryEntries.load (128 * i) 128

section
variable {gpt gpt' : GptData} {i : Nat}

theorem SameEntry.att (h : SameEntry i gpt gpt') :
    gptAtt (entryAt gpt'.primaryEntries i) = gptAtt (entryAt gpt.primaryEntries i) := by
  have hbyte := Mem.load_eq_iff.mp h
  have h1 : (entryAt gpt'.primaryEntries i).u8 gptAttOffset =
      (entryAt gpt.primaryEntries i).u8 gptAttOffset := hbyte gptAttOffset (by decide)
  have h2 : (entryAt gpt'.primaryEntries i).u8 (gptAttOffset + 1) =
      (entryAt gpt.primaryEntries i).u8 (gptAttOffset + 1) := hbyte (gptAttOffset + 1) (by decide)
  rw [gptAtt, gptAtt, h1, h2]

theorem SameEntry.kernel (h : SameEntry i gpt gpt') :
    isKernelEntry (entryAt gpt'.primaryEntries i) = isKernelEntry (entryAt gpt.primaryEntries i) := by
  have hbyte := Mem.load_eq_iff.mp h
  have htype : entryType (entryAt gpt'.primaryEntries i) = entryType (entryAt gpt.primaryEntries i) :=
    Mem.load_congr fun j hj => hbyte j (by omega)
  rw [isKernelEntry, isKernelEntry, htype]

theorem Stored.sameEntry {drive : GptData} {m : Mem} (hs : Stored drive m gpt) (h : SameTable gpt gpt')
    (hi : i < entryCount gpt) : SameEntry i gpt gpt' := by
  have hsize := toNat_entriesSize (checkHeader_fields hs.held.fits.consistent.header1)
  have hbyte := Mem.load_eq_iff.mp h.entries1
  unfold entryCount at hi
  refine Mem.load_congr fun j hj => ?_
  simpa using hbyte (128 * i + j) (by omega)

end
end Gpt

section
variable {Ctx D S : Type} (crypto : Crypto Ctx) {disk : Disk D S} {image : D → Mem} {drive : GptData}
  (override : Ptr → UInt8) (cparams : VbCommonParams) {d : D}

theorem Gpt.Stored.read {gpt gpt0 : GptData}
    (hd : Gpt.Faithful disk image drive.gptDriveSectors.toNat) (h : Stored drive (image d) gpt)
    (hs : SameDrive drive gpt0) :
    ∃ table d', readGpt disk gpt0 d = (some table, table, d') ∧ image d' = image d ∧
      Held (image d) drive table ∧ SameTable gpt table ∧ entryCount table = entryCount gpt := by
  have hf := h.held.fits
  have hdrive := h.held.drive
  have hsame : SameDrive gpt gpt0 := hdrive.symm.trans hs
  have hd' := hd.on hdrive
  have hon := h.held.onDisk
  rw [h.unmodified] at hon
  obtain ⟨hok, hs', ht, hkeep⟩ := allocAndReadGptData_onDisk hd' hf hsame hon
  have hf' := hf.congr hs' ht
  obtain ⟨hinit, hfits, hplace⟩ := hf'.accepted
  have hbytes := checkParameters_drive hf.consistent.parameters
  obtain ⟨hread, -, -, -⟩ := allocAndReadGptData_reads (hd.on hs)
    (hsame.sectorBytes.trans hbytes.1) (by rw [hsame.drive]; omega) d
  have hdisk := gptInit_onDisk hread hinit hfits hplace
  have htable := hf'.consistent.init
  refine ⟨(gptInit (allocAndReadGptData disk gpt0 d).2.1).2, (allocAndReadGptData disk gpt0 d).2.2, ?_,
    hkeep, ⟨hfits, (hdrive.trans hs').trans gptInit_sameDrive, hdisk⟩, ?_, ?_⟩
  · rw [htable]
    exact readGpt_ok (Prod.ext hok rfl) htable
  · rw [htable]
    exact ⟨ht.header1, ht.header2, ht.entries1, ht.entries2⟩
  · rw [htable, entryCount, entryCount]
    exact congrArg (fun f => f.numberOfEntries.toNat)
      (checkHeader_congr ht.header1 hf.consistent.header1).1

theorem Gpt.Stored.written {gpt : GptData} (hd : Gpt.Faithful disk image drive.gptDriveSectors.toNat)
    (h : Held (image d) drive gpt) :
    Stored drive (image (writeAndFreeGptData disk gpt d).2) { gpt with modified := Gpt.unmodified } := by
  obtain ⟨-, hdisk⟩ := writeAndFreeGptData_onDisk (hd.on h.drive) h.fits h.onDisk
  exact ⟨⟨h.fits.congr ⟨rfl, rfl, rfl, rfl⟩ ⟨rfl, rfl, rfl, rfl⟩, h.drive.trans ⟨rfl, rfl, rfl, rfl⟩,
    ⟨hdisk.header1, hdisk.header2, hdisk.entries1, hdisk.entries2⟩⟩, rfl⟩

/-- The state in which the loop of a call starts. -/
def KernelState.search (s : KernelState D) (table : GptData) (d : D) : KernelSearch D :=
  .start table { s with params := s.params.clear, disk := d }

def KernelState.checks (s : KernelState D) (subkey : Ptr) : KernelChecks :=
  kernelChecks s.params.clear s.shared s.vnc subkey

variable (disk) in
theorem loadKernel_searched {gpt0 table : GptData} {s : KernelState D}
    (hread : readGpt disk (gptFor gpt0 s.params.clear) s.disk = (some table, table, d)) :
    let r := loadKernel crypto disk override cparams gpt0 s
    (r.1 ≠ vbErrorSuccess ∧ r.2.disk = s.disk) ∨
    ∃ subkey k, k = kernelLoop crypto disk (s.checks subkey) override (s.search table d) ∧
      r.2.disk = (writeAndFreeGptData disk k.gpt k.disk).2 ∧
      (r.1 = vbErrorSuccess → k.good ≠ none) ∧
      r.2.params.partitionNumber = k.params.partitionNumber := by
  have hcalled := loadKernel_called crypto disk override cparams gpt0 s
  generalize loadKernel crypto disk override cparams gpt0 s = r at hcalled ⊢
  cases hcalled with
  | stopped e recovery s' error shared flags disk' =>
    exact .inl ⟨error, disk'.resolve_right fun hn => by cases (congrArg Prod.fst hread).symm.trans hn⟩
  | searched subkey table' gpt' d' key read =>
    cases hread.symm.trans read
    obtain ⟨hgood, hdisk, -⟩ := kernelFound_spec disk (kernelLoop crypto disk (s.checks subkey) override
      (s.search table d)) { s with params := s.params.clear }
    exact .inr ⟨subkey, _, rfl, hdisk, hgood.mp, kernelFound_number disk _ _⟩

/-- A call of LoadKernel but for the disk. -/
structure KernelCall where
  cparams : VbCommonParams
  override : Ptr → UInt8
  gpt : GptData
  params : LoadKernelParams
  shared : VbSharedData
  vnc : VbNvContext
  ram : Mem

namespace KernelCall
variable (b : KernelCall)

def state (d : D) : KernelState D := ⟨b.params, b.shared, b.vnc, b.ram, d⟩

def load (disk : Disk D S) (d : D) : UInt32 × KernelState D :=
  loadKernel crypto disk b.override b.cparams b.gpt (b.state d)

/-- A round of the loop of the call starts in this state. -/
def Reaches (disk : Disk D S) (d : D) (s : KernelSearch D) : Prop :=
  ∃ subkey table gpt' d', kernelKey b.cparams b.shared b.params.clear.bootMode = .ok subkey ∧
    readGpt disk (gptFor b.gpt b.params.clear) d = (some table, gpt', d') ∧
    Visits (kernelStep crypto disk ((b.state d).checks subkey) b.override) ((b.state d).search table d') s

/-- The call looks at entry i. -/
def Selects (disk : Disk D S) (d : D) (i : Nat) : Prop :=
  ∃ s, b.Reaches crypto disk d s ∧ (gptNextKernelEntry b.override s.gpt).2.currentKernel = some i

def Boots (disk : Disk D S) (d : D) (i : Nat) : Prop :=
  (b.load crypto disk d).1 = vbErrorSuccess ∧
    (b.load crypto disk d).2.params.partitionNumber = UInt64.ofNat (i + 1)

instance (disk : Disk D S) (d : D) (i : Nat) : Decidable (b.Boots crypto disk d i) :=
  inferInstanceAs (Decidable (_ ∧ _))

def CountsTries : Prop := b.shared.flags &&& vbsdNofailBoot = 0

variable {b} in
theorem CountsTries.checks (h : b.CountsTries) (d : D) (subkey : Ptr) :
    ((b.state d).checks subkey).nofailBoot = false := by
  change (b.shared.flags &&& vbsdNofailBoot != 0) = false
  rw [h]
  rfl

variable {b} in
/-- A call that reads the table has but one search. -/
theorem Reaches.derived (hd : Gpt.Faithful disk image drive.gptDriveSectors.toNat) {d' : D}
    {s : KernelSearch D} {table : GptData} (h : b.Reaches crypto disk d s)
    (hread : readGpt disk (gptFor b.gpt b.params.clear) d = (some table, table, d'))
    (himage : image d' = image d) (hheld : Held (image d) drive table) :
    Derived (image d) drive table s.gpt := by
  obtain ⟨subkey, table', gpt', d'', -, hread', hvisits⟩ := h
  cases hread.symm.trans hread'
  have hstart : Searching image (image d) drive table ((b.state d).search table d') := ⟨himage, .start hheld⟩
  refine (hvisits.invariant (fun a a' ha hstep => ?_) hstart).derived
  have hround := ha.kernelStep crypto ((b.state d).checks subkey) b.override hd
  rw [hstep] at hround
  exact hround

end KernelCall

/-- Between two boots everything may change but the entry, as long as the table is in order. -/
def LeavesEntry (drive : GptData) (i : Nat) (m m' : Mem) : Prop :=
  ∀ gpt, Stored drive m gpt → i < entryCount gpt →
    ∃ gpt', Stored drive m' gpt' ∧ i < entryCount gpt' ∧ SameEntry i gpt gpt'

/-- A boot finds the disk as it was left but for the entry's surroundings, and knows the drive. -/
structure Allowed (image : D → Mem) (drive : GptData) (i : Nat) (d : D) (b : D × KernelCall) : Prop where
  untouched : LeavesEntry drive i (image d) (image b.1)
  drive : SameDrive drive (gptFor b.2.gpt b.2.params.clear)

variable (disk) in
def bootStep (_ : D) (b : D × KernelCall) : D := (b.2.load crypto disk b.1).2.disk

variable (disk) in
def bootEvent (i : Nat) (_ : D) (b : D × KernelCall) : Option Unit :=
  if b.2.Boots crypto disk b.1 i then some () else none

/-- A boot that comes as far as the table: the search from the table that is on the disk to the
table that is written. -/
structure Searched (disk : Disk D S) (image : D → Mem) (drive : GptData) (b : KernelCall) (d : D)
    (table : GptData) (c : KernelChecks) (start k : KernelSearch D) : Prop where
  first : start.gpt = table
  fresh : start.good = none
  derived : Derived (image d) drive table k.gpt
  loop : k = kernelLoop crypto disk c b.override start
  counts : b.CountsTries → c.nofailBoot = false
  stored : Stored drive (image (b.load crypto disk d).2.disk) { k.gpt with modified := unmodified }
  good : (b.load crypto disk d).1 = vbErrorSuccess → k.good ≠ none
  number : (b.load crypto disk d).2.params.partitionNumber = k.params.partitionNumber

section
variable {gpt : GptData} {i : Nat} {d : D} {b : KernelCall}

theorem boot_cases (hd : Gpt.Faithful disk image drive.gptDriveSectors.toNat)
    (h : Stored drive (image d) gpt) (hs : SameDrive drive (gptFor b.gpt b.params.clear)) :
    ((b.load crypto disk d).1 ≠ vbErrorSuccess ∧ (b.load crypto disk d).2.disk = d) ∨
    ∃ table c start k, SameTable gpt table ∧ entryCount table = entryCount gpt ∧
      Searched crypto disk image drive b d table c start k := by
  obtain ⟨table, d', hread, himage, hheld, htable, hcount⟩ := h.read hd hs
  refine (loadKernel_searched crypto disk b.override b.cparams (s := b.state d) hread).imp id ?_
  intro ⟨subkey, k, hk, hdisk, hgood, hnumber⟩
  have hsearch : Searching image (image d) drive table k := by
    rw [hk]
    exact kernelLoop_invariant crypto disk _ b.override
      (fun _ ha => ha.kernelStep crypto _ b.override hd) ⟨himage, .start hheld⟩
  refine ⟨table, (b.state d).checks subkey, (b.state d).search table d', k, htable, hcount, rfl, rfl,
    hsearch.derived, hk, fun hc => hc.checks d subkey, ?_, hgood, hnumber⟩
  have hheld' := hsearch.derived.held
  rw [← hsearch.image] at hheld'
  rw [KernelCall.load, hdisk]
  exact Stored.written hd hheld'

theorem Searched.inside {table : GptData} {c : KernelChecks} {start k : KernelSearch D}
    (h : Searched crypto disk image drive b d table c start k)
    (hcount : entryCount table = entryCount gpt) (hi : i < entryCount gpt) : i < entryCount k.gpt := by
  have hcount' : entryCount k.gpt = entryCount table := congrArg UInt32.toNat h.derived.parts.count
  rw [hcount', hcount]
  exact hi

end

def HoldsEntry (image : D → Mem) (drive : GptData) (i : Nat) (P : GptData → Prop) (d : D) : Prop :=
  ∃ gpt, Stored drive (image d) gpt ∧ i < entryCount gpt ∧ P gpt

theorem HoldsEntry.untouched {i : Nat} {P : GptData → Prop} {b : D × KernelCall}
    (h : HoldsEntry image drive i P d) (ha : Allowed image drive i d b)
    (hP : ∀ gpt gpt', SameEntry i gpt gpt' → P gpt → P gpt') : HoldsEntry image drive i P b.1 := by
  obtain ⟨gpt, hs, hi, hp⟩ := h
  obtain ⟨gpt', hs', hi', he⟩ := ha.untouched gpt hs hi
  exact ⟨gpt', hs', hi', hP gpt gpt' he hp⟩

/-- An entry that has not booted before, with its tries. -/
def Untried (i n : Nat) (gpt : GptData) : Prop := ¬ Proven gpt i ∧ triesOf gpt i = n

theorem Untried.congr {i n : Nat} (gpt gpt' : GptData) (he : SameEntry i gpt gpt')
    (h : Untried i n gpt) : Untried i n gpt' := by
  obtain ⟨ht, hp⟩ := triesOf_congr he.att
  exact ⟨fun h' => h.1 (hp.mp h'), ht.trans h.2⟩

/-- An eligible entry that has booted before. -/
def Settled (i : Nat) (gpt : GptData) : Prop :=
  Proven gpt i ∧ isKernelEntry (entryAt gpt.primaryEntries i) = true ∧ 0 < priorityOf gpt i

section
variable {i n : Nat} {gpt gpt' : GptData}

theorem Settled.congr (h : Settled i gpt)
    (ha : gptAtt (entryAt gpt'.primaryEntries i) = gptAtt (entryAt gpt.primaryEntries i))
    (hk : isKernelEntry (entryAt gpt'.primaryEntries i) = isKernelEntry (entryAt gpt.primaryEntries i)) :
    Settled i gpt' := by
  refine ⟨(triesOf_congr ha).2.mpr h.1, hk.trans h.2.1, ?_⟩
  rw [priorityOf, ha]
  exact h.2.2

theorem Settled.same (gpt gpt' : GptData) (he : SameEntry i gpt gpt') (h : Settled i gpt) : Settled i gpt' :=
  h.congr he.att he.kernel

theorem Settled.derived {m : Mem} (h : Settled i gpt) (hd : Derived m drive gpt gpt') : Settled i gpt' :=
  h.congr ((hd.wears i).proven h.1) (hd.parts.kernel i)

theorem Settled.eligible (h : Settled i gpt) (hi : i < entryCount gpt) : Eligible gpt i := by
  have hproven : getEntrySuccessful (entryAt gpt.primaryEntries i) ≠ 0 := h.1
  refine ⟨hi, ?_, h.2.2⟩
  simp [isCandidate, h.2.1, hproven]

variable {d : D} {b : KernelCall} (hd : Gpt.Faithful disk image drive.gptDriveSectors.toNat)
  (hs : SameDrive drive (gptFor b.gpt b.params.clear))
include hd hs

theorem boot_tries (h : HoldsEntry image drive i (Untried i n) d) (hc : b.CountsTries) :
    ∃ n', HoldsEntry image drive i (Untried i n') (b.load crypto disk d).2.disk ∧
      n' + (if b.Boots crypto disk d i then 1 else 0) ≤ n := by
  have ⟨gpt, hstored, hi, hu⟩ := h
  rcases boot_cases crypto hd hstored hs with hfail | ⟨table, c, start, k, htable, hcount, hb⟩
  · refine ⟨n, ?_, ?_⟩
    · rw [hfail.2]
      exact h
    · rw [if_neg fun hb : b.Boots crypto disk d i => hfail.1 hb.1]
      exact Nat.le_refl _
  · obtain ⟨hp, rfl⟩ := hu.congr _ _ (hstored.sameEntry htable hi)
    have hloop : Spending i (triesOf table i) k := by
      have hstart := Spending.start (i := i) hb.fresh
      rw [hb.first] at hstart
      rw [hb.loop]
      exact kernelLoop_invariant crypto disk c b.override (fun a ha => ha.kernelStep crypto c b.override
        (hb.counts hc) (hi.trans (UInt32.toNat_lt _))) (hstart hp)
    refine ⟨triesOf k.gpt i, ⟨_, hb.stored, hb.inside crypto hcount hi, hloop.unproven, rfl⟩, ?_⟩
    refine le_trans (Nat.add_le_add_left ?_ _) hloop.budget
    split_ifs with hboots
    · rw [KernelSearch.boots, if_pos ⟨hb.good hboots.1, hb.number.symm.trans hboots.2⟩]
    · exact Nat.zero_le _

theorem boot_settled (h : HoldsEntry image drive i (Settled i) d) :
    HoldsEntry image drive i (Settled i) (b.load crypto disk d).2.disk := by
  have ⟨gpt, hstored, hi, hsettled⟩ := h
  rcases boot_cases crypto hd hstored hs with hfail | ⟨table, c, start, k, htable, hcount, hb⟩
  · rw [hfail.2]
    exact h
  · have htable' := hsettled.same _ _ (hstored.sameEntry htable hi)
    have hk := htable'.derived hb.derived
    exact ⟨_, hb.stored, hb.inside crypto hcount hi, hk⟩

theorem boot_not_selects (h : HoldsEntry image drive i (Untried i 0) d) : ¬ b.Selects crypto disk d i := by
  intro ⟨s, hreaches, hsel⟩
  obtain ⟨gpt, hstored, hi, hu⟩ := h
  obtain ⟨table, d', hread, himage, hheld, htable, -⟩ := hstored.read hd hs
  obtain ⟨hp, hzero⟩ := hu.congr _ _ (hstored.sameEntry htable hi)
  obtain ⟨hn, hle⟩ := ((hreaches.derived crypto hd hread himage hheld).wears i).unproven hp
  have hpos := (triesOf_pos (gptNextKernelEntry_current hsel) hn).2
  omega

theorem boot_eligible (h : HoldsEntry image drive i (Settled i) d) :
    ∃ table gpt' d', readGpt disk (gptFor b.gpt b.params.clear) d = (some table, gpt', d') ∧
      Eligible table i ∧ ∀ s, b.Reaches crypto disk d s → Eligible s.gpt i := by
  obtain ⟨gpt, hstored, hi, hsettled⟩ := h
  obtain ⟨table, d', hread, himage, hheld, htable, hcount⟩ := hstored.read hd hs
  have htable' := hsettled.same _ _ (hstored.sameEntry htable hi)
  have hi' := hi.trans_eq hcount.symm
  refine ⟨table, table, d', hread, htable'.eligible hi', fun s hreaches => ?_⟩
  have hderived := hreaches.derived crypto hd hread himage hheld
  refine (htable'.derived hderived).eligible ?_
  rw [entryCount, hderived.parts.count]
  exact hi'

end

end

/-- A disk of 100 sectors whose partitions all hold the given kernel. -/
def kernelDisk (kernel : Mem) : Disk Mem Unit :=
  { imageDisk 100 with
    streamOpen := fun _ _ m => (0, (), m)
    streamRead := fun _ _ m => (0, kernel, m) }

theorem kernelDisk_faithful (kernel : Mem) : Gpt.Faithful (kernelDisk kernel) id 100 :=
  ⟨(imageDisk_faithful 100).read, (imageDisk_faithful 100).write, (imageDisk_faithful 100).read_keeps,
    fun _ _ _ => rfl, fun _ _ _ => rfl, fun _ _ => rfl⟩

/-- A boot from the disk, with what was in memory before. -/
def sampleCall (gpt : GptData) : KernelCall where
  cparams := sampleCommon
  override := fun _ => 0
  gpt := gpt
  params := (sampleKernelState 0x10001).params
  shared := (sampleKernelState 0x10001).shared
  vnc := (sampleKernelState 0x10001).vnc
  ram := (sampleKernelState 0x10001).ram

def triedTable : GptData :=
  { gptModified { sampleTable with primaryEntries := setGptAtt sampleEntries 15 0x0011 } with
    modified := unmodified }

variable {gpt : GptData} {m : Mem}

theorem stored_tableImage {drive : GptData} (hf : Fits gpt) (hd : SameDrive drive gpt) :
    Stored drive (tableImage { gpt with modified := unmodified }) { gpt with modified := unmodified } := by
  have hfits : Fits { gpt with modified := unmodified } :=
    hf.congr ⟨rfl, rfl, rfl, rfl⟩ ⟨rfl, rfl, rfl, rfl⟩
  exact ⟨⟨hfits, hd.trans ⟨rfl, rfl, rfl, rfl⟩, onDisk_tableImage hfits⟩, rfl⟩

theorem triedTable_stored : Stored sampleTable (tableImage triedTable) triedTable := by
  obtain ⟨hf, hd, -⟩ := gptModified_fits sampleTable_fits
    (fun j => entryFields_setGptAtt sampleEntries 15 j 0x0011)
  exact stored_tableImage hf hd

theorem triedTable_att : gptAtt (entryAt triedTable.primaryEntries 15) = 0x0011 := by
  rw [triedTable, gptModified_entries, gptAtt_setGptAtt]

theorem triedTable_count : entryCount triedTable = 16 := by
  have hcount := (gptModified_frame
    { sampleTable with primaryEntries := setGptAtt sampleEntries 15 0x0011 }).1.count
  have h16 : (fields sampleTable.primaryHeader).numberOfEntries = 16 := by decide
  rw [triedTable, entryCount, hcount, h16]
  rfl

theorem sampleCall_drive (h : SameDrive sampleTable gpt) :
    SameDrive sampleTable (gptFor (sampleCall gpt).gpt (sampleCall gpt).params.clear) := by
  have hfor := gptFor_sample h.sectorBytes h.streaming h.drive h.flags
  rw [sampleCall, hfor]
  exact h

theorem sampleCall_counts (gpt : GptData) : (sampleCall gpt).CountsTries := by
  change (sampleKernelState 0x10001).shared.flags &&& vbsdNofailBoot = 0
  decide

theorem leavesEntry_refl (drive : GptData) (i : Nat) (m : Mem) : LeavesEntry drive i m m :=
  fun gpt hs hi => ⟨gpt, hs, hi, rfl⟩

/-- An external table with 17 entries, of which the last does not fit into whole sectors. -/
def tailBase : GptData :=
  { sampleTable with primaryHeader := sealHeader ((sampleHeader 0 1 99 2).store 80 (leBytes32 17)) }

/-- The last of the entries is a kernel. The end of its name is arbitrary. -/
def tailEntries (att : UInt8) (name : List UInt8) : Mem :=
  Mem.store (fun _ => 0) 2048 (chromeosKernelGuid ++ List.replicate 16 1 ++ leBytes64 10 ++
    leBytes64 20 ++ List.replicate 6 0 ++ [att, 0] ++ List.replicate 68 0 ++ name)

/-- The kernel may be tried once. -/
def tailTable : GptData :=
  (gptModified { tailBase with primaryEntries := tailEntries 0x11 [0, 0, 0, 0] }).initialised

/-- An old entry, in memory, that happens to have the checksum of the entry after its last try. -/
def staleTable : GptData :=
  (gptModified { tailTable with primaryEntries := tailEntries 0x11 [28, 173, 82, 207] }).initialised

/-- A disk with a table of 17 entries. -/
def tailImage (gpt : GptData) : Mem :=
  Mem.store (Mem.store (Mem.store (Mem.store (fun _ => 0) 512 (gpt.primaryHeader.load 0 512))
    1024 (gpt.primaryEntries.load 0 2176)) 48128 (gpt.primaryEntries.load 0 2176))
    50688 (gpt.secondaryHeader.load 0 512)

section
variable {kernel m : Mem} {gpt : GptData}

theorem kernelDisk_read {lba count : UInt64} (h : lba.toNat + count.toNat ≤ 100) :
    (kernelDisk kernel).read lba count m = (0, fun x => m (512 * lba.toNat + x), m) :=
  if_pos h

theorem kernelDisk_store {lba n : Nat} {buffer : Mem} (h : m.load (512 * lba) n = buffer.load 0 n) :
    buffer.store 0 (Mem.load (fun x => m (512 * lba + x)) 0 n) = buffer := by
  have hload : Mem.load (fun x => m (512 * lba + x)) 0 n = buffer.load 0 n := by
    rw [← h]
    exact Mem.load_congr fun i _ => by rw [Nat.zero_add]
  rw [hload, Mem.store_load]

/-- A table with 17 entries that is in memory and, but for the last entry, on the disk. -/
structure Tail (m : Mem) (gpt : GptData) : Prop where
  consistent : Consistent gpt
  drive : SameDrive sampleTable gpt
  count : (fields gpt.primaryHeader).numberOfEntries = 17
  place1 : entriesLba gpt.primaryHeader = 2
  place2 : entriesLba gpt.secondaryHeader = 94
  lies : Lies m gpt unmodified 2 94 99 2048

theorem Tail.places (h : Tail m gpt) : Places gpt 2 94 4 99 := by
  have hcount := toNat_entriesSectors h.drive.sectorBytes (checkHeader_fields h.consistent.header1)
  rw [h.count] at hcount
  refine ⟨h.drive.sectorBytes, ?_, ?_, hcount, h.consistent.same, by omega, by omega, by omega, ?_, ?_⟩
  · rw [h.place1]
    rfl
  · rw [h.place2]
    rfl
  · rw [h.drive.drive]
    rfl
  · rw [h.drive.drive]
    rfl

theorem Tail.read (h : Tail m gpt) (hi : gpt.initialised = gpt) :
    readGpt (kernelDisk kernel) (gptFor (sampleCall gpt).gpt (sampleCall gpt).params.clear) m =
      (some gpt, gpt, m) := by
  have hfor : gptFor (sampleCall gpt).gpt (sampleCall gpt).params.clear = gpt :=
    gptFor_sample h.drive.sectorBytes h.drive.streaming h.drive.drive h.drive.flags
  have hc := h.consistent
  have h512 := toNat_sectorBytes h.drive.sectorBytes
  have hheader {lba : UInt64} {buffer : Mem} {n : Nat} (hlba : lba.toNat = n) (hle : n + 1 ≤ 100)
      (hm : m.load (512 * n) 512 = buffer.load 0 512) :
      readHeaderSector (kernelDisk kernel) gpt lba buffer m = (buffer, m) := by
    subst hlba
    simp only [readHeaderSector, @kernelDisk_read kernel m lba 1 hle, h512, ne_eq, not_true_eq_false, if_false]
    rw [kernelDisk_store hm]
  have hentries {header buffer : Mem} {n : Nat} (hl : (entriesLba header).toNat = n)
      (hn : (entriesSectors gpt header).toNat = 4) (hle : n + 4 ≤ 100)
      (hm : m.load (512 * n) 2048 = buffer.load 0 2048) :
      readEntries (kernelDisk kernel) gpt true header buffer m = (true, buffer, m) := by
    subst hl
    rw [← hn] at hle
    simp only [readEntries, if_true, kernelDisk_read hle, hn, h512]
    rw [kernelDisk_store hm]
    rfl
  have hl := h.lies
  have hp := h.places
  have hread : allocAndReadGptData (kernelDisk kernel) gpt m = (false, gpt, m) := by
    refine allocAndReadGptData_known
      (hheader rfl (by decide) (hl.header1.resolve_left Bool.false_ne_true))
      (hheader hp.last (by decide) (hl.header2.resolve_left Bool.false_ne_true))
      (hentries hp.first hp.count (by decide) (hl.entries1.resolve_left Bool.false_ne_true))
      (hentries hp.second hp.count2 (by decide) (hl.entries2.resolve_left Bool.false_ne_true)) hc ?_
    rw [← hi]
    rfl
  have hinit := hc.init
  rw [hi] at hinit
  rw [hfor]
  exact readGpt_ok hread hinit

end

theorem crc32_tail {entries : Mem} (h : ∀ x < 2048, entries x = 0) :
    crc32 (entries.load 0 2176) =
      (entries.load 2048 128).foldl crc32Step 236406113 ^^^ 0xFFFFFFFF := by
  have hzero {a n : Nat} (ha : a + n ≤ 2048) : entries.load a n = List.replicate n 0 := by
    refine List.ext_getElem (by simp) fun i h1 h2 => ?_
    have hi : i < n := by simpa using h2
    simp [Mem.load, h (a + i) (by omega)]
  have hblock : (List.replicate 256 (0 : UInt8)).foldl crc32Step 2177146615 = 236406113 := by
    decide +kernel
  have h1 := Mem.load_add entries 0 1792 384
  have h2 := Mem.load_add entries 1792 256 128
  rw [hzero (n := 1792) (by omega)] at h1
  rw [hzero (n := 256) (by omega)] at h2
  rw [crc32, h1, Nat.zero_add, h2, List.foldl_append, List.foldl_append, foldl_zeroes, hblock]

section
variable {Ctx D S : Type} {crypto : Crypto Ctx} {disk : Disk D S}

theorem kernelLoop_stop {c : KernelChecks} {override : Ptr → UInt8} {s : KernelSearch D}
    (h : (kernelStep crypto disk c override s).2 = true) :
    kernelLoop crypto disk c override s = (kernelStep crypto disk c override s).1 := by
  have hstop := repeatUntil_stop (n := s.left) (Prod.ext rfl h :
    kernelStep crypto disk c override s = ((kernelStep crypto disk c override s).1, true))
  exact Option.some.inj ((Option.some_get _).trans hstop)

theorem boot_first {b : KernelCall} {d d' : D} {table gpt' : GptData} {subkey : Ptr} {i : Nat}
    (hbytes : ¬ (b.params.bytesPerLba = 0 ∨ b.params.streamingLbaCount = 0))
    (hsize : ¬ kbufSize / b.params.clear.bytesPerLba = 0)
    (hkey : kernelKey b.cparams b.shared b.params.clear.bootMode = .ok subkey)
    (hread : readGpt disk (gptFor b.gpt b.params.clear) d = (some table, gpt', d'))
    (hcounts : b.CountsTries)
    (hnext : (gptNextKernelEntry b.override table).2.currentKernel = some i)
    (hstop : (kernelStep crypto disk ((b.state d).checks subkey) b.override
      ((b.state d).search table d')).2 = true)
    (hgood : (kernelStep crypto disk ((b.state d).checks subkey) b.override
      ((b.state d).search table d')).1.good ≠ none) :
    b.Boots crypto disk d i ∧ ∃ d'', Streamed disk d' d'' ∧
      (b.load crypto disk d).2.disk = (writeAndFreeGptData disk
        (gptUpdateKernelEntry (gptNextKernelEntry b.override table).2 .try).2 d'').2 := by
  have hload := loadKernel_found crypto disk b.override b.cparams b.gpt (b.state d) hbytes hsize hkey hread
  have hloop := kernelLoop_stop hstop
  obtain ⟨hsuccess, hdisk, -⟩ := kernelFound_spec disk
    (kernelStep crypto disk ((b.state d).checks subkey) b.override ((b.state d).search table d')).1
    { b.state d with params := b.params.clear }
  rw [← hloop] at hdisk hsuccess
  rcases kernelStep_cases crypto disk ((b.state d).checks subkey) b.override
    ((b.state d).search table d') with ⟨gpt', -, he⟩ | ⟨part, gpt', k, hn, hk, he⟩
  · rw [he] at hgood
    exact absurd rfl hgood
  have ht := tryPartition_tried crypto disk ((b.state d).checks subkey) part
    { (b.state d).search table d' with gpt := gpt' }
  rw [← he, ← hloop] at ht
  rw [← hloop] at hgood
  have hn' : gptNextKernelEntry b.override table = (some part, gpt') := hn
  rw [hn'] at hnext ⊢
  cases ht.verdict with
  | bad gpt good number => exact absurd good hgood
  | passed known gpt good number => exact absurd rfl known
  | taken first gpt good number =>
    rw [hcounts.checks d subkey, if_neg Bool.false_ne_true] at gpt
    rw [KernelCall.Boots, KernelCall.load, hload]
    refine ⟨⟨hsuccess.mpr good, ?_⟩, _, ht.disk, ?_⟩
    · refine (kernelFound_number disk _ _).trans (number.trans ?_)
      rw [hnext]
      rfl
    · refine hdisk.trans ?_
      rw [gpt]

end

def sampleSubkey : Ptr := (sampleKernelState 0x10001).shared.kernelSubkeyPtr

theorem Tail.boots (h : Tail m gpt) (hi : gpt.initialised = gpt)
    (hnext : (gptNextKernelEntry (fun _ => 0) gpt).2.currentKernel = some 16)
    (hstop : (kernelStep anyCrypto (kernelDisk (sampleKernel 1 1)) (((sampleCall gpt).state m).checks
      sampleSubkey) (fun _ => 0) (((sampleCall gpt).state m).search gpt m)).2 = true)
    (hgood : (kernelStep anyCrypto (kernelDisk (sampleKernel 1 1)) (((sampleCall gpt).state m).checks
      sampleSubkey) (fun _ => 0) (((sampleCall gpt).state m).search gpt m)).1.good ≠ none) :
    (sampleCall gpt).Boots anyCrypto (kernelDisk (sampleKernel 1 1)) m 16 ∧
    ((sampleCall gpt).load anyCrypto (kernelDisk (sampleKernel 1 1)) m).2.disk =
      (writeAndFreeGptData (kernelDisk (sampleKernel 1 1))
        (gptUpdateKernelEntry (gptNextKernelEntry (fun _ => 0) gpt).2 .try).2 m).2 := by
  have hbytes : ¬ ((sampleKernelState 0x10001).params.bytesPerLba = 0 ∨
      (sampleKernelState 0x10001).params.streamingLbaCount = 0) := by decide
  have hsize : ¬ kbufSize / (sampleKernelState 0x10001).params.clear.bytesPerLba = 0 := by decide
  have hkey : kernelKey sampleCommon (sampleKernelState 0x10001).shared
      (sampleKernelState 0x10001).params.clear.bootMode = .ok sampleSubkey := rfl
  obtain ⟨hboots, d, hd, hdisk⟩ := @boot_first _ _ _ anyCrypto (kernelDisk (sampleKernel 1 1))
    (sampleCall gpt) m m gpt gpt sampleSubkey 16 hbytes hsize hkey (h.read hi) (sampleCall_counts gpt)
    hnext hstop hgood
  have hkeep : d = m := hd.keeps id (fun _ _ _ => rfl) (fun _ _ _ => rfl) fun _ _ => rfl
  rw [hkeep] at hdisk
  exact ⟨hboots, hdisk⟩

/-- A table of 17 entries made from its primary half. -/
structure TailHalf (gpt : GptData) : Prop where
  parameters : checkParameters gpt = none
  header : gpt.Accepts false gpt.primaryHeader
  drive : SameDrive sampleTable gpt
  count : (fields gpt.primaryHeader).numberOfEntries = 17
  size : (fields gpt.primaryHeader).sizeOfEntry = 128
  place : entriesLba gpt.primaryHeader = 2
  entries : EntriesGood gpt.primaryEntries (fields gpt.primaryHeader)

theorem TailHalf.copied (h : TailHalf gpt) :
    (gptModified gpt).secondaryEntries.load 0 2176 = gpt.primaryEntries.load 0 2176 := by
  have hsize : (entriesSize (fields (updatedHeader gpt.primaryHeader gpt.primaryEntries))).toNat =
      2176 := by
    rw [fields_updatedHeader, entriesSize]
    dsimp only
    rw [h.count, h.size]
    decide
  rw [gptModified_eq]
  dsimp only
  rw [hsize]
  exact Mem.load_store _ 0 2176 _ (Mem.length_load _ _ _)

theorem TailHalf.whole (h : TailHalf gpt)
    (hl : Lies m (gptModified gpt).initialised unmodified 2 94 99 2048) :
    Tail m (gptModified gpt).initialised := by
  obtain ⟨hc, hheader, hd⟩ := gptModified_consistent h.parameters h.header h.entries
  have hsectors : calculateEntriesSectors (fields (updatedHeader gpt.primaryHeader gpt.primaryEntries)) =
      5 := by
    rw [fields_updatedHeader, calculateEntriesSectors]
    dsimp only
    rw [h.count, h.size]
    decide
  have hplace2 : entriesLba (gptModified gpt).secondaryHeader = 94 := by
    rw [gptModified_eq]
    dsimp only
    rw [entriesLba_copyHeader, hsectors, h.drive.drive]
    decide
  refine ⟨⟨hc.parameters, hc.header1, hc.header2, hc.same, hc.entries1, hc.entries2⟩,
    (h.drive.trans hd).trans ⟨rfl, rfl, rfl, rfl⟩, ?_, ?_, hplace2, hl⟩
  · change (fields (gptModified gpt).primaryHeader).numberOfEntries = 17
    rw [hheader, fields_updatedHeader]
    exact h.count
  · change entriesLba (gptModified gpt).primaryHeader = 2
    rw [hheader, entriesLba_updatedHeader]
    exact h.place

theorem tailHalf : TailHalf { tailBase with primaryEntries := tailEntries 0x11 [0, 0, 0, 0] } where
  parameters := by decide
  header := checkHeader_sealHeader (by decide) (by decide)
  drive := ⟨rfl, rfl, rfl, rfl⟩
  count := by decide
  size := by decide
  place := by decide
  entries := by decide

theorem initialised_entries (gpt : GptData) :
    (gptModified gpt).initialised.primaryEntries = gpt.primaryEntries := gptModified_entries gpt

theorem TailHalf.tailImage_lies (h : TailHalf gpt) :
    Lies (tailImage (gptModified gpt).initialised) (gptModified gpt).initialised unmodified 2 94 99 2176 := by
  have hcopy : (gptModified gpt).initialised.secondaryEntries.load 0 2176 =
      (gptModified gpt).initialised.primaryEntries.load 0 2176 := by
    rw [initialised_entries]
    exact h.copied
  have hstore (m m' : Mem) (a n : Nat) : (m.store a (m'.load 0 n)).load a n = m'.load 0 n :=
    Mem.load_store m a n _ (Mem.length_load m' 0 n)
  refine ⟨.inr ?_, .inr ?_, .inr ?_, .inr ?_⟩
  all_goals
    simp (disch := simp only [Mem.length_load]; omega) only [tailImage, Nat.reduceMul, hstore, hcopy,
      Mem.load_store_disjoint]

theorem TailHalf.stored (h : TailHalf gpt) :
    Tail (tailImage (gptModified gpt).initialised) (gptModified gpt).initialised := by
  have hl := h.tailImage_lies
  exact h.whole ⟨hl.header1, hl.header2, hl.entries1.imp_right (Mem.load_eq_of_le (by decide)),
    hl.entries2.imp_right (Mem.load_eq_of_le (by decide))⟩

theorem TailHalf.onDisk (h : TailHalf gpt) :
    OnDisk (tailImage (gptModified gpt).initialised) (gptModified gpt).initialised unmodified := by
  have ht := h.stored
  have hp := ht.places
  have hsize := toNat_entriesSize (checkHeader_fields ht.consistent.header1)
  rw [ht.count] at hsize
  rw [onDisk_iff, hp.first, hp.second, hp.last, hsize]
  exact h.tailImage_lies

theorem initialised_idem (gpt : GptData) : gpt.initialised.initialised = gpt.initialised := rfl

theorem tail_first : Tail (tailImage tailTable) tailTable := tailHalf.stored

/-- What the boot writes. -/
def spentTable : GptData :=
  gptModified { (gptNextKernelEntry (fun _ => 0) tailTable).2 with
    primaryEntries := setGptAtt tailTable.primaryEntries 16 0 }

/-- The disk after the only try. -/
def spentDisk : Mem :=
  (writeAndFreeGptData (kernelDisk (sampleKernel 1 1)) spentTable (tailImage tailTable)).2

set_option maxRecDepth 4000 in
theorem tail_boots :
    (sampleCall tailTable).Boots anyCrypto (kernelDisk (sampleKernel 1 1)) (tailImage tailTable) 16 ∧
    ((sampleCall tailTable).load anyCrypto (kernelDisk (sampleKernel 1 1)) (tailImage tailTable)).2.disk =
      spentDisk := by
  have hnext : (gptNextKernelEntry (fun _ => 0) tailTable).2.currentKernel = some 16 := by
    decide
  have hspent : (gptUpdateKernelEntry (gptNextKernelEntry (fun _ => 0) tailTable).2 .try).2 =
      spentTable := by
    have hkernel : isKernelEntry (entryAt (gptNextKernelEntry (fun _ => 0) tailTable).2.primaryEntries
        16) = true := by decide
    have hatt : updatedAtt (entryAt (gptNextKernelEntry (fun _ => 0) tailTable).2.primaryEntries 16)
        .try = some 0 := by decide
    rw [gptUpdateKernelEntry, hnext]
    dsimp only [gptUpdateKernelWithEntry]
    rw [hkernel, if_neg (by decide), hatt, gptNextKernelEntry_entries]
    rfl
  obtain ⟨hboots, hdisk⟩ := tail_first.boots (initialised_idem _) hnext (by decide)
    (by decide)
  rw [hspent] at hdisk
  exact ⟨hboots, hdisk⟩

theorem Tail.written (h : Tail m gpt.initialised) (hall : gpt.modified = ⟨true, true, true, true⟩)
    (hnormal : (fields gpt.primaryHeader).signature ≠ gptHeaderSignature2) (kernel m' : Mem) :
    Lies (writeAndFreeGptData (kernelDisk kernel) gpt m').2 gpt unmodified 2 94 99 2048 := by
  have hp := h.places
  have hplaces : Places gpt 2 94 4 99 := ⟨hp.bytes, hp.first, hp.second, hp.count, hp.same, hp.start,
    hp.apart, hp.before, hp.drive, hp.last⟩
  have hd : Gpt.Faithful (kernelDisk kernel) id gpt.gptDriveSectors.toNat := by
    rw [hplaces.drive]
    exact kernelDisk_faithful kernel
  refine (writeAndFreeGptData_lies hd hplaces hnormal ?_).2
  rw [hall]
  exact ⟨.inl rfl, .inl rfl, .inl rfl, .inl rfl⟩

theorem gptModified_headers {entries : Mem}
    (hcrc : crc32 (entries.load 0 (entriesSize (fields gpt.primaryHeader)).toNat) =
      crc32 (gpt.primaryEntries.load 0 (entriesSize (fields gpt.primaryHeader)).toNat)) :
    (gptModified { gpt with primaryEntries := entries }).primaryHeader = (gptModified gpt).primaryHeader ∧
    (gptModified { gpt with primaryEntries := entries }).secondaryHeader =
      (gptModified gpt).secondaryHeader := by
  have hheader : updatedHeader gpt.primaryHeader entries =
      updatedHeader gpt.primaryHeader gpt.primaryEntries := by
    rw [updatedHeader, updatedHeader, hcrc]
  rw [gptModified_eq, gptModified_eq]
  dsimp only
  rw [hheader]
  exact ⟨rfl, rfl⟩

theorem Tail.half (h : Tail m gpt) {entries : Mem} (hsize : (fields gpt.primaryHeader).sizeOfEntry = 128)
    (hentries : EntriesGood entries (fields gpt.primaryHeader)) :
    TailHalf { gpt with primaryEntries := entries } :=
  ⟨h.consistent.parameters, h.consistent.header1, h.drive.trans ⟨rfl, rfl, rfl, rfl⟩, h.count, hsize,
    h.place1, hentries⟩

theorem tailTable_size : (fields tailTable.primaryHeader).sizeOfEntry = 128 := by decide

theorem staleHalf :
    TailHalf { tailTable with primaryEntries := tailEntries 0x11 [28, 173, 82, 207] } :=
  tail_first.half tailTable_size (by decide)

theorem spentHalf : TailHalf { tailTable with primaryEntries := setGptAtt tailTable.primaryEntries 16 0 } :=
  tail_first.half tailTable_size (by decide)

theorem spent_crc :
    crc32 ((tailEntries 0x11 [28, 173, 82, 207]).load 0 2176) =
      crc32 ((setGptAtt tailTable.primaryEntries 16 0).load 0 2176) := by
  have hzero {att : UInt8} {name : List UInt8} {x : Nat} (hx : x < 2048) : tailEntries att name x = 0 :=
    Mem.store_of_lt _ _ _ _ hx
  have hspent {x : Nat} (hx : x < 2048) : setGptAtt (tailEntries 0x11 [0, 0, 0, 0]) 16 0 x = 0 :=
    (Mem.store_of_lt _ _ _ _ (by omega)).trans (hzero hx)
  rw [tailTable, initialised_entries, crc32_tail fun x hx => hzero hx, crc32_tail fun x hx => hspent hx]
  decide +kernel

theorem gptNextKernelEntry_modified (override : Ptr → UInt8) (gpt : GptData) (entries : Mem) :
    (gptModified { (gptNextKernelEntry override gpt).2 with primaryEntries := entries }).initialised =
      (gptModified { gpt with primaryEntries := entries }).initialised := by
  obtain ⟨kernel, priority, he⟩ := gptNextKernelEntry_cursor override gpt
  rw [he, gptModified_eq, gptModified_eq]
  rfl

theorem spentTable_initialised : spentTable.initialised =
    (gptModified { tailTable with primaryEntries := setGptAtt tailTable.primaryEntries 16 0 }).initialised :=
  gptNextKernelEntry_modified _ _ _

theorem TailHalf.stale {spent : GptData} {old new : Mem}
    (hspent : spent.initialised = (gptModified { gpt with primaryEntries := new }).initialised)
    (hnew : TailHalf { gpt with primaryEntries := new })
    (hold : TailHalf { gpt with primaryEntries := old })
    (hcrc : crc32 (old.load 0 2176) = crc32 (new.load 0 2176)) (hload : old.load 0 2048 = new.load 0 2048)
    (hall : spent.modified = ⟨true, true, true, true⟩)
    (hnormal : (fields spent.primaryHeader).signature ≠ gptHeaderSignature2) (kernel m : Mem) :
    Tail (writeAndFreeGptData (kernelDisk kernel) spent m).2
      (gptModified { gpt with primaryEntries := old }).initialised := by
  have htail := hnew.stored
  rw [← hspent] at htail
  have hl := htail.written hall hnormal kernel m
  have hsize : (entriesSize (fields gpt.primaryHeader)).toNat = 2176 := by
    have hcount : (fields gpt.primaryHeader).numberOfEntries = 17 := hnew.count
    have hbytes : (fields gpt.primaryHeader).sizeOfEntry = 128 := hnew.size
    rw [entriesSize, hcount, hbytes]
    decide
  obtain ⟨hheader1, hheader2⟩ := @gptModified_headers { gpt with primaryEntries := new } old (by
    dsimp only
    rw [hsize]
    exact hcrc)
  have hl' : Lies (writeAndFreeGptData (kernelDisk kernel) spent m).2 spent.initialised unmodified 2 94 99
      2048 := ⟨hl.header1, hl.header2, hl.entries1, hl.entries2⟩
  rw [hspent] at hl'
  refine hold.whole ⟨?_, ?_, hl'.entries1.imp_right fun he => ?_, hl'.entries2.imp_right fun he => ?_⟩
  · change _ ∨ _ = Mem.load (gptModified _).primaryHeader 0 512
    rw [hheader1]
    exact hl'.header1
  · change _ ∨ _ = Mem.load (gptModified _).secondaryHeader 0 512
    rw [hheader2]
    exact hl'.header2
  · rw [initialised_entries] at he ⊢
    exact he.trans hload.symm
  · exact (he.trans (Mem.load_eq_of_le (by decide) hnew.copied)).trans
      (hload.symm.trans (Mem.load_eq_of_le (by decide) hold.copied.symm))

theorem tail_second : Tail spentDisk staleTable := by
  refine TailHalf.stale spentTable_initialised spentHalf staleHalf spent_crc ?_ ?_ ?_ _ _
  · decide +kernel
  · rw [spentTable, gptModified_eq]
  · decide +kernel

set_option maxRecDepth 4000 in
theorem stale_boots :
    (sampleCall staleTable).Boots anyCrypto (kernelDisk (sampleKernel 1 1)) spentDisk 16 := by
  have hnext : (gptNextKernelEntry (fun _ => 0) staleTable).2.currentKernel = some 16 := by
    decide
  exact (tail_second.boots (initialised_idem _) hnext (by decide) (by decide)).1

theorem log_twice {Ctx D S : Type} {crypto : Crypto Ctx} {disk : Disk D S} {d d' : D} {b b' : KernelCall}
    {i : Nat} (h : b.Boots crypto disk d i) (hd : (b.load crypto disk d).2.disk = d')
    (h' : b'.Boots crypto disk d' i) :
    (log (bootStep crypto disk) (bootEvent crypto disk i) d
      [(d, b), (bootStep crypto disk d (d, b), b')]).length = 2 := by
  have hstep : bootStep crypto disk d (d, b) = d' := hd
  have hfirst : bootEvent crypto disk i d (d, b) = some () := if_pos h
  have hsecond : bootEvent crypto disk i d' (d', b') = some () := if_pos h'
  rw [log, hfirst, log, hstep, hsecond]
  rfl

end Vboot
