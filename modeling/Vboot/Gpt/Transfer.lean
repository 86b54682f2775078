import Vboot.Gpt.Scan

/-! The table between disk and memory: what GptInit and the updates of kernel entries leave in
memory is what the next boot reads from the disk. -/
namespace Vboot.Gpt
open Vboot.Lib

section
variable {D S : Type}

/-- The disk has the given number of sectors and the contents image. What lies inside can be
read and written, and only writes change anything. -/
structure Faithful (disk : Disk D S) (image : D → Mem) (sectors : Nat) : Prop where
  read : ∀ lba count d, lba.toNat + count.toNat ≤ sectors →
    (disk.read lba count d).1 = 0 ∧
    (disk.read lba count d).2.1.load 0 (512 * count.toNat) =
      (image d).load (512 * lba.toNat) (512 * count.toNat)
  write : ∀ lba count data d, lba.toNat + count.toNat ≤ sectors →
    data.length = 512 * count.toNat →
    (disk.write lba count data d).1 = 0 ∧
    image (disk.write lba count data d).2 = (image d).store (512 * lba.toNat) data
  read_keeps : ∀ lba count d, image (disk.read lba count d).2.2 = image d
  streamOpen_keeps : ∀ start count d, image (disk.streamOpen start count d).2.2 = image d
  streamRead_keeps : ∀ stream count d, image (disk.streamRead stream count d).2.2 = image d
  streamClose_keeps : ∀ stream d, image (disk.streamClose stream d) = image d

variable {disk : Disk D S} {image : D → Mem} {sectors : Nat}

theorem writeAll_faithful (hd : Faithful disk image sectors)
    (ws : List (UInt64 × UInt64 × List UInt8))
    (hw : ∀ w ∈ ws, w.1.toNat + w.2.1.toNat ≤ sectors ∧ w.2.2.length = 512 * w.2.1.toNat) (d : D) :
    (writeAll disk ws d).1 = false ∧
    image (writeAll disk ws d).2 = (image d).stores (ws.map fun w => (512 * w.1.toNat, w.2.2)) := by
  induction ws generalizing d with
  | nil => exact ⟨rfl, rfl⟩
  | cons w ws ih =>
    obtain ⟨hin, hlen⟩ := hw w List.mem_cons_self
    obtain ⟨hok, himage⟩ := hd.write w.1 w.2.1 w.2.2 d hin hlen
    have hrest := ih (fun v hv => hw v (List.mem_cons_of_mem w hv)) (disk.write w.1 w.2.1 w.2.2 d).2
    have hstep : writeAll disk (w :: ws) d = writeAll disk ws (disk.write w.1 w.2.1 w.2.2 d).2 :=
      if_neg (not_not.mpr hok)
    rw [hstep]
    refine ⟨hrest.1, hrest.2.trans ?_⟩
    rw [himage]
    rfl

variable {gpt : GptData}

theorem toNat_sectorBytes (h : gpt.sectorBytes = 512) : gpt.sectorBytes.toNat = 512 := by
  rw [h]
  rfl

section
variable {gpt : GptData} {lba : UInt64} (buffer : Mem) (d : D)

variable (hd : Faithful disk image sectors)
include hd

theorem readHeaderSector_faithful (hs : gpt.sectorBytes = 512)
    (hin : lba.toNat + 1 ≤ sectors) :
    (readHeaderSector disk gpt lba buffer d).1.load 0 512 = (image d).load (512 * lba.toNat) 512 ∧
    image (readHeaderSector disk gpt lba buffer d).2 = image d := by
  obtain ⟨hok, hdata⟩ := hd.read lba 1 d hin
  have h512 := toNat_sectorBytes hs
  refine ⟨?_, hd.read_keeps lba 1 d⟩
  simp only [readHeaderSector, hok, h512, ne_eq, not_true_eq_false, if_false]
  rw [Mem.load_store _ _ _ _ (Mem.length_load _ _ _)]
  exact hdata

theorem readEntries_faithful (hs : gpt.sectorBytes = 512)
    {header : Mem} (hin : (entriesLba header).toNat + (entriesSectors gpt header).toNat ≤ sectors) :
    (readEntries disk gpt true header buffer d).1 = true ∧
    (readEntries disk gpt true header buffer d).2.1.load 0 (512 * (entriesSectors gpt header).toNat) =
      (image d).load (512 * (entriesLba header).toNat) (512 * (entriesSectors gpt header).toNat) := by
  obtain ⟨hok, hdata⟩ := hd.read _ _ d hin
  have h512 := toNat_sectorBytes hs
  simp only [readEntries, if_true, hok, h512]
  refine ⟨rfl, ?_⟩
  rw [Nat.mul_comm _ 512, Mem.load_store _ _ _ _ (Mem.length_load _ _ _)]
  exact hdata

theorem readEntries_keeps (valid : Bool) (header : Mem) :
    image (readEntries disk gpt valid header buffer d).2.2 = image d := by
  cases valid with
  | false => rfl
  | true => exact hd.read_keeps _ _ d

end

/-- The entries of a valid header were read, if they lie on the drive. -/
def EntriesFrom (m : Mem) (gpt : GptData) (isSecondary : Bool) (header entries : Mem) : Prop :=
  gpt.Accepts isSecondary header → ∀ {e k : Nat}, (entriesLba header).toNat = e →
    (entriesSectors gpt header).toNat = k → e + k ≤ gpt.gptDriveSectors.toNat →
    entries.load 0 (512 * k) = m.load (512 * e) (512 * k)

/-- What a reading of the table has found. -/
structure ReadFrom (m : Mem) (gpt : GptData) : Prop where
  header1 : gpt.primaryHeader.load 0 512 = m.load 512 512
  header2 : gpt.secondaryHeader.load 0 512 =
    m.load (512 * (gpt.gptDriveSectors - 1).toNat) 512
  entries1 : EntriesFrom m gpt false gpt.primaryHeader gpt.primaryEntries
  entries2 : EntriesFrom m gpt true gpt.secondaryHeader gpt.secondaryEntries

structure SameDrive (gpt gpt' : GptData) : Prop where
  sectorBytes : gpt'.sectorBytes = gpt.sectorBytes
  streaming : gpt'.streamingDriveSectors = gpt.streamingDriveSectors
  drive : gpt'.gptDriveSectors = gpt.gptDriveSectors
  flags : gpt'.flags = gpt.flags

variable {gpt gpt' : GptData}

theorem SameDrive.symm (h : SameDrive gpt gpt') : SameDrive gpt' gpt :=
  ⟨h.sectorBytes.symm, h.streaming.symm, h.drive.symm, h.flags.symm⟩

theorem SameDrive.trans {gpt'' : GptData} (h : SameDrive gpt gpt') (h' : SameDrive gpt' gpt'') :
    SameDrive gpt gpt'' :=
  ⟨h'.sectorBytes.trans h.sectorBytes, h'.streaming.trans h.streaming, h'.drive.trans h.drive,
    h'.flags.trans h.flags⟩

theorem Faithful.on (hd : Faithful disk image gpt.gptDriveSectors.toNat) (h : SameDrive gpt gpt') :
    Faithful disk image gpt'.gptDriveSectors.toNat := by
  rw [h.drive]
  exact hd

variable {isSecondary : Bool}

theorem SameDrive.accepts (h : SameDrive gpt gpt') {header : Mem} :
    gpt'.Accepts isSecondary header ↔ gpt.Accepts isSecondary header := by
  rw [GptData.Accepts, h.streaming, h.drive, h.flags]

theorem SameDrive.checkParameters (h : SameDrive gpt gpt') :
    checkParameters gpt' = checkParameters gpt := by
  rw [Gpt.checkParameters, Gpt.checkParameters, h.sectorBytes, h.drive, h.flags, h.streaming]

/-- One header and its entries. -/
def readHalf (disk : Disk D S) (gpt : GptData) (isSecondary : Bool) (lba : UInt64)
    (buffer buffer' : Mem) (d : D) : Mem × Bool × Mem × D :=
  let r := readHeaderSector disk gpt lba buffer d
  (r.1, readEntries disk gpt (checkHeader r.1 isSecondary gpt.streamingDriveSectors
    gpt.gptDriveSectors gpt.flags) r.1 buffer' r.2)

theorem readHalf_faithful {lba : UInt64}
    (hd : Faithful disk image sectors) (hs : gpt.sectorBytes = 512) (hin : lba.toNat + 1 ≤ sectors)
    (buffer buffer' : Mem) (d : D) :
    let r := readHalf disk gpt isSecondary lba buffer buffer' d
    r.1.load 0 512 = (image d).load (512 * lba.toNat) 512 ∧
    (gpt.Accepts isSecondary r.1 → (entriesLba r.1).toNat + (entriesSectors gpt r.1).toNat ≤ sectors →
      r.2.1 = true ∧ r.2.2.1.load 0 (512 * (entriesSectors gpt r.1).toNat) =
        (image d).load (512 * (entriesLba r.1).toNat) (512 * (entriesSectors gpt r.1).toNat)) ∧
    image r.2.2.2 = image d := by
  intro r
  obtain ⟨hload, hkeep⟩ := readHeaderSector_faithful buffer d hd hs hin
  refine ⟨hload, fun hc hle => ?_, ?_⟩
  · have hr : r.2 = readEntries disk gpt true r.1 buffer' (readHeaderSector disk gpt lba buffer d).2 :=
      congrArg (readEntries disk gpt · r.1 buffer' _) hc
    rw [← hkeep, hr]
    exact readEntries_faithful buffer' _ hd hs hle
  · exact (readEntries_keeps buffer' _ hd _ _).trans hkeep

theorem toNat_lastSector {n : UInt64} (h : 1 ≤ n.toNat) : (n - 1).toNat + 1 = n.toNat := by
  have h1 : (1 : UInt64).toNat = 1 := rfl
  rw [UInt64.toNat_sub_of_le _ _ (UInt64.le_iff_toNat_le.mpr (by rw [h1]; exact h)), h1]
  omega

theorem allocAndReadGptData_reads
    (hd : Faithful disk image gpt.gptDriveSectors.toNat) (hs : gpt.sectorBytes = 512)
    (hn : 2 ≤ gpt.gptDriveSectors.toNat) (d : D) :
    let r := allocAndReadGptData disk gpt d
    ReadFrom (image d) r.2.1 ∧ SameDrive gpt r.2.1 ∧ image r.2.2 = image d ∧
    (r.2.1.Accepts false r.2.1.primaryHeader →
      (entriesLba r.2.1.primaryHeader).toNat + (entriesSectors r.2.1 r.2.1.primaryHeader).toNat ≤
        r.2.1.gptDriveSectors.toNat → r.1 = false) := by
  intro r
  have hlast := toNat_lastSector (show 1 ≤ gpt.gptDriveSectors.toNat by omega)
  obtain ⟨h1, he1, hk1⟩ := @readHalf_faithful D S disk image _ gpt false 1 hd hs hn
    gpt.primaryHeader gpt.primaryEntries d
  obtain ⟨h2, he2, hk2⟩ := @readHalf_faithful D S disk image _ gpt true (gpt.gptDriveSectors - 1) hd hs
    (by omega) gpt.secondaryHeader gpt.secondaryEntries
    (readHalf disk gpt false 1 gpt.primaryHeader gpt.primaryEntries d).2.2.2
  rw [hk1] at h2 he2 hk2
  refine ⟨⟨h1, h2, ?_, ?_⟩, ⟨rfl, rfl, rfl, rfl⟩, hk2, fun hc hle => ?_⟩
  · rintro hc _ _ rfl rfl hle
    exact (he1 hc hle).2
  · rintro hc _ _ rfl rfl hle
    exact (he2 hc hle).2
  have hfound := (he1 hc hle).1
  change (!((readHalf disk gpt false 1 gpt.primaryHeader gpt.primaryEntries d).2.1 || _)) = false
  rw [hfound]
  rfl

end

variable {streaming drive : UInt64} {isSecondary : Bool}

theorem checkHeader_congr {h h' : Mem}
    {flags : UInt32} (he : h.load 0 512 = h'.load 0 512)
    (hc : checkHeader h' isSecondary streaming drive flags = true) :
    fields h = fields h' ∧ entriesLba h = entriesLba h' ∧
      checkHeader h isSecondary streaming drive flags = true := by
  have hx (x : Nat) (hx : x < 512) : h x = h' x := by simpa using Mem.load_eq_iff.mp he x hx
  have hf : fields h = fields h' := fields_congr fun x hc => hx x (by unfold IsCommon at hc; omega)
  have h64 (a : Nat) (ha : a + 8 ≤ 512) : le64 h a = le64 h' a :=
    le64_congr fun i hi => hx _ (by omega)
  have hmy : myLba h = myLba h' := h64 24 (by omega)
  have hent : entriesLba h = entriesLba h' := h64 72 (by omega)
  have hold : headerCrc32 h = headerCrc32 h' := le32_congr fun i hi => hx _ (by omega)
  have hsize : (fields h').size.toNat ≤ 512 := by
    have hfields := checkHeader_fields hc
    simp only [checkFields, Bool.decide_and, Bool.and_eq_true, decide_eq_true_eq] at hfields
    exact UInt32.le_iff_toNat_le.mp hfields.2.2.2.1
  have hcrc : headerCrc h = headerCrc h' := by
    rw [headerCrc, headerCrc, hf]
    apply congrArg crc32
    apply Mem.load_congr
    intro i hi
    exact Mem.store_congr 16 _ (hx _ (by omega))
  have hplace : checkPlace h isSecondary drive = checkPlace h' isSecondary drive := by
    rw [checkPlace, checkPlace, hmy, hent, hf]
  refine ⟨hf, hent, ?_⟩
  rw [checkHeader, hf, hcrc, hold, hplace]
  exact hc

variable {gpt : GptData} {f : HeaderFields} {entries : Mem}

theorem checkParameters_drive (h : checkParameters gpt = none) :
    gpt.sectorBytes = 512 ∧ 11 ≤ gpt.gptDriveSectors.toNat := by
  unfold checkParameters at h
  split_ifs at h with hs hz hn
  have hmin : (1 + 2 * (1 + minNumberOfEntries / (sectorSize / sizeOfGptEntry))).toUInt64 = 11 := by
    decide
  rw [hmin, UInt64.lt_iff_toNat_lt] at hn
  exact ⟨not_not.mp hs, Nat.not_lt.mp hn⟩

section
variable {f : HeaderFields} {streaming : UInt64} {flags : UInt32}

theorem checkFields_count (hf : checkFields f streaming flags = true) :
    16 ≤ f.numberOfEntries.toNat ∧ f.numberOfEntries.toNat ≤ 128 := by
  simp only [checkFields, Bool.decide_and, Bool.and_eq_true, decide_eq_true_eq] at hf
  exact ⟨UInt32.le_iff_toNat_le.mp hf.2.2.2.2.2.2.1, UInt32.le_iff_toNat_le.mp hf.2.2.2.2.2.2.2.1⟩

theorem toNat_entriesSectors {h : Mem} (hs : gpt.sectorBytes = 512)
    (hf : checkFields (fields h) streaming flags = true) :
    (entriesSectors gpt h).toNat = (fields h).numberOfEntries.toNat / 4 := by
  have h512 : (512 : UInt32).toUInt64.toNat = 512 := rfl
  rw [entriesSectors, hs, UInt64.toNat_div, h512, UInt32.toNat_toUInt64, toNat_entriesSize hf]
  omega

theorem toNat_calculateEntriesSectors (hf : checkFields f streaming flags = true)
    (hw : f.numberOfEntries.toNat % 4 = 0) :
    (calculateEntriesSectors f).toNat = f.numberOfEntries.toNat / 4 := by
  have hn := checkFields_count hf
  have hsize : (f.numberOfEntries * f.sizeOfEntry).toUInt64.toNat = 128 * f.numberOfEntries.toNat := by
    rw [UInt32.mul_comm, UInt32.toNat_toUInt64]
    exact toNat_entriesSize hf
  have h512 : sectorSize.toUInt64.toNat = 512 := rfl
  have h1 : (1 : UInt64).toNat = 1 := rfl
  have hsum : ((f.numberOfEntries * f.sizeOfEntry).toUInt64 + sectorSize.toUInt64).toNat =
      128 * f.numberOfEntries.toNat + 512 := by
    rw [UInt64.toNat_add, hsize, h512]
    omega
  rw [calculateEntriesSectors, UInt64.toNat_div, h512, UInt64.toNat_sub_of_le _ _
    (UInt64.le_iff_toNat_le.mpr (by rw [hsum, h1]; omega)), hsum, h1]
  omega

end

/-- A consistent table that is not a legacy one, whose entries fill whole sectors and whose parts
lie apart on the drive. -/
structure Fits (gpt : GptData) : Prop where
  consistent : Consistent gpt
  normal : (fields gpt.primaryHeader).signature ≠ gptHeaderSignature2
  whole : (fields gpt.primaryHeader).numberOfEntries.toNat % 4 = 0
  room : (entriesLba gpt.primaryHeader).toNat +
    2 * ((fields gpt.primaryHeader).numberOfEntries.toNat / 4) + 1 ≤ gpt.gptDriveSectors.toNat

/-- Where the parts of a table lie: k sectors of entries from e1 and e2 on, before the last sector. -/
structure Places (gpt : GptData) (e1 e2 k last : Nat) : Prop where
  bytes : gpt.sectorBytes = 512
  first : (entriesLba gpt.primaryHeader).toNat = e1
  second : (entriesLba gpt.secondaryHeader).toNat = e2
  count : (entriesSectors gpt gpt.primaryHeader).toNat = k
  same : fields gpt.secondaryHeader = fields gpt.primaryHeader
  start : 2 ≤ e1
  apart : e1 + k ≤ e2
  before : e2 + k ≤ last
  drive : gpt.gptDriveSectors.toNat = last + 1
  last : (gpt.gptDriveSectors - 1).toNat = last

theorem Places.count2 {e1 e2 k last : Nat} (h : Places gpt e1 e2 k last) :
    (entriesSectors gpt gpt.secondaryHeader).toNat = k := by
  rw [← h.count, entriesSectors, entriesSectors, h.same]

theorem Fits.places (h : Fits gpt) : ∃ e1 e2 k last, Places gpt e1 e2 k last ∧
    (entriesSize (fields gpt.primaryHeader)).toNat = 512 * k := by
  have hc := h.consistent
  obtain ⟨hs, hdrive⟩ := checkParameters_drive hc.parameters
  have hf1 := checkHeader_fields hc.header1
  have hroom := h.room
  have hwhole := h.whole
  have hlast := toNat_lastSector (show 1 ≤ gpt.gptDriveSectors.toNat by omega)
  have hsize := toNat_entriesSize hf1
  have hplace1 := checkHeader_place hc.header1
  have hplace2 := checkHeader_place hc.header2
  rw [checkPlace, if_neg Bool.false_ne_true, decide_eq_true_eq] at hplace1
  rw [checkPlace, if_pos rfl, decide_eq_true_eq, hc.same] at hplace2
  have hstart : 2 ≤ (entriesLba gpt.primaryHeader).toNat := by
    have hle := hplace1.2
    rw [hplace1.1, UInt64.le_iff_toNat_le] at hle
    exact hle
  have hk := toNat_calculateEntriesSectors hf1 hwhole
  have h1 : gptHeaderSectors.toNat = 1 := rfl
  have hsecond : (entriesLba gpt.secondaryHeader).toNat +
      (fields gpt.primaryHeader).numberOfEntries.toNat / 4 + 1 = gpt.gptDriveSectors.toNat := by
    have hlast' : (gpt.gptDriveSectors - gptHeaderSectors).toNat + 1 = gpt.gptDriveSectors.toNat := hlast
    rw [hplace2.2, hplace2.1, UInt64.toNat_sub_of_le _ _ (UInt64.le_iff_toNat_le.mpr (by omega)), hk]
    omega
  exact ⟨_, _, _, _, ⟨hs, rfl, rfl, toNat_entriesSectors hs hf1, hc.same, hstart, by omega, by omega,
    by omega, rfl⟩, by omega⟩

/-- The parts of the table that are not marked are on the disk. -/
structure OnDisk (m : Mem) (gpt : GptData) (dirty : Modified) : Prop where
  header1 : dirty.header1 = true ∨ m.load 512 512 = gpt.primaryHeader.load 0 512
  header2 : dirty.header2 = true ∨
    m.load (512 * (gpt.gptDriveSectors - 1).toNat) 512 = gpt.secondaryHeader.load 0 512
  entries1 : dirty.entries1 = true ∨
    m.load (512 * (entriesLba gpt.primaryHeader).toNat)
      (entriesSize (fields gpt.primaryHeader)).toNat =
    gpt.primaryEntries.load 0 (entriesSize (fields gpt.primaryHeader)).toNat
  entries2 : dirty.entries2 = true ∨
    m.load (512 * (entriesLba gpt.secondaryHeader).toNat)
      (entriesSize (fields gpt.primaryHeader)).toNat =
    gpt.secondaryEntries.load 0 (entriesSize (fields gpt.primaryHeader)).toNat

/-- The parts that are not marked are at the given sectors, the entries up to byte n. -/
structure Lies (m : Mem) (gpt : GptData) (dirty : Modified) (e1 e2 last n : Nat) : Prop where
  header1 : dirty.header1 = true ∨ m.load 512 512 = gpt.primaryHeader.load 0 512
  header2 : dirty.header2 = true ∨ m.load (512 * last) 512 = gpt.secondaryHeader.load 0 512
  entries1 : dirty.entries1 = true ∨ m.load (512 * e1) n = gpt.primaryEntries.load 0 n
  entries2 : dirty.entries2 = true ∨ m.load (512 * e2) n = gpt.secondaryEntries.load 0 n

variable {m : Mem}

theorem onDisk_iff {dirty : Modified} : OnDisk m gpt dirty ↔
    Lies m gpt dirty (entriesLba gpt.primaryHeader).toNat (entriesLba gpt.secondaryHeader).toNat
      (gpt.gptDriveSectors - 1).toNat (entriesSize (fields gpt.primaryHeader)).toNat :=
  ⟨fun h => ⟨h.header1, h.header2, h.entries1, h.entries2⟩,
    fun h => ⟨h.header1, h.header2, h.entries1, h.entries2⟩⟩

/-- The four parts of a table as they are written. -/
def parts (gpt : GptData) : List (UInt64 × UInt64 × List UInt8) :=
  let sectors := entriesSectors gpt gpt.primaryHeader
  let bytes := sectors.toNat * gpt.sectorBytes.toNat
  [(1, 1, gpt.primaryHeader.load 0 gpt.sectorBytes.toNat),
    (entriesLba gpt.primaryHeader, sectors, gpt.primaryEntries.load 0 bytes),
    (gpt.gptDriveSectors - 1, 1, gpt.secondaryHeader.load 0 gpt.sectorBytes.toNat),
    (entriesLba gpt.secondaryHeader, sectors, gpt.secondaryEntries.load 0 bytes)]

theorem mem_parts {w : UInt64 × UInt64 × List UInt8} (h : w ∈ pendingWrites gpt) : w ∈ parts gpt := by
  have hite {p : Prop} [Decidable p] {v : UInt64 × UInt64 × List UInt8}
      (hw : w ∈ if p then [v] else []) : w = v := by
    split_ifs at hw
    · exact List.mem_singleton.mp hw
    · cases hw
  simp only [pendingWrites, List.mem_append] at h
  rcases h with ((h | h) | h) | h
  all_goals simp [parts, hite h]

section
variable {e1 e2 k last : Nat} (h : Places gpt e1 e2 k last)
include h

theorem parts_load :
    (parts gpt).map (fun w => (512 * w.1.toNat, w.2.2)) =
      [(512, gpt.primaryHeader.load 0 512), (512 * e1, gpt.primaryEntries.load 0 (512 * k)),
        (512 * last, gpt.secondaryHeader.load 0 512),
        (512 * e2, gpt.secondaryEntries.load 0 (512 * k))] := by
  have h512 := toNat_sectorBytes h.bytes
  have h1 : (1 : UInt64).toNat = 1 := rfl
  simp only [parts, List.map_cons, List.map_nil, h512, h.count, h.first, h.second, h.last, h1,
    Nat.mul_comm k 512, Nat.mul_one]

theorem parts_inside {w : UInt64 × UInt64 × List UInt8} (hw : w ∈ parts gpt) :
    w.1.toNat + w.2.1.toNat ≤ gpt.gptDriveSectors.toNat ∧ w.2.2.length = 512 * w.2.1.toNat := by
  have h512 := toNat_sectorBytes h.bytes
  have h1 : (1 : UInt64).toNat = 1 := rfl
  have hstart := h.start
  have happart := h.apart
  have hbefore := h.before
  simp only [parts, List.mem_cons, List.not_mem_nil, or_false] at hw
  rcases hw with rfl | rfl | rfl | rfl
  all_goals
    simp only [Mem.length_load, h512, h1, h.count, h.first, h.second, h.last, h.drive,
      Nat.mul_comm k 512, and_true]
    omega

theorem stores_parts (m : Mem) {a : Nat} {bs : List UInt8}
    (hq : (a, bs) ∈ (parts gpt).map (fun w => (512 * w.1.toNat, w.2.2)))
    (hload : (a, bs) ∈ (pendingWrites gpt).map (fun w => (512 * w.1.toNat, w.2.2)) ∨
      m.load a bs.length = bs) :
    (m.stores ((pendingWrites gpt).map fun w => (512 * w.1.toNat, w.2.2))).load a bs.length = bs := by
  apply Mem.load_stores m _ hload
  intro v hv
  obtain ⟨w, hw, rfl⟩ := List.mem_map.mp hv
  have hv' := List.mem_map_of_mem (f := fun w => (512 * w.1.toNat, w.2.2)) (mem_parts hw)
  rw [parts_load h] at hq hv'
  have hstart := h.start
  have happart := h.apart
  have hbefore := h.before
  simp only [List.mem_cons, List.not_mem_nil, or_false] at hq hv'
  generalize (512 * w.1.toNat, w.2.2) = v at hv' ⊢
  rcases hv' with rfl | rfl | rfl | rfl <;> rcases hq with he | he | he | he <;> cases he
  all_goals simp only [Mem.length_load, true_or]
  all_goals exact .inr (by omega)

end

section
variable {D S : Type} {disk : Disk D S} {image : D → Mem} {gpt : GptData}

theorem writeAndFreeGptData_lies {d : D} {e1 e2 k last : Nat}
    (hd : Faithful disk image gpt.gptDriveSectors.toNat) (h : Places gpt e1 e2 k last)
    (hnormal : (fields gpt.primaryHeader).signature ≠ gptHeaderSignature2)
    (hp : Lies (image d) gpt gpt.modified e1 e2 last (512 * k)) :
    (writeAndFreeGptData disk gpt d).1 = false ∧
    Lies (image (writeAndFreeGptData disk gpt d).2) gpt unmodified e1 e2 last (512 * k) := by
  obtain ⟨hok, himage⟩ := writeAll_faithful hd (pendingWrites gpt)
    (fun w hw => parts_inside h (mem_parts hw)) d
  refine ⟨hok, ?_⟩
  have hparts := parts_load h
  have hlegacy : ¬ (gpt.modified ≠ unmodified ∧
      (fields gpt.primaryHeader).signature = gptHeaderSignature2) := fun hl => hnormal hl.2
  have hstored := @stores_parts gpt e1 e2 k last h (image d)
  rw [hparts] at hstored
  have h512 := toNat_sectorBytes h.bytes
  have h1 : (1 : UInt64).toNat = 1 := rfl
  have hpending : (pendingWrites gpt).map (fun w => (512 * w.1.toNat, w.2.2)) =
      (if gpt.modified.header1 then [(512, gpt.primaryHeader.load 0 512)] else []) ++
      (if gpt.modified.entries1 then [(512 * e1, gpt.primaryEntries.load 0 (512 * k))] else []) ++
      (if gpt.modified.header2 then [(512 * last, gpt.secondaryHeader.load 0 512)] else []) ++
      (if gpt.modified.entries2 then [(512 * e2, gpt.secondaryEntries.load 0 (512 * k))] else []) := by
    simp only [pendingWrites, hlegacy, not_false_eq_true, and_true, List.map_append,
      apply_ite (List.map fun w : UInt64 × UInt64 × List UInt8 => (512 * w.1.toNat, w.2.2)),
      List.map_cons, List.map_nil, h512, h.count, h.first, h.second, h.last, h1, Nat.mul_comm k 512,
      Nat.mul_one]
  rw [hpending] at hstored
  change image (writeAndFreeGptData disk gpt d).2 = _ at himage
  rw [hpending] at himage
  rw [himage]
  have hpart {x n : Nat} {part : Mem} := @hstored x (part.load 0 n)
  simp only [Mem.length_load] at hpart
  exact ⟨.inr (hpart (by simp) (hp.header1.imp_left fun hm => by simp [hm])),
    .inr (hpart (by simp) (hp.header2.imp_left fun hm => by simp [hm])),
    .inr (hpart (by simp) (hp.entries1.imp_left fun hm => by simp [hm])),
    .inr (hpart (by simp) (hp.entries2.imp_left fun hm => by simp [hm]))⟩

theorem writeAndFreeGptData_onDisk {d : D} (hd : Faithful disk image gpt.gptDriveSectors.toNat)
    (hf : Fits gpt) (hp : OnDisk (image d) gpt gpt.modified) :
    (writeAndFreeGptData disk gpt d).1 = false ∧
    OnDisk (image (writeAndFreeGptData disk gpt d).2) gpt unmodified := by
  obtain ⟨e1, e2, k, last, h, hsize⟩ := hf.places
  rw [onDisk_iff, h.first, h.second, h.last, hsize] at hp ⊢
  exact writeAndFreeGptData_lies hd h hf.normal hp

/-- Two tables agree on the headers and on the entries. -/
structure SameTable (gpt gpt' : GptData) : Prop where
  header1 : gpt'.primaryHeader.load 0 512 = gpt.primaryHeader.load 0 512
  header2 : gpt'.secondaryHeader.load 0 512 = gpt.secondaryHeader.load 0 512
  entries1 : gpt'.primaryEntries.load 0 (entriesSize (fields gpt.primaryHeader)).toNat =
    gpt.primaryEntries.load 0 (entriesSize (fields gpt.primaryHeader)).toNat
  entries2 : gpt'.secondaryEntries.load 0 (entriesSize (fields gpt.primaryHeader)).toNat =
    gpt.secondaryEntries.load 0 (entriesSize (fields gpt.primaryHeader)).toNat

theorem Fits.congr {gpt' : GptData} (h : Fits gpt) (hd : SameDrive gpt gpt')
    (ht : SameTable gpt gpt') : Fits gpt' := by
  have hc := h.consistent
  obtain ⟨hf1, he1, hc1⟩ := checkHeader_congr ht.header1 hc.header1
  obtain ⟨hf2, he2, hc2⟩ := checkHeader_congr ht.header2 hc.header2
  have hsize := toNat_entriesSize (checkHeader_fields hc.header1)
  have hentries {e e' : Mem} (he : e'.load 0 (entriesSize (fields gpt.primaryHeader)).toNat =
      e.load 0 (entriesSize (fields gpt.primaryHeader)).toNat) :
      checkEntries e' (fields gpt.primaryHeader) = checkEntries e (fields gpt.primaryHeader) :=
    checkEntries_congr hsize fun x hx => by simpa using Mem.load_eq_iff.mp he x hx
  constructor
  · constructor
    · rw [hd.checkParameters, hc.parameters]
    · exact hd.accepts.mpr hc1
    · exact hd.accepts.mpr hc2
    · rw [hf1, hf2, hc.same]
    · rw [hf1, hentries ht.entries1, hc.entries1]
    · rw [hf1, hentries ht.entries2, hc.entries2]
  · rw [hf1]
    exact h.normal
  · rw [hf1]
    exact h.whole
  · rw [hf1, he1, hd.drive]
    exact h.room

theorem allocAndReadGptData_onDisk {gpt0 : GptData} {d : D}
    (hd : Faithful disk image gpt.gptDriveSectors.toNat) (hf : Fits gpt) (hs : SameDrive gpt gpt0)
    (hp : OnDisk (image d) gpt unmodified) :
    let r := allocAndReadGptData disk gpt0 d
    r.1 = false ∧ SameDrive gpt r.2.1 ∧ SameTable gpt r.2.1 ∧ image r.2.2 = image d := by
  intro r
  obtain ⟨e1, e2, k, last, h, hsize⟩ := hf.places
  have hc := hf.consistent
  have hdrive := h.drive
  have hstart := h.start
  have happart := h.apart
  have hbefore := h.before
  rw [onDisk_iff, h.first, h.second, h.last, hsize] at hp
  rw [← hs.drive] at hd
  obtain ⟨hread, hsame, hkeep, hok⟩ := allocAndReadGptData_reads hd (hs.sectorBytes.trans h.bytes)
    (by rw [hs.drive]; omega) d
  have hsame : SameDrive gpt r.2.1 := hs.trans hsame
  have hh1 : r.2.1.primaryHeader.load 0 512 = gpt.primaryHeader.load 0 512 :=
    hread.header1.trans (hp.header1.resolve_left Bool.false_ne_true)
  have hh2 : r.2.1.secondaryHeader.load 0 512 = gpt.secondaryHeader.load 0 512 := by
    refine hread.header2.trans ?_
    rw [hsame.drive, h.last]
    exact hp.header2.resolve_left Bool.false_ne_true
  obtain ⟨hf1, he1, hc1⟩ := checkHeader_congr hh1 hc.header1
  obtain ⟨hf2, he2, hc2⟩ := checkHeader_congr hh2 hc.header2
  rw [← h.first, ← he1] at hp
  rw [← h.second, ← he2] at hp
  have hk {header header' : Mem} (hh : fields header' = fields header)
      (hcount : (entriesSectors gpt header).toNat = k) : (entriesSectors r.2.1 header').toNat = k := by
    rw [entriesSectors, hsame.sectorBytes, hh]
    exact hcount
  have hk1 := hk hf1 h.count
  have hin1 : (entriesLba r.2.1.primaryHeader).toNat + k ≤ r.2.1.gptDriveSectors.toNat := by
    rw [he1, h.first, hsame.drive]
    omega
  have hr1 := hread.entries1 (hsame.accepts.mpr hc1) rfl hk1 hin1
  have hr2 := hread.entries2 (hsame.accepts.mpr hc2) rfl (hk hf2 h.count2)
    (by rw [he2, h.second, hsame.drive]; omega)
  refine ⟨hok (hsame.accepts.mpr hc1) (by rw [hk1]; exact hin1), hsame, ⟨hh1, hh2, ?_, ?_⟩, hkeep⟩
  · rw [hsize]
    exact hr1.trans (hp.entries1.resolve_left Bool.false_ne_true)
  · rw [hsize]
    exact hr2.trans (hp.entries2.resolve_left Bool.false_ne_true)

end
theorem gptSanityCheck_restarted (gpt : GptData) :
    gptSanityCheck gpt.restarted = ((gptSanityCheck gpt).1, (gptSanityCheck gpt).2.restarted) := by
  have hp : checkParameters gpt.restarted = checkParameters gpt := rfl
  have ha : gpt.restarted.headersAlone = gpt.headersAlone := rfl
  have hf : gpt.restarted.fitting = gpt.fitting := rfl
  rw [gptSanityCheck, gptSanityCheck, hp, ha, hf]
  cases checkParameters gpt with
  | some e => rfl
  | none =>
    dsimp only
    split_ifs <;> rfl

/-- The entries that are good were read where the repaired headers have them. -/
structure InPlace (gpt gpt' : GptData) : Prop where
  entries1 : gpt.validEntries.primary = true →
    checkHeader gpt.primaryHeader false gpt.streamingDriveSectors gpt.gptDriveSectors gpt.flags = true ∧
    entriesLba gpt'.primaryHeader = entriesLba gpt.primaryHeader ∧
    (fields gpt'.primaryHeader).numberOfEntries = (fields gpt.primaryHeader).numberOfEntries
  entries2 : gpt.validEntries.secondary = true →
    checkHeader gpt.secondaryHeader true gpt.streamingDriveSectors gpt.gptDriveSectors gpt.flags = true ∧
    entriesLba gpt'.secondaryHeader = entriesLba gpt.secondaryHeader ∧
    (fields gpt'.secondaryHeader).numberOfEntries = (fields gpt.secondaryHeader).numberOfEntries

theorem gptRepair_sameDrive (gpt : GptData) : SameDrive gpt (gptRepair gpt) := by
  rw [gptRepair, repairEntries, repairHeaders]
  split_ifs <;> exact ⟨rfl, rfl, rfl, rfl⟩

theorem gptRepair_kept (hs : Sane gpt f) :
    ((gptRepair gpt).modified.header1 = true ∨ (gptRepair gpt).primaryHeader = gpt.primaryHeader) ∧
    ((gptRepair gpt).modified.header2 = true ∨
      (gptRepair gpt).secondaryHeader = gpt.secondaryHeader) ∧
    ((gptRepair gpt).modified.entries1 = true ∨
      ((gptRepair gpt).primaryEntries = gpt.primaryEntries ∧ gpt.validEntries.primary = true)) ∧
    ((gptRepair gpt).modified.entries2 = true ∨
      ((gptRepair gpt).secondaryEntries = gpt.secondaryEntries ∧
        gpt.validEntries.secondary = true)) := by
  have hheaders : ((repairHeaders gpt).modified.header1 = true ∨
      (repairHeaders gpt).primaryHeader = gpt.primaryHeader) ∧
      ((repairHeaders gpt).modified.header2 = true ∨
        (repairHeaders gpt).secondaryHeader = gpt.secondaryHeader) ∧
      (repairHeaders gpt).primaryEntries = gpt.primaryEntries ∧
      (repairHeaders gpt).secondaryEntries = gpt.secondaryEntries ∧
      (repairHeaders gpt).validEntries = gpt.validEntries := by
    rw [repairHeaders]
    split_ifs
    · exact ⟨.inr rfl, .inl rfl, rfl, rfl, rfl⟩
    · exact ⟨.inl rfl, .inr rfl, rfl, rfl, rfl⟩
    · exact ⟨.inr rfl, .inr rfl, rfl, rfl, rfl⟩
  rw [gptRepair, if_neg (not_or.mpr ⟨hs.headers, hs.entries⟩)]
  generalize repairHeaders gpt = gpt' at hheaders
  obtain ⟨h1, h2, he1, he2, hv⟩ := hheaders
  rw [← he1, ← he2, ← hv]
  have hne : gpt'.validEntries ≠ maskNone := by
    rw [hv]
    exact hs.entries
  rcases mask_cases hne with hm | hm | hm
  · have hr : repairEntries gpt' = _ := if_pos hm
    rw [hr, hm]
    exact ⟨h1, h2, .inr ⟨rfl, rfl⟩, .inl rfl⟩
  · have hr : repairEntries gpt' = _ := (if_neg (by rw [hm]; decide)).trans (if_pos hm)
    rw [hr, hm]
    exact ⟨h1, h2, .inl rfl, .inr ⟨rfl, rfl⟩⟩
  · have hr : repairEntries gpt' = gpt' :=
      (if_neg (by rw [hm]; decide)).trans (if_neg (by rw [hm]; decide))
    rw [hr, hm]
    exact ⟨h1, h2, .inr ⟨rfl, rfl⟩, .inr ⟨rfl, rfl⟩⟩

theorem gptRepair_onDisk (hread : ReadFrom m gpt) (hs : Sane gpt f) (hf : Fits (gptRepair gpt))
    (ht : InPlace gpt (gptRepair gpt)) : OnDisk m (gptRepair gpt) (gptRepair gpt).modified := by
  obtain ⟨e1, e2, k, last, h, hsize⟩ := hf.places
  have hd := gptRepair_sameDrive gpt
  have hc := hf.consistent
  have hdrive := h.drive
  have happart := h.apart
  have hbefore := h.before
  obtain ⟨h1, h2, he1, he2⟩ := gptRepair_kept hs
  generalize gptRepair gpt = gpt' at *
  have hbytes : gpt.sectorBytes = 512 := hd.sectorBytes.symm.trans h.bytes
  have hcount1 := toNat_entriesSectors h.bytes (checkHeader_fields hc.header1)
  have hcount2 := toNat_entriesSectors h.bytes (checkHeader_fields hc.header2)
  rw [h.count] at hcount1
  rw [h.count2] at hcount2
  rw [onDisk_iff, h.first, h.second, h.last, hsize]
  refine ⟨h1.imp id fun hh => ?_, h2.imp id fun hh => ?_, he1.imp id fun he => ?_,
    he2.imp id fun he => ?_⟩
  · rw [hh, hread.header1]
  · rw [hh, ← h.last, hd.drive, hread.header2]
  · obtain ⟨hv, hlba, hn⟩ := ht.entries1 he.2
    have hk := toNat_entriesSectors hbytes (checkHeader_fields hv)
    rw [← hn, ← hcount1] at hk
    rw [he.1, hread.entries1 hv (by rw [← hlba, h.first]) hk (by rw [← hd.drive]; omega)]
  · obtain ⟨hv, hlba, hn⟩ := ht.entries2 he.2
    have hk := toNat_entriesSectors hbytes (checkHeader_fields hv)
    rw [← hn, ← hcount2] at hk
    rw [he.1, hread.entries2 hv (by rw [← hlba, h.second]) hk (by rw [← hd.drive]; omega)]

theorem gptInit_onDisk (hread : ReadFrom m gpt) (h : (gptInit gpt).1 = none)
    (hf : Fits (gptInit gpt).2) (ht : InPlace (gptSanityCheck gpt).2 (gptInit gpt).2) :
    OnDisk m (gptInit gpt).2 (gptInit gpt).2.modified := by
  have hreset := gptSanityCheck_restarted gpt
  have hmark := gptSanityCheck_mark gpt
  cases hc : gptSanityCheck gpt with
  | mk r v =>
    rw [hc] at hreset hmark ht
    have hr : r = none := by
      rw [gptInit, hreset] at h
      cases r with
      | none => rfl
      | some e => exact h
    subst hr
    obtain ⟨f, hs⟩ := gptSanityCheck_sane hreset
    have hinit := gptInit_success hreset
    rw [hinit] at hf ht ⊢
    rw [hmark] at hf hs ht ⊢
    exact gptRepair_onDisk ⟨hread.header1, hread.header2, hread.entries1, hread.entries2⟩ hs hf
      ⟨ht.entries1, ht.entries2⟩

theorem fields_store_entriesCrc (h : Mem) (v : UInt32) :
    fields (h.store 88 (leBytes32 v)) = { fields h with entriesCrc32 := v } := by
  have hload (a n : Nat) (ha : a + n ≤ 88) : (h.store 88 (leBytes32 v)).load a n = h.load a n :=
    Mem.load_store_disjoint h a 88 n _ (.inl ha)
  have h32 (a : Nat) (ha : a + 4 ≤ 88) : le32 (h.store 88 (leBytes32 v)) a = le32 h a :=
    le32_store_disjoint h a 88 _ (.inl ha)
  have h64 (a : Nat) (ha : a + 8 ≤ 88) : le64 (h.store 88 (leBytes32 v)) a = le64 h a :=
    le64_store_disjoint h a 88 _ (.inl ha)
  simp only [fields, HeaderFields.mk.injEq]
  exact ⟨hload 0 8 (by omega), h32 8 (by omega), h32 12 (by omega), h32 20 (by omega),
    h64 40 (by omega), h64 48 (by omega), hload 56 16 (by omega), h32 80 (by omega), h32 84 (by omega),
    le32_store h 88 v⟩

theorem fields_updatedHeader (header entries : Mem) :
    fields (updatedHeader header entries) = { fields header with
      entriesCrc32 := crc32 (entries.load 0 (entriesSize (fields header)).toNat) } := by
  rw [updatedHeader, sealHeader, fields_store_crc _ _ (length_leBytes32 _), fields_store_entriesCrc]

theorem le64_updatedHeader (header entries : Mem) {a : Nat} (ha : 20 ≤ a ∧ a + 8 ≤ 88) :
    le64 (updatedHeader header entries) a = le64 header a := by
  rw [updatedHeader, le64_sealHeader _ ha.1, le64_store_disjoint _ a 88 _ (.inl ha.2)]

theorem entriesLba_updatedHeader (header entries : Mem) :
    entriesLba (updatedHeader header entries) = entriesLba header :=
  le64_updatedHeader header entries (by omega)

theorem checkHeader_updatedHeader {header : Mem} {flags : UInt32}
    (h : checkHeader header false streaming drive flags = true) (entries : Mem) :
    checkHeader (updatedHeader header entries) false streaming drive flags = true := by
  have hmy : myLba (updatedHeader header entries) = myLba header :=
    le64_updatedHeader header entries (by omega)
  have hcrc : headerCrc (updatedHeader header entries) = headerCrc32 (updatedHeader header entries) :=
    headerCrc_seal _
  rw [checkHeader, Bool.and_eq_true, Bool.and_eq_true] at h ⊢
  refine ⟨⟨?_, by rw [hcrc, beq_self_eq_true]⟩, ?_⟩
  · rw [fields_updatedHeader]
    exact h.1.1
  · have hplace := h.2
    rw [checkPlace, if_neg Bool.false_ne_true] at hplace ⊢
    rw [hmy, entriesLba_updatedHeader]
    exact hplace

/-- Entries in which there is nothing wrong fit the new header. -/
theorem checkEntries_updated {header : Mem}
    (h : EntriesGood entries (fields header)) :
    checkEntries entries (fields (updatedHeader header entries)) = none := by
  rw [fields_updatedHeader]
  exact checkEntries_good rfl h

variable {gpt : GptData}

theorem gptModified_consistent (hp : checkParameters gpt = none)
    (h1 : gpt.Accepts false gpt.primaryHeader)
    (he : EntriesGood gpt.primaryEntries (fields gpt.primaryHeader)) :
    Consistent (gptModified gpt) ∧
    (gptModified gpt).primaryHeader = updatedHeader gpt.primaryHeader gpt.primaryEntries ∧
    SameDrive gpt (gptModified gpt) := by
  let pre : GptData := { gpt with
    primaryHeader := updatedHeader gpt.primaryHeader gpt.primaryEntries
    modified := { gpt.modified with header1 := true, entries1 := true }
    validHeaders := maskPrimary
    validEntries := maskPrimary }
  have hsane : Sane pre (fields pre.primaryHeader) :=
    { parameters := hp
      header1 := fun _ => ⟨rfl, checkHeader_updatedHeader h1 gpt.primaryEntries⟩
      header2 := fun h2 => by cases h2
      headers := fun hn => by cases hn
      entries1 := fun _ => checkEntries_updated he
      entries2 := fun h2 => by cases h2
      entries := fun hn => by cases hn }
  refine ⟨hsane.repair.1, ?_⟩
  rw [gptModified_eq]
  exact ⟨rfl, rfl, rfl, rfl, rfl⟩

theorem entriesGood_of_check (h : checkEntries entries f = none) : EntriesGood entries f := by
  unfold checkEntries at h
  split_ifs at h
  exact h

theorem Consistent.modified (h : Consistent gpt)
    (he : ∀ i, entryFields (entryAt entries i) = entryFields (entryAt gpt.primaryEntries i)) :
    let gpt' := { gpt with primaryEntries := entries }
    Consistent (gptModified gpt') ∧
    (gptModified gpt').primaryHeader = updatedHeader gpt.primaryHeader entries ∧
    SameDrive gpt' (gptModified gpt') := by
  have hgood := entriesGood_of_check h.entries1
  rw [EntriesGood, ← funext he] at hgood
  exact @gptModified_consistent { gpt with primaryEntries := entries } h.parameters h.header1 hgood

theorem gptModified_fits (h : Fits gpt)
    (he : ∀ i, entryFields (entryAt entries i) = entryFields (entryAt gpt.primaryEntries i)) :
    let gpt' := gptModified { gpt with primaryEntries := entries }
    Fits gpt' ∧ SameDrive gpt gpt' ∧ gpt'.modified = ⟨true, true, true, true⟩ := by
  intro gpt'
  obtain ⟨hcons, hheader, hdrive⟩ := h.consistent.modified he
  refine ⟨⟨hcons, ?_, ?_, ?_⟩, ⟨hdrive.sectorBytes, hdrive.streaming, hdrive.drive, hdrive.flags⟩, ?_⟩
  · rw [hheader, fields_updatedHeader]
    exact h.normal
  · rw [hheader, fields_updatedHeader]
    exact h.whole
  · rw [hheader, fields_updatedHeader, entriesLba_updatedHeader, hdrive.drive]
    exact h.room
  · change (gptModified { gpt with primaryEntries := entries }).modified = _
    rw [gptModified_eq]

theorem entryFields_setGptAtt (entries : Mem) (i j : Nat) (att : UInt16) :
    entryFields (entryAt (setGptAtt entries i att) j) = entryFields (entryAt entries j) :=
  entryFields_congr fun x hx => setGptAtt_frame entries i j x att (by omega)

/-- What can happen to a table between GptInit and the writing. -/
inductive TableOp where
  | next
  | update (u : UpdateType)
  | updateEntry (i : Nat) (u : UpdateType)

def TableOp.run (override : Ptr → UInt8) (gpt : GptData) : TableOp → GptData
  | next => (gptNextKernelEntry override gpt).2
  | update u => (gptUpdateKernelEntry gpt u).2
  | updateEntry i u => (gptUpdateKernelWithEntry gpt i u).2

/-- The entry that an update is about. -/
def TableOp.target (gpt : GptData) : TableOp → Option Nat
  | next => none
  | update _ => gpt.currentKernel
  | updateEntry i _ => some i

theorem gptNextKernelEntry_cursor (override : Ptr → UInt8) (gpt : GptData) :
    ∃ kernel priority, (gptNextKernelEntry override gpt).2 =
      { gpt with currentKernel := kernel, currentPriority := priority } := by
  rw [gptNextKernelEntry]
  cases gpt.currentKernel.bind (sameKernelPriority override gpt) with
  | some i => exact ⟨_, _, rfl⟩
  | none => exact ⟨_, _, rfl⟩

/-- An operation moves the cursor, updates its entry or does nothing. -/
theorem TableOp.run_cases (override : Ptr → UInt8) (gpt : GptData) (op : TableOp) :
    (∃ kernel priority, op.run override gpt =
      { gpt with currentKernel := kernel, currentPriority := priority }) ∨
    ∃ i u att, op.target gpt = some i ∧ isKernelEntry (entryAt gpt.primaryEntries i) = true ∧
      updatedAtt (entryAt gpt.primaryEntries i) u = some att ∧ op.run override gpt = gpt.withAtt i att := by
  cases op with
  | next => exact .inl (gptNextKernelEntry_cursor override gpt)
  | update u =>
    rcases gptUpdateKernelEntry_cases gpt u with h | ⟨i, att, h⟩
    · exact .inl ⟨_, _, h⟩
    · exact .inr ⟨i, u, att, h⟩
  | updateEntry i u =>
    rcases gptUpdateKernelWithEntry_cases gpt i u with h | ⟨att, h⟩
    · exact .inl ⟨_, _, h⟩
    · exact .inr ⟨i, u, att, rfl, h⟩

/-- A table in memory whose unmodified parts are on the disk. -/
structure Held (m : Mem) (gpt0 gpt : GptData) : Prop where
  fits : Fits gpt
  drive : SameDrive gpt0 gpt
  onDisk : OnDisk m gpt gpt.modified

section
variable {m : Mem} {gpt0 gpt : GptData}

theorem Held.cursor (h : Held m gpt0 gpt) (kernel : Option Nat) (priority : Nat) :
    Held m gpt0 { gpt with currentKernel := kernel, currentPriority := priority } :=
  ⟨h.fits.congr ⟨rfl, rfl, rfl, rfl⟩ ⟨rfl, rfl, rfl, rfl⟩, h.drive.trans ⟨rfl, rfl, rfl, rfl⟩,
    ⟨h.onDisk.header1, h.onDisk.header2, h.onDisk.entries1, h.onDisk.entries2⟩⟩

theorem Held.run (h : Held m gpt0 gpt) (override : Ptr → UInt8) (op : TableOp) :
    Held m gpt0 (op.run override gpt) := by
  rcases op.run_cases override gpt with ⟨kernel, priority, hr⟩ | ⟨i, u, att, -, -, -, hr⟩
  · rw [hr]
    exact h.cursor kernel priority
  · obtain ⟨hf, hd, hm⟩ := gptModified_fits h.fits
      (fun j => entryFields_setGptAtt gpt.primaryEntries i j att)
    rw [hr]
    refine ⟨hf, h.drive.trans hd, ?_⟩
    rw [GptData.withAtt, hm]
    exact ⟨.inl rfl, .inl rfl, .inl rfl, .inl rfl⟩

theorem Held.runs (h : Held m gpt0 gpt) (override : Ptr → UInt8) (ops : List TableOp) :
    Held m gpt0 (ops.foldl (TableOp.run override) gpt) := by
  induction ops generalizing gpt with
  | nil => exact h
  | cons op ops ih => exact ih (h.run override op)

end

theorem gptInit_sameDrive : SameDrive gpt (gptInit gpt).2 := by
  rw [gptInit, gptSanityCheck_restarted]
  have hmark := gptSanityCheck_mark gpt
  cases hc : gptSanityCheck gpt with
  | mk r v =>
    rw [hc] at hmark
    rw [hmark]
    cases r with
    | some e => exact ⟨rfl, rfl, rfl, rfl⟩
    | none =>
      have hd := gptRepair_sameDrive (gpt.mark v.validHeaders v.validEntries).restarted
      exact ⟨hd.sectorBytes, hd.streaming, hd.drive, hd.flags⟩

/-- A table without damage as GptInit leaves it. -/
def GptData.initialised (gpt : GptData) : GptData :=
  { gpt with
    modified := unmodified
    currentKernel := none
    currentPriority := 999
    validHeaders := maskBoth
    validEntries := maskBoth }

theorem Consistent.init (h : Consistent gpt) : gptInit gpt = (none, gpt.initialised) := by
  have hs := gptSanityCheck_restarted gpt
  rw [h.sanityCheck] at hs
  rw [gptInit_success hs]
  exact congrArg (Prod.mk none) (gptRepair_both rfl rfl)

/-- A disk that is its contents, without streams. -/
def imageDisk (sectors : Nat) : Disk Mem Unit where
  read lba count m :=
    if lba.toNat + count.toNat ≤ sectors then (0, fun x => m (512 * lba.toNat + x), m)
    else (1, fun _ => 0, m)
  write lba count data m :=
    if lba.toNat + count.toNat ≤ sectors then (0, m.store (512 * lba.toNat) data) else (1, m)
  streamOpen _ _ m := (1, (), m)
  streamRead _ _ m := (1, fun _ => 0, m)
  streamClose _ m := m

theorem imageDisk_faithful (sectors : Nat) : Faithful (imageDisk sectors) id sectors where
  read lba count m h := by
    simp only [imageDisk, h, if_true]
    refine ⟨trivial, Mem.load_congr fun i hi => ?_⟩
    rw [Nat.zero_add]
    rfl
  write lba count data m h _ := by
    simp only [imageDisk, h, if_true]
    exact ⟨trivial, rfl⟩
  read_keeps lba count m := by
    simp only [imageDisk]
    split_ifs <;> rfl
  streamOpen_keeps _ _ _ := rfl
  streamRead_keeps _ _ _ := rfl
  streamClose_keeps _ _ := rfl

/-- A disk with nothing but a table. -/
def tableImage (gpt : GptData) : Mem :=
  Mem.stores (fun _ => 0) (pendingWrites { gpt with modified := ⟨true, true, true, true⟩ } |>.map
    fun w => (512 * w.1.toNat, w.2.2))

theorem onDisk_tableImage (h : Fits gpt) : OnDisk (tableImage gpt) gpt unmodified := by
  let gpt' := { gpt with modified := ⟨true, true, true, true⟩ }
  have hf : Fits gpt' := h.congr ⟨rfl, rfl, rfl, rfl⟩ ⟨rfl, rfl, rfl, rfl⟩
  obtain ⟨e1, e2, k, last, hp, -⟩ := hf.places
  obtain ⟨-, hdisk⟩ := @writeAndFreeGptData_onDisk Mem Unit (imageDisk gpt.gptDriveSectors.toNat) id
    gpt' (fun _ => 0) (imageDisk_faithful _) hf ⟨.inl rfl, .inl rfl, .inl rfl, .inl rfl⟩
  have himage := (writeAll_faithful (imageDisk_faithful gpt.gptDriveSectors.toNat) (pendingWrites gpt')
    (fun w hw => parts_inside hp (mem_parts hw)) (fun _ => 0)).2
  change OnDisk (id (writeAll _ (pendingWrites gpt') _).2) gpt' unmodified at hdisk
  rw [himage] at hdisk
  exact ⟨hdisk.header1, hdisk.header2, hdisk.entries1, hdisk.entries2⟩

theorem sampleTable_fits : Fits sampleTable where
  consistent := sampleTable_consistent
  normal := by decide
  whole := by decide
  room := by decide

theorem Fits.accepted (h : Fits gpt) : (gptInit gpt).1 = none ∧ Fits (gptInit gpt).2 ∧
    InPlace (gptSanityCheck gpt).2 (gptInit gpt).2 := by
  have hc := h.consistent
  rw [hc.init, hc.sanityCheck]
  exact ⟨rfl, h.congr ⟨rfl, rfl, rfl, rfl⟩ ⟨rfl, rfl, rfl, rfl⟩, fun _ => ⟨hc.header1, rfl, rfl⟩,
    fun _ => ⟨hc.header2, rfl, rfl⟩⟩

theorem read_fits {gpt0 : GptData} {d : D} (hd : Faithful disk image gpt.gptDriveSectors.toNat)
    (hf : Fits gpt) (hs : SameDrive gpt gpt0) (hp : OnDisk (image d) gpt unmodified) :
    Fits (allocAndReadGptData disk gpt0 d).2.1 ∧
      SameDrive gpt (allocAndReadGptData disk gpt0 d).2.1 := by
  obtain ⟨-, hs', ht, -⟩ := allocAndReadGptData_onDisk hd hf hs hp
  exact ⟨hf.congr hs' ht, hs'⟩

/-- A good header whose entries are at sector 10 and that has an old checksum for them. -/
def strayHeader : Mem := sealHeader ((sampleHeader 0 1 99 10).store 88 (leBytes32 0))

/-- The sectors from 2 to 6, where a repaired header looks for its entries, are empty. -/
def strayImage : Mem :=
  Mem.store (Mem.store (Mem.store (Mem.store (fun _ => 0) 512 (strayHeader.load 0 512))
    5120 (sampleEntries.load 0 2048)) 48640 (sampleEntries.load 0 2048))
    50688 (sampleTable.secondaryHeader.load 0 512)

theorem strayImage_load : strayImage.load 512 512 = strayHeader.load 0 512 ∧
    strayImage.load 5120 2048 = sampleEntries.load 0 2048 ∧
    strayImage.load 48640 2048 = sampleEntries.load 0 2048 ∧
    strayImage.load 50688 512 = sampleTable.secondaryHeader.load 0 512 ∧
    strayImage.load 1024 2048 = Mem.load (fun _ => 0) 0 2048 := by
  have hzero : Mem.load (fun _ => 0) 1024 2048 = Mem.load (fun _ => 0) 0 2048 :=
    Mem.load_congr fun _ _ => rfl
  have hstore (m m' : Mem) (a n : Nat) : (m.store a (m'.load 0 n)).load a n = m'.load 0 n :=
    Mem.load_store m a n _ (Mem.length_load m' 0 n)
  refine ⟨?_, ?_, ?_, ?_, ?_⟩
  all_goals
    simp (disch := simp only [Mem.length_load]; omega) only [strayImage, hstore,
      Mem.load_store_disjoint, hzero]

theorem strayHeader_accepted : sampleTable.Accepts false strayHeader := by
  decide +kernel

/-- The primary header knows neither array, so that the secondary one is asked. -/
theorem stray_sanityCheck (hd : SameDrive sampleTable gpt)
    (h1 : gpt.primaryHeader.load 0 512 = strayHeader.load 0 512)
    (h2 : gpt.secondaryHeader.load 0 512 = sampleTable.secondaryHeader.load 0 512)
    (he1 : gpt.primaryEntries.load 0 2048 = sampleEntries.load 0 2048)
    (he2 : gpt.secondaryEntries.load 0 2048 = sampleEntries.load 0 2048) :
    gptSanityCheck gpt = (none, gpt.mark maskSecondary maskBoth) := by
  have hp := hd.checkParameters.trans sampleTable_consistent.parameters
  obtain ⟨hf1, -, hv1⟩ := checkHeader_congr h1 (hd.accepts.mpr strayHeader_accepted)
  obtain ⟨hf2, -, hv2⟩ := checkHeader_congr h2 (hd.accepts.mpr sampleTable_consistent.header2)
  have halone : gpt.headersAlone = maskBoth := by
    rw [GptData.headersAlone, hv1, hv2]
    rfl
  have hgood : gpt.goodhdr = gpt.primaryHeader := by
    rw [GptData.goodhdr, halone]
    rfl
  have hbad (e : Mem) (he : e.load 0 2048 = sampleEntries.load 0 2048) :
      checkEntries e (fields strayHeader) = some .crcCorrupted := by
    have hsize : (entriesSize (fields strayHeader)).toNat = 2048 := by decide +kernel
    have hcrc : (fields strayHeader).entriesCrc32 = 0 := by decide +kernel
    rw [checkEntries, hsize, he, crc32_sampleEntries, hcrc, if_pos (by decide)]
  have hfit (e : Mem) (he : e.load 0 2048 = sampleEntries.load 0 2048) :
      checkEntries e (fields sampleTable.primaryHeader) = none := by
    have hsize : (entriesSize (fields sampleTable.primaryHeader)).toNat = 2048 := by decide +kernel
    rw [← sampleEntries_check]
    refine checkEntries_congr (toNat_entriesSize (checkHeader_fields sampleTable_consistent.header1))
      fun x hx => ?_
    simpa using Mem.load_eq_iff.mp he x (by rwa [hsize] at hx)
  have hnone : gpt.entriesFor (fields gpt.primaryHeader) = maskNone := by
    rw [GptData.entriesFor, hf1, hbad _ he1, hbad _ he2]
    rfl
  have hboth : gpt.entriesFor (fields gpt.secondaryHeader) = maskBoth := by
    rw [GptData.entriesFor, hf2, sampleTable_consistent.same, hfit _ he1, hfit _ he2]
    rfl
  have hsecond : gpt.fitting = (maskSecondary, maskBoth) := by
    rw [GptData.fitting, halone, hgood, hnone, hboth, if_pos ⟨rfl, rfl⟩, if_neg (by decide)]
  exact gptSanityCheck_marks hp (by rw [halone]; decide) hsecond (by decide) fun h => by cases h

theorem gptRepair_header1 (hh : gpt.validHeaders = maskSecondary)
    (he : gpt.validEntries = maskBoth) (hm : gpt.modified = unmodified) :
    (gptRepair gpt).modified = ⟨true, false, false, false⟩ ∧
    fields (gptRepair gpt).primaryHeader = fields gpt.secondaryHeader ∧
    entriesLba (gptRepair gpt).primaryHeader = 2 := by
  have hheaders : repairHeaders gpt = { gpt with
      primaryHeader := copyHeader gpt.primaryHeader gpt.secondaryHeader gptPmbrSectors
        (gpt.streamingDriveSectors - gptHeaderSectors) (gptPmbrSectors + 1)
      modified := { gpt.modified with header1 := true } } := by
    rw [repairHeaders, hh, if_neg (by decide), if_pos rfl]
  have hentries (gpt' : GptData) (he' : gpt'.validEntries = maskBoth) : repairEntries gpt' = gpt' := by
    rw [repairEntries, he', if_neg (by decide), if_neg (by decide)]
  rw [gptRepair, hh, he, if_neg (by decide), hheaders, hentries]
  · refine ⟨?_, fields_copyHeader _ _ _ _ _, entriesLba_copyHeader _ _ _ _ _⟩
    change ({ gpt.modified with header1 := true } : Modified) = _
    rw [hm]
    rfl
  · exact he

theorem EntriesFrom.sample {h h' : Mem} {e : Nat}
    (hfrom : EntriesFrom m gpt isSecondary h entries) (hd : SameDrive sampleTable gpt)
    (he : h.load 0 512 = h'.load 0 512) (hc : sampleTable.Accepts isSecondary h')
    (hn : (fields h').numberOfEntries = 16) (hlba : (entriesLba h').toNat = e) (hin : e + 4 ≤ 100) :
    entries.load 0 2048 = m.load (512 * e) 2048 := by
  obtain ⟨hf, hlba', hv⟩ := checkHeader_congr he hc
  refine hfrom (hd.accepts.mpr hv) (k := 4) (by rw [hlba', hlba]) ?_ (by rw [hd.drive]; exact hin)
  rw [toNat_entriesSectors hd.sectorBytes (checkHeader_fields hv), hf, hn]
  rfl

theorem stray_init :
    let read := allocAndReadGptData (imageDisk 100) sampleTable strayImage
    let gpt := (gptInit read.2.1).2
    (gptInit read.2.1).1 = none ∧ SameDrive sampleTable gpt ∧ read.2.2 = strayImage ∧
    gpt.modified = ⟨true, false, false, false⟩ ∧
    fields gpt.primaryHeader = fields sampleTable.secondaryHeader ∧ entriesLba gpt.primaryHeader = 2 := by
  have hd : Faithful (imageDisk 100) id sampleTable.gptDriveSectors.toNat := imageDisk_faithful 100
  obtain ⟨hl1, hle1, hle2, hl2, -⟩ := strayImage_load
  obtain ⟨hfrom, hsame, hkeep, -⟩ := allocAndReadGptData_reads hd rfl (by decide) strayImage
  generalize allocAndReadGptData (imageDisk 100) sampleTable strayImage = read at hfrom hsame hkeep
  have hdrive : read.2.1.gptDriveSectors = 100 := hsame.drive
  have hload2 : read.2.1.secondaryHeader.load 0 512 = sampleTable.secondaryHeader.load 0 512 := by
    have h := hfrom.header2
    rw [hdrive] at h
    exact h.trans hl2
  have hentries1 := hfrom.entries1.sample (e := 10) hsame (hfrom.header1.trans hl1) strayHeader_accepted
    (by decide +kernel) (by decide +kernel) (by decide)
  have hentries2 := hfrom.entries2.sample (e := 95) hsame hload2 sampleTable_consistent.header2
    (by decide +kernel) (by decide +kernel) (by decide)
  have hreset := gptSanityCheck_restarted read.2.1
  rw [stray_sanityCheck hsame (hfrom.header1.trans hl1) hload2 (hentries1.trans hle1)
    (hentries2.trans hle2)] at hreset
  have hinit := gptInit_success hreset
  obtain ⟨hmod, hfields, hlba⟩ := @gptRepair_header1 (read.2.1.mark maskSecondary maskBoth).restarted
    rfl rfl rfl
  have hfields2 : fields read.2.1.secondaryHeader = fields sampleTable.secondaryHeader :=
    (checkHeader_congr hload2 sampleTable_consistent.header2).1
  dsimp only
  refine ⟨by rw [hinit], hsame.trans gptInit_sameDrive, hkeep, ?_⟩
  rw [hinit]
  exact ⟨hmod, hfields.trans hfields2, hlba⟩

theorem entries1_of_both (h : gptSanityCheck gpt = (none, gpt.mark maskBoth maskBoth)) :
    checkEntries gpt.primaryEntries (fields gpt.primaryHeader) = none := by
  obtain ⟨f, hsane⟩ := gptSanityCheck_sane h
  have hf : fields gpt.primaryHeader = f := (hsane.header1 rfl).1
  rw [hf]
  exact hsane.entries1 rfl

theorem emptyEntries_check {e : Mem} (he : e.load 0 2048 = Mem.load (fun _ => 0) 0 2048) :
    checkEntries e (fields sampleTable.secondaryHeader) = some .crcCorrupted := by
  have hsize : (entriesSize (fields sampleTable.secondaryHeader)).toNat = 2048 := by decide
  have hcrc : (fields sampleTable.secondaryHeader).entriesCrc32 = 2834567311 := by decide
  rw [checkEntries, hsize, he, crc32_zeroes, hcrc, if_pos (by decide)]

end Vboot.Gpt
