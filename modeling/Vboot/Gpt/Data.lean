import Vboot.Common.Crypto

/-! The GUID partition table in memory, firmware/lib/cgptlib: checks, repair and the choice of
kernel partitions. Header sectors and entry arrays are byte memories. -/
namespace Vboot.Gpt
open Vboot.Lib

def crc32Tab : List UInt32 :=
  [0x00000000, 0x77073096, 0xee0e612c, 0x990951ba, 0x076dc419, 0x706af48f, 0xe963a535, 0x9e6495a3,
   0x0edb8832, 0x79dcb8a4, 0xe0d5e91e, 0x97d2d988, 0x09b64c2b, 0x7eb17cbd, 0xe7b82d07, 0x90bf1d91,
   0x1db71064, 0x6ab020f2, 0xf3b97148, 0x84be41de, 0x1adad47d, 0x6ddde4eb, 0xf4d4b551, 0x83d385c7,
   0x136c9856, 0x646ba8c0, 0xfd62f97a, 0x8a65c9ec, 0x14015c4f, 0x63066cd9, 0xfa0f3d63, 0x8d080df5,
   0x3b6e20c8, 0x4c69105e, 0xd56041e4, 0xa2677172, 0x3c03e4d1, 0x4b04d447, 0xd20d85fd, 0xa50ab56b,
   0x35b5a8fa, 0x42b2986c, 0xdbbbc9d6, 0xacbcf940, 0x32d86ce3, 0x45df5c75, 0xdcd60dcf, 0xabd13d59,
   0x26d930ac, 0x51de003a, 0xc8d75180, 0xbfd06116, 0x21b4f4b5, 0x56b3c423, 0xcfba9599, 0xb8bda50f,
   0x2802b89e, 0x5f058808, 0xc60cd9b2, 0xb10be924, 0x2f6f7c87, 0x58684c11, 0xc1611dab, 0xb6662d3d,
   0x76dc4190, 0x01db7106, 0x98d220bc, 0xefd5102a, 0x71b18589, 0x06b6b51f, 0x9fbfe4a5, 0xe8b8d433,
   0x7807c9a2, 0x0f00f934, 0x9609a88e, 0xe10e9818, 0x7f6a0dbb, 0x086d3d2d, 0x91646c97, 0xe6635c01,
   0x6b6b51f4, 0x1c6c6162, 0x856530d8, 0xf262004e, 0x6c0695ed, 0x1b01a57b, 0x8208f4c1, 0xf50fc457,
   0x65b0d9c6, 0x12b7e950, 0x8bbeb8ea, 0xfcb9887c, 0x62dd1ddf, 0x15da2d49, 0x8cd37cf3, 0xfbd44c65,
   0x4db26158, 0x3ab551ce, 0xa3bc0074, 0xd4bb30e2, 0x4adfa541, 0x3dd895d7, 0xa4d1c46d, 0xd3d6f4fb,
   0x4369e96a, 0x346ed9fc, 0xad678846, 0xda60b8d0, 0x44042d73, 0x33031de5, 0xaa0a4c5f, 0xdd0d7cc9,
   0x5005713c, 0x270241aa, 0xbe0b1010, 0xc90c2086, 0x5768b525, 0x206f85b3, 0xb966d409, 0xce61e49f,
   0x5edef90e, 0x29d9c998, 0xb0d09822, 0xc7d7a8b4, 0x59b33d17, 0x2eb40d81, 0xb7bd5c3b, 0xc0ba6cad,
   0xedb88320, 0x9abfb3b6, 0x03b6e20c, 0x74b1d29a, 0xead54739, 0x9dd277af, 0x04db2615, 0x73dc1683,
   0xe3630b12, 0x94643b84, 0x0d6d6a3e, 0x7a6a5aa8, 0xe40ecf0b, 0x9309ff9d, 0x0a00ae27, 0x7d079eb1,
   0xf00f9344, 0x8708a3d2, 0x1e01f268, 0x6906c2fe, 0xf762575d, 0x806567cb, 0x196c3671, 0x6e6b06e7,
   0xfed41b76, 0x89d32be0, 0x10da7a5a, 0x67dd4acc, 0xf9b9df6f, 0x8ebeeff9, 0x17b7be43, 0x60b08ed5,
   0xd6d6a3e8, 0xa1d1937e, 0x38d8c2c4, 0x4fdff252, 0xd1bb67f1, 0xa6bc5767, 0x3fb506dd, 0x48b2364b,
   0xd80d2bda, 0xaf0a1b4c, 0x36034af6, 0x41047a60, 0xdf60efc3, 0xa867df55, 0x316e8eef, 0x4669be79,
   0xcb61b38c, 0xbc66831a, 0x256fd2a0, 0x5268e236, 0xcc0c7795, 0xbb0b4703, 0x220216b9, 0x5505262f,
   0xc5ba3bbe, 0xb2bd0b28, 0x2bb45a92, 0x5cb36a04, 0xc2d7ffa7, 0xb5d0cf31, 0x2cd99e8b, 0x5bdeae1d,
   0x9b64c2b0, 0xec63f226, 0x756aa39c, 0x026d930a, 0x9c0906a9, 0xeb0e363f, 0x72076785, 0x05005713,
   0x95bf4a82, 0xe2b87a14, 0x7bb12bae, 0x0cb61b38, 0x92d28e9b, 0xe5d5be0d, 0x7cdcefb7, 0x0bdbdf21,
   0x86d3d2d4, 0xf1d4e242, 0x68ddb3f8, 0x1fda836e, 0x81be16cd, 0xf6b9265b, 0x6fb077e1, 0x18b74777,
   0x88085ae6, 0xff0f6a70, 0x66063bca, 0x11010b5c, 0x8f659eff, 0xf862ae69, 0x616bffd3, 0x166ccf45,
   0xa00ae278, 0xd70dd2ee, 0x4e048354, 0x3903b3c2, 0xa7672661, 0xd06016f7, 0x4969474d, 0x3e6e77db,
   0xaed16a4a, 0xd9d65adc, 0x40df0b66, 0x37d83bf0, 0xa9bcae53, 0xdebb9ec5, 0x47b2cf7f, 0x30b5ffe9,
   0xbdbdf21c, 0xcabac28a, 0x53b39330, 0x24b4a3a6, 0xbad03605, 0xcdd70693, 0x54de5729, 0x23d967bf,
   0xb3667a2e, 0xc4614ab8, 0x5d681b02, 0x2a6f2b94, 0xb40bbe37, 0xc30c8ea1, 0x5a05df1b, 0x2d02ef8d]

def crc32Step (value : UInt32) (b : UInt8) : UInt32 :=
  crc32Tab.getD ((value ^^^ b.toUInt32) &&& 0xFF).toNat 0 ^^^ (value >>> 8)

def crc32 (data : List UInt8) : UInt32 := data.foldl crc32Step 0xFFFFFFFF ^^^ 0xFFFFFFFF

def gptHeaderSignature : List UInt8 := [0x45, 0x46, 0x49, 0x20, 0x50, 0x41, 0x52, 0x54]
def gptHeaderSignature2 : List UInt8 := [0x43, 0x48, 0x52, 0x4F, 0x4D, 0x45, 0x4F, 0x53]
def gptHeaderRevision : UInt32 := 0x00010000
def minSizeOfHeader : UInt32 := 92
def maxSizeOfHeader : UInt32 := 512
def minNumberOfEntries : UInt32 := 16
def maxNumberOfEntries : UInt32 := 128
def sizeOfGptEntry : UInt32 := 128
def sectorSize : UInt32 := 512
def gptPmbrSectors : UInt64 := 1
def gptHeaderSectors : UInt64 := 1
def gptFlagExternal : UInt32 := 0x1

inductive GptError where
  | noValidKernel | invalidHeaders | invalidEntries | invalidSectorSize | invalidSectorNumber
  | invalidUpdateType | crcCorrupted | outOfRegion | startLbaOverlap | endLbaOverlap | dupGuid
  deriving DecidableEq, Repr

/-- The fields that HeaderFieldsSame compares: all but the checksum and the places of the
header, of its copy and of its entries. -/
structure HeaderFields where
  signature : List UInt8
  revision : UInt32
  size : UInt32
  reservedZero : UInt32
  firstUsableLba : UInt64
  lastUsableLba : UInt64
  diskUuid : List UInt8
  numberOfEntries : UInt32
  sizeOfEntry : UInt32
  entriesCrc32 : UInt32
  deriving DecidableEq

/- struct GptHeader -/
def headerCrc32 (h : Mem) : UInt32 := le32 h 16
def myLba (h : Mem) : UInt64 := le64 h 24
def entriesLba (h : Mem) : UInt64 := le64 h 72

def fields (h : Mem) : HeaderFields where
  signature := h.load 0 8
  revision := le32 h 8
  size := le32 h 12
  reservedZero := le32 h 20
  firstUsableLba := le64 h 40
  lastUsableLba := le64 h 48
  diskUuid := h.load 56 16
  numberOfEntries := le32 h 80
  sizeOfEntry := le32 h 84
  entriesCrc32 := le32 h 88

/-- The two sets of headers or entries. -/
structure Mask where
  primary : Bool
  secondary : Bool
  deriving DecidableEq

def maskNone : Mask := ⟨false, false⟩
def maskPrimary : Mask := ⟨true, false⟩
def maskSecondary : Mask := ⟨false, true⟩
def maskBoth : Mask := ⟨true, true⟩

/-- What has to be written back. -/
structure Modified where
  header1 : Bool
  header2 : Bool
  entries1 : Bool
  entries2 : Bool
  deriving DecidableEq

def unmodified : Modified := ⟨false, false, false, false⟩

structure GptData where
  primaryHeader : Mem
  secondaryHeader : Mem
  primaryEntries : Mem
  secondaryEntries : Mem
  sectorBytes : UInt32
  streamingDriveSectors : UInt64
  gptDriveSectors : UInt64
  flags : UInt32
  modified : Modified
  currentKernel : Option Nat
  currentPriority : Nat
  validHeaders : Mask
  validEntries : Mask

/-- The number of bytes of the entry array, a 32-bit product. -/
def entriesSize (f : HeaderFields) : UInt32 := f.sizeOfEntry * f.numberOfEntries

def calculateEntriesSectors (f : HeaderFields) : UInt64 :=
  ((f.numberOfEntries * f.sizeOfEntry).toUInt64 + sectorSize.toUInt64 - 1) / sectorSize.toUInt64

def isExternal (flags : UInt32) : Bool := flags &&& gptFlagExternal != 0

def checkParameters (gpt : GptData) : Option GptError :=
  if gpt.sectorBytes ≠ sectorSize then some .invalidSectorSize
  else if gpt.gptDriveSectors = 0 ∨
      (isExternal gpt.flags = false ∧ gpt.gptDriveSectors ≠ gpt.streamingDriveSectors) then
    some .invalidSectorNumber
  else if gpt.gptDriveSectors <
      (1 + 2 * (1 + minNumberOfEntries / (sectorSize / sizeOfGptEntry))).toUInt64 then
    some .invalidSectorNumber
  else none

/-- The checksum is taken with a zero in its own field. -/
def headerCrc (h : Mem) : UInt32 :=
  crc32 ((h.store 16 [0, 0, 0, 0]).load 0 (fields h).size.toNat)

def checkFields (f : HeaderFields) (streamingDriveSectors : UInt64) (flags : UInt32) : Bool :=
  (f.signature = gptHeaderSignature ∨ f.signature = gptHeaderSignature2) ∧
  f.revision = gptHeaderRevision ∧
  minSizeOfHeader ≤ f.size ∧ f.size ≤ maxSizeOfHeader ∧
  f.reservedZero = 0 ∧
  f.sizeOfEntry = sizeOfGptEntry ∧
  minNumberOfEntries ≤ f.numberOfEntries ∧ f.numberOfEntries ≤ maxNumberOfEntries ∧
  (isExternal flags = false → f.numberOfEntries = maxNumberOfEntries) ∧
  f.firstUsableLba ≤ f.lastUsableLba ∧
  if isExternal flags then f.lastUsableLba < streamingDriveSectors
  else 2 + calculateEntriesSectors f ≤ f.firstUsableLba ∧
    f.lastUsableLba < streamingDriveSectors - 1 - calculateEntriesSectors f

/-- The place of the header and of its entries. -/
def checkPlace (h : Mem) (isSecondary : Bool) (gptDriveSectors : UInt64) : Bool :=
  if isSecondary then
    myLba h = gptDriveSectors - gptHeaderSectors ∧
      entriesLba h = myLba h - calculateEntriesSectors (fields h)
  else myLba h = gptPmbrSectors ∧ myLba h + 1 ≤ entriesLba h

/- True is the C result 0. -/
def checkHeader (h : Mem) (isSecondary : Bool) (streamingDriveSectors gptDriveSectors : UInt64)
    (flags : UInt32) : Bool :=
  checkFields (fields h) streamingDriveSectors flags && headerCrc h == headerCrc32 h &&
    checkPlace h isSecondary gptDriveSectors

/- struct GptEntry -/
def entryAt (entries : Mem) (i : Nat) : Ptr := ⟨entries, 128 * i⟩
def entryType (e : Ptr) : List UInt8 := e.bytes 16
def entryUnique (e : Ptr) : List UInt8 := (e.add 16).bytes 16
def startingLba (e : Ptr) : UInt64 := e.u64 32
def endingLba (e : Ptr) : UInt64 := e.u64 40

/- The offset of attrs.fields.gpt_att. -/
def gptAttOffset : Nat := 54
def gptAtt (e : Ptr) : UInt16 :=
  (e.u8 (gptAttOffset + 1)).toUInt16 <<< 8 ||| (e.u8 gptAttOffset).toUInt16

def isUnusedEntry (e : Ptr) : Bool := entryType e == List.replicate 16 0

def chromeosKernelGuid : List UInt8 :=
  [0x5D, 0x2A, 0x3A, 0xFE, 0x32, 0x4F, 0xA7, 0x41, 0xB7, 0x25, 0xAC, 0xCC, 0x32, 0x85, 0xA3, 0x09]

def isKernelEntry (e : Ptr) : Bool := entryType e == chromeosKernelGuid

structure EntryFields where
  unused : Bool
  unique : List UInt8
  startingLba : UInt64
  endingLba : UInt64

def entryFields (e : Ptr) : EntryFields where
  unused := isUnusedEntry e
  unique := entryUnique e
  startingLba := startingLba e
  endingLba := endingLba e

/-- Entry i must not overlap entry i2 and must have another name. -/
def pairError (i i2 : Nat) (e e2 : EntryFields) : Option GptError :=
  if i2 = i ∨ e2.unused then none
  else if e2.startingLba ≤ e.startingLba ∧ e.startingLba ≤ e2.endingLba then some .startLbaOverlap
  else if e2.startingLba ≤ e.endingLba ∧ e.endingLba ≤ e2.endingLba then some .endLbaOverlap
  else if e.unique = e2.unique then some .dupGuid
  else none

/-- Entry i must lie in the usable region and get along with all others. -/
def entryError (entry : Nat → EntryFields) (f : HeaderFields) (i : Nat) : Option GptError :=
  if (entry i).unused then none
  else if (entry i).startingLba < f.firstUsableLba ∨ (entry i).endingLba > f.lastUsableLba ∨
      (entry i).endingLba < (entry i).startingLba then some .outOfRegion
  else (List.range f.numberOfEntries.toNat).findSome? fun i2 => pairError i i2 (entry i) (entry i2)

def checkEntries (entries : Mem) (f : HeaderFields) : Option GptError :=
  if crc32 (entries.load 0 (entriesSize f).toNat) ≠ f.entriesCrc32 then some .crcCorrupted
  else (List.range f.numberOfEntries.toNat).findSome?
    (entryError (fun i => entryFields (entryAt entries i)) f)

def headerFieldsSame (h1 h2 : Mem) : Bool := fields h1 == fields h2

def GptData.entriesFor (gpt : GptData) (f : HeaderFields) : Mask :=
  ⟨checkEntries gpt.primaryEntries f == none, checkEntries gpt.secondaryEntries f == none⟩

def GptData.headersAlone (gpt : GptData) : Mask :=
  ⟨checkHeader gpt.primaryHeader false gpt.streamingDriveSectors gpt.gptDriveSectors gpt.flags,
    checkHeader gpt.secondaryHeader true gpt.streamingDriveSectors gpt.gptDriveSectors gpt.flags⟩

def GptData.goodhdr (gpt : GptData) : Mem :=
  if gpt.headersAlone.primary then gpt.primaryHeader else gpt.secondaryHeader

/-- The headers and entries that fit. The first good header is asked first; if it knows none
of the entries and both headers are good, the secondary one is asked, and the primary one
counts as bad if that helps. -/
def GptData.fitting (gpt : GptData) : Mask × Mask :=
  if gpt.headersAlone = maskBoth ∧ gpt.entriesFor (fields gpt.goodhdr) = maskNone then
    (if gpt.entriesFor (fields gpt.secondaryHeader) = maskNone then maskBoth else maskSecondary,
      gpt.entriesFor (fields gpt.secondaryHeader))
  else (gpt.headersAlone, gpt.entriesFor (fields gpt.goodhdr))

def GptData.mark (gpt : GptData) (headers entries : Mask) : GptData :=
  { gpt with validHeaders := headers, validEntries := entries }

/- The result none is GPT_SUCCESS. -/
def gptSanityCheck (gpt : GptData) : Option GptError × GptData :=
  match checkParameters gpt with
  | some e => (some e, gpt.mark maskNone maskNone)
  | none =>
    if gpt.headersAlone = maskNone then (some .invalidHeaders, gpt.mark maskNone maskNone)
    else if gpt.fitting.2 = maskNone then (some .invalidEntries, gpt.mark gpt.fitting.1 maskNone)
    else if gpt.fitting.1 = maskBoth ∧
        headerFieldsSame gpt.primaryHeader gpt.secondaryHeader = false then
      (none, gpt.mark maskPrimary gpt.fitting.2)
    else (none, gpt.mark gpt.fitting.1 gpt.fitting.2)

def sealHeader (h : Mem) : Mem := h.store 16 (leBytes32 (headerCrc h))

/-- A copy of header src at another place. The rest of the sector stays. -/
def copyHeader (dst src : Mem) (my alternate entries : UInt64) : Mem :=
  sealHeader ((((dst.store 0 (src.load 0 92)).store 24 (leBytes64 my)).store 32
    (leBytes64 alternate)).store 72 (leBytes64 entries))

def repairHeaders (gpt : GptData) : GptData :=
  if gpt.validHeaders = maskPrimary then
    let my := gpt.gptDriveSectors - gptHeaderSectors
    { gpt with
      secondaryHeader := copyHeader gpt.secondaryHeader gpt.primaryHeader my gptPmbrSectors
        (my - calculateEntriesSectors (fields gpt.primaryHeader))
      modified := { gpt.modified with header2 := true } }
  else if gpt.validHeaders = maskSecondary then
    { gpt with
      primaryHeader := copyHeader gpt.primaryHeader gpt.secondaryHeader gptPmbrSectors
        (gpt.streamingDriveSectors - gptHeaderSectors) (gptPmbrSectors + 1)
      modified := { gpt.modified with header1 := true } }
  else gpt

def repairEntries (gpt : GptData) : GptData :=
  let size := (entriesSize (fields gpt.primaryHeader)).toNat
  if gpt.validEntries = maskPrimary then
    { gpt with
      secondaryEntries := gpt.secondaryEntries.store 0 (gpt.primaryEntries.load 0 size)
      modified := { gpt.modified with entries2 := true } }
  else if gpt.validEntries = maskSecondary then
    { gpt with
      primaryEntries := gpt.primaryEntries.store 0 (gpt.secondaryEntries.load 0 size)
      modified := { gpt.modified with entries1 := true } }
  else gpt

def gptRepair (gpt : GptData) : GptData :=
  if gpt.validHeaders = maskNone ∨ gpt.validEntries = maskNone then gpt
  else (repairEntries (repairHeaders gpt)).mark maskBoth maskBoth

def gptInit (gpt : GptData) : Option GptError × GptData :=
  let gpt := { gpt with modified := unmodified, currentKernel := none, currentPriority := 999 }
  match gptSanityCheck gpt with
  | (some e, gpt) => (some e, gpt)
  | (none, gpt) => (none, gptRepair gpt)

end Vboot.Gpt
