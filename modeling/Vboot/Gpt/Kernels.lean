import Vboot.Gpt.Data

/-! Kernel partitions: their attributes, the order in which they are tried and the updates that
a boot makes, firmware/lib/cgptlib/cgptlib.c, and the transfer of the table between disk and
memory, firmware/lib/gpt_misc.c. -/
namespace Vboot.Gpt
open Vboot.Lib

def successfulOffset : UInt16 := 8
def successfulMask : UInt16 := 0x0100
def triesOffset : UInt16 := 4
def triesMask : UInt16 := 0x00F0
def priorityMask : UInt16 := 0x000F

def getEntrySuccessful (e : Ptr) : UInt16 := (gptAtt e &&& successfulMask) >>> successfulOffset

def getEntryTries (e : Ptr) : UInt16 := (gptAtt e &&& triesMask) >>> triesOffset

/- The platform may override the priority of an entry by a number from 1 to 15. -/
def getEntryPriority (override : Ptr → UInt8) (e : Ptr) : Nat :=
  if 0 < override e ∧ override e < 16 then (override e).toNat
  else (gptAtt e &&& priorityMask).toNat

/-- Store new attributes of entry i. -/
def setGptAtt (entries : Mem) (i : Nat) (att : UInt16) : Mem :=
  entries.store (128 * i + gptAttOffset) [att.toUInt8, (att >>> 8).toUInt8]

def attWithTries (att tries : UInt16) : UInt16 :=
  (att &&& ~~~triesMask) ||| ((tries <<< triesOffset) &&& triesMask)

def attWithPriority (att priority : UInt16) : UInt16 :=
  (att &&& ~~~priorityMask) ||| (priority &&& priorityMask)

def attWithSuccessful (att : UInt16) (successful : Bool) : UInt16 :=
  if successful then att ||| successfulMask else att &&& ~~~successfulMask

/-- A kernel entry that has booted before or may still be tried. -/
def isCandidate (e : Ptr) : Bool :=
  isKernelEntry e && (getEntrySuccessful e != 0 || getEntryTries e != 0)

section
variable (override : Ptr → UInt8)

def scanPriority (entries : Mem) (limit : Nat) (best : Option Nat × Nat) (i : Nat) :
    Option Nat × Nat :=
  let e := entryAt entries i
  let prio := getEntryPriority override e
  if isCandidate e ∧ prio < limit ∧ prio > best.2 then (some i, prio) else best

def sameKernelPriority (gpt : GptData) (k : Nat) : Option Nat :=
  ((List.range (fields gpt.primaryHeader).numberOfEntries.toNat).drop (k + 1)).find? fun i =>
    isCandidate (entryAt gpt.primaryEntries i) &&
      getEntryPriority override (entryAt gpt.primaryEntries i) == gpt.currentPriority

/-- The first entry with the highest priority below the current one. -/
def nextKernelPriority (gpt : GptData) : Option Nat × Nat :=
  (List.range (fields gpt.primaryHeader).numberOfEntries.toNat).foldl
    (scanPriority override gpt.primaryEntries gpt.currentPriority) (none, 0)

def partitionOf (gpt : GptData) (i : Nat) : UInt64 × UInt64 :=
  let e := entryAt gpt.primaryEntries i
  (startingLba e, endingLba e - startingLba e + 1)

/- The result none is GPT_ERROR_NO_VALID_KERNEL; otherwise it is the start and the size of
   the partition. -/
def gptNextKernelEntry (gpt : GptData) : Option (UInt64 × UInt64) × GptData :=
  match gpt.currentKernel.bind (sameKernelPriority override gpt) with
  | some i => (some (partitionOf gpt i), { gpt with currentKernel := some i })
  | none =>
    let (kernel, prio) := nextKernelPriority override gpt
    (kernel.map (partitionOf gpt), { gpt with currentKernel := kernel, currentPriority := prio })

end

def getCurrentKernelUniqueGuid (gpt : GptData) : List UInt8 :=
  entryUnique (entryAt gpt.primaryEntries (gpt.currentKernel.getD 0))

inductive UpdateType where
  | try | bad | reset | invalid
  deriving DecidableEq, Repr

/-- The new attributes of an entry, or none if nothing changes. -/
def updatedAtt (e : Ptr) : UpdateType → Option UInt16
  | .try =>
    if getEntrySuccessful e ≠ 0 then none
    else if getEntryTries e > 1 then some (attWithTries (gptAtt e) (getEntryTries e - 1))
    else some (attWithPriority (attWithTries (gptAtt e) 0) 0)
  | .bad =>
    if getEntrySuccessful e ≠ 0 then none
    else some (attWithPriority (attWithTries (gptAtt e) 0) 0)
  | .reset => some (attWithSuccessful (attWithPriority (attWithTries (gptAtt e) 15) 1) true)
  | .invalid => some (attWithSuccessful (attWithPriority (attWithTries (gptAtt e) 0) 0) false)

/-- New checksums, and the repair function brings the other copy up to date. -/
def gptModified (gpt : GptData) : GptData :=
  let header := gpt.primaryHeader.store 88 (leBytes32
    (crc32 (gpt.primaryEntries.load 0 (entriesSize (fields gpt.primaryHeader)).toNat)))
  gptRepair { gpt with
    primaryHeader := sealHeader header
    modified := { gpt.modified with header1 := true, entries1 := true }
    validHeaders := maskPrimary
    validEntries := maskPrimary }

def gptUpdateKernelWithEntry (gpt : GptData) (i : Nat) (updateType : UpdateType) :
    Option GptError × GptData :=
  let e := entryAt gpt.primaryEntries i
  if isKernelEntry e = false then (some .invalidUpdateType, gpt)
  else match updatedAtt e updateType with
    | none => (none, gpt)
    | some att => (none, gptModified { gpt with primaryEntries := setGptAtt gpt.primaryEntries i att })

def gptUpdateKernelEntry (gpt : GptData) (updateType : UpdateType) : Option GptError × GptData :=
  match gpt.currentKernel with
  | none => (some .invalidUpdateType, gpt)
  | some i => gptUpdateKernelWithEntry gpt i updateType

/-- Access to a disk whose state is D, with streams S over ranges of sectors. Every call
returns the platform's result code, 0 for success; reads return the contents of the
buffer. -/
structure Disk (D S : Type) where
  read : UInt64 → UInt64 → D → UInt32 × Mem × D
  write : UInt64 → UInt64 → List UInt8 → D → UInt32 × D
  streamOpen : UInt64 → UInt64 → D → UInt32 × S × D
  streamRead : S → UInt32 → D → UInt32 × Mem × D
  streamClose : S → D → D

section
variable {D S : Type} (disk : Disk D S)

def entriesSectors (gpt : GptData) (header : Mem) : UInt64 :=
  (entriesSize (fields header)).toUInt64 / gpt.sectorBytes.toUInt64

/-- A header that cannot be read is filled with zeroes. -/
def readHeaderSector (gpt : GptData) (lba : UInt64) (buffer : Mem) (d : D) : Mem × D :=
  let (ret, data, d) := disk.read lba 1 d
  let size := gpt.sectorBytes.toNat
  (buffer.store 0 (if ret ≠ 0 then List.replicate size 0 else data.load 0 size), d)

/-- Read the entries of a valid header. The result is whether header and entries were
found. -/
def readEntries (gpt : GptData) (valid : Bool) (header buffer : Mem) (d : D) : Bool × Mem × D :=
  if valid then
    let sectors := entriesSectors gpt header
    let (ret, data, d) := disk.read (entriesLba header) sectors d
    (ret == 0, buffer.store 0 (data.load 0 (sectors.toNat * gpt.sectorBytes.toNat)), d)
  else (false, buffer, d)

/- True is an error. The buffers of gpt hold what was in memory when they were allocated. -/
def allocAndReadGptData (gpt : GptData) (d : D) : Bool × GptData × D :=
  let (header1, d) := readHeaderSector disk gpt 1 gpt.primaryHeader d
  let valid1 := checkHeader header1 false gpt.streamingDriveSectors gpt.gptDriveSectors gpt.flags
  let (found1, entries1, d) := readEntries disk gpt valid1 header1 gpt.primaryEntries d
  let (header2, d) := readHeaderSector disk gpt (gpt.gptDriveSectors - 1) gpt.secondaryHeader d
  let valid2 := checkHeader header2 true gpt.streamingDriveSectors gpt.gptDriveSectors gpt.flags
  let (found2, entries2, d) := readEntries disk gpt valid2 header2 gpt.secondaryEntries d
  (!(found1 || found2),
    { gpt with
      primaryHeader := header1
      secondaryHeader := header2
      primaryEntries := entries1
      secondaryEntries := entries2
      modified := unmodified },
    d)

/-- Write until the first error. -/
def writeAll : List (UInt64 × UInt64 × List UInt8) → D → Bool × D
  | [], d => (false, d)
  | (lba, count, data) :: rest, d =>
    let (ret, d) := disk.write lba count data d
    if ret ≠ 0 then (true, d) else writeAll rest d

/-- What a table that was modified has to have written, in order. A primary table with the
other signature is left alone. -/
def pendingWrites (gpt : GptData) : List (UInt64 × UInt64 × List UInt8) :=
  let legacy := gpt.modified ≠ unmodified ∧
    (fields gpt.primaryHeader).signature = gptHeaderSignature2
  let sectors := entriesSectors gpt gpt.primaryHeader
  let bytes := sectors.toNat * gpt.sectorBytes.toNat
  (if gpt.modified.header1 ∧ ¬legacy then
    [(1, 1, gpt.primaryHeader.load 0 gpt.sectorBytes.toNat)] else []) ++
  (if gpt.modified.entries1 ∧ ¬legacy then
    [(entriesLba gpt.primaryHeader, sectors, gpt.primaryEntries.load 0 bytes)] else []) ++
  (if gpt.modified.header2 then
    [(gpt.gptDriveSectors - 1, 1, gpt.secondaryHeader.load 0 gpt.sectorBytes.toNat)] else []) ++
  (if gpt.modified.entries2 then
    [(entriesLba gpt.secondaryHeader, sectors, gpt.secondaryEntries.load 0 bytes)] else [])

/- True is an error. -/
def writeAndFreeGptData (gpt : GptData) (d : D) : Bool × D := writeAll disk (pendingWrites gpt) d

end
end Vboot.Gpt
