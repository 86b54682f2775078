import Vboot.Lib.Loop
import Vboot.Firmware.Load
import Vboot.Gpt.Order

/-! Loading a kernel from a disk, LoadKernel of firmware/lib/vboot_kernel.c. The records that it
keeps about its calls for the operating system are left out. -/
namespace Vboot
open Vboot.Lib Vboot.Gpt

def kbufSize : UInt64 := 65536
def lowestTpmVersion : UInt32 := 0xFFFFFFFF

inductive BootMode where
  | recovery | normal | developer
  deriving DecidableEq, Repr

def bootFlagDeveloper : UInt64 := 0x01
def bootFlagRecovery : UInt64 := 0x02
def bootFlagExternalGpt : UInt64 := 0x04

/- Results of checking one partition. -/
def lkpCheckTooSmall : UInt8 := 1
def lkpCheckReadStart : UInt8 := 2
def lkpCheckKeyBlockSig : UInt8 := 3
def lkpCheckKeyBlockHash : UInt8 := 4
def lkpCheckDevMismatch : UInt8 := 5
def lkpCheckRecMismatch : UInt8 := 6
def lkpCheckKeyRollback : UInt8 := 7
def lkpCheckDataKeyParse : UInt8 := 8
def lkpCheckVerifyPreamble : UInt8 := 9
def lkpCheckKernelRollback : UInt8 := 10
def lkpCheckBodyOffset : UInt8 := 13
def lkpCheckSelfSigned : UInt8 := 14
def lkpCheckBodyExceedsMem : UInt8 := 15
def lkpCheckReadData : UInt8 := 17
def lkpCheckVerifyData : UInt8 := 18

def recoveryRwNoOs : UInt32 := 0x42
def recoveryRwInvalidOs : UInt32 := 0x43
def recoveryLkUnspecified : UInt32 := 0x59

def vbErrorNoKernelFound : UInt32 := 0x1000F
def vbErrorInvalidKernelFound : UInt32 := 0x10010
def vbErrorInvalidParameter : UInt32 := 0x10017

/-- The GBB and uninitialised memory, from VbCommonParams and the stack. -/
structure VbCommonParams where
  gbb : Ptr
  gbbAccess : GbbAccess
  sharedDataSize : UInt32
  heap : Mem
  heap' : Mem

def vbGbbReadRecoveryKey (cparams : VbCommonParams) : Except UInt32 Ptr :=
  vbGbbReadKey cparams.gbbAccess cparams.gbb.recoveryKeyOffset cparams.heap cparams.heap'

/- A kernel buffer at address 0 is the null pointer. -/
structure LoadKernelParams where
  sharedDataSize : UInt64
  bytesPerLba : UInt64
  streamingLbaCount : UInt64
  gptLbaCount : UInt64
  kernelBuffer : UInt64
  kernelBufferSize : UInt64
  bootFlags : UInt64
  partitionNumber : UInt64
  bootloaderAddress : UInt64
  bootloaderSize : UInt64
  partitionGuid : List UInt8
  flags : UInt32

namespace LoadKernelParams

def devSwitch (params : LoadKernelParams) : Bool := params.bootFlags &&& bootFlagDeveloper != 0

def recSwitch (params : LoadKernelParams) : Bool := params.bootFlags &&& bootFlagRecovery != 0

def bootMode (params : LoadKernelParams) : BootMode :=
  if params.recSwitch then .recovery else if params.devSwitch then .developer else .normal

/-- Clear the outputs in case the call fails. -/
def clear (params : LoadKernelParams) : LoadKernelParams :=
  { params with partitionNumber := 0, bootloaderAddress := 0, bootloaderSize := 0, flags := 0 }

end LoadKernelParams

def VbSharedData.kernelSubkeyPtr (shared : VbSharedData) : Ptr :=
  let key := shared.kernelSubkey
  ⟨shared.data.store kernelSubkeyFieldOffset.toNat (leBytes64 key.keyOffset ++
    leBytes64 key.keySize ++ leBytes64 key.algorithm ++ leBytes64 key.keyVersion),
    kernelSubkeyFieldOffset.toNat⟩

def kernelKey (cparams : VbCommonParams) (shared : VbSharedData) : BootMode → Except UInt32 Ptr
  | .recovery => vbGbbReadRecoveryKey cparams
  | .normal | .developer => .ok shared.kernelSubkeyPtr

/-- What the checks of all partitions of one call have in common. -/
structure KernelChecks where
  mode : BootMode
  devSwitch : Bool
  requireOfficialOs : Bool
  subkey : Ptr
  kernelVersionTpm : UInt32
  nofailBoot : Bool

/-- What the header of a partition says. -/
structure KernelHeader where
  keyBlockValid : Bool
  combinedVersion : UInt32
  dataKey : RSAPublicKey

def kernelKeyBlock (kbuf : Mem) : Ptr := ⟨kbuf, 0⟩

/-- The preamble follows the key block. -/
def kernelPreamble (kbuf : Mem) : Ptr :=
  (kernelKeyBlock kbuf).add (kernelKeyBlock kbuf).keyBlockSize.toNat

def kernelCombinedVersion (kbuf : Mem) : UInt32 :=
  ((kernelKeyBlock kbuf).dataKey.keyVersion <<< 16 |||
    ((kernelPreamble kbuf).kernelVersion &&& 0xFFFF)).toUInt32

section
variable {Ctx : Type} (crypto : Crypto Ctx) (c : KernelChecks)

/-- The signature of the key block. In developer mode a good hash will do unless the operating
system has to be signed. -/
def checkKernelKeyBlock (kbuf : Mem) : Except UInt8 Bool :=
  let keyBlock := kernelKeyBlock kbuf
  if fails (keyBlockVerify crypto keyBlock kbufSize (some c.subkey) false) then do
    reject (c.mode ≠ .developer) lkpCheckKeyBlockSig
    reject (c.requireOfficialOs = true) lkpCheckSelfSigned
    reject (fails (keyBlockVerify crypto keyBlock kbufSize (some c.subkey) true))
      lkpCheckKeyBlockHash
    return false
  else return true

def devMismatch (kbuf : Mem) : Bool :=
  (kernelKeyBlock kbuf).keyBlockFlags &&&
    (if c.devSwitch then keyBlockFlagDeveloper1 else keyBlockFlagDeveloper0) == 0

def recMismatch (kbuf : Mem) : Bool :=
  (kernelKeyBlock kbuf).keyBlockFlags &&&
    (if c.mode = .recovery then keyBlockFlagRecovery1 else keyBlockFlagRecovery0) == 0

/-- A key version that is too old, or that does not fit into 16 bits, except in recovery mode. -/
def keyRollback (kbuf : Mem) : Bool :=
  let keyVersion := (kernelKeyBlock kbuf).dataKey.keyVersion
  c.mode ≠ .recovery ∧ (keyVersion < (c.kernelVersionTpm >>> 16).toUInt64 ∨ keyVersion > 0xFFFF)

def mismatchResult (kbuf : Mem) : UInt8 :=
  if keyRollback c kbuf then lkpCheckKeyRollback
  else if recMismatch c kbuf then lkpCheckRecMismatch
  else lkpCheckDevMismatch

def checkKernelHeader (kbuf : Mem) : Except UInt8 KernelHeader := do
  let signed ← checkKernelKeyBlock crypto c kbuf
  let valid := signed && !devMismatch c kbuf && !recMismatch c kbuf && !keyRollback c kbuf
  reject (c.mode ≠ .developer ∧ valid = false) (mismatchResult c kbuf)
  let keyBlock := kernelKeyBlock kbuf
  let dataKey ← require (publicKeyToRSA keyBlock.dataKey) lkpCheckDataKeyParse
  reject (fails (verifyKernelPreamble crypto (kernelPreamble kbuf)
    (kbufSize - keyBlock.keyBlockSize) dataKey)) lkpCheckVerifyPreamble
  -- the version only counts for a valid key block, and developers may go back
  reject (valid = true ∧ c.mode ≠ .recovery ∧ kernelCombinedVersion kbuf < c.kernelVersionTpm ∧
    c.mode ≠ .developer) lkpCheckKernelRollback
  return ⟨valid, kernelCombinedVersion kbuf, dataKey⟩

end

/-- The variables that the loop over the partitions carries. found counts the partitions, and
good is whether the key block of the first good partition was valid. -/
structure KernelSearch (D : Type) where
  gpt : GptData
  params : LoadKernelParams
  ram : Mem
  disk : D
  found : Nat
  good : Option Bool
  lowestVersion : UInt32

section
variable {Ctx D S : Type} (crypto : Crypto Ctx) (disk : Disk D S) (c : KernelChecks)

/-- Open a partition and read its start. -/
def openKernel (part : UInt64 × UInt64) (d : D) : Except UInt8 (S × Mem) × D :=
  let (ret, stream, d) := disk.streamOpen part.1 part.2 d
  if ret ≠ 0 then (.error lkpCheckTooSmall, d)
  else
    let (ret, kbuf, d) := disk.streamRead stream kbufSize.toUInt32 d
    if ret ≠ 0 then (.error lkpCheckReadStart, disk.streamClose stream d)
    else (.ok (stream, kbuf), d)

/-- The number of bytes of the body that are in the kernel header buffer. -/
def bodyCopied (bodyOffset : UInt64) (bodyToread : UInt32) : UInt32 :=
  if bodyOffset < kbufSize then
    if (kbufSize - bodyOffset).toUInt32 > bodyToread then bodyToread
    else (kbufSize - bodyOffset).toUInt32
  else 0

def bodyOffset (kbuf : Mem) : UInt64 :=
  (kernelKeyBlock kbuf).keyBlockSize + (kernelPreamble kbuf).preambleSize

def kernelBodySize (kbuf : Mem) : UInt64 := (kernelPreamble kbuf).kernelBodySignature.dataSize

/-- Without a kernel buffer the preamble says where the kernel goes. -/
def placeKernel (kbuf : Mem) (params : LoadKernelParams) : LoadKernelParams :=
  if params.kernelBuffer = 0 then
    { params with
      kernelBuffer := (kernelPreamble kbuf).bodyLoadAddress
      kernelBufferSize := kernelBodySize kbuf }
  else params

/- The number of bytes to read is the low half of the 64-bit size. True is a read error. -/
def readBody (stream : S) (kbuf : Mem) (buffer : Nat) (ram : Mem) (d : D) : Bool × Mem × D :=
  let bodyToread := (kernelBodySize kbuf).toUInt32
  let copied := bodyCopied (bodyOffset kbuf) bodyToread
  let ram := ram.store buffer (kbuf.load (bodyOffset kbuf).toNat copied.toNat)
  let rest := bodyToread - copied
  if rest = 0 then (false, ram, d)
  else
    let (ret, data, d) := disk.streamRead stream rest d
    (ret != 0, ram.store (buffer + copied.toNat) (data.load 0 rest.toNat), d)

/-- Load the body of a partition into memory and verify it. -/
def loadBody (stream : S) (kbuf : Mem) (dataKey : RSAPublicKey) (s : KernelSearch D) :
    Except UInt8 Unit × KernelSearch D :=
  if bodyOffset kbuf > kbufSize then
    (.error lkpCheckBodyOffset, { s with disk := disk.streamClose stream s.disk })
  else if s.params.kernelBuffer ≠ 0 ∧ kernelBodySize kbuf > s.params.kernelBufferSize then
    (.error lkpCheckBodyExceedsMem, { s with disk := disk.streamClose stream s.disk })
  else
    let params := placeKernel kbuf s.params
    let (err, ram, d) := readBody disk stream kbuf params.kernelBuffer.toNat s.ram s.disk
    let s := { s with params := params, ram := ram, disk := disk.streamClose stream d }
    if err then (.error lkpCheckReadData, s)
    else if verifyData crypto ⟨ram, params.kernelBuffer.toNat⟩ params.kernelBufferSize
        (kernelPreamble kbuf).kernelBodySignature dataKey then
      (.error lkpCheckVerifyData, s)
    else (.ok (), s)

/- The result true is VBOOT_SUCCESS. -/
def vbKernelHasFlags (preamble : Ptr) : Bool := preamble.preambleVersionMinor > 1

def reportKernel (gpt : GptData) (kbuf : Mem) (params : LoadKernelParams) : LoadKernelParams :=
  let preamble := kernelPreamble kbuf
  { params with
    partitionNumber := UInt64.ofNat (gpt.currentKernel.elim 0 (· + 1))
    partitionGuid := getCurrentKernelUniqueGuid gpt
    bootloaderAddress := preamble.bootloaderAddress
    bootloaderSize := preamble.bootloaderSize
    flags := if vbKernelHasFlags preamble then preamble.kernelFlags else params.flags }

/-- Take a partition that passed every check. The loop stops if the versions of the others do
not matter. -/
def takeKernel (kbuf : Mem) (h : KernelHeader) (s : KernelSearch D) : KernelSearch D × Bool :=
  ({ s with
    params := reportKernel s.gpt kbuf s.params
    good := some h.keyBlockValid
    gpt := if c.nofailBoot then s.gpt else (gptUpdateKernelEntry s.gpt .try).2 },
    c.mode == .recovery || !h.keyBlockValid || h.combinedVersion == c.kernelVersionTpm)

/-- Give up a partition. -/
def badKernel (s : KernelSearch D) : KernelSearch D × Bool :=
  ({ s with gpt := (gptUpdateKernelEntry s.gpt .bad).2 }, false)

/-- A valid header counts for the lowest version. -/
def sawKernel (h : KernelHeader) (s : KernelSearch D) : KernelSearch D :=
  { s with lowestVersion := if h.keyBlockValid ∧ s.lowestVersion > h.combinedVersion then
      h.combinedVersion else s.lowestVersion }

/-- Once there is a good kernel only the headers of the others are looked at. -/
def tryBody (stream : S) (kbuf : Mem) (h : KernelHeader) (s : KernelSearch D) :
    KernelSearch D × Bool :=
  if s.good ≠ none then ({ s with disk := disk.streamClose stream s.disk }, false)
  else match loadBody crypto disk stream kbuf h.dataKey s with
    | (.error _, s) => badKernel s
    | (.ok _, s) => takeKernel c kbuf h s

/-- One iteration of the loop, for the partition at part. -/
def tryPartition (part : UInt64 × UInt64) (s : KernelSearch D) : KernelSearch D × Bool :=
  match openKernel disk part s.disk with
  | (.error _, d) => badKernel { s with disk := d, found := s.found + 1 }
  | (.ok (stream, kbuf), d) =>
    match checkKernelHeader crypto c kbuf with
    | .error _ => badKernel { s with disk := disk.streamClose stream d, found := s.found + 1 }
    | .ok h => tryBody crypto disk c stream kbuf h
        (sawKernel h { s with disk := d, found := s.found + 1 })

variable (override : Ptr → UInt8)

/-- The loop ends when there are no more partitions or a good one was the last that matters. -/
def kernelStep (s : KernelSearch D) : KernelSearch D × Bool :=
  match gptNextKernelEntry override s.gpt with
  | (none, gpt) => ({ s with gpt := gpt }, true)
  | (some part, gpt) => tryPartition crypto disk c part { s with gpt := gpt }

inductive Streamed (d : D) : D → Prop where
  | refl : Streamed d d
  | streamOpen {d' : D} (h : Streamed d d') (start count : UInt64) :
    Streamed d (disk.streamOpen start count d').2.2
  | streamRead {d' : D} (h : Streamed d d') (stream : S) (count : UInt32) :
    Streamed d (disk.streamRead stream count d').2.2
  | streamClose {d' : D} (h : Streamed d d') (stream : S) : Streamed d (disk.streamClose stream d')

theorem Streamed.trans {disk : Disk D S} {d d' d'' : D} (h : Streamed disk d d')
    (h' : Streamed disk d' d'') : Streamed disk d d'' := by
  induction h' with
  | refl => exact h
  | streamOpen _ start count ih => exact ih.streamOpen start count
  | streamRead _ stream count ih => exact ih.streamRead stream count
  | streamClose _ stream ih => exact ih.streamClose stream

theorem Streamed.keeps {disk : Disk D S} {V : Type} (view : D → V) {d d' : D}
    (hopen : ∀ start count d, view (disk.streamOpen start count d).2.2 = view d)
    (hread : ∀ stream count d, view (disk.streamRead stream count d).2.2 = view d)
    (hclose : ∀ stream d, view (disk.streamClose stream d) = view d) (h : Streamed disk d d') :
    view d' = view d := by
  induction h with
  | refl => rfl
  | streamOpen _ start count ih => rw [hopen, ih]
  | streamRead _ stream count ih => rw [hread, ih]
  | streamClose _ stream ih => rw [hclose, ih]

variable (part : UInt64 × UInt64)

theorem openKernel_streamed (d : D) :
    Streamed disk d (openKernel disk part d).2 := by
  have hopen := (Streamed.refl : Streamed disk d d).streamOpen part.1 part.2
  unfold openKernel
  dsimp only
  split_ifs
  · exact hopen
  · exact (hopen.streamRead _ _).streamClose _
  · exact hopen.streamRead _ _
variable (stream : S) (kbuf : Mem) (s : KernelSearch D) (k : RSAPublicKey)

/-- What loading a body leaves alone. -/
structure Loaded (s s' : KernelSearch D) : Prop where
  streamed : Streamed disk s.disk s'.disk
  gpt : s'.gpt = s.gpt
  good : s'.good = s.good
  lowest : s'.lowestVersion = s.lowestVersion
  bootFlags : s'.params.bootFlags = s.params.bootFlags
  number : s'.params.partitionNumber = s.params.partitionNumber

variable {stream kbuf s k} in
theorem loadBody_loaded {r : Except UInt8 Unit} {s' : KernelSearch D}
    (h : loadBody crypto disk stream kbuf k s = (r, s')) : Loaded disk s s' := by
  have hread (buffer : Nat) :
      Streamed disk s.disk (readBody disk stream kbuf buffer s.ram s.disk).2.2 := by
    unfold readBody
    dsimp only
    split_ifs
    · exact .refl
    · exact Streamed.refl.streamRead _ _
  unfold loadBody placeKernel at h
  dsimp only at h
  split_ifs at h
  · cases h
    exact ⟨Streamed.refl.streamClose _, rfl, rfl, rfl, rfl, rfl⟩
  · cases h
    exact ⟨Streamed.refl.streamClose _, rfl, rfl, rfl, rfl, rfl⟩
  all_goals
    cases h
    exact ⟨(hread _).streamClose _, rfl, rfl, rfl, rfl, rfl⟩

/-- The state after the header of a partition. -/
def KernelSearch.headed (h : KernelHeader) (d : D) : KernelSearch D :=
  sawKernel h { s with disk := d, found := s.found + 1 }

/-- How a round ends: without a header, with no need for the body, or with the body loaded. -/
inductive Round (part : UInt64 × UInt64) (s : KernelSearch D) : KernelSearch D → Prop where
  | refused (d : D) (streamed : Streamed disk s.disk d)
    (bad : ∀ stream kbuf d h, openKernel disk part s.disk = (.ok (stream, kbuf), d) →
      checkKernelHeader crypto c kbuf ≠ .ok h) :
    Round part s (badKernel { s with disk := d, found := s.found + 1 }).1
  | passed (h : KernelHeader) (d : D) (streamed : Streamed disk s.disk d) (known : s.good ≠ none) :
    Round part s (s.headed h d)
  | loaded (stream : S) (kbuf : Mem) (d : D) (h : KernelHeader)
    (opened : openKernel disk part s.disk = (.ok (stream, kbuf), d))
    (header : checkKernelHeader crypto c kbuf = .ok h) (first : s.good = none) (r : Except UInt8 Unit)
    (s' : KernelSearch D) (body : loadBody crypto disk stream kbuf h.dataKey (s.headed h d) = (r, s')) :
    Round part s (match r with
      | .error _ => badKernel s'
      | .ok _ => takeKernel c kbuf h s').1

theorem tryPartition_round (s : KernelSearch D) :
    Round crypto disk c part s (tryPartition crypto disk c part s).1 := by
  have hopen := openKernel_streamed disk part s.disk
  unfold tryPartition
  cases ho : openKernel disk part s.disk with
  | mk r d =>
    rw [ho] at hopen
    cases r with
    | error e => exact .refused d hopen fun _ _ _ _ h => by cases ho.symm.trans h
    | ok sk =>
      obtain ⟨stream, kbuf⟩ := sk
      dsimp only
      cases hc : checkKernelHeader crypto c kbuf with
      | error e =>
        refine .refused _ (hopen.streamClose stream) fun _ _ _ _ h hok => ?_
        cases ho.symm.trans h
        cases hc.symm.trans hok
      | ok h =>
        dsimp only [tryBody]
        split_ifs with hknown
        · exact .passed h _ (hopen.streamClose stream) hknown
        · cases hl : loadBody crypto disk stream kbuf h.dataKey (s.headed h d) with
          | mk r s' =>
            have hround := Round.loaded stream kbuf d h ho hc (not_not.mp hknown) r s' hl
            unfold KernelSearch.headed at hl
            rw [hl]
            cases r with
            | error e => exact hround
            | ok u => exact hround

/-- What becomes of the partition that a round looks at. -/
inductive Verdict (s s' : KernelSearch D) : Prop where
  | bad (gpt : s'.gpt = (gptUpdateKernelEntry s.gpt .bad).2) (good : s'.good = s.good)
    (number : s'.params.partitionNumber = s.params.partitionNumber)
  | passed (known : s.good ≠ none) (gpt : s'.gpt = s.gpt) (good : s'.good = s.good)
    (number : s'.params.partitionNumber = s.params.partitionNumber)
  | taken (first : s.good = none)
    (gpt : s'.gpt = if c.nofailBoot then s.gpt else (gptUpdateKernelEntry s.gpt .try).2)
    (good : s'.good ≠ none)
    (number : s'.params.partitionNumber = UInt64.ofNat (s.gpt.currentKernel.elim 0 (· + 1)))

/-- What a round does with a partition. -/
structure Tried (s s' : KernelSearch D) : Prop where
  disk : Streamed disk s.disk s'.disk
  bootFlags : s'.params.bootFlags = s.params.bootFlags
  verdict : Verdict c s s'

theorem tryPartition_tried (s : KernelSearch D) :
    Tried disk c s (tryPartition crypto disk c part s).1 := by
  have hround := tryPartition_round crypto disk c part s
  generalize (tryPartition crypto disk c part s).1 = s' at hround ⊢
  cases hround with
  | refused d streamed bad => exact ⟨streamed, rfl, .bad rfl rfl rfl⟩
  | passed h d streamed known => exact ⟨streamed, rfl, .passed known rfl rfl rfl⟩
  | loaded stream kbuf d h opened header first r s' body =>
    have hopen := openKernel_streamed disk part s.disk
    rw [opened] at hopen
    have hl := loadBody_loaded crypto disk body
    have hgpt : s'.gpt = s.gpt := hl.gpt
    cases r with
    | error e => exact ⟨hopen.trans hl.streamed, hl.bootFlags, .bad (by rw [← hgpt]; rfl) hl.good hl.number⟩
    | ok u =>
      exact ⟨hopen.trans hl.streamed, hl.bootFlags, .taken first (by rw [← hgpt]; rfl)
        (Option.some_ne_none _) (by rw [← hgpt]; rfl)⟩

theorem kernelStep_cases :
    (∃ gpt, gptNextKernelEntry override s.gpt = (none, gpt) ∧
      kernelStep crypto disk c override s = ({ s with gpt := gpt }, true)) ∨
    ∃ part gpt i, gptNextKernelEntry override s.gpt = (some part, gpt) ∧ Chosen s.gpt gpt part i ∧
      kernelStep crypto disk c override s = tryPartition crypto disk c part { s with gpt := gpt } := by
  rw [kernelStep]
  cases hn : gptNextKernelEntry override s.gpt with
  | mk part gpt =>
    cases part with
    | none => exact .inl ⟨gpt, rfl, rfl⟩
    | some part =>
      obtain ⟨i, hi⟩ := gptNextKernelEntry_some override hn
      exact .inr ⟨part, gpt, i, rfl, hi, rfl⟩

theorem Verdict.remaining {c : KernelChecks} {s s' : KernelSearch D} (h : Verdict c s s') :
    remaining s'.gpt = remaining s.gpt := by
  have hupdate (u : UpdateType) :
      Gpt.remaining (gptUpdateKernelEntry s.gpt u).2 = Gpt.remaining s.gpt :=
    remaining_congr (gptUpdateKernelEntry_frame s.gpt u).2.1 (gptUpdateKernelEntry_frame s.gpt u).2.2
  cases h with
  | bad gpt good number => rw [gpt, hupdate]
  | passed known gpt good number => rw [gpt]
  | taken first gpt good number =>
    rw [gpt]
    split_ifs
    · rfl
    · exact hupdate .try

def KernelSearch.left : Nat := remaining s.gpt

theorem kernelStep_left (s' : KernelSearch D) (h : kernelStep crypto disk c override s = (s', false)) :
    s'.left < s.left := by
  rcases kernelStep_cases crypto disk c override s with ⟨gpt, -, he⟩ | ⟨part, gpt, i, -, hc, he⟩
  · rw [he] at h
    cases h
  · have hr := (tryPartition_tried crypto disk c part { s with gpt := gpt }).verdict.remaining
    rw [← he, h] at hr
    exact hr.trans_lt hc.lower

theorem kernelLoop_isSome :
    (repeatUntil (kernelStep crypto disk c override) (s.left + 1) s).isSome = true :=
  repeatUntil_isSome KernelSearch.left (kernelStep_left crypto disk c override) (s.left + 1) s
    (Nat.lt_succ_self s.left)

/-- The loop, which ends before the partitions are used up. -/
def kernelLoop : KernelSearch D :=
  (repeatUntil (kernelStep crypto disk c override) (s.left + 1) s).get
    (kernelLoop_isSome crypto disk c override s)

theorem kernelLoop_invariant {Inv : KernelSearch D → Prop}
    (hstep : ∀ s, Inv s → Inv (kernelStep crypto disk c override s).1) {s : KernelSearch D}
    (h : Inv s) : Inv (kernelLoop crypto disk c override s) := by
  have hround (a b : KernelSearch D) (stop : Bool) (ha : Inv a)
      (hb : kernelStep crypto disk c override a = (b, stop)) : Inv b := by
    have hr := hstep a ha
    rw [hb] at hr
    exact hr
  exact repeatUntil_invariant (fun a b => hround a b false) (fun a b => hround a b true) _ s _ h
    (Option.some_get _).symm

variable (cparams : VbCommonParams)

structure KernelState (D : Type) where
  params : LoadKernelParams
  shared : VbSharedData
  vnc : VbNvContext
  ram : Mem
  disk : D

/-- Store the recovery request and whether the key block of the kernel was valid. -/
def loadKernelExit (retval recovery : UInt32) (keyBlockValid : Bool) (s : KernelState D) :
    UInt32 × KernelState D :=
  (retval, { s with
    vnc := vbNvSet s.vnc .recoveryRequest
      (if vbErrorSuccess ≠ retval then recovery else recoveryNotRequested)
    shared := if keyBlockValid then
      { s.shared with flags := s.shared.flags ||| vbsdKernelKeyVerified } else s.shared
    params := { s.params with sharedDataSize := s.shared.dataUsed } })

/-- The version to store in the TPM, which only goes up. -/
def raiseKernelVersion (shared : VbSharedData) (lowestVersion : UInt32) : VbSharedData :=
  { shared with
    kernelVersionLowest := lowestVersion
    kernelVersionTpm :=
      if lowestVersion ≠ lowestTpmVersion ∧ lowestVersion > shared.kernelVersionTpm then lowestVersion
      else shared.kernelVersionTpm }

/-- After the loop: write the table back and say what was found. -/
def kernelFound (k : KernelSearch D) (s : KernelState D) : UInt32 × KernelState D :=
  let s := { s with
    params := k.params
    ram := k.ram
    disk := (writeAndFreeGptData disk k.gpt k.disk).2 }
  match k.good with
  | some keyBlockValid => loadKernelExit vbErrorSuccess recoveryLkUnspecified keyBlockValid
      { s with shared := raiseKernelVersion s.shared k.lowestVersion }
  | none =>
    if k.found > 0 then loadKernelExit vbErrorInvalidKernelFound recoveryRwInvalidOs false s
    else loadKernelExit vbErrorNoKernelFound recoveryRwNoOs false s

/-- The table before it is read; gpt is uninitialised memory. -/
def gptFor (gpt : GptData) (params : LoadKernelParams) : GptData :=
  { gpt with
    sectorBytes := params.bytesPerLba.toUInt32
    streamingDriveSectors := params.streamingLbaCount
    gptDriveSectors := params.gptLbaCount
    flags := if params.bootFlags &&& bootFlagExternalGpt ≠ 0 then gptFlagExternal else 0 }

/-- The inputs of the checks. Whether the operating system has to be signed is only asked in
developer mode. -/
def kernelChecks (params : LoadKernelParams) (shared : VbSharedData) (vnc : VbNvContext)
    (subkey : Ptr) : KernelChecks where
  mode := params.bootMode
  devSwitch := params.devSwitch
  requireOfficialOs := params.bootMode == .developer && vbNvGet vnc .devBootSignedOnly != 0
  subkey := subkey
  kernelVersionTpm := shared.kernelVersionTpm
  nofailBoot := shared.flags &&& vbsdNofailBoot != 0

/-- Nothing has been looked at yet. -/
def KernelSearch.start (gpt : GptData) (s : KernelState D) : KernelSearch D where
  gpt := gpt
  params := s.params
  ram := s.ram
  disk := s.disk
  found := 0
  good := none
  lowestVersion := lowestTpmVersion

/-- The table as it was read and initialised, or none if that failed. -/
def readGpt (gpt : GptData) (d : D) : Option GptData × GptData × D :=
  let (err, gpt, d) := allocAndReadGptData disk gpt d
  if err then (none, gpt, d)
  else match gptInit gpt with
    | (some _, gpt) => (none, gpt, d)
    | (none, gpt) => (some gpt, gpt, d)

/-- Look for a kernel with the given key. A table that cannot be read has no kernels. -/
def findKernel (gpt : GptData) (subkey : Ptr) (s : KernelState D) : UInt32 × KernelState D :=
  match readGpt disk (gptFor gpt s.params) s.disk with
  | (none, gpt, d) => kernelFound disk (.start gpt { s with disk := d }) s
  | (some gpt, _, d) =>
    let c := kernelChecks s.params s.shared s.vnc subkey
    kernelFound disk (kernelLoop crypto disk c override (.start gpt { s with disk := d })) s

def loadKernel (gpt : GptData) (s : KernelState D) : UInt32 × KernelState D :=
  if s.params.bytesPerLba = 0 ∨ s.params.streamingLbaCount = 0 then
    loadKernelExit vbErrorInvalidParameter recoveryLkUnspecified false s
  else
    let s := { s with params := s.params.clear }
    if kbufSize / s.params.bytesPerLba = 0 then
      loadKernelExit vbErrorInvalidParameter recoveryLkUnspecified false s
    else match kernelKey cparams s.shared s.params.bootMode with
      | .error e => loadKernelExit e recoveryLkUnspecified false s
      | .ok subkey => findKernel crypto disk override gpt subkey s

end
end Vboot
