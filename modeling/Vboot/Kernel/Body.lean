import Vboot.Gpt.Transfer
import Vboot.Kernel.Independence

/-! The body of a kernel in memory is what the partition holds behind the key block and the
preamble, if streams deliver their partition byte by byte. firmware/stub/vboot_api_stub_stream.c
has such streams. -/
namespace Vboot
open Vboot.Lib Vboot.Gpt

section
variable {D S : Type}

/-- Streams deliver the bytes of the partition that begins at a sector one after the other, and
rest is what a stream has still to deliver. Reading changes no partition. -/
structure Sequential (disk : Disk D S) (bytes : D → UInt64 → Mem) (rest : D → S → Mem) : Prop where
  opened : ∀ start count d, (disk.streamOpen start count d).1 = 0 →
    rest (disk.streamOpen start count d).2.2 (disk.streamOpen start count d).2.1 = bytes d start
  delivers : ∀ stream n d, (disk.streamRead stream n d).1 = 0 →
    (disk.streamRead stream n d).2.1.load 0 n.toNat = (rest d stream).load 0 n.toNat ∧
    rest (disk.streamRead stream n d).2.2 stream = (rest d stream).window n.toNat
  read_keeps : ∀ lba count d, bytes (disk.read lba count d).2.2 = bytes d
  streamOpen_keeps : ∀ start count d, bytes (disk.streamOpen start count d).2.2 = bytes d
  streamRead_keeps : ∀ stream n d, bytes (disk.streamRead stream n d).2.2 = bytes d
  streamClose_keeps : ∀ stream d, bytes (disk.streamClose stream d) = bytes d

variable {disk : Disk D S} {bytes : D → UInt64 → Mem} {rest : D → S → Mem}

theorem Sequential.streamed (hs : Sequential disk bytes rest) {d d' : D} (h : Streamed disk d d') :
    bytes d' = bytes d :=
  h.keeps bytes hs.streamOpen_keeps hs.streamRead_keeps hs.streamClose_keeps

theorem openKernel_sequential (hs : Sequential disk bytes rest) {part : UInt64 × UInt64} {d d' : D}
    {stream : S} {kbuf : Mem} (h : openKernel disk part d = (.ok (stream, kbuf), d')) :
    kbuf.load 0 65536 = (bytes d part.1).load 0 65536 ∧
      rest d' stream = (bytes d part.1).window 65536 := by
  unfold openKernel at h
  dsimp only at h
  split_ifs at h with hopen hread
  all_goals cases h
  have hstart := hs.opened part.1 part.2 d (not_not.mp hopen)
  have hnext := hs.delivers _ _ _ (not_not.mp hread)
  rw [hstart] at hnext
  exact hnext

theorem toNat_bodyCopied {offset : UInt64} (toread : UInt32) (h : offset ≤ kbufSize) :
    (bodyCopied offset toread).toNat = min (65536 - offset.toNat) toread.toNat := by
  have hk : kbufSize.toNat = 65536 := rfl
  have hle := UInt64.le_iff_toNat_le.mp h
  have hsub : (kbufSize - offset).toUInt32.toNat = 65536 - offset.toNat := by
    rw [UInt64.toNat_toUInt32, UInt64.toNat_sub_of_le _ _ h, hk]
    omega
  unfold bodyCopied
  split_ifs with hlt hgt
  · rw [gt_iff_lt, UInt32.lt_iff_toNat_lt, hsub] at hgt
    omega
  · rw [gt_iff_lt, UInt32.lt_iff_toNat_lt, hsub] at hgt
    rw [hsub]
    omega
  · rw [UInt64.lt_iff_toNat_lt] at hlt
    rw [UInt32.toNat_zero]
    omega

/-- The part of the body that is in the buffer and the part that is read after it follow each
other in the partition. -/
theorem bodyBytes_sequential (hs : Sequential disk bytes rest) {stream : S} {kbuf part : Mem} {d : D}
    {body : List UInt8} (hkbuf : kbuf.load 0 65536 = part.load 0 65536)
    (hrest : rest d stream = part.window 65536) (hoff : bodyOffset kbuf ≤ kbufSize)
    (h : bodyBytes kbuf (further disk stream d) = some body) :
    body = part.load (bodyOffset kbuf).toNat (kernelBodySize kbuf).toUInt32.toNat := by
  have hcopied := toNat_bodyCopied (kernelBodySize kbuf).toUInt32 hoff
  have hle := bodyCopied_le (bodyOffset kbuf) (kernelBodySize kbuf).toUInt32
  have hk : kbufSize.toNat = 65536 := rfl
  have hoff := UInt64.le_iff_toNat_le.mp hoff
  dsimp only [bodyBytes] at h
  generalize (kernelBodySize kbuf).toUInt32 = toread at hcopied hle h ⊢
  generalize bodyCopied (bodyOffset kbuf) toread = copied at hcopied hle h
  generalize (bodyOffset kbuf).toNat = offset at hcopied hoff h ⊢
  have hsub : (toread - copied).toNat = toread.toNat - copied.toNat := UInt32.toNat_sub_of_le _ _ hle
  have hfirst : kbuf.load offset copied.toNat = part.load offset copied.toNat := by
    refine Mem.load_congr fun i hi => ?_
    have hi := Mem.load_eq_iff.mp hkbuf (offset + i) (by omega)
    simpa using hi
  split_ifs at h with hdone hret
  · cases h
    have hall := congrArg UInt32.toNat hdone
    rw [hsub, UInt32.toNat_zero] at hall
    have hsum : toread.toNat = copied.toNat := by omega
    rw [hfirst, hsum]
  · cases h
    have hmore := (hs.delivers stream (toread - copied) d (not_not.mp hret)).1
    have hleft : (toread - copied).toNat ≠ 0 := fun hz => hdone (UInt32.toNat_inj.mp hz)
    -- there is more to read, so the buffer was copied to its end
    have hend : offset + copied.toNat = 65536 := by omega
    have hsum : toread.toNat = copied.toNat + (toread - copied).toNat := by omega
    change kbuf.load offset copied.toNat ++ (disk.streamRead stream (toread - copied) d).2.1.load 0 _ = _
    rw [hmore, hrest, Mem.load_window, hfirst, hsum, Mem.load_add, hend]

end

section
variable {Ctx D S : Type} (crypto : Crypto Ctx) (disk : Disk D S) (c : KernelChecks) {s s' : KernelSearch D}
  {kbuf : Mem}

theorem loadBody_bytes {stream : S} {key : RSAPublicKey}
    (h : loadBody crypto disk stream kbuf key s = (.ok (), s')) :
    bodyOffset kbuf ≤ kbufSize ∧ ∃ body, bodyBytes kbuf (further disk stream s.disk) = some body ∧
      body.length = (kernelBodySize kbuf).toUInt32.toNat ∧
      s'.ram.load s'.params.kernelBuffer.toNat body.length = body := by
  unfold loadBody at h
  dsimp only at h
  split_ifs at h with hoff hfit herr hver
  all_goals cases h
  refine ⟨UInt64.not_lt.mp hoff, ?_⟩
  cases hb : bodyBytes kbuf (further disk stream s.disk) with
  | none => exact absurd (readBody_error hb _ _) herr
  | some body =>
    obtain ⟨-, hlen, hram⟩ := readBody_bytes hb (placeKernel kbuf s.params).kernelBuffer.toNat s.ram
    exact ⟨body, rfl, hlen, hram⟩

variable {h : KernelHeader}

theorem checkKernelHeader_inside
    (hc : checkKernelHeader crypto c kbuf = .ok h) :
    (kernelKeyBlock kbuf).keyBlockSize.toNat + (kernelPreamble kbuf).preambleSize.toNat ≤ 65536 := by
  have hk : kbufSize.toNat = 65536 := rfl
  obtain ⟨signed, hs, -, -, hp, -, -⟩ := (checkKernelHeader_ok crypto c).mp hc
  have hblock : (kernelKeyBlock kbuf).keyBlockSize.toNat ≤ kbufSize.toNat := by
    rcases (checkKernelKeyBlock_ok crypto c).mp hs with ⟨-, hsig⟩ | ⟨-, -, -, -, hhash⟩
    · exact ((keyBlockVerify_signed crypto).mp hsig).1.inside
    · exact ((keyBlockVerify_hashed crypto).mp hhash).1.inside
  have hpre := ((verifyKernelPreamble_eq_ok crypto).mp hp.2).1.inside
  rw [UInt64.toNat_sub_of_le _ _ (UInt64.le_iff_toNat_le.mpr hblock), hk] at hpre
  omega

theorem toNat_bodyOffset
    (h : (kernelKeyBlock kbuf).keyBlockSize.toNat + (kernelPreamble kbuf).preambleSize.toNat ≤ 65536) :
    (bodyOffset kbuf).toNat =
      (kernelKeyBlock kbuf).keyBlockSize.toNat + (kernelPreamble kbuf).preambleSize.toNat := by
  rw [bodyOffset, UInt64.toNat_add]
  omega

/-- The buffer holds the start of the partition, and memory its body. -/
structure BodyLoaded (part kbuf ram : Mem) (params : LoadKernelParams) : Prop where
  start : kbuf.load 0 kbufSize.toNat = part.load 0 kbufSize.toNat
  offset : (bodyOffset kbuf).toNat =
    (kernelKeyBlock kbuf).keyBlockSize.toNat + (kernelPreamble kbuf).preambleSize.toNat
  inside : (bodyOffset kbuf).toNat ≤ kbufSize.toNat
  body : (kernelBodySize kbuf).toNat < 2 ^ 32 →
    ram.load params.kernelBuffer.toNat (kernelBodySize kbuf).toNat =
      part.load (bodyOffset kbuf).toNat (kernelBodySize kbuf).toNat

/-- The invariant of the loop. -/
structure Placing (bytes : D → UInt64 → Mem) (table : GptData) (parts : UInt64 → Mem) (s : KernelSearch D) :
    Prop where
  same : SameParts table s.gpt
  steady : bytes s.disk = parts
  loaded : s.good ≠ none → ∃ i kbuf, Reported disk table i kbuf s.params ∧
    BodyLoaded (parts (partitionOf table i).1) kbuf s.ram s.params

variable {disk} {bytes : D → UInt64 → Mem} {rest : D → S → Mem}

theorem bodyLoaded_of_ok (hs : Sequential disk bytes rest) {part : UInt64 × UInt64}
    {stream : S} {d : D}
    (ho : openKernel disk part s.disk = (.ok (stream, kbuf), d))
    (hc : checkKernelHeader crypto c kbuf = .ok h)
    (hb : loadBody crypto disk stream kbuf h.dataKey (s.headed h d) = (.ok (), s')) :
    BodyLoaded (bytes s.disk part.1) kbuf s'.ram s'.params := by
  obtain ⟨hstart, hrest⟩ := openKernel_sequential hs ho
  obtain ⟨hoff, body, hbody, hlen, hram⟩ := loadBody_bytes crypto disk hb
  refine ⟨hstart, toNat_bodyOffset (checkKernelHeader_inside crypto c hc), UInt64.le_iff_toNat_le.mp hoff,
    fun hsmall => ?_⟩
  have h32 : (kernelBodySize kbuf).toUInt32.toNat = (kernelBodySize kbuf).toNat := by
    rw [UInt64.toNat_toUInt32]
    omega
  have hdata := bodyBytes_sequential hs hstart hrest hoff hbody
  rw [h32] at hlen hdata
  rw [hlen] at hram
  rw [hram, hdata]

variable (override : Ptr → UInt8) {table : GptData} {parts : UInt64 → Mem} {s : KernelSearch D}

theorem Verdict.same {c : KernelChecks} (h : Verdict c s s') :
    SameParts s.gpt s'.gpt := by
  have hrefl : SameParts s.gpt s.gpt := .of_eq rfl rfl
  have hupdate (u : UpdateType) := (gptUpdateKernelEntry_frame s.gpt u).1
  cases h with
  | bad gpt good number => exact gpt ▸ hupdate .bad
  | passed known gpt good number => exact gpt ▸ hrefl
  | taken first gpt good number =>
    rw [gpt]
    split_ifs
    · exact hrefl
    · exact hupdate .try

theorem Placing.kernelStep (hs : Sequential disk bytes rest) (h : Placing disk bytes table parts s) :
    Placing disk bytes table parts (kernelStep crypto disk c override s).1 := by
  have hnext := h.same.trans (.gptNextKernelEntry override s.gpt)
  rcases kernelStep_cases crypto disk c override s with ⟨gpt, hn, he⟩ | ⟨part, gpt, i, hn, hi, he⟩
  · rw [hn] at hnext
    rw [he]
    exact ⟨hnext, h.steady, h.loaded⟩
  · rw [hn] at hnext
    rw [he]
    have ht := tryPartition_tried crypto disk c part { s with gpt := gpt }
    have hround := tryPartition_round crypto disk c part { s with gpt := gpt }
    generalize (tryPartition crypto disk c part { s with gpt := gpt }).1 = s' at ht hround ⊢
    refine ⟨hnext.trans ht.verdict.same, (hs.streamed ht.disk).trans h.steady, fun hgood => ?_⟩
    cases hround with
    | refused d streamed bad => exact h.loaded hgood
    | passed hd d streamed known => exact h.loaded hgood
    | loaded stream kbuf d hd opened header first r s' body =>
      have hl := loadBody_loaded crypto disk body
      have hgpt : s'.gpt = gpt := hl.gpt
      cases r with
      | error e => exact absurd (hl.good.trans first) hgood
      | ok u =>
        have hpart : part = partitionOf table i := hi.part.trans (h.same.part i)
        have hat : At table gpt i := ⟨by rw [hi.table], h.same.count ▸ hi.inside,
          (h.same.kernel i).symm.trans (isCandidate_kernel hi.candidate)⟩
        have hloaded := bodyLoaded_of_ok crypto c hs opened header body
        rw [← hgpt] at hnext hat
        refine ⟨i, kbuf, reportKernel_reported disk hnext hat (hpart ▸ openKernel_ok disk opened) s'.params, ?_⟩
        rw [← h.steady, ← hpart]
        exact ⟨hloaded.start, hloaded.offset, hloaded.inside, hloaded.body⟩

theorem readGpt_keeps {V : Type} (view : D → V)
    (hread : ∀ lba count d, view (disk.read lba count d).2.2 = view d) (gpt : GptData) (d : D) :
    view (readGpt disk gpt d).2.2 = view d := by
  have hentries (valid : Bool) (header buffer : Mem) (d : D) :
      view (readEntries disk gpt valid header buffer d).2.2 = view d := by
    cases valid with
    | false => rfl
    | true => exact hread _ _ d
  have halloc : view (allocAndReadGptData disk gpt d).2.2 = view d := by
    dsimp only [allocAndReadGptData, readHeaderSector]
    rw [hentries, hread, hentries, hread]
  unfold readGpt
  dsimp only
  split_ifs
  · exact halloc
  · cases gptInit (allocAndReadGptData disk gpt d).2.1 with
    | mk e gpt' =>
      cases e with
      | some e => exact halloc
      | none => exact halloc

theorem Placing.kernelFound {k : KernelSearch D} (hk : Placing disk bytes table parts k)
    (s : KernelState D) (h : (kernelFound disk k s).1 = vbErrorSuccess) :
    ∃ i kbuf, Reported disk table i kbuf (kernelFound disk k s).2.params ∧
      BodyLoaded (parts (partitionOf table i).1) kbuf (kernelFound disk k s).2.ram
        (kernelFound disk k s).2.params := by
  obtain ⟨hgood, -, hram, n, hparams⟩ := kernelFound_spec disk k s
  obtain ⟨i, kbuf, hr, hbody⟩ := hk.loaded (hgood.mp h)
  rw [hram, hparams]
  exact ⟨i, kbuf,
    ⟨hr.inside, hr.kernel, hr.read, hr.number, hr.guid, hr.bootloaderAddress, hr.bootloaderSize⟩,
    ⟨hbody.start, hbody.offset, hbody.inside, hbody.body⟩⟩

variable (cparams : VbCommonParams)

/-- After a successful LoadKernel the kernel buffer holds the body of the partition that it reports,
which follows the key block and the preamble and begins in the buffer for the first read. -/
theorem loadKernel_body (hs : Sequential disk bytes rest) (gpt : GptData) (s : KernelState D)
    (h : (loadKernel crypto disk override cparams gpt s).1 = vbErrorSuccess) :
    ∃ table i kbuf, (readGpt disk (gptFor gpt s.params) s.disk).1 = some table ∧
      Reported disk table i kbuf (loadKernel crypto disk override cparams gpt s).2.params ∧
      BodyLoaded (bytes s.disk (partitionOf table i).1) kbuf
        (loadKernel crypto disk override cparams gpt s).2.ram
        (loadKernel crypto disk override cparams gpt s).2.params := by
  have hcalled := loadKernel_called crypto disk override cparams gpt s
  generalize loadKernel crypto disk override cparams gpt s = r at hcalled h ⊢
  cases hcalled with
  | stopped e recovery s' error shared flags disk' => exact absurd h error
  | searched subkey table gpt' d key read =>
    have hkeep := readGpt_keeps bytes hs.read_keeps (gptFor gpt s.params) s.disk
    rw [read] at hkeep
    have hstart : Placing disk bytes table (bytes s.disk)
        (.start table { s with params := s.params.clear, disk := d }) :=
      ⟨.of_eq rfl rfl, hkeep, fun hgood => absurd rfl hgood⟩
    have hloop := kernelLoop_invariant crypto disk (kernelChecks s.params s.shared s.vnc subkey) override
      (fun _ hp => hp.kernelStep crypto _ override hs) hstart
    obtain ⟨i, kbuf, hreported, hbody⟩ := hloop.kernelFound { s with params := s.params.clear } h
    exact ⟨table, i, kbuf, by rw [read], hreported, hbody⟩

end

def streamDisk (kernel : Mem) : Disk Mem Unit where
  read lba _ d := (0,
    if lba = 1 then sampleTable.primaryHeader
    else if lba = 99 then sampleTable.secondaryHeader else sampleEntries, d)
  write _ _ _ d := (0, d)
  streamOpen _ _ _ := (0, (), kernel)
  streamRead _ n d := (0, d, d.window n.toNat)
  streamClose _ d := d

theorem streamDisk_sequential (kernel : Mem) :
    Sequential (streamDisk kernel) (fun _ _ => kernel) (fun d _ => d) where
  opened _ _ _ _ := rfl
  delivers _ _ _ _ := ⟨rfl, rfl⟩
  read_keeps _ _ _ := rfl
  streamOpen_keeps _ _ _ := rfl
  streamRead_keeps _ _ _ := rfl
  streamClose_keeps _ _ := rfl

def streamKernelState : KernelState Mem :=
  { sampleKernelState 0x10001 with disk := fun _ => 0 }

theorem loadKernel_stream :
    (loadKernel anyCrypto (streamDisk (sampleKernel 1 2)) (fun _ => 0) sampleCommon sampleTable
      streamKernelState).1 = vbErrorSuccess := by
  have h1 : entriesLba sampleTable.primaryHeader = 2 := by decide +kernel
  have h2 : entriesLba sampleTable.secondaryHeader = 95 := by decide +kernel
  have hread : readGpt (streamDisk (sampleKernel 1 2)) (gptFor sampleTable streamKernelState.params.clear)
      streamKernelState.disk = (some sampleTable, sampleTable, streamKernelState.disk) := by
    change readGpt _ (gptFor sampleTable (sampleKernelState 0x10001).params.clear) _ = _
    rw [gptFor_sample rfl rfl rfl rfl]
    exact readGpt_known ⟨rfl, rfl, fun n => by rw [h1]; rfl, fun n => by rw [h2]; rfl⟩
      sampleTable_consistent ⟨rfl, rfl, rfl, rfl, rfl⟩
  rw [loadKernel_found anyCrypto (streamDisk (sampleKernel 1 2)) (fun _ => 0) sampleCommon sampleTable
    streamKernelState (by decide) (by decide) rfl hread]
  decide +kernel

theorem loadKernel_body_sample :
    ∃ table i kbuf, (readGpt (streamDisk (sampleKernel 1 2)) (gptFor sampleTable streamKernelState.params)
        streamKernelState.disk).1 = some table ∧
      Reported (streamDisk (sampleKernel 1 2)) table i kbuf
        (loadKernel anyCrypto (streamDisk (sampleKernel 1 2)) (fun _ => 0) sampleCommon sampleTable
          streamKernelState).2.params ∧
      BodyLoaded (sampleKernel 1 2) kbuf
        (loadKernel anyCrypto (streamDisk (sampleKernel 1 2)) (fun _ => 0) sampleCommon sampleTable
          streamKernelState).2.ram
        (loadKernel anyCrypto (streamDisk (sampleKernel 1 2)) (fun _ => 0) sampleCommon sampleTable
          streamKernelState).2.params :=
  loadKernel_body anyCrypto (fun _ => 0) sampleCommon (streamDisk_sequential (sampleKernel 1 2)) sampleTable
    streamKernelState loadKernel_stream

/-! The streams of firmware/stub/vboot_api_stub_stream.c, over a disk that reads sectors of 512
bytes. -/

def lbaBytes : UInt32 := 512

/-- The next sector to read and the number of sectors that are left. -/
structure DiskStream where
  sector : UInt64
  sectorsLeft : UInt64

/-- The disk and the streams, with none for one that was closed. A stream is known by its place
in the list. -/
structure StreamState (D : Type) where
  disk : D
  streams : List (Option DiskStream)

section
variable {D S : Type} (disk : Disk D S)

/- The handle of the disk is not null. -/
def vbExStreamOpen (lbaStart lbaCount : UInt64) (s : StreamState D) : UInt32 × Nat × StreamState D :=
  (vbErrorSuccess, s.streams.length, { s with streams := s.streams ++ [some ⟨lbaStart, lbaCount⟩] })

/- The buffer of a call that fails before it reads from the disk is shown as zeroes. -/
def vbExStreamRead (stream : Nat) (bytes : UInt32) (s : StreamState D) : UInt32 × Mem × StreamState D :=
  match s.streams.getD stream none with
  | none => (vbErrorUnknown, fun _ => 0, s)
  | some t =>
    if bytes % lbaBytes ≠ 0 then (vbErrorUnknown, fun _ => 0, s)
    else
      let sectors := (bytes / lbaBytes).toUInt64
      if sectors > t.sectorsLeft then (vbErrorUnknown, fun _ => 0, s)
      else
        let (rv, data, d) := disk.read t.sector sectors s.disk
        if rv ≠ vbErrorSuccess then (rv, data, { s with disk := d })
        else (vbErrorSuccess, data,
          ⟨d, s.streams.set stream (some ⟨t.sector + sectors, t.sectorsLeft - sectors⟩)⟩)

def vbExStreamClose (stream : Nat) (s : StreamState D) : StreamState D :=
  { s with streams := s.streams.set stream none }

def stubDisk : Disk (StreamState D) Nat where
  read lba count s :=
    let (rv, data, d) := disk.read lba count s.disk
    (rv, data, { s with disk := d })
  write lba count data s :=
    let (rv, d) := disk.write lba count data s.disk
    (rv, { s with disk := d })
  streamOpen := vbExStreamOpen
  streamRead := vbExStreamRead disk
  streamClose := vbExStreamClose

/-- A disk that reads what image says, and nothing behind the last sector number. -/
structure ReadsSectors (image : D → Mem) : Prop where
  read : ∀ lba count d, (disk.read lba count d).1 = vbErrorSuccess →
    lba.toNat + count.toNat < 2 ^ 64 ∧
    (disk.read lba count d).2.1.load 0 (512 * count.toNat) =
      (image d).load (512 * lba.toNat) (512 * count.toNat)
  keeps : ∀ lba count d, image (disk.read lba count d).2.2 = image d

def streamRest (image : D → Mem) (s : StreamState D) (stream : Nat) : Mem :=
  match s.streams.getD stream none with
  | none => fun _ => 0
  | some t => (image s.disk).window (512 * t.sector.toNat)

variable {disk} {image : D → Mem}

theorem vbExStreamRead_delivers (hd : ReadsSectors disk image) (stream : Nat) (n : UInt32)
    (s : StreamState D) (h : (vbExStreamRead disk stream n s).1 = vbErrorSuccess) :
    (vbExStreamRead disk stream n s).2.1.load 0 n.toNat = (streamRest image s stream).load 0 n.toNat ∧
    streamRest image (vbExStreamRead disk stream n s).2.2 stream =
      (streamRest image s stream).window n.toNat := by
  have hu : ¬ vbErrorUnknown = vbErrorSuccess := by decide
  have h512 : lbaBytes.toNat = 512 := rfl
  unfold vbExStreamRead at h ⊢
  cases ht : s.streams.getD stream none with
  | none =>
    rw [ht] at h
    exact absurd h hu
  | some t =>
    rw [ht] at h
    dsimp only at h ⊢
    split_ifs at h ⊢ with hmod hleft hread
    · exact absurd h hu
    · exact absurd h hu
    · exact absurd h hread
    · have hread := not_not.mp hread
      have hmod := congrArg UInt32.toNat (not_not.mp hmod)
      rw [UInt32.toNat_mod, h512, UInt32.toNat_zero] at hmod
      have hcount : (n / lbaBytes).toUInt64.toNat = n.toNat / 512 := by
        rw [UInt32.toNat_toUInt64, UInt32.toNat_div, h512]
      obtain ⟨hlt, hdata⟩ := hd.read _ _ _ hread
      rw [hcount] at hlt hdata
      have hbytes : 512 * (n.toNat / 512) = n.toNat := by omega
      rw [hbytes] at hdata
      have hlen : stream < s.streams.length := by
        by_contra hge
        rw [List.getD_eq_default _ _ (Nat.not_lt.mp hge)] at ht
        cases ht
      have hget : (s.streams.set stream (some ⟨t.sector + (n / lbaBytes).toUInt64,
          t.sectorsLeft - (n / lbaBytes).toUInt64⟩)).getD stream none =
          some ⟨t.sector + (n / lbaBytes).toUInt64, t.sectorsLeft - (n / lbaBytes).toUInt64⟩ := by
        simp [List.getD, hlen]
      have hsector : (t.sector + (n / lbaBytes).toUInt64).toNat = t.sector.toNat + n.toNat / 512 := by
        rw [UInt64.toNat_add, hcount]
        omega
      dsimp only [streamRest]
      rw [hget, ht]
      dsimp only
      rw [hd.keeps, hsector, Mem.window_window, Mem.load_window, Nat.mul_add, hbytes]
      exact ⟨hdata, rfl⟩

theorem stubDisk_sequential (hd : ReadsSectors disk image) :
    Sequential (stubDisk disk) (fun s start => (image s.disk).window (512 * start.toNat))
      (streamRest image) where
  opened start count s _ := by
    change streamRest image ⟨s.disk, s.streams ++ [some ⟨start, count⟩]⟩ s.streams.length = _
    rw [streamRest]
    simp [List.getD]
  delivers := vbExStreamRead_delivers hd
  read_keeps lba count s := by
    change (fun start : UInt64 => (image (disk.read lba count s.disk).2.2).window (512 * start.toNat)) = _
    rw [hd.keeps]
  streamOpen_keeps _ _ _ := rfl
  streamRead_keeps stream n s := by
    change (fun start : UInt64 => (image (vbExStreamRead disk stream n s).2.2.disk).window
      (512 * start.toNat)) = _
    have hkeep : image (vbExStreamRead disk stream n s).2.2.disk = image s.disk := by
      unfold vbExStreamRead
      cases s.streams.getD stream none with
      | none => rfl
      | some t =>
        dsimp only
        split_ifs
        · rfl
        · rfl
        · exact hd.keeps _ _ _
        · exact hd.keeps _ _ _
    rw [hkeep]
  streamClose_keeps _ _ := rfl

end

theorem imageDisk_sequential : Sequential (stubDisk (imageDisk 100))
    (fun s start => s.disk.window (512 * start.toNat)) (streamRest id) := by
  have hf := imageDisk_faithful 100
  refine @stubDisk_sequential Mem Unit (imageDisk 100) id ⟨fun lba n d h => ?_, hf.read_keeps⟩
  by_cases hin : lba.toNat + n.toNat ≤ 100
  · exact ⟨by omega, (hf.read lba n d hin).2⟩
  · simp [imageDisk, hin, vbErrorSuccess] at h

end Vboot
