import Vboot.Kernel.Boots

/-! What the search for a kernel carries from one disk to the next and from one partition to the
next: the flag for an external table, and the buffer that the first loaded body was put into. -/
namespace Vboot
open Vboot.Lib Vboot.Lib.Program Vboot.Gpt

section
variable {W T H S Ctx : Type} (crypto : Crypto Ctx) (platform : Platform W H S)
  (config : KernelConfig) (cparams : VbCommonParams) (getInfoFlags : UInt32)

/-- The result of LoadKernel on a disk and the state after it. -/
def afterDisk (info : VbDiskInfo H) (s : KernelBoot W T H) : UInt32 × KernelBoot W T H :=
  let (retval, k) := loadKernel crypto (platform.disk info.handle) platform.overrideGptEntryPriority
    cparams config.gpt (s.kernelState info)
  (retval, s.withKernel info k)

variable {info : VbDiskInfo H}

theorem tryDisks_usable (h : diskUsable getInfoFlags info = true)
    (retval : UInt32) (rest : List (VbDiskInfo H)) (s : KernelBoot W T H) :
    tryDisks crypto platform config cparams getInfoFlags retval (info :: rest) s =
      let (retval, s) := afterDisk crypto platform config cparams info s
      if retval = vbErrorSuccess then (.ok retval, s)
      else tryDisks crypto platform config cparams getInfoFlags retval rest s := by
  have hdisk : tryDisk crypto platform config cparams info s =
      (.ok (afterDisk crypto platform config cparams info s).1,
        (afterDisk crypto platform config cparams info s).2) := rfl
  rw [tryDisks, if_pos h]
  refine (bind_of_ok hdisk).trans ?_
  generalize afterDisk crypto platform config cparams info s = r
  obtain ⟨r, s'⟩ := r
  dsimp only
  split_ifs <;> rfl

theorem tryDisks_unusable (h : diskUsable getInfoFlags info = false)
    (retval : UInt32) (rest : List (VbDiskInfo H)) (s : KernelBoot W T H) :
    tryDisks crypto platform config cparams getInfoFlags retval (info :: rest) s =
      tryDisks crypto platform config cparams getInfoFlags retval rest s := by
  rw [tryDisks, h, if_neg Bool.false_ne_true]

variable {before : List (VbDiskInfo H)} {s s' : KernelBoot W T H} {retval v : UInt32}

theorem tryDisks_append
    (h : tryDisks crypto platform config cparams getInfoFlags retval before s = (.ok v, s'))
    (hv : v ≠ vbErrorSuccess) (rest : List (VbDiskInfo H)) :
    tryDisks crypto platform config cparams getInfoFlags retval (before ++ rest) s =
      tryDisks crypto platform config cparams getInfoFlags v rest s' := by
  induction before generalizing retval s with
  | nil =>
    cases h
    rfl
  | cons info before ih =>
    rw [List.cons_append]
    cases hu : diskUsable getInfoFlags info with
    | true =>
      rw [tryDisks_usable _ _ _ _ _ hu] at h ⊢
      dsimp only at h ⊢
      split_ifs at h ⊢ with hs
      · cases h
        exact absurd hs hv
      · exact ih h
    | false =>
      rw [tryDisks_unusable _ _ _ _ _ hu] at h ⊢
      exact ih h

def externalGpt (info : VbDiskInfo H) : Bool := hasFlag info.flags vbDiskFlagExternalGpt

def externalFlag (external : Bool) : UInt64 := if external then bootFlagExternalGpt else 0

theorem externalFlag_or (a b : Bool) : externalFlag a ||| externalFlag b = externalFlag (a || b) := by
  cases a <;> cases b <;> rfl

theorem afterDisk_bootFlags (info : VbDiskInfo H) (s : KernelBoot W T H) :
    (afterDisk crypto platform config cparams info s).2.params.bootFlags =
      s.params.bootFlags ||| externalFlag (externalGpt info) :=
  loadKernel_bootFlags crypto (platform.disk info.handle) platform.overrideGptEntryPriority cparams
    config.gpt (s.kernelState info)

theorem tryDisks_bootFlags
    (h : tryDisks crypto platform config cparams getInfoFlags retval before s = (.ok v, s'))
    (hv : v ≠ vbErrorSuccess) :
    s'.params.bootFlags = s.params.bootFlags |||
      externalFlag (before.any fun info => diskUsable getInfoFlags info && externalGpt info) := by
  induction before generalizing retval s with
  | nil =>
    cases h
    exact UInt64.or_zero.symm
  | cons info before ih =>
    rw [List.any_cons]
    cases hu : diskUsable getInfoFlags info with
    | true =>
      rw [tryDisks_usable _ _ _ _ _ hu] at h
      dsimp only at h
      split_ifs at h with hs
      · cases h
        exact absurd hs hv
      · rw [ih h, afterDisk_bootFlags, UInt64.or_assoc, externalFlag_or, Bool.true_and]
    | false =>
      rw [tryDisks_unusable _ _ _ _ _ hu] at h
      rw [ih h, Bool.false_and, Bool.false_or]

/-- A flag that is already there changes nothing. -/
theorem or_externalFlag_eq_iff (flags : UInt64) :
    flags ||| bootFlagExternalGpt = flags ↔ flags &&& bootFlagExternalGpt ≠ 0 := by
  have hbit : flags &&& bootFlagExternalGpt =
      if flags.toBitVec.getLsbD 2 then bootFlagExternalGpt else 0 := by
    apply UInt64.toBitVec_inj.mp
    refine (BitVec.and_twoPow flags.toBitVec 2).trans ?_
    split_ifs <;> rfl
  constructor
  · intro h h0
    rw [← h, or_and, UInt64.or_eq_zero_iff] at h0
    exact absurd h0.2 (by decide)
  · intro h
    split_ifs at hbit
    · rw [← hbit]
      apply UInt64.toBitVec_inj.mp
      ext i hi
      simp +contextual
    · exact absurd hbit h

/-- A disk that is reached gets the geometry of its own, but it gets its own boot flags exactly
if it has an external table itself, the caller set that flag, or no disk that was tried before it
has an external table. -/
theorem disk_call_params {retval v : UInt32} {before : List (VbDiskInfo H)}
    {info : VbDiskInfo H} {s s' : KernelBoot W T H}
    (h : tryDisks crypto platform config cparams getInfoFlags retval before s = (.ok v, s'))
    (hv : v ≠ vbErrorSuccess) (hu : diskUsable getInfoFlags info = true)
    (after : List (VbDiskInfo H)) :
    (tryDisks crypto platform config cparams getInfoFlags retval (before ++ info :: after) s =
      let (retval, k) := loadKernel crypto (platform.disk info.handle)
        platform.overrideGptEntryPriority cparams config.gpt (s'.kernelState info)
      if retval = vbErrorSuccess then (.ok retval, s'.withKernel info k)
      else tryDisks crypto platform config cparams getInfoFlags retval after (s'.withKernel info k)) ∧
    (s'.kernelState info).params.bytesPerLba = (s.kernelState info).params.bytesPerLba ∧
    (s'.kernelState info).params.gptLbaCount = (s.kernelState info).params.gptLbaCount ∧
    (s'.kernelState info).params.streamingLbaCount = (s.kernelState info).params.streamingLbaCount ∧
    ((s'.kernelState info).params.bootFlags = (s.kernelState info).params.bootFlags ↔
      externalGpt info = true ∨ s.params.bootFlags &&& bootFlagExternalGpt ≠ 0 ∨
      ∀ d ∈ before, diskUsable getInfoFlags d = true → externalGpt d = false) := by
  refine ⟨?_, rfl, rfl, rfl, ?_⟩
  · rw [tryDisks_append _ _ _ _ _ h hv, tryDisks_usable _ _ _ _ _ hu]
    rfl
  · change s'.params.bootFlags ||| externalFlag (externalGpt info) =
      s.params.bootFlags ||| externalFlag (externalGpt info) ↔ _
    rw [tryDisks_bootFlags _ _ _ _ _ h hv, UInt64.or_assoc, externalFlag_or]
    cases he : externalGpt info with
    | true => simp
    | false =>
      cases hany : before.any fun d => diskUsable getInfoFlags d && externalGpt d with
      | true =>
        have hnot : ¬ ∀ d ∈ before, diskUsable getInfoFlags d = true → externalGpt d = false := by
          intro hall
          obtain ⟨d, hd, hb⟩ := List.any_eq_true.mp hany
          rw [Bool.and_eq_true] at hb
          rw [hall d hd hb.1] at hb
          cases hb.2
        simp only [Bool.or_false, Bool.false_eq_true, false_or, hnot, or_false]
        change s.params.bootFlags ||| bootFlagExternalGpt = s.params.bootFlags ||| 0 ↔ _
        rw [UInt64.or_zero]
        exact or_externalFlag_eq_iff s.params.bootFlags
      | false =>
        refine iff_of_true rfl (.inr (.inr fun d hd hdu => ?_))
        have hb := List.any_eq_false.mp hany d hd
        rw [hdu, Bool.true_and] at hb
        exact Bool.eq_false_of_not_eq_true hb

end
/-- A platform whose disks cannot be read. -/
def deadPlatform : Platform Unit Unit Unit :=
  { samplePlatform (fun _ => 0) with
    disk := fun _ => { sampleDisk (fun _ => 0) with read := fun _ _ _ => (1, fun _ => 0, ()) } }

def fixedDisk (external : Bool) : VbDiskInfo Unit :=
  ⟨(), 512, 100, 0, vbDiskFlagFixed ||| if external then vbDiskFlagExternalGpt else 0⟩

/-- A normal boot with no flags. -/
def noFlagsBoot : KernelBoot Unit Unit Unit where
  ui := ⟨(), vbNvSetup (Vector.replicate 16 0), Vector.replicate 16 0⟩
  tpm := ()
  kernelLocked := false
  shared := (sampleKernelState 0).shared
  params := { (sampleKernelState 0).params with bootFlags := 0 }
  diskHandle := none
  ram := fun _ => 0
  kparams := ⟨0, 0, none, 0, 0, 0, [], 0⟩

def triedDisk (external : Bool) : Except Stop UInt32 × KernelBoot Unit Unit Unit :=
  tryDisks anyCrypto deadPlatform sampleKernelBoot.config sampleCommon vbDiskFlagFixed vbErrorUnknown
    [fixedDisk external] noFlagsBoot

theorem triedDisk_result (external : Bool) :
    triedDisk external = (.ok vbErrorNoKernelFound, (triedDisk external).2) := by
  cases external <;> exact Prod.ext (by decide) rfl

/-- A disk without an external table gets its own flags after another such disk. -/
theorem disk_call_params_internal :
    ((triedDisk false).2.kernelState (fixedDisk false)).params.bootFlags =
      (noFlagsBoot.kernelState (fixedDisk false)).params.bootFlags :=
  (disk_call_params anyCrypto deadPlatform sampleKernelBoot.config sampleCommon vbDiskFlagFixed
    (triedDisk_result false) (by decide) (by decide) []).2.2.2.2.mpr
      (.inr (.inr fun d hd _ => by cases List.mem_singleton.mp hd; decide))

/-- After a disk with an external table it is searched as if it had one. -/
theorem disk_call_params_external :
    triedDisk true = (.ok vbErrorNoKernelFound, (triedDisk true).2) ∧
    (noFlagsBoot.kernelState (fixedDisk false)).params.bootFlags = 0 ∧
    ((triedDisk true).2.kernelState (fixedDisk false)).params.bootFlags = bootFlagExternalGpt :=
  ⟨triedDisk_result true, by decide, by decide⟩

section
variable {Ctx D S V : Type} (crypto : Crypto Ctx) (disk : Disk D S) (c : KernelChecks)
  (override : Ptr → UInt8)

/-- What a stream returns when more is read from it. -/
def further (stream : S) (d : D) (n : UInt32) : UInt32 × Mem :=
  ((disk.streamRead stream n d).1, (disk.streamRead stream n d).2.1)

/-- What a partition delivers: its start, and what is read after that. -/
def delivered (part : UInt64 × UInt64) (d : D) : Except UInt8 (Mem × (UInt32 → UInt32 × Mem)) :=
  match openKernel disk part d with
  | (.error e, _) => .error e
  | (.ok (stream, kbuf), d) => .ok (kbuf, further disk stream d)

/-- Reading does not change any partition, and what a partition delivers depends on that
partition only. -/
structure StreamsFaithful (view : D → UInt64 × UInt64 → V) : Prop where
  streamOpen : ∀ start size d p, view (disk.streamOpen start size d).2.2 p = view d p
  streamRead : ∀ stream n d p, view (disk.streamRead stream n d).2.2 p = view d p
  streamClose : ∀ stream d p, view (disk.streamClose stream d) p = view d p
  delivered : ∀ part d d', view d part = view d' part → delivered disk part d = delivered disk part d'

/-- The body of a kernel as it is read, or none if reading fails. -/
def bodyBytes (kbuf : Mem) (more : UInt32 → UInt32 × Mem) : Option (List UInt8) :=
  let bodyToread := (kernelBodySize kbuf).toUInt32
  let copied := bodyCopied (bodyOffset kbuf) bodyToread
  let start := kbuf.load (bodyOffset kbuf).toNat copied.toNat
  if bodyToread - copied = 0 then some start
  else if (more (bodyToread - copied)).1 ≠ 0 then none
  else some (start ++ (more (bodyToread - copied)).2.load 0 (bodyToread - copied).toNat)

/-- The body is signed, wherever it is loaded. -/
def BodySigned (kbuf : Mem) (key : RSAPublicKey) (body : List UInt8) : Prop :=
  verifyData crypto ⟨Mem.ofList body, 0⟩ (kernelBodySize kbuf)
    (kernelPreamble kbuf).kernelBodySignature key = false

/-- A kernel that passes every check that looks at nothing but its partition. -/
def GoodKernel (content : Except UInt8 (Mem × (UInt32 → UInt32 × Mem))) : Prop :=
  ∃ kbuf more h body, content = .ok (kbuf, more) ∧ checkKernelHeader crypto c kbuf = .ok h ∧
    bodyOffset kbuf ≤ kbufSize ∧ bodyBytes kbuf more = some body ∧ BodySigned crypto kbuf h.dataKey body

/-- The body fits into the kernel buffer if there is one. -/
def FitsBuffer (params : LoadKernelParams)
    (content : Except UInt8 (Mem × (UInt32 → UInt32 × Mem))) : Prop :=
  params.kernelBuffer = 0 ∨
    ∀ kbuf more, content = .ok (kbuf, more) → kernelBodySize kbuf ≤ params.kernelBufferSize

/-- The body is smaller than 4 GiB, so that all of it is read. -/
def SmallBody (content : Except UInt8 (Mem × (UInt32 → UInt32 × Mem))) : Prop :=
  ∀ kbuf more, content = .ok (kbuf, more) → (kernelBodySize kbuf).toNat < 2 ^ 32

theorem bodyCopied_le (offset : UInt64) (toread : UInt32) : bodyCopied offset toread ≤ toread := by
  unfold bodyCopied
  split_ifs with h1 h2
  · exact UInt32.le_refl toread
  · exact UInt32.not_lt.mp h2
  · exact UInt32.le_iff_toNat_le.mpr (Nat.zero_le _)

section
variable {disk} {stream : S} {kbuf : Mem} {d : D}

theorem readBody_error (h : bodyBytes kbuf (further disk stream d) = none) (buffer : Nat) (ram : Mem) :
    (readBody disk stream kbuf buffer ram d).1 = true := by
  dsimp only [bodyBytes] at h
  dsimp only [readBody]
  generalize (kernelBodySize kbuf).toUInt32 - _ = rest at h ⊢
  by_cases h0 : rest = 0
  · rw [if_pos h0] at h
    cases h
  · rw [if_neg h0] at h ⊢
    by_cases hret : (further disk stream d rest).1 = 0
    · rw [if_neg (not_not.mpr hret)] at h
      cases h
    · exact bne_iff_ne.mpr hret

theorem readBody_bytes {body : List UInt8} (h : bodyBytes kbuf (further disk stream d) = some body)
    (buffer : Nat) (ram : Mem) :
    (readBody disk stream kbuf buffer ram d).1 = false ∧
      body.length = (kernelBodySize kbuf).toUInt32.toNat ∧
      (readBody disk stream kbuf buffer ram d).2.1.load buffer body.length = body := by
  have hle := UInt32.le_iff_toNat_le.mp
    (bodyCopied_le (bodyOffset kbuf) (kernelBodySize kbuf).toUInt32)
  dsimp only [bodyBytes] at h
  dsimp only [readBody]
  generalize (kernelBodySize kbuf).toUInt32 = toread at hle h ⊢
  generalize bodyCopied (bodyOffset kbuf) toread = copied at hle h ⊢
  have hsub : (toread - copied).toNat = toread.toNat - copied.toNat :=
    UInt32.toNat_sub_of_le _ _ (UInt32.le_iff_toNat_le.mpr hle)
  have hlen : (kbuf.load (bodyOffset kbuf).toNat copied.toNat).length = copied.toNat :=
    Mem.length_load _ _ _
  split_ifs at h with h0 hret
  · cases h
    rw [if_pos h0]
    have hz := congrArg UInt32.toNat h0
    rw [hsub, UInt32.toNat_zero] at hz
    exact ⟨rfl, by rw [hlen]; omega, Mem.load_store _ _ _ _ rfl⟩
  · cases h
    rw [if_neg h0]
    have hret : (disk.streamRead stream (toread - copied) d).1 = 0 := not_not.mp hret
    have hlen2 : ((further disk stream d (toread - copied)).2.load 0 (toread - copied).toNat).length =
        toread.toNat - copied.toNat := by
      rw [Mem.length_load, hsub]
    refine ⟨by rw [hret]; rfl, by rw [List.length_append, hlen, hlen2]; omega, ?_⟩
    change ((ram.store buffer (kbuf.load (bodyOffset kbuf).toNat copied.toNat)).store
      (buffer + copied.toNat) ((further disk stream d (toread - copied)).2.load 0
        (toread - copied).toNat)).load buffer _ = _
    rw [List.length_append, Mem.load_add, hlen, Mem.load_store_disjoint _ _ _ _ _ (by omega),
      Mem.load_store _ _ _ _ hlen, Mem.load_store _ _ _ _ rfl]

end

theorem verifyData_congr {data data' : Ptr} {size size' : UInt64} {sig : Ptr} (key : RSAPublicKey)
    (hs : sig.dataSize ≤ size) (hs' : sig.dataSize ≤ size')
    (hb : data.bytes sig.dataSize.toNat = data'.bytes sig.dataSize.toNat) :
    verifyData crypto data size sig key = verifyData crypto data' size' sig key := by
  rw [verifyData, verifyData, if_neg (UInt64.not_lt.mpr hs), if_neg (UInt64.not_lt.mpr hs'),
    rsaVerifyBinary, rsaVerifyBinary, hb]

theorem bodySigned_iff (key : RSAPublicKey) {kbuf ram : Mem} {buffer : Nat} {size : UInt64}
    {body : List UInt8} (hsize : kernelBodySize kbuf ≤ size)
    (hlen : body.length = (kernelBodySize kbuf).toNat) (hram : ram.load buffer body.length = body) :
    verifyData crypto ⟨ram, buffer⟩ size (kernelPreamble kbuf).kernelBodySignature key = false ↔
      BodySigned crypto kbuf key body := by
  rw [BodySigned, verifyData_congr crypto key hsize (UInt64.le_refl (kernelBodySize kbuf))]
  change ram.load buffer (kernelBodySize kbuf).toNat =
    (Mem.ofList body).load 0 (kernelBodySize kbuf).toNat
  rw [← hlen, hram, Mem.load_ofList]

theorem ite_error_ok {ε α σ : Type} {c : Prop} [Decidable c] {e : ε} {a : α} {s : σ} {y : Except ε α × σ} :
    (if c then (.error e, s) else y).1 = .ok a ↔ ¬ c ∧ y.1 = .ok a := by
  split_ifs with h <;> simp [h]

theorem loadBody_ok_iff (stream : S) (kbuf : Mem) (key : RSAPublicKey) (s : KernelSearch D)
    (hsmall : (kernelBodySize kbuf).toNat < 2 ^ 32) :
    (loadBody crypto disk stream kbuf key s).1 = .ok () ↔
      bodyOffset kbuf ≤ kbufSize ∧
      (s.params.kernelBuffer = 0 ∨ kernelBodySize kbuf ≤ s.params.kernelBufferSize) ∧
      ∃ body, bodyBytes kbuf (further disk stream s.disk) = some body ∧
        BodySigned crypto kbuf key body := by
  have h32 : (kernelBodySize kbuf).toUInt32.toNat = (kernelBodySize kbuf).toNat := by
    rw [UInt64.toNat_toUInt32]
    omega
  have hplaced : (s.params.kernelBuffer = 0 ∨ kernelBodySize kbuf ≤ s.params.kernelBufferSize) →
      kernelBodySize kbuf ≤ (placeKernel kbuf s.params).kernelBufferSize := by
    unfold placeKernel
    split_ifs with h0
    · exact fun _ => UInt64.le_refl _
    · exact fun h => h.resolve_left h0
  have hread (hsize : kernelBodySize kbuf ≤ (placeKernel kbuf s.params).kernelBufferSize) :
      ¬ (readBody disk stream kbuf (placeKernel kbuf s.params).kernelBuffer.toNat s.ram s.disk).1 = true ∧
      ¬ verifyData crypto ⟨(readBody disk stream kbuf (placeKernel kbuf s.params).kernelBuffer.toNat s.ram
        s.disk).2.1, (placeKernel kbuf s.params).kernelBuffer.toNat⟩ (placeKernel kbuf s.params).kernelBufferSize
        (kernelPreamble kbuf).kernelBodySignature key = true ↔
      ∃ body, bodyBytes kbuf (further disk stream s.disk) = some body ∧ BodySigned crypto kbuf key body := by
    generalize placeKernel kbuf s.params = params at hsize ⊢
    cases hb : bodyBytes kbuf (further disk stream s.disk) with
    | none => simp [readBody_error hb]
    | some body =>
      obtain ⟨herr, hlen, hram⟩ := readBody_bytes hb params.kernelBuffer.toNat s.ram
      have hsigned := bodySigned_iff crypto key hsize (hlen.trans h32) hram
      simp [herr, hsigned]
  rw [loadBody]
  simp only [ite_error_ok, and_true, UInt64.not_lt, gt_iff_lt, not_and_or, not_not]
  exact and_congr_right fun _ => and_congr_right fun hfit => hread (hplaced hfit)

variable {s : KernelSearch D} (part : UInt64 × UInt64)

theorem tryPartition_good_iff (hg : s.good = none)
    (hsmall : SmallBody (delivered disk part s.disk)) :
    (tryPartition crypto disk c part s).1.good ≠ none ↔
      GoodKernel crypto c (delivered disk part s.disk) ∧
        FitsBuffer s.params (delivered disk part s.disk) := by
  have hround := tryPartition_round crypto disk c part s
  generalize (tryPartition crypto disk c part s).1 = s' at hround ⊢
  cases hround with
  | refused d streamed bad =>
    refine iff_of_false (not_not.mpr hg) fun ⟨⟨kbuf, more, h, _, hcontent, hok, _⟩, _⟩ => ?_
    unfold delivered at hcontent
    split at hcontent
    · cases hcontent
    · next stream kbuf' d' ho =>
      cases hcontent
      exact bad stream kbuf d' h ho hok
  | passed h d streamed known => exact absurd hg known
  | loaded stream kbuf d h opened header first r s' body =>
    have hcontent : delivered disk part s.disk = .ok (kbuf, further disk stream d) := by
      rw [delivered, opened]
    rw [hcontent] at hsmall ⊢
    have hiff := loadBody_ok_iff crypto disk stream kbuf h.dataKey (s.headed h d) (hsmall kbuf _ rfl)
    have hgood := (loadBody_loaded crypto disk body).good
    rw [body] at hiff
    cases r with
    | ok u =>
      obtain ⟨hoff, hfit, body, hbody, hsigned⟩ := hiff.mp rfl
      refine iff_of_true (Option.some_ne_none _)
        ⟨⟨kbuf, _, h, body, rfl, header, hoff, hbody, hsigned⟩, ?_⟩
      exact hfit.imp_right fun hle kbuf' more hcontent => by
        cases hcontent
        exact hle
    | error e =>
      refine iff_of_false (not_not.mpr (hgood.trans hg)) fun hacc => ?_
      obtain ⟨⟨kbuf', more, h', body, hcontent, hok, hoff, hbody, hsigned⟩, hfit⟩ := hacc
      cases hcontent
      cases header.symm.trans hok
      have hok := hiff.mpr ⟨hoff, hfit.imp_right fun hle => hle kbuf _ rfl, body, hbody, hsigned⟩
      cases hok

theorem tryPartition_rejected (hg : s.good = none)
    (h : (tryPartition crypto disk c part s).1.good = none) :
    (tryPartition crypto disk c part s).1.gpt = (gptUpdateKernelEntry s.gpt .bad).2 := by
  cases (tryPartition_tried crypto disk c part s).verdict with
  | bad gpt good number => exact gpt
  | passed known gpt good number => exact absurd hg known
  | taken first gpt good number => exact absurd h good

theorem kernelStep_view {disk : Disk D S} {view : D → UInt64 × UInt64 → V}
    (hf : StreamsFaithful disk view) (s : KernelSearch D) (p : UInt64 × UInt64) :
    view (kernelStep crypto disk c override s).1.disk p = view s.disk p := by
  rcases kernelStep_cases crypto disk c override s with ⟨gpt, -, he⟩ | ⟨part, gpt, i, -, -, he⟩
  · rw [he]
  · rw [he]
    exact (tryPartition_tried crypto disk c part { s with gpt := gpt }).disk.keeps
      (fun d => view d p) (fun _ _ _ => hf.streamOpen _ _ _ _)
      (fun _ _ _ => hf.streamRead _ _ _ _) fun _ _ => hf.streamClose _ _ _

def rounds (n : Nat) (s : KernelSearch D) : KernelSearch D :=
  (fun s => (kernelStep crypto disk c override s).1)^[n] s

theorem rounds_succ (n : Nat) (s : KernelSearch D) :
    rounds crypto disk c override (n + 1) s =
      (kernelStep crypto disk c override (rounds crypto disk c override n s)).1 :=
  Function.iterate_succ_apply' _ n s

section
variable {disk} {view : D → UInt64 × UInt64 → V} (hf : StreamsFaithful disk view)
include hf

theorem rounds_view (n : Nat) (s : KernelSearch D) (p : UInt64 × UInt64) :
    view (rounds crypto disk c override n s).disk p = view s.disk p := by
  induction n with
  | zero => rfl
  | succ n ih => rw [rounds_succ, kernelStep_view crypto c override hf, ih]

end

def rejectNext (gpt : GptData) : GptData :=
  match gptNextKernelEntry override gpt with
  | (none, gpt) => gpt
  | (some _, gpt) => (gptUpdateKernelEntry gpt .bad).2

theorem kernelStep_rejected (hg : s.good = none) (h : (kernelStep crypto disk c override s).1.good = none) :
    (kernelStep crypto disk c override s).1.gpt = rejectNext override s.gpt := by
  unfold kernelStep at h ⊢
  unfold rejectNext
  cases hn : gptNextKernelEntry override s.gpt with
  | mk part gpt =>
    rw [hn] at h
    cases part with
    | none => rfl
    | some part => exact tryPartition_rejected crypto disk c part hg h

theorem kernelStep_good (h : (kernelStep crypto disk c override s).1.good = none) : s.good = none := by
  rcases kernelStep_cases crypto disk c override s with ⟨gpt, -, he⟩ | ⟨part, gpt, i, -, -, he⟩
  · rw [he] at h
    exact h
  · rw [he] at h
    cases (tryPartition_tried crypto disk c part { s with gpt := gpt }).verdict with
    | bad _ good _ => exact good.symm.trans h
    | passed _ _ good _ => exact good.symm.trans h
    | taken first _ _ _ => exact first

theorem rounds_good {n : Nat} (h : (rounds crypto disk c override (n + 1) s).good = none) :
    (rounds crypto disk c override n s).good = none := by
  rw [rounds_succ] at h
  exact kernelStep_good crypto disk c override h

theorem rounds_gpt {n : Nat} (h : (rounds crypto disk c override n s).good = none) :
    (rounds crypto disk c override n s).gpt = (rejectNext override)^[n] s.gpt := by
  induction n with
  | zero => rfl
  | succ n ih =>
    have hg := rounds_good crypto disk c override h
    rw [rounds_succ] at h ⊢
    rw [kernelStep_rejected crypto disk c override hg h, ih hg, Function.iterate_succ_apply']

/-- The verdict on a partition in two searches over the same table, in which all partitions
before it were rejected. -/
theorem partition_verdict_iff {view : D → UInt64 × UInt64 → V} (hf : StreamsFaithful disk view)
    {s t : KernelSearch D} (hgpt : s.gpt = t.gpt) (n : Nat)
    (hs : (rounds crypto disk c override n s).good = none)
    (ht : (rounds crypto disk c override n t).good = none) {part : UInt64 × UInt64} {gpt : GptData}
    (hpart : gptNextKernelEntry override ((rejectNext override)^[n] s.gpt) = (some part, gpt))
    (hsame : view s.disk part = view t.disk part) (hsmall : SmallBody (delivered disk part s.disk)) :
    ((rounds crypto disk c override (n + 1) s).good = none ↔
      (rounds crypto disk c override (n + 1) t).good = none) ↔
    (GoodKernel crypto c (delivered disk part s.disk) →
      (FitsBuffer (rounds crypto disk c override n s).params (delivered disk part s.disk) ↔
        FitsBuffer (rounds crypto disk c override n t).params (delivered disk part s.disk))) := by
  have hround (u : KernelSearch D) (hu : (rounds crypto disk c override n u).good = none)
      (hg : u.gpt = s.gpt) (hv : view u.disk part = view s.disk part) :
      (rounds crypto disk c override (n + 1) u).good = none ↔
        ¬ (GoodKernel crypto c (delivered disk part s.disk) ∧
          FitsBuffer (rounds crypto disk c override n u).params (delivered disk part s.disk)) := by
    have hcontent : delivered disk part (rounds crypto disk c override n u).disk =
        delivered disk part s.disk :=
      hf.delivered part _ _ ((rounds_view crypto c override hf n u part).trans hv)
    have htable := rounds_gpt crypto disk c override hu
    rw [hg] at htable
    have hstep : kernelStep crypto disk c override (rounds crypto disk c override n u) =
        tryPartition crypto disk c part { rounds crypto disk c override n u with gpt := gpt } := by
      rw [kernelStep, htable, hpart]
    have hiff := tryPartition_good_iff crypto disk c part
      (s := { rounds crypto disk c override n u with gpt := gpt }) hu (by rw [hcontent]; exact hsmall)
    rw [rounds_succ, hstep, ← hcontent]
    exact (not_iff_comm.mp hiff).symm
  rw [hround s hs rfl rfl, hround t ht hgpt.symm hsame.symm, not_iff_not, and_congr_right_iff]

end
def kernelEntry (name : UInt8) (first last : UInt64) (priority : UInt8) : List UInt8 :=
  chromeosKernelGuid ++ List.replicate 16 name ++ leBytes64 first ++ leBytes64 last ++
    List.replicate 6 0 ++ [priority, 1] ++ List.replicate 72 0

def twoEntries : Mem :=
  Mem.store (fun _ => 0) 1792 (kernelEntry 1 10 20 2 ++ kernelEntry 2 21 30 1)

def twoTable : GptData :=
  { sampleTable with
    primaryHeader := (sampleHeader 4288369930 1 99 2).store 88 (leBytes32 359669634)
    secondaryHeader := (sampleHeader 1885984392 99 1 95).store 88 (leBytes32 359669634)
    primaryEntries := twoEntries
    secondaryEntries := twoEntries }

def twoDisk : Disk (Mem × Mem) UInt64 where
  read lba _ d := (0,
    if lba = 1 then twoTable.primaryHeader
    else if lba = 99 then twoTable.secondaryHeader else twoEntries, d)
  write _ _ _ d := (0, d)
  streamOpen start _ d := (0, start, d)
  streamRead start _ d := (0, if start = 10 then d.1 else d.2, d)
  streamClose _ d := d

theorem twoDisk_faithful :
    StreamsFaithful twoDisk fun d part => if part.1 = 10 then d.1 else d.2 where
  streamOpen _ _ _ _ := rfl
  streamRead _ _ _ _ := rfl
  streamClose _ _ _ := rfl
  delivered part d d' h := by
    change (Except.ok ((if part.1 = 10 then d.1 else d.2), fun _ : UInt32 =>
      ((0 : UInt32), if part.1 = 10 then d.1 else d.2)) : Except UInt8 _) = .ok (_, fun _ => (0, _))
    rw [h]
    rfl

theorem twoEntries_check : checkEntries twoEntries (fields twoTable.primaryHeader) = none := by
  have hsize : (entriesSize (fields twoTable.primaryHeader)).toNat = 2048 := by decide +kernel
  have hcrc : (fields twoTable.primaryHeader).entriesCrc32 = 359669634 := by decide +kernel
  have hsum : crc32 (twoEntries.load 0 2048) = 359669634 := by
    rw [crc32_last fun x hx => Mem.store_of_lt _ 1792 x _ hx]
    decide +kernel
  exact checkEntries_good (by rw [hsize, hcrc, hsum]) (by decide +kernel)

theorem twoTable_consistent : Consistent twoTable where
  parameters := by decide
  header1 := by decide +kernel
  header2 := by decide +kernel
  same := by
    simp only [fields, HeaderFields.mk.injEq]
    refine ⟨?_, ?_, ?_, ?_, ?_, ?_, ?_, ?_, ?_, ?_⟩
    all_goals decide +kernel
  entries1 := twoEntries_check
  entries2 := twoEntries_check

theorem readGpt_two (d : Mem × Mem) : readGpt twoDisk twoTable d = (some twoTable, twoTable, d) := by
  have h1 : entriesLba twoTable.primaryHeader = 2 := by decide
  have h2 : entriesLba twoTable.secondaryHeader = 95 := by decide
  exact readGpt_known ⟨rfl, rfl, fun n => by rw [h1]; rfl, fun n => by rw [h2]; rfl⟩
    twoTable_consistent ⟨rfl, rfl, rfl, rfl, rfl⟩

/-- A normal boot without a kernel buffer from a disk with the given partitions. -/
def twoState (d : Mem × Mem) : KernelState (Mem × Mem) where
  params := (sampleKernelState 0x10001).params
  shared := (sampleKernelState 0x10001).shared
  vnc := (sampleKernelState 0x10001).vnc
  ram := fun _ => 0
  disk := d

/-- A kernel with a body of 16 bytes. -/
def largeKernel : Mem := (sampleKernel 1 2).store 592 (leBytes64 16)

/-- A kernel with a body of 8 bytes whose signature has the wrong length. -/
def badBody : Mem := (sampleKernel 1 2).store 584 (leBytes64 64)

def twoSearch (d : Mem × Mem) : KernelSearch (Mem × Mem) := .start twoTable (twoState d)

def twoChecks : KernelChecks :=
  kernelChecks (sampleKernelState 0x10001).params (sampleKernelState 0x10001).shared
    (sampleKernelState 0x10001).vnc (sampleKernelState 0x10001).shared.kernelSubkeyPtr

/-- Two first partitions whose headers are bad make no difference for the second one. -/
theorem partition_verdict_two :
    (rounds anyCrypto twoDisk twoChecks (fun _ => 0) 2
        (twoSearch (fun _ => 0, largeKernel))).good = none ↔
      (rounds anyCrypto twoDisk twoChecks (fun _ => 0) 2
        (twoSearch (fun _ => 1, largeKernel))).good = none := by
  have hpart : (gptNextKernelEntry (fun _ => 0) ((rejectNext fun _ => 0)^[1] twoTable)).1 =
      some (21, 10) := by decide
  have hnot : ¬ (21 : UInt64) = 10 := by decide
  have hsame : (if (21 : UInt64) = 10 then (fun _ => 0) else largeKernel : Mem) =
      if (21 : UInt64) = 10 then (fun _ => 1) else largeKernel := by rw [if_neg hnot, if_neg hnot]
  have hsmall : SmallBody (delivered twoDisk (21, 10) (fun _ => 0, largeKernel)) := by
    intro kbuf more h
    have hk : kbuf = if (21 : UInt64) = 10 then (fun _ => 0) else largeKernel :=
      (congrArg Prod.fst (Except.ok.inj h)).symm
    rw [hk, if_neg hnot]
    decide
  exact (partition_verdict_iff anyCrypto twoDisk twoChecks (fun _ => 0) twoDisk_faithful
    (s := twoSearch (fun _ => 0, largeKernel)) (t := twoSearch (fun _ => 1, largeKernel)) rfl 1
    (by decide) (by decide) (Prod.ext hpart rfl) hsame hsmall).mpr
    fun _ => iff_of_true (.inl (by decide)) (.inl (by decide))

theorem loadKernel_two (d : Mem × Mem) :
    loadKernel anyCrypto twoDisk (fun _ => 0) sampleCommon twoTable (twoState d) =
      kernelFound twoDisk (kernelLoop anyCrypto twoDisk
        (kernelChecks (twoState d).params.clear (twoState d).shared (twoState d).vnc
          (twoState d).shared.kernelSubkeyPtr)
        (fun _ => 0) (.start twoTable { twoState d with params := (twoState d).params.clear }))
        { twoState d with params := (twoState d).params.clear } := by
  have htable : gptFor twoTable (twoState d).params.clear = twoTable :=
    gptFor_sample rfl rfl rfl rfl
  have hread : readGpt twoDisk (gptFor twoTable (twoState d).params.clear) (twoState d).disk =
      (some twoTable, twoTable, d) := by
    rw [htable]
    exact readGpt_two d
  have hparams : ¬ ((sampleKernelState 0x10001).params.bytesPerLba = 0 ∨
      (sampleKernelState 0x10001).params.streamingLbaCount = 0) := by decide
  have hsectors : ¬ kbufSize / (sampleKernelState 0x10001).params.clear.bytesPerLba = 0 := by decide
  have hkey : kernelKey sampleCommon (sampleKernelState 0x10001).shared
      (sampleKernelState 0x10001).params.clear.bootMode =
        .ok (sampleKernelState 0x10001).shared.kernelSubkeyPtr := rfl
  exact loadKernel_found anyCrypto twoDisk (fun _ => 0) sampleCommon twoTable (twoState d) hparams
    hsectors hkey hread

/-- The second kernel boots if the first partition is empty, but not if its body was loaded and
found to be bad. -/
theorem rejected_kernel_matters :
    (loadKernel anyCrypto twoDisk (fun _ => 0) sampleCommon twoTable
      (twoState (fun _ => 0, largeKernel))).1 = vbErrorSuccess ∧
    (loadKernel anyCrypto twoDisk (fun _ => 0) sampleCommon twoTable
      (twoState (fun _ => 0, largeKernel))).2.params.partitionNumber = 16 ∧
    (loadKernel anyCrypto twoDisk (fun _ => 0) sampleCommon twoTable
      (twoState (badBody, largeKernel))).1 = vbErrorInvalidKernelFound := by
  rw [loadKernel_two, loadKernel_two]
  exact ⟨by decide +kernel, by decide +kernel, by decide +kernel⟩

end Vboot
