import Vboot.Common.Signed
import Vboot.Firmware.Policy
import Vboot.Gpt.Repair
import Vboot.Kernel.Load

/-! What a successful LoadKernel says about the kernel that it reports. -/
namespace Vboot
open Vboot.Lib Vboot.Gpt

section
variable {Ctx : Type} (crypto : Crypto Ctx) (c : KernelChecks)

def KeyBlockSigned (kbuf : Mem) : Prop :=
  keyBlockVerify crypto (kernelKeyBlock kbuf) kbufSize (some c.subkey) false = .ok ()

def KeyBlockHashed (kbuf : Mem) : Prop :=
  keyBlockVerify crypto (kernelKeyBlock kbuf) kbufSize (some c.subkey) true = .ok ()

/-- The key block may be used with these switches. -/
structure FlagsAllow (kbuf : Mem) : Prop where
  developer : (kernelKeyBlock kbuf).keyBlockFlags &&&
    (if c.devSwitch then keyBlockFlagDeveloper1 else keyBlockFlagDeveloper0) ≠ 0
  recovery : (kernelKeyBlock kbuf).keyBlockFlags &&&
    (if c.mode = .recovery then keyBlockFlagRecovery1 else keyBlockFlagRecovery0) ≠ 0

/-- The versions are not older than those in the TPM, and the key version fits into it. -/
structure VersionsAllow (kbuf : Mem) : Prop where
  fits : (kernelKeyBlock kbuf).dataKey.keyVersion.toNat ≤ 0xFFFF
  key : c.kernelVersionTpm.toNat / 2 ^ 16 ≤ (kernelKeyBlock kbuf).dataKey.keyVersion.toNat
  combined : c.kernelVersionTpm ≤ kernelCombinedVersion kbuf

def PreambleVerified (kbuf : Mem) (key : RSAPublicKey) : Prop :=
  publicKeyToRSA (kernelKeyBlock kbuf).dataKey = some key ∧
  verifyKernelPreamble crypto (kernelPreamble kbuf) (kbufSize - (kernelKeyBlock kbuf).keyBlockSize)
    key = .ok ()

/-- The body, of the size that the preamble says, fits into the buffer and was verified there by
the data key. -/
structure BodyVerified (kbuf ram : Mem) (params : LoadKernelParams) (key : RSAPublicKey) : Prop where
  fits : (kernelBodySize kbuf).toNat ≤ params.kernelBufferSize.toNat
  verified : rsaVerifyBinary crypto key ⟨ram, params.kernelBuffer.toNat⟩ (kernelBodySize kbuf).toNat
    (getSignatureData (kernelPreamble kbuf).kernelBodySignature) key.algorithm = true

/-- The policy for the key block and the versions in each mode. -/
def HeaderAccepted (kbuf : Mem) : Prop :=
  match c.mode with
  | .normal => KeyBlockSigned crypto c kbuf ∧ FlagsAllow c kbuf ∧ VersionsAllow c kbuf
  | .recovery => KeyBlockSigned crypto c kbuf ∧ FlagsAllow c kbuf
  | .developer => KeyBlockSigned crypto c kbuf ∨
      (c.requireOfficialOs = false ∧ KeyBlockHashed crypto c kbuf)

/-- The whole policy. -/
def KernelAccepted (kbuf ram : Mem) (params : LoadKernelParams) : Prop :=
  HeaderAccepted crypto c kbuf ∧
  ∃ key, PreambleVerified crypto kbuf key ∧ BodyVerified crypto kbuf ram params key

variable {kbuf : Mem}

theorem checkKernelKeyBlock_ok {signed : Bool} :
    checkKernelKeyBlock crypto c kbuf = .ok signed ↔
      (signed = true ∧ KeyBlockSigned crypto c kbuf) ∨
      (signed = false ∧ ¬ KeyBlockSigned crypto c kbuf ∧ c.mode = .developer ∧
        c.requireOfficialOs = false ∧ KeyBlockHashed crypto c kbuf) := by
  simp only [checkKernelKeyBlock, KeyBlockSigned, KeyBlockHashed, ← fails_eq_false]
  cases fails (keyBlockVerify crypto (kernelKeyBlock kbuf) kbufSize (some c.subkey) false) with
  | true =>
    simp only [if_true, reject_bind_eq_ok, pure, Except.pure, Except.ok.injEq, ne_eq, not_not,
      Bool.not_eq_true, Bool.true_eq_false, and_false, false_or, not_false_eq_true, true_and]
    constructor
    · rintro ⟨hm, ho, hh, rfl⟩
      exact ⟨rfl, hm, ho, hh⟩
    · rintro ⟨rfl, hm, ho, hh⟩
      exact ⟨hm, ho, hh, rfl⟩
  | false =>
    simp only [Bool.false_eq_true, if_false, pure, Except.pure, Except.ok.injEq, and_true,
      not_true_eq_false, false_and, and_false, or_false]
    exact eq_comm

theorem keyRollback_eq_false :
    keyRollback c kbuf = false ↔ (c.mode ≠ .recovery →
      (kernelKeyBlock kbuf).dataKey.keyVersion.toNat ≤ 0xFFFF ∧
      c.kernelVersionTpm.toNat / 2 ^ 16 ≤ (kernelKeyBlock kbuf).dataKey.keyVersion.toNat) := by
  have hs : UInt32.toNat 16 % 32 = 16 := rfl
  have hf : UInt64.toNat 0xFFFF = 0xFFFF := rfl
  simp only [keyRollback, decide_eq_false_iff_not, not_and, not_or, gt_iff_lt,
    UInt64.lt_iff_toNat_lt, UInt32.toNat_toUInt64, UInt32.toNat_shiftRight, hs, hf,
    Nat.shiftRight_eq_div_pow, Nat.not_lt]
  exact ⟨fun h hm => (h hm).symm, fun h hm => (h hm).symm⟩

/-- The key block is valid for this boot. -/
def validHeader (signed : Bool) (kbuf : Mem) : Bool :=
  signed && !devMismatch c kbuf && !recMismatch c kbuf && !keyRollback c kbuf

variable {h : KernelHeader}

theorem checkKernelHeader_ok :
    checkKernelHeader crypto c kbuf = .ok h ↔ ∃ signed,
      checkKernelKeyBlock crypto c kbuf = .ok signed ∧
      h.keyBlockValid = validHeader c signed kbuf ∧
      (c.mode ≠ .developer → h.keyBlockValid = true) ∧
      PreambleVerified crypto kbuf h.dataKey ∧
      (c.mode = .normal → c.kernelVersionTpm ≤ kernelCombinedVersion kbuf) ∧
      h.combinedVersion = kernelCombinedVersion kbuf := by
  have hmode : (¬ c.mode = .recovery ∧ ¬ c.mode = .developer) ↔ c.mode = .normal := by
    cases c.mode <;> simp
  rw [checkKernelHeader, bind_eq_ok]
  simp only [reject_bind_eq_ok, require_bind_eq_ok, pure, Except.pure, Except.ok.injEq,
    PreambleVerified, Bool.not_eq_true, fails_eq_false]
  constructor
  · rintro ⟨signed, hs, hv, key, hk, hp, hr, rfl⟩
    have hvalid (hm : c.mode ≠ .developer) : validHeader c signed kbuf = true := by
      by_contra hf
      exact hv ⟨hm, Bool.not_eq_true _ ▸ hf⟩
    refine ⟨signed, hs, rfl, hvalid, ⟨hk, hp⟩, fun hm => UInt32.not_lt.mp fun hlt => ?_, rfl⟩
    obtain ⟨hrec, hdev⟩ := hmode.mpr hm
    exact hr ⟨hvalid hdev, hrec, hlt, hdev⟩
  · rintro ⟨signed, hs, hv, hm, ⟨hk, hp⟩, hr, hc⟩
    refine ⟨signed, hs, ?_, h.dataKey, hk, hp, ?_, ?_⟩
    · rintro ⟨hdev, hf⟩
      exact absurd ((hm hdev).symm.trans hv) (by rw [validHeader, hf]; decide)
    · rintro ⟨-, hrec, hlt, hdev⟩
      exact UInt32.not_lt.mpr (hr (hmode.mp ⟨hrec, hdev⟩)) hlt
    · rw [← validHeader, ← hv, ← hc]

theorem validHeader_allows {signed : Bool} (h : validHeader c signed kbuf = true) :
    signed = true ∧ FlagsAllow c kbuf ∧ keyRollback c kbuf = false := by
  simp only [validHeader, Bool.and_eq_true, Bool.not_eq_true', devMismatch, recMismatch,
    beq_eq_false_iff_ne] at h
  exact ⟨h.1.1.1, ⟨h.1.1.2, h.1.2⟩, h.2⟩

theorem checkKernelHeader_accepted
    (hc : checkKernelHeader crypto c kbuf = .ok h) : HeaderAccepted crypto c kbuf := by
  obtain ⟨signed, hs, hv, hm, -, hr, -⟩ := (checkKernelHeader_ok crypto c).mp hc
  have hkey := (checkKernelKeyBlock_ok crypto c).mp hs
  unfold HeaderAccepted
  cases hmode : c.mode with
  | developer =>
    rcases hkey with ⟨-, hsig⟩ | ⟨-, -, -, ho, hh⟩
    · exact .inl hsig
    · exact .inr ⟨ho, hh⟩
  | normal =>
    obtain ⟨rfl, hflags, hroll⟩ := validHeader_allows c (hv.symm.trans (hm (by rw [hmode]; decide)))
    obtain ⟨hfits, hver⟩ := (keyRollback_eq_false c).mp hroll (by rw [hmode]; decide)
    have hsig : KeyBlockSigned crypto c kbuf := by simpa using hkey
    exact ⟨hsig, hflags, hfits, hver, hr hmode⟩
  | recovery =>
    obtain ⟨rfl, hflags, -⟩ := validHeader_allows c (hv.symm.trans (hm (by rw [hmode]; decide)))
    have hsig : KeyBlockSigned crypto c kbuf := by simpa using hkey
    exact ⟨hsig, hflags⟩

end

section
variable {Ctx D S : Type} (crypto : Crypto Ctx) (disk : Disk D S) (c : KernelChecks)

/-- The start of the partition was read from the disk. -/
def ReadFrom (part : UInt64 × UInt64) (kbuf : Mem) : Prop :=
  ∃ d d' d'' stream, disk.streamOpen part.1 part.2 d = (0, stream, d') ∧
    disk.streamRead stream kbufSize.toUInt32 d' = (0, kbuf, d'')

/-- The outputs describe partition i of the table, with the given start. -/
structure Reported (table : GptData) (i : Nat) (kbuf : Mem) (params : LoadKernelParams) : Prop where
  inside : i < (fields table.primaryHeader).numberOfEntries.toNat
  kernel : isKernelEntry (entryAt table.primaryEntries i) = true
  read : ReadFrom disk (partitionOf table i) kbuf
  number : params.partitionNumber = UInt64.ofNat (i + 1)
  guid : params.partitionGuid = entryUnique (entryAt table.primaryEntries i)
  bootloaderAddress : params.bootloaderAddress = (kernelPreamble kbuf).bootloaderAddress
  bootloaderSize : params.bootloaderSize = (kernelPreamble kbuf).bootloaderSize

/-- A good partition has been found, and the lowest version is not above its own. -/
structure Booting (table : GptData) (valid : Bool) (lowestVersion : UInt32) (ram : Mem)
    (params : LoadKernelParams) (i : Nat) (kbuf : Mem) : Prop where
  reported : Reported disk table i kbuf params
  accepted : KernelAccepted crypto c kbuf ram params
  signed : c.mode ≠ .developer → valid = true
  lowest : valid = true → lowestVersion ≤ kernelCombinedVersion kbuf

/-- The invariant of the loop: the partitions are those of the table, and if one has been taken
it met the policy. -/
structure Scanning (table : GptData) (s : KernelSearch D) : Prop where
  same : SameParts table s.gpt
  booting : ∀ valid, s.good = some valid → ∃ i kbuf,
    Booting crypto disk c table valid s.lowestVersion s.ram s.params i kbuf

theorem openKernel_ok {part : UInt64 × UInt64} {d d' : D} {stream : S} {kbuf : Mem}
    (h : openKernel disk part d = (.ok (stream, kbuf), d')) : ReadFrom disk part kbuf := by
  unfold openKernel at h
  dsimp only at h
  split_ifs at h with h1 h2
  all_goals cases h
  refine ⟨d, (disk.streamOpen part.1 part.2 d).2.2, _, _, Prod.ext (not_not.mp h1) rfl,
    Prod.ext (not_not.mp h2) rfl⟩

theorem loadBody_ok {stream : S} {kbuf : Mem} {key : RSAPublicKey} {s s' : KernelSearch D}
    (h : loadBody crypto disk stream kbuf key s = (.ok (), s')) :
    BodyVerified crypto kbuf s'.ram s'.params key := by
  unfold loadBody at h
  dsimp only at h
  split_ifs at h with h1 h2 h3 h4
  all_goals cases h
  obtain ⟨-, hsize, hver⟩ := (verifyData_eq_false crypto).mp (Bool.not_eq_true _ ▸ h4)
  exact ⟨UInt64.le_iff_toNat_le.mp hsize, hver⟩

structure At (table gpt : GptData) (i : Nat) : Prop where
  current : gpt.currentKernel = some i
  inside : i < (fields table.primaryHeader).numberOfEntries.toNat
  kernel : isKernelEntry (entryAt table.primaryEntries i) = true

section
variable {table : GptData} {s : KernelSearch D} {i : Nat} {kbuf : Mem} {h : KernelHeader}

theorem reportKernel_reported {gpt : GptData} (hs : SameParts table gpt) (hat : At table gpt i)
    (hread : ReadFrom disk (partitionOf table i) kbuf) (params : LoadKernelParams) :
    Reported disk table i kbuf (reportKernel gpt kbuf params) := by
  refine ⟨hat.inside, hat.kernel, hread, ?_, ?_, rfl, rfl⟩
  · change UInt64.ofNat (gpt.currentKernel.elim 0 (· + 1)) = _
    rw [hat.current, Option.elim_some]
  · change getCurrentKernelUniqueGuid gpt = _
    rw [getCurrentKernelUniqueGuid, hat.current, Option.getD_some, hs.unique]

theorem Scanning.takeKernel (hs : SameParts table s.gpt) (hat : At table s.gpt i)
    (hread : ReadFrom disk (partitionOf table i) kbuf)
    (hc : checkKernelHeader crypto c kbuf = .ok h)
    (hb : BodyVerified crypto kbuf s.ram s.params h.dataKey)
    (hl : h.keyBlockValid = true → s.lowestVersion ≤ kernelCombinedVersion kbuf) :
    Scanning crypto disk c table (takeKernel c kbuf h s).1 := by
  obtain ⟨signed, -, -, hm, hp, -, -⟩ := (checkKernelHeader_ok crypto c).mp hc
  refine ⟨?_, fun valid hv => ⟨i, kbuf, reportKernel_reported disk hs hat hread s.params,
    ⟨checkKernelHeader_accepted crypto c hc, h.dataKey, hp, hb.fits, hb.verified⟩, ?_, ?_⟩⟩
  · unfold Vboot.takeKernel
    dsimp only
    split_ifs
    · exact hs
    · exact hs.trans (gptUpdateKernelEntry_frame s.gpt .try).1
  · cases hv
    exact hm
  · cases hv
    exact hl

theorem sawKernel_lowest (h : KernelHeader) (s : KernelSearch D) :
    (sawKernel h s).lowestVersion ≤ s.lowestVersion ∧
      (h.keyBlockValid = true → (sawKernel h s).lowestVersion ≤ h.combinedVersion) := by
  unfold sawKernel
  dsimp only
  split_ifs with hc
  · exact ⟨UInt32.le_of_lt hc.2, fun _ => UInt32.le_refl _⟩
  · exact ⟨UInt32.le_refl _, fun hv => UInt32.not_lt.mp fun hlt => hc ⟨hv, hlt⟩⟩

theorem Scanning.tryPartition (hs : Scanning crypto disk c table s) (hat : At table s.gpt i) :
    Scanning crypto disk c table (tryPartition crypto disk c (partitionOf table i) s).1 := by
  have hround := tryPartition_round crypto disk c (partitionOf table i) s
  generalize (Vboot.tryPartition crypto disk c (partitionOf table i) s).1 = s' at hround ⊢
  have hbad := hs.same.trans (gptUpdateKernelEntry_frame s.gpt .bad).1
  cases hround with
  | refused d streamed bad => exact ⟨hbad, hs.booting⟩
  | passed h d streamed known =>
    refine ⟨hs.same, fun valid hv => ?_⟩
    obtain ⟨i, kbuf, hb⟩ := hs.booting valid hv
    exact ⟨i, kbuf, hb.reported, hb.accepted, hb.signed,
      fun ht => UInt32.le_trans (sawKernel_lowest h { s with disk := d }).1 (hb.lowest ht)⟩
  | loaded stream kbuf d h opened header first r s' body =>
    have hl := loadBody_loaded crypto disk body
    have hgpt : s'.gpt = s.gpt := hl.gpt
    rw [← hgpt] at hat hbad
    cases r with
    | error e => exact ⟨hbad, fun valid hv => by cases (hl.good.trans first).symm.trans hv⟩
    | ok u =>
      obtain ⟨-, -, -, -, -, -, hcomb⟩ := (checkKernelHeader_ok crypto c).mp header
      have hlow := (sawKernel_lowest h { s with disk := d, found := s.found + 1 }).2
      rw [hcomb] at hlow
      refine Scanning.takeKernel crypto disk c (hgpt ▸ hs.same) hat (openKernel_ok disk opened) header
        (loadBody_ok crypto disk body) ?_
      rw [hl.lowest]
      exact hlow

end

variable (override : Ptr → UInt8)

theorem isCandidate_kernel {e : Ptr} (h : isCandidate e = true) : isKernelEntry e = true := by
  unfold isCandidate at h
  exact (Bool.and_eq_true _ _ ▸ h).1

variable {s : KernelSearch D}

theorem Scanning.kernelStep {table : GptData}
    (hs : Scanning crypto disk c table s) :
    Scanning crypto disk c table (kernelStep crypto disk c override s).1 := by
  have hsame := hs.same.trans (.gptNextKernelEntry override s.gpt)
  unfold Vboot.kernelStep
  cases hn : gptNextKernelEntry override s.gpt with
  | mk part gpt =>
    rw [hn] at hsame
    cases part with
    | none => exact ⟨hsame, hs.booting⟩
    | some part =>
      obtain ⟨i, hi⟩ := gptNextKernelEntry_some override hn
      have hpart : part = partitionOf table i := hi.part.trans (hs.same.part i)
      have hin := hi.inside
      rw [hs.same.count] at hin
      have hat : At table gpt i := ⟨by rw [hi.table], hin,
        (hs.same.kernel i).symm.trans (isCandidate_kernel hi.candidate)⟩
      rw [hpart]
      exact Scanning.tryPartition crypto disk c (s := { s with gpt := gpt }) ⟨hsame, hs.booting⟩ hat

theorem Scanning.kernelLoop {table : GptData}
    (hs : Scanning crypto disk c table s) :
    Scanning crypto disk c table (kernelLoop crypto disk c override s) :=
  kernelLoop_invariant crypto disk c override (fun _ h => h.kernelStep crypto disk c override) hs

theorem Scanning.start (table : GptData) (s : KernelState D) :
    Scanning crypto disk c table (.start table s) :=
  ⟨.of_eq rfl rfl, fun _ h => by cases h⟩

variable (cparams : VbCommonParams)

theorem vbGbbReadKey_error {gbb : GbbAccess} {offset : UInt32} {heap heap' : Mem} {e : UInt32}
    (h : vbGbbReadKey gbb offset heap heap' = .error e) : e ≠ vbErrorSuccess := by
  unfold vbGbbReadKey at h
  dsimp only at h
  split_ifs at h with h1 h2 h3
  all_goals
    cases h
    assumption

theorem kernelKey_error {shared : VbSharedData} {mode : BootMode} {e : UInt32}
    (h : kernelKey cparams shared mode = .error e) : e ≠ vbErrorSuccess := by
  cases mode with
  | recovery => exact vbGbbReadKey_error h
  | normal => cases h
  | developer => cases h

/-- What LoadKernel leaves of the shared data: the version goes up to the lowest one if that is
higher, and one flag may be set. -/
structure SharedAfter (a b : VbSharedData) (version : UInt32) : Prop where
  version : b.kernelVersionTpm = version
  start : b.kernelVersionTpmStart = a.kernelVersionTpmStart
  tried : b.flags &&& vbsdFwbTried = a.flags &&& vbsdFwbTried
  index : b.firmwareIndex = a.firmwareIndex

/-- A call either fails and leaves the version alone, or boots a kernel. -/
inductive LoadKernelOutcome (gpt : GptData) (s : KernelState D) (r : UInt32 × KernelState D) : Prop where
  | failed (error : r.1 ≠ vbErrorSuccess)
      (shared : SharedAfter s.shared r.2.shared s.shared.kernelVersionTpm)
  | booted (success : r.1 = vbErrorSuccess) (subkey : Ptr) (table : GptData) (valid : Bool)
      (lowest : UInt32) (i : Nat) (kbuf : Mem)
      (key : kernelKey cparams s.shared s.params.bootMode = .ok subkey)
      (read : (readGpt disk (gptFor gpt s.params) s.disk).1 = some table)
      (booting : Booting crypto disk (kernelChecks s.params s.shared s.vnc subkey) table valid lowest
        r.2.ram r.2.params i kbuf)
      (shared : SharedAfter s.shared r.2.shared
        (raiseKernelVersion s.shared lowest).kernelVersionTpm)

theorem or_keyVerified (flags : UInt32) :
    (flags ||| vbsdKernelKeyVerified) &&& vbsdFwbTried = flags &&& vbsdFwbTried :=
  Lib.Flags.or_and_of_disjoint rfl

theorem loadKernelExit_shared (retval recovery : UInt32) (valid : Bool) (s : KernelState D) :
    SharedAfter s.shared (loadKernelExit retval recovery valid s).2.shared
      s.shared.kernelVersionTpm := by
  unfold loadKernelExit
  cases valid with
  | true => exact ⟨rfl, rfl, or_keyVerified s.shared.flags, rfl⟩
  | false => exact ⟨rfl, rfl, rfl, rfl⟩

/-- How LoadKernel goes: it stops before there is a table to search, or the search decides. -/
inductive Called (gpt : GptData) (s : KernelState D) : UInt32 × KernelState D → Prop where
  | stopped (e recovery : UInt32) (s' : KernelState D) (error : e ≠ vbErrorSuccess)
    (shared : s'.shared = s.shared) (flags : s'.params.bootFlags = s.params.bootFlags)
    (disk : s'.disk = s.disk ∨ (readGpt disk (gptFor gpt s.params) s.disk).1 = none) :
    Called gpt s (loadKernelExit e recovery false s')
  | searched (subkey : Ptr) (table gpt' : GptData) (d : D)
    (key : kernelKey cparams s.shared s.params.bootMode = .ok subkey)
    (read : readGpt disk (gptFor gpt s.params) s.disk = (some table, gpt', d)) :
    Called gpt s (kernelFound disk (kernelLoop crypto disk (kernelChecks s.params s.shared s.vnc subkey)
      override (.start table { s with params := s.params.clear, disk := d })) { s with params := s.params.clear })

/- Clearing the outputs does not change what the call looks at. -/
variable (gpt : GptData)

theorem loadKernel_called (s : KernelState D) :
    Called crypto disk override cparams gpt s (loadKernel crypto disk override cparams gpt s) := by
  unfold loadKernel
  dsimp only
  split_ifs
  · exact .stopped _ _ s (by decide) rfl rfl (.inl rfl)
  · exact .stopped _ _ _ (by decide) rfl rfl (.inl rfl)
  · cases hkey : kernelKey cparams s.shared s.params.clear.bootMode with
    | error e => exact .stopped e _ _ (kernelKey_error cparams hkey) rfl rfl (.inl rfl)
    | ok subkey =>
      dsimp only [findKernel]
      cases hread : readGpt disk (gptFor gpt s.params.clear) s.disk with
      | mk table r =>
        cases table with
        | none =>
          exact .stopped vbErrorNoKernelFound recoveryRwNoOs { s with
            params := s.params.clear, disk := (writeAndFreeGptData disk r.1 r.2).2 } (by decide) rfl rfl
            (.inr (congrArg Prod.fst hread))
        | some table => exact .searched subkey table r.1 r.2 hkey hread

theorem kernelFound_outcome {gpt table : GptData} {subkey : Ptr} {k : KernelSearch D}
    {s : KernelState D} (hkey : kernelKey cparams s.shared s.params.bootMode = .ok subkey)
    (hread : (readGpt disk (gptFor gpt s.params) s.disk).1 = some table)
    (hk : Scanning crypto disk (kernelChecks s.params s.shared s.vnc subkey) table k) :
    LoadKernelOutcome crypto disk cparams gpt s (kernelFound disk k { s with params := s.params.clear }) := by
  unfold kernelFound
  dsimp only
  cases hg : k.good with
  | some valid =>
    obtain ⟨i, kbuf, hb⟩ := hk.booting valid hg
    have hr := hb.reported
    refine .booted rfl subkey table valid k.lowestVersion i kbuf hkey hread
      ⟨⟨hr.inside, hr.kernel, hr.read, hr.number, hr.guid, hr.bootloaderAddress, hr.bootloaderSize⟩,
        ?_, hb.signed, hb.lowest⟩ ?_
    · obtain ⟨hh, key, hp, hbody⟩ := hb.accepted
      exact ⟨hh, key, hp, hbody.fits, hbody.verified⟩
    · obtain ⟨h1, h2, h3, h4⟩ := loadKernelExit_shared vbErrorSuccess recoveryLkUnspecified valid
        { s with
          params := k.params
          ram := k.ram
          disk := (writeAndFreeGptData disk k.gpt k.disk).2
          shared := raiseKernelVersion s.shared k.lowestVersion }
      exact ⟨h1, h2, h3, h4⟩
  | none =>
    have hinvalid : vbErrorInvalidKernelFound ≠ vbErrorSuccess := by decide
    have hnone : vbErrorNoKernelFound ≠ vbErrorSuccess := by decide
    split_ifs
    · exact .failed hinvalid ⟨rfl, rfl, rfl, rfl⟩
    · exact .failed hnone ⟨rfl, rfl, rfl, rfl⟩

theorem loadKernel_outcome (s : KernelState D) :
    LoadKernelOutcome crypto disk cparams gpt s (loadKernel crypto disk override cparams gpt s) := by
  have hcalled := loadKernel_called crypto disk override cparams gpt s
  generalize loadKernel crypto disk override cparams gpt s = r at hcalled ⊢
  cases hcalled with
  | stopped e recovery s' error shared flags disk' =>
    exact .failed error (shared ▸ loadKernelExit_shared e recovery false s')
  | searched subkey table gpt' d key read =>
    exact kernelFound_outcome crypto disk cparams key (by rw [read])
      ((Scanning.start crypto disk _ table _).kernelLoop crypto disk _ override)

theorem kernelStep_bootFlags (s : KernelSearch D) :
    (kernelStep crypto disk c override s).1.params.bootFlags = s.params.bootFlags := by
  rcases kernelStep_cases crypto disk c override s with ⟨gpt, -, he⟩ | ⟨part, gpt, i, -, -, he⟩
  · rw [he]
  · rw [he]
    exact (tryPartition_tried crypto disk c part { s with gpt := gpt }).bootFlags

theorem kernelLoop_bootFlags (s : KernelSearch D) :
    (kernelLoop crypto disk c override s).params.bootFlags = s.params.bootFlags :=
  @kernelLoop_invariant _ _ _ crypto disk c override (fun k => k.params.bootFlags = s.params.bootFlags)
    (fun a h => (kernelStep_bootFlags crypto disk c override a).trans h) s rfl

variable (k : KernelSearch D) (s : KernelState D)

theorem kernelFound_spec :
    ((kernelFound disk k s).1 = vbErrorSuccess ↔ k.good ≠ none) ∧
    (kernelFound disk k s).2.disk = (writeAndFreeGptData disk k.gpt k.disk).2 ∧
    (kernelFound disk k s).2.ram = k.ram ∧
    ∃ n, (kernelFound disk k s).2.params = { k.params with sharedDataSize := n } := by
  have hinvalid : vbErrorInvalidKernelFound ≠ vbErrorSuccess := by decide
  have hnone : vbErrorNoKernelFound ≠ vbErrorSuccess := by decide
  unfold kernelFound
  dsimp only
  cases k.good with
  | some valid => exact ⟨iff_of_true rfl (Option.some_ne_none _), rfl, rfl, _, rfl⟩
  | none =>
    split_ifs
    · exact ⟨iff_of_false hinvalid fun h => h rfl, rfl, rfl, _, rfl⟩
    · exact ⟨iff_of_false hnone fun h => h rfl, rfl, rfl, _, rfl⟩

theorem kernelFound_bootFlags :
    (kernelFound disk k s).2.params.bootFlags = k.params.bootFlags := by
  obtain ⟨-, -, -, n, hparams⟩ := kernelFound_spec disk k s
  rw [hparams]

theorem kernelFound_number :
    (kernelFound disk k s).2.params.partitionNumber = k.params.partitionNumber := by
  obtain ⟨-, -, -, n, hparams⟩ := kernelFound_spec disk k s
  rw [hparams]

theorem loadKernel_bootFlags :
    (loadKernel crypto disk override cparams gpt s).2.params.bootFlags = s.params.bootFlags := by
  have hcalled := loadKernel_called crypto disk override cparams gpt s
  generalize loadKernel crypto disk override cparams gpt s = r at hcalled ⊢
  cases hcalled with
  | stopped e recovery s' error shared flags disk' => exact flags
  | searched subkey table gpt' d key read =>
    exact (kernelFound_bootFlags disk _ _).trans (kernelLoop_bootFlags crypto disk _ override _)

/-- The kernel that a successful call reports met the policy of its mode. -/
theorem loadKernel_policy
    (h : (loadKernel crypto disk override cparams gpt s).1 = vbErrorSuccess) :
    ∃ subkey table i kbuf,
      kernelKey cparams s.shared s.params.bootMode = .ok subkey ∧
      (readGpt disk (gptFor gpt s.params) s.disk).1 = some table ∧
      Reported disk table i kbuf (loadKernel crypto disk override cparams gpt s).2.params ∧
      KernelAccepted crypto (kernelChecks s.params s.shared s.vnc subkey) kbuf
        (loadKernel crypto disk override cparams gpt s).2.ram
        (loadKernel crypto disk override cparams gpt s).2.params := by
  cases loadKernel_outcome crypto disk override cparams gpt s with
  | failed error => exact absurd h error
  | booted _ subkey table valid lowest i kbuf key read booting =>
    exact ⟨subkey, table, i, kbuf, key, read, booting.reported, booting.accepted⟩

end

/-- A key block of 504 bytes, a preamble of 372 and a body of 8. -/
def sampleKernel (keyVersion kernelVersion : Nat) : Mem :=
  Mem.ofList (keyBlockMagic ++ [2, 0, 0, 0, 1, 0, 0, 0] ++ bytes64 504 ++ sampleSignature 352 376 ++
    sampleSignature 0 0 ++ bytes64 7 ++ sampleKey 32 keyVersion ++ [32, 0, 0, 0] ++
    List.replicate 388 0 ++
    bytes64 372 ++ sampleSignature 236 244 ++ [2, 0, 0, 0, 2, 0, 0, 0] ++ bytes64 kernelVersion ++
    bytes64 0x100000 ++ bytes64 0x100000 ++ bytes64 4 ++ sampleSignature 44 8)

/-- The disk has the table and the kernel, and no state of its own. -/
def sampleDisk (kernel : Mem) : Disk Unit Unit where
  read lba _ _ := (0,
    if lba = 1 then sampleTable.primaryHeader
    else if lba = 99 then sampleTable.secondaryHeader else sampleEntries, ())
  write _ _ _ _ := (0, ())
  streamOpen _ _ _ := (0, (), ())
  streamRead _ _ _ := (0, kernel, ())
  streamClose _ _ := ()

/-- A normal boot from an external table, with the kernel version of the TPM and a kernel
subkey whose data is at offset 1040. -/
def sampleKernelState (version : UInt32) : KernelState Unit where
  params :=
    { sharedDataSize := 0
      bytesPerLba := 512
      streamingLbaCount := 100
      gptLbaCount := 100
      kernelBuffer := 0
      kernelBufferSize := 0
      bootFlags := bootFlagExternalGpt
      partitionNumber := 0
      bootloaderAddress := 0
      bootloaderSize := 0
      partitionGuid := []
      flags := 0 }
  shared := { sampleShared 0 with
    kernelSubkey := ⟨1000, 264, 0, 1⟩
    kernelVersionTpm := version
    data := Mem.store (fun _ => 0) 1040 [32, 0, 0, 0] }
  vnc := vbNvSetup (Vector.replicate 16 0)
  ram := fun _ => 0
  disk := ()

def sampleCommon : VbCommonParams where
  gbb := ⟨sampleGbb, 0⟩
  gbbAccess := .buffer sampleGbb 424
  sharedDataSize := 3072
  heap := fun _ => 0
  heap' := fun _ => 0

variable {D S : Type} {disk : Disk D S} {d : D} {table : GptData}

theorem allocAndReadGptData_known {gpt : GptData}
    (h1 : readHeaderSector disk gpt 1 gpt.primaryHeader d = (gpt.primaryHeader, d))
    (h2 : readHeaderSector disk gpt (gpt.gptDriveSectors - 1) gpt.secondaryHeader d =
      (gpt.secondaryHeader, d)) (he1 : readEntries disk gpt true gpt.primaryHeader gpt.primaryEntries d =
      (true, gpt.primaryEntries, d))
    (he2 : readEntries disk gpt true gpt.secondaryHeader gpt.secondaryEntries d =
      (true, gpt.secondaryEntries, d)) (hc : Consistent gpt) (hm : gpt.modified = unmodified) :
    allocAndReadGptData disk gpt d = (false, gpt, d) := by
  rw [allocAndReadGptData, h1]
  simp only [hc.header1, he1]
  rw [h2]
  simp only [hc.header2, he2]
  rw [← hm]
  rfl

structure HoldsTable (disk : Disk D S) (table : GptData) (d : D) : Prop where
  header1 : disk.read 1 1 d = (0, table.primaryHeader, d)
  header2 : disk.read (table.gptDriveSectors - 1) 1 d = (0, table.secondaryHeader, d)
  entries1 : ∀ n, disk.read (entriesLba table.primaryHeader) n d = (0, table.primaryEntries, d)
  entries2 : ∀ n, disk.read (entriesLba table.secondaryHeader) n d = (0, table.secondaryEntries, d)

/-- A table in which there is nothing to do. -/
structure Unchanged (table : GptData) : Prop where
  modified : table.modified = unmodified
  kernel : table.currentKernel = none
  priority : table.currentPriority = 999
  headers : table.validHeaders = maskBoth
  entries : table.validEntries = maskBoth

theorem readGpt_ok {gpt gpt' : GptData} {d' : D}
    (hread : allocAndReadGptData disk gpt d = (false, gpt', d')) (hinit : gptInit gpt' = (none, table)) :
    readGpt disk gpt d = (some table, table, d') := by
  rw [readGpt, hread]
  dsimp only
  rw [if_neg Bool.false_ne_true, hinit]

theorem readGpt_known (hd : HoldsTable disk table d) (hc : Consistent table) (hu : Unchanged table) :
    readGpt disk table d = (some table, table, d) := by
  have hheader (lba : UInt64) (h : Mem) (hr : disk.read lba 1 d = (0, h, d)) :
      readHeaderSector disk table lba h d = (h, d) := by
    simp only [readHeaderSector, hr, ne_eq, not_true_eq_false, if_false, Mem.store_load]
  have hentries (h e : Mem) (hr : ∀ n, disk.read (entriesLba h) n d = (0, e, d)) :
      readEntries disk table true h e d = (true, e, d) := by
    simp only [readEntries, if_true, hr, Mem.store_load]
    rfl
  exact readGpt_ok (allocAndReadGptData_known (hheader _ _ hd.header1) (hheader _ _ hd.header2)
    (hentries _ _ hd.entries1) (hentries _ _ hd.entries2) hc hu.modified)
    (gptInit_consistent hc hu.modified hu.kernel hu.priority hu.headers hu.entries)

theorem readGpt_sample (kernel : Mem) :
    readGpt (sampleDisk kernel) sampleTable () = (some sampleTable, sampleTable, ()) := by
  have h1 : entriesLba sampleTable.primaryHeader = 2 := by decide +kernel
  have h2 : entriesLba sampleTable.secondaryHeader = 95 := by decide +kernel
  exact readGpt_known ⟨rfl, rfl, fun n => by rw [h1]; rfl, fun n => by rw [h2]; rfl⟩
    sampleTable_consistent ⟨rfl, rfl, rfl, rfl, rfl⟩

section
variable {Ctx D S : Type} (crypto : Crypto Ctx) (disk : Disk D S) (override : Ptr → UInt8)
  (cparams : VbCommonParams) (gpt : GptData) (s : KernelState D)

theorem loadKernel_found {table gpt' : GptData} {subkey : Ptr} {d : D}
    (hb : ¬ (s.params.bytesPerLba = 0 ∨ s.params.streamingLbaCount = 0))
    (hk : ¬ kbufSize / s.params.clear.bytesPerLba = 0)
    (hkey : kernelKey cparams s.shared s.params.clear.bootMode = .ok subkey)
    (hread : readGpt disk (gptFor gpt s.params.clear) s.disk = (some table, gpt', d)) :
    loadKernel crypto disk override cparams gpt s =
      kernelFound disk (kernelLoop crypto disk (kernelChecks s.params.clear s.shared s.vnc subkey)
        override (.start table { s with params := s.params.clear, disk := d }))
        { s with params := s.params.clear } := by
  rw [loadKernel, if_neg hb]
  dsimp only
  rw [if_neg hk, hkey]
  dsimp only [findKernel]
  rw [hread]

end

theorem gptFor_sample (hb : table.sectorBytes = 512) (hs : table.streamingDriveSectors = 100)
    (hd : table.gptDriveSectors = 100) (hf : table.flags = gptFlagExternal) :
    gptFor table (sampleKernelState 0x10001).params.clear = table := by
  have hflags : (if (sampleKernelState 0x10001).params.clear.bootFlags &&& bootFlagExternalGpt ≠ 0 then
      gptFlagExternal else 0) = gptFlagExternal := by decide
  rw [gptFor, hflags]
  cases table
  subst hb hs hd hf
  rfl

/-- A kernel of version 1.2 is found when the TPM is at 1.1. -/
theorem loadKernel_policy_sample :
    (loadKernel anyCrypto (sampleDisk (sampleKernel 1 2)) (fun _ => 0) sampleCommon sampleTable
      (sampleKernelState 0x10001)).1 = vbErrorSuccess ∧
    ∃ subkey table i kbuf,
      kernelKey sampleCommon (sampleKernelState 0x10001).shared
        (sampleKernelState 0x10001).params.bootMode = .ok subkey ∧
      (readGpt (sampleDisk (sampleKernel 1 2)) (gptFor sampleTable (sampleKernelState 0x10001).params)
        (sampleKernelState 0x10001).disk).1 = some table ∧
      Reported (sampleDisk (sampleKernel 1 2)) table i kbuf
        (loadKernel anyCrypto (sampleDisk (sampleKernel 1 2)) (fun _ => 0) sampleCommon sampleTable
          (sampleKernelState 0x10001)).2.params ∧
      KernelAccepted anyCrypto (kernelChecks (sampleKernelState 0x10001).params
        (sampleKernelState 0x10001).shared (sampleKernelState 0x10001).vnc subkey) kbuf
        (loadKernel anyCrypto (sampleDisk (sampleKernel 1 2)) (fun _ => 0) sampleCommon sampleTable
          (sampleKernelState 0x10001)).2.ram
        (loadKernel anyCrypto (sampleDisk (sampleKernel 1 2)) (fun _ => 0) sampleCommon sampleTable
          (sampleKernelState 0x10001)).2.params := by
  have hread : readGpt (sampleDisk (sampleKernel 1 2))
      (gptFor sampleTable (sampleKernelState 0x10001).params.clear)
      (sampleKernelState 0x10001).disk = (some sampleTable, sampleTable, ()) := by
    rw [gptFor_sample rfl rfl rfl rfl]
    exact readGpt_sample (sampleKernel 1 2)
  have hkey : kernelKey sampleCommon (sampleKernelState 0x10001).shared
      (sampleKernelState 0x10001).params.clear.bootMode =
        .ok (sampleKernelState 0x10001).shared.kernelSubkeyPtr := rfl
  have h : (loadKernel anyCrypto (sampleDisk (sampleKernel 1 2)) (fun _ => 0) sampleCommon sampleTable
      (sampleKernelState 0x10001)).1 = vbErrorSuccess := by
    rw [loadKernel_found anyCrypto (sampleDisk (sampleKernel 1 2)) (fun _ => 0) sampleCommon
      sampleTable (sampleKernelState 0x10001) (by decide) (by decide) hkey hread]
    decide +kernel
  exact ⟨h, loadKernel_policy anyCrypto (sampleDisk (sampleKernel 1 2)) (fun _ => 0) sampleCommon
    sampleTable (sampleKernelState 0x10001) h⟩

end Vboot
