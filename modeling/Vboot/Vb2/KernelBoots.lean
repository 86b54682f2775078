import Vboot.Lib.Run
import Vboot.Vb2.Accept
import Vboot.Vb2.Kernel

/-! Sequences of kernel boots with the vboot2 library, and the kernel version that secdatak keeps
from one to the next. -/
namespace Vboot.Vb2
open Vboot.Lib Vboot.Lib.Program

/-- What an attempt to load a kernel leaves alone. -/
structure KernelFrame (a b : Vb2Context) : Prop where
  flags : b.flags = a.flags
  secdatak : b.secdatak = a.secdatak
  stored : b.sd.kernelVersionSecdatak = a.sd.kernelVersionSecdatak

namespace KernelFrame
variable {a b c : Vb2Context}

theorem refl (a : Vb2Context) : KernelFrame a a := ⟨rfl, rfl, rfl⟩

theorem trans (h : KernelFrame a b) (h' : KernelFrame b c) : KernelFrame a c :=
  ⟨h'.flags.trans h.flags, h'.secdatak.trans h.secdatak, h'.stored.trans h.stored⟩

instance : Std.Refl KernelFrame := ⟨refl⟩

instance : IsTrans Vb2Context KernelFrame := ⟨fun _ _ _ => trans⟩

theorem workbuf (ctx : Vb2Context) (m : Mem) : KernelFrame ctx { ctx with workbuf := m } :=
  ⟨rfl, rfl, rfl⟩

end KernelFrame

section
variable (align : UInt32) (hash : Vb2HashAlgorithm → List UInt8 → List UInt8) (ex : Vb2Ex)

theorem keeps_readKernelKeyblock (wb : Vb2Workbuf) :
    (readKernelKeyblock align ex wb).Keeps KernelFrame := by
  have hread := keeps_read ex KernelFrame.workbuf .kernelVblock
  refine Keeps.bind (keeps_inspect _) fun p => (hread _ _ _).bind fun _ => (keeps_observe _).bind fun s => ?_
  exact Keeps.bind (keeps_inspect _) fun p => (hread _ _ _).bind fun _ => keeps_pure _

theorem keeps_verifyKernelKeyblock (need : Bool) (kb : UInt64) (size : UInt32) (key : Vb2PublicKey)
    (wb : Vb2Workbuf) : (verifyKernelKeyblock align hash need kb size key wb).Keeps KernelFrame := by
  have hbuf {α : Type} (x : Program UInt32 Mem α) : (onWorkbuf x).Keeps KernelFrame :=
    Keeps.zoom x fun m ctx => KernelFrame.workbuf ctx m
  refine (Keeps.attempt (hbuf _)).bind fun r => ?_
  cases r with
  | ok u => exact keeps_pure true
  | error rv => exact (keeps_throw rv).ite ((hbuf _).bind fun _ => keeps_pure false)

theorem keeps_vb2LoadKernelKeyblock : (vb2LoadKernelKeyblock align hash ex).Keeps KernelFrame := by
  refine (keeps_observe _).bind fun wb => (keeps_observe _).bind fun need => ?_
  refine (keeps_update fun ctx => ⟨rfl, rfl, rfl⟩).bind fun _ => (keeps_inspect _).bind fun key => ?_
  refine (keeps_readKernelKeyblock align ex wb).bind fun p => ?_
  refine (keeps_verifyKernelKeyblock align hash need _ _ key _).bind fun valid => ?_
  refine (keeps_inspect _).bind fun valid => ?_
  refine (keeps_update fun ctx => ⟨rfl, rfl, rfl⟩).bind fun _ => ?_
  exact keeps_update fun ctx => ⟨rfl, rfl, rfl⟩

theorem keeps_loadKernelPreamble (dataKey : Vb2PublicKey) :
    (loadKernelPreamble align hash ex dataKey).Keeps KernelFrame := by
  have hread := keeps_read ex KernelFrame.workbuf .kernelVblock
  refine (keeps_observe _).bind fun wb => (keeps_observe _).bind fun offset => ?_
  refine Keeps.bind (keeps_inspect _) fun p => (hread _ _ _).bind fun _ => (keeps_observe _).bind fun s => ?_
  refine Keeps.bind (keeps_inspect _) fun p => (hread _ _ _).bind fun _ => ?_
  exact (Keeps.zoom _ fun m ctx => KernelFrame.workbuf ctx m).bind fun _ => keeps_pure _

theorem keeps_vb2LoadKernelPreamble : (vb2LoadKernelPreamble align hash ex).Keeps KernelFrame := by
  refine (keeps_inspect _).bind fun key => (keeps_loadKernelPreamble align hash ex key).bind fun p => ?_
  refine (keeps_observe _).bind fun version => (keeps_inspect _).bind fun _ => ?_
  refine (keeps_update fun ctx => ⟨rfl, rfl, rfl⟩).bind fun _ => (keeps_inspect _).bind fun _ => ?_
  exact keeps_update fun ctx => ⟨rfl, rfl, rfl⟩

theorem keeps_vb2apiLoadKernelVblock : (vb2apiLoadKernelVblock align hash ex).Keeps KernelFrame :=
  (keeps_vb2LoadKernelKeyblock align hash ex).bind fun _ => keeps_vb2LoadKernelPreamble align hash ex

/-- The keyblock that an attempt reads is signed with the kernel key in the work buffer of ctx, it has
the flags of the mode, and its version k is in range and not older than the one in secdatak. -/
def KernelKeyblockPassed (ctx : Vb2Context) (k : UInt32) : Prop :=
  ∃ kernelKey kb size wb m₀ bytes m,
    vb2UnpackKey ctx.workbuf (ctx.workbufAddr + ctx.sd.workbufKernelKeyOffset.toUInt64)
      ctx.sd.workbufKernelKeySize = .ok kernelKey ∧
    ex.readResource { ctx with
      workbuf := m₀
      sd := { ctx.sd with flags := ctx.sd.flags &&& ~~~vb2SdFlagKernelSigned } } .kernelVblock 0 size =
        .ok bytes ∧
    vb2VerifyKeyblock align hash kb size kernelKey wb (m₀.store kb.toNat (bytes.load 0 size.toNat)) =
      (.ok (), m) ∧
    Vb2Keyblock.keyblockFlags m kb &&& devFlag ctx ≠ 0 ∧ Vb2Keyblock.keyblockFlags m kb &&& recFlag ctx ≠ 0 ∧
    k = Vb2PackedKey.keyVersion m (Vb2Keyblock.dataKey kb) ∧
    k ≤ 0xffff ∧ ctx.sd.kernelVersionSecdatak >>> 16 ≤ k

/-- The preamble that it reads then, with version f, is signed with the data key that was saved. -/
def KernelPreamblePassed (ctx : Vb2Context) (f : UInt32) : Prop :=
  ∃ dataKey pre size wb m₀ bytes m,
    vb2UnpackKey ctx.workbuf (ctx.workbufAddr + ctx.sd.workbufDataKeyOffset.toUInt64)
      ctx.sd.workbufDataKeySize = .ok dataKey ∧
    ex.readResource { ctx with workbuf := m₀ } .kernelVblock ctx.sd.vblockPreambleOffset size = .ok bytes ∧
    vb2VerifyKernelPreamble align hash pre size dataKey wb (m₀.store pre.toNat (bytes.load 0 size.toNat)) =
      (.ok (), m) ∧
    f = Vb2KernelPreamble.kernelVersion m pre ∧ f ≤ 0xffff

variable {align hash ex}

variable {s s' ctx : Vb2Context} {need valid : Bool} {u : Unit}

theorem readKernelKeyblock_ok {wb : Vb2Workbuf} {r : UInt64 × UInt32 × Vb2Workbuf}
    (h : readKernelKeyblock align ex wb s = (.ok r, s')) :
    ∃ m₀ bytes, ex.readResource { s with workbuf := m₀ } .kernelVblock 0 r.2.1 = .ok bytes ∧
      s' = { s with workbuf := m₀.store r.1.toNat (bytes.load 0 r.2.1.toNat) } := by
  obtain ⟨_, _, _, _, _, bytes, _, -, -, -, -, hbytes, hrest⟩ :=
    (readBlock_ok (k := fun kb size wb => pure (kb, size, wb))).mp h
  obtain ⟨rfl, rfl⟩ := pure_ok.mp hrest
  exact ⟨_, bytes, hbytes, rfl⟩

/-- The signature decides or, where that is enough, the hash. Only the work buffer changes. -/
theorem verifyKernelKeyblock_eq {kb : UInt64} {size : UInt32} {key : Vb2PublicKey} {wb : Vb2Workbuf}
    {r : Except UInt32 Unit} {m : Mem} : vb2VerifyKeyblock align hash kb size key wb s.workbuf = (r, m) →
    verifyKernelKeyblock align hash need kb size key wb s =
      (match r with
        | .ok _ => .ok true
        | .error rv => if need then .error rv
          else (vb2VerifyKeyblockHash align hash kb size wb m).1.map fun _ => false,
        { s with workbuf := m }) := by
  intro hv
  rw [verifyKernelKeyblock, attempt_bind, onWorkbuf, zoom, hv]
  cases r with
  | ok u => rfl
  | error rv =>
    dsimp only
    split_ifs
    · rfl
    · cases hh : (vb2VerifyKeyblockHash align hash kb size wb m).1 with
      | error e => exact bind_of_error (Prod.ext hh rfl)
      | ok _ => exact bind_of_ok (Prod.ext hh rfl)

theorem verifyKernelKeyblock_ok {kb : UInt64} {size : UInt32} {key : Vb2PublicKey} {wb : Vb2Workbuf}
    (h : verifyKernelKeyblock align hash need kb size key wb s = (.ok valid, s')) :
    ∃ m, s' = { s with workbuf := m } ∧
      (valid = true → vb2VerifyKeyblock align hash kb size key wb s.workbuf = (.ok (), m)) := by
  cases hv : vb2VerifyKeyblock align hash kb size key wb s.workbuf with
  | mk r m =>
    rw [verifyKernelKeyblock_eq hv] at h
    obtain ⟨hr, hs⟩ := Prod.ext_iff.mp h
    refine ⟨m, hs.symm, fun hvalid => ?_⟩
    cases r with
    | ok u => rfl
    | error rv =>
      dsimp only at hr
      split_ifs at hr
      cases hh : (vb2VerifyKeyblockHash align hash kb size wb m).1 <;> simp [hh, Except.map, hvalid] at hr

theorem invalidIf_ok {valid' : Bool} {failed : Prop} [Decidable failed] {e : UInt32}
    (h : invalidIf need valid failed e = .ok valid') (hv : valid' = true) : ¬ failed ∧ valid = true := by
  unfold invalidIf at h
  split_ifs at h with hf
  · cases h
    cases hv
  · cases h
    exact ⟨hf, hv⟩

theorem checkKernelKeyblock_ok {kb : UInt64} (h : checkKernelKeyblock need kb valid ctx = .ok true) :
    valid = true ∧ Vb2Keyblock.keyblockFlags ctx.workbuf kb &&& devFlag ctx ≠ 0 ∧
      Vb2Keyblock.keyblockFlags ctx.workbuf kb &&& recFlag ctx ≠ 0 ∧
      (ctx.flags &&& vb2ContextRecoveryMode = 0 →
        Vb2PackedKey.keyVersion ctx.workbuf (Vb2Keyblock.dataKey kb) ≤ 0xffff ∧
        ctx.sd.kernelVersionSecdatak >>> 16 ≤
          Vb2PackedKey.keyVersion ctx.workbuf (Vb2Keyblock.dataKey kb)) := by
  obtain ⟨v₁, h₁, hrest⟩ := bind_eq_ok.mp h
  obtain ⟨v₂, h₂, hrest⟩ := bind_eq_ok.mp hrest
  obtain ⟨v₃, h₃, h₄⟩ := bind_eq_ok.mp hrest
  obtain ⟨hroll, hv₃⟩ := invalidIf_ok h₄ rfl
  obtain ⟨hrange, hv₂⟩ := invalidIf_ok h₃ hv₃
  obtain ⟨hrec, hv₁⟩ := invalidIf_ok h₂ hv₂
  obtain ⟨hdev, hv⟩ := invalidIf_ok h₁ hv₁
  refine ⟨hv, hdev, hrec, fun hmode => ⟨?_, ?_⟩⟩
  · exact UInt32.not_lt.mp fun hlt => hrange ⟨not_not.mpr hmode, hlt⟩
  · exact UInt32.not_lt.mp fun hlt => hroll ⟨not_not.mpr hmode, hlt⟩

theorem vb2LoadKernelKeyblock_ok (h : vb2LoadKernelKeyblock align hash ex s = (.ok u, s'))
    (hsigned : s'.sd.flags &&& vb2SdFlagKernelSigned ≠ 0) (hmode : s.flags &&& vb2ContextRecoveryMode = 0) :
    ∃ k, KernelKeyblockPassed align hash ex s k ∧ s'.sd.kernelVersion = k <<< 16 := by
  rw [vb2LoadKernelKeyblock, observe_bind, observe_bind, update_bind] at h
  obtain ⟨kernelKey, s₁, hkey, h₁⟩ := bind_ok.mp h
  obtain ⟨hunpack, rfl⟩ := inspect_ok.mp hkey
  obtain ⟨⟨kb, size, wb⟩, s₂, hread, h₂⟩ := bind_ok.mp h₁
  obtain ⟨m₀, bytes, hbytes, rfl⟩ := readKernelKeyblock_ok hread
  obtain ⟨valid, s₃, hverify, h₃⟩ := bind_ok.mp h₂
  obtain ⟨m, rfl, hvalid⟩ := verifyKernelKeyblock_ok hverify
  obtain ⟨valid', s₄, hcheck, h₄⟩ := bind_ok.mp h₃
  obtain ⟨hchecked, rfl⟩ := inspect_ok.mp hcheck
  rw [update_bind, update_ok] at h₄
  have hflags : s'.sd.flags = if valid' then s.sd.flags &&& ~~~vb2SdFlagKernelSigned ||| vb2SdFlagKernelSigned
      else s.sd.flags &&& ~~~vb2SdFlagKernelSigned := by
    rw [h₄]
    rfl
  cases valid' with
  | false =>
    rw [hflags, if_neg (by decide), Flags.clear_and_self] at hsigned
    exact absurd rfl hsigned
  | true =>
    obtain ⟨hv, hdev, hrec, hversion⟩ := checkKernelKeyblock_ok hchecked
    refine ⟨_, ⟨kernelKey, kb, size, wb, m₀, bytes, m, hunpack, hbytes, hvalid hv, hdev, hrec, rfl,
      hversion hmode⟩, ?_⟩
    rw [h₄]
    rfl

theorem loadKernelPreamble_ok {dataKey : Vb2PublicKey} {r : UInt64 × UInt32}
    (h : loadKernelPreamble align hash ex dataKey s = (.ok r, s')) :
    ∃ wb m₀ bytes m,
      ex.readResource { s with workbuf := m₀ } .kernelVblock s.sd.vblockPreambleOffset r.2 = .ok bytes ∧
      vb2VerifyKernelPreamble align hash r.1 r.2 dataKey wb (m₀.store r.1.toNat (bytes.load 0 r.2.toNat)) =
        (.ok (), m) ∧ s' = { s with workbuf := m } := by
  rw [loadKernelPreamble, observe_bind, observe_bind] at h
  obtain ⟨_, _, _, wb, _, bytes, _, -, -, -, -, hbytes, hrest⟩ := (readBlock_ok (k := fun pre size wb => do
    onWorkbuf (vb2VerifyKernelPreamble align hash pre size dataKey wb)
    pure (pre, size))).mp h
  obtain ⟨_, s₅, hverify, h₅⟩ := bind_ok.mp hrest
  obtain ⟨m, hm, rfl⟩ := onWorkbuf_ok.mp hverify
  obtain ⟨rfl, rfl⟩ := pure_ok.mp h₅
  exact ⟨wb, _, bytes, m, hbytes, hm, rfl⟩

theorem vb2LoadKernelPreamble_ok (h : vb2LoadKernelPreamble align hash ex s = (.ok u, s')) :
    ∃ f, KernelPreamblePassed align hash ex s f ∧ s'.sd.flags = s.sd.flags ∧
      s'.sd.kernelVersion = s.sd.kernelVersion ||| f := by
  obtain ⟨dataKey, s₁, hkey, h₁⟩ := bind_ok.mp h
  obtain ⟨hunpack, rfl⟩ := inspect_ok.mp hkey
  obtain ⟨⟨pre, size⟩, s₂, hpre, h₂⟩ := bind_ok.mp h₁
  obtain ⟨wb, m₀, bytes, m, hbytes, hm, rfl⟩ := loadKernelPreamble_ok hpre
  dsimp only at h₂ hbytes hm
  rw [observe_bind] at h₂
  obtain ⟨_, s₃, hrange, h₃⟩ := bind_ok.mp h₂
  obtain ⟨hversion, rfl⟩ := inspect_ok.mp hrange
  rw [update_bind] at h₃
  obtain ⟨_, s₄, hroll, h₄⟩ := bind_ok.mp h₃
  obtain ⟨-, rfl⟩ := inspect_ok.mp hroll
  rw [update_ok] at h₄
  refine ⟨_, ⟨dataKey, pre, size, wb, m₀, bytes, m, (reject_bind_eq_ok.mp hunpack).2, hbytes, hm, rfl,
    UInt32.not_lt.mp (reject_eq_ok.mp hversion)⟩, ?_, ?_⟩
  · rw [h₄]
    rfl
  · rw [h₄]
    rfl

/-- A kernel whose vblock is loaded in two steps, with the combined version of both. -/
structure KernelLoaded (align : UInt32) (hash : Vb2HashAlgorithm → List UInt8 → List UInt8) (ex : Vb2Ex)
    (ctx ctx' : Vb2Context) (k f : UInt32) : Prop where
  passed : KernelKeyblockPassed align hash ex ctx k ∧ ∃ ctx₁,
    vb2LoadKernelKeyblock align hash ex ctx = (.ok (), ctx₁) ∧ KernelPreamblePassed align hash ex ctx₁ f
  version : ctx'.sd.kernelVersion = k <<< 16 ||| f

theorem vb2apiLoadKernelVblock_ok (h : vb2apiLoadKernelVblock align hash ex s = (.ok u, s'))
    (hsigned : s'.sd.flags &&& vb2SdFlagKernelSigned ≠ 0) (hmode : s.flags &&& vb2ContextRecoveryMode = 0) :
    ∃ k f, KernelLoaded align hash ex s s' k f := by
  obtain ⟨_, s₁, hkb, hpre⟩ := bind_ok.mp h
  obtain ⟨f, hpassed, hflags, hversion⟩ := vb2LoadKernelPreamble_ok hpre
  rw [hflags] at hsigned
  obtain ⟨k, hkeyblock, hk⟩ := vb2LoadKernelKeyblock_ok hkb hsigned hmode
  rw [hk] at hversion
  exact ⟨k, f, ⟨hkeyblock, s₁, hkb, hpassed⟩, hversion⟩

variable {ctx' : Vb2Context}

theorem vb2SecdatakSet_ok {value : UInt32} (h : vb2SecdatakSet ctx value = .ok ctx') :
    ctx'.secdatak.kernelVersions = value := by
  rw [vb2SecdatakSet, reject_bind_eq_ok] at h
  have hset := h.2
  split_ifs at hset with hg
  · rw [vb2SecdatakGet, reject_bind_eq_ok] at hg
    rw [← Except.ok.inj hset]
    exact Except.ok.inj hg.2
  · rw [← Except.ok.inj hset]
    simp

theorem vb2apiKernelPhase3_run (ctx : Vb2Context) :
    (vb2apiKernelPhase3 ctx).2.secdatak = ctx.secdatak ∨
      canRollKernel ctx ∧ (vb2apiKernelPhase3 ctx).2.secdatak.kernelVersions = ctx.sd.kernelVersion := by
  rw [vb2apiKernelPhase3, observe_bind]
  by_cases hroll : canRollKernel ctx
  · rw [id, decide_eq_true hroll, doIf, if_pos rfl]
    cases hset : vb2SecdatakSet ctx ctx.sd.kernelVersion with
    | error e =>
      have hrun : (transform (vb2SecdatakSet · ctx.sd.kernelVersion) : Vb2M Unit) ctx = (.error e, ctx) := by
        rw [transform, hset]
      rw [bind_of_error hrun]
      exact .inl rfl
    | ok c =>
      have hrun : (transform (vb2SecdatakSet · ctx.sd.kernelVersion) : Vb2M Unit) ctx = (.ok (), c) :=
        transform_ok.mpr hset
      rw [bind_of_ok hrun]
      have hversion := vb2SecdatakSet_ok hset
      exact .inr ⟨hroll, hversion⟩
  · rw [id, decide_eq_false hroll]
    exact .inl rfl

theorem vb2SecdatakInit_ok (h : vb2SecdatakInit ctx = .ok ctx') :
    ctx' = ctx.addStatus vb2SdStatusSecdatakInit := by
  rw [vb2SecdatakInit] at h
  obtain ⟨_, -, h'⟩ := bind_eq_ok.mp h
  exact (Except.ok.inj (reject_bind_eq_ok.mp h').2).symm

def SameSecdatak (a b : Vb2Context) : Prop := b.flags = a.flags ∧ b.secdatak = a.secdatak

instance : Std.Refl SameSecdatak := ⟨fun _ => ⟨rfl, rfl⟩⟩

instance : IsTrans Vb2Context SameSecdatak :=
  ⟨fun _ _ _ h h' => ⟨h'.1.trans h.1, h'.2.trans h.2⟩⟩

theorem keeps_getKernelVersion : getKernelVersion.Keeps SameSecdatak := by
  refine (keeps_transform fun s s' h => ?_).bind fun _ => (keeps_inspect _).bind fun _ =>
    keeps_update fun s => ⟨rfl, rfl⟩
  rw [vb2SecdatakInit_ok h]
  exact ⟨rfl, rfl⟩

theorem getKernelVersion_ok (h : getKernelVersion s = (.ok u, s')) :
    s'.sd.kernelVersionSecdatak = s.secdatak.kernelVersions := by
  obtain ⟨_, s₁, hinit, h₁⟩ := bind_ok.mp h
  have hs₁ := vb2SecdatakInit_ok (transform_ok.mp hinit)
  obtain ⟨version, s₂, hget, h₂⟩ := bind_ok.mp h₁
  obtain ⟨hversion, rfl⟩ := inspect_ok.mp hget
  rw [vb2SecdatakGet, reject_bind_eq_ok] at hversion
  rw [update_ok.mp h₂, hs₁]
  rw [hs₁] at hversion
  exact (Except.ok.inj hversion.2).symm

theorem readKernelVersion_ok (h : readKernelVersion s = (.ok u, s')) :
    SameSecdatak s s' ∧ (s.flags &&& vb2ContextRecoveryMode = 0 →
      s'.sd.kernelVersionSecdatak = s.secdatak.kernelVersions) := by
  rw [readKernelVersion, attempt_bind, observe_bind] at h
  cases hg : getKernelVersion s with
  | mk r c =>
    have hsame := keeps_getKernelVersion.of_run hg
    rw [hg] at h
    cases r with
    | ok v =>
      obtain ⟨-, rfl⟩ := pure_ok.mp h
      exact ⟨hsame, fun _ => getKernelVersion_ok hg⟩
    | error e =>
      dsimp only at h
      split_ifs at h with hmode
      · rw [update_ok.mp h]
        rw [decide_eq_true_eq, hsame.1] at hmode
        exact ⟨hsame, fun hnot => absurd hnot hmode⟩
      · rw [update_bind] at h
        exact absurd h throw_ok

theorem keeps_readKernelVersion (sec : Secdatak) :
    readKernelVersion.Keeps (Stable fun ctx => ctx.secdatak = sec) := by
  have hget : getKernelVersion.Keeps (Stable fun ctx => ctx.secdatak = sec) :=
    keeps_getKernelVersion.mono fun s s' h hs => h.2.trans hs
  refine (Keeps.attempt hget).bind fun rv => (keeps_observe _).bind fun recovery => ?_
  cases rv with
  | ok u => exact keeps_pure u
  | error e =>
    refine Keeps.ite (keeps_update fun _ hs => hs) ((keeps_update fun s hs => ?_).bind fun _ => keeps_throw _)
    exact (vb2Fail_secure _ _ s).2.trans hs

theorem keeps_loadRecoveryKey (align : UInt32) (ex : Vb2Ex) (wb : Vb2Workbuf) :
    (loadRecoveryKey align ex wb).Keeps KernelFrame := by
  have hread := keeps_read ex KernelFrame.workbuf .gbb
  refine Keeps.bind (keeps_inspect _) fun p => Keeps.bind ?_ fun _ => ?_
  · exact (hread _ _ _).bind fun _ => keeps_inspect _
  refine (keeps_observe _).bind fun offset => (keeps_observe _).bind fun size => ?_
  exact Keeps.bind (keeps_inspect _) fun p => (hread _ _ _).bind fun _ => keeps_pure _

theorem keeps_loadKernelSubkey : loadKernelSubkey.Keeps KernelFrame := by
  refine (keeps_inspect _).bind fun _ => (keeps_observe _).bind fun dst => (keeps_observe _).bind fun key => ?_
  exact (keeps_update fun ctx => KernelFrame.workbuf ctx _).bind fun _ =>
    (keeps_observe _).bind fun size => keeps_pure _

theorem keeps_kernelKey (align : UInt32) (ex : Vb2Ex) (wb : Vb2Workbuf) (recovery : Bool) :
    Keeps KernelFrame (do
      let (keyData, keySize) ← if recovery then loadRecoveryKey align ex wb else loadKernelSubkey
      update (saveKernelKey keyData keySize) : Vb2M Unit) := by
  have hsave (p : UInt64 × UInt32) : Keeps KernelFrame (update (saveKernelKey p.1 p.2) : Vb2M Unit) :=
    keeps_update fun ctx => ⟨rfl, rfl, rfl⟩
  cases recovery with
  | true => exact (keeps_loadRecoveryKey align ex wb).bind hsave
  | false => exact keeps_loadKernelSubkey.bind hsave

theorem vb2apiKernelPhase1_secdatak (align : UInt32) (ex : Vb2Ex) (s : Vb2Context) :
    (vb2apiKernelPhase1 align ex s).2.secdatak = s.secdatak := by
  have hkeeps : (vb2apiKernelPhase1 align ex).Keeps (Stable fun ctx => ctx.secdatak = s.secdatak) :=
    (keeps_observe _).bind fun wb => (keeps_readKernelVersion s.secdatak).bind fun _ =>
      (keeps_observe _).bind fun recovery => (keeps_kernelKey align ex wb recovery).mono
        fun a b h hs => h.secdatak.trans hs
  exact hkeeps s rfl

theorem vb2apiKernelPhase1_ok (h : vb2apiKernelPhase1 align ex s = (.ok u, s')) :
    s'.flags = s.flags ∧ s'.secdatak = s.secdatak ∧ (s.flags &&& vb2ContextRecoveryMode = 0 →
      s'.sd.kernelVersionSecdatak = s.secdatak.kernelVersions) := by
  rw [vb2apiKernelPhase1, observe_bind] at h
  obtain ⟨_, s₁, hread, h₁⟩ := bind_ok.mp h
  obtain ⟨hsame, hversion⟩ := readKernelVersion_ok hread
  rw [observe_bind] at h₁
  have hframe : KernelFrame s₁ s' := (keeps_kernelKey align ex _ _).of_run h₁
  exact ⟨hframe.flags.trans hsame.1, hframe.secdatak.trans hsame.2,
    fun hmode => hframe.stored.trans (hversion hmode)⟩

end

/-- What one boot does: a context of any contents, the functions of the caller in phase 1, those in
each attempt to load a kernel, and whether the caller then goes on to phase 3 and allows to move the
version on. -/
structure KernelBoot where
  ctx : Vb2Context
  ex : Vb2Ex
  attempts : List Vb2Ex
  finish : Bool
  allow : Bool

section
variable (align : UInt32) (hash : Vb2HashAlgorithm → List UInt8 → List UInt8)

/-- One attempt, with its success. -/
def loadStep (s : Bool × Vb2Context) (ex : Vb2Ex) : Bool × Vb2Context :=
  let r := vb2apiLoadKernelVblock align hash ex s.2
  (r.1.isOk, r.2)

def allowRollForward (allow : Bool) (ctx : Vb2Context) : Vb2Context :=
  if allow then { ctx with flags := ctx.flags ||| vb2ContextAllowKernelRollForward } else ctx

namespace KernelBoot

def context (b : KernelBoot) (sec : Secdatak) : Vb2Context := { b.ctx with secdatak := sec }

/-- The context after phase 1, if that succeeds. -/
def started (b : KernelBoot) (sec : Secdatak) : Except UInt32 Unit × Vb2Context :=
  vb2apiKernelPhase1 align b.ex (b.context sec)

end KernelBoot

def kernelStep (sec : Secdatak) (b : KernelBoot) : Secdatak :=
  match b.started align sec with
  | (.error _, ctx) => ctx.secdatak
  | (.ok _, ctx) =>
    let (loaded, ctx) := run (loadStep align hash) (false, ctx) b.attempts
    if loaded && b.finish then (vb2apiKernelPhase3 (allowRollForward b.allow ctx)).2.secdatak
    else ctx.secdatak

variable (s : Bool × Vb2Context)

theorem loadStep_frame (ex : Vb2Ex) : KernelFrame s.2 (loadStep align hash s ex).2 :=
  keeps_vb2apiLoadKernelVblock align hash ex s.2

theorem run_loadStep_frame (us : List Vb2Ex) :
    KernelFrame s.2 (run (loadStep align hash) s us).2 := by
  have hstep (t : Bool × Vb2Context) (ex : Vb2Ex) (h : KernelFrame s.2 t.2) :
      KernelFrame s.2 (loadStep align hash t ex).2 := h.trans (loadStep_frame align hash t ex)
  exact run_invariant hstep us s (.refl s.2)

/-- Boot b raises the version of secdatak: outside recovery mode, with the leave of the caller, after
an attempt to load a kernel that succeeds as the last one, to the version of that kernel. -/
structure KernelRaised (sec : Secdatak) (b : KernelBoot) : Prop where
  above : sec.kernelVersions < (kernelStep align hash sec b).kernelVersions
  mode : b.ctx.flags &&& vb2ContextRecoveryMode = 0
  allowed : b.allow = true ∨ b.ctx.flags &&& vb2ContextAllowKernelRollForward ≠ 0
  finished : b.finish = true
  loaded : ∃ start us ex k f, b.started align sec = (.ok (), start) ∧ b.attempts = us ++ [ex] ∧
    let ctx := (run (loadStep align hash) (false, start) us).2
    (vb2apiLoadKernelVblock align hash ex ctx).1 = .ok () ∧
    ctx.sd.kernelVersionSecdatak = sec.kernelVersions ∧
    KernelLoaded align hash ex ctx (vb2apiLoadKernelVblock align hash ex ctx).2 k f ∧
    (kernelStep align hash sec b).kernelVersions = k <<< 16 ||| f
variable (allow : Bool) (ctx : Vb2Context)

theorem allowRollForward_sd : (allowRollForward allow ctx).sd = ctx.sd := by
  cases allow <;> rfl

theorem allowRollForward_secdatak : (allowRollForward allow ctx).secdatak = ctx.secdatak := by
  cases allow <;> rfl

theorem allowRollForward_recovery :
    (allowRollForward allow ctx).flags &&& vb2ContextRecoveryMode = ctx.flags &&& vb2ContextRecoveryMode := by
  cases allow with
  | false => rfl
  | true => exact Flags.or_and_of_disjoint (by decide)

theorem run_loadStep_ok {ctx : Vb2Context} {us : List Vb2Ex}
    (h : (run (loadStep align hash) (false, ctx) us).1 = true) :
    ∃ vs ex, us = vs ++ [ex] ∧ run (loadStep align hash) (false, ctx) us =
      (true, (vb2apiLoadKernelVblock align hash ex (run (loadStep align hash) (false, ctx) vs).2).2) ∧
      (vb2apiLoadKernelVblock align hash ex (run (loadStep align hash) (false, ctx) vs).2).1 = .ok () := by
  cases us using List.reverseRecOn with
  | nil => cases h
  | append_singleton vs ex =>
    refine ⟨vs, ex, rfl, ?_⟩
    rw [run_append] at h ⊢
    change (vb2apiLoadKernelVblock align hash ex _).1.isOk = true at h
    refine ⟨Prod.ext h rfl, ?_⟩
    cases hr : (vb2apiLoadKernelVblock align hash ex (run (loadStep align hash) (false, ctx) vs).2).1 with
    | ok u => rfl
    | error e =>
      rw [hr] at h
      cases h

theorem kernelStep_version (sec : Secdatak) (b : KernelBoot) :
    (kernelStep align hash sec b).kernelVersions = sec.kernelVersions ∨ KernelRaised align hash sec b := by
  have hphase1 : (b.started align sec).2.secdatak = sec := vb2apiKernelPhase1_secdatak align b.ex _
  cases hstart : b.started align sec with
  | mk r start =>
  rw [hstart] at hphase1
  cases r with
  | error e =>
    left
    rw [kernelStep, hstart]
    exact congrArg _ hphase1
  | ok u =>
  cases hrun : run (loadStep align hash) (false, start) b.attempts with
  | mk loaded ctx =>
  have hframe : KernelFrame start ctx := by
    have hf := run_loadStep_frame align hash (false, start) b.attempts
    rwa [hrun] at hf
  have hsec : ctx.secdatak = sec := hframe.secdatak.trans hphase1
  have hstep : kernelStep align hash sec b = if loaded && b.finish then
      (vb2apiKernelPhase3 (allowRollForward b.allow ctx)).2.secdatak else ctx.secdatak := by
    rw [kernelStep, hstart]
    dsimp only
    rw [hrun]
  cases hgo : loaded && b.finish with
  | false =>
    left
    rw [hstep, hgo, hsec]
    rfl
  | true =>
  rw [hgo, if_pos rfl] at hstep
  rcases vb2apiKernelPhase3_run (allowRollForward b.allow ctx) with hsame | ⟨hroll, hversion⟩
  · left
    rw [hstep, hsame, allowRollForward_secdatak, hsec]
  · right
    obtain ⟨habove, hsigned, hmode, hallowed⟩ := hroll
    rw [allowRollForward_sd] at habove hsigned hversion
    rw [allowRollForward_recovery] at hmode
    obtain ⟨hflags, -, hstored⟩ := vb2apiKernelPhase1_ok hstart
    obtain ⟨hloaded, hfinish⟩ := Bool.and_eq_true_iff.mp hgo
    obtain ⟨us, ex, hattempts, hlast, hok⟩ := run_loadStep_ok align hash (by rw [hrun]; exact hloaded)
    have hbefore := run_loadStep_frame align hash (false, start) us
    generalize hctx : run (loadStep align hash) (false, start) us = s at hlast hok hbefore
    have hload : vb2apiLoadKernelVblock align hash ex s.2 = (.ok (), ctx) := by
      rw [hrun] at hlast
      exact Prod.ext hok (Prod.ext_iff.mp hlast).2.symm
    rw [hframe.flags, hflags] at hmode
    obtain ⟨k, f, hkernel⟩ := vb2apiLoadKernelVblock_ok hload hsigned
      (by rw [hbefore.flags, hflags]; exact hmode)
    have hstored' := hstored hmode
    refine ⟨?_, hmode, ?_, hfinish, start, us, ex, k, f, hstart, hattempts, ?_, ?_, ?_, ?_⟩
    · rw [hstep, hversion]
      rw [hframe.stored, hstored'] at habove
      exact habove
    · cases ha : b.allow with
      | true => exact .inl rfl
      | false =>
        rw [ha, allowRollForward, if_neg (by decide), hframe.flags, hflags] at hallowed
        exact .inr hallowed
    · rw [hctx, hload]
    · rw [hctx, hbefore.stored]
      exact hstored'
    · rw [hctx, hload]
      exact hkernel
    · rw [hstep, hversion]
      exact hkernel.version

/-- The kernel version in secdatak over a run of boots. It never falls, and a boot raises it only to
the version of the kernel that it loaded last. -/
theorem kernel_version_over_boots (sec : Secdatak) (u : List KernelBoot) :
    (∀ v, (run (kernelStep align hash) sec u).kernelVersions ≤
      (run (kernelStep align hash) sec (u ++ v)).kernelVersions) ∧
    ∀ b, let t := run (kernelStep align hash) sec u
      (kernelStep align hash t b).kernelVersions ≠ t.kernelVersions → KernelRaised align hash t b := by
  have hstep (s t : Secdatak) (b : KernelBoot) (h : s.kernelVersions ≤ t.kernelVersions) :
      s.kernelVersions ≤ (kernelStep align hash t b).kernelVersions := by
    cases kernelStep_version align hash t b with
    | inl he => rw [he]; exact h
    | inr hr => exact UInt32.le_trans h (UInt32.le_of_lt hr.above)
  refine ⟨fun v => ?_, fun b hne => (kernelStep_version align hash _ b).resolve_left hne⟩
  rw [run_append]
  exact run_invariant (hstep _) v _ (UInt32.le_refl _)

end
end Vboot.Vb2
