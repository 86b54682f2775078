import Vboot.Common.NvFields
import Vboot.Kernel.Boots
import Vboot.Lib.Trace
import Vboot.Vb2.Digest

/-! What software sync has asked of the embedded controller when it returns: the calls are
recorded with their answers, and a success means that the controller runs a protected image
with the expected hash. -/
namespace Vboot
open Vboot.Lib Vboot.Lib.Program Vboot.Gpt

/-- A call to the controller and its answer. -/
inductive EcEvent where
  | runningRw (rv : UInt32) (inRw : Int)
  | hashImage (image : EcImage) (rv : UInt32) (hash : List UInt8) (hashSize : Int)
  | expectedHash (image : EcImage) (rv : UInt32) (hash : List UInt8) (hashSize : Int)
  | expectedImage (image : EcImage) (rv : UInt32)
  | updateImage (image : EcImage) (rv : UInt32)
  | jumpToRw (rv : UInt32)
  | protect (image : EcImage) (rv : UInt32)
  | disableJump (rv : UInt32)
  deriving DecidableEq, Repr

/-- The outside and the calls so far. -/
structure Watched (W : Type) where
  world : W
  events : List EcEvent

section
variable {W H S α : Type}

/-- A call that is not recorded. -/
def unwatched (f : W → α × W) (s : Watched W) : α × Watched W :=
  ((f s.world).1, { s with world := (f s.world).2 })

def watched (event : α → EcEvent) (f : W → α × W) (s : Watched W) : α × Watched W :=
  ((f s.world).1, ⟨(f s.world).2, s.events ++ [event (f s.world).1]⟩)

def unwatchedDisk (disk : Disk W S) : Disk (Watched W) S where
  read start count s := ((disk.read start count s.world).1, (disk.read start count s.world).2.1,
    { s with world := (disk.read start count s.world).2.2 })
  write start count data s := unwatched (disk.write start count data) s
  streamOpen start count s := ((disk.streamOpen start count s.world).1,
    (disk.streamOpen start count s.world).2.1,
    { s with world := (disk.streamOpen start count s.world).2.2 })
  streamRead stream n s := ((disk.streamRead stream n s.world).1, (disk.streamRead stream n s.world).2.1,
    { s with world := (disk.streamRead stream n s.world).2.2 })
  streamClose stream s := { s with world := disk.streamClose stream s.world }

/-- The platform with its calls to the controller recorded. -/
def watching (platform : Platform W H S) : Platform (Watched W) H S where
  diskGetInfo flags := unwatched (platform.diskGetInfo flags)
  diskFreeInfo handle := unwatched (platform.diskFreeInfo handle)
  disk handle := unwatchedDisk (platform.disk handle)
  overrideGptEntryPriority := platform.overrideGptEntryPriority
  isShutdownRequested := unwatched platform.isShutdownRequested
  keyboardRead := unwatched platform.keyboardRead
  keyboardReadWithFlags := unwatched platform.keyboardReadWithFlags
  getSwitches mask := unwatched (platform.getSwitches mask)
  beep ms frequency := unwatched (platform.beep ms frequency)
  sleepMs ms := unwatched (platform.sleepMs ms)
  displayScreen screen locale := unwatched (platform.displayScreen screen locale)
  redrawScreen locale := unwatched (platform.redrawScreen locale)
  displayDebugInfo := unwatched platform.displayDebugInfo
  localizationCount := unwatched platform.localizationCount
  audioOpen := unwatched platform.audioOpen
  audioLooping := unwatched platform.audioLooping
  audioClose := unwatched platform.audioClose
  legacy := unwatched platform.legacy
  trustEC := unwatched platform.trustEC
  ecRunningRW devidx := watched (fun a => .runningRw a.1 a.2) (platform.ecRunningRW devidx)
  ecJumpToRW devidx := watched .jumpToRw (platform.ecJumpToRW devidx)
  ecDisableJump devidx := watched .disableJump (platform.ecDisableJump devidx)
  ecHashImage devidx image :=
    watched (fun a => .hashImage image a.1 (a.2.1.load 0 sha256DigestSize) a.2.2)
      (platform.ecHashImage devidx image)
  ecGetExpectedImage devidx image :=
    watched (fun a => .expectedImage image a.1) (platform.ecGetExpectedImage devidx image)
  ecGetExpectedImageHash devidx image :=
    watched (fun a => .expectedHash image a.1 (a.2.1.load 0 sha256DigestSize) a.2.2)
      (platform.ecGetExpectedImageHash devidx image)
  ecUpdateImage devidx image data := watched (.updateImage image) (platform.ecUpdateImage devidx image data)
  ecProtect devidx image := watched (.protect image) (platform.ecProtect devidx image)
  ecEnteringMode mode := unwatched (platform.ecEnteringMode mode)
  ecVbootDone recovery := unwatched (platform.ecVbootDone recovery)

def unwatch (u : Ui (Watched W)) : Ui W := ⟨u.world.world, u.vnc, u.storage⟩

/-- The state with nothing recorded. -/
def watch (u : Ui W) : Ui (Watched W) := ⟨⟨u.world, []⟩, u.vnc, u.storage⟩

/-! ### What they mean for an image -/

/-- The hash of the image that this call has read from the controller. -/
def EcEvent.hashOf (image : EcImage) : EcEvent → Option (List UInt8)
  | .hashImage i _ hash _ => if i = image then some hash else none
  | _ => none

/-- The hash of the image that this call has read from the platform. -/
def EcEvent.expectedOf (image : EcImage) : EcEvent → Option (List UInt8)
  | .expectedHash i _ hash _ => if i = image then some hash else none
  | _ => none

def ecHashes (image : EcImage) (es : List EcEvent) : List (List UInt8) := es.filterMap (·.hashOf image)

def ecExpected (image : EcImage) (es : List EcEvent) : List (List UInt8) := es.filterMap (·.expectedOf image)

section
variable (image : EcImage)

@[simp] theorem ecHashes_nil : ecHashes image [] = [] := rfl

@[simp] theorem ecExpected_nil : ecExpected image [] = [] := rfl

@[simp] theorem ecHashes_cons (e : EcEvent) (es : List EcEvent) :
    ecHashes image (e :: es) = (e.hashOf image).toList ++ ecHashes image es := by
  cases h : e.hashOf image <;> simp [ecHashes, h]

@[simp] theorem ecExpected_cons (e : EcEvent) (es : List EcEvent) :
    ecExpected image (e :: es) = (e.expectedOf image).toList ++ ecExpected image es := by
  cases h : e.expectedOf image <;> simp [ecExpected, h]

@[simp] theorem ecHashes_append (es es' : List EcEvent) :
    ecHashes image (es ++ es') = ecHashes image es ++ ecHashes image es' := List.filterMap_append

@[simp] theorem ecExpected_append (es es' : List EcEvent) :
    ecExpected image (es ++ es') = ecExpected image es ++ ecExpected image es' := List.filterMap_append

end

/-- The last hash of the image that was read is the one that was expected. -/
def HashVerified (image : EcImage) (es : List EcEvent) : Prop :=
  ∃ hash, (ecHashes image es).getLast? = some hash ∧ ecExpected image es = [hash]

structure HashSilent (image : EcImage) (es : List EcEvent) : Prop where
  hashes : ecHashes image es = []
  expected : ecExpected image es = []

theorem HashSilent.append {image : EcImage} {es es' : List EcEvent} (h : HashSilent image es)
    (h' : HashSilent image es') : HashSilent image (es ++ es') where
  hashes := by rw [ecHashes_append, h.hashes, h'.hashes, List.append_nil]
  expected := by rw [ecExpected_append, h.expected, h'.expected, List.append_nil]

variable {image i : EcImage}

theorem HashSilent.of_hashImage (hi : i ≠ image) (rv : UInt32) (hash : List UInt8)
    (hashSize : Int) : HashSilent i [.hashImage image rv hash hashSize] := by
  constructor <;> simp [EcEvent.hashOf, EcEvent.expectedOf, hi.symm]

theorem HashSilent.of_expectedHash (hi : i ≠ image) (rv : UInt32) (hash : List UInt8)
    (hashSize : Int) : HashSilent i [.expectedHash image rv hash hashSize] := by
  constructor <;> simp [EcEvent.hashOf, EcEvent.expectedOf, hi.symm]

theorem HashVerified.append {es es' : List EcEvent} (h : HashVerified image es)
    (h' : HashSilent image es') : HashVerified image (es ++ es') := by
  obtain ⟨hash, hlast, hexpected⟩ := h
  refine ⟨hash, ?_, ?_⟩
  · rw [ecHashes_append, h'.hashes, List.append_nil, hlast]
  · rw [ecExpected_append, h'.expected, List.append_nil, hexpected]

def ecUpdateCodes : List UInt32 := [vbErrorSuccess, vbErrorEcRebootToRoRequired, vbErrorVgaOpromMismatch]

/-- A result other than those of an update leaves a recovery request. -/
def Alarmed (rv : UInt32) (u : Ui W) : Prop :=
  rv ∈ ecUpdateCodes ∨ vbNvGet u.vnc .recoveryRequest ≠ 0

def events (u : Ui (Watched W)) : List EcEvent := u.world.events

section
variable (platform : Platform W H S) (sha256 : List UInt8 → List UInt8) (devidx : Nat) (shared : VbSharedData)
  (u : Ui (Watched W))

theorem watched_traces (event : α → EcEvent) (f : W → α × W) :
    Traces events unwatch (call (watched event f)) (call f) u fun a es _ =>
      es = [event a] ∧ ∃ w, a = (f w).1 :=
  ⟨_, _, rfl, rfl, rfl, rfl, u.world.world, rfl⟩

theorem unwatched_traces (f : W → α × W) :
    Traces events unwatch (call (unwatched f)) (call f) u fun _ es _ => es = [] :=
  ⟨_, [], rfl, rfl, (List.append_nil _).symm, rfl⟩

theorem nvGet_traces (param : VbNvParam) :
    Traces events unwatch (nvGet param) (nvGet param) u fun _ es _ => es = [] :=
  ⟨_, [], rfl, rfl, (List.append_nil _).symm, rfl⟩

theorem nvSet_traces (param : VbNvParam) (value : UInt32) :
    Traces events unwatch (nvSet param value) (nvSet param value) u fun _ es u' =>
      es = [] ∧ vbNvGet u'.vnc param = param.keeps value :=
  ⟨_, [], rfl, rfl, (List.append_nil _).symm, rfl, vbNvGet_set _ _ _⟩

theorem ecFail_traces (reason : UInt32) :
    Traces events unwatch (ecFail reason) (ecFail reason) u fun rv es _ =>
      es = [] ∧ rv = vbErrorEcRebootToRoRequired := by
  refine (nvSet_traces u _ _).bind fun _ es u' hes => traces_pure ?_
  rw [hes.1]
  exact ⟨rfl, rfl⟩

theorem ecFail_bind_traces {reason : UInt32} {f : UInt32 → UiM (Watched W) α} {g : UInt32 → UiM W α}
    {R : α → List EcEvent → Ui (Watched W) → Prop}
    (hf : ∀ u', Traces events unwatch (f vbErrorEcRebootToRoRequired) (g vbErrorEcRebootToRoRequired) u' R) :
    Traces events unwatch (ecFail reason >>= f) (ecFail reason >>= g) u R := by
  refine (ecFail_traces u reason).bind fun rv es u' hes => ?_
  obtain ⟨rfl, rfl⟩ := hes
  exact hf u'
variable (image : EcImage) (inRw : Int) (expected null : List UInt8)

theorem ecProtect_traces :
    Traces events unwatch (ecProtect (watching platform) devidx image)
      (ecProtect platform devidx image) u fun rv es u' =>
      es = [.protect image rv] ∧ Alarmed rv u' := by
  refine (watched_traces u _ _).bind fun rv es u₁ hes => ?_
  obtain ⟨rfl, -⟩ := hes
  refine Traces.bind (Q := fun _ es u' => es = [] ∧ Alarmed rv u') (Traces.doIf (fun _ => ?_) fun h => ⟨rfl, .inl ?_⟩)
    fun _ es u₂ hes => ?_
  · refine (nvSet_traces u₁ _ _).mono fun _ es u₂ hes => ⟨hes.1, .inr ?_⟩
    rw [hes.2]
    decide
  · simp only [Bool.and_eq_false_iff, bne_eq_false_iff_eq] at h
    rcases h with rfl | rfl <;> decide
  · obtain ⟨rfl, hcode⟩ := hes
    exact traces_pure ⟨rfl, hcode⟩

theorem ecDisableJump_traces :
    Traces events unwatch (ecDisableJump (watching platform) devidx)
      (ecDisableJump platform devidx) u fun rv es _ =>
      rv = vbErrorSuccess ∧ es = [.disableJump vbErrorSuccess] ∨ rv = vbErrorEcRebootToRoRequired := by
  refine (watched_traces u _ _).bind fun rv es u₁ hes => ?_
  obtain ⟨rfl, -⟩ := hes
  refine Traces.ite (fun _ => ?_) fun hrv => traces_pure ?_
  · exact (ecFail_traces u₁ _).mono fun _ _ _ h => .inr h.2
  · rw [not_not.mp hrv]
    exact .inl ⟨rfl, rfl⟩

theorem ecReadHash_traces :
    Traces events unwatch (ecReadHash (watching platform) devidx image)
      (ecReadHash platform devidx image) u fun r es _ =>
      ∃ rv hash hashSize, es = [.hashImage image rv hash hashSize] ∧
        (r = .inl vbErrorEcRebootToRoRequired ∧ ¬(rv = 0 ∧ hashSize = sha256DigestSize) ∨
          r = .inr hash ∧ rv = 0 ∧ hashSize = sha256DigestSize) := by
  refine (watched_traces u _ _).bind fun a es u₁ hes => ?_
  obtain ⟨rfl, -⟩ := hes
  refine Traces.ite (fun hrv => ?_) fun hrv => Traces.ite (fun hsize => ?_) fun hsize => ?_
  · exact ecFail_bind_traces u₁ fun _ => traces_pure ⟨_, _, _, rfl, .inl ⟨rfl, fun h => hrv h.1⟩⟩
  · exact ecFail_bind_traces u₁ fun _ => traces_pure ⟨_, _, _, rfl, .inl ⟨rfl, fun h => hsize h.2⟩⟩
  · exact traces_pure ⟨_, _, _, rfl, .inr ⟨rfl, not_not.mp hrv, not_not.mp hsize⟩⟩

def SuppliesHash : Prop :=
  ∀ w, (platform.ecGetExpectedImageHash devidx image w).1.1 ≠ vbErrorEcGetExpectedHashFromImage

theorem ecReadExpectedHash_traces :
    Traces events unwatch (ecReadExpectedHash (watching platform) devidx image)
      (ecReadExpectedHash platform devidx image) u fun r es _ =>
      ∃ rv hash hashSize, es = [.expectedHash image rv hash hashSize] ∧
        (rv ≠ vbErrorEcGetExpectedHashFromImage ∧ (r = .inl vbErrorEcRebootToRoRequired ∨ r = .inr (some hash)) ∨
          r = .inr none ∧ rv = vbErrorEcGetExpectedHashFromImage ∧ ¬SuppliesHash platform devidx image) := by
  refine (watched_traces u _ _).bind fun a es u₁ hes => ?_
  obtain ⟨rfl, w, ha⟩ := hes
  refine Traces.ite (fun hrv => ?_) fun hrv => Traces.ite (fun _ => ?_) fun _ => ?_
  · refine traces_pure ⟨_, _, _, rfl, .inr ⟨rfl, hrv, fun h => h w ?_⟩⟩
    rw [← ha, hrv]
  · exact ecFail_bind_traces u₁ fun _ => traces_pure ⟨_, _, _, rfl, .inl ⟨hrv, .inl rfl⟩⟩
  · exact traces_pure ⟨_, _, _, rfl, .inl ⟨hrv, .inr rfl⟩⟩

theorem ecReadExpectedImage_traces :
    Traces events unwatch (ecReadExpectedImage (watching platform) devidx image)
      (ecReadExpectedImage platform devidx image) u fun r es _ =>
      ∃ rv, es = [.expectedImage image rv] ∧ ∀ code, r = .inl code → code = vbErrorEcRebootToRoRequired := by
  refine (watched_traces u _ _).bind fun a es u₁ hes => ?_
  obtain ⟨rfl, -⟩ := hes
  refine Traces.ite (fun _ => ?_) fun _ => traces_pure ⟨_, rfl, fun _ h => by cases h⟩
  exact ecFail_bind_traces u₁ fun _ => traces_pure ⟨_, rfl, fun _ h => (Sum.inl.inj h).symm⟩

theorem vbDisplayScreen_traces (screen : Screen) :
    Traces events unwatch (vbDisplayScreen (watching platform) screen)
      (vbDisplayScreen platform screen) u fun _ es _ => es = [] := by
  refine (nvGet_traces u _).silent_bind fun locale u₁ => ?_
  refine (unwatched_traces u₁ _).silent_bind fun clipped u₂ => ?_
  refine Traces.doIf (fun _ => ?_) fun _ => rfl
  refine ((nvSet_traces u₂ _ _).mono fun _ _ _ h => h.1).silent_bind fun _ u₃ => ?_
  exact (nvSet_traces u₃ _ _).mono fun _ _ _ h => h.1

/-! ### Comparisons with the memory at address 0 -/

/-- The outcome is the same whatever the bytes at address 0 are. -/
def NullFree (x : List UInt8 → UiM W α) (u : Ui W) : Prop := ∀ null null', x null u = x null' u

/-- The calls of a program that is given the bytes at address 0 satisfy Q, and the bytes matter
exactly if the calls satisfy C. -/
def Compares (C : List EcEvent → Prop) (x : UiM (Watched W) α) (y : List UInt8 → UiM W α) (null : List UInt8)
    (u : Ui (Watched W)) (Q : α → List EcEvent → Prop) : Prop :=
  Traces events unwatch x (y null) u fun a es _ => Q a es ∧ (NullFree y (unwatch u) ↔ ¬C es)

section
variable {β : Type} {C : List EcEvent → Prop} {x x' : UiM (Watched W) α} {null : List UInt8} {u : Ui (Watched W)}
  {Q : α → List EcEvent → Prop}

theorem compares_of_free {y : List UInt8 → UiM W α} (hfree : NullFree y (unwatch u))
    (h : Traces events unwatch x (y null) u fun a es _ => Q a es ∧ ¬C es) : Compares C x y null u Q :=
  h.mono fun _ _ _ hq => ⟨hq.1, iff_of_true hfree hq.2⟩

theorem Compares.bind {y : UiM W α} {P : α → List EcEvent → Ui (Watched W) → Prop} {g : α → UiM (Watched W) β}
    {h : α → List UInt8 → UiM W β} {R : β → List EcEvent → Prop} (hx : Traces events unwatch x y u P)
    (hg : ∀ a es u', P a es u' →
      Compares (fun es' => C (es ++ es')) (g a) (h a) null u' fun b es' => R b (es ++ es')) :
    Compares C (x >>= g) (fun null => y >>= (h · null)) null u R := by
  obtain ⟨a, es, hr, hy, hl, hp⟩ := hx
  have hrun : Traces events unwatch x y u fun a es u' => P a es u' ∧ y (unwatch u) = (.ok a, unwatch u') :=
    ⟨a, es, hr, hy, hl, hp, hy⟩
  refine hrun.bind fun a es u' hp => (hg a es u' hp.1).mono fun b es' _ hq => ⟨hq.1, ?_⟩
  rw [← hq.2]
  simp only [NullFree, bind_of_ok hp.2]

theorem Compares.ite {c : Prop} [Decidable c] {y y' : List UInt8 → UiM W α} (h : c → Compares C x y null u Q)
    (h' : ¬c → Compares C x' y' null u Q) :
    Compares C (if c then x else x') (fun null => if c then y null else y' null) null u Q := by
  by_cases hc : c
  · simpa only [if_pos hc] using h hc
  · simpa only [if_neg hc] using h' hc

/-- The result of a program with a flag added. -/
theorem Compares.pair {C' : List EcEvent → Prop} {x : UiM (Watched W) UInt32} {y : List UInt8 → UiM W UInt32}
    {Q : UInt32 → List EcEvent → Prop} {R : UInt32 × Bool → List EcEvent → Prop} {b : Bool}
    (h : Compares C' x y null u Q) (hc : ∀ es, C es ↔ C' es) (hq : ∀ rv es, Q rv es → R (rv, b) es) :
    Compares C (x >>= fun rv => pure (rv, b)) (fun null => y null >>= fun rv => pure (rv, b)) null u R := by
  have hrun (x : UiM W UInt32) (v : Ui W) :
      (x >>= fun rv => pure (rv, b)) v = ((x v).1.map (·, b), (x v).2) := by
    rcases h : x v with ⟨_ | _, _⟩
    · rw [bind_of_error h]
      rfl
    · rw [bind_of_ok h]
      rfl
  have hinj (r r' : Except Stop UInt32) : r.map (·, b) = r'.map (·, b) ↔ r = r' := by
    cases r <;> cases r' <;> simp [Except.map]
  refine Traces.bind h fun rv es _ hes => traces_pure ?_
  rw [List.append_nil, hc, ← hes.2]
  refine ⟨hq rv es hes.1, forall₂_congr fun null null' => ?_⟩
  dsimp only
  rw [hrun, hrun, Prod.ext_iff, Prod.ext_iff, hinj]

end

/-- After an update the hash was read. -/
def ReadBack (es : List EcEvent) : Prop :=
  ∃ hash, es = [.updateImage image vbErrorSuccess, .hashImage image vbErrorSuccess hash sha256DigestSize]

/-- The calls of an update once it is known whether it is needed: a success without one reads
nothing, and a success with one has read the hash back. -/
structure KnownLog (needUpdate : Bool) (reference : List UInt8) (rv : UInt32)
    (es : List EcEvent) : Prop where
  code : rv ∈ ecUpdateCodes
  other : ∀ i ≠ image, HashSilent i es
  unexpected : ecExpected image es = []
  verified : rv = vbErrorSuccess → needUpdate = false ∧ es = [] ∨
    es = [.updateImage image vbErrorSuccess, .hashImage image vbErrorSuccess reference sha256DigestSize]

theorem ecWriteImage_compares :
    Compares (ReadBack image) (ecWriteImage (watching platform) devidx image none expected null)
      (ecWriteImage platform devidx image none expected) null u (KnownLog image true null) := by
  refine Compares.bind (watched_traces u _ _) fun rv es u₁ hes => ?_
  obtain ⟨rfl, -⟩ := hes
  have hreboot : vbErrorEcRebootToRoRequired ∈ ecUpdateCodes := by decide
  have hne : vbErrorEcRebootToRoRequired ≠ vbErrorSuccess := by decide
  refine Compares.ite (fun _ => compares_of_free (fun _ _ => rfl) ?_) fun hrv => ?_
  · refine Traces.silent_bind (Traces.doIf (fun _ => (nvSet_traces u₁ _ _).mono fun _ _ _ h => h.1) fun _ => rfl)
      fun _ u₂ => traces_pure ⟨⟨hreboot, fun _ _ => ⟨rfl, rfl⟩, rfl, fun h => absurd h hne⟩, ?_⟩
    simp [ReadBack]
  · obtain rfl := not_not.mp hrv
    refine Compares.bind (ecReadHash_traces platform devidx u₁ image) fun r es u₂ hes => ?_
    obtain ⟨rv', ecHash, hashSize, rfl, hr⟩ := hes
    have hother (i : EcImage) (hi : i ≠ image) :
        HashSilent i [.updateImage image vbErrorSuccess, .hashImage image rv' ecHash hashSize] :=
      @HashSilent.append i [.updateImage image vbErrorSuccess] _ ⟨rfl, rfl⟩ (.of_hashImage hi _ _ _)
    rcases hr with ⟨rfl, hbad⟩ | ⟨rfl, rfl, rfl⟩
    · refine compares_of_free (fun _ _ => rfl) (traces_pure ⟨⟨hreboot, hother, rfl, fun h => absurd h hne⟩, ?_⟩)
      rintro ⟨hash, h⟩
      simp only [List.append_nil, List.cons_append, List.nil_append, List.cons.injEq, EcEvent.hashImage.injEq] at h
      exact hbad ⟨h.2.1.2.1, h.2.1.2.2.2⟩
    · -- the comparison: one pair of bytes is accepted and another refused
      have hdepends : ¬NullFree (fun null => if safeMemcmp ecHash null then ecFail recoveryEcUpdate
          else pure vbErrorSuccess) (unwatch u₂) := by
        intro h
        have hcode := congrArg Prod.fst (h ecHash (0 :: ecHash))
        simp [safeMemcmp, (List.cons_ne_self 0 ecHash).symm] at hcode
        cases hcode
      refine Traces.mono (Q := fun rv es _ => es = [] ∧ (rv = vbErrorEcRebootToRoRequired ∨
        rv = vbErrorSuccess ∧ ecHash = null)) (Traces.ite (fun _ => ?_) fun hsame => traces_pure ?_) ?_
      · exact (ecFail_traces u₂ _).mono fun _ _ _ hes => ⟨hes.1, .inl hes.2⟩
      · exact ⟨rfl, .inr ⟨rfl, by simpa [safeMemcmp] using hsame⟩⟩
      · rintro rv es _ ⟨rfl, hrv⟩
        refine ⟨?_, iff_of_false hdepends (not_not.mpr ⟨ecHash, rfl⟩)⟩
        rcases hrv with rfl | ⟨rfl, rfl⟩
        · exact ⟨hreboot, hother, rfl, fun h => absurd h hne⟩
        · exact ⟨by decide, hother, rfl, fun _ => .inr rfl⟩

theorem ecReplaceImage_compares :
    Compares (ReadBack image) (ecReplaceImage (watching platform) devidx shared image none expected null)
      (ecReplaceImage platform devidx shared image none expected) null u (KnownLog image true null) := by
  have hwrite (u : Ui (Watched W)) := ecWriteImage_compares platform devidx u image expected null
  refine Compares.ite (fun _ => Compares.ite (fun _ => compares_of_free (fun _ _ => rfl) ?_) fun _ => ?_)
    fun _ => hwrite u
  · refine Traces.silent_bind ((nvSet_traces u _ _).mono fun _ _ _ h => h.1) fun _ u₁ => traces_pure ⟨?_, ?_⟩
    · exact ⟨by decide, fun _ _ => ⟨rfl, rfl⟩, rfl, fun h => absurd h (by decide)⟩
    · simp [ReadBack]
  · refine Compares.bind (vbDisplayScreen_traces platform u .wait) fun _ es u₁ hes => ?_
    subst hes
    exact hwrite u₁

theorem ecUpdateKnown_compares (needUpdate : Bool) (expected null : List UInt8) :
    Compares (ReadBack image)
      (ecUpdateKnown (watching platform) devidx shared image inRw needUpdate none expected null)
      (ecUpdateKnown platform devidx shared image inRw needUpdate none expected) null u
      (KnownLog image needUpdate null) := by
  have hnone : ¬ReadBack image [] := by simp [ReadBack]
  cases needUpdate with
  | false =>
    have hsuccess : KnownLog image false null vbErrorSuccess [] :=
      ⟨by decide, fun _ _ => ⟨rfl, rfl⟩, rfl, fun _ => .inl ⟨rfl, rfl⟩⟩
    exact compares_of_free (fun _ _ => rfl)
      (Traces.ite (fun _ => traces_pure ⟨hsuccess, hnone⟩) fun _ => traces_pure ⟨hsuccess, hnone⟩)
  | true =>
    refine Compares.ite (fun _ => compares_of_free (fun _ _ => rfl) ?_) fun _ =>
      ecReplaceImage_compares platform devidx shared u image expected null
    -- the controller runs the wrong image
    refine Traces.silent_bind (Traces.doIf (fun _ => (nvSet_traces u _ _).mono fun _ _ _ h => h.1) fun _ => rfl)
      fun _ u₁ => traces_pure ⟨?_, hnone⟩
    exact ⟨by decide, fun _ _ => ⟨rfl, rfl⟩, rfl, fun h => absurd h (by decide)⟩

/-- No hash was supplied, and after the update the hash was read to be compared with it. -/
def UnsuppliedReadBack (es : List EcEvent) : Prop :=
  ∃ rv ecHash size hash size' rv' es', ReadBack image es' ∧ es = .hashImage image rv ecHash size ::
    .expectedHash image vbErrorEcGetExpectedHashFromImage hash size' :: .expectedImage image rv' :: es'

structure UpdateLog (supplied : Prop) (image : EcImage) (rv : UInt32) (es : List EcEvent) : Prop where
  code : rv ∈ ecUpdateCodes
  other : ∀ i ≠ image, HashSilent i es
  verified : rv = vbErrorSuccess → HashVerified image es ∨
    ¬supplied ∧ (.updateImage image vbErrorSuccess ∉ es ∨ UnsuppliedReadBack image es)

theorem UpdateLog.reboot {supplied : Prop} {image : EcImage} {es : List EcEvent}
    (h : ∀ i ≠ image, HashSilent i es) : UpdateLog supplied image vbErrorEcRebootToRoRequired es :=
  ⟨by decide, h, fun h => absurd h (by decide)⟩

theorem KnownLog.update {supplied : Prop} {image : EcImage} {needUpdate : Bool} {hash ecHash : List UInt8}
    {rv : UInt32} {es es' : List EcEvent} (h : KnownLog image needUpdate hash rv es')
    (hother : ∀ i ≠ image, HashSilent i es) (hhashes : ecHashes image es = [ecHash])
    (hexpected : ecExpected image es = [hash]) (hneed : needUpdate = false → ecHash = hash) :
    UpdateLog supplied image rv (es ++ es') where
  code := h.code
  other i hi := (hother i hi).append (h.other i hi)
  verified hrv := by
    refine .inl ⟨hash, ?_, ?_⟩
    · rw [ecHashes_append, hhashes]
      rcases h.verified hrv with ⟨hfalse, rfl⟩ | rfl
      · rw [hneed hfalse]
        rfl
      · simp [EcEvent.hashOf]
    · rw [ecExpected_append, hexpected, h.unexpected]
      rfl

theorem ecUpdateImage_compares :
    Compares (UnsuppliedReadBack image) (ecUpdateImage (watching platform) sha256 devidx shared image inRw null)
      (ecUpdateImage platform sha256 devidx shared image inRw) null u fun r es =>
      UpdateLog (SuppliesHash platform devidx image) image r.1 es := by
  refine Compares.bind (ecReadHash_traces platform devidx u image) fun r es u₁ hes => ?_
  obtain ⟨rv₁, ecHash, size₁, rfl, ⟨rfl, -⟩ | ⟨rfl, -, -⟩⟩ := hes
  · refine compares_of_free (fun _ _ => rfl) (traces_pure ⟨.reboot fun i hi => .of_hashImage hi _ _ _, ?_⟩)
    simp [UnsuppliedReadBack]
  refine Compares.bind (ecReadExpectedHash_traces platform devidx u₁ image) fun r es u₂ hes => ?_
  obtain ⟨rv₂, hash, size₂, rfl, hr⟩ := hes
  have hother (i : EcImage) (hi : i ≠ image) : HashSilent i
      [.hashImage image rv₁ ecHash size₁, .expectedHash image rv₂ hash size₂] :=
    (HashSilent.of_hashImage hi _ _ _).append (.of_expectedHash hi _ _ _)
  have hother' (rv : UInt32) (i : EcImage) (hi : i ≠ image) : HashSilent i
      [.hashImage image rv₁ ecHash size₁, .expectedHash image rv₂ hash size₂, .expectedImage image rv] :=
    (hother i hi).append ⟨rfl, rfl⟩
  rcases hr with ⟨hne, hr⟩ | ⟨rfl, rfl, hunsupplied⟩
  · -- a hash was supplied, or there is an error
    have hread : ([hash] : List (List UInt8)) = ecExpected image [.expectedHash image rv₂ hash size₂] := by
      simp [EcEvent.expectedOf]
    have hhashes : ecHashes image [.hashImage image rv₁ ecHash size₁] = [ecHash] := by
      simp [EcEvent.hashOf]
    have hnever (es : List EcEvent) : ¬UnsuppliedReadBack image
        ([.hashImage image rv₁ ecHash size₁] ++ ([.expectedHash image rv₂ hash size₂] ++ es)) := by
      simp [UnsuppliedReadBack, hne]
    rcases hr with rfl | rfl
    · exact compares_of_free (fun _ _ => rfl) (traces_pure ⟨.reboot hother, hnever _⟩)
    refine compares_of_free (fun _ _ => rfl) (Traces.ite (fun _ => ?_) fun hsame => ?_)
    · refine (ecReadExpectedImage_traces platform devidx u₂ image).bind fun r es u₃ hes => ?_
      obtain ⟨rv₃, rfl, hcode⟩ := hes
      cases r with
      | inl code =>
        obtain rfl := hcode code rfl
        exact traces_pure ⟨.reboot (hother' rv₃), hnever _⟩
      | inr expected =>
        refine Traces.ite (fun _ => ?_) fun _ => ?_
        · exact ecFail_bind_traces u₃ fun _ => traces_pure ⟨.reboot (hother' rv₃), hnever _⟩
        · refine Traces.bind (ecUpdateKnown_compares platform devidx shared u₃ image inRw true expected hash)
            fun rv es _ hes => traces_pure ⟨?_, hnever _⟩
          rw [List.append_nil]
          exact hes.1.update (hother' rv₃) hhashes hread.symm (fun h => by cases h)
    · refine Traces.bind (ecUpdateKnown_compares platform devidx shared u₂ image inRw false [] hash)
        fun rv es _ hes => traces_pure ⟨?_, hnever _⟩
      rw [List.append_nil]
      have heq : ecHash = hash := by simpa [safeMemcmp] using hsame
      exact hes.1.update hother hhashes hread.symm fun _ => heq
  · -- the update compares with nothing, but its calls are about this image
    refine Compares.bind (ecReadExpectedImage_traces platform devidx u₂ image) fun r es u₃ hes => ?_
    obtain ⟨rv₃, rfl, hcode⟩ := hes
    cases r with
    | inl code =>
      obtain rfl := hcode code rfl
      refine compares_of_free (fun _ _ => rfl) (traces_pure ⟨.reboot (hother' rv₃), ?_⟩)
      simp [UnsuppliedReadBack, ReadBack]
    | inr expected =>
      refine (ecUpdateKnown_compares platform devidx shared u₃ image inRw _ expected null).pair (fun es => ?_)
        fun rv es hes => ⟨hes.code, fun i hi => (hother' rv₃ i hi).append (hes.other i hi), fun hrv => .inr ⟨hunsupplied, ?_⟩⟩
      · simp [UnsuppliedReadBack]
      · rcases hes.verified hrv with ⟨-, rfl⟩ | rfl
        · exact .inl (by simp)
        · exact .inr ⟨_, _, _, _, _, _, _, ⟨_, rfl⟩, rfl⟩

/-- The calls of an attempt at the RO image say nothing about the others. -/
theorem ecSyncRo_traces {image : EcImage} (hi : image ≠ .readonly) :
    Traces events unwatch (ecSyncRo (watching platform) sha256 devidx shared inRw null)
      (ecSyncRo platform sha256 devidx shared inRw null) u fun rv es _ =>
      rv ∈ ecUpdateCodes ∧ HashSilent image es := by
  have hupdate (u : Ui (Watched W)) := ecUpdateImage_compares platform sha256 devidx shared u .readonly inRw null
  refine (nvGet_traces u _).silent_bind fun _ u₁ => ?_
  refine Traces.ite (fun _ => ?_) fun _ => traces_pure ⟨by decide, rfl, rfl⟩
  refine Traces.silent_bind ((nvSet_traces u₁ _ _).mono fun _ _ _ h => h.1) fun _ u₂ => ?_
  refine (nvGet_traces u₂ _).silent_bind fun _ u₃ => ?_
  refine Traces.bind (hupdate u₃) fun first es u₄ hes => ?_
  refine Traces.ite (fun _ => traces_pure ?_) fun _ => ?_
  · rw [List.append_nil]
    exact ⟨hes.1.code, hes.1.other image hi⟩
  · refine Traces.bind (hupdate u₄) fun second es' u₅ hes' => ?_
    refine Traces.silent_bind (Traces.doIf (fun _ => (nvSet_traces u₅ _ _).mono fun _ _ _ h => h.1) fun _ => rfl)
      fun _ u₆ => traces_pure ?_
    rw [List.append_nil]
    exact ⟨hes'.1.code, (hes.1.other image hi).append (hes'.1.other image hi)⟩

theorem ecJump_traces :
    Traces events unwatch (ecJump (watching platform) devidx inRw)
      (ecJump platform devidx inRw) u fun rv es _ =>
      rv = vbErrorSuccess ∧ (inRw ≠ 0 ∧ es = [] ∨ es = [.jumpToRw vbErrorSuccess]) ∨
        rv = vbErrorEcRebootToRoRequired := by
  refine Traces.ite (fun h => traces_pure (.inl ⟨rfl, .inl ⟨h, rfl⟩⟩)) fun _ => ?_
  refine (watched_traces u _ _).bind fun rv es u₁ hes => ?_
  obtain ⟨rfl, -⟩ := hes
  refine Traces.ite (fun _ => ?_) fun hrv => traces_pure (.inl ⟨rfl, .inr ?_⟩)
  · exact Traces.silent_bind (Traces.doIf (fun _ => (nvSet_traces u₁ _ _).mono fun _ _ _ h => h.1) fun _ => rfl)
      fun _ u₂ => traces_pure (.inr rfl)
  · rw [not_not.mp hrv]
    rfl

theorem ecFinish_traces (updatedRw : Bool) :
    Traces events unwatch (ecFinish (watching platform) devidx shared image updatedRw)
      (ecFinish platform devidx shared image updatedRw) u fun rv es u' =>
      Alarmed rv u' ∧ (rv = vbErrorSuccess → es = [.protect .readonly vbErrorSuccess,
        .protect image vbErrorSuccess, .disableJump vbErrorSuccess]) := by
  refine (ecProtect_traces platform devidx u .readonly).bind fun rv es u₁ hes => ?_
  obtain ⟨rfl, halarm⟩ := hes
  refine Traces.ite (fun hrv => traces_pure ⟨halarm, fun h => absurd h hrv⟩) fun hrv => ?_
  obtain rfl := not_not.mp hrv
  refine (ecProtect_traces platform devidx u₁ image).bind fun rv es u₂ hes => ?_
  obtain ⟨rfl, halarm⟩ := hes
  refine Traces.ite (fun hrv => traces_pure ⟨halarm, fun h => absurd h hrv⟩) fun hrv => ?_
  obtain rfl := not_not.mp hrv
  refine (ecDisableJump_traces platform devidx u₂).bind fun rv es u₃ hes => ?_
  rcases hes with ⟨rfl, rfl⟩ | rfl
  · refine Traces.ite (fun hrv => absurd rfl hrv) fun _ => Traces.ite (fun _ => ?_) fun _ => ?_
    · refine Traces.silent_bind ((nvSet_traces u₃ _ _).mono fun _ _ _ h => h.1) fun _ u₄ => traces_pure ?_
      exact ⟨.inl (by decide), fun h => absurd h (by decide)⟩
    · exact traces_pure ⟨.inl (by decide), fun _ => rfl⟩
  · refine Traces.ite (fun hrv => traces_pure ⟨.inl (by decide), fun h => absurd h hrv⟩) fun hrv => ?_
    exact absurd (by decide) hrv

theorem ecSyncRoNormal_traces :
    Traces events unwatch (ecSyncRoNormal (watching platform) devidx image inRw)
      (ecSyncRoNormal platform devidx image inRw) u fun rv es u' =>
      Alarmed rv u' ∧ (rv = vbErrorSuccess → inRw ≠ 1 ∧
        es = [.protect image vbErrorSuccess, .disableJump vbErrorSuccess]) := by
  refine Traces.ite (fun _ => traces_pure ⟨.inl (by decide), fun h => absurd h (by decide)⟩) fun hro => ?_
  refine (ecProtect_traces platform devidx u image).bind fun rv es u₁ hes => ?_
  obtain ⟨rfl, halarm⟩ := hes
  refine Traces.ite (fun hrv => traces_pure ⟨halarm, fun h => absurd h hrv⟩) fun hrv => ?_
  obtain rfl := not_not.mp hrv
  refine (ecDisableJump_traces platform devidx u₁).mono fun rv es u₂ hes => ?_
  rcases hes with ⟨rfl, rfl⟩ | rfl
  · exact ⟨.inl (by decide), fun _ => ⟨hro, rfl⟩⟩
  · exact ⟨.inl (by decide), fun h => absurd h (by decide)⟩

theorem ecSyncRw_traces {image : EcImage} (hi : image ≠ .readonly) (inRw : Int) (null : List UInt8) :
    Traces events unwatch (ecSyncRw (watching platform) sha256 devidx shared image inRw null)
      (ecSyncRw platform sha256 devidx shared image inRw null) u fun rv es u' =>
      Alarmed rv u' ∧ (SuppliesHash platform devidx image → rv = vbErrorSuccess →
        (inRw ≠ 0 ∨ .jumpToRw vbErrorSuccess ∈ es) ∧ HashVerified image es ∧
        ∃ front, es = front ++ [.protect .readonly vbErrorSuccess, .protect image vbErrorSuccess,
          .disableJump vbErrorSuccess]) := by
  refine Traces.bind (ecUpdateImage_compares platform sha256 devidx shared u image inRw null) fun r es u₁ hes => ?_
  refine Traces.ite (fun hrv => traces_pure ⟨.inl hes.1.code, fun _ h => absurd h hrv⟩) fun hrv => ?_
  refine (ecJump_traces platform devidx u₁ inRw).bind fun rv es₁ u₂ hes₁ => ?_
  rcases hes₁ with ⟨rfl, hjump⟩ | rfl
  · refine Traces.ite (fun hrv => absurd rfl hrv) fun _ => ?_
    refine (ecSyncRo_traces platform sha256 devidx shared u₂ inRw null hi).bind fun rv es₂ u₃ hes₂ => ?_
    refine Traces.ite (fun hrv => traces_pure ⟨.inl hes₂.1, fun _ h => absurd h hrv⟩) fun _ => ?_
    refine (ecFinish_traces platform devidx shared u₃ image r.2).mono fun rv es₃ u₄ hes₃ => ⟨hes₃.1, fun hs hrv' => ?_⟩
    obtain rfl := hes₃.2 hrv'
    have hverified := (hes.1.verified (not_not.mp hrv)).resolve_right fun h => h.1 hs
    have hsilent : HashSilent image es₁ := by
      rcases hjump with ⟨-, rfl⟩ | rfl <;> exact ⟨rfl, rfl⟩
    refine ⟨?_, ?_, es ++ (es₁ ++ es₂), ?_⟩
    · rcases hjump with ⟨hin, -⟩ | rfl
      · exact .inl hin
      · exact .inr (by simp)
    · exact hverified.append (hsilent.append (hes₂.2.append ⟨rfl, rfl⟩))
    · simp only [List.append_assoc]
  · refine Traces.ite (fun hrv => traces_pure ⟨.inl (by decide), fun _ h => absurd h hrv⟩) fun hrv => ?_
    exact absurd (by decide) hrv

end

def ecSelectRw (shared : VbSharedData) : EcImage := if shared.firmwareIndex ≠ 0 then .b else .a

theorem ecSelectRw_ne (shared : VbSharedData) : ecSelectRw shared ≠ .readonly := by
  unfold ecSelectRw
  split_ifs <;> decide

/-- The firmware runs read-only, the controller too, and its RW image is protected. -/
structure RoNormalSynced (shared : VbSharedData) (es : List EcEvent) : Prop where
  selected : hasFlag shared.flags vbsdLfUseRoNormal = true
  calls : es = [.runningRw vbErrorSuccess 0, .protect (ecSelectRw shared) vbErrorSuccess,
    .disableJump vbErrorSuccess]

/-- The controller runs its RW image, which had the expected hash when it was last read. Then
both images were protected. -/
structure RwSynced (image : EcImage) (es : List EcEvent) : Prop where
  running : .runningRw vbErrorSuccess 1 ∈ es ∨ .jumpToRw vbErrorSuccess ∈ es
  verified : HashVerified image es
  closed : ∃ front, es = front ++ [.protect .readonly vbErrorSuccess, .protect image vbErrorSuccess,
    .disableJump vbErrorSuccess]

section
variable (platform : Platform W H S) (sha256 : List UInt8 → List UInt8) (devidx : Nat) (shared : VbSharedData)

/-- The calls of software sync, with their answers. -/
def ecTrace (null : List UInt8) (u : Ui W) : List EcEvent :=
  events (vbEcSoftwareSync (watching platform) sha256 devidx shared null (watch u)).2

/-- The calls of an update, with their answers. -/
def ecUpdateTrace (image : EcImage) (inRw : Int) (null : List UInt8) (u : Ui W) : List EcEvent :=
  events (ecUpdateImage (watching platform) sha256 devidx shared image inRw null (watch u)).2

theorem vbEcSoftwareSync_traces
    (hreports : ∀ w, (platform.ecRunningRW devidx w).1.1 = vbErrorSuccess →
      (platform.ecRunningRW devidx w).1.2 = 0 ∨ (platform.ecRunningRW devidx w).1.2 = 1)
    (hsupplied : SuppliesHash platform devidx (ecSelectRw shared)) (null : List UInt8) (u : Ui (Watched W)) :
    Traces events unwatch (vbEcSoftwareSync (watching platform) sha256 devidx shared null)
      (vbEcSoftwareSync platform sha256 devidx shared null) u fun rv es u' =>
      Alarmed rv u' ∧ (rv = vbErrorSuccess → shared.recoveryReason = 0 →
        RoNormalSynced shared es ∨ RwSynced (ecSelectRw shared) es) := by
  refine (watched_traces u _ _).bind fun a es u₁ hes => ?_
  obtain ⟨rfl, w, ha⟩ := hes
  refine Traces.ite (fun hrecovery => Traces.ite (fun _ => ?_) fun _ => traces_pure ?_) fun hnormal => ?_
  · refine (ecFail_traces u₁ _).mono fun rv es _ hes => ?_
    rw [hes.2]
    exact ⟨.inl (by decide), fun h => absurd h (by decide)⟩
  · exact ⟨.inl (by decide), fun _ h => absurd h hrecovery⟩
  refine Traces.ite (fun _ => ?_) fun hrv => ?_
  · refine (ecFail_traces u₁ _).mono fun rv es _ hes => ?_
    rw [hes.2]
    exact ⟨.inl (by decide), fun h => absurd h (by decide)⟩
  have hzero : a.1 = vbErrorSuccess := not_not.mp hrv
  have hin : a.2 = 0 ∨ a.2 = 1 := by
    rw [ha] at hzero ⊢
    exact hreports w hzero
  refine Traces.ite (fun hro => ?_) fun _ => ?_
  · refine (ecSyncRoNormal_traces platform devidx u₁ _ _).mono fun rv es _ hes => ⟨hes.1, fun hsuccess _ => .inl ?_⟩
    obtain ⟨hne, rfl⟩ := hes.2 hsuccess
    rw [hzero, hin.resolve_right hne]
    exact ⟨hro, rfl⟩
  · refine (ecSyncRw_traces platform sha256 devidx shared u₁ (ecSelectRw_ne shared) _ null).mono
      fun rv es _ hes => ⟨hes.1, fun hsuccess _ => .inr ?_⟩
    obtain ⟨hrunning, ⟨hash, hlast, hexpected⟩, front, rfl⟩ := hes.2 hsupplied hsuccess
    refine ⟨?_, ⟨hash, ?_, ?_⟩, .runningRw a.1 a.2 :: front, rfl⟩
    · rcases hrunning with hne | hjump
      · rw [hzero, hin.resolve_left hne]
        exact .inl List.mem_cons_self
      · exact .inr (List.mem_cons_of_mem _ hjump)
    · rw [ecHashes_append, ← hlast]
      rfl
    · rw [ecExpected_append, ← hexpected]
      rfl

/-- Software sync returns, and outside recovery a success leaves the controller in a protected
image: the read-only one if the firmware is the read-only one, and otherwise an RW image with the
expected hash. Errors ask for recovery, unless a reboot mends them. -/
theorem ec_synced
    (hreports : ∀ w, (platform.ecRunningRW devidx w).1.1 = vbErrorSuccess →
      (platform.ecRunningRW devidx w).1.2 = 0 ∨ (platform.ecRunningRW devidx w).1.2 = 1)
    (hsupplied : SuppliesHash platform devidx (ecSelectRw shared)) (null : List UInt8) (u : Ui W) :
    ∃ rv u', vbEcSoftwareSync platform sha256 devidx shared null u = (.ok rv, u') ∧
      (rv = vbErrorSuccess → shared.recoveryReason = 0 →
        RoNormalSynced shared (ecTrace platform sha256 devidx shared null u) ∨
        RwSynced (ecSelectRw shared) (ecTrace platform sha256 devidx shared null u)) ∧
      (rv ≠ vbErrorSuccess → rv ≠ vbErrorEcRebootToRoRequired → rv ≠ vbErrorVgaOpromMismatch →
        vbNvGet u'.vnc .recoveryRequest ≠ 0) := by
  obtain ⟨rv, es, -, hrun, hes, halarm, hsynced⟩ :=
    vbEcSoftwareSync_traces platform sha256 devidx shared hreports hsupplied null (watch u)
  have htrace : ecTrace platform sha256 devidx shared null u = es := hes
  refine ⟨rv, _, hrun, ?_, fun hsuccess hreboot hoprom => ?_⟩
  · rw [htrace]
    exact hsynced
  · have hcodes : rv ∉ ecUpdateCodes := by simp [ecUpdateCodes, hsuccess, hreboot, hoprom]
    exact halarm.resolve_left hcodes

end

/-- A platform that has no hash of the image, with a controller that keeps its own image. -/
def imagePlatform : Platform Unit Unit Unit :=
  { samplePlatform fun _ => 0 with
    ecGetExpectedImageHash := fun _ _ _ => ((vbErrorEcGetExpectedHashFromImage, fun _ => 0, 0), ()) }

def sampleUi : Ui Unit := ⟨(), vbNvSetup (Vector.replicate 16 0), Vector.replicate 16 0⟩

/-- A controller that already has the expected image and jumps to it. -/
theorem ec_synced_sample : RwSynced .b (ecTrace (samplePlatform fun _ => 0) (fun _ => []) 0 (sampleKernelState 0).shared []
    ⟨(), vbNvSetup (Vector.replicate 16 0), Vector.replicate 16 0⟩) := by
  have hne : (0 : UInt32) ≠ vbErrorEcGetExpectedHashFromImage := by decide
  have hselect : ecSelectRw (sampleKernelState 0).shared = .b := by decide
  obtain ⟨rv, u', hrun, hsynced, -⟩ := ec_synced (samplePlatform fun _ => 0) (fun _ => []) 0
    (sampleKernelState 0).shared (fun _ _ => .inl rfl) (fun _ => hne) [] sampleUi
  have hok : (vbEcSoftwareSync (samplePlatform fun _ => 0) (fun _ => []) 0 (sampleKernelState 0).shared []
      sampleUi).1 = .ok vbErrorSuccess := by decide +kernel
  rw [hrun] at hok
  rw [hselect] at hsynced
  refine (hsynced (Except.ok.inj hok) (by decide)).resolve_left fun h => ?_
  exact absurd h.selected (by decide)

end
end Vboot
