import Vboot.Common.Rollback

/-! What the rollback functions do to the contents of the TPM's spaces when every TPM command
either does what it should or fails without an effect. -/
namespace Vboot
open Vboot.Lib Vboot.Lib.Program

section
variable {T : Type}

/-- The contents of the spaces in a state of the TPM; a space that is not defined is empty. -/
abbrev Contents (T : Type) := T → UInt32 → List UInt8

/-- A command that leaves all spaces alone. -/
def Quiet (nv : Contents T) (op : T → UInt32 × T) : Prop := ∀ t, nv (op t).2 = nv t

/-- A query that leaves all spaces alone. -/
def QuietQuery {α : Type} (nv : Contents T) (op : T → UInt32 × α × T) : Prop :=
  ∀ t, nv (op t).2.2 = nv t

/-- Commands fail without an effect or do what they should. -/
structure Faithful (tlcl : Tlcl T) (nv : Contents T) : Prop where
  libInit : Quiet nv tlcl.libInit
  startup : Quiet nv tlcl.startup
  assertPhysicalPresence : Quiet nv tlcl.assertPhysicalPresence
  physicalPresenceCMDEnable : Quiet nv tlcl.physicalPresenceCMDEnable
  lockPhysicalPresence : Quiet nv tlcl.lockPhysicalPresence
  setGlobalLock : Quiet nv tlcl.setGlobalLock
  forceClear : Quiet nv tlcl.forceClear
  setEnable : Quiet nv tlcl.setEnable
  setDeactivated : ∀ flag, Quiet nv (tlcl.setDeactivated flag)
  extend : ∀ pcr digest, Quiet nv (tlcl.extend pcr digest)
  getFlags : QuietQuery nv tlcl.getFlags
  getPermissions : ∀ index, QuietQuery nv (tlcl.getPermissions index)
  read : ∀ index n, QuietQuery nv (tlcl.read index n)
  read_ok : ∀ index n t, (tlcl.read index n t).1 = 0 →
    (tlcl.read index n t).2.1.load 0 n = (nv t index).take n
  read_bad : ∀ index n t, (tlcl.read index n t).1 = tpmEBadIndex → nv t index = []
  write_ok : ∀ index data t, (tlcl.write index data t).1 = 0 →
    nv (tlcl.write index data t).2 =
      Function.update (nv t) index (data ++ (nv t index).drop data.length)
  write_error : ∀ index data t, (tlcl.write index data t).1 ≠ 0 →
    nv (tlcl.write index data t).2 = nv t

/-- The space has been defined with the size that the code uses. -/
def Defined (nv : Contents T) (index : UInt32) (size : Nat) (t : T) : Prop :=
  (nv t index).length = size

/-- The four bytes of a space that hold its versions. -/
def storedVersion (nv : Contents T) (index : UInt32) (offset : Nat) (t : T) : UInt32 :=
  le32 (Mem.ofList (nv t index)) offset

/-- A record that holds what a space held, apart from the struct version. -/
def Holds (nv : Contents T) (index : UInt32) (size : Nat) (t : T) (rs : Mem) : Prop :=
  ∀ j, 0 < j → j < size → rs j = Mem.ofList (nv t index) j

/-- The space is as before or has been overwritten. -/
def WrittenWith (nv : Contents T) (index : UInt32) (data : List UInt8) (t t' : T) : Prop :=
  nv t' = nv t ∨ nv t' = Function.update (nv t) index data

/-- All spaces are as before. -/
def SameSpaces (nv : Contents T) (t t' : T) : Prop := nv t' = nv t

variable {tlcl : Tlcl T} {nv : Contents T}

instance : Std.Refl (SameSpaces nv) := ⟨fun _ => rfl⟩

instance : IsTrans T (SameSpaces nv) := ⟨fun _ _ _ h h' => h'.trans h⟩

theorem command_same {op : T → UInt32 × T} (h : Quiet nv op) : (command op).Keeps (SameSpaces nv) := h

variable {α : Type} {t t' t'' : T} {index v : UInt32} {data : List UInt8} {size offset : Nat}

theorem query_same {op : T → UInt32 × α × T} (h : QuietQuery nv op) : (query op).Keeps (SameSpaces nv) := h

theorem clear_same (hclear : Quiet nv tlcl.forceClear) (henable : Quiet nv tlcl.setEnable)
    (hdeactivated : Quiet nv (tlcl.setDeactivated 0)) : (tpmClearAndReenable tlcl).Keeps (SameSpaces nv) :=
  (command_same hclear).bind fun _ => (command_same henable).bind fun _ => command_same hdeactivated

theorem Defined.congr (hd : Defined nv index size t) (h : nv t' = nv t) : Defined nv index size t' := by
  rw [Defined, h]
  exact hd

theorem storedVersion_congr (h : nv t' index = nv t index) :
    storedVersion nv index offset t' = storedVersion nv index offset t := by
  rw [storedVersion, h, storedVersion]

theorem write_ends (F : Faithful tlcl nv) (hd : Defined nv index data.length t) :
    (command (tlcl.write index data)).Ends t fun _ t' => WrittenWith nv index data t t' := by
  change WrittenWith nv index data t (tlcl.write index data t).2
  by_cases h : (tlcl.write index data t).1 = 0
  · right
    rw [F.write_ok index data t h, List.drop_eq_nil_of_le (le_of_eq hd), List.append_nil]
  · exact .inl (F.write_error index data t h)

theorem WrittenWith.defined (h : WrittenWith nv index data t t') {i : UInt32} {n : Nat}
    (hn : i = index → n = data.length) (hd : Defined nv i n t) : Defined nv i n t' := by
  unfold Defined at hd ⊢
  rcases h with h | h
  · rw [h]
    exact hd
  · rw [h, Function.update_apply]
    split_ifs with hi
    · exact (hn hi).symm
    · exact hd

theorem WrittenWith.trans (h : WrittenWith nv index data t t') (h' : WrittenWith nv index data t' t'') :
    WrittenWith nv index data t t'' := by
  rcases h' with h' | h'
  · rw [WrittenWith, h']
    exact h
  · right
    rcases h with h | h
    · rw [h', h]
    · rw [h', h, Function.update_idem]

theorem safeWrite_ends (F : Faithful tlcl nv) (hd : Defined nv index data.length t) :
    (safeWrite tlcl index data).Ends t fun _ t' => WrittenWith nv index data t t' := by
  apply Ends.catch
  apply (write_ends F hd).mono
  intro r t₁ h1
  cases r with
  | ok _ => exact h1
  | error e =>
    dsimp only
    split_ifs
    · refine ((clear_same F.forceClear F.setEnable (F.setDeactivated 0)).ends t₁).seq
        (fun _ _ h2 => h1.trans (.inl h2)) fun _ t₂ h2 => ?_
      have hd₂ : Defined nv index data.length t₂ := (h1.defined (fun _ => rfl) hd).congr h2
      exact (write_ends F hd₂).mono fun _ t₃ h3 => (h1.trans (.inl h2)).trans h3
    · exact h1

/-- A read leaves the spaces alone. A record that it returns holds the contents, and the
space was not found missing. -/
theorem readSpace_ends (F : Faithful tlcl nv) (attempts : Nat) (hd : Defined nv index size t)
    (hs : 0 < size) :
    (readSpace tlcl index size attempts).Ends t fun r t' => nv t' = nv t ∧
      match r with
      | .ok rs => Holds nv index size t rs
      | .error e => e ≠ tpmEBadIndex := by
  induction attempts generalizing t with
  | zero =>
    refine ends_throw ⟨rfl, ?_⟩
    change tpmECorruptedState ≠ tpmEBadIndex
    decide
  | succ n ih =>
    have hq : (query (tlcl.read index size)).Ends t fun r t' => nv t' = nv t ∧
        match r with
        | .ok rs => Holds nv index size t rs
        | .error e => e ≠ tpmEBadIndex := by
      refine ⟨F.read index size t, ?_⟩
      dsimp only [query]
      split_ifs with h0
      · intro j _ hj
        have hl := F.read_ok index size t h0
        rw [List.take_of_length_le (le_of_eq hd)] at hl
        rw [← hl, Mem.ofList_load _ size j hj]
      · intro hb
        have hnil := F.read_bad index size t hb
        rw [Defined, hnil, List.length_nil] at hd
        omega
    refine hq.seq (fun _ _ h => h) ?_
    rintro rs t₁ ⟨h1, hr⟩
    dsimp only at hr ⊢
    split_ifs
    · refine ends_pure ⟨h1, fun j h0 hj => ?_⟩
      rw [Function.update_of_ne (by omega)]
      exact hr j h0 hj
    · exact ends_pure ⟨h1, hr⟩
    · apply (ih (hd.congr h1)).mono
      rintro r t₂ ⟨h2, hr₂⟩
      refine ⟨h2.trans h1, ?_⟩
      cases r with
      | error e => exact hr₂
      | ok rs =>
        intro j h0 hj
        rw [hr₂ j h0 hj, h1]

theorem writeAttempts_ends (F : Faithful tlcl nv) (rs : Mem) (attempts : Nat)
    (hd : Defined nv index size t) (hs : 0 < size) :
    (writeAttempts tlcl index size rs attempts).Ends t fun _ t' =>
      WrittenWith nv index (rs.load 0 size) t t' := by
  have hlen : (rs.load 0 size).length = size := Mem.length_load rs 0 size
  induction attempts generalizing t with
  | zero => exact .inl rfl
  | succ n ih =>
    refine (safeWrite_ends F (by rw [hlen]; exact hd)).seq (fun _ _ h => h) fun _ t₁ h1 => ?_
    have hd₁ : Defined nv index size t₁ := h1.defined (fun _ => hlen.symm) hd
    refine Ends.catch ((readSpace_ends F 3 hd₁ hs).seq (fun _ t₂ h2 => ?_) fun _ _ h2 => h1.trans (.inl h2.1))
    have h12 := h1.trans (.inl h2.1)
    exact (ih (h12.defined (fun _ => hlen.symm) hd)).mono fun _ t₃ h3 => h12.trans h3

theorem sealSpace_of_lt (size : Nat) (rs : Mem) {j : Nat} (h0 : 0 < j) (h : j < size - 1) :
    sealSpace size rs j = rs j := by
  unfold sealSpace
  rw [Function.update_of_ne (by omega)]
  split_ifs
  · exact Function.update_of_ne (by omega) _ _
  · rfl

theorem sealSpace_versions (rs : Mem) (h0 : 0 < offset) (h : offset + 4 < size) :
    le32 (sealSpace size rs) offset = le32 rs offset :=
  le32_congr fun i hi => sealSpace_of_lt size rs (by omega) (by omega)

theorem Holds.versions {rs : Mem} (h : Holds nv index size t rs) (h0 : 0 < offset)
    (hs : offset + 4 < size) : le32 rs offset = storedVersion nv index offset t :=
  le32_congr fun i hi => h (offset + i) (by omega) (by omega)

/-- What a write of a record does to one space's versions and to every other space. -/
structure Wrote (nv : Contents T) (index : UInt32) (size offset : Nat) (v : UInt32) (t t' : T) :
    Prop where
  version : storedVersion nv index offset t' = storedVersion nv index offset t ∨
    storedVersion nv index offset t' = v
  defined : Defined nv index size t'
  frame : ∀ i, i ≠ index → nv t' i = nv t i

theorem writeSpace_ends (F : Faithful tlcl nv) (rs : Mem) (hd : Defined nv index size t) (h0 : 0 < offset)
    (hs : offset + 4 < size) :
    (writeSpace tlcl index size rs).Ends t fun r t' =>
      Wrote nv index size offset (le32 rs offset) t t' ∧
      ∀ rs', r = .ok rs' → le32 rs' offset = le32 rs offset := by
  have hsize : 0 < size := by omega
  apply Ends.bind
  apply (writeAttempts_ends F (sealSpace size rs) 3 hd hsize).mono
  intro r t' h
  have hw : Wrote nv index size offset (le32 rs offset) t t' := by
    refine ⟨?_, h.defined (fun _ => (Mem.length_load _ 0 size).symm) hd, fun i hi => ?_⟩
    · unfold storedVersion
      rcases h with h | h
      · exact .inl (by rw [h])
      · right
        rw [h, Function.update_self, ← sealSpace_versions rs h0 hs]
        exact le32_congr fun i hi => Mem.ofList_load _ size _ (by omega)
    · rcases h with h | h
      · rw [h]
      · rw [h, Function.update_of_ne hi]
  cases r with
  | error e => exact ⟨hw, fun rs' h => by cases h⟩
  | ok _ =>
    refine ends_pure ⟨hw, fun rs' h => ?_⟩
    cases h
    exact sealSpace_versions rs h0 hs

theorem Wrote.congr {s s' : T} (hw : Wrote nv index size offset v t t') (h : nv t = nv s)
    (h' : nv s' = nv t') : Wrote nv index size offset v s s' := by
  refine ⟨?_, hw.defined.congr h', fun i hi => by rw [h', hw.frame i hi, h]⟩
  rw [storedVersion_congr (congrFun h' _), ← storedVersion_congr (congrFun h _)]
  exact hw.version

theorem Wrote.of_quiet (hd : Defined nv index size t) (h : nv t' = nv t) :
    Wrote nv index size offset v t t' :=
  ⟨.inl (storedVersion_congr (congrFun h _)), hd.congr h, fun i _ => by rw [h]⟩

/-- Reading a space and writing it back with other versions, as RollbackFirmwareWrite and
RollbackKernelWrite do. -/
theorem rewrite_ends (F : Faithful tlcl nv) (v : UInt32) (hd : Defined nv index size t) (h0 : 0 < offset)
    (hs : offset + 4 < size) :
    Ends (do
      let rs ← readSpace tlcl index size 3
      let _ ← writeSpace tlcl index size (rs.store offset (leBytes32 v)) : TpmM T Unit) t
      fun _ t' => Wrote nv index size offset v t t' := by
  have hsize : 0 < size := by omega
  refine (readSpace_ends F 3 hd hsize).seq (fun _ _ h1 => .of_quiet hd h1.1) ?_
  rintro rs t₁ ⟨h1, -⟩
  have hwrite := writeSpace_ends F (rs.store offset (leBytes32 v)) (hd.congr h1) h0 hs
  rw [le32_store] at hwrite
  exact hwrite.seq (fun _ _ h2 => h2.1.congr h1 rfl) fun _ _ h2 => h2.1.congr h1 rfl

/-- A step that leaves the spaces as they were in the state t. -/
theorem ends_after_same {β : Type} {x : TpmM T α} {f : α → TpmM T β} {Q : Except UInt32 β → T → Prop}
    (h : nv t' = nv t) (hx : x.Keeps (SameSpaces nv)) (herr : ∀ e t', nv t' = nv t → Q (.error e) t')
    (hf : ∀ a t', nv t' = nv t → (f a).Ends t' Q) : Ends (x >>= f) t' Q :=
  (hx.ends t').seq (fun e t'' h' => herr e t'' (h'.trans h)) fun a t'' h' => hf a t'' (h'.trans h)

def firmwareVersion (nv : Contents T) (t : T) : UInt32 :=
  storedVersion nv firmwareNvIndex firmwareVersionsOffset t

/-- What the setup of the TPM ensures: the firmware version stays and is the one in the
record. -/
def Setup (nv : Contents T) (t : T) (r : Except UInt32 Mem) (t' : T) : Prop :=
  Wrote nv firmwareNvIndex firmwareSpaceSize firmwareVersionsOffset (firmwareVersion nv t) t t' ∧
    ∀ rsf, r = .ok rsf → le32 rsf firmwareVersionsOffset = firmwareVersion nv t

theorem Setup.quiet_trans {r : Except UInt32 Mem} (h : nv t' = nv t) (hs : Setup nv t' r t'') :
    Setup nv t r t'' := by
  have hv : firmwareVersion nv t' = firmwareVersion nv t := storedVersion_congr (congrFun h _)
  obtain ⟨hw, hr⟩ := hs
  rw [hv] at hw hr
  exact ⟨hw.congr h rfl, hr⟩

section
variable (F : Faithful tlcl nv) (hd : Defined nv firmwareNvIndex firmwareSpaceSize t)
include F hd

omit F in
theorem Setup.of_error {e : UInt32} (h : nv t' = nv t) : Setup nv t (.error e) t' :=
  ⟨.of_quiet hd h, fun rsf h => by cases h⟩

theorem writeSpaceFirmware_ends (rsf : Mem) :
    (writeSpaceFirmware tlcl rsf).Ends t fun r t' =>
      Wrote nv firmwareNvIndex firmwareSpaceSize firmwareVersionsOffset
        (le32 rsf firmwareVersionsOffset) t t' ∧
      ∀ rsf', r = .ok rsf' → le32 rsf' firmwareVersionsOffset = le32 rsf firmwareVersionsOffset :=
  writeSpace_ends F rsf hd (by decide) (by decide)

theorem storeFlags_ends (flags : UInt8) {rsf : Mem}
    (hv : le32 rsf firmwareVersionsOffset = firmwareVersion nv t) :
    (storeFlags tlcl flags rsf).Ends t (Setup nv t) := by
  have hv' : le32 (Function.update rsf 1 flags) firmwareVersionsOffset = firmwareVersion nv t := by
    rw [← hv]
    exact le32_congr fun i _ => Function.update_of_ne (by unfold firmwareVersionsOffset; omega) _ _
  unfold storeFlags
  split_ifs
  · apply (writeSpaceFirmware_ends F hd (Function.update rsf 1 flags)).mono
    rintro r t₂ ⟨h2, hr⟩
    rw [hv'] at h2 hr
    exact ⟨h2, hr⟩
  · refine ends_pure ⟨.of_quiet hd rfl, fun rsf' h => ?_⟩
    cases h
    exact hv'

variable (dev disable clear : Bool)

theorem updateFlags_ends {rsf : Mem}
    (hv : le32 rsf firmwareVersionsOffset = firmwareVersion nv t) :
    (updateFlags tlcl dev disable clear rsf).Ends t (Setup nv t) := by
  apply ends_after_same rfl (clear_same F.forceClear F.setEnable (F.setDeactivated 0)).doIf
    (fun e t' h => .of_error hd h)
  intro _ t₁ h1
  have hv₁ : le32 rsf firmwareVersionsOffset = firmwareVersion nv t₁ := by
    rw [hv]
    exact (storedVersion_congr (congrFun h1 _)).symm
  exact (storeFlags_ends F (hd.congr h1) _ hv₁).mono fun r t₂ h2 => h2.quiet_trans h1

theorem readOrInitialize_ends :
    (readOrInitialize tlcl).Ends t fun r t' => nv t' = nv t ∧
      ∀ rsf, r = .ok rsf → le32 rsf firmwareVersionsOffset = firmwareVersion nv t := by
  apply Ends.catch
  apply (readSpace_ends F 3 hd (by decide)).mono
  rintro r t₁ ⟨h1, hr⟩
  cases r with
  | ok rsf =>
    refine ⟨h1, fun rsf' h => ?_⟩
    cases h
    exact hr.versions (by decide) (by decide)
  | error e =>
    -- the space exists, so this is not the first boot
    dsimp only
    rw [if_neg hr]
    exact ends_throw ⟨h1, fun rsf h => by cases h⟩

omit hd in
theorem assertPresence_same : (assertPresence tlcl).Keeps (SameSpaces nv) :=
  (command_same F.assertPhysicalPresence).catch fun _ =>
    (command_same F.physicalPresenceCMDEnable).bind fun _ => command_same F.assertPhysicalPresence

theorem setupTPM_ends : (setupTPM tlcl dev disable clear).Ends t (Setup nv t) := by
  have herr (e : UInt32) (t' : T) (h : nv t' = nv t) : Setup nv t (.error e) t' := .of_error hd h
  apply ends_after_same rfl (command_same F.libInit) herr
  intro _ t₁ h1
  apply ends_after_same h1 (command_same F.startup) herr
  intro _ t₂ h2
  apply ends_after_same h2 (assertPresence_same F) herr
  intro _ t₃ h3
  apply ends_after_same h3 (query_same F.getFlags) herr
  rintro ⟨off, deactivated⟩ t₄ h4
  dsimp only
  split_ifs
  · apply ends_after_same h4 (command_same F.setEnable) herr
    intro _ t₅ h5
    apply ends_after_same h5 (command_same (F.setDeactivated 0)) herr
    intro _ t₆ h6
    exact ends_throw (herr _ _ h6)
  · refine (readOrInitialize_ends F (hd.congr h4)).seq (fun e t₅ h5 => herr e t₅ (h5.1.trans h4)) ?_
    rintro rsf t₅ ⟨h5, hr⟩
    replace h5 := h5.trans h4
    have hv₅ : le32 rsf firmwareVersionsOffset = firmwareVersion nv t₅ := by
      rw [hr rsf rfl]
      exact storedVersion_congr (congrFun (h4.trans h5.symm) _)
    exact (updateFlags_ends F (hd.congr h5) dev disable clear hv₅).mono fun r t₆ h6 => h6.quiet_trans h5

theorem rollbackFirmwareSetup_ends :
    (rollbackFirmwareSetup tlcl dev disable clear).Ends t fun r t' =>
      Wrote nv firmwareNvIndex firmwareSpaceSize firmwareVersionsOffset (firmwareVersion nv t) t t' ∧
      ∀ v virt, r = .ok (v, virt) → v = firmwareVersion nv t := by
  refine (setupTPM_ends F hd dev disable clear).seq (fun _ _ h => ⟨h.1, fun v virt h => by cases h⟩) ?_
  rintro rsf t' ⟨hw, hr⟩
  refine ends_pure ⟨hw, fun v virt h => ?_⟩
  cases h
  exact hr rsf rfl

end

end
end Vboot
