import Vboot.Common.Spaces

/-! TPMs with a record of what they were asked to do, and which write commands the rollback
functions issue. -/
namespace Vboot
open Vboot.Lib Vboot.Lib.Program

/-- Seen through f, the commands with which spaces are defined, read and written do what those of the
other library do. -/
structure Follows {S T : Type} (f : S → T) (a : Tlcl S) (b : Tlcl T) : Prop where
  forceClear : Projects f (command a.forceClear) (command b.forceClear)
  setEnable : Projects f (command a.setEnable) (command b.setEnable)
  setDeactivated : ∀ flag, Projects f (command (a.setDeactivated flag)) (command (b.setDeactivated flag))
  defineSpace : ∀ index perm size,
    Projects f (command (a.defineSpace index perm size)) (command (b.defineSpace index perm size))
  read : ∀ index n, Projects f (query (a.read index n)) (query (b.read index n))
  write : ∀ index data, Projects f (command (a.write index data)) (command (b.write index data))

section
variable {S T : Type} {f : S → T} {a : Tlcl S} {b : Tlcl T}

variable (h : Follows f a b)
include h

theorem Follows.clear : Projects f (tpmClearAndReenable a) (tpmClearAndReenable b) :=
  h.forceClear.bind fun _ => h.setEnable.bind fun _ => h.setDeactivated 0

theorem Follows.retryCleared {op : S → UInt32 × S} {op' : T → UInt32 × T}
    (hop : Projects f (command op) (command op')) :
    Projects f (Vboot.retryCleared a op) (Vboot.retryCleared b op') :=
  hop.catch fun e => (h.clear.bind fun _ => hop).ite (projects_throw e)

variable (index : UInt32)

theorem Follows.readSpace (size attempts : Nat) :
    Projects f (Vboot.readSpace a index size attempts) (Vboot.readSpace b index size attempts) := by
  induction attempts with
  | zero => exact projects_throw _
  | succ n ih =>
    apply (h.read index size).bind
    intro rs
    exact (projects_pure _).ite ((projects_pure _).ite ih)

theorem Follows.writeAttempts (size : Nat) (rs : Mem)
    (attempts : Nat) :
    Projects f (Vboot.writeAttempts a index size rs attempts)
      (Vboot.writeAttempts b index size rs attempts) := by
  induction attempts with
  | zero => exact projects_throw _
  | succ n ih =>
    apply (h.retryCleared (h.write index _)).bind
    intro _
    exact ((h.readSpace index size 3).bind fun _ => projects_pure _).catch fun _ => ih

theorem Follows.writeSpace (size : Nat) (rs : Mem) :
    Projects f (Vboot.writeSpace a index size rs) (Vboot.writeSpace b index size rs) :=
  (h.writeAttempts index size _ 3).bind fun _ => projects_pure _

end

section
variable {T : Type}

structure WriteCommand (T : Type) where
  before : T
  index : UInt32
  data : List UInt8

/-- A TPM and the write commands so far. -/
structure Recorded (T : Type) where
  tpm : T
  writes : List (WriteCommand T)

/-- A command that is not recorded. -/
def unrecorded (op : T → UInt32 × T) (s : Recorded T) : UInt32 × Recorded T :=
  ((op s.tpm).1, { s with tpm := (op s.tpm).2 })

def unrecordedQuery {α : Type} (op : T → UInt32 × α × T) (s : Recorded T) :
    UInt32 × α × Recorded T :=
  ((op s.tpm).1, (op s.tpm).2.1, { s with tpm := (op s.tpm).2.2 })

def recording (tlcl : Tlcl T) : Tlcl (Recorded T) where
  libInit := unrecorded tlcl.libInit
  startup := unrecorded tlcl.startup
  resume := unrecorded tlcl.resume
  selfTestFull := unrecorded tlcl.selfTestFull
  assertPhysicalPresence := unrecorded tlcl.assertPhysicalPresence
  physicalPresenceCMDEnable := unrecorded tlcl.physicalPresenceCMDEnable
  finalizePhysicalPresence := unrecorded tlcl.finalizePhysicalPresence
  lockPhysicalPresence := unrecorded tlcl.lockPhysicalPresence
  setNvLocked := unrecorded tlcl.setNvLocked
  setGlobalLock := unrecorded tlcl.setGlobalLock
  forceClear := unrecorded tlcl.forceClear
  setEnable := unrecorded tlcl.setEnable
  setDeactivated flag := unrecorded (tlcl.setDeactivated flag)
  getFlags := unrecordedQuery tlcl.getFlags
  getPermanentFlags := unrecordedQuery tlcl.getPermanentFlags
  getPermissions index := unrecordedQuery (tlcl.getPermissions index)
  defineSpace index perm size := unrecorded (tlcl.defineSpace index perm size)
  read index n := unrecordedQuery (tlcl.read index n)
  write index data s :=
    ((tlcl.write index data s.tpm).1,
      { tpm := (tlcl.write index data s.tpm).2, writes := s.writes ++ [⟨s.tpm, index, data⟩] })
  extend pcr digest := unrecorded (tlcl.extend pcr digest)

def recordedContents (nv : Contents T) : Contents (Recorded T) := fun s => nv s.tpm

theorem recording_faithful {tlcl : Tlcl T} {nv : Contents T} (F : Faithful tlcl nv) :
    Faithful (recording tlcl) (recordedContents nv) where
  libInit s := F.libInit s.tpm
  startup s := F.startup s.tpm
  assertPhysicalPresence s := F.assertPhysicalPresence s.tpm
  physicalPresenceCMDEnable s := F.physicalPresenceCMDEnable s.tpm
  lockPhysicalPresence s := F.lockPhysicalPresence s.tpm
  setGlobalLock s := F.setGlobalLock s.tpm
  forceClear s := F.forceClear s.tpm
  setEnable s := F.setEnable s.tpm
  setDeactivated flag s := F.setDeactivated flag s.tpm
  extend pcr digest s := F.extend pcr digest s.tpm
  getFlags s := F.getFlags s.tpm
  getPermissions index s := F.getPermissions index s.tpm
  read index n s := F.read index n s.tpm
  read_ok index n s := F.read_ok index n s.tpm
  read_bad index n s := F.read_bad index n s.tpm
  write_ok index data s := F.write_ok index data s.tpm
  write_error index data s := F.write_error index data s.tpm

/-- The commands with which a space is read and written all keep R. -/
structure Respects (tlcl : Tlcl T) (R : T → T → Prop) (index : UInt32) (size : Nat) : Prop where
  clear : (tpmClearAndReenable tlcl).Keeps R
  read : (query (tlcl.read index size)).Keeps R
  write : ∀ rs : Mem, (command (tlcl.write index (rs.load 0 size))).Keeps R

section
variable {tlcl : Tlcl T} {index : UInt32} {size : Nat}

theorem writeAttempts_last {rs : Mem} {attempts : Nat} {t t' : T} {u : Unit}
    (h : writeAttempts tlcl index size rs attempts t = (.ok u, t')) :
    ∃ t₀ t₁ rs', safeWrite tlcl index (rs.load 0 size) t₀ = (.ok (), t₁) ∧
      readSpace tlcl index size 3 t₁ = (.ok rs', t') := by
  induction attempts generalizing t with
  | zero => cases h
  | succ n ih =>
    obtain ⟨_, t₁, hwrite, hrest⟩ := bind_ok.mp h
    rw [catch_run] at hrest
    split at hrest
    next hread =>
      cases hrest
      obtain ⟨rs', t₂, hread', hpure⟩ := bind_ok.mp hread
      obtain ⟨-, rfl⟩ := pure_ok.mp hpure
      exact ⟨t, t₁, rs', hwrite, hread'⟩
    next => exact ih hrest

variable {R : T → T → Prop} [Std.Refl R] [IsTrans T R]

theorem readSpace_keeps (h : (query (tlcl.read index size)).Keeps R) (attempts : Nat) :
    (readSpace tlcl index size attempts).Keeps R := by
  induction attempts with
  | zero => exact keeps_throw _
  | succ n ih =>
    apply h.bind
    intro rs
    exact (keeps_pure _).ite ((keeps_pure _).ite ih)

theorem retryCleared_keeps {op : T → UInt32 × T} (hc : (tpmClearAndReenable tlcl).Keeps R)
    (ho : (command op).Keeps R) : (retryCleared tlcl op).Keeps R :=
  ho.catch fun e => (hc.bind fun _ => ho).ite (keeps_throw e)

section
variable {rs : Mem} (hc : (tpmClearAndReenable tlcl).Keeps R)
  (hr : (query (tlcl.read index size)).Keeps R)
include hc hr

theorem writeAttempts_keeps (hw : (command (tlcl.write index (rs.load 0 size))).Keeps R) (attempts : Nat) :
    (writeAttempts tlcl index size rs attempts).Keeps R := by
  induction attempts with
  | zero => exact keeps_throw _
  | succ n ih =>
    apply (retryCleared_keeps hc hw).bind
    intro _
    exact ((readSpace_keeps hr 3).bind fun _ => keeps_pure _).catch fun _ => ih

theorem writeSpace_keeps (hw : (command (tlcl.write index ((sealSpace size rs).load 0 size))).Keeps R) :
    (writeSpace tlcl index size rs).Keeps R :=
  (writeAttempts_keeps hc hr hw 3).bind fun _ => keeps_pure _

end

theorem Respects.writeSpace (h : Respects tlcl R index size) (rs : Mem) :
    (writeSpace tlcl index size rs).Keeps R :=
  writeSpace_keeps h.clear h.read (h.write _)

theorem Respects.setVirtualDevMode (h : Respects tlcl R firmwareNvIndex firmwareSpaceSize)
    (val : Bool) : (setVirtualDevMode tlcl val).Keeps R := by
  apply ((readSpace_keeps h.read 3).catch fun _ => keeps_throw _).bind
  intro rsf
  exact ((h.writeSpace _).catch fun _ => keeps_throw _).bind fun _ => keeps_pure _

theorem Respects.rollbackKernelWrite (h : Respects tlcl R kernelNvIndex kernelSpaceSize)
    (version : UInt32) : (rollbackKernelWrite tlcl version).Keeps R :=
  (readSpace_keeps h.read 3).bind fun _ => (h.writeSpace _).bind fun _ => keeps_pure _

end

/-- Between two states only write commands with P were given. -/
def Issued (P : WriteCommand T → Prop) (s s' : Recorded T) : Prop :=
  ∃ ws, s'.writes = s.writes ++ ws ∧ ∀ w ∈ ws, P w

section
variable {P Q : WriteCommand T → Prop} {s s' s'' : Recorded T}

theorem Issued.of_eq (h : s'.writes = s.writes) : Issued P s s' :=
  ⟨[], by rw [h, List.append_nil], fun _ hw => by cases hw⟩

theorem Issued.trans (h : Issued P s s') (h' : Issued P s' s'') : Issued P s s'' := by
  obtain ⟨ws, hw, hp⟩ := h
  obtain ⟨ws', hw', hp'⟩ := h'
  refine ⟨ws ++ ws', by rw [hw', hw, List.append_assoc], fun w hmem => ?_⟩
  rcases List.mem_append.mp hmem with hmem | hmem
  · exact hp w hmem
  · exact hp' w hmem

theorem Issued.mono (h : Issued P s s') (hpq : ∀ w, P w → Q w) : Issued Q s s' := by
  obtain ⟨ws, hw, hp⟩ := h
  exact ⟨ws, hw, fun w hmem => hpq w (hp w hmem)⟩

theorem issued_write {tlcl : Tlcl T} {index : UInt32} {data : List UInt8} (h : P ⟨s.tpm, index, data⟩) :
    Issued P s ((recording tlcl).write index data s).2 :=
  ⟨[⟨s.tpm, index, data⟩], rfl, fun _ hw => List.mem_singleton.mp hw ▸ h⟩

end

/-- No write command was given, and all contents are as before. -/
structure Silent (nv : Contents T) (s s' : Recorded T) : Prop where
  writes : s'.writes = s.writes
  same : nv s'.tpm = nv s.tpm

/-- No write command was given for the space, and its contents are as before. -/
structure Untouched (nv : Contents T) (index : UInt32) (s s' : Recorded T) : Prop where
  issued : Issued (fun w => w.index ≠ index) s s'
  same : nv s'.tpm index = nv s.tpm index

def WriteCommand.version (offset : Nat) (w : WriteCommand T) : UInt32 :=
  le32 (Mem.ofList w.data) offset

/-- A version that has changed is that of a write command for the space. -/
def Accounted (nv : Contents T) (index : UInt32) (offset : Nat) (s s' : Recorded T) : Prop :=
  ∃ ws, s'.writes = s.writes ++ ws ∧
    (storedVersion nv index offset s'.tpm = storedVersion nv index offset s.tpm ∨
      ∃ w ∈ ws, w.index = index ∧ w.version offset = storedVersion nv index offset s'.tpm)

section
variable {tlcl : Tlcl T} {nv : Contents T} {index : UInt32} {offset : Nat} {s s' : Recorded T}

instance : Std.Refl (Silent nv) := ⟨fun _ => ⟨rfl, rfl⟩⟩

instance : IsTrans (Recorded T) (Silent nv) :=
  ⟨fun _ _ _ h h' => ⟨h'.writes.trans h.writes, h'.same.trans h.same⟩⟩

theorem Silent.untouched (h : Silent nv s s') : Untouched nv index s s' :=
  ⟨.of_eq h.writes, by rw [h.same]⟩

instance : Std.Refl (Untouched nv index) := ⟨fun s => Silent.untouched (refl s)⟩

instance : IsTrans (Recorded T) (Untouched nv index) :=
  ⟨fun _ _ _ h h' => ⟨h.issued.trans h'.issued, h'.same.trans h.same⟩⟩

theorem Untouched.accounted (h : Untouched nv index s s') : Accounted nv index offset s s' := by
  obtain ⟨ws, hw, -⟩ := h.issued
  exact ⟨ws, hw, .inl (storedVersion_congr h.same)⟩

instance : Std.Refl (Accounted nv index offset) :=
  ⟨fun s => Untouched.accounted (refl s)⟩

instance : IsTrans (Recorded T) (Accounted nv index offset) where
  trans := by
    rintro s s' s'' ⟨ws, hw, h⟩ ⟨ws', hw', h'⟩
    refine ⟨ws ++ ws', by rw [hw', hw, List.append_assoc], ?_⟩
    rcases h' with h' | ⟨w, hmem, hi, hv⟩
    · rcases h with h | ⟨w, hmem, hi, hv⟩
      · exact .inl (h'.trans h)
      · exact .inr ⟨w, List.mem_append_left ws' hmem, hi, hv.trans h'.symm⟩
    · exact .inr ⟨w, List.mem_append_right ws hmem, hi, hv⟩

theorem unrecorded_silent {op : T → UInt32 × T} (h : Quiet nv op) :
    (command (unrecorded op)).Keeps (Silent nv) :=
  fun s => ⟨rfl, h s.tpm⟩

theorem unrecordedQuery_silent {α : Type} {op : T → UInt32 × α × T} (h : QuietQuery nv op) :
    (query (unrecordedQuery op)).Keeps (Silent nv) :=
  fun s => ⟨rfl, h s.tpm⟩

variable (F : Faithful tlcl nv)
include F

theorem clear_silent :
    (tpmClearAndReenable (recording tlcl)).Keeps (Silent nv) :=
  (unrecorded_silent F.forceClear).bind fun _ =>
    (unrecorded_silent F.setEnable).bind fun _ => unrecorded_silent (F.setDeactivated 0)

theorem readSpace_silent (index : UInt32) (size attempts : Nat) :
    (readSpace (recording tlcl) index size attempts).Keeps (Silent nv) :=
  readSpace_keeps (unrecordedQuery_silent (F.read index size)) attempts

theorem rollbackKernelRead_silent :
    (rollbackKernelRead (recording tlcl)).Keeps (Silent nv) := by
  have hread : (readSpaceKernel (recording tlcl)).Keeps (Silent nv) := readSpace_silent F _ _ 3
  apply hread.bind
  intro rsk
  apply (unrecordedQuery_silent (F.getPermissions kernelNvIndex)).bind
  intro perms
  exact (keeps_throw _).ite (keeps_pure _)

theorem respects_untouched {i : UInt32} (hi : i ≠ index) (size : Nat) :
    Respects (recording tlcl) (Untouched nv index) i size where
  clear s := (clear_silent F s).untouched
  read s := (unrecordedQuery_silent (F.read i size) s).untouched
  write rs s := by
    refine ⟨issued_write hi, ?_⟩
    change nv (tlcl.write i (rs.load 0 size) s.tpm).2 index = nv s.tpm index
    by_cases h : (tlcl.write i (rs.load 0 size) s.tpm).1 = 0
    · rw [F.write_ok _ _ _ h, Function.update_of_ne hi.symm]
    · rw [F.write_error _ _ _ h]

omit F in
theorem storedVersion_append {t : T} {data rest : List UInt8} (ho : offset + 4 ≤ data.length)
    (h : nv t index = data ++ rest) :
    storedVersion nv index offset t = le32 (Mem.ofList data) offset := by
  rw [storedVersion, h]
  refine le32_congr fun i hi => ?_
  unfold Mem.ofList
  rw [List.getD_append _ _ _ _ (by omega)]

theorem respects_accounted {size : Nat} (ho : offset + 4 ≤ size) :
    Respects (recording tlcl) (Accounted nv index offset) index size where
  clear s := (clear_silent F s).untouched.accounted
  read s := (unrecordedQuery_silent (F.read index size) s).untouched.accounted
  write rs s := by
    refine ⟨[⟨s.tpm, index, rs.load 0 size⟩], rfl, ?_⟩
    change storedVersion nv index offset (tlcl.write index (rs.load 0 size) s.tpm).2 = _ ∨ _
    by_cases h : (tlcl.write index (rs.load 0 size) s.tpm).1 = 0
    · have hc := (congrFun (F.write_ok _ _ _ h) index).trans (Function.update_self ..)
      have hl : offset + 4 ≤ (rs.load 0 size).length := by
        rw [Mem.length_load]
        exact ho
      exact .inr ⟨_, List.mem_singleton_self _, rfl, (storedVersion_append hl hc).symm⟩
    · exact .inl (storedVersion_congr (congrFun (F.write_error _ _ _ h) _))

end

def kernelVersion (nv : Contents T) (t : T) : UInt32 :=
  storedVersion nv kernelNvIndex kernelVersionsOffset t

section
variable {tlcl : Tlcl T} {nv : Contents T}

theorem kernelVersion_congr {t t' : T} (h : nv t' kernelNvIndex = nv t kernelNvIndex) :
    kernelVersion nv t' = kernelVersion nv t :=
  storedVersion_congr h

variable (F : Faithful tlcl nv)
include F

theorem rollbackKernelRead_ends {t : T}
    (hd : Defined nv kernelNvIndex kernelSpaceSize t) :
    (rollbackKernelRead tlcl).Ends t fun r _ => ∀ v, r = .ok v → v = kernelVersion nv t := by
  refine (readSpace_ends F 3 hd (by decide)).seq (fun _ _ _ v h => by cases h) ?_
  rintro rsk t₁ ⟨-, hr⟩
  have hv : le32 rsk kernelVersionsOffset = kernelVersion nv t :=
    Holds.versions hr (by decide) (by decide)
  refine ends_bind_of_run (fun perms t₂ _ => ?_) fun _ _ _ v h => by cases h
  split_ifs
  · exact ends_throw fun v h => by cases h
  · refine ends_pure fun v h => ?_
    cases h
    exact hv

theorem rollbackKernelWrite_wrote (v : UInt32) {t : T}
    (hd : Defined nv kernelNvIndex kernelSpaceSize t) :
    (rollbackKernelWrite tlcl v).Ends t fun _ t' =>
      Wrote nv kernelNvIndex kernelSpaceSize kernelVersionsOffset v t t' :=
  rewrite_ends F v hd (by decide) (by decide)

theorem readSpace_sealed {index : UInt32} {size : Nat} (hs : 0 < size)
    (rs : Mem) (attempts : Nat) {t : T} (hn : nv t index = (sealSpace size rs).load 0 size)
    (hr : (tlcl.read index size t).1 = 0) :
    (readSpace tlcl index size (attempts + 1)).Ends t fun r _ => ∃ rs', r = .ok rs' := by
  have hq : (query (tlcl.read index size)).Ends t fun r _ =>
      ∃ rs', r = .ok rs' ∧ ∀ j < size, rs' j = sealSpace size rs j := by
    refine ⟨(tlcl.read index size t).2.1, if_pos hr, fun j hj => ?_⟩
    have hl := F.read_ok index size t hr
    rw [hn, List.take_of_length_le (le_of_eq (Mem.length_load _ 0 size))] at hl
    rw [← Mem.ofList_load (tlcl.read index size t).2.1 size j hj, hl, Mem.ofList_load _ size j hj]
  apply Ends.bind
  apply hq.mono
  rintro r t' ⟨rs', rfl, hrs⟩
  have hcrc : rs' (size - 1) = crc8 (rs'.load 0 (size - 1)) := by
    rw [hrs (size - 1) (by omega), sealSpace, Function.update_self]
    congr 1
    refine Mem.load_congr fun j hj => ?_
    rw [Nat.zero_add, hrs j (by omega), sealSpace, Function.update_of_ne (by omega)]
  dsimp only
  rw [if_pos hcrc]
  split_ifs
  · exact ends_pure ⟨_, rfl⟩
  · exact ends_pure ⟨_, rfl⟩

def WriteOf (nv : Contents T) (index : UInt32) (data : List UInt8) (s : Recorded T)
    (w : WriteCommand T) : Prop :=
  w.index = index ∧ w.data = data ∧ nv w.before = nv s.tpm

section
variable {index : UInt32} {data : List UInt8} {s s' s'' : Recorded T}

omit F in
theorem Issued.after_silent (h : Silent nv s s') (h' : Issued (WriteOf nv index data s') s' s'') :
    Issued (WriteOf nv index data s) s s'' :=
  (Issued.of_eq h.writes).trans (h'.mono fun _ hw => ⟨hw.1, hw.2.1, hw.2.2.trans h.same⟩)

theorem write_issued :
    (command ((recording tlcl).write index data)).Ends s fun r s' =>
      Issued (WriteOf nv index data s) s s' ∧
      match r with
      | .ok _ => nv s'.tpm = Function.update (nv s.tpm) index
          (data ++ (nv s.tpm index).drop data.length)
      | .error _ => nv s'.tpm = nv s.tpm := by
  refine ⟨issued_write ⟨rfl, rfl, rfl⟩, ?_⟩
  dsimp only [command, recording]
  split_ifs with h
  · exact F.write_ok index data s.tpm h
  · exact F.write_error index data s.tpm h

theorem safeWrite_issued :
    (safeWrite (recording tlcl) index data).Ends s fun r s' =>
      Issued (WriteOf nv index data s) s s' ∧
      ∀ x, r = .ok x → nv s'.tpm = Function.update (nv s.tpm) index
        (data ++ (nv s.tpm index).drop data.length) := by
  apply Ends.catch
  apply (write_issued F).mono
  rintro r s₁ ⟨h1, hr⟩
  cases r with
  | ok x => exact ⟨h1, fun _ _ => hr⟩
  | error e =>
    dsimp only at hr ⊢
    split_ifs
    · refine ((clear_silent F).ends s₁).seq
        (fun _ _ h2 => ⟨h1.trans (.of_eq h2.writes), fun _ h => by cases h⟩) fun _ s₂ h2 => ?_
      have hs : nv s₂.tpm = nv s.tpm := h2.same.trans hr
      apply (write_issued F).mono
      rintro r s₃ ⟨h3, hr₃⟩
      refine ⟨(h1.trans (.of_eq h2.writes)).trans (h3.mono fun w hw => ⟨hw.1, hw.2.1, hw.2.2.trans hs⟩),
        fun x h => ?_⟩
      cases h
      rw [← hs]
      exact hr₃
    · exact ends_throw ⟨h1, fun _ h => by cases h⟩

theorem writeSpace_issued {size : Nat} (hs : 0 < size) (rs : Mem)
    (hread : ∀ t, Defined nv index size t → (tlcl.read index size t).1 = 0)
    (hd : Defined nv index size s.tpm) :
    (writeSpace (recording tlcl) index size rs).Ends s fun _ s' =>
      Issued (WriteOf nv index ((sealSpace size rs).load 0 size) s) s s' := by
  have hlen : ((sealSpace size rs).load 0 size).length = size := Mem.length_load _ 0 size
  apply Ends.bind
  refine (safeWrite_issued F).seq (fun _ _ h => h.1) ?_
  rintro x s₁ ⟨h1, hr⟩
  have hc : nv s₁.tpm index = (sealSpace size rs).load 0 size := by
    rw [hr x rfl, Function.update_self, hlen, List.drop_eq_nil_of_le (le_of_eq hd), List.append_nil]
  have hd₁ : Defined nv index size s₁.tpm := by
    rw [Defined, hc]
    exact hlen
  have hback : (readSpace (recording tlcl) index size 3).Ends s₁ fun r s' =>
      Silent nv s₁ s' ∧ ∃ rs', r = .ok rs' :=
    ⟨readSpace_silent F index size 3 s₁,
      readSpace_sealed (recording_faithful F) hs rs 2 hc (hread _ hd₁)⟩
  refine Ends.catch (hback.seq ?_ fun _ _ h2 => h1.trans (.of_eq h2.1.writes))
  rintro e s₂ ⟨-, rs', h⟩
  cases h

end

theorem rollbackKernelWrite_issued
    (hread : ∀ t, Defined nv kernelNvIndex kernelSpaceSize t →
      (tlcl.read kernelNvIndex kernelSpaceSize t).1 = 0)
    (v : UInt32) {s : Recorded T} (hd : Defined nv kernelNvIndex kernelSpaceSize s.tpm) :
    (rollbackKernelWrite (recording tlcl) v).Ends s fun _ s' =>
      Issued (fun w => w.index = kernelNvIndex ∧ w.version kernelVersionsOffset = v ∧
        nv w.before = nv s.tpm) s s' := by
  refine ((readSpace_silent F _ _ 3).ends s).seq (fun _ _ h1 => .of_eq h1.writes) fun rsk s₁ h1 => ?_
  have hd₁ : Defined nv kernelNvIndex kernelSpaceSize s₁.tpm := hd.congr h1.same
  have hv : le32 (Mem.ofList ((sealSpace kernelSpaceSize
      (rsk.store kernelVersionsOffset (leBytes32 v))).load 0 kernelSpaceSize)) kernelVersionsOffset = v := by
    have ho : kernelVersionsOffset + 4 < kernelSpaceSize := by decide
    calc _ = le32 (sealSpace kernelSpaceSize (rsk.store kernelVersionsOffset (leBytes32 v)))
          kernelVersionsOffset := le32_congr fun i hi => Mem.ofList_load _ _ _ (by omega)
      _ = le32 (rsk.store kernelVersionsOffset (leBytes32 v)) kernelVersionsOffset :=
          sealSpace_versions _ (by decide) ho
      _ = v := le32_store rsk _ v
  have hissued {s₂ : Recorded T} (h2 : Issued (WriteOf nv kernelNvIndex _ s₁) s₁ s₂) :=
    (h2.after_silent h1).mono (Q := fun w => w.index = kernelNvIndex ∧
      w.version kernelVersionsOffset = v ∧ nv w.before = nv s.tpm)
      fun w hw => ⟨hw.1, by rw [WriteCommand.version, hw.2.1]; exact hv, hw.2.2⟩
  exact (writeSpace_issued F (by decide) _ hread hd₁).seq (fun _ _ h2 => hissued h2) fun _ _ h2 => hissued h2

end

end
end Vboot
