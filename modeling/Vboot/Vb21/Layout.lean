import Vboot.Vb21.Common

/-! Where the objects are in a buffer that the functions of lib21 accept. -/
namespace Vboot.Vb21
open Vboot.Lib Vboot.Lib.Program Vboot.Vb2
open FwPreamble (hashCount hashOffset sigOffset)

section
variable {m : Mem} {bound : Nat}

/- The sizes of an object as numbers. -/
def total (m : Mem) (c : Nat) : Nat := (Common.totalSize m c).toNat
def fixed (m : Mem) (c : Nat) : Nat := (Common.fixedSize m c).toNat
def desc (m : Mem) (c : Nat) : Nat := (Common.descSize m c).toNat

/-- The header of the object is in order, and the object fits in the size. -/
structure HeaderOk (m : Mem) (c size : Nat) : Prop where
  total_le : total m c ≤ size
  desc_le : fixed m c + desc m c ≤ total m c
  fixed_ge : 20 ≤ fixed m c

theorem total_lt (m : Mem) (c : Nat) : total m c < 2 ^ 32 := (Common.totalSize m c).toNat_lt

theorem toNat_add_of_le {a b : UInt32} (h : ¬a + b < a) : (a + b).toNat = a.toNat + b.toNat := by
  rw [UInt32.lt_iff_toNat_lt, UInt32.toNat_add] at h
  rw [UInt32.toNat_add]
  have ha := a.toNat_lt
  have hb := b.toNat_lt
  omega

variable {parent : Nat}

theorem verifyDesc_inspects {t f d : UInt32} (hbound : parent + t.toNat ≤ bound)
    (hf : f.toNat ≤ t.toNat) :
    (verifyDesc parent t f d).Inspects bound m fun _ => f.toNat + d.toNat ≤ t.toNat := by
  unfold verifyDesc
  split_ifs with hd
  · apply inspects_refuse_bind
    intro hwrap
    apply inspects_refuse_bind
    intro hsize
    have hsum := toNat_add_of_le hwrap
    rw [gt_iff_lt, UInt32.lt_iff_toNat_lt, hsum] at hsize
    have hd' := UInt32.lt_iff_toNat_lt.mp hd
    have hlast : (d - 1).toNat = d.toNat - 1 :=
      UInt32.toNat_sub_of_le _ _ (UInt32.le_iff_toNat_le.mpr hd')
    have hzero : (0 : UInt32).toNat = 0 := rfl
    apply inspects_readAt_bind (by omega)
    exact inspects_refuse.mono fun _ _ => by omega
  · apply inspects_pure
    have hd' := UInt32.lt_iff_toNat_lt.not.mp hd
    have hzero : (0 : UInt32).toNat = 0 := rfl
    omega

theorem vb2VerifyCommonHeader_inspects {size : UInt32} (hhead : parent + 20 ≤ bound)
    (hbound : total m parent ≤ size.toNat → parent + total m parent ≤ bound) :
    (vb2VerifyCommonHeader parent size).Inspects bound m fun _ => HeaderOk m parent size.toNat := by
  apply inspects_readAt_bind (by omega)
  apply inspects_refuse_bind
  intro htotal
  apply inspects_readAt_bind (by omega)
  apply inspects_refuse_bind
  intro hfixed
  apply inspects_refuse_bind
  intro _
  apply inspects_refuse_bind
  intro _
  apply inspects_readAt_bind (by omega)
  apply inspects_refuse_bind
  intro _
  rw [UInt32.lt_iff_toNat_lt] at htotal
  simp only [UInt32.lt_iff_toNat_lt, not_or] at hfixed
  have htwenty : (20 : UInt32).toNat = 20 := rfl
  have hfits : total m parent ≤ size.toNat := by
    rw [total]
    omega
  refine (verifyDesc_inspects (hbound hfits) (by omega)).mono fun _ hdesc => ⟨hfits, hdesc, ?_⟩
  rw [fixed]
  omega

def lowest (m : Mem) (parent : Nat) (minOffset : UInt32) : Nat :=
  if minOffset = 0 then fixed m parent + desc m parent else minOffset.toNat

theorem initMinOffset_inspects {parent size : Nat} {minOffset : UInt32} (hhead : parent + 20 ≤ bound)
    (hp : HeaderOk m parent size) :
    (initMinOffset parent minOffset).Inspects bound m fun r => r.toNat = lowest m parent minOffset := by
  unfold initMinOffset lowest
  split_ifs
  · apply inspects_readAt_bind (by omega)
    apply inspects_readAt_bind (by omega)
    apply inspects_pure
    rw [UInt32.toNat_add, Nat.mod_eq_of_lt]
    · rfl
    · exact Nat.lt_of_le_of_lt hp.desc_le (total_lt m parent)
  · exact inspects_pure rfl

theorem vb2VerifyCommonMember_inspects {parent size : Nat} {minOffset offset memberSize : UInt32}
    (hhead : parent + 20 ≤ bound) (hp : HeaderOk m parent size) :
    (vb2VerifyCommonMember parent minOffset offset memberSize).Inspects bound m fun e =>
      lowest m parent minOffset ≤ offset.toNat ∧
      offset.toNat + memberSize.toNat ≤ total m parent ∧
      e.toNat = offset.toNat + memberSize.toNat := by
  apply inspects_refuse_bind
  intro hwrap
  apply inspects_refuse_bind
  intro _
  refine (initMinOffset_inspects hhead hp).bind fun lo hlo => ?_
  apply inspects_refuse_bind
  intro hlow
  apply inspects_readAt_bind (by omega)
  apply inspects_refuse_bind
  intro hend
  apply inspects_pure
  have hsum := toNat_add_of_le hwrap
  rw [UInt32.lt_iff_toNat_lt, hlo] at hlow
  rw [gt_iff_lt, UInt32.lt_iff_toNat_lt, hsum] at hend
  rw [total]
  exact ⟨by omega, by omega, hsum⟩

structure Subobject (m : Mem) (parent lo offset : Nat) : Prop where
  after : lo ≤ offset
  header : HeaderOk m (parent + offset) (total m parent - offset)
  inside : offset + total m (parent + offset) ≤ total m parent

theorem Subobject.size {parent lo offset : Nat} (h : Subobject m parent lo offset) :
    20 ≤ total m (parent + offset) :=
  Nat.le_trans h.header.fixed_ge (Nat.le_trans (Nat.le_add_right _ _) h.header.desc_le)

theorem toNat_rest {offset : UInt32} (h : offset.toNat ≤ total m parent) :
    (Common.totalSize m parent - offset).toNat = total m parent - offset.toNat := by
  rw [UInt32.toNat_sub_of_le _ _ (UInt32.le_iff_toNat_le.mpr h)]
  rfl

variable {minOffset offset : UInt32}

theorem vb2VerifyCommonSubobject_inspects {parent size : Nat}
    (hhead : parent + 20 ≤ bound) (hbound : parent + total m parent ≤ bound)
    (hp : HeaderOk m parent size) :
    (vb2VerifyCommonSubobject parent minOffset offset).Inspects bound m fun e =>
      Subobject m parent (lowest m parent minOffset) offset.toNat ∧
      e.toNat = offset.toNat + total m (parent + offset.toNat) := by
  refine (vb2VerifyCommonMember_inspects hhead hp).bind fun _ hmember => ?_
  obtain ⟨hlow, hroom, -⟩ := hmember
  have htwenty : (20 : UInt32).toNat = 20 := rfl
  rw [htwenty] at hroom
  apply inspects_readAt_bind (by omega)
  have hsub := @toNat_rest m parent offset (by omega)
  refine (vb2VerifyCommonHeader_inspects (by omega) (by rw [hsub]; omega)).bind fun _ hheader => ?_
  rw [hsub] at hheader
  apply inspects_readAt_bind (by omega)
  apply inspects_pure
  have htotal := hheader.total_le
  have hinside : offset.toNat + total m (parent + offset.toNat) ≤ total m parent := by omega
  refine ⟨⟨hlow, hheader, hinside⟩, ?_⟩
  rw [UInt32.toNat_add, Nat.mod_eq_of_lt]
  · rfl
  · exact Nat.lt_of_le_of_lt hinside (total_lt m parent)

/-- A signature whose struct and data are inside it. -/
structure SignatureOk (m : Mem) (sig : Nat) : Prop where
  struct : 56 ≤ fixed m sig
  after : fixed m sig + desc m sig ≤ (Signature.sigOffset m sig).toNat
  inside : (Signature.sigOffset m sig).toNat + (Signature.sigSize m sig).toNat ≤ total m sig

theorem vb2VerifySignature_inspects {sig : Nat} {size : UInt32} (hhead : sig + 20 ≤ bound)
    (hbound : sig + size.toNat ≤ bound) :
    (vb2VerifySignature sig size).Inspects bound m fun _ => SignatureOk m sig := by
  apply inspects_readAt_bind (by omega)
  apply inspects_refuse_bind
  intro _
  refine (vb2VerifyCommonHeader_inspects hhead (by omega)).bind fun _ hheader => ?_
  apply inspects_readAt_bind (by omega)
  apply inspects_refuse_bind
  intro _
  apply inspects_readAt_bind (by omega)
  apply inspects_refuse_bind
  intro hstruct
  rw [UInt32.lt_iff_toNat_lt] at hstruct
  have hfifty : (56 : UInt32).toNat = 56 := rfl
  have hstruct' : 56 ≤ fixed m sig := by
    rw [fixed]
    omega
  -- the struct is inside, so its fields may be read
  have hdesc := hheader.desc_le
  have htotal := hheader.total_le
  apply inspects_readAt_bind (by omega)
  apply inspects_readAt_bind (by omega)
  refine (vb2VerifyCommonMember_inspects hhead hheader).bind fun _ hmember => ?_
  apply inspects_readAt_bind (by omega)
  apply inspects_readAt_bind (by omega)
  apply inspects_refuse_bind
  intro _
  exact inspects_refuse.mono fun _ _ => ⟨hstruct', hmember.1, hmember.2.1⟩

/-- The offsets of n objects, each of which starts where the one before it ends. -/
def entries (m : Mem) : Nat → Nat → List Nat
  | 0, _ => []
  | n + 1, o => o :: entries m n (o + total m o)

/-- Signatures in the buffer, one after the other from the offset lo on. -/
def Placed (m : Mem) : Nat → List Nat → Prop
  | _, [] => True
  | lo, o :: os => Subobject m 0 lo o ∧ SignatureOk m o ∧ Placed m (o + total m o) os

/-- Where objects end that start at lo or later. -/
def ending (m : Mem) : Nat → List Nat → Nat
  | lo, [] => lo
  | _, o :: os => ending m (o + total m o) os

theorem lowest_of_end {parent o : Nat} {e : UInt32} (he : e.toNat = o + total m o) (h : 20 ≤ total m o) :
    lowest m parent e = o + total m o := by
  have hne : e ≠ 0 := by
    rintro rfl
    have hzero : (0 : UInt32).toNat = 0 := rfl
    omega
  rw [lowest, if_neg hne, he]

theorem toNat_succ {i n : UInt32} (h : i < n) : (i + 1).toNat = i.toNat + 1 := by
  have hlt := UInt32.lt_iff_toNat_lt.mp h
  have hn := n.toNat_lt
  have hone : (1 : UInt32).toNat = 1 := rfl
  rw [UInt32.toNat_add, hone]
  omega

variable {size : Nat}

theorem verifyEntry_inspects (hhead : 20 ≤ bound)
    (hbound : total m 0 ≤ bound) (hp : HeaderOk m 0 size) :
    (verifyEntry minOffset offset).Inspects bound m fun e =>
      Subobject m 0 (lowest m 0 minOffset) offset.toNat ∧ SignatureOk m offset.toNat ∧
      e.toNat = offset.toNat + total m offset.toNat := by
  refine (vb2VerifyCommonSubobject_inspects (by omega) (by omega) hp).bind fun e hsub => ?_
  obtain ⟨hsub, he⟩ := hsub
  rw [Nat.zero_add] at he
  have hsize := hsub.size
  have hinside := hsub.inside
  rw [Nat.zero_add] at hsize hinside
  apply inspects_readAt_bind (by omega)
  have hroom := @toNat_rest m 0 offset (by omega)
  refine (vb2VerifySignature_inspects (by omega) (by rw [hroom]; omega)).bind fun _ hsig => ?_
  exact inspects_pure ⟨hsub, hsig, he⟩

/-- The loop over the hashes: with fuel for the whole buffer it ends, whatever the count is, and then all
entries are in place. The induction is on the fuel; the lowest offset rises with every round. -/
theorem hashLoop_inspects {size : Nat} (hhead : 40 ≤ bound) (hbound : total m 0 ≤ bound)
    (hp : HeaderOk m 0 size) (fuel : Nat) {i offset minOffset : UInt32} :
    (hashLoop fuel i offset minOffset).Inspects bound m fun r =>
      (total m 0 < lowest m 0 minOffset + 20 * fuel → lowest m 0 minOffset ≤ total m 0 → r ≠ none) ∧
      ∀ e, r = some e →
        let os := entries m ((hashCount m).toNat - i.toNat) offset.toNat
        Placed m (lowest m 0 minOffset) os ∧ lowest m 0 e = ending m (lowest m 0 minOffset) os := by
  induction fuel generalizing i offset minOffset with
  | zero => exact inspects_pure ⟨fun h h' => by omega, fun e h => by cases h⟩
  | succ fuel ih =>
    apply inspects_readAt_bind (by omega)
    split_ifs with hi
    · refine (verifyEntry_inspects (by omega) hbound hp).bind fun e hentry => ?_
      obtain ⟨hsub, hsig, he⟩ := hentry
      have hsize := hsub.size
      have hafter := hsub.after
      have hinside := hsub.inside
      rw [Nat.zero_add] at hsize hinside
      have hlow : lowest m 0 e = offset.toNat + total m offset.toNat := lowest_of_end he hsize
      have hstruct := hsig.struct
      have hheader := hsub.header.desc_le
      rw [Nat.zero_add] at hheader
      apply inspects_readAt_bind (by omega)
      apply inspects_refuse_bind
      intro _
      refine ih.mono fun r hr => ⟨fun hfuel _ => hr.1 (by omega) (by omega), fun f hf => ?_⟩
      have hcount : (hashCount m).toNat - i.toNat =
          ((hashCount m).toNat - (i + 1).toNat) + 1 := by
        have hlt := UInt32.lt_iff_toNat_lt.mp hi
        rw [toNat_succ hi]
        omega
      obtain ⟨hplaced, hending⟩ := hr.2 f hf
      rw [he, hlow] at hplaced hending
      rw [hcount]
      exact ⟨⟨hsub, hsig, hplaced⟩, hending⟩
    · apply inspects_pure
      refine ⟨fun _ _ => Option.some_ne_none _, fun e he => ?_⟩
      obtain rfl := Option.some.inj he
      have hcount : (hashCount m).toNat - i.toNat = 0 := by
        have hge := UInt32.lt_iff_toNat_lt.not.mp hi
        omega
      rw [hcount]
      exact ⟨trivial, rfl⟩

theorem verifyObjectHeader_inspects {size magic structSize e₁ e₂ e₃ : UInt32} {version : UInt16}
    (hhead : 20 ≤ bound) (hbound : total m 0 ≤ bound) :
    (verifyObjectHeader size magic version structSize e₁ e₂ e₃).Inspects bound m fun _ =>
      HeaderOk m 0 size.toNat ∧ structSize.toNat ≤ fixed m 0 := by
  apply inspects_readAt_bind (by omega)
  apply inspects_refuse_bind
  intro _
  refine (vb2VerifyCommonHeader_inspects (by omega) (by omega)).bind fun _ hp => ?_
  apply inspects_readAt_bind (by omega)
  apply inspects_refuse_bind
  intro _
  apply inspects_readAt_bind (by omega)
  refine inspects_refuse.mono fun _ hstruct => ⟨hp, ?_⟩
  rw [UInt32.lt_iff_toNat_lt] at hstruct
  rw [fixed]
  omega

theorem lowest_zero (m : Mem) (parent : Nat) : lowest m parent 0 = fixed m parent + desc m parent :=
  if_pos rfl

/-- A preamble that gets to the verification of its data. -/
structure PreambleChecked (m : Mem) (size : Nat) : Prop where
  header : HeaderOk m 0 size
  struct : 40 ≤ fixed m 0
  hashes : Placed m (fixed m 0 + desc m 0)
    (entries m (hashCount m).toNat (hashOffset m).toNat)
  signature : Subobject m 0 (ending m (fixed m 0 + desc m 0)
    (entries m (hashCount m).toNat (hashOffset m).toNat)) (sigOffset m).toNat

theorem checkFwPreamble_inspects {fuel : Nat} {size : UInt32} (hhead : 40 ≤ bound)
    (hbound : total m 0 ≤ bound) :
    (checkFwPreamble fuel size).Inspects bound m fun r => (total m 0 < 20 * fuel → r ≠ none) ∧
      ∀ o, r = some o → o = sigOffset m ∧ PreambleChecked m size.toNat := by
  refine (verifyObjectHeader_inspects (by omega) hbound).bind fun _ hp => ?_
  obtain ⟨hp, hstruct⟩ := hp
  have hforty : (40 : UInt32).toNat = 40 := rfl
  rw [hforty] at hstruct
  apply inspects_readAt_bind (by omega)
  refine (hashLoop_inspects hhead hbound hp fuel).bind fun r hr => ?_
  have hzero : (0 : UInt32).toNat = 0 := rfl
  rw [lowest_zero, hzero, Nat.sub_zero] at hr
  have hdesc := hp.desc_le
  cases r with
  | none => exact inspects_pure ⟨fun hfuel => absurd rfl (hr.1 (by omega) hdesc), fun o h => by cases h⟩
  | some e =>
    obtain ⟨hplaced, hending⟩ := hr.2 e rfl
    apply inspects_readAt_bind (by omega)
    refine (vb2VerifyCommonSubobject_inspects (by omega) (by omega) hp).bind fun _ hsub => ?_
    rw [hending] at hsub
    apply inspects_pure
    refine ⟨fun _ => Option.some_ne_none _, fun o ho => ?_⟩
    obtain rfl := Option.some.inj ho
    exact ⟨rfl, hp, hstruct, hplaced, hsub.1⟩

/-- The signatures that the loop over a keyblock looks at: all but the last are of other keys. -/
structure Examined (m : Mem) (id : List UInt8) (start count : Nat) (lo : Nat) (sigs : List Nat) (last : Nat) :
    Prop where
  entries : entries m (sigs.length + 1) start = sigs ++ [last]
  count : sigs.length < count
  placed : Placed m lo (sigs ++ [last])
  others : ∀ o ∈ sigs, Signature.id m o ≠ id
  own : Signature.id m last = id

variable (align : UInt32) (hash : Vb2HashAlgorithm → List UInt8 → List UInt8)

theorem keyblockLoop_returns (key : PublicKey) (wb : Vb2Workbuf) (hp : HeaderOk m 0 size)
    (fuel : Nat) {i offset minOffset : UInt32} :
    (keyblockLoop align hash key wb fuel i offset minOffset).Returns m fun r =>
      (total m 0 < lowest m 0 minOffset + 20 * fuel → lowest m 0 minOffset ≤ total m 0 → r ≠ none) ∧
      ∀ u, r = some u → ∃ sigs last, Examined m key.id offset.toNat
        ((Keyblock.sigCount m).toNat - i.toNat) (lowest m 0 minOffset) sigs last := by
  induction fuel generalizing i offset minOffset with
  | zero => exact returns_pure ⟨fun h h' => by omega, fun u h => by cases h⟩
  | succ fuel ih =>
    apply returns_readAt_bind
    split_ifs with hi
    · -- where the reads are does not matter here
      have hround : (verifyEntry minOffset offset).Inspects (2 ^ 32) m _ :=
        verifyEntry_inspects (by omega) (Nat.le_of_lt (total_lt m 0)) hp
      refine hround.returns_bind fun e hentry => ?_
      obtain ⟨hsub, hsig, he⟩ := hentry
      have hsize := hsub.size
      have hafter := hsub.after
      have hinside := hsub.inside
      rw [Nat.zero_add] at hsize hinside
      have hlow : lowest m 0 e = offset.toNat + total m offset.toNat := lowest_of_end he hsize
      apply returns_readAt_bind
      have hlt := UInt32.lt_iff_toNat_lt.mp hi
      split_ifs with hne
      · intro s hs r hr
        obtain ⟨hfinish, hfound⟩ := ih s hs r hr
        rw [hlow] at hfinish
        refine ⟨fun hfuel _ => hfinish (by omega) (by omega), fun u hu => ?_⟩
        obtain ⟨sigs, last, hex⟩ := hfound u hu
        rw [he, hlow, toNat_succ hi] at hex
        refine ⟨offset.toNat :: sigs, last, ?_, ?_, ⟨hsub, hsig, hex.placed⟩, ?_, hex.own⟩
        · exact congrArg (offset.toNat :: ·) hex.entries
        · have hcount := hex.count
          rw [List.length_cons]
          omega
        · exact List.forall_mem_cons.mpr ⟨hne, hex.others⟩
      · rw [not_not] at hne
        apply returns_readAt_bind
        apply returns_readAt_bind
        apply returns_refuse_bind
        intro _
        refine returns_then ⟨fun _ _ => Option.some_ne_none _, fun u _ => ⟨[], offset.toNat, ?_⟩⟩
        refine ⟨rfl, ?_, ⟨hsub, hsig, trivial⟩, fun o ho => absurd ho List.not_mem_nil, hne⟩
        rw [List.length_nil]
        omega
    · exact returns_throw _

/-- The bytes of an object. -/
def range (m : Mem) (o : Nat) : Nat × Nat := (o, o + total m o)

/-- Ranges that follow each other without an overlap, between lo and hi. -/
structure Laid (lo hi : Nat) (rs : List (Nat × Nat)) : Prop where
  ordered : rs.Pairwise fun a b => a.2 ≤ b.1
  inside : ∀ r ∈ rs, lo ≤ r.1 ∧ r.1 < r.2 ∧ r.2 ≤ hi

theorem Laid.cons {lo mid hi : Nat} {r : Nat × Nat} {rs : List (Nat × Nat)} (h : Laid mid hi rs)
    (hr : lo ≤ r.1 ∧ r.1 < r.2 ∧ r.2 ≤ mid) (hhi : mid ≤ hi) : Laid lo hi (r :: rs) := by
  refine ⟨List.pairwise_cons.mpr ⟨fun b hb => ?_, h.ordered⟩, fun b hb => ?_⟩
  · have hb' := h.inside b hb
    omega
  · cases List.mem_cons.mp hb with
    | inl he =>
      rw [he]
      omega
    | inr hmem =>
      have hb' := h.inside b hmem
      omega

theorem Laid.append {lo mid hi : Nat} {rs rs' : List (Nat × Nat)} (h : Laid lo mid rs) (h' : Laid mid hi rs')
    (hlo : lo ≤ mid) (hhi : mid ≤ hi) : Laid lo hi (rs ++ rs') := by
  refine ⟨List.pairwise_append.mpr ⟨h.ordered, h'.ordered, fun a ha b hb => ?_⟩, fun b hb => ?_⟩
  · have ha' := h.inside a ha
    have hb' := h'.inside b hb
    omega
  · cases List.mem_append.mp hb with
    | inl hmem =>
      have hb' := h.inside b hmem
      omega
    | inr hmem =>
      have hb' := h'.inside b hmem
      omega

theorem Subobject.range {lo o : Nat} (h : Subobject m 0 lo o) :
    lo ≤ (range m o).1 ∧ (range m o).1 < (range m o).2 ∧ (range m o).2 ≤ total m 0 := by
  have hsize := h.size
  have hinside := h.inside
  have hafter := h.after
  rw [Nat.zero_add] at hsize hinside
  unfold Vb21.range
  dsimp only
  omega

section
variable {lo : Nat} {os : List Nat} (h : Placed m lo os)
include h

theorem Placed.ending_bounds (hlo : lo ≤ total m 0) :
    lo ≤ ending m lo os ∧ ending m lo os ≤ total m 0 := by
  induction os generalizing lo with
  | nil => exact ⟨Nat.le_refl lo, hlo⟩
  | cons o os ih =>
    obtain ⟨hsub, -, hrest⟩ := h
    have hrange : lo ≤ o ∧ o < o + total m o ∧ o + total m o ≤ total m 0 := hsub.range
    have hrest' := ih hrest hrange.2.2
    rw [ending]
    omega

theorem Placed.laid (hlo : lo ≤ total m 0) : Laid lo (ending m lo os) (os.map (range m)) := by
  induction os generalizing lo with
  | nil => exact ⟨List.Pairwise.nil, fun r hr => absurd hr List.not_mem_nil⟩
  | cons o os ih =>
    obtain ⟨hsub, -, hrest⟩ := h
    have hrange : lo ≤ o ∧ o < o + total m o ∧ o + total m o ≤ total m 0 := hsub.range
    exact (ih hrest hrange.2.2).cons ⟨hrange.1, hrange.2.1, Nat.le_refl _⟩
      (hrest.ending_bounds hrange.2.2).1

theorem Placed.signatures : ∀ o ∈ os, SignatureOk m o := by
  induction os generalizing lo with
  | nil => exact List.forall_mem_nil _
  | cons o os ih => exact List.forall_mem_cons.mpr ⟨h.2.1, ih h.2.2⟩

end

/-- The layout of an accepted keyblock: the data key, then the signatures that were looked at. -/
structure KeyblockLayout (m : Mem) (id : List UInt8) : Prop where
  struct : 36 ≤ fixed m 0
  layout : ∃ sigs last, Examined m id (Keyblock.sigOffset m).toNat (Keyblock.sigCount m).toNat
      (range m (Keyblock.keyOffset m).toNat).2 sigs last ∧
    (∀ o ∈ sigs ++ [last], SignatureOk m o) ∧
    Laid (fixed m 0 + desc m 0) (total m 0)
      (range m (Keyblock.keyOffset m).toNat :: (sigs ++ [last]).map (range m))
  signed : (range m (Keyblock.keyOffset m).toNat).2 ≤ (Keyblock.sigOffset m).toNat

/-- The layout of an accepted preamble: all hashes, then the signature. -/
structure PreambleLayout (m : Mem) : Prop where
  struct : 40 ≤ fixed m 0
  hashes : ∀ o ∈ entries m (hashCount m).toNat (hashOffset m).toNat, SignatureOk m o
  layout : Laid (fixed m 0 + desc m 0) (total m 0)
    ((entries m (hashCount m).toNat (hashOffset m).toNat).map (range m) ++
      [range m (sigOffset m).toNat])
  signed : ∀ o ∈ entries m (hashCount m).toNat (hashOffset m).toNat,
    (range m o).2 ≤ (sigOffset m).toNat

theorem PreambleChecked.layout (h : PreambleChecked m size) : PreambleLayout m := by
  have hbounds := h.hashes.ending_bounds h.header.desc_le
  have hlaid := h.hashes.laid h.header.desc_le
  have hsig := h.signature.range
  have hlast : Laid (ending m (fixed m 0 + desc m 0)
      (entries m (hashCount m).toNat (hashOffset m).toNat)) (total m 0)
      [range m (sigOffset m).toNat] := by
    refine ⟨List.pairwise_singleton _ _, fun r hr => ?_⟩
    rw [List.mem_singleton.mp hr]
    exact hsig
  refine ⟨h.struct, h.hashes.signatures, hlaid.append hlast hbounds.1 hbounds.2, fun o ho => ?_⟩
  exact Nat.le_trans (hlaid.inside _ (List.mem_map_of_mem ho)).2.2 h.signature.after

theorem vb2VerifyKeyblock_returns (fuel : Nat) (size : UInt32) (key : PublicKey) (wb : Vb2Workbuf) (m : Mem) :
    (vb2VerifyKeyblock align hash fuel size key wb).Returns m fun r =>
      (total m 0 < 20 * fuel → r ≠ none) ∧ ∀ u, r = some u → KeyblockLayout m key.id := by
  have hbound : total m 0 ≤ 2 ^ 32 := Nat.le_of_lt (total_lt m 0)
  refine (verifyObjectHeader_inspects (by omega) hbound).returns_bind fun _ hp => ?_
  obtain ⟨hp, hstruct⟩ := hp
  apply returns_readAt_bind
  have hkey : (vb2VerifyCommonSubobject 0 0 (Keyblock.keyOffset m)).Inspects (2 ^ 32) m _ :=
    vb2VerifyCommonSubobject_inspects (by omega) (by omega) hp
  refine hkey.returns_bind fun e hsub => ?_
  rw [lowest_zero, Nat.zero_add] at hsub
  obtain ⟨hsub, he⟩ := hsub
  have hrange := hsub.range
  have hsize := hsub.size
  rw [Nat.zero_add] at hsize
  have hlow : lowest m 0 e = (range m (Keyblock.keyOffset m).toNat).2 := lowest_of_end he hsize
  apply returns_readAt_bind
  intro s hs r hr
  obtain ⟨hfinish, hfound⟩ := keyblockLoop_returns align hash key wb hp fuel s hs r hr
  have hzero : (0 : UInt32).toNat = 0 := rfl
  rw [hlow] at hfinish
  rw [hlow, hzero, Nat.sub_zero] at hfound
  refine ⟨fun hfuel => hfinish (by omega) hrange.2.2, fun u hu => ?_⟩
  obtain ⟨sigs, last, hex⟩ := hfound u hu
  have hbounds := hex.placed.ending_bounds hrange.2.2
  have hlaid := hex.placed.laid hrange.2.2
  have hall : Laid (range m (Keyblock.keyOffset m).toNat).2 (total m 0) ((sigs ++ [last]).map (range m)) :=
    ⟨hlaid.ordered, fun r hr => by
      have hr' := hlaid.inside r hr
      omega⟩
  refine ⟨hstruct, ⟨sigs, last, hex, hex.placed.signatures,
    hall.cons ⟨hrange.1, hrange.2.1, Nat.le_refl _⟩ hrange.2.2⟩, ?_⟩
  -- the first signature is at the offset that the keyblock gives
  have hplaced := hex.placed
  rw [← hex.entries] at hplaced
  exact hplaced.1.after

theorem vb2VerifyFwPreamble_returns (fuel : Nat) (size : UInt32) (key : Vb2PublicKey) (wb : Vb2Workbuf)
    (m : Mem) : (vb2VerifyFwPreamble align hash fuel size key wb).Returns m fun r =>
      (total m 0 < 20 * fuel → r ≠ none) ∧ ∀ u, r = some u → PreambleLayout m := by
  have hcheck : (checkFwPreamble fuel size).Inspects (2 ^ 32) m _ :=
    checkFwPreamble_inspects (by omega) (Nat.le_of_lt (total_lt m 0))
  refine hcheck.returns_bind fun r hr => ?_
  cases r with
  | none => exact returns_pure ⟨fun hfuel => absurd rfl (hr.1 hfuel), fun u h => by cases h⟩
  | some o => exact returns_then ⟨fun _ => Option.some_ne_none _, fun u _ => (hr.2 o rfl).2.layout⟩

/-- What is accepted has its objects one after the other inside the buffer, with the data key or the hashes
in the part that is signed; and the loops end after as many rounds as objects fit in the buffer, whatever
count it declares. -/
theorem accepted_layout (fuel : Nat) (size : UInt32) (key : PublicKey) (wb : Vb2Workbuf) (m : Mem) :
    ((vb2VerifyKeyblock align hash fuel size key wb ⟨m, []⟩).1 = .ok (some ()) → KeyblockLayout m key.id) ∧
    ((vb2VerifyFwPreamble align hash fuel size key.toVb2PublicKey wb ⟨m, []⟩).1 = .ok (some ()) →
      PreambleLayout m) ∧
    (total m 0 < 20 * fuel →
      (vb2VerifyKeyblock align hash fuel size key wb ⟨m, []⟩).1 ≠ .ok none ∧
      (vb2VerifyFwPreamble align hash fuel size key.toVb2PublicKey wb ⟨m, []⟩).1 ≠ .ok none) := by
  have hk := vb2VerifyKeyblock_returns align hash fuel size key wb m ⟨m, []⟩ rfl
  have hf := vb2VerifyFwPreamble_returns align hash fuel size key.toVb2PublicKey wb m ⟨m, []⟩ rfl
  exact ⟨fun h => (hk _ h).2 () rfl, fun h => (hf _ h).2 () rfl,
    fun hfuel => ⟨fun h => (hk _ h).1 hfuel rfl, fun h => (hf _ h).1 hfuel rfl⟩⟩

end

/- A keyblock and a preamble that are signed with a bare hash. -/
def sampleCommon (magic total fixed : UInt32) : List UInt8 :=
  leBytes32 magic ++ [3, 0, 0, 0] ++ leBytes32 total ++ leBytes32 fixed ++ leBytes32 0

def sampleHash (dataSize : UInt32) : List UInt8 :=
  sampleCommon vb2MagicSignature 76 56 ++ leBytes32 56 ++ leBytes32 20 ++ leBytes32 dataSize ++ [1, 0, 1, 0] ++
    List.replicate 40 0

def sampleBlock : List UInt8 :=
  sampleCommon vb2MagicKeyblock 132 36 ++ leBytes32 0 ++ leBytes32 36 ++ leBytes32 1 ++ leBytes32 56 ++
    sampleCommon 0 20 20 ++ sampleHash 56

def sampleFwPreamble : List UInt8 :=
  sampleCommon vb2MagicFwPreamble 192 40 ++ leBytes32 0 ++ leBytes32 1 ++ leBytes32 116 ++ leBytes32 1 ++
    leBytes32 40 ++ sampleHash 0 ++ sampleHash 116

def hashKey : PublicKey := ⟨⟨0, 0, [], [], .none, .sha1⟩, List.replicate 20 0⟩

def zeroHash (_ : Vb2HashAlgorithm) (_ : List UInt8) : List UInt8 := List.replicate 20 0

theorem accepted_layout_sample : KeyblockLayout (Mem.ofList sampleBlock) hashKey.id ∧
    PreambleLayout (Mem.ofList sampleFwPreamble) := by
  have hblock : (vb2VerifyKeyblock 16 zeroHash 7 132 hashKey ⟨0x1000, 0x1000⟩
      ⟨Mem.ofList sampleBlock, []⟩).1 = .ok (some ()) := by
    decide +kernel
  have hpreamble : (vb2VerifyFwPreamble 16 zeroHash 10 192 hashKey.toVb2PublicKey ⟨0x1000, 0x1000⟩
      ⟨Mem.ofList sampleFwPreamble, []⟩).1 = .ok (some ()) := by
    decide +kernel
  exact ⟨(accepted_layout 16 zeroHash 7 132 hashKey ⟨0x1000, 0x1000⟩ _).1 hblock,
    (accepted_layout 16 zeroHash 10 192 hashKey ⟨0x1000, 0x1000⟩ _).2.1 hpreamble⟩

end Vboot.Vb21
