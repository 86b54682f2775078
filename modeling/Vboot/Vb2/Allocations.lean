import Vboot.Lib.Run
import Vboot.Vb2.Workbuf

/-! Runs of vb2_workbuf_alloc, vb2_workbuf_realloc and vb2_workbuf_free that are properly nested: the
last allocation is freed first, with the size it was made with. -/
namespace Vboot.Vb2
open Vboot.Lib

/-- An allocation, as its caller sees it. -/
structure Block where
  ptr : UInt64
  size : UInt32
  deriving DecidableEq

namespace Block

def first (b : Block) : Nat := b.ptr.toNat

/-- The end of the bytes that were asked for. -/
def last (b : Block) : Nat := b.ptr.toNat + b.size.toNat

def Apart (a b : Block) : Prop := a.last ≤ b.first ∨ b.last ≤ a.first

end Block

inductive WbCall where
  | alloc (size : UInt32)
  | realloc (newsize : UInt32)
  | free

/-- A work buffer and its live allocations, the last one first. -/
structure Arena where
  wb : Vb2Workbuf
  live : List Block

section
variable (align : UInt32)

def WbCall.grant (s : Arena) : WbCall → Option Block
  | .alloc size => (vb2WorkbufAlloc align s.wb size).1.map (⟨·, size⟩)
  | .realloc newsize => s.live.head?.bind fun b =>
    (vb2WorkbufRealloc align s.wb b.size newsize).1.map (⟨·, newsize⟩)
  | .free => none

/-- The allocations that stay as they are during a call. A failed realloc has freed its block. -/
def WbCall.kept (s : Arena) : WbCall → List Block
  | .alloc _ => s.live
  | .realloc _ | .free => s.live.tail

/-- The work buffer after a call. Without a live allocation there is nothing to free. -/
def WbCall.buffer (s : Arena) : WbCall → Vb2Workbuf
  | .alloc size => (vb2WorkbufAlloc align s.wb size).2
  | .realloc newsize => match s.live with
    | [] => s.wb
    | b :: _ => (vb2WorkbufRealloc align s.wb b.size newsize).2
  | .free => match s.live with
    | [] => s.wb
    | b :: _ => vb2WorkbufFree align s.wb b.size

def Arena.step (s : Arena) (c : WbCall) : Arena := ⟨c.buffer align s, (c.grant align s).toList ++ c.kept s⟩

/-- If the call returns a pointer, its bytes lie inside the buffer and in no other live allocation. -/
def Sound (buf : UInt64) (size : UInt32) (s : Arena) (c : WbCall) : Prop :=
  ∀ b, c.grant align s = some b →
    buf.toNat ≤ b.first ∧ b.last ≤ buf.toNat + size.toNat ∧ ∀ a ∈ c.kept s, a.Apart b

/-- If the call returns a pointer, the size did not wrap when it was rounded up. -/
def Unwrapped (s : Arena) (c : WbCall) : Prop :=
  ∀ b, c.grant align s = some b → b.size.toNat + align.toNat ≤ 2 ^ 32

instance (s : Arena) (c : WbCall) : Decidable (Unwrapped align s c) :=
  decidable_of_iff (∀ b ∈ c.grant align s, b.size.toNat + align.toNat ≤ 2 ^ 32) Iff.rfl

/-- Where the space behind a list of nested allocations begins. -/
def top (start : Nat) : List Block → Nat
  | [] => start
  | b :: _ => b.first + (wbRoundUp align b.size).toNat

/-- Every allocation begins where the one before it ends. -/
def Nested (start : Nat) : List Block → Prop
  | [] => True
  | b :: live => b.first = top align start live ∧ Nested start live

/-- The allocations lie one behind the other, and the work buffer is what is left. -/
structure Stacked (start stop : Nat) (wb : Vb2Workbuf) (live : List Block) : Prop where
  buf : wb.buf.toNat = top align start live
  size : wb.buf.toNat + wb.size.toNat = stop
  nested : Nested align start live
  unwrapped : ∀ b ∈ live, b.size.toNat + align.toNat ≤ 2 ^ 32

end

section
variable {align : UInt32} {start stop : Nat} {wb : Vb2Workbuf} {live : List Block}

theorem Nested.start_le (h : Nested align start live) : start ≤ top align start live := by
  induction live with
  | nil => exact Nat.le_refl start
  | cons b live ih =>
    have hfirst := h.1
    have hle := ih h.2
    exact (hle.trans hfirst.symm.le).trans (Nat.le_add_right _ _)

theorem Nested.last_le (ha : 0 < align.toNat) (h : Nested align start live)
    (hsize : ∀ b ∈ live, b.size.toNat + align.toNat ≤ 2 ^ 32) : ∀ b ∈ live, b.last ≤ top align start live := by
  induction live with
  | nil => simp
  | cons c live ih =>
    intro b hb
    cases List.mem_cons.mp hb with
    | inl he =>
      rw [he]
      exact Nat.add_le_add_left (le_wbRoundUp ha (hsize c List.mem_cons_self)) _
    | inr hrest =>
      have hle := ih h.2 (fun b hb => hsize b (List.mem_cons_of_mem c hb)) b hrest
      exact (hle.trans h.1.symm.le).trans (Nat.le_add_right _ _)

theorem Stacked.alloc (hstop : stop < 2 ^ 64) (h : Stacked align start stop wb live)
    {size : UInt32} {p : UInt64} {wb' : Vb2Workbuf} (halloc : vb2WorkbufAlloc align wb size = (some p, wb'))
    (hsize : size.toNat + align.toNat ≤ 2 ^ 32) : Stacked align start stop wb' (⟨p, size⟩ :: live) := by
  obtain ⟨hle, rfl, rfl⟩ := vb2WorkbufAlloc_ok.mp halloc
  have hle' := UInt32.le_iff_toNat_le.mp hle
  have hend := h.size
  have hbuf := @toNat_add_offset wb.buf (wbRoundUp align size) (by omega)
  have hrest : (wb.size - wbRoundUp align size).toNat = wb.size.toNat - (wbRoundUp align size).toNat :=
    UInt32.toNat_sub_of_le _ _ hle
  refine ⟨hbuf, ?_, ⟨h.buf, h.nested⟩, ?_⟩
  · dsimp only
    omega
  · intro b hb
    cases List.mem_cons.mp hb with
    | inl he => rw [he]; exact hsize
    | inr hrest => exact h.unwrapped b hrest

theorem Stacked.free (hstop : stop ≤ start + 2 ^ 32 - 1) {b : Block} (h : Stacked align start stop wb (b :: live)) :
    Stacked align start stop (vb2WorkbufFree align wb b.size) live := by
  obtain ⟨hfirst, hnested⟩ := h.nested
  have hstart := hnested.start_le
  have hend := h.size
  have htop : wb.buf.toNat = b.first + (wbRoundUp align b.size).toNat := h.buf
  have hround := UInt32.toNat_toUInt64 (wbRoundUp align b.size)
  have hbuf : (wb.buf - (wbRoundUp align b.size).toUInt64).toNat = b.first := by
    rw [UInt64.toNat_sub_of_le _ _ (UInt64.le_iff_toNat_le.mpr (by omega)), hround]
    omega
  have hsize : (wb.size + wbRoundUp align b.size).toNat = wb.size.toNat + (wbRoundUp align b.size).toNat := by
    rw [UInt32.toNat_add, Nat.mod_eq_of_lt (by omega)]
  refine ⟨hbuf.trans hfirst, ?_, hnested, fun c hc => h.unwrapped c (List.mem_cons_of_mem b hc)⟩
  rw [vb2WorkbufFree]
  dsimp only
  omega

section
variable (ha : 0 < align.toNat) (hstop : stop < 2 ^ 64) (h : Stacked align start stop wb live)
  {size : UInt32}
include ha hstop h

theorem Stacked.sound {p : UInt64} {wb' : Vb2Workbuf}
    (halloc : vb2WorkbufAlloc align wb size = (some p, wb')) (hsize : size.toNat + align.toNat ≤ 2 ^ 32) :
    start ≤ (Block.mk p size).first ∧ (Block.mk p size).last ≤ stop ∧
      ∀ a ∈ live, a.Apart ⟨p, size⟩ := by
  have hnext := h.alloc hstop halloc hsize
  have hlast := hnext.nested.last_le ha hnext.unwrapped _ List.mem_cons_self
  have hbuf : p = wb.buf := (vb2WorkbufAlloc_ok.mp halloc).2.1
  have hfirst : (Block.mk p size).first = top align start live := by
    rw [← h.buf, hbuf]
    rfl
  refine ⟨?_, ?_, ?_⟩
  · rw [hfirst]
    exact h.nested.start_le
  · have hend := hnext.size
    rw [← hnext.buf] at hlast
    omega
  · intro a hmem
    refine .inl ?_
    rw [hfirst]
    exact h.nested.last_le ha h.unwrapped a hmem

theorem Stacked.grant
    (hsize : (vb2WorkbufAlloc align wb size).1 ≠ none → size.toNat + align.toNat ≤ 2 ^ 32) :
    Stacked align start stop (vb2WorkbufAlloc align wb size).2
        (((vb2WorkbufAlloc align wb size).1.map (Block.mk · size)).toList ++ live) ∧
      ∀ b, (vb2WorkbufAlloc align wb size).1.map (Block.mk · size) = some b →
        start ≤ b.first ∧ b.last ≤ stop ∧ ∀ a ∈ live, a.Apart b := by
  cases hr : vb2WorkbufAlloc align wb size with
  | mk ptr wb' =>
    cases ptr with
    | none =>
      have hwb : wb' = wb := by
        unfold vb2WorkbufAlloc at hr
        dsimp only at hr
        split_ifs at hr
        · exact (congrArg Prod.snd hr).symm
        · cases hr
      subst hwb
      exact ⟨h, fun b hb => by cases hb⟩
    | some p =>
      have hunwrapped := hsize (by rw [hr]; simp)
      refine ⟨h.alloc hstop hr hunwrapped, fun b hb => ?_⟩
      obtain rfl := Option.some.inj hb
      exact h.sound ha hstop hr hunwrapped

end

theorem Stacked.step {s : Arena} (ha : 0 < align.toNat) (hstop : stop < 2 ^ 64) (hsmall : stop ≤ start + 2 ^ 32 - 1)
    (h : Stacked align start stop s.wb s.live) {c : WbCall} (hc : Unwrapped align s c) :
    Stacked align start stop (s.step align c).wb (s.step align c).live ∧
      ∀ b, c.grant align s = some b → start ≤ b.first ∧ b.last ≤ stop ∧ ∀ a ∈ c.kept s, a.Apart b := by
  obtain ⟨wb, live⟩ := s
  cases c with
  | alloc size =>
    refine h.grant ha hstop fun hne => ?_
    obtain ⟨p, hp⟩ := Option.ne_none_iff_exists'.mp hne
    exact hc ⟨p, size⟩ (by simp [WbCall.grant, hp])
  | free =>
    cases live with
    | nil => exact ⟨h, fun b hb => by cases hb⟩
    | cons b live => exact ⟨h.free hsmall, fun b hb => by cases hb⟩
  | realloc newsize =>
    cases live with
    | nil => exact ⟨h, fun b hb => by cases hb⟩
    | cons b live =>
      refine (h.free hsmall).grant ha hstop fun hne => ?_
      obtain ⟨p, hp⟩ := Option.ne_none_iff_exists'.mp hne
      exact hc ⟨p, newsize⟩ (by simp [WbCall.grant, vb2WorkbufRealloc, hp])

end

/-- Every pointer that a nested run of calls returns is the start of as many bytes as were asked for,
inside the buffer and apart from the live allocations, if no size wraps when it is rounded up. Unless the
buffer is as large as such a size, that is also necessary. -/
theorem workbuf_sound_iff {align : UInt32} (ha : 0 < align.toNat) (buf : UInt64) (size : UInt32)
    (hbuf : buf.toNat + size.toNat < 2 ^ 64) (calls : List WbCall) :
    (Along (Arena.step align) (Unwrapped align) ⟨vb2WorkbufInit align buf size, []⟩ calls →
      Along (Arena.step align) (Sound align buf size) ⟨vb2WorkbufInit align buf size, []⟩ calls) ∧
    (size.toNat + align.toNat ≤ 2 ^ 32 →
      (Along (Arena.step align) (Sound align buf size) ⟨vb2WorkbufInit align buf size, []⟩ calls ↔
        Along (Arena.step align) (Unwrapped align) ⟨vb2WorkbufInit align buf size, []⟩ calls)) := by
  obtain ⟨hstart, hstop⟩ := @vb2WorkbufInit_inside align buf size hbuf
  have hlt := (vb2WorkbufInit align buf size).size.toNat_lt
  generalize vb2WorkbufInit align buf size = wb at *
  have hinit : Stacked align wb.buf.toNat (wb.buf.toNat + wb.size.toNat) wb [] :=
    ⟨rfl, rfl, trivial, by simp⟩
  have hsound : Along (Arena.step align) (Unwrapped align) ⟨wb, []⟩ calls →
      Along (Arena.step align) (Sound align buf size) ⟨wb, []⟩ calls := by
    refine Along.imp (P := fun s => Stacked align wb.buf.toNat (wb.buf.toNat + wb.size.toNat) s.wb s.live)
      (fun s c hs hc => ?_) hinit
    obtain ⟨hnext, hgrant⟩ := hs.step ha (by omega) (by omega) hc
    refine ⟨hnext, fun b hb => ?_⟩
    obtain ⟨hfirst, hlast, hapart⟩ := hgrant b hb
    exact ⟨by omega, by omega, hapart⟩
  refine ⟨hsound, fun hsmall => ⟨?_, hsound⟩⟩
  refine Along.imp (P := fun _ => True) (fun s c _ hc => ⟨trivial, fun b hb => ?_⟩) trivial
  obtain ⟨hfirst, hlast, -⟩ := hc b hb
  simp only [Block.first, Block.last] at hfirst hlast
  omega

theorem workbuf_sound_sample :
    Along (Arena.step 16) (Sound 16 0x1000 256) ⟨vb2WorkbufInit 16 0x1000 256, []⟩
      [.alloc 20, .alloc 30, .realloc 100, .realloc 300, .alloc 64, .free] :=
  (workbuf_sound_iff (by decide) 0x1000 256 (by decide) _).1 (by decide)

/-- A size that wraps is granted without any space. -/
theorem workbuf_wraps :
    (WbCall.alloc 0xfffffff1).grant 16 ⟨vb2WorkbufInit 16 0x1000 256, []⟩ = some ⟨0x1000, 0xfffffff1⟩ ∧
      ¬ Sound 16 0x1000 256 ⟨vb2WorkbufInit 16 0x1000 256, []⟩ (.alloc 0xfffffff1) := by
  have hgrant : (WbCall.alloc 0xfffffff1).grant 16 ⟨vb2WorkbufInit 16 0x1000 256, []⟩ =
      some ⟨0x1000, 0xfffffff1⟩ := by decide
  refine ⟨hgrant, fun h => ?_⟩
  exact absurd (h _ hgrant).2.1 (by decide)

end Vboot.Vb2
