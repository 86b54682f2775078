import Mathlib.Data.Nat.GCD.Basic
import Mathlib.Data.Nat.Prime.Basic
import Mathlib.Tactic.Linarith
import Mathlib.Tactic.Ring
import Vboot.Lib.Mem

/-! The search for the flash map of an image, host/lib/fmap.c: which offsets are looked at, and in
which order. -/
namespace Vboot.Host
open Vboot.Lib

/-- The elements of a list up to the first one with the property, and that one. -/
def scan (p : Nat → Bool) : List Nat → List Nat × Option Nat
  | [] => ([], none)
  | o :: l => if p o then ([o], some o) else (o :: (scan p l).1, (scan p l).2)

section
variable (p : Nat → Bool) (l l' : List Nat)

theorem scan_fst : (scan p l).1.Sublist l := by
  induction l with
  | nil => exact List.Sublist.refl _
  | cons o l ih =>
    rw [scan]
    split_ifs with h
    · exact List.cons_sublist_cons.mpr (List.nil_sublist l)
    · exact List.cons_sublist_cons.mpr ih

theorem scan_snd : (scan p l).2 = l.find? p := by
  induction l with
  | nil => rfl
  | cons o l ih => by_cases h : p o <;> simp [scan, h, ih]

theorem scan_append : scan p (l ++ l') =
    if (scan p l).2.isSome then scan p l else ((scan p l).1 ++ (scan p l').1, (scan p l').2) := by
  induction l with
  | nil => rfl
  | cons o l ih =>
    by_cases h : p o
    · simp [scan, h]
    · by_cases hl : (scan p l).2.isSome <;> simp [scan, h, hl, ih]

end

def fmapSignature : List UInt8 := [0x5f, 0x5f, 0x46, 0x4d, 0x41, 0x50, 0x5f, 0x5f]
def fmapVerMajor : UInt8 := 1
def fmapSearchStride : Nat := 4
def fmapHeaderSize : Nat := 56

def isFmap (buf : Mem) (offset : Nat) : Bool :=
  buf.load offset 8 = fmapSignature && buf (offset + 8) = fmapVerMajor

/-- A value of type ssize_t, or none for an overflow. -/
def ssize (v : Nat) : Option Nat := if v < 2 ^ 63 then some v else none

section
variable (buf : Mem) (lim : Int)

/-- The loop over the offsets: those that were looked at, and the one of a header. -/
def searchOffsets (align : Nat) : Nat → Nat → Option (List Nat × Option Nat)
  | 0, _ => none
  | fuel + 1, offset =>
    if offset ≤ lim then
      if isFmap buf offset then some ([offset], some offset)
      else do
        let (seen, r) ← searchOffsets align fuel (← ssize (offset + align * 2))
        some (offset :: seen, r)
    else some ([], none)

def firstAlign : Nat → Nat → Option Nat
  | 0, _ => none
  | fuel + 1, align => if align ≤ lim then do firstAlign fuel (← ssize (align * 2)) else some align

def searchAligns (rounds : Nat) : Nat → Nat → Option (List Nat × Option Nat)
  | 0, _ => none
  | fuel + 1, align =>
    if fmapSearchStride ≤ align then do
      let (seen, r) ← searchOffsets buf lim align rounds align
      if r.isSome then some (seen, r)
      else do
        let (seen', r') ← searchAligns rounds fuel (align / 2)
        some (seen ++ seen', r')
    else some ([], none)

end

/-- The offset of the header, with all offsets that were looked at. -/
def fmapFind (buf : Mem) (size : Nat) : Option (List Nat × Option Nat) := do
  let lim : Int := size - fmapHeaderSize
  if 0 ≤ lim ∧ isFmap buf 0 then some ([0], some 0)
  else do
    let align ← firstAlign lim (size + 1) fmapSearchStride
    let (seen, r) ← searchAligns buf lim (size + 2) (size + 2) align
    some (if 0 ≤ lim then 0 :: seen else seen, r)

/-- The odd multiples of 2 ^ j up to a limit. -/
def offsets (lim : Int) (j : Nat) : List Nat :=
  List.range' (2 ^ j) ((lim + (2 ^ j : Nat)) / (2 * (2 ^ j : Nat))).toNat (2 * 2 ^ j)

def levels (lim : Int) : Nat → List Nat
  | 0 => []
  | k + 1 => offsets lim (k + 2) ++ levels lim k

/-- All offsets in the order in which they are looked at. -/
def candidates (lim : Int) (k : Nat) : List Nat := if 0 ≤ lim then 0 :: levels lim k else levels lim k

/-- Offset o comes first: a larger power of two divides it, or the same ones do and it is lower. All
powers of two divide 0. -/
def Before (o o' : Nat) : Prop :=
  (∃ a, 2 ^ a ∣ o ∧ ¬ 2 ^ a ∣ o') ∨ (∀ a, 2 ^ a ∣ o ↔ 2 ^ a ∣ o') ∧ o < o'

theorem Before.ne {o o' : Nat} (h : Before o o') : o ≠ o' := by
  rintro rfl
  rcases h with ⟨a, h, hn⟩ | ⟨-, h⟩
  · exact hn h
  · exact absurd h (lt_irrefl o)

variable {buf : Mem} {lim : Int} {j k o : Nat}

theorem two_pow_dvd_odd (a j i : Nat) : 2 ^ a ∣ 2 ^ j * (2 * i + 1) ↔ a ≤ j := by
  have hodd : Nat.Coprime (2 ^ a) (2 * i + 1) :=
    Nat.Coprime.pow_left a (Nat.coprime_two_left.mpr (odd_two_mul_add_one i))
  rw [hodd.dvd_mul_right, Nat.pow_dvd_pow_iff_le_right (by decide)]

theorem odd_multiple_iff : (∃ i, o = 2 ^ j * (2 * i + 1)) ↔ 2 ^ j ∣ o ∧ ¬ 2 ^ (j + 1) ∣ o := by
  constructor
  · rintro ⟨i, rfl⟩
    rw [two_pow_dvd_odd, two_pow_dvd_odd]
    omega
  · rintro ⟨⟨q, rfl⟩, h⟩
    obtain ⟨r, rfl | rfl⟩ := Nat.even_or_odd' q
    · exact absurd ⟨r, by ring⟩ h
    · exact ⟨r, rfl⟩

theorem lt_count {a i : Nat} (ha : 0 < a) :
    i < ((lim + a) / (2 * a)).toNat ↔ ((a + 2 * a * i : Nat) : Int) ≤ lim := by
  have hpos : (0 : Int) < 2 * a := by omega
  rw [Int.lt_toNat, Int.lt_iff_add_one_le, Int.le_ediv_iff_mul_le hpos]
  push_cast
  constructor <;> intro h <;> linarith

theorem mem_offsets : o ∈ offsets lim j ↔ (∃ i, o = 2 ^ j * (2 * i + 1)) ∧ (o : Int) ≤ lim := by
  have he (i : Nat) : 2 ^ j + 2 * 2 ^ j * i = 2 ^ j * (2 * i + 1) := by ring
  have hcount (i : Nat) := @lt_count lim (2 ^ j) i (by positivity)
  rw [offsets, List.mem_range']
  constructor
  · rintro ⟨i, hi, rfl⟩
    exact ⟨⟨i, he i⟩, (hcount i).mp hi⟩
  · rintro ⟨⟨i, rfl⟩, h⟩
    rw [← he] at h ⊢
    exact ⟨i, (hcount i).mpr h, rfl⟩

theorem mem_levels : o ∈ levels lim k ↔ (o : Int) ≤ lim ∧ 4 ∣ o ∧ ¬ 2 ^ (k + 2) ∣ o := by
  induction k with
  | zero => simp [levels]
  | succ k ih =>
    have hup : 2 ^ (k + 2 + 1) ∣ o → 2 ^ (k + 2) ∣ o := (pow_dvd_pow 2 (by omega)).trans
    have hlow : 2 ^ (k + 2) ∣ o → 4 ∣ o := (pow_dvd_pow 2 (by omega : 2 ≤ k + 2)).trans
    rw [levels, List.mem_append, ih, mem_offsets, odd_multiple_iff, Nat.add_right_comm k 1 2]
    by_cases h : 2 ^ (k + 2) ∣ o
    · simp [h, hlow h, and_comm]
    · simp [h, mt hup h]

theorem mem_candidates (hk : lim < (2 ^ (k + 1) : Nat)) : o ∈ candidates lim k ↔ (o : Int) ≤ lim ∧ 4 ∣ o := by
  have hlevels (ho : o ≠ 0) : o ∈ levels lim k ↔ (o : Int) ≤ lim ∧ 4 ∣ o := by
    have hpow : 2 ^ (k + 2) = 2 * 2 ^ (k + 1) := pow_succ' 2 (k + 1)
    rw [mem_levels]
    exact and_congr_right fun h => and_iff_left fun hd => ho (Nat.eq_zero_of_dvd_of_lt hd (by omega))
  by_cases ho : o = 0
  · rw [candidates, ho]
    split_ifs with h <;> simp [mem_levels, h]
  · rw [candidates, ← hlevels ho]
    split_ifs <;> simp [ho]

theorem candidates_pairwise : (candidates lim k).Pairwise Before := by
  have hoffsets (j : Nat) : (offsets lim j).Pairwise Before := by
    have hlt : (offsets lim j).Pairwise (· < ·) := List.pairwise_lt_range' _ (by positivity)
    refine hlt.imp_of_mem fun {o o'} ho ho' hlt => .inr ⟨fun a => ?_, hlt⟩
    obtain ⟨⟨i, rfl⟩, -⟩ := mem_offsets.mp ho
    obtain ⟨⟨i', rfl⟩, -⟩ := mem_offsets.mp ho'
    rw [two_pow_dvd_odd, two_pow_dvd_odd]
  have hlevels : (levels lim k).Pairwise Before := by
    induction k with
    | zero => exact List.Pairwise.nil
    | succ k ih =>
      refine List.pairwise_append.mpr ⟨hoffsets _, ih, fun o ho o' ho' => .inl ⟨k + 2, ?_, (mem_levels.mp ho').2.2⟩⟩
      exact (odd_multiple_iff.mp (mem_offsets.mp ho).1).1
  rw [candidates]
  split_ifs
  · exact List.pairwise_cons.mpr ⟨fun o ho => .inl ⟨k + 2, dvd_zero _, (mem_levels.mp ho).2.2⟩, hlevels⟩
  · exact hlevels

/-! The loops go through these lists. -/

theorem searchOffsets_eq {align fuel n offset : Nat} (hin : ∀ i < n, ((offset + 2 * align * i : Nat) : Int) ≤ lim)
    (hout : lim < (offset + 2 * align * n : Nat)) (hfuel : n < fuel) (hfit : 0 < n → lim + 2 * align < 2 ^ 63) :
    searchOffsets buf lim align fuel offset = some (scan (isFmap buf) (List.range' offset n (2 * align))) := by
  induction n generalizing fuel offset with
  | zero =>
    obtain ⟨fuel, rfl⟩ := Nat.exists_eq_add_of_lt hfuel
    rw [searchOffsets, if_neg (by simpa using hout)]
    rfl
  | succ n ih =>
    obtain ⟨fuel, rfl⟩ : ∃ f, fuel = f + 1 := ⟨fuel - 1, by omega⟩
    have hle : (offset : Int) ≤ lim := by simpa using hin 0 (by omega)
    have hsum := hfit (by omega)
    have hnext : ssize (offset + align * 2) = some (offset + 2 * align) := by
      rw [ssize, if_pos (by omega), Nat.mul_comm align 2]
    have hstep (i : Nat) : offset + 2 * align * (i + 1) = offset + 2 * align + 2 * align * i := by ring
    have hrest := @ih fuel (offset + 2 * align) (fun i hi => hstep i ▸ hin (i + 1) (by omega)) (hstep n ▸ hout)
      (by omega) fun _ => hsum
    rw [searchOffsets, if_pos hle, List.range'_succ, scan, hnext]
    split_ifs
    · rfl
    · simp only [Option.bind_eq_bind, Option.bind_some, hrest]

variable (hlim : lim < 2 ^ 62)
include hlim

theorem firstAlign_eq {n : Nat} (h : lim < (2 ^ (j + n) : Nat)) :
    ∃ k, j ≤ k ∧ k ≤ j + n ∧ firstAlign lim (n + 1) (2 ^ j) = some (2 ^ k) ∧ lim < (2 ^ k : Nat) := by
  induction n generalizing j with
  | zero => exact ⟨j, le_rfl, le_rfl, if_neg (by simpa using h), h⟩
  | succ n ih =>
    by_cases hj : ((2 ^ j : Nat) : Int) ≤ lim
    · have hnext : ssize (2 ^ j * 2) = some (2 ^ (j + 1)) := by rw [ssize, if_pos (by omega), pow_succ]
      obtain ⟨k, hjk, hk, hrun, hlt⟩ := @ih (j + 1) (by rwa [Nat.add_right_comm, Nat.add_assoc])
      refine ⟨k, by omega, by omega, ?_, hlt⟩
      rw [firstAlign, if_pos hj, hnext]
      exact hrun
    · exact ⟨j, le_rfl, by omega, if_neg hj, by omega⟩

theorem searchOffsets_level {rounds : Nat} (hrounds : lim < rounds) (h0 : 0 < rounds) :
    searchOffsets buf lim (2 ^ j) rounds (2 ^ j) = some (scan (isFmap buf) (offsets lim j)) := by
  have hpos : 0 < 2 ^ j := by positivity
  have hcount (i : Nat) := @lt_count lim _ i hpos
  refine searchOffsets_eq (fun i hi => (hcount i).mp hi) ?_ ?_ fun hn => ?_
  · exact not_le.mp (mt (hcount _).mpr (lt_irrefl _))
  · by_contra hge
    have hlast := (hcount (rounds - 1)).mp (by omega)
    have hmul : rounds - 1 ≤ 2 * 2 ^ j * (rounds - 1) := Nat.le_mul_of_pos_left _ (by omega)
    omega
  · have hle := (hcount 0).mp hn
    have hexp : j < 62 := (Nat.pow_lt_pow_iff_right (by decide : 1 < 2)).mp (by omega)
    have hle' : 2 ^ j ≤ 2 ^ 61 := Nat.pow_le_pow_right (by decide) (by omega)
    omega

theorem searchAligns_eq {rounds fuel : Nat} (hrounds : lim < rounds) (h0 : 0 < rounds) (hfuel : k < fuel) :
    searchAligns buf lim rounds fuel (2 ^ (k + 1)) = some (scan (isFmap buf) (levels lim k)) := by
  obtain ⟨fuel, rfl⟩ : ∃ f, fuel = f + 1 := ⟨fuel - 1, by omega⟩
  induction k generalizing fuel with
  | zero => rfl
  | succ k ih =>
    obtain ⟨fuel, rfl⟩ : ∃ f, fuel = f + 1 := ⟨fuel - 1, by omega⟩
    have hle : fmapSearchStride ≤ 2 ^ (k + 2) := Nat.pow_le_pow_right (by decide : 0 < 2) (by omega : 2 ≤ k + 2)
    have hhalf : 2 ^ (k + 2) / 2 = 2 ^ (k + 1) := Nat.mul_div_cancel _ (by decide)
    rw [searchAligns, if_pos hle, searchOffsets_level hlim hrounds h0, hhalf, levels, scan_append]
    simp only [Option.bind_eq_bind, Option.bind_some, ih fuel (by omega)]
    split_ifs <;> rfl

theorem fmapFind_eq {size : Nat} (hsize : lim = size - 56) (buf : Mem) :
    ∃ k, lim < (2 ^ (k + 1) : Nat) ∧ fmapFind buf size = some (scan (isFmap buf) (candidates lim k)) := by
  have hpow : size < 2 ^ (2 + size) := Nat.lt_two_pow_self.trans_le (Nat.pow_le_pow_right (by decide) (by omega))
  obtain ⟨k, hk, hle, halign, hlt⟩ := @firstAlign_eq lim 2 hlim size (by omega)
  obtain ⟨k, rfl⟩ : ∃ k', k = k' + 1 := ⟨k - 1, by omega⟩
  have haligns := @searchAligns_eq buf lim k hlim (size + 2) (size + 2) (by omega) (by omega) (by omega)
  have hstart : firstAlign lim (size + 1) fmapSearchStride = some (2 ^ (k + 1)) := halign
  have hl : (size - fmapHeaderSize : Int) = lim := hsize.symm
  refine ⟨k, hlt, ?_⟩
  simp only [fmapFind, hl, hstart, haligns, Option.bind_eq_bind, Option.bind_some, candidates]
  by_cases h : 0 ≤ lim <;> by_cases h0 : isFmap buf 0 <;> simp [h, h0, scan]

omit hlim

/-- A header of the right version at an offset, inside the buffer. -/
def HeaderAt (buf : Mem) (size o : Nat) : Prop := 4 ∣ o ∧ o + 56 ≤ size ∧ isFmap buf o = true

/-- The search ends without an overflow. It finds a header if there is one, and the first one; it
looks at every offset once, and at none whose header would not be inside the buffer. -/
theorem fmapFind_spec {size : Nat} (hsize : size < 2 ^ 62) (buf : Mem) :
    ∃ seen r, fmapFind buf size = some (seen, r) ∧
      (r ≠ none ↔ ∃ o, HeaderAt buf size o) ∧
      (∀ o, r = some o → HeaderAt buf size o ∧ ∀ o', HeaderAt buf size o' → o' = o ∨ Before o o') ∧
      seen.Nodup ∧ ∀ o ∈ seen, 4 ∣ o ∧ o + 56 ≤ size := by
  obtain ⟨k, hk, hrun⟩ := @fmapFind_eq (size - 56) (by omega) size rfl buf
  have hpair := @candidates_pairwise (size - 56) k
  have hmem (o : Nat) : o ∈ candidates (size - 56) k ↔ 4 ∣ o ∧ o + 56 ≤ size := by
    rw [mem_candidates hk, and_comm]
    exact and_congr_right' (by omega)
  have hheader (o : Nat) : HeaderAt buf size o ↔ o ∈ candidates (size - 56) k ∧ isFmap buf o = true := by
    rw [hmem, and_assoc, HeaderAt]
  refine ⟨_, _, hrun, ?_, fun o ho => ?_, ?_, fun o ho => (hmem o).mp ((scan_fst _ _).subset ho)⟩
  · rw [scan_snd, ← Option.isSome_iff_ne_none, List.find?_isSome]
    exact exists_congr fun o => (hheader o).symm
  · rw [scan_snd, List.find?_eq_some_iff_append] at ho
    obtain ⟨hp, before, after, hlist, hnot⟩ := ho
    refine ⟨(hheader o).mpr ⟨by simp [hlist], hp⟩, fun o' ho' => ?_⟩
    obtain ⟨hin, hp'⟩ := (hheader o').mp ho'
    rw [hlist] at hin hpair
    rcases List.mem_append.mp hin with h | h
    · have hfalse := hnot o' h
      simp [hp'] at hfalse
    · rcases List.mem_cons.mp h with h | h
      · exact .inl h
      · exact .inr (List.rel_of_pairwise_cons (List.pairwise_append.mp hpair).2.1 h)
  · exact (hpair.imp Before.ne).sublist (scan_fst _ _)

def sampleFmap : Mem := Mem.store (fun _ => 0) 24 (fmapSignature ++ [1])

theorem fmapFind_sample : ∃ seen r, fmapFind sampleFmap 80 = some (seen, r) ∧ r ≠ none := by
  obtain ⟨seen, r, hrun, hr, -⟩ := @fmapFind_spec 80 (by decide) sampleFmap
  exact ⟨seen, r, hrun, hr.mpr ⟨24, by decide, by decide, by decide⟩⟩

end Vboot.Host
