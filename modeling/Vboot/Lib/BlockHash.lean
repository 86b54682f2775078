import Vboot.Lib.Endian

/-! Hash functions that work on blocks: the message is padded, and block after block is mixed into a
chaining value. Fed byte by byte, such a function keeps the bytes of the block that is not yet
full. -/
namespace Vboot.Lib

/-- The padding ends a block, with at least the reserved number of bytes behind its first one. -/
structure BlockHash (C : Type) where
  blockSize : Nat
  reserve : Nat
  init : C
  compress : C → List UInt8 → C
  output : C → List UInt8

namespace BlockHash

variable {C : Type} (H : BlockHash C)

/-- One more byte, for a chaining value and the bytes of the block that is not full. -/
def feed (s : C × List UInt8) (b : UInt8) : C × List UInt8 :=
  if s.2.length + 1 = H.blockSize then (H.compress s.1 (s.2 ++ [b]), []) else (s.1, s.2 ++ [b])

def feeds (s : C × List UInt8) (bs : List UInt8) : C × List UInt8 := bs.foldl H.feed s

/-- The padding of a message of n bytes ends with its length in bits, as a word of 32 bits. -/
def padding (n : Nat) : List UInt8 :=
  0x80 :: (List.replicate ((H.blockSize - (n + 1 + H.reserve) % H.blockSize) % H.blockSize +
    (H.reserve - 4)) 0 ++ bytes32 (UInt32.ofNat (8 * n)))

def hash (msg : List UInt8) : List UInt8 :=
  H.output (H.feeds (H.init, []) (msg ++ H.padding msg.length)).1

variable {H}

theorem feeds_append (s : C × List UInt8) (bs cs : List UInt8) :
    H.feeds s (bs ++ cs) = H.feeds (H.feeds s bs) cs := List.foldl_append

variable {p bs : List UInt8}

theorem feeds_short {c : C} (h : p.length + bs.length < H.blockSize) :
    H.feeds (c, p) bs = (c, p ++ bs) := by
  induction bs generalizing p with
  | nil => rw [List.append_nil]; rfl
  | cons b bs ih =>
    rw [List.length_cons] at h
    have hfeed : H.feed (c, p) b = (c, p ++ [b]) := if_neg (by dsimp only; omega)
    change H.feeds (H.feed (c, p) b) bs = _
    rw [hfeed, ih (by rw [List.length_append, List.length_singleton]; omega), List.append_assoc]
    rfl

theorem feeds_full {c : C} (hbs : bs ≠ []) (h : p.length + bs.length = H.blockSize) :
    H.feeds (c, p) bs = (H.compress c (p ++ bs), []) := by
  obtain ⟨front, b, rfl⟩ : ∃ front b, bs = front ++ [b] :=
    ⟨bs.dropLast, bs.getLast hbs, (List.dropLast_append_getLast hbs).symm⟩
  rw [List.length_append, List.length_singleton] at h
  have hfront : H.feeds (c, p) front = (c, p ++ front) := feeds_short (by omega)
  rw [feeds_append, hfront]
  change H.feed (c, p ++ front) b = _
  rw [feed, if_pos (by dsimp only; rw [List.length_append]; omega), List.append_assoc]

theorem feeds_blocks (hpos : 0 < H.blockSize) {n : Nat} {c : C}
    (h : bs.length = n * H.blockSize) :
    H.feeds (c, []) bs = ((List.range n).foldl (fun c i =>
      H.compress c ((bs.drop (i * H.blockSize)).take H.blockSize)) c, []) := by
  induction n generalizing bs with
  | zero =>
    rw [Nat.zero_mul] at h
    rw [List.length_eq_zero_iff.mp h]
    rfl
  | succ n ih =>
    rw [Nat.succ_mul] at h
    have hfront : (bs.take (n * H.blockSize)).length = n * H.blockSize := by
      rw [List.length_take]
      omega
    have hlast : (bs.drop (n * H.blockSize)).length = H.blockSize := by
      rw [List.length_drop]
      omega
    have hne : bs.drop (n * H.blockSize) ≠ [] := by
      intro hnil
      rw [hnil, List.length_nil] at hlast
      omega
    rw [List.range_succ, List.foldl_append, ← List.take_append_drop (n * H.blockSize) bs,
      feeds_append, ih hfront, feeds_full hne (by rw [List.length_nil, hlast, Nat.zero_add]),
      List.nil_append, List.take_append_drop, List.foldl_cons, List.foldl_nil]
    congr 2
    · refine List.foldl_ext _ _ _ fun c' i hi => congrArg (H.compress c') ?_
      have hi' : (i + 1) * H.blockSize ≤ n * H.blockSize :=
        Nat.mul_le_mul_right _ (List.mem_range.mp hi)
      rw [Nat.succ_mul] at hi'
      rw [List.drop_take, List.take_take, Nat.min_eq_left (by omega)]
    · rw [List.take_of_length_le (le_of_eq hlast)]

variable {s : C × List UInt8}

theorem length_feeds (hpos : 0 < H.blockSize) (hs : s.2.length < H.blockSize)
    (bs : List UInt8) : (H.feeds s bs).2.length = (s.2.length + bs.length) % H.blockSize := by
  induction bs generalizing s with
  | nil => exact (Nat.mod_eq_of_lt hs).symm
  | cons b bs ih =>
    change (H.feeds (H.feed s b) bs).2.length = _
    rw [feed]
    split_ifs with hfull
    · rw [ih (s := (_, [])) hpos, List.length_nil, List.length_cons, ← Nat.add_assoc, Nat.add_right_comm, hfull,
        Nat.add_mod_left, Nat.zero_add]
    · have hlen : (s.2 ++ [b]).length = s.2.length + 1 := List.length_append
      rw [ih (by rw [hlen]; omega), hlen, List.length_cons, Nat.add_assoc, Nat.add_comm 1]

theorem feeds_invariant {P : C → Prop} (hcompress : ∀ c block, P c → P (H.compress c block))
    (hs : P s.1) (bs : List UInt8) : P (H.feeds s bs).1 := by
  induction bs generalizing s with
  | nil => exact hs
  | cons b bs ih =>
    refine ih ?_
    rw [feed]
    split_ifs
    · exact hcompress _ _ hs
    · exact hs

end BlockHash
end Vboot.Lib
