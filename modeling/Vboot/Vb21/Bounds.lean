import Vboot.Vb2.Signed
import Vboot.Vb21.Layout

/-! Which bytes the verification of a preamble reads and writes. The signature of the preamble is used
before its fields have been checked. -/
namespace Vboot.Vb21
open Vboot.Lib Vboot.Lib.Program Vboot.Vb2

section
variable (align : UInt32) (hash : Vb2HashAlgorithm → List UInt8 → List UInt8)

def dataFootprint (key : Vb2PublicKey) (wb : Vb2Workbuf) (data : Nat) : List Access :=
  if key.sigAlg = .none then [⟨false, data, (vb2SigSize key.sigAlg key.hashAlg).toNat⟩]
  else if rsaReached align key wb then
    [⟨false, data, (vb2RsaSigSize key.sigAlg).toNat⟩, ⟨true, data, (vb2RsaSigSize key.sigAlg).toNat⟩]
  else []

structure FieldsMatch (key : Vb2PublicKey) (m : Mem) (sig : Nat) : Prop where
  sigAlg : sigAlgCode key.sigAlg = Signature.sigAlg m sig
  hashAlg : hashAlgCode key.hashAlg = Signature.hashAlg m sig
  sigSize : Signature.sigSize m sig = vb2SigSize key.sigAlg key.hashAlg

/-- The digest of the data is made and compared with the signature. -/
structure DigestReached (key : Vb2PublicKey) (wb : Vb2Workbuf) (m : Mem) (size : UInt32) (sig : Nat) : Prop where
  dataSize : Signature.dataSize m sig = size
  space : HasDigestSpace align key.hashAlg wb
  supported : vb2SigSize key.sigAlg key.hashAlg ≠ 0

/-- All bytes of the signature that are used are below the bound: the fields as far as they are read, and
the data if the fields fit the key. -/
structure SignatureBelow (key : Vb2PublicKey) (wb : Vb2Workbuf) (m : Mem) (size : UInt32) (sig bound : Nat) :
    Prop where
  dataSize : sig + 32 ≤ bound
  sigAlg : DigestReached align key wb m size sig → sig + 34 ≤ bound
  hashAlg : DigestReached align key wb m size sig → sigAlgCode key.sigAlg = Signature.sigAlg m sig →
    sig + 36 ≤ bound
  data : DigestReached align key wb m size sig → FieldsMatch key m sig →
    ∀ a ∈ dataFootprint align key (digestWorkbuf align key.hashAlg wb)
      (sig + (Signature.sigOffset m sig).toNat), a.Below bound

variable {align hash} {key : Vb2PublicKey} {wb : Vb2Workbuf} {m : Mem} {sig bound : Nat} {size : UInt32}

section
variable {B : Access → Prop}

theorem rsaInPlace_accesses {data : Nat} {digest : List UInt8} (hn : key.sigAlg ≠ .none) :
    (rsaInPlace align key data digest wb).Accesses B m (∀ a ∈ dataFootprint align key wb data, B a) := by
  unfold rsaInPlace dataFootprint
  rw [if_neg hn]
  split_ifs
  · simp only [List.forall_mem_cons]
    exact accesses_readAt_bind (accesses_writeAt_bind fun _ => accesses_refuse)
  · exact accesses_nil fun _ => rfl

variable (B align key wb) in
/-- The fields of a signature are read one by one and only as long as they match, then the data. -/
def DigestAccesses (m : Mem) (sig : Nat) : Prop :=
  vb2SigSize key.sigAlg key.hashAlg ≠ 0 → B ⟨false, sig + 32, 2⟩ ∧
  (sigAlgCode key.sigAlg = Signature.sigAlg m sig → B ⟨false, sig + 34, 2⟩ ∧
  (hashAlgCode key.hashAlg = Signature.hashAlg m sig → B ⟨false, sig + 24, 4⟩ ∧
  (Signature.sigSize m sig = vb2SigSize key.sigAlg key.hashAlg → B ⟨false, sig + 20, 4⟩ ∧
    ∀ a ∈ dataFootprint align key wb (sig + (Signature.sigOffset m sig).toNat), B a)))

theorem vb2VerifyDigest_accesses (digest : List UInt8) :
    (vb2VerifyDigest align key sig digest wb).Accesses B m (DigestAccesses align key wb B m sig) := by
  refine accesses_refuse_bind Iff.rfl (accesses_readAt_bind ?_)
  refine accesses_refuse_bind not_not (accesses_readAt_bind ?_)
  refine accesses_refuse_bind not_not (accesses_readAt_bind ?_)
  refine accesses_refuse_bind not_not (accesses_readAt_bind ?_)
  split_ifs with hnone
  · simp only [dataFootprint, if_pos hnone, List.forall_mem_cons]
    exact accesses_readAt_bind accesses_refuse
  · exact rsaInPlace_accesses hnone

theorem vb2VerifyData_accesses (hash : Vb2HashAlgorithm → List UInt8 → List UInt8) :
    (vb2VerifyData align hash size sig key wb).Accesses B m (B ⟨false, sig + 28, 4⟩ ∧
      (Signature.dataSize m sig = size → vb2DigestSize key.hashAlg ≠ 0 →
        (vb2WorkbufAlloc align wb (vb2DigestSize key.hashAlg)).1 ≠ none →
        (vb2WorkbufAlloc align (vb2WorkbufAlloc align wb (vb2DigestSize key.hashAlg)).2
          vb2DigestContextSize).1 ≠ none →
        B ⟨false, 0, size.toNat⟩ ∧
        DigestAccesses align key (digestWorkbuf align key.hashAlg wb) B m sig)) := by
  refine accesses_readAt_bind (accesses_refuse_bind not_not ?_)
  refine accesses_refuse_bind Iff.rfl (accesses_refuse_bind Iff.rfl (accesses_refuse_bind Iff.rfl ?_))
  exact accesses_readAt_bind (vb2VerifyDigest_accesses _)

end

theorem DigestReached.digestSize (h : DigestReached align key wb m size sig) :
    vb2DigestSize key.hashAlg ≠ 0 := by
  intro hzero
  apply h.supported
  rw [vb2SigSize, if_pos hzero]

variable (hash : Vb2HashAlgorithm → List UInt8 → List UInt8)

theorem vb2VerifyData_below (hsize : size.toNat ≤ bound) :
    (vb2VerifyData align hash size sig key wb).Accesses (Access.Below bound) m
      (SignatureBelow align key wb m size sig bound) := by
  intro s hs
  obtain ⟨as, has, hiff⟩ := vb2VerifyData_accesses hash s hs
  refine ⟨as, has, hiff.trans ?_⟩
  simp only [DigestAccesses, Access.Below]
  constructor
  · rintro ⟨hfirst, h⟩
    have hrest (hr : DigestReached align key wb m size sig) :=
      (h hr.dataSize hr.digestSize hr.space.1 hr.space.2).2 hr.supported
    refine ⟨by omega, fun hr => ?_, fun hr halg => ?_, fun hr hm => ?_⟩
    · have h34 := (hrest hr).1
      omega
    · have h36 := ((hrest hr).2 halg).1
      omega
    · exact ((((hrest hr).2 hm.sigAlg).2 hm.hashAlg).2 hm.sigSize).2
  · intro h
    have h32 := h.dataSize
    refine ⟨by omega, fun hdata _ h1 h2 => ⟨by omega, fun hs => ?_⟩⟩
    have hr : DigestReached align key wb m size sig := ⟨hdata, ⟨h1, h2⟩, hs⟩
    refine ⟨.inr (h.sigAlg hr), fun halg => ⟨.inr (h.hashAlg hr halg), fun hhash => ⟨by omega, fun hsz => ?_⟩⟩⟩
    exact ⟨by omega, h.data hr ⟨halg, hhash, hsz⟩⟩

theorem signatureBelow_of_ok {lo : Nat} (hsub : Subobject m 0 lo sig) (hok : SignatureOk m sig)
    (hbound : total m 0 ≤ bound) : SignatureBelow align key wb m size sig bound := by
  have hinside := hsub.inside
  have hdesc := hsub.header.desc_le
  rw [Nat.zero_add] at hinside hdesc
  have hstruct := hok.struct
  have hdata := hok.inside
  refine ⟨by omega, fun _ => by omega, fun _ _ => by omega, fun hreach hmatch a ha => ?_⟩
  rw [hmatch.sigSize] at hdata
  -- the size of the signature is that of the key
  have hsize : key.sigAlg ≠ .none → vb2SigSize key.sigAlg key.hashAlg = vb2RsaSigSize key.sigAlg := by
    intro hnone
    have hsupported := hreach.supported
    unfold vb2SigSize at hsupported ⊢
    split_ifs at hsupported ⊢
    · exact absurd rfl hsupported
    · rfl
  unfold dataFootprint at ha
  split_ifs at ha with hnone hreached
  · rw [List.mem_singleton.mp ha]
    right
    dsimp only
    omega
  · rw [hsize hnone] at hdata
    simp only [List.mem_cons, List.not_mem_nil, or_false] at ha
    cases ha with
    | inl h =>
      rw [h]
      right
      dsimp only
      omega
    | inr h =>
      rw [h]
      right
      dsimp only
      omega
  · exact absurd ha List.not_mem_nil

/-- The accesses of a preamble's verification: those before the data is verified are inside the preamble or
its struct, the others exactly if the bytes of the signature are. -/
theorem vb2VerifyFwPreamble_below (hash : Vb2HashAlgorithm → List UInt8 → List UInt8) (fuel : Nat) (m : Mem) :
    (∀ a ∈ (vb2VerifyFwPreamble align hash fuel size key wb ⟨m, []⟩).2.accesses,
      a.Below (max 40 (total m 0))) ↔
    ∀ o, (checkFwPreamble fuel size ⟨m, []⟩).1 = .ok (some o) →
      SignatureBelow align key wb m o o.toNat (max 40 (total m 0)) := by
  have hcheck := @checkFwPreamble_inspects m _ fuel size (Nat.le_max_left 40 _) (Nat.le_max_right 40 (total m 0))
    ⟨m, []⟩ rfl
  cases hx : checkFwPreamble fuel size ⟨m, []⟩ with
  | mk r s₁ =>
  obtain ⟨⟨hmem, as, has, hreads⟩, hresult⟩ := hcheck
  rw [hx] at hmem has hresult
  dsimp only at hmem has
  rw [List.nil_append] at has
  have hfirst : ∀ a ∈ s₁.accesses, a.Below (max 40 (total m 0)) := by
    rw [has]
    exact fun a ha => (hreads a ha).2
  cases r with
  | error e =>
    rw [vb2VerifyFwPreamble, bind_of_error hx]
    exact ⟨fun _ o ho => (by cases ho), fun _ => hfirst⟩
  | ok found =>
    rw [vb2VerifyFwPreamble, bind_of_ok hx]
    cases found with
    | none => exact ⟨fun _ o ho => (by cases ho), fun _ => hfirst⟩
    | some o =>
      obtain ⟨ho, hchecked⟩ := (hresult (some o) rfl).2 o rfl
      have hinside := hchecked.signature.inside
      rw [← ho] at hinside
      have hsize : o.toNat ≤ max 40 (total m 0) :=
        Nat.le_trans (Nat.le_trans (Nat.le_add_right _ _) hinside) (Nat.le_max_right 40 _)
      obtain ⟨bs, hall, hbelow⟩ := (vb2VerifyData_below hash hsize).then (b := some ()) s₁ hmem
      dsimp only at hall ⊢
      rw [hall]
      simp only [List.forall_mem_append]
      constructor
      · rintro ⟨-, hb⟩ p hp
        obtain rfl := Option.some.inj (Except.ok.inj hp)
        exact hbelow.mp hb
      · intro hb
        exact ⟨hfirst, hbelow.mpr (hb o rfl)⟩

theorem vb2VerifyFwPreamble_data {fuel : Nat} {m : Mem}
    {o : UInt32} (hcheck : (checkFwPreamble fuel size ⟨m, []⟩).1 = .ok (some o))
    (hreach : DigestReached align key wb m o o.toNat) (hmatch : FieldsMatch key m o.toNat) {a : Access}
    (ha : a ∈ dataFootprint align key (digestWorkbuf align key.hashAlg wb)
      (o.toNat + (Signature.sigOffset m o.toNat).toNat)) :
    a ∈ (vb2VerifyFwPreamble align hash fuel size key wb ⟨m, []⟩).2.accesses := by
  have hmem := (@checkFwPreamble_inspects m _ fuel size (Nat.le_max_left 40 _) (Nat.le_max_right 40 (total m 0))
    ⟨m, []⟩ rfl).1.mem
  cases hx : checkFwPreamble fuel size ⟨m, []⟩ with
  | mk r s₁ =>
  rw [hx] at hcheck hmem
  dsimp only at hcheck hmem
  obtain ⟨as, hall, hiff⟩ := (vb2VerifyData_accesses hash).then (B := (· ≠ a)) (b := some ()) s₁ hmem
  rw [hcheck] at hx
  rw [vb2VerifyFwPreamble, bind_of_ok hx]
  dsimp only at hall ⊢
  rw [hall]
  refine List.mem_append_right _ (by_contra fun hnot => ?_)
  -- without this access all accesses of the verification differ from it, those to the data too
  obtain ⟨-, h⟩ := hiff.mp fun b hb heq => hnot (heq ▸ hb)
  have hdigest := (h hreach.dataSize hreach.digestSize hreach.space.1 hreach.space.2).2 hreach.supported
  exact (((hdigest.2 hmatch.sigAlg).2 hmatch.hashAlg).2 hmatch.sigSize).2 a ha rfl

/-- The verification of a preamble keeps inside its total size, or inside the struct where that is larger,
exactly if every preamble that gets to the verification of its data has the bytes of its signature inside.
A signature that passes vb2_verify_signature has, but that is not checked. -/
theorem fw_preamble_accesses_iff (align : UInt32) (hash : Vb2HashAlgorithm → List UInt8 → List UInt8)
    (fuel : Nat) (size : UInt32) (key : Vb2PublicKey) (wb : Vb2Workbuf) (m : Mem) :
    ((∀ a ∈ (vb2VerifyFwPreamble align hash fuel size key wb ⟨m, []⟩).2.accesses,
        a.Below (max 40 (total m 0))) ↔
      ∀ o, (checkFwPreamble fuel size ⟨m, []⟩).1 = .ok (some o) →
        SignatureBelow align key wb m o o.toNat (max 40 (total m 0))) ∧
    (SignatureOk m (FwPreamble.sigOffset m).toNat →
      ∀ a ∈ (vb2VerifyFwPreamble align hash fuel size key wb ⟨m, []⟩).2.accesses,
        a.Below (max 40 (total m 0))) := by
  refine ⟨vb2VerifyFwPreamble_below hash fuel m, fun hok => (vb2VerifyFwPreamble_below hash fuel m).mpr ?_⟩
  intro o ho
  have hcheck := @checkFwPreamble_inspects m _ fuel size (Nat.le_max_left 40 _) (Nat.le_max_right 40 (total m 0))
    ⟨m, []⟩ rfl
  obtain ⟨rfl, hchecked⟩ := (hcheck.2 (some o) ho).2 o rfl
  exact signatureBelow_of_ok hchecked.signature hok (Nat.le_max_right 40 _)

end

/- A preamble of 96 bytes without hashes. Its signature declares that its data is 4096 bytes further on. -/
def strayPreamble : List UInt8 :=
  sampleCommon vb2MagicFwPreamble 96 40 ++ leBytes32 0 ++ leBytes32 1 ++ leBytes32 40 ++ leBytes32 0 ++
    leBytes32 0 ++ sampleCommon vb2MagicSignature 56 56 ++ leBytes32 0x1000 ++ leBytes32 128 ++ leBytes32 40 ++
    [2, 0, 1, 0] ++ List.replicate 20 0

/-- The signature is overwritten with its power far outside the preamble. -/
theorem fw_preamble_write_outside : total (Mem.ofList strayPreamble) 0 = 96 ∧
    ⟨true, 4136, 128⟩ ∈ (vb2VerifyFwPreamble 16 sumHash 5 96 Vb2.sampleKey ⟨0x10000, 0x4000⟩
      ⟨Mem.ofList strayPreamble, []⟩).2.accesses := by
  have hcheck : (checkFwPreamble 5 96 ⟨Mem.ofList strayPreamble, []⟩).1 = .ok (some 40) := by decide +kernel
  have hreach : DigestReached 16 Vb2.sampleKey ⟨0x10000, 0x4000⟩ (Mem.ofList strayPreamble) 40 40 :=
    ⟨by decide +kernel, ⟨by decide, by decide⟩, by decide⟩
  have hmatch : FieldsMatch Vb2.sampleKey (Mem.ofList strayPreamble) 40 :=
    ⟨by decide +kernel, by decide +kernel, by decide +kernel⟩
  exact ⟨by decide +kernel, vb2VerifyFwPreamble_data sumHash hcheck hreach hmatch (by decide +kernel)⟩

/-- A preamble that passes is read inside its 192 bytes only. -/
theorem fw_preamble_accesses_sample : ∀ a ∈ (vb2VerifyFwPreamble 16 zeroHash 10 192 hashKey.toVb2PublicKey
    ⟨0x1000, 0x1000⟩ ⟨Mem.ofList sampleFwPreamble, []⟩).2.accesses,
    a.Below (max 40 (total (Mem.ofList sampleFwPreamble) 0)) :=
  (fw_preamble_accesses_iff 16 zeroHash 10 192 hashKey.toVb2PublicKey ⟨0x1000, 0x1000⟩
    (Mem.ofList sampleFwPreamble)).2 ⟨by decide +kernel, by decide +kernel, by decide +kernel⟩

end Vboot.Vb21
