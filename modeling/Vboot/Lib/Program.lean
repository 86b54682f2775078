import Mathlib.Tactic.Common

/-! Programs that call a stateful device and stop at the first error, with the rules by which
what such a program ensures is found from its parts. -/
namespace Vboot.Lib

variable {ε S α β : Type}

/-- The state survives an error. -/
abbrev Program (ε S : Type) := ExceptT ε (StateM S)

/-- A step that is only taken under a condition. -/
def doIf (c : Bool) (x : Program ε S Unit) : Program ε S Unit := if c then x else pure ()

/-- Look at the state. -/
def observe (f : S → α) : Program ε S α := fun s => (.ok (f s), s)

/-- Look at the state and perhaps fail. -/
def inspect (f : S → Except ε α) : Program ε S α := fun s => (f s, s)

/-- Change the state, or fail and leave it alone. -/
def transform (f : S → Except ε S) : Program ε S Unit := fun s => match f s with
  | .ok s' => (.ok (), s')
  | .error e => (.error e, s)

/-- Change the state. -/
def update (f : S → S) : Program ε S Unit := fun s => (.ok (), f s)

/-- Run a program on a part of the state. -/
def zoom {A : Type} (get : S → A) (set : A → S → S) (x : Program ε A α) : Program ε S α := fun s =>
  ((x (get s)).1, set (x (get s)).2 s)

/-- Run a program and look at its result, be it an error or not. -/
def attempt {δ : Type} (x : Program δ S α) : Program ε S (Except δ α) := fun s =>
  (.ok (x s).1, (x s).2)

/-- A check of the state, a program all of whose errors become one, and a check of the state that it leaves. -/
def guarded {δ : Type} (c : S → Except ε Unit) (x : Program δ S Unit) (e : ε) (d : S → Except ε Unit) :
    Program ε S Unit := do
  inspect c
  match ← attempt x with
  | .error _ => throw e
  | .ok _ => inspect d

namespace Program

def Ends (x : Program ε S α) (s : S) (Q : Except ε α → S → Prop) : Prop := Q (x s).1 (x s).2

variable {x : Program ε S α} {s s' s₁ : S} {Q : Except ε β → S → Prop} {a : α} {e : ε}
  {f g : α → Program ε S β} {b : β} {δ : Type}

theorem Ends.mono {Q Q' : Except ε α → S → Prop} (h : x.Ends s Q) (hq : ∀ r s', Q r s' → Q' r s') :
    x.Ends s Q' :=
  hq _ _ h

theorem ends_pure {Q : Except ε α → S → Prop} (h : Q (.ok a) s) : Ends (pure a : Program ε S α) s Q :=
  h

theorem ends_throw {Q : Except ε α → S → Prop} (h : Q (.error e) s) :
    Ends (throw e : Program ε S α) s Q :=
  h

theorem bind_run (x : Program ε S α) (f : α → Program ε S β) (s : S) :
    (x >>= f) s = match x s with
      | (.ok a, s') => f a s'
      | (.error e, s') => (.error e, s') := by
  change (ExceptT.bindCont f (x s).1) (x s).2 = _
  cases x s with
  | mk r s' => cases r <;> rfl

theorem bind_of_ok (h : x s = (.ok a, s₁)) : (x >>= f) s = f a s₁ := by
  rw [bind_run, h]

theorem bind_of_error (h : x s = (.error e, s₁)) : (x >>= f) s = (.error e, s₁) := by
  rw [bind_run, h]

theorem catch_run (x : Program ε S α) (f : ε → Program ε S α) (s : S) :
    (tryCatch x f) s = match x s with
      | (.ok a, s') => (.ok a, s')
      | (.error e, s') => f e s' := by
  change (match (x s).1 with
    | .ok a => (pure (.ok a) : StateM S (Except ε α))
    | .error e => f e) (x s).2 = _
  cases x s with
  | mk r s' => cases r <;> rfl

theorem Ends.bind (h : x.Ends s fun r s' => match r with
      | .ok a => (f a).Ends s' Q
      | .error e => Q (.error e) s') : Ends (x >>= f) s Q := by
  unfold Ends at h ⊢
  rw [bind_run]
  cases hr : x s with
  | mk r s' =>
    rw [hr] at h
    cases r <;> exact h

/-- What the first part ensures, taken apart into its errors and its results. -/
theorem Ends.seq {P : Except ε α → S → Prop} (hx : x.Ends s P)
    (herror : ∀ e s', P (.error e) s' → Q (.error e) s') (hok : ∀ a s', P (.ok a) s' → (f a).Ends s' Q) :
    Ends (x >>= f) s Q := by
  refine Ends.bind (hx.mono fun r s' hr => ?_)
  cases r with
  | error e => exact herror e s' hr
  | ok a => exact hok a s' hr

theorem ends_bind_of_run (hok : ∀ a s', x s = (.ok a, s') → (f a).Ends s' Q)
    (herror : ∀ e s', x s = (.error e, s') → Q (.error e) s') : Ends (x >>= f) s Q := by
  refine Ends.bind ?_
  unfold Ends
  cases hx : x s with
  | mk r s' =>
    cases r with
    | ok a => exact hok a s' hx
    | error e => exact herror e s' hx

theorem ends_inspect_bind {f : S → Except ε α} (hok : ∀ a, f s = .ok a → (g a).Ends s Q)
    (herror : ∀ e, Q (.error e) s) : Ends (inspect f >>= g) s Q := by
  refine Ends.bind ?_
  change match f s with
    | .ok a => (g a).Ends s Q
    | .error e => Q (.error e) s
  cases hf : f s with
  | ok a => exact hok a hf
  | error e => exact herror e

theorem ends_observe_bind {f : S → α} (h : (g (f s)).Ends s Q) : Ends (observe f >>= g) s Q :=
  Ends.bind h

theorem ends_update_bind {f : S → S} {g : Unit → Program ε S β} (h : (g ()).Ends (f s) Q) :
    Ends (update f >>= g) s Q :=
  Ends.bind h

theorem Ends.catch {f : ε → Program ε S α} {Q : Except ε α → S → Prop}
    (h : x.Ends s fun r s' => match r with
      | .ok a => Q (.ok a) s'
      | .error e => (f e).Ends s' Q) : Ends (tryCatch x f) s Q := by
  unfold Ends at h ⊢
  rw [catch_run]
  cases hr : x s with
  | mk r s' =>
    rw [hr] at h
    cases r <;> exact h

/-- Whatever the program does, it leaves a state that is related to the one before. -/
def Keeps (R : S → S → Prop) (x : Program ε S α) : Prop := ∀ s, R s (x s).2

section
variable {R : S → S → Prop}

variable {x : Program ε S α}

theorem Keeps.ends (h : x.Keeps R) (s : S) : x.Ends s fun _ s' => R s s' := h s

theorem Keeps.of_run (h : x.Keeps R) {r : Except ε α} (hx : x s = (r, s')) : R s s' := by
  have hs := h s
  rwa [hx] at hs

theorem Keeps.mono {R' : S → S → Prop} (h : x.Keeps R) (hr : ∀ s s', R s s' → R' s s') : x.Keeps R' :=
  fun s => hr s _ (h s)

theorem keeps_observe [Std.Refl R] (f : S → α) : Keeps R (observe f : Program ε S α) :=
  fun s => refl s

theorem keeps_pure [Std.Refl R] (a : α) : Keeps R (pure a : Program ε S α) := fun s => refl s

theorem keeps_throw [Std.Refl R] (e : ε) : Keeps R (throw e : Program ε S α) := fun s => refl s

variable {f : α → Program ε S β}

theorem Keeps.bind_of_run (hx : x.Keeps R)
    (hf : ∀ s a s', x s = (.ok a, s') → R s (f a s').2) : Keeps R (x >>= f) := fun s =>
  ends_bind_of_run (Q := fun _ s' => R s s') (hf s) fun _ _ h => hx.of_run h

theorem Keeps.bind [IsTrans S R] (hx : x.Keeps R) (hf : ∀ a, (f a).Keeps R) :
    Keeps R (x >>= f) :=
  hx.bind_of_run fun s a s' h => IsTrans.trans s s' _ (hx.of_run h) (hf a s')

theorem Keeps.catch [IsTrans S R] {f : ε → Program ε S α} (hx : x.Keeps R) (hf : ∀ e, (f e).Keeps R) :
    Keeps R (tryCatch x f) := by
  intro s
  change Ends (tryCatch x f) s fun _ s' => R s s'
  apply Ends.catch
  apply (hx.ends s).mono
  intro r s' h
  cases r with
  | ok a => exact h
  | error e => exact IsTrans.trans s s' _ h (hf e s')

theorem Keeps.doIf [Std.Refl R] {c : Bool} {x : Program ε S Unit} (h : x.Keeps R) :
    Keeps R (doIf c x) := by
  cases c with
  | true => exact h
  | false => exact keeps_pure ()

theorem keeps_update {f : S → S} (h : ∀ s, R s (f s)) : Keeps R (update f : Program ε S Unit) := h

theorem keeps_inspect [Std.Refl R] (f : S → Except ε α) : Keeps R (inspect f) := fun s => refl s

theorem keeps_transform [Std.Refl R] {f : S → Except ε S} (h : ∀ s s', f s = .ok s' → R s s') :
    Keeps R (transform f) := by
  intro s
  unfold transform
  cases hf : f s with
  | error e => exact refl s
  | ok s' => exact h s s' hf

theorem Keeps.attempt {x : Program δ S α} (h : x.Keeps R) :
    Keeps R (attempt x : Program ε S (Except δ α)) := h

theorem Keeps.zoom {A : Type} {get : S → A} {set : A → S → S} (x : Program ε A α)
    (h : ∀ a s, R s (set a s)) : Keeps R (zoom get set x) := fun s => h _ s

/-- The relation that keeps a property. -/
def Stable (P : S → Prop) (s s' : S) : Prop := P s → P s'

instance (P : S → Prop) : Std.Refl (Stable P) := ⟨fun _ => id⟩

instance (P : S → Prop) : IsTrans S (Stable P) := ⟨fun _ _ _ h h' hp => h' (h hp)⟩

theorem Keeps.ite {c : Prop} [Decidable c] {y : Program ε S α} (hx : x.Keeps R) (hy : y.Keeps R) :
    Keeps R (if c then x else y) := by
  split_ifs
  · exact hx
  · exact hy

end

theorem bind_ok : (x >>= f) s = (.ok b, s') ↔ ∃ a s₁, x s = (.ok a, s₁) ∧ f a s₁ = (.ok b, s') := by
  rw [bind_run]
  cases x s with
  | mk r s₁ =>
    cases r with
    | ok a =>
      refine ⟨fun h => ⟨a, s₁, rfl, h⟩, ?_⟩
      rintro ⟨a', s₂, h, hf⟩
      cases h
      exact hf
    | error e =>
      refine iff_of_false (fun h => by cases h) ?_
      rintro ⟨_, _, h, -⟩
      cases h

theorem bind_cases {r : Except ε β} (h : (x >>= f) s = (r, s')) :
    (∃ e, r = .error e ∧ x s = (.error e, s')) ∨ ∃ a s₁, x s = (.ok a, s₁) ∧ f a s₁ = (r, s') := by
  rcases hx : x s with ⟨e | a, s₁⟩
  · rw [bind_of_error hx] at h
    cases h
    exact .inl ⟨e, rfl, rfl⟩
  · rw [bind_of_ok hx] at h
    exact .inr ⟨a, s₁, rfl, h⟩

variable {x : Program ε S α}

theorem ok_of_isOk (h : (x s).1.isOk = true) : ∃ a s', x s = (.ok a, s') := by
  cases hx : x s with
  | mk r s' =>
    rw [hx] at h
    cases r with
    | error e => cases h
    | ok a => exact ⟨a, s', rfl⟩

theorem observe_bind (f : S → α) (g : α → Program ε S β) (s : S) : (observe f >>= g) s = g (f s) s := rfl

theorem update_bind (f : S → S) (g : Unit → Program ε S β) (s : S) : (update f >>= g) s = g () (f s) :=
  rfl

theorem doIf_update (c : Bool) (f : S → S) (s : S) :
    doIf c (update f : Program ε S Unit) s = (.ok (), if c then f s else s) := by
  cases c <;> rfl

theorem attempt_bind (x : Program δ S α) (g : Except δ α → Program ε S β) (s : S) :
    (attempt x >>= g) s = g (x s).1 (x s).2 := rfl

theorem attempt_of_run {x : Program δ S α} {r : Except δ α} (h : x s = (r, s')) :
    (attempt x : Program ε S (Except δ α)) s = (.ok r, s') := by
  rw [attempt, h]

@[simp] theorem inspect_ok {f : S → Except ε α} : inspect f s = (.ok a, s') ↔ f s = .ok a ∧ s' = s := by
  exact Prod.ext_iff.trans (and_congr_right fun _ => eq_comm)

theorem inspect_bind_of_ok {f : S → Except ε α} (h : f s = .ok a) : (inspect f >>= g) s = g a s :=
  bind_of_ok (inspect_ok.mpr ⟨h, rfl⟩)

theorem inspect_bind_of_error {f : S → Except ε α} (h : f s = .error e) :
    (inspect f >>= g) s = (.error e, s) :=
  bind_of_error (Prod.ext h rfl)

theorem inspect_bind_ok {f : S → Except ε α} :
    (inspect f >>= g) s = (.ok b, s') ↔ ∃ a, f s = .ok a ∧ g a s = (.ok b, s') := by
  rw [bind_ok]
  refine exists_congr fun a => ⟨?_, fun h => ⟨s, inspect_ok.mpr ⟨h.1, rfl⟩, h.2⟩⟩
  rintro ⟨s₁, hf, hg⟩
  obtain ⟨ha, rfl⟩ := inspect_ok.mp hf
  exact ⟨ha, hg⟩

@[simp] theorem transform_ok {f : S → Except ε S} {u : Unit} :
    transform f s = (.ok u, s') ↔ f s = .ok s' := by
  unfold transform
  cases f s with
  | error e => exact iff_of_false (fun h => by cases h) fun h => by cases h
  | ok s₁ => exact Prod.ext_iff.trans ((and_iff_right rfl).trans ⟨congrArg _, Except.ok.inj⟩)

@[simp] theorem update_ok {f : S → S} {u : Unit} :
    (update f : Program ε S Unit) s = (.ok u, s') ↔ s' = f s :=
  Prod.ext_iff.trans ((and_iff_right rfl).trans eq_comm)

@[simp] theorem pure_ok {b : α} : (pure a : Program ε S α) s = (.ok b, s') ↔ a = b ∧ s' = s := by
  constructor
  · intro h
    cases h
    exact ⟨rfl, rfl⟩
  · rintro ⟨rfl, rfl⟩
    rfl

@[simp] theorem throw_ok : ¬ (throw e : Program ε S α) s = (.ok a, s') := fun h => by cases h

theorem attempt_ok {x : Program δ S α} {f : Except δ α → Program ε S β}
    (hf : ∀ d s b s', ¬ f (.error d) s = (.ok b, s')) :
    (attempt x >>= f) s = (.ok b, s') ↔ ∃ a s₁, x s = (.ok a, s₁) ∧ f (.ok a) s₁ = (.ok b, s') := by
  rw [attempt_bind]
  cases x s with
  | mk r s₁ =>
    cases r with
    | error d =>
      refine iff_of_false (hf d s₁ b s') ?_
      rintro ⟨_, _, h, -⟩
      cases h
    | ok a =>
      refine ⟨fun h => ⟨a, s₁, rfl, h⟩, ?_⟩
      rintro ⟨_, _, ha, h⟩
      cases ha
      exact h

section
variable {c d : S → Except ε Unit} {x : Program δ S Unit}

theorem guarded_of_cases {f : Except δ Unit → Program ε S Unit} (he : ∀ d, f (.error d) = throw e)
    (hd : f (.ok ()) = inspect d) : (inspect c >>= fun _ => attempt x >>= f) = guarded c x e d := by
  refine congrArg (inspect c >>= ·) (funext fun _ => congrArg (attempt x >>= ·) (funext fun r => ?_))
  cases r with
  | error d => exact he d
  | ok _ => exact hd

theorem guarded_state : (guarded c x e d s).2 = match c s with
    | .error _ => s
    | .ok _ => (x s).2 := by
  rw [guarded]
  cases h : c s with
  | error e => rw [inspect_bind_of_error h]
  | ok _ =>
    rw [inspect_bind_of_ok h, attempt_bind]
    cases (x s).1 <;> rfl

theorem guarded_ok : guarded c x e d s = (.ok (), s') ↔ c s = .ok () ∧ x s = (.ok (), s') ∧ d s' = .ok () := by
  rw [guarded, inspect_bind_ok]
  constructor
  · rintro ⟨_, hc, h⟩
    obtain ⟨_, _, hx, h⟩ := (attempt_ok fun _ _ _ _ hx => by cases hx).mp h
    obtain ⟨hd, rfl⟩ := inspect_ok.mp h
    exact ⟨hc, hx, hd⟩
  · rintro ⟨hc, hx, hd⟩
    exact ⟨(), hc, (attempt_ok fun _ _ _ _ hx => by cases hx).mpr ⟨(), s', hx, inspect_ok.mpr ⟨hd, rfl⟩⟩⟩

end

theorem result_ok_iff : (x s).1 = .ok a ↔ ∃ s', x s = (.ok a, s') :=
  ⟨fun h => ⟨(x s).2, Prod.ext h rfl⟩, fun ⟨_, h⟩ => congrArg Prod.fst h⟩

theorem catch_of_ok {f : ε → Program ε S α} (h : x s = (.ok a, s₁)) : tryCatch x f s = (.ok a, s₁) := by
  rw [catch_run, h]

theorem catch_of_error {f : ε → Program ε S α} (h : x s = (.error e, s₁)) : tryCatch x f s = f e s₁ := by
  rw [catch_run, h]

theorem catch_ok {f : ε → Program ε S α} (hf : ∀ e s a s', ¬ f e s = (.ok a, s')) :
    tryCatch x f s = (.ok a, s') ↔ x s = (.ok a, s') := by
  rw [catch_run]
  cases x s with
  | mk r s₁ =>
    cases r with
    | ok a => rfl
    | error e => exact iff_of_false (hf e s₁ a s') fun h => by cases h

/-- Seen through f, the first program does what the second does. -/
def Projects {S' : Type} (f : S → S') (x : Program ε S α) (y : Program ε S' α) : Prop :=
  ∀ s, (x s).1 = (y (f s)).1 ∧ f (x s).2 = (y (f s)).2

section
variable {S' : Type} {f : S → S'}

variable {x : Program ε S α} {y : Program ε S' α}

theorem Projects.of_run (h : Projects f x y) {r : Except ε α} (hx : x s = (r, s')) :
    y (f s) = (r, f s') := by
  obtain ⟨hr, hs⟩ := h s
  rw [hx] at hr hs
  exact Prod.ext hr.symm hs.symm

theorem projects_pure (a : α) : Projects f (pure a : Program ε S α) (pure a) := fun _ => ⟨rfl, rfl⟩

theorem projects_throw (e : ε) : Projects f (throw e : Program ε S α) (throw e) := fun _ => ⟨rfl, rfl⟩

theorem Projects.bind {h : α → Program ε S' β} (hxy : Projects f x y)
    (hg : ∀ a, Projects f (g a) (h a)) : Projects f (x >>= g) (y >>= h) := by
  intro s
  cases hx : x s with
  | mk r s₁ =>
  have hy := hxy.of_run hx
  cases r with
  | error e =>
    rw [bind_of_error hx, bind_of_error hy]
    exact ⟨rfl, rfl⟩
  | ok a =>
    rw [bind_of_ok hx, bind_of_ok hy]
    exact hg a s₁

theorem Projects.catch {g : ε → Program ε S α} {h : ε → Program ε S' α} (hxy : Projects f x y)
    (hg : ∀ e, Projects f (g e) (h e)) : Projects f (tryCatch x g) (tryCatch y h) := by
  intro s
  cases hx : x s with
  | mk r s₁ =>
  have hy := hxy.of_run hx
  cases r with
  | ok a =>
    rw [catch_of_ok hx, catch_of_ok hy]
    exact ⟨rfl, rfl⟩
  | error e =>
    rw [catch_of_error hx, catch_of_error hy]
    exact hg e s₁

theorem Projects.ite {c : Prop} [Decidable c] {x' : Program ε S α} {y' : Program ε S' α}
    (h : Projects f x y) (h' : Projects f x' y') :
    Projects f (if c then x else x') (if c then y else y') := by
  split_ifs
  · exact h
  · exact h'

theorem Projects.doIf {c : Bool} {x : Program ε S Unit} {y : Program ε S' Unit} (h : Projects f x y) :
    Projects f (doIf c x) (doIf c y) := by
  cases c with
  | true => exact h
  | false => exact projects_pure ()

end

end Program
end Vboot.Lib
