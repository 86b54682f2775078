import Mathlib.Tactic.Common

/-! Runs of a deterministic machine over a list of inputs: invariants of a whole
run from one step, machines whose observable is a fold over the inputs that had an
effect, budgets that bound the number of events, and logs in which one kind of event comes after
another. -/
namespace Vboot.Lib

variable {S I E V : Type*}

/-- The state after a list of inputs, first input first. -/
def run (step : S → I → S) : S → List I → S
  | s, [] => s
  | s, i :: is => run step (step s i) is

def log (step : S → I → S) (event : S → I → Option E) : S → List I → List E
  | _, [] => []
  | s, i :: is => (event s i).toList ++ log step event (step s i) is

variable (step : S → I → S)

theorem run_append (s : S) (u v : List I) :
    run step s (u ++ v) = run step (run step s u) v := by
  induction u generalizing s with
  | nil => rfl
  | cons i u ih => exact ih (step s i)

theorem log_append (event : S → I → Option E) (s : S) (u v : List I) :
    log step event s (u ++ v) = log step event s u ++ log step event (run step s u) v := by
  induction u generalizing s with
  | nil => rfl
  | cons i u ih => simp [log, run, ih]

variable {step : S → I → S} {event : S → I → Option E}

theorem log_related {T : Type*} {step' : T → I → T} {event' : T → I → Option E} {R : S → T → Prop}
    {P : I → Prop} (hstep : ∀ s t i, R s t → P i → event s i = event' t i ∧ R (step s i) (step' t i))
    {is : List I} (hp : ∀ i ∈ is, P i) {s : S} {t : T} (h : R s t) :
    log step event s is = log step' event' t is ∧ R (run step s is) (run step' t is) := by
  induction is generalizing s t with
  | nil => exact ⟨rfl, h⟩
  | cons i is ih =>
    obtain ⟨he, hr⟩ := hstep s t i h (hp i List.mem_cons_self)
    obtain ⟨hl, hrun⟩ := ih (fun j hj => hp j (List.mem_cons_of_mem i hj)) hr
    exact ⟨by simp [log, he, hl], hrun⟩

variable {Inv : S → Prop}

theorem run_invariant (hstep : ∀ s i, Inv s → Inv (step s i)) (is : List I) (s : S)
    (h : Inv s) : Inv (run step s is) := by
  induction is generalizing s with
  | nil => exact h
  | cons i is ih => exact ih (step s i) (hstep s i h)

/-- If every step of a run keeps an invariant and does not lower the view, the view rises along the run,
and what a step does from the invariant holds of each. -/
theorem run_rises [LE V] [Std.IsPreorder V] {P : S → I → Prop} (view : S → V) {is : List I}
    (hstep : ∀ i ∈ is, ∀ s, Inv s → Inv (step s i) ∧ view s ≤ view (step s i) ∧ P s i) {s : S} (h : Inv s) :
    (∀ u v, is = u ++ v → view (run step s u) ≤ view (run step s is)) ∧
    ∀ u i v, is = u ++ i :: v → P (run step s u) i := by
  induction is generalizing s with
  | nil => simp [run, Std.le_refl]
  | cons j is ih =>
    obtain ⟨hinv, hle, hp⟩ := hstep j List.mem_cons_self s h
    obtain ⟨hrises, hall⟩ := ih (fun i hi => hstep i (List.mem_cons_of_mem j hi)) hinv
    constructor
    · intro u v he
      cases u with
      | nil => exact Std.le_trans hle (hrises [] is rfl)
      | cons i u =>
        obtain ⟨rfl, hrest⟩ := List.cons.inj he
        exact hrises u v hrest
    · intro u i v he
      cases u with
      | nil =>
        obtain ⟨rfl, -⟩ := List.cons.inj he
        exact hp
      | cons k u =>
        obtain ⟨rfl, hrest⟩ := List.cons.inj he
        exact hall u i v hrest

theorem log_invariant {P : E → Prop} (hstep : ∀ s i, Inv s → Inv (step s i))
    (hevent : ∀ s i e, Inv s → event s i = some e → P e) (is : List I) (s : S) (h : Inv s) :
    ∀ e ∈ log step event s is, P e := by
  induction is generalizing s with
  | nil => exact fun _ he => absurd he List.not_mem_nil
  | cons i is ih =>
    intro e he
    rcases List.mem_append.mp he with hi | hrest
    · exact hevent s i e h (Option.mem_toList.mp hi)
    · exact ih (step s i) (hstep s i h) e hrest

theorem run_changes (view : S → V) {is : List I} {s : S} (h : view (run step s is) ≠ view s) :
    ∃ u i v, is = u ++ i :: v ∧ view (step (run step s u) i) ≠ view (run step s u) := by
  induction is generalizing s with
  | nil => exact absurd rfl h
  | cons i is ih =>
    by_cases hi : view (step s i) = view s
    · obtain ⟨u, j, v, he, hj⟩ := ih (s := step s i) fun hr => h (hr.trans hi)
      exact ⟨i :: u, j, v, congrArg (i :: ·) he, hj⟩
    · exact ⟨[], i, is, rfl, hi⟩

/-- If every step acts on a view of the state exactly as its event does, and steps
without an event leave the view alone, then the view after a run is the fold of
the run's log. -/
theorem view_run (view : S → V) (apply : V → E → V)
    (hsome : ∀ s i e, event s i = some e → view (step s i) = apply (view s) e)
    (hnone : ∀ s i, event s i = none → view (step s i) = view s) (is : List I) (s : S) :
    view (run step s is) = (log step event s is).foldl apply (view s) := by
  induction is generalizing s with
  | nil => rfl
  | cons i is ih =>
    cases he : event s i with
    | none => simp [run, log, he, ih, hnone s i he]
    | some e => simp [run, log, he, ih, hsome s i e he]

theorem foldl_update {K D : Type*} [DecidableEq K] (f : V → D → V) (es : List (K × D))
    (v : K → V) (k : K) :
    es.foldl (fun v e => Function.update v e.1 (f (v e.1) e.2)) v k =
      ((es.filter (·.1 = k)).map Prod.snd).foldl f (v k) := by
  induction es generalizing v with
  | nil => rfl
  | cons e es ih =>
    by_cases h : e.1 = k
    · subst k
      simp [ih]
    · simp [ih, h, Function.update_of_ne (Ne.symm h)]

/-- Every input of a run is allowed in the state that it meets. -/
def Along (step : S → I → S) (allowed : S → I → Prop) : S → List I → Prop
  | _, [] => True
  | s, i :: is => allowed s i ∧ Along step allowed (step s i) is

instance Along.decidable {allowed : S → I → Prop} [∀ s i, Decidable (allowed s i)] :
    (s : S) → (is : List I) → Decidable (Along step allowed s is)
  | _, [] => .isTrue trivial
  | s, i :: is => @instDecidableAnd _ _ _ (Along.decidable (step s i) is)

section
variable {step : S → I → S} {allowed : S → I → Prop} {is : List I} {s : S}

theorem Along.and {P : I → Prop} (h : Along step allowed s is)
    (hp : ∀ i ∈ is, P i) : Along step (fun s i => allowed s i ∧ P i) s is := by
  induction is generalizing s with
  | nil => trivial
  | cons i is ih =>
    exact ⟨⟨h.1, hp i List.mem_cons_self⟩, ih h.2 fun j hj => hp j (List.mem_cons_of_mem i hj)⟩

theorem Along.invariant
    (hstep : ∀ s i, Inv s → allowed s i → Inv (step s i)) (h : Inv s)
    (ha : Along step allowed s is) : Inv (run step s is) := by
  induction is generalizing s with
  | nil => exact h
  | cons i is ih => exact ih (hstep s i h ha.1) ha.2

theorem Along.imp {P : S → Prop} {allowed' : S → I → Prop}
    (hstep : ∀ s i, P s → allowed s i → P (step s i) ∧ allowed' s i) (h : P s)
    (ha : Along step allowed s is) : Along step allowed' s is := by
  induction is generalizing s with
  | nil => trivial
  | cons i is ih =>
    obtain ⟨hnext, hi⟩ := hstep s i h ha.1
    exact ⟨hi, ih hnext ha.2⟩

theorem Along.of_append {u v : List I} (h : Along step allowed s (u ++ v)) :
    Along step allowed s u ∧ Along step allowed (run step s u) v := by
  induction u generalizing s with
  | nil => exact ⟨trivial, h⟩
  | cons i u ih => exact ⟨⟨h.1, (ih h.2).1⟩, (ih h.2).2⟩

/-- A run never reaches a state with property P, or there is a last step that does. -/
theorem along_or_last (step : S → I → S) (P : S → Prop) (is : List I) (s : S) :
    Along step (fun s i => ¬ P (step s i)) s is ∨
      ∃ u i v, is = u ++ i :: v ∧ P (run step s (u ++ [i])) ∧
        Along step (fun s i => ¬ P (step s i)) (run step s (u ++ [i])) v := by
  induction is generalizing s with
  | nil => exact .inl trivial
  | cons j is ih =>
    rcases ih (step s j) with hnever | ⟨u, i, v, he, hp, hv⟩
    · by_cases hj : P (step s j)
      · exact .inr ⟨[], j, is, rfl, hj, hnever⟩
      · exact .inl ⟨hj, hnever⟩
    · exact .inr ⟨j :: u, i, v, congrArg (j :: ·) he, hp, hv⟩

/-- The outputs of a machine that may fail, and the state after them. -/
def outputs {T J O : Type*} (step : T → J → Option (O × T)) : T → List J → Option (List O × T)
  | t, [] => some ([], t)
  | t, j :: js => do
    let (o, t) ← step t j
    let (os, t) ← outputs step t js
    return (o :: os, t)

/-- A machine that answers every allowed input as another one does, and stays related to it, answers
every allowed run as that one does. -/
theorem Along.outputs_eq {T J O : Type*} {step' : T → J → Option (O × T)} {R : S → T → Prop} (input : I → J)
    (out : S → O)
    (hstep : ∀ s t i, R s t → allowed s i →
      ∃ t', step' t (input i) = some (out (step s i), t') ∧ R (step s i) t')
    {t : T} (h : R s t) (ha : Along step allowed s is) :
    ∃ t', outputs step' t (is.map input) = some (log step (fun s i => some (out (step s i))) s is, t') ∧
      R (run step s is) t' := by
  induction is generalizing s t with
  | nil => exact ⟨t, rfl, h⟩
  | cons i is ih =>
    obtain ⟨t₁, h₁, hr₁⟩ := hstep s t i h ha.1
    obtain ⟨t₂, h₂, hr₂⟩ := ih hr₁ ha.2
    refine ⟨t₂, ?_, hr₂⟩
    simp [Vboot.Lib.outputs, log, h₁, h₂]

theorem Along.budget {event : S → I → Option E} {Inv : Nat → S → Prop}
    (hstep : ∀ n s i, Inv n s → allowed s i →
      ∃ n', Inv n' (step s i) ∧ n' + (event s i).toList.length ≤ n) {n : Nat}
    (h : Inv n s) (ha : Along step allowed s is) :
    ∃ n', Inv n' (run step s is) ∧ n' + (log step event s is).length ≤ n := by
  induction is generalizing s n with
  | nil => exact ⟨n, h, Nat.le_refl n⟩
  | cons i is ih =>
    obtain ⟨n', hn', hle'⟩ := hstep n s i h ha.1
    obtain ⟨n'', hn'', hle''⟩ := ih hn' ha.2
    refine ⟨n'', hn'', ?_⟩
    simp only [log, List.length_append]
    omega

end

/-- Every event of a log that needs another one finds it earlier in the log. -/
def Preceded (enables needs : E → Prop) (es : List E) : Prop :=
  ∀ u e v, es = u ++ e :: v → needs e → ∃ c ∈ u, enables c

section
variable {enables needs : E → Prop} {es es' : List E}

theorem preceded_of_forall (h : ∀ e ∈ es, ¬needs e) : Preceded enables needs es := by
  intro u e v he hn
  subst he
  exact absurd hn (h e (List.mem_append_right u List.mem_cons_self))

theorem Preceded.append (h : Preceded enables needs es)
    (h' : (∃ c ∈ es, enables c) ∨ Preceded enables needs es') : Preceded enables needs (es ++ es') := by
  intro u e v he hn
  cases List.append_eq_append_iff.mp he with
  | inl hu =>
    -- the event is in the second part
    obtain ⟨w, rfl, hw⟩ := hu
    cases h' with
    | inl hc =>
      obtain ⟨c, hmem, hc⟩ := hc
      exact ⟨c, List.mem_append_left w hmem, hc⟩
    | inr h' =>
      obtain ⟨c, hmem, hc⟩ := h' w e v hw hn
      exact ⟨c, List.mem_append_right es hmem, hc⟩
  | inr hu =>
    obtain ⟨w, hw, hv⟩ := hu
    cases w with
    | nil =>
      -- the event is the first of the second part
      rw [List.append_nil] at hw
      rw [← hw]
      cases h' with
      | inl hc => exact hc
      | inr h' =>
        obtain ⟨c, hmem, -⟩ := h' [] e v hv.symm hn
        cases hmem
    | cons d w =>
      obtain ⟨rfl, -⟩ := List.cons.inj hv
      exact h u e w hw hn

end
end Vboot.Lib
