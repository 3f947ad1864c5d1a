import NewApi.Machinery.Runs

/-!
# Machinery/Calls — calls in progress over a shared state

A call is a task that is carried out one step at a time; between two steps of one call any others
may be taken.  `perform` is one step of a task: what it does to the shared state, and what is left
of the task.  An environment step changes the shared state alone.

* `Holds` — an invariant of the shared state, and one of every task in it.
* `holds_step` — the proof rule: each step keeps both, for the task it carries out and for all
  others.
* `HoldsApart`, `holdsApart_run` — the rule for tasks that exclude each other.
-/

/-- A shared state and the calls under way on it. -/
structure Calls (σ τ : Type*) where
  shared : σ
  tasks : List τ := []

/-- A call is started, the `k`-th one is taken a step further, or the environment moves. -/
inductive CallOp (ι κ ε : Type*) where
  | start (i : ι)
  | advance (k : ℕ) (c : κ)
  | env (e : ε)

/-- How calls start, how they go on and what else happens. -/
structure CallSystem (σ τ ι κ ε : Type*) where
  init : σ → ι → τ
  perform : σ → τ → κ → σ × Option τ
  env : σ → ε → σ

namespace Calls

open List Option Runs

variable {σ τ ι κ ε : Type*} (S : CallSystem σ τ ι κ ε)

/-- A call begins or goes on, or the surroundings change. -/
def step (w : Calls σ τ) : CallOp ι κ ε → Calls σ τ
  | .start i => { w with tasks := w.tasks ++ [S.init w.shared i] }
  | .advance k c =>
    match w.tasks[k]? with
    | none => w
    | some t =>
      { shared := (S.perform w.shared t c).1
        tasks := w.tasks.eraseIdx k ++ (S.perform w.shared t c).2.toList }
  | .env e => { w with shared := S.env w.shared e }

/-- `I` of the shared state, and `J` of every call. -/
structure Holds (I : σ → Prop) (J : σ → τ → Prop) (w : Calls σ τ) : Prop where
  shared : I w.shared
  tasks : ∀ t ∈ w.tasks, J w.shared t

variable {S} {I : σ → Prop} {J : σ → τ → Prop} {G : Calls σ τ → CallOp ι κ ε → Prop}

section

variable (hstart : ∀ w i, G w (.start i) → Holds I J w → J w.shared (S.init w.shared i))
  (hadvance : ∀ w k c t, G w (.advance k c) → w.tasks[k]? = some t → Holds I J w →
    I (S.perform w.shared t c).1 ∧ (∀ u ∈ w.tasks, J (S.perform w.shared t c).1 u) ∧
      ∀ u ∈ (S.perform w.shared t c).2, J (S.perform w.shared t c).1 u)
  (henv : ∀ w e, G w (.env e) → Holds I J w →
    I (S.env w.shared e) ∧ ∀ u ∈ w.tasks, J (S.env w.shared e) u)

include hstart hadvance henv

/-- **The proof rule for interleaved calls.**  Whatever is done for one call or by the environment
keeps `I`, keeps `J` of the others and leaves `J` of what is left of the call. -/
theorem holds_step : ∀ w op, Holds I J w → G w op → Holds I J (step S w op) := by
  intro w op h hg
  cases op with
  | start i =>
    refine ⟨h.shared, fun t ht => ?_⟩
    obtain ht | ht := mem_append.mp ht
    · exact h.tasks t ht
    · rw [mem_singleton.mp ht]
      exact hstart w i hg h
  | advance k c =>
    rw [step]
    cases hk : w.tasks[k]? with
    | none => exact h
    | some t =>
      obtain ⟨hI, hothers, hrest⟩ := hadvance w k c t hg hk h
      refine ⟨hI, fun u hu => ?_⟩
      obtain hu | hu := mem_append.mp hu
      · exact hothers u (mem_of_mem_eraseIdx hu)
      · exact hrest u (mem_toList.mp hu)
  | env e =>
    obtain ⟨hI, hothers⟩ := henv w e hg h
    exact ⟨hI, hothers⟩

/-- **…and so does every guarded run.** -/
theorem holds_run {w : Calls σ τ} {ops : List (CallOp ι κ ε)} (h : Holds I J w)
    (hg : Runs.Guarded (step S) G w ops) : Holds I J (run (step S) w ops) :=
  invariant (holds_step hstart hadvance henv) h hg

end

/-! ## Tasks that exclude each other -/

/-- `I` of the shared state, `J` of every call, and `P` of any two of them. -/
structure HoldsApart (I : σ → Prop) (J : σ → τ → Prop) (P : τ → τ → Prop) (w : Calls σ τ) : Prop
    extends Holds I J w where
  apart : w.tasks.Pairwise P

variable {P : τ → τ → Prop}

theorem apart_eraseIdx (hsymm : ∀ t u, P t u → P u t) :
    ∀ {l : List τ} {k : ℕ} {t : τ}, l.Pairwise P → l[k]? = some t → ∀ u ∈ l.eraseIdx k, P t u
  | x :: l, 0, t, hp, hk, u, hu => by
    obtain rfl := some.inj hk
    exact rel_of_pairwise_cons hp hu
  | x :: l, k + 1, t, hp, hk, u, hu => by
    obtain rfl | hu := mem_cons.mp hu
    · exact hsymm _ _ (rel_of_pairwise_cons hp (mem_of_getElem? hk))
    · exact apart_eraseIdx hsymm (List.Pairwise.of_cons hp) hk u hu

theorem mem_or_mem_eraseIdx {l : List τ} {k : ℕ} {t u : τ} (hk : l[k]? = some t) (hu : u ∈ l) :
    u = t ∨ u ∈ l.eraseIdx k := by
  obtain ⟨j, hj⟩ := mem_iff_getElem?.mp hu
  by_cases hjk : j = k
  · subst hjk
    exact .inl (some.inj (hj.symm.trans hk))
  · exact .inr (mem_eraseIdx_iff_getElem?.mpr ⟨j, hjk, hj⟩)

theorem pairwise_append_option {l : List τ} {o : Option τ} (hl : l.Pairwise P)
    (ho : ∀ t ∈ o, ∀ u ∈ l, P u t) : (l ++ o.toList).Pairwise P := by
  refine pairwise_append.mpr ⟨hl, ?_, fun u hu t ht => ho t (mem_toList.mp ht) u hu⟩
  cases o with
  | none => exact List.Pairwise.nil
  | some t => exact pairwise_singleton P t

/-- `Q` of the shared state and of the call that is taken a step further. -/
def Allowed (Q : σ → τ → κ → Prop) (w : Calls σ τ) : CallOp ι κ ε → Prop
  | .advance k c => ∀ t ∈ w.tasks[k]?, Q w.shared t c
  | _ => True

instance (Q : σ → τ → κ → Prop) [∀ s t c, Decidable (Q s t c)] (w : Calls σ τ) :
    ∀ op : CallOp ι κ ε, Decidable (Allowed Q w op)
  | .advance k c => inferInstanceAs (Decidable (∀ t ∈ w.tasks[k]?, Q w.shared t c))
  | .start _ => inferInstanceAs (Decidable True)
  | .env _ => inferInstanceAs (Decidable True)

section

variable {Q : σ → τ → κ → Prop} (hsymm : ∀ t u, P t u → P u t)
  (hstart : ∀ s i, I s → J s (S.init s i) ∧ ∀ u, P u (S.init s i))
  (hadvance : ∀ s t c, Q s t c → I s → J s t →
    I (S.perform s t c).1 ∧ (∀ t' ∈ (S.perform s t c).2, J (S.perform s t c).1 t') ∧
      ∀ u, J s u → P t u → J (S.perform s t c).1 u ∧ ∀ t' ∈ (S.perform s t c).2, P u t')
  (henv : ∀ s e, I s → I (S.env s e) ∧ ∀ u, J s u → J (S.env s e) u)

include hsymm hstart hadvance henv

/-- **The proof rule for calls that exclude each other.**  What is done for one call may rely on
every other being apart from it. -/
theorem holdsApart_step :
    ∀ w op, HoldsApart I J P w → Allowed Q w op → HoldsApart I J P (step S w op) := by
  intro w op h hallowed
  cases op with
  | start i =>
    obtain ⟨hJ, hP⟩ := hstart w.shared i h.shared
    refine ⟨⟨h.shared, fun t ht => ?_⟩, ?_⟩
    · obtain ht | ht := mem_append.mp ht
      · exact h.tasks t ht
      · rw [mem_singleton.mp ht]
        exact hJ
    · refine pairwise_append.mpr ⟨h.apart, pairwise_singleton P _, fun u _ t ht => ?_⟩
      rw [mem_singleton.mp ht]
      exact hP u
  | advance k c =>
    rw [step]
    cases hk : w.tasks[k]? with
    | none => exact h
    | some t =>
      obtain ⟨hI, hrest, hothers⟩ :=
        hadvance w.shared t c (hallowed t hk) h.shared (h.tasks t (mem_of_getElem? hk))
      have hother : ∀ u ∈ w.tasks.eraseIdx k, _ := fun u hu =>
        hothers u (h.tasks u (mem_of_mem_eraseIdx hu)) (apart_eraseIdx hsymm h.apart hk u hu)
      refine ⟨⟨hI, fun u hu => ?_⟩, pairwise_append_option
        (h.apart.sublist (eraseIdx_sublist _ _)) fun t' ht' u hu => (hother u hu).2 t' ht'⟩
      obtain hu | hu := mem_append.mp hu
      · exact (hother u hu).1
      · exact hrest u (mem_toList.mp hu)
  | env e =>
    obtain ⟨hI, hothers⟩ := henv w.shared e h.shared
    exact ⟨⟨hI, fun u hu => hothers u (h.tasks u hu)⟩, h.apart⟩

/-- **…and every run that is allowed keeps it.** -/
theorem holdsApart_run {w : Calls σ τ} {ops : List (CallOp ι κ ε)} (h : HoldsApart I J P w)
    (hallowed : Runs.Guarded (step S) (Allowed Q) w ops) :
    HoldsApart I J P (run (step S) w ops) :=
  invariant (holdsApart_step hsymm hstart hadvance henv) h hallowed

end

theorem guarded_allowed {Q : σ → τ → κ → Prop} (hQ : ∀ s t c, Q s t c) (w : Calls σ τ)
    (ops : List (CallOp ι κ ε)) : Runs.Guarded (step S) (Allowed Q) w ops :=
  guarded_of_forall (fun _ op => by
    cases op with
    | advance k c => exact fun t _ => hQ _ t c
    | start i => trivial
    | env e => trivial) w ops

end Calls
