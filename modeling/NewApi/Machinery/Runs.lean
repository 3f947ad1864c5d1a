import Mathlib.Algebra.BigOperators.Group.List.Basic

/-!
# Machinery/Runs — runs of a labelled step function, and what they preserve

A system is a total step function `step : σ → ι → σ`; a run feeds it a list of labels.  A *guard*
`G : σ → ι → Prop` says which labels are admitted in which state, and `Guarded` asks it of every
label of a run, each in the state it is taken in.

* `invariant` — what one admitted step preserves, every guarded run preserves.
* `measure_eq` — a quantity that each step changes by what its label says.
* `simulates` — a step-by-step match with a second system lifts to whole runs.
-/

namespace Runs

open List

variable {σ ι α κ : Type*}

/-- The state a list of labels leads to. -/
def run (step : σ → ι → σ) (s : σ) (cs : List ι) : σ := cs.foldl step s

section

variable (step : σ → ι → σ)

@[simp] theorem run_nil (s : σ) : run step s [] = s := rfl

@[simp] theorem run_cons (s : σ) (c : ι) (cs : List ι) :
    run step s (c :: cs) = run step (step s c) cs := rfl

theorem run_append (s : σ) (cs ds : List ι) :
    run step s (cs ++ ds) = run step (run step s cs) ds := foldl_append

/-- Every label is admitted by `G` in the state it is taken in. -/
def Guarded (G : σ → ι → Prop) : σ → List ι → Prop
  | _, [] => True
  | s, c :: cs => G s c ∧ Guarded G (step s c) cs

instance Guarded.decidable (G : σ → ι → Prop) [∀ s c, Decidable (G s c)] :
    ∀ (s : σ) (cs : List ι), Decidable (Guarded step G s cs)
  | _, [] => inferInstanceAs (Decidable True)
  | s, c :: cs =>
    have := Guarded.decidable G (step s c) cs
    inferInstanceAs (Decidable (G s c ∧ Guarded step G (step s c) cs))

end

variable {step : σ → ι → σ} {G : σ → ι → Prop}

/-- A guard every label meets in every state restricts nothing. -/
theorem guarded_of_forall (h : ∀ s c, G s c) : ∀ (s : σ) (cs : List ι), Guarded step G s cs
  | _, [] => trivial
  | s, c :: cs => ⟨h s c, guarded_of_forall h (step s c) cs⟩

/-- A condition on the labels alone guards the run they make. -/
theorem guarded_of_forall_mem {P : ι → Prop} :
    ∀ {s : σ} {cs : List ι}, (∀ c ∈ cs, P c) → Guarded step (fun _ c => P c) s cs
  | _, [], _ => trivial
  | _, c :: _, h => ⟨h c mem_cons_self,
      guarded_of_forall_mem fun d hd => h d (mem_cons_of_mem c hd)⟩

theorem Guarded.and_of_forall_mem {P : ι → Prop} :
    ∀ {s : σ} {cs : List ι}, Guarded step G s cs → (∀ c ∈ cs, P c) →
      Guarded step (fun s c => G s c ∧ P c) s cs
  | _, [], _, _ => trivial
  | _, c :: _, hg, hP => ⟨⟨hg.1, hP c mem_cons_self⟩,
      hg.2.and_of_forall_mem fun d hd => hP d (mem_cons_of_mem c hd)⟩

/-- **What an admitted step preserves, a guarded run preserves.** -/
theorem invariant {I : σ → Prop} (hstep : ∀ s c, I s → G s c → I (step s c)) :
    ∀ {s : σ} {cs : List ι}, I s → Guarded step G s cs → I (run step s cs) := by
  intro s cs hs hg
  induction cs generalizing s with
  | nil => exact hs
  | cons c cs ih => exact ih (hstep s c hs hg.1) hg.2

/-- …and a property no step can undo is undone by no run. -/
theorem stable {I : σ → Prop} (hstep : ∀ s c, I s → I (step s c)) {s : σ} (hs : I s)
    (cs : List ι) : I (run step s cs) :=
  invariant (G := fun _ _ => True) (fun s c h _ => hstep s c h) hs
    (guarded_of_forall (fun _ _ => trivial) s cs)

/-- **A quantity that each admitted step changes by what its label says** has changed by the sum of
the labels. -/
theorem measure_eq {M : Type*} [AddMonoid M] {f : σ → M} {g : ι → M}
    (hstep : ∀ s c, G s c → f (step s c) = f s + g c) :
    ∀ {s : σ} {cs : List ι}, Guarded step G s cs → f (run step s cs) = f s + (cs.map g).sum := by
  intro s cs hg
  induction cs generalizing s with
  | nil => simp
  | cons c cs ih => rw [run_cons, ih hg.2, hstep s c hg.1, map_cons, sum_cons, add_assoc]

/-- **A step-by-step match lifts to runs**: when every admitted step from related states is
answered by some labels of the second system, so is every guarded run. -/
theorem simulates {astep : α → κ → α} {R : σ → α → Prop}
    (hstep : ∀ s a c, R s a → G s c → ∃ ks, R (step s c) (run astep a ks)) :
    ∀ {s : σ} {a : α} {cs : List ι}, R s a → Guarded step G s cs →
      ∃ ks, R (run step s cs) (run astep a ks) := by
  intro s a cs hR hg
  induction cs generalizing s a with
  | nil => exact ⟨[], hR⟩
  | cons c cs ih =>
    obtain ⟨ks, hks⟩ := hstep s a c hR hg.1
    obtain ⟨ls, hls⟩ := ih hks hg.2
    exact ⟨ks ++ ls, by rw [run_append]; exact hls⟩

end Runs
