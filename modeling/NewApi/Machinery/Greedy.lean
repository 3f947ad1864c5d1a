import Mathlib.Data.List.Perm.Subperm

/-!
# Machinery/Greedy — admitting candidates one by one

A candidate is admitted when it fits with those admitted before.  `Hereditary`: what fits together
fits in part, in any order.

* `admitAll_eq_append` — candidates that fit all together are all admitted.
* `admitAll_mem_or` — one that is not admitted does not fit with the outcome.
-/

namespace Greedy

open List

variable {α : Type*} (fits : List α → Bool)

/-- The candidate is accepted if all fit together. -/
def offer (accepted : List α) (a : α) : List α :=
  if fits (accepted ++ [a]) then accepted ++ [a] else accepted

/-- Candidates are offered in order. -/
def admitAll (accepted candidates : List α) : List α := candidates.foldl (offer fits) accepted

/-- What fits still fits with fewer. -/
def Hereditary : Prop := ∀ ⦃l l' : List α⦄, l.Subperm l' → fits l' = true → fits l = true

variable {fits} {accepted candidates : List α} {a : α}

theorem admitAll_append (cs ds : List α) :
    admitAll fits accepted (cs ++ ds) = admitAll fits (admitAll fits accepted cs) ds :=
  foldl_append

theorem fits_admitAll (h : fits accepted = true) : fits (admitAll fits accepted candidates) := by
  induction candidates generalizing accepted with
  | nil => exact h
  | cons c cs ih =>
    refine ih ?_
    rw [offer]
    split_ifs with hc
    · exact hc
    · exact h

/-- Nothing that was admitted is dropped, and nothing else than candidates is added. -/
theorem admitAll_extends : ∃ added : List α, admitAll fits accepted candidates = accepted ++ added ∧
    added.Sublist candidates := by
  induction candidates generalizing accepted with
  | nil => exact ⟨[], (append_nil _).symm, .slnil⟩
  | cons c cs ih =>
    obtain ⟨added, heq, hsub⟩ := @ih (offer fits accepted c)
    rw [offer] at heq
    split_ifs at heq with hc
    · rw [append_assoc] at heq
      exact ⟨c :: added, by rw [admitAll, foldl_cons, offer, if_pos hc]; exact heq,
        hsub.cons_cons c⟩
    · exact ⟨added, by rw [admitAll, foldl_cons, offer, if_neg hc]; exact heq, hsub.cons c⟩

theorem sublist_admitAll : accepted.Sublist (admitAll fits accepted candidates) := by
  obtain ⟨added, heq, -⟩ := @admitAll_extends _ fits accepted candidates
  rw [heq]
  exact sublist_append_left _ _

theorem subset_admitAll : accepted ⊆ admitAll fits accepted candidates := sublist_admitAll.subset

/-- **Candidates that fit together are all admitted.** -/
theorem admitAll_eq_append (hfits : Hereditary fits) (h : fits (accepted ++ candidates) = true) :
    admitAll fits accepted candidates = accepted ++ candidates := by
  induction candidates generalizing accepted with
  | nil => exact (append_nil _).symm
  | cons c cs ih =>
    rw [append_cons] at h ⊢
    have hc : fits (accepted ++ [c]) = true := hfits (sublist_append_left _ cs).subperm h
    rw [admitAll, foldl_cons, offer, if_pos hc]
    exact ih h

/-- **A candidate is admitted, or does not fit with the outcome.** -/
theorem admitAll_mem_or (hfits : Hereditary fits) (ha : a ∈ candidates) :
    a ∈ admitAll fits accepted candidates ∨
      fits (admitAll fits accepted candidates ++ [a]) = false := by
  obtain ⟨cs, ds, rfl⟩ := append_of_mem ha
  rw [admitAll_append, admitAll, foldl_cons, ← admitAll, offer]
  split_ifs with hc
  · exact .inl (subset_admitAll (mem_append_right _ (mem_singleton.2 rfl)))
  · refine .inr (Bool.eq_false_iff.2 fun hbad => hc (hfits ?_ hbad))
    exact (sublist_admitAll.append_right [a]).subperm

end Greedy
