import Mathlib.Data.List.Basic

/-!
# Machinery/Retry — a bounded retry of a fallible action

`retry attempt n i s` makes at most `n` attempts, numbered from `i`, and stops at the first that
succeeds.  An attempt that fails may still have changed the state, and the next one starts from what
it left.

* `retry_rule` — the induction over the attempts: a fact `P` about the state before attempt `i` with
  `n` left, kept by every failing attempt, and what it gives at the two ways out.
-/

namespace Retry

variable {σ ε : Type*} (attempt : ℕ → σ → Except ε Unit × σ)

/-- The loop: attempts left, number of the next one, last error, state. -/
def loop : ℕ → ℕ → Except ε Unit → σ → Except ε Unit × σ
  | 0, _, last, s => (last, s)
  | n + 1, i, _, s =>
    match attempt i s with
    | (.ok u, s') => (.ok u, s')
    | (.error e, s') => loop n (i + 1) (.error e) s'

/-- At most `n` attempts; with none to make, nothing has failed. -/
def retry (n : ℕ) (s : σ) : Except ε Unit × σ := loop attempt n 0 (.ok ()) s

variable {P : ℕ → ℕ → σ → Prop} {Q : Except ε Unit → σ → Prop}
  (hok : ∀ n i s s', P (n + 1) i s → attempt i s = (.ok (), s') → Q (.ok ()) s')
  (herr : ∀ n i s e s', P (n + 1) i s → attempt i s = (.error e, s') → P n (i + 1) s')
  (hend : ∀ i s e, P 0 i s → Q (.error e) s)

include hok herr hend

/-- **Induction over the attempts.**  `P n i` holds before attempt `i` with `n` left; a success
leads to `Q (.ok ())`, a failure back to `P`, and running out of attempts to `Q` of the last error.
-/
theorem loop_rule :
    ∀ (n i : ℕ) (last : Except ε Unit) (s : σ), (n = 0 → ∃ e, last = .error e) → P n i s →
      Q (loop attempt n i last s).1 (loop attempt n i last s).2
  | 0, i, last, s, hlast, hP => by
    obtain ⟨e, rfl⟩ := hlast rfl
    exact hend i s e hP
  | n + 1, i, last, s, _, hP => by
    rw [loop]
    split
    · next u s' h => exact hok n i s s' hP h
    · next e s' h =>
      have hP' : P n (i + 1) s' := herr n i s e s' hP h
      exact loop_rule n (i + 1) _ s' (fun _ => ⟨e, rfl⟩) hP'

theorem retry_rule (n : ℕ) (s : σ) (hP : P (n + 1) 0 s) :
    Q (retry attempt (n + 1) s).1 (retry attempt (n + 1) s).2 :=
  loop_rule attempt hok herr hend (n + 1) 0 _ s (fun h => by cases h) hP

end Retry
