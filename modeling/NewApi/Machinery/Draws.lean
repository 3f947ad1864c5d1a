import Mathlib.Algebra.GroupWithZero.Nat
import Mathlib.Algebra.BigOperators.Group.List.Basic
import Mathlib.Algebra.Order.Group.Nat

/-!
# Machinery/Draws — weighted draws from a list

Candidates that should be avoided are left out where others remain (`avoiding`).
A number is drawn below the total weight and the list is walked until it is used up.  Two walks are
common: one stops when the rest falls below zero (`pickBelow`), one when it is not above zero
(`pickWithin`).

* `mem_avoiding`, `mem_avoiding_map` — what is left.
* `pickBelow_support` — the first can stop at every entry of positive weight and nowhere else.
* `pickWithin_support` — the second can stop at every entry, if none weighs less than two.
-/

namespace Draws

open List

variable {α : Type*}

/-! ## Candidates to avoid -/

/-- Keep what passes, or everything where nothing does. -/
def avoiding (pass : α → Bool) (kept : List α) : List α :=
  if kept.filter pass = [] then kept else kept.filter pass

variable {a : α} {pass : α → Bool} {kept : List α}

theorem mem_avoiding :
    a ∈ avoiding pass kept ↔ a ∈ kept ∧ (pass a = true ∨ ∀ b ∈ kept, pass b = false) := by
  unfold avoiding
  split_ifs with hempty
  · have hnone : ∀ b ∈ kept, pass b = false := by
      intro b hb
      rw [← Bool.not_eq_true]
      exact filter_eq_nil_iff.1 hempty b hb
    exact ⟨fun h => ⟨h, Or.inr hnone⟩, fun h => h.1⟩
  · rw [mem_filter]
    refine and_congr_right fun _ => ⟨Or.inl, ?_⟩
    rintro (hpass | hnone)
    · exact hpass
    · refine absurd (filter_eq_nil_iff.2 fun b hb => ?_) hempty
      rw [hnone b hb]
      exact Bool.false_ne_true

/-- Where everything passes nothing is avoided. -/
theorem avoiding_of_forall (h : ∀ a ∈ kept, pass a = true) : avoiding pass kept = kept := by
  rw [avoiding, filter_eq_self.2 h]
  exact ite_self kept

/-- …read through a map that keeps the predicate. -/
theorem mem_avoiding_map {β : Type*} {f : α → β} {pass' : β → Bool} {kept' : List β}
    (hmem : ∀ b, b ∈ kept' ↔ ∃ a ∈ kept, f a = b) (hpass : ∀ a ∈ kept, pass' (f a) = pass a)
    {b : β} :
    b ∈ avoiding pass' kept' ↔ ∃ a ∈ avoiding pass kept, f a = b := by
  have hnone : (∀ b ∈ kept', pass' b = false) ↔ ∀ a ∈ kept, pass a = false := by
    constructor
    · intro h a ha
      rw [← hpass a ha]
      exact h _ ((hmem _).2 ⟨a, ha, rfl⟩)
    · intro h b hb
      obtain ⟨a, ha, rfl⟩ := (hmem b).1 hb
      rw [hpass a ha]
      exact h a ha
  rw [mem_avoiding, hnone, hmem]
  simp only [mem_avoiding]
  constructor
  · rintro ⟨⟨a, ha, rfl⟩, hkept⟩
    rw [hpass a ha] at hkept
    exact ⟨a, ⟨ha, hkept⟩, rfl⟩
  · rintro ⟨a, ⟨ha, hkept⟩, rfl⟩
    rw [← hpass a ha] at hkept
    exact ⟨⟨a, ha, rfl⟩, hkept⟩

/-! ## Weights -/

/-- The number of draws. -/
def total (l : List (α × ℕ)) : ℕ := (l.map Prod.snd).sum

@[simp] theorem total_cons (x : α × ℕ) (l : List (α × ℕ)) : total (x :: l) = x.2 + total l := rfl

/-- Stop where the rest falls below zero. -/
def pickBelow : List (α × ℕ) → ℕ → Option α
  | [], _ => none
  | (a, w) :: l, draw => if draw < w then some a else pickBelow l (draw - w)

/-- Stop where the rest is not above zero. -/
def pickWithin : List (α × ℕ) → ℕ → Option α
  | [], _ => none
  | (a, w) :: l, draw => if draw ≤ w then some a else pickWithin l (draw - w)

variable {l : List (α × ℕ)}

/-- **An entry is drawn with positive probability when it has weight.** -/
theorem pickBelow_support :
    (∃ draw, draw < total l ∧ pickBelow l draw = some a) ↔ ∃ w, 0 < w ∧ (a, w) ∈ l := by
  induction l with
  | nil => simp [pickBelow]
  | cons x l ih =>
    obtain ⟨b, v⟩ := x
    constructor
    · rintro ⟨draw, hdraw, hpick⟩
      rw [pickBelow] at hpick
      rw [total_cons] at hdraw
      split_ifs at hpick with hlt
      · cases hpick
        exact ⟨v, by omega, mem_cons_self⟩
      · obtain ⟨w, hw, hmem⟩ := ih.1 ⟨draw - v, by omega, hpick⟩
        exact ⟨w, hw, mem_cons_of_mem _ hmem⟩
    · rintro ⟨w, hw, hmem⟩
      rcases mem_cons.1 hmem with heq | hmem
      · cases heq
        exact ⟨0, by rw [total_cons]; omega, by rw [pickBelow, if_pos hw]⟩
      · obtain ⟨draw, hdraw, hpick⟩ := ih.2 ⟨w, hw, hmem⟩
        refine ⟨v + draw, by rw [total_cons]; omega, ?_⟩
        rw [pickBelow, if_neg (by omega), Nat.add_sub_cancel_left, hpick]

/-- A draw that is not zero stops at any entry. -/
theorem exists_pickWithin {w : ℕ} (h : ∀ x ∈ l, 2 ≤ x.2) (hmem : (a, w) ∈ l) :
    ∃ draw, 0 < draw ∧ draw < total l ∧ pickWithin l draw = some a := by
  induction l with
  | nil => cases hmem
  | cons x l ih =>
    obtain ⟨b, v⟩ := x
    have hv : 2 ≤ v := h (b, v) mem_cons_self
    rcases mem_cons.1 hmem with heq | hmem
    · cases heq
      refine ⟨1, by omega, by rw [total_cons]; omega, ?_⟩
      rw [pickWithin, if_pos (by omega)]
    · obtain ⟨draw, hpos, hdraw, hpick⟩ := ih (fun y hy => h y (mem_cons_of_mem _ hy)) hmem
      refine ⟨v + draw, by omega, by rw [total_cons]; omega, ?_⟩
      rw [pickWithin, if_neg (by omega), Nat.add_sub_cancel_left, hpick]

theorem mem_of_pickWithin {draw : ℕ} (h : pickWithin l draw = some a) : ∃ w, (a, w) ∈ l := by
  induction l generalizing draw with
  | nil => cases h
  | cons x l ih =>
    obtain ⟨b, v⟩ := x
    rw [pickWithin] at h
    split_ifs at h
    · cases h
      exact ⟨v, mem_cons_self⟩
    · obtain ⟨w, hw⟩ := ih h
      exact ⟨w, mem_cons_of_mem _ hw⟩

/-- **Every entry is drawn with positive probability** where none weighs less than two. -/
theorem pickWithin_support (h : ∀ x ∈ l, 2 ≤ x.2) :
    (∃ draw, draw < total l ∧ pickWithin l draw = some a) ↔ ∃ w, (a, w) ∈ l := by
  constructor
  · rintro ⟨draw, -, hpick⟩
    exact mem_of_pickWithin hpick
  · rintro ⟨w, hmem⟩
    obtain ⟨draw, -, hdraw, hpick⟩ := exists_pickWithin h hmem
    exact ⟨draw, hdraw, hpick⟩

end Draws
