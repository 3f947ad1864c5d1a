import Mathlib.Data.List.Sort

/-!
# Machinery/Ranges — lists of ranges of integers

`merge` joins the ranges of a list that overlap or touch; `scan` looks a number up and stops at the
first range that begins after it.

* `merge_spec` — a merged list has the numbers it had, in ranges that lie apart.
* `scan_iff` — in such a list the lookup misses nothing.
-/

namespace Ranges

open List

/-- The integers from `start` to `stop`. -/
structure Range where
  start : ℤ
  stop : ℤ
  deriving DecidableEq

/-- The integer lies in the range. -/
def Range.Has (r : Range) (n : ℤ) : Prop := r.start ≤ n ∧ n ≤ r.stop

/-- By the start, then by the end. -/
def Range.le (a b : Range) : Prop := a.start < b.start ∨ a.start = b.start ∧ a.stop ≤ b.stop

instance : DecidableRel Range.le := fun _ _ => inferInstanceAs (Decidable (_ ∨ _))

instance : Std.Total Range.le := ⟨fun a b => by unfold Range.le; omega⟩

instance : IsTrans Range Range.le := ⟨fun a b c => by unfold Range.le; omega⟩

/-- A range as far as another one that begins in it. -/
def Range.extend (last r : Range) : Range :=
  if r.stop > last.stop then { last with stop := r.stop } else last

/-- The loop over sorted ranges, with the last one that was merged. -/
def mergeFrom (last : Range) : List Range → List Range
  | [] => [last]
  | r :: rest =>
    if r.start ≤ last.stop + 1 then mergeFrom (last.extend r) rest
    else last :: mergeFrom r rest

/-- Sorted ranges that neither overlap nor touch. -/
def merge (ranges : List Range) : List Range :=
  match ranges.insertionSort Range.le with
  | [] => []
  | r :: rest => mergeFrom r rest

/-- The search through sorted ranges, which stops at one that begins later. -/
def scan (n : ℤ) : List Range → Bool
  | [] => false
  | r :: rest => if n < r.start then false else if n ≤ r.stop then true else scan n rest

/-- No range is empty, and each ends before its successors, with a gap. -/
structure Apart (ranges : List Range) : Prop where
  inhabited : ∀ r ∈ ranges, r.start ≤ r.stop
  gaps : ranges.Pairwise fun a b => a.stop + 1 < b.start

section

variable {last r : Range} {ranges : List Range} {n : ℤ}

theorem Apart.of_cons (h : Apart (r :: ranges)) : Apart ranges :=
  ⟨fun a ha => h.inhabited a (mem_cons_of_mem _ ha), h.gaps.of_cons⟩

theorem extend_start : (last.extend r).start = last.start := by
  unfold Range.extend
  split_ifs
  · rfl
  · rfl

theorem extend_stop : (last.extend r).stop = max last.stop r.stop := by
  unfold Range.extend
  split_ifs with h
  · exact (max_eq_right h.le).symm
  · exact (max_eq_left (not_lt.1 h)).symm

/-- In sorted ranges the last one that was merged begins first. -/
theorem mergeFrom_spec (hlast : last.start ≤ last.stop) (hin : ∀ r ∈ ranges, r.start ≤ r.stop)
    (hsorted : (last :: ranges).Pairwise fun a b => a.start ≤ b.start) :
    Apart (mergeFrom last ranges) ∧ (∀ r ∈ mergeFrom last ranges, last.start ≤ r.start) ∧
      ∀ n, (∃ r ∈ mergeFrom last ranges, r.Has n) ↔ ∃ r ∈ last :: ranges, r.Has n := by
  induction ranges generalizing last with
  | nil => exact ⟨⟨by simpa [mergeFrom] using hlast, by simp [mergeFrom]⟩, by simp [mergeFrom],
      fun _ => Iff.rfl⟩
  | cons r ranges ih =>
    obtain ⟨hr, hin⟩ := forall_mem_cons.1 hin
    obtain ⟨hfirst, hsorted⟩ := pairwise_cons.1 hsorted
    obtain ⟨hle, hrest⟩ := forall_mem_cons.1 hfirst
    rw [mergeFrom]
    split_ifs with hjoin
    · obtain ⟨hapart, hstart, hhas⟩ := @ih (last.extend r) (by rw [extend_start, extend_stop]; omega)
        hin (by simpa only [pairwise_cons, extend_start] using ⟨hrest, hsorted.of_cons⟩)
      refine ⟨hapart, fun a ha => extend_start ▸ hstart a ha, fun n => (hhas n).trans ?_⟩
      simp only [exists_mem_cons_iff, ← or_assoc, Range.Has, extend_start, extend_stop]
      refine or_congr_left ?_
      omega
    · obtain ⟨hapart, hstart, hhas⟩ := ih hr hin hsorted
      refine ⟨⟨forall_mem_cons.2 ⟨hlast, hapart.inhabited⟩, pairwise_cons.2
        ⟨fun a ha => ?_, hapart.gaps⟩⟩, forall_mem_cons.2 ⟨le_refl _, fun a ha => ?_⟩,
        fun n => ?_⟩
      · exact (not_le.1 hjoin).trans_le (hstart a ha)
      · exact hle.trans (hstart a ha)
      · rw [exists_mem_cons_iff, hhas, exists_mem_cons_iff (a := last)]

theorem mergeFrom_of_apart (h : Apart (last :: ranges)) :
    mergeFrom last ranges = last :: ranges := by
  induction ranges generalizing last with
  | nil => rfl
  | cons r ranges ih =>
    rw [mergeFrom, if_neg (not_le.2 (rel_of_pairwise_cons h.gaps mem_cons_self)),
      ih h.of_cons]

theorem merge_spec (hin : ∀ r ∈ ranges, r.start ≤ r.stop) :
    Apart (merge ranges) ∧ ∀ n, (∃ r ∈ merge ranges, r.Has n) ↔ ∃ r ∈ ranges, r.Has n := by
  have hsorted : (ranges.insertionSort Range.le).Pairwise fun a b => a.start ≤ b.start := by
    refine (pairwise_insertionSort Range.le ranges).imp fun {a b} hle => ?_
    unfold Range.le at hle
    omega
  have hmem : ∀ r, r ∈ ranges.insertionSort Range.le ↔ r ∈ ranges :=
    fun _ => mem_insertionSort _
  simp only [← hmem] at hin ⊢
  unfold merge
  cases hsort : ranges.insertionSort Range.le with
  | nil => exact ⟨⟨by simp, by simp⟩, fun _ => Iff.rfl⟩
  | cons r rest =>
    rw [hsort] at hsorted hin
    obtain ⟨hr, hin⟩ := forall_mem_cons.1 hin
    obtain ⟨hapart, -, hhas⟩ := mergeFrom_spec hr hin hsorted
    exact ⟨hapart, hhas⟩

/-- Ranges that lie apart are merged already. -/
theorem merge_of_apart (h : Apart ranges) : merge ranges = ranges := by
  have hsorted : ranges.Pairwise Range.le := by
    refine h.gaps.imp_of_mem fun {a b} ha hb hgap => Or.inl ?_
    have := h.inhabited a ha
    omega
  rw [merge, hsorted.insertionSort_eq]
  cases ranges with
  | nil => rfl
  | cons r ranges => exact mergeFrom_of_apart h

/-- **The lookup may stop early** where the ranges lie apart. -/
theorem scan_iff (h : Apart ranges) : scan n ranges = true ↔ ∃ r ∈ ranges, r.Has n := by
  induction ranges with
  | nil => simp [scan]
  | cons r ranges ih =>
    rw [scan, exists_mem_cons_iff, ← ih h.of_cons, Range.Has]
    split_ifs with hbefore hin
    · refine iff_of_false not_false ?_
      rintro (hr | hrest)
      · omega
      · obtain ⟨a, ha, hn, -⟩ := (ih h.of_cons).1 hrest
        have := rel_of_pairwise_cons h.gaps ha
        have := h.inhabited r mem_cons_self
        omega
    · simp [hin, not_lt.1 hbefore]
    · simp [hin]

end

end Ranges
