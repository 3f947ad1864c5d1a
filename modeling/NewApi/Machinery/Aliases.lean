import Mathlib.Data.Finset.Card

/-!
# Machinery/Aliases — counting things that are met under several names

Observations carry lists of names.  The counter takes one as new if none of its names has been seen,
and remembers the names of those it takes.

* `count_observeAll` — where any two observations of one thing share a name and no name is shared by
  two things, the counter tells how many things were met.
-/

namespace Aliases

open List

variable {α ι τ : Type*} [DecidableEq α]

/-- The names seen so far, and how many things they stand for. -/
structure Counter (α : Type*) where
  seen : List α := []
  count : ℕ := 0

/-- One observation. -/
def Counter.observe (c : Counter α) (names : List α) : Counter α :=
  if ∃ a ∈ names, a ∈ c.seen then c
  else
    { seen := c.seen ++ names
      count := c.count + 1 }

/-- Observations one after another. -/
def observeAll (names : ι → List α) (os : List ι) : Counter α :=
  os.foldl (fun c o => c.observe (names o)) {}

theorem observeAll_concat (names : ι → List α) (os : List ι) (o : ι) :
    observeAll names (os ++ [o]) = (observeAll names os).observe (names o) := by
  rw [observeAll, foldl_append]
  rfl

/-- The names tell the things apart. -/
structure Naming (names : ι → List α) (thing : ι → τ) (os : List ι) : Prop where
  shared : ∀ o ∈ os, ∀ o' ∈ os, thing o = thing o' → ∃ a ∈ names o, a ∈ names o'
  apart : ∀ o ∈ os, ∀ o' ∈ os, ∀ a ∈ names o, a ∈ names o' → thing o = thing o'

variable {names : ι → List α} {thing : ι → τ} {os : List ι}

omit [DecidableEq α] in
theorem Naming.of_append {os' : List ι} (h : Naming names thing (os ++ os')) :
    Naming names thing os where
  shared o ho o' ho' := h.shared o (by simp [ho]) o' (by simp [ho'])
  apart o ho o' ho' := h.apart o (by simp [ho]) o' (by simp [ho'])

/-- What the counter has seen are names that were observed… -/
theorem mem_seen_observeAll {a : α} (ha : a ∈ (observeAll names os).seen) :
    ∃ o ∈ os, a ∈ names o := by
  induction os using reverseRecOn with
  | nil => cases ha
  | append_singleton os o ih =>
    rw [observeAll_concat, Counter.observe] at ha
    split at ha
    · obtain ⟨o', ho', hmem⟩ := ih ha
      exact ⟨o', by simp [ho'], hmem⟩
    · rcases mem_append.mp ha with hold | hnew
      · obtain ⟨o', ho', hmem⟩ := ih hold
        exact ⟨o', by simp [ho'], hmem⟩
      · exact ⟨o, by simp, hnew⟩

/-- …and of every thing it has seen all the names of some observation. -/
theorem exists_seen_observeAll (h : Naming names thing os) {o : ι} (ho : o ∈ os) :
    ∃ o' ∈ os, thing o' = thing o ∧ ∀ a ∈ names o', a ∈ (observeAll names os).seen := by
  induction os using reverseRecOn generalizing o with
  | nil => cases ho
  | append_singleton os p ih =>
    have hold : ∀ q ∈ os, ∃ o' ∈ os ++ [p], thing o' = thing q ∧
        ∀ a ∈ names o', a ∈ (observeAll names (os ++ [p])).seen := by
      intro q hq
      obtain ⟨o', ho', heq, hall⟩ := ih h.of_append hq
      refine ⟨o', by simp [ho'], heq, fun a ha => ?_⟩
      rw [observeAll_concat, Counter.observe]
      split
      · exact hall a ha
      · exact mem_append_left _ (hall a ha)
    rcases mem_append.mp ho with hmem | hlast
    · exact hold o hmem
    · rw [mem_singleton.mp hlast]
      by_cases hseen : ∃ a ∈ names p, a ∈ (observeAll names os).seen
      · obtain ⟨a, hap, ha⟩ := hseen
        obtain ⟨q, hq, haq⟩ := mem_seen_observeAll ha
        have heq : thing q = thing p := h.apart q (by simp [hq]) p (by simp) a haq hap
        exact heq ▸ hold q hq
      · refine ⟨p, by simp, rfl, fun a ha => ?_⟩
        rw [observeAll_concat, Counter.observe, if_neg hseen]
        exact mem_append_right _ ha

/-- **The counter tells how many things were met.** -/
theorem count_observeAll [DecidableEq τ] (h : Naming names thing os) :
    (observeAll names os).count = (os.map thing).toFinset.card := by
  induction os using reverseRecOn with
  | nil => rfl
  | append_singleton os p ih =>
    have hmap : ((os ++ [p]).map thing).toFinset = insert (thing p) (os.map thing).toFinset := by
      ext t
      simp
    rw [observeAll_concat, Counter.observe, hmap]
    by_cases hseen : ∃ a ∈ names p, a ∈ (observeAll names os).seen
    · obtain ⟨a, hap, ha⟩ := hseen
      obtain ⟨q, hq, haq⟩ := mem_seen_observeAll ha
      have heq : thing q = thing p := h.apart q (by simp [hq]) p (by simp) a haq hap
      have hmem : thing p ∈ (os.map thing).toFinset := by
        rw [mem_toFinset, ← heq]
        exact mem_map_of_mem hq
      rw [if_pos ⟨a, hap, ha⟩, ih h.of_append, Finset.insert_eq_of_mem hmem]
    · have hnew : thing p ∉ (os.map thing).toFinset := by
        intro hmem
        obtain ⟨q, hq, heq⟩ := mem_map.mp (mem_toFinset.mp hmem)
        obtain ⟨o, ho, hoq, hall⟩ := exists_seen_observeAll h.of_append hq
        obtain ⟨a, hao, hap⟩ :=
          h.shared o (by simp [ho]) p (by simp) (hoq.trans heq)
        exact hseen ⟨a, hap, hall a hao⟩
      rw [if_neg hseen, Finset.card_insert_of_notMem hnew, ← ih h.of_append]

end Aliases
