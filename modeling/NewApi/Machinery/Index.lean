import Mathlib.Data.List.Dedup
import Mathlib.Data.List.Induction
import Mathlib.Algebra.BigOperators.Group.List.Basic

/-!
# Machinery/Index — a list regrouped through maps that a loop fills

One pass over a list fills maps keyed by some function of its elements: `last` keeps one element per
key, the latest; `groups` keeps all of them, in order; `keys` are the keys met.

* `last_eq_some`, `exists_last` — what a lookup finds is in the list and has the key; a key that
  occurs is found.  Two elements of one key are told apart by neither.
* `sum_map_of_only` — a sum over a list without repetitions in which one element alone counts.
-/

namespace Index

open List Function

variable {α β κ : Type*} [DecidableEq κ] (key : α → κ)

/-- The latest element of each key. -/
def last (l : List α) : κ → Option α :=
  l.foldl (fun m a => Function.update m (key a) (some a)) fun _ => none

/-- The values of each key, in order. -/
def groups (val : α → β) (l : List α) : κ → List β :=
  l.foldl (fun m a => Function.update m (key a) (m (key a) ++ [val a])) fun _ => []

/-- The keys, in order of their first occurrence. -/
def keys (l : List α) : List κ :=
  l.foldl (fun ks a => if key a ∈ ks then ks else ks ++ [key a]) []

variable {key} {l : List α} {k : κ} {a : α}

theorem last_concat (l : List α) (a : α) :
    last key (l ++ [a]) = update (last key l) (key a) (some a) := by
  simp [last]

theorem groups_concat (val : α → β) (l : List α) (a : α) :
    groups key val (l ++ [a]) =
      update (groups key val l) (key a) (groups key val l (key a) ++ [val a]) := by
  simp [groups]

theorem keys_concat (l : List α) (a : α) :
    keys key (l ++ [a]) = if key a ∈ keys key l then keys key l else keys key l ++ [key a] := by
  rw [keys, foldl_append]
  rfl

/-- What is found has the key. -/
theorem last_eq_some (h : last key l k = some a) : a ∈ l ∧ key a = k := by
  induction l using reverseRecOn with
  | nil => cases h
  | append_singleton l b ih =>
    rw [last_concat, update_apply] at h
    split at h
    · next hk =>
      cases h
      exact ⟨by simp, hk.symm⟩
    · exact ⟨mem_append_left _ (ih h).1, (ih h).2⟩

/-- What is there is found. -/
theorem exists_last (h : a ∈ l) : ∃ b, last key l (key a) = some b := by
  induction l using reverseRecOn with
  | nil => cases h
  | append_singleton l b ih =>
    rw [last_concat, update_apply]
    split
    · exact ⟨b, rfl⟩
    · next hne =>
      rcases mem_append.mp h with h | h
      · exact ih h
      · rw [mem_singleton.mp h] at hne
        exact absurd rfl hne

/-- A group has the elements of its key, in order. -/
theorem groups_apply (val : α → β) (l : List α) (k : κ) :
    groups key val l k = (l.filter (key · = k)).map val := by
  induction l using reverseRecOn with
  | nil => rfl
  | append_singleton l b ih =>
    rw [groups_concat, update_apply, filter_append, map_append]
    by_cases hk : k = key b
    · rw [if_pos hk, ← hk, ih]
      simp [hk]
    · rw [if_neg hk, ih]
      simp [Ne.symm hk]

/-- The keys are those of the elements. -/
theorem mem_keys : k ∈ keys key l ↔ ∃ a ∈ l, key a = k := by
  induction l using reverseRecOn with
  | nil => simp [keys]
  | append_singleton l b ih =>
    rw [keys_concat]
    split
    · next hb =>
      rw [ih]
      constructor
      · rintro ⟨a, ha, rfl⟩
        exact ⟨a, mem_append_left _ ha, rfl⟩
      · rintro ⟨a, ha, rfl⟩
        rcases mem_append.mp ha with ha | ha
        · exact ⟨a, ha, rfl⟩
        · obtain rfl := mem_singleton.mp ha
          exact ih.mp hb
    · simp [ih, or_and_right, exists_or, eq_comm]

/-- No key comes twice. -/
theorem nodup_keys (l : List α) : (keys key l).Nodup := by
  induction l using reverseRecOn with
  | nil => exact nodup_nil
  | append_singleton l b ih =>
    rw [keys_concat]
    split
    · exact ih
    · next hb => exact nodup_append.mpr ⟨ih, nodup_singleton _, by
        rintro x hx y hy rfl
        exact hb (mem_singleton.mp hy ▸ hx)⟩

/-- **One element alone counts.** -/
theorem sum_map_of_only {M : Type*} [AddMonoid M] [DecidableEq β] {s : List β} (hs : s.Nodup)
    {b : β} (hb : b ∈ s) {f : β → M}
    (hf : ∀ c ∈ s, c ≠ b → f c = 0) : (s.map f).sum = f b := by
  rw [sum_map_eq_nsmul_single b f fun c hne hc => hf c hc hne, count_eq_one_of_mem hs hb,
    one_nsmul]

/-- A value that one element alone is mapped to occurs once. -/
theorem count_filterMap_of_only [DecidableEq α] [DecidableEq β] {l : List α} (hl : l.Nodup) {a : α}
    (ha : a ∈ l) {f : α → Option β} {b : β} (hab : f a = some b)
    (honly : ∀ c ∈ l, f c = some b → c = a) : (l.filterMap f).count b = 1 := by
  rw [count_filterMap, countP_congr (q := fun c => c == a)]
  · exact count_eq_one_of_mem hl ha
  · intro c hc
    simp only [beq_iff_eq]
    exact ⟨honly c hc, fun h => h ▸ hab⟩

end Index
