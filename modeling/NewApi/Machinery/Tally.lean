import Mathlib.Algebra.Ring.Int.Defs
import NewApi.Machinery.Index
import NewApi.Machinery.Table

/-!
# Machinery/Tally — amounts collected under keys

A map from keys to integers with finitely many entries, where a key without an entry counts for
zero, and the sums that move amounts between such maps and lists.

* `get_put` — what a lookup sees after an entry is written.
* `sum_rows` — the entries of one key sum up to what is looked up under it.
* `sum_map_set`, `sum_map_eraseIdx` — one element of a sum is changed, or taken out.
-/

/-- Amounts under keys. -/
abbrev Tally (κ : Type) : Type := Table (κ × ℤ) Prod.fst

namespace Tally

open Table List

variable {κ : Type} [DecidableEq κ]

/-- The amount under `k`. -/
def get (t : Tally κ) (k : κ) : ℤ := (t.find? k).elim 0 Prod.snd

/-- Write the entry of `k`, there or not. -/
def put (t : Tally κ) (k : κ) (v : ℤ) : Tally κ := (t.create (k, v)).getD (t.save (k, v))

@[simp] theorem get_empty (k : κ) : get (∅ : Tally κ) k = 0 := rfl

theorem find?_put (t : Tally κ) (k j : κ) (v : ℤ) :
    (t.put k v).find? j = if j = k then some (k, v) else t.find? j := by
  unfold put
  cases hcreate : t.create (k, v) with
  | some t' => exact find?_create hcreate j
  | none =>
    obtain ⟨row, hrow⟩ := Option.isSome_iff_exists.mp (create_eq_none_iff.mp hcreate)
    rw [Option.getD_none, find?_save]
    split
    · next hj => rw [hj, hrow]; rfl
    · rfl

@[simp] theorem get_put (t : Tally κ) (k j : κ) (v : ℤ) :
    (t.put k v).get j = if j = k then v else t.get j := by
  rw [get, find?_put]
  split <;> rfl

theorem get_eq_zero {t : Tally κ} {k : κ} (h : k ∉ t.rows.map Prod.fst) : t.get k = 0 := by
  cases hfind : t.find? k with
  | none => rw [get, hfind]; rfl
  | some row =>
    exact absurd (mem_map.mpr ⟨row, mem_of_find? hfind, key_of_find? hfind⟩) h

/-- **The entries of one key sum up to its amount.** -/
theorem sum_rows (t : Tally κ) (k : κ) :
    (t.rows.map fun row => if row.1 = k then row.2 else 0).sum = t.get k := by
  cases hfind : t.find? k with
  | none =>
    have hzero : ∀ row ∈ t.rows, (if row.1 = k then row.2 else 0) = 0 := by
      intro row hrow
      refine if_neg fun hk => ?_
      rw [← hk, find?_of_mem hrow] at hfind
      cases hfind
    rw [map_congr_left hzero, get, hfind]
    simp
  | some row =>
    have hkey := key_of_find? hfind
    rw [Index.sum_map_of_only t.nodup.of_map (mem_of_find? hfind), if_pos hkey, get, hfind]
    · rfl
    · intro other hother hne
      refine if_neg fun hk => hne ?_
      rw [← hk, find?_of_mem hother] at hfind
      exact Option.some.inj hfind

end Tally

/-! ## Sums over a list one of whose elements changes -/

namespace Tally

variable {α : Type} (f : α → ℤ) {l : List α} {i : ℕ} {a : α}

/-- One term of a sum is changed. -/
theorem sum_map_set (h : l[i]? = some a) (b : α) :
    ((l.set i b).map f).sum = (l.map f).sum - f a + f b := by
  obtain ⟨hi, rfl⟩ := getElem?_eq_some_iff.mp h
  rw [List.map_set, List.sum_set', dif_pos (by simpa using hi), List.getElem_map]
  omega

theorem sum_map_eraseIdx (h : l[i]? = some a) :
    ((l.eraseIdx i).map f).sum = (l.map f).sum - f a := by
  obtain ⟨hi, rfl⟩ := getElem?_eq_some_iff.mp h
  have hlen : i < (l.map f).length := by simpa using hi
  have hsum := List.CommMonoid.add_sum_eraseIdx hlen
  rw [List.getElem_map, List.eraseIdx_map] at hsum
  omega

end Tally
