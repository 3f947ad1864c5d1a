import Mathlib.Data.List.Nodup

/-!
# Machinery/Table — rows with a unique key

A database table read as a list of rows whose keys are pairwise distinct; the distinctness is a
field, so that a table with two rows of one key cannot be built.  Writes are row maps that keep the
key: `save` overwrites one row, `update` is a bulk `UPDATE`, `create` is an `INSERT` that a row of
the same key rejects.

* `find?_update` — a bulk update is seen through every lookup.
* `find?_save`, `find?_create` — what a lookup sees after a single-row write.
-/

/-- Rows of type `α`, no two with the same `key`. -/
structure Table {κ : Type*} (α : Type*) (key : α → κ) where
  rows : List α
  nodup : (rows.map key).Nodup

namespace Table

open List

variable {κ α : Type*} {key : α → κ}

instance : EmptyCollection (Table α key) := ⟨⟨[], List.nodup_nil⟩⟩

@[simp] theorem rows_empty : (∅ : Table α key).rows = [] := rfl

/-- A bulk `UPDATE`: every row through a map that leaves keys alone. -/
def update (t : Table α key) (f : α → α) (hf : ∀ a, key (f a) = key a) : Table α key where
  rows := t.rows.map f
  nodup := by
    rw [List.map_map, show key ∘ f = key from funext hf]
    exact t.nodup

@[simp] theorem rows_update (t : Table α key) (f : α → α) (hf : ∀ a, key (f a) = key a) :
    (t.update f hf).rows = t.rows.map f := rfl

variable [DecidableEq κ]

/-- The row with key `k`. -/
def find? (t : Table α key) (k : κ) : Option α := t.rows.find? fun a => decide (key a = k)

variable {k : κ} {t : Table α key} {a : α}

theorem mem_of_find? (h : t.find? k = some a) : a ∈ t.rows :=
  mem_of_find?_eq_some h

theorem key_of_find? (h : t.find? k = some a) : key a = k := by
  simpa using find?_some h

/-- Keys being distinct, a row is found under its own key. -/
theorem find?_of_mem (ha : a ∈ t.rows) : t.find? (key a) = some a := by
  have hsome : (t.find? (key a)).isSome := by
    rw [find?, find?_isSome]
    exact ⟨a, ha, by simp⟩
  obtain ⟨b, hb⟩ := Option.isSome_iff_exists.mp hsome
  rw [hb, inj_on_of_nodup_map t.nodup (mem_of_find? hb) ha (key_of_find? hb)]

/-- A key stands for one row. -/
theorem find?_eq_some_iff : t.find? k = some a ↔ a ∈ t.rows ∧ key a = k :=
  ⟨fun h => ⟨mem_of_find? h, key_of_find? h⟩, fun ⟨ha, hk⟩ => hk ▸ find?_of_mem ha⟩

/-- **A bulk update is seen through every lookup.** -/
@[simp] theorem find?_update (t : Table α key) (f : α → α) (hf : ∀ a, key (f a) = key a) (k : κ) :
    (t.update f hf).find? k = (t.find? k).map f := by
  simp only [find?, rows_update, find?_map]
  congr 2
  funext a
  simp [hf]

/-! ## Single-row writes -/

/-- Overwrite the row that has `a`'s key; a table without one is left alone. -/
def save (t : Table α key) (a : α) : Table α key :=
  t.update (fun b => if key b = key a then a else b) fun b => by
    split
    · next h => exact h.symm
    · rfl

/-- Saving replaces the row of the key, if there is one. -/
theorem find?_save (t : Table α key) (a : α) (k : κ) :
    (t.save a).find? k = if k = key a then (t.find? k).map fun _ => a else t.find? k := by
  rw [save, find?_update]
  cases h : t.find? k with
  | none => simp
  | some b =>
    have hb := key_of_find? h
    by_cases hk : k = key a <;> simp [hb, hk]

variable {b : α}

@[simp] theorem find?_save_self (h : t.find? (key a) = some b) :
    (t.save a).find? (key a) = some a := by
  simp [find?_save, h]

theorem find?_save_of_ne (t : Table α key) (h : k ≠ key a) : (t.save a).find? k = t.find? k := by
  simp [find?_save, h]

/-- What is found after saving `a`: `a` itself, or what was found before. -/
theorem find?_save_eq_some {c : α} (ha : t.find? (key a) = some c)
    (h : (t.save a).find? k = some b) :
    k = key a ∧ b = a ∨ k ≠ key a ∧ t.find? k = some b := by
  by_cases hk : k = key a
  · subst hk
    rw [find?_save_self ha] at h
    exact .inl ⟨rfl, (Option.some.inj h).symm⟩
  · rw [find?_save_of_ne t hk] at h
    exact .inr ⟨hk, h⟩

/-- A row of the table after a single-row write is the one written, or an old one of another key. -/
theorem mem_save (h : b ∈ (t.save a).rows) : b = a ∨ b ∈ t.rows ∧ key b ≠ key a := by
  obtain ⟨c, hc, rfl⟩ := mem_map.mp h
  by_cases hk : key c = key a
  · rw [if_pos hk]
    exact .inl rfl
  · rw [if_neg hk]
    exact .inr ⟨hc, hk⟩

theorem rows_save_eq_nil : (t.save a).rows = [] ↔ t.rows = [] :=
  map_eq_nil_iff

/-- Insert a row; a row with the same key rejects it. -/
def create (t : Table α key) (a : α) : Option (Table α key) :=
  if h : key a ∈ t.rows.map key then none
  else some ⟨t.rows ++ [a], by
    rw [List.map_append, List.nodup_append]
    exact ⟨t.nodup, List.nodup_singleton _, fun x hx y hy => by
      rw [List.map_cons, List.map_nil, List.mem_singleton] at hy
      exact fun hxy => h (hy ▸ hxy ▸ hx)⟩⟩

variable {t' : Table α key}

theorem rows_create (h : t.create a = some t') : t'.rows = t.rows ++ [a] := by
  unfold create at h
  split at h
  · cases h
  · cases h; rfl

/-- Creating fails where the key is taken. -/
theorem create_eq_none_iff : t.create a = none ↔ (t.find? (key a)).isSome := by
  unfold create find?
  rw [find?_isSome]
  split
  · next h =>
    obtain ⟨b, hb, hk⟩ := mem_map.mp h
    simpa using ⟨b, hb, hk⟩
  · next h =>
    refine ⟨fun hc => (by cases hc), fun ⟨b, hb, hk⟩ => absurd ?_ h⟩
    exact mem_map.mpr ⟨b, hb, by simpa using hk⟩

section

variable (h : t.create a = some t')

include h

theorem find?_eq_none_of_create : t.find? (key a) = none := by
  by_contra hne
  rw [create_eq_none_iff.mpr (Option.ne_none_iff_isSome.mp hne)] at h
  cases h

/-- A created row is found. -/
theorem find?_create (k : κ) : t'.find? k = if k = key a then some a else t.find? k := by
  rw [find?, rows_create h, find?_append]
  by_cases hk : k = key a
  · subst hk
    rw [show t.rows.find? _ = none from find?_eq_none_of_create h]
    simp
  · have hk' : ¬ key a = k := fun h => hk h.symm
    simp [hk, hk', find?]

theorem find?_create_of_some (hb : t.find? k = some b) : t'.find? k = some b := by
  rw [find?_create h, if_neg, hb]
  rintro rfl
  rw [find?_eq_none_of_create h] at hb
  cases hb

end

/-- Delete the rows that satisfy `p`. -/
def deleteWhere (t : Table α key) (p : α → Prop) [DecidablePred p] : Table α key where
  rows := t.rows.filter fun a => decide (¬ p a)
  nodup := t.nodup.sublist (List.filter_sublist.map key)

theorem find?_deleteWhere {p : α → Prop} [DecidablePred p] (h : t.find? k = some a) (hp : ¬ p a) :
    (t.deleteWhere p).find? k = some a := by
  rw [find?_eq_some_iff] at h ⊢
  exact ⟨mem_filter.mpr ⟨h.1, decide_eq_true hp⟩, h.2⟩

end Table
