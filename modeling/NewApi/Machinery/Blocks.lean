import Mathlib.Data.List.Nodup

/-!
# Machinery/Blocks — streams of blocks, as a reader follows them

A stream starts blocks, each under an index of its own, adds text to those that are open, and stops
them.  A reader keeps the blocks in the order they were started; an event that does not fit is
refused (`none`).

* `Stands` — an open block stands under an index.
* `start`, `extend`, `stop` — the events a reader takes.
* `liveOf` — the blocks that are open, and `mem_liveOf_start`, `mem_liveOf_extend`,
  `mem_liveOf_stop`, what each event does to them.
* `view` — the blocks of a writer that keeps references in the order it started them, and
  `view_concat`, `view_extend`, `view_stop`, what its moves do to them.
-/

/-- A block of a stream, with its text so far. -/
structure Block (κ : Type*) where
  index : ℕ
  kind : κ
  text : String := ""
  live : Bool := true
  deriving DecidableEq

namespace Blocks

open List

variable {κ : Type*}

/-- The block under an index is changed. -/
def onIndex (i : ℕ) (f : Block κ → Block κ) (b : Block κ) : Block κ := if b.index = i then f b else b

/-- An open block with a property stands under an index. -/
def Stands (bs : List (Block κ)) (i : ℕ) (p : Block κ → Prop) : Prop :=
  ∃ b ∈ bs, b.index = i ∧ b.live = true ∧ p b

instance (bs : List (Block κ)) (i : ℕ) (p : Block κ → Prop) [DecidablePred p] :
    Decidable (Stands bs i p) :=
  inferInstanceAs (Decidable (∃ b ∈ bs, _ ∧ _ ∧ _))

/-- A block is started under an index that was not used before. -/
def start (bs : List (Block κ)) (i : ℕ) (kind : κ) : Option (List (Block κ)) :=
  if ∃ b ∈ bs, b.index = i then none else some (bs ++ [{ index := i, kind }])

/-- Text is added to an open block. -/
def extend (bs : List (Block κ)) (i : ℕ) (p : Block κ → Prop) [DecidablePred p] (text : String) :
    Option (List (Block κ)) :=
  if Stands bs i p then some (bs.map (onIndex i fun b => { b with text := b.text ++ text })) else none

/-- An open block is stopped. -/
def stop (bs : List (Block κ)) (i : ℕ) (p : Block κ → Prop) [DecidablePred p] :
    Option (List (Block κ)) :=
  if Stands bs i p then some (bs.map (onIndex i fun b => { b with live := false })) else none

section

variable {bs : List (Block κ)} {i : ℕ} {kind : κ} {p : Block κ → Prop} [DecidablePred p]
  {f : Block κ → Block κ}

theorem start_eq (h : ∀ b ∈ bs, b.index ≠ i) :
    start bs i kind = some (bs ++ [{ index := i, kind }]) := by
  refine if_neg ?_
  rintro ⟨b, hb, hi⟩
  exact h b hb hi

theorem extend_eq (h : Stands bs i p) (text : String) :
    extend bs i p text = some (bs.map (onIndex i fun b => { b with text := b.text ++ text })) :=
  if_pos h

theorem stop_eq (h : Stands bs i p) :
    stop bs i p = some (bs.map (onIndex i fun b => { b with live := false })) := if_pos h

end

/-! ## Open blocks -/

/-- The blocks that are open, under their indices. -/
def liveOf (bs : List (Block κ)) : List (ℕ × κ) :=
  (bs.filter Block.live).map fun b => (b.index, b.kind)

section Live

variable {bs : List (Block κ)} {i : ℕ} {kind : κ} {x : ℕ × κ}

theorem mem_liveOf : x ∈ liveOf bs ↔ ∃ b ∈ bs, b.live = true ∧ (b.index, b.kind) = x := by
  simp only [liveOf, mem_map, mem_filter, and_assoc]

theorem stands_of_mem_liveOf {p : Block κ → Prop} (h : (i, kind) ∈ liveOf bs)
    (hp : ∀ b : Block κ, b.kind = kind → p b) : Stands bs i p := by
  obtain ⟨b, hb, hlive, heq⟩ := mem_liveOf.1 h
  exact ⟨b, hb, congrArg Prod.fst heq, hlive, hp b (congrArg Prod.snd heq)⟩

theorem mem_liveOf_start :
    x ∈ liveOf (bs ++ [{ index := i, kind }]) ↔ x ∈ liveOf bs ∨ x = (i, kind) := by
  rw [liveOf, filter_append, map_append, mem_append]
  exact or_congr Iff.rfl mem_singleton

variable {f : Block κ → Block κ}

/-- A change that keeps index, kind and openness keeps what is open. -/
theorem mem_liveOf_map
    (hf : ∀ b, (f b).index = b.index ∧ (f b).kind = b.kind ∧ (f b).live = b.live) :
    x ∈ liveOf (bs.map f) ↔ x ∈ liveOf bs := by
  simp only [mem_liveOf, mem_map, exists_exists_and_eq_and, hf]

theorem mem_liveOf_extend {text : String} :
    x ∈ liveOf (bs.map (onIndex i fun b => { b with text := b.text ++ text })) ↔ x ∈ liveOf bs := by
  refine mem_liveOf_map fun b => ?_
  unfold onIndex
  split_ifs <;> exact ⟨rfl, rfl, rfl⟩

/-- What is stopped is not open, and everything else stays as it was. -/
theorem mem_liveOf_stop : x ∈ liveOf (bs.map (onIndex i fun b => { b with live := false })) ↔
    x ∈ liveOf bs ∧ x.1 ≠ i := by
  simp only [mem_liveOf, mem_map, exists_exists_and_eq_and]
  constructor
  · rintro ⟨b, hb, hlive, rfl⟩
    unfold onIndex at hlive ⊢
    split_ifs at hlive ⊢ with hi
    exact ⟨⟨b, hb, hlive, rfl⟩, hi⟩
  · rintro ⟨⟨b, hb, hlive, rfl⟩, hi⟩
    refine ⟨b, hb, ?_⟩
    rw [onIndex, if_neg hi]
    exact ⟨hlive, rfl⟩

/-- The indices that were used are those of the blocks. -/
theorem forall_index_map (hf : ∀ b, (f b).index = b.index) {P : ℕ → Prop} :
    (∀ b ∈ bs.map f, P b.index) ↔ ∀ b ∈ bs, P b.index := by
  simp only [forall_mem_map, hf]

theorem index_onIndex (hf : ∀ b, (f b).index = b.index) (b : Block κ) :
    (onIndex i f b).index = b.index := by
  unfold onIndex
  split_ifs
  · exact hf b
  · rfl

end Live

/-! ## What a writer holds -/

section View

variable {ρ : Type*} {kind : ρ → κ} {text text' : ρ → String} {live live' : ρ → Bool}
  {order : List ρ} {i : ℕ} {r : ρ}

/-- The blocks of a writer: the place of a reference is the index of its block. -/
def view (kind : ρ → κ) (text : ρ → String) (live : ρ → Bool) (order : List ρ) : List (Block κ) :=
  order.mapIdx fun i r => { index := i, kind := kind r, text := text r, live := live r }

theorem length_view : (view kind text live order).length = order.length := length_mapIdx

theorem index_lt_of_mem_view {b : Block κ} (h : b ∈ view kind text live order) :
    b.index < order.length := by
  obtain ⟨i, hi, rfl⟩ := mem_mapIdx.1 h
  exact hi

/-- Whatever is not the index is read off the references. -/
theorem map_view {β : Type*} (g : κ → String → Bool → β) :
    (view kind text live order).map (fun b => g b.kind b.text b.live) =
      order.map fun r => g (kind r) (text r) (live r) := by
  refine ext_getElem (by simp [length_view]) fun j _ _ => ?_
  simp only [view, getElem_map, getElem_mapIdx]

/-- Only the references that were started count. -/
theorem view_congr (htext : ∀ r ∈ order, text' r = text r) (hlive : ∀ r ∈ order, live' r = live r) :
    view kind text' live' order = view kind text live order := by
  refine mapIdx_eq_mapIdx_iff.2 fun i hi => ?_
  rw [htext _ (getElem_mem hi), hlive _ (getElem_mem hi)]

variable {p : Block κ → Prop}

/-- A reference that stands open is an open block. -/
theorem stands_view (hr : order[i]? = some r) (hlive : live r = true)
    (hp : p { index := i, kind := kind r, text := text r, live := live r }) :
    Stands (view kind text live order) i p := by
  obtain ⟨hi, rfl⟩ := List.getElem?_eq_some_iff.1 hr
  exact ⟨_, mem_mapIdx.2 ⟨i, hi, rfl⟩, rfl, hlive, hp⟩

/-- A new reference is a block that is started. -/
theorem view_concat (htext : ∀ r ∈ order, text' r = text r) (hlive : ∀ r ∈ order, live' r = live r)
    (hempty : text' r = "") (hopen : live' r = true) :
    start (view kind text live order) order.length (kind r) =
      some (view kind text' live' (order ++ [r])) := by
  have hview : view kind text' live' (order ++ [r]) =
      view kind text' live' order ++ [{ index := order.length, kind := kind r }] := by
    simp [view, hempty, hopen]
  rw [hview, view_congr htext hlive]
  exact start_eq fun b hb => Nat.ne_of_lt (index_lt_of_mem_view hb)

/-- Where one reference changes, the block under its index does. -/
theorem view_map {f : Block κ → Block κ} (hnodup : order.Nodup) (hr : order[i]? = some r)
    (htext : ∀ u ∈ order, u ≠ r → text' u = text u) (hlive : ∀ u ∈ order, u ≠ r → live' u = live u)
    (hf : f { index := i, kind := kind r, text := text r, live := live r } =
      { index := i, kind := kind r, text := text' r, live := live' r }) :
    (view kind text live order).map (onIndex i f) = view kind text' live' order := by
  obtain ⟨hi, rfl⟩ := List.getElem?_eq_some_iff.1 hr
  refine ext_getElem (by simp [length_view]) fun j _ hj' => ?_
  have hj : j < order.length := by rwa [length_view] at hj'
  simp only [view, getElem_map, getElem_mapIdx]
  by_cases hij : j = i
  · subst hij
    exact (if_pos rfl).trans hf
  · have hne : order[j] ≠ order[i] := fun h => hij (hnodup.getElem_inj_iff.1 h)
    rw [htext _ (getElem_mem hj) hne, hlive _ (getElem_mem hj) hne]
    exact if_neg hij

variable [DecidablePred p] {added : String} (hnodup : order.Nodup) (hr : order[i]? = some r)
  (hopen : live r = true) (hp : p { index := i, kind := kind r, text := text r, live := live r })

include hnodup hr hopen hp

theorem view_extend (htext : ∀ u ∈ order, u ≠ r → text' u = text u)
    (hlive : ∀ u ∈ order, live' u = live u) (hadd : text' r = text r ++ added) :
    extend (view kind text live order) i p added = some (view kind text' live' order) := by
  rw [extend_eq (stands_view hr hopen hp)]
  refine congrArg some (view_map hnodup hr htext (fun u hu _ => hlive u hu) ?_)
  rw [hadd, hlive r (mem_of_getElem? hr)]

theorem view_stop (htext : ∀ u ∈ order, text' u = text u)
    (hlive : ∀ u ∈ order, u ≠ r → live' u = live u) (hstop : live' r = false) :
    stop (view kind text live order) i p = some (view kind text' live' order) := by
  rw [stop_eq (stands_view hr hopen hp)]
  refine congrArg some (view_map hnodup hr (fun u hu _ => htext u hu) hlive ?_)
  rw [hstop, htext r (mem_of_getElem? hr)]

end View

end Blocks
