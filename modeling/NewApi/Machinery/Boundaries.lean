import Mathlib.Algebra.Order.Group.Int
import Mathlib.Logic.Relation

/-!
# Machinery/Boundaries — walking from boundary to boundary

Instants are integers, and `r b b'` is that `b'` is the boundary after `b`.  `Reached` are the
boundaries from `base` on that are not after `limit`; `Lands` is where a walk over them ends.

* `Lands.unique`, `Lands.trans` — walks to a later limit go through earlier ones.
* `Lands.moved_iff` — a walk moves on if there is a boundary in its way.
-/

namespace Boundaries

open Relation

/-- A boundary has at most one after it, which is later. -/
structure Succession (r : ℤ → ℤ → Prop) : Prop where
  lt : ∀ {b b' : ℤ}, r b b' → b < b'
  unique : Relator.RightUnique r

/-- From one boundary to the next, none of them after `limit`. -/
def Reached (r : ℤ → ℤ → Prop) (limit : ℤ) : ℤ → ℤ → Prop :=
  ReflTransGen fun b b' => r b b' ∧ b' ≤ limit

/-- Every boundary on the way has one after it. -/
def Unbroken (r : ℤ → ℤ → Prop) (limit base : ℤ) : Prop :=
  ∀ b, Reached r limit base b → ∃ b', r b b'

/-- The way from `base` ends at `last`: the boundary after it is past the limit. -/
structure Lands (r : ℤ → ℤ → Prop) (limit base last following : ℤ) : Prop where
  reached : Reached r limit base last
  follows : r last following
  after : limit < following

variable {r : ℤ → ℤ → Prop} {limit limit' base last last' following following' b c : ℤ}

/-- A later limit reaches as much. -/
theorem Reached.mono (h : Reached r limit base b) (hle : limit ≤ limit') :
    Reached r limit' base b :=
  ReflTransGen.mono (fun _ _ hstep => ⟨hstep.1, hstep.2.trans hle⟩) _ _ h

/-- What is reached is within the limit. -/
theorem Reached.eq_or_le (h : Reached r limit base b) : b = base ∨ b ≤ limit := by
  cases h with
  | refl => exact .inl rfl
  | tail _ hstep => exact .inr hstep.2

theorem Unbroken.mono (h : Unbroken r limit' base) (hle : limit ≤ limit') :
    Unbroken r limit base :=
  fun b hb => h b (hb.mono hle)

/-- The rest is unbroken, too. -/
theorem Unbroken.onward (h : Unbroken r limit base) (hb : Reached r limit base b) :
    Unbroken r limit b :=
  fun c hc => h c (ReflTransGen.trans hb hc)

section

variable (hr : Succession r)

include hr

theorem Reached.le (h : Reached r limit base b) : base ≤ b := by
  induction h with
  | refl => exact le_rfl
  | tail _ hstep ih => exact ih.trans (hr.lt hstep.1).le

/-- Of two boundaries on a way one is reached from the other. -/
theorem Reached.total (hb : Reached r limit base b) (hc : Reached r limit base c) :
    Reached r limit b c ∨ Reached r limit c b :=
  ReflTransGen.total_of_right_unique (fun _ _ _ h h' => hr.unique h.1 h'.1) hb hc

/-- Nothing is reached from where a way ends. -/
theorem Lands.eq_of_reached (h : Lands r limit base last following) (hb : Reached r limit last b) :
    b = last := by
  rcases ReflTransGen.cases_head hb with heq | ⟨c, hstep, -⟩
  · exact heq.symm
  · have := hr.unique hstep.1 h.follows
    exact absurd h.after (not_lt.mpr (this ▸ hstep.2))

/-- A way whose limit is not after its beginning ends there. -/
theorem Lands.eq_base (h : Lands r limit base last following) (hle : limit ≤ base) :
    last = base := by
  have := h.reached.le hr
  have := h.reached.eq_or_le
  omega

theorem Reached.self (h : Reached r limit base b) : Reached r b base b := by
  induction h with
  | refl => exact .refl
  | tail _ hstep ih => exact (ih.mono (hr.lt hstep.1).le).tail ⟨hstep.1, le_rfl⟩

/-- With a boundary that is reached for its limit, a way ends at that boundary. -/
theorem Lands.eq_of_limit (h : Lands r b base last following) (hb : Reached r limit base b) :
    last = b := by
  have hself := hb.self hr
  rcases h.reached.total hr hself with hto | hto
  · exact (h.eq_of_reached hr hto).symm
  · have := Reached.le hr hto
    have := Reached.le hr hself
    have := h.reached.eq_or_le
    omega

/-- A walk has one end. -/
theorem Lands.unique (h : Lands r limit base last following)
    (h' : Lands r limit base last' following') : last = last' ∧ following = following' := by
  have hlast : last = last' := by
    rcases h.reached.total hr h'.reached with hto | hto
    · exact (h.eq_of_reached hr hto).symm
    · exact h'.eq_of_reached hr hto
  subst hlast
  exact ⟨rfl, hr.unique h.follows h'.follows⟩

omit hr in
/-- **A way to a later limit goes through the earlier one.** -/
theorem Lands.trans (h : Lands r limit base last following) (hle : limit ≤ limit')
    (h' : Lands r limit' last last' following') : Lands r limit' base last' following' where
  reached := ReflTransGen.trans (h.reached.mono hle) h'.reached
  follows := h'.follows
  after := h'.after

/-- **A way goes on to a later limit if there is a boundary between the limits.** -/
theorem Lands.moved_iff (h : Lands r limit base last following) (hle : limit ≤ limit')
    (h' : Lands r limit' last last' following') :
    last' ≠ last ↔ ∃ x, Reached r limit' base x ∧ x ≠ base ∧ limit < x := by
  constructor
  · intro hne
    refine ⟨last', (h.trans hle h').reached, ?_, ?_⟩
    · have hbase := h.reached.le hr
      have hlast := h'.reached.le hr
      omega
    · rcases ReflTransGen.cases_head h'.reached with heq | ⟨c, hstep, hc⟩
      · exact absurd heq.symm hne
      · have := hr.unique hstep.1 h.follows
        have hcle := Reached.le hr hc
        have := h.after
        omega
  · rintro ⟨x, hx, hne, hlt⟩ rfl
    have hnot : ∀ {y}, y = last' → y = base ∨ y ≤ limit := fun hy => hy ▸ h.reached.eq_or_le
    rcases (h.reached.mono hle).total hr hx with hto | hto
    · have := hnot (h'.eq_of_reached hr hto)
      omega
    · have hxle := Reached.le hr hto
      have hbase := Reached.le hr hx
      rcases h.reached.eq_or_le with heq | hlim <;> omega

end

end Boundaries
