import Mathlib.Data.List.Basic

/-!
# Machinery/Reading — readers of event lists

A reader takes events one by one and may refuse one.  `Leads` says that it takes a list of them and
what holds of it then.

* `Leads.append`, `Leads.cons` — lists in sequence.
-/

namespace Reading

variable {ρ ε α : Type*} {step : ρ → ε → Option ρ} {r : ρ} {events events' : List ε}
  {P Q : ρ → Prop}

/-- The reader takes the events, and satisfies `P` then. -/
def Leads (step : ρ → ε → Option ρ) (r : ρ) (events : List ε) (P : ρ → Prop) : Prop :=
  ∃ r', events.foldlM step r = some r' ∧ P r'

theorem Leads.nil (h : P r) : Leads step r [] P := ⟨r, rfl, h⟩

theorem Leads.cons {event : ε} {r' : ρ} (h : step r event = some r')
    (hrest : Leads step r' events P) : Leads step r (event :: events) P := by
  obtain ⟨r'', hread, hP⟩ := hrest
  refine ⟨r'', ?_, hP⟩
  rw [List.foldlM_cons, h]
  exact hread

theorem Leads.append (h : Leads step r events P) (hrest : ∀ r', P r' → Leads step r' events' Q) :
    Leads step r (events ++ events') Q := by
  obtain ⟨r', hread, hP⟩ := h
  obtain ⟨r'', hread', hQ⟩ := hrest r' hP
  refine ⟨r'', ?_, hQ⟩
  rw [List.foldlM_append, hread]
  exact hread'

theorem Leads.mono (h : Leads step r events P) (hPQ : ∀ r', P r' → Q r') :
    Leads step r events Q := by
  obtain ⟨r', hread, hP⟩ := h
  exact ⟨r', hread, hPQ r' hP⟩

theorem Leads.single {event : ε} {r' : ρ} (h : step r event = some r') (hP : P r') :
    Leads step r [event] P := Leads.cons h (Leads.nil hP)

end Reading
