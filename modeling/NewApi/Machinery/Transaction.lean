import Mathlib.Init

/-!
# Machinery/Transaction — computations that write and may fail

A `Tx` reads and writes a state and may end in an error, with the writes it has made so far in the
state it returns.  `atomically` is a database transaction around it: an error undoes them.

* `bind_eq_ok` — a sequence that succeeds is one whose parts do; proofs peel it off step by step.
* `zoom` — a computation on a part of the state.
* `Clean` — a failure leaves the state as it was; a transaction is `Clean`, whatever it does inside.
* `Keeps` — an invariant kept however the computation ends.
-/

/-- A computation on `σ` that may fail with `ε`. -/
def Tx (σ ε α : Type) : Type := σ → Except ε α × σ

namespace Tx

variable {σ ε α β : Type}

instance : Monad (Tx σ ε) where
  pure a := fun s => (.ok a, s)
  bind x f := fun s =>
    match x s with
    | (.ok a, s) => f a s
    | (.error e, s) => (.error e, s)

/-- The transaction fails. -/
def throw (e : ε) : Tx σ ε α := fun s => (.error e, s)

/-- The state as the transaction sees it. -/
def read : Tx σ ε σ := fun s => (.ok s, s)

/-- The state is changed. -/
def modify (f : σ → σ) : Tx σ ε Unit := fun s => (.ok (), f s)

/-- Fail with `e` if `c` holds. -/
def refuse (c : Prop) [Decidable c] (e : ε) : Tx σ ε Unit := if c then throw e else pure ()

/-- The result of a computation that writes nothing. -/
def lift (r : Except ε α) : Tx σ ε α := fun s => (r, s)

/-- A transaction: an error rolls back every write. -/
def atomically (x : Tx σ ε α) : Tx σ ε α := fun s =>
  match x s with
  | (.ok a, s') => (.ok a, s')
  | (.error e, _) => (.error e, s)

/-- Undo by hand: `g` runs after an error. -/
def onError (x : Tx σ ε α) (g : σ → σ) : Tx σ ε α := fun s =>
  match x s with
  | (.ok a, s') => (.ok a, s')
  | (.error e, s') => (.error e, g s')

/-- A computation on a part of the state. -/
def zoom {τ δ : Type} (get : σ → τ) (put : σ → τ → σ) (f : δ → ε) (x : Tx τ δ α) : Tx σ ε α :=
  fun s => ((x (get s)).1.mapError f, put s (x (get s)).2)

@[simp] theorem pure_apply (a : α) (s : σ) : (pure a : Tx σ ε α) s = (.ok a, s) := rfl

@[simp] theorem throw_apply (e : ε) (s : σ) : (throw e : Tx σ ε α) s = (.error e, s) := rfl

@[simp] theorem read_apply (s : σ) : (read : Tx σ ε σ) s = (.ok s, s) := rfl

@[simp] theorem modify_apply (f : σ → σ) (s : σ) : (modify f : Tx σ ε Unit) s = (.ok (), f s) := rfl

@[simp] theorem lift_apply (r : Except ε α) (s : σ) : (lift r : Tx σ ε α) s = (r, s) := rfl

theorem bind_apply (x : Tx σ ε α) (f : α → Tx σ ε β) (s : σ) :
    (x >>= f) s = match x s with
      | (.ok a, s) => f a s
      | (.error e, s) => (.error e, s) := rfl

@[simp] theorem refuse_bind (c : Prop) [Decidable c] (e : ε) (f : Unit → Tx σ ε α) (s : σ) :
    (refuse c e >>= f) s = if c then (.error e, s) else f () s := by
  rw [bind_apply, refuse]
  by_cases h : c <;> simp [h]

@[simp] theorem read_bind (f : σ → Tx σ ε α) (s : σ) : (read >>= f) s = f s s := rfl

@[simp] theorem modify_bind (g : σ → σ) (f : Unit → Tx σ ε α) (s : σ) :
    (modify g >>= f) s = f () (g s) := rfl

variable {s s' : σ} {f : α → Tx σ ε β} {x : Tx σ ε α}

/-- **A sequence succeeds when both parts do.** -/
theorem bind_eq_ok {b : β} :
    (x >>= f) s = (.ok b, s') ↔ ∃ a s₁, x s = (.ok a, s₁) ∧ f a s₁ = (.ok b, s') := by
  rw [bind_apply]
  rcases x s with ⟨e | a, s₁⟩
  · simp
  · exact ⟨fun h => ⟨a, s₁, rfl, h⟩, fun ⟨a', s₂, hx, hf⟩ => by cases hx; exact hf⟩

variable {e : ε} {c : Prop}

theorem refuse_eq_ok [Decidable c] {u : Unit} :
    (refuse c e : Tx σ ε Unit) s = (.ok u, s') ↔ ¬ c ∧ s' = s := by
  rw [refuse]
  by_cases h : c <;> simp [h, eq_comm]

variable {a : α}

/-- A check that has passed. -/
theorem refuse_bind_eq_ok [Decidable c] {f : Unit → Tx σ ε α} :
    (refuse c e >>= f) s = (.ok a, s') ↔ ¬ c ∧ f () s = (.ok a, s') := by
  rw [refuse_bind]
  by_cases h : c <;> simp [h]

/-- A call that has succeeded. -/
theorem lift_bind_eq_ok {r : Except ε α} {b : β} :
    (lift r >>= f) s = (.ok b, s') ↔ ∃ a, r = .ok a ∧ f a s = (.ok b, s') := by
  rw [bind_eq_ok]
  constructor
  · rintro ⟨a, s₁, hr, hf⟩
    obtain ⟨rfl, rfl⟩ := Prod.mk.inj hr
    exact ⟨a, rfl, hf⟩
  · rintro ⟨a, rfl, hf⟩
    exact ⟨a, s, rfl, hf⟩

theorem mapError_eq_ok {δ : Type} {r : Except ε α} {f : ε → δ} :
    r.mapError f = .ok a ↔ r = .ok a := by
  cases r with
  | error e => exact iff_of_false (fun h => by cases h) (fun h => by cases h)
  | ok b =>
    rw [Except.ok.injEq]
    exact ⟨Except.ok.inj, fun h => congrArg Except.ok h⟩

/-- Rolling back changes nothing of a success. -/
theorem atomically_eq_ok : atomically x s = (.ok a, s') ↔ x s = (.ok a, s') := by
  rw [atomically]
  rcases x s with ⟨e | b, s₁⟩ <;> simp

theorem onError_eq_ok {g : σ → σ} : onError x g s = (.ok a, s') ↔ x s = (.ok a, s') := by
  rw [onError]
  rcases x s with ⟨e | b, s₁⟩ <;> simp

/-! ## Computations that write nothing when they fail -/

/-- A failure leaves the state as it was. -/
def Clean (x : Tx σ ε α) : Prop := ∀ s e s', x s = (.error e, s') → s' = s

/-- **A transaction that fails writes nothing.** -/
theorem clean_atomically (x : Tx σ ε α) : (atomically x).Clean := by
  intro s e s' h
  rw [atomically] at h
  split at h
  · cases h
  · cases h; rfl

theorem clean_pure (a : α) : (pure a : Tx σ ε α).Clean := nofun

theorem clean_modify (f : σ → σ) : (modify f : Tx σ ε Unit).Clean := nofun

theorem clean_throw (e : ε) : (throw e : Tx σ ε α).Clean := by
  intro s e' s' h
  cases h
  rfl

theorem clean_refuse_bind [Decidable c] {f : Unit → Tx σ ε α} (hf : (f ()).Clean) :
    (refuse c e >>= f).Clean := by
  intro s e' s' h
  rw [refuse_bind] at h
  split at h
  · cases h; rfl
  · exact hf s e' s' h

theorem clean_read_bind {f : σ → Tx σ ε α} (hf : ∀ s, (f s).Clean) : (read >>= f).Clean :=
  fun s e s' h => hf s s e s' h

theorem clean_bind_pure (hx : x.Clean) (f : α → β) : (x >>= fun a => pure (f a)).Clean := by
  intro s e s' h
  rw [bind_apply] at h
  rcases hr : x s with ⟨e' | a, t⟩
  · rw [hr] at h
    cases h
    exact hx s e s' hr
  · rw [hr] at h
    cases h

/-- A write before a computation that may fail, undone by hand. -/
theorem clean_bind_onError {g : σ → σ} (hx : x.Clean) (hf : ∀ a, (f a).Clean)
    (hg : ∀ s a s', x s = (.ok a, s') → g s' = s) : (x >>= fun a => onError (f a) g).Clean := by
  intro s e s' h
  rw [bind_apply] at h
  rcases hr : x s with ⟨e' | a, t⟩
  · rw [hr] at h
    cases h
    exact hx s e s' hr
  · rw [hr] at h
    dsimp only [onError] at h
    rcases hfr : f a t with ⟨e' | b, t'⟩
    · rw [hfr] at h
      cases h
      rw [hf a t e t' hfr]
      exact hg s a t hr
    · rw [hfr] at h
      cases h

/-! ## What holds however a computation ends -/

/-- Success or failure, `I` is kept. -/
def Keeps (I : σ → Prop) (x : Tx σ ε α) : Prop := ∀ s, I s → I (x s).2

section

variable {I : σ → Prop}

theorem keeps_pure (a : α) : (pure a : Tx σ ε α).Keeps I := fun _ hs => hs

theorem keeps_refuse (c : Prop) [Decidable c] (e : ε) : (refuse c e : Tx σ ε Unit).Keeps I := by
  intro s hs
  rw [refuse]
  split <;> exact hs

/-- An invariant is kept in sequence. -/
theorem keeps_bind {x : Tx σ ε α} {f : α → Tx σ ε β} (hx : x.Keeps I) (hf : ∀ a, (f a).Keeps I) :
    (x >>= f).Keeps I := by
  intro s hs
  have hs' := hx s hs
  rw [bind_apply]
  rcases hr : x s with ⟨e | a, t⟩
  · rw [hr] at hs'
    exact hs'
  · rw [hr] at hs'
    exact hf a t hs'

/-- A computation that starts by reading may use what it has read. -/
theorem keeps_read_bind {f : σ → Tx σ ε α} (hf : ∀ s, I s → I (f s s).2) :
    (read >>= f).Keeps I := hf

end

/-! ## A part of the state -/

section

variable {τ δ : Type} {get : σ → τ} {put : σ → τ → σ} {f : δ → ε} {x : Tx τ δ α}

/-- A part of the state is changed. -/
theorem zoom_eq_ok {s s' : σ} {a : α} (h : zoom get put f x s = (.ok a, s')) :
    ∃ t, x (get s) = (.ok a, t) ∧ s' = put s t := by
  obtain ⟨hok, rfl⟩ := Prod.mk.inj h
  exact ⟨_, Prod.ext (mapError_eq_ok.mp hok) rfl, rfl⟩

theorem clean_zoom (hput : ∀ s, put s (get s) = s) (hx : x.Clean) :
    (zoom get put f x).Clean := by
  intro s e s' h
  obtain ⟨herr, rfl⟩ := Prod.mk.inj h
  rcases hr : x (get s) with ⟨e' | a, t⟩
  · rw [hx (get s) e' t hr]
    exact hput s
  · rw [hr] at herr
    cases herr

end

end Tx
