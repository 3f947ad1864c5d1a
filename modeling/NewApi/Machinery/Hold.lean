import NewApi.Machinery.Runs

/-!
# Machinery/Hold — a hold on an account, settled or released once

A hold is opened with an amount, may be raised, and closes in one of two ways: it is settled at a
final amount, or released.  Closing is final.
-/

namespace Hold

variable {α : Type*} [AddMonoid α]

/-- A hold: open with an amount, settled, released or forfeited. -/
inductive State (α : Type*) where
  | opened (held : α)
  | settled (amount : α)
  | released

/-- What is done with a hold. -/
inductive Op (α : Type*) where
  | raise (more : α)
  | settle (amount : α)
  | release

/-- One operation; a hold is closed once. -/
def step : State α → Op α → State α
  | .opened held, .raise more => .opened (held + more)
  | .opened _, .settle amount => .settled amount
  | .opened _, .release => .released
  | s, _ => s

end Hold
