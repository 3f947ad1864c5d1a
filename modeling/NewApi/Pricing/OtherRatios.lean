import Mathlib.Algebra.Order.BigOperators.GroupWithZero.List
import Mathlib.Tactic.Positivity
import NewApi.Pricing.GroupRatio

/-!
# Pricing/OtherRatios — the ratios of a task, estimated and adjusted

A task adaptor estimates ratios (duration, resolution) from the request and may replace them by
others when the upstream has answered (`relay/relay_task.go`, `types/price_data.go`).  `estimate`
multiplies the quota by the first ones unless the model is billed by the call; `adjust` divides the
quota by them and multiplies by the new ones, whether they were multiplied in or not.

The quota of the source is an integer.  Here the conversion is a parameter `toQuota`: the identity
for exact arithmetic, `quotaFromFloat` for the source's.

* `adjust_reprices_iff` — when an adjustment arrives at the price of an estimate with the new
  ratios.
* `adjust_truncated` — the same price where truncation has lost nothing.
-/

namespace Pricing

open List

/-- What the price of a task is before ratios. -/
structure TaskPrice where
  fixedPrice : Bool := false
  videoPriceConfigured : Bool := false
  quota : ℚ
  deriving DecidableEq

/-- …and with those that were noted. -/
structure RatedPrice extends TaskPrice where
  otherRatios : List (String × ℚ) := []
  deriving DecidableEq

/-- The task is billed by the call. -/
def TaskPrice.usesPerCallBilling (p : TaskPrice) (legacyPatch : Bool) : Bool :=
  p.fixedPrice || (legacyPatch && !p.videoPriceConfigured)

/-- A set of valid ratios, as adaptors reply them. -/
structure RatioSet where
  entries : List (String × ℚ)
  nodup : (entries.map Prod.fst).Nodup
  valid : ∀ r ∈ entries, 0 < r.2

/-! ## `PriceData` -/

/-- A ratio that counts. -/
def isValidOtherRatio (ratio : ℚ) : Bool := 0 < ratio

/-- A ratio is set, or replaced. -/
def addOtherRatio (ratios : List (String × ℚ)) (entry : String × ℚ) : List (String × ℚ) :=
  if isValidOtherRatio entry.2 then ratios.filter (·.1 ≠ entry.1) ++ [entry] else ratios

/-- `ReplaceOtherRatios`; its reply is whether any are left. -/
def replaceOtherRatios (ratios : List (String × ℚ)) : List (String × ℚ) :=
  ratios.foldl addOtherRatio []

/-- The ratios multiply a value. -/
def applyOtherRatiosToFloat (ratios : List (String × ℚ)) (value : ℚ) : ℚ :=
  value * otherRatioMultiplier ratios

/-- …and are divided out again. -/
def removeOtherRatiosFromFloat (ratios : List (String × ℚ)) (value : ℚ) : ℚ :=
  ratios.foldl (fun v r => if isValidOtherRatio r.2 ∧ r.2 ≠ 1 then v / r.2 else v) value

/-! ## `RelayTaskSubmit` -/

section Submit

variable (toQuota : ℚ → ℚ)

/-- Steps 5 and 6: the adaptor's ratios are noted, and applied unless the billing is per call. -/
def estimate (p : TaskPrice) (legacyPatch : Bool) (estimated : List (String × ℚ)) : RatedPrice :=
  let otherRatios := if p.fixedPrice then [] else estimated.foldl addOtherRatio []
  if p.usesPerCallBilling legacyPatch then { p with otherRatios }
  else { p with quota := toQuota (applyOtherRatiosToFloat otherRatios p.quota), otherRatios }

/-- A quote with other ratios. -/
def recalcQuotaFromRatios (p : RatedPrice) (ratios : List (String × ℚ)) : Option ℚ :=
  let baseQuota := removeOtherRatiosFromFloat p.otherRatios p.quota
  if replaceOtherRatios ratios = [] then none
  else some (toQuota (applyOtherRatiosToFloat (replaceOtherRatios ratios) baseQuota))

/-- Step 11, for a submission that has not failed: the adaptor may have replied other ratios. -/
def adjust (p : RatedPrice) (adjusted : List (String × ℚ)) : RatedPrice :=
  if p.fixedPrice then p
  else
    match recalcQuotaFromRatios toQuota p adjusted with
    | some quota => { p with quota, otherRatios := replaceOtherRatios adjusted }
    | none => p

end Submit

/-! ## Valid ratios -/

theorem foldl_addOtherRatio {l acc : List (String × ℚ)} (hv : ∀ r ∈ l, 0 < r.2)
    (hn : ((acc ++ l).map Prod.fst).Nodup) : l.foldl addOtherRatio acc = acc ++ l := by
  induction l generalizing acc with
  | nil => simp
  | cons r l ih =>
    have hfresh : acc.filter (·.1 ≠ r.1) = acc := by
      refine filter_eq_self.mpr fun x hx => decide_eq_true fun heq => ?_
      rw [map_append, nodup_append] at hn
      exact hn.2.2 x.1 (mem_map_of_mem hx) r.1 (by simp) heq
    have hvalid : isValidOtherRatio r.2 = true := decide_eq_true (hv r (by simp))
    rw [foldl_cons, addOtherRatio, if_pos hvalid, hfresh,
      ih (fun x hx => hv x (by simp [hx])) (by simpa using hn)]
    simp

@[simp] theorem RatioSet.replace (R : RatioSet) : replaceOtherRatios R.entries = R.entries :=
  foldl_addOtherRatio R.valid R.nodup

/-- What a set of ratios multiplies by. -/
def RatioSet.multiplier (R : RatioSet) : ℚ := otherRatioMultiplier R.entries

theorem multiplier_pos (ratios : List (String × ℚ)) : 0 < otherRatioMultiplier ratios := by
  refine prod_pos fun x hx => ?_
  simpa using (mem_filter.mp hx).2

/-- **Removing ratios undoes applying them.** -/
theorem removeOtherRatios_eq (ratios : List (String × ℚ)) (value : ℚ) :
    removeOtherRatiosFromFloat ratios value = value / otherRatioMultiplier ratios := by
  unfold removeOtherRatiosFromFloat
  induction ratios generalizing value with
  | nil => simp [otherRatioMultiplier]
  | cons r l ih =>
    rw [foldl_cons, ih]
    unfold otherRatioMultiplier isValidOtherRatio
    by_cases hpos : 0 < r.2
    · by_cases hone : r.2 = 1
      · simp [hone]
      · simp [hpos, hone, div_div]
    · simp [hpos]

/-! ## An estimate that is adjusted -/

section Adjusted

variable {toQuota : ℚ → ℚ} {p : TaskPrice} {legacyPatch : Bool} {R R' : RatioSet}

theorem RatioSet.multiplier_ne_zero (R : RatioSet) : R.multiplier ≠ 0 :=
  (multiplier_pos R.entries).ne'

theorem estimate_otherRatios (hfixed : p.fixedPrice = false) :
    (estimate toQuota p legacyPatch R.entries).otherRatios = R.entries := by
  have hfold : R.entries.foldl addOtherRatio [] = R.entries := R.replace
  unfold estimate
  simp only [hfixed, hfold, Bool.false_eq_true, if_false]
  split <;> rfl

theorem estimate_fixedPrice :
    (estimate toQuota p legacyPatch R.entries).fixedPrice = p.fixedPrice := by
  unfold estimate
  dsimp only
  split <;> rfl

theorem estimate_quota_perCall (h : p.usesPerCallBilling legacyPatch = true) :
    (estimate toQuota p legacyPatch R.entries).quota = p.quota := by
  unfold estimate
  dsimp only
  rw [if_pos h]

theorem estimate_quota (h : p.usesPerCallBilling legacyPatch = false) :
    (estimate toQuota p legacyPatch R.entries).quota = toQuota (p.quota * R.multiplier) := by
  have hfixed : p.fixedPrice = false := by
    unfold TaskPrice.usesPerCallBilling at h
    exact (Bool.or_eq_false_iff.mp h).1
  have hfold : R.entries.foldl addOtherRatio [] = R.entries := R.replace
  unfold estimate
  simp only [h, hfixed, hfold, Bool.false_eq_true, if_false]
  rfl

theorem adjust_fixed {q : RatedPrice} (h : q.fixedPrice = true) (ratios : List (String × ℚ)) :
    adjust toQuota q ratios = q := if_pos h

theorem adjust_nil (q : RatedPrice) : adjust toQuota q [] = q := by
  unfold adjust
  split <;> rfl

/-- **What an adjustment does**: the noted ratios go, the new ones come. -/
theorem adjust_eq {q : RatedPrice} (h : q.fixedPrice = false) (hR : R.entries ≠ []) :
    adjust toQuota q R.entries =
      { q with
        quota := toQuota (q.quota / otherRatioMultiplier q.otherRatios * R.multiplier)
        otherRatios := R.entries } := by
  have hrecalc : recalcQuotaFromRatios toQuota q R.entries =
      some (toQuota (q.quota / otherRatioMultiplier q.otherRatios * R.multiplier)) := by
    unfold recalcQuotaFromRatios
    dsimp only
    rw [R.replace, if_neg hR, removeOtherRatios_eq]
    rfl
  unfold adjust
  rw [h, if_neg Bool.false_ne_true, hrecalc, R.replace]

/-- **An adjustment re-prices from the base** where the estimate has applied its ratios and the
conversion has lost nothing. -/
theorem adjust_truncated (h : p.usesPerCallBilling legacyPatch = false) (hR' : R'.entries ≠ [])
    (hwhole : toQuota (p.quota * R.multiplier) = p.quota * R.multiplier) :
    (adjust toQuota (estimate toQuota p legacyPatch R.entries) R'.entries).quota =
      (estimate toQuota p legacyPatch R'.entries).quota := by
  have hfixed : p.fixedPrice = false := by
    unfold TaskPrice.usesPerCallBilling at h
    exact (Bool.or_eq_false_iff.mp h).1
  rw [adjust_eq (estimate_fixedPrice.trans hfixed) hR', estimate_otherRatios hfixed,
    estimate_quota h, estimate_quota h, hwhole]
  change toQuota (p.quota * R.multiplier / R.multiplier * R'.multiplier) = _
  rw [mul_div_cancel_right₀ _ R.multiplier_ne_zero]

/-- …and where it has not, a quota is multiplied by the new ratios and divided by the old. -/
theorem adjust_perCall (h : p.usesPerCallBilling legacyPatch = true) (hfixed : p.fixedPrice = false)
    (hR' : R'.entries ≠ []) :
    (adjust id (estimate id p legacyPatch R.entries) R'.entries).quota =
      p.quota / R.multiplier * R'.multiplier := by
  rw [adjust_eq (estimate_fixedPrice.trans hfixed) hR', estimate_otherRatios hfixed,
    estimate_quota_perCall h]
  rfl

theorem adjust_self :
    (adjust id (estimate id p legacyPatch R.entries) R.entries).quota =
      (estimate id p legacyPatch R.entries).quota := by
  cases hfixed : p.fixedPrice with
  | true => rw [adjust_fixed (estimate_fixedPrice.trans hfixed)]
  | false =>
    by_cases hR : R.entries = []
    · rw [hR, adjust_nil]
    · rw [adjust_eq (estimate_fixedPrice.trans hfixed) hR, estimate_otherRatios hfixed]
      exact div_mul_cancel₀ _ R.multiplier_ne_zero

/-- Of two adjustments the last counts. -/
theorem adjust_adjust {R'' : RatioSet} (q : RatedPrice) (hR' : R'.entries ≠ [])
    (hR'' : R''.entries ≠ []) :
    (adjust id (adjust id q R'.entries) R''.entries).quota = (adjust id q R''.entries).quota := by
  cases hfixed : q.fixedPrice with
  | true => rw [adjust_fixed hfixed, adjust_fixed hfixed]
  | false =>
    have hone := @adjust_eq id R' q hfixed hR'
    have hopen : (adjust id q R'.entries).fixedPrice = false := by
      rw [hone]
      exact hfixed
    rw [adjust_eq hopen hR'', adjust_eq hfixed hR'', hone]
    change q.quota / _ * R'.multiplier / R'.multiplier * R''.multiplier = _
    rw [mul_div_cancel_right₀ _ R'.multiplier_ne_zero]
    rfl

/-- **When an adjustment arrives at the price of an estimate with the new ratios**: always, except
for a model that is billed by the call through `TaskPricePatches`, whose estimate has left the
ratios out. -/
theorem adjust_reprices_iff {R'' : RatioSet} (hR' : R'.entries ≠ []) (hR'' : R''.entries ≠ []) :
    ((adjust id (estimate id p legacyPatch R.entries) R'.entries).quota =
        (if p.usesPerCallBilling legacyPatch then (estimate id p legacyPatch R.entries).quota
          else (estimate id p legacyPatch R'.entries).quota) ∧
      (adjust id (estimate id p legacyPatch R.entries) R.entries).quota =
        (estimate id p legacyPatch R.entries).quota ∧
      (adjust id (adjust id (estimate id p legacyPatch R.entries) R'.entries) R''.entries).quota =
        (adjust id (estimate id p legacyPatch R.entries) R''.entries).quota) ↔
    p.fixedPrice = true ∨ p.usesPerCallBilling legacyPatch = false ∨ p.quota = 0 ∨
      R.multiplier = R'.multiplier := by
  rw [and_iff_left ⟨adjust_self, adjust_adjust _ hR' hR''⟩]
  cases hfixed : p.fixedPrice with
  | true =>
    have hper : p.usesPerCallBilling legacyPatch = true := by
      rw [TaskPrice.usesPerCallBilling, hfixed, Bool.true_or]
    rw [adjust_fixed (estimate_fixedPrice.trans hfixed), if_pos hper]
    simp
  | false =>
    cases hper : p.usesPerCallBilling legacyPatch with
    | false =>
      rw [adjust_truncated hper hR' rfl, if_neg Bool.false_ne_true]
      simp
    | true =>
      rw [adjust_perCall hper hfixed hR', if_pos rfl, estimate_quota_perCall hper]
      have hne := R.multiplier_ne_zero
      have hcancel : p.quota / R.multiplier * R'.multiplier = p.quota ↔
          p.quota = 0 ∨ R.multiplier = R'.multiplier := by
        rw [div_mul_eq_mul_div, div_eq_iff hne, mul_eq_mul_left_iff, or_comm, eq_comm]
        tauto
      simpa using hcancel

end Adjusted

/-! ## Seconds of a video -/

/-- A video of so many seconds. -/
def seconds (n : ℕ) : RatioSet where
  entries := [("seconds", (n : ℚ) + 1)]
  nodup := by simp
  valid := by
    intro r hr
    rw [List.mem_singleton.mp hr]
    positivity

/-- A clip for a hundred units. -/
def clip : TaskPrice := { quota := 100 }

/-- Two seconds that turn out to be three, and then five. -/
theorem seconds_repriced :
    (adjust id (estimate id clip false (seconds 1).entries) (seconds 2).entries).quota =
        (estimate id clip false (seconds 2).entries).quota ∧
      (adjust id (adjust id (estimate id clip false (seconds 1).entries)
          (seconds 2).entries) (seconds 4).entries).quota =
        (adjust id (estimate id clip false (seconds 1).entries)
          (seconds 4).entries).quota := by
  have h := (@adjust_reprices_iff clip false (seconds 1) (seconds 2) (seconds 4)
    (by decide) (by decide)).mpr (.inr (.inl rfl))
  exact ⟨h.1, h.2.2⟩

/-- The same for a model that is billed by the call: its price becomes half as much again, although
seconds do not count. -/
theorem perCall_adjusted :
    clip.usesPerCallBilling true = true ∧
      (estimate id clip true (seconds 1).entries).quota = 100 ∧
      (adjust id (estimate id clip true (seconds 1).entries) (seconds 2).entries).quota = 150 ∧
      (adjust (fun v => quotaFromFloat v)
        (estimate (fun v => quotaFromFloat v) clip true (seconds 1).entries)
        (seconds 2).entries).quota = 150 := by
  decide +kernel

end Pricing
