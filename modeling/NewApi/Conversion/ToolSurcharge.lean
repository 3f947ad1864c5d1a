import NewApi.Conversion.TextQuota
import Mathlib.Data.String.Basic

/-!
# Conversion/ToolSurcharge — what the tools of a request cost

`calculateTextToolCallSurcharge` (`service/text_quota.go`) collects the calls of priced tools from
four places, merges those of one name and adds up their prices.

* `surcharge_eq_sum` — by names: each is charged for all its calls, up to the largest `int`.
* `surcharge_mono` — more calls never cost less.
-/

namespace Conversion

open GoInt List

/-- Calls of a tool and what a thousand of them cost. -/
structure ToolSurchargeItem where
  name : String
  count : ℤ
  price : ℚ
  deriving DecidableEq

/-- Where the calls of tools are read from. -/
structure ToolCalls where
  builtInTools : List (String × ℤ) := []
  responsesMode : Bool := false
  claudeWebSearchRequests : ℤ := 0
  geminiGoogleSearchCall : Bool := false
  /-- The counts of the source are of type `int`. -/
  inRange : (∀ t ∈ builtInTools, t.2 ≤ maxInt) ∧ claudeWebSearchRequests ≤ maxInt := by decide

section Collect

variable (S : QuotaSettings)

/-- Calls of a tool that has a price. -/
def collectToolSurchargeItem (items : List ToolSurchargeItem) (name : String) (count : ℤ)
    (modelName : String) : List ToolSurchargeItem :=
  if count ≤ 0 then items
  else
    let price := S.getToolPriceForModel name modelName
    if price ≤ 0 then items else items ++ [⟨name, count, price⟩]

/-- The names and counts of calls, in the order they are collected. -/
def ToolCalls.counts (tools : ToolCalls) (modelName : String) : List (String × ℤ) :=
  tools.builtInTools ++
    (if !tools.responsesMode && modelName.endsWith "search-preview" then
      [("web_search_preview", 1)] else []) ++
    [("web_search", tools.claudeWebSearchRequests)] ++
    (if tools.geminiGoogleSearchCall then [("google_search", 1)] else [])

/-- The tools of a reply that have a price. -/
def collectToolSurchargeItems (tools : ToolCalls) (modelName : String) : List ToolSurchargeItem :=
  (tools.counts modelName).foldl
    (fun items c => collectToolSurchargeItem S items c.1 c.2 modelName) []

/-- The order of `sort.Slice`. -/
def itemLE (a b : ToolSurchargeItem) : Prop :=
  a.name < b.name ∨ a.name = b.name ∧ a.price ≤ b.price

instance : DecidableRel itemLE := fun _ _ => inferInstanceAs (Decidable (_ ∨ _))

/-- The sum of two counts, which stops at the largest `int`. -/
def addCounts (a b : ℤ) : ℤ := if maxInt - a < b then maxInt else a + b

/-- One round of the merge; the last merged item is in front. -/
def mergeStep (merged : List ToolSurchargeItem) (item : ToolSurchargeItem) :
    List ToolSurchargeItem :=
  match merged with
  | [] => [item]
  | last :: rest =>
    if last.name = item.name ∧ last.price = item.price then
      { last with count := addCounts last.count item.count } :: rest
    else item :: merged

/-- One item for each tool and price. -/
def mergeToolSurchargeItems (items : List ToolSurchargeItem) : List ToolSurchargeItem :=
  ((items.insertionSort itemLE).foldl mergeStep []).reverse

/-- What the tools of a reply cost. -/
def calculateTextToolCallSurcharge (relay : TextRelay) (tools : ToolCalls) :
    ℚ :=
  ((mergeToolSurchargeItems
    (collectToolSurchargeItems S tools relay.modelName)).map
      fun item => item.price * item.count / 1000 * S.quotaPerUnit * relay.groupRatio).sum

end Collect

/-! ## The calls of one name -/

/-- All the calls of one name. -/
def callsOf (name : String) (items : List ToolSurchargeItem) : ℤ :=
  ((items.filter (·.name = name)).map ToolSurchargeItem.count).sum

section Merge

variable {items : List ToolSurchargeItem} {item : ToolSurchargeItem} {name : String}
  {price : String → ℚ}

@[simp] theorem callsOf_nil : callsOf name [] = 0 := rfl

theorem callsOf_cons : callsOf name (item :: items) =
    (if item.name = name then item.count else 0) + callsOf name items := by
  unfold callsOf
  by_cases h : item.name = name <;> simp [h]

theorem callsOf_append (l : List ToolSurchargeItem) :
    callsOf name (items ++ l) = callsOf name items + callsOf name l := by
  simp [callsOf]

/-- The order of items does not matter. -/
theorem callsOf_perm {l : List ToolSurchargeItem} (h : items.Perm l) :
    callsOf name items = callsOf name l :=
  ((h.filter _).map _).sum_eq

theorem callsOf_eq_zero (h : ∀ i ∈ items, i.name ≠ name) : callsOf name items = 0 := by
  have hnone : items.filter (·.name = name) = [] :=
    filter_eq_nil_iff.2 fun i hi => by simpa using h i hi
  rw [callsOf, hnone]
  rfl

/-- An item of a tool with a price, with as many calls as were counted. -/
structure PricedItem (price : String → ℚ) (item : ToolSurchargeItem) : Prop where
  price_eq : item.price = price item.name
  nonneg : 0 ≤ item.price
  count_pos : 0 < item.count
  count_le : item.count ≤ maxInt

theorem callsOf_nonneg (h : ∀ i ∈ items, PricedItem price i) : 0 ≤ callsOf name items := by
  refine sum_nonneg fun c hc => ?_
  obtain ⟨i, hi, rfl⟩ := mem_map.1 hc
  exact (h i (mem_of_mem_filter hi)).count_pos.le

/-- Counts saturate. -/
theorem addCounts_eq {a b : ℤ} : addCounts a b = min maxInt (a + b) := by
  unfold addCounts
  split_ifs <;> omega

/-- What the merge has made of the items before. -/
structure Merged (price : String → ℚ) (done merged : List ToolSurchargeItem) : Prop where
  priced : ∀ i ∈ merged, PricedItem price i
  falling : merged.Pairwise fun a b => b.name < a.name
  names : ∀ d ∈ done, ∃ i ∈ merged, i.name = d.name
  back : ∀ i ∈ merged, ∃ d ∈ done, d.name = i.name
  calls : ∀ name, callsOf name merged = min maxInt (callsOf name done)

variable {done merged rest : List ToolSurchargeItem} {last : ToolSurchargeItem}

theorem callsOf_concat : callsOf name (done ++ [item]) =
    callsOf name done + if item.name = name then item.count else 0 := by
  rw [callsOf_append, callsOf_cons, callsOf_nil, add_zero]

/-- An item of the name that was merged last. -/
theorem Merged.grow (h : Merged price done (last :: rest)) (hitem : PricedItem price item)
    (hname : last.name = item.name) (hdone : ∀ d ∈ done, PricedItem price d) :
    Merged price (done ++ [item])
      ({ last with count := addCounts last.count item.count } :: rest) := by
  have hlast := h.priced last mem_cons_self
  have hlpos := hlast.count_pos
  have hpos := hitem.count_pos
  have hfalling := pairwise_cons.1 h.falling
  refine ⟨?_, pairwise_cons.2 hfalling, ?_, ?_, ?_⟩
  · intro i hi
    rcases mem_cons.1 hi with rfl | hi
    · have hmax : 0 < maxInt := by decide
      refine ⟨hlast.price_eq, hlast.nonneg, ?_, ?_⟩ <;> dsimp only <;> rw [addCounts_eq] <;> omega
    · exact h.priced i (mem_cons_of_mem _ hi)
  · intro d hd
    have hold : ∃ i ∈ last :: rest, i.name = d.name := by
      rcases mem_append.1 hd with hd | hd
      · exact h.names d hd
      · exact ⟨last, mem_cons_self, by rw [mem_singleton.1 hd, hname]⟩
    obtain ⟨i, hi, heq⟩ := hold
    rcases mem_cons.1 hi with rfl | hi
    · exact ⟨_, mem_cons_self, heq⟩
    · exact ⟨i, mem_cons_of_mem _ hi, heq⟩
  · intro i hi
    rcases mem_cons.1 hi with rfl | hi
    · exact ⟨item, by simp, hname.symm⟩
    · obtain ⟨d, hd, heq⟩ := h.back i (mem_cons_of_mem _ hi)
      exact ⟨d, mem_append_left _ hd, heq⟩
  · intro name
    have hold := h.calls name
    have hdpos : 0 ≤ callsOf name done := callsOf_nonneg hdone
    rw [callsOf_cons] at hold ⊢
    dsimp only
    rw [callsOf_concat, addCounts_eq, hname]
    rw [hname] at hold
    by_cases hn : item.name = name
    · have hrest : callsOf name rest = 0 := by
        refine callsOf_eq_zero fun i hi => ?_
        rw [← hn, ← hname]
        exact (hfalling.1 i hi).ne
      rw [if_pos hn] at hold ⊢
      rw [if_pos hn]
      omega
    · rw [if_neg hn] at hold ⊢
      rw [if_neg hn, add_zero]
      exact hold

section

variable (h : Merged price done merged) (hitem : PricedItem price item)

include h hitem

/-- An item of a new name. -/
theorem Merged.cons (hnew : ∀ i ∈ merged, i.name < item.name) :
    Merged price (done ++ [item]) (item :: merged) := by
  have hle := hitem.count_le
  refine ⟨forall_mem_cons.2 ⟨hitem, h.priced⟩, pairwise_cons.2 ⟨hnew, h.falling⟩,
    ?_, ?_, ?_⟩
  · intro d hd
    rcases mem_append.1 hd with hd | hd
    · obtain ⟨i, hi, heq⟩ := h.names d hd
      exact ⟨i, mem_cons_of_mem _ hi, heq⟩
    · rw [mem_singleton.1 hd]
      exact ⟨item, mem_cons_self, rfl⟩
  · intro i hi
    rcases mem_cons.1 hi with rfl | hi
    · exact ⟨i, by simp, rfl⟩
    · obtain ⟨d, hd, heq⟩ := h.back i hi
      exact ⟨d, mem_append_left _ hd, heq⟩
  · intro name
    rw [callsOf_cons, callsOf_concat, h.calls]
    by_cases hn : item.name = name
    · have hnone : callsOf name done = 0 := by
        refine callsOf_eq_zero fun d hd hc => ?_
        obtain ⟨i, hi, heq⟩ := h.names d hd
        exact (hnew i hi).ne (heq.trans (hc.trans hn.symm))
      have hmax : 0 ≤ maxInt := by decide
      rw [if_pos hn, hnone, min_eq_right hmax, zero_add, add_zero, min_eq_right hle]
    · rw [if_neg hn, zero_add, add_zero]

/-- One more item is merged. -/
theorem Merged.step (hdone : ∀ d ∈ done, PricedItem price d)
    (hle : ∀ d ∈ done, d.name ≤ item.name) :
    Merged price (done ++ [item]) (mergeStep merged item) := by
  cases merged with
  | nil => exact h.cons hitem nofun
  | cons last rest =>
    obtain ⟨e, he, hlast⟩ := h.back last mem_cons_self
    have hprice := (h.priced last mem_cons_self).price_eq
    rw [mergeStep]
    split_ifs with hsame
    · exact h.grow hitem hsame.1 hdone
    · have hne : last.name ≠ item.name :=
        fun hc => hsame ⟨hc, by rw [hprice, hitem.price_eq, hc]⟩
      have hlt : last.name < item.name := lt_of_le_of_ne (hlast ▸ hle e he) hne
      refine h.cons hitem (forall_mem_cons.2 ⟨hlt, fun i hi => ?_⟩)
      exact ((pairwise_cons.1 h.falling).1 i hi).trans hlt

end

theorem itemLE_trans {a b c : ToolSurchargeItem} (h : itemLE a b) (h' : itemLE b c) :
    itemLE a c := by
  rcases h with h | ⟨h, hp⟩
  · rcases h' with h' | ⟨h', -⟩
    · exact .inl (h.trans h')
    · exact .inl (h' ▸ h)
  · rcases h' with h' | ⟨h', hp'⟩
    · exact .inl (h ▸ h')
    · exact .inr ⟨h.trans h', hp.trans hp'⟩

theorem itemLE_total (a b : ToolSurchargeItem) : itemLE a b ∨ itemLE b a := by
  rcases lt_trichotomy a.name b.name with h | h | h
  · exact .inl (.inl h)
  · exact (le_total a.price b.price).imp (fun hp => .inr ⟨h, hp⟩) fun hp => .inr ⟨h.symm, hp⟩
  · exact .inr (.inl h)

instance : IsTrans ToolSurchargeItem itemLE := ⟨fun _ _ _ => itemLE_trans⟩

instance : Std.Total itemLE := ⟨itemLE_total⟩

/-- All items are merged. -/
theorem merged_foldl (h : Merged price done merged) (hdone : ∀ d ∈ done, PricedItem price d)
    (hitems : ∀ i ∈ items, PricedItem price i) (hsorted : (done ++ items).Pairwise itemLE) :
    Merged price (done ++ items) (items.foldl mergeStep merged) := by
  induction items generalizing done merged with
  | nil => rwa [append_nil]
  | cons item items ih =>
    have hitem := hitems item mem_cons_self
    have hle : ∀ d ∈ done, d.name ≤ item.name := by
      intro d hd
      rcases (pairwise_append.1 hsorted).2.2 d hd item mem_cons_self with h | h
      · exact h.le
      · exact h.1.le
    have hdone' : ∀ d ∈ done ++ [item], PricedItem price d :=
      forall_mem_append.2 ⟨hdone, forall_mem_singleton.2 hitem⟩
    rw [append_cons] at hsorted ⊢
    exact ih (h.step hitem hdone hle) hdone' (fun i hi => hitems i (mem_cons_of_mem _ hi))
      hsorted

/-- **A merge keeps the calls of every name**, up to the largest `int`. -/
theorem merged_mergeToolSurchargeItems (hitems : ∀ i ∈ items, PricedItem price i) :
    Merged price (items.insertionSort itemLE)
      ((items.insertionSort itemLE).foldl mergeStep []) := by
  have hstart : Merged price [] [] :=
    ⟨nofun, List.Pairwise.nil, nofun, nofun, fun _ => rfl⟩
  have hsorted := pairwise_insertionSort itemLE items
  exact merged_foldl hstart nofun
    (fun i hi => hitems i ((perm_insertionSort itemLE items).mem_iff.1 hi)) hsorted

/-- The surcharge, tool by tool. -/
theorem sum_price_eq {K : Finset String} (hnames : ∀ i ∈ items, i.name ∈ K)
    (hitems : ∀ i ∈ items, PricedItem price i) :
    (items.map fun i => i.price * (i.count : ℚ)).sum = ∑ n ∈ K, price n * callsOf n items := by
  induction items with
  | nil => simp
  | cons i items ih =>
    have hi := hnames i mem_cons_self
    have hterm : ∀ n, price n * (callsOf n (i :: items) : ℤ) =
        (if i.name = n then price n * i.count else 0) + price n * callsOf n items := by
      intro n
      rw [callsOf_cons]
      split_ifs <;> push_cast <;> ring
    rw [map_cons, sum_cons, Finset.sum_congr rfl fun n _ => hterm n,
      Finset.sum_add_distrib, Finset.sum_ite_eq, if_pos hi,
      ih (fun j hj => hnames j (mem_cons_of_mem _ hj))
        fun j hj => hitems j (mem_cons_of_mem _ hj),
      (hitems i mem_cons_self).price_eq]

end Merge

/-! ## Collecting -/

section Collected

variable {S : QuotaSettings} {modelName : String}

/-- The calls of one name that are charged. -/
def chargedCalls (price : ℚ) (name : String) (counts : List (String × ℤ)) : ℤ :=
  (counts.map fun c => if c.1 = name ∧ 0 < price then max c.2 0 else 0).sum

variable (items : List ToolSurchargeItem)

theorem callsOf_collect (c : String × ℤ) (name : String) :
    callsOf name (collectToolSurchargeItem S items c.1 c.2 modelName) =
      callsOf name items +
        if c.1 = name ∧ 0 < S.getToolPriceForModel name modelName then max c.2 0 else 0 := by
  rw [collectToolSurchargeItem]
  by_cases hcount : c.2 ≤ 0
  · rw [if_pos hcount, max_eq_right hcount, ite_self, add_zero]
  rw [if_neg hcount]
  by_cases hprice : S.getToolPriceForModel c.1 modelName ≤ 0
  · rw [if_pos hprice, if_neg (fun hc => (hc.1 ▸ hprice).not_gt hc.2), add_zero]
  rw [if_neg hprice, callsOf_concat, max_eq_left (not_le.1 hcount).le]
  refine congrArg _ (if_congr ⟨fun hc => ⟨hc, ?_⟩, And.left⟩ rfl rfl)
  exact hc ▸ not_le.1 hprice

/-- The calls that are collected. -/
theorem callsOf_collected (counts : List (String × ℤ)) (name : String) :
    callsOf name (counts.foldl (fun items c =>
        collectToolSurchargeItem S items c.1 c.2 modelName) items) =
      callsOf name items + chargedCalls (S.getToolPriceForModel name modelName) name counts := by
  induction counts generalizing items with
  | nil => simp [chargedCalls]
  | cons c counts ih =>
    rw [foldl_cons, ih, callsOf_collect, chargedCalls, chargedCalls, map_cons,
      sum_cons, add_assoc]

theorem priced_collected {items : List ToolSurchargeItem} {counts : List (String × ℤ)}
    (hitems : ∀ i ∈ items, PricedItem (S.getToolPriceForModel · modelName) i)
    (hcounts : ∀ c ∈ counts, c.2 ≤ maxInt) :
    ∀ i ∈ counts.foldl (fun items c =>
        collectToolSurchargeItem S items c.1 c.2 modelName) items,
      PricedItem (S.getToolPriceForModel · modelName) i := by
  induction counts generalizing items with
  | nil => exact hitems
  | cons c counts ih =>
    obtain ⟨hc, hcounts⟩ := forall_mem_cons.1 hcounts
    refine ih ?_ hcounts
    unfold collectToolSurchargeItem
    dsimp only
    split_ifs with hcount hprice
    · exact hitems
    · exact hitems
    · rw [not_le] at hcount hprice
      exact forall_mem_append.2
        ⟨hitems, forall_mem_singleton.2 ⟨rfl, hprice.le, hcount, hc⟩⟩

/-! ## More calls -/

/-- No tool was called less often. -/
structure ToolCalls.LE (tools tools' : ToolCalls) : Prop where
  builtIn : List.Forall₂ (fun a b => a.1 = b.1 ∧ a.2 ≤ b.2) tools.builtInTools tools'.builtInTools
  webSearch : tools.claudeWebSearchRequests ≤ tools'.claudeWebSearchRequests
  mode : tools.responsesMode = tools'.responsesMode
  gemini : tools.geminiGoogleSearchCall = tools'.geminiGoogleSearchCall

variable {tools tools' : ToolCalls}

theorem ToolCalls.LE.counts (h : tools.LE tools') :
    List.Forall₂ (fun a b => a.1 = b.1 ∧ a.2 ≤ b.2) (tools.counts modelName)
      (tools'.counts modelName) := by
  have hrefl : ∀ l : List (String × ℤ), List.Forall₂ (fun a b => a.1 = b.1 ∧ a.2 ≤ b.2) l l :=
    fun l => forall₂_same.2 fun _ _ => ⟨rfl, le_rfl⟩
  rw [ToolCalls.counts, ToolCalls.counts, h.mode, h.gemini]
  refine rel_append (rel_append (rel_append h.builtIn (hrefl _)) ?_) (hrefl _)
  exact List.Forall₂.cons ⟨rfl, h.webSearch⟩ .nil

/-- Of more calls no fewer are charged. -/
theorem chargedCalls_mono {counts counts' : List (String × ℤ)} (price : ℚ) (name : String)
    (h : List.Forall₂ (fun a b => a.1 = b.1 ∧ a.2 ≤ b.2) counts counts') :
    chargedCalls price name counts ≤ chargedCalls price name counts' := by
  induction h with
  | nil => exact le_rfl
  | cons hab _ ih =>
    rw [chargedCalls, chargedCalls, map_cons, map_cons, sum_cons, sum_cons,
      hab.1]
    refine add_le_add ?_ ih
    split_ifs
    · exact max_le_max_right 0 hab.2
    · exact le_rfl

variable (tools)

theorem ToolCalls.counts_le_maxInt : ∀ c ∈ tools.counts modelName, c.2 ≤ maxInt := by
  have hone : (1 : ℤ) ≤ maxInt := by decide
  intro c hc
  simp only [ToolCalls.counts, mem_append, mem_singleton] at hc
  rcases hc with ((hc | hc) | rfl) | hc
  · exact tools.inRange.1 c hc
  · split_ifs at hc
    · rwa [mem_singleton.1 hc]
    · cases hc
  · exact tools.inRange.2
  · split_ifs at hc
    · rwa [mem_singleton.1 hc]
    · cases hc

/-- What is collected has a price. -/
theorem priced_items :
    ∀ i ∈ collectToolSurchargeItems S tools modelName,
      PricedItem (S.getToolPriceForModel · modelName) i :=
  priced_collected nofun tools.counts_le_maxInt

variable {relay : TextRelay}

/-- **Each name is charged for all its calls**, up to the largest `int`. -/
theorem surcharge_eq_sum {K : Finset String}
    (hK : ∀ i ∈ collectToolSurchargeItems S tools relay.modelName, i.name ∈ K) :
    calculateTextToolCallSurcharge S relay tools =
      (∑ n ∈ K, S.getToolPriceForModel n relay.modelName *
        (min maxInt (chargedCalls (S.getToolPriceForModel n relay.modelName) n
          (tools.counts relay.modelName)) : ℤ)) * (S.quotaPerUnit * relay.groupRatio / 1000) := by
  have hmerged := merged_mergeToolSurchargeItems
    (@priced_items S relay.modelName tools)
  have hperm := perm_insertionSort itemLE
    (collectToolSurchargeItems S tools relay.modelName)
  have hnames : ∀ i ∈ ((collectToolSurchargeItems S tools
      relay.modelName).insertionSort itemLE).foldl mergeStep [], i.name ∈ K := by
    intro i hi
    obtain ⟨d, hd, heq⟩ := hmerged.back i hi
    exact heq ▸ hK d (hperm.mem_iff.1 hd)
  have hterm : ∀ i : ToolSurchargeItem, i.price * i.count / 1000 * S.quotaPerUnit *
      relay.groupRatio = i.price * i.count * (S.quotaPerUnit * relay.groupRatio / 1000) := by
    intro i
    ring
  rw [calculateTextToolCallSurcharge, mergeToolSurchargeItems, map_reverse, sum_reverse,
    map_congr_left fun i _ => hterm i, sum_map_mul_right,
    sum_price_eq hnames hmerged.priced]
  refine congrArg (· * _) (Finset.sum_congr rfl fun n _ => ?_)
  rw [hmerged.calls, callsOf_perm hperm, collectToolSurchargeItems, callsOf_collected,
    callsOf_nil, zero_add]

section Unit

variable {tools} (hunit : 0 ≤ S.quotaPerUnit) (hgroup : 0 ≤ relay.groupRatio)
include hunit hgroup

/-- **More calls never cost less.** -/
theorem surcharge_mono (h : tools.LE tools') :
    calculateTextToolCallSurcharge S relay tools ≤
      calculateTextToolCallSurcharge S relay tools' := by
  let names (t : ToolCalls) : Finset String := ((collectToolSurchargeItems S t
    relay.modelName).map ToolSurchargeItem.name).toFinset
  have hmem : ∀ t, ∀ i ∈ collectToolSurchargeItems S t relay.modelName,
      i.name ∈ names t :=
    fun t i hi => mem_toFinset.2 (mem_map_of_mem hi)
  rw [surcharge_eq_sum tools fun i hi => Finset.mem_union_left (names tools') (hmem tools i hi),
    surcharge_eq_sum tools' fun i hi => Finset.mem_union_right (names tools) (hmem tools' i hi)]
  refine mul_le_mul_of_nonneg_right (Finset.sum_le_sum fun n _ => ?_) (by positivity)
  have hle := chargedCalls_mono (S.getToolPriceForModel n relay.modelName) n
    (h.counts : List.Forall₂ _ (tools.counts relay.modelName) _)
  rcases le_or_gt (S.getToolPriceForModel n relay.modelName) 0 with hprice | hprice
  · have hnone : ∀ counts, chargedCalls (S.getToolPriceForModel n relay.modelName)
        n counts = 0 := by
      intro counts
      refine sum_eq_zero fun x hx => ?_
      obtain ⟨c, -, rfl⟩ := mem_map.1 hx
      exact if_neg fun hc => hprice.not_gt hc.2
    rw [hnone, hnone]
  · exact mul_le_mul_of_nonneg_left (Int.cast_le.2 (min_le_min_left _ hle)) hprice.le

/-- A tool is never paid for being called. -/
theorem surcharge_nonneg (tools : ToolCalls) :
    0 ≤ calculateTextToolCallSurcharge S relay tools := by
  refine sum_nonneg fun x hx => ?_
  obtain ⟨i, hi, rfl⟩ := mem_map.1 hx
  have hi' := (merged_mergeToolSurchargeItems (priced_items tools)).priced i (mem_reverse.1 hi)
  have hprice := hi'.nonneg
  have hcount : (0 : ℚ) ≤ i.count := Int.cast_nonneg hi'.count_pos.le
  positivity

end Unit

end Collected

end Conversion
