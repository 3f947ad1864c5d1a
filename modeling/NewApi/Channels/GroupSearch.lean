import Mathlib.Algebra.Order.Ring.Int
import Mathlib.Data.List.Basic
import Mathlib.Tactic.SplitIfs

/-!
# Channels/GroupSearch — the groups in which a channel is looked for

`CacheGetRandomSatisfiedChannel` (`service/channel_select.go`), which both the loop of `Relay` and
that of a task submission ask for a channel.  It sets the retry counter back whenever it moves on to
another group.

* `searchGroups_found` — where a search ends and what it leaves behind.
-/

namespace Channels

open List Or

/-- The reply of `GetRandomSatisfiedChannel`. -/
inductive Reply where
  | error | none
  | found (id : ℕ)
  deriving DecidableEq

/-- `service.RetryParam`, with the context's `AutoGroupIndex` (absent is `0`). -/
structure RetryParam where
  retry : ℕ := 0
  resetNextTry : Bool := false
  autoGroupIndex : ℕ := 0
  deriving DecidableEq

/-- The counter goes on, unless it was just set back. -/
def RetryParam.increaseRetry (p : RetryParam) : RetryParam :=
  if p.resetNextTry then { p with resetNextTry := false } else { p with retry := p.retry + 1 }

@[simp] theorem RetryParam.increaseRetry_resetNextTry (p : RetryParam) :
    p.increaseRetry.resetNextTry = false := by
  unfold RetryParam.increaseRetry
  split
  · rfl
  · next h => simpa using h

@[simp] theorem RetryParam.increaseRetry_autoGroupIndex (p : RetryParam) :
    p.increaseRetry.autoGroupIndex = p.autoGroupIndex := by
  unfold RetryParam.increaseRetry
  split <;> rfl

/-- What the loop is configured with. -/
structure LoopConfig where
  /-- `common.RetryTimes`. -/
  retryTimes : ℤ := 0
  tokenGroup : String := ""
  /-- `GetRequestAutoGroups`. -/
  requestAutoGroups : List String := []
  /-- The token's `cross_group_retry`. -/
  tokenCrossGroupRetry : Bool := false
  fallbackGroups : List String := []
  /-- The request is bound to a channel (`LockedChannel`). -/
  lockedChannel : Bool := false
  /-- `ChannelMeta` is set before the first attempt. -/
  channelMeta : Bool := false

/-- The groups searched in order, empty when only the token's own group is asked, and whether a
group that is out of retries hands over to the next. -/
def LoopConfig.autoGroups (cfg : LoopConfig) : List String × Bool :=
  if cfg.tokenGroup = "auto" then (cfg.requestAutoGroups, cfg.tokenCrossGroupRetry)
  else if cfg.fallbackGroups ≠ [] then (cfg.tokenGroup :: cfg.fallbackGroups, true)
  else ([], false)

/-! ## The search -/

/-- A selection: the reply, the place of its group in the list, and the parameters it leaves. -/
structure Selection where
  reply : Reply
  place : ℕ
  param : RetryParam

/-- The loop of `CacheGetRandomSatisfiedChannel` from the group with index `i` on. -/
def searchGroups (crossGroupRetry : Bool) (retryTimes : ℤ) (lookup : String → ℕ → Reply) :
    List String → ℕ → ℕ → RetryParam → Selection
  | [], i, _, p => ⟨.none, i, p⟩
  | group :: groups, i, priorityRetry, p =>
    match lookup group priorityRetry with
    | .error => ⟨.error, i, p⟩
    | .none =>
      searchGroups crossGroupRetry retryTimes lookup groups (i + 1) 0
        { p with autoGroupIndex := i + 1, retry := 0 }
    | .found id =>
      -- the group's last try: the next attempt starts over in the next group
      if crossGroupRetry ∧ retryTimes ≤ priorityRetry then
        ⟨.found id, i, { autoGroupIndex := i + 1, retry := 0, resetNextTry := true }⟩
      else ⟨.found id, i, { p with autoGroupIndex := i }⟩

/-- A channel of the token's group, or of the groups searched. -/
def cacheGetRandomSatisfiedChannel (cfg : LoopConfig) (lookup : String → ℕ → Reply)
    (p : RetryParam) : Selection :=
  if cfg.tokenGroup = "auto" ∧ cfg.requestAutoGroups = [] then ⟨.error, 0, p⟩
  else if cfg.autoGroups.1 = [] then ⟨lookup cfg.tokenGroup p.retry, 0, p⟩
  else searchGroups cfg.autoGroups.2 cfg.retryTimes lookup
    (cfg.autoGroups.1.drop p.autoGroupIndex) p.autoGroupIndex p.retry p

/-! ## What a search leaves behind -/

/-- The parameters after a channel is found at place `i`. -/
def leave (crossGroupRetry : Bool) (retryTimes : ℤ) (i priorityRetry : ℕ) (p : RetryParam) :
    RetryParam :=
  if crossGroupRetry ∧ retryTimes ≤ priorityRetry then
    { autoGroupIndex := i + 1, retry := 0, resetNextTry := true }
  else { p with autoGroupIndex := i }

/-- How a search through `groups` that finds a channel ends: in the first group, or in a later one
with the counter set back. -/
inductive Lands (crossGroupRetry : Bool) (retryTimes : ℤ) (lookup : String → ℕ → Reply)
    (groups : List String) (i priorityRetry : ℕ) (p : RetryParam) (id : ℕ) (out : Selection) : Prop
  | here (hfound : ∃ group ∈ groups.head?, lookup group priorityRetry = .found id)
      (hplace : out.place = i)
      (hparam : out.param = leave crossGroupRetry retryTimes i priorityRetry p)
  | later (hlater : i < out.place) (hrange : out.place < i + groups.length)
      (hempty : ∀ group ∈ groups.head?, lookup group priorityRetry = .none)
      (hfound : ∃ group ∈ groups.tail, lookup group 0 = .found id)
      (hparam : out.param = leave crossGroupRetry retryTimes out.place 0 { p with retry := 0 })

section

variable {cross : Bool} {times : ℤ} {lookup : String → ℕ → Reply} {groups : List String}
  {i priority id : ℕ} {p : RetryParam}

/-- **Where a search ends**, and what it leaves behind. -/
theorem searchGroups_found
    (h : (searchGroups cross times lookup groups i priority p).reply = .found id) :
    Lands cross times lookup groups i priority p id
      (searchGroups cross times lookup groups i priority p) := by
  induction groups generalizing i priority p with
  | nil => cases h
  | cons group groups ih =>
    rw [searchGroups] at h ⊢
    cases hlookup : lookup group priority with
    | error =>
      rw [hlookup] at h
      cases h
    | none =>
      rw [hlookup] at h
      dsimp only at h ⊢
      have hempty : ∀ g ∈ (group :: groups).head?, lookup g priority = .none := by
        rintro g ⟨⟩
        exact hlookup
      cases ih h with
      | here hfound hplace hparam =>
        obtain ⟨next, hnext, hfound⟩ := hfound
        have hmem : next ∈ groups := mem_of_mem_head? hnext
        refine .later (by omega) ?_ hempty ⟨next, hmem, hfound⟩ ?_
        · have hpos := length_pos_of_mem hmem
          rw [length_cons, hplace]
          omega
        · rw [hparam, hplace]
          rfl
      | later hlater hrange _ hfound hparam =>
        refine .later (by omega) ?_ hempty ?_ ?_
        · rw [length_cons]
          omega
        · obtain ⟨g, hg, hfound⟩ := hfound
          exact ⟨g, mem_of_mem_tail hg, hfound⟩
        · rw [hparam]
          rfl
    | found id' =>
      rw [hlookup] at h
      have hid : id' = id := by
        split_ifs at h <;> exact Reply.found.inj h
      refine .here ⟨group, rfl, hid ▸ hlookup⟩ ?_ ?_
      · split_ifs <;> rfl
      · rw [leave]
        split_ifs <;> rfl

/-- What is left behind after a channel is found: a place in the list, and a counter that is the
one the search began with or zero. -/
theorem leave_cases (cross : Bool) (times : ℤ) (i priority : ℕ) (p : RetryParam) :
    (cross = true ∧ times ≤ priority ∧ leave cross times i priority p =
        { autoGroupIndex := i + 1, retry := 0, resetNextTry := true }) ∨
      ((cross = true → (priority : ℤ) < times) ∧
        leave cross times i priority p = { p with autoGroupIndex := i }) := by
  unfold leave
  by_cases h : cross ∧ times ≤ priority
  · rw [if_pos h]
    exact inl ⟨h.1, h.2, rfl⟩
  · rw [if_neg h]
    exact inr ⟨fun hcross => not_le.1 fun hle => h ⟨hcross, hle⟩, rfl⟩

/-- A search that finds a channel leaves the counter alone, or has moved on to another group. -/
theorem searchGroups_param {place : ℕ} {p' : RetryParam}
    (h : searchGroups cross times lookup groups i priority p = ⟨.found id, place, p'⟩) :
    groups ≠ [] ∧ (p' = { p with autoGroupIndex := i } ∨ i < p'.autoGroupIndex) := by
  have hfound := @searchGroups_found cross times lookup groups i priority id p (by rw [h])
  rw [h] at hfound
  cases hfound with
  | here hfirst _ hparam =>
    obtain ⟨group, hgroup, -⟩ := hfirst
    refine ⟨ne_nil_of_mem (mem_of_mem_head? hgroup), ?_⟩
    dsimp only at hparam
    rcases leave_cases cross times i priority p with ⟨-, -, heq⟩ | ⟨-, heq⟩ <;> rw [hparam, heq]
    · exact .inr (Nat.lt_succ_self i)
    · exact .inl rfl
  | later hlater hrange _ _ hparam =>
    dsimp only at hlater hrange hparam
    refine ⟨ne_nil_of_length_pos (by omega), .inr ?_⟩
    rcases leave_cases cross times place 0 { p with retry := 0 } with ⟨-, -, heq⟩ | ⟨-, heq⟩ <;>
      rw [hparam, heq]
    · exact Nat.lt_succ_of_lt hlater
    · exact hlater

end

end Channels
