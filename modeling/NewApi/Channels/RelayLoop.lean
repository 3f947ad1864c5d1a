import Mathlib.Algebra.Order.BigOperators.Group.Finset
import NewApi.Channels.Offers
import NewApi.Machinery.Runs
import NewApi.Task.Attempts

/-!
# Channels/RelayLoop — the attempts of a relayed request

`Relay` (`controller/relay.go`) tries channels until one answers, an error is not to be retried or
the counter has run out.  The channel of the first attempt was picked by `Distribute`, with a
counter of its own; later ones are picked by `CacheGetRandomSatisfiedChannel`
(`service/channel_select.go`), which sets the counter back whenever it moves on to another group.

* `relayTurn` — one turn: the attempt before has ended, the next one is picked.
* `crossing_run` — with cross-group retry on, the groups are visited in order, each for a bounded
  number of attempts.
* `attempts_bounded` — …and with it off, for requests whose group does not run out of channels
  before the others do.
-/

namespace Channels

open List Runs Nat Store Or

open AsyncTask.Submit (PolicyDecision)

/-! ## Which failures are retried -/

/-- What `DecideRelayRetry` asks about a failed attempt. -/
structure RelayFailure where
  statusCode : ℤ := 500
  isChannelError : Bool := false
  isSkipRetryError : Bool := false
  isChannelBreakerFailure : Bool := false
  /-- `HandleChannelAffinityFailure`: the session is bound to its channel. -/
  affinityFailure : Bool := false
  sessionModeSource : String := ""
  /-- The channel constraints suppress retries. -/
  suppressesRetry : Bool := false
  /-- `IsAlwaysSkipRetryCode` or `IsAlwaysSkipRetryStatusCode`. -/
  alwaysSkips : Bool := false
  shouldRetryByStatusCode : Bool := true

/-- Whether a failed attempt is followed by another, and why. -/
def decideRelayRetry (outcome : Option RelayFailure) (retryTimes : ℤ) : PolicyDecision :=
  match outcome with
  | none => ⟨.stop, "request_completed", "system"⟩
  | some e =>
    if !e.isChannelBreakerFailure && e.affinityFailure then
      ⟨.stop, "strict_session",
        if e.sessionModeSource = "" then "session_rule" else e.sessionModeSource⟩
    else if e.suppressesRetry then ⟨.stop, "pinned_channel", "channel_constraint"⟩
    else if e.isChannelError then ⟨.retry, "channel_error", "system"⟩
    else if e.isSkipRetryError then ⟨.stop, "non_retryable_error", "system"⟩
    else if retryTimes ≤ 0 then ⟨.stop, "attempt_budget_exhausted", "global"⟩
    else if 200 ≤ e.statusCode ∧ e.statusCode < 300 then
      ⟨.stop, "system_retry_exclusion", "system"⟩
    else if e.statusCode < 100 ∨ 599 < e.statusCode then ⟨.retry, "unrecognized_status", "system"⟩
    else if e.alwaysSkips then ⟨.stop, "system_retry_exclusion", "system"⟩
    else if e.shouldRetryByStatusCode then ⟨.retry, "retry_status_matched", "global"⟩
    else ⟨.stop, "status_not_retryable", "global"⟩

/-! ## The loop -/

/-- The loop between two attempts. -/
structure RelayState where
  param : RetryParam := {}
  /-- The attempts so far: the place of the group in the list, and the channel. -/
  attempts : List (ℕ × ℕ) := []
  ended : Bool := false
  deriving DecidableEq

/-- `use_channel`. -/
def RelayState.useChannel (s : RelayState) : List ℕ := s.attempts.map Prod.snd

/-- How the attempt before has ended, `none` for a success, and what the next selection meets. -/
structure Turn where
  outcome : Option RelayFailure := some {}
  lookup : String → ℕ → Reply

/-- The channel is taken, or the loop is left where there is none. -/
def RelayState.take (s : RelayState) (selection : Selection) (param : RetryParam) : RelayState :=
  match selection.reply with
  | .found id => { s with param, attempts := s.attempts ++ [(selection.place, id)] }
  | _ => { s with ended := true }

/-- One turn of the loop of `Relay`; the first one is the selection by `Distribute`. -/
def relayTurn (cfg : LoopConfig) (s : RelayState) (turn : Turn) : RelayState :=
  if s.ended then s
  else if s.attempts = [] then
    if cfg.retryTimes < 0 then { s with ended := true }
    else
      let selection := cacheGetRandomSatisfiedChannel cfg turn.lookup {}
      -- the counter of the loop is a new one, the index of the group is kept in the context
      s.take selection { autoGroupIndex := selection.param.autoGroupIndex }
  else if (decideRelayRetry turn.outcome (cfg.retryTimes - s.param.retry)).action ≠ .retry then
    { s with ended := true }
  else
    let p := s.param.increaseRetry
    if cfg.retryTimes < p.retry then { s with ended := true }
    else
      let selection := cacheGetRandomSatisfiedChannel cfg turn.lookup p
      s.take selection selection.param

/-! ## What a turn does -/

variable {cfg : LoopConfig} {s : RelayState} {turn : Turn}

/-- The loop goes on to another attempt. -/
def Selects (cfg : LoopConfig) (s : RelayState) (turn : Turn) : Prop :=
  s.ended = false ∧ s.attempts ≠ [] ∧
    (decideRelayRetry turn.outcome (cfg.retryTimes - s.param.retry)).action = .retry ∧
    s.param.increaseRetry.retry ≤ cfg.retryTimes

/-- How a turn ends: the loop is left, or a channel is taken for the first attempt or the next. -/
inductive TurnCase (cfg : LoopConfig) (s : RelayState) (turn : Turn) : RelayState → Prop
  | ended : TurnCase cfg s turn { s with ended := true }
  | first {id : ℕ} {out : Selection} (hopen : s.ended = false) (hnil : s.attempts = [])
      (htimes : 0 ≤ cfg.retryTimes)
      (hout : cacheGetRandomSatisfiedChannel cfg turn.lookup {} = out)
      (hreply : out.reply = .found id) :
      TurnCase cfg s turn
        { s with param := { autoGroupIndex := out.param.autoGroupIndex }
                 attempts := s.attempts ++ [(out.place, id)] }
  | next {id : ℕ} {out : Selection} (hselects : Selects cfg s turn) (hne : s.attempts ≠ [])
      (htimes : s.param.increaseRetry.retry ≤ cfg.retryTimes)
      (hout : cacheGetRandomSatisfiedChannel cfg turn.lookup s.param.increaseRetry = out)
      (hreply : out.reply = .found id) :
      TurnCase cfg s turn
        { s with param := out.param, attempts := s.attempts ++ [(out.place, id)] }

theorem take_cases (s : RelayState) (out : Selection) (param : RetryParam) :
    s.take out param = { s with ended := true } ∨
      ∃ id, out.reply = .found id ∧
        s.take out param = { s with param, attempts := s.attempts ++ [(out.place, id)] } := by
  unfold RelayState.take
  split
  · next id hreply => exact inr ⟨id, hreply, rfl⟩
  · exact inl rfl

theorem relayTurn_cases : TurnCase cfg s turn (relayTurn cfg s turn) := by
  unfold relayTurn
  dsimp only
  split_ifs with hended hnil htimes hstop htimes
  · have hover : s = { s with ended := true } := by rw [← hended]
    rw [hover]
    exact .ended
  · exact .ended
  · obtain htake | ⟨id, hreply, htake⟩ :=
      take_cases s (cacheGetRandomSatisfiedChannel cfg turn.lookup {})
        { autoGroupIndex :=
            (cacheGetRandomSatisfiedChannel cfg turn.lookup {}).param.autoGroupIndex }
    · rw [htake]
      exact .ended
    · rw [htake]
      exact .first (Bool.eq_false_iff.2 hended) hnil (not_lt.1 htimes) rfl hreply
  · exact .ended
  · exact .ended
  · obtain htake | ⟨id, hreply, htake⟩ :=
      take_cases s (cacheGetRandomSatisfiedChannel cfg turn.lookup s.param.increaseRetry)
        (cacheGetRandomSatisfiedChannel cfg turn.lookup s.param.increaseRetry).param
    · rw [htake]
      exact .ended
    · rw [htake]
      exact .next ⟨Bool.eq_false_iff.2 hended, hnil, not_not.1 hstop, not_lt.1 htimes⟩ hnil
        (not_lt.1 htimes) rfl hreply

/-! ## Cross-group retry -/

/-- The places of the groups tried, in order. -/
def RelayState.places (s : RelayState) : List ℕ := s.attempts.map Prod.fst

variable {p : RetryParam} {id : ℕ} {lookup : String → ℕ → Reply}

/-- A selection from several groups is a search that starts at the group of the context. -/
theorem lands_of_found (hgroups : cfg.autoGroups.1 ≠ [])
    (h : (cacheGetRandomSatisfiedChannel cfg lookup p).reply = .found id) :
    Lands cfg.autoGroups.2 cfg.retryTimes lookup (cfg.autoGroups.1.drop p.autoGroupIndex)
      p.autoGroupIndex p.retry p id (cacheGetRandomSatisfiedChannel cfg lookup p) := by
  unfold cacheGetRandomSatisfiedChannel at h ⊢
  by_cases hauto : cfg.tokenGroup = "auto" ∧ cfg.requestAutoGroups = []
  · rw [if_pos hauto] at h
    cases h
  · rw [if_neg hauto, if_neg hgroups] at h ⊢
    exact searchGroups_found h

variable {out : Selection} {times : ℤ}

/-- The group of a selection is in the list, at the place the search began with or a later one;
there the counter starts at zero. -/
theorem Lands.place {cross : Bool} {groups : List String}
    (h : Lands cross times lookup (groups.drop p.autoGroupIndex) p.autoGroupIndex p.retry p id
      out) :
    out.place < groups.length ∧ ∃ base : RetryParam, base.resetNextTry = p.resetNextTry ∧
      out.param = leave cross times out.place base.retry base ∧
        (out.place = p.autoGroupIndex ∧ base.retry = p.retry ∨
          p.autoGroupIndex < out.place ∧ base.retry = 0) := by
  cases h with
  | here hfound hplace hparam =>
    obtain ⟨group, hgroup, -⟩ := hfound
    have hlen := length_pos_of_mem (mem_of_mem_head? hgroup)
    rw [length_drop] at hlen
    exact ⟨by omega, p, rfl, hplace ▸ hparam, inl ⟨hplace, rfl⟩⟩
  | later hlater hrange _ _ hparam =>
    rw [length_drop] at hrange
    exact ⟨by omega, { p with retry := 0 }, rfl, hparam, inr ⟨hlater, rfl⟩⟩

/-- Where the loop stands after `count` attempts at place `i`. -/
inductive Stands (times : ℤ) (param : RetryParam) (i count : ℕ) : Prop
  /-- The next attempt is in the next group. -/
  | leaving (hreset : param.resetNextTry = true) (hretry : param.retry = 0)
      (hindex : param.autoGroupIndex = i + 1)
  /-- The next attempt is in this group, and the counter counts the attempts made in it. -/
  | staying (hreset : param.resetNextTry = false) (hindex : param.autoGroupIndex = i)
      (hcount : count = param.retry + 1)
  /-- There is no next attempt. -/
  | single (hreset : param.resetNextTry = false) (hretry : param.retry = 0) (htimes : times ≤ 0)

variable {base : RetryParam}

theorem stands_leave (times : ℤ) (i : ℕ) (h : base.resetNextTry = false) :
    Stands times (leave true times i base.retry base) i (base.retry + 1) := by
  obtain ⟨-, -, hleave⟩ | ⟨-, hleave⟩ := leave_cases true times i base.retry base
  · rw [hleave]
    exact .leaving rfl rfl rfl
  · rw [hleave]
    exact .staying h rfl rfl

variable {i : ℕ}

/-- The counter of the first attempt is a new one. -/
theorem stands_first (hretry : base.retry = 0) :
    Stands times { autoGroupIndex := (leave true times i base.retry base).autoGroupIndex } i 1 := by
  obtain ⟨-, htimes, hleave⟩ | ⟨-, hleave⟩ := leave_cases true times i base.retry base
  · exact .single rfl rfl (by rw [hretry] at htimes; exact htimes)
  · rw [hleave]
    exact .staying rfl rfl rfl

/-- **The order and the number of the attempts** of a request with cross-group retry. -/
structure Crossing (cfg : LoopConfig) (s : RelayState) : Prop where
  ordered : s.places.Pairwise (· ≤ ·)
  inList : ∀ i ∈ s.places, i < cfg.autoGroups.1.length
  bounded : ∀ i, s.places.count i ≤ cfg.retryTimes.toNat + 1
  stands : s.attempts ≠ [] → ∃ i, (∀ j ∈ s.places, j ≤ i) ∧
    Stands cfg.retryTimes s.param i (s.places.count i)

theorem crossing_init : Crossing cfg {} where
  ordered := List.Pairwise.nil
  inList := fun _ h => absurd h not_mem_nil
  bounded := fun _ => zero_le _
  stands := fun h => absurd rfl h

variable {k : ℕ}

/-- One more attempt, at a place no earlier than the others. -/
theorem Crossing.add {param : RetryParam} (h : Crossing cfg s) (hplaces : ∀ j ∈ s.places, j ≤ k)
    (hlist : k < cfg.autoGroups.1.length) (hcount : s.places.count k ≤ cfg.retryTimes.toNat)
    (hstands : Stands cfg.retryTimes param k (s.places.count k + 1)) :
    Crossing cfg { s with param, attempts := s.attempts ++ [(k, id)] } := by
  have hadd : RelayState.places { s with param, attempts := s.attempts ++ [(k, id)] } =
      s.places ++ [k] := by
    unfold RelayState.places
    rw [map_append, map_cons, map_nil]
  have hself : (s.places ++ [k]).count k = s.places.count k + 1 := by
    rw [count_append, count_singleton_self]
  have hmax : ∀ j ∈ s.places ++ [k], j ≤ k := by
    intro j hj
    rcases mem_append.1 hj with hj | hj
    · exact hplaces j hj
    · exact (mem_singleton.1 hj).le
  constructor
  · rw [hadd, pairwise_append]
    refine ⟨h.ordered, pairwise_singleton _ _, fun j hj k' hk' => ?_⟩
    exact (mem_singleton.1 hk') ▸ hplaces j hj
  · rw [hadd]
    intro j hj
    exact (hmax j hj).trans_lt hlist
  · rw [hadd]
    intro j
    by_cases hj : j = k
    · rw [hj, hself]
      omega
    · rw [count_append, count_singleton, if_neg (by simpa using Ne.symm hj), add_zero]
      exact h.bounded j
  · intro _
    rw [hadd]
    exact ⟨k, hmax, hself ▸ hstands⟩

theorem count_eq_zero_of_lt {places : List ℕ} (h : ∀ j ∈ places, j ≤ i) (hk : i < k) :
    places.count k = 0 :=
  count_eq_zero.2 fun hmem => absurd (h k hmem) (not_le.2 hk)

section

variable (hgroups : cfg.autoGroups.1 ≠ []) (hcross : cfg.autoGroups.2 = true) (h : Crossing cfg s)

include hgroups hcross h

theorem Crossing.first (hnil : s.attempts = [])
    (hout : cacheGetRandomSatisfiedChannel cfg turn.lookup {} = out)
    (hreply : out.reply = .found id) :
    Crossing cfg
      { s with param := { autoGroupIndex := out.param.autoGroupIndex }
               attempts := s.attempts ++ [(out.place, id)] } := by
  subst hout
  obtain ⟨hlist, base, -, hparam, hplace⟩ := (lands_of_found hgroups hreply).place
  have hretry : base.retry = 0 := by
    rcases hplace with ⟨-, hretry⟩ | ⟨-, hretry⟩
    · exact hretry
    · exact hretry
  have hplaces : s.places = [] := by
    rw [RelayState.places, hnil, map_nil]
  refine h.add (fun j hj => ?_) hlist ?_ ?_
  · rw [hplaces] at hj
    cases hj
  · rw [hplaces, count_nil]
    exact zero_le _
  · rw [hplaces, count_nil, hparam, hcross]
    exact stands_first hretry

/-- The attempts after it: the counter counts those at one place, and another place is a later
one. -/
theorem Crossing.next (hne : s.attempts ≠ [])
    (htimes : s.param.increaseRetry.retry ≤ cfg.retryTimes)
    (hout : cacheGetRandomSatisfiedChannel cfg turn.lookup s.param.increaseRetry = out)
    (hreply : out.reply = .found id) :
    Crossing cfg { s with param := out.param, attempts := s.attempts ++ [(out.place, id)] } := by
  subst hout
  obtain ⟨hlist, base, hbase, hparam, hplace⟩ := (lands_of_found hgroups hreply).place
  obtain ⟨i, hmax, hstands⟩ := h.stands hne
  rw [hparam, hcross]
  generalize (cacheGetRandomSatisfiedChannel cfg turn.lookup s.param.increaseRetry).place = k at *
  -- a place that is later than all others has no attempt yet
  have hfresh : i < k → base.resetNextTry = false → base.retry = 0 →
      Crossing cfg { s with param := leave true cfg.retryTimes k base.retry base
                            attempts := s.attempts ++ [(k, id)] } := by
    intro hk hreset hretry
    have hzero := count_eq_zero_of_lt hmax hk
    refine h.add (fun j hj => (hmax j hj).trans hk.le) hlist (hzero ▸ zero_le _) ?_
    have hstand := stands_leave (cfg.retryTimes) k hreset
    rw [hretry] at hstand ⊢
    rw [hzero]
    exact hstand
  unfold RetryParam.increaseRetry at htimes hbase hplace
  cases hstands with
  | leaving hreset hretry hindex =>
    rw [if_pos hreset] at hbase hplace
    rw [hindex, hretry] at hplace
    rcases hplace with ⟨hk, hzero⟩ | ⟨hk, hzero⟩
    · exact hfresh (by omega) hbase hzero
    · exact hfresh (by omega) hbase hzero
  | staying hreset hindex hcount =>
    rw [hreset, if_neg Bool.false_ne_true] at hbase hplace htimes
    dsimp only at hbase hplace htimes
    rw [hindex] at hplace
    rcases hplace with ⟨rfl, hretry⟩ | ⟨hk, hzero⟩
    · refine h.add hmax hlist ?_ ?_
      · omega
      · rw [hcount, ← hretry]
        exact stands_leave _ _ hbase
    · exact hfresh hk hbase hzero
  | single hreset hretry hsingle =>
    rw [hreset, if_neg Bool.false_ne_true] at htimes
    dsimp only at htimes
    omega

/-- **A turn keeps the order and the number of the attempts.** -/
theorem Crossing.step : Crossing cfg (relayTurn cfg s turn) := by
  have hcase : TurnCase cfg s turn (relayTurn cfg s turn) := relayTurn_cases
  generalize relayTurn cfg s turn = s' at hcase ⊢
  cases hcase with
  | ended => exact ⟨h.ordered, h.inList, h.bounded, h.stands⟩
  | first _ hnil _ hout hreply => exact h.first hgroups hcross hnil hout hreply
  | next _ hne htimes hout hreply => exact h.next hgroups hcross hne htimes hout hreply

end

/-! ## One group -/

/-- Where the group of the context has no channel left for another attempt, no later group has
one. -/
def GroupLasts (cfg : LoopConfig) (s : RelayState) (turn : Turn) : Prop :=
  Selects cfg s turn → ∀ group ∈ (cfg.autoGroups.1.drop s.param.autoGroupIndex).head?,
    turn.lookup group s.param.increaseRetry.retry = .none →
      ∀ later ∈ (cfg.autoGroups.1.drop s.param.autoGroupIndex).tail,
        ∀ id, turn.lookup later 0 ≠ .found id

/-- **The attempts of a request that stays in its group**: the counter counts them all. -/
structure Staying (cfg : LoopConfig) (s : RelayState) : Prop where
  places : ∀ i ∈ s.places, i = s.param.autoGroupIndex
  reset : s.param.resetNextTry = false
  count : s.attempts ≠ [] → s.attempts.length = s.param.retry + 1
  bounded : s.attempts.length ≤ cfg.retryTimes.toNat + 1

theorem staying_init : Staying cfg {} where
  places := fun _ h => absurd h not_mem_nil
  reset := rfl
  count := fun h => absurd rfl h
  bounded := zero_le _

theorem leave_false {priority : ℕ} :
    leave false times i priority p = { p with autoGroupIndex := i } := by
  rw [leave, if_neg fun h => Bool.false_ne_true h.1]

theorem Staying.step (hgroups : cfg.autoGroups.1 ≠ []) (hcross : cfg.autoGroups.2 = false)
    (h : Staying cfg s) (hlasts : GroupLasts cfg s turn) : Staying cfg (relayTurn cfg s turn) := by
  have hcase : TurnCase cfg s turn (relayTurn cfg s turn) := relayTurn_cases
  generalize relayTurn cfg s turn = s' at hcase ⊢
  cases hcase with
  | ended => exact ⟨h.places, h.reset, h.count, h.bounded⟩
  | first _ hnil htimes hout hreply =>
    subst hout
    obtain ⟨-, base, -, hparam, -⟩ := (lands_of_found hgroups hreply).place
    rw [hcross, leave_false] at hparam
    rw [hparam, hnil]
    refine ⟨fun i hi => mem_singleton.1 hi, rfl, fun _ => rfl, ?_⟩
    exact le_add_left _ _
  | next hselects hne htimes hout hreply =>
    subst hout
    have hcount := h.count hne
    have hincrease : s.param.increaseRetry = { s.param with retry := s.param.retry + 1 } := by
      unfold RetryParam.increaseRetry
      rw [if_neg (Bool.eq_false_iff.1 h.reset)]
    cases lands_of_found hgroups hreply with
    | here _ hplace hparam =>
      rw [hcross, leave_false] at hparam
      rw [hincrease] at hparam hplace htimes
      dsimp only at hparam hplace htimes
      rw [hincrease, hparam, hplace]
      refine ⟨fun i hi => ?_, h.reset, fun _ => ?_, ?_⟩
      · rw [RelayState.places, map_append, mem_append] at hi
        rcases hi with hi | hi
        · exact h.places i hi
        · exact mem_singleton.1 hi
      · rw [length_append, hcount]
        rfl
      · rw [length_append, hcount, length_singleton]
        omega
    | later _ _ hempty hfound _ =>
      obtain ⟨group, hgroup⟩ : ∃ group, group ∈
          (cfg.autoGroups.1.drop s.param.increaseRetry.autoGroupIndex).head? := by
        obtain ⟨g, hg, -⟩ := hfound
        obtain ⟨first, rest, hcons⟩ := exists_cons_of_ne_nil
          (ne_nil_of_mem (mem_of_mem_tail hg))
        exact ⟨first, by rw [hcons]; rfl⟩
      obtain ⟨later, hlater, hid⟩ := hfound
      have hindex : s.param.increaseRetry.autoGroupIndex = s.param.autoGroupIndex := by
        rw [hincrease]
      have hempty := hempty group hgroup
      rw [hindex] at hgroup hlater
      exact absurd hid (hlasts hselects group hgroup hempty later hlater _)

/-! ## The bounds -/

theorem ended_run (h : s.ended = true) (turns : List Turn) :
    (run (relayTurn cfg) s turns).ended = true := by
  refine stable (I := fun s : RelayState => s.ended = true) (fun s turn h => ?_) h turns
  rw [relayTurn, if_pos h]
  exact h

/-- A turn that does not end the loop makes an attempt. -/
theorem ended_or_attempts (turns : List Turn) :
    (run (relayTurn cfg) s turns).ended = true ∨
      (run (relayTurn cfg) s turns).attempts.length = s.attempts.length + turns.length := by
  induction turns generalizing s with
  | nil => exact inr rfl
  | cons turn turns ih =>
    rw [run_cons]
    have hcase : TurnCase cfg s turn (relayTurn cfg s turn) := relayTurn_cases
    generalize relayTurn cfg s turn = s' at hcase ⊢
    have hlength : ∀ {param : RetryParam} {a : ℕ × ℕ},
        (run (relayTurn cfg) { s with param, attempts := s.attempts ++ [a] } turns).ended =
            true ∨
          (run (relayTurn cfg) { s with param, attempts := s.attempts ++ [a] }
            turns).attempts.length = s.attempts.length + (turn :: turns).length := by
      intro param a
      refine ih.imp_right fun h => ?_
      rw [h, length_append, length_singleton, length_cons]
      omega
    cases hcase with
    | ended => exact inl (ended_run rfl turns)
    | first => exact hlength
    | next => exact hlength

/-- Attempts at a bounded number of places, a bounded number at each. -/
theorem Crossing.length_le (h : Crossing cfg s) :
    s.attempts.length ≤ (cfg.retryTimes.toNat + 1) * cfg.autoGroups.1.length := by
  have hsubset : s.places.toFinset ⊆ Finset.range cfg.autoGroups.1.length := by
    intro i hi
    exact Finset.mem_range.2 (h.inList i (mem_toFinset.1 hi))
  calc s.attempts.length
      = s.places.length := (length_map _).symm
    _ = ∑ i ∈ s.places.toFinset, s.places.count i := (sum_toFinset_count_eq_length _).symm
    _ ≤ ∑ _ ∈ s.places.toFinset, (cfg.retryTimes.toNat + 1) :=
        Finset.sum_le_sum fun i _ => h.bounded i
    _ = s.places.toFinset.card * (cfg.retryTimes.toNat + 1) :=
        Finset.sum_const_nat fun _ _ => rfl
    _ ≤ (cfg.retryTimes.toNat + 1) * cfg.autoGroups.1.length := by
        rw [mul_comm]
        refine mul_le_mul_left _ ?_
        simpa using Finset.card_le_card hsubset

/-- **Attempts are bounded across groups.**  With cross-group retry on, the groups are visited in
the order of the list, each for at most one attempt more than there are retries, and the loop ends;
with it off, a request stays in its group as long as that does not run out of channels before the
others do. -/
theorem attempts_bounded (turns : List Turn) (hgroups : cfg.autoGroups.1 ≠ [])
    (hlasts : cfg.autoGroups.2 = false →
      Runs.Guarded (relayTurn cfg) (GroupLasts cfg) {} turns) :
    (cfg.autoGroups.2 = false →
      (∀ i ∈ (Runs.run (relayTurn cfg) {} turns).places,
        ∀ j ∈ (Runs.run (relayTurn cfg) {} turns).places, i = j) ∧
      (Runs.run (relayTurn cfg) {} turns).attempts.length ≤ cfg.retryTimes.toNat + 1) ∧
    (cfg.autoGroups.2 = true →
      (Runs.run (relayTurn cfg) {} turns).places.Pairwise (· ≤ ·) ∧
      (∀ i, (Runs.run (relayTurn cfg) {} turns).places.count i ≤ cfg.retryTimes.toNat + 1) ∧
      (Runs.run (relayTurn cfg) {} turns).attempts.length ≤
        (cfg.retryTimes.toNat + 1) * cfg.autoGroups.1.length ∧
      ((cfg.retryTimes.toNat + 1) * cfg.autoGroups.1.length < turns.length →
        (Runs.run (relayTurn cfg) {} turns).ended = true)) := by
  refine ⟨fun hcross => ?_, fun hcross => ?_⟩
  · have hstaying : Staying cfg (run (relayTurn cfg) {} turns) :=
      invariant (fun s turn h hG => h.step hgroups hcross hG) staying_init (hlasts hcross)
    refine ⟨fun i hi j hj => ?_, hstaying.bounded⟩
    rw [hstaying.places i hi, hstaying.places j hj]
  · have hcrossing : Crossing cfg (run (relayTurn cfg) {} turns) :=
      stable (fun s turn h => h.step hgroups hcross) crossing_init turns
    refine ⟨hcrossing.ordered, hcrossing.bounded, hcrossing.length_le, fun hlong => ?_⟩
    refine (ended_or_attempts turns).resolve_right fun hlength => ?_
    have hle := hcrossing.length_le
    omega

/-- A token of the group `auto` that does not allow cross-group retry. -/
def stayingConfig : LoopConfig :=
  { retryTimes := 1, tokenGroup := "auto", requestAutoGroups := ["a", "b"] }

/-- A group that has a channel for every turn. -/
def stayingTurns : List Turn :=
  [{ lookup := fun _ _ => .found 1 }, { lookup := fun _ _ => .found 2 },
    { lookup := fun _ _ => .found 3 }]

theorem attempts_bounded_staying :
    (Runs.run (relayTurn stayingConfig) {} stayingTurns).attempts.length ≤ 2 ∧
      (Runs.run (relayTurn stayingConfig) {} stayingTurns).attempts = [(0, 1), (0, 2)] := by
  have hlasts : Runs.Guarded (relayTurn stayingConfig) (GroupLasts stayingConfig) {}
      stayingTurns :=
    ⟨fun _ _ _ h => Reply.noConfusion h, fun _ _ _ h => Reply.noConfusion h,
      fun _ _ _ h => Reply.noConfusion h, trivial⟩
  have hgroups : stayingConfig.autoGroups.1 ≠ [] := by decide
  exact ⟨((attempts_bounded stayingTurns hgroups fun _ => hlasts).1 (by decide)).2, by decide⟩

/-! ## Turns over a channel table -/

/-- The filters of a selection: the channels that were used are excluded. -/
def withUsed (filters : List ChannelFilter) (used : List ℕ) : List ChannelFilter :=
  if used = [] then filters else filters ++ [.excludedChannels used]

/-- The replies of a turn are those of the table. -/
def FromTable (cfg : LoopConfig) (store : Store) (t : ChannelTable) (model : String)
    (filters : List ChannelFilter) (s : RelayState) (turn : Turn) : Prop :=
  ∀ group ∈ cfg.tokenGroup :: cfg.autoGroups.1, ∀ retry,
    store.Answers t group model retry (withUsed filters s.useChannel) (turn.lookup group retry)

/-- One channel in the first group, two in the second. -/
def twoGroups : ChannelTable where
  rows := [{ id := 1, models := "m", group := "a" }, { id := 2, models := "m", group := "b" },
    { id := 3, models := "m", group := "b" }]
  nodup := by decide

/-- Three turns: the first group has no channel left after the first of them. -/
def movingTurns : List Turn :=
  [{ lookup := fun group _ => if group = "a" then .found 1 else if group = "b" then .found 2
                              else .none },
   { lookup := fun group _ => if group = "b" then .found 2 else .none },
   { lookup := fun group _ => if group = "b" then .found 3 else .none }]

/-- Any candidate may be found where all have one priority. -/
theorem answers_found_of_candidate {t : ChannelTable} {group model : String} {retry : ℕ}
    {filters : List ChannelFilter} (hlevel : ∀ c ∈ databaseCandidates t group model filters,
      ∀ c' ∈ databaseCandidates t group model filters, c.getPriority = c'.getPriority)
    (hmem : ∃ c ∈ databaseCandidates t group model filters, c.id = id) :
    database.Answers t group model retry filters (.found id) := by
  refine databaseOffers_iff.2 ?_
  rw [level_eq_self hlevel]
  exact hmem

/-- **A request without cross-group retry moves to another group**, and makes more attempts than
there are retries and one. -/
theorem leaves_group_without_cross_retry :
    stayingConfig.autoGroups = (["a", "b"], false) ∧ stayingConfig.retryTimes = 1 ∧
    Runs.Guarded (relayTurn stayingConfig) (FromTable stayingConfig .database twoGroups "m" [])
      {} movingTurns ∧
    (Runs.run (relayTurn stayingConfig) {} movingTurns).attempts = [(0, 1), (1, 2), (1, 3)] := by
  have hgroups : ∀ {P : String → Prop}, P "auto" → P "a" → P "b" →
      ∀ group ∈ stayingConfig.tokenGroup :: stayingConfig.autoGroups.1, P group := by
    intro P hauto ha hb group hgroup
    have hmem : group ∈ ["auto", "a", "b"] := hgroup
    simp only [mem_cons, not_mem_nil, or_false] at hmem
    rcases hmem with rfl | rfl | rfl
    · exact hauto
    · exact ha
    · exact hb
  refine ⟨by decide, rfl, ⟨?_, ?_, ?_, trivial⟩, by decide⟩
  · refine hgroups (fun _ => ?_) (fun _ => ?_) fun _ => ?_
    · exact answers_none_iff.2 (by decide +kernel)
    · exact answers_found_of_candidate (by decide +kernel) (by decide +kernel)
    · exact answers_found_of_candidate (by decide +kernel) (by decide +kernel)
  · refine hgroups (fun _ => ?_) (fun _ => ?_) fun _ => ?_
    · exact answers_none_iff.2 (by decide +kernel)
    · exact answers_none_iff.2 (by decide +kernel)
    · exact answers_found_of_candidate (by decide +kernel) (by decide +kernel)
  · refine hgroups (fun _ => ?_) (fun _ => ?_) fun _ => ?_
    · exact answers_none_iff.2 (by decide +kernel)
    · exact answers_none_iff.2 (by decide +kernel)
    · exact answers_found_of_candidate (by decide +kernel) (by decide +kernel)

end Channels
