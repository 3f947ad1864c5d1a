import NewApi.Machinery.Index
import NewApi.Task.Row

/-!
# Task/Pass — which task one polling pass asks whom about

`RunTaskPollingOnce`, `DispatchPlatformUpdate`, `updateBatchTasks` and `updateVideoTasks`, as far as
they pair tasks with channels: what a pass asks, and whose answer changes which row.  What an answer
does to a row is `Task/Poll`.

The unfinished tasks of a platform are regrouped through one map from upstream ids to tasks and one
from channels to upstream ids.  The first is keyed by the id alone, and ids are the upstreams' own:
of two tasks with one id, one is lost and the other is asked about in its stead.

* `pass_polls_own_iff` — exactly when every task is asked about once, at its own channel, and
  changed by nothing else.
-/

namespace AsyncTask.Pass

open List Index

/-- The columns of a channel that a pass reads. -/
structure Channel where
  type : ℤ := 0
  baseURL : Option String := none
  key : String := ""
  deriving DecidableEq

/-- How an adaptor asks for tasks. -/
inductive FetchMode where
  | batch | single
  deriving DecidableEq

/-- What becomes of a batch request: it fails as a whole, and every task asked about is treated
alike; or its items name upstream ids. -/
inductive BatchOutcome where
  | failed
  | items (named : List String)
  deriving DecidableEq

/-- What a pass looks up. -/
structure Env where
  cacheGetChannel : ℤ → Option Channel
  /-- The base URL of a channel type. -/
  getChannelBaseURL : ℤ → String := fun _ => ""
  /-- The adaptor of a platform. -/
  getTaskAdaptor : String → Option FetchMode
  /-- The outcome of the request to a channel, on behalf of a platform. -/
  batchOutcome : String → ℤ → BatchOutcome := fun _ _ => .failed

/-- The URL a channel is polled at. -/
def Env.baseURL (env : Env) (ch : Channel) : String :=
  if ch.baseURL.getD "" = "" then env.getChannelBaseURL ch.type else ch.baseURL.getD ""

/-- A task that kept the key it was submitted with is polled with it. -/
def Channel.keyFor (ch : Channel) (t : Task) : String :=
  if t.privateData.key ≠ "" then t.privateData.key else ch.key

/-- What a pass does. -/
inductive Event where
  /-- A request to a channel about some tasks. -/
  | fetch (channelId : ℤ) (baseURL key : String) (tasks : List Task)
  /-- The channel's answer is applied to a task. -/
  | answer (channelId : ℤ) (task : Task)
  /-- The channel cannot be loaded; the tasks are failed. -/
  | missing (channelId : ℤ) (tasks : List Task)
  /-- The tasks have no upstream id; they are failed. -/
  | noUpstreamID (tasks : List Task)
  deriving DecidableEq

/-- The tasks a batch answer is applied to. -/
def answeredTasks (taskM : String → Option Task) (taskIds : List String) : BatchOutcome → List Task
  | .failed => taskIds.filterMap taskM
  | .items named => named.filterMap taskM

/-- One request for all tasks of a channel. -/
def updateBatchTasks (env : Env) (platform : String) (taskM : String → Option Task) (channelId : ℤ)
    (taskIds : List String) : List Event :=
  match env.cacheGetChannel channelId with
  | none => [.missing channelId (taskIds.filterMap taskM)]
  | some ch =>
    .fetch channelId (env.baseURL ch) ch.key (taskIds.filterMap taskM) ::
      (answeredTasks taskM taskIds (env.batchOutcome platform channelId)).map (.answer channelId)

/-- One request for each task. -/
def updateVideoTasks (env : Env) (platform : String) (taskM : String → Option Task) (channelId : ℤ)
    (taskIds : List String) : List Event :=
  match env.cacheGetChannel channelId with
  | none => [.missing channelId (taskIds.filterMap taskM)]
  | some ch =>
    if env.getTaskAdaptor platform = none then []
    else (taskIds.filterMap taskM).flatMap fun t =>
      [.fetch channelId (env.baseURL ch) (ch.keyFor t) [t], .answer channelId t]

/-- One channel of a platform. -/
def pollChannel (env : Env) (platform : String) (taskM : String → Option Task) (channelId : ℤ)
    (taskIds : List String) : List Event :=
  if env.getTaskAdaptor platform = some .batch then
    updateBatchTasks env platform taskM channelId taskIds
  else updateVideoTasks env platform taskM channelId taskIds

/-- `TaskPlatformMidjourney`, which polls by itself. -/
def midjourney : String := "mj"

/-- The channels of a platform, one after another. -/
def dispatchPlatformUpdate (env : Env) (platform : String) (channelIds : List ℤ)
    (taskChannelM : ℤ → List String) (taskM : String → Option Task) : List Event :=
  if platform = midjourney then []
  else channelIds.flatMap fun c => pollChannel env platform taskM c (taskChannelM c)

/-- The tasks of a platform that have an upstream id. -/
def polled (tasks : List Task) (platform : String) : List Task :=
  tasks.filter fun t => t.platform = platform ∧ t.getUpstreamTaskID ≠ ""

/-- The task of an upstream id. -/
def taskM (tasks : List Task) (platform : String) : String → Option Task :=
  Index.last Task.getUpstreamTaskID (polled tasks platform)

/-- The upstream ids of a channel. -/
def taskChannelM (tasks : List Task) (platform : String) : ℤ → List String :=
  Index.groups Task.channelId Task.getUpstreamTaskID (polled tasks platform)

/-- The channels in order. -/
def channelIds (tasks : List Task) (platform : String) : List ℤ :=
  Index.keys Task.channelId (polled tasks platform)

/-- The tasks of one platform. -/
def pollPlatform (env : Env) (tasks : List Task) (platform : String) : List Event :=
  let nullTasks := tasks.filter fun t => t.platform = platform ∧ t.getUpstreamTaskID = ""
  (if nullTasks = [] then [] else [.noUpstreamID nullTasks]) ++
    dispatchPlatformUpdate env platform (channelIds tasks platform) (taskChannelM tasks platform)
      (taskM tasks platform)

/-- One pass over the unfinished tasks.  Platforms and the channels of a platform come in any order,
or at once; what follows depends on none. -/
def runTaskPollingOnce (env : Env) (tasks : List Task) : List Event :=
  (Index.keys Task.platform tasks).flatMap (pollPlatform env tasks)

/-! ## What the pass is for -/

/-- How often an event asks about a task. -/
def Event.asks (t : Task) : Event → ℕ
  | .fetch _ _ _ tasks => tasks.count t
  | _ => 0

/-- How often a task is asked for. -/
def asks (t : Task) (events : List Event) : ℕ := (events.map (Event.asks t)).sum

theorem asks_append (t : Task) (es es' : List Event) : asks t (es ++ es') = asks t es + asks t es' := by
  simp [asks]

theorem asks_flatMap {α : Type*} (t : Task) (l : List α) (f : α → List Event) :
    asks t (l.flatMap f) = (l.map fun a => asks t (f a)).sum := by
  induction l with
  | nil => rfl
  | cons a l ih => rw [flatMap_cons, asks_append, ih, map_cons, sum_cons]

/-- Answers ask about nothing. -/
theorem asks_answers (t : Task) (c : ℤ) (ts : List Task) : asks t (ts.map (.answer c)) = 0 := by
  induction ts with
  | nil => rfl
  | cons x ts ih => simpa [asks, Event.asks] using ih

theorem exists_fetch_of_asks {t : Task} {es : List Event} (h : asks t es ≠ 0) :
    ∃ c url key ts, Event.fetch c url key ts ∈ es ∧ t ∈ ts := by
  by_contra hno
  push Not at hno
  refine h (sum_eq_zero fun n hn => ?_)
  obtain ⟨e, he, rfl⟩ := mem_map.mp hn
  cases e with
  | fetch c url key ts => exact count_eq_zero_of_not_mem (hno c url key ts he)
  | answer | missing | noUpstreamID => rfl

/-- **Every task that can be polled is asked about once, and every task only at its own channel**,
with the base URL and a key of that channel; an answer changes tasks of the channel it came from,
and what is failed without an answer has no upstream id, or a channel of its own that cannot be
loaded. -/
structure PollsOwn (env : Env) (tasks : List Task) (events : List Event) : Prop where
  once : ∀ t ∈ tasks, t.getUpstreamTaskID ≠ "" → (env.cacheGetChannel t.channelId).isSome = true →
    asks t events = 1
  asked : ∀ c url key ts, Event.fetch c url key ts ∈ events → ∀ t ∈ ts, t.channelId = c ∧
    ∃ ch, env.cacheGetChannel c = some ch ∧ url = env.baseURL ch ∧ (key = ch.key ∨ key = ch.keyFor t)
  answered : ∀ c t, Event.answer c t ∈ events → t.channelId = c
  missing : ∀ c ts, Event.missing c ts ∈ events → ∀ t ∈ ts, t.channelId = c ∧
    env.cacheGetChannel c = none
  null : ∀ ts, Event.noUpstreamID ts ∈ events → ∀ t ∈ ts, t.getUpstreamTaskID = ""

/-- **The ids tell the tasks apart**: two tasks of a platform share an upstream id only on one
channel that cannot be loaded; a batch answer names ids of its own channel's tasks, or unknown ones;
and no task that could be polled is on a platform that is not. -/
structure Separate (env : Env) (tasks : List Task) : Prop where
  ids : ∀ s ∈ tasks, ∀ t ∈ tasks, s ≠ t → s.platform = t.platform → s.platform ≠ midjourney →
    s.getUpstreamTaskID = t.getUpstreamTaskID → s.getUpstreamTaskID ≠ "" →
    s.channelId = t.channelId ∧ env.cacheGetChannel s.channelId = none
  answers : ∀ s ∈ tasks, ∀ t ∈ tasks, s.platform = t.platform → s.platform ≠ midjourney →
    s.getUpstreamTaskID ≠ "" → t.getUpstreamTaskID ≠ "" →
    env.getTaskAdaptor s.platform = some .batch →
    (env.cacheGetChannel s.channelId).isSome = true →
    ∀ named, env.batchOutcome s.platform s.channelId = .items named →
      t.getUpstreamTaskID ∈ named → t.channelId = s.channelId
  platforms : ∀ t ∈ tasks, t.getUpstreamTaskID ≠ "" →
    (env.cacheGetChannel t.channelId).isSome = true →
    t.platform ≠ midjourney ∧ (env.getTaskAdaptor t.platform).isSome = true

/-! ## One channel -/

section Channel

variable {env : Env} {p : String} {m : String → Option Task} {c c' : ℤ} {ids : List String} {t : Task}

/-- The events of a channel: its tasks are failed; or nobody can ask; or it is asked. -/
inductive ChannelPoll (env : Env) (p : String) (m : String → Option Task) (c : ℤ) (ids : List String) :
    List Event → Prop where
  | missing (unloaded : env.cacheGetChannel c = none) :
      ChannelPoll env p m c ids [.missing c (ids.filterMap m)]
  | unasked {ch : Channel} (loaded : env.cacheGetChannel c = some ch)
      (adaptor : env.getTaskAdaptor p = none) : ChannelPoll env p m c ids []
  | batch {ch : Channel} (loaded : env.cacheGetChannel c = some ch)
      (adaptor : env.getTaskAdaptor p = some .batch) :
      ChannelPoll env p m c ids (.fetch c (env.baseURL ch) ch.key (ids.filterMap m) ::
        (answeredTasks m ids (env.batchOutcome p c)).map (.answer c))
  | single {ch : Channel} (loaded : env.cacheGetChannel c = some ch)
      (adaptor : env.getTaskAdaptor p = some .single) :
      ChannelPoll env p m c ids ((ids.filterMap m).flatMap fun t =>
        [.fetch c (env.baseURL ch) (ch.keyFor t) [t], .answer c t])

theorem channelPoll (env : Env) (p : String) (m : String → Option Task) (c : ℤ) (ids : List String) :
    ChannelPoll env p m c ids (pollChannel env p m c ids) := by
  unfold pollChannel updateBatchTasks updateVideoTasks
  cases hch : env.cacheGetChannel c with
  | none =>
    rw [ite_self]
    exact .missing hch
  | some ch =>
    rcases hp : env.getTaskAdaptor p with _ | _ | _
    · exact .unasked hch hp
    · exact .batch hch hp
    · exact .single hch hp

namespace ChannelPoll

variable {events : List Event} (h : ChannelPoll env p m c ids events)

include h

variable {ts : List Task}

theorem missing_mem (he : Event.missing c' ts ∈ events) :
    c' = c ∧ env.cacheGetChannel c = none ∧ ts = ids.filterMap m := by
  cases h with
  | missing hun =>
    obtain ⟨rfl, rfl⟩ := Event.missing.inj (mem_singleton.mp he)
    exact ⟨rfl, hun, rfl⟩
  | unasked => cases he
  | batch | single => simp at he

theorem fetch_mem {url key : String} (he : Event.fetch c' url key ts ∈ events) :
    c' = c ∧ (env.getTaskAdaptor p).isSome = true ∧
      ∃ ch, env.cacheGetChannel c = some ch ∧ url = env.baseURL ch ∧
        ∀ t ∈ ts, t ∈ ids.filterMap m ∧ (key = ch.key ∨ key = ch.keyFor t) := by
  cases h with
  | missing => simp at he
  | unasked => cases he
  | @batch ch hch hp =>
    have he' : Event.fetch c' url key ts = .fetch c (env.baseURL ch) ch.key (ids.filterMap m) := by
      simpa using he
    obtain ⟨rfl, rfl, rfl, rfl⟩ := Event.fetch.inj he'
    exact ⟨rfl, by simp [hp], ch, hch, rfl, fun t ht => ⟨ht, .inl rfl⟩⟩
  | @single ch hch hp =>
    obtain ⟨x, hx, he⟩ := mem_flatMap.mp he
    have he' : Event.fetch c' url key ts = .fetch c (env.baseURL ch) (ch.keyFor x) [x] := by
      simpa using he
    obtain ⟨rfl, rfl, rfl, rfl⟩ := Event.fetch.inj he'
    refine ⟨rfl, by simp [hp], ch, hch, rfl, fun t ht => ?_⟩
    obtain rfl := mem_singleton.mp ht
    exact ⟨hx, .inr rfl⟩

theorem missing_mem_of_unloaded (hun : env.cacheGetChannel c = none) :
    Event.missing c (ids.filterMap m) ∈ events := by
  cases h with
  | missing => exact mem_singleton_self _
  | unasked hch | batch hch | single hch => simp [hun] at hch

theorem not_null : Event.noUpstreamID ts ∉ events := by
  cases h <;> simp

/-- An answer is applied to a task that was asked about, or that a batch item names. -/
theorem answer_mem (he : Event.answer c' t ∈ events) :
    c' = c ∧ (env.cacheGetChannel c).isSome = true ∧ (t ∈ ids.filterMap m ∨
      env.getTaskAdaptor p = some .batch ∧
        ∃ named, env.batchOutcome p c = .items named ∧ t ∈ named.filterMap m) := by
  cases h with
  | missing => simp at he
  | unasked => cases he
  | @batch ch hch hp =>
    obtain ⟨x, hx, he⟩ := mem_map.mp ((mem_cons.mp he).resolve_left (by simp))
    obtain ⟨rfl, rfl⟩ := Event.answer.inj he
    refine ⟨rfl, by simp [hch], ?_⟩
    cases hout : env.batchOutcome p c with
    | failed => exact .inl (by simpa [hout, answeredTasks] using hx)
    | items named => exact .inr ⟨hp, named, rfl, by simpa [hout, answeredTasks] using hx⟩
  | @single ch hch =>
    obtain ⟨x, hx, he⟩ := mem_flatMap.mp he
    have he' : Event.answer c' t = .answer c x := by simpa using he
    obtain ⟨rfl, rfl⟩ := Event.answer.inj he'
    exact ⟨rfl, by simp [hch], .inl hx⟩

theorem answer_mem_of_named (hp : env.getTaskAdaptor p = some .batch)
    (hload : (env.cacheGetChannel c).isSome = true) {named : List String}
    (hout : env.batchOutcome p c = .items named) (ht : t ∈ named.filterMap m) :
    Event.answer c t ∈ events := by
  cases h with
  | missing hun => simp [hun] at hload
  | unasked _ hp' | single _ hp' => simp [hp] at hp'
  | batch =>
    rw [hout]
    exact mem_cons_of_mem _ (mem_map_of_mem ht)

theorem asks_eq :
    asks t events =
      if (env.cacheGetChannel c).isSome = true ∧ (env.getTaskAdaptor p).isSome = true then
        (ids.filterMap m).count t else 0 := by
  cases h with
  | missing hun => simp [asks, Event.asks, hun]
  | unasked hch hp => simp [asks, hp]
  | @batch ch hch hp =>
    rw [if_pos (by simp [hch, hp]), ← singleton_append, asks_append, asks_answers]
    simp [asks, Event.asks]
  | single hch hp =>
    rw [if_pos (by simp [hch, hp]), asks_flatMap]
    induction ids.filterMap m with
    | nil => rfl
    | cons x ts ih =>
      rw [map_cons, sum_cons, ih, count_cons]
      simp [asks, Event.asks, count_singleton, add_comm]

end ChannelPoll

end Channel

/-! ## The maps of a platform -/

section Platform

variable {tasks : List Task} {p : String} {c : ℤ} {u : String} {s t : Task}

theorem mem_polled : t ∈ polled tasks p ↔ t ∈ tasks ∧ t.platform = p ∧ t.getUpstreamTaskID ≠ "" := by
  simp [polled]

theorem taskM_eq_some (h : taskM tasks p u = some t) :
    t ∈ polled tasks p ∧ t.getUpstreamTaskID = u := last_eq_some h

theorem exists_taskM (h : t ∈ polled tasks p) : ∃ s, taskM tasks p t.getUpstreamTaskID = some s :=
  exists_last h

theorem mem_channelIds : c ∈ channelIds tasks p ↔ ∃ t ∈ polled tasks p, t.channelId = c :=
  mem_keys

/-- The tasks a channel is asked about: for each of its own, whatever the id now stands for. -/
theorem mem_asked : s ∈ (taskChannelM tasks p c).filterMap (taskM tasks p) ↔
    ∃ t ∈ polled tasks p, t.channelId = c ∧ taskM tasks p t.getUpstreamTaskID = some s := by
  rw [taskChannelM, groups_apply]
  simp only [mem_filterMap, mem_map, mem_filter, decide_eq_true_eq]
  constructor
  · rintro ⟨_, ⟨t, ⟨ht, hc⟩, rfl⟩, hs⟩
    exact ⟨t, ht, hc, hs⟩
  · rintro ⟨t, ht, hc, hs⟩
    exact ⟨_, ⟨t, ⟨ht, hc⟩, rfl⟩, hs⟩

end Platform

/-! ## The whole pass -/

section Whole

variable {env : Env} {tasks : List Task} {e : Event}

/-- The events of the pass, but for the cleanup of tasks without an id, are its channels'. -/
theorem mem_pass (he : ∀ ts, e ≠ .noUpstreamID ts) :
    e ∈ runTaskPollingOnce env tasks ↔ ∃ p c, p ≠ midjourney ∧ c ∈ channelIds tasks p ∧
      e ∈ pollChannel env p (taskM tasks p) c (taskChannelM tasks p c) := by
  have hnull : ∀ p, e ∉ (if (tasks.filter fun t => t.platform = p ∧ t.getUpstreamTaskID = "") = []
      then [] else [Event.noUpstreamID (tasks.filter fun t => t.platform = p ∧
        t.getUpstreamTaskID = "")]) := by
    intro p hmem
    split at hmem
    · cases hmem
    · exact he _ (mem_singleton.mp hmem)
  have hplatform : ∀ p, e ∈ pollPlatform env tasks p ↔ p ≠ midjourney ∧
      ∃ c ∈ channelIds tasks p, e ∈ pollChannel env p (taskM tasks p) c (taskChannelM tasks p c) := by
    intro p
    rw [pollPlatform, mem_append, or_iff_right (hnull p), dispatchPlatformUpdate]
    split
    · next hp => simp [hp]
    · next hp => simp [hp, mem_flatMap]
  rw [runTaskPollingOnce, mem_flatMap]
  constructor
  · rintro ⟨p, -, hp⟩
    obtain ⟨hne, c, hc, hmem⟩ := (hplatform p).mp hp
    exact ⟨p, c, hne, hc, hmem⟩
  · rintro ⟨p, c, hne, hc, hmem⟩
    obtain ⟨t, ht, -⟩ := mem_channelIds.mp hc
    obtain ⟨hmt, hpt, -⟩ := mem_polled.mp ht
    exact ⟨p, mem_keys.mpr ⟨t, hmt, hpt⟩, (hplatform p).mpr ⟨hne, c, hc, hmem⟩⟩

variable {c : ℤ} {ts : List Task}

theorem fetch_mem_pass {url key : String}
    (he : Event.fetch c url key ts ∈ runTaskPollingOnce env tasks) :
    ∃ p, p ≠ midjourney ∧ (env.getTaskAdaptor p).isSome = true ∧
      ∃ ch, env.cacheGetChannel c = some ch ∧ url = env.baseURL ch ∧
        ∀ t ∈ ts, (key = ch.key ∨ key = ch.keyFor t) ∧
          ∃ s ∈ polled tasks p, s.channelId = c ∧ taskM tasks p s.getUpstreamTaskID = some t := by
  obtain ⟨p, c', hp, -, he⟩ := (mem_pass (by simp)).mp he
  obtain ⟨rfl, hadapt, ch, hch, hurl, hts⟩ := (channelPoll ..).fetch_mem he
  exact ⟨p, hp, hadapt, ch, hch, hurl, fun t ht => ⟨(hts t ht).2, mem_asked.mp (hts t ht).1⟩⟩

theorem asks_pollPlatform (t : Task) (p : String) :
    asks t (pollPlatform env tasks p) = if p = midjourney then 0 else
      ((channelIds tasks p).map fun c =>
        asks t (pollChannel env p (taskM tasks p) c (taskChannelM tasks p c))).sum := by
  have hnull : ∀ ts : List Task, asks t (if ts = [] then [] else [Event.noUpstreamID ts]) = 0 := by
    intro ts
    split <;> rfl
  rw [pollPlatform, asks_append, hnull, zero_add, dispatchPlatformUpdate]
  split
  · rfl
  · exact asks_flatMap ..

variable {t : Task} {p : String}

/-- A channel none of whose tasks stands for `t` does not ask about it. -/
theorem asks_pollChannel_eq_zero
    (h : ∀ s ∈ polled tasks p, s.channelId = c → taskM tasks p s.getUpstreamTaskID ≠ some t) :
    asks t (pollChannel env p (taskM tasks p) c (taskChannelM tasks p c)) = 0 := by
  rw [(channelPoll ..).asks_eq, count_eq_zero_of_not_mem, ite_self]
  intro hmem
  obtain ⟨s, hs, hc, hm⟩ := mem_asked.mp hmem
  exact h s hs hc hm

/-- No other task of the platform has the task's upstream id. -/
def Alone (tasks : List Task) (t : Task) : Prop :=
  ∀ s ∈ tasks, s.platform = t.platform → s.getUpstreamTaskID = t.getUpstreamTaskID → s = t

/-- Whoever stands for a task that is alone with its id is that task. -/
theorem Alone.eq_of_taskM {s : Task} (h : Alone tasks t) (hs : s ∈ polled tasks p)
    (hm : taskM tasks p s.getUpstreamTaskID = some t) : s = t := by
  obtain ⟨htp, hu⟩ := taskM_eq_some hm
  obtain ⟨hs, hsp, -⟩ := mem_polled.mp hs
  exact h s hs (hsp.trans (mem_polled.mp htp).2.1.symm) hu.symm

theorem Alone.taskM_eq (h : Alone tasks t) (ht : t ∈ polled tasks p) :
    taskM tasks p t.getUpstreamTaskID = some t := by
  obtain ⟨s, hs⟩ := exists_taskM ht
  obtain ⟨hsp, hu⟩ := taskM_eq_some hs
  obtain ⟨hs', hp, -⟩ := mem_polled.mp hsp
  rw [hs, h s hs' (hp.trans (mem_polled.mp ht).2.1.symm) hu]

theorem Alone.count_asked (hnodup : tasks.Nodup) (h : Alone tasks t) (ht : t ∈ polled tasks p) :
    ((taskChannelM tasks p t.channelId).filterMap (taskM tasks p)).count t = 1 := by
  rw [taskChannelM, groups_apply, filterMap_map]
  refine count_filterMap_of_only ((hnodup.filter _).filter _) (a := t) ?_ (h.taskM_eq ht)
    fun s hs hms => ?_
  · exact mem_filter.mpr ⟨ht, by simp⟩
  · exact h.eq_of_taskM (mem_filter.mp hs).1 hms

/-- **A task alone with its id is asked about once.** -/
theorem Alone.asks_eq_one (hnodup : tasks.Nodup) (h : Alone tasks t) (ht : t ∈ tasks)
    (hid : t.getUpstreamTaskID ≠ "") (hload : (env.cacheGetChannel t.channelId).isSome = true)
    (hmj : t.platform ≠ midjourney) (hadapt : (env.getTaskAdaptor t.platform).isSome = true) :
    asks t (runTaskPollingOnce env tasks) = 1 := by
  have hpol : t ∈ polled tasks t.platform := mem_polled.mpr ⟨ht, rfl, hid⟩
  have hplatform : ∀ p ∈ keys Task.platform tasks, p ≠ t.platform →
      asks t (pollPlatform env tasks p) = 0 := by
    intro p _ hp
    rw [asks_pollPlatform]
    split
    · rfl
    · refine sum_eq_zero fun n hn => ?_
      obtain ⟨c, -, rfl⟩ := mem_map.mp hn
      refine asks_pollChannel_eq_zero fun s hs _ hm => hp ?_
      exact (mem_polled.mp (taskM_eq_some hm).1).2.1.symm
  have hchannel : ∀ c ∈ channelIds tasks t.platform, c ≠ t.channelId →
      asks t (pollChannel env t.platform (taskM tasks t.platform) c
        (taskChannelM tasks t.platform c)) = 0 := by
    refine fun c _ hc => asks_pollChannel_eq_zero fun s hs hsc hm => hc ?_
    rw [← hsc, h.eq_of_taskM hs hm]
  calc asks t (runTaskPollingOnce env tasks)
      = asks t (pollPlatform env tasks t.platform) := by
        rw [runTaskPollingOnce, asks_flatMap]
        exact sum_map_of_only (nodup_keys tasks) (mem_keys.mpr ⟨t, ht, rfl⟩)
          hplatform
    _ = asks t (pollChannel env t.platform (taskM tasks t.platform) t.channelId
          (taskChannelM tasks t.platform t.channelId)) := by
        rw [asks_pollPlatform, if_neg hmj]
        exact sum_map_of_only (nodup_keys _) (mem_channelIds.mpr ⟨t, hpol, rfl⟩) hchannel
    _ = 1 := by rw [(channelPoll ..).asks_eq, if_pos ⟨hload, hadapt⟩, h.count_asked hnodup hpol]

/-! ## When the pass polls its own -/

section

variable (h : Separate env tasks)

include h

/-- On a channel that can be loaded, a task that stands for one of the channel's is that one. -/
theorem Separate.eq_of_loaded {s : Task} (hp : p ≠ midjourney) (hs : s ∈ polled tasks p)
    (hload : (env.cacheGetChannel s.channelId).isSome = true)
    (hm : taskM tasks p s.getUpstreamTaskID = some t) : t = s := by
  obtain ⟨htp, hu⟩ := taskM_eq_some hm
  obtain ⟨hs, hsp, hsu⟩ := mem_polled.mp hs
  obtain ⟨ht, htp, -⟩ := mem_polled.mp htp
  by_contra hne
  have hnone := (h.ids s hs t ht (Ne.symm hne) (hsp.trans htp.symm) (hsp ▸ hp) hu.symm hsu).2
  simp [hnone] at hload

theorem Separate.alone (ht : t ∈ tasks) (hid : t.getUpstreamTaskID ≠ "")
    (hload : (env.cacheGetChannel t.channelId).isSome = true) : Alone tasks t := by
  intro s hs hp hu
  by_contra hne
  have hmj := (h.platforms t ht hid hload).1
  obtain ⟨hc, hnone⟩ := h.ids s hs t ht hne hp (hp ▸ hmj) hu (hu ▸ hid)
  simp [← hc, hnone] at hload

theorem Separate.channelId_of_answer (he : Event.answer c t ∈ runTaskPollingOnce env tasks) :
    t.channelId = c := by
  obtain ⟨p, c', hp, hc, he⟩ := (mem_pass (by simp)).mp he
  obtain ⟨rfl, hload, hans | ⟨hbatch, named, hout, hmem⟩⟩ := (channelPoll ..).answer_mem he
  · obtain ⟨s, hs, rfl, hm⟩ := mem_asked.mp hans
    rw [h.eq_of_loaded hp hs hload hm]
  · obtain ⟨s, hs, rfl⟩ := mem_channelIds.mp hc
    obtain ⟨hs', rfl, hsu⟩ := mem_polled.mp hs
    obtain ⟨u, hu, hm⟩ := mem_filterMap.mp hmem
    obtain ⟨htp, rfl⟩ := taskM_eq_some hm
    obtain ⟨ht, htp, htu⟩ := mem_polled.mp htp
    exact h.answers s hs' t ht htp.symm hp hsu htu hbatch hload named hout hu

theorem Separate.channelId_of_missing (he : Event.missing c ts ∈ runTaskPollingOnce env tasks)
    (ht : t ∈ ts) : t.channelId = c ∧ env.cacheGetChannel c = none := by
  obtain ⟨p, c', hp, -, he⟩ := (mem_pass (by simp)).mp he
  obtain ⟨rfl, hnone, rfl⟩ := (channelPoll ..).missing_mem he
  obtain ⟨s, hs, rfl, hm⟩ := mem_asked.mp ht
  refine ⟨?_, hnone⟩
  obtain ⟨htp, hu⟩ := taskM_eq_some hm
  obtain ⟨hs, hsp, hsu⟩ := mem_polled.mp hs
  obtain ⟨ht, htp, -⟩ := mem_polled.mp htp
  by_cases hst : s = t
  · rw [hst]
  · exact (h.ids s hs t ht hst (hsp.trans htp.symm) (hsp ▸ hp) hu.symm hsu).1.symm

end

theorem getUpstreamTaskID_of_null (he : Event.noUpstreamID ts ∈ runTaskPollingOnce env tasks)
    (ht : t ∈ ts) : t.getUpstreamTaskID = "" := by
  obtain ⟨p, -, he⟩ := mem_flatMap.mp he
  rcases mem_append.mp he with he | he
  · split at he
    · cases he
    · obtain rfl := Event.noUpstreamID.inj (mem_singleton.mp he)
      exact (by simpa using ht : t ∈ tasks ∧ t.platform = p ∧ t.getUpstreamTaskID = "").2.2
  · rw [dispatchPlatformUpdate] at he
    split at he
    · cases he
    · obtain ⟨c, -, he⟩ := mem_flatMap.mp he
      exact absurd he (channelPoll ..).not_null

theorem Separate.pollsOwn (hnodup : tasks.Nodup) (h : Separate env tasks) :
    PollsOwn env tasks (runTaskPollingOnce env tasks) where
  once t ht hid hload := by
    obtain ⟨hmj, hadapt⟩ := h.platforms t ht hid hload
    exact (h.alone ht hid hload).asks_eq_one hnodup ht hid hload hmj hadapt
  asked c url key ts he t ht := by
    obtain ⟨p, hp, -, ch, hch, hurl, hts⟩ := fetch_mem_pass he
    obtain ⟨hkey, s, hs, rfl, hm⟩ := hts t ht
    rw [h.eq_of_loaded hp hs (by simp [hch]) hm] at hkey ⊢
    exact ⟨rfl, ch, hch, hurl, hkey⟩
  answered c t he := h.channelId_of_answer he
  missing c ts he t ht := h.channelId_of_missing he ht
  null ts he t ht := getUpstreamTaskID_of_null he ht

variable {p : String} {s t : Task}

section

variable (h : PollsOwn env tasks (runTaskPollingOnce env tasks))

include h

/-- A task that lost its id to another is not asked about, so its channel cannot be loaded… -/
theorem PollsOwn.unloaded_of_lost (hs : s ∈ polled tasks p)
    (hm : taskM tasks p s.getUpstreamTaskID = some t) (hne : s ≠ t) :
    env.cacheGetChannel s.channelId = none := by
  by_contra hload
  obtain ⟨hs', hsp, hsu⟩ := mem_polled.mp hs
  have honce := h.once s hs' hsu (Option.isSome_iff_ne_none.mpr hload)
  obtain ⟨c, url, key, ts, he, hts⟩ := exists_fetch_of_asks (by rw [honce]; exact one_ne_zero)
  obtain ⟨q, -, -, ch, -, -, hall⟩ := fetch_mem_pass he
  obtain ⟨-, r, -, -, hr⟩ := hall s hts
  obtain ⟨hsq, hu⟩ := taskM_eq_some hr
  obtain rfl : p = q := hsp.symm.trans (mem_polled.mp hsq).2.1
  rw [← hu, hm] at hr
  exact hne (Option.some.inj hr).symm

/-- …and a channel that cannot be loaded fails whoever stands for its tasks, so that one is its own.
-/
theorem PollsOwn.channelId_of_unloaded (hp : p ≠ midjourney) (hs : s ∈ polled tasks p)
    (hm : taskM tasks p s.getUpstreamTaskID = some t)
    (hnone : env.cacheGetChannel s.channelId = none) : t.channelId = s.channelId := by
  refine (h.missing s.channelId _ ((mem_pass (by simp)).mpr ⟨p, s.channelId, hp,
    mem_channelIds.mpr ⟨s, hs, rfl⟩, (channelPoll ..).missing_mem_of_unloaded hnone⟩) t ?_).1
  exact mem_asked.mpr ⟨s, hs, rfl, hm⟩

theorem PollsOwn.ids (hp : p ≠ midjourney) (hs : s ∈ polled tasks p) (ht : t ∈ polled tasks p)
    (hne : s ≠ t) (hu : s.getUpstreamTaskID = t.getUpstreamTaskID) :
    s.channelId = t.channelId ∧ env.cacheGetChannel s.channelId = none := by
  obtain ⟨r, hr⟩ := exists_taskM hs
  -- at least one of the two is not the one found
  have hlost : ∀ {x}, x ∈ polled tasks p → taskM tasks p x.getUpstreamTaskID = some r → x ≠ r →
      r.channelId = x.channelId ∧ env.cacheGetChannel x.channelId = none := fun hx hxr hxne =>
    have hnone := h.unloaded_of_lost hx hxr hxne
    ⟨h.channelId_of_unloaded hp hx hxr hnone, hnone⟩
  by_cases hsr : s = r
  · subst hsr
    obtain ⟨hc, hnone⟩ := hlost ht (hu ▸ hr) (Ne.symm hne)
    exact ⟨hc, hc ▸ hnone⟩
  · obtain ⟨hc, hnone⟩ := hlost hs hr hsr
    refine ⟨?_, hnone⟩
    by_cases htr : t = r
    · rw [htr, hc]
    · rw [← hc, (hlost ht (hu ▸ hr) htr).1]

theorem PollsOwn.separate :
    Separate env tasks where
  ids s hs t ht hne hp hmj hu hsu :=
    h.ids hmj (mem_polled.mpr ⟨hs, rfl, hsu⟩) (mem_polled.mpr ⟨ht, hp.symm, hu ▸ hsu⟩) hne hu
  answers s hs t ht hp hmj hsu htu hbatch hload named hout hmem := by
    have hs' := mem_polled.mpr ⟨hs, rfl, hsu⟩
    have ht' := mem_polled.mpr ⟨ht, hp.symm, htu⟩
    obtain ⟨r, hr⟩ := exists_taskM ht'
    have hrc : r.channelId = s.channelId := by
      refine h.answered s.channelId r ((mem_pass (by simp)).mpr ⟨s.platform, s.channelId, hmj,
        mem_channelIds.mpr ⟨s, hs', rfl⟩, ?_⟩)
      exact (channelPoll ..).answer_mem_of_named hbatch hload hout
        (mem_filterMap.mpr ⟨_, hmem, hr⟩)
    by_cases htr : t = r
    · rw [htr, hrc]
    · obtain ⟨hr', hu⟩ := taskM_eq_some hr
      rw [(h.ids hmj ht' hr' htr hu.symm).1, hrc]
  platforms t ht hid hload := by
    have honce := h.once t ht hid hload
    obtain ⟨c, url, key, ts, he, hts⟩ := exists_fetch_of_asks (by rw [honce]; exact one_ne_zero)
    obtain ⟨q, hq, hadapt, ch, -, -, hall⟩ := fetch_mem_pass he
    obtain ⟨-, r, -, -, hr⟩ := hall t hts
    have hp := (mem_polled.mp (taskM_eq_some hr).1).2.1
    exact ⟨hp ▸ hq, hp ▸ hadapt⟩

end

end Whole

theorem nodup_getAllUnFinishSyncTasks (limit : ℕ) (rows : Rows) :
    (getAllUnFinishSyncTasks limit rows).Nodup := by
  have hrows : rows.rows.Nodup := rows.nodup.of_map _
  refine (take_sublist ..).nodup ((perm_insertionSort _ _).nodup_iff.mpr ?_)
  exact hrows.filter _

/-- **A pass polls its own tasks at their own channels exactly when the ids tell the tasks apart.**
-/
theorem pass_polls_own_iff (env : Env) (limit : ℕ) (rows : Rows) :
    PollsOwn env (getAllUnFinishSyncTasks limit rows)
        (runTaskPollingOnce env (getAllUnFinishSyncTasks limit rows)) ↔
      Separate env (getAllUnFinishSyncTasks limit rows) :=
  ⟨PollsOwn.separate, Separate.pollsOwn (nodup_getAllUnFinishSyncTasks limit rows)⟩

/-! ## Two upstreams that chose the same id -/

/-- Two channels that can be loaded, and an adaptor that polls task by task. -/
def twoChannels : Env where
  cacheGetChannel c := if c = 1 then some { baseURL := some "https://one", key := "k1" }
    else if c = 2 then some { baseURL := some "https://two", key := "k2" } else none
  getTaskAdaptor _ := some .single

/-- A task on channel `c` that its upstream calls `job-1`. -/
def jobOn (c : ℤ) : Task :=
  { id := c, platform := "54", channelId := c, privateData := { upstreamTaskId := "job-1" } }

/-- Two tasks on two channels. -/
def jobRows : Rows := ⟨[jobOn 1, jobOn 2], by decide⟩

/-- Channel 1 is asked about channel 2's task, with its own URL and key, and its answer is applied
to it; about its own task nobody is asked. -/
theorem shared_id_polled_elsewhere :
    runTaskPollingOnce twoChannels (getAllUnFinishSyncTasks 100 jobRows) =
        [.fetch 1 "https://one" "k1" [jobOn 2], .answer 1 (jobOn 2),
          .fetch 2 "https://two" "k2" [jobOn 2], .answer 2 (jobOn 2)] ∧
      ¬PollsOwn twoChannels (getAllUnFinishSyncTasks 100 jobRows)
        (runTaskPollingOnce twoChannels (getAllUnFinishSyncTasks 100 jobRows)) := by
  have hrun : runTaskPollingOnce twoChannels (getAllUnFinishSyncTasks 100 jobRows) =
      [.fetch 1 "https://one" "k1" [jobOn 2], .answer 1 (jobOn 2),
        .fetch 2 "https://two" "k2" [jobOn 2], .answer 2 (jobOn 2)] := by decide
  refine ⟨hrun, fun h => ?_⟩
  exact absurd (h.answered 1 (jobOn 2) (by decide)) (by decide)

end AsyncTask.Pass
