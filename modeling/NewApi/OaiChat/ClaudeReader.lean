import NewApi.Machinery.Blocks
import NewApi.Machinery.Reading
import NewApi.OaiChat.ClaudeStream

/-!
# OaiChat/ClaudeReader — a client of Claude events

A client of the Messages API follows the blocks of a message (`Reader.step`).  The conversion knows
the blocks that are open (`State.openBlocks`) and the indices that are used.

* `Agrees` — the client holds what the conversion thinks it holds.
* `Agrees.toolMove`, `agrees_takeToolCalls` — tools are started and grow.
* `Agrees.appendStopOpenBlocks` — all that is open is stopped.
-/

namespace ClaudeStream

open Blocks List Nat ToolCall CallTable Or

open Reading (Leads)

/-! ## The reader -/

/-- The kinds of blocks. -/
inductive BlockKind where
  | text | thinking | toolUse
  deriving DecidableEq

/-- The kind of a block that starts. -/
def ContentBlock.kind : ContentBlock → BlockKind
  | .text => .text
  | .thinking => .thinking
  | .toolUse _ _ => .toolUse

/-- The kind of block a delta is for. -/
def Delta.kind : Delta → BlockKind
  | .text _ => .text
  | .thinking _ => .thinking
  | .inputJSON _ => .toolUse
  | .citation _ => .text

/-- What a delta adds to its block. -/
def Delta.content : Delta → String
  | .text delta => delta
  | .thinking delta => delta
  | .inputJSON delta => delta
  | .citation _ => ""

/-- What a client holds. -/
structure Reader where
  started : Bool := false
  blocks : List (Block BlockKind) := []
  /-- `message_delta` was read. -/
  ended : Bool := false
  stopped : Bool := false

namespace Reader

variable (r : Reader)

/-- The blocks are changed. -/
def withBlocks (blocks : Option (List (Block BlockKind))) : Option Reader :=
  blocks.map fun blocks => { r with blocks }

/-- An event between `message_start` and `message_stop`. -/
def follow : Event → Option Reader
  | .messageStart _ _ _ => none
  | .blockStart i block =>
    -- at most one block of text or thinking is open
    if r.ended = false ∧
        (block.kind = .toolUse ∨ ∀ b ∈ r.blocks, b.live = true → b.kind = .toolUse) then
      r.withBlocks (Blocks.start r.blocks i block.kind)
    else none
  | .blockDelta i delta =>
    if r.ended = false then
      r.withBlocks (Blocks.extend r.blocks i (·.kind = delta.kind) delta.content)
    else none
  | .blockStop i =>
    if r.ended = false then r.withBlocks (Blocks.stop r.blocks i fun _ => True) else none
  | .messageDelta _ _ =>
    if r.ended = false ∧ ∀ b ∈ r.blocks, b.live = false then some { r with ended := true } else none
  | .messageStop => if r.ended = true then some { r with stopped := true } else none

/-- The next event: `message_start` comes first and once, and nothing after `message_stop`. -/
def step : Event → Option Reader
  | .messageStart _ _ _ => if r.started then none else some { r with started := true }
  | event => if r.started ∧ r.stopped = false then r.follow event else none

end Reader

/-- **A stream obeys the protocol**: it is read to `message_stop`. -/
def Obeys (events : List Event) : Prop :=
  (events.foldlM Reader.step {}).any Reader.stopped = true

instance (events : List Event) : Decidable (Obeys events) := inferInstanceAs (Decidable (_ = _))

/-! ## What the conversion holds -/

namespace State

variable (s : State)

/-- The blocks of the tools that were started. -/
def startedTools : List ℕ := (s.toolCalls.calls.filter ToolCall.started).map ToolCall.blockIndex

/-- The blocks that are open. -/
def openBlocks : List (ℕ × BlockKind) :=
  match s.lastMessagesType with
  | .none => []
  | .text => [(s.index, .text)]
  | .thinking => [(s.index, .thinking)]
  | .tools => s.startedTools.map fun i => (i, .toolUse)

/-- The indices that may have been used. -/
def Used (i : ℕ) : Prop :=
  match s.lastMessagesType with
  | .none => i < s.index
  | .text | .thinking => i ≤ s.index
  | .tools => i < s.toolCallBaseIndex ∨ i ∈ s.startedTools

end State

/-- Tools stand one after the other, and the maps lead to them. -/
structure Tabled (s : State) : Prop where
  blockIndex : ∀ p tool, s.toolCalls.calls[p]? = some tool →
    tool.blockIndex = s.toolCallBaseIndex + p
  byIndex : ∀ x ∈ s.toolCalls.byIndex, x.2 < s.toolCalls.calls.length
  byID : ∀ x ∈ s.toolCalls.byID, x.2 < s.toolCalls.calls.length

/-- …and there is one where tools are open. -/
structure Sound (s : State) : Prop extends Tabled s where
  nonempty : s.lastMessagesType = .tools → s.toolCalls.calls ≠ []

/-- **The client holds what the conversion thinks it holds.** -/
structure Agrees (s : State) (r : Reader) : Prop where
  started : r.started = true
  running : r.ended = false
  unstopped : r.stopped = false
  live : ∀ x, x ∈ Blocks.liveOf r.blocks ↔ x ∈ s.openBlocks
  used : ∀ b ∈ r.blocks, s.Used b.index

/-! ## Single events -/

section Events

variable {s s' : State} {r : Reader} {i : ℕ} {kind : BlockKind}

theorem Agrees.step {event : Event} {r' : Reader} (h : Agrees s r)
    (hfollow : r.follow event = some r') : r.step event = some r' := by
  cases event with
  | messageStart id model usage => cases hfollow
  | _ =>
    rwa [Reader.step, if_pos ⟨h.started, h.unstopped⟩]
    exact fun _ _ _ hstart => Event.noConfusion hstart

/-- A block may start under an unused index. -/
theorem Agrees.start {block : ContentBlock} (h : Agrees s r) (hi : ¬s.Used i)
    (hone : block.kind = .toolUse ∨ s.openBlocks = [])
    (hopen : ∀ x, x ∈ s'.openBlocks ↔ x ∈ s.openBlocks ∨ x = (i, block.kind))
    (hused : ∀ j, s'.Used j ↔ s.Used j ∨ j = i) :
    Leads Reader.step r [.blockStart i block] (Agrees s') := by
  have hfree : ∀ b ∈ r.blocks, b.index ≠ i := fun b hb heq => hi (heq ▸ h.used b hb)
  have hlone : block.kind = .toolUse ∨ ∀ b ∈ r.blocks, b.live = true → b.kind = .toolUse := by
    refine hone.imp_right fun hnone b hb hlive => ?_
    have hmem := (h.live (b.index, b.kind)).1 (mem_liveOf.2 ⟨b, hb, hlive, rfl⟩)
    rw [hnone] at hmem
    cases hmem
  have hread : r.follow (.blockStart i block) =
      some { r with blocks := r.blocks ++ [{ index := i, kind := block.kind }] } := by
    rw [Reader.follow, if_pos ⟨h.running, hlone⟩, Reader.withBlocks, start_eq hfree]
    rfl
  refine Leads.single (h.step hread) ⟨h.started, h.running, h.unstopped, fun x => ?_, fun b hb => ?_⟩
  · rw [mem_liveOf_start, h.live, hopen]
  · rw [hused]
    rcases mem_append.1 hb with hold | hnew
    · exact inl (h.used b hold)
    · rw [mem_singleton.1 hnew]
      exact inr rfl

/-- An open block may grow. -/
theorem Agrees.delta {delta : Delta} (h : Agrees s r) (hopen : (i, delta.kind) ∈ s.openBlocks) :
    Leads Reader.step r [.blockDelta i delta] (Agrees s) := by
  have hstands : Blocks.Stands r.blocks i fun b => b.kind = delta.kind :=
    stands_of_mem_liveOf ((h.live _).2 hopen) fun _ hkind => hkind
  have hread : r.follow (.blockDelta i delta) =
      some
        { r with
          blocks := r.blocks.map (onIndex i fun b =>
            { b with text := b.text ++ delta.content }) } := by
    rw [Reader.follow, if_pos h.running, Reader.withBlocks, extend_eq hstands]
    rfl
  refine Leads.single (h.step hread) ⟨h.started, h.running, h.unstopped, fun x => ?_, ?_⟩
  · rw [mem_liveOf_extend, h.live]
  · refine (forall_index_map ?_).2 h.used
    exact index_onIndex fun _ => rfl

/-- Open blocks may stop. -/
theorem Agrees.stops {l : List ℕ} (h : Agrees s r) (hl : l.Nodup)
    (hlive : ∀ i ∈ l, ∃ kind, (i, kind) ∈ s.openBlocks) :
    Leads Reader.step r (l.map .blockStop) fun r' => r'.started = true ∧ r'.ended = false ∧
      r'.stopped = false ∧
      (∀ x, x ∈ liveOf r'.blocks ↔ x ∈ s.openBlocks ∧ x.1 ∉ l) ∧
      ∀ b ∈ r'.blocks, s.Used b.index := by
  induction l using reverseRecOn with
  | nil =>
    refine Leads.nil ⟨h.started, h.running, h.unstopped, fun x => ?_, h.used⟩
    rw [h.live, and_iff_left not_mem_nil]
  | append_singleton l i ih =>
    rw [map_append]
    refine (ih (nodup_append.1 hl).1 fun j hj => hlive j (mem_append_left _ hj)).append ?_
    rintro r' ⟨hstarted, hrunning, hunstopped, hlive', hused⟩
    obtain ⟨kind, hkind⟩ := hlive i (mem_append_right _ mem_cons_self)
    have hnot : i ∉ l := fun hmem =>
      (nodup_append.1 hl).2.2 i hmem i mem_cons_self rfl
    have hstands : Blocks.Stands r'.blocks i fun _ => True :=
      stands_of_mem_liveOf ((hlive' (i, kind)).2 ⟨hkind, hnot⟩) fun _ _ => trivial
    have hread : r'.step (.blockStop i) =
        some
          { r' with
            blocks := r'.blocks.map (onIndex i fun b => { b with live := false }) } := by
      rw [Reader.step, if_pos ⟨hstarted, hunstopped⟩, Reader.follow, if_pos hrunning,
        Reader.withBlocks, stop_eq hstands]
      · rfl
      · exact fun _ _ _ hstart => Event.noConfusion hstart
    refine Leads.single hread ⟨hstarted, hrunning, hunstopped, fun x => ?_, ?_⟩
    · rw [mem_liveOf_stop, hlive', mem_append, not_or, mem_singleton, and_assoc]
    · refine (forall_index_map ?_).2 hused
      exact index_onIndex fun _ => rfl

end Events

/-! ## Tools -/

/-- What happens to the block of a tool: it is started, it grows, or nothing does. -/
inductive ToolMove (i : ℕ) : Bool → Bool → List Event → Prop where
  | keep (started : Bool) : ToolMove i started started []
  | grow (arguments : String) : ToolMove i true true [.blockDelta i (.inputJSON arguments)]
  | start (id name : String) : ToolMove i false true [.blockStart i (.toolUse id name)]
  | startWith (id name arguments : String) :
    ToolMove i false true
      [.blockStart i (.toolUse id name), .blockDelta i (.inputJSON arguments)]

section Tools

variable {s s' : State} {r : Reader} {tool tool' : ToolCall} {p i : ℕ} {events : List Event}

theorem toolMove_startEvents (id : String) :
    ToolMove tool.blockIndex false true (tool.startEvents id) := by
  unfold startEvents
  split_ifs
  · exact .start id tool.name
  · exact .startWith id tool.name tool.pendingArguments

theorem toolMove_startPending (uuid : ℕ → String) :
    ToolMove tool.blockIndex tool.started (tool.startPending uuid).1.started
      (tool.startPending uuid).2 := by
  rw [startPending]
  by_cases h : tool.started = true ∨ tool.name = ""
  · rw [if_pos h]
    exact .keep _
  · rw [if_neg h]
    rw [not_or, Bool.not_eq_true] at h
    rw [h.1]
    exact toolMove_startEvents _

theorem blockIndex_startPending (uuid : ℕ → String) :
    (tool.startPending uuid).1.blockIndex = tool.blockIndex := by
  unfold startPending
  split_ifs <;> rfl

/-- A fragment announces its tool at most once. -/
theorem toolMove_feed (id name arguments : String) :
    ToolMove tool.blockIndex tool.started (tool.feed id name arguments).1.started
      (tool.feed id name arguments).2 := by
  have hstarted : (tool.take id name arguments).started = tool.started := rfl
  rw [feed]
  by_cases h : ¬(tool.take id name arguments).started = true ∧
    (tool.take id name arguments).id ≠ "" ∧ (tool.take id name arguments).name ≠ ""
  · rw [if_pos h]
    rw [hstarted, Bool.not_eq_true] at h
    rw [h.1]
    exact @toolMove_startEvents (tool.take id name arguments) _
  · rw [if_neg h]
    by_cases hgrow : (tool.take id name arguments).started = true ∧ arguments ≠ ""
    · rw [if_pos hgrow, hstarted]
      rw [hstarted] at hgrow
      rw [hgrow.1]
      exact .grow arguments
    · rw [if_neg hgrow]
      exact .keep _

theorem blockIndex_feed (id name arguments : String) :
    (tool.feed id name arguments).1.blockIndex = tool.blockIndex := by
  rw [feed]
  split_ifs <;> rfl

/-- The tools that were announced. -/
theorem mem_startedTools : i ∈ s.startedTools ↔
    ∃ (q : ℕ) (tool : ToolCall), s.toolCalls.calls[q]? = some tool ∧ tool.started = true ∧
      tool.blockIndex = i := by
  simp only [State.startedTools, mem_map, mem_filter]
  constructor
  · rintro ⟨tool, ⟨hmem, hstarted⟩, hi⟩
    obtain ⟨q, hq⟩ := mem_iff_getElem?.1 hmem
    exact ⟨q, tool, hq, hstarted, hi⟩
  · rintro ⟨q, tool, hq, hstarted, hi⟩
    exact ⟨tool, ⟨mem_of_getElem? hq, hstarted⟩, hi⟩

/-- The tools that are started after one of them has moved. -/
theorem mem_startedTools_set (hp : s.toolCalls.calls[p]? = some tool)
    (hcalls : s'.toolCalls.calls = s.toolCalls.calls.set p tool')
    (hindex : tool'.blockIndex = tool.blockIndex)
    (hmono : tool.started = true → tool'.started = true) :
    i ∈ s'.startedTools ↔ i ∈ s.startedTools ∨ tool'.started = true ∧ i = tool.blockIndex := by
  have hlt := (List.getElem?_eq_some_iff.1 hp).1
  rw [mem_startedTools, mem_startedTools, hcalls]
  constructor
  · rintro ⟨q, t, hq, hstarted, hi⟩
    by_cases hpq : p = q
    · rw [← hpq, List.getElem?_set_self hlt] at hq
      cases hq
      exact inr ⟨hstarted, hi.symm.trans hindex⟩
    · rw [getElem?_set_ne hpq] at hq
      exact inl ⟨q, t, hq, hstarted, hi⟩
  · rintro (⟨q, t, hq, hstarted, hi⟩ | ⟨hstarted, hi⟩)
    · by_cases hpq : p = q
      · subst hpq
        cases hp.symm.trans hq
        exact ⟨p, tool', List.getElem?_set_self hlt, hmono hstarted, hindex.trans hi⟩
      · exact ⟨q, t, (getElem?_set_ne hpq).trans hq, hstarted, hi⟩
    · exact ⟨p, tool', List.getElem?_set_self hlt, hstarted, hindex.trans hi.symm⟩

/-- The index of a tool that was not started is free. -/
theorem Tabled.not_used (hs : Tabled s) (htools : s.lastMessagesType = .tools)
    (hp : s.toolCalls.calls[p]? = some tool) (hstarted : tool.started = false) :
    ¬s.Used tool.blockIndex := by
  have hindex := hs.blockIndex p tool hp
  rw [State.Used, htools]
  rintro (hlt | hmem)
  · omega
  · obtain ⟨q, t, hq, ht, hi⟩ := mem_startedTools.1 hmem
    have hq' := hs.blockIndex q t hq
    have hpq : p = q := by omega
    subst hpq
    cases hp.symm.trans hq
    exact Bool.false_ne_true (hstarted.symm.trans ht)

theorem mem_openBlocks_tools (htools : s.lastMessagesType = .tools) {x : ℕ × BlockKind} :
    x ∈ s.openBlocks ↔ x.1 ∈ s.startedTools ∧ x.2 = .toolUse := by
  obtain ⟨i, kind⟩ := x
  rw [State.openBlocks, htools]
  simp only [mem_map, Prod.mk.injEq]
  constructor
  · rintro ⟨j, hj, rfl, rfl⟩
    exact ⟨hj, rfl⟩
  · rintro ⟨hi, rfl⟩
    exact ⟨i, hi, rfl, rfl⟩

/-- A state after one of the tools has moved. -/
structure Moved (s s' : State) (p : ℕ) (tool tool' : ToolCall) : Prop where
  tools : s.lastMessagesType = .tools
  tools' : s'.lastMessagesType = .tools
  base : s'.toolCallBaseIndex = s.toolCallBaseIndex
  get : s.toolCalls.calls[p]? = some tool
  calls : s'.toolCalls.calls = s.toolCalls.calls.set p tool'
  index : tool'.blockIndex = tool.blockIndex

section

variable (hm : Moved s s' p tool tool') (hmono : tool.started = true → tool'.started = true)

include hm hmono

/-- A tool that moves is the only one to be opened. -/
theorem Moved.open_iff (x : ℕ × BlockKind) :
    x ∈ s'.openBlocks ↔
      x ∈ s.openBlocks ∨ tool'.started = true ∧ x = (tool.blockIndex, .toolUse) := by
  obtain ⟨i, kind⟩ := x
  rw [mem_openBlocks_tools hm.tools, mem_openBlocks_tools hm.tools',
    mem_startedTools_set hm.get hm.calls hm.index hmono, Prod.mk.injEq]
  tauto

theorem Moved.used_iff (i : ℕ) :
    s'.Used i ↔ s.Used i ∨ tool'.started = true ∧ i = tool.blockIndex := by
  rw [State.Used, hm.tools', State.Used, hm.tools, hm.base]
  rw [mem_startedTools_set hm.get hm.calls hm.index hmono, or_assoc]

end

theorem mem_open_of_started (htools : s.lastMessagesType = .tools)
    (hp : s.toolCalls.calls[p]? = some tool) (hstarted : tool.started = true) :
    (tool.blockIndex, .toolUse) ∈ s.openBlocks :=
  (mem_openBlocks_tools htools).2 ⟨mem_startedTools.2 ⟨p, tool, hp, hstarted, rfl⟩, rfl⟩

/-- Without a start the client sees no difference. -/
theorem Agrees.of_moved (h : Agrees s r) (hm : Moved s s' p tool tool')
    (hsame : tool'.started = tool.started) : Agrees s' r := by
  have hmono : tool.started = true → tool'.started = true := hsame.trans
  refine ⟨h.started, h.running, h.unstopped, fun x => ?_, fun b hb => ?_⟩
  · rw [h.live, hm.open_iff hmono, or_iff_left_of_imp]
    rintro ⟨hstarted, rfl⟩
    exact mem_open_of_started hm.tools hm.get (hsame.symm.trans hstarted)
  · exact (hm.used_iff hmono _).2 (inl (h.used b hb))

section

variable (h : Agrees s r) (hs : Tabled s) (hm : Moved s s' p tool tool')

include h hs hm

theorem Agrees.startTool (hbefore : tool.started = false) (hafter : tool'.started = true)
    (id name : String) :
    Leads Reader.step r [.blockStart tool.blockIndex (.toolUse id name)] (Agrees s') := by
  have hmono : tool.started = true → tool'.started = true := fun _ => hafter
  refine h.start (hs.not_used hm.tools hm.get hbefore) (inl rfl) (fun x => ?_) fun i => ?_
  · rw [hm.open_iff hmono, and_iff_right hafter]
    rfl
  · rw [hm.used_iff hmono, and_iff_right hafter]

/-- **The client follows a tool that moves.** -/
theorem Agrees.toolMove (hmove : ToolMove tool.blockIndex tool.started tool'.started events) :
    Leads Reader.step r events (Agrees s') := by
  generalize hbefore : tool.started = before, hafter : tool'.started = after at hmove
  have hlt := (List.getElem?_eq_some_iff.1 hm.get).1
  cases hmove with
  | keep => exact Leads.nil (h.of_moved hm (hafter.trans hbefore.symm))
  | grow arguments =>
    refine Leads.mono (h.delta ?_) fun r' h' => h'.of_moved hm (hafter.trans hbefore.symm)
    exact mem_open_of_started hm.tools hm.get hbefore
  | start id name => exact h.startTool hs hm hbefore hafter id name
  | startWith id name arguments =>
    have hget : s'.toolCalls.calls[p]? = some tool' := by
      rw [hm.calls]
      exact List.getElem?_set_self hlt
    refine (h.startTool hs hm hbefore hafter id name).append fun r' h' => h'.delta ?_
    rw [← hm.index]
    exact mem_open_of_started hm.tools' hget hafter

end

end Tools

/-! ### The calls of a chunk -/

section TakeToolCall

variable {s : State} {r : Reader} {index : ℤ} {id : String} {p : ℕ}

theorem mem_of_lookup {κ : Type} [DecidableEq κ] {l : List (κ × ℕ)} {k : κ}
    (h : l.lookup k = some p) : (k, p) ∈ l := by
  obtain ⟨l₁, l₂, rfl, -⟩ := lookup_eq_some_iff.1 h
  exact mem_append_right _ mem_cons_self

theorem Tabled.place_le (hs : Tabled s) :
    s.toolCalls.place ToolCall.id index id ≤ s.toolCalls.calls.length := by
  rw [place]
  cases hfind : s.toolCalls.find ToolCall.id index id with
  | none => exact Nat.le_refl _
  | some p =>
    obtain ⟨hfound, -⟩ := Option.filter_eq_some_iff.1 hfind
    rw [Option.or_eq_some_iff] at hfound
    rcases hfound with hid | ⟨-, hindex⟩
    · split_ifs at hid with hempty
      exact (hs.byID _ (mem_of_lookup hid)).le
    · exact (hs.byIndex _ (mem_of_lookup hindex)).le

/-- The table with a new call, before anything is known of it. -/
def State.withNewTool (s : State) : State :=
  { s with
    toolCalls :=
      { s.toolCalls with
        calls := s.toolCalls.calls ++
          [{ blockIndex := s.toolCallBaseIndex + s.toolCalls.calls.length }] } }

theorem tabled_withNewTool (hs : Tabled s) : Tabled s.withNewTool := by
  have hlength : s.withNewTool.toolCalls.calls.length = s.toolCalls.calls.length + 1 :=
    length_append
  refine ⟨fun p tool hp => ?_, fun x hx => ?_, fun x hx => ?_⟩
  · rcases lt_or_ge p s.toolCalls.calls.length with hlt | hge
    · rw [State.withNewTool, getElem?_append_left hlt] at hp
      exact hs.blockIndex p tool hp
    · have hlt := (List.getElem?_eq_some_iff.1 hp).1
      obtain rfl : p = s.toolCalls.calls.length := by omega
      rw [State.withNewTool, getElem?_concat_length] at hp
      cases hp
      rfl
  · exact hlength ▸ lt_succ_of_lt (hs.byIndex x hx)
  · exact hlength ▸ lt_succ_of_lt (hs.byID x hx)

/-- The client does not see it. -/
theorem Agrees.withNewTool (h : Agrees s r) : Agrees s.withNewTool r := by
  have hstarted : s.withNewTool.startedTools = s.startedTools := by
    simp [State.startedTools, State.withNewTool]
  have hopen : s.withNewTool.openBlocks = s.openBlocks := by
    rw [State.openBlocks, hstarted]
    rfl
  refine ⟨h.started, h.running, h.unstopped, fun x => ?_, fun b hb => ?_⟩
  · rw [hopen]
    exact h.live x
  · have hused := h.used b hb
    unfold State.Used at hused ⊢
    rw [hstarted]
    exact hused

/-- The call of a fragment after it was fed. -/
def State.fedTool (s : State) (index : ℤ) (call : ToolCallDelta) : ToolCall :=
  ((s.toolFor index (Text.trimmed call.id)).feed (Text.trimmed call.id) (Text.trimmed call.name)
    call.arguments).1

/-- Its place. -/
def State.placeOf (s : State) (index : ℤ) (call : ToolCallDelta) : ℕ :=
  s.toolCalls.place ToolCall.id index (Text.trimmed call.id)

theorem toolCalls_takeToolCall {call : ToolCallDelta} :
    (s.takeToolCall index call).1.toolCalls =
      s.toolCalls.put ToolCall.id index (Text.trimmed call.id) (s.fedTool index call)
        (decide ((s.toolFor index (Text.trimmed call.id)).id ≠ "")) := rfl

/-! The maps after a fragment. -/

variable {known : Bool}

theorem CallTable.byIndex_put {α : Type} {idOf : α → String} {t : CallTable α} {c : α} :
    (t.put idOf index id c known).byIndex = (index, t.place idOf index id) :: t.byIndex := rfl

theorem CallTable.mem_byID_put {α : Type} {idOf : α → String} {t : CallTable α} {c : α}
    {x : String × ℕ} (h : x ∈ (t.put idOf index id c known).byID) :
    x ∈ t.byID ∨ x = (id, t.place idOf index id) ∧ id ≠ "" ∧ known = false := by
  rw [put] at h
  dsimp only at h
  split_ifs at h with hknown
  · exact inl h
  · rw [not_or, Bool.not_eq_true] at hknown
    exact (mem_cons.1 h).symm.imp_right fun heq => ⟨heq, hknown.2, hknown.1⟩

theorem Tabled.moved {s' : State} {tool tool' : ToolCall} (hs : Tabled s)
    (hm : Moved s s' p tool tool') (q : ℕ) (t : ToolCall) (hq : s'.toolCalls.calls[q]? = some t) :
    t.blockIndex = s'.toolCallBaseIndex + q := by
  rw [hm.calls] at hq
  rw [hm.base]
  by_cases hpq : p = q
  · subst hpq
    rw [List.getElem?_set_self (List.getElem?_eq_some_iff.1 hm.get).1] at hq
    cases hq
    exact hm.index.trans (hs.blockIndex p tool hm.get)
  · rw [getElem?_set_ne hpq] at hq
    exact hs.blockIndex q t hq

section

variable (hs : Tabled s) (htools : s.lastMessagesType = .tools)

include hs htools

/-- A fragment moves a call of the table, which may be the new one. -/
theorem exists_moved (index : ℤ) (call : ToolCallDelta) :
    ∃ s₀, Tabled s₀ ∧ s.toolCalls.calls.length ≤ s₀.toolCalls.calls.length ∧
      (∀ r, Agrees s r → Agrees s₀ r) ∧
      Moved s₀ (s.takeToolCall index call).1 (s.placeOf index call)
        (s.toolFor index (Text.trimmed call.id)) (s.fedTool index call) := by
  have hle : s.placeOf index call ≤ s.toolCalls.calls.length := hs.place_le
  have hcalls : (s.takeToolCall index call).1.toolCalls.calls =
      if s.placeOf index call < s.toolCalls.calls.length then
        s.toolCalls.calls.set (s.placeOf index call) (s.fedTool index call)
      else s.toolCalls.calls ++ [s.fedTool index call] := rfl
  have hfor : s.toolFor index (Text.trimmed call.id) =
      (s.toolCalls.calls[s.placeOf index call]?).getD
        { blockIndex := s.toolCallBaseIndex + s.toolCalls.calls.length } := rfl
  rcases lt_or_eq_of_le hle with hlt | heq
  · refine ⟨s, hs, Nat.le_refl _, fun _ h => h, htools, htools, rfl, ?_, ?_, blockIndex_feed _ _ _⟩
    · rw [hfor, getElem?_eq_getElem hlt]
      rfl
    · rw [hcalls, if_pos hlt]
  · refine ⟨s.withNewTool, tabled_withNewTool hs, ?_, fun _ h => h.withNewTool, htools, htools, rfl,
      ?_, ?_, blockIndex_feed _ _ _⟩
    · rw [State.withNewTool, length_append]
      exact le_add_right _ _
    · rw [hfor, heq, getElem?_eq_none (Nat.le_refl _)]
      exact getElem?_concat_length
    · rw [hcalls, if_neg (heq ▸ lt_irrefl _), heq, State.withNewTool,
        List.set_append_right _ _ (Nat.le_refl _), Nat.sub_self]
      rfl

/-- A tool call is read. -/
theorem agrees_takeToolCall (index : ℤ) (call : ToolCallDelta) (h : Agrees s r) :
    Leads Reader.step r (s.takeToolCall index call).2 (Agrees (s.takeToolCall index call).1) := by
  obtain ⟨s₀, hs₀, -, hagrees, hm⟩ := exists_moved hs htools index call
  exact (hagrees r h).toolMove hs₀ hm (toolMove_feed _ _ _)

/-- …and tabled. -/
theorem tabled_takeToolCall (index : ℤ) (call : ToolCallDelta) :
    Tabled (s.takeToolCall index call).1 ∧ (s.takeToolCall index call).1.toolCalls.calls ≠ [] := by
  obtain ⟨s₀, hs₀, hle, -, hm⟩ := exists_moved hs htools index call
  have hlength : (s.takeToolCall index call).1.toolCalls.calls.length =
      s₀.toolCalls.calls.length := by
    rw [hm.calls, length_set]
  have hplace : s.placeOf index call < (s.takeToolCall index call).1.toolCalls.calls.length :=
    hlength ▸ (List.getElem?_eq_some_iff.1 hm.get).1
  refine ⟨⟨hs₀.moved hm, fun x hx => ?_, fun x hx => ?_⟩, ?_⟩
  · rw [toolCalls_takeToolCall, byIndex_put] at hx
    rcases mem_cons.1 hx with heq | hold
    · rw [heq]
      exact hplace
    · exact hlength ▸ (hs.byIndex x hold).trans_le hle
  · rw [toolCalls_takeToolCall] at hx
    rcases mem_byID_put hx with hold | ⟨heq, -, -⟩
    · exact hlength ▸ (hs.byID x hold).trans_le hle
    · rw [heq]
      exact hplace
  · intro hnil
    rw [hnil] at hplace
    exact not_lt_zero _ hplace

variable {calls : List (ToolCallDelta × ℕ)}

/-- Tool calls are read. -/
theorem agrees_takeToolCalls (h : Agrees s r) :
    Leads Reader.step r (s.takeToolCalls calls).2 (Agrees (s.takeToolCalls calls).1) := by
  induction calls generalizing s r with
  | nil => exact Leads.nil h
  | cons call calls ih =>
    have hfirst := tabled_takeToolCall hs htools (call.1.index.getD call.2) call.1
    exact (agrees_takeToolCall hs htools _ call.1 h).append fun r' h' => ih hfirst.1 htools h'

theorem tabled_takeToolCalls :
    Tabled (s.takeToolCalls calls).1 ∧ (s.takeToolCalls calls).1.lastMessagesType = .tools ∧
      (calls ≠ [] ∨ s.toolCalls.calls ≠ [] → (s.takeToolCalls calls).1.toolCalls.calls ≠ []) := by
  induction calls generalizing s with
  | nil => exact ⟨hs, htools, fun h => h.resolve_left fun hne => hne rfl⟩
  | cons call calls ih =>
    obtain ⟨hfirst, hne⟩ := tabled_takeToolCall hs htools (call.1.index.getD call.2) call.1
    obtain ⟨htabled, htools', hnonempty⟩ := ih hfirst htools
    exact ⟨htabled, htools', fun _ => hnonempty (inr hne)⟩

end

end TakeToolCall

/-! ## The end of open blocks -/

section Stop

variable {s : State} {r : Reader} (env : Env)

/-- Other calls in the same table. -/
def State.withCalls (s : State) (calls : List ToolCall) : State :=
  { s with toolCalls := { s.toolCalls with calls } }

theorem moved_withCalls (htools : s.lastMessagesType = .tools) (before after : List ToolCall)
    {tool tool' : ToolCall} (hindex : tool'.blockIndex = tool.blockIndex) :
    Moved (s.withCalls (before ++ tool :: after)) (s.withCalls (before ++ tool' :: after))
      before.length tool tool' where
  tools := htools
  tools' := htools
  base := rfl
  get := by
    show (before ++ tool :: after)[before.length]? = some tool
    rw [List.getElem?_append_right (Nat.le_refl _), Nat.sub_self]
    rfl
  calls := by
    show before ++ tool' :: after = (before ++ tool :: after).set before.length tool'
    rw [List.set_append_right _ _ (Nat.le_refl _), Nat.sub_self]
    rfl
  index := hindex

variable {after : List ToolCall}

theorem tabled_withCalls (htools : s.lastMessagesType = .tools) {before : List ToolCall}
    {tool tool' : ToolCall} (hindex : tool'.blockIndex = tool.blockIndex)
    (hs : Tabled (s.withCalls (before ++ tool :: after))) :
    Tabled (s.withCalls (before ++ tool' :: after)) := by
  have hlength : (before ++ tool' :: after).length = (before ++ tool :: after).length := by simp
  refine ⟨hs.moved (moved_withCalls htools before after hindex), fun x hx => ?_, fun x hx => ?_⟩
  · exact hlength ▸ hs.byIndex x hx
  · exact hlength ▸ hs.byID x hx

/-- The calls after those that wait were started. -/
def ToolCall.pending (env : Env) (tool : ToolCall) : ToolCall := (tool.startPending env.uuid).1

section

variable (htools : s.lastMessagesType = .tools) (before : List ToolCall)
  (hs : Tabled (s.withCalls (before ++ after)))

include htools before hs

theorem tabled_startPending :
    Tabled (s.withCalls (before ++ after.map (pending env))) := by
  induction after generalizing before with
  | nil => exact hs
  | cons tool after ih =>
    have hs' := tabled_withCalls htools (blockIndex_startPending env.uuid) hs
    rw [append_cons] at hs'
    rw [map_cons, append_cons]
    exact ih _ hs'

/-- Tools that wait are started one after the other. -/
theorem agrees_startPending (h : Agrees (s.withCalls (before ++ after)) r) :
    Leads Reader.step r (after.flatMap fun tool => (tool.startPending env.uuid).2)
      (Agrees (s.withCalls (before ++ after.map (pending env)))) := by
  induction after generalizing before r with
  | nil => exact Leads.nil h
  | cons tool after ih =>
    have hindex : (tool.pending env).blockIndex = tool.blockIndex :=
      blockIndex_startPending env.uuid
    have hs' := tabled_withCalls htools hindex hs
    rw [append_cons] at hs'
    refine (h.toolMove hs (moved_withCalls htools before after hindex)
      (toolMove_startPending env.uuid)).append fun r' h' => ?_
    rw [append_cons] at h'
    rw [map_cons, append_cons]
    exact ih _ hs' h'

end

/-- Tools have indices of their own. -/
theorem nodup_startedTools (hs : Tabled s) : s.startedTools.Nodup := by
  have hrange : s.toolCalls.calls.map blockIndex =
      range' s.toolCallBaseIndex s.toolCalls.calls.length := by
    refine ext_getElem (by simp) fun p hp _ => ?_
    rw [length_map] at hp
    rw [getElem_map, getElem_range', one_mul]
    exact hs.blockIndex p _ (getElem?_eq_getElem hp)
  refine List.Sublist.nodup (filter_sublist.map blockIndex) ?_
  rw [hrange]
  exact nodup_range'

/-- Nothing is open, and the indices are used that a state says. -/
structure AllStopped (s : State) (r : Reader) : Prop where
  started : r.started = true
  running : r.ended = false
  unstopped : r.stopped = false
  live : ∀ b ∈ r.blocks, b.live = false
  used : ∀ b ∈ r.blocks, s.Used b.index

/-- All that is open may stop. -/
theorem Agrees.allStopped {l : List ℕ} (h : Agrees s r) (hl : l.Nodup)
    (hopen : ∀ i, i ∈ l ↔ ∃ kind, (i, kind) ∈ s.openBlocks) :
    Leads Reader.step r (l.map .blockStop) (AllStopped s) := by
  refine (h.stops hl fun i hi => (hopen i).1 hi).mono ?_
  rintro r' ⟨hstarted, hrunning, hunstopped, hlive, hused⟩
  refine ⟨hstarted, hrunning, hunstopped, fun b hb => ?_, hused⟩
  rw [← Bool.not_eq_true]
  intro hb'
  obtain ⟨hmem, hnot⟩ := (hlive (b.index, b.kind)).1 (mem_liveOf.2 ⟨b, hb, hb', rfl⟩)
  exact hnot ((hopen _).2 ⟨_, hmem⟩)

/-- Closing stops all that is open. -/
theorem Agrees.stopOpenBlocks (h : Agrees s r) (hs : Sound s) :
    Leads Reader.step r s.stopOpenBlocks (AllStopped s) := by
  cases htype : s.lastMessagesType with
  | none =>
    have hstops := h.allStopped nodup_nil fun i => by simp [State.openBlocks, htype]
    rw [State.stopOpenBlocks, htype]
    exact hstops
  | text =>
    have hstops := h.allStopped (nodup_singleton s.index) fun i => by
      simp [State.openBlocks, htype]
    rw [State.stopOpenBlocks, htype]
    exact hstops
  | thinking =>
    have hstops := h.allStopped (nodup_singleton s.index) fun i => by
      simp [State.openBlocks, htype]
    rw [State.stopOpenBlocks, htype]
    exact hstops
  | tools =>
    have hstops := h.allStopped (nodup_startedTools hs.toTabled) fun i => by
      simp [State.openBlocks, htype]
    rw [State.stopOpenBlocks, htype]
    rw [if_neg (hs.nonempty htype)]
    rw [State.startedTools, map_map] at hstops
    exact hstops

theorem sound_startPendingToolBlocks (hs : Sound s) : Sound (s.startPendingToolBlocks env).1 := by
  rw [State.startPendingToolBlocks]
  split_ifs with htools
  · refine ⟨tabled_startPending env htools [] hs.toTabled, fun _ hnil => ?_⟩
    exact hs.nonempty htools (map_eq_nil_iff.1 hnil)
  · exact hs

theorem Agrees.startPendingToolBlocks (h : Agrees s r) (hs : Sound s) :
    Leads Reader.step r (s.startPendingToolBlocks env).2
      (Agrees (s.startPendingToolBlocks env).1) := by
  rw [State.startPendingToolBlocks]
  split_ifs with htools
  · exact agrees_startPending env htools [] hs.toTabled h
  · exact Leads.nil h

/-- **All that is open is stopped.** -/
theorem Agrees.appendStopOpenBlocks (h : Agrees s r) (hs : Sound s) :
    Leads Reader.step r (s.appendStopOpenBlocks env).2
      (AllStopped (s.appendStopOpenBlocks env).1) :=
  (h.startPendingToolBlocks env hs).append fun _ h' =>
    h'.stopOpenBlocks (sound_startPendingToolBlocks env hs)

theorem used_advance (hs : Sound s) {i : ℕ} (h : s.Used i) : s.advance.Used i := by
  rw [State.advance]
  cases htype : s.lastMessagesType with
  | none => exact h
  | text =>
    rw [State.Used, htype] at h
    exact lt_succ_of_le h
  | thinking =>
    rw [State.Used, htype] at h
    exact lt_succ_of_le h
  | tools =>
    rw [State.Used, htype] at h
    show i < s.toolCallBaseIndex + s.toolCalls.calls.length
    rcases h with hlt | hmem
    · omega
    · obtain ⟨q, tool, hq, -, hi⟩ := mem_startedTools.1 hmem
      have hindex := hs.blockIndex q tool hq
      have hlt := (List.getElem?_eq_some_iff.1 hq).1
      omega

theorem advance_lastMessagesType : s.advance.lastMessagesType = .none := by
  rw [State.advance]
  cases htype : s.lastMessagesType with
  | none => exact htype
  | _ => rfl

/-- Past what was closed the state is sound. -/
theorem sound_advance (hs : Sound s) : Sound s.advance := by
  refine ⟨?_, fun htools => ?_⟩
  · rw [State.advance]
    cases s.lastMessagesType with
    | none => exact hs.toTabled
    | tools => exact ⟨nofun, forall_mem_nil _, forall_mem_nil _⟩
    | _ => exact ⟨hs.blockIndex, hs.byIndex, hs.byID⟩
  · rw [advance_lastMessagesType] at htools
    cases htools

/-- …and agrees with the reader. -/
theorem AllStopped.advance (h : AllStopped s r) (hs : Sound s) : Agrees s.advance r := by
  refine ⟨h.started, h.running, h.unstopped, fun x => ?_, fun b hb => used_advance hs (h.used b hb)⟩
  have hopen : s.advance.openBlocks = [] := by
    rw [State.openBlocks, advance_lastMessagesType]
  rw [hopen]
  refine iff_of_false (fun hx => ?_) not_mem_nil
  obtain ⟨b, hb, hlive, -⟩ := mem_liveOf.1 hx
  exact Bool.false_ne_true ((h.live b hb).symm.trans hlive)

end Stop

end ClaudeStream
