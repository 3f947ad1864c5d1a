import NewApi.Machinery.Blocks
import NewApi.OaiChat.ResponsesStream

/-!
# OaiChat/ResponsesReader — a reader of Responses events

A client follows the items of a response as they are added, filled and done (`Reader.step`), and
refuses an event that does not fit.  The state of the conversion determines what it holds
(`State.reader`).  Here for the text and the reasoning; tools follow in `OaiChat/ResponsesPieces`.

* `Sound` — items are where the state says they are.
* `Follows` — a move of the conversion, with events a reader follows.
* `follows_appendLaneDelta`, `follows_appendAnnotationDelta`, `follows_closeLane` — the lanes' moves.
-/

namespace ResponsesStream

open Blocks List

/-! ## The reader -/

/-- What a client holds: the items, in the order of their output indices. -/
structure Reader where
  created : Bool := false
  items : List (Block ItemKind) := []
  finished : Bool := false

namespace Reader

variable (r : Reader)

/-- The items are changed. -/
def withItems (items : Option (List (Block ItemKind))) : Option Reader :=
  items.map fun items => { r with items }

/-- An item must stand open. -/
def expect (i : ℕ) (p : Block ItemKind → Prop) [DecidablePred p] : Option Reader :=
  if Blocks.Stands r.items i p then some r else none

/-- The final response names every item with its value. -/
def Complete (output : List Item) : Prop :=
  (∀ b ∈ r.items, b.live = false) ∧
    output.map (fun item => (item.kind, item.value)) = r.items.map fun b => (b.kind, b.text)

instance (output : List Item) : Decidable (r.Complete output) :=
  inferInstanceAs (Decidable (_ ∧ _))

/-- An event between the created and the terminal one.  Items are told apart by their output indices:
their ids contain that of the response, which may come after the first item. -/
def follow : Payload → Option Reader
  | .created _ _ => none
  | .itemAdded i item =>
    -- output indices are taken in order
    if i = r.items.length then r.withItems (Blocks.start r.items i item.kind) else none
  | .partAdded i _ => r.expect i (·.kind = .reasoning)
  | .delta kind i _ delta => r.withItems (Blocks.extend r.items i (·.kind = kind) delta)
  | .annotationAdded i _ _ _ => r.expect i (·.kind = .message)
  | .valueDone kind i _ value => r.expect i fun b => b.kind = kind ∧ ∀ v ∈ value, v = b.text
  | .partDone i _ text => r.expect i fun b => b.kind = .reasoning ∧ text = b.text
  | .itemDone i item =>
    r.withItems (Blocks.stop r.items i fun b => b.kind = item.kind ∧ item.value = b.text)
  | .error _ _ _ => some r
  | .finished _ _ _ _ output => if r.Complete output then some { r with finished := true } else none

/-- The next event: `created` comes first and once, and nothing after the terminal one. -/
def step : Payload → Option Reader
  | .created _ _ => if r.created then none else some { r with created := true }
  | payload => if r.created ∧ r.finished = false then r.follow payload else none

/-- Events in a row. -/
def readAll (payloads : List Payload) : Option Reader := payloads.foldlM step r

variable {r} {r' : Reader} {after : List Payload}

theorem readAll_append {before : List Payload} (h : r.readAll before = some r') :
    r.readAll (before ++ after) = r'.readAll after := by
  rw [readAll, foldlM_append]
  exact (congrArg (· >>= _) h).trans rfl

theorem readAll_cons {payload : Payload} (h : r.step payload = some r') :
    r.readAll (payload :: after) = r'.readAll after := by
  exact (congrArg (· >>= _) h).trans rfl

theorem withItems_eq {op : Option (List (Block ItemKind))} {items : List (Block ItemKind)}
    (h : op = some items) : r.withItems op = some { r with items } := by
  rw [withItems, h]
  rfl

theorem expect_eq {i : ℕ} {p : Block ItemKind → Prop} [DecidablePred p]
    (h : Blocks.Stands r.items i p) : r.expect i p = some r := if_pos h

end Reader

/-! ## What the conversion holds -/

/-- The kind of the item referred to. -/
def OutputRef.itemKind : OutputRef → ItemKind
  | .lane kind _ => kind.itemKind
  | .tool _ => .functionCall

namespace Lane

/-- An item is being written. -/
def Open (l : Lane) : Prop := l.started = true ∧ l.done = false

/-- The value of a segment. -/
def textAt (l : Lane) (segment : ℕ) : String := ((l.closed[segment]?).map Item.value).getD l.value

/-- A segment is not closed. -/
def liveAt (l : Lane) (segment : ℕ) : Bool := l.closed.length ≤ segment

end Lane

namespace State

/-- Its value so far. -/
def refText (s : State) : OutputRef → String
  | .lane kind segment => (s.lane kind).textAt segment
  | .tool i => ((s.findTool i).map Tool.arguments).getD ""

/-- It is not done. -/
def refLive (s : State) : OutputRef → Bool
  | .lane kind segment => (s.lane kind).liveAt segment
  | .tool i => (s.findTool i).any (!·.done)

/-- The reader of the events so far. -/
def reader (s : State) : Reader where
  created := true
  items := Blocks.view OutputRef.itemKind s.refText s.refLive s.outputOrder

end State

/-! ## Soundness -/

/-- The segments of a lane that were started are closed, but for one that may be open. -/
structure LaneSound (order : List OutputRef) (kind : LaneKind) (l : Lane) : Prop where
  length : l.closed.length = if l.done then l.segment + 1 else l.segment
  kinds : ∀ item ∈ l.closed, item.kind = kind.itemKind
  refs : ∀ segment, .lane kind segment ∈ order →
    segment < l.closed.length ∨ l.Open ∧ segment = l.segment
  place : l.Open → order[l.outputIndex]? = some (.lane kind l.segment)
  fresh : l.started = false → l.done = false → l.value = ""

/-- **Items are where the state says they are.** -/
structure Sound (s : State) : Prop where
  nodup : s.outputOrder.Nodup
  lanes : ∀ kind, LaneSound s.outputOrder kind (s.lane kind)
  place : ∀ t ∈ s.tools, s.outputOrder[t.outputIndex]? = some (.tool t.chatIndex)
  known : ∀ i, .tool i ∈ s.outputOrder → (s.findTool i).isSome

/-- The fields no piece touches. -/
def State.frame (s : State) : Bool × Bool × Bool × ℕ :=
  (s.sentCreated, s.finalized, s.emitSequenceNumber, s.nextSequenceNumber)

/-- **A move of the conversion, with events a reader follows.** -/
structure Follows (s s' : State) (payloads : List Payload) : Prop where
  sound : Sound s'
  frame : s'.frame = s.frame
  reads : s.reader.readAll payloads = some s'.reader

namespace Follows

variable {s s' s'' : State} {before after : List Payload}

theorem refl (h : Sound s) : Follows s s [] := ⟨h, rfl, rfl⟩

/-- Moves one after the other. -/
theorem trans (h : Follows s s' before) (h' : Follows s' s'' after) :
    Follows s s'' (before ++ after) :=
  ⟨h'.sound, h'.frame.trans h.frame, (Reader.readAll_append h.reads).trans h'.reads⟩

variable {payload : Payload}

theorem single (hsound : Sound s') (hframe : s'.frame = s.frame)
    (h : s.reader.follow payload = some s'.reader) : Follows s s' [payload] := by
  refine ⟨hsound, hframe, Reader.readAll_cons ?_⟩
  cases payload with
  | created id model => cases h
  | _ => rwa [Reader.step, if_pos ⟨rfl, rfl⟩]; nofun

theorem stay (h : Sound s) (hstep : s.reader.follow payload = some s.reader) :
    Follows s s [payload] := single h rfl hstep

end Follows

/-! ## Lanes -/

section Lanes

variable {s : State} {kind kind' : LaneKind} {l : Lane} {r : OutputRef}

@[simp] theorem lane_setLane : (s.setLane l kind).lane kind = l := by cases kind <;> rfl

theorem lane_setLane_of_ne (h : kind' ≠ kind) : (s.setLane l kind).lane kind' = s.lane kind' := by
  cases kind <;> cases kind' <;> first | rfl | exact absurd rfl h

@[simp] theorem outputOrder_setLane : (s.setLane l kind).outputOrder = s.outputOrder := by
  cases kind <;> rfl

@[simp] theorem tools_setLane : (s.setLane l kind).tools = s.tools := by cases kind <;> rfl

@[simp] theorem frame_setLane : (s.setLane l kind).frame = s.frame := by cases kind <;> rfl

@[simp] theorem findTool_setLane {i : ℤ} : (s.setLane l kind).findTool i = s.findTool i := by
  rw [State.findTool, tools_setLane]
  rfl

theorem refText_setLane
    (h : ∀ segment, r = .lane kind segment → l.textAt segment = (s.lane kind).textAt segment) :
    (s.setLane l kind).refText r = s.refText r := by
  cases r with
  | tool i =>
    rw [State.refText, findTool_setLane]
    rfl
  | lane kind' segment =>
    by_cases hkind : kind' = kind
    · subst hkind
      rw [State.refText, lane_setLane, h segment rfl]
      rfl
    · rw [State.refText, lane_setLane_of_ne hkind]
      rfl

theorem refLive_setLane
    (h : ∀ segment, r = .lane kind segment → l.liveAt segment = (s.lane kind).liveAt segment) :
    (s.setLane l kind).refLive r = s.refLive r := by
  cases r with
  | tool i =>
    rw [State.refLive, findTool_setLane]
    rfl
  | lane kind' segment =>
    by_cases hkind : kind' = kind
    · subst hkind
      rw [State.refLive, lane_setLane, h segment rfl]
      rfl
    · rw [State.refLive, lane_setLane_of_ne hkind]
      rfl

/-- A lane may be replaced by a sound one. -/
theorem Sound.setLane (h : Sound s) (hl : LaneSound s.outputOrder kind l) :
    Sound (s.setLane l kind) where
  nodup := by
    rw [outputOrder_setLane]
    exact h.nodup
  lanes kind' := by
    rw [outputOrder_setLane]
    by_cases hkind : kind' = kind
    · subst hkind
      rw [lane_setLane]
      exact hl
    · rw [lane_setLane_of_ne hkind]
      exact h.lanes kind'
  place := by
    rw [outputOrder_setLane, tools_setLane]
    exact h.place
  known i := by
    rw [outputOrder_setLane, findTool_setLane]
    exact h.known i

end Lanes

/-! ### The open segment -/

section OpenLane

variable {s : State} {order : List OutputRef} {kind : LaneKind} {l : Lane} {segment : ℕ}

theorem LaneSound.length_of_open (h : LaneSound order kind l) (hopen : l.Open) :
    l.closed.length = l.segment := by
  rw [h.length, hopen.2]
  exact if_neg Bool.false_ne_true

/-- The text of a closed segment depends on it alone. -/
theorem Lane.textAt_congr {l' : Lane} (h : l'.closed = l.closed)
    (hlt : segment < l.closed.length) : l'.textAt segment = l.textAt segment := by
  rw [Lane.textAt, Lane.textAt, h, getElem?_eq_getElem hlt]
  rfl

theorem Lane.textAt_of_le (h : l.closed.length ≤ segment) : l.textAt segment = l.value := by
  rw [Lane.textAt, getElem?_eq_none h]
  rfl

/-- The open segment of a lane is an open item. -/
theorem Sound.stands_lane (h : Sound s) (hopen : (s.lane kind).Open)
    {p : Block ItemKind → Prop}
    (hp : ∀ b : Block ItemKind, b.kind = kind.itemKind → b.text = (s.lane kind).value → p b) :
    Blocks.Stands s.reader.items (s.lane kind).outputIndex p := by
  have hlength := ((h.lanes kind).length_of_open hopen).le
  refine stands_view ((h.lanes kind).place hopen) (decide_eq_true hlength) (hp _ rfl ?_)
  exact Lane.textAt_of_le hlength

section

variable (h : LaneSound order kind l) (hstart : l.reopen.started = false)

include h hstart

/-- A lane that must be opened is empty, and its segment is the next. -/
theorem LaneSound.reopen :
    l.reopen.closed = l.closed ∧ l.reopen.segment = l.closed.length ∧ l.reopen.done = false ∧
      l.reopen.value = "" := by
  have hlength := h.length
  unfold Lane.reopen at hstart ⊢
  split_ifs at hstart hlength ⊢ with hdone
  · exact ⟨rfl, hlength.symm, rfl, rfl⟩
  · rw [Bool.not_eq_true] at hdone
    exact ⟨rfl, hlength.symm, hdone, h.fresh hstart hdone⟩

theorem LaneSound.lt_of_reopen (hmem : .lane kind segment ∈ order) : segment < l.closed.length := by
  refine (h.refs segment hmem).resolve_right ?_
  rintro ⟨⟨hstarted, hdone⟩, -⟩
  rw [Lane.reopen, hdone, if_neg Bool.false_ne_true, hstarted] at hstart
  exact Bool.false_ne_true hstart.symm

end

theorem Lane.reopen_of_started (h : l.reopen.started = true) : l.reopen = l ∧ l.Open := by
  unfold Lane.reopen at h ⊢
  split_ifs at h ⊢ with hdone
  exact ⟨rfl, h, Bool.eq_false_of_not_eq_true hdone⟩

/-- Items of others do not disturb a lane. -/
theorem LaneSound.concat {r : OutputRef} (h : LaneSound order kind l)
    (hr : ∀ segment, r ≠ .lane kind segment) : LaneSound (order ++ [r]) kind l where
  length := h.length
  kinds := h.kinds
  refs segment hmem := by
    refine h.refs segment ((mem_append.1 hmem).resolve_right fun hlast => ?_)
    exact hr segment (mem_singleton.1 hlast).symm
  place hopen := by
    have hplace := h.place hopen
    rw [List.getElem?_append_left (List.getElem?_eq_some_iff.1 hplace).1]
    exact hplace
  fresh := h.fresh

end OpenLane

/-! ### Opening -/

section Opening

variable {s : State} {kind kind' : LaneKind} {r : OutputRef}

@[simp] theorem lane_nextIndex : (s.nextIndex r).lane kind = s.lane kind := by
  cases kind <;> rfl

@[simp] theorem outputOrder_nextIndex : (s.nextIndex r).outputOrder = s.outputOrder ++ [r] := rfl

@[simp] theorem findTool_nextIndex {i : ℤ} : (s.nextIndex r).findTool i = s.findTool i := rfl

@[simp] theorem refText_nextIndex : (s.nextIndex r).refText = s.refText := by
  funext u
  cases u with
  | tool i => rfl
  | lane kind segment => rw [State.refText, lane_nextIndex, State.refText]

@[simp] theorem refLive_nextIndex : (s.nextIndex r).refLive = s.refLive := by
  funext u
  cases u with
  | tool i => rfl
  | lane kind segment => rw [State.refLive, lane_nextIndex, State.refLive]

theorem Sound.nextIndex (hnodup : s.outputOrder.Nodup) (hr : r ∉ s.outputOrder)
    (hlanes : ∀ kind, LaneSound (s.outputOrder ++ [r]) kind (s.lane kind))
    (hplace : ∀ t ∈ s.tools, (s.outputOrder ++ [r])[t.outputIndex]? = some (.tool t.chatIndex))
    (hknown : ∀ i, .tool i ∈ s.outputOrder ++ [r] → (s.findTool i).isSome) :
    Sound (s.nextIndex r) where
  nodup := by
    rw [outputOrder_nextIndex, nodup_append]
    refine ⟨hnodup, nodup_singleton _, ?_⟩
    intro a ha b hb hab
    rw [mem_singleton] at hb
    exact hr (hb ▸ hab ▸ ha)
  lanes kind := by
    exact hlanes kind
  place := hplace
  known := hknown

/-- The lane as it is opened. -/
def State.opened (s : State) (kind : LaneKind) : Lane :=
  { (s.lane kind).reopen with started := true, outputIndex := s.outputOrder.length }

theorem lane_openLane : (s.openLane kind (s.lane kind).reopen).lane kind = s.opened kind := by
  rw [State.openLane, lane_nextIndex, lane_setLane]
  rfl

variable (hs : Sound s) (hstart : (s.lane kind).reopen.started = false)

include hs hstart

theorem open_opened : (s.opened kind).Open := ⟨rfl, ((hs.lanes kind).reopen hstart).2.2.1⟩

theorem laneSound_opened :
    LaneSound (s.outputOrder ++ [.lane kind (s.lane kind).reopen.segment]) kind
      (s.opened kind) := by
  obtain ⟨hclosed, hsegment, hdone, -⟩ := (hs.lanes kind).reopen hstart
  refine ⟨?_, ?_, ?_, ?_, ?_⟩
  · show (s.lane kind).reopen.closed.length = if (s.lane kind).reopen.done then _ else _
    rw [hclosed, hdone]
    exact hsegment.symm
  · show ∀ item ∈ (s.lane kind).reopen.closed, _
    rw [hclosed]
    exact (hs.lanes kind).kinds
  · intro segment hmem
    rcases mem_append.1 hmem with hold | hnew
    · left
      show segment < (s.lane kind).reopen.closed.length
      rw [hclosed]
      exact (hs.lanes kind).lt_of_reopen hstart hold
    · right
      rw [mem_singleton] at hnew
      injection hnew with _ hsegment
      exact ⟨open_opened hs hstart, hsegment⟩
  · intro _
    exact getElem?_concat_length
  · intro hstarted _
    exact absurd hstarted.symm Bool.false_ne_true

/-- A lane may be opened. -/
theorem sound_openLane : Sound (s.openLane kind (s.lane kind).reopen) := by
  have hfresh : .lane kind (s.lane kind).reopen.segment ∉ s.outputOrder := by
    intro hmem
    have hlt := (hs.lanes kind).lt_of_reopen hstart hmem
    rw [((hs.lanes kind).reopen hstart).2.1] at hlt
    exact Nat.lt_irrefl _ hlt
  refine Sound.nextIndex ?_ ?_ ?_ ?_ ?_
  · rw [outputOrder_setLane]
    exact hs.nodup
  · rw [outputOrder_setLane]
    exact hfresh
  · intro kind'
    rw [outputOrder_setLane]
    by_cases hkind : kind' = kind
    · subst hkind
      rw [lane_setLane]
      exact laneSound_opened hs hstart
    · rw [lane_setLane_of_ne hkind]
      refine (hs.lanes kind').concat fun segment heq => hkind ?_
      injection heq with hkind'
      exact hkind'.symm
  · intro t ht
    rw [tools_setLane] at ht
    have hplace := hs.place t ht
    rw [outputOrder_setLane, List.getElem?_append_left (List.getElem?_eq_some_iff.1 hplace).1]
    exact hplace
  · intro i hmem
    rw [outputOrder_setLane] at hmem
    rw [findTool_setLane]
    refine hs.known i ((mem_append.1 hmem).resolve_right fun h => ?_)
    cases mem_singleton.1 h

theorem reads_openLane :
    start s.reader.items s.outputOrder.length kind.itemKind =
      some (s.openLane kind (s.lane kind).reopen).reader.items := by
  obtain ⟨hclosed, hsegment, -, hvalue⟩ := (hs.lanes kind).reopen hstart
  have hcongr : ∀ r ∈ s.outputOrder, ∀ segment, r = .lane kind segment →
      segment < (s.lane kind).closed.length := by
    rintro r hr segment rfl
    exact (hs.lanes kind).lt_of_reopen hstart hr
  have hlength : (s.opened kind).closed.length ≤ (s.lane kind).reopen.segment := by
    show (s.lane kind).reopen.closed.length ≤ _
    rw [hclosed, hsegment]
  dsimp only [State.openLane, State.reader]
  rw [refText_nextIndex, refLive_nextIndex, outputOrder_nextIndex, outputOrder_setLane]
  refine view_concat (r := OutputRef.lane kind (s.lane kind).reopen.segment) ?_ ?_ ?_ ?_
  · intro r hr
    refine refText_setLane fun segment heq => ?_
    exact Lane.textAt_congr hclosed (hcongr r hr segment heq)
  · intro r hr
    refine refLive_setLane fun segment heq => ?_
    rw [Lane.liveAt, Lane.liveAt, hclosed]
  · rw [State.refText, lane_setLane]
    exact (Lane.textAt_of_le hlength).trans hvalue
  · rw [State.refLive, lane_setLane]
    exact decide_eq_true hlength

/-- Opening a lane is followed. -/
theorem follows_openLane :
    Follows s (s.openLane kind (s.lane kind).reopen)
      ((s.openLane kind (s.lane kind).reopen).openingEvents kind) := by
  have hsound := sound_openLane hs hstart
  have hopen : ((s.openLane kind (s.lane kind).reopen).lane kind).Open := by
    rw [lane_openLane]
    exact open_opened hs hstart
  have hindex : ((s.openLane kind (s.lane kind).reopen).lane kind).outputIndex =
      s.outputOrder.length := by
    rw [lane_openLane]
    rfl
  have hadded : Follows s (s.openLane kind (s.lane kind).reopen)
      [.itemAdded ((s.openLane kind (s.lane kind).reopen).lane kind).outputIndex
        { kind := kind.itemKind
          id := (s.openLane kind (s.lane kind).reopen).laneID kind
          status := .inProgress }] := by
    refine Follows.single hsound frame_setLane ?_
    rw [hindex]
    refine (if_pos length_view.symm).trans ?_
    exact Reader.withItems_eq (reads_openLane hs hstart)
  cases kind with
  | text => exact hadded
  | reasoning =>
    refine hadded.trans (Follows.stay hsound ?_)
    exact Reader.expect_eq (hsound.stands_lane hopen fun b hkind _ => hkind)

end Opening

/-! ### Writing -/

section Writing

variable {s : State} {kind : LaneKind}

/-- **The lane stands open, and its opening was read.** -/
theorem follows_startLane (hs : Sound s) (kind : LaneKind) :
    Follows s (s.startLane kind).1 (s.startLane kind).2 ∧ ((s.startLane kind).1.lane kind).Open := by
  rw [State.startLane]
  by_cases hstart : (s.lane kind).reopen.started = true
  · obtain ⟨hsame, hopen⟩ := Lane.reopen_of_started hstart
    have hself : s.setLane (s.lane kind) kind = s := by cases kind <;> rfl
    rw [if_pos hstart, hsame, hself]
    exact ⟨Follows.refl hs, hopen⟩
  · rw [if_neg hstart]
    rw [Bool.not_eq_true] at hstart
    refine ⟨follows_openLane hs hstart, ?_⟩
    show ((s.openLane kind (s.lane kind).reopen).lane kind).Open
    rw [lane_openLane]
    exact open_opened hs hstart

theorem LaneSound.grow {order : List OutputRef} {l : Lane} {value : String}
    {annotations : List String} (h : LaneSound order kind l) (hopen : l.Open) :
    LaneSound order kind { l with value, annotations } where
  length := h.length
  kinds := h.kinds
  refs := h.refs
  place := h.place
  fresh hstarted _ := absurd (hopen.1.symm.trans hstarted).symm Bool.false_ne_true

/-- A delta is followed. -/
theorem follows_growLane (hs : Sound s) (hopen : (s.lane kind).Open) (delta id : String) :
    Follows s (s.growLane kind delta)
      [.delta kind.itemKind (s.lane kind).outputIndex id delta] := by
  have hlane := hs.lanes kind
  have hlength := hlane.length_of_open hopen
  have hother : ∀ r ∈ s.outputOrder, r ≠ .lane kind (s.lane kind).segment →
      ∀ segment, r = .lane kind segment → segment < (s.lane kind).closed.length := by
    rintro r hr hne segment rfl
    refine (hlane.refs segment hr).resolve_right fun h => hne ?_
    rw [h.2]
  refine Follows.single (hs.setLane (hlane.grow hopen)) frame_setLane (Reader.withItems_eq ?_)
  show _ = some (view _ _ _ (s.setLane _ kind).outputOrder)
  rw [outputOrder_setLane]
  refine view_extend hs.nodup (hlane.place hopen) (decide_eq_true hlength.le) rfl ?_ ?_ ?_
  · intro r hr hne
    refine refText_setLane fun segment heq => ?_
    exact Lane.textAt_congr rfl (hother r hr hne segment heq)
  · intro r _
    exact refLive_setLane fun segment _ => rfl
  · rw [State.refText, State.growLane, lane_setLane, State.refText, Lane.textAt_of_le hlength.le]
    exact Lane.textAt_of_le hlength.le

/-- **Text and reasoning are followed.** -/
theorem follows_appendLaneDelta (hs : Sound s) (kind : LaneKind) (delta : String) :
    Follows s (s.appendLaneDelta kind delta).1 (s.appendLaneDelta kind delta).2 := by
  obtain ⟨hstart, hopen⟩ := follows_startLane hs kind
  exact hstart.trans (follows_growLane hstart.sound hopen delta _)

theorem follows_annotationAdded (hs : Sound s) (hopen : s.text.Open) (id : String) (number : ℕ)
    (annotations : List (String × ℕ)) :
    Follows s s
      (annotations.map fun a => .annotationAdded s.text.outputIndex id (number + a.2) a.1) := by
  induction annotations with
  | nil => exact Follows.refl hs
  | cons a annotations ih =>
    refine Follows.trans (Follows.stay hs ?_) ih
    exact Reader.expect_eq (hs.stands_lane (show (s.lane .text).Open from hopen) fun b hkind _ => hkind)

theorem follows_annotations (hs : Sound s) (hopen : s.text.Open) (annotations : List String) :
    Follows s (s.setLane { s.text with annotations } .text) [] := by
  refine ⟨hs.setLane ((hs.lanes .text).grow hopen), frame_setLane, congrArg some ?_⟩
  refine congrArg (Reader.mk true · false) (Eq.symm (view_congr ?_ ?_))
  · exact fun r _ => refText_setLane fun segment _ => rfl
  · exact fun r _ => refLive_setLane fun segment _ => rfl

/-- **Annotations are followed.** -/
theorem follows_appendAnnotationDelta (hs : Sound s) (annotations : List String) :
    Follows s (s.appendAnnotationDelta annotations).1 (s.appendAnnotationDelta annotations).2 := by
  obtain ⟨hstart, hopen⟩ := follows_startLane hs .text
  have hadded := follows_annotationAdded hstart.sound hopen
    ((s.startLane .text).1.laneID .text) (s.startLane .text).1.text.annotations.length
    annotations.zipIdx
  have hkept := hadded.trans (follows_annotations hstart.sound hopen
    ((s.startLane .text).1.text.annotations ++ annotations))
  rw [append_nil] at hkept
  exact hstart.trans hkept

end Writing

/-! ### Closing -/

section Closing

variable {s : State} {kind kind' : LaneKind} {order : List OutputRef} {l : Lane} {item : Item}

variable {segment : ℕ}

/-- A segment of a sound lane is not beyond the open one. -/
theorem LaneSound.segment_le (h : LaneSound order kind l) (hopen : l.Open)
    (hmem : .lane kind segment ∈ order) : segment ≤ l.closed.length := by
  rcases h.refs segment hmem with hlt | ⟨-, rfl⟩
  · exact hlt.le
  · exact (h.length_of_open hopen).ge

/-- A lane may be closed. -/
theorem LaneSound.close (h : LaneSound order kind l) (hopen : l.Open)
    (hitem : item.kind = kind.itemKind) :
    LaneSound order kind { l with done := true, closed := l.closed ++ [item] } where
  length := by
    show (l.closed ++ [item]).length = l.segment + 1
    rw [length_append, h.length_of_open hopen]
    rfl
  kinds := by
    intro item' hmem
    rcases mem_append.1 hmem with hold | hnew
    · exact h.kinds item' hold
    · rw [mem_singleton.1 hnew]
      exact hitem
  refs segment hmem := by
    left
    rw [length_append]
    exact Nat.lt_succ_of_le (h.segment_le hopen hmem)
  place hclosed := absurd hclosed.2.symm Bool.false_ne_true
  fresh _ hdone := absurd hdone.symm Bool.false_ne_true

theorem Lane.textAt_close (hitem : item.value = l.value) (h : segment ≤ l.closed.length) :
    Lane.textAt { l with done := true, closed := l.closed ++ [item] } segment =
      l.textAt segment := by
  rcases Nat.lt_or_eq_of_le h with hlt | rfl
  · unfold Lane.textAt
    rw [List.getElem?_append_left hlt, getElem?_eq_getElem hlt]
  · rw [Lane.textAt_of_le (Nat.le_refl _), Lane.textAt, getElem?_concat_length]
    exact hitem

theorem follows_closingEvents (hs : Sound s) (hopen : (s.lane kind).Open) :
    Follows s s (s.closingEvents kind) := by
  cases kind with
  | text =>
    refine Follows.stay hs (Reader.expect_eq (hs.stands_lane hopen fun b hkind htext => ?_))
    refine ⟨hkind, ?_⟩
    split_ifs
    · intro v hv
      cases hv
      exact htext.symm
    · exact fun _ hv => by cases hv
  | reasoning =>
    refine Follows.trans (Follows.stay hs ?_) (Follows.stay hs ?_)
    · refine Reader.expect_eq (hs.stands_lane hopen fun b hkind htext => ⟨hkind, ?_⟩)
      intro v hv
      cases hv
      exact htext.symm
    · exact Reader.expect_eq (hs.stands_lane hopen fun b hkind htext => ⟨hkind, htext.symm⟩)

theorem follows_itemDone (hs : Sound s) (hopen : (s.lane kind).Open)
    (hkind : item.kind = kind.itemKind) (hvalue : item.value = (s.lane kind).value) :
    Follows s
      (s.setLane { s.lane kind with done := true, closed := (s.lane kind).closed ++ [item] } kind)
      [.itemDone (s.lane kind).outputIndex item] := by
  have hlane := hs.lanes kind
  have hlength := hlane.length_of_open hopen
  refine Follows.single (hs.setLane (hlane.close hopen hkind)) frame_setLane
    (Reader.withItems_eq ?_)
  show _ = some (view _ _ _ (s.setLane _ kind).outputOrder)
  rw [outputOrder_setLane]
  refine view_stop hs.nodup (hlane.place hopen) (decide_eq_true hlength.le)
    ⟨hkind.symm, ?_⟩ ?_ ?_ ?_
  · rw [State.refText, Lane.textAt_of_le hlength.le]
    exact hvalue
  · intro r hr
    refine refText_setLane fun segment heq => Lane.textAt_close hvalue ?_
    exact hlane.segment_le hopen (heq ▸ hr)
  · intro r hr hne
    refine refLive_setLane fun segment heq => ?_
    have hlt : segment < (s.lane kind).closed.length := by
      subst heq
      refine (hlane.refs segment hr).resolve_right fun h => hne ?_
      rw [h.2]
    unfold Lane.liveAt
    rw [length_append]
    exact (decide_eq_false (Nat.lt_succ_of_lt hlt).not_ge).trans
      (decide_eq_false hlt.not_ge).symm
  · rw [State.refLive, lane_setLane, Lane.liveAt, length_append, hlength]
    exact decide_eq_false (Nat.lt_irrefl _)

/-- **Closing a lane is followed.** -/
theorem follows_closeLane (hs : Sound s) (status : ItemStatus) (kind : LaneKind) :
    Follows s (s.closeLane status kind).1 (s.closeLane status kind).2 := by
  rw [State.closeLane]
  split_ifs with hopen
  · exact (follows_closingEvents hs hopen).trans (follows_itemDone hs hopen rfl rfl)
  · exact Follows.refl hs

/-- A closed lane is not open. -/
theorem not_open_closeLane (status : ItemStatus) :
    ¬((s.closeLane status kind).1.lane kind).Open := by
  rw [State.closeLane]
  split_ifs with hopen
  · rw [lane_setLane]
    exact fun h => Bool.false_ne_true h.2.symm
  · exact hopen

theorem lane_closeLane_of_ne (status : ItemStatus) (h : kind' ≠ kind) :
    (s.closeLane status kind).1.lane kind' = s.lane kind' := by
  rw [State.closeLane]
  split_ifs
  · exact lane_setLane_of_ne h
  · rfl

end Closing

end ResponsesStream
