import Mathlib.Data.List.ReduceOption
import NewApi.Machinery.Aliases
import NewApi.Machinery.Text

/-!
# OaiResponses/ToolUsage — the tool calls and images of a Responses stream

`ResponsesUsageAccumulator` (`service/responses_usage.go`) reads a Responses stream and counts what
is billed by the call (`relay/common/tool_usage.go`).  Images are recognised by their id, call id,
position and result, in `output_item.done` events and in the response of the terminal event alike.
Searches and function calls are counted at every `output_item.done` event, and nowhere else.

* `image_counted_once` — an image is counted once, however it is reported.
* `accumulated_before` — a tool is counted once for each of its `output_item.done` events.
* `items_counted_iff_doneOnce` — when a stream bills every item once.
-/

namespace ResponsesUsage

open Text Aliases List Finset Function

/-! ## Items, events and settings -/

/-- The types of `ResponsesOutput` that are told apart. -/
inductive OutputType where
  | webSearchCall | fileSearchCall | functionCall | toolUse | imageGenerationCall | other
  deriving DecidableEq, Repr

/-- An item of a response. -/
structure ResponsesOutput where
  type : OutputType
  id : String := ""
  callId : String := ""
  name : String := ""
  result : String := ""
  status : String := ""
  deriving DecidableEq, Repr

/-- The response of a terminal event.  The status is `none` where it is missing or not a string. -/
structure Response where
  status : Option String := none
  output : List ResponsesOutput := []
  deriving DecidableEq, Repr

/-- The types of a terminal event. -/
inductive Terminal where
  | completed | done | failed | incomplete | cancelled | canceled
  deriving DecidableEq, Repr

/-- What `Observe` distinguishes of a `ResponsesStreamResponse`; the events that add to the output
text alone are `other`. -/
inductive Event where
  | terminal (type : Terminal) (response : Option Response)
  | itemDone (item : Option ResponsesOutput) (outputIndex : Option ℤ)
  | other
  deriving DecidableEq, Repr

/-- The call counts of `BuiltInTools`, by name. -/
abbrev BuiltInTools := String → Option ℕ

/-- The name under which an image observation is remembered. -/
inductive Alias (δ : Type) where
  | id (id : String)
  | call (callId : String)
  | index (outputIndex : ℤ)
  | result (digest : δ)
  deriving DecidableEq

/-- The largest number of images billed. -/
def maxImageN : ℕ := 128

/-- The names of built-in tools. -/
def reservedBillableToolNames : List String :=
  ["web_search_preview", "web_search", "file_search", "google_search", "image_generation"]

section Model

-- `priced` is `GetToolPriceForModel(name, model) > 0` for the model at hand
variable {δ : Type} [DecidableEq δ] (priced : String → Bool) (sha256 : String → δ)

/-! ## `CountBillableToolCall` -/

/-- The name under which the request declared its search. -/
def resolveWebSearchToolName (tools : BuiltInTools) : String :=
  if (tools "web_search_preview").isSome then "web_search_preview"
  else if (tools "web_search").isSome then "web_search"
  else "web_search_preview"

/-- One call more. -/
def incrementBillableToolCall (tools : BuiltInTools) (name : String) : BuiltInTools :=
  Function.update tools name (some ((tools name).getD 0 + 1))

/-- A search, or a call of a function that has a price. -/
def countBillableToolCall (tools : BuiltInTools) (itemType : OutputType) (functionName : String) :
    BuiltInTools :=
  match itemType with
  | .webSearchCall => incrementBillableToolCall tools (resolveWebSearchToolName tools)
  | .fileSearchCall => incrementBillableToolCall tools "file_search"
  | .functionCall | .toolUse =>
    if functionName = "" then tools
    else if functionName ∈ reservedBillableToolNames then tools
    else if priced functionName then incrementBillableToolCall tools functionName
    else tools
  | .imageGenerationCall | .other => tools

/-! ## `ImageGenerationCallCounter` -/

/-- The statuses of an item that is not final. -/
def ResponsesOutput.unfinished (item : ResponsesOutput) : Bool :=
  lower (trimmed item.status) ∈ ["failed", "cancelled", "canceled", "incomplete", "partial"]

/-- The aliases of an image, in the order of the source. -/
def aliases (item : ResponsesOutput) (outputIndex : Option ℤ) : List (Alias δ) :=
  (if item.id = "" then [] else [.id item.id]) ++
    (if item.callId = "" then [] else [.call item.callId]) ++
    ((outputIndex.filter (0 ≤ ·)).map Alias.index).toList ++ [.result (sha256 item.result)]

/-- `ImageGenerationCallCounter.Observe`. -/
def observeImage (c : Counter (Alias δ)) (item : ResponsesOutput) (outputIndex : Option ℤ) :
    Counter (Alias δ) :=
  if item.type ≠ .imageGenerationCall then c
  else if trimmed item.result = "" then c
  else if item.unfinished then c
  else c.observe (aliases sha256 item outputIndex)

/-- `ImageGenerationCallCounter.Commit`. -/
def commitImages (c : Counter (Alias δ)) (tools : BuiltInTools) : BuiltInTools :=
  Function.update tools "image_generation" (some (min c.count maxImageN))

/-- The status of a response that failed. -/
def isNonBillableResponsesStatus (status : Option String) : Bool :=
  status.any fun s => lower (trimmed s) ∈ ["failed", "cancelled", "canceled", "incomplete"]

/-! ## `ResponsesUsageAccumulator` -/

/-- `ResponsesUsageAccumulator`. -/
structure Accumulator (δ : Type) where
  tools : BuiltInTools
  imageCounter : Counter (Alias δ) := {}
  imageCommitted : Bool := false
  finished : Bool := false

/-- The response did not complete. -/
def Terminal.failing (t : Terminal) : Bool := t ≠ .completed ∧ t ≠ .done

/-- The images that a terminal event leaves. -/
def terminalImages (c : Counter (Alias δ)) (type : Terminal) (response : Option Response) :
    Counter (Alias δ) :=
  if type.failing ∨ response.any (isNonBillableResponsesStatus ·.status) then {}
  else
    match response with
    | some r => r.output.zipIdx.foldl (fun c p => observeImage sha256 c p.1 (some (p.2 : ℤ))) c
    | none => c

/-- `ResponsesUsageAccumulator.Observe`. -/
def Accumulator.observe (a : Accumulator δ) (event : Event) : Accumulator δ :=
  if a.finished then a
  else
    match event with
    | .terminal type response =>
      if a.imageCommitted then a
      else
        { a with
          imageCounter := terminalImages sha256 a.imageCounter type response
          tools := commitImages (terminalImages sha256 a.imageCounter type response) a.tools
          imageCommitted := true }
    | .itemDone (some item) outputIndex =>
      match item.type with
      | .webSearchCall | .fileSearchCall | .functionCall =>
        { a with tools := countBillableToolCall priced a.tools item.type item.name }
      | .imageGenerationCall =>
        if a.imageCommitted then a
        else { a with imageCounter := observeImage sha256 a.imageCounter item outputIndex }
      | .toolUse | .other => a
    | .itemDone none _ | .other => a

/-- `ResponsesUsageAccumulator.Finish`. -/
def Accumulator.finish (a : Accumulator δ) : Accumulator δ :=
  if a.finished then a
  else if a.imageCommitted then { a with finished := true }
  else
    { a with
      tools := commitImages a.imageCounter a.tools
      imageCommitted := true
      finished := true }

/-- A whole stream. -/
def Accumulator.read (a : Accumulator δ) (events : List Event) : Accumulator δ :=
  (events.foldl (Accumulator.observe priced sha256) a).finish

end Model

/-! ## Tools -/

section Tools

variable {δ : Type} [DecidableEq δ] {priced : String → Bool} {sha256 : String → δ}
variable {tools tools₀ : BuiltInTools}

/-- The calls that are counted under a name. -/
def callCount (tools : BuiltInTools) (name : String) : ℕ := (tools name).getD 0

/-- The name under which an item that is done is counted, for a request that has declared `tools₀`.
-/
def ResponsesOutput.billedAs (priced : String → Bool) (tools₀ : BuiltInTools)
    (item : ResponsesOutput) : Option String :=
  match item.type with
  | .webSearchCall => some (resolveWebSearchToolName tools₀)
  | .fileSearchCall => some "file_search"
  | .functionCall =>
    if item.name = "" ∨ item.name ∈ reservedBillableToolNames ∨ priced item.name = false then none
    else some item.name
  | .toolUse | .imageGenerationCall | .other => none

theorem callCount_increment (tools : BuiltInTools) (name n : String) :
    callCount (incrementBillableToolCall tools name) n =
      callCount tools n + if some name = some n then 1 else 0 := by
  unfold callCount incrementBillableToolCall
  by_cases h : name = n
  · subst h
    simp
  · rw [update_of_ne (Ne.symm h), if_neg fun heq => h (Option.some.inj heq)]
    rfl

variable {name : String}

/-- Searches keep their name through a count under another, or under their own. -/
theorem resolve_increment (h : name = resolveWebSearchToolName tools ∨ name ≠ "web_search_preview" ∧
    name ≠ "web_search") :
    resolveWebSearchToolName (incrementBillableToolCall tools name) =
      resolveWebSearchToolName tools := by
  rcases h with rfl | ⟨hp, hw⟩
  · unfold resolveWebSearchToolName incrementBillableToolCall
    by_cases hp : (tools "web_search_preview").isSome
    · simp [hp]
    · by_cases hw : (tools "web_search").isSome
      · simp [hp, hw]
      · simp [hp, hw]
  · unfold resolveWebSearchToolName incrementBillableToolCall
    rw [update_of_ne hp.symm, update_of_ne hw.symm]

/-- What the tools of a stream are after the items `done` are done. -/
structure Counted (priced : String → Bool) (tools₀ : BuiltInTools) (done : List ResponsesOutput)
    (tools : BuiltInTools) : Prop where
  search : resolveWebSearchToolName tools = resolveWebSearchToolName tools₀
  count : ∀ n, callCount tools n =
    callCount tools₀ n + done.countP fun item => item.billedAs priced tools₀ = some n

theorem counted_nil : Counted priced tools₀ [] tools₀ := ⟨rfl, fun _ => rfl⟩

variable {item : ResponsesOutput}

theorem Counted.increment {done : List ResponsesOutput} (h : Counted priced tools₀ done tools)
    (hb : item.billedAs priced tools₀ = some name) (hs : name = resolveWebSearchToolName tools ∨
      name ≠ "web_search_preview" ∧ name ≠ "web_search") :
    Counted priced tools₀ (done ++ [item]) (incrementBillableToolCall tools name) where
  search := (resolve_increment hs).trans h.search
  count n := by
    rw [callCount_increment, h.count, List.countP_append, List.countP_singleton, hb]
    simp only [decide_eq_true_eq]
    omega

theorem Counted.skip {done : List ResponsesOutput} (h : Counted priced tools₀ done tools)
    (hb : item.billedAs priced tools₀ = none) :
    Counted priced tools₀ (done ++ [item]) tools where
  search := h.search
  count n := by
    rw [h.count, List.countP_append, List.countP_singleton, hb]
    simp

theorem ne_search_of_not_reserved (h : name ∉ reservedBillableToolNames) :
    name ≠ "web_search_preview" ∧ name ≠ "web_search" := by
  constructor <;> rintro rfl <;> exact h (by decide)

/-- **One item done** is counted under its name. -/
theorem Counted.done {done : List ResponsesOutput} (h : Counted priced tools₀ done tools)
    (ht : item.type = .webSearchCall ∨ item.type = .fileSearchCall ∨ item.type = .functionCall) :
    Counted priced tools₀ (done ++ [item])
      (countBillableToolCall priced tools item.type item.name) := by
  rcases ht with ht | ht | ht
  · rw [ht, countBillableToolCall]
    refine h.increment ?_ (.inl rfl)
    rw [ResponsesOutput.billedAs, ht, h.search]
  · rw [ht, countBillableToolCall]
    refine h.increment ?_ (.inr (by decide))
    rw [ResponsesOutput.billedAs, ht]
  · have hb : item.billedAs priced tools₀ =
        if item.name = "" ∨ item.name ∈ reservedBillableToolNames ∨ priced item.name = false
        then none else some item.name := by
      rw [ResponsesOutput.billedAs, ht]
    rw [ht, countBillableToolCall]
    by_cases hempty : item.name = ""
    · rw [if_pos hempty]
      exact h.skip (hb.trans (if_pos (.inl hempty)))
    rw [if_neg hempty]
    by_cases hres : item.name ∈ reservedBillableToolNames
    · rw [if_pos hres]
      exact h.skip (hb.trans (if_pos (.inr (.inl hres))))
    rw [if_neg hres]
    by_cases hp : priced item.name = true
    · rw [if_pos hp]
      refine h.increment (hb.trans (if_neg ?_)) (.inr (ne_search_of_not_reserved hres))
      simp [hempty, hres, hp]
    · rw [if_neg hp]
      exact h.skip (hb.trans (if_pos (.inr (.inr (by simpa using hp)))))

end Tools

/-! ## Images -/

section Images

variable {δ : Type} {sha256 : String → δ} {items : List ResponsesOutput}

/-- An item as an event shows it, perhaps without an identifier. -/
structure Shown (item shown : ResponsesOutput) : Prop where
  type : shown.type = item.type
  name : shown.name = item.name
  result : shown.result = item.result
  status : shown.status = item.status
  id : shown.id = "" ∨ shown.id = item.id
  callId : shown.callId = "" ∨ shown.callId = item.callId

/-- The item at a position of the output, as an event shows it. -/
structure Sighting where
  position : ℕ
  shown : ResponsesOutput
  outputIndex : Option ℤ

/-- The sighting is of an item of the output; an index that is given is its position. -/
structure Sighting.Of (items : List ResponsesOutput) (s : Sighting) : Prop where
  shown : ∃ item, items[s.position]? = some item ∧ Shown item s.shown
  index : s.outputIndex = none ∨ s.outputIndex = some (s.position : ℤ)

/-- Completed items with pairwise different identifiers and images. -/
structure Distinct (items : List ResponsesOutput) : Prop where
  apart : ∀ (i j : ℕ) (a b : ResponsesOutput), items[i]? = some a → items[j]? = some b → i ≠ j →
    (a.id = b.id → a.id = "") ∧ (a.callId = b.callId → a.callId = "") ∧
      (a.type = .imageGenerationCall → b.type = .imageGenerationCall → a.result ≠ b.result)
  final : ∀ item ∈ items, item.type = .imageGenerationCall →
    trimmed item.result ≠ "" ∧ item.unfinished = false

/-- The item is an image. -/
def ResponsesOutput.isImage (item : ResponsesOutput) : Bool := item.type = .imageGenerationCall

/-- The item seen is an image. -/
def Sighting.isImage (s : Sighting) : Bool := s.shown.isImage

/-- No two results of the items have the same hash. -/
def HashedApart (sha256 : String → δ) (items : List ResponsesOutput) : Prop :=
  Set.InjOn sha256 {result | ∃ item ∈ items, item.result = result}

variable {a : Alias δ}

theorem mem_aliases {item : ResponsesOutput} {ix : Option ℤ} :
    a ∈ aliases sha256 item ix ↔
      (item.id ≠ "" ∧ a = .id item.id) ∨ (item.callId ≠ "" ∧ a = .call item.callId) ∨
        (∃ i, 0 ≤ i ∧ ix = some i ∧ a = .index i) ∨ a = .result (sha256 item.result) := by
  unfold aliases
  simp only [List.mem_append, List.mem_singleton, Option.mem_toList, Option.map_eq_some_iff,
    Option.filter_eq_some_iff, decide_eq_true_eq, or_assoc]
  refine or_congr ?_ (or_congr ?_ (or_congr ?_ Iff.rfl))
  · split <;> simp_all
  · split <;> simp_all
  · constructor
    · rintro ⟨i, ⟨hi, hpos⟩, rfl⟩
      exact ⟨i, hpos, hi, rfl⟩
    · rintro ⟨i, hpos, hi, rfl⟩
      exact ⟨i, ⟨hi, hpos⟩, rfl⟩

/-- Two sightings that share an alias are of one item. -/
theorem position_eq_of_alias (hinj : HashedApart sha256 items) (hd : Distinct items)
    {s t : Sighting} (hs : s.Of items) (ht : t.Of items) (hsi : s.shown.isImage)
    (hti : t.shown.isImage) (has : a ∈ aliases sha256 s.shown s.outputIndex)
    (hat : a ∈ aliases sha256 t.shown t.outputIndex) : s.position = t.position := by
  obtain ⟨x, hx, hsx⟩ := hs.shown
  obtain ⟨y, hy, hty⟩ := ht.shown
  by_contra hne
  obtain ⟨hid, hcall, hres⟩ := hd.apart _ _ x y hx hy hne
  rw [mem_aliases] at has hat
  have himage : ∀ {z shown : ResponsesOutput}, Shown z shown → shown.isImage →
      z.type = .imageGenerationCall := fun hz h => hz.type ▸ of_decide_eq_true h
  rcases has with ⟨hne', rfl⟩ | ⟨hne', rfl⟩ | ⟨i, -, hi, rfl⟩ | rfl
  · obtain ⟨-, heq⟩ : _ ∧ s.shown.id = t.shown.id := by simpa using hat
    have hsid := hsx.id.resolve_left hne'
    have htid := hty.id.resolve_left (heq ▸ hne')
    exact hne' (hsid.trans (hid (by rw [← hsid, heq, htid])))
  · obtain ⟨-, heq⟩ : _ ∧ s.shown.callId = t.shown.callId := by simpa using hat
    have hsid := hsx.callId.resolve_left hne'
    have htid := hty.callId.resolve_left (heq ▸ hne')
    exact hne' (hsid.trans (hcall (by rw [← hsid, heq, htid])))
  · obtain ⟨-, hj⟩ : _ ∧ t.outputIndex = some i := by simpa using hat
    have hsp := hs.index.resolve_left (by simp [hi])
    have htp := ht.index.resolve_left (by simp [hj])
    rw [hi, Option.some_inj] at hsp
    rw [hj, Option.some_inj] at htp
    exact hne (by omega)
  · have heq : sha256 s.shown.result = sha256 t.shown.result := by simpa using hat
    refine hres (himage hsx hsi) (himage hty hti) ?_
    rw [hsx.result, hty.result] at heq
    exact hinj ⟨x, mem_of_getElem? hx, rfl⟩ ⟨y, mem_of_getElem? hy, rfl⟩ heq

variable {l : List Sighting}

/-- **The aliases tell the images apart.** -/
theorem naming_sightings (hinj : HashedApart sha256 items) (hd : Distinct items)
    (hl : ∀ s ∈ l, s.Of items) :
    Naming (fun s => aliases sha256 s.shown s.outputIndex) Sighting.position
      (l.filter Sighting.isImage) where
  shared s hs t ht heq := by
    obtain ⟨x, hx, hsx⟩ := (hl s (mem_of_mem_filter hs)).shown
    obtain ⟨y, hy, hty⟩ := (hl t (mem_of_mem_filter ht)).shown
    obtain rfl : x = y := Option.some.inj (hx.symm.trans (heq ▸ hy))
    refine ⟨.result (sha256 x.result), ?_, ?_⟩ <;> rw [mem_aliases]
    · simp [hsx.result]
    · simp [hty.result]
  apart s hs t ht a has hat := by
    rw [List.mem_filter] at hs ht
    exact position_eq_of_alias hinj hd (hl s hs.1) (hl t ht.1) hs.2 ht.2 has hat

variable [DecidableEq δ]

/-- The images among the sightings are all that the counter observes. -/
theorem foldl_observeImage (hd : Distinct items) (hl : ∀ s ∈ l, s.Of items)
    (c : Counter (Alias δ)) :
    l.foldl (fun c s => observeImage sha256 c s.shown s.outputIndex) c =
      (l.filter Sighting.isImage).foldl
        (fun c s => c.observe (aliases sha256 s.shown s.outputIndex)) c := by
  induction l generalizing c with
  | nil => rfl
  | cons s l ih =>
    rw [foldl_cons, ih fun t ht => hl t (by simp [ht])]
    by_cases hi : s.isImage
    · obtain ⟨x, hx, hsx⟩ := (hl s (by simp)).shown
      have hti : s.shown.type = .imageGenerationCall := of_decide_eq_true hi
      obtain ⟨hr, hu⟩ := hd.final x (mem_of_getElem? hx) (hsx.type ▸ hti)
      rw [← hsx.result] at hr
      have hu' : s.shown.unfinished = false := by
        rw [← hu, ResponsesOutput.unfinished, ResponsesOutput.unfinished, hsx.status]
      rw [filter_cons_of_pos hi, foldl_cons, observeImage, if_neg (not_not.mpr hti),
        if_neg hr, hu', if_neg Bool.false_ne_true]
    · have hti : s.shown.type ≠ .imageGenerationCall := fun h => hi (decide_eq_true h)
      rw [filter_cons_of_neg hi, observeImage, if_pos hti]

theorem card_filter_range (p : ResponsesOutput → Bool) (items : List ResponsesOutput) :
    ((Finset.range items.length).filter fun i => (items[i]?).any p).card = items.countP p := by
  induction items using List.reverseRecOn with
  | nil => rfl
  | append_singleton items item ih =>
    have hold : (Finset.range items.length).filter (fun i => ((items ++ [item])[i]?).any p) =
        (Finset.range items.length).filter fun i => (items[i]?).any p := by
      refine filter_congr fun i hi => ?_
      rw [List.getElem?_append_left (Finset.mem_range.mp hi)]
    rw [length_append, length_singleton, range_add_one, filter_insert, hold,
      List.countP_append, List.countP_singleton, ← ih, getElem?_concat_length, Option.any_some]
    split
    · rw [card_insert_of_notMem (by simp)]
    · rfl

/-- **An image is counted once**, however often it is sighted. -/
theorem image_counted_once (hinj : HashedApart sha256 items) (hd : Distinct items)
    (hl : ∀ s ∈ l, s.Of items) (hall : ∀ i < items.length, ∃ s ∈ l, s.position = i) :
    (l.foldl (fun c s => observeImage sha256 c s.shown s.outputIndex) {}).count =
      items.countP ResponsesOutput.isImage := by
  rw [foldl_observeImage hd hl]
  refine (count_observeAll (naming_sightings hinj hd hl)).trans ?_
  rw [← card_filter_range]
  congr 1
  ext i
  simp only [List.mem_toFinset, List.mem_map, List.mem_filter, Finset.mem_filter, Finset.mem_range]
  constructor
  · rintro ⟨s, ⟨hs, hi⟩, rfl⟩
    obtain ⟨x, hx, hsx⟩ := (hl s hs).shown
    refine ⟨(List.getElem?_eq_some_iff.mp hx).1, ?_⟩
    rw [hx, Option.any_some, ResponsesOutput.isImage, ← hsx.type]
    exact hi
  · rintro ⟨hlt, hi⟩
    obtain ⟨s, hs, rfl⟩ := hall i hlt
    obtain ⟨x, hx, hsx⟩ := (hl s hs).shown
    rw [hx, Option.any_some, ResponsesOutput.isImage, ← hsx.type] at hi
    exact ⟨s, ⟨hs, hi⟩, rfl⟩

end Images

/-! ## Streams -/

section Streams

variable {δ : Type} [DecidableEq δ] {priced : String → Bool} {sha256 : String → δ}
variable {items : List ResponsesOutput} {tools₀ : BuiltInTools}

/-- The event that reports an item done. -/
def Sighting.event (s : Sighting) : Event := .itemDone (some s.shown) s.outputIndex

/-- The items of a terminal event as sightings. -/
def sightings (output : List ResponsesOutput) : List Sighting :=
  output.zipIdx.map fun p => ⟨p.2, p.1, some (p.2 : ℤ)⟩

/-- The stream of `items`: some are reported done, any number of times, among events that report
nothing, and a terminal event follows that has the whole output or none of it. -/
structure Reports (items : List ResponsesOutput) (stream : List (Option Sighting))
    (output : List ResponsesOutput) : Prop where
  done : ∀ s ∈ stream.reduceOption, s.Of items
  terminal : output = [] ∨ List.Forall₂ Shown items output
  whole : output = [] → ∀ i < items.length, ∃ s ∈ stream.reduceOption, s.position = i

/-- The events before the terminal one. -/
def before (stream : List (Option Sighting)) : List Event :=
  stream.map fun s => s.elim .other Sighting.event

/-- The items that were reported done, as they were shown. -/
def doneItems (stream : List (Option Sighting)) : List ResponsesOutput :=
  stream.reduceOption.map Sighting.shown

/-- What the accumulator has seen before the terminal event. -/
structure Accumulated (priced : String → Bool) (sha256 : String → δ) (tools₀ : BuiltInTools)
    (stream : List (Option Sighting)) (a : Accumulator δ) : Prop where
  tools : Counted priced tools₀ (doneItems stream) a.tools
  images : a.imageCounter = stream.reduceOption.foldl
    (fun c s => observeImage sha256 c s.shown s.outputIndex) {}
  open_ : a.imageCommitted = false
  unfinished : a.finished = false

theorem accumulated_start : Accumulated priced sha256 tools₀ [] { tools := tools₀ } :=
  ⟨counted_nil, rfl, rfl, rfl⟩

variable {stream : List (Option Sighting)} {a : Accumulator δ}

theorem reduceOption_concat (stream : List (Option Sighting)) (s : Sighting) :
    (stream ++ [some s]).reduceOption = stream.reduceOption ++ [s] := by
  simp [List.reduceOption_append]

theorem Accumulated.other (h : Accumulated priced sha256 tools₀ stream a) :
    Accumulated priced sha256 tools₀ (stream ++ [none]) (a.observe priced sha256 .other) := by
  have hred : (stream ++ [none]).reduceOption = stream.reduceOption := by
    simp [List.reduceOption_append]
  rw [Accumulator.observe, h.unfinished, if_neg Bool.false_ne_true]
  exact ⟨by rw [doneItems, hred]; exact h.tools, by rw [hred]; exact h.images,
    h.open_, h.unfinished⟩

/-- **One item that is reported done.** -/
theorem Accumulated.report (h : Accumulated priced sha256 tools₀ stream a) (s : Sighting) :
    Accumulated priced sha256 tools₀ (stream ++ [some s])
      (a.observe priced sha256 s.event) := by
  have hdone : doneItems (stream ++ [some s]) = doneItems stream ++ [s.shown] := by
    rw [doneItems, reduceOption_concat, List.map_append]
    rfl
  have himages : (stream ++ [some s]).reduceOption.foldl
      (fun c s => observeImage sha256 c s.shown s.outputIndex) {} =
        observeImage sha256 a.imageCounter s.shown s.outputIndex := by
    rw [reduceOption_concat, List.foldl_append, ← h.images]
    rfl
  have hsilent : s.shown.type ≠ .imageGenerationCall →
      observeImage sha256 a.imageCounter s.shown s.outputIndex = a.imageCounter :=
        fun hne => if_pos hne
  rw [Accumulator.observe.eq_def, h.unfinished, if_neg Bool.false_ne_true, Sighting.event]
  dsimp only
  have hskip : s.shown.billedAs priced tools₀ = none → Counted priced tools₀
      (doneItems (stream ++ [some s])) a.tools := fun hb => hdone ▸ h.tools.skip hb
  have hcount : s.shown.type = .webSearchCall ∨ s.shown.type = .fileSearchCall ∨
      s.shown.type = .functionCall → Counted priced tools₀ (doneItems (stream ++ [some s]))
        (countBillableToolCall priced a.tools s.shown.type s.shown.name) :=
    fun ht => hdone ▸ h.tools.done ht
  split
  case h_1 ht | h_2 ht | h_3 ht =>
    exact ⟨hcount (by simp [ht]), by rw [himages, hsilent (by simp [ht])], h.open_, rfl⟩
  case h_4 ht =>
    rw [h.open_, if_neg Bool.false_ne_true]
    exact ⟨hskip (by rw [ResponsesOutput.billedAs, ht]), himages.symm, rfl, rfl⟩
  case h_5 ht | h_6 ht =>
    exact ⟨hskip (by rw [ResponsesOutput.billedAs, ht]), by rw [himages, hsilent (by simp [ht])],
      h.open_, h.unfinished⟩

/-- **The events before the terminal one.** -/
theorem accumulated_before (stream : List (Option Sighting)) :
    Accumulated priced sha256 tools₀ stream
      ((before stream).foldl (Accumulator.observe priced sha256) { tools := tools₀ }) := by
  induction stream using List.reverseRecOn with
  | nil => exact accumulated_start
  | append_singleton stream s ih =>
    rw [before, List.map_append, List.foldl_append]
    cases s with
    | none => exact ih.other
    | some s => exact ih.report s

/-- The tools when the stream is over: those that were done, and the images that the terminal event
leaves. -/
theorem Accumulated.read_terminal (h : Accumulated priced sha256 tools₀ stream a)
    (type : Terminal) (response : Option Response) :
    (a.observe priced sha256 (.terminal type response)).finish.tools =
      commitImages (terminalImages sha256 a.imageCounter type response) a.tools := by
  have hobs : a.observe priced sha256 (.terminal type response) =
      { a with
        imageCounter := terminalImages sha256 a.imageCounter type response
        tools := commitImages (terminalImages sha256 a.imageCounter type response) a.tools
        imageCommitted := true } := by
    rw [Accumulator.observe, h.unfinished, if_neg Bool.false_ne_true, h.open_,
      if_neg Bool.false_ne_true]
  rw [hobs, Accumulator.finish]
  rw [h.unfinished, if_neg Bool.false_ne_true, if_pos rfl]

/-! ## What is billed -/

/-- Every item once, the images up to a limit. -/
def ItemsCounted (priced : String → Bool) (tools₀ : BuiltInTools) (items : List ResponsesOutput)
    (tools : BuiltInTools) : Prop :=
  (∀ name ≠ "image_generation", callCount tools name =
      callCount tools₀ name + items.countP fun item => item.billedAs priced tools₀ = some name) ∧
    callCount tools "image_generation" = min (items.countP ResponsesOutput.isImage) maxImageN

/-- Under every name as many items are reported done as there are. -/
def DoneOnce (priced : String → Bool) (tools₀ : BuiltInTools) (items : List ResponsesOutput)
    (stream : List (Option Sighting)) : Prop :=
  ∀ name, (doneItems stream).countP (fun item => item.billedAs priced tools₀ = some name) =
    items.countP fun item => item.billedAs priced tools₀ = some name

variable {output : List ResponsesOutput}

theorem sightings_of (h : List.Forall₂ Shown items output) :
    ∀ s ∈ sightings output, s.Of items := by
  intro s hs
  obtain ⟨p, hp, rfl⟩ := List.mem_map.mp hs
  refine ⟨?_, .inr rfl⟩
  obtain ⟨hlen, hget⟩ := forall₂_iff_get.mp h
  have hmem := List.mem_zipIdx_iff_getElem?.mp hp
  obtain ⟨hlt, heq⟩ := List.getElem?_eq_some_iff.mp hmem
  refine ⟨_, getElem?_eq_getElem (hlen ▸ hlt), ?_⟩
  have := hget p.2 (hlen ▸ hlt) hlt
  exact heq ▸ this

theorem exists_sighting {i : ℕ} (h : i < output.length) : ∃ s ∈ sightings output, s.position = i :=
  ⟨⟨i, output[i], some (i : ℤ)⟩,
    List.mem_map.mpr ⟨(output[i], i), List.mem_zipIdx_iff_getElem?.mpr (by simp [h]), rfl⟩, rfl⟩

theorem foldl_sightings (sha256 : String → δ) (output : List ResponsesOutput)
    (c : Counter (Alias δ)) :
    output.zipIdx.foldl (fun c p => observeImage sha256 c p.1 (some (p.2 : ℤ))) c =
      (sightings output).foldl (fun c s => observeImage sha256 c s.shown s.outputIndex) c := by
  rw [sightings, foldl_map]

variable {response : Option Response} {type : Terminal}

/-- The images after a terminal event that keeps them are all that the stream has shown. -/
theorem terminalImages_completed (ht : type.failing = false)
    (hr : response.any (isNonBillableResponsesStatus ·.status) = false) (l : List Sighting) :
    terminalImages sha256 (l.foldl (fun c s => observeImage sha256 c s.shown s.outputIndex) {})
        type response =
      (l ++ sightings (response.elim [] Response.output)).foldl
        (fun c s => observeImage sha256 c s.shown s.outputIndex) {} := by
  rw [terminalImages.eq_def, if_neg (by simp [ht, hr]), List.foldl_append]
  cases response with
  | none => rfl
  | some r => exact foldl_sightings sha256 r.output _

theorem terminalImages_failing (ht : type.failing = true) (c : Counter (Alias δ))
    (response : Option Response) : terminalImages sha256 c type response = {} := if_pos (.inl ht)

omit [DecidableEq δ] in
theorem callCount_commitImages (c : Counter (Alias δ)) (tools : BuiltInTools) :
    callCount (commitImages c tools) "image_generation" = min c.count maxImageN := by
  simp [callCount, commitImages]

omit [DecidableEq δ] in
theorem callCount_commitImages_of_ne (c : Counter (Alias δ)) (tools : BuiltInTools) {name : String}
    (h : name ≠ "image_generation") :
    callCount (commitImages c tools) name = callCount tools name := by
  simp [callCount, commitImages, update_of_ne h]

theorem billedAs_ne_image (item : ResponsesOutput) :
    item.billedAs priced tools₀ ≠ some "image_generation" := by
  have hsearch : resolveWebSearchToolName tools₀ ≠ "image_generation" := by
    unfold resolveWebSearchToolName
    split_ifs <;> decide
  unfold ResponsesOutput.billedAs
  split
  · exact fun h => hsearch (Option.some.inj h)
  · decide
  · split_ifs with h
    · exact (Option.some_ne_none _).symm
    · intro heq
      exact h (.inr (.inl (Option.some.inj heq ▸ by decide)))
  all_goals exact (Option.some_ne_none _).symm

/-- **The images of a stream that is completed are each counted once.** -/
theorem images_of_reports (hinj : HashedApart sha256 items) (hd : Distinct items)
    (hrep : Reports items stream (response.elim [] Response.output)) :
    ((stream.reduceOption ++ sightings (response.elim [] Response.output)).foldl
      (fun c s => observeImage sha256 c s.shown s.outputIndex) {}).count =
        items.countP ResponsesOutput.isImage := by
  refine image_counted_once hinj hd (fun s hs => ?_) fun i hi => ?_
  · rcases List.mem_append.mp hs with hdone | hterm
    · exact hrep.done s hdone
    · rcases hrep.terminal with hnil | hall
      · rw [hnil] at hterm
        cases hterm
      · exact sightings_of hall s hterm
  · rcases hrep.terminal with hnil | hall
    · obtain ⟨s, hs, heq⟩ := hrep.whole hnil i hi
      exact ⟨s, mem_append_left _ hs, heq⟩
    · obtain ⟨s, hs, heq⟩ := exists_sighting (hall.length_eq ▸ hi)
      exact ⟨s, mem_append_right _ hs, heq⟩

/-- **A completed stream bills every item once exactly if each tool call is reported done once**, as
far as calls of one name can be told apart; and a stream that fails bills no image. -/
theorem items_counted_iff_doneOnce (hinj : HashedApart sha256 items) (hd : Distinct items)
    {response : Option Response} (hrep : Reports items stream (response.elim [] Response.output))
    (hr : response.any (isNonBillableResponsesStatus ·.status) = false) :
    (ItemsCounted priced tools₀ items
        (Accumulator.read priced sha256 { tools := tools₀ }
          (before stream ++ [.terminal .completed response])).tools ↔
      DoneOnce priced tools₀ items stream) ∧
    ∀ type response', type.failing = true →
      callCount (Accumulator.read priced sha256 { tools := tools₀ }
        (before stream ++ [.terminal type response'])).tools "image_generation" = 0 := by
  have hacc := @accumulated_before δ _ priced sha256 tools₀ stream
  have hread : ∀ type response', (Accumulator.read priced sha256 { tools := tools₀ }
      (before stream ++ [.terminal type response'])).tools =
        commitImages (terminalImages sha256 (stream.reduceOption.foldl
          (fun c s => observeImage sha256 c s.shown s.outputIndex) {}) type response')
          ((before stream).foldl (Accumulator.observe priced sha256)
            { tools := tools₀ }).tools := by
    intro type response'
    rw [Accumulator.read, List.foldl_append, foldl_cons, foldl_nil,
      hacc.read_terminal type response', hacc.images]
  constructor
  · rw [hread, terminalImages_completed rfl hr]
    constructor
    · intro h name
      by_cases hname : name = "image_generation"
      · subst hname
        simp [billedAs_ne_image]
      · have := h.1 name hname
        rw [callCount_commitImages_of_ne _ _ hname, hacc.tools.count] at this
        omega
    · intro h
      refine ⟨fun name hname => ?_, ?_⟩
      · rw [callCount_commitImages_of_ne _ _ hname, hacc.tools.count, h name]
      · rw [callCount_commitImages, images_of_reports hinj hd hrep]
  · intro type response' ht
    rw [hread, callCount_commitImages, terminalImages_failing ht]
    rfl

end Streams

/-! ## A search and an image -/

/-- A search. -/
def searchItem : ResponsesOutput where
  type := .webSearchCall
  id := "ws_1"

/-- An image. -/
def imageItem : ResponsesOutput where
  type := .imageGenerationCall
  id := "ig_1"
  result := "iVBORw0KGgo="
  status := "completed"

/-- Reported done once each, the image without its index, and again by the terminal event. -/
theorem search_and_image_counted :
    ItemsCounted (fun _ => false) (fun _ => none) [searchItem, imageItem]
      (Accumulator.read (fun _ => false) id { tools := fun _ => none }
        (before [some ⟨0, searchItem, some 0⟩, none, some ⟨1, imageItem, none⟩] ++
          [.terminal .completed (some { output := [searchItem, imageItem] })])).tools := by
  have hshown : ∀ item : ResponsesOutput, Shown item item := fun _ =>
    ⟨rfl, rfl, rfl, rfl, .inr rfl, .inr rfl⟩
  refine (items_counted_iff_doneOnce injective_id.injOn ⟨?_, ?_⟩ ⟨?_, ?_, ?_⟩ rfl).1.mpr ?_
  · intro i j a b ha hb hij
    match i, j with
    | 0, 0 | 1, 1 => exact absurd rfl hij
    | 0, 1 | 1, 0 => cases ha; cases hb; decide
    | i + 2, _ | _, i + 2 => simp at ha hb
  · decide +kernel
  · intro s hs
    rcases mem_cons.mp hs with rfl | hs
    · exact ⟨⟨searchItem, rfl, hshown _⟩, .inr rfl⟩
    · rw [List.mem_singleton.mp hs]
      exact ⟨⟨imageItem, rfl, hshown _⟩, .inl rfl⟩
  · exact .inr (.cons (hshown _) (.cons (hshown _) .nil))
  · exact fun h => absurd h (by decide)
  · intro name
    rfl

/-- A search that the terminal event alone reports is not counted, and one that is reported done
twice counts twice. -/
theorem search_counted_by_report :
    (Accumulator.read (fun _ => false) id { tools := fun _ => none }
        [.terminal .completed (some { output := [searchItem] })]).tools "web_search_preview" =
        none ∧
      (Accumulator.read (fun _ => false) id { tools := fun _ => none }
        [.itemDone (some searchItem) (some 0), .itemDone (some searchItem) (some 0),
          .terminal .completed (some { output := [searchItem] })]).tools "web_search_preview" =
        some 2 := by
  decide +kernel

end ResponsesUsage
