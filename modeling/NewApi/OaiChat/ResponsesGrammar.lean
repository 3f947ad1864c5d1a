import NewApi.OaiChat.ResponsesPieces

/-!
# OaiChat/ResponsesGrammar — whole streams of Responses events

A stream is well formed when a reader follows it to its terminal event and its sequence numbers are
consecutive.  A chunk that is refused loses the events of the pieces before the one that was at
fault, although the state has moved; and `Finalize` does not make up for a created event that was
never sent.

* `stream_wellFormed` — streams whose chunks fit are well formed.
* `stream_refused` — one that is not.
-/

namespace ResponsesStream

open List Reader State Event Option

/-- Numbers that follow each other, or none at all. -/
def Consecutive (numbers : List (Option ℕ)) : Prop :=
  (∀ n ∈ numbers, n = none) ∨
    numbers = (List.range' (numbers.head?.join.getD 0) numbers.length).map some

instance (numbers : List (Option ℕ)) : Decidable (Consecutive numbers) :=
  inferInstanceAs (Decidable (_ ∨ _))

/-- **A well-formed stream**: read to its terminal event, and numbered. -/
def WellFormed (events : List Event) : Prop :=
  (Reader.readAll {} (events.map Event.payload)).any Reader.finished = true ∧
    Consecutive (events.map Event.sequenceNumber)

instance (events : List Event) : Decidable (WellFormed events) := inferInstanceAs (Decidable (_ ∧ _))

/-! ## The final response -/

section Final

variable {s : State}

theorem finalItem_of_mem (hs : Sound s) (h : s.AllDone) (status : ItemStatus) {r : OutputRef}
    (hr : r ∈ s.outputOrder) :
    ∃ item, s.finalItem status r = some item ∧ (item.kind, item.value) = (r.itemKind, s.refText r) := by
  cases r with
  | lane kind segment =>
    have hlt := ((hs.lanes kind).refs segment hr).resolve_right fun hopen => h.1 kind hopen.1
    have hkind := (hs.lanes kind).kinds _ (getElem_mem hlt)
    rw [finalItem, refText, Lane.textAt, getElem?_eq_getElem hlt]
    exact ⟨_, rfl, Prod.ext hkind rfl⟩
  | tool i =>
    obtain ⟨t, ht⟩ := isSome_iff_exists.1 (hs.known i hr)
    rw [finalItem, refText, ht]
    exact ⟨_, rfl, rfl⟩

theorem map_filterMap_of_forall {α β γ : Type*} {f : α → Option β} {g : β → γ} {h : α → γ}
    {l : List α} (hl : ∀ a ∈ l, ∃ b, f a = some b ∧ g b = h a) :
    (l.filterMap f).map g = l.map h := by
  induction l with
  | nil => rfl
  | cons a l ih =>
    obtain ⟨b, hb, hg⟩ := hl a mem_cons_self
    rw [filterMap_cons_some hb, map_cons, map_cons, hg,
      ih fun a ha => hl a (mem_cons_of_mem _ ha)]

/-- **The final response is complete.** -/
theorem complete_finalResponse (hs : Sound s) (h : s.AllDone) (status : ItemStatus) :
    s.reader.Complete (s.outputOrder.filterMap (s.finalItem status)) := by
  constructor
  · intro b hb
    obtain ⟨i, hi, rfl⟩ := mem_mapIdx.1 hb
    exact refLive_of_allDone hs h (getElem_mem hi)
  · rw [map_filterMap_of_forall fun r hr => finalItem_of_mem hs h status hr]
    exact (Blocks.map_view fun kind text _ => (kind, text)).symm

theorem step_finalResponse (hs : Sound s) (h : s.AllDone) :
    s.reader.step s.finalResponse = some { s.reader with finished := true } := by
  rw [finalResponse, step, if_pos ⟨rfl, rfl⟩]
  · exact if_pos (complete_finalResponse hs h s.outputStatus)
  · intro _ _ h
    cases h

end Final

/-! ## Numbers -/

section Numbers

variable {s s' : State} {payloads : List Payload}

/-- The next `n` numbers. -/
def State.numbers (s : State) (n : ℕ) : List (Option ℕ) :=
  (List.range' s.nextSequenceNumber n).map fun k => if s.emitSequenceNumber then some k else none

theorem numbers_number :
    (s.number payloads).map sequenceNumber = s.numbers payloads.length := by
  refine ext_getElem (by simp [number, numbers]) fun j _ _ => ?_
  simp [number, numbers]

theorem payload_number : (s.number payloads).map payload = payloads := by
  refine ext_getElem (by simp [number]) fun j _ _ => ?_
  simp [number]

theorem numbers_congr {n : ℕ} (h : s'.frame.2 = s.frame.2) : s'.numbers n = s.numbers n := by
  have hemit : s'.emitSequenceNumber = s.emitSequenceNumber := congrArg (·.2.1) h
  have hnext : s'.nextSequenceNumber = s.nextSequenceNumber := congrArg (·.2.2) h
  rw [numbers, hemit, hnext, numbers]

theorem numbers_advance {n : ℕ} (h : s'.frame.2 = s.frame.2) :
    s.numbers payloads.length ++ (s'.advance payloads).numbers n =
      s.numbers (payloads.length + n) := by
  have hemit : s'.emitSequenceNumber = s.emitSequenceNumber := congrArg (·.2.1) h
  have hnext : s'.nextSequenceNumber = s.nextSequenceNumber := congrArg (·.2.2) h
  rw [State.advance, hemit]
  cases hs : s.emitSequenceNumber with
  | true =>
    simp only [numbers, if_pos, hs, hnext]
    rw [← map_append, ← range'_append_1]
  | false => simp [numbers, hs, hemit]

theorem consecutive_numbers (n : ℕ) : Consecutive (s.numbers n) := by
  unfold Consecutive numbers
  cases s.emitSequenceNumber with
  | true =>
    right
    cases n with
    | zero => rfl
    | succ n => simp [range'_succ]
  | false =>
    left
    simp

end Numbers

/-! ## Streams -/

/-- What the reader holds: nothing yet, or what the state says. -/
structure Ready (s : State) (r : Reader) : Prop where
  sound : Sound s
  running : s.finalized = false
  reader : if s.sentCreated then r = s.reader else r = {} ∧ s.outputOrder = []

section Ready

variable {s s' : State} {r r' : Reader} {chunk : Chunk}

/-- The created event is sent before anything else. -/
theorem Ready.ensureCreated (h : Ready s r) :
    r.readAll s.ensureCreated.2 = some s.ensureCreated.1.reader ∧ Sound s.ensureCreated.1 ∧
      s.ensureCreated.1.frame = { s with sentCreated := true }.frame := by
  have hreader := h.reader
  rw [State.ensureCreated]
  cases hcreated : s.sentCreated with
  | true =>
    rw [hcreated, if_pos rfl] at hreader
    rw [if_pos rfl, hreader]
    exact ⟨rfl, h.sound, by rw [frame, hcreated]; rfl⟩
  | false =>
    rw [hcreated, if_neg Bool.false_ne_true] at hreader
    have hsame : SameItems s { s with sentCreated := true } := ⟨rfl, rfl, rfl, rfl⟩
    have hempty : s.reader = { created := true } := by
      rw [State.reader, hreader.2]
      rfl
    rw [if_neg Bool.false_ne_true, hsame.reader, hempty, hreader.1]
    exact ⟨rfl, hsame.sound h.sound, rfl⟩

theorem Ready.of_sameItems (h : Ready s r) (hitems : SameItems s s') (hframe : s'.frame = s.frame) :
    Ready s' r := by
  have hcreated : s'.sentCreated = s.sentCreated := congrArg (·.1) hframe
  have hrunning : s'.finalized = s.finalized := congrArg (·.2.1) hframe
  refine ⟨hitems.sound h.sound, hrunning.trans h.running, ?_⟩
  rw [hcreated, hitems.reader, hitems.outputOrder]
  exact h.reader

theorem sameItems_adopt : SameItems s (s.adopt chunk) := ⟨rfl, rfl, rfl, rfl⟩

/-- The state in which the pieces of a chunk are taken. -/
def State.met (s : State) (chunk : Chunk) : State := (s.adopt chunk).ensureCreated.1

/-- **A chunk whose pieces fit is read.** -/
theorem Ready.convert (h : Ready s r) (hfits : (s.met chunk).AllFit chunk.pieces) :
    (s.taken chunk).error = none ∧ (s.taken chunk).state.frame = { s with sentCreated := true }.frame ∧
      ∃ r', r.readAll (s.taken chunk).payloads = some r' ∧ Ready (s.convert chunk).1 r' := by
  obtain ⟨hcreated, hsound, hframe⟩ := (h.of_sameItems sameItems_adopt rfl).ensureCreated
  obtain ⟨herror, hpieces⟩ := follows_takeAll hsound hfits
  have hframe' : (s.taken chunk).state.frame = { s with sentCreated := true }.frame :=
    hpieces.frame.trans hframe
  refine ⟨herror, hframe', _, (readAll_append hcreated).trans hpieces.reads, ?_⟩
  have hsame : SameItems (s.taken chunk).state (s.convert chunk).1 := by
    rw [State.convert, State.advance]
    split_ifs <;> exact ⟨rfl, rfl, rfl, rfl⟩
  have hsent : (s.convert chunk).1.sentCreated = true ∧ (s.convert chunk).1.finalized = false := by
    rw [State.convert, State.advance]
    split_ifs <;> exact ⟨congrArg (·.1) hframe', (congrArg (·.2.1) hframe').trans h.running⟩
  refine ⟨hsame.sound hpieces.sound, hsent.2, ?_⟩
  rw [if_pos hsent.1, hsame.reader]
  rfl

theorem Ready.not_finalized (h : Ready s r) : ¬s.finalized = true := by
  rw [h.running]
  exact Bool.false_ne_true

theorem step_error (s : State) (code message param : String) :
    s.reader.step (.error code message param) = some s.reader := by
  rw [step, if_pos ⟨rfl, rfl⟩]
  · rfl
  · intro _ _ h
    cases h

/-- The terminal event, after all items were ended. -/
theorem step_ended (hs : Sound s) :
    s.doneDeltaEvents.1.reader.step { s.doneDeltaEvents.1 with finalized := true }.finalResponse =
      some { s.doneDeltaEvents.1.reader with finished := true } := by
  have hsame : SameItems s.doneDeltaEvents.1 { s.doneDeltaEvents.1 with finalized := true } :=
    ⟨rfl, rfl, rfl, rfl⟩
  have hdone : s.doneDeltaEvents.1.AllDone := allDone_doneDeltaEvents
  have hall : State.AllDone { s.doneDeltaEvents.1 with finalized := true } := by
    refine ⟨fun kind => ?_, hdone.2⟩
    exact hdone.1 kind
  rw [← hsame.reader]
  exact step_finalResponse (hsame.sound (follows_doneDeltaEvents hs).sound) hall

theorem Ready.finalize (h : Ready s r) (hcreated : s.sentCreated = true) :
    (r.readAll s.finalizePayloads).any finished = true := by
  have hreader := h.reader
  rw [hcreated, if_pos rfl] at hreader
  rw [finalizePayloads, if_neg h.not_finalized, hreader,
    readAll_append (follows_doneDeltaEvents h.sound).reads,
    readAll_cons (step_ended h.sound)]
  rfl

theorem Ready.fail (h : Ready s r) (failure : Failure) :
    (r.readAll (s.failPayloads failure)).any finished = true := by
  have hfailed : Ready { s with status := .failed } r :=
    h.of_sameItems ⟨rfl, rfl, rfl, rfl⟩ rfl
  obtain ⟨hcreated, hsound, -⟩ := hfailed.ensureCreated
  rw [failPayloads, if_neg h.not_finalized, append_assoc,
    readAll_append hcreated, readAll_append (follows_doneDeltaEvents hsound).reads,
    readAll_cons (step_error _ _ _ _), readAll_cons (step_ended hsound)]
  rfl

end Ready

/-! ### Chunks that fit -/

/-- The first piece of a chunk is refused. -/
def State.RefusesFirst (s : State) (chunk : Chunk) : Prop :=
  ∃ piece ∈ chunk.pieces.head?, ¬(s.met chunk).Fits piece

instance (s : State) (chunk : Chunk) : Decidable (s.RefusesFirst chunk) :=
  match h : chunk.pieces.head? with
  | none => isFalse (by simp [State.RefusesFirst, h])
  | some piece => decidable_of_iff (¬(s.met chunk).Fits piece) (by simp [State.RefusesFirst, h])

/-- The stream is ended after its first chunk, or by `Fail`; and the pieces of its chunks fit,
unless it is the first piece of a chunk, and not of the first one, that does not. -/
def Fitting (ending : Ending) (s : State) : List Chunk → Prop
  | [] => s.sentCreated = true ∨ ending ≠ .finalize
  | chunk :: chunks =>
    ((s.met chunk).AllFit chunk.pieces ∧ Fitting ending (s.convert chunk).1 chunks) ∨
      s.sentCreated = true ∧ s.RefusesFirst chunk

instance decidableFitting (ending : Ending) (s : State) :
    (chunks : List Chunk) → Decidable (Fitting ending s chunks)
  | [] => inferInstanceAs (Decidable (_ ∨ _))
  | chunk :: chunks =>
    haveI := decidableFitting ending (s.convert chunk).1 chunks
    inferInstanceAs (Decidable (_ ∧ _ ∨ _ ∧ _))

section Stream

variable {s : State} {r : Reader} {chunk : Chunk} {ending : Ending} {chunks : List Chunk}

/-- The pieces after one that is refused are not looked at. -/
theorem taken_of_refused {piece : Piece} {pieces : List Piece} (hcreated : s.sentCreated = true)
    (hpieces : chunk.pieces = piece :: pieces)
    (herror : ((s.adopt chunk).take piece).error ≠ none) :
    s.taken chunk = (s.adopt chunk).take piece := by
  have hensure : (s.adopt chunk).ensureCreated = (s.adopt chunk, []) := if_pos hcreated
  obtain ⟨e, he⟩ := ne_none_iff_exists'.1 herror
  rw [taken, hensure, hpieces]
  simp only [takeAll, he, nil_append]
  rw [← he]

/-- A chunk refused at its first piece leaves no trace for the reader. -/
theorem Ready.refused (h : Ready s r) (hcreated : s.sentCreated = true)
    (hrefuses : s.RefusesFirst chunk) :
    (s.taken chunk).error ≠ none ∧ Ready (s.convert chunk).1 r ∧
      (s.convert chunk).1.frame = s.frame := by
  obtain ⟨piece, hpiece, hnot⟩ := hrefuses
  have hmet : s.met chunk = s.adopt chunk := by
    exact congrArg Prod.fst (if_pos hcreated)
  have hadopt : Ready (s.adopt chunk) r := h.of_sameItems sameItems_adopt rfl
  rw [hmet] at hnot
  obtain ⟨herror, hpayloads, hfollows⟩ := follows_take_refused hadopt.sound hnot
  have htaken := taken_of_refused hcreated (eq_cons_of_mem_head? hpiece) herror
  have hstate : (s.convert chunk).1 = ((s.adopt chunk).take piece).state := by
    rw [State.convert, htaken, hpayloads, State.advance]
    exact ite_self _
  have hsent : ((s.adopt chunk).take piece).state.sentCreated = true :=
    (congrArg (·.1) hfollows.frame).trans hcreated
  have hreader := h.reader
  rw [if_pos hcreated, ← sameItems_adopt.reader, some.inj hfollows.reads] at hreader
  rw [hstate, htaken]
  refine ⟨herror, ⟨hfollows.sound, (congrArg (·.2.1) hfollows.frame).trans h.running, ?_⟩,
    hfollows.frame⟩
  rw [if_pos hsent]
  exact hreader

theorem stream_cons_ok {refused : Failure} (h : (s.taken chunk).error = none) :
    stream refused ending s (chunk :: chunks) =
      s.number (s.taken chunk).payloads ++ stream refused ending (s.convert chunk).1 chunks := by
  rw [stream, State.convert, h]

theorem stream_cons_error {refused : Failure} (h : (s.taken chunk).error ≠ none) :
    stream refused ending s (chunk :: chunks) = (s.convert chunk).1.finish (.fail refused) := by
  obtain ⟨e, he⟩ := ne_none_iff_exists'.1 h
  rw [stream, State.convert, he]

theorem Ready.finish (h : Ready s r) (hend : s.sentCreated = true ∨ ending ≠ .finalize) :
    (r.readAll ((s.finish ending).map payload)).any finished = true := by
  cases ending with
  | fail failure =>
    rw [finish, payload_number]
    exact h.fail failure
  | finalize =>
    rw [finish, payload_number]
    exact h.finalize (hend.resolve_right fun hne => hne rfl)

/-- **The reader follows a stream whose chunks fit**, to its end. -/
theorem stream_reads (refused : Failure) (h : Ready s r) (hfitting : Fitting ending s chunks) :
    (r.readAll ((stream refused ending s chunks).map payload)).any finished = true := by
  induction chunks generalizing s r with
  | nil => exact h.finish hfitting
  | cons chunk chunks ih =>
    rcases hfitting with ⟨hfits, hrest⟩ | ⟨hcreated, hrefuses⟩
    · obtain ⟨herror, -, r', hreads, hready⟩ := h.convert hfits
      rw [stream_cons_ok herror, map_append, payload_number, readAll_append hreads]
      exact ih hready hrest
    · obtain ⟨herror, hready, -⟩ := h.refused hcreated hrefuses
      rw [stream_cons_error herror]
      exact hready.finish (Or.inr nofun)

theorem numbers_finish : (s.finish ending).map sequenceNumber =
    s.numbers (s.finish ending).length := by
  have hlength : ∀ payloads, (s.number payloads).length = payloads.length := by
    simp [number]
  cases ending with
  | fail failure => rw [finish, numbers_number, hlength]
  | finalize => rw [finish, numbers_number, hlength]

theorem stream_numbers (refused : Failure) (h : Ready s r) (hfitting : Fitting ending s chunks) :
    (stream refused ending s chunks).map sequenceNumber =
      s.numbers (stream refused ending s chunks).length := by
  induction chunks generalizing s r with
  | nil => exact numbers_finish
  | cons chunk chunks ih =>
    rcases hfitting with ⟨hfits, hrest⟩ | ⟨hcreated, hrefuses⟩
    · obtain ⟨herror, hframe, r', -, hready⟩ := h.convert hfits
      have hlength : (s.number (s.taken chunk).payloads).length =
          (s.taken chunk).payloads.length := by simp [number]
      rw [stream_cons_ok herror, map_append, numbers_number, ih hready hrest,
        length_append, hlength]
      have hcounter := congrArg Prod.snd hframe
      exact numbers_advance hcounter
    · obtain ⟨herror, -, hframe⟩ := h.refused hcreated hrefuses
      rw [stream_cons_error herror, numbers_finish]
      exact numbers_congr (congrArg Prod.snd hframe)

theorem sound_newState (id model : String) (emitSequenceNumber : Bool) :
    Sound (newState id model emitSequenceNumber) where
  nodup := nodup_nil
  lanes kind := by
    cases kind <;> exact
      ⟨rfl, nofun, nofun, fun h => absurd h.1 Bool.false_ne_true, fun _ _ => rfl⟩
  place := nofun
  known := nofun

/-- **Streams whose chunks fit are well formed.** -/
theorem stream_wellFormed (id model : String) (emitSequenceNumber : Bool) (refused : Failure)
    (ending : Ending) (chunks : List Chunk)
    (h : Fitting ending (newState id model emitSequenceNumber) chunks) :
    WellFormed (stream refused ending (newState id model emitSequenceNumber) chunks) := by
  have hready : Ready (newState id model emitSequenceNumber) {} :=
    ⟨sound_newState id model emitSequenceNumber, rfl, rfl, rfl⟩
  refine ⟨stream_reads refused hready h, ?_⟩
  rw [stream_numbers refused hready h]
  exact consecutive_numbers _

/-- Reasoning, text and a tool call in one chunk, and a finish reason before more text. -/
theorem stream_wellFormed_mixed :
    WellFormed (stream {} .finalize (newState "r" "m" true)
      [{ choices := [{ reasoning := "a", text := "b", toolCalls := [{ id := "c", name := "f" }] }] },
        { choices := [{ toolCalls := [{ arguments := "x" }], finishReason := some "stop" }] },
        { choices := [{ text := "d" }] }]) :=
  stream_wellFormed "r" "m" true {} .finalize _ (by decide +kernel)

/-- **A stream that is not**: a chunk whose text was taken is refused for its annotations.  The text
is in the final response, though no delta of it was sent, and numbers are missing. -/
theorem stream_refused :
    ¬WellFormed (stream {} .finalize (newState "r" "m" true)
      [{ choices := [{ text := "a" }] },
        { choices := [{ text := "b", annotations := some none }] }]) := by
  decide +kernel


end Stream

end ResponsesStream
