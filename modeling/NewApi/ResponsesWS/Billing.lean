import NewApi.Machinery.Runs
import NewApi.ResponsesWS.Session

/-!
# ResponsesWS/Billing — every create is billed once

What billing did for a call is read off the log.  A worker records nothing for other calls, and what
it records for its own follows its phase.

* `judge_ends_iff` — the frames that end a call.
* `performed` — what one step of a worker leaves.
* `Consistent.step` — at most one call is active, and every other one is billed as it was prepared.
* `creates_billed_once` — …after any run; and no frame of another create ends a call, as long as it
  can be told apart.
-/

namespace ResponsesWS

open Runs List Or Nat Session

/-! ## The log -/

/-- The reservations of a call. -/
def reservations (log : List Entry) (id : ℕ) : ℕ :=
  log.countP fun e => e.call = id ∧ e.kind = .prepared

/-- The settlements and refunds of a call. -/
def outcomes (log : List Entry) (id : ℕ) : ℕ :=
  log.countP fun e => e.call = id ∧ e.kind ≠ .prepared

/-- Nothing is reserved for the call, or it is settled or refunded once. -/
structure Closed (log : List Entry) (id : ℕ) : Prop where
  le_one : reservations log id ≤ 1
  once : outcomes log id = reservations log id

/-- What billing did for a call follows its phase. -/
def InPhase (log : List Entry) (c : Call) : Prop :=
  match c.phase with
  | .preparing => reservations log c.id = 0 ∧ outcomes log c.id = 0
  | .streaming _ => reservations log c.id = 1 ∧ outcomes log c.id = 0
  | .ended _ => Closed log c.id

section

variable {log new : List Entry} {id : ℕ}

theorem reservations_append : reservations (log ++ new) id =
    reservations log id + reservations new id := countP_append

theorem outcomes_append : outcomes (log ++ new) id = outcomes log id + outcomes new id :=
  countP_append

theorem reservations_eq_zero (h : ∀ e ∈ new, e.call ≠ id) : reservations new id = 0 := by
  refine countP_eq_zero.2 fun e he hcount => ?_
  exact h e he (of_decide_eq_true hcount).1

theorem outcomes_eq_zero (h : ∀ e ∈ new, e.call ≠ id) : outcomes new id = 0 := by
  refine countP_eq_zero.2 fun e he hcount => ?_
  exact h e he (of_decide_eq_true hcount).1

/-- What others do leaves a closed call closed. -/
theorem Closed.append (h : Closed log id) (hnew : ∀ e ∈ new, e.call ≠ id) :
    Closed (log ++ new) id := by
  refine ⟨?_, ?_⟩
  · rw [reservations_append, reservations_eq_zero hnew]
    exact h.le_one
  · rw [reservations_append, outcomes_append, reservations_eq_zero hnew, outcomes_eq_zero hnew]
    exact h.once

theorem not_billed {s : Session} (h : outcomes s.log id = 0) : ¬s.Billed id := by
  rintro ⟨e, he, hboth⟩
  exact countP_eq_zero.1 h e he (decide_eq_true hboth)

end

/-! ## What a frame does -/

/-- **The frame can be told from one that ends the call**: it is no end, or it names another stream,
the response that ended last, or — an error — another response or the control that was sent. -/
def Frame.Apart (last : String) (c : Call) (st : Streaming) (f : Frame) : Prop :=
  (f.type.isTerminal = false ∧ (f.decodes = true → f.type ≠ .error)) ∨
    (f.decodes = true ∧
      ((f.type ≠ .error ∧ f.streamID ≠ "" ∧ f.streamID ≠ c.streamID) ∨ f.Names last ∨
        (f.type = .error ∧ ((f.responseID ≠ "" ∧ f.responseID = last) ∨
          (responsesWSErrorEndsRequest f c.streamID st.responseID st.sentControl).terminal =
            false))))

instance (last : String) (c : Call) (st : Streaming) (f : Frame) : Decidable (f.Apart last c st) :=
  inferInstanceAs (Decidable (_ ∨ _))

/-- The call ends. -/
def Verdict.Ends : Verdict → Prop
  | .ends _ _ _ => True
  | .goesOn _ _ _ => False

section

variable {last : String} {c : Call} {st : Streaming} {f : Frame}

theorem conclude_ends_iff : (conclude last st f).Ends ↔ f.type.isTerminal = true := by
  unfold conclude
  split_ifs with h
  · exact iff_of_true trivial h
  · exact iff_of_false id h

theorem judgeError_ends_iff : (judgeError last c st f).Ends ↔
    ¬(f.responseID ≠ "" ∧ f.responseID = last) ∧
      (responsesWSErrorEndsRequest f c.streamID st.responseID st.sentControl).terminal = true := by
  unfold judgeError
  by_cases hlast : f.responseID ≠ "" ∧ f.responseID = last
  · rw [if_pos hlast]
    exact iff_of_false id fun h => h.1 hlast
  · rw [if_neg hlast]
    by_cases hterminal :
        (responsesWSErrorEndsRequest f c.streamID st.responseID st.sentControl).terminal = false
    · rw [if_pos hterminal]
      refine iff_of_false id fun h => ?_
      rw [hterminal] at h
      exact Bool.false_ne_true h.2
    · rw [if_neg hterminal]
      rw [Bool.not_eq_false] at hterminal
      split_ifs
      · exact iff_of_true trivial ⟨hlast, hterminal⟩
      · exact iff_of_true trivial ⟨hlast, hterminal⟩

/-- **A frame ends a call** unless it can be told apart. -/
theorem judge_ends_iff : (judge last c st f).Ends ↔ ¬f.Apart last c st := by
  have herror : f.type = .error → f.type.isTerminal = false := fun h => by rw [h]; rfl
  unfold judge Frame.Apart
  by_cases hdecodes : f.decodes = false
  · rw [if_pos hdecodes, conclude_ends_iff, hdecodes]
    simp
  rw [if_neg hdecodes]
  rw [Bool.not_eq_false] at hdecodes
  by_cases hstream : f.type ≠ .error ∧ f.streamID ≠ "" ∧ f.streamID ≠ c.streamID
  · rw [if_pos hstream]
    exact iff_of_false id fun h => h (inr ⟨hdecodes, inl hstream⟩)
  rw [if_neg hstream]
  by_cases hnames : f.Names last
  · rw [if_pos hnames]
    exact iff_of_false id fun h => h (inr ⟨hdecodes, inr (inl hnames)⟩)
  rw [if_neg hnames]
  by_cases htype : f.type = .error
  · rw [if_pos htype, judgeError_ends_iff]
    constructor
    · rintro ⟨hlast, hterminal⟩ (⟨-, hother⟩ | ⟨-, h | h | ⟨-, h | h⟩⟩)
      · exact hother hdecodes htype
      · exact hstream h
      · exact hnames h
      · exact hlast h
      · rw [hterminal] at h
        cases h
    · intro h
      refine ⟨fun hlast => h (inr ⟨hdecodes, inr (inr ⟨htype, inl hlast⟩)⟩), ?_⟩
      rw [← Bool.not_eq_false]
      exact fun hfalse => h (inr ⟨hdecodes, inr (inr ⟨htype, inr hfalse⟩)⟩)
  · rw [if_neg htype, conclude_ends_iff]
    constructor
    · rintro hterminal (⟨hfalse, -⟩ | ⟨-, h | h | h⟩)
      · rw [hterminal] at hfalse
        cases hfalse
      · exact hstream h
      · exact hnames h
      · exact htype h.1
    · intro h
      rw [← Bool.not_eq_false]
      exact fun hfalse => h (inl ⟨hfalse, fun _ => htype⟩)

end

/-! ## One step of a worker -/

@[simp] theorem wrote_log (s : Session) (ok : Bool) : (s.wrote ok).log = s.log := by
  unfold wrote
  split_ifs <;> rfl

@[simp] theorem wrote_nextCall (s : Session) (ok : Bool) :
    (s.wrote ok).nextCall = s.nextCall := by
  unfold wrote
  split_ifs <;> rfl

@[simp] theorem wrote_current (s : Session) (ok : Bool) : (s.wrote ok).current = s.current := by
  unfold wrote
  split_ifs <;> rfl

/-- The frame is the one the worker was handed, and it cannot be told apart. -/
def Handed (s : Session) (c : Call) (f : Frame) : Prop :=
  s.held = some (.frame f, c.id) ∧
    ∃ st, c.phase = .streaming st ∧ ¬f.Apart s.lastResponseID c st

/-- What a step of a worker leaves: entries of its own call, by frames that satisfy `P`, and a call
whose phase they follow. -/
structure Performed (P : Frame → Prop) (s : Session) (c : Call) (result : Session × Option Call) :
    Prop where
  nextCall : result.1.nextCall = s.nextCall
  log : ∃ new, result.1.log = s.log ++ new ∧ ∀ e ∈ new, e.call = c.id ∧ ∀ f ∈ e.frame, P f
  goesOn : ∀ d ∈ result.2, d.id = c.id ∧ result.1.current = s.current ∧ InPhase result.1.log d
  leaves : result.2 = none → result.1.current = none ∧ Closed result.1.log c.id

section

variable {P : Frame → Prop} {s s' : Session} {c d : Call} {st : Streaming} {frame : Option Frame}
  {kind : EntryKind}

/-- A step without billing. -/
theorem Performed.quiet (hlog : s'.log = s.log) (hnext : s'.nextCall = s.nextCall)
    (hcurrent : s'.current = s.current) (hid : d.id = c.id) (h : InPhase s.log d) :
    Performed P s c (s', some d) where
  nextCall := hnext
  log := ⟨[], by rw [hlog, append_nil], fun _ he => absurd he not_mem_nil⟩
  goesOn := by
    rintro _ ⟨⟩
    exact ⟨hid, hcurrent, hlog ▸ h⟩
  leaves := nofun

/-- A call is closed by its outcome. -/
theorem closed_outcome {log : List Entry} {id : ℕ} (hreserved : reservations log id = 1)
    (hopen : outcomes log id = 0) (hkind : kind ≠ .prepared) :
    Closed (log ++ [⟨id, kind, frame⟩]) id := by
  have hnone : reservations [⟨id, kind, frame⟩] id = 0 := by simp [reservations, hkind]
  have hone : outcomes [⟨id, kind, frame⟩] id = 1 := by simp [outcomes, hkind]
  refine ⟨?_, ?_⟩
  · exact Nat.le_of_eq (by rw [reservations_append, hreserved, hnone])
  · rw [reservations_append, outcomes_append, hreserved, hopen, hnone, hone]

/-- A step that closes the call. -/
theorem Performed.outcome (kind : EntryKind) (frame : Option Frame)
    (hphase : c.phase = .streaming st) (h : InPhase s.log c) (hkind : kind ≠ .prepared)
    (hframe : ∀ f ∈ frame, P f)
    (hlog : s'.log = s.log ++ [⟨c.id, kind, frame⟩]) (hnext : s'.nextCall = s.nextCall)
    (hcurrent : s'.current = s.current) (closeAfter : Bool) :
    Performed P s c (s', some { c with phase := .ended closeAfter }) where
  nextCall := hnext
  log := by
    refine ⟨[⟨c.id, kind, frame⟩], hlog, fun e he => ?_⟩
    obtain rfl := mem_singleton.1 he
    exact ⟨rfl, hframe⟩
  goesOn := by
    rintro _ ⟨⟩
    rw [InPhase, hphase] at h
    refine ⟨rfl, hcurrent, ?_⟩
    rw [hlog]
    exact closed_outcome h.1 h.2 hkind
  leaves := nofun

theorem Performed.settled (hphase : c.phase = .streaming st) (h : InPhase s.log c)
    (hlog : s'.log = s.log ++ [⟨c.id, .settled, none⟩]) (hnext : s'.nextCall = s.nextCall)
    (hcurrent : s'.current = s.current) (closeAfter : Bool) :
    Performed P s c (s', some { c with phase := .ended closeAfter }) :=
  Performed.outcome .settled none hphase h (by decide) (fun _ hf => by cases hf) hlog hnext hcurrent
    closeAfter

theorem refund_log (h : outcomes s.log c.id = 0) :
    (s.refund c.id frame).log = s.log ++ [⟨c.id, .refunded, frame⟩] := by
  rw [refund, if_neg (not_billed h)]
  rfl

theorem refund_same : (s.refund c.id frame).nextCall = s.nextCall ∧
    (s.refund c.id frame).current = s.current := by
  unfold refund
  split_ifs
  · exact ⟨rfl, rfl⟩
  · exact ⟨rfl, rfl⟩

section

variable (hphase : c.phase = .preparing) (h : InPhase s.log c)

include hphase h

/-- A request that fails after billing was prepared. -/
theorem Performed.failed (closeAfter : Bool) :
    Performed P s c ((s.record [⟨c.id, .prepared, none⟩]).refund c.id none,
      some { c with phase := .ended closeAfter }) := by
  rw [InPhase, hphase] at h
  have hreserved : reservations (s.log ++ [⟨c.id, .prepared, none⟩]) c.id = 1 := by
    rw [reservations_append, h.1]
    simp [reservations]
  have hopen : outcomes (s.log ++ [⟨c.id, .prepared, none⟩]) c.id = 0 := by
    rw [outcomes_append, h.2]
    simp [outcomes]
  have hlog : ((s.record [⟨c.id, .prepared, none⟩]).refund c.id none).log =
      s.log ++ [⟨c.id, .prepared, none⟩] ++ [⟨c.id, .refunded, none⟩] := refund_log hopen
  refine ⟨refund_same.1, ⟨[⟨c.id, .prepared, none⟩, ⟨c.id, .refunded, none⟩], ?_, ?_⟩, ?_, nofun⟩
  · rw [hlog, append_assoc]
    rfl
  · intro e he
    have hcall : e.call = c.id ∧ e.frame = none := by
      rcases mem_cons.1 he with rfl | he
      · exact ⟨rfl, rfl⟩
      · rw [mem_singleton.1 he]
        exact ⟨rfl, rfl⟩
    refine ⟨hcall.1, fun f hf => ?_⟩
    rw [hcall.2] at hf
    cases hf
  · rintro _ ⟨⟩
    refine ⟨rfl, refund_same.2, ?_⟩
    rw [hlog]
    exact closed_outcome hreserved hopen (by decide)

theorem Performed.ready (hlog : s'.log = s.log ++ [⟨c.id, .prepared, none⟩])
    (hnext : s'.nextCall = s.nextCall) (hcurrent : s'.current = s.current) :
    Performed P s c (s', some { c with phase := .streaming {} }) where
  nextCall := hnext
  log := by
    refine ⟨[⟨c.id, .prepared, none⟩], hlog, fun e he => ?_⟩
    obtain rfl := mem_singleton.1 he
    exact ⟨rfl, nofun⟩
  goesOn := by
    rintro _ ⟨⟩
    rw [InPhase, hphase] at h
    refine ⟨rfl, hcurrent, ?_⟩
    rw [hlog]
    change reservations _ c.id = 1 ∧ outcomes _ c.id = 0
    rw [reservations_append, outcomes_append, h.1, h.2]
    simp [reservations, outcomes]
  leaves := nofun

theorem closed_of_preparing : Closed s.log c.id := by
  rw [InPhase, hphase] at h
  exact ⟨by rw [h.1]; exact zero_le 1, by rw [h.1, h.2]⟩

end

/-- Preparing reserves, or ends the call. -/
theorem performed_prepare (h : InPhase s.log c) (setup : Setup) :
    Performed P s c (perform s c (.prepare setup)) := by
  rw [perform]
  by_cases hphase : c.phase = .preparing
  · rw [if_pos hphase]
    cases openCall s.alive s.lockedModel c setup with
    | ready => exact Performed.ready hphase h rfl rfl rfl
    | failed prepared closeAfter =>
      cases prepared with
      | true => exact Performed.failed hphase h closeAfter
      | false =>
        have hclosed := closed_of_preparing hphase h
        exact Performed.quiet rfl rfl rfl rfl hclosed
  · rw [if_neg hphase]
    exact Performed.quiet rfl rfl rfl rfl h

/-- A frame goes on, or ends the call. -/
theorem performed_takeFrame (hphase : c.phase = .streaming st) (h : InPhase s.log c) {f : Frame}
    (hheld : s.held = some (.frame f, c.id)) (clientWrites targetWrites : Bool) :
    Performed (Handed s c) s c
      ((takeFrame { s with held := none } c st f clientWrites targetWrites).1,
        some (takeFrame { s with held := none } c st f clientWrites targetWrites).2) := by
  have hends : (judge s.lastResponseID c st f).Ends → ∀ g ∈ some f, Handed s c g := by
    rintro hends _ ⟨⟩
    exact ⟨hheld, st, hphase, judge_ends_iff.1 hends⟩
  unfold takeFrame
  cases hjudge : judge s.lastResponseID c st f with
  | ends settles closeAfter last =>
    rw [hjudge] at hends
    have hframe := hends trivial
    cases settles with
    | true =>
      exact Performed.outcome .settled (some f) hphase h (by decide) hframe (by rfl) (by rfl)
        (by rfl) closeAfter
    | false =>
      have hopen : outcomes s.log c.id = 0 := by
        rw [InPhase, hphase] at h
        exact h.2
      refine Performed.outcome .refunded (some f) hphase h (by decide) hframe ?_ ?_ ?_ closeAfter
      · exact @refund_log { s with held := none, lastResponseID := last } c (some f) hopen
      · exact refund_same.1
      · exact refund_same.2
  | goesOn st' forwards flushes =>
    have hstreaming : ∀ st'', InPhase s.log { c with phase := .streaming st'' } := by
      intro st''
      rw [InPhase, hphase] at h
      exact h
    dsimp only
    by_cases hflush : flushes = true ∧ st'.accepted = true ∧ st'.pendingControl.isSome = true
    · rw [if_pos hflush]
      cases forwards with
      | true => exact Performed.quiet (by simp) (by simp) (by simp) rfl (hstreaming _)
      | false => exact Performed.quiet (by simp) (by simp) (by simp) rfl (hstreaming _)
    · rw [if_neg hflush]
      cases forwards with
      | true => exact Performed.quiet (by simp) (by simp) (by simp) rfl (hstreaming _)
      | false => exact Performed.quiet rfl rfl rfl rfl (hstreaming _)

section

variable (h : InPhase s.log c)

include h

theorem performed_takeIncoming (clientWrites targetWrites : Bool) :
    Performed (Handed s c) s c (perform s c (.takeIncoming clientWrites targetWrites)) := by
  rw [perform]
  split
  · rename_i st incoming id hphase hheld
    split_ifs with hid
    · exact Performed.quiet rfl rfl rfl rfl h
    · rw [not_not] at hid
      subst hid
      cases incoming with
      | disconnect => exact Performed.settled hphase h (by rfl) (by rfl) (by rfl) true
      | frame f => exact performed_takeFrame hphase h hheld clientWrites targetWrites
  · exact Performed.quiet rfl rfl rfl rfl h

/-- A control message bills nothing. -/
theorem performed_takeControl (targetWrites : Bool) :
    Performed P s c (perform s c (.takeControl targetWrites)) := by
  rw [perform]
  split
  · rename_i st control hphase _
    have hstreaming : InPhase s.log { c with phase := .streaming st } := by
      rw [InPhase, hphase] at h
      exact h
    split_ifs
    · exact Performed.quiet rfl rfl rfl rfl h
    · exact Performed.quiet rfl rfl rfl rfl hstreaming
    · exact Performed.quiet (by simp) (by simp) (by simp) rfl hstreaming
  · exact Performed.quiet rfl rfl rfl rfl h

/-- A crash refunds what was reserved. -/
theorem performed_crash (prepared : Bool) : Performed P s c (perform s c (.crash prepared)) := by
  rw [perform, crashed]
  cases hphase : c.phase with
  | preparing =>
    cases prepared with
    | true => exact Performed.failed hphase h true
    | false =>
      have hclosed := closed_of_preparing hphase h
      exact Performed.quiet rfl rfl rfl rfl hclosed
  | streaming st =>
    have hopen : outcomes s.log c.id = 0 := by
      rw [InPhase, hphase] at h
      exact h.2
    exact Performed.outcome .refunded none hphase h (by decide) (fun _ hf => by cases hf)
      (refund_log hopen) refund_same.1 refund_same.2 true
  | ended closeAfter =>
    rw [InPhase, hphase] at h
    exact Performed.quiet rfl rfl rfl rfl h

/-- A finished call frees its slot. -/
theorem performed_finish (writes : Bool) : Performed P s c (perform s c (.finish writes)) := by
  rw [perform]
  cases hphase : c.phase with
  | ended closeAfter =>
    rw [InPhase, hphase] at h
    refine ⟨by simp, ⟨[], by simp, fun _ he => absurd he not_mem_nil⟩, nofun, fun _ => ?_⟩
    exact ⟨rfl, by simpa using h⟩
  | preparing => exact Performed.quiet rfl rfl rfl rfl h
  | streaming st => exact Performed.quiet rfl rfl rfl rfl h

end

/-- The frames a step may record. -/
def WorkerStep.Takes (s : Session) (c : Call) (f : Frame) : WorkerStep → Prop
  | .takeIncoming _ _ => Handed s c f
  | _ => False

/-- **One step of a worker.** -/
theorem performed (h : InPhase s.log c) (a : WorkerStep) :
    Performed (fun f => a.Takes s c f) s c (perform s c a) := by
  cases a with
  | prepare setup => exact performed_prepare h setup
  | takeIncoming clientWrites targetWrites =>
    exact performed_takeIncoming h clientWrites targetWrites
  | takeControl targetWrites => exact performed_takeControl h targetWrites
  | timeout =>
    rw [perform]
    cases hphase : c.phase with
    | streaming st => exact Performed.settled hphase h (by rfl) (by rfl) (by rfl) true
    | preparing | ended => exact Performed.quiet rfl rfl rfl rfl h
  | notice =>
    rw [perform]
    cases hphase : c.phase with
    | streaming st =>
      split_ifs
      · exact Performed.quiet rfl rfl rfl rfl h
      · exact Performed.settled hphase h (by rfl) (by rfl) (by rfl) false
    | preparing | ended => exact Performed.quiet rfl rfl rfl rfl h
  | crash prepared => exact performed_crash h prepared
  | finish writes => exact performed_finish h writes

end

/-! ## One step of the session -/

/-- **The slot and the workers agree**, and billing follows the phases. -/
structure Consistent (s : Session) : Prop where
  slot : (s.workers = [] ∧ s.current = none) ∨ ∃ c, s.workers = [c] ∧ s.current = some c.id
  active : ∀ c ∈ s.workers, c.id < s.nextCall ∧ InPhase s.log c
  inactive : ∀ id, (∀ c ∈ s.workers, c.id ≠ id) → Closed s.log id
  fresh : ∀ e ∈ s.log, e.call < s.nextCall

/-- The call was not ended by a frame of an earlier one. -/
def EndedByOwn (s : Session) : Prop := ∀ e ∈ s.log, ∀ f ∈ e.frame, e.call ≤ f.origin

/-- What a call takes in a phase can be told apart, if it is a frame of an earlier create. -/
def Call.TellsApart (last : String) (c : Call) : Phase → Option (Incoming × ℕ) → Prop
  | .streaming st, some (.frame f, id) => id = c.id → f.origin < c.id → f.Apart last c st
  | _, _ => True

instance (last : String) (c : Call) :
    ∀ phase held, Decidable (c.TellsApart last phase held)
  | .streaming st, some (.frame f, id) =>
    inferInstanceAs (Decidable (id = c.id → f.origin < c.id → f.Apart last c st))
  | .streaming _, some (.disconnect, _) | .streaming _, none | .preparing, _ | .ended _, _ =>
    inferInstanceAs (Decidable True)

/-- A frame of an earlier create that a worker takes can be told apart. -/
def TellsApart (s : Session) : Op → Prop
  | .worker k (.takeIncoming _ _) =>
    ∀ c ∈ s.workers[k]?, c.TellsApart s.lastResponseID c.phase s.held
  | _ => True

instance (s : Session) : ∀ op, Decidable (TellsApart s op)
  | .worker k (.takeIncoming _ _) =>
    inferInstanceAs (Decidable (∀ c ∈ s.workers[k]?,
      c.TellsApart s.lastResponseID c.phase s.held))
  | .worker _ (.prepare _) | .worker _ (.takeControl _) | .worker _ .timeout
  | .worker _ .notice | .worker _ (.crash _) | .worker _ (.finish _)
  | .receive _ | .clientGone | .closeForPolicy | .closeAfter | .read _ _ | .release _ | .readerStops =>
    inferInstanceAs (Decidable True)

section

variable {s s' : Session}

theorem Consistent.of_same (h : Consistent s) (hworkers : s'.workers = s.workers)
    (hcurrent : s'.current = s.current) (hnext : s'.nextCall = s.nextCall)
    (hlog : s'.log = s.log) : Consistent s' := by
  refine ⟨?_, ?_, ?_, ?_⟩
  · rw [hworkers, hcurrent]
    exact h.slot
  · rw [hworkers, hnext, hlog]
    exact h.active
  · rw [hworkers, hlog]
    exact h.inactive
  · rw [hnext, hlog]
    exact h.fresh

/-- Nothing is recorded for a call that is still to come. -/
theorem Consistent.unrecorded (h : Consistent s) :
    reservations s.log s.nextCall = 0 ∧ outcomes s.log s.nextCall = 0 :=
  ⟨reservations_eq_zero fun e he => Nat.ne_of_lt (h.fresh e he),
    outcomes_eq_zero fun e he => Nat.ne_of_lt (h.fresh e he)⟩

/-- A new call has billed nothing. -/
theorem Consistent.create (h : Consistent s) (hfree : s.current = none)
    (streamID model : String) (parses : Bool) :
    Consistent { s with
      current := some s.nextCall
      workers := s.workers ++ [{ id := s.nextCall, streamID, model, parses }]
      nextCall := s.nextCall + 1 } := by
  have hnone : s.workers = [] := by
    rcases h.slot with ⟨hnone, -⟩ | ⟨c, -, hcurrent⟩
    · exact hnone
    · rw [hfree] at hcurrent
      cases hcurrent
  rw [hnone]
  refine ⟨inr ⟨_, rfl, rfl⟩, fun c hc => ?_, fun id hid => ?_, fun e he => ?_⟩
  · rw [mem_singleton.1 hc]
    exact ⟨lt_succ_self _, h.unrecorded⟩
  · refine h.inactive id ?_
    rw [hnone]
    nofun
  · exact lt_succ_of_lt (h.fresh e he)

theorem offerControl_same {id : ℕ} {control : Control} {c : Call} :
    (offerControl id control c).id = c.id ∧ (offerControl id control c).phase = c.phase := by
  unfold offerControl
  split_ifs
  · exact ⟨rfl, rfl⟩
  · exact ⟨rfl, rfl⟩

theorem Consistent.offer (h : Consistent s) (id : ℕ) (control : Control) :
    Consistent { s with workers := s.workers.map (offerControl id control) } := by
  refine ⟨?_, ?_, ?_, h.fresh⟩
  · rcases h.slot with ⟨hnone, hcurrent⟩ | ⟨c, hone, hcurrent⟩
    · exact inl ⟨by rw [hnone]; rfl, hcurrent⟩
    · refine inr ⟨offerControl id control c, by rw [hone]; rfl, ?_⟩
      rw [offerControl_same.1]
      exact hcurrent
  · intro d hd
    obtain ⟨c, hc, rfl⟩ := mem_map.1 hd
    rw [InPhase, offerControl_same.1, offerControl_same.2]
    exact h.active c hc
  · intro other hother
    refine h.inactive other fun c hc => ?_
    rw [← @offerControl_same id control c |>.1]
    exact hother _ (mem_map_of_mem hc)

/-- **A worker's step keeps the books.** -/
theorem Consistent.worker (h : Consistent s) (k : ℕ) (a : WorkerStep) :
    Consistent (step s (.worker k a)) := by
  rw [step]
  cases hk : s.workers[k]? with
  | none => exact h
  | some c =>
    have hone : s.workers = [c] ∧ s.current = some c.id := by
      rcases h.slot with ⟨hnone, -⟩ | ⟨d, hone, hcurrent⟩
      · rw [hnone] at hk
        cases hk
      · rw [hone] at hk
        obtain rfl := mem_singleton.1 (mem_of_getElem? hk)
        exact ⟨hone, hcurrent⟩
    have hrest : s.workers.eraseIdx k = [] := by
      rw [hone.1] at hk ⊢
      cases k with
      | zero => rfl
      | succ k => cases hk
    have hc : c ∈ s.workers := mem_of_getElem? hk
    obtain ⟨hlt, hphase⟩ := h.active c hc
    have hperformed := performed hphase a
    obtain ⟨new, hlog, hnew⟩ := hperformed.log
    have hothers : ∀ id, id ≠ c.id → Closed (perform s c a).1.log id := by
      intro id hid
      rw [hlog]
      refine (h.inactive id fun d hd => ?_).append fun e he => ?_
      · rw [hone.1] at hd
        rw [mem_singleton.1 hd]
        exact hid.symm
      · rw [(hnew e he).1]
        exact hid.symm
    have hfresh : ∀ e ∈ (perform s c a).1.log, e.call < (perform s c a).1.nextCall := by
      intro e he
      rw [hperformed.nextCall]
      rw [hlog] at he
      rcases mem_append.1 he with he | he
      · exact h.fresh e he
      · rw [(hnew e he).1]
        exact hlt
    dsimp only
    rw [hrest]
    cases hleft : (perform s c a).2 with
    | none =>
      obtain ⟨hcurrent, hclosed⟩ := hperformed.leaves hleft
      refine ⟨inl ⟨rfl, hcurrent⟩, nofun, fun id _ => ?_, hfresh⟩
      by_cases hid : id = c.id
      · rw [hid]
        exact hclosed
      · exact hothers id hid
    | some d =>
      obtain ⟨hid, hcurrent, hd⟩ := hperformed.goesOn d hleft
      refine ⟨inr ⟨d, rfl, ?_⟩, fun e he => ?_, fun id hother => ?_, hfresh⟩
      · rw [hid]
        exact hcurrent.trans hone.2
      · rw [mem_singleton.1 he, hid]
        refine ⟨?_, hd⟩
        exact hlt.trans_eq hperformed.nextCall.symm
      · refine hothers id fun heq => hother d (mem_singleton.2 rfl) ?_
        rw [hid, heq]

theorem unclaimed_same {incoming : Incoming} {clientWrites : Bool} :
    (unclaimed s incoming clientWrites).workers = s.workers ∧
      (unclaimed s incoming clientWrites).current = s.current ∧
      (unclaimed s incoming clientWrites).nextCall = s.nextCall ∧
      (unclaimed s incoming clientWrites).log = s.log := by
  unfold unclaimed
  cases incoming with
  | disconnect => exact ⟨rfl, rfl, rfl, rfl⟩
  | frame f =>
    split_ifs
    · exact ⟨rfl, rfl, rfl, rfl⟩
    · exact ⟨rfl, rfl, rfl, rfl⟩

theorem Consistent.unclaimed (h : Consistent s) {incoming : Incoming} {clientWrites : Bool} :
    Consistent (unclaimed s incoming clientWrites) := by
  obtain ⟨hworkers, hcurrent, hnext, hlog⟩ := @unclaimed_same s incoming clientWrites
  exact h.of_same hworkers hcurrent hnext hlog

/-- **Every step keeps the session consistent.** -/
theorem Consistent.step (h : Consistent s) (op : Op) : Consistent (step s op) := by
  cases op with
  | receive message =>
    cases message with
    | create streamID model parses =>
      rw [ResponsesWS.step]
      cases hcurrent : s.current with
      | some id => exact h
      | none =>
        have hnew := h.create hcurrent streamID model parses
        exact hnew
    | cancel control =>
      rw [ResponsesWS.step]
      split
      · exact h
      · exact h.offer _ control
    | other => exact h
  | clientGone => exact h.of_same rfl rfl rfl rfl
  | closeForPolicy => exact h.of_same rfl rfl rfl rfl
  | closeAfter =>
    rw [ResponsesWS.step]
    split_ifs <;> exact h.of_same rfl rfl rfl rfl
  | read incoming clientWrites =>
    rw [ResponsesWS.step]
    split_ifs
    · exact h
    · split
      · exact h.of_same rfl rfl rfl rfl
      · exact h.unclaimed
  | release clientWrites =>
    rw [ResponsesWS.step]
    cases s.held with
    | none => exact h
    | some pair =>
      dsimp only
      split_ifs
      · exact h
      · have hheld : Consistent { s with held := none } := h.of_same rfl rfl rfl rfl
        exact hheld.unclaimed
  | readerStops =>
    rw [ResponsesWS.step]
    split_ifs
    · exact h
    · exact h.of_same rfl rfl rfl rfl
  | worker k a => exact h.worker k a

/-- Only workers record anything. -/
theorem step_log {op : Op} (hop : ∀ k a, op ≠ .worker k a) : (step s op).log = s.log := by
  cases op with
  | receive message =>
    cases message with
    | create streamID model parses =>
      rw [step]
      split_ifs
      · rfl
      · rfl
    | cancel control =>
      rw [step]
      split
      · rfl
      · rfl
    | other => rfl
  | clientGone => rfl
  | closeForPolicy => rfl
  | closeAfter =>
    rw [step]
    split_ifs <;> rfl
  | read incoming clientWrites =>
    rw [step]
    split_ifs
    · rfl
    · split
      · rfl
      · exact unclaimed_same.2.2.2
  | release clientWrites =>
    rw [step]
    split
    · rfl
    · split_ifs
      · rfl
      · exact unclaimed_same.2.2.2
  | readerStops =>
    rw [step]
    split_ifs
    · rfl
    · rfl
  | worker k a => exact absurd rfl (hop k a)

/-- **A frame that can be told apart ends nothing.** -/
theorem EndedByOwn.step (h : EndedByOwn s) (hs : Consistent s) {op : Op} (hop : TellsApart s op) :
    EndedByOwn (step s op) := by
  by_cases hworker : ∀ k a, op ≠ .worker k a
  · rw [EndedByOwn, step_log hworker]
    exact h
  · push Not at hworker
    obtain ⟨k, a, rfl⟩ := hworker
    rw [ResponsesWS.step]
    cases hk : s.workers[k]? with
    | none => exact h
    | some c =>
      obtain ⟨-, hphase⟩ := hs.active c (mem_of_getElem? hk)
      obtain ⟨new, hlog, hnew⟩ := (performed hphase a).log
      intro e he f hf
      rw [hlog] at he
      rcases mem_append.1 he with he | he
      · exact h e he f hf
      · obtain ⟨hcall, htakes⟩ := hnew e he
        have hframe := htakes f hf
        rw [hcall]
        cases a with
        | takeIncoming clientWrites targetWrites =>
          obtain ⟨hheld, st, hst, hapart⟩ := hframe
          have hc := hop c hk
          rw [hst, hheld] at hc
          by_contra hlt
          exact hapart (hc rfl (Nat.lt_of_not_le hlt))
        | _ => exact absurd hframe id

theorem step_worker {c : Call} (hone : s.workers = [c]) (a : WorkerStep) :
    (step s (.worker 0 a)).workers = (perform s c a).2.toList := by
  rw [step, hone]
  rfl

theorem perform_prepare_phase (c : Call) (setup : Setup) :
    ∃ d, (perform s c (.prepare setup)).2 = some d ∧ d.phase ≠ .preparing := by
  rw [perform]
  split_ifs with hphase
  · split
    · exact ⟨_, rfl, nofun⟩
    · exact ⟨_, rfl, nofun⟩
  · exact ⟨c, rfl, hphase⟩

theorem perform_timeout_phase {c : Call} (hphase : c.phase ≠ .preparing) :
    ∃ d closeAfter, (perform s c .timeout).2 = some d ∧ d.phase = .ended closeAfter := by
  rw [perform]
  cases hc : c.phase with
  | preparing => exact absurd hc hphase
  | streaming st => exact ⟨_, true, rfl, rfl⟩
  | ended closeAfter => exact ⟨c, closeAfter, rfl, hc⟩

/-- **The idle timer ends a call**, whatever phase it is in. -/
theorem Consistent.ends (h : Consistent s) (setup : Setup) (writes : Bool) :
    (Runs.run ResponsesWS.step s [.worker 0 (.prepare setup), .worker 0 .timeout,
      .worker 0 (.finish writes)]).workers = [] := by
  rcases h.slot with ⟨hnone, -⟩ | ⟨c, hone, -⟩
  · have hstays : ∀ a, ResponsesWS.step s (.worker 0 a) = s := by
      intro a
      rw [ResponsesWS.step, hnone]
      rfl
    rw [run_cons, hstays, run_cons, hstays, run_cons, hstays]
    exact hnone
  · obtain ⟨d, hd, hprepared⟩ := @perform_prepare_phase s c setup
    rw [run_cons]
    have hone' := step_worker hone (.prepare setup)
    rw [hd] at hone'
    generalize ResponsesWS.step s (.worker 0 (.prepare setup)) = s₁ at hone' ⊢
    obtain ⟨e, closeAfter, he, hended⟩ := @perform_timeout_phase s₁ d hprepared
    rw [run_cons]
    have hone'' := step_worker hone' .timeout
    rw [he] at hone''
    generalize ResponsesWS.step s₁ (.worker 0 .timeout) = s₂ at hone'' ⊢
    rw [run_cons, run_nil, step_worker hone'', perform, hended]
    rfl

end

/-! ## Any run -/

/-- **Every create is billed once.** -/
structure BilledOnce (s : Session) : Prop where
  /-- At most one create is active. -/
  one_active : s.workers.length ≤ 1
  /-- One that is not active was settled or refunded once, if anything was reserved for it. -/
  inactive : ∀ id, (∀ c ∈ s.workers, c.id ≠ id) → Closed s.log id
  /-- One that is active was not settled or refunded, or `runCall` has returned. -/
  active : ∀ c ∈ s.workers, InPhase s.log c
  /-- It does end. -/
  ends : ∀ setup writes, (Runs.run step s [.worker 0 (.prepare setup), .worker 0 .timeout,
    .worker 0 (.finish writes)]).workers = []

theorem Consistent.billedOnce {s : Session} (h : Consistent s) : BilledOnce s := by
  refine ⟨?_, h.inactive, fun c hc => (h.active c hc).2, h.ends⟩
  rcases h.slot with ⟨hnone, -⟩ | ⟨c, hone, -⟩
  · rw [hnone]
    exact zero_le 1
  · rw [hone]
    exact Nat.le_refl 1

theorem consistent_init : Consistent {} where
  slot := inl ⟨rfl, rfl⟩
  active := nofun
  inactive _ _ := ⟨zero_le 1, rfl⟩
  fresh := nofun

/-- **The books are kept in every run.** -/
theorem consistent_run (ops : List Op) : Consistent (Runs.run step {} ops) :=
  Runs.stable (fun _ op h => h.step op) consistent_init ops

/-- **Every create of a session is billed once**, whatever the order of events; and none is ended by
a frame of an earlier one, if those can be told apart. -/
theorem creates_billed_once (ops : List Op) :
    BilledOnce (Runs.run step {} ops) ∧
      (Runs.Guarded step TellsApart {} ops → EndedByOwn (Runs.run step {} ops)) := by
  refine ⟨(consistent_run ops).billedOnce, fun hops => ?_⟩
  have hrun : Consistent (Runs.run step {} ops) ∧ EndedByOwn (Runs.run step {} ops) := by
    refine @Runs.invariant _ _ step TellsApart (fun s => Consistent s ∧ EndedByOwn s) ?_ {} ops
      ⟨consistent_init, nofun⟩ hops
    rintro s op ⟨hs, hown⟩ hop
    exact ⟨hs.step op, hown.step hs hop⟩
  exact hrun.2

/-- A create, its response, and the end of its worker. -/
def turn (id : ℕ) (response : String) : List Op :=
  [.receive (.create "" "m" true), .worker 0 (.prepare {}),
    .read (.frame { type := .completed, response := some response, origin := id }) true,
    .worker 0 (.takeIncoming true true), .worker 0 (.finish true)]

/-- A repeated terminal event for the third create of a session. -/
def repeated (response : String) (origin : ℕ) : List Op :=
  turn 0 "r0" ++ turn 1 "r1" ++ [.receive (.create "" "m" true), .worker 0 (.prepare {}),
    .read (.frame { type := .completed, response := some response, origin }) true,
    .worker 0 (.takeIncoming true true)]

/-- …as when the terminal event of the response before is repeated. -/
theorem creates_billed_once_repeated : EndedByOwn (Runs.run step {} (repeated "r1" 1)) :=
  (creates_billed_once (repeated "r1" 1)).2 (by decide +kernel)

/-- **A frame of an earlier response ends a later create**: only the response that ended last is
remembered. -/
theorem ended_by_earlier_response :
    ⟨2, .settled, some { type := .completed, response := some "r0", origin := 0 }⟩ ∈
      (Runs.run step {} (repeated "r0" 0)).log := by
  decide +kernel

/-- **A session works on one create at a time**, the one its slot names. -/
theorem one_call_at_a_time (ops : List Op) :
    let s := run step {} ops
    s.workers.length ≤ 1 ∧ s.current = s.workers.head?.map (·.id) ∧
      ∀ c ∈ s.workers, c.id < s.nextCall := by
  intro s
  have hs : Consistent s := consistent_run ops
  have hids : ∀ c ∈ s.workers, c.id < s.nextCall := fun c hc => (hs.active c hc).1
  obtain ⟨hworkers, hcurrent⟩ | ⟨c, hworkers, hcurrent⟩ := hs.slot
  · exact ⟨by simp [hworkers], by simp [hworkers, hcurrent], hids⟩
  · exact ⟨by simp [hworkers], by simp [hworkers, hcurrent], hids⟩

end ResponsesWS
