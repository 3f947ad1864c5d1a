import NewApi.Billing.Settlement
import NewApi.Task.Attempts
import NewApi.Task.Poll

/-!
# Task/Submission — a submission charges exactly what it persists

`executeTaskSubmissionWith` (`controller/relay.go`) and `RelayTaskSubmit` (`relay/relay_task.go`).
The first attempt that has to pay opens the billing session; later attempts, on other channels and
at other prices, find it open.  After the loop the reservation is raised to the final price, the row
is inserted, and the session is settled; every exit before the insert leaves the session to a
deferred `Refund`.

Between any two of these steps the session holds its reservation over what was there before the
submission (`Held`), so every exit ends it from a known balance.

* `relayTaskSubmit_held` — one attempt keeps this.
* `submission_charges_row` — the whole submission.
-/

namespace AsyncTask.Submit

open Billing (BillingSession BillingSource Calls Charged Db Holding Moved OpenCalls PendingRefund
  RefundCalls RelayInfo Reply Took taken)
open Channels (LoopConfig)

open Pricing (TaskBillingContext)

/-! ## One attempt -/

/-- What the submission reads of its request. -/
structure TaskRequest where
  userId : ℤ
  requestId : String
  isPlayground : Bool := false
  tokenId : ℤ := 0
  tokenUnlimited : Bool := false
  tokenQuota : ℤ := 0
  billingPreference : String := ""

/-- The `RelayInfo` of a task: no typed request, so never an image request.  `RelayTaskSubmit`
forces the pre-consume. -/
def TaskRequest.relayInfo (req : TaskRequest) (quotaClamped : Bool) : RelayInfo where
  userId := req.userId
  requestId := req.requestId
  isPlayground := req.isPlayground
  tokenUnlimited := req.tokenUnlimited
  tokenQuota := req.tokenQuota
  billingPreference := req.billingPreference
  quotaClamped := quotaClamped
  forcePreConsume := true

/-- A quota computed from prices and ratios, none of which is negative, and whether it had to be
clamped. -/
structure Quote where
  quota : ℤ
  nonneg : 0 ≤ quota
  clamped : Bool := false

/-- What pricing leaves in the request's `PriceData`. -/
structure AttemptPrice extends Quote where
  freeModel : Bool := false
  billingContext : TaskBillingContext := {}

/-- What the adaptor parsed from an accepted submission. -/
structure ParsedResponse where
  upstreamTaskId : String := ""
  taskData : String := ""
  pluginState : String := ""
  immediate : Option TaskInfo := none
  /-- The quota after the adjustment on submit: by the usage of an immediate success, or by the
  adaptor's ratios. -/
  adjusted : Option Quote := none

/-- What becomes of the request to the upstream. -/
inductive UpstreamReply where
  | buildError
  | requestError
  | noResponse
  | response (statusCode : ℤ) (parsed : Except TaskError (Option ParsedResponse))

/-- The reply, or the error of its stage. -/
def UpstreamReply.parse : UpstreamReply → Except TaskError ParsedResponse
  | .buildError => .error (taskErrorWrapper "build_request_failed" 500)
  | .requestError => .error (taskErrorWrapper "do_request_failed" 500)
  | .noResponse => .error (taskErrorWrapperLocal "fail_to_fetch_task" 502)
  | .response statusCode parsed =>
    if statusCode.tdiv 100 ≠ 2 then .error (taskErrorWrapper "fail_to_fetch_task" statusCode)
    else match parsed with
      | .error e => .error e
      | .ok none => .error (taskErrorWrapperLocal "plugin_submit_response_invalid" 502)
      | .ok (some p) => .ok p

/-- What one `RelayTaskSubmit` meets. -/
structure SubmitCalls where
  platform : String := ""
  /-- Validation and pricing. -/
  price : Except TaskError AttemptPrice
  opening : OpenCalls := { userQuota := none }
  upstream : UpstreamReply

/-- What an attempt that succeeds returns. -/
structure TaskSubmitResult where
  upstreamTaskId : String
  taskData : String
  platform : String
  quota : ℤ
  immediate : Option TaskInfo
  pluginState : String
  /-- From the attempt's `PriceData`. -/
  billingContext : TaskBillingContext

/-- The parts of the request's `RelayInfo` that attempts write, and the balances. -/
structure SubmitState where
  /-- `QuotaClamp != nil`. -/
  clamped : Bool := false
  billing : Option BillingSession := none
  db : Db

/-- A quota was cut to its range. -/
def SubmitState.noteTaskQuotaClamp (st : SubmitState) (clamped : Bool) : SubmitState :=
  { st with clamped := st.clamped || clamped }

/-- The code and status of a billing error. -/
def taskErrorFromAPIError : Billing.ErrorCode → TaskError
  | .insufficientUserQuota => taskErrorWrapper "insufficient_user_quota" 403
  | .preConsumeTokenQuotaFailed => taskErrorWrapper "pre_consume_token_quota_failed" 403
  | .updateDataError => taskErrorWrapper "update_data_error" 500
  | .queryDataError => taskErrorWrapper "query_data_error" 500
  | .modelPriceError => taskErrorWrapper "model_price_error" 400

/-- The pre-consume of an attempt: only while there is no session, and not for a free model. -/
def SubmitState.preConsume (req : TaskRequest) (price : AttemptPrice) (c : OpenCalls)
    (st : SubmitState) : Except TaskError Unit × SubmitState :=
  if st.billing.isNone ∧ price.freeModel = false then
    match Billing.preConsumeBilling price.quota (req.relayInfo st.clamped) c st.db with
    | (.error e, db) => (.error (taskErrorFromAPIError e), { st with db })
    | (.ok s, db) => (.ok (), { st with billing := some s, db })
  else (.ok (), st)

/-- The quota after submission; a task that failed at once is free. -/
def ParsedResponse.finalQuote (p : ParsedResponse) (price : AttemptPrice) : Quote :=
  if (p.immediate.map TaskInfo.status) = some .failure then ⟨0, le_rfl, false⟩
  else p.adjusted.getD { price.toQuote with clamped := false }

/-- One attempt. -/
def relayTaskSubmit (req : TaskRequest) (a : SubmitCalls) (st : SubmitState) :
    Except TaskError TaskSubmitResult × SubmitState :=
  match a.price with
  | .error e => (.error e, st)
  | .ok price =>
    match (st.noteTaskQuotaClamp price.clamped).preConsume req price a.opening with
    | (.error e, st) => (.error e, st)
    | (.ok _, st) =>
      match a.upstream.parse with
      | .error e => (.error e, st)
      | .ok p =>
        let final := p.finalQuote price
        (.ok {
          upstreamTaskId := p.upstreamTaskId
          taskData := p.taskData
          platform := a.platform
          quota := final.quota
          immediate := p.immediate
          pluginState := p.pluginState
          billingContext := price.billingContext }, st.noteTaskQuotaClamp final.clamped)

/-! ## The submission -/

/-- What the submission meets outside its attempts. -/
structure SubmissionCalls where
  /-- The request's context is done at the start, before the reservation is raised, before the
  insert. -/
  cancelledAtStart : Bool := false
  cancelledBeforeReserve : Bool := false
  cancelledBeforeInsert : Bool := false
  reserve : Calls := {}
  insert : Reply := .ok
  settle : Calls := {}
  /-- The columns `InitTask` fills from the request and the channel. -/
  init : Task := { id := 0 }
  env : PollEnv := {}

/-- The state of the submission: the task table, and whether its row is in it. -/
structure Submission extends SubmitState where
  rows : List Task
  durable : Bool := false

/-- The row that is inserted. -/
def newTask (req : TaskRequest) (calls : SubmissionCalls) (r : TaskSubmitResult)
    (billing : Option BillingSession) : Task :=
  Task.submitted calls.env r.immediate { calls.init with
    platform := r.platform
    quota := r.quota
    data := r.taskData
    privateData := { calls.init.privateData with
      upstreamTaskId := r.upstreamTaskId
      billingSource := billing.map (·.funding.source)
      subscriptionId := (billing.map (·.relayInfo.subscriptionId)).getD 0
      tokenId := req.tokenId
      billingContext := some r.billingContext
      pluginState := if r.pluginState ≠ "" then r.pluginState
        else calls.init.privateData.pluginState } }

namespace Submission

variable (w : Submission)

/-- `relayInfo.Billing.Reserve(result.Quota)`, if there is a session. -/
def reserve (quota : ℤ) (c : Calls) : Except TaskError Unit × Submission :=
  match w.billing with
  | none => (.ok (), w)
  | some s =>
    let out := s.reserve quota c w.db
    (out.1.mapError fun _ => taskErrorWrapperLocal "insufficient_user_quota" 403,
      { w with billing := some out.2.1, db := out.2.2 })

/-- The session is settled at the final quota. -/
def settle (req : TaskRequest) (quota : ℤ) (c : Calls) : Except TaskError Unit × Submission :=
  let out := Billing.settleBilling (req.relayInfo w.clamped) w.billing quota c w.db
  (out.1.mapError fun _ => taskErrorWrapperLocal "task_billing_settlement_failed" 500,
    { w with billing := out.2.1, db := out.2.2 })

/-- The row is inserted. -/
def insert (task : Task) : Submission := { w with rows := w.rows ++ [task], durable := true }

end Submission

/-- From the result of the loop to the end. -/
def persistTask (req : TaskRequest) (calls : SubmissionCalls) (r : TaskSubmitResult)
    (w : Submission) : Except TaskError Task × Submission :=
  if calls.cancelledBeforeReserve then (.error requestCancelled, w)
  else match w.reserve r.quota calls.reserve with
    | (.error e, w) => (.error e, w)
    | (.ok _, w) =>
      if calls.cancelledBeforeInsert then (.error requestCancelled, w)
      else if calls.insert = .err then (.error (taskErrorWrapperLocal "task_insert_failed" 500), w)
      else
        let task := newTask req calls r w.billing
        let out := (w.insert task).settle req r.quota calls.settle
        (out.1.map fun _ => task, out.2)

/-- The body of `executeTaskSubmissionWith`, up to its deferred function. -/
def submissionBody (cfg : LoopConfig) (attempts : ℕ → Attempt)
    (submit : ℕ → SubmitState → Except TaskError TaskSubmitResult × SubmitState)
    (req : TaskRequest) (calls : SubmissionCalls) (rows : List Task) (db : Db) :
    Except TaskError Task × Submission :=
  if calls.cancelledAtStart then (.error requestCancelled, { rows, db })
  else match submitLoop cfg attempts submit { db } with
    | (.error e, st) => (.error e, { st with rows })
    | (.ok none, st) => (.error (taskErrorWrapperLocal "task_submit_failed" 500), { st with rows })
    | (.ok (some r), st) => persistTask req calls r { st with rows }

/-- The deferred function: a session that is not backed by a row is refunded. -/
def Submission.deferred (w : Submission) : Submission × Option PendingRefund :=
  match w.billing with
  | none => (w, none)
  | some s =>
    if w.durable then (w, none)
    else ({ w with billing := some s.refund.1 }, s.refund.2)

/-- The attempts, the insert and the settlement or refund. -/
def executeTaskSubmissionWith (cfg : LoopConfig) (attempts : ℕ → Attempt)
    (submit : ℕ → SubmitState → Except TaskError TaskSubmitResult × SubmitState)
    (req : TaskRequest) (calls : SubmissionCalls) (rows : List Task) (db : Db) :
    Except TaskError Task × Submission × Option PendingRefund :=
  let out := submissionBody cfg attempts submit req calls rows db
  (out.1, out.2.deferred)

/-- `executeTaskSubmission`, until its refund's goroutine, if there is one, has run. -/
def executeTaskSubmission (cfg : LoopConfig) (attempts : ℕ → Attempt) (submits : ℕ → SubmitCalls)
    (req : TaskRequest) (calls : SubmissionCalls) (refund : RefundCalls) (rows : List Task)
    (db : Db) : Submission :=
  let out := executeTaskSubmissionWith cfg attempts (fun n => relayTaskSubmit req (submits n)) req
    calls rows db
  { out.2.1 with db := Billing.runPending out.2.2 refund out.2.1.db }

/-! ## Between two steps -/

/-- A submission that began with `db₀`, between two of its steps: nothing is taken yet, or the
session holds its reservation, or a call has failed. -/
inductive Held (req : TaskRequest) (db₀ : Db) : Option BillingSession → Db → Prop where
  | unpaid {db : Db} (moved : Moved 0 0 db₀ db) : Held req db₀ none db
  | paid {s : BillingSession} {db : Db} (holds : Holding (s.baseline db₀) s db)
      (play : s.relayInfo.isPlayground = req.isPlayground)
      (image : s.relayInfo.isImageRequest = false) (trusted : s.trusted = false) :
      Held req db₀ (some s) db
  | failed {billing : Option BillingSession} {db : Db} (failed : db.failed = true) :
      Held req db₀ billing db

/-- What the funding source has given in all since `db₀`.  Without a session that is the wallet. -/
def fundingTaken (db₀ : Db) (billing : Option BillingSession) (db : Db) : ℤ :=
  match billing with
  | some s => taken s.funding db - (s.baseline db₀).funding
  | none => db₀.wallet.balance - db.wallet.balance

/-- Since `db₀`, the funding source has given `n` in all, and so has the token, unless the request
comes from the playground and has none. -/
structure NetTaken (req : TaskRequest) (db₀ : Db) (n : ℤ) (billing : Option BillingSession)
    (db : Db) : Prop where
  funding : fundingTaken db₀ billing db = n
  token : req.isPlayground = false → db₀.token.balance - db.token.balance = n

variable {req : TaskRequest} {db₀ db : Db} {billing : Option BillingSession}

theorem NetTaken.of_charged {s s' : BillingSession} {n : ℤ}
    (h : Charged (s.baseline db₀) n s' db) (hbase : s'.baseline db₀ = s.baseline db₀)
    (hplay : s.relayInfo.isPlayground = req.isPlayground) : NetTaken req db₀ n (some s') db where
  funding := by rw [fundingTaken, hbase, h.funding, add_sub_cancel_left]
  token hp := by rw [h.token (hplay.trans hp)]; exact sub_sub_cancel _ n

/-- A request without a session is charged outright. -/
theorem NetTaken.of_took {db' : Db} {n : ℤ} {clamped : Bool} (moved : Moved 0 0 db₀ db)
    (took : Took (.wallet {}) n ((req.relayInfo clamped).tokenPart n) db db') :
    NetTaken req db₀ n none db' where
  funding := by
    have hfund := took.funding
    simp only [taken, moved.wallet] at hfund
    simp only [fundingTaken]
    omega
  token hp := by
    have htok := took.token
    rw [moved.token, Billing.RelayInfo.tokenPart, if_neg (by simp [TaskRequest.relayInfo, hp])] at htok
    omega

/-! ## One attempt -/

section

variable (hfresh : db₀.store.records req.requestId = none)
  (hrows : ∀ i sub, db₀.store.sub? i = some sub → sub.Valid)

include hfresh hrows

/-- **The pre-consume of an attempt**: it opens the session over what was there at the start, or
takes nothing. -/
theorem Held.preConsume {st : SubmitState} (h : Held req db₀ st.billing st.db)
    (price : AttemptPrice) (c : OpenCalls) :
    Held req db₀ (st.preConsume req price c).2.billing (st.preConsume req price c).2.db := by
  unfold SubmitState.preConsume
  split
  case isFalse => exact h
  case isTrue hnew =>
  have hlate (hf : st.db.failed = true) :=
    Billing.preConsumeBilling_failed hf price.quota (req.relayInfo st.clamped) c
  rw [Option.isNone_iff_eq_none.mp hnew.1] at h
  split
  · next e db' hpre =>
    rw [hpre] at hlate
    cases h with
    | unpaid moved =>
      rw [Option.isNone_iff_eq_none.mp hnew.1]
      rcases Billing.preConsumeBilling_error hpre with hm | hfail
      · exact .unpaid (moved.trans hm)
      · exact .failed hfail
    | failed failed => exact .failed (hlate failed)
  · next s db' hpre =>
    rw [hpre] at hlate
    by_cases hfail : db'.failed = true
    · exact .failed hfail
    cases h with
    | unpaid moved =>
      obtain ⟨holds, opened⟩ := Billing.preConsumeBilling_holding
        (by rw [moved.store]; exact hfresh) (by rw [moved.store]; exact hrows) hpre
        (eq_false_of_ne_true hfail)
      rw [s.baseline_of_moved moved] at holds
      exact .paid holds opened.play opened.image (opened.trusted rfl)
    | failed failed => exact .failed (hlate failed)

/-- **One attempt keeps the submission's books**, and the price it returns is not negative. -/
theorem relayTaskSubmit_held (a : SubmitCalls) (st : SubmitState)
    (h : Held req db₀ st.billing st.db) :
    Held req db₀ (relayTaskSubmit req a st).2.billing (relayTaskSubmit req a st).2.db ∧
      ∀ r, (relayTaskSubmit req a st).1 = .ok r → 0 ≤ r.quota := by
  unfold relayTaskSubmit
  split
  · exact ⟨h, fun r hr => by cases hr⟩
  next price _ =>
  have hpre := Held.preConsume hfresh hrows
    (show Held req db₀ (st.noteTaskQuotaClamp price.clamped).billing _ from h) price a.opening
  split
  · next hout => rw [hout] at hpre; exact ⟨hpre, fun r hr => by cases hr⟩
  next hout =>
  rw [hout] at hpre
  split
  · exact ⟨hpre, fun r hr => by cases hr⟩
  · next p _ =>
    refine ⟨hpre, fun r hr => ?_⟩
    rw [← Except.ok.inj hr]
    exact (p.finalQuote price).nonneg

end

/-! ## After the loop -/

/-- The reservation covers the final price. -/
def Covered (quota : ℤ) (billing : Option BillingSession) : Prop :=
  ∀ s ∈ billing, quota ≤ s.preConsumedQuota

variable {w : Submission}

section

variable (h : Held req db₀ w.billing w.db)

include h

theorem Held.reserve (quota : ℤ) (c : Calls) :
    Held req db₀ (w.reserve quota c).2.billing (w.reserve quota c).2.db ∧
      (w.reserve quota c).2.rows = w.rows ∧ (w.reserve quota c).2.durable = w.durable := by
  unfold Submission.reserve
  split
  · exact ⟨h, rfl, rfl⟩
  next s hs =>
  refine ⟨?_, rfl, rfl⟩
  rw [hs] at h
  cases h with
  | paid holds play image trusted =>
    by_cases hfail : (s.reserve quota c w.db).2.2.failed = true
    · exact .failed hfail
    have hout := s.reserve_outcome quota c holds.backed
    have hbase := hout.baseline db₀
    have hplain := hout.plain trusted
    refine .paid ?_ ((congrArg Billing.Baseline.playground hbase).trans play)
      (hplain.1.trans image) hplain.2
    rw [hbase]
    exact holds.reserve image quota c (eq_false_of_ne_true hfail)
  | failed failed => exact .failed (Billing.BillingSession.reserve_failed failed s quota c)

theorem Held.reserve_covered {quota : ℤ} {c : Calls} {u : Unit}
    (hok : (w.reserve quota c).1 = .ok u) (hclean : (w.reserve quota c).2.db.failed = false) :
    Covered quota (w.reserve quota c).2.billing := by
  unfold Submission.reserve at hok hclean ⊢
  cases hb : w.billing with
  | none => simp [Covered, hb]
  | some s =>
    simp only [hb] at h hok hclean ⊢
    have hres : (s.reserve quota c w.db).1 = .ok () := by
      cases hres : (s.reserve quota c w.db).1 with
      | ok u => rfl
      | error e => rw [hres] at hok; cases hok
    cases h with
    | paid holds play image trusted =>
      have hle := BillingSession.reserve_covers holds.settled holds.refunded trusted hres
      simpa [Covered] using hle
    | failed failed =>
      rw [Billing.BillingSession.reserve_failed failed s quota c] at hclean
      cases hclean

/-- **Settling at a covered price** takes that price in all. -/
theorem Held.settle {quota : ℤ} (hq : 0 ≤ quota)
    (hcover : w.db.failed = false → Covered quota w.billing) (c : Calls) :
    (w.settle req quota c).2.db.failed = true ∨
      NetTaken req db₀ quota (w.settle req quota c).2.billing (w.settle req quota c).2.db := by
  unfold Submission.settle
  dsimp only
  by_cases hlate : (Billing.settleBilling (req.relayInfo w.clamped) w.billing quota c
    w.db).2.2.failed = true
  · exact .inl hlate
  have hclean := eq_false_of_ne_true hlate
  have hstart : w.db.failed = false := eq_false_of_ne_true fun hf =>
    hlate (Billing.settleBilling_failed hf _ _ _ _)
  refine .inr ?_
  replace hcover := hcover hstart
  cases hb : w.billing with
  | none =>
    rw [hb] at h hclean
    obtain ⟨hnone, took⟩ := Billing.settleBilling_none rfl rfl quota c hclean
    rw [hnone]
    cases h with
    | unpaid moved => exact .of_took moved took
    | failed failed => rw [failed] at hstart; cases hstart
  | some s =>
    rw [hb] at h hclean hcover
    cases h with
    | paid holds play image trusted =>
      obtain ⟨hfund, hplay⟩ := s.settle_funding quota c w.db
      have hcharged := holds.settle_covered hq (hcover s rfl) c hclean
      exact .of_charged hcharged (BillingSession.baseline_congr hplay hfund db₀) play
    | failed failed => rw [failed] at hstart; cases hstart

end

/-! ## The end of a submission -/

/-- How the body of a submission ends: without a row, the session still holding its reservation; or
with one row, at whose quota it was settled. -/
inductive Ended (req : TaskRequest) (db₀ : Db) (rows : List Task) (w : Submission) : Prop where
  | undone (durable : w.durable = false) (same : w.rows = rows)
      (held : Held req db₀ w.billing w.db)
  | done (task : Task) (durable : w.durable = true) (inserted : w.rows = rows ++ [task])
      (net : w.db.failed = true ∨ NetTaken req db₀ task.quota w.billing w.db)

@[simp] theorem newTask_quota (calls : SubmissionCalls) (r : TaskSubmitResult) :
    (newTask req calls r billing).quota = r.quota := by
  unfold newTask Task.submitted
  dsimp only
  split <;> rfl

theorem persistTask_ended (h : Held req db₀ w.billing w.db) (hdurable : w.durable = false)
    (calls : SubmissionCalls) {r : TaskSubmitResult} (hq : 0 ≤ r.quota) :
    Ended req db₀ w.rows (persistTask req calls r w).2 := by
  unfold persistTask
  split
  · exact .undone hdurable rfl h
  obtain ⟨hheld, hrows, hdur⟩ := h.reserve r.quota calls.reserve
  have hcover (u : Unit) (hok : (w.reserve r.quota calls.reserve).1 = .ok u)
      (hclean : (w.reserve r.quota calls.reserve).2.db.failed = false) :
      Covered r.quota (w.reserve r.quota calls.reserve).2.billing := h.reserve_covered hok hclean
  generalize w.reserve r.quota calls.reserve = out at hheld hrows hdur hcover
  obtain ⟨reply, w'⟩ := out
  cases reply with
  | error e => exact .undone (hdur.trans hdurable) hrows hheld
  | ok u =>
    dsimp only at hheld hrows hdur hcover ⊢
    split
    · exact .undone (hdur.trans hdurable) hrows hheld
    split
    · exact .undone (hdur.trans hdurable) hrows hheld
    · refine .done (newTask req calls r w'.billing) rfl ?_ ?_
      · change w'.rows ++ _ = _
        rw [hrows]
      · rw [newTask_quota]
        exact Held.settle (w := w'.insert (newTask req calls r w'.billing)) hheld hq
          (hcover u rfl) calls.settle

/-- **The body, for any attempt** that keeps the books and returns prices that are not negative. -/
theorem submissionBody_ended {cfg : LoopConfig} {attempts : ℕ → Attempt}
    {submit : ℕ → SubmitState → Except TaskError TaskSubmitResult × SubmitState}
    (hsubmit : ∀ n st, Held req db₀ st.billing st.db →
      Held req db₀ (submit n st).2.billing (submit n st).2.db ∧
        ∀ r, (submit n st).1 = .ok r → 0 ≤ r.quota) (calls : SubmissionCalls) (rows : List Task) :
    Ended req db₀ rows (submissionBody cfg attempts submit req calls rows db₀).2 := by
  have hstart : Held req db₀ none db₀ := .unpaid (.refl db₀)
  unfold submissionBody
  split
  · exact .undone rfl rfl hstart
  have hloop : Held req db₀ (submitLoop cfg attempts submit { db := db₀ }).2.billing
        (submitLoop cfg attempts submit { db := db₀ }).2.db ∧
      ∀ r, (submitLoop cfg attempts submit { db := db₀ }).1 = .ok (some r) → 0 ≤ r.quota :=
    submitLoop_invariant (I := fun st : SubmitState => Held req db₀ st.billing st.db)
      (Q := fun (r : TaskSubmitResult) _ => 0 ≤ r.quota) hsubmit hstart
  generalize submitLoop cfg attempts submit { db := db₀ } = out at hloop
  obtain ⟨hheld, hquota⟩ := hloop
  obtain ⟨e | _ | r, st⟩ := out
  · exact .undone rfl rfl hheld
  · exact .undone rfl rfl hheld
  · exact persistTask_ended (w := { st with rows }) hheld rfl calls (hquota r rfl)

/-- Nothing is taken by a submission that ends without a row. -/
theorem Held.deferred (h : Held req db₀ w.billing w.db) (hdurable : w.durable = false)
    (c : RefundCalls) (hok : (Billing.runPending w.deferred.2 c w.deferred.1.db).failed = false) :
    NetTaken req db₀ 0 w.deferred.1.billing
      (Billing.runPending w.deferred.2 c w.deferred.1.db) := by
  unfold Submission.deferred at hok ⊢
  cases hb : w.billing with
  | none =>
    simp only [hb, Billing.runPending] at h hok ⊢
    cases h with
    | unpaid moved =>
      exact ⟨by simp [fundingTaken, moved.wallet], fun _ => by simp [moved.token]⟩
    | failed failed => rw [failed] at hok; cases hok
  | some s =>
    simp only [hb, hdurable, Bool.false_eq_true, if_false] at h hok ⊢
    cases h with
    | paid holds play image trusted =>
      obtain ⟨hfund, hplay⟩ := s.refund_funding
      exact .of_charged (holds.refund_charged c hok)
        (BillingSession.baseline_congr hplay hfund db₀) play
    | failed failed =>
      rw [Billing.runPending_failed failed] at hok
      cases hok

/-- **The deferred function** settles the account: what is taken is the quota of the row. -/
theorem Ended.deferred {rows : List Task} (h : Ended req db₀ rows w) (c : RefundCalls)
    (hok : (Billing.runPending w.deferred.2 c w.deferred.1.db).failed = false) :
    ∃ inserted, w.deferred.1.rows = rows ++ inserted ∧ inserted.length ≤ 1 ∧
      NetTaken req db₀ (inserted.map Task.quota).sum w.deferred.1.billing
        (Billing.runPending w.deferred.2 c w.deferred.1.db) := by
  cases h with
  | undone durable same held =>
    refine ⟨[], ?_, Nat.zero_le 1, held.deferred durable c hok⟩
    rw [List.append_nil, ← same]
    unfold Submission.deferred
    split
    · rfl
    · rw [if_neg (by simp [durable])]
  | done task durable inserted net =>
    have hkeep : w.deferred = (w, none) := by
      unfold Submission.deferred
      split
      · rfl
      · rw [if_pos durable]
    rw [hkeep] at hok ⊢
    refine ⟨[task], inserted, le_rfl, ?_⟩
    rw [List.map_singleton, List.sum_singleton]
    exact net.resolve_left fun hf => by rw [Billing.runPending, hf] at hok; cases hok

/-- **A submission charges exactly what it persists.**  However its attempts end, wherever the
request's context is cancelled, whatever the price is adjusted to and whether or not the insert
succeeds: if no billing call fails, then once the refund has run at most one row was inserted, and
the funding source and the token have given its quota in all, or nothing if there is no row. -/
theorem submission_charges_row (cfg : LoopConfig) (attempts : ℕ → Attempt)
    (submits : ℕ → SubmitCalls) (req : TaskRequest) (calls : SubmissionCalls) (refund : RefundCalls)
    (rows : List Task) (db : Db) (hfresh : db.store.records req.requestId = none)
    (hrows : ∀ i sub, db.store.sub? i = some sub → sub.Valid)
    (hok : (executeTaskSubmission cfg attempts submits req calls refund rows db).db.failed
      = false) :
    let out := executeTaskSubmission cfg attempts submits req calls refund rows db
    ∃ inserted, out.rows = rows ++ inserted ∧ inserted.length ≤ 1 ∧
      NetTaken req db (inserted.map Task.quota).sum out.billing out.db :=
  (submissionBody_ended (fun n => relayTaskSubmit_held hfresh hrows (submits n)) calls
    rows).deferred refund hok

/-- The first channel fails, at a price of 100; the second accepts, at 150, and asks for 200 in the
end. -/
def raisedOnRetry (n : ℕ) : SubmitCalls where
  price := .ok { quota := if n = 0 then 100 else 150, nonneg := by split <;> decide }
  opening := { userQuota := some 1000 }
  upstream := if n = 0 then .requestError
    else .response 200 (.ok (some { adjusted := some ⟨200, by decide, false⟩ }))

/-- A request for a video. -/
def videoRequest : TaskRequest where
  userId := 1
  requestId := "video"
  billingPreference := "wallet_only"

theorem submission_charges_row_retried :
    let out := executeTaskSubmission { retryTimes := 1 } (fun _ => {}) raisedOnRetry videoRequest {} {}
      [] Billing.imageDb
    out.db.failed = false ∧ out.rows.map Task.quota = [200] ∧
      ∃ inserted, out.rows = [] ++ inserted ∧ inserted.length ≤ 1 ∧
        NetTaken videoRequest Billing.imageDb (inserted.map Task.quota).sum out.billing out.db :=
  ⟨by decide, by decide, submission_charges_row { retryTimes := 1 } (fun _ => {}) raisedOnRetry
    videoRequest {} {} [] Billing.imageDb (by decide) (fun i sub h => by
      obtain ⟨hm, -⟩ := Table.find?_eq_some_iff.mp h
      obtain rfl : sub = Subscription.openSub := by
        simpa [Billing.imageDb, Subscription.openStore] using hm
      exact ⟨by decide, by decide, by decide⟩) (by decide)⟩

end AsyncTask.Submit
