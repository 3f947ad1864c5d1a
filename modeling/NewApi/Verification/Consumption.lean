import NewApi.Verification.Proof

/-!
# Verification/Consumption — operation proofs are bound and single-use

The claims bind a proof to an identity and to the normal form of an operation; the flow row lets one
transaction consume it; and the rows of the user and the session only ever move on, so that what the
transaction validates was already so when it consumed the flow (`atVersions_consumed`).  Every step
of a call keeps this, and what the other calls rely on (`stepOk_proofAct`).
-/

namespace Verification

open List Option Table ProofNext

open Session (UserSession SessionStatus unix nanos)

/-! ## Rows move on -/

/-- A session row and a later state of it. -/
structure RowLe (r r' : UserSession Unit) : Prop where
  user : r'.userId = r.userId
  version : r.version ≤ r'.version
  authVersion : r.userAuthVersion ≤ r'.userAuthVersion
  expires : r'.expiresAt = r.expiresAt
  active : r'.status = .active → r.status = .active ∧ r.revokedAt = r'.revokedAt

theorem RowLe.refl (r : UserSession Unit) : RowLe r r :=
  ⟨rfl, le_refl _, le_refl _, rfl, fun h => ⟨h, rfl⟩⟩

theorem RowLe.trans {r r' r'' : UserSession Unit} (h : RowLe r r') (h' : RowLe r' r'') :
    RowLe r r'' where
  user := h'.user.trans h.user
  version := h.version.trans h'.version
  authVersion := h.authVersion.trans h'.authVersion
  expires := h'.expires.trans h.expires
  active := fun hactive => by
    obtain ⟨hactive', heq'⟩ := h'.active hactive
    obtain ⟨hactive, heq⟩ := h.active hactive'
    exact ⟨hactive, heq.trans heq'⟩

theorem rowLe_revokeRow (now : ℤ) (reason : String) (r : UserSession Unit) :
    RowLe r (revokeRow now reason r) := ⟨rfl, le_refl _, le_refl _, rfl, nofun⟩

theorem rowLe_advanceRow (userAuthVersion now : ℤ) (r : UserSession Unit) :
    RowLe r (advanceRow userAuthVersion now r) := by
  unfold advanceRow
  split_ifs with h
  · exact RowLe.refl r
  · exact ⟨rfl, Int.le_add_one (le_refl _), (not_le.mp (not_or.mp h).2).le, rfl,
      fun hactive => ⟨hactive, rfl⟩⟩

section

variable {T R D : Type}

/-- A later state: time has passed, rows have moved on and nothing issued is forgotten. -/
structure Evolves (s s' : ProofState T R D) : Prop where
  clock : s.clock ≤ s'.clock
  users : ∀ id user, s.users id = some user →
    ∃ user', s'.users id = some user' ∧ user.authVersion ≤ user'.authVersion
  sessions : ∀ sid r, s.sessions sid = some r → ∃ r', s'.sessions sid = some r' ∧ RowLe r r'
  issued : ∀ i ∈ s.issued, i ∈ s'.issued

variable {s' s : ProofState T R D}

/-- A step that leaves the clock and the rows alone. -/
theorem Evolves.of_eq (hclock : s'.clock = s.clock) (husers : s'.users = s.users)
    (hsessions : s'.sessions = s.sessions) (hissued : ∀ i ∈ s.issued, i ∈ s'.issued) :
    Evolves s s' where
  clock := hclock.ge
  users := fun id user h => ⟨user, by rw [husers, h], le_refl _⟩
  sessions := fun sid r h => ⟨r, by rw [hsessions, h], RowLe.refl r⟩
  issued := hissued

theorem reached_evolves {identity : AuthIdentity} (h : reached s identity) (he : Evolves s s') :
    reached s' identity := by
  obtain ⟨⟨user, huser, hle⟩, session, hsession, hid, hversion, hauth⟩ := h
  obtain ⟨user', huser', hle'⟩ := he.users _ _ huser
  obtain ⟨r', hr', hrow⟩ := he.sessions _ _ hsession
  exact ⟨⟨user', huser', hle.trans hle'⟩, r', hr', hrow.user.trans hid,
    hversion.trans hrow.version, hauth.trans hrow.authVersion⟩

/-! ## What each call knows -/

/-- The token a transaction is consuming. -/
def ProofTask.holds : ProofTask T R D → Option T
  | .recheck v _ _ | .validate v _ | .commit v _ => some v.claims.id
  | _ => none

/-- The identity whose rows a transaction holds. -/
def ProofTask.locks : ProofTask T R D → Option AuthIdentity
  | .commit v _ => some v.identity
  | _ => none

/-- Two transactions consume different flows and hold different rows. -/
structure Apart (t u : ProofTask T R D) : Prop where
  holds : ∀ x ∈ t.holds, x ∉ u.holds
  locks : ∀ i ∈ t.locks, ∀ j ∈ u.locks, i.userId ≠ j.userId ∧ i.sessionId ≠ j.sessionId

variable {t u : ProofTask T R D}

theorem Apart.symm (h : Apart t u) : Apart u t :=
  ⟨fun x hx hx' => h.holds x hx' hx, fun i hi j hj =>
    ⟨(h.locks j hj i hi).1.symm, (h.locks j hj i hi).2.symm⟩⟩

theorem apart_of_none (hholds : u.holds = none) (hlocks : u.locks = none) :
    Apart t u where
  holds := fun x _ hx => by rw [hholds] at hx; cases hx
  locks := fun i _ j hj => by rw [hlocks] at hj; cases hj

section

variable (env : Surroundings) (s : ProofState T R D)

/-- A proof was issued with these claims, to this identity and for this operation. -/
def IssuedFor (claims : AuthClaims T D) (identity : AuthIdentity)
    (operation : VerificationOperation) : Prop :=
  ∃ i ∈ s.issued, i.claims = claims ∧ i.identity = identity ∧
    normalForm env i.operation = normalForm env operation

/-- The proof was issued for what it is used for. -/
def VerifiedOk (v : Verified T D) : Prop := IssuedFor env s v.claims v.identity v.operation

/-- The rows were at least at the identity's versions, and have moved on since. -/
def SnapshotOk (identity : AuthIdentity) (snapshot : Snapshot) : Prop :=
  snapshot.clock ≤ s.clock ∧
    (∃ user user', snapshot.user = some user ∧ s.users identity.userId = some user' ∧
      identity.userAuthVersion ≤ user.authVersion ∧ user.authVersion ≤ user'.authVersion) ∧
    ∃ r r', snapshot.session = some r ∧ s.sessions identity.sessionId = some r' ∧
      identity.sessionVersion ≤ r.version ∧ identity.userAuthVersion ≤ r.userAuthVersion ∧
      RowLe r r'

/-- The session is active, for the user and at the versions of the identity. -/
def AtVersions (identity : AuthIdentity) (snapshot : Snapshot) : Prop :=
  (∃ user ∈ snapshot.user, user.authVersion = identity.userAuthVersion) ∧
    ∃ r ∈ snapshot.session, r.userId = identity.userId ∧ r.status = .active ∧ r.revokedAt = 0 ∧
      r.userAuthVersion = identity.userAuthVersion ∧ r.version = identity.sessionVersion

/-- …and has not expired. -/
def Live (snapshot : Snapshot) : Prop :=
  ∃ r ∈ snapshot.session, unix snapshot.clock < r.expiresAt

/-- An accepted proof was issued for what it was accepted for, and consumed in time. -/
structure AcceptedOk (a : Acceptance T D) : Prop where
  issued : ∃ claims, claims.id = a.id ∧ IssuedFor env s claims a.identity a.operation ∧
    a.consumed.clock < nanos claims.expiresAt
  consumed : AtVersions a.identity a.consumed
  live : Live a.consumed
  committed : AtVersions a.identity a.committed

variable {env s} {s' : ProofState T R D}

theorem VerifiedOk.evolves {v : Verified T D} (h : VerifiedOk env s v) (he : Evolves s s') :
    VerifiedOk env s' v := by
  obtain ⟨i, hi, hclaims⟩ := h
  exact ⟨i, he.issued i hi, hclaims⟩

variable {identity : AuthIdentity}

theorem SnapshotOk.evolves {snapshot : Snapshot} (h : SnapshotOk s identity snapshot)
    (he : Evolves s s') : SnapshotOk s' identity snapshot := by
  obtain ⟨hclock, ⟨user, user', huser, huser', hle, hle'⟩,
    r, r', hr, hr', hversion, hauth, hrow⟩ := h
  obtain ⟨user'', huser'', hle''⟩ := he.users _ _ huser'
  obtain ⟨r'', hr'', hrow'⟩ := he.sessions _ _ hr'
  exact ⟨hclock.trans he.clock, ⟨user, user'', huser, huser'', hle, hle'.trans hle''⟩,
    r, r'', hr, hr'', hversion, hauth, hrow.trans hrow'⟩

/-- The rows a proof was issued for, at a later moment. -/
theorem snapshotOk_of_reached (h : reached s identity) :
    SnapshotOk s identity (s.snapshot identity) := by
  obtain ⟨⟨user, huser, hle⟩, r, hr, -, hversion, hauth⟩ := h
  exact ⟨le_refl _, ⟨user, user, huser, huser, hle, le_refl _⟩,
    r, r, hr, hr, hversion, hauth, RowLe.refl r⟩

theorem AcceptedOk.evolves {a : Acceptance T D} (h : AcceptedOk env s a) (he : Evolves s s') :
    AcceptedOk env s' a := by
  obtain ⟨⟨claims, hid, ⟨i, hi, hfor⟩, hclock⟩, hconsumed, hlive, hcommitted⟩ := h
  exact ⟨⟨claims, hid, ⟨i, he.issued i hi, hfor⟩, hclock⟩, hconsumed, hlive, hcommitted⟩

end

section

variable (env : Surroundings) (keys : ProofKeys T R D) [DecidableEq D] (s : ProofState T R D)

/-- The flow of a token that a transaction is consuming. -/
def Held (x : T) : Prop :=
  ∃ flow, s.flows.find? (keys.authFlowTokenHash x) = some flow ∧ flow.claimed = true ∧
    flow.consumedAt ≠ none

/-- The assertion at each point of a call. -/
def ProofOk : ProofTask T R D → Prop
  | .validateLogin .. | .parse .. => True
  | .requireMethod identity _ _ | .issueNow identity _ _ | .createFlow identity _ _ _ =>
    reached s identity
  | .checkLogin v | .checkMethod v | .claimNow v | .claim v _ => VerifiedOk env s v
  | .recheck v consumed expiresAt =>
    VerifiedOk env s v ∧ Held keys s v.claims.id ∧ SnapshotOk s v.identity consumed ∧
      expiresAt = nanos v.claims.expiresAt
  | .validate v consumed =>
    VerifiedOk env s v ∧ Held keys s v.claims.id ∧ SnapshotOk s v.identity consumed ∧
      consumed.clock < nanos v.claims.expiresAt
  | .commit v consumed =>
    (VerifiedOk env s v ∧ Held keys s v.claims.id ∧ consumed.clock < nanos v.claims.expiresAt ∧
      AtVersions v.identity consumed ∧ Live consumed) ∧
      AtVersions v.identity (s.snapshot v.identity) ∧ v.identity.userId ∈ s.lockedUsers ∧
      v.identity.sessionId ∈ s.lockedSessions

/-- The claims say whom and what the proof was issued for. -/
def ClaimsMatch (i : Issuance T R D) : Prop :=
  i.claims.userId = i.identity.userId ∧ i.claims.sessionId = i.identity.sessionId ∧
    i.claims.userAuthVersion = i.identity.userAuthVersion ∧
    i.claims.sessionVersion = i.identity.sessionVersion ∧
    ∃ normal, normalForm env i.operation = .ok normal ∧
      i.claims.contextHash = keys.contextHash normal

/-- The state between two steps. -/
structure ProofStateOk (s : ProofState T R D) : Prop where
  flows : ∀ i ∈ s.issued, ∃ flow,
    s.flows.find? (keys.authFlowTokenHash i.claims.id) = some flow ∧
      flow.expiresAt = nanos i.claims.expiresAt
  claims : ∀ i ∈ s.issued, ClaimsMatch env keys i
  reached : ∀ i ∈ s.issued, reached s i.identity
  unique : (s.issued.map (·.claims.id)).Nodup
  once : (s.accepted.map (·.id)).Nodup
  spent : ∀ a ∈ s.accepted, ∃ flow,
    s.flows.find? (keys.authFlowTokenHash a.id) = some flow ∧ flow.consumedAt ≠ none ∧
      flow.claimed = false
  accepted : ∀ a ∈ s.accepted, AcceptedOk env s a

variable {env keys s}

/-! ## What a step leaves alone -/

variable {s' : ProofState T R D} {x : T}

theorem Held.frame (h : Held keys s x)
    (heq : s'.flows.find? (keys.authFlowTokenHash x) = s.flows.find? (keys.authFlowTokenHash x)) :
    Held keys s' x := by
  unfold Held
  rw [heq]
  exact h

variable {task : ProofTask T R D}

/-- **What a call knows stays true** while its flow and the rows it holds are left alone. -/
theorem ProofOk.frame (h : ProofOk env keys s task) (he : Evolves s s') (hheld : ∀ x ∈ task.holds,
      s'.flows.find? (keys.authFlowTokenHash x) = s.flows.find? (keys.authFlowTokenHash x))
    (hlocks : ∀ i ∈ task.locks, s'.users i.userId = s.users i.userId ∧
      s'.sessions i.sessionId = s.sessions i.sessionId ∧ i.userId ∈ s'.lockedUsers ∧
      i.sessionId ∈ s'.lockedSessions) : ProofOk env keys s' task := by
  cases task with
  | validateLogin => trivial
  | parse => trivial
  | requireMethod => exact reached_evolves h he
  | issueNow => exact reached_evolves h he
  | createFlow => exact reached_evolves h he
  | checkLogin => exact VerifiedOk.evolves h he
  | checkMethod => exact VerifiedOk.evolves h he
  | claimNow => exact VerifiedOk.evolves h he
  | claim => exact VerifiedOk.evolves h he
  | recheck v consumed expiresAt =>
    obtain ⟨hv, hh, hsnapshot, hexp⟩ := h
    exact ⟨hv.evolves he, hh.frame (hheld _ rfl), hsnapshot.evolves he, hexp⟩
  | validate v consumed =>
    obtain ⟨hv, hh, hsnapshot, hexp⟩ := h
    exact ⟨hv.evolves he, hh.frame (hheld _ rfl), hsnapshot.evolves he, hexp⟩
  | commit v consumed =>
    obtain ⟨⟨hv, hh, hconsumed⟩, hversions, -⟩ := h
    obtain ⟨husers, hsessions, hlocked⟩ := hlocks _ rfl
    refine ⟨⟨hv.evolves he, hh.frame (hheld _ rfl), hconsumed⟩, ?_, hlocked⟩
    unfold AtVersions ProofState.snapshot
    rw [husers, hsessions]
    exact hversions

/-- **…and so does what is known of the state** while no flow that has been spent is written. -/
theorem ProofStateOk.frame (h : ProofStateOk env keys s) (he : Evolves s s')
    (hissued : s'.issued = s.issued) (haccepted : s'.accepted = s.accepted)
    (hflows : ∀ k flow, s.flows.find? k = some flow → ∃ flow', s'.flows.find? k = some flow' ∧
      flow'.expiresAt = flow.expiresAt ∧
      (flow.consumedAt ≠ none → flow.claimed = false → flow' = flow)) :
    ProofStateOk env keys s' where
  flows := fun i hi => by
    obtain ⟨flow, hflow, hexp⟩ := h.flows i (hissued ▸ hi)
    obtain ⟨flow', hflow', hexp', -⟩ := hflows _ _ hflow
    exact ⟨flow', hflow', hexp'.trans hexp⟩
  claims := fun i hi => h.claims i (hissued ▸ hi)
  reached := fun i hi => reached_evolves (h.reached i (hissued ▸ hi)) he
  unique := hissued ▸ h.unique
  once := haccepted ▸ h.once
  spent := fun a ha => by
    obtain ⟨flow, hflow, hconsumed, hclaimed⟩ := h.spent a (haccepted ▸ ha)
    obtain ⟨flow', hflow', -, heq⟩ := hflows _ _ hflow
    obtain rfl := heq hconsumed hclaimed
    exact ⟨flow', hflow', hconsumed, hclaimed⟩
  accepted := fun a ha => (h.accepted a (haccepted ▸ ha)).evolves he

variable {flow : AuthFlow D} {flow' : AuthFlow D}

theorem ProofStateOk.saveFlow (h : ProofStateOk env keys s)
    (hflow : s.flows.find? flow'.tokenHash = some flow) (hexp : flow'.expiresAt = flow.expiresAt)
    (hopen : flow.consumedAt ≠ none → flow.claimed = true) :
    ProofStateOk env keys { s with flows := s.flows.save flow' } := by
  refine h.frame (Evolves.of_eq rfl rfl rfl fun _ hi => hi) rfl rfl fun k f hf => ?_
  by_cases hk : k = flow'.tokenHash
  · subst hk
    obtain rfl := some.inj (hflow.symm.trans hf)
    refine ⟨flow', find?_save_self hflow, hexp, fun hconsumed hclaimed => ?_⟩
    exact absurd (hopen hconsumed) (ne_true_of_eq_false hclaimed)
  · exact ⟨f, (find?_save_of_ne _ hk).trans hf, rfl, fun _ _ => rfl⟩

/-! ## One step -/

variable (env keys s) in
/-- What the proof rule asks of one step of `task`. -/
structure StepOk (task : ProofTask T R D) (r : ProofState T R D × ProofNext T R D) : Prop where
  state : ProofStateOk env keys r.1
  next : ∀ task', r.2 = .go task' → ProofOk env keys r.1 task'
  others : ∀ u, ProofOk env keys s u → Apart task u →
    ProofOk env keys r.1 u ∧ ∀ task', r.2 = .go task' → Apart u task'

variable {r : ProofReply R}

omit [DecidableEq D] in
theorem reply_ne_go : reply r ≠ go task := nofun

theorem stepOk_reply (h : ProofStateOk env keys s) : StepOk env keys s task (s, .reply r) :=
  ⟨h, fun _ heq => absurd heq reply_ne_go, fun _ hu _ =>
    ⟨hu, fun _ heq => absurd heq reply_ne_go⟩⟩

/-- A step that only goes on, holding no more than before. -/
theorem stepOk_go {task' : ProofTask T R D} (h : ProofStateOk env keys s)
    (hnext : ProofOk env keys s task') (hholds : ∀ x ∈ task'.holds, x ∈ task.holds)
    (hlocks : ∀ i ∈ task'.locks, i ∈ task.locks) :
    StepOk env keys s task (s, .go task') where
  state := h
  next := fun _ heq => go.inj heq ▸ hnext
  others := fun u hu hapart => by
    refine ⟨hu, fun t heq => ?_⟩
    obtain rfl := go.inj heq
    exact ⟨fun x hx hx' => hapart.holds x (hholds x hx') hx, fun i hi j hj =>
      ⟨(hapart.locks j (hlocks j hj) i hi).1.symm, (hapart.locks j (hlocks j hj) i hi).2.symm⟩⟩

theorem ProofOk.held (h : ProofOk env keys s task) (hx : x ∈ task.holds) : Held keys s x := by
  cases task with
  | recheck v consumed expiresAt => exact some.inj hx ▸ h.2.1
  | validate v consumed => exact some.inj hx ▸ h.2.1
  | commit v consumed => exact some.inj hx ▸ h.1.2.1
  | _ => cases hx

theorem ProofOk.locked (h : ProofOk env keys s task) {i : AuthIdentity} (hi : i ∈ task.locks) :
    i.userId ∈ s.lockedUsers ∧ i.sessionId ∈ s.lockedSessions := by
  cases task with
  | commit v consumed =>
    obtain rfl := some.inj hi
    exact h.2.2
  | _ => cases hi

variable {u : ProofTask T R D}

/-- A flow that no other transaction holds is written: what the others know stays. -/
theorem ProofOk.saveFlow (hu : ProofOk env keys s u)
    (hne : ∀ x ∈ u.holds, keys.authFlowTokenHash x ≠ flow.tokenHash) :
    ProofOk env keys { s with flows := s.flows.save flow } u := by
  exact hu.frame (Evolves.of_eq rfl rfl rfl fun _ hi => hi)
    (fun x hx => find?_save_of_ne _ (hne x hx)) fun i hi => ⟨rfl, rfl, hu.locked hi⟩

variable {v : Verified T D}

theorem rollback_eq (h : s.flows.find? (keys.authFlowTokenHash v.claims.id) = some flow) :
    rollback keys s v =
      { s with flows := s.flows.save { flow with consumedAt := none, claimed := false } } := by
  rw [rollback, h]

/-- Committing frees the flow and leaves it consumed. -/
theorem settle_spec (h : Held keys s v.claims.id) :
    ∃ flow flow', settle keys s v = { s with flows := s.flows.save flow' } ∧
      s.flows.find? flow'.tokenHash = some flow ∧ flow.claimed = true ∧
      flow'.tokenHash = keys.authFlowTokenHash v.claims.id ∧ flow'.expiresAt = flow.expiresAt ∧
      flow'.consumedAt ≠ none ∧ flow'.claimed = false := by
  obtain ⟨flow, hflow, hclaimed, hset⟩ := h
  have hkey : flow.tokenHash = _ := key_of_find? hflow
  refine ⟨flow, { flow with claimed := false }, ?_, ?_, hclaimed, hkey, rfl, hset, rfl⟩
  · rw [settle, hflow]
  · rw [← hflow, ← hkey]

/-- A transaction that is rolled back leaves its flow as it found it. -/
theorem ProofStateOk.rollback (h : ProofStateOk env keys s) (hheld : Held keys s v.claims.id) :
    ProofStateOk env keys (rollback keys s v) := by
  obtain ⟨flow, hflow, hclaimed, -⟩ := hheld
  have hkey : flow.tokenHash = _ := key_of_find? hflow
  have hself : s.flows.find? flow.tokenHash = some flow := by rw [hkey, hflow]
  rw [rollback_eq hflow]
  exact h.saveFlow hself rfl fun _ => hclaimed

/-- …which is none that another transaction holds. -/
theorem ProofOk.rollback (hkeys : keys.Injective) (hu : ProofOk env keys s u)
    (hheld : Held keys s v.claims.id) (hapart : v.claims.id ∉ u.holds) :
    ProofOk env keys (rollback keys s v) u := by
  obtain ⟨flow, hflow, hclaimed, -⟩ := hheld
  have hkey : flow.tokenHash = _ := key_of_find? hflow
  rw [rollback_eq hflow]
  refine hu.saveFlow fun x hx heq => hapart ?_
  rwa [← hkeys.token (heq.trans hkey)]

theorem stepOk_rollback (hkeys : keys.Injective) (h : ProofStateOk env keys s)
    (hheld : Held keys s v.claims.id) (htask : task.holds = some v.claims.id) :
    StepOk env keys s task (rollback keys s v, .reply r) :=
  ⟨h.rollback hheld, fun _ heq => absurd heq reply_ne_go, fun _ hu hapart =>
    ⟨hu.rollback hkeys hheld (hapart.holds _ htask), fun _ heq => absurd heq reply_ne_go⟩⟩

/-! ### Issuing -/

variable {i : Issuance T R D} {flows : Table (AuthFlow D) AuthFlow.tokenHash}

theorem ProofStateOk.issue (h : ProofStateOk env keys s)
    (hcreate : s.flows.create flow = some flows)
    (hkey : flow.tokenHash = keys.authFlowTokenHash i.claims.id)
    (hexp : flow.expiresAt = nanos i.claims.expiresAt)
    (hreached : Verification.reached s i.identity) (hclaims : ClaimsMatch env keys i) :
    ProofStateOk env keys { s with flows := flows, issued := s.issued ++ [i] } where
  flows := fun j hj => by
    obtain hj | hj := List.mem_append.mp hj
    · obtain ⟨f, hf, hfexp⟩ := h.flows j hj
      exact ⟨f, find?_create_of_some hcreate hf, hfexp⟩
    · obtain rfl := mem_singleton.mp hj
      exact ⟨flow, by rw [find?_create hcreate, if_pos hkey.symm], hexp⟩
  claims := fun j hj => by
    obtain hj | hj := List.mem_append.mp hj
    · exact h.claims j hj
    · rwa [mem_singleton.mp hj]
  reached := fun j hj => by
    obtain hj | hj := List.mem_append.mp hj
    · exact h.reached j hj
    · rwa [mem_singleton.mp hj]
  unique := by
    rw [List.map_append, List.map_singleton]
    refine List.Nodup.append h.unique (nodup_singleton _) ?_
    rw [disjoint_singleton]
    intro hmem
    obtain ⟨j, hj, hid⟩ := List.mem_map.mp hmem
    obtain ⟨f, hf, -⟩ := h.flows j hj
    rw [hid, ← hkey, find?_eq_none_of_create hcreate] at hf
    cases hf
  once := h.once
  spent := fun a ha => by
    obtain ⟨f, hf, hspent⟩ := h.spent a ha
    exact ⟨f, find?_create_of_some hcreate hf, hspent⟩
  accepted := fun a ha =>
    (h.accepted a ha).evolves (Evolves.of_eq rfl rfl rfl fun _ hj => List.mem_append_left _ hj)

/-- What the others know stays when a proof is issued. -/
theorem ProofOk.issue (hu : ProofOk env keys s u) (hcreate : s.flows.create flow = some flows) :
    ProofOk env keys { s with flows := flows, issued := s.issued ++ [i] } u := by
  refine hu.frame (Evolves.of_eq rfl rfl rfl fun _ hj => List.mem_append_left _ hj)
    (fun x hx => ?_) fun i hi => ⟨rfl, rfl, hu.locked hi⟩
  obtain ⟨f, hf, -⟩ := hu.held hx
  exact (find?_create_of_some hcreate hf).trans hf.symm

variable {identity : AuthIdentity} {operation : VerificationOperation} {expiresAt : ℤ}

theorem stepOk_createFlow (h : ProofStateOk env keys s) {method : VerificationMethod}
    (ht : reached s identity) [DecidableEq R] (c : ProofChoice T) :
    StepOk env keys s (.createFlow identity operation method expiresAt)
      (proofAct env keys s c (.createFlow identity operation method expiresAt)) := by
  rw [proofAct]
  split
  · exact stepOk_reply h
  next binding hbind =>
    obtain ⟨normal, hnormal, rfl⟩ := bind_eq_ok hbind
    split_ifs
    · exact stepOk_reply h
    · split
      · exact stepOk_reply h
      next flows hcreate =>
        refine ⟨h.issue hcreate rfl rfl ht ⟨rfl, rfl, rfl, rfl, normal, hnormal, rfl⟩,
          fun _ heq => absurd heq reply_ne_go, fun u hu _ =>
            ⟨hu.issue hcreate, fun _ heq => absurd heq reply_ne_go⟩⟩

/-! ### Verifying a token -/

variable {raw : R} {claims : AuthClaims T D}

omit [DecidableEq D] in
theorem mem_of_parseAuthClaims [DecidableEq R] (h : parseAuthClaims keys s raw = .ok claims) :
    ∃ i ∈ s.issued, i.claims = claims := by
  unfold parseAuthClaims at h
  split at h
  · cases h
  next i hi =>
    split_ifs at h
    exact ⟨i, List.mem_of_find?_eq_some hi, Except.ok.inj h⟩

variable {binding : VerificationBinding D}

theorem checkClaims_ok {u : Unit} (h : checkClaims claims identity binding = .ok u) :
    (claims.userId = identity.userId ∧ claims.sessionId = identity.sessionId ∧
      claims.userAuthVersion = identity.userAuthVersion ∧
      claims.sessionVersion = identity.sessionVersion) ∧
      claims.contextHash = binding.contextHash := by
  unfold checkClaims at h
  split_ifs at h with hidentity hscopes hcontext
  simp only [not_or, not_not] at hidentity hcontext
  exact ⟨hidentity, hcontext⟩

/-- Claims that name an identity and an operation were issued for them. -/
theorem issuedFor_of_claims (hkeys : keys.Injective) (hi : i ∈ s.issued)
    (hmatch : ClaimsMatch env keys i)
    (hbind : bindVerificationOperation env keys.contextHash operation = .ok binding) {u : Unit}
    (hcheck : checkClaims i.claims identity binding = .ok u) :
    IssuedFor env s i.claims identity operation := by
  obtain ⟨huser, hsession, hauth, hversion, normal, hnormal, hcontext⟩ := hmatch
  obtain ⟨⟨huser', hsession', hauth', hversion'⟩, hcontext'⟩ := checkClaims_ok hcheck
  obtain ⟨normal', hnormal', rfl⟩ := bind_eq_ok hbind
  have heq : normal = normal' := hkeys.context (hcontext.symm.trans hcontext')
  refine ⟨i, hi, rfl, ?_, by rw [hnormal, hnormal', heq]⟩
  obtain ⟨_, _, _, _⟩ := identity
  dsimp only at huser' hsession' hauth' hversion'
  rw [← huser', ← hsession', ← hauth', ← hversion', huser, hsession, hauth, hversion]

/-- **A verified token was issued for this identity and this operation.** -/
theorem verifySecurityProof_ok [DecidableEq R] (hkeys : keys.Injective)
    (h : ProofStateOk env keys s)
    (hv : verifySecurityProof env keys s raw identity operation = .ok v) : VerifiedOk env s v := by
  unfold verifySecurityProof at hv
  split at hv
  · cases hv
  next binding hbind =>
    split at hv
    · cases hv
    next claims hclaims =>
      split at hv
      · cases hv
      next u hcheck =>
        obtain rfl := Except.ok.inj hv
        obtain ⟨i, hi, rfl⟩ := mem_of_parseAuthClaims hclaims
        exact issuedFor_of_claims hkeys hi (h.claims i hi) hbind hcheck

/-! ### Consuming the flow -/

theorem find?_of_matchFlow (h : matchFlow keys s v = some flow) :
    s.flows.find? (keys.authFlowTokenHash v.claims.id) = some flow :=
  (filter_eq_some_iff.mp h).1

/-- A flow that no transaction has claimed is not one that a call holds. -/
theorem ProofOk.holds_ne (hu : ProofOk env keys s u) {k : D} (hflow : s.flows.find? k = some flow)
    (hclaimed : ¬ flow.claimed = true) : ∀ x ∈ u.holds, keys.authFlowTokenHash x ≠ k := by
  rintro x hx rfl
  obtain ⟨f, hf, hfclaimed, -⟩ := hu.held hx
  obtain rfl := some.inj (hf.symm.trans hflow)
  exact hclaimed hfclaimed

theorem held_saveFlow (hself : s.flows.find? flow'.tokenHash = some flow)
    (hkey : flow'.tokenHash = keys.authFlowTokenHash x) (hclaimed : flow'.claimed = true)
    (hconsumed : flow'.consumedAt ≠ none) : Held keys { s with flows := s.flows.save flow' } x :=
  ⟨flow', hkey ▸ find?_save_self hself, hclaimed, hconsumed⟩

theorem ProofStateOk.expiresAt_eq (h : ProofStateOk env keys s) (hv : VerifiedOk env s v)
    (hflow : s.flows.find? (keys.authFlowTokenHash v.claims.id) = some flow) :
    flow.expiresAt = nanos v.claims.expiresAt := by
  obtain ⟨i, hi, hclaims, -⟩ := hv
  obtain ⟨f, hf, hexp⟩ := h.flows i hi
  rw [hclaims, hflow] at hf
  rw [some.inj hf, hexp, hclaims]

theorem ProofStateOk.reached_of_verified (h : ProofStateOk env keys s) (hv : VerifiedOk env s v) :
    Verification.reached s v.identity := by
  obtain ⟨i, hi, -, hidentity, -⟩ := hv
  exact hidentity ▸ h.reached i hi

theorem stepOk_claim [DecidableEq R] (h : ProofStateOk env keys s) {now : ℤ}
    (ht : VerifiedOk env s v) (c : ProofChoice T) :
    StepOk env keys s (.claim v now) (proofAct env keys s c (.claim v now)) := by
  rw [proofAct]
  split
  · exact stepOk_reply h
  next flow hmatch =>
    have hflow := find?_of_matchFlow hmatch
    have hkey : flow.tokenHash = _ := key_of_find? hflow
    have hself : s.flows.find? flow.tokenHash = some flow := by rw [hkey, hflow]
    split_ifs with hfails hclaimed hconsumed hexp
    · exact stepOk_reply h
    · exact stepOk_go h ht (fun _ hx => hx) fun _ hi => hi
    · exact stepOk_reply h
    · exact stepOk_reply h
    have he : Evolves s { s with
        flows := s.flows.save { flow with consumedAt := some now, claimed := true } } :=
      Evolves.of_eq rfl rfl rfl fun _ hi => hi
    refine ⟨h.saveFlow hself rfl fun hne => absurd hne hconsumed, fun task heq => ?_,
      fun u hu _ => ⟨hu.saveFlow (hu.holds_ne hself hclaimed), fun task heq => ?_⟩⟩
    · obtain rfl := go.inj heq
      exact ⟨ht.evolves he, held_saveFlow hself hkey rfl (some_ne_none now),
        (snapshotOk_of_reached (h.reached_of_verified ht)).evolves he, h.expiresAt_eq ht hflow⟩
    · obtain rfl := go.inj heq
      refine ⟨fun x hx hx' => hu.holds_ne hself hclaimed x hx ?_,
        fun _ _ _ hj => absurd hj (not_mem_none _)⟩
      rw [hkey, some.inj hx']

/-! ### Inside the transaction -/

variable {consumed : Snapshot}

omit [DecidableEq D] in
/-- **What the transaction validates was already so when it consumed the flow.** -/
theorem atVersions_consumed (h : SnapshotOk s identity consumed)
    (hv : validates identity (s.snapshot identity)) :
    AtVersions identity (s.snapshot identity) ∧ AtVersions identity consumed ∧ Live consumed := by
  obtain ⟨hclock, ⟨user, user', huser, huser', hle, hle'⟩,
    r, r', hr, hr', hversion, hauth, hrow⟩ := h
  obtain ⟨-, ⟨w, hw, -, hwauth⟩, q, hq, hquser, hqactive, hqauth, hqversion⟩ := hv
  obtain rfl := some.inj (huser'.symm.trans hw)
  obtain rfl := some.inj (hr'.symm.trans hq)
  simp only [Session.inactive, not_or, not_not, not_le] at hqactive
  obtain ⟨hstatus, hrevoked, hlive⟩ := hqactive
  obtain ⟨hstatus', hrevoked'⟩ := hrow.active hstatus
  refine ⟨⟨⟨user', huser', hwauth⟩, r', hr', hquser, hstatus, hrevoked, hqauth, hqversion⟩,
    ⟨⟨user, huser, le_antisymm (hwauth ▸ hle') hle⟩, r, hr, hrow.user ▸ hquser, hstatus',
      hrevoked'.trans hrevoked, le_antisymm (hqauth ▸ hrow.authVersion) hauth,
      le_antisymm (hqversion ▸ hrow.version) hversion⟩, r, hr, ?_⟩
  rw [← hrow.expires]
  exact (Int.ediv_le_ediv (by decide) hclock).trans_lt hlive

theorem stepOk_recheck [DecidableEq R] (hkeys : keys.Injective) (h : ProofStateOk env keys s)
    (ht : ProofOk env keys s (.recheck v consumed expiresAt)) (c : ProofChoice T) :
    StepOk env keys s (.recheck v consumed expiresAt)
      (proofAct env keys s c (.recheck v consumed expiresAt)) := by
  obtain ⟨hv, hheld, hsnapshot, rfl⟩ := ht
  rw [proofAct]
  split_ifs with hexp
  · exact stepOk_rollback hkeys h hheld rfl
  · exact stepOk_go h ⟨hv, hheld, hsnapshot, hsnapshot.1.trans_lt (not_le.mp (not_or.mp hexp).2)⟩
      (fun _ hx => hx) fun _ hi => hi

theorem stepOk_validate [DecidableEq R] (hkeys : keys.Injective) (h : ProofStateOk env keys s)
    (ht : ProofOk env keys s (.validate v consumed)) (c : ProofChoice T) :
    StepOk env keys s (.validate v consumed) (proofAct env keys s c (.validate v consumed)) := by
  rw [proofAct]
  split_ifs with hlocked hfails
  · exact stepOk_go h ht (fun _ hx => hx) fun _ hi => hi
  · exact stepOk_rollback hkeys h ht.2.1 rfl
  obtain ⟨hv, hheld, hsnapshot, hexp⟩ := ht
  obtain ⟨hnow, hconsumed, hlive⟩ := atVersions_consumed hsnapshot (not_not.mp (not_or.mp hfails).2)
  have he : Evolves s { s with
      lockedUsers := v.identity.userId :: s.lockedUsers
      lockedSessions := v.identity.sessionId :: s.lockedSessions } :=
    Evolves.of_eq rfl rfl rfl fun _ hi => hi
  refine ⟨h.frame he rfl rfl fun k flow hflow => ⟨flow, hflow, rfl, fun _ _ => rfl⟩,
    fun task heq => ?_, fun u hu hapart => ⟨hu.frame he (fun _ _ => rfl) fun i hi => ⟨rfl, rfl,
      List.mem_cons_of_mem _ (hu.locked hi).1, List.mem_cons_of_mem _ (hu.locked hi).2⟩,
      fun task heq => ?_⟩⟩
  · obtain rfl := go.inj heq
    exact ⟨⟨hv, hheld, hexp, hconsumed, hlive⟩, hnow, mem_cons_self, mem_cons_self⟩
  · obtain rfl := go.inj heq
    refine ⟨hapart.symm.holds, fun i hi j hj => ?_⟩
    obtain rfl := some.inj hj
    have hi := hu.locked hi
    exact ⟨fun heq => hlocked (.inl (heq ▸ hi.1)), fun heq => hlocked (.inr (heq ▸ hi.2))⟩

theorem ProofStateOk.not_accepted_of_held (h : ProofStateOk env keys s) (hheld : Held keys s x) :
    x ∉ s.accepted.map (·.id) := by
  intro hmem
  obtain ⟨a, ha, rfl⟩ := List.mem_map.mp hmem
  obtain ⟨flow, hflow, -, hclaimed⟩ := h.spent a ha
  obtain ⟨flow', hflow', hclaimed', -⟩ := hheld
  obtain rfl := some.inj (hflow.symm.trans hflow')
  exact absurd hclaimed' (ne_true_of_eq_false hclaimed)

/-- Accepting a proof whose flow is spent and not accepted before. -/
theorem ProofStateOk.accept (h : ProofStateOk env keys s) {a : Acceptance T D}
    (hnew : a.id ∉ s.accepted.map (·.id))
    (hflow : s.flows.find? (keys.authFlowTokenHash a.id) = some flow)
    (hconsumed : flow.consumedAt ≠ none) (hclaimed : flow.claimed = false) (ha : AcceptedOk env s a)
    (hs : Evolves s s') (hflows : s'.flows = s.flows) (hissued : s'.issued = s.issued)
    (haccepted : s'.accepted = s.accepted ++ [a]) :
    ProofStateOk env keys s' where
  flows := hflows ▸ hissued ▸ h.flows
  claims := hissued ▸ h.claims
  reached := fun i hi => reached_evolves (h.reached i (hissued ▸ hi)) hs
  unique := hissued ▸ h.unique
  once := by
    rw [haccepted, List.map_append, List.map_singleton]
    exact List.Nodup.append h.once (nodup_singleton _) (disjoint_singleton.mpr hnew)
  spent := fun b hb => by
    rw [hflows]
    obtain hb | hb := List.mem_append.mp (haccepted ▸ hb)
    · exact h.spent b hb
    · rw [mem_singleton.mp hb]
      exact ⟨flow, hflow, hconsumed, hclaimed⟩
  accepted := fun b hb => by
    obtain hb | hb := List.mem_append.mp (haccepted ▸ hb)
    · exact (h.accepted b hb).evolves hs
    · rw [mem_singleton.mp hb]
      exact ha.evolves hs

/-- The rows another transaction holds are not the ones given back. -/
theorem ProofOk.unlock (hu : ProofOk env keys s u)
    (hapart : ∀ i ∈ u.locks, v.identity.userId ≠ i.userId ∧ v.identity.sessionId ≠ i.sessionId) :
    ProofOk env keys (unlock s v) u :=
  hu.frame (Evolves.of_eq rfl rfl rfl fun _ hi => hi) (fun _ _ => rfl) fun i hi =>
    ⟨rfl, rfl, (List.mem_erase_of_ne (hapart i hi).1.symm).mpr (hu.locked hi).1,
      (List.mem_erase_of_ne (hapart i hi).2.symm).mpr (hu.locked hi).2⟩

theorem ProofStateOk.unlock (h : ProofStateOk env keys s) (v : Verified T D) :
    ProofStateOk env keys (unlock s v) :=
  h.frame (Evolves.of_eq rfl rfl rfl fun _ hi => hi) rfl rfl fun _ flow hflow =>
    ⟨flow, hflow, rfl, fun _ _ => rfl⟩

theorem stepOk_commit [DecidableEq R] (hkeys : keys.Injective) (h : ProofStateOk env keys s)
    (ht : ProofOk env keys s (.commit v consumed)) (c : ProofChoice T) :
    StepOk env keys s (.commit v consumed) (proofAct env keys s c (.commit v consumed)) := by
  obtain ⟨⟨hv, hheld, hexp, hconsumed, hlive⟩, hnow, -⟩ := ht
  rw [proofAct]
  split_ifs
  · exact ⟨(h.rollback hheld).unlock v, fun _ heq => absurd heq reply_ne_go, fun u hu hapart =>
      ⟨(hu.rollback hkeys hheld (hapart.holds _ rfl)).unlock (hapart.locks _ rfl),
        fun _ heq => absurd heq reply_ne_go⟩⟩
  have hnew := h.not_accepted_of_held hheld
  obtain ⟨flow, flow', hsettle, hself, hclaimed, hkey, hsame, hset, hfree⟩ := settle_spec hheld
  have he : Evolves s { s with flows := s.flows.save flow' } :=
    Evolves.of_eq rfl rfl rfl fun _ hi => hi
  have haccepted : AcceptedOk env { s with flows := s.flows.save flow' }
      ⟨v.claims.id, v.identity, v.operation, consumed, s.snapshot v.identity⟩ :=
    ⟨⟨v.claims, rfl, hv.evolves he, hexp⟩, hconsumed, hlive, hnow⟩
  rw [hsettle]
  refine ⟨(h.saveFlow hself hsame fun _ => hclaimed).accept hnew
    (hkey ▸ find?_save_self hself) hset hfree haccepted
    (Evolves.of_eq rfl rfl rfl fun _ hi => hi) rfl rfl rfl,
    fun _ heq => absurd heq reply_ne_go, fun u hu hapart => ⟨?_, fun _ heq => absurd heq reply_ne_go⟩⟩
  have hsaved : ProofOk env keys { s with flows := s.flows.save flow' } u :=
    hu.saveFlow fun x hx heq => by
      obtain rfl := hkeys.token (heq.trans hkey)
      exact hapart.holds _ rfl hx
  have hunlocked : ProofOk env keys (unlock { s with flows := s.flows.save flow' } v) u :=
    hsaved.unlock (hapart.locks _ rfl)
  exact hunlocked.frame (Evolves.of_eq rfl rfl rfl fun _ hi => hi) (fun _ _ => rfl) fun i hi =>
    ⟨rfl, rfl, hunlocked.locked hi⟩

/-! ## Runs -/

variable [DecidableEq R]

/-- **Every step of a call.** -/
theorem stepOk_proofAct (hkeys : keys.Injective) (h : ProofStateOk env keys s)
    (ht : ProofOk env keys s task) (c : ProofChoice T) :
    StepOk env keys s task (proofAct env keys s c task) := by
  cases task with
  | validateLogin identity operation method =>
    rw [proofAct]
    split_ifs with hfails
    · exact stepOk_reply h
    · exact stepOk_go h (not_not.mp (not_or.mp hfails).2) (fun _ hx => hx) fun _ hi => hi
  | requireMethod identity operation method =>
    rw [proofAct]
    split_ifs
    · exact stepOk_reply h
    · exact stepOk_go h ht (fun _ hx => hx) fun _ hi => hi
  | issueNow identity operation method =>
    rw [proofAct]
    split_ifs
    · exact stepOk_go h ht (fun _ hx => hx) fun _ hi => hi
    · exact stepOk_reply h
  | createFlow identity operation method expiresAt => exact stepOk_createFlow h ht c
  | parse raw identity operation =>
    rw [proofAct]
    split
    · exact stepOk_reply h
    next v hv =>
      exact stepOk_go h (verifySecurityProof_ok hkeys h hv) (fun _ hx => hx) fun _ hi => hi
  | checkLogin v =>
    rw [proofAct]
    split_ifs
    · exact stepOk_reply h
    · exact stepOk_go h ht (fun _ hx => hx) fun _ hi => hi
  | checkMethod v =>
    rw [proofAct]
    split_ifs
    · exact stepOk_reply h
    · exact stepOk_go h ht (fun _ hx => hx) fun _ hi => hi
  | claimNow v => exact stepOk_go h ht (fun _ hx => hx) fun _ hi => hi
  | claim v now => exact stepOk_claim h ht c
  | recheck v consumed expiresAt => exact stepOk_recheck hkeys h ht c
  | validate v consumed => exact stepOk_validate hkeys h ht c
  | commit v consumed => exact stepOk_commit hkeys h ht c

end

end

end Verification
