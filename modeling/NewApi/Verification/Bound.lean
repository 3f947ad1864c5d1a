import NewApi.Verification.Consumption

/-!
# Verification/Bound — operation proofs are bound and single-use

* `operation_proofs_sound` — an accepted proof was issued for exactly this, is accepted once, and
  was consumed before it expired, from an active session at the versions it was issued for.
-/

namespace Verification

open Option List

open Session (UserSession SessionStatus unix nanos)

section

variable {T R D : Type}

/-! ## What happens besides -/

theorem evolves_setSession {s : ProofState T R D} {sid : String}
    {f : UserSession Unit → UserSession Unit} (hf : ∀ r, RowLe r (f r)) :
    Evolves s (setSession s sid f) := by
  unfold setSession
  split_ifs
  · exact Evolves.of_eq rfl rfl rfl fun _ hi => hi
  refine ⟨le_refl _, fun _ user h => ⟨user, h, le_refl _⟩, fun x r h => ?_, fun _ hi => hi⟩
  by_cases hx : x = sid
  · exact ⟨f r, by dsimp only; rw [if_pos hx, h, map_some], hf r⟩
  · exact ⟨r, by dsimp only; rw [if_neg hx, h], RowLe.refl r⟩

theorem evolves_setUser {s : ProofState T R D} {userId : ℤ} {f : UserRow → UserRow}
    (hf : ∀ user, user.authVersion ≤ (f user).authVersion) : Evolves s (setUser s userId f) := by
  unfold setUser
  split_ifs
  · exact Evolves.of_eq rfl rfl rfl fun _ hi => hi
  refine ⟨le_refl _, fun x user h => ?_, fun _ r h => ⟨r, h, RowLe.refl r⟩, fun _ hi => hi⟩
  by_cases hx : x = userId
  · exact ⟨f user, by dsimp only; rw [if_pos hx, h, map_some], hf user⟩
  · exact ⟨user, by dsimp only; rw [if_neg hx, h], le_refl _⟩

variable (s : ProofState T R D)

/-- Versions never go back, whatever else happens. -/
theorem evolves_proofEnv (e : ProofEvent) : Evolves s (proofEnv s e) := by
  cases e with
  | tick elapsed =>
    exact ⟨Int.le_add_of_nonneg_right (Int.natCast_nonneg elapsed),
      fun _ user h => ⟨user, h, le_refl _⟩, fun _ r h => ⟨r, h, RowLe.refl r⟩, fun _ hi => hi⟩
  | createSession session =>
    rw [proofEnv]
    split_ifs with hsome
    · exact Evolves.of_eq rfl rfl rfl fun _ hi => hi
    refine ⟨le_refl _, fun _ user h => ⟨user, h, le_refl _⟩, fun x r h => ⟨r, ?_, RowLe.refl r⟩,
      fun _ hi => hi⟩
    dsimp only
    rw [if_neg, h]
    rintro rfl
    exact hsome (h ▸ rfl)
  | revokeSession sid reason => exact evolves_setSession (rowLe_revokeRow _ reason)
  | advanceSession sid userAuthVersion => exact evolves_setSession (rowLe_advanceRow _ _)
  | bumpAuthVersion userId => exact evolves_setUser fun _ => Int.le_add_one (le_refl _)
  | setEnabled userId enabled => exact evolves_setUser fun _ => le_refl _

/-- Nothing but the clock and the rows is changed, and no row that is held. -/
structure SameBesides (s s' : ProofState T R D) : Prop where
  flows : s'.flows = s.flows
  issued : s'.issued = s.issued
  accepted : s'.accepted = s.accepted
  lockedUsers : s'.lockedUsers = s.lockedUsers
  lockedSessions : s'.lockedSessions = s.lockedSessions
  users : ∀ id ∈ s.lockedUsers, s'.users id = s.users id
  sessions : ∀ sid ∈ s.lockedSessions, (s.sessions sid).isSome → s'.sessions sid = s.sessions sid

theorem sameBesides_setSession (sid : String) (f : UserSession Unit → UserSession Unit) :
    SameBesides s (setSession s sid f) := by
  unfold setSession
  split_ifs with hlocked
  · exact ⟨rfl, rfl, rfl, rfl, rfl, fun _ _ => rfl, fun _ _ _ => rfl⟩
  · exact ⟨rfl, rfl, rfl, rfl, rfl, fun _ _ => rfl, fun x hx _ =>
      if_neg fun heq : x = sid => hlocked (heq ▸ hx)⟩

theorem sameBesides_setUser (userId : ℤ) (f : UserRow → UserRow) :
    SameBesides s (setUser s userId f) := by
  unfold setUser
  split_ifs with hlocked
  · exact ⟨rfl, rfl, rfl, rfl, rfl, fun _ _ => rfl, fun _ _ _ => rfl⟩
  · exact ⟨rfl, rfl, rfl, rfl, rfl, fun x hx =>
      if_neg fun heq : x = userId => hlocked (heq ▸ hx), fun _ _ _ => rfl⟩

/-- What else happens touches rows only. -/
theorem sameBesides_proofEnv (e : ProofEvent) : SameBesides s (proofEnv s e) := by
  cases e with
  | tick elapsed => exact ⟨rfl, rfl, rfl, rfl, rfl, fun _ _ => rfl, fun _ _ _ => rfl⟩
  | createSession session =>
    rw [proofEnv]
    split_ifs with hsome
    · exact ⟨rfl, rfl, rfl, rfl, rfl, fun _ _ => rfl, fun _ _ _ => rfl⟩
    · exact ⟨rfl, rfl, rfl, rfl, rfl, fun _ _ => rfl, fun x _ hx =>
        if_neg fun heq : x = session.sid => hsome (heq ▸ hx)⟩
  | revokeSession sid reason => exact sameBesides_setSession s sid _
  | advanceSession sid userAuthVersion => exact sameBesides_setSession s sid _
  | bumpAuthVersion userId => exact sameBesides_setUser s userId _
  | setEnabled userId enabled => exact sameBesides_setUser s userId _

section

variable {env : Surroundings} {keys : ProofKeys T R D} [DecidableEq D] {s : ProofState T R D}

theorem ProofOk.session_isSome {u : ProofTask T R D} (hu : ProofOk env keys s u) {i : AuthIdentity}
    (hi : i ∈ u.locks) : (s.sessions i.sessionId).isSome := by
  cases u with
  | commit v consumed =>
    obtain rfl := some.inj hi
    obtain ⟨-, ⟨-, r, hr, -⟩, -⟩ := hu
    exact isSome_of_mem hr
  | _ => cases hi

/-- **What happens besides the calls keeps all that is known.** -/
theorem proofEnv_ok (h : ProofStateOk env keys s) (e : ProofEvent) :
    ProofStateOk env keys (proofEnv s e) ∧
      ∀ u, ProofOk env keys s u → ProofOk env keys (proofEnv s e) u := by
  have he := evolves_proofEnv s e
  have hsame := sameBesides_proofEnv s e
  refine ⟨h.frame he hsame.issued hsame.accepted fun k flow hflow =>
    ⟨flow, hsame.flows ▸ hflow, rfl, fun _ _ => rfl⟩, fun u hu =>
    hu.frame he (fun x _ => by rw [hsame.flows]) fun i hi => ?_⟩
  obtain ⟨huser, hsession⟩ := hu.locked hi
  rw [hsame.lockedUsers, hsame.lockedSessions]
  exact ⟨hsame.users _ huser, hsame.sessions _ hsession (hu.session_isSome hi), huser, hsession⟩

/-! ## Runs -/

variable [DecidableEq R]

/-- **A step keeps the invariant.** -/
theorem proofPerform_ok (hkeys : keys.Injective) (h : ProofStateOk env keys s)
    {task : ProofTask T R D} (ht : ProofOk env keys s task) (c : ProofChoice T) :
    ProofStateOk env keys (proofPerform env keys s task c).1 ∧
      (∀ t ∈ (proofPerform env keys s task c).2,
        ProofOk env keys (proofPerform env keys s task c).1 t) ∧
      ∀ u, ProofOk env keys s u → Apart task u →
        ProofOk env keys (proofPerform env keys s task c).1 u ∧
          ∀ t ∈ (proofPerform env keys s task c).2, Apart u t := by
  have hstep := stepOk_proofAct hkeys h ht c
  unfold proofPerform
  generalize proofAct env keys s c task = r at hstep ⊢
  obtain ⟨s', next⟩ := r
  cases next with
  | go t =>
    refine ⟨hstep.state, fun u hu => ?_, fun u hu hapart => ?_⟩
    · exact some.inj hu ▸ hstep.next t rfl
    · obtain ⟨hok, hnext⟩ := hstep.others u hu hapart
      exact ⟨hok, fun t' ht' => some.inj ht' ▸ hnext t rfl⟩
  | reply r =>
    exact ⟨hstep.state, fun u hu => absurd hu (not_mem_none u), fun u hu hapart =>
      ⟨(hstep.others u hu hapart).1, fun t ht => absurd ht (not_mem_none t)⟩⟩

variable (env keys) in
/-- The state after a run that starts with these rows and no proofs. -/
def proofRun (clock : ℤ) (users : ℤ → Option UserRow)
    (sessions : String → Option (UserSession Unit))
    (ops : List (CallOp (ProofRequest R) (ProofChoice T) ProofEvent)) : ProofState T R D :=
  (Runs.run (Calls.step (proofs env keys)) ⟨{ clock, users, sessions }, []⟩ ops).shared

/-- **It holds in every run.** -/
theorem proofStateOk_run (hkeys : keys.Injective) (clock : ℤ) (users : ℤ → Option UserRow)
    (sessions : String → Option (UserSession Unit))
    (ops : List (CallOp (ProofRequest R) (ProofChoice T) ProofEvent)) :
    ProofStateOk env keys (proofRun env keys clock users sessions ops) := by
  have hinit : Calls.HoldsApart (ProofStateOk env keys) (ProofOk env keys) Apart
      ⟨{ clock, users, sessions }, []⟩ :=
    ⟨⟨⟨fun _ h => absurd h not_mem_nil, fun _ h => absurd h not_mem_nil,
      fun _ h => absurd h not_mem_nil, nodup_nil, nodup_nil,
      fun _ h => absurd h not_mem_nil, fun _ h => absurd h not_mem_nil⟩,
      fun _ h => absurd h not_mem_nil⟩, List.Pairwise.nil⟩
  refine (Calls.holdsApart_run (Q := fun _ _ _ => True) (fun _ _ => Apart.symm)
    (fun s request h => ?_) (fun s task c _ h ht => proofPerform_ok hkeys h ht c)
    (fun s e h => proofEnv_ok h e) hinit
    (Calls.guarded_allowed (fun _ _ _ => trivial) _ ops)).shared
  cases request with
  | complete identity operation method => exact ⟨trivial, fun u => apart_of_none rfl rfl⟩
  | consume raw identity operation => exact ⟨trivial, fun u => apart_of_none rfl rfl⟩

/-- **Operation proofs are bound and single-use.**  In every run of issuing and consuming calls,
with rows that are revoked, carried over or given new versions in between: no proof is accepted
twice, and one that is was issued, with a token of its own, to the same identity for an operation of
the same scope and normal form; it was consumed before its expiry, while the session was active and
unexpired and both rows were at the proof's versions, and they still were when that was
committed. -/
theorem operation_proofs_sound (hkeys : keys.Injective) (clock : ℤ) (users : ℤ → Option UserRow)
    (sessions : String → Option (UserSession Unit))
    (ops : List (CallOp (ProofRequest R) (ProofChoice T) ProofEvent)) :
    let s := proofRun env keys clock users sessions ops
    (s.issued.map (·.claims.id)).Nodup ∧ (s.accepted.map (·.id)).Nodup ∧
      ∀ a ∈ s.accepted, ∃ i ∈ s.issued, i.claims.id = a.id ∧ i.identity = a.identity ∧
        i.operation.scope = a.operation.scope ∧
        (∃ normal, normalForm env i.operation = .ok normal ∧
          normalForm env a.operation = .ok normal) ∧
        a.consumed.clock < nanos i.claims.expiresAt ∧
        AtVersions a.identity a.consumed ∧ Live a.consumed ∧ AtVersions a.identity a.committed := by
  intro s
  have h : ProofStateOk env keys s := proofStateOk_run hkeys clock users sessions ops
  refine ⟨h.unique, h.once, fun a ha => ?_⟩
  obtain ⟨⟨claims, hid, ⟨i, hi, rfl, hidentity, hsame⟩, hclock⟩, hconsumed, hlive, hcommitted⟩ :=
    h.accepted a ha
  obtain ⟨-, -, -, -, normal, hnormal, -⟩ := h.claims i hi
  have hnormal' : normalForm env a.operation = .ok normal := hsame ▸ hnormal
  exact ⟨i, hi, hid, hidentity,
    (scope_of_normalForm hnormal).symm.trans (scope_of_normalForm hnormal'),
    ⟨normal, hnormal, hnormal'⟩, hclock, hconsumed, hlive, hcommitted⟩

end

end

/-! ## A run -/

/-- Free keys: nothing is hashed. -/
def freeKeys : ProofKeys ℕ (AuthClaims ℕ (ℕ ⊕ VerificationScope × NormalContext))
    (ℕ ⊕ VerificationScope × NormalContext) where
  sign := id
  authFlowTokenHash := Sum.inl
  contextHash := Sum.inr

theorem freeKeys_injective : freeKeys.Injective :=
  ⟨fun _ _ h => h, fun _ _ h => Sum.inl.inj h, fun _ _ h => Sum.inr.inj h⟩

/-- Hosts that change nothing. -/
def plainSurroundings : Surroundings := ⟨id, fun _ => true, fun _ => true⟩

/-- A login. -/
def exampleIdentity : AuthIdentity := ⟨7, "s", 1, 1⟩

/-- Its session. -/
def exampleSession : UserSession Unit :=
  { sid := "s", userId := 7, version := 1, userAuthVersion := 1, refreshHash := ()
    expiresAt := 1000 }

/-- A proof is issued to delete the account, and two calls try to use it at the same time. -/
def exampleProofRun : ProofState ℕ (AuthClaims ℕ (ℕ ⊕ VerificationScope × NormalContext))
    (ℕ ⊕ VerificationScope × NormalContext) :=
  let operation : VerificationOperation := ⟨.accountDelete, .empty⟩
  let proof : AuthClaims ℕ (ℕ ⊕ VerificationScope × NormalContext) :=
    ⟨5, 7, "s", 1, 1, .password, [.accountDelete], .inr (.accountDelete, .none), 60⟩
  proofRun plainSurroundings freeKeys 0 (fun _ => some ⟨true, 1⟩) (fun _ => some exampleSession)
    (.start (.complete exampleIdentity operation .password) ::
      List.replicate 4 (.advance 0 { token := 5 }) ++
      [.start (.consume proof exampleIdentity operation),
        .start (.consume proof exampleIdentity operation)] ++
      List.replicate 16 (.advance 0 { token := 0 }))

theorem operation_proofs_sound_twice :
    freeKeys.Injective ∧ exampleProofRun.accepted.map (·.id) = [5] ∧
      ∀ a ∈ exampleProofRun.accepted, AtVersions a.identity a.consumed := by
  refine ⟨freeKeys_injective, by decide +kernel, fun a ha => ?_⟩
  obtain ⟨-, -, haccepted⟩ := operation_proofs_sound freeKeys_injective 0
    (fun _ => some ⟨true, 1⟩) (fun _ => some exampleSession) _
  obtain ⟨i, hi, -, -, -, -, -, hversions, -⟩ := haccepted a ha
  exact hversions

end Verification
