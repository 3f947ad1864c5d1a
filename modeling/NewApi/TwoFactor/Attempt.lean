import NewApi.Machinery.Calls
import NewApi.Machinery.Table
import NewApi.Machinery.Text

/-!
# TwoFactor/Attempt — verifying a two-factor code, step by step

`VerifyTwoFactorCode` of `service/security_verification.go` with `ValidateTOTPAndUpdateUsage`,
`ValidateBackupCodeAndUpdateUsage` and `IncrementFailedAttempts` of `model/twofa.go`, for one user.
An attempt reads the row once, decides by that copy whether the account is locked, and writes at the
end: a task stops before every statement and where the clock is read for a later one.
-/

namespace TwoFactor

/-- `common.MaxFailAttempts`. -/
def maxFailAttempts : ℕ := 5

/-- `common.LockoutDuration`, in nanoseconds. -/
def lockoutDuration : ℤ := 300 * 1000000000

/-- `maxUpdateRetries`, after the first round. -/
def moreUpdateRetries : ℕ := 4

/-- The row of `two_fas`. -/
structure TwoFA where
  isEnabled : Bool := true
  failedAttempts : ℕ := 0
  lockedUntil : Option ℤ := none
  lastUsedAt : Option ℤ := none
  deriving DecidableEq

/-- A row of `two_fa_backup_codes`; `H` are password hashes. -/
structure BackupCode (H : Type) where
  id : ℕ
  codeHash : H
  isUsed : Bool := false
  usedAt : Option ℤ := none
  deriving DecidableEq

/-- A lock is in force. -/
def TwoFA.isLocked (row : TwoFA) (now : ℤ) : Prop := ∃ u ∈ row.lockedUntil, now < u

instance (row : TwoFA) (now : ℤ) : Decidable (row.isLocked now) :=
  inferInstanceAs (Decidable (∃ u ∈ row.lockedUntil, now < u))

/-! ## The texts of codes -/

/-- What the checks take from elsewhere: `strings.ToUpper`, `totp.Validate` with the user's secret at
a moment, and `ValidatePasswordAndHash`. -/
structure CodeChecks (H : Type) where
  toUpper : String → String
  totp : ℤ → String → Bool
  validatePasswordAndHash : String → H → Bool

/-- `strings.ReplaceAll(code, string(c), "")`. -/
def without (c : Char) (code : String) : String := String.ofList (code.toList.filter (· ≠ c))

/-- `strconv.Atoi` accepts it. -/
def isAtoi (code : String) : Bool :=
  let digits (cs : List Char) := cs ≠ [] ∧ cs.all Char.isDigit
  match code.toList with
  | '+' :: cs => digits cs
  | '-' :: cs => digits cs
  | cs => digits cs

/-- `common.ValidateNumericCode`. -/
def validateNumericCode (code : String) : Option String :=
  let code := without ' ' code
  if code.utf8ByteSize = 6 ∧ isAtoi code = true then some code else none

section

variable {H : Type} (checks : CodeChecks H)

/-- `common.ValidateBackupCode`. -/
def validateBackupCode (code : String) : Bool :=
  let cleanCode := checks.toUpper (without '-' code)
  cleanCode.utf8ByteSize = 8 && cleanCode.toList.all fun c =>
    ('A' ≤ c && c ≤ 'Z') || ('0' ≤ c && c ≤ '9')

/-- `common.NormalizeBackupCode`. -/
def normalizeBackupCode (code : String) : String :=
  let cleanCode := checks.toUpper (without '-' code)
  if cleanCode.utf8ByteSize = 8 then
    String.ofList (cleanCode.toList.take 4 ++ '-' :: cleanCode.toList.drop 4)
  else code

/-- What a submitted code is taken for. -/
inductive Submitted where
  | totp (code : String)
  | backup (code : String)
  | malformed
  deriving DecidableEq

/-- The classification of `VerifyTwoFactorCode`. -/
def classify (code : String) : Submitted :=
  match validateNumericCode (Text.trimmed code) with
  | some numeric => .totp numeric
  | none =>
    if validateBackupCode checks (Text.trimmed code) then .backup (Text.trimmed code)
    else .malformed

/-- `common.ValidateTOTPCode`. -/
def validateTOTPCode (now : ℤ) (code : String) : Bool :=
  let cleanCode := without ' ' code
  cleanCode.utf8ByteSize = 6 && checks.totp now cleanCode

end

/-! ## The shared state -/

/-- The rows of one user, and what is counted about them: `wrong` codes evaluated since the last
success or lock, the times of the successes, and the backup codes that were accepted. -/
structure TwoFAState (H : Type) where
  clock : ℤ
  row : TwoFA
  codes : Table (BackupCode H) BackupCode.id := ∅
  wrong : ℕ := 0
  successes : List ℤ := []
  accepted : List ℕ := []

/-- An attempt, at its next statement. -/
inductive AttemptTask where
  /-- `GetTwoFAByUserId`. -/
  | getTwoFA (code : String)
  /-- `VerifyTwoFactorCode`, on the copy. -/
  | verify (copy : TwoFA) (code : String)
  | validateTOTP (copy : TwoFA) (code : String)
  -- ValidateBackupCodeAndUpdateUsage
  | validateBackup (copy : TwoFA) (code : String)
  | findCodes (copy : TwoFA) (code : String)
  | useCode (id : ℕ)
  -- IncrementFailedAttempts
  | increment (retries : ℕ)
  | incrementNow (retries : ℕ) (current : TwoFA)
  | incrementWrite (retries : ℕ) (current : TwoFA) (now : ℤ)
  /-- `updateUsageState` after a success. -/
  | reset
  deriving DecidableEq

/-- How an attempt ends. -/
inductive AttemptReply where
  | ok
  | notEnabled | locked | failed
  /-- The counter could not be written. -/
  | conflict
  deriving DecidableEq

/-- An attempt goes on, or replies. -/
inductive AttemptNext where
  | go (task : AttemptTask)
  | reply (r : AttemptReply)

/-! ## One step -/

section

variable {H : Type} (checks : CodeChecks H) (s : TwoFAState H)

/-- A wrong code has been evaluated. -/
def evaluatedWrong : TwoFAState H × AttemptNext :=
  ({ s with wrong := s.wrong + 1 }, .go (.increment moreUpdateRetries))

/-- The row after one more failure. -/
def TwoFA.failOnce (current : TwoFA) (now : ℤ) : TwoFA :=
  { current with
    failedAttempts := current.failedAttempts + 1
    lockedUntil :=
      if maxFailAttempts ≤ current.failedAttempts + 1 then some (now + lockoutDuration)
      else current.lockedUntil }

/-- The conditional update of `IncrementFailedAttempts`. -/
def incrementWrite (retries : ℕ) (current : TwoFA) (now : ℤ) : TwoFAState H × AttemptNext :=
  if s.row.failedAttempts = current.failedAttempts ∧ ¬ s.row.isLocked now then
    ({ s with
        row := { s.row with
          failedAttempts := (current.failOnce now).failedAttempts
          lockedUntil := (current.failOnce now).lockedUntil }
        wrong := if maxFailAttempts ≤ current.failedAttempts + 1 then 0 else s.wrong },
      .reply .failed)
  else
    match retries with
    | 0 => (s, .reply .conflict)
    | retries + 1 => (s, .go (.increment retries))

/-- The conditional update of `ValidateBackupCode`. -/
def useCode (id : ℕ) : TwoFAState H × AttemptNext :=
  match s.codes.find? id with
  | none => evaluatedWrong s
  | some code =>
    if code.isUsed then evaluatedWrong s
    else
      ({ s with
          codes := s.codes.save { code with isUsed := true, usedAt := some s.clock }
          accepted := s.accepted ++ [id] },
        .go .reset)

/-- One statement. -/
def attemptAct : AttemptTask → TwoFAState H × AttemptNext
  | .getTwoFA code => (s, .go (.verify s.row code))
  | .verify copy code =>
    if copy.isEnabled = false then (s, .reply .notEnabled)
    else if copy.isLocked s.clock then (s, .reply .locked)
    else
      match classify checks code with
      | .totp code => (s, .go (.validateTOTP copy code))
      | .backup code => (s, .go (.validateBackup copy code))
      | .malformed => evaluatedWrong s
  | .validateTOTP copy code =>
    if copy.isLocked s.clock then (s, .reply .locked)
    else if validateTOTPCode checks s.clock code then (s, .go .reset)
    else evaluatedWrong s
  | .validateBackup copy code =>
    if copy.isLocked s.clock then (s, .reply .locked) else (s, .go (.findCodes copy code))
  | .findCodes _ code =>
    match s.codes.rows.find? fun row => row.isUsed = false ∧
        checks.validatePasswordAndHash (normalizeBackupCode checks code) row.codeHash = true with
    | none => evaluatedWrong s
    | some row => (s, .go (.useCode row.id))
  | .useCode id => useCode s id
  | .increment retries => (s, .go (.incrementNow retries s.row))
  | .incrementNow retries current =>
    if current.isLocked s.clock then (s, .reply .failed)
    else (s, .go (.incrementWrite retries current s.clock))
  | .incrementWrite retries current now => incrementWrite s retries current now
  | .reset =>
    ({ s with
        row := { s.row with failedAttempts := 0, lockedUntil := none, lastUsedAt := some s.clock }
        wrong := 0
        successes := s.successes ++ [s.clock] },
      .reply .ok)

/-- The statement, with the attempt that is left. -/
def attemptPerform (task : AttemptTask) : TwoFAState H × Option AttemptTask :=
  match attemptAct checks s task with
  | (s', .go next) => (s', some next)
  | (s', .reply _) => (s', none)

/-- Attempts with any codes; besides them only time passes. -/
def attempts : CallSystem (TwoFAState H) AttemptTask String Unit ℕ where
  init _ code := .getTwoFA code
  perform s task _ := attemptPerform checks s task
  env s elapsed := { s with clock := s.clock + elapsed }

end

end TwoFactor
