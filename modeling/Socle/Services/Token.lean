import Socle.Services.App

/-!
# The token service

`services/token.rs`: access tokens, refresh tokens and password hashes.

* `generateAccessToken`, `validateAccessToken`;
* `createRefreshToken`, `rotateRefreshToken`, `revokeAllUserTokens`;
* `hashPassword`, `verifyPassword`.
-/

namespace Socle

open Interaction Prog

variable (env : Env)

/-- `unix_now`, in seconds; a clock before the epoch panics. -/
def unixNow : App ℕ := do
  let now ← perform .now
  if now < 0 then abort else pure (now / 1000000).toNat

/-- `Uuid::now_v7`. -/
def uuidNowV7 : App Uuid := do
  let n ← perform .random
  pure (env.prim.uuidV7 n)

/-- A random token. -/
def generateOpaqueToken : App String := do
  let n ← perform .random
  pure (env.prim.opaqueToken n)

/-- Hash a refresh token with a fresh salt; a failing hash panics. -/
def hashRefreshToken (raw : String) : App String := do
  let salt ← perform .random
  match env.prim.argon2Hash raw salt with
  | some hash => pure hash
  | none => abort

/-- Hash a password with a fresh salt. -/
def hashPassword (password : String) : App String := do
  let salt ← perform .random
  match env.prim.argon2Hash password salt with
  | some hash => pure hash
  | none => throw .hashing

def verifyPassword (password hash : String) : App Bool :=
  match env.prim.argon2Verify password hash with
  | some b => pure b
  | none => throw .hashing

/-- The instants of `time::OffsetDateTime`: the years from -9999 to 9999. -/
def OffsetDateTime.InRange (t : OffsetDateTime) : Prop :=
  -377705116800000000 ≤ t ∧ t < 253402300800000000

instance (t : OffsetDateTime) : Decidable t.InRange := inferInstanceAs (Decidable (_ ∧ _))

namespace TokenService

/-- The key under which the row of a refresh token is found. -/
def computeLookupKey (raw : String) : String := env.prim.hmacSha256 env.config.jwtSecret raw

/-- The claims of an access token issued at `now`; the addition of seconds wraps. -/
def accessClaims (userId : Uuid) (email displayName : String) (role : Role) (authMethod : AuthMethod)
    (now : ℕ) : Claims where
  sub := userId
  iat := now
  exp := (now + env.config.accessTokenExpirySecs.toNat) % 2 ^ 64
  email := email
  displayName := displayName
  role := role
  authMethod := authMethod

/-- Sign an access token. -/
def generateAccessToken (userId : Uuid) (email displayName : String) (role : Role)
    (authMethod : AuthMethod) : App String := do
  let now ← unixNow
  match ← perform (.encode (accessClaims env userId email displayName role authMethod now)) with
  | .ok token => pure token
  | .error _ => throw .tokenInvalid

/-- Check an access token and return its claims. -/
def validateAccessToken (token : String) : App Claims := do
  match ← perform (.decode token) with
  | .ok claims => pure claims
  | .error .expiredSignature => throw .tokenExpired
  | .error .invalid => throw .tokenInvalid

/-- The lifetime of refresh tokens in microseconds, after `cast_signed`. -/
def refreshLifetime : ℤ := castSigned env.config.refreshTokenExpirySecs * 1000000

/-- Create a refresh token, store its hash and return it; an expiry outside the range of
`OffsetDateTime` panics. -/
def createRefreshToken (userId : Uuid) : App String := do
  let raw ← generateOpaqueToken env
  let tokenHash ← hashRefreshToken env raw
  let lookupKey := computeLookupKey env raw
  let now ← perform .now
  let expiresAt : OffsetDateTime := now + refreshLifetime env
  if expiresAt.InRange then do
    let id ← uuidNowV7 env
    query (.insertRefreshToken id userId tokenHash lookupKey expiresAt) .database
    pure raw
  else abort

/-- Revoke all refresh tokens of a user. -/
def revokeAllUserTokens (userId : Uuid) : App Unit :=
  query (.revokeUserRefreshTokens userId) .database

/-- Whether a record may not be rotated; the clock is read only for a token that is not revoked. -/
def isStale (record : RefreshTokenRow) : App Bool :=
  if record.revoked then pure true
  else do
    let now ← perform .now
    pure (decide (record.expiresAt < now))

/-- What `rotateRefreshToken` does with the row it has found. -/
def rotateRecord (rawToken : String) (record : RefreshTokenRow) : App (String × Uuid) := do
  if ← isStale record then do
    revokeAllUserTokens record.userId
    throw .refreshTokenInvalid
  else
    match env.prim.argon2Verify rawToken record.tokenHash with
    | some true => do
      query (.revokeRefreshToken record.id) .database
      let newRaw ← createRefreshToken env record.userId
      pure (newRaw, record.userId)
    -- The stored hash does not parse, or the token does not match it.
    | _ => throw .refreshTokenInvalid

/-- Exchange a refresh token: the old one is revoked and a new one issued. -/
def rotateRefreshToken (rawToken : String) : App (String × Uuid) := do
  let lookupKey := computeLookupKey env rawToken
  match ← query (.selectRefreshToken lookupKey) .database with
  | none => throw .refreshTokenInvalid
  | some record => rotateRecord env rawToken record

end TokenService

/-! ### Specifications

What each function asks for and returns, in the logic of logs. -/

section SatE

variable {env} {P : Log Op Ret → Op → Prop} {E : Log Op Ret → AppError → Prop} {log : Log Op Ret}

@[simp] theorem satE_unixNow {Q : Log Op Ret → ℕ → Prop} :
    SatE unixNow P Q E log ↔ P log .now ∧ ∀ t : OffsetDateTime,
      (t < 0 → P (⟨.now, t⟩ :: log) .abort) ∧
        (¬ t < 0 → Q (⟨.now, t⟩ :: log) (t / 1000000).toNat) := by
  simp only [unixNow, satE_bind, satE_perform, satE_ite, satE_abort, satE_pure]

@[simp] theorem satE_uuidNowV7 {Q : Log Op Ret → Uuid → Prop} :
    SatE (uuidNowV7 env) P Q E log ↔
      P log .random ∧ ∀ n, Q (⟨.random, n⟩ :: log) (env.prim.uuidV7 n) := by
  simp only [uuidNowV7, satE_bind, satE_perform, satE_pure]

@[simp] theorem satE_generateOpaqueToken {Q : Log Op Ret → String → Prop} :
    SatE (generateOpaqueToken env) P Q E log ↔
      P log .random ∧ ∀ n, Q (⟨.random, n⟩ :: log) (env.prim.opaqueToken n) := by
  simp only [generateOpaqueToken, satE_bind, satE_perform, satE_pure]

@[simp] theorem satE_hashRefreshToken {raw : String} {Q : Log Op Ret → String → Prop} :
    SatE (hashRefreshToken env raw) P Q E log ↔ P log .random ∧ ∀ salt,
      (∀ hash, env.prim.argon2Hash raw salt = some hash → Q (⟨.random, salt⟩ :: log) hash) ∧
        (env.prim.argon2Hash raw salt = none → P (⟨.random, salt⟩ :: log) .abort) := by
  simp only [hashRefreshToken, satE_bind, satE_perform]
  refine and_congr_right fun _ => forall_congr' fun salt => ?_
  cases env.prim.argon2Hash raw salt <;> simp [satE_pure, satE_abort]

@[simp] theorem satE_hashPassword {password : String} {Q : Log Op Ret → String → Prop} :
    SatE (hashPassword env password) P Q E log ↔ P log .random ∧ ∀ salt,
      (∀ hash, env.prim.argon2Hash password salt = some hash → Q (⟨.random, salt⟩ :: log) hash) ∧
        (env.prim.argon2Hash password salt = none → E (⟨.random, salt⟩ :: log) .hashing) := by
  simp only [hashPassword, satE_bind, satE_perform]
  refine and_congr_right fun _ => forall_congr' fun salt => ?_
  cases env.prim.argon2Hash password salt <;> simp [satE_pure, satE_throw]

@[simp] theorem satE_verifyPassword {password hash : String} {Q : Log Op Ret → Bool → Prop} :
    SatE (verifyPassword env password hash) P Q E log ↔
      (∀ b, env.prim.argon2Verify password hash = some b → Q log b) ∧
        (env.prim.argon2Verify password hash = none → E log .hashing) := by
  unfold verifyPassword
  cases env.prim.argon2Verify password hash <;> simp [satE_pure, satE_throw]

namespace TokenService

@[simp] theorem satE_generateAccessToken {id : Uuid} {email name : String} {role : Role} {m : AuthMethod}
    {Q : Log Op Ret → String → Prop} :
    SatE (generateAccessToken env id email name role m) P Q E log ↔
      P log .now ∧ ∀ t : OffsetDateTime,
        (t < 0 → P (⟨.now, t⟩ :: log) .abort) ∧
        (¬ t < 0 →
          let claims := accessClaims env id email name role m (t / 1000000).toNat
          P (⟨.now, t⟩ :: log) (.encode claims) ∧
            (∀ token, Q (⟨.encode claims, .ok token⟩ :: ⟨.now, t⟩ :: log) token) ∧
            ∀ e, E (⟨.encode claims, .error e⟩ :: ⟨.now, t⟩ :: log) .tokenInvalid) := by
  simp only [generateAccessToken, satE_bind, satE_unixNow, satE_perform]
  refine and_congr_right fun _ => forall_congr' fun t => and_congr_right fun _ =>
    forall_congr' fun _ => and_congr_right fun _ =>
      ⟨fun h => ⟨fun token => h (.ok token), fun e => h (.error e)⟩, ?_⟩
  rintro ⟨hok, herr⟩ (e | token)
  · exact herr e
  · exact hok token

@[simp] theorem satE_validateAccessToken {token : String} {Q : Log Op Ret → Claims → Prop} :
    SatE (validateAccessToken token) P Q E log ↔ P log (.decode token) ∧
      (∀ claims, Q (⟨.decode token, .ok claims⟩ :: log) claims) ∧
      E (⟨.decode token, .error .expiredSignature⟩ :: log) .tokenExpired ∧
      E (⟨.decode token, .error .invalid⟩ :: log) .tokenInvalid := by
  simp only [validateAccessToken, satE_bind, satE_perform]
  refine and_congr_right fun _ =>
    ⟨fun h => ⟨fun c => h (.ok c), h (.error .expiredSignature), h (.error .invalid)⟩, ?_⟩
  rintro ⟨hok, hexpired, hinvalid⟩ ((_ | _) | claims)
  · exact hexpired
  · exact hinvalid
  · exact hok claims

@[simp] theorem satE_createRefreshToken {userId : Uuid} {Q : Log Op Ret → String → Prop} :
    SatE (createRefreshToken env userId) P Q E log ↔
      P log .random ∧ ∀ n, P (⟨.random, n⟩ :: log) .random ∧ ∀ salt,
        (∀ hash, env.prim.argon2Hash (env.prim.opaqueToken n) salt = some hash →
          P (⟨.random, salt⟩ :: ⟨.random, n⟩ :: log) .now ∧ ∀ t : OffsetDateTime,
            let log' := ⟨.now, t⟩ :: ⟨.random, salt⟩ :: ⟨.random, n⟩ :: log
            (OffsetDateTime.InRange (t + refreshLifetime env) → P log' .random ∧ ∀ k,
              let q := Sql.insertRefreshToken (env.prim.uuidV7 k) userId hash
                (computeLookupKey env (env.prim.opaqueToken n)) (t + refreshLifetime env)
              P (⟨.random, k⟩ :: log') (.sql q) ∧
                (∀ r, Q (⟨.sql q, .ok r⟩ :: ⟨.random, k⟩ :: log') (env.prim.opaqueToken n)) ∧
                ∀ e, E (⟨.sql q, .error e⟩ :: ⟨.random, k⟩ :: log') (.database e)) ∧
            (¬ OffsetDateTime.InRange (t + refreshLifetime env) → P log' .abort)) ∧
        (env.prim.argon2Hash (env.prim.opaqueToken n) salt = none →
          P (⟨.random, salt⟩ :: ⟨.random, n⟩ :: log) .abort) := by
  simp only [createRefreshToken, satE_bind, satE_generateOpaqueToken, satE_hashRefreshToken,
    satE_perform, satE_ite, satE_uuidNowV7, satE_query, satE_pure, satE_abort]

@[simp] theorem satE_revokeAllUserTokens {userId : Uuid} {Q : Log Op Ret → Unit → Prop} :
    SatE (revokeAllUserTokens userId) P Q E log ↔
      P log (.sql (.revokeUserRefreshTokens userId)) ∧
        (∀ r, Q (⟨.sql (.revokeUserRefreshTokens userId), .ok r⟩ :: log) r) ∧
        ∀ e, E (⟨.sql (.revokeUserRefreshTokens userId), .error e⟩ :: log) (.database e) := by
  simp only [revokeAllUserTokens, satE_query]

@[simp] theorem satE_isStale {record : RefreshTokenRow} {Q : Log Op Ret → Bool → Prop} :
    SatE (isStale record) P Q E log ↔
      (record.revoked = true → Q log true) ∧
        (¬ record.revoked = true → P log .now ∧
          ∀ t : OffsetDateTime, Q (⟨.now, t⟩ :: log) (decide (record.expiresAt < t))) := by
  simp only [isStale, satE_ite, satE_bind, satE_perform, satE_pure]

@[simp] theorem satE_rotateRecord {rawToken : String} {record : RefreshTokenRow}
    {Q : Log Op Ret → String × Uuid → Prop} :
    SatE (rotateRecord env rawToken record) P Q E log ↔
      SatE (isStale record) P
        (fun l stale =>
          (stale = true → SatE (revokeAllUserTokens record.userId) P
            (fun l' _ => E l' .refreshTokenInvalid) E l) ∧
          (¬ stale = true →
            (env.prim.argon2Verify rawToken record.tokenHash = some true →
              P l (.sql (.revokeRefreshToken record.id)) ∧
              (∀ r, SatE (createRefreshToken env record.userId) P
                (fun l' newRaw => Q l' (newRaw, record.userId)) E
                (⟨.sql (.revokeRefreshToken record.id), .ok r⟩ :: l)) ∧
              ∀ e, E (⟨.sql (.revokeRefreshToken record.id), .error e⟩ :: l) (.database e)) ∧
            (env.prim.argon2Verify rawToken record.tokenHash ≠ some true →
              E l .refreshTokenInvalid))) E log := by
  simp only [rotateRecord, satE_bind, satE_ite, satE_throw]
  refine iff_of_eq (congrArg (fun Q => SatE (isStale record) P Q E log) ?_)
  funext l stale
  refine propext (and_congr_right fun _ => forall_congr' fun _ => ?_)
  rcases env.prim.argon2Verify rawToken record.tokenHash with _ | _ | _ <;>
    simp [satE_throw, satE_bind, satE_query, satE_map]

@[simp] theorem satE_rotateRefreshToken {rawToken : String} {Q : Log Op Ret → String × Uuid → Prop} :
    SatE (rotateRefreshToken env rawToken) P Q E log ↔
      let q := Sql.selectRefreshToken (computeLookupKey env rawToken)
      P log (.sql q) ∧
        E (⟨.sql q, .ok none⟩ :: log) .refreshTokenInvalid ∧
        (∀ record, SatE (rotateRecord env rawToken record) P Q E (⟨.sql q, .ok (some record)⟩ :: log)) ∧
        ∀ e, E (⟨.sql q, .error e⟩ :: log) (.database e) := by
  simp only [rotateRefreshToken, satE_bind, satE_query]
  refine and_congr_right fun _ => ?_
  constructor
  · rintro ⟨hok, herr⟩
    exact ⟨hok none, fun record => hok (some record), herr⟩
  · rintro ⟨hnone, hsome, herr⟩
    refine ⟨?_, herr⟩
    rintro (_ | record)
    · exact hnone
    · exact hsome record

end TokenService

end SatE

end Socle
