import Mathlib.Tactic.Common
import Mathlib.Data.Nat.Notation
import Mathlib.Data.Int.Notation
import Mathlib.Algebra.Group.Nat.Defs

/-!
# Rows, claims, configuration and errors

The data types of `models.rs`, `config.rs` and `errors.rs`, with the fields the modelled services
read or write.

* `Role` with its order `isAtLeast`, `AuthMethod`, `Claims`;
* the rows `User`, `LocalCredential`, `OAuthCredential`, `RefreshToken`;
* `UserResponse`, `AuthResponse`, `Response`;
* `Config`, `OAuthProvider`, `Provider`;
* `SqlxError`, `AppError`.
-/

namespace Socle

/-- A UUID; only equality matters. -/
abbrev Uuid : Type := ℕ

/-- An instant in microseconds since the epoch, the resolution of a `TIMESTAMPTZ`. -/
abbrev OffsetDateTime : Type := ℤ

/-! ### Roles and claims -/

/-- The access tier of a user. -/
inductive Role
  | guest
  | user
  | admin
  deriving DecidableEq

/-- `guest < user < admin`. -/
def Role.level : Role → ℕ
  | .guest => 0
  | .user => 1
  | .admin => 2

def Role.isAtLeast (r required : Role) : Bool := decide (required.level ≤ r.level)

@[simp] theorem Role.isAtLeast_admin {r : Role} : r.isAtLeast .admin = true ↔ r = .admin := by
  cases r <;> decide

/-- How a session was established. -/
inductive AuthMethod
  | password
  | oauth
  deriving DecidableEq

/-- The claims of an access token; `iat` and `exp` are Unix seconds. -/
structure Claims where
  sub : Uuid
  iat : ℕ
  exp : ℕ
  email : String
  displayName : String
  role : Role
  authMethod : AuthMethod
  deriving DecidableEq

/-! ### Providers -/

/-- The supported identity providers (`config::OAuthProvider`). -/
inductive OAuthProvider
  | google
  | gitHub
  deriving DecidableEq

def OAuthProvider.fromSlug (slug : String) : Option OAuthProvider :=
  if slug = "google" then some .google
  else if slug = "github" then some .gitHub
  else none

def OAuthProvider.slug : OAuthProvider → String
  | .google => "google"
  | .gitHub => "github"

/-- The Postgres enum `oauth_provider` (`models::Provider`). -/
inductive Provider
  | google
  | gitHub
  deriving DecidableEq

def Provider.from : OAuthProvider → Provider
  | .google => .google
  | .gitHub => .gitHub

/-- The identity a provider reports after an OAuth flow. -/
structure OAuthProfile where
  provider : OAuthProvider
  providerUserId : String
  email : String
  displayName : Option String
  avatarUrl : Option String
  deriving DecidableEq

/-! ### Rows -/

/-- A row of `users`. -/
structure User where
  id : Uuid
  email : String
  displayName : String
  role : Role
  isActive : Bool
  createdAt : OffsetDateTime
  updatedAt : OffsetDateTime
  deriving DecidableEq

/-- A row of `local_credentials`. -/
structure LocalCredential where
  userId : Uuid
  username : String
  passwordHash : String
  createdAt : OffsetDateTime
  updatedAt : OffsetDateTime
  deriving DecidableEq

/-- A row of `oauth_credentials`; the token columns, which no statement sets, are left out. -/
structure OAuthCredential where
  id : Uuid
  userId : Uuid
  provider : Provider
  providerUserId : String
  avatarUrl : Option String
  createdAt : OffsetDateTime
  deriving DecidableEq

/-- A row of `refresh_tokens`. -/
structure RefreshToken where
  id : Uuid
  userId : Uuid
  tokenHash : String
  lookupKey : String
  expiresAt : OffsetDateTime
  revoked : Bool
  createdAt : OffsetDateTime
  deriving DecidableEq

/-! ### Responses -/

/-- The public view of a user. -/
structure UserResponse where
  id : Uuid
  email : String
  displayName : String
  username : Option String
  role : Role
  hasLocalCredential : Bool
  createdAt : OffsetDateTime
  updatedAt : OffsetDateTime
  deriving DecidableEq

/-- A user with its optional credential (`models::UserView`). -/
structure UserView where
  user : User
  localCredential : Option LocalCredential

def UserResponse.from (v : UserView) : UserResponse where
  id := v.user.id
  email := v.user.email
  displayName := v.user.displayName
  username := v.localCredential.map (·.username)
  role := v.user.role
  hasLocalCredential := v.localCredential.isSome
  createdAt := v.user.createdAt
  updatedAt := v.user.updatedAt

/-- What register, login, refresh and OAuth login return. -/
structure AuthResponse where
  accessToken : String
  refreshToken : String
  expiresIn : ℕ
  user : UserResponse
  deriving DecidableEq

/-- A linked provider, as `GET /auth/connections` lists it. -/
structure OAuthConnection where
  provider : Provider
  providerUserId : String
  createdAt : OffsetDateTime
  deriving DecidableEq

/-- The body of a successful response. -/
inductive Response
  | auth (r : AuthResponse)
  | user (r : UserResponse)
  | message (m : String)
  | connections (cs : List OAuthConnection)
  deriving DecidableEq

/-! ### Configuration -/

/-- The configuration the services read; the lifetimes are in seconds. -/
structure Config where
  jwtSecret : String
  accessTokenExpirySecs : UInt64
  refreshTokenExpirySecs : UInt64

/-- `u64::cast_signed`. -/
def castSigned (x : UInt64) : ℤ := Int.bmod x.toNat (2 ^ 64)

theorem castSigned_of_lt {x : UInt64} (h : x.toNat < 2 ^ 63) : castSigned x = x.toNat := by
  unfold castSigned
  rw [Int.bmod_def]
  omega

/-- The cast is exact for values that fit, and negative for all others. -/
theorem castSigned_nonneg_iff {x : UInt64} : 0 ≤ castSigned x ↔ x.toNat < 2 ^ 63 := by
  have hlt := x.toNat_lt
  unfold castSigned
  rw [Int.bmod_def]
  omega

/-! ### Errors -/

/-- The errors of a database call: one the server reports, with its code and message, or a failure
to reach the server. -/
inductive SqlxError
  | database (code message : String)
  | io
  deriving DecidableEq

/-- `errors::OAuthError`. -/
inductive OAuthError
  | unknownProvider (slug : String)
  deriving DecidableEq

/-- `errors::AppError`. -/
inductive AppError
  | invalidCredentials
  | tokenExpired
  | tokenInvalid
  | missingAuthHeader
  | refreshTokenInvalid
  | emailTaken
  | usernameTaken
  | userNotFound
  | accountDisabled
  | forbidden
  | database (e : SqlxError)
  | hashing
  | oauth (e : OAuthError)
  deriving DecidableEq

end Socle
