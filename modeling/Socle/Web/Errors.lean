import Socle.Web.Statements

/-!
# Error responses

`errors.rs`: the status, the code, the message and the headers with which an error is reported.

* `OAuthError`, `FlowError`, `AppError`, `WebError`: `statusCode`, `errorCode`, `message`;
* `WebError.intoResponse`;
* `WebError.status_of_code`: the code determines the status;
* `WebError.serverError_iff`: which errors are reported as errors of the server.
-/

namespace Socle

/-- `Display` of `sqlx::Error`. -/
abbrev SqlxDisplay : Type := SqlxError → String

/-! ### Statuses, codes and messages -/

namespace OAuthError

def statusCode : OAuthError → ℕ
  | unknownProvider _ => 404

def errorCode : OAuthError → String
  | unknownProvider _ => "OAUTH_UNKNOWN_PROVIDER"

def message : OAuthError → String
  | unknownProvider slug => "unknown OAuth provider: '" ++ slug ++ "'"

end OAuthError

namespace FlowError

def statusCode : FlowError → ℕ
  | providerNotConfigured _ | stateStore _ | stateStoreRedis _ => 503
  | invalidState | providerMismatch _ _ | exchangeCodeInvalid => 401
  | tokenExchange _ | providerUnreachable _ | incompleteProfile _ => 502
  | invalidRedirectUri _ => 500
  | providerDenied _ _ => 400

def errorCode : FlowError → String
  | providerNotConfigured _ => "OAUTH_PROVIDER_NOT_CONFIGURED"
  | invalidState => "OAUTH_INVALID_STATE"
  | providerMismatch _ _ => "OAUTH_PROVIDER_MISMATCH"
  | tokenExchange _ => "OAUTH_TOKEN_EXCHANGE_FAILED"
  | providerUnreachable _ => "OAUTH_PROVIDER_UNREACHABLE"
  | incompleteProfile _ => "OAUTH_INCOMPLETE_PROFILE"
  | invalidRedirectUri _ => "OAUTH_INVALID_REDIRECT_URI"
  | stateStore _ => "OAUTH_STATE_STORE_UNAVAILABLE"
  | stateStoreRedis _ => "OAUTH_STATE_STORE_ERROR"
  | providerDenied _ _ => "OAUTH_PROVIDER_DENIED"
  | exchangeCodeInvalid => "EXCHANGE_CODE_INVALID"

def message : FlowError → String
  | providerNotConfigured provider => "OAuth provider '" ++ provider.slug ++ "' is not configured"
  | invalidState => "invalid or expired OAuth state token"
  | providerMismatch expected actual =>
    "OAuth state provider mismatch: expected " ++ expected.slug ++ ", got " ++ actual.slug
  | tokenExchange message => "token exchange failed: " ++ message
  | providerUnreachable message => "provider unreachable: " ++ message
  | incompleteProfile field => "incomplete provider profile: missing field '" ++ field ++ "'"
  | invalidRedirectUri message => "invalid redirect URI: " ++ message
  | stateStore message => "OAuth state store unavailable: " ++ message
  | stateStoreRedis message => "OAuth state store error: " ++ message
  | providerDenied error detail => "provider denied authorization: " ++ error ++ " — " ++ detail
  | exchangeCodeInvalid => "exchange code is invalid or expired"

end FlowError

namespace AppError

def statusCode : AppError → ℕ
  | invalidCredentials | tokenExpired | tokenInvalid | missingAuthHeader | refreshTokenInvalid => 401
  | emailTaken | usernameTaken => 409
  | userNotFound => 404
  | accountDisabled | forbidden => 403
  | database _ | hashing => 500
  | oauth e => e.statusCode

def errorCode : AppError → String
  | invalidCredentials => "INVALID_CREDENTIALS"
  | tokenExpired => "TOKEN_EXPIRED"
  | tokenInvalid => "TOKEN_INVALID"
  | missingAuthHeader => "MISSING_AUTH_HEADER"
  | refreshTokenInvalid => "REFRESH_TOKEN_INVALID"
  | emailTaken => "EMAIL_TAKEN"
  | usernameTaken => "USERNAME_TAKEN"
  | userNotFound => "USER_NOT_FOUND"
  | accountDisabled => "ACCOUNT_DISABLED"
  | forbidden => "FORBIDDEN"
  | database _ => "DATABASE_ERROR"
  | hashing => "HASHING_ERROR"
  | oauth e => e.errorCode

def message (display : SqlxDisplay) : AppError → String
  | invalidCredentials => "invalid credentials"
  | tokenExpired => "token has expired"
  | tokenInvalid => "token is invalid"
  | missingAuthHeader => "missing authorization header"
  | refreshTokenInvalid => "refresh token not found or revoked"
  | emailTaken => "email is already taken"
  | usernameTaken => "username is already taken"
  | userNotFound => "user not found"
  | accountDisabled => "account is disabled"
  | forbidden => "insufficient permissions"
  | database e => "database error: " ++ display e
  | hashing => "password hashing error"
  | oauth e => e.message

end AppError

/-! ### Responses -/

/-- An error as a client sees it. -/
structure ErrorResponse where
  status : ℕ
  code : String
  message : String
  /-- The header `Retry-After`. -/
  retryAfter : Option String
  deriving DecidableEq

namespace WebError

def statusCode : WebError → ℕ
  | app e => e.statusCode
  | oauth e => e.statusCode
  | rateLimited _ => 429

def errorCode : WebError → String
  | app e => e.errorCode
  | oauth e => e.errorCode
  | rateLimited _ => "RATE_LIMITED"

def message (display : SqlxDisplay) : WebError → String
  | app e => e.message display
  | oauth e => e.message
  | rateLimited retryAfter => "rate limit exceeded, retry after " ++ toString retryAfter ++ "s"

/-- `IntoResponse`. -/
def intoResponse (display : SqlxDisplay) (e : WebError) : ErrorResponse where
  status := e.statusCode
  code := e.errorCode
  message := e.message display
  retryAfter :=
    match e with
    | rateLimited retryAfter => some (toString retryAfter)
    | _ => none

/-- The status that belongs to a code. -/
def statusOfCode : String → ℕ
  | "OAUTH_PROVIDER_DENIED" => 400
  | "INVALID_CREDENTIALS" | "TOKEN_EXPIRED" | "TOKEN_INVALID" | "MISSING_AUTH_HEADER"
  | "REFRESH_TOKEN_INVALID" | "OAUTH_INVALID_STATE" | "OAUTH_PROVIDER_MISMATCH"
  | "EXCHANGE_CODE_INVALID" => 401
  | "ACCOUNT_DISABLED" | "FORBIDDEN" => 403
  | "USER_NOT_FOUND" | "OAUTH_UNKNOWN_PROVIDER" => 404
  | "EMAIL_TAKEN" | "USERNAME_TAKEN" => 409
  | "RATE_LIMITED" => 429
  | "OAUTH_TOKEN_EXCHANGE_FAILED" | "OAUTH_PROVIDER_UNREACHABLE" | "OAUTH_INCOMPLETE_PROFILE" => 502
  | "OAUTH_PROVIDER_NOT_CONFIGURED" | "OAUTH_STATE_STORE_UNAVAILABLE" | "OAUTH_STATE_STORE_ERROR" => 503
  | _ => 500

/-- **The code determines the status**, so clients can match on it. -/
theorem status_of_code (e : WebError) : statusOfCode e.errorCode = e.statusCode := by
  cases e with
  | rateLimited => rfl
  | oauth e => cases e <;> rfl
  | app e =>
    cases e with
    | oauth e =>
      cases e
      rfl
    | _ => rfl

/-- The errors that are reported as errors of the server. -/
def serverError : WebError → Bool
  | app (.database _) | app .hashing => true
  | oauth (.providerNotConfigured _) | oauth (.stateStore _) | oauth (.stateStoreRedis _) => true
  | oauth (.tokenExchange _) | oauth (.providerUnreachable _) | oauth (.incompleteProfile _) => true
  | oauth (.invalidRedirectUri _) => true
  | _ => false

theorem serverError_iff (e : WebError) : e.serverError = true ↔ 500 ≤ e.statusCode := by
  cases e with
  | rateLimited => simp [serverError, statusCode]
  | oauth e => cases e <;> simp [serverError, statusCode, FlowError.statusCode]
  | app e =>
    cases e with
    | oauth e =>
      cases e
      simp [serverError, statusCode, AppError.statusCode, OAuthError.statusCode]
    | _ => simp [serverError, statusCode, AppError.statusCode]

/-- A client is told when to come back if, and only if, it has been counted beyond the limit. -/
theorem retryAfter_iff (display : SqlxDisplay) (e : WebError) :
    (e.intoResponse display).retryAfter.isSome = true ↔ (e.intoResponse display).status = 429 := by
  cases e with
  | rateLimited => simp [intoResponse, statusCode]
  | oauth e => cases e <;> simp [intoResponse, statusCode, FlowError.statusCode]
  | app e =>
    cases e with
    | oauth e =>
      cases e
      simp [intoResponse, statusCode, AppError.statusCode, OAuthError.statusCode]
    | _ => simp [intoResponse, statusCode, AppError.statusCode]

end WebError

end Socle
