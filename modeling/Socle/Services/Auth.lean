import Socle.Services.User

/-!
# The authentication service

`services/auth.rs`: `register`, `login`, `refresh`, `logout`, `loginOrRegisterOAuth`.
-/

namespace Socle

open Interaction Prog

variable (env : Env)

/-- At least eight bytes. -/
def validatePassword (password : String) : App Unit :=
  if password.utf8ByteSize < 8 then throw .invalidCredentials else pure ()

/-- From three to thirty-two bytes. -/
def validateUsername (username : String) : App Unit :=
  if 3 ≤ username.utf8ByteSize ∧ username.utf8ByteSize ≤ 32 then pure ()
  else throw .invalidCredentials

namespace AuthService

/-- Sign an access token, create a refresh token, and answer with both. -/
def issueTokens (user : User) (authMethod : AuthMethod) (view : UserView) : App AuthResponse := do
  let accessToken ←
    TokenService.generateAccessToken env user.id user.email user.displayName user.role authMethod
  let refreshToken ← TokenService.createRefreshToken env user.id
  pure ⟨accessToken, refreshToken, env.config.accessTokenExpirySecs.toNat, .from view⟩

/-- Create an account with a local credential and issue tokens. -/
def register (email username password : String) : App AuthResponse := do
  validatePassword password
  validateUsername username
  let displayName := localPart email
  let (user, credential) ← UserService.create env email displayName username password
  issueTokens env user .password ⟨user, some credential⟩

/-- Check a password and issue tokens. -/
def login (email password : String) : App AuthResponse := do
  match ← UserService.findByEmail email with
  | none => throw .invalidCredentials
  | some user =>
    if user.isActive then do
      match ← UserService.findLocalCredential user.id with
      | none => throw .invalidCredentials
      | some credential => do
        if ← verifyPassword env password credential.passwordHash then
          issueTokens env user .password ⟨user, some credential⟩
        else throw .invalidCredentials
    else throw .accountDisabled

/-- Exchange a refresh token for a fresh pair of tokens. -/
def refresh (rawRefreshToken : String) : App AuthResponse := do
  let (newRefreshToken, userId) ← TokenService.rotateRefreshToken env rawRefreshToken
  let user ← UserService.findById userId
  if user.isActive then do
    let credential ← UserService.findLocalCredential user.id
    -- How the session began is not recorded; the method is read off the credentials there are.
    let authMethod : AuthMethod := if credential.isSome then .password else .oauth
    let accessToken ←
      TokenService.generateAccessToken env user.id user.email user.displayName user.role authMethod
    pure ⟨accessToken, newRefreshToken, env.config.accessTokenExpirySecs.toNat,
      .from ⟨user, credential⟩⟩
  else throw .accountDisabled

/-- Revoke all refresh tokens of the caller. -/
def logout (userId : Uuid) : App Unit := TokenService.revokeAllUserTokens userId

/-- The account of an OAuth profile: the linked one, else the one with its email address, else a
new one; the latter two are linked. -/
def resolveOAuth (profile : OAuthProfile) : App User := do
  match ← UserService.findByOAuthIdentity profile.provider profile.providerUserId with
  | some user => pure user
  | none => do
    let user ← match ← UserService.findByEmail profile.email with
      | some existing => pure existing
      | none => UserService.createFromOAuth env profile.email profile.displayName
    UserService.linkOAuthAccount env user.id profile
    pure user

/-- Log in with a verified OAuth profile. -/
def loginOrRegisterOAuth (profile : OAuthProfile) : App AuthResponse := do
  let user ← resolveOAuth env profile
  if user.isActive then do
    let credential ← UserService.findLocalCredential user.id
    issueTokens env user .oauth ⟨user, credential⟩
  else throw .accountDisabled

/-! ### Specifications -/

section SatE

variable {env} {P : Log Op Ret → Op → Prop} {E : Log Op Ret → AppError → Prop} {log : Log Op Ret}

@[simp] theorem satE_validatePassword {password : String} {Q : Log Op Ret → Unit → Prop} :
    SatE (validatePassword password) P Q E log ↔
      (password.utf8ByteSize < 8 → E log .invalidCredentials) ∧
        (¬ password.utf8ByteSize < 8 → Q log ()) := by
  simp only [validatePassword, satE_ite, satE_throw, satE_pure]

@[simp] theorem satE_validateUsername {username : String} {Q : Log Op Ret → Unit → Prop} :
    SatE (validateUsername username) P Q E log ↔
      (3 ≤ username.utf8ByteSize ∧ username.utf8ByteSize ≤ 32 → Q log ()) ∧
        (¬ (3 ≤ username.utf8ByteSize ∧ username.utf8ByteSize ≤ 32) → E log .invalidCredentials) := by
  simp only [validateUsername, satE_ite, satE_throw, satE_pure]

@[simp] theorem satE_issueTokens {user : User} {m : AuthMethod} {view : UserView}
    {Q : Log Op Ret → AuthResponse → Prop} :
    SatE (issueTokens env user m view) P Q E log ↔
      SatE (TokenService.generateAccessToken env user.id user.email user.displayName user.role m) P
        (fun l access => SatE (TokenService.createRefreshToken env user.id) P
          (fun l' raw => Q l' ⟨access, raw, env.config.accessTokenExpirySecs.toNat, .from view⟩) E l)
        E log := by
  simp only [issueTokens, satE_bind, satE_pure]

@[simp] theorem satE_resolveOAuth {profile : OAuthProfile} {Q : Log Op Ret → User → Prop} :
    SatE (resolveOAuth env profile) P Q E log ↔
      SatE (UserService.findByOAuthIdentity profile.provider profile.providerUserId) P
        (fun l found => (∀ user, found = some user → Q l user) ∧
          (found = none → SatE (UserService.findByEmail profile.email) P
            (fun l found =>
              (∀ user, found = some user →
                SatE (UserService.linkOAuthAccount env user.id profile) P (fun l _ => Q l user) E l) ∧
              (found = none →
                SatE (UserService.createFromOAuth env profile.email profile.displayName) P
                  (fun l user =>
                    SatE (UserService.linkOAuthAccount env user.id profile) P (fun l _ => Q l user) E l)
                  E l)) E l)) E log := by
  simp [resolveOAuth, and_assoc]

end SatE

end AuthService

end Socle
