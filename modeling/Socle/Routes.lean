import Socle.Services.Auth

/-!
# Requests

The extractors of `middleware.rs`, the admin service, and the handlers of `routes/`, from the parsed
request to the body of the response.

* `authUser`, `requireUser`, `requireAdmin`: from the `Authorization` header to claims;
* `Request`, `handle`: what clients can ask for, and the program that serves it;
* `service`: any number of clients of the service.
-/

namespace Socle

open Interaction Prog

variable (env : Env)

/-! ### Middleware -/

/-- `HeaderValue::to_str`: visible ASCII only. -/
def headerToStr (v : String) : Option String :=
  if v.toList.all fun c => (32 ≤ c.toNat && c.toNat < 127) || c.toNat = 9 then some v else none

/-- `str::strip_prefix`. -/
def stripPrefix (pre s : String) : Option String :=
  if pre.toList <+: s.toList then some (String.ofList (s.toList.drop pre.toList.length)) else none

/-- The bearer token of an `Authorization` header. -/
def extractBearer (authorization : Option String) : Option String :=
  (authorization.bind headerToStr).bind (stripPrefix "Bearer ")

/-- `AuthUser`. -/
def authUser (authorization : Option String) : App Claims :=
  match extractBearer authorization with
  | none => throw .missingAuthHeader
  | some token => TokenService.validateAccessToken token

def requireRole (claims : Claims) (minimum : Role) : App Unit :=
  if claims.role.isAtLeast minimum then pure () else throw .forbidden

/-- `RequireUser` and `RequireAdmin`: valid claims of at least the role `minimum`. -/
def requireClaims (minimum : Role) (authorization : Option String) : App Claims := do
  let claims ← authUser authorization
  requireRole claims minimum
  pure claims

def requireUser (authorization : Option String) : App Claims := requireClaims .user authorization

def requireAdmin (authorization : Option String) : App Claims := requireClaims .admin authorization

section SatE

variable {P : Log Op Ret → Op → Prop} {E : Log Op Ret → AppError → Prop} {log : Log Op Ret}
  {Q : Log Op Ret → Claims → Prop}

@[simp] theorem satE_authUser {authorization : Option String} :
    SatE (authUser authorization) P Q E log ↔
      (∀ token, extractBearer authorization = some token →
        SatE (TokenService.validateAccessToken token) P Q E log) ∧
      (extractBearer authorization = none → E log .missingAuthHeader) := by
  unfold authUser
  cases extractBearer authorization <;> simp

@[simp] theorem satE_requireClaims {minimum : Role} {authorization : Option String} :
    SatE (requireClaims minimum authorization) P Q E log ↔
      SatE (authUser authorization) P
        (fun l claims => (claims.role.isAtLeast minimum = true → Q l claims) ∧
          (¬ claims.role.isAtLeast minimum = true → E l .forbidden)) E log := by
  simp only [requireClaims, requireRole, satE_bind, satE_ite, satE_pure, satE_throw]

@[simp] theorem satE_requireUser {authorization : Option String} :
    SatE (requireUser authorization) P Q E log ↔
      SatE (requireClaims .user authorization) P Q E log := Iff.rfl

@[simp] theorem satE_requireAdmin {authorization : Option String} :
    SatE (requireAdmin authorization) P Q E log ↔
      SatE (requireClaims .admin authorization) P Q E log := Iff.rfl

end SatE

/-! ### The admin service -/

/-- Assign a role to another user. -/
def AdminService.updateUserRole (adminId targetId : Uuid) (newRole : Role) : App User :=
  if adminId = targetId then throw .forbidden else UserService.updateRole targetId newRole

/-! ### Handlers -/

/-- The requests that act on the database, with their parsed parameters. -/
inductive Request
  | register (email username password : String)
  | login (email password : String)
  | refresh (refreshToken : String)
  | logout (authorization : Option String)
  /-- A callback whose profile has been fetched from the provider. -/
  | oauthLogin (profile : OAuthProfile)
  | listConnections (authorization : Option String)
  | unlinkConnection (authorization : Option String) (slug : String)
  | getMe (authorization : Option String)
  | changePassword (authorization : Option String) (currentPassword newPassword : String)
  | deactivateAccount (authorization : Option String)
  | updateUserRole (authorization : Option String) (targetId : Uuid) (role : Role)
  deriving DecidableEq

def resolveProvider (slug : String) : App OAuthProvider :=
  match OAuthProvider.fromSlug slug with
  | some provider => pure provider
  | none => throw (.oauth (.unknownProvider slug))

@[simp] theorem satE_resolveProvider {P : Log Op Ret → Op → Prop} {E : Log Op Ret → AppError → Prop}
    {log : Log Op Ret} {slug : String} {Q : Log Op Ret → OAuthProvider → Prop} :
    SatE (resolveProvider slug) P Q E log ↔
      (∀ provider, OAuthProvider.fromSlug slug = some provider → Q log provider) ∧
        (OAuthProvider.fromSlug slug = none → E log (.oauth (.unknownProvider slug))) := by
  unfold resolveProvider
  cases OAuthProvider.fromSlug slug <;> simp

namespace Routes

def register (email username password : String) : App Response :=
  .auth <$> AuthService.register env email username password

def login (email password : String) : App Response := .auth <$> AuthService.login env email password

def refresh (refreshToken : String) : App Response := .auth <$> AuthService.refresh env refreshToken

def logout (authorization : Option String) : App Response := do
  let claims ← authUser authorization
  AuthService.logout claims.sub
  pure (.message "Logged out successfully")

def oauthLogin (profile : OAuthProfile) : App Response :=
  .auth <$> AuthService.loginOrRegisterOAuth env profile

def listConnections (authorization : Option String) : App Response := do
  let claims ← requireUser authorization
  .connections <$> UserService.listOAuthConnections claims.sub

def unlinkConnection (authorization : Option String) (slug : String) : App Response := do
  let claims ← requireUser authorization
  let provider ← resolveProvider slug
  UserService.unlinkOAuthAccount claims.sub provider
  pure (.message ("Provider '" ++ provider.slug ++ "' unlinked successfully"))

def getMe (authorization : Option String) : App Response := do
  let claims ← requireUser authorization
  let user ← UserService.findById claims.sub
  let credential ← UserService.findLocalCredential user.id
  pure (.user (.from ⟨user, credential⟩))

def changePassword (authorization : Option String) (currentPassword newPassword : String) :
    App Response := do
  let claims ← requireUser authorization
  UserService.changePassword env claims.sub currentPassword newPassword
  TokenService.revokeAllUserTokens claims.sub
  pure (.message "Password updated successfully")

def deactivateAccount (authorization : Option String) : App Response := do
  let claims ← requireUser authorization
  UserService.deactivate claims.sub
  TokenService.revokeAllUserTokens claims.sub
  pure (.message "Account deactivated")

def updateUserRole (authorization : Option String) (targetId : Uuid) (role : Role) :
    App Response := do
  let claims ← requireAdmin authorization
  let user ← AdminService.updateUserRole claims.sub targetId role
  let credential ← UserService.findLocalCredential user.id
  pure (.user (.from ⟨user, credential⟩))

end Routes

/-- The program that serves a request. -/
def handle : Request → App Response
  | .register email username password => Routes.register env email username password
  | .login email password => Routes.login env email password
  | .refresh refreshToken => Routes.refresh env refreshToken
  | .logout authorization => Routes.logout authorization
  | .oauthLogin profile => Routes.oauthLogin env profile
  | .listConnections authorization => Routes.listConnections authorization
  | .unlinkConnection authorization slug => Routes.unlinkConnection authorization slug
  | .getMe authorization => Routes.getMe authorization
  | .changePassword authorization current new => Routes.changePassword env authorization current new
  | .deactivateAccount authorization => Routes.deactivateAccount authorization
  | .updateUserRole authorization target role => Routes.updateUserRole authorization target role

/-- Time passes. -/
def Tick (s s' : State) : Prop := ∃ t, s.clock ≤ t ∧ s' = { s with clock := t }

/-- The service with any number of clients; its statements interleave freely and may fail. -/
def service : System Op Ret Request (Except AppError Response) State where
  handler := fun q => (handle env q).run
  sem := fun _ _ => Stmt env
  tick := Tick

end Socle
