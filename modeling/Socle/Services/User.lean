import Mathlib.Data.List.Infix
import Socle.Services.Token

/-!
# The user service

`services/user.rs`: users, local credentials and OAuth links.

* `mapConstraintErr`: which unique violations become errors of their own;
* `create`, `createFromOAuth`: the two ways to a new `users` row;
* `changePassword`, `updateRole`, `deactivate`, `linkOAuthAccount`, `unlinkOAuthAccount`, ….
-/

namespace Socle

open Interaction Prog

variable (env : Env)

/-- A unique violation whose message names `constraint` becomes `mapped`. -/
def mapConstraintErr (err : SqlxError) (constraint : String) (mapped : AppError) : AppError :=
  match err with
  | .database code message =>
    if code = "23505" ∧ constraint.toList <:+: message.toList then mapped else .database err
  | .io => .database err

/-- `email.split('@').next()`. -/
def localPart (email : String) : String := String.ofList (email.toList.takeWhile (· ≠ '@'))

namespace UserService

def findById (id : Uuid) : App User := do
  match ← query (.selectUserById id) .database with
  | some user => pure user
  | none => throw .userNotFound

def findByEmail (email : String) : App (Option User) := query (.selectUserByEmail email) .database

def findLocalCredential (userId : Uuid) : App (Option LocalCredential) :=
  query (.selectLocalCredential userId) .database

/-- What `create` reports for a failed transaction. -/
def createErr : TxError → AppError
  | .users e => mapConstraintErr e "users_email_key" .emailTaken
  | .localCredentials e => mapConstraintErr e "local_credentials_username_key" .usernameTaken
  | .transaction e => .database e

/-- Create a user with a local credential, both in one transaction. -/
def create (email displayName username password : String) : App (User × LocalCredential) := do
  let passwordHash ← hashPassword env password
  let userId ← uuidNowV7 env
  query (.insertAccount userId email displayName username passwordHash) createErr

/-- Create a user from an OAuth profile, without a local credential. -/
def createFromOAuth (email : String) (displayName : Option String) : App User := do
  let name := displayName.getD (localPart email)
  let id ← uuidNowV7 env
  query (.insertUser id email name) fun err => mapConstraintErr err "users_email_key" .emailTaken

/-- Replace the password after checking the current one. -/
def changePassword (userId : Uuid) (currentPassword newPassword : String) : App Unit := do
  match ← findLocalCredential userId with
  | none => throw .userNotFound
  | some credential => do
    if ← verifyPassword env currentPassword credential.passwordHash then do
      let newHash ← hashPassword env newPassword
      query (.updatePasswordHash newHash userId) .database
    else throw .invalidCredentials

def updateRole (userId : Uuid) (role : Role) : App User := do
  match ← query (.updateRole role userId) .database with
  | some user => pure user
  | none => throw .userNotFound

def deactivate (userId : Uuid) : App Unit := query (.deactivateUser userId) .database

def findByOAuthIdentity (provider : OAuthProvider) (providerUserId : String) : App (Option User) :=
  query (.selectUserByOAuthIdentity (.from provider) providerUserId) .database

/-- Link a user to an external identity; an identity that is linked already stays as it is. -/
def linkOAuthAccount (userId : Uuid) (profile : OAuthProfile) : App Unit := do
  let id ← uuidNowV7 env
  query (.insertOAuthCredential id userId (.from profile.provider) profile.providerUserId
    profile.avatarUrl) .database

def listOAuthConnections (userId : Uuid) : App (List OAuthConnection) :=
  query (.selectOAuthConnections userId) .database

def unlinkOAuthAccount (userId : Uuid) (provider : OAuthProvider) : App Unit := do
  let rowsAffected ← query (.deleteOAuthCredential userId (.from provider)) .database
  if rowsAffected = 0 then throw .userNotFound else pure ()

/-! ### Specifications -/

section SatE

variable {env} {P : Log Op Ret → Op → Prop} {E : Log Op Ret → AppError → Prop} {log : Log Op Ret}

@[simp] theorem satE_findById {id : Uuid} {Q : Log Op Ret → User → Prop} :
    SatE (findById id) P Q E log ↔
      P log (.sql (.selectUserById id)) ∧
        E (⟨.sql (.selectUserById id), .ok none⟩ :: log) .userNotFound ∧
        (∀ user, Q (⟨.sql (.selectUserById id), .ok (some user)⟩ :: log) user) ∧
        ∀ e, E (⟨.sql (.selectUserById id), .error e⟩ :: log) (.database e) := by
  simp only [findById, satE_bind, satE_query, Option.forall, satE_throw, satE_pure, and_assoc]

@[simp] theorem satE_findByEmail {email : String} {Q : Log Op Ret → Option User → Prop} :
    SatE (findByEmail email) P Q E log ↔
      P log (.sql (.selectUserByEmail email)) ∧
        Q (⟨.sql (.selectUserByEmail email), .ok none⟩ :: log) none ∧
        (∀ user, Q (⟨.sql (.selectUserByEmail email), .ok (some user)⟩ :: log) (some user)) ∧
        ∀ e, E (⟨.sql (.selectUserByEmail email), .error e⟩ :: log) (.database e) := by
  simp only [findByEmail, satE_query, Option.forall, and_assoc]

@[simp] theorem satE_findByOAuthIdentity {provider : OAuthProvider} {puid : String}
    {Q : Log Op Ret → Option User → Prop} :
    SatE (findByOAuthIdentity provider puid) P Q E log ↔
      let q := Sql.selectUserByOAuthIdentity (.from provider) puid
      P log (.sql q) ∧ Q (⟨.sql q, .ok none⟩ :: log) none ∧
        (∀ user, Q (⟨.sql q, .ok (some user)⟩ :: log) (some user)) ∧
        ∀ e, E (⟨.sql q, .error e⟩ :: log) (.database e) := by
  simp only [findByOAuthIdentity, satE_query, Option.forall, and_assoc]

@[simp] theorem satE_findLocalCredential {id : Uuid} {Q : Log Op Ret → Option LocalCredential → Prop} :
    SatE (findLocalCredential id) P Q E log ↔
      P log (.sql (.selectLocalCredential id)) ∧
        Q (⟨.sql (.selectLocalCredential id), .ok none⟩ :: log) none ∧
        (∀ c, Q (⟨.sql (.selectLocalCredential id), .ok (some c)⟩ :: log) (some c)) ∧
        ∀ e, E (⟨.sql (.selectLocalCredential id), .error e⟩ :: log) (.database e) := by
  simp only [findLocalCredential, satE_query, Option.forall, and_assoc]

@[simp] theorem satE_create {email name username password : String}
    {Q : Log Op Ret → User × LocalCredential → Prop} :
    SatE (create env email name username password) P Q E log ↔
      SatE (hashPassword env password) P (fun l hash => P l .random ∧ ∀ n,
        let q := Sql.insertAccount (env.prim.uuidV7 n) email name username hash
        P (⟨.random, n⟩ :: l) (.sql q) ∧
          (∀ r, Q (⟨.sql q, .ok r⟩ :: ⟨.random, n⟩ :: l) r) ∧
          ∀ e, E (⟨.sql q, .error e⟩ :: ⟨.random, n⟩ :: l) (createErr e)) E log := by
  simp only [create, satE_bind, satE_uuidNowV7, satE_query]

@[simp] theorem satE_createFromOAuth {email : String} {name : Option String} {Q : Log Op Ret → User → Prop} :
    SatE (createFromOAuth env email name) P Q E log ↔ P log .random ∧ ∀ n,
      let q := Sql.insertUser (env.prim.uuidV7 n) email (name.getD (localPart email))
      P (⟨.random, n⟩ :: log) (.sql q) ∧
        (∀ r, Q (⟨.sql q, .ok r⟩ :: ⟨.random, n⟩ :: log) r) ∧
        ∀ e, E (⟨.sql q, .error e⟩ :: ⟨.random, n⟩ :: log)
          (mapConstraintErr e "users_email_key" .emailTaken) := by
  simp only [createFromOAuth, satE_bind, satE_uuidNowV7, satE_query]

@[simp] theorem satE_changePassword {id : Uuid} {current new : String} {Q : Log Op Ret → Unit → Prop} :
    SatE (changePassword env id current new) P Q E log ↔
      P log (.sql (.selectLocalCredential id)) ∧
        E (⟨.sql (.selectLocalCredential id), .ok none⟩ :: log) .userNotFound ∧
        (∀ c : LocalCredential,
          SatE (verifyPassword env current c.passwordHash) P
            (fun l verified =>
              (verified = true → SatE (hashPassword env new) P
                (fun l hash => P l (.sql (.updatePasswordHash hash id)) ∧
                  (∀ r, Q (⟨.sql (.updatePasswordHash hash id), .ok r⟩ :: l) r) ∧
                  ∀ e, E (⟨.sql (.updatePasswordHash hash id), .error e⟩ :: l) (.database e)) E l) ∧
              (¬ verified = true → E l .invalidCredentials)) E
            (⟨.sql (.selectLocalCredential id), .ok (some c)⟩ :: log)) ∧
        ∀ e, E (⟨.sql (.selectLocalCredential id), .error e⟩ :: log) (.database e) := by
  simp only [changePassword, satE_bind, satE_findLocalCredential, satE_throw, satE_ite, satE_query]

@[simp] theorem satE_updateRole {id : Uuid} {role : Role} {Q : Log Op Ret → User → Prop} :
    SatE (updateRole id role) P Q E log ↔
      P log (.sql (.updateRole role id)) ∧
        E (⟨.sql (.updateRole role id), .ok none⟩ :: log) .userNotFound ∧
        (∀ user, Q (⟨.sql (.updateRole role id), .ok (some user)⟩ :: log) user) ∧
        ∀ e, E (⟨.sql (.updateRole role id), .error e⟩ :: log) (.database e) := by
  simp only [updateRole, satE_bind, satE_query, Option.forall, satE_throw, satE_pure, and_assoc]

@[simp] theorem satE_deactivate {id : Uuid} {Q : Log Op Ret → Unit → Prop} :
    SatE (deactivate id) P Q E log ↔
      P log (.sql (.deactivateUser id)) ∧
        (∀ r, Q (⟨.sql (.deactivateUser id), .ok r⟩ :: log) r) ∧
        ∀ e, E (⟨.sql (.deactivateUser id), .error e⟩ :: log) (.database e) := by
  simp only [deactivate, satE_query]

@[simp] theorem satE_linkOAuthAccount {id : Uuid} {profile : OAuthProfile} {Q : Log Op Ret → Unit → Prop} :
    SatE (linkOAuthAccount env id profile) P Q E log ↔ P log .random ∧ ∀ n,
      let q := Sql.insertOAuthCredential (env.prim.uuidV7 n) id (.from profile.provider)
        profile.providerUserId profile.avatarUrl
      P (⟨.random, n⟩ :: log) (.sql q) ∧
        (∀ r, Q (⟨.sql q, .ok r⟩ :: ⟨.random, n⟩ :: log) r) ∧
        ∀ e, E (⟨.sql q, .error e⟩ :: ⟨.random, n⟩ :: log) (.database e) := by
  simp only [linkOAuthAccount, satE_bind, satE_uuidNowV7, satE_query]

@[simp] theorem satE_listOAuthConnections {id : Uuid} {Q : Log Op Ret → List OAuthConnection → Prop} :
    SatE (listOAuthConnections id) P Q E log ↔
      P log (.sql (.selectOAuthConnections id)) ∧
        (∀ r, Q (⟨.sql (.selectOAuthConnections id), .ok r⟩ :: log) r) ∧
        ∀ e, E (⟨.sql (.selectOAuthConnections id), .error e⟩ :: log) (.database e) := by
  simp only [listOAuthConnections, satE_query]

@[simp] theorem satE_unlinkOAuthAccount {id : Uuid} {provider : OAuthProvider}
    {Q : Log Op Ret → Unit → Prop} :
    SatE (unlinkOAuthAccount id provider) P Q E log ↔
      let q := Sql.deleteOAuthCredential id (.from provider)
      P log (.sql q) ∧
        (∀ n : ℕ, (n = 0 → E (⟨.sql q, .ok n⟩ :: log) .userNotFound) ∧
          (¬ n = 0 → Q (⟨.sql q, .ok n⟩ :: log) ())) ∧
        ∀ e, E (⟨.sql q, .error e⟩ :: log) (.database e) := by
  simp only [unlinkOAuthAccount, satE_bind, satE_query, satE_ite, satE_throw, satE_pure]

end SatE

end UserService

end Socle
