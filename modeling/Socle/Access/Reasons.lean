import Socle.Access.Provenance
import Socle.Accounts.Creation
import Socle.Accounts.Passwords
import Socle.Failures
import Socle.Marks

/-!
# Reasons for errors

What the errors of the services say about the database, and that they are thrown for these reasons only.

* `Malformed`: what is refused in every state;
* `Reason env s q e`: what makes the services answer `q` with `e` in the state `s`;
* `Justifies`: a reason that the request has not brought about itself;
* `Sql.report`: the error as which a failing statement is reported;
* `Because`: why a program throws an error, as its log tells;
* `oauthLogin_fails`: why a login through a provider fails;
* `handle_because`: **every handler** throws for a reason.
-/

namespace Socle

open Interaction Prog System

variable {env : Env} {s s' : State} {q : Request} {log : Log Op Ret}

/-! ### Reasons -/

/-- The header by which a request is authorized, and the role that it needs. -/
def Request.requires : Request → Option (Option String × Role)
  | .logout authorization => some (authorization, .guest)
  | .listConnections authorization => some (authorization, .user)
  | .unlinkConnection authorization _ => some (authorization, .user)
  | .getMe authorization => some (authorization, .user)
  | .changePassword authorization _ _ => some (authorization, .user)
  | .deactivateAccount authorization => some (authorization, .user)
  | .updateUserRole authorization _ _ => some (authorization, .admin)
  | _ => none

/-- The texts of a request that reach the database as they are. -/
def Request.texts : Request → List String
  | .register email username _ => [email, localPart email, username]
  | .login email _ => [email]
  | .oauthLogin profile => [profile.providerUserId, profile.email,
      profile.displayName.getD (localPart profile.email)] ++ profile.avatarUrl.toList
  | _ => []

/-- The index entries that a request makes of its texts. -/
def Request.indexed : Request → List (String × List Relational.Value)
  | .register email username _ => [("users_email_key", [.text email]),
      ("users_username_key", [.text (localPart email)]), ("local_credentials_username_key", [.text username])]
  | .oauthLogin profile => [("users_email_key", [.text profile.email]),
      ("users_username_key", [.text (profile.displayName.getD (localPart profile.email))]),
      (oauthIdentityKey.name, [.enum (Provider.from profile.provider).label, .text profile.providerUserId])]
  | _ => []

/-- The display name under which a request creates a user. -/
def Request.newName : Request → Option String
  | .register email _ _ => some (localPart email)
  | .oauthLogin profile => some (profile.displayName.getD (localPart profile.email))
  | _ => none

/-- What is refused whatever the database contains. -/
inductive Malformed : Request → AppError → Prop
  | header {q : Request} {authorization : Option String} {minimum : Role}
    (hq : q.requires = some (authorization, minimum)) (h : extractBearer authorization = none) :
    Malformed q .missingAuthHeader
  | password {email username password : String} (h : password.utf8ByteSize < 8) :
    Malformed (.register email username password) .invalidCredentials
  | username {email username password : String}
    (h : ¬ (3 ≤ username.utf8ByteSize ∧ username.utf8ByteSize ≤ 32)) :
    Malformed (.register email username password) .invalidCredentials
  | provider {authorization : Option String} {slug : String} (h : OAuthProvider.fromSlug slug = none) :
    Malformed (.unlinkConnection authorization slug) (.oauth (.unknownProvider slug))

/-- The error as which `validateAccessToken` reports a failing check. -/
def JwtError.report : JwtError → AppError
  | .expiredSignature => .tokenExpired
  | .invalid => .tokenInvalid

/-- The header carries the token that has been signed for the claims. -/
def Bears (env : Env) (s : State) (authorization : Option String) (claims : Claims) : Prop :=
  extractBearer authorization = some (env.prim.jwtEncode env.config.jwtSecret claims) ∧ claims ∈ s.minted

/-- The refresh token `t` can be exchanged. -/
def Refreshable (env : Env) (s : State) (t : String) : Prop :=
  ∃ row ∈ s.db.refreshTokens.rows, row.lookupKey = TokenService.computeLookupKey env t ∧
    row.revoked = false ∧ s.clock ≤ row.expiresAt

/-- The account that has the address or the identity of a profile is inactive. -/
def DisabledProfile (s : State) (profile : OAuthProfile) : Prop :=
  ∃ user ∈ s.db.users.rows, (user.email = profile.email ∨
    s.db.findUserByOAuthIdentity (.from profile.provider) profile.providerUserId = some user) ∧
    user.isActive = false

/-- What makes the services answer a request with an error in the state `s`. -/
inductive Reason (env : Env) (s : State) : Request → AppError → Prop
  | token {q : Request} {authorization : Option String} {minimum : Role} {token : String} {e : JwtError}
    (hq : q.requires = some (authorization, minimum)) (htoken : extractBearer authorization = some token)
    (h : decode env s token = .error e) : Reason env s q e.report
  | role {q : Request} {authorization : Option String} {minimum : Role} {claims : Claims}
    (hq : q.requires = some (authorization, minimum)) (hclaims : Bears env s authorization claims)
    (h : ¬ claims.role.isAtLeast minimum = true) : Reason env s q .forbidden
  | ownRole {authorization : Option String} {claims : Claims} {role : Role}
    (hclaims : Bears env s authorization claims) :
    Reason env s (.updateUserRole authorization claims.sub role) .forbidden
  | emailTaken {email username password : String} (h : EmailTaken s.db email) :
    Reason env s (.register email username password) .emailTaken
  | usernameTaken {email username password : String} (h : UsernameTaken s.db username) :
    Reason env s (.register email username password) .usernameTaken
  | profileTaken {profile : OAuthProfile} (h : EmailTaken s.db profile.email) :
    Reason env s (.oauthLogin profile) .emailTaken
  | unknownEmail {email password : String} (h : ¬ EmailTaken s.db email) :
    Reason env s (.login email password) .invalidCredentials
  /-- The account has another password, or none. -/
  | password {email password : String} {user : User} (hu : user ∈ s.db.users.rows)
    (he : user.email = email) (h : ¬ InForce env user.id s password) :
    Reason env s (.login email password) .invalidCredentials
  | disabled {email password : String} {user : User} (hu : user ∈ s.db.users.rows)
    (he : user.email = email) (h : user.isActive = false) :
    Reason env s (.login email password) .accountDisabled
  | refreshToken {t : String} (h : ¬ Refreshable env s t) : Reason env s (.refresh t) .refreshTokenInvalid
  | disabledOwner {t : String} {row : RefreshToken} {user : User} (hrow : row ∈ s.db.refreshTokens.rows)
    (hkey : row.lookupKey = TokenService.computeLookupKey env t) (hu : user ∈ s.db.users.rows)
    (hid : user.id = row.userId) (h : user.isActive = false) : Reason env s (.refresh t) .accountDisabled
  | disabledProfile {profile : OAuthProfile} (h : DisabledProfile s profile) :
    Reason env s (.oauthLogin profile) .accountDisabled
  | currentPassword {authorization : Option String} {claims : Claims} {current new : String}
    (hclaims : Bears env s authorization claims) (h : ¬ InForce env claims.sub s current) :
    Reason env s (.changePassword authorization current new) .invalidCredentials
  | noCredential {authorization : Option String} {claims : Claims} {current new : String}
    (hclaims : Bears env s authorization claims)
    (h : ∀ c ∈ s.db.localCredentials.rows, c.userId ≠ claims.sub) :
    Reason env s (.changePassword authorization current new) .userNotFound
  | notLinked {authorization : Option String} {claims : Claims} {slug : String} {provider : OAuthProvider}
    (hclaims : Bears env s authorization claims) (hslug : OAuthProvider.fromSlug slug = some provider)
    (h : ∀ o ∈ s.db.oauthCredentials.rows, ¬ (o.userId = claims.sub ∧ o.provider = .from provider)) :
    Reason env s (.unlinkConnection authorization slug) .userNotFound
  | noTarget {authorization : Option String} {target : Uuid} {role : Role}
    (h : ∀ u ∈ s.db.users.rows, u.id ≠ target) :
    Reason env s (.updateUserRole authorization target role) .userNotFound
  /-- Postgres accepts no text with a NUL character. -/
  | nul {q : Request} {text : String} (ht : text ∈ q.texts) (h : hasNul text = true) :
    Reason env s q (.database nulError)
  /-- A text is too long for its index. -/
  | tooLong {q : Request} {index : String} {values : List Relational.Value} (ht : (index, values) ∈ q.indexed)
    (h : maxIndexRow < env.prim.indexRowSize values) :
    Reason env s q (.database (indexRowError index (env.prim.indexRowSize values)))
  /-- `users_username_key` is a key on `display_name`. -/
  | nameTaken {q : Request} {name : String} (hq : q.newName = some name) (h : DisplayNameTaken s.db name) :
    Reason env s q (.database (uniqueViolation "users_username_key"))
  /-- A lifetime of `2 ^ 63` seconds and more counts backwards. -/
  | lifetime {q : Request} {now : ℕ} (hq : q.signsIn = true) (hnow : now ≤ s.clock)
    (h : now + TokenService.refreshLifetime env < minTimestamp) :
    Reason env s q (.database timestampError)

/-- What a request may still meet after it has written: the account of a refresh token is read when the
token has been rotated. -/
inductive Belated : Request → AppError → Prop
  | disabledOwner {t : String} : Belated (.refresh t) .accountDisabled

/-- In the state `s` there is a reason that the request, whose log by then is `log`, has not brought about
itself: it has not written yet, or the reason lies in tables to which it does not write. -/
def Justifies (env : Env) (log : Log Op Ret) (s : State) (q : Request) (e : AppError) : Prop :=
  Reason env s q e ∧ (¬ Wrote log ∨ Belated q e)

/-- The error as which a failing statement is reported. -/
def Sql.report : (q : Sql) → q.Error → AppError
  | .insertAccount _ _ _ _ _, e => UserService.createErr e
  | .insertUser _ _ _, e => mapConstraintErr e "users_email_key" .emailTaken
  | .selectUserById _, e | .selectUserByEmail _, e | .selectUserByOAuthIdentity _ _, e
  | .selectLocalCredential _, e | .updatePasswordHash _ _, e | .updateRole _ _, e | .deactivateUser _, e
  | .insertOAuthCredential _ _ _ _ _, e | .selectOAuthConnections _, e | .deleteOAuthCredential _ _, e
  | .insertRefreshToken _ _ _ _ _, e | .selectRefreshToken _, e | .revokeRefreshToken _, e
  | .revokeUserRefreshTokens _, e => .database e

/-- The last statement has failed: one of the database, or the signature of a token. -/
inductive Fails : Log Op Ret → AppError → Prop
  | sql {log : Log Op Ret} {sql : Sql} {e : sql.Error} : Fails (⟨.sql sql, .error e⟩ :: log) (sql.report e)
  | encode {log : Log Op Ret} {claims : Claims} {e : JwtError} :
    Fails (⟨.encode claims, .error e⟩ :: log) .tokenInvalid

/-! ### What a log tells -/

/-- What is known of the states of a run in which a statement is executed. -/
structure Regular (env : Env) (o : Op) (s : State) : Prop where
  fresh : ∀ m ∈ o.marks, m ∉ s.db.marks
  hashed : AllHashed env s
  drawn : Drawn env s
  subjects : ∀ claims ∈ s.minted, ∃ u ∈ s.db.users.rows, u.id = claims.sub

/-- The statements of the log have been executed before the state `s`. -/
def Preceded (env : Env) (log : Log Op Ret) (s : State) : Prop :=
  ∀ x ∈ log, ∃ t t', Stmt env x.1 t x.2 t' ∧ t'.Le s

/-- Why a program throws an error: the request is malformed, its last statement has failed, or a
statement was answered in a state in which there is a reason. -/
inductive Because (env : Env) (q : Request) : Log Op Ret → AppError → Prop
  | malformed {log : Log Op Ret} {e : AppError} (hlog : ¬ Wrote log) (h : Malformed q e) : Because env q log e
  | failed {log : Log Op Ret} {sql : Sql} {e : sql.Error} :
    Because env q (⟨.sql sql, .error e⟩ :: log) (sql.report e)
  | reason {log : Log Op Ret} {e : AppError} (x : (o : Op) × Ret o) (l : Log Op Ret) (hlog : (x :: l) <:+ log)
    (h : ∀ s s', Regular env x.1 s → Preceded env l s → Stmt env x.1 s x.2 s' → Justifies env l s q e) :
    Because env q log e

namespace Because

variable {e : AppError}

/-- The reason is the last answer. -/
theorem head {o : Op} {r : Ret o} (hlog : ¬ Wrote log)
    (h : ∀ s s', Regular env o s → Preceded env log s → Stmt env o s r s' → Reason env s q e) :
    Because env q (⟨o, r⟩ :: log) e :=
  .reason ⟨o, r⟩ log List.suffix_rfl fun s s' hs hbefore hstmt => ⟨h s s' hs hbefore hstmt, Or.inl hlog⟩

/-- The last answer is impossible. -/
theorem absurd_head {o : Op} {r : Ret o}
    (h : ∀ s s', Regular env o s → Preceded env log s → Stmt env o s r s' → False) :
    Because env q (⟨o, r⟩ :: log) e :=
  .reason ⟨o, r⟩ log List.suffix_rfl fun s s' hs hbefore hstmt => (h s s' hs hbefore hstmt).elim

/-- Some answer is impossible. -/
theorem absurd_of_mem {o : Op} {r : Ret o} (hmem : ⟨o, r⟩ ∈ log)
    (h : ∀ s s', Regular env o s → Stmt env o s r s' → False) : Because env q log e := by
  obtain ⟨l, l', hl⟩ := List.append_of_mem hmem
  exact .reason ⟨o, r⟩ l' ⟨l, hl.symm⟩ fun s s' hs _ hstmt => (h s s' hs hstmt).elim

end Because

/-- A statement that fails is a reason; signing never does. -/
theorem Fails.because {e : AppError} (h : Fails log e) : Because env q log e := by
  cases h with
  | sql => exact .failed
  | encode =>
    refine .absurd_head fun s s' _ _ h => ?_
    cases h.encode_eq.1

/-- A token that is accepted has been signed. -/
theorem bears_of_decode {authorization : Option String} {token : String} {claims : Claims}
    (htoken : extractBearer authorization = some token)
    (h : Stmt env (.decode token) s (.ok claims) s') : Bears env s authorization claims := by
  obtain ⟨hminted, rfl, -⟩ := decode_ok h.decode_eq.1.symm
  exact ⟨htoken, hminted⟩

theorem Bears.mono {authorization : Option String} {claims : Claims} (h : Bears env s authorization claims)
    (hle : s.Le s') : Bears env s' authorization claims := ⟨h.1, hle.minted.subset h.2⟩

theorem Preceded.bears {authorization : Option String} {token : String} {claims : Claims}
    (h : Preceded env log s) (htoken : extractBearer authorization = some token)
    (hmem : ⟨.decode token, .ok claims⟩ ∈ log) : Bears env s authorization claims := by
  obtain ⟨t, t', hstmt, hle⟩ := h _ hmem
  exact (bears_of_decode htoken hstmt).mono (hstmt.le.trans hle)

/-! ### What handlers do -/

/-- No user has an email address under which none is found. -/
theorem not_emailTaken_of_none {email : String}
    (h : Stmt env (.sql (.selectUserByEmail email)) s (.ok none) s') :
    ¬ EmailTaken s.db email := by
  obtain ⟨db, hq, -⟩ := h.sql_ok
  obtain ⟨hnone, -⟩ := Prod.mk.inj (Except.ok.inj (bindTexts_ok.1 hq).2)
  rintro ⟨u, hu, he⟩
  exact Db.findUserByEmail_none.1 hnone u hu he

/-- The password that is in force is the one of the credential that is found. -/
theorem not_inForce_of_none {u : Uuid} (h : Stmt env (.sql (.selectLocalCredential u)) s (.ok none) s')
    (p : String) : ¬ InForce env u s p := by
  rintro ⟨c, hc, hid, -⟩
  exact (selectLocalCredential_row h).2.2 rfl c hc hid

theorem not_inForce_of_some {u : Uuid} {c : LocalCredential} {p : String}
    (h : Stmt env (.sql (.selectLocalCredential u)) s (.ok (some c)) s')
    (hp : env.prim.argon2Verify p c.passwordHash = some false) : ¬ InForce env u s p := by
  obtain ⟨-, hrow, -⟩ := selectLocalCredential_row h
  rintro ⟨c', hc', hid, hverify⟩
  rw [Db.localCredential_unique hc' (hrow c rfl).1 (hid.trans (hrow c rfl).2.symm), hp] at hverify
  cases hverify

/-- A user that has been found under an email address is still there. -/
theorem Preceded.user {email : String} {u : User} (h : Preceded env log s)
    (hmem : ⟨.sql (.selectUserByEmail email), .ok (some u)⟩ ∈ log) :
    ∃ v ∈ s.db.users.rows, v.id = u.id ∧ v.email = email := by
  obtain ⟨t, t', hstmt, hle⟩ := h _ hmem
  obtain ⟨rfl, hfound⟩ := selectUserByEmail_row hstmt
  obtain ⟨v, hv, hid, he, -⟩ := hle.users u (hfound u rfl).1
  exact ⟨v, hv, hid, he.trans (hfound u rfl).2⟩

/-- A user that is found under an identity. -/
theorem selectUserByOAuthIdentity_found {provider : Provider} {puid : String} {u : User}
    (h : Stmt env (.sql (.selectUserByOAuthIdentity provider puid)) s (.ok (some u)) s') :
    u ∈ s.db.users.rows ∧ s.db.findUserByOAuthIdentity provider puid = some u := by
  obtain ⟨db, hq, -⟩ := h.sql_ok
  obtain ⟨hu, -⟩ := Prod.mk.inj (Except.ok.inj (bindTexts_ok.1 hq).2)
  exact ⟨(selectUserByOAuthIdentity_row h).2, hu⟩

section RefreshTokens

variable {t : String} {record : RefreshTokenRow}

/-- No token can be exchanged under whose key none is found. -/
theorem not_refreshable_of_none
    (h : Stmt env (.sql (.selectRefreshToken (TokenService.computeLookupKey env t))) s (.ok none) s') :
    ¬ Refreshable env s t := by
  obtain ⟨db, hq, -⟩ := h.sql_ok
  obtain ⟨hnone, -⟩ := Prod.mk.inj (Except.ok.inj (bindTexts_ok.1 hq).2)
  rintro ⟨row, hrow, hkey, -⟩
  exact List.find?_eq_none.1 (Option.map_eq_none_iff.1 hnone) row hrow (decide_eq_true hkey)

/-- Nor can a token be exchanged that is revoked. -/
theorem not_refreshable_of_revoked
    (h : Stmt env (.sql (.selectRefreshToken (TokenService.computeLookupKey env t))) s (.ok (some record)) s')
    (hrevoked : record.revoked = true) : ¬ Refreshable env s t := by
  obtain ⟨-, row, hrow, hkey, rfl⟩ := selectRefreshToken_row h
  rintro ⟨row', hrow', hkey', hlive, -⟩
  rw [Db.refreshToken_unique hrow' hrow (hkey'.trans hkey.symm)] at hlive
  exact absurd hrevoked (by simp [RefreshToken.record, hlive])

/-- A row that has been found is still there. -/
theorem Preceded.row (h : Preceded env log s)
    (hmem : ⟨.sql (.selectRefreshToken (TokenService.computeLookupKey env t)), .ok (some record)⟩ ∈ log) :
    ∃ row ∈ s.db.refreshTokens.rows, row.lookupKey = TokenService.computeLookupKey env t ∧
      row.userId = record.userId ∧ row.expiresAt = record.expiresAt := by
  obtain ⟨x, x', hstmt, hle⟩ := h _ hmem
  obtain ⟨rfl, row, hrow, hkey, rfl⟩ := selectRefreshToken_row hstmt
  obtain ⟨row', hrow', heq, -⟩ := hle.refreshTokens row hrow
  exact ⟨row', hrow', by rw [heq, ← hkey], by rw [heq]; rfl, by rw [heq]; rfl⟩

/-- The hash in a row is the one of the token that belongs to its key. -/
theorem Regular.verifies (hx : env.prim.Exact) {o : Op} (hs : Regular env o s) {row : RefreshToken}
    (hrow : row ∈ s.db.refreshTokens.rows) (hkey : row.lookupKey = TokenService.computeLookupKey env t) :
    env.prim.argon2Verify t row.tokenHash = some true := by
  obtain ⟨-, n, -, hkey', salt, hhash⟩ := hs.drawn.refreshTokens row hrow
  obtain rfl : t = env.prim.opaqueToken n := hx.hmac_injective _ (hkey.symm.trans hkey')
  rw [hx.verify_hash _ _ _ _ hhash]
  simp

end RefreshTokens

/-- What is known once the token of a request has been accepted. -/
def Admits (authorization : Option String) (log : Log Op Ret) (claims : Claims) : Prop :=
  ∃ token, extractBearer authorization = some token ∧ log = [⟨.decode token, .ok claims⟩]

/-- Claims are rejected for a reason. -/
theorem authUser_because {authorization : Option String} {minimum : Role}
    (hq : q.requires = some (authorization, minimum)) :
    SatE (authUser authorization) (fun _ _ => True) (Admits authorization) (Because env q) [] := by
  simp only [satE_authUser, TokenService.satE_validateAccessToken, true_and]
  refine ⟨fun token htoken => ⟨fun claims => ⟨token, htoken, rfl⟩, ?expired, ?invalid⟩,
    fun hnone => .malformed not_wrote_nil (.header hq hnone)⟩
  case expired => exact .head not_wrote_nil fun s s' _ _ h => .token hq htoken h.decode_eq.1.symm
  case invalid => exact .head not_wrote_nil fun s s' _ _ h => .token hq htoken h.decode_eq.1.symm

theorem requireClaims_because {authorization : Option String} {minimum : Role}
    (hq : q.requires = some (authorization, minimum)) :
    SatE (requireClaims minimum authorization) (fun _ _ => True) (Admits authorization)
      (Because env q) [] := by
  rw [satE_requireClaims]
  refine (authUser_because hq).mono (fun _ _ => id) (fun l claims hl => ⟨fun _ => hl, fun hrole => ?_⟩)
    fun _ _ => id
  obtain ⟨token, htoken, rfl⟩ := hl
  exact .head not_wrote_nil fun s s' _ _ h => .role hq (bears_of_decode htoken h) hrole

/-- A request that is authorized fails for a reason, if it does so from there on. -/
theorem authorized_because {authorization : Option String} {minimum : Role} {f : Claims → App Response}
    (hq : q.requires = some (authorization, minimum))
    (hf : ∀ token claims, extractBearer authorization = some token →
      SatE (f claims) (fun _ _ => True) (fun _ _ => True) (Because env q) [⟨.decode token, .ok claims⟩]) :
    SatE (requireClaims minimum authorization >>= f) (fun _ _ => True) (fun _ _ => True)
      (Because env q) [] := by
  rw [satE_bind]
  refine (requireClaims_because hq).mono (fun _ _ => id) ?_ fun _ _ => id
  rintro l claims ⟨token, htoken, rfl⟩
  exact hf token claims htoken

section Tokens

variable {E : Log Op Ret → AppError → Prop} (hE : ∀ {l e}, Fails l e → E l e)

include hE

theorem generateAccessToken_fails {u : User} {m : AuthMethod} :
    SatE (TokenService.generateAccessToken env u.id u.email u.displayName u.role m) (fun _ _ => True)
      (fun l _ => log <:+ l) E log := by
  simp only [TokenService.satE_generateAccessToken, implies_true, true_and]
  refine fun t _ => ⟨fun _ => ?_, fun e => hE .encode⟩
  exact (List.suffix_cons _ _).trans (List.suffix_cons _ _)

/-- Refresh tokens are stored, unless the statement fails. -/
theorem createRefreshToken_fails {userId : Uuid} :
    SatE (TokenService.createRefreshToken env userId) (fun _ _ => True) (fun l _ => log <:+ l) E log := by
  have hspec : SatE (TokenService.createRefreshToken env userId) (fun _ _ => True) (fun _ _ => True) E
      log := by
    simp only [TokenService.satE_createRefreshToken, implies_true, true_and, and_true]
    exact fun n salt hash _ t _ k e => hE .sql
  exact hspec.suffix.mono (fun _ _ => id) (fun _ _ h => h.1) fun _ _ h => h.2

theorem issueTokens_fails {u : User} {m : AuthMethod} {view : UserView} :
    SatE (AuthService.issueTokens env u m view) (fun _ _ => True) (fun _ _ => True) E log := by
  rw [AuthService.satE_issueTokens]
  exact (generateAccessToken_fails hE).mono (fun _ _ => id)
    (fun _ _ _ => (createRefreshToken_fails hE).mono (fun _ _ => id) (fun _ _ _ => trivial) fun _ _ => id)
    fun _ _ => id

end Tokens

/-- Hashing never fails. -/
theorem hashPassword_because (hx : env.prim.Exact) {password : String} {Q : Log Op Ret → String → Prop}
    (hQ : ∀ salt hash, env.prim.argon2Hash password salt = some hash → Q (⟨.random, salt⟩ :: log) hash) :
    SatE (hashPassword env password) (fun _ _ => True) Q (Because env q) log := by
  simp only [satE_hashPassword, true_and]
  refine fun salt => ⟨hQ salt, fun hnone => ?_⟩
  obtain ⟨hash, hhash, -⟩ := hx.hash_total password salt
  rw [hhash] at hnone
  cases hnone

/-- A stored hash can be verified. -/
theorem verifyPassword_because (hx : env.prim.Exact) {password : String} {id : Uuid} {c : LocalCredential}
    {Q : Log Op Ret → Bool → Prop} (hlog : ⟨.sql (.selectLocalCredential id), .ok (some c)⟩ ∈ log)
    (hQ : ∀ b, env.prim.argon2Verify password c.passwordHash = some b → Q log b) :
    SatE (verifyPassword env password c.passwordHash) (fun _ _ => True) Q (Because env q) log := by
  rw [satE_verifyPassword]
  refine ⟨hQ, fun hnone => .absurd_of_mem hlog fun s s' hs h => ?_⟩
  obtain ⟨-, hrow, -⟩ := selectLocalCredential_row h
  obtain ⟨p, salt, hhash⟩ := hs.hashed c (hrow c rfl).1
  rw [hx.verify_hash _ _ _ _ hhash] at hnone
  cases hnone

theorem register_because (hx : env.prim.Exact) (email username password : String) :
    SatE (Routes.register env email username password) (fun _ _ => True) (fun _ _ => True)
      (Because env (.register email username password)) [] := by
  simp only [Routes.register, satE_map, AuthService.register, satE_bind, AuthService.satE_validatePassword,
    AuthService.satE_validateUsername]
  refine ⟨fun h => .malformed not_wrote_nil (.password h), fun _ => ⟨fun _ => ?_, fun h =>
    .malformed not_wrote_nil (.username h)⟩⟩
  rw [UserService.satE_create]
  refine hashPassword_because hx fun salt hash _ => ⟨trivial, fun n => ⟨trivial, ?created, fun e => .failed⟩⟩
  case created => exact fun r => issueTokens_fails Fails.because

theorem login_because (hx : env.prim.Exact) (email password : String) :
    SatE (Routes.login env email password) (fun _ _ => True) (fun _ _ => True)
      (Because env (.login email password)) [] := by
  simp only [Routes.login, satE_map, AuthService.login, satE_bind, UserService.satE_findByEmail, true_and,
    satE_throw, satE_ite, UserService.satE_findLocalCredential]
  refine ⟨.head not_wrote_nil fun s s' _ _ h => .unknownEmail (not_emailTaken_of_none h), fun user =>
    ⟨fun _ => ⟨?none, ?some, fun e => .failed⟩, ?inactive⟩, fun e => .failed⟩
  case none =>
    refine .head (by simp) fun s s' _ hbefore h => ?_
    obtain ⟨v, hv, hid, he⟩ := hbefore.user List.mem_cons_self
    refine .password hv he ?_
    rw [hid]
    exact not_inForce_of_none h password
  case some =>
    refine fun c => verifyPassword_because hx List.mem_cons_self fun b hb =>
      ⟨fun _ => issueTokens_fails Fails.because, ?_⟩
    refine fun hfalse => .head (by simp) fun s s' _ hbefore h => ?_
    obtain ⟨v, hv, hid, he⟩ := hbefore.user List.mem_cons_self
    refine .password hv he ?_
    rw [hid]
    exact not_inForce_of_some h (by rw [hb, eq_false_of_ne_true hfalse])
  case inactive =>
    refine fun hactive => .head not_wrote_nil fun s s' _ _ h => ?_
    obtain ⟨hu, he⟩ := (selectUserByEmail_row h).2 user rfl
    exact .disabled hu he (eq_false_of_ne_true hactive)

/-- What `rotateRefreshToken` leaves in its log. -/
def Rotates (env : Env) (t : String) (log : Log Op Ret) (x : String × Uuid) : Prop :=
  ∃ record, ⟨.sql (.selectRefreshToken (TokenService.computeLookupKey env t)), .ok (some record)⟩ ∈ log ∧
    x.2 = record.userId

theorem rotateRefreshToken_because (hx : env.prim.Exact) (t : String) :
    SatE (TokenService.rotateRefreshToken env t) (fun _ _ => True) (Rotates env t)
      (Because env (.refresh t)) [] := by
  simp only [TokenService.satE_rotateRefreshToken, TokenService.satE_rotateRecord, TokenService.satE_isStale,
    TokenService.satE_revokeAllUserTokens, true_and, decide_eq_true_eq]
  refine ⟨.head not_wrote_nil fun s s' _ _ h => .refreshToken (not_refreshable_of_none h), fun record => ⟨?revoked, ?live⟩,
    fun e => .failed⟩
  case revoked =>
    refine fun hrevoked => ⟨fun _ => ⟨fun _ => ?_, fun e => .failed⟩, fun hne => absurd trivial hne⟩
    exact .reason _ _ (List.suffix_cons _ _) fun s s' _ _ h =>
      ⟨.refreshToken (not_refreshable_of_revoked h hrevoked), Or.inl not_wrote_nil⟩
  case live =>
    refine fun _ now => ⟨fun hexpired => ⟨fun _ => ?expired, fun e => .failed⟩,
      fun _ => ⟨fun _ => ⟨fun _ => ?rotated, fun e => .failed⟩, ?mismatched⟩⟩
    case expired =>
      refine .reason _ _ (List.suffix_cons _ _) fun s s' _ hbefore h => ⟨.refreshToken ?_, Or.inl (by simp)⟩
      obtain ⟨rfl, -⟩ := h.now_eq
      obtain ⟨row, hrow, hkey, -, hexp⟩ := hbefore.row List.mem_cons_self
      rintro ⟨row', hrow', hkey', -, hclock⟩
      rw [Db.refreshToken_unique hrow' hrow (hkey'.trans hkey.symm), hexp] at hclock
      exact absurd hexpired (Int.not_lt.2 hclock)
    case rotated =>
      refine (createRefreshToken_fails Fails.because).mono (fun _ _ => id)
        (fun l a hl => ⟨record, hl.subset ?_, rfl⟩) fun _ _ => id
      simp
    case mismatched =>
      refine fun hne => .absurd_of_mem (List.mem_cons_of_mem _ List.mem_cons_self) fun s s' hs h => ?_
      obtain ⟨-, row, hrow, hkey, rfl⟩ := selectRefreshToken_row h
      exact absurd (hs.verifies hx hrow hkey) hne

theorem refresh_because (hx : env.prim.Exact) (t : String) :
    SatE (Routes.refresh env t) (fun _ _ => True) (fun _ _ => True) (Because env (.refresh t)) [] := by
  simp only [Routes.refresh, satE_map, AuthService.refresh, satE_bind, satE_ite, satE_throw]
  refine (rotateRefreshToken_because hx t).mono (fun _ _ => id) ?_ fun _ _ => id
  rintro l ⟨raw, userId⟩ ⟨record, hlog, hid⟩
  dsimp only at hid
  subst hid
  simp only [UserService.satE_findById, true_and]
  refine ⟨.absurd_head fun s s' _ hbefore h => ?orphan, fun user => ⟨fun _ => ?active, fun hactive =>
    .reason _ _ List.suffix_rfl fun s s' _ hbefore h => ⟨?inactive, Or.inr .disabledOwner⟩⟩,
    fun e => .failed⟩
  case orphan =>
    -- The owner of a row cannot be missing.
    obtain ⟨db, hq, -⟩ := h.sql_ok
    obtain ⟨hnone, -⟩ := Prod.mk.inj (Except.ok.inj hq)
    obtain ⟨row, hrow, -, hid, -⟩ := hbefore.row hlog
    obtain ⟨u, hu, huid⟩ := s.db.refreshTokens_user row hrow
    exact absurd (decide_eq_true (huid.trans hid)) (List.find?_eq_none.1 hnone u hu)
  case active =>
    simp only [UserService.satE_findLocalCredential, true_and, satE_pure]
    exact ⟨(generateAccessToken_fails Fails.because).mono (fun _ _ => id) (fun _ _ _ => trivial) fun _ _ => id,
      fun c => (generateAccessToken_fails Fails.because).mono (fun _ _ => id) (fun _ _ _ => trivial)
        fun _ _ => id,
      fun e => .failed⟩
  case inactive =>
    obtain ⟨row, hrow, hkey, hid, -⟩ := hbefore.row hlog
    obtain ⟨-, hu, huid⟩ := selectUserById_row h
    exact .disabledOwner hrow hkey hu (huid.trans hid.symm) (eq_false_of_ne_true hactive)

/-- How an OAuth login has come to its user. -/
inductive Resolves (profile : OAuthProfile) (u : User) : Log Op Ret → Prop
  | linked : Resolves profile u [⟨.sql (.selectUserByOAuthIdentity (.from profile.provider)
      profile.providerUserId), .ok (some u)⟩]
  | byEmail {l l' : Log Op Ret} (hl : ¬ Wrote l) :
      Resolves profile u (l' ++ ⟨.sql (.selectUserByEmail profile.email), .ok (some u)⟩ :: l)
  | created {id : Uuid} {name : String} {log : Log Op Ret}
      (hlog : ⟨.sql (.insertUser id profile.email name), .ok u⟩ ∈ log) : Resolves profile u log

theorem resolveOAuth_resolves (profile : OAuthProfile) :
    SatE (AuthService.resolveOAuth env profile) (fun _ _ => True)
      (fun l u => Resolves profile u l) Fails [] := by
  simp only [AuthService.satE_resolveOAuth, UserService.satE_findByOAuthIdentity,
    UserService.satE_findByEmail, UserService.satE_linkOAuthAccount, UserService.satE_createFromOAuth,
    true_and, reduceCtorEq, false_implies, implies_true, and_true, Option.some.injEq, forall_eq',
    forall_const]
  refine ⟨⟨fun n => ⟨fun u n' => ⟨fun _ => ?created, fun e => .sql⟩, fun e => .sql⟩,
    fun u n => ⟨fun _ => ?byEmail, fun e => .sql⟩, fun e => .sql⟩, fun u => ?linked, fun e => .sql⟩
  case created => exact .created (List.mem_cons_of_mem _ (List.mem_cons_of_mem _ List.mem_cons_self))
  case byEmail => exact @Resolves.byEmail _ _ _ [_, _] (by simp)
  case linked => exact .linked

/-- Why a login through a provider fails. -/
inductive LoginFails (profile : OAuthProfile) (log : Log Op Ret) : AppError → Prop
  | statement {e : AppError} (h : Fails log e) : LoginFails profile log e
  /-- The user to which the login has come is inactive. -/
  | disabled {u : User} (hu : Resolves profile u log) (h : u.isActive = false) :
    LoginFails profile log .accountDisabled

theorem oauthLogin_fails (profile : OAuthProfile) :
    SatE (handle env (.oauthLogin profile)) (fun _ _ => True) (fun _ _ => True) (LoginFails profile) [] := by
  simp only [handle, Routes.oauthLogin, satE_map, AuthService.loginOrRegisterOAuth, satE_bind, satE_ite,
    satE_throw]
  refine (resolveOAuth_resolves profile).mono (fun _ _ => id) (fun l u hu => ⟨fun _ => ?_, fun hactive =>
    .disabled hu (eq_false_of_ne_true hactive)⟩) fun _ _ => .statement
  simp only [UserService.satE_findLocalCredential, true_and]
  exact ⟨issueTokens_fails .statement, fun c => issueTokens_fails .statement, fun e => .statement .sql⟩

/-- The account to which a login has come was inactive when it was found, before the login wrote. -/
theorem Resolves.inactive (env : Env) {profile : OAuthProfile} {u : User} (hu : Resolves profile u log)
    (hactive : u.isActive = false) : ∃ x l, (x :: l) <:+ log ∧ ∀ s s', Stmt env x.1 s x.2 s' →
      ¬ Wrote l ∧ DisabledProfile s profile := by
  cases hu with
  | linked =>
    refine ⟨_, [], List.suffix_rfl, fun s s' h => ⟨not_wrote_nil, ?_⟩⟩
    obtain ⟨hmem, hfind⟩ := selectUserByOAuthIdentity_found h
    exact ⟨u, hmem, Or.inr hfind, hactive⟩
  | @byEmail l l' hl =>
    refine ⟨_, l, List.suffix_append _ _, fun s s' h => ⟨hl, ?_⟩⟩
    obtain ⟨hmem, he⟩ := (selectUserByEmail_row h).2 u rfl
    exact ⟨u, hmem, Or.inl he, hactive⟩
  | created hu =>
    -- A new user is active.
    obtain ⟨l, l', hl⟩ := List.append_of_mem hu
    refine ⟨_, l', ⟨l, hl.symm⟩, fun s s' h => ?_⟩
    rw [(insertUser_row h).2] at hactive
    cases hactive

theorem oauthLogin_because (profile : OAuthProfile) :
    SatE (Routes.oauthLogin env profile) (fun _ _ => True) (fun _ _ => True)
      (Because env (.oauthLogin profile)) [] := by
  refine (oauthLogin_fails profile).mono (fun _ _ => id) (fun _ _ => id) ?_
  rintro l e (h | ⟨hu, hactive⟩)
  · exact h.because
  · obtain ⟨x, l', hl, hinactive⟩ := hu.inactive env hactive
    refine .reason x l' hl fun s s' _ _ h => ?_
    obtain ⟨hlog, hdisabled⟩ := hinactive s s' h
    exact ⟨.disabledProfile hdisabled, Or.inl hlog⟩

theorem logout_because (authorization : Option String) :
    SatE (Routes.logout authorization) (fun _ _ => True) (fun _ _ => True)
      (Because env (.logout authorization)) [] := by
  simp only [Routes.logout, satE_bind, AuthService.logout, TokenService.satE_revokeAllUserTokens, satE_pure,
    implies_true, true_and]
  exact (authUser_because rfl).mono (fun _ _ => id) (fun l claims _ e => .failed) fun _ _ => id

theorem listConnections_because (authorization : Option String) :
    SatE (Routes.listConnections authorization) (fun _ _ => True) (fun _ _ => True)
      (Because env (.listConnections authorization)) [] := by
  refine authorized_because rfl fun token claims _ => ?_
  simp only [satE_map, UserService.satE_listOAuthConnections, implies_true, true_and]
  exact fun e => .failed

theorem unlinkConnection_because (authorization : Option String) (slug : String) :
    SatE (Routes.unlinkConnection authorization slug) (fun _ _ => True) (fun _ _ => True)
      (Because env (.unlinkConnection authorization slug)) [] := by
  refine authorized_because rfl fun token claims htoken => ?_
  simp only [satE_bind, satE_resolveProvider, UserService.satE_unlinkOAuthAccount, satE_pure, implies_true,
    true_and, and_true]
  refine ⟨fun provider hslug => ⟨?none, fun e => .failed⟩, fun hslug => .malformed (by simp) (.provider hslug)⟩
  case none =>
    rintro n rfl
    refine .head (by simp) fun s s' _ hbefore h => ?_
    obtain ⟨db, hq, -⟩ := h.sql_ok
    obtain ⟨hn, -⟩ := Prod.mk.inj (Except.ok.inj hq)
    refine .notLinked (hbefore.bears htoken List.mem_cons_self) hslug ?_
    simpa using hn

theorem getMe_because (authorization : Option String) :
    SatE (Routes.getMe authorization) (fun _ _ => True) (fun _ _ => True)
      (Because env (.getMe authorization)) [] := by
  refine authorized_because rfl fun token claims htoken => ?_
  simp only [satE_bind, UserService.satE_findById, UserService.satE_findLocalCredential, satE_pure,
    implies_true, true_and]
  refine ⟨.absurd_head fun s s' hs hbefore h => ?_, fun u e => .failed, fun e => .failed⟩
  -- The subject of a token has an account.
  obtain ⟨u, hu, hid⟩ := hs.subjects claims (hbefore.bears htoken List.mem_cons_self).2
  obtain ⟨db, hq, -⟩ := h.sql_ok
  obtain ⟨hnone, -⟩ := Prod.mk.inj (Except.ok.inj hq)
  exact absurd (decide_eq_true hid) (List.find?_eq_none.1 hnone u hu)

theorem changePassword_because (hx : env.prim.Exact) (authorization : Option String) (current new : String) :
    SatE (Routes.changePassword env authorization current new) (fun _ _ => True) (fun _ _ => True)
      (Because env (.changePassword authorization current new)) [] := by
  refine authorized_because rfl fun token claims htoken => ?_
  simp only [satE_bind, UserService.satE_changePassword, TokenService.satE_revokeAllUserTokens, satE_pure,
    implies_true, true_and]
  refine ⟨.head (by simp) fun s s' _ hbefore h => ?none, fun c => ?_, fun e => .failed⟩
  case none =>
    exact .noCredential (hbefore.bears htoken List.mem_cons_self) ((selectLocalCredential_row h).2.2 rfl)
  refine verifyPassword_because hx List.mem_cons_self fun b hb => ⟨fun _ => ?changed, fun hfalse =>
    .head (by simp) fun s s' _ hbefore h => ?wrong⟩
  case changed => exact hashPassword_because hx fun salt hash _ => ⟨fun _ e => .failed, fun e => .failed⟩
  case wrong =>
    exact .currentPassword (hbefore.bears htoken List.mem_cons_self)
      (not_inForce_of_some h (by rw [hb, eq_false_of_ne_true hfalse]))

theorem deactivateAccount_because (authorization : Option String) :
    SatE (Routes.deactivateAccount authorization) (fun _ _ => True) (fun _ _ => True)
      (Because env (.deactivateAccount authorization)) [] := by
  refine authorized_because rfl fun token claims _ => ?_
  simp only [satE_bind, UserService.satE_deactivate, TokenService.satE_revokeAllUserTokens, satE_pure,
    implies_true, true_and]
  exact ⟨fun _ e => .failed, fun e => .failed⟩

theorem updateUserRole_because (authorization : Option String) (target : Uuid) (role : Role) :
    SatE (Routes.updateUserRole authorization target role) (fun _ _ => True) (fun _ _ => True)
      (Because env (.updateUserRole authorization target role)) [] := by
  refine authorized_because rfl fun token claims htoken => ?_
  simp only [satE_bind, AdminService.updateUserRole, satE_ite, satE_throw, UserService.satE_updateRole,
    UserService.satE_findLocalCredential, satE_pure, implies_true, true_and]
  refine ⟨?own, fun _ => ⟨.head (by simp) fun s s' _ _ h => ?none, fun u e => .failed, fun e => .failed⟩⟩
  case own =>
    rintro rfl
    exact .head not_wrote_nil fun s s' _ _ h => .ownRole (bears_of_decode htoken h)
  case none =>
    obtain ⟨db, hq, -⟩ := h.sql_ok
    obtain ⟨hnone, rfl⟩ := Prod.mk.inj (Except.ok.inj hq)
    refine .noTarget fun u hu hid => ?_
    obtain ⟨u', hu', hid', -⟩ := @Sql.mem_users s.clock (.updateRole role target) _ _ hu
    rw [← (apply_ok hq).1] at hu'
    exact List.find?_eq_none.1 hnone u' hu' (decide_eq_true (hid'.trans hid))

/-- **Every handler** throws for a reason. -/
theorem handle_because (hx : env.prim.Exact) (q : Request) :
    SatE (handle env q) (fun _ _ => True) (fun _ _ => True) (Because env q) [] := by
  cases q with
  | register email username password => exact register_because hx email username password
  | login email password => exact login_because hx email password
  | refresh t => exact refresh_because hx t
  | logout authorization => exact logout_because authorization
  | oauthLogin profile => exact oauthLogin_because profile
  | listConnections authorization => exact listConnections_because authorization
  | unlinkConnection authorization slug => exact unlinkConnection_because authorization slug
  | getMe authorization => exact getMe_because authorization
  | changePassword authorization current new => exact changePassword_because hx authorization current new
  | deactivateAccount authorization => exact deactivateAccount_because authorization
  | updateUserRole authorization target role => exact updateUserRole_because authorization target role

end Socle
