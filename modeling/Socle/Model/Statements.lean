import Mathlib.Data.List.Sort
import Socle.Interaction.Pool
import Socle.Model.Database

/-!
# Statements

What the services do to the world around them: SQL statements, reading the clock, drawing randomness,
signing and checking access tokens, and giving up.

* `Primitives`: the cryptographic functions, and `Exact`, their idealised laws;
* `Sql` with its results and errors, and `Sql.apply`, what a statement does to the database;
* `Op`, `State`, `exec`: the statements of programs and their execution;
* `Stmt`: execution, or a refused SQL statement that leaves the state as it is;
* `apply_ok`: the rows of each table after a successful statement.
-/

namespace Socle

open Interaction Relational

/-! ### Primitives -/

/-- The functions of the cryptographic libraries and of the database server that are not modelled;
randomness comes in as a number of its own for each draw. -/
structure Primitives where
  /-- HMAC-SHA-256 of a message under a key, in hexadecimal. -/
  hmacSha256 : String → String → String
  /-- The PHC string of a password under a salt. -/
  argon2Hash : String → ℕ → Option String
  /-- Whether a password matches a PHC string; nothing when the string is not one. -/
  argon2Verify : String → String → Option Bool
  /-- 32 random bytes, in hexadecimal. -/
  opaqueToken : ℕ → String
  uuidV7 : ℕ → Uuid
  /-- The JWT of claims under a secret. -/
  jwtEncode : String → Claims → String
  /-- The size in bytes of the index entry for some values, which Postgres compresses when they are long. -/
  indexRowSize : List Value → ℕ

/-- The configuration of the service and the libraries it uses. -/
structure Env where
  prim : Primitives
  config : Config

/-- Postgres accepts no text with a NUL character. -/
def hasNul (s : String) : Bool := s.toList.any (·.toNat = 0)

/-- An index on a text column can hold the text. -/
def Primitives.Indexable (prim : Primitives) (text : String) : Prop :=
  prim.indexRowSize [.text text] ≤ maxIndexRow

/-- The index on identities can hold the identity. -/
def Primitives.IdentityIndexable (prim : Primitives) (provider : Provider) (providerUserId : String) : Prop :=
  prim.indexRowSize [.enum provider.label, .text providerUserId] ≤ maxIndexRow

instance (prim : Primitives) (text : String) : Decidable (prim.Indexable text) :=
  inferInstanceAs (Decidable (_ ≤ _))

instance (prim : Primitives) (provider : Provider) (providerUserId : String) :
    Decidable (prim.IdentityIndexable provider providerUserId) :=
  inferInstanceAs (Decidable (_ ≤ _))

/-- The libraries without their negligible failures: no collision, no forgery, no failing hash; and what
they produce is short. -/
structure Primitives.Exact (prim : Primitives) : Prop where
  hmac_injective : ∀ key, Function.Injective (prim.hmacSha256 key)
  hmac_noNul : ∀ key m, hasNul (prim.hmacSha256 key m) = false
  hash_total : ∀ p salt, ∃ h, prim.argon2Hash p salt = some h ∧ hasNul h = false
  verify_hash : ∀ p q salt h, prim.argon2Hash p salt = some h →
    prim.argon2Verify q h = some (decide (q = p))
  token_injective : Function.Injective prim.opaqueToken
  uuid_injective : Function.Injective prim.uuidV7
  uuid_size : ∀ id, prim.indexRowSize [.uuid id] ≤ maxIndexRow
  hmac_indexable : ∀ key m, prim.Indexable (prim.hmacSha256 key m)
  hash_indexable : ∀ p salt h, prim.argon2Hash p salt = some h → prim.Indexable h

/-! ### SQL statements -/

/-- The SQL statements of the services, with their parameters. -/
inductive Sql
  | selectUserById (id : Uuid)
  | selectUserByEmail (email : String)
  | selectUserByOAuthIdentity (provider : Provider) (providerUserId : String)
  | selectLocalCredential (userId : Uuid)
  /-- The transaction that inserts a user and its local credential. -/
  | insertAccount (id : Uuid) (email displayName username passwordHash : String)
  | insertUser (id : Uuid) (email displayName : String)
  | updatePasswordHash (passwordHash : String) (userId : Uuid)
  | updateRole (role : Role) (id : Uuid)
  | deactivateUser (id : Uuid)
  | insertOAuthCredential (id userId : Uuid) (provider : Provider) (providerUserId : String)
      (avatarUrl : Option String)
  | selectOAuthConnections (userId : Uuid)
  | deleteOAuthCredential (userId : Uuid) (provider : Provider)
  | insertRefreshToken (id userId : Uuid) (tokenHash lookupKey : String) (expiresAt : OffsetDateTime)
  | selectRefreshToken (lookupKey : String)
  | revokeRefreshToken (id : Uuid)
  | revokeUserRefreshTokens (userId : Uuid)
  deriving DecidableEq

/-- `services::token::RefreshTokenRow`. -/
structure RefreshTokenRow where
  id : Uuid
  userId : Uuid
  tokenHash : String
  expiresAt : OffsetDateTime
  revoked : Bool
  deriving DecidableEq

def RefreshToken.record (r : RefreshToken) : RefreshTokenRow where
  id := r.id
  userId := r.userId
  tokenHash := r.tokenHash
  expiresAt := r.expiresAt
  revoked := r.revoked

/-- How a transaction that inserts an account fails. -/
inductive TxError
  | users (e : SqlxError)
  | localCredentials (e : SqlxError)
  /-- `BEGIN` or `COMMIT` failed. -/
  | transaction (e : SqlxError)
  deriving DecidableEq

namespace Sql

/-- What a successful statement returns. -/
@[reducible] def Result : Sql → Type
  | selectUserById _ => Option User
  | selectUserByEmail _ => Option User
  | selectUserByOAuthIdentity _ _ => Option User
  | selectLocalCredential _ => Option LocalCredential
  | insertAccount _ _ _ _ _ => User × LocalCredential
  | insertUser _ _ _ => User
  | updatePasswordHash _ _ => Unit
  | updateRole _ _ => Option User
  | deactivateUser _ => Unit
  | insertOAuthCredential _ _ _ _ _ => Unit
  | selectOAuthConnections _ => List OAuthConnection
  | deleteOAuthCredential _ _ => ℕ
  | insertRefreshToken _ _ _ _ _ => Unit
  | selectRefreshToken _ => Option RefreshTokenRow
  | revokeRefreshToken _ => Unit
  | revokeUserRefreshTokens _ => Unit

/-- What a failed statement returns. -/
@[reducible] def Error : Sql → Type
  | insertAccount _ _ _ _ _ => TxError
  | _ => SqlxError

end Sql

/-- The refusal of a text with a NUL character. -/
def nulError : SqlxError := .database "22021" "invalid byte sequence for encoding \"UTF8\": 0x00"

/-- The first instant of a `TIMESTAMPTZ`, in 4714 BC. -/
def minTimestamp : OffsetDateTime := -210866803200000000

/-- The refusal of an instant that is no `TIMESTAMPTZ`. -/
def timestampError : SqlxError := .database "22008" "timestamp out of range"

/-- Bind an instant, then execute the statement. -/
def bindTimestamp {α : Type} (t : OffsetDateTime) (x : Except SqlxError α) : Except SqlxError α :=
  if t < minTimestamp then .error timestampError else x

/-- Bind the text parameters of a statement, then execute it. -/
def bindTexts {α : Type} (texts : List String) (x : Except SqlxError α) : Except SqlxError α :=
  if texts.any hasNul then .error nulError else x

def OAuthCredential.connection (o : OAuthCredential) : OAuthConnection where
  provider := o.provider
  providerUserId := o.providerUserId
  createdAt := o.createdAt

namespace Sql

/-- Execute a statement at the time `now`; a statement that fails changes nothing. -/
def apply (prim : Primitives) (now : OffsetDateTime) (db : Db) : (q : Sql) → Except q.Error (q.Result × Db)
  | selectUserById id => .ok (db.findUser id, db)
  | selectUserByEmail email => bindTexts [email] (.ok (db.findUserByEmail email, db))
  | selectUserByOAuthIdentity provider puid =>
    bindTexts [puid] (.ok (db.findUserByOAuthIdentity provider puid, db))
  | selectLocalCredential userId => .ok (db.findLocalCredential userId, db)
  | insertAccount id email displayName username passwordHash => do
    let u := Db.newUser now id email displayName
    let c := Db.newLocalCredential now id username passwordHash
    let db ← (bindTexts [email, displayName] (db.insertUser prim.indexRowSize u)).mapError TxError.users
    let db ← (bindTexts [username, passwordHash] (db.insertLocalCredential prim.indexRowSize c)).mapError
      TxError.localCredentials
    .ok ((u, c), db)
  | insertUser id email displayName => do
    let u := Db.newUser now id email displayName
    let db ← bindTexts [email, displayName] (db.insertUser prim.indexRowSize u)
    .ok (u, db)
  | updatePasswordHash passwordHash userId =>
    bindTexts [passwordHash] (.ok ((), db.updatePasswordHash now userId passwordHash))
  | updateRole role id =>
    let db := db.updateRole now id role
    .ok (db.findUser id, db)
  | deactivateUser id => .ok ((), db.deactivate now id)
  | insertOAuthCredential id userId provider puid avatarUrl => do
    let o : OAuthCredential := ⟨id, userId, provider, puid, avatarUrl, now⟩
    let db ← bindTexts (puid :: avatarUrl.toList) (db.linkOAuthAccount prim.indexRowSize o)
    .ok ((), db)
  | selectOAuthConnections userId =>
    let rows := db.oauthCredentials.rows.filter (·.userId = userId)
    .ok ((rows.insertionSort fun a b => a.createdAt ≤ b.createdAt).map OAuthCredential.connection, db)
  | deleteOAuthCredential userId provider =>
    let rows := db.oauthCredentials.rows.filter fun o => o.userId = userId ∧ o.provider = provider
    .ok (rows.length, db.unlinkOAuthAccount userId provider)
  | insertRefreshToken id userId tokenHash lookupKey expiresAt => do
    let r : RefreshToken := ⟨id, userId, tokenHash, lookupKey, expiresAt, false, now⟩
    let db ← bindTexts [tokenHash, lookupKey] (bindTimestamp expiresAt (db.insertRefreshToken prim.indexRowSize r))
    .ok ((), db)
  | selectRefreshToken lookupKey =>
    bindTexts [lookupKey] (.ok ((db.findRefreshToken lookupKey).map RefreshToken.record, db))
  | revokeRefreshToken id => .ok ((), db.revokeWhere fun r => r.id = id)
  | revokeUserRefreshTokens userId =>
    .ok ((), db.revokeWhere fun r => r.userId = userId ∧ r.revoked = false)

/-! ### The rows after a statement -/

/-- The rows of `users` after a successful statement. -/
def users (now : OffsetDateTime) : Sql → List User → List User
  | insertAccount id email displayName _ _, us => us ++ [Db.newUser now id email displayName]
  | insertUser id email displayName, us => us ++ [Db.newUser now id email displayName]
  | updateRole role id, us =>
    us.map fun u => if u.id = id then { u with role := role, updatedAt := now } else u
  | deactivateUser id, us =>
    us.map fun u => if u.id = id then { u with isActive := false, updatedAt := now } else u
  | _, us => us

/-- The rows of `local_credentials` after a successful statement. -/
def localCredentials (now : OffsetDateTime) : Sql → List LocalCredential → List LocalCredential
  | insertAccount id _ _ username hash, cs => cs ++ [Db.newLocalCredential now id username hash]
  | updatePasswordHash hash id, cs =>
    cs.map fun c => if c.userId = id then { c with passwordHash := hash, updatedAt := now } else c
  | _, cs => cs

/-- The rows of `oauth_credentials` after a successful statement. -/
def oauthCredentials (now : OffsetDateTime) : Sql → List OAuthCredential → List OAuthCredential
  | insertOAuthCredential id userId provider puid avatarUrl, os =>
    if os.any fun o => o.provider = provider ∧ o.providerUserId = puid then os
    else os ++ [⟨id, userId, provider, puid, avatarUrl, now⟩]
  | deleteOAuthCredential userId provider, os =>
    os.filter fun o => !decide (o.userId = userId ∧ o.provider = provider)
  | _, os => os

/-- The rows of `refresh_tokens` after a successful statement. -/
def refreshTokens (now : OffsetDateTime) : Sql → List RefreshToken → List RefreshToken
  | insertRefreshToken id userId tokenHash lookupKey expiresAt, rs =>
    rs ++ [⟨id, userId, tokenHash, lookupKey, expiresAt, false, now⟩]
  | revokeRefreshToken id, rs =>
    rs.map fun r => if r.id = id then { r with revoked := true } else r
  | revokeUserRefreshTokens userId, rs =>
    rs.map fun r => if r.userId = userId ∧ r.revoked = false then { r with revoked := true } else r
  | _, rs => rs

end Sql

theorem bindTexts_ok {α : Type} {texts : List String} {x : Except SqlxError α} {a : α} :
    bindTexts texts x = .ok a ↔ texts.any hasNul = false ∧ x = .ok a := by
  unfold bindTexts
  cases texts.any hasNul <;> simp

theorem bindTimestamp_ok {α : Type} {t : OffsetDateTime} {x : Except SqlxError α} {a : α} :
    bindTimestamp t x = .ok a ↔ minTimestamp ≤ t ∧ x = .ok a := by
  unfold bindTimestamp
  split
  · next h => simp [Int.not_le.2 h]
  · next h => simp [Int.not_lt.1 h]

theorem mapError_ok {ε ε' α : Type} {f : ε → ε'} {x : Except ε α} {a : α} :
    x.mapError f = .ok a ↔ x = .ok a := by
  cases x <;> simp [Except.mapError]

section Insert

variable {size : List Value → ℕ}

theorem Db.insertUser_ok {db db' : Db} {u : User} (h : db.insertUser size u = .ok db') :
    db.users.refusal (Db.fits size) u = none ∧ db'.users.rows = db.users.rows ++ [u] ∧
      db'.localCredentials = db.localCredentials ∧ db'.oauthCredentials = db.oauthCredentials ∧
      db'.refreshTokens = db.refreshTokens := by
  unfold Db.insertUser at h
  split at h
  · cases h
  · next t ht =>
    cases h
    exact ⟨(Table.insert_ok ht).1, (Table.insert_ok ht).2, rfl, rfl, rfl⟩

theorem Db.insertUser_refused {db : Db} {u : User} {r : Table.Refusal User}
    (h : db.users.refusal (Db.fits size) u = some r) :
    db.insertUser size u = .error (Db.refusalError size u r) := by
  unfold Db.insertUser
  split
  · next r' hr => rw [Option.some.inj ((Table.insert_error hr).symm.trans h)]
  · next t ht => rw [(Table.insert_ok ht).1] at h; cases h

theorem Db.insertUser_free {db : Db} {u : User} (h : db.users.refusal (Db.fits size) u = none) :
    ∃ db', db.insertUser size u = .ok db' := by
  unfold Db.insertUser
  split
  · next k hk => rw [Table.insert_error hk] at h; cases h
  · exact ⟨_, rfl⟩

theorem Db.insertLocalCredential_ok {db db' : Db} {c : LocalCredential}
    (h : db.insertLocalCredential size c = .ok db') :
    db.localCredentials.refusal (Db.fits size) c = none ∧ db'.users = db.users ∧
      db'.localCredentials.rows = db.localCredentials.rows ++ [c] ∧
      db'.oauthCredentials = db.oauthCredentials ∧ db'.refreshTokens = db.refreshTokens := by
  unfold Db.insertLocalCredential at h
  split at h
  · cases h
  · next t ht =>
    split at h
    · cases h
      exact ⟨(Table.insert_ok ht).1, rfl, (Table.insert_ok ht).2, rfl, rfl⟩
    · cases h

theorem Db.insertLocalCredential_refused {db : Db} {c : LocalCredential} {r : Table.Refusal LocalCredential}
    (h : db.localCredentials.refusal (Db.fits size) c = some r) :
    db.insertLocalCredential size c = .error (Db.refusalError size c r) := by
  unfold Db.insertLocalCredential
  split
  · next r' hr => rw [Option.some.inj ((Table.insert_error hr).symm.trans h)]
  · next t ht => rw [(Table.insert_ok ht).1] at h; cases h

theorem Db.insertLocalCredential_free {db : Db} {c : LocalCredential}
    (h : db.localCredentials.refusal (Db.fits size) c = none) (hu : ∃ u ∈ db.users.rows, u.id = c.userId) :
    ∃ db', db.insertLocalCredential size c = .ok db' := by
  unfold Db.insertLocalCredential
  split
  · next k hk => rw [Table.insert_error hk] at h; cases h
  · exact ⟨_, dif_pos hu⟩

theorem Db.insertRefreshToken_ok {db db' : Db} {r : RefreshToken}
    (h : db.insertRefreshToken size r = .ok db') :
    db.refreshTokens.refusal (Db.fits size) r = none ∧ (∃ u ∈ db.users.rows, u.id = r.userId) ∧
      db'.users = db.users ∧ db'.localCredentials = db.localCredentials ∧
      db'.oauthCredentials = db.oauthCredentials ∧
      db'.refreshTokens.rows = db.refreshTokens.rows ++ [r] := by
  unfold Db.insertRefreshToken at h
  split at h
  · cases h
  · next t ht =>
    split at h
    · next hu =>
      cases h
      exact ⟨(Table.insert_ok ht).1, hu, rfl, rfl, rfl, (Table.insert_ok ht).2⟩
    · cases h

theorem Db.insertRefreshToken_free {db : Db} {r : RefreshToken}
    (h : db.refreshTokens.refusal (Db.fits size) r = none) (hu : ∃ u ∈ db.users.rows, u.id = r.userId) :
    ∃ db', db.insertRefreshToken size r = .ok db' := by
  unfold Db.insertRefreshToken
  split
  · next k hk => rw [Table.insert_error hk] at h; cases h
  · exact ⟨_, dif_pos hu⟩

/-- A refresh token with marks of its own, whose texts are a hash and a lookup key, can be stored. -/
theorem Primitives.Exact.insertRefreshToken {prim : Primitives} (hx : prim.Exact) {db : Db}
    (row : RefreshToken) {p key m : String} {salt : ℕ} (hhash : prim.argon2Hash p salt = some row.tokenHash)
    (hkey : row.lookupKey = prim.hmacSha256 key m)
    (hnew : ∀ r ∈ db.refreshTokens.rows, r.id ≠ row.id ∧ r.tokenHash ≠ row.tokenHash ∧
      r.lookupKey ≠ row.lookupKey) (hu : ∃ u ∈ db.users.rows, u.id = row.userId) :
    ∃ db', db.insertRefreshToken prim.indexRowSize row = .ok db' := by
  refine Db.insertRefreshToken_free (Table.refusal_eq_none.2 fun k hk => ?_) hu
  simp only [refreshTokensKeys, List.mem_cons, List.not_mem_nil, or_false] at hk
  rcases hk with rfl | rfl | rfl
  · exact ⟨fun r hr hclash => (hnew r hr).1 (by simpa using hclash.1), decide_eq_true (hx.uuid_size _)⟩
  · exact ⟨fun r hr hclash => (hnew r hr).2.1 (by simpa using hclash.1),
      decide_eq_true (hx.hash_indexable _ _ _ hhash)⟩
  · refine ⟨fun r hr hclash => (hnew r hr).2.2 (by simpa using hclash.1), decide_eq_true ?_⟩
    exact (congrArg prim.Indexable hkey).mpr (hx.hmac_indexable key m)

theorem oauthIdentityKey_clash {o o' : OAuthCredential} :
    oauthIdentityKey.Clash o o' ↔
      o.provider = o'.provider ∧ o.providerUserId = o'.providerUserId := by
  simp [Key.Clash, oauthIdentityKey, Provider.label_injective.eq_iff]

theorem Db.linkOAuthAccount_ok {db db' : Db} {o : OAuthCredential}
    (h : db.linkOAuthAccount size o = .ok db') :
    db'.users = db.users ∧ db'.localCredentials = db.localCredentials ∧
      db'.oauthCredentials.rows =
        (if db.oauthCredentials.rows.any fun o' =>
          o'.provider = o.provider ∧ o'.providerUserId = o.providerUserId
        then db.oauthCredentials.rows else db.oauthCredentials.rows ++ [o]) ∧
      db'.refreshTokens = db.refreshTokens := by
  unfold Db.linkOAuthAccount at h
  simp only [oauthIdentityKey_clash] at h
  split at h
  · next hc =>
    cases h
    exact ⟨rfl, rfl, (if_pos hc).symm, rfl⟩
  · next hc =>
    split at h
    · cases h
    · next t ht =>
      split at h
      · cases h
        exact ⟨rfl, rfl, (Table.insert_ok ht).2.trans (if_neg hc).symm, rfl⟩
      · cases h

end Insert

/-- **The rows after a statement.**  Everything a successful statement does to the tables. -/
theorem apply_ok {prim : Primitives} {now : OffsetDateTime} {db db' : Db} {q : Sql} {res : q.Result}
    (h : q.apply prim now db = .ok (res, db')) :
    db'.users.rows = q.users now db.users.rows ∧
      db'.localCredentials.rows = q.localCredentials now db.localCredentials.rows ∧
      db'.oauthCredentials.rows = q.oauthCredentials now db.oauthCredentials.rows ∧
      db'.refreshTokens.rows = q.refreshTokens now db.refreshTokens.rows := by
  cases q with
  | selectUserById | selectLocalCredential | selectOAuthConnections =>
    cases h
    exact ⟨rfl, rfl, rfl, rfl⟩
  | selectUserByEmail | selectUserByOAuthIdentity | selectRefreshToken =>
    cases (bindTexts_ok.1 h).2
    exact ⟨rfl, rfl, rfl, rfl⟩
  | insertAccount id email displayName username hash =>
    obtain ⟨db₁, h₁, h⟩ := bind_eq_ok h
    obtain ⟨db₂, h₂, h⟩ := bind_eq_ok h
    obtain ⟨-, hu, hl, ho, hr⟩ := Db.insertUser_ok (bindTexts_ok.1 (mapError_ok.1 h₁)).2
    obtain ⟨-, hu', hl', ho', hr'⟩ :=
      Db.insertLocalCredential_ok (bindTexts_ok.1 (mapError_ok.1 h₂)).2
    cases h
    exact ⟨by rw [hu', hu]; rfl, by rw [hl', hl]; rfl, by rw [ho', ho]; rfl, by rw [hr', hr]; rfl⟩
  | insertUser id email displayName =>
    obtain ⟨db₁, h₁, h⟩ := bind_eq_ok h
    obtain ⟨-, hu, hl, ho, hr⟩ := Db.insertUser_ok (bindTexts_ok.1 h₁).2
    cases h
    exact ⟨hu, by rw [hl]; rfl, by rw [ho]; rfl, by rw [hr]; rfl⟩
  | updatePasswordHash hash userId =>
    cases (bindTexts_ok.1 h).2
    exact ⟨rfl, by simp [Db.updatePasswordHash, Sql.localCredentials], rfl, rfl⟩
  | updateRole role id =>
    cases h
    exact ⟨by simp [Db.updateRole, Db.updateUser, Sql.users], rfl, rfl, rfl⟩
  | deactivateUser id =>
    cases h
    exact ⟨by simp [Db.deactivate, Db.updateUser, Sql.users], rfl, rfl, rfl⟩
  | insertOAuthCredential id userId provider puid avatarUrl =>
    obtain ⟨db₁, h₁, h⟩ := bind_eq_ok h
    obtain ⟨hu, hl, ho, hr⟩ := Db.linkOAuthAccount_ok (bindTexts_ok.1 h₁).2
    cases h
    exact ⟨by rw [hu]; rfl, by rw [hl]; rfl, ho, by rw [hr]; rfl⟩
  | deleteOAuthCredential userId provider =>
    cases h
    exact ⟨rfl, rfl, rfl, rfl⟩
  | insertRefreshToken id userId tokenHash lookupKey expiresAt =>
    obtain ⟨db₁, h₁, h⟩ := bind_eq_ok h
    obtain ⟨-, -, hu, hl, ho, hr⟩ :=
      Db.insertRefreshToken_ok (bindTimestamp_ok.1 (bindTexts_ok.1 h₁).2).2
    cases h
    exact ⟨by rw [hu]; rfl, by rw [hl]; rfl, by rw [ho]; rfl, hr⟩
  | revokeRefreshToken id =>
    cases h
    exact ⟨rfl, rfl, rfl, by simp [Db.revokeWhere, Sql.refreshTokens]⟩
  | revokeUserRefreshTokens userId =>
    cases h
    exact ⟨rfl, rfl, rfl, by simp [Db.revokeWhere, Sql.refreshTokens]⟩

/-! ### Programs -/

/-- Why a JWT is not produced or not accepted. -/
inductive JwtError
  | expiredSignature
  | invalid
  deriving DecidableEq

/-- What a program can ask for. -/
inductive Op
  /-- Read the clock. -/
  | now
  /-- Draw randomness: a number no other draw returns. -/
  | random
  /-- Panic. -/
  | abort
  | encode (claims : Claims)
  | decode (token : String)
  | sql (q : Sql)

@[reducible] def Ret : Op → Type
  | .now => OffsetDateTime
  | .random => ℕ
  | .abort => Empty
  | .encode _ => Except JwtError String
  | .decode _ => Except JwtError Claims
  | .sql q => Except q.Error q.Result

/-- The state that all requests share. -/
@[ext] structure State where
  db : Db
  /-- Microseconds since the epoch. -/
  clock : ℕ
  /-- How often randomness has been drawn. -/
  draws : ℕ
  /-- The claims signed so far. -/
  minted : List Claims

namespace State

/-- The service is installed and nobody has called it. -/
def fresh (clock : ℕ) : State := ⟨.empty, clock, 0, []⟩

/-- `unix_now`: the seconds since the epoch. -/
def unixNow (s : State) : ℕ := s.clock / 1000000

end State

/-- The tolerance of `jsonwebtoken::Validation::default`, in seconds. -/
def leeway : ℕ := 60

/-- `decode` accepts what was signed with the secret and is not past its expiry by more than the
leeway. -/
def decode (env : Env) (s : State) (token : String) : Except JwtError Claims :=
  match s.minted.find? fun c => env.prim.jwtEncode env.config.jwtSecret c = token with
  | none => .error .invalid
  | some c => if c.exp < s.unixNow - leeway then .error .expiredSignature else .ok c

/-- Execute a statement atomically; nothing means that the program ends there. -/
def exec (env : Env) : (o : Op) → State → Option (Ret o × State)
  | .now, s => some ((s.clock : OffsetDateTime), s)
  | .random, s => some (s.draws, { s with draws := s.draws + 1 })
  | .abort, _ => none
  | .encode c, s =>
    some (.ok (env.prim.jwtEncode env.config.jwtSecret c), { s with minted := c :: s.minted })
  | .decode t, s => some (decode env s t, s)
  | .sql q, s =>
    match q.apply env.prim s.clock s.db with
    | .ok (res, db) => some (.ok res, { s with db := db })
    | .error e => some (.error e, s)

/-- One statement of a program: it is executed, or it is an SQL statement that the infrastructure
fails, which changes nothing. -/
inductive Stmt (env : Env) : (o : Op) → State → Ret o → State → Prop
  | exec {o : Op} {s s' : State} {r : Ret o} (h : exec env o s = some (r, s')) : Stmt env o s r s'
  | fault {q : Sql} {s : State} (e : q.Error) : Stmt env (.sql q) s (.error e) s

end Socle
