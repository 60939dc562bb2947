import Socle.Model.Migrations
import Socle.Model.Models

/-!
# The database

The four tables the services work on, with the unique keys and foreign keys of the schema that the
migrations leave.

* `usersKeys`, …: the unique keys, in the order in which Postgres checks them;
* `keys_of_schema`, `project_row_…`: they are the keys of `currentSchema`, on the rows as stored;
* `Db`: the tables and the foreign keys, so that a dangling reference cannot be built;
* `indexRowError`: what no index can hold;
* the writes: `insertUser`, `insertLocalCredential`, `linkOAuthAccount`, ….
-/

namespace Socle

open Relational

/-! ### Unique keys -/

def usersKeys : List (Key User) := [
  ⟨"users_pkey", ["id"], fun u => [.uuid u.id]⟩,
  ⟨"users_email_key", ["email"], fun u => [.text u.email]⟩,
  ⟨"users_username_key", ["display_name"], fun u => [.text u.displayName]⟩]

def localCredentialsKeys : List (Key LocalCredential) := [
  ⟨"local_credentials_pkey", ["user_id"], fun c => [.uuid c.userId]⟩,
  ⟨"local_credentials_username_key", ["username"], fun c => [.text c.username]⟩]

/-- The Postgres label of a provider. -/
def Provider.label : Provider → String
  | .google => "google"
  | .gitHub => "github"

theorem Provider.label_injective : Function.Injective Provider.label := by
  intro p q
  cases p <;> cases q <;> decide

/-- The identity a link stands for. -/
def oauthIdentityKey : Key OAuthCredential :=
  ⟨"oauth_credentials_provider_provider_user_id_key", ["provider", "provider_user_id"],
    fun o => [.enum o.provider.label, .text o.providerUserId]⟩

def oauthCredentialsKeys : List (Key OAuthCredential) := [
  ⟨"oauth_credentials_pkey", ["id"], fun o => [.uuid o.id]⟩,
  oauthIdentityKey]

def refreshTokensKeys : List (Key RefreshToken) := [
  ⟨"refresh_tokens_pkey", ["id"], fun r => [.uuid r.id]⟩,
  ⟨"refresh_tokens_token_hash_key", ["token_hash"], fun r => [.text r.tokenHash]⟩,
  ⟨"idx_refresh_tokens_lookup_key", ["lookup_key"], fun r => [.text r.lookupKey]⟩]

/-- The Postgres label of a role. -/
def Role.label : Role → String
  | .guest => "guest"
  | .user => "user"
  | .admin => "admin"

/-- Rewriting a row keeps its keys when it keeps their columns. -/
theorem usersKeys_keep {f : User → User}
    (h : ∀ u, (f u).id = u.id ∧ (f u).email = u.email ∧ (f u).displayName = u.displayName) :
    ∀ k ∈ usersKeys, ∀ u, k.val (f u) = k.val u := by
  simp [usersKeys, h]

theorem localCredentialsKeys_keep {f : LocalCredential → LocalCredential}
    (h : ∀ c, (f c).userId = c.userId ∧ (f c).username = c.username) :
    ∀ k ∈ localCredentialsKeys, ∀ c, k.val (f c) = k.val c := by
  simp [localCredentialsKeys, h]

theorem refreshTokensKeys_keep {f : RefreshToken → RefreshToken}
    (h : ∀ r, (f r).id = r.id ∧ (f r).tokenHash = r.tokenHash ∧ (f r).lookupKey = r.lookupKey) :
    ∀ k ∈ refreshTokensKeys, ∀ r, k.val (f r) = k.val r := by
  simp [refreshTokensKeys, h]

/-- A user as a row of the current `users` table. -/
def User.row (u : User) : Row :=
  [.uuid u.id, .text u.email, .text u.displayName, .enum u.role.label, .bool u.isActive,
    .timestamp u.createdAt, .timestamp u.updatedAt]

def LocalCredential.row (c : LocalCredential) : Row :=
  [.uuid c.userId, .text c.username, .text c.passwordHash, .timestamp c.createdAt,
    .timestamp c.updatedAt]

/-- A link as a row of `oauth_credentials`; the columns no statement sets keep their defaults. -/
def OAuthCredential.row (o : OAuthCredential) : Row :=
  [.uuid o.id, .uuid o.userId, .enum o.provider.label, .text o.providerUserId, .null, .null, .null,
    .timestamp o.createdAt, .timestamp o.createdAt, o.avatarUrl.elim .null .text]

def RefreshToken.row (r : RefreshToken) : Row :=
  [.uuid r.id, .uuid r.userId, .text r.tokenHash, .timestamp r.expiresAt, .bool r.revoked,
    .timestamp r.createdAt, .text r.lookupKey]

/-- **The keys are those of the migrated schema**, `users_username_key` on `display_name` among
them. -/
theorem keys_of_schema :
    usersKeys.map (fun k => (k.name, k.columns)) = currentSchema.keysOf "users" ∧
    localCredentialsKeys.map (fun k => (k.name, k.columns)) =
      currentSchema.keysOf "local_credentials" ∧
    oauthCredentialsKeys.map (fun k => (k.name, k.columns)) =
      currentSchema.keysOf "oauth_credentials" ∧
    refreshTokensKeys.map (fun k => (k.name, k.columns)) =
      currentSchema.keysOf "refresh_tokens" := by
  decide +kernel

/-- The value of a key is what the stored row has in the key's columns. -/
theorem project_row_users (u : User) :
    ∀ k ∈ usersKeys, k.val u = normalisedUsers.project k.columns u.row := by
  simp only [usersKeys, List.forall_mem_cons, List.not_mem_nil, false_implies, implies_true, and_true]
  exact ⟨rfl, rfl, rfl⟩

theorem project_row_localCredentials (c : LocalCredential) :
    ∀ k ∈ localCredentialsKeys, k.val c = localCredentialsTable.project k.columns c.row := by
  simp only [localCredentialsKeys, List.forall_mem_cons, List.not_mem_nil, false_implies, implies_true,
    and_true]
  exact ⟨rfl, rfl⟩

theorem project_row_oauthCredentials (o : OAuthCredential) :
    ∀ k ∈ oauthCredentialsKeys, k.val o = oauthCredentialsTable.project k.columns o.row := by
  simp only [oauthCredentialsKeys, oauthIdentityKey, List.forall_mem_cons, List.not_mem_nil,
    false_implies, implies_true, and_true]
  exact ⟨rfl, rfl⟩

theorem project_row_refreshTokens (r : RefreshToken) :
    ∀ k ∈ refreshTokensKeys, k.val r = refreshTokensTable.project k.columns r.row := by
  simp only [refreshTokensKeys, List.forall_mem_cons, List.not_mem_nil, false_implies, implies_true,
    and_true]
  exact ⟨rfl, rfl, rfl⟩

/-! ### The tables -/

/-- The rows of the database, with its foreign keys. -/
@[ext] structure Db where
  users : Table User usersKeys
  localCredentials : Table LocalCredential localCredentialsKeys
  oauthCredentials : Table OAuthCredential oauthCredentialsKeys
  refreshTokens : Table RefreshToken refreshTokensKeys
  localCredentials_user : ∀ c ∈ localCredentials.rows, ∃ u ∈ users.rows, u.id = c.userId
  oauthCredentials_user : ∀ o ∈ oauthCredentials.rows, ∃ u ∈ users.rows, u.id = o.userId
  refreshTokens_user : ∀ r ∈ refreshTokens.rows, ∃ u ∈ users.rows, u.id = r.userId

/-- A unique violation, as the server reports it. -/
def uniqueViolation (constraint : String) : SqlxError :=
  .database "23505" ("duplicate key value violates unique constraint \"" ++ constraint ++ "\"")

/-- A foreign key violation, as the server reports it. -/
def foreignKeyViolation (table constraint : String) : SqlxError :=
  .database "23503" ("insert or update on table \"" ++ table ++
    "\" violates foreign key constraint \"" ++ constraint ++ "\"")

/-- The largest entry of a B-tree index, in bytes: a third of a page. -/
def maxIndexRow : ℕ := 2704

/-- The largest entry that can be formed at all. -/
def maxIndexTuple : ℕ := 8191

/-- An index whose entry would have `size` bytes, as the server reports it. -/
def indexRowError (index : String) (size : ℕ) : SqlxError :=
  .database "54000" (if maxIndexTuple < size then
      "index row requires " ++ toString size ++ " bytes, maximum size is " ++ toString maxIndexTuple
    else
      "index row size " ++ toString size ++ " exceeds btree version 4 maximum " ++ toString maxIndexRow ++
        " for index \"" ++ index ++ "\"")

namespace Db

/-- An index can hold the values, whose entry has `size` bytes. -/
def fits (size : List Value → ℕ) (values : List Value) : Bool := decide (size values ≤ maxIndexRow)

/-- How the server reports a refused row. -/
def refusalError {α : Type} (size : List Value → ℕ) (a : α) : Table.Refusal α → SqlxError
  | .duplicate k => uniqueViolation k.name
  | .tooLarge k => indexRowError k.name (size (k.val a))

/-- The error of one index: another row clashes with the new one, or its entry is too large. -/
def keyError (name : String) (clash : Bool) (size : ℕ) : Option SqlxError :=
  if clash then some (uniqueViolation name)
  else if size ≤ maxIndexRow then none else some (indexRowError name size)

theorem keyError_eq_some {name : String} {clash : Bool} {size : ℕ} {e : SqlxError}
    (h : keyError name clash size = some e) :
    clash = true ∧ e = uniqueViolation name ∨ maxIndexRow < size ∧ e = indexRowError name size := by
  unfold keyError at h
  split at h
  · next hclash => exact Or.inl ⟨hclash, (Option.some.inj h).symm⟩
  · split at h
    · cases h
    · next hsize => exact Or.inr ⟨Nat.lt_of_not_le hsize, (Option.some.inj h).symm⟩

/-- **The error of a table** is that of the first index that refuses the row. -/
theorem refusal_error {α : Type} {keys : List (Key α)} (size : List Value → ℕ) (t : Table α keys) (a : α) :
    (t.refusal (fits size) a).map (refusalError size a) = keys.findSome? fun k =>
      keyError k.name (t.rows.any fun b => decide (k.Clash b a)) (size (k.val a)) := by
  rw [Table.refusal, List.map_findSome?]
  congr 1
  funext k
  simp only [Function.comp_apply, keyError, fits, decide_eq_true_eq]
  split
  · rfl
  · split <;> rfl

/-- The database that the migrations create. -/
def empty : Db where
  users := .empty
  localCredentials := .empty
  oauthCredentials := .empty
  refreshTokens := .empty
  localCredentials_user := by simp
  oauthCredentials_user := by simp
  refreshTokens_user := by simp

/-! ### Reading -/

def findUser (db : Db) (id : Uuid) : Option User := db.users.rows.find? (·.id = id)

def findUserByEmail (db : Db) (email : String) : Option User :=
  db.users.rows.find? (·.email = email)

def findLocalCredential (db : Db) (userId : Uuid) : Option LocalCredential :=
  db.localCredentials.rows.find? (·.userId = userId)

def findOAuthCredential (db : Db) (provider : Provider) (providerUserId : String) :
    Option OAuthCredential :=
  db.oauthCredentials.rows.find? fun o => o.provider = provider ∧ o.providerUserId = providerUserId

/-- The join of `oauth_credentials` with `users`. -/
def findUserByOAuthIdentity (db : Db) (provider : Provider) (providerUserId : String) :
    Option User :=
  (db.findOAuthCredential provider providerUserId).bind fun o => db.findUser o.userId

def findRefreshToken (db : Db) (lookupKey : String) : Option RefreshToken :=
  db.refreshTokens.rows.find? (·.lookupKey = lookupKey)

/-! ### Inserting -/

/-- The row of a new user; the other columns have their defaults. -/
def newUser (now : OffsetDateTime) (id : Uuid) (email displayName : String) : User where
  id := id
  email := email
  displayName := displayName
  role := .user
  isActive := true
  createdAt := now
  updatedAt := now

def newLocalCredential (now : OffsetDateTime) (userId : Uuid) (username passwordHash : String) :
    LocalCredential where
  userId := userId
  username := username
  passwordHash := passwordHash
  createdAt := now
  updatedAt := now

/-- Rows stay referenced when the referenced table grows. -/
theorem exists_user_append {db : Db} {t : Table User usersKeys} {u : User}
    {fits : List Value → Bool} (ht : db.users.insert fits u = .ok t) {id : Uuid} (h : ∃ u ∈ db.users.rows, u.id = id) :
    ∃ u ∈ t.rows, u.id = id := by
  obtain ⟨v, hv, hid⟩ := h
  exact ⟨v, by rw [(Table.insert_ok ht).2]; exact List.mem_append_left _ hv, hid⟩

def insertUser (db : Db) (size : List Value → ℕ) (u : User) : Except SqlxError Db :=
  match h : db.users.insert (fits size) u with
  | .error refusal => .error (refusalError size u refusal)
  | .ok t => .ok { db with
      users := t
      localCredentials_user := fun c hc => exists_user_append h (db.localCredentials_user c hc)
      oauthCredentials_user := fun o ho => exists_user_append h (db.oauthCredentials_user o ho)
      refreshTokens_user := fun r hr => exists_user_append h (db.refreshTokens_user r hr) }

/-- What holds of the rows before an insertion and of the new row holds of the rows after. -/
theorem forall_mem_insert {α : Type} {keys : List (Key α)} {t t' : Table α keys} {a : α}
    {fits : List Value → Bool} (ht : t.insert fits a = .ok t') {P : α → Prop} (h : ∀ b ∈ t.rows, P b) (ha : P a) :
    ∀ b ∈ t'.rows, P b := by
  intro b hb
  rw [(Table.insert_ok ht).2, List.mem_append, List.mem_singleton] at hb
  rcases hb with hb | rfl
  · exact h b hb
  · exact ha

def insertLocalCredential (db : Db) (size : List Value → ℕ) (c : LocalCredential) :
    Except SqlxError Db :=
  match h : db.localCredentials.insert (fits size) c with
  | .error refusal => .error (refusalError size c refusal)
  | .ok t =>
    if hu : ∃ u ∈ db.users.rows, u.id = c.userId then
      .ok { db with
        localCredentials := t
        localCredentials_user := forall_mem_insert h db.localCredentials_user hu }
    else .error (foreignKeyViolation "local_credentials" "local_credentials_user_id_fkey")

def insertRefreshToken (db : Db) (size : List Value → ℕ) (r : RefreshToken) : Except SqlxError Db :=
  match h : db.refreshTokens.insert (fits size) r with
  | .error refusal => .error (refusalError size r refusal)
  | .ok t =>
    if hu : ∃ u ∈ db.users.rows, u.id = r.userId then
      .ok { db with
        refreshTokens := t
        refreshTokens_user := forall_mem_insert h db.refreshTokens_user hu }
    else .error (foreignKeyViolation "refresh_tokens" "refresh_tokens_user_id_fkey")

/-- `INSERT … ON CONFLICT (provider, provider_user_id) DO NOTHING`. -/
def linkOAuthAccount (db : Db) (size : List Value → ℕ) (o : OAuthCredential) : Except SqlxError Db :=
  if db.oauthCredentials.rows.any fun o' => oauthIdentityKey.Clash o' o then .ok db
  else
    match h : db.oauthCredentials.insert (fits size) o with
    | .error refusal => .error (refusalError size o refusal)
    | .ok t =>
      if hu : ∃ u ∈ db.users.rows, u.id = o.userId then
        .ok { db with
          oauthCredentials := t
          oauthCredentials_user := forall_mem_insert h db.oauthCredentials_user hu }
      else .error (foreignKeyViolation "oauth_credentials" "oauth_credentials_user_id_fkey")

/-! ### Updating and deleting -/

/-- Rewrite the user `id`, leaving its keys as they are. -/
def updateUser (db : Db) (id : Uuid) (f : User → User)
    (hf : ∀ k ∈ usersKeys, ∀ u, k.val (f u) = k.val u) : Db :=
  have href : ∀ {i : Uuid}, (∃ u ∈ db.users.rows, u.id = i) →
      ∃ u ∈ (db.users.update (·.id = id) f hf).rows, u.id = i := by
    rintro i ⟨u, hu, rfl⟩
    have hid : (f u).id = u.id := by
      have hval := hf _ List.mem_cons_self u
      simpa using hval
    refine ⟨_, Table.mem_update.2 ⟨u, hu, rfl⟩, ?_⟩
    split
    · exact hid
    · rfl
  { db with
    users := db.users.update (·.id = id) f hf
    localCredentials_user := fun c hc => href (db.localCredentials_user c hc)
    oauthCredentials_user := fun o ho => href (db.oauthCredentials_user o ho)
    refreshTokens_user := fun r hr => href (db.refreshTokens_user r hr) }

/-- `UPDATE users SET role = …, updated_at = NOW() WHERE id = …`. -/
def updateRole (db : Db) (now : OffsetDateTime) (id : Uuid) (role : Role) : Db :=
  db.updateUser id (fun u => { u with role := role, updatedAt := now })
    (usersKeys_keep fun _ => ⟨rfl, rfl, rfl⟩)

/-- `UPDATE users SET is_active = FALSE, updated_at = NOW() WHERE id = …`. -/
def deactivate (db : Db) (now : OffsetDateTime) (id : Uuid) : Db :=
  db.updateUser id (fun u => { u with isActive := false, updatedAt := now })
    (usersKeys_keep fun _ => ⟨rfl, rfl, rfl⟩)

/-- `UPDATE local_credentials SET password_hash = …, updated_at = NOW() WHERE user_id = …`. -/
def updatePasswordHash (db : Db) (now : OffsetDateTime) (userId : Uuid) (hash : String) : Db :=
  { db with
    localCredentials := db.localCredentials.update (·.userId = userId)
      (fun c => { c with passwordHash := hash, updatedAt := now })
      (localCredentialsKeys_keep fun _ => ⟨rfl, rfl⟩)
    localCredentials_user := by
      intro c hc
      obtain ⟨c', hc', rfl⟩ := Table.mem_update.1 hc
      split
      · exact db.localCredentials_user c' hc'
      · exact db.localCredentials_user c' hc' }

/-- `UPDATE refresh_tokens SET revoked = TRUE WHERE …`. -/
def revokeWhere (db : Db) (p : RefreshToken → Bool) : Db :=
  { db with
    refreshTokens := db.refreshTokens.update p (fun r => { r with revoked := true })
      (refreshTokensKeys_keep fun _ => ⟨rfl, rfl, rfl⟩)
    refreshTokens_user := by
      intro r hr
      obtain ⟨r', hr', rfl⟩ := Table.mem_update.1 hr
      split
      · exact db.refreshTokens_user r' hr'
      · exact db.refreshTokens_user r' hr' }

/-- `DELETE FROM oauth_credentials WHERE user_id = … AND provider = …`. -/
def unlinkOAuthAccount (db : Db) (userId : Uuid) (provider : Provider) : Db :=
  { db with
    oauthCredentials := db.oauthCredentials.delete fun o => o.userId = userId ∧ o.provider = provider
    oauthCredentials_user := fun o ho => db.oauthCredentials_user o (Table.mem_delete.1 ho).1 }

end Db

end Socle
