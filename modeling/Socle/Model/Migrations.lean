import Socle.Relational.Ddl

/-!
# The migrations

The scripts under `migrations/`, and the schema after each of them.

* `initUp`, `normaliseUserCredentialsUp`, `independentRefreshTokenSaltsUp` and the down script
  `normaliseUserCredentialsDown`; names that Postgres generates for constraints are written out;
* `initSchema`, `normalisedSchema`, `currentSchema`, with the theorems that the scripts lead there;
* `down_ne_ok`: the down script of `normalise_user_credentials` fails on every content.
-/

namespace Socle

open Relational

/-! ### `20260531143750_init.up.sql` -/

/-- `users` as the init migration creates it. -/
def initUsers : TableDef where
  name := "users"
  columns := [
    ⟨"id", .uuid, true, some .genRandomUuid⟩,
    ⟨"email", .text, true, none⟩,
    ⟨"username", .text, true, none⟩,
    ⟨"password_hash", .text, true, none⟩,
    ⟨"role", .enum "user_role", true, some (.literal (.enum "user"))⟩,
    ⟨"is_active", .boolean, true, some (.literal (.bool true))⟩,
    ⟨"created_at", .timestamptz, true, some .now⟩,
    ⟨"updated_at", .timestamptz, true, some .now⟩]
  constraints := [
    .primaryKey "users_pkey" ["id"],
    .unique "users_email_key" ["email"],
    .unique "users_username_key" ["username"]]

/-- `refresh_tokens` as the init migration creates it. -/
def initRefreshTokens : TableDef where
  name := "refresh_tokens"
  columns := [
    ⟨"id", .uuid, true, some .genRandomUuid⟩,
    ⟨"user_id", .uuid, true, none⟩,
    ⟨"token_hash", .text, true, none⟩,
    ⟨"expires_at", .timestamptz, true, none⟩,
    ⟨"revoked", .boolean, true, some (.literal (.bool false))⟩,
    ⟨"created_at", .timestamptz, true, some .now⟩]
  constraints := [
    .primaryKey "refresh_tokens_pkey" ["id"],
    .unique "refresh_tokens_token_hash_key" ["token_hash"],
    .foreignKey "refresh_tokens_user_id_fkey" ["user_id"] "users" ["id"]]

def initUp : List Statement := [
  .createType "user_role" ["guest", "user", "admin"],
  .createTable initUsers,
  .createIndex ⟨"idx_users_email", "users", ["email"], false⟩,
  .createIndex ⟨"idx_users_username", "users", ["username"], false⟩,
  .createIndex ⟨"idx_users_role", "users", ["role"], false⟩,
  .createTable initRefreshTokens,
  .createIndex ⟨"idx_refresh_tokens_user_id", "refresh_tokens", ["user_id"], false⟩,
  .createIndex ⟨"idx_refresh_tokens_token_hash", "refresh_tokens", ["token_hash"], false⟩]

/-! ### `20260606193040_normalise_user_credentials` -/

def localCredentialsTable : TableDef where
  name := "local_credentials"
  columns := [
    ⟨"user_id", .uuid, true, none⟩,
    ⟨"username", .text, true, none⟩,
    ⟨"password_hash", .text, true, none⟩,
    ⟨"created_at", .timestamptz, true, some .now⟩,
    ⟨"updated_at", .timestamptz, true, some .now⟩]
  constraints := [
    .primaryKey "local_credentials_pkey" ["user_id"],
    .unique "local_credentials_username_key" ["username"],
    .foreignKey "local_credentials_user_id_fkey" ["user_id"] "users" ["id"]]

def oauthCredentialsTable : TableDef where
  name := "oauth_credentials"
  columns := [
    ⟨"id", .uuid, true, some .genRandomUuid⟩,
    ⟨"user_id", .uuid, true, none⟩,
    ⟨"provider", .enum "oauth_provider", true, none⟩,
    ⟨"provider_user_id", .text, true, none⟩,
    ⟨"access_token_enc", .text, false, none⟩,
    ⟨"refresh_token_enc", .text, false, none⟩,
    ⟨"expires_at", .timestamptz, false, none⟩,
    ⟨"created_at", .timestamptz, true, some .now⟩,
    ⟨"updated_at", .timestamptz, true, some .now⟩,
    ⟨"avatar_url", .text, false, none⟩]
  constraints := [
    .primaryKey "oauth_credentials_pkey" ["id"],
    .unique "oauth_credentials_provider_provider_user_id_key" ["provider", "provider_user_id"],
    .foreignKey "oauth_credentials_user_id_fkey" ["user_id"] "users" ["id"]]

def normaliseUserCredentialsUp : List Statement :=
  [.createType "oauth_provider" ["google", "github"]] ++
  alterTable "users" [.renameColumn "username" "display_name"] ++
  alterTable "users" [.dropColumn "password_hash"] ++
  [.createTable localCredentialsTable, .createTable oauthCredentialsTable]

def normaliseUserCredentialsDown : List Statement :=
  alterTable "users" [.addColumn "username" .text false, .addColumn "password_hash" .text false] ++
  [.updateFrom "users" [("username", "username"), ("password_hash", "password_hash")]
    "local_credentials" ("user_id", "id")] ++
  alterTable "users" [
    .setNotNull "username",
    .setNotNull "password_hash",
    .addUnique "users_username_key" ["username"]] ++
  alterTable "users" [.renameColumn "display_name" "username"] ++
  [.dropTable "oauth_credentials", .dropTable "local_credentials", .dropType "oauth_provider"]

/-! ### `20260622000000_independent_refresh_token_salts.up.sql` -/

def independentRefreshTokenSaltsUp : List Statement :=
  alterTable "refresh_tokens" [.addColumn "lookup_key" .text true] ++
  [.createIndex ⟨"idx_refresh_tokens_lookup_key", "refresh_tokens", ["lookup_key"], true⟩]

/-! ### The schema after each migration -/

/-- The schema after `init`. -/
def initSchema : Schema where
  types := [("user_role", ["guest", "user", "admin"])]
  tables := [initUsers, initRefreshTokens]
  indexes := [
    ⟨"idx_users_email", "users", ["email"], false⟩,
    ⟨"idx_users_username", "users", ["username"], false⟩,
    ⟨"idx_users_role", "users", ["role"], false⟩,
    ⟨"idx_refresh_tokens_user_id", "refresh_tokens", ["user_id"], false⟩,
    ⟨"idx_refresh_tokens_token_hash", "refresh_tokens", ["token_hash"], false⟩]

/-- `users` after `normalise_user_credentials`: the renamed column is still unique, and the
constraint has kept its name. -/
def normalisedUsers : TableDef where
  name := "users"
  columns := [
    ⟨"id", .uuid, true, some .genRandomUuid⟩,
    ⟨"email", .text, true, none⟩,
    ⟨"display_name", .text, true, none⟩,
    ⟨"role", .enum "user_role", true, some (.literal (.enum "user"))⟩,
    ⟨"is_active", .boolean, true, some (.literal (.bool true))⟩,
    ⟨"created_at", .timestamptz, true, some .now⟩,
    ⟨"updated_at", .timestamptz, true, some .now⟩]
  constraints := [
    .primaryKey "users_pkey" ["id"],
    .unique "users_email_key" ["email"],
    .unique "users_username_key" ["display_name"]]

/-- The schema after `normalise_user_credentials`. -/
def normalisedSchema : Schema where
  types := [("user_role", ["guest", "user", "admin"]), ("oauth_provider", ["google", "github"])]
  tables := [normalisedUsers, initRefreshTokens, localCredentialsTable, oauthCredentialsTable]
  indexes := [
    ⟨"idx_users_email", "users", ["email"], false⟩,
    ⟨"idx_users_username", "users", ["display_name"], false⟩,
    ⟨"idx_users_role", "users", ["role"], false⟩,
    ⟨"idx_refresh_tokens_user_id", "refresh_tokens", ["user_id"], false⟩,
    ⟨"idx_refresh_tokens_token_hash", "refresh_tokens", ["token_hash"], false⟩]

/-- `refresh_tokens` with the column `lookup_key`. -/
def refreshTokensTable : TableDef :=
  { initRefreshTokens with
    columns := initRefreshTokens.columns ++ [⟨"lookup_key", .text, true, none⟩] }

/-- The schema after `independent_refresh_token_salts`, on which the services work. -/
def currentSchema : Schema where
  types := normalisedSchema.types
  tables := [
    normalisedUsers,
    refreshTokensTable,
    localCredentialsTable,
    oauthCredentialsTable]
  indexes := normalisedSchema.indexes ++
    [⟨"idx_refresh_tokens_lookup_key", "refresh_tokens", ["lookup_key"], true⟩]

theorem runSchema_initUp : runSchema initUp .empty = .ok initSchema := by decide +kernel

theorem runSchema_normaliseUp :
    runSchema normaliseUserCredentialsUp initSchema = .ok normalisedSchema := by decide +kernel

theorem runSchema_saltsUp :
    runSchema independentRefreshTokenSaltsUp normalisedSchema = .ok currentSchema := by
  decide +kernel

/-- The three migrations as `sqlx::migrate!` runs them, each in a transaction of its own. -/
def migrate (d : Database) : Except DdlError Database := do
  let d ← run initUp d
  let d ← run normaliseUserCredentialsUp d
  run independentRefreshTokenSaltsUp d

/-- **A fresh installation succeeds** and has the current schema without rows. -/
theorem migrate_empty : ∃ d, migrate .empty = .ok d ∧ d.schema = currentSchema ∧ ∀ n, d.rows n = [] := by
  obtain ⟨d₁, h₁, hs₁, hr₁⟩ := run_empty (d := .empty) (fun _ _ _ _ => rfl) runSchema_initUp
  obtain ⟨d₂, h₂, hs₂, hr₂⟩ := run_empty (fun _ _ n _ => hr₁ n rfl)
    (by rw [hs₁]; exact runSchema_normaliseUp)
  obtain ⟨d₃, h₃, hs₃, hr₃⟩ := run_empty (fun _ _ n _ => hr₂ n (hr₁ n rfl))
    (by rw [hs₂]; exact runSchema_saltsUp)
  refine ⟨d₃, ?_, hs₃, fun n => hr₃ n (hr₂ n (hr₁ n rfl))⟩
  unfold migrate
  rw [h₁]
  show (run normaliseUserCredentialsUp d₁ >>= _) = _
  rw [h₂]
  exact h₃

/-! ### The down migration -/

/-- What the down migration is for: it succeeds on `d` with the result `d'`, `users` has the columns
and constraints of the init schema again, and every user has the username and the password hash of
its local credential. -/
structure Undone (d d' : Database) : Prop where
  run : run normaliseUserCredentialsDown d = .ok d'
  users : ∃ t ∈ d'.schema.tables, t.name = "users" ∧ t.columns.Perm initUsers.columns ∧
    t.constraints.Perm initUsers.constraints
  credentials : ∀ u ∈ d.rows "users", ∀ c ∈ d.rows "local_credentials",
    localCredentialsTable.cell "user_id" c = normalisedUsers.cell "id" u →
    ∃ t ∈ d'.schema.tables, t.name = "users" ∧ ∃ u' ∈ d'.rows "users",
      t.cell "id" u' = normalisedUsers.cell "id" u ∧
      t.cell "username" u' = localCredentialsTable.cell "username" c ∧
      t.cell "password_hash" u' = localCredentialsTable.cell "password_hash" c

/-- Down after up restores `d`: both succeed, and the rows of `users` are those of before. -/
def RoundTrip (d : Database) : Prop :=
  ∃ d₁ d₂, run normaliseUserCredentialsUp d = .ok d₁ ∧ run normaliseUserCredentialsDown d₁ = .ok d₂ ∧
    ∃ t ∈ d₂.schema.tables, t.name = "users" ∧
      ∀ vs, vs ∈ (d.rows "users").map (initUsers.project initUsers.columnNames) ↔
        vs ∈ (d₂.rows "users").map (t.project initUsers.columnNames)

/-- The up migration leaves `users_username_key` on `display_name`, so the constraint that the down
migration adds has a name that is taken. -/
theorem runSchema_down_normalised :
    runSchema normaliseUserCredentialsDown normalisedSchema = .error .duplicateRelation := by
  decide +kernel

/-- On the init schema already the first action fails. -/
theorem runSchema_down_init :
    runSchema normaliseUserCredentialsDown initSchema = .error .duplicateColumn := by
  decide +kernel

/-- A database that `normalise_user_credentials` leaves behind for one user. -/
def aliceNormalised : Database where
  schema := normalisedSchema
  rows := fun n =>
    if n = "users" then
      [[.uuid 1, .text "alice@example.com", .text "alice", .enum "user", .bool true, .timestamp 0,
        .timestamp 0]]
    else if n = "local_credentials" then
      [[.uuid 1, .text "alice", .text "$argon2id$alice", .timestamp 0, .timestamp 0]]
    else []

/-- The down migration fails on the well-formed database of one user with a local credential. -/
theorem down_fails_for_alice :
    aliceNormalised.Valid ∧
      (∀ u ∈ aliceNormalised.rows "users", ∃ c ∈ aliceNormalised.rows "local_credentials",
        localCredentialsTable.cell "user_id" c = normalisedUsers.cell "id" u) ∧
      ¬ ∃ d', Undone aliceNormalised d' := by
  refine ⟨by decide +kernel, by decide +kernel, ?_⟩
  rintro ⟨d', h⟩
  exact run_ne_ok runSchema_down_normalised d' h.run

/-- **The down migration undoes nothing**: whatever the rows, it fails under the normalised schema
and under the init schema, so it neither restores credentials nor completes a round trip. -/
theorem down_undoes_nothing (rows : String → List Row) :
    (¬ ∃ d', Undone ⟨normalisedSchema, rows⟩ d') ∧ (¬ ∃ d', Undone ⟨initSchema, rows⟩ d') ∧
      ¬ RoundTrip ⟨initSchema, rows⟩ := by
  refine ⟨?_, ?_, ?_⟩
  · rintro ⟨d', h⟩
    exact run_ne_ok (d := ⟨normalisedSchema, rows⟩) runSchema_down_normalised d' h.run
  · rintro ⟨d', h⟩
    exact run_ne_ok (d := ⟨initSchema, rows⟩) runSchema_down_init d' h.run
  · rintro ⟨d₁, d₂, hup, hdown, -⟩
    have hschema : d₁.schema = normalisedSchema :=
      (Except.ok.inj (runSchema_normaliseUp.symm.trans (run_schema hup))).symm
    refine run_ne_ok (e := .duplicateRelation) ?_ d₂ hdown
    rw [hschema]
    exact runSchema_down_normalised

end Socle
