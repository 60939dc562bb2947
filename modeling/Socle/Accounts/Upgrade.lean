import Socle.Demo

/-!
# Upgrading a populated database

The two migrations that follow `init`, on databases with users.

* `upgrade`: `normalise_user_credentials` and `independent_refresh_token_salts`;
* `upgrade_ok_iff`: it succeeds exactly on databases without refresh tokens;
* `upgrade_localCredentials`: it leaves no local credential;
* `Upgraded`: it succeeds, keeps every credential, and logins are accepted as before;
* `upgraded_iff`: it does so exactly on databases without users.
-/

namespace Socle

open Relational Interaction

/-- The migrations that follow `init`, each in a transaction of its own. -/
def upgrade (d : Database) : Except DdlError Database :=
  run normaliseUserCredentialsUp d >>= run independentRefreshTokenSaltsUp

/-! ### Success -/

/-- Whatever the rows, `normalise_user_credentials` succeeds. -/
theorem normaliseUp_ok {d : Database} (hd : d.schema = initSchema) :
    ∃ d', run normaliseUserCredentialsUp d = .ok d' ∧ d'.schema = normalisedSchema :=
  run_accepting (by decide) (by rw [hd]; exact runSchema_normaliseUp)

theorem normaliseUp_refreshTokens {d d' : Database} (h : run normaliseUserCredentialsUp d = .ok d') :
    d'.rows "refresh_tokens" = d.rows "refresh_tokens" := run_other h (by decide)

/-- The column `lookup_key` can be added to an empty table only. -/
theorem saltsUp_ok_iff {d : Database} (hd : d.schema = normalisedSchema) :
    (∃ d', run independentRefreshTokenSaltsUp d = .ok d') ↔ d.rows "refresh_tokens" = [] := by
  constructor
  · rintro ⟨d', h⟩
    obtain ⟨d₁, he, -⟩ := run_cons_ok h
    obtain ⟨t, -, hdata⟩ := bind_eq_ok (exec_ok he).2
    obtain ⟨rows, hrows, -⟩ := bind_eq_ok hdata
    rw [Alter.dataStep] at hrows
    split at hrows
    · cases hrows
    · next hempty => simpa using hempty
  · intro hempty
    have hchecks : ∀ st ∈ independentRefreshTokenSaltsUp, st.checks = some "refresh_tokens" := by decide
    obtain ⟨d', h, -⟩ := run_empty (d := d)
      (fun st hst n hn => Option.some.inj ((hchecks st hst).symm.trans hn) ▸ hempty)
      (by rw [hd]; exact runSchema_saltsUp)
    exact ⟨d', h⟩

/-- **The upgrade succeeds** exactly if there is no refresh token. -/
theorem upgrade_ok_iff {d : Database} (hd : d.schema = initSchema) :
    (∃ d', upgrade d = .ok d') ↔ d.rows "refresh_tokens" = [] := by
  obtain ⟨d₁, h₁, hs₁⟩ := normaliseUp_ok hd
  rw [upgrade, h₁, ← normaliseUp_refreshTokens h₁]
  exact saltsUp_ok_iff hs₁

/-! ### Credentials -/

/-- The upgrade leaves no local credential. -/
theorem upgrade_localCredentials {d d' : Database} (h : upgrade d = .ok d') :
    d'.rows "local_credentials" = [] := by
  obtain ⟨d₁, h₁, h₂⟩ := bind_eq_ok h
  rw [run_other h₂ (by decide)]
  have hsplit : normaliseUserCredentialsUp =
      ([.createType "oauth_provider" ["google", "github"]] ++
        alterTable "users" [.renameColumn "username" "display_name"] ++
        alterTable "users" [.dropColumn "password_hash"]) ++
      .createTable localCredentialsTable :: [.createTable oauthCredentialsTable] := rfl
  rw [hsplit] at h₁
  exact run_createTable h₁ (by decide)

/-- A content of the tables of the init schema. -/
def initContent (users refreshTokens : List Row) : Database where
  schema := initSchema
  rows n := if n = "users" then users else if n = "refresh_tokens" then refreshTokens else []

/-- The services work on the rows of `d`. -/
structure Loaded (d : Database) (db : Db) : Prop where
  users : d.rows "users" = db.users.rows.map User.row
  localCredentials : d.rows "local_credentials" = db.localCredentials.rows.map LocalCredential.row
  oauthCredentials : d.rows "oauth_credentials" = db.oauthCredentials.rows.map OAuthCredential.row
  refreshTokens : d.rows "refresh_tokens" = db.refreshTokens.rows.map RefreshToken.row

/-- A login with these data can succeed. -/
def Accepts (env : Env) (db : Db) (email password : String) : Prop :=
  ∃ s a s', s.db = db ∧
    (AuthService.login env email password).run.eval (Socle.exec env) s = some (.ok a, s')

/-- What the upgrade is for: it succeeds, every user has a local credential with its username and
password hash, and the active ones log in with the passwords that the hash was made for. -/
structure Upgraded (env : Env) (d d' : Database) : Prop where
  run : upgrade d = .ok d'
  credentials : ∀ u ∈ d.rows "users", ∃ c ∈ d'.rows "local_credentials",
    localCredentialsTable.cell "user_id" c = initUsers.cell "id" u ∧
    localCredentialsTable.cell "username" c = initUsers.cell "username" u ∧
    localCredentialsTable.cell "password_hash" c = initUsers.cell "password_hash" u
  logins : ∀ db, Loaded d' db → ∀ u ∈ d.rows "users", ∀ email hash,
    initUsers.cell "email" u = .text email → initUsers.cell "password_hash" u = .text hash →
    initUsers.cell "is_active" u = .bool true →
    ∀ password, Accepts env db email password ↔ env.prim.argon2Verify password hash = some true

/-- Without users there are no refresh tokens. -/
theorem no_refreshTokens {refreshTokens : List Row} (h : (initContent [] refreshTokens).Valid) :
    refreshTokens = [] := by
  refine List.eq_nil_iff_forall_not_mem.2 fun row hrow => ?_
  have htable : initRefreshTokens ∈ initSchema.tables := by decide
  have hkey : Constraint.foreignKey "refresh_tokens_user_id_fkey" ["user_id"] "users" ["id"] ∈
      initRefreshTokens.constraints := by decide
  rcases h.references _ htable _ hkey row hrow with hnull | ⟨_, _, _, row', hrow', -⟩
  · have hcell := (h.typed _ htable row hrow).ne_null (i := 1) rfl rfl
    exact hcell (List.mem_singleton.1 hnull).symm
  · exact List.not_mem_nil hrow'

/-- **Credentials are kept** exactly if there are none. -/
theorem upgraded_iff (env : Env) (users refreshTokens : List Row)
    (h : (initContent users refreshTokens).Valid) :
    (∃ d', Upgraded env (initContent users refreshTokens) d') ↔ users = [] := by
  constructor
  · rintro ⟨d', hup⟩
    refine List.eq_nil_iff_forall_not_mem.2 fun u hu => ?_
    obtain ⟨c, hc, -⟩ := hup.credentials u hu
    rw [upgrade_localCredentials hup.run] at hc
    exact List.not_mem_nil hc
  · rintro rfl
    obtain ⟨d', hd'⟩ := (upgrade_ok_iff (d := initContent [] refreshTokens) rfl).2 (no_refreshTokens h)
    exact ⟨d', hd', fun u hu => absurd hu List.not_mem_nil, fun _ _ u hu => absurd hu List.not_mem_nil⟩

/-- An installation that nobody has used is upgraded. -/
theorem upgraded_unused : (initContent [] []).Valid ∧ ∃ d', Upgraded demo (initContent [] []) d' :=
  have hvalid : (initContent [] []).Valid := by decide +kernel
  ⟨hvalid, (upgraded_iff demo [] [] hvalid).2 rfl⟩

/-- Alice under the init schema. -/
def aliceInit : Row :=
  [.uuid 1, .text "alice@example.com", .text "alice", .text "$argon2id$alice", .enum "user", .bool true,
    .timestamp 0, .timestamp 0]

/-- The password of a single user is lost, and with a refresh token of hers the upgrade fails. -/
theorem upgrade_loses_alice :
    (initContent [aliceInit] []).Valid ∧ (¬ ∃ d', Upgraded demo (initContent [aliceInit] []) d') ∧
      ∃ token, (initContent [aliceInit] [token]).Valid ∧
        ¬ ∃ d', upgrade (initContent [aliceInit] [token]) = .ok d' := by
  refine ⟨by decide +kernel, ?_, ?_⟩
  · rintro ⟨d', hup⟩
    obtain ⟨c, hc, -⟩ := hup.credentials aliceInit List.mem_cons_self
    rw [upgrade_localCredentials hup.run] at hc
    exact List.not_mem_nil hc
  · refine ⟨[.uuid 2, .uuid 1, .text "$argon2id$token", .timestamp 0, .bool false, .timestamp 0],
      by decide +kernel, ?_⟩
    rw [upgrade_ok_iff rfl]
    exact List.cons_ne_nil _ _

end Socle
