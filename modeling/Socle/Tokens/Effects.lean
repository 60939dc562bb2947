import Socle.Freshness
import Socle.Sequential
import Socle.Tokens.AuthMethod
import Socle.Tokens.Revocation

/-!
# What requests do to refresh tokens

For requests that are served one after the other without infrastructure failures: what their logs look
like, and what the rows of `refresh_tokens` and the active users are afterwards.

* `Executed`: statements without infrastructure failures;
* `Quiet`: logs that neither change refresh tokens nor deactivate users;
* `IsToken`, `creation_row`: the row of a refresh token, and its creation;
* `handle_signIn`, `handle_signOut`, `handle_other`, `handle_refresh`: the logs of all requests.
-/

namespace Socle

open Interaction Prog

variable {env : Env} {s s' : State}

/-- Statements that the infrastructure does not fail. -/
def Executed (env : Env) : Sem Op Ret State := fun o s r s' => exec env o s = some (r, s')

/-- Without infrastructure failures, a run is one of those with them. -/
theorem timed_executed (o : Op) (s : State) (r : Ret o) (s' : State)
    (h : Timed (Executed env) o s r s') : Timed (Stmt env) o s r s' := by
  obtain ⟨t, ht, h⟩ := h
  exact ⟨t, ht, .exec h⟩

/-- A statement that has been executed, or has failed, after some time. -/
theorem timed_stmt {o : Op} {r : Ret o} (h : Timed (Stmt env) o s r s') :
    ∃ t, Stmt env o { s with clock := t } r s' := by
  obtain ⟨t, -, h⟩ := h
  exact ⟨t, h⟩

/-! ### Quiet logs -/

/-- The SQL statements that change `refresh_tokens` or who is active. -/
@[simp] def Sql.touches : Sql → Bool
  | .insertRefreshToken _ _ _ _ _ => true
  | .revokeRefreshToken _ => true
  | .revokeUserRefreshTokens _ => true
  | .deactivateUser _ => true
  | _ => false

/-- Whether a statement has changed `refresh_tokens` or who is active. -/
def touches : (o : Op) × Ret o → Bool
  | ⟨.sql q, .ok _⟩ => q.touches
  | _ => false

/-- Nothing in the log has changed `refresh_tokens` or who is active. -/
def Quiet (log : Log Op Ret) : Prop := ∀ x ∈ log, touches x = false

section Quiet

variable {x : (o : Op) × Ret o} {log log' : Log Op Ret}

@[simp] theorem quiet_nil : Quiet [] := by simp [Quiet]

@[simp] theorem quiet_cons : Quiet (x :: log) ↔ touches x = false ∧ Quiet log := List.forall_mem_cons

@[simp] theorem quiet_append : Quiet (log ++ log') ↔ Quiet log ∧ Quiet log' := List.forall_mem_append

/-- The types of results and errors are not indexed: they may have been computed in the goal. -/
@[simp] theorem touches_error {q : Sql} {e : q.Error} :
    touches ⟨.sql q, @Except.error (no_index q.Error) (no_index q.Result) e⟩ = false := rfl

@[simp] theorem touches_ok {q : Sql} {res : q.Result} :
    touches ⟨.sql q, @Except.ok (no_index q.Error) (no_index q.Result) res⟩ = q.touches := rfl

@[simp] theorem touches_now {t : OffsetDateTime} : touches ⟨.now, t⟩ = false := rfl

@[simp] theorem touches_random {n : ℕ} : touches ⟨.random, n⟩ = false := rfl

@[simp] theorem touches_encode {claims : Claims} {x : Except JwtError String} :
    touches ⟨.encode claims, x⟩ = false := rfl

@[simp] theorem touches_decode {token : String} {x : Except JwtError Claims} :
    touches ⟨.decode token, x⟩ = false := rfl

end Quiet

/-- The users who were active still are. -/
def StayActive (db db' : Db) : Prop :=
  ∀ u ∈ db.users.rows, u.isActive = true → ∃ u' ∈ db'.users.rows, u'.id = u.id ∧ u'.isActive = true

theorem StayActive.trans {db₁ db₂ db₃ : Db} (h : StayActive db₁ db₂) (h' : StayActive db₂ db₃) :
    StayActive db₁ db₃ := by
  intro u hu hactive
  obtain ⟨v, hv, hid, hactive⟩ := h u hu hactive
  obtain ⟨w, hw, hid', hactive⟩ := h' v hv hactive
  exact ⟨w, hw, hid'.trans hid, hactive⟩

theorem StayActive.of_rows {db db' : Db} (h : db'.users.rows = db.users.rows) : StayActive db db' := by
  intro u hu hactive
  rw [← h] at hu
  exact ⟨u, hu, rfl, hactive⟩

/-- A user stays as active as it is, unless the statement deactivates it. -/
theorem Sql.mem_users_active (now : OffsetDateTime) (q : Sql) {us : List User} {u : User} (hu : u ∈ us) :
    (∃ u' ∈ q.users now us, u'.id = u.id ∧ u'.isActive = u.isActive) ∨ q = .deactivateUser u.id := by
  cases q with
  | insertAccount | insertUser => exact Or.inl ⟨u, List.mem_append_left _ hu, rfl, rfl⟩
  | updateRole role id =>
    refine Or.inl ⟨_, List.mem_map_of_mem hu, ?_⟩
    split <;> exact ⟨rfl, rfl⟩
  | deactivateUser id =>
    by_cases hid : u.id = id
    · exact Or.inr (by rw [hid])
    · exact Or.inl ⟨u, List.mem_map.2 ⟨u, hu, if_neg hid⟩, rfl, rfl⟩
  | _ => exact Or.inl ⟨u, hu, rfl, rfl⟩

/-- A quiet statement leaves refresh tokens and active users alone. -/
theorem quiet_stmt {o : Op} {r : Ret o} (h : Stmt env o s r s') (hquiet : touches ⟨o, r⟩ = false) :
    s'.db.refreshTokens.rows = s.db.refreshTokens.rows ∧ StayActive s.db s'.db := by
  have hsame : s'.db = s.db →
      s'.db.refreshTokens.rows = s.db.refreshTokens.rows ∧ StayActive s.db s'.db := by
    intro hdb
    rw [hdb]
    exact ⟨rfl, .of_rows rfl⟩
  cases o with
  | sql q =>
    rcases r with e | res
    · exact hsame (by rw [h.sql_error])
    · obtain ⟨db, hq, rfl⟩ := h.sql_ok
      obtain ⟨hu, -, -, hr⟩ := apply_ok hq
      constructor
      · dsimp only
        rw [hr]
        cases q with
        | insertRefreshToken | revokeRefreshToken | revokeUserRefreshTokens => cases hquiet
        | _ => rfl
      · intro u hmem hactive
        rcases Sql.mem_users_active s.clock q hmem with ⟨u', hu', hid, heq⟩ | rfl
        · rw [← hu] at hu'
          exact ⟨u', hu', hid, heq.trans hactive⟩
        · cases hquiet
  | now => exact hsame (by rw [h.now_eq.2])
  | random => exact hsame (by rw [h.random_eq.2])
  | abort => exact r.elim
  | encode claims => exact hsame (by rw [h.encode_eq.2])
  | decode token => exact hsame (by rw [h.decode_eq.2])

/-- **Quiet logs** leave refresh tokens and active users alone. -/
theorem Quiet.traces {log : Log Op Ret} (hquiet : Quiet log)
    (h : Traces (Timed (Stmt env)) log s s') :
    s'.db.refreshTokens.rows = s.db.refreshTokens.rows ∧ StayActive s.db s'.db := by
  induction log generalizing s' with
  | nil =>
    obtain rfl := h
    exact ⟨rfl, .of_rows rfl⟩
  | cons x log ih =>
    obtain ⟨s₁, h₁, hx⟩ := h
    obtain ⟨hrows, hactive⟩ := ih (fun y hy => hquiet y (List.mem_cons_of_mem _ hy)) h₁
    obtain ⟨t, hstmt⟩ := timed_stmt hx
    obtain ⟨hrows', hactive'⟩ := quiet_stmt hstmt (hquiet x List.mem_cons_self)
    exact ⟨hrows'.trans hrows, hactive.trans hactive'⟩

/-- An active user that has been read in a quiet log is active at its end. -/
theorem Quiet.read {log : Log Op Ret} (hquiet : Quiet log)
    (h : Traces (Timed (Stmt env)) log s s') {x : (o : Op) × Ret o} (hx : x ∈ log) {u : User}
    (hu : returnedUser x = some u) (hactive : x.1.opensAccount = true ∨ u.isActive = true) :
    ∃ u' ∈ s'.db.users.rows, u'.id = u.id ∧ u'.isActive = true := by
  induction log generalizing s' with
  | nil => cases hx
  | cons y log ih =>
    obtain ⟨s₁, h₁, hy⟩ := h
    obtain ⟨t, hstmt⟩ := timed_stmt hy
    rcases List.mem_cons.1 hx with rfl | hx
    · obtain ⟨hmem, hopens⟩ := returnedUser_row hstmt hu
      exact ⟨u, hmem, rfl, hactive.elim hopens id⟩
    · obtain ⟨v, hv, hid, hact⟩ := ih (fun y hy => hquiet y (List.mem_cons_of_mem _ hy)) h₁ hx
      obtain ⟨w, hw, hid', hact'⟩ := (quiet_stmt hstmt (hquiet y List.mem_cons_self)).2 v hv hact
      exact ⟨w, hw, hid'.trans hid, hact'⟩

/-! ### Rows -/

/-- Revoke the rows that meet a condition. -/
def revokeIf (P : RefreshToken → Prop) [DecidablePred P] (r : RefreshToken) : RefreshToken :=
  if P r then { r with revoked := true } else r

/-- A row that is live after a revocation has not been revoked by it. -/
theorem revokeIf_live {P : RefreshToken → Prop} [DecidablePred P] {r : RefreshToken}
    (h : (revokeIf P r).revoked = false) : ¬ P r ∧ revokeIf P r = r := by
  unfold revokeIf at h ⊢
  split
  · next hp =>
    rw [if_pos hp] at h
    cases h
  · next hp => exact ⟨hp, rfl⟩

theorem map_revokeIf_false (rows : List RefreshToken) : rows.map (revokeIf fun _ => False) = rows :=
  List.map_id' rows

/-- The tables other than `refresh_tokens` are the same. -/
def OtherTables (db db' : Db) : Prop :=
  db'.users = db.users ∧ db'.localCredentials = db.localCredentials ∧
    db'.oauthCredentials = db.oauthCredentials

/-- The row that stores the refresh token `t`, issued to `u` at the time `t₀`. -/
structure IsToken (env : Env) (t : String) (u : Uuid) (t₀ : OffsetDateTime) (r : RefreshToken) : Prop where
  lookupKey : r.lookupKey = TokenService.computeLookupKey env t
  userId : r.userId = u
  expiresAt : r.expiresAt = t₀ + TokenService.refreshLifetime env
  verify : env.prim.argon2Verify t r.tokenHash = some true

theorem IsToken.revokeIf {t : String} {u : Uuid} {t₀ : OffsetDateTime} {r : RefreshToken}
    (h : IsToken env t u t₀ r) (P : RefreshToken → Prop) [DecidablePred P] :
    IsToken env t u t₀ (revokeIf P r) := by
  unfold Socle.revokeIf
  split
  · exact ⟨h.lookupKey, h.userId, h.expiresAt, h.verify⟩
  · exact h

section Rows

variable {r : Unit} {id u : Uuid}

theorem revokeUser_stmt (h : Stmt env (.sql (.revokeUserRefreshTokens u)) s (.ok r) s') :
    s'.db.refreshTokens.rows =
      s.db.refreshTokens.rows.map (revokeIf fun r => r.userId = u ∧ r.revoked = false) ∧
    OtherTables s.db s'.db := by
  obtain ⟨db, hq, rfl⟩ := h.sql_ok
  have hrows := (apply_ok hq).2.2.2
  cases hq
  exact ⟨hrows, rfl, rfl, rfl⟩

theorem revokeOne_stmt (h : Stmt env (.sql (.revokeRefreshToken id)) s (.ok r) s') :
    s'.db.refreshTokens.rows = s.db.refreshTokens.rows.map (revokeIf fun r => r.id = id) ∧
      OtherTables s.db s'.db := by
  obtain ⟨db, hq, rfl⟩ := h.sql_ok
  have hrows := (apply_ok hq).2.2.2
  cases hq
  exact ⟨hrows, rfl, rfl, rfl⟩

theorem deactivate_stmt (h : Stmt env (.sql (.deactivateUser u)) s (.ok r) s') :
    s'.db.refreshTokens.rows = s.db.refreshTokens.rows ∧
      ∀ v ∈ s.db.users.rows, v.id ≠ u → v ∈ s'.db.users.rows := by
  obtain ⟨db, hq, rfl⟩ := h.sql_ok
  obtain ⟨husers, -, -, hrows⟩ := apply_ok hq
  refine ⟨hrows, fun v hv hne => ?_⟩
  dsimp only
  rw [husers]
  exact List.mem_map.2 ⟨v, hv, if_neg hne⟩

theorem insert_stmt {hash key : String} {exp : OffsetDateTime}
    (h : Stmt env (.sql (.insertRefreshToken id u hash key exp)) s (.ok r) s') :
    (∃ createdAt, s'.db.refreshTokens.rows =
      s.db.refreshTokens.rows ++ [⟨id, u, hash, key, exp, false, createdAt⟩]) ∧
    (∀ r ∈ s.db.refreshTokens.rows, r.lookupKey ≠ key) ∧ (∃ v ∈ s.db.users.rows, v.id = u) ∧
    OtherTables s.db s'.db := by
  obtain ⟨db, hq, rfl⟩ := h.sql_ok
  obtain ⟨db₁, h₁, hok⟩ := Relational.bind_eq_ok hq
  obtain ⟨hfree, huser, hu, hl, ho, hr⟩ :=
    Db.insertRefreshToken_ok (bindTimestamp_ok.1 (bindTexts_ok.1 h₁).2).2
  cases hok
  refine ⟨⟨_, hr⟩, ?_, huser, hu, hl, ho⟩
  intro r hmem heq
  exact (Relational.Table.refusal_eq_none.1 hfree _
    (List.mem_cons_of_mem _ (List.mem_cons_of_mem _ List.mem_cons_self))).1 r hmem
    ⟨by simp [heq], by simp⟩

end Rows

/-! ### Creation of refresh tokens -/

/-- What `createRefreshToken` reads and computes before it stores a token. -/
structure Draft where
  token : ℕ
  salt : ℕ
  hash : String
  time : OffsetDateTime
  id : ℕ

namespace Draft

/-- The token. -/
def raw (env : Env) (d : Draft) : String := env.prim.opaqueToken d.token

def Valid (env : Env) (d : Draft) : Prop := env.prim.argon2Hash (d.raw env) d.salt = some d.hash

def log (d : Draft) : Log Op Ret :=
  [⟨.random, d.id⟩, ⟨.now, d.time⟩, ⟨.random, d.salt⟩, ⟨.random, d.token⟩]

/-- The statement that stores the token. -/
def sql (env : Env) (d : Draft) (userId : Uuid) : Sql :=
  .insertRefreshToken (env.prim.uuidV7 d.id) userId d.hash
    (TokenService.computeLookupKey env (d.raw env)) (d.time + TokenService.refreshLifetime env)

@[simp] theorem quiet_log (d : Draft) : Quiet d.log := by
  simp [log]

end Draft

/-- `createRefreshToken` in terms of drafts. -/
theorem satE_draft {userId : Uuid} {log : Log Op Ret} {Q : Log Op Ret → String → Prop}
    {E : Log Op Ret → AppError → Prop} :
    SatE (TokenService.createRefreshToken env userId) (fun _ _ => True) Q E log ↔
      ∀ d : Draft, d.Valid env → (d.time + TokenService.refreshLifetime env).InRange →
        (∀ r : Unit, Q (⟨.sql (d.sql env userId), .ok r⟩ :: (d.log ++ log)) (d.raw env)) ∧
          ∀ e, E (⟨.sql (d.sql env userId), .error e⟩ :: (d.log ++ log)) (.database e) := by
  simp only [TokenService.satE_createRefreshToken, true_and, implies_true, and_true]
  constructor
  · intro h d hd hrange
    exact h d.token d.salt d.hash hd d.time hrange d.id
  · intro h n salt hash hhash t hrange k
    exact h ⟨n, salt, hash, t, k⟩ hhash hrange

/-! ### Logs of requests -/

/-- A request that signs in has succeeded: it has read or inserted an active user, and then stored a
token for it. -/
def SignInLog (env : Env) (log : Log Op Ret) (a : Response) : Prop :=
  ∃ (b : AuthResponse) (d : Draft) (r : Unit) (user : User) (x : (o : Op) × Ret o) (l : Log Op Ret),
    a = .auth b ∧ b.refreshToken = d.raw env ∧ b.user.id = user.id ∧ d.Valid env ∧
    log = ⟨.sql (d.sql env user.id), .ok r⟩ :: (d.log ++ l) ∧ Quiet l ∧
    x ∈ l ∧ returnedUser x = some user ∧ (x.1.opensAccount = true ∨ user.isActive = true)

theorem SignInLog.of_read {d : Draft} {r : Unit} {user : User} {l : Log Op Ret} {b : AuthResponse}
    (hd : d.Valid env) (hquiet : Quiet l) (hraw : b.refreshToken = d.raw env) (hid : b.user.id = user.id)
    (hread : ∃ x ∈ l, returnedUser x = some user ∧ (x.1.opensAccount = true ∨ user.isActive = true)) :
    SignInLog env (⟨.sql (d.sql env user.id), .ok r⟩ :: (d.log ++ l)) (.auth b) := by
  obtain ⟨x, hx, hu, hactive⟩ := hread
  exact ⟨b, d, r, user, x, l, rfl, hraw, hid, hd, rfl, hquiet, hx, hu, hactive⟩

/-- A statement of the log has returned the user. -/
def Returned (log : Log Op Ret) (u : User) : Prop := ∃ x ∈ log, returnedUser x = some u

/-- Resolving a profile reads or inserts the user that it returns. -/
theorem resolveOAuth_quiet {profile : OAuthProfile} :
    SatE (AuthService.resolveOAuth env profile) (fun _ _ => True)
      (fun log user => Quiet log ∧ Returned log user) (fun log _ => Quiet log) [] := by
  simp
  refine ⟨⟨fun n user m _ => ?_, fun user m _ => ?_⟩, fun user => ?_⟩ <;> simp [Returned, returnedUser]

/-- The log of a request that signs in. -/
theorem handle_signIn (q : Request) (hq : q.method.isSome = true) :
    SatE (handle env q) (fun _ _ => True) (fun log a => SignInLog env log a) (fun log _ => Quiet log)
      [] := by
  cases q with
  | register email username password =>
    simp [handle, Routes.register, AuthService.register, -TokenService.satE_createRefreshToken,
      satE_draft]
    intro _ _ _ salt hash _ n user credential t _ token d hd _ _
    exact .of_read hd (by simp) rfl rfl
      ⟨_, List.mem_cons_of_mem _ (List.mem_cons_of_mem _ List.mem_cons_self), rfl, Or.inl rfl⟩
  | login email password =>
    simp [handle, Routes.login, AuthService.login, -TokenService.satE_createRefreshToken,
      satE_draft]
    intro user hactive credential _ t _ token d hd _ _
    exact .of_read hd (by simp) rfl rfl (by simp [returnedUser, hactive])
  | oauthLogin profile =>
    simp only [handle, Routes.oauthLogin, AuthService.loginOrRegisterOAuth, satE_map, satE_bind]
    refine SatE.mono (fun _ _ h => h) ?_ (fun _ _ h => h) resolveOAuth_quiet
    rintro l user ⟨hquiet, x, hx, hread⟩
    simp [-TokenService.satE_createRefreshToken, satE_draft, hquiet]
    intro hactive
    have hsign : ∀ l' : Log Op Ret, ∃ y ∈ l' ++ l, returnedUser y = some user ∧
        (y.1.opensAccount = true ∨ user.isActive = true) :=
      fun _ => ⟨x, List.mem_append_right _ hx, hread, Or.inr hactive⟩
    exact ⟨fun t _ token d hd _ _ => .of_read hd (by simp [hquiet]) rfl rfl (hsign [_, _, _]),
      fun credential t _ token d hd _ _ =>
        .of_read hd (by simp [hquiet]) rfl rfl (hsign [_, _, _])⟩
  | _ => cases hq

/-- What a request that signs out answers, and how it can fail; `handle_revokes` has its log. -/
theorem handle_signOut (q : Request) (hq : q.revokes = true) :
    SatE (handle env q) (fun _ _ => True) (fun _ a => ∀ b, a ≠ .auth b)
      (fun log _ => Quiet log ∨ ∃ u e l, log = ⟨.sql (.revokeUserRefreshTokens u), .error e⟩ :: l) [] := by
  cases q with
  | logout | changePassword | deactivateAccount =>
    simp [handle, Routes.logout, Routes.changePassword, Routes.deactivateAccount, AuthService.logout]
  | _ => cases hq

/-- The log of a request that neither signs in nor out. -/
theorem handle_other (q : Request) (hmethod : q.method = none) (hrevokes : q.revokes = false)
    (hrefresh : ∀ t, q ≠ .refresh t) :
    SatE (handle env q) (fun _ _ => True) (fun log a => Quiet log ∧ ∀ b, a ≠ .auth b)
      (fun log _ => Quiet log) [] := by
  cases q with
  | refresh t => exact absurd rfl (hrefresh t)
  | register | login | oauthLogin => cases hmethod
  | logout | changePassword | deactivateAccount => cases hrevokes
  | listConnections | unlinkConnection | getMe | updateUserRole =>
    simp [handle, Routes.listConnections, Routes.unlinkConnection, Routes.getMe, Routes.updateUserRole,
      AdminService.updateUserRole]

/-- A statement that cannot fail has failed. -/
inductive Refused : (o : Op) × Ret o → Prop
  | sql {q : Sql} {e : q.Error} (hq : ∀ prim now db, ∃ x, q.apply prim now db = .ok x) :
      Refused ⟨.sql q, .error e⟩
  | encode {claims : Claims} {e : JwtError} : Refused ⟨.encode claims, .error e⟩

theorem Refused.not_timed {o : Op} {r : Ret o} (h : Refused ⟨o, r⟩) :
    ¬ Timed (Executed env) o s r s' := by
  rintro ⟨t, -, hexec⟩
  cases h with
  | sql hq =>
    obtain ⟨x, hx⟩ := hq env.prim t s.db
    simp [Executed, Socle.exec, hx] at hexec
  | encode =>
    cases hexec

/-- The lookup of the refresh token `t`. -/
def lookup (env : Env) (t : String) (res : Option RefreshTokenRow) : (o : Op) × Ret o :=
  ⟨.sql (.selectRefreshToken (TokenService.computeLookupKey env t)), .ok res⟩

/-- A refresh of `t` has looked the token up, checked and revoked it. -/
def rotationLog (env : Env) (t : String) (record : RefreshTokenRow) (now : OffsetDateTime) (r : Unit) :
    Log Op Ret :=
  [⟨.sql (.revokeRefreshToken record.id), .ok r⟩, ⟨.now, now⟩, lookup env t (some record)]

/-- The log and the outcome of a refresh of `t`. -/
inductive RefreshLog (env : Env) (t : String) : Log Op Ret → Except AppError Response → Prop
  | unknown : RefreshLog env t [lookup env t none] (.error .refreshTokenInvalid)
  | revoked {record : RefreshTokenRow} {r : Unit} (hrev : record.revoked = true) :
      RefreshLog env t
        [⟨.sql (.revokeUserRefreshTokens record.userId), .ok r⟩, lookup env t (some record)]
        (.error .refreshTokenInvalid)
  | expired {record : RefreshTokenRow} {now : OffsetDateTime} {r : Unit} (hrev : record.revoked = false)
      (hnow : record.expiresAt < now) :
      RefreshLog env t
        [⟨.sql (.revokeUserRefreshTokens record.userId), .ok r⟩, ⟨.now, now⟩, lookup env t (some record)]
        (.error .refreshTokenInvalid)
  | rotated {record : RefreshTokenRow} {now now' : OffsetDateTime} {r r' : Unit} {d : Draft} {user : User}
      {credential : Option LocalCredential} {claims : Claims} {token : String} {b : AuthResponse}
      (hrev : record.revoked = false) (hnow : now ≤ record.expiresAt) (hd : d.Valid env)
      (hraw : b.refreshToken = d.raw env) (hid : b.user.id = user.id) :
      RefreshLog env t
        (⟨.encode claims, .ok token⟩ :: ⟨.now, now'⟩ ::
          ⟨.sql (.selectLocalCredential user.id), .ok credential⟩ ::
          ⟨.sql (.selectUserById record.userId), .ok (some user)⟩ ::
          ⟨.sql (d.sql env record.userId), .ok r'⟩ :: (d.log ++ rotationLog env t record now r))
        (.ok (.auth b))
  /-- The stored hash is not that of the token. -/
  | mismatch {record : RefreshTokenRow} {now : OffsetDateTime} {x : Except AppError Response}
      (hverify : env.prim.argon2Verify t record.tokenHash ≠ some true) :
      RefreshLog env t [⟨.now, now⟩, lookup env t (some record)] x
  | refused {y : (o : Op) × Ret o} {l : Log Op Ret} {x : Except AppError Response} (hy : Refused y) :
      RefreshLog env t (y :: l) x
  /-- The new token is not stored. -/
  | unstored {record : RefreshTokenRow} {now : OffsetDateTime} {r : Unit} {d : Draft} {e : SqlxError}
      {x : Except AppError Response} (hd : d.Valid env) :
      RefreshLog env t
        (⟨.sql (d.sql env record.userId), .error e⟩ :: (d.log ++ rotationLog env t record now r)) x
  /-- The user is missing or inactive. -/
  | unserved {record : RefreshTokenRow} {now : OffsetDateTime} {r r' : Unit} {d : Draft}
      {found : Option User} {x : Except AppError Response} (hrev : record.revoked = false)
      (hd : d.Valid env) (hfound : ∀ user, found = some user → user.isActive = false) :
      RefreshLog env t
        (⟨.sql (.selectUserById record.userId), .ok found⟩ ::
          ⟨.sql (d.sql env record.userId), .ok r'⟩ :: (d.log ++ rotationLog env t record now r)) x

/-- The statements of a refresh that cannot fail. -/
theorem Refused.of_select (hx : env.prim.Exact) {t : String} {e : SqlxError} :
    Refused ⟨.sql (.selectRefreshToken (TokenService.computeLookupKey env t)), .error e⟩ :=
  .sql fun prim now db => ⟨_, bindTexts_ok.2 ⟨by simp [TokenService.computeLookupKey, hx.hmac_noNul], rfl⟩⟩

theorem Refused.of_revokeUser {u : Uuid} {e : SqlxError} :
    Refused ⟨.sql (.revokeUserRefreshTokens u), .error e⟩ := .sql fun _ _ _ => ⟨_, rfl⟩

/-- The log of a rotation. -/
theorem rotateRefreshToken_log (hx : env.prim.Exact) (t : String) :
    SatE (TokenService.rotateRefreshToken env t) (fun _ _ => True)
      (fun l x => ∃ (record : RefreshTokenRow) (now : OffsetDateTime) (r r' : Unit) (d : Draft),
        record.revoked = false ∧ now ≤ record.expiresAt ∧ d.Valid env ∧
        x = (d.raw env, record.userId) ∧
        l = ⟨.sql (d.sql env record.userId), .ok r'⟩ :: (d.log ++ rotationLog env t record now r))
      (fun l e => RefreshLog env t l (.error e)) [] := by
  simp [-TokenService.satE_createRefreshToken, satE_draft]
  refine ⟨.unknown, fun record => ⟨fun hrev => ⟨fun r => .revoked hrev, fun e => .refused .of_revokeUser⟩,
    fun hrev now => ⟨fun hnow => ⟨fun r => .expired hrev hnow, fun e => .refused .of_revokeUser⟩,
      fun hnow => ⟨fun hverify => ⟨fun r d hd _ => ⟨fun r' => ?_, fun e => .unstored hd⟩, fun e => ?_⟩,
        fun hverify => .mismatch hverify⟩⟩⟩, fun e => .refused (.of_select hx)⟩
  · exact ⟨record, hrev, now, hnow, r, r', d, hd, ⟨rfl, rfl⟩, ⟨rfl, HEq.rfl⟩, rfl⟩
  · exact .refused (.sql fun _ _ _ => ⟨_, rfl⟩)

/-- **The log of a refresh.** -/
theorem handle_refresh (hx : env.prim.Exact) (t : String) :
    SatE (handle env (.refresh t)) (fun _ _ => True) (fun log a => RefreshLog env t log (.ok a))
      (fun log e => RefreshLog env t log (.error e)) [] := by
  simp only [handle, Routes.refresh, AuthService.refresh, satE_map, satE_bind]
  refine SatE.mono (fun _ _ h => h) ?_ (fun _ _ h => h) (rotateRefreshToken_log hx t)
  rintro l x ⟨record, now, r, r', d, hrev, hnow, hd, rfl, rfl⟩
  simp
  refine ⟨.unserved hrev hd (by simp), fun user => ⟨fun _ => ⟨?_, ?_, fun e => ?_⟩, fun hactive => ?_⟩,
    fun e => ?_⟩
  · exact fun _ _ => ⟨fun token => .rotated hrev hnow hd rfl rfl, fun e => .refused .encode⟩
  · exact fun _ _ _ => ⟨fun token => .rotated hrev hnow hd rfl rfl, fun e => .refused .encode⟩
  · exact .refused (.sql fun _ _ _ => ⟨_, rfl⟩)
  · exact .unserved hrev hd (by simp [hactive])
  · exact .refused (.sql fun _ _ _ => ⟨_, rfl⟩)

/-! ### Reads -/

/-- The statements that leave the database as it is. -/
def Op.reads : Op → Bool
  | .sql (.selectUserById _) => true
  | .sql (.selectLocalCredential _) => true
  | .sql (.selectRefreshToken _) => true
  | .sql _ => false
  | _ => true

theorem reads_db {o : Op} {r : Ret o} (h : Timed (Stmt env) o s r s') (ho : o.reads = true) :
    s'.db = s.db := by
  obtain ⟨t, hstmt⟩ := timed_stmt h
  rcases hstmt.db_cases with hdb | ⟨q, res, rfl, hq⟩
  · exact hdb
  · cases q with
    | selectUserById | selectLocalCredential => exact (Prod.mk.inj (Except.ok.inj hq)).2.symm
    | selectRefreshToken =>
      exact (Prod.mk.inj (Except.ok.inj (bindTexts_ok.1 hq).2)).2.symm
    | _ => cases ho

theorem reads_traces {log : Log Op Ret} (hreads : ∀ x ∈ log, x.1.reads = true)
    (h : Traces (Timed (Stmt env)) log s s') : s'.db = s.db := by
  induction log generalizing s' with
  | nil => rw [h]
  | cons x log ih =>
    obtain ⟨s₁, h₁, hx⟩ := h
    rw [reads_db hx (hreads x List.mem_cons_self)]
    exact ih (fun y hy => hreads y (List.mem_cons_of_mem _ hy)) h₁

theorem timed_random {n : ℕ} (h : Timed (Stmt env) .random s n s') :
    n = s.draws ∧ s'.draws = s.draws + 1 := by
  obtain ⟨t, hstmt⟩ := timed_stmt h
  obtain ⟨hn, rfl⟩ := hstmt.random_eq
  exact ⟨hn, rfl⟩

theorem timed_now {t : OffsetDateTime} (h : Timed (Stmt env) .now s t s') :
    0 ≤ t ∧ s'.draws = s.draws := by
  obtain ⟨τ, hstmt⟩ := timed_stmt h
  obtain ⟨rfl, rfl⟩ := hstmt.now_eq
  exact ⟨Int.natCast_nonneg _, rfl⟩

/-- Drafting a token changes nothing in the database, and draws new numbers. -/
theorem Draft.log_traces {d : Draft} (h : Traces (Timed (Stmt env)) d.log s s') :
    s'.db = s.db ∧ s.draws ≤ d.token ∧ s.draws ≤ d.id ∧ 0 ≤ d.time := by
  refine ⟨reads_traces (by simp [Draft.log, Op.reads]) h, ?_⟩
  obtain ⟨s₄, ⟨s₃, ⟨s₂, ⟨s₁, rfl, h₁⟩, h₂⟩, h₃⟩, h₄⟩ := h
  obtain ⟨htoken, hdraws₁⟩ := timed_random h₁
  obtain ⟨-, hdraws₂⟩ := timed_random h₂
  obtain ⟨htime, hdraws₃⟩ := timed_now h₃
  obtain ⟨hid, -⟩ := timed_random h₄
  exact ⟨htoken.ge, by dsimp only at hid; omega, htime⟩

/-! ### Stored tokens -/

/-- **A new row.**  What storing a drafted token does. -/
theorem Draft.stored {d : Draft} (hx : env.prim.Exact) (hd : d.Valid env) {u : Uuid} {r : Unit}
    (h : Traces (Timed (Stmt env)) (⟨.sql (d.sql env u), .ok r⟩ :: d.log) s s') :
    ∃ row, IsToken env (d.raw env) u d.time row ∧ row.revoked = false ∧
      s'.db.refreshTokens.rows = s.db.refreshTokens.rows ++ [row] ∧
      (∀ r ∈ s.db.refreshTokens.rows, r.lookupKey ≠ row.lookupKey) ∧
      (∃ v ∈ s.db.users.rows, v.id = u) ∧ OtherTables s.db s'.db := by
  obtain ⟨s₁, hlog, hinsert⟩ := h
  obtain ⟨t, hstmt⟩ := timed_stmt hinsert
  obtain ⟨⟨createdAt, hrows⟩, hkey, huser, hothers⟩ := insert_stmt hstmt
  have hdb := (Draft.log_traces hlog).1
  simp only [hdb] at hrows hkey huser hothers
  exact ⟨_, ⟨rfl, rfl, rfl, by rw [hx.verify_hash _ _ _ _ hd]; simp⟩, rfl, hrows, hkey, huser, hothers⟩

/-- Where what is stored has been drawn, a drafted token has marks of its own. -/
theorem Draft.fresh {d : Draft} (hx : env.prim.Exact) (hd : d.Valid env) (hdrawn : Drawn env s)
    (htoken : s.draws ≤ d.token) (hid : s.draws ≤ d.id) :
    ∀ b ∈ s.db.refreshTokens.rows, b.id ≠ env.prim.uuidV7 d.id ∧ b.tokenHash ≠ d.hash ∧
      b.lookupKey ≠ TokenService.computeLookupKey env (d.raw env) := by
  intro b hb
  obtain ⟨⟨n, hn, hbid⟩, m, hm, hbkey, salt, hbhash⟩ := hdrawn.refreshTokens b hb
  have hraw : env.prim.opaqueToken m ≠ d.raw env := by
    intro heq
    have := hx.token_injective heq
    omega
  refine ⟨fun heq => ?_, fun heq => ?_, fun heq => ?_⟩
  · have := hx.uuid_injective (hbid.symm.trans heq)
    omega
  · -- Two tokens have no hash in common, since each is verified by its own token only.
    have hverify := hx.verify_hash _ (d.raw env) _ _ hbhash
    rw [heq, hx.verify_hash _ _ _ _ hd] at hverify
    exact hraw (by simpa using hverify : d.raw env = env.prim.opaqueToken m).symm
  · exact hraw (hx.hmac_injective _ (hbkey.symm.trans heq))

/-- A drafted token of a user can be stored. -/
theorem Draft.apply_sql {d : Draft} (hx : env.prim.Exact) (hd : d.Valid env) {u : Uuid}
    (hlife : 0 ≤ TokenService.refreshLifetime env) (hdrawn : Drawn env s)
    (huser : ∃ v ∈ s.db.users.rows, v.id = u) (htoken : s.draws ≤ d.token) (hid : s.draws ≤ d.id)
    (htime : 0 ≤ d.time) (now : OffsetDateTime) :
    ∃ db, (d.sql env u).apply env.prim now s.db = .ok ((), db) := by
  let row : RefreshToken := ⟨env.prim.uuidV7 d.id, u, d.hash,
    TokenService.computeLookupKey env (d.raw env), d.time + TokenService.refreshLifetime env, false, now⟩
  obtain ⟨db, hinsert⟩ :=
    hx.insertRefreshToken row hd rfl (Draft.fresh hx hd hdrawn htoken hid) huser
  obtain ⟨hash, hhash, hnul⟩ := hx.hash_total (d.raw env) d.salt
  rw [hd] at hhash
  cases hhash
  have hbind : bindTexts [d.hash, row.lookupKey]
      (bindTimestamp row.expiresAt (s.db.insertRefreshToken env.prim.indexRowSize row)) = .ok db := by
    refine bindTexts_ok.2 ⟨?_, bindTimestamp_ok.2 ⟨?_, hinsert⟩⟩
    · simp [row, TokenService.computeLookupKey, hnul, hx.hmac_noNul]
    · show minTimestamp ≤ d.time + TokenService.refreshLifetime env
      have hmin : minTimestamp ≤ 0 := by decide
      exact Int.le_trans hmin (Int.add_nonneg htime hlife)
  refine ⟨db, ?_⟩
  show (bindTexts [d.hash, row.lookupKey] (bindTimestamp row.expiresAt
    (s.db.insertRefreshToken env.prim.indexRowSize row)) >>= fun db => .ok ((), db)) = _
  rw [hbind]
  rfl

theorem Draft.not_unstored {d : Draft} (hx : env.prim.Exact) (hd : d.Valid env) {u : Uuid} {e : SqlxError}
    (hlife : 0 ≤ TokenService.refreshLifetime env) (hdrawn : Drawn env s)
    (huser : ∃ v ∈ s.db.users.rows, v.id = u) :
    ¬ Traces (Timed (Executed env)) (⟨.sql (d.sql env u), .error e⟩ :: d.log) s s' := by
  rintro ⟨s₁, hlog, t, -, hexec⟩
  obtain ⟨hdb, htoken, hid, htime⟩ := Draft.log_traces (hlog.mono timed_executed)
  obtain ⟨db, happly⟩ := Draft.apply_sql hx hd hlife hdrawn huser htoken hid htime t
  rw [← hdb] at happly
  simp [Executed, Socle.exec, happly] at hexec

/-! ### Rotations -/

theorem OtherTables.trans {db₁ db₂ db₃ : Db} (h : OtherTables db₁ db₂) (h' : OtherTables db₂ db₃) :
    OtherTables db₁ db₃ :=
  ⟨h'.1.trans h.1, h'.2.1.trans h.2.1, h'.2.2.trans h.2.2⟩

/-- Revocations leave what has been drawn. -/
theorem Drawn.revoked (hs : Drawn env s) (P : RefreshToken → Prop) [DecidablePred P]
    (hrows : s'.db.refreshTokens.rows = s.db.refreshTokens.rows.map (revokeIf P))
    (husers : s'.db.users = s.db.users) (hdraws : s.draws ≤ s'.draws) : Drawn env s' where
  users := by
    intro u hu
    rw [husers] at hu
    obtain ⟨n, hn, hid⟩ := hs.users u hu
    exact ⟨n, Nat.lt_of_lt_of_le hn hdraws, hid⟩
  refreshTokens := by
    intro r hr
    rw [hrows] at hr
    obtain ⟨r₀, hr₀, rfl⟩ := List.mem_map.1 hr
    obtain ⟨⟨n, hn, hid⟩, m, hm, hkey⟩ := hs.refreshTokens r₀ hr₀
    unfold revokeIf
    split
    · exact ⟨⟨n, Nat.lt_of_lt_of_le hn hdraws, hid⟩, m, Nat.lt_of_lt_of_le hm hdraws, hkey⟩
    · exact ⟨⟨n, Nat.lt_of_lt_of_le hn hdraws, hid⟩, m, Nat.lt_of_lt_of_le hm hdraws, hkey⟩

/-- A lookup that finds a token. -/
theorem lookup_traces {t : String} {record : RefreshTokenRow}
    (h : Traces (Timed (Stmt env)) [lookup env t (some record)] s s') :
    s'.db = s.db ∧ s'.draws = s.draws ∧ ∃ row ∈ s.db.refreshTokens.rows,
      row.lookupKey = TokenService.computeLookupKey env t ∧ row.record = record := by
  obtain ⟨_, rfl, h⟩ := h
  obtain ⟨τ, hstmt⟩ := timed_stmt h
  obtain ⟨rfl, hrow⟩ := selectRefreshToken_row hstmt
  exact ⟨rfl, rfl, hrow⟩

/-- A lookup that finds none. -/
theorem lookup_none {t : String} (h : Traces (Timed (Stmt env)) [lookup env t none] s s') :
    s'.db = s.db ∧ ∀ row ∈ s.db.refreshTokens.rows,
      row.lookupKey ≠ TokenService.computeLookupKey env t := by
  obtain ⟨_, rfl, h⟩ := h
  obtain ⟨τ, hstmt⟩ := timed_stmt h
  obtain ⟨db, hq, rfl⟩ := hstmt.sql_ok
  obtain ⟨hrec, hdb⟩ := Prod.mk.inj (Except.ok.inj (bindTexts_ok.1 hq).2)
  refine ⟨hdb.symm, fun row hrow => ?_⟩
  simpa using List.find?_eq_none.1 (Option.map_eq_none_iff.1 hrec) row hrow

/-- A rotation revokes the row that it has looked up. -/
theorem rotation_traces {t : String} {record : RefreshTokenRow} {now : OffsetDateTime} {r : Unit}
    (h : Traces (Timed (Stmt env)) (rotationLog env t record now r) s s') :
    ∃ row ∈ s.db.refreshTokens.rows, row.lookupKey = TokenService.computeLookupKey env t ∧
      row.record = record ∧
      s'.db.refreshTokens.rows = s.db.refreshTokens.rows.map (revokeIf fun r => r.id = row.id) ∧
      OtherTables s.db s'.db ∧ s.draws ≤ s'.draws := by
  obtain ⟨s₂, ⟨s₁, h₁, h₂⟩, h₃⟩ := h
  obtain ⟨hdb₁, hdraws₁, row, hrow, hkey, rfl⟩ := lookup_traces h₁
  have hdb₂ : s₂.db = s.db := (reads_db h₂ rfl).trans hdb₁
  obtain ⟨-, hdraws₂⟩ := timed_now h₂
  obtain ⟨τ, hstmt⟩ := timed_stmt h₃
  obtain ⟨hrows, hothers⟩ := revokeOne_stmt hstmt
  have hdraws := hstmt.le.draws
  simp only [hdb₂] at hrows hothers
  refine ⟨row, hrow, hkey, rfl, hrows, hothers, ?_⟩
  dsimp only at hdraws
  omega

/-- **Rotation.**  What a successful refresh does to the database. -/
theorem rotated_traces (hx : env.prim.Exact) {t : String} {record : RefreshTokenRow}
    {now : OffsetDateTime} {r r' : Unit} {d : Draft} (hd : d.Valid env)
    (h : Traces (Timed (Stmt env))
      (⟨.sql (d.sql env record.userId), .ok r'⟩ :: (d.log ++ rotationLog env t record now r)) s s') :
    ∃ row ∈ s.db.refreshTokens.rows, row.lookupKey = TokenService.computeLookupKey env t ∧
      row.record = record ∧ ∃ new, IsToken env (d.raw env) record.userId d.time new ∧
      new.revoked = false ∧
      s'.db.refreshTokens.rows =
        s.db.refreshTokens.rows.map (revokeIf fun r => r.id = row.id) ++ [new] ∧
      (∀ r ∈ s.db.refreshTokens.rows, r.lookupKey ≠ new.lookupKey) ∧ OtherTables s.db s'.db := by
  rw [← List.cons_append] at h
  obtain ⟨s₁, hrotation, hcreation⟩ := traces_append.1 h
  obtain ⟨row, hrow, hkey, hrecord, hrows₁, hothers₁, -⟩ := rotation_traces hrotation
  obtain ⟨new, hnew, hlive, hrows₂, hfresh, -, hothers₂⟩ := Draft.stored hx hd hcreation
  refine ⟨row, hrow, hkey, hrecord, new, hnew, hlive, by rw [hrows₂, hrows₁], ?_,
    hothers₁.trans hothers₂⟩
  intro r hr
  have hr' := hfresh (revokeIf (fun r => r.id = row.id) r) (by rw [hrows₁]; exact List.mem_map_of_mem hr)
  unfold revokeIf at hr'
  split at hr'
  · exact hr'
  · exact hr'

end Socle
