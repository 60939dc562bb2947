import Socle.Access.Reasons
import Socle.Accounts.FirstLogin
import Socle.Web.Errors

/-!
# Errors are true

However requests interleave and whichever statements fail, an error that a client sees states a fact.

* `Op.From`, `handle_from`: where the parameters of statements come from;
* `Sql.reason`: what the database refuses by itself, it refuses for a reason;
* `regular_of_occurs`: what is known of the states of a run;
* `Disturbed`, `TrueErrors`: every error is due to a failing statement, to the request itself, or to a
  reason that there was before the request wrote anything;
* `errors_are_true`: **the errors of every run are true**.
-/

namespace Socle

open Interaction Prog System

variable {env : Env} {s s' : State} {q : Request} {log : Log Op Ret}

/-! ### Parameters -/

/-- The user to whom an answer belongs: it is read, or the owner of a refresh token that is found. -/
def metUser : (o : Op) × Ret o → Option Uuid
  | ⟨.sql (.selectRefreshToken _), .ok (some record)⟩ => some record.userId
  | x => (returnedUser x).map (·.id)

/-- The user has been met in the log. -/
def Met (log : Log Op Ret) (userId : Uuid) : Prop := ∃ x ∈ log, metUser x = some userId

theorem Met.mono {l : Log Op Ret} {userId : Uuid} (h : Met l userId) (hl : l <:+ log) : Met log userId := by
  obtain ⟨x, hx, hu⟩ := h
  exact ⟨x, hl.subset hx, hu⟩

/-- Where the parameters of a statement come from. -/
def Op.From (env : Env) (q : Request) (log : Log Op Ret) : Op → Prop
  | .sql (.selectUserByEmail email) => email ∈ q.texts
  | .sql (.selectUserByOAuthIdentity _ puid) => puid ∈ q.texts
  | .sql (.selectRefreshToken key) => ∃ t, key = TokenService.computeLookupKey env t
  | .sql (.insertAccount _ email name username hash) => ∃ password salt,
    q = .register email username password ∧ name = localPart email ∧
      env.prim.argon2Hash password salt = some hash ∧ ¬ Wrote log
  | .sql (.insertUser _ email name) => ∃ profile, q = .oauthLogin profile ∧ email = profile.email ∧
    name = profile.displayName.getD (localPart profile.email) ∧ ¬ Wrote log
  | .sql (.updatePasswordHash hash _) => ∃ password salt, env.prim.argon2Hash password salt = some hash
  | .sql (.insertOAuthCredential _ userId provider puid avatarUrl) =>
    (∀ text ∈ puid :: avatarUrl.toList, text ∈ q.texts) ∧
      (oauthIdentityKey.name, [.enum provider.label, .text puid]) ∈ q.indexed ∧ Met log userId
  | .sql (.insertRefreshToken _ userId hash key expiresAt) => q.signsIn = true ∧ Met log userId ∧
    (∃ t salt, key = TokenService.computeLookupKey env t ∧ env.prim.argon2Hash t salt = some hash) ∧
    ∃ t : OffsetDateTime, ⟨.now, t⟩ ∈ log ∧ expiresAt = t + TokenService.refreshLifetime env
  | _ => True

theorem createRefreshToken_from {userId : Uuid} (hq : q.signsIn = true) (h : Met log userId) :
    SatE (TokenService.createRefreshToken env userId) (fun log o => o.From env q log)
      (fun _ _ => True) (fun _ _ => True) log := by
  simp only [TokenService.satE_createRefreshToken, Op.From, implies_true, true_and, and_true]
  refine fun n salt hash hhash t _ k => ⟨hq, h.mono ?_, ⟨_, salt, rfl, hhash⟩, t, by simp, rfl⟩
  exact ⟨[_, _, _, _], rfl⟩

theorem issueTokens_from {u : User} {m : AuthMethod} {view : UserView} (hq : q.signsIn = true)
    (h : Met log u.id) :
    SatE (AuthService.issueTokens env u m view) (fun log o => o.From env q log) (fun _ _ => True)
      (fun _ _ => True) log := by
  simp only [AuthService.satE_issueTokens, TokenService.satE_generateAccessToken, Op.From, implies_true,
    true_and, and_true]
  exact fun t _ token => createRefreshToken_from hq (h.mono ⟨[_, _], rfl⟩)

theorem resolveOAuth_from (profile : OAuthProfile) :
    SatE (AuthService.resolveOAuth env profile) (fun log o => o.From env (.oauthLogin profile) log)
      (fun l u => Met l u.id) (fun _ _ => True) [] := by
  have htexts : ∀ text ∈ profile.providerUserId :: profile.avatarUrl.toList,
      text ∈ (Request.oauthLogin profile).texts := by
    simp [Request.texts]
    exact fun text h => Or.inr (Or.inr (Or.inr h))
  have hindexed : (oauthIdentityKey.name, [.enum (Provider.from profile.provider).label,
      .text profile.providerUserId]) ∈ (Request.oauthLogin profile).indexed := by
    simp [Request.indexed]
  simp only [AuthService.satE_resolveOAuth, UserService.satE_findByOAuthIdentity,
    UserService.satE_findByEmail, UserService.satE_linkOAuthAccount, UserService.satE_createFromOAuth,
    Op.From.eq_1, Op.From.eq_2, Op.From.eq_5, Op.From.eq_7, Op.From.eq_9, implies_true, true_and, and_true,
    reduceCtorEq, false_implies, Option.some.injEq, forall_eq', forall_const]
  refine ⟨htexts _ List.mem_cons_self, ⟨by simp [Request.texts],
    fun n => ⟨⟨profile, rfl, rfl, rfl, by simp⟩, fun u n' => ⟨⟨htexts, hindexed, ?_⟩, fun _ => ?_⟩⟩,
    fun u n => ⟨⟨htexts, hindexed, ?_⟩, fun _ => ?_⟩⟩, fun u => ?_⟩
  · exact ⟨_, List.mem_cons_of_mem _ List.mem_cons_self, rfl⟩
  · exact ⟨_, List.mem_cons_of_mem _ (List.mem_cons_of_mem _ List.mem_cons_self), rfl⟩
  · exact ⟨_, List.mem_cons_of_mem _ List.mem_cons_self, rfl⟩
  · exact ⟨_, List.mem_cons_of_mem _ (List.mem_cons_of_mem _ List.mem_cons_self), rfl⟩
  · exact ⟨_, List.mem_cons_self, rfl⟩

/-- **Every handler** takes its parameters from the request and from its log. -/
theorem handle_from (q : Request) :
    SatE (handle env q) (fun log o => o.From env q log) (fun _ _ => True) (fun _ _ => True) [] := by
  cases q with
  | register email username password =>
    simp only [handle, Routes.register, satE_map, AuthService.register, satE_bind,
      AuthService.satE_validatePassword, AuthService.satE_validateUsername, UserService.satE_create,
      satE_hashPassword, Op.From.eq_4, Op.From.eq_9, implies_true, true_and, and_true]
    exact fun _ _ salt hash hhash n => ⟨⟨password, salt, rfl, hhash, by simp⟩, fun r =>
      issueTokens_from rfl ⟨_, List.mem_cons_self, rfl⟩⟩
  | login email password =>
    simp only [handle, Routes.login, satE_map, AuthService.login, satE_bind, UserService.satE_findByEmail,
      satE_ite, satE_throw, UserService.satE_findLocalCredential, satE_verifyPassword, Op.From.eq_1,
      Op.From.eq_9, implies_true, true_and, and_true]
    exact ⟨List.mem_cons_self, fun u _ c b _ _ =>
      issueTokens_from rfl ⟨_, List.mem_cons_of_mem _ List.mem_cons_self, rfl⟩⟩
  | refresh t =>
    simp only [handle, Routes.refresh, satE_map, AuthService.refresh, satE_bind, satE_ite,
      TokenService.satE_rotateRefreshToken, TokenService.satE_rotateRecord, TokenService.satE_isStale,
      TokenService.satE_revokeAllUserTokens, UserService.satE_findById, UserService.satE_findLocalCredential,
      TokenService.satE_generateAccessToken, satE_throw, satE_pure, Op.From.eq_3, Op.From.eq_9, implies_true,
      true_and, and_true]
    refine ⟨⟨t, rfl⟩, fun record => ⟨fun _ hne => absurd trivial hne, fun _ now _ _ r => ?_⟩⟩
    exact createRefreshToken_from rfl
      ⟨_, List.mem_cons_of_mem _ (List.mem_cons_of_mem _ List.mem_cons_self), rfl⟩
  | oauthLogin profile =>
    simp only [handle, Routes.oauthLogin, satE_map, AuthService.loginOrRegisterOAuth, satE_bind, satE_ite,
      UserService.satE_findLocalCredential, satE_throw, Op.From.eq_9, implies_true, true_and, and_true]
    refine (resolveOAuth_from profile).mono (fun _ _ => id) (fun l u hu _ => ?_) fun _ _ => id
    exact ⟨issueTokens_from rfl (hu.mono (List.suffix_cons _ _)), fun c =>
      issueTokens_from rfl (hu.mono (List.suffix_cons _ _))⟩
  | changePassword authorization current new =>
    simp [handle, Routes.changePassword, Op.From]
    exact fun token _ claims _ c _ salt hash hhash => ⟨new, salt, hhash⟩
  | logout | listConnections | unlinkConnection | getMe | deactivateAccount | updateUserRole =>
    simp [handle, Routes.logout, Routes.listConnections, Routes.unlinkConnection, Routes.getMe,
      Routes.deactivateAccount, Routes.updateUserRole, AuthService.logout, AdminService.updateUserRole,
      Op.From]

/-! ### What the database refuses -/

theorem bindTexts_error {α : Type} {texts : List String} {x : Except SqlxError α} {e : SqlxError}
    (h : bindTexts texts x = .error e) :
    (∃ text ∈ texts, hasNul text = true ∧ e = nulError) ∨ x = .error e := by
  unfold bindTexts at h
  split at h
  · next hnul =>
    obtain ⟨text, ht, hnul⟩ := List.any_eq_true.1 hnul
    cases h
    exact Or.inl ⟨text, ht, hnul, rfl⟩
  · exact Or.inr h

/-- A user that has been met has an account. -/
theorem Preceded.met {userId : Uuid} (h : Preceded env log s) (hmet : Met log userId) :
    ∃ u ∈ s.db.users.rows, u.id = userId := by
  obtain ⟨⟨o, r⟩, hx, hu⟩ := hmet
  obtain ⟨t, t', hstmt, hle⟩ := h _ hx
  unfold metUser at hu
  split at hu
  · next key record heq =>
    cases heq
    cases hu
    obtain ⟨rfl, row, hrow, -, rfl⟩ := selectRefreshToken_row hstmt
    obtain ⟨u, huser, hid⟩ := t'.db.refreshTokens_user row hrow
    obtain ⟨v, hv, hvid, -⟩ := hle.users u huser
    exact ⟨v, hv, hvid.trans hid⟩
  · obtain ⟨u, hread, rfl⟩ := Option.map_eq_some_iff.1 hu
    obtain ⟨v, hv, hvid, -⟩ := hle.users u (returnedUser_row hstmt hread).1
    exact ⟨v, hv, hvid⟩

theorem hasNul_hash (hx : env.prim.Exact) {password hash : String} {salt : ℕ}
    (h : env.prim.argon2Hash password salt = some hash) :
    hasNul hash = false := by
  obtain ⟨hash', hhash', hnul⟩ := hx.hash_total password salt
  rw [h] at hhash'
  cases hhash'
  exact hnul

/-- A new user is refused for a taken email address, a taken display name, a NUL character, or a text that
is too long for its index. -/
theorem insertUserError_reason {email name : String} {e : SqlxError}
    (h : insertUserError env.prim s.db email name = some e) (hq : q.newName = some name)
    (htexts : email ∈ q.texts ∧ name ∈ q.texts)
    (hindexed : ("users_email_key", [.text email]) ∈ q.indexed ∧
      ("users_username_key", [.text name]) ∈ q.indexed)
    (htaken : EmailTaken s.db email → Reason env s q .emailTaken) :
    Reason env s q (mapConstraintErr e "users_email_key" .emailTaken) := by
  unfold insertUserError at h
  split at h
  · next hnul =>
    cases h
    rw [mapConstraintErr_nul]
    rcases hnul with hnul | hnul
    · exact .nul htexts.1 hnul
    · exact .nul htexts.2 hnul
  rcases Option.or_eq_some_iff.1 h with h | ⟨-, h⟩
  · rcases Db.keyError_eq_some h with ⟨hemail, rfl⟩ | ⟨hlong, rfl⟩
    · rw [mapConstraintErr_email]
      exact htaken (of_decide_eq_true hemail)
    · rw [mapConstraintErr_indexRow]
      exact .tooLong hindexed.1 hlong
  · rcases Db.keyError_eq_some h with ⟨hname, rfl⟩ | ⟨hlong, rfl⟩
    · rw [mapConstraintErr_displayName]
      exact .nameTaken hq (of_decide_eq_true hname)
    · rw [mapConstraintErr_indexRow]
      exact .tooLong hindexed.2 hlong

/-- A new account is refused for these reasons and for a taken username. -/
theorem insertAccountError_reason {email username password : String} {e : TxError}
    (h : insertAccountError env.prim s.db email (localPart email) username = some e) :
    Reason env s (.register email username password) (UserService.createErr e) := by
  have hcases : (∃ e', insertUserError env.prim s.db email (localPart email) = some e' ∧ e = .users e') ∨
      ∃ e', insertLocalCredentialError env.prim s.db username = some e' ∧ e = .localCredentials e' := by
    unfold insertAccountError at h
    split at h
    · next e' he' =>
      cases h
      exact Or.inl ⟨e', he', rfl⟩
    · obtain ⟨e', he', rfl⟩ := Option.map_eq_some_iff.1 h
      exact Or.inr ⟨e', he', rfl⟩
  rcases hcases with ⟨e', he', rfl⟩ | ⟨e', he', rfl⟩
  · exact insertUserError_reason he' rfl (by simp [Request.texts]) (by simp [Request.indexed]) .emailTaken
  · unfold insertLocalCredentialError at he'
    split at he'
    · next hnul =>
      cases he'
      rw [createErr_nul]
      have hmem : username ∈ (Request.register email username password).texts := by simp [Request.texts]
      exact .nul hmem hnul
    rcases Db.keyError_eq_some he' with ⟨htaken, rfl⟩ | ⟨hlong, rfl⟩
    · rw [createErr_username]
      exact .usernameTaken (of_decide_eq_true htaken)
    · rw [UserService.createErr, mapConstraintErr_indexRow]
      exact .tooLong (by simp [Request.indexed]) hlong

/-- A new user has a new identifier. -/
theorem Regular.user_new {o : Op} {id : Uuid} (hs : Regular env o s) (hid : .user id ∈ o.marks) :
    ∀ v ∈ s.db.users.rows, v.id ≠ id := by
  rintro v hv rfl
  exact hs.fresh _ hid (mem_marks.2 (Or.inl ⟨v, hv, rfl⟩))

/-- A new link is refused for a NUL character or for an identity that is too long for its index. -/
theorem insertOAuthCredential_error (hx : env.prim.Exact) {id userId : Uuid} {provider : Provider}
    {puid : String} {avatarUrl : Option String} {e : SqlxError}
    (hs : Regular env (.sql (.insertOAuthCredential id userId provider puid avatarUrl)) s)
    (huser : ∃ u ∈ s.db.users.rows, u.id = userId)
    (h : (Sql.insertOAuthCredential id userId provider puid avatarUrl).apply env.prim s.clock s.db = .error e) :
    (∃ text ∈ puid :: avatarUrl.toList, hasNul text = true ∧ e = nulError) ∨
      let size := env.prim.indexRowSize [.enum provider.label, .text puid]
      maxIndexRow < size ∧ e = indexRowError oauthIdentityKey.name size := by
  have hnew : ∀ o ∈ s.db.oauthCredentials.rows, o.id ≠ id := fun o ho heq =>
    hs.fresh _ List.mem_cons_self (mem_marks.2 (Or.inr (Or.inl ⟨o, ho, by rw [heq]⟩)))
  simp only [Sql.apply] at h
  cases hbind : bindTexts (puid :: avatarUrl.toList) (s.db.linkOAuthAccount env.prim.indexRowSize
      ⟨id, userId, provider, puid, avatarUrl, s.clock⟩) with
  | ok db' =>
    rw [hbind] at h
    cases h
  | error e' =>
    rw [hbind] at h
    cases h
    rcases bindTexts_error hbind with hnul | hlink
    · exact Or.inl hnul
    · rcases linkOAuthAccount_outcome hx (o := ⟨id, userId, provider, puid, avatarUrl, s.clock⟩) hnew
        huser with ⟨db, hdb⟩ | ⟨hlong, herr⟩
      · rw [hdb] at hlink
        cases hlink
      · rw [herr] at hlink
        cases hlink
        exact Or.inr ⟨Nat.lt_of_not_le hlong, rfl⟩

/-- A refresh token is refused for its expiry. -/
theorem insertRefreshToken_error (hx : env.prim.Exact) {id userId : Uuid} {hash key : String}
    {expiresAt : OffsetDateTime} {e : SqlxError}
    (hs : Regular env (.sql (.insertRefreshToken id userId hash key expiresAt)) s)
    (huser : ∃ u ∈ s.db.users.rows, u.id = userId) {t : String} {salt : ℕ}
    (hkey : key = TokenService.computeLookupKey env t) (hhash : env.prim.argon2Hash t salt = some hash)
    (h : (Sql.insertRefreshToken id userId hash key expiresAt).apply env.prim s.clock s.db = .error e) :
    expiresAt < minTimestamp ∧ e = timestampError := by
  have hnew : ∀ r ∈ s.db.refreshTokens.rows, r.id ≠ id ∧ r.tokenHash ≠ hash ∧ r.lookupKey ≠ key := by
    intro r hr
    refine ⟨fun heq => hs.fresh (.token id) (by simp [Op.marks]) ?_,
      fun heq => hs.fresh (.hash hash) (by simp [Op.marks]) ?_,
      fun heq => hs.fresh (.key key) (by simp [Op.marks]) ?_⟩ <;>
    exact mem_marks.2 (Or.inr (Or.inr ⟨r, hr, by simp [heq]⟩))
  obtain ⟨db, hdb⟩ := hx.insertRefreshToken ⟨id, userId, hash, key, expiresAt, false, s.clock⟩
    hhash hkey hnew huser
  have hnul : [hash, key].any hasNul = false := by
    simp [hkey, TokenService.computeLookupKey, hasNul_hash hx hhash, hx.hmac_noNul]
  by_cases hmin : expiresAt < minTimestamp
  · simp only [Sql.apply, bindTexts, hnul, bindTimestamp, hmin] at h
    cases h
    exact ⟨hmin, rfl⟩
  · simp only [Sql.apply, bindTexts, hnul, bindTimestamp, hmin, hdb] at h
    cases h

/-- **The database refuses for a reason**, which the request has not brought about: it has not written yet,
or the reason does not depend on the state. -/
theorem Sql.reason (hx : env.prim.Exact) {sql : Sql} {e : sql.Error} (hs : Regular env (.sql sql) s)
    (hbefore : Preceded env log s) (hfrom : (Op.sql sql).From env q log)
    (h : sql.apply env.prim s.clock s.db = .error e) :
    Justifies env log s q (sql.report e) ∨ ∀ s₀, Reason env s₀ q (sql.report e) := by
  cases sql with
  | selectUserById | selectLocalCredential | updateRole | deactivateUser | selectOAuthConnections
  | deleteOAuthCredential | revokeRefreshToken | revokeUserRefreshTokens => cases h
  | selectUserByEmail email =>
    rcases bindTexts_error h with ⟨text, ht, hnul, rfl⟩ | h
    · rw [List.mem_singleton.1 ht] at hnul
      exact Or.inr fun _ => .nul hfrom hnul
    · cases h
  | selectUserByOAuthIdentity provider puid =>
    rcases bindTexts_error h with ⟨text, ht, hnul, rfl⟩ | h
    · rw [List.mem_singleton.1 ht] at hnul
      exact Or.inr fun _ => .nul hfrom hnul
    · cases h
  | selectRefreshToken key =>
    obtain ⟨t, rfl⟩ := hfrom
    rcases bindTexts_error h with ⟨text, ht, hnul, -⟩ | h
    · rw [List.mem_singleton.1 ht, TokenService.computeLookupKey, hx.hmac_noNul] at hnul
      cases hnul
    · cases h
  | updatePasswordHash hash userId =>
    obtain ⟨password, salt, hhash⟩ := hfrom
    rcases bindTexts_error h with ⟨text, ht, hnul, -⟩ | h
    · rw [List.mem_singleton.1 ht, hasNul_hash hx hhash] at hnul
      cases hnul
    · cases h
  | insertUser id email name =>
    obtain ⟨profile, rfl, rfl, rfl, hlog⟩ := hfrom
    obtain ⟨herr, hok⟩ := insertUser_outcome hx s.clock profile.email
      (profile.displayName.getD (localPart profile.email)) (hs.user_new List.mem_cons_self)
    cases hcase : insertUserError env.prim s.db profile.email
        (profile.displayName.getD (localPart profile.email)) with
    | none =>
      obtain ⟨db, hdb⟩ := hok hcase
      simp only [Sql.apply, hdb] at h
      cases h
    | some e' =>
      simp only [Sql.apply, herr e' hcase] at h
      cases h
      exact Or.inl ⟨insertUserError_reason hcase rfl (by simp [Request.texts]) (by simp [Request.indexed])
        .profileTaken, Or.inl hlog⟩
  | insertAccount id email name username hash =>
    obtain ⟨password, salt, rfl, rfl, hhash, hlog⟩ := hfrom
    obtain ⟨herr, hok⟩ := insertAccount_outcome hx s.clock email (localPart email) username
      (hs.user_new List.mem_cons_self) (hasNul_hash hx hhash)
    cases hcase : insertAccountError env.prim s.db email (localPart email) username with
    | none =>
      obtain ⟨res, hres⟩ := hok hcase
      rw [hres] at h
      cases h
    | some e' =>
      rw [herr e' hcase] at h
      cases h
      exact Or.inl ⟨insertAccountError_reason hcase, Or.inl hlog⟩
  | insertOAuthCredential id userId provider puid avatarUrl =>
    obtain ⟨htexts, hindexed, hmet⟩ := hfrom
    refine Or.inr fun _ => ?_
    rcases insertOAuthCredential_error hx hs (hbefore.met hmet) h with ⟨text, ht, hnul, rfl⟩ | ⟨hlong, rfl⟩
    · exact .nul (htexts text ht) hnul
    · exact .tooLong hindexed hlong
  | insertRefreshToken id userId hash key expiresAt =>
    obtain ⟨hq, hmet, ⟨t, salt, hkey, hhash⟩, now, hnow, rfl⟩ := hfrom
    obtain ⟨hmin, rfl⟩ := insertRefreshToken_error hx hs (hbefore.met hmet) hkey hhash h
    obtain ⟨s₁, s₁', hstmt, -⟩ := hbefore _ hnow
    obtain ⟨rfl, -⟩ := hstmt.now_eq
    refine Or.inr fun s₀ => .lifetime hq (Nat.min_le_right s₁.clock s₀.clock) ?_
    exact Int.lt_of_le_of_lt (Int.add_le_add_right (Int.ofNat_le.2 (Nat.min_le_left _ _)) _) hmin

/-! ### Runs -/

theorem register_inserts (email username password : String) :
    SatE (handle env (.register email username password)) (fun log o => o.InsertsOnce log)
      (fun _ _ => True) (fun _ _ => True) [] := by
  simp [handle, Routes.register, AuthService.register, Op.InsertsOnce]

theorem refresh_inserts (t : String) :
    SatE (handle env (.refresh t)) (fun log o => o.InsertsOnce log) (fun _ _ => True) (fun _ _ => True)
      [] := by
  simp [handle, Routes.refresh, AuthService.refresh, Op.InsertsOnce]

/-- **Every handler** inserts one row in each table at most. -/
theorem handle_insertsOnce (q : Request) : SatE (handle env q) (fun log o => o.InsertsOnce log)
    (fun _ _ => True) (fun _ _ => True) [] := by
  cases q with
  | register email username password => exact register_inserts email username password
  | refresh t => exact refresh_inserts t
  | oauthLogin profile => exact login_inserts profile
  | _ =>
    simp [handle, Routes.login, Routes.logout, Routes.listConnections, Routes.unlinkConnection,
      Routes.getMe, Routes.changePassword, Routes.deactivateAccount, Routes.updateUserRole,
      AuthService.login, AuthService.logout, AdminService.updateUserRole, Op.InsertsOnce]

/-- A statement of request `i` has failed with `e`, and not because the database has refused it. -/
def Disturbed (env : Env) (H : Trace) (i : ℕ) (e : AppError) : Prop :=
  ∃ (sql : Sql) (e' : sql.Error) (s s' : State), .stmt i (.sql sql) (.error e') s s' ∈ H ∧
    sql.apply env.prim s.clock s.db ≠ .error e' ∧ e = sql.report e'

/-- The errors with which requests finish in the history `H` are true. -/
structure TrueErrors (env : Env) (H : Trace) : Prop where
  /-- The request is malformed and has not written, one of its statements was disturbed, or there was a
  reason in a state in which one of its statements was executed, which it had not brought about itself. -/
  reasons : ∀ {h : Trace} {i : ℕ} {q : Request} {e : AppError}, .start i q ∈ h →
    Occurs H h (.done i (.error e)) → Malformed q e ∧ ¬ Wrote (localLog i h) ∨ Disturbed env h i e ∨
      ∃ (h' : Trace) (o : Op) (r : Ret o) (s s' : State), Occurs h h' (.stmt i o r s s') ∧
        Justifies env (localLog i h') s q e
  /-- The server takes the blame for its infrastructure, for NUL characters, for texts that are too long for
  their index, for display names that are taken and for lifetimes that count backwards only. -/
  server : ∀ {h : Trace} {i : ℕ} {q : Request} {e : AppError}, .start i q ∈ h →
    Occurs H h (.done i (.error e)) → 500 ≤ e.statusCode → Disturbed env h i e ∨
      (∃ text ∈ q.texts, hasNul text = true) ∨
      (∃ entry ∈ q.indexed, maxIndexRow < env.prim.indexRowSize entry.2) ∨
      (∃ (name : String) (h' : Trace) (o : Op) (r : Ret o) (s s' : State), q.newName = some name ∧
        Occurs h h' (.stmt i o r s s') ∧ ¬ Wrote (localLog i h') ∧ DisplayNameTaken s.db name) ∨
      (q.signsIn = true ∧ 2 ^ 63 ≤ env.config.refreshTokenExpirySecs.toNat)

/-- A malformed request is the fault of the client. -/
theorem Malformed.client {q : Request} {e : AppError} (h : Malformed q e) : e.statusCode < 500 := by
  cases h with
  | @provider authorization slug _ => exact (show 404 < 500 by decide)
  | _ => decide

theorem Reason.server {e : AppError} (h : Reason env s q e) (he : 500 ≤ e.statusCode) :
    (∃ text ∈ q.texts, hasNul text = true) ∨
      (∃ entry ∈ q.indexed, maxIndexRow < env.prim.indexRowSize entry.2) ∨
      (∃ name, q.newName = some name ∧ DisplayNameTaken s.db name) ∨
      (q.signsIn = true ∧ 2 ^ 63 ≤ env.config.refreshTokenExpirySecs.toNat) := by
  cases h with
  | nul ht hnul => exact Or.inl ⟨_, ht, hnul⟩
  | tooLong ht hlong => exact Or.inr (Or.inl ⟨_, ht, hlong⟩)
  | nameTaken hq hname => exact Or.inr (Or.inr (Or.inl ⟨_, hq, hname⟩))
  | @lifetime _ now hq hnow hmin =>
    refine Or.inr (Or.inr (Or.inr ⟨hq, ?_⟩))
    by_contra hlt
    have hcast := castSigned_of_lt (Nat.lt_of_not_le hlt)
    unfold TokenService.refreshLifetime minTimestamp at hmin
    rw [hcast] at hmin
    omega
  | @token _ _ _ _ e => cases e <;> exact absurd he (by decide)
  | _ => exact absurd he (by decide)

section Runs

variable {clock : ℕ} {c : Pool Op Ret Request (Except AppError Response) State}
  (hc : (service env).Reachable (.fresh clock) c)

include hc

/-- What has been signed was signed for a user. -/
theorem minted_subjects : ∀ claims ∈ c.state.minted, ∃ u ∈ c.state.db.users.rows, u.id = claims.sub := by
  intro claims hm
  obtain ⟨past, i, x, s, s', he⟩ := minted_signed rfl hc hm
  obtain ⟨q, -, -, u, m, t, rfl, -, ⟨o, r⟩, hlog, hread, -⟩ := hc.at_stmt handle_privileged he
  obtain ⟨t, t', hstmt⟩ := exists_stmt_of_mem_localLog hlog
  have hstmt := he.past.subset hstmt
  have huser := (returnedUser_row (service_stmt hc hstmt) hread).1
  obtain ⟨v, hv, hid, -⟩ := (service_le_state hc hstmt).users u huser
  exact ⟨v, hv, hid⟩

theorem preceded_of_occurs {h : Trace} {i : ℕ} {o : Op} {r : Ret o}
    (he : Occurs c.history h (.stmt i o r s s')) : Preceded env (localLog i h) s := by
  rintro ⟨o', r'⟩ hx
  obtain ⟨t, t', hstmt⟩ := exists_stmt_of_mem_localLog hx
  exact ⟨t, t', service_stmt hc (he.past.subset hstmt), service_le hc he hstmt⟩

/-- The states of a run are regular. -/
theorem regular_of_occurs (hx : env.prim.Exact) {h : Trace} {i : ℕ} {o : Op} {r : Ret o}
    (he : Occurs c.history h (.stmt i o r s s')) : Regular env o s := by
  obtain ⟨c₀, -, hc₀, -, rfl, -⟩ := hc.past he
  obtain ⟨q, -, honce⟩ := hc.at_stmt handle_insertsOnce he
  refine ⟨?_, service_hashed (allHashed_fresh env clock) hc₀, service_drawn (drawn_fresh env clock) hc₀,
    minted_subjects hc₀⟩
  refine fresh_marks (fun h => h) (fun h => h) hc hx (marked_fresh env clock) (fun he => ?_) he honce
  obtain ⟨q, hq, hdrawn⟩ := hc.at_stmt handle_drawn he
  exact Op.fromDraws hdrawn (service_at_stmt handle_linksDrawn hc (he.past.subset hq) he)

theorem reason_of_error (hx : env.prim.Exact) {h : Trace} {i : ℕ} {q : Request} {e : AppError}
    (hq : .start i q ∈ h) (he : Occurs c.history h (.done i (.error e))) :
    Malformed q e ∧ ¬ Wrote (localLog i h) ∨ Disturbed env h i e ∨
      ∃ (h' : Trace) (o : Op) (r : Ret o) (s s' : State), Occurs h h' (.stmt i o r s s') ∧
        Justifies env (localLog i h') s q e := by
  obtain ⟨q', hq', hbecause⟩ := service_at_error (handle_because hx) hc he
  obtain rfl := hc.numbered.start_unique (he.past.subset hq) (he.past.subset hq')
  generalize hlog : localLog i h = log at hbecause ⊢
  cases hbecause with
  | malformed hwrote hmalformed => exact Or.inl ⟨hmalformed, hwrote⟩
  | @failed l sql e' =>
    have hself : (⟨.sql sql, .error e'⟩ :: l) <:+ localLog i h := by rw [hlog]
    obtain ⟨h', s, s', he', rfl⟩ := exists_occurs_of_suffix hself
    have hocc := he'.of_suffix he.past
    by_cases happly : sql.apply env.prim s.clock s.db = .error e'
    · refine Or.inr (Or.inr ?_)
      rcases Sql.reason hx (regular_of_occurs hc hx hocc) (preceded_of_occurs hc hocc)
        (service_at_stmt handle_from hc (he.past.subset hq) hocc) happly with hreason | hreason
      · exact ⟨h', _, _, s, s', he', hreason⟩
      · -- The reason was there when the first statement was executed.
        have hne : localLog i h ≠ [] := by simp [hlog]
        have hfirst : [(localLog i h).getLast hne] <:+ localLog i h :=
          ⟨_, List.dropLast_append_getLast hne⟩
        obtain ⟨h₀, s₀, s₀', he₀, hnil⟩ := exists_occurs_of_suffix hfirst
        exact ⟨h₀, _, _, s₀, s₀', he₀, hreason s₀, Or.inl (by rw [hnil]; exact not_wrote_nil)⟩
    · exact Or.inr (Or.inl ⟨sql, e', s, s', he'.mem, happly, rfl⟩)
  | reason x l hl hreason =>
    rw [← hlog] at hl
    obtain ⟨h', s, s', he', rfl⟩ := exists_occurs_of_suffix hl
    have hocc := he'.of_suffix he.past
    exact Or.inr (Or.inr ⟨h', _, _, s, s', he', hreason s s' (regular_of_occurs hc hx hocc)
      (preceded_of_occurs hc hocc) (service_stmt hc hocc.mem)⟩)

end Runs

/-- **Errors are true.**  In every run of a fresh installation, whatever the order of the statements and
whichever of them fail, a request fails because it is malformed, because one of its statements has failed,
or because of what was in the database in the meantime. -/
theorem errors_are_true {clock : ℕ} {c : Pool Op Ret Request (Except AppError Response) State}
    (hx : env.prim.Exact) (hc : (service env).Reachable (.fresh clock) c) : TrueErrors env c.history where
  reasons hq he := reason_of_error hc hx hq he
  server {h i q e} hq he hserver := by
    rcases reason_of_error hc hx hq he with ⟨hmalformed, -⟩ | hdisturbed | ⟨h', o, r, s, s', hm, hreason, hlog⟩
    · exact absurd hmalformed.client (Nat.not_lt.2 hserver)
    · exact Or.inl hdisturbed
    · have hwrote : ¬ Wrote (localLog i h') := by
        refine hlog.resolve_right fun hlate => ?_
        cases hlate
        exact absurd hserver (by decide)
      rcases hreason.server hserver with hnul | hlong | ⟨name, hname, htaken⟩ | hlifetime
      · exact Or.inr (Or.inl hnul)
      · exact Or.inr (Or.inr (Or.inl hlong))
      · exact Or.inr (Or.inr (Or.inr (Or.inl ⟨name, h', o, r, s, s', hname, hm, hwrote, htaken⟩)))
      · exact Or.inr (Or.inr (Or.inr (Or.inr hlifetime)))

/-- Alice registers.  Then somebody else of her name does, with another address and another username. -/
theorem errors_are_true_of_alice : ∃ c, (service demo).Reachable (.fresh 0) c ∧
    System.outcome 1 c.history =
      some (.error (.database (uniqueViolation "users_username_key"))) ∧ TrueErrors demo c.history := by
  obtain ⟨c, hc, hobs⟩ := exists_run demo (.fresh 0)
    ([.start registerAlice] ++ goes 0 10 ++ [.start (.register "alice@example.org" "alicia" "password")] ++
      goes 1 3)
    (fun c => System.outcome 1 c.history) (some (.error (.database (uniqueViolation "users_username_key"))))
    (by decide +kernel)
  exact ⟨c, hc, hobs, errors_are_true Primitives.ideal_exact hc⟩

end Socle
