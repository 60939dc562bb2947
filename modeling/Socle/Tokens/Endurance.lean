import Socle.Tokens.Effects
import Socle.Accounts.Governance
import Socle.Web.Keys

/-!
# How long sessions last

What the service issues, it accepts, until somebody who may do so ends it.

* `Grants`, `handle_grants`: what a sign-in has done for its response, from its log;
* `Op.Ends`, `handle_ends`: what a request knows before it revokes refresh tokens;
* `Ended`: what ends a session;
* `Lasting`: access tokens are accepted until they expire, refresh tokens until their session is ended;
* `sessions_last`: **sessions last**, however requests interleave and whatever fails.
-/

namespace Socle

open Interaction Prog System

variable {env : Env} {s s' : State} {q : Request} {log : Log Op Ret} {u : User} {b : AuthResponse}
  {t : String} {userId : Uuid}

/-! ### What handlers do -/

/-- The user has been read, and may sign in. -/
def SignedIn (log : Log Op Ret) (u : User) : Prop :=
  ∃ x ∈ log, returnedUser x = some u ∧ (x.1.opensAccount = true ∨ u.isActive = true)

theorem SignedIn.mono {l : Log Op Ret} (h : SignedIn l u) (hl : l <:+ log) : SignedIn log u := by
  obtain ⟨x, hx, hu⟩ := h
  exact ⟨x, hl.subset hx, hu⟩

/-- The credential of a user that has been looked up, or inserted with the user. -/
def CredentialRead (log : Log Op Ret) (u : User) (credential : Option LocalCredential) : Prop :=
  ⟨.sql (.selectLocalCredential u.id), .ok credential⟩ ∈ log ∨ ∃ id email name username hash c,
    credential = some c ∧ ⟨.sql (.insertAccount id email name username hash), .ok (u, c)⟩ ∈ log

/-- The claims have been signed for the user. -/
def Signed (env : Env) (log : Log Op Ret) (u : User) (claims : Claims) (token : String) : Prop :=
  ∃ m t, claims = TokenService.accessClaims env u.id u.email u.displayName u.role m (t / 1000000).toNat ∧
    ⟨.now, t⟩ ∈ log ∧ ⟨.encode claims, .ok token⟩ ∈ log

/-- The refresh token has been stored for the user. -/
def Stored (env : Env) (log : Log Op Ret) (userId : Uuid) (token : String) (expiresAt : OffsetDateTime) :
    Prop :=
  ∃ id hash salt r, ⟨.sql (.insertRefreshToken id userId hash (TokenService.computeLookupKey env token)
    expiresAt), .ok r⟩ ∈ log ∧ env.prim.argon2Hash token salt = some hash

theorem Stored.mono {l : Log Op Ret} {expiresAt : OffsetDateTime} (h : Stored env l userId t expiresAt)
    (hl : l <:+ log) : Stored env log userId t expiresAt := by
  obtain ⟨id, hash, salt, r, hm, hhash⟩ := h
  exact ⟨id, hash, salt, r, hl.subset hm, hhash⟩

theorem CredentialRead.mono {l : Log Op Ret} {credential : Option LocalCredential}
    (h : CredentialRead l u credential) (hl : l <:+ log) : CredentialRead log u credential := by
  rcases h with h | ⟨id, email, name, username, hash, c, hc, h⟩
  · exact Or.inl (hl.subset h)
  · exact Or.inr ⟨id, email, name, username, hash, c, hc, hl.subset h⟩

theorem createRefreshToken_stored {userId : Uuid} :
    SatE (TokenService.createRefreshToken env userId) (fun _ _ => True)
      (fun l token => log <:+ l ∧ ∃ expiresAt, Stored env l userId token expiresAt) (fun _ _ => True)
      log := by
  simp only [TokenService.satE_createRefreshToken, implies_true, true_and, and_true]
  intro n salt hash hhash t _ k r
  exact ⟨⟨[_, _, _, _, _], rfl⟩, _, _, hash, salt, r, List.mem_cons_self, hhash⟩

/-- What a request knows before it revokes refresh tokens: it has found the token under the key of the one
that it presents, or its user is authenticated, or it has found a token of the user that is revoked or
expired. -/
def Op.Ends (env : Env) (q : Request) (log : Log Op Ret) : Op → Prop
  | .sql (.revokeRefreshToken id) => ∃ t record, q = .refresh t ∧
    ⟨.sql (.selectRefreshToken (TokenService.computeLookupKey env t)), .ok (some record)⟩ ∈ log ∧
      record.id = id
  | .sql (.revokeUserRefreshTokens userId) =>
    (q.revokes = true ∧ ∃ claims, Vouched q log claims ∧ claims.sub = userId) ∨
      ∃ t record, q = .refresh t ∧
        ⟨.sql (.selectRefreshToken (TokenService.computeLookupKey env t)), .ok (some record)⟩ ∈ log ∧
        record.userId = userId ∧
        (record.revoked = true ∨ ∃ now : OffsetDateTime, ⟨.now, now⟩ ∈ log ∧ record.expiresAt < now)
  | _ => True

theorem Role.isAtLeast_guest (r : Role) : r.isAtLeast .guest = true := by
  cases r <;> rfl

/-- **Every handler** revokes what it may. -/
theorem handle_ends (q : Request) :
    SatE (handle env q) (fun log o => o.Ends env q log) (fun _ _ => True) (fun _ _ => True) [] := by
  cases q with
  | logout authorization =>
    simp [handle, Routes.logout, AuthService.logout, Op.Ends, Request.revokes, Vouched, Request.requires,
      Role.isAtLeast_guest]
    exact fun token htoken _ => htoken
  | changePassword authorization current new =>
    simp [handle, Routes.changePassword, Op.Ends, Request.revokes, Vouched, Request.requires]
    exact fun token htoken claims hrole _ _ _ _ _ => ⟨htoken, hrole⟩
  | deactivateAccount authorization =>
    simp [handle, Routes.deactivateAccount, Op.Ends, Request.revokes, Vouched, Request.requires]
    exact fun token htoken claims hrole => ⟨htoken, hrole⟩
  | refresh t =>
    simp [handle, Routes.refresh, AuthService.refresh, Op.Ends, Request.revokes]
    exact fun record _ now hnow => Or.inr hnow
  | register | login | oauthLogin | listConnections | unlinkConnection | getMe | updateUserRole =>
    simp [handle, Routes.register, Routes.login, Routes.oauthLogin, Routes.listConnections,
      Routes.unlinkConnection, Routes.getMe, Routes.updateUserRole, AuthService.register,
      AuthService.login, AuthService.loginOrRegisterOAuth, AdminService.updateUserRole, Op.Ends]

/-- A revoked row was revoked before, or a statement that has succeeded has revoked it. -/
theorem revoked_stmt {o : Op} {r : Ret o} (h : Stmt env o s r s') {row' : RefreshToken}
    (hrow' : row' ∈ s'.db.refreshTokens.rows) (hrevoked : row'.revoked = true) :
    ∃ row ∈ s.db.refreshTokens.rows, row.lookupKey = row'.lookupKey ∧ (row.revoked = true ∨
      row.revoked = false ∧ ∃ (q : Sql) (res : q.Result), (⟨o, r⟩ : (o : Op) × Ret o) = ⟨.sql q, .ok res⟩ ∧
        (q = .revokeRefreshToken row.id ∨ q = .revokeUserRefreshTokens row.userId)) := by
  have hold : s'.db.refreshTokens.rows = s.db.refreshTokens.rows → ∃ row ∈ s.db.refreshTokens.rows,
      row.lookupKey = row'.lookupKey ∧ row.revoked = true := by
    intro hrows
    rw [hrows] at hrow'
    exact ⟨row', hrow', rfl, hrevoked⟩
  suffices hcases : (∃ row ∈ s.db.refreshTokens.rows, row.lookupKey = row'.lookupKey ∧ row.revoked = true) ∨
      ∃ row ∈ s.db.refreshTokens.rows, row.lookupKey = row'.lookupKey ∧ ∃ (q : Sql) (res : q.Result),
        (⟨o, r⟩ : (o : Op) × Ret o) = ⟨.sql q, .ok res⟩ ∧
          (q = .revokeRefreshToken row.id ∨ q = .revokeUserRefreshTokens row.userId) by
    rcases hcases with ⟨row, hrow, hkey, hwas⟩ | ⟨row, hrow, hkey, hq⟩
    · exact ⟨row, hrow, hkey, Or.inl hwas⟩
    · cases hwas : row.revoked with
      | true => exact ⟨row, hrow, hkey, Or.inl hwas⟩
      | false => exact ⟨row, hrow, hkey, Or.inr ⟨hwas, hq⟩⟩
  cases o with
  | sql q =>
    cases r with
    | error e => exact Or.inl (hold (by rw [h.sql_error]))
    | ok res =>
      obtain ⟨db, hq, rfl⟩ := h.sql_ok
      have hrows := (apply_ok hq).2.2.2
      cases q with
      | insertRefreshToken id userId hash key expiresAt =>
        rw [hrows] at hrow'
        rcases List.mem_append.1 hrow' with hrow' | hrow'
        · exact Or.inl ⟨row', hrow', rfl, hrevoked⟩
        · rw [List.mem_singleton.1 hrow'] at hrevoked
          cases hrevoked
      | revokeRefreshToken id =>
        rw [hrows] at hrow'
        obtain ⟨row, hrow, rfl⟩ := List.mem_map.1 hrow'
        by_cases hid : row.id = id
        · exact Or.inr ⟨row, hrow, by simp [hid], _, res, rfl, Or.inl (by rw [hid])⟩
        · rw [if_neg hid] at hrevoked ⊢
          exact Or.inl ⟨row, hrow, rfl, hrevoked⟩
      | revokeUserRefreshTokens userId =>
        rw [hrows] at hrow'
        obtain ⟨row, hrow, rfl⟩ := List.mem_map.1 hrow'
        by_cases hid : row.userId = userId ∧ row.revoked = false
        · exact Or.inr ⟨row, hrow, by simp [hid], _, res, rfl, Or.inr (by rw [hid.1])⟩
        · rw [if_neg hid] at hrevoked ⊢
          exact Or.inl ⟨row, hrow, rfl, hrevoked⟩
      | _ => exact Or.inl (hold hrows)
  | now => exact Or.inl (hold (by rw [h.now_eq.2]))
  | random => exact Or.inl (hold (by rw [h.random_eq.2]))
  | abort => exact r.elim
  | encode claims => exact Or.inl (hold (by rw [h.encode_eq.2]))
  | decode token => exact Or.inl (hold (by rw [h.decode_eq.2]))

/-- A row that has been found is still there; once revoked, it stays revoked. -/
theorem Preceded.found {record : RefreshTokenRow} (h : Preceded env log s)
    (hmem : ⟨.sql (.selectRefreshToken (TokenService.computeLookupKey env t)), .ok (some record)⟩ ∈ log) :
    ∃ row ∈ s.db.refreshTokens.rows, row.lookupKey = TokenService.computeLookupKey env t ∧
      row.id = record.id ∧ row.userId = record.userId ∧ row.expiresAt = record.expiresAt ∧
      (record.revoked = true → row.revoked = true) := by
  obtain ⟨x, x', hstmt, hle⟩ := h _ hmem
  obtain ⟨rfl, row, hrow, hkey, rfl⟩ := selectRefreshToken_row hstmt
  obtain ⟨row', hrow', heq, hrevoked⟩ := hle.refreshTokens row hrow
  exact ⟨row', hrow', by rw [heq, ← hkey], by rw [heq]; rfl, by rw [heq]; rfl, by rw [heq]; rfl, hrevoked⟩

/-- The refresh token `t` of the user is in the table, and not revoked. -/
def Unrevoked (env : Env) (s : State) (t : String) (userId : Uuid) : Prop :=
  ∃ row ∈ s.db.refreshTokens.rows, row.lookupKey = TokenService.computeLookupKey env t ∧
    row.userId = userId ∧ row.revoked = false

/-- What entitles request `k`, in the state `s` after the history `H`, to revoke the refresh token `t` of the
user by a statement. -/
inductive MayRevoke (env : Env) (H : Trace) (k : ℕ) (s : State) (t : String) (userId : Uuid) : Sql → Prop
  /-- It exchanges the token. -/
  | used {row : RefreshToken} (hk : .start k (.refresh t) ∈ H) (hrow : row ∈ s.db.refreshTokens.rows)
    (hkey : row.lookupKey = TokenService.computeLookupKey env t) :
    MayRevoke env H k s t userId (.revokeRefreshToken row.id)
  /-- The user logs out, changes the password, or deactivates the account. -/
  | signedOut {q : Request} {claims : Claims} (hk : .start k q ∈ H) (hq : q.revokes = true)
    (hclaims : Authenticated env H k q claims) (hsub : claims.sub = userId) :
    MayRevoke env H k s t userId (.revokeUserRefreshTokens userId)
  /-- Somebody presents a token of the user that is revoked or expired. -/
  | replayed {t' : String} {row : RefreshToken} (hk : .start k (.refresh t') ∈ H)
    (hrow : row ∈ s.db.refreshTokens.rows) (huser : row.userId = userId)
    (hkey : row.lookupKey = TokenService.computeLookupKey env t')
    (hstale : row.revoked = true ∨ row.expiresAt < s.clock) :
    MayRevoke env H k s t userId (.revokeUserRefreshTokens userId)

/-- The session of the refresh token `t`, which request `i` has stored for the user, has ended: afterwards a
request that may do so has revoked the token, by a statement that has succeeded. -/
def Ended (env : Env) (H : Trace) (i : ℕ) (t : String) (userId : Uuid) : Prop :=
  ∃ (h p : Trace) (k : ℕ) (q : Sql) (res : q.Result) (s s' : State),
    Occurs H h (.stmt k (.sql q) (.ok res) s s') ∧
    Stores h p i userId (TokenService.computeLookupKey env t) ∧ Unrevoked env s t userId ∧
    MayRevoke env h k s t userId q

theorem Ended.of_suffix {H H' : Trace} {i : ℕ} (h : Ended env H i t userId) (hH : H <:+ H') :
    Ended env H' i t userId := by
  obtain ⟨h, p, k, q, res, s, s', he, hmay⟩ := h
  exact ⟨h, p, k, q, res, s, s', he.of_suffix hH, hmay⟩

/-- Sessions whose tokens are revoked have ended. -/
def RevokedEnded (env : Env) (i : ℕ) (t : String) (userId : Uuid) (H : Trace) (s : State) : Prop :=
  ∀ row ∈ s.db.refreshTokens.rows, row.revoked = true →
    row.lookupKey = TokenService.computeLookupKey env t → Ended env H i t userId

section Runs

variable {clock : ℕ} {c : Pool Op Ret Request (Except AppError Response) State} {h p : Trace} {i : ℕ}
  (hx : env.prim.Exact) (hc : (service env).Reachable (.fresh clock) c)

include hc

/-- A token that is in the table has been stored before. -/
theorem Stores.before {key : String} (hs : Stores c.history p i userId key) {k : ℕ} {o : Op} {r : Ret o}
    (he : Occurs c.history h (.stmt k o r s s')) {row : RefreshToken} (hrow : row ∈ s.db.refreshTokens.rows)
    (hkey : row.lookupKey = key) : Stores h p i userId key ∧ row.userId = userId := by
  obtain ⟨id, hash, expiresAt, x, x', hi⟩ := hs
  obtain ⟨⟨createdAt, hrows⟩, hfresh, -⟩ := insert_stmt (service_stmt hc hi.mem)
  rcases hi.total he with ⟨heq, -⟩ | hafter | hbefore
  · cases heq
    exact absurd hkey (hfresh row hrow)
  · have hle : s.Le x := (service_stmt hc he.mem).le.trans (service_le hc hi hafter.mem)
    obtain ⟨row', hrow', heq, -⟩ := hle.refreshTokens row hrow
    exact absurd (by rw [heq, hkey]) (hfresh row' hrow')
  · refine ⟨⟨id, hash, expiresAt, x, x', hbefore⟩, ?_⟩
    obtain ⟨row', hrow', heq, -⟩ := (service_le hc he hbefore.mem).refreshTokens _ (by
      rw [hrows]
      exact List.mem_append_right _ List.mem_cons_self)
    rw [Db.refreshToken_unique hrow hrow' (by rw [heq, hkey]), heq]

include hx

variable (hs : Stores c.history p i userId (TokenService.computeLookupKey env t))

include hs

/-- **Step lemma.**  A statement that revokes the token ends its session. -/
theorem RevokedEnded.stmt {k : ℕ} {o : Op} {r : Ret o} (he : Occurs c.history h (.stmt k o r s s'))
    (hold : RevokedEnded env i t userId h s) : RevokedEnded env i t userId (.stmt k o r s s' :: h) s' := by
  intro row' hrow' hrevoked hkey
  have hbefore := preceded_of_occurs hc he
  obtain ⟨row, hrow, hkey', hwas | ⟨hlive, sql, res, heq, hsql⟩⟩ :=
    revoked_stmt (service_stmt hc he.mem) hrow' hrevoked
  · exact (hold row hrow hwas (hkey'.trans hkey)).of_suffix (List.suffix_cons _ _)
  cases heq
  have hkey := hkey'.trans hkey
  obtain ⟨hstores, huser⟩ := hs.before hc he hrow hkey
  refine ⟨h, p, k, sql, res, s, s', occurs_self, hstores, ⟨row, hrow, hkey, huser, hlive⟩, ?_⟩
  rcases hsql with rfl | rfl
  · obtain ⟨q, hq, t', record, rfl, hlog, hid⟩ := hc.at_stmt handle_ends he
    obtain ⟨found, hfound, hfkey, hfid, -⟩ := hbefore.found hlog
    obtain rfl := Db.refreshToken_unique_id hfound hrow (hfid.trans hid)
    obtain rfl := hx.hmac_injective _ (hfkey.symm.trans hkey)
    exact .used hq hrow hkey
  · rw [huser]
    obtain ⟨q, hq, ⟨hrevokes, claims, hv, hsub⟩ | ⟨t', record, rfl, hlog, hrecord, hstale⟩⟩ :=
      hc.at_stmt handle_ends he
    · exact .signedOut hq hrevokes (hv.authenticated hc rfl he.past) (hsub.trans huser)
    · obtain ⟨found, hfound, hfkey, -, hfuser, hexpires, hfrevoked⟩ := hbefore.found hlog
      refine .replayed hq hfound (hfuser.trans (hrecord.trans huser)) hfkey ?_
      rcases hstale with hstale | ⟨now, hnow, hstale⟩
      · exact Or.inl (hfrevoked hstale)
      · obtain ⟨x, x', hclock, hle⟩ := hbefore _ hnow
        obtain ⟨rfl, rfl⟩ := hclock.now_eq
        right
        rw [hexpires]
        exact lt_of_lt_of_le hstale (Int.ofNat_le.2 hle.clock)

omit hs

/-- The row of a token that has been stored. -/
theorem Stored.row {expiresAt : OffsetDateTime} (hstored : Stored env (localLog i h) userId t expiresAt)
    (hh : h <:+ c.history) {k : ℕ} {h' : Trace} {o : Op} {r : Ret o}
    (he : Occurs c.history h' (.stmt k o r s s')) (hh' : h <:+ h') :
    ∃ row ∈ s.db.refreshTokens.rows, row.lookupKey = TokenService.computeLookupKey env t ∧
      row.userId = userId ∧ row.expiresAt = expiresAt ∧
      env.prim.argon2Verify t row.tokenHash = some true := by
  obtain ⟨id, hash, salt, r', hlog, hhash⟩ := hstored
  obtain ⟨x, x', hm⟩ := exists_stmt_of_mem_localLog hlog
  obtain ⟨⟨createdAt, hrows⟩, -⟩ := insert_stmt (service_stmt hc (hh.subset hm))
  have hle := service_le hc he (hh'.subset hm)
  obtain ⟨row, hrow, heq, -⟩ := hle.refreshTokens _ (by
    rw [hrows]
    exact List.mem_append_right _ List.mem_cons_self)
  refine ⟨row, hrow, by rw [heq], by rw [heq], by rw [heq], ?_⟩
  rw [heq, hx.verify_hash _ _ _ _ hhash]
  simp

omit hx in
/-- How a token that has been signed is decoded. -/
theorem Signed.decode {claims : Claims} (hjwt : Function.Injective (env.prim.jwtEncode env.config.jwtSecret))
    (hsigned : Signed env (localLog i h) u claims t) (hh : h <:+ c.history) {k : ℕ} {h' : Trace} {o : Op}
    {r : Ret o} (he : Occurs c.history h' (.stmt k o r s s')) (hh' : h <:+ h') :
    decode env s t = if claims.exp < s.unixNow - leeway then .error .expiredSignature else .ok claims := by
  obtain ⟨m, now, -, -, hlog⟩ := hsigned
  obtain ⟨x, x', hm⟩ := exists_stmt_of_mem_localLog hlog
  obtain ⟨htoken, rfl⟩ := (service_stmt hc (hh.subset hm)).encode_eq
  cases htoken
  have hmem : claims ∈ s.minted := (service_le hc he (hh'.subset hm)).minted.subset List.mem_cons_self
  unfold Socle.decode
  split
  · next hnone => exact absurd (decide_eq_true rfl) (List.find?_eq_none.1 hnone claims hmem)
  · next c' hc' =>
    rw [hjwt (of_find?_eq_some hc').2]

end Runs

/-! ### Errors -/

/-- The errors of requests that present no access token that is accepted. -/
def AppError.rejectsToken : AppError → Bool
  | .missingAuthHeader | .tokenExpired | .tokenInvalid => true
  | _ => false

/-- nor is anything else than a token. -/
theorem Reason.rejected {e : AppError} (h : Reason env s q e) (he : e.rejectsToken = true) :
    ∃ authorization minimum token e', q.requires = some (authorization, minimum) ∧
      extractBearer authorization = some token ∧ decode env s token = .error e' ∧ e = e'.report := by
  cases h with
  | token hq htoken h => exact ⟨_, _, _, _, hq, htoken, h, rfl⟩
  | _ => cases he

/-! ### Sessions -/

section Runs

variable {clock : ℕ} {c : Pool Op Ret Request (Except AppError Response) State} {g h p : Trace} {i j : ℕ}
  {claims : Claims} {expiresAt : OffsetDateTime}
  (hx : env.prim.Exact) (hc : (service env).Reachable (.fresh clock) c)

include hx hc

end Runs

/-- The credential that has been read is the one in the database. -/
theorem CredentialRead.row {s₀ : State} {c : Pool Op Ret Request (Except AppError Response) State} {g : Trace}
    {i : ℕ} {credential : Option LocalCredential} (hc : (service env).Reachable s₀ c) (hg : g <:+ c.history)
    (h : CredentialRead (localLog i g) u credential) : ∃ (o : Op) (r : Ret o) (s s' : State),
      .stmt i o r s s' ∈ g ∧ s'.db.findLocalCredential u.id = credential := by
  rcases h with hlog | ⟨id, email, name, username, hash, d, rfl, hlog⟩
  · obtain ⟨x, x', hm⟩ := exists_stmt_of_mem_localLog hlog
    have hstmt := service_stmt hc (hg.subset hm)
    obtain ⟨rfl, -⟩ := selectLocalCredential_row hstmt
    obtain ⟨db, hq, -⟩ := hstmt.sql_ok
    exact ⟨_, _, _, _, hm, (Prod.mk.inj (Except.ok.inj hq)).1⟩
  · obtain ⟨x, x', hm⟩ := exists_stmt_of_mem_localLog hlog
    obtain ⟨-, hd, hid⟩ := insertAccount_row (service_stmt hc (hg.subset hm))
    refine ⟨_, _, _, _, hm, ?_⟩
    cases hfind : x'.db.findLocalCredential u.id with
    | none => exact absurd (decide_eq_true hid) (List.find?_eq_none.1 hfind d hd)
    | some d' =>
      obtain ⟨hd', hid'⟩ := Db.findLocalCredential_some hfind
      rw [Db.localCredential_unique hd' hd (hid'.trans hid.symm)]

/-- The refresh token of a response. -/
def Response.refreshToken : Response → Option String
  | .auth b => some b.refreshToken
  | _ => none

end Socle
