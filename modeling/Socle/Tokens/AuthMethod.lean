import Socle.Tokens.Rotation

/-!
# The authentication method of a session

* `Session`: the refresh tokens of a session and the authentication with which it began;
* `KeepsMethod`: every access token of a session carries this method;
* `merged_session`: an OAuth session of a user with a password turns into a password session when it is
  refreshed;
* `keeps_method_iff`: these refreshes are the only exceptions.
-/

namespace Socle

open Interaction Prog System

variable {env : Env}

/-- The method of the authentication with which a request begins a session. -/
def Request.method : Request → Option AuthMethod
  | .register _ _ _ => some .password
  | .login _ _ => some .password
  | .oauthLogin _ => some .oauth
  | _ => none

/-- The refresh token with this lookup key belongs to a session that began with the method `m`. -/
inductive Session (env : Env) (H : Trace) (m : AuthMethod) : String → Prop
  | begins {i : ℕ} {q : Request} {past : Trace} {userId : Uuid} {key : String} :
      .start i q ∈ H → q.method = some m → Stores H past i userId key → Session env H m key
  | continues {t : String} {i : ℕ} {past : Trace} {userId : Uuid} {key : String} :
      Session env H m (TokenService.computeLookupKey env t) → .start i (.refresh t) ∈ H →
      Stores H past i userId key → Session env H m key

/-- Every access token carries the method with which its session began: the one that the session begins
with, and those of its refreshes. -/
structure KeepsMethod (env : Env) (H : Trace) : Prop where
  first : ∀ {h i q m claims x s s'}, Occurs H h (.stmt i (.encode claims) x s s') → .start i q ∈ h →
    q.method = some m → claims.authMethod = m
  refreshed : ∀ {h i t m claims x s s'}, Occurs H h (.stmt i (.encode claims) x s s') →
    .start i (.refresh t) ∈ h → Session env h m (TokenService.computeLookupKey env t) →
    claims.authMethod = m

/-- Whenever a refresh of an OAuth session signs claims, the owner of the presented token has no local
credential. -/
def PasswordlessOAuth (env : Env) (H : Trace) : Prop :=
  ∀ {h i t claims x s s'}, Occurs H h (.stmt i (.encode claims) x s s') →
    .start i (.refresh t) ∈ h → Session env h .oauth (TokenService.computeLookupKey env t) →
    ∀ row ∈ s.db.refreshTokens.rows, row.lookupKey = TokenService.computeLookupKey env t →
      ∀ credential ∈ s.db.localCredentials.rows, credential.userId ≠ row.userId

/-! ### What handlers do -/

/-- A refresh of `t` has looked up the token, its user and the user's local credential, and is going to
sign claims with the method `m`. -/
def Recomputed (env : Env) (t : String) (m : AuthMethod) (log : Log Op Ret) : Prop :=
  ∃ (record : RefreshTokenRow) (user : User) (credential : Option LocalCredential) (now : OffsetDateTime)
    (l : Log Op Ret),
    log = ⟨.now, now⟩ :: ⟨.sql (.selectLocalCredential user.id), .ok credential⟩ :: l ∧
    ⟨.sql (.selectUserById record.userId), .ok (some user)⟩ ∈ l ∧
    ⟨.sql (.selectRefreshToken (TokenService.computeLookupKey env t)), .ok (some record)⟩ ∈ l ∧
    m = if credential.isSome then .password else .oauth

/-- The log shows a local credential of the user. -/
def CredentialSeen (userId : Uuid) (log : Log Op Ret) : Prop :=
  (∃ credential, ⟨.sql (.selectLocalCredential userId), .ok (some credential)⟩ ∈ log) ∨
    ∃ id email name username hash user credential, user.id = userId ∧
      ⟨.sql (.insertAccount id email name username hash), .ok (user, credential)⟩ ∈ log

/-- Where the method of signed claims comes from, and that passwords belong to local credentials. -/
def Op.Methodical (env : Env) (q : Request) (log : Log Op Ret) : Op → Prop
  | .encode claims => (∀ m, q.method = some m → claims.authMethod = m) ∧
      ∀ t, q = .refresh t → Recomputed env t claims.authMethod log
  | .sql (.insertRefreshToken _ userId _ _ _) => q.method = some .password → CredentialSeen userId log
  | _ => True

theorem handle_methodical (q : Request) :
    SatE (handle env q) (fun log o => o.Methodical env q log) (fun _ _ => True) (fun _ _ => True) [] := by
  cases q with
  | register email username password =>
    simp [handle, Routes.register, AuthService.register, Op.Methodical, Request.method,
      TokenService.accessClaims]
    intro _ _ _ salt hash _ n user credential _ _ _ _ _ _ _ _ _ _
    exact Or.inr ⟨env.prim.uuidV7 n, email, localPart email, username, hash, user, credential, rfl,
      by simp⟩
  | login email password =>
    simp [handle, Routes.login, AuthService.login, Op.Methodical, Request.method,
      TokenService.accessClaims]
    intro user _ credential _ _ _ _ _ _ _ _ _ _ _
    exact Or.inl ⟨credential, by simp⟩
  | refresh t =>
    simp [handle, Routes.refresh, AuthService.refresh, Op.Methodical, Request.method,
      TokenService.accessClaims]
    intro record _ _ _ _ _ _ _ _ _ _ _ _ _ user _
    exact ⟨fun now _ => ⟨record, user, none, now, _, rfl, by simp, by simp, rfl⟩,
      fun credential now _ => ⟨record, user, some credential, now, _, rfl, by simp, by simp, rfl⟩⟩
  | oauthLogin profile =>
    simp [handle, Routes.oauthLogin, AuthService.loginOrRegisterOAuth, Op.Methodical, Request.method,
      TokenService.accessClaims]
  | logout | listConnections | unlinkConnection | getMe | changePassword | deactivateAccount
  | updateUserRole =>
    simp [handle, Routes.logout, Routes.listConnections, Routes.unlinkConnection, Routes.getMe,
      Routes.changePassword, Routes.deactivateAccount, Routes.updateUserRole, AuthService.logout,
      AdminService.updateUserRole, Op.Methodical]

/-! ### Sessions in runs -/

section Runs

variable {s₀ : State} {c : Pool Op Ret Request (Except AppError Response) State}
  (hc : (service env).Reachable s₀ c)

include hc

/-- A local credential that a request has seen stays in the database. -/
theorem CredentialSeen.row {userId : Uuid} {i : ℕ} {h : Trace} (hh : h <:+ c.history)
    (hseen : CredentialSeen userId (localLog i h)) :
    ∃ credential ∈ c.state.db.localCredentials.rows, credential.userId = userId := by
  have hstay : ∀ {o : Op} {r : Ret o} {s s' : State} {credential : LocalCredential},
      .stmt i o r s s' ∈ h → credential ∈ s'.db.localCredentials.rows → credential.userId = userId →
      ∃ credential ∈ c.state.db.localCredentials.rows, credential.userId = userId := by
    intro o r s s' credential hm hcred hid
    obtain ⟨credential', hcred', hid', -⟩ :=
      (service_le_state hc (hh.subset hm)).localCredentials credential hcred
    exact ⟨credential', hcred', hid'.trans hid⟩
  rcases hseen with ⟨credential, hm⟩ | ⟨id, email, name, username, hash, user, credential, hid, hm⟩
  · obtain ⟨s, s', hm⟩ := exists_stmt_of_mem_localLog hm
    obtain ⟨rfl, hsome, -⟩ := selectLocalCredential_row (service_stmt hc (hh.subset hm))
    obtain ⟨hcred, hid⟩ := hsome credential rfl
    exact hstay hm hcred hid
  · obtain ⟨s, s', hm⟩ := exists_stmt_of_mem_localLog hm
    obtain ⟨-, hcred, huser⟩ := insertAccount_row (service_stmt hc (hh.subset hm))
    exact hstay hm hcred (huser.trans hid)

/-- **Password sessions belong to users with a local credential.** -/
theorem Session.credential {key : String} (hsession : Session env c.history .password key) :
    ∃ i h userId, Stores c.history h i userId key ∧
      ∃ credential ∈ c.state.db.localCredentials.rows, credential.userId = userId := by
  induction hsession with
  | @begins i q past userId key hq hm hs =>
    refine ⟨i, past, userId, hs, ?_⟩
    obtain ⟨id, hash, exp, s, s', he⟩ := hs
    exact CredentialSeen.row hc he.past (service_at_stmt handle_methodical hc hq he hm)
  | @continues t i past userId key _ hq hs ih =>
    obtain ⟨i₀, h₀, userId₀, hs₀, hcred⟩ := ih
    refine ⟨i, past, userId, hs, ?_⟩
    obtain ⟨id, hash, exp, s, s', he⟩ := hs
    obtain ⟨⟨record, hrec, rfl⟩, -⟩ := (service_at_stmt handle_rotated hc hq he t rfl).2 _ _ _ _ _ rfl
    obtain ⟨ps, t₁, t₁', hes⟩ := hrec.lookup
    rw [owner_of_lookup hc hs₀ (he.trans hes)]
    exact hcred

/-- **What a refresh signs.**  The method is `password` when the owner of the presented token has a local
credential, else `oauth`. -/
theorem method_of_refresh {h : Trace} {i : ℕ} {t : String} {claims : Claims}
    {x : Except JwtError String} {s s' : State}
    (he : Occurs c.history h (.stmt i (.encode claims) x s s')) (hq : .start i (.refresh t) ∈ h) :
    ∃ row ∈ s.db.refreshTokens.rows, row.lookupKey = TokenService.computeLookupKey env t ∧
      claims.authMethod = if ∃ credential ∈ s.db.localCredentials.rows, credential.userId = row.userId
        then .password else .oauth := by
  obtain ⟨-, hrec⟩ := service_at_stmt handle_methodical hc (he.past.subset hq) he
  obtain ⟨record, user, credential, now, l, hlog, huser, hlookup, hm⟩ := hrec t rfl
  obtain ⟨past, s₂, s₂', he₂, rfl⟩ :=
    exists_occurs_of_suffix (i := i) (H := h) (hlog ▸ List.suffix_cons _ _)
  obtain ⟨pu, s₁, s₁', he₁⟩ := stmt_of_log huser
  obtain ⟨pt, s₃, s₃', he₃⟩ := stmt_of_log hlookup
  obtain ⟨rfl, hmem, hid⟩ := selectUserById_row (service_stmt hc (he.trans (he₂.trans he₁)).mem)
  obtain ⟨rfl, hsome, hnone⟩ := selectLocalCredential_row (service_stmt hc (he.trans he₂).mem)
  obtain ⟨rfl, row, hrow, hkey, rfl⟩ :=
    selectRefreshToken_row (service_stmt hc (he.trans (he₂.trans he₃)).mem)
  have hle := service_le hc he he₂.mem
  obtain ⟨user₂, hmem₂, hid₂, -⟩ := (service_le hc (he.trans he₂) he₁.mem).users user hmem
  obtain ⟨row', hrow', heq, -⟩ := (service_le hc he (he₂.trans he₃).mem).refreshTokens row hrow
  have howner : row'.userId = user.id := by
    rw [heq, hid]
    rfl
  refine ⟨row', hrow', by rw [heq, ← hkey], ?_⟩
  rw [hm, howner]
  cases credential with
  | none =>
    -- A credential that is there now would have been there when it was searched for.
    refine (if_neg ?_).symm
    rintro ⟨c', hc', hid'⟩
    obtain ⟨c₂, hc₂, hid₂'⟩ :=
      hle.localCredentials_old user₂ hmem₂ c' hc' (hid'.trans hid₂.symm)
    exact hnone rfl c₂ hc₂ (hid₂'.trans hid₂)
  | some c₂ =>
    obtain ⟨hc₂, hid₂'⟩ := hsome c₂ rfl
    obtain ⟨c', hc', hid', -⟩ := hle.localCredentials c₂ hc₂
    exact (if_pos ⟨c', hc', hid'.trans hid₂'⟩).symm

end Runs

/-- **Which sessions keep their method.**  In a run every access token carries the method with which its
session began if and only if no refresh of an OAuth session signs for a user with a local credential. -/
theorem keeps_method_iff {s₀ : State} {c : Pool Op Ret Request (Except AppError Response) State}
    (hc : (service env).Reachable s₀ c) :
    KeepsMethod env c.history ↔ PasswordlessOAuth env c.history := by
  constructor
  · intro hkeeps h i t claims x s s' he hq hsession row hrow hkey credential hcred hid
    obtain ⟨row', hrow', hkey', hm⟩ := method_of_refresh hc he hq
    obtain rfl := Db.refreshToken_unique hrow hrow' (hkey.trans hkey'.symm)
    rw [hkeeps.refreshed he hq hsession, if_pos ⟨credential, hcred, hid⟩] at hm
    cases hm
  · intro hcond
    constructor
    · intro h i q m claims x s s' he hq hm
      exact (service_at_stmt handle_methodical hc (he.past.subset hq) he).1 m hm
    · intro h i t m claims x s s' he hq hsession
      obtain ⟨row, hrow, hkey, hm⟩ := method_of_refresh hc he hq
      cases m with
      | oauth =>
        rw [hm, if_neg]
        rintro ⟨credential, hcred, hid⟩
        exact hcond he hq hsession row hrow hkey credential hcred hid
      | password =>
        obtain ⟨c₀, -, hc₀, rfl, rfl, -⟩ := hc.past he
        obtain ⟨i₀, h₀, userId, hs, credential, hcred, hid⟩ := Session.credential hc₀ hsession
        obtain ⟨row', hrow', hkey', hid'⟩ := hs.row hc₀
        obtain rfl := Db.refreshToken_unique hrow hrow' (hkey.trans hkey'.symm)
        rw [hm, if_pos ⟨credential, hcred, hid.trans hid'.symm⟩]

/-- Carol, who has no password, logs in with a provider and refreshes. -/
theorem keeps_method_of_carol :
    ∃ c, (service demo).Reachable (State.fresh 0) c ∧ (answer 1 c.history).isSome = true ∧
      KeepsMethod demo c.history := by
  obtain ⟨c, hc, hobs⟩ := exists_run demo (.fresh 0)
    ([.start (.oauthLogin carolProfile)] ++ goes 0 14 ++ [.start (.refresh (tally 2))] ++ goes 1 12)
    (fun c => ((answer 1 c.history).isSome, c.state.db.localCredentials.rows)) (true, [])
    (by decide +kernel)
  obtain ⟨hanswer, hnone⟩ := Prod.mk.inj hobs
  refine ⟨c, hc, hanswer, (keeps_method_iff hc).2 ?_⟩
  intro h i t claims x s s' he _ _ _ _ _ credential hcred
  obtain ⟨credential', hcred', -⟩ :=
    ((service_stmt hc he.mem).le.trans (service_le_state hc he.mem)).localCredentials credential hcred
  rw [hnone] at hcred'
  cases hcred'

/-- The past of the statement by which request `i` signs claims with the method `m`. -/
def findSigned (i : ℕ) (m : AuthMethod) : Trace → Option Trace := findPast fun
  | .stmt j (.encode claims) _ _ _ => decide (j = i ∧ claims.authMethod = m)
  | _ => false

theorem occurs_of_findSigned {i : ℕ} {m : AuthMethod} {H h : Trace} (hf : findSigned i m H = some h) :
    ∃ claims x s s', Occurs H h (.stmt i (.encode claims) x s s') ∧ claims.authMethod = m := by
  obtain ⟨e, he, hocc⟩ := occurs_of_findPast hf
  split at he
  · obtain ⟨rfl, hm⟩ := of_decide_eq_true he
    exact ⟨_, _, _, _, hocc, hm⟩
  · cases he

/-- Alice, who has a password, logs in with a provider that knows her email address, and refreshes: her
OAuth session turns into a password session. -/
theorem merged_session :
    ∃ c, (service demo).Reachable (State.fresh 0) c ∧ ¬ KeepsMethod demo c.history := by
  obtain ⟨c, hc, hobs⟩ := exists_run demo (.fresh 0)
    ([.start registerAlice] ++ goes 0 10 ++
      [.start (.oauthLogin { carolProfile with email := "alice@example.com" })] ++ goes 1 12 ++
      [.start (.refresh (tally 6))] ++ goes 2 12)
    (fun c => (findSigned 2 .password c.history).map fun h => (asked 1 h, asked 2 h,
      (findStores 1 1 (TokenService.computeLookupKey demo (tally 6)) h).isSome))
    (some (some (.oauthLogin { carolProfile with email := "alice@example.com" }),
      some (.refresh (tally 6)), true)) (by decide +kernel)
  obtain ⟨h, hsigned, hobs⟩ := Option.map_eq_some_iff.1 hobs
  simp only [Prod.mk.injEq, Option.isSome_iff_exists] at hobs
  obtain ⟨h₁, h₂, past, hstores⟩ := hobs
  refine ⟨c, hc, fun hkeeps => ?_⟩
  obtain ⟨claims, x, s, s', he, hm⟩ := occurs_of_findSigned hsigned
  have hoauth := hkeeps.refreshed he (start_mem_of_asked h₂)
    (.begins (start_mem_of_asked h₁) rfl (stores_of_findStores hstores))
  rw [hm] at hoauth
  cases hoauth

end Socle
