import Socle.Access.Provenance
import Socle.Flow.SingleUse
import Socle.Tokens.Revocation

/-!
# Deactivated accounts

What can still be done on behalf of a user once a request has deactivated the account.

* `Deactivated`: the request that has deactivated the account has returned;
* `ActsFor`: what it means to act on behalf of a user;
* `Outstanding`: what is still usable, a token or a code of a request that started before;
* `signed_origin`, `accepted`: where accepted access tokens come from;
* `Deactivated.not_signed`: no later request signs an access token for the user;
* `still_acting`: an outstanding token and an outstanding code are still accepted;
* `deactivated_outstanding`: nothing else is.
-/

namespace Socle

open Interaction Prog Valkey

/-- The role that a handler behind `RequireUser` or `RequireAdmin` requires. -/
def Request.guard : Request → Option Role
  | .listConnections _ | .unlinkConnection _ _ | .getMe _ | .changePassword _ _ _
  | .deactivateAccount _ => some .user
  | .updateUserRole _ _ _ => some .admin
  | _ => none

/-- A request that deactivates the account of `u` has returned, after `hd`. -/
structure Deactivated (H hd : WebTrace) (d : ℕ) (u : Uuid) : Prop where
  request : ∃ headers authorization direct,
    .start d (.api headers (.deactivateAccount authorization) direct) ∈ H
  caller : ∃ token claims, ⟨.app (.decode token), .ok claims⟩ ∈ localLog d hd ∧ claims.sub = u
  done : ∃ x, Occurs H hd (.done d (.ok x))

/-- Request `j` starts after request `d` has returned behind `hd`. -/
def StartsAfter (H hd : WebTrace) (d j : ℕ) : Prop :=
  ∃ p q x, Occurs H p (.start j q) ∧ Occurs p hd (.done d x)

/-- Request `j` acts on behalf of `u`. -/
inductive ActsFor (env : WebEnv) (H : WebTrace) (u : Uuid) (j : ℕ) : Prop
  /-- It returns tokens for `u`. -/
  | tokens {auth : AuthResponse} (hdone : .done j (.ok (.api (.auth auth))) ∈ H) (hu : auth.user.id = u)
  /-- It stores tokens for `u` under an exchange code. -/
  | login {p : WebTrace} {code : String} {seconds : ℤ} {auth : AuthResponse} {s : WebState}
    (hstored : IsStored H p j (StateStore.exchangeKey code) (env.authToJson auth) seconds s)
    (hu : auth.user.id = u)
  /-- Its handler executes with the claims of an access token of `u`. -/
  | handler {h : WebTrace} {headers : ForwardedHeaders} {q : Request} {direct : q.isOAuthLogin = false}
    {role : Role} {token : String} {claims : Claims} {s s' : WebState}
    (hq : .start j (.api headers q direct) ∈ H) (hguard : q.guard = some role)
    (he : Occurs H h (.stmt j (.app (.decode token)) (.ok claims) s s'))
    (hrole : claims.role.isAtLeast role = true) (hu : claims.sub = u)

/-- Request `j` presents what requests that started before the end of `hd` have obtained for `u`. -/
inductive Outstanding (env : WebEnv) (H hd : WebTrace) (u : Uuid) (j : ℕ) : Prop
  /-- An access token that has not expired. -/
  | token {h p : WebTrace} {headers : ForwardedHeaders} {q : Request} {direct : q.isOAuthLogin = false}
    {i : ℕ} {q' : WebRequest} {claims : Claims} {x : Except JwtError String} {s t t' : WebState}
    (hq : .start j (.api headers q direct) ∈ H) (hguard : q.guard.isSome = true)
    (hcheck : ∃ y s', Occurs H h (.stmt j (.app (.decode (env.app.prim.jwtEncode env.app.config.jwtSecret
      claims))) y s s'))
    (hsigned : Occurs h p (.stmt i (.app (.encode claims)) x t t')) (hi : .start i q' ∈ hd)
    (hu : claims.sub = u) (hexp : s.app.unixNow ≤ claims.exp + leeway)
  /-- An exchange code that is at most two minutes old. -/
  | code {h p : WebTrace} {headers : ForwardedHeaders} {code : String} {i : ℕ} {q' : WebRequest}
    {auth : AuthResponse} {s t : WebState} (hq : .start j (.session headers code) ∈ H)
    (htaken : IsTaken H h j (StateStore.exchangeKey code) (some (env.authToJson auth)) s)
    (hstored : Exchanged env h p i code auth t) (hi : .start i q' ∈ hd) (hu : auth.user.id = u)
    (htime : s.app.clock ≤ t.app.clock + StateStore.exchangeTtlSecs * 1000000)

/-! ### What handlers do -/

/-- A request that returns tokens has signed an access token for the user that it returns. -/
theorem handle_issues {env : Env} (q : Request) :
    SatE (handle env q) (fun _ _ => True)
      (fun log a => ∀ b, a = .auth b → ∃ claims x, ⟨.encode claims, x⟩ ∈ log ∧ claims.sub = b.user.id)
      (fun _ _ => True) [] := by
  have hsub : ∀ (id : Uuid) (email name : String) (role : Role) (m : AuthMethod) (t : ℕ),
      (TokenService.accessClaims env id email name role m t).sub = id := fun _ _ _ _ _ _ => rfl
  have hid : ∀ view : UserView, (UserResponse.from view).id = view.user.id := fun _ => rfl
  cases q with
  | register email username password =>
    simp [handle, Routes.register, AuthService.register, hsub, hid]
  | login email password =>
    simp [handle, Routes.login, AuthService.login, hsub, hid]
  | refresh token =>
    simp [handle, Routes.refresh, AuthService.refresh, hsub, hid]
  | oauthLogin profile =>
    simp [handle, Routes.oauthLogin, AuthService.loginOrRegisterOAuth, hsub, hid]
  | logout | listConnections | unlinkConnection | getMe | changePassword | deactivateAccount
  | updateUserRole =>
    simp [handle, Routes.logout, Routes.listConnections, Routes.unlinkConnection, Routes.getMe,
      Routes.changePassword, Routes.deactivateAccount, Routes.updateUserRole, AuthService.logout,
      AdminService.updateUserRole]

/-- Only the owner of an accepted access token deactivates an account. -/
theorem handle_deactivates {env : Env} (q : Request) :
    SatE (handle env q) (fun log o => ∀ u, o = .sql (.deactivateUser u) →
      ∃ token claims, ⟨.decode token, .ok claims⟩ ∈ log ∧ claims.sub = u) (fun _ _ => True)
      (fun _ _ => True) [] := by
  cases q <;>
    simp [handle, Routes.register, Routes.login, Routes.refresh, Routes.logout, Routes.oauthLogin,
      Routes.listConnections, Routes.unlinkConnection, Routes.getMe, Routes.changePassword,
      Routes.deactivateAccount, Routes.updateUserRole, AuthService.register, AuthService.login,
      AuthService.refresh, AuthService.logout, AuthService.loginOrRegisterOAuth,
      AdminService.updateUserRole]

/-! ### Users -/

/-- The owner of every access token that has been signed is in the database. -/
def OwnersExist (s : WebState) : Prop :=
  ∀ claims ∈ s.app.minted, ∃ u ∈ s.app.db.users.rows, u.id = claims.sub

section Runs

variable {env : WebEnv} {clock : ℕ}
  {c : Pool WebOp WebRet WebRequest (Except WebError WebResponse) WebState} {h hd p : WebTrace}
  {d i j : ℕ} {u : Uuid} {s s' t t' : WebState} (hc : (web env).Reachable (.fresh clock) c)

include hc

/-- A request that signs an access token has read the active user for whom it signs. -/
theorem read_of_signed {claims : Claims} {x : Except JwtError String}
    (he : Occurs c.history h (.stmt i (.app (.encode claims)) x s s')) :
    ∃ o r t t' user, .stmt i (.app o) r t t' ∈ h ∧ returnedUser ⟨o, r⟩ = some user ∧
      user.id = claims.sub ∧ user ∈ t'.app.db.users.rows ∧ user.isActive = true := by
  obtain ⟨q, q₀, hq, -, -, user, m, now, rfl, -, ⟨o, r⟩, hx, hread, hactive⟩ :=
    served_stmt handle_privileged hc he (by simp)
  obtain ⟨t, t', hm⟩ := exists_stmt_of_mem_localLog (mem_appLog.1 hx)
  obtain ⟨hrow, hopened⟩ := returnedUser_row (web_stmt hc (he.past.subset hm)).app_eq.1 hread
  exact ⟨o, r, t, t', user, hm, hread, rfl, hrow, hactive.elim hopened id⟩

/-- **The owners of access tokens exist**, in every state of a run. -/
theorem owners_exist : OwnersExist c.state ∧
    ∀ {i o r s s'}, .stmt i o r s s' ∈ c.history → OwnersExist s ∧ OwnersExist s' := by
  refine hc.always (fun _ hm => by cases hm) ?_ ?_
  · rintro s s' ⟨t, -, rfl⟩ hinv
    exact hinv
  · intro h i o r s s' he hinv claims hm
    have hstmt := web_stmt hc he.mem
    have hold : claims ∈ s.app.minted → ∃ u ∈ s'.app.db.users.rows, u.id = claims.sub := by
      intro hm
      obtain ⟨u, hu, hid⟩ := hinv claims hm
      obtain ⟨u', hu', hid', -⟩ := hstmt.le.users u hu
      exact ⟨u', hu', hid'.trans hid⟩
    rcases hstmt.app_cases with happ | ⟨o', r', rfl, hr, happ⟩
    · rw [happ] at hm
      exact hold hm
    · obtain rfl := eq_of_heq hr
      rcases happ.minted with heq | ⟨claims', rfl, heq⟩
      · rw [heq] at hm
        exact hold hm
      · rw [heq] at hm
        rcases List.mem_cons.1 hm with rfl | hm
        · obtain ⟨o, r', t, t', user, hm, -, hid, hrow, -⟩ := read_of_signed hc he
          obtain ⟨u', hu', hid', -⟩ := ((web_ordered hc he hm).trans hstmt.le).users user hrow
          exact ⟨u', hu', hid'.trans hid⟩
        · exact hold hm

/-- **What has been signed was signed by a statement.** -/
theorem signed_origin : ∀ {h i o r s s'}, Occurs c.history h (.stmt i o r s s') → ∀ claims ∈ s.app.minted,
    ∃ p i x t t', Occurs h p (.stmt i (.app (.encode claims)) x t t') := by
  intro h i o r s s' he claims hm
  have horigin : System.Originates (fun s claims => claims ∈ s.app.minted)
      (fun o _ claims => o = .app (.encode claims)) h s :=
    (hc.origin (fun _ hm => by cases hm) ?_ ?_).2 he
  · obtain ⟨p, j, o, r, t, t', hocc, rfl⟩ := horigin claims hm
    exact ⟨p, j, r, t, t', hocc⟩
  · rintro s s' claims ⟨t, -, rfl⟩ hm
    exact hm
  · intro i o r s s' claims he hm
    rcases (web_stmt hc he).app_cases with happ | ⟨o', r', rfl, hr, happ⟩
    · rw [happ] at hm
      exact Or.inl hm
    · rcases happ.minted with heq | ⟨claims', rfl, heq⟩
      · rw [heq] at hm
        exact Or.inl hm
      · rw [heq] at hm
        rcases List.mem_cons.1 hm with rfl | hm
        · exact Or.inr rfl
        · exact Or.inl hm

/-- **An access token is accepted** only after it has been signed, for an existing user, and before it
expires. -/
theorem accepted {token : String} {claims : Claims}
    (he : Occurs c.history h (.stmt j (.app (.decode token)) (.ok claims) s s')) :
    token = env.app.prim.jwtEncode env.app.config.jwtSecret claims ∧
      s.app.unixNow ≤ claims.exp + leeway ∧ (∃ u ∈ s.app.db.users.rows, u.id = claims.sub) ∧
      ∃ p i x t t', Occurs h p (.stmt i (.app (.encode claims)) x t t') := by
  obtain ⟨hdec, -⟩ := (web_stmt hc he.mem).app_eq.1.decode_eq
  obtain ⟨hminted, htoken, hexp⟩ := decode_ok hdec.symm
  exact ⟨htoken.symm, hexp, ((owners_exist hc).2 he.mem).1 claims hminted,
    signed_origin hc he claims hminted⟩

/-! ### After the deactivation -/

/-- The statement that deactivates the account. -/
theorem Deactivated.stmt (hd' : Deactivated c.history hd d u) : ∃ p r s s',
    Occurs hd p (.stmt d (.app (.sql (.deactivateUser u))) (.ok r) s s') ∧
      ∃ v ∈ s.app.db.users.rows, v.id = u := by
  obtain ⟨headers, authorization, direct, hq⟩ := hd'.request
  obtain ⟨token, claims, hdec, rfl⟩ := hd'.caller
  obtain ⟨x, hdone⟩ := hd'.done
  obtain ⟨a, -, hlog⟩ := served_ok handle_revokes hc hq hdone
  obtain ⟨v, hlog⟩ := hlog rfl
  obtain rfl := hlog.caller (mem_appLog.2 hdec)
  obtain ⟨_, _, r, _, -, hlog⟩ := hlog
  have hmem : ⟨.sql (.deactivateUser claims.sub), .ok r⟩ ∈ appLog (localLog d hd) := by
    rw [hlog]
    exact List.mem_cons_of_mem _ List.mem_cons_self
  obtain ⟨s, s', hm⟩ := exists_stmt_of_mem_localLog (mem_appLog.1 hmem)
  obtain ⟨p, he⟩ := exists_occurs hm
  refine ⟨p, r, s, s', he, ?_⟩
  -- The token has been accepted before, so its owner is in the database.
  have he := he.of_suffix hdone.past
  obtain ⟨_, _, -, -, htoken⟩ := served_stmt handle_deactivates hc he (by simp)
  obtain ⟨token', claims', hdec', hsub⟩ := htoken _ rfl
  obtain ⟨t, t', hdec'⟩ := exists_stmt_of_mem_localLog (mem_appLog.1 hdec')
  obtain ⟨p', hocc⟩ := exists_occurs hdec'
  obtain ⟨-, -, ⟨w, hw, hwid⟩, -⟩ := accepted hc (he.trans hocc)
  obtain ⟨w', hw', hwid', -⟩ := ((web_stmt hc (he.past.subset hdec')).le.trans
    (web_ordered hc he hdec')).users w hw
  exact ⟨w', hw', by rw [hwid', hwid, hsub]⟩

/-- **A deactivated user stays inactive.** -/
theorem Deactivated.inactive (hd' : Deactivated c.history hd d u) {o : WebOp} {r : WebRet o}
    (he : Occurs c.history h (.stmt j o r s s')) (hafter : hd <:+ h) {user : User}
    (hrow : user ∈ s'.app.db.users.rows) (hid : user.id = u) : user.isActive = false := by
  obtain ⟨p, r', t, t', hdeact, v, hv, hvid⟩ := hd'.stmt hc
  have hmem := hafter.subset hdeact.mem
  obtain ⟨db, hq, happ⟩ := (web_stmt hc (he.past.subset hmem)).app_eq.1.sql_ok
  have hv' : { v with isActive := false, updatedAt := (t.app.clock : ℤ) } ∈ t'.app.db.users.rows := by
    rw [happ, (apply_ok hq).1]
    exact List.mem_map.2 ⟨v, hv, if_pos hvid⟩
  obtain ⟨w, hw, hwid, -, -, hwact⟩ :=
    ((web_ordered hc he hmem).trans (web_stmt hc he.mem).le).users _ hv'
  rw [Db.user_unique hrow hw (by rw [hid, hwid, ← hvid])]
  exact hwact rfl

/-- What a later request does, it does after the deactivation. -/
theorem after_done {x : Except WebError WebResponse} {q : WebRequest}
    (hj : Occurs c.history p (.start j q)) (hlater : Occurs p hd (.done d x)) {o : WebOp} {r : WebRet o}
    (he : Occurs c.history h (.stmt j o r s s')) : hd <:+ h :=
  (hlater.past.trans (hc.after_start hj he).past)

/-- **No later request signs an access token for the user.** -/
theorem Deactivated.not_signed (hd' : Deactivated c.history hd d u) {x : Except WebError WebResponse}
    {q : WebRequest} (hj : Occurs c.history p (.start j q)) (hlater : Occurs p hd (.done d x))
    {claims : Claims} {y : Except JwtError String}
    (he : Occurs c.history h (.stmt j (.app (.encode claims)) y s s')) : claims.sub ≠ u := by
  intro hsub
  obtain ⟨o, r, t, t', user, hm, -, hid, hrow, hactive⟩ := read_of_signed hc he
  obtain ⟨past, hread⟩ := exists_occurs (he.past.subset hm)
  have hinactive := hd'.inactive hc hread (after_done hc hj hlater hread) hrow (hid.trans hsub)
  rw [hinactive] at hactive
  cases hactive

/-- Who has signed for the user had started before. -/
theorem Deactivated.started_before (hd' : Deactivated c.history hd d u) {claims : Claims}
    {y : Except JwtError String} (he : Occurs c.history h (.stmt j (.app (.encode claims)) y s s'))
    (hsub : claims.sub = u) : ∃ q, .start j q ∈ hd := by
  obtain ⟨q, _, hq, -⟩ := served_stmt handle_privileged hc he (by simp)
  obtain ⟨p, hj⟩ := exists_occurs (he.past.subset hq)
  obtain ⟨x, hdone⟩ := hd'.done
  rcases hj.total hdone with ⟨heq, -⟩ | hlt | hlt
  · cases heq
  · exact absurd hsub (hd'.not_signed hc hj hlt he)
  · exact ⟨q, hlt.mem⟩

/-- A callback that stores a response has signed an access token for its user. -/
theorem signed_of_stored (hx : env.Exact) {code : String} {seconds : ℤ} {auth : AuthResponse}
    (hstored : IsStored c.history p j (StateStore.exchangeKey code) (env.authToJson auth) seconds s) :
    ∃ h claims y t t', Occurs p h (.stmt j (.app (.encode claims)) y t t') ∧
      claims.sub = auth.user.id := by
  obtain ⟨auth', hexchanged, hauth⟩ := exchanged_of_stored hc hstored
  obtain ⟨slug, params, hq⟩ := hexchanged.request
  obtain ⟨r, s', he⟩ := hstored
  obtain ⟨profile, auth'', n, l, -, hlog, hauth', hissues⟩ :=
    web_at_stmt hc (webHandle_served handle_issues) (he.past.subset hq) he slug params rfl
  obtain rfl : auth = auth'' := Option.some.inj (by rw [← hx.auth_json, hauth', hx.auth_json])
  obtain ⟨claims, y, hm, hsub⟩ := hissues auth rfl
  have hm : ⟨.encode claims, y⟩ ∈ appLog (localLog j p) := by
    rw [hlog]
    exact List.mem_cons_of_mem _ hm
  obtain ⟨t, t', hm⟩ := exists_stmt_of_mem_localLog (mem_appLog.1 hm)
  obtain ⟨h, hocc⟩ := exists_occurs hm
  exact ⟨h, claims, y, t, t', hocc, hsub⟩

/-- A request to the services that returns tokens has signed an access token for their user. -/
theorem signed_of_done {headers : ForwardedHeaders} {q : Request} {direct : q.isOAuthLogin = false}
    {auth : AuthResponse} (hq : .start j (.api headers q direct) ∈ c.history)
    (hdone : Occurs c.history p (.done j (.ok (.api (.auth auth))))) :
    ∃ h claims y t t', Occurs p h (.stmt j (.app (.encode claims)) y t t') ∧
      claims.sub = auth.user.id := by
  obtain ⟨a, ha, hissues⟩ := served_ok handle_issues hc hq hdone
  cases ha
  obtain ⟨claims, y, hm, hsub⟩ := hissues auth rfl
  obtain ⟨t, t', hm⟩ := exists_stmt_of_mem_localLog (mem_appLog.1 hm)
  obtain ⟨h, hocc⟩ := exists_occurs hm
  exact ⟨h, claims, y, t, t', hocc, hsub⟩

/-- **Only what was outstanding is still usable.**  Once a request has deactivated the account of `u`, no
later request logs in, refreshes or registers for `u`; what is still done on behalf of `u` is done with
an unexpired access token, or with an exchange code, of a request that had started before. -/
theorem deactivated_outstanding (hx : env.Exact) (hd' : Deactivated c.history hd d u)
    (hafter : StartsAfter c.history hd d j) (hacts : ActsFor env c.history u j) :
    Outstanding env c.history hd u j := by
  obtain ⟨p, q, x, hj, hlater⟩ := hafter
  cases hacts with
  | @tokens auth hdone hu =>
    obtain ⟨past, hdone⟩ := exists_occurs hdone
    rcases (web_at_ok hc webHandle_asks hj.mem hdone).api _ rfl with ⟨headers, q₀, direct, rfl⟩ |
      ⟨headers, code, rfl⟩
    · obtain ⟨h, claims, y, t, t', he, hsub⟩ := signed_of_done hc hj.mem hdone
      exact absurd (hsub.trans hu) (hd'.not_signed hc hj hlater (he.of_suffix hdone.past))
    · obtain ⟨h, s, i, p', auth', t, heq, htaken, hstored, htime⟩ := session_exchanged hc hx hj.mem hdone
      cases heq
      have htaken := htaken.of_suffix hdone.past
      obtain ⟨s', he⟩ := id htaken
      obtain ⟨r, t', hocc⟩ := hstored.stored
      have hocc := hocc.of_suffix he.past
      obtain ⟨h', claims, y, v, v', hsigned, hsub⟩ := signed_of_stored hc hx ⟨r, t', hocc⟩
      obtain ⟨q', hi⟩ := hd'.started_before hc (hsigned.of_suffix hocc.past) (hsub.trans hu)
      exact .code hj.mem htaken hstored hi hu htime
  | login hstored hu =>
    obtain ⟨h, claims, y, t, t', he, hsub⟩ := signed_of_stored hc hx hstored
    obtain ⟨r, s', hocc⟩ := hstored
    exact absurd (hsub.trans hu) (hd'.not_signed hc hj hlater (he.of_suffix hocc.past))
  | @handler h headers q₀ direct role token claims s s' hq hguard he hrole hu =>
    obtain ⟨rfl, hexp, -, p', i, y, t, t', hsigned⟩ := accepted hc he
    obtain ⟨q', hi⟩ := hd'.started_before hc (hsigned.of_suffix he.past) hu
    exact .token hq (by rw [hguard]; rfl) ⟨_, _, he⟩ hsigned hi hu hexp

end Runs

/-! ### A concrete account -/

/-- The event is the acceptance of an access token of `u` by request `j`. -/
def accepts (j : ℕ) (u : Uuid) : Event WebOp WebRet WebRequest (Except WebError WebResponse) WebState → Bool
  | .stmt i (.app (.decode _)) (.ok claims) _ _ => decide (i = j ∧ claims.sub = u ∧ claims.role = .user)
  | _ => false

theorem occurs_of_accepts {H h : WebTrace} {j : ℕ} {u : Uuid} (hf : findPast (accepts j u) H = some h) :
    ∃ token claims s s', Occurs H h (.stmt j (.app (.decode token)) (.ok claims) s s') ∧
      claims.sub = u ∧ claims.role = .user := by
  obtain ⟨e, he, hocc⟩ := occurs_of_findPast hf
  unfold accepts at he
  split at he
  · obtain ⟨rfl, hu, hrole⟩ := of_decide_eq_true he
    exact ⟨_, _, _, _, hocc, hu, hrole⟩
  · cases he

/-- The header of Carol, when she is the first to sign in through the web. -/
def carolHeader : Option String := some (authorization 2 "carol@example.com" "carol" .oauth)

/-- Carol signs in twice and redeems the first code only; she deactivates her account, and then asks for
her profile and redeems the second code. -/
def carolMoves : List (System.Move WebRequest) :=
  flow "carol@example.com" ++
    [.start (.authorize "google")] ++ System.goes 3 3 ++
    [.start (.callback "google" ⟨some "carol@example.com", some (tally 9), none, none⟩)] ++ System.goes 4 14 ++
    [.start (.api ⟨none, none⟩ (.deactivateAccount carolHeader) rfl)] ++ System.goes 5 3 ++
    [.start (.api ⟨none, none⟩ (.getMe carolHeader) rfl)] ++ System.goes 6 3 ++
    [.start (.session ⟨some "192.0.2.7", none⟩ (tally 13))] ++ System.goes 7 4

/-- The user for whom a session has been opened. -/
def sessionUser : Except WebError WebResponse → Option Uuid
  | .ok (.api (.auth a)) => some a.user.id
  | _ => none

/-- What Carol does after her account has been deactivated. -/
theorem carol_acts : ∃ c hd, (web demoWeb).Reachable (.fresh 0) c ∧ Deactivated c.history hd 5 2 ∧
    (StartsAfter c.history hd 5 6 ∧ ActsFor demoWeb c.history 2 6) ∧
    StartsAfter c.history hd 5 7 ∧ ActsFor demoWeb c.history 2 7 := by
  obtain ⟨c, hc, hobs⟩ := exists_web_run demoWeb trustingAnswers 0 carolMoves
    (fun c => (findPast (starts 7) c.history).bind fun p₇ => (findPast (starts 6) p₇).bind fun p₆ =>
      (findPast (succeeds 5) p₆).bind fun hd => (findPast (accepts 5 2) hd).bind fun _ =>
        (findPast (accepts 6 2) c.history).map fun _ =>
          (System.asked 5 c.history, System.asked 6 c.history, (System.outcome 7 c.history).bind sessionUser))
    (some (some (.api ⟨none, none⟩ (.deactivateAccount carolHeader) rfl),
      some (.api ⟨none, none⟩ (.getMe carolHeader) rfl), some 2))
    (by decide +kernel)
  obtain ⟨p₇, h₇, hobs⟩ := Option.bind_eq_some_iff.1 hobs
  obtain ⟨p₆, h₆, hobs⟩ := Option.bind_eq_some_iff.1 hobs
  obtain ⟨hd, h₅, hobs⟩ := Option.bind_eq_some_iff.1 hobs
  obtain ⟨ha, haccepts, hobs⟩ := Option.bind_eq_some_iff.1 hobs
  obtain ⟨hb, haccepts', hobs⟩ := Option.map_eq_some_iff.1 hobs
  simp only [Prod.mk.injEq] at hobs
  obtain ⟨hq, hq', hsession⟩ := hobs
  obtain ⟨q₇, hstart₇⟩ := occurs_of_starts h₇
  obtain ⟨q₆, hstart₆⟩ := occurs_of_starts h₆
  obtain ⟨x, hdone⟩ := occurs_of_succeeds h₅
  obtain ⟨token, claims, s, s', hdec, hsub, -⟩ := occurs_of_accepts haccepts
  obtain ⟨token', claims', t, t', hdec', hsub', hrole⟩ := occurs_of_accepts haccepts'
  refine ⟨c, hd, hc, ⟨⟨_, _, _, System.start_mem_of_asked hq⟩, ⟨token, claims, mem_localLog_of_stmt hdec.mem,
    hsub⟩, x, hstart₇.trans (hstart₆.trans hdone)⟩, ⟨⟨p₆, q₆, _, hstart₇.trans hstart₆, hdone⟩, ?_⟩,
    ⟨p₇, q₇, _, hstart₇, hstart₆.trans hdone⟩, ?_⟩
  · exact .handler (System.start_mem_of_asked hq') rfl hdec' (by rw [hrole]; rfl) hsub'
  · obtain ⟨y, hy, hid⟩ := Option.bind_eq_some_iff.1 hsession
    unfold sessionUser at hid
    split at hid
    · exact .tokens (System.done_mem_of_outcome hy) (Option.some.inj hid)
    · cases hid

/-- **A deactivated account can still do something.** -/
theorem still_acting : ¬ ∀ c hd d u j, (web demoWeb).Reachable (.fresh 0) c →
    Deactivated c.history hd d u → StartsAfter c.history hd d j → ¬ ActsFor demoWeb c.history u j := by
  intro hclaim
  obtain ⟨c, hd, hc, hdeactivated, ⟨hafter, hacts⟩, -⟩ := carol_acts
  exact hclaim c hd 5 2 6 hc hdeactivated hafter hacts

/-- What Carol uses was outstanding. -/
theorem deactivated_outstanding_of_carol : ∃ c hd, (web demoWeb).Reachable (.fresh 0) c ∧
    Deactivated c.history hd 5 2 ∧ Outstanding demoWeb c.history hd 2 6 ∧
    Outstanding demoWeb c.history hd 2 7 := by
  obtain ⟨c, hd, hc, hdeactivated, ⟨hafter, hacts⟩, hafter', hacts'⟩ := carol_acts
  exact ⟨c, hd, hc, hdeactivated, deactivated_outstanding hc demoWeb_exact hdeactivated hafter hacts,
    deactivated_outstanding hc demoWeb_exact hdeactivated hafter' hacts'⟩

end Socle
