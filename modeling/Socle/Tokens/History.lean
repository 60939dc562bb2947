import Socle.Tokens.Effects

/-!
# Histories of sessions

What the history of requests, served one after the other, says of refresh tokens, and that the rows of
`refresh_tokens` can agree with it.

* `Issued`, `Revoked`: what the history of requests says of a refresh token;
* `Consistent`: the rows of `refresh_tokens` agree with the history;
* `Consistent.step`: one request, whose effect on the rows is what the history prescribes.
-/

namespace Socle

open Interaction Prog

variable {env : Env} {H : List Entry} {s s' : State}

/-! ### What the history says -/

/-- The latest reading of the clock. -/
def lastReading : Log Op Ret → Option OffsetDateTime
  | [] => none
  | ⟨.now, t⟩ :: _ => some t
  | _ :: log => lastReading log

/-- The first reading of the clock. -/
def firstReading (log : Log Op Ret) : Option OffsetDateTime := lastReading log.reverse

/-- The reading of the clock from which the expiry of a new refresh token is computed. -/
def issueTime : Log Op Ret → Option OffsetDateTime
  | [] => none
  | ⟨.sql (.insertRefreshToken _ _ _ _ _), _⟩ :: log => lastReading log
  | _ :: log => issueTime log

/-- `refresh_token_expiry_secs`, in microseconds. -/
def statedLifetime (env : Env) : ℤ := env.config.refreshTokenExpirySecs.toNat * 1000000

namespace Entry

def Succeeds (e : Entry) : Prop := ∃ a, e.outcome = .ok a

/-- The request has been answered with the refresh token `t`, issued to `u` at the time `t₀`. -/
def Issues (e : Entry) (t : String) (u : Uuid) (t₀ : OffsetDateTime) : Prop :=
  ∃ a, e.outcome = .ok (.auth a) ∧ a.refreshToken = t ∧ a.user.id = u ∧ issueTime e.log = some t₀

/-- A successful logout, password change or deactivation of `u`. -/
def SignsOut (e : Entry) (u : Uuid) : Prop :=
  e.request.revokes = true ∧ e.Succeeds ∧
    ∃ token claims, ⟨.decode token, .ok claims⟩ ∈ e.log ∧ claims.sub = u

end Entry

/-- The refresh token `t` has been issued to `u` at the time `t₀`. -/
def Issued (H : List Entry) (t : String) (u : Uuid) (t₀ : OffsetDateTime) : Prop :=
  ∃ e ∈ H, e.Issues t u t₀

/-- The clock, when the request reads it first, is past the lifetime of a token issued at `t₀`. -/
def Late (env : Env) (log : Log Op Ret) (t₀ : OffsetDateTime) : Prop :=
  ∃ now, firstReading log = some now ∧ t₀ + statedLifetime env < now

/-- The request ends the sessions of `u`: it signs `u` out, or it presents a revoked or expired refresh
token of `u`. -/
def Entry.Ends (env : Env) (H : List Entry) (revoked : String → Prop) (e : Entry) (u : Uuid) : Prop :=
  e.SignsOut u ∨ ∃ t t₀, e.request = .refresh t ∧ Issued H t u t₀ ∧ (revoked t ∨ Late env e.log t₀)

/-- The refresh token `t` has been refreshed, or the sessions of its user have been ended since it was
issued. -/
def Revoked (env : Env) : List Entry → String → Prop
  | [], _ => False
  | e :: H, t => Revoked env H t ∨ (e.request = .refresh t ∧ e.Succeeds) ∨
      ∃ u t₀, Issued H t u t₀ ∧ e.Ends env H (Revoked env H) u

/-! ### What the rows say -/

/-- The rows of `refresh_tokens` are the issued tokens, revoked as the history says, and the users of
live tokens are active. -/
structure Consistent (env : Env) (H : List Entry) (s : State) : Prop where
  issued : ∀ r ∈ s.db.refreshTokens.rows, ∃ t u t₀, Issued H t u t₀ ∧ IsToken env t u t₀ r
  row : ∀ {t u t₀}, Issued H t u t₀ → ∃ r ∈ s.db.refreshTokens.rows, IsToken env t u t₀ r ∧
    (r.revoked = true ↔ Revoked env H t)
  revoked_issued : ∀ {t}, Revoked env H t → ∃ u t₀, Issued H t u t₀
  active : ∀ r ∈ s.db.refreshTokens.rows, r.revoked = false →
    ∃ u ∈ s.db.users.rows, u.id = r.userId ∧ u.isActive = true

theorem IsToken.unique (hx : env.prim.Exact) {t t' : String} {u u' : Uuid} {t₀ t₁ : OffsetDateTime}
    {r : RefreshToken} (h : IsToken env t u t₀ r) (h' : IsToken env t' u' t₁ r) :
    t = t' ∧ u = u' ∧ t₀ = t₁ := by
  refine ⟨hx.hmac_injective _ (h.lookupKey.symm.trans h'.lookupKey), h.userId.symm.trans h'.userId, ?_⟩
  have hexp := h.expiresAt.symm.trans h'.expiresAt
  exact (Int.add_left_inj _).1 hexp

section Consistent

variable {t : String} {u u' : Uuid} {t₀ t₁ : OffsetDateTime}

/-- The row of an issued token. -/
theorem Consistent.row_of_key (hx : env.prim.Exact) (hs : Consistent env H s) {r : RefreshToken}
    (hr : r ∈ s.db.refreshTokens.rows) (hkey : r.lookupKey = TokenService.computeLookupKey env t) :
    ∃ u t₀, Issued H t u t₀ ∧ IsToken env t u t₀ r ∧ (r.revoked = true ↔ Revoked env H t) := by
  obtain ⟨t', u, t₀, hissued, htoken⟩ := hs.issued r hr
  obtain rfl : t' = t := hx.hmac_injective _ (htoken.lookupKey.symm.trans hkey)
  obtain ⟨r', hr', htoken', hrev⟩ := hs.row hissued
  obtain rfl := Db.refreshToken_unique hr hr' (htoken.lookupKey.trans htoken'.lookupKey.symm)
  exact ⟨u, t₀, hissued, htoken, hrev⟩

/-- A token is issued once. -/
theorem Consistent.unique (hx : env.prim.Exact) (hs : Consistent env H s) (h : Issued H t u t₀)
    (h' : Issued H t u' t₁) : u = u' ∧ t₀ = t₁ := by
  obtain ⟨r, hr, htoken, -⟩ := hs.row h
  obtain ⟨r', hr', htoken', -⟩ := hs.row h'
  obtain rfl := Db.refreshToken_unique hr hr' (htoken.lookupKey.trans htoken'.lookupKey.symm)
  exact (htoken.unique hx htoken').2

end Consistent

/-- **One request.**  Rows are revoked or added as the history prescribes. -/
theorem Consistent.step (hx : env.prim.Exact) (hs : Consistent env H s) {e : Entry}
    (P : RefreshToken → Prop) [DecidablePred P] (new : List RefreshToken)
    (hrows : s'.db.refreshTokens.rows = s.db.refreshTokens.rows.map (revokeIf P) ++ new)
    (hissues : ∀ {t u t₀}, e.Issues t u t₀ → ∃ r ∈ new, IsToken env t u t₀ r)
    (hnew : ∀ r ∈ new, r.revoked = false ∧
      (∀ r' ∈ s.db.refreshTokens.rows, r'.lookupKey ≠ r.lookupKey) ∧
      ∃ t u t₀, e.Issues t u t₀ ∧ IsToken env t u t₀ r)
    (hrefreshed : ∀ {t}, e.request = .refresh t → e.Succeeds → ∃ u t₀, Issued H t u t₀)
    (hP : ∀ r ∈ s.db.refreshTokens.rows, r.revoked = false → ∀ {t u t₀}, Issued H t u t₀ →
      IsToken env t u t₀ r →
      (P r ↔ (e.request = .refresh t ∧ e.Succeeds) ∨ e.Ends env H (Revoked env H) u))
    (hactive : ∀ r ∈ s'.db.refreshTokens.rows, r.revoked = false →
      ∃ u ∈ s'.db.users.rows, u.id = r.userId ∧ u.isActive = true) :
    Consistent env (e :: H) s' := by
  have hnot_issued : ∀ {t u t₀}, e.Issues t u t₀ → ∀ {u' t₁}, ¬ Issued H t u' t₁ := by
    intro t u t₀ hissue u' t₁ hold
    obtain ⟨r, hr, htoken⟩ := hissues hissue
    obtain ⟨r', hr', htoken', -⟩ := hs.row hold
    exact (hnew r hr).2.1 r' hr' (htoken'.lookupKey.trans htoken.lookupKey.symm)
  have hrevoked_issued : ∀ {t}, Revoked env (e :: H) t → ∃ u t₀, Issued H t u t₀ := by
    rintro t (h | ⟨hreq, hsucc⟩ | ⟨u, t₀, hissued, -⟩)
    · exact hs.revoked_issued h
    · exact hrefreshed hreq hsucc
    · exact ⟨u, t₀, hissued⟩
  have hold : ∀ r ∈ s.db.refreshTokens.rows, revokeIf P r ∈ s'.db.refreshTokens.rows := by
    intro r hr
    rw [hrows]
    exact List.mem_append_left _ (List.mem_map_of_mem hr)
  constructor
  · intro r hr
    rw [hrows] at hr
    rcases List.mem_append.1 hr with hr | hr
    · obtain ⟨r₀, hr₀, rfl⟩ := List.mem_map.1 hr
      obtain ⟨t, u, t₀, ⟨e', he', hissue⟩, htoken⟩ := hs.issued r₀ hr₀
      exact ⟨t, u, t₀, ⟨e', List.mem_cons_of_mem _ he', hissue⟩, htoken.revokeIf P⟩
    · obtain ⟨-, -, t, u, t₀, hissue, htoken⟩ := hnew r hr
      exact ⟨t, u, t₀, ⟨e, List.mem_cons_self, hissue⟩, htoken⟩
  · rintro t u t₀ ⟨e', he', hissue⟩
    rcases List.mem_cons.1 he' with rfl | he'
    · obtain ⟨r, hr, htoken⟩ := hissues hissue
      refine ⟨r, by rw [hrows]; exact List.mem_append_right _ hr, htoken, ?_⟩
      rw [(hnew r hr).1]
      refine ⟨fun h => (Bool.false_ne_true h).elim, fun h => ?_⟩
      obtain ⟨u', t₁, hold⟩ := hrevoked_issued h
      exact (hnot_issued hissue hold).elim
    · have hissued : Issued H t u t₀ := ⟨e', he', hissue⟩
      obtain ⟨r, hr, htoken, hrev⟩ := hs.row hissued
      refine ⟨revokeIf P r, hold r hr, htoken.revokeIf P, ?_⟩
      have hends : (∃ u' t₁, Issued H t u' t₁ ∧ e.Ends env H (Revoked env H) u') ↔
          e.Ends env H (Revoked env H) u := by
        constructor
        · rintro ⟨u', t₁, hissued', hends⟩
          rw [(hs.unique hx hissued hissued').1]
          exact hends
        · exact fun hends => ⟨u, t₀, hissued, hends⟩
      rw [Revoked, hends, ← hrev]
      cases hlive : r.revoked with
      | true =>
        refine iff_of_true ?_ (Or.inl rfl)
        unfold revokeIf
        split
        · rfl
        · exact hlive
      | false =>
        rw [← hP r hr hlive hissued htoken]
        unfold revokeIf
        split
        · next hp => simp [hp]
        · next hp => simp [hp, hlive]
  · intro t h
    obtain ⟨u, t₀, e', he', hissue⟩ := hrevoked_issued h
    exact ⟨u, t₀, e', List.mem_cons_of_mem _ he', hissue⟩
  · exact hactive

end Socle
