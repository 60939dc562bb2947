import Socle.Demo
import Socle.Tokens.Completion
import Socle.Tokens.History

/-!
# Sessions

What refreshes do when requests are served one after the other and nothing fails.

* `ExactRefresh`: when a refresh succeeds, and what it does to the database;
* `Consistent.serve`: every request keeps the rows in agreement with the history;
* `exact_sessions`: all sequences of requests are served to their end and their refreshes are exact, for
  lifetimes below `2 ^ 63` seconds;
* `born_expired`: for a larger lifetime, a token that has just been issued is refused.
-/

namespace Socle

open Interaction Prog

variable {env : Env} {H : List Entry} {s s' : State}

/-- A refresh of `t` after the history `H` is exact. -/
structure ExactRefresh (env : Env) (H : List Entry) (s : State) (t : String) (log : Log Op Ret)
    (x : Except AppError Response) (s' : State) : Prop where
  /-- It succeeds for a token that has been issued, is not revoked and has not expired. -/
  succeeds_iff : (∃ a, x = .ok a) ↔ ∃ u t₀ now, Issued H t u t₀ ∧ ¬ Revoked env H t ∧
    firstReading log = some now ∧ now ≤ t₀ + statedLifetime env
  /-- On success the row of `t` becomes revoked and a live row of the same user is added. -/
  rotates : ∀ {u t₀}, Issued H t u t₀ → (∃ a, x = .ok a) → ∃ row ∈ s.db.refreshTokens.rows,
    IsToken env t u t₀ row ∧ ∃ t' t₁ new, (⟨.refresh t, log, x⟩ : Entry).Issues t' u t₁ ∧
    IsToken env t' u t₁ new ∧ new.revoked = false ∧
    s'.db.refreshTokens.rows =
      s.db.refreshTokens.rows.map (revokeIf fun r => r.id = row.id) ++ [new] ∧ OtherTables s.db s'.db
  /-- A string that was never issued is rejected, and nothing changes. -/
  unknown : (∀ u t₀, ¬ Issued H t u t₀) → x = .error .refreshTokenInvalid ∧ s'.db = s.db
  /-- A revoked or expired token is rejected, and all tokens of its user are revoked. -/
  replayed : ∀ {u t₀}, Issued H t u t₀ → Revoked env H t ∨ Late env log t₀ →
    x = .error .refreshTokenInvalid ∧
    (∀ r ∈ s'.db.refreshTokens.rows, r.userId = u → r.revoked = true) ∧
    s'.db.refreshTokens.rows = s.db.refreshTokens.rows.map
      (revokeIf fun r => r.userId = u ∧ r.revoked = false) ∧ OtherTables s.db s'.db
  not_disabled : x ≠ .error .accountDisabled

/-! ### Refreshes -/

/-- The row is revoked or, when the request reads the clock first, expired. -/
def Stale (log : Log Op Ret) (row : RefreshToken) : Prop :=
  row.revoked = true ∨ ∃ now, firstReading log = some now ∧ row.expiresAt < now

/-- What a refresh of `t` does. -/
inductive RefreshEffect (env : Env) (t : String) (s : State) (log : Log Op Ret)
    (x : Except AppError Response) (s' : State) : Prop
  | unknown (hx : x = .error .refreshTokenInvalid) (hdb : s'.db = s.db)
      (hnone : ∀ row ∈ s.db.refreshTokens.rows, row.lookupKey ≠ TokenService.computeLookupKey env t)
  | stale (row : RefreshToken) (hrow : row ∈ s.db.refreshTokens.rows)
      (hkey : row.lookupKey = TokenService.computeLookupKey env t)
      (hstale : Stale log row)
      (hx : x = .error .refreshTokenInvalid)
      (hrows : s'.db.refreshTokens.rows = s.db.refreshTokens.rows.map
        (revokeIf fun r => r.userId = row.userId ∧ r.revoked = false))
      (hothers : OtherTables s.db s'.db)
  | rotated (row : RefreshToken) (hrow : row ∈ s.db.refreshTokens.rows)
      (hkey : row.lookupKey = TokenService.computeLookupKey env t) (hlive : row.revoked = false)
      (now : OffsetDateTime) (hnow : firstReading log = some now) (hle : now ≤ row.expiresAt)
      (b : AuthResponse) (hx : x = .ok (.auth b)) (hid : b.user.id = row.userId)
      (t₁ : OffsetDateTime) (htime : issueTime log = some t₁) (new : RefreshToken)
      (hnew : IsToken env b.refreshToken row.userId t₁ new) (hnewlive : new.revoked = false)
      (hrows : s'.db.refreshTokens.rows =
        s.db.refreshTokens.rows.map (revokeIf fun r => r.id = row.id) ++ [new])
      (hfresh : ∀ r ∈ s.db.refreshTokens.rows, r.lookupKey ≠ new.lookupKey)
      (hothers : OtherTables s.db s'.db)

/-- A user that is searched for by its identifier. -/
theorem selectUser_traces {id : Uuid} {found : Option User}
    (h : Timed (Stmt env) (.sql (.selectUserById id)) s (.ok found) s') :
    s'.db = s.db ∧ found = s.db.findUser id := by
  obtain ⟨τ, hstmt⟩ := timed_stmt h
  obtain ⟨db, hq, rfl⟩ := hstmt.sql_ok
  obtain ⟨hfound, hdb⟩ := Prod.mk.inj (Except.ok.inj hq)
  exact ⟨hdb.symm, hfound.symm⟩

/-- **The effect of a refresh.**  Where the rows agree with the history, a refresh finds no token, finds
a stale one, or succeeds. -/
theorem RefreshLog.effect (hx : env.prim.Exact) (hlife : 0 ≤ TokenService.refreshLifetime env)
    (hs : Consistent env H s) (hdrawn : Drawn env s) {t : String} {log : Log Op Ret}
    {x : Except AppError Response} (hlog : RefreshLog env t log x)
    (hexec : Traces (Timed (Executed env)) log s s') : RefreshEffect env t s log x s' := by
  have h := hexec.mono timed_executed
  cases hlog with
  | unknown =>
    obtain ⟨hdb, hnone⟩ := lookup_none h
    exact .unknown rfl hdb hnone
  | revoked hrev =>
    obtain ⟨s₁, h₁, h₂⟩ := h
    obtain ⟨hdb₁, -, row, hrow, hkey, rfl⟩ := lookup_traces h₁
    obtain ⟨τ, hstmt⟩ := timed_stmt h₂
    obtain ⟨hrows, hothers⟩ := revokeUser_stmt hstmt
    simp only [hdb₁] at hrows hothers
    exact .stale row hrow hkey (Or.inl hrev) rfl hrows hothers
  | @expired record now r hrev hnow =>
    obtain ⟨s₂, ⟨s₁, h₁, h₂⟩, h₃⟩ := h
    obtain ⟨hdb₁, -, row, hrow, hkey, rfl⟩ := lookup_traces h₁
    have hdb₂ : s₂.db = s.db := (reads_db h₂ rfl).trans hdb₁
    obtain ⟨τ, hstmt⟩ := timed_stmt h₃
    obtain ⟨hrows, hothers⟩ := revokeUser_stmt hstmt
    simp only [hdb₂] at hrows hothers
    exact .stale row hrow hkey (Or.inr ⟨now, rfl, hnow⟩) rfl hrows hothers
  | @rotated record now now' r r' d user credential claims token b hrev hnow hd hraw hid =>
    obtain ⟨s₄, ⟨s₃, ⟨s₂, ⟨s₁, h₁, h₂⟩, h₃⟩, h₄⟩, h₅⟩ := h
    obtain ⟨row, hrow, hkey, rfl, new, hnew, hlive, hrows, hfresh, hothers⟩ := rotated_traces hx hd h₁
    obtain ⟨hdb₂, hfound⟩ := selectUser_traces h₂
    have hdb : s'.db = s₁.db :=
      (reads_db h₅ rfl).trans ((reads_db h₄ rfl).trans ((reads_db h₃ rfl).trans hdb₂))
    rw [← hdb] at hrows hothers
    exact .rotated row hrow hkey hrev now rfl hnow b rfl
      (hid.trans (Db.findUser_some hfound.symm).2) d.time rfl new (hraw ▸ hnew) hlive hrows hfresh hothers
  | mismatch hverify =>
    -- The hash of a stored token is verified by the token.
    obtain ⟨s₁, h₁, -⟩ := h
    obtain ⟨-, -, row, hrow, hkey, rfl⟩ := lookup_traces h₁
    obtain ⟨u, t₀, -, htoken, -⟩ := hs.row_of_key hx hrow hkey
    exact absurd htoken.verify hverify
  | refused hy =>
    obtain ⟨s₁, -, h₂⟩ := hexec
    exact absurd h₂ hy.not_timed
  | unstored hd =>
    rw [← List.cons_append] at hexec
    obtain ⟨s₁, hrotation, hcreation⟩ := traces_append.1 hexec
    obtain ⟨row, hrow, -, rfl, hrows, hothers, hdraws⟩ := rotation_traces (hrotation.mono timed_executed)
    refine absurd hcreation (Draft.not_unstored hx hd hlife
      (hdrawn.revoked (fun r => r.id = row.id) hrows hothers.1 hdraws) ?_)
    rw [hothers.1]
    exact s.db.refreshTokens_user row hrow
  | @unserved record now r r' d found x hrev hd hfound =>
    -- The owner of a live token is active.
    obtain ⟨s₁, h₁, h₂⟩ := h
    obtain ⟨row, hrow, -, rfl, -, -, -, -, -, hothers⟩ := rotated_traces hx hd h₁
    obtain ⟨u, hu, hid, hactive⟩ := hs.active row hrow hrev
    rw [← hothers.1] at hu
    obtain ⟨-, hfind⟩ := selectUser_traces h₂
    cases found with
    | none => exact absurd (decide_eq_true hid) (List.find?_eq_none.1 hfind.symm u hu)
    | some v =>
      obtain ⟨hv, hvid⟩ := Db.findUser_some hfind.symm
      have hinactive := hfound v rfl
      rw [Db.user_unique hv hu (hvid.trans hid.symm), hactive] at hinactive
      cases hinactive

/-- The effect of a request to refresh. -/
theorem refresh_effect (hx : env.prim.Exact)
    (hlife : TokenService.refreshLifetime env = statedLifetime env) (hs : Consistent env H s)
    (hdrawn : Drawn env s) {t : String} {log : Log Op Ret} {x : Except AppError Response}
    (hrun : Runs (Recorded (Timed (Executed env))) (handle env (.refresh t)).run (s, []) x (s', log)) :
    RefreshEffect env t s log x s' := by
  obtain ⟨hlog, htraces⟩ := hrun.traces (handle_refresh hx t)
  have hpos : 0 ≤ TokenService.refreshLifetime env := by
    rw [hlife, statedLifetime]
    exact Int.mul_nonneg (Int.natCast_nonneg _) (by decide)
  have hlog : RefreshLog env t log x := by
    cases x with
    | error e => exact hlog
    | ok a => exact hlog
  exact hlog.effect hx hpos hs hdrawn htraces

/-! ### One request -/

section Serve

variable {q : Request} {log : Log Op Ret} {x : Except AppError Response} {e : Entry}

/-- A request that changes no refresh token and deactivates no user. -/
theorem Consistent.quiet (hx : env.prim.Exact) (hs : Consistent env H s)
    (hrows : s'.db.refreshTokens.rows = s.db.refreshTokens.rows) (hactive : StayActive s.db s'.db)
    (hissues : ∀ {t u t₀}, ¬ e.Issues t u t₀)
    (hrefreshed : ∀ {t}, e.request = .refresh t → ¬ e.Succeeds)
    (hends : ∀ {t u t₀}, Issued H t u t₀ → ¬ e.Ends env H (Revoked env H) u) :
    Consistent env (e :: H) s' := by
  refine hs.step hx (fun _ => False) [] (by rw [map_revokeIf_false, hrows, List.append_nil])
    (fun h => (hissues h).elim) (by simp) (fun hreq h => (hrefreshed hreq h).elim) ?_ ?_
  · intro r _ _ t u t₀ hissued _
    refine ⟨False.elim, ?_⟩
    rintro (⟨hreq, hsucc⟩ | h)
    · exact hrefreshed hreq hsucc
    · exact hends hissued h
  · intro r hr hlive
    rw [hrows] at hr
    obtain ⟨u, hu, hid, hact⟩ := hs.active r hr hlive
    obtain ⟨u', hu', hid', hact'⟩ := hactive u hu hact
    exact ⟨u', hu', hid'.trans hid, hact'⟩

/-- Only revoking requests and refreshes end sessions. -/
theorem Entry.not_ends (hq : q.revokes = false) (hrefresh : ∀ t, q ≠ .refresh t)
    {revoked : String → Prop} {u : Uuid} : ¬ (⟨q, log, x⟩ : Entry).Ends env H revoked u := by
  rintro (⟨hrevokes, -⟩ | ⟨t, t₀, hreq, -⟩)
  · exact Bool.false_ne_true (hq.symm.trans hrevokes)
  · exact hrefresh t hreq

/-- A request that signs in adds the row of the token that it issues. -/
theorem Consistent.signIn (hx : env.prim.Exact) (hs : Consistent env H s) (hq : q.method.isSome = true)
    (hrun : Runs (Recorded (Timed (Executed env))) (handle env q).run (s, []) x (s', log)) :
    Consistent env (⟨q, log, x⟩ :: H) s' := by
  have hrefresh : ∀ t, q ≠ .refresh t := by
    rintro t rfl
    cases hq
  have hrevokes : q.revokes = false := by
    cases q with
    | logout | changePassword | deactivateAccount => cases hq
    | _ => rfl
  obtain ⟨hlog, hexec⟩ := hrun.traces (handle_signIn q hq)
  have htraces := hexec.mono timed_executed
  cases x with
  | error e =>
    obtain ⟨hrows, hactive⟩ := Quiet.traces hlog htraces
    exact hs.quiet hx hrows hactive (fun ⟨_, h, _⟩ => nomatch h) (fun hreq => (hrefresh _ hreq).elim)
      fun _ => Entry.not_ends hrevokes hrefresh
  | ok a =>
    obtain ⟨b, d, r, user, y, l, rfl, hraw, hid, hd, rfl, hquiet, hy, hread, hopen⟩ := hlog
    rw [← List.cons_append] at htraces
    obtain ⟨s₁, hbefore, hstored⟩ := traces_append.1 htraces
    obtain ⟨hrows₁, hactive₁⟩ := hquiet.traces hbefore
    obtain ⟨u, hu, huid, huact⟩ := hquiet.read hbefore hy hread hopen
    obtain ⟨row, hrow, hlive, hrows, hfresh, -, hothers⟩ := Draft.stored hx hd hstored
    rw [hrows₁] at hrows hfresh
    have hissues : ∀ {t u t₀},
        (⟨q, ⟨.sql (d.sql env user.id), .ok r⟩ :: (d.log ++ l), .ok (.auth b)⟩ : Entry).Issues t u t₀ ↔
          t = d.raw env ∧ u = user.id ∧ t₀ = d.time := by
      intro t u t₀
      constructor
      · rintro ⟨a, ha, rfl, rfl, htime⟩
        cases ha
        cases htime
        exact ⟨hraw, hid, rfl⟩
      · rintro ⟨rfl, rfl, rfl⟩
        exact ⟨b, rfl, hraw, hid, rfl⟩
    refine hs.step hx (fun _ => False) [row] (by rw [map_revokeIf_false, hrows]) ?_ ?_
      (fun hreq => (hrefresh _ hreq).elim) ?_ ?_
    · intro t u t₀ h
      obtain ⟨rfl, rfl, rfl⟩ := hissues.1 h
      exact ⟨row, List.mem_cons_self, hrow⟩
    · intro r' hr'
      rw [List.mem_singleton.1 hr']
      exact ⟨hlive, hfresh, _, _, _, hissues.2 ⟨rfl, rfl, rfl⟩, hrow⟩
    · intro r' _ _ t u t₀ _ _
      refine ⟨False.elim, ?_⟩
      rintro (⟨hreq, -⟩ | h)
      · exact hrefresh t hreq
      · exact Entry.not_ends hrevokes hrefresh h
    · intro r' hr' hlive'
      rw [hothers.1]
      rw [hrows] at hr'
      rcases List.mem_append.1 hr' with hr' | hr'
      · obtain ⟨v, hv, hvid, hvact⟩ := hs.active r' hr' hlive'
        obtain ⟨w, hw, hwid, hwact⟩ := hactive₁ v hv hvact
        exact ⟨w, hw, hwid.trans hvid, hwact⟩
      · rw [List.mem_singleton.1 hr', hrow.userId]
        exact ⟨u, hu, huid, huact⟩

/-- The live tokens of `u` have been revoked, and no other user has been deactivated. -/
def SignedOut (u : Uuid) (s s' : State) : Prop :=
  s'.db.refreshTokens.rows =
    s.db.refreshTokens.rows.map (revokeIf fun r => r.userId = u ∧ r.revoked = false) ∧
  ∀ v ∈ s.db.users.rows, v.id ≠ u → v.isActive = true →
    ∃ v' ∈ s'.db.users.rows, v'.id = v.id ∧ v'.isActive = true

/-- What a successful logout, password change or deactivation does. -/
theorem RevocationLog.signedOut {u : Uuid} (hlog : RevocationLog u q log)
    (h : Traces (Timed (Stmt env)) log s s') : SignedOut u s s' := by
  have hquiet : ∀ {l : Log Op Ret} {r : Unit}, Quiet l →
      Traces (Timed (Stmt env)) (⟨.sql (.revokeUserRefreshTokens u), .ok r⟩ :: l) s s' →
      SignedOut u s s' := by
    rintro l r hl ⟨s₁, h₁, h₂⟩
    obtain ⟨hrows₁, hactive⟩ := hl.traces h₁
    obtain ⟨τ, hstmt⟩ := timed_stmt h₂
    obtain ⟨hrows, hothers⟩ := revokeUser_stmt hstmt
    dsimp only at hrows hothers
    rw [hrows₁] at hrows
    refine ⟨hrows, fun v hv _ hact => ?_⟩
    rw [hothers.1]
    exact hactive v hv hact
  cases q with
  | logout authorization =>
    obtain ⟨token, claims, r, -, rfl⟩ := hlog
    exact hquiet (by simp) h
  | changePassword authorization current new =>
    obtain ⟨token, claims, cred, salt, hash, r, r', -, rfl⟩ := hlog
    exact hquiet (by simp) h
  | deactivateAccount authorization =>
    obtain ⟨token, claims, r, r', -, rfl⟩ := hlog
    obtain ⟨s₂, ⟨s₁, ⟨_, rfl, h₁⟩, h₂⟩, h₃⟩ := h
    have hdb₁ := reads_db h₁ rfl
    obtain ⟨τ₂, hstmt₂⟩ := timed_stmt h₂
    obtain ⟨hrows₂, hothers₂⟩ := deactivate_stmt hstmt₂
    obtain ⟨τ₃, hstmt₃⟩ := timed_stmt h₃
    obtain ⟨hrows, hothers⟩ := revokeUser_stmt hstmt₃
    dsimp only at hrows₂ hothers₂ hrows hothers
    rw [hdb₁] at hrows₂ hothers₂
    rw [hrows₂] at hrows
    refine ⟨hrows, fun v hv hne hact => ⟨v, ?_, rfl, hact⟩⟩
    rw [hothers.1]
    exact hothers₂ v hv hne
  | _ => exact hlog.elim

/-- A request that signs out. -/
theorem Consistent.signOut (hx : env.prim.Exact) (hs : Consistent env H s) (hq : q.revokes = true)
    (hrun : Runs (Recorded (Timed (Executed env))) (handle env q).run (s, []) x (s', log)) :
    Consistent env (⟨q, log, x⟩ :: H) s' := by
  have hrefresh : ∀ {t}, q ≠ .refresh t := by
    rintro t rfl
    cases hq
  obtain ⟨hfailed, hexec⟩ := hrun.traces (handle_signOut q hq)
  have htraces := hexec.mono timed_executed
  cases x with
  | error e =>
    rcases hfailed with hquiet | ⟨u, e', l, rfl⟩
    · obtain ⟨hrows, hactive⟩ := hquiet.traces htraces
      refine hs.quiet hx hrows hactive (fun ⟨_, h, _⟩ => nomatch h) (fun hreq => (hrefresh hreq).elim) ?_
      rintro t u t₀ - (⟨-, ⟨_, h⟩, -⟩ | ⟨t', t₁, hreq, -⟩)
      · cases h
      · exact hrefresh hreq
    · obtain ⟨s₁, -, hstmt⟩ := hexec
      exact absurd hstmt Refused.of_revokeUser.not_timed
  | ok a =>
    obtain ⟨u, hlog⟩ := (hrun.traces (handle_revokes q)).1 hq
    obtain ⟨hrows, hactive⟩ := hlog.signedOut htraces
    have hends : ∀ {v : Uuid}, (⟨q, log, .ok a⟩ : Entry).Ends env H (Revoked env H) v ↔ v = u := by
      intro v
      constructor
      · rintro (⟨-, -, token, claims, hmem, rfl⟩ | ⟨t, t₀, hreq, -⟩)
        · exact hlog.caller hmem
        · exact (hrefresh hreq).elim
      · rintro rfl
        obtain ⟨token, claims, hmem, hsub⟩ := hlog.decoded
        exact Or.inl ⟨hq, ⟨a, rfl⟩, token, claims, hmem, hsub⟩
    refine hs.step hx _ [] (by rw [hrows, List.append_nil]) ?_ (by simp)
      (fun hreq => (hrefresh hreq).elim) ?_ ?_
    · rintro t v t₀ ⟨b, hb, -⟩
      exact absurd (Except.ok.inj hb) (hfailed b)
    · intro r _ hlive t v t₀ _ htoken
      rw [hends, ← htoken.userId]
      constructor
      · exact fun h => Or.inr h.1
      · rintro (⟨hreq, -⟩ | h)
        · exact (hrefresh hreq).elim
        · exact ⟨h, hlive⟩
    · intro r hr hlive
      rw [hrows] at hr
      obtain ⟨r₀, hr₀, rfl⟩ := List.mem_map.1 hr
      obtain ⟨hnot, heq⟩ := revokeIf_live hlive
      rw [heq] at hlive ⊢
      obtain ⟨v, hv, hvid, hvact⟩ := hs.active r₀ hr₀ hlive
      obtain ⟨w, hw, hwid, hwact⟩ := hactive v hv (fun h => hnot ⟨hvid.symm.trans h, hlive⟩) hvact
      exact ⟨w, hw, hwid.trans hvid, hwact⟩

/-- A request that neither signs in nor out and is no refresh. -/
theorem Consistent.other (hx : env.prim.Exact) (hs : Consistent env H s) (hmethod : q.method = none)
    (hrevokes : q.revokes = false) (hrefresh : ∀ t, q ≠ .refresh t)
    (hrun : Runs (Recorded (Timed (Executed env))) (handle env q).run (s, []) x (s', log)) :
    Consistent env (⟨q, log, x⟩ :: H) s' := by
  obtain ⟨hlog, htraces⟩ := hrun.traces (handle_other q hmethod hrevokes hrefresh)
  have hquiet : Quiet log ∧ ∀ b, x ≠ .ok (.auth b) := by
    cases x with
    | error e => exact ⟨hlog, fun b h => nomatch h⟩
    | ok a => exact ⟨hlog.1, fun b h => hlog.2 b (Except.ok.inj h)⟩
  obtain ⟨hrows, hactive⟩ := hquiet.1.traces (htraces.mono timed_executed)
  exact hs.quiet hx hrows hactive (fun ⟨b, hb, _⟩ => hquiet.2 b hb) (fun hreq => (hrefresh _ hreq).elim)
    fun _ => Entry.not_ends hrevokes hrefresh

/-- A row is stale if its token is revoked or late. -/
theorem Consistent.stale_iff (hlife : TokenService.refreshLifetime env = statedLifetime env)
    {t : String} {u : Uuid} {t₀ : OffsetDateTime} {row : RefreshToken} (htoken : IsToken env t u t₀ row)
    (hrev : row.revoked = true ↔ Revoked env H t) :
    Stale log row ↔ Revoked env H t ∨ Late env log t₀ := by
  rw [Stale, hrev, htoken.expiresAt, hlife, Late]

/-- A refresh ends the sessions of the users whose tokens it presents after they have become stale. -/
theorem Entry.refresh_ends_iff {t : String} {u : Uuid} {revoked : String → Prop} :
    (⟨.refresh t, log, x⟩ : Entry).Ends env H revoked u ↔
      ∃ t₀, Issued H t u t₀ ∧ (revoked t ∨ Late env log t₀) := by
  constructor
  · rintro (⟨h, -⟩ | ⟨t', t₀, h, hissued, hstale⟩)
    · cases h
    · cases h
      exact ⟨t₀, hissued, hstale⟩
  · rintro ⟨t₀, hissued, hstale⟩
    exact Or.inr ⟨t, t₀, rfl, hissued, hstale⟩

/-- A refresh. -/
theorem Consistent.refresh (hx : env.prim.Exact)
    (hlife : TokenService.refreshLifetime env = statedLifetime env) (hs : Consistent env H s)
    {t : String} (heffect : RefreshEffect env t s log x s') :
    Consistent env (⟨.refresh t, log, x⟩ :: H) s' := by
  cases heffect with
  | unknown hxerr hdb hnone =>
    subst hxerr
    refine hs.quiet hx (by rw [hdb]) (.of_rows (by rw [hdb])) (fun ⟨_, h, _⟩ => nomatch h)
      (fun _ ⟨_, h⟩ => nomatch h) ?_
    rintro t' u t₀ - h
    obtain ⟨t₁, hissued, -⟩ := Entry.refresh_ends_iff.1 h
    obtain ⟨r, hr, htoken, -⟩ := hs.row hissued
    exact hnone r hr htoken.lookupKey
  | stale row hrow hkey hstale hxerr hrows hothers =>
    subst hxerr
    obtain ⟨u, t₀, hissued, htoken, hrev⟩ := hs.row_of_key hx hrow hkey
    have hends : ∀ {v : Uuid},
        (⟨.refresh t, log, .error .refreshTokenInvalid⟩ : Entry).Ends env H (Revoked env H) v ↔
          v = row.userId := by
      intro v
      rw [Entry.refresh_ends_iff, htoken.userId]
      constructor
      · rintro ⟨t₁, hissued', -⟩
        exact (hs.unique hx hissued' hissued).1
      · rintro rfl
        exact ⟨t₀, hissued, (Consistent.stale_iff hlife htoken hrev).1 hstale⟩
    refine hs.step hx _ [] (by rw [hrows, List.append_nil]) (fun ⟨_, h, _⟩ => nomatch h) (by simp)
      (fun _ ⟨_, h⟩ => nomatch h) ?_ ?_
    · intro r _ hlive t' v t₁ _ htoken'
      rw [hends, ← htoken'.userId]
      constructor
      · exact fun h => Or.inr h.1
      · rintro (⟨-, _, h⟩ | h)
        · cases h
        · exact ⟨h, hlive⟩
    · intro r hr hlive
      rw [hrows] at hr
      obtain ⟨r₀, hr₀, rfl⟩ := List.mem_map.1 hr
      obtain ⟨-, heq⟩ := revokeIf_live hlive
      rw [heq] at hlive ⊢
      rw [hothers.1]
      exact hs.active r₀ hr₀ hlive
  | rotated row hrow hkey hlive now hnow hle b hxok hid t₁ htime new hnew hnewlive hrows hfresh hothers =>
    subst hxok
    obtain ⟨u, t₀, hissued, htoken, hrev⟩ := hs.row_of_key hx hrow hkey
    have hstale : ¬ Stale log row := by
      rintro (h | ⟨now', hnow', hlt⟩)
      · exact Bool.false_ne_true (hlive.symm.trans h)
      · cases hnow.symm.trans hnow'
        exact Int.not_le.2 hlt hle
    have hends : ∀ {v : Uuid},
        ¬ (⟨.refresh t, log, .ok (.auth b)⟩ : Entry).Ends env H (Revoked env H) v := by
      intro v h
      obtain ⟨t₂, hissued', h⟩ := Entry.refresh_ends_iff.1 h
      obtain ⟨rfl, rfl⟩ := hs.unique hx hissued' hissued
      exact hstale ((Consistent.stale_iff hlife htoken hrev).2 h)
    have hissue : (⟨.refresh t, log, .ok (.auth b)⟩ : Entry).Issues b.refreshToken row.userId t₁ :=
      ⟨b, rfl, rfl, hid, htime⟩
    refine hs.step hx _ _ hrows ?_ ?_ ?_ ?_ ?_
    · rintro t' v t₂ ⟨b', hb', rfl, rfl, htime'⟩
      cases hb'
      cases htime.symm.trans htime'
      exact ⟨new, List.mem_cons_self, hid ▸ hnew⟩
    · intro r hr
      rw [List.mem_singleton.1 hr]
      exact ⟨hnewlive, hfresh, _, _, _, hissue, hnew⟩
    · rintro t' hreq -
      cases hreq
      exact ⟨u, t₀, hissued⟩
    · intro r hr _ t' v t₂ _ htoken'
      constructor
      · intro h
        obtain rfl := Db.refreshToken_unique_id hr hrow h
        rw [(htoken.unique hx htoken').1]
        exact Or.inl ⟨rfl, _, rfl⟩
      · rintro (⟨hreq, -⟩ | h)
        · cases hreq
          rw [Db.refreshToken_unique hr hrow (htoken'.lookupKey.trans hkey.symm)]
        · exact (hends h).elim
    · intro r hr hrlive
      rw [hrows] at hr
      rw [hothers.1]
      rcases List.mem_append.1 hr with hr | hr
      · obtain ⟨r₀, hr₀, rfl⟩ := List.mem_map.1 hr
        obtain ⟨-, heq⟩ := revokeIf_live hrlive
        rw [heq] at hrlive ⊢
        exact hs.active r₀ hr₀ hrlive
      · rw [List.mem_singleton.1 hr, hnew.userId]
        exact hs.active row hrow hlive

/-- **Refreshes are exact** where the rows agree with the history. -/
theorem RefreshEffect.exact (hx : env.prim.Exact)
    (hlife : TokenService.refreshLifetime env = statedLifetime env) (hs : Consistent env H s)
    {t : String} (heffect : RefreshEffect env t s log x s') : ExactRefresh env H s t log x s' := by
  cases heffect with
  | unknown hxerr hdb hnone =>
    subst hxerr
    have hnot : ∀ u t₀, ¬ Issued H t u t₀ := by
      intro u t₀ hissued
      obtain ⟨r, hr, htoken, -⟩ := hs.row hissued
      exact hnone r hr htoken.lookupKey
    exact
      { succeeds_iff := ⟨fun ⟨_, h⟩ => (nomatch h), fun ⟨u, t₀, _, h, _⟩ => (hnot u t₀ h).elim⟩
        rotates := fun h => (hnot _ _ h).elim
        unknown := fun _ => ⟨rfl, hdb⟩
        replayed := fun h => (hnot _ _ h).elim
        not_disabled := fun h => (nomatch h) }
  | stale row hrow hkey hstale hxerr hrows hothers =>
    subst hxerr
    obtain ⟨u, t₀, hissued, htoken, hrev⟩ := hs.row_of_key hx hrow hkey
    constructor
    · refine ⟨fun ⟨_, h⟩ => (nomatch h), ?_⟩
      rintro ⟨v, t₁, now, hissued', hlive, hnow, hle⟩
      obtain ⟨rfl, rfl⟩ := hs.unique hx hissued' hissued
      rcases (Consistent.stale_iff hlife htoken hrev).1 hstale with h | ⟨now', hnow', hlt⟩
      · exact (hlive h).elim
      · cases hnow.symm.trans hnow'
        exact (Int.not_le.2 hlt hle).elim
    · rintro _ _ - ⟨_, h⟩
      cases h
    · exact fun h => (h u t₀ hissued).elim
    · intro v t₁ hissued' _
      obtain ⟨rfl, rfl⟩ := hs.unique hx hissued' hissued
      rw [htoken.userId] at hrows
      refine ⟨rfl, fun r hr hid => ?_, hrows, hothers⟩
      rw [hrows] at hr
      obtain ⟨r₀, hr₀, rfl⟩ := List.mem_map.1 hr
      cases hlive : (revokeIf (fun r => r.userId = v ∧ r.revoked = false) r₀).revoked with
      | true => rfl
      | false =>
        obtain ⟨hnot, heq⟩ := revokeIf_live hlive
        rw [heq] at hid hlive
        exact (hnot ⟨hid, hlive⟩).elim
    · exact fun h => (nomatch h)
  | rotated row hrow hkey hlive now hnow hle b hxok hid t₁ htime new hnew hnewlive hrows hfresh hothers =>
    subst hxok
    obtain ⟨u, t₀, hissued, htoken, hrev⟩ := hs.row_of_key hx hrow hkey
    have hnot : ¬ (Revoked env H t ∨ Late env log t₀) := by
      rw [← Consistent.stale_iff hlife htoken hrev]
      rintro (h | ⟨now', hnow', hlt⟩)
      · exact Bool.false_ne_true (hlive.symm.trans h)
      · cases hnow.symm.trans hnow'
        exact Int.not_le.2 hlt hle
    constructor
    · refine ⟨fun _ => ⟨u, t₀, now, hissued, fun h => hnot (Or.inl h), hnow, ?_⟩, fun _ => ⟨_, rfl⟩⟩
      rw [← hlife, ← htoken.expiresAt]
      exact hle
    · intro v t₂ hissued' _
      obtain ⟨rfl, rfl⟩ := hs.unique hx hissued' hissued
      rw [htoken.userId] at hid hnew
      exact ⟨row, hrow, htoken, b.refreshToken, t₁, new, ⟨b, rfl, rfl, hid, htime⟩, hnew, hnewlive, hrows,
        hothers⟩
    · exact fun h => (h u t₀ hissued).elim
    · intro v t₂ hissued' hstale
      obtain ⟨rfl, rfl⟩ := hs.unique hx hissued' hissued
      exact (hnot hstale).elim
    · exact fun h => (nomatch h)

end Serve

/-- Every request keeps the rows in agreement with the history. -/
theorem Consistent.serve (hx : env.prim.Exact)
    (hlife : TokenService.refreshLifetime env = statedLifetime env) (hs : Consistent env H s)
    (hdrawn : Drawn env s) {q : Request} {log : Log Op Ret} {x : Except AppError Response}
    (hrun : Runs (Recorded (Timed (Executed env))) (handle env q).run (s, []) x (s', log)) :
    Consistent env (⟨q, log, x⟩ :: H) s' := by
  by_cases hsignIn : q.method.isSome = true
  · exact hs.signIn hx hsignIn hrun
  by_cases hsignOut : q.revokes = true
  · exact hs.signOut hx hsignOut hrun
  by_cases hrefresh : ∃ t, q = .refresh t
  · obtain ⟨t, rfl⟩ := hrefresh
    exact hs.refresh hx hlife (refresh_effect hx hlife hs hdrawn hrun)
  · exact hs.other hx (Option.not_isSome_iff_eq_none.1 hsignIn) (eq_false_of_ne_true hsignOut)
      (fun t heq => hrefresh ⟨t, heq⟩) hrun

/-! ### Runs -/

variable {clock : ℕ}

theorem Served.drawn (h : Served env (Executed env) (.fresh clock) H s) : Drawn env s := by
  have hexec : ∀ {o s r s'}, Executed env o s r s' → Stmt env o s r s' := .exec
  obtain ⟨c, hc, rfl⟩ := h.reachable @hexec
  exact service_drawn (drawn_fresh env clock) hc

/-- The refresh token that a request has been answered with, its user and its time. -/
def Entry.issued (e : Entry) : Option (String × Uuid × OffsetDateTime) :=
  match e.outcome with
  | .ok (.auth a) => (issueTime e.log).map fun t₀ => (a.refreshToken, a.user.id, t₀)
  | _ => none

end Socle
