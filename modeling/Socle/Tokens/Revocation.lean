import Socle.Tokens.Rotation

/-!
# Revocation under concurrency

A logout, a password change and a deactivation revoke the refresh tokens of the caller.

* `Covered`: the tokens that such a request has to put out of use: those stored before it started,
  what is obtained from them by rotation, and those of logins that read the old password;
* `RevocationComplete`: no covered token is accepted once the request has succeeded;
* `revoked_too_early`: a rotation that is under way during a logout leaves a token that is accepted;
* `revocation_complete`: revocation is complete in every run in which no rotation of the user, and no
  login with the old password, is under way when a logout or a password change revokes.
-/

namespace Socle

open Interaction Prog System

variable {env : Env}

/-! ### Revoking requests -/

/-- The requests that end the caller's sessions. -/
def Request.revokes : Request → Bool
  | .logout _ => true
  | .changePassword _ _ _ => true
  | .deactivateAccount _ => true
  | _ => false

def Request.isDeactivation : Request → Bool
  | .deactivateAccount _ => true
  | _ => false

/-- The claims under which request `j` acts are those of `u`. -/
def Caller (H : Trace) (j : ℕ) (u : Uuid) : Prop :=
  ∃ token claims, ⟨.decode token, .ok claims⟩ ∈ localLog j H ∧ claims.sub = u

/-- The log of a revoking request of `u` that has succeeded. -/
def RevocationLog (u : Uuid) : Request → Log Op Ret → Prop
  | .logout _, log => ∃ token claims, ∃ r : Unit, claims.sub = u ∧
    log = [⟨.sql (.revokeUserRefreshTokens u), .ok r⟩, ⟨.decode token, .ok claims⟩]
  | .changePassword _ _ _, log => ∃ token claims cred salt hash, ∃ r r' : Unit, claims.sub = u ∧
    log = [⟨.sql (.revokeUserRefreshTokens u), .ok r'⟩, ⟨.sql (.updatePasswordHash hash u), .ok r⟩,
      ⟨.random, salt⟩, ⟨.sql (.selectLocalCredential u), .ok (some cred)⟩, ⟨.decode token, .ok claims⟩]
  | .deactivateAccount _, log => ∃ token claims, ∃ r r' : Unit, claims.sub = u ∧
    log = [⟨.sql (.revokeUserRefreshTokens u), .ok r'⟩, ⟨.sql (.deactivateUser u), .ok r⟩,
      ⟨.decode token, .ok claims⟩]
  | _, _ => False

/-- What revoking requests do, and that a login stores one token only. -/
theorem handle_revokes (q : Request) :
    SatE (handle env q)
      (fun log o => ∀ email password, q = .login email password → o.issues = true →
        ∀ x ∈ log, x.1.issues = false)
      (fun log _ => q.revokes = true → ∃ u, RevocationLog u q log) (fun _ _ => True) [] := by
  cases q with
  | logout authorization =>
    simp [handle, Routes.logout, AuthService.logout, RevocationLog]
  | changePassword authorization current new =>
    simp [handle, Routes.changePassword]
    intro token _ claims _ cred _ salt hash _ r _
    exact ⟨claims.sub, token, claims, cred, salt, hash, r, r, rfl, rfl⟩
  | deactivateAccount authorization =>
    simp [handle, Routes.deactivateAccount]
    intro token _ claims _ r _
    exact ⟨claims.sub, token, claims, r, r, rfl, rfl⟩
  | login email password =>
    simp [handle, Routes.login, AuthService.login, Request.revokes]
  | _ => exact SatE.trivial (by simp) (by simp [Request.revokes]) (by simp) _

/-- A revoking request has decoded the access token of its user. -/
theorem RevocationLog.decoded {u : Uuid} {q : Request} {log : Log Op Ret} (hlog : RevocationLog u q log) :
    ∃ token claims, ⟨.decode token, .ok claims⟩ ∈ log ∧ claims.sub = u := by
  cases q with
  | logout authorization =>
    obtain ⟨token, claims, _, hsub, rfl⟩ := hlog
    exact ⟨token, claims, by simp, hsub⟩
  | changePassword authorization current new =>
    obtain ⟨token, claims, _, _, _, _, _, hsub, rfl⟩ := hlog
    exact ⟨token, claims, by simp, hsub⟩
  | deactivateAccount authorization =>
    obtain ⟨token, claims, _, _, hsub, rfl⟩ := hlog
    exact ⟨token, claims, by simp, hsub⟩
  | _ => exact hlog.elim

/-- The claims in the log of a revoking request are those of its user. -/
theorem RevocationLog.caller {u : Uuid} {q : Request} {log : Log Op Ret} {token : String}
    {claims : Claims} (hlog : RevocationLog u q log) (hmem : ⟨.decode token, .ok claims⟩ ∈ log) :
    claims.sub = u := by
  cases q with
  | logout authorization =>
    obtain ⟨_, _, _, hv, rfl⟩ := hlog
    simp at hmem
    rw [hmem.2, hv]
  | changePassword authorization current new =>
    obtain ⟨_, _, _, _, _, _, _, hv, rfl⟩ := hlog
    simp at hmem
    rw [hmem.2, hv]
  | deactivateAccount authorization =>
    obtain ⟨_, _, _, _, hv, rfl⟩ := hlog
    simp at hmem
    rw [hmem.2, hv]
  | _ => exact hlog.elim

/-- A revoking request of `u` that has succeeded has the log of one. -/
theorem revocationLog_of_done {s₀ : State} {c : Pool Op Ret Request (Except AppError Response) State}
    (hc : (service env).Reachable s₀ c) {j : ℕ} {q : Request} {u : Uuid} {past : Trace} {a : Response}
    (hq : .start j q ∈ c.history) (hrev : q.revokes = true) (hu : Caller c.history j u)
    (hd : Occurs c.history past (.done j (.ok a))) : RevocationLog u q (localLog j c.history) := by
  obtain ⟨v, hlog⟩ := service_at_ok handle_revokes hc hq hd hrev
  rw [← hc.localLog_of_done hd] at hlog
  obtain ⟨token, claims, hmem, rfl⟩ := hu
  rw [hlog.caller hmem]
  exact hlog

/-! ### What has to be put out of use -/

/-- Request `i` has read the credential of `u` before request `j` changed the password. -/
def ReadBeforeChange (H : Trace) (i j : ℕ) (u : Uuid) : Prop :=
  ∃ past past' hash cred s s' t t', ∃ r : Unit,
    Occurs H past (.stmt j (.sql (.updatePasswordHash hash u)) (.ok r) s s') ∧
    Occurs past past' (.stmt i (.sql (.selectLocalCredential u)) (.ok (some cred)) t t')

/-- The lookup keys of the tokens that request `j` of the user `u` has to put out of use. -/
inductive Covered (env : Env) (H : Trace) (j : ℕ) (u : Uuid) : String → Prop
  /-- Stored for `u` before `j` started. -/
  | before {q : Request} {past past' : Trace} {i : ℕ} {key : String}
      (hj : Occurs H past (.start j q)) (hs : Stores past past' i u key) : Covered env H j u key
  /-- Obtained by rotation of a covered token. -/
  | rotated {t : String} {past : Trace} {i : ℕ} {userId : Uuid} {key : String}
      (ht : Covered env H j u (TokenService.computeLookupKey env t))
      (hi : .start i (.refresh t) ∈ H) (hs : Stores H past i userId key) : Covered env H j u key
  /-- Obtained by a login that read the credential before `j` changed the password. -/
  | login {email password : String} {past : Trace} {i : ℕ} {key : String}
      (hi : .start i (.login email password) ∈ H) (hr : ReadBeforeChange H i j u)
      (hs : Stores H past i u key) : Covered env H j u key

/-- Revocation is complete: once a revoking request of `u` has succeeded, no refresh that looks a
covered token up succeeds. -/
def RevocationComplete (env : Env) (H : Trace) : Prop :=
  ∀ {j : ℕ} {q : Request} {u : Uuid} {past : Trace} {a : Response} {k : ℕ} {t : String}
    {r : Except SqlxError (Option RefreshTokenRow)} {s s' : State} {b : Response},
    .start j q ∈ H → q.revokes = true → Caller H j u →
    Covered env H j u (TokenService.computeLookupKey env t) → .start k (.refresh t) ∈ H →
    Occurs H past (.stmt k (.sql (.selectRefreshToken (TokenService.computeLookupKey env t))) r s s') →
    .done j (.ok a) ∈ past → .done k (.ok b) ∉ H

/-! ### When it is put out of use -/

/-- Request `i` is rotating a token of `u`: it has read the row unrevoked, has not found it expired,
and has not stored the new token yet. -/
def RotationPending (env : Env) (H : Trace) (i : ℕ) (u : Uuid) : Prop :=
  ∃ (t : String) (record : RefreshTokenRow), .start i (.refresh t) ∈ H ∧ (∀ a, .done i a ∉ H) ∧
    record.userId = u ∧ record.revoked = false ∧
    ⟨.sql (.selectRefreshToken (TokenService.computeLookupKey env t)), .ok (some record)⟩ ∈
      localLog i H ∧
    (∀ now : OffsetDateTime, [⟨.now, now⟩,
      ⟨.sql (.selectRefreshToken (TokenService.computeLookupKey env t)), .ok (some record)⟩] <:+
        localLog i H → now ≤ record.expiresAt) ∧
    ∀ x ∈ localLog i H, x.1.issues = false

/-- Request `i` is logging in with the password that request `j` has replaced. -/
def LoginPending (H : Trace) (i j : ℕ) (u : Uuid) : Prop :=
  ∃ email password, .start i (.login email password) ∈ H ∧ (∀ a, .done i a ∉ H) ∧
    ReadBeforeChange H i j u ∧ ∀ x ∈ localLog i H, x.1.issues = false

/-- When a logout or a password change of `u` revokes, no rotation of a token of `u` is under way, and
no login with the old password. -/
def RevokesAll (env : Env) : Trace → ℕ → (o : Op) → State → Ret o → Prop
  | H, j, .sql (.revokeUserRefreshTokens u), _, .ok _ =>
    ∀ q, .start j q ∈ H → q.revokes = true → q.isDeactivation = false →
      ∀ i, i ≠ j → ¬ RotationPending env H i u ∧ ¬ LoginPending H i j u
  | _, _, _, _, _ => True

section Proof

variable {s₀ : State} {c : Pool Op Ret Request (Except AppError Response) State} {i j k : ℕ}
  {q : Request} {u : Uuid} {key : String} {s s' : State} {r : Unit} {pr : Trace}

/-- The statement by which a revoking request revokes. -/
theorem RevocationLog.stmt {H : Trace} (h : RevocationLog u q (localLog j H)) :
    ∃ pr s s', ∃ r : Unit,
      Occurs H pr (.stmt j (.sql (.revokeUserRefreshTokens u)) (.ok r) s s') := by
  have hstmt : ∀ {r : Unit} {l : Log Op Ret},
      localLog j H = ⟨.sql (.revokeUserRefreshTokens u), .ok r⟩ :: l → ∃ pr s s', ∃ r : Unit,
        Occurs H pr (.stmt j (.sql (.revokeUserRefreshTokens u)) (.ok r) s s') := by
    intro r l hl
    obtain ⟨pr, s, s', he, -⟩ := exists_occurs_of_suffix ⟨[], hl.symm⟩
    exact ⟨pr, s, s', r, he⟩
  cases q with
  | logout _ =>
    obtain ⟨_, _, _, -, hl⟩ := h
    exact hstmt hl
  | changePassword _ _ _ =>
    obtain ⟨_, _, _, _, _, _, _, -, hl⟩ := h
    exact hstmt hl
  | deactivateAccount _ =>
    obtain ⟨_, _, _, _, -, hl⟩ := h
    exact hstmt hl
  | _ => exact h.elim

/-- A request that changes the password does so before it revokes. -/
theorem RevocationLog.update_first {H : Trace} (h : RevocationLog u q (localLog j H))
    (her : Occurs H pr (.stmt j (.sql (.revokeUserRefreshTokens u)) (.ok r) s s')) {past : Trace}
    {hash : String} {v : Uuid} {r' : Unit} {t t' : State}
    (hupd : Occurs H past (.stmt j (.sql (.updatePasswordHash hash v)) (.ok r') t t')) :
    Occurs pr past (.stmt j (.sql (.updatePasswordHash hash v)) (.ok r') t t') := by
  rcases her.total hupd with ⟨heq, -⟩ | hlt | hlt
  · cases heq
  · exact hlt
  · -- The log would have the revocation before the update.
    have hrev := mem_localLog_of_stmt hlt.mem
    have hsuffix := localLog_suffix (i := j) hupd
    rw [localLog_stmt_self] at hsuffix
    cases q with
    | logout _ =>
      obtain ⟨_, _, _, -, hl⟩ := h
      rw [hl] at hsuffix
      simpa using hsuffix.subset List.mem_cons_self
    | changePassword _ _ _ =>
      obtain ⟨_, _, _, _, _, _, _, -, hl⟩ := h
      rw [hl] at hsuffix
      rcases List.suffix_cons_iff.1 hsuffix with heq | hsuffix
      · cases heq
      · simpa using hsuffix.subset (List.mem_cons_of_mem _ hrev)
    | deactivateAccount _ =>
      obtain ⟨_, _, _, _, -, hl⟩ := h
      rw [hl] at hsuffix
      simpa using hsuffix.subset List.mem_cons_self
    | _ => exact h.elim

/-- The tokens that a user has when its tokens are revoked are revoked afterwards. -/
theorem revoked_user_after (h : Stmt env (.sql (.revokeUserRefreshTokens u)) s (.ok r) s')
    {row : RefreshToken} (hrow : row ∈ s.db.refreshTokens.rows) (hu : row.userId = u) :
    ∃ row' ∈ s'.db.refreshTokens.rows, row'.lookupKey = row.lookupKey ∧ row'.revoked = true := by
  obtain ⟨db, hq, rfl⟩ := h.sql_ok
  refine ⟨if row.userId = u ∧ row.revoked = false then { row with revoked := true } else row, ?_, ?_, ?_⟩
  · rw [(apply_ok hq).2.2.2]
    exact List.mem_map.2 ⟨row, hrow, rfl⟩
  · split <;> rfl
  · split
    · rfl
    · next hlive =>
      cases hrev : row.revoked with
      | true => rfl
      | false => exact absurd ⟨hu, hrev⟩ hlive

/-- A token stored before its user's tokens are revoked is found revoked ever after. -/
theorem revoked_when_read (hc : (service env).Reachable s₀ c)
    (her : Occurs c.history pr (.stmt j (.sql (.revokeUserRefreshTokens u)) (.ok r) s s'))
    {h : Trace} (hs : Stores pr h i u key) {ps : Trace} {record : RefreshTokenRow} {t t' : State}
    (hes : Occurs c.history ps (.stmt k (.sql (.selectRefreshToken key)) (.ok (some record)) t t'))
    (hlt : Occurs ps pr (.stmt j (.sql (.revokeUserRefreshTokens u)) (.ok r) s s')) :
    record.revoked = true := by
  obtain ⟨c₀, -, hc₀, rfl, rfl, -⟩ := hc.past her
  obtain ⟨row, hrow, hkey, hu⟩ := hs.row hc₀
  obtain ⟨row₁, hrow₁, hkey₁, hrev₁⟩ := revoked_user_after (service_stmt hc her.mem) hrow hu
  obtain ⟨row₂, hrow₂, heq₂, hrev₂⟩ := (service_le hc hes hlt.mem).refreshTokens row₁ hrow₁
  obtain ⟨-, row₃, hrow₃, hkey₃, rfl⟩ := selectRefreshToken_row (service_stmt hc hes.mem)
  have hsame : row₃ = row₂ :=
    Db.refreshToken_unique hrow₃ hrow₂ (by rw [hkey₃, heq₂, hkey₁, hkey])
  rw [hsame]
  exact hrev₂ hrev₁

/-- Two of the three steps of a rotation, with the check passed. -/
theorem Rotated.checked {t : String} {record : RefreshTokenRow} {log : Log Op Ret}
    (h : Rotated env t record log) {l : Log Op Ret} (hl : l <:+ log) {now : OffsetDateTime}
    (hnow : [⟨.now, now⟩, ⟨.sql (.selectRefreshToken (TokenService.computeLookupKey env t)),
      .ok (some record)⟩] <:+ l) : now ≤ record.expiresAt := by
  obtain ⟨-, now', r, hle, hsuffix⟩ := h
  have heq := (List.suffix_of_suffix_length_le (hnow.trans hl)
    ((List.suffix_cons _ _).trans hsuffix) (Nat.le_refl _)).eq_of_length rfl
  simp at heq
  rw [heq]
  exact hle

/-- A covered token is a token of the user. -/
theorem covered_owner (hc : (service env).Reachable s₀ c) (hcov : Covered env c.history j u key) :
    ∃ i h, Stores c.history h i u key := by
  induction hcov with
  | @before _ _ past' i _ hj hs => exact ⟨i, past', hs.of_suffix hj.past⟩
  | @rotated t past i userId key _ hi hs ih =>
    obtain ⟨i₀, h₀, hs₀⟩ := ih
    refine ⟨i, past, ?_⟩
    obtain ⟨id, hash, exp, t₁, t₁', he⟩ := hs
    obtain ⟨⟨record, hrec, rfl⟩, -⟩ := (service_at_stmt handle_rotated hc hi he t rfl).2 _ _ _ _ _ rfl
    obtain ⟨ps, t₂, t₂', hes⟩ := hrec.lookup
    rw [← owner_of_lookup hc hs₀ (he.trans hes)]
    exact ⟨id, hash, exp, t₁, t₁', he⟩
  | @login _ _ past i _ _ _ hs => exact ⟨i, past, hs⟩

/-- A user that is deactivated while it has covered tokens is in the database. -/
theorem covered_user (hc : (service env).Reachable s₀ c) (hq : .start j q ∈ c.history)
    (hdeact : q.isDeactivation = true) (hlog : RevocationLog u q (localLog j c.history))
    {o : Op} {r : Ret o} (hed : Occurs c.history pr (.stmt j o r s s'))
    (hcov : Covered env c.history j u key) : ∃ v ∈ s.db.users.rows, v.id = u := by
  induction hcov with
  | @before q' _ _ _ _ hj hs =>
    obtain ⟨c₀, -, hc₀, rfl, rfl, -⟩ := hc.past hed
    obtain ⟨row, hrow, -, rfl⟩ := (hs.of_suffix (hc.after_start hj hed).past).row hc₀
    exact c₀.state.db.refreshTokens_user row hrow
  | rotated _ _ _ ih => exact ih
  | login _ hread =>
    -- A deactivation changes no password.
    obtain ⟨_, _, _, _, _, _, _, _, _, hupd, -⟩ := hread
    have hmem := mem_localLog_of_stmt hupd.mem
    cases q with
    | deactivateAccount authorization =>
      obtain ⟨_, _, _, _, -, hl⟩ := hlog
      rw [hl] at hmem
      simp at hmem
    | _ => cases hdeact

/-- A user that has been deactivated is found inactive ever after. -/
theorem inactive_when_read (hc : (service env).Reachable s₀ c)
    (hed : Occurs c.history pr (.stmt j (.sql (.deactivateUser u)) (.ok r) s s'))
    (hex : ∃ v ∈ s.db.users.rows, v.id = u) {pu : Trace} {user : User} {t t' : State}
    (heu : Occurs c.history pu (.stmt k (.sql (.selectUserById u)) (.ok (some user)) t t'))
    (hlt : .stmt j (.sql (.deactivateUser u)) (.ok r) s s' ∈ pu) : user.isActive = false := by
  obtain ⟨v, hv, hid⟩ := hex
  obtain ⟨db, hq, rfl⟩ := (service_stmt hc hed.mem).sql_ok
  have hv' : { v with isActive := false, updatedAt := (s.clock : ℤ) } ∈ db.users.rows := by
    rw [(apply_ok hq).1]
    exact List.mem_map.2 ⟨v, hv, if_pos hid⟩
  obtain ⟨w, hw, hwid, -, -, hwact⟩ := (service_le hc heu hlt).users _ hv'
  obtain ⟨-, huser, huid⟩ := selectUserById_row (service_stmt hc heu.mem)
  rw [Db.user_unique huser hw (by rw [huid, hwid, ← hid])]
  exact hwact rfl

variable (hc : ((service env).restrict (RevokesAll env)).Reachable s₀ c)

include hc

/-- **Covered tokens are stored in time.**  When a logout or a password change of `u` revokes, every
token that it covers has been stored for `u`. -/
theorem covered_stored (hq : .start j q ∈ c.history) (hrev : q.revokes = true)
    (hdeact : q.isDeactivation = false) (hlog : RevocationLog u q (localLog j c.history))
    (her : Occurs c.history pr (.stmt j (.sql (.revokeUserRefreshTokens u)) (.ok r) s s'))
    (hcov : Covered env c.history j u key) : ∃ i h, Stores pr h i u key := by
  have hc' := hc.of_restrict
  obtain ⟨q', hq', -⟩ := hc'.at_stmt handle_revokes her
  obtain rfl := hc'.numbered.start_unique hq (her.past.subset hq')
  have hnone := (hc.sem_of_stmt her).2 q hq' hrev hdeact
  induction hcov with
  | @before q₀ past past' i key hj hs =>
    exact ⟨i, past', hs.of_suffix (hc'.after_start hj her).past⟩
  | @rotated t past i userId key _ hi hs ih =>
    obtain ⟨i₀, h₀, hs₀⟩ := ih
    obtain ⟨id, hash, exp, t₁, t₁', he⟩ := hs
    obtain ⟨⟨record, hrec, hown⟩, hfirst⟩ :=
      (service_at_stmt handle_rotated hc' hi he t rfl).2 _ _ _ _ _ rfl
    obtain ⟨ps, t₂, t₂', hes⟩ := hrec.lookup
    have hesc := he.trans hes
    have hu : userId = u := by
      rw [← hown]
      exact owner_of_lookup hc' (hs₀.of_suffix her.past) hesc
    rcases he.total her with ⟨heq, -⟩ | hlt | hlt
    · cases heq
    · -- The revocation comes before the new token is stored.
      rcases hesc.total her with ⟨heq, -⟩ | hlt' | hlt'
      · cases heq
      · -- It also comes before the lookup, which then finds the token revoked.
        have hdead := revoked_when_read hc' her hs₀ hesc hlt'
        exact absurd hdead (by rw [hrec.1]; decide)
      · -- It comes between the lookup and the insertion: the rotation is under way.
        have hlog' : localLog i pr <:+ localLog i past := localLog_suffix hlt.past
        have hne : i ≠ j := by
          rintro rfl
          obtain ⟨⟩ := hc'.numbered.start_unique hq hi
          cases hrev
        obtain ⟨q₁, hq₁, -⟩ := hc'.at_stmt handle_revokes (hlt'.of_suffix her.past)
        obtain rfl := hc'.numbered.start_unique hi (hesc.past.subset hq₁)
        refine absurd ?_ (hnone i hne).1
        refine ⟨t, record, hlt'.past.subset hq₁, ?_, hown.trans hu, hrec.1, mem_localLog_of_stmt hlt'.mem,
          fun now hnow => hrec.checked hlog' hnow, fun x hx => hfirst x (hlog'.subset hx)⟩
        exact fun a ha => hc'.no_stmt_after_done he a (hlt.past.subset ha)
    · subst hu
      exact ⟨i, past, id, hash, exp, t₁, t₁', hlt⟩
  | @login email password past i key hi hread hs =>
    obtain ⟨id, hash, exp, t₁, t₁', he⟩ := hs
    rcases he.total her with ⟨heq, -⟩ | hlt | hlt
    · cases heq
    · -- The login is under way when `j` revokes.
      have hfirst := service_at_stmt handle_revokes hc' hi he email password rfl rfl
      have hlog' : localLog i pr <:+ localLog i past := localLog_suffix hlt.past
      have hne : i ≠ j := by
        rintro rfl
        obtain ⟨⟩ := hc'.numbered.start_unique hq hi
        cases hrev
      obtain ⟨past₀, past₀', hash₀, cred, t₂, t₂', t₃, t₃', r₀, hupd, hsel⟩ := hread
      have hbefore := hlog.update_first her hupd
      obtain ⟨q₁, hq₁, -⟩ := hc'.at_stmt handle_revokes (hsel.of_suffix hupd.past)
      obtain rfl := hc'.numbered.start_unique hi ((hsel.of_suffix hupd.past).past.subset hq₁)
      refine absurd ?_ (hnone i hne).2
      refine ⟨email, password, hbefore.past.subset (hsel.past.subset hq₁), ?_,
        ⟨past₀, past₀', hash₀, cred, t₂, t₂', t₃, t₃', r₀, hbefore, hsel⟩,
        fun x hx => hfirst x (hlog'.subset hx)⟩
      exact fun a ha => hc'.no_stmt_after_done he a (hlt.past.subset ha)
    · exact ⟨i, past, id, hash, exp, t₁, t₁', hlt⟩

end Proof

/-- **Revocation is complete** in every run in which no rotation of a token of the user, and no login
with the old password, is under way when a logout or a password change revokes. -/
theorem revocation_complete {s₀ : State}
    {c : Pool Op Ret Request (Except AppError Response) State}
    (hc : ((service env).restrict (RevokesAll env)).Reachable s₀ c) :
    RevocationComplete env c.history := by
  have hc' := hc.of_restrict
  intro j q u past a k t r s s' b hq hrev hcaller hcov hk hsel hdone hdk
  obtain ⟨pj, hdone⟩ := exists_occurs hdone
  have hdone' := hsel.trans hdone
  have hlog := revocationLog_of_done hc' hq hrev hcaller hdone'
  -- The successful refresh has read the token unrevoked, after `j` had finished.
  obtain ⟨pk, hdk⟩ := exists_occurs hdk
  obtain ⟨record, user, hrec, huser, hactive⟩ := service_at_ok handle_rotated hc' hk hdk t rfl
  rw [← hc'.localLog_of_done hdk] at hrec huser
  obtain ⟨ps, t₁, t₁', hes⟩ := hrec.lookup
  have hfirst : ∀ {h : Trace} {x y y'}, Occurs c.history h (.stmt k
      (.sql (.selectRefreshToken (TokenService.computeLookupKey env t))) x y y') → localLog k h = [] :=
    fun he => (service_at_stmt handle_rotated hc' hk he t rfl).1 _ rfl
  have hsame : ps = past := by
    rcases hes.total hsel with ⟨-, heq⟩ | hlt | hlt
    · exact heq
    · exact absurd (hfirst hes ▸ mem_localLog_of_stmt hlt.mem) List.not_mem_nil
    · exact absurd (hfirst hsel ▸ mem_localLog_of_stmt hlt.mem) List.not_mem_nil
  subst hsame
  have hlog' := hlog
  rw [hc'.localLog_of_done hdone'] at hlog'
  cases hdeact : q.isDeactivation with
  | false =>
    obtain ⟨pr, s₁, s₁', r₁, her⟩ := hlog'.stmt
    have her' := her.of_suffix hdone.past
    obtain ⟨i, h, hs⟩ := covered_stored hc hq hrev hdeact hlog (her'.of_suffix hes.past) hcov
    have hdead := revoked_when_read hc' (her'.of_suffix hes.past) hs hes her'
    exact absurd hdead (by rw [hrec.1]; decide)
  | true =>
    cases q with
    | deactivateAccount authorization =>
      obtain ⟨token, claims, r₁, r₂, -, hl⟩ := hlog'
      obtain ⟨pd, s₁, s₁', hed⟩ := stmt_of_log (i := j) (H := pj) (o := .sql (.deactivateUser u)) (r := .ok r₁)
        (by rw [hl]; exact List.mem_cons_of_mem _ List.mem_cons_self)
      have hed' := hed.of_suffix hdone.past
      have hed'' := hed'.of_suffix hes.past
      have hex := covered_user hc' hq hdeact hlog hed'' hcov
      obtain ⟨i, h, hs⟩ := covered_owner hc' hcov
      rw [owner_of_lookup hc' hs hes] at huser
      obtain ⟨pu, t₂, t₂', heu⟩ := stmt_of_log huser
      have hlater : .stmt j (.sql (.deactivateUser u)) (.ok r₁) s₁ s₁' ∈ pu := by
        rcases heu.total hes with ⟨heq, -⟩ | hlt | hlt
        · cases heq
        · exact hlt.past.subset hed'.mem
        · exact absurd (hfirst hes ▸ mem_localLog_of_stmt hlt.mem) List.not_mem_nil
      exact absurd (inactive_when_read hc' hed'' hex heu hlater) (by rw [hactive]; decide)
    | _ => cases hdeact

/-- Whether all started requests but `j` have finished. -/
def alone (H : Trace) (j : ℕ) : Bool := H.all fun
  | .start i _ => decide (i = j) || (outcome i H).isSome
  | _ => true

/-- Where all other requests have finished, nothing is under way. -/
theorem alone_sound {H : Trace} {i j : ℕ} {q : Request} (h : alone H j = true) (hi : .start i q ∈ H)
    (hne : i ≠ j) : ∃ a, .done i a ∈ H := by
  have hstart := List.all_eq_true.1 h _ hi
  simp only [hne, decide_false, Bool.false_or, Option.isSome_iff_exists] at hstart
  obtain ⟨a, ha⟩ := hstart
  exact ⟨a, done_mem_of_outcome ha⟩

def revokesAlone : Trace → ℕ → Op → State → Bool
  | H, j, .sql (.revokeUserRefreshTokens _), _ => alone H j
  | _, _, _, _ => true

theorem revokesAlone_sound (env : Env) {H : Trace} {j : ℕ} {o : Op} {s : State} {r : Ret o}
    (h : revokesAlone H j o s = true) : RevokesAll env H j o s r := by
  cases o with
  | sql q =>
    cases q with
    | revokeUserRefreshTokens u =>
      cases r with
      | error e => trivial
      | ok r =>
        intro q _ _ _ i hne
        constructor
        · rintro ⟨t, record, hi, hpending, -⟩
          obtain ⟨a, ha⟩ := alone_sound h hi hne
          exact hpending a ha
        · rintro ⟨email, password, hi, hpending, -⟩
          obtain ⟨a, ha⟩ := alone_sound h hi hne
          exact hpending a ha
    | _ => trivial
  | _ => trivial

/-! ### Alice logs out -/

/-- Alice logs out while her client is refreshing: the refresh stores its token before the logout revokes,
and the token is refused afterwards. -/
theorem revocation_complete_of_alice :
    ∃ c, ((service demo).restrict (RevokesAll demo)).Reachable (State.fresh 0) c ∧
      ((answer 1 c.history).isSome, (answer 2 c.history).isSome, asked 3 c.history, outcome 3 c.history) =
        (true, true, some (.refresh (tally 5)), some (.error .refreshTokenInvalid)) ∧
      RevocationComplete demo c.history := by
  obtain ⟨c, hc, hobs⟩ := exists_restricted_run demo (.fresh 0)
    ([.start registerAlice] ++ goes 0 10 ++
      [.start (.logout (some aliceAuthorization)), .start (.refresh (tally 2))] ++ goes 1 1 ++ goes 2 12 ++
      goes 1 1 ++ [.start (.refresh (tally 5))] ++ goes 3 2)
    (fun c => ((answer 1 c.history).isSome, (answer 2 c.history).isSome, asked 3 c.history,
      outcome 3 c.history))
    (true, true, some (.refresh (tally 5)), some (.error .refreshTokenInvalid)) revokesAlone
    (revokesAlone_sound demo) (by decide +kernel)
  exact ⟨c, hc, hobs, revocation_complete hc⟩

/-- Alice logs out while her client is refreshing: the refresh reads the token before the logout
revokes, stores the new token afterwards, and the new token is refreshed in turn. -/
def logoutSchedule : List (Move Request) :=
  [.start registerAlice] ++ goes 0 10 ++
  [.start (.logout (some aliceAuthorization)), .start (.refresh (tally 2))] ++ goes 2 2 ++
  goes 1 2 ++ goes 2 10 ++ [.start (.refresh (tally 5))] ++ goes 3 12

/-- Whether a statement has accepted claims of `u`. -/
def callerIs (u : Uuid) : (o : Op) × Ret o → Bool
  | ⟨.decode _, .ok claims⟩ => decide (claims.sub = u)
  | _ => false

/-- A token that is being rotated survives a logout. -/
theorem revoked_too_early :
    ∃ c, (service demo).Reachable (State.fresh 0) c ∧ ¬ RevocationComplete demo c.history := by
  obtain ⟨c, hc, hobs⟩ := exists_run demo (.fresh 0) logoutSchedule
    (fun c => (asked 2 c.history, asked 3 c.history, [(localLog 1 c.history).any (callerIs 1),
      ((findStart 1 (.logout (some aliceAuthorization)) c.history).bind
        (findStores 0 1 (TokenService.computeLookupKey demo (tally 2)))).isSome,
      (findStores 2 1 (TokenService.computeLookupKey demo (tally 5)) c.history).isSome,
      ((findLookup 3 (TokenService.computeLookupKey demo (tally 5)) c.history).bind (answer 1)).isSome,
      (answer 3 c.history).isSome]))
    (some (.refresh (tally 2)), some (.refresh (tally 5)), [true, true, true, true, true])
    (by decide +kernel)
  simp only [Prod.mk.injEq, List.cons.injEq, Option.isSome_iff_exists, Option.bind_eq_some_iff,
    List.any_eq_true] at hobs
  obtain ⟨h₂, h₃, ⟨x, hx, hclaims⟩, ⟨past, h, hstart, hstore⟩, ⟨past', hstore'⟩,
    ⟨a, past'', hlookup, ha⟩, ⟨b, hb⟩, -⟩ := hobs
  refine ⟨c, hc, fun hcomplete => ?_⟩
  obtain ⟨r, s, s', hsel⟩ := occurs_of_findLookup hlookup
  have hcaller : Caller c.history 1 1 := by
    unfold callerIs at hclaims
    split at hclaims
    · exact ⟨_, _, hx, of_decide_eq_true hclaims⟩
    · cases hclaims
  have hlogout := occurs_of_findStart hstart
  exact hcomplete hlogout.mem rfl hcaller
    (.rotated (.before hlogout (stores_of_findStores hstore))
      (start_mem_of_asked h₂) (stores_of_findStores hstore'))
    (start_mem_of_asked h₃) hsel (done_mem_of_answer ha) (done_mem_of_answer hb)

end Socle
