import Socle.Demo

/-!
# The provenance of privileges

* `Provenance`: accepted claims were signed by a registration, a login, a refresh or an OAuth login
  that had read an active user with these claims;
* `AcceptedFromUsers`, `RolesByAdmins`: every accepted access token, and every change of a role, goes
  back to such a user;
* `privileges_have_provenance`: both hold in every run, and no user becomes an administrator in a run
  that starts without one.
-/

namespace Socle

open Interaction Prog System

variable {env : Env}

/-- The requests that sign access tokens. -/
def Request.signsIn : Request → Bool
  | .register _ _ _ => true
  | .login _ _ => true
  | .refresh _ => true
  | .oauthLogin _ => true
  | _ => false

/-! ### What handlers do -/

/-- The claims are those of a user that has been read, active unless it has just been inserted, at a
time that has been read. -/
def Signs (env : Env) (log : Log Op Ret) (claims : Claims) : Prop :=
  ∃ (u : User) (m : AuthMethod) (t : OffsetDateTime),
    claims = TokenService.accessClaims env u.id u.email u.displayName u.role m (t / 1000000).toNat ∧
    ⟨.now, t⟩ ∈ log ∧ ∃ x ∈ log, returnedUser x = some u ∧ (x.1.opensAccount = true ∨ u.isActive = true)

/-- Every claim is signed for a user, and roles are assigned to others by callers that present an
administrator's claims. -/
def Op.Privileged (env : Env) (q : Request) (log : Log Op Ret) : Op → Prop
  | .encode claims => q.signsIn = true ∧ Signs env log claims
  | .sql (.updateRole _ target) => ∃ token claims, ⟨.decode token, .ok claims⟩ ∈ log ∧
    claims.role = .admin ∧ claims.sub ≠ target
  | _ => True

/-- The claims of a user that has been read, signed as soon as the clock has been read. -/
theorem Signs.of_read {log : Log Op Ret} {u : User} {m : AuthMethod} {t : OffsetDateTime}
    (h : ∃ x ∈ log, returnedUser x = some u ∧ (x.1.opensAccount = true ∨ u.isActive = true)) :
    Signs env (⟨.now, t⟩ :: log)
      (TokenService.accessClaims env u.id u.email u.displayName u.role m (t / 1000000).toNat) := by
  obtain ⟨x, hx, hu, hactive⟩ := h
  exact ⟨u, m, t, rfl, List.mem_cons_self, x, List.mem_cons_of_mem _ hx, hu, hactive⟩

/-- Every handler reads before it signs, and checks before it assigns a role. -/
theorem handle_privileged (q : Request) :
    SatE (handle env q) (fun log o => o.Privileged env q log) (fun _ _ => True) (fun _ _ => True) [] := by
  cases q with
  | register email username password =>
    simp [handle, Routes.register, AuthService.register, Op.Privileged]
    intro _ _ _ salt hash _ n user credential t _
    exact ⟨rfl, .of_read ⟨_, List.mem_cons_self, rfl, Or.inl rfl⟩⟩
  | login email password =>
    simp [handle, Routes.login, AuthService.login, Op.Privileged]
    intro user hactive credential _ t _
    exact ⟨rfl, .of_read (by simp [returnedUser, hactive])⟩
  | refresh token =>
    simp [handle, Routes.refresh, AuthService.refresh, Op.Privileged]
    intro record _ _ _ _ _ _ _ _ _ _ _ _ _ user hactive
    exact ⟨fun t _ => ⟨rfl, .of_read (by simp [returnedUser, hactive])⟩,
      fun credential t _ => ⟨rfl, .of_read (by simp [returnedUser, hactive])⟩⟩
  | oauthLogin profile =>
    simp [handle, Routes.oauthLogin, AuthService.loginOrRegisterOAuth, Op.Privileged]
    refine ⟨⟨?inserted, ?byEmail⟩, ?linked⟩
    case inserted =>
      intro n user _ _ hactive
      exact ⟨fun t _ => ⟨rfl, .of_read (by simp [returnedUser, hactive])⟩,
        fun credential t _ => ⟨rfl, .of_read (by simp [returnedUser, hactive])⟩⟩
    case byEmail =>
      intro user _ _ hactive
      exact ⟨fun t _ => ⟨rfl, .of_read (by simp [returnedUser, hactive])⟩,
        fun credential t _ => ⟨rfl, .of_read (by simp [returnedUser, hactive])⟩⟩
    case linked =>
      intro user hactive
      exact ⟨fun t _ => ⟨rfl, .of_read (by simp [returnedUser, hactive])⟩,
        fun credential t _ => ⟨rfl, .of_read (by simp [returnedUser, hactive])⟩⟩
  | updateUserRole authorization target role =>
    simp [handle, Routes.updateUserRole, AdminService.updateUserRole, Op.Privileged]
    intro token _ claims hadmin hne
    exact ⟨hadmin, hne⟩
  | logout | listConnections | unlinkConnection | getMe | changePassword | deactivateAccount =>
    simp [handle, Routes.logout, Routes.listConnections, Routes.unlinkConnection, Routes.getMe,
      Routes.changePassword, Routes.deactivateAccount, AuthService.logout, Op.Privileged]

/-! ### Statements -/

section Roles

variable {now : OffsetDateTime} {q : Sql} {us : List User}

/-- A user keeps its role, unless the statement assigns one. -/
theorem Sql.mem_users_role (now : OffsetDateTime) (q : Sql) {u : User} (hu : u ∈ us) :
    (∃ u' ∈ q.users now us, u'.id = u.id ∧ u'.role = u.role) ∨ ∃ role, q = .updateRole role u.id := by
  cases q with
  | insertAccount | insertUser => exact Or.inl ⟨u, List.mem_append_left _ hu, rfl, rfl⟩
  | updateRole role id =>
    by_cases hid : u.id = id
    · exact Or.inr ⟨role, by rw [hid]⟩
    · exact Or.inl ⟨u, List.mem_map.2 ⟨u, hu, if_neg hid⟩, rfl, rfl⟩
  | deactivateUser id =>
    refine Or.inl ⟨_, List.mem_map_of_mem hu, ?_⟩
    split <;> exact ⟨rfl, rfl⟩
  | _ => exact Or.inl ⟨u, hu, rfl, rfl⟩

/-- A new user is no administrator. -/
theorem Sql.role_of_new {u' : User} (hu' : u' ∈ q.users now us) (hnew : ∀ u ∈ us, u.id ≠ u'.id) :
    u'.role = .user := by
  cases q with
  | insertAccount | insertUser =>
    rcases List.mem_append.1 hu' with hu' | hu'
    · exact absurd rfl (hnew u' hu')
    · rw [List.mem_singleton.1 hu']
      rfl
  | updateRole role id =>
    obtain ⟨u, hu, rfl⟩ := List.mem_map.1 hu'
    exact absurd (by split <;> rfl) (hnew u hu)
  | deactivateUser id =>
    obtain ⟨u, hu, rfl⟩ := List.mem_map.1 hu'
    exact absurd (by split <;> rfl) (hnew u hu)
  | _ => exact absurd rfl (hnew u' hu')

end Roles

/-- The statement that changes a user's role assigns one. -/
theorem Stmt.changes_role {o : Op} {r : Ret o} {s s' : State} (h : Stmt env o s r s') {u u' : User}
    (hu : u ∈ s.db.users.rows) (hu' : u' ∈ s'.db.users.rows) (hid : u'.id = u.id)
    (hrole : u'.role ≠ u.role) : ∃ role, o = .sql (.updateRole role u.id) := by
  have hsame : ∀ v ∈ s'.db.users.rows, v.id = u.id → v.role = u.role → False := by
    intro v hv hvid hvrole
    rw [← Db.user_unique hu' hv (hid.trans hvid.symm)] at hvrole
    exact hrole hvrole
  rcases h.db_cases with hdb | ⟨q, res, rfl, hq⟩
  · rw [hdb] at hsame
    exact (hsame u hu rfl rfl).elim
  · rcases Sql.mem_users_role s.clock q hu with ⟨v, hv, hvid, hvrole⟩ | ⟨role, rfl⟩
    · rw [← (apply_ok hq).1] at hv
      exact (hsame v hv hvid hvrole).elim
    · exact ⟨role, rfl⟩

/-! ### Provenance in runs -/

/-- Request `i` has read the user `u`, who was in the database at that moment. -/
def HasRead (H : Trace) (i : ℕ) (u : User) : Prop :=
  ∃ (o : Op) (r : Ret o) (s s' : State),
    .stmt i o r s s' ∈ H ∧ returnedUser ⟨o, r⟩ = some u ∧ u ∈ s'.db.users.rows

/-- Where the claims that are accepted at the time `time` come from: a request that signs in has read
the clock and an active user with these claims, and has signed them. -/
def Provenance (env : Env) (H : Trace) (time : ℕ) (claims : Claims) : Prop :=
  ∃ (i : ℕ) (q : Request) (past : Trace) (x : Except JwtError String) (s s' : State),
    .start i q ∈ past ∧ q.signsIn = true ∧ Occurs H past (.stmt i (.encode claims) x s s') ∧
    (∃ (t : OffsetDateTime) (s₁ s₁' : State), .stmt i .now t s₁ s₁' ∈ past ∧
      claims.iat = s₁.unixNow ∧
      time ≤ s₁.unixNow + env.config.accessTokenExpirySecs.toNat + leeway) ∧
    ∃ u, HasRead past i u ∧ u.isActive = true ∧ claims.sub = u.id ∧ claims.email = u.email ∧
      claims.displayName = u.displayName ∧ claims.role = u.role

/-- Every access token that has been accepted goes back to an active user. -/
def AcceptedFromUsers (env : Env) (H : Trace) : Prop :=
  ∀ {h j token claims s s'}, Occurs H h (.stmt j (.decode token) (.ok claims) s s') →
    Provenance env h s.unixNow claims

/-- Every change of a role is made by a request that has been accepted with the claims of another user,
who was an active administrator. -/
def RolesByAdmins (env : Env) (H : Trace) : Prop :=
  ∀ {h j o r s s'} {u u' : User}, Occurs H h (.stmt j o r s s') →
    u ∈ s.db.users.rows → u' ∈ s'.db.users.rows → u'.id = u.id → u'.role ≠ u.role →
    ∃ past token claims t t', Occurs h past (.stmt j (.decode token) (.ok claims) t t') ∧
      claims.sub ≠ u.id ∧ claims.role = .admin ∧ Provenance env past t.unixNow claims

/-- No user is an administrator. -/
def NoAdmin (s : State) : Prop := ∀ u ∈ s.db.users.rows, u.role ≠ .admin

section Proof

variable {s₀ : State} {c : Pool Op Ret Request (Except AppError Response) State}
  (hs₀ : s₀.minted = []) (hc : (service env).Reachable s₀ c)

include hs₀ hc

/-- What has been signed was signed by a statement of the run. -/
theorem minted_signed {claims : Claims} (hm : claims ∈ c.state.minted) :
    ∃ past i x s s', Occurs c.history past (.stmt i (.encode claims) x s s') := by
  induction hc with
  | init =>
    rw [show (Pool.init s₀ : Pool Op Ret Request (Except AppError Response) State).state = s₀ from rfl,
      hs₀] at hm
    cases hm
  | @step c c' hreach hstep ih =>
    cases hstep with
    | tick ht =>
      obtain ⟨t, -, rfl⟩ := ht
      exact ih hm
    | start q =>
      obtain ⟨past, i, x, s, s', he⟩ := ih hm
      exact ⟨past, i, x, s, s', occurs_stmt_start.2 he⟩
    | @stmt j o k r s' hi ho =>
      have hold : claims ∈ c.state.minted →
          ∃ past i x t t', Occurs (c.stmt j o r s' (k r)).history past (.stmt i (.encode claims) x t t') := by
        intro hm
        obtain ⟨past, i, x, t, t', he⟩ := ih hm
        exact ⟨past, i, x, t, t', occurs_stmt_stmt.2 (Or.inr he)⟩
      have hm' : claims ∈ s'.minted := hm
      rcases Stmt.minted ho with heq | ⟨claims', rfl, heq⟩
      · rw [heq] at hm'
        exact hold hm'
      · rw [heq] at hm'
        rcases List.mem_cons.1 hm' with rfl | hm'
        · exact ⟨_, j, r, _, _, occurs_stmt_stmt.2 (Or.inl ⟨rfl, rfl⟩)⟩
        · exact hold hm'

/-- **Accepted tokens have provenance.** -/
theorem accepted_from_users : AcceptedFromUsers env c.history := by
  intro h j token claims s s' he
  obtain ⟨c₀, -, hc₀, rfl, rfl, -⟩ := hc.past he
  obtain ⟨hdec, -⟩ := (service_stmt hc he.mem).decode_eq
  obtain ⟨hminted, -, hexp⟩ := decode_ok hdec.symm
  obtain ⟨past, i, x, t, t', hsign⟩ := minted_signed hs₀ hc₀ hminted
  obtain ⟨q, hq, hsigns, u, m, now, heq, hnow, y, hy, hread, hactive⟩ :=
    hc₀.at_stmt handle_privileged hsign
  obtain ⟨s₁, s₁', hclock⟩ := exists_stmt_of_mem_localLog hnow
  obtain ⟨s₂, s₂', huser⟩ := exists_stmt_of_mem_localLog (o := y.1) (r := y.2) hy
  obtain ⟨rfl, -⟩ := (service_stmt hc₀ (hsign.past.subset hclock)).now_eq
  obtain ⟨hmem, hopened⟩ := returnedUser_row (service_stmt hc₀ (hsign.past.subset huser)) hread
  have hiat : ((s₁.clock : ℤ) / 1000000).toNat = s₁.unixNow := by
    rw [State.unixNow]
    omega
  refine ⟨i, q, past, x, t, t', hq, hsigns, hsign, ⟨_, s₁, s₁', hclock, ?_, ?_⟩, u,
    ⟨y.1, y.2, s₂, s₂', huser, hread, hmem⟩, hactive.elim hopened id, ?_⟩
  · rw [heq, ← hiat]
    rfl
  · -- The expiry may have wrapped around, which only makes it smaller.
    have hle := Nat.mod_le (s₁.unixNow + env.config.accessTokenExpirySecs.toNat) (2 ^ 64)
    rw [heq] at hexp
    simp only [TokenService.accessClaims, hiat] at hexp
    omega
  · rw [heq]
    exact ⟨rfl, rfl, rfl, rfl⟩

/-- **Roles are assigned by administrators.** -/
theorem roles_by_admins : RolesByAdmins env c.history := by
  intro h j o r s s' u u' he hu hu' hid hrole
  obtain ⟨role, rfl⟩ := (service_stmt hc he.mem).changes_role hu hu' hid hrole
  obtain ⟨q, -, token, claims, hlog, hadmin, hne⟩ := hc.at_stmt handle_privileged he
  obtain ⟨past, t, t', hdec⟩ := stmt_of_log hlog
  exact ⟨past, token, claims, t, t', hdec, hne, hadmin, accepted_from_users hs₀ hc (he.trans hdec)⟩

/-- **Nobody becomes an administrator** where nobody is one. -/
theorem no_admin (hnone : NoAdmin s₀) :
    NoAdmin c.state ∧ ∀ {i o r s s'}, .stmt i o r s s' ∈ c.history → NoAdmin s' := by
  induction hc with
  | init => exact ⟨hnone, by simp [Pool.init]⟩
  | @step c c' hreach hstep ih =>
    have hroles : RolesByAdmins env c'.history := roles_by_admins hs₀ (hreach.step hstep)
    cases hstep with
    | tick ht =>
      obtain ⟨t, -, rfl⟩ := ht
      exact ih
    | start q =>
      refine ⟨ih.1, fun he => ?_⟩
      obtain ⟨h, hh⟩ := exists_occurs he
      exact ih.2 (occurs_stmt_start.1 hh).mem
    | @stmt j o k r s' hi ho =>
      have hnew : NoAdmin s' := by
        intro u' hu' hadmin
        by_cases hold : ∃ u ∈ c.state.db.users.rows, u'.id = u.id
        · -- The role of an old user has changed, so there was an administrator before.
          obtain ⟨u, hu, hid⟩ := hold
          have hrole : u'.role ≠ u.role := fun heq => ih.1 u hu (heq ▸ hadmin)
          obtain ⟨past, token, claims, t, t', hdec, -, hclaims, i, q, past', x, y, y', -, -, hsign, -,
            v, ⟨o', r', z, z', hread, -, hmem⟩, -, -, -, -, hvrole⟩ :=
            hroles (occurs_stmt_stmt.2 (Or.inl ⟨rfl, rfl⟩)) hu hu' hid hrole
          exact ih.2 (hdec.past.subset (hsign.past.subset hread)) v hmem (hvrole ▸ hclaims)
        · rcases Stmt.db_cases ho with hdb | ⟨q, res, rfl, hq⟩
          · rw [hdb] at hu'
            exact hold ⟨u', hu', rfl⟩
          · rw [(apply_ok hq).1] at hu'
            have huser := Sql.role_of_new hu' fun u hu hid => hold ⟨u, hu, hid.symm⟩
            rw [huser] at hadmin
            cases hadmin
      refine ⟨hnew, fun he => ?_⟩
      obtain ⟨h, hh⟩ := exists_occurs he
      rcases occurs_stmt_stmt.1 hh with ⟨heq, -⟩ | hh
      · cases heq
        exact hnew
      · exact ih.2 hh.mem

end Proof

/-- **Privileges have provenance.**  In every run that starts without outstanding access tokens, what is
accepted goes back to an active user, roles are assigned by administrators to others, and nobody becomes
an administrator where nobody is one. -/
theorem privileges_have_provenance {s₀ : State}
    {c : Pool Op Ret Request (Except AppError Response) State} (hs₀ : s₀.minted = [])
    (hc : (service env).Reachable s₀ c) :
    AcceptedFromUsers env c.history ∧ RolesByAdmins env c.history ∧ (NoAdmin s₀ → NoAdmin c.state) :=
  ⟨accepted_from_users hs₀ hc, roles_by_admins hs₀ hc, fun hnone => (no_admin hs₀ hc hnone).1⟩

/-- An installation with an account for its administrator. -/
def administered : State :=
  match (Sql.insertAccount 0 "root@example.com" "root" "root" (escape "password")).apply .ideal 0 .empty with
  | .ok (_, db) => ⟨db.updateRole 0 0 .admin, 0, 1, []⟩
  | .error _ => .fresh 0

/-- The administrator's header. -/
def rootAuthorization : String := "Bearer " ++ demo.prim.jwtEncode demo.config.jwtSecret
  (TokenService.accessClaims demo 0 "root@example.com" "root" .admin .password 0)

/-- The administrator logs in and makes Alice, who registers, an administrator too. -/
theorem privileges_have_provenance_of_alice :
    ∃ c, (service demo).Reachable administered c ∧
      c.state.db.users.rows.map User.role = [.admin, .admin] ∧
      AcceptedFromUsers demo c.history ∧ RolesByAdmins demo c.history ∧
      (NoAdmin administered → NoAdmin c.state) := by
  obtain ⟨c, hc, hobs⟩ := exists_run demo administered
    ([.start (.login "root@example.com" "password")] ++ goes 0 9 ++ [.start registerAlice] ++
      goes 1 10 ++ [.start (.updateUserRole (some rootAuthorization) 5 .admin)] ++ goes 2 3)
    (fun c => c.state.db.users.rows.map User.role) [.admin, .admin] (by decide +kernel)
  exact ⟨c, hc, hobs, privileges_have_provenance (by decide +kernel) hc⟩

end Socle
