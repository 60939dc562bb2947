import Socle.Service

/-!
# Drawn identifiers

The identifiers, lookup keys and hashes in the database come from randomness that has been drawn, so
that what is drawn next is new.

* `Op.Drawn`: the parameters of an insertion come from the request's own draws;
* `Drawn`: the rows of a state come from draws of the past;
* `service_drawn`: every reachable state has this property.
-/

namespace Socle

open Interaction Prog System

variable {env : Env}

/-- What an insertion stores comes from earlier draws of the same request. -/
def Op.Drawn (env : Env) (log : Log Op Ret) : Op → Prop
  | .sql (.insertAccount id _ _ _ _) => ∃ n : ℕ, ⟨.random, n⟩ ∈ log ∧ id = env.prim.uuidV7 n
  | .sql (.insertUser id _ _) => ∃ n : ℕ, ⟨.random, n⟩ ∈ log ∧ id = env.prim.uuidV7 n
  | .sql (.insertRefreshToken id _ hash key _) =>
    (∃ n : ℕ, ⟨.random, n⟩ ∈ log ∧ id = env.prim.uuidV7 n) ∧
    ∃ n : ℕ, ⟨.random, n⟩ ∈ log ∧ key = TokenService.computeLookupKey env (env.prim.opaqueToken n) ∧
      ∃ salt, env.prim.argon2Hash (env.prim.opaqueToken n) salt = some hash
  | _ => True

theorem createRefreshToken_drawn {userId : Uuid} {log : Log Op Ret} :
    SatE (TokenService.createRefreshToken env userId) (fun log o => o.Drawn env log)
      (fun _ _ => True) (fun _ _ => True) log := by
  simp only [TokenService.satE_createRefreshToken, Op.Drawn, implies_true, true_and, and_true]
  intro n salt hash hhash t _ k
  exact ⟨⟨k, List.mem_cons_self, rfl⟩, n, by simp, rfl, salt, hhash⟩

/-- Every handler inserts what it has drawn. -/
theorem handle_drawn (q : Request) :
    SatE (handle env q) (fun log o => o.Drawn env log) (fun _ _ => True) (fun _ _ => True) [] := by
  cases q <;>
    simp [handle, Routes.register, Routes.login, Routes.refresh, Routes.logout, Routes.oauthLogin,
      Routes.listConnections, Routes.unlinkConnection, Routes.getMe, Routes.changePassword,
      Routes.deactivateAccount, Routes.updateUserRole, AuthService.register, AuthService.login,
      AuthService.refresh, AuthService.logout, AuthService.loginOrRegisterOAuth,
      AdminService.updateUserRole, createRefreshToken_drawn, -TokenService.satE_createRefreshToken,
      Op.Drawn.eq_1, Op.Drawn.eq_2, Op.Drawn.eq_3, Op.Drawn.eq_4]

/-- The identifiers of users and refresh tokens, the lookup keys and the hashes come from draws of the
past. -/
structure Drawn (env : Env) (s : State) : Prop where
  users : ∀ u ∈ s.db.users.rows, ∃ n < s.draws, u.id = env.prim.uuidV7 n
  refreshTokens : ∀ r ∈ s.db.refreshTokens.rows, (∃ n < s.draws, r.id = env.prim.uuidV7 n) ∧
    ∃ n < s.draws, r.lookupKey = TokenService.computeLookupKey env (env.prim.opaqueToken n) ∧
      ∃ salt, env.prim.argon2Hash (env.prim.opaqueToken n) salt = some r.tokenHash

theorem drawn_fresh (env : Env) (clock : ℕ) : Drawn env (.fresh clock) where
  users := by simp [State.fresh, Db.empty]
  refreshTokens := by simp [State.fresh, Db.empty]

/-- One statement whose parameters have been drawn keeps this. -/
theorem Drawn.stmt {s s' : State} {o : Op} {r : Ret o} {log : Log Op Ret} (hs : Drawn env s)
    (ho : o.Drawn env log) (hlog : ∀ n : ℕ, ⟨.random, n⟩ ∈ log → n < s.draws)
    (h : Stmt env o s r s') : Drawn env s' := by
  have hdraws := h.le.draws
  cases o with
  | sql q =>
    rcases r with e | res
    · rw [h.sql_error]
      exact hs
    · obtain ⟨db, hq, rfl⟩ := h.sql_ok
      obtain ⟨hu, -, -, hr⟩ := apply_ok hq
      constructor
      · intro u' hu'
        dsimp only at hu'
        rw [hu] at hu'
        rcases Sql.users_old hu' with ⟨u, hmem, hid⟩ | ⟨_, _, _, _, rfl⟩ | ⟨_, _, rfl⟩
        · rw [hid]
          exact hs.users u hmem
        · obtain ⟨n, hn, hid⟩ := ho
          exact ⟨n, hlog n hn, hid⟩
        · obtain ⟨n, hn, hid⟩ := ho
          exact ⟨n, hlog n hn, hid⟩
      · intro r' hr'
        dsimp only at hr'
        rw [hr] at hr'
        rcases Sql.refreshTokens_old hr' with ⟨r, hmem, heq⟩ | rfl
        · rw [heq]
          exact hs.refreshTokens r hmem
        · obtain ⟨⟨n, hn, hid⟩, m, hm, hkey, hhash⟩ := ho
          exact ⟨⟨n, hlog n hn, hid⟩, m, hlog m hm, hkey, hhash⟩
  | random =>
    obtain ⟨-, rfl⟩ := h.random_eq
    constructor
    · intro u hu
      obtain ⟨n, hn, hid⟩ := hs.users u hu
      exact ⟨n, Nat.lt_succ_of_lt hn, hid⟩
    · intro r hr
      obtain ⟨⟨n, hn, hid⟩, m, hm, hkey⟩ := hs.refreshTokens r hr
      exact ⟨⟨n, Nat.lt_succ_of_lt hn, hid⟩, m, Nat.lt_succ_of_lt hm, hkey⟩
  | now =>
    rw [h.now_eq.2]
    exact hs
  | abort => exact r.elim
  | encode c =>
    obtain ⟨-, rfl⟩ := h.encode_eq
    exact ⟨hs.users, hs.refreshTokens⟩
  | decode token =>
    rw [h.decode_eq.2]
    exact hs

/-- So does a program that inserts what it has drawn. -/
theorem Drawn.runs {α : Type} {p : App α} {s s' : State} {x : Except AppError α}
    {Q : Log Op Ret → α → Prop} {E : Log Op Ret → AppError → Prop} (hs : Drawn env s)
    (hp : SatE p (fun log o => o.Drawn env log) Q E []) (h : Runs (Stmt env) p.run s x s') :
    Drawn env s' := by
  have hstep : ∀ (log : Log Op Ret) (o : Op) (s : State) (r : Ret o) (s' : State), o.Drawn env log →
      Stmt env o s r s' → (Drawn env s ∧ ∀ n : ℕ, ⟨.random, n⟩ ∈ log → n < s.draws) →
      Drawn env s' ∧ ∀ n : ℕ, ⟨.random, n⟩ ∈ (⟨o, r⟩ :: log : Log Op Ret) → n < s'.draws := by
    rintro log o s r s' ho hstmt ⟨hs, hlog⟩
    refine ⟨hs.stmt ho hlog hstmt, fun n hn => ?_⟩
    rcases List.mem_cons.1 hn with heq | hn
    · cases heq
      obtain ⟨rfl, rfl⟩ := hstmt.random_eq
      exact Nat.lt_succ_self _
    · exact Nat.lt_of_lt_of_le (hlog n hn) hstmt.le.draws
  obtain ⟨_, -, hs', -⟩ := h.invariant _ hp hstep ⟨hs, fun n hn => by cases hn⟩
  exact hs'

/-- **Everything stored has been drawn**, in every state of every run. -/
theorem service_drawn {s₀ : State} (hs₀ : Drawn env s₀)
    {c : Pool Op Ret Request (Except AppError Response) State} (hc : (service env).Reachable s₀ c) :
    Drawn env c.state := by
  induction hc with
  | init => exact hs₀
  | @step c c' hreach hstep ih =>
    cases hstep with
    | start q => exact ih
    | tick ht =>
      obtain ⟨t, -, rfl⟩ := ht
      exact ⟨ih.users, ih.refreshTokens⟩
    | @stmt i o k r s' hi ho =>
      obtain ⟨q, -, hsat⟩ := (hreach.logged handle_drawn).thread hi
      refine ih.stmt hsat.1 (fun n hn => ?_) ho
      obtain ⟨past, t, t', he⟩ := stmt_of_log hn
      obtain ⟨rfl, rfl⟩ := (service_stmt hreach he.mem).random_eq
      exact (service_le_state hreach he.mem).draws

/-- What is drawn next identifies no user. -/
theorem Drawn.user_ne {s : State} (hs : Drawn env s) (hx : env.prim.Exact) {n : ℕ} (hn : s.draws ≤ n) :
    ∀ u ∈ s.db.users.rows, u.id ≠ env.prim.uuidV7 n := by
  intro u hu heq
  obtain ⟨m, hm, hid⟩ := hs.users u hu
  have hmn := hx.uuid_injective (hid.symm.trans heq)
  omega

end Socle
