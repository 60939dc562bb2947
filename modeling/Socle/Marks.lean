import Socle.Freshness

/-!
# Marks

The identifiers, hashes and lookup keys by which rows are known come from randomness that is used once,
also when requests interleave.

* `Mark`, `Db.marks`, `Op.marks`: what rows are known by, in the database and in an insertion;
* `Mark.From`: the draw from which a mark comes;
* `Op.FromDraws`, `Op.InsertsOnce`: what a request inserts comes from its draws, one row in each table;
* `draw_unique`: two requests draw nothing in common;
* `fresh_marks`: what is inserted has not been in the database before;
* `service_marked`: everything that the service stores is marked by draws.
-/

namespace Socle

open Interaction Prog System

variable {env : Env}

/-- What a row is known by. -/
inductive Mark
  | user (id : Uuid)
  | link (id : Uuid)
  | token (id : Uuid)
  | hash (tokenHash : String)
  | key (lookupKey : String)

/-- The marks of the rows of a database. -/
def Db.marks (db : Db) : List Mark :=
  db.users.rows.map (fun u => .user u.id) ++ db.oauthCredentials.rows.map (fun o => .link o.id) ++
    db.refreshTokens.rows.flatMap fun r => [.token r.id, .hash r.tokenHash, .key r.lookupKey]

/-- The marks of the rows that a statement inserts. -/
def Op.marks : Op → List Mark
  | .sql (.insertAccount id _ _ _ _) => [.user id]
  | .sql (.insertUser id _ _) => [.user id]
  | .sql (.insertOAuthCredential id _ _ _ _) => [.link id]
  | .sql (.insertRefreshToken id _ tokenHash lookupKey _) => [.token id, .hash tokenHash, .key lookupKey]
  | _ => []

/-- The tables in which rows are inserted under a new identifier. -/
inductive Entity
  | user
  | link
  | token
  deriving DecidableEq

/-- The table in which a statement inserts a row. -/
@[simp] def Op.inserts : Op → Option Entity
  | .sql (.insertAccount _ _ _ _ _) => some .user
  | .sql (.insertUser _ _ _) => some .user
  | .sql (.insertOAuthCredential _ _ _ _ _) => some .link
  | .sql (.insertRefreshToken _ _ _ _ _) => some .token
  | _ => none

def Mark.entity : Mark → Entity
  | user _ => .user
  | link _ => .link
  | token _ => .token
  | hash _ => .token
  | key _ => .token

theorem Op.inserts_of_mem_marks {o : Op} {m : Mark} (hm : m ∈ o.marks) : o.inserts = some m.entity := by
  unfold Op.marks at hm
  split at hm
  · rw [List.mem_singleton.1 hm]
    rfl
  · rw [List.mem_singleton.1 hm]
    rfl
  · rw [List.mem_singleton.1 hm]
    rfl
  · simp only [List.mem_cons, List.not_mem_nil, or_false] at hm
    rcases hm with rfl | rfl | rfl <;> rfl
  · cases hm

/-- The mark comes from the draw `n`. -/
def Mark.From (env : Env) (n : ℕ) : Mark → Prop
  | user id => id = env.prim.uuidV7 n
  | link id => id = env.prim.uuidV7 n
  | token id => id = env.prim.uuidV7 n
  | hash tokenHash => ∃ salt, env.prim.argon2Hash (env.prim.opaqueToken n) salt = some tokenHash
  | key lookupKey => lookupKey = TokenService.computeLookupKey env (env.prim.opaqueToken n)

/-- A mark comes from one draw only. -/
theorem Mark.From.unique (hx : env.prim.Exact) {m : Mark} {n n' : ℕ} (h : m.From env n)
    (h' : m.From env n') : n = n' := by
  cases m with
  | user id | link id | token id => exact hx.uuid_injective (Eq.trans (Eq.symm h) h')
  | hash tokenHash =>
    obtain ⟨salt, h⟩ := h
    obtain ⟨salt', h'⟩ := h'
    have hverify := hx.verify_hash _ (env.prim.opaqueToken n) _ _ h
    rw [hx.verify_hash _ _ _ _ h'] at hverify
    exact hx.token_injective (by simpa using hverify)
  | key lookupKey => exact hx.token_injective (hx.hmac_injective _ (Eq.trans (Eq.symm h) h'))

section Rows

variable {db : Db} {m : Mark}

theorem mem_marks : m ∈ db.marks ↔ (∃ u ∈ db.users.rows, m = .user u.id) ∨
    (∃ o ∈ db.oauthCredentials.rows, m = .link o.id) ∨
    ∃ r ∈ db.refreshTokens.rows, m = .token r.id ∨ m = .hash r.tokenHash ∨ m = .key r.lookupKey := by
  simp [Db.marks, eq_comm]

/-- Every mark has been there before, or is inserted. -/
theorem Stmt.marks {s s' : State} {o : Op} {r : Ret o} (h : Stmt env o s r s') (hm : m ∈ s'.db.marks) :
    m ∈ s.db.marks ∨ m ∈ o.marks := by
  rcases h.db_cases with hdb | ⟨q, res, rfl, hq⟩
  · exact Or.inl (hdb ▸ hm)
  obtain ⟨hu, -, ho, hr⟩ := apply_ok hq
  rw [mem_marks, hu, ho, hr] at hm
  rcases hm with ⟨u, hmem, rfl⟩ | ⟨o, hmem, rfl⟩ | ⟨row, hmem, hm⟩
  · rcases Sql.users_old hmem with ⟨u', hu', hid⟩ | ⟨_, _, _, _, rfl⟩ | ⟨_, _, rfl⟩
    · exact Or.inl (mem_marks.2 (Or.inl ⟨u', hu', by rw [hid]⟩))
    · exact Or.inr List.mem_cons_self
    · exact Or.inr List.mem_cons_self
  · cases q with
    | insertOAuthCredential id userId provider puid avatarUrl =>
      rw [Sql.oauthCredentials] at hmem
      split at hmem
      · exact Or.inl (mem_marks.2 (Or.inr (Or.inl ⟨o, hmem, rfl⟩)))
      · rcases List.mem_append.1 hmem with hmem | hmem
        · exact Or.inl (mem_marks.2 (Or.inr (Or.inl ⟨o, hmem, rfl⟩)))
        · rw [List.mem_singleton.1 hmem]
          exact Or.inr List.mem_cons_self
    | deleteOAuthCredential userId provider =>
      exact Or.inl (mem_marks.2 (Or.inr (Or.inl ⟨o, (List.mem_filter.1 hmem).1, rfl⟩)))
    | _ => exact Or.inl (mem_marks.2 (Or.inr (Or.inl ⟨o, hmem, rfl⟩)))
  · rcases Sql.refreshTokens_old hmem with ⟨row', hrow', heq⟩ | rfl
    · refine Or.inl (mem_marks.2 (Or.inr (Or.inr ⟨row', hrow', ?_⟩)))
      rw [heq] at hm
      exact hm
    · exact Or.inr (by simpa [Op.marks] using hm)

end Rows

/-! ### What handlers do -/

/-- The identifier of a link comes from the request's draws. -/
def Op.LinksDrawn (env : Env) (log : Log Op Ret) : Op → Prop
  | .sql (.insertOAuthCredential id _ _ _ _) => ∃ n : ℕ, ⟨.random, n⟩ ∈ log ∧ id = env.prim.uuidV7 n
  | _ => True

/-- What a statement inserts comes from the request's draws. -/
def Op.FromDraws (env : Env) (log : Log Op Ret) (o : Op) : Prop :=
  ∀ m ∈ o.marks, ∃ n : ℕ, ⟨.random, n⟩ ∈ log ∧ m.From env n

/-- The request has inserted nothing in the same table before. -/
def Op.InsertsOnce (log : Log Op Ret) (o : Op) : Prop :=
  o.inserts = none ∨ ∀ x ∈ log, x.1.inserts ≠ o.inserts

theorem Op.fromDraws {log : Log Op Ret} {o : Op} (hdrawn : o.Drawn env log)
    (hlinks : o.LinksDrawn env log) : o.FromDraws env log := by
  intro m hm
  unfold Op.marks at hm
  split at hm
  · rw [List.mem_singleton.1 hm]
    exact hdrawn
  · rw [List.mem_singleton.1 hm]
    exact hdrawn
  · rw [List.mem_singleton.1 hm]
    exact hlinks
  · obtain ⟨hid, n, hn, hkey, hhash⟩ := hdrawn
    simp only [List.mem_cons, List.not_mem_nil, or_false] at hm
    rcases hm with rfl | rfl | rfl
    · exact hid
    · exact ⟨n, hn, hhash⟩
    · exact ⟨n, hn, hkey⟩
  · cases hm

theorem handle_linksDrawn (q : Request) :
    SatE (handle env q) (fun log o => o.LinksDrawn env log) (fun _ _ => True) (fun _ _ => True) [] := by
  cases q <;>
    simp [handle, Routes.register, Routes.login, Routes.refresh, Routes.logout, Routes.oauthLogin,
      Routes.listConnections, Routes.unlinkConnection, Routes.getMe, Routes.changePassword,
      Routes.deactivateAccount, Routes.updateUserRole, AuthService.register, AuthService.login,
      AuthService.refresh, AuthService.logout, AuthService.loginOrRegisterOAuth,
      AdminService.updateUserRole, Op.LinksDrawn]

/-! ### Runs -/

/-- The marks of a state come from draws of the past. -/
def Marked (env : Env) (s : State) : Prop := ∀ m ∈ s.db.marks, ∃ n < s.draws, m.From env n

theorem marked_fresh (env : Env) (clock : ℕ) : Marked env (.fresh clock) := by
  simp [Marked, State.fresh, Db.empty, Db.marks]

section Runs

variable {Req α : Type} {sys : System Op Ret Req α State} {s₀ : State} {c : Pool Op Ret Req α State}
  (hsem : ∀ {H i o s r s'}, sys.sem H i o s r s' → Stmt env o s r s')
  (htick : ∀ {s s'}, sys.tick s s' → Tick s s') (hc : sys.Reachable s₀ c)

include hsem htick hc

/-- The order of the states of the run. -/
theorem run_le : s₀.Le c.state ∧
    ∀ {i o r s s'}, .stmt i o r s s' ∈ c.history → s₀.Le s ∧ s.Le s' ∧ s'.Le c.state :=
  hc.order State.Le.refl (fun h h' => h.trans h') (fun h => (htick h).le) fun h => (hsem h).le

theorem run_ordered {i j : ℕ} {o o' : Op} {r : Ret o} {r' : Ret o'} {s s' t t' : State}
    {h : History Op Ret Req α State} (he : Occurs c.history h (.stmt i o r s s'))
    (he' : .stmt j o' r' t t' ∈ h) : t'.Le s :=
  hc.ordered State.Le.refl (fun h h' => h.trans h') (fun h => (htick h).le) (fun h => (hsem h).le) he he'

/-- A draw of a request is an event of the run, after the start. -/
theorem draw_event {i n : ℕ} (hn : ⟨.random, n⟩ ∈ localLog i c.history) :
    s₀.draws ≤ n ∧ n < c.state.draws ∧ ∃ past s s', Occurs c.history past (.stmt i .random n s s') ∧
      s.draws = n ∧ s'.draws = n + 1 := by
  obtain ⟨s, s', hm⟩ := exists_stmt_of_mem_localLog hn
  obtain ⟨past, he⟩ := exists_occurs hm
  obtain ⟨h₀, -, hlast⟩ := (run_le hsem htick hc).2 hm
  obtain ⟨rfl, rfl⟩ := (hsem (hc.sem_of_stmt he)).random_eq
  exact ⟨h₀.draws, hlast.draws, past, s, _, he, rfl, rfl⟩

/-- **Requests draw nothing in common.** -/
theorem draw_unique {i j n : ℕ} (hi : ⟨.random, n⟩ ∈ localLog i c.history)
    (hj : ⟨.random, n⟩ ∈ localLog j c.history) : i = j := by
  obtain ⟨-, -, p, s, s', he, hs, hs'⟩ := draw_event hsem htick hc hi
  obtain ⟨-, -, p', t, t', he', ht, ht'⟩ := draw_event hsem htick hc hj
  have hle : ∀ {k l : ℕ} {x y x' y' : State} {past : History Op Ret Req α State},
      Occurs c.history past (.stmt k .random n x x') → .stmt l .random n y y' ∈ past → y'.draws ≤ x.draws :=
    fun hocc hm => (run_ordered hsem htick hc hocc hm).draws
  rcases he.total he' with ⟨heq, -⟩ | hlt | hlt
  · cases heq
    rfl
  · have := hle he hlt.mem
    omega
  · have := hle he' hlt.mem
    omega

/-- A mark has been there at the start, or a statement of the run has inserted it. -/
theorem mark_origin {m : Mark} (hm : m ∈ c.state.db.marks) : m ∈ s₀.db.marks ∨
    ∃ past i o r s s', Occurs c.history past (.stmt i o r s s') ∧ m ∈ o.marks := by
  induction hc with
  | init => exact Or.inl hm
  | @step c c' _ hstep ih =>
    cases hstep with
    | tick ht =>
      obtain ⟨t, -, rfl⟩ := htick ht
      exact ih hm
    | start q =>
      rcases ih hm with hm | ⟨past, i, o, r, s, s', he, hm⟩
      · exact Or.inl hm
      · exact Or.inr ⟨past, i, o, r, s, s', occurs_stmt_start.2 he, hm⟩
    | @stmt j o k r s' hi ho =>
      rcases (hsem ho).marks hm with hm | hm
      · rcases ih hm with hm | ⟨past, i, o, r, s, s', he, hm⟩
        · exact Or.inl hm
        · exact Or.inr ⟨past, i, o, r, s, s', occurs_stmt_stmt.2 (Or.inr he), hm⟩
      · exact Or.inr ⟨_, j, o, r, _, _, occurs_stmt_stmt.2 (Or.inl ⟨rfl, rfl⟩), hm⟩

/-- Every insertion of a run is made from draws. -/
def InsertsDrawn (env : Env) (H : History Op Ret Req α State) : Prop :=
  ∀ {h i o r s s'}, Occurs H h (.stmt i o r s s') → o.FromDraws env (localLog i h)

/-- **Marks come from draws**, in every state of the run. -/
theorem marked_of_run (hs₀ : Marked env s₀) (hdrawn : InsertsDrawn env c.history) :
    Marked env c.state := by
  intro m hm
  rcases mark_origin hsem htick hc hm with hm | ⟨past, i, o, r, s, s', he, hm⟩
  · obtain ⟨n, hn, hfrom⟩ := hs₀ m hm
    exact ⟨n, Nat.lt_of_lt_of_le hn (run_le hsem htick hc).1.draws, hfrom⟩
  · obtain ⟨n, hn, hfrom⟩ := hdrawn he m hm
    exact ⟨n, (draw_event hsem htick hc ((localLog_suffix he.past).subset hn)).2.1, hfrom⟩

/-- **What is inserted is new**, when requests insert one row in each table. -/
theorem fresh_marks (hx : env.prim.Exact) (hs₀ : Marked env s₀) (hdrawn : InsertsDrawn env c.history)
    {h : History Op Ret Req α State} {i : ℕ} {o : Op} {r : Ret o} {s s' : State}
    (he : Occurs c.history h (.stmt i o r s s')) (honce : o.InsertsOnce (localLog i h)) :
    ∀ m ∈ o.marks, m ∉ s.db.marks := by
  intro m hm hold
  obtain ⟨n, hn, hfrom⟩ := hdrawn he m hm
  obtain ⟨c₀, -, hc₀, rfl, rfl, -⟩ := hc.past he
  rcases mark_origin hsem htick hc₀ hold with hm₀ | ⟨past, j, o', r', t, t', he', hm'⟩
  · -- The mark was there at the start, but it has been drawn since.
    obtain ⟨n', hn', hfrom'⟩ := hs₀ m hm₀
    have hdraws := (draw_event hsem htick hc₀ hn).1
    obtain rfl := hfrom.unique hx hfrom'
    omega
  · -- Another statement has inserted the mark, so it belongs to the same request.
    obtain ⟨n', hn', hfrom'⟩ := hdrawn (he.trans he') m hm'
    obtain rfl := hfrom.unique hx hfrom'
    obtain rfl := draw_unique hsem htick hc₀ hn ((localLog_suffix he'.past).subset hn')
    have hinserts := Op.inserts_of_mem_marks hm
    rcases honce with hnone | hothers
    · rw [hinserts] at hnone
      cases hnone
    · refine hothers ⟨o', r'⟩ (mem_localLog_of_stmt he'.mem) ?_
      rw [hinserts]
      exact Op.inserts_of_mem_marks hm'

end Runs

/-- Everything stored is marked by draws, in every state of every run of the service. -/
theorem service_marked {s₀ : State} (hs₀ : Marked env s₀)
    {c : Pool Op Ret Request (Except AppError Response) State} (hc : (service env).Reachable s₀ c) :
    Marked env c.state := by
  refine marked_of_run (fun h => h) (fun h => h) hc hs₀ fun he => ?_
  obtain ⟨q, hq, hdrawn⟩ := hc.at_stmt handle_drawn he
  exact Op.fromDraws hdrawn (service_at_stmt handle_linksDrawn hc (he.past.subset hq) he)

end Socle
