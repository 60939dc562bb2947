import Socle.Demo
import Socle.Tokens.History

/-!
# Lifetimes of tokens

The expiry of access tokens and of refresh tokens, for every configuration of their lifetimes.

* `CorrectLifetimes`: tokens expire when the configuration says, and are accepted when they are new;
* `eval_createRefreshToken`, `eval_rotateRefreshToken`: refresh tokens, created and rotated by
  evaluation;
* `correctLifetimes_iff`: the lifetimes for which this holds;
* `wrong_lifetimes`: an expiry that wraps, one that panics, and one in the past.
-/

namespace Socle

open Interaction Prog

variable {env : Env} {s : State}

/-- The clock is read as it is in `s`. -/
def ReadsClockOf (s : State) (log : Log Op Ret) : Prop :=
  ∀ t : OffsetDateTime, ⟨.now, t⟩ ∈ log → t = s.clock

/-- In the state `s`, tokens get the lifetimes that the configuration states. -/
structure CorrectLifetimes (env : Env) (s : State) : Prop where
  /-- What is signed expires so many seconds from now. -/
  access : ∀ id email displayName role authMethod,
    SatE (TokenService.generateAccessToken env id email displayName role authMethod)
      (fun log o => ReadsClockOf s log → o ≠ .abort ∧ ∀ claims, o = .encode claims →
        claims.exp = s.unixNow + env.config.accessTokenExpirySecs.toNat)
      (fun _ _ => True) (fun _ _ => True) []
  /-- Nothing panics, and what is stored expires so many seconds from now. -/
  refresh : ∀ userId, SatE (TokenService.createRefreshToken env userId)
    (fun log o => ReadsClockOf s log → o ≠ .abort ∧ ∀ id u hash key expiresAt,
      o = .sql (.insertRefreshToken id u hash key expiresAt) →
        expiresAt = s.clock + statedLifetime env)
    (fun _ _ => True) (fun _ _ => True) []
  /-- A new access token is accepted. -/
  validates : ∀ id email displayName role authMethod, ∃ token s',
    (TokenService.generateAccessToken env id email displayName role authMethod).run.eval (exec env) s =
      some (.ok token, s') ∧
    (TokenService.validateAccessToken token).run.eval (exec env) s' =
      some (.ok (TokenService.accessClaims env id email displayName role authMethod s.unixNow), s')
  /-- So is a new refresh token. -/
  rotates : ∀ {userId raw s'},
    (TokenService.createRefreshToken env userId).run.eval (exec env) s = some (.ok raw, s') →
    ∃ new s'', (TokenService.rotateRefreshToken env raw).run.eval (exec env) s' =
      some (.ok (new, userId), s'')

/-! ### Access tokens -/

/-- The seconds that a reading of the clock shows. -/
theorem unixNow_clock : ((s.clock : ℤ) / 1000000).toNat = s.unixNow := by
  unfold State.unixNow
  omega

@[simp] theorem eval_unixNow : unixNow.run.eval (exec env) s = some (.ok s.unixNow, s) := by
  have hpos : ¬ ((s.clock : ℤ) < 0) := by omega
  simp only [unixNow, eval_bindE, eval_performE, exec, Option.map_some, Option.bind_some, if_neg hpos,
    unixNow_clock, eval_pureE]

section Access

variable {id : Uuid} {email displayName : String} {role : Role} {authMethod : AuthMethod}

theorem eval_generateAccessToken :
    (TokenService.generateAccessToken env id email displayName role authMethod).run.eval (exec env) s =
      let claims := TokenService.accessClaims env id email displayName role authMethod s.unixNow
      some (.ok (env.prim.jwtEncode env.config.jwtSecret claims),
        { s with minted := claims :: s.minted }) := by
  simp only [TokenService.generateAccessToken, eval_bindE, eval_unixNow, eval_performE, exec,
    Option.map_some, Option.bind_some, eval_pureE]

/-- What has just been signed is decoded to its claims, unless they have expired. -/
theorem decode_new {claims : Claims} (hexp : s.unixNow ≤ claims.exp + leeway) :
    decode env { s with minted := claims :: s.minted }
      (env.prim.jwtEncode env.config.jwtSecret claims) = .ok claims := by
  have hnot : ¬ claims.exp < State.unixNow { s with minted := claims :: s.minted } - leeway := by
    show ¬ claims.exp < s.unixNow - leeway
    omega
  simp [decode, hnot]

theorem eval_validateAccessToken {token : String} {claims : Claims}
    (h : decode env s token = .ok claims) :
    (TokenService.validateAccessToken token).run.eval (exec env) s = some (.ok claims, s) := by
  simp only [TokenService.validateAccessToken, eval_bindE, eval_performE, exec, h, Option.map_some,
    Option.bind_some, eval_pureE]

end Access

/-! ### Refresh tokens -/

/-- The token that is created in the state `s`, with this hash. -/
def Draft.next (s : State) (hash : String) : Draft where
  token := s.draws
  salt := s.draws + 1
  hash := hash
  time := s.clock
  id := s.draws + 2

section Refresh

variable {userId : Uuid} {hash raw : String} {s' : State}

/-- The second half of `createRefreshToken`, from the reading of the clock on. -/
def storeToken (env : Env) (userId : Uuid) (raw hash : String) (now : OffsetDateTime) : App String :=
  if OffsetDateTime.InRange (now + TokenService.refreshLifetime env) then do
    let id ← uuidNowV7 env
    query (.insertRefreshToken id userId hash (TokenService.computeLookupKey env raw)
      (now + TokenService.refreshLifetime env)) .database
    pure raw
  else abort

theorem createRefreshToken_eq : TokenService.createRefreshToken env userId =
    generateOpaqueToken env >>= fun raw => hashRefreshToken env raw >>= fun hash =>
      perform .now >>= fun now => storeToken env userId raw hash now := rfl

/-- The token has been stored. -/
def StoredAt (env : Env) (userId : Uuid) (raw hash : String) (now : OffsetDateTime) (s : State) (db : Db) :
    Prop :=
  (Sql.insertRefreshToken (env.prim.uuidV7 s.draws) userId hash (TokenService.computeLookupKey env raw)
    (now + TokenService.refreshLifetime env)).apply env.prim s.clock s.db = .ok ((), db)

theorem eval_storeToken {now : OffsetDateTime} {raw' : String}
    (hrange : OffsetDateTime.InRange (now + TokenService.refreshLifetime env)) :
    (storeToken env userId raw hash now).run.eval (exec env) s = some (.ok raw', s') ↔
      raw' = raw ∧ ∃ db, StoredAt env userId raw hash now s db ∧
        s' = { s with db := db, draws := s.draws + 1 } := by
  unfold storeToken StoredAt
  rw [if_pos hrange]
  simp only [uuidNowV7, eval_bindE, eval_performE, exec, Option.map_some, Option.bind_some, eval_pureE,
    eval_query]
  generalize Sql.apply env.prim s.clock s.db _ = x
  rcases x with e | ⟨⟨⟩, db⟩ <;> simp [eq_comm]

theorem eval_hashRefreshToken (hhash : env.prim.argon2Hash raw s.draws = some hash) :
    (hashRefreshToken env raw).run.eval (exec env) s =
      some (.ok hash, { s with draws := s.draws + 1 }) := by
  simp only [hashRefreshToken, eval_bindE, eval_performE, exec, Option.map_some, Option.bind_some,
    hhash, eval_pureE]

/-- Creating a refresh token. -/
theorem eval_createRefreshToken (hd : (Draft.next s hash).Valid env)
    (hrange : OffsetDateTime.InRange (s.clock + TokenService.refreshLifetime env)) :
    (TokenService.createRefreshToken env userId).run.eval (exec env) s = some (.ok raw, s') ↔
      raw = (Draft.next s hash).raw env ∧ ∃ db,
        ((Draft.next s hash).sql env userId).apply env.prim s.clock s.db = .ok ((), db) ∧
          s' = { s with db := db, draws := s.draws + 3 } := by
  have hraw : (generateOpaqueToken env).run.eval (exec env) s =
      some (.ok (env.prim.opaqueToken s.draws), { s with draws := s.draws + 1 }) := rfl
  have hhash : (hashRefreshToken env (env.prim.opaqueToken s.draws)).run.eval (exec env)
      { s with draws := s.draws + 1 } = some (.ok hash, { s with draws := s.draws + 2 }) :=
    eval_hashRefreshToken hd
  rw [createRefreshToken_eq, eval_bindE, hraw, Option.bind_some]
  dsimp only
  rw [eval_bindE, hhash, Option.bind_some]
  dsimp only
  rw [eval_bindE, eval_performE, exec, Option.map_some, Option.bind_some]
  dsimp only
  rw [eval_storeToken hrange]
  rfl

/-- A row is found under its lookup key. -/
theorem Db.findRefreshToken_eq {db : Db} {row : RefreshToken} (hrow : row ∈ db.refreshTokens.rows) :
    db.findRefreshToken row.lookupKey = some row := by
  cases h : db.findRefreshToken row.lookupKey with
  | none => exact absurd (decide_eq_true rfl) (List.find?_eq_none.1 h row hrow)
  | some r =>
    obtain ⟨hr, hkey⟩ := Db.findRefreshToken_some h
    rw [Db.refreshToken_unique hr hrow hkey]

/-- Rotating a live refresh token revokes it and creates another one. -/
theorem eval_rotateRefreshToken (hx : env.prim.Exact) {row : RefreshToken} {new : String} {s' : State}
    (hrow : row ∈ s.db.refreshTokens.rows) (hkey : row.lookupKey = TokenService.computeLookupKey env raw)
    (hlive : row.revoked = false) (hexpiry : s.clock ≤ row.expiresAt)
    (hverify : env.prim.argon2Verify raw row.tokenHash = some true)
    (hnew : (TokenService.createRefreshToken env row.userId).run.eval (exec env)
      { s with db := s.db.revokeWhere fun r => r.id = row.id } = some (.ok new, s')) :
    (TokenService.rotateRefreshToken env raw).run.eval (exec env) s =
      some (.ok (new, row.userId), s') := by
  have hselect : (Sql.selectRefreshToken (TokenService.computeLookupKey env raw)).apply env.prim s.clock s.db =
      .ok (some row.record, s.db) := by
    rw [Sql.apply, ← hkey, Db.findRefreshToken_eq hrow, hkey]
    exact bindTexts_ok.2 ⟨by simp [TokenService.computeLookupKey, hx.hmac_noNul], rfl⟩
  have hstale : (TokenService.isStale row.record).run.eval (exec env) s = some (.ok false, s) := by
    have hnot : ¬ row.expiresAt < s.clock := Int.not_lt.2 hexpiry
    rw [TokenService.isStale, if_neg (by simp [RefreshToken.record, hlive]), eval_bindE, eval_performE,
      exec, Option.map_some, Option.bind_some]
    dsimp only
    rw [eval_pureE]
    exact congrArg (fun b => some ((.ok b : Except AppError Bool), s)) (decide_eq_false hnot)
  have hrevoke : (query (.revokeRefreshToken row.record.id) .database).run.eval (exec env) s =
      some (.ok (), { s with db := s.db.revokeWhere fun r => r.id = row.id }) := eval_query
  have hrecord : (TokenService.rotateRecord env raw row.record).run.eval (exec env) s =
      some (.ok (new, row.userId), s') := by
    rw [TokenService.rotateRecord, eval_bindE, hstale, Option.bind_some]
    dsimp only
    rw [if_neg Bool.false_ne_true, show env.prim.argon2Verify raw row.record.tokenHash = some true from hverify]
    dsimp only
    rw [eval_bindE, hrevoke, Option.bind_some]
    dsimp only
    rw [eval_bindE]
    show ((TokenService.createRefreshToken env row.userId).run.eval _ _).bind _ = _
    rw [hnew]
    rfl
  rw [TokenService.rotateRefreshToken, eval_bindE, eval_query, hselect]
  exact hrecord

/-- **A new refresh token can be rotated**, where its lifetime is not negative. -/
theorem eval_rotate_new (hx : env.prim.Exact) (hs : Drawn env s)
    (hpos : 0 ≤ TokenService.refreshLifetime env)
    (hrange : OffsetDateTime.InRange (s.clock + TokenService.refreshLifetime env))
    (hcreate : (TokenService.createRefreshToken env userId).run.eval (exec env) s = some (.ok raw, s')) :
    ∃ new s'', (TokenService.rotateRefreshToken env raw).run.eval (exec env) s' =
      some (.ok (new, userId), s'') := by
  have hexec : ∀ {o s r s'}, exec env o s = some (r, s') → Stmt env o s r s' := fun h => .exec h
  have hs' := hs.runs createRefreshToken_drawn (runs_of_eval (@hexec) hcreate)
  obtain ⟨hash, hhash, -⟩ := hx.hash_total (env.prim.opaqueToken s.draws) (s.draws + 1)
  have hvalid : (Draft.next s hash).Valid env := hhash
  obtain ⟨rfl, db, happly, rfl⟩ := (eval_createRefreshToken hvalid hrange).1 hcreate
  -- The row that has been stored.
  have hstored := @Stmt.of_apply env _ _ _ _ happly
  obtain ⟨⟨createdAt, hrows⟩, -, ⟨v, hv, hid⟩, husers, -⟩ := insert_stmt hstored
  dsimp only at hrows husers
  let row : RefreshToken := ⟨env.prim.uuidV7 (s.draws + 2), userId, hash, TokenService.computeLookupKey env
    (env.prim.opaqueToken s.draws), s.clock + TokenService.refreshLifetime env, false, createdAt⟩
  have hrow : row ∈ db.refreshTokens.rows := by
    rw [hrows]
    exact List.mem_append_right _ List.mem_cons_self
  have hverify : env.prim.argon2Verify (env.prim.opaqueToken s.draws) hash = some true := by
    rw [hx.verify_hash _ _ _ _ hhash]
    exact congrArg some (decide_eq_true rfl)
  -- Once it has been revoked, its successor can be stored.
  let s₂ : State := { s with db := db.revokeWhere fun r => r.id = row.id, draws := s.draws + 3 }
  have hrevoke : Stmt env (.sql (.revokeRefreshToken row.id)) { s with db := db, draws := s.draws + 3 }
      (.ok ()) s₂ := .exec rfl
  have hdrawn : Op.Drawn env [] (.sql (.revokeRefreshToken row.id)) := trivial
  have hs₂ : Drawn env s₂ := hs'.stmt hdrawn (by simp) hrevoke
  obtain ⟨hash₂, hhash₂, -⟩ := hx.hash_total (env.prim.opaqueToken (s.draws + 3)) (s.draws + 3 + 1)
  have huser : ∃ v ∈ s₂.db.users.rows, v.id = userId := ⟨v, husers ▸ hv, hid⟩
  obtain ⟨db₂, happly₂⟩ := Draft.apply_sql (d := Draft.next s₂ hash₂) hx hhash₂ hpos hs₂ huser
    (Nat.le_refl _) (Nat.le_add_right _ _) (Int.natCast_nonneg _) s.clock
  have hnew := (eval_createRefreshToken (s := s₂) hhash₂ hrange).2 ⟨rfl, db₂, happly₂, rfl⟩
  have hkey : row.lookupKey = TokenService.computeLookupKey env ((Draft.next s hash).raw env) := rfl
  have hlive : row.revoked = false := rfl
  have hexpiry : (s.clock : OffsetDateTime) ≤ row.expiresAt := Int.le_add_of_nonneg_right hpos
  exact ⟨_, _, eval_rotateRefreshToken hx hrow hkey hlive hexpiry hverify hnew⟩

end Refresh

/-! ### Which lifetimes are correct -/

/-- The lifetimes that do not reach a limit: the expiry of access tokens is a `u64`, and the lifetime of
refresh tokens an `i64`, with an expiry in the range of `OffsetDateTime`. -/
def LifetimesFit (env : Env) (s : State) : Prop :=
  s.unixNow + env.config.accessTokenExpirySecs.toNat < 2 ^ 64 ∧
    env.config.refreshTokenExpirySecs.toNat < 2 ^ 63 ∧
    OffsetDateTime.InRange (s.clock + statedLifetime env)

instance : Decidable (LifetimesFit env s) := inferInstanceAs (Decidable (_ ∧ _ ∧ _))

theorem refreshLifetime_eq_iff : TokenService.refreshLifetime env = statedLifetime env ↔
    env.config.refreshTokenExpirySecs.toNat < 2 ^ 63 := by
  unfold TokenService.refreshLifetime statedLifetime
  constructor
  · intro h
    refine castSigned_nonneg_iff.1 ?_
    omega
  · intro h
    rw [castSigned_of_lt h]

/-- Lifetimes that are correct reach no limit. -/
theorem CorrectLifetimes.fit (hx : env.prim.Exact) (h : CorrectLifetimes env s) : LifetimesFit env s := by
  constructor
  · -- The sum of seconds, which is signed modulo `2 ^ 64`, is signed.
    have hpos : ¬ (s.clock : ℤ) < 0 := by omega
    have hsat := TokenService.satE_generateAccessToken.1 (h.access 0 "" "" .user .password)
    have hencode := ((hsat.2 s.clock).2 hpos).1
    have hexp := (hencode (by simp [ReadsClockOf])).2 _ rfl
    rw [unixNow_clock] at hexp
    rw [← hexp]
    exact Nat.mod_lt _ (by decide)
  · have hsat := TokenService.satE_createRefreshToken.1 (h.refresh 0)
    obtain ⟨-, hsalt⟩ := hsat.2 0
    obtain ⟨hash, hhash, -⟩ := hx.hash_total (env.prim.opaqueToken 0) 0
    obtain ⟨-, hnow⟩ := (hsalt 0).1 hash hhash
    obtain ⟨hin, hout⟩ := hnow s.clock
    by_cases hrange : OffsetDateTime.InRange (s.clock + TokenService.refreshLifetime env)
    · have hstored := ((hin hrange).2 0).1
      have hexp := (hstored (by simp [ReadsClockOf])).2 _ _ _ _ _ rfl
      have hlife : TokenService.refreshLifetime env = statedLifetime env := Int.add_left_cancel hexp
      exact ⟨refreshLifetime_eq_iff.1 hlife, hlife ▸ hrange⟩
    · exact absurd rfl (hout hrange (by simp [ReadsClockOf])).1

/-- Lifetimes that reach no limit are correct. -/
theorem LifetimesFit.correct (hx : env.prim.Exact) (hs : Drawn env s) (h : LifetimesFit env s) :
    CorrectLifetimes env s := by
  obtain ⟨haccess, hrefresh, hrange⟩ := h
  have hlife := refreshLifetime_eq_iff.2 hrefresh
  have hpos : 0 ≤ TokenService.refreshLifetime env := by
    rw [hlife]
    unfold statedLifetime
    omega
  rw [← hlife] at hrange
  constructor
  · intro id email displayName role authMethod
    rw [TokenService.satE_generateAccessToken]
    refine ⟨fun _ => ⟨by simp, by simp⟩, fun t => ⟨fun hneg hread => ?_, fun _ => ⟨fun hread => ?_,
      by simp, by simp⟩⟩⟩
    · rw [hread t List.mem_cons_self] at hneg
      exact absurd (Int.natCast_nonneg s.clock) (Int.not_le.2 hneg)
    · obtain rfl := hread t List.mem_cons_self
      refine ⟨by simp, fun claims heq => ?_⟩
      cases heq
      show (((s.clock : ℤ) / 1000000).toNat + env.config.accessTokenExpirySecs.toNat) % 2 ^ 64 = _
      rw [unixNow_clock, Nat.mod_eq_of_lt haccess]
  · intro userId
    rw [TokenService.satE_createRefreshToken]
    refine ⟨fun _ => ⟨by simp, by simp⟩, fun n => ⟨fun _ => ⟨by simp, by simp⟩, fun salt => ⟨fun hash _ =>
      ⟨fun _ => ⟨by simp, by simp⟩, fun t => ⟨fun _ => ⟨fun _ => ⟨by simp, by simp⟩, fun k => ⟨fun hread =>
        ?_, by simp, by simp⟩⟩, fun hout hread => ?_⟩⟩, fun hnone => ?_⟩⟩⟩
    · obtain rfl := hread t (by simp)
      refine ⟨by simp, fun id u h key expiresAt heq => ?_⟩
      cases heq
      rw [hlife]
    · rw [hread t (by simp)] at hout
      exact absurd hrange hout
    · obtain ⟨hash, hhash, -⟩ := hx.hash_total (env.prim.opaqueToken n) salt
      rw [hhash] at hnone
      cases hnone
  · intro id email displayName role authMethod
    refine ⟨_, _, eval_generateAccessToken, eval_validateAccessToken (decode_new ?_)⟩
    show s.unixNow ≤ (s.unixNow + env.config.accessTokenExpirySecs.toNat) % 2 ^ 64 + leeway
    rw [Nat.mod_eq_of_lt haccess]
    omega
  · exact fun hcreate => eval_rotate_new hx hs hpos hrange hcreate

/-- **When lifetimes are correct**: exactly if the expiry of access tokens is a `u64`, and the lifetime of
refresh tokens an `i64` with an expiry in the range of `OffsetDateTime`. -/
theorem correctLifetimes_iff (hx : env.prim.Exact) {clock : ℕ}
    {c : Pool Op Ret Request (Except AppError Response) State}
    (hc : (service env).Reachable (.fresh clock) c) :
    CorrectLifetimes env c.state ↔ LifetimesFit env c.state :=
  ⟨fun h => h.fit hx, fun h => h.correct hx (service_drawn (drawn_fresh env clock) hc)⟩

/-- The default lifetimes are correct, for the token that Alice has got by registering. -/
theorem correctLifetimes_of_default : registered.db.refreshTokens.rows ≠ [] ∧
    CorrectLifetimes demo registered := by
  refine ⟨by decide +kernel, ?_⟩
  obtain ⟨c, hc, hs⟩ := registered_reachable
  rw [← hs]
  refine (correctLifetimes_iff Primitives.ideal_exact hc).2 ?_
  rw [hs]
  decide +kernel

/-- The service with other lifetimes. -/
def withLifetimes (access refresh : UInt64) : Env :=
  { demo with config :=
    { demo.config with accessTokenExpirySecs := access, refreshTokenExpirySecs := refresh } }

/-- Lifetimes that stand for "never". -/
theorem wrong_lifetimes : ∃ s : State,
    -- The expiry wraps, and a new access token is refused.
    (¬ CorrectLifetimes (withLifetimes (.ofNat (2 ^ 64 - 1000)) 604800) s ∧
      ((TokenService.generateAccessToken (withLifetimes (.ofNat (2 ^ 64 - 1000)) 604800) 0 "" "" .user
        .password >>= TokenService.validateAccessToken).run.eval
          (exec (withLifetimes (.ofNat (2 ^ 64 - 1000)) 604800)) s).map Prod.fst =
        some (.error .tokenExpired)) ∧
    -- The expiry is out of range, and the service panics.
    (∀ refresh ∈ [UInt64.ofNat (2 ^ 63), 1000000000000],
      ¬ CorrectLifetimes (withLifetimes 900 refresh) s ∧
        ((TokenService.createRefreshToken (withLifetimes 900 refresh) 0).run.eval
          (exec (withLifetimes 900 refresh)) s).map Prod.fst = none) ∧
    -- The lifetime is negative.
    ¬ CorrectLifetimes (withLifetimes 900 (.ofNat (2 ^ 64 - 100))) s ∧
      TokenService.refreshLifetime (withLifetimes 900 (.ofNat (2 ^ 64 - 100))) = -100000000 := by
  have hrange : ∀ refresh ∈ [UInt64.ofNat (2 ^ 63), 1000000000000],
      ¬ LifetimesFit (withLifetimes 900 refresh) (.fresh 1700000000000000) ∧
        ((TokenService.createRefreshToken (withLifetimes 900 refresh) 0).run.eval
          (exec (withLifetimes 900 refresh)) (.fresh 1700000000000000)).map Prod.fst = none := by
    intro refresh hmem
    rcases List.mem_cons.1 hmem with rfl | hmem
    · decide +kernel
    · rw [List.mem_singleton.1 hmem]
      decide +kernel
  refine ⟨.fresh 1700000000000000, ⟨fun h => ?_, by decide +kernel⟩, fun refresh hmem =>
    ⟨fun h => (hrange refresh hmem).1 (h.fit Primitives.ideal_exact), (hrange refresh hmem).2⟩,
    fun h => ?_, by decide +kernel⟩
  · exact absurd (h.fit Primitives.ideal_exact) (by decide +kernel)
  · exact absurd (h.fit Primitives.ideal_exact) (by decide +kernel)

end Socle
