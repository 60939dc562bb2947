import Socle.Accounts.Creation
import Socle.Accounts.Identity
import Socle.Marks
import Socle.Tokens.Effects

/-!
# First logins at the same time

Any number of logins of one identity that is not linked yet, whose statements interleave.

* `logins`: OAuth logins of any number of clients, without failures of the infrastructure;
* `undisturbed`: a condition on each statement and the state before it;
* `LoginsAgree`: every login succeeds, and all log in to the account to which the identity is linked;
* `first_logins_clash`: two logins can fail to agree;
* `first_logins_agree`: undisturbed logins agree.
-/

namespace Socle

open Interaction Prog System

variable {env : Env}

/-- OAuth logins, in any number and interleaved in any way, without failures of the infrastructure. -/
def logins (env : Env) : System Op Ret OAuthProfile (Except AppError Response) State where
  handler profile := (handle env (.oauthLogin profile)).run
  sem _ _ := Executed env
  tick := Tick

/-- The expiry that a refresh token gets now can be represented. -/
def expiryFits (env : Env) (s : State) : Bool :=
  let expiresAt : OffsetDateTime := s.clock + TokenService.refreshLifetime env
  decide (expiresAt.InRange ∧ minTimestamp ≤ expiresAt)

/-- A new user finds its address and its name free, a link finds its identity free or linked to the same
user; no text has a NUL character or is too long for its index, and expiries fit. -/
def undisturbed (env : Env) : Op → State → Bool
  | .now, s => expiryFits env s
  | .sql (.selectUserByOAuthIdentity _ puid), _ => !hasNul puid
  | .sql (.selectUserByEmail email), _ => !hasNul email
  | .sql (.insertUser _ email name), s => (insertUserError env.prim s.db email name).isNone
  | .sql (.insertOAuthCredential _ userId provider puid avatarUrl), s =>
    !(puid :: avatarUrl.toList).any hasNul && env.prim.IdentityIndexable provider puid &&
      (linkedUsers s.db provider puid).all fun id => decide (id = userId)
  | _, _ => true

/-- Undisturbed logins. -/
def undisturbedLogins (env : Env) : System Op Ret OAuthProfile (Except AppError Response) State :=
  (logins env).restrict fun _ _ o s _ => undisturbed env o s = true

/-- Every login that has finished has succeeded, for the only user to whom the identity is linked, and
none is about to panic. -/
structure LoginsAgree (c : Pool Op Ret OAuthProfile (Except AppError Response) State)
    (provider : OAuthProvider) (puid : String) : Prop where
  succeeds : ∀ {i x}, .done i x ∈ c.history → ∃ response, x = .ok (.auth response) ∧
    linkedUsers c.state.db (.from provider) puid = [response.user.id]
  continues : ∀ {i : ℕ} {k : Empty → Prog Op Ret (Except AppError Response)},
    c.threads[i]? ≠ some (.step .abort k)

/-! ### What a login does -/

/-- The statements of a login. -/
@[simp] def Op.ofLogin : Op → Bool
  | .now => true
  | .random => true
  | .abort => true
  | .encode _ => true
  | .sql (.selectUserByOAuthIdentity _ _) => true
  | .sql (.selectUserByEmail _) => true
  | .sql (.insertUser _ _ _) => true
  | .sql (.insertOAuthCredential _ _ _ _ _) => true
  | .sql (.selectLocalCredential _) => true
  | .sql (.insertRefreshToken _ _ _ _ _) => true
  | _ => false

/-- The user `id` has been found by the address of the profile, or created with it. -/
def FoundByEmail (profile : OAuthProfile) (log : Log Op Ret) (id : Uuid) : Prop :=
  ∃ x ∈ log, ∃ u, returnedUser x = some u ∧ u.id = id ∧
    (x.1 = .sql (.selectUserByEmail profile.email) ∨
      ∃ n name, x.1 = .sql (.insertUser n profile.email name))

/-- The user `id` has been read or created. -/
def ReadUser (log : Log Op Ret) (id : Uuid) : Prop := ∃ x ∈ log, ∃ u, returnedUser x = some u ∧ u.id = id

@[simp] theorem foundByEmail_cons {profile : OAuthProfile} {x : (o : Op) × Ret o} {log : Log Op Ret}
    {id : Uuid} : FoundByEmail profile (x :: log) id ↔
      (∃ u, returnedUser x = some u ∧ u.id = id ∧ (x.1 = .sql (.selectUserByEmail profile.email) ∨
        ∃ n name, x.1 = .sql (.insertUser n profile.email name))) ∨ FoundByEmail profile log id := by
  simp only [FoundByEmail, List.exists_mem_cons_iff]

/-- The user whose link to the identity a statement shows. -/
def linkShown : (o : Op) × Ret o → Option Uuid
  | ⟨.sql (.selectUserByOAuthIdentity _ _), .ok found⟩ => found.map (·.id)
  | ⟨.sql (.insertOAuthCredential _ userId _ _ _), .ok _⟩ => some userId
  | _ => none

/-- A statement or a signature has failed. -/
def failed : (o : Op) × Ret o → Bool
  | ⟨.sql _, .error _⟩ => true
  | ⟨.encode _, .error _⟩ => true
  | _ => false

/-- The log shows a link of the user. -/
def LinkShown (log : Log Op Ret) (id : Uuid) : Prop := ∃ x ∈ log, linkShown x = some id

def Failed (log : Log Op Ret) : Prop := ∃ x ∈ log, failed x = true

/-- An inactive user has been read. -/
def InactiveRead (log : Log Op Ret) : Prop := ∃ x ∈ log, ∃ u, returnedUser x = some u ∧ u.isActive = false

@[simp] theorem linkShown_cons {x : (o : Op) × Ret o} {log : Log Op Ret} {id : Uuid} :
    LinkShown (x :: log) id ↔ linkShown x = some id ∨ LinkShown log id := List.exists_mem_cons_iff ..

@[simp] theorem failed_cons {x : (o : Op) × Ret o} {log : Log Op Ret} :
    Failed (x :: log) ↔ failed x = true ∨ Failed log := List.exists_mem_cons_iff ..

@[simp] theorem inactiveRead_cons {x : (o : Op) × Ret o} {log : Log Op Ret} : InactiveRead (x :: log) ↔
    (∃ u, returnedUser x = some u ∧ u.isActive = false) ∨ InactiveRead log := List.exists_mem_cons_iff ..

@[simp] theorem readUser_cons {x : (o : Op) × Ret o} {log : Log Op Ret} {id : Uuid} :
    ReadUser (x :: log) id ↔ (∃ u, returnedUser x = some u ∧ u.id = id) ∨ ReadUser log id := by
  simp only [ReadUser, List.exists_mem_cons_iff]

/-- A login searches for the identity and the address of its profile, links the identity to the user it
has found, and stores a token for a user it has read; it panics for a clock before the epoch, an expiry
out of range, or a failing hash. -/
def Op.LogsIn (env : Env) (profile : OAuthProfile) (log : Log Op Ret) : Op → Prop
  | .sql (.selectUserByOAuthIdentity provider puid) =>
    provider = .from profile.provider ∧ puid = profile.providerUserId
  | .sql (.selectUserByEmail email) => email = profile.email
  | .sql (.insertUser _ email _) => email = profile.email
  | .sql (.insertOAuthCredential _ userId provider puid _) =>
    (provider = .from profile.provider ∧ puid = profile.providerUserId) ∧
      FoundByEmail profile log userId
  | .sql (.insertRefreshToken _ userId hash key expiresAt) => ReadUser log userId ∧
    (∃ n salt, key = TokenService.computeLookupKey env (env.prim.opaqueToken n) ∧
      env.prim.argon2Hash (env.prim.opaqueToken n) salt = some hash) ∧
    ∃ t : OffsetDateTime, ⟨.now, t⟩ ∈ log ∧ expiresAt = t + TokenService.refreshLifetime env
  | .abort => (∃ raw salt, env.prim.argon2Hash raw salt = none) ∨
    ∃ t : OffsetDateTime, ⟨.now, t⟩ ∈ log ∧
      (t < 0 ∨ ¬ OffsetDateTime.InRange (t + TokenService.refreshLifetime env))
  | _ => True

section Specification

variable {profile : OAuthProfile} {log : Log Op Ret}

theorem generateAccessToken_logsIn {id : Uuid} {email name : String} {role : Role} {m : AuthMethod}
    {Q : Log Op Ret → String → Prop} :
    SatE (TokenService.generateAccessToken env id email name role m)
      (fun log o => o.LogsIn env profile log) Q (fun _ _ => True) log ↔
    ∀ t : OffsetDateTime, ¬ t < 0 → ∀ token,
      Q (⟨.encode (TokenService.accessClaims env id email name role m (t / 1000000).toNat), .ok token⟩ ::
        ⟨.now, t⟩ :: log) token := by
  simp only [TokenService.satE_generateAccessToken, implies_true, and_true]
  constructor
  · exact fun h t ht token => ((h.2 t).2 ht).2 token
  · refine fun h => ⟨trivial, fun t => ⟨fun ht => Or.inr ⟨t, List.mem_cons_self, Or.inl ht⟩, fun ht =>
      ⟨trivial, fun token => h t ht token⟩⟩⟩

theorem createRefreshToken_logsIn {id : Uuid} (hread : ReadUser log id) :
    SatE (TokenService.createRefreshToken env id) (fun log o => o.LogsIn env profile log)
      (fun _ _ => True) (fun _ _ => True) log := by
  simp only [TokenService.satE_createRefreshToken, implies_true, and_true]
  refine ⟨trivial, fun n => ⟨trivial, fun salt => ⟨fun hash hhash => ⟨trivial, fun t =>
    ⟨fun _ => ⟨trivial, fun k => ?stored⟩, fun hrange => ?range⟩⟩, fun hnone => ?hash⟩⟩⟩
  case stored =>
    exact ⟨by simp [hread], ⟨n, salt, rfl, hhash⟩, t, by simp, rfl⟩
  case range => exact Or.inr ⟨t, List.mem_cons_self, Or.inr hrange⟩
  case hash => exact Or.inl ⟨_, salt, hnone⟩

theorem login_ops (profile : OAuthProfile) :
    SatE (handle env (.oauthLogin profile)) (fun _ o => o.ofLogin = true) (fun _ _ => True)
      (fun _ _ => True) [] := by
  simp [handle, Routes.oauthLogin, AuthService.loginOrRegisterOAuth]

theorem login_logsIn (profile : OAuthProfile) :
    SatE (handle env (.oauthLogin profile)) (fun log o => o.LogsIn env profile log) (fun _ _ => True)
      (fun _ _ => True) [] := by
  simp [handle, Routes.oauthLogin, AuthService.loginOrRegisterOAuth, Op.LogsIn.eq_1, Op.LogsIn.eq_2,
    Op.LogsIn.eq_3, Op.LogsIn.eq_4, Op.LogsIn.eq_7, generateAccessToken_logsIn, createRefreshToken_logsIn,
    returnedUser, -TokenService.satE_generateAccessToken, -TokenService.satE_createRefreshToken]

/-- A login answers with the user whose link it has seen, and fails for a failed statement or an inactive
user only. -/
theorem login_results (profile : OAuthProfile) :
    SatE (handle env (.oauthLogin profile)) (fun _ _ => True)
      (fun log r => ∃ response, r = .auth response ∧ LinkShown log response.user.id)
      (fun log _ => Failed log ∨ InactiveRead log) [] := by
  simp [handle, Routes.oauthLogin, AuthService.loginOrRegisterOAuth, linkShown, failed, returnedUser,
    UserResponse.from]
  exact ⟨fun _ _ h => Or.inr (Or.inl h), fun _ h => Or.inr (Or.inl h)⟩

theorem login_inserts (profile : OAuthProfile) :
    SatE (handle env (.oauthLogin profile)) (fun log o => o.InsertsOnce log) (fun _ _ => True)
      (fun _ _ => True) [] := by
  simp [handle, Routes.oauthLogin, AuthService.loginOrRegisterOAuth, Op.InsertsOnce]

end Specification

/-! ### Statements of logins -/

section Statements

variable {s s' : State} {o : Op} {r : Ret o}

/-- Logins leave the rows of `users` as they are, and append active users. -/
theorem Stmt.login_users (h : Stmt env o s r s') (ho : o.ofLogin = true) {u : User}
    (hu : u ∈ s'.db.users.rows) : u ∈ s.db.users.rows ∨ u.isActive = true := by
  rcases h.db_cases with hdb | ⟨q, res, rfl, hq⟩
  · exact Or.inl (hdb ▸ hu)
  · rw [(apply_ok hq).1] at hu
    cases q with
    | insertUser id email name =>
      rcases List.mem_append.1 hu with hu | hu
      · exact Or.inl hu
      · rw [List.mem_singleton.1 hu]
        exact Or.inr rfl
    | insertAccount | updateRole | deactivateUser => cases ho
    | _ => exact Or.inl hu

/-- Logins delete no links. -/
theorem Stmt.login_links (h : Stmt env o s r s') (ho : o.ofLogin = true) {provider : Provider}
    {puid : String} {id : Uuid} (hs : linkedUsers s.db provider puid = [id]) :
    linkedUsers s'.db provider puid = [id] := by
  refine h.keeps_link hs ?_
  have hnone : deletes ⟨o, r⟩ = none := by
    refine deletes_eq_none ?_
    cases o with
    | sql q => cases q <;> first | rfl | cases ho
    | _ => rfl
  rw [hnone]
  exact fun h => (by cases h)

/-- An inserted user has the given address. -/
theorem insertUser_found {id : Uuid} {email name : String} {u : User}
    (h : Stmt env (.sql (.insertUser id email name)) s (.ok u) s') :
    u ∈ s'.db.users.rows ∧ u.email = email := by
  have hrow := (insertUser_row h).1
  obtain ⟨db, hq, -⟩ := h.sql_ok
  obtain ⟨db₁, -, hq⟩ := Relational.bind_eq_ok hq
  cases hq
  exact ⟨hrow, rfl⟩

/-- A link with a new identifier for a user of the database can be stored, or its index cannot hold it. -/
theorem linkOAuthAccount_outcome {prim : Primitives} (hx : prim.Exact) {db : Db} {o : OAuthCredential}
    (hid : ∀ o' ∈ db.oauthCredentials.rows, o'.id ≠ o.id) (huser : ∃ u ∈ db.users.rows, u.id = o.userId) :
    (∃ db', db.linkOAuthAccount prim.indexRowSize o = .ok db') ∨
      ¬ prim.IdentityIndexable o.provider o.providerUserId ∧ db.linkOAuthAccount prim.indexRowSize o =
        .error (indexRowError oauthIdentityKey.name (prim.indexRowSize (oauthIdentityKey.val o))) := by
  unfold Db.linkOAuthAccount
  by_cases hany : (db.oauthCredentials.rows.any fun o' => oauthIdentityKey.Clash o' o) = true
  · exact Or.inl ⟨db, if_pos hany⟩
  · rw [if_neg hany]
    have hpkey : (db.oauthCredentials.rows.any fun b => decide (b.id = o.id)) = false := by simpa using hid
    have hsize : Db.keyError "oauth_credentials_pkey" false (prim.indexRowSize [.uuid o.id]) = none :=
      if_pos (hx.uuid_size _)
    have herror : (db.oauthCredentials.refusal (Db.fits prim.indexRowSize) o).map
        (Db.refusalError prim.indexRowSize o) =
          Db.keyError oauthIdentityKey.name false (prim.indexRowSize (oauthIdentityKey.val o)) := by
      rw [Db.refusal_error]
      simp only [oauthCredentialsKeys, List.findSome?_cons, List.findSome?_nil, eq_false_of_ne_true hany]
      simp [Relational.Key.Clash, hpkey, hsize]
      cases Db.keyError oauthIdentityKey.name false (prim.indexRowSize (oauthIdentityKey.val o)) <;> rfl
    split
    · next r hr =>
      rw [Relational.Table.insert_error hr, Option.map_some] at herror
      rcases Db.keyError_eq_some herror.symm with ⟨hclash, -⟩ | ⟨hlarge, he⟩
      · cases hclash
      · exact Or.inr ⟨Nat.not_le.2 hlarge, congrArg Except.error he⟩
    · exact Or.inl ⟨_, dif_pos huser⟩

end Statements

/-! ### Runs -/

section Runs

variable {s₀ : State} {c : Pool Op Ret OAuthProfile (Except AppError Response) State}
  {h : History Op Ret OAuthProfile (Except AppError Response) State}

theorem login_tick {s s' : State} (ht : (undisturbedLogins env).tick s s') : Tick s s' := ht

theorem login_sem {H : History Op Ret OAuthProfile (Except AppError Response) State} {i : ℕ} {o : Op}
    {s s' : State} {r : Ret o} (ho : (undisturbedLogins env).sem H i o s r s') : Stmt env o s r s' :=
  .exec ho.1

section

variable (hc : (undisturbedLogins env).Reachable s₀ c)

include hc

/-- The statement of a run has been executed, and was not disturbed. -/
theorem login_stmt {i : ℕ} {o : Op} {r : Ret o} {s s' : State}
    (he : Occurs c.history h (.stmt i o r s s')) :
    exec env o s = some (r, s') ∧ undisturbed env o s = true := hc.sem_of_stmt he

theorem login_executed {i : ℕ} {o : Op} {r : Ret o} {s s' : State}
    (he : Occurs c.history h (.stmt i o r s s')) : Stmt env o s r s' := .exec (login_stmt hc he).1

theorem login_op {i : ℕ} {o : Op} {r : Ret o} {s s' : State}
    (he : Occurs c.history h (.stmt i o r s s')) : o.ofLogin = true :=
  (hc.at_stmt login_ops he).choose_spec.2

/-- Links stay. -/
theorem login_link_stays {i : ℕ} {o : Op} {r : Ret o} {s s' : State}
    (he : .stmt i o r s s' ∈ c.history) {provider : Provider} {puid : String} {id : Uuid}
    (hs : linkedUsers s'.db provider puid = [id]) : linkedUsers c.state.db provider puid = [id] := by
  let M (s s' : State) : Prop :=
    linkedUsers s.db provider puid = [id] → linkedUsers s'.db provider puid = [id]
  have htick : ∀ {s s'}, Tick s s' → M s s' := fun ⟨_, _, heq⟩ hs => heq ▸ hs
  have hstmt : ∀ {h i o r s s'}, Occurs c.history h (.stmt i o r s s') → M s s' :=
    fun he => (login_executed hc he).login_links (login_op hc he)
  have horder := hc.order_of (M := M) (fun _ h => h) (fun h h' hs => h' (h hs)) htick hstmt
  exact (horder.2 he).2.2 hs

/-- A user that a login has read is there. -/
theorem login_read_user {i : ℕ} {o : Op} {r : Ret o} {s s' : State}
    (he : Occurs c.history h (.stmt i o r s s')) {x : (o : Op) × Ret o} (hx : x ∈ localLog i h) {u : User}
    (hu : returnedUser x = some u) : ∃ v ∈ s.db.users.rows, v.id = u.id ∧ v.email = u.email := by
  obtain ⟨t, t', hm⟩ := exists_stmt_of_mem_localLog (o := x.1) (r := x.2) hx
  obtain ⟨past, he'⟩ := exists_occurs hm
  have hrow := (returnedUser_row (login_executed hc (he.trans he')) hu).1
  obtain ⟨v, hv, hid, hemail, -⟩ := (run_ordered login_sem login_tick hc he hm).users u hrow
  exact ⟨v, hv, hid, hemail⟩

/-- A user that a login has found by its address has the address. -/
theorem login_found_user {i : ℕ} {o : Op} {r : Ret o} {s s' : State}
    (he : Occurs c.history h (.stmt i o r s s')) {p : OAuthProfile} {id : Uuid}
    (hfound : FoundByEmail p (localLog i h) id) : ∃ v ∈ s.db.users.rows, v.id = id ∧ v.email = p.email := by
  obtain ⟨⟨o', r'⟩, hx, u, hu, rfl, hop⟩ := hfound
  obtain ⟨v, hv, hid, hemail⟩ := login_read_user hc he hx hu
  refine ⟨v, hv, hid, hemail.trans ?_⟩
  obtain ⟨t, t', hm⟩ := exists_stmt_of_mem_localLog hx
  obtain ⟨past, he'⟩ := exists_occurs hm
  have hstmt := login_executed hc (he.trans he')
  rcases hop with hop | ⟨n, name, hop⟩
  · obtain rfl : o' = .sql (.selectUserByEmail p.email) := hop
    rcases r' with e | found
    · cases hu
    · exact ((selectUserByEmail_row hstmt).2 u hu).2
  · obtain rfl : o' = .sql (.insertUser n p.email name) := hop
    rcases r' with e | found
    · cases hu
    · cases hu
      exact (insertUser_found hstmt).2

end

/-- All logins are logins of the identity, and the accounts with their addresses are active. -/
def LoginsOf (provider : OAuthProvider) (puid : String) (s₀ : State)
    (H : History Op Ret OAuthProfile (Except AppError Response) State) : Prop :=
  ∀ {i p}, .start i p ∈ H → (p.provider = provider ∧ p.providerUserId = puid) ∧
    ∀ u ∈ s₀.db.users.rows, u.email = p.email → u.isActive = true

/-- The users are those of the start and active ones, and the linked user is active. -/
structure LoginInv (s₀ : State) (provider : OAuthProvider) (puid : String) (s : State) : Prop where
  users : ∀ u ∈ s.db.users.rows, u ∈ s₀.db.users.rows ∨ u.isActive = true
  linked : ∀ id ∈ linkedUsers s.db (.from provider) puid, ∀ u ∈ s.db.users.rows, u.id = id →
    u.isActive = true

section

variable {provider : OAuthProvider} {puid : String} (hc : (undisturbedLogins env).Reachable s₀ c)
  (hnone : linkedUsers s₀.db (.from provider) puid = []) (hof : LoginsOf provider puid s₀ c.history)

include hc hof

/-- **Step lemma.**  Every statement of a login keeps the linked user active. -/
theorem LoginInv.stmt {i : ℕ} {o : Op} {r : Ret o} {s s' : State} (hs : LoginInv s₀ provider puid s)
    (he : Occurs c.history h (.stmt i o r s s')) : LoginInv s₀ provider puid s' := by
  have hstmt := login_executed hc he
  have hop := login_op hc he
  constructor
  · intro u hu
    exact (hstmt.login_users hop hu).elim (hs.users u) Or.inr
  · intro id hid u hu hidu
    rcases hstmt.login_users hop hu with hold | hactive
    swap
    · exact hactive
    rcases hstmt.links_cases (.from provider) puid with heq | ⟨n, userId, avatarUrl, rfl, -, hnew⟩ |
      ⟨-, -, -, hnil⟩
    · rw [heq] at hid
      exact hs.linked id hid u hold hidu
    · -- The new link is for a user with the address of a profile.
      rw [hnew, List.mem_singleton] at hid
      obtain ⟨p, hp, -, hfound⟩ := hc.at_stmt login_logsIn he
      obtain ⟨v, hv, hvid, hemail⟩ := login_found_user hc he hfound
      rw [Db.user_unique hold hv ((hidu.trans hid).trans hvid.symm)]
      exact (hs.users v hv).elim (fun hv₀ => (hof (he.past.subset hp)).2 v hv₀ hemail) fun hv => hv
    · rw [hnil] at hid
      cases hid

include hnone

theorem login_inv : LoginInv s₀ provider puid c.state ∧ ∀ {i o r s s'}, .stmt i o r s s' ∈ c.history →
    LoginInv s₀ provider puid s ∧ LoginInv s₀ provider puid s' := by
  have hinit : LoginInv s₀ provider puid s₀ :=
    ⟨fun u hu => Or.inl hu, fun id hid => by rw [hnone] at hid; cases hid⟩
  exact hc.always hinit (fun ⟨_, _, heq⟩ hs => heq ▸ ⟨hs.users, hs.linked⟩) fun he hs => hs.stmt hc hof he

/-- Logins read active users only. -/
theorem login_reads_active {i : ℕ} {a : Except AppError Response} (he : Occurs c.history h (.done i a)) :
    ¬ InactiveRead (localLog i h) := by
  rintro ⟨⟨o, r⟩, hx, u, hu, hinactive⟩
  obtain ⟨t, t', hm⟩ := exists_stmt_of_mem_localLog hx
  obtain ⟨past, he'⟩ := exists_occurs hm
  have hocc := he.trans he'
  have hstmt := login_executed hc hocc
  have hop := login_op hc hocc
  obtain ⟨p, hp, hparams⟩ := hc.at_stmt login_logsIn hocc
  obtain ⟨⟨rfl, rfl⟩, hactive⟩ := hof (hocc.past.subset hp)
  have hinv := ((login_inv hc hnone hof).2 hocc.mem).1
  unfold returnedUser at hu
  split at hu
  · next heq =>
    cases heq
    cases hop
  · next heq =>
    cases heq
    obtain ⟨hmem, hemail⟩ := (selectUserByEmail_row hstmt).2 u hu
    obtain rfl : _ = p.email := hparams
    rw [(hinv.users u hmem).elim (fun h₀ => hactive u h₀ hemail) id] at hinactive
    cases hinactive
  · next heq =>
    cases heq
    cases hu
    obtain ⟨rfl, rfl⟩ := hparams
    obtain ⟨-, hsome, -⟩ := selectUserByOAuthIdentity_linked hstmt
    obtain ⟨hmem, hlinked⟩ := hsome u rfl
    rw [hinv.linked u.id (by rw [hlinked]; exact List.mem_cons_self) u hmem rfl] at hinactive
    cases hinactive
  · next heq =>
    cases heq
    cases hop
  · next heq =>
    cases heq
    cases hu
    rw [(insertUser_row hstmt).2] at hinactive
    cases hinactive
  · cases hu

end

section

variable (hx : env.prim.Exact) (hs₀ : Marked env s₀) (hc : (undisturbedLogins env).Reachable s₀ c)

include hc

/-- What logins insert has been drawn. -/
theorem logins_drawn : InsertsDrawn env c.history := by
  intro h i o r s s' he
  have hdraws : ∀ p, SatE (handle env (.oauthLogin p)) (fun log o => o.Drawn env log) (fun _ _ => True)
      (fun _ _ => True) [] := fun p => handle_drawn (.oauthLogin p)
  have hids : ∀ p, SatE (handle env (.oauthLogin p)) (fun log o => o.LinksDrawn env log) (fun _ _ => True)
      (fun _ _ => True) [] := fun p => handle_linksDrawn (.oauthLogin p)
  obtain ⟨-, -, hdrawn⟩ := hc.at_stmt hdraws he
  obtain ⟨-, -, hlinks⟩ := hc.at_stmt hids he
  exact Op.fromDraws hdrawn hlinks

/-- An expiry that a login computes fits. -/
theorem login_expiry {i : ℕ} {t : OffsetDateTime} (ht : ⟨.now, t⟩ ∈ localLog i c.history) :
    0 ≤ t ∧ OffsetDateTime.InRange (t + TokenService.refreshLifetime env) ∧
      minTimestamp ≤ t + TokenService.refreshLifetime env := by
  obtain ⟨s, s', hm⟩ := exists_stmt_of_mem_localLog ht
  obtain ⟨past, he⟩ := exists_occurs hm
  obtain ⟨hexec, hfits⟩ := login_stmt hc he
  cases hexec
  simp only [undisturbed, expiryFits, decide_eq_true_eq] at hfits
  exact ⟨Int.natCast_nonneg _, hfits⟩

include hx hs₀

/-- What a login inserts is new. -/
theorem login_fresh {i : ℕ} {o : Op} {r : Ret o} {s s' : State}
    (he : Occurs c.history h (.stmt i o r s s')) : ∀ m ∈ o.marks, m ∉ s.db.marks := by
  obtain ⟨p, -, honce⟩ := hc.at_stmt login_inserts he
  exact fresh_marks login_sem login_tick hc hx hs₀ (logins_drawn hc) he honce

/-- **No statement of an undisturbed login fails.** -/
theorem login_never_fails {i : ℕ} {o : Op} {r : Ret o} {s s' : State}
    (he : Occurs c.history h (.stmt i o r s s')) : failed ⟨o, r⟩ = false := by
  obtain ⟨hexec, hfits⟩ := login_stmt hc he
  have hop := login_op hc he
  have hfresh := login_fresh hx hs₀ hc he
  obtain ⟨p, -, hparams⟩ := hc.at_stmt login_logsIn he
  cases o with
  | encode claims =>
    cases hexec
    rfl
  | sql q =>
    suffices hok : ∃ res, q.apply env.prim s.clock s.db = .ok res by
      obtain ⟨⟨res, db⟩, hok⟩ := hok
      simp only [exec, hok, Option.some.injEq, Prod.mk.injEq] at hexec
      rw [← hexec.1]
      rfl
    cases q with
    | selectUserByOAuthIdentity provider puid =>
      have hnul : hasNul puid = false := by simpa [undisturbed] using hfits
      exact ⟨_, bindTexts_ok.2 ⟨by simp [hnul], rfl⟩⟩
    | selectUserByEmail email =>
      have hnul : hasNul email = false := by simpa [undisturbed] using hfits
      exact ⟨_, bindTexts_ok.2 ⟨by simp [hnul], rfl⟩⟩
    | insertUser id email name =>
      have hnew : ∀ v ∈ s.db.users.rows, v.id ≠ id := by
        rintro v hv rfl
        exact hfresh _ List.mem_cons_self (mem_marks.2 (Or.inl ⟨v, hv, rfl⟩))
      have hfree : insertUserError env.prim s.db email name = none := by simpa [undisturbed] using hfits
      obtain ⟨db, hdb⟩ := (insertUser_outcome hx s.clock email name hnew).2 hfree
      exact ⟨_, by simp only [Sql.apply, hdb]; rfl⟩
    | insertOAuthCredential id userId provider puid avatarUrl =>
      simp only [undisturbed, Bool.and_eq_true, Bool.not_eq_true', decide_eq_true_eq] at hfits
      obtain ⟨v, hv, hid, -⟩ := login_found_user hc he hparams.2
      have hnew : ∀ o' ∈ s.db.oauthCredentials.rows, o'.id ≠ id := fun o' ho' heq =>
        hfresh _ List.mem_cons_self (mem_marks.2 (Or.inr (Or.inl ⟨o', ho', by rw [heq]⟩)))
      obtain ⟨db, hdb⟩ :=
        (linkOAuthAccount_outcome hx (o := ⟨id, userId, provider, puid, avatarUrl, s.clock⟩) hnew
          ⟨v, hv, hid⟩).resolve_right fun h => h.1 hfits.1.2
      have hbind := bindTexts_ok.2 ⟨hfits.1.1, hdb⟩
      exact ⟨_, by simp only [Sql.apply, hbind]; rfl⟩
    | insertRefreshToken id userId hash key expiresAt =>
      obtain ⟨⟨x, hxl, u, hu, rfl⟩, ⟨n, salt, rfl, hhash⟩, t, ht, rfl⟩ := hparams
      obtain ⟨v, hv, hid, -⟩ := login_read_user hc he hxl hu
      obtain ⟨-, -, hmin⟩ := login_expiry hc ((localLog_suffix he.past).subset ht)
      obtain ⟨hash', hhash', hnul⟩ := hx.hash_total (env.prim.opaqueToken n) salt
      rw [hhash] at hhash'
      cases hhash'
      let row : RefreshToken := ⟨id, u.id, hash, TokenService.computeLookupKey env (env.prim.opaqueToken n),
        t + TokenService.refreshLifetime env, false, s.clock⟩
      have hnew : ∀ m ∈ [Mark.token row.id, .hash row.tokenHash, .key row.lookupKey], m ∉ s.db.marks := hfresh
      have hunused : ∀ r ∈ s.db.refreshTokens.rows, r.id ≠ row.id ∧ r.tokenHash ≠ row.tokenHash ∧
          r.lookupKey ≠ row.lookupKey := by
        intro r hr
        refine ⟨fun heq => hnew (.token row.id) (by simp) ?_, fun heq => hnew (.hash row.tokenHash)
          (by simp) ?_, fun heq => hnew (.key row.lookupKey) (by simp) ?_⟩ <;>
        exact mem_marks.2 (Or.inr (Or.inr ⟨r, hr, by simp [heq]⟩))
      obtain ⟨db, hdb⟩ := hx.insertRefreshToken row hhash rfl hunused ⟨v, hv, hid⟩
      have hbind : bindTexts [row.tokenHash, row.lookupKey]
          (bindTimestamp row.expiresAt (s.db.insertRefreshToken env.prim.indexRowSize row)) = .ok db :=
        bindTexts_ok.2 ⟨by simp [row, TokenService.computeLookupKey, hnul, hx.hmac_noNul],
          bindTimestamp_ok.2 ⟨hmin, hdb⟩⟩
      exact ⟨((), db), by simp only [Sql.apply]; exact congrArg (fun x => x >>= fun db => .ok ((), db)) hbind⟩
    | selectLocalCredential userId => exact ⟨_, rfl⟩
    | _ => cases hop
  | now | random | decode => rfl
  | abort => exact r.elim

variable {provider : OAuthProvider} {puid : String}
  (hnone : linkedUsers s₀.db (.from provider) puid = []) (hof : LoginsOf provider puid s₀ c.history)

omit hx hs₀ in
include hof in
/-- A link that a login has seen is the link of the identity. -/
theorem login_link_seen {i : ℕ} {id : Uuid} (hseen : LinkShown (localLog i c.history) id) :
    linkedUsers c.state.db (.from provider) puid = [id] := by
  obtain ⟨⟨o, r⟩, hxl, hshown⟩ := hseen
  obtain ⟨s, s', hm⟩ := exists_stmt_of_mem_localLog hxl
  obtain ⟨past, he⟩ := exists_occurs hm
  refine login_link_stays hc hm ?_
  have hstmt := login_executed hc he
  obtain ⟨p, hp, hparams⟩ := hc.at_stmt login_logsIn he
  obtain ⟨⟨rfl, rfl⟩, -⟩ := hof (he.past.subset hp)
  unfold linkShown at hshown
  split at hshown
  · next found heq =>
    cases heq
    obtain ⟨u, rfl, rfl⟩ := Option.map_eq_some_iff.1 hshown
    obtain ⟨rfl, rfl⟩ := hparams
    obtain ⟨rfl, hsome, -⟩ := selectUserByOAuthIdentity_linked hstmt
    exact (hsome u rfl).2
  · next n userId provider' puid' avatarUrl res heq =>
    cases heq
    cases hshown
    obtain ⟨⟨rfl, rfl⟩, -⟩ := hparams
    have hfits := (login_stmt hc he).2
    simp only [undisturbed, Bool.and_eq_true, List.all_eq_true, decide_eq_true_eq] at hfits
    rcases linkedUsers_cases s.db (.from p.provider) p.providerUserId with hnil | ⟨id', hone⟩
    · -- The identity was free.
      obtain ⟨o', hrows, hp', hi', rfl⟩ := linked_of_insert hstmt hnil
      have hmem : o' ∈ s'.db.oauthCredentials.rows := by
        rw [hrows]
        exact List.mem_append_right _ List.mem_cons_self
      exact linkedUsers_of_mem hmem hp' hi'
    · -- The identity was linked to the same user.
      have hsame : id' = id := hfits.2 id' (by rw [hone]; exact List.mem_cons_self)
      exact hstmt.login_links rfl (hsame ▸ hone)
  · cases hshown

include hnone hof

/-- **Undisturbed logins agree**, from every state with marks of its own. -/
theorem logins_agree : LoginsAgree c provider puid := by
  constructor
  · intro i x hdone
    obtain ⟨h, he⟩ := exists_occurs hdone
    obtain ⟨p, -, hresult⟩ := hc.at_done login_results he
    rcases x with e | a
    · exfalso
      rcases hresult with ⟨⟨o, r⟩, hxl, hfailed⟩ | hinactive
      · obtain ⟨s, s', hm⟩ := exists_stmt_of_mem_localLog hxl
        obtain ⟨past, he'⟩ := exists_occurs hm
        rw [login_never_fails hx hs₀ hc (he.trans he')] at hfailed
        cases hfailed
      · exact login_reads_active hc hnone hof he hinactive
    · obtain ⟨response, rfl, x, hxl, hshown⟩ := hresult
      exact ⟨response, rfl, login_link_seen hc hof
        ⟨x, (localLog_suffix he.past).subset hxl, hshown⟩⟩
  · intro i k hi
    obtain ⟨p, -, hpanics, -⟩ := (hc.logged login_logsIn).thread hi
    rcases hpanics with ⟨raw, salt, hhash⟩ | ⟨t, ht, hbad⟩
    · obtain ⟨hash, hsome, -⟩ := hx.hash_total raw salt
      rw [hhash] at hsome
      cases hsome
    · obtain ⟨hpos, hrange, -⟩ := login_expiry hc ht
      rcases hbad with hneg | hbad
      · exact absurd hneg (Int.not_lt.2 hpos)
      · exact hbad hrange

end

end Runs

/-- **First logins at the same time.**  From every reachable state in which the identity is not linked,
any number of undisturbed logins of the identity, interleaved in any way, succeed and agree. -/
theorem first_logins_agree (hx : env.prim.Exact) {clock : ℕ}
    {c₀ : Pool Op Ret Request (Except AppError Response) State}
    (hc₀ : (service env).Reachable (.fresh clock) c₀) {provider : OAuthProvider} {puid : String}
    (hnone : linkedUsers c₀.state.db (.from provider) puid = [])
    {c : Pool Op Ret OAuthProfile (Except AppError Response) State}
    (hc : (undisturbedLogins env).Reachable c₀.state c)
    (hof : LoginsOf provider puid c₀.state c.history) : LoginsAgree c provider puid :=
  logins_agree hx (service_marked (marked_fresh env clock) hc₀) hc hnone hof

/-! ### Concrete logins -/

/-- Whether all logins of a history are for the identity, and the accounts with their addresses are
active. -/
def loginsOf (provider : OAuthProvider) (puid : String) (s₀ : State)
    (H : History Op Ret OAuthProfile (Except AppError Response) State) : Bool :=
  H.all fun
    | .start _ p => decide ((p.provider = provider ∧ p.providerUserId = puid) ∧
        ∀ u ∈ s₀.db.users.rows, u.email = p.email → u.isActive = true)
    | _ => true

theorem loginsOf_of_true {provider : OAuthProvider} {puid : String} {s₀ : State}
    {H : History Op Ret OAuthProfile (Except AppError Response) State}
    (h : loginsOf provider puid s₀ H = true) : LoginsOf provider puid s₀ H :=
  fun hq => of_decide_eq_true (List.all_eq_true.1 h _ hq)

/-- The user for whom request `i` has got tokens. -/
def loggedIn (i : ℕ) (H : History Op Ret OAuthProfile (Except AppError Response) State) : Option Uuid :=
  (System.outcome i H).bind account

/-- Carol's identity with Alice's address. -/
def aliceProfile : OAuthProfile := { carolProfile with email := "alice@example.com" }

/-- Alice has an account, and logs in for the first time with a provider, twice at the same time. -/
theorem first_logins_agree_of_alice :
    ∃ c₀ c, (service demo).Reachable (.fresh 0) c₀ ∧ (undisturbedLogins demo).Reachable c₀.state c ∧
      (loggedIn 0 c.history, loggedIn 1 c.history) = (some 1, some 1) ∧
      LoginsAgree c .google "1" := by
  obtain ⟨c₀, hc₀, hobs⟩ := exists_run demo (.fresh 0) ([.start registerAlice] ++ goes 0 10)
    (fun c₀ => (linkedUsers c₀.state.db .google "1",
      (System.play (undisturbedLogins demo).handler
        (fun _ _ o s => if undisturbed demo o s then exec demo o s else none)
        ([.start aliceProfile, .start { aliceProfile with displayName := none }] ++ goes 0 2 ++ goes 1 2 ++
          goes 0 10 ++ goes 1 10) (.init c₀.state)).map fun c =>
        (loginsOf .google "1" c₀.state c.history, loggedIn 0 c.history, loggedIn 1 c.history)))
    ([], some (true, some 1, some 1)) (by decide +kernel)
  obtain ⟨hnone, hplay⟩ := Prod.mk.inj hobs
  obtain ⟨c, hc, hobs⟩ := Option.map_eq_some_iff.1 hplay
  obtain ⟨hof, hlogged⟩ := Prod.mk.inj hobs
  have hsem : ∀ {H i o s r s'}, (if undisturbed demo o s then exec demo o s else none) = some (r, s') →
      (undisturbedLogins demo).sem H i o s r s' := by
    intro H i o s r s' h
    split at h
    · next hfits => exact ⟨h, hfits⟩
    · cases h
  have hreach := System.Reachable.play hsem .init hc
  have hnone : linkedUsers c₀.state.db (.from OAuthProvider.google) "1" = [] := hnone
  exact ⟨c₀, c, hc₀, hreach, hlogged, first_logins_agree Primitives.ideal_exact hc₀ hnone hreach
    (loginsOf_of_true hof)⟩

/-- Carol logs in for the first time, twice at the same time: the second login fails; and with two
addresses, she gets two accounts. -/
theorem first_logins_clash :
    linkedUsers (State.fresh 0).db .google "1" = [] ∧
    (∃ c, (logins demo).Reachable (State.fresh 0) c ∧ LoginsOf .google "1" (.fresh 0) c.history ∧
      .done 1 (.error .emailTaken) ∈ c.history ∧ ¬ LoginsAgree c .google "1") ∧
    ∃ c, (logins demo).Reachable (State.fresh 0) c ∧ LoginsOf .google "1" (.fresh 0) c.history ∧
      loggedIn 0 c.history ≠ loggedIn 1 c.history ∧ ¬ LoginsAgree c .google "1" := by
  have hsem : ∀ {H i o s r s'}, exec demo o s = some (r, s') → (logins demo).sem H i o s r s' :=
    fun h => h
  refine ⟨rfl, ?_, ?_⟩
  · have hplay : (System.play (logins demo).handler (fun _ _ => exec demo)
        ([.start carolProfile, .start carolProfile] ++ goes 0 2 ++ goes 1 2 ++ goes 0 2 ++ goes 1 2)
        (.init (.fresh 0))).map (fun c => (loginsOf .google "1" (.fresh 0) c.history,
          System.outcome 1 c.history)) = some (true, some (.error .emailTaken)) := by decide +kernel
    obtain ⟨c, hc, hobs⟩ := Option.map_eq_some_iff.1 hplay
    obtain ⟨hof, houtcome⟩ := Prod.mk.inj hobs
    have hdone := System.done_mem_of_outcome houtcome
    refine ⟨c, System.Reachable.play hsem .init hc, loginsOf_of_true hof, hdone, fun hagree => ?_⟩
    obtain ⟨response, heq, -⟩ := hagree.succeeds hdone
    cases heq
  · have hplay : (System.play (logins demo).handler (fun _ _ => exec demo)
        ([.start carolProfile,
          .start { carolProfile with email := "carol@example.org", displayName := some "Carol O." }] ++
          goes 0 2 ++ goes 1 2 ++ goes 0 12 ++ goes 1 12)
        (.init (.fresh 0))).map (fun c => (loginsOf .google "1" (.fresh 0) c.history,
          loggedIn 0 c.history, loggedIn 1 c.history)) = some (true, some 0, some 5) := by decide +kernel
    obtain ⟨c, hc, hobs⟩ := Option.map_eq_some_iff.1 hplay
    simp only [Prod.mk.injEq] at hobs
    obtain ⟨hof, h₀, h₁⟩ := hobs
    refine ⟨c, System.Reachable.play hsem .init hc, loginsOf_of_true hof, by simp [h₀, h₁],
      fun hagree => ?_⟩
    obtain ⟨x₀, hx₀, ha₀⟩ := Option.bind_eq_some_iff.1 h₀
    obtain ⟨x₁, hx₁, ha₁⟩ := Option.bind_eq_some_iff.1 h₁
    obtain ⟨r₀, heq₀, hl₀⟩ := hagree.succeeds (System.done_mem_of_outcome hx₀)
    obtain ⟨r₁, heq₁, hl₁⟩ := hagree.succeeds (System.done_mem_of_outcome hx₁)
    subst heq₀ heq₁
    rw [hl₀] at hl₁
    simp only [account, Option.some.injEq] at ha₀ ha₁
    simp [ha₀, ha₁] at hl₁

end Socle
