import Socle.Access.Provenance
import Socle.Failures

/-!
# Whose rows a request touches

* `SameRows`: the rows of a user are the same in all four tables;
* `Sql.sameRows`: a statement touches the rows of its owner only;
* `subject`: the user on whom a request acts, from its log;
* `handle_concerns`, `handle_rejects`: what every handler writes, and that it writes nothing when it
  rejects a request;
* `isolated`: requests touch the rows of their subject only.
-/

namespace Socle

open Interaction Prog System

variable {env : Env}

/-! ### Rows of a user -/

/-- The rows of the user `u` are the same. -/
structure SameRows (u : Uuid) (db db' : Db) : Prop where
  users : db'.users.rows.filter (·.id = u) = db.users.rows.filter (·.id = u)
  localCredentials :
    db'.localCredentials.rows.filter (·.userId = u) = db.localCredentials.rows.filter (·.userId = u)
  oauthCredentials :
    db'.oauthCredentials.rows.filter (·.userId = u) = db.oauthCredentials.rows.filter (·.userId = u)
  refreshTokens :
    db'.refreshTokens.rows.filter (·.userId = u) = db.refreshTokens.rows.filter (·.userId = u)

theorem SameRows.refl (u : Uuid) (db : Db) : SameRows u db db := ⟨rfl, rfl, rfl, rfl⟩

section Filter

variable {α : Type} {owner : α → Uuid} {rows : List α} {u : Uuid}

/-- Rewriting the rows of others. -/
theorem filter_rewrite {p : α → Prop} [DecidablePred p] {f : α → α} (hf : ∀ a, owner (f a) = owner a)
    (hp : ∀ a ∈ rows, p a → owner a ≠ u) :
    (rows.map fun a => if p a then f a else a).filter (owner · = u) = rows.filter (owner · = u) := by
  induction rows with
  | nil => rfl
  | cons a rows ih =>
    have ih := ih fun b hb => hp b (List.mem_cons_of_mem _ hb)
    rw [List.map_cons, List.filter_cons, List.filter_cons, ih]
    by_cases ha : p a
    · have hne := hp a List.mem_cons_self ha
      rw [if_pos ha, hf, if_neg (by simp [hne]), if_neg (by simp [hne])]
    · rw [if_neg ha]

/-- Inserting a row of somebody else. -/
theorem filter_insert {a : α} (ha : owner a ≠ u) :
    (rows ++ [a]).filter (owner · = u) = rows.filter (owner · = u) := by
  simp [ha]

/-- Deleting rows of others. -/
theorem filter_delete {p : α → Bool} (hp : ∀ a ∈ rows, p a = false → owner a ≠ u) :
    (rows.filter p).filter (owner · = u) = rows.filter (owner · = u) := by
  rw [List.filter_filter]
  refine List.filter_congr fun a ha => ?_
  cases h : p a with
  | true => simp
  | false => simp [hp a ha h]

end Filter

section Statements

variable {s s' : State} {u : Uuid}

/-- The rows of those whom a statement does not touch. -/
theorem Sql.sameRows {q : Sql} {now : OffsetDateTime} {db db' : Db} {res : q.Result}
    (h : q.apply env.prim now db = .ok (res, db')) (howner : q.owner ≠ some u)
    (hrevoke : ∀ id, q = .revokeRefreshToken id → ∀ r ∈ db.refreshTokens.rows, r.id = id → r.userId ≠ u) :
    SameRows u db db' := by
  obtain ⟨hu, hl, ho, hr⟩ := apply_ok h
  constructor
  · rw [hu]
    cases q with
    | insertAccount id => exact filter_insert fun heq => howner (congrArg some heq)
    | insertUser id => exact filter_insert fun heq => howner (congrArg some heq)
    | updateRole role id =>
      exact filter_rewrite (fun _ => rfl) fun v _ hid heq => howner (congrArg some (hid.symm.trans heq))
    | deactivateUser id =>
      exact filter_rewrite (fun _ => rfl) fun v _ hid heq => howner (congrArg some (hid.symm.trans heq))
    | _ => rfl
  · rw [hl]
    cases q with
    | insertAccount id => exact filter_insert fun heq => howner (congrArg some heq)
    | updatePasswordHash hash id =>
      exact filter_rewrite (fun _ => rfl) fun c _ hid heq => howner (congrArg some (hid.symm.trans heq))
    | _ => rfl
  · rw [ho]
    cases q with
    | insertOAuthCredential id userId provider puid avatarUrl =>
      rw [Sql.oauthCredentials]
      split
      · rfl
      · exact filter_insert fun heq => howner (congrArg some heq)
    | deleteOAuthCredential userId provider =>
      refine filter_delete fun o _ hdel heq => howner (congrArg some ?_)
      simp only [Bool.not_eq_false', decide_eq_true_eq] at hdel
      exact hdel.1.symm.trans heq
    | _ => rfl
  · rw [hr]
    cases q with
    | insertRefreshToken id userId => exact filter_insert fun heq => howner (congrArg some heq)
    | revokeRefreshToken id => exact filter_rewrite (fun _ => rfl) fun r hmem hid => hrevoke id rfl r hmem hid
    | revokeUserRefreshTokens userId =>
      exact filter_rewrite (fun _ => rfl) fun r _ hid heq => howner (congrArg some (hid.1.symm.trans heq))
    | _ => rfl

end Statements

/-! ### Subjects -/

/-- The access token that a request presents. -/
def Request.accessToken : Request → Option String
  | .logout authorization => extractBearer authorization
  | .listConnections authorization => extractBearer authorization
  | .unlinkConnection authorization _ => extractBearer authorization
  | .getMe authorization => extractBearer authorization
  | .changePassword authorization _ _ => extractBearer authorization
  | .deactivateAccount authorization => extractBearer authorization
  | _ => none

/-- The `sub` of a verified access token. -/
def verifiedSub (accessToken : Option String) : (o : Op) × Ret o → Option Uuid
  | ⟨.decode token, .ok claims⟩ => if accessToken = some token then some claims.sub else none
  | _ => none

/-- The owner of a refresh token that has been found under its lookup key. -/
def tokenOwner (lookupKey : String) : (o : Op) × Ret o → Option Uuid
  | ⟨.sql (.selectRefreshToken key), .ok (some record)⟩ =>
    if key = lookupKey then some record.userId else none
  | _ => none

/-- The subject of a request, where an answered statement tells: the target of a role update, the owner
of the refresh token, the user that is found or created, or else the `sub` of the access token. -/
def Request.subjectOf (env : Env) : Request → (o : Op) × Ret o → Option Uuid
  | .updateUserRole _ targetId _, _ => some targetId
  | .refresh t, x => tokenOwner (TokenService.computeLookupKey env t) x
  | .register _ _ _, x => (returnedUser x).map (·.id)
  | .login _ _, x => (returnedUser x).map (·.id)
  | .oauthLogin _, x => (returnedUser x).map (·.id)
  | q, x => verifiedSub q.accessToken x

/-- The subject of a request, from the first of its statements that tells. -/
def subject (env : Env) (q : Request) : Log Op Ret → Option Uuid
  | [] => none
  | x :: log => (subject env q log).or (q.subjectOf env x)

@[simp] theorem subject_nil {q : Request} : subject env q [] = none := rfl

@[simp] theorem subject_cons {q : Request} {x : (o : Op) × Ret o} {log : Log Op Ret} :
    subject env q (x :: log) = (subject env q log).or (q.subjectOf env x) := rfl

/-- The subject stays the same. -/
theorem subject_of_suffix {q : Request} {log log' : Log Op Ret} (h : log <:+ log') {u : Uuid}
    (hu : subject env q log = some u) : subject env q log' = some u := by
  obtain ⟨l, rfl⟩ := h
  induction l with
  | nil => exact hu
  | cons x l ih =>
    rw [List.cons_append, subject_cons, ih]
    rfl

/-! ### What handlers write -/

/-- The request acts on the user that it finds or creates. -/
def Request.findsUser : Request → Bool
  | .register _ _ _ => true
  | .login _ _ => true
  | .oauthLogin _ => true
  | _ => false

theorem Request.subjectOf_findsUser {q : Request} (hq : q.findsUser = true) (x : (o : Op) × Ret o) :
    q.subjectOf env x = (returnedUser x).map (·.id) := by
  cases q with
  | register | login | oauthLogin => rfl
  | _ => cases hq

/-- A statement of the request `q` concerns its subject, which is new where an account is inserted. -/
def Op.Concerns (env : Env) (q : Request) (log : Log Op Ret) : Op → Prop
  | .sql (.insertAccount _ _ _ _ _) => subject env q log = none ∧ q.findsUser = true
  | .sql (.insertUser _ _ _) => subject env q log = none ∧ q.findsUser = true
  | .sql (.revokeRefreshToken id) => ∃ key record,
    ⟨.sql (.selectRefreshToken key), .ok (some record)⟩ ∈ log ∧ record.id = id ∧
      subject env q log = some record.userId
  | .sql q' => ∀ id, q'.owner = some id → subject env q log = some id
  | _ => True

/-- **Every handler** writes rows of its subject. -/
theorem handle_concerns (q : Request) : SatE (handle env q) (fun log o => o.Concerns env q log)
    (fun _ _ => True) (fun _ _ => True) [] := by
  cases q with
  | register email username password =>
    simp [handle, Routes.register, AuthService.register, Op.Concerns, Sql.owner, Request.subjectOf,
      returnedUser, Request.findsUser]
  | login email password =>
    simp [handle, Routes.login, AuthService.login, Op.Concerns, Sql.owner, Request.subjectOf,
      returnedUser]
  | refresh t =>
    simp [handle, Routes.refresh, AuthService.refresh, Op.Concerns, Sql.owner, Request.subjectOf,
      tokenOwner]
  | logout authorization =>
    simp [handle, Routes.logout, AuthService.logout, Op.Concerns, Sql.owner, Request.subjectOf,
      verifiedSub, Request.accessToken]
    exact fun _ htoken _ => if_pos htoken
  | oauthLogin profile =>
    simp [handle, Routes.oauthLogin, AuthService.loginOrRegisterOAuth, Op.Concerns, Sql.owner,
      Request.subjectOf, returnedUser, Request.findsUser]
  | listConnections authorization =>
    simp [handle, Routes.listConnections, Op.Concerns, Sql.owner]
  | unlinkConnection authorization slug =>
    simp [handle, Routes.unlinkConnection, Op.Concerns, Sql.owner, Request.subjectOf, verifiedSub,
      Request.accessToken]
    exact fun _ htoken _ _ _ _ => if_pos htoken
  | getMe authorization => simp [handle, Routes.getMe, Op.Concerns, Sql.owner]
  | changePassword authorization current new =>
    simp [handle, Routes.changePassword, Op.Concerns, Sql.owner, Request.subjectOf, verifiedSub,
      Request.accessToken]
    exact fun _ htoken _ _ _ _ _ _ _ => if_pos htoken
  | deactivateAccount authorization =>
    simp [handle, Routes.deactivateAccount, Op.Concerns, Sql.owner, Request.subjectOf, verifiedSub,
      Request.accessToken]
    exact fun _ htoken _ _ => if_pos htoken
  | updateUserRole authorization target role =>
    simp [handle, Routes.updateUserRole, AdminService.updateUserRole, Op.Concerns, Sql.owner,
      Request.subjectOf]

/-- A role update writes its target's role. -/
def Op.AssignsRole (q : Request) (o : Op) : Prop :=
  ∀ authorization target role, q = .updateUserRole authorization target role →
    ∀ q', o = .sql q' → q'.writes = true → q' = .updateRole role target

theorem handle_assignsRole (q : Request) : SatE (handle env q) (fun _ o => o.AssignsRole q)
    (fun _ _ => True) (fun _ _ => True) [] := by
  cases q with
  | updateUserRole authorization target role =>
    simp [handle, Routes.updateUserRole, AdminService.updateUserRole, Op.AssignsRole, Sql.writes,
      Sql.owner]
  | _ => exact SatE.trivial (fun _ _ _ _ _ heq => by cases heq) (fun _ _ => trivial) (fun _ _ => trivial) _

/-- The errors of requests that are rejected for the credentials that they present. -/
def Rejects (log : Log Op Ret) : AppError → Prop
  | .missingAuthHeader => True
  | .tokenExpired => True
  | .tokenInvalid => True
  | .forbidden => True
  | .invalidCredentials => True
  | .refreshTokenInvalid => ∃ key, ⟨.sql (.selectRefreshToken key), .ok none⟩ ∈ log
  | _ => False

theorem not_rejects_mapConstraintErr {log : Log Op Ret} {e : SqlxError} {constraint : String}
    {mapped : AppError} (h : ¬ Rejects log mapped) : ¬ Rejects log (mapConstraintErr e constraint mapped) := by
  unfold mapConstraintErr
  split
  · split
    · exact h
    · exact id
  · exact id

theorem not_rejects_createErr {log : Log Op Ret} {e : TxError} :
    ¬ Rejects log (UserService.createErr e) := by
  cases e with
  | users e | localCredentials e => exact not_rejects_mapConstraintErr id
  | transaction e => exact id

/-- No statement of the log writes. -/
def WritesNothing (log : Log Op Ret) : Prop := ∀ x ∈ log, ∀ q, x.1 = .sql q → q.writes = false

@[simp] theorem writesNothing_nil : WritesNothing [] := by
  simp [WritesNothing]

@[simp] theorem writesNothing_sql {q : Sql} {r : Ret (.sql q)} {log : Log Op Ret} :
    WritesNothing (⟨.sql q, r⟩ :: log) ↔ q.writes = false ∧ WritesNothing log := by
  simp [WritesNothing]

/-- Other statements write nothing. -/
theorem writesNothing_other {o : Op} {r : Ret o} {log : Log Op Ret} (ho : ∀ q, o ≠ .sql q) :
    WritesNothing (⟨o, r⟩ :: log) ↔ WritesNothing log := by
  simp [WritesNothing, ho]

@[simp] theorem writesNothing_now {r : Ret .now} {log : Log Op Ret} :
    WritesNothing (⟨.now, r⟩ :: log) ↔ WritesNothing log := writesNothing_other (by simp)

@[simp] theorem writesNothing_random {r : Ret .random} {log : Log Op Ret} :
    WritesNothing (⟨.random, r⟩ :: log) ↔ WritesNothing log := writesNothing_other (by simp)

@[simp] theorem writesNothing_encode {claims : Claims} {r : Ret (.encode claims)} {log : Log Op Ret} :
    WritesNothing (⟨.encode claims, r⟩ :: log) ↔ WritesNothing log := writesNothing_other (by simp)

@[simp] theorem writesNothing_decode {token : String} {r : Ret (.decode token)} {log : Log Op Ret} :
    WritesNothing (⟨.decode token, r⟩ :: log) ↔ WritesNothing log := writesNothing_other (by simp)

/-- **Every handler** that rejects a request has written nothing, unless a token could not be signed. -/
theorem handle_rejects (q : Request) : SatE (handle env q) (fun _ _ => True) (fun _ _ => True)
    (fun log e => Rejects log e → WritesNothing log ∨ ∃ claims e', ⟨.encode claims, .error e'⟩ ∈ log)
    [] := by
  cases q with
  | register email username password =>
    simp [handle, Routes.register, AuthService.register, Rejects]
    intro _ _ _ _ _ _ _ e
    have hnot : ¬ Rejects [] (UserService.createErr e) := not_rejects_createErr
    simpa [Rejects] using hnot
  | login email password =>
    simp [handle, Routes.login, AuthService.login, Rejects]
  | refresh t =>
    simp [handle, Routes.refresh, AuthService.refresh, Rejects]
  | logout authorization =>
    simp [handle, Routes.logout, AuthService.logout, Rejects]
  | oauthLogin profile =>
    simp [handle, Routes.oauthLogin, AuthService.loginOrRegisterOAuth, Rejects]
    intro _ e
    have hnot : ¬ Rejects [] (mapConstraintErr e "users_email_key" .emailTaken) :=
      not_rejects_mapConstraintErr id
    simpa [Rejects] using hnot
  | listConnections authorization =>
    simp [handle, Routes.listConnections, Rejects]
  | unlinkConnection authorization slug =>
    simp [handle, Routes.unlinkConnection, Rejects]
  | getMe authorization =>
    simp [handle, Routes.getMe, Rejects]
  | changePassword authorization current new =>
    simp [handle, Routes.changePassword, Rejects]
  | deactivateAccount authorization =>
    simp [handle, Routes.deactivateAccount, Rejects]
  | updateUserRole authorization target role =>
    simp [handle, Routes.updateUserRole, AdminService.updateUserRole, Rejects]

/-! ### Statements of a request -/

section Statements

variable {s s' : State} {q : Request} {log : Log Op Ret} {o : Op} {r : Ret o} {u : Uuid}

/-- The refresh tokens that have been looked up are rows of the state. -/
def LookedUp (log : Log Op Ret) (s : State) : Prop :=
  ∀ key record, ⟨.sql (.selectRefreshToken key), .ok (some record)⟩ ∈ log →
    ∃ row ∈ s.db.refreshTokens.rows, row.id = record.id ∧ row.userId = record.userId

/-- **A statement of a request** touches the rows of its subject only. -/
theorem Op.Concerns.sameRows (ho : o.Concerns env q log) (h : Stmt env o s r s') (hlookup : LookedUp log s)
    (hu : subject env q (⟨o, r⟩ :: log) ≠ some u) : SameRows u s.db s'.db := by
  rcases h.db_cases with hdb | ⟨q', -, rfl, -⟩
  · rw [hdb]
    exact .refl u s.db
  rcases r with e | res
  · rw [h.sql_error]
    exact .refl u s.db
  obtain ⟨db, hq, rfl⟩ := h.sql_ok
  rw [subject_cons] at hu
  cases q' with
  | insertAccount id email name username hash =>
    obtain ⟨v, c⟩ := res
    obtain ⟨hnone, hfinds⟩ := ho
    rw [hnone, Request.subjectOf_findsUser hfinds] at hu
    have hid : v.id = id := insertAccount_id h
    exact Sql.sameRows hq (fun howner => hu (hid ▸ howner)) (by rintro _ ⟨⟩)
  | insertUser id email name =>
    obtain ⟨hnone, hfinds⟩ := ho
    rw [hnone, Request.subjectOf_findsUser hfinds] at hu
    have hid : res.id = id := insertUser_id h
    exact Sql.sameRows hq (fun howner => hu (hid ▸ howner)) (by rintro _ ⟨⟩)
  | revokeRefreshToken id =>
    obtain ⟨key, record, hmem, rfl, hsubject⟩ := ho
    obtain ⟨row, hrow, hid, howner⟩ := hlookup key record hmem
    refine Sql.sameRows hq (by rintro ⟨⟩) fun id heq r' hr' hid' heq' => hu ?_
    cases heq
    rw [hsubject, ← howner, Db.refreshToken_unique_id hrow hr' (hid.trans hid'.symm), heq']
    rfl
  | _ =>
    have hother : ∀ id, _ = some id → subject env q log = some id := ho
    refine Sql.sameRows hq (fun howner => hu ?_) (by rintro _ ⟨⟩)
    rw [hother u howner]
    rfl

end Statements

/-! ### Runs -/

/-- The row of a user without its role and the time of its last change. -/
def User.exceptRole (u : User) : User := { u with role := .guest, updatedAt := 0 }

/-- Nothing but roles has changed, and the times of these changes. -/
structure RolesOnly (db db' : Db) : Prop where
  users : db'.users.rows.map User.exceptRole = db.users.rows.map User.exceptRole
  localCredentials : db'.localCredentials = db.localCredentials
  oauthCredentials : db'.oauthCredentials = db.oauthCredentials
  refreshTokens : db'.refreshTokens = db.refreshTokens

theorem RolesOnly.of_eq {db db' : Db} (h : db' = db) : RolesOnly db db' := by
  rw [h]
  exact ⟨rfl, rfl, rfl, rfl⟩

theorem rolesOnly_updateRole {s s' : State} {role : Role} {target : Uuid}
    {r : Ret (.sql (.updateRole role target))} (h : Stmt env (.sql (.updateRole role target)) s r s') :
    RolesOnly s.db s'.db := by
  rcases r with e | res
  · exact .of_eq (by rw [h.sql_error])
  · obtain ⟨db, hq, rfl⟩ := h.sql_ok
    have husers := (apply_ok hq).1
    cases hq
    refine ⟨?_, rfl, rfl, rfl⟩
    rw [husers, Sql.users, List.map_map]
    refine List.map_congr_left fun u _ => ?_
    show User.exceptRole (if u.id = target then _ else u) = User.exceptRole u
    split <;> rfl

/-- The requests of a run touch what concerns them only. -/
structure Isolated (env : Env) (H : Trace) : Prop where
  /-- The rows of users other than the subject stay the same. -/
  own_rows : ∀ {i q o r s s' u}, .start i q ∈ H → .stmt i o r s s' ∈ H →
    subject env q (localLog i H) ≠ some u → SameRows u s.db s'.db
  /-- A role update changes roles only. -/
  role_only : ∀ {i a target role o r s s'}, .start i (.updateUserRole a target role) ∈ H →
    .stmt i o r s s' ∈ H → RolesOnly s.db s'.db
  /-- A request that is rejected changes nothing. -/
  rejected : ∀ {i e o r s s'}, .done i (.error e) ∈ H → Rejects (localLog i H) e →
    .stmt i o r s s' ∈ H → s'.db = s.db

section Runs

variable {s₀ : State} {c : Pool Op Ret Request (Except AppError Response) State}

/-- What a request has looked up is there as long as the run goes on. -/
theorem lookedUp_of_occurs (hc : (service env).Reachable s₀ c) {h : Trace} {i : ℕ} {o : Op} {r : Ret o}
    {s s' : State} (he : Occurs c.history h (.stmt i o r s s')) : LookedUp (localLog i h) s := by
  intro key record hmem
  obtain ⟨t, t', hlookup⟩ := exists_stmt_of_mem_localLog hmem
  have hlookup' := he.past.subset hlookup
  obtain ⟨-, row, hrow, -, rfl⟩ := selectRefreshToken_row (service_stmt hc hlookup')
  have hle := (service_stmt hc hlookup').le.trans (service_le hc he hlookup)
  obtain ⟨row', hrow', heq, -⟩ := hle.refreshTokens row hrow
  exact ⟨row', hrow', by rw [heq]; rfl, by rw [heq]; rfl⟩

/-- **Isolation.**  In every run, requests touch the rows of their subject only, role updates change
roles only, and a rejected request changes nothing. -/
theorem isolated (hc : (service env).Reachable s₀ c) : Isolated env c.history where
  own_rows := by
    intro i q o r s s' u hq hmem hu
    obtain ⟨h, he⟩ := exists_occurs hmem
    have hconcern := service_at_stmt handle_concerns hc hq he
    refine hconcern.sameRows (service_stmt hc hmem) (lookedUp_of_occurs hc he) fun hsub => hu ?_
    have hsuffix := @localLog_suffix _ _ _ _ _ i _ _ he
    rw [localLog_stmt_self] at hsuffix
    exact subject_of_suffix hsuffix hsub
  role_only := by
    intro i a target role o r s s' hq hmem
    obtain ⟨h, he⟩ := exists_occurs hmem
    have hassigns := service_at_stmt handle_assignsRole hc hq he _ _ _ rfl
    have hstmt := service_stmt hc hmem
    by_cases hwrites : ∃ q', o = .sql q' ∧ q'.writes = true
    · obtain ⟨q', rfl, hq'⟩ := hwrites
      obtain rfl := hassigns q' rfl hq'
      exact rolesOnly_updateRole hstmt
    · refine .of_eq (hstmt.db_eq fun q' ho => ?_)
      exact eq_false_of_ne_true fun hq' => hwrites ⟨q', ho, hq'⟩
  rejected := by
    intro i e o r s s' hdone hrejects hmem
    obtain ⟨h, he⟩ := exists_occurs hdone
    obtain ⟨q, -, hfailed⟩ := service_at_error handle_rejects hc he
    rw [hc.localLog_of_done he] at hrejects
    rcases hfailed hrejects with hnothing | ⟨claims, e', hencode⟩
    · have hlog := mem_localLog_of_stmt hmem
      rw [hc.localLog_of_done he] at hlog
      exact (service_stmt hc hmem).db_eq (hnothing _ hlog)
    · -- Signing succeeds.
      obtain ⟨t, t', hstmt⟩ := exists_stmt_of_mem_localLog hencode
      have hok := (service_stmt hc (he.past.subset hstmt)).encode_eq.1
      cases hok

end Runs

/-- Alice registers, the administrator logs in and makes her an administrator, and a login with a wrong
password is rejected. -/
theorem isolated_of_alice : ∃ c, (service demo).Reachable administered c ∧
    subject demo registerAlice (localLog 0 c.history) = some 2 ∧
    subject demo (.updateUserRole (some rootAuthorization) 2 .admin) (localLog 2 c.history) = some 2 ∧
    outcome 3 c.history = some (.error .invalidCredentials) ∧ Isolated demo c.history := by
  obtain ⟨c, hc, hobs⟩ := exists_run demo administered
    ([.start registerAlice] ++ goes 0 10 ++ [.start (.login "root@example.com" "password")] ++
      goes 1 9 ++ [.start (.updateUserRole (some rootAuthorization) 2 .admin)] ++ goes 2 3 ++
      [.start (.login "alice@example.com" "passwort")] ++ goes 3 2)
    (fun c => ((subject demo registerAlice (localLog 0 c.history),
      subject demo (.updateUserRole (some rootAuthorization) 2 .admin) (localLog 2 c.history)),
      decide (outcome 3 c.history = some (.error .invalidCredentials))))
    ((some 2, some 2), true) (by decide +kernel)
  simp only [Prod.mk.injEq, decide_eq_true_eq] at hobs
  obtain ⟨⟨hregistered, hupdated⟩, hrejected⟩ := hobs
  exact ⟨c, hc, hregistered, hupdated, hrejected, isolated hc⟩

end Socle
