import Socle.Demo
import Socle.Service

/-!
# The credential policy

The request types document usernames of 3 to 32 characters and passwords of at least 8.  The checks
count bytes, and only registration makes them.

* `Documented`, `Validated`: the documented lengths, in characters, and the checked ones, in bytes;
* `KeepsPolicy`: stored credentials have the documented lengths, and registration refuses none that
  have them;
* `short_credentials`: it is not so;
* `keeps_policy_iff`: the requests that have to agree on the two ways of counting.
-/

namespace Socle

open Interaction Prog System

variable {env : Env}

/-! ### Lengths -/

/-- A username of 3 to 32 characters. -/
def DocumentedUsername (username : String) : Prop := 3 ≤ username.length ∧ username.length ≤ 32

/-- A password of at least 8 characters. -/
def DocumentedPassword (password : String) : Prop := 8 ≤ password.length

/-- A username and a password of the documented lengths. -/
def Documented (username password : String) : Prop :=
  DocumentedUsername username ∧ DocumentedPassword password

/-- What `validate_password` and `validate_username` accept. -/
def Validated (username password : String) : Prop :=
  ¬ password.utf8ByteSize < 8 ∧ 3 ≤ username.utf8ByteSize ∧ username.utf8ByteSize ≤ 32

instance (username : String) : Decidable (DocumentedUsername username) :=
  inferInstanceAs (Decidable (_ ∧ _))

instance (password : String) : Decidable (DocumentedPassword password) :=
  inferInstanceAs (Decidable (_ ≤ _))

instance (username password : String) : Decidable (Documented username password) :=
  inferInstanceAs (Decidable (_ ∧ _))

instance (username password : String) : Decidable (Validated username password) :=
  inferInstanceAs (Decidable (_ ∧ _))

/-- Whether bytes are counted or characters makes no difference. -/
def CountsAgree (username password : String) : Prop :=
  Validated username password ↔ Documented username password

instance (username password : String) : Decidable (CountsAgree username password) :=
  inferInstanceAs (Decidable (_ ↔ _))

/-- A credential of the documented lengths. -/
structure LocalCredential.Documented (env : Env) (c : LocalCredential) : Prop where
  username : DocumentedUsername c.username
  password : ∃ password salt, DocumentedPassword password ∧
    env.prim.argon2Hash password salt = some c.passwordHash

/-- All credentials have the documented lengths. -/
def AllDocumented (env : Env) (s : State) : Prop :=
  ∀ c ∈ s.db.localCredentials.rows, c.Documented env

/-- The policy in a run: it holds of what is stored, and registration refuses nothing that meets it. -/
structure KeepsPolicy (env : Env) (c : Pool Op Ret Request (Except AppError Response) State) : Prop where
  now : AllDocumented env c.state
  always : ∀ {i o r s s'}, .stmt i o r s s' ∈ c.history → AllDocumented env s'
  accepts : ∀ {i email username password}, .start i (.register email username password) ∈ c.history →
    Documented username password → .done i (.error .invalidCredentials) ∉ c.history

/-- The registrations of a run that insert an account, or that finish and meet the policy, are those on
which bytes and characters agree, and the stored new passwords are long enough. -/
structure Conforming (H : Trace) : Prop where
  inserted : ∀ {h i id email name username hash res s s'} {email' username' password : String},
    Occurs H h (.stmt i (.sql (.insertAccount id email name username hash)) (.ok res) s s') →
    .start i (.register email' username' password) ∈ h → CountsAgree username' password
  finished : ∀ {h i x} {email username password : String}, Occurs H h (.done i x) →
    .start i (.register email username password) ∈ h → Documented username password →
    CountsAgree username password
  changed : ∀ {h i hash id res s s'} {authorization : Option String} {current new : String},
    Occurs H h (.stmt i (.sql (.updatePasswordHash hash id)) (.ok res) s s') →
    .start i (.changePassword authorization current new) ∈ h → DocumentedPassword new

/-! ### What handlers do -/

/-- What is hashed into the database: the validated password of a registration, or the new password of
a user whose credential has been found. -/
def Op.Hashes (env : Env) (q : Request) (log : Log Op Ret) : Op → Prop
  | .sql (.insertAccount _ _ _ username hash) => ∃ email password salt,
    q = .register email username password ∧ Validated username password ∧
      env.prim.argon2Hash password salt = some hash
  | .sql (.updatePasswordHash hash id) => ∃ authorization current new salt,
    q = .changePassword authorization current new ∧ env.prim.argon2Hash new salt = some hash ∧
      ∃ credential, ⟨.sql (.selectLocalCredential id), .ok (some credential)⟩ ∈ log
  | _ => True

theorem mapConstraintErr_ne {e : SqlxError} {constraint : String} {mapped : AppError}
    (h : mapped ≠ .invalidCredentials) :
    mapConstraintErr e constraint mapped ≠ .invalidCredentials := by
  unfold mapConstraintErr
  split
  · split
    · exact h
    · simp
  · simp

theorem createErr_ne (e : TxError) : UserService.createErr e ≠ .invalidCredentials := by
  cases e with
  | users e => exact mapConstraintErr_ne (by simp)
  | localCredentials e => exact mapConstraintErr_ne (by simp)
  | transaction e => simp [UserService.createErr]

/-- A registration is refused for invalid credentials if and only if the checks fail. -/
def Rejected (q : Request) (e : AppError) : Prop :=
  ∀ email username password, q = .register email username password →
    (e = .invalidCredentials ↔ ¬ Validated username password)

/-- A registration is accepted only if the checks succeed. -/
def Accepted (q : Request) : Prop :=
  ∀ email username password, q = .register email username password → Validated username password

theorem handle_hashes (env : Env) (q : Request) :
    SatE (handle env q) (fun log o => o.Hashes env q log) (fun _ _ => Accepted q)
      (fun _ e => Rejected q e) [] := by
  cases q with
  | register email username password =>
    simp [handle, Routes.register, AuthService.register, Op.Hashes, Accepted, Rejected, Validated,
      createErr_ne]
    refine ⟨fun hshort hlong => absurd hlong (by omega), fun hp => ⟨fun h₃ h₃₂ salt => ⟨?hashed, ?_⟩, ?_⟩⟩
    case hashed =>
      intro hash hhash n
      refine ⟨⟨⟨hp, h₃, h₃₂⟩, salt, hhash⟩, ?_⟩
      simp [hp, h₃, h₃₂]
    · exact fun _ => ⟨hp, h₃, h₃₂⟩
    · exact fun hname _ => hname
  | changePassword authorization current new =>
    simp [handle, Routes.changePassword, Op.Hashes, Accepted, Rejected]
    exact fun _ _ _ _ _ _ salt hash hhash => ⟨salt, hhash⟩
  | login | refresh | logout | oauthLogin | listConnections | unlinkConnection | getMe
  | deactivateAccount | updateUserRole =>
    simp [handle, Routes.login, Routes.refresh, Routes.logout, Routes.oauthLogin,
      Routes.listConnections, Routes.unlinkConnection, Routes.getMe, Routes.deactivateAccount,
      Routes.updateUserRole, AuthService.login, AuthService.refresh, AuthService.logout,
      AuthService.loginOrRegisterOAuth, AdminService.updateUserRole, Op.Hashes, Accepted, Rejected]

/-! ### Statements -/

section Statements

variable {s s' : State}

/-- A password hash is a hash of one password only. -/
theorem hash_unique (hx : env.prim.Exact) {p p' hash : String} {salt salt' : ℕ}
    (h : env.prim.argon2Hash p salt = some hash) (h' : env.prim.argon2Hash p' salt' = some hash) :
    p = p' := by
  have hverify := hx.verify_hash p p salt hash h
  rw [hx.verify_hash p' p salt' hash h'] at hverify
  simpa using hverify

/-- The credential of a new account, once it is stored. -/
theorem insertAccount_credential {id : Uuid} {email name username hash : String} {res : User × LocalCredential}
    (h : Stmt env (.sql (.insertAccount id email name username hash)) s (.ok res) s') :
    s'.db.localCredentials.rows =
      s.db.localCredentials.rows ++ [Db.newLocalCredential s.clock id username hash] := by
  obtain ⟨db, hq, rfl⟩ := h.sql_ok
  exact (apply_ok hq).2.1

theorem updatePasswordHash_credentials {hash : String} {id : Uuid} {res : Unit}
    (h : Stmt env (.sql (.updatePasswordHash hash id)) s (.ok res) s') :
    s'.db.localCredentials.rows = s.db.localCredentials.rows.map fun c =>
      if c.userId = id then { c with passwordHash := hash, updatedAt := s.clock } else c := by
  obtain ⟨db, hq, rfl⟩ := h.sql_ok
  exact (apply_ok hq).2.1

/-- **Step lemma.**  Credentials keep the documented lengths where what is stored has them. -/
theorem AllDocumented.sql {q : Sql} {res : q.Result} (hs : AllDocumented env s)
    (h : Stmt env (.sql q) s (.ok res) s')
    (hinserted : ∀ id email name username hash, q = .insertAccount id email name username hash →
      (Db.newLocalCredential s.clock id username hash).Documented env)
    (hchanged : ∀ hash id, q = .updatePasswordHash hash id →
      ∃ password salt, DocumentedPassword password ∧ env.prim.argon2Hash password salt = some hash) :
    AllDocumented env s' := by
  obtain ⟨db, hq, rfl⟩ := h.sql_ok
  intro c hc
  dsimp only at hc
  rw [(apply_ok hq).2.1] at hc
  cases q with
  | insertAccount id email name username hash =>
    rcases List.mem_append.1 hc with hc | hc
    · exact hs c hc
    · rw [List.mem_singleton.1 hc]
      exact hinserted id email name username hash rfl
  | updatePasswordHash hash id =>
    obtain ⟨c₀, hc₀, rfl⟩ := List.mem_map.1 hc
    by_cases hid : c₀.userId = id
    · rw [if_pos hid]
      exact ⟨(hs c₀ hc₀).username, hchanged hash id rfl⟩
    · rw [if_neg hid]
      exact hs c₀ hc₀
  | _ => exact hs c hc

/-- Other statements store no credentials. -/
theorem AllDocumented.of_db_eq (hs : AllDocumented env s) (hdb : s'.db = s.db) : AllDocumented env s' := by
  intro c hc
  rw [hdb] at hc
  exact hs c hc

end Statements

/-! ### Runs -/

section Runs

variable {clock : ℕ} {c : Pool Op Ret Request (Except AppError Response) State}

/-- Conforming registrations and changes of passwords store credentials of the documented lengths. -/
theorem Conforming.documented {h : Trace} {i : ℕ} {o : Op} {r : Ret o} {s s' : State} {q : Request}
    (hconf : Conforming c.history) (hocc : Occurs c.history h (.stmt i o r s s'))
    (hstmt : Stmt env o s r s') (hq : .start i q ∈ h) (hhash : o.Hashes env q (localLog i h))
    (hs : AllDocumented env s) : AllDocumented env s' := by
  cases o with
  | sql sql =>
    rcases r with e | res
    · exact hs.of_db_eq (by rw [hstmt.sql_error])
    · refine hs.sql hstmt ?_ ?_
      · rintro id email name username hash rfl
        obtain ⟨email', password, salt, rfl, hvalid, hsalt⟩ := hhash
        obtain ⟨huser, hpass⟩ := (hconf.inserted hocc hq).1 hvalid
        exact ⟨huser, password, salt, hpass, hsalt⟩
      · rintro hash id rfl
        obtain ⟨authorization, current, new, salt, rfl, hsalt, -⟩ := hhash
        exact ⟨new, salt, hconf.changed hocc hq, hsalt⟩
  | _ =>
    refine hs.of_db_eq ?_
    rcases hstmt.db_cases with hdb | ⟨q, res, ho, -⟩
    · exact hdb
    · cases ho

/-- All states of a conforming run have credentials of the documented lengths. -/
theorem Conforming.always (hc : (service env).Reachable (.fresh clock) c) (hconf : Conforming c.history) :
    AllDocumented env c.state ∧
      ∀ {i o r s s'}, .stmt i o r s s' ∈ c.history → AllDocumented env s' := by
  have hstmt : ∀ {h i o r s s'}, Occurs c.history h (.stmt i o r s s') → AllDocumented env s →
      AllDocumented env s' := by
    intro h i o r s s' he hs
    obtain ⟨q, hq, hhash⟩ := hc.at_stmt (handle_hashes env) he
    exact hconf.documented he (service_stmt hc he.mem) hq hhash hs
  have hinit : AllDocumented env (.fresh clock) := by simp [AllDocumented, State.fresh, Db.empty]
  have htick : ∀ {s s'}, Tick s s' → AllDocumented env s → AllDocumented env s' := by
    rintro s s' ⟨t, -, rfl⟩ hs
    exact hs
  obtain ⟨hlast, hall⟩ := hc.always hinit htick hstmt
  exact ⟨hlast, fun he => (hall he).2⟩

/-- A credential that a request has found is there when the request replaces its hash. -/
theorem found_credential (hc : (service env).Reachable (.fresh clock) c) {h : Trace} {i : ℕ} {o : Op}
    {r : Ret o} {s s' : State} (he : Occurs c.history h (.stmt i o r s s')) {id : Uuid}
    {credential : LocalCredential}
    (hfound : ⟨.sql (.selectLocalCredential id), .ok (some credential)⟩ ∈ localLog i h) :
    ∃ row ∈ s.db.localCredentials.rows, row.userId = id := by
  obtain ⟨past, t, t', hsel⟩ := stmt_of_log hfound
  obtain ⟨rfl, hsome, -⟩ := selectLocalCredential_row (service_stmt hc (he.trans hsel).mem)
  obtain ⟨hmem, hid⟩ := hsome credential rfl
  obtain ⟨row, hrow, hid', -⟩ := (service_le hc he hsel.mem).localCredentials credential hmem
  exact ⟨row, hrow, hid'.trans hid⟩

/-- **When the policy is kept.**  In a run the stored credentials have the documented lengths and
registration refuses none that have them, if and only if bytes and characters agree on every
registration that inserts an account or is documented, and every stored new password is documented. -/
theorem keeps_policy_iff (hx : env.prim.Exact) (hc : (service env).Reachable (.fresh clock) c) :
    KeepsPolicy env c ↔ Conforming c.history := by
  constructor
  · intro hkeeps
    constructor
    · intro h i id email name username hash res s s' email' username' password he hq
      obtain ⟨_, _, salt, heq, hvalid, hsalt⟩ :=
        service_at_stmt (handle_hashes env) hc (he.past.subset hq) he
      cases heq
      have hrow : Db.newLocalCredential s.clock id username hash ∈ s'.db.localCredentials.rows := by
        rw [insertAccount_credential (service_stmt hc he.mem)]
        exact List.mem_append_right _ List.mem_cons_self
      obtain ⟨huser, p, salt', hp, hsalt'⟩ := hkeeps.always he.mem _ hrow
      have hpass : DocumentedPassword password := hash_unique hx hsalt' hsalt ▸ hp
      exact iff_of_true hvalid ⟨huser, hpass⟩
    · intro h i x email username password he hq hdoc
      refine iff_of_true ?_ hdoc
      obtain ⟨q, hq', hres⟩ := hc.at_done (handle_hashes env) he
      obtain rfl := hc.numbered.start_unique (he.past.subset hq) (he.past.subset hq')
      rcases x with e | a
      · by_contra hvalid
        have hrefused : e = .invalidCredentials := (hres _ _ _ rfl).2 hvalid
        exact hkeeps.accepts (he.past.subset hq) hdoc (hrefused ▸ he.mem)
      · exact hres _ _ _ rfl
    · intro h i hash id res s s' authorization current new he hq
      obtain ⟨_, _, _, salt, heq, hsalt, credential, hfound⟩ :=
        service_at_stmt (handle_hashes env) hc (he.past.subset hq) he
      cases heq
      obtain ⟨row, hrow, hid⟩ := found_credential hc he hfound
      have hrow' := List.mem_map_of_mem (f := fun c : LocalCredential =>
        if c.userId = id then { c with passwordHash := hash, updatedAt := (s.clock : OffsetDateTime) }
        else c) hrow
      rw [← updatePasswordHash_credentials (service_stmt hc he.mem), if_pos hid] at hrow'
      obtain ⟨p, salt', hp, hsalt'⟩ := (hkeeps.always he.mem _ hrow').password
      exact hash_unique hx hsalt' hsalt ▸ hp
  · intro hconf
    obtain ⟨hnow, halways⟩ := hconf.always hc
    refine ⟨hnow, halways, fun hq hdoc hdone => ?_⟩
    obtain ⟨h, he⟩ := exists_occurs hdone
    obtain ⟨q, hq', hrefused⟩ := hc.at_done (handle_hashes env) he
    obtain rfl := hc.numbered.start_unique hq (he.past.subset hq')
    exact (hrefused _ _ _ rfl).1 rfl ((hconf.finished he hq' hdoc).2 hdoc)

end Runs

/-- Bytes and characters agree on a registration, and a new password is documented. -/
def Request.conforms : Request → Bool
  | .register _ username password => decide (CountsAgree username password)
  | .changePassword _ _ new => decide (DocumentedPassword new)
  | _ => true

/-- Conforming requests suffice, whatever becomes of them. -/
theorem conforming_of_requests {H : Trace}
    (hH : (H.all fun
      | .start _ q => q.conforms
      | _ => true) = true) : Conforming H := by
  have hstart : ∀ {h i e q}, Occurs H h e → .start i q ∈ h → q.conforms = true :=
    fun he hq => List.all_eq_true.1 hH _ (he.past.subset hq)
  constructor
  · intro h i id email name username hash res s s' email' username' password he hq
    exact of_decide_eq_true (hstart he hq)
  · intro h i x email username password he hq _
    exact of_decide_eq_true (hstart he hq)
  · intro h i hash id res s s' authorization current new he hq
    exact of_decide_eq_true (hstart he hq)

/-- Alice registers and changes her password. -/
theorem keeps_policy_of_alice :
    ∃ c, (service demo).Reachable (.fresh 0) c ∧
      c.state.db.localCredentials.rows.map LocalCredential.passwordHash = [escape "new password"] ∧
      KeepsPolicy demo c := by
  obtain ⟨c, hc, hobs⟩ := exists_run demo (.fresh 0)
    ([.start registerAlice] ++ goes 0 10 ++
      [.start (.changePassword (some aliceAuthorization) "password" "new password")] ++ goes 1 5)
    (fun c => (c.state.db.localCredentials.rows.map LocalCredential.passwordHash,
      c.history.all fun
        | .start _ q => q.conforms
        | _ => true))
    ([escape "new password"], true) (by decide +kernel)
  obtain ⟨hrows, hrequests⟩ := Prod.mk.inj hobs
  exact ⟨c, hc, hrows, (keeps_policy_iff Primitives.ideal_exact hc).2 (conforming_of_requests hrequests)⟩

/-- A username of two characters and a password of four are accepted, a username of seventeen is
refused, and a password can be changed to a single character. -/
theorem short_credentials :
    (∃ c, (service demo).Reachable (.fresh 0) c ∧ ¬ KeepsPolicy demo c ∧
      ∃ row ∈ c.state.db.localCredentials.rows, ¬ DocumentedUsername row.username) ∧
    (∃ c, (service demo).Reachable (.fresh 0) c ∧ ¬ KeepsPolicy demo c ∧
      .start 0 (.register "alice@example.com" "ααααααααααααααααα" "password") ∈ c.history ∧
      .done 0 (.error .invalidCredentials) ∈ c.history) ∧
    ∃ c, (service demo).Reachable (.fresh 0) c ∧ ¬ KeepsPolicy demo c ∧
      ∃ row ∈ c.state.db.localCredentials.rows,
        ∀ password salt, demo.prim.argon2Hash password salt = some row.passwordHash →
          ¬ DocumentedPassword password := by
  refine ⟨?accepted, ?refused, ?changed⟩
  case accepted =>
    obtain ⟨c, hc, hobs⟩ := exists_run demo (.fresh 0)
      ([.start (.register "alice@example.com" "αα" "ππππ")] ++ goes 0 10)
      (fun c => c.state.db.localCredentials.rows.map LocalCredential.username) ["αα"]
      (by decide +kernel)
    obtain ⟨row, hrow, hname⟩ := List.mem_map.1 (hobs ▸ List.mem_cons_self)
    have hshort : ¬ DocumentedUsername row.username := by
      rw [hname]
      decide +kernel
    exact ⟨c, hc, fun hkeeps => hshort (hkeeps.now row hrow).username, row, hrow, hshort⟩
  case refused =>
    obtain ⟨c, hc, hobs⟩ := exists_run demo (.fresh 0)
      [.start (.register "alice@example.com" "ααααααααααααααααα" "password")]
      (fun c => (System.asked 0 c.history, System.outcome 0 c.history))
      (some (.register "alice@example.com" "ααααααααααααααααα" "password"),
        some (.error .invalidCredentials))
      (by decide +kernel)
    obtain ⟨hasked, houtcome⟩ := Prod.mk.inj hobs
    have hstart := System.start_mem_of_asked hasked
    have hdone := System.done_mem_of_outcome houtcome
    exact ⟨c, hc, fun hkeeps => hkeeps.accepts hstart (by decide +kernel) hdone, hstart, hdone⟩
  case changed =>
    obtain ⟨c, hc, hobs⟩ := exists_run demo (.fresh 0)
      ([.start registerAlice] ++ goes 0 10 ++
        [.start (.changePassword (some aliceAuthorization) "password" "x")] ++ goes 1 5)
      (fun c => c.state.db.localCredentials.rows.map LocalCredential.passwordHash) [escape "x"]
      (by decide +kernel)
    obtain ⟨row, hrow, hhash⟩ := List.mem_map.1 (hobs ▸ List.mem_cons_self)
    have hshort : ∀ password salt, demo.prim.argon2Hash password salt = some row.passwordHash →
        ¬ DocumentedPassword password := by
      intro password salt h
      rw [hhash] at h
      rw [escape_injective (Option.some.inj h)]
      decide +kernel
    refine ⟨c, hc, fun hkeeps => ?_, row, hrow, hshort⟩
    obtain ⟨password, salt, hdoc, h⟩ := (hkeeps.now row hrow).password
    exact hshort password salt h hdoc

end Socle
