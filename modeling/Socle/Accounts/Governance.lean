import Socle.Access.Truthful
import Socle.Accounts.Directory

/-!
# Who governs accounts

The database is a directory of accounts, and everything the service does to it is an action of the
directory to which the request is entitled.

* `directory`: the accounts and identities of a database;
* `directory_apply`: **what a statement does is nothing or an action**;
* `Op.Warranted`, `handle_warranted`: what every handler knows before it acts, from its log;
* `Warrants`: the requests that are entitled to an action;
* `TakesAction`, `Governed`: every run is a sequence of warranted actions, taken by its statements;
* `service_governed`: **the service refines the directory**, however requests interleave;
* `Custody`, `service_custody`: **accounts belong to their owners**.
-/

namespace Socle

open Interaction Prog System Relational

variable {env : Env} {s s' : State} {q : Request} {log : Log Op Ret} {db db' : Db} {id : Uuid}

/-! ### The directory of a database -/

/-- The password of a hash. -/
noncomputable def plain (env : Env) (hash : String) : String :=
  Classical.epsilon fun p => ∃ salt, env.prim.argon2Hash p salt = some hash

theorem plain_hash (hx : env.prim.Exact) {p hash : String} {salt : ℕ}
    (h : env.prim.argon2Hash p salt = some hash) : plain env hash = p := by
  obtain ⟨salt', h'⟩ : ∃ salt', env.prim.argon2Hash (plain env hash) salt' = some hash :=
    Classical.epsilon_spec (p := fun p => ∃ salt, env.prim.argon2Hash p salt = some hash) ⟨p, salt, h⟩
  have hverify := hx.verify_hash _ (plain env hash) _ _ h
  rw [hx.verify_hash _ _ _ _ h'] at hverify
  simpa using hverify

/-- What a local credential is good for. -/
noncomputable def LocalCredential.plain (env : Env) (c : LocalCredential) : String × String :=
  (c.username, Socle.plain env c.passwordHash)

/-- The account of a user with its local credential. -/
noncomputable def accountOf (env : Env) (c : Option LocalCredential) (u : User) : Account where
  email := u.email
  displayName := u.displayName
  role := u.role
  isActive := u.isActive
  credential := c.map (·.plain env)

theorem Db.user_unique_name {u v : User} (hu : u ∈ db.users.rows) (hv : v ∈ db.users.rows)
    (h : u.displayName = v.displayName) : u = v :=
  db.users.eq_of_clash (List.mem_cons_of_mem _ (List.mem_cons_of_mem _ List.mem_cons_self)) hu hv
    ⟨by simp [h], by simp⟩

theorem Db.localCredential_unique_name {c d : LocalCredential} (hc : c ∈ db.localCredentials.rows)
    (hd : d ∈ db.localCredentials.rows) (h : c.username = d.username) : c = d :=
  db.localCredentials.eq_of_clash (List.mem_cons_of_mem _ List.mem_cons_self) hc hd
    ⟨by simp [h], by simp⟩

/-- The accounts of a database. -/
noncomputable def Db.accounts (env : Env) (db : Db) (id : Uuid) : Option Account :=
  (db.findUser id).map (accountOf env (db.findLocalCredential id))

/-- Its identities. -/
def Db.identities (db : Db) (identity : Provider × String) : Option Uuid :=
  (db.findOAuthCredential identity.1 identity.2).map (·.userId)

/-- The username of an account is that of a row. -/
theorem accountOf_username {u : User} {name : String}
    (h : (accountOf env (db.findLocalCredential id) u).username = some name) :
    ∃ c ∈ db.localCredentials.rows, c.userId = id ∧ c.username = name := by
  cases hc : db.findLocalCredential id with
  | none =>
    rw [hc] at h
    cases h
  | some c =>
    rw [hc] at h
    obtain ⟨hmem, hid⟩ := Db.findLocalCredential_some hc
    exact ⟨c, hmem, hid, Option.some.inj h⟩

/-- **The directory of a database**: its unique keys and foreign keys make it one. -/
noncomputable def directory (env : Env) (db : Db) : Directory where
  accounts := db.accounts env
  identities := db.identities
  distinct := by
    intro i j a b ha hb hclash
    obtain ⟨u, hfind, rfl⟩ := Option.map_eq_some_iff.1 ha
    obtain ⟨v, hfind', rfl⟩ := Option.map_eq_some_iff.1 hb
    obtain ⟨hu, hui⟩ := Db.findUser_some hfind
    obtain ⟨hv, hvj⟩ := Db.findUser_some hfind'
    rcases hclash with he | hn | ⟨name, hu', hv'⟩
    · rw [← hui, ← hvj, Db.user_unique_email hu hv he]
    · rw [← hui, ← hvj, Db.user_unique_name hu hv hn]
    · obtain ⟨c, hc, hid, hname⟩ := accountOf_username hu'
      obtain ⟨d, hd, hid', hname'⟩ := accountOf_username hv'
      rw [← hid, ← hid', Db.localCredential_unique_name hc hd (hname.trans hname'.symm)]
  owned := by
    intro identity i hi
    obtain ⟨o, ho, rfl⟩ := Option.map_eq_some_iff.1 hi
    obtain ⟨u, hu, hid⟩ := db.oauthCredentials_user o (of_find?_eq_some ho).1
    rw [Db.accounts, Option.isSome_map, Option.isSome_iff_ne_none]
    exact fun hnone => List.find?_eq_none.1 hnone u hu (decide_eq_true hid)

/-! ### Statements as actions -/

/-- The action that a statement takes. -/
noncomputable def Sql.action (env : Env) : Sql → Option Action
  | .insertAccount id email name username hash =>
    some (.openAccount id email name (some (username, plain env hash)))
  | .insertUser id email name => some (.openAccount id email name none)
  | .updatePasswordHash hash id => some (.setPassword id (plain env hash))
  | .updateRole role id => some (.setRole id role)
  | .deactivateUser id => some (.deactivate id)
  | .insertOAuthCredential _ userId provider puid _ => some (.link (provider, puid) userId)
  | .deleteOAuthCredential userId provider => some (.unlink userId provider)
  | _ => none

/-- Searching rewritten rows for a key that is not rewritten. -/
theorem find?_rewrite {α κ : Type} [DecidableEq κ] {g : α → κ} {f : α → α} {p : α → Prop} [DecidablePred p]
    (hf : ∀ a, g (f a) = g a) (k : κ) (rows : List α) :
    (rows.map fun a => if p a then f a else a).find? (fun a => decide (g a = k)) =
      (rows.find? fun a => decide (g a = k)).map fun a => if p a then f a else a := by
  rw [List.find?_map]
  refine congrArg (fun h => (rows.find? h).map _) ?_
  funext a
  show decide (g (if p a then f a else a) = k) = _
  split
  · rw [hf]
  · rfl

theorem Db.findUser_none (hnew : ∀ u ∈ db.users.rows, u.id ≠ id) : db.findUser id = none :=
  List.find?_eq_none.2 (by simpa using hnew)

/-- Without a user there is no credential. -/
theorem Db.findLocalCredential_of_new (hnew : ∀ u ∈ db.users.rows, u.id ≠ id) :
    db.findLocalCredential id = none := by
  refine List.find?_eq_none.2 fun c hc hid => ?_
  obtain ⟨u, hu, huid⟩ := db.localCredentials_user c hc
  exact hnew u hu (huid.trans (of_decide_eq_true hid))

section Apply

variable {now : OffsetDateTime}

/-- The accounts after rows have been inserted for a new user. -/
theorem accounts_insert {u : User} (cs : List LocalCredential) (hnew : ∀ v ∈ db.users.rows, v.id ≠ u.id)
    (hu : db'.users.rows = db.users.rows ++ [u])
    (hl : db'.localCredentials.rows = db.localCredentials.rows ++ cs) (hcs : ∀ c ∈ cs, c.userId = u.id) :
    db'.accounts env = Function.update (db.accounts env) u.id (some (accountOf env cs.head? u)) := by
  funext i
  unfold Db.accounts Db.findUser Db.findLocalCredential
  rw [hu, hl, List.find?_append, List.find?_append]
  by_cases hi : i = u.id
  · subst hi
    have hnone := Db.findUser_none hnew
    have hnone' := Db.findLocalCredential_of_new hnew
    unfold Db.findUser at hnone
    unfold Db.findLocalCredential at hnone'
    rw [hnone, hnone', Function.update_self]
    cases cs with
    | nil => simp
    | cons c cs => simp [hcs c List.mem_cons_self]
  · have hcs' : cs.find? (fun c => decide (c.userId = i)) = none :=
      List.find?_eq_none.2 fun c hc hci => hi ((of_decide_eq_true hci).symm.trans (hcs c hc))
    rw [Function.update_of_ne hi, hcs', Option.or_none]
    have hne : ¬ u.id = i := fun heq => hi heq.symm
    simp [hne]

/-- The accounts after a user has been rewritten. -/
theorem accounts_rewrite {f : User → User} {g : Account → Account} (hf : ∀ u, (f u).id = u.id)
    (hg : ∀ c u, accountOf env c (f u) = g (accountOf env c u))
    (hu : db'.users.rows = db.users.rows.map fun u => if u.id = id then f u else u)
    (hl : db'.localCredentials.rows = db.localCredentials.rows) :
    db'.accounts env = Action.rewrite id g (db.accounts env) := by
  funext i
  unfold Action.rewrite Db.accounts Db.findUser Db.findLocalCredential
  rw [hu, hl, find?_rewrite (g := User.id) hf]
  by_cases hi : i = id
  · subst hi
    rw [Function.update_self]
    cases hfind : db.users.rows.find? fun u => decide (u.id = i) with
    | none => rfl
    | some u => simp [(of_find?_eq_some hfind).2, hg]
  · rw [Function.update_of_ne hi]
    cases hfind : db.users.rows.find? fun u => decide (u.id = i) with
    | none => rfl
    | some u =>
      have hne : ¬ u.id = id := fun heq => hi ((of_find?_eq_some hfind).2.symm.trans heq)
      simp [hne]

/-- The accounts after a credential has been rewritten. -/
theorem accounts_withPassword {f : LocalCredential → LocalCredential} {hash : String}
    (hf : ∀ c, (f c).userId = c.userId) (hname : ∀ c, (f c).username = c.username)
    (hhash : ∀ c, (f c).passwordHash = hash) (hu : db'.users.rows = db.users.rows)
    (hl : db'.localCredentials.rows = db.localCredentials.rows.map fun c =>
      if c.userId = id then f c else c) :
    db'.accounts env = Action.rewrite id (·.withPassword (plain env hash)) (db.accounts env) := by
  funext i
  unfold Action.rewrite Db.accounts Db.findUser Db.findLocalCredential
  rw [hu, hl, find?_rewrite (g := LocalCredential.userId) hf]
  by_cases hi : i = id
  · subst hi
    rw [Function.update_self]
    cases hfind : db.localCredentials.rows.find? fun c => decide (c.userId = i) with
    | none =>
      rw [Option.map_map]
      rfl
    | some c =>
      rw [Option.map_map, Option.map_some, if_pos (of_find?_eq_some hfind).2]
      refine congrArg (fun g => Option.map g _) (funext fun u => ?_)
      simp [accountOf, Account.withPassword, LocalCredential.plain, hname, hhash]
  · rw [Function.update_of_ne hi]
    cases hfind : db.localCredentials.rows.find? fun c => decide (c.userId = i) with
    | none => rfl
    | some c =>
      have hne : ¬ c.userId = id := fun heq => hi ((of_find?_eq_some hfind).2.symm.trans heq)
      simp [hne]

theorem accounts_same (hu : db'.users.rows = db.users.rows)
    (hl : db'.localCredentials.rows = db.localCredentials.rows) : db'.accounts env = db.accounts env := by
  funext i
  unfold Db.accounts Db.findUser Db.findLocalCredential
  rw [hu, hl]

theorem identities_same (ho : db'.oauthCredentials.rows = db.oauthCredentials.rows) :
    db'.identities = db.identities := by
  funext identity
  unfold Db.identities Db.findOAuthCredential
  rw [ho]

/-- The identities after one has been linked. -/
theorem identities_link {o : OAuthCredential} (hnone : db.identities (o.provider, o.providerUserId) = none)
    (ho : db'.oauthCredentials.rows = db.oauthCredentials.rows ++ [o]) :
    db'.identities = Function.update db.identities (o.provider, o.providerUserId) (some o.userId) := by
  funext identity
  have happend : db'.identities identity =
      (((db.findOAuthCredential identity.1 identity.2).or
        ([o].find? fun o => o.provider = identity.1 ∧ o.providerUserId = identity.2)).map (·.userId)) := by
    unfold Db.identities Db.findOAuthCredential
    rw [ho, List.find?_append]
  rw [happend]
  by_cases hi : identity = (o.provider, o.providerUserId)
  · subst hi
    rw [Function.update_self, Option.map_eq_none_iff.1 hnone]
    simp
  · rw [Function.update_of_ne hi]
    have hne : ¬ (o.provider = identity.1 ∧ o.providerUserId = identity.2) := by
      rintro ⟨hp, hpuid⟩
      exact hi (Prod.ext hp.symm hpuid.symm)
    simp [hne, Db.identities]

/-- The identities after some have been unlinked. -/
theorem identities_unlink {provider : Provider}
    (ho : db'.oauthCredentials.rows = db.oauthCredentials.rows.filter fun o =>
      !decide (o.userId = id ∧ o.provider = provider)) :
    db'.identities = fun identity =>
      (db.identities identity).filter fun i => ¬ (i = id ∧ identity.1 = provider) := by
  funext identity
  unfold Db.identities Db.findOAuthCredential
  rw [ho]
  cases hfind : db.oauthCredentials.rows.find? fun o =>
      decide (o.provider = identity.1 ∧ o.providerUserId = identity.2) with
  | none =>
    have hnone := List.find?_eq_none.1 hfind
    rw [List.find?_eq_none.2 fun o hmem => hnone o (List.mem_filter.1 hmem).1]
    rfl
  | some o =>
    obtain ⟨hmem, hp, hpuid⟩ := of_find?_eq_some hfind
    have hunique : ∀ o' ∈ db.oauthCredentials.rows, o'.provider = identity.1 ∧
        o'.providerUserId = identity.2 → o' = o := fun o' ho' h =>
      db.oauthCredentials.eq_of_clash (List.mem_cons_of_mem _ List.mem_cons_self) ho' hmem
        (oauthIdentityKey_clash.2 ⟨h.1.trans hp.symm, h.2.trans hpuid.symm⟩)
    by_cases hdrop : o.userId = id ∧ o.provider = provider
    · rw [List.find?_eq_none.2]
      · simp [Option.filter, hdrop.1, ← hp, hdrop.2]
      · intro o' ho' h
        obtain ⟨hmem', hkeep⟩ := List.mem_filter.1 ho'
        rw [hunique o' hmem' (of_decide_eq_true h)] at hkeep
        simp [hdrop] at hkeep
    · have hkeep : o ∈ db.oauthCredentials.rows.filter fun o =>
          !decide (o.userId = id ∧ o.provider = provider) := List.mem_filter.2 ⟨hmem, by simp [hdrop]⟩
      cases hfind' : (db.oauthCredentials.rows.filter fun o =>
          !decide (o.userId = id ∧ o.provider = provider)).find? fun o =>
            decide (o.provider = identity.1 ∧ o.providerUserId = identity.2) with
      | none => exact absurd (decide_eq_true ⟨hp, hpuid⟩) (List.find?_eq_none.1 hfind' o hkeep)
      | some o' =>
        obtain ⟨hmem', h⟩ := of_find?_eq_some hfind'
        rw [hunique o' (List.mem_filter.1 hmem').1 h]
        rw [hp] at hdrop
        simp [Option.filter, hdrop]

/-- **A statement takes its action**, unless it links an identity that is linked already. -/
theorem directory_acts {sql : Sql} {res : sql.Result} {x : Action}
    (h : sql.apply env.prim now db = .ok (res, db')) (hx : sql.action env = some x) :
    Directory.Step (directory env db) x (directory env db') ∨
      (∃ identity id, x = .link identity id ∧ db.identities identity ≠ none) ∧
        directory env db' = directory env db := by
  obtain ⟨hu, hl, ho, -⟩ := apply_ok h
  cases sql with
  | insertAccount id email name username hash =>
    cases hx
    have hnew : ∀ u ∈ db.users.rows, u.id ≠ id := apply_insertAccount_new h
    refine Or.inl ⟨Option.map_eq_none_iff.2 (Db.findUser_none hnew), ?_, identities_same ho⟩
    exact accounts_insert _ hnew hu hl (by simp [Db.newLocalCredential, Db.newUser])
  | insertUser id email name =>
    cases hx
    have hnew : ∀ u ∈ db.users.rows, u.id ≠ id := apply_insertUser_new h
    refine Or.inl ⟨Option.map_eq_none_iff.2 (Db.findUser_none hnew), ?_, identities_same ho⟩
    exact accounts_insert [] hnew hu (hl.trans (List.append_nil _).symm) (by simp)
  | updatePasswordHash hash id =>
    cases hx
    refine Or.inl ⟨trivial, ?_, identities_same ho⟩
    exact accounts_withPassword (f := fun c => { c with passwordHash := hash, updatedAt := now })
      (fun _ => rfl) (fun _ => rfl) (fun _ => rfl) hu hl
  | updateRole role id =>
    cases hx
    refine Or.inl ⟨trivial, ?_, identities_same ho⟩
    exact accounts_rewrite (f := fun u => { u with role := role, updatedAt := now })
      (g := fun a => { a with role := role }) (fun _ => rfl) (fun _ _ => rfl) hu hl
  | deactivateUser id =>
    cases hx
    refine Or.inl ⟨trivial, ?_, identities_same ho⟩
    exact accounts_rewrite (f := fun u => { u with isActive := false, updatedAt := now })
      (g := fun a => { a with isActive := false }) (fun _ => rfl) (fun _ _ => rfl) hu hl
  | insertOAuthCredential id userId provider puid avatarUrl =>
    cases hx
    rw [Sql.oauthCredentials] at ho
    split at ho
    · next hclash =>
      refine Or.inr ⟨⟨_, _, rfl, fun hnone => ?_⟩, Directory.ext (accounts_same hu hl) (identities_same ho)⟩
      obtain ⟨o, hmem, hsame⟩ := List.any_eq_true.1 hclash
      exact List.find?_eq_none.1 (Option.map_eq_none_iff.1 hnone) o hmem hsame
    · next hfree =>
      have hnone : db.identities (provider, puid) = none := by
        refine Option.map_eq_none_iff.2 (List.find?_eq_none.2 fun o hmem hclash => hfree ?_)
        exact List.any_eq_true.2 ⟨o, hmem, hclash⟩
      exact Or.inl ⟨hnone, accounts_same hu hl, identities_link hnone ho⟩
  | deleteOAuthCredential userId provider =>
    cases hx
    exact Or.inl ⟨trivial, accounts_same hu hl, identities_unlink ho⟩
  | _ => cases hx

/-- **What a statement does to the directory** is nothing or an action. -/
theorem directory_apply {sql : Sql} {res : sql.Result} (h : sql.apply env.prim now db = .ok (res, db')) :
    directory env db' = directory env db ∨
      ∃ x, sql.action env = some x ∧ Directory.Step (directory env db) x (directory env db') := by
  cases hx : sql.action env with
  | some x =>
    rcases directory_acts h hx with hstep | ⟨-, hsame⟩
    · exact Or.inr ⟨x, rfl, hstep⟩
    · exact Or.inl hsame
  | none =>
    obtain ⟨hu, hl, ho, -⟩ := apply_ok h
    cases sql with
    | insertAccount | insertUser | updatePasswordHash | updateRole | deactivateUser | insertOAuthCredential
      | deleteOAuthCredential => cases hx
    | _ => exact Or.inl (Directory.ext (accounts_same hu hl) (identities_same ho))

end Apply

/-! ### What handlers know -/

/-- The request presents an access token that has been accepted for the claims, whose role suffices. -/
def Vouched (q : Request) (log : Log Op Ret) (claims : Claims) : Prop :=
  ∃ authorization minimum token, q.requires = some (authorization, minimum) ∧
    extractBearer authorization = some token ∧ claims.role.isAtLeast minimum = true ∧
    ⟨.decode token, .ok claims⟩ ∈ log

/-- The user has been found under the email address, or inserted with it. -/
def Addressed (log : Log Op Ret) (email : String) (u : User) : Prop :=
  ⟨.sql (.selectUserByEmail email), .ok (some u)⟩ ∈ log ∨
    ∃ id name, ⟨.sql (.insertUser id email name), .ok u⟩ ∈ log

/-- What a request knows before it changes or links an account. -/
def Op.Warranted (env : Env) (q : Request) (log : Log Op Ret) : Op → Prop
  | .sql (.updatePasswordHash hash id) => ∃ authorization current new claims c salt,
    q = .changePassword authorization current new ∧ Vouched q log claims ∧ id = claims.sub ∧
      ⟨.sql (.selectLocalCredential id), .ok (some c)⟩ ∈ log ∧
      env.prim.argon2Verify current c.passwordHash = some true ∧ env.prim.argon2Hash new salt = some hash
  | .sql (.updateRole role target) => ∃ authorization claims,
    q = .updateUserRole authorization target role ∧ Vouched q log claims ∧ claims.sub ≠ target
  | .sql (.deactivateUser id) => ∃ authorization claims, q = .deactivateAccount authorization ∧
    Vouched q log claims ∧ id = claims.sub
  | .sql (.deleteOAuthCredential id provider) => ∃ authorization slug p claims,
    q = .unlinkConnection authorization slug ∧ OAuthProvider.fromSlug slug = some p ∧
      provider = .from p ∧ Vouched q log claims ∧ id = claims.sub
  | .sql (.insertOAuthCredential _ id provider puid _) => ∃ profile u, q = .oauthLogin profile ∧
    provider = .from profile.provider ∧ puid = profile.providerUserId ∧ u.id = id ∧
      Addressed log profile.email u
  | _ => True

/-- **Every handler** checks before it acts. -/
theorem handle_warranted (q : Request) :
    SatE (handle env q) (fun log o => o.Warranted env q log) (fun _ _ => True) (fun _ _ => True) [] := by
  cases q with
  | changePassword authorization current new =>
    simp [handle, Routes.changePassword, Op.Warranted, Vouched, Request.requires]
    exact fun token htoken claims hrole c hverify salt hash hhash =>
      ⟨⟨htoken, hrole⟩, hverify, salt, hhash⟩
  | unlinkConnection authorization slug =>
    simp [handle, Routes.unlinkConnection, Op.Warranted, Vouched, Request.requires]
    exact fun token htoken claims hrole p hslug => ⟨p, hslug, rfl, htoken, hrole⟩
  | deactivateAccount authorization =>
    simp [handle, Routes.deactivateAccount, Op.Warranted, Vouched, Request.requires]
    exact fun token htoken claims hrole => ⟨htoken, hrole⟩
  | updateUserRole authorization target role =>
    simp [handle, Routes.updateUserRole, AdminService.updateUserRole, Op.Warranted, Vouched,
      Request.requires]
    exact fun token htoken claims hrole hne => ⟨⟨htoken, hrole⟩, hne⟩
  | oauthLogin profile =>
    simp [handle, Routes.oauthLogin, AuthService.loginOrRegisterOAuth, Op.Warranted, Addressed]
  | register | login | refresh | logout | listConnections | getMe =>
    simp [handle, Routes.register, Routes.login, Routes.refresh, Routes.logout, Routes.listConnections,
      Routes.getMe, AuthService.register, AuthService.login, AuthService.refresh, AuthService.logout,
      Op.Warranted]

/-! ### Warrants -/

/-- Request `i` presents an access token that is accepted for the claims, which go back to an active user. -/
def Authenticated (env : Env) (H : Trace) (i : ℕ) (q : Request) (claims : Claims) : Prop :=
  ∃ authorization minimum token past s s', q.requires = some (authorization, minimum) ∧
    extractBearer authorization = some token ∧ claims.role.isAtLeast minimum = true ∧
    Occurs H past (.stmt i (.decode token) (.ok claims) s s') ∧ Provenance env past s.unixNow claims

/-- One of the statements of request `i` has left the account in the directory. -/
def Sees (env : Env) (H : Trace) (i : ℕ) (id : Uuid) (a : Account) : Prop :=
  ∃ (o : Op) (r : Ret o) (s s' : State), .stmt i o r s s' ∈ H ∧ (directory env s'.db).accounts id = some a

/-- What entitles request `i` to an action. -/
inductive Warrants (env : Env) (H : Trace) (i : ℕ) : Request → Action → Prop
  /-- Whoever registers has an account of its own. -/
  | register {id : Uuid} {email username password : String} :
    Warrants env H i (.register email username password)
      (.openAccount id email (localPart email) (some (username, password)))
  /-- Who comes from a provider has one without a password, -/
  | profile {id : Uuid} {profile : OAuthProfile} :
    Warrants env H i (.oauthLogin profile)
      (.openAccount id profile.email (profile.displayName.getD (localPart profile.email)) none)
  /-- or the account with the email address that the provider reports. -/
  | link {id : Uuid} {profile : OAuthProfile} {a : Account} (ha : Sees env H i id a)
    (he : a.email = profile.email) :
    Warrants env H i (.oauthLogin profile) (.link (.from profile.provider, profile.providerUserId) id)
  /-- Passwords are set by who is authenticated and knows the old one. -/
  | password {authorization : Option String} {current new : String} {claims : Claims} {a : Account}
    (hclaims : Authenticated env H i (.changePassword authorization current new) claims)
    (ha : Sees env H i claims.sub a) (hp : a.password = some current) :
    Warrants env H i (.changePassword authorization current new) (.setPassword claims.sub new)
  /-- Roles are assigned by administrators to others. -/
  | role {authorization : Option String} {target : Uuid} {role : Role} {claims : Claims}
    (hclaims : Authenticated env H i (.updateUserRole authorization target role) claims)
    (hadmin : claims.role = .admin) (hne : claims.sub ≠ target) :
    Warrants env H i (.updateUserRole authorization target role) (.setRole target role)
  | deactivate {authorization : Option String} {claims : Claims}
    (hclaims : Authenticated env H i (.deactivateAccount authorization) claims) :
    Warrants env H i (.deactivateAccount authorization) (.deactivate claims.sub)
  | unlink {authorization : Option String} {slug : String} {provider : OAuthProvider} {claims : Claims}
    (hclaims : Authenticated env H i (.unlinkConnection authorization slug) claims)
    (hslug : OAuthProvider.fromSlug slug = some provider) :
    Warrants env H i (.unlinkConnection authorization slug) (.unlink claims.sub (.from provider))

/-- A request in the history warrants the action. -/
def Warranted (env : Env) (H : Trace) (i : ℕ) (x : Action) : Prop :=
  ∃ q, .start i q ∈ H ∧ Warrants env H i q x

/-- The statement of request `i` takes the action, which the request warrants. -/
def TakesAction (env : Env) (H : Trace) (i : ℕ) : (o : Op) → Ret o → Action → Prop
  | .sql sql, .ok _, x => sql.action env = some x ∧ Warranted env H i x
  | _, _, _ => False

/-- The run is one of the directory. -/
structure Governed (env : Env) (s₀ : State) (H : Trace) (s : State) : Prop where
  /-- A statement leaves the directory alone, or takes a warranted action. -/
  steps : ∀ {h : Trace} {i : ℕ} {o : Op} {r : Ret o} {t t' : State}, Occurs H h (.stmt i o r t t') →
    directory env t'.db = directory env t.db ∨
      ∃ x, Directory.Acts i x (directory env t.db) (directory env t'.db) ∧ TakesAction env h i o r x
  /-- Warranted actions lead from the first directory to the last one, -/
  run : Simulated Directory.Acts (TakesAction env) H [] (directory env s₀.db) (directory env s.db)
  /-- and from the one after every statement. -/
  since : ∀ {h : Trace} {i : ℕ} {o : Op} {r : Ret o} {t t' : State}, Occurs H h (.stmt i o r t t') →
    Simulated Directory.Acts (TakesAction env) H (.stmt i o r t t' :: h) (directory env t'.db)
      (directory env s.db)

/-- The account of a row. -/
theorem accounts_of_mem {u : User} (hu : u ∈ db.users.rows) :
    db.accounts env u.id = some (accountOf env (db.findLocalCredential u.id) u) := by
  unfold Db.accounts
  cases hfind : db.findUser u.id with
  | none => exact absurd (decide_eq_true rfl) (List.find?_eq_none.1 hfind u hu)
  | some v =>
    obtain ⟨hv, hid⟩ := Db.findUser_some hfind
    rw [Db.user_unique hv hu hid]
    rfl

/-- The account of a credential. -/
theorem accounts_of_credential (env : Env) {c : LocalCredential} (hc : c ∈ db.localCredentials.rows) :
    ∃ a, db.accounts env c.userId = some a ∧ a.password = some (plain env c.passwordHash) := by
  obtain ⟨u, hu, hid⟩ := db.localCredentials_user c hc
  rw [← hid, accounts_of_mem hu]
  refine ⟨_, rfl, ?_⟩
  cases hfind : db.findLocalCredential u.id with
  | none => exact absurd (decide_eq_true hid.symm) (List.find?_eq_none.1 hfind c hc)
  | some d =>
    obtain ⟨hd, hid'⟩ := Db.findLocalCredential_some hfind
    rw [Db.localCredential_unique hd hc (hid'.trans hid)]
    rfl

theorem insertUser_returns {email name : String} {u : User}
    (h : Stmt env (.sql (.insertUser id email name)) s (.ok u) s') : u.email = email := by
  obtain ⟨db, hq, rfl⟩ := h.sql_ok
  obtain ⟨db₁, -, hq⟩ := bind_eq_ok hq
  cases hq
  rfl

section Runs

variable {s₀ : State} {c : Pool Op Ret Request (Except AppError Response) State} {h : Trace} {i : ℕ}
  (hc : (service env).Reachable s₀ c)

include hc

theorem Vouched.authenticated (hs₀ : s₀.minted = []) (hh : h <:+ c.history) {claims : Claims}
    (hv : Vouched q (localLog i h) claims) : Authenticated env h i q claims := by
  obtain ⟨authorization, minimum, token, hq, htoken, hrole, hlog⟩ := hv
  obtain ⟨past, t, t', hdec⟩ := stmt_of_log hlog
  exact ⟨authorization, minimum, token, past, t, t', hq, htoken, hrole, hdec,
    accepted_from_users hs₀ hc (hdec.of_suffix hh)⟩

theorem Addressed.sees (hh : h <:+ c.history) {email : String} {u : User}
    (ha : Addressed (localLog i h) email u) : ∃ a, Sees env h i u.id a ∧ a.email = email := by
  rcases ha with hlog | ⟨id, name, hlog⟩
  · obtain ⟨t, t', hm⟩ := exists_stmt_of_mem_localLog hlog
    obtain ⟨rfl, hfound⟩ := selectUserByEmail_row (service_stmt hc (hh.subset hm))
    exact ⟨_, ⟨_, _, _, _, hm, accounts_of_mem (hfound u rfl).1⟩, (hfound u rfl).2⟩
  · obtain ⟨t, t', hm⟩ := exists_stmt_of_mem_localLog hlog
    have hstmt := service_stmt hc (hh.subset hm)
    exact ⟨_, ⟨_, _, _, _, hm, accounts_of_mem (insertUser_row hstmt).1⟩, insertUser_returns hstmt⟩

/-- Who has verified a password has seen the account with it. -/
theorem sees_of_verified (hx : env.prim.Exact) (hs₀ : AllHashed env s₀) (hh : h <:+ c.history)
    {d : LocalCredential} {current : String}
    (hlog : ⟨.sql (.selectLocalCredential id), .ok (some d)⟩ ∈ localLog i h)
    (hverify : env.prim.argon2Verify current d.passwordHash = some true) :
    ∃ a, Sees env h i id a ∧ a.password = some current := by
  obtain ⟨past, t, t', he⟩ := stmt_of_log hlog
  have hocc := he.of_suffix hh
  obtain ⟨rfl, hfound, -⟩ := selectLocalCredential_row (service_stmt hc hocc.mem)
  obtain ⟨hd, rfl⟩ := hfound d rfl
  obtain ⟨a, ha, hp⟩ := accounts_of_credential env hd
  obtain ⟨c₀, -, hc₀, -, rfl, -⟩ := hc.past hocc
  obtain ⟨p, salt, hhash⟩ := service_hashed hs₀ hc₀ d hd
  rw [hx.verify_hash _ _ _ _ hhash] at hverify
  have hcurrent : current = p := by simpa using hverify
  rw [plain_hash hx hhash, ← hcurrent] at hp
  exact ⟨a, ⟨_, _, _, _, he.mem, ha⟩, hp⟩

/-- **The actions of statements are warranted.** -/
theorem warranted_of_action (hx : env.prim.Exact) (hminted : s₀.minted = []) (hhashed : AllHashed env s₀)
    {sql : Sql} {r : Ret (.sql sql)} {x : Action} (he : Occurs c.history h (.stmt i (.sql sql) r s s'))
    (haction : sql.action env = some x) :
    Warranted env h i x := by
  obtain ⟨q, hq, hw⟩ := hc.at_stmt handle_warranted he
  have hfrom := service_at_stmt handle_from hc (he.past.subset hq) he
  refine ⟨q, hq, ?_⟩
  cases sql with
  | insertAccount id email name username hash =>
    cases haction
    obtain ⟨password, salt, rfl, rfl, hhash, -⟩ := hfrom
    rw [plain_hash hx hhash]
    exact .register
  | insertUser id email name =>
    cases haction
    obtain ⟨profile, rfl, rfl, rfl, -⟩ := hfrom
    exact .profile
  | updatePasswordHash hash id =>
    cases haction
    obtain ⟨authorization, current, new, claims, d, salt, rfl, hv, rfl, hlog, hverify, hhash⟩ := hw
    obtain ⟨a, ha, hp⟩ := sees_of_verified hc hx hhashed he.past hlog hverify
    rw [plain_hash hx hhash]
    exact .password (hv.authenticated hc hminted he.past) ha hp
  | updateRole role target =>
    cases haction
    obtain ⟨authorization, claims, rfl, hv, hne⟩ := hw
    have hclaims := hv.authenticated hc hminted he.past
    obtain ⟨_, _, _, hrequires, -, hrole, -⟩ := hv
    cases hrequires
    exact .role hclaims (Role.isAtLeast_admin.1 hrole) hne
  | deactivateUser id =>
    cases haction
    obtain ⟨authorization, claims, rfl, hv, rfl⟩ := hw
    exact .deactivate (hv.authenticated hc hminted he.past)
  | insertOAuthCredential _ id provider puid avatarUrl =>
    cases haction
    obtain ⟨profile, u, rfl, rfl, rfl, rfl, haddr⟩ := hw
    obtain ⟨a, ha, hemail⟩ := haddr.sees hc he.past
    exact .link ha hemail
  | deleteOAuthCredential id provider =>
    cases haction
    obtain ⟨authorization, slug, p, claims, rfl, hslug, rfl, hv, rfl⟩ := hw
    exact .unlink (hv.authenticated hc hminted he.past) hslug
  | _ => cases haction

/-- **Step lemma.**  A statement leaves the directory alone, or takes a warranted action. -/
theorem directory_of_stmt (hx : env.prim.Exact) (hminted : s₀.minted = []) (hhashed : AllHashed env s₀)
    {o : Op} {r : Ret o} (he : Occurs c.history h (.stmt i o r s s')) :
    directory env s'.db = directory env s.db ∨
      ∃ x, Directory.Acts i x (directory env s.db) (directory env s'.db) ∧ TakesAction env h i o r x := by
  have hstmt := service_stmt hc he.mem
  rcases hstmt.db_cases with hdb | ⟨sql, res, rfl, hq⟩
  · exact Or.inl (by rw [hdb])
  · rcases r with e | res'
    · exact Or.inl (by rw [hstmt.sql_error])
    · rcases directory_apply hq with hsame | ⟨x, haction, hstep⟩
      · exact Or.inl hsame
      · exact Or.inr ⟨x, hstep, haction, warranted_of_action hc hx hminted hhashed he haction⟩

/-- **Run lemma.**  Warranted actions explain a run, from its start and from every statement on. -/
theorem directory_of_run (hx : env.prim.Exact) (hminted : s₀.minted = []) (hhashed : AllHashed env s₀) :
    Simulated Directory.Acts (TakesAction env) c.history [] (directory env s₀.db) (directory env c.state.db) ∧
      ∀ {h i o r t t'}, Occurs c.history h (.stmt i o r t t') → Simulated Directory.Acts (TakesAction env)
        c.history (.stmt i o r t t' :: h) (directory env t'.db) (directory env c.state.db) :=
  @Reachable.simulates _ _ _ _ _ _ _ (service env) s₀ c (fun s => directory env s.db) Directory.Acts
    (TakesAction env) hc (fun ⟨_, _, h⟩ => by rw [h]) (directory_of_stmt hc hx hminted hhashed)

end Runs

/-- **The service governs accounts.**  However requests interleave and whichever statements fail, a run is a
run of the directory of accounts, every action of which is warranted by the request that takes it. -/
theorem service_governed {s₀ : State} {c : Pool Op Ret Request (Except AppError Response) State}
    (hx : env.prim.Exact) (hminted : s₀.minted = []) (hhashed : AllHashed env s₀)
    (hc : (service env).Reachable s₀ c) : Governed env s₀ c.history c.state where
  steps := directory_of_stmt hc hx hminted hhashed
  run := (directory_of_run hc hx hminted hhashed).1
  since := (directory_of_run hc hx hminted hhashed).2

theorem administered_hashed : AllHashed demo administered := by
  have hstored : ∀ c ∈ administered.db.localCredentials.rows,
      demo.prim.argon2Hash "password" 0 = some c.passwordHash := by decide +kernel
  exact fun c hc => ⟨_, _, hstored c hc⟩

/-- Alice registers, and the administrator makes her an administrator too. -/
def promotesAlice : List (System.Move Request) :=
  [.start (.login "root@example.com" "password")] ++ goes 0 9 ++ [.start registerAlice] ++ goes 1 10 ++
    [.start (.updateUserRole (some rootAuthorization) 5 .admin)] ++ goes 2 3

theorem service_governed_of_alice : ∃ c, (service demo).Reachable administered c ∧
    c.state.db.users.rows.map User.role = [.admin, .admin] ∧
    Governed demo administered c.history c.state := by
  obtain ⟨c, hc, hobs⟩ := exists_run demo administered promotesAlice
    (fun c => c.state.db.users.rows.map User.role) [.admin, .admin] (by decide +kernel)
  exact ⟨c, hc, hobs, service_governed Primitives.ideal_exact (by decide +kernel) administered_hashed hc⟩

/-! ### Owners -/

/-- The statements that take an action. -/
def Action.TakenBy (sql : Sql) : Action → Prop
  | openAccount id email displayName credential => sql = .insertUser id email displayName ∧ credential = none ∨
    ∃ username hash password, sql = .insertAccount id email displayName username hash ∧
      credential = some (username, password)
  | setPassword id _ => ∃ hash, sql = .updatePasswordHash hash id
  | setRole id role => sql = .updateRole role id
  | deactivate id => sql = .deactivateUser id
  | link identity id => ∃ link avatarUrl, sql = .insertOAuthCredential link id identity.1 identity.2 avatarUrl
  | unlink id provider => sql = .deleteOAuthCredential id provider

theorem Sql.takenBy_of_action {sql : Sql} {x : Action} (h : sql.action env = some x) : x.TakenBy sql := by
  cases sql <;> cases h <;> simp [Action.TakenBy]

/-- Request `j` executes the statement after `h`, which is not before `h₀`. -/
def ExecutesSince (H h₀ h : Trace) (j : ℕ) (sql : Sql) : Prop :=
  h₀ <:+ h ∧ ∃ r s s', Occurs H h (.stmt j (.sql sql) (.ok r) s s')

/-- What has been done to the accounts of `d` in the history `H` after `h₀`, up to the directory `d'`, has
been done by whom it concerns: accounts are permanent, and opened by registrations or logins with their email
address; passwords are changed by who knows them, and roles by administrators, to what these have asked for;
accounts are deactivated and identities unlinked by their owners, and identities are linked to the account
with their email address. -/
structure Custody (env : Env) (H h₀ : Trace) (d d' : Directory) : Prop where
  permanent : d.Le d'
  opened : ∀ {id a'}, d.accounts id = none → d'.accounts id = some a' →
    ∃ h j, (∃ username hash password,
      ExecutesSince H h₀ h j (.insertAccount id a'.email a'.displayName username hash) ∧
      .start j (.register a'.email username password) ∈ h) ∨
      ∃ profile, ExecutesSince H h₀ h j (.insertUser id a'.email a'.displayName) ∧
        .start j (.oauthLogin profile) ∈ h ∧ a'.email = profile.email
  password : ∀ {id a a'}, d.accounts id = some a → d'.accounts id = some a' → a'.password ≠ a.password →
    ∃ h j authorization current new hash claims b,
      ExecutesSince H h₀ h j (.updatePasswordHash hash id) ∧ a'.password = some new ∧
      .start j (.changePassword authorization current new) ∈ h ∧
      Authenticated env h j (.changePassword authorization current new) claims ∧ claims.sub = id ∧
      Sees env h j id b ∧ b.password = some current
  role : ∀ {id a a'}, d.accounts id = some a → d'.accounts id = some a' → a'.role ≠ a.role →
    ∃ h j authorization claims, ExecutesSince H h₀ h j (.updateRole a'.role id) ∧
      .start j (.updateUserRole authorization id a'.role) ∈ h ∧
      Authenticated env h j (.updateUserRole authorization id a'.role) claims ∧ claims.role = .admin ∧
      claims.sub ≠ id
  activity : ∀ {id a a'}, d.accounts id = some a → d'.accounts id = some a' → a'.isActive ≠ a.isActive →
    a.isActive = true ∧ ∃ h j authorization claims, ExecutesSince H h₀ h j (.deactivateUser id) ∧
      .start j (.deactivateAccount authorization) ∈ h ∧
      Authenticated env h j (.deactivateAccount authorization) claims ∧ claims.sub = id
  linked : ∀ {identity id a}, d.identities identity ≠ some id → d'.identities identity = some id →
    d'.accounts id = some a → ∃ h j link avatarUrl profile,
      ExecutesSince H h₀ h j (.insertOAuthCredential link id identity.1 identity.2 avatarUrl) ∧
      .start j (.oauthLogin profile) ∈ h ∧
      identity = (.from profile.provider, profile.providerUserId) ∧ a.email = profile.email
  unlinked : ∀ {identity id}, d.identities identity = some id → d'.identities identity ≠ some id →
    ∃ h j authorization slug provider claims,
      ExecutesSince H h₀ h j (.deleteOAuthCredential id identity.1) ∧
      .start j (.unlinkConnection authorization slug) ∈ h ∧
      OAuthProvider.fromSlug slug = some provider ∧ identity.1 = .from provider ∧
      Authenticated env h j (.unlinkConnection authorization slug) claims ∧ claims.sub = id

section Custody

variable {s₀ : State} {c : Pool Op Ret Request (Except AppError Response) State} {h₀ : Trace} {d : Directory}
  (hx : env.prim.Exact) (hminted : s₀.minted = []) (hhashed : AllHashed env s₀)
  (hc : (service env).Reachable s₀ c)

include hx hminted hhashed hc

/-- An account that a request has seen keeps its email address. -/
theorem Sees.email {h : Trace} {j : ℕ} {a b : Account} (hb : Sees env h j id b) (hh : h <:+ c.history)
    (ha : (directory env c.state.db).accounts id = some a) : a.email = b.email := by
  obtain ⟨o, r, t, t', hm, hb⟩ := hb
  obtain ⟨past, he⟩ := exists_occurs hm
  obtain ⟨l, hl, -⟩ := (directory_of_run hc hx hminted hhashed).2 (he.of_suffix hh)
  obtain ⟨a', ha', hemail, -⟩ := Directory.le_of_acts hl hb
  rw [ha] at ha'
  cases ha'
  exact hemail

/-- Warranted actions are those of the owners. -/
theorem custody_of_run
    (hsim : Simulated Directory.Acts (TakesAction env) c.history h₀ d (directory env c.state.db)) :
    Custody env c.history h₀ d (directory env c.state.db) := by
  obtain ⟨l, hl, hall⟩ := hsim
  -- An action of the list has been taken by a statement since `h₀`.
  have htaken : ∀ {j x}, (j, x) ∈ l → ∃ h sql q, ExecutesSince c.history h₀ h j sql ∧ x.TakenBy sql ∧
      h <:+ c.history ∧ .start j q ∈ h ∧ Warrants env h j q x := by
    intro j x hm
    obtain ⟨h, o, r, t, t', hh₀, he, htakes⟩ := hall hm
    unfold TakesAction at htakes
    split at htakes
    · obtain ⟨haction, q, hq, hw⟩ := htakes
      exact ⟨h, _, q, ⟨hh₀, _, _, _, he⟩, Sql.takenBy_of_action haction, he.past, hq, hw⟩
    · exact htakes.elim
  constructor
  case permanent => exact Directory.le_of_acts hl
  case opened =>
    intro id a' ha ha'
    obtain ⟨j, x, hm, credential, rfl⟩ := Directory.open_of_acts hl ha ha'
    obtain ⟨h, sql, q, hexecutes, hsql, -, hq, hw⟩ := htaken hm
    generalize a'.email = email at hsql hw ⊢
    generalize a'.displayName = name at hsql hw ⊢
    cases hw with
    | register =>
      rcases hsql with ⟨-, hnone⟩ | ⟨username, hash, password, rfl, hcredential⟩
      · cases hnone
      · cases hcredential
        exact ⟨h, j, Or.inl ⟨_, _, _, hexecutes, hq⟩⟩
    | profile =>
      rcases hsql with ⟨rfl, -⟩ | ⟨_, _, _, -, hcredential⟩
      · exact ⟨h, j, Or.inr ⟨_, hexecutes, hq, rfl⟩⟩
      · cases hcredential
  case password =>
    intro id a a' ha ha' hne
    obtain ⟨j, x, hm, p, rfl, hset⟩ := Directory.setPassword_of_acts hl ha ha' hne
    obtain ⟨h, sql, q, hexecutes, ⟨hash, rfl⟩, -, hq, hw⟩ := htaken hm
    cases hw with
    | password hclaims hb hp => exact ⟨h, j, _, _, _, hash, _, _, hexecutes, hset, hq, hclaims, rfl, hb, hp⟩
  case role =>
    intro id a a' ha ha' hne
    obtain ⟨j, x, hm, rfl⟩ := Directory.setRole_of_acts hl ha ha' hne
    obtain ⟨h, sql, q, hexecutes, rfl, -, hq, hw⟩ := htaken hm
    generalize a'.role = role at hexecutes hw ⊢
    cases hw with
    | role hclaims hadmin hother => exact ⟨h, j, _, _, hexecutes, hq, hclaims, hadmin, hother⟩
  case activity =>
    intro id a a' ha ha' hne
    have hactive : a.isActive = true := by
      by_contra hinactive
      obtain ⟨b, hb, -, -, -, hkeeps⟩ := Directory.le_of_acts hl ha
      rw [ha'] at hb
      cases hb
      rw [Bool.not_eq_true] at hinactive
      exact hne ((hkeeps hinactive).trans hinactive.symm)
    rw [hactive, ne_eq, Bool.not_eq_true] at hne
    obtain ⟨j, x, hm, rfl⟩ := Directory.deactivate_of_acts hl ha hactive ha' hne
    obtain ⟨h, sql, q, hexecutes, rfl, -, hq, hw⟩ := htaken hm
    cases hw with
    | deactivate hclaims => exact ⟨hactive, h, j, _, _, hexecutes, hq, hclaims, rfl⟩
  case linked =>
    intro identity id a hi hi' ha
    obtain ⟨j, x, hm, rfl⟩ := Directory.link_of_acts hl hi hi'
    obtain ⟨h, sql, q, hexecutes, ⟨link, avatarUrl, rfl⟩, hh, hq, hw⟩ := htaken hm
    cases hw with
    | link hb he =>
      exact ⟨h, j, link, avatarUrl, _, hexecutes, hq, rfl, (hb.email hx hminted hhashed hc hh ha).trans he⟩
  case unlinked =>
    intro identity id hi hi'
    obtain ⟨j, x, hm, rfl⟩ := Directory.unlink_of_acts hl hi hi'
    obtain ⟨h, sql, q, hexecutes, rfl, -, hq, hw⟩ := htaken hm
    generalize identity.1 = p at hexecutes hw ⊢
    cases hw with
    | unlink hclaims hslug => exact ⟨h, j, _, _, _, _, hexecutes, hq, hslug, rfl, hclaims, rfl⟩

end Custody

/-- **Accounts belong to their owners.**  Whatever has become of the accounts since some statement of a run,
they have made of them, however requests interleave. -/
theorem service_custody {s₀ : State} {c : Pool Op Ret Request (Except AppError Response) State}
    (hx : env.prim.Exact) (hminted : s₀.minted = []) (hhashed : AllHashed env s₀)
    (hc : (service env).Reachable s₀ c) {h : Trace} {i : ℕ} {o : Op} {r : Ret o} {t t' : State}
    (he : Occurs c.history h (.stmt i o r t t')) :
    Custody env c.history (.stmt i o r t t' :: h) (directory env t'.db) (directory env c.state.db) := by
  exact custody_of_run hx hminted hhashed hc ((directory_of_run hc hx hminted hhashed).2 he)

/-- Since Alice has registered, only the administrator has changed her account. -/
theorem service_custody_of_alice : ∃ c h id hash expiresAt r s s', (service demo).Reachable administered c ∧
    c.state.db.users.rows.map User.role = [.admin, .admin] ∧
    Custody demo c.history (.stmt 1 (.sql (.insertRefreshToken id 5 hash
      (TokenService.computeLookupKey demo (tally 6)) expiresAt)) r s s' :: h)
      (directory demo s'.db) (directory demo c.state.db) := by
  obtain ⟨c, hc, hobs⟩ := exists_run demo administered promotesAlice
    (fun c => (c.state.db.users.rows.map User.role,
      (findStores 1 5 (TokenService.computeLookupKey demo (tally 6)) c.history).isSome))
    ([.admin, .admin], true) (by decide +kernel)
  obtain ⟨hroles, hstores⟩ := Prod.mk.inj hobs
  obtain ⟨h, hstores⟩ := Option.isSome_iff_exists.1 hstores
  obtain ⟨id, hash, expiresAt, s, s', he⟩ := stores_of_findStores hstores
  exact ⟨c, h, id, hash, expiresAt, _, s, s', hc, hroles,
    service_custody Primitives.ideal_exact (by decide +kernel) administered_hashed hc he⟩

end Socle
