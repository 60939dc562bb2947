import Socle.Model.Statements

/-!
# Executed statements

* `Stmt.sql_ok`, `Stmt.sql_error`, …: what an executed statement tells about the states around it;
* `State.Le`: what only grows, or only goes one way, in the course of a run: users are never deleted
  or activated again, refresh tokens are never deleted or un-revoked, local credentials come with
  their user only, time, draws and signed claims increase;
* `Stmt.le`: every statement respects this order.
-/

namespace Socle

open Interaction Relational

variable {env : Env} {s s' : State}

/-! ### Inversion -/

/-- A successful SQL statement was applied. -/
theorem Stmt.sql_ok {q : Sql} {res : q.Result} (h : Stmt env (.sql q) s (.ok res) s') :
    ∃ db, q.apply env.prim s.clock s.db = .ok (res, db) ∧ s' = { s with db := db } := by
  cases h with
  | exec h =>
    simp only [Socle.exec] at h
    split at h
    · next res' db hq =>
      cases h
      exact ⟨db, hq, rfl⟩
    · cases h

/-- A statement that can be applied can be executed. -/
theorem Stmt.of_apply {q : Sql} {res : q.Result} {db : Db} (h : q.apply env.prim s.clock s.db = .ok (res, db)) :
    Stmt env (.sql q) s (.ok res) { s with db := db } := by
  refine .exec ?_
  simp only [Socle.exec, h]

/-- A failed SQL statement changes nothing. -/
theorem Stmt.sql_error {q : Sql} {e : q.Error} (h : Stmt env (.sql q) s (.error e) s') : s' = s := by
  cases h with
  | exec h =>
    simp only [Socle.exec] at h
    split at h
    · cases h
    · cases h
      rfl
  | fault => rfl

theorem Stmt.now_eq {t : OffsetDateTime} (h : Stmt env .now s t s') : t = s.clock ∧ s' = s := by
  cases h with
  | exec h =>
    cases h
    exact ⟨rfl, rfl⟩

theorem Stmt.random_eq {n : ℕ} (h : Stmt env .random s n s') :
    n = s.draws ∧ s' = { s with draws := s.draws + 1 } := by
  cases h with
  | exec h =>
    cases h
    exact ⟨rfl, rfl⟩

theorem Stmt.encode_eq {c : Claims} {x : Except JwtError String} (h : Stmt env (.encode c) s x s') :
    x = .ok (env.prim.jwtEncode env.config.jwtSecret c) ∧ s' = { s with minted := c :: s.minted } := by
  cases h with
  | exec h =>
    cases h
    exact ⟨rfl, rfl⟩

theorem Stmt.decode_eq {token : String} {x : Except JwtError Claims}
    (h : Stmt env (.decode token) s x s') : x = decode env s token ∧ s' = s := by
  cases h with
  | exec h =>
    cases h
    exact ⟨rfl, rfl⟩

/-- Only a successful SQL statement changes the database. -/
theorem Stmt.db_cases {o : Op} {r : Ret o} (h : Stmt env o s r s') :
    s'.db = s.db ∨ ∃ q res, o = .sql q ∧ q.apply env.prim s.clock s.db = .ok (res, s'.db) := by
  cases o with
  | sql q =>
    rcases r with e | res
    · exact Or.inl (by rw [h.sql_error])
    · obtain ⟨db, hq, rfl⟩ := h.sql_ok
      exact Or.inr ⟨q, res, rfl, hq⟩
  | now => exact Or.inl (by rw [h.now_eq.2])
  | random => exact Or.inl (by rw [h.random_eq.2])
  | abort => exact r.elim
  | encode claims => exact Or.inl (by rw [h.encode_eq.2])
  | decode token => exact Or.inl (by rw [h.decode_eq.2])

/-- Claims are signed one at a time. -/
theorem Stmt.minted {o : Op} {r : Ret o} (h : Stmt env o s r s') :
    s'.minted = s.minted ∨ ∃ claims, o = .encode claims ∧ s'.minted = claims :: s.minted := by
  cases o with
  | sql q =>
    rcases r with e | res
    · exact Or.inl (by rw [h.sql_error])
    · obtain ⟨db, -, rfl⟩ := h.sql_ok
      exact Or.inl rfl
  | now => exact Or.inl (by rw [h.now_eq.2])
  | random => exact Or.inl (by rw [h.random_eq.2])
  | abort => exact r.elim
  | encode claims => exact Or.inr ⟨claims, rfl, by rw [h.encode_eq.2]⟩
  | decode token => exact Or.inl (by rw [h.decode_eq.2])

/-- What `decode` accepts has been signed and is not past its expiry by more than the leeway. -/
theorem decode_ok {token : String} {c : Claims} (h : decode env s token = .ok c) :
    c ∈ s.minted ∧ env.prim.jwtEncode env.config.jwtSecret c = token ∧
      s.unixNow ≤ c.exp + leeway := by
  unfold decode at h
  split at h
  · cases h
  · next c' hc' =>
    split at h
    · cases h
    · next hexp =>
      cases h
      refine ⟨List.mem_of_find?_eq_some hc', by simpa using List.find?_some hc', ?_⟩
      omega

/-! ### What queries return -/

section Find

variable {α : Type} {rows : List α} {p : α → Prop} [DecidablePred p]

theorem of_find?_eq_some {a : α} (h : rows.find? (fun a => decide (p a)) = some a) : a ∈ rows ∧ p a :=
  ⟨List.mem_of_find?_eq_some h, by simpa using List.find?_some h⟩

end Find

theorem Db.findUser_some {db : Db} {id : Uuid} {u : User} (h : db.findUser id = some u) :
    u ∈ db.users.rows ∧ u.id = id := of_find?_eq_some h

theorem Db.findUserByEmail_some {db : Db} {email : String} {u : User}
    (h : db.findUserByEmail email = some u) : u ∈ db.users.rows ∧ u.email = email := of_find?_eq_some h

theorem Db.findUserByEmail_none {db : Db} {email : String} :
    db.findUserByEmail email = none ↔ ∀ u ∈ db.users.rows, u.email ≠ email := by
  simp [Db.findUserByEmail]

theorem Db.findLocalCredential_some {db : Db} {id : Uuid} {c : LocalCredential}
    (h : db.findLocalCredential id = some c) : c ∈ db.localCredentials.rows ∧ c.userId = id :=
  of_find?_eq_some h

theorem Db.findLocalCredential_none {db : Db} {id : Uuid} :
    db.findLocalCredential id = none ↔ ∀ c ∈ db.localCredentials.rows, c.userId ≠ id := by
  simp [Db.findLocalCredential]

theorem Db.findRefreshToken_some {db : Db} {key : String} {r : RefreshToken}
    (h : db.findRefreshToken key = some r) : r ∈ db.refreshTokens.rows ∧ r.lookupKey = key :=
  of_find?_eq_some h

theorem Db.findUserByOAuthIdentity_some {db : Db} {provider : Provider} {puid : String} {u : User}
    (h : db.findUserByOAuthIdentity provider puid = some u) :
    u ∈ db.users.rows ∧ ∃ o ∈ db.oauthCredentials.rows, o.provider = provider ∧
      o.providerUserId = puid ∧ o.userId = u.id := by
  obtain ⟨o, ho, hu⟩ := Option.bind_eq_some_iff.1 h
  obtain ⟨hmem, hid⟩ := Db.findUser_some hu
  obtain ⟨homem, hp, hpuid⟩ := of_find?_eq_some ho
  exact ⟨hmem, o, homem, hp, hpuid, hid.symm⟩

theorem Db.findUserByOAuthIdentity_none {db : Db} {provider : Provider} {puid : String} :
    db.findUserByOAuthIdentity provider puid = none ↔
      ∀ o ∈ db.oauthCredentials.rows, ¬ (o.provider = provider ∧ o.providerUserId = puid) := by
  refine ⟨fun h => ?_, fun h => ?_⟩
  · intro o ho hsame
    have hfound : (db.findOAuthCredential provider puid).isSome = true :=
      List.find?_isSome.2 ⟨o, ho, decide_eq_true hsame⟩
    obtain ⟨o, ho⟩ := Option.isSome_iff_exists.1 hfound
    -- A link that is found has a user.
    obtain ⟨u, hu, hid⟩ := db.oauthCredentials_user o (of_find?_eq_some ho).1
    have hfind := Option.bind_eq_none_iff.1 h o ho
    exact List.find?_eq_none.1 hfind u hu (decide_eq_true hid)
  · rw [findUserByOAuthIdentity, findOAuthCredential, List.find?_eq_none.2 fun o ho => by simpa using h o ho]
    rfl

section Stmt

variable {id : Uuid}

/-- A token that has been looked up is in the database. -/
theorem selectRefreshToken_row {key : String} {record : RefreshTokenRow}
    (h : Stmt env (.sql (.selectRefreshToken key)) s (.ok (some record)) s') :
    s' = s ∧ ∃ row ∈ s.db.refreshTokens.rows, row.lookupKey = key ∧ row.record = record := by
  obtain ⟨db, hq, rfl⟩ := h.sql_ok
  obtain ⟨-, hq⟩ := bindTexts_ok.1 hq
  obtain ⟨hrec, hdb⟩ := Prod.mk.inj (Except.ok.inj hq)
  obtain ⟨row, hrow, hrec⟩ := Option.map_eq_some_iff.1 hrec
  obtain ⟨hrow, hkey⟩ := Db.findRefreshToken_some hrow
  exact ⟨by rw [← hdb], row, hrow, hkey, hrec⟩

/-- A user that has been looked up is in the database. -/
theorem selectUserById_row {u : User}
    (h : Stmt env (.sql (.selectUserById id)) s (.ok (some u)) s') :
    s' = s ∧ u ∈ s.db.users.rows ∧ u.id = id := by
  obtain ⟨db, hq, rfl⟩ := h.sql_ok
  obtain ⟨hu, hdb⟩ := Prod.mk.inj (Except.ok.inj hq)
  exact ⟨by rw [← hdb], Db.findUser_some hu⟩

theorem selectUserByEmail_row {email : String} {res : Option User}
    (h : Stmt env (.sql (.selectUserByEmail email)) s (.ok res) s') :
    s' = s ∧ ∀ u, res = some u → u ∈ s.db.users.rows ∧ u.email = email := by
  obtain ⟨db, hq, rfl⟩ := h.sql_ok
  obtain ⟨-, hq⟩ := bindTexts_ok.1 hq
  obtain ⟨hu, hdb⟩ := Prod.mk.inj (Except.ok.inj hq)
  exact ⟨by rw [← hdb], fun u hres => Db.findUserByEmail_some (hu.trans hres)⟩

theorem selectUserByOAuthIdentity_row {provider : Provider} {puid : String} {u : User}
    (h : Stmt env (.sql (.selectUserByOAuthIdentity provider puid)) s (.ok (some u)) s') :
    s' = s ∧ u ∈ s.db.users.rows := by
  obtain ⟨db, hq, rfl⟩ := h.sql_ok
  obtain ⟨-, hq⟩ := bindTexts_ok.1 hq
  obtain ⟨hu, hdb⟩ := Prod.mk.inj (Except.ok.inj hq)
  exact ⟨by rw [← hdb], (Db.findUserByOAuthIdentity_some hu).1⟩

/-- An identity for which no user is found is not linked. -/
theorem selectUserByOAuthIdentity_none {provider : Provider} {puid : String}
    (h : Stmt env (.sql (.selectUserByOAuthIdentity provider puid)) s (.ok none) s') :
    s' = s ∧ ∀ o ∈ s.db.oauthCredentials.rows, ¬ (o.provider = provider ∧ o.providerUserId = puid) := by
  obtain ⟨db, hq, rfl⟩ := h.sql_ok
  obtain ⟨-, hq⟩ := bindTexts_ok.1 hq
  obtain ⟨hu, hdb⟩ := Prod.mk.inj (Except.ok.inj hq)
  exact ⟨by rw [← hdb], Db.findUserByOAuthIdentity_none.1 hu⟩

/-- A user that has been inserted is in the database, active. -/
theorem insertUser_row {email name : String} {u : User}
    (h : Stmt env (.sql (.insertUser id email name)) s (.ok u) s') :
    u ∈ s'.db.users.rows ∧ u.isActive = true := by
  obtain ⟨db, hq, rfl⟩ := h.sql_ok
  have hrows := (apply_ok hq).1
  obtain ⟨db₁, -, hq⟩ := bind_eq_ok hq
  cases hq
  exact ⟨by rw [hrows]; exact List.mem_append_right _ List.mem_cons_self, rfl⟩

/-- So is a user that has been inserted with its local credential. -/
theorem insertAccount_row {email name username hash : String} {u : User} {c : LocalCredential}
    (h : Stmt env (.sql (.insertAccount id email name username hash)) s (.ok (u, c)) s') :
    (u ∈ s'.db.users.rows ∧ u.isActive = true) ∧ c ∈ s'.db.localCredentials.rows ∧ c.userId = u.id := by
  obtain ⟨db, hq, rfl⟩ := h.sql_ok
  obtain ⟨husers, hcreds, -⟩ := apply_ok hq
  obtain ⟨db₁, -, hq⟩ := bind_eq_ok hq
  obtain ⟨db₂, -, hq⟩ := bind_eq_ok hq
  cases hq
  refine ⟨⟨?_, rfl⟩, ?_, rfl⟩
  · rw [husers]
    exact List.mem_append_right _ List.mem_cons_self
  · rw [hcreds]
    exact List.mem_append_right _ List.mem_cons_self

/-- A user that is inserted gets the identifier of the statement. -/
theorem insertUser_id {email name : String} {u : User}
    (h : Stmt env (.sql (.insertUser id email name)) s (.ok u) s') : u.id = id := by
  obtain ⟨db, hq, -⟩ := h.sql_ok
  obtain ⟨db₁, -, hq⟩ := bind_eq_ok hq
  cases hq
  rfl

theorem insertAccount_id {email name username hash : String} {u : User} {c : LocalCredential}
    (h : Stmt env (.sql (.insertAccount id email name username hash)) s (.ok (u, c)) s') : u.id = id := by
  obtain ⟨db, hq, -⟩ := h.sql_ok
  obtain ⟨db₁, -, hq⟩ := bind_eq_ok hq
  obtain ⟨db₂, -, hq⟩ := bind_eq_ok hq
  cases hq
  rfl

/-- What the search for a local credential returns is what there is. -/
theorem selectLocalCredential_row {res : Option LocalCredential}
    (h : Stmt env (.sql (.selectLocalCredential id)) s (.ok res) s') :
    s' = s ∧ (∀ c, res = some c → c ∈ s.db.localCredentials.rows ∧ c.userId = id) ∧
      (res = none → ∀ c ∈ s.db.localCredentials.rows, c.userId ≠ id) := by
  obtain ⟨db, hq, rfl⟩ := h.sql_ok
  obtain ⟨hfind, hdb⟩ := Prod.mk.inj (Except.ok.inj hq)
  exact ⟨by rw [← hdb], fun c hres => Db.findLocalCredential_some (hfind.trans hres),
    fun hres => Db.findLocalCredential_none.1 (hfind.trans hres)⟩

end Stmt

/-- The row of `users` that a statement has returned. -/
def returnedUser : (o : Op) × Ret o → Option User
  | ⟨.sql (.selectUserById _), .ok found⟩ => found
  | ⟨.sql (.selectUserByEmail _), .ok found⟩ => found
  | ⟨.sql (.selectUserByOAuthIdentity _ _), .ok found⟩ => found
  | ⟨.sql (.insertAccount _ _ _ _ _), .ok (user, _)⟩ => some user
  | ⟨.sql (.insertUser _ _ _), .ok user⟩ => some user
  | _ => none

/-- The statement that inserts a user with a local credential. -/
def Op.opensAccount : Op → Bool
  | .sql (.insertAccount _ _ _ _ _) => true
  | _ => false

/-- A user that a statement returns is in the database, and active when its account is new. -/
theorem returnedUser_row {o : Op} {r : Ret o} {u : User} (h : Stmt env o s r s')
    (hu : returnedUser ⟨o, r⟩ = some u) :
    u ∈ s'.db.users.rows ∧ (o.opensAccount = true → u.isActive = true) := by
  unfold returnedUser at hu
  split at hu
  · next heq =>
    cases heq
    cases hu
    obtain ⟨rfl, hmem, -⟩ := selectUserById_row h
    exact ⟨hmem, fun h => by cases h⟩
  · next heq =>
    cases heq
    obtain ⟨rfl, hmem⟩ := selectUserByEmail_row h
    exact ⟨(hmem u hu).1, fun h => by cases h⟩
  · next heq =>
    cases heq
    cases hu
    obtain ⟨rfl, hmem⟩ := selectUserByOAuthIdentity_row h
    exact ⟨hmem, fun h => by cases h⟩
  · next heq =>
    cases heq
    cases hu
    obtain ⟨⟨hmem, hactive⟩, -⟩ := insertAccount_row h
    exact ⟨hmem, fun _ => hactive⟩
  · next heq =>
    cases heq
    cases hu
    exact ⟨(insertUser_row h).1, fun h => by cases h⟩
  · cases hu

/-- The identity of a user determines its row. -/
theorem Db.user_unique {db : Db} {u v : User} (hu : u ∈ db.users.rows) (hv : v ∈ db.users.rows)
    (h : u.id = v.id) : u = v :=
  db.users.eq_of_clash List.mem_cons_self hu hv ⟨by simp [h], by simp⟩

/-- So does its email address. -/
theorem Db.user_unique_email {db : Db} {u v : User} (hu : u ∈ db.users.rows) (hv : v ∈ db.users.rows)
    (h : u.email = v.email) : u = v :=
  db.users.eq_of_clash (List.mem_cons_of_mem _ List.mem_cons_self) hu hv ⟨by simp [h], by simp⟩

theorem Db.localCredential_unique {db : Db} {c d : LocalCredential}
    (hc : c ∈ db.localCredentials.rows) (hd : d ∈ db.localCredentials.rows) (h : c.userId = d.userId) :
    c = d :=
  db.localCredentials.eq_of_clash List.mem_cons_self hc hd ⟨by simp [h], by simp⟩

/-- The lookup key of a refresh token determines its row. -/
theorem Db.refreshToken_unique {db : Db} {r r' : RefreshToken} (hr : r ∈ db.refreshTokens.rows)
    (hr' : r' ∈ db.refreshTokens.rows) (h : r.lookupKey = r'.lookupKey) : r = r' :=
  db.refreshTokens.eq_of_clash
    (List.mem_cons_of_mem _ (List.mem_cons_of_mem _ List.mem_cons_self)) hr hr' ⟨by simp [h], by simp⟩

theorem Db.refreshToken_unique_id {db : Db} {r r' : RefreshToken} (hr : r ∈ db.refreshTokens.rows)
    (hr' : r' ∈ db.refreshTokens.rows) (h : r.id = r'.id) : r = r' :=
  db.refreshTokens.eq_of_clash List.mem_cons_self hr hr' ⟨by simp [h], by simp⟩

/-! ### The order of states -/

/-- `s'` can come after `s`. -/
structure State.Le (s s' : State) : Prop where
  users : ∀ u ∈ s.db.users.rows, ∃ u' ∈ s'.db.users.rows, u'.id = u.id ∧ u'.email = u.email ∧
    u'.displayName = u.displayName ∧ (u.isActive = false → u'.isActive = false)
  localCredentials : ∀ c ∈ s.db.localCredentials.rows, ∃ c' ∈ s'.db.localCredentials.rows,
    c'.userId = c.userId ∧ c'.username = c.username
  localCredentials_old : ∀ u ∈ s.db.users.rows, ∀ c' ∈ s'.db.localCredentials.rows,
    c'.userId = u.id → ∃ c ∈ s.db.localCredentials.rows, c.userId = u.id
  refreshTokens : ∀ r ∈ s.db.refreshTokens.rows, ∃ r' ∈ s'.db.refreshTokens.rows,
    r' = { r with revoked := r'.revoked } ∧ (r.revoked = true → r'.revoked = true)
  clock : s.clock ≤ s'.clock
  draws : s.draws ≤ s'.draws
  minted : s.minted <:+ s'.minted

namespace State.Le

theorem refl (s : State) : s.Le s where
  users u hu := ⟨u, hu, rfl, rfl, rfl, id⟩
  localCredentials c hc := ⟨c, hc, rfl, rfl⟩
  localCredentials_old _ _ c hc h := ⟨c, hc, h⟩
  refreshTokens r hr := ⟨r, hr, rfl, id⟩
  clock := Nat.le_refl _
  draws := Nat.le_refl _
  minted := List.suffix_rfl

theorem trans {s₁ s₂ s₃ : State} (h : s₁.Le s₂) (h' : s₂.Le s₃) : s₁.Le s₃ where
  users u hu := by
    obtain ⟨v, hv, hid, he, hn, ha⟩ := h.users u hu
    obtain ⟨w, hw, hid', he', hn', ha'⟩ := h'.users v hv
    exact ⟨w, hw, hid'.trans hid, he'.trans he, hn'.trans hn, fun hu => ha' (ha hu)⟩
  localCredentials c hc := by
    obtain ⟨d, hd, hid, hn⟩ := h.localCredentials c hc
    obtain ⟨e, he, hid', hn'⟩ := h'.localCredentials d hd
    exact ⟨e, he, hid'.trans hid, hn'.trans hn⟩
  localCredentials_old u hu e he heq := by
    obtain ⟨v, hv, hid, -⟩ := h.users u hu
    obtain ⟨d, hd, hdv⟩ := h'.localCredentials_old v hv e he (heq.trans hid.symm)
    exact h.localCredentials_old u hu d hd (hdv.trans hid)
  refreshTokens r hr := by
    obtain ⟨r₁, hr₁, heq₁, hrev₁⟩ := h.refreshTokens r hr
    obtain ⟨r₂, hr₂, heq₂, hrev₂⟩ := h'.refreshTokens r₁ hr₁
    refine ⟨r₂, hr₂, ?_, fun hr => hrev₂ (hrev₁ hr)⟩
    rw [heq₂, heq₁]
  clock := Nat.le_trans h.clock h'.clock
  draws := Nat.le_trans h.draws h'.draws
  minted := h.minted.trans h'.minted

end State.Le

section Apply

variable {prim : Primitives} {now : OffsetDateTime} {db db' : Db} {q : Sql} {res : q.Result}

theorem Sql.mem_users {us : List User} {u : User} (hu : u ∈ us) :
    ∃ u' ∈ q.users now us, u'.id = u.id ∧ u'.email = u.email ∧ u'.displayName = u.displayName ∧
      (u.isActive = false → u'.isActive = false) := by
  cases q with
  | insertAccount => exact ⟨u, List.mem_append_left _ hu, rfl, rfl, rfl, id⟩
  | insertUser => exact ⟨u, List.mem_append_left _ hu, rfl, rfl, rfl, id⟩
  | updateRole role id =>
    refine ⟨_, List.mem_map_of_mem hu, ?_⟩
    split <;> exact ⟨rfl, rfl, rfl, fun h => h⟩
  | deactivateUser id =>
    refine ⟨_, List.mem_map_of_mem hu, ?_⟩
    split
    · exact ⟨rfl, rfl, rfl, fun _ => rfl⟩
    · exact ⟨rfl, rfl, rfl, fun h => h⟩
  | _ => exact ⟨u, hu, rfl, rfl, rfl, id⟩

theorem Sql.mem_localCredentials {cs : List LocalCredential} {c : LocalCredential} (hc : c ∈ cs) :
    ∃ c' ∈ q.localCredentials now cs, c'.userId = c.userId ∧ c'.username = c.username := by
  cases q with
  | insertAccount => exact ⟨c, List.mem_append_left _ hc, rfl, rfl⟩
  | updatePasswordHash hash id =>
    refine ⟨_, List.mem_map_of_mem hc, ?_⟩
    split <;> exact ⟨rfl, rfl⟩
  | _ => exact ⟨c, hc, rfl, rfl⟩

theorem Sql.mem_refreshTokens {rs : List RefreshToken} {r : RefreshToken} (hr : r ∈ rs) :
    ∃ r' ∈ q.refreshTokens now rs, r' = { r with revoked := r'.revoked } ∧
      (r.revoked = true → r'.revoked = true) := by
  cases q with
  | insertRefreshToken => exact ⟨r, List.mem_append_left _ hr, rfl, id⟩
  | revokeRefreshToken id =>
    refine ⟨_, List.mem_map_of_mem hr, ?_⟩
    split
    · exact ⟨rfl, fun _ => rfl⟩
    · exact ⟨rfl, fun h => h⟩
  | revokeUserRefreshTokens id =>
    refine ⟨_, List.mem_map_of_mem hr, ?_⟩
    split
    · exact ⟨rfl, fun _ => rfl⟩
    · exact ⟨rfl, fun h => h⟩
  | _ => exact ⟨r, hr, rfl, id⟩

/-- A row of `users` keeps its identifier, or has been inserted. -/
theorem Sql.users_old {us : List User} {u' : User}
    (hu' : u' ∈ q.users now us) : (∃ u ∈ us, u'.id = u.id) ∨
      (∃ email name username hash, q = .insertAccount u'.id email name username hash) ∨
      ∃ email name, q = .insertUser u'.id email name := by
  cases q with
  | insertAccount id email name username hash =>
    rcases List.mem_append.1 hu' with hu' | hu'
    · exact Or.inl ⟨u', hu', rfl⟩
    · rw [List.mem_singleton.1 hu']
      exact Or.inr (Or.inl ⟨_, _, _, _, rfl⟩)
  | insertUser id email name =>
    rcases List.mem_append.1 hu' with hu' | hu'
    · exact Or.inl ⟨u', hu', rfl⟩
    · rw [List.mem_singleton.1 hu']
      exact Or.inr (Or.inr ⟨_, _, rfl⟩)
  | updateRole role id =>
    obtain ⟨u, hu, rfl⟩ := List.mem_map.1 hu'
    exact Or.inl ⟨u, hu, by split <;> rfl⟩
  | deactivateUser id =>
    obtain ⟨u, hu, rfl⟩ := List.mem_map.1 hu'
    exact Or.inl ⟨u, hu, by split <;> rfl⟩
  | _ => exact Or.inl ⟨u', hu', rfl⟩

/-- A row of `refresh_tokens` differs from one of before in `revoked` only, or has been inserted. -/
theorem Sql.refreshTokens_old {rs : List RefreshToken}
    {r' : RefreshToken} (hr' : r' ∈ q.refreshTokens now rs) :
    (∃ r ∈ rs, r' = { r with revoked := r'.revoked }) ∨
      q = .insertRefreshToken r'.id r'.userId r'.tokenHash r'.lookupKey r'.expiresAt := by
  cases q with
  | insertRefreshToken id userId hash key exp =>
    rcases List.mem_append.1 hr' with hr' | hr'
    · exact Or.inl ⟨r', hr', rfl⟩
    · rw [List.mem_singleton.1 hr']
      exact Or.inr rfl
  | revokeRefreshToken id =>
    obtain ⟨r, hr, rfl⟩ := List.mem_map.1 hr'
    exact Or.inl ⟨r, hr, by split <;> rfl⟩
  | revokeUserRefreshTokens id =>
    obtain ⟨r, hr, rfl⟩ := List.mem_map.1 hr'
    exact Or.inl ⟨r, hr, by split <;> rfl⟩
  | _ => exact Or.inl ⟨r', hr', rfl⟩

/-- A user that can be inserted is new. -/
theorem Db.insertUser_new {size : List Value → ℕ} {u : User} (h : db.insertUser size u = .ok db') :
    ∀ v ∈ db.users.rows, v.id ≠ u.id := fun v hv heq =>
  (Table.refusal_eq_none.1 (Db.insertUser_ok h).1 _ List.mem_cons_self).1 v hv ⟨by simp [heq], by simp⟩

/-- The user of a new account is new. -/
theorem apply_insertAccount_new {id : Uuid} {email name username hash : String}
    {res : User × LocalCredential}
    (h : (Sql.insertAccount id email name username hash).apply prim now db = .ok (res, db')) :
    ∀ u ∈ db.users.rows, u.id ≠ id := by
  obtain ⟨db₁, h₁, -⟩ := bind_eq_ok h
  exact Db.insertUser_new (bindTexts_ok.1 (mapError_ok.1 h₁)).2

/-- So is the user of `createFromOAuth`. -/
theorem apply_insertUser_new {id : Uuid} {email name : String} {res : User}
    (h : (Sql.insertUser id email name).apply prim now db = .ok (res, db')) :
    ∀ u ∈ db.users.rows, u.id ≠ id := by
  obtain ⟨db₁, h₁, -⟩ := bind_eq_ok h
  exact Db.insertUser_new (bindTexts_ok.1 h₁).2

theorem apply_localCredentials_old (h : q.apply prim now db = .ok (res, db')) {u : User}
    (hu : u ∈ db.users.rows) {c' : LocalCredential} (hc' : c' ∈ db'.localCredentials.rows)
    (heq : c'.userId = u.id) : ∃ c ∈ db.localCredentials.rows, c.userId = u.id := by
  rw [(apply_ok h).2.1] at hc'
  cases q with
  | insertAccount id email name username hash =>
    rcases List.mem_append.1 hc' with hc' | hc'
    · exact ⟨c', hc', heq⟩
    · rw [List.mem_singleton.1 hc'] at heq
      exact absurd heq.symm (apply_insertAccount_new h u hu)
  | updatePasswordHash hash id =>
    obtain ⟨c, hc, rfl⟩ := List.mem_map.1 hc'
    refine ⟨c, hc, ?_⟩
    rw [← heq]
    split <;> rfl
  | _ => exact ⟨c', hc', heq⟩

end Apply

/-- **No statement leaves the order.** -/
theorem Stmt.le {o : Op} {r : Ret o} (h : Stmt env o s r s') : s.Le s' := by
  cases o with
  | now => rw [h.now_eq.2]; exact .refl s
  | random =>
    rw [h.random_eq.2]
    exact { State.Le.refl s with draws := Nat.le_succ _ }
  | abort => exact r.elim
  | encode c =>
    rw [h.encode_eq.2]
    exact { State.Le.refl s with minted := List.suffix_cons _ _ }
  | decode token => rw [h.decode_eq.2]; exact .refl s
  | sql q =>
    rcases r with e | res
    · rw [h.sql_error]; exact .refl s
    · obtain ⟨db, hq, rfl⟩ := h.sql_ok
      obtain ⟨hu, hl, -, hr⟩ := apply_ok hq
      refine { State.Le.refl s with
        users := fun u hu' => ?_
        localCredentials := fun c hc => ?_
        localCredentials_old := fun u hu' c' hc' heq => apply_localCredentials_old hq hu' hc' heq
        refreshTokens := fun r hr' => ?_ }
      · rw [hu]; exact Sql.mem_users hu'
      · rw [hl]; exact Sql.mem_localCredentials hc
      · rw [hr]; exact Sql.mem_refreshTokens hr'

end Socle
