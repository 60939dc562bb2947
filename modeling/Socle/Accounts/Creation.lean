import Socle.Demo
import Socle.Freshness

/-!
# Account creation

* `EmailTaken`, `DisplayNameTaken`, `UsernameTaken`;
* `createError`, `createFromOAuthError`: the outcome of the two ways to create an account, as a
  function of the database and the new data;
* `CreateExact`, `CreateFromOAuthExact`: creation fails for a taken email or username only;
* `register_clash`: a free email and a free username do not suffice;
* `Insertable`, `UsernameInsertable`, `create_exact_iff`: when they do.
-/

namespace Socle

open Interaction Prog System Relational

variable {env : Env} {s : State} {db : Db}

/-! ### What is taken -/

def EmailTaken (db : Db) (email : String) : Prop := ∃ u ∈ db.users.rows, u.email = email

def DisplayNameTaken (db : Db) (name : String) : Prop := ∃ u ∈ db.users.rows, u.displayName = name

def UsernameTaken (db : Db) (username : String) : Prop :=
  ∃ c ∈ db.localCredentials.rows, c.username = username

instance (db : Db) (email : String) : Decidable (EmailTaken db email) :=
  inferInstanceAs (Decidable (∃ _ ∈ _, _))

instance (db : Db) (name : String) : Decidable (DisplayNameTaken db name) :=
  inferInstanceAs (Decidable (∃ _ ∈ _, _))

instance (db : Db) (username : String) : Decidable (UsernameTaken db username) :=
  inferInstanceAs (Decidable (∃ _ ∈ _, _))

/-! ### Inserting a user and a credential -/

/-! ### The outcome of an insertion -/

/-- How the insertion of a user with a new identifier fails. -/
def insertUserError (prim : Primitives) (db : Db) (email displayName : String) : Option SqlxError :=
  if hasNul email = true ∨ hasNul displayName = true then some nulError
  else (Db.keyError "users_email_key" (EmailTaken db email) (prim.indexRowSize [.text email])).or
    (Db.keyError "users_username_key" (DisplayNameTaken db displayName)
      (prim.indexRowSize [.text displayName]))

/-- How the insertion of the credential of a new user fails. -/
def insertLocalCredentialError (prim : Primitives) (db : Db) (username : String) : Option SqlxError :=
  if hasNul username = true then some nulError
  else Db.keyError "local_credentials_username_key" (UsernameTaken db username)
    (prim.indexRowSize [.text username])

section Outcome

variable {prim : Primitives} (hx : prim.Exact) (now : OffsetDateTime) {id : Uuid}
  (email displayName username : String) {hash : String}

include hx

/-- Why a user with a new identifier is refused. -/
theorem users_refusal (hfresh : ∀ v ∈ db.users.rows, v.id ≠ id) :
    let u := Db.newUser now id email displayName
    (db.users.refusal (Db.fits prim.indexRowSize) u).map (Db.refusalError prim.indexRowSize u) =
      (Db.keyError "users_email_key" (EmailTaken db email) (prim.indexRowSize [.text email])).or
        (Db.keyError "users_username_key" (DisplayNameTaken db displayName)
          (prim.indexRowSize [.text displayName])) := by
  intro u
  have hid : (db.users.rows.any fun v => decide (v.id = id)) = false := by simpa using hfresh
  have hemail : (db.users.rows.any fun v => decide (v.email = email)) = decide (EmailTaken db email) := by
    rw [Bool.eq_iff_iff, decide_eq_true_iff]
    simp [EmailTaken]
  have hname : (db.users.rows.any fun v => decide (v.displayName = displayName)) =
      decide (DisplayNameTaken db displayName) := by
    rw [Bool.eq_iff_iff, decide_eq_true_iff]
    simp [DisplayNameTaken]
  have hpkey : Db.keyError "users_pkey" false (prim.indexRowSize [.uuid id]) = none :=
    if_pos (hx.uuid_size id)
  rw [Db.refusal_error]
  simp [usersKeys, List.findSome?_cons, Key.Clash, u, Db.newUser, hid, hemail, hname, hpkey]
  cases Db.keyError "users_email_key" (EmailTaken db email) (prim.indexRowSize [.text email]) with
  | some e => rfl
  | none =>
    cases Db.keyError "users_username_key" (DisplayNameTaken db displayName)
      (prim.indexRowSize [.text displayName]) <;> rfl

/-- Why the credential of a user without one is refused. -/
theorem localCredentials_refusal (hash : String) (hfresh : ∀ d ∈ db.localCredentials.rows, d.userId ≠ id) :
    let c := Db.newLocalCredential now id username hash
    (db.localCredentials.refusal (Db.fits prim.indexRowSize) c).map (Db.refusalError prim.indexRowSize c) =
      Db.keyError "local_credentials_username_key" (UsernameTaken db username)
        (prim.indexRowSize [.text username]) := by
  intro c
  have hid : (db.localCredentials.rows.any fun d => decide (d.userId = id)) = false := by
    simpa using hfresh
  have hname : (db.localCredentials.rows.any fun d => decide (d.username = username)) =
      decide (UsernameTaken db username) := by
    rw [Bool.eq_iff_iff, decide_eq_true_iff]
    simp [UsernameTaken]
  have hpkey : Db.keyError "local_credentials_pkey" false (prim.indexRowSize [.uuid id]) = none :=
    if_pos (hx.uuid_size id)
  rw [Db.refusal_error]
  simp [localCredentialsKeys, List.findSome?_cons, Key.Clash, c, Db.newLocalCredential, hid, hname, hpkey]
  cases Db.keyError "local_credentials_username_key" (UsernameTaken db username)
    (prim.indexRowSize [.text username]) <;> rfl

/-- Inserting a user with a new identifier. -/
theorem insertUser_outcome (hfresh : ∀ v ∈ db.users.rows, v.id ≠ id) :
    (∀ e, insertUserError prim db email displayName = some e → bindTexts [email, displayName]
      (db.insertUser prim.indexRowSize (Db.newUser now id email displayName)) = .error e) ∧
    (insertUserError prim db email displayName = none → ∃ db', bindTexts [email, displayName]
      (db.insertUser prim.indexRowSize (Db.newUser now id email displayName)) = .ok db') := by
  have hrefusal := users_refusal hx now email displayName hfresh
  by_cases hnul : hasNul email = true ∨ hasNul displayName = true
  · simp [insertUserError, bindTexts, hnul]
  · have hbind : ∀ x : Except SqlxError Db, bindTexts [email, displayName] x = x := by
      intro x
      simp [bindTexts, hnul]
    rw [insertUserError, if_neg hnul, ← hrefusal, hbind]
    cases hv : db.users.refusal (Db.fits prim.indexRowSize) (Db.newUser now id email displayName) with
    | some r => simp [Db.insertUser_refused hv]
    | none => simpa using Db.insertUser_free hv

/-- Inserting the credential of a user without one. -/
theorem insertLocalCredential_outcome (hfresh : ∀ d ∈ db.localCredentials.rows, d.userId ≠ id)
    (hu : ∃ u ∈ db.users.rows, u.id = id) (hhash : hasNul hash = false) :
    (∀ e, insertLocalCredentialError prim db username = some e → bindTexts [username, hash]
      (db.insertLocalCredential prim.indexRowSize (Db.newLocalCredential now id username hash)) =
        .error e) ∧
    (insertLocalCredentialError prim db username = none → ∃ db', bindTexts [username, hash]
      (db.insertLocalCredential prim.indexRowSize (Db.newLocalCredential now id username hash)) =
        .ok db') := by
  have hrefusal := localCredentials_refusal hx now username hash hfresh
  by_cases hnul : hasNul username = true
  · simp [insertLocalCredentialError, bindTexts, hnul]
  · have hbind : ∀ x : Except SqlxError Db, bindTexts [username, hash] x = x := by
      intro x
      simp [bindTexts, hnul, hhash]
    rw [insertLocalCredentialError, if_neg hnul, ← hrefusal, hbind]
    cases hv : db.localCredentials.refusal (Db.fits prim.indexRowSize)
        (Db.newLocalCredential now id username hash) with
    | some r => simp [Db.insertLocalCredential_refused hv]
    | none => simpa using Db.insertLocalCredential_free hv hu

/-- How the insertion of a new account fails. -/
def insertAccountError (prim : Primitives) (db : Db) (email displayName username : String) :
    Option TxError :=
  match insertUserError prim db email displayName with
  | some e => some (.users e)
  | none => (insertLocalCredentialError prim db username).map .localCredentials

/-- Inserting a new account. -/
theorem insertAccount_outcome (hfresh : ∀ v ∈ db.users.rows, v.id ≠ id) (hhash : hasNul hash = false) :
    (∀ e, insertAccountError prim db email displayName username = some e →
      (Sql.insertAccount id email displayName username hash).apply prim now db = .error e) ∧
    (insertAccountError prim db email displayName username = none → ∃ res,
      (Sql.insertAccount id email displayName username hash).apply prim now db = .ok res) := by
  obtain ⟨herr, hok⟩ := insertUser_outcome hx now email displayName hfresh
  rw [insertAccountError]
  cases hue : insertUserError prim db email displayName with
  | some e =>
    simp only [Sql.apply, herr e hue]
    simp [Except.mapError, Bind.bind, Except.bind]
  | none =>
    obtain ⟨db₁, h₁⟩ := hok hue
    obtain ⟨-, hrows, hlocal, -⟩ := Db.insertUser_ok (bindTexts_ok.1 h₁).2
    have htaken : UsernameTaken db username ↔ UsernameTaken db₁ username := by
      unfold UsernameTaken
      rw [hlocal]
    have hname : insertLocalCredentialError prim db username =
        insertLocalCredentialError prim db₁ username := by
      simp only [insertLocalCredentialError, htaken]
    have hfresh' : ∀ d ∈ db₁.localCredentials.rows, d.userId ≠ id := by
      rw [hlocal]
      intro d hd heq
      obtain ⟨v, hv, hid⟩ := db.localCredentials_user d hd
      exact hfresh v hv (hid.trans heq)
    have hu : ∃ u ∈ db₁.users.rows, u.id = id := by
      rw [hrows]
      exact ⟨_, List.mem_append_right _ List.mem_cons_self, rfl⟩
    obtain ⟨herr', hok'⟩ :=
      insertLocalCredential_outcome hx now username hfresh' hu hhash
    simp only [Sql.apply, h₁]
    rw [hname]
    cases hle : insertLocalCredentialError prim db₁ username with
    | some e => simp [Except.mapError, Bind.bind, Except.bind, herr' e hle]
    | none =>
      obtain ⟨db₂, h₂⟩ := hok' hle
      simp [Except.mapError, Bind.bind, Except.bind, h₂]

end Outcome

/-! ### Creating accounts -/

/-- How `create` fails. -/
def createError (prim : Primitives) (db : Db) (email displayName username : String) : Option AppError :=
  (insertAccountError prim db email displayName username).map UserService.createErr

/-- How `createFromOAuth` fails. -/
def createFromOAuthError (prim : Primitives) (db : Db) (email : String) (displayName : Option String) :
    Option AppError :=
  (insertUserError prim db email (displayName.getD (localPart email))).map fun e =>
    mapConstraintErr e "users_email_key" .emailTaken

section Eval

variable (hx : env.prim.Exact) (hs : Drawn env s)

include hx hs

/-- What `create` returns. -/
theorem eval_create (email displayName username password : String) : ∃ x s',
    (UserService.create env email displayName username password).run.eval (exec env) s = some (x, s') ∧
    (∀ e, createError env.prim s.db email displayName username = some e → x = .error e) ∧
    (createError env.prim s.db email displayName username = none → ∃ a, x = .ok a) := by
  obtain ⟨hash, hhash, hnul⟩ := hx.hash_total password s.draws
  obtain ⟨herr, hok⟩ := insertAccount_outcome hx s.clock email displayName username
    (hs.user_ne hx (Nat.le_add_right s.draws 1)) hnul
  simp only [UserService.create, hashPassword, uuidNowV7, Prog.eval_bindE, eval_performE, exec,
    Option.map_some, Option.bind_some, hhash, eval_pureE, eval_query, createError]
  cases hcase : insertAccountError env.prim s.db email displayName username with
  | some e =>
    rw [herr e hcase]
    exact ⟨_, _, rfl, by simp, by simp⟩
  | none =>
    obtain ⟨⟨res, db⟩, hres⟩ := hok hcase
    rw [hres]
    exact ⟨_, _, rfl, by simp, fun _ => ⟨_, rfl⟩⟩

/-- What `createFromOAuth` returns. -/
theorem eval_createFromOAuth (email : String) (displayName : Option String) : ∃ x s',
    (UserService.createFromOAuth env email displayName).run.eval (exec env) s = some (x, s') ∧
    (∀ e, createFromOAuthError env.prim s.db email displayName = some e → x = .error e) ∧
    (createFromOAuthError env.prim s.db email displayName = none → ∃ a, x = .ok a) := by
  obtain ⟨herr, hok⟩ := insertUser_outcome hx s.clock email
    (displayName.getD (localPart email)) (hs.user_ne hx (Nat.le_refl s.draws))
  simp only [UserService.createFromOAuth, uuidNowV7, Prog.eval_bindE, eval_performE, exec,
    Option.map_some, Option.bind_some, eval_pureE, eval_query, createFromOAuthError, Sql.apply]
  cases hcase : insertUserError env.prim s.db email (displayName.getD (localPart email)) with
  | some e =>
    rw [herr e hcase]
    exact ⟨_, _, rfl, by simp, by simp⟩
  | none =>
    obtain ⟨db, hres⟩ := hok hcase
    rw [hres]
    exact ⟨_, _, rfl, by simp, fun _ => ⟨_, rfl⟩⟩

end Eval

/-! ### Creation fails for taken data only -/

/-- `create` reports a taken email address, then a taken username, and succeeds otherwise. -/
def CreateExact (env : Env) (s : State) (email displayName username password : String) : Prop :=
  ∃ x s', (UserService.create env email displayName username password).run.eval (exec env) s =
      some (x, s') ∧
    (x = .error .emailTaken ↔ EmailTaken s.db email) ∧
    (¬ EmailTaken s.db email → (x = .error .usernameTaken ↔ UsernameTaken s.db username)) ∧
    (¬ EmailTaken s.db email → ¬ UsernameTaken s.db username → ∃ a, x = .ok a)

/-- `createFromOAuth` reports a taken email address, and succeeds otherwise. -/
def CreateFromOAuthExact (env : Env) (s : State) (email : String) (displayName : Option String) : Prop :=
  ∃ x s', (UserService.createFromOAuth env email displayName).run.eval (exec env) s = some (x, s') ∧
    (x = .error .emailTaken ↔ EmailTaken s.db email) ∧ (¬ EmailTaken s.db email → ∃ a, x = .ok a)

/-- No text has a NUL character, and a free email address is short enough for its index, with a display
name that is free and short enough, too. -/
def Insertable (prim : Primitives) (db : Db) (email displayName : String) : Prop :=
  hasNul email = false ∧ hasNul displayName = false ∧
    (EmailTaken db email ∨
      prim.Indexable email ∧ ¬ DisplayNameTaken db displayName ∧ prim.Indexable displayName)

instance (prim : Primitives) (db : Db) (email displayName : String) :
    Decidable (Insertable prim db email displayName) :=
  inferInstanceAs (Decidable (_ ∧ _))

/-- The username of a new account has no NUL character, and it is taken or short enough for its index. -/
def UsernameInsertable (prim : Primitives) (db : Db) (username : String) : Prop :=
  hasNul username = false ∧ (UsernameTaken db username ∨ prim.Indexable username)

instance (prim : Primitives) (db : Db) (username : String) :
    Decidable (UsernameInsertable prim db username) :=
  inferInstanceAs (Decidable (_ ∧ _))

theorem mapConstraintErr_nul : mapConstraintErr nulError "users_email_key" .emailTaken =
    .database nulError := by decide +kernel

theorem mapConstraintErr_email :
    mapConstraintErr (uniqueViolation "users_email_key") "users_email_key" .emailTaken =
      .emailTaken := by decide +kernel

/-- A clash of display names is no taken email address. -/
theorem mapConstraintErr_displayName :
    mapConstraintErr (uniqueViolation "users_username_key") "users_email_key" .emailTaken =
      .database (uniqueViolation "users_username_key") := by decide +kernel

/-- A text that is too long for an index is not taken, even though the message names the index. -/
theorem mapConstraintErr_indexRow (index : String) (size : ℕ) (constraint : String) (mapped : AppError) :
    mapConstraintErr (indexRowError index size) constraint mapped = .database (indexRowError index size) := by
  simp [mapConstraintErr, indexRowError]

theorem createErr_nul : UserService.createErr (.localCredentials nulError) = .database nulError := by
  decide +kernel

theorem createErr_username :
    UserService.createErr (.localCredentials (uniqueViolation "local_credentials_username_key")) =
      .usernameTaken := by decide +kernel

section Exact

variable (hx : env.prim.Exact) (hs : Drawn env s)

include hx hs

theorem create_iff (email displayName username password : String) :
    CreateExact env s email displayName username password ↔
      Insertable env.prim s.db email displayName ∧
        (EmailTaken s.db email ∨ UsernameInsertable env.prim s.db username) := by
  obtain ⟨x, s', heval, herr, hok⟩ := eval_create hx hs email displayName username password
  have hdet : CreateExact env s email displayName username password ↔
      (x = .error .emailTaken ↔ EmailTaken s.db email) ∧
      (¬ EmailTaken s.db email → (x = .error .usernameTaken ↔ UsernameTaken s.db username)) ∧
      (¬ EmailTaken s.db email → ¬ UsernameTaken s.db username → ∃ a, x = .ok a) := by
    refine ⟨?_, fun h => ⟨x, s', heval, h⟩⟩
    rintro ⟨y, t, hy, h⟩
    cases heval.symm.trans hy
    exact h
  rw [hdet, Insertable, UsernameInsertable]
  simp only [Primitives.Indexable]
  simp only [createError, insertAccountError, insertUserError, insertLocalCredentialError] at herr hok
  -- The checks in the order in which they are made.
  by_cases hnul : hasNul email = true ∨ hasNul displayName = true
  · rw [herr (.database nulError) (by simp [hnul, UserService.createErr, mapConstraintErr_nul])]
    rcases hnul with hnul | hnul <;> simp [hnul] <;> tauto
  simp only [not_or, Bool.not_eq_true] at hnul
  by_cases he : EmailTaken s.db email
  · rw [herr .emailTaken (by simp [hnul, he, Db.keyError, UserService.createErr, mapConstraintErr_email])]
    simp [hnul, he]
  by_cases hle : env.prim.indexRowSize [.text email] ≤ maxIndexRow
  swap
  · rw [herr (.database (indexRowError "users_email_key" (env.prim.indexRowSize [.text email])))
      (by simp [hnul, he, Db.keyError, hle, UserService.createErr, mapConstraintErr_indexRow])]
    simp [he, hle]
  by_cases hd : DisplayNameTaken s.db displayName
  · rw [herr (.database (uniqueViolation "users_username_key"))
      (by simp [hnul, he, hd, Db.keyError, hle, UserService.createErr, mapConstraintErr_displayName])]
    simp [he, hd]
  by_cases hld : env.prim.indexRowSize [.text displayName] ≤ maxIndexRow
  swap
  · rw [herr (.database (indexRowError "users_username_key" (env.prim.indexRowSize [.text displayName])))
      (by simp [hnul, he, hd, Db.keyError, hle, hld, UserService.createErr,
        mapConstraintErr_indexRow])]
    simp [he, hld]
  have hkeys : (Db.keyError "users_email_key" (EmailTaken s.db email)
      (env.prim.indexRowSize [.text email])).or (Db.keyError "users_username_key"
        (DisplayNameTaken s.db displayName) (env.prim.indexRowSize [.text displayName])) = none := by
    simp [he, hd, Db.keyError, hle, hld]
  rw [hkeys] at herr hok
  by_cases hnul' : hasNul username = true
  · rw [herr (.database nulError) (by simp [hnul, hnul', createErr_nul])]
    simp [he, hnul']
  by_cases hu : UsernameTaken s.db username
  · rw [herr .usernameTaken (by simp [hnul, hnul', hu, Db.keyError, createErr_username])]
    simp [hnul, he, hle, hd, hld, hnul', hu]
  by_cases hlu : env.prim.indexRowSize [.text username] ≤ maxIndexRow
  · obtain ⟨a, rfl⟩ := hok (by simp [hnul, hnul', hu, Db.keyError, hlu])
    simp [hnul, he, hle, hd, hld, hnul', hu, hlu]
  · rw [herr (.database (indexRowError "local_credentials_username_key"
        (env.prim.indexRowSize [.text username])))
      (by simp [hnul, hnul', hu, Db.keyError, hlu, UserService.createErr, mapConstraintErr_indexRow])]
    simp [he, hu, hlu]

theorem createFromOAuth_iff (email : String) (displayName : Option String) :
    CreateFromOAuthExact env s email displayName ↔
      Insertable env.prim s.db email (displayName.getD (localPart email)) := by
  obtain ⟨x, s', heval, herr, hok⟩ := eval_createFromOAuth hx hs email displayName
  have hdet : CreateFromOAuthExact env s email displayName ↔
      (x = .error .emailTaken ↔ EmailTaken s.db email) ∧
      (¬ EmailTaken s.db email → ∃ a, x = .ok a) := by
    refine ⟨?_, fun h => ⟨x, s', heval, h⟩⟩
    rintro ⟨y, t, hy, h⟩
    cases heval.symm.trans hy
    exact h
  rw [hdet, Insertable]
  simp only [Primitives.Indexable]
  simp only [createFromOAuthError, insertUserError] at herr hok
  generalize displayName.getD (localPart email) = name at herr hok ⊢
  by_cases hnul : hasNul email = true ∨ hasNul name = true
  · rw [herr (.database nulError) (by simp [hnul, mapConstraintErr_nul])]
    rcases hnul with hnul | hnul <;> simp [hnul]
  simp only [not_or, Bool.not_eq_true] at hnul
  by_cases he : EmailTaken s.db email
  · rw [herr .emailTaken (by simp [hnul, he, Db.keyError, mapConstraintErr_email])]
    simp [hnul, he]
  by_cases hle : env.prim.indexRowSize [.text email] ≤ maxIndexRow
  swap
  · rw [herr (.database (indexRowError "users_email_key" (env.prim.indexRowSize [.text email])))
      (by simp [hnul, he, Db.keyError, hle, mapConstraintErr_indexRow])]
    simp [he, hle]
  by_cases hd : DisplayNameTaken s.db name
  · rw [herr (.database (uniqueViolation "users_username_key"))
      (by simp [hnul, he, hd, Db.keyError, hle, mapConstraintErr_displayName])]
    simp [he, hd]
  by_cases hld : env.prim.indexRowSize [.text name] ≤ maxIndexRow
  · obtain ⟨a, rfl⟩ := hok (by simp [hnul, he, hd, Db.keyError, hle, hld])
    simp [hnul, he, hle, hd, hld]
  · rw [herr (.database (indexRowError "users_username_key" (env.prim.indexRowSize [.text name])))
      (by simp [hnul, he, hd, Db.keyError, hle, hld, mapConstraintErr_indexRow])]
    simp [he, hld]

end Exact

/-- **When creation is exact.**  In every reachable state, `create` and `createFromOAuth` fail for
taken data only, exactly if no text has a NUL character, and the address is taken or it is short enough
for its index, with a display name that is not taken and short enough, too; and `create` if, moreover, the
username has no NUL character and is taken or short enough. -/
theorem create_exact_iff (hx : env.prim.Exact) {clock : ℕ}
    {c : Pool Op Ret Request (Except AppError Response) State}
    (hc : (service env).Reachable (.fresh clock) c) (email displayName username password : String)
    (profileName : Option String) :
    (CreateExact env c.state email displayName username password ↔
      Insertable env.prim c.state.db email displayName ∧
        (EmailTaken c.state.db email ∨ UsernameInsertable env.prim c.state.db username)) ∧
    (CreateFromOAuthExact env c.state email profileName ↔
      Insertable env.prim c.state.db email (profileName.getD (localPart email))) := by
  have hs := service_drawn (drawn_fresh env clock) hc
  exact ⟨create_iff hx hs email displayName username password,
    createFromOAuth_iff hx hs email profileName⟩

/-- After Alice, Bob can register. -/
theorem create_exact_of_bob :
    ∃ c, (service demo).Reachable (.fresh 0) c ∧ EmailTaken c.state.db "alice@example.com" ∧
      CreateExact demo c.state "bob@example.com" "bob" "bob" "password" ∧
      CreateFromOAuthExact demo c.state "bob@example.com" none := by
  obtain ⟨c, hc, hobs⟩ := exists_run demo (.fresh 0)
    ([.start registerAlice] ++ goes 0 10)
    (fun c => (decide (EmailTaken c.state.db "alice@example.com"),
      decide (Insertable demo.prim c.state.db "bob@example.com" "bob"),
      decide (Insertable demo.prim c.state.db "bob@example.com" (localPart "bob@example.com"))))
    (true, true, true) (by decide +kernel)
  simp only [Prod.mk.injEq, decide_eq_true_eq] at hobs
  have hiff := create_exact_iff Primitives.ideal_exact hc "bob@example.com" "bob" "bob" "password" none
  exact ⟨c, hc, hobs.1, hiff.1.2 ⟨hobs.2.1, Or.inr ⟨by decide +kernel, Or.inr (Primitives.ideal_fits _)⟩⟩, hiff.2.2 hobs.2.2⟩

/-- After Alice, nobody can register with another address that begins with `alice@`, or log in for the
first time with one. -/
theorem register_clash :
    ∃ c, (service demo).Reachable (.fresh 0) c ∧ ¬ EmailTaken c.state.db "alice@example.org" ∧
      ¬ UsernameTaken c.state.db "alice2" ∧
      ¬ CreateExact demo c.state "alice@example.org" (localPart "alice@example.org") "alice2" "password" ∧
      ¬ CreateFromOAuthExact demo c.state "alice@example.org" none := by
  obtain ⟨c, hc, hobs⟩ := exists_run demo (.fresh 0)
    ([.start registerAlice] ++ goes 0 10)
    (fun c => (decide (EmailTaken c.state.db "alice@example.org"),
      decide (UsernameTaken c.state.db "alice2"),
      decide (Insertable demo.prim c.state.db "alice@example.org" (localPart "alice@example.org"))))
    (false, false, false) (by decide +kernel)
  simp only [Prod.mk.injEq, decide_eq_false_iff_not] at hobs
  have hs := service_drawn (drawn_fresh demo 0) hc
  refine ⟨c, hc, hobs.1, hobs.2.1, fun h => ?_, fun h => ?_⟩
  · exact hobs.2.2 ((create_iff Primitives.ideal_exact hs _ _ _ _).1 h).1
  · exact hobs.2.2 ((createFromOAuth_iff Primitives.ideal_exact hs _ _).1 h)

end Socle
