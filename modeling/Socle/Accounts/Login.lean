import Socle.Accounts.Passwords
import Socle.Interaction.Reading

/-!
# Failed logins

A login reads the user, then whether the account is active, and only then the password.

* `Reads`: what statements respond in any state with a given database;
* `loginFailure`: what a login returns whose password is not accepted;
* `login_fails`: it returns this and changes nothing;
* `failed_login`: two databases are told apart by whether the account of the address is deactivated, and by
  nothing else;
* `disabled_revealed`: by that they are.
-/

namespace Socle

open Interaction Prog Relational System

variable {env : Env} {email password : String} {s s' : State} {db : Db}

/-! ### Reading a database -/

/-- In every state with the database, the statement is executed with this response and changes nothing. -/
def Reads (env : Env) (db : Db) (o : Op) (r : Ret o) : Prop :=
  ∀ s, s.db = db → exec env o s = some (r, s)

/-- A query that is applied to the database at any time with the same result. -/
theorem follows_query {q : Sql} {f : q.Error → AppError} {res : q.Result}
    (h : ∀ now, q.apply env.prim now db = .ok (res, db)) : Follows (Reads env db) (query q f).run (.ok res) := by
  have hr : Reads env db (.sql q) (.ok res) := by
    rintro s rfl
    simp only [exec, h]
  exact .step hr .done

/-- A query that fails. -/
theorem follows_query_error {q : Sql} {f : q.Error → AppError} {e : q.Error}
    (h : ∀ now, q.apply env.prim now db = .error e) : Follows (Reads env db) (query q f).run (.error (f e)) := by
  have hr : Reads env db (.sql q) (.error e) := by
    rintro s rfl
    simp only [exec, h]
  exact .step hr .done

/-! ### Logins that fail -/

/-- The account of the address is deactivated. -/
def Disabled (email : String) (db : Db) : Prop :=
  ∃ u ∈ db.users.rows, u.email = email ∧ u.isActive = false

instance : Decidable (Disabled email db) := inferInstanceAs (Decidable (∃ _ ∈ _, _))

/-- The password does not match the local credential of the address, if there is one. -/
def WrongPassword (env : Env) (email password : String) (db : Db) : Prop :=
  ∀ u ∈ db.users.rows, u.email = email → ∀ c ∈ db.localCredentials.rows, c.userId = u.id →
    env.prim.argon2Verify password c.passwordHash ≠ some true

instance : Decidable (WrongPassword env email password db) :=
  inferInstanceAs (Decidable (∀ _ ∈ _, _ → ∀ _ ∈ _, _ → _))

/-- What has been hashed can be checked. -/
def Primitives.Checks (prim : Primitives) : Prop :=
  ∀ p q salt h, prim.argon2Hash p salt = some h → prim.argon2Verify q h ≠ none

theorem Primitives.Exact.checks {prim : Primitives} (hx : prim.Exact) : prim.Checks := by
  intro p q salt h hhash
  rw [hx.verify_hash p q salt h hhash]
  simp

/-- What a login with a password that does not match returns. -/
def loginFailure (email : String) (db : Db) : AppError :=
  if hasNul email then .database nulError
  else if Disabled email db then .accountDisabled
  else .invalidCredentials

/-- A login returns the error, and nothing else, and changes no table. -/
structure FailsWith (env : Env) (email password : String) (s : State) (e : AppError) : Prop where
  returns : ∃ s', Runs (Timed (Executed env)) (AuthService.login env email password).run s (.error e) s'
  only : ∀ x s', Runs (Timed (Executed env)) (AuthService.login env email password).run s x s' →
    x = .error e ∧ s'.db = s.db

/-- **What a login does whose password does not match.** -/
theorem login_follows (hx : env.prim.Checks) (hs : AllHashed env s)
    (hr : WrongPassword env email password s.db) :
    Follows (Reads env s.db) (AuthService.login env email password).run
      (.error (loginFailure email s.db)) := by
  unfold AuthService.login loginFailure
  by_cases hnul : hasNul email
  · rw [if_pos hnul]
    refine Follows.bindE_error (follows_query_error fun now => ?_)
    simp [Sql.apply, bindTexts, hnul]
  · rw [if_neg hnul]
    have hselect : ∀ now, (Sql.selectUserByEmail email).apply env.prim now s.db =
        .ok (s.db.findUserByEmail email, s.db) := by
      intro now
      simp [Sql.apply, bindTexts, hnul]
    refine Follows.bindE (follows_query hselect) ?_
    cases hfind : s.db.findUserByEmail email with
    | none =>
      have hnobody : ¬ Disabled email s.db := by
        rintro ⟨u, hu, hemail, -⟩
        exact Db.findUserByEmail_none.1 hfind u hu hemail
      rw [if_neg hnobody]
      exact follows_pure
    | some u =>
      obtain ⟨hu, hemail⟩ := Db.findUserByEmail_some hfind
      dsimp only
      by_cases hactive : u.isActive = true
      · have henabled : ¬ Disabled email s.db := by
          rintro ⟨v, hv, hemail', hinactive⟩
          rw [Db.user_unique_email hv hu (hemail'.trans hemail.symm), hactive] at hinactive
          cases hinactive
        rw [if_neg henabled, if_pos hactive]
        refine Follows.bindE (follows_query fun now => rfl) ?_
        cases hcredential : s.db.findLocalCredential u.id with
        | none => exact follows_pure
        | some c =>
          obtain ⟨hc, hid⟩ := Db.findLocalCredential_some hcredential
          obtain ⟨p, salt, hhash⟩ := hs c hc
          have hwrong : env.prim.argon2Verify password c.passwordHash = some false := by
            have hne := hr u hu hemail c hc hid
            cases hverify : env.prim.argon2Verify password c.passwordHash with
            | none => exact absurd hverify (hx p password salt _ hhash)
            | some b =>
              rw [hverify] at hne
              simpa using hne
          have hverified : (verifyPassword env password c.passwordHash : App Bool) = pure false := by
            rw [verifyPassword, hwrong]
          dsimp only
          rw [hverified, pure_bind]
          exact follows_pure
      · have hdisabled : Disabled email s.db := ⟨u, hu, hemail, eq_false_of_ne_true hactive⟩
        rw [if_pos hdisabled, if_neg hactive]
        exact follows_pure

/-- **A login whose password does not match** returns an error and changes nothing. -/
theorem login_fails (hx : env.prim.Checks) (hs : AllHashed env s)
    (hr : WrongPassword env email password s.db) :
    FailsWith env email password s (loginFailure email s.db) := by
  have hfollows := login_follows hx hs hr
  constructor
  · have hsem : ∀ {o r s₁}, Reads env s.db o r → s₁.db = s.db →
        ∃ s₂, Timed (Executed env) o s₁ r s₂ ∧ s₂.db = s.db :=
      fun {o r s₁} hread hdb => ⟨s₁, ⟨s₁.clock, le_rfl, hread s₁ hdb⟩, hdb⟩
    obtain ⟨s', hrun, -⟩ := hfollows.runs @hsem rfl
    exact ⟨s', hrun⟩
  · have hsem : ∀ {o r r' s₁ s₂}, Reads env s.db o r → s₁.db = s.db →
        Timed (Executed env) o s₁ r' s₂ → r' = r ∧ s₂.db = s.db := by
      rintro o r r' s₁ s₂ hread hdb ⟨t, -, hexec⟩
      rw [Executed, hread { s₁ with clock := t } hdb] at hexec
      cases hexec
      exact ⟨rfl, hdb⟩
    exact fun x s' hrun => hfollows.unique @hsem rfl hrun

theorem FailsWith.eq {e e' : AppError} (h : FailsWith env email password s e)
    (h' : FailsWith env email password s e') : e = e' := by
  obtain ⟨s', hrun⟩ := h.returns
  simpa using (h'.only _ s' hrun).1

/-! ### Two databases -/

/-- No address has a NUL character. -/
def ValidEmails (s : State) : Prop := ∀ u ∈ s.db.users.rows, hasNul u.email = false

theorem ValidEmails.stmt {o : Op} {r : Ret o} (hs : ValidEmails s) (h : Stmt env o s r s') :
    ValidEmails s' := by
  rcases h.db_cases with hdb | ⟨sql, res, rfl, hq⟩
  · unfold ValidEmails
    rw [hdb]
    exact hs
  · intro u hu
    rw [(apply_ok hq).1] at hu
    cases sql with
    | insertAccount id email name username hash =>
      obtain ⟨db₁, h₁, -⟩ := bind_eq_ok hq
      have hnul := (bindTexts_ok.1 (mapError_ok.1 h₁)).1
      rcases List.mem_append.1 hu with hu | hu
      · exact hs u hu
      · rw [List.mem_singleton.1 hu]
        simp only [List.any_cons, Bool.or_eq_false_iff] at hnul
        exact hnul.1
    | insertUser id email name =>
      obtain ⟨db₁, h₁, -⟩ := bind_eq_ok hq
      have hnul := (bindTexts_ok.1 h₁).1
      rcases List.mem_append.1 hu with hu | hu
      · exact hs u hu
      · rw [List.mem_singleton.1 hu]
        simp only [List.any_cons, Bool.or_eq_false_iff] at hnul
        exact hnul.1
    | updateRole role id =>
      obtain ⟨v, hv, rfl⟩ := List.mem_map.1 hu
      split
      · exact hs v hv
      · exact hs v hv
    | deactivateUser id =>
      obtain ⟨v, hv, rfl⟩ := List.mem_map.1 hu
      split
      · exact hs v hv
      · exact hs v hv
    | _ => exact hs u hu

section Reachable

variable {clock clock₁ clock₂ : ℕ} {c c₁ c₂ : Pool Op Ret Request (Except AppError Response) State}

theorem service_validEmails (hc : (service env).Reachable (.fresh clock) c) : ValidEmails c.state := by
  refine (hc.always ?_ ?_ ?_).1
  · simp [ValidEmails, State.fresh, Db.empty]
  · rintro s s' ⟨t, -, rfl⟩ hs
    exact hs
  · intro h i o r s s' he hs
    exact hs.stmt (service_stmt hc he.mem)

/-- What a failed login returns tells whether the account is deactivated. -/
theorem loginFailure_eq_accountDisabled (hs : ValidEmails s) :
    loginFailure email s.db = .accountDisabled ↔ Disabled email s.db := by
  unfold loginFailure
  by_cases hnul : hasNul email
  · rw [if_pos hnul]
    refine iff_of_false (by simp) ?_
    rintro ⟨u, hu, rfl, -⟩
    rw [hs u hu] at hnul
    cases hnul
  · rw [if_neg hnul]
    by_cases hdisabled : Disabled email s.db
    · simp [hdisabled]
    · simp [hdisabled]

/-- **What a failed login reveals**: in any two reachable states it returns what `loginFailure` says and
changes no table, and this is the same if and only if the account of the address is deactivated in both
states or in none. -/
theorem failed_login (hx : env.prim.Checks) (hc₁ : (service env).Reachable (.fresh clock₁) c₁)
    (hc₂ : (service env).Reachable (.fresh clock₂) c₂)
    (hr₁ : WrongPassword env email password c₁.state.db)
    (hr₂ : WrongPassword env email password c₂.state.db) :
    FailsWith env email password c₁.state (loginFailure email c₁.state.db) ∧
      FailsWith env email password c₂.state (loginFailure email c₂.state.db) ∧
      (loginFailure email c₁.state.db = loginFailure email c₂.state.db ↔
        (Disabled email c₁.state.db ↔ Disabled email c₂.state.db)) := by
  refine ⟨login_fails hx (service_hashed (allHashed_fresh env clock₁) hc₁) hr₁,
    login_fails hx (service_hashed (allHashed_fresh env clock₂) hc₂) hr₂, fun h => ?_, fun h => ?_⟩
  · rw [← loginFailure_eq_accountDisabled (service_validEmails hc₁), h,
      loginFailure_eq_accountDisabled (service_validEmails hc₂)]
  · simp only [loginFailure, h]

end Reachable

/-! ### An account that is deactivated -/

/-- The state after Alice has deactivated her account. -/
def deactivated : State :=
  (((handle demo (.deactivateAccount (some aliceAuthorization))).run.eval (exec demo) registered).map
    Prod.snd).getD registered

theorem deactivated_reachable : ∃ c, (service demo).Reachable (.fresh 0) c ∧ c.state = deactivated := by
  have heval : ((handle demo (.deactivateAccount (some aliceAuthorization))).run.eval (exec demo)
      registered).isSome = true := by
    decide +kernel
  obtain ⟨⟨x, s⟩, hx⟩ := Option.isSome_iff_exists.1 heval
  obtain ⟨c₀, hc₀, hs₀⟩ := registered_reachable
  rw [← hs₀] at hx
  obtain ⟨c, hc, hs⟩ := reachable_of_eval hc₀ hx
  refine ⟨c, hc, hs.trans ?_⟩
  rw [deactivated, ← hs₀, hx]
  rfl

theorem demo_checks : demo.prim.Checks := Primitives.ideal_exact.checks

/-- Somebody tries a password for Alice's account, before and after she has deactivated it. -/
theorem wrong_password : WrongPassword demo "alice@example.com" "sesame" registered.db ∧
    WrongPassword demo "alice@example.com" "sesame" deactivated.db := by
  decide +kernel

theorem failed_login_of_alice : ∃ c₁ c₂, (service demo).Reachable (.fresh 0) c₁ ∧
    (service demo).Reachable (.fresh 0) c₂ ∧
    FailsWith demo "alice@example.com" "sesame" c₁.state
      (loginFailure "alice@example.com" c₁.state.db) ∧
    FailsWith demo "alice@example.com" "sesame" c₂.state
      (loginFailure "alice@example.com" c₂.state.db) ∧
    (loginFailure "alice@example.com" c₁.state.db = loginFailure "alice@example.com" c₂.state.db ↔
      (Disabled "alice@example.com" c₁.state.db ↔ Disabled "alice@example.com" c₂.state.db)) := by
  obtain ⟨c₁, hc₁, h₁⟩ := registered_reachable
  obtain ⟨c₂, hc₂, h₂⟩ := deactivated_reachable
  exact ⟨c₁, c₂, hc₁, hc₂, failed_login demo_checks hc₁ hc₂ (by rw [h₁]; exact wrong_password.1)
    (by rw [h₂]; exact wrong_password.2)⟩

/-- **A deactivated account is revealed**: the same login, with a password that does not match, fails
differently after the account has been deactivated. -/
theorem disabled_revealed : ¬ ∀ c₁ c₂, (service demo).Reachable (.fresh 0) c₁ →
    (service demo).Reachable (.fresh 0) c₂ →
    WrongPassword demo "alice@example.com" "sesame" c₁.state.db →
    WrongPassword demo "alice@example.com" "sesame" c₂.state.db →
    ∃ e, FailsWith demo "alice@example.com" "sesame" c₁.state e ∧
      FailsWith demo "alice@example.com" "sesame" c₂.state e := by
  intro hclaim
  obtain ⟨c₁, hc₁, h₁⟩ := registered_reachable
  obtain ⟨c₂, hc₂, h₂⟩ := deactivated_reachable
  have hr₁ : WrongPassword demo "alice@example.com" "sesame" c₁.state.db := by
    rw [h₁]
    exact wrong_password.1
  have hr₂ : WrongPassword demo "alice@example.com" "sesame" c₂.state.db := by
    rw [h₂]
    exact wrong_password.2
  obtain ⟨e, hfails₁, hfails₂⟩ := hclaim c₁ c₂ hc₁ hc₂ hr₁ hr₂
  have hactive : e = .invalidCredentials := by
    rw [hfails₁.eq (login_fails demo_checks (service_hashed (allHashed_fresh demo 0) hc₁) hr₁), h₁]
    decide +kernel
  have hinactive : e = .accountDisabled := by
    rw [hfails₂.eq (login_fails demo_checks (service_hashed (allHashed_fresh demo 0) hc₂) hr₂), h₂]
    decide +kernel
  rw [hactive] at hinactive
  cases hinactive

end Socle
