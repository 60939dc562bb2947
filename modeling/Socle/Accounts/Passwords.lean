import Socle.Accounts.Policy
import Socle.Demo
import Socle.Interaction.Linearization
import Socle.Tokens.Effects

/-!
# Concurrent password changes

A password change reads the stored hash, checks the current password against it, and then overwrites
whatever is stored.

* `service_hashed`: the stored hashes are hashes of passwords;
* `attempt`: what a password change does to the password in force, as a function;
* `alone_attempt`, `exists_alone`: the code, executed on its own, does the same;
* `passwordChanges`: any number of overlapping password changes of one user;
* `changes_linearizable`: where the check still holds when the password is overwritten, they are as if
  one came after the other;
* `changed_twice`: otherwise two of them may succeed.
-/

namespace Socle

open Interaction Prog System

variable {env : Env} {s s' : State} {u : Uuid} {p p' : String}

/-! ### Stored hashes -/

/-- Every stored password hash is one. -/
def AllHashed (env : Env) (s : State) : Prop :=
  ∀ c ∈ s.db.localCredentials.rows, ∃ p salt, env.prim.argon2Hash p salt = some c.passwordHash

/-- **Step lemma.**  A statement that stores hashes of passwords only keeps this. -/
theorem AllHashed.stmt {o : Op} {r : Ret o} {q : Request} {log : Log Op Ret} (hs : AllHashed env s)
    (h : Stmt env o s r s') (ho : o.Hashes env q log) : AllHashed env s' := by
  rcases h.db_cases with hdb | ⟨sql, res, rfl, hq⟩
  · intro c hc
    rw [hdb] at hc
    exact hs c hc
  · intro c hc
    rw [(apply_ok hq).2.1] at hc
    cases sql with
    | insertAccount id email name username hash =>
      rcases List.mem_append.1 hc with hc | hc
      · exact hs c hc
      · rw [List.mem_singleton.1 hc]
        obtain ⟨_, password, salt, _, _, hhash⟩ := ho
        exact ⟨password, salt, hhash⟩
    | updatePasswordHash hash id =>
      obtain ⟨c₀, hc₀, rfl⟩ := List.mem_map.1 hc
      split
      · obtain ⟨_, _, new, salt, _, hhash, _⟩ := ho
        exact ⟨new, salt, hhash⟩
      · exact hs c₀ hc₀
    | _ => exact hs c hc

/-- The service stores hashes of passwords only. -/
theorem service_hashed {s₀ : State} (hs₀ : AllHashed env s₀)
    {c : Pool Op Ret Request (Except AppError Response) State} (hc : (service env).Reachable s₀ c) :
    AllHashed env c.state := by
  refine (hc.always hs₀ ?_ ?_).1
  · rintro s s' ⟨t, -, rfl⟩ hs
    exact hs
  · intro h i o r s s' he hs
    obtain ⟨q, -, ho⟩ := hc.at_stmt (handle_hashes env) he
    exact hs.stmt (service_stmt hc he.mem) ho

theorem allHashed_fresh (env : Env) (clock : ℕ) : AllHashed env (.fresh clock) := by
  simp [AllHashed, State.fresh, Db.empty]

/-! ### One password change -/

/-- The password `p` is accepted for the user. -/
def InForce (env : Env) (u : Uuid) (s : State) (p : String) : Prop :=
  ∃ c ∈ s.db.localCredentials.rows, c.userId = u ∧ env.prim.argon2Verify p c.passwordHash = some true

/-- The user has a local credential with a hash of `p`. -/
def HasPassword (env : Env) (u : Uuid) (s : State) (p : String) : Prop :=
  ∃ c ∈ s.db.localCredentials.rows, c.userId = u ∧
    ∃ salt, env.prim.argon2Hash p salt = some c.passwordHash

theorem HasPassword.of_db (h : HasPassword env u s p) (hdb : s'.db = s.db) : HasPassword env u s' p := by
  unfold HasPassword
  rw [hdb]
  exact h

theorem HasPassword.inForce_iff (hx : env.prim.Exact) (h : HasPassword env u s p) :
    InForce env u s p' ↔ p' = p := by
  obtain ⟨c, hc, hu, salt, hhash⟩ := h
  constructor
  · rintro ⟨c', hc', hu', hverify⟩
    rw [Db.localCredential_unique hc' hc (hu'.trans hu.symm), hx.verify_hash _ _ _ _ hhash] at hverify
    simpa using hverify
  · rintro rfl
    exact ⟨c, hc, hu, by rw [hx.verify_hash _ _ _ _ hhash]; simp⟩

/-- The parameters of a password change. -/
structure PasswordChange where
  current : String
  new : String
  deriving DecidableEq

/-- The result of a password change where `p` is in force, and the password in force afterwards. -/
def attempt (p : String) (q : PasswordChange) : Except AppError Unit × String :=
  if q.current = p then (.ok (), q.new) else (.error .invalidCredentials, p)

/-- The same as a relation. -/
def Attempts (q : PasswordChange) (x : Except AppError Unit) (p p' : String) : Prop :=
  attempt p q = (x, p')

/-- A password change that is executed on its own. -/
def Alone (env : Env) (u : Uuid) (q : PasswordChange) (x : Except AppError Unit) (s s' : State) : Prop :=
  Runs (Timed (Executed env)) (UserService.changePassword env u q.current q.new).run s x s'

/-- What a password change asks for. -/
inductive ChangeAsks (env : Env) (u : Uuid) (q : PasswordChange) : Log Op Ret → Op → Prop
  | select : ChangeAsks env u q [] (.sql (.selectLocalCredential u))
  | random {c : LocalCredential} :
      ChangeAsks env u q [⟨.sql (.selectLocalCredential u), .ok (some c)⟩] .random
  | update {c : LocalCredential} {salt : ℕ} {hash : String}
      (hhash : env.prim.argon2Hash q.new salt = some hash) :
      ChangeAsks env u q [⟨.random, salt⟩, ⟨.sql (.selectLocalCredential u), .ok (some c)⟩]
        (.sql (.updatePasswordHash hash u))

/-- What a password change returns. -/
inductive ChangeReturns (env : Env) (u : Uuid) (q : PasswordChange) :
    Log Op Ret → Except AppError Unit → Prop
  | missing : ChangeReturns env u q [⟨.sql (.selectLocalCredential u), .ok none⟩] (.error .userNotFound)
  | unread {e : SqlxError} :
      ChangeReturns env u q [⟨.sql (.selectLocalCredential u), .error e⟩] (.error (.database e))
  | unparsed {c : LocalCredential} (hverify : env.prim.argon2Verify q.current c.passwordHash = none) :
      ChangeReturns env u q [⟨.sql (.selectLocalCredential u), .ok (some c)⟩] (.error .hashing)
  | refused {c : LocalCredential} (hverify : env.prim.argon2Verify q.current c.passwordHash = some false) :
      ChangeReturns env u q [⟨.sql (.selectLocalCredential u), .ok (some c)⟩] (.error .invalidCredentials)
  | unhashed {c : LocalCredential} {salt : ℕ} (hhash : env.prim.argon2Hash q.new salt = none) :
      ChangeReturns env u q [⟨.random, salt⟩, ⟨.sql (.selectLocalCredential u), .ok (some c)⟩]
        (.error .hashing)
  | unwritten {c : LocalCredential} {salt : ℕ} {hash : String} {e : SqlxError}
      (hhash : env.prim.argon2Hash q.new salt = some hash) :
      ChangeReturns env u q [⟨.sql (.updatePasswordHash hash u), .error e⟩, ⟨.random, salt⟩,
        ⟨.sql (.selectLocalCredential u), .ok (some c)⟩] (.error (.database e))
  | changed {c : LocalCredential} {salt : ℕ} {hash : String} {r : Unit}
      (hverify : env.prim.argon2Verify q.current c.passwordHash = some true)
      (hhash : env.prim.argon2Hash q.new salt = some hash) :
      ChangeReturns env u q [⟨.sql (.updatePasswordHash hash u), .ok r⟩, ⟨.random, salt⟩,
        ⟨.sql (.selectLocalCredential u), .ok (some c)⟩] (.ok ())

/-- **What a password change asks for and returns.** -/
theorem changePassword_spec (q : PasswordChange) :
    Sat (ChangeAsks env u q) (ChangeReturns env u q) []
      (UserService.changePassword env u q.current q.new).run := by
  have hspec : SatE (UserService.changePassword env u q.current q.new) (ChangeAsks env u q)
      (fun l x => ChangeReturns env u q l (.ok x)) (fun l e => ChangeReturns env u q l (.error e)) [] := by
    rw [UserService.satE_changePassword]
    simp only [satE_verifyPassword, satE_hashPassword]
    refine ⟨.select, .missing, fun c => ⟨fun b hb => ⟨fun htrue => ⟨.random, fun salt => ⟨fun hash hhash =>
      ⟨.update hhash, fun r => .changed (by rw [hb, htrue]) hhash, fun e => .unwritten hhash⟩, .unhashed⟩⟩,
      fun hfalse => .refused (by rw [hb, eq_false_of_ne_true hfalse])⟩, .unparsed⟩, fun e => .unread⟩
  refine Sat.mono (fun _ _ h => h) ?_ hspec
  rintro l (e | x) h
  · exact h
  · exact h

section Executed

variable (hx : env.prim.Exact) (hp : HasPassword env u s p)

include hx hp

/-- Reading the local credential finds the hash of the password. -/
theorem HasPassword.select {r : Ret (.sql (.selectLocalCredential u))}
    (h : Executed env (.sql (.selectLocalCredential u)) s r s') :
    s' = s ∧ ∃ c, r = .ok (some c) ∧
      ∀ p', env.prim.argon2Verify p' c.passwordHash = some (decide (p' = p)) := by
  obtain ⟨c, hc, hu, salt, hhash⟩ := hp
  rcases r with e | found
  · cases h
  · obtain ⟨rfl, hfound, hnone⟩ := selectLocalCredential_row (Stmt.exec h)
    rcases found with _ | c'
    · exact absurd hu (hnone rfl c hc)
    · obtain ⟨hc', hu'⟩ := hfound c' rfl
      obtain rfl := Db.localCredential_unique hc' hc (hu'.trans hu.symm)
      exact ⟨rfl, c', rfl, fun p' => hx.verify_hash _ _ _ _ hhash⟩

/-- Overwriting the hash puts the new password in force. -/
theorem HasPassword.update {hash : String} {salt : ℕ} (hhash : env.prim.argon2Hash p' salt = some hash)
    {r : Ret (.sql (.updatePasswordHash hash u))}
    (h : Executed env (.sql (.updatePasswordHash hash u)) s r s') :
    r = .ok () ∧ HasPassword env u s' p' := by
  obtain ⟨c, hc, hu, -⟩ := hp
  obtain ⟨hash', hhash', hnul⟩ := hx.hash_total p' salt
  rw [hhash] at hhash'
  cases hhash'
  rcases r with e | r
  · simp [Executed, exec, Sql.apply, bindTexts, hnul] at h
  · refine ⟨rfl, { c with passwordHash := hash, updatedAt := s.clock }, ?_, hu, salt, hhash⟩
    rw [updatePasswordHash_credentials (Stmt.exec h)]
    exact List.mem_map.2 ⟨c, hc, if_pos hu⟩

/-- **A password change on its own** does what `attempt` says. -/
theorem alone_attempt {q : PasswordChange} {x : Except AppError Unit} (h : Alone env u q x s s') :
    x = (attempt p q).1 ∧ HasPassword env u s' (attempt p q).2 := by
  obtain ⟨log, hrec⟩ := h.recorded []
  obtain ⟨hreturns, htraces⟩ := hrec.traces (changePassword_spec q)
  have hselected : ∀ {r : Ret (.sql (.selectLocalCredential u))} {s₁ : State},
      Traces (Timed (Executed env)) [⟨.sql (.selectLocalCredential u), r⟩] s s₁ →
      HasPassword env u s₁ p ∧ ∃ c, r = .ok (some c) ∧
        ∀ p', env.prim.argon2Verify p' c.passwordHash = some (decide (p' = p)) := by
    rintro r s₁ ⟨s₀, hs₀, t, -, hselect⟩
    rw [hs₀] at hselect
    have hp₀ : HasPassword env u { s with clock := t } p := hp
    obtain ⟨rfl, hc⟩ := hp₀.select hx hselect
    exact ⟨hp, hc⟩
  have hwritten : ∀ {c : LocalCredential} {salt : ℕ} {hash : String}
      {r : Ret (.sql (.updatePasswordHash hash u))}, env.prim.argon2Hash q.new salt = some hash →
      Traces (Timed (Executed env)) [⟨.sql (.updatePasswordHash hash u), r⟩, ⟨.random, salt⟩,
        ⟨.sql (.selectLocalCredential u), .ok (some c)⟩] s s' → r = .ok () ∧ HasPassword env u s' q.new := by
    rintro c salt hash r hhash ⟨s₂, ⟨s₁, hselect, t₁, -, hrandom⟩, t₂, -, hupdate⟩
    have hdb : s₂.db = s₁.db := by rw [(Stmt.exec hrandom).random_eq.2]
    have hp₂ : HasPassword env u { s₂ with clock := t₂ } p := (hselected hselect).1.of_db hdb
    exact hp₂.update hx hhash hupdate
  cases hreturns with
  | missing =>
    obtain ⟨-, c, hc, -⟩ := hselected htraces
    cases hc
  | unread =>
    obtain ⟨-, c, hc, -⟩ := hselected htraces
    cases hc
  | unparsed hverify =>
    obtain ⟨-, c, hc, hmatch⟩ := hselected htraces
    cases hc
    rw [hmatch] at hverify
    cases hverify
  | refused hverify =>
    obtain ⟨hp', c, hc, hmatch⟩ := hselected htraces
    cases hc
    have hne : q.current ≠ p := by
      rintro rfl
      simp [hmatch] at hverify
    rw [attempt, if_neg hne]
    exact ⟨rfl, hp'⟩
  | unhashed hhash =>
    obtain ⟨hash, hhash', -⟩ := hx.hash_total q.new _
    rw [hhash] at hhash'
    cases hhash'
  | unwritten hhash => cases (hwritten hhash htraces).1
  | changed hverify hhash =>
    obtain ⟨s₂, ⟨s₁, hselect, -⟩, -⟩ := id htraces
    obtain ⟨-, c, hc, hmatch⟩ := hselected hselect
    cases hc
    rw [hmatch, Option.some.injEq, decide_eq_true_eq] at hverify
    rw [attempt, if_pos hverify]
    exact ⟨rfl, (hwritten hhash htraces).2⟩

omit hx hp in
/-- The evaluation of a password change whose current password matches, -/
theorem eval_changePassword {current new hash : String} {c : LocalCredential}
    (hfind : s.db.findLocalCredential u = some c)
    (hverify : env.prim.argon2Verify current c.passwordHash = some true)
    (hnew : env.prim.argon2Hash new s.draws = some hash) (hnul : hasNul hash = false) :
    (UserService.changePassword env u current new).run.eval (exec env) s =
      some (.ok (), { s with
        draws := s.draws + 1
        db := s.db.updatePasswordHash s.clock u hash }) := by
  simp only [UserService.changePassword, UserService.findLocalCredential, eval_bindE, eval_query, Sql.apply,
    hfind, Option.bind_some, verifyPassword, hverify, eval_pureE, if_true, hashPassword, eval_performE, exec,
    Option.map_some, hnew, bindTexts, List.any_cons, hnul, List.any_nil, Bool.or_false, Bool.false_eq_true,
    if_false]

omit hx hp in
/-- and of one whose current password does not. -/
theorem eval_changePassword_refused {current new : String} {c : LocalCredential}
    (hfind : s.db.findLocalCredential u = some c)
    (hverify : env.prim.argon2Verify current c.passwordHash = some false) :
    (UserService.changePassword env u current new).run.eval (exec env) s =
      some (.error .invalidCredentials, s) := by
  simp only [UserService.changePassword, UserService.findLocalCredential, eval_bindE, eval_query, Sql.apply,
    hfind, Option.bind_some, verifyPassword, hverify, eval_pureE, Bool.false_eq_true, if_false, eval_throwE]

/-- It can always be executed. -/
theorem exists_alone (q : PasswordChange) :
    ∃ s', Alone env u q (attempt p q).1 s s' ∧ HasPassword env u s' (attempt p q).2 := by
  obtain ⟨c, hc, hu, salt, hhash⟩ := hp
  have hfind : s.db.findLocalCredential u = some c := by
    cases hfind : s.db.findLocalCredential u with
    | none => exact absurd hu (Db.findLocalCredential_none.1 hfind c hc)
    | some c' =>
      obtain ⟨hc', hu'⟩ := Db.findLocalCredential_some hfind
      rw [Db.localCredential_unique hc' hc (hu'.trans hu.symm)]
  have hverify : env.prim.argon2Verify q.current c.passwordHash = some (decide (q.current = p)) :=
    hx.verify_hash _ _ _ _ hhash
  have hsem : ∀ {o s r s'}, exec env o s = some (r, s') → Timed (Executed env) o s r s' :=
    fun {o s r s'} h => ⟨s.clock, le_rfl, h⟩
  by_cases hcur : q.current = p
  · obtain ⟨hash, hnew, hnul⟩ := hx.hash_total q.new s.draws
    rw [decide_eq_true hcur] at hverify
    rw [attempt, if_pos hcur]
    refine ⟨_, runs_of_eval @hsem (eval_changePassword hfind hverify hnew hnul), { c with passwordHash := hash, updatedAt := s.clock }, ?_, hu,
      s.draws, hnew⟩
    simp only [Db.updatePasswordHash, Relational.Table.mem_update]
    exact ⟨c, hc, if_pos (decide_eq_true hu)⟩
  · rw [decide_eq_false hcur] at hverify
    rw [attempt, if_neg hcur]
    exact ⟨s, runs_of_eval @hsem (eval_changePassword_refused hfind hverify), c, hc, hu, salt, hhash⟩

/-- So password changes that are executed one after the other do what `attempt` says, -/
theorem serial_attempts {l : List (PasswordChange × Except AppError Unit)}
    (h : Serial (Alone env u) s l s') : ∃ p', Serial Attempts p l p' ∧ HasPassword env u s' p' := by
  refine h.simulate (R := HasPassword env u) (fun {q x s₁ s₂ p₁} hp₁ hcall => ?_) hp
  obtain ⟨rfl, hp₂⟩ := alone_attempt hx hp₁ hcall
  exact ⟨_, rfl, hp₂⟩

/-- and can be executed wherever it says so. -/
theorem serial_alone {l : List (PasswordChange × Except AppError Unit)}
    (h : Serial Attempts p l p') : ∃ s', Serial (Alone env u) s l s' ∧ HasPassword env u s' p' := by
  refine h.simulate (R := fun p s => HasPassword env u s p) (fun {q x p₁ p₂ s₁} hp₁ hcall => ?_) hp
  obtain ⟨s₂, hs₂, hp₂⟩ := exists_alone hx hp₁ q
  rw [Attempts] at hcall
  rw [hcall] at hs₂ hp₂
  exact ⟨s₂, hs₂, hp₂⟩

end Executed

/-! ### Overlapping password changes -/

/-- Any number of password changes of one user, with their statements interleaved. -/
def passwordChanges (env : Env) (u : Uuid) :
    System Op Ret PasswordChange (Except AppError Unit) State where
  handler q := (UserService.changePassword env u q.current q.new).run
  sem _ _ := Executed env
  tick := Tick

/-- The history of a run of password changes. -/
abbrev ChangeTrace : Type := History Op Ret PasswordChange (Except AppError Unit) State

/-- The results of the calls, and the password in force at the end, are those of some serial order of the
same calls. -/
def Serially (env : Env) (u : Uuid) (s₀ : State) (calls : List (PasswordChange × Except AppError Unit))
    (s : State) : Prop :=
  ∃ order s', order.Perm calls ∧
    Serial (Alone env u) s₀ order s' ∧
    ∀ p, InForce env u s' p ↔ InForce env u s p

/-- Overlapping password changes are as if one came after the other. -/
structure Linearizable (env : Env) (u : Uuid) (s₀ : State) (H : ChangeTrace) (s : State) : Prop where
  serial : Serially env u s₀ (returned H) s
  /-- Of changes of the same password to others at most one succeeds. -/
  one_success : ∀ {current}, (∀ call ∈ returned H, call.1.current = current ∧ call.1.new ≠ current) →
    (returned H).countP (fun call => call.2.isOk) ≤ 1 ∧
      ∀ call ∈ returned H, call.2 = .ok () → ∀ p, InForce env u s p ↔ p = call.1.new

/-- When the hash is overwritten, the current password that the call has checked is still in force. -/
def ChecksHold (env : Env) (u : Uuid) : ChangeTrace → ℕ → (o : Op) → State → Ret o → Prop
  | H, i, .sql (.updatePasswordHash _ _), s, _ => ∀ q, .start i q ∈ H → InForce env u s q.current
  | _, _, _, _, _ => True

/-- Of serial changes of the same password to others at most one succeeds. -/
theorem one_success_of_serial {l : List (PasswordChange × Except AppError Unit)} {current : String}
    (h : Serial Attempts p l p')
    (hl : ∀ call ∈ l, call.1.current = current ∧ call.1.new ≠ current) :
    l.countP (fun call => call.2.isOk) ≤ 1 ∧ ∀ call ∈ l, call.2 = .ok () → p' = call.1.new := by
  induction h with
  | nil => exact ⟨Nat.zero_le _, fun call hcall => by cases hcall⟩
  | @call l a a' q x h hcall ih =>
    obtain ⟨hcount, hlast⟩ := ih fun call hcall => hl call (List.mem_cons_of_mem _ hcall)
    obtain ⟨hcur, hnew⟩ := hl _ List.mem_cons_self
    unfold Attempts attempt at hcall
    by_cases hq : q.current = a
    · rw [if_pos hq] at hcall
      cases hcall
      -- No earlier call has succeeded, since its new password would still be in force.
      have hnone : ∀ call ∈ l, call.2 ≠ .ok () := by
        intro call hmem hok
        have hother := (hl call (List.mem_cons_of_mem _ hmem)).2
        exact hother (by rw [← hlast call hmem hok, ← hq, hcur])
      have hzero : l.countP (fun call => call.2.isOk) = 0 := by
        refine List.countP_eq_zero.2 fun call hmem hok => hnone call hmem ?_
        obtain ⟨q', _ | ⟨⟩⟩ := call
        · cases hok
        · rfl
      refine ⟨by rw [List.countP_cons_of_pos rfl, hzero], fun call hmem hok => ?_⟩
      rcases List.mem_cons.1 hmem with rfl | hmem
      · rfl
      · exact absurd hok (hnone call hmem)
    · rw [if_neg hq] at hcall
      cases hcall
      refine ⟨by rwa [List.countP_cons_of_neg Bool.false_ne_true], fun call hmem hok => ?_⟩
      rcases List.mem_cons.1 hmem with rfl | hmem
      · cases hok
      · exact hlast call hmem hok

section Linearization

variable (hx : env.prim.Exact) {H : ChangeTrace} {i : ℕ} {q : PasswordChange} {o : Op} {r : Ret o}

include hx

/-- Until a call returns, it leaves the password alone. -/
theorem ChangeAsks.inner {o' : Op} (ho : ChangeAsks env u q (localLog i H) o)
    (hnext : ChangeAsks env u q (⟨o, r⟩ :: localLog i H) o') (h : Executed env o s r s')
    (hp : HasPassword env u s p) : HasPassword env u s' p := by
  generalize localLog i H = log at ho hnext
  cases ho with
  | select =>
    obtain ⟨rfl, -⟩ := hp.select hx h
    exact hp
  | random => exact hp.of_db (by rw [(Stmt.exec h).random_eq.2])
  | update => cases hnext

/-- When it returns, it has done what it does on its own, if what it has checked still holds. -/
theorem ChangeReturns.effect {x : Except AppError Unit} (ho : ChangeAsks env u q (localLog i H) o)
    (hreturns : ChangeReturns env u q (⟨o, r⟩ :: localLog i H) x) (h : Executed env o s r s')
    (hcheck : ChecksHold env u H i o s r) (hq : .start i q ∈ H) (hp : HasPassword env u s p) :
    ∃ p', Attempts q x p p' ∧ HasPassword env u s' p' := by
  generalize localLog i H = log at ho hreturns
  cases ho with
  | select =>
    obtain ⟨rfl, c, rfl, hmatch⟩ := hp.select hx h
    cases hreturns with
    | unparsed hverify =>
      rw [hmatch] at hverify
      cases hverify
    | refused hverify =>
      rw [hmatch, Option.some.injEq, decide_eq_false_iff_not] at hverify
      exact ⟨p, if_neg hverify, hp⟩
  | random =>
    cases hreturns with
    | unhashed hhash =>
      obtain ⟨hash, hhash', -⟩ := hx.hash_total q.new r
      rw [hhash] at hhash'
      cases hhash'
  | update hhash =>
    obtain ⟨rfl, hp'⟩ := hp.update hx hhash h
    cases hreturns with
    | changed =>
      have hcurrent : q.current = p := (hp.inForce_iff hx).1 (hcheck q hq)
      exact ⟨q.new, if_pos hcurrent, hp'⟩

end Linearization

/-- **Linearizability.**  Where the password that each call has checked is still in force when the call
overwrites it, password changes are as if one came after the other, however their statements interleave. -/
theorem changes_linearizable (hx : env.prim.Exact) {clock : ℕ}
    {c₀ : Pool Op Ret Request (Except AppError Response) State}
    (hc₀ : (service env).Reachable (.fresh clock) c₀)
    (hu : ∃ c ∈ c₀.state.db.localCredentials.rows, c.userId = u)
    {c : Pool Op Ret PasswordChange (Except AppError Unit) State}
    (hc : ((passwordChanges env u).restrict (ChecksHold env u)).Reachable c₀.state c) :
    Linearizable env u c₀.state c.history c.state := by
  obtain ⟨credential, hcredential, hid⟩ := hu
  obtain ⟨p₀, salt, hhash⟩ := service_hashed (allHashed_fresh env clock) hc₀ credential hcredential
  have hp₀ : HasPassword env u c₀.state p₀ := ⟨credential, hcredential, hid, salt, hhash⟩
  let sys := (passwordChanges env u).restrict (ChecksHold env u)
  have hinner : ∀ {H i q o r s s' p o'}, .start i q ∈ H → ChangeAsks env u q (localLog i H) o →
      ChangeAsks env u q (⟨o, r⟩ :: localLog i H) o' → sys.sem H i o s r s' → HasPassword env u s p →
      HasPassword env u s' p :=
    fun hq ho hnext h hp => ho.inner hx hnext h.1 hp
  have hreturn : ∀ {H i q o r s s' p x}, .start i q ∈ H → ChangeAsks env u q (localLog i H) o →
      ChangeReturns env u q (⟨o, r⟩ :: localLog i H) x → sys.sem H i o s r s' → HasPassword env u s p →
      ∃ p', Attempts q x p p' ∧ HasPassword env u s' p' :=
    fun hq ho hreturns h hp => hreturns.effect hx ho h.1 h.2 hq hp
  have htick : ∀ {s s' p}, sys.tick s s' → HasPassword env u s p → HasPassword env u s' p := by
    rintro s s' p ⟨t, -, rfl⟩ hp
    exact hp
  obtain ⟨p, hserial, hp⟩ := hc.serial changePassword_spec hp₀ htick (fun h => by cases h) hinner hreturn
  obtain ⟨s', hcode, hp'⟩ := serial_alone hx hp₀ hserial
  constructor
  · refine ⟨_, s', .refl _, hcode, fun p' => ?_⟩
    rw [hp.inForce_iff hx, hp'.inForce_iff hx]
  · intro current hcalls
    obtain ⟨hcount, hlast⟩ := one_success_of_serial hserial hcalls
    refine ⟨hcount, fun call hcall hok p' => ?_⟩
    rw [hp.inForce_iff hx, hlast call hcall hok]

/-- Whether the password that Alice has given is still in force when hers is overwritten. -/
def checksHold (H : ChangeTrace) (i : ℕ) (o : Op) (s : State) : Bool :=
  match o with
  | .sql (.updatePasswordHash _ _) => H.all fun
    | .start j q => decide (j = i → ∃ c ∈ s.db.localCredentials.rows, c.userId = 1 ∧
        demo.prim.argon2Verify q.current c.passwordHash = some true)
    | _ => true
  | _ => true

theorem checksHold_sound {H : ChangeTrace} {i : ℕ} {o : Op} {r : Ret o} (h : checksHold H i o s = true) :
    ChecksHold demo 1 H i o s r := by
  cases o with
  | sql sql =>
    cases sql with
    | updatePasswordHash =>
      intro q hq
      exact of_decide_eq_true (List.all_eq_true.1 h _ hq) rfl
    | _ => trivial
  | _ => trivial

/-- Alice changes her password, twice at once. -/
def changeTwice (moves : List (Move PasswordChange)) : List (Move PasswordChange) :=
  [.start ⟨"password", "passwort"⟩, .start ⟨"password", "sesame"⟩] ++ moves

theorem registered_password : HasPassword demo 1 registered "password" := by
  have hstored : ∃ c ∈ registered.db.localCredentials.rows, c.userId = 1 ∧
      demo.prim.argon2Hash "password" 0 = some c.passwordHash := by decide +kernel
  obtain ⟨c, hc, hu, hhash⟩ := hstored
  exact ⟨c, hc, hu, 0, hhash⟩

/-- The second call reads the password after the first has returned, and is refused. -/
theorem linearizable_of_alice : ∃ c₀ c, (service demo).Reachable (.fresh 0) c₀ ∧
    ((passwordChanges demo 1).restrict (ChecksHold demo 1)).Reachable c₀.state c ∧
    (returned c.history).map Prod.snd = [.error .invalidCredentials, .ok ()] ∧
    Linearizable demo 1 c₀.state c.history c.state := by
  obtain ⟨c₀, hc₀, hstate⟩ := registered_reachable
  have hplay : (System.play (passwordChanges demo 1).handler
      (fun H i o s => if checksHold H i o s then exec demo o s else none)
      (changeTwice (goes 0 3 ++ goes 1 1)) (.init registered)).map
        (fun c => (returned c.history).map Prod.snd) = some [.error .invalidCredentials, .ok ()] := by
    decide +kernel
  obtain ⟨c, hplay, hresults⟩ := Option.map_eq_some_iff.1 hplay
  have hsem : ∀ {H i o s r s'}, (if checksHold H i o s then exec demo o s else none) = some (r, s') →
      ((passwordChanges demo 1).restrict (ChecksHold demo 1)).sem H i o s r s' := by
    intro H i o s r s' h
    split at h
    · next hg => exact ⟨h, checksHold_sound hg⟩
    · cases h
  have hc := System.Reachable.play @hsem .init hplay
  rw [← hstate] at hc
  obtain ⟨credential, hcredential, hid, -⟩ := registered_password
  exact ⟨c₀, c, hc₀, hc, hresults, changes_linearizable Primitives.ideal_exact hc₀
    ⟨credential, by rw [hstate]; exact hcredential, hid⟩ hc⟩

/-- **Two successes.**  Both calls read the password before either of them overwrites it: both succeed,
which no serial order explains. -/
theorem changed_twice : ∃ c₀ c, (service demo).Reachable (.fresh 0) c₀ ∧
    (∃ credential ∈ c₀.state.db.localCredentials.rows, credential.userId = 1) ∧
    (passwordChanges demo 1).Reachable c₀.state c ∧
    ¬ Serially demo 1 c₀.state (returned c.history) c.state := by
  obtain ⟨c₀, hc₀, hstate⟩ := registered_reachable
  have hplay : (System.play (passwordChanges demo 1).handler (fun _ _ => exec demo)
      (changeTwice (goes 0 1 ++ goes 1 1 ++ goes 0 2 ++ goes 1 2)) (.init registered)).map
        (fun c => returned c.history) =
      some [(⟨"password", "sesame"⟩, .ok ()), (⟨"password", "passwort"⟩, .ok ())] := by
    decide +kernel
  obtain ⟨c, hplay, hreturned⟩ := Option.map_eq_some_iff.1 hplay
  have hsem : ∀ {H i o s r s'}, exec demo o s = some (r, s') → (passwordChanges demo 1).sem H i o s r s' :=
    id
  have hc := System.Reachable.play @hsem .init hplay
  rw [← hstate] at hc
  have hpassword := registered_password
  rw [← hstate] at hpassword
  obtain ⟨credential, hcredential, hid, -⟩ := id hpassword
  refine ⟨c₀, c, hc₀, ⟨credential, hcredential, hid⟩, hc, ?_⟩
  rintro ⟨order, s', hperm, hserial, -⟩
  rw [hreturned] at hperm
  obtain ⟨p, hattempts, -⟩ := serial_attempts Primitives.ideal_exact hpassword hserial
  have hcalls : ∀ call ∈ order, call.1.current = "password" ∧ call.1.new ≠ "password" := by
    intro call hcall
    have hmem := hperm.subset hcall
    simp only [List.mem_cons, List.not_mem_nil, or_false] at hmem
    rcases hmem with rfl | rfl
    · decide
    · decide
  have hcount := (one_success_of_serial hattempts hcalls).1
  rw [hperm.countP_eq] at hcount
  exact absurd hcount (by decide)

end Socle
