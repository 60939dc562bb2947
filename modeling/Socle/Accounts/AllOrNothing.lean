import Socle.Demo
import Socle.Failures

/-!
# Requests that fail halfway

Registration, login with a profile, password change and deactivation write more than once, and only the
two rows of a new account are written in one transaction.

* `FailsAt`: the runs of a request that fail at a given statement;
* `AllOrNothing`: all of them leave the database as it was;
* `Harmless`: the statements for which this is so, in a given state;
* `allOrNothing_iff`: exactly these;
* `half_done`: what the others leave behind.
-/

namespace Socle

open Interaction Prog

variable {env : Env} {s s' : State} {q : Request} {f : Option Sql}

/-- Served in the state `s`, the request fails in the state `s'`: at the statement `f`, or, where there is
none, otherwise. -/
def FailsAt (env : Env) (s : State) (q : Request) (f : Option Sql) (s' : State) : Prop :=
  ∃ e log, Runs (Recorded (Timed (Stmt env))) (handle env q).run (s, []) (.error e) (s', log) ∧
    failing log = f

/-- A request that fails so leaves all tables as they were. -/
def AllOrNothing (env : Env) (s : State) (q : Request) (f : Option Sql) : Prop :=
  ∀ s', FailsAt env s q f s' → s'.db = s.db

/-- The requests that write an account together with its sessions. -/
def Request.accountLevel : Request → Bool
  | .register _ _ _ => true
  | .oauthLogin _ => true
  | .changePassword _ _ _ => true
  | .deactivateAccount _ => true
  | _ => false

/-- The identity of the profile is linked. -/
def Linked (s : State) (profile : OAuthProfile) : Prop :=
  (s.db.findUserByOAuthIdentity (.from profile.provider) profile.providerUserId).isSome = true

/-- The statements of a login with a new identity that come before the first write. -/
def BeforeWrites (s : State) (profile : OAuthProfile) : Option Sql → Prop
  | some (.selectUserByOAuthIdentity _ _) => True
  | some (.selectUserByEmail _) => True
  | some (.insertUser _ _ _) => True
  | some (.insertOAuthCredential _ _ _ _ _) => (s.db.findUserByEmail profile.email).isSome = true
  | _ => False

/-- The failures that leave everything as it was. -/
def Harmless (s : State) : Request → Option Sql → Prop
  | .register _ _ _, some (.insertRefreshToken _ _ _ _ _) => False
  | .oauthLogin profile, f => Linked s profile ∨ BeforeWrites s profile f
  | .changePassword _ _ _, some (.revokeUserRefreshTokens _) => False
  | .deactivateAccount _, some (.revokeUserRefreshTokens u) => s.db.findUser u = none
  | _, _ => True

/-! ### New users -/

/-- The user that a statement inserts. -/
def Sql.opened : Sql → Option Uuid
  | .insertAccount id _ _ _ _ => some id
  | .insertUser id _ _ => some id
  | _ => none

/-- A user that is inserted was not there before. -/
theorem opened_stmt {q : Sql} {res : q.Result} {id : Uuid} (h : Stmt env (.sql q) s (.ok res) s')
    (hq : q.opened = some id) : (∀ u ∈ s.db.users.rows, u.id ≠ id) ∧ ∃ u ∈ s'.db.users.rows, u.id = id := by
  obtain ⟨db, happly, rfl⟩ := h.sql_ok
  have husers := (apply_ok happly).1
  cases q with
  | insertAccount id email name username hash =>
    cases hq
    refine ⟨apply_insertAccount_new happly, Db.newUser s.clock id email name, ?_, rfl⟩
    rw [husers]
    exact List.mem_append_right _ List.mem_cons_self
  | insertUser id email name =>
    cases hq
    refine ⟨apply_insertUser_new happly, Db.newUser s.clock id email name, ?_, rfl⟩
    rw [husers]
    exact List.mem_append_right _ List.mem_cons_self
  | _ => cases hq

/-- A run that has inserted a user has changed the database. -/
theorem opened_ne {log : Log Op Ret} (h : Traces (Timed (Stmt env)) log s s') {q : Sql} {res : q.Result}
    {id : Uuid} (hmem : ⟨.sql q, .ok res⟩ ∈ log) (hq : q.opened = some id) : s'.db ≠ s.db := by
  obtain ⟨l, l', rfl⟩ := List.append_of_mem hmem
  obtain ⟨s₂, ⟨s₁, hbefore, t, ht, hstmt⟩, hafter⟩ := traces_append.1 h
  obtain ⟨hnew, u, hu, hid⟩ := opened_stmt hstmt hq
  obtain ⟨v, hv, hvid, -⟩ := (traces_le hafter).users u hu
  intro heq
  rw [heq] at hv
  obtain ⟨w, hw, hwid, -⟩ := (traces_le hbefore).users v hv
  exact hnew w hw (hwid.trans (hvid.trans hid))

/-! ### Registration -/

/-- The log of a registration that fails. -/
inductive RegisterFailure : Log Op Ret → Prop
  | early {l : Log Op Ret} (hl : ¬ Wrote l)
      (hf : ∀ id u hash key exp, failing l ≠ some (.insertRefreshToken id u hash key exp)) :
      RegisterFailure l
  | unsigned {claims : Claims} {e : JwtError} {l : Log Op Ret} :
      RegisterFailure (⟨.encode claims, .error e⟩ :: l)
  /-- The account has been created, and its refresh token is not stored. -/
  | unstored {id u id' : Uuid} {hash key email name username hash' : String} {exp : OffsetDateTime}
      {e : SqlxError} {l : Log Op Ret} {res : User × LocalCredential}
      (hl : ⟨.sql (.insertAccount id' email name username hash'), .ok res⟩ ∈ l) :
      RegisterFailure (⟨.sql (.insertRefreshToken id u hash key exp), .error e⟩ :: l)

theorem register_failure {email username password : String} :
    SatE (handle env (.register email username password)) (fun _ _ => True) (fun _ _ => True)
      (fun l _ => RegisterFailure l) [] := by
  simp [handle, Routes.register, AuthService.register]
  refine ⟨fun _ => .early (by simp) (by simp), fun _ => ⟨fun _ _ salt => ⟨fun hash _ n =>
    ⟨fun user credential t _ => ⟨fun token n' salt' hash' _ t' _ k e => ?_, fun e => .unsigned⟩,
      fun e => .early (by simp) (by simp)⟩, fun _ => .early (by simp) (by simp)⟩,
    fun _ => .early (by simp) (by simp)⟩⟩
  have hopened : ∀ {l l' : Log Op Ret} {x : (o : Op) × Ret o}, x ∈ l ++ x :: l' := by simp
  exact .unstored (hopened (l := [_, _, _, _, _, _]))

/-! ### Login with a profile -/

/-- The search for the user of a profile's identity. -/
def identityLookup (profile : OAuthProfile) (found : Option User) : (o : Op) × Ret o :=
  ⟨.sql (.selectUserByOAuthIdentity (.from profile.provider) profile.providerUserId), .ok found⟩

/-- The search for the user with a profile's email address. -/
def emailLookup (profile : OAuthProfile) (found : Option User) : (o : Op) × Ret o :=
  ⟨.sql (.selectUserByEmail profile.email), .ok found⟩

@[simp] theorem written_identityLookup {profile : OAuthProfile} {found : Option User} :
    written (identityLookup profile found) = false := rfl

@[simp] theorem written_emailLookup {profile : OAuthProfile} {found : Option User} :
    written (emailLookup profile found) = false := rfl

/-- The statement that links the identity of a profile. -/
abbrev Sql.link (profile : OAuthProfile) (id userId : Uuid) : Sql :=
  .insertOAuthCredential id userId (.from profile.provider) profile.providerUserId profile.avatarUrl

/-- The statements that come after the account of a profile has been found. -/
def Sql.issuing : Sql → Bool
  | .selectLocalCredential _ => true
  | .insertRefreshToken _ _ _ _ _ => true
  | _ => false

/-- The log of a login with a profile after its account has been found. -/
inductive Resolved (profile : OAuthProfile) : Log Op Ret → Prop
  | linked {user : User} : Resolved profile [identityLookup profile (some user)]
  | link {id u : Uuid} {r : Unit} {l : Log Op Ret} :
      Resolved profile (⟨.sql (.link profile id u), .ok r⟩ :: (l ++ [identityLookup profile none]))

/-- The log of a login with a profile that fails. -/
inductive OAuthFailure (profile : OAuthProfile) : Log Op Ret → Prop
  | unread {e : SqlxError} : OAuthFailure profile
      [⟨.sql (.selectUserByOAuthIdentity (.from profile.provider) profile.providerUserId), .error e⟩]
  | unsearched {e : SqlxError} : OAuthFailure profile
      [⟨.sql (.selectUserByEmail profile.email), .error e⟩, identityLookup profile none]
  | uninserted {id : Uuid} {name : String} {n : ℕ} {e : SqlxError} : OAuthFailure profile
      [⟨.sql (.insertUser id profile.email name), .error e⟩, ⟨.random, n⟩, emailLookup profile none,
        identityLookup profile none]
  | unlinked {id : Uuid} {user : User} {n : ℕ} {e : SqlxError} : OAuthFailure profile
      [⟨.sql (.link profile id user.id), .error e⟩, ⟨.random, n⟩, emailLookup profile (some user),
        identityLookup profile none]
  /-- A new user has been inserted and is not linked. -/
  | orphaned {id id' : Uuid} {name : String} {user : User} {m n : ℕ} {e : SqlxError} :
      OAuthFailure profile
        [⟨.sql (.link profile id' user.id), .error e⟩, ⟨.random, n⟩,
          ⟨.sql (.insertUser id profile.email name), .ok user⟩, ⟨.random, m⟩, emailLookup profile none,
          identityLookup profile none]
  /-- No tokens are issued. -/
  | unissued {l l' : Log Op Ret} (hl' : Resolved profile l') (hl : ¬ Wrote l)
      (hf : ∀ q, failing (l ++ l') = some q → q.issuing = true) : OAuthFailure profile (l ++ l')

/-- The account of a profile is found or linked, or this fails. -/
theorem resolveOAuth_failure {profile : OAuthProfile} :
    SatE (AuthService.resolveOAuth env profile) (fun _ _ => True) (fun l _ => Resolved profile l)
      (fun l _ => OAuthFailure profile l) [] := by
  simp
  refine ⟨⟨fun n => ⟨fun user m => ⟨fun r => .link (l := [_, _, _, _]), fun e => .orphaned⟩,
    fun e => .uninserted⟩, fun user n => ⟨fun r => .link (l := [_, _]), fun e => .unlinked⟩,
    fun e => .unsearched⟩, fun user => .linked, fun e => .unread⟩

/-- After that, only the statements that issue tokens can fail. -/
theorem loginOrRegisterOAuth_failure {profile : OAuthProfile} :
    SatE (handle env (.oauthLogin profile)) (fun _ _ => True) (fun _ _ => True)
      (fun l _ => OAuthFailure profile l) [] := by
  simp only [handle, Routes.oauthLogin, AuthService.loginOrRegisterOAuth, satE_map]
  rw [satE_bind]
  refine resolveOAuth_failure.mono (fun _ _ h => h) ?_ (fun _ _ h => h)
  rintro l user hl
  have hnone : failing l = none := by
    cases hl <;> rfl
  have hfailed : ∀ l', ¬ Wrote l' → (∀ q, failing (l' ++ l) = some q → q.issuing = true) →
      OAuthFailure profile (l' ++ l) := fun _ => .unissued hl
  have hissue : ∀ found, SatE (AuthService.issueTokens env user .oauth ⟨user, found⟩) (fun _ _ => True)
      (fun _ _ => True) (fun l' _ => OAuthFailure profile l')
      (⟨.sql (.selectLocalCredential user.id), .ok found⟩ :: l) := by
    intro found
    simp
    refine fun t _ => ⟨fun token n salt hash _ t' _ k e => ?_, fun e => ?_⟩
    · exact hfailed [_, _, _, _, _, _, _, _] (by simp) (by simp [Sql.issuing])
    · exact hfailed [_, _, _] (by simp) (by simp)
  simp only [satE_ite, satE_bind, satE_throw, UserService.satE_findLocalCredential]
  refine ⟨fun _ => ⟨trivial, hissue none, fun c => hissue (some c), fun e => ?_⟩, fun _ => ?_⟩
  · exact hfailed [_] (by simp) (by simp [Sql.issuing])
  · exact hfailed [] (by simp) (by simp [hnone])

/-! ### Password change and deactivation -/

/-- The log of a password change that fails. -/
inductive ChangeFailure : Log Op Ret → Prop
  | early {l : Log Op Ret} (hl : ¬ Wrote l) (hf : ∀ u, failing l ≠ some (.revokeUserRefreshTokens u)) :
      ChangeFailure l
  /-- The password has been changed, and the refresh tokens are not revoked. -/
  | unrevoked {u : Uuid} {hash : String} {credential : LocalCredential} {r : Unit} {e : SqlxError}
      {n : ℕ} {l : Log Op Ret} (hl : ¬ Wrote l) :
      ChangeFailure (⟨.sql (.revokeUserRefreshTokens u), .error e⟩ ::
        ⟨.sql (.updatePasswordHash hash u), .ok r⟩ :: ⟨.random, n⟩ ::
        ⟨.sql (.selectLocalCredential u), .ok (some credential)⟩ :: l)

theorem changePassword_failure {authorization : Option String} {current new : String} :
    SatE (handle env (.changePassword authorization current new)) (fun _ _ => True) (fun _ _ => True)
      (fun l _ => ChangeFailure l) [] := by
  simp [handle, Routes.changePassword]
  refine ⟨fun token _ => ⟨fun claims => ⟨fun _ => ⟨.early (by simp) (by simp), fun c => ⟨⟨fun _ =>
    .early (by simp) (by simp), fun _ salt => ⟨fun hash _ => ⟨fun r e => .unrevoked (by simp), fun e => ?_⟩,
      fun _ => .early (by simp) (by simp)⟩⟩, fun _ => .early (by simp) (by simp)⟩, fun e => ?_⟩,
    fun _ => ?_⟩, ?_, ?_⟩, fun _ => ?_⟩
  all_goals exact .early (by simp) (by simp)

/-- The log of a deactivation that fails. -/
inductive DeactivateFailure : Log Op Ret → Prop
  | early {l : Log Op Ret} (hl : ¬ Wrote l) (hf : ∀ u, failing l ≠ some (.revokeUserRefreshTokens u)) :
      DeactivateFailure l
  /-- The account is inactive, and the refresh tokens are not revoked. -/
  | unrevoked {u : Uuid} {r : Unit} {e : SqlxError} {l : Log Op Ret} (hl : ¬ Wrote l) :
      DeactivateFailure (⟨.sql (.revokeUserRefreshTokens u), .error e⟩ ::
        ⟨.sql (.deactivateUser u), .ok r⟩ :: l)

theorem deactivateAccount_failure {authorization : Option String} :
    SatE (handle env (.deactivateAccount authorization)) (fun _ _ => True) (fun _ _ => True)
      (fun l _ => DeactivateFailure l) [] := by
  simp [handle, Routes.deactivateAccount]
  refine ⟨fun token _ => ⟨fun claims => ⟨fun _ => ⟨fun r e => .unrevoked (by simp), fun e => ?_⟩,
    fun _ => ?_⟩, ?_, ?_⟩, fun _ => ?_⟩
  all_goals exact .early (by simp) (by simp)

/-- A run whose last statement fails after an update can take its time before the update. -/
theorem later_update {α : Type} {p : App α} {x : Except AppError α} {q q' : Sql} {r : q.Result}
    {e : q'.Error} {l : Log Op Ret} {log : Log Op Ret}
    (h : Runs (Recorded (Timed (Stmt env))) p.run (s, []) x (s', log))
    (hlog : log = ⟨.sql q', .error e⟩ :: ⟨.sql q, .ok r⟩ :: l)
    (htraces : Traces (Timed (Stmt env)) log s s') (hl : ¬ Wrote l) {update : OffsetDateTime → Db}
    (happly : ∀ t, q.apply env.prim t s.db = .ok (r, update t)) (last : OffsetDateTime) :
    ∃ t s'', last < t ∧ Runs (Recorded (Timed (Stmt env))) p.run (s, []) x (s'', log) ∧
      s''.db = update t := by
  obtain ⟨l', hl', hreplay⟩ := @Runs.replay _ _ _ _ _ State (Timed (Stmt env)) _ _ _ _ _ _ h
  rw [List.append_nil] at hl'
  subst hl'
  subst hlog
  obtain ⟨s₂, ⟨s₁, hbefore, -⟩, -⟩ := htraces
  have hdb : s₁.db = s.db := db_of_not_wrote hbefore hl
  let t : ℕ := max s₁.clock (last.toNat + 1)
  have hlast : last < t := by
    have hle : last.toNat + 1 ≤ t := le_max_right _ _
    exact Int.lt_of_le_of_lt (Int.self_le_toNat last) (Int.ofNat_lt.2 hle)
  have hupdate : Stmt env (.sql q) { s₁ with clock := t } (.ok r) { s₁ with clock := t, db := update t } :=
    Stmt.of_apply (by rw [← happly t, ← hdb])
  exact ⟨t, _, hlast, hreplay ⟨_, ⟨s₁, hbefore, t, le_max_left _ _, hupdate⟩, t, le_rfl, .fault e⟩, rfl⟩

/-! ### What is left behind -/

/-- The tables change when a registration fails after its transaction, and only then. -/
theorem register_iff {email username password : String}
    (h : FailsAt env s (.register email username password) f s') :
    s'.db = s.db ↔ Harmless s (.register email username password) f := by
  obtain ⟨e, log, hrun, rfl⟩ := h
  obtain ⟨hfailure, htraces⟩ := hrun.traces register_failure
  cases hfailure with
  | early hl hf =>
    refine iff_of_true (db_of_not_wrote htraces hl) ?_
    rcases hfail : failing log with _ | q
    · exact True.intro
    · cases q with
      | insertRefreshToken => exact hf _ _ _ _ _ hfail
      | _ => exact True.intro
  | unsigned =>
    obtain ⟨s₁, -, t, -, hencode⟩ := htraces
    cases hencode.encode_eq.1
  | unstored hl => exact iff_of_false (opened_ne htraces (List.mem_cons_of_mem _ hl) rfl) id

/-- What the search for the user of an identity finds. -/
theorem identityLookup_traces {profile : OAuthProfile} {found : Option User}
    (h : Traces (Timed (Stmt env)) [identityLookup profile found] s s') :
    s'.db = s.db ∧ s.db.findUserByOAuthIdentity (.from profile.provider) profile.providerUserId = found := by
  obtain ⟨_, rfl, t, -, hstmt⟩ := h
  obtain ⟨db, hq, rfl⟩ := hstmt.sql_ok
  obtain ⟨hfound, hdb⟩ := Prod.mk.inj (Except.ok.inj (bindTexts_ok.1 hq).2)
  exact ⟨hdb.symm, hfound⟩

/-- What the search for the user with an email address finds. -/
theorem emailLookup_traces {profile : OAuthProfile} {found : Option User} {l : Log Op Ret}
    (h : Traces (Timed (Stmt env)) (emailLookup profile found :: l) s s') (hl : ¬ Wrote l) :
    s.db.findUserByEmail profile.email = found := by
  obtain ⟨s₁, hbefore, t, -, hstmt⟩ := h
  obtain ⟨db, hq, -⟩ := hstmt.sql_ok
  have hfound := (Prod.mk.inj (Except.ok.inj (bindTexts_ok.1 hq).2)).1
  rw [← db_of_not_wrote hbefore hl]
  exact hfound

/-- A login that has linked a new identity has changed the database. -/
theorem link_ne {profile : OAuthProfile} {id u : Uuid} {r : Unit} {l l' : Log Op Ret}
    (h : Traces (Timed (Stmt env)) (l ++ ⟨.sql (.link profile id u), .ok r⟩ :: l') s s') (hl : ¬ Wrote l)
    (hnew : ¬ Linked s profile) : s'.db ≠ s.db := by
  obtain ⟨s₂, ⟨s₁, -, t, -, hstmt⟩, hafter⟩ := traces_append.1 h
  rw [db_of_not_wrote hafter hl]
  obtain ⟨db, hq, rfl⟩ := hstmt.sql_ok
  have hrows := (apply_ok hq).2.2.1
  rintro rfl
  refine hnew (Option.isSome_iff_ne_none.2 fun hnone => ?_)
  have hunlinked := Db.findUserByOAuthIdentity_none.1 hnone
  simp only [Sql.oauthCredentials] at hrows
  split at hrows
  · next hany =>
    obtain ⟨o, ho, hidentity⟩ := List.any_eq_true.1 hany
    rw [← hrows] at ho
    exact hunlinked o ho (of_decide_eq_true hidentity)
  · refine hunlinked ⟨id, u, .from profile.provider, profile.providerUserId, profile.avatarUrl, t⟩ ?_
      ⟨rfl, rfl⟩
    rw [hrows]
    exact List.mem_append_right _ List.mem_cons_self

/-- The tables change when a login with a new identity fails after its first write, and only then. -/
theorem oauthLogin_iff {profile : OAuthProfile} (h : FailsAt env s (.oauthLogin profile) f s') :
    s'.db = s.db ↔ Harmless s (.oauthLogin profile) f := by
  obtain ⟨e, log, hrun, rfl⟩ := h
  obtain ⟨hfailure, htraces⟩ := hrun.traces loginOrRegisterOAuth_failure
  show s'.db = s.db ↔ Linked s profile ∨ BeforeWrites s profile (failing log)
  -- The identity is looked up first.
  have hfirst : ∀ {l : Log Op Ret} {found : Option User},
      Traces (Timed (Stmt env)) (l ++ [identityLookup profile found]) s s' →
      (Linked s profile ↔ found.isSome = true) := by
    intro l found h
    obtain ⟨s₁, hlookup, -⟩ := traces_append.1 h
    rw [Linked, (identityLookup_traces hlookup).2]
  cases hfailure with
  | unread => exact iff_of_true (db_of_not_wrote htraces (by simp)) (Or.inr True.intro)
  | unsearched => exact iff_of_true (db_of_not_wrote htraces (by simp)) (Or.inr True.intro)
  | uninserted =>
    exact iff_of_true (db_of_not_wrote htraces (by simp)) (Or.inr True.intro)
  | unlinked =>
    obtain ⟨s₂, ⟨s₁, hlookups, -⟩, -⟩ := id htraces
    refine iff_of_true (db_of_not_wrote htraces (by simp)) (Or.inr ?_)
    show (s.db.findUserByEmail profile.email).isSome = true
    rw [emailLookup_traces hlookups (by simp)]
    rfl
  | orphaned =>
    obtain ⟨s₄, ⟨s₃, ⟨s₂, ⟨s₁, hlookups, -⟩, -⟩, -⟩, -⟩ := id htraces
    refine iff_of_false (opened_ne htraces (List.mem_cons_of_mem _ (List.mem_cons_of_mem _
      List.mem_cons_self)) rfl) (not_or.2 ⟨fun hlinked => ?_, fun hbefore => ?_⟩)
    · cases (hfirst (l := [_, _, _, _, _]) htraces).1 hlinked
    · change (s.db.findUserByEmail profile.email).isSome = true at hbefore
      rw [emailLookup_traces hlookups (by simp)] at hbefore
      cases hbefore
  | @unissued l _ hl' hl hf =>
    cases hl' with
    | linked => exact iff_of_true (db_of_not_wrote htraces (by simp [hl])) (Or.inl ((hfirst htraces).2 rfl))
    | @link id u r l' =>
      have hnew : ¬ Linked s profile := by
        intro hlinked
        have hlast : l ++ ⟨.sql (.link profile id u), .ok r⟩ :: (l' ++ [identityLookup profile none]) =
            (l ++ ⟨.sql (.link profile id u), .ok r⟩ :: l') ++ [identityLookup profile none] := by simp
        rw [hlast] at htraces
        cases (hfirst htraces).1 hlinked
      refine iff_of_false (link_ne htraces hl hnew) (not_or.2 ⟨hnew, ?_⟩)
      rcases hfail : failing (l ++ _) with _ | q
      · exact fun h => h
      · have hissuing := hf q hfail
        cases q with
        | selectLocalCredential | insertRefreshToken => exact fun h => h
        | _ => cases hissuing

/-- A password that is changed late enough changes the table. -/
theorem updatePasswordHash_ne {db : Db} {u : Uuid} {hash : String} {c : LocalCredential}
    {t : OffsetDateTime} (hc : c ∈ db.localCredentials.rows) (hu : c.userId = u) (ht : c.updatedAt < t) :
    db.updatePasswordHash t u hash ≠ db := by
  intro heq
  have hnew : { c with passwordHash := hash, updatedAt := t } ∈
      (db.updatePasswordHash t u hash).localCredentials.rows := by
    simp only [Db.updatePasswordHash, Relational.Table.mem_update]
    exact ⟨c, hc, if_pos (decide_eq_true hu)⟩
  rw [heq] at hnew
  have hsame := Db.localCredential_unique hc hnew rfl
  rw [hsame] at ht
  exact Int.lt_irrefl _ ht

/-- So does a deactivation. -/
theorem deactivate_ne {db : Db} {u : User} {t : OffsetDateTime} (hu : u ∈ db.users.rows)
    (ht : u.updatedAt < t) : db.deactivate t u.id ≠ db := by
  intro heq
  have hnew : { u with isActive := false, updatedAt := t } ∈ (db.deactivate t u.id).users.rows := by
    simp only [Db.deactivate, Db.updateUser, Relational.Table.mem_update]
    exact ⟨u, hu, if_pos (decide_eq_true rfl)⟩
  rw [heq] at hnew
  have hsame := Db.user_unique hu hnew rfl
  rw [hsame] at ht
  exact Int.lt_irrefl _ ht

/-- Nobody's deactivation changes nothing. -/
theorem deactivate_eq {db : Db} {u : Uuid} {t : OffsetDateTime} (h : db.findUser u = none) :
    db.deactivate t u = db := by
  have hrows : (db.deactivate t u).users.rows = db.users.rows := by
    refine (List.map_congr_left fun v hv => if_neg ?_).trans (List.map_id' _)
    simpa using List.find?_eq_none.1 h v hv
  exact Db.ext (Relational.Table.ext hrows) rfl rfl rfl

/-- A password change that fails before the last statement changes nothing; where it can fail there, it
can also change the table. -/
theorem changePassword_iff {authorization : Option String} {current new : String}
    (h : FailsAt env s (.changePassword authorization current new) f s') :
    (Harmless s (.changePassword authorization current new) f → s'.db = s.db) ∧
      (¬ Harmless s (.changePassword authorization current new) f →
        ∃ s'', FailsAt env s (.changePassword authorization current new) f s'' ∧ s''.db ≠ s.db) := by
  obtain ⟨e, log, hrun, rfl⟩ := h
  obtain ⟨hfailure, htraces⟩ := hrun.traces changePassword_failure
  cases hfailure with
  | early hl hf =>
    refine ⟨fun _ => db_of_not_wrote htraces hl, fun hharm => absurd ?_ hharm⟩
    rcases hfail : failing log with _ | q
    · exact True.intro
    · cases q with
      | revokeUserRefreshTokens u => exact hf u hfail
      | _ => exact True.intro
  | @unrevoked u hash credential r e' n l hl =>
    refine ⟨False.elim, fun _ => ?_⟩
    obtain ⟨s₄, ⟨s₃, ⟨s₂, ⟨s₁, hbefore, t₁, -, hselect⟩, -⟩, t₃, -, hupdate⟩, -⟩ := id htraces
    obtain ⟨-, hfound, -⟩ := selectLocalCredential_row hselect
    obtain ⟨hc, hu⟩ := hfound credential rfl
    have hdb : s₁.db = s.db := db_of_not_wrote hbefore hl
    dsimp only at hc
    rw [hdb] at hc
    obtain ⟨db, happly, -⟩ := hupdate.sql_ok
    have hnul := (bindTexts_ok.1 happly).1
    obtain ⟨t, s'', ht, hrun', hdb'⟩ := later_update hrun rfl htraces (by simp [hl])
      (fun t => bindTexts_ok.2 ⟨hnul, rfl⟩) credential.updatedAt
    refine ⟨s'', ⟨e, _, hrun', rfl⟩, ?_⟩
    rw [hdb']
    exact updatePasswordHash_ne hc hu ht

/-- The same for a deactivation, of an account that exists. -/
theorem deactivateAccount_iff {authorization : Option String}
    (h : FailsAt env s (.deactivateAccount authorization) f s') :
    (Harmless s (.deactivateAccount authorization) f → s'.db = s.db) ∧
      (¬ Harmless s (.deactivateAccount authorization) f →
        ∃ s'', FailsAt env s (.deactivateAccount authorization) f s'' ∧ s''.db ≠ s.db) := by
  obtain ⟨e, log, hrun, rfl⟩ := h
  obtain ⟨hfailure, htraces⟩ := hrun.traces deactivateAccount_failure
  cases hfailure with
  | early hl hf =>
    refine ⟨fun _ => db_of_not_wrote htraces hl, fun hharm => absurd ?_ hharm⟩
    rcases hfail : failing log with _ | q
    · exact True.intro
    · cases q with
      | revokeUserRefreshTokens u => exact absurd hfail (hf u)
      | _ => exact True.intro
  | @unrevoked u r e' l hl =>
    constructor
    · intro hnone
      obtain ⟨s₃, ⟨s₂, hbefore, t, -, hdeactivate⟩, t', -, hrevoke⟩ := id htraces
      obtain ⟨db, happly, rfl⟩ := hdeactivate.sql_ok
      have hdb : s₂.db = s.db := db_of_not_wrote hbefore hl
      cases happly
      rw [hrevoke.sql_error]
      show s₂.db.deactivate t u = s.db
      rw [hdb]
      exact deactivate_eq hnone
    · intro hharm
      change ¬ s.db.findUser u = none at hharm
      obtain ⟨v, hv⟩ := Option.ne_none_iff_exists'.1 hharm
      obtain ⟨hmem, rfl⟩ := Db.findUser_some hv
      obtain ⟨t, s'', ht, hrun', hdb'⟩ := later_update hrun rfl htraces hl (fun t => rfl) v.updatedAt
      refine ⟨s'', ⟨e, _, hrun', rfl⟩, ?_⟩
      rw [hdb']
      exact deactivate_ne hmem ht

/-- **All or nothing.**  Where an account-level request can fail at the statement `f`, it leaves all tables
as they were, in every run that fails there, exactly if this failure is harmless. -/
theorem allOrNothing_iff (hq : q.accountLevel = true) (hfails : ∃ s', FailsAt env s q f s') :
    AllOrNothing env s q f ↔ Harmless s q f := by
  obtain ⟨s', hs'⟩ := hfails
  cases q with
  | register =>
    exact ⟨fun h => (register_iff hs').1 (h s' hs'), fun h s'' hs'' => (register_iff hs'').2 h⟩
  | oauthLogin =>
    exact ⟨fun h => (oauthLogin_iff hs').1 (h s' hs'), fun h s'' hs'' => (oauthLogin_iff hs'').2 h⟩
  | changePassword =>
    refine ⟨fun h => by_contra fun hharm => ?_, fun h s'' hs'' => (changePassword_iff hs'').1 h⟩
    obtain ⟨s'', hs'', hne⟩ := (changePassword_iff hs').2 hharm
    exact hne (h s'' hs'')
  | deactivateAccount =>
    refine ⟨fun h => by_contra fun hharm => ?_, fun h s'' hs'' => (deactivateAccount_iff hs'').1 h⟩
    obtain ⟨s'', hs'', hne⟩ := (deactivateAccount_iff hs').2 hharm
    exact hne (h s'' hs'')
  | _ => cases hq

/-- A request that is served at the time 0, where some statements are chosen to fail, and what can be
observed then. -/
def observeFaulty (s : State) (q : Request) (f : Sql → Bool) (P : Db → Prop) [DecidablePred P] :
    Option (Bool × Bool) :=
  ((handle demo q).run.eval (record (execAt (execFaulty demo f) 0)) (s, [])).map fun x =>
    (x.1.toOption.isNone && (failing x.2.2).any f, decide (P x.2.1.db))

theorem failsAt_of_observe {f : Sql → Bool} {P : Db → Prop} [DecidablePred P]
    (h : observeFaulty s q f P = some (true, true)) :
    ∃ g s', f g = true ∧ FailsAt demo s q (some g) s' ∧ P s'.db := by
  obtain ⟨⟨x, s', log⟩, hx, hobs⟩ := Option.map_eq_some_iff.1 h
  obtain ⟨hfails, hP⟩ := Prod.mk.inj hobs
  obtain ⟨herror, hfailing⟩ := (Bool.and_eq_true _ _).mp hfails
  obtain ⟨g, hg, hfg⟩ := (Option.any_eq_true _ _).1 hfailing
  have hfaulty : ∀ {o s r s'}, execFaulty demo f o s = some (r, s') → Stmt demo o s r s' :=
    fun h => (execFaulty_sound h).stmt
  have htimed : ∀ {o s r s'}, execAt (execFaulty demo f) 0 o s = some (r, s') →
      Timed (Stmt demo) o s r s' := fun h => execAt_sound @hfaulty h
  have hrecorded : ∀ {o x r y}, record (execAt (execFaulty demo f) 0) o x = some (r, y) →
      Recorded (Timed (Stmt demo)) o x r y := fun h => record_sound @htimed h
  have hrun := runs_of_eval @hrecorded hx
  rcases x with e | a
  · exact ⟨g, s', hfg, ⟨e, log, hrun, hg⟩, of_decide_eq_true hP⟩
  · cases herror

/-- A deactivation that fails at its first statement changes nothing. -/
theorem allOrNothing_of_alice :
    (∃ s', FailsAt demo registered (.deactivateAccount (some aliceAuthorization))
        (some (.deactivateUser 1)) s') ∧
      AllOrNothing demo registered (.deactivateAccount (some aliceAuthorization))
        (some (.deactivateUser 1)) := by
  obtain ⟨g, s', hg, hfails, -⟩ := failsAt_of_observe (f := fun q => decide (q = .deactivateUser 1))
    (P := fun _ => True) (s := registered) (q := .deactivateAccount (some aliceAuthorization))
    (by decide +kernel)
  obtain rfl := of_decide_eq_true hg
  exact ⟨⟨s', hfails⟩, (allOrNothing_iff rfl ⟨s', hfails⟩).2 True.intro⟩

/-- The statements that store a refresh token or revoke those of a user. -/
def endsRequest : Sql → Bool
  | .insertRefreshToken _ _ _ _ _ => true
  | .revokeUserRefreshTokens _ => true
  | _ => false

/-- A request of the service fails, and leaves a database with the property behind. -/
def Leaves (s : State) (q : Request) (P : Db → Prop) : Prop :=
  ∃ f s', FailsAt demo s q (some f) s' ∧ s'.db ≠ s.db ∧ P s'.db

theorem leaves_of_observe {f : Sql → Bool} {P : Db → Prop} [DecidablePred P]
    (h : observeFaulty s q f P = some (true, true)) (hs : ¬ P s.db) : Leaves s q P := by
  obtain ⟨g, s', -, hfails, hP⟩ := failsAt_of_observe h
  exact ⟨g, s', hfails, fun hdb => hs (hdb ▸ hP), hP⟩

/-- **Half done.**  An account and a link without a session, a new password with the old refresh tokens,
and an inactive account with live refresh tokens. -/
theorem half_done :
    Leaves (.fresh 0) registerAlice (fun db => db.users.rows ≠ [] ∧ db.refreshTokens.rows = []) ∧
    Leaves (.fresh 0) (.oauthLogin carolProfile)
      (fun db => db.oauthCredentials.rows ≠ [] ∧ db.refreshTokens.rows = []) ∧
    Leaves registered (.changePassword (some aliceAuthorization) "password" "passwort")
      (fun db => (∀ c ∈ db.localCredentials.rows,
        demo.prim.argon2Verify "passwort" c.passwordHash = some true) ∧
        ∃ r ∈ db.refreshTokens.rows, r.revoked = false) ∧
    Leaves registered (.deactivateAccount (some aliceAuthorization))
      (fun db => (∀ u ∈ db.users.rows, u.isActive = false) ∧
        ∃ r ∈ db.refreshTokens.rows, r.revoked = false) := by
  refine ⟨leaves_of_observe (f := endsRequest) ?_ ?_, leaves_of_observe (f := endsRequest) ?_ ?_,
    leaves_of_observe (f := endsRequest) ?_ ?_, leaves_of_observe (f := endsRequest) ?_ ?_⟩
  all_goals decide +kernel

end Socle
