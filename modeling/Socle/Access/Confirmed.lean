import Socle.Tokens.Endurance

/-!
# What responses say

What the service confirms has happened.

* `Confirms`, `handle_confirms`: what every handler has done for its response, from its log;
* `UserResponse.Shows`: what a response shows of an account;
* `Performed`: logs whose statements have been executed, in a run of the services or of the web application;
* `Confirmed`: what a response says, in terms of the directory of accounts;
* `responses_are_true`: **responses are true**, however requests interleave and whatever fails.
-/

namespace Socle

open Interaction Prog System Relational

variable {env : Env} {s s' : State} {q : Request} {log : Log Op Ret} {u : User} {db : Db} {id : Uuid}

/-! ### What handlers do -/

/-- One statement has been answered before another one. -/
def Precedes (log : Log Op Ret) (x y : (o : Op) × Ret o) : Prop := ∃ l, x ∈ l ∧ (y :: l) <:+ log

theorem Precedes.mono {l : Log Op Ret} {x y : (o : Op) × Ret o} (h : Precedes l x y) (hl : l <:+ log) :
    Precedes log x y := by
  obtain ⟨l', hx, hy⟩ := h
  exact ⟨l', hx, hy.trans hl⟩

theorem precedes_cons {x y : (o : Op) × Ret o} (h : x ∈ log) : Precedes (y :: log) x y :=
  ⟨log, h, List.suffix_rfl⟩

/-- The credential of the user has been looked up after the statement. -/
def Viewed (log : Log Op Ret) (x : (o : Op) × Ret o) (u : User) (credential : Option LocalCredential) :
    Prop :=
  Precedes log x ⟨.sql (.selectLocalCredential u.id), .ok credential⟩

/-- The profile belongs to the user, or it has been linked to the user with its email address. -/
inductive Matched (log : Log Op Ret) (profile : OAuthProfile) (u : User) : Prop
  | found (hfound : ⟨.sql (.selectUserByOAuthIdentity (.from profile.provider) profile.providerUserId),
      .ok (some u)⟩ ∈ log)
  | linked {id : Uuid} (haddressed : Addressed log profile.email u)
    (hlinks : ⟨.sql (.insertOAuthCredential id u.id (.from profile.provider) profile.providerUserId
      profile.avatarUrl), .ok ()⟩ ∈ log)

/-- The refresh token `t` has been found alive, and has been revoked then. -/
def Spends (env : Env) (log : Log Op Ret) (t : String) (record : RefreshTokenRow) : Prop :=
  ∃ (l : Log Op Ret) (now : OffsetDateTime), Precedes l
      ⟨.sql (.selectRefreshToken (TokenService.computeLookupKey env t)), .ok (some record)⟩ ⟨.now, now⟩ ∧
    record.revoked = false ∧ ¬ record.expiresAt < now ∧
    (⟨.sql (.revokeRefreshToken record.id), .ok ()⟩ :: l) <:+ log

theorem Spends.mono {l : Log Op Ret} {t : String} {record : RefreshTokenRow} (h : Spends env l t record)
    (hl : l <:+ log) : Spends env log t record := by
  obtain ⟨l', now, hnow, hlive, hfresh, hrevokes⟩ := h
  exact ⟨l', now, hnow, hlive, hfresh, hrevokes.trans hl⟩

/-- What a request has done for its response. -/
inductive Confirms (env : Env) (log : Log Op Ret) : Request → Response → Prop
  | register {email username password hash : String} {id : Uuid} {salt : ℕ} {u : User} {c : LocalCredential}
    {b : AuthResponse}
    (hopens : ⟨.sql (.insertAccount id email (localPart email) username hash), .ok (u, c)⟩ ∈ log)
    (hhash : env.prim.argon2Hash password salt = some hash) (hb : b.user = .from ⟨u, some c⟩) :
    Confirms env log (.register email username password) (.auth b)
  | login {email password : String} {u : User} {c : LocalCredential} {b : AuthResponse}
    (hview : Viewed log ⟨.sql (.selectUserByEmail email), .ok (some u)⟩ u (some c))
    (hactive : u.isActive = true) (hverify : env.prim.argon2Verify password c.passwordHash = some true)
    (hb : b.user = .from ⟨u, some c⟩) :
    Confirms env log (.login email password) (.auth b)
  | refresh {t : String} {record : RefreshTokenRow} {u : User} {credential : Option LocalCredential}
    {b : AuthResponse} (hspends : Spends env log t record)
    (hview : Viewed log ⟨.sql (.selectUserById record.userId), .ok (some u)⟩ u credential)
    (hactive : u.isActive = true) (hb : b.user = .from ⟨u, credential⟩) :
    Confirms env log (.refresh t) (.auth b)
  | logout {authorization : Option String} {claims : Claims} (hv : Vouched (.logout authorization) log claims)
    (hrevokes : ⟨.sql (.revokeUserRefreshTokens claims.sub), .ok ()⟩ ∈ log) :
    Confirms env log (.logout authorization) (.message "Logged out successfully")
  | oauthLogin {profile : OAuthProfile} {l : Log Op Ret} {u : User} {credential : Option LocalCredential}
    {b : AuthResponse} (hmatched : Matched l profile u)
    (hview : (⟨.sql (.selectLocalCredential u.id), .ok credential⟩ :: l) <:+ log)
    (hactive : u.isActive = true) (hb : b.user = .from ⟨u, credential⟩) :
    Confirms env log (.oauthLogin profile) (.auth b)
  | listConnections {authorization : Option String} {claims : Claims} {cs : List OAuthConnection}
    (hv : Vouched (.listConnections authorization) log claims)
    (hlist : ⟨.sql (.selectOAuthConnections claims.sub), .ok cs⟩ ∈ log) :
    Confirms env log (.listConnections authorization) (.connections cs)
  | unlinkConnection {authorization : Option String} {slug : String} {provider : OAuthProvider}
    {claims : Claims} {n : ℕ} (hv : Vouched (.unlinkConnection authorization slug) log claims)
    (hslug : OAuthProvider.fromSlug slug = some provider)
    (hunlinks : ⟨.sql (.deleteOAuthCredential claims.sub (.from provider)), .ok n⟩ ∈ log) (hn : n ≠ 0) :
    Confirms env log (.unlinkConnection authorization slug)
      (.message ("Provider '" ++ provider.slug ++ "' unlinked successfully"))
  | getMe {authorization : Option String} {claims : Claims} {u : User} {credential : Option LocalCredential}
    (hv : Vouched (.getMe authorization) log claims)
    (hview : Viewed log ⟨.sql (.selectUserById claims.sub), .ok (some u)⟩ u credential) :
    Confirms env log (.getMe authorization) (.user (.from ⟨u, credential⟩))
  | changePassword {authorization : Option String} {current new hash : String} {claims : Claims} {salt : ℕ}
    {c : LocalCredential} (hv : Vouched (.changePassword authorization current new) log claims)
    (hread : ⟨.sql (.selectLocalCredential claims.sub), .ok (some c)⟩ ∈ log)
    (hverify : env.prim.argon2Verify current c.passwordHash = some true)
    (hhash : env.prim.argon2Hash new salt = some hash)
    (hsets : Precedes log ⟨.sql (.updatePasswordHash hash claims.sub), .ok ()⟩
      ⟨.sql (.revokeUserRefreshTokens claims.sub), .ok ()⟩) :
    Confirms env log (.changePassword authorization current new) (.message "Password updated successfully")
  | deactivateAccount {authorization : Option String} {claims : Claims}
    (hv : Vouched (.deactivateAccount authorization) log claims)
    (hdeactivates : Precedes log ⟨.sql (.deactivateUser claims.sub), .ok ()⟩
      ⟨.sql (.revokeUserRefreshTokens claims.sub), .ok ()⟩) :
    Confirms env log (.deactivateAccount authorization) (.message "Account deactivated")
  | updateUserRole {authorization : Option String} {target : Uuid} {role : Role} {claims : Claims} {u : User}
    {credential : Option LocalCredential}
    (hv : Vouched (.updateUserRole authorization target role) log claims) (hne : claims.sub ≠ target)
    (hview : Viewed log ⟨.sql (.updateRole role target), .ok (some u)⟩ u credential) :
    Confirms env log (.updateUserRole authorization target role) (.user (.from ⟨u, credential⟩))

/-- Issuing tokens leaves what has been done before. -/
theorem issueTokens_shows {m : AuthMethod} {credential : Option LocalCredential}
    {Q : Log Op Ret → Response → Prop}
    (hQ : ∀ l b, log <:+ l → b.user = .from ⟨u, credential⟩ → Q l (.auth b)) :
    SatE (AuthService.issueTokens env u m ⟨u, credential⟩) (fun _ _ => True) (fun l b => Q l (.auth b))
      (fun _ _ => True) log := by
  simp only [AuthService.satE_issueTokens, TokenService.satE_generateAccessToken, implies_true, true_and,
    and_true]
  intro t _ token
  refine createRefreshToken_stored.mono (fun _ _ => id) ?_ fun _ _ => id
  rintro l raw ⟨hl, -⟩
  exact hQ l _ ((List.suffix_cons _ _).trans ((List.suffix_cons _ _).trans hl)) rfl

theorem rotateRefreshToken_spends (t : String) :
    SatE (TokenService.rotateRefreshToken env t) (fun _ _ => True)
      (fun l x => ∃ record, Spends env l t record ∧ record.userId = x.2) (fun _ _ => True) [] := by
  simp only [TokenService.satE_rotateRefreshToken, TokenService.satE_rotateRecord, TokenService.satE_isStale,
    TokenService.satE_revokeAllUserTokens, implies_true, true_and, and_true]
  refine fun record => ⟨fun _ hne => absurd trivial hne, fun hlive now hfresh _ r => ?_⟩
  refine createRefreshToken_stored.mono (fun _ _ => id) ?_ fun _ _ => id
  rintro l raw ⟨hl, -⟩
  exact ⟨record, ⟨_, now, precedes_cons List.mem_cons_self, Bool.eq_false_iff.2 hlive,
    fun h => hfresh (decide_eq_true h), hl⟩, rfl⟩

theorem resolveOAuth_matched (profile : OAuthProfile) :
    SatE (AuthService.resolveOAuth env profile) (fun _ _ => True) (fun l u => Matched l profile u)
      (fun _ _ => True) [] := by
  simp
  refine ⟨⟨fun n u m r => ?_, fun u m r => ?_⟩, fun u => .found List.mem_cons_self⟩
  · exact .linked (Or.inr ⟨_, _, List.mem_cons_of_mem _ (List.mem_cons_of_mem _ List.mem_cons_self)⟩)
      List.mem_cons_self
  · exact .linked (Or.inl (by simp)) List.mem_cons_self

/-- **Every handler** has done what it confirms. -/
theorem handle_confirms (q : Request) :
    SatE (handle env q) (fun _ _ => True) (fun log a => Confirms env log q a) (fun _ _ => True) [] := by
  cases q with
  | register email username password =>
    simp only [handle, Routes.register, satE_map, AuthService.register, satE_bind,
      AuthService.satE_validatePassword, AuthService.satE_validateUsername, UserService.satE_create,
      satE_hashPassword, implies_true, true_and, and_true]
    intro _ _ salt hash hhash n r
    exact issueTokens_shows fun l b hl hb => .register (hl.subset List.mem_cons_self) hhash hb
  | login email password =>
    simp only [handle, Routes.login, satE_map, AuthService.login, satE_bind, UserService.satE_findByEmail,
      satE_ite, satE_throw, UserService.satE_findLocalCredential, satE_verifyPassword, implies_true,
      true_and, and_true]
    intro u hactive c v hverify hv
    rw [hv] at hverify
    exact issueTokens_shows fun l b hl hb =>
      .login ((precedes_cons List.mem_cons_self).mono hl) hactive hverify hb
  | refresh t =>
    simp only [handle, Routes.refresh, AuthService.refresh, satE_map, satE_bind]
    refine (rotateRefreshToken_spends t).mono (fun _ _ => id) ?_ fun _ _ => id
    rintro l ⟨raw, userId⟩ ⟨record, hspends, rfl⟩
    simp only [satE_bind, satE_ite, UserService.satE_findById, UserService.satE_findLocalCredential,
      TokenService.satE_generateAccessToken, satE_throw, satE_pure, implies_true, true_and, and_true]
    intro u hactive
    have hconfirms : ∀ {credential : Option LocalCredential} {x y : (o : Op) × Ret o} {b : AuthResponse},
        b.user = .from ⟨u, credential⟩ → Confirms env
          (x :: y :: ⟨.sql (.selectLocalCredential u.id), .ok credential⟩ ::
            ⟨.sql (.selectUserById record.userId), .ok (some u)⟩ :: l) (.refresh t) (.auth b) := fun hb =>
      .refresh (hspends.mono ⟨[_, _, _, _], rfl⟩) ((precedes_cons List.mem_cons_self).mono ⟨[_, _], rfl⟩)
        hactive hb
    exact ⟨fun _ _ _ => hconfirms rfl, fun _ _ _ _ => hconfirms rfl⟩
  | oauthLogin profile =>
    simp only [handle, Routes.oauthLogin, satE_map, AuthService.loginOrRegisterOAuth, satE_bind, satE_ite,
      UserService.satE_findLocalCredential, satE_throw, implies_true, true_and, and_true]
    refine (resolveOAuth_matched profile).mono (fun _ _ => id) ?_ fun _ _ => id
    intro l u hmatched hactive
    have hconfirms : ∀ credential, SatE (AuthService.issueTokens env u .oauth ⟨u, credential⟩)
        (fun _ _ => True) (fun l b => Confirms env l (.oauthLogin profile) (.auth b)) (fun _ _ => True)
        (⟨.sql (.selectLocalCredential u.id), .ok credential⟩ :: l) := fun credential =>
      issueTokens_shows fun l b hl hb => .oauthLogin hmatched hl hactive hb
    exact ⟨hconfirms none, fun c => hconfirms (some c)⟩
  | logout authorization =>
    simp [handle, Routes.logout, AuthService.logout]
    exact fun token htoken claims r =>
      .logout ⟨_, _, token, rfl, htoken, Role.isAtLeast_guest _, by simp⟩ List.mem_cons_self
  | listConnections authorization =>
    simp [handle, Routes.listConnections]
    exact fun token htoken claims hrole cs =>
      .listConnections ⟨_, _, token, rfl, htoken, hrole, by simp⟩ List.mem_cons_self
  | unlinkConnection authorization slug =>
    simp [handle, Routes.unlinkConnection]
    exact fun token htoken claims hrole provider hslug n hn =>
      .unlinkConnection ⟨_, _, token, rfl, htoken, hrole, by simp⟩ hslug List.mem_cons_self hn
  | getMe authorization =>
    simp [handle, Routes.getMe]
    intro token htoken claims hrole u
    have hconfirms : ∀ credential, Confirms env
        [⟨.sql (.selectLocalCredential u.id), .ok credential⟩,
          ⟨.sql (.selectUserById claims.sub), .ok (some u)⟩, ⟨.decode token, .ok claims⟩]
        (.getMe authorization) (.user (.from ⟨u, credential⟩)) := fun credential =>
      .getMe ⟨_, _, token, rfl, htoken, hrole, by simp⟩ (precedes_cons List.mem_cons_self)
    exact ⟨hconfirms none, fun c => hconfirms (some c)⟩
  | changePassword authorization current new =>
    simp [handle, Routes.changePassword]
    exact fun token htoken claims hrole c hverify salt hash hhash _ =>
      .changePassword ⟨_, _, token, rfl, htoken, hrole, by simp⟩ (by simp) hverify hhash
        (precedes_cons List.mem_cons_self)
  | deactivateAccount authorization =>
    simp [handle, Routes.deactivateAccount]
    exact fun token htoken claims hrole _ =>
      .deactivateAccount ⟨_, _, token, rfl, htoken, hrole, by simp⟩ (precedes_cons List.mem_cons_self)
  | updateUserRole authorization target role =>
    simp [handle, Routes.updateUserRole, AdminService.updateUserRole]
    intro token htoken claims hrole hne u
    have hconfirms : ∀ credential, Confirms env
        [⟨.sql (.selectLocalCredential u.id), .ok credential⟩, ⟨.sql (.updateRole role target), .ok (some u)⟩,
          ⟨.decode token, .ok claims⟩] (.updateUserRole authorization target role)
        (.user (.from ⟨u, credential⟩)) := fun credential =>
      .updateUserRole ⟨_, _, token, rfl, htoken, Role.isAtLeast_admin.2 hrole, by simp⟩ hne
        (precedes_cons List.mem_cons_self)
    exact ⟨hconfirms none, fun c => hconfirms (some c)⟩

/-! ### Actions -/

theorem Directory.Step.setPassword {d d' : Directory} {p : String} {a : Account}
    (h : Directory.Step d (.setPassword id p) d') (ha : d.accounts id = some a) :
    d'.accounts id = some (a.withPassword p) := by
  rw [h.accounts, Action.accounts, Action.rewrite_some ha, if_pos rfl]

theorem Directory.Step.deactivate {d d' : Directory} {a : Account}
    (h : Directory.Step d (.deactivate id) d') (ha : d.accounts id = some a) :
    d'.accounts id = some { a with isActive := false } := by
  rw [h.accounts, Action.accounts, Action.rewrite_some ha, if_pos rfl]

/-- An account with a password can be given another one. -/
theorem Account.withPassword_of_some {a : Account} {p p' : String} (h : a.password = some p) :
    (a.withPassword p').password = some p' := by
  rw [Account.password_withPassword, h, Option.map_some]

/-! ### Rows -/

/-- An identity is linked where there is a row for it. -/
theorem Db.identities_some {identity : Provider × String} : db.identities identity = some id ↔
    ∃ o ∈ db.oauthCredentials.rows, (o.provider, o.providerUserId) = identity ∧ o.userId = id := by
  unfold Db.identities
  rw [Option.map_eq_some_iff]
  constructor
  · rintro ⟨o, ho, rfl⟩
    obtain ⟨hmem, hp, hpuid⟩ := of_find?_eq_some ho
    exact ⟨o, hmem, Prod.ext hp hpuid, rfl⟩
  · rintro ⟨o, hmem, rfl, rfl⟩
    cases hfind : db.findOAuthCredential o.provider o.providerUserId with
    | none => exact absurd (decide_eq_true ⟨rfl, rfl⟩) (List.find?_eq_none.1 hfind o hmem)
    | some o' =>
      obtain ⟨hmem', hp, hpuid⟩ := of_find?_eq_some hfind
      exact ⟨o', rfl, congrArg _ (db.oauthCredentials.eq_of_clash (List.mem_cons_of_mem _ List.mem_cons_self)
        hmem' hmem (oauthIdentityKey_clash.2 ⟨hp, hpuid⟩))⟩

/-- Usernames are permanent. -/
theorem State.Le.username (hle : s.Le s') (hu : u ∈ s.db.users.rows) :
    (s'.db.findLocalCredential u.id).map (·.username) = (s.db.findLocalCredential u.id).map (·.username) := by
  cases hfind : s.db.findLocalCredential u.id with
  | none =>
    cases hfind' : s'.db.findLocalCredential u.id with
    | none => rfl
    | some c' =>
      obtain ⟨hc', hid'⟩ := Db.findLocalCredential_some hfind'
      obtain ⟨c, hc, hid⟩ := hle.localCredentials_old u hu c' hc' hid'
      exact absurd hid (Db.findLocalCredential_none.1 hfind c hc)
  | some c =>
    obtain ⟨hc, hid⟩ := Db.findLocalCredential_some hfind
    obtain ⟨c', hc', hid', hname⟩ := hle.localCredentials c hc
    cases hfind' : s'.db.findLocalCredential u.id with
    | none => exact absurd (hid'.trans hid) (Db.findLocalCredential_none.1 hfind' c' hc')
    | some d =>
      obtain ⟨hd, hid''⟩ := Db.findLocalCredential_some hfind'
      rw [Db.localCredential_unique hd hc' (hid''.trans (hid'.trans hid).symm)]
      exact congrArg some hname

theorem accountOf_username_eq {c : Option LocalCredential} :
    (accountOf env c u).username = c.map (·.username) := by
  cases c <;> rfl

/-- The directory grows with the state. -/
theorem State.Le.directory (hle : s.Le s') : (directory env s.db).Le (directory env s'.db) := by
  intro id a ha
  obtain ⟨u, hfind, rfl⟩ := Option.map_eq_some_iff.1 ha
  obtain ⟨hu, rfl⟩ := Db.findUser_some hfind
  obtain ⟨u', hu', hid, hemail, hname, hactive⟩ := hle.users u hu
  have ha' := @accounts_of_mem env _ _ hu'
  rw [hid] at ha'
  refine ⟨_, ha', hemail, hname, ?_, hactive⟩
  rw [accountOf_username_eq, accountOf_username_eq]
  exact hle.username hu

/-- What a new user with a local credential looks like. -/
theorem insertAccount_returns {email name username hash : String} {c : LocalCredential}
    (h : Stmt env (.sql (.insertAccount id email name username hash)) s (.ok (u, c)) s') :
    u.id = id ∧ u.email = email ∧ u.displayName = name ∧ u.role = .user ∧ c.username = username := by
  obtain ⟨db, hq, -⟩ := h.sql_ok
  obtain ⟨db₁, -, hq⟩ := bind_eq_ok hq
  obtain ⟨db₂, -, hq⟩ := bind_eq_ok hq
  cases hq
  exact ⟨rfl, rfl, rfl, rfl, rfl⟩

/-- What a user looks like whose role has been assigned. -/
theorem updateRole_returns {role : Role}
    (h : Stmt env (.sql (.updateRole role id)) s (.ok (some u)) s') :
    u ∈ s'.db.users.rows ∧ u.id = id ∧ u.role = role := by
  obtain ⟨db, hq, rfl⟩ := h.sql_ok
  have hrows := (apply_ok hq).1
  obtain ⟨hfind, hdb⟩ := Prod.mk.inj (Except.ok.inj hq)
  rw [hdb] at hfind
  obtain ⟨hu, hid⟩ := Db.findUser_some hfind
  refine ⟨hu, hid, ?_⟩
  rw [hrows] at hu
  obtain ⟨v, -, heq⟩ := List.mem_map.1 hu
  by_cases hv : v.id = id
  · rw [← heq, if_pos hv]
  · rw [← heq, if_neg hv] at hid
    exact absurd hid hv

/-- The user of a profile has been returned with its email address. -/
theorem Addressed.returned {log : Log Op Ret} {email : String} (haddressed : Addressed log email u) :
    ∃ (o : Op) (r : Ret o), ⟨o, r⟩ ∈ log ∧
      ∀ {s s'}, Stmt env o s r s' → u ∈ s'.db.users.rows ∧ u.email = email := by
  rcases haddressed with hlog | ⟨id, name, hlog⟩
  · refine ⟨_, _, hlog, fun hstmt => ?_⟩
    obtain ⟨rfl, hfound⟩ := selectUserByEmail_row hstmt
    exact hfound u rfl
  · exact ⟨_, _, hlog, fun hstmt => ⟨(insertUser_row hstmt).1, insertUser_returns hstmt⟩⟩

/-- The connections of a user, from the oldest on. -/
theorem selectOAuthConnections_returns {cs : List OAuthConnection}
    (h : Stmt env (.sql (.selectOAuthConnections id)) s (.ok cs) s') :
    (∀ identity, s'.db.identities identity = some id ↔ ∃ k ∈ cs, (k.provider, k.providerUserId) = identity) ∧
      cs.Pairwise fun k k' => k.createdAt ≤ k'.createdAt := by
  obtain ⟨db, hq, rfl⟩ := h.sql_ok
  cases hq
  refine ⟨fun identity => ?_, List.pairwise_map.2 (List.pairwise_insertionSort _ _)⟩
  rw [Db.identities_some]
  constructor
  · rintro ⟨o, ho, rfl, rfl⟩
    refine ⟨o.connection, List.mem_map_of_mem ((List.mem_insertionSort _).2 ?_), rfl⟩
    exact List.mem_filter.2 ⟨ho, decide_eq_true rfl⟩
  · rintro ⟨k, hk, rfl⟩
    obtain ⟨o, ho, rfl⟩ := List.mem_map.1 hk
    obtain ⟨ho, hid⟩ := List.mem_filter.1 ((List.mem_insertionSort _).1 ho)
    exact ⟨o, ho, rfl, of_decide_eq_true hid⟩

/-- Where rows have been deleted, identities were linked. -/
theorem deleteOAuthCredential_returns {provider : Provider} {n : ℕ}
    (h : Stmt env (.sql (.deleteOAuthCredential id provider)) s (.ok n) s') (hn : n ≠ 0) :
    ∃ puid, s.db.identities (provider, puid) = some id := by
  obtain ⟨db, hq, rfl⟩ := h.sql_ok
  cases hq
  obtain ⟨o, ho⟩ := List.exists_mem_of_length_pos (Nat.pos_of_ne_zero hn)
  obtain ⟨hmem, hkeep⟩ := List.mem_filter.1 ho
  obtain ⟨hid, hp⟩ := of_decide_eq_true hkeep
  exact ⟨o.providerUserId, Db.identities_some.2 ⟨o, hmem, Prod.ext hp rfl, hid⟩⟩

/-! ### Performed logs -/

/-- The statements of the log have been executed one after another; `M x s s'` says that `x` has been
executed in the state `s`, which it has left for `s'`. -/
structure Performed (env : Env) (log : Log Op Ret) (M : (o : Op) × Ret o → State → State → Prop) : Prop where
  stmt : ∀ {x s s'}, M x s s' → Stmt env x.1 s x.2 s'
  mem : ∀ {x}, x ∈ log → ∃ s s', M x s s'
  precedes : ∀ {x y}, Precedes log x y → ∃ s s' t t', M x s s' ∧ M y t t' ∧ s'.Le t

/-- What a response shows of an account. -/
structure UserResponse.Shows (v : UserResponse) (id : Uuid) (a : Account) : Prop where
  id : v.id = id
  email : v.email = a.email
  displayName : v.displayName = a.displayName
  username : v.username = a.username
  role : v.role = a.role
  hasLocalCredential : v.hasLocalCredential = a.credential.isSome

section Performed

variable {M : (o : Op) × Ret o → State → State → Prop} (hlog : Performed env log M)

include hlog

/-- **What a response shows** is an account as one statement has left it, although its credential is looked
up later. -/
theorem Performed.shows {x : (o : Op) × Ret o} {credential : Option LocalCredential}
    (hview : Viewed log x u credential) (hrow : ∀ {s s'}, Stmt env x.1 s x.2 s' → u ∈ s'.db.users.rows) :
    ∃ s s' a, M x s s' ∧ (directory env s'.db).accounts u.id = some a ∧ a.isActive = u.isActive ∧
      (UserResponse.from ⟨u, credential⟩).Shows u.id a := by
  obtain ⟨s, s', t, t', hm, hm', hle⟩ := hlog.precedes hview
  have hu := hrow (hlog.stmt hm)
  have hcredential : t.db.findLocalCredential u.id = credential := by
    obtain ⟨db, hq, -⟩ := (hlog.stmt hm').sql_ok
    exact (Prod.mk.inj (Except.ok.inj hq)).1
  have husername := hle.username hu
  rw [hcredential] at husername
  refine ⟨s, s', _, hm, accounts_of_mem hu, rfl, ⟨rfl, rfl, rfl, ?_, rfl, ?_⟩⟩
  · rw [accountOf_username_eq]
    exact husername
  · have hsome := congrArg Option.isSome husername
    simp only [Option.isSome_map] at hsome
    exact hsome.trans (by simp [accountOf])

/-- The identity of a profile, in the directory that a statement has left. -/
theorem Performed.identity {profile : OAuthProfile} {l : Log Op Ret} (hmatched : Matched l profile u)
    (hl : l <:+ log) : ∃ x y s s', x ∈ l ∧ M y s s' ∧
      (∀ {s s'}, Stmt env x.1 s x.2 s' → u ∈ s'.db.users.rows) ∧
      ((directory env s'.db).identities (.from profile.provider, profile.providerUserId) = some u.id ∨
        (directory env s'.db).identities (.from profile.provider, profile.providerUserId) ≠ none ∧
          u.email = profile.email) := by
  cases hmatched with
  | found hfound =>
    obtain ⟨s, s', hm⟩ := hlog.mem (hl.subset hfound)
    obtain ⟨rfl, -⟩ := selectUserByOAuthIdentity_row (hlog.stmt hm)
    obtain ⟨-, o, ho, hp, hpuid, hid⟩ :=
      Db.findUserByOAuthIdentity_some (selectUserByOAuthIdentity_found (hlog.stmt hm)).2
    refine ⟨_, _, _, _, hfound, hm, fun hstmt => ?_, Or.inl ?_⟩
    · obtain ⟨rfl, hu⟩ := selectUserByOAuthIdentity_row hstmt
      exact hu
    · exact Db.identities_some.2 ⟨o, ho, Prod.ext hp hpuid, hid⟩
  | linked haddressed hlinks =>
    obtain ⟨o, r, hx, hreturned⟩ := @Addressed.returned env _ _ _ haddressed
    obtain ⟨s, s', hm⟩ := hlog.mem (hl.subset hlinks)
    obtain ⟨t, t', hm'⟩ := hlog.mem (hl.subset hx)
    have hemail := (hreturned (hlog.stmt hm')).2
    obtain ⟨db, hq, rfl⟩ := (hlog.stmt hm).sql_ok
    refine ⟨_, _, _, _, hx, hm, fun hstmt => (hreturned hstmt).1, Or.inr ⟨?_, hemail⟩⟩
    rcases @directory_acts env _ _ _ _ _ _ hq rfl with hstep | ⟨⟨identity, id', heq, hne⟩, hsame⟩
    · rw [hstep.identities]
      simp [Action.identities]
    · cases heq
      rw [hsame]
      exact hne

/-- **Who signs in with a profile** is shown an active account as one statement has left it, to which the
identity belongs or which has the email address of the profile. -/
theorem Performed.oauthLogin {profile : OAuthProfile} {b : AuthResponse}
    (h : Confirms env log (.oauthLogin profile) (.auth b)) : ∃ id a x s s' y t t', M x s s' ∧ M y t t' ∧
      (directory env s'.db).accounts id = some a ∧ a.isActive = true ∧ b.user.Shows id a ∧
      ((directory env t'.db).identities (.from profile.provider, profile.providerUserId) = some id ∨
        (directory env t'.db).identities (.from profile.provider, profile.providerUserId) ≠ none ∧
          a.email = profile.email) := by
  cases h with
  | oauthLogin hmatched hview hactive hb =>
    obtain ⟨x, y, t, t', hx, hm', hrow, hidentity⟩ :=
      hlog.identity hmatched ((List.suffix_cons _ _).trans hview)
    obtain ⟨s, s', a, hm, ha, hactive', hshows⟩ := hlog.shows ⟨_, hx, hview⟩ hrow
    refine ⟨_, a, x, s, s', y, t, t', hm, hm', ha, hactive'.trans hactive, ?_, ?_⟩
    · rw [hb]
      exact hshows
    · exact hidentity.imp_right fun h => ⟨h.1, hshows.email.symm.trans h.2⟩

end Performed

/-! ### What responses say -/

/-- One of the statements of request `i` has left the directory `d`. -/
def Meets (env : Env) (H : Trace) (i : ℕ) (d : Directory) : Prop :=
  ∃ (o : Op) (r : Ret o) (s s' : State), .stmt i o r s s' ∈ H ∧ directory env s'.db = d

/-- Request `i` has taken the action, from one directory to another. -/
def Takes (env : Env) (H : Trace) (i : ℕ) (d : Directory) (x : Action) (d' : Directory) : Prop :=
  ∃ (o : Op) (r : Ret o) (s s' : State), .stmt i o r s s' ∈ H ∧ directory env s.db = d ∧
    directory env s'.db = d' ∧ Directory.Step d x d'

/-- The statement of request `i` after `h` leaves the user without refresh tokens. -/
def EndsSessions (H h : Trace) (i : ℕ) (id : Uuid) : Prop :=
  ∃ (o : Op) (r : Ret o) (s s' : State), Occurs H h (.stmt i o r s s') ∧
    ∀ row ∈ s'.db.refreshTokens.rows, row.userId = id → row.revoked = true

/-- Request `i` has found the refresh token `t` of the user alive, and has revoked it. -/
def Renews (env : Env) (H : Trace) (i : ℕ) (t : String) (id : Uuid) : Prop :=
  ∃ (o o' : Op) (r : Ret o) (r' : Ret o') (h : Trace) (s s' x x' : State) (row : RefreshToken),
    Occurs H h (.stmt i o' r' x x') ∧ .stmt i o r s s' ∈ h ∧ row ∈ s.db.refreshTokens.rows ∧
    row.lookupKey = TokenService.computeLookupKey env t ∧ row.userId = id ∧ row.revoked = false ∧
    s.clock ≤ row.expiresAt ∧
    ∀ row' ∈ x'.db.refreshTokens.rows, row'.lookupKey = row.lookupKey → row'.revoked = true

/-- What the response to request `i` says is true. -/
inductive Confirmed (env : Env) (H : Trace) (i : ℕ) : Request → Response → Prop
  /-- The account has been opened. -/
  | register {email username password : String} {id : Uuid} {d d' : Directory} {b : AuthResponse}
    (hopens : Takes env H i d (.openAccount id email (localPart email) (some (username, password))) d')
    (hshows : b.user.Shows id ⟨email, localPart email, .user, true, some (username, password)⟩) :
    Confirmed env H i (.register email username password) (.auth b)
  /-- The active account has the email address and has had the password. -/
  | login {email password : String} {id : Uuid} {a a' : Account} {b : AuthResponse}
    (ha : Sees env H i id a) (hemail : a.email = email) (hactive : a.isActive = true)
    (ha' : Sees env H i id a') (hp : a'.password = some password) (hshows : b.user.Shows id a) :
    Confirmed env H i (.login email password) (.auth b)
  /-- The token was one of the active account. -/
  | refresh {t : String} {id : Uuid} {a : Account} {b : AuthResponse} (ht : Renews env H i t id)
    (ha : Sees env H i id a) (hactive : a.isActive = true) (hshows : b.user.Shows id a) :
    Confirmed env H i (.refresh t) (.auth b)
  | logout {authorization : Option String} {claims : Claims} {h : Trace}
    (hclaims : Authenticated env H i (.logout authorization) claims)
    (hends : EndsSessions H h i claims.sub) :
    Confirmed env H i (.logout authorization) (.message "Logged out successfully")
  /-- The identity belonged to the active account, or it belongs to somebody now, and the account has the
  email address of the profile. -/
  | oauthLogin {profile : OAuthProfile} {id : Uuid} {a : Account} {d : Directory} {b : AuthResponse}
    (ha : Sees env H i id a) (hactive : a.isActive = true) (hd : Meets env H i d)
    (hidentity : d.identities (.from profile.provider, profile.providerUserId) = some id ∨
      d.identities (.from profile.provider, profile.providerUserId) ≠ none ∧ a.email = profile.email)
    (hshows : b.user.Shows id a) : Confirmed env H i (.oauthLogin profile) (.auth b)
  /-- These are the identities of the caller, from the oldest on. -/
  | listConnections {authorization : Option String} {claims : Claims} {d : Directory}
    {cs : List OAuthConnection} (hclaims : Authenticated env H i (.listConnections authorization) claims)
    (hd : Meets env H i d)
    (hcs : ∀ identity, d.identities identity = some claims.sub ↔
      ∃ k ∈ cs, (k.provider, k.providerUserId) = identity)
    (hsorted : cs.Pairwise fun k k' => k.createdAt ≤ k'.createdAt) :
    Confirmed env H i (.listConnections authorization) (.connections cs)
  /-- Identities of the provider have been unlinked. -/
  | unlinkConnection {authorization : Option String} {slug puid : String} {provider : OAuthProvider}
    {claims : Claims} {d d' : Directory}
    (hclaims : Authenticated env H i (.unlinkConnection authorization slug) claims)
    (hslug : OAuthProvider.fromSlug slug = some provider)
    (hlinked : d.identities (.from provider, puid) = some claims.sub)
    (hunlinks : Takes env H i d (.unlink claims.sub (.from provider)) d') :
    Confirmed env H i (.unlinkConnection authorization slug)
      (.message ("Provider '" ++ provider.slug ++ "' unlinked successfully"))
  | getMe {authorization : Option String} {claims : Claims} {a : Account} {v : UserResponse}
    (hclaims : Authenticated env H i (.getMe authorization) claims) (ha : Sees env H i claims.sub a)
    (hshows : v.Shows claims.sub a) : Confirmed env H i (.getMe authorization) (.user v)
  /-- The password was the current one and is the new one, and the sessions have ended. -/
  | changePassword {authorization : Option String} {current new : String} {claims : Claims} {h : Trace}
    {d d' : Directory} {a₀ a : Account}
    (hclaims : Authenticated env H i (.changePassword authorization current new) claims)
    (ha₀ : Sees env H i claims.sub a₀) (hp₀ : a₀.password = some current)
    (hsets : Takes env h i d (.setPassword claims.sub new) d') (ha : d'.accounts claims.sub = some a)
    (hp : a.password = some new) (hends : EndsSessions H h i claims.sub) :
    Confirmed env H i (.changePassword authorization current new) (.message "Password updated successfully")
  /-- The account is inactive, and the sessions have ended. -/
  | deactivateAccount {authorization : Option String} {claims : Claims} {h : Trace} {d d' : Directory}
    {a : Account} (hclaims : Authenticated env H i (.deactivateAccount authorization) claims)
    (hdeactivates : Takes env h i d (.deactivate claims.sub) d') (ha : d'.accounts claims.sub = some a)
    (hinactive : a.isActive = false) (hends : EndsSessions H h i claims.sub) :
    Confirmed env H i (.deactivateAccount authorization) (.message "Account deactivated")
  /-- The account of somebody else has the role. -/
  | updateUserRole {authorization : Option String} {target : Uuid} {role : Role} {claims : Claims}
    {d d' : Directory} {a : Account} {v : UserResponse}
    (hclaims : Authenticated env H i (.updateUserRole authorization target role) claims)
    (hadmin : claims.role = .admin) (hne : claims.sub ≠ target)
    (hassigns : Takes env H i d (.setRole target role) d') (ha : d'.accounts target = some a)
    (hrole : a.role = role) (hshows : v.Shows target a) :
    Confirmed env H i (.updateUserRole authorization target role) (.user v)

section Runs

variable {s₀ : State} {c : Pool Op Ret Request (Except AppError Response) State} {h : Trace} {i : ℕ}
  (hc : (service env).Reachable s₀ c) (hh : h <:+ c.history)

/-- One statement of a request after another. -/
theorem stmts_of_precedes {o o' : Op} {r : Ret o} {r' : Ret o'}
    (hp : Precedes (localLog i h) ⟨o, r⟩ ⟨o', r'⟩) : ∃ past s s' t t',
      Occurs h past (.stmt i o' r' t t') ∧ .stmt i o r s s' ∈ past := by
  obtain ⟨l, hx, hy⟩ := hp
  obtain ⟨past, t, t', hocc, rfl⟩ := exists_occurs_of_suffix hy
  obtain ⟨s, s', hm⟩ := exists_stmt_of_mem_localLog hx
  exact ⟨past, s, s', t, t', hocc, hm⟩

include hc hh

/-- The log of a request has been executed. -/
theorem performed_of_run : Performed env (localLog i h) fun x s s' => .stmt i x.1 x.2 s s' ∈ h where
  stmt := fun hm => service_stmt hc (hh.subset hm)
  mem := fun hm => exists_stmt_of_mem_localLog hm
  precedes := fun hp => by
    obtain ⟨past, s, s', t, t', hocc, hm⟩ := stmts_of_precedes hp
    exact ⟨s, s', t, t', hocc.past.subset hm, hocc.mem, service_le hc (hocc.of_suffix hh) hm⟩

/-- The step that a statement takes. -/
theorem step_of_stmt {sql : Sql} {res : sql.Result} {x : Action} (hm : .stmt i (.sql sql) (.ok res) s s' ∈ h)
    (hx : sql.action env = some x) (hlink : ∀ identity id, x ≠ .link identity id) :
    Directory.Step (directory env s.db) x (directory env s'.db) := by
  obtain ⟨db, hq, rfl⟩ := (service_stmt hc (hh.subset hm)).sql_ok
  rcases directory_acts hq hx with hstep | ⟨⟨identity, id, heq, -⟩, -⟩
  · exact hstep
  · exact absurd heq (hlink identity id)

/-- Revoking all tokens of a user ends the sessions. -/
theorem endsSessions_of_stmt {past : Trace} {r : Unit}
    (hocc : Occurs h past (.stmt i (.sql (.revokeUserRefreshTokens id)) (.ok r) s s')) :
    EndsSessions h past i id := by
  refine ⟨_, _, _, _, hocc, fun row hrow hid => ?_⟩
  obtain ⟨db, hq, rfl⟩ := (service_stmt hc (hocc.of_suffix hh).mem).sql_ok
  rw [(apply_ok hq).2.2.2] at hrow
  obtain ⟨row₀, -, rfl⟩ := List.mem_map.1 hrow
  by_cases hrow₀ : row₀.userId = id ∧ row₀.revoked = false
  · rw [if_pos hrow₀]
  · rw [if_neg hrow₀] at hid ⊢
    exact Bool.not_eq_false _ ▸ fun hrevoked => hrow₀ ⟨hid, hrevoked⟩

/-- A token that has been found alive and has been revoked then has been exchanged. -/
theorem Spends.renews {t : String} {record : RefreshTokenRow}
    (hspends : Spends env (localLog i h) t record) : Renews env h i t record.userId := by
  obtain ⟨l, now, hnow, hlive, hfresh, hrevokes⟩ := hspends
  obtain ⟨past, x, x', hrevoke, rfl⟩ := exists_occurs_of_suffix hrevokes
  obtain ⟨past', s, s', y, y', hread, hselect⟩ := stmts_of_precedes hnow
  have hfind := hrevoke.past.trans hh
  -- The row that has been found, when the clock is read and when the token is revoked.
  have hselect' := hread.past.subset hselect
  obtain ⟨rfl, row, hrow, hkey, rfl⟩ := selectRefreshToken_row (service_stmt hc (hfind.subset hselect'))
  obtain ⟨rfl, -⟩ := (service_stmt hc (hfind.subset hread.mem)).now_eq
  have hclock := (service_le hc (hread.of_suffix hfind) hselect).clock
  have hle := service_le hc (hrevoke.of_suffix hh) hselect'
  refine ⟨_, _, _, _, past, s', s', x, x', row, hrevoke, hselect', hrow, hkey, rfl, hlive, ?_, ?_⟩
  · exact (Int.ofNat_le.2 hclock).trans (not_lt.1 hfresh)
  · intro row' hrow' hkey'
    obtain ⟨db, hq, rfl⟩ := (service_stmt hc (hrevoke.of_suffix hh).mem).sql_ok
    rw [(apply_ok hq).2.2.2] at hrow'
    obtain ⟨row₀, hrow₀, rfl⟩ := List.mem_map.1 hrow'
    obtain ⟨row₁, hrow₁, heq, -⟩ := hle.refreshTokens row hrow
    by_cases hid : row₀.id = row.record.id
    · rw [if_pos hid]
    · rw [if_neg hid] at hkey'
      rw [Db.refreshToken_unique hrow₀ hrow₁ (by rw [hkey', heq]), heq] at hid
      exact absurd rfl hid

/-- An account that is deactivated is there. -/
theorem account_of_deactivates (hminted : s₀.minted = []) {r : Ret (.sql (.deactivateUser id))} {past : Trace}
    (hocc : Occurs h past (.stmt i (.sql (.deactivateUser id)) r s s')) :
    ∃ a, (directory env s.db).accounts id = some a := by
  obtain ⟨q, -, authorization, claims, -, hv, rfl⟩ := hc.at_stmt handle_warranted (hocc.of_suffix hh)
  obtain ⟨_, _, _, _, _, _, _, _, _, hdec, hprovenance⟩ :=
    hv.authenticated hc hminted (hocc.past.trans hh)
  obtain ⟨_, _, _, _, _, _, _, _, hencode, _, u, ⟨_, _, t, t', hread, _, hu⟩, _, hsub, _⟩ := hprovenance
  -- The user whom a sign-in has read before it signed the claims is still there.
  have hle := service_le hc (hocc.of_suffix hh) ((hencode.past.trans hdec.past).subset hread)
  obtain ⟨v, hv, hid, -⟩ := hle.users u hu
  rw [hsub, ← hid]
  exact ⟨_, accounts_of_mem hv⟩

/-- An account whose password is set has one. -/
theorem password_of_stmt {hash : String} {r : Ret (.sql (.updatePasswordHash hash id))} {past : Trace}
    (hocc : Occurs h past (.stmt i (.sql (.updatePasswordHash hash id)) r s s')) :
    ∃ a p, (directory env s.db).accounts id = some a ∧ a.password = some p := by
  obtain ⟨q, -, _, _, _, _, d, _, -, -, -, hlog, -⟩ := hc.at_stmt handle_warranted (hocc.of_suffix hh)
  obtain ⟨t, t', hm⟩ := exists_stmt_of_mem_localLog hlog
  have hle := service_le hc (hocc.of_suffix hh) hm
  obtain ⟨rfl, hfound, -⟩ := selectLocalCredential_row (service_stmt hc (hh.subset (hocc.past.subset hm)))
  obtain ⟨d', hd', hid', -⟩ := hle.localCredentials d (hfound d rfl).1
  obtain ⟨a, ha, hp⟩ := accounts_of_credential env hd'
  rw [hid', (hfound d rfl).2] at ha
  exact ⟨a, _, ha, hp⟩

end Runs

/-- **Responses are true.**  However requests interleave and whichever statements fail, what the service
confirms to a request has happened before its response. -/
theorem responses_are_true {s₀ : State} {c : Pool Op Ret Request (Except AppError Response) State}
    (hx : env.prim.Exact) (hminted : s₀.minted = []) (hhashed : AllHashed env s₀)
    (hc : (service env).Reachable s₀ c) {h : Trace} {i : ℕ} {q : Request} {a : Response}
    (hq : .start i q ∈ c.history) (he : Occurs c.history h (.done i (.ok a))) :
    Confirmed env h i q a := by
  have hh := he.past
  have hlog := performed_of_run (i := i) hc hh
  cases service_at_ok handle_confirms hc hq he with
  | register hopens hhash hb =>
    obtain ⟨s, s', hm⟩ := exists_stmt_of_mem_localLog hopens
    obtain ⟨hid, hemail, hname, hrole, husername⟩ := insertAccount_returns (service_stmt hc (hh.subset hm))
    have hstep := step_of_stmt hc hh hm rfl fun _ _ h => by cases h
    rw [plain_hash hx hhash] at hstep
    refine .register ⟨_, _, _, _, hm, rfl, rfl, hstep⟩ ?_
    rw [hb]
    exact ⟨hid, hemail, hname, congrArg some husername, hrole, rfl⟩
  | login hview hactive hverify hb =>
    obtain ⟨s, s', a, hm, ha, hactive', hshows⟩ := hlog.shows hview fun hstmt => by
      obtain ⟨rfl, hfound⟩ := selectUserByEmail_row hstmt
      exact (hfound _ rfl).1
    obtain ⟨rfl, hfound⟩ := selectUserByEmail_row (service_stmt hc (hh.subset hm))
    obtain ⟨l, -, hl⟩ := hview
    obtain ⟨a', ha', hp⟩ := sees_of_verified hc hx hhashed hh (hl.subset List.mem_cons_self) hverify
    refine .login ⟨_, _, _, _, hm, ha⟩ (hshows.email.symm.trans (hfound _ rfl).2) (hactive'.trans hactive)
      ha' hp ?_
    rw [hb]
    exact hshows
  | refresh hspends hview hactive hb =>
    obtain ⟨s, s', a, hm, ha, hactive', hshows⟩ := hlog.shows hview fun hstmt => by
      obtain ⟨rfl, hu, -⟩ := selectUserById_row hstmt
      exact hu
    obtain ⟨-, -, hid⟩ := selectUserById_row (service_stmt hc (hh.subset hm))
    rw [hid] at ha hshows
    refine .refresh (hspends.renews hc hh) ⟨_, _, _, _, hm, ha⟩ (hactive'.trans hactive) ?_
    rw [hb]
    exact hshows
  | logout hv hrevokes =>
    obtain ⟨past, s, s', hocc⟩ := stmt_of_log hrevokes
    exact .logout (hv.authenticated hc hminted hh) (endsSessions_of_stmt hc hh hocc)
  | oauthLogin hmatched hview hactive hb =>
    obtain ⟨id, a, x, s, s', y, t, t', hm, hm', ha, hactive', hshows, hidentity⟩ :=
      hlog.oauthLogin (.oauthLogin hmatched hview hactive hb)
    exact .oauthLogin ⟨_, _, _, _, hm, ha⟩ hactive' ⟨_, _, _, _, hm', rfl⟩ hidentity hshows
  | listConnections hv hlist =>
    obtain ⟨s, s', hm⟩ := exists_stmt_of_mem_localLog hlist
    have hstmt := service_stmt hc (hh.subset hm)
    exact .listConnections (hv.authenticated hc hminted hh) ⟨_, _, _, _, hm, rfl⟩
      (selectOAuthConnections_returns hstmt).1 (selectOAuthConnections_returns hstmt).2
  | unlinkConnection hv hslug hunlinks hn =>
    obtain ⟨s, s', hm⟩ := exists_stmt_of_mem_localLog hunlinks
    obtain ⟨puid, hlinked⟩ := deleteOAuthCredential_returns (service_stmt hc (hh.subset hm)) hn
    exact .unlinkConnection (hv.authenticated hc hminted hh) hslug hlinked
      ⟨_, _, _, _, hm, rfl, rfl, step_of_stmt hc hh hm rfl fun _ _ h => by cases h⟩
  | getMe hv hview =>
    obtain ⟨s, s', a, hm, ha, -, hshows⟩ := hlog.shows hview fun hstmt => by
      obtain ⟨rfl, hu, -⟩ := selectUserById_row hstmt
      exact hu
    obtain ⟨-, -, hid⟩ := selectUserById_row (service_stmt hc (hh.subset hm))
    rw [hid] at ha hshows
    exact .getMe (hv.authenticated hc hminted hh) ⟨_, _, _, _, hm, ha⟩ hshows
  | changePassword hv hread hverify hhash hsets =>
    obtain ⟨past, s, s', t, t', hocc, hm⟩ := stmts_of_precedes hsets
    obtain ⟨a₀, ha₀, hp₀⟩ := sees_of_verified hc hx hhashed hh hread hverify
    have hpast := hocc.past.trans hh
    have hstep := step_of_stmt hc hpast hm rfl fun _ _ h => by cases h
    rw [plain_hash hx hhash] at hstep
    obtain ⟨past', hset⟩ := exists_occurs hm
    obtain ⟨a, p, ha, hp⟩ := password_of_stmt hc hpast hset
    exact .changePassword (hv.authenticated hc hminted hh) ha₀ hp₀ ⟨_, _, _, _, hm, rfl, rfl, hstep⟩
      (hstep.setPassword ha) (Account.withPassword_of_some hp) (endsSessions_of_stmt hc hh hocc)
  | deactivateAccount hv hdeactivates =>
    obtain ⟨past, s, s', t, t', hocc, hm⟩ := stmts_of_precedes hdeactivates
    have hpast := hocc.past.trans hh
    have hstep := step_of_stmt hc hpast hm rfl fun _ _ h => by cases h
    obtain ⟨past', hset⟩ := exists_occurs hm
    obtain ⟨a, ha⟩ := account_of_deactivates hc hpast hminted hset
    exact .deactivateAccount (hv.authenticated hc hminted hh) ⟨_, _, _, _, hm, rfl, rfl, hstep⟩
      (hstep.deactivate ha) rfl (endsSessions_of_stmt hc hh hocc)
  | updateUserRole hv hne hview =>
    obtain ⟨s, s', a, hm, ha, -, hshows⟩ := hlog.shows hview fun hstmt =>
      (updateRole_returns hstmt).1
    obtain ⟨-, hid, hrole⟩ := updateRole_returns (service_stmt hc (hh.subset hm))
    rw [hid] at ha hshows
    have hclaims := hv.authenticated hc hminted hh
    obtain ⟨_, _, _, hrequires, -, hadmin, -⟩ := hv
    cases hrequires
    exact .updateUserRole hclaims (Role.isAtLeast_admin.1 hadmin) hne
      ⟨_, _, _, _, hm, rfl, rfl, step_of_stmt hc hh hm rfl fun _ _ h => by cases h⟩
      ha (hshows.role.symm.trans hrole) hshows

/-- The administrator has made Alice an administrator, as the response says. -/
theorem responses_are_true_of_alice : ∃ c h a, (service demo).Reachable administered c ∧
    Occurs c.history h (.done 2 (.ok a)) ∧
    Confirmed demo h 2 (.updateUserRole (some rootAuthorization) 5 .admin) a := by
  obtain ⟨c, hc, hobs⟩ := exists_run demo administered promotesAlice
    (fun c => ((findStart 2 (.updateUserRole (some rootAuthorization) 5 .admin) c.history).isSome,
      (answer 2 c.history).isSome)) (true, true) (by decide +kernel)
  obtain ⟨hstart, hanswer⟩ := Prod.mk.inj hobs
  obtain ⟨past, hstart⟩ := Option.isSome_iff_exists.1 hstart
  obtain ⟨a, ha⟩ := Option.isSome_iff_exists.1 hanswer
  obtain ⟨h, he⟩ := exists_occurs (done_mem_of_answer ha)
  exact ⟨c, h, a, hc, he, responses_are_true Primitives.ideal_exact (by decide +kernel) administered_hashed
    hc (occurs_of_findStart hstart).mem he⟩

end Socle
