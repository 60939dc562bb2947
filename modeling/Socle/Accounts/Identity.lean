import Socle.Demo
import Socle.Sequential

/-!
# Identities and accounts

* `linkedUsers`: the users that are linked to an identity, one at most;
* `Entry.LogsIn`, `Entry.Unlinks`: a served request has logged an identity in, or unlinked a provider;
* `OneAccount`: an identity that has logged in to an account keeps it until it is unlinked;
* `AttachesByEmail`: an identity is attached to an existing account with the address of its profile only;
* `one_account`: both hold in every sequence of requests, with any failures.
-/

namespace Socle

open Interaction Prog

variable {env : Env}

/-! ### The links of an identity -/

/-- The users to whom an identity is linked. -/
def linkedUsers (db : Db) (provider : Provider) (providerUserId : String) : List Uuid :=
  (db.oauthCredentials.rows.filter fun o =>
    o.provider = provider ∧ o.providerUserId = providerUserId).map (·.userId)

section Links

variable {db db' : Db} {provider : Provider} {puid : String}

theorem mem_linkedUsers {id : Uuid} : id ∈ linkedUsers db provider puid ↔
    ∃ o ∈ db.oauthCredentials.rows, o.provider = provider ∧ o.providerUserId = puid ∧ o.userId = id := by
  simp [linkedUsers, and_assoc]

/-- An identity has one link at most. -/
theorem linkedUsers_cases (db : Db) (provider : Provider) (puid : String) :
    linkedUsers db provider puid = [] ∨ ∃ id, linkedUsers db provider puid = [id] := by
  have hpair := (db.oauthCredentials.distinct oauthIdentityKey
    (List.mem_cons_of_mem _ List.mem_cons_self)).filter fun o =>
      decide (o.provider = provider ∧ o.providerUserId = puid)
  obtain ⟨l, hl⟩ : ∃ l, (db.oauthCredentials.rows.filter fun o =>
    decide (o.provider = provider ∧ o.providerUserId = puid)) = l := ⟨_, rfl⟩
  rw [linkedUsers, hl]
  rcases l with _ | ⟨o, _ | ⟨o', l⟩⟩
  · exact Or.inl rfl
  · exact Or.inr ⟨o.userId, rfl⟩
  · -- Two links of an identity would clash.
    exfalso
    rw [hl] at hpair
    have hmem : ∀ x ∈ o :: o' :: l, x.provider = provider ∧ x.providerUserId = puid := by
      intro x hx
      rw [← hl] at hx
      exact of_decide_eq_true (List.mem_filter.1 hx).2
    obtain ⟨hp, hi⟩ := hmem o List.mem_cons_self
    obtain ⟨hp', hi'⟩ := hmem o' (List.mem_cons_of_mem _ List.mem_cons_self)
    exact (List.pairwise_cons.1 hpair).1 o' List.mem_cons_self
      (oauthIdentityKey_clash.2 ⟨hp.trans hp'.symm, hi.trans hi'.symm⟩)

/-- A link of the identity is the only one. -/
theorem linkedUsers_of_mem {o : OAuthCredential} (ho : o ∈ db.oauthCredentials.rows)
    (hp : o.provider = provider) (hi : o.providerUserId = puid) :
    linkedUsers db provider puid = [o.userId] := by
  have hmem : o.userId ∈ linkedUsers db provider puid := mem_linkedUsers.2 ⟨o, ho, hp, hi, rfl⟩
  rcases linkedUsers_cases db provider puid with hnil | ⟨id, hone⟩
  · rw [hnil] at hmem
    cases hmem
  · rw [hone, List.mem_singleton] at hmem
    rw [hone, hmem]

/-- An identity without links. -/
theorem linkedUsers_eq_nil : linkedUsers db provider puid = [] ↔
    ∀ o ∈ db.oauthCredentials.rows, ¬ (o.provider = provider ∧ o.providerUserId = puid) := by
  simp [linkedUsers]

/-- What the search for an identity returns. -/
theorem selectUserByOAuthIdentity_linked {s s' : State} {found : Option User}
    (h : Stmt env (.sql (.selectUserByOAuthIdentity provider puid)) s (.ok found) s') :
    s' = s ∧ (∀ u, found = some u → u ∈ s.db.users.rows ∧ linkedUsers s.db provider puid = [u.id]) ∧
      (found = none → linkedUsers s.db provider puid = []) := by
  obtain ⟨db, hq, rfl⟩ := h.sql_ok
  obtain ⟨-, hq⟩ := bindTexts_ok.1 hq
  obtain ⟨hu, hdb⟩ := Prod.mk.inj (Except.ok.inj hq)
  refine ⟨by rw [← hdb], fun u hfound => ?_, fun hfound => ?_⟩
  · obtain ⟨hmem, o, ho, hp, hi, hid⟩ := Db.findUserByOAuthIdentity_some (hu.trans hfound)
    exact ⟨hmem, hid ▸ linkedUsers_of_mem ho hp hi⟩
  · exact linkedUsers_eq_nil.2 (Db.findUserByOAuthIdentity_none.1 (hu.trans hfound))

end Links

/-! ### Statements -/

/-- The user and the provider whose links a statement has deleted. -/
def deletes : (o : Op) × Ret o → Option (Uuid × Provider)
  | ⟨.sql (.deleteOAuthCredential userId provider), .ok n⟩ =>
    if n = 0 then none else some (userId, provider)
  | _ => none

section Statements

variable {s s' : State} {o : Op} {r : Ret o} (provider : Provider) (puid : String)

/-- Deleting the links of a user. -/
theorem linkedUsers_delete {db : Db} {userId : Uuid} {provider' : Provider}
    (hkeep : userId ∈ linkedUsers db provider puid → provider' ≠ provider) :
    linkedUsers (db.unlinkOAuthAccount userId provider') provider puid = linkedUsers db provider puid := by
  unfold linkedUsers Db.unlinkOAuthAccount
  rw [Relational.Table.rows_delete, List.filter_filter]
  refine congrArg (List.map _) (List.filter_congr fun o ho => ?_)
  by_cases hmatch : o.provider = provider ∧ o.providerUserId = puid
  · have hdel : ¬ (o.userId = userId ∧ o.provider = provider') := by
      rintro ⟨hid, hp⟩
      exact hkeep (mem_linkedUsers.2 ⟨o, ho, hmatch.1, hmatch.2, hid⟩) (hp ▸ hmatch.1)
    rw [decide_eq_false hdel, Bool.not_false, Bool.and_true]
  · rw [decide_eq_false hmatch, Bool.false_and]

/-- **What a statement does to the links of an identity**: nothing, or it creates the first one, or it
deletes the one there is. -/
theorem Stmt.links_cases (h : Stmt env o s r s') :
    linkedUsers s'.db provider puid = linkedUsers s.db provider puid ∨
    (∃ id userId avatarUrl, o = .sql (.insertOAuthCredential id userId provider puid avatarUrl) ∧
      linkedUsers s.db provider puid = [] ∧ linkedUsers s'.db provider puid = [userId]) ∨
    ∃ userId, deletes ⟨o, r⟩ = some (userId, provider) ∧ linkedUsers s.db provider puid = [userId] ∧
      linkedUsers s'.db provider puid = [] := by
  cases o with
  | sql q =>
    rcases r with e | res
    · exact Or.inl (by rw [h.sql_error])
    obtain ⟨db, hq, rfl⟩ := h.sql_ok
    have hrows := (apply_ok hq).2.2.1
    cases q with
    | insertOAuthCredential id userId provider' puid' avatarUrl =>
      rw [Sql.oauthCredentials] at hrows
      split at hrows
      · exact Or.inl (by rw [linkedUsers, hrows]; rfl)
      · next hany =>
        by_cases hmatch : provider' = provider ∧ puid' = puid
        · -- The identity has not been linked, and is linked now.
          obtain ⟨rfl, rfl⟩ := hmatch
          have hnil : linkedUsers s.db provider' puid' = [] := by
            simpa [linkedUsers_eq_nil] using hany
          refine Or.inr (Or.inl ⟨id, userId, avatarUrl, rfl, hnil, ?_⟩)
          rw [linkedUsers, hrows, List.filter_append, List.map_append]
          unfold linkedUsers at hnil
          rw [hnil]
          simp
        · refine Or.inl ?_
          rw [linkedUsers, hrows, List.filter_append, List.map_append]
          simp [linkedUsers, hmatch]
    | deleteOAuthCredential userId provider' =>
      obtain ⟨hres, rfl⟩ := Prod.mk.inj (Except.ok.inj hq)
      by_cases hgone : userId ∈ linkedUsers s.db provider puid ∧ provider' = provider
      · obtain ⟨hmem, rfl⟩ := hgone
        obtain ⟨o, ho, hp, hi, hid⟩ := mem_linkedUsers.1 hmem
        have hone := linkedUsers_of_mem ho hp hi
        rw [hid] at hone
        refine Or.inr (Or.inr ⟨userId, ?_, hone, ?_⟩)
        · have hne : res ≠ 0 := by
            have hfound : o ∈ s.db.oauthCredentials.rows.filter fun o =>
              decide (o.userId = userId ∧ o.provider = provider') :=
              List.mem_filter.2 ⟨ho, decide_eq_true ⟨hid, hp⟩⟩
            rw [← hres]
            exact (List.length_pos_of_mem hfound).ne'
          simp [deletes, hne]
        · refine linkedUsers_eq_nil.2 fun o' ho' hmatch => ?_
          obtain ⟨ho', hdel⟩ := Relational.Table.mem_delete.1 ho'
          have hone' := linkedUsers_of_mem ho' hmatch.1 hmatch.2
          rw [hone, List.singleton_inj] at hone'
          exact of_decide_eq_false hdel ⟨hone'.symm, hmatch.1⟩
      · exact Or.inl (linkedUsers_delete provider puid fun hmem hp => hgone ⟨hmem, hp⟩)
    | _ => exact Or.inl (by rw [linkedUsers, hrows]; rfl)
  | _ =>
    refine Or.inl ?_
    rcases h.db_cases with hdb | ⟨q, res, ho, -⟩
    · rw [hdb]
    · cases ho

/-- A statement that deletes no link of the user keeps the link of an identity. -/
theorem Stmt.keeps_link (h : Stmt env o s r s') {provider : Provider} {puid : String} {id : Uuid}
    (hs : linkedUsers s.db provider puid = [id]) (hkeep : deletes ⟨o, r⟩ ≠ some (id, provider)) :
    linkedUsers s'.db provider puid = [id] := by
  rcases h.links_cases provider puid with heq | ⟨_, _, _, -, hnil, -⟩ | ⟨userId, hdel, hone, -⟩
  · rw [heq, hs]
  · rw [hs] at hnil
    cases hnil
  · rw [hs, List.singleton_inj] at hone
    exact absurd (hone ▸ hdel) hkeep

end Statements

/-! ### Served requests -/

/-- A successful login of an identity to the account of the user. -/
def Entry.LogsIn (e : Entry) (provider : OAuthProvider) (puid : String) (userId : Uuid) : Prop :=
  ∃ profile response, e.request = .oauthLogin profile ∧ profile.provider = provider ∧
    profile.providerUserId = puid ∧ e.outcome = .ok (.auth response) ∧ response.user.id = userId

/-- The user, authenticated by an access token, has successfully unlinked the provider. -/
def Entry.Unlinks (e : Entry) (userId : Uuid) (provider : OAuthProvider) : Prop :=
  ∃ authorization slug token claims response, e.request = .unlinkConnection authorization slug ∧
    extractBearer authorization = some token ∧ OAuthProvider.fromSlug slug = some provider ∧
    ⟨.decode token, .ok claims⟩ ∈ e.log ∧ claims.sub = userId ∧ e.outcome = .ok response

/-- The statement that deletes links. -/
@[simp] def Op.unlinks : Op → Bool
  | .sql (.deleteOAuthCredential _ _) => true
  | _ => false

theorem deletes_eq_none {o : Op} {r : Ret o} (ho : o.unlinks = false) : deletes ⟨o, r⟩ = none := by
  unfold deletes
  split
  · next heq =>
    cases heq
    cases ho
  · rfl

/-- Only requests to unlink a provider delete links. -/
theorem handle_unlinks (q : Request) (hq : ∀ authorization slug, q ≠ .unlinkConnection authorization slug) :
    SatE (handle env q) (fun _ o => o.unlinks = false) (fun _ _ => True) (fun _ _ => True) [] := by
  cases q with
  | unlinkConnection authorization slug => exact absurd rfl (hq authorization slug)
  | _ =>
    simp [handle, Routes.register, Routes.login, Routes.refresh, Routes.logout, Routes.oauthLogin,
      Routes.listConnections, Routes.getMe, Routes.changePassword, Routes.deactivateAccount,
      Routes.updateUserRole, AuthService.register, AuthService.login, AuthService.refresh,
      AuthService.logout, AuthService.loginOrRegisterOAuth, AdminService.updateUserRole]

/-- A request that has deleted links has authenticated their user and succeeds. -/
theorem unlinkConnection_deletes (authorization : Option String) (slug : String) :
    SatE (Routes.unlinkConnection authorization slug) (fun _ _ => True)
      (fun log _ => ∀ x ∈ log, ∀ userId provider, deletes x = some (userId, provider) →
        ∃ token claims oauthProvider, extractBearer authorization = some token ∧
          OAuthProvider.fromSlug slug = some oauthProvider ∧ provider = .from oauthProvider ∧
          ⟨.decode token, .ok claims⟩ ∈ log ∧ claims.sub = userId)
      (fun log _ => ∀ x ∈ log, deletes x = none) [] := by
  simp [Routes.unlinkConnection, deletes]
  intro token htoken claims _ provider hslug n _
  exact ⟨htoken, provider, hslug, rfl⟩

theorem Provider.from_injective : Function.Injective Provider.from := by
  intro p q
  cases p <;> cases q <;> decide

/-- Statements that delete no link of the user keep the link of an identity. -/
theorem traces_keep_link {log : Log Op Ret} {s s' : State} (h : Traces (Timed (Stmt env)) log s s')
    {provider : Provider} {puid : String} {id : Uuid} (hs : linkedUsers s.db provider puid = [id])
    (hkeep : ∀ x ∈ log, deletes x ≠ some (id, provider)) : linkedUsers s'.db provider puid = [id] := by
  induction log generalizing s' with
  | nil =>
    obtain rfl := h
    exact hs
  | cons x log ih =>
    obtain ⟨s₁, h₁, t, -, hx⟩ := h
    have hs₁ := ih h₁ fun y hy => hkeep y (List.mem_cons_of_mem _ hy)
    exact Stmt.keeps_link hx hs₁ (hkeep x List.mem_cons_self)

/-- **Frame.**  An identity stays linked to its user through every request but the user's own request to
unlink its provider. -/
theorem runs_keep_link {s s' : State} {q : Request} {x : Except AppError Response} {log : Log Op Ret}
    (h : Runs (Recorded (Timed (Stmt env))) (handle env q).run (s, []) x (s', log))
    {provider : OAuthProvider} {puid : String} {id : Uuid}
    (hs : linkedUsers s.db (.from provider) puid = [id])
    (hkeep : ¬ Entry.Unlinks ⟨q, log, x⟩ id provider) : linkedUsers s'.db (.from provider) puid = [id] := by
  by_cases hq : ∃ authorization slug, q = .unlinkConnection authorization slug
  · obtain ⟨authorization, slug, rfl⟩ := hq
    obtain ⟨hlog, htraces⟩ := h.traces (unlinkConnection_deletes authorization slug)
    refine traces_keep_link htraces hs fun y hy hdel => ?_
    rcases x with e | response
    · have hnone := hlog y hy
      rw [hdel] at hnone
      cases hnone
    · obtain ⟨token, claims, oauthProvider, htoken, hslug, hp, hdecode, hsub⟩ := hlog y hy _ _ hdel
      obtain rfl := Provider.from_injective hp
      exact hkeep ⟨authorization, slug, token, claims, response, rfl, htoken, hslug, hdecode, hsub, rfl⟩
  · obtain ⟨-, -, hs'⟩ := Runs.invariant (fun _ s => linkedUsers s.db (.from provider) puid = [id])
      h.of_recorded (handle_unlinks q fun authorization slug heq => hq ⟨authorization, slug, heq⟩)
      (fun _ _ _ _ _ ho ⟨_, _, hstmt⟩ hs => hstmt.keeps_link hs (by simp [deletes_eq_none ho])) hs
    exact hs'

/-! ### Logins -/

/-- The statements that neither link an identity nor unlink a provider. -/
@[simp] def Op.keepsLinks : Op → Bool
  | .sql (.insertOAuthCredential _ _ _ _ _) => false
  | .sql (.deleteOAuthCredential _ _) => false
  | _ => true

theorem Stmt.same_links {s s' : State} {o : Op} {r : Ret o} (h : Stmt env o s r s')
    (ho : o.keepsLinks = true) : s'.db.oauthCredentials.rows = s.db.oauthCredentials.rows := by
  rcases h.db_cases with hdb | ⟨q, res, rfl, hq⟩
  · rw [hdb]
  · rw [(apply_ok hq).2.2.1]
    cases q with
    | insertOAuthCredential | deleteOAuthCredential => cases ho
    | _ => rfl

/-- A program whose statements keep the links keeps them, and its result is what is asserted. -/
theorem runs_same_links_of {α : Type} {Q : α → Prop} {p : App α} {s s' : State} {x : Except AppError α}
    (h : Runs (Timed (Stmt env)) p.run s x s')
    (hp : SatE p (fun _ o => o.keepsLinks = true) (fun _ a => Q a) (fun _ _ => True) []) :
    s'.db.oauthCredentials.rows = s.db.oauthCredentials.rows ∧ ∀ a, x = .ok a → Q a := by
  obtain ⟨l, hx, hs'⟩ := Runs.invariant
    (fun _ t => t.db.oauthCredentials.rows = s.db.oauthCredentials.rows) h hp
    (fun _ _ _ _ _ ho ⟨_, _, hstmt⟩ heq => (hstmt.same_links ho).trans heq) rfl
  refine ⟨hs', fun a ha => ?_⟩
  rw [ha] at hx
  exact hx

theorem runs_same_links {α : Type} {p : App α} {s s' : State} {x : Except AppError α}
    (h : Runs (Timed (Stmt env)) p.run s x s')
    (hp : SatE p (fun _ o => o.keepsLinks = true) (fun _ _ => True) (fun _ _ => True) []) :
    s'.db.oauthCredentials.rows = s.db.oauthCredentials.rows := (runs_same_links_of h hp).1

/-- The links of a profile's identity. -/
def OAuthProfile.linked (p : OAuthProfile) (db : Db) : List Uuid :=
  linkedUsers db (.from p.provider) p.providerUserId

/-- Links appear for the profile's identity only, which has not been linked, and an account that is
already there has the profile's email address. -/
def Attached (p : OAuthProfile) (s s' : State) : Prop :=
  ∀ o ∈ s'.db.oauthCredentials.rows, o ∈ s.db.oauthCredentials.rows ∨
    (p.linked s.db = [] ∧ o.provider = .from p.provider ∧ o.providerUserId = p.providerUserId ∧
      ∀ u ∈ s.db.users.rows, u.id = o.userId → u.email = p.email)

theorem Attached.of_same {p : OAuthProfile} {s s' : State}
    (h : s'.db.oauthCredentials.rows = s.db.oauthCredentials.rows) : Attached p s s' :=
  fun _ ho => Or.inl (h ▸ ho)

/-- Linking an identity that is not linked. -/
theorem linked_of_insert {s s' : State} {id userId : Uuid} {provider : Provider} {puid : String}
    {avatarUrl : Option String} {res : Unit}
    (h : Stmt env (.sql (.insertOAuthCredential id userId provider puid avatarUrl)) s (.ok res) s')
    (hnil : linkedUsers s.db provider puid = []) : ∃ o : OAuthCredential,
      s'.db.oauthCredentials.rows = s.db.oauthCredentials.rows ++ [o] ∧ o.provider = provider ∧
      o.providerUserId = puid ∧ o.userId = userId := by
  obtain ⟨db, hq, rfl⟩ := h.sql_ok
  have hany : (s.db.oauthCredentials.rows.any fun o =>
      decide (o.provider = provider ∧ o.providerUserId = puid)) = false := by
    simpa using linkedUsers_eq_nil.1 hnil
  refine ⟨⟨id, userId, provider, puid, avatarUrl, s.clock⟩, ?_, rfl, rfl, rfl⟩
  have hrows := (apply_ok hq).2.2.1
  rw [Sql.oauthCredentials, hany] at hrows
  exact hrows

/-- An inserted user has the given address, and no other row has its identifier. -/
theorem insertUser_email {s s' : State} {id : Uuid} {email name : String} {user : User}
    (h : Stmt env (.sql (.insertUser id email name)) s (.ok user) s') :
    ∀ u ∈ s.db.users.rows, u.id = user.id → u.email = email := by
  intro u hu hid
  obtain ⟨u', hu', hid', hemail, -⟩ := h.le.users u hu
  rw [← hemail, Db.user_unique hu' (insertUser_row h).1 (hid'.trans hid)]
  obtain ⟨db, hq, -⟩ := h.sql_ok
  obtain ⟨db₁, -, hq⟩ := Relational.bind_eq_ok hq
  cases hq
  rfl

/-- The second half of resolving a profile: the user that has been found or created is linked. -/
theorem runs_link {p : OAuthProfile} {user : User} {s s' : State} {x : Except AppError User}
    (h : Runs (Timed (Stmt env))
      (do UserService.linkOAuthAccount env user.id p; pure user : App User).run s x s')
    (hnil : p.linked s.db = []) :
    (∀ u, x = .ok u → p.linked s'.db = [u.id]) ∧
    ∀ o ∈ s'.db.oauthCredentials.rows, o ∈ s.db.oauthCredentials.rows ∨
      (o.provider = .from p.provider ∧ o.providerUserId = p.providerUserId ∧ o.userId = user.id) := by
  have hlink : ∃ y, Runs (Timed (Stmt env)) (UserService.linkOAuthAccount env user.id p).run s y s' ∧
      ∀ u, x = .ok u → (∃ a, y = .ok a) ∧ u = user := by
    rcases runs_bindE.1 h with ⟨e, he, rfl⟩ | ⟨y, s₁, h₁, rfl, rfl⟩
    · exact ⟨_, he, fun u hu => by cases hu⟩
    · exact ⟨_, h₁, fun u hu => ⟨⟨y, rfl⟩, (Except.ok.inj hu).symm⟩⟩
  obtain ⟨y, hrun, hx⟩ := hlink
  obtain ⟨id, r, s₁, hdb, hstmt, rfl⟩ := runs_linkOAuthAccount (fun h => h) hrun
  rcases r with e | res
  · rw [hstmt.sql_error, hdb]
    refine ⟨fun u hu => ?_, fun o ho => Or.inl ho⟩
    obtain ⟨⟨a, ha⟩, -⟩ := hx u hu
    cases ha
  · rw [OAuthProfile.linked, ← hdb] at hnil
    obtain ⟨o, hrows, hp, hi, hid⟩ := linked_of_insert hstmt hnil
    rw [hdb] at hrows
    constructor
    · intro u hu
      obtain ⟨-, rfl⟩ := hx u hu
      have hmem : o ∈ s'.db.oauthCredentials.rows := by
        rw [hrows]
        exact List.mem_append_right _ List.mem_cons_self
      rw [← hid]
      exact linkedUsers_of_mem hmem hp hi
    · intro o' ho'
      rw [hrows] at ho'
      rcases List.mem_append.1 ho' with ho' | ho'
      · exact Or.inl ho'
      · obtain rfl := List.mem_singleton.1 ho'
        exact Or.inr ⟨hp, hi, hid⟩

/-- **Resolving a profile** returns the user to whom its identity is linked, and attaches the identity to
an account with its email address. -/
theorem runs_resolveOAuth_links {p : OAuthProfile} {s s' : State} {x : Except AppError User}
    (h : Runs (Timed (Stmt env)) (AuthService.resolveOAuth env p).run s x s') :
    (∀ u, x = .ok u → p.linked s'.db = [u.id]) ∧ Attached p s s' := by
  rcases runs_bindE.1 h with ⟨e, he, rfl⟩ | ⟨found, s₁, h₁, h₂⟩
  · exact ⟨fun u hu => (by cases hu), .of_same (runs_same_links he (by simp))⟩
  rcases runs_query.1 h₁ with ⟨res, ⟨t, -, hsel⟩, heq⟩ | ⟨e, -, heq⟩
  swap
  · cases heq
  cases heq
  obtain ⟨rfl, hsome, hnone⟩ := selectUserByOAuthIdentity_linked hsel
  cases found with
  | some user =>
    obtain ⟨rfl, rfl⟩ := h₂
    refine ⟨fun u hu => ?_, .of_same rfl⟩
    obtain rfl := Except.ok.inj hu
    exact (hsome _ rfl).2
  | none =>
    have hnil : p.linked s.db = [] := hnone rfl
    rcases runs_bindE.1 h₂ with ⟨e, he, rfl⟩ | ⟨found, s₂, h₃, h₄⟩
    · have hsame := runs_same_links he (by simp)
      exact ⟨fun u hu => (by cases hu), .of_same hsame⟩
    rcases runs_query.1 h₃ with ⟨res, ⟨t', -, hsel'⟩, heq⟩ | ⟨e, -, heq⟩
    swap
    · cases heq
    cases heq
    obtain ⟨rfl, hemail⟩ := selectUserByEmail_row hsel'
    cases found with
    | some user =>
      -- An account with the address is there, and is linked.
      obtain ⟨hok, hrows⟩ := runs_link h₄ hnil
      obtain ⟨hmem, haddr⟩ := hemail user rfl
      refine ⟨hok, fun o ho => (hrows o ho).imp_right ?_⟩
      rintro ⟨hp, hi, hid⟩
      refine ⟨hnil, hp, hi, fun u hu huid => ?_⟩
      rw [Db.user_unique hu hmem (huid.trans hid), haddr]
    | none =>
      rcases runs_bindE.1 h₄ with ⟨e, he, rfl⟩ | ⟨user, s₃, h₅, h₆⟩
      · have hsame := runs_same_links he (by simp)
        exact ⟨fun u hu => (by cases hu), .of_same hsame⟩
      -- A new account is linked, which none of the accounts before it is.
      have hsame := runs_same_links h₅ (by simp)
      obtain ⟨id, r, s₄, hdb, hinsert, heq⟩ := runs_createFromOAuth (fun h => h) h₅
      rcases r with e | user'
      · cases heq
      cases heq
      have hnil' : p.linked s₃.db = [] := by
        rw [OAuthProfile.linked, linkedUsers, hsame]
        exact hnil
      obtain ⟨hok, hrows⟩ := runs_link h₆ hnil'
      refine ⟨hok, fun o ho => (hrows o ho).imp (fun ho => hsame ▸ ho) ?_⟩
      rintro ⟨hp, hi, hid⟩
      refine ⟨hnil, hp, hi, fun u hu huid => ?_⟩
      rw [← hdb] at hu
      exact insertUser_email hinsert u hu (huid.trans hid)

/-- After the account has been resolved, a login keeps the links and answers with the account. -/
theorem runs_oauthLogin {p : OAuthProfile} {s s' : State} {x : Except AppError Response}
    (h : Runs (Timed (Stmt env)) (handle env (.oauthLogin p)).run s x s') :
    (∀ r, x = .ok (.auth r) → p.linked s'.db = [r.user.id]) ∧ Attached p s s' := by
  have hlogin : ∃ y, Runs (Timed (Stmt env)) (AuthService.loginOrRegisterOAuth env p).run s y s' ∧
      ∀ r, x = .ok (.auth r) → y = .ok r := by
    rcases runs_mapE.1 h with ⟨e, he, rfl⟩ | ⟨a, ha, rfl⟩
    · exact ⟨_, he, fun r hr => (by cases hr)⟩
    · exact ⟨_, ha, fun r hr => (by cases hr; rfl)⟩
  obtain ⟨y, hrun, hxy⟩ := hlogin
  rcases runs_bindE.1 hrun with ⟨e, he, rfl⟩ | ⟨user, s₁, h₁, h₂⟩
  · refine ⟨fun r hr => ?_, (runs_resolveOAuth_links he).2⟩
    cases hxy r hr
  · obtain ⟨hlinked, hattached⟩ := runs_resolveOAuth_links h₁
    have hsat : SatE
        (if user.isActive then do
          let credential ← UserService.findLocalCredential user.id
          AuthService.issueTokens env user .oauth ⟨user, credential⟩
        else throw .accountDisabled)
        (fun _ o => o.keepsLinks = true) (fun _ r => r.user.id = user.id) (fun _ _ => True) [] := by
      simp [UserResponse.from]
    obtain ⟨hsame, hid⟩ := runs_same_links_of h₂ hsat
    constructor
    · intro r hr
      rw [OAuthProfile.linked, linkedUsers, hsame, hid r (hxy r hr)]
      exact hlinked user rfl
    · intro o ho
      rw [hsame] at ho
      exact hattached o ho

/-! ### Requests -/

/-- The statement that links an identity. -/
@[simp] def Op.links : Op → Bool
  | .sql (.insertOAuthCredential _ _ _ _ _) => true
  | _ => false

/-- Other statements create no links. -/
theorem Stmt.old_links {s s' : State} {o : Op} {r : Ret o} (h : Stmt env o s r s')
    (ho : o.links = false) : ∀ c ∈ s'.db.oauthCredentials.rows, c ∈ s.db.oauthCredentials.rows := by
  intro c hc
  rcases h.db_cases with hdb | ⟨q, res, rfl, hq⟩
  · rwa [hdb] at hc
  · rw [(apply_ok hq).2.2.1] at hc
    cases q with
    | insertOAuthCredential => cases ho
    | deleteOAuthCredential => exact (List.mem_filter.1 hc).1
    | _ => exact hc

/-- Only OAuth logins create links. -/
theorem handle_links (q : Request) (hq : ∀ profile, q ≠ .oauthLogin profile) :
    SatE (handle env q) (fun _ o => o.links = false) (fun _ _ => True) (fun _ _ => True) [] := by
  cases q with
  | oauthLogin profile => exact absurd rfl (hq profile)
  | _ =>
    simp [handle, Routes.register, Routes.login, Routes.refresh, Routes.logout, Routes.listConnections,
      Routes.unlinkConnection, Routes.getMe, Routes.changePassword, Routes.deactivateAccount,
      Routes.updateUserRole, AuthService.register, AuthService.login, AuthService.refresh,
      AuthService.logout, AdminService.updateUserRole]

/-- A request links an identity only by a login of this identity, which was not linked, and to an
existing account only if the account has the email address of the profile. -/
def AttachesByEmail (s : State) (q : Request) (s' : State) : Prop :=
  ∀ o ∈ s'.db.oauthCredentials.rows, o ∈ s.db.oauthCredentials.rows ∨
    ∃ profile : OAuthProfile, q = .oauthLogin profile ∧ profile.linked s.db = [] ∧
      o.provider = .from profile.provider ∧ o.providerUserId = profile.providerUserId ∧
      ∀ u ∈ s.db.users.rows, u.id = o.userId → u.email = profile.email

theorem attaches_by_email {s s' : State} {q : Request} {x : Except AppError Response}
    (h : Runs (Timed (Stmt env)) (handle env q).run s x s') : AttachesByEmail s q s' := by
  intro o ho
  by_cases hq : ∃ profile, q = .oauthLogin profile
  · obtain ⟨profile, rfl⟩ := hq
    exact ((runs_oauthLogin h).2 o ho).imp_right fun hnew => ⟨profile, rfl, hnew⟩
  · obtain ⟨-, -, hold⟩ := Runs.invariant
      (fun _ t => ∀ c ∈ t.db.oauthCredentials.rows, c ∈ s.db.oauthCredentials.rows) h
      (handle_links q fun profile heq => hq ⟨profile, heq⟩)
      (fun _ _ _ _ _ ho ⟨_, _, hstmt⟩ hold c hc => hold c (hstmt.old_links ho c hc)) fun _ hc => hc
    exact Or.inl (hold o ho)

/-- An identity that has logged in is linked to the account it has logged in to, and logs in to no other,
until the account's user unlinks the provider. -/
def OneAccount (H : List Entry) (s : State) : Prop :=
  ∀ later e earlier provider puid userId, H = later ++ e :: earlier → e.LogsIn provider puid userId →
    (∀ e' ∈ later, ¬ e'.Unlinks userId provider) →
    linkedUsers s.db (.from provider) puid = [userId] ∧
    ∀ e' ∈ later, ∀ userId', e'.LogsIn provider puid userId' → userId' = userId

/-- A login leaves its identity linked to its account. -/
theorem LogsIn.linked {s s' : State} {q : Request} {x : Except AppError Response} {log : Log Op Ret}
    (hrun : Runs (Timed (Stmt env)) (handle env q).run s x s') {provider : OAuthProvider} {puid : String}
    {id : Uuid} (he : Entry.LogsIn ⟨q, log, x⟩ provider puid id) :
    linkedUsers s'.db (.from provider) puid = [id] := by
  obtain ⟨profile, response, rfl, rfl, rfl, rfl, rfl⟩ := he
  exact (runs_oauthLogin hrun).1 response rfl

/-- **One identity, one account.**  In every sequence of requests, with any failures, an identity keeps
the account it has logged in to until it is unlinked, and is attached to an existing account by its email
address only. -/
theorem one_account {s₀ s : State} {H : List Entry} (h : Served env (Stmt env) s₀ H s) :
    OneAccount H s ∧ ∀ {q x s'}, Runs (Timed (Stmt env)) (handle env q).run s x s' →
      AttachesByEmail s q s' := by
  refine ⟨?_, attaches_by_email⟩
  induction h with
  | nil =>
    intro later e earlier provider puid id hH
    exact absurd hH (by simp)
  | @serve H s s' q log x h hrun ih =>
    intro later e earlier provider puid id hH hlogin hkeep
    rcases later with _ | ⟨e', later⟩
    · -- The login itself.
      obtain ⟨rfl, rfl⟩ := List.cons.inj hH
      exact ⟨LogsIn.linked hrun.of_recorded hlogin, by simp⟩
    · obtain ⟨rfl, rfl⟩ := List.cons.inj hH
      obtain ⟨hlinked, hsame⟩ := ih later e earlier provider puid id rfl hlogin
        fun e' he' => hkeep e' (List.mem_cons_of_mem _ he')
      have hlinked' := runs_keep_link hrun hlinked (hkeep _ List.mem_cons_self)
      refine ⟨hlinked', fun e' he' id' hlogin' => ?_⟩
      rcases List.mem_cons.1 he' with rfl | he'
      · have hone := LogsIn.linked hrun.of_recorded hlogin'
        rw [hlinked', List.singleton_inj] at hone
        exact hone.symm
      · exact hsame e' he' id' hlogin'

/-- The user of a response with tokens. -/
def account : Except AppError Response → Option Uuid
  | .ok (.auth response) => some response.user.id
  | _ => none

theorem account_eq_some {x : Except AppError Response} {id : Uuid} (h : account x = some id) :
    ∃ response, x = .ok (.auth response) ∧ response.user.id = id := by
  unfold account at h
  split at h
  · next response =>
    cases h
    exact ⟨response, rfl, rfl⟩
  · cases h

theorem Entry.logsIn_of_account {e : Entry} {profile : OAuthProfile} {id : Uuid}
    (hq : e.request = .oauthLogin profile) (ha : account e.outcome = some id) :
    e.LogsIn profile.provider profile.providerUserId id := by
  obtain ⟨response, hx, hid⟩ := account_eq_some ha
  exact ⟨profile, response, hq, rfl, rfl, hx, hid⟩

/-- Carol logs in, Alice registers, and Carol logs in with another address. -/
theorem one_account_of_carol :
    ∃ H s, Served demo (Stmt demo) (.fresh 0) H s ∧
      H.map (fun e => account e.outcome) = [some 0, some 6, some 0] ∧ linkedUsers s.db .google "1" = [0] := by
  have hserve : (serveAll demo (exec demo)
      [(0, .oauthLogin carolProfile), (0, registerAlice),
        (0, .oauthLogin { carolProfile with email := "carol@example.org", displayName := none })]
      ([], .fresh 0)).map (fun x => (x.1.map (fun e => account e.outcome), x.1.map Entry.request)) =
      some ([some 0, some 6, some 0],
        [.oauthLogin { carolProfile with email := "carol@example.org", displayName := none },
          registerAlice, .oauthLogin carolProfile]) := by decide +kernel
  obtain ⟨⟨H, s⟩, hx, hobs⟩ := Option.map_eq_some_iff.1 hserve
  obtain ⟨haccounts, hrequests⟩ := Prod.mk.inj hobs
  have hs : Served demo (Stmt demo) (.fresh 0) H s := Served.nil.serveAll Stmt.exec hx
  refine ⟨H, s, hs, haccounts, ?_⟩
  obtain ⟨e₂, H₁, rfl, hq₂, hH₁⟩ := List.map_eq_cons_iff.1 hrequests
  obtain ⟨e₁, H₀, rfl, hq₁, hH₀⟩ := List.map_eq_cons_iff.1 hH₁
  obtain ⟨e₀, H', rfl, hq₀, -⟩ := List.map_eq_cons_iff.1 hH₀
  simp only [List.map_cons, List.cons.injEq] at haccounts
  refine ((one_account hs).1 [e₂, e₁] e₀ H' .google "1" 0 rfl
    (Entry.logsIn_of_account hq₀ haccounts.2.2.1) ?_).1
  rintro e he ⟨authorization, slug, token, claims, response, hunlink, -⟩
  rcases List.mem_cons.1 he with rfl | he
  · cases hq₂.symm.trans hunlink
  · rw [List.mem_singleton.1 he] at hunlink
    cases hq₁.symm.trans hunlink

end Socle
