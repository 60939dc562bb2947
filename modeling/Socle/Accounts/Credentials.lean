import Socle.Demo
import Socle.Sequential

/-!
# Ways to log in

* `HasLogin`, `EveryoneLogsIn`: a user has a local credential or a linked provider;
* `unlinked_last`: unlinking the only provider leaves an account without either;
* `everyone_logs_in`: in every sequence of requests with any failures, every account has one, provided
  that an unlinking leaves one and that no link of a user without one fails.
-/

namespace Socle

open Interaction Prog

variable {env : Env} {s s' : State} {db : Db}

/-- The user has a local credential or a linked provider. -/
def HasLogin (db : Db) (id : Uuid) : Prop :=
  (∃ c ∈ db.localCredentials.rows, c.userId = id) ∨ ∃ o ∈ db.oauthCredentials.rows, o.userId = id

instance (db : Db) (id : Uuid) : Decidable (HasLogin db id) :=
  inferInstanceAs (Decidable ((∃ _ ∈ _, _) ∨ ∃ _ ∈ _, _))

/-- Every account keeps a way to log in. -/
def EveryoneLogsIn (db : Db) : Prop := ∀ u ∈ db.users.rows, HasLogin db u.id

instance (db : Db) : Decidable (EveryoneLogsIn db) := inferInstanceAs (Decidable (∀ _ ∈ _, _))

/-- Every other account has one. -/
def OthersLogIn (db : Db) (id : Uuid) : Prop := ∀ u ∈ db.users.rows, u.id ≠ id → HasLogin db u.id

/-! ### Statements -/

/-- An unlinking leaves its user a way to log in, and a link fails only for a user who has one. -/
def keepsLogin : (o : Op) → State → Ret o → Bool
  | .sql (.deleteOAuthCredential userId provider), s, .ok _ =>
    decide ((∃ o ∈ s.db.oauthCredentials.rows, o.userId = userId ∧ o.provider = provider) →
      (∃ c ∈ s.db.localCredentials.rows, c.userId = userId) ∨
        ∃ o ∈ s.db.oauthCredentials.rows, o.userId = userId ∧ o.provider ≠ provider)
  | .sql (.insertOAuthCredential _ userId _ _ _), s, .error _ => decide (HasLogin s.db userId)
  | _, _, _ => true

/-- Statements, executed or failed, that keep ways to log in. -/
def KeepingStmt (env : Env) : Sem Op Ret State :=
  fun o s r s' => Stmt env o s r s' ∧ keepsLogin o s r = true

/-- The statements that neither insert a user without a credential nor link a provider. -/
@[simp] def Op.quiet : Op → Bool
  | .sql (.insertUser _ _ _) => false
  | .sql (.insertOAuthCredential _ _ _ _ _) => false
  | _ => true

/-- A user with a way to log in keeps one. -/
theorem HasLogin.stmt {o : Op} {r : Ret o} {id : Uuid} (hs : HasLogin s.db id)
    (h : KeepingStmt env o s r s') : HasLogin s'.db id := by
  obtain ⟨h, hkeeps⟩ := h
  cases o with
  | sql q =>
    rcases r with e | res
    · rw [h.sql_error]
      exact hs
    · obtain ⟨db', hq, rfl⟩ := h.sql_ok
      obtain ⟨-, hl, ho, -⟩ := apply_ok hq
      have hlocal : (∃ c ∈ s.db.localCredentials.rows, c.userId = id) → HasLogin db' id := by
        rintro ⟨c, hc, rfl⟩
        refine Or.inl ?_
        rw [hl]
        obtain ⟨c', hc', hid, -⟩ := Sql.mem_localCredentials hc
        exact ⟨c', hc', hid⟩
      rcases hs with hc | ⟨o, hmem, rfl⟩
      · exact hlocal hc
      · cases q with
        | deleteOAuthCredential userId provider =>
          by_cases hdel : o.userId = userId ∧ o.provider = provider
          · -- The link goes, so the user has another one or a local credential.
            obtain ⟨rfl, rfl⟩ := hdel
            rcases (decide_eq_true_iff.1 hkeeps) ⟨o, hmem, rfl, rfl⟩ with hc | ⟨o', hmem', hid, hne⟩
            · exact hlocal hc
            · refine Or.inr ⟨o', ?_, hid⟩
              rw [ho]
              exact List.mem_filter.2 ⟨hmem', by simp [hne]⟩
          · refine Or.inr ⟨o, ?_, rfl⟩
            rw [ho]
            exact List.mem_filter.2 ⟨hmem, by rw [decide_eq_false hdel]; rfl⟩
        | insertOAuthCredential id userId provider puid avatarUrl =>
          refine Or.inr ⟨o, ?_, rfl⟩
          rw [ho, Sql.oauthCredentials]
          split
          · exact hmem
          · exact List.mem_append_left _ hmem
        | _ => exact Or.inr ⟨o, by rw [ho]; exact hmem, rfl⟩
  | now => rw [h.now_eq.2]; exact hs
  | random => rw [h.random_eq.2]; exact hs
  | abort => exact r.elim
  | encode c => rw [h.encode_eq.2]; exact hs
  | decode token => rw [h.decode_eq.2]; exact hs

/-- The users of before are the only ones, or a statement has inserted a user. -/
theorem EveryoneLogsIn.quiet {o : Op} {r : Ret o} (hs : EveryoneLogsIn s.db) (ho : o.quiet = true)
    (h : KeepingStmt env o s r s') : EveryoneLogsIn s'.db := by
  have hkeep : ∀ {id}, (∃ u ∈ s.db.users.rows, id = u.id) → HasLogin s'.db id := by
    rintro id ⟨u, hu, rfl⟩
    exact (hs u hu).stmt h
  obtain ⟨h, -⟩ := h
  cases o with
  | sql q =>
    rcases r with e | res
    · rw [h.sql_error] at hkeep ⊢
      exact hs
    · obtain ⟨db', hq, rfl⟩ := h.sql_ok
      obtain ⟨hu, hl, -⟩ := apply_ok hq
      intro u' hu'
      dsimp only at hu'
      rw [hu] at hu'
      rcases Sql.users_old hu' with hold | ⟨_, _, username, hash, rfl⟩ | ⟨_, _, rfl⟩
      · exact hkeep hold
      · refine Or.inl ⟨Db.newLocalCredential s.clock u'.id username hash, ?_, rfl⟩
        dsimp only
        rw [hl]
        exact List.mem_append_right _ List.mem_cons_self
      · cases ho
  | now => rw [h.now_eq.2]; exact hs
  | random => rw [h.random_eq.2]; exact hs
  | abort => exact r.elim
  | encode c => rw [h.encode_eq.2]; exact hs
  | decode token => rw [h.decode_eq.2]; exact hs

/-- After a user without a credential is inserted, the others still log in. -/
theorem OthersLogIn.insertUser {id : Uuid} {email name : String} {r : User}
    (hs : EveryoneLogsIn s.db) (h : KeepingStmt env (.sql (.insertUser id email name)) s (.ok r) s') :
    OthersLogIn s'.db r.id ∧ s'.db.oauthCredentials = s.db.oauthCredentials := by
  have hkeep : ∀ {id}, (∃ u ∈ s.db.users.rows, id = u.id) → HasLogin s'.db id := by
    rintro id ⟨u, hu, rfl⟩
    exact (hs u hu).stmt h
  obtain ⟨db', hq, rfl⟩ := h.1.sql_ok
  obtain ⟨db₁, h₁, hok⟩ := Relational.bind_eq_ok hq
  obtain ⟨-, hu, -, ho, -⟩ := Db.insertUser_ok (bindTexts_ok.1 h₁).2
  cases hok
  refine ⟨?_, ho⟩
  intro u' hu' hne
  dsimp only at hu'
  rw [hu] at hu'
  rcases List.mem_append.1 hu' with hmem | hmem
  · exact hkeep ⟨u', hmem, rfl⟩
  · exact absurd (by rw [List.mem_singleton.1 hmem]) hne

/-- A link for an identity that is not linked gives its user a way to log in. -/
theorem EveryoneLogsIn.link {id userId : Uuid} {provider : Provider} {puid : String}
    {avatarUrl : Option String} {r : Except SqlxError Unit} (hs : OthersLogIn s.db userId)
    (hnew : ∀ o ∈ s.db.oauthCredentials.rows, ¬ (o.provider = provider ∧ o.providerUserId = puid))
    (h : KeepingStmt env (.sql (.insertOAuthCredential id userId provider puid avatarUrl)) s r s') :
    EveryoneLogsIn s'.db := by
  have hstep : ∀ {id}, HasLogin s.db id → HasLogin s'.db id := fun hid => hid.stmt h
  rcases r with e | r
  · rw [h.1.sql_error] at hstep ⊢
    -- The link has failed, so the user can log in without it.
    intro u hu
    by_cases hid : u.id = userId
    · rw [hid]
      exact of_decide_eq_true h.2
    · exact hs u hu hid
  · obtain ⟨db', hq, rfl⟩ := h.1.sql_ok
    obtain ⟨hu, -, ho, -⟩ := apply_ok hq
    intro u hmem
    dsimp only at hmem
    rw [hu] at hmem
    by_cases hid : u.id = userId
    · have hany : (s.db.oauthCredentials.rows.any fun o =>
          decide (o.provider = provider ∧ o.providerUserId = puid)) = false := by
        simpa using hnew
      refine Or.inr ⟨⟨id, userId, provider, puid, avatarUrl, s.clock⟩, ?_, hid.symm⟩
      dsimp only
      rw [ho, Sql.oauthCredentials, hany]
      exact List.mem_append_right _ List.mem_cons_self
    · exact hstep (hs u hmem hid)

/-! ### Requests -/

theorem runs_quiet {α : Type} {p : App α} {x : Except AppError α}
    (hp : SatE p (fun _ o => o.quiet = true) (fun _ _ => True) (fun _ _ => True) [])
    (h : Runs (Timed (KeepingStmt env)) p.run s x s') (hs : EveryoneLogsIn s.db) : EveryoneLogsIn s'.db := by
  obtain ⟨-, -, hs'⟩ := Runs.invariant (fun _ s => EveryoneLogsIn s.db) h hp
    (fun _ _ _ _ _ ho ⟨_, _, h⟩ hs => hs.quiet ho h) hs
  exact hs'

/-- All requests but OAuth logins are quiet. -/
theorem handle_quiet (q : Request) (hq : ∀ profile, q ≠ .oauthLogin profile) :
    SatE (handle env q) (fun _ o => o.quiet = true) (fun _ _ => True) (fun _ _ => True) [] := by
  cases q <;>
    simp [handle, Routes.register, Routes.login, Routes.refresh, Routes.logout, 
      Routes.listConnections, Routes.unlinkConnection, Routes.getMe, Routes.changePassword,
      Routes.deactivateAccount, Routes.updateUserRole, AuthService.register, AuthService.login,
      AuthService.refresh, AuthService.logout, AdminService.updateUserRole] at hq ⊢

theorem KeepingStmt.stmt {o : Op} {r : Ret o} (h : KeepingStmt env o s r s') : Stmt env o s r s' := h.1

/-- Inserting a user from a profile leaves only that user without a way to log in. -/
theorem othersLogIn_of_create {email : String} {name : Option String} {x : Except AppError User}
    (h : Runs (Timed (KeepingStmt env)) (UserService.createFromOAuth env email name).run s x s')
    (hs : EveryoneLogsIn s.db) : match x with
      | .ok user => OthersLogIn s'.db user.id ∧ s'.db.oauthCredentials = s.db.oauthCredentials
      | .error _ => s'.db = s.db := by
  obtain ⟨id, r, s₁, hdb, hinsert, rfl⟩ := runs_createFromOAuth KeepingStmt.stmt h
  rcases r with e | user
  · show s'.db = s.db
    rw [hinsert.1.sql_error, hdb]
  · rw [← hdb] at hs ⊢
    exact OthersLogIn.insertUser hs hinsert

/-- Linking a new identity to the only user who may have no way to log in. -/
theorem runs_link_pure {profile : OAuthProfile} {user : User} {x : Except AppError User}
    (h : Runs (Timed (KeepingStmt env))
      (do UserService.linkOAuthAccount env user.id profile; pure user : App User).run s x s')
    (hs : OthersLogIn s.db user.id)
    (hnew : ∀ o ∈ s.db.oauthCredentials.rows,
      ¬ (o.provider = .from profile.provider ∧ o.providerUserId = profile.providerUserId)) :
    EveryoneLogsIn s'.db := by
  have hlink : ∃ y, Runs (Timed (KeepingStmt env))
      (UserService.linkOAuthAccount env user.id profile).run s y s' := by
    rcases runs_bindE.1 h with ⟨e, he, -⟩ | ⟨y, s₁, h₁, h₂⟩
    · exact ⟨_, he⟩
    · obtain ⟨-, rfl⟩ := h₂
      exact ⟨_, h₁⟩
  obtain ⟨y, hlink⟩ := hlink
  obtain ⟨id, r, s₁, hdb, hstmt, -⟩ := runs_linkOAuthAccount KeepingStmt.stmt hlink
  rw [← hdb] at hs hnew
  exact EveryoneLogsIn.link hs hnew hstmt

/-- **Resolving a profile** keeps a way to log in for everyone. -/
theorem runs_resolveOAuth {profile : OAuthProfile} {x : Except AppError User}
    (h : Runs (Timed (KeepingStmt env)) (AuthService.resolveOAuth env profile).run s x s')
    (hs : EveryoneLogsIn s.db) : EveryoneLogsIn s'.db := by
  rcases runs_bindE.1 h with ⟨e, he, -⟩ | ⟨found, s₁, h₁, h₂⟩
  · exact runs_quiet (by simp) he hs
  have hs₁ := runs_quiet (by simp) h₁ hs
  rcases runs_query.1 h₁ with ⟨res, ⟨t, -, hsel⟩, heq⟩ | ⟨e, -, heq⟩
  swap
  · cases heq
  cases heq
  cases found with
  | some user =>
    obtain ⟨-, rfl⟩ := h₂
    exact hs₁
  | none =>
    obtain ⟨rfl, hnew⟩ := selectUserByOAuthIdentity_none hsel.1
    rcases runs_bindE.1 h₂ with ⟨e, he, -⟩ | ⟨found, s₂, h₃, h₄⟩
    · exact runs_quiet (by simp) he hs
    rcases runs_query.1 h₃ with ⟨res, ⟨t', -, hsel'⟩, heq⟩ | ⟨e, -, heq⟩
    swap
    · cases heq
    cases heq
    obtain ⟨rfl, -⟩ := selectUserByEmail_row hsel'.1
    cases found with
    | some user => exact runs_link_pure h₄ (fun u hu _ => hs u hu) hnew
    | none =>
      -- A user without a credential is inserted, and linked next.
      rcases runs_bindE.1 h₄ with ⟨e, he, -⟩ | ⟨user, s₃, h₅, h₆⟩
      · have hdb : s'.db = s.db := othersLogIn_of_create he hs
        rw [hdb]
        exact hs
      · obtain ⟨hothers, hoauth⟩ := othersLogIn_of_create h₅ hs
        exact runs_link_pure h₆ hothers (by rw [hoauth]; exact hnew)

/-- Every request keeps a way to log in for everyone. -/
theorem runs_handle {q : Request} {x : Except AppError Response}
    (h : Runs (Timed (KeepingStmt env)) (handle env q).run s x s') (hs : EveryoneLogsIn s.db) :
    EveryoneLogsIn s'.db := by
  by_cases hq : ∃ profile, q = .oauthLogin profile
  · obtain ⟨profile, rfl⟩ := hq
    have hlogin : ∃ y, Runs (Timed (KeepingStmt env))
        (AuthService.loginOrRegisterOAuth env profile).run s y s' := by
      rcases runs_mapE.1 h with ⟨e, he, -⟩ | ⟨a, ha, -⟩
      · exact ⟨_, he⟩
      · exact ⟨_, ha⟩
    obtain ⟨y, hlogin⟩ := hlogin
    rcases runs_bindE.1 hlogin with ⟨e, he, -⟩ | ⟨user, s₁, h₁, h₂⟩
    · exact runs_resolveOAuth he hs
    · exact runs_quiet (by simp) h₂ (runs_resolveOAuth h₁ hs)
  · exact runs_quiet (handle_quiet q fun profile heq => hq ⟨profile, heq⟩) h hs

/-- **Every account keeps a way to log in**, whatever fails, where unlinkings leave one and only links
of users who have one fail. -/
theorem everyone_logs_in {clock : ℕ} {H : List Entry}
    (h : Served env (KeepingStmt env) (.fresh clock) H s) : EveryoneLogsIn s.db := by
  refine h.preserves (fun s => EveryoneLogsIn s.db) (fun hs hrun => runs_handle hrun hs) ?_
  simp [EveryoneLogsIn, State.fresh, Db.empty]

/-- Execute a statement, unless that takes a way to log in away. -/
def keepingExec (env : Env) (o : Op) (s : State) : Option (Ret o × State) :=
  (exec env o s).filter fun x => keepsLogin o s x.1

theorem keepingExec_sound {o : Op} {r : Ret o} (h : keepingExec env o s = some (r, s')) :
    KeepingStmt env o s r s' := by
  obtain ⟨hexec, hkeeps⟩ := Option.filter_eq_some_iff.1 h
  exact ⟨.exec hexec, hkeeps⟩

/-- Alice links a provider to her account and unlinks it again. -/
theorem everyone_logs_in_of_alice :
    ∃ H s, Served demo (KeepingStmt demo) (.fresh 0) H s ∧ s.db.users.rows.length = 1 ∧
      EveryoneLogsIn s.db := by
  have hserve : (serveAll demo (keepingExec demo)
      [(0, registerAlice), (0, .oauthLogin { carolProfile with email := "alice@example.com" }),
        (0, .unlinkConnection (some aliceAuthorization) "google")] ([], .fresh 0)).map
      (fun x => x.2.db.users.rows.length) = some 1 := by decide +kernel
  obtain ⟨⟨H, s⟩, hx, hlen⟩ := Option.map_eq_some_iff.1 hserve
  have hs := Served.nil.serveAll keepingExec_sound hx
  exact ⟨H, s, hs, hlen, everyone_logs_in hs⟩

/-- Carol, who has logged in with a provider only, unlinks it. -/
theorem unlinked_last :
    ∃ H s, Served demo (Stmt demo) (.fresh 0) H s ∧ ¬ EveryoneLogsIn s.db := by
  have hserve : (serveAll demo (exec demo)
      [(0, .oauthLogin carolProfile), (0, .unlinkConnection (some carolAuthorization) "google")]
      ([], .fresh 0)).map (fun x => decide (EveryoneLogsIn x.2.db)) = some false := by decide +kernel
  obtain ⟨⟨H, s⟩, hx, hlogin⟩ := Option.map_eq_some_iff.1 hserve
  exact ⟨H, s, Served.nil.serveAll Stmt.exec hx, of_decide_eq_false hlogin⟩

end Socle
