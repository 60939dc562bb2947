import Socle.Accounts.Governance
import Socle.Flow.Pkce

/-!
# Providers without credentials

`OAuthConfig::from_env` of `config.rs`, and what follows where a variable of a provider is not set.

* `OAuthConfig.fromEnv`, `OAuthConfig.provider_fromEnv`: a provider is configured by all of its variables;
* `Configured`, `Declined`, `webHandle_configured`: requests that name another provider do nothing at all;
* `Dormant`, `disabled_provider`: whatever a previous configuration has left in the store and in the
  database, nobody logs in with such a provider, and no identity of it is linked.
-/

namespace Socle

open Interaction Prog Valkey

/-! ### The environment -/

/-- `OAuthConfig::from_env`; `var` is `std::env::var(..).ok()`. -/
def OAuthConfig.fromEnv (var : String → Option String) : OAuthConfig where
  google :=
    match var "OAUTH_GOOGLE_CLIENT_ID", var "OAUTH_GOOGLE_CLIENT_SECRET",
      var "OAUTH_GOOGLE_REDIRECT_URI" with
    | some clientId, some clientSecret, some redirectUri => some ⟨clientId, clientSecret, redirectUri⟩
    | _, _, _ => none
  github :=
    match var "OAUTH_GITHUB_CLIENT_ID", var "OAUTH_GITHUB_CLIENT_SECRET",
      var "OAUTH_GITHUB_REDIRECT_URI" with
    | some clientId, some clientSecret, some redirectUri => some ⟨clientId, clientSecret, redirectUri⟩
    | _, _, _ => none

/-- The variables of a provider. -/
def OAuthProvider.variables : OAuthProvider → List String
  | .google => ["OAUTH_GOOGLE_CLIENT_ID", "OAUTH_GOOGLE_CLIENT_SECRET", "OAUTH_GOOGLE_REDIRECT_URI"]
  | .gitHub => ["OAUTH_GITHUB_CLIENT_ID", "OAUTH_GITHUB_CLIENT_SECRET", "OAUTH_GITHUB_REDIRECT_URI"]

/-- A provider is not configured exactly if one of its variables is not set. -/
theorem OAuthConfig.provider_fromEnv (var : String → Option String) (provider : OAuthProvider) :
    (OAuthConfig.fromEnv var).provider provider = none ↔ ∃ name ∈ provider.variables, var name = none := by
  cases provider with
  | google =>
    simp only [OAuthConfig.provider, OAuthConfig.fromEnv, OAuthProvider.variables, List.mem_cons,
      List.not_mem_nil, or_false, exists_eq_or_imp, exists_eq_left]
    cases var "OAUTH_GOOGLE_CLIENT_ID" <;> cases var "OAUTH_GOOGLE_CLIENT_SECRET" <;>
      cases var "OAUTH_GOOGLE_REDIRECT_URI" <;> simp
  | gitHub =>
    simp only [OAuthConfig.provider, OAuthConfig.fromEnv, OAuthProvider.variables, List.mem_cons,
      List.not_mem_nil, or_false, exists_eq_or_imp, exists_eq_left]
    cases var "OAUTH_GITHUB_CLIENT_ID" <;> cases var "OAUTH_GITHUB_CLIENT_SECRET" <;>
      cases var "OAUTH_GITHUB_REDIRECT_URI" <;> simp

/-! ### Requests -/

variable {env : WebEnv}

/-- If the request names a provider, it is one that is configured. -/
def Configured (env : WebEnv) (q : WebRequest) : Prop :=
  ∀ slug, q.slug = some slug → ∃ provider cfg, OAuthProvider.fromSlug slug = some provider ∧
    env.oauth.provider provider = some cfg

/-- Who shows an access token calls a provider. -/
theorem WebOp.callsProvider_of_token {o : WebOp} {x : OAuthProvider × String} (h : o.fetches = some x) :
    o.callsProvider = true := by
  cases o with
  | googleUserInfo | gitHubUser | gitHubEmails => rfl
  | _ => cases h

/-- How a request fails before its provider is looked up, or because of it. -/
inductive Declined (env : WebEnv) : WebRequest → WebError → Prop
  | denied {slug error : String} {params : CallbackParams} (h : params.error = some error) :
    Declined env (.callback slug params)
      (.oauth (.providerDenied error (params.errorDescription.getD "no detail provided")))
  | missingParam {slug : String} {params : CallbackParams} (h : params.code = none ∨ params.state = none) :
    Declined env (.callback slug params) (.oauth .invalidState)
  | unknown {q : WebRequest} {slug : String} (hq : q.slug = some slug)
    (h : OAuthProvider.fromSlug slug = none) : Declined env q (.app (.oauth (.unknownProvider slug)))
  | notConfigured {q : WebRequest} {slug : String} {provider : OAuthProvider} (hq : q.slug = some slug)
    (hslug : OAuthProvider.fromSlug slug = some provider) (h : env.oauth.provider provider = none) :
    Declined env q (.oauth (.providerNotConfigured provider))

/-- **Requests that name a provider that is not configured do nothing**, and fail. -/
theorem webHandle_configured (q : WebRequest) :
    SatE (webHandle env q) (fun _ _ => Configured env q) (fun _ _ => Configured env q)
      (fun _ e => Configured env q ∨ Declined env q e) [] := by
  -- From the look-up on, the provider is configured.
  have hrest : ∀ {α : Type} {l : Log WebOp WebRet} {p : Web α}, Configured env q →
      SatE p (fun _ _ => Configured env q) (fun _ _ => Configured env q)
        (fun _ e => Configured env q ∨ Declined env q e) l :=
    fun hconf => SatE.trivial (fun _ _ => hconf) (fun _ _ => hconf) (fun _ _ => Or.inl hconf) _
  have hconfigured : ∀ {slug provider cfg}, q.slug = some slug → OAuthProvider.fromSlug slug = some provider →
      env.oauth.provider provider = some cfg → Configured env q := by
    intro slug provider cfg hq hslug hcfg slug' hq'
    obtain rfl := Option.some.inj (hq.symm.trans hq')
    exact ⟨provider, cfg, hslug, hcfg⟩
  cases q with
  | api headers q direct => exact hrest fun slug hslug => absurd hslug (Option.some_ne_none _).symm
  | session headers code => exact hrest fun slug hslug => absurd hslug (Option.some_ne_none _).symm
  | authorize slug =>
    unfold webHandle Routes.authorize
    rw [satE_bind, satE_liftResolveProvider]
    refine ⟨fun provider hslug => ?_, fun hnone => Or.inr (.unknown rfl hnone)⟩
    rw [satE_bind, satE_providerConfig]
    exact ⟨fun cfg hcfg => hrest (hconfigured rfl hslug hcfg),
      fun hnone => Or.inr (.notConfigured rfl hslug hnone)⟩
  | callback slug params =>
    show SatE (Routes.callback env slug params) _ _ _ []
    unfold Routes.callback
    cases herror : params.error with
    | some error =>
      rw [satE_throw]
      exact Or.inr (.denied herror)
    | none =>
      rw [satE_bind, satE_requireParam]
      refine ⟨fun code _ => ?_, fun hnone => Or.inr (.missingParam (Or.inl hnone))⟩
      rw [satE_bind, satE_requireParam]
      refine ⟨fun state _ => ?_, fun hnone => Or.inr (.missingParam (Or.inr hnone))⟩
      rw [satE_bind, satE_liftResolveProvider]
      refine ⟨fun provider hslug => ?_, fun hnone => Or.inr (.unknown rfl hnone)⟩
      rw [satE_bind, satE_providerConfig]
      exact ⟨fun cfg hcfg => hrest (hconfigured rfl hslug hcfg),
        fun hnone => Or.inr (.notConfigured rfl hslug hnone)⟩

/-! ### Runs -/

/-- In a run from `s₀`, nothing happens with the provider. -/
structure Dormant (env : WebEnv) (s₀ : WebState)
    (c : Pool WebOp WebRet WebRequest (Except WebError WebResponse) WebState) (provider : OAuthProvider) :
    Prop where
  /-- Authorizations and callbacks that name it execute no statement. -/
  inert : ∀ {i q slug o r s s'}, .start i q ∈ c.history → q.slug = some slug →
    OAuthProvider.fromSlug slug = some provider → .stmt i o r s s' ∉ c.history
  /-- They fail, for want of the configuration, or for what they bring themselves. -/
  declined : ∀ {i q slug x}, .start i q ∈ c.history → q.slug = some slug →
    OAuthProvider.fromSlug slug = some provider → .done i x ∈ c.history →
    ∃ e, x = .error e ∧ Declined env q e ∧ ∀ slug, e ≠ .app (.oauth (.unknownProvider slug))
  /-- It is asked for nothing. -/
  silent : ∀ {i o r s s'}, .stmt i o r s s' ∈ c.history →
    (∀ cfg code verifier, o ≠ .exchangeToken provider cfg code verifier) ∧
      ∀ token, o.fetches ≠ some (provider, token)
  /-- Its identities are those that have been linked before. -/
  identities : ∀ {puid id}, c.state.app.db.identities (.from provider, puid) = some id →
    s₀.app.db.identities (.from provider, puid) = some id

section Runs

variable {s₀ : WebState} {c : Pool WebOp WebRet WebRequest (Except WebError WebResponse) WebState}
  {i : ℕ} {s s' : WebState} {provider : OAuthProvider} (hnone : env.oauth.provider provider = none)
  (hc : (web env).Reachable s₀ c)

include hnone hc

/-- Nobody links an identity of the provider. -/
theorem no_link {id userId : Uuid} {puid : String} {avatar : Option String}
    {r : Ret (.sql (.insertOAuthCredential id userId (.from provider) puid avatar))} :
    .stmt i (.app (.sql (.insertOAuthCredential id userId (.from provider) puid avatar))) r s s' ∉
      c.history := by
  intro hm
  obtain ⟨h, he⟩ := exists_occurs hm
  obtain ⟨q, q₀, hq, hserves, hwarranted⟩ := served_stmt (fun q => handle_warranted q) hc he (by simp)
  obtain ⟨profile, u, rfl, hprovider, -⟩ := hwarranted
  obtain ⟨q', hq', hconf⟩ := hc.at_stmt webHandle_configured he
  obtain rfl := hc.numbered.start_unique (he.past.subset hq) (he.past.subset hq')
  cases hserves with
  | api => contradiction
  | callback hslug =>
    obtain ⟨provider', cfg, hslug', hcfg⟩ := hconf _ rfl
    obtain rfl := Option.some.inj (hslug.symm.trans hslug')
    rw [← Provider.from_injective hprovider, hnone] at hcfg
    cases hcfg

/-- **A provider that is not configured is inert.** -/
theorem disabled_of_none : Dormant env s₀ c provider := by
  have hunconfigured : ∀ {q : WebRequest} {slug}, q.slug = some slug →
      OAuthProvider.fromSlug slug = some provider → ¬ Configured env q := by
    intro q slug hq hslug hconf
    obtain ⟨provider', cfg, hslug', hcfg⟩ := hconf slug hq
    obtain rfl := Option.some.inj (hslug.symm.trans hslug')
    rw [hnone] at hcfg
    cases hcfg
  refine ⟨fun hi hq hslug hm => ?_, fun {i q slug x} hi hq hslug hdone => ?_, fun hm => ?_, ?_⟩
  · obtain ⟨h, he⟩ := exists_occurs hm
    exact hunconfigured hq hslug (web_at_stmt hc webHandle_configured hi he)
  · obtain ⟨h, he⟩ := exists_occurs hdone
    obtain ⟨q', hq', hend⟩ := hc.at_done webHandle_configured he
    obtain rfl := hc.numbered.start_unique hi (he.past.subset hq')
    rcases x with e | a
    · rcases hend with hconf | hdeclined
      · exact absurd hconf (hunconfigured hq hslug)
      · refine ⟨e, rfl, hdeclined, ?_⟩
        rintro slug' rfl
        cases hdeclined with
        | unknown hq' hunknown =>
          obtain rfl := Option.some.inj (hq.symm.trans hq')
          rw [hslug] at hunknown
          cases hunknown
    · exact absurd hend (hunconfigured hq hslug)
  · obtain ⟨h, he⟩ := exists_occurs hm
    obtain ⟨q, -, hcalls⟩ := hc.at_stmt webHandle_callsProvider he
    refine ⟨?_, fun token hfetches => ?_⟩
    · rintro cfg code verifier rfl
      obtain ⟨slug, params, -, hasks⟩ := hcalls rfl
      have hcfg := (hasks.exchange rfl).configured
      rw [hnone] at hcfg
      cases hcfg
    · obtain ⟨slug, params, -, hasks⟩ := hcalls (WebOp.callsProvider_of_token hfetches)
      obtain ⟨cfg, code, verifier, l, hexchanges, -⟩ := hasks.fetch hfetches
      have hcfg := hexchanges.configured
      rw [hnone] at hcfg
      cases hcfg
  · -- A statement that links an identity of the provider is never executed.
    have hinv : ∀ puid id, c.state.app.db.identities (.from provider, puid) = some id →
        s₀.app.db.identities (.from provider, puid) = some id := by
      refine And.left (@System.Reachable.always _ _ _ _ _ _ _ _ (fun s => ∀ puid id,
        s.app.db.identities (.from provider, puid) = some id →
          s₀.app.db.identities (.from provider, puid) = some id) hc (fun _ _ h => h) ?_ ?_)
      · rintro s _ ⟨t, -, rfl⟩ hinv
        exact hinv
      · intro h i o r s s' he hinv puid id hlinked
        rcases (web_stmt hc he.mem).app_cases with heq | ⟨o', r', rfl, -, hstmt⟩
        · rw [heq] at hlinked
          exact hinv puid id hlinked
        · rcases hstmt.db_cases with hdb | ⟨sql, res, rfl, hq⟩
          · rw [hdb] at hlinked
            exact hinv puid id hlinked
          · rcases @directory_apply env.app _ _ _ _ _ hq with hsame | ⟨x, hx, hstep⟩
            · exact hinv puid id ((congrArg (fun d => d.identities (.from provider, puid)) hsame).symm.trans
                hlinked)
            · rcases hstep.links hlinked with hold | rfl
              · exact hinv puid id hold
              · cases sql <;> cases hx
                exact absurd he.mem (no_link hnone hc)
    exact fun {puid id} h => hinv puid id h

omit hnone in
/-- **Without one of its variables, a provider is disabled**, whatever a previous configuration has left in
the store and in the database. -/
theorem disabled_provider {var : String → Option String} {name : String}
    (henv : env.oauth = OAuthConfig.fromEnv var) (hname : name ∈ provider.variables)
    (hunset : var name = none) : Dormant env s₀ c provider := by
  refine disabled_of_none ?_ hc
  rw [henv]
  exact (OAuthConfig.provider_fromEnv var provider).2 ⟨name, hname, hunset⟩

end Runs

/-- The environment of an installation that lacks the secret of GitHub. -/
def withoutGitHub : String → Option String
  | "OAUTH_GOOGLE_CLIENT_ID" => some "google-id"
  | "OAUTH_GOOGLE_CLIENT_SECRET" => some "google-secret"
  | "OAUTH_GOOGLE_REDIRECT_URI" => some "https://app.example/auth/google/callback"
  | "OAUTH_GITHUB_CLIENT_ID" => some "github-id"
  | "OAUTH_GITHUB_REDIRECT_URI" => some "https://app.example/auth/github/callback"
  | _ => none

/-- Carol logs in with Google, and is refused with GitHub. -/
theorem disabled_provider_of_gitHub : ∃ c,
    (web { demoWeb with oauth := .fromEnv withoutGitHub }).Reachable (.fresh 0) c ∧
    System.outcome 3 c.history = some (.error (.oauth (.providerNotConfigured .gitHub))) ∧
    Dormant { demoWeb with oauth := .fromEnv withoutGitHub } (.fresh 0) c .gitHub := by
  obtain ⟨c, hc, hobs⟩ := exists_web_run { demoWeb with oauth := .fromEnv withoutGitHub } trustingAnswers 0
    (flow "carol@example.com" ++ [.start (.authorize "github")])
    (fun c => System.outcome 3 c.history) (some (.error (.oauth (.providerNotConfigured .gitHub))))
    (by decide +kernel)
  have hname : "OAUTH_GITHUB_CLIENT_SECRET" ∈ OAuthProvider.gitHub.variables := by decide
  have hunset : withoutGitHub "OAUTH_GITHUB_CLIENT_SECRET" = none := rfl
  exact ⟨c, hc, hobs, disabled_provider hc rfl hname hunset⟩

end Socle
