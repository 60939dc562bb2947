import Socle.Limits.Passage

/-!
# Why requests fail

Every error has a cause, which stands in the log of the request.

* `WebOp.fetches`, `FetchCause`: who is asked for a profile, and why it cannot be fetched;
* `Exchanges`, `AsksProvider`: what a callback has done when it exchanges its code, and what it tells the
  provider;
* `redeemed`: what a session returns, as a function of the reply to its command;
* `WebCause`: why a request fails, where `E` says why the services fail;
* `callback_spec`, `session_spec`, `webHandle_causes`: all programs fail for these causes only.
-/

namespace Socle

open Interaction Prog Valkey

variable {env : WebEnv}

/-! ### Profiles -/

/-- The error with which a provider has answered a question about a user. -/
def fetchFailure : (o : WebOp) × WebRet o → Option String
  | ⟨.googleUserInfo _, .error message⟩ => some message
  | ⟨.gitHubUser _, .error message⟩ => some message
  | ⟨.gitHubEmails _, .error message⟩ => some message
  | _ => none

/-- The provider that a statement asks about a user, and the access token that it shows. -/
def WebOp.fetches : WebOp → Option (OAuthProvider × String)
  | .googleUserInfo token => some (.google, token)
  | .gitHubUser token => some (.gitHub, token)
  | .gitHubEmails token => some (.gitHub, token)
  | _ => none

/-- Why a profile cannot be fetched. -/
inductive FetchCause : Log WebOp WebRet → WebError → Prop
  | unreachable {x : (o : WebOp) × WebRet o} {l : Log WebOp WebRet} {message : String}
    (h : fetchFailure x = some message) : FetchCause (x :: l) (.oauth (.providerUnreachable message))
  /-- No address of a GitHub account is both primary and verified. -/
  | incomplete {token : String} {emails : List GitHubEmail} {l : Log WebOp WebRet}
    (h : (emails.find? fun e => e.primary && e.verified) = none) :
    FetchCause (⟨.gitHubEmails token, .ok emails⟩ :: l) (.oauth (.incompleteProfile "email"))

/-- **Fetching a profile** shows the token to its provider, whose answers the profile is made of, and fails
for these causes only. -/
theorem fetchUserProfile_causes {provider : OAuthProvider} {accessToken : String} {log : Log WebOp WebRet} :
    SatE (fetchUserProfile provider accessToken)
      (fun l o => log <:+ l ∧ o.fetches = some (provider, accessToken))
      (fun l profile => appLog l = appLog log ∧ profile.provider = provider ∧ Fetched l profile)
      FetchCause log := by
  cases provider with
  | google =>
    simp only [fetchUserProfile, fetchGoogleProfile, satE_bind, satE_webPerform, satE_answered, satE_pure]
    refine ⟨⟨List.suffix_rfl, rfl⟩, fun r => ⟨?_, ?_⟩⟩
    · rintro info rfl
      exact ⟨appLog_provider rfl, trivial, .google List.mem_cons_self⟩
    · rintro message rfl
      exact .unreachable rfl
  | gitHub =>
    simp only [fetchUserProfile, fetchGitHubProfile, satE_bind, satE_webPerform, satE_answered]
    refine ⟨⟨List.suffix_rfl, rfl⟩, fun r => ⟨?_, ?_⟩⟩
    · rintro info rfl
      cases hemail : info.email with
      | some email => exact ⟨appLog_provider rfl, rfl, .gitHubPublic List.mem_cons_self hemail⟩
      | none =>
        simp only [fetchGitHubPrimaryEmail, satE_bind, satE_webPerform, satE_answered]
        refine ⟨⟨List.suffix_cons _ _, rfl⟩, fun r' => ⟨?_, ?_⟩⟩
        · rintro emails rfl
          cases hfind : emails.find? fun e => e.primary && e.verified with
          | some e =>
            simp only [satE_pure]
            exact ⟨(appLog_provider rfl).trans (appLog_provider rfl), trivial,
              .gitHubListed (List.mem_cons_of_mem _ List.mem_cons_self) List.mem_cons_self hfind⟩
          | none =>
            simp only [satE_throw]
            exact .incomplete hfind
        · rintro message rfl
          exact .unreachable rfl
    · rintro message rfl
      exact .unreachable rfl

/-! ### Causes -/

/-- What a callback has done when it exchanges its code. -/
structure Exchanges (env : WebEnv) (slug : String) (params : CallbackParams) (log : Log WebOp WebRet)
    (provider : OAuthProvider) (cfg : OAuthProviderConfig) (code verifier : String) : Prop where
  accepted : params.error = none ∧ params.code = some code
  slug : OAuthProvider.fromSlug slug = some provider
  configured : env.oauth.provider provider = some cfg
  taken : ∃ state raw, params.state = some state ∧ StateStore.verifierOf env raw provider = .ok verifier ∧
    log = [⟨.valkey (.getDel (StateStore.stateKey state)), .ok (some raw)⟩]

/-- What a callback tells a provider, after its log. -/
structure AsksProvider (env : WebEnv) (slug : String) (params : CallbackParams) (log : Log WebOp WebRet)
    (o : WebOp) : Prop where
  exchange : ∀ {provider cfg code verifier}, o = .exchangeToken provider cfg code verifier →
    Exchanges env slug params log provider cfg code verifier
  /-- An access token is shown to the provider that has issued it for the code. -/
  fetch : ∀ {provider token}, o.fetches = some (provider, token) → ∃ cfg code verifier l,
    Exchanges env slug params l provider cfg code verifier ∧
      (⟨.exchangeToken provider cfg code verifier, .ok token⟩ :: l) <:+ log

/-- What a session returns. -/
def redeemed (env : WebEnv) : Except ValkeyError (Option String) → Except WebError WebResponse
  | .error e => .error (.oauth e.flowError)
  | .ok none => .error (.oauth .exchangeCodeInvalid)
  | .ok (some raw) =>
    match env.authFromJson raw with
    | some auth => .ok (.api (.auth auth))
    | none => .error (.oauth .exchangeCodeInvalid)

/-- The path of a flow's request that names a provider. -/
def WebRequest.slug : WebRequest → Option String
  | .authorize slug => some slug
  | .callback slug _ => some slug
  | _ => none

/-- The URLs that are parsed for a provider. -/
def providerUrls (provider : OAuthProvider) (cfg : OAuthProviderConfig) : List String :=
  [(providerEndpoints provider).1, (providerEndpoints provider).2, cfg.redirectUri]

/-- Why a request fails; `E` says why the services fail. -/
inductive WebCause (env : WebEnv) (E : Request → Log Op Ret → AppError → Prop) :
    WebRequest → Log WebOp WebRet → WebError → Prop
  | limited {q : WebRequest} {check : Check} {log : Log WebOp WebRet} {retryAfter : ℕ}
    (hcheck : q.check = some check) (h : Checked env check log (.error retryAfter)) :
    WebCause env E q log (.rateLimited retryAfter)
  | served {headers : ForwardedHeaders} {q : Request} {direct : q.isOAuthLogin = false}
    {log : Log WebOp WebRet} {e : AppError} (h : E q (appLog log) e) :
    WebCause env E (.api headers q direct) log (.app e)
  /-- The login with the profile that the provider has reported fails. -/
  | login {slug : String} {params : CallbackParams} {profile : OAuthProfile} {log : Log WebOp WebRet}
    {e : AppError} (hslug : OAuthProvider.fromSlug slug = some profile.provider)
    (hfetched : Fetched log profile) (h : E (.oauthLogin profile) (appLog log) e) :
    WebCause env E (.callback slug params) log (.app e)
  | unknownProvider {q : WebRequest} {slug : String} (hq : q.slug = some slug)
    (h : OAuthProvider.fromSlug slug = none) :
    WebCause env E q [] (.app (.oauth (.unknownProvider slug)))
  | notConfigured {q : WebRequest} {slug : String} {provider : OAuthProvider} (hq : q.slug = some slug)
    (hslug : OAuthProvider.fromSlug slug = some provider) (h : env.oauth.provider provider = none) :
    WebCause env E q [] (.oauth (.providerNotConfigured provider))
  | invalidUrl {q : WebRequest} {slug url message : String} {provider : OAuthProvider}
    {cfg : OAuthProviderConfig} {log : Log WebOp WebRet} (hq : q.slug = some slug)
    (hslug : OAuthProvider.fromSlug slug = some provider) (hcfg : env.oauth.provider provider = some cfg)
    (hurl : url ∈ providerUrls provider cfg) (h : env.parseUrl url = some message) :
    WebCause env E q log (.oauth (.invalidRedirectUri message))
  /-- A command of the state store has failed. -/
  | stateStore {q : WebRequest} {command : Command} {e : ValkeyError} {l : Log WebOp WebRet}
    (hcommand : ∀ k, command ≠ .incr k) :
    WebCause env E q (⟨.valkey command, .error e⟩ :: l) (.oauth e.flowError)
  | denied {slug error : String} {params : CallbackParams} (h : params.error = some error) :
    WebCause env E (.callback slug params) []
      (.oauth (.providerDenied error (params.errorDescription.getD "no detail provided")))
  | missingParam {slug : String} {params : CallbackParams} (h : params.code = none ∨ params.state = none) :
    WebCause env E (.callback slug params) [] (.oauth .invalidState)
  /-- Nothing is stored for the state. -/
  | absentState {slug state : String} {params : CallbackParams} (hstate : params.state = some state) :
    WebCause env E (.callback slug params) [⟨.valkey (.getDel (StateStore.stateKey state)), .ok none⟩]
      (.oauth .invalidState)
  /-- What is stored for the state is of no use. -/
  | rejectedState {slug state raw : String} {params : CallbackParams} {provider : OAuthProvider}
    {e : FlowError} (hstate : params.state = some state)
    (hslug : OAuthProvider.fromSlug slug = some provider)
    (h : StateStore.verifierOf env raw provider = .error e) :
    WebCause env E (.callback slug params)
      [⟨.valkey (.getDel (StateStore.stateKey state)), .ok (some raw)⟩] (.oauth e)
  | tokenExchange {slug code verifier message : String} {params : CallbackParams} {provider : OAuthProvider}
    {cfg : OAuthProviderConfig} {l : Log WebOp WebRet}
    (h : Exchanges env slug params l provider cfg code verifier) :
    WebCause env E (.callback slug params)
      (⟨.exchangeToken provider cfg code verifier, .error message⟩ :: l) (.oauth (.tokenExchange message))
  | fetch {slug : String} {params : CallbackParams} {log : Log WebOp WebRet} {e : WebError}
    (h : FetchCause log e) : WebCause env E (.callback slug params) log e
  /-- What a session has found for its code is nothing, or no response. -/
  | session {headers : ForwardedHeaders} {code : String} {l : Log WebOp WebRet} {remaining : ℕ}
    {x : Option String} {e : WebError}
    (hchecked : Checked env (checkOf headers "/auth/session") l (.ok remaining))
    (h : redeemed env (.ok x) = .error e) :
    WebCause env E (.session headers code) (⟨.valkey (.getDel (StateStore.exchangeKey code)), .ok x⟩ :: l) e

/-! ### Specifications -/

/-- A check of the rate limiter, and what comes after it. -/
theorem sat_limited {headers : ForwardedHeaders} {path : String} {next : Web WebResponse}
    {P : Log WebOp WebRet → WebOp → Prop} {R : Log WebOp WebRet → Except WebError WebResponse → Prop}
    (hcheck : ∀ l o, (checkOf headers path).Asks env l o → P l o)
    (hrefused : ∀ l retryAfter, Checked env (checkOf headers path) l (.error retryAfter) →
      R l (.error (.rateLimited retryAfter)))
    (hnext : ∀ l remaining, Checked env (checkOf headers path) l (.ok remaining) → Sat P R l next.run) :
    Sat P R [] (rateLimitMiddleware env headers path next).run := by
  unfold rateLimitMiddleware
  rw [sat_bindE, ExceptT.run_lift, ← bind_pure_comp, sat_bind]
  refine Sat.mono hcheck ?_ (check_checked (checkOf headers path))
  rintro l (retryAfter | remaining) hchecked
  · exact hrefused l retryAfter hchecked
  · exact hnext l remaining hchecked

/-- A check executes no statement of the services. -/
theorem Checked.appLog {q : Check} {l : Log WebOp WebRet} {x : Except ℕ ℕ} (h : Checked env q l x) :
    appLog l = [] := by
  cases h <;> rfl

/-- A session is one command, whose reply decides. -/
theorem session_run (code : String) : (Routes.session env code).run =
    .step (.valkey (.getDel (StateStore.exchangeKey code))) fun r => .done (redeemed env r) := by
  refine congrArg (Prog.step _) ?_
  funext r
  rcases r with e | _ | raw
  · rfl
  · rfl
  · show (match env.authFromJson raw with
      | some auth => (pure (.api (.auth auth)) : Web WebResponse)
      | none => throw (WebError.oauth .exchangeCodeInvalid)).run =
        .done (match env.authFromJson raw with
          | some auth => .ok (.api (.auth auth))
          | none => .error (.oauth .exchangeCodeInvalid))
    cases env.authFromJson raw <;> rfl

/-- **What a session does**: after its check it takes what is stored for its code, and the reply decides. -/
theorem session_spec (headers : ForwardedHeaders) (code : String) :
    Sat (fun l o => (checkOf headers "/auth/session").Asks env l o ∨
        (∃ remaining, Checked env (checkOf headers "/auth/session") l (.ok remaining)) ∧
          o = .valkey (.getDel (StateStore.exchangeKey code)))
      (fun l x => (∃ retryAfter, Checked env (checkOf headers "/auth/session") l (.error retryAfter) ∧
          x = .error (.rateLimited retryAfter)) ∨
        ∃ l' remaining, ∃ r : Except ValkeyError (Option String),
          Checked env (checkOf headers "/auth/session") l' (.ok remaining) ∧
          l = ⟨.valkey (.getDel (StateStore.exchangeKey code)), r⟩ :: l' ∧ x = redeemed env r)
      [] (webHandle env (.session headers code)).run := by
  unfold webHandle limited
  refine sat_limited (fun l o => Or.inl) (fun l retryAfter h => Or.inl ⟨retryAfter, h, rfl⟩)
    fun l remaining hchecked => ?_
  rw [session_run]
  exact ⟨Or.inr ⟨⟨remaining, hchecked⟩, rfl⟩, fun r => Or.inr ⟨l, remaining, r, hchecked, rfl, rfl⟩⟩

section Causes

variable {E : Request → Log Op Ret → AppError → Prop}
  (hspec : ∀ q, SatE (handle env.app q) (fun _ _ => True) (fun _ _ => True) (E q) [])

include hspec

/-- **What a callback does**: it exchanges its code with the verifier that it has taken, shows the access
token to the provider, and fails for these causes only. -/
theorem callback_spec (slug : String) (params : CallbackParams) :
    SatE (Routes.callback env slug params) (AsksProvider env slug params) (fun _ _ => True)
      (WebCause env E (.callback slug params)) [] := by
  have hsilent : ∀ {l : Log WebOp WebRet} {o : WebOp}, o.callsProvider = false →
      AsksProvider env slug params l o := by
    intro l o ho
    refine ⟨?_, fun hfetches => ?_⟩
    · rintro provider cfg code verifier rfl
      cases ho
    · cases o <;> cases hfetches <;> cases ho
  unfold Routes.callback
  cases herror : params.error with
  | some error =>
    simp only [satE_throw]
    exact .denied herror
  | none =>
    simp only [satE_bind, satE_requireParam, satE_liftResolveProvider, satE_providerConfig,
      satE_exchangeCode, satE_take, satE_parseUrl]
    refine ⟨fun code hcode => ⟨fun state hstate => ⟨fun provider hslug => ⟨fun cfg hcfg =>
      ⟨hsilent rfl, .absentState hstate, fun raw => ⟨fun verifier hraw => ?_, fun e he =>
        .rejectedState hstate hslug he⟩, fun e => .stateStore (by simp)⟩,
      fun hnone => .notConfigured rfl hslug hnone⟩, fun hnone => .unknownProvider rfl hnone⟩,
      fun hnone => .missingParam (Or.inr hnone)⟩, fun hnone => .missingParam (Or.inl hnone)⟩
    have hexchanges : Exchanges env slug params
        [⟨.valkey (.getDel (StateStore.stateKey state)), .ok (some raw)⟩] provider cfg code verifier :=
      ⟨⟨herror, hcode⟩, hslug, hcfg, state, raw, hstate, hraw, rfl⟩
    refine ⟨fun _ => ⟨fun _ => ⟨⟨?_, ?_⟩, fun accessToken => ?_, fun message => .tokenExchange hexchanges⟩,
      fun message h => .invalidUrl rfl hslug hcfg (by simp [providerUrls]) h⟩,
      fun message h => .invalidUrl rfl hslug hcfg (by simp [providerUrls]) h⟩
    · rintro provider' cfg' code' verifier' ⟨⟩
      exact hexchanges
    · rintro provider' token ⟨⟩
    · refine SatE.mono ?_ ?_ (fun l e h => .fetch h) fetchUserProfile_causes
      · rintro l o ⟨hl, ho⟩
        refine ⟨?_, fun hfetches => ?_⟩
        · rintro provider' cfg' code' verifier' rfl
          cases ho
        · cases ho.symm.trans hfetches
          exact ⟨cfg, code, verifier, _, hexchanges, hl⟩
      · rintro l profile ⟨hlog, rfl, hfetched⟩
        -- The services are asked for a login.
        have hlogin := hspec (.oauthLogin profile)
        rw [handle, Routes.oauthLogin, satE_map] at hlogin
        refine satE_lifted (by rw [hlog]; exact hlogin) (fun _ _ _ _ => hsilent rfl) ?_
          fun l' e hl' he => .login hslug (hfetched.of_suffix hl') he
        intro l' auth _ _
        simp only [satE_random, satE_storeExchange, satE_pure]
        exact ⟨hsilent rfl, fun n => ⟨hsilent rfl, fun _ => trivial, fun e => .stateStore (by simp)⟩⟩

/-- **Every error has a cause**, which stands in the log of the request. -/
theorem webHandle_causes (q : WebRequest) :
    SatE (webHandle env q) (fun _ _ => True) (fun _ _ => True) (WebCause env E q) [] := by
  cases q with
  | api headers q direct =>
    have hserved : ∀ l, appLog l = [] → SatE (.api <$> lift (handle env.app q) : Web WebResponse)
        (fun _ _ => True) (fun _ _ => True) (WebCause env E (.api headers q direct)) l := by
      intro l hl
      rw [satE_map]
      exact satE_lifted (by rw [hl]; exact hspec q) (fun _ _ _ _ => trivial) (fun _ _ _ _ => trivial)
        fun l' e _ he => .served he
    show SatE (limited env headers q.limitedPath (.api <$> lift (handle env.app q))) _ _ _ []
    cases hpath : q.limitedPath with
    | none => exact hserved [] rfl
    | some path =>
      have hcheck : (WebRequest.api headers q direct).check = some (checkOf headers path) := by
        rw [WebRequest.check, hpath, Option.map_some]
      exact sat_limited (fun _ _ _ => trivial) (fun l retryAfter h => .limited hcheck h)
        fun l remaining hchecked => hserved l hchecked.appLog
  | authorize slug =>
    simp only [webHandle, Routes.authorize, satE_bind, satE_liftResolveProvider, satE_providerConfig,
      satE_map, satE_buildAuthorizationUrl, satE_parseUrl, satE_insert]
    refine ⟨fun provider hslug => ⟨fun cfg hcfg => ⟨trivial, fun m => ⟨fun _ => ⟨fun _ => ⟨fun _ =>
      ⟨trivial, fun n => ⟨trivial, fun _ => trivial, fun e => .stateStore ?_⟩⟩, ?_⟩, ?_⟩, ?_⟩⟩,
      fun hnone => .notConfigured rfl hslug hnone⟩, fun hnone => .unknownProvider rfl hnone⟩
    · rintro k ⟨⟩
    · exact fun message h => .invalidUrl rfl hslug hcfg (by simp [providerUrls]) h
    · exact fun message h => .invalidUrl rfl hslug hcfg (by simp [providerUrls]) h
    · exact fun message h => .invalidUrl rfl hslug hcfg (by simp [providerUrls]) h
  | callback slug params =>
    exact SatE.mono (fun _ _ _ => trivial) (fun _ _ h => h) (fun _ _ h => h) (callback_spec hspec slug params)
  | session headers code =>
    refine Sat.mono (fun _ _ _ => trivial) ?_ (session_spec headers code)
    rintro l x (⟨retryAfter, hchecked, rfl⟩ | ⟨l', remaining, r, hchecked, rfl, rfl⟩)
    · exact .limited rfl hchecked
    · rcases r with e | x
      · exact .stateStore (by simp)
      · cases hx : redeemed env (.ok x) with
        | ok response => trivial
        | error e => exact .session hchecked hx

end Causes

end Socle
