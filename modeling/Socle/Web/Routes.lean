import Socle.Web.OAuth
import Socle.Web.RateLimit

/-!
# The whole service

The OAuth handlers of `routes/auth.rs`, and all requests a client can send, the rate limiter in front of
those it guards.

* `Routes.authorize`, `Routes.callback`, `Routes.session`;
* `WebRequest`, `webHandle`, `web`: any number of clients of any number of instances;
* `satE_callback`, `satE_limited`: rules for the programs of requests.
-/

namespace Socle

open Interaction Prog Valkey

variable (env : WebEnv)

/-! ### Handlers -/

/-- The parameters a provider sends along with a browser. -/
structure CallbackParams where
  code : Option String
  state : Option String
  error : Option String
  errorDescription : Option String
  deriving DecidableEq

/-- The body or the target of a successful response. -/
inductive WebResponse
  | api (r : Response)
  | redirect (url : String)
  deriving DecidableEq

namespace Routes

/-- The configuration of a provider. -/
def providerConfig (provider : OAuthProvider) : Web OAuthProviderConfig :=
  match env.oauth.provider provider with
  | some cfg => pure cfg
  | none => throw (.oauth (.providerNotConfigured provider))

/-- Send the browser to the consent screen. -/
def authorize (slug : String) : Web WebResponse := do
  let provider ← lift (resolveProvider slug)
  let cfg ← providerConfig env provider
  .redirect <$> buildAuthorizationUrl env provider cfg

/-- A parameter without which a callback is invalid. -/
def requireParam (param : Option String) : Web String :=
  match param with
  | some value => pure value
  | none => throw (.oauth .invalidState)

/-- Complete a flow: log in, and send the browser on with a one-time code. -/
def callback (slug : String) (params : CallbackParams) : Web WebResponse := do
  match params.error with
  | some error =>
    let detail := params.errorDescription.getD "no detail provided"
    throw (.oauth (.providerDenied error detail))
  | none => do
    let code ← requireParam params.code
    let csrfState ← requireParam params.state
    let provider ← lift (resolveProvider slug)
    let cfg ← providerConfig env provider
    let accessToken ← Socle.exchangeCode env provider cfg code csrfState
    let profile ← fetchUserProfile provider accessToken
    let auth ← lift (AuthService.loginOrRegisterOAuth env.app profile)
    let exchangeCode := env.app.prim.opaqueToken (← random)
    StateStore.storeExchange exchangeCode (env.authToJson auth)
    pure (.redirect ("/auth/success?code=" ++ exchangeCode))

/-- Redeem a one-time code. -/
def session (code : String) : Web WebResponse := do
  let payload ← StateStore.takeExchange code
  match env.authFromJson payload with
  | some auth => pure (.api (.auth auth))
  | none => throw (.oauth .exchangeCodeInvalid)

end Routes

/-! ### Requests -/

def Request.isOAuthLogin : Request → Bool
  | .oauthLogin _ => true
  | _ => false

/-- The path of a request that the rate limiter guards. -/
def Request.limitedPath : Request → Option String
  | .login _ _ => some "/auth/login"
  | .register _ _ _ => some "/auth/register"
  | .refresh _ => some "/auth/refresh"
  | _ => none

/-- What clients can ask for; OAuth logins occur within callbacks only. -/
inductive WebRequest
  | api (headers : ForwardedHeaders) (q : Request) (direct : q.isOAuthLogin = false)
  | authorize (slug : String)
  | callback (slug : String) (params : CallbackParams)
  | session (headers : ForwardedHeaders) (code : String)
  deriving DecidableEq

/-- The program of a request, behind the rate limiter if its path is guarded. -/
def limited (headers : ForwardedHeaders) (path : Option String) (next : Web WebResponse) :
    Web WebResponse :=
  match path with
  | some path => rateLimitMiddleware env headers path next
  | none => next

/-- The program that serves a request. -/
def webHandle : WebRequest → Web WebResponse
  | .api headers q _ => limited env headers q.limitedPath (.api <$> lift (handle env.app q))
  | .authorize slug => Routes.authorize env slug
  | .callback slug params => Routes.callback env slug params
  | .session headers code => limited env headers "/auth/session" (Routes.session env code)

/-- The service with any number of clients; its statements interleave freely and may fail. -/
def web : System WebOp WebRet WebRequest (Except WebError WebResponse) WebState where
  handler := fun q => (webHandle env q).run
  sem := fun _ _ => WebStmt env
  tick := WebTick

/-! ### Specifications -/

section SatE

variable {env} {P : Log WebOp WebRet → WebOp → Prop} {E : Log WebOp WebRet → WebError → Prop}
  {log : Log WebOp WebRet}

@[simp] theorem satE_providerConfig {provider : OAuthProvider}
    {Q : Log WebOp WebRet → OAuthProviderConfig → Prop} :
    SatE (Routes.providerConfig env provider) P Q E log ↔
      (∀ cfg, env.oauth.provider provider = some cfg → Q log cfg) ∧
        (env.oauth.provider provider = none → E log (.oauth (.providerNotConfigured provider))) := by
  unfold Routes.providerConfig
  cases env.oauth.provider provider <;> simp

@[simp] theorem satE_requireParam {param : Option String} {Q : Log WebOp WebRet → String → Prop} :
    SatE (Routes.requireParam param) P Q E log ↔
      (∀ value, param = some value → Q log value) ∧ (param = none → E log (.oauth .invalidState)) := by
  unfold Routes.requireParam
  cases param <;> simp

@[simp] theorem satE_liftResolveProvider {slug : String} {Q : Log WebOp WebRet → OAuthProvider → Prop} :
    SatE (lift (resolveProvider slug)) P Q E log ↔
      (∀ provider, OAuthProvider.fromSlug slug = some provider → Q log provider) ∧
        (OAuthProvider.fromSlug slug = none → E log (.app (.oauth (.unknownProvider slug)))) := by
  unfold resolveProvider
  cases OAuthProvider.fromSlug slug with
  | none => exact ⟨fun h => ⟨by simp, fun _ => h⟩, fun h => h.2 rfl⟩
  | some provider =>
    refine ⟨fun h => ⟨?_, by simp⟩, fun h => h.1 provider rfl⟩
    rintro _ ⟨⟩
    exact h

/-- What a callback does: it takes the pending authorization first. -/
theorem satE_callback {slug : String} {params : CallbackParams} {Q : Log WebOp WebRet → WebResponse → Prop}
    (hE : ∀ l e, log <:+ l → E l e)
    (htake : ∀ state provider, params.state = some state → OAuthProvider.fromSlug slug = some provider →
      P log (.valkey (.getDel (StateStore.stateKey state))))
    (hrest : ∀ state provider raw verifier, params.state = some state →
      OAuthProvider.fromSlug slug = some provider → StateStore.verifierOf env raw provider = .ok verifier →
      let taken : Log WebOp WebRet := ⟨.valkey (.getDel (StateStore.stateKey state)), .ok (some raw)⟩ :: log
      (∀ cfg code, P taken (.exchangeToken provider cfg code verifier)) ∧
      (∀ l o, taken <:+ l → o.fetchesProfile = true → P l o) ∧
      ∀ l profile, taken <:+ l → appLog l = appLog log → profile.provider = provider → Fetched l profile →
        SatE (lift (AuthService.loginOrRegisterOAuth env.app profile)) P (fun l' auth =>
          P l' (.app .random) ∧ ∀ n : ℕ,
            let code := env.app.prim.opaqueToken n
            let q := Command.setEx (StateStore.exchangeKey code) (env.authToJson auth)
              StateStore.exchangeTtlSecs
            P (⟨.app .random, n⟩ :: l') (.valkey q) ∧
              Q (⟨.valkey q, .ok ()⟩ :: ⟨.app .random, n⟩ :: l')
                (.redirect ("/auth/success?code=" ++ code))) E l) :
    SatE (Routes.callback env slug params) P Q E log := by
  unfold Routes.callback
  cases params.error with
  | some error =>
    simp only [satE_throw]
    exact hE _ _ List.suffix_rfl
  | none =>
    simp only [satE_bind, satE_requireParam, satE_liftResolveProvider, satE_providerConfig,
      satE_exchangeCode, satE_take, satE_parseUrl]
    refine ⟨fun code _ => ⟨fun state hstate => ⟨fun provider hslug => ⟨fun cfg _ =>
      ⟨htake state provider hstate hslug, hE _ _ (List.suffix_cons _ _), fun raw => ⟨fun verifier hraw =>
        ?_, fun e _ => hE _ _ (List.suffix_cons _ _)⟩, fun e => hE _ _ (List.suffix_cons _ _)⟩,
      fun _ => hE _ _ List.suffix_rfl⟩, fun _ => hE _ _ List.suffix_rfl⟩, fun _ => hE _ _ List.suffix_rfl⟩,
      fun _ => hE _ _ List.suffix_rfl⟩
    obtain ⟨hexchange, hfetch, hlogin⟩ := hrest state provider raw verifier hstate hslug hraw
    have htaken : log <:+ (⟨.valkey (.getDel (StateStore.stateKey state)), .ok (some raw)⟩ :: log :
      Log WebOp WebRet) := List.suffix_cons _ _
    refine ⟨fun _ => ⟨fun _ => ⟨hexchange cfg code, fun accessToken => ?_,
      fun m => hE _ _ (htaken.trans (List.suffix_cons _ _))⟩, fun m _ => hE _ _ htaken⟩,
      fun m _ => hE _ _ htaken⟩
    -- The provider has issued an access token.
    refine satE_fetchUserProfile (fun l o hl ho => hfetch l o ((List.suffix_cons _ _).trans hl) ho) ?_
      (fun l e hl => hE l e (htaken.trans ((List.suffix_cons _ _).trans hl)))
    intro l profile hl hlog hprovider hfetched
    have hl' := (List.suffix_cons _ _).trans hl
    refine SatE.mono (fun _ _ h => h) ?_ (fun _ _ h => h.2) (SatE.suffix (hlogin l profile hl'
      (by rw [hlog, appLog_provider rfl, appLog_valkey]) hprovider hfetched))
    rintro l₁ auth ⟨hl₁, hrandom, hstore⟩
    simp only [satE_random, satE_storeExchange, satE_pure]
    refine ⟨hrandom, fun n => ⟨(hstore n).1, fun _ => (hstore n).2, fun e => hE _ _ ?_⟩⟩
    have hlog₁ := htaken.trans (hl'.trans hl₁)
    exact hlog₁.trans ((List.suffix_cons _ _).trans (List.suffix_cons _ _))

/-- What a request does behind the rate limiter, after it has been counted. -/
theorem satE_limited {headers : ForwardedHeaders} {path : Option String} {next : Web WebResponse}
    {Q : Log WebOp WebRet → WebResponse → Prop}
    (hE : ∀ l retryAfter, log <:+ l → E l (.rateLimited retryAfter))
    (hcheck : ∀ p, path = some p → Sat P (fun l _ => appLog l = appLog log) log
      (RateLimiter.check env (extractClientIp headers) (endpointKey "POST" p)))
    (hnext : ∀ l, log <:+ l → appLog l = appLog log → SatE next P Q E l) :
    SatE (limited env headers path next) P Q E log := by
  cases path with
  | none => exact hnext log List.suffix_rfl rfl
  | some p =>
    unfold limited rateLimitMiddleware
    rw [satE_bind]
    unfold SatE
    rw [ExceptT.run_lift, ← bind_pure_comp, sat_bind]
    refine Sat.mono (fun _ _ h => h) ?_ (Sat.suffix (hcheck p rfl))
    rintro l (retryAfter | remaining) ⟨hl, hlog⟩
    · exact hE l retryAfter hl
    · exact hnext l hl hlog

end SatE

end Socle
