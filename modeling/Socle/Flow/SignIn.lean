import Socle.Access.Confirmed
import Socle.Flow.Pkce

/-!
# Signing in through a provider

From the authorization of a flow to its session, through the requests of a browser, the provider, Valkey and
the database.

* `webHandle_stores`, `Completes`, `webHandle_completes`: what a callback has done when it stores a response;
* `performed_of_callback`: its login is one of the services;
* `SignIn`, `Delivered`: a sign-in through a provider, and a session that returns its response;
* `stored_once`: a callback stores one response;
* `signIn_of_exchanged`: what is stored under a code ends a sign-in;
* `SignInFlow`, `sign_in_flow`: **sessions return the responses of sign-ins**, each its own.
-/

namespace Socle

open Interaction Prog Valkey

variable {env : WebEnv}

/-! ### What callbacks do -/

/-- The text that a statement stores. -/
def WebOp.stores : WebOp → Option String
  | .valkey (.setEx _ value _) => some value
  | _ => none

/-- Nothing has been stored. -/
def Unstored (log : Log WebOp WebRet) : Prop := ∀ x ∈ log, x.1.stores = none

theorem Unstored.cons {log : Log WebOp WebRet} {o : WebOp} {r : WebRet o} (h : Unstored log)
    (ho : o.stores = none) : Unstored (⟨o, r⟩ :: log) := by
  rintro x (_ | ⟨_, hx⟩)
  · exact ho
  · exact h x hx

/-- **A callback stores last.** -/
theorem callback_stores (slug : String) (params : CallbackParams) :
    SatE (Routes.callback env slug params) (fun l _ => Unstored l) (fun _ _ => True) (fun _ _ => True)
      [] := by
  have hnil : Unstored [] := by
    rintro x ⟨⟩
  unfold Routes.callback
  cases params.error with
  | some error => simp only [satE_throw]
  | none =>
    simp only [satE_bind, satE_requireParam, satE_liftResolveProvider, satE_providerConfig,
      satE_exchangeCode, satE_take, satE_parseUrl, implies_true, and_true, true_and]
    intro code _ state _ provider _ cfg _
    refine ⟨hnil, fun raw verifier _ _ _ => ?_⟩
    have htaken : Unstored [⟨.valkey (.getDel (StateStore.stateKey state)), .ok (some raw)⟩] :=
      hnil.cons rfl
    refine ⟨htaken, fun accessToken => ?_⟩
    -- The questions about the profile store nothing, nor do the services.
    refine SatE.mono (fun _ _ h => h.2) ?_ (fun _ _ _ => trivial)
      (SatE.carry (fun l o r ho hl => hl.cons ?_) fetchUserProfile_causes (htaken.cons rfl))
    · rintro l profile ⟨-, hl⟩
      have hservices : SatE (lift (AuthService.loginOrRegisterOAuth env.app profile))
          (fun _ o => ∃ o', o = .app o') (fun _ _ => True) (fun _ _ => True) l :=
        satE_lift_any (fun _ o _ => ⟨o, rfl⟩) (fun _ _ _ => trivial) fun _ _ _ => trivial
      refine SatE.mono (fun _ _ h => h.2) ?_ (fun _ _ _ => trivial)
        (SatE.carry (fun l o r ho hl => hl.cons ?_) hservices hl)
      · rintro l' auth ⟨-, hl'⟩
        simp only [satE_random, satE_storeExchange, satE_pure, implies_true, and_true]
        exact ⟨hl', fun n => hl'.cons rfl⟩
      · obtain ⟨o', rfl⟩ := ho
        rfl
    · obtain ⟨-, ho⟩ := ho
      cases o <;> cases ho <;> rfl

theorem webHandle_stores (q : WebRequest) :
    SatE (webHandle env q) (fun l _ => ∀ slug params, q = .callback slug params → Unstored l)
      (fun _ _ => True) (fun _ _ => True) [] := by
  cases q with
  | callback slug params =>
    exact SatE.mono (fun l _ h _ _ _ => h) (fun _ _ h => h) (fun _ _ h => h) (callback_stores slug params)
  | _ =>
    refine SatE.trivial (fun _ _ slug params heq => ?_) (fun _ _ => trivial) (fun _ _ => trivial) _
    cases heq

/-- What a callback has done when it stores a response. -/
structure Completes (env : WebEnv) (slug : String) (log : Log WebOp WebRet) (profile : OAuthProfile)
    (auth : AuthResponse) : Prop where
  slug : OAuthProvider.fromSlug slug = some profile.provider
  fetched : Fetched log profile
  confirms : ∃ (n : ℕ) (l : Log Op Ret), appLog log = ⟨.random, n⟩ :: l ∧
    Confirms env.app l (.oauthLogin profile) (.auth auth)

/-- **A callback stores** the response to a login with a profile that it has fetched. -/
theorem webHandle_completes (q : WebRequest) :
    SatE (webHandle env q) (fun log o => ∀ value, o.stores = some value →
      ∀ slug params, q = .callback slug params → ∃ profile auth, value = env.authToJson auth ∧
        Completes env slug log profile auth) (fun _ _ => True) (fun _ _ => True) [] := by
  cases q with
  | callback slug params =>
    have hsilent : ∀ {l : Log WebOp WebRet} {o : WebOp}, o.stores = none →
        ∀ value, o.stores = some value → ∀ slug' params',
        WebRequest.callback slug params = .callback slug' params' → ∃ profile auth,
          value = env.authToJson auth ∧ Completes env slug' l profile auth := by
      intro l o hnone value hsome
      rw [hnone] at hsome
      cases hsome
    refine satE_callback (fun _ _ _ => trivial) (fun _ _ _ _ => hsilent rfl) ?_
    intro state provider raw verifier hstate hslug hraw
    refine ⟨fun _ _ => hsilent rfl, fun l o _ ho => hsilent ?_,
      fun l profile hl hlog hprovider hfetched => ?_⟩
    · cases o <;> cases ho <;> rfl
    · subst hprovider
      have hlogin := @handle_confirms env.app (.oauthLogin profile)
      rw [handle, Routes.oauthLogin, satE_map] at hlogin
      refine satE_lifted (by rw [hlog]; exact hlogin) (fun _ _ _ _ => hsilent rfl) ?_
        fun _ _ _ _ => trivial
      intro l' auth hl' hconfirms
      refine ⟨hsilent rfl, fun n => ⟨?_, trivial⟩⟩
      rintro value ⟨⟩ slug' params' ⟨⟩
      exact ⟨profile, auth, rfl, hslug, hfetched.of_suffix (hl'.trans (List.suffix_cons _ _)), n, _, rfl,
        hconfirms⟩
  | _ =>
    refine SatE.trivial (fun _ _ _ _ slug params heq => ?_) (fun _ _ => trivial) (fun _ _ => trivial) _
    cases heq

/-- A profile has been fetched from its provider. -/
theorem Fetched.fetches {log : Log WebOp WebRet} {profile : OAuthProfile} (h : Fetched log profile) :
    ∃ (o : WebOp) (r : WebRet o) (token : String), ⟨o, r⟩ ∈ log ∧
      o.fetches = some (profile.provider, token) := by
  cases h with
  | google h => exact ⟨_, _, _, h, rfl⟩
  | gitHubPublic h => exact ⟨_, _, _, h, rfl⟩
  | gitHubListed h => exact ⟨_, _, _, h, rfl⟩

/-! ### Sign-ins -/

/-- What request `k` has asked the services. -/
def Asked (k : ℕ) (H : WebTrace) (x : (o : Op) × Ret o) (s s' : State) : Prop :=
  ∃ w w' : WebState, .stmt k (.app x.1) x.2 w w' ∈ H ∧ w.app = s ∧ w'.app = s'

/-- What goes to and fro between a browser, the service and a provider. -/
structure ProviderFlow where
  provider : OAuthProvider
  state : String
  verifier : String
  code : String
  token : String
  profile : OAuthProfile

/-- Callback `k` ends the flow with the response `b`. -/
structure SignIn (env : WebEnv) (H : WebTrace) (k : ℕ) (f : ProviderFlow) (b : AuthResponse) : Prop where
  /-- The callback has brought the code and the state. -/
  callback : ∃ slug params, .start k (.callback slug params) ∈ H ∧ params.error = none ∧
    params.code = some f.code ∧ params.state = some f.state ∧ OAuthProvider.fromSlug slug = some f.provider
  /-- An authorization has generated the state, at most ten minutes before, and the verifier, and has sent
  its browser to the provider with the verifier's challenge. -/
  authorized : ∃ i p t g u cfg, Authorized env H p i f.provider f.state f.verifier t ∧
    TakenFor env H g k f.provider f.state f.verifier u ∧
    u.app.clock ≤ t.app.clock + StateStore.stateTtlSecs * 1000000 ∧
    env.oauth.provider f.provider = some cfg ∧ ∀ x, .done i (.ok x) ∈ H →
      x = .redirect (env.consentUrl f.provider cfg f.state (env.pkceChallenge f.verifier))
  /-- The code has been exchanged, with the verifier, for the access token. -/
  exchanged : ∃ cfg s s', env.oauth.provider f.provider = some cfg ∧
    .stmt k (.exchangeToken f.provider cfg f.code f.verifier) (.ok f.token) s s' ∈ H
  /-- The callback has shown this token only, and to this provider only, -/
  shown : ∀ {o r s s' provider token}, .stmt k o r s s' ∈ H → o.fetches = some (provider, token) →
    provider = f.provider ∧ token = f.token
  /-- which has reported the profile. -/
  profile : f.profile.provider = f.provider ∧ Fetched (localLog k H) f.profile
  /-- The response shows an active account, to which the identity belongs or which has its address. -/
  account : ∃ id a x s s' y t t', Asked k H x s s' ∧ Asked k H y t t' ∧
    (directory env.app s'.db).accounts id = some a ∧ a.isActive = true ∧ b.user.Shows id a ∧
    ((directory env.app t'.db).identities (.from f.profile.provider, f.profile.providerUserId) = some id ∨
      (directory env.app t'.db).identities (.from f.profile.provider, f.profile.providerUserId) ≠ none ∧
        a.email = f.profile.email)

/-- Session `j` returns the response `b`, which callback `k` has stored under the code at the end of the
flow, at most two minutes before. -/
def Delivered (env : WebEnv) (H : WebTrace) (j k : ℕ) (code : String) (f : ProviderFlow)
    (b : AuthResponse) : Prop :=
  ∃ g s p t, IsTaken H g j (StateStore.exchangeKey code) (some (env.authToJson b)) s ∧
    Exchanged env g p k code b t ∧ s.app.clock ≤ t.app.clock + StateStore.exchangeTtlSecs * 1000000 ∧
    SignIn env p k f b

/-- Sessions return the responses of sign-ins. -/
structure SignInFlow (env : WebEnv) (H : WebTrace) : Prop where
  /-- Each session returns the response of a sign-in. -/
  session : ∀ {h j headers code x}, .start j (.session headers code) ∈ H → Occurs H h (.done j (.ok x)) →
    ∃ k f b, x = .api (.auth b) ∧ Delivered env h j k code f b
  /-- Sign-ins with one state, or sessions with one code, are the same. -/
  once : ∀ {h h' j j' k k' code code' f f' b b'}, h <:+ H → h' <:+ H → Delivered env h j k code f b →
    Delivered env h' j' k' code' f' b' → f.state = f'.state ∨ code = code' →
    j = j' ∧ k = k' ∧ code = code' ∧ b = b'

section Runs

variable {clock : ℕ} {c : Pool WebOp WebRet WebRequest (Except WebError WebResponse) WebState}
  {h p : WebTrace} {k : ℕ} {t : WebState} {b : AuthResponse} (hc : (web env).Reachable (.fresh clock) c)

include hc

/-- What a callback asks the services is performed one after another. -/
theorem performed_of_callback (hh : h <:+ c.history) {l : Log Op Ret} (hl : l <:+ appLog (localLog k h)) :
    Performed env.app l (Asked k h) where
  stmt := by
    rintro x s s' ⟨w, w', hm, rfl, rfl⟩
    exact (web_stmt hc (hh.subset hm)).app_eq.1
  mem := by
    intro x hx
    obtain ⟨w, w', hm⟩ := exists_stmt_of_mem_localLog (mem_appLog.1 (hl.subset hx))
    exact ⟨_, _, w, w', hm, rfl, rfl⟩
  precedes := by
    rintro x y ⟨l', hx, hy⟩
    obtain ⟨⟨o, r⟩, log, hlog, hown, rfl⟩ := services.part_cons_suffix (hy.trans hl)
    cases o with
    | app o =>
      cases hown
      obtain ⟨past, w, w', hocc, rfl⟩ := exists_occurs_of_suffix hlog
      obtain ⟨v, v', hm⟩ := exists_stmt_of_mem_localLog (mem_appLog.1 hx)
      exact ⟨_, _, _, _, ⟨v, v', hocc.past.subset hm, rfl, rfl⟩, ⟨w, w', hocc.mem, rfl, rfl⟩,
        web_ordered hc (hocc.of_suffix hh) hm⟩
    | _ => cases hown

/-- **A callback shows one token** to one provider, and has got it for one code. -/
theorem token_unique (hx : env.Exact) (hh : h <:+ c.history) {o o' : WebOp} {r : WebRet o} {r' : WebRet o'}
    {s s' u u' : WebState} {provider provider' : OAuthProvider} {token token' : String}
    (hm : .stmt k o r s s' ∈ h) (ho : o.fetches = some (provider, token)) (hm' : .stmt k o' r' u u' ∈ h)
    (ho' : o'.fetches = some (provider', token')) : provider = provider' ∧ token = token' := by
  obtain ⟨d, hocc⟩ := exists_occurs hm
  obtain ⟨d', hocc'⟩ := exists_occurs hm'
  have hd := hocc.past.trans hh
  have hd' := hocc'.past.trans hh
  obtain ⟨g, cfg, code, verifier, v, v', he⟩ := token_of_fetch hc (hocc.of_suffix hh) ho
  obtain ⟨g', cfg', code', verifier', w, w', he'⟩ := token_of_fetch hc (hocc'.of_suffix hh) ho'
  have he := he.of_suffix hd
  have he' := he'.of_suffix hd'
  obtain ⟨slug, params, -, -, -, hq, -⟩ := exchanges_of_stmt hc he
  have hq := he.past.subset hq
  obtain ⟨-, rfl⟩ := code_exchanged_once hc hx hq hq rfl he he'
  cases he.unique he'
  exact ⟨rfl, rfl⟩

/-- **A callback stores one response**, under one code. -/
theorem stored_once {code code' : String} {p' : WebTrace} {b' : AuthResponse} {t' : WebState}
    (ha : Exchanged env c.history p k code b t) (ha' : Exchanged env c.history p' k code' b' t') :
    p = p' ∧ code = code' := by
  obtain ⟨slug, params, hq⟩ := ha.request
  obtain ⟨r, s, he⟩ := ha.stored
  obtain ⟨r', s', he'⟩ := ha'.stored
  -- The later of two would find the earlier one in its log.
  have hlater : ∀ {d d' : WebTrace} {o : WebOp} {r : WebRet o} {command : Command}
      {x : Except ValkeyError command.Reply} {v v' w w' : WebState},
      Occurs c.history d (.stmt k o r v v') → Occurs d d' (.stmt k (.valkey command) x w w') →
        (WebOp.valkey command).stores = none := by
    intro d d' o r command x v v' w w' hd hd'
    have hlog : (⟨.valkey command, x⟩ : (o : WebOp) × WebRet o) ∈ localLog k d := by
      have hsuffix := localLog_suffix (i := k) hd'
      rw [localLog_stmt_self] at hsuffix
      exact hsuffix.subset List.mem_cons_self
    exact web_at_stmt hc webHandle_stores (he.past.subset hq) hd slug params rfl _ hlog
  rcases he.total he' with ⟨heq, rfl⟩ | hlt | hlt
  · obtain ⟨-, hop, -⟩ := Event.stmt.inj heq
    injection hop with hcommand
    injection hcommand with hkey
    exact ⟨rfl, StateStore.exchangeKey_injective hkey⟩
  · cases hlater he hlt
  · cases hlater he' hlt

/-- **What is stored under a code** ends a sign-in. -/
theorem signIn_of_exchanged (hx : env.Exact) {code : String}
    (hexchanged : Exchanged env c.history p k code b t) : ∃ f, SignIn env p k f b := by
  obtain ⟨slug, params, hq⟩ := hexchanged.request
  obtain ⟨r, s', hstored⟩ := hexchanged.stored
  have hp := hstored.past
  obtain ⟨profile, auth, hvalue, hslug, hfetched, n, l, hl, hconfirms⟩ :=
    web_at_stmt hc webHandle_completes (hp.subset hq) hstored _ rfl slug params rfl
  obtain rfl : b = auth := Option.some.inj (by rw [← hx.auth_json, hvalue, hx.auth_json])
  -- The profile has been fetched with a token that has been got for the code.
  obtain ⟨o, r₁, token, hlogged, ho⟩ := hfetched.fetches
  obtain ⟨s₁, s₁', hm⟩ := exists_stmt_of_mem_localLog hlogged
  obtain ⟨d, hfetch⟩ := exists_occurs hm
  obtain ⟨g, cfg, brought, verifier, v, v', hexchange⟩ := token_of_fetch hc (hfetch.of_suffix hp) ho
  have hexchange := hexchange.of_suffix hfetch.past
  obtain ⟨slug', params', state, i, q, t', g', u, hq', herror, hcode, hstate, hcfg, htaken, hauthorized,
    hclock, hredirect⟩ := exchange_authorized hc hx (hexchange.of_suffix hp)
  have hq' := hexchange.past.subset hq'
  cases hc.numbered.start_unique (hp.subset hq) (hp.subset hq')
  have hlogin := (performed_of_callback hc hp (hl ▸ List.suffix_cons _ _)).oauthLogin hconfirms
  exact ⟨⟨profile.provider, state, verifier, brought, token, profile⟩, {
    callback := ⟨slug, params, hq, herror, hcode, hstate, hslug⟩
    authorized := ⟨i, q, t', g', u, cfg, hauthorized.of_suffix hexchange.past,
      htaken.of_suffix hexchange.past, hclock, hcfg, fun x hdone => hredirect x (hp.subset hdone)⟩
    exchanged := ⟨cfg, v, v', hcfg, hexchange.mem⟩
    shown := fun hm' ho' => token_unique hc hx hp hm' ho' hm ho
    profile := ⟨rfl, hfetched⟩
    account := hlogin }⟩

end Runs

/-- **Sessions return the responses of sign-ins**, in every run with any clients and providers. -/
theorem sign_in_flow (hx : env.Exact) {clock : ℕ}
    {c : Pool WebOp WebRet WebRequest (Except WebError WebResponse) WebState}
    (hc : (web env).Reachable (.fresh clock) c) : SignInFlow env c.history where
  session := by
    intro h j headers code x hq hdone
    obtain ⟨g, s, k, p, b, t, rfl, htaken, hexchanged, hclock⟩ := session_exchanged hc hx hq hdone
    obtain ⟨s', htake⟩ := id htaken
    obtain ⟨f, hf⟩ := signIn_of_exchanged hc hx (hexchanged.of_suffix (htake.past.trans hdone.past))
    exact ⟨k, f, b, rfl, g, s, p, t, htaken, hexchanged, hclock, hf⟩
  once := by
    intro h h' j j' k k' code code' f f' b b' hh hh' hd hd' hsame
    obtain ⟨g, s, p, t, htaken, hexchanged, -, hf⟩ := hd
    obtain ⟨g', s', p', t', htaken', hexchanged', -, hf'⟩ := hd'
    have htaken := htaken.of_suffix hh
    have htaken' := htaken'.of_suffix hh'
    obtain ⟨_, htake⟩ := id htaken
    obtain ⟨_, htake'⟩ := id htaken'
    have hexchanged := hexchanged.of_suffix htake.past
    have hexchanged' := hexchanged'.of_suffix htake'.past
    have hcode : k = k' ∧ code = code' := by
      rcases hsame with hstate | rfl
      · obtain ⟨r, u, hp⟩ := hexchanged.stored
        obtain ⟨r', u', hp'⟩ := hexchanged'.stored
        obtain ⟨_, _, _, _, _, _, -, htook, -⟩ := hf.authorized
        obtain ⟨_, _, _, _, _, _, -, htook', -⟩ := hf'.authorized
        rw [← hstate] at htook'
        obtain ⟨rfl, -⟩ := state_taken_once hc hx (htook.of_suffix hp.past) (htook'.of_suffix hp'.past)
        exact ⟨rfl, (stored_once hc hexchanged hexchanged').2⟩
      · exact ⟨(exchanged_once hc hx hexchanged hexchanged').1, rfl⟩
    obtain ⟨rfl, rfl⟩ := hcode
    obtain ⟨rfl, rfl⟩ := taken_once (fun h => h) (fun h => h) hc (oneTime_exchangeKey hc code)
      (storedOnce_exchangeKey hc hx code) htaken htaken'
    refine ⟨rfl, rfl, rfl, ?_⟩
    obtain ⟨-, -, hreply, -⟩ := Event.stmt.inj (htake.unique htake')
    have hauth := Option.some.inj (Except.ok.inj (eq_of_heq hreply))
    exact Option.some.inj (by rw [← hx.auth_json, hauth, hx.auth_json])

/-- Carol signs in through Google. -/
theorem sign_in_flow_of_carol : ∃ c, (web demoWeb).Reachable (.fresh 0) c ∧
    (∃ a, System.outcome 2 c.history = some (.ok (.api (.auth a))) ∧ a.user.email = "carol@example.com") ∧
    SignInFlow demoWeb c.history := by
  obtain ⟨c, hc, hobs⟩ := exists_web_run demoWeb trustingAnswers 0 (flow "carol@example.com")
    (fun c => (System.outcome 2 c.history).bind sessionFor) (some "carol@example.com") (by decide +kernel)
  obtain ⟨x, hx, hfor⟩ := Option.bind_eq_some_iff.1 hobs
  obtain ⟨a, rfl, hemail⟩ := sessionFor_eq_some hfor
  exact ⟨c, hc, ⟨a, hx, hemail⟩, sign_in_flow demoWeb_exact hc⟩

end Socle
