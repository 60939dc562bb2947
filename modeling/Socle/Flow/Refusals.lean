import Socle.Access.Reasons
import Socle.Flow.Availability
import Socle.Flow.Store
import Socle.Web.Errors

/-!
# Refusals of the flow

What a flow's request is told when it fails is true.

* `Absent`, `absent_of_none`: nothing is found only where nothing is left;
* `Justified`: when a flow's request may be answered with which error;
* `Outage`: the installation, the store, the database or the provider is at fault;
* `LoginCause`, `login_justified`: why the login of a callback fails;
* `JustFlow`, `flow_refusals`: every error of a flow's request is justified, and errors of the server are not
  the client's fault.
-/

namespace Socle

open Interaction Prog Valkey

/-- Whatever has been stored at the key in `h` has been asked for since, or its time is over in the state
`s`. -/
def Absent (h : WebTrace) (k : String) (s : WebState) : Prop :=
  ∀ p j value seconds t t', Occurs h p (.stmt j (.valkey (.setEx k value seconds)) (.ok ()) t t') →
    t.app.clock + seconds.toNat * 1000000 < s.app.clock ∨ ¬ Unasked h p k

/-- When a flow's request may be answered with which error. -/
inductive Justified (env : WebEnv) (H : WebTrace) (i : ℕ) : WebRequest → WebError → Prop
  | unknownProvider {q : WebRequest} {slug : String} (hq : q.slug = some slug)
    (h : OAuthProvider.fromSlug slug = none) : Justified env H i q (.app (.oauth (.unknownProvider slug)))
  | denied {slug error : String} {params : CallbackParams} (h : params.error = some error) :
    Justified env H i (.callback slug params)
      (.oauth (.providerDenied error (params.errorDescription.getD "no detail provided")))
  | missingParam {slug : String} {params : CallbackParams} (h : params.code = none ∨ params.state = none) :
    Justified env H i (.callback slug params) (.oauth .invalidState)
  | notConfigured {q : WebRequest} {slug : String} {provider : OAuthProvider} (hq : q.slug = some slug)
    (hslug : OAuthProvider.fromSlug slug = some provider) (h : env.oauth.provider provider = none) :
    Justified env H i q (.oauth (.providerNotConfigured provider))
  | invalidUrl {q : WebRequest} {slug url message : String} {provider : OAuthProvider}
    {cfg : OAuthProviderConfig} (hq : q.slug = some slug)
    (hslug : OAuthProvider.fromSlug slug = some provider) (hcfg : env.oauth.provider provider = some cfg)
    (hurl : url ∈ providerUrls provider cfg) (h : env.parseUrl url = some message) :
    Justified env H i q (.oauth (.invalidRedirectUri message))
  /-- A command of the state store has failed. -/
  | stateStore {q : WebRequest} {command : Command} {e : ValkeyError} {s s' : WebState}
    (hm : .stmt i (.valkey command) (.error e) s s' ∈ H) : Justified env H i q (.oauth e.flowError)
  /-- The state has never been stored, has been taken, or is older than ten minutes. -/
  | absentState {slug state : String} {params : CallbackParams} {h : WebTrace} {s : WebState}
    (hstate : params.state = some state) (htaken : IsTaken H h i (StateStore.stateKey state) none s)
    (habsent : Absent h (StateStore.stateKey state) s) :
    Justified env H i (.callback slug params) (.oauth .invalidState)
  /-- The state has been generated for another provider. -/
  | mismatch {slug state verifier raw : String} {params : CallbackParams} {expected actual : OAuthProvider}
    {h p : WebTrace} {j : ℕ} {s t : WebState} (hstate : params.state = some state)
    (hslug : OAuthProvider.fromSlug slug = some expected) (hne : actual ≠ expected)
    (htaken : IsTaken H h i (StateStore.stateKey state) (some raw) s)
    (ha : Authorized env h p j actual state verifier t) :
    Justified env H i (.callback slug params) (.oauth (.providerMismatch expected actual))
  /-- The provider has refused the code. -/
  | tokenExchange {slug code verifier message : String} {params : CallbackParams} {provider : OAuthProvider}
    {cfg : OAuthProviderConfig} {s s' : WebState} (hslug : OAuthProvider.fromSlug slug = some provider)
    (hcode : params.code = some code)
    (hm : .stmt i (.exchangeToken provider cfg code verifier) (.error message) s s' ∈ H) :
    Justified env H i (.callback slug params) (.oauth (.tokenExchange message))
  | unreachable {slug message : String} {params : CallbackParams} {o : WebOp} {r : WebRet o} {s s' : WebState}
    (hm : .stmt i o r s s' ∈ H) (h : fetchFailure ⟨o, r⟩ = some message) :
    Justified env H i (.callback slug params) (.oauth (.providerUnreachable message))
  /-- GitHub has reported no address that is both primary and verified. -/
  | incomplete {slug token : String} {params : CallbackParams} {emails : List GitHubEmail} {s s' : WebState}
    (hm : .stmt i (.gitHubEmails token) (.ok emails) s s' ∈ H)
    (h : (emails.find? fun e => e.primary && e.verified) = none) :
    Justified env H i (.callback slug params) (.oauth (.incompleteProfile "email"))
  /-- The code has never been stored, has been taken, or is older than two minutes. -/
  | absentCode {headers : ForwardedHeaders} {code : String} {h : WebTrace} {s : WebState}
    (htaken : IsTaken H h i (StateStore.exchangeKey code) none s)
    (habsent : Absent h (StateStore.exchangeKey code) s) :
    Justified env H i (.session headers code) (.oauth .exchangeCodeInvalid)
  /-- A statement of the database has failed. -/
  | database {slug : String} {params : CallbackParams} {sql : Sql} {e : sql.Error} {s s' : WebState}
    (hm : .stmt i (.app (.sql sql)) (.error e) s s' ∈ H) :
    Justified env H i (.callback slug params) (.app (sql.report e))
  /-- The account of the profile that the provider has reported was inactive when the callback looked for
  it. -/
  | disabled {slug : String} {params : CallbackParams} {profile : OAuthProfile} {o : Op} {r : Ret o}
    {s s' : WebState} (hslug : OAuthProvider.fromSlug slug = some profile.provider)
    (hfetched : Fetched (localLog i H) profile) (hm : .stmt i (.app o) r s s' ∈ H)
    (h : DisabledProfile s.app profile) : Justified env H i (.callback slug params) (.app .accountDisabled)
  /-- The check of the request has counted it beyond the limit. -/
  | limited {q : WebRequest} {check : Check} {log : Log WebOp WebRet} {retryAfter : ℕ}
    (hcheck : q.check = some check) (hlog : log <:+ localLog i H)
    (h : Checked env check log (.error retryAfter)) : Justified env H i q (.rateLimited retryAfter)

/-- The configuration, the store, the database or the provider is at fault. -/
inductive Outage (env : WebEnv) (H : WebTrace) (i : ℕ) (q : WebRequest) : Prop
  | notConfigured {slug : String} {provider : OAuthProvider} (hq : q.slug = some slug)
    (hslug : OAuthProvider.fromSlug slug = some provider) (h : env.oauth.provider provider = none)
  | invalidUrl {slug url message : String} {provider : OAuthProvider} {cfg : OAuthProviderConfig}
    (hq : q.slug = some slug) (hcfg : env.oauth.provider provider = some cfg)
    (hurl : url ∈ providerUrls provider cfg) (h : env.parseUrl url = some message)
  | store {command : Command} {e : ValkeyError} {s s' : WebState}
    (hm : .stmt i (.valkey command) (.error e) s s' ∈ H)
  | database {sql : Sql} {e : sql.Error} {s s' : WebState}
    (hm : .stmt i (.app (.sql sql)) (.error e) s s' ∈ H)
  | exchange {provider : OAuthProvider} {cfg : OAuthProviderConfig} {code verifier message : String}
    {s s' : WebState} (hm : .stmt i (.exchangeToken provider cfg code verifier) (.error message) s s' ∈ H)
  | fetch {o : WebOp} {r : WebRet o} {message : String} {s s' : WebState} (hm : .stmt i o r s s' ∈ H)
    (h : fetchFailure ⟨o, r⟩ = some message)
  | incomplete {token : String} {emails : List GitHubEmail} {s s' : WebState}
    (hm : .stmt i (.gitHubEmails token) (.ok emails) s s' ∈ H)
    (h : (emails.find? fun e => e.primary && e.verified) = none)

variable {env : WebEnv}

/-- Errors of the server are not the client's fault. -/
theorem Justified.outage {H : WebTrace} {i : ℕ} {q : WebRequest} {e : WebError} (h : Justified env H i q e)
    (hserver : 500 ≤ e.statusCode) : Outage env H i q := by
  cases h with
  | notConfigured hq hslug h => exact .notConfigured hq hslug h
  | invalidUrl hq hslug hcfg hurl h => exact .invalidUrl hq hcfg hurl h
  | stateStore hm => exact .store hm
  | tokenExchange hslug hcode hm => exact .exchange hm
  | unreachable hm h => exact .fetch hm h
  | incomplete hm h => exact .incomplete hm h
  | database hm => exact .database hm
  | unknownProvider | denied | missingParam | absentState | mismatch | absentCode | disabled | limited =>
    exact absurd hserver (by simp [WebError.statusCode, AppError.statusCode, OAuthError.statusCode,
      FlowError.statusCode])

/-- Why the services fail, as far as the flow is concerned. -/
def LoginCause (q : Request) (log : Log Op Ret) (e : AppError) : Prop :=
  ∀ profile, q = .oauthLogin profile → LoginFails profile log e

theorem handle_loginCause (q : Request) :
    SatE (handle env.app q) (fun _ _ => True) (fun _ _ => True) (LoginCause q) [] := by
  cases q with
  | oauthLogin profile =>
    refine (oauthLogin_fails profile).mono (fun _ _ => id) (fun _ _ => id) fun l e h profile' heq => ?_
    cases heq
    exact h
  | _ =>
    refine SatE.trivial (fun _ _ => trivial) (fun _ _ => trivial) (fun _ _ profile heq => ?_) _
    cases heq

/-! ### Runs -/

/-- The requests of the flow. -/
def WebRequest.isFlow : WebRequest → Bool
  | .authorize _ | .callback _ _ | .session _ _ => true
  | .api _ _ _ => false

/-- In a history, the errors of the flow are justified. -/
structure JustFlow (env : WebEnv) (H : WebTrace) : Prop where
  /-- Every error of a flow's request has its reason. -/
  justified : ∀ {i q e}, .start i q ∈ H → q.isFlow = true → .done i (.error e) ∈ H → Justified env H i q e
  /-- It is an error of the server only if the configuration, the store, the database or the provider is at
  fault. -/
  server : ∀ {i q e}, .start i q ∈ H → q.isFlow = true → .done i (.error e) ∈ H → 500 ≤ e.statusCode →
    Outage env H i q

section Runs

variable {clock : ℕ} {c : Pool WebOp WebRet WebRequest (Except WebError WebResponse) WebState} {h : WebTrace}
  {i : ℕ} {s : WebState} (hx : env.Exact) (hc : (web env).Reachable (.fresh clock) c)

include hx hc

omit hx in
/-- **Nothing is found only where nothing is left.** -/
theorem absent_of_none {k : String} {ttl : ℤ} (hone : OneTime c.history k ttl)
    (honce : StoredOnce c.history k) (htaken : IsTaken c.history h i k none s) : Absent h k s := by
  have hsem : ∀ {H i o s r s'}, (web env).sem H i o s r s' → WebStmt env o s r s' := fun h => h
  have htick : ∀ {s s'}, (web env).tick s s' → WebTick s s' := fun h => h
  intro p j value seconds t t' hstored
  obtain ⟨s', he⟩ := id htaken
  have hseconds : seconds = ttl := by
    rcases hone j _ _ t t' (he.past.subset hstored.mem) rfl with hget | ⟨value', hset⟩
    · cases hget
    · injection hset
  subst hseconds
  by_contra hleft
  obtain ⟨hclock, hunasked⟩ := not_or.1 hleft
  have hfound := take_first hsem htick hc hone honce hstored (not_not.1 hunasked) htaken (Nat.not_lt.1 hclock)
  cases hfound

omit hx in
/-- **A login fails for a reason.** -/
theorem login_justified {d : WebTrace} (hd : d <:+ c.history) {slug : String} {params : CallbackParams}
    {profile : OAuthProfile} {e : AppError} (hslug : OAuthProvider.fromSlug slug = some profile.provider)
    (hfetched : Fetched (localLog i d) profile) (h : LoginFails profile (appLog (localLog i d)) e) :
    Justified env c.history i (.callback slug params) (.app e) := by
  cases h with
  | statement h =>
    generalize hlog : appLog (localLog i d) = log at h
    have hmem : ∀ {o : Op} {r : Ret o} {l : Log Op Ret}, ⟨o, r⟩ :: l = log →
        ∃ s s', .stmt i (.app o) r s s' ∈ c.history := by
      rintro o r l rfl
      obtain ⟨s, s', hm⟩ := exists_stmt_of_mem_localLog (mem_appLog.1 (hlog ▸ List.mem_cons_self))
      exact ⟨s, s', hd.subset hm⟩
    cases h with
    | sql =>
      obtain ⟨s, s', hm⟩ := hmem rfl
      exact .database hm
    | encode =>
      -- Signing never fails.
      obtain ⟨s, s', hm⟩ := hmem rfl
      cases (web_stmt hc hm).app_eq.1.encode_eq.1
  | disabled hu hactive =>
    obtain ⟨⟨o, r⟩, l, hl, hinactive⟩ := hu.inactive env.app hactive
    obtain ⟨s, s', hm⟩ := exists_stmt_of_mem_localLog (mem_appLog.1 (hl.subset List.mem_cons_self))
    have hm := hd.subset hm
    exact .disabled hslug (hfetched.of_suffix (localLog_suffix hd)) hm
      (hinactive _ _ (web_stmt hc hm).app_eq.1).2

/-- **Every error of a flow's request is justified**, in every run. -/
theorem flow_justified {q : WebRequest} {e : WebError} (hq : .start i q ∈ c.history)
    (hflow : q.isFlow = true) (hdone : .done i (.error e) ∈ c.history) : Justified env c.history i q e := by
  have hsound := store_sound hc hx
  obtain ⟨d, hd⟩ := exists_occurs hdone
  obtain ⟨q', hq', hcause⟩ := hc.at_done (webHandle_causes handle_loginCause) hd
  obtain rfl := hc.numbered.start_unique hq (hd.past.subset hq')
  -- What stands in the log stands in the history.
  have hlogged : ∀ {o : WebOp} {r : WebRet o}, ⟨o, r⟩ ∈ localLog i d →
      ∃ s s', .stmt i o r s s' ∈ c.history := by
    intro o r hm
    obtain ⟨s, s', hm⟩ := exists_stmt_of_mem_localLog hm
    exact ⟨s, s', hd.past.subset hm⟩
  have hcause : WebCause env LoginCause q (localLog i d) e := hcause
  have hlogin := @login_justified env clock c i hc d hd.past
  have hlocal : localLog i d <:+ localLog i c.history := localLog_suffix hd.past
  generalize hlog : localLog i d = log at hcause hlogged hlogin hlocal
  cases hcause with
  | limited hcheck hchecked => exact .limited hcheck hlocal hchecked
  | served => cases hflow
  | login hslug hfetched h => exact hlogin hslug hfetched (h _ rfl)
  | unknownProvider hslug hnone => exact .unknownProvider hslug hnone
  | notConfigured hslug hprovider hnone => exact .notConfigured hslug hprovider hnone
  | invalidUrl hslug hprovider hcfg hurl hparse => exact .invalidUrl hslug hprovider hcfg hurl hparse
  | stateStore =>
    obtain ⟨s, s', hm⟩ := hlogged List.mem_cons_self
    exact .stateStore hm
  | denied herror => exact .denied herror
  | missingParam hmissing => exact .missingParam hmissing
  | absentState hstate =>
    obtain ⟨s, s', hm⟩ := hlogged List.mem_cons_self
    obtain ⟨h, hocc⟩ := exists_occurs hm
    exact .absentState hstate ⟨s', hocc⟩ (absent_of_none hc (oneTime_stateKey hc _)
      (storedOnce_stateKey hc hx _) ⟨s', hocc⟩)
  | rejectedState hstate hslug hrejected =>
    obtain ⟨s, s', hm⟩ := hlogged List.mem_cons_self
    obtain ⟨h, hocc⟩ := exists_occurs hm
    obtain ⟨j, p, actual, verifier, t, ha, hverifier⟩ := hsound.verifier ⟨s', hocc⟩
    rw [hverifier] at hrejected
    split at hrejected
    · next hne =>
      cases hrejected
      exact .mismatch hstate hslug hne ⟨s', hocc⟩ ha
    · cases hrejected
  | tokenExchange hexchanges =>
    obtain ⟨s, s', hm⟩ := hlogged List.mem_cons_self
    exact .tokenExchange hexchanges.slug hexchanges.accepted.2 hm
  | fetch hfetch =>
    cases hfetch with
    | unreachable hfailure =>
      obtain ⟨s, s', hm⟩ := hlogged List.mem_cons_self
      exact .unreachable hm hfailure
    | incomplete hfind =>
      obtain ⟨s, s', hm⟩ := hlogged List.mem_cons_self
      exact .incomplete hm hfind
  | @session headers code l remaining x _ hchecked hredeemed =>
    obtain ⟨s, s', hm⟩ := hlogged List.mem_cons_self
    obtain ⟨h, hocc⟩ := exists_occurs hm
    cases x with
    | none =>
      cases hredeemed
      exact .absentCode ⟨s', hocc⟩ (absent_of_none hc (oneTime_exchangeKey hc _)
        (storedOnce_exchangeKey hc hx _) ⟨s', hocc⟩)
    | some raw =>
      -- A response that has been stored can be read.
      obtain ⟨j, p, auth, t, -, hread⟩ := hsound.response ⟨s', hocc⟩
      rw [redeemed] at hredeemed
      simp only [hread] at hredeemed
      cases hredeemed

/-- **Refusals of the flow are just**, whatever clients send, however requests interleave and whatever
fails. -/
theorem flow_refusals : JustFlow env c.history :=
  ⟨flow_justified hx hc, fun hq hflow hdone hserver => (flow_justified hx hc hq hflow hdone).outage hserver⟩

end Runs

/-- Carol's callback is repeated, and refused. -/
theorem flow_refusals_of_repeated : ∃ c, (web demoWeb).Reachable (.fresh 0) c ∧
    System.outcome 3 c.history = some (.error (.oauth .invalidState)) ∧ JustFlow demoWeb c.history := by
  obtain ⟨c, hc, hobs⟩ := exists_web_run demoWeb trustingAnswers 0
    (flow "carol@example.com" ++
      [.start (.callback "google" ⟨some "carol@example.com", some (tally 1), none, none⟩)] ++ System.goes 3 1)
    (fun c => System.outcome 3 c.history) (some (.error (.oauth .invalidState))) (by decide +kernel)
  exact ⟨c, hc, hobs, flow_refusals demoWeb_exact hc⟩

end Socle
