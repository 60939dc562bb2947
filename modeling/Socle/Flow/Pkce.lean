import Socle.Flow.Availability

/-!
# Proof of key

An authorization sends a browser to its provider with the challenge of a verifier that it keeps; the callback
of the flow shows the verifier when it exchanges its code, and the access token that it gets when it asks for
the profile.

* `webHandle_callsProvider`: only callbacks call providers;
* `ProofOfKey`, `proof_of_key`: codes, verifiers and access tokens of a flow stay together.
-/

namespace Socle

open Interaction Prog Valkey

variable {env : WebEnv}

/-- **Only callbacks call providers**, and as they should. -/
theorem webHandle_callsProvider (q : WebRequest) :
    SatE (webHandle env q) (fun l o => o.callsProvider = true →
      ∃ slug params, q = .callback slug params ∧ AsksProvider env slug params l o)
      (fun _ _ => True) (fun _ _ => True) [] := by
  have hsilent : ∀ {l : Log WebOp WebRet} {o : WebOp}, o.callsProvider = false → o.callsProvider = true →
      ∃ slug params, q = .callback slug params ∧ AsksProvider env slug params l o := by
    intro l o hfalse htrue
    rw [hfalse] at htrue
    cases htrue
  cases q with
  | api headers q direct =>
    refine satE_limited (fun _ _ _ => trivial) (fun p _ => ?_) fun l _ _ => ?_
    · exact sat_check_commands (hsilent rfl) (fun _ _ _ => hsilent rfl) (fun _ _ _ => hsilent rfl)
        fun _ _ _ _ => hsilent rfl
    · rw [satE_map]
      exact satE_lift_any (fun _ _ _ => hsilent rfl) (fun _ _ _ => trivial) fun _ _ _ => trivial
  | authorize slug =>
    simp only [webHandle, Routes.authorize, satE_bind, satE_liftResolveProvider, satE_providerConfig,
      satE_map, satE_buildAuthorizationUrl, satE_parseUrl, satE_insert]
    exact ⟨fun _ _ => ⟨fun _ _ => ⟨hsilent rfl, fun _ => ⟨fun _ => ⟨fun _ => ⟨fun _ =>
      ⟨hsilent rfl, fun _ => ⟨hsilent rfl, fun _ => trivial, fun _ => trivial⟩⟩, fun _ _ => trivial⟩,
      fun _ _ => trivial⟩, fun _ _ => trivial⟩⟩, fun _ => trivial⟩, fun _ => trivial⟩
  | callback slug params =>
    refine SatE.mono (fun l o h _ => ⟨slug, params, rfl, h⟩) (fun _ _ h => h) (fun _ _ _ => trivial)
      (callback_spec (E := fun _ _ _ => True) ?_ slug params)
    exact fun q => SatE.trivial (fun _ _ => trivial) (fun _ _ => trivial) (fun _ _ => trivial) _
  | session headers code =>
    unfold webHandle
    refine satE_limited (fun _ _ _ => trivial) (fun p _ => ?_) fun l _ _ => ?_
    · exact sat_check_commands (hsilent rfl) (fun _ _ _ => hsilent rfl) (fun _ _ _ => hsilent rfl)
        fun _ _ _ _ => hsilent rfl
    · simp only [Routes.session, satE_bind, satE_takeExchange]
      refine ⟨hsilent rfl, trivial, fun raw => ?_, fun _ => trivial⟩
      cases env.authFromJson raw <;> simp

/-! ### Runs -/

section Runs

variable {clock : ℕ} {c : Pool WebOp WebRet WebRequest (Except WebError WebResponse) WebState}
  {h : WebTrace} {i j : ℕ} {provider : OAuthProvider} {state verifier : String} {s s' t : WebState}
  (hc : (web env).Reachable (.fresh clock) c)

include hc

/-- A provider is called by a callback. -/
theorem callback_of_stmt {o : WebOp} {r : WebRet o} (ho : o.callsProvider = true)
    (he : Occurs c.history h (.stmt j o r s s')) : ∃ slug params, .start j (.callback slug params) ∈ h ∧
      AsksProvider env slug params (localLog j h) o := by
  obtain ⟨q, hq, hcalls⟩ := hc.at_stmt webHandle_callsProvider he
  obtain ⟨slug, params, rfl, hasks⟩ := hcalls ho
  exact ⟨slug, params, hq, hasks⟩

/-- A code is exchanged with the verifier that has been taken for its state. -/
theorem exchanges_of_stmt {cfg : OAuthProviderConfig} {code : String} {r : Except String String}
    (he : Occurs c.history h (.stmt j (.exchangeToken provider cfg code verifier) r s s')) :
    ∃ slug params state g u, .start j (.callback slug params) ∈ h ∧ params.error = none ∧
      params.code = some code ∧ params.state = some state ∧ env.oauth.provider provider = some cfg ∧
      TakenFor env h g j provider state verifier u ∧ (localLog j h).length = 1 := by
  obtain ⟨slug, params, hq, hasks⟩ := callback_of_stmt hc rfl he
  obtain ⟨⟨herror, hcode⟩, hslug, hcfg, state, raw, hstate, hraw, hlog⟩ := hasks.exchange rfl
  obtain ⟨g, u, u', hocc, -⟩ := exists_occurs_of_suffix ⟨[], hlog.symm⟩
  obtain ⟨q', hq', -⟩ := sends_of_stmt hc (hocc.of_suffix he.past)
  obtain rfl := hc.numbered.start_unique (he.past.subset hq) ((hocc.past.trans he.past).subset hq')
  exact ⟨slug, params, state, g, u, hq, herror, hcode, hstate, hcfg,
    ⟨⟨slug, params, hq', hstate, hslug⟩, raw, ⟨u', hocc⟩, hraw⟩, by rw [hlog]; rfl⟩

/-- **What an authorization has shown to its provider** is the challenge of its verifier. -/
theorem challenge_of_authorized {p : WebTrace}
    (ha : Authorized env c.history p i provider state verifier t) {x : WebResponse}
    (hdone : .done i (.ok x) ∈ c.history) : ∃ cfg, env.oauth.provider provider = some cfg ∧
      x = .redirect (env.consentUrl provider cfg state (env.pkceChallenge verifier)) := by
  obtain ⟨slug, hi, hslug⟩ := ha.request
  obtain ⟨n, m, hlog, rfl, rfl⟩ := ha.generated
  obtain ⟨r, t', hstored⟩ := ha.stored
  obtain ⟨d, hd⟩ := exists_occurs hdone
  have hend := web_at_ok hc webHandle_redirects (hstored.past.subset hi) hd
  have hsuffix := localLog_suffix (i := i) hstored.past
  rw [hc.localLog_of_done hd, hlog] at hsuffix
  generalize localLog i d = l at hend hsuffix
  cases hend with
  | @authorize _ provider' cfg n' m' hslug' hcfg =>
    obtain rfl := Option.some.inj (hslug.symm.trans hslug')
    rcases List.suffix_cons_iff.1 hsuffix with heq | htail
    · cases heq
    · have heq := htail.eq_of_length rfl
      cases heq
      exact ⟨cfg, hcfg, rfl⟩

/-- **A code is exchanged** with the verifier of the authorization that has generated its state. -/
theorem exchange_authorized (hx : env.Exact) {cfg : OAuthProviderConfig} {code : String}
    {r : Except String String}
    (he : Occurs c.history h (.stmt j (.exchangeToken provider cfg code verifier) r s s')) :
    ∃ slug params state i p t g u, .start j (.callback slug params) ∈ h ∧ params.error = none ∧
      params.code = some code ∧ params.state = some state ∧ env.oauth.provider provider = some cfg ∧
      TakenFor env h g j provider state verifier u ∧ Authorized env h p i provider state verifier t ∧
      u.app.clock ≤ t.app.clock + StateStore.stateTtlSecs * 1000000 ∧
      ∀ x, .done i (.ok x) ∈ c.history →
        x = .redirect (env.consentUrl provider cfg state (env.pkceChallenge verifier)) := by
  obtain ⟨slug, params, state, g, u, hq, herror, hcode, hstate, hcfg, htaken, -⟩ := exchanges_of_stmt hc he
  obtain ⟨raw, ⟨u', hocc⟩, -⟩ := htaken.taken
  obtain ⟨i, p, t, ha, hclock⟩ := take_authorized hc hx (htaken.of_suffix he.past)
  have ha' := ha.of_suffix hocc.past
  refine ⟨slug, params, state, i, p, t, g, u, hq, herror, hcode, hstate, hcfg, htaken, ha', hclock, ?_⟩
  intro x hdone
  obtain ⟨cfg', hcfg', rfl⟩ := challenge_of_authorized hc (ha'.of_suffix he.past) hdone
  obtain rfl := Option.some.inj (hcfg.symm.trans hcfg')
  rfl

/-- **For each state a code is exchanged once.** -/
theorem code_exchanged_once (hx : env.Exact) {h' : WebTrace} {j' : ℕ} {slug slug' : String}
    {params params' : CallbackParams} {provider' : OAuthProvider} {cfg cfg' : OAuthProviderConfig}
    {code code' verifier' : String} {r r' : Except String String} {v v' : WebState}
    (hj : .start j (.callback slug params) ∈ c.history)
    (hj' : .start j' (.callback slug' params') ∈ c.history) (hstates : params.state = params'.state)
    (he : Occurs c.history h (.stmt j (.exchangeToken provider cfg code verifier) r s s'))
    (he' : Occurs c.history h' (.stmt j' (.exchangeToken provider' cfg' code' verifier') r' v v')) :
    j = j' ∧ h = h' := by
  obtain ⟨_, _, state, g, u, hq, -, -, hstate, -, htaken, hlen⟩ := exchanges_of_stmt hc he
  obtain ⟨_, _, state', g', u', hq', -, -, hstate', -, htaken', hlen'⟩ := exchanges_of_stmt hc he'
  cases hc.numbered.start_unique hj (he.past.subset hq)
  cases hc.numbered.start_unique hj' (he'.past.subset hq')
  obtain rfl := Option.some.inj (hstate.symm.trans (hstates.trans hstate'))
  obtain ⟨rfl, -⟩ := state_taken_once hc hx (htaken.of_suffix he.past) (htaken'.of_suffix he'.past)
  -- A second exchange would find the first one in its log.
  have hlonger : ∀ {a b : WebTrace} {o : WebOp} {r : WebRet o} {v v' : WebState},
      Occurs a b (.stmt j o r v v') → (localLog j a).length = 1 → (localLog j b).length = 1 → False := by
    intro a b o r v v' hocc ha hb
    have hle := (localLog_suffix (i := j) hocc).length_le
    rw [localLog_stmt_self, List.length_cons] at hle
    omega
  rcases he.total he' with ⟨-, rfl⟩ | hlt | hlt
  · exact ⟨rfl, rfl⟩
  · exact (hlonger hlt hlen hlen').elim
  · exact (hlonger hlt hlen' hlen).elim

/-- **An access token is shown** by the callback that has got it for a code, to the provider that has issued
it. -/
theorem token_of_fetch {o : WebOp} {r : WebRet o} {token : String}
    (he : Occurs c.history h (.stmt j o r s s')) (ho : o.fetches = some (provider, token)) :
    ∃ g cfg code verifier u u',
      Occurs h g (.stmt j (.exchangeToken provider cfg code verifier) (.ok token) u u') := by
  have hcalls : o.callsProvider = true := by
    cases o <;> cases ho <;> rfl
  obtain ⟨slug, params, -, hasks⟩ := callback_of_stmt hc hcalls he
  obtain ⟨cfg, code, verifier, l, -, hlog⟩ := hasks.fetch ho
  obtain ⟨g, u, u', hocc, -⟩ := exists_occurs_of_suffix hlog
  exact ⟨g, cfg, code, verifier, u, u', hocc⟩

end Runs

/-- In a history, codes, verifiers and access tokens of a flow stay together. -/
structure ProofOfKey (env : WebEnv) (H : WebTrace) : Prop where
  /-- A code is exchanged by the callback that has brought it, with the verifier of the authorization, not
  older than ten minutes, that has generated its state and has sent its browser to the provider with the
  verifier's challenge. -/
  exchange : ∀ {h j provider cfg code verifier r s s'},
    Occurs H h (.stmt j (.exchangeToken provider cfg code verifier) r s s') →
    ∃ slug params state i p t g u, .start j (.callback slug params) ∈ h ∧ params.error = none ∧
      params.code = some code ∧ params.state = some state ∧ env.oauth.provider provider = some cfg ∧
      TakenFor env h g j provider state verifier u ∧ Authorized env h p i provider state verifier t ∧
      u.app.clock ≤ t.app.clock + StateStore.stateTtlSecs * 1000000 ∧
      ∀ x, .done i (.ok x) ∈ H →
        x = .redirect (env.consentUrl provider cfg state (env.pkceChallenge verifier))
  /-- For each state a code is exchanged once. -/
  once : ∀ {h h' j j' slug slug' params params' provider provider' cfg cfg' code code' verifier verifier'
      r r' s s' t t'}, .start j (.callback slug params) ∈ H → .start j' (.callback slug' params') ∈ H →
    params.state = params'.state →
    Occurs H h (.stmt j (.exchangeToken provider cfg code verifier) r s s') →
    Occurs H h' (.stmt j' (.exchangeToken provider' cfg' code' verifier') r' t t') → j = j' ∧ h = h'
  /-- An access token is shown to the provider only that has issued it, and by the callback only that has
  got it for its code. -/
  fetch : ∀ {h j o r s s' provider token}, Occurs H h (.stmt j o r s s') →
    o.fetches = some (provider, token) → ∃ g cfg code verifier u u',
      Occurs h g (.stmt j (.exchangeToken provider cfg code verifier) (.ok token) u u')

/-- **Codes, verifiers and access tokens stay together**, in every run with any clients and providers. -/
theorem proof_of_key (hx : env.Exact) {clock : ℕ}
    {c : Pool WebOp WebRet WebRequest (Except WebError WebResponse) WebState}
    (hc : (web env).Reachable (.fresh clock) c) : ProofOfKey env c.history where
  exchange := fun he => exchange_authorized hc hx he
  once := fun hj hj' hstates he he' => code_exchanged_once hc hx hj hj' hstates he he'
  fetch := fun he ho => token_of_fetch hc he ho

/-- The code and the verifier that are exchanged. -/
def exchangeOf : WebOp → Option (String × String)
  | .exchangeToken _ _ code verifier => some (code, verifier)
  | _ => none

/-- Carol's code is exchanged with the verifier whose challenge Google has seen. -/
theorem proof_of_key_of_carol : ∃ c, (web demoWeb).Reachable (.fresh 0) c ∧
    System.outcome 0 c.history = some (.ok (.redirect
      "google?client_id=google-id&state=x&code_challenge=challenge-verifier-")) ∧
    (findPast (performs 1 fun o _ => decide (exchangeOf o = some ("carol@example.com", "verifier-")))
      c.history).isSome = true ∧ ProofOfKey demoWeb c.history := by
  obtain ⟨c, hc, hobs⟩ := exists_web_run demoWeb trustingAnswers 0 (flow "carol@example.com")
    (fun c => (System.outcome 0 c.history,
      (findPast (performs 1 fun o _ => decide (exchangeOf o = some ("carol@example.com", "verifier-")))
        c.history).isSome))
    (some (.ok (.redirect "google?client_id=google-id&state=x&code_challenge=challenge-verifier-")), true)
    (by decide +kernel)
  obtain ⟨hauthorize, hexchange⟩ := Prod.mk.inj hobs
  exact ⟨c, hc, hauthorize, hexchange, proof_of_key demoWeb_exact hc⟩

end Socle
