import Socle.Flow.OneTime
import Socle.Web.Keys
import Socle.Web.Runs

/-!
# Single use

States and exchange codes of the OAuth flow are used once, whatever clients send and however the steps of
their requests interleave.

* `Authorized`, `TakenFor`: an authorization that has generated a state, and a callback that takes it;
* `Exchanged`: a callback that stores a response under a code;
* `take_authorized`, `state_taken_once`: each take belongs to one authorization, and to each authorization
  belongs one take;
* `session_exchanged`, `code_taken_once`: the same for exchange codes;
* `single_use_flow`: the flow as a whole.
-/

namespace Socle

open Interaction Prog Valkey

/-- Request `i` is an authorization with the provider, which has generated the state and the verifier, and
stores them after `p`, in the state `t`. -/
structure Authorized (env : WebEnv) (H p : WebTrace) (i : ℕ) (provider : OAuthProvider)
    (state verifier : String) (t : WebState) : Prop where
  request : ∃ slug, .start i (.authorize slug) ∈ p ∧ OAuthProvider.fromSlug slug = some provider
  generated : ∃ n m : ℕ, localLog i p = [⟨.app .random, n⟩, ⟨.app .random, m⟩] ∧
    env.csrfToken n = state ∧ env.pkceVerifier m = verifier
  stored : IsStored H p i (StateStore.stateKey state)
    (env.pendingToJson (StateStore.pending provider verifier)) StateStore.stateTtlSecs t

/-- Request `j` is a callback, for which `take` returns the verifier after `h`, in the state `s`. -/
structure TakenFor (env : WebEnv) (H h : WebTrace) (j : ℕ) (provider : OAuthProvider)
    (state verifier : String) (s : WebState) : Prop where
  request : ∃ slug params, .start j (.callback slug params) ∈ h ∧ params.state = some state ∧
    OAuthProvider.fromSlug slug = some provider
  taken : ∃ raw, IsTaken H h j (StateStore.stateKey state) (some raw) s ∧
    StateStore.verifierOf env raw provider = .ok verifier

/-- Request `i` is a callback that has generated the code, and stores the response under it after `p`, in
the state `t`. -/
structure Exchanged (env : WebEnv) (H p : WebTrace) (i : ℕ) (code : String) (auth : AuthResponse)
    (t : WebState) : Prop where
  request : ∃ slug params, .start i (.callback slug params) ∈ p
  generated : ∃ (n : ℕ) (l : Log WebOp WebRet), localLog i p = ⟨.app .random, n⟩ :: l ∧
    env.app.prim.opaqueToken n = code
  stored : IsStored H p i (StateStore.exchangeKey code) (env.authToJson auth)
    StateStore.exchangeTtlSecs t

variable {env : WebEnv}

/-- An entry of the store is read back, for its provider only. -/
theorem verifierOf_pending (hx : env.Exact) (provider expected : OAuthProvider) (verifier : String) :
    StateStore.verifierOf env (env.pendingToJson (StateStore.pending provider verifier)) expected =
      if provider ≠ expected then .error (.providerMismatch expected provider) else .ok verifier := by
  have hslug : OAuthProvider.fromSlug provider.slug = some provider := by cases provider <;> rfl
  unfold StateStore.verifierOf
  rw [hx.pending_json]
  simp only [StateStore.pending, hslug]

/-! ### Commands -/

section Sends

variable {q : WebRequest} {log : Log WebOp WebRet} {command : Command}

/-- The commands on the key of a state. -/
theorem Sends.of_stateKey (hs : Sends env q log command) {state : String}
    (hkey : command.key = StateStore.stateKey state) :
    (command = .getDel (StateStore.stateKey state)) ∨
      ∃ slug provider, ∃ n m : ℕ, q = .authorize slug ∧ OAuthProvider.fromSlug slug = some provider ∧
        log = [⟨.app .random, n⟩, ⟨.app .random, m⟩] ∧ env.csrfToken n = state ∧
        command = .setEx (StateStore.stateKey state)
          (env.pendingToJson (StateStore.pending provider (env.pkceVerifier m))) StateStore.stateTtlSecs := by
  cases hs with
  | @insert slug provider k n m hslug hk =>
    obtain rfl : k = StateStore.stateKey state := hkey
    exact Or.inr ⟨slug, provider, n, m, rfl, hslug, rfl, (StateStore.stateKey_injective hk).symm, rfl⟩
  | take hstate hslug hk =>
    obtain rfl := hkey
    exact Or.inl rfl
  | storeExchange hk => exact absurd (hkey.symm.trans hk) (StateStore.stateKey_ne_exchangeKey _ _)
  | takeExchange hk => exact absurd (hkey.symm.trans hk) (StateStore.stateKey_ne_exchangeKey _ _)
  | incr hk => exact absurd (hk.symm.trans hkey) (RateLimiter.key_ne_stateKey _ _ _ _)
  | expire hk => exact absurd (hk.symm.trans hkey) (RateLimiter.key_ne_stateKey _ _ _ _)

/-- The commands on the key of an exchange code. -/
theorem Sends.of_exchangeKey (hs : Sends env q log command) {code : String}
    (hkey : command.key = StateStore.exchangeKey code) :
    (command = .getDel (StateStore.exchangeKey code)) ∨
      ∃ slug params, ∃ n : ℕ, ∃ l auth, q = .callback slug params ∧ log = ⟨.app .random, n⟩ :: l ∧
        env.app.prim.opaqueToken n = code ∧
        command = .setEx (StateStore.exchangeKey code) (env.authToJson auth) StateStore.exchangeTtlSecs := by
  cases hs with
  | insert hslug hk => exact absurd (hk.symm.trans hkey) (StateStore.stateKey_ne_exchangeKey _ _)
  | take hstate hslug hk => exact absurd (hk.symm.trans hkey) (StateStore.stateKey_ne_exchangeKey _ _)
  | @storeExchange slug k params n log auth hk =>
    obtain rfl : k = StateStore.exchangeKey code := hkey
    exact Or.inr ⟨slug, params, n, log, auth, rfl, rfl, (StateStore.exchangeKey_injective hk).symm, rfl⟩
  | takeExchange hk =>
    obtain rfl := hkey
    exact Or.inl rfl
  | incr hk => exact absurd (hk.symm.trans hkey) (RateLimiter.key_ne_exchangeKey _ _ _ _)
  | expire hk => exact absurd (hk.symm.trans hkey) (RateLimiter.key_ne_exchangeKey _ _ _ _)

end Sends

/-! ### Runs -/

theorem TakenFor.of_suffix {H h g : WebTrace} {j : ℕ} {provider : OAuthProvider} {state verifier : String}
    {s : WebState} (ht : TakenFor env h g j provider state verifier s) (hh : h <:+ H) :
    TakenFor env H g j provider state verifier s := by
  obtain ⟨raw, htaken, hraw⟩ := ht.taken
  exact ⟨ht.request, raw, htaken.of_suffix hh, hraw⟩

theorem Authorized.of_suffix {H h p : WebTrace} {i : ℕ} {provider : OAuthProvider} {state verifier : String}
    {t : WebState} (ha : Authorized env h p i provider state verifier t) (hh : h <:+ H) :
    Authorized env H p i provider state verifier t :=
  ⟨ha.request, ha.generated, ha.stored.of_suffix hh⟩

theorem Exchanged.of_suffix {H h p : WebTrace} {k : ℕ} {code : String} {b : AuthResponse} {t : WebState}
    (ha : Exchanged env h p k code b t) (hh : h <:+ H) : Exchanged env H p k code b t :=
  ⟨ha.request, ha.generated, ha.stored.of_suffix hh⟩

section Runs

variable {clock : ℕ} {c : Pool WebOp WebRet WebRequest (Except WebError WebResponse) WebState}
  {h h' p p' : WebTrace} {i j : ℕ} {s s' t t' : WebState} (hc : (web env).Reachable (.fresh clock) c)

include hc

/-- A command has been sent by a request's program. -/
theorem sends_of_stmt {q : Command} {r : Except ValkeyError q.Reply}
    (he : Occurs c.history h (.stmt i (.valkey q) r s s')) :
    ∃ request, .start i request ∈ h ∧ Sends env request (localLog i h) q :=
  hc.at_stmt webHandle_asks he

theorem oneTime_stateKey (state : String) :
    OneTime c.history (StateStore.stateKey state) StateStore.stateTtlSecs := by
  intro i q r s s' hm hkey
  obtain ⟨h, he⟩ := exists_occurs hm
  obtain ⟨request, -, hsends⟩ := sends_of_stmt hc he
  rcases hsends.of_stateKey hkey with hget | ⟨_, _, _, _, _, _, _, _, hset⟩
  · exact Or.inl hget
  · exact Or.inr ⟨_, hset⟩

theorem oneTime_exchangeKey (code : String) :
    OneTime c.history (StateStore.exchangeKey code) StateStore.exchangeTtlSecs := by
  intro i q r s s' hm hkey
  obtain ⟨h, he⟩ := exists_occurs hm
  obtain ⟨request, -, hsends⟩ := sends_of_stmt hc he
  rcases hsends.of_exchangeKey hkey with hget | ⟨_, _, _, _, _, _, _, _, hset⟩
  · exact Or.inl hget
  · exact Or.inr ⟨_, hset⟩

/-- What is stored at the key of a state has been stored by the authorization that has generated it. -/
theorem authorized_of_stored {state value : String} {seconds : ℤ}
    (hs : IsStored c.history p i (StateStore.stateKey state) value seconds t) :
    ∃ provider verifier, Authorized env c.history p i provider state verifier t ∧
      value = env.pendingToJson (StateStore.pending provider verifier) := by
  obtain ⟨r, t', he⟩ := hs
  obtain ⟨request, hq, hsends⟩ := sends_of_stmt hc he
  rcases hsends.of_stateKey rfl with hget | ⟨slug, provider, n, m, rfl, hslug, hlog, rfl, hset⟩
  · cases hget
  · injection hset with _ hvalue hseconds
    subst hvalue hseconds
    exact ⟨provider, env.pkceVerifier m, ⟨⟨slug, hq, hslug⟩, ⟨n, m, hlog, rfl, rfl⟩, r, t', he⟩, rfl⟩

/-- What is stored under a code has been stored by the callback that has generated it. -/
theorem exchanged_of_stored {code value : String} {seconds : ℤ}
    (hs : IsStored c.history p i (StateStore.exchangeKey code) value seconds t) :
    ∃ auth, Exchanged env c.history p i code auth t ∧ value = env.authToJson auth := by
  obtain ⟨r, t', he⟩ := hs
  obtain ⟨request, hq, hsends⟩ := sends_of_stmt hc he
  rcases hsends.of_exchangeKey rfl with hget | ⟨slug, params, n, l, auth, rfl, hlog, rfl, hset⟩
  · cases hget
  · injection hset with _ hvalue hseconds
    subst hvalue hseconds
    exact ⟨auth, ⟨⟨slug, params, hq⟩, ⟨n, l, hlog, rfl⟩, r, t', he⟩, rfl⟩

/-- **A state is generated once.** -/
theorem authorized_once (hx : env.Exact) {provider provider' : OAuthProvider}
    {state verifier verifier' : String} (ha : Authorized env c.history p i provider state verifier t)
    (ha' : Authorized env c.history p' j provider' state verifier' t') : i = j ∧ p = p' := by
  obtain ⟨n, m, hlog, hstate, -⟩ := ha.generated
  obtain ⟨n', m', hlog', hstate', -⟩ := ha'.generated
  obtain ⟨r, u, he⟩ := ha.stored
  obtain ⟨r', u', he'⟩ := ha'.stored
  obtain rfl := hx.csrf_injective (hstate.trans hstate'.symm)
  obtain ⟨heq, hp⟩ := after_draw hc he hlog he' hlog'
  exact ⟨(Event.stmt.inj heq).1, hp⟩

/-- **An exchange code is generated once.** -/
theorem exchanged_once (hx : env.Exact) {code : String} {auth auth' : AuthResponse}
    (ha : Exchanged env c.history p i code auth t) (ha' : Exchanged env c.history p' j code auth' t') :
    i = j ∧ p = p' := by
  obtain ⟨n, l, hlog, hcode⟩ := ha.generated
  obtain ⟨n', l', hlog', hcode'⟩ := ha'.generated
  obtain ⟨r, u, he⟩ := ha.stored
  obtain ⟨r', u', he'⟩ := ha'.stored
  obtain rfl := hx.token_injective (hcode.trans hcode'.symm)
  obtain ⟨heq, hp⟩ := after_draw hc he hlog he' hlog'
  exact ⟨(Event.stmt.inj heq).1, hp⟩

theorem storedOnce_stateKey (hx : env.Exact) (state : String) :
    StoredOnce c.history (StateStore.stateKey state) := by
  intro i i' h h' value value' seconds seconds' s s' hs hs'
  obtain ⟨_, _, ha, -⟩ := authorized_of_stored hc hs
  obtain ⟨_, _, ha', -⟩ := authorized_of_stored hc hs'
  exact (authorized_once hc hx ha ha').2

theorem storedOnce_exchangeKey (hx : env.Exact) (code : String) :
    StoredOnce c.history (StateStore.exchangeKey code) := by
  intro i i' h h' value value' seconds seconds' s s' hs hs'
  obtain ⟨_, ha, -⟩ := exchanged_of_stored hc hs
  obtain ⟨_, ha', -⟩ := exchanged_of_stored hc hs'
  exact (exchanged_once hc hx ha ha').2

/-- **What a callback takes belongs to an authorization** with its provider, which has generated the
state at most ten minutes before and whose verifier it gets. -/
theorem take_authorized (hx : env.Exact) {provider : OAuthProvider} {state verifier : String}
    (htake : TakenFor env c.history h j provider state verifier s) :
    ∃ i p t, Authorized env h p i provider state verifier t ∧
      s.app.clock ≤ t.app.clock + StateStore.stateTtlSecs * 1000000 := by
  obtain ⟨raw, htaken, hraw⟩ := htake.taken
  obtain ⟨p, i, t, hstored, hclock, -⟩ :=
    take_entry (fun h => h) (fun h => h) hc (oneTime_stateKey hc state) htaken
  obtain ⟨s', he⟩ := htaken
  obtain ⟨r, t', hp⟩ := id hstored
  obtain ⟨provider', verifier', ha, rfl⟩ := authorized_of_stored hc ⟨r, t', hp.of_suffix he.past⟩
  -- The entry is read back, and it is for the provider that is expected.
  rw [verifierOf_pending hx] at hraw
  by_cases hprovider : provider' = provider
  · subst hprovider
    rw [if_neg (fun hne => hne rfl)] at hraw
    obtain rfl := Except.ok.inj hraw
    exact ⟨i, p, t, ⟨ha.request, ha.generated, hstored⟩, hclock⟩
  · rw [if_pos hprovider] at hraw
    cases hraw

/-- **What an authorization has stored is taken once.** -/
theorem state_taken_once (hx : env.Exact) {provider provider' : OAuthProvider}
    {state verifier verifier' : String}
    (htake : TakenFor env c.history h i provider state verifier s)
    (htake' : TakenFor env c.history h' j provider' state verifier' s') : i = j ∧ h = h' := by
  obtain ⟨raw, htaken, -⟩ := htake.taken
  obtain ⟨raw', htaken', -⟩ := htake'.taken
  exact taken_once (fun h => h) (fun h => h) hc (oneTime_stateKey hc state)
    (storedOnce_stateKey hc hx state) htaken htaken'

omit hc in
/-- An authorization generates one state. -/
theorem authorized_state {provider provider' : OAuthProvider} {state state' verifier verifier' : String}
    (ha : Authorized env c.history p i provider state verifier t)
    (ha' : Authorized env c.history p' i provider' state' verifier' t') : state = state' := by
  obtain ⟨n, m, hlog, rfl, -⟩ := ha.generated
  obtain ⟨n', m', hlog', rfl, -⟩ := ha'.generated
  obtain ⟨r, u, he⟩ := ha.stored
  obtain ⟨r', u', he'⟩ := ha'.stored
  have hsuffix := List.suffix_of_suffix_length_le (localLog_suffix (i := i) he.past)
    (localLog_suffix he'.past) (by rw [hlog, hlog']; exact Nat.le_refl _)
  have heq := hsuffix.eq_of_length (by rw [hlog, hlog']; rfl)
  rw [hlog, hlog'] at heq
  cases heq
  rfl

/-- A callback that has taken a state, as an event of the run. -/
theorem taken_of_took {slug : String} {params : CallbackParams} (hh : h <:+ c.history)
    (hq : .start j (.callback slug params) ∈ c.history) (htook : Took env slug params (localLog j h)) :
    ∃ h' provider state verifier s, TakenFor env h h' j provider state verifier s ∧
      params.state = some state ∧ OAuthProvider.fromSlug slug = some provider := by
  obtain ⟨state, provider, raw, verifier, hstate, hslug, hraw, hm⟩ := htook
  obtain ⟨s, s', hm⟩ := exists_stmt_of_mem_localLog hm
  obtain ⟨h', he⟩ := exists_occurs hm
  obtain ⟨request, hrequest, -⟩ := sends_of_stmt hc (he.of_suffix hh)
  have hpast : h' <:+ c.history := he.past.trans hh
  obtain rfl := hc.numbered.start_unique hq (hpast.subset hrequest)
  exact ⟨h', provider, state, verifier, s, ⟨⟨slug, params, hrequest, hstate, hslug⟩, raw, ⟨s', he⟩, hraw⟩,
    hstate, hslug⟩

/-- **What is taken for a code has been stored under it**, at most two minutes before. -/
theorem take_exchanged {code raw : String}
    (htaken : IsTaken c.history h j (StateStore.exchangeKey code) (some raw) s) :
    ∃ i p auth t, raw = env.authToJson auth ∧ Exchanged env h p i code auth t ∧
      s.app.clock ≤ t.app.clock + StateStore.exchangeTtlSecs * 1000000 := by
  obtain ⟨p, i, t, hstored, hclock, -⟩ :=
    take_entry (fun h => h) (fun h => h) hc (oneTime_exchangeKey hc code) htaken
  obtain ⟨s', he⟩ := htaken
  obtain ⟨auth, ha, rfl⟩ := exchanged_of_stored hc (hstored.of_suffix he.past)
  exact ⟨i, p, auth, t, rfl, ⟨ha.request, ha.generated, hstored⟩, hclock⟩

/-- **What a session returns has been stored under its code**, at most two minutes before. -/
theorem session_exchanged (hx : env.Exact) {headers : ForwardedHeaders} {code : String} {x : WebResponse}
    (hq : .start j (.session headers code) ∈ c.history)
    (hdone : Occurs c.history p' (.done j (.ok x))) :
    ∃ h s i p auth t, x = .api (.auth auth) ∧
      IsTaken p' h j (StateStore.exchangeKey code) (some (env.authToJson auth)) s ∧
      Exchanged env h p i code auth t ∧
      s.app.clock ≤ t.app.clock + StateStore.exchangeTtlSecs * 1000000 := by
  obtain ⟨raw, auth, hm, hauth, rfl⟩ := (web_at_ok hc webHandle_asks hq hdone).session headers code rfl
  obtain ⟨s, s', hm⟩ := exists_stmt_of_mem_localLog hm
  obtain ⟨h, he⟩ := exists_occurs hm
  have htaken : IsTaken p' h j (StateStore.exchangeKey code) (some raw) s := ⟨s', he⟩
  obtain ⟨i, p, auth', t, rfl, hexchanged, hclock⟩ := take_exchanged hc (htaken.of_suffix hdone.past)
  rw [hx.auth_json] at hauth
  obtain rfl := Option.some.inj hauth
  exact ⟨h, s, i, p, auth', t, rfl, htaken, hexchanged, hclock⟩

/-- **An exchange code is redeemed once.** -/
theorem code_taken_once (hx : env.Exact) {headers headers' : ForwardedHeaders} {code : String}
    {x x' : WebResponse} (hq : .start i (.session headers code) ∈ c.history)
    (hdone : .done i (.ok x) ∈ c.history) (hq' : .start j (.session headers' code) ∈ c.history)
    (hdone' : .done j (.ok x') ∈ c.history) : i = j := by
  obtain ⟨past, hdone⟩ := exists_occurs hdone
  obtain ⟨past', hdone'⟩ := exists_occurs hdone'
  obtain ⟨_, _, _, _, _, _, -, htaken, -⟩ := session_exchanged hc hx hq hdone
  obtain ⟨_, _, _, _, _, _, -, htaken', -⟩ := session_exchanged hc hx hq' hdone'
  exact (taken_once (fun h => h) (fun h => h) hc (oneTime_exchangeKey hc code)
    (storedOnce_exchangeKey hc hx code) (htaken.of_suffix hdone.past) (htaken'.of_suffix hdone'.past)).1

end Runs

/-! ### The flow -/

/-- States and codes are used once. -/
structure SingleUseFlow (env : WebEnv) (H : WebTrace) : Prop where
  /-- Each take belongs to exactly one authorization, which was for the same provider, has generated the
  state and its verifier, and has stored them at most ten minutes before. -/
  take : ∀ {h j provider state verifier s}, TakenFor env H h j provider state verifier s →
    ∃ i p t, Authorized env h p i provider state verifier t ∧
      s.app.clock ≤ t.app.clock + StateStore.stateTtlSecs * 1000000 ∧
      ∀ {i' p' provider' verifier' t'}, Authorized env H p' i' provider' state verifier' t' → i' = i
  /-- To no authorization belong two takes. -/
  takenOnce : ∀ {h h' j j' provider provider' state state' verifier verifier' s s'},
    TakenFor env H h j provider state verifier s → TakenFor env H h' j' provider' state' verifier' s' →
    ∀ {i p p' t t'}, Authorized env H p i provider state verifier t →
      Authorized env H p' i provider' state' verifier' t' → j = j' ∧ h = h'
  /-- A callback executes statements of the services only after a take. -/
  afterTake : ∀ {h j slug params o r s s'}, .start j (.callback slug params) ∈ H →
    Occurs H h (.stmt j (.app o) r s s') →
    ∃ h' provider state verifier t, TakenFor env h h' j provider state verifier t
  /-- A session returns the response that a callback has stored under its code, at most two minutes
  before. -/
  session : ∀ {j headers code x}, .start j (.session headers code) ∈ H → .done j (.ok x) ∈ H →
    ∃ h s i p auth t, x = .api (.auth auth) ∧
      IsTaken H h j (StateStore.exchangeKey code) (some (env.authToJson auth)) s ∧
      Exchanged env h p i code auth t ∧
      s.app.clock ≤ t.app.clock + StateStore.exchangeTtlSecs * 1000000 ∧
      ∀ {i' p' auth' t'}, Exchanged env H p' i' code auth' t' → i' = i
  /-- No code is redeemed twice. -/
  redeemedOnce : ∀ {j j' headers headers' code x x'}, .start j (.session headers code) ∈ H →
    .done j (.ok x) ∈ H → .start j' (.session headers' code) ∈ H → .done j' (.ok x') ∈ H → j = j'
  /-- A command is about the state or the code that its request names or has generated, or about a
  counter. -/
  commands : ∀ {h j q r s s'}, Occurs H h (.stmt j (.valkey q) r s s') →
    ∃ request, .start j request ∈ h ∧ Sends env request (localLog j h) q

/-- **The OAuth flow is single use**, in every run with any clients; and states, exchange codes and
counters have keys of their own. -/
theorem single_use_flow (hx : env.Exact) {clock : ℕ}
    {c : Pool WebOp WebRet WebRequest (Except WebError WebResponse) WebState}
    (hc : (web env).Reachable (.fresh clock) c) : SingleUseFlow env c.history ∧
    Function.Injective StateStore.stateKey ∧ Function.Injective StateStore.exchangeKey ∧
    ∀ state code endpoint ip window, StateStore.stateKey state ≠ StateStore.exchangeKey code ∧
      RateLimiter.key endpoint ip window ≠ StateStore.stateKey state ∧
      RateLimiter.key endpoint ip window ≠ StateStore.exchangeKey code := by
  refine ⟨⟨fun htake => ?_, fun htake htake' _ _ _ _ _ ha ha' => ?_, fun hq he => ?_, fun hq hdone => ?_,
    fun hq hdone hq' hdone' => code_taken_once hc hx hq hdone hq' hdone', fun he => sends_of_stmt hc he⟩,
    StateStore.stateKey_injective, StateStore.exchangeKey_injective, fun state code endpoint ip window =>
      ⟨StateStore.stateKey_ne_exchangeKey _ _, RateLimiter.key_ne_stateKey _ _ _ _,
        RateLimiter.key_ne_exchangeKey _ _ _ _⟩⟩
  · obtain ⟨i, p, t, ha, hclock⟩ := take_authorized hc hx htake
    refine ⟨i, p, t, ha, hclock, fun ha' => ?_⟩
    obtain ⟨raw, ⟨s', he⟩, -⟩ := htake.taken
    exact (authorized_once hc hx ha' (ha.of_suffix he.past)).1
  · obtain rfl := authorized_state ha ha'
    exact state_taken_once hc hx htake htake'
  · obtain ⟨h', provider, state, verifier, t, htake, -⟩ :=
      taken_of_took hc he.past hq (web_at_stmt hc webHandle_asks hq he _ _ rfl)
    exact ⟨h', provider, state, verifier, t, htake⟩
  · obtain ⟨past, hdone⟩ := exists_occurs hdone
    obtain ⟨h, s, i, p, auth, t, rfl, htaken, ha, hclock⟩ := session_exchanged hc hx hq hdone
    have htaken := htaken.of_suffix hdone.past
    refine ⟨h, s, i, p, auth, t, rfl, htaken, ha, hclock, fun ha' => ?_⟩
    obtain ⟨s', he⟩ := htaken
    exact (exchanged_once hc hx ha' (ha.of_suffix he.past)).1

/-- A flow from the authorization to the session, and its states and codes. -/
theorem single_use_flow_of_carol : ∃ c, (web demoWeb).Reachable (.fresh 0) c ∧
    System.outcome 1 c.history = some (.ok (.redirect "/auth/success?code=xxxxxxx")) ∧
    (∃ a, System.outcome 2 c.history = some (.ok (.api (.auth a))) ∧ a.user.email = "carol@example.com") ∧
    SingleUseFlow demoWeb c.history := by
  obtain ⟨c, hc, hobs⟩ := exists_web_run demoWeb trustingAnswers 0 (flow "carol@example.com")
    (fun c => (System.outcome 1 c.history, (System.outcome 2 c.history).bind sessionFor))
    (some (.ok (.redirect "/auth/success?code=xxxxxxx")), some "carol@example.com")
    (by decide +kernel)
  obtain ⟨hcallback, hsession⟩ := Prod.mk.inj hobs
  obtain ⟨x, hx, hfor⟩ := Option.bind_eq_some_iff.1 hsession
  obtain ⟨a, rfl, hemail⟩ := sessionFor_eq_some hfor
  exact ⟨c, hc, hcallback, ⟨a, hx, hemail⟩, (single_use_flow demoWeb_exact hc).1⟩

end Socle
