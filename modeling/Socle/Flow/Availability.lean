import Socle.Flow.SingleUse
import Socle.Web.Causes

/-!
# Availability of the flow

What has been stored for a client is there when the client comes back in time, whatever others do.

* `Unasked`: nobody has asked for a key since some moment;
* `Kept`, `entry_kept`, `take_first`: the first who asks for an entry gets it;
* `Redirects`: what a flow's request has done when it sends a browser on;
* `Available`, `flow_available`: a callback that comes in time finds its authorization, and a session its
  response.
-/

namespace Socle

open Interaction Prog Valkey

variable {Req α : Type}

/-- Since `p`, nobody has asked for the key. -/
def Unasked (H p : History WebOp WebRet Req α WebState) (k : String) : Prop :=
  ∀ g j r u u', Occurs H g (.stmt j (.valkey (.getDel k)) r u u') → g <:+ p

theorem Unasked.of_suffix {H H' p : History WebOp WebRet Req α WebState} {k : String} (h : Unasked H' p k)
    (hH : H <:+ H') : Unasked H p k :=
  fun g j r u u' hocc => h g j r u u' (hocc.of_suffix hH)

/-- What has been stored after `p` is still there, unless somebody has asked for it. -/
def Kept (p : History WebOp WebRet Req α WebState) (i : ℕ) (k value : String) (seconds : ℤ)
    (t t' : WebState) (H : History WebOp WebRet Req α WebState) (s : WebState) : Prop :=
  Occurs H p (.stmt i (.valkey (.setEx k value seconds)) (.ok ()) t t') → Unasked H p k →
    s.keys k = some ⟨.text value, some (t.app.clock + seconds.toNat * 1000000)⟩

section Kept

variable {env : WebEnv} {sys : System WebOp WebRet Req α WebState} {clock : ℕ}
  {c : Pool WebOp WebRet Req α WebState} {k value : String} {seconds : ℤ} {i : ℕ}
  {p : History WebOp WebRet Req α WebState} {t t' : WebState}
  (hsem : ∀ {H i o s r s'}, sys.sem H i o s r s' → WebStmt env o s r s')
  (htick : ∀ {s s'}, sys.tick s s' → WebTick s s') (hc : sys.Reachable (.fresh clock) c)
  (hone : OneTime c.history k seconds) (honce : StoredOnce c.history k)

include hsem htick hc hone honce

/-- **An entry is kept** until somebody asks for it. -/
theorem entry_kept : Kept p i k value seconds t t' c.history c.state ∧ ∀ {h j o r s s'},
    Occurs c.history h (.stmt j o r s s') → Kept p i k value seconds t t' h s := by
  refine hc.past_invariant ?_ ?_ ?_ ?_ ?_
  · exact fun hocc => absurd hocc not_occurs_nil
  · intro H s s' ht hinv
    obtain ⟨t, -, rfl⟩ := htick ht
    exact hinv
  · intro H j q s hinv hocc hunasked
    rcases occurs_cons.1 hocc with ⟨heq, -⟩ | hold
    · cases heq
    · exact hinv hold (hunasked.of_suffix (List.suffix_cons _ _))
  · intro H j a s hinv hocc hunasked
    rcases occurs_cons.1 hocc with ⟨heq, -⟩ | hold
    · cases heq
    · exact hinv hold (hunasked.of_suffix (List.suffix_cons _ _))
  · intro h j o r s s' he hinv hocc hunasked
    have hstmt := hsem (hc.sem_of_stmt he)
    rcases occurs_cons.1 hocc with ⟨heq, rfl⟩ | hold
    · cases heq
      rw [setEx_ok hstmt.valkey_ok, Keyspace.set_self]
    · have hkept := hinv hold (hunasked.of_suffix (List.suffix_cons _ _))
      have hlt := hold.length_le
      rw [List.length_cons] at hlt
      -- Later commands on the key would ask for it, or store it again.
      have hother : ∀ q : Command, o = .valkey q → q.key ≠ k := by
        rintro q rfl hkey
        rcases hone j q r s s' he.mem hkey with rfl | ⟨value', rfl⟩
        · have hle := (hunasked h j r s s' occurs_self).length_le
          omega
        · have heq := honce i j p h value value' seconds seconds t s
            ⟨.ok (), t', hold.of_suffix he.past⟩ ⟨r, s', he⟩
          rw [heq] at hlt
          omega
      rcases hstmt.keys_cases with hkeys | ⟨q, x, rfl, hx⟩
      · rw [hkeys]
        exact hkept
      · rw [apply_frame hx fun heq => hother q rfl heq.symm]
        exact hkept

/-- **The first who asks in time gets the entry.** -/
theorem take_first {h : History WebOp WebRet Req α WebState} {j : ℕ} {x : Option String} {s : WebState}
    (hstored : Occurs h p (.stmt i (.valkey (.setEx k value seconds)) (.ok ()) t t'))
    (hunasked : Unasked h p k) (htake : IsTaken c.history h j k x s)
    (hclock : s.app.clock ≤ t.app.clock + seconds.toNat * 1000000) : x = some value := by
  obtain ⟨s', he⟩ := htake
  have hkept := (entry_kept hsem htick hc hone honce).2 he hstored hunasked
  have hlookup : s.keys.lookup s.app.clock k =
      some ⟨.text value, some (t.app.clock + seconds.toNat * 1000000)⟩ :=
    Keyspace.lookup_eq_some.2 ⟨hkept, decide_eq_true hclock⟩
  rw [(getDel_ok (hsem (hc.sem_of_stmt he)).valkey_ok).1, hlookup]
  rfl

end Kept

/-! ### Redirections -/

variable {env : WebEnv}

/-- What a flow's request has done when it sends a browser on. -/
inductive Redirects (env : WebEnv) : WebRequest → Log WebOp WebRet → WebResponse → Prop
  | authorize {slug : String} {provider : OAuthProvider} {cfg : OAuthProviderConfig} {n m : ℕ}
    (hslug : OAuthProvider.fromSlug slug = some provider) (hcfg : env.oauth.provider provider = some cfg) :
    Redirects env (.authorize slug)
      [⟨.valkey (.setEx (StateStore.stateKey (env.csrfToken n))
          (env.pendingToJson (StateStore.pending provider (env.pkceVerifier m))) StateStore.stateTtlSecs),
          .ok ()⟩, ⟨.app .random, n⟩, ⟨.app .random, m⟩]
      (.redirect (env.consentUrl provider cfg (env.csrfToken n) (env.pkceChallenge (env.pkceVerifier m))))
  | callback {slug : String} {params : CallbackParams} {auth : AuthResponse} {n : ℕ}
    {l : Log WebOp WebRet} :
    Redirects env (.callback slug params)
      (⟨.valkey (.setEx (StateStore.exchangeKey (env.app.prim.opaqueToken n)) (env.authToJson auth)
          StateStore.exchangeTtlSecs), .ok ()⟩ :: ⟨.app .random, n⟩ :: l)
      (.redirect ("/auth/success?code=" ++ env.app.prim.opaqueToken n))
  | api {headers : ForwardedHeaders} {q : Request} {direct : q.isOAuthLogin = false}
    {log : Log WebOp WebRet} {x : WebResponse} : Redirects env (.api headers q direct) log x
  | session {headers : ForwardedHeaders} {code : String} {log : Log WebOp WebRet} {x : WebResponse} :
    Redirects env (.session headers code) log x

/-- **What redirections rest on.** -/
theorem webHandle_redirects (q : WebRequest) :
    SatE (webHandle env q) (fun _ _ => True) (Redirects env q) (fun _ _ => True) [] := by
  cases q with
  | api headers q direct =>
    exact SatE.trivial (fun _ _ => trivial) (fun _ _ => .api) (fun _ _ => trivial) _
  | session headers code =>
    exact SatE.trivial (fun _ _ => trivial) (fun _ _ => .session) (fun _ _ => trivial) _
  | authorize slug =>
    simp only [webHandle, Routes.authorize, satE_bind, satE_liftResolveProvider, satE_providerConfig,
      satE_map, satE_buildAuthorizationUrl, satE_parseUrl, satE_insert]
    exact ⟨fun provider hslug => ⟨fun cfg hcfg => ⟨trivial, fun m => ⟨fun _ => ⟨fun _ => ⟨fun _ =>
      ⟨trivial, fun n => ⟨trivial, fun _ => .authorize hslug hcfg, fun _ => trivial⟩⟩, fun _ _ => trivial⟩,
      fun _ _ => trivial⟩, fun _ _ => trivial⟩⟩, fun _ => trivial⟩, fun _ => trivial⟩
  | callback slug params =>
    refine satE_callback (fun _ _ _ => trivial) (fun _ _ _ _ => trivial) ?_
    intro state provider raw verifier _ _ _
    exact ⟨fun _ _ => trivial, fun _ _ _ _ => trivial, fun l profile _ _ _ _ =>
      satE_lift_any (fun _ _ _ => trivial) (fun l' auth _ => ⟨trivial, fun n => ⟨trivial, .callback⟩⟩)
        fun _ _ _ => trivial⟩

/-! ### Errors and results -/

/-- A callback that has found its verifier does not fail for its state. -/
theorem WebCause.of_taken {E : Request → Log Op Ret → AppError → Prop} {slug state raw verifier : String}
    {params : CallbackParams} {provider : OAuthProvider} {log : Log WebOp WebRet} {e : WebError}
    (h : WebCause env E (.callback slug params) log e) (hstate : params.state = some state)
    (hslug : OAuthProvider.fromSlug slug = some provider)
    (hm : ⟨.valkey (.getDel (StateStore.stateKey state)), .ok (some raw)⟩ ∈ log)
    (hraw : StateStore.verifierOf env raw provider = .ok verifier) :
    e ≠ .oauth .invalidState ∧ ∀ a b, e ≠ .oauth (.providerMismatch a b) := by
  cases h with
  | missingParam => cases hm
  | absentState hstate' =>
    obtain rfl := Option.some.inj (hstate.symm.trans hstate')
    have heq := List.mem_singleton.1 hm
    cases heq
  | @rejectedState _ state' raw' _ provider' e hstate' hslug' he =>
    obtain rfl := Option.some.inj (hstate.symm.trans hstate')
    obtain rfl := Option.some.inj (hslug.symm.trans hslug')
    have heq := List.mem_singleton.1 hm
    cases heq
    rw [hraw] at he
    cases he
  | @stateStore _ command e => cases e <;> simp [ValkeyError.flowError]
  | fetch he => cases he <;> simp
  | _ => simp

theorem Checked.no_getDel {q : Check} {l : Log WebOp WebRet} {x : Except ℕ ℕ} (h : Checked env q l x)
    {k : String} {r : Except ValkeyError (Option String)} : ⟨.valkey (.getDel k), r⟩ ∉ l := by
  cases h <;> simp

/-- A session ends as its command says. -/
def Redeems (env : WebEnv) (q : WebRequest) (log : Log WebOp WebRet) (x : Except WebError WebResponse) :
    Prop :=
  ∀ headers code, q = .session headers code → ∀ r : Except ValkeyError (Option String),
    ⟨.valkey (.getDel (StateStore.exchangeKey code)), r⟩ ∈ log → x = redeemed env r

theorem webHandle_redeems (q : WebRequest) :
    Sat (fun _ _ => True) (Redeems env q) [] (webHandle env q).run := by
  have hother : (∀ headers code, q ≠ .session headers code) →
      Sat (fun _ _ => True) (Redeems env q) [] (webHandle env q).run := by
    intro hq
    refine Sat.mono (fun _ _ h => h) ?_ (SatE.trivial (fun _ _ => trivial) (fun _ _ => trivial)
      (fun _ _ => trivial) (webHandle env q) : SatE _ (fun _ _ => True) (fun _ _ => True) (fun _ _ => True) _)
    exact fun l x _ headers code heq => absurd heq (hq headers code)
  cases q with
  | session headers code =>
    refine Sat.mono (fun _ _ _ => trivial) ?_ (session_spec headers code)
    rintro l x hend headers' code' ⟨⟩ r hm
    rcases hend with ⟨retryAfter, hchecked, -⟩ | ⟨l', remaining, r', hchecked, rfl, rfl⟩
    · exact absurd hm hchecked.no_getDel
    · rcases List.mem_cons.1 hm with heq | hm
      · cases heq
        rfl
      · exact absurd hm hchecked.no_getDel
  | api | authorize | callback => exact hother (by simp)

/-! ### Runs -/

/-- In a history, clients that come back in time find what has been stored for them. -/
structure Available (env : WebEnv) (H : WebTrace) : Prop where
  /-- After an authorization, the first callback of its provider that presents the state within ten minutes
  is not refused for it. -/
  callback : ∀ {i g slug url}, .start i (.authorize slug) ∈ H → Occurs H g (.done i (.ok (.redirect url))) →
    ∃ provider cfg state verifier p t, env.oauth.provider provider = some cfg ∧
      url = env.consentUrl provider cfg state (env.pkceChallenge verifier) ∧
      Authorized env g p i provider state verifier t ∧
      ∀ {j h slug' params x s e}, .start j (.callback slug' params) ∈ H → params.state = some state →
        OAuthProvider.fromSlug slug' = some provider → g <:+ h →
        Unasked h p (StateStore.stateKey state) → IsTaken H h j (StateStore.stateKey state) x s →
        s.app.clock ≤ t.app.clock + StateStore.stateTtlSecs * 1000000 → .done j (.error e) ∈ H →
          e ≠ .oauth .invalidState ∧ ∀ a b, e ≠ .oauth (.providerMismatch a b)
  /-- After a callback, the first session that presents its code within two minutes gets the response. -/
  session : ∀ {i g slug params url}, .start i (.callback slug params) ∈ H →
    Occurs H g (.done i (.ok (.redirect url))) →
    ∃ code auth p t, url = "/auth/success?code=" ++ code ∧ Exchanged env g p i code auth t ∧
      ∀ {j h headers x s r}, .start j (.session headers code) ∈ H → g <:+ h →
        Unasked h p (StateStore.exchangeKey code) → IsTaken H h j (StateStore.exchangeKey code) x s →
        s.app.clock ≤ t.app.clock + StateStore.exchangeTtlSecs * 1000000 → .done j r ∈ H →
          r = .ok (.api (.auth auth))

section Runs

variable {clock : ℕ} {c : Pool WebOp WebRet WebRequest (Except WebError WebResponse) WebState}
  (hx : env.Exact) (hc : (web env).Reachable (.fresh clock) c)

include hx hc

/-- **The flow is available**: what has been stored for a client is there when it comes back in time, whatever
other clients do. -/
theorem flow_available : Available env c.history := by
  have hsem : ∀ {H i o s r s'}, (web env).sem H i o s r s' → WebStmt env o s r s' := fun h => h
  have htick : ∀ {s s'}, (web env).tick s s' → WebTick s s' := fun h => h
  refine ⟨fun {i g slug url} hi hdone => ?_, fun {i g slug params url} hi hdone => ?_⟩
  · have hend := web_at_ok hc webHandle_redirects hi hdone
    generalize hlog : localLog i g = log at hend
    cases hend with
    | @authorize _ provider cfg n m hslug hcfg =>
      obtain ⟨p, t, t', hstored, hpast⟩ := exists_occurs_of_suffix ⟨[], hlog.symm⟩
      obtain ⟨q, hq, -⟩ := sends_of_stmt hc (hstored.of_suffix hdone.past)
      obtain rfl := hc.numbered.start_unique hi ((hstored.past.trans hdone.past).subset hq)
      refine ⟨provider, cfg, _, _, p, t, hcfg, rfl,
        ⟨⟨slug, hq, hslug⟩, ⟨n, m, hpast, rfl, rfl⟩, _, t', hstored⟩,
        fun {j h slug' params x s e} hj hstate hslug' hgh hunasked htake hclock herror => ?_⟩
      obtain rfl := take_first hsem htick hc (oneTime_stateKey hc _) (storedOnce_stateKey hc hx _)
        (hstored.of_suffix hgh) hunasked htake hclock
      obtain ⟨s', hocc⟩ := htake
      obtain ⟨d, hd⟩ := exists_occurs herror
      obtain ⟨q', hq', hcause⟩ := hc.at_done (webHandle_causes fun q =>
        SatE.trivial (fun _ _ => trivial) (fun _ _ => trivial) (fun _ _ => trivial) _) hd
      obtain rfl := hc.numbered.start_unique hj (hd.past.subset hq')
      have hm := mem_localLog_of_stmt hocc.mem
      rw [hc.localLog_of_done hd] at hm
      exact WebCause.of_taken hcause hstate hslug' hm ((verifierOf_pending hx _ _ _).trans (if_neg (by simp)))
  · have hend := web_at_ok hc webHandle_redirects hi hdone
    generalize hlog : localLog i g = log at hend
    cases hend with
    | @callback _ _ auth n l =>
      obtain ⟨p, t, t', hstored, hpast⟩ := exists_occurs_of_suffix ⟨[], hlog.symm⟩
      obtain ⟨q, hq, -⟩ := sends_of_stmt hc (hstored.of_suffix hdone.past)
      obtain rfl := hc.numbered.start_unique hi ((hstored.past.trans hdone.past).subset hq)
      refine ⟨_, auth, p, t, rfl, ⟨⟨slug, params, hq⟩, ⟨n, l, hpast, rfl⟩, _, t', hstored⟩,
        fun {j h headers x s r} hj hgh hunasked htake hclock hend => ?_⟩
      obtain rfl := take_first hsem htick hc (oneTime_exchangeKey hc _) (storedOnce_exchangeKey hc hx _)
        (hstored.of_suffix hgh) hunasked htake hclock
      obtain ⟨s', hocc⟩ := htake
      obtain ⟨d, hd⟩ := exists_occurs hend
      obtain ⟨q', hq', hredeems⟩ := hc.at_done webHandle_redeems hd
      obtain rfl := hc.numbered.start_unique hj (hd.past.subset hq')
      have hm := mem_localLog_of_stmt hocc.mem
      rw [hc.localLog_of_done hd] at hm
      rw [hredeems headers _ rfl _ hm]
      simp only [redeemed, hx.auth_json]

end Runs

/-- Carol comes back in time, both times. -/
theorem flow_available_of_carol : ∃ c, (web demoWeb).Reachable (.fresh 0) c ∧
    (∃ a, System.outcome 2 c.history = some (.ok (.api (.auth a))) ∧ a.user.email = "carol@example.com") ∧
    Available demoWeb c.history := by
  obtain ⟨c, hc, hobs⟩ := exists_web_run demoWeb trustingAnswers 0 (flow "carol@example.com")
    (fun c => (System.outcome 2 c.history).bind sessionFor) (some "carol@example.com") (by decide +kernel)
  obtain ⟨x, hx, hfor⟩ := Option.bind_eq_some_iff.1 hobs
  obtain ⟨a, rfl, hemail⟩ := sessionFor_eq_some hfor
  exact ⟨c, hc, ⟨a, hx, hemail⟩, flow_available demoWeb_exact hc⟩

end Socle
