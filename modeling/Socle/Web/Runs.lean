import Socle.Web.Demo
import Socle.Web.Routes

/-!
# Runs of the whole service

The rules of interleaved runs, for the web layer and its statements.

* `web_at_stmt`, `web_at_ok`: what a specification of the programs says at each statement and at each
  successful result of a run;
* `web_stmt`, `web_ordered`: executed statements and the order of states;
* `draw_once`, `after_draw`: a draw, and what follows it, happens once;
* `Sends`, `Took`: the commands of a request, and what a callback has done before anything else;
* `webHandle_asks`: the specification of all programs;
* `webHandle_served`: what the services guarantee, they guarantee here;
* `exists_web_run`: a schedule evaluated to a run.
-/

namespace Socle

open Interaction Prog Valkey

/-- A history of the whole service. -/
abbrev WebTrace : Type := History WebOp WebRet WebRequest (Except WebError WebResponse) WebState

variable {env : WebEnv}

section Runs

variable {s₀ : WebState} {c : Pool WebOp WebRet WebRequest (Except WebError WebResponse) WebState}
  {h h' : WebTrace} {i j : ℕ} {q : WebRequest} {s s' t t' : WebState} (hc : (web env).Reachable s₀ c)

include hc

section Specification

variable {P : WebRequest → Log WebOp WebRet → WebOp → Prop}
  {Q : WebRequest → Log WebOp WebRet → WebResponse → Prop}
  {E : WebRequest → Log WebOp WebRet → WebError → Prop}

theorem web_at_stmt (hspec : ∀ q, SatE (webHandle env q) (P q) (Q q) (E q) [])
    (hq : .start i q ∈ c.history) {o : WebOp} {r : WebRet o}
    (he : Occurs c.history h (.stmt i o r s s')) : P q (localLog i h) o := by
  obtain ⟨q', hq', hP⟩ := hc.at_stmt hspec he
  rw [hc.numbered.start_unique hq (he.past.subset hq')]
  exact hP

theorem web_at_ok (hspec : ∀ q, SatE (webHandle env q) (P q) (Q q) (E q) [])
    (hq : .start i q ∈ c.history) {a : WebResponse}
    (he : Occurs c.history h (.done i (.ok a))) : Q q (localLog i h) a := by
  obtain ⟨q', hq', hQ⟩ := hc.at_done hspec he
  rw [hc.numbered.start_unique hq (he.past.subset hq')]
  exact hQ

end Specification

theorem web_stmt {o : WebOp} {r : WebRet o} (he : .stmt i o r s s' ∈ c.history) : WebStmt env o s r s' := by
  obtain ⟨h, he⟩ := exists_occurs he
  exact hc.sem_of_stmt he

/-- The states of a run are ordered as their statements are. -/
theorem web_ordered {o o' : WebOp} {r : WebRet o} {r' : WebRet o'}
    (he : Occurs c.history h (.stmt i o r s s')) (he' : .stmt j o' r' t t' ∈ h) : t'.Le s :=
  hc.ordered WebState.Le.refl (fun h h' => h.trans h') WebTick.le (fun h => WebStmt.le h) he he'

theorem web_le_state {o : WebOp} {r : WebRet o} (he : .stmt i o r s s' ∈ c.history) : s'.Le c.state :=
  ((hc.order WebState.Le.refl (fun h h' => h.trans h') WebTick.le (fun h => WebStmt.le h)).2 he).2.2

/-- Time does not go back. -/
theorem web_clock {o o' : WebOp} {r : WebRet o} {r' : WebRet o'}
    (he : Occurs c.history h (.stmt i o r s s')) (he' : .stmt j o' r' t t' ∈ h) :
    t.app.clock ≤ s.app.clock :=
  ((web_stmt hc (he.past.subset he')).le.trans (web_ordered hc he he')).clock

/-! ### Draws -/

theorem draw_eq {n : ℕ} (he : .stmt i (.app .random) n s s' ∈ c.history) :
    n = s.app.draws ∧ s'.app.draws = n + 1 := by
  obtain ⟨hstmt, -⟩ := (web_stmt hc he).app_eq
  obtain ⟨rfl, heq⟩ := hstmt.random_eq
  exact ⟨rfl, by rw [heq]⟩

/-- **No draw is repeated.** -/
theorem draw_once {n : ℕ} (he : Occurs c.history h (.stmt i (.app .random) n s s'))
    (he' : Occurs c.history h' (.stmt j (.app .random) n t t')) : i = j ∧ h = h' := by
  obtain ⟨hs, hs'⟩ := draw_eq hc he.mem
  obtain ⟨ht, ht'⟩ := draw_eq hc he'.mem
  rcases he.total he' with ⟨heq, rfl⟩ | hlt | hlt
  · cases heq
    exact ⟨rfl, rfl⟩
  · have := (web_ordered hc he hlt.mem).draws
    omega
  · have := (web_ordered hc he' hlt.mem).draws
    omega

/-- **What follows a draw happens once.** -/
theorem after_draw {n : ℕ} {l l' : Log WebOp WebRet} {o o' : WebOp} {r : WebRet o} {r' : WebRet o'}
    (he : Occurs c.history h (.stmt i o r s s')) (hlog : localLog i h = ⟨.app .random, n⟩ :: l)
    (he' : Occurs c.history h' (.stmt j o' r' t t')) (hlog' : localLog j h' = ⟨.app .random, n⟩ :: l') :
    (.stmt i o r s s' : Event WebOp WebRet WebRequest (Except WebError WebResponse) WebState) =
      .stmt j o' r' t t' ∧ h = h' := by
  obtain ⟨p, u, u', hp, hpl⟩ := exists_occurs_of_suffix (hlog ▸ localLog_suffix he.past)
  obtain ⟨p', v, v', hp', hpl'⟩ := exists_occurs_of_suffix (hlog' ▸ localLog_suffix he'.past)
  obtain ⟨rfl, rfl⟩ := draw_once hc hp hp'
  obtain rfl : l = l' := hpl.symm.trans hpl'
  -- The later of two statements would have the earlier one in its log.
  have hlater : ∀ {a b : WebTrace} {o : WebOp} {r : WebRet o} {u u' : WebState},
      Occurs a b (.stmt i o r u u') → (localLog i a).length = (localLog i b).length → False := by
    intro a b o r u u' hocc hlen
    have hsuffix := (localLog_suffix (i := i) hocc).length_le
    rw [localLog_stmt_self, List.length_cons] at hsuffix
    omega
  have hlen : (localLog i h).length = (localLog i h').length := by rw [hlog, hlog']
  rcases he.total he' with heq | hlt | hlt
  · exact heq
  · exact (hlater hlt hlen).elim
  · exact (hlater hlt hlen.symm).elim

end Runs

/-! ### What programs do -/

/-- The commands of a request, after its log. -/
inductive Sends (env : WebEnv) : WebRequest → Log WebOp WebRet → Command → Prop
  | insert {slug : String} {provider : OAuthProvider} {k : String} {n m : ℕ}
    (hslug : OAuthProvider.fromSlug slug = some provider)
    (hk : k = StateStore.stateKey (env.csrfToken n)) :
    Sends env (.authorize slug) [⟨.app .random, n⟩, ⟨.app .random, m⟩] (.setEx k
      (env.pendingToJson (StateStore.pending provider (env.pkceVerifier m))) StateStore.stateTtlSecs)
  | take {slug state k : String} {params : CallbackParams} {provider : OAuthProvider}
    (hstate : params.state = some state) (hslug : OAuthProvider.fromSlug slug = some provider)
    (hk : k = StateStore.stateKey state) : Sends env (.callback slug params) [] (.getDel k)
  | storeExchange {slug k : String} {params : CallbackParams} {n : ℕ} {log : Log WebOp WebRet}
    {auth : AuthResponse} (hk : k = StateStore.exchangeKey (env.app.prim.opaqueToken n)) :
    Sends env (.callback slug params) (⟨.app .random, n⟩ :: log)
      (.setEx k (env.authToJson auth) StateStore.exchangeTtlSecs)
  | takeExchange {headers : ForwardedHeaders} {code k : String} {log : Log WebOp WebRet}
    (hk : k = StateStore.exchangeKey code) : Sends env (.session headers code) log (.getDel k)
  | incr {q : WebRequest} {log : Log WebOp WebRet} {k endpoint ip : String} {w : ℕ}
    (hk : k = RateLimiter.key endpoint ip w) : Sends env q log (.incr k)
  | expire {q : WebRequest} {log : Log WebOp WebRet} {k endpoint ip : String} {w : ℕ} {seconds : ℤ}
    (hk : k = RateLimiter.key endpoint ip w) : Sends env q log (.expire k seconds)

/-- The callback has taken the pending authorization of a state. -/
def Took (env : WebEnv) (slug : String) (params : CallbackParams) (log : Log WebOp WebRet) : Prop :=
  ∃ state provider raw verifier, params.state = some state ∧
    OAuthProvider.fromSlug slug = some provider ∧
    StateStore.verifierOf env raw provider = .ok verifier ∧
    ⟨.valkey (.getDel (StateStore.stateKey state)), .ok (some raw)⟩ ∈ log

/-- What a program may ask for, after its log. -/
def WebRequest.Asks (env : WebEnv) (q : WebRequest) (log : Log WebOp WebRet) : WebOp → Prop
  | .valkey command => Sends env q log command
  | .app _ => ∀ slug params, q = .callback slug params → Took env slug params log
  | _ => True

/-- What a program has done when it succeeds. -/
structure WebRequest.Answers (env : WebEnv) (q : WebRequest) (log : Log WebOp WebRet) (x : WebResponse) :
    Prop where
  callback : ∀ slug params, q = .callback slug params → Took env slug params log
  session : ∀ headers code, q = .session headers code → ∃ raw auth,
    ⟨.valkey (.getDel (StateStore.exchangeKey code)), .ok (some raw)⟩ ∈ log ∧
      env.authFromJson raw = some auth ∧ x = .api (.auth auth)
  api : ∀ a, x = .api a → (∃ headers q₀ direct, q = .api headers q₀ direct) ∨
    ∃ headers code, q = .session headers code

/-- A check of the rate limiter executes no statement of the services, unless it panics. -/
theorem sat_check_commands {ip endpoint : String} {P : Log WebOp WebRet → WebOp → Prop}
    {log : Log WebOp WebRet} (htime : P log .systemTime)
    (habort : ∀ l, log <:+ l → appLog l = appLog log → P l (.app .abort))
    (hincr : ∀ l w, log <:+ l → P l (.valkey (.incr (RateLimiter.key endpoint ip w))))
    (hexpire : ∀ l w seconds, log <:+ l → P l (.valkey (.expire (RateLimiter.key endpoint ip w) seconds))) :
    Sat P (fun l _ => appLog l = appLog log) log (RateLimiter.check env ip endpoint) := by
  rw [RateLimiter.sat_check]
  refine ⟨htime, fun now => ⟨fun _ => habort _ (List.suffix_cons _ _) rfl, fun _ => ?_⟩⟩
  rw [RateLimiter.sat_incr]
  have hread : log <:+ (⟨.systemTime, now⟩ :: log : Log WebOp WebRet) := List.suffix_cons _ _
  refine ⟨hincr _ _ hread, fun count => ⟨fun _ => rfl, fun _ => ⟨hexpire _ _ _ (hread.trans
    (List.suffix_cons _ _)), fun b => ⟨fun _ => rfl, fun _ => rfl⟩, fun e => rfl⟩, fun _ _ =>
      ⟨fun _ => rfl, fun _ => rfl⟩⟩, fun e => rfl⟩

/-- What holds of any program of the services. -/
theorem satE_lift_any {α : Type} {p : App α} {P : Log WebOp WebRet → WebOp → Prop}
    {Q : Log WebOp WebRet → α → Prop} {E : Log WebOp WebRet → WebError → Prop} {log : Log WebOp WebRet}
    (hP : ∀ l o, log <:+ l → P l (.app o)) (hQ : ∀ l a, log <:+ l → Q l a)
    (hE : ∀ l e, log <:+ l → E l (.app e)) : SatE (lift p) P Q E log := by
  have hany : SatE p (fun _ _ => True) (fun _ _ => True) (fun _ _ => True) (appLog log) :=
    SatE.trivial (fun _ _ => trivial) (fun _ _ => trivial) (fun _ _ => trivial) p
  exact satE_lifted hany (fun l o hl _ => hP l o hl) (fun l a hl _ => hQ l a hl) fun l e hl _ => hE l e hl

/-- Requests that are no callbacks execute statements of the services freely. -/
theorem asks_app {q : WebRequest} {log : Log WebOp WebRet} {o : Op}
    (hq : ∀ slug params, q ≠ .callback slug params) : q.Asks env log (.app o) :=
  fun slug params heq => absurd heq (hq slug params)

/-- **What the programs of all requests do.** -/
theorem webHandle_asks (q : WebRequest) :
    SatE (webHandle env q) (q.Asks env) (q.Answers env) (fun _ _ => True) [] := by
  cases q with
  | api headers q direct =>
    have hno : ∀ slug params, WebRequest.api headers q direct ≠ .callback slug params := by
      intro slug params heq
      cases heq
    refine satE_limited (fun _ _ _ => trivial) (fun p _ => ?_) fun l _ _ => ?_
    · exact sat_check_commands trivial (fun _ _ _ => asks_app hno) (fun _ _ _ => .incr rfl)
        (fun _ _ _ _ => .expire rfl)
    · rw [satE_map]
      refine satE_lift_any (fun _ _ _ => asks_app hno) (fun _ _ _ => ?_) fun _ _ _ => trivial
      refine ⟨fun slug params heq => absurd heq (hno slug params), ?_,
        fun _ _ => Or.inl ⟨headers, q, direct, rfl⟩⟩
      intro headers' code heq
      cases heq
  | authorize slug =>
    have hno : ∀ slug' params, WebRequest.authorize slug ≠ .callback slug' params := by
      intro slug' params heq
      cases heq
    have happ : ∀ (l : Log WebOp WebRet) o, (WebRequest.authorize slug).Asks env l (.app o) :=
      fun l o => asks_app hno
    have hdone : ∀ (l : Log WebOp WebRet) url, (WebRequest.authorize slug).Answers env l (.redirect url) := by
      intro l url
      refine ⟨fun slug' params heq => absurd heq (hno slug' params), ?_, ?_⟩
      · intro headers code heq
        cases heq
      · intro a heq
        cases heq
    simp only [webHandle, Routes.authorize, satE_bind, satE_liftResolveProvider, satE_providerConfig,
      satE_map, satE_buildAuthorizationUrl, satE_parseUrl, satE_insert]
    refine ⟨fun provider hslug => ⟨fun cfg _ => ⟨happ _ _, fun m => ⟨fun _ => ⟨fun _ => ⟨fun _ =>
      ⟨happ _ _, fun n => ⟨.insert hslug rfl, fun _ => hdone _ _, fun _ => trivial⟩⟩,
      fun _ _ => trivial⟩, fun _ _ => trivial⟩, fun _ _ => trivial⟩⟩, fun _ => trivial⟩, fun _ => trivial⟩
  | callback slug params =>
    refine satE_callback (fun _ _ _ => trivial) (fun state provider hstate hslug =>
      .take hstate hslug rfl) ?_
    intro state provider raw verifier hstate hslug hraw
    have htook : ∀ l : Log WebOp WebRet,
        [⟨.valkey (.getDel (StateStore.stateKey state)), .ok (some raw)⟩] <:+ l →
          Took env slug params l :=
      fun l hl => ⟨state, provider, raw, verifier, hstate, hslug, hraw, hl.subset List.mem_cons_self⟩
    have happ : ∀ (l : Log WebOp WebRet) o,
        [⟨.valkey (.getDel (StateStore.stateKey state)), .ok (some raw)⟩] <:+ l →
          (WebRequest.callback slug params).Asks env l (.app o) := by
      intro l o hl slug' params' heq
      cases heq
      exact htook l hl
    refine ⟨fun _ _ => trivial, fun l o _ ho => ?_, fun l profile hl _ _ _ => ?_⟩
    · cases o with
      | app | systemTime | valkey => cases ho
      | _ => trivial
    · refine satE_lift_any (fun l' o hl' => happ l' o (hl.trans hl')) ?_ fun _ _ _ => trivial
      refine fun l' auth hl' => ⟨happ l' _ (hl.trans hl'), fun n => ⟨.storeExchange rfl, ?_, ?_, ?_⟩⟩
      · intro slug' params' heq
        cases heq
        exact htook _ ((hl.trans hl').trans ((List.suffix_cons _ _).trans (List.suffix_cons _ _)))
      · intro headers code heq
        cases heq
      · intro a heq
        cases heq
  | session headers code =>
    have hno : ∀ slug params, WebRequest.session headers code ≠ .callback slug params := by
      intro slug params heq
      cases heq
    unfold webHandle
    refine satE_limited (fun _ _ _ => trivial) (fun p _ => ?_) fun l _ _ => ?_
    · exact sat_check_commands trivial (fun _ _ _ => asks_app hno) (fun _ _ _ => .incr rfl)
        (fun _ _ _ _ => .expire rfl)
    · simp only [Routes.session, satE_bind, satE_takeExchange]
      refine ⟨.takeExchange rfl, trivial, fun raw => ?_, fun _ => trivial⟩
      cases hauth : env.authFromJson raw with
      | none =>
        simp only [satE_throw]
      | some auth =>
        simp only [satE_pure]
        refine ⟨fun slug params heq => absurd heq (hno slug params), fun headers' code' heq => ?_,
          fun _ _ => Or.inr ⟨headers, code, rfl⟩⟩
        cases heq
        exact ⟨raw, auth, List.mem_cons_self, hauth, rfl⟩

/-! ### The services -/

/-- The request to the services that a web request makes. -/
inductive Serves : WebRequest → Request → Prop
  | api {headers : ForwardedHeaders} {q : Request} {direct : q.isOAuthLogin = false} :
    Serves (.api headers q direct) q
  | callback {slug : String} {params : CallbackParams} {profile : OAuthProfile}
    (hslug : OAuthProvider.fromSlug slug = some profile.provider) :
    Serves (.callback slug params) (.oauthLogin profile)

/-- The statements of the services are those of their request; what a callback stores is its result. -/
def ServedAsks (env : WebEnv) (P : Request → Log Op Ret → Op → Prop)
    (Q : Request → Log Op Ret → Response → Prop) (q : WebRequest) (log : Log WebOp WebRet) : WebOp → Prop
  | .app o => o = .random ∨ o = .abort ∨ ∃ q₀, Serves q q₀ ∧ P q₀ (appLog log) o
  | .valkey (.setEx _ value _) => ∀ slug params, q = .callback slug params →
    ∃ profile auth, ∃ n : ℕ, ∃ l, Serves q (.oauthLogin profile) ∧ appLog log = ⟨.random, n⟩ :: l ∧
      value = env.authToJson auth ∧ Q (.oauthLogin profile) l (.auth auth)
  | _ => True

/-- The result of a request to the services is returned. -/
def ServedAnswers (Q : Request → Log Op Ret → Response → Prop) (q : WebRequest) (log : Log WebOp WebRet)
    (x : WebResponse) : Prop :=
  ∀ headers q₀ direct, q = .api headers q₀ direct → ∃ a, x = .api a ∧ Q q₀ (appLog log) a

/-- **What the services guarantee** holds of the statements that they execute for the web layer. -/
theorem webHandle_served {P : Request → Log Op Ret → Op → Prop}
    {Q : Request → Log Op Ret → Response → Prop} {E : Request → Log Op Ret → AppError → Prop}
    (hspec : ∀ q, SatE (handle env.app q) (P q) (Q q) (E q) []) (q : WebRequest) :
    SatE (webHandle env q) (ServedAsks env P Q q) (ServedAnswers Q q) (fun _ _ => True) [] := by
  have hcheck : ∀ {q : WebRequest} {ip endpoint : String},
      Sat (ServedAsks env P Q q) (fun l _ => appLog l = appLog []) [] (RateLimiter.check env ip endpoint) :=
    sat_check_commands trivial (fun _ _ _ => Or.inr (Or.inl rfl)) (fun _ _ _ => trivial)
      fun _ _ _ _ => trivial
  cases q with
  | api headers q direct =>
    refine satE_limited (fun _ _ _ => trivial) (fun _ _ => hcheck) fun l _ hl => ?_
    rw [satE_map]
    refine satE_lifted (by rw [hl]; exact hspec q) ?_ ?_ (fun _ _ _ _ => trivial)
    · exact fun l' o _ hP => Or.inr (Or.inr ⟨q, .api, hP⟩)
    · intro l' a _ hQ headers' q' direct' heq
      cases heq
      exact ⟨a, rfl, hQ⟩
  | authorize slug =>
    have hdone : ∀ (l : Log WebOp WebRet) x, ServedAnswers Q (.authorize slug) l x := by
      intro l x headers q direct heq
      cases heq
    have hstore : ∀ (l : Log WebOp WebRet) k value seconds,
        ServedAsks env P Q (.authorize slug) l (.valkey (.setEx k value seconds)) := by
      intro l k value seconds slug' params heq
      cases heq
    simp only [webHandle, Routes.authorize, satE_bind, satE_liftResolveProvider, satE_providerConfig,
      satE_map, satE_buildAuthorizationUrl, satE_parseUrl, satE_insert]
    refine ⟨fun provider hslug => ⟨fun cfg _ => ⟨Or.inl rfl, fun m => ⟨fun _ => ⟨fun _ => ⟨fun _ =>
      ⟨Or.inl rfl, fun n => ⟨hstore _ _ _ _, fun _ => hdone _ _, fun _ => trivial⟩⟩,
      fun _ _ => trivial⟩, fun _ _ => trivial⟩, fun _ _ => trivial⟩⟩, fun _ => trivial⟩, fun _ => trivial⟩
  | callback slug params =>
    refine satE_callback (fun _ _ _ => trivial) (fun _ _ _ _ => trivial) ?_
    intro state provider raw verifier hstate hslug hraw
    refine ⟨fun _ _ => trivial, fun l o _ ho => ?_, fun l profile hl hlog hprovider _ => ?_⟩
    · cases o with
      | app | systemTime | valkey => cases ho
      | _ => trivial
    · subst hprovider
      have hserves : Serves (.callback slug params) (.oauthLogin profile) := .callback hslug
      have hlogin := hspec (.oauthLogin profile)
      rw [handle, Routes.oauthLogin, satE_map] at hlogin
      refine satE_lifted (by rw [hlog]; exact hlogin) (fun l' o _ hP => Or.inr (Or.inr ⟨_, hserves, hP⟩))
        ?_ (fun _ _ _ _ => trivial)
      refine fun l' auth _ hQ => ⟨Or.inl rfl, fun n => ⟨fun _ _ _ => ?_, ?_⟩⟩
      · exact ⟨profile, auth, n, appLog l', hserves, rfl, rfl, hQ⟩
      · intro headers q direct heq
        cases heq
  | session headers code =>
    unfold webHandle
    refine satE_limited (fun _ _ _ => trivial) (fun _ _ => hcheck) fun l _ _ => ?_
    simp only [Routes.session, satE_bind, satE_takeExchange]
    refine ⟨trivial, trivial, fun raw => ?_, fun _ => trivial⟩
    cases env.authFromJson raw with
    | none => simp only [satE_throw]
    | some auth =>
      simp only [satE_pure]
      intro headers' q direct heq
      cases heq

section Served

variable {P : Request → Log Op Ret → Op → Prop} {Q : Request → Log Op Ret → Response → Prop}
  {E : Request → Log Op Ret → AppError → Prop}
  (hspec : ∀ q, SatE (handle env.app q) (P q) (Q q) (E q) []) {s₀ : WebState}
  {c : Pool WebOp WebRet WebRequest (Except WebError WebResponse) WebState} {h : WebTrace} {i : ℕ}
  {s s' : WebState} (hc : (web env).Reachable s₀ c)

include hspec hc

/-- A statement of the services, other than a draw, belongs to their request. -/
theorem served_stmt {o : Op} {r : Ret o} (he : Occurs c.history h (.stmt i (.app o) r s s'))
    (hrandom : o ≠ .random) : ∃ q q₀, .start i q ∈ h ∧ Serves q q₀ ∧ P q₀ (appLog (localLog i h)) o := by
  obtain ⟨q, hq, ho⟩ := hc.at_stmt (webHandle_served hspec) he
  rcases ho with rfl | rfl | ⟨q₀, hserves, hP⟩
  · exact absurd rfl hrandom
  · exact (r : Empty).elim
  · exact ⟨q, q₀, hq, hserves, hP⟩

/-- What a request to the services returns. -/
theorem served_ok {headers : ForwardedHeaders} {q : Request} {direct : q.isOAuthLogin = false}
    {x : WebResponse} (hq : .start i (.api headers q direct) ∈ c.history)
    (he : Occurs c.history h (.done i (.ok x))) : ∃ a, x = .api a ∧ Q q (appLog (localLog i h)) a :=
  web_at_ok hc (webHandle_served hspec) hq he headers q direct rfl

end Served

/-! ### Evaluating runs -/

/-- A schedule whose observation has been computed is a run with this observation. -/
theorem exists_web_run {β : Type} (env : WebEnv) (answers : Answers) (clock : ℕ)
    (moves : List (System.Move WebRequest))
    (f : Pool WebOp WebRet WebRequest (Except WebError WebResponse) WebState → β) (b : β)
    (h : (System.play (web env).handler (fun _ _ => webExec env answers) moves
      (.init (.fresh clock))).map f = some b) :
    ∃ c, (web env).Reachable (.fresh clock) c ∧ f c = b := by
  obtain ⟨c, hc, hf⟩ := Option.map_eq_some_iff.1 h
  have hsem : ∀ {H i o s r s'}, webExec env answers o s = some (r, s') → (web env).sem H i o s r s' :=
    fun h => webExec_sound h
  exact ⟨c, System.Reachable.play hsem .init hc, hf⟩

/-- The event is the start of request `j`. -/
def starts (j : ℕ) : Event WebOp WebRet WebRequest (Except WebError WebResponse) WebState → Bool
  | .start i _ => decide (i = j)
  | _ => false

theorem occurs_of_starts {H h : WebTrace} {j : ℕ} (hf : findPast (starts j) H = some h) :
    ∃ q, Occurs H h (.start j q) := by
  obtain ⟨e, he, hocc⟩ := occurs_of_findPast hf
  unfold starts at he
  split at he
  · obtain rfl := of_decide_eq_true he
    exact ⟨_, hocc⟩
  · cases he

/-- The event is the success of request `j`. -/
def succeeds (j : ℕ) : Event WebOp WebRet WebRequest (Except WebError WebResponse) WebState → Bool
  | .done i (.ok _) => decide (i = j)
  | _ => false

theorem occurs_of_succeeds {H h : WebTrace} {j : ℕ} (hf : findPast (succeeds j) H = some h) :
    ∃ x, Occurs H h (.done j (.ok x)) := by
  obtain ⟨e, he, hocc⟩ := occurs_of_findPast hf
  unfold succeeds at he
  split at he
  · obtain rfl := of_decide_eq_true he
    exact ⟨_, hocc⟩
  · cases he

/-- The event is a statement of request `j`, with a result, that passes the test. -/
def performs (j : ℕ) (test : (o : WebOp) → WebRet o → Bool) :
    Event WebOp WebRet WebRequest (Except WebError WebResponse) WebState → Bool
  | .stmt i o r _ _ => decide (i = j) && test o r
  | _ => false

theorem occurs_of_performs {H h : WebTrace} {j : ℕ} {test : (o : WebOp) → WebRet o → Bool}
    (hf : findPast (performs j test) H = some h) :
    ∃ o r s s', Occurs H h (.stmt j o r s s') ∧ test o r = true := by
  obtain ⟨e, he, hocc⟩ := occurs_of_findPast hf
  unfold performs at he
  split at he
  · rw [Bool.and_eq_true, decide_eq_true_eq] at he
    obtain ⟨rfl, htest⟩ := he
    exact ⟨_, _, _, _, hocc, htest⟩
  · cases he

/-- The steps of a flow with Google, up to the session: the code names a user of the provider. -/
def flow (code : String) : List (System.Move WebRequest) :=
  [.start (.authorize "google")] ++ System.goes 0 3 ++
    [.start (.callback "google" ⟨some code, some (tally 1), none, none⟩)] ++ System.goes 1 19 ++
    [.start (.session ⟨none, none⟩ (tally 7))] ++ System.goes 2 4

/-- The address for which a session has been opened. -/
def sessionFor : Except WebError WebResponse → Option String
  | .ok (.api (.auth a)) => some a.user.email
  | _ => none

theorem sessionFor_eq_some {x : Except WebError WebResponse} {email : String}
    (h : sessionFor x = some email) : ∃ a, x = .ok (.api (.auth a)) ∧ a.user.email = email := by
  unfold sessionFor at h
  split at h
  · exact ⟨_, rfl, Option.some.inj h⟩
  · cases h

end Socle
