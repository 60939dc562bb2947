import Socle.Flow.SingleUse

/-!
# Whose flow it is

Which client sends a request is not known to the service; here, requests are assigned to clients from
outside.

* `GeneratedFor`, `CompletedFor`: the client for whose authorization a state has been generated, and whose
  flow has ended with an exchange code;
* `BoundToBrowser`: callbacks and sessions succeed only for flows of their own clients;
* `KeptFlows`: no client presents a state or a code of another's flow;
* `handed_over_flow`: a client completes the flow of another;
* `bound_to_browser`: where states and codes are kept, flows are bound to their clients.
-/

namespace Socle

open Interaction Valkey

variable {Client : Type} (env : WebEnv) (client : ℕ → Client) (H : WebTrace)

/-- An authorization of the client has generated the state. -/
def GeneratedFor (b : Client) (state : String) : Prop :=
  ∃ i p provider verifier t, Authorized env H p i provider state verifier t ∧ client i = b

/-- A callback has generated the exchange code at the end of a flow that the client has begun. -/
def CompletedFor (b : Client) (code : String) : Prop :=
  ∃ k p auth t slug params state, Exchanged env H p k code auth t ∧ .start k (.callback slug params) ∈ H ∧
    params.state = some state ∧ GeneratedFor env client H b state

/-- Only the client that has begun a flow can be logged in through it. -/
structure BoundToBrowser : Prop where
  /-- A callback succeeds only for a state that an authorization of the same client has generated. -/
  callback : ∀ {j slug params x}, .start j (.callback slug params) ∈ H → .done j (.ok x) ∈ H →
    ∃ state, params.state = some state ∧ GeneratedFor env client H (client j) state
  /-- A session is opened only with the code of a flow that the same client has begun. -/
  session : ∀ {j headers code x}, .start j (.session headers code) ∈ H → .done j (.ok x) ∈ H →
    CompletedFor env client H (client j) code

/-- No client presents a state or a code of a flow that another client has begun. -/
structure KeptFlows : Prop where
  states : ∀ {j slug params state b}, .start j (.callback slug params) ∈ H → params.state = some state →
    GeneratedFor env client H b state → b = client j
  codes : ∀ {j headers code b}, .start j (.session headers code) ∈ H → CompletedFor env client H b code →
    b = client j

section Runs

variable {env} {client} {H}
  {clock : ℕ} {c : Pool WebOp WebRet WebRequest (Except WebError WebResponse) WebState} {j : ℕ}

theorem GeneratedFor.of_suffix {h : WebTrace} {b : Client} {state : String}
    (hg : GeneratedFor env client h b state) (hh : h <:+ H) : GeneratedFor env client H b state := by
  obtain ⟨i, p, provider, verifier, t, ha, hi⟩ := hg
  exact ⟨i, p, provider, verifier, t, ha.of_suffix hh, hi⟩

variable (hc : (web env).Reachable (.fresh clock) c)

include hc

/-- A state is generated for one client. -/
theorem generatedFor_unique (hx : env.Exact) {b b' : Client} {state : String}
    (h : GeneratedFor env client c.history b state) (h' : GeneratedFor env client c.history b' state) :
    b = b' := by
  obtain ⟨i, p, provider, verifier, t, ha, rfl⟩ := h
  obtain ⟨i', p', provider', verifier', t', ha', rfl⟩ := h'
  rw [(authorized_once hc hx ha ha').1]

/-- A code is generated for one client. -/
theorem completedFor_unique (hx : env.Exact) {b b' : Client} {code : String}
    (h : CompletedFor env client c.history b code) (h' : CompletedFor env client c.history b' code) :
    b = b' := by
  obtain ⟨k, p, auth, t, slug, params, state, ha, hq, hstate, hgenerated⟩ := h
  obtain ⟨k', p', auth', t', slug', params', state', ha', hq', hstate', hgenerated'⟩ := h'
  obtain ⟨rfl, -⟩ := exchanged_once hc hx ha ha'
  cases hc.numbered.start_unique hq hq'
  obtain rfl := Option.some.inj (hstate.symm.trans hstate')
  exact generatedFor_unique hc hx hgenerated hgenerated'

/-- The state that a callback has taken has been generated for some client. -/
theorem generatedFor_of_took (hx : env.Exact) {h : WebTrace} (hh : h <:+ c.history) {slug : String}
    {params : CallbackParams} (hq : .start j (.callback slug params) ∈ c.history)
    (htook : Took env slug params (localLog j h)) :
    ∃ state b, params.state = some state ∧ GeneratedFor env client c.history b state := by
  obtain ⟨h', provider, state, verifier, s, htake, hstate, -⟩ := taken_of_took hc hh hq htook
  have htake := htake.of_suffix hh
  obtain ⟨raw, ⟨s', he⟩, -⟩ := htake.taken
  obtain ⟨i, p, t, ha, -⟩ := take_authorized hc hx htake
  exact ⟨state, client i, hstate, i, p, provider, verifier, t, ha.of_suffix he.past, rfl⟩

/-- **A successful callback presents a state that some client's authorization has generated.** -/
theorem generatedFor_of_callback (hx : env.Exact) {slug : String} {params : CallbackParams}
    {x : WebResponse} (hq : .start j (.callback slug params) ∈ c.history)
    (hdone : .done j (.ok x) ∈ c.history) :
    ∃ state b, params.state = some state ∧ GeneratedFor env client c.history b state := by
  obtain ⟨h, hdone⟩ := exists_occurs hdone
  have htook := (web_at_ok hc webHandle_asks hq hdone).callback slug params rfl
  exact generatedFor_of_took hc hx hdone.past hq htook

/-- **A successful session presents a code at the end of some client's flow.** -/
theorem completedFor_of_session (hx : env.Exact) {headers : ForwardedHeaders} {code : String}
    {x : WebResponse} (hq : .start j (.session headers code) ∈ c.history)
    (hdone : .done j (.ok x) ∈ c.history) : ∃ b, CompletedFor env client c.history b code := by
  obtain ⟨d, hdone⟩ := exists_occurs hdone
  obtain ⟨h, s, k, p, auth, t, -, ⟨s', htaken⟩, hexchanged, -⟩ := session_exchanged hc hx hq hdone
  have hexchanged := hexchanged.of_suffix (htaken.past.trans hdone.past)
  obtain ⟨slug, params, hk⟩ := hexchanged.request
  obtain ⟨n, l, hlog, -⟩ := hexchanged.generated
  obtain ⟨r, t', hstored⟩ := hexchanged.stored
  -- The callback has drawn the code after it has taken its state.
  have hdrawn : (⟨.app .random, n⟩ : (o : WebOp) × WebRet o) ∈ localLog k p := by
    rw [hlog]
    exact List.mem_cons_self
  obtain ⟨w, w', hm⟩ := exists_stmt_of_mem_localLog hdrawn
  obtain ⟨g, he⟩ := exists_occurs hm
  have he := he.of_suffix hstored.past
  have hk := hstored.past.subset hk
  have htook := web_at_stmt hc webHandle_asks hk he slug params rfl
  obtain ⟨state, b, hstate, hgenerated⟩ := generatedFor_of_took hc hx he.past hk htook
  exact ⟨b, k, p, auth, t, slug, params, state, hexchanged, hk, hstate, hgenerated⟩

/-- **Flows are bound to clients that keep them.**  Where no client presents a state or a code of another's
flow, callbacks and sessions succeed only for flows of their own clients; and a successful callback or
session was for a flow of its own client exactly if it was for none of another. -/
theorem bound_to_browser (hx : env.Exact) :
    (KeptFlows env client c.history → BoundToBrowser env client c.history) ∧
    (∀ {j slug params state x}, .start j (.callback slug params) ∈ c.history →
      .done j (.ok x) ∈ c.history → params.state = some state →
      (GeneratedFor env client c.history (client j) state ↔
        ∀ b, GeneratedFor env client c.history b state → b = client j)) ∧
    ∀ {j headers code x}, .start j (.session headers code) ∈ c.history → .done j (.ok x) ∈ c.history →
      (CompletedFor env client c.history (client j) code ↔
        ∀ b, CompletedFor env client c.history b code → b = client j) := by
  refine ⟨fun hkept => ⟨?_, ?_⟩, ?_, ?_⟩
  · intro j slug params x hq hdone
    obtain ⟨state, b, hstate, hgenerated⟩ := generatedFor_of_callback hc hx hq hdone
    obtain rfl := hkept.states hq hstate hgenerated
    exact ⟨state, hstate, hgenerated⟩
  · intro j headers code x hq hdone
    obtain ⟨b, hcompleted⟩ := completedFor_of_session hc hx hq hdone
    obtain rfl := hkept.codes hq hcompleted
    exact hcompleted
  · intro j slug params state x hq hdone hstate
    refine ⟨fun hown b hb => generatedFor_unique hc hx hb hown, fun hall => ?_⟩
    obtain ⟨state', b, hstate', hgenerated⟩ := generatedFor_of_callback hc hx hq hdone
    obtain rfl := Option.some.inj (hstate.symm.trans hstate')
    obtain rfl := hall b hgenerated
    exact hgenerated
  · intro j headers code x hq hdone
    refine ⟨fun hown b hb => completedFor_unique hc hx hb hown, fun hall => ?_⟩
    obtain ⟨b, hcompleted⟩ := completedFor_of_session hc hx hq hdone
    obtain rfl := hall b hcompleted
    exact hcompleted

end Runs

/-! ### Concrete flows -/

/-- The keys at which requests store texts. -/
def storedKeys (H : WebTrace) : List (ℕ × String) := H.filterMap fun
  | .stmt i (.valkey (.setEx k _ _)) _ _ _ => some (i, k)
  | _ => none

theorem IsStored.mem_storedKeys {H h : WebTrace} {i : ℕ} {k value : String} {seconds : ℤ} {s : WebState}
    (hs : IsStored H h i k value seconds s) : (i, k) ∈ storedKeys H := by
  obtain ⟨r, s', he⟩ := hs
  exact List.mem_filterMap.2 ⟨_, he.mem, rfl⟩

/-- The key of the state or the code that a request presents. -/
def WebRequest.presented : WebRequest → Option String
  | .callback _ params => params.state.map StateStore.stateKey
  | .session _ code => some (StateStore.exchangeKey code)
  | _ => none

/-- Requests present only what requests of their own clients have stored. -/
def keepsFlows [DecidableEq Client] (client : ℕ → Client) (H : WebTrace) : Bool := H.all fun
  | .start j q => (storedKeys H).all fun x => q.presented ≠ some x.2 ∨ client x.1 = client j
  | _ => true

theorem keptFlows_of_keepsFlows [DecidableEq Client] {env : WebEnv} {client : ℕ → Client} {H : WebTrace}
    (h : keepsFlows client H = true) : KeptFlows env client H := by
  have hkept : ∀ {j q i k}, .start j q ∈ H → (i, k) ∈ storedKeys H → q.presented = some k →
      client i = client j := by
    intro j q i k hq hk hpresented
    have hall := List.all_eq_true.1 (List.all_eq_true.1 h _ hq) _ hk
    exact (of_decide_eq_true hall).resolve_left fun hne => hne hpresented
  have hstates : ∀ {j slug params state b}, .start j (.callback slug params) ∈ H →
      params.state = some state → GeneratedFor env client H b state → b = client j := by
    rintro j slug params state _ hq hstate ⟨i, p, provider, verifier, t, ha, rfl⟩
    exact hkept hq ha.stored.mem_storedKeys (by simp [WebRequest.presented, hstate])
  refine ⟨hstates, ?_⟩
  rintro j headers code b hq ⟨k, p, auth, t, slug, params, state, ha, hk, hstate, hgenerated⟩
  exact (hstates hk hstate hgenerated).trans (hkept hq ha.stored.mem_storedKeys rfl)

/-- Two flows: requests 0, 2 and 4 are Carol's, and requests 1, 3 and 5 Dave's. -/
def twoFlows : List (System.Move WebRequest) :=
  [.start (.authorize "google"), .start (.authorize "google")] ++ System.goes 0 3 ++ System.goes 1 3 ++
    [.start (.callback "google" ⟨some "carol@example.com", some (tally 1), none, none⟩),
      .start (.callback "google" ⟨some "dave@example.com", some (tally 3), none, none⟩)] ++
    System.goes 2 8 ++ System.goes 3 19 ++ System.goes 2 11 ++
    [.start (.session ⟨some "10.0.0.1", none⟩ (tally 15)),
      .start (.session ⟨some "10.0.0.2", none⟩ (tally 11))] ++ System.goes 4 4 ++ System.goes 5 4

/-- Two clients complete their own flows, whose requests overlap. -/
theorem bound_to_browser_of_two : ∃ c, (web demoWeb).Reachable (.fresh 0) c ∧
    (System.outcome 4 c.history).bind sessionFor = some "carol@example.com" ∧
    (System.outcome 5 c.history).bind sessionFor = some "dave@example.com" ∧
    BoundToBrowser demoWeb (fun i => i % 2) c.history := by
  obtain ⟨c, hc, hobs⟩ := exists_web_run demoWeb trustingAnswers 0 twoFlows
    (fun c => ((System.outcome 4 c.history).bind sessionFor, (System.outcome 5 c.history).bind sessionFor,
      keepsFlows (fun i => i % 2) c.history))
    (some "carol@example.com", some "dave@example.com", true) (by decide +kernel)
  simp only [Prod.mk.injEq] at hobs
  obtain ⟨hcarol, hdave, hkeeps⟩ := hobs
  exact ⟨c, hc, hcarol, hdave, (bound_to_browser hc demoWeb_exact).1 (keptFlows_of_keepsFlows hkeeps)⟩

/-- The authorizations of a history. -/
def authorizations (H : WebTrace) : List ℕ := H.filterMap fun
  | .start i (.authorize _) => some i
  | _ => none

/-- **A handed-over flow.**  A client, 0, starts a flow and consents with its own account, and another
client, 1, is made to open the callback: it is logged into the account of the first. -/
theorem handed_over_flow : ∃ c, (web demoWeb).Reachable (.fresh 0) c ∧
    (System.outcome 2 c.history).bind sessionFor = some "mallory@example.com" ∧
    ¬ BoundToBrowser demoWeb (min 1) c.history := by
  obtain ⟨c, hc, hobs⟩ := exists_web_run demoWeb trustingAnswers 0 (flow "mallory@example.com")
    (fun c => ((System.outcome 2 c.history).bind sessionFor, (System.outcome 1 c.history),
      System.asked 1 c.history, authorizations c.history))
    (some "mallory@example.com", some (.ok (.redirect "/auth/success?code=xxxxxxx")),
      some (.callback "google" ⟨some "mallory@example.com", some (tally 1), none, none⟩), [0])
    (by decide +kernel)
  simp only [Prod.mk.injEq] at hobs
  obtain ⟨hsession, hdone, hq, hauthorizations⟩ := hobs
  refine ⟨c, hc, hsession, fun hbound => ?_⟩
  obtain ⟨state, -, i, p, provider, verifier, t, ha, hi⟩ :=
    hbound.callback (System.start_mem_of_asked hq) (System.done_mem_of_outcome hdone)
  obtain ⟨slug, hstart, -⟩ := ha.request
  obtain ⟨r, t', hstored⟩ := ha.stored
  have hmem : i ∈ authorizations c.history :=
    List.mem_filterMap.2 ⟨_, hstored.past.subset hstart, rfl⟩
  rw [hauthorizations, List.mem_singleton] at hmem
  subst hmem
  exact absurd hi (by decide)

end Socle
