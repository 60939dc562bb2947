import Socle.Limits.Admission

/-!
# The rate limit of a client

Clients that reach the server directly choose the headers from which the middleware takes their
addresses.

* `ClientRequest`, `counterOf`: requests of clients to one path, and what they are counted for;
* `view client H`: when the client's requests have read the clock, in the order in which they are counted;
* `Bounded`, `SameOutcomes`, `PerClient`: what a limit per client would mean;
* `limited_together`: a client can evade the limit, and exhaust that of another;
* `limit_per_client`: where addresses identify clients, the limit is one per client.
-/

namespace Socle

open Interaction Prog System Valkey

/-- A request of a client, with the headers it has chosen. -/
structure ClientRequest where
  client : ℕ
  headers : ForwardedHeaders
  deriving DecidableEq

/-- What a request to the path is counted for. -/
def counterOf (path : String) (q : ClientRequest) : Check :=
  ⟨endpointKey "POST" path, extractClientIp q.headers⟩

/-- The middleware passes a request on exactly if its check admits it. -/
theorem rateLimitMiddleware_run (env : WebEnv) {α : Type} (q : ClientRequest) (path : String)
    (next : Web α) : (rateLimitMiddleware env q.headers path next).run =
      RateLimiter.check env (counterOf path q).ip (counterOf path q).endpoint >>= fun x => match x with
        | .ok _ => next.run
        | .error retryAfter => pure (.error (.rateLimited retryAfter)) := by
  unfold rateLimitMiddleware
  rw [ExceptT.run_bind, ExceptT.run_lift, ← bind_pure_comp, LawfulMonad.bind_assoc]
  congr 1

section Views

variable (client : ℕ) (H : CheckTrace ClientRequest)

/-- Request `i` comes from the client. -/
def isFrom (i : ℕ) : Bool := (asked i H).any fun q => decide (q.client = client)

/-- When request `i` has read the clock. -/
def reading (i : ℕ) : Option ℕ := H.findSome? fun
  | .stmt j .systemTime now _ _ => if j = i then some now else none
  | _ => none

/-- Those of some requests that have been counted, the latest first. -/
def turns (own : ℕ → Bool) : CheckTrace ClientRequest → List ℕ
  | [] => []
  | .stmt i (.valkey (.incr _)) _ _ _ :: H => if own i then i :: turns own H else turns own H
  | _ :: H => turns own H

/-- When the client's requests have read the clock, in the order in which they are counted. -/
def view : List (Option ℕ) := (turns (isFrom client H) H).map (reading H)

/-- Within each window, no more of the client's requests than the limit pass. -/
def Bounded (env : WebEnv) : Prop := ∀ w,
  {i | isFrom client H i = true ∧
    (reading H i).map (· / env.authRateLimitWindowSecs.toNat) = some w ∧ IsAdmitted H i}.ncard ≤
    env.authRateLimitMax.toNat

/-- The client's requests have the same results in two runs. -/
def SameOutcomes (H' : CheckTrace ClientRequest) : Prop := ∀ (n i i' : ℕ) (x x' : Except ℕ ℕ),
  (turns (isFrom client H) H)[n]? = some i → (turns (isFrom client H') H')[n]? = some i' →
    .done i x ∈ H → .done i' x' ∈ H' → x = x'

/-- The limit is one per client: no client exceeds it, and the results of a client's requests do not
depend on what other clients do. -/
structure PerClient (env : WebEnv) (H H' : CheckTrace ClientRequest) : Prop where
  bounded : ∀ client, Bounded client H env
  unaffected : ∀ client, view client H = view client H' → SameOutcomes client H H'

/-- Addresses identify clients. -/
def Identified : Prop := ∀ i j q q', .start i q ∈ H → .start j q' ∈ H →
  (q.client = q'.client ↔ extractClientIp q.headers = extractClientIp q'.headers)

end Views

section Runs

variable {env : WebEnv} {path : String} {clock : ℕ}
  {c : Pool WebOp WebRet ClientRequest (Except ℕ ℕ) WebState} {i : ℕ}
  (hc : (timelyChecks env (counterOf path)).Reachable (.fresh clock) c)

include hc

theorem isFrom_iff {q : ClientRequest} (hq : .start i q ∈ c.history) (client : ℕ) :
    isFrom client c.history i = true ↔ q.client = client := by
  rw [isFrom, asked_eq hc.numbered hq]
  simp

omit hc in
theorem start_of_isFrom {client : ℕ} {H : CheckTrace ClientRequest} (h : isFrom client H i = true) :
    ∃ q, .start i q ∈ H ∧ q.client = client := by
  rw [isFrom] at h
  cases hq : asked i H with
  | none =>
    rw [hq] at h
    cases h
  | some q =>
    rw [hq] at h
    exact ⟨q, start_mem_of_asked hq, of_decide_eq_true h⟩

omit hc in
theorem mem_of_reading {H : CheckTrace ClientRequest} {now : ℕ} (h : reading H i = some now) :
    ∃ s s', .stmt i .systemTime now s s' ∈ H := by
  obtain ⟨e, he, hnow⟩ := List.exists_of_findSome?_eq_some h
  split at hnow
  · split at hnow
    · next hj =>
      cases hnow
      subst hj
      exact ⟨_, _, he⟩
    · cases hnow
  · cases hnow

/-- The reading of a request is that of its check. -/
theorem reading_eq {now : ℕ} {s s' : WebState} (hm : .stmt i .systemTime now s s' ∈ c.history) :
    reading c.history i = some now := by
  have hsome : (reading c.history i).isSome = true := by
    rw [reading, List.findSome?_isSome_iff]
    exact ⟨_, hm, by simp⟩
  obtain ⟨now', hnow'⟩ := Option.isSome_iff_exists.1 hsome
  obtain ⟨t, t', hm'⟩ := mem_of_reading hnow'
  rw [hnow', (read_once hc hm hm').1]

/-! ### Own counters -/

omit hc in
/-- A request that has been counted comes next. -/
theorem turns_incr {own : ℕ → Bool} {H : CheckTrace ClientRequest} {k : String}
    {r : Except ValkeyError ℤ} {s s' : WebState} :
    turns own (.stmt i (.valkey (.incr k)) r s s' :: H) =
      if own i then i :: turns own H else turns own H := rfl

omit hc in
theorem turns_other {own : ℕ → Bool} {H : CheckTrace ClientRequest} {o : WebOp} {r : WebRet o}
    {s s' : WebState} (ho : ∀ k, o ≠ .valkey (.incr k)) :
    turns own (.stmt i o r s s' :: H) = turns own H := by
  cases o with
  | valkey q =>
    cases q with
    | incr k => exact absurd rfl (ho k)
    | _ => rfl
  | _ => rfl

omit hc in
theorem bucket_inj {endpoint ip ip' : String} :
    RateLimiter.bucket endpoint ip = RateLimiter.bucket endpoint ip' ↔ ip = ip' := by
  refine ⟨fun h => ?_, fun h => by rw [h]⟩
  have hlist := congrArg String.toList h
  simp only [RateLimiter.bucket, String.toList_append, List.append_cancel_right_eq,
    List.append_cancel_left_eq] at hlist
  exact String.toList_injective hlist

/-- The request has read the clock in window `w`. -/
def readIn (env : WebEnv) (w : ℕ) (reading : Option ℕ) : Bool :=
  reading.any fun now => decide (now / env.authRateLimitWindowSecs.toNat = w)

/-- **A client's counter counts its own requests**, where addresses identify clients. -/
theorem counted_eq_turns (hid : Identified c.history) {q : ClientRequest}
    (hq : .start i q ∈ c.history) (w : ℕ) :
    counted (RateLimiter.key (counterOf path q).endpoint (counterOf path q).ip w) c.history =
      (turns (isFrom q.client c.history) c.history).filter fun j => readIn env w (reading c.history j) := by
  have hgen : ∀ h : CheckTrace ClientRequest, h <:+ c.history →
      counted (RateLimiter.key (counterOf path q).endpoint (counterOf path q).ip w) h =
        (turns (isFrom q.client c.history) h).filter fun j => readIn env w (reading c.history j) := by
    intro h
    induction h with
    | nil => exact fun _ => rfl
    | cons e h ih =>
      intro hh
      have ih := ih ((List.suffix_cons _ _).trans hh)
      cases e with
      | start j q' => exact ih
      | done j x => exact ih
      | stmt j o r s s' =>
        by_cases ho : ∃ k, o = .valkey (.incr k)
        · obtain ⟨k, rfl⟩ := ho
          obtain ⟨q', hq', now, hlog, hk⟩ := check_asks hc hh
          have hq' := (Occurs.past hh).subset hq'
          have hnow : ⟨.systemTime, now⟩ ∈ localLog j h := by
            rw [hlog]
            exact List.mem_cons_self
          obtain ⟨t, t', hread⟩ := exists_stmt_of_mem_localLog hnow
          have hreading := reading_eq hc ((Occurs.past hh).subset hread)
          have hkey : k = RateLimiter.key (counterOf path q).endpoint (counterOf path q).ip w ↔
              q'.client = q.client ∧ now / env.authRateLimitWindowSecs.toNat = w := by
            rw [hk, Check.key, RateLimiter.key_inj, hid _ _ _ _ hq' hq]
            exact and_congr_left fun _ => bucket_inj
          have hown := isFrom_iff hc hq' q.client
          have hwindow : readIn env w (reading c.history j) = true ↔
              now / env.authRateLimitWindowSecs.toNat = w := by
            rw [hreading]
            exact decide_eq_true_iff
          rw [counted_incr, turns_incr, ih]
          by_cases hclient : q'.client = q.client
          · rw [if_pos (hown.2 hclient)]
            by_cases hw : now / env.authRateLimitWindowSecs.toNat = w
            · rw [if_pos (hkey.2 ⟨hclient, hw⟩)]
              simp only [List.filter_cons, hwindow.2 hw, if_true]
            · have hfalse : readIn env w (reading c.history j) = false :=
                Bool.eq_false_iff.2 fun h => hw (hwindow.1 h)
              rw [if_neg fun h => hw (hkey.1 h).2]
              simp only [List.filter_cons, hfalse, Bool.false_eq_true, if_false]
          · rw [if_neg fun h => hclient (hown.1 h), if_neg fun h => hclient (hkey.1 h).1]
        · have hne : ∀ k, o ≠ .valkey (.incr k) := fun k heq => ho ⟨k, heq⟩
          rw [counted_other (hne _), turns_other hne, ih]
  exact hgen c.history List.suffix_rfl

section Place

variable {α : Type} [DecidableEq α] {L : List α} {p : α → Bool}

omit hc in
/-- The rank in a part of a list is the number of later elements of the part. -/
theorem rank_filter {n : ℕ} {a : α} (ha : L[n]? = some a) (hp : p a = true) (hnodup : (L.filter p).Nodup) :
    rank (L.filter p) a = ((L.drop (n + 1)).filter p).length + 1 := by
  obtain ⟨hn, hget⟩ := List.getElem?_eq_some_iff.1 ha
  have hsplit : L = L.take n ++ a :: L.drop (n + 1) := by
    rw [← hget, List.cons_getElem_drop_succ, List.take_append_drop]
  have hfilter : L.filter p = (L.take n).filter p ++ a :: (L.drop (n + 1)).filter p := by
    rw [← List.filter_cons_of_pos hp, ← List.filter_append, ← hsplit]
  rw [hfilter] at hnodup ⊢
  have hnotMem : a ∉ (L.take n).filter p :=
    fun hm => (List.disjoint_of_nodup_append hnodup) hm List.mem_cons_self
  rw [rank_append hnotMem, rank_cons_self]

end Place

/-! ### The limit per client -/

section Limit

variable (hW : 0 < env.authRateLimitWindowSecs.toNat) (hW' : env.authRateLimitWindowSecs.toNat < 2 ^ 62)

include hW hW'

/-- **The result of a client's request** depends on when it and the client's earlier requests have read
the clock. -/
theorem result_view (hid : Identified c.history) {client n : ℕ} {x : Except ℕ ℕ}
    (hn : (turns (isFrom client c.history) c.history)[n]? = some i)
    (hclient : isFrom client c.history i = true) (hdone : .done i x ∈ c.history) :
    ∃ now, (view client c.history)[n]? = some (some now) ∧ x = verdict env now
      (((view client c.history).drop (n + 1)).countP
        (readIn env (now / env.authRateLimitWindowSecs.toNat)) + 1) := by
  obtain ⟨q, now, s, s', hq, hread, hmem, hx⟩ := check_result hW hW' hc hdone
  have hreading := reading_eq hc hread
  obtain rfl := (isFrom_iff hc hq client).1 hclient
  have hcounted := counted_eq_turns hc hid hq (now / env.authRateLimitWindowSecs.toNat)
  have hnodup := counted_once hc ((counterOf path q).key env now)
  rw [Check.key, hcounted] at hnodup hx
  have hself : readIn env (now / env.authRateLimitWindowSecs.toNat) (reading c.history i) = true := by
    rw [hreading]
    exact decide_eq_true rfl
  refine ⟨now, ?_, ?_⟩
  · rw [view, List.getElem?_map, hn, ← hreading]
    rfl
  · rw [hx, rank_filter hn hself hnodup, view, ← List.map_drop, List.countP_map,
      List.countP_eq_length_filter]
    rfl

omit hc hW hW' in
theorem mem_turns {own : ℕ → Bool} {H : CheckTrace ClientRequest} (h : i ∈ turns own H) : own i = true := by
  induction H with
  | nil => cases h
  | cons e H ih =>
    cases e with
    | start j q => exact ih h
    | done j x => exact ih h
    | stmt j o r s s' =>
      by_cases ho : ∃ k, o = .valkey (.incr k)
      · obtain ⟨k, rfl⟩ := ho
        rw [turns_incr] at h
        by_cases hown : own j = true
        · rw [if_pos hown] at h
          rcases List.mem_cons.1 h with rfl | h
          · exact hown
          · exact ih h
        · rw [if_neg hown] at h
          exact ih h
      · rw [turns_other fun k heq => ho ⟨k, heq⟩] at h
        exact ih h

/-- Where addresses identify clients, no client exceeds the limit. -/
theorem bounded_of_identified (hid : Identified c.history) (client : ℕ) :
    Bounded client c.history env := by
  intro w
  by_cases hsome : ∃ i q, .start i q ∈ c.history ∧ q.client = client
  · obtain ⟨i, q, hq, rfl⟩ := hsome
    have hsubset : {i | isFrom q.client c.history i = true ∧
        (reading c.history i).map (· / env.authRateLimitWindowSecs.toNat) = some w ∧
          IsAdmitted c.history i} ⊆
        {i | InWindow env (counterOf path) c.history (counterOf path q) w i ∧ IsAdmitted c.history i} := by
      rintro j ⟨hfrom, hwindow, hadmitted⟩
      obtain ⟨q', hq', hclient⟩ := start_of_isFrom hfrom
      obtain ⟨now, hnow, hw⟩ := Option.map_eq_some_iff.1 hwindow
      obtain ⟨s, s', hread⟩ := mem_of_reading hnow
      have hip : (counterOf path q').ip = (counterOf path q).ip := (hid _ _ _ _ hq' hq).1 hclient
      exact ⟨⟨q', now, s, s', hq', bucket_inj.2 hip, hread, hw⟩, hadmitted⟩
    exact (Set.ncard_le_ncard hsubset (finite_admitted hW hW' hc _ w)).trans
      (admission hW hW' hc (counterOf path q) w).bounded
  · have hempty : {i | isFrom client c.history i = true ∧
        (reading c.history i).map (· / env.authRateLimitWindowSecs.toNat) = some w ∧
          IsAdmitted c.history i} = ∅ := by
      ext j
      refine ⟨fun ⟨hfrom, _⟩ => ?_, fun h => h.elim⟩
      obtain ⟨q, hq, hclient⟩ := start_of_isFrom hfrom
      exact hsome ⟨j, q, hq, hclient⟩
    rw [hempty, Set.ncard_empty]
    exact Nat.zero_le _

/-- **The limit per client.**  Where the addresses that are extracted from the headers identify clients,
no client exceeds the limit, and no client's requests affect those of another. -/
theorem limit_per_client {clock' : ℕ} {c' : Pool WebOp WebRet ClientRequest (Except ℕ ℕ) WebState}
    (hc' : (timelyChecks env (counterOf path)).Reachable (.fresh clock') c')
    (hid : Identified c.history) (hid' : Identified c'.history) :
    PerClient env c.history c'.history := by
  refine ⟨bounded_of_identified hc hW hW' hid, fun client hview n i i' x x' hn hn' hdone hdone' => ?_⟩
  have hmem := mem_turns (List.mem_of_getElem? hn)
  have hmem' := mem_turns (List.mem_of_getElem? hn')
  obtain ⟨now, hnow, hx⟩ := result_view hc hW hW' hid hn hmem hdone
  obtain ⟨now', hnow', hx'⟩ := result_view hc' hW hW' hid' hn' hmem' hdone'
  rw [← hview, hnow] at hnow'
  obtain rfl := Option.some.inj (Option.some.inj hnow')
  rw [hx, hx', hview]

end Limit

end Runs

/-! ### Concrete clients -/

/-- A client that reaches the server directly, and adds no headers. -/
def plainly (client : ℕ) : ClientRequest := ⟨client, ⟨none, none⟩⟩

/-- A client that names the address it wants to be counted for. -/
def naming (client : ℕ) (ip : String) : ClientRequest := ⟨client, ⟨some ip, none⟩⟩

/-- Serve requests to the login one after another, where at most one request a minute is allowed. -/
def countAll (requests : List (ClientRequest × ℕ)) :
    Option (Pool WebOp WebRet ClientRequest (Except ℕ ℕ) WebState) :=
  System.play (timelyChecks demoWeb (counterOf "/auth/login")).handler (fun _ _ => checkExec demoWeb)
    (requests.map (fun x => .start x.1) ++ (requests.zipIdx.flatMap fun x => goes x.2 x.1.2)) (.init (.fresh 0))

theorem countAll_reachable {requests : List (ClientRequest × ℕ)}
    {c : Pool WebOp WebRet ClientRequest (Except ℕ ℕ) WebState} (h : countAll requests = some c) :
    (timelyChecks demoWeb (counterOf "/auth/login")).Reachable (.fresh 0) c := by
  have hsem : ∀ {H i o s r s'}, checkExec demoWeb o s = some (r, s') →
      (timelyChecks demoWeb (counterOf "/auth/login")).sem H i o s r s' := fun h => checkExec_sound h
  exact System.Reachable.play hsem .init h

/-- The requests of a history. -/
def requestsOf (H : CheckTrace ClientRequest) : List ClientRequest := H.filterMap fun
  | .start _ q => some q
  | _ => none

theorem identified_of_requests {H : CheckTrace ClientRequest}
    (h : ∀ q ∈ requestsOf H, ∀ q' ∈ requestsOf H,
      (q.client = q'.client ↔ extractClientIp q.headers = extractClientIp q'.headers)) :
    Identified H := by
  intro i j q q' hq hq'
  exact h q (List.mem_filterMap.2 ⟨_, hq, rfl⟩) q' (List.mem_filterMap.2 ⟨_, hq', rfl⟩)

/-- Two clients with addresses of their own: one passes after the other as it does alone. -/
theorem limit_per_client_of_two : ∃ c c',
    (timelyChecks demoWeb (counterOf "/auth/login")).Reachable (.fresh 0) c ∧
    (timelyChecks demoWeb (counterOf "/auth/login")).Reachable (.fresh 0) c' ∧
    outcome 0 c.history = some (.ok 0) ∧ outcome 1 c'.history = some (.ok 0) ∧
    PerClient demoWeb c.history c'.history := by
  have hplay : (countAll [(naming 7 "192.0.2.7", 3)]).map
      (fun c => (outcome 0 c.history, requestsOf c.history)) =
        some (some (.ok 0), [naming 7 "192.0.2.7"]) := by
    decide +kernel
  have hplay' : (countAll [(naming 8 "192.0.2.8", 3), (naming 7 "192.0.2.7", 3)]).map
      (fun c => (outcome 1 c.history, requestsOf c.history)) =
        some (some (.ok 0), [naming 7 "192.0.2.7", naming 8 "192.0.2.8"]) := by
    decide +kernel
  obtain ⟨c, hc, hobs⟩ := Option.map_eq_some_iff.1 hplay
  obtain ⟨c', hc', hobs'⟩ := Option.map_eq_some_iff.1 hplay'
  obtain ⟨hresult, hrequests⟩ := Prod.mk.inj hobs
  obtain ⟨hresult', hrequests'⟩ := Prod.mk.inj hobs'
  have hid : Identified c.history := identified_of_requests (by rw [hrequests]; decide)
  have hid' : Identified c'.history := identified_of_requests (by rw [hrequests']; decide)
  exact ⟨c, c', countAll_reachable hc, countAll_reachable hc', hresult, hresult',
    limit_per_client (countAll_reachable hc) (by decide) (by decide) (countAll_reachable hc') hid hid'⟩

/-- Finitely many requests finish. -/
theorem finite_done (H : CheckTrace ClientRequest) : {i | ∃ x, .done i x ∈ H}.Finite := by
  refine (List.finite_toSet (H.filterMap fun | .done i _ => some i | _ => none)).subset ?_
  rintro i ⟨x, hdone⟩
  exact List.mem_filterMap.2 ⟨_, hdone, rfl⟩

/-- **The limit is not one per client.**  A client that names another address for each request passes
every time; and a client that names none is refused because another has come before it. -/
theorem limited_together :
    (∃ c, (timelyChecks demoWeb (counterOf "/auth/login")).Reachable (.fresh 0) c ∧
      ¬ Bounded 7 c.history demoWeb) ∧
    ∃ c c', (timelyChecks demoWeb (counterOf "/auth/login")).Reachable (.fresh 0) c ∧
      (timelyChecks demoWeb (counterOf "/auth/login")).Reachable (.fresh 0) c' ∧
      view 7 c.history = view 7 c'.history ∧ ¬ SameOutcomes 7 c.history c'.history := by
  constructor
  · have hplay : (countAll [(naming 7 "192.0.2.1", 3), (naming 7 "192.0.2.2", 3)]).map
        (fun c => ((outcome 0 c.history, outcome 1 c.history),
          (isFrom 7 c.history 0, isFrom 7 c.history 1), reading c.history 0, reading c.history 1)) =
          some ((some (.ok 0), some (.ok 0)), (true, true), some 0, some 0) := by
      decide +kernel
    obtain ⟨c, hc, hobs⟩ := Option.map_eq_some_iff.1 hplay
    simp only [Prod.mk.injEq] at hobs
    obtain ⟨⟨hout, hout'⟩, ⟨hfrom, hfrom'⟩, hread, hread'⟩ := hobs
    refine ⟨c, countAll_reachable hc, fun hbounded => ?_⟩
    have hpass : {0, 1} ⊆ {i | isFrom 7 c.history i = true ∧
        (reading c.history i).map (· / demoWeb.authRateLimitWindowSecs.toNat) = some 0 ∧
          IsAdmitted c.history i} := by
      rintro i (rfl | rfl)
      · exact ⟨hfrom, by rw [hread]; rfl, _, done_mem_of_outcome hout⟩
      · exact ⟨hfrom', by rw [hread']; rfl, _, done_mem_of_outcome hout'⟩
    have hle := (Set.ncard_le_ncard hpass ((finite_done c.history).subset fun i hi => ?_)).trans
      (hbounded 0)
    · rw [Set.ncard_pair (by decide)] at hle
      exact absurd hle (by decide)
    · obtain ⟨-, -, remaining, hdone⟩ := hi
      exact ⟨_, hdone⟩
  · have hplay : (countAll [(plainly 7, 3)]).map (fun c => (outcome 0 c.history,
        turns (isFrom 7 c.history) c.history, view 7 c.history)) = some (some (.ok 0), [0], [some 0]) := by
      decide +kernel
    have hplay' : (countAll [(plainly 8, 3), (plainly 7, 2)]).map (fun c => (outcome 1 c.history,
        turns (isFrom 7 c.history) c.history, view 7 c.history)) =
          some (some (.error 60), [1], [some 0]) := by
      decide +kernel
    obtain ⟨c, hc, hobs⟩ := Option.map_eq_some_iff.1 hplay
    obtain ⟨c', hc', hobs'⟩ := Option.map_eq_some_iff.1 hplay'
    simp only [Prod.mk.injEq] at hobs hobs'
    obtain ⟨hout, hturns, hview⟩ := hobs
    obtain ⟨hout', hturns', hview'⟩ := hobs'
    refine ⟨c, c', countAll_reachable hc, countAll_reachable hc', hview.trans hview'.symm, fun hsame => ?_⟩
    have heq := hsame 0 0 1 (.ok 0) (.error 60) (by rw [hturns]; rfl) (by rw [hturns']; rfl)
      (done_mem_of_outcome hout) (done_mem_of_outcome hout')
    cases heq

end Socle
