import Socle.Limits.Arithmetic
import Socle.Limits.Clients

/-!
# Retry-After

A refused check tells its client when to come back.

* `Check.Routed`: the checks of the middleware;
* `ReadsClock`, `countedIn`: who has come when, and who has been counted;
* `RetryExact`: until then every further check is refused, and from then on the first checks of each
  window are admitted;
* `retry_after_exact`: that holds for every refusal of every run.
-/

namespace Socle

open Interaction Prog System Valkey

variable {Req : Type}

/-- A check that the middleware makes for a request to a path behind the rate limiter. -/
def Check.Routed (q : Check) : Prop :=
  ∃ method path ip, RateLimiter.IsMethod method ∧ path ∈ limitedPaths ∧
    q = ⟨endpointKey method path, ip⟩

/-- Such checks share their counters only if they agree. -/
theorem Check.Routed.eq_of_bucket {q q' : Check} (hq : q.Routed) (hq' : q'.Routed)
    (h : RateLimiter.bucket q.endpoint q.ip = RateLimiter.bucket q'.endpoint q'.ip) : q = q' := by
  obtain ⟨method, path, ip, hmethod, hpath, rfl⟩ := hq
  obtain ⟨method', path', ip', hmethod', hpath', rfl⟩ := hq'
  obtain ⟨hlower, rfl, rfl⟩ := RateLimiter.bucket_inj_of_method hmethod hmethod' hpath hpath' h
  rw [endpointKey, hlower, endpointKey]

/-- Request `j` is a check of the endpoint and the address of `q`, and has read the clock after `h`. -/
def ReadsClock (who : Req → Check) (H h : CheckTrace Req) (q : Check) (j now : ℕ) : Prop :=
  ∃ q' s s', .start j q' ∈ H ∧ who q' = q ∧ Occurs H h (.stmt j .systemTime now s s')

/-- The checks of the endpoint and the address of `q` in window `w` that have been counted. -/
def countedIn (env : WebEnv) (who : Req → Check) (H : CheckTrace Req) (q : Check) (w : ℕ) : Set ℕ :=
  {j | (∃ h now, ReadsClock who H h q j now ∧ now / env.authRateLimitWindowSecs.toNat = w) ∧
    ∃ k r s s', .stmt j (.valkey (.incr k)) r s s' ∈ H}

/-- Check `i` of the endpoint and the address of `q`, made at the time `now`, has been refused for `r`
seconds, and that is exact. -/
structure RetryExact (env : WebEnv) (who : Req → Check) (H : CheckTrace Req) (q : Check)
    (i now r : ℕ) : Prop where
  /-- Every further check before `now + r` is refused. -/
  refused : ∀ j h now' x, ReadsClock who H h q j now' → .done i (.error r) ∈ h → now' < now + r →
    .done j x ∈ H → ∃ r', x = .error r'
  /-- From `now + r` on, the first `max_requests` checks of each window are admitted. -/
  admitted : ∀ j h now' x, ReadsClock who H h q j now' → now + r ≤ now' → .done j x ∈ H →
    (∀ h' k n s s', Occurs H h' (.stmt j (.valkey (.incr k)) n s s') →
      (countedIn env who h' q (now' / env.authRateLimitWindowSecs.toNat)).ncard <
        env.authRateLimitMax.toNat) → ∃ remaining, x = .ok remaining

variable {env : WebEnv} {who : Req → Check} {clock : ℕ}
  {c : Pool WebOp WebRet Req (Except ℕ ℕ) WebState} {h h' : CheckTrace Req} {i j now now' w : ℕ}
  {q : Check}

section Runs

variable (hc : (timelyChecks env who).Reachable (.fresh clock) c)

include hc

/-- A check reads the clock before it is counted. -/
theorem read_before_incr {s s' t t' : WebState} {k : String} {n : Except ValkeyError ℤ}
    (he : Occurs c.history h (.stmt j .systemTime now s s'))
    (hincr : Occurs c.history h' (.stmt j (.valkey (.incr k)) n t t')) :
    Occurs h' h (.stmt j .systemTime now s s') := by
  rcases he.total hincr with ⟨heq, -⟩ | hlt | hlt
  · cases heq
  · obtain ⟨q, -, hlog⟩ := check_asks hc he
    have hlog : localLog j h = [] := hlog
    have hold := mem_localLog_of_stmt hlt.mem
    rw [hlog] at hold
    cases hold
  · exact hlt

/-- The checks counted in a window are those whose counter it is. -/
theorem countedIn_eq (hwho : ∀ q, (who q).Routed) (hh : h <:+ c.history) (hq : q.Routed) :
    countedIn env who h q w = {j | j ∈ counted (RateLimiter.key q.endpoint q.ip w) h} := by
  ext j
  constructor
  · rintro ⟨⟨past, now, ⟨q', s, s', hq', rfl, hread⟩, rfl⟩, k, r, t, t', hm⟩
    obtain ⟨past', hincr⟩ := exists_occurs hm
    obtain ⟨q'', hq'', now', hlog, hk⟩ := check_asks hc (hincr.of_suffix hh)
    have hnow' : ⟨.systemTime, now'⟩ ∈ localLog j past' := by
      rw [hlog]
      exact List.mem_cons_self
    obtain ⟨u, u', hread'⟩ := exists_stmt_of_mem_localLog hnow'
    obtain rfl := hc.numbered.start_unique (hh.subset hq') (hh.subset (hincr.past.subset hq''))
    obtain ⟨rfl, -⟩ :=
      read_once hc (hh.subset hread.mem) (hh.subset (hincr.past.subset hread'))
    rw [hk] at hm
    exact mem_counted.2 ⟨r, t, t', hm⟩
  · intro hj
    obtain ⟨r, s, s', hm⟩ := mem_counted.1 hj
    obtain ⟨past, hincr⟩ := exists_occurs hm
    obtain ⟨q', hq', now, hlog, hk⟩ := check_asks hc (hincr.of_suffix hh)
    obtain ⟨hbucket, rfl⟩ := RateLimiter.key_inj.1 hk
    have hnow : ⟨.systemTime, now⟩ ∈ localLog j past := by
      rw [hlog]
      exact List.mem_cons_self
    obtain ⟨t, t', hread⟩ := exists_stmt_of_mem_localLog hnow
    obtain ⟨past', hread⟩ := exists_occurs (hincr.past.subset hread)
    exact ⟨⟨past', now, ⟨q', t, t', hincr.past.subset hq', ((hwho q').eq_of_bucket hq hbucket.symm),
      hread⟩, rfl⟩, _, r, s, s', hm⟩

variable (hW : 0 < env.authRateLimitWindowSecs.toNat)
  (hW' : env.authRateLimitWindowSecs.toNat < 2 ^ 62)

include hW hW'

/-- A finished check has been counted, and its result is the verdict on its place. -/
theorem finished_check {x : Except ℕ ℕ} (hread : ReadsClock who c.history h q j now)
    (hdone : .done j x ∈ c.history) : ∃ h' n s s',
      Occurs c.history h' (.stmt j (.valkey (.incr (q.key env now))) n s s') ∧
        x = verdict env now ((counted (q.key env now) h').length + 1) := by
  obtain ⟨q', s, s', hq', rfl, hread⟩ := hread
  obtain ⟨q'', now', t, t', hq'', hread', hmem, hx⟩ := check_result hW hW' hc hdone
  obtain rfl := hc.numbered.start_unique hq' hq''
  obtain ⟨rfl, -⟩ := read_once hc hread.mem hread'
  obtain ⟨n, u, u', hm⟩ := mem_counted.1 hmem
  obtain ⟨h', hincr⟩ := exists_occurs hm
  exact ⟨h', n, u, u', hincr, by rw [hx, rank_counted hc hincr]⟩

/-- **Retry-After is exact.**  After a refusal at the time `now` for `r` seconds, every further check of
the endpoint and the address before `now + r` is refused, and from then on the first checks of each window
are admitted, up to the limit. -/
theorem retry_after_exact (hwho : ∀ q, (who q).Routed) {r : ℕ}
    (hread : ReadsClock who c.history h q i now) (hdone : .done i (.error r) ∈ c.history) :
    RetryExact env who c.history q i now r := by
  obtain ⟨hi, n, s, s', hincr, hx⟩ := finished_check hc hW hW' hread hdone
  have hplace := lt_of_verdict_eq_error hx.symm
  -- The refusal ends with the window.
  have hr : r = timeLeft env now := by
    rw [verdict_eq_error hplace] at hx
    have hpos := timeLeft_pos hW now
    have heq := Except.error.inj hx
    omega
  subst hr
  refine ⟨fun j h' now' x hread' hafter hlt hdone' => ?_, fun j h' now' x hread' hle hdone' hfirst => ?_⟩
  · obtain ⟨hj, m, t, t', hincr', rfl⟩ := finished_check hc hW hW' hread' hdone'
    obtain ⟨q', u, u', hq', -, hocc⟩ := hread
    obtain ⟨q'', v, v', hq'', -, hocc'⟩ := hread'
    -- The further check comes in the same window.
    obtain ⟨past, hbefore⟩ := hc.stmt_before_done hocc' hafter hocc.mem
    have hclock := check_ordered hc hocc' hbefore.mem
    have hnow := (check_stmt hc hocc.mem).systemTime_eq.1
    have hnow' := (check_stmt hc hocc'.mem).systemTime_eq.1
    have hwindow : now' / env.authRateLimitWindowSecs.toNat = now / env.authRateLimitWindowSecs.toNat := by
      have hle : now ≤ now' := by
        rw [hnow, hnow']
        exact Nat.div_le_div_right hclock
      have hpos := timeLeft_pos hW now
      have hend : now' / env.authRateLimitWindowSecs.toNat <
          now / env.authRateLimitWindowSecs.toNat + 1 := by
        refine (Nat.div_lt_iff_lt_mul hW).2 ?_
        unfold timeLeft at hlt hpos
        omega
      exact Nat.le_antisymm (Nat.lt_succ_iff.1 hend) (Nat.div_le_div_right hle)
    have hkey : q.key env now' = q.key env now := by rw [Check.key, hwindow, Check.key]
    -- There it is counted after the refused one.
    obtain ⟨past', hcounted⟩ := hc.stmt_before_done hocc' hafter hincr.mem
    have hlater : Occurs hj past' (.stmt i (.valkey (.incr (q.key env now))) n s s') :=
      (read_before_incr hc hocc' hincr').trans hcounted
    have hsame := (rank_counted hc (hcounted.of_suffix hocc'.past)).symm.trans (rank_counted hc hincr)
    have hsuffix := (counted_suffix (k := q.key env now) hlater).length_le
    rw [counted_incr, if_pos rfl, List.length_cons] at hsuffix
    rw [hkey]
    exact ⟨_, verdict_eq_error (by omega)⟩
  · obtain ⟨hj, m, t, t', hincr', rfl⟩ := finished_check hc hW hW' hread' hdone'
    have hfew := hfirst _ _ _ _ _ hincr'
    obtain ⟨q', u, u', -, rfl, -⟩ := hread'
    rw [countedIn_eq hc hwho hincr'.past (hwho q'),
      ncard_mem ((counted_suffix hincr'.past).sublist.nodup (counted_once hc _))] at hfew
    exact ⟨_, verdict_eq_ok.2 ⟨hfew, rfl⟩⟩

end Runs

/-! ### Concrete checks -/

theorem counterOf_routed {path : String} (hpath : path ∈ limitedPaths) (q : ClientRequest) :
    (counterOf path q).Routed := ⟨"POST", path, extractClientIp q.headers, by decide, hpath, rfl⟩

/-- Play checks of requests to the login, without failures. -/
def playChecks (moves : List (Move ClientRequest)) :
    Pool WebOp WebRet ClientRequest (Except ℕ ℕ) WebState →
      Option (Pool WebOp WebRet ClientRequest (Except ℕ ℕ) WebState) :=
  System.play (timelyChecks demoWeb (counterOf "/auth/login")).handler (fun _ _ => checkExec demoWeb) moves

/-- Wait until a time. -/
def waitUntil (time : ℕ) (c : Pool WebOp WebRet ClientRequest (Except ℕ ℕ) WebState) :
    Pool WebOp WebRet ClientRequest (Except ℕ ℕ) WebState :=
  { c with state := { c.state with app := { c.state.app with clock := max c.state.app.clock time } } }

theorem playChecks_reachable {moves : List (Move ClientRequest)}
    {c c' : Pool WebOp WebRet ClientRequest (Except ℕ ℕ) WebState}
    (hc : (timelyChecks demoWeb (counterOf "/auth/login")).Reachable (.fresh clock) c)
    (h : playChecks moves c = some c') :
    (timelyChecks demoWeb (counterOf "/auth/login")).Reachable (.fresh clock) c' := by
  have hsem : ∀ {H i o s r s'}, checkExec demoWeb o s = some (r, s') →
      (timelyChecks demoWeb (counterOf "/auth/login")).sem H i o s r s' := fun h => checkExec_sound h
  exact hc.play hsem h

theorem waitUntil_reachable {c : Pool WebOp WebRet ClientRequest (Except ℕ ℕ) WebState}
    (hc : (timelyChecks demoWeb (counterOf "/auth/login")).Reachable (.fresh clock) c) (time : ℕ) :
    (timelyChecks demoWeb (counterOf "/auth/login")).Reachable (.fresh clock) (waitUntil time c) :=
  hc.step (.tick ⟨_, le_max_left _ _, rfl⟩)

/-- Where one request a minute is allowed, a client is refused for a minute, and passes when it has
waited so long. -/
theorem retry_after_exact_of_client : ∃ c,
    (timelyChecks demoWeb (counterOf "/auth/login")).Reachable (.fresh 0) c ∧
    [0, 1, 2].map (fun i => outcome i c.history) = [some (.ok 0), some (.error 60), some (.ok 0)] ∧
    RetryExact demoWeb (counterOf "/auth/login") c.history (counterOf "/auth/login" (plainly 7)) 1 0 60 := by
  have hplay : ((playChecks (.start (plainly 7) :: goes 0 3 ++ .start (plainly 7) :: goes 1 2)
      (.init (.fresh 0))).bind fun c =>
        playChecks (.start (plainly 7) :: goes 2 3) (waitUntil 60000000 c)).map
      (fun c => ([0, 1, 2].map fun i => outcome i c.history, reading c.history 1, asked 1 c.history)) =
      some ([some (.ok 0), some (.error 60), some (.ok 0)], some 0, some (plainly 7)) := by
    decide +kernel
  obtain ⟨c, hc, hobs⟩ := Option.map_eq_some_iff.1 hplay
  obtain ⟨c₁, hc₁, hc⟩ := Option.bind_eq_some_iff.1 hc
  obtain ⟨houtcomes, hrest⟩ := Prod.mk.inj hobs
  obtain ⟨hreading, hasked⟩ := Prod.mk.inj hrest
  have hreach := playChecks_reachable (waitUntil_reachable (playChecks_reachable .init hc₁) 60000000) hc
  obtain ⟨s, s', hm⟩ := mem_of_reading hreading
  obtain ⟨h, hocc⟩ := exists_occurs hm
  exact ⟨c, hreach, houtcomes, retry_after_exact hreach (by decide) (by decide)
    (counterOf_routed (by decide)) ⟨_, s, s', start_mem_of_asked hasked, rfl, hocc⟩
    (done_mem_of_outcome (List.cons.inj (List.cons.inj houtcomes).2).1)⟩

end Socle
