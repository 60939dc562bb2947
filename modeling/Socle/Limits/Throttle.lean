import Socle.Flow.Store

/-!
# The rate limit of the service

The middleware counts in the store that authorizations and exchange codes share, while requests of all routes
are served.

* `timelyWeb`: no command of the rate limiter fails, and no check takes longer than a window;
* `checkTrace`: a history as the counters see it;
* `counters_sound`: the counter of a window holds the number of its requests, whatever else is stored;
* `web_replied_rank`: each request is told its place among the requests of its window;
* `Throttled`, `throttled`: no more requests of one path and address get past the limiter than the limit
  allows, and nobody is refused for the requests of others.
-/

namespace Socle

open Interaction Prog Valkey

/-- No command of the rate limiter fails, and every check finishes within a window's length after its clock
reading. -/
def timelyWeb (env : WebEnv) : System WebOp WebRet WebRequest (Except WebError WebResponse) WebState :=
  (web env).restrict fun H i o s r => o.counts = true → Answered ⟨o, r⟩ ∧
    ∀ now t t', .stmt i .systemTime now t t' ∈ H → s.app.clock ≤ t.app.clock + windowMicros env

/-- Request `i` has this check and has read the clock in window `w`. -/
def ChecksIn (env : WebEnv) (H : WebTrace) (check : Check) (w i : ℕ) : Prop :=
  ∃ q now s s', .start i q ∈ H ∧ q.check = some check ∧ .stmt i .systemTime now s s' ∈ H ∧
    now / env.authRateLimitWindowSecs.toNat = w

/-- Request `i` has this check and has read the clock less than a window's length after `t`. -/
def ChecksDuring (env : WebEnv) (H : WebTrace) (check : Check) (t i : ℕ) : Prop :=
  ∃ q now s s', .start i q ∈ H ∧ q.check = some check ∧ .stmt i .systemTime now s s' ∈ H ∧
    t ≤ s.app.clock ∧ s.app.clock < t + windowMicros env

/-- Request `i` has done something behind the rate limiter, or has succeeded. -/
def GetsPast (H : WebTrace) (i : ℕ) : Prop :=
  (∃ o r s s', .stmt i o r s s' ∈ H ∧ o.counts = false) ∨ ∃ x, .done i (.ok x) ∈ H

/-! ### Histories as the counters see them -/

/-- The starts and the statements of a history. -/
def checkTrace : WebTrace → CheckTrace WebRequest
  | [] => []
  | .start i q :: H => .start i q :: checkTrace H
  | .stmt i o r s s' :: H => .stmt i o r s s' :: checkTrace H
  | .done _ _ :: H => checkTrace H

section checkTrace

variable {H h : WebTrace} {i : ℕ} {k : String}

@[simp] theorem checkTrace_stmt {o : WebOp} {r : WebRet o} {s s' : WebState} :
    checkTrace (.stmt i o r s s' :: H) = .stmt i o r s s' :: checkTrace H := rfl

theorem stmt_mem_checkTrace {o : WebOp} {r : WebRet o} {s s' : WebState} :
    .stmt i o r s s' ∈ checkTrace H ↔ .stmt i o r s s' ∈ H := by
  induction H with
  | nil => simp [checkTrace]
  | cons e H ih =>
    cases e with
    | start j q => simp [checkTrace, ih]
    | done j x => simp [checkTrace, ih]
    | stmt j o' r' t t' =>
      rw [checkTrace_stmt, List.mem_cons, List.mem_cons, ih]
      refine or_congr_left ⟨?_, ?_⟩
      · rintro ⟨⟩
        rfl
      · rintro ⟨⟩
        rfl

theorem checkTrace_suffix (hh : h <:+ H) : checkTrace h <:+ checkTrace H := by
  obtain ⟨l, rfl⟩ := hh
  induction l with
  | nil => exact List.suffix_rfl
  | cons e l ih =>
    cases e with
    | done j x => exact ih
    | _ => exact ih.trans (List.suffix_cons _ _)

/-- Who has increased a counter. -/
theorem mem_counted_web : i ∈ counted k (checkTrace H) ↔
    ∃ r s s', .stmt i (.valkey (.incr k)) r s s' ∈ H := by
  rw [mem_counted]
  simp only [stmt_mem_checkTrace]

end checkTrace

variable {env : WebEnv}

/-- The requests that are checked are those of limited paths. -/
theorem WebRequest.check_path {q : WebRequest} {check : Check} (h : q.check = some check) :
    ∃ path ∈ limitedPaths, check.endpoint = endpointKey "POST" path := by
  have hpath : ∀ {headers path}, path ∈ limitedPaths → some (checkOf headers path) = some check →
      ∃ path ∈ limitedPaths, check.endpoint = endpointKey "POST" path := by
    rintro headers path hpath ⟨⟩
    exact ⟨path, hpath, rfl⟩
  cases q with
  | api headers q direct =>
    cases q with
    | login => exact hpath (by decide) h
    | register => exact hpath (by decide) h
    | refresh => exact hpath (by decide) h
    | _ => cases h
  | session headers code => exact hpath (by decide) h
  | authorize => cases h
  | callback => cases h

/-- Requests share a counter only if path and address agree. -/
theorem check_eq_of_bucket {q q' : WebRequest} {check check' : Check} (h : q.check = some check)
    (h' : q'.check = some check')
    (hbucket : RateLimiter.bucket check.endpoint check.ip = RateLimiter.bucket check'.endpoint check'.ip) :
    check = check' := by
  obtain ⟨path, hpath, hendpoint⟩ := q.check_path h
  obtain ⟨path', hpath', hendpoint'⟩ := q'.check_path h'
  rw [hendpoint, hendpoint'] at hbucket
  obtain ⟨rfl, hip⟩ := RateLimiter.bucket_injective hpath hpath' hbucket
  cases check
  cases check'
  simp_all

/-- What a check asks for belongs to the rate limiter, unless it panics. -/
theorem Check.Asks.counts {check : Check} {log : Log WebOp WebRet} {o : WebOp} (h : check.Asks env log o)
    (r : WebRet o) : o.counts = true := by
  cases o with
  | systemTime => rfl
  | app o =>
    cases o with
    | abort => exact (r : Empty).elim
    | _ => exact h.elim
  | valkey command =>
    cases command with
    | incr | expire => rfl
    | setEx | getDel => exact h.elim
  | _ => exact h.elim

theorem Checked.counts {check : Check} {log : Log WebOp WebRet} {x : Except ℕ ℕ} (h : Checked env check log x)
    {y : (o : WebOp) × WebRet o} (hy : y ∈ log) : y.1.counts = true := by
  cases h with
  | uncounted | negative | counted =>
    simp only [List.mem_cons, List.not_mem_nil, or_false] at hy
    rcases hy with rfl | rfl
    · rfl
    · rfl
  | unexpired | first =>
    simp only [List.mem_cons, List.not_mem_nil, or_false] at hy
    rcases hy with rfl | rfl | rfl
    · rfl
    · rfl
    · rfl

/-! ### Runs -/

section Runs

variable {clock : ℕ} {c : Pool WebOp WebRet WebRequest (Except WebError WebResponse) WebState} {h : WebTrace}
  {i w : ℕ} {s s' : WebState} {check : Check}

section Reachable

variable {s₀ : WebState} (hc : (timelyWeb env).Reachable s₀ c)

include hc

/-- A statement of the rate limiter belongs to the check of its request. -/
theorem counts_asks {o : WebOp} {r : WebRet o} (he : Occurs c.history h (.stmt i o r s s'))
    (ho : o.counts = true) : ∃ q check, .start i q ∈ h ∧ q.check = some check ∧
      check.Asks env (localLog i h) o := by
  obtain ⟨q, hq, ⟨check, hcheck, hasks⟩ | ⟨-, hfree⟩⟩ := hc.of_restrict.at_stmt webHandle_gated he
  · exact ⟨q, check, hq, hcheck, hasks⟩
  · rw [ho] at hfree
    cases hfree

/-- Statements of the rate limiter do not fail, and are not late. -/
theorem counts_timely {o : WebOp} {r : WebRet o} (he : Occurs c.history h (.stmt i o r s s'))
    (ho : o.counts = true) : Answered ⟨o, r⟩ ∧
      ∀ now t t', .stmt i .systemTime now t t' ∈ h → s.app.clock ≤ t.app.clock + windowMicros env :=
  (hc.sem_of_stmt he).2 ho

/-- A request that has read the clock is counted within the next two windows' lengths. -/
theorem counts_clock (hW : 0 < env.authRateLimitWindowSecs.toNat) {o : WebOp} {r : WebRet o}
    (he : Occurs c.history h (.stmt i o r s s')) (ho : o.counts = true) {now : ℕ}
    (hnow : ⟨.systemTime, now⟩ ∈ localLog i h) :
    let w := now / env.authRateLimitWindowSecs.toNat
    w * windowMicros env ≤ s.app.clock ∧ s.app.clock < (w + 2) * windowMicros env := by
  obtain ⟨t, t', hm⟩ := exists_stmt_of_mem_localLog hnow
  have hread := (web_stmt hc.of_restrict (he.past.subset hm)).systemTime_eq.1
  obtain ⟨hlow, hhigh⟩ := window_bounds hW t.app.clock
  rw [← hread] at hlow hhigh
  have hlate := (counts_timely hc he ho).2 now t t' hm
  have hearly := web_clock hc.of_restrict he hm
  rw [Nat.add_mul, Nat.one_mul] at hhigh
  refine ⟨hlow.trans hearly, ?_⟩
  rw [Nat.add_mul]
  omega

/-- The clock is read once. -/
theorem web_read_once {now now' : ℕ} {t t' : WebState} (hm : .stmt i .systemTime now s s' ∈ c.history)
    (hm' : .stmt i .systemTime now' t t' ∈ c.history) : now = now' := by
  have hfirst : ∀ {past past' : WebTrace} {n n' : ℕ} {u u' v v' : WebState},
      Occurs c.history past (.stmt i .systemTime n u u') →
      Occurs past past' (.stmt i .systemTime n' v v') → False := by
    intro past past' n n' u u' v v' he he'
    obtain ⟨q, check, -, -, hlog⟩ := counts_asks hc he rfl
    have hlog : localLog i past = [] := hlog
    have hold := mem_localLog_of_stmt he'.mem
    rw [hlog] at hold
    cases hold
  obtain ⟨past, he⟩ := exists_occurs hm
  obtain ⟨past', he'⟩ := exists_occurs hm'
  rcases he.total he' with ⟨heq, -⟩ | hlt | hlt
  · cases heq
    rfl
  · exact (hfirst he hlt).elim
  · exact (hfirst he' hlt).elim

/-- No request is counted twice. -/
theorem web_counted_once (k : String) : (counted k (checkTrace c.history)).Nodup := by
  have hinv : (counted k (checkTrace c.history)).Nodup ∧ ∀ {h i o r s s'},
      Occurs c.history h (.stmt i o r s s') → (counted k (checkTrace h)).Nodup := by
    refine @System.Reachable.past_invariant _ _ _ _ _ _ _ _ (fun H _ => (counted k (checkTrace H)).Nodup) hc
      List.nodup_nil (fun _ hinv => hinv) (fun hinv => hinv) (fun hinv => hinv) ?_
    intro h i o r s s' he hinv
    by_cases ho : o = .valkey (.incr k)
    · subst ho
      rw [checkTrace_stmt, counted_incr, if_pos rfl]
      refine List.nodup_cons.2 ⟨fun hm => ?_, hinv⟩
      obtain ⟨-, -, -, -, now, hlog, -⟩ := counts_asks hc he rfl
      obtain ⟨r', t, t', hm⟩ := mem_counted_web.1 hm
      have hold := mem_localLog_of_stmt hm
      rw [hlog] at hold
      simp at hold
    · unfold checkTrace
      rw [counted_other ho]
      exact hinv
  exact hinv.1

/-- What is counted is the check, in the window of the clock reading. -/
theorem ChecksIn.counter (hi : ChecksIn env c.history check w i) {k : String} {r : Except ValkeyError ℤ}
    (he : Occurs c.history h (.stmt i (.valkey (.incr k)) r s s')) :
    k = RateLimiter.key check.endpoint check.ip w := by
  obtain ⟨q, now, u, u', hq, hcheck, hread, rfl⟩ := hi
  obtain ⟨q', check', now', hq', hcheck', hlog, rfl⟩ := stmt_incr hc.of_restrict he
  obtain rfl := hc.numbered.start_unique hq (he.past.subset hq')
  obtain rfl := Option.some.inj (hcheck.symm.trans hcheck')
  have hread' : ⟨.systemTime, now'⟩ ∈ localLog i h := by
    rw [hlog]
    exact List.mem_cons_self
  obtain ⟨v, v', hread'⟩ := exists_stmt_of_mem_localLog hread'
  obtain rfl := web_read_once hc hread (he.past.subset hread')
  rfl

/-- The place of a request is one after those counted before it. -/
theorem web_rank {k : String} {r : Except ValkeyError ℤ}
    (he : Occurs c.history h (.stmt i (.valkey (.incr k)) r s s')) :
    rank (counted k (checkTrace c.history)) i = (counted k (checkTrace h)).length + 1 := by
  have hsuffix := checkTrace_suffix he
  rw [checkTrace_stmt] at hsuffix
  obtain ⟨l, hl⟩ := counted_suffix (k := k) hsuffix
  rw [counted_incr, if_pos rfl] at hl
  have hnodup := web_counted_once hc k
  rw [← hl] at hnodup
  have hnotMem : i ∉ l := fun hm => (List.disjoint_of_nodup_append hnodup) hm List.mem_cons_self
  rw [← hl, rank_append hnotMem, rank_cons_self]

end Reachable

variable (hW : 0 < env.authRateLimitWindowSecs.toNat) (hW' : env.authRateLimitWindowSecs.toNat < 2 ^ 62)
  (hc : (timelyWeb env).Reachable (.fresh clock) c)

include hW hW' hc

/-- **Counters are sound** at every point of a run, whatever else is stored. -/
theorem counters_sound (endpoint ip : String) (w : ℕ) :
    CounterSound env (checkTrace c.history) c.state (RateLimiter.key endpoint ip w) w ∧
      ∀ {h i o r s s'}, Occurs c.history h (.stmt i o r s s') →
        CounterSound env (checkTrace h) s (RateLimiter.key endpoint ip w) w := by
  refine @System.Reachable.past_invariant _ _ _ _ _ _ _ _
    (fun H s => CounterSound env (checkTrace H) s (RateLimiter.key endpoint ip w) w) hc ?_ ?_ ?_ ?_ ?_
  · exact ⟨fun _ => rfl, fun hne => absurd rfl hne⟩
  · rintro H s _ ⟨t, ht, rfl⟩ hinv
    exact hinv.of_eq rfl rfl ht
  · exact fun hinv => hinv.of_eq rfl rfl (Nat.le_refl _)
  · exact fun hinv => hinv
  · intro h i o r s s' he hinv
    have hstmt := web_stmt hc.of_restrict he.mem
    have hclock : s.app.clock ≤ s'.app.clock := hstmt.le.clock
    by_cases hkey : ∃ command, o = .valkey command ∧ command.key = RateLimiter.key endpoint ip w
    · obtain ⟨command, rfl, hkey⟩ := hkey
      obtain ⟨request, -, hsends⟩ := sends_of_stmt hc.of_restrict he
      rcases hsends.of_counter hkey with rfl | ⟨seconds, rfl⟩
      · obtain ⟨-, check, -, -, now, hlog, hk⟩ := counts_asks hc he rfl
        have hnow : ⟨.systemTime, now⟩ ∈ localLog i h := by
          rw [hlog]
          exact List.mem_cons_self
        obtain ⟨-, hhigh⟩ := counts_clock hc hW he rfl hnow
        obtain ⟨-, rfl⟩ := RateLimiter.key_inj.1 hk
        rcases r with e | n
        · exact ((counts_timely hc he rfl).1).elim
        · exact (hinv.incr i hhigh hstmt).2
      · obtain ⟨-, check, -, -, now, hlog, hk, hseconds⟩ := counts_asks hc he rfl
        have hnow : ⟨.systemTime, now⟩ ∈ localLog i h := by
          rw [hlog]
          exact List.mem_cons_of_mem _ List.mem_cons_self
        obtain ⟨hlow, -⟩ := counts_clock hc hW he rfl hnow
        obtain ⟨-, rfl⟩ := RateLimiter.key_inj.1 hk
        rcases r with e | b
        · exact ((counts_timely hc he rfl).1).elim
        · exact hinv.expire hW (hseconds.trans (lifetime_eq hW')) hlow hstmt
    · -- Other keys, of whatever kind, do not matter.
      refine hinv.of_eq (counted_other fun ho => hkey ⟨_, ho, rfl⟩) ?_ hclock
      rcases hstmt.keys_cases with hkeys | ⟨command, x, rfl, hx⟩
      · rw [hkeys]
      · exact apply_frame hx fun heq => hkey ⟨command, rfl, heq.symm⟩

/-- **A request is told its place** among the requests that are counted with it. -/
theorem web_replied_rank {endpoint ip : String} {n : ℤ} (he : Occurs c.history h
    (.stmt i (.valkey (.incr (RateLimiter.key endpoint ip w))) (.ok n) s s')) :
    n = rank (counted (RateLimiter.key endpoint ip w) (checkTrace c.history)) i := by
  obtain ⟨-, check, -, -, now, hlog, hk⟩ := counts_asks hc he rfl
  have hnow : ⟨.systemTime, now⟩ ∈ localLog i h := by
    rw [hlog]
    exact List.mem_cons_self
  obtain ⟨-, hhigh⟩ := counts_clock hc hW he rfl hnow
  obtain ⟨-, rfl⟩ := RateLimiter.key_inj.1 hk
  have hcount := (((counters_sound hW hW' hc endpoint ip _).2 he).incr i hhigh
    (web_stmt hc.of_restrict he.mem)).1
  rw [web_rank hc he, hcount]
  simp

/-- A request that gets past the rate limiter has been counted among the first. -/
theorem past_rank (hi : ChecksIn env c.history check w i) (hpast : GetsPast c.history i) :
    i ∈ counted (RateLimiter.key check.endpoint check.ip w) (checkTrace c.history) ∧
      rank (counted (RateLimiter.key check.endpoint check.ip w) (checkTrace c.history)) i ≤
        env.authRateLimitMax.toNat := by
  obtain ⟨q, -, -, -, hq, hcheck, -, -⟩ := id hi
  -- Its check has admitted it.
  have hadmitted : ∃ l remaining, Checked env check l (.ok remaining) ∧ l <:+ localLog i c.history := by
    rcases hpast with ⟨o, r, t, t', hm, hfree⟩ | ⟨x, hdone⟩
    · obtain ⟨h, he⟩ := exists_occurs hm
      rcases web_at_stmt hc.of_restrict webHandle_gated hq he with ⟨check', -, hasks⟩ | ⟨hadmitted, -⟩
      · exact absurd hfree (by rw [hasks.counts r]; decide)
      · obtain ⟨l, remaining, hchecked, hl⟩ := hadmitted check hcheck
        exact ⟨l, remaining, hchecked, hl.trans (localLog_suffix he.past)⟩
    · obtain ⟨h, he⟩ := exists_occurs hdone
      obtain ⟨l, remaining, hchecked, hl⟩ :=
        web_at_ok hc.of_restrict webHandle_gated hq he check hcheck
      exact ⟨l, remaining, hchecked, hl.trans (localLog_suffix he.past)⟩
  obtain ⟨l, remaining, hchecked, hl⟩ := hadmitted
  rcases hchecked.admitted with ⟨⟨o, r⟩, hx, hfailed⟩ | ⟨now', count, hincr, hle⟩
  · obtain ⟨t, t', hm⟩ := exists_stmt_of_mem_localLog (hl.subset hx)
    obtain ⟨h, he⟩ := exists_occurs hm
    exact absurd (counts_timely hc he (hchecked.counts hx)).1 hfailed
  · obtain ⟨t, t', hm⟩ := exists_stmt_of_mem_localLog (hl.subset hincr)
    obtain ⟨h, he⟩ := exists_occurs hm
    rw [hi.counter hc he] at hm he
    have hrank := web_replied_rank hW hW' hc he
    exact ⟨mem_counted_web.2 ⟨_, t, t', hm⟩, by omega⟩

omit hW hW' in
/-- Who has been counted in a window has read the clock in it. -/
theorem checksIn_of_counted {q : WebRequest} (hcheck : q.check = some check)
    (hi : i ∈ counted (RateLimiter.key check.endpoint check.ip w) (checkTrace c.history)) :
    ChecksIn env c.history check w i := by
  obtain ⟨r, t, t', hm⟩ := mem_counted_web.1 hi
  obtain ⟨h, he⟩ := exists_occurs hm
  obtain ⟨q', check', now, hq', hcheck', hlog, hk⟩ := stmt_incr hc.of_restrict he
  obtain ⟨hbucket, hw⟩ := RateLimiter.key_inj.1 hk
  obtain rfl := check_eq_of_bucket hcheck hcheck' hbucket
  have hnow : ⟨.systemTime, now⟩ ∈ localLog i h := by
    rw [hlog]
    exact List.mem_cons_self
  obtain ⟨u, u', hread⟩ := exists_stmt_of_mem_localLog hnow
  exact ⟨q', now, u, u', he.past.subset hq', hcheck', he.past.subset hread, hw.symm⟩

theorem finite_past (check : Check) (w : ℕ) :
    {i | ChecksIn env c.history check w i ∧ GetsPast c.history i}.Finite :=
  (List.finite_toSet (counted (RateLimiter.key check.endpoint check.ip w) (checkTrace c.history))).subset
    fun _ hi => (past_rank hW hW' hc hi.1 hi.2).1

/-- No more than `max_requests` of a window get past the rate limiter. -/
theorem past_window (check : Check) (w : ℕ) :
    {i | ChecksIn env c.history check w i ∧ GetsPast c.history i}.ncard ≤ env.authRateLimitMax.toNat := by
  have hnodup := web_counted_once hc (RateLimiter.key check.endpoint check.ip w)
  have hfinite : {i | i ∈ counted (RateLimiter.key check.endpoint check.ip w) (checkTrace c.history) ∧
      rank (counted (RateLimiter.key check.endpoint check.ip w) (checkTrace c.history)) i ≤
        env.authRateLimitMax.toNat}.Finite :=
    (List.finite_toSet _).subset fun i hi => hi.1
  exact (Set.ncard_le_ncard (fun i hi => past_rank hW hW' hc hi.1 hi.2) hfinite).trans
    ((ncard_rank_le hnodup _).le.trans (Nat.min_le_right _ _))

/-- In any stretch as long as a window, no more than twice as many. -/
theorem past_stretch (check : Check) (t : ℕ) :
    {i | ChecksDuring env c.history check t i ∧ GetsPast c.history i}.ncard ≤
      2 * env.authRateLimitMax.toNat := by
  have hpos : 0 < windowMicros env := Nat.mul_pos hW (by decide)
  -- A stretch meets two windows.
  have hsubset : {i | ChecksDuring env c.history check t i ∧ GetsPast c.history i} ⊆
      {i | ChecksIn env c.history check (t / windowMicros env) i ∧ GetsPast c.history i} ∪
        {i | ChecksIn env c.history check (t / windowMicros env + 1) i ∧ GetsPast c.history i} := by
    rintro i ⟨⟨q, now, s, s', hq, hcheck, hread, hlow, hhigh⟩, hpast⟩
    have hwindow : now / env.authRateLimitWindowSecs.toNat = s.app.clock / windowMicros env := by
      rw [(web_stmt hc.of_restrict hread).systemTime_eq.1, window_eq]
    have hfirst : t / windowMicros env ≤ s.app.clock / windowMicros env := Nat.div_le_div_right hlow
    have hlast : s.app.clock / windowMicros env ≤ t / windowMicros env + 1 := by
      rw [← Nat.add_div_right t hpos]
      exact Nat.div_le_div_right (Nat.le_of_lt hhigh)
    by_cases heq : s.app.clock / windowMicros env = t / windowMicros env
    · exact Or.inl ⟨⟨q, now, s, s', hq, hcheck, hread, by rw [hwindow, heq]⟩, hpast⟩
    · exact Or.inr ⟨⟨q, now, s, s', hq, hcheck, hread, by rw [hwindow]; omega⟩, hpast⟩
  have hfinite := finite_past hW hW' hc check
  have hunion := Set.ncard_le_ncard hsubset ((hfinite _).union (hfinite _))
  have hsum := Set.ncard_union_le
    {i | ChecksIn env c.history check (t / windowMicros env) i ∧ GetsPast c.history i}
    {i | ChecksIn env c.history check (t / windowMicros env + 1) i ∧ GetsPast c.history i}
  have hfirst := past_window hW hW' hc check (t / windowMicros env)
  have hsecond := past_window hW hW' hc check (t / windowMicros env + 1)
  omega

/-- Who is refused has been counted after `max_requests` requests of its own path and address. -/
theorem refused_rank {retryAfter : ℕ} (hi : ChecksIn env c.history check w i)
    (hdone : .done i (.error (.rateLimited retryAfter)) ∈ c.history) :
    ∃ h r s s', Occurs c.history h
        (.stmt i (.valkey (.incr (RateLimiter.key check.endpoint check.ip w))) r s s') ∧
      env.authRateLimitMax.toNat ≤ {j | ChecksIn env c.history check w j ∧ ∃ r t t',
        .stmt j (.valkey (.incr (RateLimiter.key check.endpoint check.ip w))) r t t' ∈ h}.ncard := by
  obtain ⟨q, -, -, -, hq, hcheck, -, -⟩ := id hi
  obtain ⟨g, hg⟩ := exists_occurs hdone
  obtain ⟨q', hq', hend⟩ := hc.of_restrict.at_done webHandle_gated hg
  obtain rfl := hc.numbered.start_unique hq (hg.past.subset hq')
  rcases hend check hcheck with ⟨_, -, hchecked⟩ | ⟨hne, -⟩
  · obtain ⟨now', count, -, hincr, hlt, -⟩ := hchecked.refused
    obtain ⟨t, t', hm⟩ := exists_stmt_of_mem_localLog hincr
    obtain ⟨h, he⟩ := exists_occurs (hg.past.subset hm)
    rw [hi.counter hc he] at he
    refine ⟨h, _, t, t', he, ?_⟩
    have hbefore : {j | ChecksIn env c.history check w j ∧
        ∃ r t t', .stmt j (.valkey (.incr (RateLimiter.key check.endpoint check.ip w))) r t t' ∈ h} =
        {j | j ∈ counted (RateLimiter.key check.endpoint check.ip w) (checkTrace h)} := by
      ext j
      constructor
      · exact fun hj => mem_counted_web.2 hj.2
      · exact fun hj => ⟨checksIn_of_counted hc hcheck
          ((counted_suffix (checkTrace_suffix he.past)).subset hj), mem_counted_web.1 hj⟩
    have hnodup := web_counted_once hc (RateLimiter.key check.endpoint check.ip w)
    have hrank := web_replied_rank hW hW' hc he
    rw [hbefore, ncard_mem ((counted_suffix (checkTrace_suffix he.past)).sublist.nodup hnodup)]
    rw [web_rank hc he] at hrank
    omega
  · exact absurd rfl (hne retryAfter)

/-- The rate limit of a path and an address. -/
structure Throttled (env : WebEnv) (H : WebTrace) (check : Check) : Prop where
  /-- In each window, no more than `max_requests` requests get past the rate limiter. -/
  window : ∀ w, {i | ChecksIn env H check w i ∧ GetsPast H i}.ncard ≤ env.authRateLimitMax.toNat
  /-- In any stretch as long as a window, no more than twice as many. -/
  stretch : ∀ t, {i | ChecksDuring env H check t i ∧ GetsPast H i}.ncard ≤ 2 * env.authRateLimitMax.toNat
  /-- Who is refused has been counted after `max_requests` requests of the same path, address and window. -/
  refused : ∀ {i w retryAfter}, ChecksIn env H check w i → .done i (.error (.rateLimited retryAfter)) ∈ H →
    ∃ h r s s', Occurs H h
        (.stmt i (.valkey (.incr (RateLimiter.key check.endpoint check.ip w))) r s s') ∧
      env.authRateLimitMax.toNat ≤ {j | ChecksIn env H check w j ∧ ∃ r t t',
        .stmt j (.valkey (.incr (RateLimiter.key check.endpoint check.ip w))) r t t' ∈ h}.ncard

/-- **The rate limit holds** for the whole service, whatever its other requests do to the store. -/
theorem throttled (check : Check) : Throttled env c.history check :=
  ⟨past_window hW hW' hc check, past_stretch hW hW' hc check, refused_rank hW hW' hc⟩

end Runs

/-! ### Two sessions -/

/-- Statements that do not fail, within the first window, are timely. -/
theorem timelyWeb_sound {H : WebTrace} {i : ℕ} {o : WebOp} {s s' : WebState} {r : WebRet o}
    (h : checkExec env o s = some (r, s')) : (timelyWeb env).sem H i o s r s' := by
  have hcheck : (timelyChecks env (id : Check → Check)).sem [] i o s r s' := checkExec_sound h
  refine ⟨hcheck.1, fun _ => ⟨hcheck.2.1, fun _ t _ _ => ?_⟩⟩
  unfold checkExec at h
  split at h
  · next hclock => exact hclock.trans (Nat.le_add_left _ _)
  · cases h

/-- Two sessions of one address and an authorization in one minute; the second session is refused. -/
theorem throttled_of_two : ∃ c, (timelyWeb demoWeb).Reachable (.fresh 0) c ∧
    System.outcome 0 c.history = some (.error (.oauth .exchangeCodeInvalid)) ∧
    System.outcome 1 c.history = some (.error (.rateLimited 60)) ∧
    Throttled demoWeb c.history ⟨"post:/auth/session", "unknown"⟩ := by
  have hplay : (System.play (timelyWeb demoWeb).handler (fun _ _ => checkExec demoWeb)
      ([.start (.session ⟨none, none⟩ "guess"), .start (.session ⟨none, none⟩ "guess"),
        .start (.authorize "google")] ++ System.goes 0 2 ++ System.goes 1 1 ++ System.goes 2 3 ++
        System.goes 1 1 ++ System.goes 0 2) (.init (.fresh 0))).map
      (fun c => (System.outcome 0 c.history, System.outcome 1 c.history)) =
        some (some (.error (.oauth .exchangeCodeInvalid)), some (.error (.rateLimited 60))) := by
    decide +kernel
  obtain ⟨c, hplayed, hobs⟩ := Option.map_eq_some_iff.1 hplay
  obtain ⟨hfirst, hsecond⟩ := Prod.mk.inj hobs
  have hsem : ∀ {H i o s r s'}, checkExec demoWeb o s = some (r, s') →
      (timelyWeb demoWeb).sem H i o s r s' := fun h => timelyWeb_sound h
  have hreach := System.Reachable.play hsem .init hplayed
  exact ⟨c, hreach, hfirst, hsecond,
    throttled (by decide) (by decide) hreach ⟨"post:/auth/session", "unknown"⟩⟩

end Socle
