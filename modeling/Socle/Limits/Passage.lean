import Socle.Limits.Admission
import Socle.Web.Runs

/-!
# What passes the rate limiter

Four paths are behind the middleware; their requests are counted before anything else happens.

* `WebRequest.check`: the check of a request;
* `Checked`: the logs of checks, with their decisions; where Valkey fails, a check admits;
* `Admitted`: the request is not limited, or its check has admitted it;
* `Gated`, `GatedError`: what requests do, and how they fail;
* `complete_mediation`: no request of a limited path does anything before its check has admitted it, and a
  refused request does nothing else.
-/

namespace Socle

open Interaction Prog Valkey

variable {env : WebEnv}

/-- The check in front of a path. -/
def checkOf (headers : ForwardedHeaders) (path : String) : Check where
  endpoint := endpointKey "POST" path
  ip := extractClientIp headers

/-- The check of a request, if its path is limited. -/
def WebRequest.check : WebRequest → Option Check
  | .api headers q _ => q.limitedPath.map (checkOf headers)
  | .session headers _ => some (checkOf headers "/auth/session")
  | _ => none

/-- The log of a check, and its decision. -/
inductive Checked (env : WebEnv) (q : Check) : Log WebOp WebRet → Except ℕ ℕ → Prop
  /-- The request has not been counted. -/
  | uncounted {now : ℕ} (e : ValkeyError) :
    Checked env q [⟨.valkey (.incr (q.key env now)), .error e⟩, ⟨.systemTime, now⟩]
      (.ok env.authRateLimitMax.toNat)
  /-- The count is no `u64`. -/
  | negative {now : ℕ} {count : ℤ} (h : count < 0) :
    Checked env q [⟨.valkey (.incr (q.key env now)), .ok count⟩, ⟨.systemTime, now⟩]
      (.ok env.authRateLimitMax.toNat)
  /-- The new counter has not been given its lifetime. -/
  | unexpired {now : ℕ} (e : ValkeyError) :
    Checked env q [⟨.valkey (.expire (q.key env now) (RateLimiter.lifetime env)), .error e⟩,
      ⟨.valkey (.incr (q.key env now)), .ok (1 : ℤ)⟩, ⟨.systemTime, now⟩] (.ok env.authRateLimitMax.toNat)
  | first {now : ℕ} (b : Bool) :
    Checked env q [⟨.valkey (.expire (q.key env now) (RateLimiter.lifetime env)), .ok b⟩,
      ⟨.valkey (.incr (q.key env now)), .ok (1 : ℤ)⟩, ⟨.systemTime, now⟩] (verdict env now 1)
  | counted {now : ℕ} {count : ℤ} (h : ¬ count < 0) (hone : count ≠ 1) :
    Checked env q [⟨.valkey (.incr (q.key env now)), .ok count⟩, ⟨.systemTime, now⟩]
      (verdict env now count.toNat)

/-- The limit is compared with the count. -/
theorem verdict_cases {now count : ℕ} {P : Except ℕ ℕ → Prop} (h : P (verdict env now count)) :
    (env.authRateLimitMax.toNat < count → P (.error (max ((now / env.authRateLimitWindowSecs.toNat + 1) *
        env.authRateLimitWindowSecs.toNat - now) 1))) ∧
      (¬ env.authRateLimitMax.toNat < count → P (.ok (env.authRateLimitMax.toNat - count))) := by
  unfold verdict at h
  constructor
  · intro hmax
    rwa [if_pos hmax] at h
  · intro hmax
    rwa [if_neg hmax] at h

/-- Every check ends with one of these logs. -/
theorem check_checked (q : Check) :
    Sat (q.Asks env) (Checked env q) [] (RateLimiter.check env q.ip q.endpoint) := by
  rw [RateLimiter.sat_check]
  refine ⟨rfl, fun now => ⟨fun hzero => hzero, fun _ => ?_⟩⟩
  rw [RateLimiter.sat_incr]
  refine ⟨⟨now, rfl, rfl⟩, fun count => ⟨fun hneg => .negative hneg, fun hone => ?_, fun hneg hone => ?_⟩,
    fun e => .uncounted e⟩
  · subst hone
    exact ⟨⟨now, rfl, rfl, rfl⟩, fun b => verdict_cases (.first b), fun e => .unexpired e⟩
  · exact verdict_cases (.counted hneg hone)

/-- A refusal has been counted beyond the limit. -/
theorem Checked.refused {q : Check} {log : Log WebOp WebRet} {retryAfter : ℕ}
    (h : Checked env q log (.error retryAfter)) : ∃ (now : ℕ) (count : ℤ),
      ⟨.systemTime, now⟩ ∈ log ∧ ⟨.valkey (.incr (q.key env now)), .ok count⟩ ∈ log ∧
      (env.authRateLimitMax.toNat : ℤ) < count ∧ verdict env now count.toNat = .error retryAfter := by
  generalize hx : Except.error retryAfter = x at h
  cases h with
  | uncounted | negative | unexpired => cases hx
  | @first now b =>
    have hlt := lt_of_verdict_eq_error hx.symm
    exact ⟨now, 1, by simp, by simp, by omega, rfl⟩
  | @counted now count hneg hone =>
    have hlt := lt_of_verdict_eq_error hx.symm
    exact ⟨now, count, by simp, by simp, by omega, rfl⟩

/-- Who is admitted has been counted within the limit, or Valkey has failed, or has held a negative
number. -/
theorem Checked.admitted {q : Check} {log : Log WebOp WebRet} {remaining : ℕ}
    (h : Checked env q log (.ok remaining)) :
    (∃ x ∈ log, ¬ Answered x) ∨ ∃ (now : ℕ) (count : ℤ),
      ⟨.valkey (.incr (q.key env now)), .ok count⟩ ∈ log ∧ count ≤ env.authRateLimitMax.toNat := by
  generalize hx : Except.ok remaining = x at h
  cases h with
  | uncounted e => exact Or.inl ⟨_, List.mem_cons_self, id⟩
  | unexpired e => exact Or.inl ⟨_, List.mem_cons_self, id⟩
  | @negative now count hneg => exact Or.inr ⟨now, count, by simp, by omega⟩
  | @first now b =>
    obtain ⟨hle, -⟩ := verdict_eq_ok.1 hx.symm
    exact Or.inr ⟨now, 1, by simp, by omega⟩
  | @counted now count hneg hone =>
    obtain ⟨hle, -⟩ := verdict_eq_ok.1 hx.symm
    exact Or.inr ⟨now, count, by simp, by omega⟩

/-! ### What requests do -/

/-- The request is not limited, or its check has admitted it. -/
def Admitted (env : WebEnv) (q : WebRequest) (log : Log WebOp WebRet) : Prop :=
  ∀ check, q.check = some check → ∃ l remaining, Checked env check l (.ok remaining) ∧ l <:+ log

theorem Admitted.of_suffix {q : WebRequest} {l l' : Log WebOp WebRet} (h : Admitted env q l)
    (hl : l <:+ l') : Admitted env q l' := by
  intro check hcheck
  obtain ⟨log, remaining, hchecked, hlog⟩ := h check hcheck
  exact ⟨log, remaining, hchecked, hlog.trans hl⟩

/-- The statement is one of the rate limiter's. -/
def WebOp.counts : WebOp → Bool
  | .systemTime | .valkey (.incr _) | .valkey (.expire _ _) => true
  | _ => false

/-- A statement belongs to the check of the request, or comes after it. -/
def Gated (env : WebEnv) (q : WebRequest) (log : Log WebOp WebRet) (o : WebOp) : Prop :=
  (∃ check, q.check = some check ∧ check.Asks env log o) ∨ (Admitted env q log ∧ o.counts = false)

/-- A limited request is refused by its check, or fails after it. -/
def GatedError (env : WebEnv) (q : WebRequest) (log : Log WebOp WebRet) (e : WebError) : Prop :=
  ∀ check, q.check = some check →
    (∃ retryAfter, e = .rateLimited retryAfter ∧ Checked env check log (.error retryAfter)) ∨
      ((∀ retryAfter, e ≠ .rateLimited retryAfter) ∧ Admitted env q log)

/-- What a request does behind the rate limiter, with the log of its check. -/
theorem satE_gated {q : WebRequest} {headers : ForwardedHeaders} {path : Option String}
    {next : Web WebResponse} {Q : Log WebOp WebRet → WebResponse → Prop}
    (hq : q.check = path.map (checkOf headers))
    (hnext : ∀ log, Admitted env q log → SatE next (Gated env q) Q (GatedError env q) log) :
    SatE (limited env headers path next) (Gated env q) Q (GatedError env q) [] := by
  cases path with
  | none =>
    refine hnext [] fun check hcheck => ?_
    rw [hq] at hcheck
    cases hcheck
  | some p =>
    unfold limited rateLimitMiddleware
    rw [satE_bind]
    unfold SatE
    rw [ExceptT.run_lift, ← bind_pure_comp, sat_bind]
    refine Sat.mono (fun l o hasks => Or.inl ⟨checkOf headers p, hq, hasks⟩) ?_
      (check_checked (checkOf headers p))
    rintro l (retryAfter | remaining) hchecked
    · intro check hcheck
      obtain rfl := Option.some.inj (hq.symm.trans hcheck)
      exact Or.inl ⟨retryAfter, rfl, hchecked⟩
    · refine hnext l fun check hcheck => ?_
      obtain rfl := Option.some.inj (hq.symm.trans hcheck)
      exact ⟨l, remaining, hchecked, List.suffix_rfl⟩

/-- **What every request does**: nothing before it has been admitted. -/
theorem webHandle_gated (q : WebRequest) :
    SatE (webHandle env q) (Gated env q) (fun l _ => Admitted env q l) (GatedError env q) [] := by
  cases q with
  | api headers q direct =>
    refine satE_gated rfl fun log hlog => ?_
    rw [satE_map]
    refine satE_lift_any (fun l o hl => Or.inr ⟨hlog.of_suffix hl, rfl⟩) (fun l a hl => hlog.of_suffix hl)
      fun l e hl check _ => Or.inr ⟨?_, hlog.of_suffix hl⟩
    rintro retryAfter ⟨⟩
  | session headers code =>
    refine @satE_gated env _ headers (some "/auth/session") _ _ rfl fun log hlog => ?_
    have herror : ∀ {l : Log WebOp WebRet} {e : FlowError}, log <:+ l →
        GatedError env (.session headers code) l (.oauth e) := by
      intro l e hl check _
      refine Or.inr ⟨?_, hlog.of_suffix hl⟩
      rintro retryAfter ⟨⟩
    simp only [Routes.session, satE_bind, satE_takeExchange]
    refine ⟨Or.inr ⟨hlog, rfl⟩, herror (List.suffix_cons _ _), fun raw => ?_,
      fun e => herror (List.suffix_cons _ _)⟩
    cases env.authFromJson raw with
    | none =>
      simp only [satE_throw]
      exact herror (List.suffix_cons _ _)
    | some auth =>
      simp only [satE_pure]
      exact hlog.of_suffix (List.suffix_cons _ _)
  | authorize slug =>
    have hfree : ∀ {l : Log WebOp WebRet}, Admitted env (.authorize slug) l := by
      rintro l check ⟨⟩
    have herror : ∀ {l : Log WebOp WebRet} {e : WebError}, GatedError env (.authorize slug) l e := by
      rintro l e check ⟨⟩
    simp only [webHandle, Routes.authorize, satE_bind, satE_liftResolveProvider, satE_providerConfig,
      satE_map, satE_buildAuthorizationUrl, satE_parseUrl, satE_insert]
    exact ⟨fun provider _ => ⟨fun cfg _ => ⟨Or.inr ⟨hfree, rfl⟩, fun m => ⟨fun _ => ⟨fun _ => ⟨fun _ =>
      ⟨Or.inr ⟨hfree, rfl⟩, fun n => ⟨Or.inr ⟨hfree, rfl⟩, fun _ => hfree, fun _ => herror⟩⟩,
      fun _ _ => herror⟩, fun _ _ => herror⟩, fun _ _ => herror⟩⟩, fun _ => herror⟩, fun _ => herror⟩
  | callback slug params =>
    have hfree : ∀ {l : Log WebOp WebRet}, Admitted env (.callback slug params) l := by
      rintro l check ⟨⟩
    have herror : ∀ {l : Log WebOp WebRet} {e : WebError}, GatedError env (.callback slug params) l e := by
      rintro l e check ⟨⟩
    refine satE_callback (fun _ _ _ => herror) (fun _ _ _ _ => Or.inr ⟨hfree, rfl⟩) ?_
    intro state provider raw verifier _ _ _
    refine ⟨fun _ _ => Or.inr ⟨hfree, rfl⟩, fun l o _ ho => Or.inr ⟨hfree, ?_⟩, fun l profile _ _ _ _ => ?_⟩
    · cases o with
      | app | systemTime | valkey => cases ho
      | _ => rfl
    · exact satE_lift_any (fun _ _ _ => Or.inr ⟨hfree, rfl⟩) (fun l' auth _ => ⟨Or.inr ⟨hfree, rfl⟩,
        fun n => ⟨Or.inr ⟨hfree, rfl⟩, hfree⟩⟩) fun _ _ _ => herror

/-! ### Runs -/

/-- In a history, the requests of limited paths are served behind their checks. -/
structure Mediated (env : WebEnv) (H : WebTrace) : Prop where
  /-- What a limited request does belongs to its check, or its check has admitted it. -/
  stmt : ∀ {h i q check o r s s'}, .start i q ∈ H → q.check = some check →
    Occurs H h (.stmt i o r s s') → check.Asks env (localLog i h) o ∨
      ∃ l remaining, Checked env check l (.ok remaining) ∧ l <:+ localLog i h
  /-- It succeeds only after its check has admitted it. -/
  ok : ∀ {i q check x}, .start i q ∈ H → q.check = some check → .done i (.ok x) ∈ H →
    ∃ l remaining, Checked env check l (.ok remaining) ∧ l <:+ localLog i H
  /-- It is refused by its check, which has counted it beyond the limit, and does nothing else. -/
  refused : ∀ {i q check retryAfter}, .start i q ∈ H → q.check = some check →
    .done i (.error (.rateLimited retryAfter)) ∈ H →
    Checked env check (localLog i H) (.error retryAfter) ∧ ∃ (now : ℕ) (count : ℤ),
      ⟨.valkey (.incr (check.key env now)), .ok count⟩ ∈ localLog i H ∧
      (env.authRateLimitMax.toNat : ℤ) < count ∧ verdict env now count.toNat = .error retryAfter
  /-- Other requests are never counted. -/
  free : ∀ {i q o r s s'}, .start i q ∈ H → q.check = none → .stmt i o r s s' ∈ H → o.counts = false

/-- **Complete mediation.**  In every run, however requests interleave and whatever fails, no request of a
limited path does anything before its check has admitted it, and a refused request does nothing else. -/
theorem complete_mediation {s₀ : WebState}
    {c : Pool WebOp WebRet WebRequest (Except WebError WebResponse) WebState}
    (hc : (web env).Reachable s₀ c) : Mediated env c.history := by
  refine ⟨fun hq hcheck he => ?_, fun {i q check x} hq hcheck hdone => ?_,
    fun {i q check retryAfter} hq hcheck hdone => ?_, fun hq hcheck hm => ?_⟩
  · rcases web_at_stmt hc webHandle_gated hq he with ⟨check', hcheck', hasks⟩ | ⟨hadmitted, -⟩
    · obtain rfl := Option.some.inj (hcheck.symm.trans hcheck')
      exact Or.inl hasks
    · exact Or.inr (hadmitted _ hcheck)
  · obtain ⟨h, he⟩ := exists_occurs hdone
    obtain ⟨l, remaining, hchecked, hl⟩ := web_at_ok hc webHandle_gated hq he check hcheck
    exact ⟨l, remaining, hchecked, hl.trans (localLog_suffix he.past)⟩
  · obtain ⟨h, he⟩ := exists_occurs hdone
    obtain ⟨q', hq', hE⟩ := hc.at_done webHandle_gated he
    obtain rfl := hc.numbered.start_unique hq (he.past.subset hq')
    rw [hc.localLog_of_done he]
    rcases hE check hcheck with ⟨_, ⟨⟩, hchecked⟩ | ⟨hne, -⟩
    · obtain ⟨now, count, -, hcount, hlt, hverdict⟩ := hchecked.refused
      exact ⟨hchecked, now, count, hcount, hlt, hverdict⟩
    · exact absurd rfl (hne retryAfter)
  · obtain ⟨h, he⟩ := exists_occurs hm
    rcases web_at_stmt hc webHandle_gated hq he with ⟨check', hcheck', -⟩ | ⟨-, hcounts⟩
    · rw [hcheck] at hcheck'
      cases hcheck'
    · exact hcounts

/-- Two sessions from one address in one minute, of which the second is refused. -/
theorem complete_mediation_of_two : ∃ c, (web demoWeb).Reachable (.fresh 0) c ∧
    System.outcome 0 c.history = some (.error (.oauth .exchangeCodeInvalid)) ∧
    System.outcome 1 c.history = some (.error (.rateLimited 60)) ∧ Mediated demoWeb c.history := by
  obtain ⟨c, hc, hobs⟩ := exists_web_run demoWeb noAnswers 0
    ([.start (.session ⟨none, none⟩ "guess")] ++ System.goes 0 4 ++
      [.start (.session ⟨none, none⟩ "guess")] ++ System.goes 1 2)
    (fun c => (System.outcome 0 c.history, System.outcome 1 c.history))
    (some (.error (.oauth .exchangeCodeInvalid)), some (.error (.rateLimited 60))) (by decide +kernel)
  obtain ⟨hfirst, hsecond⟩ := Prod.mk.inj hobs
  exact ⟨c, hc, hfirst, hsecond, complete_mediation hc⟩

end Socle
