import Socle.Interaction.Arrivals
import Socle.Interaction.Pool
import Socle.Web.Demo
import Socle.Web.Keys

/-!
# The admission bound of the rate limiter

Any number of checks at any number of instances, whose steps interleave.

* `checks`: checks that clients cause; `timelyChecks`: no command fails, and no check takes longer than a
  window;
* `counted k H`: the checks that have increased a counter;
* `counter_sound`: the counter of a window holds the number of its checks, as long as one of them may come;
* `replied_rank`: each check is told its place among the checks of its window;
* `Admission`, `admission_bound`: what follows for the results.
-/

namespace Socle

open Interaction Prog System Valkey

/-- A request to the rate limiter. -/
structure Check where
  endpoint : String
  ip : String
  deriving DecidableEq

variable {Req : Type}

/-- A history of checks. -/
abbrev CheckTrace (Req : Type) : Type := History WebOp WebRet Req (Except ℕ ℕ) WebState

/-- The checks that requests cause. -/
def checks (env : WebEnv) (who : Req → Check) : System WebOp WebRet Req (Except ℕ ℕ) WebState where
  handler q := RateLimiter.check env (who q).ip (who q).endpoint
  sem _ _ := WebStmt env
  tick := WebTick

/-- The length of a window in microseconds. -/
def windowMicros (env : WebEnv) : ℕ := env.authRateLimitWindowSecs.toNat * 1000000

/-- The statement has not failed. -/
def Answered : (o : WebOp) × WebRet o → Prop
  | ⟨.valkey _, .error _⟩ => False
  | _ => True

instance : DecidablePred Answered
  | ⟨.valkey _, .error _⟩ => isFalse id
  | ⟨.valkey _, .ok _⟩ => isTrue trivial
  | ⟨.app _, _⟩ | ⟨.systemTime, _⟩ | ⟨.exchangeToken _ _ _ _, _⟩ | ⟨.googleUserInfo _, _⟩
  | ⟨.gitHubUser _, _⟩ | ⟨.gitHubEmails _, _⟩ => isTrue trivial

/-- No command fails, and every check finishes within a window's length after its clock reading. -/
def timelyChecks (env : WebEnv) (who : Req → Check) :
    System WebOp WebRet Req (Except ℕ ℕ) WebState :=
  (checks env who).restrict fun H i o s r => Answered ⟨o, r⟩ ∧
    ∀ now t t', .stmt i .systemTime now t t' ∈ H → s.app.clock ≤ t.app.clock + windowMicros env

/-! ### What a check does -/

/-- The decision of a check that has read the clock and been counted. -/
def verdict (env : WebEnv) (now count : ℕ) : Except ℕ ℕ :=
  let windowSecs := env.authRateLimitWindowSecs.toNat
  if env.authRateLimitMax.toNat < count then .error (max ((now / windowSecs + 1) * windowSecs - now) 1)
  else .ok (env.authRateLimitMax.toNat - count)

/-- The counter of a check that has read the clock. -/
def Check.key (env : WebEnv) (q : Check) (now : ℕ) : String :=
  RateLimiter.key q.endpoint q.ip (now / env.authRateLimitWindowSecs.toNat)

/-- When a check asks for what. -/
def Check.Asks (env : WebEnv) (q : Check) (log : Log WebOp WebRet) : WebOp → Prop
  | .systemTime => log = []
  | .valkey (.incr k) => ∃ now : ℕ, log = [⟨.systemTime, now⟩] ∧ k = q.key env now
  | .valkey (.expire k seconds) => ∃ now : ℕ,
      log = [⟨.valkey (.incr k), .ok (1 : ℤ)⟩, ⟨.systemTime, now⟩] ∧ k = q.key env now ∧
        seconds = RateLimiter.lifetime env
  | .app .abort => env.authRateLimitWindowSecs.toNat = 0
  | _ => False

/-- What a check answers, if no command has failed. -/
def Check.Answers (env : WebEnv) (q : Check) (log : Log WebOp WebRet) (x : Except ℕ ℕ) : Prop :=
  ∃ now : ℕ, ⟨.systemTime, now⟩ ∈ log ∧ ((∃ y ∈ log, ¬ Answered y) ∨
    ∃ count : ℤ, ⟨.valkey (.incr (q.key env now)), .ok count⟩ ∈ log ∧
      (count < 0 ∨ x = verdict env now count.toNat))

variable {env : WebEnv}

/-- A check reads the clock, is counted, and gives a new counter its lifetime. -/
theorem check_spec (q : Check) :
    Sat (q.Asks env) (q.Answers env) [] (RateLimiter.check env q.ip q.endpoint) := by
  rw [RateLimiter.sat_check]
  refine ⟨rfl, fun now => ⟨fun hzero => hzero, fun _ => ?_⟩⟩
  rw [RateLimiter.sat_incr]
  refine ⟨⟨now, rfl, rfl⟩, fun count => ⟨fun hneg => ?_, fun hone => ?_, fun hneg hone => ?_⟩, fun e => ?_⟩
  · exact ⟨now, by simp, Or.inr ⟨count, List.mem_cons_self, Or.inl hneg⟩⟩
  · subst hone
    refine ⟨⟨now, rfl, rfl, rfl⟩, fun b => ?_, fun e => ?_⟩
    · have hcount : (⟨.valkey (.incr (q.key env now)), .ok (1 : ℤ)⟩ : (o : WebOp) × WebRet o) ∈
          (⟨.valkey (.expire (q.key env now) (RateLimiter.lifetime env)), .ok b⟩ ::
            ⟨.valkey (.incr (q.key env now)), .ok (1 : ℤ)⟩ :: [⟨.systemTime, now⟩] :
              Log WebOp WebRet) := by simp
      exact ⟨fun hmax => ⟨now, by simp, Or.inr ⟨1, hcount, Or.inr (if_pos hmax).symm⟩⟩,
        fun hmax => ⟨now, by simp, Or.inr ⟨1, hcount, Or.inr (if_neg hmax).symm⟩⟩⟩
    · exact ⟨now, by simp, Or.inl ⟨_, List.mem_cons_self, id⟩⟩
  · exact ⟨fun hmax => ⟨now, by simp, Or.inr ⟨count, List.mem_cons_self, Or.inr (if_pos hmax).symm⟩⟩,
      fun hmax => ⟨now, by simp, Or.inr ⟨count, List.mem_cons_self, Or.inr (if_neg hmax).symm⟩⟩⟩
  · exact ⟨now, by simp, Or.inl ⟨_, List.mem_cons_self, id⟩⟩

/-! ### Counters -/

/-- The checks that have increased a counter, the latest first. -/
def counted (k : String) : CheckTrace Req → List ℕ
  | [] => []
  | .stmt i (.valkey (.incr k')) _ _ _ :: H => if k' = k then i :: counted k H else counted k H
  | _ :: H => counted k H

section counted

variable {k k' : String} {H h : CheckTrace Req} {i : ℕ}

@[simp] theorem counted_start {q : Req} : counted k (.start i q :: H) = counted k H := rfl

@[simp] theorem counted_done {x : Except ℕ ℕ} : counted k (.done i x :: H) = counted k H := rfl

@[simp] theorem counted_incr {r : Except ValkeyError ℤ} {s s' : WebState} :
    counted k (.stmt i (.valkey (.incr k')) r s s' :: H) =
      if k' = k then i :: counted k H else counted k H := rfl

theorem counted_other {o : WebOp} {r : WebRet o} {s s' : WebState} (ho : o ≠ .valkey (.incr k)) :
    counted k (.stmt i o r s s' :: H) = counted k H := by
  cases o with
  | valkey q =>
    cases q with
    | incr k' =>
      rw [counted_incr, if_neg]
      rintro rfl
      exact ho rfl
    | _ => rfl
  | _ => rfl

theorem mem_counted : i ∈ counted k H ↔ ∃ r s s', .stmt i (.valkey (.incr k)) r s s' ∈ H := by
  induction H with
  | nil => simp [counted]
  | cons e H ih =>
    have hold : (∃ r s s', .stmt i (.valkey (.incr k)) r s s' ∈ H) →
        ∃ r s s', .stmt i (.valkey (.incr k)) r s s' ∈ e :: H := by
      rintro ⟨r, s, s', hm⟩
      exact ⟨r, s, s', List.mem_cons_of_mem _ hm⟩
    cases e with
    | start j q => simp [ih]
    | done j x => simp [ih]
    | stmt j o r t t' =>
      by_cases ho : o = .valkey (.incr k)
      · subst ho
        rw [counted_incr, if_pos rfl, List.mem_cons, ih]
        constructor
        · rintro (rfl | hm)
          · exact ⟨r, t, t', List.mem_cons_self⟩
          · exact hold hm
        · rintro ⟨r', s, s', hm⟩
          rcases List.mem_cons.1 hm with heq | hm
          · cases heq
            exact Or.inl rfl
          · exact Or.inr ⟨r', s, s', hm⟩
      · rw [counted_other ho, ih]
        refine ⟨hold, ?_⟩
        rintro ⟨r', s, s', hm⟩
        rcases List.mem_cons.1 hm with heq | hm
        · cases heq
          exact absurd rfl ho
        · exact ⟨r', s, s', hm⟩

/-- Who has been counted stays counted. -/
theorem counted_suffix (hh : h <:+ H) : counted k h <:+ counted k H := by
  obtain ⟨l, rfl⟩ := hh
  induction l with
  | nil => exact List.suffix_rfl
  | cons e l ih =>
    cases e with
    | start j q => exact ih
    | done j x => exact ih
    | stmt j o r t t' =>
      by_cases ho : o = .valkey (.incr k)
      · subst ho
        rw [List.cons_append, counted_incr, if_pos rfl]
        exact ih.trans (List.suffix_cons _ _)
      · rw [List.cons_append, counted_other ho]
        exact ih

end counted

/-! ### Runs -/

section Runs

variable {who : Req → Check} {clock : ℕ} {c : Pool WebOp WebRet Req (Except ℕ ℕ) WebState}
  {h : CheckTrace Req} {i : ℕ} {s s' : WebState}

theorem lifetime_eq (hW : env.authRateLimitWindowSecs.toNat < 2 ^ 62) :
    RateLimiter.lifetime env = (2 * env.authRateLimitWindowSecs.toNat : ℕ) := by
  have hmul : (env.authRateLimitWindowSecs * 2).toNat = env.authRateLimitWindowSecs.toNat * 2 := by
    rw [UInt64.toNat_mul]
    exact Nat.mod_eq_of_lt (by simp; omega)
  rw [RateLimiter.lifetime, castSigned_of_lt (by omega), hmul, Nat.mul_comm]

/-- The window of a clock reading. -/
theorem window_eq (t : ℕ) :
    t / 1000000 / env.authRateLimitWindowSecs.toNat = t / windowMicros env := by
  rw [Nat.div_div_eq_div_mul, windowMicros, Nat.mul_comm]

theorem window_bounds (hW : 0 < env.authRateLimitWindowSecs.toNat) (t : ℕ) :
    let w := t / 1000000 / env.authRateLimitWindowSecs.toNat
    w * windowMicros env ≤ t ∧ t < (w + 1) * windowMicros env := by
  have hpos : 0 < windowMicros env := Nat.mul_pos hW (by decide)
  rw [window_eq]
  refine ⟨Nat.div_mul_le_self _ _, ?_⟩
  rw [Nat.add_mul, Nat.one_mul]
  exact Nat.lt_div_mul_add hpos

variable (hc : (timelyChecks env who).Reachable (.fresh clock) c)

include hc

theorem check_stmt {o : WebOp} {r : WebRet o} (he : .stmt i o r s s' ∈ c.history) :
    WebStmt env o s r s' := by
  obtain ⟨h, he⟩ := exists_occurs he
  exact (hc.sem_of_stmt he).1

/-- Statements do not fail, and are not late. -/
theorem check_timely {o : WebOp} {r : WebRet o} (he : Occurs c.history h (.stmt i o r s s')) :
    Answered ⟨o, r⟩ ∧
      ∀ now t t', .stmt i .systemTime now t t' ∈ h → s.app.clock ≤ t.app.clock + windowMicros env :=
  (hc.sem_of_stmt he).2

/-- Time does not go back. -/
theorem check_ordered {j : ℕ} {o o' : WebOp} {r : WebRet o} {r' : WebRet o'} {t t' : WebState}
    (he : Occurs c.history h (.stmt i o r s s')) (he' : .stmt j o' r' t t' ∈ h) :
    t.app.clock ≤ s.app.clock := by
  have hsem : ∀ {H i o s r s'}, (timelyChecks env who).sem H i o s r s' → s.Le s' := fun h => h.1.le
  have hle := hc.ordered WebState.Le.refl (fun h h' => h.trans h') WebTick.le hsem he he'
  exact Nat.le_trans (check_stmt hc (he.past.subset he')).le.clock hle.clock

theorem check_asks {o : WebOp} {r : WebRet o} (he : Occurs c.history h (.stmt i o r s s')) :
    ∃ q, .start i q ∈ h ∧ (who q).Asks env (localLog i h) o :=
  hc.at_stmt (fun q => check_spec (who q)) he

/-- A check that has read the clock acts within the next two windows' lengths. -/
theorem check_clock (hW : 0 < env.authRateLimitWindowSecs.toNat) {o : WebOp} {r : WebRet o}
    (he : Occurs c.history h (.stmt i o r s s')) {now : ℕ} (hnow : ⟨.systemTime, now⟩ ∈ localLog i h) :
    let w := now / env.authRateLimitWindowSecs.toNat
    w * windowMicros env ≤ s.app.clock ∧ s.app.clock < (w + 2) * windowMicros env := by
  obtain ⟨t, t', hm⟩ := exists_stmt_of_mem_localLog hnow
  have hread := (check_stmt hc (he.past.subset hm)).systemTime_eq.1
  obtain ⟨hlow, hhigh⟩ := window_bounds hW t.app.clock
  rw [← hread] at hlow hhigh
  have hlate := (check_timely hc he).2 now t t' hm
  have hearly := check_ordered hc he hm
  rw [Nat.add_mul, Nat.one_mul] at hhigh
  refine ⟨hlow.trans hearly, ?_⟩
  rw [Nat.add_mul]
  omega

end Runs

/-- The counter of window `w` holds the number of the checks that have increased it, as long as one of
its checks can come, and lives that long. -/
structure CounterSound (env : WebEnv) (H : CheckTrace Req) (s : WebState) (k : String) (w : ℕ) : Prop where
  none_of_nil : counted k H = [] → s.keys k = none
  holds : counted k H ≠ [] → s.app.clock < (w + 2) * windowMicros env →
    ∃ d, s.keys k = some ⟨.number (counted k H).length, d⟩ ∧
      ∀ x, d = some x → (w + 2) * windowMicros env ≤ x

/-- All counters are sound. -/
def CountersSound (env : WebEnv) (H : CheckTrace Req) (s : WebState) : Prop :=
  ∀ endpoint ip w, CounterSound env H s (RateLimiter.key endpoint ip w) w

/-- No check is counted twice. -/
def CountedOnce (H : CheckTrace Req) (_ : WebState) : Prop := ∀ k, (counted k H).Nodup

section CounterSound

variable {H : CheckTrace Req} {k : String} {i w : ℕ} {s s' : WebState}

/-- What is found at a sound counter. -/
theorem CounterSound.lookup (hs : CounterSound env H s k w)
    (hclock : s.app.clock < (w + 2) * windowMicros env) :
    (counted k H = [] ∧ s.lookup k = none) ∨ counted k H ≠ [] ∧
      ∃ d, s.lookup k = some ⟨.number (counted k H).length, d⟩ ∧
        ∀ x, d = some x → (w + 2) * windowMicros env ≤ x := by
  by_cases hnil : counted k H = []
  · refine Or.inl ⟨hnil, ?_⟩
    rw [WebState.lookup, Keyspace.lookup, hs.none_of_nil hnil]
    rfl
  · obtain ⟨d, hkey, hd⟩ := hs.holds hnil hclock
    refine Or.inr ⟨hnil, d, Keyspace.lookup_eq_some.2 ⟨hkey, ?_⟩, hd⟩
    cases d with
    | none => rfl
    | some x =>
      have hx := hd x rfl
      exact decide_eq_true (by show s.app.clock ≤ x; omega)

/-- A counter of another key, or at a later time, is as sound as it was. -/
theorem CounterSound.of_eq (hs : CounterSound env H s k w) {H' : CheckTrace Req}
    (hH : counted k H' = counted k H) (hkeys : s'.keys k = s.keys k) (hclock : s.app.clock ≤ s'.app.clock) :
    CounterSound env H' s' k w where
  none_of_nil hnil := by
    rw [hkeys]
    exact hs.none_of_nil (hH ▸ hnil)
  holds hne hlt := by
    rw [hkeys, hH]
    exact hs.holds (hH ▸ hne) (Nat.lt_of_le_of_lt hclock hlt)

/-- **Counting keeps counters sound**, and tells the number. -/
theorem CounterSound.incr (hs : CounterSound env H s k w) (i : ℕ)
    (hclock : s.app.clock < (w + 2) * windowMicros env) {n : ℤ}
    (hstmt : WebStmt env (.valkey (.incr k)) s (.ok n) s') :
    n = (counted k H).length + 1 ∧
      CounterSound env (.stmt i (.valkey (.incr k)) (.ok n) s s' :: H) s' k w := by
  have happ := hstmt.valkey_app
  have hcounted : counted k (.stmt i (.valkey (.incr k)) (.ok n) s s' :: H : CheckTrace Req) =
      i :: counted k H := if_pos rfl
  rcases incr_ok hstmt.valkey_ok with ⟨hnone, rfl, hkeys⟩ | ⟨e, m, he, hm, rfl, hkeys⟩
  · rcases hs.lookup hclock with ⟨hnil, -⟩ | ⟨-, d, hd, -⟩
    · refine ⟨by simp [hnil], ?_, fun _ _ => ⟨none, ?_, by simp⟩⟩
      · rw [hcounted]
        simp
      · rw [hcounted, hkeys, Keyspace.set_self, hnil]
        rfl
    · rw [WebState.lookup, hnone] at hd
      cases hd
  · rcases hs.lookup hclock with ⟨-, hnone⟩ | ⟨-, d, hd, hlife⟩
    · rw [WebState.lookup, he] at hnone
      cases hnone
    · rw [WebState.lookup, he] at hd
      cases hd
      cases hm
      refine ⟨rfl, ?_, fun _ _ => ⟨d, ?_, hlife⟩⟩
      · rw [hcounted]
        simp
      · rw [hcounted, hkeys, Keyspace.set_self, List.length_cons, Nat.cast_succ]

/-- **Giving a counter its lifetime keeps it sound.** -/
theorem CounterSound.expire (hs : CounterSound env H s k w)
    (hW : 0 < env.authRateLimitWindowSecs.toNat) {seconds : ℤ}
    (hseconds : seconds = (2 * env.authRateLimitWindowSecs.toNat : ℕ))
    (hclock : w * windowMicros env ≤ s.app.clock) {b : Bool}
    (hstmt : WebStmt env (.valkey (.expire k seconds)) s (.ok b) s') :
    CounterSound env (.stmt i (.valkey (.expire k seconds)) (.ok b) s s' :: H) s' k w := by
  have happ := hstmt.valkey_app
  have hpos : 0 < seconds := by omega
  rcases expire_ok hpos hstmt.valkey_ok with ⟨-, hkeys⟩ | ⟨e, he, hkeys⟩
  · exact hs.of_eq (counted_other (by simp)) (by rw [hkeys]) (by rw [happ])
  · obtain ⟨hkey, -⟩ := Keyspace.lookup_eq_some.1 he
    refine ⟨fun hnil => ?_, fun hne hlt => ?_⟩
    · rw [hs.none_of_nil hnil] at hkey
      cases hkey
    · rw [happ] at hlt
      obtain ⟨d, hd, -⟩ := hs.holds hne hlt
      rw [hkey] at hd
      cases hd
      refine ⟨_, by rw [hkeys, Keyspace.set_self]; rfl, ?_⟩
      intro x hx
      have hlife : seconds.toNat * 1000000 = 2 * windowMicros env := by
        rw [hseconds, Int.toNat_natCast, windowMicros, Nat.mul_assoc]
      rw [← Option.some.inj hx, hlife, Nat.add_mul]
      omega

end CounterSound

section Counters

variable {who : Req → Check} {clock : ℕ} {c : Pool WebOp WebRet Req (Except ℕ ℕ) WebState}
  {h : CheckTrace Req} {i : ℕ} {s s' : WebState} (hW : 0 < env.authRateLimitWindowSecs.toNat)
  (hW' : env.authRateLimitWindowSecs.toNat < 2 ^ 62)
  (hc : (timelyChecks env who).Reachable (.fresh clock) c)

include hW hW' hc

/-- **Counters are sound**, at every point of a run. -/
theorem counter_sound : CountersSound env c.history c.state ∧
    ∀ {h i o r s s'}, Occurs c.history h (.stmt i o r s s') → CountersSound env h s := by
  refine hc.past_invariant ?_ ?_ ?_ ?_ ?_
  · intro endpoint ip w
    exact ⟨fun _ => rfl, fun hne => absurd rfl hne⟩
  · rintro H s _ ⟨t, ht, rfl⟩ hinv endpoint ip w
    exact (hinv endpoint ip w).of_eq rfl rfl ht
  · intro H i q s hinv endpoint ip w
    exact (hinv endpoint ip w).of_eq rfl rfl (Nat.le_refl _)
  · intro H i x s hinv endpoint ip w
    exact (hinv endpoint ip w).of_eq rfl rfl (Nat.le_refl _)
  · intro h i o r s s' he hinv endpoint ip w
    obtain ⟨q, -, hasks⟩ := check_asks hc he
    have hstmt := check_stmt hc he.mem
    cases o with
    | systemTime =>
      rw [hstmt.systemTime_eq.2]
      exact (hinv endpoint ip w).of_eq (counted_other (by simp)) rfl (Nat.le_refl _)
    | app o =>
      cases o with
      | abort => exact (r : Empty).elim
      | _ => exact hasks.elim
    | valkey command =>
      rcases r with e | x
      · exact ((check_timely hc he).1).elim
      have hclock : s.app.clock ≤ s'.app.clock := by rw [hstmt.valkey_app]
      by_cases hkey : command.key = RateLimiter.key endpoint ip w
      · cases command with
        | incr k =>
          obtain ⟨now, hlog, hk⟩ := hasks
          have hnow : ⟨.systemTime, now⟩ ∈ localLog i h := by
            rw [hlog]
            exact List.mem_cons_self
          obtain ⟨-, hhigh⟩ := check_clock hc hW he hnow
          obtain rfl : k = RateLimiter.key endpoint ip w := hkey
          obtain ⟨-, rfl⟩ := RateLimiter.key_inj.1 hk
          exact ((hinv endpoint ip _).incr i hhigh hstmt).2
        | expire k seconds =>
          obtain ⟨now, hlog, hk, hseconds⟩ := hasks
          have hnow : ⟨.systemTime, now⟩ ∈ localLog i h := by
            rw [hlog]
            exact List.mem_cons_of_mem _ List.mem_cons_self
          obtain ⟨hlow, -⟩ := check_clock hc hW he hnow
          obtain rfl : k = RateLimiter.key endpoint ip w := hkey
          obtain ⟨-, rfl⟩ := RateLimiter.key_inj.1 hk
          exact (hinv endpoint ip _).expire hW (hseconds.trans (lifetime_eq hW')) hlow hstmt
        | _ => exact hasks.elim
      · -- Commands on other counters do not matter.
        refine (hinv endpoint ip w).of_eq ?_ (apply_frame hstmt.valkey_ok (Ne.symm hkey)) hclock
        cases command with
        | incr k => exact if_neg hkey
        | _ => rfl
    | _ => exact hasks.elim

/-- A check is told how many have been counted with it. -/
theorem replied_length {q : Req} (hq : .start i q ∈ c.history) {now : ℕ} {n : ℤ}
    (he : Occurs c.history h (.stmt i (.valkey (.incr ((who q).key env now))) (.ok n) s s')) :
    n = (counted ((who q).key env now) h).length + 1 := by
  obtain ⟨q', hq', now', hlog, hk⟩ := check_asks hc he
  obtain rfl := hc.numbered.start_unique hq (he.past.subset hq')
  have hnow : ⟨.systemTime, now'⟩ ∈ localLog i h := by
    rw [hlog]
    exact List.mem_cons_self
  obtain ⟨-, hhigh⟩ := check_clock hc hW he hnow
  obtain ⟨-, hw⟩ := RateLimiter.key_inj.1 hk
  rw [← hw] at hhigh
  exact (((counter_sound hW hW' hc).2 he _ _ _).incr i hhigh (check_stmt hc he.mem)).1

omit hW hW' in
/-- A check is counted once. -/
theorem counted_once : CountedOnce c.history c.state := by
  have hinv : CountedOnce c.history c.state ∧ ∀ {h i o r s s'},
      Occurs c.history h (.stmt i o r s s') → CountedOnce h s := by
    refine hc.past_invariant (fun _ => List.nodup_nil) (fun _ hinv => hinv) (fun hinv => hinv)
      (fun hinv => hinv) ?_
    intro h i o r s s' he hinv k
    by_cases ho : o = .valkey (.incr k)
    · subst ho
      rw [counted_incr, if_pos rfl]
      refine List.nodup_cons.2 ⟨fun hm => ?_, hinv k⟩
      obtain ⟨-, -, now, hlog, -⟩ := check_asks hc he
      obtain ⟨r', t, t', hm⟩ := mem_counted.1 hm
      have hold := mem_localLog_of_stmt hm
      rw [hlog] at hold
      simp at hold
    · rw [counted_other ho]
      exact hinv k
  exact hinv.1

omit hW hW' in
/-- The place of a check is one after those counted before it. -/
theorem rank_counted {k : String} {r : Except ValkeyError ℤ}
    (he : Occurs c.history h (.stmt i (.valkey (.incr k)) r s s')) :
    rank (counted k c.history) i = (counted k h).length + 1 := by
  obtain ⟨l, hl⟩ := counted_suffix (k := k) he
  rw [counted_incr, if_pos rfl] at hl
  have hnodup := counted_once hc k
  rw [← hl] at hnodup
  have hnotMem : i ∉ l := fun hm => (List.disjoint_of_nodup_append hnodup) hm List.mem_cons_self
  rw [← hl, rank_append hnotMem, rank_cons_self]

/-- **A check is told its place** among those that are counted with it. -/
theorem replied_rank {q : Req} (hq : .start i q ∈ c.history) {now : ℕ} {n : ℤ}
    (he : Occurs c.history h (.stmt i (.valkey (.incr ((who q).key env now))) (.ok n) s s')) :
    n = rank (counted ((who q).key env now) c.history) i := by
  rw [rank_counted hc he, replied_length hW hW' hc hq he]
  simp

omit hW hW' in
/-- A check reads the clock once. -/
theorem read_once {now now' : ℕ} {t t' : WebState} (hm : .stmt i .systemTime now s s' ∈ c.history)
    (hm' : .stmt i .systemTime now' t t' ∈ c.history) : now = now' ∧ s = t := by
  have hfirst : ∀ {past past' : CheckTrace Req} {n n' : ℕ} {u u' v v' : WebState},
      Occurs c.history past (.stmt i .systemTime n u u') →
      Occurs past past' (.stmt i .systemTime n' v v') → False := by
    intro past past' n n' u u' v v' he he'
    obtain ⟨q, -, hlog⟩ := check_asks hc he
    have hlog : localLog i past = [] := hlog
    have hold := mem_localLog_of_stmt he'.mem
    rw [hlog] at hold
    cases hold
  obtain ⟨past, he⟩ := exists_occurs hm
  obtain ⟨past', he'⟩ := exists_occurs hm'
  rcases he.total he' with ⟨heq, -⟩ | hlt | hlt
  · cases heq
    exact ⟨rfl, rfl⟩
  · exact (hfirst he hlt).elim
  · exact (hfirst he' hlt).elim

/-- **The result of a check** is the verdict on its place. -/
theorem check_result {x : Except ℕ ℕ} (hdone : .done i x ∈ c.history) :
    ∃ q now s s', .start i q ∈ c.history ∧ .stmt i .systemTime now s s' ∈ c.history ∧
      i ∈ counted ((who q).key env now) c.history ∧
      x = verdict env now (rank (counted ((who q).key env now) c.history) i) := by
  obtain ⟨h, he⟩ := exists_occurs hdone
  obtain ⟨q, hq, now, hnow, hanswer⟩ := hc.at_done (fun q => check_spec (who q)) he
  have hsuffix := localLog_suffix (i := i) he.past
  obtain ⟨s, s', hread⟩ := exists_stmt_of_mem_localLog (hsuffix.subset hnow)
  rcases hanswer with ⟨⟨o, r⟩, hm, hfailed⟩ | ⟨count, hm, hverdict⟩
  · obtain ⟨t, t', hm⟩ := exists_stmt_of_mem_localLog (hsuffix.subset hm)
    obtain ⟨past, he'⟩ := exists_occurs hm
    exact absurd (check_timely hc he').1 hfailed
  · obtain ⟨t, t', hm⟩ := exists_stmt_of_mem_localLog (hsuffix.subset hm)
    obtain ⟨past, he'⟩ := exists_occurs hm
    have hq := he.past.subset hq
    have hrank := replied_rank hW hW' hc hq he'
    refine ⟨q, now, s, s', hq, hread, mem_counted.2 ⟨_, t, t', hm⟩, ?_⟩
    rcases hverdict with hneg | hverdict
    · omega
    · rw [hverdict, hrank, Int.toNat_natCast]

end Counters

/-! ### The bound -/

/-- The verdict is positive for the first checks, with what remains. -/
theorem verdict_eq_ok {now count remaining : ℕ} : verdict env now count = .ok remaining ↔
    count ≤ env.authRateLimitMax.toNat ∧ remaining = env.authRateLimitMax.toNat - count := by
  unfold verdict
  by_cases hmax : env.authRateLimitMax.toNat < count
  · simp [hmax, Nat.not_le.2 hmax]
  · simp [hmax, Nat.not_lt.1 hmax, eq_comm]

theorem lt_of_verdict_eq_error {now count retryAfter : ℕ} (h : verdict env now count = .error retryAfter) :
    env.authRateLimitMax.toNat < count := by
  by_contra hle
  rw [verdict_eq_ok.2 ⟨Nat.not_lt.1 hle, rfl⟩] at h
  cases h

/-- Request `i` is a check with the counters of `q` and has read the clock in window `w`.  On the paths
behind the rate limiter, the counters of `q` are those of its endpoint and its address. -/
def InWindow (env : WebEnv) (who : Req → Check) (H : CheckTrace Req) (q : Check) (w i : ℕ) : Prop :=
  ∃ q' now s s', .start i q' ∈ H ∧
    RateLimiter.bucket (who q').endpoint (who q').ip = RateLimiter.bucket q.endpoint q.ip ∧
    .stmt i .systemTime now s s' ∈ H ∧ now / env.authRateLimitWindowSecs.toNat = w

/-- Request `i` is a check with the counters of `q` and has read the clock less than a window's length
after `t`. -/
def InStretch (env : WebEnv) (who : Req → Check) (H : CheckTrace Req) (q : Check) (t i : ℕ) : Prop :=
  ∃ q' now s s', .start i q' ∈ H ∧
    RateLimiter.bucket (who q').endpoint (who q').ip = RateLimiter.bucket q.endpoint q.ip ∧
    .stmt i .systemTime now s s' ∈ H ∧ t ≤ s.app.clock ∧ s.app.clock < t + windowMicros env

/-- Request `i` has been admitted. -/
def IsAdmitted (H : CheckTrace Req) (i : ℕ) : Prop := ∃ remaining, .done i (.ok remaining) ∈ H

/-- The checks of a window are admitted up to the limit, in the order in which they are counted. -/
structure Admission (env : WebEnv) (who : Req → Check) (H : CheckTrace Req) (q : Check) (w : ℕ) : Prop where
  /-- Of `n` finished checks, exactly `min n max_requests` are admitted. -/
  exact : (∀ i, InWindow env who H q w i → ∃ x, .done i x ∈ H) →
    {i | InWindow env who H q w i ∧ IsAdmitted H i}.ncard =
      min {i | InWindow env who H q w i}.ncard env.authRateLimitMax.toNat
  /-- Their remaining counts are the numbers from `max_requests - 1` down. -/
  remaining : (∀ i, InWindow env who H q w i → ∃ x, .done i x ∈ H) →
    ∀ r, (∃ i, InWindow env who H q w i ∧ .done i (.ok r) ∈ H) ↔
      r < env.authRateLimitMax.toNat ∧
        env.authRateLimitMax.toNat ≤ r + {i | InWindow env who H q w i}.ncard
  /-- Each is returned once. -/
  once : ∀ i j r, InWindow env who H q w i → InWindow env who H q w j →
    .done i (.ok r) ∈ H → .done j (.ok r) ∈ H → i = j
  /-- A check is refused only after `max_requests` checks of its window have been counted. -/
  refused : ∀ i e, InWindow env who H q w i → .done i (.error e) ∈ H →
    ∃ h k r s s', Occurs H h (.stmt i (.valkey (.incr k)) r s s') ∧ env.authRateLimitMax.toNat ≤
      {j | InWindow env who H q w j ∧ ∃ r t t', .stmt j (.valkey (.incr k)) r t t' ∈ h}.ncard
  /-- Whoever is still busy, no more than `max_requests` are admitted. -/
  bounded : {i | InWindow env who H q w i ∧ IsAdmitted H i}.ncard ≤ env.authRateLimitMax.toNat

section Bound

variable {who : Req → Check} {clock : ℕ} {c : Pool WebOp WebRet Req (Except ℕ ℕ) WebState} {i w : ℕ}
  {q : Check} (hW : 0 < env.authRateLimitWindowSecs.toNat)
  (hW' : env.authRateLimitWindowSecs.toNat < 2 ^ 62)
  (hc : (timelyChecks env who).Reachable (.fresh clock) c)

include hc in
/-- Who has been counted in a window has read the clock in it. -/
theorem inWindow_of_counted (hi : i ∈ counted (RateLimiter.key q.endpoint q.ip w) c.history) :
    InWindow env who c.history q w i := by
  obtain ⟨r, s, s', hm⟩ := mem_counted.1 hi
  obtain ⟨h, he⟩ := exists_occurs hm
  obtain ⟨q', hq', now, hlog, hk⟩ := check_asks hc he
  obtain ⟨hbucket, hw⟩ := RateLimiter.key_inj.1 hk
  have hnow : ⟨.systemTime, now⟩ ∈ localLog i h := by
    rw [hlog]
    exact List.mem_cons_self
  obtain ⟨t, t', hread⟩ := exists_stmt_of_mem_localLog hnow
  exact ⟨q', now, t, t', he.past.subset hq', hbucket.symm, he.past.subset hread, hw.symm⟩

include hW hW' hc

/-- A finished check of a window has been counted in it, and its result is the verdict on its place. -/
theorem result_inWindow (hi : InWindow env who c.history q w i) {x : Except ℕ ℕ}
    (hdone : .done i x ∈ c.history) : i ∈ counted (RateLimiter.key q.endpoint q.ip w) c.history ∧
      ∃ now, x = verdict env now (rank (counted (RateLimiter.key q.endpoint q.ip w) c.history) i) := by
  obtain ⟨q', now, s, s', hq', hbucket, hread, rfl⟩ := hi
  obtain ⟨q'', now', t, t', hq'', hread', hmem, hx⟩ := check_result hW hW' hc hdone
  obtain rfl := hc.numbered.start_unique hq' hq''
  obtain ⟨rfl, -⟩ := read_once hc hread hread'
  have hkey : (who q').key env now =
      RateLimiter.key q.endpoint q.ip (now / env.authRateLimitWindowSecs.toNat) :=
    RateLimiter.key_inj.2 ⟨hbucket, rfl⟩
  rw [hkey] at hmem hx
  exact ⟨hmem, now, hx⟩

/-- The admitted checks of a window are among the first. -/
theorem admitted_rank (hi : InWindow env who c.history q w i) (hadmitted : IsAdmitted c.history i) :
    i ∈ counted (RateLimiter.key q.endpoint q.ip w) c.history ∧
      rank (counted (RateLimiter.key q.endpoint q.ip w) c.history) i ≤ env.authRateLimitMax.toNat := by
  obtain ⟨remaining, hdone⟩ := hadmitted
  obtain ⟨hmem, now, hx⟩ := result_inWindow hW hW' hc hi hdone
  exact ⟨hmem, (verdict_eq_ok.1 hx.symm).1⟩

theorem finite_admitted (q : Check) (w : ℕ) :
    {i | InWindow env who c.history q w i ∧ IsAdmitted c.history i}.Finite :=
  (List.finite_toSet (counted (RateLimiter.key q.endpoint q.ip w) c.history)).subset
    fun _ hi => (admitted_rank hW hW' hc hi.1 hi.2).1

/-- **The window of a check.** -/
theorem admission (q : Check) (w : ℕ) : Admission env who c.history q w := by
  have hnodup := counted_once hc (RateLimiter.key q.endpoint q.ip w)
  have hfinite : {i | i ∈ counted (RateLimiter.key q.endpoint q.ip w) c.history ∧
      rank (counted (RateLimiter.key q.endpoint q.ip w) c.history) i ≤
        env.authRateLimitMax.toNat}.Finite :=
    (List.finite_toSet _).subset fun i hi => hi.1
  have hwindow : (∀ i, InWindow env who c.history q w i → ∃ x, .done i x ∈ c.history) →
      {i | InWindow env who c.history q w i} =
        {i | i ∈ counted (RateLimiter.key q.endpoint q.ip w) c.history} := by
    intro hall
    ext i
    constructor
    · intro hi
      obtain ⟨x, hdone⟩ := hall i hi
      exact (result_inWindow hW hW' hc hi hdone).1
    · exact inWindow_of_counted hc
  refine ⟨fun hall => ?_, fun hall r => ?_, fun i j r hi hj hdone hdone' => ?_, fun i e hi hdone => ?_, ?_⟩
  · -- The admitted checks are exactly the first.
    rw [hwindow hall, ncard_mem hnodup, ← ncard_rank_le hnodup]
    congr 1
    ext i
    constructor
    · exact fun ⟨hi, hadmitted⟩ => admitted_rank hW hW' hc hi hadmitted
    · rintro ⟨hmem, hrank⟩
      have hi := inWindow_of_counted hc hmem
      obtain ⟨x, hdone⟩ := hall i hi
      obtain ⟨-, now, hx⟩ := result_inWindow hW hW' hc hi hdone
      exact ⟨hi, _, hx.trans (verdict_eq_ok.2 ⟨hrank, rfl⟩) ▸ hdone⟩
  · rw [hwindow hall, ncard_mem hnodup]
    constructor
    · rintro ⟨i, hi, hdone⟩
      obtain ⟨hmem, now, hx⟩ := result_inWindow hW hW' hc hi hdone
      obtain ⟨hle, rfl⟩ := verdict_eq_ok.1 hx.symm
      have hpos := rank_pos hmem
      have hlength := rank_le (counted (RateLimiter.key q.endpoint q.ip w) c.history) i
      omega
    · rintro ⟨hlt, hle⟩
      obtain ⟨i, hmem, hrank⟩ := exists_rank hnodup (m := env.authRateLimitMax.toNat - r)
        (by omega) (by omega)
      have hi := inWindow_of_counted hc hmem
      obtain ⟨x, hdone⟩ := hall i hi
      obtain ⟨-, now, hx⟩ := result_inWindow hW hW' hc hi hdone
      have hverdict : verdict env now (env.authRateLimitMax.toNat - r) = .ok r :=
        verdict_eq_ok.2 ⟨by omega, by omega⟩
      rw [hrank, hverdict] at hx
      exact ⟨i, hi, hx ▸ hdone⟩
  · obtain ⟨hmem, now, hx⟩ := result_inWindow hW hW' hc hi hdone
    obtain ⟨hmem', now', hx'⟩ := result_inWindow hW hW' hc hj hdone'
    obtain ⟨hle, hr⟩ := verdict_eq_ok.1 hx.symm
    obtain ⟨hle', hr'⟩ := verdict_eq_ok.1 hx'.symm
    exact rank_injective hmem hmem' (by omega)
  · obtain ⟨hmem, now, hx⟩ := result_inWindow hW hW' hc hi hdone
    have hlt := lt_of_verdict_eq_error hx.symm
    obtain ⟨r, s, s', hincr⟩ := mem_counted.1 hmem
    obtain ⟨h, he⟩ := exists_occurs hincr
    refine ⟨h, _, r, s, s', he, ?_⟩
    have hbefore : {j | InWindow env who c.history q w j ∧ ∃ r t t',
        .stmt j (.valkey (.incr (RateLimiter.key q.endpoint q.ip w))) r t t' ∈ h} =
          {j | j ∈ counted (RateLimiter.key q.endpoint q.ip w) h} := by
      ext j
      constructor
      · exact fun hj => mem_counted.2 hj.2
      · exact fun hj => ⟨inWindow_of_counted hc ((counted_suffix he.past).subset hj), mem_counted.1 hj⟩
    rw [hbefore, ncard_mem ((counted_suffix he.past).sublist.nodup hnodup)]
    rw [rank_counted hc he] at hlt
    omega
  · exact (Set.ncard_le_ncard (fun i hi => admitted_rank hW hW' hc hi.1 hi.2) hfinite).trans
      ((ncard_rank_le hnodup _).le.trans (Nat.min_le_right _ _))

/-- In any stretch as long as a window, at most twice as many are admitted. -/
theorem admitted_stretch (q : Check) (t : ℕ) :
    {i | InStretch env who c.history q t i ∧ IsAdmitted c.history i}.ncard ≤
      2 * env.authRateLimitMax.toNat := by
  have hpos : 0 < windowMicros env := Nat.mul_pos hW (by decide)
  -- A stretch meets two windows.
  have hsubset : {i | InStretch env who c.history q t i ∧ IsAdmitted c.history i} ⊆
      {i | InWindow env who c.history q (t / windowMicros env) i ∧ IsAdmitted c.history i} ∪
        {i | InWindow env who c.history q (t / windowMicros env + 1) i ∧ IsAdmitted c.history i} := by
    rintro i ⟨⟨q', now, s, s', hq', hbucket, hread, hlow, hhigh⟩, hadmitted⟩
    have hwindow : now / env.authRateLimitWindowSecs.toNat = s.app.clock / windowMicros env := by
      rw [(check_stmt hc hread).systemTime_eq.1, window_eq]
    have hfirst : t / windowMicros env ≤ s.app.clock / windowMicros env := Nat.div_le_div_right hlow
    have hlast : s.app.clock / windowMicros env ≤ t / windowMicros env + 1 := by
      rw [← Nat.add_div_right t hpos]
      exact Nat.div_le_div_right (Nat.le_of_lt hhigh)
    by_cases heq : s.app.clock / windowMicros env = t / windowMicros env
    · exact Or.inl ⟨⟨q', now, s, s', hq', hbucket, hread, by rw [hwindow, heq]⟩, hadmitted⟩
    · exact Or.inr ⟨⟨q', now, s, s', hq', hbucket, hread, by rw [hwindow]; omega⟩, hadmitted⟩
  have hfinite := finite_admitted hW hW' hc q
  have hunion := Set.ncard_le_ncard hsubset ((hfinite _).union (hfinite _))
  have hsum := Set.ncard_union_le
    {i | InWindow env who c.history q (t / windowMicros env) i ∧ IsAdmitted c.history i}
    {i | InWindow env who c.history q (t / windowMicros env + 1) i ∧ IsAdmitted c.history i}
  have hfirst := (admission hW hW' hc q (t / windowMicros env)).bounded
  have hsecond := (admission hW hW' hc q (t / windowMicros env + 1)).bounded
  omega

omit hW' in
/-- **The admission bound.**  However the steps of checks interleave, each window of each endpoint and
address admits exactly its first `max_requests` checks, and any stretch of a window's length admits at
most twice as many.  On the guarded paths, checks share counters only if path and address agree. -/
theorem admission_bound (hlt : env.authRateLimitWindowSecs.toNat < 2 ^ 61) (q : Check) :
    (∀ w, Admission env who c.history q w) ∧
    (∀ t, {i | InStretch env who c.history q t i ∧ IsAdmitted c.history i}.ncard ≤
      2 * env.authRateLimitMax.toNat) ∧
    ∀ path ∈ limitedPaths, ∀ path' ∈ limitedPaths, ∀ ip ip',
      RateLimiter.bucket (endpointKey "POST" path) ip = RateLimiter.bucket (endpointKey "POST" path') ip' →
        path = path' ∧ ip = ip' := by
  have hW' : env.authRateLimitWindowSecs.toNat < 2 ^ 62 := by omega
  exact ⟨admission hW hW' hc q, admitted_stretch hW hW' hc q,
    fun _ hpath _ hpath' _ _ => RateLimiter.bucket_injective hpath hpath'⟩

end Bound

/-! ### Concrete checks -/

/-- Execute a statement of a check in the first window, without failures. -/
def checkExec (env : WebEnv) (o : WebOp) (s : WebState) : Option (WebRet o × WebState) :=
  if s.app.clock ≤ windowMicros env then
    (webExec env noAnswers o s).filter fun x => decide (Answered ⟨o, x.1⟩)
  else none

theorem checkExec_sound {who : Req → Check} {H : CheckTrace Req} {i : ℕ} {o : WebOp} {s s' : WebState}
    {r : WebRet o} (h : checkExec env o s = some (r, s')) : (timelyChecks env who).sem H i o s r s' := by
  unfold checkExec at h
  split at h
  · next hclock =>
    obtain ⟨hexec, hanswered⟩ := Option.filter_eq_some_iff.1 h
    refine ⟨webExec_sound hexec, of_decide_eq_true hanswered, fun _ t _ _ => ?_⟩
    exact hclock.trans (Nat.le_add_left _ _)
  · cases h

/-- Two checks of one address at the same time, of which one is admitted. -/
theorem admission_bound_of_two : ∃ c, (timelyChecks demoWeb (id : Check → Check)).Reachable (.fresh 0) c ∧
    (outcome 0 c.history, outcome 1 c.history) = (some (.ok 0), some (.error 60)) ∧
    ∀ w, Admission demoWeb id c.history ⟨"post:/auth/login", "192.0.2.1"⟩ w := by
  have hplay : (System.play (timelyChecks demoWeb (id : Check → Check)).handler
      (fun _ _ => checkExec demoWeb)
      ([.start ⟨"post:/auth/login", "192.0.2.1"⟩, .start ⟨"post:/auth/login", "192.0.2.1"⟩] ++ goes 0 1 ++
        goes 1 1 ++ goes 0 1 ++ goes 1 1 ++ goes 0 1) (.init (.fresh 0))).map
      (fun c => (outcome 0 c.history, outcome 1 c.history)) = some (some (.ok 0), some (.error 60)) := by
    decide +kernel
  obtain ⟨c, hc, hobs⟩ := Option.map_eq_some_iff.1 hplay
  have hsem : ∀ {H i o s r s'}, checkExec demoWeb o s = some (r, s') →
      (timelyChecks demoWeb (id : Check → Check)).sem H i o s r s' := fun h => checkExec_sound h
  have hreach := System.Reachable.play hsem .init hc
  have hpos : 0 < demoWeb.authRateLimitWindowSecs.toNat := by decide
  have hlt : demoWeb.authRateLimitWindowSecs.toNat < 2 ^ 61 := by decide
  exact ⟨c, hreach, hobs, (admission_bound hpos hreach hlt ⟨"post:/auth/login", "192.0.2.1"⟩).1⟩

end Socle
