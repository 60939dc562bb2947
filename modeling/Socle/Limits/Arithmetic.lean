import Socle.Limits.Admission

/-!
# The arithmetic of the rate limiter

The limit and the length of a window are `u64` values that nothing checks.

* `checkedDiv`, `checkedAdd`, …: the operations of `u64`, where they are exact;
* `retryAfter`: what the release build computes, which wraps; `verdict_eq_retryAfter`: the model of
  `RateLimiter.check` computes the same;
* `SafeAt`: a check at a time and with a count computes without wrapping or dividing by zero, gives a new
  counter a lifetime that lasts, and refuses for no longer than a window;
* `unsafe_windows`: windows for which that fails;
* `safeAt_iff`: when exactly it holds.
-/

namespace Socle

open Interaction Prog Valkey

/-! ### Checked arithmetic -/

section Checked

/-- `u64::checked_div`. -/
def checkedDiv (a b : UInt64) : Option UInt64 := if b = 0 then none else some (a / b)

def checkedAdd (a b : UInt64) : Option UInt64 :=
  if a.toNat + b.toNat < 2 ^ 64 then some (a + b) else none

def checkedMul (a b : UInt64) : Option UInt64 :=
  if a.toNat * b.toNat < 2 ^ 64 then some (a * b) else none

def checkedSub (a b : UInt64) : Option UInt64 := if b ≤ a then some (a - b) else none

variable {a b c : UInt64}

theorem checkedDiv_eq_some : checkedDiv a b = some c ↔ b ≠ 0 ∧ c = a / b := by
  unfold checkedDiv
  split
  · next h => simp [h]
  · next h => simp [h, eq_comm]

theorem checkedAdd_eq_some :
    checkedAdd a b = some c ↔ a.toNat + b.toNat < 2 ^ 64 ∧ c.toNat = a.toNat + b.toNat := by
  unfold checkedAdd
  split
  · next h =>
    have hadd : (a + b).toNat = a.toNat + b.toNat := by
      rw [UInt64.toNat_add]
      exact Nat.mod_eq_of_lt h
    rw [Option.some.injEq, ← UInt64.toNat_inj, hadd]
    exact ⟨fun heq => ⟨h, heq.symm⟩, fun heq => heq.2.symm⟩
  · next h => exact ⟨fun heq => (by cases heq), fun heq => absurd heq.1 h⟩

theorem checkedMul_eq_some :
    checkedMul a b = some c ↔ a.toNat * b.toNat < 2 ^ 64 ∧ c.toNat = a.toNat * b.toNat := by
  unfold checkedMul
  split
  · next h =>
    have hmul : (a * b).toNat = a.toNat * b.toNat := by
      rw [UInt64.toNat_mul]
      exact Nat.mod_eq_of_lt h
    rw [Option.some.injEq, ← UInt64.toNat_inj, hmul]
    exact ⟨fun heq => ⟨h, heq.symm⟩, fun heq => heq.2.symm⟩
  · next h => exact ⟨fun heq => (by cases heq), fun heq => absurd heq.1 h⟩

end Checked

/-! ### The arithmetic of a check -/

namespace RateLimiter

/-- The lifetime that `incr` computes for a new counter. -/
def checkedLifetime (env : WebEnv) (count : UInt64) : Option UInt64 :=
  if count = 1 then checkedMul env.authRateLimitWindowSecs 2 else some 0

/-- What a check at the time `now` computes when it is told `count`, with every operation checked. -/
def checkedArithmetic (env : WebEnv) (now count : UInt64) : Option (Except UInt64 UInt64) := do
  let window ← checkedDiv now env.authRateLimitWindowSecs
  let _ ← checkedLifetime env count
  if env.authRateLimitMax < count then do
    let next ← checkedAdd window 1
    let windowEnd ← checkedMul next env.authRateLimitWindowSecs
    let retryAfter ← checkedSub windowEnd now
    some (.error (max retryAfter 1))
  else do
    let remaining ← checkedSub env.authRateLimitMax count
    some (.ok remaining)

/-- The seconds after which to try again, as the release build computes them. -/
def retryAfter (env : WebEnv) (now : UInt64) : UInt64 :=
  max ((now / env.authRateLimitWindowSecs + 1) * env.authRateLimitWindowSecs - now) 1

end RateLimiter

/-- The seconds until the window of `now` ends. -/
def timeLeft (env : WebEnv) (now : ℕ) : ℕ :=
  (now / env.authRateLimitWindowSecs.toNat + 1) * env.authRateLimitWindowSecs.toNat - now

section Arithmetic

variable {env : WebEnv} {now count : UInt64}

theorem timeLeft_pos (hW : 0 < env.authRateLimitWindowSecs.toNat) (now : ℕ) : 0 < timeLeft env now := by
  have hlt := Nat.lt_div_mul_add hW (a := now)
  unfold timeLeft
  rw [Nat.add_mul, Nat.one_mul]
  omega

theorem timeLeft_le (now : ℕ) : timeLeft env now ≤ env.authRateLimitWindowSecs.toNat := by
  have hle := Nat.div_mul_le_self now env.authRateLimitWindowSecs.toNat
  unfold timeLeft
  rw [Nat.add_mul, Nat.one_mul]
  omega

theorem verdict_eq_error {now count : ℕ} (hmax : env.authRateLimitMax.toNat < count) :
    verdict env now count = .error (max (timeLeft env now) 1) := if_pos hmax

/-- Where the last product wraps, the difference wraps back: the model of a check computes what the
release build does. -/
theorem verdict_eq_retryAfter (hW : 0 < env.authRateLimitWindowSecs.toNat)
    (hmax : env.authRateLimitMax.toNat < count.toNat) :
    verdict env now.toNat count.toNat = .error (RateLimiter.retryAfter env now).toNat := by
  have hsub : ((now / env.authRateLimitWindowSecs + 1) * env.authRateLimitWindowSecs - now).toNat =
      timeLeft env now.toNat := by
    have hpos := timeLeft_pos hW now.toNat
    have hle := @timeLeft_le env now.toNat
    have hlt := env.authRateLimitWindowSecs.toNat_lt
    have hnow := now.toNat_lt
    have hend : (now.toNat / env.authRateLimitWindowSecs.toNat + 1) *
        env.authRateLimitWindowSecs.toNat = now.toNat + timeLeft env now.toNat := by
      unfold timeLeft at hpos ⊢
      omega
    rw [UInt64.toNat_sub, UInt64.toNat_mul, UInt64.toNat_add, UInt64.toNat_div]
    rw [Nat.mod_mul_mod, UInt64.toNat_one, hend]
    omega
  rw [verdict_eq_error hmax, RateLimiter.retryAfter]
  congr 1
  rw [UInt64.toNat_max, hsub]
  rfl

/-- When no operation of a check wraps or divides by zero. -/
theorem checkedArithmetic_isSome_iff : (∃ x, RateLimiter.checkedArithmetic env now count = some x) ↔
    env.authRateLimitWindowSecs ≠ 0 ∧
      (count = 1 → env.authRateLimitWindowSecs.toNat * 2 < 2 ^ 64) ∧
      (env.authRateLimitMax < count →
        (now.toNat / env.authRateLimitWindowSecs.toNat + 1) * env.authRateLimitWindowSecs.toNat <
          2 ^ 64) := by
  have htwo : (2 : UInt64).toNat = 2 := rfl
  have hone : (1 : UInt64).toNat = 1 := rfl
  constructor
  · rintro ⟨x, hx⟩
    obtain ⟨window, hwindow, hx⟩ := Option.bind_eq_some_iff.1 hx
    obtain ⟨lifetime, hlifetime, hx⟩ := Option.bind_eq_some_iff.1 hx
    obtain ⟨hzero, rfl⟩ := checkedDiv_eq_some.1 hwindow
    refine ⟨hzero, fun hcount => ?_, fun hmax => ?_⟩
    · rw [RateLimiter.checkedLifetime, if_pos hcount] at hlifetime
      exact htwo ▸ (checkedMul_eq_some.1 hlifetime).1
    · rw [if_pos hmax] at hx
      obtain ⟨next, hnext, hx⟩ := Option.bind_eq_some_iff.1 hx
      obtain ⟨windowEnd, hend, -⟩ := Option.bind_eq_some_iff.1 hx
      have hmul := (checkedMul_eq_some.1 hend).1
      rw [(checkedAdd_eq_some.1 hnext).2, UInt64.toNat_div, hone] at hmul
      exact hmul
  · rintro ⟨hzero, hdouble, hend⟩
    have hpos : 0 < env.authRateLimitWindowSecs.toNat := by
      refine Nat.pos_of_ne_zero fun h => hzero ?_
      exact UInt64.toNat_inj.1 h
    have hlifetime : ∃ lifetime, RateLimiter.checkedLifetime env count = some lifetime := by
      unfold RateLimiter.checkedLifetime
      by_cases hcount : count = 1
      · rw [if_pos hcount, checkedMul, htwo, if_pos (hdouble hcount)]
        exact ⟨_, rfl⟩
      · rw [if_neg hcount]
        exact ⟨_, rfl⟩
    obtain ⟨lifetime, hlifetime⟩ := hlifetime
    unfold RateLimiter.checkedArithmetic
    rw [checkedDiv_eq_some.2 ⟨hzero, rfl⟩, hlifetime]
    by_cases hmax : env.authRateLimitMax < count
    · have hwindow := UInt64.toNat_div now env.authRateLimitWindowSecs
      have hmul := Nat.le_mul_of_pos_right (now.toNat / env.authRateLimitWindowSecs.toNat + 1) hpos
      have hleft := timeLeft_pos hpos now.toNat
      have hlt := hend hmax
      have hadd : (now / env.authRateLimitWindowSecs).toNat + (1 : UInt64).toNat < 2 ^ 64 := by
        rw [hwindow, hone]
        exact Nat.lt_of_le_of_lt hmul hlt
      have hnext : (now / env.authRateLimitWindowSecs + 1).toNat =
          now.toNat / env.authRateLimitWindowSecs.toNat + 1 := by
        rw [UInt64.toNat_add, Nat.mod_eq_of_lt hadd, hwindow, hone]
      have hproduct : ((now / env.authRateLimitWindowSecs + 1) * env.authRateLimitWindowSecs).toNat =
          (now.toNat / env.authRateLimitWindowSecs.toNat + 1) * env.authRateLimitWindowSecs.toNat := by
        rw [UInt64.toNat_mul, hnext, Nat.mod_eq_of_lt hlt]
      have hle : now ≤ (now / env.authRateLimitWindowSecs + 1) * env.authRateLimitWindowSecs := by
        rw [UInt64.le_iff_toNat_le, hproduct]
        unfold timeLeft at hleft
        omega
      simp only [Option.bind_eq_bind, Option.bind_some, if_pos hmax, checkedAdd, if_pos hadd, checkedMul,
        hnext, if_pos hlt, checkedSub, if_pos hle]
      exact ⟨_, rfl⟩
    · have hle : count ≤ env.authRateLimitMax := UInt64.not_lt.1 hmax
      simp only [Option.bind_eq_bind, Option.bind_some, if_neg hmax, checkedSub, if_pos hle]
      exact ⟨_, rfl⟩

/-! ### Safe checks -/

/-- The log of a check that reads the clock as `now` and is told `count`. -/
def Told (now count : UInt64) (log : Log WebOp WebRet) : Prop :=
  (∀ t : ℕ, ⟨.systemTime, t⟩ ∈ log → t = now.toNat) ∧
    ∀ (k : String) (n : ℤ), ⟨.valkey (.incr k), .ok n⟩ ∈ log → n = count.toNat

/-- A check computes what it should when it reads the clock as `now` and is told `count`. -/
structure SafeAt (env : WebEnv) (now count : UInt64) : Prop where
  /-- No operation divides by zero or leaves `u64`. -/
  exact : ∃ x, RateLimiter.checkedArithmetic env now count = some x
  /-- The check does not panic, a new counter lives until its window has ended, and a refusal is for
  at least a second and at most a window. -/
  bounded : ∀ ip endpoint, Sat
    (fun log o => Told now count log → o ≠ .app .abort ∧ ∀ k seconds, o = .valkey (.expire k seconds) →
      0 < seconds ∧ timeLeft env now.toNat ≤ seconds)
    (fun log x => Told now count log → ∀ r, x = .error r →
      1 ≤ r ∧ r ≤ env.authRateLimitWindowSecs.toNat) [] (RateLimiter.check env ip endpoint)

/-- A new counter is given its lifetime. -/
theorem SafeAt.lifetime (h : SafeAt env now count) (hzero : env.authRateLimitWindowSecs ≠ 0)
    (hcount : count = 1) : 0 < RateLimiter.lifetime env := by
  have hcheck := RateLimiter.sat_check.1 (h.bounded "" "")
  have hincr := RateLimiter.sat_incr.1 ((hcheck.2 now.toNat).2 fun heq => hzero (UInt64.toNat_inj.1 heq))
  have hexpire := ((hincr.2.1 1).2.1 rfl).1 ?_
  · exact (hexpire.2 _ _ rfl).1
  · subst hcount
    refine ⟨fun t ht => ?_, fun k n hn => ?_⟩
    · simpa using ht
    · rw [show n = 1 from (by simpa using hn : _ ∧ n = 1).2]
      rfl

/-- **When a check is safe.**  The window is not of zero seconds; where the counter is new, the window is
shorter than `2 ^ 62` seconds; and where the check is refused, the end of the window is a `u64`. -/
theorem safeAt_iff : SafeAt env now count ↔
    env.authRateLimitWindowSecs.toNat ≠ 0 ∧
      (count = 1 → env.authRateLimitWindowSecs.toNat < 2 ^ 62) ∧
      (env.authRateLimitMax < count →
        (now.toNat / env.authRateLimitWindowSecs.toNat + 1) * env.authRateLimitWindowSecs.toNat <
          2 ^ 64) := by
  have hzero_iff : env.authRateLimitWindowSecs ≠ 0 ↔ env.authRateLimitWindowSecs.toNat ≠ 0 :=
    not_congr UInt64.toNat_inj.symm
  constructor
  · intro h
    obtain ⟨hzero, hdouble, hend⟩ := checkedArithmetic_isSome_iff.1 h.exact
    refine ⟨hzero_iff.1 hzero, fun hcount => ?_, hend⟩
    have hlt := castSigned_nonneg_iff.1 (Int.le_of_lt (h.lifetime hzero hcount))
    rw [UInt64.toNat_mul, show (2 : UInt64).toNat = 2 from rfl, Nat.mod_eq_of_lt (hdouble hcount)] at hlt
    omega
  · rintro ⟨hzero, hshort, hend⟩
    have hW := Nat.pos_of_ne_zero hzero
    have hpos := timeLeft_pos hW now.toNat
    have hle := @timeLeft_le env now.toNat
    refine ⟨checkedArithmetic_isSome_iff.2 ⟨hzero_iff.2 hzero, fun hcount => ?_, hend⟩,
      fun ip endpoint => ?_⟩
    · have hlt := hshort hcount
      omega
    rw [RateLimiter.sat_check]
    refine ⟨fun _ => ⟨by simp, by simp⟩, fun t => ⟨fun h => absurd h hzero, fun _ => ?_⟩⟩
    -- What is refused is refused until the window ends.
    have hrefused : ∀ {l : Log WebOp WebRet} {r : ℕ}, Told now count l → ⟨.systemTime, t⟩ ∈ l →
        (Except.error (max ((t / env.authRateLimitWindowSecs.toNat + 1) *
          env.authRateLimitWindowSecs.toNat - t) 1) : Except ℕ ℕ) = .error r →
        1 ≤ r ∧ r ≤ env.authRateLimitWindowSecs.toNat := by
      intro l r htold hmem heq
      obtain rfl := htold.1 t hmem
      have hr := Except.error.inj heq
      unfold timeLeft at hpos hle
      omega
    rw [RateLimiter.sat_incr]
    refine ⟨fun _ => ⟨by simp, by simp⟩, fun n => ⟨fun _ _ r heq => (by cases heq), fun hone => ?_,
      fun _ _ => ⟨fun _ htold r heq => hrefused htold (by simp) heq, fun _ _ r heq => (by cases heq)⟩⟩,
      fun e _ r heq => (by cases heq)⟩
    refine ⟨fun htold => ⟨by simp, fun k seconds heq => ?_⟩, fun b => ⟨fun _ htold r heq =>
      hrefused htold (by simp) heq, fun _ _ r heq => (by cases heq)⟩, fun e _ r heq => (by cases heq)⟩
    subst hone
    have hcount : count = 1 := by
      have hn := htold.2 _ _ List.mem_cons_self
      exact UInt64.toNat_inj.1 (Int.ofNat_inj.1 hn.symm)
    cases heq
    rw [lifetime_eq (hshort hcount)]
    constructor <;> omega

/-- The service with windows of so many seconds. -/
def withWindow (windowSecs : UInt64) : WebEnv := { demoWeb with authRateLimitWindowSecs := windowSecs }

/-- A window of no seconds divides by zero; the lifetime of a counter is negative for a window of
`2 ^ 62` seconds, and zero for one of `2 ^ 63`; and the end of a window need not be a `u64`. -/
theorem unsafe_windows :
    ¬ SafeAt (withWindow 0) 0 1 ∧
    (¬ SafeAt (withWindow (.ofNat (2 ^ 62))) 0 1 ∧
      RateLimiter.lifetime (withWindow (.ofNat (2 ^ 62))) = -9223372036854775808) ∧
    (¬ SafeAt (withWindow (.ofNat (2 ^ 63))) 0 1 ∧
      RateLimiter.lifetime (withWindow (.ofNat (2 ^ 63))) = 0) ∧
    ¬ SafeAt (withWindow 3) (.ofNat (2 ^ 64 - 1)) 2 := by
  refine ⟨?_, ⟨?_, by decide +kernel⟩, ⟨?_, by decide +kernel⟩, ?_⟩
  · intro h
    obtain ⟨hzero, -⟩ := checkedArithmetic_isSome_iff.1 h.exact
    exact hzero rfl
  · intro h
    exact absurd (h.lifetime (by decide +kernel) rfl) (by decide +kernel)
  · intro h
    exact absurd (h.lifetime (by decide +kernel) rfl) (by decide +kernel)
  · intro h
    obtain ⟨-, -, hend⟩ := checkedArithmetic_isSome_iff.1 h.exact
    exact absurd (hend (by decide +kernel)) (by decide +kernel)

end Arithmetic

end Socle
