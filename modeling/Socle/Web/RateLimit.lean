import Mathlib.Data.List.Basic
import Socle.Routes
import Socle.Web.Statements

/-!
# The rate limiter

`rate_limit.rs`, and the middleware of `routes/auth.rs` that uses it.

* `RateLimiter.check`: count a request in the window of its clock reading, and compare with the limit;
* `extractClientIp`, `endpointKey`: whom and what is counted;
* `rateLimitMiddleware`.
-/

namespace Socle

open Interaction Prog Valkey

variable (env : WebEnv)

namespace RateLimiter

/-- What the keys of an endpoint and an address begin with. -/
def bucket (endpoint ip : String) : String := "rl:" ++ endpoint ++ ":" ++ ip ++ ":"

/-- The counter of an endpoint, an address and a window. -/
def key (endpoint ip : String) (window : ℕ) : String := bucket endpoint ip ++ toString window

/-- `(window_secs * 2) as i64`. -/
def lifetime : ℤ := castSigned (env.authRateLimitWindowSecs * 2)

/-- Count; the first count of a counter gives it its lifetime. -/
def incr (key : String) : Prog WebOp WebRet (Except ValkeyError ℕ) := do
  match ← send (.incr key) with
  | .error e => pure (.error e)
  | .ok count =>
    if count < 0 then pure (.error (.redis "out of range integral type conversion attempted"))
    else if count = 1 then do
      match ← send (.expire key (lifetime env)) with
      | .error e => pure (.error e)
      | .ok _ => pure (.ok 1)
    else pure (.ok count.toNat)

/-- What remains of the limit, or the seconds after which to try again.  A window of no seconds panics;
where Valkey fails, the request is allowed. -/
def check (ip endpoint : String) : Prog WebOp WebRet (Except ℕ ℕ) := do
  let now ← systemTime
  let windowSecs := env.authRateLimitWindowSecs.toNat
  let maxRequests := env.authRateLimitMax.toNat
  if windowSecs = 0 then panic
  else do
    let window := now / windowSecs
    match ← incr env (key endpoint ip window) with
    | .error _ => pure (.ok maxRequests)
    | .ok count =>
      if maxRequests < count then
        let retryAfter := (window + 1) * windowSecs - now
        pure (.error (max retryAfter 1))
      else pure (.ok (maxRequests - count))

end RateLimiter

/-! ### Middleware -/

/-- The headers that say where a request comes from. -/
structure ForwardedHeaders where
  xForwardedFor : Option String
  xRealIp : Option String
  deriving DecidableEq

/-- `str::trim`, for visible ASCII. -/
def trim (s : String) : String :=
  String.ofList (((s.toList.dropWhile Char.isWhitespace).reverse.dropWhile Char.isWhitespace).reverse)

/-- The first address of a list, or nothing when it is empty. -/
def firstAddress (header : Option String) : Option String :=
  ((header.bind headerToStr).map fun s => trim (String.ofList (s.toList.takeWhile (· ≠ ',')))).filter
    (· ≠ "")

/-- The address in a header, or nothing when it is empty. -/
def soleAddress (header : Option String) : Option String :=
  ((header.bind headerToStr).map trim).filter (· ≠ "")

/-- Whom a request is counted for. -/
def extractClientIp (headers : ForwardedHeaders) : String :=
  (firstAddress headers.xForwardedFor).getD ((soleAddress headers.xRealIp).getD "unknown")

/-- `str::to_lowercase`, for ASCII. -/
def toLowercase (s : String) : String := String.ofList (s.toList.map Char.toLower)

/-- What a request is counted for. -/
def endpointKey (method path : String) : String := toLowercase method ++ ":" ++ path

/-- The paths behind the middleware; all are requested by `POST`. -/
def limitedPaths : List String := ["/auth/login", "/auth/register", "/auth/refresh", "/auth/session"]

/-- Enforce the limit on a request before it is served. -/
def rateLimitMiddleware {α : Type} (headers : ForwardedHeaders) (path : String) (next : Web α) :
    Web α := do
  match ← ExceptT.lift (RateLimiter.check env (extractClientIp headers) (endpointKey "POST" path)) with
  | .ok _ => next
  | .error retryAfter => throw (.rateLimited retryAfter)

/-! ### Specifications -/

section Sat

variable {env} {P : Log WebOp WebRet → WebOp → Prop} {log : Log WebOp WebRet}

theorem RateLimiter.sat_incr {key : String} {Q : Log WebOp WebRet → Except ValkeyError ℕ → Prop} :
    Sat P Q log (RateLimiter.incr env key) ↔ P log (.valkey (.incr key)) ∧
      (∀ count : ℤ,
        let l : Log WebOp WebRet := ⟨.valkey (.incr key), .ok count⟩ :: log
        let expire := Command.expire key (RateLimiter.lifetime env)
        (count < 0 → Q l (.error (.redis "out of range integral type conversion attempted"))) ∧
        (count = 1 → P l (.valkey expire) ∧ (∀ b, Q (⟨.valkey expire, .ok b⟩ :: l) (.ok 1)) ∧
          ∀ e, Q (⟨.valkey expire, .error e⟩ :: l) (.error e)) ∧
        (¬ count < 0 → count ≠ 1 → Q l (.ok count.toNat))) ∧
      ∀ e, Q (⟨.valkey (.incr key), .error e⟩ :: log) (.error e) := by
  simp only [RateLimiter.incr, sat_bind, sat_send, sat_pure]
  refine and_congr_right fun _ => and_congr_left fun _ => forall_congr' fun count => ?_
  by_cases hneg : count < 0
  · have hone : count ≠ 1 := by
      rintro rfl
      exact absurd hneg (show ¬ (1 : ℤ) < 0 by decide)
    simp [hneg, hone]
  · by_cases hone : count = 1
    · subst hone
      simp [sat_bind]
    · simp [hneg, hone]

theorem RateLimiter.sat_check {ip endpoint : String} {Q : Log WebOp WebRet → Except ℕ ℕ → Prop} :
    Sat P Q log (RateLimiter.check env ip endpoint) ↔ P log .systemTime ∧ ∀ now : ℕ,
      let l : Log WebOp WebRet := ⟨.systemTime, now⟩ :: log
      let windowSecs := env.authRateLimitWindowSecs.toNat
      let maxRequests := env.authRateLimitMax.toNat
      (windowSecs = 0 → P l (.app .abort)) ∧
      (windowSecs ≠ 0 → Sat P (fun l' x => match x with
        | .error _ => Q l' (.ok maxRequests)
        | .ok count =>
          (maxRequests < count → Q l' (.error (max ((now / windowSecs + 1) * windowSecs - now) 1))) ∧
          (¬ maxRequests < count → Q l' (.ok (maxRequests - count)))) l
        (RateLimiter.incr env (key endpoint ip (now / windowSecs)))) := by
  simp only [RateLimiter.check, sat_bind, sat_systemTime]
  refine and_congr_right fun _ => forall_congr' fun now => ?_
  by_cases hzero : env.authRateLimitWindowSecs.toNat = 0
  · simp [hzero]
  · rw [if_neg hzero, sat_bind]
    simp only [hzero, false_implies, ne_eq, not_false_iff, true_implies, true_and]
    refine iff_of_eq (congrArg (fun T => Sat P T _ _) ?_)
    funext l' x
    rcases x with e | count
    · rfl
    · by_cases hmax : env.authRateLimitMax.toNat < count
      · simp [hmax]
      · simp [hmax]

end Sat

end Socle
