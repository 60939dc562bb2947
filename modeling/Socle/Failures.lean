import Socle.Sequential

/-!
# Failing statements

Requests that end at a failing statement, and what they have written by then.

* `Sql.owner`, `Sql.writes`: the user whose rows a statement touches, and whether it writes;
* `failing`: the statement at whose failure a request has ended;
* `Wrote`: whether a log has changed the database, and `db_of_not_wrote`, that it has not otherwise;
* `traces_le`: runs follow the order of states;
* `Faulty env f`: the statements of `f` fail, and all others are executed.
-/

namespace Socle

open Interaction Prog

variable {env : Env} {s s' : State}

/-- The user whose rows a statement touches, where its parameters say so. -/
@[simp] def Sql.owner : Sql → Option Uuid
  | .insertAccount id _ _ _ _ => some id
  | .insertUser id _ _ => some id
  | .updatePasswordHash _ userId => some userId
  | .updateRole _ id => some id
  | .deactivateUser id => some id
  | .insertOAuthCredential _ userId _ _ _ => some userId
  | .deleteOAuthCredential userId _ => some userId
  | .insertRefreshToken _ userId _ _ _ => some userId
  | .revokeUserRefreshTokens userId => some userId
  | _ => none

/-- Whether a statement writes. -/
@[simp] def Sql.writes : Sql → Bool
  | .revokeRefreshToken _ => true
  | q => q.owner.isSome

/-- A statement that does not write leaves the database as it is. -/
theorem Stmt.db_eq {o : Op} {r : Ret o} (h : Stmt env o s r s')
    (ho : ∀ q, o = .sql q → q.writes = false) : s'.db = s.db := by
  rcases h.db_cases with hdb | ⟨q, res, rfl, hq⟩
  · exact hdb
  · have hwrites := ho q rfl
    cases q with
    | selectUserById | selectLocalCredential | selectOAuthConnections =>
      exact (Prod.mk.inj (Except.ok.inj hq)).2.symm
    | selectUserByEmail | selectUserByOAuthIdentity | selectRefreshToken =>
      exact (Prod.mk.inj (Except.ok.inj (bindTexts_ok.1 hq).2)).2.symm
    | _ => cases hwrites

/-- The statement at whose failure a request has ended. -/
def failing : Log Op Ret → Option Sql
  | ⟨.sql q, .error _⟩ :: _ => some q
  | _ => none

section failing

variable {log : Log Op Ret}

@[simp] theorem failing_nil : failing [] = none := rfl

/-- The types of results and errors are not indexed: they may have been computed in the goal. -/
@[simp] theorem failing_error {q : Sql} {e : q.Error} :
    failing (⟨.sql q, @Except.error (no_index q.Error) (no_index q.Result) e⟩ :: log) = some q := rfl

@[simp] theorem failing_ok {q : Sql} {res : q.Result} :
    failing (⟨.sql q, @Except.ok (no_index q.Error) (no_index q.Result) res⟩ :: log) = none := rfl

@[simp] theorem failing_random {n : ℕ} : failing (⟨.random, n⟩ :: log) = none := rfl

@[simp] theorem failing_encode {claims : Claims} {x : Except JwtError String} :
    failing (⟨.encode claims, x⟩ :: log) = none := rfl

@[simp] theorem failing_decode {token : String} {x : Except JwtError Claims} :
    failing (⟨.decode token, x⟩ :: log) = none := rfl

end failing

/-- Whether an answered statement has written. -/
def written : (o : Op) × Ret o → Bool
  | ⟨.sql q, .ok _⟩ => q.writes
  | _ => false

/-- The types of results and errors are not indexed: they may have been computed in the goal. -/
@[simp] theorem written_error {q : Sql} {e : q.Error} :
    written ⟨.sql q, @Except.error (no_index q.Error) (no_index q.Result) e⟩ = false := rfl

@[simp] theorem written_ok {q : Sql} {res : q.Result} :
    written ⟨.sql q, @Except.ok (no_index q.Error) (no_index q.Result) res⟩ = q.writes := rfl

@[simp] theorem written_now {t : OffsetDateTime} : written ⟨.now, t⟩ = false := rfl

@[simp] theorem written_random {n : ℕ} : written ⟨.random, n⟩ = false := rfl

@[simp] theorem written_encode {claims : Claims} {x : Except JwtError String} :
    written ⟨.encode claims, x⟩ = false := rfl

@[simp] theorem written_decode {token : String} {x : Except JwtError Claims} :
    written ⟨.decode token, x⟩ = false := rfl

/-- Some statement has written. -/
def Wrote (log : Log Op Ret) : Prop := ∃ x ∈ log, written x = true

@[simp] theorem not_wrote_nil : ¬ Wrote [] := by simp [Wrote]

@[simp] theorem wrote_cons {x : (o : Op) × Ret o} {log : Log Op Ret} :
    Wrote (x :: log) ↔ written x = true ∨ Wrote log := List.exists_mem_cons_iff ..

@[simp] theorem wrote_append {l l' : Log Op Ret} : Wrote (l ++ l') ↔ Wrote l ∨ Wrote l' := by
  simp only [Wrote, List.mem_append, or_and_right, exists_or]

/-- A run that has not written leaves the database as it is. -/
theorem db_of_not_wrote {log : Log Op Ret} (h : Traces (Timed (Stmt env)) log s s')
    (hlog : ¬ Wrote log) : s'.db = s.db := by
  induction log generalizing s' with
  | nil => rw [h]
  | cons x log ih =>
    obtain ⟨s₁, h₁, t, -, hstmt⟩ := h
    rw [wrote_cons, not_or] at hlog
    obtain ⟨o, r⟩ := x
    have hdb : s'.db = s₁.db := by
      cases o with
      | sql q =>
        rcases r with e | res
        · rw [hstmt.sql_error]
        · refine hstmt.db_eq fun q' heq => ?_
          cases heq
          exact eq_false_of_ne_true hlog.1
      | _ => exact hstmt.db_eq fun q' heq => by cases heq
    rw [hdb]
    exact ih h₁ hlog.2

theorem timed_le {o : Op} {r : Ret o} (h : Timed (Stmt env) o s r s') : s.Le s' := by
  obtain ⟨t, ht, h⟩ := h
  have hclock : s.Le { s with clock := t } := { State.Le.refl s with clock := ht }
  exact hclock.trans h.le

/-- Runs follow the order of states. -/
theorem traces_le {log : Log Op Ret} (h : Traces (Timed (Stmt env)) log s s') : s.Le s' := by
  induction log generalizing s' with
  | nil => rw [h]; exact .refl s
  | cons x log ih =>
    obtain ⟨s₁, h₁, hx⟩ := h
    exact (ih h₁).trans (timed_le hx)

/-! ### Chosen failures -/

/-- The infrastructure fails the statements of `f`; all others are executed. -/
inductive Faulty (env : Env) (f : Sql → Prop) : Sem Op Ret State
  | fault {q : Sql} {s : State} (hq : f q) (e : q.Error) : Faulty env f (.sql q) s (.error e) s
  | exec {o : Op} {s s' : State} {r : Ret o} (ho : ∀ q, o = .sql q → ¬ f q)
      (h : exec env o s = some (r, s')) : Faulty env f o s r s'

section Faulty

variable {f : Sql → Prop} {o : Op} {r : Ret o}

theorem Faulty.stmt (h : Faulty env f o s r s') : Stmt env o s r s' := by
  cases h with
  | fault hq e => exact .fault e
  | exec ho h => exact .exec h

theorem timed_faulty (o : Op) (s : State) (r : Ret o) (s' : State) (h : Timed (Faulty env f) o s r s') :
    Timed (Stmt env) o s r s' := by
  obtain ⟨t, ht, h⟩ := h
  exact ⟨t, ht, h.stmt⟩

/-- A statement that has been answered has not been chosen. -/
theorem not_failing_of_ok {q : Sql} {res : q.Result} (h : Timed (Faulty env f) (.sql q) s (.ok res) s') :
    ¬ f q := by
  obtain ⟨t, -, h⟩ := h
  cases h with
  | exec ho h => exact ho q rfl

/-- The failure of the infrastructure. -/
def Sql.ioError : (q : Sql) → q.Error
  | .insertAccount _ _ _ _ _ => .transaction .io
  | .selectUserById _ | .selectUserByEmail _ | .selectUserByOAuthIdentity _ _ | .selectLocalCredential _
  | .insertUser _ _ _ | .updatePasswordHash _ _ | .updateRole _ _ | .deactivateUser _
  | .insertOAuthCredential _ _ _ _ _ | .selectOAuthConnections _ | .deleteOAuthCredential _ _
  | .insertRefreshToken _ _ _ _ _ | .selectRefreshToken _ | .revokeRefreshToken _
  | .revokeUserRefreshTokens _ => SqlxError.io

/-- Execute a statement, unless it is chosen to fail. -/
def execFaulty (env : Env) (f : Sql → Bool) : (o : Op) → State → Option (Ret o × State)
  | .sql q, s => if f q then some (.error q.ioError, s) else exec env (.sql q) s
  | o, s => exec env o s

theorem execFaulty_sound {f : Sql → Bool} (h : execFaulty env f o s = some (r, s')) :
    Faulty env (fun q => f q = true) o s r s' := by
  cases o with
  | sql q =>
    simp only [execFaulty] at h
    split at h
    · next hq =>
      cases h
      exact .fault hq _
    · next hq =>
      refine .exec (fun q' heq => ?_) h
      cases heq
      exact hq
  | now | random | abort | encode | decode => exact .exec (fun q heq => by cases heq) h

end Faulty

end Socle
