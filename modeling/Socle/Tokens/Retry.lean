import Socle.Demo
import Socle.Failures
import Socle.Tokens.Effects

/-!
# Retrying a refresh

A refresh revokes the token that it exchanges and then goes on, without a transaction: to store the new
token, and to read the user and its credential.  What a failure leaves depends on where it happens.

* `Live`: a stored refresh token that can be exchanged, of an active user;
* `RefreshFailure`: the logs of failed refreshes;
* `refresh_retry_iff`: the failures after which the token can be presented again;
* `lost_token`: one after which it cannot.
-/

namespace Socle

open Interaction Prog

variable {env : Env} {t : String} {row : RefreshToken} {s s' : State}

/-- The refresh token `t` is stored in `row`, live and unexpired, and its user is active. -/
structure Live (env : Env) (t : String) (row : RefreshToken) (s : State) : Prop where
  stored : row ∈ s.db.refreshTokens.rows
  lookupKey : row.lookupKey = TokenService.computeLookupKey env t
  verify : env.prim.argon2Verify t row.tokenHash = some true
  revoked : row.revoked = false
  expiresAt : s.clock ≤ row.expiresAt
  active : ∃ u ∈ s.db.users.rows, u.id = row.userId ∧ u.isActive = true

/-- A token stays live as long as the database stays the same and it does not expire. -/
theorem Live.of_db (h : Live env t row s) (hdb : s'.db = s.db) (hclock : s'.clock ≤ row.expiresAt) :
    Live env t row s' where
  stored := by rw [hdb]; exact h.stored
  lookupKey := h.lookupKey
  verify := h.verify
  revoked := h.revoked
  expiresAt := hclock
  active := by rw [hdb]; exact h.active

/-- The log of a refresh of `t` that fails. -/
inductive RefreshFailure (env : Env) (t : String) : Log Op Ret → Prop
  /-- The lookup fails. -/
  | lookup {e : SqlxError} :
      RefreshFailure env t [⟨.sql (.selectRefreshToken (TokenService.computeLookupKey env t)), .error e⟩]
  | unknown : RefreshFailure env t [lookup env t none]
  | revoked {record : RefreshTokenRow} {x : (o : Op) × Ret o} (hrev : record.revoked = true) :
      RefreshFailure env t [x, lookup env t (some record)]
  | expired {record : RefreshTokenRow} {now : OffsetDateTime} {x : (o : Op) × Ret o}
      (hnow : record.expiresAt < now) :
      RefreshFailure env t [x, ⟨.now, now⟩, lookup env t (some record)]
  | mismatch {record : RefreshTokenRow} {now : OffsetDateTime}
      (hverify : env.prim.argon2Verify t record.tokenHash ≠ some true) :
      RefreshFailure env t [⟨.now, now⟩, lookup env t (some record)]
  /-- The revocation fails. -/
  | revoke {record : RefreshTokenRow} {now : OffsetDateTime} {e : SqlxError} :
      RefreshFailure env t
        [⟨.sql (.revokeRefreshToken record.id), .error e⟩, ⟨.now, now⟩, lookup env t (some record)]
  /-- Anything after the revocation fails. -/
  | rotated {record : RefreshTokenRow} {now : OffsetDateTime} {r : Unit} {l : Log Op Ret}
      (hl : rotationLog env t record now r <:+ l) : RefreshFailure env t l

/-- After the revocation, every failure is one of those that come late. -/
theorem RefreshFailure.of_suffix {α : Type} {p : App α} {log : Log Op Ret} {record : RefreshTokenRow}
    {now : OffsetDateTime} {r : Unit} (hlog : rotationLog env t record now r <:+ log) :
    SatE p (fun _ _ => True) (fun l _ => rotationLog env t record now r <:+ l)
      (fun l _ => RefreshFailure env t l) log := by
  have hgrows : SatE p (fun _ _ => True) (fun l _ => log <:+ l ∧ True) (fun l _ => log <:+ l ∧ True) log :=
    SatE.suffix (SatE.trivial (by simp) (by simp) (by simp) p)
  exact hgrows.mono (fun _ _ h => h) (fun l _ h => hlog.trans h.1) fun l _ h => .rotated (hlog.trans h.1)

/-- The log of a failed rotation, and of a successful one. -/
theorem rotateRefreshToken_failure :
    SatE (TokenService.rotateRefreshToken env t) (fun _ _ => True)
      (fun l _ => ∃ record now r, rotationLog env t record now r <:+ l)
      (fun l _ => RefreshFailure env t l) [] := by
  rw [TokenService.satE_rotateRefreshToken]
  refine ⟨trivial, .unknown, fun record => ?_, fun e => .lookup⟩
  rw [TokenService.satE_rotateRecord, TokenService.satE_isStale]
  simp only [TokenService.satE_revokeAllUserTokens]
  refine ⟨fun hrev => ⟨fun _ => ⟨trivial, fun _ => .revoked hrev, fun _ => .revoked hrev⟩, by simp⟩,
    fun _ => ⟨trivial, fun now => ⟨fun hnow => ⟨trivial, ?_, ?_⟩, fun _ => ⟨fun _ => ⟨trivial, fun r => ?_,
      fun e => .revoke⟩, .mismatch⟩⟩⟩⟩
  · exact fun _ => .expired (of_decide_eq_true hnow)
  · exact fun _ => .expired (of_decide_eq_true hnow)
  · have hsuffix : rotationLog env t record now r <:+ rotationLog env t record now r := List.suffix_rfl
    exact (RefreshFailure.of_suffix hsuffix).mono (fun _ _ h => h) (fun l _ h => ⟨record, now, r, h⟩)
      fun _ _ h => h

/-- **The log of a failed refresh.** -/
theorem refresh_failure :
    SatE (AuthService.refresh env t) (fun _ _ => True) (fun _ _ => True)
      (fun l _ => RefreshFailure env t l) [] := by
  unfold AuthService.refresh
  rw [satE_bind]
  refine rotateRefreshToken_failure.mono (fun _ _ h => h) ?_ (fun _ _ h => h)
  rintro l x ⟨record, now, r, hl⟩
  exact (RefreshFailure.of_suffix hl).mono (fun _ _ h => h) (fun _ _ _ => trivial) fun _ _ h => h

section Retry

variable {f : Sql → Prop} {record : RefreshTokenRow}

/-- A lookup of a live token finds its row. -/
theorem Live.lookup (hlive : Live env t row s)
    (h : Traces (Timed (Stmt env)) [lookup env t (some record)] s s') :
    s'.db = s.db ∧ row.record = record := by
  obtain ⟨hdb, -, row', hrow', hkey, rfl⟩ := lookup_traces h
  rw [Db.refreshToken_unique hlive.stored hrow' (hlive.lookupKey.trans hkey.symm)]
  exact ⟨hdb, rfl⟩

/-- The clock has not been read later than the run ends. -/
theorem now_le {x : (o : Op) × Ret o} {now : OffsetDateTime} {l : Log Op Ret}
    (h : Traces (Timed (Stmt env)) (x :: ⟨.now, now⟩ :: l) s s') : now ≤ s'.clock := by
  obtain ⟨s₁, ⟨s₂, -, τ, -, hnow⟩, hx⟩ := h
  obtain ⟨rfl, rfl⟩ := hnow.now_eq
  exact Int.ofNat_le.2 (timed_le hx).clock

/-- A statement that cannot fail has been chosen to. -/
theorem Refused.faulty {q : Sql} {e : q.Error} (hq : Refused ⟨.sql q, .error e⟩)
    (h : Timed (Faulty env f) (.sql q) s (.error e) s') : f q := by
  obtain ⟨τ, hτ, h⟩ := h
  cases h with
  | fault hf => exact hf
  | exec _ h => exact absurd ⟨τ, hτ, h⟩ hq.not_timed

/-- **Retrying a refresh.**  After a refresh of a live token has failed, the token is still live, and
nothing has changed, exactly if the statement that was chosen to fail is the lookup of the token or its
revocation. -/
theorem refresh_retry_iff (hx : env.prim.Exact) (hlive : Live env t row s) {e : AppError}
    (h : Runs (Timed (Faulty env f)) (AuthService.refresh env t).run s (.error e) s')
    (hclock : s'.clock ≤ row.expiresAt) :
    (Live env t row s' ∧ s'.db = s.db) ↔
      f (.selectRefreshToken (TokenService.computeLookupKey env t)) ∨ f (.revokeRefreshToken row.id) := by
  obtain ⟨log, hrec⟩ := h.recorded []
  obtain ⟨hfailure, hfaulty⟩ := hrec.traces refresh_failure
  have htraces := hfaulty.mono timed_faulty
  have hunchanged : s'.db = s.db → Live env t row s' ∧ s'.db = s.db := fun hdb =>
    ⟨hlive.of_db hdb hclock, hdb⟩
  cases hfailure with
  | lookup =>
    obtain ⟨_, rfl, hlookup⟩ := hfaulty
    exact iff_of_true (hunchanged (db_of_not_wrote htraces (by simp)))
      (Or.inl ((Refused.of_select hx).faulty hlookup))
  | unknown =>
    exact absurd hlive.lookupKey ((lookup_none htraces).2 row hlive.stored)
  | revoked hrev =>
    obtain ⟨s₁, hlookup, -⟩ := htraces
    obtain ⟨-, rfl⟩ := hlive.lookup hlookup
    exact absurd hrev (by simp [RefreshToken.record, hlive.revoked])
  | expired hnow =>
    have hread := now_le htraces
    obtain ⟨s₂, ⟨s₁, hlookup, -⟩, -⟩ := htraces
    obtain ⟨-, rfl⟩ := hlive.lookup hlookup
    exact absurd (Int.lt_of_lt_of_le hnow hread) (Int.not_lt.2 hclock)
  | mismatch hverify =>
    obtain ⟨s₁, hlookup, -⟩ := htraces
    obtain ⟨-, rfl⟩ := hlive.lookup hlookup
    exact absurd hlive.verify hverify
  | revoke =>
    have hdb : s'.db = s.db := db_of_not_wrote htraces (by simp [Socle.lookup])
    obtain ⟨s₂, ⟨s₁, hlookup, -⟩, -⟩ := htraces
    obtain ⟨-, rfl⟩ := hlive.lookup hlookup
    obtain ⟨_, -, hrevoke⟩ := hfaulty
    exact iff_of_true (hunchanged hdb) (Or.inr ((Refused.sql fun _ _ _ => ⟨_, rfl⟩).faulty hrevoke))
  | rotated hl =>
    obtain ⟨l, rfl⟩ := hl
    obtain ⟨s₃, hrotation, hlate⟩ := traces_append.1 hfaulty
    obtain ⟨row', hrow', hkey, rfl, hrows, -⟩ := rotation_traces (hrotation.mono timed_faulty)
    obtain rfl := Db.refreshToken_unique hlive.stored hrow' (hlive.lookupKey.trans hkey.symm)
    refine iff_of_false ?_ ?_
    · -- The row has been revoked, and stays so.
      rintro ⟨-, hdb⟩
      have hrevoked : { row with revoked := true } ∈ s₃.db.refreshTokens.rows := by
        rw [hrows]
        exact List.mem_map.2 ⟨row, hlive.stored, if_pos rfl⟩
      obtain ⟨row', hrow', heq, hstays⟩ := (traces_le (hlate.mono timed_faulty)).refreshTokens _ hrevoked
      rw [hdb] at hrow'
      have hsame := Db.refreshToken_unique hlive.stored hrow' (by rw [heq])
      rw [← hsame, hlive.revoked] at hstays
      cases hstays rfl
    · -- Both statements have been answered.
      obtain ⟨s₂, ⟨s₁, ⟨_, rfl, hlookup⟩, -⟩, hrevoke⟩ := hrotation
      rintro (hf | hf)
      · exact not_failing_of_ok hlookup hf
      · exact not_failing_of_ok hrevoke hf

end Retry

/-- The statement that revokes one refresh token. -/
def revokesOne : Sql → Bool
  | .revokeRefreshToken _ => true
  | _ => false

/-- The statement that stores the successor of a refresh token. -/
def storesSuccessor : Sql → Bool
  | .insertRefreshToken _ _ _ _ _ => true
  | _ => false

/-- The statements of a refresh that come after the revocation. -/
def comesLate : List (Sql → Bool) := [
  storesSuccessor,
  fun | .selectUserById _ => true | _ => false,
  fun | .selectLocalCredential _ => true | _ => false]

/-- Alice, who has registered, presents her refresh token, and some statements are chosen to fail. -/
def refreshFaulty (f : Sql → Bool) : Option (Except AppError AuthResponse × State) :=
  (AuthService.refresh demo (tally 2)).run.eval (execAt (execFaulty demo f) 0) registered

theorem live_registered : ∃ row, Live demo (tally 2) row registered ∧
    row.expiresAt = 604800000000 := by
  have hfind : (registered.db.findRefreshToken (TokenService.computeLookupKey demo (tally 2))).map
      (fun row => decide (demo.prim.argon2Verify (tally 2) row.tokenHash = some true ∧
        row.revoked = false ∧ row.expiresAt = 604800000000 ∧
        ∃ u ∈ registered.db.users.rows, u.id = row.userId ∧ u.isActive = true)) = some true := by
    decide +kernel
  obtain ⟨row, hrow, hobs⟩ := Option.map_eq_some_iff.1 hfind
  obtain ⟨hverify, hrev, hexp, hactive⟩ := of_decide_eq_true hobs
  obtain ⟨hmem, hkey⟩ := Db.findRefreshToken_some hrow
  have hclock : registered.clock = 0 := by decide +kernel
  exact ⟨row, ⟨hmem, hkey, hverify, hrev, by rw [hclock, hexp]; decide, hactive⟩, hexp⟩

/-- A failed refresh of Alice, evaluated. -/
theorem runs_refreshFaulty {f : Sql → Bool} {P : State → Prop} [DecidablePred P]
    (h : (refreshFaulty f).map (fun x => (x.1, decide (P x.2))) = some (.error (.database .io), true)) :
    ∃ s', Runs (Timed (Faulty demo fun q => f q = true)) (AuthService.refresh demo (tally 2)).run registered
      (.error (.database .io)) s' ∧ P s' := by
  obtain ⟨⟨x, s'⟩, hx, hobs⟩ := Option.map_eq_some_iff.1 h
  obtain ⟨rfl, hs'⟩ := Prod.mk.inj hobs
  have hsem : ∀ {o s r s'}, execAt (execFaulty demo f) 0 o s = some (r, s') →
      Timed (Faulty demo fun q => f q = true) o s r s' :=
    fun h => execAt_sound (fun h => execFaulty_sound h) h
  exact ⟨s', runs_of_eval @hsem hx, of_decide_eq_true hs'⟩

/-- When the revocation fails, Alice can present her token again. -/
theorem retry_of_alice : ∃ row s', Live demo (tally 2) row registered ∧
    Runs (Timed (Faulty demo fun q => revokesOne q = true)) (AuthService.refresh demo (tally 2)).run
      registered (.error (.database .io)) s' ∧
    Live demo (tally 2) row s' ∧ s'.db = registered.db := by
  obtain ⟨row, hlive, hexp⟩ := live_registered
  obtain ⟨s', hrun, hclock⟩ := runs_refreshFaulty (f := revokesOne) (P := fun s => s.clock = 0)
    (by decide +kernel)
  exact ⟨row, s', hlive, hrun, (refresh_retry_iff Primitives.ideal_exact hlive hrun
    (by rw [hclock, hexp]; decide)).2 (Or.inr rfl)⟩

/-- When a later statement fails, her token has been revoked. -/
theorem lost_when_late : ∀ f ∈ comesLate, ∃ row s', Live demo (tally 2) row registered ∧
    Runs (Timed (Faulty demo fun q => f q = true)) (AuthService.refresh demo (tally 2)).run registered
      (.error (.database .io)) s' ∧
    s'.clock ≤ row.expiresAt ∧ ¬ Live demo (tally 2) row s' := by
  let P (s : State) : Prop := s.clock = 0 ∧ ∀ r ∈ s.db.refreshTokens.rows,
    r.lookupKey = TokenService.computeLookupKey demo (tally 2) → r.revoked = true
  have hruns : ∀ f ∈ comesLate, (refreshFaulty f).map (fun x => (x.1, decide (P x.2))) =
      some (.error (.database .io), true) := by decide +kernel
  intro f hf
  obtain ⟨row, hlive, hexp⟩ := live_registered
  obtain ⟨s', hrun, hclock, hrevoked⟩ := runs_refreshFaulty (hruns f hf)
  refine ⟨row, s', hlive, hrun, by rw [hclock, hexp]; decide, fun hlive' => ?_⟩
  have hrev := hrevoked row hlive'.stored hlive'.lookupKey
  rw [hlive'.revoked] at hrev
  cases hrev

/-- **A lost token.**  It is so when the successor cannot be stored. -/
theorem lost_token : ∃ row s', Live demo (tally 2) row registered ∧
    Runs (Timed (Faulty demo fun q => storesSuccessor q = true)) (AuthService.refresh demo (tally 2)).run
      registered (.error (.database .io)) s' ∧
    s'.clock ≤ row.expiresAt ∧ ¬ Live demo (tally 2) row s' :=
  lost_when_late storesSuccessor List.mem_cons_self

end Socle
