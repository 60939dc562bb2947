import Socle.Demo

/-!
# Rotation under concurrency

* `Rotated`: the log of a request that has read, checked and revoked a refresh token;
* `SingleUse`: a refresh token is exchanged at most once;
* `exchanged_twice`: two concurrent refreshes of one token both succeed;
* `single_use`: a token is exchanged at most once in every run in which each
  `UPDATE refresh_tokens SET revoked = TRUE WHERE id = …` finds its row still unrevoked.
-/

namespace Socle

open Interaction Prog System

variable {env : Env}

/-- The statement that stores a new refresh token. -/
@[simp] def Op.issues : Op → Bool
  | .sql (.insertRefreshToken _ _ _ _ _) => true
  | _ => false

/-- The log begins with the three steps that revoke the token `t`: it has been read as `record`,
found neither revoked nor expired, and revoked. -/
def Rotated (env : Env) (t : String) (record : RefreshTokenRow) (log : Log Op Ret) : Prop :=
  record.revoked = false ∧ ∃ (now : OffsetDateTime) (r : Unit), now ≤ record.expiresAt ∧
    [⟨.sql (.revokeRefreshToken record.id), .ok r⟩, ⟨.now, now⟩,
      ⟨.sql (.selectRefreshToken (TokenService.computeLookupKey env t)), .ok (some record)⟩] <:+ log

theorem Rotated.of_suffix {t : String} {record : RefreshTokenRow} {log log' : Log Op Ret}
    (h : Rotated env t record log) (hl : log <:+ log') : Rotated env t record log' := by
  obtain ⟨hrev, now, r, hnow, hsuffix⟩ := h
  exact ⟨hrev, now, r, hnow, hsuffix.trans hl⟩

/-- The lookup that a rotation starts with. -/
theorem Rotated.lookup {t : String} {record : RefreshTokenRow} {H : Trace} {i : ℕ}
    (h : Rotated env t record (localLog i H)) :
    ∃ ps s s', Occurs H ps (.stmt i
      (.sql (.selectRefreshToken (TokenService.computeLookupKey env t))) (.ok (some record)) s s') := by
  obtain ⟨-, now, r, -, hl⟩ := h
  exact stmt_of_log (hl.subset (List.mem_cons_of_mem _ (List.mem_cons_of_mem _ List.mem_cons_self)))

/-- What a refresh does: it looks the token up first, stores one new token for the owner of the
presented one and after revoking that, and succeeds for an active owner only. -/
theorem handle_rotated (q : Request) :
    SatE (handle env q)
      (fun log o => ∀ t, q = .refresh t →
        (∀ key, o = .sql (.selectRefreshToken key) → log = []) ∧
        ∀ id userId hash key exp, o = .sql (.insertRefreshToken id userId hash key exp) →
          (∃ record, Rotated env t record log ∧ record.userId = userId) ∧
            ∀ x ∈ log, x.1.issues = false)
      (fun log _ => ∀ t, q = .refresh t → ∃ record user, Rotated env t record log ∧
        ⟨.sql (.selectUserById record.userId), .ok (some user)⟩ ∈ log ∧ user.isActive = true)
      (fun _ _ => True) [] := by
  cases q with
  | refresh t =>
    simp [handle, Routes.refresh, AuthService.refresh, UserService.findById,
      UserService.findLocalCredential, Option.forall]
    intro record hrev now hnow _ r n salt hash _ now' _ k
    have hrot : ∀ {log : Log Op Ret}, [⟨.sql (.revokeRefreshToken record.id), .ok r⟩, ⟨.now, now⟩,
        ⟨.sql (.selectRefreshToken (TokenService.computeLookupKey env t)), .ok (some record)⟩] <:+ log →
        Rotated env t record log :=
      fun hl => ⟨hrev, now, r, hnow, hl⟩
    refine ⟨?_, fun r' user hactive =>
      ⟨fun _ _ _ => ⟨record, hrot ?_, rfl, hactive⟩, fun _ _ _ _ => ⟨record, hrot ?_, rfl, hactive⟩⟩⟩
    · rintro _ userId _ _ _ - huser - - -
      exact ⟨record, hrot ⟨[_, _, _, _], rfl⟩, huser⟩
    · exact ⟨[_, _, _, _, _, _, _, _, _], rfl⟩
    · exact ⟨[_, _, _, _, _, _, _, _, _], rfl⟩
  | _ => exact SatE.trivial (by simp) (by simp) (by simp) _

/-! ### Single use -/

/-- A refresh token is exchanged at most once: of the requests that present it at most one is
answered with a new pair of tokens, and together they store at most one new refresh token. -/
structure SingleUse (H : Trace) : Prop where
  one_answer : ∀ {t i j a b}, .start i (.refresh t) ∈ H → .start j (.refresh t) ∈ H →
    .done i (.ok a) ∈ H → .done j (.ok b) ∈ H → i = j
  one_successor : ∀ {t i j h h' userId userId' key key'}, .start i (.refresh t) ∈ H →
    .start j (.refresh t) ∈ H → Stores H h i userId key → Stores H h' j userId' key' → i = j ∧ h = h'

/-- The statement that revokes one refresh token finds it unrevoked. -/
def RevokesLive : Trace → ℕ → (o : Op) → State → Ret o → Prop
  | _, _, .sql (.revokeRefreshToken id), s, .ok _ =>
    ∀ r ∈ s.db.refreshTokens.rows, r.id = id → r.revoked = false
  | _, _, _, _, _ => True

section Unique

variable {s₀ : State} {c : Pool Op Ret Request (Except AppError Response) State} {t : String}
  {record : RefreshTokenRow} {i : ℕ}

/-- The statement of a rotation that revokes the token, and the row that it revokes. -/
theorem Rotated.revokes (hc : (service env).Reachable s₀ c)
    (h : Rotated env t record (localLog i c.history)) :
    ∃ past r s s', Occurs c.history past (.stmt i (.sql (.revokeRefreshToken record.id)) (.ok r) s s') ∧
      ∃ row ∈ s.db.refreshTokens.rows, row.id = record.id ∧
        row.lookupKey = TokenService.computeLookupKey env t := by
  obtain ⟨-, now, r, -, hl⟩ := h
  obtain ⟨past, s, s', he, hlog⟩ := exists_occurs_of_suffix hl
  refine ⟨past, r, s, s', he, ?_⟩
  have hmem : (⟨.sql (.selectRefreshToken (TokenService.computeLookupKey env t)), .ok (some record)⟩ :
      (o : Op) × Ret o) ∈ localLog i past := by
    rw [hlog]
    exact List.mem_cons_of_mem _ List.mem_cons_self
  obtain ⟨past', s₁, s₁', he'⟩ := stmt_of_log hmem
  obtain ⟨rfl, row, hrow, hkey, rfl⟩ := selectRefreshToken_row (service_stmt hc (he.trans he').mem)
  obtain ⟨row', hrow', heq, -⟩ := (service_le hc he he'.mem).refreshTokens row hrow
  exact ⟨row', hrow', by rw [heq]; rfl, by rw [heq, ← hkey]⟩

/-- After the statement that revokes a token, its row is revoked. -/
theorem revoked_after {id : Uuid} {r : Unit} {s s' : State}
    (h : Stmt env (.sql (.revokeRefreshToken id)) s (.ok r) s') {row : RefreshToken}
    (hrow : row ∈ s.db.refreshTokens.rows) (hid : row.id = id) :
    ∃ row' ∈ s'.db.refreshTokens.rows, row'.id = id ∧ row'.revoked = true := by
  obtain ⟨db, hq, rfl⟩ := h.sql_ok
  refine ⟨{ row with revoked := true }, ?_, hid, rfl⟩
  rw [(apply_ok hq).2.2.2]
  exact List.mem_map.2 ⟨row, hrow, if_pos hid⟩

variable (hc : ((service env).restrict RevokesLive).Reachable s₀ c)

include hc

/-- Where every revocation finds its row unrevoked, a row is revoked by one statement only. -/
theorem revoke_once {id : Uuid} {i j : ℕ} {past past' : Trace} {r r' : Unit} {s₁ s₁' s₂ s₂' : State}
    (he : Occurs c.history past (.stmt i (.sql (.revokeRefreshToken id)) (.ok r) s₁ s₁'))
    (he' : Occurs past past' (.stmt j (.sql (.revokeRefreshToken id)) (.ok r') s₂ s₂'))
    {row : RefreshToken} (hrow : row ∈ s₂.db.refreshTokens.rows) (hid : row.id = id) : False := by
  have hc' := hc.of_restrict
  obtain ⟨row₁, hrow₁, hid₁, hrev₁⟩ := revoked_after (service_stmt hc' (he.trans he').mem) hrow hid
  obtain ⟨row₂, hrow₂, heq, hrev⟩ := (service_le hc' he he'.mem).refreshTokens row₁ hrow₁
  have hlive : row₂.revoked = false :=
    (hc.sem_of_stmt he).2 row₂ hrow₂ (by rw [heq]; exact hid₁)
  exact absurd (hrev hrev₁) (by rw [hlive]; decide)

/-- Two rotations of one token are the same. -/
theorem rotated_unique {record' : RefreshTokenRow} {j : ℕ}
    (hi : Rotated env t record (localLog i c.history))
    (hj : Rotated env t record' (localLog j c.history)) : i = j := by
  have hc' := hc.of_restrict
  obtain ⟨past, r, s, s', he, row, hrow, hid, hkey⟩ := hi.revokes hc'
  obtain ⟨past', r', t, t', he', row', hrow', hid', hkey'⟩ := hj.revokes hc'
  have hsame : record.id = record'.id := by
    obtain ⟨final, hfinal, heq, -⟩ :=
      (((service_stmt hc' he.mem).le).trans (service_le_state hc' he.mem)).refreshTokens row hrow
    obtain ⟨final', hfinal', heq', -⟩ :=
      (((service_stmt hc' he'.mem).le).trans (service_le_state hc' he'.mem)).refreshTokens row' hrow'
    have hrow := Db.refreshToken_unique hfinal hfinal' (by rw [heq, heq', hkey, hkey'])
    rw [← hid, ← hid', ← show final.id = row.id by rw [heq], ← show final'.id = row'.id by rw [heq'],
      hrow]
  rw [← hsame] at he' hid'
  rcases he.total he' with ⟨heq, -⟩ | hlt | hlt
  · cases heq
    rfl
  · exact (revoke_once hc he hlt hrow' hid').elim
  · exact (revoke_once hc he' hlt hrow hid).elim

end Unique

/-- **Single use under concurrency.**  Where every statement that revokes one token finds it
unrevoked, a refresh token is exchanged at most once, however requests interleave. -/
theorem single_use {s₀ : State} {c : Pool Op Ret Request (Except AppError Response) State}
    (hc : ((service env).restrict RevokesLive).Reachable s₀ c) : SingleUse c.history := by
  have hc' := hc.of_restrict
  have hrot : ∀ {t i h userId key}, .start i (.refresh t) ∈ c.history →
      Stores c.history h i userId key →
      (∃ record, Rotated env t record (localLog i c.history)) ∧ ∀ x ∈ localLog i h, x.1.issues = false := by
    rintro t i h userId key hq ⟨id, hash, exp, s, s', he⟩
    obtain ⟨⟨record, hrec, -⟩, hfirst⟩ :=
      (service_at_stmt handle_rotated hc' hq he t rfl).2 _ _ _ _ _ rfl
    exact ⟨⟨record, hrec.of_suffix (localLog_suffix he.past)⟩, hfirst⟩
  constructor
  · intro t i j a b hi hj hdi hdj
    obtain ⟨h, he⟩ := exists_occurs hdi
    obtain ⟨h', he'⟩ := exists_occurs hdj
    obtain ⟨record, -, hrec, -⟩ := service_at_ok handle_rotated hc' hi he t rfl
    obtain ⟨record', -, hrec', -⟩ := service_at_ok handle_rotated hc' hj he' t rfl
    exact rotated_unique hc (hrec.of_suffix (localLog_suffix he.past))
      (hrec'.of_suffix (localLog_suffix he'.past))
  · intro t i j h h' userId userId' key key' hi hj hsi hsj
    obtain ⟨⟨record, hrec⟩, hfirst⟩ := hrot hi hsi
    obtain ⟨⟨record', hrec'⟩, hfirst'⟩ := hrot hj hsj
    obtain rfl := rotated_unique hc hrec hrec'
    refine ⟨rfl, ?_⟩
    obtain ⟨id, hash, exp, s, s', he⟩ := hsi
    obtain ⟨id', hash', exp', t, t', he'⟩ := hsj
    -- A request stores one token only, so neither statement is in the past of the other.
    rcases he.total he' with ⟨-, heq⟩ | hlt | hlt
    · exact heq
    · exact absurd (hfirst _ (mem_localLog_of_stmt hlt.mem)) (by simp)
    · exact absurd (hfirst' _ (mem_localLog_of_stmt hlt.mem)) (by simp)

/-- Whether a statement that revokes one token finds it unrevoked. -/
def revokesLive : Trace → ℕ → Op → State → Bool
  | _, _, .sql (.revokeRefreshToken id), s =>
    decide (∀ r ∈ s.db.refreshTokens.rows, r.id = id → r.revoked = false)
  | _, _, _, _ => true

theorem revokesLive_sound {H : Trace} {i : ℕ} {o : Op} {s : State} {r : Ret o}
    (h : revokesLive H i o s = true) : RevokesLive H i o s r := by
  cases o with
  | sql q =>
    cases q with
    | revokeRefreshToken id =>
      cases r with
      | error e => trivial
      | ok r =>
        have hlive : ∀ r ∈ s.db.refreshTokens.rows, r.id = id → r.revoked = false :=
          of_decide_eq_true h
        exact hlive
    | _ => trivial
  | _ => trivial

/-- Two refreshes of Alice's token overlap: the one that reads the token after it has been revoked is
refused. -/
theorem single_use_of_alice :
    ∃ c, ((service demo).restrict RevokesLive).Reachable (State.fresh 0) c ∧
      (asked 1 c.history, asked 2 c.history, (answer 1 c.history).isSome, outcome 2 c.history) =
        (some (.refresh (tally 2)), some (.refresh (tally 2)), true, some (.error .refreshTokenInvalid)) ∧
      SingleUse c.history := by
  obtain ⟨c, hc, hobs⟩ := exists_restricted_run demo (.fresh 0)
    ([.start registerAlice] ++ goes 0 10 ++
      [.start (.refresh (tally 2)), .start (.refresh (tally 2))] ++ goes 1 3 ++ goes 2 2 ++ goes 1 9)
    (fun c => (asked 1 c.history, asked 2 c.history, (answer 1 c.history).isSome, outcome 2 c.history))
    (some (.refresh (tally 2)), some (.refresh (tally 2)), true, some (.error .refreshTokenInvalid))
    revokesLive revokesLive_sound (by decide +kernel)
  exact ⟨c, hc, hobs, single_use hc⟩

/-- Alice registers and then refreshes her token twice: the two requests read the token before either
of them revokes it. -/
def raceSchedule : List (Move Request) :=
  [.start registerAlice] ++ goes 0 10 ++
  [.start (.refresh (tally 2)), .start (.refresh (tally 2))] ++ goes 1 2 ++ goes 2 2 ++
  goes 1 10 ++ goes 2 10

/-- Two concurrent refreshes of one token both succeed. -/
theorem exchanged_twice :
    ∃ c, (service demo).Reachable (State.fresh 0) c ∧ ¬ SingleUse c.history := by
  obtain ⟨c, hc, hobs⟩ := exists_run demo (.fresh 0) raceSchedule
    (fun c => (asked 1 c.history, asked 2 c.history, (answer 1 c.history).isSome,
      (answer 2 c.history).isSome))
    (some (.refresh (tally 2)), some (.refresh (tally 2)), true, true) (by decide +kernel)
  simp only [Prod.mk.injEq, Option.isSome_iff_exists] at hobs
  obtain ⟨h₁, h₂, ⟨a, ha⟩, b, hb⟩ := hobs
  refine ⟨c, hc, fun hsingle => ?_⟩
  have heq := hsingle.one_answer (start_mem_of_asked h₁) (start_mem_of_asked h₂)
    (done_mem_of_answer ha) (done_mem_of_answer hb)
  omega

end Socle
