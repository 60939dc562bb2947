import Socle.Model.Execution
import Socle.Routes

/-!
# Runs of the service

The rules of interleaved runs, for the service and its statements.

* `service_at_stmt`, `service_at_ok`, `service_at_error`: what a specification of the handlers says at
  each statement and at each result of a run;
* `service_stmt`, `service_le`, `service_le_state`: executed statements and the order of states;
* `exists_run`: a schedule evaluated to a run.
-/

namespace Socle

open Interaction Prog

/-- A history of the service. -/
abbrev Trace : Type := History Op Ret Request (Except AppError Response) State

variable {env : Env} {s₀ : State} {c : Pool Op Ret Request (Except AppError Response) State}
  {H h : Trace} {i j : ℕ} {q : Request} {s s' t t' : State}

section Specification

variable {P : Request → Log Op Ret → Op → Prop} {Q : Request → Log Op Ret → Response → Prop}
  {E : Request → Log Op Ret → AppError → Prop}

theorem service_at_stmt (hspec : ∀ q, SatE (handle env q) (P q) (Q q) (E q) [])
    (hc : (service env).Reachable s₀ c) (hq : .start i q ∈ c.history) {o : Op} {r : Ret o}
    (he : Occurs c.history h (.stmt i o r s s')) : P q (localLog i h) o := by
  obtain ⟨q', hq', hP⟩ := hc.at_stmt hspec he
  rw [hc.numbered.start_unique hq (he.past.subset hq')]
  exact hP

theorem service_at_ok (hspec : ∀ q, SatE (handle env q) (P q) (Q q) (E q) [])
    (hc : (service env).Reachable s₀ c) (hq : .start i q ∈ c.history) {a : Response}
    (he : Occurs c.history h (.done i (.ok a))) : Q q (localLog i h) a := by
  obtain ⟨q', hq', hQ⟩ := hc.at_done hspec he
  rw [hc.numbered.start_unique hq (he.past.subset hq')]
  exact hQ

theorem service_at_error (hspec : ∀ q, SatE (handle env q) (P q) (Q q) (E q) [])
    (hc : (service env).Reachable s₀ c) {e : AppError} (he : Occurs c.history h (.done i (.error e))) :
    ∃ q, .start i q ∈ h ∧ E q (localLog i h) e := hc.at_done hspec he

end Specification

/-- A statement of a run was executed, or it failed. -/
theorem service_stmt (hc : (service env).Reachable s₀ c) {o : Op} {r : Ret o}
    (he : .stmt i o r s s' ∈ c.history) : Stmt env o s r s' := by
  obtain ⟨h, he⟩ := exists_occurs he
  exact hc.sem_of_stmt he

theorem Tick.le (h : Tick s s') : s.Le s' := by
  obtain ⟨t, ht, rfl⟩ := h
  exact { State.Le.refl s with clock := ht }

/-- The states of a run are ordered as their statements are. -/
theorem service_le (hc : (service env).Reachable s₀ c) {o o' : Op} {r : Ret o} {r' : Ret o'}
    (he : Occurs c.history h (.stmt i o r s s')) (he' : .stmt j o' r' t t' ∈ h) : t'.Le s :=
  hc.ordered State.Le.refl (fun h h' => h.trans h') Tick.le (fun h => Stmt.le h) he he'

theorem service_le_state (hc : (service env).Reachable s₀ c) {o : Op} {r : Ret o}
    (he : .stmt i o r s s' ∈ c.history) : s'.Le c.state :=
  ((hc.order State.Le.refl (fun h h' => h.trans h') Tick.le (fun h => Stmt.le h)).2 he).2.2

/-- Request `i` has stored a refresh token of the user with this lookup key, after `h`. -/
def Stores (H h : Trace) (i : ℕ) (userId : Uuid) (lookupKey : String) : Prop :=
  ∃ id hash expiresAt s s',
    Occurs H h (.stmt i (.sql (.insertRefreshToken id userId hash lookupKey expiresAt)) (.ok ()) s s')

theorem Stores.of_suffix {H' : Trace} {userId : Uuid} {key : String} (hs : Stores H' h i userId key)
    (hH : H' <:+ H) : Stores H h i userId key := by
  obtain ⟨id, hash, expiresAt, s, s', he⟩ := hs
  exact ⟨id, hash, expiresAt, s, s', he.of_suffix hH⟩

/-- A stored refresh token stays in the database. -/
theorem Stores.row {userId : Uuid} {key : String} (hc : (service env).Reachable s₀ c)
    (h : Stores c.history h i userId key) :
    ∃ row ∈ c.state.db.refreshTokens.rows, row.lookupKey = key ∧ row.userId = userId := by
  obtain ⟨id, hash, expiresAt, s, s', he⟩ := h
  obtain ⟨db, hq, rfl⟩ := (service_stmt hc he.mem).sql_ok
  have hrow : (⟨id, userId, hash, key, expiresAt, false, s.clock⟩ : RefreshToken) ∈
      db.refreshTokens.rows := by
    rw [(apply_ok hq).2.2.2]
    exact List.mem_append_right _ List.mem_cons_self
  obtain ⟨row, hmem, heq, -⟩ := (service_le_state hc he.mem).refreshTokens _ hrow
  exact ⟨row, hmem, by rw [heq], by rw [heq]⟩

/-- The owner of a stored token is the owner of the row that a lookup finds. -/
theorem owner_of_lookup {userId : Uuid} {key : String} (hc : (service env).Reachable s₀ c)
    (hs : Stores c.history h i userId key) {k : ℕ} {ps : Trace} {record : RefreshTokenRow} {t t' : State}
    (hes : Occurs c.history ps (.stmt k (.sql (.selectRefreshToken key)) (.ok (some record)) t t')) :
    record.userId = userId := by
  obtain ⟨row, hrow, hkey, hu⟩ := hs.row hc
  have hle := ((service_stmt hc hes.mem).le).trans (service_le_state hc hes.mem)
  obtain ⟨-, row', hrow', hkey', rfl⟩ := selectRefreshToken_row (service_stmt hc hes.mem)
  obtain ⟨final, hfinal, heq, -⟩ := hle.refreshTokens row' hrow'
  have hsame := Db.refreshToken_unique hfinal hrow (by rw [heq, hkey, ← hkey'])
  rw [← hu, ← hsame, heq]
  rfl

/-- What a request has asked and been answered, as a statement of the history. -/
theorem stmt_of_log {o : Op} {r : Ret o} (h : (⟨o, r⟩ : (o : Op) × Ret o) ∈ localLog i H) :
    ∃ past s s', Occurs H past (.stmt i o r s s') := by
  obtain ⟨s, s', hm⟩ := exists_stmt_of_mem_localLog h
  obtain ⟨past, he⟩ := exists_occurs hm
  exact ⟨past, s, s', he⟩

/-! ### Evaluating runs -/

/-- The successful response to request `i`. -/
def answer (i : ℕ) (H : Trace) : Option Response := (System.outcome i H).bind Except.toOption

theorem done_mem_of_answer {a : Response} (h : answer i H = some a) : .done i (.ok a) ∈ H := by
  obtain ⟨x, hx, ha⟩ := Option.bind_eq_some_iff.1 h
  cases x with
  | error e => cases ha
  | ok b =>
    cases ha
    exact System.done_mem_of_outcome hx

/-- The past of the start of request `i`. -/
def findStart (i : ℕ) (q : Request) : Trace → Option Trace := findPast fun
  | .start j q' => decide (j = i ∧ q' = q)
  | _ => false

theorem occurs_of_findStart (hf : findStart i q H = some h) : Occurs H h (.start i q) := by
  obtain ⟨e, he, hocc⟩ := occurs_of_findPast hf
  cases e with
  | start j q' =>
    obtain ⟨rfl, rfl⟩ := of_decide_eq_true he
    exact hocc
  | _ => cases he

/-- The past of the statement by which request `i` stores a refresh token. -/
def findStores (i : ℕ) (userId : Uuid) (key : String) : Trace → Option Trace := findPast fun
  | .stmt j (.sql (.insertRefreshToken _ userId' _ key' _)) (.ok _) _ _ =>
    decide (j = i ∧ userId' = userId ∧ key' = key)
  | _ => false

theorem stores_of_findStores {userId : Uuid} {key : String} (hf : findStores i userId key H = some h) :
    Stores H h i userId key := by
  obtain ⟨e, he, hocc⟩ := occurs_of_findPast hf
  split at he
  · obtain ⟨rfl, rfl, rfl⟩ := of_decide_eq_true he
    exact ⟨_, _, _, _, _, hocc⟩
  · cases he

/-- The past of the statement by which request `i` looks a refresh token up. -/
def findLookup (i : ℕ) (key : String) : Trace → Option Trace := findPast fun
  | .stmt j (.sql (.selectRefreshToken key')) _ _ _ => decide (j = i ∧ key' = key)
  | _ => false

theorem occurs_of_findLookup {key : String} (hf : findLookup i key H = some h) :
    ∃ r s s', Occurs H h (.stmt i (.sql (.selectRefreshToken key)) r s s') := by
  obtain ⟨e, he, hocc⟩ := occurs_of_findPast hf
  split at he
  · obtain ⟨rfl, rfl⟩ := of_decide_eq_true he
    exact ⟨_, _, _, hocc⟩
  · cases he

/-- A schedule whose observation has been computed is a run with this observation. -/
theorem exists_run {β : Type} (env : Env) (s₀ : State) (moves : List (System.Move Request))
    (f : Pool Op Ret Request (Except AppError Response) State → β) (b : β)
    (h : (System.play (service env).handler (fun _ _ => exec env) moves (.init s₀)).map f = some b) :
    ∃ c, (service env).Reachable s₀ c ∧ f c = b := by
  obtain ⟨c, hc, hf⟩ := Option.map_eq_some_iff.1 h
  have hsem : ∀ {H i o s r s'}, exec env o s = some (r, s') → (service env).sem H i o s r s' :=
    fun h => Stmt.exec h
  exact ⟨c, System.Reachable.play hsem .init hc, hf⟩

/-- The same under a condition on statements that `guard` checks. -/
theorem exists_restricted_run {β : Type} (env : Env) (s₀ : State) (moves : List (System.Move Request))
    (f : Pool Op Ret Request (Except AppError Response) State → β) (b : β)
    {C : Trace → ℕ → (o : Op) → State → Ret o → Prop}
    (guard : Trace → ℕ → Op → State → Bool) (hguard : ∀ {H i o s r}, guard H i o s = true → C H i o s r)
    (h : (System.play (service env).handler
        (fun H i o s => if guard H i o s then exec env o s else none) moves (.init s₀)).map f = some b) :
    ∃ c, ((service env).restrict C).Reachable s₀ c ∧ f c = b := by
  obtain ⟨c, hc, hf⟩ := Option.map_eq_some_iff.1 h
  have hsem : ∀ {H i o s r s'}, (if guard H i o s then exec env o s else none) = some (r, s') →
      ((service env).restrict C).sem H i o s r s' := by
    intro H i o s r s' h
    split at h
    · next hg => exact ⟨Stmt.exec h, hguard hg⟩
    · cases h
  exact ⟨c, System.Reachable.play hsem .init hc, hf⟩

end Socle
