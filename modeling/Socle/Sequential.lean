import Socle.Service

/-!
# Requests one after the other

Runs in which each request is served to its end before the next one starts.

* `Timed`: statements before which time passes;
* `Entry`: a served request with what it has done and its outcome;
* `Served env sem s₀ H s`: from the state `s₀`, serving the requests of `H` leads to `s`, where `sem`
  says what statements do;
* `Served.reachable`: such runs are runs of the service;
* `serveAll`: a list of requests served by evaluation;
* `runs_linkOAuthAccount`, `runs_createFromOAuth`: what the parts of an OAuth login execute.
-/

namespace Socle

open Interaction Prog

/-- Time passes before a statement is executed. -/
def Timed (sem : Sem Op Ret State) : Sem Op Ret State :=
  fun o s r s' => ∃ t, s.clock ≤ t ∧ sem o { s with clock := t } r s'

/-- A request that has been served. -/
structure Entry where
  request : Request
  log : Log Op Ret
  outcome : Except AppError Response

/-- Requests served one after the other, the latest first. -/
inductive Served (env : Env) (sem : Sem Op Ret State) (s₀ : State) : List Entry → State → Prop
  | nil : Served env sem s₀ [] s₀
  | serve {H : List Entry} {s s' : State} {q : Request} {log : Log Op Ret}
      {x : Except AppError Response} (h : Served env sem s₀ H s)
      (hrun : Runs (Recorded (Timed sem)) (handle env q).run (s, []) x (s', log)) :
      Served env sem s₀ (⟨q, log, x⟩ :: H) s'

variable {env : Env} {sem : Sem Op Ret State} {s₀ s s' : State} {H : List Entry}

/-- Serving one request after the other is one way of serving them. -/
theorem Served.reachable (hsem : ∀ {o s r s'}, sem o s r s' → Stmt env o s r s')
    (h : Served env sem s₀ H s) : ∃ c, (service env).Reachable s₀ c ∧ c.state = s := by
  induction h with
  | nil => exact ⟨_, .init, rfl⟩
  | serve _ hrun ih =>
    obtain ⟨c, hc, rfl⟩ := ih
    refine hc.of_request ?_ hrun.of_recorded
    rintro H i o s r s' ⟨t, ht, ho⟩
    exact ⟨{ s with clock := t }, Or.inr ⟨t, ht, rfl⟩, hsem ho⟩

/-- What every request preserves holds in every state. -/
theorem Served.preserves (Inv : State → Prop)
    (hserve : ∀ {q s x s'}, Inv s → Runs (Timed sem) (handle env q).run s x s' → Inv s') (hs₀ : Inv s₀)
    (h : Served env sem s₀ H s) : Inv s := by
  induction h with
  | nil => exact hs₀
  | serve _ hrun ih => exact hserve ih hrun.of_recorded

/-- Execute a statement, not before `time`. -/
def execAt (exec : (o : Op) → State → Option (Ret o × State)) (time : ℕ) (o : Op) (s : State) :
    Option (Ret o × State) :=
  exec o { s with clock := max s.clock time }

theorem execAt_sound {exec : (o : Op) → State → Option (Ret o × State)}
    (hsem : ∀ {o s r s'}, exec o s = some (r, s') → sem o s r s') {time : ℕ} {o : Op} {r : Ret o}
    (h : execAt exec time o s = some (r, s')) : Timed sem o s r s' :=
  ⟨max s.clock time, le_max_left _ _, hsem h⟩

/-- Serve requests, each at its time, executing statements with `exec`. -/
def serveAll (env : Env) (exec : (o : Op) → State → Option (Ret o × State)) :
    List (ℕ × Request) → List Entry × State → Option (List Entry × State)
  | [], x => some x
  | (time, q) :: rest, (H, s) =>
    ((handle env q).run.eval (record (execAt exec time)) (s, [])).bind fun x =>
      serveAll env exec rest (⟨q, x.2.2, x.1⟩ :: H, x.2.1)

/-- Requests that can be served so are served. -/
theorem Served.serveAll {exec : (o : Op) → State → Option (Ret o × State)}
    (hsem : ∀ {o s r s'}, exec o s = some (r, s') → sem o s r s') (h : Served env sem s₀ H s)
    {requests : List (ℕ × Request)} {H' : List Entry}
    (hs : Socle.serveAll env exec requests (H, s) = some (H', s')) : Served env sem s₀ H' s' := by
  induction requests generalizing H s with
  | nil =>
    cases hs
    exact h
  | cons request rest ih =>
    obtain ⟨⟨x, s₁, log⟩, hx, hs⟩ := Option.bind_eq_some_iff.1 hs
    have hat : ∀ {o s r s'}, execAt exec request.1 o s = some (r, s') → Timed sem o s r s' :=
      fun ho => execAt_sound (@hsem) ho
    have hrecord : ∀ {o x r y}, record (execAt exec request.1) o x = some (r, y) →
        Recorded (Timed sem) o x r y := fun ho => record_sound (@hat) ho
    exact ih (h.serve (runs_of_eval (@hrecord) hx)) hs

/-! ### Parts of an OAuth login -/

section OAuth

variable (hsem : ∀ {o s r s'}, sem o s r s' → Stmt env o s r s')

include hsem

/-- Linking a provider is one statement. -/
theorem runs_linkOAuthAccount {userId : Uuid} {profile : OAuthProfile} {x : Except AppError Unit}
    (h : Runs (Timed sem) (UserService.linkOAuthAccount env userId profile).run s x s') :
    ∃ (id : Uuid) (r : Except SqlxError Unit) (s₁ : State), s₁.db = s.db ∧
      sem (.sql (.insertOAuthCredential id userId (.from profile.provider) profile.providerUserId
        profile.avatarUrl)) s₁ r s' ∧ x = r.mapError .database := by
  obtain ⟨n, s₁, ⟨t, -, hrandom⟩, h⟩ := h
  have hdb : s₁.db = s.db := by rw [(hsem hrandom).random_eq.2]
  obtain ⟨r, s₂, ⟨t', -, hlink⟩, h⟩ := h
  refine ⟨env.prim.uuidV7 n, r, { s₁ with clock := t' }, hdb, ?_⟩
  rcases r with e | r
  · obtain ⟨rfl, rfl⟩ := h
    exact ⟨hlink, rfl⟩
  · obtain ⟨rfl, rfl⟩ := h
    exact ⟨hlink, rfl⟩

/-- Inserting a user from a profile is one statement. -/
theorem runs_createFromOAuth {email : String} {name : Option String} {x : Except AppError User}
    (h : Runs (Timed sem) (UserService.createFromOAuth env email name).run s x s') :
    ∃ (id : Uuid) (r : Except SqlxError User) (s₁ : State), s₁.db = s.db ∧
      sem (.sql (.insertUser id email (name.getD (localPart email)))) s₁ r s' ∧
      x = r.mapError fun e => mapConstraintErr e "users_email_key" .emailTaken := by
  obtain ⟨n, s₁, ⟨t, -, hrandom⟩, h⟩ := h
  have hdb : s₁.db = s.db := by rw [(hsem hrandom).random_eq.2]
  obtain ⟨r, s₂, ⟨t', -, hinsert⟩, h⟩ := h
  refine ⟨env.prim.uuidV7 n, r, { s₁ with clock := t' }, hdb, ?_⟩
  rcases r with e | user
  · obtain ⟨rfl, rfl⟩ := h
    exact ⟨hinsert, rfl⟩
  · obtain ⟨rfl, rfl⟩ := h
    exact ⟨hinsert, rfl⟩

end OAuth

end Socle
