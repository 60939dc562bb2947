import Socle.Model.Statements

/-!
# Programs of the services

* `App`: programs that may throw an `AppError`;
* `perform`, `query`, `abort`: their elementary steps;
* the rules of the logic of logs, of runs and of evaluation for these steps.
-/

namespace Socle

open Interaction

/-- A program of a service (`AppResult` in the source, with its effects). -/
abbrev App (α : Type) : Type := ExceptT AppError (Prog Op Ret) α

/-- Ask for one statement. -/
def perform (o : Op) : App (Ret o) := ExceptT.lift (Prog.perform o)

/-- Panic. -/
def abort {α : Type} : App α := do
  let e ← perform .abort
  e.elim

/-- Execute an SQL statement, translating its error. -/
def query (q : Sql) (mapErr : q.Error → AppError) : App q.Result := do
  match ← perform (.sql q) with
  | .ok r => pure r
  | .error e => throw (mapErr e)

section SatE

variable {P : Log Op Ret → Op → Prop} {E : Log Op Ret → AppError → Prop} {log : Log Op Ret} {α : Type}

@[simp] theorem satE_perform {o : Op} {Q : Log Op Ret → Ret o → Prop} :
    @Prog.SatE _ _ (no_index (Ret o)) _ (perform o) P Q E log ↔
      P log o ∧ ∀ r, Q (⟨o, r⟩ :: log) r := Prog.satE_lift

@[simp] theorem satE_abort {Q : Log Op Ret → α → Prop} :
    Prog.SatE (abort : App α) P Q E log ↔ P log .abort := by
  simp only [abort, Prog.satE_bind, satE_perform]
  exact ⟨fun h => h.1, fun h => ⟨h, fun r => r.elim⟩⟩

@[simp] theorem satE_query {q : Sql} {f : q.Error → AppError} {Q : Log Op Ret → q.Result → Prop} :
    @Prog.SatE _ _ (no_index q.Result) _ (query q f) P Q E log ↔
      P log (.sql q) ∧ (∀ r, Q (⟨.sql q, .ok r⟩ :: log) r) ∧
        ∀ e, E (⟨.sql q, .error e⟩ :: log) (f e) := by
  simp only [query, Prog.satE_bind, satE_perform]
  refine and_congr_right fun _ => ⟨fun h => ⟨fun r => h (.ok r), fun e => h (.error e)⟩, ?_⟩
  rintro ⟨hok, herr⟩ (e | r)
  · exact herr e
  · exact hok r

end SatE

section Runs

variable {S : Type} {sem : Sem Op Ret S} {s s' : S}

theorem runs_query {q : Sql} {f : q.Error → AppError} {x : Except AppError q.Result} :
    Prog.Runs sem (query q f).run s x s' ↔
      (∃ res, sem (.sql q) s (.ok res) s' ∧ x = .ok res) ∨
        ∃ e, sem (.sql q) s (.error e) s' ∧ x = .error (f e) := by
  constructor
  · rintro ⟨e | res, s₁, h, rfl, rfl⟩
    · exact Or.inr ⟨e, h, rfl⟩
    · exact Or.inl ⟨res, h, rfl⟩
  · rintro (⟨res, h, rfl⟩ | ⟨e, h, rfl⟩)
    · exact ⟨.ok res, s', h, rfl, rfl⟩
    · exact ⟨.error e, s', h, rfl, rfl⟩

end Runs

section Eval

variable {env : Env} {s : State} {α : Type}

@[simp] theorem eval_pureE {a : α} :
    (pure a : App α).run.eval (exec env) s = some (.ok a, s) := rfl

@[simp] theorem eval_throwE {e : AppError} :
    (throw e : App α).run.eval (exec env) s = some (.error e, s) := rfl

/-- The type of the response is not indexed: it may have been computed in the goal. -/
@[simp] theorem eval_performE {o : Op} :
    @Prog.eval _ _ _ (no_index (Except AppError (Ret o))) (exec env)
      (@ExceptT.run _ _ (no_index (Ret o)) (perform o)) s =
      (exec env o s).map fun x => (.ok x.1, x.2) := by
  show (exec env o s).bind _ = _
  cases exec env o s <;> rfl

/-- Without faults, an SQL statement is applied to the database. -/
theorem eval_query {q : Sql} {f : q.Error → AppError} :
    @Prog.eval _ _ _ (no_index (Except AppError q.Result)) (exec env)
      (@ExceptT.run _ _ (no_index q.Result) (query q f)) s =
      match q.apply env.prim s.clock s.db with
      | .ok (res, db) => some (.ok res, { s with db := db })
      | .error e => some (.error (f e), s) := by
  simp only [query, Prog.eval_bindE, eval_performE, exec]
  cases q.apply env.prim s.clock s.db <;> rfl

end Eval

end Socle
