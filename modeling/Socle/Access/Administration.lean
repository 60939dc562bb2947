import Socle.Access.Provenance

/-!
# The last administrator

* `HasAdmin`: some active user is an administrator;
* `Unseats`: a demotion or a deactivation has been executed;
* `Administered`, `SparesAdmin`: there is an administrator in every state of a run; every demotion and
  every deactivation finds another one;
* `lockouts`: an administrator can deactivate itself, and two can demote each other;
* `administered_iff`: nothing else leads to a lockout.
-/

namespace Socle

open Interaction Prog System

variable {env : Env}

/-- There is an active administrator. -/
def HasAdmin (s : State) : Prop := ∃ u ∈ s.db.users.rows, u.role = .admin ∧ u.isActive = true

/-- There is an active administrator besides the user `id`. -/
def OtherAdmin (s : State) (id : Uuid) : Prop :=
  ∃ u ∈ s.db.users.rows, u.id ≠ id ∧ u.role = .admin ∧ u.isActive = true

instance (s : State) : Decidable (HasAdmin s) := inferInstanceAs (Decidable (∃ _ ∈ _, _))

instance (s : State) (id : Uuid) : Decidable (OtherAdmin s id) :=
  inferInstanceAs (Decidable (∃ _ ∈ _, _))

/-- A statement has been executed that demotes or deactivates the user. -/
inductive Unseats : (o : Op) → Ret o → Uuid → Prop
  | demotion {role : Role} {target : Uuid} {found : Option User} (hrole : role ≠ .admin) :
      Unseats (.sql (.updateRole role target)) (.ok found) target
  | deactivation {target : Uuid} : Unseats (.sql (.deactivateUser target)) (.ok ()) target

/-- In all states of the run there is an active administrator. -/
def Administered (c : Pool Op Ret Request (Except AppError Response) State) : Prop :=
  HasAdmin c.state ∧ ∀ {i o r s s'}, .stmt i o r s s' ∈ c.history → HasAdmin s'

/-- Users are demoted and deactivated only where there is another active administrator. -/
def SparesAdmin (H : Trace) : Prop :=
  ∀ {h i o r s s' target}, Occurs H h (.stmt i o r s s') → Unseats o r target → OtherAdmin s target

/-! ### Statements -/

section Statements

variable {s s' : State} {o : Op} {r : Ret o} {u : User}

/-- A user keeps its tier and stays active, unless a statement demotes or deactivates it. -/
theorem Sql.keeps_user {now : OffsetDateTime} {db db' : Db} {q : Sql} {res : q.Result}
    (hq : q.apply env.prim now db = .ok (res, db')) (hu : u ∈ db.users.rows)
    (hkeep : ¬ Unseats (.sql q) (.ok res) u.id) : ∃ u' ∈ db'.users.rows, u'.id = u.id ∧
      (u.role = .admin → u'.role = .admin) ∧ u'.isActive = u.isActive := by
  rw [(apply_ok hq).1]
  cases q with
  | insertAccount | insertUser => exact ⟨u, List.mem_append_left _ hu, rfl, id, rfl⟩
  | updateRole role target =>
    refine ⟨_, List.mem_map_of_mem hu, ?_⟩
    by_cases hid : u.id = target
    · rw [if_pos hid]
      refine ⟨rfl, fun _ => ?_, rfl⟩
      by_contra hrole
      exact hkeep (hid ▸ .demotion hrole)
    · rw [if_neg hid]
      exact ⟨rfl, id, rfl⟩
  | deactivateUser target =>
    refine ⟨_, List.mem_map_of_mem hu, ?_⟩
    by_cases hid : u.id = target
    · exact absurd (hid ▸ .deactivation) hkeep
    · rw [if_neg hid]
      exact ⟨rfl, id, rfl⟩
  | _ => exact ⟨u, hu, rfl, id, rfl⟩

theorem Stmt.keeps_user (h : Stmt env o s r s') (hu : u ∈ s.db.users.rows)
    (hkeep : ¬ Unseats o r u.id) : ∃ u' ∈ s'.db.users.rows, u'.id = u.id ∧
      (u.role = .admin → u'.role = .admin) ∧ u'.isActive = u.isActive := by
  cases o with
  | sql q =>
    rcases r with e | res
    · rw [h.sql_error]
      exact ⟨u, hu, rfl, id, rfl⟩
    · obtain ⟨db, hq, rfl⟩ := h.sql_ok
      exact Sql.keeps_user hq hu hkeep
  | _ =>
    have hdb : s'.db = s.db := by
      rcases h.db_cases with hdb | ⟨q, res, ho, -⟩
      · exact hdb
      · cases ho
    rw [hdb]
    exact ⟨u, hu, rfl, id, rfl⟩

/-- **Step lemma.**  Statements that spare an administrator leave one. -/
theorem HasAdmin.stmt (hs : HasAdmin s) (h : Stmt env o s r s')
    (hspare : ∀ target, Unseats o r target → OtherAdmin s target) : HasAdmin s' := by
  obtain ⟨u, hu, hkeep, hrole, hactive⟩ :
      ∃ u ∈ s.db.users.rows, ¬ Unseats o r u.id ∧ u.role = .admin ∧ u.isActive = true := by
    by_cases hun : ∃ target, Unseats o r target
    · obtain ⟨target, hun⟩ := hun
      obtain ⟨u, hu, hne, hrole, hactive⟩ := hspare target hun
      refine ⟨u, hu, fun hun' => hne ?_, hrole, hactive⟩
      -- A statement unseats one user only.
      cases hun <;> cases hun' <;> rfl
    · obtain ⟨u, hu, hrole, hactive⟩ := hs
      exact ⟨u, hu, fun hun' => hun ⟨_, hun'⟩, hrole, hactive⟩
  obtain ⟨u', hu', -, hrole', hactive'⟩ := h.keeps_user hu hkeep
  exact ⟨u', hu', hrole' hrole, hactive'.trans hactive⟩

/-- An administrator who is left after a demotion or a deactivation has been there before, as another
user. -/
theorem Unseats.other {target : Uuid} (hun : Unseats o r target) (h : Stmt env o s r s')
    (hs' : HasAdmin s') : OtherAdmin s target := by
  obtain ⟨u', hu', hrole, hactive⟩ := hs'
  cases hun with
  | @demotion role found _ hdem =>
    obtain ⟨db, hq, rfl⟩ := h.sql_ok
    rw [(apply_ok hq).1] at hu'
    obtain ⟨u, hu, rfl⟩ := List.mem_map.1 hu'
    by_cases hid : u.id = target
    · rw [if_pos hid] at hrole
      exact absurd hrole hdem
    · rw [if_neg hid] at hrole hactive
      exact ⟨u, hu, hid, hrole, hactive⟩
  | deactivation =>
    obtain ⟨db, hq, rfl⟩ := h.sql_ok
    rw [(apply_ok hq).1] at hu'
    obtain ⟨u, hu, rfl⟩ := List.mem_map.1 hu'
    by_cases hid : u.id = target
    · rw [if_pos hid] at hactive
      cases hactive
    · rw [if_neg hid] at hrole hactive
      exact ⟨u, hu, hid, hrole, hactive⟩

end Statements

/-! ### Runs -/

section Runs

variable {s₀ : State} {c : Pool Op Ret Request (Except AppError Response) State}

/-- Runs that spare an administrator always have one. -/
theorem SparesAdmin.administered (hs₀ : HasAdmin s₀) (hc : (service env).Reachable s₀ c)
    (hspare : SparesAdmin c.history) : Administered c := by
  obtain ⟨hlast, hall⟩ := hc.always hs₀ (fun ⟨_, _, heq⟩ hs => heq ▸ hs)
    fun he hs => hs.stmt (service_stmt hc he.mem) fun _ hun => hspare he hun
  exact ⟨hlast, fun he => (hall he).2⟩

/-- **When administration is lost.**  A run that starts with an active administrator always has one if
and only if every demotion and every deactivation finds another one. -/
theorem administered_iff (hs₀ : HasAdmin s₀) (hc : (service env).Reachable s₀ c) :
    Administered c ↔ SparesAdmin c.history :=
  ⟨fun hadm _ _ _ _ _ _ _ he hun => hun.other (service_stmt hc he.mem) (hadm.2 he.mem),
    SparesAdmin.administered hs₀ hc⟩

end Runs

/-- Whether a run has an active administrator in all of its states. -/
def administeredRun (c : Pool Op Ret Request (Except AppError Response) State) : Bool :=
  decide (HasAdmin c.state) && c.history.all fun
    | .stmt _ _ _ _ s' => decide (HasAdmin s')
    | _ => true

theorem administered_of_run {c : Pool Op Ret Request (Except AppError Response) State}
    (h : administeredRun c = true) : Administered c := by
  obtain ⟨hlast, hall⟩ := Bool.and_eq_true_iff.1 h
  exact ⟨of_decide_eq_true hlast, fun he => of_decide_eq_true (List.all_eq_true.1 hall _ he)⟩

/-- The administrator makes Alice an administrator too, and deactivates itself. -/
theorem administered_iff_of_root :
    HasAdmin administered ∧ ∃ c, (service demo).Reachable administered c ∧
      c.state.db.users.rows.map User.isActive = [false, true] ∧
      Administered c ∧ SparesAdmin c.history := by
  have hadmin : HasAdmin administered := by decide +kernel
  obtain ⟨c, hc, hobs⟩ := exists_run demo administered
    ([.start (.login "root@example.com" "password")] ++ goes 0 9 ++ [.start registerAlice] ++
      goes 1 10 ++ [.start (.updateUserRole (some rootAuthorization) 5 .admin)] ++ goes 2 3 ++
      [.start (.deactivateAccount (some rootAuthorization))] ++ goes 3 3)
    (fun c => (c.state.db.users.rows.map User.isActive, administeredRun c)) ([false, true], true)
    (by decide +kernel)
  obtain ⟨hactive, hrun⟩ := Prod.mk.inj hobs
  have hadministered := administered_of_run hrun
  exact ⟨hadmin, c, hc, hactive, hadministered, (administered_iff hadmin hc).1 hadministered⟩

/-- The header of Alice, once she has logged in as an administrator. -/
def aliceAdminAuthorization : String := "Bearer " ++ demo.prim.jwtEncode demo.config.jwtSecret
  (TokenService.accessClaims demo 5 "alice@example.com" "alice" .admin .password 0)

/-- An administrator can deactivate itself; and two administrators can demote each other, the second
with a token that was signed before it was demoted itself. -/
theorem lockouts :
    HasAdmin administered ∧
    (∃ c, (service demo).Reachable administered c ∧ ¬ HasAdmin c.state) ∧
    ∃ c, (service demo).Reachable administered c ∧
      c.state.db.users.rows.map (fun u => (u.role, u.isActive)) = [(.user, true), (.user, true)] ∧
      ¬ HasAdmin c.state := by
  refine ⟨by decide +kernel, ?_, ?_⟩
  · obtain ⟨c, hc, hobs⟩ := exists_run demo administered
      ([.start (.login "root@example.com" "password")] ++ goes 0 9 ++
        [.start (.deactivateAccount (some rootAuthorization))] ++ goes 1 3)
      (fun c => decide (HasAdmin c.state)) false (by decide +kernel)
    exact ⟨c, hc, of_decide_eq_false hobs⟩
  · obtain ⟨c, hc, hobs⟩ := exists_run demo administered
      ([.start (.login "root@example.com" "password")] ++ goes 0 9 ++ [.start registerAlice] ++
        goes 1 10 ++ [.start (.updateUserRole (some rootAuthorization) 5 .admin)] ++ goes 2 3 ++
        [.start (.login "alice@example.com" "password")] ++ goes 3 9 ++
        [.start (.updateUserRole (some aliceAdminAuthorization) 0 .user)] ++ goes 4 3 ++
        [.start (.updateUserRole (some rootAuthorization) 5 .user)] ++ goes 5 3)
      (fun c => (c.state.db.users.rows.map (fun u => (u.role, u.isActive)), decide (HasAdmin c.state)))
      ([(.user, true), (.user, true)], false) (by decide +kernel)
    obtain ⟨hroles, hnone⟩ := Prod.mk.inj hobs
    exact ⟨c, hc, hroles, of_decide_eq_false hnone⟩

end Socle
