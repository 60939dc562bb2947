import Mathlib.Logic.Function.Basic
import Socle.Interaction.Simulation
import Socle.Model.Models

/-!
# The directory of accounts

What the service keeps for its users, without tables, hashes and statements: a partial function from
identifiers to accounts, and one from external identities to the accounts that they open.

* `Account`, `Account.Clash`: an account, and when two cannot exist together;
* `Directory`: accounts and identities, so that clashing accounts and dangling identities cannot be built;
* `Action`, `Directory.Step`: what can be done to a directory;
* `Step.account`, `Step.opens`, `Step.linked`, `Step.links`: what one action does;
* `le_of_acts`: **accounts are permanent**, whatever is done to a directory;
* `setPassword_of_acts`, …: what has changed has been changed by an action of its kind.
-/

namespace Socle

open Interaction

/-- An account, as its owner knows it. -/
@[ext] structure Account where
  email : String
  displayName : String
  role : Role
  isActive : Bool
  /-- The username and the password. -/
  credential : Option (String × String)

namespace Account

def username (a : Account) : Option String := a.credential.map Prod.fst

def password (a : Account) : Option String := a.credential.map Prod.snd

/-- Two accounts that cannot exist together. -/
def Clash (a b : Account) : Prop :=
  a.email = b.email ∨ a.displayName = b.displayName ∨ ∃ name, a.username = some name ∧ b.username = some name

/-- The account with another password, where it has one. -/
def withPassword (a : Account) (password : String) : Account :=
  { a with credential := a.credential.map fun c => (c.1, password) }

end Account

/-- Accounts under their identifiers, and the accounts to which external identities belong. -/
@[ext] structure Directory where
  accounts : Uuid → Option Account
  identities : Provider × String → Option Uuid
  distinct : ∀ {i j a b}, accounts i = some a → accounts j = some b → a.Clash b → i = j
  owned : ∀ {identity i}, identities identity = some i → (accounts i).isSome

/-- What can be done to a directory. -/
inductive Action
  | openAccount (id : Uuid) (email displayName : String) (credential : Option (String × String))
  | setPassword (id : Uuid) (password : String)
  | setRole (id : Uuid) (role : Role)
  | deactivate (id : Uuid)
  | link (identity : Provider × String) (id : Uuid)
  | unlink (id : Uuid) (provider : Provider)

namespace Action

/-- Rewrite the account `id`. -/
def rewrite (id : Uuid) (f : Account → Account) (accounts : Uuid → Option Account) : Uuid → Option Account :=
  Function.update accounts id ((accounts id).map f)

/-- The accounts after an action. -/
def accounts : Action → (Uuid → Option Account) → Uuid → Option Account
  | openAccount id email displayName credential, as =>
    Function.update as id (some ⟨email, displayName, .user, true, credential⟩)
  | setPassword id password, as => rewrite id (·.withPassword password) as
  | setRole id role, as => rewrite id (fun a => { a with role := role }) as
  | deactivate id, as => rewrite id (fun a => { a with isActive := false }) as
  | link _ _, as => as
  | unlink _ _, as => as

/-- The identities after an action. -/
def identities : Action → (Provider × String → Option Uuid) → Provider × String → Option Uuid
  | link identity id, is => Function.update is identity (some id)
  | unlink id provider, is => fun identity => (is identity).filter fun i => ¬ (i = id ∧ identity.1 = provider)
  | _, is => is

/-- Accounts are opened under new identifiers, and identities linked once. -/
def Enabled (d : Directory) : Action → Prop
  | openAccount id _ _ _ => d.accounts id = none
  | link identity _ => d.identities identity = none
  | _ => True

end Action

/-- An action leads from one directory to another. -/
structure Directory.Step (d : Directory) (x : Action) (d' : Directory) : Prop where
  enabled : x.Enabled d
  accounts : d'.accounts = x.accounts d.accounts
  identities : d'.identities = x.identities d.identities

/-! ### One action -/

section Step

variable {d d' : Directory} {x : Action} {id : Uuid} {a : Account} {identity : Provider × String}

theorem Action.rewrite_some {accounts : Uuid → Option Account} {i : Uuid} {f : Account → Account}
    (ha : accounts i = some a) : Action.rewrite id f accounts i = some (if i = id then f a else a) := by
  unfold Action.rewrite
  by_cases hi : i = id
  · subst hi
    rw [Function.update_self, ha, if_pos rfl]
    rfl
  · rw [Function.update_of_ne hi, ha, if_neg hi]

/-- What an action does to an account that there is. -/
theorem Directory.Step.account (h : Directory.Step d x d') (ha : d.accounts id = some a) :
    d'.accounts id = some a ∨ (∃ p, x = .setPassword id p ∧ d'.accounts id = some (a.withPassword p)) ∨
      (∃ role, x = .setRole id role ∧ d'.accounts id = some { a with role := role }) ∨
      (x = .deactivate id ∧ d'.accounts id = some { a with isActive := false }) := by
  rw [h.accounts]
  cases x with
  | openAccount i email name credential =>
    refine Or.inl ?_
    have hne : id ≠ i := by
      rintro rfl
      rw [h.enabled] at ha
      cases ha
    exact (Function.update_of_ne hne _ _).trans ha
  | setPassword i p =>
    rw [Action.accounts, Action.rewrite_some ha]
    by_cases hi : id = i
    · subst hi
      rw [if_pos rfl]
      exact Or.inr (Or.inl ⟨p, rfl, rfl⟩)
    · rw [if_neg hi]
      exact Or.inl rfl
  | setRole i role =>
    rw [Action.accounts, Action.rewrite_some ha]
    by_cases hi : id = i
    · subst hi
      rw [if_pos rfl]
      exact Or.inr (Or.inr (Or.inl ⟨role, rfl, rfl⟩))
    · rw [if_neg hi]
      exact Or.inl rfl
  | deactivate i =>
    rw [Action.accounts, Action.rewrite_some ha]
    by_cases hi : id = i
    · subst hi
      rw [if_pos rfl]
      exact Or.inr (Or.inr (Or.inr ⟨rfl, rfl⟩))
    · rw [if_neg hi]
      exact Or.inl rfl
  | link | unlink => exact Or.inl ha

/-- How an account comes to be there. -/
theorem Directory.Step.opens (h : Directory.Step d x d') (hnone : d.accounts id = none)
    (ha : d'.accounts id = some a) :
    ∃ credential, x = .openAccount id a.email a.displayName credential := by
  rw [h.accounts] at ha
  have hrewrite : ∀ {i : Uuid} {f : Account → Account}, Action.rewrite i f d.accounts id ≠ some a := by
    intro i f heq
    unfold Action.rewrite at heq
    by_cases hi : id = i
    · subst hi
      rw [Function.update_self, hnone] at heq
      cases heq
    · rw [Function.update_of_ne hi, hnone] at heq
      cases heq
  cases x with
  | openAccount i email name credential =>
    by_cases hi : id = i
    · subst hi
      rw [Action.accounts, Function.update_self] at ha
      cases ha
      exact ⟨credential, rfl⟩
    · rw [Action.accounts, Function.update_of_ne hi, hnone] at ha
      cases ha
  | setPassword | setRole | deactivate => exact absurd ha hrewrite
  | link | unlink =>
    rw [Action.accounts, hnone] at ha
    cases ha

/-- What an action does to an identity that is linked. -/
theorem Directory.Step.linked (h : Directory.Step d x d') (hi : d.identities identity = some id) :
    d'.identities identity = some id ∨ x = .unlink id identity.1 := by
  rw [h.identities]
  cases x with
  | link identity' i =>
    refine Or.inl ?_
    have hne : identity ≠ identity' := by
      rintro rfl
      rw [h.enabled] at hi
      cases hi
    exact (Function.update_of_ne hne _ _).trans hi
  | unlink i provider =>
    by_cases hdrop : id = i ∧ identity.1 = provider
    · obtain ⟨rfl, rfl⟩ := hdrop
      exact Or.inr rfl
    · left
      simp only [Action.identities, hi, Option.filter_some]
      simp [hdrop]
  | _ => exact Or.inl hi

/-- How an identity comes to be linked. -/
theorem Directory.Step.links (h : Directory.Step d x d') (hi : d'.identities identity = some id) :
    d.identities identity = some id ∨ x = .link identity id := by
  rw [h.identities] at hi
  cases x with
  | link identity' i =>
    by_cases hne : identity = identity'
    · subst hne
      rw [Action.identities, Function.update_self] at hi
      cases hi
      exact Or.inr rfl
    · rw [Action.identities, Function.update_of_ne hne] at hi
      exact Or.inl hi
  | unlink i provider => exact Or.inl (Option.filter_eq_some_iff.1 hi).1
  | _ => exact Or.inl hi

end Step

/-! ### Any number of actions -/

/-- The step of a numbered action. -/
def Directory.Acts (_ : ℕ) (x : Action) (d d' : Directory) : Prop := Directory.Step d x d'

/-- What stays of a directory: accounts with their address, name and username, and that they are inactive. -/
def Directory.Le (d d' : Directory) : Prop :=
  ∀ {id a}, d.accounts id = some a → ∃ a', d'.accounts id = some a' ∧ a'.email = a.email ∧
    a'.displayName = a.displayName ∧ a'.username = a.username ∧ (a.isActive = false → a'.isActive = false)

theorem Account.username_withPassword (a : Account) (p : String) :
    (a.withPassword p).username = a.username := by
  cases h : a.credential <;> simp [Account.withPassword, Account.username, h]

theorem Account.password_withPassword (a : Account) (p : String) :
    (a.withPassword p).password = a.password.map fun _ => p := by
  cases h : a.credential <;> simp [Account.withPassword, Account.password, h]

theorem Directory.Step.le {d d' : Directory} {x : Action} (h : Directory.Step d x d') : d.Le d' := by
  intro id a ha
  rcases h.account ha with hsame | ⟨p, -, hp⟩ | ⟨role, -, hrole⟩ | ⟨-, hinactive⟩
  · exact ⟨a, hsame, rfl, rfl, rfl, fun h => h⟩
  · exact ⟨_, hp, rfl, rfl, a.username_withPassword p, fun h => h⟩
  · exact ⟨_, hrole, rfl, rfl, rfl, fun h => h⟩
  · exact ⟨_, hinactive, rfl, rfl, rfl, fun _ => rfl⟩

section Acts

variable {d d' : Directory} {l : List (ℕ × Action)} (h : Serial Directory.Acts d l d') {id : Uuid}
  {a a' : Account} {identity : Provider × String}

include h

/-- **Accounts are permanent.** -/
theorem Directory.le_of_acts : d.Le d' := by
  intro id a ha
  refine @Serial.invariant _ _ _ _ _ _ _ (fun d' => ∃ a', d'.accounts id = some a' ∧ a'.email = a.email ∧
    a'.displayName = a.displayName ∧ a'.username = a.username ∧ (a.isActive = false → a'.isActive = false))
    h ?_ ⟨a, ha, rfl, rfl, rfl, fun h => h⟩
  rintro i x d₁ d₂ - hstep ⟨b, hb, he, hn, hu, hactive⟩
  obtain ⟨b', hb', he', hn', hu', hactive'⟩ := Directory.Step.le hstep hb
  exact ⟨b', hb', he'.trans he, hn'.trans hn, hu'.trans hu, fun h => hactive' (hactive h)⟩

/-- An account has another password where this password has been set. -/
theorem Directory.setPassword_of_acts (ha : d.accounts id = some a) (ha' : d'.accounts id = some a')
    (hne : a'.password ≠ a.password) :
    ∃ i x, (i, x) ∈ l ∧ ∃ p, x = .setPassword id p ∧ a'.password = some p := by
  refine h.exists_act (Q := fun d => ∃ b, d.accounts id = some b ∧ b.password ≠ a'.password) ?_
    ⟨a, ha, hne.symm⟩ ?_
  · rintro i x d₁ d₂ hstep hno ⟨b, hb, hp⟩
    rcases Directory.Step.account hstep hb with hsame | ⟨p, rfl, hset⟩ | ⟨role, -, hrole⟩ | ⟨-, hinactive⟩
    · exact ⟨b, hsame, hp⟩
    · refine ⟨_, hset, fun heq => ?_⟩
      rw [Account.password_withPassword] at heq
      cases hb' : b.password with
      | none => exact hp (hb'.trans (by rw [← heq, hb']; rfl))
      | some p' => exact hno ⟨p, rfl, by rw [← heq, hb']; rfl⟩
    · exact ⟨_, hrole, hp⟩
    · exact ⟨_, hinactive, hp⟩
  · rintro ⟨b, hb, hp⟩
    rw [ha'] at hb
    cases hb
    exact hp rfl

/-- An account has another role where this role has been assigned. -/
theorem Directory.setRole_of_acts (ha : d.accounts id = some a) (ha' : d'.accounts id = some a')
    (hne : a'.role ≠ a.role) : ∃ i x, (i, x) ∈ l ∧ x = .setRole id a'.role := by
  refine h.exists_act (Q := fun d => ∃ b, d.accounts id = some b ∧ b.role ≠ a'.role) ?_
    ⟨a, ha, hne.symm⟩ ?_
  · rintro i x d₁ d₂ hstep hno ⟨b, hb, hr⟩
    rcases Directory.Step.account hstep hb with hsame | ⟨p, -, hp⟩ | ⟨role, rfl, hrole⟩ | ⟨-, hinactive⟩
    · exact ⟨b, hsame, hr⟩
    · exact ⟨_, hp, hr⟩
    · refine ⟨_, hrole, ?_⟩
      rintro rfl
      exact hno rfl
    · exact ⟨_, hinactive, hr⟩
  · rintro ⟨b, hb, hr⟩
    rw [ha'] at hb
    cases hb
    exact hr rfl

/-- An account is inactive where it has been deactivated. -/
theorem Directory.deactivate_of_acts (ha : d.accounts id = some a) (hactive : a.isActive = true)
    (ha' : d'.accounts id = some a') (hne : a'.isActive = false) :
    ∃ i x, (i, x) ∈ l ∧ x = .deactivate id := by
  refine h.exists_act (Q := fun d => ∃ b, d.accounts id = some b ∧ b.isActive = true) ?_
    ⟨a, ha, hactive⟩ ?_
  · rintro i x d₁ d₂ hstep hno ⟨b, hb, hactive⟩
    rcases Directory.Step.account hstep hb with hsame | ⟨p, -, hp⟩ | ⟨role, -, hrole⟩ | ⟨rfl, -⟩
    · exact ⟨b, hsame, hactive⟩
    · exact ⟨_, hp, hactive⟩
    · exact ⟨_, hrole, hactive⟩
    · exact absurd rfl hno
  · rintro ⟨b, hb, hactive⟩
    rw [ha'] at hb
    cases hb
    rw [hne] at hactive
    cases hactive

/-- An account that there was not has been opened. -/
theorem Directory.open_of_acts (ha : d.accounts id = none) (ha' : d'.accounts id = some a') :
    ∃ i x, (i, x) ∈ l ∧ ∃ credential, x = .openAccount id a'.email a'.displayName credential := by
  refine h.exists_act (Q := fun d => ∀ b, d.accounts id = some b →
    ¬ (b.email = a'.email ∧ b.displayName = a'.displayName)) ?_ ?_ fun hall => hall a' ha' ⟨rfl, rfl⟩
  · intro i x d₁ d₂ hstep hno hd b hb ⟨he, hn⟩
    cases h₁ : d₁.accounts id with
    | none =>
      obtain ⟨credential, rfl⟩ := Directory.Step.opens hstep h₁ hb
      exact hno ⟨credential, by rw [he, hn]⟩
    | some b₁ =>
      obtain ⟨b', hb', he', hn', -⟩ := Directory.Step.le hstep h₁
      rw [hb] at hb'
      cases hb'
      exact hd b₁ h₁ ⟨he'.symm.trans he, hn'.symm.trans hn⟩
  · intro b hb
    rw [ha] at hb
    cases hb

/-- An identity that is not linked any more has been unlinked. -/
theorem Directory.unlink_of_acts (hi : d.identities identity = some id)
    (hi' : d'.identities identity ≠ some id) : ∃ i x, (i, x) ∈ l ∧ x = .unlink id identity.1 := by
  refine h.exists_act (Q := fun d => d.identities identity = some id) ?_ hi hi'
  intro i x d₁ d₂ hstep hno hd
  exact (Directory.Step.linked hstep hd).resolve_right hno

/-- An identity that has come to be linked has been linked. -/
theorem Directory.link_of_acts (hi : d.identities identity ≠ some id)
    (hi' : d'.identities identity = some id) : ∃ i x, (i, x) ∈ l ∧ x = .link identity id := by
  refine h.exists_act (Q := fun d => d.identities identity ≠ some id) ?_ hi fun hne => hne hi'
  intro i x d₁ d₂ hstep hno hne hd
  exact (Directory.Step.links hstep hd).elim hne hno

end Acts

end Socle
