import Socle.Model.Ideal
import Socle.Service

/-!
# An installation for concrete runs

* `demo`: the service with ideal primitives;
* `registerAlice`, `carolProfile`, `authorization`: the requests of its first users;
* `registered`: the installation after Alice has registered.
-/

namespace Socle

open Interaction Prog System

/-- The service with ideal primitives and its default lifetimes. -/
def demo : Env := ⟨.ideal, ⟨"secret", 900, 604800⟩⟩

def registerAlice : Request := .register "alice@example.com" "alice" "password"

/-- The state after Alice has registered at the time 0. -/
def registered : State :=
  (((handle demo registerAlice).run.eval (exec demo) (.fresh 0)).map Prod.snd).getD (.fresh 0)

/-- A profile at Google. -/
def carolProfile : OAuthProfile where
  provider := .google
  providerUserId := "1"
  email := "carol@example.com"
  displayName := some "Carol"
  avatarUrl := none

/-- The header with the access token that a user gets at the time 0. -/
def authorization (sub : Uuid) (email displayName : String) (authMethod : AuthMethod) : String :=
  "Bearer " ++ demo.prim.jwtEncode demo.config.jwtSecret
    (TokenService.accessClaims demo sub email displayName .user authMethod 0)

/-- The header of Alice, who is the first user to register. -/
def aliceAuthorization : String := authorization 1 "alice@example.com" "alice" .password

/-- The header of Carol, where she is the first user and logs in with her profile. -/
def carolAuthorization : String := authorization 0 "carol@example.com" "Carol" .oauth

/-- A request that has been evaluated in a reachable state leads to another. -/
theorem reachable_of_eval {s₀ s : State} {c : Pool Op Ret Request (Except AppError Response) State}
    {q : Request} {x : Except AppError Response} (hc : (service demo).Reachable s₀ c)
    (hx : (handle demo q).run.eval (exec demo) c.state = some (x, s)) :
    ∃ c', (service demo).Reachable s₀ c' ∧ c'.state = s := by
  have hexec : ∀ {o s r s'}, exec demo o s = some (r, s') → Stmt demo o s r s' := fun h => .exec h
  have hsem : ∀ {H i o s r s'}, Stmt demo o s r s' →
      ∃ s₁, (s₁ = s ∨ (service demo).tick s s₁) ∧ (service demo).sem H i o s₁ r s' :=
    fun h => ⟨_, Or.inl rfl, h⟩
  exact hc.of_request @hsem (q := q) (runs_of_eval @hexec hx)

theorem registered_reachable : ∃ c, (service demo).Reachable (.fresh 0) c ∧ c.state = registered := by
  have heval : ((handle demo registerAlice).run.eval (exec demo) (.fresh 0)).isSome = true := by
    decide +kernel
  obtain ⟨⟨x, s⟩, hx⟩ := Option.isSome_iff_exists.1 heval
  have hinit : (service demo).Reachable (.fresh 0) (.init (.fresh 0)) := .init
  obtain ⟨c, hc, hs⟩ := reachable_of_eval hinit hx
  refine ⟨c, hc, hs.trans ?_⟩
  rw [registered, hx]
  rfl

end Socle
