import Socle.Interaction.Linearization

/-!
# Simulation

Runs in which statements do nothing to an object, or take one of its actions.

* `Serial.append`, `Serial.invariant`, `Serial.exists_act`: the rules of actions one after the other;
* `Simulated`: serial actions that explain a part of a history;
* `Reachable.simulates`: where every statement is simulated, so is every run, from its start and from
  every statement on.
-/

namespace Interaction

variable {Op : Type} {Ret : Op → Type} {Req α S A Act : Type}

namespace Serial

variable {step : Req → Act → A → A → Prop} {a₀ a a' : A} {l l' : List (Req × Act)}

/-- What every action keeps, actions one after the other keep. -/
theorem invariant {Inv : A → Prop} (h : Serial step a₀ l a)
    (hstep : ∀ {i x a a'}, (i, x) ∈ l → step i x a a' → Inv a → Inv a') (hinit : Inv a₀) : Inv a := by
  induction h with
  | nil => exact hinit
  | call _ hcall ih =>
    exact hstep List.mem_cons_self hcall (ih fun hm => hstep (List.mem_cons_of_mem _ hm))

/-- **What has been broken has been broken by an action**: one that satisfies `P`, if all others keep `Q`. -/
theorem exists_act {Q : A → Prop} {P : Act → Prop} (h : Serial step a₀ l a)
    (hstep : ∀ {i x a a'}, step i x a a' → ¬ P x → Q a → Q a') (hinit : Q a₀) (hbroken : ¬ Q a) :
    ∃ i x, (i, x) ∈ l ∧ P x := by
  by_contra hnone
  refine hbroken (@invariant _ _ _ _ _ _ _ Q h ?_ hinit)
  exact fun hm hact => hstep hact fun hP => hnone ⟨_, _, hm, hP⟩

end Serial

namespace System

/-- Actions that lead from `a₀` to `a` and are taken by statements of the history `H` after `h₀`, as `φ` says;
an action comes with the number of the request that takes it. -/
def Simulated (step : ℕ → Act → A → A → Prop)
    (φ : History Op Ret Req α S → ℕ → (o : Op) → Ret o → Act → Prop) (H h₀ : History Op Ret Req α S)
    (a₀ a : A) : Prop :=
  ∃ l, Serial step a₀ l a ∧ ∀ {i x}, (i, x) ∈ l → ∃ h o r s s', h₀ <:+ h ∧
    Occurs H h (.stmt i o r s s') ∧ φ h i o r x

variable {sys : System Op Ret Req α S} {s₀ : S} {c : Pool Op Ret Req α S} {abs : S → A}
  {step : ℕ → Act → A → A → Prop} {φ : History Op Ret Req α S → ℕ → (o : Op) → Ret o → Act → Prop}

section Simulated

variable {H H' h₀ : History Op Ret Req α S} {a₀ a a' : A}

theorem Simulated.refl : Simulated step φ H h₀ a a := ⟨[], .nil, fun hm => absurd hm List.not_mem_nil⟩

theorem Simulated.mono (h : Simulated step φ H h₀ a₀ a) (hH : H <:+ H') :
    Simulated step φ H' h₀ a₀ a := by
  obtain ⟨l, hl, hall⟩ := h
  refine ⟨l, hl, fun hm => ?_⟩
  obtain ⟨h', o, r, s, s', h₁, he, hφ⟩ := hall hm
  exact ⟨h', o, r, s, s', h₁, he.of_suffix hH, hφ⟩

/-- One more action, of the statement that occurs next. -/
theorem Simulated.act (h : Simulated step φ H h₀ a₀ a) (h₀H : h₀ <:+ H) {i : ℕ} {o : Op} {r : Ret o}
    {s s' : S} {x : Act} (hx : step i x a a') (hφ : φ H i o r x) :
    Simulated step φ (.stmt i o r s s' :: H) h₀ a₀ a' := by
  obtain ⟨l, hl, hall⟩ := h.mono (List.suffix_cons (.stmt i o r s s') H)
  refine ⟨(i, x) :: l, hl.call hx, fun hm => ?_⟩
  rcases List.mem_cons.1 hm with heq | hm
  · cases heq
    exact ⟨H, o, r, s, s', h₀H, occurs_self, hφ⟩
  · exact hall hm

end Simulated

/-- A result is recorded on top of the history. -/
theorem suffix_settle {i : ℕ} {p : Prog Op Ret α} {H : History Op Ret Req α S} : H <:+ settle i p H := by
  cases p with
  | done a => exact List.suffix_cons _ _
  | step o k => exact List.suffix_rfl

/-- **Simulation.**  If the environment leaves the object alone, and every statement of a run does so or
takes one of its actions, then actions lead to the object of the final state, from the initial one and from
that of every statement. -/
theorem Reachable.simulates (hc : sys.Reachable s₀ c) (htick : ∀ {s s'}, sys.tick s s' → abs s' = abs s)
    (hstmt : ∀ {h i o r s s'}, Occurs c.history h (.stmt i o r s s') →
      abs s' = abs s ∨ ∃ x, step i x (abs s) (abs s') ∧ φ h i o r x) :
    Simulated step φ c.history [] (abs s₀) (abs c.state) ∧
      ∀ {h i o r s s'}, Occurs c.history h (.stmt i o r s s') →
        Simulated step φ c.history (.stmt i o r s s' :: h) (abs s') (abs c.state) := by
  induction hc with
  | init => exact ⟨.refl, fun he => absurd he not_occurs_nil⟩
  | @step c c' hreach hstep ih =>
    cases hstep with
    | @tick s' ht =>
      have ih := ih hstmt
      refine ⟨?_, fun he => ?_⟩
      · rw [htick ht]
        exact ih.1
      · rw [htick ht]
        exact ih.2 he
    | start q =>
      have ih := ih fun he => hstmt (occurs_stmt_start.2 he)
      have hsuffix : c.history <:+ (c.start q (sys.handler q)).history :=
        (List.suffix_cons _ _).trans suffix_settle
      exact ⟨ih.1.mono hsuffix, fun he => (ih.2 (occurs_stmt_start.1 he)).mono hsuffix⟩
    | @stmt j o' k r' t hi ho =>
      have ih := ih fun he => hstmt (occurs_stmt_stmt.2 (Or.inr he))
      have hsuffix : c.history <:+ (c.stmt j o' r' t (k r')).history :=
        (List.suffix_cons _ _).trans suffix_settle
      -- The new statement prolongs what there is.
      have hnew : ∀ {h₀ a₀}, h₀ <:+ c.history → Simulated step φ c.history h₀ a₀ (abs c.state) →
          Simulated step φ (c.stmt j o' r' t (k r')).history h₀ a₀ (abs t) := by
        intro h₀ a₀ hh₀ hsim
        rcases hstmt (occurs_stmt_stmt.2 (Or.inl ⟨rfl, rfl⟩)) with heq | ⟨x, hx, hφ⟩
        · rw [heq]
          exact hsim.mono hsuffix
        · exact (hsim.act hh₀ hx hφ).mono suffix_settle
      refine ⟨hnew (List.nil_suffix) ih.1, fun he => ?_⟩
      rcases occurs_stmt_stmt.1 he with ⟨heq, rfl⟩ | he
      · cases heq
        exact .refl
      · exact hnew he (ih.2 he)

end System

end Interaction
