import Socle.Interaction.Pool

/-!
# Linearization

Calls on one object that overlap, compared with the same calls one after the other.  The rule of this
module is for objects whose calls take effect when they return.

* `Serial step a₀ l a`: the calls of `l`, the latest first, lead from `a₀` to `a`;
* `returned H`: the calls that have returned, the latest first;
* `Reachable.serial`: the calls of a run are serial in the order in which they return.
-/

namespace Interaction

variable {Op : Type} {Ret : Op → Type} {Req α S A B : Type}

/-- Calls with their results, one after the other, where `step` says what one call does. -/
inductive Serial (step : Req → α → A → A → Prop) (a₀ : A) : List (Req × α) → A → Prop
  | nil : Serial step a₀ [] a₀
  | call {l : List (Req × α)} {a a' : A} {q : Req} {x : α} (h : Serial step a₀ l a)
      (hcall : step q x a a') : Serial step a₀ ((q, x) :: l) a'

/-- Where one call can follow another specification, so can all calls. -/
theorem Serial.simulate {step : Req → α → A → A → Prop} {step' : Req → α → B → B → Prop} {R : A → B → Prop}
    (hstep : ∀ {q x a a' b}, R a b → step q x a a' → ∃ b', step' q x b b' ∧ R a' b') {a₀ a : A} {b₀ : B}
    {l : List (Req × α)} (h : Serial step a₀ l a) (hR : R a₀ b₀) : ∃ b, Serial step' b₀ l b ∧ R a b := by
  induction h with
  | nil => exact ⟨b₀, .nil, hR⟩
  | call _ hcall ih =>
    obtain ⟨b, hb, hR⟩ := ih
    obtain ⟨b', hcall', hR'⟩ := hstep hR hcall
    exact ⟨b', hb.call hcall', hR'⟩

namespace System

/-- The calls that have returned with their results, the latest first. -/
def returned : History Op Ret Req α S → List (Req × α)
  | [] => []
  | .start _ _ :: H => returned H
  | .stmt _ _ _ _ _ :: H => returned H
  | .done i x :: H =>
    match asked i H with
    | some q => (q, x) :: returned H
    | none => returned H

theorem returned_done {H : History Op Ret Req α S} {i : ℕ} {q : Req} {x : α} (h : asked i H = some q) :
    returned (.done i x :: H) = (q, x) :: returned H := by
  simp only [returned, h]

/-- **Effects at the return.**  Where a call leaves the object alone until its last statement, and this
statement does to the object what the call does on its own, the calls of a run are serial in the order in
which they return. -/
theorem Reachable.serial {sys : System Op Ret Req α S} {s₀ : S} {c : Pool Op Ret Req α S}
    {P : Req → Log Op Ret → Op → Prop} {Q : Req → Log Op Ret → α → Prop}
    (hspec : ∀ q, Prog.Sat (P q) (Q q) [] (sys.handler q)) {R : S → A → Prop}
    {step : Req → α → A → A → Prop} {a₀ : A} (hinit : R s₀ a₀)
    (htick : ∀ {s s' a}, sys.tick s s' → R s a → R s' a)
    (hempty : ∀ {q x a}, Q q [] x → step q x a a)
    (hinner : ∀ {H i q o r s s' a o'}, .start i q ∈ H → P q (localLog i H) o →
      P q (⟨o, r⟩ :: localLog i H) o' → sys.sem H i o s r s' → R s a → R s' a)
    (hreturn : ∀ {H i q o r s s' a x}, .start i q ∈ H → P q (localLog i H) o →
      Q q (⟨o, r⟩ :: localLog i H) x → sys.sem H i o s r s' → R s a → ∃ a', step q x a a' ∧ R s' a')
    (hc : sys.Reachable s₀ c) : ∃ a, Serial step a₀ (returned c.history) a ∧ R c.state a := by
  induction hc with
  | init => exact ⟨a₀, .nil, hinit⟩
  | @step c c' hreach hstep ih =>
    obtain ⟨a, hserial, hR⟩ := ih
    cases hstep with
    | tick ht => exact ⟨a, hserial, htick ht hR⟩
    | start q =>
      have hsat := hspec q
      cases hp : sys.handler q with
      | step o k => exact ⟨a, hserial, hR⟩
      | done x =>
        rw [hp] at hsat
        refine ⟨a, ?_, hR⟩
        show Serial step a₀ (returned (.done c.threads.length x :: .start c.threads.length q :: c.history)) a
        have hasked : asked c.threads.length (.start c.threads.length q :: c.history) = some q := if_pos rfl
        rw [returned_done hasked]
        exact hserial.call (hempty hsat)
    | @stmt i o k r s' hi ho =>
      obtain ⟨q, hq, hP, hk⟩ := (hreach.logged hspec).thread hi
      have hsat := hk r
      cases hp : k r with
      | step o' k' =>
        rw [hp] at hsat
        exact ⟨a, hserial, hinner hq hP hsat.1 ho hR⟩
      | done x =>
        rw [hp] at hsat
        obtain ⟨a', hcall, hR'⟩ := hreturn hq hP hsat ho hR
        refine ⟨a', ?_, hR'⟩
        show Serial step a₀ (returned (.done i x :: .stmt i o r c.state s' :: c.history)) a'
        have hasked : asked i (.stmt i o r c.state s' :: c.history) = some q := asked_eq hreach.numbered hq
        rw [returned_done hasked]
        exact hserial.call hcall

end System

end Interaction
