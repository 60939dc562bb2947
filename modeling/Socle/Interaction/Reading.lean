import Socle.Interaction.Prog

/-!
# Programs that only read

What a program returns when the responses to its statements are prescribed.

* `Follows D p a`: with the responses that `D` prescribes, `p` returns `a`;
* the rules for `pure`, `perform` and `bind`, also for programs that may throw;
* `Follows.runs`: where these responses can be had, and the state stays as it is as far as they depend on
  it, `p` can return `a`;
* `Follows.unique`: where no others can be had, it returns nothing else.
-/

namespace Interaction

variable {Op : Type} {Ret : Op → Type} {S α β ε : Type}

namespace Prog

/-- With the responses that `D` prescribes, `p` returns `a`. -/
inductive Follows (D : (o : Op) → Ret o → Prop) : Prog Op Ret α → α → Prop
  | done {a : α} : Follows D (.done a) a
  | step {o : Op} {r : Ret o} {k : Ret o → Prog Op Ret α} {a : α} (hr : D o r) (hk : Follows D (k r) a) :
    Follows D (.step o k) a

variable {D : (o : Op) → Ret o → Prop} {sem : Sem Op Ret S} {Inv : S → Prop}

theorem follows_pure {a : α} : Follows D (pure a : Prog Op Ret α) a := .done

theorem Follows.bind {p : Prog Op Ret α} {f : α → Prog Op Ret β} {a : α} {b : β} (hp : Follows D p a)
    (hf : Follows D (f a) b) : Follows D (p >>= f) b := by
  induction hp with
  | done => exact hf
  | step hr _ ih => exact .step hr (ih hf)

/-- Where the first part of a program that may throw returns, the second part runs on. -/
theorem Follows.bindE {p : ExceptT ε (Prog Op Ret) α} {f : α → ExceptT ε (Prog Op Ret) β} {a : α}
    {x : Except ε β} (hp : Follows D p.run (.ok a)) (hf : Follows D (f a).run x) :
    Follows D (p >>= f).run x := by
  rw [ExceptT.run_bind]
  exact hp.bind hf

/-- Where it throws, so does the program. -/
theorem Follows.bindE_error {p : ExceptT ε (Prog Op Ret) α} {f : α → ExceptT ε (Prog Op Ret) β} {e : ε}
    (hp : Follows D p.run (.error e)) : Follows D (p >>= f).run (.error e) := by
  rw [ExceptT.run_bind]
  exact hp.bind follows_pure

/-- **The prescribed responses can be had**: then the program can return. -/
theorem Follows.runs (hsem : ∀ {o r s}, D o r → Inv s → ∃ s', sem o s r s' ∧ Inv s') {p : Prog Op Ret α}
    {a : α} (h : Follows D p a) {s : S} (hs : Inv s) : ∃ s', Runs sem p s a s' ∧ Inv s' := by
  induction h generalizing s with
  | done => exact ⟨s, ⟨rfl, rfl⟩, hs⟩
  | step hr _ ih =>
    obtain ⟨s₁, ho, hs₁⟩ := hsem hr hs
    obtain ⟨s', hrun, hs'⟩ := ih hs₁
    exact ⟨s', ⟨_, s₁, ho, hrun⟩, hs'⟩

/-- **No other responses can be had**: then it returns nothing else. -/
theorem Follows.unique (hsem : ∀ {o r r' s s'}, D o r → Inv s → sem o s r' s' → r' = r ∧ Inv s')
    {p : Prog Op Ret α} {a b : α} (h : Follows D p a) {s s' : S} (hs : Inv s) (hrun : Runs sem p s b s') :
    b = a ∧ Inv s' := by
  induction h generalizing s with
  | done =>
    obtain ⟨rfl, rfl⟩ := hrun
    exact ⟨rfl, hs⟩
  | step hr _ ih =>
    obtain ⟨r', s₁, ho, hrun⟩ := hrun
    obtain ⟨rfl, hs₁⟩ := hsem hr hs ho
    exact ih hs₁ hrun

end Prog

end Interaction
