import Socle.Interaction.Prog

/-!
# Programs inside larger programs

A program over some statements is also a program over any larger set of statements, and what has been
asserted of its log holds of the part of the larger log that is its own.

* `Inclusion`: the statements `Op` as statements of `Op'`;
* `Inclusion.part`: the part of a larger log that consists of statements of `Op`;
* `embed`, `embedE`: programs over `Op` as programs over `Op'`;
* `sat_embed`, `satE_embedE`: assertions carry over.
-/

namespace Interaction

/-- The statements `Op` are some of the statements `Op'`. -/
structure Inclusion (Op : Type) (Ret : Op → Type) (Op' : Type) (Ret' : Op' → Type) where
  op : Op → Op'
  back : (o : Op) → Ret' (op o) → Ret o
  own : (o : Op') → Ret' o → Option ((o : Op) × Ret o)
  own_op : ∀ o r, own (op o) r = some ⟨o, back o r⟩

variable {Op Op' : Type} {Ret : Op → Type} {Ret' : Op' → Type} {α ε ε' : Type}

namespace Inclusion

variable (ι : Inclusion Op Ret Op' Ret')

/-- The statements of `Op` in a log. -/
def part (log : Log Op' Ret') : Log Op Ret := log.filterMap fun x => ι.own x.1 x.2

@[simp] theorem part_nil : ι.part [] = [] := rfl

@[simp] theorem part_op {o : Op} {r : Ret' (ι.op o)} {log : Log Op' Ret'} :
    ι.part (⟨ι.op o, r⟩ :: log) = ⟨o, ι.back o r⟩ :: ι.part log :=
  List.filterMap_cons_some (ι.own_op o r)

theorem part_other {o : Op'} {r : Ret' o} {log : Log Op' Ret'} (h : ι.own o r = none) :
    ι.part (⟨o, r⟩ :: log) = ι.part log := List.filterMap_cons_none h

/-- What stands last in a part of a log stands in the log. -/
theorem part_cons_suffix {x : (o : Op) × Ret o} {l : Log Op Ret} {log : Log Op' Ret'}
    (h : (x :: l) <:+ ι.part log) :
    ∃ y l', (y :: l') <:+ log ∧ ι.own y.1 y.2 = some x ∧ ι.part l' = l := by
  induction log with
  | nil => exact absurd (List.suffix_nil.1 h) (List.cons_ne_nil _ _)
  | cons z log ih =>
    have hlater : (x :: l) <:+ ι.part log →
        ∃ y l', (y :: l') <:+ z :: log ∧ ι.own y.1 y.2 = some x ∧ ι.part l' = l := by
      intro h
      obtain ⟨y, l', hy, hown, hl'⟩ := ih h
      exact ⟨y, l', hy.trans (List.suffix_cons _ _), hown, hl'⟩
    obtain ⟨o, r⟩ := z
    cases hown : ι.own o r with
    | none => exact hlater (ι.part_other hown ▸ h)
    | some x' =>
      have hpart : ι.part (⟨o, r⟩ :: log) = x' :: ι.part log := List.filterMap_cons_some hown
      rw [hpart] at h
      rcases List.suffix_cons_iff.1 h with heq | h
      · cases heq
        exact ⟨⟨o, r⟩, log, List.suffix_rfl, hown, rfl⟩
      · exact hlater h

/-- The program `p` over the larger set of statements. -/
def embed : Prog Op Ret α → Prog Op' Ret' α
  | .done a => .done a
  | .step o k => .step (ι.op o) fun r => embed (k (ι.back o r))

/-- The same for a program that may throw; its errors are translated. -/
def embedE (g : ε → ε') (p : ExceptT ε (Prog Op Ret) α) : ExceptT ε' (Prog Op' Ret') α :=
  ExceptT.mk (Except.mapError g <$> ι.embed p.run)

end Inclusion

namespace Prog

variable {ι : Inclusion Op Ret Op' Ret'} {log : Log Op' Ret'}

/-- What holds of the own part of the log holds of the larger log, which only grows. -/
theorem sat_embed {P : Log Op Ret → Op → Prop} {Q : Log Op Ret → α → Prop}
    {P' : Log Op' Ret' → Op' → Prop} {Q' : Log Op' Ret' → α → Prop}
    (hP : ∀ l o, log <:+ l → P (ι.part l) o → P' l (ι.op o))
    (hQ : ∀ l a, log <:+ l → Q (ι.part l) a → Q' l a) {p : Prog Op Ret α}
    (h : Sat P Q (ι.part log) p) : Sat P' Q' log (ι.embed p) := by
  have hgen : ∀ (p : Prog Op Ret α) (l : Log Op' Ret'), log <:+ l → Sat P Q (ι.part l) p →
      Sat P' Q' l (ι.embed p) := by
    intro p
    induction p with
    | done a => exact fun l hl h => hQ l a hl h
    | step o k ih =>
      intro l hl h
      refine ⟨hP l o hl h.1, fun r => ih _ _ (hl.trans (List.suffix_cons _ _)) ?_⟩
      rw [Inclusion.part_op]
      exact h.2 _
  exact hgen p log List.suffix_rfl h

/-- The same for programs that may throw. -/
theorem satE_embedE {g : ε → ε'} {P : Log Op Ret → Op → Prop} {Q : Log Op Ret → α → Prop}
    {E : Log Op Ret → ε → Prop} {P' : Log Op' Ret' → Op' → Prop} {Q' : Log Op' Ret' → α → Prop}
    {E' : Log Op' Ret' → ε' → Prop} (hP : ∀ l o, log <:+ l → P (ι.part l) o → P' l (ι.op o))
    (hQ : ∀ l a, log <:+ l → Q (ι.part l) a → Q' l a)
    (hE : ∀ l e, log <:+ l → E (ι.part l) e → E' l (g e)) {p : ExceptT ε (Prog Op Ret) α}
    (h : SatE p P Q E (ι.part log)) : SatE (ι.embedE g p) P' Q' E' log := by
  unfold SatE Inclusion.embedE
  rw [ExceptT.run_mk, map_eq_pure_bind, sat_bind]
  refine sat_embed hP ?_ h
  rintro l (e | a) hl hx
  · exact hE l e hl hx
  · exact hQ l a hl hx

end Prog

end Interaction
