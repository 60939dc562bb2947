import Mathlib.Tactic.Common
import Mathlib.Data.Nat.Notation

/-!
# Programs over atomic statements

A program performs statements one after the other and continues with the response of each: it is a
tree whose inner nodes are statements and whose branches are the possible responses.

* `Prog Op Ret α`, a monad; `perform o` is the program that performs `o` alone;
* `Runs sem p s a s'`: under the meaning `sem` of the statements, `p` started in the state `s` can
  finish with the value `a` in the state `s'`, with nobody else acting in between;
* `eval exec p s`: the outcome of `p` when the meaning is a partial function `exec`;
* `Recorded sem`, `Traces sem`: runs that keep the log of what has been performed;
* `Sat P Q log p`: on every path of `p`, whatever the responses are, each statement `o` is performed
  with a log of earlier statements and responses satisfying `P · o`, and the final value `a` with a
  log satisfying `Q · a`.  This is a Hoare logic whose only state is the program's own log.
* `Finishes move sem Q log s p`: total correctness.  However the environment moves before the
  statements of `p`, each of them can be executed, and `p` ends where `Q` holds.

All come with the rules for `bind`, also for programs that may throw (`ExceptT ε (Prog Op Ret)`), for
which `SatE` is the logic of logs.
-/

namespace Interaction

/-- A program over the statements `Op`, where `o : Op` is answered by a value of `Ret o`. -/
inductive Prog (Op : Type) (Ret : Op → Type) (α : Type) : Type
  | done (a : α)
  | step (o : Op) (k : Ret o → Prog Op Ret α)

/-- The meaning of statements: `sem o s r s'` says that `o`, executed atomically in `s`, can answer
`r` and leave `s'`. -/
abbrev Sem (Op : Type) (Ret : Op → Type) (S : Type) : Type :=
  (o : Op) → S → Ret o → S → Prop

/-- The statements a program has performed with their responses, the latest first. -/
abbrev Log (Op : Type) (Ret : Op → Type) : Type := List ((o : Op) × Ret o)

variable {Op : Type} {Ret : Op → Type} {S α β ε : Type}

namespace Prog

/-- Sequential composition. -/
def bind : Prog Op Ret α → (α → Prog Op Ret β) → Prog Op Ret β
  | done a, f => f a
  | step o k, f => step o fun r => (k r).bind f

instance : Monad (Prog Op Ret) where
  pure := done
  bind := bind

/-- The program that performs one statement and returns its response. -/
def perform (o : Op) : Prog Op Ret (Ret o) := step o done

theorem bind_done : ∀ p : Prog Op Ret α, p.bind done = p
  | done _ => rfl
  | step o k => by simp only [bind, bind_done]

theorem bind_assoc {γ : Type} (f : α → Prog Op Ret β) (g : β → Prog Op Ret γ) :
    ∀ p : Prog Op Ret α, (p.bind f).bind g = p.bind fun a => (f a).bind g
  | done _ => rfl
  | step o k => by simp only [bind, bind_assoc f g]

instance : LawfulMonad (Prog Op Ret) := LawfulMonad.mk' _
  (fun p => bind_done p) (fun _ _ => rfl) (fun p f g => bind_assoc f g p)

/-! ### Runs without interference -/

/-- `p`, started in `s`, can finish with `a` in `s'`. -/
def Runs (sem : Sem Op Ret S) : Prog Op Ret α → S → α → S → Prop
  | done a, s, b, s' => b = a ∧ s' = s
  | step o k, s, b, s' => ∃ r s₁, sem o s r s₁ ∧ Runs sem (k r) s₁ b s'

variable {sem sem' : Sem Op Ret S}

@[simp] theorem runs_pure {a b : α} {s s' : S} :
    Runs sem (pure a : Prog Op Ret α) s b s' ↔ b = a ∧ s' = s := Iff.rfl

@[simp] theorem runs_perform {o : Op} {r : Ret o} {s s' : S} :
    Runs sem (perform o) s r s' ↔ sem o s r s' := by
  constructor
  · rintro ⟨r', s₁, h, rfl, rfl⟩
    exact h
  · intro h
    exact ⟨r, s', h, rfl, rfl⟩

theorem runs_bind {p : Prog Op Ret α} {f : α → Prog Op Ret β} {s s' : S} {b : β} :
    Runs sem (p >>= f) s b s' ↔ ∃ a s₁, Runs sem p s a s₁ ∧ Runs sem (f a) s₁ b s' := by
  induction p generalizing s with
  | done a => exact ⟨fun h => ⟨a, s, ⟨rfl, rfl⟩, h⟩, by rintro ⟨_, _, ⟨rfl, rfl⟩, h⟩; exact h⟩
  | step o k ih =>
    constructor
    · rintro ⟨r, s₁, ho, h⟩
      obtain ⟨a, s₂, h₁, h₂⟩ := (ih r).1 h
      exact ⟨a, s₂, ⟨r, s₁, ho, h₁⟩, h₂⟩
    · rintro ⟨a, s₂, ⟨r, s₁, ho, h₁⟩, h₂⟩
      exact ⟨r, s₁, ho, (ih r).2 ⟨a, s₂, h₁, h₂⟩⟩

/-- The `bind` rule for programs that may throw: either the first part throws, or it returns and the
second part runs on. -/
theorem runs_bindE {p : ExceptT ε (Prog Op Ret) α} {f : α → ExceptT ε (Prog Op Ret) β} {s s' : S}
    {x : Except ε β} :
    Runs sem (p >>= f).run s x s' ↔
      (∃ e, Runs sem p.run s (.error e) s' ∧ x = .error e) ∨
        ∃ a s₁, Runs sem p.run s (.ok a) s₁ ∧ Runs sem (f a).run s₁ x s' := by
  rw [ExceptT.run_bind, runs_bind]
  constructor
  · rintro ⟨a | a, s₁, h₁, h₂⟩
    · obtain ⟨rfl, rfl⟩ := h₂
      exact Or.inl ⟨a, h₁, rfl⟩
    · exact Or.inr ⟨a, s₁, h₁, h₂⟩
  · rintro (⟨e, h, rfl⟩ | ⟨a, s₁, h₁, h₂⟩)
    · exact ⟨.error e, s', h, rfl, rfl⟩
    · exact ⟨.ok a, s₁, h₁, h₂⟩

theorem runs_mapE {p : ExceptT ε (Prog Op Ret) α} {f : α → β} {s s' : S} {x : Except ε β} :
    Runs sem (f <$> p).run s x s' ↔
      (∃ e, Runs sem p.run s (.error e) s' ∧ x = .error e) ∨
        ∃ a, Runs sem p.run s (.ok a) s' ∧ x = .ok (f a) := by
  rw [map_eq_pure_bind, runs_bindE]
  refine or_congr_right ⟨?_, ?_⟩
  · rintro ⟨a, s₁, h, rfl, rfl⟩
    exact ⟨a, h, rfl⟩
  · rintro ⟨a, h, rfl⟩
    exact ⟨a, s', h, rfl, rfl⟩

theorem Runs.mono (hsem : ∀ o s r s', sem o s r s' → sem' o s r s') {p : Prog Op Ret α} {s s' : S}
    {a : α} (h : Runs sem p s a s') : Runs sem' p s a s' := by
  induction p generalizing s with
  | done a => exact h
  | step o k ih =>
    obtain ⟨r, s₁, ho, h⟩ := h
    exact ⟨r, s₁, hsem _ _ _ _ ho, ih r h⟩

/-! ### Evaluation -/

/-- Execute `p` in `s`; nothing when a statement has no meaning. -/
def eval (exec : (o : Op) → S → Option (Ret o × S)) : Prog Op Ret α → S → Option (α × S)
  | done a, s => some (a, s)
  | step o k, s => (exec o s).bind fun x => (k x.1).eval exec x.2

section eval

variable {exec : (o : Op) → S → Option (Ret o × S)}

@[simp] theorem eval_pure {a : α} {s : S} : (pure a : Prog Op Ret α).eval exec s = some (a, s) := rfl

@[simp] theorem eval_perform {o : Op} {s : S} : (perform o : Prog Op Ret _).eval exec s = exec o s := by
  simp only [perform, eval]
  cases exec o s <;> rfl

theorem eval_bind {p : Prog Op Ret α} {f : α → Prog Op Ret β} {s : S} :
    (p >>= f).eval exec s = (p.eval exec s).bind fun x => (f x.1).eval exec x.2 := by
  induction p generalizing s with
  | done a => rfl
  | step o k ih =>
    show (exec o s).bind (fun x => (k x.1 >>= f).eval exec x.2) =
      ((exec o s).bind fun x => (k x.1).eval exec x.2).bind fun x => (f x.1).eval exec x.2
    cases exec o s with
    | none => rfl
    | some x => exact ih x.1

/-- The `bind` rule of evaluation for programs that may throw. -/
theorem eval_bindE {p : ExceptT ε (Prog Op Ret) α} {f : α → ExceptT ε (Prog Op Ret) β} {s : S} :
    (p >>= f).run.eval exec s = (p.run.eval exec s).bind fun x => match x.1 with
      | .ok a => (f a).run.eval exec x.2
      | .error e => some (.error e, x.2) := by
  rw [ExceptT.run_bind, eval_bind]
  refine congrArg (Option.bind (p.run.eval exec s)) ?_
  funext x
  rcases x with ⟨_ | _, _⟩ <;> rfl

/-- Evaluation finds a run of every meaning that allows what `exec` does. -/
theorem runs_of_eval (hsem : ∀ {o s r s'}, exec o s = some (r, s') → sem o s r s')
    {p : Prog Op Ret α} {s s' : S} {a : α} (h : p.eval exec s = some (a, s')) :
    Runs sem p s a s' := by
  induction p generalizing s with
  | done b =>
    cases h
    exact ⟨rfl, rfl⟩
  | step o k ih =>
    obtain ⟨⟨r, s₁⟩, ho, h⟩ := Option.bind_eq_some_iff.1 h
    exact ⟨r, s₁, hsem ho, ih r h⟩

end eval

/-! ### The logic of logs -/

/-- Every statement and every final value of `p` meets its assertion on the log. -/
def Sat (P : Log Op Ret → Op → Prop) (Q : Log Op Ret → α → Prop) :
    Log Op Ret → Prog Op Ret α → Prop
  | log, done a => Q log a
  | log, step o k => P log o ∧ ∀ r, Sat P Q (⟨o, r⟩ :: log) (k r)

variable {P P' : Log Op Ret → Op → Prop} {Q Q' : Log Op Ret → α → Prop} {log : Log Op Ret}

@[simp] theorem sat_pure {a : α} : Sat P Q log (pure a : Prog Op Ret α) ↔ Q log a := Iff.rfl

@[simp] theorem sat_perform {o : Op} {Q : Log Op Ret → Ret o → Prop} :
    Sat P Q log (perform o) ↔ P log o ∧ ∀ r, Q (⟨o, r⟩ :: log) r := Iff.rfl

theorem sat_bind {R : Log Op Ret → β → Prop} {p : Prog Op Ret α} {f : α → Prog Op Ret β} :
    Sat P R log (p >>= f) ↔ Sat P (fun l a => Sat P R l (f a)) log p := by
  induction p generalizing log with
  | done a => exact Iff.rfl
  | step o k ih => exact and_congr_right fun _ => forall_congr' fun r => ih r

/-- The `bind` rule of the logic of logs for programs that may throw. -/
theorem sat_bindE {R : Log Op Ret → Except ε β → Prop} {p : ExceptT ε (Prog Op Ret) α}
    {f : α → ExceptT ε (Prog Op Ret) β} :
    Sat P R log (p >>= f).run ↔
      Sat P (fun l x => match x with
        | .ok a => Sat P R l (f a).run
        | .error e => R l (.error e)) log p.run := by
  rw [ExceptT.run_bind, sat_bind]
  refine iff_of_eq (congrArg (fun T => Sat P T log p.run) ?_)
  funext l x
  cases x <;> rfl

theorem Sat.mono (hP : ∀ l o, P l o → P' l o) (hQ : ∀ l a, Q l a → Q' l a) {p : Prog Op Ret α}
    (h : Sat P Q log p) : Sat P' Q' log p := by
  induction p generalizing log with
  | done a => exact hQ _ _ h
  | step o k ih => exact ⟨hP _ _ h.1, fun r => ih r (h.2 r)⟩

/-- The log only grows. -/
theorem Sat.suffix {p : Prog Op Ret α} (h : Sat P Q log p) :
    Sat P (fun l a => log <:+ l ∧ Q l a) log p := by
  suffices hgen : ∀ log', log' <:+ log → Sat P (fun l a => log' <:+ l ∧ Q l a) log p from
    hgen log List.suffix_rfl
  induction p generalizing log with
  | done a => exact fun log' hlog => ⟨hlog, h⟩
  | step o k ih =>
    exact fun log' hlog => ⟨h.1, fun r => ih r (h.2 r) log' (hlog.trans (List.suffix_cons _ _))⟩

/-- What every operation carries over holds throughout. -/
theorem Sat.carry {N : Log Op Ret → Prop} (hN : ∀ l o (r : Ret o), P l o → N l → N (⟨o, r⟩ :: l))
    {p : Prog Op Ret α} (h : Sat P Q log p) (hlog : N log) :
    Sat (fun l o => P l o ∧ N l) (fun l a => Q l a ∧ N l) log p := by
  induction p generalizing log with
  | done a => exact ⟨h, hlog⟩
  | step o k ih => exact ⟨⟨h.1, hlog⟩, fun r => ih r (h.2 r) (hN log o r h.1 hlog)⟩

/-- **Invariant rule.**  An invariant on log and state that each asserted statement preserves holds at
the end of a run, where the log meets the assertion on results. -/
theorem Runs.invariant (Inv : Log Op Ret → S → Prop) {p : Prog Op Ret α} {s s' : S} {a : α}
    (h : Runs sem p s a s') (hp : Sat P Q log p)
    (hstep : ∀ l o s r s', P l o → sem o s r s' → Inv l s → Inv (⟨o, r⟩ :: l) s') (hs : Inv log s) :
    ∃ l, Q l a ∧ Inv l s' := by
  induction p generalizing s log with
  | done a =>
    obtain ⟨rfl, rfl⟩ := h
    exact ⟨log, hp, hs⟩
  | step o k ih =>
    obtain ⟨r, s₁, ho, h⟩ := h
    exact ih r h (hp.2 r) (hstep _ _ _ _ _ hp.1 ho hs)

/-! ### Recorded runs -/

/-- The meaning of statements on a state that comes with the log of what has been performed. -/
def Recorded (sem : Sem Op Ret S) : Sem Op Ret (S × Log Op Ret) :=
  fun o x r y => sem o x.1 r y.1 ∧ y.2 = ⟨o, r⟩ :: x.2

/-- The same for a meaning that is a partial function. -/
def record (exec : (o : Op) → S → Option (Ret o × S)) (o : Op) (x : S × Log Op Ret) :
    Option (Ret o × S × Log Op Ret) :=
  (exec o x.1).map fun y => (y.1, y.2, ⟨o, y.1⟩ :: x.2)

theorem record_sound {exec : (o : Op) → S → Option (Ret o × S)}
    (hsem : ∀ {o s r s'}, exec o s = some (r, s') → sem o s r s') {o : Op} {x y : S × Log Op Ret}
    {r : Ret o} (h : record exec o x = some (r, y)) : Recorded sem o x r y := by
  obtain ⟨z, hz, heq⟩ := Option.map_eq_some_iff.1 h
  cases heq
  exact ⟨hsem hz, rfl⟩

/-- Recording changes nothing. -/
theorem Runs.of_recorded {p : Prog Op Ret α} {x y : S × Log Op Ret} {a : α}
    (h : Runs (Recorded sem) p x a y) : Runs sem p x.1 a y.1 := by
  induction p generalizing x with
  | done b =>
    obtain ⟨rfl, rfl⟩ := h
    exact ⟨rfl, rfl⟩
  | step o k ih =>
    obtain ⟨r, z, ho, h⟩ := h
    exact ⟨r, z.1, ho.1, ih r h⟩

/-- Every run can be recorded. -/
theorem Runs.recorded {p : Prog Op Ret α} {s s' : S} {a : α} (h : Runs sem p s a s')
    (log : Log Op Ret) : ∃ log', Runs (Recorded sem) p (s, log) a (s', log') := by
  induction p generalizing s log with
  | done b =>
    obtain ⟨rfl, rfl⟩ := h
    exact ⟨log, rfl, rfl⟩
  | step o k ih =>
    obtain ⟨r, s₁, ho, h⟩ := h
    obtain ⟨log', h⟩ := ih r h (⟨o, r⟩ :: log)
    exact ⟨log', r, (s₁, ⟨o, r⟩ :: log), ⟨ho, rfl⟩, h⟩

/-- Performing the statements of a log, of which the head is the latest, leads from `s` to `s'`. -/
def Traces (sem : Sem Op Ret S) : Log Op Ret → S → S → Prop
  | [], s, s' => s' = s
  | x :: log, s, s' => ∃ s₁, Traces sem log s s₁ ∧ sem x.1 s₁ x.2 s'

theorem Traces.mono (hsem : ∀ o s r s', sem o s r s' → sem' o s r s') {log : Log Op Ret} {s s' : S}
    (h : Traces sem log s s') : Traces sem' log s s' := by
  induction log generalizing s' with
  | nil => exact h
  | cons x log ih =>
    obtain ⟨s₁, h, hx⟩ := h
    exact ⟨s₁, ih h, hsem _ _ _ _ hx⟩

theorem traces_append {l l' : Log Op Ret} {s s' : S} :
    Traces sem (l' ++ l) s s' ↔ ∃ s₁, Traces sem l s s₁ ∧ Traces sem l' s₁ s' := by
  induction l' generalizing s' with
  | nil => exact ⟨fun h => ⟨s', h, rfl⟩, by rintro ⟨s₁, h, rfl⟩; exact h⟩
  | cons x l' ih =>
    constructor
    · rintro ⟨s₂, h, hx⟩
      obtain ⟨s₁, h₁, h₂⟩ := ih.1 h
      exact ⟨s₁, h₁, s₂, h₂, hx⟩
    · rintro ⟨s₁, h₁, s₂, h₂, hx⟩
      exact ⟨s₂, ih.2 ⟨s₁, h₁, h₂⟩, hx⟩

/-- **Recorded runs.**  The log of a run meets what is asserted of it, and leads to where the run ends. -/
theorem Runs.traces {p : Prog Op Ret α} {s s' : S} {a : α} {log : Log Op Ret}
    (h : Runs (Recorded sem) p (s, []) a (s', log)) (hp : Sat P Q [] p) :
    Q log a ∧ Traces sem log s s' := by
  obtain ⟨l, hQ, rfl, htraces⟩ := Runs.invariant
    (fun l (y : S × Log Op Ret) => y.2 = l ∧ Traces sem l s y.1) h hp
    (fun l o x r y _ ho hinv => ⟨by rw [ho.2, hinv.1], x.1, hinv.2, ho.1⟩) ⟨rfl, rfl⟩
  exact ⟨hQ, htraces⟩

/-- **A run is determined by its log**: where the same responses can be had, the run can be replayed. -/
theorem Runs.replay {S' : Type} {sem' : Sem Op Ret S'} {p : Prog Op Ret α} {s s' : S} {a : α}
    {log₀ log : Log Op Ret} (h : Runs (Recorded sem) p (s, log₀) a (s', log)) :
    ∃ l, log = l ++ log₀ ∧ ∀ {t t' : S'}, Traces sem' l t t' →
      Runs (Recorded sem') p (t, log₀) a (t', log) := by
  induction p generalizing s log₀ with
  | done b =>
    obtain ⟨rfl, heq⟩ := h
    cases heq
    exact ⟨[], rfl, fun htraces => ⟨rfl, by rw [htraces]⟩⟩
  | step o k ih =>
    obtain ⟨r, ⟨s₁, log₁⟩, ⟨-, hlog⟩, h⟩ := h
    dsimp only at hlog
    subst hlog
    obtain ⟨l, rfl, hreplay⟩ := ih r h
    refine ⟨l ++ [⟨o, r⟩], by simp, fun {t t'} htraces => ?_⟩
    obtain ⟨t₁, ⟨_, rfl, ho⟩, hl⟩ := traces_append.1 htraces
    exact ⟨r, (t₁, ⟨o, r⟩ :: log₀), ⟨ho, rfl⟩, hreplay hl⟩

/-! ### Total correctness -/

/-- The meaning of statements before which the environment moves. -/
def After (move : Op → S → S → Prop) (sem : Sem Op Ret S) : Sem Op Ret S :=
  fun o s r s' => ∃ s₁, move o s s₁ ∧ sem o s₁ r s'

/-- Whatever the moves before its statements are, `p` runs to its end, with a log, a value and a state
that meet `Q`: no statement is stuck. -/
def Finishes (move : Op → S → S → Prop) (sem : Sem Op Ret S) (Q : Log Op Ret → α → S → Prop) :
    Log Op Ret → S → Prog Op Ret α → Prop
  | log, s, done a => Q log a s
  | log, s, step o k => ∀ s₁, move o s s₁ → (∃ r s', sem o s₁ r s') ∧
      ∀ r s', sem o s₁ r s' → Finishes move sem Q (⟨o, r⟩ :: log) s' (k r)

section Finishes

variable {move : Op → S → S → Prop} {R : Log Op Ret → α → S → Prop}

/-- A run of a program that finishes ends as it should. -/
theorem Finishes.run {p : Prog Op Ret α} {s s' : S} {a : α} {l : Log Op Ret}
    (h : Finishes move sem R log s p) (hrun : Runs (Recorded (After move sem)) p (s, log) a (s', l)) :
    R l a s' := by
  induction p generalizing log s with
  | done b =>
    obtain ⟨rfl, heq⟩ := hrun
    cases heq
    exact h
  | step o k ih =>
    obtain ⟨r, ⟨s₂, log₂⟩, ⟨⟨s₁, hmove, ho⟩, hlog⟩, hrun⟩ := hrun
    dsimp only at ho hlog
    subst hlog
    exact ih r ((h s₁ hmove).2 r s₂ ho) hrun

end Finishes

/-! ### Programs that may throw -/

/-- Every statement of `p` meets `P`, every value it returns `Q`, every error it throws `E`. -/
def SatE (p : ExceptT ε (Prog Op Ret) α) (P : Log Op Ret → Op → Prop) (Q : Log Op Ret → α → Prop)
    (E : Log Op Ret → ε → Prop) (log : Log Op Ret) : Prop :=
  Sat P (fun l x => match x with
    | .ok a => Q l a
    | .error e => E l e) log p.run

section SatE

variable {E E' : Log Op Ret → ε → Prop}

@[simp] theorem satE_pure {a : α} : SatE (pure a : ExceptT ε (Prog Op Ret) α) P Q E log ↔ Q log a := by
  constructor <;> exact id

@[simp] theorem satE_throw {e : ε} : SatE (throw e : ExceptT ε (Prog Op Ret) α) P Q E log ↔ E log e := by
  constructor <;> exact id

/-- The type of the response is not indexed: it may have been computed in the goal. -/
@[simp] theorem satE_lift {o : Op} {Q : Log Op Ret → Ret o → Prop} :
    @SatE _ _ (no_index (Ret o)) _ (ExceptT.lift (perform o)) P Q E log ↔
      P log o ∧ ∀ r, Q (⟨o, r⟩ :: log) r := by
  constructor <;> exact id

@[simp] theorem satE_bind {R : Log Op Ret → β → Prop} {p : ExceptT ε (Prog Op Ret) α}
    {f : α → ExceptT ε (Prog Op Ret) β} :
    SatE (p >>= f) P R E log ↔ SatE p P (fun l a => SatE (f a) P R E l) E log := by
  unfold SatE
  rw [sat_bindE]

@[simp] theorem satE_map {R : Log Op Ret → β → Prop} {p : ExceptT ε (Prog Op Ret) α} {f : α → β} :
    SatE (f <$> p) P R E log ↔ SatE p P (fun l a => R l (f a)) E log := by
  rw [map_eq_pure_bind, satE_bind]
  simp only [satE_pure]

@[simp] theorem satE_ite {c : Prop} [Decidable c] {p q : ExceptT ε (Prog Op Ret) α} :
    SatE (if c then p else q) P Q E log ↔
      (c → SatE p P Q E log) ∧ (¬ c → SatE q P Q E log) := by
  split <;> simp [*]

theorem SatE.mono (hP : ∀ l o, P l o → P' l o) (hQ : ∀ l a, Q l a → Q' l a)
    (hE : ∀ l e, E l e → E' l e) {p : ExceptT ε (Prog Op Ret) α} (h : SatE p P Q E log) :
    SatE p P' Q' E' log := by
  refine Sat.mono hP ?_ h
  rintro l (e | a)
  · exact hE l e
  · exact hQ l a

/-- Assertions that always hold. -/
theorem SatE.trivial (hP : ∀ l o, P l o) (hQ : ∀ l a, Q l a) (hE : ∀ l e, E l e)
    (p : ExceptT ε (Prog Op Ret) α) : SatE p P Q E log := by
  have hsat : ∀ (p : Prog Op Ret (Except ε α)) (log : Log Op Ret), Sat P (fun l x => match x with
      | .ok a => Q l a
      | .error e => E l e) log p := by
    intro p
    induction p with
    | done x =>
      rcases x with e | a
      · exact fun log => hE log e
      · exact fun log => hQ log a
    | step o k ih => exact fun log => ⟨hP log o, fun r => ih r _⟩
  exact hsat p.run log

/-- The log of a program that may throw only grows. -/
theorem SatE.suffix {p : ExceptT ε (Prog Op Ret) α} (h : SatE p P Q E log) :
    SatE p P (fun l a => log <:+ l ∧ Q l a) (fun l e => log <:+ l ∧ E l e) log := by
  refine Sat.mono (fun _ _ h => h) ?_ (Sat.suffix h)
  rintro l (e | a)
  · exact id
  · exact id

/-- What every operation of a program that may throw carries over holds throughout. -/
theorem SatE.carry {N : Log Op Ret → Prop} (hN : ∀ l o (r : Ret o), P l o → N l → N (⟨o, r⟩ :: l))
    {p : ExceptT ε (Prog Op Ret) α} (h : SatE p P Q E log) (hlog : N log) :
    SatE p (fun l o => P l o ∧ N l) (fun l a => Q l a ∧ N l) (fun l e => E l e ∧ N l) log := by
  refine Sat.mono (fun _ _ h => h) ?_ (Sat.carry hN h hlog)
  rintro l (e | a)
  · exact id
  · exact id

end SatE

end Prog

end Interaction
