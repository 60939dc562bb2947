import Socle.Interaction.History

/-!
# Interleaved runs

Any number of requests, each served by a program, act on one shared state.  A step starts a new
request, executes one statement of one running request, or lets the environment move the state (a
clock, say).  Nothing else is assumed about the scheduling: a request may be slow, stop forever, or
be overtaken at every statement.

* `System`: the program of each request, the meaning of the statements, the environment;
* `Pool`, `System.Step`, `System.Reachable`;
* `System.restrict`: the runs all of whose statements meet a condition;
* `Reachable.past`: the states in a history are reachable;
* `Reachable.always`, `Reachable.past_invariant`: invariants of all states of a run, and of all pasts;
* `Reachable.origin`: what statements alone bring about has been brought about by a statement;
* `Reachable.stmt_before_done`: the statements of a request come before its result;
* `Reachable.of_request`: requests served one after the other are a run;
* `Reachable.at_stmt`, `Reachable.at_done`: what the logic of logs proves of each program holds at
  every statement and every result of every run;
* `Reachable.ordered`: a preorder that no step leaves relates the states of a run in the order of
  time;
* `play`: a schedule executed move by move, and `Reachable.play`.
-/

namespace Interaction

variable {Op : Type} {Ret : Op → Type} {Req α S : Type}

/-- The programs that serve requests and what their statements mean.  The meaning may look at the
history and at the request's number, so that conditions on runs can be expressed. -/
structure System (Op : Type) (Ret : Op → Type) (Req α S : Type) where
  handler : Req → Prog Op Ret α
  sem : History Op Ret Req α S → ℕ → Sem Op Ret S
  tick : S → S → Prop

/-- The shared state, what each request still has to do, and what has happened. -/
structure Pool (Op : Type) (Ret : Op → Type) (Req α S : Type) where
  state : S
  threads : List (Prog Op Ret α)
  history : History Op Ret Req α S

/-- Record the result of a program that has nothing left to do. -/
def settle (i : ℕ) : Prog Op Ret α → History Op Ret Req α S → History Op Ret Req α S
  | .done a, H => .done i a :: H
  | .step _ _, H => H

namespace Pool

/-- Before the first request. -/
def init (s : S) : Pool Op Ret Req α S := ⟨s, [], []⟩

/-- Start serving `q`, whose program is `p`. -/
def start (c : Pool Op Ret Req α S) (q : Req) (p : Prog Op Ret α) : Pool Op Ret Req α S :=
  ⟨c.state, c.threads ++ [p], settle c.threads.length p (.start c.threads.length q :: c.history)⟩

/-- Request `i` has executed `o` with response `r`, leaving the state `s'`, and continues as `p`. -/
def stmt (c : Pool Op Ret Req α S) (i : ℕ) (o : Op) (r : Ret o) (s' : S) (p : Prog Op Ret α) :
    Pool Op Ret Req α S :=
  ⟨s', c.threads.set i p, settle i p (.stmt i o r c.state s' :: c.history)⟩

end Pool

namespace System

variable (sys : System Op Ret Req α S)

/-- One step of the whole system. -/
inductive Step (c : Pool Op Ret Req α S) : Pool Op Ret Req α S → Prop
  | start (q : Req) : Step c (c.start q (sys.handler q))
  | stmt {i : ℕ} {o : Op} {k : Ret o → Prog Op Ret α} {r : Ret o} {s' : S}
      (hi : c.threads[i]? = some (.step o k)) (ho : sys.sem c.history i o c.state r s') :
      Step c (c.stmt i o r s' (k r))
  | tick {s' : S} (ht : sys.tick c.state s') : Step c ⟨s', c.threads, c.history⟩

/-- The pools a run started in the state `s₀` can get to. -/
inductive Reachable (s₀ : S) : Pool Op Ret Req α S → Prop
  | init : Reachable s₀ (Pool.init s₀)
  | step {c c' : Pool Op Ret Req α S} : Reachable s₀ c → sys.Step c c' → Reachable s₀ c'

/-- The same system, restricted to statements that meet a condition. -/
def restrict (C : History Op Ret Req α S → ℕ → (o : Op) → S → Ret o → Prop) :
    System Op Ret Req α S where
  handler := sys.handler
  sem H i o s r s' := sys.sem H i o s r s' ∧ C H i o s r
  tick := sys.tick

variable {sys} {s₀ : S} {c : Pool Op Ret Req α S}

/-- Restricted runs are runs. -/
theorem Reachable.of_restrict {C : History Op Ret Req α S → ℕ → (o : Op) → S → Ret o → Prop}
    (hc : (sys.restrict C).Reachable s₀ c) : sys.Reachable s₀ c := by
  induction hc with
  | init => exact .init
  | step _ hstep ih =>
    refine ih.step ?_
    cases hstep with
    | start q => exact .start q
    | stmt hi ho => exact .stmt hi ho.1
    | tick ht => exact .tick ht

/-! ### The numbering of requests -/

/-- The numbers in a history are those of started requests, each request starts once, and a
request with a result has nothing left to do. -/
structure Numbered (c : Pool Op Ret Req α S) : Prop where
  start_lt : ∀ {i q}, .start i q ∈ c.history → i < c.threads.length
  start_unique : ∀ {i q q'}, .start i q ∈ c.history → .start i q' ∈ c.history → q = q'
  done_last : ∀ {i a}, .done i a ∈ c.history → c.threads[i]? = some (.done a)

theorem mem_settle {i : ℕ} {p : Prog Op Ret α} {H : History Op Ret Req α S}
    {e : Event Op Ret Req α S} :
    e ∈ settle i p H ↔ e ∈ H ∨ ∃ a, p = .done a ∧ e = .done i a := by
  cases p with
  | done a => simp [settle, or_comm]
  | step o k => simp [settle]

theorem occurs_settle {i : ℕ} {p : Prog Op Ret α} {H h : History Op Ret Req α S}
    {e : Event Op Ret Req α S} :
    Occurs (settle i p H) h e ↔ Occurs H h e ∨ ∃ a, p = .done a ∧ e = .done i a ∧ h = H := by
  cases p with
  | done a => simp [settle, occurs_cons, or_comm]
  | step o k => simp [settle]

/-- The statements of a pool in which a request has just started. -/
theorem occurs_stmt_start {q : Req} {p : Prog Op Ret α} {h : History Op Ret Req α S} {i : ℕ} {o : Op}
    {r : Ret o} {s s' : S} :
    Occurs (c.start q p).history h (.stmt i o r s s') ↔ Occurs c.history h (.stmt i o r s s') := by
  simp [Pool.start, occurs_settle, occurs_cons]

/-- The statements of a pool in which a statement has just been executed. -/
theorem occurs_stmt_stmt {j : ℕ} {o' : Op} {r' : Ret o'} {t : S} {p : Prog Op Ret α}
    {h : History Op Ret Req α S} {i : ℕ} {o : Op} {r : Ret o} {s s' : S} :
    Occurs (c.stmt j o' r' t p).history h (.stmt i o r s s') ↔
      ((Event.stmt i o r s s' : Event Op Ret Req α S) = .stmt j o' r' c.state t ∧ h = c.history) ∨
        Occurs c.history h (.stmt i o r s s') := by
  simp [Pool.stmt, occurs_settle, occurs_cons]

@[simp] theorem localLog_settle {i j : ℕ} {p : Prog Op Ret α} {H : History Op Ret Req α S} :
    localLog i (settle j p H) = localLog i H := by
  cases p <;> rfl

theorem Reachable.numbered (hc : sys.Reachable s₀ c) : Numbered c := by
  induction hc with
  | init => constructor <;> simp [Pool.init]
  | @step c c' _ hstep ih =>
    cases hstep with
    | tick ht => exact ⟨ih.start_lt, ih.start_unique, ih.done_last⟩
    | start q =>
      refine ⟨?_, ?_, ?_⟩
      · intro i q' hq
        simp only [Pool.start, mem_settle, List.mem_cons, List.length_append] at hq ⊢
        rcases hq with (heq | hq) | ⟨a, -, heq⟩
        · cases heq
          simp
        · exact Nat.lt_succ_of_lt (ih.start_lt hq)
        · cases heq
      · intro i q₁ q₂ h₁ h₂
        simp only [Pool.start, mem_settle, List.mem_cons, reduceCtorEq, and_false, exists_false,
          or_false] at h₁ h₂
        rcases h₁ with h₁ | h₁ <;> rcases h₂ with h₂ | h₂
        · cases h₁; cases h₂; rfl
        · cases h₁; exact absurd (ih.start_lt h₂) (Nat.lt_irrefl _)
        · cases h₂; exact absurd (ih.start_lt h₁) (Nat.lt_irrefl _)
        · exact ih.start_unique h₁ h₂
      · intro i a ha
        simp only [Pool.start, mem_settle, List.mem_cons, reduceCtorEq, false_or] at ha ⊢
        rcases ha with ha | ⟨a', hp, heq⟩
        · have hget := ih.done_last ha
          rw [List.getElem?_append_left (List.getElem?_eq_some_iff.1 hget).1, hget]
        · cases heq
          simp [hp]
    | @stmt i o k r s' hi ho =>
      have hlt := (List.getElem?_eq_some_iff.1 hi).1
      refine ⟨?_, ?_, ?_⟩
      · intro j q hq
        simp only [Pool.stmt, mem_settle, List.mem_cons, reduceCtorEq, false_or, and_false,
          exists_false, or_false, List.length_set] at hq ⊢
        exact ih.start_lt hq
      · intro j q₁ q₂ h₁ h₂
        simp only [Pool.stmt, mem_settle, List.mem_cons, reduceCtorEq, false_or, and_false,
          exists_false, or_false] at h₁ h₂
        exact ih.start_unique h₁ h₂
      · intro j a ha
        simp only [Pool.stmt, mem_settle, List.mem_cons, reduceCtorEq, false_or] at ha ⊢
        rcases ha with ha | ⟨a', hp, heq⟩
        · have hget := ih.done_last ha
          have hne : i ≠ j := by
            rintro rfl
            rw [hi] at hget
            cases hget
          rw [List.getElem?_set_ne hne, hget]
        · cases heq
          rw [List.getElem?_set_self hlt, hp]

/-- A request that has finished executes no further statement. -/
theorem Reachable.no_stmt_after_done (hc : sys.Reachable s₀ c) {i : ℕ} {o : Op} {r : Ret o}
    {s s' : S} {h : History Op Ret Req α S} (he : Occurs c.history h (.stmt i o r s s')) (a : α) :
    .done i a ∉ h := by
  induction hc generalizing h with
  | init => exact absurd he not_occurs_nil
  | @step c c' hreach hstep ih =>
    cases hstep with
    | tick ht => exact ih he
    | start q =>
      exact ih (occurs_stmt_start.1 he)
    | @stmt j o' k r' t hi ho =>
      rcases occurs_stmt_stmt.1 he with ⟨heq, rfl⟩ | he
      · cases heq
        intro ha
        rw [hreach.numbered.done_last ha] at hi
        cases hi
      · exact ih he

/-- What a request has executed, it has executed before its result. -/
theorem Reachable.stmt_before_done (hc : sys.Reachable s₀ c) {h : History Op Ret Req α S}
    {e : Event Op Ret Req α S} (he : Occurs c.history h e) {i : ℕ} {a : α} (ha : .done i a ∈ h) {o : Op}
    {r : Ret o} {s s' : S} (hm : .stmt i o r s s' ∈ c.history) :
    ∃ past, Occurs h past (.stmt i o r s s') := by
  obtain ⟨past, hstmt⟩ := exists_occurs hm
  rcases hstmt.total he with ⟨-, rfl⟩ | hlt | hlt
  · exact absurd ha (hc.no_stmt_after_done hstmt a)
  · exact absurd (hlt.past.subset ha) (hc.no_stmt_after_done hstmt a)
  · exact ⟨past, hlt⟩

/-- The log of a request that has finished is complete. -/
theorem Reachable.localLog_of_done (hc : sys.Reachable s₀ c) {i : ℕ} {a : α}
    {h : History Op Ret Req α S} (he : Occurs c.history h (.done i a)) :
    localLog i c.history = localLog i h := by
  refine localLog_eq_of_suffix he.past fun hocc => ?_
  rcases he.total hocc with ⟨heq, -⟩ | hlt | hlt
  · cases heq
  · exact hlt
  · exact absurd hlt.mem (hc.no_stmt_after_done hocc a)

/-- A request starts once. -/
theorem Reachable.start_once (hc : sys.Reachable s₀ c) {i : ℕ} {q : Req}
    {h : History Op Ret Req α S} (he : Occurs c.history h (.start i q)) (q' : Req) :
    .start i q' ∉ h := by
  induction hc generalizing h with
  | init => exact absurd he not_occurs_nil
  | @step c c' hreach hstep ih =>
    cases hstep with
    | tick ht => exact ih he
    | start q₁ =>
      simp only [Pool.start, occurs_settle, occurs_cons, reduceCtorEq, false_and, and_false,
        exists_false, or_false] at he
      rcases he with ⟨heq, rfl⟩ | he
      · cases heq
        exact fun hm => Nat.lt_irrefl _ (hreach.numbered.start_lt hm)
      · exact ih he
    | @stmt j o k r t hi ho =>
      simp only [Pool.stmt, occurs_settle, occurs_cons, reduceCtorEq, false_and, and_false,
        exists_false, or_false, false_or] at he
      exact ih he

/-! ### Statements mean what the system says -/

/-- Every executed statement had a meaning in the state and the history it was executed in. -/
theorem Reachable.sem_of_stmt (hc : sys.Reachable s₀ c) {i : ℕ} {o : Op} {r : Ret o} {s s' : S}
    {h : History Op Ret Req α S} (he : Occurs c.history h (.stmt i o r s s')) :
    sys.sem h i o s r s' := by
  induction hc with
  | init => exact absurd he not_occurs_nil
  | @step c c' _ hstep ih =>
    cases hstep with
    | tick ht => exact ih he
    | start q =>
      exact ih (occurs_stmt_start.1 he)
    | @stmt j o' k r' t hi ho =>
      rcases occurs_stmt_stmt.1 he with ⟨heq, rfl⟩ | he
      · cases heq
        exact ho
      · exact ih he

/-- The states around a statement of a run are states of the run. -/
theorem Reachable.past (hc : sys.Reachable s₀ c) {i : ℕ} {o : Op} {r : Ret o} {s s' : S}
    {h : History Op Ret Req α S} (he : Occurs c.history h (.stmt i o r s s')) :
    ∃ c₀ c₁, sys.Reachable s₀ c₀ ∧ c₀.history = h ∧ c₀.state = s ∧
      sys.Reachable s₀ c₁ ∧ c₁.state = s' := by
  induction hc with
  | init => exact absurd he not_occurs_nil
  | @step c c' hreach hstep ih =>
    have hc' := hreach.step hstep
    cases hstep with
    | tick ht => exact ih he
    | start q => exact ih (occurs_stmt_start.1 he)
    | @stmt j o' k r' t hi ho =>
      rcases occurs_stmt_stmt.1 he with ⟨heq, rfl⟩ | he
      · cases heq
        exact ⟨c, _, hreach, rfl, rfl, hc', rfl⟩
      · exact ih he

/-- **Invariant rule.**  What holds at the start, and is kept by the environment and by every statement
of the run, holds in all states of the run. -/
theorem Reachable.always {Inv : S → Prop} (hc : sys.Reachable s₀ c) (hinit : Inv s₀)
    (htick : ∀ {s s'}, sys.tick s s' → Inv s → Inv s')
    (hstmt : ∀ {h i o r s s'}, Occurs c.history h (.stmt i o r s s') → Inv s → Inv s') :
    Inv c.state ∧ ∀ {i o r s s'}, .stmt i o r s s' ∈ c.history → Inv s ∧ Inv s' := by
  induction hc with
  | init => exact ⟨hinit, by simp [Pool.init]⟩
  | @step c c' _ hstep ih =>
    cases hstep with
    | tick ht =>
      obtain ⟨hlast, hall⟩ := ih hstmt
      exact ⟨htick ht hlast, hall⟩
    | start q =>
      obtain ⟨hlast, hall⟩ := ih fun he => hstmt (occurs_stmt_start.2 he)
      refine ⟨hlast, fun hm => ?_⟩
      obtain ⟨h, he⟩ := exists_occurs hm
      exact hall (occurs_stmt_start.1 he).mem
    | @stmt j o' k r' t hi ho =>
      obtain ⟨hlast, hall⟩ := ih fun he => hstmt (occurs_stmt_stmt.2 (Or.inr he))
      have hnew : Inv t := hstmt (occurs_stmt_stmt.2 (Or.inl ⟨rfl, rfl⟩)) hlast
      refine ⟨hnew, fun hm => ?_⟩
      obtain ⟨h, he⟩ := exists_occurs hm
      rcases occurs_stmt_stmt.1 he with ⟨heq, -⟩ | he
      · cases heq
        exact ⟨hlast, hnew⟩
      · exact hall he.mem

/-- **Invariant rule for pasts.**  What holds of the empty history, and is kept by the environment, by
starts, results and every statement of the run, holds of the history and of every past in it. -/
theorem Reachable.past_invariant {Inv : History Op Ret Req α S → S → Prop} (hc : sys.Reachable s₀ c)
    (hinit : Inv [] s₀) (htick : ∀ {H s s'}, sys.tick s s' → Inv H s → Inv H s')
    (hstart : ∀ {H i q s}, Inv H s → Inv (.start i q :: H) s)
    (hdone : ∀ {H i a s}, Inv H s → Inv (.done i a :: H) s)
    (hstmt : ∀ {h i o r s s'}, Occurs c.history h (.stmt i o r s s') → Inv h s →
      Inv (.stmt i o r s s' :: h) s') :
    Inv c.history c.state ∧ ∀ {h i o r s s'}, Occurs c.history h (.stmt i o r s s') → Inv h s := by
  have hsettle : ∀ {i p H s}, Inv H s → Inv (settle i p H) s := by
    intro i p H s hinv
    cases p with
    | done a => exact hdone hinv
    | step o k => exact hinv
  induction hc with
  | init => exact ⟨hinit, fun he => absurd he not_occurs_nil⟩
  | @step c c' _ hstep ih =>
    cases hstep with
    | tick ht =>
      obtain ⟨hlast, hall⟩ := ih hstmt
      exact ⟨htick ht hlast, hall⟩
    | start q =>
      obtain ⟨hlast, hall⟩ := ih fun he => hstmt (occurs_stmt_start.2 he)
      exact ⟨hsettle (hstart hlast), fun he => hall (occurs_stmt_start.1 he)⟩
    | @stmt j o' k r' t hi ho =>
      obtain ⟨hlast, hall⟩ := ih fun he => hstmt (occurs_stmt_stmt.2 (Or.inr he))
      refine ⟨hsettle (hstmt (occurs_stmt_stmt.2 (Or.inl ⟨rfl, rfl⟩)) hlast), fun he => ?_⟩
      rcases occurs_stmt_stmt.1 he with ⟨heq, rfl⟩ | he
      · cases heq
        exact hlast
      · exact hall he

/-- What holds in the state has been brought about by a statement of the history. -/
def Originates {β : Type} (fact : S → β → Prop) (brings : (o : Op) → Ret o → β → Prop)
    (H : History Op Ret Req α S) (s : S) : Prop :=
  ∀ b, fact s b → ∃ p j o r t t', Occurs H p (.stmt j o r t t') ∧ brings o r b

theorem Originates.cons {β : Type} {fact : S → β → Prop} {brings : (o : Op) → Ret o → β → Prop}
    {H : History Op Ret Req α S} {s s' : S} {e : Event Op Ret Req α S} (h : Originates fact brings H s)
    (hfact : ∀ b, fact s' b → fact s b) : Originates fact brings (e :: H) s' := by
  intro b hb
  obtain ⟨p, j, o, r, t, t', hocc, hbrings⟩ := h b (hfact b hb)
  exact ⟨p, j, o, r, t, t', hocc.cons, hbrings⟩

/-- **Origins.**  A fact that does not hold at first, and that only statements bring about, has been brought
about by a statement of the past. -/
theorem Reachable.origin {β : Type} {fact : S → β → Prop} {brings : (o : Op) → Ret o → β → Prop}
    (hc : sys.Reachable s₀ c) (hinit : ∀ b, ¬ fact s₀ b)
    (htick : ∀ {s s' b}, sys.tick s s' → fact s' b → fact s b)
    (hstmt : ∀ {i o r s s' b}, .stmt i o r s s' ∈ c.history → fact s' b → fact s b ∨ brings o r b) :
    Originates fact brings c.history c.state ∧
      ∀ {h i o r s s'}, Occurs c.history h (.stmt i o r s s') → Originates fact brings h s := by
  refine hc.past_invariant (fun b hb => absurd hb (hinit b)) ?tick (fun h => h.cons fun _ hb => hb)
    (fun h => h.cons fun _ hb => hb) ?stmt
  case tick => exact fun ht h b hb => h b (htick ht hb)
  case stmt =>
    intro h i o r s s' he hold b hb
    rcases hstmt he.mem hb with hb | hbrings
    · obtain ⟨p, j, o', r', t, t', hocc, hbrings⟩ := hold b hb
      exact ⟨p, j, o', r', t, t', hocc.cons, hbrings⟩
    · exact ⟨h, i, o, r, s, s', occurs_self, hbrings⟩

/-! ### Requests served without interference -/

/-- A request that is left alone finishes as its program does; time may pass before each statement. -/
theorem Reachable.of_runs {sem : Sem Op Ret S}
    (hsem : ∀ {H i o s r s'}, sem o s r s' → ∃ s₁, (s₁ = s ∨ sys.tick s s₁) ∧ sys.sem H i o s₁ r s')
    (hc : sys.Reachable s₀ c) {i : ℕ} {p : Prog Op Ret α} (hi : c.threads[i]? = some p) {a : α} {s' : S}
    (h : Prog.Runs sem p c.state a s') : ∃ c', sys.Reachable s₀ c' ∧ c'.state = s' := by
  induction p generalizing c with
  | done b =>
    obtain ⟨-, rfl⟩ := h
    exact ⟨c, hc, rfl⟩
  | step o k ih =>
    obtain ⟨r, s₂, ho, h⟩ := h
    have hlt := (List.getElem?_eq_some_iff.1 hi).1
    obtain ⟨s₁, rfl | ht, ho⟩ := hsem (H := c.history) (i := i) ho
    · exact ih r (hc.step (.stmt hi ho)) (List.getElem?_set_self hlt) h
    · have hc₁ : sys.Reachable s₀ ⟨s₁, c.threads, c.history⟩ := hc.step (.tick ht)
      exact ih r (hc₁.step (.stmt hi ho)) (List.getElem?_set_self hlt) h

/-- Serving one request after the other is one way of serving them. -/
theorem Reachable.of_request {sem : Sem Op Ret S}
    (hsem : ∀ {H i o s r s'}, sem o s r s' → ∃ s₁, (s₁ = s ∨ sys.tick s s₁) ∧ sys.sem H i o s₁ r s')
    (hc : sys.Reachable s₀ c) {q : Req} {a : α} {s' : S}
    (h : Prog.Runs sem (sys.handler q) c.state a s') : ∃ c', sys.Reachable s₀ c' ∧ c'.state = s' :=
  (hc.step (.start q)).of_runs hsem List.getElem?_concat_length h

/-! ### The logic of logs in runs -/

section Logs

variable {P : Req → Log Op Ret → Op → Prop} {Q : Req → Log Op Ret → α → Prop}

/-- What `Sat` says of the programs, at every point of a run. -/
structure Logged (P : Req → Log Op Ret → Op → Prop) (Q : Req → Log Op Ret → α → Prop)
    (c : Pool Op Ret Req α S) : Prop where
  thread : ∀ {i p}, c.threads[i]? = some p →
    ∃ q, .start i q ∈ c.history ∧ Prog.Sat (P q) (Q q) (localLog i c.history) p
  stmt : ∀ {h i o r s s'}, Occurs c.history h (.stmt i o r s s') →
    ∃ q, .start i q ∈ h ∧ P q (localLog i h) o
  done : ∀ {h i a}, Occurs c.history h (.done i a) →
    ∃ q, .start i q ∈ h ∧ Q q (localLog i h) a

theorem localLog_eq_nil (hc : Numbered c) (hs : ∀ {h i o r s s'},
    Occurs c.history h (.stmt i o r s s') → ∃ q, .start i q ∈ h) {i : ℕ}
    (hi : c.threads.length ≤ i) : localLog i c.history = [] := by
  rcases hlog : localLog i c.history with _ | ⟨⟨o, r⟩, l⟩
  · rfl
  · obtain ⟨s, s', hm⟩ := exists_stmt_of_mem_localLog (H := c.history) (i := i) (o := o) (r := r)
      (by rw [hlog]; exact List.mem_cons_self)
    obtain ⟨h, he⟩ := exists_occurs hm
    obtain ⟨q, hq⟩ := hs he
    exact absurd (hc.start_lt (he.past.subset hq)) (Nat.not_lt.2 hi)

theorem Reachable.logged (hsat : ∀ q, Prog.Sat (P q) (Q q) [] (sys.handler q))
    (hc : sys.Reachable s₀ c) : Logged P Q c := by
  induction hc with
  | init =>
    exact ⟨by simp [Pool.init], fun he => absurd he not_occurs_nil,
      fun he => absurd he not_occurs_nil⟩
  | @step c c' hreach hstep ih =>
    cases hstep with
    | tick ht => exact ⟨ih.thread, ih.stmt, ih.done⟩
    | start q =>
      have hnil : localLog c.threads.length c.history = [] :=
        localLog_eq_nil hreach.numbered (fun he => ⟨_, (ih.stmt he).choose_spec.1⟩) (Nat.le_refl _)
      refine ⟨?_, ?_, ?_⟩
      · intro i p hp
        simp only [Pool.start, mem_settle, List.mem_cons, localLog_settle, localLog_start] at hp ⊢
        rcases Nat.lt_or_ge i c.threads.length with hlt | hge
        · rw [List.getElem?_append_left hlt] at hp
          obtain ⟨q', hq', hs⟩ := ih.thread hp
          exact ⟨q', Or.inl (Or.inr hq'), hs⟩
        · rw [List.getElem?_append_right hge] at hp
          obtain ⟨hi, hpe⟩ := List.getElem?_eq_some_iff.1 hp
          simp only [List.length_singleton, Nat.lt_one_iff] at hi
          obtain rfl : i = c.threads.length := Nat.le_antisymm (Nat.sub_eq_zero_iff_le.1 hi) hge
          simp only [List.getElem_singleton] at hpe
          subst hpe
          exact ⟨q, Or.inl (Or.inl rfl), by rw [hnil]; exact hsat q⟩
      · intro h i o r s s' he
        exact ih.stmt (occurs_stmt_start.1 he)
      · intro h i a he
        simp only [Pool.start, occurs_settle, occurs_cons, reduceCtorEq, false_and, false_or] at he
        rcases he with he | ⟨a', hp, heq, rfl⟩
        · exact ih.done he
        · cases heq
          have hs := hsat q
          rw [hp] at hs
          refine ⟨q, List.mem_cons_self, ?_⟩
          rw [localLog_start, hnil]
          exact hs
    | @stmt j o' k r' t hi ho =>
      have hlt := (List.getElem?_eq_some_iff.1 hi).1
      obtain ⟨q, hq, hs⟩ := ih.thread hi
      refine ⟨?_, ?_, ?_⟩
      · intro i p hp
        simp only [Pool.stmt, mem_settle, List.mem_cons, localLog_settle] at hp ⊢
        by_cases hij : j = i
        · subst hij
          rw [List.getElem?_set_self hlt] at hp
          cases hp
          exact ⟨q, Or.inl (Or.inr hq), by rw [localLog_stmt_self]; exact hs.2 r'⟩
        · rw [List.getElem?_set_ne hij] at hp
          obtain ⟨q', hq', hs'⟩ := ih.thread hp
          exact ⟨q', Or.inl (Or.inr hq'), by rw [localLog_stmt_ne hij]; exact hs'⟩
      · intro h i o r s s' he
        rcases occurs_stmt_stmt.1 he with ⟨heq, rfl⟩ | he
        · cases heq
          exact ⟨q, hq, hs.1⟩
        · exact ih.stmt he
      · intro h i a he
        simp only [Pool.stmt, occurs_settle, occurs_cons, reduceCtorEq, false_and, false_or] at he
        rcases he with he | ⟨a', hp, heq, rfl⟩
        · exact ih.done he
        · cases heq
          have hdone := hs.2 r'
          rw [hp] at hdone
          exact ⟨q, List.mem_cons_of_mem _ hq, by rw [localLog_stmt_self]; exact hdone⟩

/-- **Statement rule.**  At each statement of a run its request's assertion holds of the log. -/
theorem Reachable.at_stmt (hsat : ∀ q, Prog.Sat (P q) (Q q) [] (sys.handler q))
    (hc : sys.Reachable s₀ c) {h : History Op Ret Req α S} {i : ℕ} {o : Op} {r : Ret o} {s s' : S}
    (he : Occurs c.history h (.stmt i o r s s')) : ∃ q, .start i q ∈ h ∧ P q (localLog i h) o :=
  (hc.logged hsat).stmt he

/-- **Result rule.**  Each result of a run meets its request's assertion on the log. -/
theorem Reachable.at_done (hsat : ∀ q, Prog.Sat (P q) (Q q) [] (sys.handler q))
    (hc : sys.Reachable s₀ c) {h : History Op Ret Req α S} {i : ℕ} {a : α}
    (he : Occurs c.history h (.done i a)) : ∃ q, .start i q ∈ h ∧ Q q (localLog i h) a :=
  (hc.logged hsat).done he

/-- What a request does, it does after its start. -/
theorem Reachable.after_start (hc : sys.Reachable s₀ c) {i : ℕ} {q : Req} {o : Op} {r : Ret o}
    {s s' : S} {h h' : History Op Ret Req α S} (hi : Occurs c.history h (.start i q))
    (he : Occurs c.history h' (.stmt i o r s s')) : Occurs h' h (.start i q) := by
  have hany : ∀ (p : Prog Op Ret α) (log : Log Op Ret),
      Prog.Sat (fun _ _ => True) (fun _ _ => True) log p := by
    intro p
    induction p with
    | done a => exact fun _ => trivial
    | step o k ih => exact fun log => ⟨trivial, fun r => ih r _⟩
  obtain ⟨q', hq', -⟩ := hc.at_stmt (fun q => hany (sys.handler q) []) he
  rcases hi.total he with ⟨heq, -⟩ | hlt | hlt
  · cases heq
  · exact absurd (hlt.past.subset hq') (hc.start_once hi q')
  · exact hlt

end Logs

/-! ### The order of states -/

section Order

variable {M : S → S → Prop} (hrefl : ∀ s, M s s) (htrans : ∀ {s t u}, M s t → M t u → M s u)
  (htick : ∀ {s s'}, sys.tick s s' → M s s')

include hrefl htrans htick

/-- Where a preorder that no statement of the run leaves puts the states of the run. -/
theorem Reachable.order_of (hc : sys.Reachable s₀ c)
    (hstmt : ∀ {h i o r s s'}, Occurs c.history h (.stmt i o r s s') → M s s') : M s₀ c.state ∧
    ∀ {i o r s s'}, .stmt i o r s s' ∈ c.history → M s₀ s ∧ M s s' ∧ M s' c.state := by
  induction hc with
  | init => exact ⟨hrefl _, by simp [Pool.init]⟩
  | @step c c' _ hstep ih =>
    cases hstep with
    | tick ht =>
      obtain ⟨ih₀, ih⟩ := ih hstmt
      exact ⟨htrans ih₀ (htick ht), fun he => ⟨(ih he).1, (ih he).2.1, htrans (ih he).2.2 (htick ht)⟩⟩
    | start q =>
      obtain ⟨ih₀, ih⟩ := ih fun he => hstmt (occurs_stmt_start.2 he)
      refine ⟨ih₀, fun he => ?_⟩
      obtain ⟨h, hh⟩ := exists_occurs he
      exact ih (occurs_stmt_start.1 hh).mem
    | @stmt j o' k r' t hi ho =>
      obtain ⟨ih₀, ih⟩ := ih fun he => hstmt (occurs_stmt_stmt.2 (Or.inr he))
      have hnew : M c.state t := hstmt (occurs_stmt_stmt.2 (Or.inl ⟨rfl, rfl⟩))
      refine ⟨htrans ih₀ hnew, ?_⟩
      intro i o r s s' hm
      obtain ⟨h, he⟩ := exists_occurs hm
      rcases occurs_stmt_stmt.1 he with ⟨heq, -⟩ | he
      · cases heq
        exact ⟨ih₀, hnew, hrefl _⟩
      · have hs := ih he.mem
        exact ⟨hs.1, hs.2.1, htrans hs.2.2 hnew⟩

variable (hsem : ∀ {H i o s r s'}, sys.sem H i o s r s' → M s s')

include hsem

/-- Where a preorder that no step leaves puts the states of a run. -/
theorem Reachable.order (hc : sys.Reachable s₀ c) : M s₀ c.state ∧
    ∀ {i o r s s'}, .stmt i o r s s' ∈ c.history → M s₀ s ∧ M s s' ∧ M s' c.state :=
  hc.order_of hrefl htrans htick fun he => hsem (hc.sem_of_stmt he)

/-- The state after a statement comes before the state of every later statement. -/
theorem Reachable.ordered (hc : sys.Reachable s₀ c) {i j : ℕ} {o o' : Op} {r : Ret o} {r' : Ret o'}
    {s s' t t' : S} {h : History Op Ret Req α S} (he : Occurs c.history h (.stmt i o r s s'))
    (he' : .stmt j o' r' t t' ∈ h) : M t' s := by
  induction hc with
  | init => exact absurd he not_occurs_nil
  | @step c c' hreach hstep ih =>
    cases hstep with
    | tick ht => exact ih he
    | start q =>
      exact ih (occurs_stmt_start.1 he)
    | @stmt k o'' _ r'' t'' hi ho =>
      rcases occurs_stmt_stmt.1 he with ⟨heq, rfl⟩ | he
      · cases heq
        exact ((hreach.order hrefl htrans htick hsem).2 he').2.2
      · exact ih he

end Order

/-! ### Schedules -/

/-- The outcome of a request in a history. -/
def outcome (i : ℕ) : History Op Ret Req α S → Option α
  | [] => none
  | .done j a :: H => if j = i then some a else outcome i H
  | .start _ _ :: H => outcome i H
  | .stmt _ _ _ _ _ :: H => outcome i H

theorem done_mem_of_outcome {i : ℕ} {a : α} {H : History Op Ret Req α S} (h : outcome i H = some a) :
    .done i a ∈ H := by
  induction H with
  | nil => cases h
  | cons e H ih =>
    cases e with
    | start j q => exact List.mem_cons_of_mem _ (ih h)
    | stmt j o r s s' => exact List.mem_cons_of_mem _ (ih h)
    | done j b =>
      rw [outcome] at h
      split at h
      · next hj =>
        cases h
        rw [hj]
        exact List.mem_cons_self
      · exact List.mem_cons_of_mem _ (ih h)

/-- What request `i` has asked for. -/
def asked (i : ℕ) : History Op Ret Req α S → Option Req
  | [] => none
  | .start j q :: H => if j = i then some q else asked i H
  | .done _ _ :: H => asked i H
  | .stmt _ _ _ _ _ :: H => asked i H

theorem start_mem_of_asked {i : ℕ} {q : Req} {H : History Op Ret Req α S} (h : asked i H = some q) :
    .start i q ∈ H := by
  induction H with
  | nil => cases h
  | cons e H ih =>
    cases e with
    | done j a => exact List.mem_cons_of_mem _ (ih h)
    | stmt j o r s s' => exact List.mem_cons_of_mem _ (ih h)
    | start j q' =>
      rw [asked] at h
      split at h
      · next hj =>
        cases h
        rw [hj]
        exact List.mem_cons_self
      · exact List.mem_cons_of_mem _ (ih h)

theorem exists_asked {i : ℕ} {q : Req} {H : History Op Ret Req α S} (h : .start i q ∈ H) :
    ∃ q', asked i H = some q' := by
  induction H with
  | nil => cases h
  | cons e H ih =>
    rcases List.mem_cons.1 h with heq | h
    · subst heq
      exact ⟨q, if_pos rfl⟩
    · obtain ⟨q', hq'⟩ := ih h
      cases e with
      | done j a => exact ⟨q', hq'⟩
      | stmt j o r s s' => exact ⟨q', hq'⟩
      | start j q'' =>
        rw [asked]
        split
        · exact ⟨q'', rfl⟩
        · exact ⟨q', hq'⟩

/-- What a request of a run has asked for. -/
theorem asked_eq (hc : Numbered c) {i : ℕ} {q : Req} (h : .start i q ∈ c.history) :
    asked i c.history = some q := by
  obtain ⟨q', hq'⟩ := exists_asked h
  rw [hq', hc.start_unique h (start_mem_of_asked hq')]

/-- A move of a scheduler: start a request, or let one execute its next statement. -/
inductive Move (Req : Type) : Type
  | start (q : Req)
  | go (i : ℕ)

/-- Let request `i` execute its next `n` statements. -/
def goes (i n : ℕ) : List (Move Req) := List.replicate n (.go i)

/-- Play the moves of a schedule, executing statements with `exec`. -/
def play (handler : Req → Prog Op Ret α)
    (exec : History Op Ret Req α S → ℕ → (o : Op) → S → Option (Ret o × S)) :
    List (Move Req) → Pool Op Ret Req α S → Option (Pool Op Ret Req α S)
  | [], c => some c
  | .start q :: moves, c => play handler exec moves (c.start q (handler q))
  | .go i :: moves, c =>
    match c.threads[i]? with
    | some (.step o k) =>
      (exec c.history i o c.state).bind fun x =>
        play handler exec moves (c.stmt i o x.1 x.2 (k x.1))
    | _ => none

/-- A schedule that can be played leads to a reachable pool. -/
theorem Reachable.play {exec : History Op Ret Req α S → ℕ → (o : Op) → S → Option (Ret o × S)}
    (hsem : ∀ {H i o s r s'}, exec H i o s = some (r, s') → sys.sem H i o s r s')
    (hc : sys.Reachable s₀ c) {moves : List (Move Req)} {c' : Pool Op Ret Req α S}
    (h : System.play sys.handler exec moves c = some c') : sys.Reachable s₀ c' := by
  induction moves generalizing c with
  | nil =>
    cases h
    exact hc
  | cons m moves ih =>
    cases m with
    | start q => exact ih (hc.step (.start q)) h
    | go i =>
      rw [System.play] at h
      split at h
      · next o k hi =>
        obtain ⟨⟨r, s'⟩, ho, h⟩ := Option.bind_eq_some_iff.1 h
        exact ih (hc.step (.stmt hi (hsem ho))) h
      · cases h

end System

end Interaction
