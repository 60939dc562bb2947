import Socle.Interaction.Prog

/-!
# Histories

What happened in a run of several programs over one shared state: requests that start, statements
that are executed with the state before and after each, requests that finish.  A history lists its
events with the latest first, so the tail behind an event is what happened before it.

* `Event`, `History`;
* `Occurs H h e`: the event `e` is in `H` and `h` is its past;
* `findPast p H`: the past of the latest event that satisfies `p`;
* `localLog i H`: the statements of request `i` with their responses.
-/

namespace Interaction

/-- What a run records.  Requests are numbered in the order in which they start. -/
inductive Event (Op : Type) (Ret : Op → Type) (Req α S : Type) : Type
  | start (i : ℕ) (q : Req)
  | stmt (i : ℕ) (o : Op) (r : Ret o) (s s' : S)
  | done (i : ℕ) (a : α)

/-- The events of a run, the latest first. -/
abbrev History (Op : Type) (Ret : Op → Type) (Req α S : Type) : Type :=
  List (Event Op Ret Req α S)

variable {Op : Type} {Ret : Op → Type} {Req α S : Type}

/-- `e` is an event of `H`, and `h` is what happened before it. -/
def Occurs (H h : History Op Ret Req α S) (e : Event Op Ret Req α S) : Prop := (e :: h) <:+ H

section Occurs

variable {H h h' : History Op Ret Req α S} {e e' : Event Op Ret Req α S}

theorem occurs_cons : Occurs (e' :: H) h e ↔ (e = e' ∧ h = H) ∨ Occurs H h e := by
  simp only [Occurs, List.suffix_cons_iff, List.cons.injEq]

theorem not_occurs_nil : ¬ Occurs ([] : History Op Ret Req α S) h e := by
  simp [Occurs, List.suffix_nil]

theorem occurs_self : Occurs (e :: H) H e := List.suffix_rfl

theorem Occurs.cons (he : Occurs H h e) : Occurs (e' :: H) h e := occurs_cons.2 (Or.inr he)

theorem Occurs.mem (he : Occurs H h e) : e ∈ H := he.subset List.mem_cons_self

theorem exists_occurs (he : e ∈ H) : ∃ h, Occurs H h e := by
  obtain ⟨l, h, rfl⟩ := List.append_of_mem he
  exact ⟨h, l, rfl⟩

/-- The past of an event is part of the history. -/
theorem Occurs.past (he : Occurs H h e) : h <:+ H := (List.suffix_cons e h).trans he

theorem Occurs.trans (he : Occurs H h e) (he' : Occurs h h' e') : Occurs H h' e' :=
  List.IsSuffix.trans he' he.past

theorem Occurs.of_suffix {H' : History Op Ret Req α S} (he : Occurs H h e) (hH : H <:+ H') :
    Occurs H' h e := List.IsSuffix.trans he hH

/-- Of two events of a history, one is in the past of the other, unless they are the same. -/
theorem Occurs.total (he : Occurs H h e) (he' : Occurs H h' e') :
    (e = e' ∧ h = h') ∨ Occurs h h' e' ∨ Occurs h' h e := by
  rcases List.suffix_or_suffix_of_suffix he he' with hle | hle
  · rcases List.suffix_cons_iff.1 hle with heq | hlt
    · exact Or.inl (List.cons.inj heq)
    · exact Or.inr (Or.inr hlt)
  · rcases List.suffix_cons_iff.1 hle with heq | hlt
    · exact Or.inl ⟨(List.cons.inj heq).1.symm, (List.cons.inj heq).2.symm⟩
    · exact Or.inr (Or.inl hlt)

/-- A past is that of one event. -/
theorem Occurs.unique (he : Occurs H h e) (he' : Occurs H h e') : e = e' := by
  have hle := List.suffix_of_suffix_length_le he he' (Nat.le_refl _)
  exact (List.cons.inj (hle.eq_of_length rfl)).1

end Occurs

/-- The past of the latest event that satisfies `p`. -/
def findPast (p : Event Op Ret Req α S → Bool) :
    History Op Ret Req α S → Option (History Op Ret Req α S)
  | [] => none
  | e :: H => if p e then some H else findPast p H

theorem occurs_of_findPast {p : Event Op Ret Req α S → Bool} {H h : History Op Ret Req α S}
    (hp : findPast p H = some h) : ∃ e, p e = true ∧ Occurs H h e := by
  induction H with
  | nil => cases hp
  | cons e H ih =>
    rw [findPast] at hp
    split at hp
    · next he =>
      cases hp
      exact ⟨e, he, occurs_self⟩
    · obtain ⟨e', he', hocc⟩ := ih hp
      exact ⟨e', he', hocc.cons⟩

/-- The statements of request `i` with their responses, the latest first. -/
def localLog (i : ℕ) : History Op Ret Req α S → Log Op Ret
  | [] => []
  | .stmt j o r _ _ :: H => if j = i then ⟨o, r⟩ :: localLog i H else localLog i H
  | .start _ _ :: H => localLog i H
  | .done _ _ :: H => localLog i H

section localLog

variable {i j : ℕ} {H : History Op Ret Req α S}

@[simp] theorem localLog_nil : localLog i ([] : History Op Ret Req α S) = [] := rfl

@[simp] theorem localLog_start {q : Req} : localLog i (.start j q :: H) = localLog i H := rfl

@[simp] theorem localLog_done {a : α} : localLog i (.done j a :: H) = localLog i H := rfl

@[simp] theorem localLog_stmt_self {o : Op} {r : Ret o} {s s' : S} :
    localLog i (.stmt i o r s s' :: H) = ⟨o, r⟩ :: localLog i H := if_pos rfl

theorem localLog_stmt_ne {o : Op} {r : Ret o} {s s' : S} (hj : j ≠ i) :
    localLog i (.stmt j o r s s' :: H) = localLog i H := if_neg hj

/-- A logged statement is an event of the history. -/
theorem exists_stmt_of_mem_localLog {o : Op} {r : Ret o} (hm : (⟨o, r⟩ : (o : Op) × Ret o) ∈ localLog i H) :
    ∃ s s', .stmt i o r s s' ∈ H := by
  induction H with
  | nil => cases hm
  | cons e H ih =>
    cases e with
    | start j q =>
      obtain ⟨s, s', h⟩ := ih hm
      exact ⟨s, s', List.mem_cons_of_mem _ h⟩
    | done j a =>
      obtain ⟨s, s', h⟩ := ih hm
      exact ⟨s, s', List.mem_cons_of_mem _ h⟩
    | stmt j o' r' t t' =>
      by_cases hj : j = i
      · subst hj
        rw [localLog_stmt_self] at hm
        rcases List.mem_cons.1 hm with heq | hm
        · cases heq
          exact ⟨t, t', List.mem_cons_self⟩
        · obtain ⟨s, s', h⟩ := ih hm
          exact ⟨s, s', List.mem_cons_of_mem _ h⟩
      · rw [localLog_stmt_ne hj] at hm
        obtain ⟨s, s', h⟩ := ih hm
        exact ⟨s, s', List.mem_cons_of_mem _ h⟩

/-- The past of a request's statement, in its log and in the history. -/
theorem exists_occurs_of_suffix {o : Op} {r : Ret o} {l : Log Op Ret}
    (hl : (⟨o, r⟩ :: l) <:+ localLog i H) :
    ∃ h s s', Occurs H h (.stmt i o r s s') ∧ localLog i h = l := by
  induction H with
  | nil => exact absurd (List.suffix_nil.1 hl) (List.cons_ne_nil _ _)
  | cons e H ih =>
    have hcons : ∀ {h s s'}, Occurs H h (.stmt i o r s s') ∧ localLog i h = l →
        ∃ h s s', Occurs (e :: H) h (.stmt i o r s s') ∧ localLog i h = l :=
      fun hh => ⟨_, _, _, hh.1.cons, hh.2⟩
    cases e with
    | start j q =>
      obtain ⟨h, s, s', hh⟩ := ih hl
      exact hcons hh
    | done j a =>
      obtain ⟨h, s, s', hh⟩ := ih hl
      exact hcons hh
    | stmt j o' r' t t' =>
      by_cases hj : j = i
      · subst hj
        rw [localLog_stmt_self] at hl
        rcases List.suffix_cons_iff.1 hl with heq | hl
        · cases heq
          exact ⟨H, t, t', occurs_self, rfl⟩
        · obtain ⟨h, s, s', hh⟩ := ih hl
          exact hcons hh
      · rw [localLog_stmt_ne hj] at hl
        obtain ⟨h, s, s', hh⟩ := ih hl
        exact hcons hh

/-- A request that executes nothing after `h` has the log it has in `h`. -/
theorem localLog_eq_of_suffix {h : History Op Ret Req α S} (hh : h <:+ H)
    (hnone : ∀ {h' o r s s'}, Occurs H h' (.stmt i o r s s') → Occurs h h' (.stmt i o r s s')) :
    localLog i H = localLog i h := by
  obtain ⟨l, rfl⟩ := hh
  induction l with
  | nil => rfl
  | cons e l ih =>
    have ih := ih fun hocc => hnone hocc.cons
    cases e with
    | start j q => exact ih
    | done j a => exact ih
    | stmt j o r s s' =>
      by_cases hj : j = i
      · subst hj
        have hlen : (l ++ h).length + 1 ≤ h.length := (hnone occurs_self).length_le
        rw [List.length_append] at hlen
        omega
      · rw [List.cons_append, localLog_stmt_ne hj]
        exact ih

/-- A log only grows. -/
theorem localLog_suffix {h : History Op Ret Req α S} (hh : h <:+ H) :
    localLog i h <:+ localLog i H := by
  obtain ⟨l, rfl⟩ := hh
  induction l with
  | nil => exact List.suffix_rfl
  | cons e l ih =>
    cases e with
    | start j q => exact ih
    | done j a => exact ih
    | stmt j o r s s' =>
      by_cases hj : j = i
      · subst hj
        rw [List.cons_append, localLog_stmt_self]
        exact ih.trans (List.suffix_cons _ _)
      · rw [List.cons_append, localLog_stmt_ne hj]
        exact ih

/-- An executed statement is in the log of its request. -/
theorem mem_localLog_of_stmt {o : Op} {r : Ret o} {s s' : S} (hm : .stmt i o r s s' ∈ H) :
    (⟨o, r⟩ : (o : Op) × Ret o) ∈ localLog i H := by
  induction H with
  | nil => cases hm
  | cons e H ih =>
    rcases List.mem_cons.1 hm with heq | hm
    · subst heq
      rw [localLog_stmt_self]
      exact List.mem_cons_self
    · have hrec := ih hm
      cases e with
      | start j q => exact hrec
      | done j a => exact hrec
      | stmt j o' r' t t' =>
        by_cases hj : j = i
        · subst hj
          rw [localLog_stmt_self]
          exact List.mem_cons_of_mem _ hrec
        · rw [localLog_stmt_ne hj]
          exact hrec

end localLog

end Interaction
