import Mathlib.Tactic.Common
import Mathlib.Data.Nat.Notation
import Mathlib.Data.Int.Notation
import Mathlib.Data.List.Pairwise

/-!
# Tables with unique keys

* `Value`: what a column of a row holds;
* `Key α`: a `UNIQUE` (or `PRIMARY KEY`) constraint on rows of type `α`, with its name, the names of
  its columns and their values in a row.  As in SQL, rows with a `NULL` among these do not clash;
* `Table α keys`: a list of rows no two of which clash on any of the keys, so that a table that
  violates a constraint cannot be built;
* `insert` (the first key that refuses the row, in the order of `keys`, is reported: another row clashes
  with it, or its value does not fit into the index), `update`, `delete`.
-/

namespace Relational

/-- The value of a column. -/
inductive Value
  | null
  | uuid (n : ℕ)
  | text (s : String)
  | enum (s : String)
  | bool (b : Bool)
  | timestamp (t : ℤ)
  deriving DecidableEq

/-- A `UNIQUE` constraint. -/
structure Key (α : Type) where
  name : String
  columns : List String
  val : α → List Value

namespace Key

variable {α : Type}

/-- Two rows that a constraint forbids to coexist. -/
def Clash (k : Key α) (a b : α) : Prop := k.val a = k.val b ∧ .null ∉ k.val a

instance (k : Key α) (a b : α) : Decidable (k.Clash a b) :=
  inferInstanceAs (Decidable (_ ∧ _))

theorem Clash.symm {k : Key α} {a b : α} (h : k.Clash a b) : k.Clash b a :=
  ⟨h.1.symm, h.1 ▸ h.2⟩

end Key

/-- A table: rows that pairwise respect the keys. -/
@[ext] structure Table (α : Type) (keys : List (Key α)) where
  rows : List α
  distinct : ∀ k ∈ keys, rows.Pairwise fun a b => ¬ k.Clash a b

namespace Table

variable {α : Type} {keys : List (Key α)}

/-- The table without rows. -/
def empty : Table α keys := ⟨[], fun _ _ => List.Pairwise.nil⟩

@[simp] theorem rows_empty : (empty : Table α keys).rows = [] := rfl

/-- Rows that clash are the same row. -/
theorem eq_of_clash (t : Table α keys) {k : Key α} (hk : k ∈ keys) {a b : α} (ha : a ∈ t.rows)
    (hb : b ∈ t.rows) (h : k.Clash a b) : a = b := by
  by_contra hne
  have hsymm : Std.Symm fun a b => ¬ k.Clash a b := ⟨fun _ _ hab hba => hab hba.symm⟩
  exact (t.distinct k hk).forall ha hb hne h

/-! ### Insertion -/

/-- Why a row is refused. -/
inductive Refusal (α : Type)
  /-- Another row clashes with it. -/
  | duplicate (k : Key α)
  /-- Its value does not fit into the index of the key. -/
  | tooLarge (k : Key α)

/-- The first reason to refuse `a`, where `fits` says which values an index can hold. -/
def refusal (fits : List Value → Bool) (t : Table α keys) (a : α) : Option (Refusal α) :=
  keys.findSome? fun k =>
    if t.rows.any fun b => decide (k.Clash b a) then some (.duplicate k)
    else if fits (k.val a) then none else some (.tooLarge k)

variable {fits : List Value → Bool}

theorem refusal_eq_none {t : Table α keys} {a : α} :
    t.refusal fits a = none ↔ ∀ k ∈ keys, (∀ b ∈ t.rows, ¬ k.Clash b a) ∧ fits (k.val a) = true := by
  unfold refusal
  rw [List.findSome?_eq_none_iff]
  refine forall₂_congr fun k _ => ?_
  by_cases hclash : (t.rows.any fun b => decide (k.Clash b a)) = true
  · rw [if_pos hclash]
    simp only [reduceCtorEq, false_iff, not_and]
    intro hfree
    obtain ⟨b, hb, hkb⟩ := List.any_eq_true.1 hclash
    exact absurd (of_decide_eq_true hkb) (hfree b hb)
  · rw [if_neg hclash]
    have hfree : ∀ b ∈ t.rows, ¬ k.Clash b a := by simpa using hclash
    by_cases hfits : fits (k.val a) = true
    · simpa [hfits] using hfree
    · simp [hfits]

/-- A row that is not refused can be appended. -/
theorem distinct_append {t : Table α keys} {a : α} (h : t.refusal fits a = none) :
    ∀ k ∈ keys, (t.rows ++ [a]).Pairwise fun a b => ¬ k.Clash a b := by
  intro k hk
  rw [List.pairwise_append]
  refine ⟨t.distinct k hk, List.pairwise_singleton _ _, fun b hb c hc => ?_⟩
  rw [List.mem_singleton.1 hc]
  exact (refusal_eq_none.1 h k hk).1 b hb

/-- `INSERT`: append the row, or report why it is refused. -/
def insert (fits : List Value → Bool) (t : Table α keys) (a : α) : Except (Refusal α) (Table α keys) :=
  match h : t.refusal fits a with
  | some r => .error r
  | none => .ok ⟨t.rows ++ [a], distinct_append h⟩

theorem insert_of_refused {t : Table α keys} {a : α} {r : Refusal α} (h : t.refusal fits a = some r) :
    t.insert fits a = .error r := by
  unfold insert
  split
  · next r' h' => rw [Option.some.inj (h'.symm.trans h)]
  · next h' => exact absurd (h'.symm.trans h) (by simp)

theorem insert_of_not_refused {t : Table α keys} {a : α} (h : t.refusal fits a = none) :
    t.insert fits a = .ok ⟨t.rows ++ [a], distinct_append h⟩ := by
  unfold insert
  split
  · next r' h' => exact absurd (h'.symm.trans h) (by simp)
  · rfl

theorem insert_ok {t t' : Table α keys} {a : α} (h : t.insert fits a = .ok t') :
    t.refusal fits a = none ∧ t'.rows = t.rows ++ [a] := by
  cases hv : t.refusal fits a with
  | some r => rw [insert_of_refused hv] at h; cases h
  | none => rw [insert_of_not_refused hv] at h; cases h; exact ⟨rfl, rfl⟩

theorem insert_error {t : Table α keys} {a : α} {r : Refusal α} (h : t.insert fits a = .error r) :
    t.refusal fits a = some r := by
  cases hv : t.refusal fits a with
  | some r' => rw [insert_of_refused hv] at h; cases h; rfl
  | none => rw [insert_of_not_refused hv] at h; cases h

/-! ### Updates and deletions -/

/-- `UPDATE`: rewrite the rows that satisfy `p`, leaving all keys as they are. -/
def update (t : Table α keys) (p : α → Bool) (f : α → α)
    (hf : ∀ k ∈ keys, ∀ a, k.val (f a) = k.val a) : Table α keys where
  rows := t.rows.map fun a => if p a then f a else a
  distinct k hk := by
    have hval : ∀ a, k.val (if p a then f a else a) = k.val a := by
      intro a
      split
      · exact hf k hk a
      · rfl
    refine (List.pairwise_map).2 ((t.distinct k hk).imp ?_)
    intro a b hab hclash
    exact hab ⟨by rw [← hval a, ← hval b]; exact hclash.1, by rw [← hval a]; exact hclash.2⟩

section update

variable {t : Table α keys} {p : α → Bool} {f : α → α} {hf : ∀ k ∈ keys, ∀ a, k.val (f a) = k.val a}

@[simp] theorem rows_update :
    (t.update p f hf).rows = t.rows.map fun a => if p a then f a else a := rfl

theorem mem_update {b : α} :
    b ∈ (t.update p f hf).rows ↔ ∃ a ∈ t.rows, (if p a then f a else a) = b := by
  simp only [rows_update, List.mem_map]

end update

/-- `DELETE`: remove the rows that satisfy `p`. -/
def delete (t : Table α keys) (p : α → Bool) : Table α keys where
  rows := t.rows.filter fun a => !p a
  distinct k hk := (t.distinct k hk).filter _

@[simp] theorem rows_delete {t : Table α keys} {p : α → Bool} :
    (t.delete p).rows = t.rows.filter fun a => !p a := rfl

theorem mem_delete {t : Table α keys} {p : α → Bool} {a : α} :
    a ∈ (t.delete p).rows ↔ a ∈ t.rows ∧ p a = false := by
  simp

end Table

end Relational
